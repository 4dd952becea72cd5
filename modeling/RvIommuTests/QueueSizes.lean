import RvIommuTests.Queues

/-!
# Queues of any size

The addresses of the entries of a queue of `N` entries, for every `N` that the size field of its base register can hold: those that
the driver computes, and those where the IOMMU finds the entries. The build has `N = 64` for both queues.
-/

namespace RvIommuTests

open Bytes

/-- One of the two queues. -/
inductive Queue where
  | command | fault

namespace Queue

/-- The driver shifts an index by this much: an entry has 16 or 32 bytes. -/
def shift : Queue → Nat
  | command => 4
  | fault => 5

/-- `CQ_N_ENTRIES`, `FQ_N_ENTRIES`: a power of two, with `CQ_LOG2SZ_1`, `FQ_LOG2SZ_1` in the five bits of its field. -/
def entries (log2Sz1 : BitVec 5) : Nat := 2 ^ (log2Sz1.toNat + 1)

/-- The size of `command_queue[CQ_N_ENTRIES * 2 * sizeof(uint64_t)]` or of `fault_queue[FQ_N_ENTRIES * 4 * sizeof(uint64_t)]`, in
bytes. Their elements have eight bytes each. -/
def bufferBytes (nEntries : Nat) : Queue → Nat
  | command => nEntries * 2 * 8 * 8
  | fault => nEntries * 4 * 8 * 8

/-- What `rv_iommu_cq_init` or `rv_iommu_fq_init` programs in the base register. -/
def baseRegister (queue : Addr) (log2Sz1 : BitVec 5) : Word := ((queue >>> 2) &&& qbPpnMask) ||| log2Sz1.setWidth 64

/-- `cq_entry_base`, `fq_entry_base`. The index is shifted as a word of 32 bits. -/
def entryBase (q : Queue) (queue : Addr) (i : Word32) : Addr := (queue &&& ppnMask) ||| (i <<< q.shift).setWidth 64

/-- Where the IOMMU finds an entry, from the base register. -/
def iommuEntry (q : Queue) (qb : Word) (i : Nat) : Addr := queueBase qb + BitVec.ofNat 64 (2 ^ q.shift * i)

/-- For each index of the queue the driver computes the address where the IOMMU finds the entry, the base and the index times the
size of an entry. The entry is inside of the buffer, and no other index has its address. -/
structure EntriesRight (q : Queue) (queue : Addr) (log2Sz1 : BitVec 5) : Prop where
  iommu : ∀ i : Word32, i.toNat < entries log2Sz1 → q.entryBase queue i = q.iommuEntry (baseRegister queue log2Sz1) i.toNat
  sum : ∀ i : Word32, i.toNat < entries log2Sz1 → (q.entryBase queue i).toNat = queue.toNat + 2 ^ q.shift * i.toNat
  inside : ∀ i : Word32, i.toNat < entries log2Sz1 →
    queue.toNat ≤ (q.entryBase queue i).toNat ∧
      (q.entryBase queue i).toNat + 2 ^ q.shift ≤ queue.toNat + q.bufferBytes (entries log2Sz1)
  distinct : ∀ i j : Word32, i.toNat < entries log2Sz1 → j.toNat < entries log2Sz1 →
    q.entryBase queue i = q.entryBase queue j → i = j

end Queue

end RvIommuTests
