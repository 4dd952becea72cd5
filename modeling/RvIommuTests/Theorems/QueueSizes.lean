import RvIommuTests.Lemmas.Queues
import RvIommuTests.QueueSizes

/-!
# The addresses of the entries of a queue

For which placements and sizes the driver and the IOMMU agree on where the entries of a queue are.
-/

namespace RvIommuTests

open Bytes Fields

namespace QueueSizesAux

open Queue QueuesAux

/-! ## Bits of an address -/

/-- A value without any bit below `n` is a multiple of `2 ^ n`. -/
theorem aligned_of_getLsbD {w : Nat} {x : BitVec w} {n : Nat} (h : ∀ i < n, x.getLsbD i = false) : Aligned x n := by
  unfold Aligned
  apply Nat.eq_of_testBit_eq
  intro i
  rw [Nat.testBit_mod_two_pow, Nat.zero_testBit]
  by_cases hi : i < n
  · rw [show x.toNat.testBit i = false from h i hi, Bool.and_false]
  · rw [decide_eq_false hi, Bool.false_and]

/-- The OR of a word with a bit that is set in it changes nothing. -/
theorem or_twoPow_self {w : Nat} {x : BitVec w} {i : Nat} (h : x.getLsbD i = true) : x ||| BitVec.twoPow w i = x := by
  apply BitVec.eq_of_getLsbD_eq
  intro j hj
  rw [BitVec.getLsbD_or, BitVec.getLsbD_twoPow]
  by_cases hij : i = j
  · rw [← hij, h, Bool.true_or]
  · rw [decide_eq_false hij, Bool.and_false, Bool.or_false]

/-! ## Entries -/

variable {q : Queue} {queue : Addr} {log2Sz1 : BitVec 5}

/-- An entry of either queue has 16 or 32 bytes, so an index is shifted by 4 or 5. -/
theorem shift_le (q : Queue) : 4 ≤ q.shift ∧ q.shift ≤ 5 := by
  cases q <;> decide

/-- The size of a buffer is that of its entries. -/
theorem bufferBytes_eq (q : Queue) (n : Nat) : q.bufferBytes n = 8 * (2 ^ q.shift * n) := by
  cases q <;> (simp only [bufferBytes, shift]; omega)

/-- A queue has an entry, whatever its size is set to. -/
theorem entries_pos (log2Sz1 : BitVec 5) : 0 < entries log2Sz1 := Nat.two_pow_pos _

/-- The buffer holds eight times as much as the entries. -/
theorem placed_of_buffer (halign : Aligned queue 12) (hbuf : queue.toNat + q.bufferBytes (entries log2Sz1) ≤ 2 ^ 56) :
    Placed queue := by
  have hpos := Nat.mul_pos (Nat.two_pow_pos q.shift) (entries_pos log2Sz1)
  rw [bufferBytes_eq] at hbuf
  refine ⟨halign, ?_⟩
  unfold Fits
  omega

/-- The mask that the driver applies to the base of a queue that is placed leaves it as it is. -/
theorem entryBase_eq (h : Placed queue) (i : Word32) : q.entryBase queue i = queue ||| (i <<< q.shift).setWidth 64 := by
  rw [entryBase, and_mask_eq getLsbD_ppnMask h.aligned h.fits]

/-- Where the IOMMU finds an entry of a queue that is placed. -/
theorem iommuEntry_eq (h : Placed queue) (i : Nat) :
    q.iommuEntry (baseRegister queue log2Sz1) i = queue + BitVec.ofNat 64 (2 ^ q.shift * i) := by
  have hfits : Fits (log2Sz1.setWidth 64) 10 := by
    have := log2Sz1.isLt
    unfold Fits
    rw [BitVec.toNat_setWidth]
    omega
  rw [iommuEntry, baseRegister, queueBase_or h hfits]

/-- `rv_iommu_write_command_in_queue` writes to the entry that the driver computes for `cqt`. -/
theorem writeCommand_entryBase (link : Link) (newCmd : Command) :
    rvIommuWriteCommandInQueue link newCmd = (do
      let cqt ← read32 .cqt
      write64 (command.entryBase link.commandQueue cqt) newCmd.dw0
      write64 (command.entryBase link.commandQueue cqt + 8#64) newCmd.dw1
      write32 .cqt (cqt + 1#32)) := rfl

/-- `rv_iommu_fq_read_record` reads the entry that the driver computes for `fqh`. -/
theorem readRecord_entryBase (link : Link) (buf : Record) :
    rvIommuFqReadRecord link buf = (do
      let fqh ← read32 .fqh
      let fqt ← read32 .fqt
      if fqh ≠ fqt then
        let dw0 ← read64 (fault.entryBase link.faultQueue fqh + 0#64)
        let dw1 ← read64 (fault.entryBase link.faultQueue fqh + 8#64)
        let dw2 ← read64 (fault.entryBase link.faultQueue fqh + 16#64)
        let dw3 ← read64 (fault.entryBase link.faultQueue fqh + 24#64)
        write32 .fqh (fqh + 1#32)
        pure (0, { dw0 := dw0, dw1 := dw1, dw2 := dw2, dw3 := dw3 })
      else
        pure (-1, buf)) := rfl

/-- With the size of the build a queue has 64 entries and the base register that the driver writes. -/
theorem baseRegister_build (queue : Addr) : baseRegister queue 5#5 = qbOf queue ∧ entries 5#5 = nEntries := ⟨rfl, rfl⟩

/-- The offset of an entry, as long as the shift stays within 32 bits. -/
theorem toNat_offset (i : Word32) (s : Nat) : ((i <<< s).setWidth 64).toNat = 2 ^ s * i.toNat % 2 ^ 32 := by
  rw [BitVec.toNat_setWidth, BitVec.toNat_shiftLeft, Nat.shiftLeft_eq, Nat.mul_comm]
  omega

/-- A queue that is aligned to its size, and whose offsets fit, has its entries where they belong. -/
theorem entryBase_sum (h : Placed queue) (hfit : log2Sz1.toNat + 1 + q.shift ≤ 32)
    (hsize : Aligned queue (log2Sz1.toNat + 1 + q.shift)) {i : Word32} (hi : i.toNat < entries log2Sz1) :
    (q.entryBase queue i).toNat = queue.toNat + 2 ^ q.shift * i.toNat := by
  have hlt : 2 ^ q.shift * i.toNat < 2 ^ (log2Sz1.toNat + 1 + q.shift) := by
    rw [Nat.add_comm, Nat.pow_add]
    exact Nat.mul_lt_mul_of_pos_left hi (Nat.two_pow_pos q.shift)
  have hpow : 2 ^ (log2Sz1.toNat + 1 + q.shift) ≤ 2 ^ 32 := Nat.pow_le_pow_right (by decide) hfit
  have hoff : ((i <<< q.shift).setWidth 64).toNat = 2 ^ q.shift * i.toNat := by
    rw [toNat_offset, Nat.mod_eq_of_lt (by omega)]
  rw [entryBase_eq h, toNat_or_of_aligned hsize (by unfold Fits; omega), hoff]

/-- When the number of entries is too large for the shift, the entry whose index is shifted out of the word is computed to be at the
base. -/
theorem shift_fits (h : Placed queue) (hs : ∀ i : Word32, i.toNat < entries log2Sz1 →
    (q.entryBase queue i).toNat = queue.toNat + 2 ^ q.shift * i.toNat) : log2Sz1.toNat + 1 + q.shift ≤ 32 := by
  by_contra hover
  obtain ⟨hs4, hs5⟩ := shift_le q
  have hi : (BitVec.ofNat 32 (2 ^ (32 - q.shift))).toNat = 2 ^ (32 - q.shift) := by
    rw [BitVec.toNat_ofNat]
    exact Nat.mod_eq_of_lt (Nat.pow_lt_pow_right (by decide) (by omega))
  have hmul : 2 ^ q.shift * 2 ^ (32 - q.shift) = 2 ^ 32 := by
    rw [← Nat.pow_add]
    congr 1
    omega
  have hzero : (BitVec.ofNat 32 (2 ^ (32 - q.shift)) <<< q.shift).setWidth 64 = 0#64 := by
    apply BitVec.eq_of_toNat_eq
    rw [toNat_offset, hi, hmul]
    rfl
  have hsum := hs (BitVec.ofNat 32 (2 ^ (32 - q.shift))) (by
    rw [hi]
    exact Nat.pow_lt_pow_right (by decide) (by omega))
  rw [entryBase_eq h, hzero, BitVec.or_zero, hi, hmul] at hsum
  omega

/-- A bit of the base that an offset has too is lost. -/
theorem base_aligned (h : Placed queue) (hfit : log2Sz1.toNat + 1 + q.shift ≤ 32)
    (hs : ∀ i : Word32, i.toNat < entries log2Sz1 → (q.entryBase queue i).toNat = queue.toNat + 2 ^ q.shift * i.toNat) :
    Aligned queue (log2Sz1.toNat + 1 + q.shift) := by
  obtain ⟨hs4, hs5⟩ := shift_le q
  apply aligned_of_getLsbD
  intro j hj
  by_cases h12 : j < 12
  · exact h.aligned.getLsbD h12
  · by_contra hbit
    have hi : (BitVec.ofNat 32 (2 ^ (j - q.shift))).toNat = 2 ^ (j - q.shift) := by
      rw [BitVec.toNat_ofNat]
      exact Nat.mod_eq_of_lt (Nat.pow_lt_pow_right (by decide) (by omega))
    have hmul : 2 ^ q.shift * 2 ^ (j - q.shift) = 2 ^ j := by
      rw [← Nat.pow_add]
      congr 1
      omega
    have hoff : (BitVec.ofNat 32 (2 ^ (j - q.shift)) <<< q.shift).setWidth 64 = BitVec.twoPow 64 j := by
      apply BitVec.eq_of_toNat_eq
      rw [toNat_offset, hi, hmul, BitVec.toNat_twoPow, Nat.mod_eq_of_lt (Nat.pow_lt_pow_right (by decide) (by omega)),
        Nat.mod_eq_of_lt (Nat.pow_lt_pow_right (by decide) (by omega))]
    have hsum := hs (BitVec.ofNat 32 (2 ^ (j - q.shift))) (by
      rw [hi]
      exact Nat.pow_lt_pow_right (by decide) (by omega))
    rw [entryBase_eq h, hoff, or_twoPow_self (by simpa using hbit), hi, hmul] at hsum
    have := Nat.two_pow_pos j
    omega

end QueueSizesAux

open Queue QueueSizesAux

/-- For every size and every page-aligned buffer below `2 ^ 56`: the addresses of all entries are right exactly if the shifted
indices fit in 32 bits, and the buffer is aligned to the size of the queue. -/
theorem entries_right_iff (q : Queue) (queue : Addr) (log2Sz1 : BitVec 5) (halign : Aligned queue 12)
    (hbuf : queue.toNat + q.bufferBytes (entries log2Sz1) ≤ 2 ^ 56) :
    q.EntriesRight queue log2Sz1 ↔
      2 ^ q.shift * entries log2Sz1 ≤ 2 ^ 32 ∧ 2 ^ q.shift * entries log2Sz1 ∣ queue.toNat := by
  have hplaced := placed_of_buffer halign hbuf
  have hsize : 2 ^ q.shift * entries log2Sz1 = 2 ^ (log2Sz1.toNat + 1 + q.shift) := by
    rw [entries, ← Nat.pow_add, Nat.add_comm]
  rw [hsize]
  constructor
  · intro h
    have hfit := shift_fits hplaced h.sum
    exact ⟨Nat.pow_le_pow_right (by decide) hfit, Nat.dvd_of_mod_eq_zero (base_aligned hplaced hfit h.sum)⟩
  · rintro ⟨hfit, hdvd⟩
    have hfit' : log2Sz1.toNat + 1 + q.shift ≤ 32 := (Nat.pow_le_pow_iff_right (by decide)).1 hfit
    have hsum := fun i hi => @entryBase_sum q queue log2Sz1 hplaced hfit' (Nat.mod_eq_zero_of_dvd hdvd) i hi
    rw [bufferBytes_eq] at hbuf
    refine ⟨?_, hsum, ?_, ?_⟩
    · intro i hi
      have hlt := Nat.mul_lt_mul_of_pos_left hi (Nat.two_pow_pos q.shift)
      rw [iommuEntry_eq hplaced]
      apply BitVec.eq_of_toNat_eq
      rw [hsum i hi, toNat_add_offset (by omega)]
    · intro i hi
      have hle := Nat.mul_le_mul_left (2 ^ q.shift) (Nat.succ_le_of_lt hi)
      rw [Nat.mul_succ] at hle
      rw [hsum i hi, bufferBytes_eq]
      omega
    · intro i j hi hj hij
      have hsame := congrArg BitVec.toNat hij
      rw [hsum i hi, hsum j hj] at hsame
      exact BitVec.eq_of_toNat_eq (Nat.eq_of_mul_eq_mul_left (Nat.two_pow_pos q.shift) (by omega))

/-- The theorem at the command queue of the build. -/
theorem entries_right_at : command.EntriesRight Link.compact.commandQueue 5#5 :=
  (entries_right_iff command Link.compact.commandQueue 5#5 (by decide) (by decide)).2 (by decide)

/-- A command queue of 512 entries at a page that is not aligned to 8 kiB: the driver stores the commands 0 and 256 at the same
address. -/
theorem entries_collide :
    Aligned (0x80011000#64 : Addr) 12 ∧ (0x80011000#64 : Addr).toNat + command.bufferBytes (entries 8#5) ≤ 2 ^ 56 ∧
      command.entryBase 0x80011000#64 256#32 = command.entryBase 0x80011000#64 0#32 ∧
      ¬ command.EntriesRight 0x80011000#64 8#5 := by
  refine ⟨by decide, by decide, by decide, ?_⟩
  intro h
  exact absurd (h.distinct 256#32 0#32 (by decide) (by decide) (by decide)) (by decide)

end RvIommuTests
