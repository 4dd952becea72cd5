import Mathlib.Logic.Function.Basic
import RvIommuTests.TestBodies

/-!
# Transfers that lose beats

The devices as the data-transfer tests meet them when the DMA device may lose any of the beats of a transfer. Of the IOMMU nothing
is assumed but that it leaves the pages of the tests alone.
-/

namespace RvIommuTests

open Bytes Shared

/-- A transfer: how many beats of eight bytes it has, and which of them were copied. -/
structure Transfer where
  beats : Nat
  copied : Nat → Bool

/-- The memory, the DMA device, and the transfers it has made, oldest first. -/
structure Lossy where
  mem : Mem
  srcAddr : Word
  destAddr : Word
  numBytes : Word
  /-- The two pending bits of the device. -/
  ipsr : BitVec 2
  made : List Transfer

/-- The address of a doubleword of the pages of the tests. -/
def TestCell (a : Addr) : Prop :=
  a.toNat % 8 = 0 ∧ (testPpageBase .platform).toNat ≤ a.toNat ∧
    a.toNat < (testPpageBase .platform).toNat + testPageMax * pageSize

instance : DecidablePred TestCell := fun _ => inferInstanceAs (Decidable (_ ∧ _ ∧ _))

/-- The memory after the beats that are copied of a transfer: `n` of them are left, from the beat `i` on. -/
def copyBeats (copied : Nat → Bool) (src dst : Word) : Nat → Nat → Mem → Mem
  | 0, _, m => m
  | n + 1, i, m =>
    copyBeats copied src dst n (i + 1)
      (if copied i then store m 8 (dst + BitVec.ofNat 64 (8 * i)) (load m 8 (src + BitVec.ofNat 64 (8 * i))) else m)

namespace Lossy

/-- The number of beats of the next transfer. -/
def beats (s : Lossy) : Nat := s.numBytes.toNat / 8

/-- A write to a register of the DMA device. A bit of `ipsr` is cleared by writing one. -/
def write (s : Lossy) : IdmaReg → Word → Lossy
  | .srcAddr, v => { s with srcAddr := v }
  | .destAddr, v => { s with destAddr := v }
  | .numBytes, v => { s with numBytes := v }
  | .ipsr, v => { s with ipsr := s.ipsr &&& ~~~v.setWidth 2 }
  | _, _ => s

/-- After a transfer of which some beats were copied. -/
def transfer (s : Lossy) (copied : Nat → Bool) : Lossy :=
  { s with
    mem := copyBeats copied s.srcAddr s.destAddr s.beats 0 s.mem
    ipsr := 3#2
    made := s.made ++ [⟨s.beats, copied⟩] }

/-- Only the memory outside of the pages of the tests may differ. -/
structure Quiet (s s' : Lossy) : Prop where
  mem : ∀ a, TestCell a → load s'.mem 8 a = load s.mem 8 a
  rest : { s' with mem := s.mem } = s

/-- The devices. A read of `next_transfer_id` that is not answered with zero makes a transfer, and any of its beats are copied. -/
def world : World DevIo DevIo.Answer Lossy where
  sem
    | .queue (.read64 a), s, r, s' => r = load s.mem 8 a ∧ s' = s
    | .queue (.write64 a v), s, _, s' => s' = { s with mem := store s.mem 8 a v }
    | .idma (.write64 r v), s, _, s' => s' = s.write r v
    | .idma (.read64 .nextTransferId), s, r, s' => (r = 0#64 ∧ s' = s) ∨ (r ≠ 0#64 ∧ ∃ copied, s' = s.transfer copied)
    | .idma (.read64 .ipsr), s, r, s' => r = s.ipsr.setWidth 64 ∧ s' = s
    | .load32 a, s, r, s' => r = load s.mem 4 a ∧ s' = s
    | .store32 a v, s, _, s' => s' = { s with mem := store s.mem 4 a v }
    | _, s, _, s' => s.Quiet s'
  env := Quiet

/-- Devices of which the DMA device copies of its transfer `k` the beats `copied k`, at once. -/
def step (copied : Nat → Nat → Bool) : (i : DevIo) → Lossy → Option (i.Answer × Lossy)
  | .queue (.read64 a), s => some (load s.mem 8 a, s)
  | .queue (.write64 a v), s => some ((), { s with mem := store s.mem 8 a v })
  | .idma (.write64 r v), s => some ((), s.write r v)
  | .idma (.read64 .nextTransferId), s => some (1#64, s.transfer (copied s.made.length))
  | .idma (.read64 .lastTransferIdComplete), s => some (1#64, s)
  | .idma (.read64 .ipsr), s => some (s.ipsr.setWidth 64, s)
  | .setCtl64 _ _, s => some ((), s)
  | .setDc _, s => some ((), s)
  | _, _ => none

/-- Devices that have made no transfer. -/
def boot : Lossy where
  mem := fun _ => 0#8
  srcAddr := 0#64
  destAddr := 0#64
  numBytes := 0#64
  ipsr := 0#2
  made := []

end Lossy

/-! ## What the tests are to tell -/

/-- A beat was lost: the beat `i` of the transfer `k`. -/
def Lost (made : List Transfer) (k i : Nat) : Prop := ∃ t, made[k]? = some t ∧ i < t.beats ∧ t.copied i = false

/-- Every beat of every transfer was copied. -/
def AllCopied (made : List Transfer) : Prop := ∀ k i, ¬ Lost made k i

/-- Of all the beats, only the first one of the first transfer was lost. -/
def OnlyFirstLost (made : List Transfer) : Prop := ∀ k i, Lost made k i ↔ k = 0 ∧ i = 0

/-- The data-transfer tests. -/
inductive DataTest where
  | iommuBare | bothStagesBare
  /-- `idma_only`, for a setting of `IDMA_IRQ_EN`. -/
  | idmaOnly (idmaIrqEn : Bool)
  | idmaOnlyMultipleBeats

namespace DataTest

/-- The function of a test. -/
def fn (link : TestLink) : DataTest → TestFn
  | iommuBare => RvIommuTests.iommuBare link
  | bothStagesBare => RvIommuTests.bothStagesBare link
  | idmaOnly idmaIrqEn => RvIommuTests.idmaOnly idmaIrqEn
  | idmaOnlyMultipleBeats => RvIommuTests.idmaOnlyMultipleBeats

/-- The assertions of the tests that are about data: all but those about the interrupt of the DMA device. -/
def aboutData (test : String) : Bool :=
  test != "iDMA interrupt pending bits set" && test != "iDMA interrupt pending bits cleared after writing 1"

/-- All that was asserted about data was true. -/
def DataHolds (asserted : List (String × Bool)) : Prop := ∀ a ∈ asserted, aboutData a.1 = true → a.2 = true

/-- The test cannot see the first beat of its first transfer: what it copies is what the destination was cleared to, or its check
is overwritten before it is asserted. -/
def blind : DataTest → Bool
  | iommuBare => true
  | bothStagesBare => false
  | idmaOnly idmaIrqEn => idmaIrqEn
  | idmaOnlyMultipleBeats => true

end DataTest

end RvIommuTests
