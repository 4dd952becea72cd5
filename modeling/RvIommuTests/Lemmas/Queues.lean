import RvIommuTests.QueueEnv

/-!
# The addresses and the indices of the queues

The arithmetic of the driver on a queue that is aligned to a page and below `2 ^ 56`: the base register gives the placement
back, and the address formed by OR is the address of the entry.
-/

namespace RvIommuTests

open Bytes Fields Shared

namespace QueuesAux

/-! ## Base registers and indices -/

theorem getLsbD_qbPpnMask : ∀ i < 64, qbPpnMask.getLsbD i = decide (10 ≤ i ∧ i < 54) := by decide

theorem getLsbD_ppnMask : ∀ i < 64, ppnMask.getLsbD i = decide (12 ≤ i ∧ i < 56) := by decide

theorem getLsbD_log2Sz1 : ∀ i < 64, log2Sz1.getLsbD i = decide (i = 0 ∨ i = 2) := by decide

theorem getLsbD_qbOf (queue : Addr) {i : Nat} (hi : i < 64) :
    (qbOf queue).getLsbD i = (queue.getLsbD (2 + i) && decide (10 ≤ i ∧ i < 54) || decide (i = 0 ∨ i = 2)) := by
  unfold qbOf
  rw [BitVec.getLsbD_or, BitVec.getLsbD_and, BitVec.getLsbD_ushiftRight, getLsbD_qbPpnMask i hi,
    getLsbD_log2Sz1 i hi]

/-- The page number in a base register, whatever is in the ten bits below it, is that of the queue. -/
theorem queueBase_or {queue : Addr} (h : Placed queue) {y : Word} (hy : Fits y 10) :
    queueBase (((queue >>> 2) &&& qbPpnMask) ||| y) = queue := by
  apply BitVec.eq_of_getLsbD_eq
  intro i hi
  unfold queueBase
  rw [BitVec.getLsbD_shiftLeft]
  by_cases h12 : i < 12
  · rw [h.aligned.getLsbD h12]
    simp [h12]
  · by_cases h56 : i < 56
    · rw [BitVec.getLsbD_setWidth, BitVec.getLsbD_extractLsb', BitVec.getLsbD_or, BitVec.getLsbD_and,
        BitVec.getLsbD_ushiftRight, getLsbD_qbPpnMask (10 + (i - 12)) (by omega), hy.getLsbD (by omega : 10 ≤ 10 + (i - 12))]
      have h1 : 2 + (10 + (i - 12)) = i := by omega
      have h2 : 10 ≤ 10 + (i - 12) ∧ 10 + (i - 12) < 54 := by omega
      have h4 : i - 12 < 64 := by omega
      have h5 : i - 12 < 44 := by omega
      rw [h1, decide_eq_true h2]
      simp [hi, h12, h4, h5]
    · rw [h.fits.getLsbD (by omega : 56 ≤ i), BitVec.getLsbD_setWidth, BitVec.getLsbD_extractLsb']
      have h1 : ¬ i - 12 < 44 := by omega
      simp [h1]

/-- The base register that the driver writes gives the address of the queue back, as it is aligned and below `2 ^ 56`. -/
theorem queueBase_qbOf {queue : Addr} (h : Placed queue) : queueBase (qbOf queue) = queue := queueBase_or h (by decide)

/-- The base register that the driver writes has the size of the queue in it, so an index has six bits. -/
theorem indexMask_qbOf (queue : Addr) : indexMask (qbOf queue) = 63#32 := by
  have h : (qbOf queue).extractLsb' 0 5 = 5#5 := by
    apply BitVec.eq_of_getLsbD_eq
    intro i hi
    rw [BitVec.getLsbD_extractLsb', getLsbD_qbOf queue (by omega)]
    have h1 : ¬ (10 ≤ 0 + i ∧ 0 + i < 54) := by omega
    rw [decide_eq_false h1, Bool.and_false, Bool.false_or, decide_eq_true hi, Bool.true_and]
    revert i
    decide
  unfold indexMask
  rw [h]
  rfl

/-- Keeping the six bits of an index is the remainder by the 64 entries of the queue. -/
theorem toNat_and_63 (v : Word32) : (v &&& 63#32).toNat = v.toNat % 64 := by
  rw [BitVec.toNat_and, show (63#32).toNat = 2 ^ 6 - 1 from rfl, Nat.and_two_pow_sub_one_eq_mod]

/-- The index after another one, as the IOMMU and the driver compute it, wraps around behind 63. -/
theorem toNat_next (v : Word32) (h : v.toNat < 64) : ((v + 1#32) &&& 63#32).toNat = (v.toNat + 1) % 64 := by
  rw [toNat_and_63, BitVec.toNat_add, show (1#32).toNat = 1 from rfl, Nat.mod_eq_of_lt (by omega : v.toNat + 1 < 2 ^ 32)]

/-- The address the driver forms for an entry of `2 ^ k` bytes. -/
theorem entry_addr {queue : Addr} (h : Placed queue) {i : Word32} (hi : i.toNat < 64) {k : Nat} (hk : k ≤ 5) :
    (queue &&& ppnMask) ||| (i <<< k).setWidth 64 = queue + BitVec.ofNat 64 (2 ^ k * i.toNat) := by
  have h1 : 2 ^ k ≤ 2 ^ 5 := Nat.pow_le_pow_right (by decide) hk
  have h2 : 2 ^ k * i.toNat ≤ 2 ^ 5 * 63 := Nat.mul_le_mul h1 (by omega)
  have hs : ((i <<< k).setWidth 64).toNat = 2 ^ k * i.toNat := by
    rw [BitVec.toNat_setWidth, BitVec.toNat_shiftLeft, Nat.shiftLeft_eq, Nat.mul_comm,
      Nat.mod_eq_of_lt (by omega), Nat.mod_eq_of_lt (by omega)]
  have hq := h.fits
  unfold Fits at hq
  apply BitVec.eq_of_toNat_eq
  rw [and_mask_eq getLsbD_ppnMask h.aligned h.fits, toNat_or_of_aligned h.aligned (by unfold Fits; omega), hs,
    toNat_add_offset (by omega)]

end QueuesAux

end RvIommuTests
