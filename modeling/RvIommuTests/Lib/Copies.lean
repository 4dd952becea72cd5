import RvIommuTests.Lib.Bytes

/-!
# Copies of ranges

The memory after some bytes have been copied from one range to another (`copy`). Bytes that are loaded behind what has been
copied, and stored behind where it has been copied to, make the copy longer, whatever their number (`store_copy`).
-/

namespace Bytes

/-- The memory after the first `k` bytes from `src` on have been copied to where `dest` points. -/
def copy (m : Mem) (dest src : Addr) (k : Nat) : Mem :=
  fun x => if (x - dest).toNat < k then m (src + (x - dest)) else m x

variable {m : Mem} {dest src : Addr} {n k i : Nat}

theorem copy_zero (m : Mem) (dest src : Addr) : copy m dest src 0 = m := by
  funext x
  exact if_neg (Nat.not_lt_zero _)

/-- The bytes that have been copied. -/
theorem copy_apply (hi : i < k) (hk : k ≤ 2 ^ 64) :
    copy m dest src k (dest + BitVec.ofNat 64 i) = m (src + BitVec.ofNat 64 i) := by
  have hoff : dest + BitVec.ofNat 64 i - dest = BitVec.ofNat 64 i := by
    rw [BitVec.add_comm, BitVec.add_sub_cancel]
  unfold copy
  rw [offset_toNat dest (Nat.lt_of_lt_of_le hi hk), if_pos hi, hoff]

/-- A byte outside of the destination of a copy is as it was. -/
theorem copy_outside {x : Addr} (hx : k ≤ (x - dest).toNat) : copy m dest src k x = m x :=
  if_neg (Nat.not_lt.2 hx)

/-- What is still to be copied is not among what has been written. -/
theorem copy_source (h : Apart dest n src n) (hk : k ≤ n) (hi : i < n) :
    copy m dest src k (src + BitVec.ofNat 64 i) = m (src + BitVec.ofNat 64 i) := by
  obtain ⟨h1, h2⟩ := h
  have hd := dest.isLt
  have hs := src.isLt
  apply copy_outside
  simp only [BitVec.toNat_sub, BitVec.toNat_add, BitVec.toNat_ofNat] at *
  omega

/-- A load within the destination of a copy gives what the same load within the source gave. -/
theorem load_copy (hi : i + n ≤ k) (hk : k ≤ 2 ^ 64) :
    load (copy m dest src k) n (dest + BitVec.ofNat 64 i) = load m n (src + BitVec.ofNat 64 i) := by
  apply BitVec.eq_of_getLsbD_eq
  intro j hj
  rw [getLsbD_load _ n _ j hj, getLsbD_load _ n _ j hj, BitVec.add_assoc, BitVec.add_assoc, ← BitVec.ofNat_add,
    copy_apply (by omega) hk]

theorem load_copy_self (hn : n ≤ k) (hk : k ≤ 2 ^ 64) : load (copy m dest src k) n dest = load m n src := by
  have h := @load_copy m dest src n k 0 (by omega) hk
  rwa [show BitVec.ofNat 64 0 = 0#64 from rfl, BitVec.add_zero, BitVec.add_zero] at h

/-- A load of a range apart from where bytes were copied to. -/
theorem load_copy_apart {b : Addr} (h : Apart dest k b n) : load (copy m dest src k) n b = load m n b := by
  obtain ⟨h1, h2⟩ := h
  apply load_congr
  intro i hi
  apply copy_outside
  have := dest.isLt
  have := b.isLt
  simp only [BitVec.toNat_sub, BitVec.toNat_add, BitVec.toNat_ofNat] at *
  omega

/-- Byte `i` of a loaded value is the byte at that offset in memory. -/
theorem extract_load (m : Mem) {n : Nat} (a : Addr) (hi : i < n) :
    (load m n a).extractLsb' (8 * i) 8 = m (a + BitVec.ofNat 64 i) := by
  apply BitVec.eq_of_getLsbD_eq
  intro j hj
  rw [BitVec.getLsbD_extractLsb', getLsbD_load m n a _ (by omega), decide_eq_true hj, Bool.true_and]
  rw [show (8 * i + j) / 8 = i by omega, show (8 * i + j) % 8 = j by omega]

/-- Loading `w` more bytes of the source and storing them extends a copy by these bytes, when the ranges are apart. -/
theorem store_copy {w : Nat} (h : Apart dest n src n) (hk : k + w ≤ n) (hn : n < 2 ^ 64) :
    store (copy m dest src k) w (dest + BitVec.ofNat 64 k) (load (copy m dest src k) w (src + BitVec.ofNat 64 k)) =
      copy m dest src (k + w) := by
  funext x
  have hoff : (x - (dest + BitVec.ofNat 64 k)).toNat =
      if k ≤ (x - dest).toNat then (x - dest).toNat - k else (x - dest).toNat + 2 ^ 64 - k := by
    have hx := x.isLt
    have hd := dest.isLt
    simp only [BitVec.toNat_sub, BitVec.toNat_add, BitVec.toNat_ofNat]
    split <;> omega
  have hx := (x - dest).isLt
  unfold store
  rw [hoff]
  by_cases hlo : k ≤ (x - dest).toNat
  · rw [if_pos hlo]
    by_cases hhi : (x - dest).toNat < k + w
    · -- the byte is among those stored now, and its source has not been written
      have hback : src + BitVec.ofNat 64 k + BitVec.ofNat 64 ((x - dest).toNat - k) = src + BitVec.ofNat 64 (x - dest).toNat := by
        rw [BitVec.add_assoc, ← BitVec.ofNat_add, Nat.add_sub_cancel' hlo]
      rw [if_pos (by omega), extract_load _ _ (by omega), hback, copy_source h (by omega) (by omega), BitVec.ofNat_toNat,
        BitVec.setWidth_eq]
      exact (if_pos hhi).symm
    · rw [if_neg (by omega), copy_outside hlo, copy_outside (by omega)]
  · rw [if_neg hlo, if_neg (by omega)]
    unfold copy
    rw [if_pos (by omega), if_pos (by omega)]

end Bytes
