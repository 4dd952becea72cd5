import Mathlib.Algebra.Group.Nat.Defs
import Mathlib.Tactic.Common

/-!
# Bit fields of a machine word

A field is `x.extractLsb' lo len`. Words are built by OR of shifted values: a field reads back the value shifted to its own
offset when the value fits, and zero from a value shifted elsewhere. Where the parts share no bit, OR is addition.
-/

namespace Fields

variable {w : Nat}

/-- The value fits in `n` bits. -/
def Fits (x : BitVec w) (n : Nat) : Prop := x.toNat < 2 ^ n

instance (x : BitVec w) (n : Nat) : Decidable (Fits x n) := inferInstanceAs (Decidable (x.toNat < 2 ^ n))

/-- A value that fits in `n` bits has no bit from `n` on. -/
theorem Fits.getLsbD {x : BitVec w} {n i : Nat} (h : Fits x n) (hi : n ≤ i) : x.getLsbD i = false :=
  Nat.testBit_lt_two_pow (Nat.lt_of_lt_of_le h (Nat.pow_le_pow_right (by decide) hi))

/-- The value is a multiple of `2 ^ n`. -/
def Aligned (x : BitVec w) (n : Nat) : Prop := x.toNat % 2 ^ n = 0

instance (x : BitVec w) (n : Nat) : Decidable (Aligned x n) := inferInstanceAs (Decidable (x.toNat % 2 ^ n = 0))

/-- A multiple of `2 ^ n` has no bit below `n`. -/
theorem Aligned.getLsbD {x : BitVec w} {n i : Nat} (h : Aligned x n) (hi : i < n) : x.getLsbD i = false := by
  have h1 := Nat.testBit_mod_two_pow x.toNat n i
  rw [h] at h1
  simpa [hi, BitVec.getLsbD] using h1.symm

/-- A multiple of a power of two is one of the lower powers. -/
theorem Aligned.mono {x : BitVec w} {n m : Nat} (h : Aligned x n) (hm : m ≤ n) : Aligned x m := by
  obtain ⟨k, hk⟩ := Nat.dvd_of_mod_eq_zero h
  refine Nat.mod_eq_zero_of_dvd (Nat.dvd_trans (Nat.pow_dvd_pow 2 hm) ⟨k, hk⟩)

/-- A value is aligned when it has none of the bits below. -/
theorem and_ones_eq_zero_iff {x : BitVec w} {n : Nat} (hn : n < w) : x &&& BitVec.ofNat w (2 ^ n - 1) = 0#w ↔ Aligned x n := by
  have hlt : 2 ^ n - 1 < 2 ^ w := Nat.lt_of_le_of_lt (Nat.sub_le _ _) (Nat.pow_lt_pow_right (by decide) hn)
  rw [← BitVec.toNat_inj, BitVec.toNat_and, BitVec.toNat_ofNat, Nat.mod_eq_of_lt hlt, Nat.and_two_pow_sub_one_eq_mod,
    BitVec.toNat_zero]
  exact Iff.rfl

/-- The OR of two values is aligned exactly when both of them are. -/
theorem aligned_or_iff {x y : BitVec w} {n : Nat} : Aligned (x ||| y) n ↔ Aligned x n ∧ Aligned y n := by
  unfold Aligned
  rw [BitVec.toNat_or, Nat.or_mod_two_pow, Nat.or_eq_zero_iff]

/-! ## Fields of shifted values -/

/-- The field a value was shifted to holds the value. -/
theorem extract_shiftLeft_self {x : BitVec w} {s n : Nat} (h : s + n ≤ w) :
    (x <<< s).extractLsb' s n = x.setWidth n := by
  apply BitVec.eq_of_getLsbD_eq
  intro i hi
  simp only [BitVec.getLsbD_extractLsb', BitVec.getLsbD_shiftLeft, BitVec.getLsbD_setWidth, hi, decide_true, Bool.true_and]
  rw [show s + i - s = i by omega]
  have h1 : s + i < w := by omega
  have h2 : ¬ s + i < s := by omega
  simp [h1, h2]

/-- A field below the offset a value was shifted to is zero. -/
theorem extract_shiftLeft_below {x : BitVec w} {s lo n : Nat} (h : lo + n ≤ s) : (x <<< s).extractLsb' lo n = 0#n := by
  apply BitVec.eq_of_getLsbD_eq
  intro i hi
  have h1 : lo + i < s := by omega
  simp [h1]

/-- A field above the bits of a shifted value is zero. -/
theorem extract_shiftLeft_above {x : BitVec w} {s k lo n : Nat} (hx : Fits x k) (h : s + k ≤ lo) :
    (x <<< s).extractLsb' lo n = 0#n := by
  apply BitVec.eq_of_getLsbD_eq
  intro i hi
  simp only [BitVec.getLsbD_extractLsb', BitVec.getLsbD_shiftLeft, BitVec.getLsbD_zero]
  rw [hx.getLsbD (show k ≤ lo + i - s by omega)]
  simp

/-- A field above the bits of a value is zero. -/
theorem Fits.extract_above {x : BitVec w} {k lo n : Nat} (hx : Fits x k) (h : k ≤ lo) : x.extractLsb' lo n = 0#n := by
  have h0 := extract_shiftLeft_above (s := 0) (n := n) hx (by omega : 0 + k ≤ lo)
  rwa [BitVec.shiftLeft_zero] at h0

/-- A field below the bits of an aligned value is zero. -/
theorem Aligned.extract_below {x : BitVec w} {k lo n : Nat} (hx : Aligned x k) (h : lo + n ≤ k) : x.extractLsb' lo n = 0#n := by
  apply BitVec.eq_of_getLsbD_eq
  intro i hi
  rw [BitVec.getLsbD_extractLsb', hx.getLsbD (by omega), Bool.and_false, BitVec.getLsbD_zero]

/-- Narrowing a value that fits and widening it again loses nothing. -/
theorem Fits.setWidth_setWidth {x : BitVec w} {n : Nat} (hx : Fits x n) : (x.setWidth n).setWidth w = x := by
  apply BitVec.eq_of_toNat_eq
  rw [BitVec.toNat_setWidth, BitVec.toNat_setWidth, Nat.mod_eq_of_lt hx, Nat.mod_eq_of_lt x.isLt]

/-- A right shift leaves only as many bits as there were above the shift. -/
theorem fits_ushiftRight (x : BitVec w) {s n : Nat} (h : w ≤ s + n) : Fits (x >>> s) n := by
  unfold Fits
  rw [BitVec.toNat_ushiftRight, Nat.shiftRight_eq_div_pow, Nat.div_lt_iff_lt_mul (Nat.two_pow_pos s), ← Nat.pow_add,
    Nat.add_comm]
  exact Nat.lt_of_lt_of_le x.isLt (Nat.pow_le_pow_right (by decide) h)

/-- The low bits of a sign-extended word are the word itself. -/
theorem setWidth_signExtend (x : BitVec w) {v : Nat} (h : w ≤ v) : (x.signExtend v).setWidth w = x := by
  apply BitVec.eq_of_getLsbD_eq
  intro i hi
  rw [BitVec.getLsbD_setWidth, BitVec.getLsbD_signExtend, decide_eq_true hi, decide_eq_true (Nat.lt_of_lt_of_le hi h),
    if_pos hi, Bool.true_and, Bool.true_and]

/-! ## Single bits -/

/-- The word with one bit set or cleared. -/
def writeBit (x : BitVec w) (k : Nat) (b : Bool) : BitVec w := if b then x ||| 1#w <<< k else x &&& ~~~(1#w <<< k)

/-- The word of one bit. -/
theorem getLsbD_one_shiftLeft {k : Nat} (hk : k < w) (i : Nat) : (1#w <<< k).getLsbD i = decide (i = k) := by
  rw [BitVec.getLsbD_shiftLeft, BitVec.getLsbD_one]
  rcases Nat.lt_trichotomy i k with h | rfl | h
  · simp [h, Nat.ne_of_lt h]
  · have hw : 0 < w := by omega
    simp [hk, hw]
  · have h1 : i - k ≠ 0 := by omega
    simp [h1, Nat.ne_of_gt h]

/-- Writing a bit of a word changes this bit and no other. -/
theorem getLsbD_writeBit {x : BitVec w} {k : Nat} (hk : k < w) (b : Bool) (i : Nat) :
    (writeBit x k b).getLsbD i = if i = k then b else x.getLsbD i := by
  unfold writeBit
  cases b with
  | true =>
    rw [if_pos rfl, BitVec.getLsbD_or, getLsbD_one_shiftLeft hk]
    by_cases h : i = k
    · rw [decide_eq_true h, if_pos h, Bool.or_true]
    · rw [decide_eq_false h, if_neg h, Bool.or_false]
  | false =>
    rw [if_neg Bool.false_ne_true, BitVec.getLsbD_and, BitVec.getLsbD_not, getLsbD_one_shiftLeft hk]
    by_cases h : i = k
    · rw [decide_eq_true h, if_pos h, Bool.not_true, Bool.and_false, Bool.and_false]
    · rw [decide_eq_false h, if_neg h, Bool.not_false, Bool.and_true]
      by_cases hi : i < w
      · rw [decide_eq_true hi, Bool.and_true]
      · rw [BitVec.getLsbD_of_ge x i (by omega), Bool.false_and]

/-- Writing a bit leaves the fields that it is not in. -/
theorem extract_writeBit {x : BitVec w} {k lo n : Nat} (hk : k < w) (h : k < lo ∨ lo + n ≤ k) (b : Bool) :
    (writeBit x k b).extractLsb' lo n = x.extractLsb' lo n := by
  apply BitVec.eq_of_getLsbD_eq
  intro i hi
  rw [BitVec.getLsbD_extractLsb', BitVec.getLsbD_extractLsb', getLsbD_writeBit hk, if_neg (by omega)]

/-- Writing a bit leaves what a mask without it keeps. -/
theorem and_writeBit {x mask : BitVec w} {k : Nat} (hk : k < w) (hm : mask.getLsbD k = false) (b : Bool) :
    writeBit x k b &&& mask = x &&& mask := by
  apply BitVec.eq_of_getLsbD_eq
  intro i hi
  rw [BitVec.getLsbD_and, BitVec.getLsbD_and, getLsbD_writeBit hk]
  by_cases h : i = k
  · rw [h, hm, Bool.and_false, Bool.and_false]
  · rw [if_neg h]

/-! ## OR as addition -/

/-- The OR of an aligned value with bits below its alignment is their sum. -/
theorem toNat_or_of_aligned {x y : BitVec w} {n : Nat} (hx : Aligned x n) (hy : Fits y n) :
    (x ||| y).toNat = x.toNat + y.toNat := by
  have hd : x.toNat = 2 ^ n * (x.toNat / 2 ^ n) := by
    have := Nat.div_add_mod x.toNat (2 ^ n)
    rw [hx] at this
    omega
  rw [BitVec.toNat_or, hd, ← Nat.two_pow_add_eq_or_of_lt hy]

/-- Masking with the bits from `lo` up to `hi` keeps a value that has only those. -/
theorem and_mask_eq {x mask : BitVec w} {lo hi : Nat} (hm : ∀ i < w, mask.getLsbD i = decide (lo ≤ i ∧ i < hi))
    (hlo : Aligned x lo) (hhi : Fits x hi) : x &&& mask = x := by
  apply BitVec.eq_of_getLsbD_eq
  intro i hi'
  rw [BitVec.getLsbD_and, hm i hi']
  by_cases h1 : i < lo
  · rw [hlo.getLsbD h1]
    rfl
  · by_cases h2 : i < hi
    · have h3 : lo ≤ i ∧ i < hi := ⟨by omega, h2⟩
      rw [decide_eq_true h3, Bool.and_true]
    · rw [hhi.getLsbD (by omega : hi ≤ i)]
      rfl

/-! ## Fields of shifted addresses -/

/-- A right shift of an aligned value takes its alignment down by the shift. -/
theorem Aligned.ushiftRight {x : BitVec w} {n s : Nat} (h : Aligned x n) (hs : s ≤ n) : Aligned (x >>> s) (n - s) := by
  unfold Aligned at h ⊢
  rw [BitVec.toNat_ushiftRight, Nat.shiftRight_eq_div_pow, Nat.mod_eq_zero_of_dvd]
  obtain ⟨k, hk⟩ := Nat.dvd_of_mod_eq_zero h
  refine ⟨k, ?_⟩
  rw [hk, ← Nat.sub_add_cancel hs, Nat.pow_add, Nat.add_sub_cancel, Nat.mul_right_comm, Nat.mul_div_cancel _ (Nat.two_pow_pos s)]

theorem Fits.ushiftRight {x : BitVec w} {n s : Nat} (h : Fits x n) (hs : s ≤ n) : Fits (x >>> s) (n - s) := by
  unfold Fits at h ⊢
  rw [BitVec.toNat_ushiftRight, Nat.shiftRight_eq_div_pow, Nat.div_lt_iff_lt_mul (Nat.two_pow_pos s), ← Nat.pow_add,
    Nat.sub_add_cancel hs]
  exact h

/-- An address that was shifted into a field comes back from the field. -/
theorem extract_shift_back {x : BitVec w} (lo hi s : Nat) (hlo : Aligned x lo) (hhi : Fits x hi) (hs : s ≤ lo) (hle : lo ≤ hi) :
    ((x >>> s).extractLsb' (lo - s) (hi - lo)).setWidth w <<< lo = x := by
  apply BitVec.eq_of_getLsbD_eq
  intro i hi'
  rw [BitVec.getLsbD_shiftLeft, BitVec.getLsbD_setWidth, BitVec.getLsbD_extractLsb', BitVec.getLsbD_ushiftRight]
  by_cases h1 : i < lo
  · simp [hlo.getLsbD h1, h1]
  · have h2 : s + (lo - s + (i - lo)) = i := by omega
    rw [h2]
    by_cases h3 : i < hi
    · have h4 : i - lo < w := by omega
      have h5 : i - lo < hi - lo := by omega
      simp [h1, h4, h5, hi']
    · simp [hhi.getLsbD (by omega : hi ≤ i)]

/-! ## Gathering bits -/

/-- The bits of `x` where the mask has ones, lowest first, out of `n` bits. -/
def gather : Nat → Nat → Nat → Nat
  | 0, _, _ => 0
  | n + 1, mask, x => if mask % 2 = 1 then x % 2 + 2 * gather n (mask / 2) (x / 2) else gather n (mask / 2) (x / 2)

/-- The number of ones of a mask of `n` bits. -/
def ones : Nat → Nat → Nat
  | 0, _ => 0
  | n + 1, mask => mask % 2 + ones n (mask / 2)

/-- As many bits are gathered as the mask has ones. -/
theorem gather_lt (n mask x : Nat) : gather n mask x < 2 ^ ones n mask := by
  induction n generalizing mask x with
  | zero => exact Nat.one_pos
  | succ n ih =>
    have h := ih (mask / 2) (x / 2)
    unfold gather ones
    split
    · rename_i hbit
      rw [hbit, Nat.pow_add, Nat.pow_one]
      omega
    · rename_i hbit
      rw [Nat.mod_two_ne_one.1 hbit, Nat.zero_add]
      exact h

end Fields
