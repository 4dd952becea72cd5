import Mathlib.Data.Nat.Find
import RvIommuTests.Lib.Fields
import RvIommuTests.DebugInterface

/-!
# The size of a superpage in the response

The loop of `rv_iommu_dbg_ppn_encode_x` counts the ones below the lowest zero of the page number. A page number that is aligned to
twice the size has a zero there, so that the size and the page number are read back.
-/

namespace RvIommuTests

open Fields

namespace PpnAux

/-! ## The field -/

/-- The PPN that the driver returns is the field of the response, extended by zeros. -/
theorem translatedPpn_eq (resp : Word) : rvIommuDbgTranslatedPpn resp = (ppnField resp).setWidth 64 := by
  have hmask : ∀ i < 64, trResponsePpnMask.getLsbD i = decide (10 ≤ i ∧ i < 54) := by decide
  apply BitVec.eq_of_getLsbD_eq
  intro i hi
  rw [rvIommuDbgTranslatedPpn, ppnField, BitVec.getLsbD_ushiftRight, BitVec.getLsbD_and, BitVec.getLsbD_setWidth,
    BitVec.getLsbD_extractLsb', trResponsePpnOffset, decide_eq_true hi, Bool.true_and]
  by_cases h44 : i < 44
  · rw [hmask (10 + i) (by omega), decide_eq_true h44, decide_eq_true (by omega : 10 ≤ 10 + i ∧ 10 + i < 54), Bool.and_true,
      Bool.true_and]
  · rw [decide_eq_false h44, Bool.false_and]
    by_cases h54 : 10 + i < 64
    · rw [hmask (10 + i) h54, decide_eq_false (by omega), Bool.and_false]
    · rw [BitVec.getLsbD_of_ge resp (10 + i) (by omega), Bool.false_and]

/-- The PPN that the driver returns is the field of the response. -/
theorem getLsbD_translatedPpn (resp : Word) (i : Nat) :
    (rvIommuDbgTranslatedPpn resp).getLsbD i = (ppnField resp).getLsbD i := by
  rw [translatedPpn_eq, BitVec.getLsbD_setWidth]
  by_cases hi : i < 64
  · rw [decide_eq_true hi, Bool.true_and]
  · rw [decide_eq_false hi, Bool.false_and, BitVec.getLsbD_of_ge _ i (by omega)]

/-! ## The loop -/

/-- The test of the loop, which is made on eight bits, is the lowest bit of the page number. -/
theorem odd_iff (ppn : Word) : (ppn &&& 1#64).setWidth 8 ≠ 0#8 ↔ ppn.getLsbD 0 = true := by
  have hbit : ∀ i < 8, ((ppn &&& 1#64).setWidth 8).getLsbD i = (ppn.getLsbD i && decide (i = 0)) := by
    intro i hi
    rw [BitVec.getLsbD_setWidth, BitVec.getLsbD_and, BitVec.getLsbD_one, decide_eq_true hi, Bool.true_and]
    simp
  constructor
  · intro hne
    by_contra hzero
    apply hne
    apply BitVec.eq_of_getLsbD_eq
    intro i hi
    rw [hbit i hi, BitVec.getLsbD_zero]
    by_cases h0 : i = 0
    · subst h0
      rw [eq_false_of_ne_true hzero, Bool.false_and]
    · rw [decide_eq_false h0, Bool.and_false]
  · intro hone heq
    have h0 := hbit 0 (by decide)
    rw [heq, hone, BitVec.getLsbD_zero] at h0
    cases h0

/-- The loop counts the ones below the lowest zero, by induction over how many there are. -/
theorem ppnEncodeLoop_eq (n : Nat) {ppn : Word} {xIdx : BitVec 8} (hones : ∀ i < n, ppn.getLsbD i = true)
    (hzero : ppn.getLsbD n = false) : ppnEncodeLoop ppn xIdx = xIdx + BitVec.ofNat 8 n := by
  induction n generalizing ppn xIdx with
  | zero =>
    rw [ppnEncodeLoop, dif_neg (by rw [odd_iff, hzero]; exact Bool.false_ne_true)]
    exact (BitVec.add_zero xIdx).symm
  | succ n ih =>
    rw [ppnEncodeLoop, dif_pos ((odd_iff ppn).2 (hones 0 (Nat.succ_pos n))), ih]
    · rw [BitVec.ofNat_add, BitVec.add_assoc, BitVec.add_comm (1#8)]
    · intro i hi
      rw [BitVec.getLsbD_ushiftRight]
      exact hones (1 + i) (by omega)
    · rw [BitVec.getLsbD_ushiftRight, Nat.add_comm]
      exact hzero

/-! ## The lowest zero -/

/-- There is a lowest zero bit, behind the PPN when all its bits are ones. -/
theorem exists_lowestZero (ppn : BitVec 44) : ∃ x, LowestZero ppn x := by
  have h44 : ∃ x, ppn.getLsbD x = false := ⟨44, BitVec.getLsbD_of_ge ppn 44 (Nat.le_refl 44)⟩
  refine ⟨Nat.find h44, Nat.find_min' h44 (BitVec.getLsbD_of_ge ppn 44 (Nat.le_refl 44)), ?_, Nat.find_spec h44⟩
  intro i hi
  simpa using Nat.find_min h44 hi

/-- There is one lowest zero bit only, as the bits below it are ones. -/
theorem LowestZero.unique {ppn : BitVec 44} {x y : Nat} (hx : LowestZero ppn x) (hy : LowestZero ppn y) : x = y := by
  rcases Nat.lt_trichotomy x y with h | h | h
  · have := hy.below x h
    rw [hx.zero] at this
    cases this
  · exact h
  · have := hx.below y h
    rw [hy.zero] at this
    cases this

/-- The loop of the driver finds the lowest zero bit. -/
theorem encodeX_of_lowestZero {resp : Word} {x : Nat} (h : LowestZero (ppnField resp) x) :
    (rvIommuDbgPpnEncodeX resp).toNat = x := by
  have hloop : rvIommuDbgPpnEncodeX resp = 0#8 + BitVec.ofNat 8 x :=
    ppnEncodeLoop_eq x (fun i hi => (getLsbD_translatedPpn resp i).trans (h.below i hi))
      ((getLsbD_translatedPpn resp x).trans h.zero)
  have hle := h.le
  rw [hloop, BitVec.zero_add, BitVec.toNat_ofNat]
  omega

/-! ## Encoded ranges -/

/-- The bits of `2 ^ x - 1` are ones below `x` and zeros from there on. -/
theorem getLsbD_ones (x i : Nat) (hx : x ≤ 44) : (BitVec.ofNat 44 (2 ^ x - 1)).getLsbD i = decide (i < x) := by
  rw [BitVec.getLsbD_ofNat, Nat.testBit_two_pow_sub_one]
  by_cases hi : i < x
  · simp [hi, show i < 44 by omega]
  · simp [hi]

/-- The lowest zero bit of a NAPOT encoding is where its size is encoded. -/
theorem lowestZero_napot {base : BitVec 44} {x : Nat} (hx : x < 44) (hbase : Aligned base (x + 1)) :
    LowestZero (napot base x) x := by
  refine ⟨Nat.le_of_lt hx, ?_, ?_⟩
  · intro i hi
    rw [napot, BitVec.getLsbD_or, getLsbD_ones x i (Nat.le_of_lt hx), decide_eq_true hi, Bool.or_true]
  · rw [napot, BitVec.getLsbD_or, getLsbD_ones x x (Nat.le_of_lt hx), hbase.getLsbD (Nat.lt_succ_self x),
      decide_eq_false (Nat.lt_irrefl x)]
    rfl

/-- Clearing the ones below the lowest zero bit gives back the base that was encoded. -/
theorem napot_clear {resp : Word} {base : BitVec 44} {x : Nat} (hx : x < 44) (hbase : Aligned base (x + 1))
    (hp : ppnField resp = napot base x) :
    rvIommuDbgTranslatedPpn resp &&& ~~~BitVec.ofNat 64 (2 ^ x - 1) = base.setWidth 64 := by
  apply BitVec.eq_of_getLsbD_eq
  intro i hi
  rw [BitVec.getLsbD_and, getLsbD_translatedPpn, hp, napot, BitVec.getLsbD_or, getLsbD_ones x i (Nat.le_of_lt hx),
    BitVec.getLsbD_not, BitVec.getLsbD_ofNat, Nat.testBit_two_pow_sub_one, BitVec.getLsbD_setWidth, decide_eq_true hi]
  by_cases hix : i < x
  · rw [hbase.getLsbD (by omega : i < x + 1)]
    simp [hix]
  · simp [hix]

end PpnAux

open PpnAux

/-- For every response the loop ends with the position of the lowest zero in the page number, which is 44 when there is none. So for
every range of pages that the field encodes, the function returns its size, and the page number without its lower bits is its base,
whatever the other bits of the response are. -/
theorem ppn_encoding_recovers (resp : Word) :
    LowestZero (ppnField resp) (rvIommuDbgPpnEncodeX resp).toNat ∧
      ∀ (base : BitVec 44) (x : Nat), x < 44 → Aligned base (x + 1) → ppnField resp = napot base x →
        (rvIommuDbgPpnEncodeX resp).toNat = x ∧
          rvIommuDbgTranslatedPpn resp &&& ~~~BitVec.ofNat 64 (2 ^ x - 1) = base.setWidth 64 := by
  constructor
  · obtain ⟨x, hx⟩ := exists_lowestZero (ppnField resp)
    rw [encodeX_of_lowestZero hx]
    exact hx
  · intro base x hx hbase hp
    exact ⟨encodeX_of_lowestZero (hp ▸ lowestZero_napot hx hbase), napot_clear hx hbase hp⟩

/-- The theorem at a response for a page of 2 MiB. -/
theorem ppn_encoding_recovers_at :
    (rvIommuDbgPpnEncodeX (0x84000#64 <<< 10 ||| 0xFF#64 <<< 10 ||| 0x200#64)).toNat = 8 ∧
      rvIommuDbgTranslatedPpn (0x84000#64 <<< 10 ||| 0xFF#64 <<< 10 ||| 0x200#64) &&& ~~~BitVec.ofNat 64 (2 ^ 8 - 1) = 0x84000#64 :=
  (ppn_encoding_recovers _).2 0x84000#44 8 (by decide) (by decide) (by decide)

end RvIommuTests
