import Mathlib.Data.List.Induction
import RvIommuTests.Lib.Fields
import RvIommuTests.ContextLayout

/-!
# What the setters leave in a device context

A loop over the table changes each context on its own, so all setters together come down to one function of the modes
(`contextWith`). Its fields are read off the words that the setters build.
-/

namespace RvIommuTests

open Fields

/-- Each pass of a loop over the table changes one context. -/
theorem Ddt.each_apply (f : Nat → Dc → Dc) (n i : Nat) (ddt : Ddt) (j : Nat) :
    Ddt.each f n i ddt j = if i ≤ j ∧ j < i + n then f j (ddt j) else ddt j := by
  induction n generalizing i ddt with
  | zero => rw [Ddt.each, if_neg (by omega)]
  | succ n ih =>
    rw [Ddt.each, ih, Function.update_apply]
    by_cases hj : j = i
    · subst hj
      rw [if_neg (by omega), if_pos rfl, if_pos (by omega)]
    · rw [if_neg hj]
      by_cases h : i ≤ j ∧ j < i + (n + 1)
      · rw [if_pos h, if_pos (by omega)]
      · rw [if_neg h, if_neg (by omega)]

/-- A loop over `[DID_MIN, DID_MAX]` changes the contexts in it. -/
theorem DdtConfig.forDids_apply (c : DdtConfig) (f : Nat → Dc → Dc) (ddt : Ddt) (i : Nat) :
    c.forDids f ddt i = if c.HasDid i then f i (ddt i) else ddt i := by
  unfold DdtConfig.forDids DdtConfig.HasDid
  rw [Ddt.each_apply]
  exact if_congr (by omega) rfl rfl

/-! ## One context -/

namespace DcSetter

/-- What a setter does to the context of a device in the range. -/
def runOn (c : DdtConfig) (link : Link) (i : Nat) (dc : Dc) : DcSetter → Dc
  | .iosatpBare => { dc with ta := c.pscid i <<< pscidOff, fsc := (link.s1pt >>> 12) ||| iosatpModeBare }
  | .iosatpSv39 => { dc with ta := c.pscid i <<< pscidOff, fsc := (link.s1pt >>> 12) ||| iosatpModeSv39 }
  | .iohgatpBare => { dc with iohgatp := ((link.s2ptRoot >>> 12) ||| iohgatpModeBare) ||| (c.gscid i <<< gscidOff) }
  | .iohgatpSv39x4 => { dc with iohgatp := ((link.s2ptRoot >>> 12) ||| iohgatpModeSv39x4) ||| (c.gscid i <<< gscidOff) }
  | .msiOff =>
    { dc with
      msiptp := (link.msiPt >>> 12) ||| msiptpModeOff
      msiAddrMask := RvIommuTests.msiAddrMask
      msiAddrPattern := RvIommuTests.msiAddrPattern }
  | .msiFlat =>
    { dc with msiptp := (link.msiPt >>> 12) ||| msiptpModeFlat, msiAddrPattern := RvIommuTests.msiAddrPattern }

/-- A setter changes each context of the range on its own. -/
theorem run_apply (s : DcSetter) (c : DdtConfig) (link : Link) (ddt : Ddt) (i : Nat) :
    s.run c link ddt i = if c.HasDid i then s.runOn c link i (ddt i) else ddt i := by
  cases s <;> exact c.forDids_apply _ ddt i

/-- Two setters of different kinds write different fields, so their order does not matter. -/
theorem runOn_comm (c : DdtConfig) (link : Link) (i : Nat) (dc : Dc) {s t : DcSetter} (h : s.kind ≠ t.kind) :
    s.runOn c link i (t.runOn c link i dc) = t.runOn c link i (s.runOn c link i dc) := by
  cases s <;> cases t <;> first | exact absurd rfl h | simp only [runOn]

/-- What a setter writes does not depend on what it finds. -/
theorem runOn_idem (c : DdtConfig) (link : Link) (i : Nat) (dc : Dc) (s : DcSetter) :
    s.runOn c link i (s.runOn c link i dc) = s.runOn c link i dc := by
  cases s <;> simp only [runOn]

/-- After one more setter, its mode is the last one of its kind. -/
theorem lastMode_concat (k : DcKind) (ss : List DcSetter) (s : DcSetter) :
    lastMode k (ss ++ [s]) = if s.kind = k then s.mode else lastMode k ss := by
  unfold lastMode
  rw [List.filter_append]
  by_cases h : s.kind = k
  · rw [if_pos h, List.filter_cons_of_pos (by simpa using h)]
    simp
  · rw [if_neg h, List.filter_cons_of_neg (by simpa using h)]
    simp

end DcSetter

/-- A mode in its field, the highest four bits. -/
def modeField (m : BitVec 4) : Word := m.setWidth 64 <<< 60

/-- The context of a device with given modes. -/
def contextWith (c : DdtConfig) (link : Link) (i : Nat) (iosatp iohgatp msi : BitVec 4) : Dc where
  tc := dcTcBasic
  iohgatp := ((link.s2ptRoot >>> 12) ||| modeField iohgatp) ||| (c.gscid i <<< gscidOff)
  ta := c.pscid i <<< pscidOff
  fsc := (link.s1pt >>> 12) ||| modeField iosatp
  msiptp := (link.msiPt >>> 12) ||| modeField msi
  msiAddrMask := msiAddrMask
  msiAddrPattern := msiAddrPattern
  reserved := 0#64

/-- The context of a device after the initialisation and some setters: the last mode of each kind is in it, by induction over the
setters from the last one. -/
theorem runAll_apply (c : DdtConfig) (link : Link) (ddt : Ddt) (i : Nat) (ss : List DcSetter) :
    DcSetter.runAll c link ss (rvIommuDdtInit c link ddt) i =
      if c.HasDid i then
        contextWith c link i (DcSetter.lastMode .iosatp ss) (DcSetter.lastMode .iohgatp ss) (DcSetter.lastMode .msi ss)
      else rvIommuDdtInit c link ddt i := by
  induction ss using List.reverseRecOn with
  | nil =>
    by_cases h : c.HasDid i
    · rw [if_pos h]
      exact (c.forDids_apply _ _ i).trans (if_pos h)
    · rw [if_neg h]
      rfl
  | append_singleton ss s ih =>
    unfold DcSetter.runAll at ih ⊢
    rw [List.foldl_append, List.foldl_cons, List.foldl_nil, DcSetter.run_apply, ih]
    by_cases h : c.HasDid i
    · simp only [if_pos h, DcSetter.lastMode_concat]
      cases s <;> rfl
    · simp only [if_neg h]

/-- The initialisation leaves a context outside of the range invalid. -/
theorem rvIommuDdtInit_outside (c : DdtConfig) (link : Link) (ddt : Ddt) {i : Nat} (h : ¬ c.HasDid i) :
    rvIommuDdtInit c link ddt i = if i < ddtNEntries then { ddt i with tc := 0#64 } else ddt i := by
  unfold rvIommuDdtInit
  dsimp only
  rw [c.forDids_apply, if_neg h, Ddt.each_apply]
  exact if_congr (by omega) rfl rfl

/-! ## Its fields -/

/-- The page number of an address below `2 ^ 56` fits its field. -/
theorem fits_ushiftRight_page {a : Bytes.Addr} (ha : Fits a 56) : Fits (a >>> 12) 44 := by
  unfold Fits at ha ⊢
  rw [BitVec.toNat_ushiftRight, Nat.shiftRight_eq_div_pow]
  omega

theorem extract_ppn (a : Bytes.Addr) : (a >>> 12).extractLsb' 0 44 = ppnOf a := by
  apply BitVec.eq_of_toNat_eq
  rw [BitVec.extractLsb'_toNat, BitVec.toNat_ushiftRight, Nat.shiftRight_zero, Nat.shiftRight_eq_div_pow, ppnOf,
    BitVec.toNat_ofNat]
  rfl

/-- A mode is in the highest four bits and in no others. -/
theorem extract_modeField (m : BitVec 4) :
    (modeField m).extractLsb' 0 44 = 0#44 ∧ (modeField m).extractLsb' 44 16 = 0#16 ∧ (modeField m).extractLsb' 60 4 = m := by
  unfold modeField
  refine ⟨extract_shiftLeft_below (by decide), extract_shiftLeft_below (by decide), ?_⟩
  rw [extract_shiftLeft_self (by decide)]
  exact BitVec.setWidth_setWidth_of_le m (by decide)

/-- A table pointer is the page number and the mode, with nothing between them. -/
theorem extract_ptp {a : Bytes.Addr} (ha : Fits a 56) (m : BitVec 4) :
    ((a >>> 12) ||| modeField m).extractLsb' 0 44 = ppnOf a ∧ ((a >>> 12) ||| modeField m).extractLsb' 44 16 = 0#16 ∧
      ((a >>> 12) ||| modeField m).extractLsb' 60 4 = m := by
  obtain ⟨h0, h44, h60⟩ := extract_modeField m
  have hppn := fits_ushiftRight_page ha
  refine ⟨?_, ?_, ?_⟩
  · rw [BitVec.extractLsb'_or, extract_ppn, h0, BitVec.or_zero]
  · rw [BitVec.extractLsb'_or, hppn.extract_above (by decide), h44, BitVec.or_zero]
  · rw [BitVec.extractLsb'_or, hppn.extract_above (by decide), h60, BitVec.zero_or]

/-- A GSCID of 16 bits is in its field, beside the page number and the mode. -/
theorem extract_iohgatp {a : Bytes.Addr} (ha : Fits a 56) (m : BitVec 4) {x : Word} (hx : Fits x 16) :
    (((a >>> 12) ||| modeField m) ||| x <<< gscidOff).extractLsb' 0 44 = ppnOf a ∧
      (((a >>> 12) ||| modeField m) ||| x <<< gscidOff).extractLsb' 44 16 = x.setWidth 16 ∧
      (((a >>> 12) ||| modeField m) ||| x <<< gscidOff).extractLsb' 60 4 = m := by
  obtain ⟨h0, h44, h60⟩ := extract_ptp ha m
  refine ⟨?_, ?_, ?_⟩
  · rw [BitVec.extractLsb'_or, h0, extract_shiftLeft_below (by decide), BitVec.or_zero]
  · rw [BitVec.extractLsb'_or, h44, gscidOff, extract_shiftLeft_self (by decide), BitVec.zero_or]
  · rw [BitVec.extractLsb'_or, h60, extract_shiftLeft_above hx (by decide), BitVec.or_zero]

/-- A PSCID of 20 bits is in its field and in no other. -/
theorem extract_pscid {x : Word} (hx : Fits x 20) :
    (x <<< pscidOff).extractLsb' 0 12 = 0#12 ∧ (x <<< pscidOff).extractLsb' 12 20 = x.setWidth 20 ∧
      (x <<< pscidOff).extractLsb' 32 32 = 0#32 :=
  ⟨extract_shiftLeft_below (by decide), extract_shiftLeft_self (by decide), extract_shiftLeft_above hx (by decide)⟩

/-- The fields of a context with given modes, when the identifiers and the addresses fit theirs. -/
theorem fields_contextWith {c : DdtConfig} {link : Link} {i : Nat} (hg : Fits (c.gscid i) 16) (hp : Fits (c.pscid i) 20)
    (hs1 : Fits link.s1pt 56) (hs2 : Fits link.s2ptRoot 56) (hmsi : Fits link.msiPt 56) (ss : List DcSetter) :
    (contextWith c link i (DcSetter.lastMode .iosatp ss) (DcSetter.lastMode .iohgatp ss)
      (DcSetter.lastMode .msi ss)).fields = DcFields.after c link i ss := by
  obtain ⟨f0, f44, f60⟩ := extract_ptp hs1 (DcSetter.lastMode .iosatp ss)
  obtain ⟨g0, g44, g60⟩ := extract_iohgatp hs2 (DcSetter.lastMode .iohgatp ss) hg
  obtain ⟨m0, m44, m60⟩ := extract_ptp hmsi (DcSetter.lastMode .msi ss)
  obtain ⟨p0, p12, p32⟩ := extract_pscid hp
  unfold Dc.fields contextWith DcFields.after
  simp only [f0, f44, f60, g0, g44, g60, m0, m44, m60, p0, p12, p32]
  rfl

/-- The identifiers of a device are among those of the tables, or zero. -/
theorem fits_getD {xs : List Word} {n : Nat} (h : ∀ x ∈ xs, Fits x n) (i : Nat) : Fits (xs.getD i 0#64) n := by
  rw [List.getD_eq_getElem?_getD]
  cases hx : xs[i]? with
  | none => exact Nat.two_pow_pos n
  | some x => exact h x (List.mem_of_getElem? hx)

end RvIommuTests
