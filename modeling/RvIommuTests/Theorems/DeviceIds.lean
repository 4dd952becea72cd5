import RvIommuTests.DeviceIds
import RvIommuTests.Lemmas.DeviceContext

/-!
# Device ids and the tables of identifiers

For which ranges of device ids the functions stay within the tables of identifiers.
-/

namespace RvIommuTests

open Fields

namespace IdAux

/-! ## Loops -/

/-- A loop whose accesses are all within the arrays is the loop without the bounds. -/
theorem eachWithin_some {f : Nat → Dc → Option Dc} {g : Nat → Dc → Dc} (n : Nat) {i : Nat} (ddt : Ddt) (hi : i + n ≤ ddtNEntries)
    (hf : ∀ j, i ≤ j → j < i + n → ∀ dc, f j dc = some (g j dc)) : Ddt.eachWithin f n i ddt = some (Ddt.each g n i ddt) := by
  induction n generalizing i ddt with
  | zero => rfl
  | succ n ih =>
    rw [Ddt.eachWithin, if_pos (by omega), hf i (Nat.le_refl i) (by omega), Ddt.each]
    exact ih _ (by omega) fun j hj hjn => hf j (by omega) (by omega)

/-- A loop that comes to an access outside of an array has no result. -/
theorem eachWithin_none {f : Nat → Dc → Option Dc} (n : Nat) {i j : Nat} (ddt : Ddt) (hij : i ≤ j) (hj : j < i + n)
    (hf : ∀ dc, f j dc = none) : Ddt.eachWithin f n i ddt = none := by
  induction n generalizing i ddt with
  | zero => omega
  | succ n ih =>
    rw [Ddt.eachWithin]
    split
    · by_cases he : i = j
      · subst he
        rw [hf]
        rfl
      · cases f i (ddt i) with
        | none => rfl
        | some dc => exact ih _ (by omega) (by omega)
    · rfl

/-- The loop over the device IDs runs through when each of its steps does. -/
theorem forDidsWithin_some {c : DdtConfig} {f : Nat → Dc → Option Dc} {g : Nat → Dc → Dc} (ddt : Ddt) (hc : c.didMax < ddtNEntries)
    (hf : ∀ i, c.HasDid i → ∀ dc, f i dc = some (g i dc)) : c.forDidsWithin f ddt = some (c.forDids g ddt) := by
  by_cases hle : c.didMin ≤ c.didMax
  · exact eachWithin_some _ ddt (by omega) fun i h1 h2 => hf i ⟨h1, by omega⟩
  · have h0 : c.didMax + 1 - c.didMin = 0 := by omega
    rw [DdtConfig.forDidsWithin, DdtConfig.forDids, h0]
    rfl

/-- The loop over the device IDs fails when one of its steps does, for whatever context. -/
theorem forDidsWithin_none {c : DdtConfig} {f : Nat → Dc → Option Dc} (ddt : Ddt) {i : Nat} (hi : c.HasDid i)
    (hf : ∀ dc, f i dc = none) : c.forDidsWithin f ddt = none := by
  obtain ⟨h1, h2⟩ := hi
  exact eachWithin_none _ ddt h1 (by omega) hf

/-! ## The functions -/

variable {c : DdtConfig} {link : Link}

/-- An element of an array that is there is read. -/
theorem getElem?_eq_some_getD {xs : List Word} {i : Nat} (h : i < xs.length) : xs[i]? = some (xs.getD i 0#64) := by
  rw [List.getD_eq_getElem?_getD, List.getElem?_eq_getElem h, Option.getD_some]

/-- When each device in the range has an entry in both tables, the bounds are kept. -/
theorem within_some (hmax : c.didMax < ddtNEntries) (hg : c.didMax < c.gscidArray.length) (hp : c.didMax < c.pscidArray.length)
    (f : IdReader) (ddt : Ddt) : f.within c link ddt = some (f.run c link ddt) := by
  have hgscid : ∀ i, c.HasDid i → c.gscidArray[i]? = some (c.gscid i) :=
    fun i hi => getElem?_eq_some_getD (Nat.lt_of_le_of_lt hi.2 hg)
  have hpscid : ∀ i, c.HasDid i → c.pscidArray[i]? = some (c.pscid i) :=
    fun i hi => getElem?_eq_some_getD (Nat.lt_of_le_of_lt hi.2 hp)
  have hiosatp : ∀ mode, IdReader.setIosatpWithin c link mode ddt = some (setIosatp c link mode ddt) := by
    intro mode
    refine forDidsWithin_some ddt hmax ?_
    intro i hi dc
    rw [hpscid i hi]
    rfl
  have hiohgatp : ∀ mode, IdReader.setIohgatpWithin c link mode ddt = some (setIohgatp c link mode ddt) := by
    intro mode
    refine forDidsWithin_some ddt hmax ?_
    intro i hi dc
    rw [hgscid i hi]
    rfl
  cases f with
  | ddtInit =>
    have hclear := @eachWithin_some (fun _ dc => some { dc with tc := 0#64 }) (fun _ dc => { dc with tc := 0#64 }) ddtNEntries 0
      ddt (by decide) fun _ _ _ _ => rfl
    rw [IdReader.within, IdReader.ddtInitWithin, hclear]
    refine forDidsWithin_some _ hmax ?_
    intro i hi dc
    rw [hgscid i hi, hpscid i hi]
    rfl
  | iosatpBare => exact hiosatp iosatpModeBare
  | iosatpSv39 => exact hiosatp iosatpModeSv39
  | iohgatpBare => exact hiohgatp iohgatpModeBare
  | iohgatpSv39x4 => exact hiohgatp iohgatpModeSv39x4

/-- When a device in the range has no entry in either table, they are not. -/
theorem within_none {i : Nat} (hi : c.HasDid i) (hg : c.gscidArray[i]? = none) (hp : c.pscidArray[i]? = none) (f : IdReader)
    (ddt : Ddt) : f.within c link ddt = none := by
  have hiosatp : ∀ mode, IdReader.setIosatpWithin c link mode ddt = none := by
    intro mode
    refine forDidsWithin_none ddt hi ?_
    intro dc
    rw [hp]
    rfl
  have hiohgatp : ∀ mode, IdReader.setIohgatpWithin c link mode ddt = none := by
    intro mode
    refine forDidsWithin_none ddt hi ?_
    intro dc
    rw [hg]
    rfl
  cases f with
  | ddtInit =>
    rw [IdReader.within, IdReader.ddtInitWithin]
    cases Ddt.eachWithin _ _ _ _ with
    | none => rfl
    | some ddt =>
      refine forDidsWithin_none ddt hi ?_
      intro dc
      rw [hg]
      rfl
  | iosatpBare => exact hiosatp iosatpModeBare
  | iosatpSv39 => exact hiosatp iosatpModeSv39
  | iohgatpBare => exact hiohgatp iohgatpModeBare
  | iohgatpSv39x4 => exact hiohgatp iohgatpModeSv39x4

/-! ## The identifiers -/

/-- The context of a device in the range after a function that writes the GSCID: some mode is beside it. -/
theorem iohgatp_run {i : Nat} (hi : c.HasDid i) {f : IdReader} (hf : f.setsGscid = true) (ddt : Ddt) :
    ∃ m, (f.run c link ddt i).iohgatp = ((link.s2ptRoot >>> 12) ||| modeField m) ||| (c.gscid i <<< gscidOff) := by
  have hbare : modeField 0#4 = iohgatpModeBare := by decide
  have hsv39x4 : modeField 8#4 = iohgatpModeSv39x4 := by decide
  cases f with
  | ddtInit =>
    refine ⟨0#4, ?_⟩
    simp only [IdReader.run, rvIommuDdtInit, c.forDids_apply, if_pos hi, hbare]
  | iohgatpBare =>
    refine ⟨0#4, ?_⟩
    simp only [IdReader.run, rvIommuSetIohgatpBare, setIohgatp, c.forDids_apply, if_pos hi, hbare]
  | iohgatpSv39x4 =>
    refine ⟨8#4, ?_⟩
    simp only [IdReader.run, rvIommuSetIohgatpSv39x4, setIohgatp, c.forDids_apply, if_pos hi, hsv39x4]
  | iosatpBare => cases hf
  | iosatpSv39 => cases hf

/-- The context of a device in the range after a function that writes the PSCID. -/
theorem ta_run {i : Nat} (hi : c.HasDid i) {f : IdReader} (hf : f.setsPscid = true) (ddt : Ddt) :
    (f.run c link ddt i).ta = c.pscid i <<< pscidOff := by
  cases f with
  | ddtInit => simp only [IdReader.run, rvIommuDdtInit, c.forDids_apply, if_pos hi]
  | iosatpBare => simp only [IdReader.run, rvIommuSetIosatpBare, setIosatp, c.forDids_apply, if_pos hi]
  | iosatpSv39 => simp only [IdReader.run, rvIommuSetIosatpSv39, setIosatp, c.forDids_apply, if_pos hi]
  | iohgatpBare => cases hf
  | iohgatpSv39x4 => cases hf

/-- A reader that sets the GSCID sets that of the device ID. -/
theorem gscid_run (hs2 : Fits link.s2ptRoot 56) {i : Nat} (hi : c.HasDid i) (hx : Fits (c.gscid i) 16) {f : IdReader}
    (hf : f.setsGscid = true) (ddt : Ddt) : (f.run c link ddt i).fields.gscid.setWidth 64 = c.gscid i := by
  obtain ⟨m, hm⟩ := @iohgatp_run c link i hi f hf ddt
  rw [Dc.fields, hm, (extract_iohgatp hs2 m hx).2.1]
  exact hx.setWidth_setWidth

/-- A reader that sets the PSCID sets that of the device ID. -/
theorem pscid_run {i : Nat} (hi : c.HasDid i) (hx : Fits (c.pscid i) 20) {f : IdReader} (hf : f.setsPscid = true) (ddt : Ddt) :
    (f.run c link ddt i).fields.pscid.setWidth 64 = c.pscid i := by
  rw [Dc.fields, ta_run hi hf, (extract_pscid hx).2.1]
  exact hx.setWidth_setWidth

end IdAux

open IdAux

/-- For any range of device ids in the table of contexts: a function that reads the tables of identifiers, which have 16 entries,
stays within its arrays and gives each context its own identifiers exactly if the range ends below 16. -/
theorem ids_safe_iff (c : DdtConfig) (link : Link) (hrange : c.didMin ≤ c.didMax) (hmax : c.didMax < ddtNEntries)
    (hdecl : c.Declared) (hg : ∀ x ∈ c.gscidArray, Fits x 16) (hp : ∀ x ∈ c.pscidArray, Fits x 20) (hs2 : Fits link.s2ptRoot 56)
    (f : IdReader) (ddt : Ddt) : f.Safe c link ddt ↔ c.didMax < 16 := by
  constructor
  · intro h
    by_contra hge
    have hnone := @within_none c link c.didMax ⟨hrange, Nat.le_refl _⟩
      (List.getElem?_eq_none (by rw [hdecl.gscid]; omega)) (List.getElem?_eq_none (by rw [hdecl.pscid]; omega)) f ddt
    rw [h.within] at hnone
    cases hnone
  · intro hlt
    have hglen : c.didMax < c.gscidArray.length := by rwa [hdecl.gscid]
    have hplen : c.didMax < c.pscidArray.length := by rwa [hdecl.pscid]
    refine ⟨within_some hmax hglen hplen f ddt, ?_, ?_⟩
    · exact fun hf i hi => ⟨c.gscid i, getElem?_eq_some_getD (Nat.lt_of_le_of_lt hi.2 hglen),
        gscid_run hs2 hi (fits_getD hg i) hf ddt⟩
    · exact fun hf i hi => ⟨c.pscid i, getElem?_eq_some_getD (Nat.lt_of_le_of_lt hi.2 hplen),
        pscid_run hi (fits_getD hp i) hf ddt⟩

namespace IdAux

/-- The identifiers in the arrays of the source fit the fields of the device context, of 16 and 20 bits. -/
theorem platform_fits : (∀ x ∈ DdtConfig.platform.gscidArray, Fits x 16) ∧ ∀ x ∈ DdtConfig.platform.pscidArray, Fits x 20 := by
  constructor <;>
    (intro x hx
     rw [List.eq_of_mem_replicate hx]
     decide)

end IdAux

/-- The theorem at the constants of the source, for `rv_iommu_ddt_init` on a table that is all zero. -/
theorem ids_safe_at : IdReader.ddtInit.Safe .platform .compact fun _ => ⟨0, 0, 0, 0, 0, 0, 0, 0⟩ :=
  (ids_safe_iff .platform .compact (by decide) (by decide) ⟨rfl, rfl⟩ platform_fits.1 platform_fits.2 (by decide) .ddtInit _).2
    (by decide)

/-- With a DMA device of id 16, `rv_iommu_ddt_init` and all four setters read past the end of a table of identifiers. -/
theorem ids_read_past_end :
    (({ DdtConfig.platform with didMax := 16 } : DdtConfig).didMax < ddtNEntries) ∧
      ∀ f : IdReader, f.within { DdtConfig.platform with didMax := 16 } .compact (fun _ => ⟨0, 0, 0, 0, 0, 0, 0, 0⟩) = none ∧
        ¬ f.Safe { DdtConfig.platform with didMax := 16 } .compact fun _ => ⟨0, 0, 0, 0, 0, 0, 0, 0⟩ := by
  refine ⟨by decide, ?_⟩
  intro f
  have hnone := @within_none { DdtConfig.platform with didMax := 16 } .compact 16 ⟨by decide, by decide⟩ (by decide) (by decide) f
    fun _ => ⟨0, 0, 0, 0, 0, 0, 0, 0⟩
  refine ⟨hnone, ?_⟩
  intro h
  rw [h.within] at hnone
  cases hnone

end RvIommuTests
