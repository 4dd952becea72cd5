import RvIommuTests.Lemmas.DeviceContext

/-!
# The device contexts after the setters

After the initialisation, the contexts are a function of the last mode of each kind. On contexts that were not initialised, the
MSI setter for the flat mode does not set the mask.
-/

namespace RvIommuTests

open Fields

/-- After `rv_iommu_ddt_init` and any setters in any order, each context in the range holds the last mode of each kind, its own
identifiers and the tables, and nothing else; every other one is as the initialisation left it, and invalid. Setters of different
kinds commute, and a setter that is repeated changes nothing more. -/
theorem device_contexts_track (c : DdtConfig) (link : Link) (hg : ∀ x ∈ c.gscidArray, Fits x 16)
    (hp : ∀ x ∈ c.pscidArray, Fits x 20) (hs1 : Fits link.s1pt 56) (hs2 : Fits link.s2ptRoot 56) (hmsi : Fits link.msiPt 56)
    (ddt : Ddt) (ss : List DcSetter) (i : Nat) :
    (c.HasDid i → (DcSetter.runAll c link ss (rvIommuDdtInit c link ddt) i).fields = DcFields.after c link i ss) ∧
    (¬ c.HasDid i → DcSetter.runAll c link ss (rvIommuDdtInit c link ddt) i = rvIommuDdtInit c link ddt i ∧
      (i < ddtNEntries → (DcSetter.runAll c link ss (rvIommuDdtInit c link ddt) i).tc.getLsbD 0 = false)) ∧
    (∀ s t : DcSetter, s.kind ≠ t.kind → s.run c link (t.run c link ddt) = t.run c link (s.run c link ddt)) ∧
    ∀ s : DcSetter, s.run c link (s.run c link ddt) = s.run c link ddt := by
  refine ⟨?_, ?_, ?_, ?_⟩
  · intro hi
    rw [runAll_apply, if_pos hi]
    exact fields_contextWith (fits_getD hg i) (fits_getD hp i) hs1 hs2 hmsi ss
  · intro hi
    rw [runAll_apply, if_neg hi]
    refine ⟨rfl, fun hlt => ?_⟩
    rw [rvIommuDdtInit_outside c link ddt hi, if_pos hlt]
    exact BitVec.getLsbD_zero
  · intro s t hst
    funext j
    simp only [DcSetter.run_apply]
    split
    · exact DcSetter.runOn_comm c link j (ddt j) hst
    · rfl
  · intro s
    funext j
    simp only [DcSetter.run_apply]
    split
    · exact DcSetter.runOn_idem c link j (ddt j) s
    · rfl

/-- The theorem at the constants of the platform, for the device under test. -/
theorem device_contexts_track_at :
    (DcSetter.runAll .platform .compact [.iosatpSv39, .msiFlat, .iohgatpSv39x4, .iosatpBare]
      (rvIommuDdtInit .platform .compact fun _ => ⟨7, 7, 7, 7, 7, 7, 7, 7⟩) 10).fields =
    DcFields.after .platform .compact 10 [.iosatpSv39, .msiFlat, .iohgatpSv39x4, .iosatpBare] := by
  have hg : ∀ x ∈ DdtConfig.platform.gscidArray, Fits x 16 := by
    intro x hx
    rw [List.eq_of_mem_replicate hx]
    decide
  have hp : ∀ x ∈ DdtConfig.platform.pscidArray, Fits x 20 := by
    intro x hx
    rw [List.eq_of_mem_replicate hx]
    decide
  exact (device_contexts_track .platform .compact hg hp (by decide) (by decide) (by decide) _ _ 10).1 (by decide)

/-- The two words of `msiptp` differ in the mode only. -/
theorem msiptp_flat_off (a : Bytes.Addr) :
    ((a >>> 12) ||| msiptpModeFlat).extractLsb' 0 44 = ((a >>> 12) ||| msiptpModeOff).extractLsb' 0 44 ∧
    ((a >>> 12) ||| msiptpModeFlat).extractLsb' 44 16 = ((a >>> 12) ||| msiptpModeOff).extractLsb' 44 16 ∧
    ((a >>> 12) ||| msiptpModeFlat).extractLsb' 60 4 = 1#4 ∧ ((a >>> 12) ||| msiptpModeOff).extractLsb' 60 4 = 0#4 := by
  have hfits : Fits (a >>> 12) 52 := fits_ushiftRight a (by decide)
  have hmode : (a >>> 12).extractLsb' 60 4 = 0#4 := hfits.extract_above (by decide)
  have hppn : msiptpModeFlat.extractLsb' 0 44 = msiptpModeOff.extractLsb' 0 44 := by decide
  have hrsvd : msiptpModeFlat.extractLsb' 44 16 = msiptpModeOff.extractLsb' 44 16 := by decide
  simp only [BitVec.extractLsb'_or, hmode, hppn, hrsvd, true_and]
  decide

/-- The MSI setters agree on everything but the mode exactly when the contexts in the range hold the mask already: the setter for
the flat mode assigns the pattern twice, and the mask never. -/
theorem msi_established_iff (c : DdtConfig) (link : Link) (ddt : Ddt) :
    MsiEstablished c link ddt ↔ ∀ i, c.HasDid i → (ddt i).msiAddrMask = msiAddrMask := by
  have hflat : ∀ i, c.HasDid i → rvIommuSetMsiFlat c link ddt i = DcSetter.msiFlat.runOn c link i (ddt i) :=
    fun i hi => (DcSetter.msiFlat.run_apply c link ddt i).trans (if_pos hi)
  have hoff : ∀ i, c.HasDid i → rvIommuSetMsiOff c link ddt i = DcSetter.msiOff.runOn c link i (ddt i) :=
    fun i hi => (DcSetter.msiOff.run_apply c link ddt i).trans (if_pos hi)
  constructor
  · intro h i hi
    have hmask := congrArg Dc.msiAddrMask (h.address i hi).1
    rw [hflat i hi] at hmask
    exact hmask
  · intro hmask
    obtain ⟨h0, h44, hon, hoff'⟩ := msiptp_flat_off link.msiPt
    refine ⟨?_, ?_, ?_, ?_⟩
    · intro i hi
      exact ⟨(DcSetter.msiFlat.run_apply c link ddt i).trans (if_neg hi),
        (DcSetter.msiOff.run_apply c link ddt i).trans (if_neg hi)⟩
    · intro i hi
      rw [hflat i hi, hoff i hi]
      unfold Dc.fields DcSetter.runOn
      simp only [h0, h44, hon, hmask i hi]
    · intro i hi
      rw [hoff i hi]
      exact hoff'
    · intro i hi
      rw [hflat i hi, hoff i hi]
      refine ⟨?_, rfl⟩
      unfold SetsMsiAddr DcSetter.runOn
      rw [← hmask i hi]

/-- On contexts that are all zero, `rv_iommu_set_msi_flat` leaves a mask of zero. -/
theorem msi_flat_leaves_mask :
    ¬ MsiEstablished .platform .compact (fun _ => ⟨0, 0, 0, 0, 0, 0, 0, 0⟩) ∧
    (rvIommuSetMsiFlat .platform .compact (fun _ => ⟨0, 0, 0, 0, 0, 0, 0, 0⟩) 10).msiAddrMask = 0#64 := by
  refine ⟨?_, by decide⟩
  intro h
  have hmask := congrArg Dc.msiAddrMask (h.address 10 (by decide)).1
  revert hmask
  decide

end RvIommuTests
