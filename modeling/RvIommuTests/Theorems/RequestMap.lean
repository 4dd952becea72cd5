import RvIommuTests.Lemmas.RequestMap
import RvIommuTests.Theorems.MsiTable

/-!
# Every request is translated as the tests take it to be

The translation of any request after `init_iommu`, any calls of the setters of the device contexts and any switches of the tables.
-/

namespace RvIommuTests

open Fields DdtCacheAux IotlbAux SwitchesAux RequestMapAux

/-- The contexts after `rv_iommu_ddt_init` and calls of the setters. -/
def ddtAfter (link : Link) (setters : List DcSetter) (ddt : Ddt) : Ddt :=
  setters.foldl (fun ddt setter => setter.run DdtConfig.platform link ddt) (rvIommuDdtInit DdtConfig.platform link ddt)

/-- The modes after calls of the setters. -/
def modesAfter (setters : List DcSetter) : DcModes := setters.foldl DcModes.set .reset

namespace RequestMapAux

/-- The context of the device under test after any calls of the setters. -/
theorem ddtAfter_did (link : Link) (setters : List DcSetter) (ddt : Ddt) :
    ddtAfter link setters ddt did = dcAt link (modesAfter setters) := by
  have hrun : ∀ (setters : List DcSetter) (ddt : Ddt) (modes : DcModes), ddt did = dcAt link modes →
      setters.foldl (fun ddt setter => setter.run DdtConfig.platform link ddt) ddt did =
        dcAt link (setters.foldl DcModes.set modes) := by
    intro setters
    induction setters with
    | nil => exact fun ddt modes h => h
    | cons setter setters ih => exact fun ddt modes h => ih _ _ (run_did setter h)
  exact hrun setters _ _ (init_did ddt)

end RequestMapAux

/-- After the builders, and after any calls of the setters of the contexts and any switches of the tables, every request of the
device, for any address and any permissions, goes where the map says, or is refused with the cause that it says. -/
theorem request_map {link : Link} (h : TablesPlaced Config.platform link) (hmsiPt : link.msiPt.toNat < 2 ^ 56) {mrif : Word}
    (ha : Aligned mrif 9) (hf : Fits mrif 56) {m : Bytes.Mem} (hz : TablesZeroed link m) (ddt : Ddt) (pt : MsiPt)
    (setters : List DcSetter) (calls : List Stage) (q : TransRequest) :
    (ddtAfter link setters ddt did).resolve (msiPtInit mrif pt) (switches link calls (initTables link m)) q =
      requestMap mrif (modesAfter setters) (fun stage => calls.count stage % 2 == 1) q := by
  have hbuilt : AsBuilt link (initTables link m) := by
    unfold initTables
    exact asBuilt_init h hz
  rw [ddtAfter_did]
  exact resolve_eq h hmsiPt (tablesAt_switches h hbuilt calls) (fun i hi => MsiAux.entry_msiPtInit ha hf pt hi) _ q

/-- The theorem at a write to the page `WSI_W`, with both stages on and one switch: the second stage refuses it. -/
theorem request_map_at :
    (ddtAfter Link.compact [.iosatpSv39, .iohgatpSv39x4, .msiFlat] (fun _ => ⟨0, 0, 0, 0, 0, 0, 0, 0⟩) did).resolve
      (msiPtInit 0x80034000#64 fun _ => 0#64) (switches Link.compact [.first] (initTables Link.compact fun _ => 0#8))
      (.ofWrite (virt .wsiW)) = .error .storeGuestPageFault := by
  have hmap := @request_map Link.compact tablesPlaced_compact (by decide) 0x80034000#64 (by decide) (by decide) (fun _ => 0#8)
    ⟨fun _ _ => rfl, fun _ _ => rfl, fun _ _ => rfl⟩ (fun _ => ⟨0, 0, 0, 0, 0, 0, 0, 0⟩) (fun _ => 0#64)
    [.iosatpSv39, .iohgatpSv39x4, .msiFlat] [.first] (.ofWrite (virt .wsiW))
  rw [hmap]
  decide

end RvIommuTests
