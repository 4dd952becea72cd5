import RvIommuTests.RegisterMap

/-!
# Every access reaches its own register

The layout of the structures, from the rules for packed aggregates.
-/

namespace RvIommuTests

open Packed

namespace RegisterMapAux

/-! ## Paths -/

/-- The member at a path. -/
def memberAt : List Nat → Option IommuMember
  | [0] => some .capabilities
  | [1] => some .fctl
  | [2] => some .reserved0
  | [3] => some .ddtp
  | [4] => some .cqb
  | [5] => some .cqh
  | [6] => some .cqt
  | [7] => some .fqb
  | [8] => some .fqh
  | [9] => some .fqt
  | [10] => some .pqb
  | [11] => some .pqh
  | [12] => some .pqt
  | [13] => some .cqcsr
  | [14] => some .fqcsr
  | [15] => some .pqcsr
  | [16] => some .ipsr
  | [17] => some .iocntovf
  | [18] => some .iocntinh
  | [19] => some .iohpmcycles
  | [20, i] => some (.iohpmctr i)
  | [21, i] => some (.iohpmevt i)
  | [22, 0] => some .trReqIova
  | [22, 1] => some .trReqCtl
  | [22, 2] => some .trResponse
  | [23, i] => some (.reserved i)
  | [24, i] => some (.custom i)
  | [25] => some .icvec
  | [26, i, 0] => some (.msiCfgTblAddr i)
  | [26, i, 1] => some (.msiCfgTblData i)
  | [26, i, 2] => some (.msiCfgTblVctl i)
  | _ => none

theorem memberAt_path (m : IommuMember) : memberAt m.path = some m := by
  cases m <;> rfl

/-- Different registers of one device have different paths. -/
theorem path_ne {r r' : Mmio} (hbase : r.base = r'.base) (hne : r ≠ r') : r.path ≠ r'.path := by
  intro hpath
  cases r with
  | iommu m =>
    cases r' with
    | iommu m' =>
      have hsome : some m = some m' := by
        rw [← memberAt_path m, ← memberAt_path m']
        exact congrArg memberAt hpath
      exact hne (congrArg Mmio.iommu (Option.some.inj hsome))
    | _ => cases hbase
  | idma r =>
    cases r' with
    | idma r' => cases r <;> cases r' <;> first | exact hne rfl | cases hpath
    | _ => cases hbase
  | uart r =>
    cases r' with
    | uart r' => cases r <;> cases r' <;> first | exact hne rfl | cases hpath
    | _ => cases hbase

/-! ## Offsets -/

/-- The offset of every member, with the indices of the arrays as they are. -/
theorem offset_eq (m : IommuMember) :
    m.offset = match m with
      | .iohpmctr i => 0x68 + 8 * i
      | .iohpmevt i => 0x160 + 8 * i
      | .reserved i => 0x270 + 8 * i
      | .custom i => 0x2b0 + 8 * i
      | .msiCfgTblAddr i => 0x300 + 16 * i
      | .msiCfgTblData i => 0x308 + 16 * i
      | .msiCfgTblVctl i => 0x30c + 16 * i
      | m => m.offset := by
  cases m <;>
    simp only [IommuMember.offset, IommuMember.path, iommuTy, iommuDebugTy, iommuMsiCfgTableTy, iommuMaxHpmCounters,
      iommuMaxMsiCfgTable, Ty.struct, List.foldr, Ty.offset, Ty.size, u64, u32] <;>
    omega

/-- The macros for an entry of the MSI configuration table are 16 bytes apart from those of the next one. -/
theorem msiOffsets_get {i : Nat} {x : Nat × Nat × Nat} (h : iommuMsiOffsets[i]? = some x) :
    x = (0x300 + 16 * i, 0x308 + 16 * i, 0x30c + 16 * i) := by
  have hall : ∀ j < 16, iommuMsiOffsets[j]? = some (0x300 + 16 * j, 0x308 + 16 * j, 0x30c + 16 * j) := by decide
  obtain ⟨hlt, -⟩ := List.getElem?_eq_some_iff.mp h
  rw [hall i hlt] at h
  exact (Option.some.inj h).symm

/-- Where a macro gives an offset, it is the one of the member. -/
theorem headerOffset_eq {m : IommuMember} {o : Nat} (h : m.headerOffset = some o) : m.offset = o := by
  rw [offset_eq]
  cases m with
  | iohpmctr i =>
    simp only [IommuMember.headerOffset] at h
    split at h <;> grind
  | iohpmevt i =>
    simp only [IommuMember.headerOffset] at h
    split at h <;> grind
  | msiCfgTblAddr i =>
    obtain ⟨x, hx, rfl⟩ := Option.map_eq_some_iff.mp h
    rw [msiOffsets_get hx]
  | msiCfgTblData i =>
    obtain ⟨x, hx, rfl⟩ := Option.map_eq_some_iff.mp h
    rw [msiOffsets_get hx]
  | msiCfgTblVctl i =>
    obtain ⟨x, hx, rfl⟩ := Option.map_eq_some_iff.mp h
    rw [msiOffsets_get hx]
  | reserved0 | pqb | pqh | pqt | pqcsr | reserved i | custom i => cases h
  | _ => exact Option.some.inj h

/-- A register lies in the page of its device, on a multiple of its width. -/
theorem addr_aligned {r : Mmio} {w : Nat} (h : r.width = some w) :
    r.addr % w = 0 ∧ r.base ≤ r.addr ∧ r.addr + w ≤ r.base + 0x1000 := by
  have hle : r.ty.offset r.path + w ≤ r.ty.size := Ty.offset_add_le _ h
  have hsize : r.ty.size ≤ 0x1000 := by
    rcases r with m | r | r
    · exact (by decide : iommuTy.size ≤ 0x1000)
    · exact (by decide : idmaTy.size ≤ 0x1000)
    · exact (by decide : uart8250Ty.size ≤ 0x1000)
  refine ⟨?_, Nat.le_add_right _ _, by unfold Mmio.addr; omega⟩
  unfold Mmio.addr
  cases r with
  | iommu m =>
    have hoff : iommuTy.offset m.path = _ := offset_eq m
    simp only [Mmio.ty, Mmio.path, Mmio.base, hoff]
    cases m with
    | iohpmctr i | iohpmevt i | reserved i | custom i | msiCfgTblAddr i | msiCfgTblData i | msiCfgTblVctl i =>
      have hw := (Ty.width_array h).2
      cases hw
      simp only
      omega
    | _ =>
      cases h
      rfl
  | idma r => cases r <;> cases h <;> rfl
  | uart r => cases r <;> cases h <;> rfl

/-- Registers of different devices are in different pages, as the devices are. -/
theorem base_apart {r r' : Mmio} (h : r.base ≠ r'.base) : r.base + 0x1000 ≤ r'.base ∨ r'.base + 0x1000 ≤ r.base := by
  cases r <;> cases r' <;> simp only [Mmio.base] at h ⊢ <;> omega

/-- Two registers have no byte in common, neither of one device nor of two. -/
theorem addr_disjoint {r r' : Mmio} {w w' : Nat} (hr : r.width = some w) (hr' : r'.width = some w') (hne : r ≠ r') :
    r.addr + w ≤ r'.addr ∨ r'.addr + w' ≤ r.addr := by
  by_cases hbase : r.base = r'.base
  · have hpath := path_ne hbase hne
    have hty : r.ty = r'.ty := by
      cases r <;> cases r' <;> first | rfl | cases hbase
    unfold Mmio.addr
    rw [Mmio.width, ← hty] at hr'
    have := Ty.disjoint r.ty hr hr' hpath
    rw [hbase, ← hty]
    omega
  · have h := addr_aligned hr
    have h' := addr_aligned hr'
    have := base_apart hbase
    omega

/-- An access that the code makes to a register has the width that the structure gives the register. -/
theorem register_width {io : DevIo} {r : Mmio} {w v : Nat} (h : io.register = some (r, w)) (hv : r.width = some v) : w = v := by
  cases io with
  | queue q =>
    cases q with
    | read32 r => cases r <;> cases h <;> cases hv <;> rfl
    | write32 r w => cases r <;> cases h <;> cases hv <;> rfl
    | writeReg64 r w => cases r <;> cases h <;> cases hv <;> rfl
    | _ => cases h
  | idma q =>
    cases q with
    | read64 r => cases r <;> cases h <;> cases hv <;> rfl
    | write64 r w => cases r <;> cases h <;> cases hv <;> rfl
  | getCtl32 r | setCtl32 r w =>
    cases r with
    | msiCfgTblVctl i =>
      cases h
      cases (Ty.width_array hv).2
      rfl
    | _ =>
      cases h
      cases hv
      rfl
  | getCtl64 r | setCtl64 r w =>
    cases r with
    | iohpmctr i | iohpmevt i =>
      cases h
      cases (Ty.width_array hv).2
      rfl
    | _ =>
      cases h
      cases hv
      rfl
  | _ => cases h

end RegisterMapAux

open RegisterMapAux

/-- Each offset in `rv_iommu.h` is the offset of its member of `iommu_t`. Different registers of the three devices have no byte in
common, each lies in the page of its device on a multiple of its width, and an access of a test has the width of its register. An
index out of bounds reaches another register: counter `j + 31` is event selector `j`. -/
theorem register_map :
    (∀ (m : IommuMember) (o : Nat), m.headerOffset = some o → m.offset = o) ∧
      (∀ (r r' : Mmio) (w w' : Nat), r.width = some w → r'.width = some w' → r ≠ r' →
        r.addr + w ≤ r'.addr ∨ r'.addr + w' ≤ r.addr) ∧
      (∀ (r : Mmio) (w : Nat), r.width = some w → r.addr % w = 0 ∧ r.base ≤ r.addr ∧ r.addr + w ≤ r.base + 0x1000) ∧
      (∀ (io : DevIo) (r : Mmio) (w v : Nat), io.register = some (r, w) → r.width = some v → w = v) ∧
      ∀ i j : Nat, (IommuMember.iohpmctr i).offset = (IommuMember.iohpmevt j).offset ↔ i = j + 31 := by
  refine ⟨fun _ _ => headerOffset_eq, fun _ _ _ _ => addr_disjoint, fun _ _ => addr_aligned, fun _ _ _ _ => register_width, ?_⟩
  intro i j
  rw [offset_eq, offset_eq]
  simp only
  omega

end RvIommuTests
