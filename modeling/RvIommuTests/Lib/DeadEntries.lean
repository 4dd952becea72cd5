import RvIommuTests.Lib.Paging

/-!
# Entries through which nothing is translated

Whether an entry of a page table is dead: the hardware takes it neither for a page nor for a pointer to a table with an entry that
is not dead. It depends on the memory only, and on no address that is translated. A walk that comes to a dead entry finds nothing
(`descend_dead`), and any other entry lets some address through (`exists_of_not_dead`).
-/

namespace Paging

/-- At a level the hardware takes the entry for a page that may be read. -/
def Pte.maps (s : Scheme) (level : Nat) (p : Pte) : Bool :=
  p.valid && p.isLeaf && p.ppn % 2 ^ (9 * level) == 0 && p.flag 6 && (!s.user || p.flag 4)

/-- Above the lowest level the hardware takes the entry for a pointer. -/
def Pte.points (p : Pte) : Bool := p.valid && !p.isLeaf && !(p.flag 4 || p.flag 6 || p.flag 7)

/-- An entry of a level is dead in a memory. -/
def Dead (s : Scheme) (entry : Nat → Pte) : Nat → Pte → Prop
  | 0, p => p.maps s 0 = false
  | level + 1, p =>
    p.maps s (level + 1) = false ∧ (p.points = true → ∀ j < 512, Dead s entry level (entry (p.ppn * 2 ^ 12 + 8 * j)))

section Rules

variable {s : Scheme} {entry : Nat → Pte} {write : Bool} {level va table : Nat} {p : Pte}

/-- A step that ends in a page. -/
theorem maps_of_step {a : Nat} {flags : BitVec 64} (h : step s write level va p = .leaf a flags) : p.maps s level = true := by
  unfold step at h
  split at h
  · cases h
  · rename_i hv
    split at h
    · rename_i hl
      split at h
      · rename_i hc
        simp only [Bool.and_eq_true] at hc
        simp only [Pte.maps, Bool.and_eq_true]
        exact ⟨⟨⟨⟨by simpa using hv, hl⟩, hc.1.1.1⟩, hc.1.1.2⟩, hc.2⟩
      · cases h
    · split at h <;> cases h

/-- A read that meets a leaf which maps a page is translated there, with the flags of the leaf. -/
theorem step_of_maps (h : p.maps s level = true) (va : Nat) :
    step s false level va p = .leaf (p.ppn * 2 ^ 12 + va % 2 ^ pageBits level) p.flags := by
  simp only [Pte.maps, Bool.and_eq_true] at h
  obtain ⟨⟨⟨⟨hv, hl⟩, halign⟩, ha⟩, hu⟩ := h
  unfold step
  rw [hv, hl, halign, ha, hu]
  rfl

/-- A step that goes on has met a pointer, and goes on at the table the pointer leads to. -/
theorem points_of_step {table' : Nat} (h : step s write level va p = .next table') :
    p.points = true ∧ table' = p.ppn * 2 ^ 12 := by
  unfold step at h
  split at h
  · cases h
  · rename_i hv
    split at h
    · split at h <;> cases h
    · rename_i hl
      split at h
      · cases h
      · rename_i hc
        cases h
        refine ⟨?_, rfl⟩
        simp only [Bool.or_eq_true, not_or, Bool.not_eq_true] at hc
        simp only [Pte.points, hc.1.1.2, hc.1.2, hc.2, Bool.not_eq_true _ ▸ hl]
        simpa using hv

/-- A walk that meets a pointer above the lowest level goes on at the table it leads to. -/
theorem step_of_points (h : p.points = true) (va : Nat) :
    step s write (level + 1) va p = .next (p.ppn * 2 ^ 12) := by
  simp only [Pte.points, Bool.and_eq_true, Bool.not_eq_true', Bool.or_eq_false_iff] at h
  obtain ⟨⟨hv, hl⟩, ⟨hu, ha⟩, hd⟩ := h
  unfold step
  rw [hv, hl, hu, ha, hd]
  rfl

/-- An entry that is not valid is dead at every level, since it stops each walk that comes to it. -/
theorem dead_of_invalid (hp : p.valid = false) (level : Nat) : Dead s entry level p := by
  have hm : ∀ level, p.maps s level = false := by
    intro level
    rw [Pte.maps, hp]
    rfl
  have hpt : p.points = false := by
    rw [Pte.points, hp]
    rfl
  cases level with
  | zero => exact hm 0
  | succ level => exact ⟨hm _, fun h => nomatch hpt.symm.trans h⟩

/-- A dead entry stops every walk that comes to it, at whatever level up to the highest. -/
theorem descend_dead (hl : level ≤ 2) (h : Dead s entry level (entry (table + 8 * s.index level va))) :
    descend s (fun a => some (entry a)) write va level table = none := by
  induction level generalizing table with
  | zero =>
    rw [descend, Option.bind_some]
    cases hstep : step s write 0 va (entry (table + 8 * s.index 0 va)) with
    | leaf a flags => exact absurd (maps_of_step hstep) (Bool.eq_false_iff.1 h)
    | _ => rfl
  | succ level ih =>
    rw [descend, Option.bind_some]
    cases hstep : step s write (level + 1) va (entry (table + 8 * s.index (level + 1) va)) with
    | leaf a flags => exact absurd (maps_of_step hstep) (Bool.eq_false_iff.1 h.1)
    | fault => rfl
    | next table' =>
      obtain ⟨hp, rfl⟩ := points_of_step hstep
      refine ih (by omega) (h.2 hp _ ?_)
      unfold Scheme.index
      rw [if_neg (by omega)]
      exact Nat.mod_lt _ (by decide)

/-- An offset at a level is an index of the level below and an offset there. -/
theorem offset_split {j off : Nat} (hl : level < 2) (hj : j < 512) (hoff : off < 2 ^ pageBits level) :
    j * 2 ^ pageBits level + off < 2 ^ pageBits (level + 1) ∧
      ∀ va, va % 2 ^ pageBits (level + 1) = j * 2 ^ pageBits level + off →
        s.index level va = j ∧ va % 2 ^ pageBits level = off := by
  have hlevel : level = 0 ∨ level = 1 := by omega
  rcases hlevel with rfl | rfl
  · have hidx : ∀ va, s.index 0 va = va / 2 ^ 12 % 512 := fun _ => rfl
    simp only [pageBits, hidx] at *
    exact ⟨by omega, fun va hva => by omega⟩
  · have hidx : ∀ va, s.index 1 va = va / 2 ^ 21 % 512 := fun _ => rfl
    simp only [pageBits, hidx] at *
    exact ⟨by omega, fun va hva => by omega⟩

/-- Behind an entry that is not dead there is a page: some offset is translated, wherever the entry stands. -/
theorem exists_of_not_dead (hl : level ≤ 2) (h : ¬ Dead s entry level p) :
    ∃ off < 2 ^ pageBits level, ∀ va table, va % 2 ^ pageBits level = off → entry (table + 8 * s.index level va) = p →
      (descend s (fun a => some (entry a)) false va level table).isSome = true := by
  induction level generalizing p with
  | zero =>
    refine ⟨0, Nat.two_pow_pos _, ?_⟩
    rintro va table - rfl
    rw [descend, Option.bind_some, step_of_maps (Bool.not_eq_false _ ▸ h)]
    rfl
  | succ level ih =>
    by_cases hm : p.maps s (level + 1) = true
    · refine ⟨0, Nat.two_pow_pos _, ?_⟩
      rintro va table - rfl
      rw [descend, Option.bind_some, step_of_maps hm]
      rfl
    · have hm' : p.maps s (level + 1) = false := Bool.not_eq_true _ ▸ hm
      simp only [Dead, hm', true_and, not_forall] at h
      obtain ⟨hp, j, hj, hdead⟩ := h
      obtain ⟨off, hoff, hfound⟩ := ih (by omega) hdead
      obtain ⟨hlt, hsplit⟩ := offset_split (s := s) (by omega) hj hoff
      refine ⟨j * 2 ^ pageBits level + off, hlt, ?_⟩
      rintro va table hva rfl
      obtain ⟨hidx, hrest⟩ := hsplit va hva
      rw [descend, Option.bind_some, step_of_points hp]
      exact hfound va _ hrest (by rw [hidx])

end Rules

end Paging
