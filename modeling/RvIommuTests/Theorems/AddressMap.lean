import RvIommuTests.Lemmas.Walks

/-!
# The page tables implement the address map

What a walk of either stage makes of every address, after both builders have run on zeroed tables.
-/

namespace RvIommuTests

open Bytes Paging WalksAux

namespace AddressMapAux

variable {link : Link} {read : Nat → Option Pte} {write : Bool} {va : Nat}

/-! ## The first stage -/

/-- Among the 4-KiB pages of the first stage, the page of an address decides. -/
theorem s1Mapped_page (hlo : 0x100000000 ≤ va) (hhi : va < 0x100400000) :
    S1Mapped va ↔ pageMapped PagePerm.stage1 (va / 2 ^ 12 % 512) = true := by
  constructor
  · intro h
    rcases h with h | ⟨-, h⟩ | ⟨h, -⟩ | ⟨i, hi, hm, hp⟩
    · omega
    · omega
    · omega
    · have hpage : i = va / 2 ^ 12 % 512 := by
        simp only [InPage, pageSize] at hp
        omega
      rwa [← hpage]
  · intro hm
    refine Or.inr (Or.inr (Or.inr ⟨va / 2 ^ 12 % 512, Nat.mod_lt _ (by decide), hm, ?_⟩))
    simp only [InPage, pageSize]
    omega

/-- Three ranges of addresses that no entry of the first stage maps. -/
theorem not_s1Mapped (h : (0xC8000000 ≤ va ∧ va < 0x100000000) ∨ (0x100400000 ≤ va ∧ va < 0x140000000) ∨ 0x180000000 ≤ va) :
    ¬ S1Mapped va := by
  intro h'
  rcases h' with h' | h' | h' | ⟨i, hi, -, hp⟩
  · omega
  · omega
  · omega
  · simp only [InPage, pageSize] at hp
    omega

/-- The walk of an address that is mapped gives the address back. -/
theorem s1_walk (h : TablesPlaced Config.platform link) (H : ReadsBuilt Config.platform link read) (va : Nat) :
    (S1Mapped va ∧ ∃ flags, walk sv39 read write link.s1pt.toNat va = some (va, flags)) ∨
      (¬ S1Mapped va ∧ walk sv39 read write link.s1pt.toNat va = none) := by
  have hc := Config.platform_regular
  have hcount : Config.platform.memSize / superpageSize 1 / 2 = 64 := rfl
  have hmid := @s1_mid Config.platform link read write va h hc H
  have hnone := @mid_none Config.platform link read write va h hc H .first
  dsimp only [Stage.scheme, Stage.rootTable] at hnone
  rw [hcount] at hmid hnone
  rw [← base_s1pt link]
  by_cases h1 : va < 0xC0000000
  · exact Or.inl ⟨Or.inl h1, _, s1_low H h1⟩
  by_cases h2 : va < 0xC8000000
  · exact Or.inl ⟨Or.inr (Or.inl ⟨by omega, h2⟩), _, hmid (by omega) (by omega)⟩
  by_cases h3 : va < 0x100000000
  · exact Or.inr ⟨not_s1Mapped (by omega), hnone (by omega) h3⟩
  by_cases h4 : va < 0x100400000
  · rw [s1Mapped_page (by omega) h4, s1_pages h hc H (by omega) h4]
    by_cases hm : pageMapped PagePerm.stage1 (va / 2 ^ 12 % 512) = true
    · exact Or.inl ⟨hm, _, if_pos hm⟩
    · exact Or.inr ⟨hm, if_neg hm⟩
  by_cases h5 : va < 0x140000000
  · exact Or.inr ⟨not_s1Mapped (by omega), s1_gap h hc H (by omega) h5⟩
  by_cases h6 : va < 0x180000000
  · exact Or.inl ⟨Or.inr (Or.inr (Or.inl ⟨by omega, h6⟩)), _, s1_giant h hc H (by omega) h6⟩
  · exact Or.inr ⟨not_s1Mapped (by omega), s1_high H (by omega)⟩

/-! ## The second stage -/

/-- The test pages of the platform start at `0x88000000`, in the middle of its memory. -/
theorem testPpageBase_platform : (testPpageBase Config.platform).toNat = 0x88000000 := rfl

/-- An address in a window of 4-KiB pages. -/
def InWindow (va : Nat) : Prop :=
  (va / 2 ^ 30 = 4 ∨ va / 2 ^ 30 = 2047) ∧ (va / 2 ^ 21 % 512 = 0 ∨ va / 2 ^ 21 % 512 = 1 ∨ va / 2 ^ 21 % 512 = 511)

/-- The page of an address in a window: there the second stage maps what the permission table says. -/
theorem window_page {window i : Nat} (hw : window ∈ s2Windows) (hi : i < 512) (hp : InPage window i va) :
    InWindow va ∧ i = va / 2 ^ 12 % 512 ∧ va - window = va % 2 ^ 21 := by
  simp only [s2Windows, List.mem_cons, List.not_mem_nil, or_false] at hw
  simp only [InPage, pageSize] at hp
  unfold InWindow
  rcases hw with rfl | rfl | rfl | rfl | rfl | rfl <;> omega

/-- An address of a window lies in one of its pages. -/
theorem window_of (h : InWindow va) : ∃ window ∈ s2Windows, InPage window (va / 2 ^ 12 % 512) va := by
  refine ⟨va / 2 ^ 21 * 2 ^ 21, ?_, ?_⟩
  · simp only [s2Windows, List.mem_cons, List.not_mem_nil, or_false]
    unfold InWindow at h
    omega
  · simp only [InPage, pageSize]
    omega

/-- In a window of the test pages an address is mapped when its page is, to the same offset of the test pages. -/
theorem s2Maps_window (h : InWindow va) (spa : Nat) :
    S2Maps va spa ↔ pageMapped PagePerm.stage2 (va / 2 ^ 12 % 512) = true ∧ spa = 0x88000000 + va % 2 ^ 21 := by
  unfold S2Maps
  rw [testPpageBase_platform]
  constructor
  · intro h'
    rcases h' with h' | h' | h' | ⟨w, hw, i, hi, hm, hp, hs⟩
    · unfold InWindow at h
      omega
    · unfold InWindow at h
      omega
    · unfold InWindow at h
      omega
    · obtain ⟨-, rfl, hoff⟩ := window_page hw hi hp
      exact ⟨hm, hs.trans (by rw [hoff])⟩
  · rintro ⟨hm, hs⟩
    obtain ⟨w, hw, hp⟩ := window_of h
    obtain ⟨-, -, hoff⟩ := window_page hw (Nat.mod_lt _ (by decide)) hp
    exact Or.inr (Or.inr (Or.inr ⟨w, hw, _, Nat.mod_lt _ (by decide), hm, hp, hs.trans (by rw [hoff])⟩))

/-- Outside of the windows of the test pages the second stage maps three ranges, each with a constant distance. -/
theorem s2Maps_range (h : ¬ InWindow va) (spa : Nat) :
    S2Maps va spa ↔ (va < 0xC0000000 ∧ spa = va) ∨ (0xC0000000 ≤ va ∧ va < 0xC8000000 ∧ spa = va - 0x40000000) ∨
      (0x140000000 ≤ va ∧ va < 0x180000000 ∧ spa = 0x88000000 + (va - 0x140000000)) := by
  unfold S2Maps
  rw [testPpageBase_platform]
  constructor
  · intro h'
    rcases h' with h' | h' | h' | ⟨w, hw, i, hi, -, hp, -⟩
    · exact Or.inl h'
    · exact Or.inr (Or.inl h')
    · exact Or.inr (Or.inr h')
    · exact absurd (window_page hw hi hp).1 h
  · intro h'
    rcases h' with h' | h' | h'
    · exact Or.inl h'
    · exact Or.inr (Or.inl h')
    · exact Or.inr (Or.inr (Or.inl h'))

/-- The walk of an address that is mapped gives the address it is mapped to. -/
theorem s2_walk (h : TablesPlaced Config.platform link) (H : ReadsBuilt Config.platform link read) (va : Nat) :
    (∃ spa flags, walk sv39x4 read write link.s2ptRoot.toNat va = some (spa, flags) ∧ ∀ spa', S2Maps va spa' ↔ spa' = spa) ∨
      (walk sv39x4 read write link.s2ptRoot.toNat va = none ∧ ∀ spa, ¬ S2Maps va spa) := by
  have hc := Config.platform_regular
  have hcount : Config.platform.memSize / superpageSize 1 / 2 = 64 := rfl
  have hbase : Config.platform.memBase = 0x80000000 := rfl
  have hhalf : Config.platform.memBase + Config.platform.memSize / 2 = 0x88000000 := rfl
  have hmid := @s2_mid Config.platform link read write va h hc H
  have hnone := @mid_none Config.platform link read write va h hc H .second
  dsimp only [Stage.scheme, Stage.rootTable] at hnone
  have hpages := @s2_pages Config.platform link read write va h hc H
  have hgiant := @s2_giant Config.platform link read write va h hc H
  rw [hcount] at hmid hnone
  rw [hbase] at hmid
  rw [hhalf] at hpages hgiant
  rw [show link.s2ptRoot = PtTable.root.base link from rfl]
  by_cases hw : InWindow va
  · simp only [s2Maps_window hw]
    rw [hpages hw.1 hw.2]
    by_cases hm : pageMapped PagePerm.stage2 (va / 2 ^ 12 % 512) = true
    · exact Or.inl ⟨_, _, if_pos hm, fun spa' => ⟨fun h => h.2, fun h => ⟨hm, h⟩⟩⟩
    · exact Or.inr ⟨if_neg hm, fun spa h => hm h.1⟩
  · simp only [s2Maps_range hw]
    by_cases h1 : va < 0xC0000000
    · exact Or.inl ⟨_, _, s2_low H h1, fun spa' => by omega⟩
    by_cases h2 : va < 0xC8000000
    · exact Or.inl ⟨_, _, hmid (by omega) (by omega), fun spa' => by omega⟩
    by_cases h3 : va < 0x100000000
    · exact Or.inr ⟨hnone (by omega) h3, fun spa => by omega⟩
    by_cases h4 : va / 2 ^ 30 = 4 ∨ va / 2 ^ 30 = 2047
    · have hne := fun hm => hw ⟨h4, hm⟩
      exact Or.inr ⟨s2_gap h hc H h4 (fun hm => hne (Or.inl hm)) (fun hm => hne (Or.inr (Or.inl hm)))
        (fun hm => hne (Or.inr (Or.inr hm))), fun spa => by omega⟩
    by_cases h5 : va < 0x180000000
    · exact Or.inl ⟨_, _, hgiant (by omega), fun spa' => by omega⟩
    · exact Or.inr ⟨s2_other H (by omega) (by omega), fun spa => by omega⟩

end AddressMapAux

open AddressMapAux

/-- After the builders have run on zeroed tables, wherever the linker has put them, a walk of either stage satisfies for every
address: the first stage gives an address back or faults, and it faults exactly outside of the pages the tests use; the second
stage gives exactly what the address map says. -/
theorem page_tables_map {link : Link} (h : TablesPlaced Config.platform link) {m : Mem} (hz : TablesZeroed link m)
    (write : Bool) :
    let m' := s1ptInit Config.platform link (s2ptInit Config.platform link m)
    (∀ gva gpa flags, firstStage link m' write gva = some (gpa, flags) → gpa = gva.toNat) ∧
    (∀ gva, (firstStage link m' write gva).isSome = true ↔ S1Mapped gva.toNat) ∧
    (∀ gpa spa, (∃ flags, secondStage link m' write gpa = some (spa, flags)) ↔ S2Maps gpa.toNat spa) := by
  have H := readsBuilt_init h Config.platform_regular hz
  refine ⟨?_, ?_, ?_⟩
  · intro gva gpa flags hs
    rcases @s1_walk link _ write h H gva.toNat with ⟨-, f, hw⟩ | ⟨-, hw⟩
    · unfold firstStage at hs
      rw [hw] at hs
      cases hs
      rfl
    · unfold firstStage at hs
      rw [hw] at hs
      cases hs
  · intro gva
    rcases @s1_walk link _ write h H gva.toNat with ⟨hm, f, hw⟩ | ⟨hm, hw⟩
    · unfold firstStage
      rw [hw]
      exact ⟨fun _ => hm, fun _ => rfl⟩
    · unfold firstStage
      rw [hw]
      exact ⟨fun hf => (by cases hf), fun hf => absurd hf hm⟩
  · intro gpa spa
    rcases @s2_walk link _ write h H gpa.toNat with ⟨spa', f, hw, hm⟩ | ⟨hw, hm⟩
    · unfold secondStage
      rw [hw, hm]
      constructor
      · rintro ⟨flags, hf⟩
        cases hf
        rfl
      · rintro rfl
        exact ⟨f, rfl⟩
    · unfold secondStage
      rw [hw]
      exact ⟨fun ⟨flags, hf⟩ => (by cases hf), fun hf => absurd hf (hm spa)⟩

/-- The compact image has its tables placed in the RAM, apart from each other and on pages. -/
theorem tablesPlaced_compact : TablesPlaced Config.platform Link.compact := by
  constructor <;> decide

/-- The theorem at the compact placement and a memory of zeros: the second stage takes the address of the 2-MiB test to where the
test expects it. -/
theorem page_tables_map_at :
    ∃ flags, secondStage Link.compact
      (s1ptInit Config.platform Link.compact (s2ptInit Config.platform Link.compact fun _ => 0#8)) true 0xC4000000#64 =
        some (0x84000000, flags) :=
  ((page_tables_map tablesPlaced_compact (m := fun _ => 0#8) ⟨fun _ _ => rfl, fun _ _ => rfl, fun _ _ => rfl⟩ true).2.2
    0xC4000000#64 0x84000000).2 (Or.inr (Or.inl (by decide)))

end RvIommuTests
