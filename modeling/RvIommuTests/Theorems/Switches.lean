import RvIommuTests.Lemmas.Switches
import RvIommuTests.Theorems.AddressMap

/-!
# The parity of the switches

What any sequence of `s1pt_switch` and `s2pt_switch` does to two-stage translation, and what both builders make of the tables
afterwards.
-/

namespace RvIommuTests

open Bytes Tables Paging PageTablesAux WalksAux DdtCacheAux IotlbAux SwitchesAux

/-- Both builders, in the order of `init_iommu`. -/
def initTables (link : Link) (m : Mem) : Mem := s1ptInit Config.platform link (s2ptInit Config.platform link m)

/-- An address in the page of `virt_page_base`. -/
def InTestPage (p : TestPage) (gva : Word) : Prop :=
  (virtPageBase p.index).toNat ≤ gva.toNat ∧ gva.toNat < (virtPageBase p.index).toNat + pageSize

/-- An address is translated to one of the page of `phys_page_base`, and both stages give read and write permission. -/
def TranslatesRW (link : Link) (m : Mem) (write : Bool) (p q : TestPage) (gva : Word) : Prop :=
  ∃ flags₁ flags₂ : Word, twoStage link m write gva =
      some ((physPageBase Config.platform q.index).toNat + (gva.toNat - (virtPageBase p.index).toNat), flags₁, flags₂) ∧
    flags₁.getLsbD 1 = true ∧ flags₁.getLsbD 2 = true ∧ flags₂.getLsbD 1 = true ∧ flags₂.getLsbD 2 = true

namespace SwitchesAux

variable {link : Link} {t : PtTable} {i : Nat} {m : Mem} {write : Bool} {va : Nat}

/-! ## Addresses outside of the pages -/

/-- The first stage of a two-stage translation reads the built tables. -/
theorem readsBuilt_nested (h : TablesPlaced Config.platform link) (hm : AsBuilt link m) (modes : DcModes) :
    ReadsBuilt Config.platform link ((dcAt link modes).firstRead (memReads m)) := by
  intro t i hi
  have hok : ReadsOk link (memReads m) := fun _ => hm.memOk
  rw [firstRead_inStage h hok modes ⟨t, i, rfl, hi, rfl⟩]
  exact congrArg some (hm t i hi)

/-- A switch leaves the translation of every other address as it was. -/
theorem twoStage_outside (h : TablesPlaced Config.platform link) (hm : AsBuilt link m) (calls : List Stage) (write : Bool)
    {gva : Word} (hva : Outside gva.toNat) : twoStage link (switches link calls m) write gva = twoStage link m write gva := by
  rw [twoStage_eq h ⟨true, true, true⟩ rfl rfl, twoStage_eq h ⟨true, true, true⟩ rfl rfl,
    firstStage_outside h hm calls _ write hva]
  have hwalk := @AddressMapAux.s1_walk link _ write h (readsBuilt_nested h hm ⟨true, true, true⟩) gva.toNat
  unfold Dc.firstStage
  rw [dcAt_sv39, if_pos rfl, root_first h]
  rcases hwalk with ⟨hmapped, flags, hwalk⟩ | ⟨-, hwalk⟩
  · rw [hwalk, Option.bind_some, Option.bind_some, secondStage_outside h hm calls _ write hva hmapped]
  · rw [hwalk, Option.bind_none, Option.bind_none]

/-! ## The pages -/

theorem iterate_switch_page (hi : i = 27 ∨ i = 28) (n : Nat) : switch^[n] i = 27 ∨ switch^[n] i = 28 := by
  induction n with
  | zero => exact hi
  | succ n ih =>
    rw [Function.iterate_succ_apply']
    rcases ih with ih | ih
    · exact Or.inr (by rw [ih]; exact Equiv.swap_apply_left 27 28)
    · exact Or.inl (by rw [ih]; exact Equiv.swap_apply_right 27 28)

/-- Every call is for one of the two stages, so the calls for each add up to all calls. -/
theorem count_stages (calls : List Stage) : calls.count .second + calls.count .first = calls.length := by
  induction calls with
  | nil => rfl
  | cons stage calls ih =>
    cases stage with
    | first => rw [List.count_cons_self, List.count_cons_of_ne (by decide), List.length_cons]; omega
    | second => rw [List.count_cons_self, List.count_cons_of_ne (by decide), List.length_cons]; omega

/-- A page that is switched is translated to the page that the number of all switches leads to. -/
theorem twoStage_page (h : TablesPlaced Config.platform link) (hm : AsBuilt link m) (calls : List Stage) (write : Bool)
    (hi : i = 27 ∨ i = 28) (off : Nat) (hoff : off < 2 ^ 12) {gva : Word} (hgva : gva.toNat = 0x100000000 + i * 0x1000 + off) :
    twoStage link (switches link calls m) write gva = some (0x88000000 + switch^[calls.length] i * 0x1000 + off,
      pageFlags PagePerm.stage1 (switch^[calls.count .first] i), pageFlags PagePerm.stage2 (switch^[calls.length] i)) := by
  have hok : ReadsOk link (memReads (switches link calls m)) := fun _ => memOk_switches h hm.memOk calls
  have hentry : ∀ (t : PtTable) i, i < t.size →
      memReads (switches link calls m) t.stage ((t.base link).toNat + 8 * i) = made link t (switched calls t i) :=
    fun t i hi => entryAt_switches h hm calls hi
  have hj := iterate_switch_page hi (calls.count .first)
  have hk := iterate_switch_page hi calls.length
  have hjk : switch^[calls.count .second] (switch^[calls.count .first] i) = switch^[calls.length] i := by
    rw [← Function.iterate_add_apply, count_stages]
  generalize hja : switch^[calls.count .first] i = j at hj hjk
  generalize hka : switch^[calls.length] i = k at hk hjk
  have hleaf₁ : switched calls (.s1 3) i = j := hja
  have hleaf₂ : switched calls (.s2 2) j = k := hjk
  have hfirst := (firstStage_page h hok ⟨true, true, true⟩ rfl (hentry (.s1 0) 4 (by decide)) (hentry (.s1 2) 0 (by decide))
    i off hgva (by omega) (by omega) (pageMapped_switch hj).1 hoff
    (hleaf₁ ▸ hentry (.s1 3) i (by simp only [PtTable.size]; omega)) write).1
  have hsecond := @secondStage_page link _ h ⟨true, true, true⟩ rfl (hentry .root 4 (by decide))
    (hentry (.s2 1) 0 (by decide)) j off k _ rfl (by omega) (by omega) (pageMapped_switch hk).2 hoff
    (hleaf₂ ▸ hentry (.s2 2) j (by simp only [PtTable.size]; omega)) write
  rw [twoStage_eq h ⟨true, true, true⟩ rfl rfl, hfirst, Option.bind_some, hsecond]
  rfl

/-- After an even number of switches, a page that is switched is translated to its own page, and after an odd number to the
other. -/
theorem translatesRW_page (h : TablesPlaced Config.platform link) (hm : AsBuilt link m) (calls : List Stage) (write : Bool)
    {p q : TestPage} (hpq : p = .switch1 ∧ q = .switch2 ∨ p = .switch2 ∧ q = .switch1) {gva : Word} (hgva : InTestPage p gva) :
    TranslatesRW link (switches link calls m) write p (if calls.length % 2 = 0 then p else q) gva := by
  have hi : p.index = 27 ∨ p.index = 28 := by rcases hpq with ⟨rfl, -⟩ | ⟨rfl, -⟩ <;> decide
  have hvirt : (virtPageBase p.index).toNat = 0x100000000 + p.index * 0x1000 := by
    rcases hpq with ⟨rfl, -⟩ | ⟨rfl, -⟩ <;> rfl
  have hphys : (physPageBase Config.platform (if calls.length % 2 = 0 then p else q).index).toNat =
      0x88000000 + switch^[calls.length] p.index * 0x1000 := by
    have hq : switch p.index = q.index := by
      rcases hpq with ⟨rfl, rfl⟩ | ⟨rfl, rfl⟩
      · exact Equiv.swap_apply_left 27 28
      · exact Equiv.swap_apply_right 27 28
    split
    · rename_i heven
      rw [switch_involutive.iterate_even (Nat.even_iff.2 heven)]
      rcases hpq with ⟨rfl, -⟩ | ⟨rfl, -⟩ <;> rfl
    · rename_i hodd
      rw [switch_involutive.iterate_odd (Nat.odd_iff.2 (by omega)), hq]
      rcases hpq with ⟨-, rfl⟩ | ⟨-, rfl⟩ <;> rfl
  obtain ⟨hlo, hhi⟩ := hgva
  simp only [pageSize] at hhi
  have hrun := @twoStage_page link _ m h hm calls write hi (gva.toNat - (virtPageBase p.index).toNat) (by omega) gva (by omega)
  have hflags : ∀ j, j = 27 ∨ j = 28 → (pageFlags PagePerm.stage1 j).getLsbD 1 = true ∧
      (pageFlags PagePerm.stage1 j).getLsbD 2 = true ∧ (pageFlags PagePerm.stage2 j).getLsbD 1 = true ∧
      (pageFlags PagePerm.stage2 j).getLsbD 2 = true := by
    intro j h
    rcases h with rfl | rfl <;> decide
  obtain ⟨hr₁, hw₁, -, -⟩ := hflags _ (iterate_switch_page hi (calls.count .first))
  obtain ⟨-, -, hr₂, hw₂⟩ := hflags _ (iterate_switch_page hi calls.length)
  refine ⟨_, _, ?_, hr₁, hw₁, hr₂, hw₂⟩
  rw [hrun, hphys]

/-! ## The builders once more -/

/-- Entries that neither builder writes are zero after a sequence of switches. -/
theorem made_unwritten (hu : Unwritten t i) : made link t i = 0#64 ∧ t ≠ switchedTable t.stage := by
  refine ⟨built_unwritten hu, ?_⟩
  rcases hu.cases with ⟨rfl, -⟩ | ⟨rfl, -⟩ | ⟨rfl, -⟩ <;> decide

/-- The builders make of switched tables what they have made of zeroed ones. -/
theorem asBuilt_again (h : TablesPlaced Config.platform link) (hm : AsBuilt link m) (calls : List Stage) :
    AsBuilt link (initTables link (switches link calls m)) := by
  intro t i hi
  refine (entryAt_view h _ t i).trans (view_init h Config.platform_regular ?_ hi)
  intro t i hi hu
  obtain ⟨hzero, hne⟩ := @made_unwritten link t i hu
  rw [← entryAt_view h, entryAt_switches h hm calls hi, switched, if_neg hne, hzero]

end SwitchesAux

/-- After the builders have run on zeroed tables, any sequence of switches, the two stages in any order, leaves the translation of
every address outside of the pages `SWITCH1` and `SWITCH2` as it was; these two pages are translated to their own pages when the
number of switches is even and to each other's when it is odd; and the builders make the same tables once more. -/
theorem page_switch_parity {link : Link} (h : TablesPlaced Config.platform link) {m : Mem} (hz : TablesZeroed link m)
    (calls : List Stage) :
    let m₀ := initTables link m
    let m' := switches link calls m₀
    (∀ write gva, ¬ InTestPage .switch1 gva → ¬ InTestPage .switch2 gva →
      twoStage link m' write gva = twoStage link m₀ write gva) ∧
    (∀ write gva, InTestPage .switch1 gva →
      TranslatesRW link m' write .switch1 (if calls.length % 2 = 0 then .switch1 else .switch2) gva) ∧
    (∀ write gva, InTestPage .switch2 gva →
      TranslatesRW link m' write .switch2 (if calls.length % 2 = 0 then .switch2 else .switch1) gva) ∧
    (∀ (t : PtTable) i, i < t.size → get (initTables link m') (t.base link) i = get m₀ (t.base link) i) := by
  have hm : AsBuilt link (initTables link m) := asBuilt_init h hz
  refine ⟨?_, ?_, ?_, ?_⟩
  · intro write gva h1 h2
    refine twoStage_outside h hm calls write ?_
    have hv1 : (virtPageBase TestPage.switch1.index).toNat = 0x10001B000 := rfl
    have hv2 : (virtPageBase TestPage.switch2.index).toNat = 0x10001C000 := rfl
    unfold InTestPage at h1 h2
    rw [hv1] at h1
    rw [hv2] at h2
    simp only [pageSize] at h1 h2
    unfold Outside
    omega
  · exact fun write gva hgva => translatesRW_page h hm calls write (Or.inl ⟨rfl, rfl⟩) hgva
  · exact fun write gva hgva => translatesRW_page h hm calls write (Or.inr ⟨rfl, rfl⟩) hgva
  · intro t i hi
    have hagain := (asBuilt_again h hm calls t i hi).trans (hm t i hi).symm
    rw [entryAt_view h, entryAt_view h] at hagain
    exact hagain

/-- The theorem at three switches: the page `SWITCH1` is translated to the page of `SWITCH2`. -/
theorem page_switch_parity_at :
    ∃ flags₁ flags₂, twoStage Link.compact (switches Link.compact [.first, .second, .first]
      (initTables Link.compact fun _ => 0#8)) true (virtPageBase TestPage.switch1.index) = some (0x8801C000, flags₁, flags₂) := by
  obtain ⟨flags₁, flags₂, hrun, -⟩ := (page_switch_parity tablesPlaced_compact (m := fun _ => 0#8)
    ⟨fun _ _ => rfl, fun _ _ => rfl, fun _ _ => rfl⟩ [.first, .second, .first]).2.1 true
    (virtPageBase TestPage.switch1.index) ⟨Nat.le_refl _, by decide⟩
  exact ⟨flags₁, flags₂, hrun⟩

end RvIommuTests
