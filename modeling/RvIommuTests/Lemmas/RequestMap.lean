import RvIommuTests.RequestMap
import RvIommuTests.Theorems.Switches

/-!
# Requests against the tables in memory

The tables as the builders and any sequence of switches leave them (`TablesAt`). A walk comes to an entry that was exchanged only
with an address in the window of its page, and is one over the built tables otherwise.
-/

namespace RvIommuTests

open Bytes Tables Paging PageTablesAux WalksAux DdtCacheAux IotlbAux SwitchesAux

namespace RequestMapAux

variable {link : Link} {t : PtTable} {i : Nat} {m : Mem} {ex : Exchanged} {write : Bool} {va gpa : Nat} {q : TransRequest}

/-! ## The tables -/

/-- A stage that is not exchanged has each page at its own index. -/
theorem pageAt_false (i : Nat) : pageAt false i = i := rfl

/-- A stage that is exchanged has the two test pages at the index of the other. -/
theorem pageAt_true (i : Nat) : pageAt true i = switch i := rfl

/-- The index whose entry stands at an index of a table. -/
def placedAt (ex : Exchanged) (t : PtTable) (i : Nat) : Nat := if t = switchedTable t.stage then pageAt (ex t.stage) i else i

/-- The tables in memory are those that the builders made, with the entries of the two pages exchanged or not. -/
def TablesAt (link : Link) (ex : Exchanged) (m : Mem) : Prop :=
  ∀ (t : PtTable) i, i < t.size → entryAt m ((t.base link).toNat + 8 * i) = made link t (placedAt ex t i)

/-- Tables that are as built have no stage exchanged. -/
theorem tablesAt_built (hm : AsBuilt link m) : TablesAt link (fun _ => false) m := by
  intro t i hi
  rw [hm t i hi, placedAt, pageAt_false, ite_self]

/-- A switch of a stage leaves its two pages exchanged when they were not, and back in place when they were. -/
theorem tablesAt_switch (h : TablesPlaced Config.platform link) (hm : TablesAt link ex m) (stage : Stage) :
    TablesAt link (Function.update ex stage (!ex stage)) (switchMem link stage m) := by
  intro t i hi
  rw [entryAt_view h, view_switch h stage m hi, ← entryAt_view h]
  by_cases ht : t = switchedTable stage
  · have hstage : t.stage = stage := by rw [ht, stage_switchedTable]
    have hsize : t.size = 512 := by
      rw [ht]
      cases stage <;> rfl
    have ht' : t = switchedTable t.stage := by rw [hstage]; exact ht
    rw [if_pos ht, hm t _ (hsize ▸ switch_lt (hsize ▸ hi)), placedAt, placedAt, if_pos ht', if_pos ht', hstage,
      Function.update_self]
    cases ex stage with
    | false => rfl
    | true =>
      rw [Bool.not_true, pageAt_true, pageAt_false]
      exact congrArg _ (switch_involutive i)
  · rw [if_neg ht, hm t i hi]
    unfold placedAt
    by_cases ht' : t = switchedTable t.stage
    · have hne : t.stage ≠ stage := by
        rintro rfl
        exact ht ht'
      rw [if_pos ht', if_pos ht', Function.update_of_ne hne]
    · rw [if_neg ht', if_neg ht']

/-- After switches of both stages in any order, a stage is exchanged exactly when it was switched an odd number of times. -/
theorem tablesAt_switches (h : TablesPlaced Config.platform link) (hm : AsBuilt link m) (calls : List Stage) :
    TablesAt link (fun stage => calls.count stage % 2 == 1) (switches link calls m) := by
  intro t i hi
  rw [entryAt_switches h hm calls hi]
  unfold switched placedAt
  split
  · change _ = made link t (pageAt (calls.count t.stage % 2 == 1) i)
    rcases Nat.mod_two_eq_zero_or_one (calls.count t.stage) with heven | hodd
    · rw [switch_involutive.iterate_even (Nat.even_iff.2 heven), heven]
      rfl
    · rw [switch_involutive.iterate_odd (Nat.odd_iff.2 hodd), hodd]
      rfl
  · rfl

/-- Tables with some stages exchanged hold their own entries only. -/
theorem TablesAt.memOk (hm : TablesAt link ex m) : MemOk link m := by
  rintro _ t i hi rfl
  rw [hm t i hi]
  unfold placedAt
  split
  · rename_i ht
    cases ex t.stage with
    | false => exact Or.inl rfl
    | true => exact Or.inr ⟨ht, rfl⟩
  · exact Or.inl rfl

/-- What the IOMMU reads of such tables are entries of the tables. -/
theorem TablesAt.readsOk (hm : TablesAt link ex m) : ReadsOk link (memReads m) := fun _ => hm.memOk

/-- An entry that no switch touches is as it was built, whatever is exchanged. -/
theorem TablesAt.entry (hm : TablesAt link ex m) (hi : i < t.size) (hne : t = switchedTable t.stage → i ≠ 27 ∧ i ≠ 28) :
    entryAt m ((t.base link).toNat + 8 * i) = made link t i := by
  rw [hm t i hi]
  unfold placedAt
  split
  · rename_i ht
    cases ex t.stage with
    | false => rfl
    | true =>
      rw [pageAt_true]
      exact congrArg _ (Equiv.swap_apply_of_ne_of_ne (hne ht).1 (hne ht).2)
  · rfl

/-- Tables that are just built. -/
def builtMem (link : Link) : Mem := initTables link fun _ => 0#8

/-- The memory with the built tables has them as built. -/
theorem asBuilt_builtMem (h : TablesPlaced Config.platform link) : AsBuilt link (builtMem link) := by
  have hz : TablesZeroed link fun _ => 0#8 := ⟨fun _ _ => rfl, fun _ _ => rfl, fun _ _ => rfl⟩
  unfold builtMem initTables
  exact asBuilt_init h hz

/-- Reads of the memory with the built tables see them. -/
theorem readsBuilt_builtMem (h : TablesPlaced Config.platform link) :
    ReadsBuilt Config.platform link fun a => some (memReads (builtMem link) .second a) :=
  fun t i hi => congrArg some (asBuilt_builtMem h t i hi)

/-! ## The first stage -/

/-- The first stage of every other address is the one over the built tables. -/
theorem firstStage_built (h : TablesPlaced Config.platform link) (hm : TablesAt link ex m) (modes : DcModes) (write : Bool)
    (hva : Outside va) : (dcAt link modes).firstStage (memReads m) write va =
      (dcAt link modes).firstStage (memReads (builtMem link)) write va :=
  firstStage_unswitched h (asBuilt_builtMem h) hm.memOk
    (fun t i hi hne => (hm.entry hi hne).trans (asBuilt_builtMem h t i hi).symm) modes write hva

/-- The first stage finds every table that it comes to. -/
theorem implicitFault_eq (h : TablesPlaced Config.platform link) (hm : TablesAt link ex m) (modes : DcModes) (q : TransRequest) :
    (dcAt link modes).implicitFault (memReads m) q = false := by
  unfold Dc.implicitFault
  rw [Bool.and_eq_false_iff]
  right
  rw [List.any_eq_false]
  intro gpa hgpa
  rw [root_first h, ← base_s1pt link] at hgpa
  have hin : InStage link .first gpa := by
    refine visited_inStage h ?_ (.s1 0) rfl (Nat.mod_lt _ (by decide)) hgpa
    intro t i p hstage hi hp
    rw [firstRead_inStage h hm.readsOk modes ⟨t, i, hstage, hi, rfl⟩] at hp
    cases hp
    exact hm.readsOk .first _ t i hi rfl
  obtain ⟨flags, hlow⟩ := secondStage_low h hm.readsOk modes false (inStage_lt h hin)
  rw [hlow]
  exact Bool.false_ne_true

/-- The first stage of an address in one of the two windows of 4-KiB pages. -/
theorem firstStage_pages (h : TablesPlaced Config.platform link) (hm : TablesAt link ex m) {modes : DcModes}
    (hmodes : modes.iosatp = true) (hlo : 0x100000000 ≤ va) (hhi : va < 0x100400000) {j : Nat}
    (hj : j = if va / 2 ^ 21 % 512 = 0 then pageAt (ex .first) (va / 2 ^ 12 % 512) else va / 2 ^ 12 % 512) :
    (dcAt link modes).firstStage (memReads m) write va =
      if pageMapped PagePerm.stage1 j = true then
        some (va - va / 2 ^ 12 % 512 * 2 ^ 12 + j * 2 ^ 12, pageFlags PagePerm.stage1 j)
      else none := by
  by_cases hout : Outside va
  · have hji : j = va / 2 ^ 12 % 512 := by
      rw [hj]
      split
      · cases ex .first with
        | false => rfl
        | true =>
          unfold Outside at hout
          exact Equiv.swap_apply_of_ne_of_ne (a := 27) (b := 28) (by omega) (by omega)
      · rfl
    rw [firstStage_built h hm modes write hout, hji]
    unfold Dc.firstStage
    rw [dcAt_sv39, if_pos hmodes, root_first h, ← base_s1pt link,
      s1_pages h Config.platform_regular (readsBuilt_nested h (asBuilt_builtMem h) modes) hlo hhi]
    congr 3
    omega
  · unfold Outside at hout
    have hzero : va / 2 ^ 21 % 512 = 0 := by omega
    have hi : va / 2 ^ 12 % 512 = 27 ∨ va / 2 ^ 12 % 512 = 28 := by omega
    rw [if_pos hzero] at hj
    have hj' : j = 27 ∨ j = 28 := by
      rw [hj]
      cases ex .first with
      | false => exact hi
      | true => rcases hi with hi | hi <;> rw [hi] <;> decide
    have hmapped := (pageMapped_switch hj').1
    have hleaf : entryAt m ((s1Switched.base link).toNat + 8 * (va / 2 ^ 12 % 512)) = made link (.s1 3) j := by
      rw [hm s1Switched _ (by simp only [PtTable.size, s1Switched]; omega), hj]
      rfl
    have hwalk := (firstStage_page h hm.readsOk modes hmodes (hm.entry (by decide) (fun he => by cases he))
      (hm.entry (by decide) (fun he => by cases he)) (va / 2 ^ 12 % 512) (va % 2 ^ 12)
      (show va = _ by omega) (by omega) (by omega)
      hmapped (by omega) hleaf write).1
    rw [hwalk, if_pos hmapped]
    congr 2
    omega

/-- Leaves with R, W and X are for every request. -/
theorem permitted_rwx (q : TransRequest) (flags : Word) (h1 : flags.getLsbD 1 = true) (h2 : flags.getLsbD 2 = true)
    (h3 : flags.getLsbD 3 = true) : q.permitted flags = true := by
  unfold TransRequest.permitted
  simp [h1, h2, h3]

/-- The first stage of a request, once it is on. -/
theorem guest_eq (h : TablesPlaced Config.platform link) (hm : TablesAt link ex m) {modes : DcModes}
    (hmodes : modes.iosatp = true) (q : TransRequest) :
    (dcAt link modes).guest (memReads m) q = guestMap (ex .first) q := by
  have hc := Config.platform_regular
  have hcount : Config.platform.memSize / superpageSize 1 / 2 = 64 := rfl
  have H := readsBuilt_nested h (asBuilt_builtMem h) modes
  have hwalk : Outside q.iova.toNat → (dcAt link modes).firstStage (memReads m) q.write q.iova.toNat =
      walk Paging.sv39 ((dcAt link modes).firstRead (memReads (builtMem link))) q.write ((PtTable.s1 0).base link).toNat
        q.iova.toNat := by
    intro hout
    rw [firstStage_built h hm modes q.write hout]
    unfold Dc.firstStage
    rw [dcAt_sv39, if_pos hmodes, root_first h, base_s1pt]
  have hmid := @s1_mid Config.platform link _ q.write q.iova.toNat h hc H
  have hnone := @mid_none Config.platform link _ q.write q.iova.toNat h hc H .first
  dsimp only [Stage.scheme, Stage.rootTable] at hnone
  rw [hcount] at hmid hnone
  unfold Dc.guest guestMap
  rw [dcAt_sv39, hmodes, implicitFault_eq h hm]
  simp only [Bool.not_true, Bool.false_or, Bool.false_eq_true, if_false]
  generalize hva : q.iova.toNat = va at hwalk hmid hnone ⊢
  by_cases h1 : va < 0xC0000000
  · rw [hwalk (Or.inl (by omega)), s1_low H h1, if_pos (by omega)]
    simp only [permitted_rwx q stage1Perm1Gib (by decide) (by decide) (by decide)]
    rfl
  by_cases h2 : va < 0xC8000000
  · rw [hwalk (Or.inl (by omega)), hmid (by omega) (by omega), if_pos h2]
    simp only [permitted_rwx q stage1Perm2Mib (by decide) (by decide) (by decide)]
    rfl
  rw [if_neg h2]
  by_cases h3 : va < 0x100000000
  · rw [hwalk (Or.inl (by omega)), hnone (by omega) h3, if_neg (by omega)]
  by_cases h4 : va < 0x100400000
  · have hpage := @firstStage_pages link m ex q.write va h hm modes hmodes (by omega) h4 _ rfl
    rw [hpage]
    generalize (if va / 2 ^ 21 % 512 = 0 then _ else _) = j
    cases hmapped : pageMapped PagePerm.stage1 j with
    | false =>
      rw [if_neg Bool.false_ne_true, if_neg]
      simp
    | true =>
      rw [if_pos rfl]
      cases huser : (pageFlags PagePerm.stage1 j).getLsbD 4 && q.permitted (pageFlags PagePerm.stage1 j) with
      | false =>
        rw [if_neg]
        · simp only [huser]
          rfl
        · rintro ⟨-, -, -, hu, hp⟩
          rw [hu, hp] at huser
          cases huser
      | true =>
        obtain ⟨hu, hp⟩ := Bool.and_eq_true_iff.1 huser
        rw [if_pos ⟨by omega, h4, rfl, hu, hp⟩]
        simp only [huser]
        rfl
  rw [if_neg (by omega)]
  by_cases h5 : va < 0x140000000
  · rw [hwalk (Or.inr (by omega)), s1_gap h hc H (by omega) h5]
  by_cases h6 : va < 0x180000000
  · rw [hwalk (Or.inr (by omega)), s1_giant h hc H (by omega) h6]
    rfl
  · rw [hwalk (Or.inr (by omega)), s1_high H (by omega)]

/-! ## The second stage -/

/-- The address is in neither of the pages whose entries are exchanged, in none of the windows behind which they stand. -/
def HostOutside (gpa : Nat) : Prop :=
  AddressMapAux.InWindow gpa → gpa / 2 ^ 21 % 512 = 1 ∨ (gpa / 2 ^ 12 % 512 ≠ 27 ∧ gpa / 2 ^ 12 % 512 ≠ 28)

/-- The second stage of every other address is the one over the built tables. -/
theorem secondStage_built (h : TablesPlaced Config.platform link) (hm : TablesAt link ex m) {modes : DcModes}
    (hmodes : modes.iohgatp = true) (write : Bool) (hgpa : HostOutside gpa) :
    (dcAt link modes).secondStage (memReads m) write gpa =
      walk Paging.sv39x4 (fun a => some (memReads (builtMem link) .second a)) write (PtTable.root.base link).toNat gpa := by
  rw [secondStage_unswitched h (asBuilt_builtMem h)
    (fun t i hi hne => (hm.entry hi hne).trans (asBuilt_builtMem h t i hi).symm) modes write ?_]
  · unfold Dc.secondStage
    rw [dcAt_sv39x4, if_pos hmodes, root_second h]
    rfl
  · intro h2 h1
    rcases hgpa ⟨h2, by omega⟩ with hgpa | hgpa
    · omega
    · exact hgpa

/-- The second stage of an address in one of the windows of 4-KiB pages. -/
theorem secondStage_pages (h : TablesPlaced Config.platform link) (hm : TablesAt link ex m) {modes : DcModes}
    (hmodes : modes.iohgatp = true) (hin : AddressMapAux.InWindow gpa) {j : Nat}
    (hj : j = if gpa / 2 ^ 21 % 512 = 1 then gpa / 2 ^ 12 % 512 else pageAt (ex .second) (gpa / 2 ^ 12 % 512)) :
    (dcAt link modes).secondStage (memReads m) write gpa =
      if pageMapped PagePerm.stage2 j = true then
        some (0x88000000 + j * 2 ^ 12 + gpa % 2 ^ 12, pageFlags PagePerm.stage2 j)
      else none := by
  have hc := Config.platform_regular
  have hbase : Config.platform.memBase + Config.platform.memSize / 2 = 0x88000000 := rfl
  by_cases hout : HostOutside gpa
  · have hji : j = gpa / 2 ^ 12 % 512 := by
      rw [hj]
      split
      · rfl
      · rename_i hne
        cases ex .second with
        | false => rfl
        | true =>
          obtain ⟨h27, h28⟩ := (hout hin).resolve_left hne
          exact Equiv.swap_apply_of_ne_of_ne h27 h28
    rw [secondStage_built h hm hmodes write hout, s2_pages h hc (readsBuilt_builtMem h) hin.1 hin.2, hbase, hji]
    congr 3
    omega
  · unfold HostOutside at hout
    obtain ⟨-, hne, hi⟩ : AddressMapAux.InWindow gpa ∧ gpa / 2 ^ 21 % 512 ≠ 1 ∧
        (gpa / 2 ^ 12 % 512 = 27 ∨ gpa / 2 ^ 12 % 512 = 28) := by
      refine ⟨hin, fun he => hout fun _ => Or.inl he, ?_⟩
      by_contra hc
      exact hout fun _ => Or.inr (by omega)
    rw [if_neg hne] at hj
    have hj' : j = 27 ∨ j = 28 := by
      rw [hj]
      cases ex .second with
      | false => exact hi
      | true => rcases hi with hi | hi <;> rw [hi] <;> decide
    have hmapped := (pageMapped_switch hj').2
    have hgood : GoodFlags Paging.sv39x4 (pageFlags PagePerm.stage2 j) (pageMapped PagePerm.stage2 j) := goodFlags_stage .second j
    have hroot : entryAt m ((PtTable.root.base link).toNat + 8 * Paging.sv39x4.index 2 gpa) =
        Pte.make (pageOf link (.s2 1)) pteV := by
      rw [index_root (by unfold AddressMapAux.InWindow at hin; omega)]
      rcases hin.1 with hr | hr <;> rw [hr, hm.entry (by decide) (fun he => by cases he)] <;> rfl
    have hmid : entryAt m (pageOf link (.s2 1) * 2 ^ 12 + 8 * Paging.sv39x4.index 1 gpa) =
        Pte.make (pageOf link s2Switched) pteV := by
      rw [pageOf_mul h hc, index_one]
      have hmid : gpa / 2 ^ 21 % 512 = 0 ∨ gpa / 2 ^ 21 % 512 = 511 := by
        have := hin.2
        omega
      rcases hmid with hr | hr <;> rw [hr, hm.entry (by decide) (fun he => by cases he)] <;> rfl
    have hleaf : entryAt m (pageOf link s2Switched * 2 ^ 12 + 8 * Paging.sv39x4.index 0 gpa) =
        Pte.make (0x88000 + j) (pageFlags PagePerm.stage2 j) := by
      have hlt : gpa / 2 ^ 12 % 512 < s2Switched.size := by simp only [PtTable.size, s2Switched]; omega
      rw [pageOf_mul h hc, index_zero, hm s2Switched _ hlt, hj]
      rfl
    have hwalk := (@walk_page Paging.sv39x4 (fun a => some (memReads m .second a)) write gpa (0x88000 + j)
      (pageFlags PagePerm.stage2 j) (PtTable.root.base link).toNat (pageOf link s2Switched) (pageOf link (.s2 1))
      (decide_eq_true (by unfold AddressMapAux.InWindow at hin; omega)) (congrArg some hroot) (pageOf_lt h hc _)
      (congrArg some hmid) (pageOf_lt h hc _) (congrArg some hleaf) (by omega) hgood.small (hgood.leaf hmapped)).1
    unfold Dc.secondStage
    rw [dcAt_sv39x4 link, if_pos hmodes, root_second h, if_pos hmapped]
    refine hwalk.trans ?_
    congr 2
    omega

/-- The second stage of a request, once it is on. -/
theorem host_eq (h : TablesPlaced Config.platform link) (hm : TablesAt link ex m) {modes : DcModes}
    (hmodes : modes.iohgatp = true) (q : TransRequest) (gpa : Nat) :
    (dcAt link modes).host (memReads m) q gpa = hostMap (ex .second) q gpa := by
  have hc := Config.platform_regular
  have hcount : Config.platform.memSize / superpageSize 1 / 2 = 64 := rfl
  have hbase : Config.platform.memBase = 0x80000000 := rfl
  have hhalf : Config.platform.memBase + Config.platform.memSize / 2 = 0x88000000 := rfl
  have hmem : memBase = 0x80000000 := rfl
  have H := readsBuilt_builtMem h
  have hwalk := @secondStage_built link m ex gpa h hm modes hmodes q.write
  have hmid := @s2_mid Config.platform link _ q.write gpa h hc H
  have hnone := @mid_none Config.platform link _ q.write gpa h hc H .second
  dsimp only [Stage.scheme, Stage.rootTable] at hnone
  have hgiant := @s2_giant Config.platform link _ q.write gpa h hc H
  rw [hcount] at hmid hnone
  rw [hbase] at hmid
  rw [hhalf] at hgiant
  have hrwx : ∀ flags : Word, flags.getLsbD 1 = true → flags.getLsbD 2 = true → flags.getLsbD 3 = true →
      q.permitted flags = true := permitted_rwx q
  unfold Dc.host hostMap
  rw [dcAt_sv39x4, hmodes, hmem, AddressMapAux.testPpageBase_platform]
  simp only [Bool.not_true, Bool.false_or]
  generalize hj : (if gpa / 2 ^ 21 % 512 = 1 then gpa / 2 ^ 12 % 512 else pageAt (ex .second) (gpa / 2 ^ 12 % 512)) = j
  by_cases hin : AddressMapAux.InWindow gpa
  · have hwindow : ∃ window ∈ s2Windows, InPage window (gpa / 2 ^ 12 % 512) gpa := AddressMapAux.window_of hin
    have hrange : 0x100000000 ≤ gpa ∧ ¬ (0x140000000 ≤ gpa ∧ gpa < 0x180000000) := by
      unfold AddressMapAux.InWindow at hin
      omega
    have h1 : ¬ gpa < 0xC0000000 := by omega
    have h2 : ¬ gpa < 0xC8000000 := by omega
    rw [secondStage_pages h hm hmodes hin hj.symm, if_neg h1, if_neg h2, if_neg hrange.2]
    cases hmapped : pageMapped PagePerm.stage2 j with
    | false =>
      rw [if_neg Bool.false_ne_true, if_neg]
      simp
    | true =>
      rw [if_pos rfl]
      cases hp : q.permitted (pageFlags PagePerm.stage2 j) with
      | false =>
        rw [if_neg (fun hand => Bool.false_ne_true hand.2.2)]
        simp only [hp]
        rfl
      | true =>
        rw [if_pos ⟨hwindow, rfl, rfl⟩]
        simp only [hp]
        rfl
  · have hwindow : ¬ ∃ window ∈ s2Windows, InPage window (gpa / 2 ^ 12 % 512) gpa := by
      rintro ⟨window, hw, hp⟩
      exact hin (AddressMapAux.window_page hw (Nat.mod_lt _ (by decide)) hp).1
    rw [hwalk fun hin' => absurd hin' hin]
    by_cases h1 : gpa < 0xC0000000
    · rw [s2_low H h1, if_pos h1]
      simp only [hrwx stage2Perm1Gib (by decide) (by decide) (by decide)]
      rfl
    rw [if_neg h1]
    by_cases h2 : gpa < 0xC8000000
    · rw [hmid (by omega) (by omega), if_pos h2]
      simp only [hrwx stage2Perm2Mib (by decide) (by decide) (by decide)]
      exact congrArg Except.ok (Nat.add_comm _ _)
    rw [if_neg h2]
    by_cases h6 : 0x140000000 ≤ gpa ∧ gpa < 0x180000000
    · rw [hgiant (by omega), if_pos h6]
      simp only [hrwx (pteV ||| (pteU ||| (pteAD ||| pteRWX))) (by decide) (by decide) (by decide)]
      rfl
    rw [if_neg h6, if_neg (fun hand => hwindow hand.1)]
    by_cases h3 : gpa < 0x100000000
    · rw [hnone (by omega) h3]
    by_cases h4 : gpa / 2 ^ 30 = 4 ∨ gpa / 2 ^ 30 = 2047
    · rw [s2_gap h hc H h4 (fun he => hin ⟨h4, Or.inl he⟩) (fun he => hin ⟨h4, Or.inr (Or.inl he)⟩)
        (fun he => hin ⟨h4, Or.inr (Or.inr he)⟩)]
    · rw [s2_other H (by omega) (by omega)]

/-! ## The context -/

/-- A first stage that is off gives every address back, without a look at the memory. -/
theorem guest_bare {modes : DcModes} (hmodes : modes.iosatp = false) (r : Reads) (q : TransRequest) :
    (dcAt link modes).guest r q = .ok q.iova.toNat := by
  unfold Dc.guest Dc.firstStage
  rw [dcAt_sv39, hmodes]
  rfl

/-- In a Bare second stage an address is left as it is. -/
theorem host_bare {modes : DcModes} (hmodes : modes.iohgatp = false) (r : Reads) (q : TransRequest) (gpa : Nat) :
    (dcAt link modes).host r q gpa = .ok gpa := by
  unfold Dc.host Dc.secondStage
  rw [dcAt_sv39x4, hmodes]
  rfl

/-- The first stage with any modes is its closed form when it is on, and gives the address back when it is off. -/
theorem guest_modes (h : TablesPlaced Config.platform link) (hm : TablesAt link ex m) (modes : DcModes) (q : TransRequest) :
    (dcAt link modes).guest (memReads m) q = if modes.iosatp then guestMap (ex .first) q else .ok q.iova.toNat := by
  cases hs : modes.iosatp with
  | true => exact guest_eq h hm hs q
  | false => exact guest_bare hs _ q

/-- The second stage with any modes is its closed form when it is on, and gives the address back when it is off. -/
theorem host_modes (h : TablesPlaced Config.platform link) (hm : TablesAt link ex m) (modes : DcModes) (q : TransRequest)
    (gpa : Nat) :
    (dcAt link modes).host (memReads m) q gpa = if modes.iohgatp then hostMap (ex .second) q gpa else .ok gpa := by
  cases hs : modes.iohgatp with
  | true => exact host_eq h hm hs q gpa
  | false => exact host_bare hs _ q gpa

/-- The device context takes an address for that of an interrupt file when its page is one and the MSI page table is flat. -/
theorem isMsi_iff (h : link.msiPt.toNat < 2 ^ 56) (modes : DcModes) (gpa : Nat) :
    (dcAt link modes).isMsi gpa = true ↔ modes.msiptp = true ∧ IsMsiPage (gppn gpa) := by
  have hpt : (link.msiPt >>> 12).extractLsb' 60 4 = 0#4 := by
    apply BitVec.eq_of_toNat_eq
    rw [BitVec.extractLsb'_toNat, BitVec.toNat_ushiftRight, Nat.shiftRight_eq_div_pow, Nat.shiftRight_eq_div_pow]
    simp only [BitVec.toNat_zero]
    omega
  have hmode : ((dcAt link modes).msiptp.extractLsb' 60 4 == 1#4) = modes.msiptp := by
    unfold dcAt
    rw [BitVec.extractLsb'_or, hpt]
    cases modes.msiptp <;> decide
  unfold Dc.isMsi
  rw [hmode, Bool.and_eq_true_iff, beq_iff_eq]
  exact Iff.rfl

/-- The translation with the tables in memory is the map that the tests take it to be. -/
theorem resolve_eq (h : TablesPlaced Config.platform link) (hmsiPt : link.msiPt.toNat < 2 ^ 56) (hm : TablesAt link ex m)
    {mrif : Word} {pt : MsiPt}
    (hpt : ∀ i < msiNEntries, pt.entry i = msiEntryFor mrif i) (modes : DcModes) (q : TransRequest) :
    (dcAt link modes).resolve pt m q = requestMap mrif modes ex q := by
  unfold Dc.resolve requestMap
  rw [guest_modes h hm]
  congr 1
  funext gpa
  have hmsi := @isMsi_iff link hmsiPt modes gpa
  by_cases hc : modes.msiptp = true ∧ IsMsiPage (gppn gpa)
  · have hlt : msiIndex (gppn gpa) < msiNEntries := Fields.gather_lt 52 msiAddrMask.toNat (gppn gpa).toNat
    rw [if_pos (hmsi.2 hc), if_pos hc, hpt _ hlt]
  · rw [if_neg (fun he => hc (hmsi.1 he)), if_neg hc, host_modes h hm]

end RequestMapAux

end RvIommuTests
