import RvIommuTests.Iotlb
import RvIommuTests.Lemmas.DdtCache
import RvIommuTests.Lemmas.Walks

/-!
# Walks while the tables are switched

The switches exchange two entries of one leaf table of each stage. Whatever of that has reached the memory or what the IOMMU
keeps, each entry is one of the built ones (`EntryOf`), and a walk of a stage stays within the tables of the stage.
-/

namespace RvIommuTests

open Bytes Tables Paging Shared PageTablesAux WalksAux DdtCacheAux

/-- The stage a table belongs to. -/
def PtTable.stage : PtTable → Stage
  | .s1 _ => .first
  | _ => .second

namespace IotlbAux

variable {link : Link} {t t' : PtTable} {i : Nat} {p : Pte} {r : Reads} {m : Mem}

/-! ## Entries -/

/-- What the builders make of the tables of the platform. -/
abbrev made (link : Link) : PtTable → Nat → Pte := built Config.platform link

/-- The table of a stage two entries of which are switched. -/
def switchedTable : Stage → PtTable
  | .first => s1Switched
  | .second => s2Switched

/-- The switch of two entries. -/
def switch : Equiv.Perm Nat := Equiv.swap TestPage.switch1.index TestPage.switch2.index

/-- The switch of two entries stays within the table. -/
theorem switch_lt (hi : i < 512) : switch i < 512 := by
  unfold switch
  rw [Equiv.swap_apply_def]
  have h1 : TestPage.switch1.index < 512 := by decide
  have h2 : TestPage.switch2.index < 512 := by decide
  split
  · exact h2
  · split
    · exact h1
    · exact hi

/-- An entry of a table, switched or not. -/
def EntryOf (link : Link) (t : PtTable) (i : Nat) (p : Pte) : Prop :=
  p = made link t i ∨ (t = switchedTable t.stage ∧ p = made link t (switch i))

/-- What is at an address is an entry of the table there. -/
def Fits (link : Link) (a : Nat) (p : Pte) : Prop :=
  ∀ (t : PtTable) i, i < t.size → a = (t.base link).toNat + 8 * i → EntryOf link t i p

/-- An address of an entry of a stage. -/
def InStage (link : Link) (stage : Stage) (a : Nat) : Prop :=
  ∃ (t : PtTable) (i : Nat), t.stage = stage ∧ i < t.size ∧ a = (t.base link).toNat + 8 * i

/-- The entry does not lead to a table. -/
def Ends (p : Pte) : Prop := p.flag 0 = false ∨ p.isLeaf = true

/-- An entry with R or X set is a leaf, so it leads to no table. -/
theorem ends_make {page : Nat} {flags : Word} (h : (flags.getLsbD 1 || flags.getLsbD 3) = true) : Ends (Pte.make page flags) :=
  Or.inr (Pte.isLeaf_make.trans h)

/-- An entry that was never written leads to no table. -/
theorem ends_zero : Ends 0#64 := Or.inl rfl

/-- An entry of a test page leads to no table: it is a leaf, or not valid. -/
theorem ends_page {s : Scheme} {page : Nat} {flags : Word} {mapped : Bool} (h : GoodFlags s flags mapped) :
    Ends (Pte.make page flags) := by
  cases mapped with
  | false => exact Or.inl ((Pte.flag_make (by decide)).trans h.valid)
  | true => exact ends_make (h.leaf rfl).leaf

/-- The entry ends a walk, or leads to a table. -/
def Leads (link : Link) (p : Pte) (o : Option PtTable) : Prop :=
  Ends p ∨ ∃ t : PtTable, o = some t ∧ p = Pte.make (pageOf link t) pteV

/-- A pointer leads to its table. -/
theorem leads_pointer (t : PtTable) : Leads link (Pte.make (pageOf link t) pteV) (some t) := Or.inr ⟨t, rfl, rfl⟩

/-- A leaf leads wherever it is said to, as it ends the walk. -/
theorem leads_make {page : Nat} {flags : Word} {o : Option PtTable} (h : (flags.getLsbD 1 || flags.getLsbD 3) = true) :
    Leads link (Pte.make page flags) o := Or.inl (ends_make h)

/-- An entry that was never written leads wherever it is said to, as it ends the walk. -/
theorem leads_zero {o : Option PtTable} : Leads link 0#64 o := Or.inl ends_zero

/-- Each entry of the first-stage tables ends a walk, or leads to the table that it points to. -/
theorem leads_s1Built (k : Fin 6) (i : Nat) : Leads link (s1Built Config.platform link k i) (pointee (.s1 k) i) := by
  match k with
  | 0 =>
    simp only [s1Built, pointee]
    repeat' split
    · exact leads_pointer _
    · exact leads_pointer _
    · exact leads_pointer _
    · exact leads_make (by decide)
    · exact leads_zero
  | 1 =>
    simp only [s1Built]
    split
    · exact leads_make (by decide)
    · exact leads_zero
  | 2 =>
    simp only [s1Built, pointee]
    repeat' split
    · exact leads_pointer _
    · exact leads_pointer _
    · exact leads_zero
  | 3 => exact Or.inl (ends_page (goodFlags_stage .first i))
  | 4 => exact Or.inl (ends_page (goodFlags_stage .first i))
  | 5 => exact leads_make (by decide)

/-- Each entry of the second-stage tables below the root ends a walk, or leads to the table that it points to. -/
theorem leads_s2Built (k : Fin 5) (i : Nat) : Leads link (s2Built Config.platform link k i) (pointee (.s2 k) i) := by
  match k with
  | 0 =>
    simp only [s2Built]
    split
    · exact leads_make (by decide)
    · exact leads_zero
  | 1 =>
    simp only [s2Built, pointee]
    repeat' split
    · exact leads_pointer _
    · exact leads_pointer _
    · exact leads_pointer _
    · exact leads_zero
  | 2 => exact Or.inl (ends_page (goodFlags_stage .second i))
  | 3 => exact Or.inl (ends_page (goodFlags_stage .second i))
  | 4 => exact leads_make (by decide)

/-- Each entry of the second-stage root table ends a walk, or leads to the table that it points to. -/
theorem leads_rootBuilt (i : Nat) : Leads link (rootBuilt link i) (pointee .root i) := by
  simp only [rootBuilt, pointee]
  repeat' split
  · exact leads_pointer _
  · exact leads_pointer _
  · exact leads_pointer _
  · exact leads_pointer _
  · exact leads_make (by decide)
  · exact leads_zero

/-- Each entry ends a walk, or leads to the table that it points to. -/
theorem leads_made (link : Link) (t : PtTable) (i : Nat) : Leads link (made link t i) (pointee t i) := by
  cases t with
  | root => exact leads_rootBuilt i
  | s1 k => exact leads_s1Built k i
  | s2 k => exact leads_s2Built k i

/-- A pointer leads to another table of the same stage. -/
theorem pointee_stage (h : pointee t i = some t') : t'.stage = t.stage ∧ t' ≠ .root := by
  unfold pointee at h
  repeat' split at h
  all_goals cases h
  all_goals exact ⟨rfl, PtTable.noConfusion⟩

/-- A step of a walk over a pointer goes to its table. -/
theorem leads_next (h : TablesPlaced Config.platform link) {o : Option PtTable} (hp : Leads link p o) {s : Scheme} {write : Bool}
    {level va table' : Nat} (hstep : step s write (level + 1) va p = .next table') :
    ∃ t' : PtTable, o = some t' ∧ table' = (t'.base link).toNat := by
  obtain ⟨hvalid, hleaf, rfl⟩ := step_next hstep
  rcases hp with (hend | hend) | ⟨t', ho, rfl⟩
  · unfold Pte.valid at hvalid
    rw [hend] at hvalid
    cases hvalid
  · rw [hleaf] at hend
    cases hend
  · refine ⟨t', ho, ?_⟩
    rw [Pte.ppn_make (pageOf_lt h Config.platform_regular t') (by decide), pageOf_mul h Config.platform_regular]

/-- A pointer leads to a table of the same stage. -/
theorem entryOf_next (h : TablesPlaced Config.platform link) (hp : EntryOf link t i p) {s : Scheme} {write : Bool}
    {level va table' : Nat} (hstep : step s write (level + 1) va p = .next table') :
    ∃ t' : PtTable, t'.stage = t.stage ∧ t' ≠ .root ∧ table' = (t'.base link).toNat := by
  have hleads : ∃ j, Leads link p (pointee t j) := by
    rcases hp with rfl | ⟨-, rfl⟩
    · exact ⟨i, leads_made link t i⟩
    · exact ⟨switch i, leads_made link t (switch i)⟩
  obtain ⟨j, hleads⟩ := hleads
  obtain ⟨t', hj, rfl⟩ := leads_next h hleads hstep
  exact ⟨t', (pointee_stage hj).1, (pointee_stage hj).2, rfl⟩

/-! ## The context -/

/-- The first stage of the device context is on exactly when `iosatp` is Sv39. -/
theorem dcAt_sv39 (link : Link) (modes : DcModes) : (dcAt link modes).sv39 = modes.iosatp := by
  have h : (link.s1pt >>> 12).extractLsb' 60 4 = 0#4 := by
    apply BitVec.eq_of_toNat_eq
    have := link.s1pt.isLt
    rw [BitVec.extractLsb'_toNat, BitVec.toNat_ushiftRight, Nat.shiftRight_eq_div_pow, Nat.shiftRight_eq_div_pow]
    simp only [BitVec.toNat_zero]
    omega
  unfold Dc.sv39 dcAt
  rw [BitVec.extractLsb'_or, h]
  cases modes.iosatp <;> decide

/-- The second stage of the device context is on exactly when `iohgatp` is Sv39x4. -/
theorem dcAt_sv39x4 (link : Link) (modes : DcModes) : (dcAt link modes).sv39x4 = modes.iohgatp := by
  have hroot : (link.s2ptRoot >>> 12).extractLsb' 60 4 = 0#4 := by
    apply BitVec.eq_of_toNat_eq
    have := link.s2ptRoot.isLt
    rw [BitVec.extractLsb'_toNat, BitVec.toNat_ushiftRight, Nat.shiftRight_eq_div_pow, Nat.shiftRight_eq_div_pow]
    simp only [BitVec.toNat_zero]
    omega
  unfold Dc.sv39x4 dcAt
  rw [BitVec.extractLsb'_or, BitVec.extractLsb'_or, hroot]
  cases modes.iohgatp <;> decide

/-- The device context leads to the root table of the first stage. -/
theorem root_first (h : TablesPlaced Config.platform link) (modes : DcModes) :
    (dcAt link modes).root .first = link.s1pt.toNat := by
  have hmode : (if modes.iosatp = true then iosatpModeSv39 else iosatpModeBare).extractLsb' 0 44 = 0#44 := by
    cases modes.iosatp <;> decide
  have haligned := h.s1ptAligned
  have hram : Config.platform.memBase + Config.platform.memSize = 0x90000000 := rfl
  have hin := h.s1ptInRam.2
  rw [Dc.root, dcAt, BitVec.extractLsb'_or, hmode, BitVec.or_zero, BitVec.extractLsb'_toNat, BitVec.toNat_ushiftRight,
    Nat.shiftRight_zero, Nat.shiftRight_eq_div_pow]
  simp only [pageSize] at haligned hin
  omega

/-- The device context leads to the root table of the second stage. -/
theorem root_second (h : TablesPlaced Config.platform link) (modes : DcModes) :
    (dcAt link modes).root .second = link.s2ptRoot.toNat := by
  have hmode : (if modes.iohgatp = true then iohgatpModeSv39x4 else iohgatpModeBare).extractLsb' 0 44 = 0#44 := by
    cases modes.iohgatp <;> decide
  have hid : (DdtConfig.platform.gscid did <<< gscidOff).extractLsb' 0 44 = 0#44 := by decide
  have haligned := h.rootAligned
  have hram : Config.platform.memBase + Config.platform.memSize = 0x90000000 := rfl
  have hin := h.rootInRam.2
  rw [Dc.root, dcAt, BitVec.extractLsb'_or, BitVec.extractLsb'_or, hmode, hid, BitVec.or_zero, BitVec.or_zero,
    BitVec.extractLsb'_toNat, BitVec.toNat_ushiftRight, Nat.shiftRight_zero, Nat.shiftRight_eq_div_pow]
  simp only [pageSize] at haligned hin
  omega

/-- The device context of the tests carries the GSCID that their commands name. -/
theorem dcAt_gscid (h : TablesPlaced Config.platform link) (modes : DcModes) : (dcAt link modes).gscid = 0x0ABC#64 := by
  have hroot : (link.s2ptRoot >>> 12).extractLsb' 44 16 = 0#16 := by
    apply BitVec.eq_of_toNat_eq
    have hram : Config.platform.memBase + Config.platform.memSize = 0x90000000 := rfl
    have hin := h.rootInRam.2
    rw [BitVec.extractLsb'_toNat, BitVec.toNat_ushiftRight, Nat.shiftRight_eq_div_pow, Nat.shiftRight_eq_div_pow]
    simp only [BitVec.toNat_zero]
    omega
  unfold Dc.gscid dcAt
  rw [BitVec.extractLsb'_or, BitVec.extractLsb'_or, hroot]
  cases modes.iohgatp <;> decide

/-- The device context of the tests carries the PSCID that their commands name. -/
theorem dcAt_pscid (link : Link) (modes : DcModes) : (dcAt link modes).pscid = 0x0DEF#64 :=
  (by decide : ((DdtConfig.platform.pscid did <<< pscidOff).extractLsb' 12 20).setWidth 64 = 0x0DEF#64)

/-! ## Walks -/

/-- A translation uses entries of the tables only. -/
def ReadsOk (link : Link) (r : Reads) : Prop := ∀ stage a, Fits link a (r stage a)

/-- The second stage gives the addresses of the tables of the first stage back. -/
theorem secondStage_low (h : TablesPlaced Config.platform link) (hr : ReadsOk link r) (modes : DcModes) (write : Bool) {gpa : Nat}
    (hgpa : gpa < 0xC0000000) : ∃ flags, (dcAt link modes).secondStage r write gpa = some (gpa, flags) := by
  unfold Dc.secondStage
  split
  · refine ⟨stage2Perm1Gib, ?_⟩
    rw [root_second h]
    refine s2_low_of_read hgpa ?_
    have hentry := hr .second _ .root (gpa / 2 ^ 30) (by simp only [PtTable.size]; omega) rfl
    rcases hentry with hentry | ⟨hroot, -⟩
    · rw [← rootBuilt_low (by omega)]
      exact congrArg some hentry
    · cases hroot
  · exact ⟨0#64, rfl⟩

/-- The tables lie below the addresses that the second stage moves. -/
theorem inStage_lt (h : TablesPlaced Config.platform link) {stage : Stage} {a : Nat} (ha : InStage link stage a) :
    a < 0xC0000000 := by
  obtain ⟨t, i, -, hi, rfl⟩ := ha
  have hram : Config.platform.memBase + Config.platform.memSize = 0x90000000 := rfl
  have hin := (base_inRam h Config.platform_regular t).2
  omega

/-- Below the root level the index of an entry is one of 512. -/
theorem index_lt (s : Scheme) {level : Nat} (hl : level < 2) (va : Nat) : s.index level va < 512 := by
  unfold Scheme.index
  rw [if_neg (by omega)]
  exact Nat.mod_lt _ (by decide)

/-- Each table but the second-stage root is a page of 512 entries. -/
theorem size_of_ne_root {t : PtTable} (ht : t ≠ .root) : t.size = 512 := by
  cases t with
  | root => exact absurd rfl ht
  | _ => rfl

/-- A walk of a stage that finds entries of the tables of the stage stays within these tables. -/
theorem visited_inStage (h : TablesPlaced Config.platform link) {stage : Stage} {s : Scheme} {read : Nat → Option Pte}
    {write : Bool} {va : Nat} (hread : ∀ (t : PtTable) i p, t.stage = stage → i < t.size →
      read ((t.base link).toNat + 8 * i) = some p → EntryOf link t i p)
    (t₀ : PtTable) (hstage : t₀.stage = stage) (hsize : s.index 2 va < t₀.size) {a : Nat}
    (ha : a ∈ visited s read write va 2 (t₀.base link).toNat) : InStage link stage a := by
  let good : Nat → Nat → Prop := fun level table =>
    level ≤ 2 ∧ ∃ t : PtTable, t.stage = stage ∧ table = (t.base link).toNat ∧ s.index level va < t.size
  have hnext : ∀ level table p table', good (level + 1) table → read (table + 8 * s.index (level + 1) va) = some p →
      step s write (level + 1) va p = .next table' → good level table' := by
    rintro level table p table' ⟨hl, t, ht, rfl, hi⟩ hp hstep
    obtain ⟨t', ht', hne, rfl⟩ := entryOf_next h (hread t _ p ht hi hp) hstep
    refine ⟨by omega, t', ht'.trans ht, rfl, ?_⟩
    rw [size_of_ne_root hne]
    exact index_lt s (by omega) va
  obtain ⟨l, table, ⟨-, t, ht, rfl, hi⟩, rfl⟩ := mem_visited hnext ⟨Nat.le_refl 2, t₀, hstage, rfl, hsize⟩ ha
  exact ⟨t, _, ht, hi, rfl⟩

/-- The first stage reads its entries where its tables are. -/
theorem firstRead_inStage (h : TablesPlaced Config.platform link) (hr : ReadsOk link r) (modes : DcModes) {stage : Stage}
    {a : Nat} (ha : InStage link stage a) : (dcAt link modes).firstRead r a = some (r .first a) := by
  obtain ⟨_, hlow⟩ := secondStage_low h hr modes false (inStage_lt h ha)
  unfold Dc.firstRead
  rw [hlow]
  rfl

/-- The entries that a translation reads are those of the tables of their stage. -/
theorem reaches_inStage (h : TablesPlaced Config.platform link) (hr : ReadsOk link r) {modes : DcModes} {stage : Stage} {a : Nat}
    (hreach : (dcAt link modes).Reaches r stage a) : InStage link stage a := by
  cases hreach with
  | first write iova gpa spa flags _ hgpa hspa =>
    rw [root_first h, ← base_s1pt link] at hgpa
    have hin : InStage link .first gpa := by
      refine visited_inStage h ?_ (.s1 0) rfl (Nat.mod_lt _ (by decide)) hgpa
      intro t i p hstage hi hp
      rw [firstRead_inStage h hr modes ⟨t, i, hstage, hi, rfl⟩] at hp
      cases hp
      exact hr .first _ t i hi rfl
    obtain ⟨_, hlow⟩ := secondStage_low h hr modes false (inStage_lt h hin)
    rw [hlow] at hspa
    cases hspa
    exact hin
  | second write gpa a _ ha =>
    rw [root_second h] at ha
    refine visited_inStage h ?_ .root rfl (Nat.mod_lt _ (by decide)) ha
    intro t i p hstage hi hp
    cases hp
    exact hr .second _ t i hi rfl

/-! ## The memory -/

/-- An entry in memory is the entry of its table in the view of the placed tables. -/
theorem entryAt_view (h : TablesPlaced Config.platform link) (m : Mem) (t : PtTable) (i : Nat) :
    entryAt m ((t.base link).toNat + 8 * i) = (tables h Config.platform_regular).view m t i := by
  unfold entryAt
  rw [BitVec.ofNat_add, BitVec.ofNat_toNat, BitVec.setWidth_eq]
  rfl

/-- The memory after the switch of a stage. -/
def switchMem (link : Link) : Stage → Mem → Mem
  | .first => s1ptSwitch link
  | .second => s2ptSwitch link

/-- A switch exchanges two entries of one table. -/
theorem view_switch (h : TablesPlaced Config.platform link) (stage : Stage) (m : Mem) (hi : i < t.size) :
    (tables h Config.platform_regular).view (switchMem link stage m) t i =
      (tables h Config.platform_regular).view m t (if t = switchedTable stage then switch i else i) := by
  have h1 : TestPage.switch1.index < 512 := by decide
  have h2 : TestPage.switch2.index < 512 := by decide
  cases stage with
  | first => exact Layout.view_swap (t := PtTable.s1 3) h1 h2 hi m
  | second => exact Layout.view_swap (t := PtTable.s2 2) h1 h2 hi m

/-- All entries in memory are those of the tables. -/
def MemOk (link : Link) (m : Mem) : Prop := ∀ a, Fits link a (entryAt m a)

/-- The tables in memory are as built. -/
def AsBuilt (link : Link) (m : Mem) : Prop :=
  ∀ (t : PtTable) i, i < t.size → entryAt m ((t.base link).toNat + 8 * i) = made link t i

/-- The two builders leave the tables as built, when the tables were zero before. -/
theorem asBuilt_init (h : TablesPlaced Config.platform link) (hz : TablesZeroed link m) :
    AsBuilt link (s1ptInit Config.platform link (s2ptInit Config.platform link m)) := fun t i hi =>
  (entryAt_view h _ t i).trans
    (view_init h Config.platform_regular (fun _ _ hi _ => view_zeroed h Config.platform_regular hz hi) hi)

/-- Tables that are as built hold entries of their tables only. -/
theorem AsBuilt.memOk (hm : AsBuilt link m) : MemOk link m := by
  rintro _ t i hi rfl
  exact Or.inl (hm t i hi)

/-- After the two builders the tables hold their own entries only. -/
theorem memOk_init (h : TablesPlaced Config.platform link) {m : Mem} (hz : TablesZeroed link m) :
    MemOk link (s1ptInit Config.platform link (s2ptInit Config.platform link m)) := (asBuilt_init h hz).memOk

/-- A switch of two pages leaves entries of their own tables in memory. -/
theorem memOk_switch (h : TablesPlaced Config.platform link) (stage : Stage) (hm : MemOk link m) :
    MemOk link (switchMem link stage m) := by
  rintro _ t i hi rfl
  rw [entryAt_view h, view_switch h stage m hi]
  by_cases ht : t = switchedTable stage
  · have hsize : t.size = 512 := by
      rw [ht]
      cases stage <;> rfl
    have hlt : switch i < t.size := hsize ▸ switch_lt (hsize ▸ hi)
    have hstage : t = switchedTable t.stage := by
      rw [ht]
      cases stage <;> rfl
    rw [if_pos ht, ← entryAt_view h]
    rcases hm _ t (switch i) hlt rfl with he | ⟨-, he⟩
    · exact Or.inr ⟨hstage, he⟩
    · refine Or.inl (he.trans ?_)
      unfold switch
      rw [Equiv.swap_apply_self]
  · rw [if_neg ht, ← entryAt_view h]
    exact hm _ t i hi rfl

/-- A switch leaves the entries of the other stage alone. -/
theorem entryAt_switch (h : TablesPlaced Config.platform link) {stage stage' : Stage} (hne : stage' ≠ stage) (m : Mem) {a : Nat}
    (ha : InStage link stage' a) : entryAt (switchMem link stage m) a = entryAt m a := by
  obtain ⟨t, i, hstage, hi, rfl⟩ := ha
  rw [entryAt_view h, entryAt_view h, view_switch h stage m hi, if_neg]
  rintro rfl
  apply hne
  rw [← hstage]
  cases stage <;> rfl

/-! ## The switched pages -/

/-- The first stage translates a page of its first window through one entry of the leaf table. -/
theorem firstStage_page (h : TablesPlaced Config.platform link) (hr : ReadsOk link r) (modes : DcModes)
    (hmodes : modes.iosatp = true)
    (hroot : r .first (((PtTable.s1 0).base link).toNat + 8 * 4) = made link (.s1 0) 4)
    (hmid : r .first (((PtTable.s1 2).base link).toNat + 8 * 0) = made link (.s1 2) 0)
    (i off : Nat) {j va : Nat} (hva : va = 0x100000000 + i * 0x1000 + off) (hi : i < 512) (hj : j < 512)
    (hmapped : pageMapped PagePerm.stage1 j = true) (hoff : off < 2 ^ 12)
    (hleaf : r .first ((s1Switched.base link).toNat + 8 * i) = made link (.s1 3) j) (write : Bool) :
    (dcAt link modes).firstStage r write va =
        some (0x100000000 + j * 0x1000 + off, pageFlags PagePerm.stage1 j) ∧
      (s1Switched.base link).toNat + 8 * i ∈ visited Paging.sv39 ((dcAt link modes).firstRead r) write va 2
        ((dcAt link modes).root .first) := by
  have hc := Config.platform_regular
  have hi2 : Paging.sv39.index 2 va = 4 := by
    rw [index_two, show 2 ^ Paging.sv39.rootBits = 512 from rfl]
    omega
  have hi1 : Paging.sv39.index 1 va = 0 := (index_one _).trans (by omega)
  have hi0 : Paging.sv39.index 0 va = i := (index_zero _).trans (by omega)
  have hin : ∀ (k : Fin 6) i, i < 512 → InStage link .first (((PtTable.s1 k).base link).toNat + 8 * i) := fun k i hi =>
    ⟨.s1 k, i, rfl, hi, rfl⟩
  have h2 : (dcAt link modes).firstRead r (((PtTable.s1 0).base link).toNat + 8 * Paging.sv39.index 2 va) =
      some (Pte.make (pageOf link (.s1 2)) pteV) := by
    rw [hi2, firstRead_inStage h hr modes (hin 0 4 (by decide)), hroot]
    rfl
  have h1 : (dcAt link modes).firstRead r (pageOf link (.s1 2) * 2 ^ 12 + 8 * Paging.sv39.index 1 va) =
      some (Pte.make (pageOf link s1Switched) pteV) := by
    rw [hi1, pageOf_mul h hc, firstRead_inStage h hr modes (hin 2 0 (by decide)), hmid]
    rfl
  have h0 : (dcAt link modes).firstRead r (pageOf link s1Switched * 2 ^ 12 + 8 * Paging.sv39.index 0 va) =
      some (Pte.make (0x100000 + j) (pageFlags PagePerm.stage1 j)) := by
    rw [hi0, pageOf_mul h hc]
    exact (firstRead_inStage h hr modes (hin 3 i hi)).trans (congrArg some hleaf)
  have hgood : GoodFlags Paging.sv39 (pageFlags PagePerm.stage1 j) (pageMapped PagePerm.stage1 j) := goodFlags_stage .first j
  have hrange : Paging.sv39.inRange va = true := by
    have hlt : va < 2 ^ 38 := by omega
    simp only [Paging.sv39, hlt, decide_true, Bool.true_or]
  obtain ⟨hwalk, hvisited⟩ := @walk_page Paging.sv39 ((dcAt link modes).firstRead r) write va (0x100000 + j)
    (pageFlags PagePerm.stage1 j) ((PtTable.s1 0).base link).toNat (pageOf link s1Switched) (pageOf link (.s1 2)) hrange h2
    (pageOf_lt h hc _) h1 (pageOf_lt h hc _) h0 (by omega) hgood.small (hgood.leaf hmapped)
  rw [pageOf_mul h hc, hi0] at hvisited
  unfold Dc.firstStage
  rw [dcAt_sv39, if_pos hmodes, root_first h, ← base_s1pt link]
  refine ⟨?_, hvisited⟩
  rw [hwalk, show (0x100000 + j) * 2 ^ 12 + va % 2 ^ 12 = 0x100000000 + j * 0x1000 + off by omega]

/-- The second stage translates a page of its first window through one entry of the leaf table. -/
theorem secondStage_page (h : TablesPlaced Config.platform link) {modes : DcModes} (hmodes : modes.iohgatp = true)
    (hroot : r .second ((PtTable.root.base link).toNat + 8 * 4) = made link .root 4)
    (hmid : r .second (((PtTable.s2 1).base link).toNat + 8 * 0) = made link (.s2 1) 0)
    (i off : Nat) {j va : Nat} (hva : va = 0x100000000 + i * 0x1000 + off) (hi : i < 512) (hj : j < 512)
    (hmapped : pageMapped PagePerm.stage2 j = true) (hoff : off < 2 ^ 12)
    (hleaf : r .second ((s2Switched.base link).toNat + 8 * i) = made link (.s2 2) j) (write : Bool) :
    (dcAt link modes).secondStage r write va =
      some (0x88000000 + j * 0x1000 + off, pageFlags PagePerm.stage2 j) := by
  have hc := Config.platform_regular
  have hbase : (Config.platform.memBase + Config.platform.memSize / 2) / 2 ^ 12 = 0x88000 := rfl
  have hi2 : Paging.sv39x4.index 2 va = 4 := (index_root (by omega)).trans (by omega)
  have hi1 : Paging.sv39x4.index 1 va = 0 := (index_one _).trans (by omega)
  have hi0 : Paging.sv39x4.index 0 va = i := (index_zero _).trans (by omega)
  have hgood : GoodFlags Paging.sv39x4 (pageFlags PagePerm.stage2 j) (pageMapped PagePerm.stage2 j) := goodFlags_stage .second j
  have h2 : some (r .second ((PtTable.root.base link).toNat + 8 * Paging.sv39x4.index 2 va)) =
      some (Pte.make (pageOf link (.s2 1)) pteV) := by
    rw [hi2, hroot]
    rfl
  have h1 : some (r .second (pageOf link (.s2 1) * 2 ^ 12 + 8 * Paging.sv39x4.index 1 va)) =
      some (Pte.make (pageOf link s2Switched) pteV) := by
    rw [hi1, pageOf_mul h hc, hmid]
    rfl
  have h0 : some (r .second (pageOf link s2Switched * 2 ^ 12 + 8 * Paging.sv39x4.index 0 va)) =
      some (Pte.make (0x88000 + j) (pageFlags PagePerm.stage2 j)) := by
    rw [hi0, pageOf_mul h hc, hleaf, ← hbase]
    rfl
  have hwalk := (@walk_page Paging.sv39x4 (fun a => some (r .second a)) write va (0x88000 + j)
    (pageFlags PagePerm.stage2 j) (PtTable.root.base link).toNat (pageOf link s2Switched) (pageOf link (.s2 1))
    (decide_eq_true (by omega)) h2 (pageOf_lt h hc _) h1 (pageOf_lt h hc _) h0 (by omega) hgood.small
    (hgood.leaf hmapped)).1
  unfold Dc.secondStage
  rw [dcAt_sv39x4 link, if_pos hmodes, root_second h]
  refine hwalk.trans ?_
  rw [show (0x88000 + j) * 2 ^ 12 + va % 2 ^ 12 = 0x88000000 + j * 0x1000 + off by omega]

/-- The entry through which the first stage translates the page `SWITCH1`. -/
def switch1Addr (link : Link) : Nat := (s1Switched.base link).toNat + 8 * TestPage.switch1.index

/-- The page behind an entry of the leaf tables, where both stages have been built. -/
def switchedPage (j : Nat) : Translated :=
  .page (0x88000000 + j * 0x1000) (pageFlags PagePerm.stage1 j) (pageFlags PagePerm.stage2 j)

/-- Both stages map the pages `SWITCH1` and `SWITCH2`. -/
theorem pageMapped_switch {j : Nat} (hj : j = 27 ∨ j = 28) :
    pageMapped PagePerm.stage1 j = true ∧ pageMapped PagePerm.stage2 j = true := by
  rcases hj with rfl | rfl <;> decide

/-- The first stage translates the page `SWITCH1` through one entry of the leaf table. -/
theorem firstStage_switch1 (h : TablesPlaced Config.platform link) (hr : ReadsOk link r) (modes : DcModes)
    (hmodes : modes.iosatp = true)
    (hroot : r .first (((PtTable.s1 0).base link).toNat + 8 * 4) = made link (.s1 0) 4)
    (hmid : r .first (((PtTable.s1 2).base link).toNat + 8 * 0) = made link (.s1 2) 0)
    {j : Nat} (hj : j = 27 ∨ j = 28) (hleaf : r .first (switch1Addr link) = made link (.s1 3) j) (write : Bool) :
    (dcAt link modes).firstStage r write (virt .switch1).toNat =
        some (0x100000000 + j * 0x1000, pageFlags PagePerm.stage1 j) ∧
      switch1Addr link ∈ visited Paging.sv39 ((dcAt link modes).firstRead r) write (virt .switch1).toNat 2
        ((dcAt link modes).root .first) :=
  firstStage_page h hr modes hmodes hroot hmid TestPage.switch1.index 0 rfl (by decide) (by omega)
    (pageMapped_switch hj).1 (by decide) hleaf write

/-- The second stage maps the pages `SWITCH1` and `SWITCH2` to their places among the test pages, when its entries are as
built. -/
theorem secondStage_switch (h : TablesPlaced Config.platform link) {modes : DcModes} (hmodes : modes.iohgatp = true)
    (hr : ∀ (t : PtTable) i, t.stage = .second → i < t.size → r .second ((t.base link).toNat + 8 * i) = made link t i)
    {j : Nat} (hj : j = 27 ∨ j = 28) (write : Bool) :
    (dcAt link modes).secondStage r write (0x100000000 + j * 0x1000) =
      some (0x88000000 + j * 0x1000, pageFlags PagePerm.stage2 j) :=
  secondStage_page h hmodes (hr .root 4 rfl (by decide)) (hr (.s2 1) 0 rfl (by decide)) j 0 rfl (by omega)
    (by omega) (pageMapped_switch hj).2 (by decide) (hr (.s2 2) j rfl (by simp only [PtTable.size]; omega)) write

/-- Neither of the two pages is one of the MSI pages, so no request for them goes to an interrupt file. -/
theorem isMsi_switch (link : Link) (modes : DcModes) {j : Nat} (hj : j = 27 ∨ j = 28) :
    (dcAt link modes).isMsi (0x100000000 + j * 0x1000) = false := by
  have hpage : (BitVec.ofNat 64 ((0x100000000 + j * 0x1000) / 2 ^ 12) &&& ~~~msiAddrMask ==
      msiAddrPattern &&& ~~~msiAddrMask) = false := by rcases hj with rfl | rfl <;> decide
  unfold Dc.isMsi
  rw [Bool.and_eq_false_iff]
  exact Or.inr hpage

/-- The page `SWITCH1` is translated to the page behind the entry that the first stage finds in the leaf table. -/
theorem translate_switch1 (h : TablesPlaced Config.platform link) (hr : ReadsOk link r)
    (hroot : r .first (((PtTable.s1 0).base link).toNat + 8 * 4) = made link (.s1 0) 4)
    (hmid : r .first (((PtTable.s1 2).base link).toNat + 8 * 0) = made link (.s1 2) 0)
    {j : Nat} (hj : j = 27 ∨ j = 28) (hleaf : r .first (switch1Addr link) = made link (.s1 3) j)
    (hsecond : ∀ (t : PtTable) i, t.stage = .second → i < t.size → r .second ((t.base link).toNat + 8 * i) = made link t i) :
    (dcAt link ⟨true, true, true⟩).translate r true (virt .switch1).toNat = some (switchedPage j) := by
  unfold Dc.translate
  rw [(firstStage_switch1 h hr _ rfl hroot hmid hj hleaf true).1, Option.bind_some, isMsi_switch link _ hj,
    secondStage_switch h rfl hsecond hj]
  rfl

end IotlbAux

end RvIommuTests
