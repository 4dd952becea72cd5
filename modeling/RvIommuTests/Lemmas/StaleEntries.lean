import RvIommuTests.Lemmas.Switches
import RvIommuTests.StaleEntries
import RvIommuTests.Theorems.Configurations

/-!
# Walks over tables with stale entries

After the builders a walk reads `foundAt` of the memory before them, so that the walks of two memories can be compared over two such
functions. Tables that were built in a memory of zeros are what they are compared with.
-/

namespace RvIommuTests

open Bytes Tables Paging PageTablesAux WalksAux ConfigurationsAux IotlbAux SwitchesAux

namespace StaleAux

variable {link : Link} {m : Mem} {t t₀ : PtTable} {i level : Nat} {s : Scheme} {write : Bool} {va a : Nat}

/-! ## What a walk finds -/

/-- Each table is in the list of them, so a search through it misses none. -/
theorem mem_all (t : PtTable) : t ∈ PtTable.all := by
  cases t with
  | root => simp [PtTable.all]
  | s1 k => simp [PtTable.all]
  | s2 k => simp [PtTable.all]

/-- The table that is found at an address covers it with one of its entries. -/
theorem covers_of_tableAt (h : tableAt link a = some t) : t.Covers link a :=
  of_decide_eq_true (List.find?_some (p := fun t => decide (PtTable.Covers link a t)) h)

/-- An address where no table is found is covered by none. -/
theorem not_covers_of_tableAt (h : tableAt link a = none) (t : PtTable) : ¬ t.Covers link a :=
  fun ht => List.find?_eq_none.1 h t (mem_all t) (decide_eq_true ht)

/-- At the address of an entry its table is found. -/
theorem tableAt_entry (h : TablesPlaced Config.platform link) (hi : i < t.size) :
    tableAt link ((t.base link).toNat + 8 * i) = some t := by
  have ht : t.Covers link ((t.base link).toNat + 8 * i) := ⟨by omega, by omega⟩
  cases hf : tableAt link ((t.base link).toNat + 8 * i) with
  | none => exact absurd ht (not_covers_of_tableAt hf t)
  | some t' =>
    obtain ⟨hlo, hhi⟩ := covers_of_tableAt hf
    by_cases hne : t' = t
    · rw [hne]
    · have := base_disjoint h Config.platform_regular hne
      omega

/-- In a table a walk finds what the builders have written, or what was there. -/
theorem foundAt_entry (h : TablesPlaced Config.platform link) (hi : i < t.size) :
    foundAt link m ((t.base link).toNat + 8 * i) =
      if Unwritten t i then entryAt m ((t.base link).toNat + 8 * i) else built Config.platform link t i := by
  unfold foundAt
  rw [tableAt_entry h hi]
  simp only [Nat.add_sub_cancel_left, Nat.mul_div_cancel_left i (show 0 < 8 by decide)]

/-- An entry that the builders do not write is found as it was in memory. -/
theorem foundAt_stale (h : TablesPlaced Config.platform link) (hi : i < t.size) (hu : Unwritten t i) :
    foundAt link m ((t.base link).toNat + 8 * i) = get m (t.base link) i := by
  rw [foundAt_entry h hi, if_pos hu, entryAt, BitVec.ofNat_add, BitVec.ofNat_toNat, BitVec.setWidth_eq]
  rfl

/-- In a memory of zeros a walk after the builders finds the built entries and zeros elsewhere. -/
theorem foundAt_zero (h : TablesPlaced Config.platform link) (hi : i < t.size) :
    foundAt link (fun _ => 0#8) ((t.base link).toNat + 8 * i) = made link t i := by
  rw [foundAt_entry h hi]
  split
  · rename_i hu
    rw [made, built_unwritten hu]
    exact load_zero fun _ _ => rfl
  · rfl

/-! ## The memory after the builders -/

/-- Writes to the tables leave every other doubleword as it is. -/
theorem load_writes {x : Addr} (hx : ∀ (t : PtTable) i, i < t.size → Apart (entryAddr (t.base link) i) 8 x 8)
    (ws : List TableWrite) (hws : ∀ w ∈ ws, w.Inside) (m : Mem) :
    load (ws.foldl (TableWrite.run link) m) 8 x = load m 8 x := by
  induction ws generalizing m with
  | nil => rfl
  | cons w ws ih =>
    rw [List.forall_mem_cons] at hws
    rw [List.foldl_cons, ih hws.2]
    exact @load_store_apart m 8 8 _ x _ (hx w.table w.index hws.1)

/-- After the builders a walk reads at every aligned address what it is to find there. -/
theorem physRead_init (h : TablesPlaced Config.platform link) (m : Mem) (ha : a % 8 = 0) (hlt : a < 2 ^ 57) :
    physRead (s1ptInit Config.platform link (s2ptInit Config.platform link m)) a = some (foundAt link m a) := by
  have hc := Config.platform_regular
  refine congrArg some (?_ : entryAt _ a = _)
  have halign : ∀ t : PtTable, (t.base link).toNat % 8 = 0 := by
    intro t
    have := pageOf_mul h hc t
    omega
  cases hf : tableAt link a with
  | some t =>
    obtain ⟨hlo, hhi⟩ := covers_of_tableAt hf
    have haligned := halign t
    obtain ⟨i, hi, rfl⟩ : ∃ i < t.size, a = (t.base link).toNat + 8 * i :=
      ⟨(a - (t.base link).toNat) / 8, by omega, by omega⟩
    rw [foundAt_entry h hi, entryAt_view h, entryAt_view h]
    exact view_init_of h hc hi
  | none =>
    have hx : ∀ (t : PtTable) i, i < t.size → Apart (entryAddr (t.base link) i) 8 (BitVec.ofNat 64 a) 8 := by
      intro t i hi
      have hnot : ¬ (_ ∧ _) := not_covers_of_tableAt hf t
      have haligned := halign t
      have hfits := base_fits h hc t
      have haddr : (entryAddr (t.base link) i).toNat = (t.base link).toNat + 8 * i := toNat_add_offset (by omega)
      have ha64 : (BitVec.ofNat 64 a).toNat = a := by
        rw [BitVec.toNat_ofNat]
        omega
      apply apart_of_disjoint (by decide) (by decide)
      · omega
      · omega
      · omega
    have hinside := (List.forall_mem_append).1 ((inside_iff Config.platform).2 hc.count)
    rw [foundAt, hf, s1ptInit_eq, s2ptInit_eq]
    unfold entryAt
    rw [load_writes hx _ hinside.1, load_writes hx _ hinside.2]

/-! ## Walks -/

/-- How a walk reads tables that were built in a memory. -/
def readFound (link : Link) (m : Mem) (a : Nat) : Option Pte := some (foundAt link m a)

/-- A walk only asks for aligned addresses. -/
theorem visited_aligned {read : Nat → Option Pte} {table : Nat} (hs : s.rootBits ≤ 11) (htable : table % 8 = 0)
    (hlt : table < 2 ^ 56) (ha : a ∈ visited s read write va level table) : a % 8 = 0 ∧ a < 2 ^ 57 := by
  let good : Nat → Nat → Prop := fun _ table => table % 8 = 0 ∧ table < 2 ^ 56
  have hnext : ∀ level table p table', good (level + 1) table → read (table + 8 * s.index (level + 1) va) = some p →
      step s write (level + 1) va p = .next table' → good level table' := by
    intro level table p table' _ _ hstep
    obtain ⟨-, rfl⟩ := points_of_step hstep
    have hppn : p.ppn < 2 ^ 44 := Nat.mod_lt _ (by decide)
    exact ⟨by omega, by omega⟩
  obtain ⟨l, table', ⟨hmod, hlt'⟩, rfl⟩ := mem_visited hnext ⟨htable, hlt⟩ ha
  have hindex : s.index l va < 2 ^ 11 := by
    unfold Scheme.index
    split
    · exact Nat.lt_of_lt_of_le (Nat.mod_lt _ (Nat.two_pow_pos _)) (Nat.pow_le_pow_right (by decide) hs)
    · exact Nat.lt_trans (Nat.mod_lt _ (by decide)) (by decide)
  omega

/-- The walks after the builders, in terms of the memory before them. -/
theorem walk_init (h : TablesPlaced Config.platform link) (hs : s.rootBits ≤ 11) (t₀ : PtTable) (m : Mem) (write : Bool)
    (va : Nat) :
    let m' := s1ptInit Config.platform link (s2ptInit Config.platform link m)
    walk s (physRead m') write (t₀.base link).toNat va = walk s (readFound link m) write (t₀.base link).toNat va ∧
      visited s (physRead m') write va 2 (t₀.base link).toNat = visited s (readFound link m) write va 2 (t₀.base link).toNat := by
  have hread : ∀ a ∈ visited s (readFound link m) write va 2 (t₀.base link).toNat,
      physRead (s1ptInit Config.platform link (s2ptInit Config.platform link m)) a = readFound link m a := by
    intro a ha
    have hbase := pageOf_mul h Config.platform_regular t₀
    have hfits := base_fits h Config.platform_regular t₀
    obtain ⟨hmod, hlt⟩ := visited_aligned hs (by omega) (by omega) ha
    exact physRead_init h m hmod hlt
  exact ⟨walk_congr hread, visited_congr hread⟩

/-! ## The way to a stale entry -/

/-- An entry that points to a table is written by the builders, as a pointer to it. -/
theorem built_pointee {t' : PtTable} (hp : pointee t i = some t') :
    built Config.platform link t i = Pte.make (pageOf link t') pteV ∧ ¬ Unwritten t i ∧ i < t.size := by
  unfold pointee at hp
  repeat' split at hp
  all_goals cases hp
  all_goals
    subst_vars
    exact ⟨rfl, by decide, by decide⟩

/-- The pointers on the way are followed, whatever the stale entries are. -/
theorem descend_onPath (h : TablesPlaced Config.platform link) (m : Mem) (write : Bool) (hpath : OnPath s va t₀ t level) :
    descend s (readFound link m) write va 2 (t₀.base link).toNat =
        descend s (readFound link m) write va level (t.base link).toNat ∧
      ∀ a ∈ visited s (readFound link m) write va level (t.base link).toNat,
        a ∈ visited s (readFound link m) write va 2 (t₀.base link).toNat := by
  induction hpath with
  | root => exact ⟨rfl, fun _ ha => ha⟩
  | @next t t' level hpath hp ih =>
    obtain ⟨hb, hw, hi⟩ := @built_pointee link _ _ _ hp
    have hread : readFound link m ((t.base link).toNat + 8 * s.index (level + 1) va) = some (Pte.make (pageOf link t') pteV) := by
      rw [readFound, foundAt_entry h hi, if_neg hw, hb]
    have hpage := pageOf_lt h Config.platform_regular t'
    have hmul := pageOf_mul h Config.platform_regular t'
    refine ⟨?_, ?_⟩
    · rw [ih.1, descend_next hread hpage, hmul]
    · intro a ha
      refine ih.2 a ?_
      rw [visited_next hread hpage, hmul]
      exact List.mem_cons_of_mem _ ha

/-- All tables on a path belong to the stage of the table that it starts from. -/
theorem onPath_stage (hpath : OnPath s va t₀ t level) : t.stage = t₀.stage := by
  induction hpath with
  | root => rfl
  | next _ hp ih => exact (pointee_stage hp).1.trans ih

/-- Where a walk of the first stage comes to stale entries. -/
theorem onPath_first (hpath : OnPath s va (.s1 0) t level) (hu : Unwritten t i) :
    t = .s1 0 ∧ level = 2 ∨ t = .s1 2 ∧ level = 1 := by
  rcases hu.cases with ⟨rfl, -⟩ | ⟨rfl, -⟩ | ⟨rfl, -⟩
  · exact Or.inl ⟨rfl, hpath.level_root (Or.inl rfl)⟩
  · obtain ⟨t', hpath', hp⟩ := hpath.up (by decide)
    obtain ⟨rfl, -⟩ := (pointee_eq hp).2.1 rfl
    have := hpath'.level_root (Or.inl rfl)
    exact Or.inr ⟨rfl, by omega⟩
  · exact absurd (onPath_stage hpath) (by decide)

/-- A walk of the second stage comes to an entry that is not written in `s2pt[1]` only, at level 1. -/
theorem onPath_second (hpath : OnPath s va .root t level) (hu : Unwritten t i) : t = .s2 1 ∧ level = 1 := by
  rcases hu.cases with ⟨rfl, -⟩ | ⟨rfl, -⟩ | ⟨rfl, -⟩
  · exact absurd (onPath_stage hpath) (by decide)
  · exact absurd (onPath_stage hpath) (by decide)
  · obtain ⟨t', hpath', hp⟩ := hpath.up (by decide)
    obtain ⟨rfl, -⟩ := (pointee_eq hp).2.2.2.2 rfl
    have := hpath'.level_root (Or.inr rfl)
    exact ⟨rfl, by omega⟩

/-! ## Dead entries -/

/-- A walk that comes to no stale entry but dead ones finds what it would find if the tables had been built in zeros, and it finds
nothing when it comes to one. -/
theorem walk_of_dead (h : TablesPlaced Config.platform link) (hsize : s.index 2 va < t₀.size)
    (hdead : ∀ t level, OnPath s va t₀ t level → s.index level va < t.size → Unwritten t (s.index level va) →
      level ≤ 2 ∧ Dead s (foundAt link m) level (get m (t.base link) (s.index level va))) :
    walk s (readFound link m) write (t₀.base link).toNat va =
        walk s (readFound link fun _ => 0#8) write (t₀.base link).toNat va ∧
      ((walk s (readFound link m) write (t₀.base link).toNat va).isSome = true →
        ∀ a ∈ visited s (readFound link m) write va 2 (t₀.base link).toNat, ¬ Stale link a) := by
  have hmade : ∀ (t : PtTable) i p, t.stage = t₀.stage → i < t.size →
      readFound link (fun _ => 0#8) ((t.base link).toNat + 8 * i) = some p → p = made link t i := by
    intro t i p _ hi hp
    cases hp
    exact foundAt_zero h hi
  by_cases hstale : ∃ a ∈ visited s (readFound link fun _ => 0#8) write va 2 (t₀.base link).toNat, Stale link a
  · obtain ⟨_, ha, t, i, hi, hu, rfl⟩ := hstale
    obtain ⟨level, hpath, rfl⟩ := visited_onPath h hmade t₀ rfl hsize hi ha
    obtain ⟨hl, hd⟩ := hdead t level hpath hi hu
    have hnone : ∀ m, Dead s (foundAt link m) level (get m (t.base link) (s.index level va)) →
        walk s (readFound link m) write (t₀.base link).toNat va = none := by
      intro m hd
      have hdescend : descend s (readFound link m) write va level (t.base link).toNat = none := by
        refine descend_dead hl ?_
        rw [foundAt_stale h hi hu]
        exact hd
      unfold walk
      split
      · rw [(descend_onPath h m write hpath).1, hdescend]
      · rfl
    have hzero : get (fun _ => 0#8) (t.base link) (s.index level va) = 0#64 := load_zero fun _ _ => rfl
    rw [hnone m hd, hnone _ (hzero ▸ dead_of_invalid rfl level)]
    exact ⟨rfl, fun hf => nomatch hf⟩
  · have hsame : ∀ a ∈ visited s (readFound link fun _ => 0#8) write va 2 (t₀.base link).toNat,
        readFound link m a = readFound link (fun _ => 0#8) a := by
      intro a ha
      obtain ⟨t, i, -, hi, rfl⟩ : InStage link t₀.stage a :=
        visited_inStage h (fun t i p ht hi hp => Or.inl (hmade t i p ht hi hp)) t₀ rfl hsize ha
      have hw : ¬ Unwritten t i := fun hu => hstale ⟨_, ha, t, i, hi, hu, rfl⟩
      rw [readFound, readFound, foundAt_entry h hi, foundAt_entry h hi, if_neg hw, if_neg hw]
    refine ⟨walk_congr hsame, ?_⟩
    rw [visited_congr hsame]
    exact fun _ a ha hs => hstale ⟨a, ha, hs⟩

/-- A stale entry is dead when no walk that comes to it translates, as long as every offset behind it is that of some address. -/
theorem dead_of_none (h : TablesPlaced Config.platform link) (hl : level ≤ 2) (hi : i < t.size) (hu : Unwritten t i)
    (hpath : ∀ off < 2 ^ pageBits level, ∃ va < 2 ^ 64, s.inRange va = true ∧ OnPath s va t₀ t level ∧ s.index level va = i ∧
      va % 2 ^ pageBits level = off)
    (hnone : ∀ va < 2 ^ 64, (walk s (readFound link m) false (t₀.base link).toNat va).isSome = true →
      ∀ a ∈ visited s (readFound link m) false va 2 (t₀.base link).toNat, ¬ Stale link a) :
    Dead s (foundAt link m) level (get m (t.base link) i) := by
  by_contra hdead
  obtain ⟨off, hoff, hsome⟩ := exists_of_not_dead hl hdead
  obtain ⟨va, hva, hin, hon, rfl, hmod⟩ := hpath off hoff
  obtain ⟨hdescend, hvisited⟩ := descend_onPath h m false hon
  refine hnone va hva ?_ _ (hvisited _ ?_) ⟨t, s.index level va, hi, hu, rfl⟩
  · unfold walk
    rw [if_pos hin, hdescend]
    exact hsome va _ hmod (foundAt_stale h hi hu)
  · cases level with
    | zero => exact List.mem_singleton.2 rfl
    | succ level => exact List.mem_cons_self

end StaleAux

end RvIommuTests
