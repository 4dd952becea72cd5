import Mathlib.Algebra.Ring.Parity
import RvIommuTests.Lemmas.Iotlb

/-!
# Sequences of switches

After any sequence of `s1pt_switch` and `s2pt_switch`, two entries of the leaf table of each stage are exchanged or not, by the
parity of the calls for that stage. A walk comes to these entries only with an address in the two pages, or in a window behind
which they stand once more and which the first stage does not map.
-/

namespace RvIommuTests

open Bytes Tables Paging PageTablesAux WalksAux DdtCacheAux IotlbAux

/-- A sequence of calls of `s1pt_switch` and `s2pt_switch`. -/
def switches (link : Link) (calls : List Stage) (m : Mem) : Mem :=
  calls.foldl (fun m stage => switchMem link stage m) m

namespace SwitchesAux

variable {link : Link} {t t' : PtTable} {i i' : Nat} {m : Mem} {s : Scheme} {read : Nat → Option Pte} {write : Bool} {va : Nat}

/-! ## The entries -/

/-- Two switches of a stage undo each other. -/
theorem switch_involutive : Function.Involutive switch := fun i => Equiv.swap_apply_self _ _ i

/-- The entry at which the one of an index stands after some calls for its stage. -/
def switched (calls : List Stage) (t : PtTable) (i : Nat) : Nat :=
  if t = switchedTable t.stage then switch^[calls.count t.stage] i else i

/-- Switches stay within the table. -/
theorem iterate_switch_lt (n : Nat) (hi : i < 512) : switch^[n] i < 512 := by
  induction n with
  | zero => exact hi
  | succ n ih =>
    rw [Function.iterate_succ_apply']
    exact switch_lt ih

/-- Any number of switches leaves the entries of the table other than the two at their indices. -/
theorem iterate_switch_other (h1 : i ≠ 27) (h2 : i ≠ 28) (n : Nat) : switch^[n] i = i := by
  induction n with
  | zero => rfl
  | succ n ih =>
    rw [Function.iterate_succ_apply', ih]
    exact Equiv.swap_apply_of_ne_of_ne h1 h2

/-- The index that an entry has after some calls is one of its table. -/
theorem switched_lt (calls : List Stage) (hi : i < t.size) : switched calls t i < t.size := by
  unfold switched
  split
  · rename_i ht
    have hsize : t.size = 512 := by
      rw [ht]
      cases t.stage <;> rfl
    rw [hsize] at hi ⊢
    exact iterate_switch_lt _ hi
  · exact hi

/-- The table whose entries are switched for a stage belongs to that stage. -/
theorem stage_switchedTable (stage : Stage) : (switchedTable stage).stage = stage := by
  cases stage <;> rfl

/-- A sequence of switches permutes the leaf table of each stage by the number of the calls for the stage. -/
theorem view_switches (h : TablesPlaced Config.platform link) (calls : List Stage) (m : Mem) (hi : i < t.size) :
    (tables h Config.platform_regular).view (switches link calls m) t i =
      (tables h Config.platform_regular).view m t (switched calls t i) := by
  induction calls generalizing m with
  | nil =>
    unfold switched
    split <;> rfl
  | cons stage calls ih =>
    have hcons : switches link (stage :: calls) m = switches link calls (switchMem link stage m) := rfl
    rw [hcons, ih, view_switch h stage m (switched_lt calls hi)]
    congr 1
    unfold switched
    by_cases ht : t = switchedTable t.stage
    · rw [if_pos ht, if_pos ht]
      by_cases hs : t.stage = stage
      · rw [if_pos (by rw [← hs]; exact ht), hs, List.count_cons_self, Function.iterate_succ_apply']
      · rw [if_neg (fun he => hs (by rw [he, stage_switchedTable])), List.count_cons_of_ne (fun he => hs he.symm)]
    · rw [if_neg ht, if_neg ht, if_neg (fun he => ht (by rw [he, stage_switchedTable]))]

/-- The entries in memory after the builders and a sequence of switches. -/
theorem entryAt_switches (h : TablesPlaced Config.platform link) (hm : AsBuilt link m) (calls : List Stage) (hi : i < t.size) :
    entryAt (switches link calls m) ((t.base link).toNat + 8 * i) = made link t (switched calls t i) := by
  rw [entryAt_view h, view_switches h calls m hi, ← entryAt_view h]
  exact hm t _ (switched_lt calls hi)

/-- Any number of switches leaves entries of their own tables in memory. -/
theorem memOk_switches (h : TablesPlaced Config.platform link) (hm : MemOk link m) (calls : List Stage) :
    MemOk link (switches link calls m) := by
  induction calls generalizing m with
  | nil => exact hm
  | cons stage calls ih => exact ih (memOk_switch h stage hm)

/-! ## The entries a walk comes to -/

/-- Two entries at the same address are the same one, as the tables are apart. -/
theorem entry_inj (h : TablesPlaced Config.platform link) (hi : i < t.size) (hi' : i' < t'.size)
    (ha : (t.base link).toNat + 8 * i = (t'.base link).toNat + 8 * i') : t = t' ∧ i = i' := by
  by_cases ht : t' = t
  · subst ht
    exact ⟨rfl, by omega⟩
  · have := base_disjoint h Config.platform_regular ht
    omega

/-- The tables on the way of an address from a root table, with the levels at which they stand. -/
inductive OnPath (s : Scheme) (va : Nat) (t₀ : PtTable) : PtTable → Nat → Prop where
  | root : OnPath s va t₀ t₀ 2
  | next {t t' : PtTable} {level : Nat} : OnPath s va t₀ t (level + 1) → pointee t (s.index (level + 1) va) = some t' →
      OnPath s va t₀ t' level

/-- A walk of a stage over the built tables comes to an entry along the pointers. -/
theorem visited_onPath (h : TablesPlaced Config.platform link) {stage : Stage} (hread : ∀ (t : PtTable) i p, t.stage = stage →
      i < t.size → read ((t.base link).toNat + 8 * i) = some p → p = made link t i)
    (t₀ : PtTable) (hstage : t₀.stage = stage) (hsize : s.index 2 va < t₀.size) (hi : i < t.size)
    (ha : (t.base link).toNat + 8 * i ∈ visited s read write va 2 (t₀.base link).toNat) :
    ∃ level, OnPath s va t₀ t level ∧ i = s.index level va := by
  let good : Nat → Nat → Prop := fun level table =>
    level ≤ 2 ∧ ∃ t : PtTable, t.stage = stage ∧ table = (t.base link).toNat ∧ s.index level va < t.size ∧ OnPath s va t₀ t level
  have hnext : ∀ level table p table', good (level + 1) table → read (table + 8 * s.index (level + 1) va) = some p →
      step s write (level + 1) va p = .next table' → good level table' := by
    rintro level table p table' ⟨hl, t, ht, rfl, hi, hpath⟩ hp hstep
    rw [hread t _ p ht hi hp] at hstep
    obtain ⟨t', hpointee, rfl⟩ := leads_next h (leads_made link t _) hstep
    obtain ⟨hstage', hne⟩ := pointee_stage hpointee
    refine ⟨by omega, t', hstage'.trans ht, rfl, ?_, .next hpath hpointee⟩
    rw [size_of_ne_root hne]
    exact index_lt s (by omega) va
  obtain ⟨l, table, ⟨-, t', -, rfl, hi', hpath⟩, haddr⟩ :=
    mem_visited hnext ⟨Nat.le_refl 2, t₀, hstage, rfl, hsize, .root⟩ ha
  obtain ⟨rfl, rfl⟩ := entry_inj h hi hi' haddr
  exact ⟨l, hpath, rfl⟩

/-- The pointers to the leaf tables that are switched, and to the tables above them. -/
theorem pointee_eq (hp : pointee t i = some t') :
    (t' = s1Switched → t = .s1 2 ∧ i = 0) ∧ (t' = .s1 2 → t = .s1 0 ∧ i = 4) ∧ (t' = .s1 0 → False) ∧
    (t' = s2Switched → t = .s2 1 ∧ (i = 0 ∨ i = 511)) ∧ (t' = .s2 1 → t = .root ∧ (i = 4 ∨ i = 2047)) := by
  unfold pointee at hp
  repeat' split at hp
  all_goals cases hp
  all_goals simp_all [s1Switched, s2Switched]

/-- A table on a path, except for its root, is pointed to from one above. -/
theorem OnPath.up {t₀ : PtTable} {level : Nat} (hpath : OnPath s va t₀ t level) (ht : t ≠ t₀) :
    ∃ t', OnPath s va t₀ t' (level + 1) ∧ pointee t' (s.index (level + 1) va) = some t := by
  cases hpath with
  | root => exact absurd rfl ht
  | next hpath hp => exact ⟨_, hpath, hp⟩

/-- A path comes to a root table at level 2 only, because no pointer leads to one. -/
theorem OnPath.level_root {t₀ : PtTable} {level : Nat} (h₀ : t₀ = .s1 0 ∨ t₀ = .root) (hpath : OnPath s va t₀ t₀ level) :
    level = 2 := by
  cases hpath with
  | root => rfl
  | next hpath hp =>
    rcases h₀ with rfl | rfl
    · exact absurd rfl (pointee_eq hp).2.2.1
    · exact absurd rfl (pointee_stage hp).2

/-- The first stage comes to the leaf table that is switched in one window only. -/
theorem onPath_s1Switched {level : Nat} (hpath : OnPath s va (.s1 0) s1Switched level) :
    level = 0 ∧ s.index 2 va = 4 ∧ s.index 1 va = 0 := by
  obtain ⟨t₁, hpath₁, hp⟩ := hpath.up (by decide)
  obtain ⟨rfl, h1⟩ := (pointee_eq hp).1 rfl
  obtain ⟨t₂, hpath₂, hp⟩ := hpath₁.up (by decide)
  obtain ⟨rfl, h2⟩ := (pointee_eq hp).2.1 rfl
  obtain rfl : level = 0 := by
    have := hpath₂.level_root (Or.inl rfl)
    omega
  exact ⟨rfl, h2, h1⟩

/-- The second stage comes to the leaf table that is switched in four windows. -/
theorem onPath_s2Switched {level : Nat} (hpath : OnPath s va .root s2Switched level) :
    level = 0 ∧ (s.index 2 va = 4 ∨ s.index 2 va = 2047) ∧ (s.index 1 va = 0 ∨ s.index 1 va = 511) := by
  obtain ⟨t₁, hpath₁, hp⟩ := hpath.up (by decide)
  obtain ⟨rfl, h1⟩ := (pointee_eq hp).2.2.2.1 rfl
  obtain ⟨t₂, hpath₂, hp⟩ := hpath₁.up (by decide)
  obtain ⟨rfl, h2⟩ := (pointee_eq hp).2.2.2.2 rfl
  obtain rfl : level = 0 := by
    have := hpath₂.level_root (Or.inr rfl)
    omega
  exact ⟨rfl, h2, h1⟩

/-! ## Translations -/

/-- Two-stage translation is the one with a context in which both stages are on. -/
theorem twoStage_eq (h : TablesPlaced Config.platform link) (modes : DcModes) (h1 : modes.iosatp = true)
    (h2 : modes.iohgatp = true) (m : Mem) (write : Bool) (gva : Word) :
    twoStage link m write gva = ((dcAt link modes).firstStage (memReads m) write gva.toNat).bind fun x =>
      ((dcAt link modes).secondStage (memReads m) write x.1).map fun y => (y.1, x.2, y.2) := by
  have hsecond : ∀ write gpa, (dcAt link modes).secondStage (memReads m) write gpa =
      walk Paging.sv39x4 (physRead m) write link.s2ptRoot.toNat gpa := by
    intro write gpa
    unfold Dc.secondStage
    rw [dcAt_sv39x4, if_pos h2, root_second h]
    rfl
  have hread : (dcAt link modes).firstRead (memReads m) = nestedRead link m := by
    funext gpa
    unfold Dc.firstRead nestedRead
    rw [hsecond]
    rfl
  have hfirst : (dcAt link modes).firstStage (memReads m) write gva.toNat =
      walk Paging.sv39 (nestedRead link m) write link.s1pt.toNat gva.toNat := by
    unfold Dc.firstStage
    rw [dcAt_sv39, if_pos h1, root_first h, hread]
  unfold twoStage
  rw [hfirst]
  simp only [hsecond]

/-- Neither of the pages that are switched has the address. -/
def Outside (va : Nat) : Prop := va < 0x10001B000 ∨ 0x10001D000 ≤ va

/-- The entries that are not switched are as they were. -/
theorem entryAt_unswitched (h : TablesPlaced Config.platform link) (hm : AsBuilt link m) (calls : List Stage) (hi : i < t.size)
    (ht : t = switchedTable t.stage → i ≠ 27 ∧ i ≠ 28) :
    entryAt (switches link calls m) ((t.base link).toNat + 8 * i) = entryAt m ((t.base link).toNat + 8 * i) := by
  rw [entryAt_switches h hm calls hi, hm t i hi]
  unfold switched
  split
  · rename_i hs
    rw [iterate_switch_other (ht hs).1 (ht hs).2]
  · rfl

/-- A walk from a root table that comes to neither of the entries that are switched is as it was. -/
theorem walk_unswitched (h : TablesPlaced Config.platform link) {stage : Stage} {read' : Nat → Option Pte}
    (hread : ∀ (t : PtTable) i p, t.stage = stage → i < t.size → read ((t.base link).toNat + 8 * i) = some p → p = made link t i)
    (hsame : ∀ (t : PtTable) i, t.stage = stage → i < t.size → (t = switchedTable t.stage → i ≠ 27 ∧ i ≠ 28) →
      read' ((t.base link).toNat + 8 * i) = read ((t.base link).toNat + 8 * i))
    (t₀ : PtTable) (hstage : t₀.stage = stage) (hsize : s.index 2 va < t₀.size)
    (hout : ∀ level, s.inRange va = true → OnPath s va t₀ (switchedTable stage) level →
      s.index level va ≠ 27 ∧ s.index level va ≠ 28) :
    walk s read' write (t₀.base link).toNat va = walk s read write (t₀.base link).toNat va := by
  by_cases hin : s.inRange va = true
  · refine walk_congr fun a ha => ?_
    obtain ⟨t, i, ht, hi, rfl⟩ : InStage link stage a :=
      visited_inStage h (fun t i p hstage hi hp => Or.inl (hread t i p hstage hi hp)) t₀ hstage hsize ha
    refine hsame t i ht hi ?_
    intro hs
    rw [ht] at hs
    obtain ⟨level, hpath, rfl⟩ := visited_onPath h hread t₀ hstage hsize hi ha
    rw [hs] at hpath
    exact hout level hin hpath
  · unfold walk
    rw [if_neg hin, if_neg hin]

/-- The first stage over two memories that agree in the entries that no switch touches, the one as built and the other with entries
of the tables, translates every address outside of the two pages alike. -/
theorem firstStage_unswitched (h : TablesPlaced Config.platform link) (hm : AsBuilt link m) {m' : Mem} (hm' : MemOk link m')
    (hsame : ∀ (t : PtTable) i, i < t.size → (t = switchedTable t.stage → i ≠ 27 ∧ i ≠ 28) →
      entryAt m' ((t.base link).toNat + 8 * i) = entryAt m ((t.base link).toNat + 8 * i))
    (modes : DcModes) (write : Bool) (hva : Outside va) :
    (dcAt link modes).firstStage (memReads m') write va = (dcAt link modes).firstStage (memReads m) write va := by
  unfold Dc.firstStage
  split
  · rw [root_first h, ← base_s1pt link]
    have hok : ReadsOk link (memReads m) := fun _ => hm.memOk
    have hok' : ReadsOk link (memReads m') := fun _ => hm'
    refine walk_unswitched h ?_ ?_ (.s1 0) rfl (Nat.mod_lt _ (by decide)) ?_
    · intro t i p ht hi hp
      rw [firstRead_inStage h hok modes ⟨t, i, ht, hi, rfl⟩] at hp
      exact (Option.some.inj hp).symm.trans (hm t i hi)
    · intro t i ht hi hne
      rw [firstRead_inStage h hok' modes ⟨t, i, ht, hi, rfl⟩, firstRead_inStage h hok modes ⟨t, i, ht, hi, rfl⟩]
      exact congrArg some (hsame t i hi hne)
    · intro level hin hpath
      obtain ⟨rfl, h2, h1⟩ := onPath_s1Switched hpath
      rw [index_two, show 2 ^ Paging.sv39.rootBits = 512 from rfl] at h2
      rw [index_one] at h1
      rw [index_zero]
      simp only [Paging.sv39, Bool.or_eq_true, Bool.and_eq_true, decide_eq_true_eq] at hin
      unfold Outside at hva
      omega
  · rfl

/-- The first stage translates every address outside of the two pages as before the switches. -/
theorem firstStage_outside (h : TablesPlaced Config.platform link) (hm : AsBuilt link m) (calls : List Stage) (modes : DcModes)
    (write : Bool) (hva : Outside va) :
    (dcAt link modes).firstStage (memReads (switches link calls m)) write va =
      (dcAt link modes).firstStage (memReads m) write va :=
  firstStage_unswitched h hm (memOk_switches h hm.memOk calls) (fun _ _ => entryAt_unswitched h hm calls) modes write hva

/-- The second stage over two such memories translates an address alike, unless it is one of the two pages in a window behind which
the switched table stands. -/
theorem secondStage_unswitched (h : TablesPlaced Config.platform link) (hm : AsBuilt link m) {m' : Mem}
    (hsame : ∀ (t : PtTable) i, i < t.size → (t = switchedTable t.stage → i ≠ 27 ∧ i ≠ 28) →
      entryAt m' ((t.base link).toNat + 8 * i) = entryAt m ((t.base link).toNat + 8 * i))
    (modes : DcModes) (write : Bool)
    (hva : va / 2 ^ 30 = 4 ∨ va / 2 ^ 30 = 2047 → va / 2 ^ 21 % 512 = 0 ∨ va / 2 ^ 21 % 512 = 511 →
      va / 2 ^ 12 % 512 ≠ 27 ∧ va / 2 ^ 12 % 512 ≠ 28) :
    (dcAt link modes).secondStage (memReads m') write va = (dcAt link modes).secondStage (memReads m) write va := by
  unfold Dc.secondStage
  split
  · rw [root_second h]
    refine walk_unswitched h ?_ ?_ .root rfl (Nat.mod_lt _ (by decide)) ?_
    · exact fun t i p _ hi hp => (Option.some.inj hp).symm.trans (hm t i hi)
    · exact fun t i _ hi hne => congrArg some (hsame t i hi hne)
    · intro level hin hpath
      obtain ⟨rfl, h2, h1⟩ := onPath_s2Switched hpath
      rw [index_root (of_decide_eq_true hin)] at h2
      rw [index_one] at h1
      rw [index_zero]
      exact hva h2 h1
  · rfl

/-- The second stage translates as before every other address that the first stage gives. -/
theorem secondStage_outside (h : TablesPlaced Config.platform link) (hm : AsBuilt link m) (calls : List Stage) (modes : DcModes)
    (write : Bool) (hva : Outside va) (hmapped : S1Mapped va) :
    (dcAt link modes).secondStage (memReads (switches link calls m)) write va =
      (dcAt link modes).secondStage (memReads m) write va := by
  refine secondStage_unswitched h hm (fun _ _ => entryAt_unswitched h hm calls) modes write ?_
  intro h2 h1
  unfold Outside at hva
  rcases hmapped with hmapped | hmapped | hmapped | ⟨j, hj, -, hp⟩
  · omega
  · omega
  · omega
  · simp only [InPage, pageSize] at hp
    omega

end SwitchesAux

end RvIommuTests
