import RvIommuTests.Lemmas.StaleEntries
import RvIommuTests.Theorems.Switches

/-!
# What the builders leave of earlier contents

The walks of both stages after the builders, for any two contents of the memory before them.
-/

namespace RvIommuTests

open Bytes Tables Paging PageTablesAux WalksAux SwitchesAux StaleAux

namespace StaleAux

variable {link : Link} {m : Mem} {t : PtTable} {i level va : Nat} {write : Bool}

/-! ## The walks of the stages -/

/-- The first stage after the builders is a walk over what they leave, in terms of the memory before them. -/
theorem firstStage_init (h : TablesPlaced Config.platform link) (m : Mem) (write : Bool) (gva : Word) :
    firstStage link (initTables link m) write gva =
        walk sv39 (readFound link m) write ((PtTable.s1 0).base link).toNat gva.toNat ∧
      visited sv39 (physRead (initTables link m)) write gva.toNat 2 link.s1pt.toNat =
        visited sv39 (readFound link m) write gva.toNat 2 ((PtTable.s1 0).base link).toNat := by
  unfold firstStage
  rw [← base_s1pt link]
  exact walk_init h (by decide) (.s1 0) m write gva.toNat

/-- The second stage after the builders is the walk over what is found, and it asks for the same addresses. -/
theorem secondStage_init (h : TablesPlaced Config.platform link) (m : Mem) (write : Bool) (gpa : Word) :
    secondStage link (initTables link m) write gpa =
        walk sv39x4 (readFound link m) write (PtTable.root.base link).toNat gpa.toNat ∧
      visited sv39x4 (physRead (initTables link m)) write gpa.toNat 2 link.s2ptRoot.toNat =
        visited sv39x4 (readFound link m) write gpa.toNat 2 (PtTable.root.base link).toNat :=
  walk_init h (by decide) .root m write gpa.toNat

/-! ## From dead entries to the walks -/

/-- While the stale entries are dead, the first stage is the one over tables that were built in zeros, and a walk that comes to one of
them finds nothing. -/
theorem first_of_dead (h : TablesPlaced Config.platform link) (hd : StaleDead link m) (write : Bool) (va : Nat) :
    walk sv39 (readFound link m) write ((PtTable.s1 0).base link).toNat va =
        walk sv39 (readFound link fun _ => 0#8) write ((PtTable.s1 0).base link).toNat va ∧
      ((walk sv39 (readFound link m) write ((PtTable.s1 0).base link).toNat va).isSome = true →
        ∀ a ∈ visited sv39 (readFound link m) write va 2 ((PtTable.s1 0).base link).toNat, ¬ Stale link a) := by
  refine walk_of_dead h (Nat.mod_lt _ (by decide)) ?_
  intro t level hpath hi hu
  rcases onPath_first hpath hu with ⟨rfl, rfl⟩ | ⟨rfl, rfl⟩
  · exact ⟨Nat.le_refl 2, hd.s1pt0 _ hu hi⟩
  · exact ⟨by decide, hd.s1pt2 _ hu hi⟩

/-- The same of the second stage, of which only `s2pt[1]` has entries that are not written. -/
theorem second_of_dead (h : TablesPlaced Config.platform link) (hd : StaleDead link m) (write : Bool) (va : Nat) :
    walk sv39x4 (readFound link m) write (PtTable.root.base link).toNat va =
        walk sv39x4 (readFound link fun _ => 0#8) write (PtTable.root.base link).toNat va ∧
      ((walk sv39x4 (readFound link m) write (PtTable.root.base link).toNat va).isSome = true →
        ∀ a ∈ visited sv39x4 (readFound link m) write va 2 (PtTable.root.base link).toNat, ¬ Stale link a) := by
  refine walk_of_dead h (Nat.mod_lt _ (by decide)) ?_
  intro t level hpath hi hu
  obtain ⟨rfl, rfl⟩ := onPath_second hpath hu
  exact ⟨by decide, hd.s2pt1 _ hu.1 hu.2.1 hu.2.2 hi⟩

/-- While the stale entries are dead, none of them produces a translation. -/
theorem noneStale_of_dead (h : TablesPlaced Config.platform link) (hd : StaleDead link m) :
    NoneStale link (initTables link m) where
  first write gva := by
    obtain ⟨hwalk, hvisited⟩ := firstStage_init h m write gva
    rw [hwalk, hvisited]
    exact (first_of_dead h hd write gva.toNat).2
  second write gpa := by
    obtain ⟨hwalk, hvisited⟩ := secondStage_init h m write gpa
    rw [hwalk, hvisited]
    exact (second_of_dead h hd write gpa.toNat).2

/-- All memories in which the stale entries are dead give the same walks: those of zeros. -/
theorem sameWalks_of_dead (h : TablesPlaced Config.platform link) {m' : Mem} (hd : StaleDead link m) (hd' : StaleDead link m') :
    SameWalks link (initTables link m) (initTables link m') where
  first write gva := by
    rw [(firstStage_init h m write gva).1, (firstStage_init h m' write gva).1, (first_of_dead h hd write _).1,
      (first_of_dead h hd' write _).1]
  second write gpa := by
    rw [(secondStage_init h m write gpa).1, (secondStage_init h m' write gpa).1, (second_of_dead h hd write _).1,
      (second_of_dead h hd' write _).1]

/-! ## From the walks to dead entries -/

/-- Addresses whose walk comes to an entry of `s1pt[0]`. The upper half of them are sign-extended. -/
theorem path_s1pt0 (hi : i < 512) (off : Nat) (hoff : off < 2 ^ pageBits 2) :
    ∃ va < 2 ^ 64, sv39.inRange va = true ∧ OnPath sv39 va (.s1 0) (.s1 0) 2 ∧ sv39.index 2 va = i ∧
      va % 2 ^ pageBits 2 = off := by
  simp only [pageBits] at hoff ⊢
  refine ⟨(if i < 256 then 0 else 2 ^ 64 - 2 ^ 39) + i * 2 ^ 30 + off, ?_, ?_, .root, ?_, ?_⟩
  · split <;> omega
  · simp only [sv39, Bool.or_eq_true, Bool.and_eq_true, decide_eq_true_eq]
    split <;> omega
  · rw [index_two, show 2 ^ sv39.rootBits = 512 from rfl]
    split <;> omega
  · split <;> omega

/-- Addresses whose walk comes to an entry of the table behind the entry 4 of a root table. -/
theorem path_second {s : Scheme} {t₀ : PtTable} (hp : pointee t₀ 4 = some t) (hi : i < 512) (off : Nat)
    (hoff : off < 2 ^ pageBits 1) (hroot : ∀ va, va / 2 ^ 30 = 4 → s.inRange va = true ∧ s.index 2 va = 4) :
    ∃ va < 2 ^ 64, s.inRange va = true ∧ OnPath s va t₀ t 1 ∧ s.index 1 va = i ∧ va % 2 ^ pageBits 1 = off := by
  simp only [pageBits] at hoff ⊢
  obtain ⟨hin, hidx⟩ := hroot (4 * 2 ^ 30 + i * 2 ^ 21 + off) (by omega)
  refine ⟨4 * 2 ^ 30 + i * 2 ^ 21 + off, by omega, hin, .next .root (by rw [hidx]; exact hp), ?_, by omega⟩
  rw [index_one]
  omega

/-- The addresses behind the entry 4 of the root of the first stage are in range. -/
theorem sv39_four {va : Nat} (hva : va / 2 ^ 30 = 4) : sv39.inRange va = true ∧ sv39.index 2 va = 4 := by
  rw [index_two, show 2 ^ sv39.rootBits = 512 from rfl]
  simp only [sv39, Bool.or_eq_true, Bool.and_eq_true, decide_eq_true_eq]
  omega

/-- The addresses behind the entry 4 of the root of the second stage are in range. -/
theorem sv39x4_four {va : Nat} (hva : va / 2 ^ 30 = 4) : sv39x4.inRange va = true ∧ sv39x4.index 2 va = 4 := by
  rw [index_two, show 2 ^ sv39x4.rootBits = 2048 from rfl]
  simp only [sv39x4, decide_eq_true_eq]
  omega

/-- What holds of all words holds of all numbers below `2 ^ 64`. -/
theorem forall_toNat {P : Nat → Prop} (h : ∀ a : Word, P a.toNat) (va : Nat) (hva : va < 2 ^ 64) : P va := by
  have hP := h (BitVec.ofNat 64 va)
  rwa [BitVec.toNat_ofNat, Nat.mod_eq_of_lt hva] at hP

/-- If no stale entry produces a translation, each of them is dead: one that is not lets the walk of some address through. -/
theorem dead_of_noneStale (h : TablesPlaced Config.platform link) (hn : NoneStale link (initTables link m)) :
    StaleDead link m := by
  have hfirst : ∀ va < 2 ^ 64, (walk sv39 (readFound link m) false ((PtTable.s1 0).base link).toNat va).isSome = true →
      ∀ a ∈ visited sv39 (readFound link m) false va 2 ((PtTable.s1 0).base link).toNat, ¬ Stale link a := by
    refine forall_toNat ?_
    intro gva
    obtain ⟨hwalk, hvisited⟩ := firstStage_init h m false gva
    rw [← hwalk, ← hvisited]
    exact hn.first false gva
  have hsecond : ∀ va < 2 ^ 64, (walk sv39x4 (readFound link m) false (PtTable.root.base link).toNat va).isSome = true →
      ∀ a ∈ visited sv39x4 (readFound link m) false va 2 (PtTable.root.base link).toNat, ¬ Stale link a := by
    refine forall_toNat ?_
    intro gpa
    obtain ⟨hwalk, hvisited⟩ := secondStage_init h m false gpa
    rw [← hwalk, ← hvisited]
    exact hn.second false gpa
  constructor
  · intro i h6 hi
    exact dead_of_none (t := .s1 0) h (Nat.le_refl 2) hi h6 (path_s1pt0 hi) hfirst
  · intro i h2 hi
    exact dead_of_none (t := .s1 2) h (by decide) hi h2 (fun off hoff => path_second rfl hi off hoff fun _ => sv39_four) hfirst
  · intro i h0 h1 h511 hi
    exact dead_of_none (t := .s2 1) h (by decide) hi ⟨h0, h1, h511⟩
      (fun off hoff => @path_second _ _ _ .root rfl hi off hoff fun _ => sv39x4_four) hsecond

end StaleAux

/-- For any two contents of the memory before the builders: the walks of every address give the same after them, and no stale entry
produces a translation, exactly if in both contents all entries that neither builder writes are dead. -/
theorem tables_forget_iff {link : Link} (h : TablesPlaced Config.platform link) (m m' : Mem) :
    (SameWalks link (initTables link m) (initTables link m') ∧ NoneStale link (initTables link m) ∧
      NoneStale link (initTables link m')) ↔ StaleDead link m ∧ StaleDead link m' := by
  constructor
  · rintro ⟨-, hn, hn'⟩
    exact ⟨dead_of_noneStale h hn, dead_of_noneStale h hn'⟩
  · rintro ⟨hd, hd'⟩
    exact ⟨sameWalks_of_dead h hd hd', noneStale_of_dead h hd, noneStale_of_dead h hd'⟩

/-- Entries without V are dead, so a memory in which every entry that is not written lacks V has only dead ones. -/
theorem staleDead_of_invalid {link : Link} {m : Mem} (hm : StaleInvalid link m) : StaleDead link m := by
  have hvalid : ∀ (t : PtTable) i, i < t.size → Unwritten t i → Pte.valid (get m (t.base link) i) = false := by
    intro t i hi hu
    rw [Pte.valid, hm t i hi hu]
    rfl
  constructor
  · exact fun i h6 hi => dead_of_invalid (hvalid (.s1 0) i hi h6) 2
  · exact fun i h2 hi => dead_of_invalid (hvalid (.s1 2) i hi h2) 1
  · exact fun i h0 h1 h511 hi => dead_of_invalid (hvalid (.s2 1) i hi ⟨h0, h1, h511⟩) 1

/-- In plain words: if before the builders no entry has V that neither of them writes, in either of two memories, the walks of every
address give the same after them, and no stale entry produces a translation. -/
theorem tables_forget_of_invalid {link : Link} (h : TablesPlaced Config.platform link) {m m' : Mem} (hm : StaleInvalid link m)
    (hm' : StaleInvalid link m') :
    SameWalks link (initTables link m) (initTables link m') ∧ NoneStale link (initTables link m) ∧
      NoneStale link (initTables link m') :=
  ⟨sameWalks_of_dead h (staleDead_of_invalid hm) (staleDead_of_invalid hm'), noneStale_of_dead h (staleDead_of_invalid hm),
    noneStale_of_dead h (staleDead_of_invalid hm')⟩

/-- The tables as `boot.S` leaves them have no such entry. -/
theorem staleInvalid_of_zeroed {link : Link} (h : TablesPlaced Config.platform link) {m : Mem} (hz : TablesZeroed link m) :
    StaleInvalid link m := by
  intro t i hi _
  have hzero : get m (t.base link) i = 0#64 := view_zeroed h Config.platform_regular hz hi
  rw [hzero]
  rfl

/-- So `main` builds the same tables after every boot, whatever the memory held before `boot.S` cleared it. -/
theorem tables_forget_boot {link : Link} (h : TablesPlaced Config.platform link) {m m' : Mem} (hz : TablesZeroed link m)
    (hz' : TablesZeroed link m') : SameWalks link (initTables link m) (initTables link m') :=
  (tables_forget_of_invalid h (staleInvalid_of_zeroed h hz) (staleInvalid_of_zeroed h hz')).1

namespace StaleAux

/-- No entry of a memory of even bytes has V. -/
theorem staleInvalid_even (link : Link) : StaleInvalid link fun _ => 0xFE#8 :=
  fun _ _ _ _ => getLsbD_load _ 8 _ 0 (by decide)

/-- A memory of zeros, but for a page in the entry 6 of `s1pt[0]`. -/
def staleMem : Mem := set (fun _ => 0#8) (s1ptTable Link.compact 0) 6 (Pte.make (2 ^ 18 * 6) stage1Perm1Gib)

end StaleAux

/-- The theorem at a memory of zeros and a memory that is full of other entries without V. -/
theorem tables_forget_at :
    SameWalks Link.compact (initTables Link.compact fun _ => 0#8) (initTables Link.compact fun _ => 0xFE#8) :=
  ((tables_forget_iff tablesPlaced_compact (fun _ => 0#8) fun _ => 0xFE#8).2
    ⟨staleDead_of_invalid (staleInvalid_of_zeroed tablesPlaced_compact ⟨fun _ _ => rfl, fun _ _ => rfl, fun _ _ => rfl⟩),
      staleDead_of_invalid (staleInvalid_even _)⟩).1

/-- A page was in the entry 6 of `s1pt[0]`. The builders leave it there, and the first stage translates an address that it does not
translate after the builders have run on zeros. -/
theorem stale_page_translates :
    firstStage Link.compact (initTables Link.compact staleMem) false 0x180000000#64 = some (0x180000000, stage1Perm1Gib) ∧
      firstStage Link.compact (initTables Link.compact fun _ => 0#8) false 0x180000000#64 = none := by
  have hi : 6 < (PtTable.s1 0).size := by decide
  have hu : Unwritten (.s1 0) 6 := Nat.le_refl 6
  have hidx : sv39.index 2 0x180000000 = 6 := by decide
  have hin : sv39.inRange 0x180000000 = true := by decide
  constructor
  · rw [(firstStage_init tablesPlaced_compact staleMem false _).1]
    have hread : readFound Link.compact staleMem (((PtTable.s1 0).base Link.compact).toNat + 8 * sv39.index 2 0x180000000) =
        some (Pte.make (2 ^ 18 * 6) stage1Perm1Gib) := by
      rw [hidx, readFound, foundAt_stale tablesPlaced_compact hi hu]
      exact congrArg some (@load_store_same _ 8 (by decide) _ _)
    exact (if_pos hin).trans (descend_leaf hread (by decide) (by decide) (by decide) (by decide))
  · rw [(firstStage_init tablesPlaced_compact (fun _ => 0#8) false _).1]
    have hdead : Dead sv39 (foundAt Link.compact fun _ => 0#8) 2
        (foundAt Link.compact (fun _ => 0#8) (((PtTable.s1 0).base Link.compact).toNat + 8 * sv39.index 2 0x180000000)) := by
      rw [hidx, foundAt_stale tablesPlaced_compact hi hu]
      exact dead_of_invalid rfl 2
    exact (if_pos hin).trans (descend_dead (Nat.le_refl 2) hdead)

end RvIommuTests
