import RvIommuTests.Iotlb
import RvIommuTests.Lemmas.PageTables
import RvIommuTests.Lib.DeadEntries

/-!
# Entries that the builders do not write

The tables of the walks, built in a memory that may hold anything. Some entries of three tables are written by neither builder:
`s1pt[0]` from 6 on, `s1pt[2]` from 2 on, and `s2pt[1]` but for 0, 1 and 511. They keep what was there before.
-/

namespace RvIommuTests

open Bytes Tables Paging PageTablesAux

/-! ## Before the builders -/

/-- All tables. -/
def PtTable.all : List PtTable := (List.finRange 6).map .s1 ++ .root :: (List.finRange 5).map .s2

/-- The address lies in the table. -/
def PtTable.Covers (link : Link) (a : Nat) (t : PtTable) : Prop :=
  (t.base link).toNat ≤ a ∧ a < (t.base link).toNat + 8 * t.size

instance (link : Link) (a : Nat) (t : PtTable) : Decidable (t.Covers link a) := inferInstanceAs (Decidable (_ ∧ _))

/-- The table that an address lies in. -/
def tableAt (link : Link) (a : Nat) : Option PtTable := PtTable.all.find? fun t => decide (t.Covers link a)

/-- What a walk finds at an address: the entry that a builder puts there, or else what was there before. -/
def foundAt (link : Link) (m : Mem) (a : Nat) : Pte :=
  match tableAt link a with
  | some t =>
    let i := (a - (t.base link).toNat) / 8
    if Unwritten t i then entryAt m a else built Config.platform link t i
  | none => entryAt m a

/-- In the memory before the builders, all entries that they do not write are dead. -/
structure StaleDead (link : Link) (m : Mem) : Prop where
  s1pt0 : ∀ i, 6 ≤ i → i < 512 → Dead sv39 (foundAt link m) 2 (get m (s1ptTable link 0) i)
  s1pt2 : ∀ i, 2 ≤ i → i < 512 → Dead sv39 (foundAt link m) 1 (get m (s1ptTable link 2) i)
  s2pt1 : ∀ i, i ≠ 0 → i ≠ 1 → i ≠ 511 → i < 512 → Dead sv39x4 (foundAt link m) 1 (get m (s2ptTable link 1) i)

/-- In the memory before the builders, no entry that they do not write has V. -/
def StaleInvalid (link : Link) (m : Mem) : Prop :=
  ∀ (t : PtTable) i, i < t.size → Unwritten t i → Pte.flag (get m (t.base link) i) 0 = false

/-! ## After the builders -/

/-- An address of an entry that neither builder writes. -/
def Stale (link : Link) (a : Nat) : Prop := ∃ t i, i < PtTable.size t ∧ Unwritten t i ∧ a = (t.base link).toNat + 8 * i

/-- No stale entry produces a translation: a walk that reads one ends with a fault. -/
structure NoneStale (link : Link) (m : Mem) : Prop where
  first : ∀ write gva, (firstStage link m write gva).isSome = true →
    ∀ a ∈ visited sv39 (physRead m) write gva.toNat 2 link.s1pt.toNat, ¬ Stale link a
  second : ∀ write gpa, (secondStage link m write gpa).isSome = true →
    ∀ a ∈ visited sv39x4 (physRead m) write gpa.toNat 2 link.s2ptRoot.toNat, ¬ Stale link a

/-- The walks of both stages give the same in both memories, for every address. -/
structure SameWalks (link : Link) (m m' : Mem) : Prop where
  first : ∀ write gva, firstStage link m write gva = firstStage link m' write gva
  second : ∀ write gpa, secondStage link m write gpa = secondStage link m' write gpa

end RvIommuTests
