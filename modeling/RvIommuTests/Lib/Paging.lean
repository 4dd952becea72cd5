import Mathlib.Algebra.Group.Nat.Defs
import Mathlib.Tactic.Common

/-!
# Three-level page tables

The address translation of the Sv39 and Sv39x4 schemes: a walk from the root table down to a leaf at any level, with the checks
that stop it. A walk asks for one entry at a time through a function, which may itself refuse.

The entry of a leaf or of a pointer is made by `Pte.make`, and the rules `descend_leaf`, `descend_next` and `descend_invalid` run a
walk over entries that were made so.
-/

namespace Paging

/-- A page-table entry. -/
abbrev Pte : Type := BitVec 64

namespace Pte

/-- A flag of an entry: V, R, W, X, U, G, A and D are 0 to 7. -/
def flag (p : Pte) (i : Nat) : Bool := p.getLsbD i

/-- The number of the page that an entry names. -/
def ppn (p : Pte) : Nat := p.toNat / 2 ^ 10 % 2 ^ 44

/-- The highest ten bits, which are reserved. -/
def reserved (p : Pte) : Nat := p.toNat / 2 ^ 54

/-- The flags of an entry, with the two bits left to software. -/
def flags (p : Pte) : BitVec 64 := p &&& 0x3FF#64

/-- The entry is valid, and none of its bits or encodings is reserved. -/
def valid (p : Pte) : Bool := p.flag 0 && !(p.flag 2 && !p.flag 1) && p.reserved == 0

/-- The entry maps a page, and does not point to a table. -/
def isLeaf (p : Pte) : Bool := p.flag 1 || p.flag 3

/-- An entry with the number of a page and flags. -/
def make (page : Nat) (flags : BitVec 64) : Pte := BitVec.ofNat 64 (2 ^ 10 * page) ||| flags

end Pte

/-- What distinguishes the schemes. -/
structure Scheme where
  /-- The width of the index into the root table. -/
  rootBits : Nat
  /-- Every leaf must have U. -/
  user : Bool
  /-- The addresses that the scheme translates at all. -/
  inRange : Nat → Bool

/-- First-stage translation of 39-bit addresses, sign-extended to 64 bits. -/
def sv39 : Scheme where
  rootBits := 9
  user := false
  inRange := fun va => va < 2 ^ 38 || (2 ^ 64 - 2 ^ 38 ≤ va && va < 2 ^ 64)

/-- Second-stage translation of 41-bit addresses. -/
def sv39x4 : Scheme where
  rootBits := 11
  user := true
  inRange := fun va => va < 2 ^ 41

/-- The bits of an address that an entry at a level leaves alone. -/
def pageBits (level : Nat) : Nat := 12 + 9 * level

/-- The index of an address into a table. -/
def Scheme.index (s : Scheme) (level va : Nat) : Nat :=
  va / 2 ^ pageBits level % (if level = 2 then 2 ^ s.rootBits else 2 ^ 9)

/-- What one entry does with a walk. -/
inductive Step where
  | fault
  | leaf (addr : Nat) (flags : BitVec 64)
  | next (table : Nat)

/-- One step of a walk. A leaf must be accessed, also dirty for a write, and its page must be aligned to its size. A pointer must
not stand on the lowest level, and its U, A and D are reserved. -/
def step (s : Scheme) (write : Bool) (level va : Nat) (p : Pte) : Step :=
  if !p.valid then .fault
  else if p.isLeaf then
    if p.ppn % 2 ^ (9 * level) == 0 && p.flag 6 && (!write || p.flag 7) && (!s.user || p.flag 4) then
      .leaf (p.ppn * 2 ^ 12 + va % 2 ^ pageBits level) p.flags
    else .fault
  else if level = 0 || p.flag 4 || p.flag 6 || p.flag 7 then .fault
  else .next (p.ppn * 2 ^ 12)

/-- A walk from a table of a level down. -/
def descend (s : Scheme) (read : Nat → Option Pte) (write : Bool) (va : Nat) : Nat → Nat → Option (Nat × BitVec 64)
  | 0, table =>
    (read (table + 8 * s.index 0 va)).bind fun p =>
      match step s write 0 va p with
      | .leaf addr flags => some (addr, flags)
      | _ => none
  | level + 1, table =>
    (read (table + 8 * s.index (level + 1) va)).bind fun p =>
      match step s write (level + 1) va p with
      | .leaf addr flags => some (addr, flags)
      | .next table' => descend s read write va level table'
      | .fault => none

/-- A walk from the root: the address translated to, and the flags of the leaf. -/
def walk (s : Scheme) (read : Nat → Option Pte) (write : Bool) (root va : Nat) : Option (Nat × BitVec 64) :=
  if s.inRange va then descend s read write va 2 root else none

/-- The addresses at which a walk from a table of a level down asks for an entry. -/
def visited (s : Scheme) (read : Nat → Option Pte) (write : Bool) (va : Nat) : Nat → Nat → List Nat
  | 0, table => [table + 8 * s.index 0 va]
  | level + 1, table =>
    (table + 8 * s.index (level + 1) va) ::
      match (read (table + 8 * s.index (level + 1) va)).map (step s write (level + 1) va) with
      | some (.next table') => visited s read write va level table'
      | _ => []

/-! ## Entries -/

/-- The flags of a leaf that every access of a scheme passes. -/
structure LeafFlags (s : Scheme) (flags : BitVec 64) : Prop where
  valid : flags.getLsbD 0 = true
  encoded : (flags.getLsbD 2 && !flags.getLsbD 1) = false
  leaf : (flags.getLsbD 1 || flags.getLsbD 3) = true
  accessed : flags.getLsbD 6 = true
  dirty : flags.getLsbD 7 = true
  user : (!s.user || flags.getLsbD 4) = true

instance (s : Scheme) (flags : BitVec 64) : Decidable (LeafFlags s flags) :=
  decidable_of_iff (flags.getLsbD 0 = true ∧ (flags.getLsbD 2 && !flags.getLsbD 1) = false ∧
    (flags.getLsbD 1 || flags.getLsbD 3) = true ∧ flags.getLsbD 6 = true ∧ flags.getLsbD 7 = true ∧
    (!s.user || flags.getLsbD 4) = true)
    ⟨fun ⟨h1, h2, h3, h4, h5, h6⟩ => ⟨h1, h2, h3, h4, h5, h6⟩, fun ⟨h1, h2, h3, h4, h5, h6⟩ => ⟨h1, h2, h3, h4, h5, h6⟩⟩

namespace Pte

variable {page : Nat} {flags : BitVec 64}

/-- The value of an entry that is put together from a page and its flags. -/
theorem toNat_make (hpage : page < 2 ^ 44) (hflags : flags.toNat < 2 ^ 10) :
    (make page flags).toNat = 2 ^ 10 * page + flags.toNat := by
  unfold make
  rw [BitVec.toNat_or, BitVec.toNat_ofNat, Nat.mod_eq_of_lt (by omega), Nat.mul_comm, ← Nat.shiftLeft_eq,
    ← Nat.shiftLeft_add_eq_or_of_lt hflags]

/-- An entry has the page it was made with, which the flags do not reach into. -/
theorem ppn_make (hpage : page < 2 ^ 44) (hflags : flags.toNat < 2 ^ 10) : (make page flags).ppn = page := by
  unfold ppn
  rw [toNat_make hpage hflags]
  omega

/-- An entry has the flags it was made with, which the page does not reach into. -/
theorem flags_make (hpage : page < 2 ^ 44) (hflags : flags.toNat < 2 ^ 10) : (make page flags).flags = flags := by
  apply BitVec.eq_of_toNat_eq
  unfold Pte.flags
  rw [BitVec.toNat_and, toNat_make hpage hflags, show (0x3FF#64).toNat = 2 ^ 10 - 1 from rfl,
    Nat.and_two_pow_sub_one_eq_mod]
  omega

/-- An entry made of a page and flags has its reserved bits clear. -/
theorem reserved_make (hpage : page < 2 ^ 44) (hflags : flags.toNat < 2 ^ 10) : (make page flags).reserved = 0 := by
  unfold reserved
  rw [toNat_make hpage hflags]
  omega

/-- A flag of an entry is that of the flags it was made with. -/
theorem flag_make {i : Nat} (hi : i < 10) : (make page flags).flag i = flags.getLsbD i := by
  have h : (BitVec.ofNat 64 (2 ^ 10 * page)).getLsbD i = false := by
    have hlt : ¬ 10 ≤ i := by omega
    rw [BitVec.getLsbD_ofNat, Nat.testBit_two_pow_mul]
    simp [hlt]
  unfold flag make
  rw [BitVec.getLsbD_or, h, Bool.false_or]

/-- An entry is valid when V is set and not W without R. -/
theorem valid_make (hpage : page < 2 ^ 44) (hflags : flags.toNat < 2 ^ 10) :
    (make page flags).valid = (flags.getLsbD 0 && !(flags.getLsbD 2 && !flags.getLsbD 1)) := by
  unfold valid
  rw [flag_make (by decide), flag_make (by decide), flag_make (by decide), reserved_make hpage hflags]
  simp

/-- An entry is a leaf when R or X is set. -/
theorem isLeaf_make : (make page flags).isLeaf = (flags.getLsbD 1 || flags.getLsbD 3) := by
  unfold isLeaf
  rw [flag_make (by decide), flag_make (by decide)]

/-- An address shifted into the field of the page number, with flags. -/
theorem shiftRight_or (flags : BitVec 64) (hpage : page < 2 ^ 44) :
    BitVec.ofNat 64 (2 ^ 12 * page) >>> 2 ||| flags = make page flags := by
  unfold make
  congr 1
  apply BitVec.eq_of_toNat_eq
  rw [BitVec.toNat_ushiftRight, BitVec.toNat_ofNat, BitVec.toNat_ofNat, Nat.shiftRight_eq_div_pow]
  omega

end Pte

/-! ## Rules of walks -/

section Rules

variable {s : Scheme} {read : Nat → Option Pte} {write : Bool} {va level table page : Nat} {flags : BitVec 64}

/-- A leaf ends the walk at its page, which must be aligned to the level, with the offset of the address. -/
theorem descend_leaf (hread : read (table + 8 * s.index level va) = some (Pte.make page flags)) (hpage : page < 2 ^ 44)
    (hflags : flags.toNat < 2 ^ 10) (hleaf : LeafFlags s flags) (halign : page % 2 ^ (9 * level) = 0) :
    descend s read write va level table =
      some (page * 2 ^ 12 + va % 2 ^ pageBits level, flags) := by
  have hstep : step s write level va (Pte.make page flags) =
      .leaf (page * 2 ^ 12 + va % 2 ^ pageBits level) flags := by
    have hv : (Pte.make page flags).valid = true := by
      rw [Pte.valid_make hpage hflags, hleaf.valid, hleaf.encoded]
      rfl
    have hl : (Pte.make page flags).isLeaf = true := Pte.isLeaf_make.trans hleaf.leaf
    unfold step
    rw [hv, hl, Pte.ppn_make hpage hflags, Pte.flags_make hpage hflags]
    simp (disch := decide) only [Pte.flag_make]
    rw [hleaf.accessed, hleaf.dirty, hleaf.user, halign]
    simp
  cases level with
  | zero => rw [descend, hread, Option.bind_some, hstep]
  | succ level => rw [descend, hread, Option.bind_some, hstep]

/-- An entry with only V set leads one level down. -/
theorem step_pointer (hpage : page < 2 ^ 44) : step s write (level + 1) va (Pte.make page 1#64) = .next (page * 2 ^ 12) := by
  have hflags : (1#64).toNat < 2 ^ 10 := by decide
  unfold step
  rw [Pte.valid_make hpage hflags, Pte.isLeaf_make, Pte.ppn_make hpage hflags]
  simp (disch := decide) only [Pte.flag_make]
  rfl

/-- A pointer makes the walk go on one level below, at the table that starts on its page. -/
theorem descend_next (hread : read (table + 8 * s.index (level + 1) va) = some (Pte.make page 1#64))
    (hpage : page < 2 ^ 44) :
    descend s read write va (level + 1) table = descend s read write va level (page * 2 ^ 12) := by
  rw [descend, hread, Option.bind_some, step_pointer hpage]

/-- A pointer takes a walk to the entries one level below. -/
theorem visited_next (hread : read (table + 8 * s.index (level + 1) va) = some (Pte.make page 1#64)) (hpage : page < 2 ^ 44) :
    visited s read write va (level + 1) table =
      (table + 8 * s.index (level + 1) va) :: visited s read write va level (page * 2 ^ 12) := by
  rw [visited, hread, Option.map_some, step_pointer hpage]

/-- An entry without V ends the walk with a fault. -/
theorem descend_invalid {p : Pte} (hread : read (table + 8 * s.index level va) = some p) (hp : p.flag 0 = false) :
    descend s read write va level table = none := by
  have hstep : step s write level va p = .fault := by
    unfold step Pte.valid
    rw [hp]
    rfl
  cases level with
  | zero => rw [descend, hread, Option.bind_some, hstep]
  | succ level => rw [descend, hread, Option.bind_some, hstep]

/-- Only a valid entry that is no leaf takes a walk further, to the table that it names. -/
theorem step_next {p : Pte} {table' : Nat} (h : step s write level va p = .next table') :
    p.valid = true ∧ p.isLeaf = false ∧ table' = p.ppn * 2 ^ 12 := by
  unfold step at h
  split at h
  · cases h
  · rename_i hv
    split at h
    · split at h <;> cases h
    · rename_i hl
      split at h
      · cases h
      · cases h
        exact ⟨by simpa using hv, Bool.eq_false_iff.2 hl, rfl⟩

/-- A walk that starts at a good table, whose pointers lead from good tables to good tables, only asks for entries of good
tables. -/
theorem mem_visited {good : Nat → Nat → Prop}
    (hnext : ∀ level table p table', good (level + 1) table → read (table + 8 * s.index (level + 1) va) = some p →
      step s write (level + 1) va p = .next table' → good level table')
    (hgood : good level table) {a : Nat} (ha : a ∈ visited s read write va level table) :
    ∃ l t, good l t ∧ a = t + 8 * s.index l va := by
  induction level generalizing table with
  | zero => exact ⟨0, table, hgood, List.mem_singleton.1 ha⟩
  | succ level ih =>
    rw [visited] at ha
    rcases List.mem_cons.1 ha with rfl | ha
    · exact ⟨level + 1, table, hgood, rfl⟩
    · split at ha
      · rename_i table' hstep
        obtain ⟨p, hread, hp⟩ := Option.map_eq_some_iff.1 hstep
        exact ih (hnext level table p table' hgood hread hp) ha
      · cases ha

/-- Two walks that find the same at every address that one of them asks for are the same. -/
theorem descend_congr {read' : Nat → Option Pte} (h : ∀ a ∈ visited s read write va level table, read' a = read a) :
    descend s read' write va level table = descend s read write va level table := by
  induction level generalizing table with
  | zero => rw [descend, descend, h _ (List.mem_singleton.2 rfl)]
  | succ level ih =>
    rw [visited] at h
    rw [descend, descend, h _ List.mem_cons_self]
    cases hread : read (table + 8 * s.index (level + 1) va) with
    | none => rfl
    | some p =>
      rw [hread] at h
      rw [Option.bind_some, Option.bind_some]
      cases hstep : step s write (level + 1) va p with
      | fault => rfl
      | leaf addr flags => rfl
      | next table' =>
        rw [Option.map_some, hstep] at h
        exact ih fun a ha => h a (List.mem_cons_of_mem _ ha)

/-- A walk over two memories that agree on the addresses it asks one of them for asks the other for the same. -/
theorem visited_congr {read' : Nat → Option Pte} (h : ∀ a ∈ visited s read write va level table, read' a = read a) :
    visited s read' write va level table = visited s read write va level table := by
  induction level generalizing table with
  | zero => rfl
  | succ level ih =>
    rw [visited] at h
    rw [visited, visited, h _ List.mem_cons_self]
    cases hstep : (read (table + 8 * s.index (level + 1) va)).map (step s write (level + 1) va) with
    | none => rfl
    | some st =>
      cases st with
      | next table' =>
        rw [hstep] at h
        exact congrArg _ (ih fun a ha => h a (List.mem_cons_of_mem _ ha))
      | _ => rfl

/-- Two memories that agree on the entries a walk visits give the same walk. -/
theorem walk_congr {read' : Nat → Option Pte} {root : Nat} (h : ∀ a ∈ visited s read write va 2 root, read' a = read a) :
    walk s read' write root va = walk s read write root va := by
  unfold walk
  rw [descend_congr h]

/-- A walk over two pointers to a page of the lowest level. -/
theorem walk_page {root page' page'' : Nat} (hva : s.inRange va = true)
    (h2 : read (root + 8 * s.index 2 va) = some (Pte.make page'' 1#64)) (hpage'' : page'' < 2 ^ 44)
    (h1 : read (page'' * 2 ^ 12 + 8 * s.index 1 va) = some (Pte.make page' 1#64)) (hpage' : page' < 2 ^ 44)
    (h0 : read (page' * 2 ^ 12 + 8 * s.index 0 va) = some (Pte.make page flags)) (hpage : page < 2 ^ 44)
    (hflags : flags.toNat < 2 ^ 10) (hleaf : LeafFlags s flags) :
    walk s read write root va = some (page * 2 ^ 12 + va % 2 ^ 12, flags) ∧
      page' * 2 ^ 12 + 8 * s.index 0 va ∈ visited s read write va 2 root := by
  constructor
  · unfold walk
    rw [if_pos hva, descend_next h2 hpage'', descend_next h1 hpage',
      descend_leaf h0 hpage hflags hleaf (Nat.mod_one page)]
    rfl
  · rw [visited_next h2 hpage'', visited_next h1 hpage']
    exact List.mem_cons_of_mem _ (List.mem_cons_of_mem _ (List.mem_singleton.2 rfl))

end Rules

end Paging
