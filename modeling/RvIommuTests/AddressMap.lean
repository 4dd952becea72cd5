import RvIommuTests.Lib.Paging
import RvIommuTests.PageTables

/-!
# The address map

What the tests take the page tables to map, and what the translation hardware makes of them.
-/

namespace RvIommuTests

open Bytes Paging

/-! ## Placement -/

/-- The linker has put the tables into the RAM, aligned as declared, and apart from each other. -/
structure TablesPlaced (c : Config) (link : Link) : Prop where
  s1ptAligned : link.s1pt.toNat % pageSize = 0
  rootAligned : link.s2ptRoot.toNat % (4 * pageSize) = 0
  s2ptAligned : link.s2pt.toNat % pageSize = 0
  s1ptInRam : c.memBase ≤ link.s1pt.toNat ∧ link.s1pt.toNat + 6 * pageSize ≤ c.memBase + c.memSize
  rootInRam : c.memBase ≤ link.s2ptRoot.toNat ∧ link.s2ptRoot.toNat + 4 * pageSize ≤ c.memBase + c.memSize
  s2ptInRam : c.memBase ≤ link.s2pt.toNat ∧ link.s2pt.toNat + 5 * pageSize ≤ c.memBase + c.memSize
  s1ptRoot : link.s1pt.toNat + 6 * pageSize ≤ link.s2ptRoot.toNat ∨ link.s2ptRoot.toNat + 4 * pageSize ≤ link.s1pt.toNat
  s1ptS2pt : link.s1pt.toNat + 6 * pageSize ≤ link.s2pt.toNat ∨ link.s2pt.toNat + 5 * pageSize ≤ link.s1pt.toNat
  rootS2pt : link.s2ptRoot.toNat + 4 * pageSize ≤ link.s2pt.toNat ∨ link.s2pt.toNat + 5 * pageSize ≤ link.s2ptRoot.toNat

/-- The tables are zero, as `boot.S` leaves `.bss`. -/
structure TablesZeroed (link : Link) (m : Mem) : Prop where
  s1pt : ∀ k < 6 * pageSize, m (link.s1pt + BitVec.ofNat 64 k) = 0#8
  root : ∀ k < 4 * pageSize, m (link.s2ptRoot + BitVec.ofNat 64 k) = 0#8
  s2pt : ∀ k < 5 * pageSize, m (link.s2pt + BitVec.ofNat 64 k) = 0#8

/-! ## Translation -/

/-- What the translation hardware reads at a physical address. -/
def physRead (m : Mem) (a : Nat) : Option Pte := some (load m 8 (BitVec.ofNat 64 a))

/-- The first stage alone: a walk from `s1pt[0]`. -/
def firstStage (link : Link) (m : Mem) (write : Bool) (gva : Word) : Option (Nat × Word) :=
  walk sv39 (physRead m) write link.s1pt.toNat gva.toNat

/-- The second stage: a walk from `s2pt_root`. -/
def secondStage (link : Link) (m : Mem) (write : Bool) (gpa : Word) : Option (Nat × Word) :=
  walk sv39x4 (physRead m) write link.s2ptRoot.toNat gpa.toNat

/-- How the first stage of a two-stage translation reads an entry: its tables are at guest physical addresses. -/
def nestedRead (link : Link) (m : Mem) (gpa : Nat) : Option Pte :=
  (walk sv39x4 (physRead m) false link.s2ptRoot.toNat gpa).map fun x => load m 8 (BitVec.ofNat 64 x.1)

/-- Two-stage translation: the address translated to, and the flags of the leaves of both stages. -/
def twoStage (link : Link) (m : Mem) (write : Bool) (gva : Word) : Option (Nat × Word × Word) :=
  (walk sv39 (nestedRead link m) write link.s1pt.toNat gva.toNat).bind fun x =>
    (walk sv39x4 (physRead m) write link.s2ptRoot.toNat x.1).map fun y => (y.1, x.2, y.2)

/-! ## The map -/

/-- A 4-KiB page is in the stress range, or valid in the permission table. -/
def pageMapped (perm : PagePerm → Word) (i : Nat) : Bool :=
  (stressStart ≤ i && i < stressTop) || (perm (testPagePermTable i)).getLsbD 0

/-- The address lies in the page `i` of a window. -/
def InPage (window i a : Nat) : Prop := window + i * pageSize ≤ a ∧ a < window + (i + 1) * pageSize

/-- The guest virtual addresses that the first stage maps. -/
def S1Mapped (gva : Nat) : Prop :=
  gva < 0xC0000000 ∨
  (0xC0000000 ≤ gva ∧ gva < 0xC8000000) ∨
  (0x140000000 ≤ gva ∧ gva < 0x180000000) ∨
  ∃ i < 512, pageMapped PagePerm.stage1 i = true ∧ (InPage 0x100000000 i gva ∨ InPage 0x100200000 i gva)

/-- The windows of 4-KiB pages of the second stage: three behind the entry 4 of the root table, and the same three behind the
entry 2047, the last of which is the window of `s1_page_base_limit`. -/
def s2Windows : List Nat := [0x100000000, 0x100200000, 0x13FE00000, 0x1FFC0000000, 0x1FFC0200000, 0x1FFFFE00000]

example : s2Windows.getLast? = some (s1PageBaseLimit 0).toNat := rfl

/-- The second stage maps a guest physical address to a supervisor physical one. -/
def S2Maps (gpa spa : Nat) : Prop :=
  (gpa < 0xC0000000 ∧ spa = gpa) ∨
  (0xC0000000 ≤ gpa ∧ gpa < 0xC8000000 ∧ spa = gpa - 0x40000000) ∨
  (0x140000000 ≤ gpa ∧ gpa < 0x180000000 ∧ spa = (testPpageBase Config.platform).toNat + (gpa - 0x140000000)) ∨
  ∃ window ∈ s2Windows, ∃ i < 512, pageMapped PagePerm.stage2 i = true ∧ InPage window i gpa ∧
    spa = (testPpageBase Config.platform).toNat + (gpa - window)

end RvIommuTests
