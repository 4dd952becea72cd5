import RvIommuTests.AddressMap
import RvIommuTests.Lemmas.PageTables

/-!
# Platform configurations

What the guards of `page_tables.c` accept, what the linker script promises, and when the builders are safe.
-/

namespace RvIommuTests

open Bytes Tables PageTablesAux

/-! ## Guards -/

/-- None of the three `#error` directives of `page_tables.c` is reached. -/
structure Config.Accepted (c : Config) : Prop where
  aligned : c.memBase &&& (superpageSize 0 - 1) = 0
  low : c.memBase < superpageSize 0 * 4
  size : 0x10000000 ≤ c.memSize

/-- The linker script has placed the image: behind `.bss` it moves on to `MEM_BASE + 0x1ff000`. -/
structure Linked (c : Config) (link : Link) : Prop extends TablesPlaced c link where
  s1ptBss : link.s1pt.toNat + 6 * pageSize ≤ c.memBase + 0x1ff000
  rootBss : link.s2ptRoot.toNat + 4 * pageSize ≤ c.memBase + 0x1ff000
  s2ptBss : link.s2pt.toNat + 5 * pageSize ≤ c.memBase + 0x1ff000

/-- `TEST_PADDR_1GIB` -/
def testPaddr1Gib : Nat := 0x80000000

/-- `TEST_PADDR_2MIB` -/
def testPaddr2Mib : Nat := 0x84000000

/-! ## Safety -/

/-- The size of the page that a leaf in a table maps. -/
def PtTable.leafSize : PtTable → Nat
  | .s1 0 => superpageSize 0
  | .root => superpageSize 0
  | .s1 3 => superpageSize 2
  | .s1 4 => superpageSize 2
  | .s2 2 => superpageSize 2
  | .s2 3 => superpageSize 2
  | _ => superpageSize 1

/-- The write is inside of its table. -/
def TableWrite.Inside (w : TableWrite) : Prop := w.index < w.table.size

/-- If the write is one of a leaf that maps a superpage, the page is aligned to its size. -/
def TableWrite.Aligned (w : TableWrite) : Prop :=
  ∀ addr flags, w.entry = .leaf addr flags → superpageSize 2 < w.table.leafSize → addr % w.table.leafSize = 0

/-- The builders are safe for a platform: they stay within their tables, the superpages are aligned, and the addresses for which
the tests make requests are translated to those that they check. -/
structure Config.Safe (c : Config) (link : Link) (m : Mem) : Prop where
  indices : ∀ w ∈ s1ptWrites c ++ s2ptWrites c, w.Inside
  superpages : ∀ w ∈ s1ptWrites c ++ s2ptWrites c, w.Aligned
  test2Mib : ∀ write, ∃ flags,
    twoStage link (s1ptInit c link (s2ptInit c link m)) write testVaddr2Mib = some (testPaddr2Mib, flags)
  test1Gib : ∀ write, ∃ flags,
    twoStage link (s1ptInit c link (s2ptInit c link m)) write testVaddr1Gib = some (testPaddr1Gib, flags)

end RvIommuTests
