import RvIommuTests.Lib.Tables
import RvIommuTests.Platform

/-!
# The page-table builders

`s1pt_init` and `s2pt_init` of `page_tables.c`, over the byte memory and for any `MEM_BASE` and `MEM_SIZE`. The fences between
the loops order nothing here and are left out.
-/

namespace RvIommuTests

open Bytes Tables

/-- The two stages of a translation. -/
inductive Stage where
  | first | second
  deriving DecidableEq

/-- `MEM_BASE` and `MEM_SIZE` of a platform. -/
structure Config where
  memBase : Nat
  memSize : Nat

/-- The constants of `platform.h`. -/
def Config.platform : Config := ⟨RvIommuTests.memBase, RvIommuTests.memSize⟩

/-! ## `page_tables.h` -/

/-- `SUPERPAGE_SIZE(N)` -/
def superpageSize (n : Nat) : Nat := pageSize <<< ((2 - n) * 9)

/-- `PTE_V` -/
def pteV : Word := 1#64 <<< 0
/-- `PTE_AD` -/
def pteAD : Word := (1#64 <<< 6) ||| (1#64 <<< 7)
/-- `PTE_U` -/
def pteU : Word := 1#64 <<< 4
/-- `PTE_R` -/
def pteR : Word := 1#64 <<< 1
/-- `PTE_RW` -/
def pteRW : Word := (1#64 <<< 1) ||| (1#64 <<< 2)
/-- `PTE_X` -/
def pteX : Word := 1#64 <<< 3
/-- `PTE_RX` -/
def pteRX : Word := (1#64 <<< 1) ||| (1#64 <<< 3)
/-- `PTE_RWX` -/
def pteRWX : Word := (1#64 <<< 1) ||| (1#64 <<< 2) ||| (1#64 <<< 3)
/-- `PTE_PPN_MSK` -/
def ptePpnMsk : Word := 0x3FFFFFFFFFFC00#64

/-- `STAGE1_PERM_1GIB` -/
def stage1Perm1Gib : Word := pteV ||| pteAD ||| pteU ||| pteRWX
/-- `STAGE1_PERM_2MIB` -/
def stage1Perm2Mib : Word := pteV ||| pteAD ||| pteU ||| pteRWX
/-- `STAGE2_PERM_1GIB` -/
def stage2Perm1Gib : Word := pteV ||| pteAD ||| pteU ||| pteRWX
/-- `STAGE2_PERM_2MIB` -/
def stage2Perm2Mib : Word := pteV ||| pteAD ||| pteU ||| pteRWX

/-- `TEST_VPAGE_BASE` -/
def testVpageBase : Word := 0x100000000#64

/-- `TEST_PPAGE_BASE` -/
def testPpageBase (c : Config) : Word := BitVec.ofNat 64 (c.memBase + c.memSize / 2)

/-- `N_MAPPINGS` -/
def nMappings : Nat := 32

/-- `enum test_page`, without the limits of the stress range. -/
inductive TestPage where
  | iommuOffR | iommuOffW | iommuBareR | iommuBareW | bareTransR1 | bareTransR2 | bareTransW1 | bareTransW2 | s2OnlyR | s2OnlyW
  | msiR1 | twoStageR4K | twoStageR2M | twoStageR1G | msiR2 | twoStageW4K | iotinvalR1 | iotinvalR2 | wsiR | wsiW | msiGenR
  | msiGenW | hpmR | hpmW | msiR3 | msiR4 | msiR5 | switch1 | switch2 | msiW1 | msiW2 | msiW3 | msiW4 | msiW5 | ptTop
  deriving DecidableEq

/-- The number of a page: from zero on in the order of the enumeration up to `SWITCH2`, and assigned from there on. -/
def TestPage.index : TestPage → Nat
  | .msiW1 => 258
  | .msiW2 => 262
  | .msiW3 => 384
  | .msiW4 => 386
  | .msiW5 => 390
  | .ptTop => 511
  | p => p.ctorIdx

/-- `STRESS_START` -/
def stressStart : Nat := TestPage.switch2.index + 1

/-- `STRESS_TOP` -/
def stressTop : Nat := stressStart + nMappings

/-- `TEST_PAGE_MAX` -/
def testPageMax : Nat := TestPage.ptTop.index + 1

/-- `virt_page_base` -/
def virtPageBase (tp : Nat) : Word := testVpageBase + BitVec.ofNat 64 (tp * pageSize)

/-- `s1_page_base_limit` -/
def s1PageBaseLimit (tp : Nat) : Word := 0x20000000000#64 - 0x200000#64 + BitVec.ofNat 64 (tp * pageSize)

/-- `phys_page_base` -/
def physPageBase (c : Config) (tp : Nat) : Word := testPpageBase c + BitVec.ofNat 64 (tp * pageSize)

/-- `TEST_VADDR_1GIB` -/
def testVaddr1Gib : Word := 0x80000000#64
/-- `TEST_VADDR_2MIB` -/
def testVaddr2Mib : Word := 0xC4000000#64

/-! ## `page_tables.c` -/

/-- An entry of `test_page_perm_table`. -/
structure PagePerm where
  stage1 : Word
  stage2 : Word

/-- The initialisers of `test_page_perm_table`. -/
def testPagePerms : List (TestPage × PagePerm) := [
  (.iommuOffR, ⟨pteV ||| pteU ||| pteRWX, pteV ||| pteU ||| pteRWX⟩),
  (.iommuOffW, ⟨pteV ||| pteU ||| pteRWX, pteV ||| pteU ||| pteRWX⟩),
  (.iommuBareR, ⟨pteV ||| pteU ||| pteRWX, pteV ||| pteU ||| pteRWX⟩),
  (.iommuBareW, ⟨pteV ||| pteU ||| pteRWX, pteV ||| pteU ||| pteRWX⟩),
  (.bareTransR1, ⟨pteV ||| pteU ||| pteRWX, pteV ||| pteU ||| pteRWX⟩),
  (.bareTransR2, ⟨pteV ||| pteU ||| pteRWX, pteV ||| pteU ||| pteRWX⟩),
  (.bareTransW1, ⟨pteV ||| pteU ||| pteRWX, pteV ||| pteU ||| pteRWX⟩),
  (.bareTransW2, ⟨pteV ||| pteU ||| pteRWX, pteV ||| pteU ||| pteRWX⟩),
  (.s2OnlyR, ⟨0#64, pteV ||| pteU ||| pteR⟩),
  (.s2OnlyW, ⟨0#64, pteV ||| pteU ||| pteRW⟩),
  (.msiR1, ⟨0#64, pteV ||| pteU ||| pteR⟩),
  (.twoStageR4K, ⟨pteV ||| pteU ||| pteR, pteV ||| pteU ||| pteR⟩),
  (.twoStageR2M, ⟨pteV ||| pteU ||| pteR, pteV ||| pteU ||| pteR⟩),
  (.twoStageR1G, ⟨pteV ||| pteU ||| pteR, pteV ||| pteU ||| pteR⟩),
  (.msiR2, ⟨pteV ||| pteU ||| pteR, pteV ||| pteU ||| pteR⟩),
  (.twoStageW4K, ⟨pteV ||| pteU ||| pteRW, pteV ||| pteU ||| pteRW⟩),
  (.iotinvalR1, ⟨pteV ||| pteU ||| pteR, pteV ||| pteU ||| pteR⟩),
  (.iotinvalR2, ⟨pteV ||| pteU ||| pteR, pteV ||| pteU ||| pteR⟩),
  (.wsiR, ⟨pteV ||| pteU ||| pteX, pteV ||| pteU ||| pteR⟩),
  (.wsiW, ⟨pteV ||| pteU ||| pteRW, pteV ||| pteU ||| pteRX⟩),
  (.msiGenR, ⟨pteV ||| pteU ||| pteX, pteV ||| pteU ||| pteR⟩),
  (.msiGenW, ⟨pteV ||| pteU ||| pteRW, pteV ||| pteU ||| pteRX⟩),
  (.hpmR, ⟨pteV ||| pteU ||| pteRWX, pteV ||| pteU ||| pteRWX⟩),
  (.hpmW, ⟨pteV ||| pteU ||| pteRWX, pteV ||| pteU ||| pteRWX⟩),
  (.msiR3, ⟨pteV ||| pteU ||| pteR, pteV ||| pteU ||| pteR⟩),
  (.msiR4, ⟨pteV ||| pteU ||| pteR, pteV ||| pteU ||| pteR⟩),
  (.msiR5, ⟨pteV ||| pteU ||| pteR, pteV ||| pteU ||| pteR⟩),
  (.switch1, ⟨pteV ||| pteU ||| pteRWX, pteV ||| pteU ||| pteRWX⟩),
  (.switch2, ⟨pteV ||| pteU ||| pteRWX, pteV ||| pteU ||| pteRWX⟩),
  (.msiW1, ⟨pteV ||| pteU ||| pteRWX, pteV ||| pteU ||| pteRWX⟩),
  (.msiW2, ⟨pteV ||| pteU ||| pteRWX, pteV ||| pteU ||| pteRWX⟩),
  (.msiW3, ⟨pteV ||| pteU ||| pteRWX, pteV ||| pteU ||| pteRWX⟩),
  (.msiW4, ⟨pteV ||| pteU ||| pteRWX, pteV ||| pteU ||| pteRWX⟩),
  (.msiW5, ⟨pteV ||| pteU ||| pteRWX, pteV ||| pteU ||| pteRWX⟩),
  (.ptTop, ⟨pteV ||| pteRWX, pteV ||| pteU ||| pteRWX⟩)]

/-- `test_page_perm_table[i]`: zero where there is no initialiser. -/
def testPagePermTable (i : Nat) : PagePerm :=
  match testPagePerms.find? (fun e => e.1.index == i) with
  | some e => e.2
  | none => ⟨0#64, 0#64⟩

/-- `&s1pt[k][0]` -/
def s1ptTable (link : Link) (k : Nat) : Addr := link.s1pt + BitVec.ofNat 64 (k * pageSize)

/-- `&s2pt[k][0]` -/
def s2ptTable (link : Link) (k : Nat) : Addr := link.s2pt + BitVec.ofNat 64 (k * pageSize)

/-- A non-leaf entry: `PTE_V | ((((uintptr_t)&table) >> 2) & PTE_PPN_MSK)`. -/
def nonLeaf (table : Addr) : Word := pteV ||| ((table >>> 2) &&& ptePpnMsk)

/-- An entry of a table of 4-KiB pages: RWX in the stress range, and as the permission table says elsewhere. -/
def pageEntry (perm : PagePerm → Word) (i : Nat) (addr : Word) : Word :=
  if stressStart ≤ i ∧ i < stressTop then (addr >>> 2) ||| pteAD ||| pteV ||| pteU ||| pteRWX
  else (addr >>> 2) ||| pteAD ||| perm (testPagePermTable i)

/-- `s1pt_init` -/
def s1ptInit (c : Config) (link : Link) (m : Mem) : Mem :=
  let s1pt := s1ptTable link
  let addr : Word := 0x00000000#64
  let m := fill (s1pt 0) (fun _ addr => stage1Perm1Gib ||| (addr >>> 2)) (BitVec.ofNat 64 (superpageSize 0)) 4 0 addr m
  let m := set m (s1pt 0) 3 (nonLeaf (s1pt 1))
  let addr : Word := 0xC0000000#64
  let m := fill (s1pt 1) (fun _ _ => 0#64) 0#64 512 0 addr m
  let m := fill (s1pt 1) (fun _ addr => stage1Perm2Mib ||| (addr >>> 2)) (BitVec.ofNat 64 (superpageSize 1))
    (c.memSize / superpageSize 1 / 2) 0 addr m
  let m := set m (s1pt 0) 4 (nonLeaf (s1pt 2))
  let m := set m (s1pt 2) 0 (nonLeaf (s1pt 3))
  let addr := testVpageBase
  let m := fill (s1pt 3) (pageEntry PagePerm.stage1) (BitVec.ofNat 64 pageSize) testPageMax 0 addr m
  let m := set m (s1pt 2) 1 (nonLeaf (s1pt 4))
  let addr : Word := BitVec.ofNat 64 (4 * superpageSize 0 + superpageSize 1)
  let m := fill (s1pt 4) (pageEntry PagePerm.stage1) (BitVec.ofNat 64 pageSize) 512 0 addr m
  let m := set m (s1pt 0) 5 (nonLeaf (s1pt 5))
  let addr : Word := BitVec.ofNat 64 (5 * superpageSize 0)
  fill (s1pt 5) (fun _ addr => (addr >>> 2) ||| pteV ||| pteAD ||| pteRWX) (BitVec.ofNat 64 (superpageSize 1)) 512 0 addr m

/-- `s2pt_init` -/
def s2ptInit (c : Config) (link : Link) (m : Mem) : Mem :=
  let root := link.s2ptRoot
  let s2pt := s2ptTable link
  let m := fill root (fun _ _ => 0#64) 0#64 2048 0 0#64 m
  let addr : Word := 0x0#64
  let m := fill root (fun _ addr => stage2Perm1Gib ||| (addr >>> 2)) (BitVec.ofNat 64 (superpageSize 0)) 4 0 addr m
  let m := set m root 3 (nonLeaf (s2pt 0))
  let addr : Word := BitVec.ofNat 64 c.memBase
  let m := fill (s2pt 0) (fun _ _ => 0#64) 0#64 512 0 addr m
  let m := fill (s2pt 0) (fun _ addr => stage2Perm2Mib ||| (addr >>> 2)) (BitVec.ofNat 64 (superpageSize 1))
    (c.memSize / superpageSize 1 / 2) 0 addr m
  let m := set m root 4 (nonLeaf (s2pt 1))
  let m := set m root 2047 (nonLeaf (s2pt 1))
  let m := set m (s2pt 1) 0 (nonLeaf (s2pt 2))
  let m := set m (s2pt 1) 511 (nonLeaf (s2pt 2))
  let addr := testPpageBase c
  let m := fill (s2pt 2) (pageEntry PagePerm.stage2) (BitVec.ofNat 64 pageSize) testPageMax 0 addr m
  let m := set m (s2pt 1) 1 (nonLeaf (s2pt 3))
  let addr := testPpageBase c
  let m := fill (s2pt 3) (pageEntry PagePerm.stage2) (BitVec.ofNat 64 pageSize) 512 0 addr m
  let m := set m root 5 (nonLeaf (s2pt 4))
  let addr := testPpageBase c
  fill (s2pt 4) (fun _ addr => (addr >>> 2) ||| pteV ||| pteU ||| pteAD ||| pteRWX) (BitVec.ofNat 64 (superpageSize 1)) 512 0
    addr m

/-- `s1pt_switch` -/
def s1ptSwitch (link : Link) (m : Mem) : Mem :=
  let temp := get m (s1ptTable link 3) TestPage.switch1.index
  let m := set m (s1ptTable link 3) TestPage.switch1.index (get m (s1ptTable link 3) TestPage.switch2.index)
  set m (s1ptTable link 3) TestPage.switch2.index temp

/-- `s2pt_switch` -/
def s2ptSwitch (link : Link) (m : Mem) : Mem :=
  let temp := get m (s2ptTable link 2) TestPage.switch1.index
  let m := set m (s2ptTable link 2) TestPage.switch1.index (get m (s2ptTable link 2) TestPage.switch2.index)
  set m (s2ptTable link 2) TestPage.switch2.index temp

end RvIommuTests
