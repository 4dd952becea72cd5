import Mathlib.Logic.Function.Basic
import RvIommuTests.Lib.Fields
import RvIommuTests.DeviceContext
import RvIommuTests.PageTables

/-!
# The MSI page table

`msi_pt_init` of `page_tables.c`. Then how the IOMMU finds and reads an entry, as the specification has it: this part is not
translated from the driver.
-/

namespace RvIommuTests

open Fields

/-- `msi_pt`: two words for each entry. -/
abbrev MsiPt : Type := Nat → Word

/-! ## `page_tables.h` -/

/-- `MSI_N_ENTRIES` -/
def msiNEntries : Nat := 32
/-- `MSI_BASE_IF_SPA` -/
def msiBaseIfSpa : Word := BitVec.ofNat 64 (memBase + memSize / 4)

/-- `MSI_PTE_VALID` -/
def msiPteValid : Word := 1#64 <<< 0
/-- `MSI_PTE_BT_MODE` -/
def msiPteBtMode : Word := 3#64 <<< 1
/-- `MSI_PTE_MRIF_MODE` -/
def msiPteMrifMode : Word := 1#64 <<< 1
/-- `MSI_PTE_CUSTOM` -/
def msiPteCustom : Word := 1#64 <<< 63

/-- `MSI_PTE_MRIF_ADDR_MASK` -/
def msiPteMrifAddrMask : Word := 0x3FFFFFFFFFFF80#64
/-- `MSI_PTE_NID9_0_MASK` -/
def msiPteNid90Mask : Word := 0x3FF#64
/-- `MSI_PTE_NPPN_MASK` -/
def msiPteNppnMask : Word := 0x3FFFFFFFFFFC00#64
/-- `MSI_PTE_NID10_MASK` -/
def msiPteNid10Mask : Word := 1#64 <<< 60

/-- `NOTICE_ADDR_1` -/
def noticeAddr1 : Word := 0x83008000#64
/-- `NOTICE_ADDR_2` -/
def noticeAddr2 : Word := 0x83009000#64
/-- `NOTICE_DATA` -/
def noticeData : Word := 0x7AC#64

/-! ## `msi_pt_init` -/

/-- `for (; n != 0; i++, n--) msi_pt[i] = 0;` -/
def MsiPt.clear : Nat → Nat → MsiPt → MsiPt
  | 0, _, pt => pt
  | n + 1, i, pt => MsiPt.clear n (i + 1) (Function.update pt i 0#64)

/-- The loop over the entries in basic-translate mode, with `n` entries left. -/
def MsiPt.fillBt : Nat → Nat → Word → MsiPt → MsiPt
  | 0, _, _, pt => pt
  | n + 1, i, addr, pt =>
    let pt := Function.update pt i (msiPteValid ||| msiPteBtMode ||| (addr >>> 2))
    let pt := Function.update pt (i + 1) 0#64
    MsiPt.fillBt n (i + 2) (addr + BitVec.ofNat 64 pageSize) pt

/-- The first word of an entry in MRIF mode. -/
def mrifPte (mrif : Word) : Word := msiPteValid ||| msiPteMrifMode ||| ((mrif >>> 2) &&& msiPteMrifAddrMask)

/-- The second word of an entry in MRIF mode. -/
def noticePte (noticeAddr : Word) : Word :=
  (noticeData &&& msiPteNid90Mask) ||| ((noticeAddr >>> 2) &&& msiPteNppnMask) ||| ((noticeData <<< 50) &&& msiPteNid10Mask)

/-- `msi_pt_init`, with the address of `mrif`. -/
def msiPtInit (mrif : Word) (pt : MsiPt) : MsiPt :=
  let pt := MsiPt.clear (msiNEntries * 2) 0 pt
  let pt := MsiPt.fillBt msiNEntries 0 msiBaseIfSpa pt
  let pt := Function.update pt 40 (mrifPte mrif)
  let pt := Function.update pt (40 + 1) (noticePte noticeAddr1)
  let pt := Function.update pt 42 (mrifPte mrif)
  let pt := Function.update pt (42 + 1) (noticePte noticeAddr2)
  let pt := Function.update pt 46 (mrifPte mrif ||| msiPteCustom)
  Function.update pt (46 + 1) (noticePte noticeAddr1)

/-! ## The IOMMU's side -/

/-- A guest page is an MSI page: it equals the pattern on all bits outside of the mask. -/
def IsMsiPage (gppn : Word) : Prop := gppn &&& ~~~msiAddrMask = msiAddrPattern &&& ~~~msiAddrMask

instance : DecidablePred IsMsiPage := fun _ => inferInstanceAs (Decidable (_ = _))

/-- The index of an MSI page: the bits of its page number in the mask. -/
def msiIndex (gppn : Word) : Nat := gather 52 msiAddrMask.toNat gppn.toNat

/-- What an entry says. -/
inductive MsiPte where
  /-- The entry is not valid. -/
  | invalid
  /-- The entry has a format of its own, which the specification leaves open. -/
  | custom
  /-- The mode is reserved, or a reserved bit is set. -/
  | misconfigured
  /-- Basic-translate mode: the address of the interrupt file. -/
  | basic (spa : Word)
  /-- MRIF mode: the address of the MRIF, and the identifier and the address of its notices. -/
  | mrif (mrifAddr : Word) (nid : BitVec 11) (noticeAddr : Word)
  deriving DecidableEq

/-- Reading the two words of an entry. -/
def MsiPte.decode (dw0 dw1 : Word) : MsiPte :=
  if dw0.getLsbD 0 = false then .invalid
  else if dw0.getLsbD 63 = true then .custom
  else if dw0.extractLsb' 54 9 ≠ 0#9 then .misconfigured
  else if dw0.extractLsb' 1 2 = 3#2 then
    if dw0.extractLsb' 3 7 = 0#7 then .basic ((dw0.extractLsb' 10 44).setWidth 64 <<< 12) else .misconfigured
  else if dw0.extractLsb' 1 2 = 1#2 then
    if dw0.extractLsb' 3 4 = 0#4 ∧ dw1.extractLsb' 54 6 = 0#6 ∧ dw1.extractLsb' 61 3 = 0#3 then
      .mrif ((dw0.extractLsb' 7 47).setWidth 64 <<< 9) (dw1.extractLsb' 60 1 ++ dw1.extractLsb' 0 10)
        ((dw1.extractLsb' 10 44).setWidth 64 <<< 12)
    else .misconfigured
  else .misconfigured

/-- The entry of a table at an index. -/
def MsiPt.entry (pt : MsiPt) (i : Nat) : MsiPte := MsiPte.decode (pt (2 * i)) (pt (2 * i + 1))

/-- The entry at an index without its custom bit. -/
def MsiPt.standardEntry (pt : MsiPt) (i : Nat) : MsiPte := MsiPte.decode (pt (2 * i) &&& ~~~msiPteCustom) (pt (2 * i + 1))

/-- What the entry at an index is meant to say: the interrupt file of the index, but for three entries. Of these, two are for the
MRIF, and the last one is in a custom format. -/
def msiEntryFor (mrif : Word) (i : Nat) : MsiPte :=
  if i = 20 then .mrif mrif 0x7AC#11 noticeAddr1
  else if i = 21 then .mrif mrif 0x7AC#11 noticeAddr2
  else if i = 23 then .custom
  else .basic (msiBaseIfSpa + BitVec.ofNat 64 (i * pageSize))

/-- The page number of a page of the tests. -/
def testGppn (tp : Nat) : Word := virtPageBase tp >>> 12

end RvIommuTests
