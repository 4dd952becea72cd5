import RvIommuTests.DdtCache
import RvIommuTests.Iotlb
import RvIommuTests.Lemmas.PageTables
import RvIommuTests.MsiTable

/-!
# What becomes of a request

A request of a device, as the specification has it translated with the tables in memory: through the two stages, each of which
checks permissions, and through the MSI page table, to a target or to a fault with its cause. Then what the tests take this to be,
for every address: a function of the modes in the device context and of how often the tables of each stage were switched.
-/

namespace RvIommuTests

open Bytes Paging PageTablesAux

/-! ## Requests and faults -/

/-- The causes in `rv_iommu_fq.h` with which a request is refused here. -/
inductive Cause where
  | instrAccessFault | instrPageFault | loadPageFault | storePageFault
  | instrGuestPageFault | loadGuestPageFault | storeGuestPageFault
  | allInbTransactionsDisallowed | ddtEntryLdAccessFault | ddtEntryInvalid | transTypeDisallowed
  | msiPteInvalid | msiPteMisconfigured
  deriving DecidableEq

/-- The code of a cause. -/
def Cause.code : Cause → Word
  | .instrAccessFault => 1#64
  | .instrPageFault => 12#64
  | .loadPageFault => 13#64
  | .storePageFault => 15#64
  | .instrGuestPageFault => 20#64
  | .loadGuestPageFault => 21#64
  | .storeGuestPageFault => 23#64
  | .allInbTransactionsDisallowed => 256#64
  | .ddtEntryLdAccessFault => 257#64
  | .ddtEntryInvalid => 258#64
  | .transTypeDisallowed => 260#64
  | .msiPteInvalid => 262#64
  | .msiPteMisconfigured => 263#64

/-- A request for an address, and the permissions that it needs. It has no process id, and so is one of user mode. -/
structure TransRequest where
  iova : Word
  read : Bool
  write : Bool
  exec : Bool
  deriving DecidableEq

namespace TransRequest

/-- A read of the DMA device. -/
def ofRead (iova : Word) : TransRequest := ⟨iova, true, false, false⟩

/-- A write of the DMA device. -/
def ofWrite (iova : Word) : TransRequest := ⟨iova, false, true, false⟩

/-- The flags of a leaf give all the permissions that are needed. -/
def permitted (q : TransRequest) (flags : Word) : Bool :=
  (!q.read || flags.getLsbD 1) && (!q.write || flags.getLsbD 2) && (!q.exec || flags.getLsbD 3)

/-- The fault of the first stage. -/
def pageFault (q : TransRequest) : Cause :=
  if q.exec then .instrPageFault else if q.write then .storePageFault else .loadPageFault

/-- The fault of the second stage. -/
def guestPageFault (q : TransRequest) : Cause :=
  if q.exec then .instrGuestPageFault else if q.write then .storeGuestPageFault else .loadGuestPageFault

end TransRequest

/-- Where a request goes. -/
inductive Target where
  /-- An address of the memory. -/
  | mem (spa : Nat)
  /-- The MRIF, with the identifier and the address of its notices. -/
  | mrif (mrifAddr : Word) (nid : BitVec 11) (noticeAddr : Word)
  deriving DecidableEq

/-! ## The IOMMU's side -/

namespace Dc

/-- The second stage does not map one of the tables that the first stage comes to. -/
def implicitFault (dc : Dc) (r : Reads) (q : TransRequest) : Bool :=
  Paging.sv39.inRange q.iova.toNat &&
    (visited Paging.sv39 (dc.firstRead r) q.write q.iova.toNat 2 (dc.root .first)).any fun gpa =>
      (dc.secondStage r false gpa).isNone

/-- The first stage of a request: the guest physical address. A leaf without U is not for user mode. -/
def guest (dc : Dc) (r : Reads) (q : TransRequest) : Except Cause Nat :=
  match dc.firstStage r q.write q.iova.toNat with
  | some (gpa, flags) => if !dc.sv39 || flags.getLsbD 4 && q.permitted flags then .ok gpa else .error q.pageFault
  | none => .error (if dc.implicitFault r q then q.guestPageFault else q.pageFault)

/-- The second stage of a request: the supervisor physical address. -/
def host (dc : Dc) (r : Reads) (q : TransRequest) (gpa : Nat) : Except Cause Nat :=
  match dc.secondStage r q.write gpa with
  | some (spa, flags) => if !dc.sv39x4 || q.permitted flags then .ok spa else .error q.guestPageFault
  | none => .error q.guestPageFault

end Dc

/-- What the entry of an MSI page makes of a request. An entry in a custom format counts as one that is not valid. -/
def MsiPte.target (e : MsiPte) (q : TransRequest) (gpa : Nat) : Except Cause Target :=
  if q.exec then .error .instrAccessFault
  else match e with
    | .basic spa => .ok (.mem (spa.toNat + gpa % 2 ^ 12))
    | .mrif mrifAddr nid noticeAddr => .ok (.mrif mrifAddr nid noticeAddr)
    | .misconfigured => .error .msiPteMisconfigured
    | .invalid => .error .msiPteInvalid
    | .custom => .error .msiPteInvalid

/-- The number of a guest page. -/
def gppn (gpa : Nat) : Word := BitVec.ofNat 64 (gpa / 2 ^ 12)

/-- The translation of a request with a device context, the MSI page table and the tables in memory. -/
def Dc.resolve (dc : Dc) (pt : MsiPt) (m : Mem) (q : TransRequest) : Except Cause Target :=
  (dc.guest (memReads m) q).bind fun gpa =>
    if dc.isMsi gpa then (pt.entry (msiIndex (gppn gpa))).target q gpa
    else (dc.host (memReads m) q gpa).map .mem

/-! ## The tests' side -/

/-- For each stage, whether the entries of `SWITCH1` and `SWITCH2` are exchanged. -/
abbrev Exchanged : Type := Stage → Bool

/-- The page whose entry stands at an index. -/
def pageAt (exchanged : Bool) (i : Nat) : Nat :=
  if exchanged then
    if i = TestPage.switch1.index then TestPage.switch2.index
    else if i = TestPage.switch2.index then TestPage.switch1.index
    else i
  else i

/-- The first stage, once it is on: it gives every address that it maps back, but for the two pages. Its 2-MiB pages from
0x140000000 on have no U. -/
def guestMap (exchanged : Bool) (q : TransRequest) : Except Cause Nat :=
  let gva := q.iova.toNat
  let i := gva / 2 ^ 12 % 512
  let j := if gva / 2 ^ 21 % 512 = 0 then pageAt exchanged i else i
  let flags := pageFlags PagePerm.stage1 j
  if gva < 0xC8000000 then .ok gva
  else if 0x100000000 ≤ gva ∧ gva < 0x100400000 ∧ pageMapped PagePerm.stage1 j = true ∧
      flags.getLsbD 4 = true ∧ q.permitted flags = true then .ok (gva - i * 2 ^ 12 + j * 2 ^ 12)
  else .error q.pageFault

instance (window i a : Nat) : Decidable (InPage window i a) := inferInstanceAs (Decidable (_ ∧ _))

/-- The second stage, once it is on. In four of its windows the two pages are exchanged. -/
def hostMap (exchanged : Bool) (q : TransRequest) (gpa : Nat) : Except Cause Nat :=
  let base := (testPpageBase Config.platform).toNat
  let i := gpa / 2 ^ 12 % 512
  let j := if gpa / 2 ^ 21 % 512 = 1 then i else pageAt exchanged i
  if gpa < 0xC0000000 then .ok gpa
  else if gpa < 0xC8000000 then .ok (gpa - 0xC0000000 + memBase)
  else if 0x140000000 ≤ gpa ∧ gpa < 0x180000000 then .ok (base + (gpa - 0x140000000))
  else if (∃ window ∈ s2Windows, InPage window i gpa) ∧ pageMapped PagePerm.stage2 j = true ∧
      q.permitted (pageFlags PagePerm.stage2 j) = true then .ok (base + j * 2 ^ 12 + gpa % 2 ^ 12)
  else .error q.guestPageFault

/-- What becomes of a request with given modes. -/
def requestMap (mrif : Word) (modes : DcModes) (exchanged : Exchanged) (q : TransRequest) : Except Cause Target :=
  (if modes.iosatp then guestMap (exchanged .first) q else .ok q.iova.toNat).bind fun gpa =>
    if modes.msiptp = true ∧ IsMsiPage (gppn gpa) then (msiEntryFor mrif (msiIndex (gppn gpa))).target q gpa
    else (if modes.iohgatp then hostMap (exchanged .second) q gpa else .ok gpa).map .mem

end RvIommuTests
