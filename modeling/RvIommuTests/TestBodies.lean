import RvIommuTests.Configurations
import RvIommuTests.DebugInterface
import RvIommuTests.MsiTable
import RvIommuTests.TestIo
import RvIommuTests.Tests

/-!
# The test functions

The functions of `rv_iommu_tests.c`, statement by statement, with the wrappers of `rv_iommu.c` that they call. Fences, empty
delay loops, and what `INFO`, `VERBOSE` and the loops over `iohpmcycles` print are left out.
-/

namespace RvIommuTests

open Bytes Shared

/-- The addresses of the objects that the tests take beside those of `Link`. -/
structure TestLink extends Link where
  /-- `root_ddt` -/
  rootDdt : Addr
  /-- `mrif` -/
  mrif : Addr

/-- A placement, behind the objects of `Link.compact`. -/
def TestLink.compact : TestLink where
  toLink := Link.compact
  rootDdt := 0x80033000#64
  mrif := 0x80034000#64

/-! ## Constants -/

/-- `MSI_TRANSLATION` -/
def msiTranslation : Nat := 1

/-- `CIP_MASK` -/
def cipMask : Word32 := 1#32 <<< 0
/-- `FIP_MASK` -/
def fipMask : Word32 := 1#32 <<< 1
/-- `PMIP_MASK` -/
def pmipMask : Word32 := 1#32 <<< 2

/-- `DDTP_PPN_MASK` -/
def ddtpPpnMask : Word := 0x3FFFFFFFFFFC00#64

/-- `DDTP_MODE_OFF`, `DDTP_MODE_BARE` and `DDTP_MODE_1LVL` -/
def DdtpMode.code : DdtpMode → Word
  | .off => 0#64
  | .bare => 1#64
  | .oneLvl => 2#64

/-- `CQCSR_CMD_ILL` -/
def cqcsrCmdIll : Word32 := 1#32 <<< 10
/-- `CQCSR_FENCE_W_IP` -/
def cqcsrFenceWIp : Word32 := 1#32 <<< 11

/-- `MSI_ADDR_CQ` -/
def msiAddrCq : Addr := 0x83000000#64
/-- `MSI_DATA_CQ` -/
def msiDataCq : Word32 := 0x00ABCDEF#32
/-- `MSI_ADDR_FQ` -/
def msiAddrFq : Addr := 0x83001000#64
/-- `MSI_DATA_FQ` -/
def msiDataFq : Word32 := 0xFEDCBA00#32
/-- `MSI_ADDR_HPM` -/
def msiAddrHpm : Addr := 0x83002000#64
/-- `MSI_DATA_HPM` -/
def msiDataHpm : Word32 := 0xDEADBEEF#32

/-- `IOHPMEVT_OF` -/
def iohpmevtOf : Word := 1#64 <<< 63

/-- `CAUSE_MASK` -/
def causeMask : Word := 0xFFF#64
/-- `LOAD_PAGE_FAULT` -/
def loadPageFault : Word := 13#64
/-- `STORE_GUEST_PAGE_FAULT` -/
def storeGuestPageFault : Word := 23#64
/-- `ALL_INB_TRANSACTIONS_DISALLOWED` -/
def allInbTransactionsDisallowed : Word := 256#64
/-- `TRANS_TYPE_DISALLOWED` -/
def transTypeDisallowed : Word := 260#64
/-- `MSI_PTE_INVALID` -/
def msiPteInvalid : Word := 262#64

/-- `INT_ID_1` -/
def intId1 : Word32 := 300#32
/-- `INT_ID_2` -/
def intId2 : Word32 := 600#32

/-- `INT_IP_IDX_1`, `INT_IP_IDX_2` -/
def intIpIdx (intId : Word32) : Nat := ((intId >>> 2) &&& ~~~0xF#32).toNat / 8

/-- `INT_MASK_1`, `INT_MASK_2` -/
def intMask (intId : Word32) : Word := 1#64 <<< (intId &&& 0x3F#32).toNat

/-! ## Wrappers of `rv_iommu.c` -/

namespace Body

/-- `set_iommu_off`, `set_iommu_bare`, `set_iommu_1lvl` -/
def setIommu (link : TestLink) (mode : DdtpMode) : Body Unit :=
  dev (.setCtl64 .ddtp (((link.rootDdt >>> 2) &&& ddtpPpnMask) ||| mode.code))

/-- `set_ig_wsi` -/
def setIgWsi : Body Unit := dev (.setCtl32 .fctl (1#32 <<< 1))

/-- `set_ig_msi` -/
def setIgMsi : Body Unit := dev (.setCtl32 .fctl (0#32 <<< 1))

/-- `rv_iommu_get_ipsr` -/
def getIpsr : Body Word32 := dev (.getCtl32 .ipsr)

/-- `rv_iommu_clear_ipsr_fip` -/
def clearIpsrFip : Body Unit := dev (.setCtl32 .ipsr 0x7#32)

/-- A command-issuing function. Its local array is on the stack. -/
def issue (link : TestLink) (c : DriverCall) : Body Unit := do
  let newCmd ← dev .stack
  queue (c.run link.toLink ⟨newCmd.dw0, newCmd.dw1⟩)

/-- `if (rv_iommu_fq_read_record(fq_entry) != 0) ERROR(...)` -/
def readRecord (link : TestLink) (fqEntry : Record) : Body Record := do
  let r ← queue (rvIommuFqReadRecord link.toLink fqEntry)
  if r.1 ≠ 0 then
    error "IOMMU did not generated a new FQ record when expected"
  return r.2

/-- `idma_setup(..)` or `idma_setup_addr(..)`, and `if (idma_exec_transfer(dma_ut) != 0) ERROR(...)` -/
def transfer (setup : IdmaDriver Unit) : Body Unit := do
  idma setup
  let r ← idma idmaExecTransfer
  if r ≠ 0 then
    error "iDMA misconfigured"

/-- `read64(a) == v` -/
def holds (a : Addr) (v : Word) : Body Bool := do
  let r ← queue (read64 a)
  return r == v

/-- A setter of the debug interface. -/
def dbgSet (c : DbgCall) : Body Unit := do
  let ctl ← dev (.getCtl64 .trReqCtl)
  dev (.setCtl64 .trReqCtl (c.run ctl))

/-- `rv_iommu_dbg_set_iova` -/
def dbgSetIova (iova : Word) : Body Unit := dev (.setCtl64 .trReqIova (iova &&& ~~~0xFFF#64))

/-- `rv_iommu_dbg_set_go`, and the loop until `rv_iommu_dbg_req_is_complete`. -/
def dbgGo : Body Unit := do
  let ctl ← dev (.getCtl64 .trReqCtl)
  dev (.setCtl64 .trReqCtl (ctl ||| trReqCtlGoBit))
  .waitFor (BodyIo.dev (.getCtl64 .trReqCtl)) rvIommuDbgReqIsComplete

/-- A function that reads the response. -/
def dbgResponse {α : Type} (f : Word → α) : Body α := do
  let resp ← dev (.getCtl64 .trResponse)
  return f resp

end Body

open Body

/-! ## Tests without the IOMMU -/

/-- The body of `idma_only`, for either setting of `IDMA_IRQ_EN`. -/
def idmaOnlyBody (idmaIrqEn : Bool) : Body Unit := do
  let readPaddr1 := phys .bareTransR1
  let readPaddr2 := phys .bareTransR2
  let writePaddr1 := phys .bareTransW1
  let writePaddr2 := phys .bareTransW2
  queue (write64 readPaddr1 0x11#64)
  queue (write64 readPaddr2 0x22#64)
  queue (write64 writePaddr1 0x00#64)
  queue (write64 writePaddr2 0x00#64)
  transfer (idmaSetup readPaddr1 writePaddr1 8#64)
  let mut check1 ← holds writePaddr1 0x11#64
  if idmaIrqEn then
    check1 := (← idma (idmaRead .ipsr)) == 3#64
    testAssert "iDMA interrupt pending bits set" check1
    idma (idmaWrite .ipsr 0x03#64)
    check1 := (← idma (idmaRead .ipsr)) == 0#64
    testAssert "iDMA interrupt pending bits cleared after writing 1" check1
  transfer (idmaSetupAddr readPaddr2 writePaddr2)
  let check2 ← holds writePaddr2 0x22#64
  testAssert "Single transfer without IOMMU" (check1 && check2)

/-- `idma_only` -/
def idmaOnly (idmaIrqEn : Bool) : TestFn := do
  TestFn.testStart "idma_only"
  TestFn.body (idmaOnlyBody idmaIrqEn)
  TestFn.testEnd

/-- The body of `idma_only_multiple_beats`. -/
def idmaOnlyMultipleBeatsBody : Body Unit := do
  let startRaddr1 := phys .iommuOffR
  let startRaddr2 := phys .iommuBareR
  let startWaddr1 := phys .iommuOffW
  let startWaddr2 := phys .iommuBareW
  queue (write64 startRaddr1 0x00#64)
  queue (write64 (startRaddr1 + 8#64) 0x10#64)
  queue (write64 (startRaddr1 + 16#64) 0x20#64)
  queue (write64 startRaddr2 0x80#64)
  queue (write64 (startRaddr2 + 8#64) 0x90#64)
  queue (write64 (startRaddr2 + 16#64) 0xA0#64)
  queue (write64 startWaddr1 0x00#64)
  queue (write64 (startWaddr1 + 8#64) 0x00#64)
  queue (write64 (startWaddr1 + 16#64) 0x00#64)
  queue (write64 startWaddr2 0x00#64)
  queue (write64 (startWaddr2 + 8#64) 0x00#64)
  queue (write64 (startWaddr2 + 16#64) 0x00#64)
  transfer (idmaSetup startRaddr1 startWaddr1 24#64)
  let check1 ← (holds startWaddr1 0x00#64).and
    ((holds (startWaddr1 + 8#64) 0x10#64).and (holds (startWaddr1 + 16#64) 0x20#64))
  transfer (idmaSetupAddr startRaddr2 startWaddr2)
  let check2 ← (holds startWaddr2 0x80#64).and
    ((holds (startWaddr2 + 8#64) 0x90#64).and (holds (startWaddr2 + 16#64) 0xA0#64))
  testAssert "Multi-beat transfers without IOMMU" (check1 && check2)

/-- `idma_only_multiple_beats` -/
def idmaOnlyMultipleBeats : TestFn := do
  TestFn.testStart "idma_only_multiple_beats"
  TestFn.body idmaOnlyMultipleBeatsBody
  TestFn.testEnd

/-! ## Tests of the modes -/

/-- The body of `iommu_off`. -/
def iommuOffBody (link : TestLink) : Body Unit := do
  setIommu link .off
  let readVaddr1 := virt .iommuOffR
  let writeVaddr1 := virt .iommuOffW
  transfer (idmaSetup readVaddr1 writeVaddr1 8#64)
  let fqEntry ← dev .stack
  let fqEntry ← readRecord link fqEntry
  let checkCause := fqEntry.dw0 &&& causeMask == allInbTransactionsDisallowed
  let checkIova := fqEntry.dw2 == readVaddr1
  testAssert "IOMMU Off: Cause code matches with induced fault code" checkCause
  testAssert "IOMMU Off: Recorded IOVA matches with input IOVA" checkIova
  let fqEntry ← readRecord link fqEntry
  let checkCause := fqEntry.dw0 &&& causeMask == allInbTransactionsDisallowed
  let checkIova := fqEntry.dw2 == writeVaddr1
  clearIpsrFip
  testAssert "IOMMU Off: Cause code matches with induced fault code" checkCause
  testAssert "IOMMU Off: Recorded IOVA matches with input IOVA" checkIova

/-- `iommu_off` -/
def iommuOff (link : TestLink) : TestFn := do
  TestFn.testStart "iommu_off"
  TestFn.body (iommuOffBody link)
  TestFn.testEnd

/-- The body of `iommu_bare`. -/
def iommuBareBody (link : TestLink) : Body Unit := do
  setIommu link .bare
  let startRaddr1 := phys .iommuBareR
  let startWaddr1 := phys .iommuBareW
  queue (write64 startRaddr1 0x00#64)
  queue (write64 (startRaddr1 + 8#64) 0x10#64)
  queue (write64 (startRaddr1 + 16#64) 0x20#64)
  queue (write64 startWaddr1 0x00#64)
  queue (write64 (startWaddr1 + 8#64) 0x00#64)
  queue (write64 (startWaddr1 + 16#64) 0x00#64)
  transfer (idmaSetup startRaddr1 startWaddr1 24#64)
  let check ← (holds startWaddr1 0x00#64).and
    ((holds (startWaddr1 + 8#64) 0x10#64).and (holds (startWaddr1 + 16#64) 0x20#64))
  testAssert "Memory transfer with IOMMU in Bare mode: All values match" check

/-- `iommu_bare`. There is no `TEST_END`. -/
def iommuBare (link : TestLink) : TestFn := do
  TestFn.testStart "iommu_bare"
  TestFn.body (iommuBareBody link)
  return none

/-- The body of `both_stages_bare`. -/
def bothStagesBareBody (link : TestLink) : Body Unit := do
  setIommu link .oneLvl
  dev (.setDc .iosatpBare)
  dev (.setDc .iohgatpBare)
  let readPaddr1 := phys .bareTransR1
  let readPaddr2 := phys .bareTransR2
  let writePaddr1 := phys .bareTransW1
  let writePaddr2 := phys .bareTransW2
  queue (write64 readPaddr1 0x11#64)
  queue (write64 readPaddr2 0x22#64)
  queue (write64 writePaddr1 0x00#64)
  queue (write64 writePaddr2 0x00#64)
  transfer (idmaSetup readPaddr1 writePaddr1 8#64)
  let check ← holds writePaddr1 0x11#64
  testAssert "Bare translation: First value matches" check
  transfer (idmaSetupAddr readPaddr2 writePaddr2)
  let check ← holds writePaddr2 0x22#64
  testAssert "Bare translation: Second value matches" check

/-- `both_stages_bare` -/
def bothStagesBare (link : TestLink) : TestFn := do
  TestFn.testStart "both_stages_bare"
  TestFn.body (bothStagesBareBody link)
  TestFn.testEnd

/-! ## Tests of the translation -/

/-- `set_iommu_1lvl`, the setters for both stages, and `rv_iommu_set_msi_flat`, as five tests start. -/
def Body.twoStages (link : TestLink) : Body Unit := do
  setIommu link .oneLvl
  dev (.setDc .iosatpSv39)
  dev (.setDc .iohgatpSv39x4)
  dev (.setDc .msiFlat)

/-- The body of `second_stage_only`. -/
def secondStageOnlyBody (link : TestLink) : Body Unit := do
  setIommu link .oneLvl
  dev (.setDc .iosatpBare)
  dev (.setDc .iohgatpSv39x4)
  dev (.setDc .msiFlat)
  issue link (.inval (.ddtInval false idmaId))
  let readPaddr1 := phys .s2OnlyR
  let readVaddr1 := virt .s2OnlyR
  let readPaddr2 := phys .msiR1
  let readVaddr2 := virt .msiR1
  let writePaddr1 := phys .s2OnlyW
  let writeVaddr1 := virt .s2OnlyW
  let writePaddr2 := msiBaseIfSpa + BitVec.ofNat 64 (17 * pageSize)
  let writeVaddr2 := virt .msiW1
  queue (write64 readPaddr1 0x11#64)
  queue (write64 readPaddr2 0x22#64)
  queue (write64 writePaddr1 0x00#64)
  queue (write64 writePaddr2 0x00#64)
  transfer (idmaSetup readVaddr1 writeVaddr1 8#64)
  let check ← holds writePaddr1 0x11#64
  testAssert "Second-stage only: First transfer matches (Normal translation)" check
  if msiTranslation = 1 then
    transfer (idmaSetup readVaddr2 writeVaddr2 4#64)
    let check ← holds writePaddr2 0x22#64
    testAssert "Second-stage only: Second transfer matches (MSI translation)" check

/-- `second_stage_only` -/
def secondStageOnly (link : TestLink) : TestFn := do
  TestFn.testStart "second_stage_only"
  TestFn.body (secondStageOnlyBody link)
  TestFn.testEnd

/-- The body of `two_stage_translation`. -/
def twoStageTranslationBody (link : TestLink) : Body Unit := do
  twoStages link
  issue link (.inval (.ddtInval false idmaId))
  let readPaddr1 := phys .twoStageR4K
  let readVaddr1 := virt .twoStageR4K
  let readPaddr2 := phys .twoStageR2M
  let readVaddr2 := virt .twoStageR2M
  let readPaddr3 := phys .twoStageR1G
  let readVaddr3 := virt .twoStageR1G
  let readPaddr4 := phys .msiR2
  let readVaddr4 := virt .msiR2
  let writePaddr1 := phys .twoStageW4K
  let writeVaddr1 := virt .twoStageW4K
  let writePaddr2 := BitVec.ofNat 64 testPaddr2Mib
  let writeVaddr2 := testVaddr2Mib
  let writePaddr3 := BitVec.ofNat 64 testPaddr1Gib
  let writeVaddr3 := testVaddr1Gib
  let writePaddr4 := msiBaseIfSpa + BitVec.ofNat 64 (19 * pageSize)
  let writeVaddr4 := virt .msiW2
  queue (write64 readPaddr1 0x11#64)
  queue (write64 readPaddr2 0x22#64)
  queue (write64 readPaddr3 0x33#64)
  queue (write64 readPaddr4 0x44#64)
  queue (write64 writePaddr1 0x00#64)
  queue (write64 writePaddr2 0x00#64)
  queue (write64 writePaddr3 0x00#64)
  queue (write64 writePaddr4 0x00#64)
  transfer (idmaSetup readVaddr1 writeVaddr1 8#64)
  let check ← holds writePaddr1 0x11#64
  testAssert "Two-stage translation: First transfer matches (4kiB pages)" check
  transfer (idmaSetupAddr readVaddr2 writeVaddr2)
  let check ← holds writePaddr2 0x22#64
  testAssert "Two-stage translation: Second transfer matches (2MiB superpages)" check
  transfer (idmaSetupAddr readVaddr3 writeVaddr3)
  let check ← holds writePaddr3 0x33#64
  testAssert "Two-stage translation: Third transfer matches (1GiB superpages)" check
  if msiTranslation = 1 then
    transfer (idmaSetup readVaddr4 writeVaddr4 4#64)
    let check ← holds writePaddr4 0x44#64
    testAssert "Two-stage translation: Fourth transfer matches (MSI translation)" check

/-- `two_stage_translation` -/
def twoStageTranslation (link : TestLink) : TestFn := do
  TestFn.testStart "two_stage_translation"
  TestFn.body (twoStageTranslationBody link)
  TestFn.testEnd

/-- The body of `iotinval`. -/
def iotinvalBody (link : TestLink) : Body Unit := do
  twoStages link
  let readPaddr1 := phys .iotinvalR1
  let readVaddr1 := virt .iotinvalR1
  let readPaddr2 := phys .iotinvalR2
  let readVaddr2 := virt .iotinvalR2
  let writePaddr1 := phys .switch1
  let writeVaddr1 := virt .switch1
  let writePaddr2 := phys .switch2
  let writeVaddr2 := virt .switch2
  queue (write64 readPaddr1 0x11#64)
  queue (write64 readPaddr2 0x22#64)
  queue (write64 writePaddr1 0x00#64)
  queue (write64 writePaddr2 0x00#64)
  transfer (idmaSetup readVaddr1 writeVaddr1 8#64)
  transfer (idmaSetupAddr readVaddr2 writeVaddr2)
  let check ← (holds writePaddr1 0x11#64).and (holds writePaddr2 0x22#64)
  testAssert "Memory transfer before PTEs swap" check
  dev .s1ptSwitch
  queue (write64 writePaddr1 0x00#64)
  queue (write64 writePaddr2 0x00#64)
  issue link (.inval (.iotinvalVma false true true 0 0xABC 0xDEF))
  transfer (idmaSetupAddr readVaddr1 writeVaddr1)
  transfer (idmaSetupAddr readVaddr2 writeVaddr2)
  let check ← (holds writePaddr1 0x22#64).and (holds writePaddr2 0x11#64)
  testAssert "IOTLB invalidation: Values were swapped" check
  dev .s2ptSwitch
  queue (write64 writePaddr1 0x00#64)
  queue (write64 writePaddr2 0x00#64)
  issue link (.inval (.iotinvalGvma false true 0 0xABC))
  transfer (idmaSetupAddr readVaddr1 writeVaddr1)
  transfer (idmaSetupAddr readVaddr2 writeVaddr2)
  let check ← (holds writePaddr2 0x22#64).and (holds writePaddr1 0x11#64)
  testAssert "IOTLB invalidation: Values were swapped again" check

/-- `iotinval` -/
def iotinval (link : TestLink) : TestFn := do
  TestFn.testStart "iotinval"
  TestFn.body (iotinvalBody link)
  TestFn.testEnd

/-! ## Tests of the interrupts and the counters -/

/-- The body of `wsi_generation`. -/
def wsiGenerationBody (link : TestLink) : Body Unit := do
  twoStages link
  setIgWsi
  let readPaddr1 := phys .wsiR
  let readVaddr1 := virt .wsiR
  let writePaddr1 := phys .wsiW
  let writeVaddr1 := virt .wsiW
  queue (write64 readPaddr1 0x11#64)
  queue (write64 writePaddr1 0x00#64)
  transfer (idmaSetup readVaddr1 writeVaddr1 8#64)
  let check := (← getIpsr) &&& fipMask == 2#32
  testAssert "ipsr.fip set on FQ recording" check
  clearIpsrFip
  let check := (← getIpsr) == 0#32
  testAssert "ipsr.fip cleared after writing 1" check
  let fqEntry ← dev .stack
  let fqEntry ← readRecord link fqEntry
  let checkCause := fqEntry.dw0 &&& causeMask == loadPageFault
  let checkIova := fqEntry.dw2 == readVaddr1
  testAssert "Read 1: Cause code matches with induced fault code" checkCause
  testAssert "Read 1: Recorded IOVA matches with input IOVA" checkIova
  let fqEntry ← readRecord link fqEntry
  let checkCause := fqEntry.dw0 &&& causeMask == storeGuestPageFault
  let checkIova := fqEntry.dw2 == writeVaddr1
  testAssert "Write 1: Cause code matches with induced fault code" checkCause
  testAssert "Write 1: Recorded IOVA matches with input IOVA" checkIova

/-- `wsi_generation` -/
def wsiGeneration (link : TestLink) : TestFn := do
  TestFn.testStart "wsi_generation"
  TestFn.body (wsiGenerationBody link)
  TestFn.testEnd

/-- The body of `iofence`. -/
def iofenceBody (link : TestLink) : Body Unit := do
  setIommu link .oneLvl
  let cqh ← queue (read32 .cqh)
  issue link (.iofenceC true true)
  let cqhInc ← queue (read32 .cqh)
  let check := cqhInc == cqh + 1#32
  testAssert "cqh was incremented" check
  let cqcsr ← queue (read32 .cqcsr)
  let check := cqcsr &&& cqcsrFenceWIp != 0#32
  testAssert "cqcsr.fence_w_ip was set" check
  let check := (← getIpsr) &&& cipMask == 1#32
  testAssert "ipsr.cip setting on IOFENCE completion" check
  let data ← dev (.load32 iofenceAddr)
  let check := data.setWidth 64 == iofenceData
  testAssert "IOFENCE DATA was correctly written in the given ADDR" check
  queue (write32 .cqcsr cqcsr)
  clearIpsrFip

/-- `iofence` -/
def iofence (link : TestLink) : TestFn := do
  TestFn.testStart "iofence"
  TestFn.body (iofenceBody link)
  TestFn.testEnd

/-- The body of `msi_generation`. -/
def msiGenerationBody (link : TestLink) : Body Unit := do
  twoStages link
  setIgMsi
  let readVaddr1 := virt .msiGenR
  let writeVaddr1 := virt .msiGenW
  transfer (idmaSetup readVaddr1 writeVaddr1 8#64)
  issue link .induceFaultCq
  let cqcsr ← queue (read32 .cqcsr)
  let check := cqcsr &&& cqcsrCmdIll != 0#32
  testAssert "cqcsr.cmd_ill was set" check
  let check := (← getIpsr) &&& (cipMask ||| fipMask) == 3#32
  testAssert "ipsr.cip and ipsr.fip were set" check
  let fqMsiData ← dev (.load32 msiAddrFq)
  let check := fqMsiData == msiDataFq
  testAssert "MSI data corresponding to FQ interrupt vector matches" check
  queue (write32 .cqcsr cqcsr)
  clearIpsrFip
  dev (.setCtl32 (.msiCfgTblVctl 3) 0x0#32)
  let cqMsiData ← dev (.load32 msiAddrCq)
  let check := cqMsiData == msiDataCq
  testAssert "MSI data corresponding to CQ interrupt vector matches after clearing mask" check
  let fqEntry ← dev .stack
  let fqEntry ← readRecord link fqEntry
  let _ ← readRecord link fqEntry

/-- `msi_generation` -/
def msiGeneration (link : TestLink) : TestFn := do
  TestFn.testStart "msi_generation"
  TestFn.body (msiGenerationBody link)
  TestFn.testEnd

/-- The setup of `iohpmcycles` in `hpm`, and the loop until its highest bit is set. -/
def Body.overflowCycles : Body Unit := do
  let iocountinh := (← dev (.getCtl32 .iocntinh)) ||| 0x1#32
  dev (.setCtl32 .iocntinh iocountinh)
  dev (.setCtl64 .iohpmcycles 0x7FFFFFFFFFFFF000#64)
  let iocountinh := iocountinh &&& ~~~0x1#32
  dev (.setCtl32 .iocntinh iocountinh)
  .waitFor (BodyIo.dev (.getCtl64 .iohpmcycles)) (fun v => v &&& (1#64 <<< 63) != 0#64)

/-- The body of `hpm`. -/
def hpmBody (link : TestLink) : Body Unit := do
  twoStages link
  setIgWsi
  clearIpsrFip
  overflowCycles
  let iocountovf ← dev (.getCtl32 .iocntovf)
  let check := iocountovf &&& 0x1#32 != 0#32
  testAssert "iocountovf.cy is set upon iohpmcycles overflow" check
  let check := (← getIpsr) &&& pmipMask == 4#32
  testAssert "ipsr.pmip set upon iohpmcycles overflow" check
  clearIpsrFip
  setIgMsi
  overflowCycles
  let iocountovf ← dev (.getCtl32 .iocntovf)
  let check := iocountovf &&& 0x1#32 != 0#32
  testAssert "iocountovf.cy is set upon iohpmcycles overflow" check
  let check := (← getIpsr) &&& pmipMask == 4#32
  testAssert "ipsr.pmip set upon iohpmcycles overflow" check
  let hpmMsiData ← dev (.load32 msiAddrHpm)
  let check := hpmMsiData == msiDataHpm
  testAssert "MSI data corresponding to HPM interrupt vector matches" check
  clearIpsrFip
  setIgWsi
  let iocountinh := (← dev (.getCtl32 .iocntinh)) ||| 0x10#32
  dev (.setCtl32 .iocntinh iocountinh)
  dev (.setCtl64 (.iohpmctr 3) 0xFFFFFFFFFFFFFFFF#64)
  let iocountinh := iocountinh &&& ~~~0x10#32
  dev (.setCtl32 .iocntinh iocountinh)
  let readVaddr1 := virt .hpmR
  let writeVaddr1 := virt .hpmW
  transfer (idmaSetup readVaddr1 writeVaddr1 8#64)
  let iohpmevt3 ← dev (.getCtl64 (.iohpmevt 3))
  let check := iohpmevt3 &&& iohpmevtOf != 0#64
  testAssert "iohpmevt_3.OF is set upon iohpmctr[3] overflow" check
  let iocountovf ← dev (.getCtl32 .iocntovf)
  let check := iocountovf &&& 0x10#32 != 0#32
  testAssert "iocountovf.hpm[3] is set upon iohpmctr[3] overflow" check
  let check := (← getIpsr) &&& pmipMask == 4#32
  testAssert "ipsr.pmip set upon iohpmctr[3] overflow" check
  clearIpsrFip

/-- `hpm` -/
def hpm (link : TestLink) : TestFn := do
  TestFn.testStart "hpm"
  TestFn.body (hpmBody link)
  TestFn.testEnd

/-- `mrif[INT_IP_IDX]` -/
def Body.mrifIp (link : TestLink) (intId : Word32) : Body Word :=
  queue (read64 (link.mrif + BitVec.ofNat 64 (8 * intIpIdx intId)))

/-- The body of `mrif_support`. -/
def mrifSupportBody (link : TestLink) : Body Unit := do
  setIommu link .oneLvl
  dev (.setDc .iosatpBare)
  dev (.setDc .iohgatpSv39x4)
  dev (.setDc .msiFlat)
  issue link (.inval (.ddtInval false idmaId))
  let readPaddr1 := phys .msiR3
  let readVaddr1 := virt .msiR3
  let writeVaddr1 := virt .msiW3
  dev (.store32 readPaddr1 intId1)
  dev (.store32 noticeAddr1 0#32)
  transfer (idmaSetup readVaddr1 writeVaddr1 4#64)
  let check := (← mrifIp link intId1) &&& intMask intId1 != 0#64
  testAssert "MRIF with Second-stage only: IP bit set" check
  let check := (← dev (.load32 noticeAddr1)).setWidth 64 == noticeData
  testAssert "MRIF with Second-stage only: MSI notice matches" check
  dev (.setDc .iosatpSv39)
  issue link (.inval (.ddtInval false idmaId))
  let readPaddr2 := phys .msiR4
  let readVaddr2 := virt .msiR4
  let writeVaddr2 := virt .msiW4
  dev (.store32 readPaddr2 intId2)
  dev (.store32 noticeAddr2 0#32)
  transfer (idmaSetup readVaddr2 writeVaddr2 4#64)
  let check := (← mrifIp link intId2) &&& intMask intId2 != 0#64
  testAssert "MRIF with two-stage translation: IP bit set" check
  let check := (← dev (.load32 noticeAddr2)) == 0#32
  testAssert "MRIF with two-stage translation: MSI notice not written as IE is clear" check
  let readVaddr3 := virt .msiR5
  let writeVaddr3 := virt .msiW5
  transfer (idmaSetup readVaddr3 writeVaddr3 4#64)
  let fqEntry ← dev .stack
  let fqEntry ← readRecord link fqEntry
  let checkCause := fqEntry.dw0 &&& causeMask == msiPteInvalid
  let checkIova := fqEntry.dw2 == writeVaddr3
  testAssert "MRIF: Cause code matches with induced fault code" checkCause
  testAssert "MRIF: Recorded IOVA matches with input IOVA" checkIova
  clearIpsrFip
  dev (.store32 readPaddr1 0xFFF#32)
  queue (write64 (link.mrif + BitVec.ofNat 64 (8 * intIpIdx intId1)) 0#64)
  dev (.store32 noticeAddr1 0#32)
  transfer (idmaSetup readVaddr1 writeVaddr1 4#64)
  let check := (← mrifIp link intId1) &&& intMask intId1 == 0#64
  testAssert "MRIF discard mechanism: IP bit not set" check
  let check := (← dev (.load32 noticeAddr1)) == 0#32
  testAssert "MRIF discard mechanism: MSI notice not written as transaction was discarded" check

/-- `mrif_support` -/
def mrifSupport (link : TestLink) : TestFn := do
  TestFn.testStart "mrif_support"
  TestFn.body (mrifSupportBody link)
  TestFn.testEnd

/-! ## The debug interface and the latency -/

/-- The body of `dbg_interface`. -/
def dbgInterfaceBody (link : TestLink) : Body Unit := do
  twoStages link
  let vaddr1 := virt .twoStageW4K
  let vaddr2 := testVaddr2Mib
  let vaddr3 := testVaddr1Gib
  let vaddr4 := virt .msiW2
  let paddr1 := phys .twoStageW4K
  let paddr2 := BitVec.ofNat 64 testPaddr2Mib
  let paddr3 := BitVec.ofNat 64 testPaddr1Gib
  dbgSetIova vaddr1
  dbgSet (.setDid idmaId)
  dbgSet (.setPv false)
  dbgSet (.setRw true)
  dbgSet (.setExe false)
  dbgSet (.setPriv true)
  dbgGo
  let check ← (dbgResponse fun resp => rvIommuDbgReqFault resp == 0#8).and
    ((dbgResponse fun resp => rvIommuDbgReqIsSuperpage resp == 0#8).and
      (dbgResponse fun resp => rvIommuDbgTranslatedPpn resp == paddr1 >>> 12))
  testAssert "DBG IF: First transfer response matches" check
  dbgSetIova vaddr2
  dbgSet (.setExe true)
  dbgSet (.setPriv false)
  dbgGo
  let check ← (dbgResponse fun resp => rvIommuDbgReqFault resp == 0#8).and
    ((dbgResponse fun resp => rvIommuDbgReqIsSuperpage resp != 0#8).and
      (dbgResponse fun resp => rvIommuDbgTranslatedPpn resp &&& ~~~0x0FF#64 == paddr2 >>> 12))
  testAssert "DBG IF: Second transfer response matches" check
  let check ← dbgResponse fun resp => rvIommuDbgPpnEncodeX resp == 8#8
  testAssert "DBG IF: PPN correctly encoded to 2MiB" check
  dbgSetIova vaddr3
  dbgSet (.setExe false)
  dbgGo
  let check ← (dbgResponse fun resp => rvIommuDbgReqFault resp == 0#8).and
    ((dbgResponse fun resp => rvIommuDbgReqIsSuperpage resp != 0#8).and
      (dbgResponse fun resp => rvIommuDbgTranslatedPpn resp &&& ~~~0x1FFFF#64 == paddr3 >>> 12))
  testAssert "DBG IF: Third transfer response matches" check
  let check ← dbgResponse fun resp => rvIommuDbgPpnEncodeX resp == 17#8
  testAssert "DBG IF: PPN correctly encoded to 2MiB" check
  dbgSetIova vaddr4
  dbgGo
  let check ← dbgResponse fun resp => rvIommuDbgReqFault resp != 0#8
  testAssert "DBG IF: Fourth transfer generates fault, as it triggers MSI translation" check
  let fqEntry ← dev .stack
  let fqEntry ← readRecord link fqEntry
  let checkCause := fqEntry.dw0 &&& causeMask == transTypeDisallowed
  let checkIova := fqEntry.dw2 == vaddr4
  testAssert "DBG IF w/ MSI: Cause code matches with induced fault code" checkCause
  testAssert "DBG IF w/ MSI: Recorded IOVA matches with input IOVA" checkIova

/-- `dbg_interface` -/
def dbgInterface (link : TestLink) : TestFn := do
  TestFn.testStart "dbg_interface"
  TestFn.body (dbgInterfaceBody link)
  TestFn.testEnd

/-- The loop of `latency_test`, with `n` transfers left. `N_DMA` is 1, so the first number of a round chooses nothing. -/
def latencyLoop : Nat → Word → Body Word
  | 0, avgLat => return avgLat
  | n + 1, avgLat => do
    let _ ← dev .rand
    let ptIndex := (← dev .rand) % nMappings
    let readPaddr := physPageBase .platform (ptIndex + stressStart)
    let readVaddr := virtPageBase (ptIndex + stressStart)
    let writePaddr := physPageBase .platform (ptIndex + stressStart) + 0x0800#64
    let writeVaddr := virtPageBase (ptIndex + stressStart) + 0x0800#64
    queue (write64 readPaddr 0xDEADBEEF#64)
    queue (write64 writePaddr 0#64)
    idma (idmaSetup readVaddr writeVaddr 8#64)
    let stampStart ← dev .cycles
    let transId ← idma (idmaRead .nextTransferId)
    if transId = 0#64 then
      Body.error "iDMA misconfigured"
    idma (idmaWait transId)
    let stampEnd ← dev .cycles
    let v ← queue (read64 writePaddr)
    if v ≠ 0xDEADBEEF#64 then
      Body.error "Transfer does not match"
    latencyLoop n (avgLat + (stampEnd - stampStart))

/-- The body of `latency_test`. -/
def latencyTestBody (link : TestLink) : Body Unit := do
  setIommu link .oneLvl
  dev (.setDc .iosatpSv39)
  dev (.setDc .iohgatpSv39x4)
  issue link (.inval (.ddtInval false idmaId))
  issue link (.inval (.iotinvalVma false false false 0 0 0))
  issue link (.inval (.iotinvalGvma false false 0 0))
  dev (.setCtl64 (.iohpmctr 0) 0#64)
  dev (.setCtl64 (.iohpmctr 1) 0#64)
  dev (.setCtl64 (.iohpmctr 2) 0#64)
  dev (.setCtl64 (.iohpmctr 3) 0#64)
  dev (.setCtl64 (.iohpmctr 5) 0#64)
  let stamp ← dev .cycles
  dev (.srand stamp)
  let avgLat ← latencyLoop nTransfers 0#64
  dev (.printf "Transfer average latency (in cycles): %llu\n" (avgLat / BitVec.ofNat 64 nTransfers))
  dev (.printf "Untranslated Requests cnt: %llu\n" (← dev (.getCtl64 (.iohpmctr 0))))
  dev (.printf "IOTLB miss cnt: %llu\n" (← dev (.getCtl64 (.iohpmctr 1))))
  dev (.printf "DDT Walks cnt: %llu\n" (← dev (.getCtl64 (.iohpmctr 2))))
  dev (.printf "First-stage PT walk cnt: %llu\n" (← dev (.getCtl64 (.iohpmctr 3))))
  dev (.printf "Second-stage PT walk cnt: %llu\n" (← dev (.getCtl64 (.iohpmctr 4))))

/-- `latency_test` -/
def latencyTest (link : TestLink) : TestFn := do
  TestFn.testStart "latency_test"
  TestFn.body (latencyTestBody link)
  TestFn.testEnd

/-! ## `test_register.c` -/

/-- The registered tests, in the order of their registrations. -/
def testTable (link : TestLink) : List TestFn :=
  [dbgInterface link, mrifSupport link, hpm link, msiGeneration link, iofence link, wsiGeneration link, iotinval link,
    twoStageTranslation link, secondStageOnly link, bothStagesBare link, iommuBare link, iommuOff link]

end RvIommuTests
