import RvIommuTests.Lib.Prog
import RvIommuTests.Commands
import RvIommuTests.DeviceContext
import RvIommuTests.PageTables

/-!
# The IOMMU tests

Of each test of `rv_iommu_tests.c` that drives the IOMMU, the operations that what the IOMMU does with a request depends on, in
their order: the mode, the device contexts, the page tables, the commands, and the requests themselves. What a test writes to
its buffers, and what it checks afterwards, is left out, and so are the interrupt and the performance-monitor registers.
-/

namespace RvIommuTests

open Shared

/-- The mode in `ddtp`. -/
inductive DdtpMode where
  | off | bare | oneLvl
  deriving DecidableEq

/-- An operation of a test. -/
inductive Op where
  /-- `set_iommu_off`, `set_iommu_bare` or `set_iommu_1lvl` -/
  | setMode (mode : DdtpMode)
  /-- One of the setters of the device contexts. -/
  | setDc (setter : DcSetter)
  /-- `s1pt_switch` -/
  | s1ptSwitch
  /-- `s2pt_switch` -/
  | s2ptSwitch
  /-- One of the command-issuing functions. -/
  | issue (call : DriverCall)
  /-- `idma_setup` or `idma_setup_addr`, and `idma_exec_transfer`. -/
  | transfer (src dst : Word)
  /-- `rv_iommu_dbg_set_iova`, `rv_iommu_dbg_set_go`, and the wait for the answer. -/
  | debug (iova : Word)
  deriving DecidableEq

/-- The operation launches requests of the device. -/
def Op.launches : Op → Bool
  | .transfer _ _ | .debug _ => true
  | _ => false

/-- The tests that drive the IOMMU. `rand` is what the calls of `rand` answer. -/
inductive Test where
  | iommuOff | iommuBare | bothStagesBare | secondStageOnly | twoStageTranslation | iotinval | wsiGeneration | iofence
  | msiGeneration | hpm | mrifSupport | dbgInterface
  | latencyTest (rand : Nat → Nat)

/-- `N_TRANSFERS` -/
def nTransfers : Nat := 200

/-- The virtual address of a page of the tests. -/
def virt (tp : TestPage) : Word := virtPageBase tp.index

/-- The physical address of a page of the tests. -/
def phys (tp : TestPage) : Word := physPageBase Config.platform tp.index

/-- `rv_iommu_ddt_inval(false, idma_ids[idma_idx])` -/
def ddtInvalAll : Op := .issue (.inval (.ddtInval false idmaId))

/-- The operations of a test. -/
def Test.ops : Test → List Op
  | .iommuOff => [.setMode .off, .transfer (virt .iommuOffR) (virt .iommuOffW)]
  | .iommuBare => [.setMode .bare, .transfer (phys .iommuBareR) (phys .iommuBareW)]
  | .bothStagesBare => [
      .setMode .oneLvl, .setDc .iosatpBare, .setDc .iohgatpBare,
      .transfer (phys .bareTransR1) (phys .bareTransW1),
      .transfer (phys .bareTransR2) (phys .bareTransW2)]
  | .secondStageOnly => [
      .setMode .oneLvl, .setDc .iosatpBare, .setDc .iohgatpSv39x4, .setDc .msiFlat, ddtInvalAll,
      .transfer (virt .s2OnlyR) (virt .s2OnlyW),
      .transfer (virt .msiR1) (virt .msiW1)]
  | .twoStageTranslation => [
      .setMode .oneLvl, .setDc .iosatpSv39, .setDc .iohgatpSv39x4, .setDc .msiFlat, ddtInvalAll,
      .transfer (virt .twoStageR4K) (virt .twoStageW4K),
      .transfer (virt .twoStageR2M) testVaddr2Mib,
      .transfer (virt .twoStageR1G) testVaddr1Gib,
      .transfer (virt .msiR2) (virt .msiW2)]
  | .iotinval => [
      .setMode .oneLvl, .setDc .iosatpSv39, .setDc .iohgatpSv39x4, .setDc .msiFlat,
      .transfer (virt .iotinvalR1) (virt .switch1),
      .transfer (virt .iotinvalR2) (virt .switch2),
      .s1ptSwitch,
      .issue (.inval (.iotinvalVma false true true 0 0xABC 0xDEF)),
      .transfer (virt .iotinvalR1) (virt .switch1),
      .transfer (virt .iotinvalR2) (virt .switch2),
      .s2ptSwitch,
      .issue (.inval (.iotinvalGvma false true 0 0xABC)),
      .transfer (virt .iotinvalR1) (virt .switch1),
      .transfer (virt .iotinvalR2) (virt .switch2)]
  | .wsiGeneration => [
      .setMode .oneLvl, .setDc .iosatpSv39, .setDc .iohgatpSv39x4, .setDc .msiFlat,
      .transfer (virt .wsiR) (virt .wsiW)]
  | .iofence => [.setMode .oneLvl, .issue (.iofenceC true true)]
  | .msiGeneration => [
      .setMode .oneLvl, .setDc .iosatpSv39, .setDc .iohgatpSv39x4, .setDc .msiFlat,
      .transfer (virt .msiGenR) (virt .msiGenW),
      .issue .induceFaultCq]
  | .hpm => [
      .setMode .oneLvl, .setDc .iosatpSv39, .setDc .iohgatpSv39x4, .setDc .msiFlat,
      .transfer (virt .hpmR) (virt .hpmW)]
  | .mrifSupport => [
      .setMode .oneLvl, .setDc .iosatpBare, .setDc .iohgatpSv39x4, .setDc .msiFlat, ddtInvalAll,
      .transfer (virt .msiR3) (virt .msiW3),
      .setDc .iosatpSv39, ddtInvalAll,
      .transfer (virt .msiR4) (virt .msiW4),
      .transfer (virt .msiR5) (virt .msiW5),
      .transfer (virt .msiR3) (virt .msiW3)]
  | .dbgInterface => [
      .setMode .oneLvl, .setDc .iosatpSv39, .setDc .iohgatpSv39x4, .setDc .msiFlat,
      .debug (virt .twoStageW4K), .debug testVaddr2Mib, .debug testVaddr1Gib, .debug (virt .msiW2)]
  | .latencyTest rand =>
      [.setMode .oneLvl, .setDc .iosatpSv39, .setDc .iohgatpSv39x4, ddtInvalAll,
        .issue (.inval (.iotinvalVma false false false 0 0 0)), .issue (.inval (.iotinvalGvma false false 0 0))] ++
      (List.range nTransfers).map fun i =>
        let ptIndex := rand i % nMappings
        .transfer (virtPageBase (ptIndex + stressStart)) (virtPageBase (ptIndex + stressStart) + 0x0800#64)

/-! ## Running the operations -/

/-- An access of a test: an operation that is done at once, the launch of requests, or a look whether they are done. -/
inductive TestAccess where
  | drive (o : Op)
  | start (o : Op)
  | finished

/-- What an access answers: whether the device has accepted the launch, and whether the requests are done. -/
@[reducible] def TestAccess.Answer : TestAccess → Type
  | .drive _ => Unit
  | .start _ => Bool
  | .finished => Bool

/-- The operations one after the other. A launch that the device does not accept is an `ERROR`, which ends the program. -/
def runOps : List Op → Prog TestAccess TestAccess.Answer Unit
  | [] => .ret ()
  | o :: os =>
    if o.launches then
      .act (.start o) fun accepted =>
        if accepted then .poll .finished (fun done => done) fun _ => runOps os else .ret ()
    else .act (.drive o) fun _ => runOps os

/-- The tests registered in `test_register.c`, one after the other. -/
def suite (ts : List Test) : Prog TestAccess TestAccess.Answer Unit := runOps (ts.flatMap Test.ops)

end RvIommuTests
