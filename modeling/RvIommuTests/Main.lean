import RvIommuTests.Latency
import RvIommuTests.Soc

/-!
# The whole program

`main`, with `init_iommu` and the tests, from the reset of the platform on. The registers are programmed one by one, in between
which the IOMMU may turn a queue on or off. Each of the functions that fill tables in memory is one access, as the switches are.
-/

namespace RvIommuTests

open Bytes Shared

/-! ## The program -/

/-- The functions that fill a table in memory. -/
inductive TableInit where
  /-- `s2pt_init` -/
  | s2pt
  /-- `s1pt_init` -/
  | s1pt
  /-- `msi_pt_init` -/
  | msiPt
  /-- `mrif_init` -/
  | mrif
  /-- `rv_iommu_ddt_init` -/
  | ddt

/-- The registers that say what an interrupt of the IOMMU is, with what is written to them. -/
inductive VectorReg where
  /-- `rv_iommu_set_msi_cfg_tbl_addr` -/
  | msiCfgTblAddr (i : Nat) (v : Word)
  /-- `rv_iommu_set_msi_cfg_tbl_data` -/
  | msiCfgTblData (i : Nat) (v : Word32)
  /-- `rv_iommu_set_icvec` -/
  | icvec (v : Word)

/-- An access of `main`. -/
inductive MainIo where
  /-- One that test functions make too. -/
  | test (i : TestIo)
  /-- A line that is printed from a log level on. -/
  | log (level : Int) (text : String)
  | fill (t : TableInit)
  | setVector (r : VectorReg)
  /-- `END` -/
  | finish

/-- What an access answers. -/
@[reducible] def MainIo.Answer : MainIo → Type
  | .test i => i.Answer
  | _ => Unit

/-- A piece of `main`. -/
abbrev MainFn (α : Type) : Type := Prog MainIo MainIo.Answer α

namespace MainFn

/-- A function that the tests call too. -/
def body {α : Type} (p : Body α) : MainFn α := p.embed (fun i => MainIo.test (.body i)) (fun _ r => r)

/-- A line of the log. -/
def log (level : Int) (text : String) : MainFn Unit := .call (MainIo.log level text)

/-- `INFO` -/
def info (text : String) : MainFn Unit := log logInfo text

/-- `VERBOSE` -/
def verbose (text : String) : MainFn Unit := log logVerbose ("VERBOSE: " ++ text)

/-- A function that fills a table. -/
def fill (t : TableInit) : MainFn Unit := .call (MainIo.fill t)

/-- A write to a register of the interrupts. -/
def setVector (r : VectorReg) : MainFn Unit := .call (MainIo.setVector r)

end MainFn

/-- `CQ_INT_VECTOR` -/
def cqIntVector : Nat := 3
/-- `FQ_INT_VECTOR` -/
def fqIntVector : Nat := 2
/-- `HPM_INT_VECTOR` -/
def hpmIntVector : Nat := 1

/-- `MSI_VCTL_CQ` -/
def msiVctlCq : Word32 := 1#32
/-- `MSI_VCTL_FQ` -/
def msiVctlFq : Word32 := 0#32
/-- `MSI_VCTL_HPM` -/
def msiVctlHpm : Word32 := 0#32

/-- An entry of the MSI configuration table is written. -/
def setMsiCfgTbl (i : Nat) (addr : Word) (data vctl : Word32) : MainFn Unit := do
  MainFn.setVector (.msiCfgTblAddr i addr)
  MainFn.setVector (.msiCfgTblData i data)
  MainFn.body (Body.dev (.setCtl32 (.msiCfgTblVctl i) vctl))

open MainFn in
/-- `init_iommu` -/
def initIommu (link : TestLink) : MainFn Unit := do
  info "Configuring CQ"
  body (Body.queue (rvIommuCqInit link.toLink))
  verbose "CQ: Interrupts enabled"
  info "Configuring FQ"
  body (Body.queue (rvIommuFqInit link.toLink))
  verbose "FQ: Interrupts enabled"
  info "Configuring second-stage page tables"
  fill .s2pt
  info "Configuring first-stage page tables"
  fill .s1pt
  info "Configuring MSI page tables and MRIF"
  fill .msiPt
  fill .mrif
  info "Configuring DDT"
  fill .ddt
  body (Body.setIommu link .off)
  info "Configuring IOMMU interrupts: MSI config table"
  info "Configuring IOMMU CQ interrupt"
  setMsiCfgTbl cqIntVector msiAddrCq msiDataCq msiVctlCq
  info "Configuring IOMMU FQ interrupt"
  setMsiCfgTbl fqIntVector msiAddrFq msiDataFq msiVctlFq
  info "Configuring IOMMU HPM interrupt"
  setMsiCfgTbl hpmIntVector msiAddrHpm msiDataHpm msiVctlHpm
  info "Configuring IGS to WSI"
  body Body.setIgWsi
  info "Setting up interrupt vectors"
  setVector (.icvec
    (BitVec.ofNat 64 hpmIntVector <<< 8 ||| BitVec.ofNat 64 fqIntVector <<< 4 ||| BitVec.ofNat 64 cqIntVector <<< 0))
  info "Configuring HPM"
  body hpmInit
  verbose "IOMMU off | iohgatp: Bare | iosatp: Bare | msiptp: Flat"

/-- `main` up to the loop over the tests. -/
def beforeTests (link : TestLink) : MainFn Unit := do
  MainFn.info "RISC-V Input/Output Memory Management Unit Tests"
  .call (MainIo.test .resetState)
  initIommu link

/-- The rest of `main`. It does not look at what a test returns. -/
def testsAndEnd (testTable : List TestFn) : MainFn Unit := do
  let _ ← (runTests testTable).embed MainIo.test (fun _ r => r)
  .call MainIo.finish

/-- `main` -/
def main (link : TestLink) (testTable : List TestFn) : MainFn Unit := do
  beforeTests link
  testsAndEnd testTable

/-! ## The platform from its reset on -/

namespace Soc

/-- What the platform does by itself. -/
inductive Settles (link : TestLink) : Soc → Soc → Prop where
  /-- The command queue turns on or off, or a command is fetched. -/
  | commandQueue (s : Soc) (io : Iommu) : CqStep s.io io → Settles link s { s with io := io }
  /-- The fault queue turns on after it was enabled. -/
  | faultQueueOn (s : Soc) : Enabled s.io.fqcsr → Settles link s { s with io := { s.io with fqcsr := s.io.fqcsr ||| csrOn } }
  /-- The fault queue turns off after it was disabled. -/
  | faultQueueOff (s : Soc) : ¬ Enabled s.io.fqcsr →
      Settles link s { s with io := { s.io with fqcsr := s.io.fqcsr &&& ~~~csrOn } }
  /-- Commands are carried out. -/
  | commands (s s' : Soc) : On s.io.cqcsr → Quiet link s s' → Settles link s s'

/-- The platform from its reset on. -/
def startWorld (link : TestLink) : World DevIo DevIo.Answer Soc where
  sem := (world link).sem
  env := Settles link

/-- The same platform, computed: it turns a queue on as soon as it is asked. -/
def startStep (link : TestLink) (c : Choice) : (i : DevIo) → Soc → Option (i.Answer × Soc)
  | .queue (.read32 .cqcsr), s =>
    if Enabled s.io.cqcsr then some (s.io.cqcsr ||| csrOn, { s with io := { s.io with cqcsr := s.io.cqcsr ||| csrOn } }) else none
  | .queue (.read32 .fqcsr), s =>
    if Enabled s.io.fqcsr then some (s.io.fqcsr ||| csrOn, { s with io := { s.io with fqcsr := s.io.fqcsr ||| csrOn } }) else none
  | .setCtl64 (.iohpmevt _) _, s => some ((), s)
  | i, s => step link c i s

/-- The platform after its reset and the boot code. What is in the registers of the tables and of the transfers is anything. -/
structure Reset (link : TestLink) (s : Soc) : Prop where
  tables : TablesZeroed link.toLink s.io.mem
  cqcsr : s.io.cqcsr = 0#32
  fqcsr : s.io.fqcsr = 0#32
  cqh : s.io.cqh.toNat % 64 = 0
  fqt : s.io.fqt.toNat % 64 = 0
  fetched : s.io.fetched = []
  accepted : s.io.accepted = []
  recording : s.io.recording = none
  fip : s.fip = false
  trReqCtl : s.trReqCtl = 0#64

/-- The memory is changed by a function of the program. -/
def onMem (s : Soc) (f : Mem → Mem) : Soc := { s with io := { s.io with mem := f s.io.mem } }

/-- A table is filled. -/
def fill (link : TestLink) (s : Soc) : TableInit → Soc
  | .s2pt => s.onMem (s2ptInit .platform link.toLink)
  | .s1pt => s.onMem (s1ptInit .platform link.toLink)
  | .msiPt => { s with msiPt := msiPtInit link.mrif s.msiPt }
  | .mrif => s.onMem (mrifInit link.mrif)
  | .ddt => { s with rootDdt := rvIommuDdtInit DdtConfig.platform link.toLink s.rootDdt }

end Soc

/-- A line is printed. -/
def Bench.log {δ : Type} (logLevel level : Int) (text : String) (b : Bench δ) : Bench δ :=
  if logLevel ≥ level then { b with harness := b.harness.print (.info text) } else b

/-- `main` on the platform. What an interrupt is does not matter to it. -/
def mainWorld (logLevel : Int) (img : Image) (link : TestLink) : World MainIo MainIo.Answer (Bench Soc) where
  sem
    | .test i, b, r, b' => (testWorld logLevel img (Soc.startWorld link)).sem i b r b'
    | .log level text, b, _, b' => b' = b.log logLevel level text
    | .fill t, b, _, b' => b' = { b with dev := b.dev.fill link t }
    | .setVector _, b, _, b' => b' = b
    | .finish, b, _, b' => b' = { b with harness := b.harness.finish }
  env := (testWorld logLevel img (Soc.startWorld link)).env

/-- The run of `main` when the platform does nothing by itself but turn the queues on. -/
def mainStep (logLevel : Int) (img : Image) (link : TestLink) (c : Soc.Choice) :
    (i : MainIo) → Bench Soc → Option (i.Answer × Bench Soc)
  | .test i, b => testStep logLevel img (Soc.startStep link c) i b
  | .log level text, b => some ((), b.log logLevel level text)
  | .fill t, b => some ((), { b with dev := b.dev.fill link t })
  | .setVector _, b => some ((), b)
  | .finish, b => some ((), { b with harness := b.harness.finish })

/-- The bench when `main` is called. -/
def Bench.atReset (s : Soc) (sys : Sys) : Bench Soc := ⟨s, Harness.boot, true, sys, []⟩

end RvIommuTests
