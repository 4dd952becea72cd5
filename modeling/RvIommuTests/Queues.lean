import RvIommuTests.Iommu

/-!
# The driver of the two queues

The functions of `rv_iommu.c` that drive the command queue and the fault queue, access by access.
-/

namespace RvIommuTests

open Bytes Shared

/-- A function of the driver. -/
abbrev Driver (α : Type) : Type := Prog Access Access.Answer α

/-- `read32` of a register. -/
def read32 (r : Reg32) : Driver Word32 := .call (Access.read32 r)

/-- `write32` to a register. -/
def write32 (r : Reg32) (v : Word32) : Driver Unit := .call (Access.write32 r v)

/-- `write64` to a register. -/
def writeReg64 (r : Reg64) (v : Word) : Driver Unit := .call (Access.writeReg64 r v)

/-- `read64` from memory. -/
def read64 (a : Addr) : Driver Word := .call (Access.read64 a)

/-- `write64` to memory. -/
def write64 (a : Addr) (v : Word) : Driver Unit := .call (Access.write64 a v)

/-! ## The constants of the queues -/

/-- `CQ_N_ENTRIES`, `FQ_N_ENTRIES` -/
def nEntries : Nat := 64

/-- `CQ_LOG2SZ_1`, `FQ_LOG2SZ_1` -/
def log2Sz1 : Word := 5#64

/-- `CQB_PPN_MASK`, `FQB_PPN_MASK` -/
def qbPpnMask : Word := 0x3FFFFFFFFFFC00#64

/-- `CQ_PPN_MASK`, `FQ_PPN_MASK` -/
def ppnMask : Word := 0xFFFFFFFFFFF000#64

/-- `CQCSR_CQEN | CQCSR_CIE`, `FQCSR_FQEN | FQCSR_FIE` -/
def csrEnable : Word32 := (1#32 <<< 0) ||| (1#32 <<< 1)

/-- What the driver programs in the base register of a queue. -/
def qbOf (queue : Addr) : Word := ((queue >>> 2) &&& qbPpnMask) ||| log2Sz1

/-! ## The command queue -/

/-- `rv_iommu_write_command_in_queue`. The head is not read. -/
def rvIommuWriteCommandInQueue (link : Link) (newCmd : Command) : Driver Unit := do
  let cqt ← read32 .cqt
  let cqEntryBase := (link.commandQueue &&& ppnMask) ||| (cqt <<< 4).setWidth 64
  write64 cqEntryBase newCmd.dw0
  write64 (cqEntryBase + 8#64) newCmd.dw1
  write32 .cqt (cqt + 1#32)

/-- `rv_iommu_cq_init` -/
def rvIommuCqInit (link : Link) : Driver Unit := do
  writeReg64 .cqb (qbOf link.commandQueue)
  let cqh ← read32 .cqh
  write32 .cqt cqh
  write32 .cqcsr csrEnable
  .waitFor (Access.read32 .cqcsr) (fun csr => csr &&& csrOn != 0#32)

/-- A command-issuing function of the driver, called on a stack that holds `newCmd`. -/
def DriverCall.run (link : Link) (newCmd : Command) (c : DriverCall) : Driver Unit :=
  rvIommuWriteCommandInQueue link (c.command newCmd)

/-- Calls one after the other, each with what its stack held. -/
def issueAll (link : Link) : List (Command × DriverCall) → Driver Unit
  | [] => pure ()
  | (newCmd, c) :: cs => do
    c.run link newCmd
    issueAll link cs

/-! ## The fault queue -/

/-- `rv_iommu_fq_init` -/
def rvIommuFqInit (link : Link) : Driver Unit := do
  writeReg64 .fqb (qbOf link.faultQueue)
  let fqt ← read32 .fqt
  write32 .fqh fqt
  write32 .fqcsr csrEnable
  .waitFor (Access.read32 .fqcsr) (fun csr => csr &&& csrOn != 0#32)

/-- `rv_iommu_fq_read_record`: the status and the buffer. -/
def rvIommuFqReadRecord (link : Link) (buf : Record) : Driver (Int × Record) := do
  let fqh ← read32 .fqh
  let fqt ← read32 .fqt
  if fqh ≠ fqt then
    let fqEntryBase := (link.faultQueue &&& ppnMask) ||| (fqh <<< 5).setWidth 64
    let dw0 ← read64 (fqEntryBase + 0#64)
    let dw1 ← read64 (fqEntryBase + 8#64)
    let dw2 ← read64 (fqEntryBase + 16#64)
    let dw3 ← read64 (fqEntryBase + 24#64)
    write32 .fqh (fqh + 1#32)
    pure (0, { dw0 := dw0, dw1 := dw1, dw2 := dw2, dw3 := dw3 })
  else
    pure (-1, buf)

/-- Calls one after the other, each with its buffer. -/
def readAll (link : Link) : List Record → Driver (List (Int × Record))
  | [] => pure []
  | buf :: bufs => do
    let r ← rvIommuFqReadRecord link buf
    let rs ← readAll link bufs
    pure (r :: rs)

/-- The buffers that calls returned with status 0. -/
def returned (rs : List (Int × Record)) : List Record := (rs.filter (fun r => r.1 = 0)).map Prod.snd

end RvIommuTests
