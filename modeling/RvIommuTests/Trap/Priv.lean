import RvIommuTests.Lib.Hart
import RvIommuTests.Platform

/-!
# Privilege tracking

`goto_priv`, the three trap handlers and `reset_state` of `rvh_test.c`, run on a hart: a request for a higher mode makes an
`ecall`, whose handler calls `goto_priv` again, and so on up. The recursion goes through the hart's traps, so `gotoPriv` counts
its nested activations with fuel.

The code stops for one of four reasons (`Stop`): an `ERROR` message, an access or a return instruction that the mode does not
allow, a return to an address other than the one after the instruction that was left, or no fuel.
-/

namespace RvIommuTests

open Riscv

/-! ## `rvh_test.h` -/

/-- `PRIV_VU` -/
def privVU : Word32 := 0#32
/-- `PRIV_HU` -/
def privHU : Word32 := 1#32
/-- `PRIV_VS` -/
def privVS : Word32 := 2#32
/-- `PRIV_HS` -/
def privHS : Word32 := 3#32
/-- `PRIV_M` -/
def privM : Word32 := 4#32
/-- `PRIV_MAX` -/
def privMax : Word32 := 5#32

/-- The number of a mode in `enum priv`. -/
def priv : Mode → Word32
  | .vu => privVU
  | .hu => privHU
  | .vs => privVS
  | .hs => privHS
  | .m => privM

/-- `ECALL_GOTO_PRIV` -/
def ecallGotoPriv : Word := 1#64

/-- `struct exception` -/
structure Excpt where
  testing : Bool
  triggered : Bool
  priv : Word32
  cause : Word
  epc : Word
  tval : Word
  tinst : Word
  tval2 : Word
  gva : Bool
  xpv : Bool
  faultInst : Word

/-- What the linker and the compiler fixed: the halfwords of the code, the trap entries, and the addresses of the `ecall` and of
the labels behind `mret` and `sret` in `lower_priv`. -/
structure Image where
  text : Word → BitVec 16
  mhandlerEntry : Word
  hshandlerEntry : Word
  vshandlerEntry : Word
  ecallPc : Word
  mretLabel : Word
  sretLabel : Word
  /-- The entries are different functions. -/
  entries : mhandlerEntry ≠ hshandlerEntry ∧ mhandlerEntry ≠ vshandlerEntry ∧ hshandlerEntry ≠ vshandlerEntry
  /-- `ecall` is not a compressed instruction. -/
  ecall_text : text ecallPc &&& 3#16 = 3#16
  /-- Code is aligned to halfwords. -/
  even : ecallPc.getLsbD 0 = false ∧ mretLabel.getLsbD 0 = false ∧ sretLabel.getLsbD 0 = false

/-- The hart and the globals of `rvh_test.c`. -/
structure Sys where
  hart : Hart
  currPriv : Word32
  realPriv : Word32
  /-- `goto_priv`'s `on_going`. -/
  onGoing : Bool
  excpt : Excpt
  ecallArgs : Word × Word

/-- Why the code stops. -/
inductive Stop where
  /-- `ERROR` -/
  | error (msg : String)
  /-- The mode does not allow the access or the instruction. -/
  | illegal
  /-- Control went elsewhere. -/
  | wild (pc : Word)
  /-- More nested activations of `goto_priv` than the fuel allows. -/
  | outOfFuel
  deriving DecidableEq

/-- A piece of code. -/
abbrev Exec : Type → Type := StateT Sys (Except Stop)

/-! ## Instructions -/

/-- `CSRR` -/
def csrr (c : Csr) : Exec Word := fun s =>
  match s.hart.read c with
  | some v => .ok (v, s)
  | none => .error .illegal

/-- `CSRW` -/
def csrw (c : Csr) (v : Word) : Exec Unit := fun s =>
  match s.hart.write c v with
  | some h => .ok ((), { s with hart := h })
  | none => .error .illegal

/-- `CSRS` -/
def csrs (c : Csr) (v : Word) : Exec Unit := do
  let old ← csrr c
  csrw c (old ||| v)

/-- `CSRC` -/
def csrc (c : Csr) (v : Word) : Exec Unit := do
  let old ← csrr c
  csrw c (old &&& ~~~v)

/-- `mret`, with the address it jumps to. -/
def mret : Exec Word := fun s =>
  match s.hart.mret with
  | some (h, pc) => .ok (pc, { s with hart := h })
  | none => .error .illegal

/-- `sret`, with the address it jumps to. -/
def sret : Exec Word := fun s =>
  match s.hart.sret with
  | some (h, pc) => .ok (pc, { s with hart := h })
  | none => .error .illegal

/-- The code goes on at `label` after a jump to `pc`. -/
def resume (label pc : Word) : Exec Unit := if pc = label then pure () else throw (.wild pc)

/-- `ERROR` -/
def error (msg : String) : Exec Unit := throw (.error msg)

/-! ## Lowering the privilege -/

/-- `is_user` -/
def isUser (priv : Word32) : Bool := priv == privVU || priv == privHU

/-- `set_prev_priv` -/
def setPrevPriv (priv : Word32) : Exec Unit := do
  let s ← get
  if s.currPriv = privM then
    let temp ← csrr .mstatus
    let temp := temp &&& ~~~((3#64 <<< 11) ||| (1#64 <<< 39))
    let temp := if priv = privVS ∨ priv = privHS then temp ||| (1#64 <<< 11) else temp
    let temp := if priv = privVU ∨ priv = privVS then temp ||| (1#64 <<< 39) else temp
    csrw .mstatus temp
  else if s.currPriv = privHS then
    let temp ← csrr .sstatus
    let temp := temp &&& ~~~(1#64 <<< 8)
    let temp := if priv = privHS ∨ priv = privVS then temp ||| (1#64 <<< 8) else temp
    csrw .sstatus temp
    let temp ← csrr .hstatus
    let temp := temp &&& ~~~(3#64 <<< 7)
    let temp := if priv = privVS then temp ||| (1#64 <<< 8) else temp
    let temp := if priv = privVU ∨ priv = privVS then temp ||| (1#64 <<< 7) else temp
    csrw .hstatus temp
  else if s.currPriv = privVS then
    let _ ← csrr .sstatus
    csrc .sstatus (1#64 <<< 8)
  else
    error "unknown current priv %d (%s)\n"

/-- `lower_priv` -/
def lowerPriv (img : Image) (priv : Word32) : Exec Unit := do
  let s ← get
  if priv = s.currPriv then
    return
  if s.currPriv ≤ priv then
    error "trying to \"lower\" to a higher priv"
  if s.currPriv = privVS ∧ priv = privHU then
    error "trying to go from vs to hu"
  setPrevPriv priv
  modify fun s => { s with realPriv := priv }
  if s.currPriv = privM then
    csrw .mepc img.mretLabel
    let pc ← mret
    resume img.mretLabel pc
  else if s.currPriv = privVS ∨ s.currPriv = privHS then
    csrw .sepc img.sretLabel
    let pc ← sret
    resume img.sretLabel pc
  else
    error "cant lower priv from u"
  modify fun s => { s with currPriv := priv }

/-! ## Trap handlers -/

/-- `is_inst_fault`: `CAUSE_IAM`, `CAUSE_IAF`, `CAUSE_IPF` and `CAUSE_IGPF`. -/
def isInstFault (cause : Word) : Bool := cause == 0#64 || cause == 1#64 || cause == 12#64 || cause == 20#64

/-- `is_ecall`: `CAUSE_ECU`, `CAUSE_ECS`, `CAUSE_ECV` and `CAUSE_ECM`. -/
def isEcall (cause : Word) : Bool := cause == 8#64 || cause == 9#64 || cause == 10#64 || cause == 11#64

/-- The trap is an interrupt: `cause & (1ULL << 63)`. -/
def isInterrupt (cause : Word) : Bool := cause &&& (1#64 <<< 63) != 0#64

/-- `1ULL << (cause & ~(1ULL << 63))`. The shift instruction takes the lowest six bits of the amount. -/
def interruptBit (cause : Word) : Word := 1#64 <<< ((cause &&& ~~~(1#64 <<< 63)).toNat % 64)

/-- `next_instruction` -/
def nextInstruction (img : Image) (epc : Word) : Word := if img.text epc &&& 3#16 = 3#16 then epc + 4#64 else epc + 2#64

/-- `return_from_exception`. The case of HS falls through to the one of VS. -/
def returnFromException (img : Image) (fromPriv toPriv : Word32) (cause epc : Word) : Exec Word := do
  if fromPriv = privM then
    let temp ← csrr .mstatus
    let temp := temp &&& ~~~((3#64 <<< 11) ||| (1#64 <<< 39) ||| (1#64 <<< 7))
    let temp := if toPriv = privM then temp ||| (3#64 <<< 11) else temp
    let temp := if toPriv = privVS ∨ toPriv = privHS then temp ||| (1#64 <<< 11) else temp
    let temp := if toPriv = privVU ∨ toPriv = privVS then temp ||| (1#64 <<< 39) else temp
    csrw .mstatus temp
    if !isInterrupt cause then
      csrw .mepc (nextInstruction img epc)
  else
    if fromPriv = privHS then
      let temp ← csrr .hstatus
      let temp := temp &&& ~~~(1#64 <<< 7)
      let temp := if toPriv = privVU ∨ toPriv = privVS then temp ||| (1#64 <<< 7) else temp
      csrw .hstatus temp
    if fromPriv = privHS ∨ fromPriv = privVS then
      let temp ← csrr .sstatus
      let temp := temp &&& ~~~((1#64 <<< 8) ||| (1#64 <<< 5))
      let temp := if toPriv = privVS ∨ toPriv = privHS then temp ||| (1#64 <<< 8) else temp
      csrw .sstatus temp
      if !isInterrupt cause then
        csrw .sepc (nextInstruction img epc)
  return fromPriv.setWidth 64

/-- The end of every handler: the return address of an instruction fault, and `return_from_exception`. -/
def leaveHandler (img : Image) (cause epc : Word) : Exec Word := do
  let s ← get
  if isInstFault cause ∧ s.excpt.faultInst = 0#64 then
    error "instruction fault without return address"
  let epc := if isInstFault cause then s.excpt.faultInst else epc
  modify fun s => { s with excpt := { s.excpt with faultInst := 0#64 } }
  let s ← get
  let tempPriv := s.realPriv
  modify fun s => { s with realPriv := s.currPriv }
  returnFromException img tempPriv s.currPriv cause epc

/-- `mhandler`. `gotoPriv` is the function of that name. -/
def mhandler (img : Image) (gotoPriv : Word32 → Exec Unit) : Exec Word := do
  modify fun s => { s with realPriv := privM }
  let cause ← csrr .mcause
  let epc ← csrr .mepc
  let tval ← csrr .mtval
  let tval2 ← csrr .mtval2
  let tinst ← csrr .mtinst
  let s ← get
  if isEcall cause ∧ s.ecallArgs.1 = ecallGotoPriv then
    gotoPriv (s.ecallArgs.2.setWidth 32)
  else if !s.excpt.testing then
    error "untested exception!"
  if isInterrupt cause then
    csrc .mip (interruptBit cause)
  let status ← csrr .mstatus
  modify fun s => { s with excpt := { s.excpt with
    triggered := true, priv := privM, cause := cause, epc := epc, tval := tval, tinst := tinst, tval2 := tval2,
    gva := status.getLsbD 38, xpv := status.getLsbD 39, testing := false } }
  leaveHandler img cause epc

/-- `hshandler` -/
def hshandler (img : Image) (gotoPriv : Word32 → Exec Unit) : Exec Word := do
  modify fun s => { s with realPriv := privHS }
  let cause ← csrr .scause
  let epc ← csrr .sepc
  let tval ← csrr .stval
  let htval ← csrr .htval
  let htinst ← csrr .htinst
  let s ← get
  if isEcall cause ∧ s.ecallArgs.1 = ecallGotoPriv then
    gotoPriv (s.ecallArgs.2.setWidth 32)
  else if isEcall cause then
    error "unknown ecall"
  else if !s.excpt.testing then
    error "untested exception!"
  if isInterrupt cause then
    csrc .sip (interruptBit cause)
    csrc .hip (interruptBit cause)
  let status ← csrr .hstatus
  modify fun s => { s with excpt := { s.excpt with
    triggered := true, priv := privHS, cause := cause, epc := epc, tval := tval, tinst := htinst, tval2 := htval,
    gva := status.getLsbD 6, xpv := status.getLsbD 7, testing := false } }
  leaveHandler img cause epc

/-- `vshandler`. It leaves `tinst`, `tval2`, `gva` and `xpv` as they were. -/
def vshandler (img : Image) (gotoPriv : Word32 → Exec Unit) : Exec Word := do
  modify fun s => { s with realPriv := privVS }
  let cause ← csrr .scause
  let epc ← csrr .sepc
  let tval ← csrr .stval
  let s ← get
  if isEcall cause ∧ s.ecallArgs.1 = ecallGotoPriv then
    gotoPriv (s.ecallArgs.2.setWidth 32)
  else if !s.excpt.testing then
    error "untested exception!"
  if isInterrupt cause then
    csrc .sip (interruptBit cause)
  modify fun s => { s with excpt := { s.excpt with
    triggered := true, priv := privVS, cause := cause, epc := epc, tval := tval, testing := false } }
  leaveHandler img cause epc

/-! ## Going to a mode -/

/-- The handler at a trap vector, up to the return instruction that its answer chooses; its answer is the address returned to. -/
def trapAt (img : Image) (gotoPriv : Word32 → Exec Unit) (vector : Word) : Exec Word := do
  let fromPriv ←
    if vector = img.mhandlerEntry then mhandler img gotoPriv
    else if vector = img.hshandlerEntry then hshandler img gotoPriv
    else if vector = img.vshandlerEntry then vshandler img gotoPriv
    else throw (.wild vector)
  if fromPriv = 4#64 then mret else sret

/-- `ecall` -/
def ecall (img : Image) (gotoPriv : Word32 → Exec Unit) (a0 a1 : Word) : Exec Word := do
  modify fun s => { s with ecallArgs := (a0, a1) }
  modify fun s => { s with hart := s.hart.ecall img.ecallPc }
  let s ← get
  let pc ← trapAt img gotoPriv s.hart.tvec
  resume (img.ecallPc + 4#64) pc
  let s ← get
  return s.ecallArgs.1

/-- `goto_priv`, with at most `fuel` nested activations. -/
def gotoPriv (img : Image) : Nat → Word32 → Exec Unit
  | 0, _ => throw .outOfFuel
  | fuel + 1, targetPriv => do
    let s ← get
    if isUser targetPriv ∧ isUser s.currPriv then
      gotoPriv img fuel privM
    let s ← get
    -- the target is signed here, and unsigned below
    if s.realPriv = targetPriv ∨ privMax.sle targetPriv then
      modify fun s => { s with onGoing := false, currPriv := targetPriv }
    else
      modify fun s => { s with onGoing := true }
      if s.currPriv < targetPriv then
        let _ ← ecall img (gotoPriv img fuel) ecallGotoPriv (targetPriv.signExtend 64)
      else
        modify fun s => { s with onGoing := false }
        lowerPriv img targetPriv

/-- Calls of `goto_priv` one after the other. -/
def gotoAll (img : Image) (fuel : Nat) : List Mode → Exec Unit
  | [] => pure ()
  | t :: ts => do
    gotoPriv img fuel (priv t)
    gotoAll img fuel ts

/-- `reset_state`. The CSRs that no trap and no return reads are left out. -/
def resetState (img : Image) (fuel : Nat) : Exec Unit := do
  gotoPriv img fuel privM
  csrw .mstatus 0#64
  csrw .medeleg 0#64
  csrw .mideleg 0#64
  csrw .mip 0#64
  csrw .mepc 0#64
  csrw .mtval 0#64
  csrw .mtinst 0#64
  csrw .mtval2 0#64
  csrw .sstatus 0#64
  csrw .sip 0#64
  csrw .sepc 0#64
  csrw .scause 0#64
  csrw .stval 0#64
  csrw .hstatus 0#64
  csrw .hideleg 0#64
  csrw .hedeleg 0#64
  csrw .hip 0#64
  csrw .htval 0#64
  csrw .htinst 0#64
  csrw .vsstatus 0#64
  csrw .vsip 0#64
  csrw .vsepc 0#64
  csrw .vscause 0#64
  csrw .vstval 0#64
  csrw .mtvec img.mhandlerEntry
  csrs .medeleg ((1#64 <<< 8) ||| (1#64 <<< 10))
  csrw .stvec img.hshandlerEntry
  csrs .hedeleg (1#64 <<< 8)
  csrw .vstvec img.vshandlerEntry

end RvIommuTests
