import RvIommuTests.Trap.Priv

/-!
# Traps and their handlers

A trap of any kind into one of the three handlers, with what the handler accepts and where the code is meant to go on. The
conditions and the address are stated here on their own: they are not translated from the handlers.
-/

namespace RvIommuTests

open Riscv

/-- The handler of a mode. -/
def handler (img : Image) (gotoPriv : Word32 → Exec Unit) : Mode → Exec Word
  | .m => mhandler img gotoPriv
  | .hs => hshandler img gotoPriv
  | _ => vshandler img gotoPriv

/-- A trap into a mode. -/
def Sys.trapTo (s : Sys) (t : Hart.Trap) (f : Mode) : Sys := { s with hart := s.hart.trapTo t f }

/-- The return instruction that the answer of a handler chooses, and the address it jumps to. -/
def returnBy (answer : Word) (h : Hart) : Option (Hart × Word) := if answer = 4#64 then h.mret else h.sret

/-- The handler of a mode accepts a trap that is not a request of `goto_priv`: a test has set it up, it is not an `ecall` to HS,
and an instruction fault has a return address. -/
structure Accepted (s : Sys) (t : Hart.Trap) (f : Mode) : Prop where
  request : ¬ (isEcall t.cause = true ∧ s.ecallArgs.1 = ecallGotoPriv)
  testing : s.excpt.testing = true
  ecall : f = .hs → isEcall t.cause = false
  fault : isInstFault t.cause = true → s.excpt.faultInst ≠ 0#64

/-- Where the code goes on after a trap: where it was for an interrupt, behind `fault_inst` for an instruction fault, and behind
the instruction that trapped otherwise. -/
def resumeAt (img : Image) (t : Hart.Trap) (faultInst : Word) : Word :=
  if isInterrupt t.cause then t.epc
  else if isInstFault t.cause then nextInstruction img faultInst
  else nextInstruction img t.epc

/-! ## The record of a trap -/

/-- Two records agree in what a test sets up. What the traps before have left in them may differ. -/
def SameSetup (e x : Excpt) : Prop := x.testing = e.testing ∧ x.faultInst = e.faultInst

/-- Two records report the same trap. -/
structure SameReport (e x : Excpt) : Prop where
  triggered : x.triggered = e.triggered
  priv : x.priv = e.priv
  cause : x.cause = e.cause
  epc : x.epc = e.epc
  tval : x.tval = e.tval
  tinst : x.tinst = e.tinst
  tval2 : x.tval2 = e.tval2
  gva : x.gva = e.gva
  xpv : x.xpv = e.xpv

/-- The handlers that `reset_state` installs in M and HS mode. -/
def Installed (img : Image) (h : Hart) : Prop := h.mtvec = img.mhandlerEntry ∧ h.stvec = img.hshandlerEntry

/-- A request of `goto_priv` made in VS mode makes an `ecall`: it goes between two user modes, or up from `curr_priv` to a mode
that is not reached yet. -/
def GoesUp (targetPriv currPriv : Word32) : Prop :=
  (isUser targetPriv = true ∧ isUser currPriv = true) ∨
    (targetPriv ≠ privVS ∧ privMax.sle targetPriv = false ∧ currPriv < targetPriv)

/-- The trap carries a request that goes up from VS mode. -/
def Forwards (s : Sys) (cause : Word) : Prop :=
  isEcall cause = true ∧ s.ecallArgs.1 = ecallGotoPriv ∧ GoesUp (s.ecallArgs.2.setWidth 32) s.currPriv

end RvIommuTests
