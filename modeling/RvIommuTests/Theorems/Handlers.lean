import RvIommuTests.Trap.Handlers
import RvIommuTests.Theorems.Goto

/-!
# The way back from a trap

Each handler that accepts a trap records it and leaves, and the status bits that it leaves with make the return instruction go
back to the mode that was interrupted.
-/

namespace RvIommuTests

open Riscv PrivAux

namespace HandlersAux

variable {img : Image} {s : Sys} {goto : Word32 → Exec Unit}

/-- `mhandler` on a trap that it accepts: it clears a pending interrupt, records the trap, and leaves. -/
theorem mhandler_accepts (hm : s.hart.mode = .m) (ht : s.excpt.testing = true)
    (hr : ¬ (isEcall s.hart.mcause = true ∧ s.ecallArgs.1 = ecallGotoPriv)) :
    ∃ p x, mhandler img goto s = leaveHandler img s.hart.mcause s.hart.mepc
        { s with hart := { s.hart with mip := p }, realPriv := privM, excpt := x } ∧
      x.testing = false ∧ x.faultInst = s.excpt.faultInst := by
  cases hi : isInterrupt s.hart.mcause with
  | false =>
    simp only [mhandler, bind_run, get_run, modify_run, csrr, Hart.read, hm, Csr.resolve, Option.map_some, Hart.get, if_neg hr,
      ht, hi, Bool.not_true, Bool.false_eq_true, if_false]
    rw [← hm]
    exact ⟨s.hart.mip, _, rfl, rfl, rfl⟩
  | true =>
    simp only [mhandler, bind_run, get_run, modify_run, csrr, csrc, csrw, Hart.read, Hart.write, hm, Csr.resolve,
      Option.map_some, Hart.get, Hart.put, if_neg hr, ht, hi, Bool.not_true, Bool.false_eq_true, if_false, if_true]
    exact ⟨_, _, rfl, rfl, rfl⟩

/-- On a trap that it accepts, `hshandler` records the trap and leaves for the address that the trap came from. -/
theorem hshandler_accepts (hm : s.hart.mode = .hs) (ht : s.excpt.testing = true) (he : isEcall s.hart.scause = false) :
    ∃ p x, hshandler img goto s = leaveHandler img s.hart.scause s.hart.sepc
        { s with hart := { s.hart with mip := p }, realPriv := privHS, excpt := x } ∧
      x.testing = false ∧ x.faultInst = s.excpt.faultInst := by
  cases hi : isInterrupt s.hart.scause with
  | false =>
    simp only [hshandler, bind_run, get_run, modify_run, csrr, Hart.read, hm, Csr.resolve, Option.map_some, Hart.get, he, ht,
      hi, Bool.not_true, Bool.false_eq_true, false_and, if_false]
    rw [← hm]
    exact ⟨s.hart.mip, _, rfl, rfl, rfl⟩
  | true =>
    simp only [hshandler, bind_run, get_run, modify_run, csrr, csrc, csrw, Hart.read, Hart.write, hm, Csr.resolve,
      Option.map_some, Hart.get, Hart.put, he, ht, hi, Bool.not_true, Bool.false_eq_true, false_and, if_false, if_true]
    exact ⟨_, _, rfl, rfl, rfl⟩

/-- On a trap that it accepts, `vshandler` records the trap and leaves for the address that the trap came from. -/
theorem vshandler_accepts (hm : s.hart.mode = .vs) (ht : s.excpt.testing = true)
    (hr : ¬ (isEcall s.hart.vscause = true ∧ s.ecallArgs.1 = ecallGotoPriv)) :
    ∃ p x, vshandler img goto s = leaveHandler img s.hart.vscause s.hart.vsepc
        { s with hart := { s.hart with mip := p }, realPriv := privVS, excpt := x } ∧
      x.testing = false ∧ x.faultInst = s.excpt.faultInst := by
  cases hi : isInterrupt s.hart.vscause with
  | false =>
    simp only [vshandler, bind_run, get_run, modify_run, csrr, Hart.read, hm, Csr.resolve, Option.map_some, Hart.get, if_neg hr,
      ht, hi, Bool.not_true, Bool.false_eq_true, if_false]
    rw [← hm]
    exact ⟨s.hart.mip, _, rfl, rfl, rfl⟩
  | true =>
    simp only [vshandler, bind_run, get_run, modify_run, csrr, csrc, csrw, Hart.read, Hart.write, hm, Csr.resolve,
      Option.map_some, Hart.get, Hart.put, if_neg hr, ht, hi, Bool.not_true, Bool.false_eq_true, if_false, if_true]
    exact ⟨_, _, rfl, rfl, rfl⟩

/-- The handler of a mode on a trap that it accepts. -/
theorem handler_accepts {f : Mode} (hf : f = .m ∨ f = .hs ∨ f = .vs) {t : Hart.Trap} (ha : Accepted s t f) :
    ∃ p x, handler img goto f (s.trapTo t f) = leaveHandler img t.cause t.epc
        { s with hart := { s.hart.trapTo t f with mip := p }, realPriv := priv f, excpt := x } ∧
      x.testing = false ∧ x.faultInst = s.excpt.faultInst := by
  rcases hf with rfl | rfl | rfl
  · exact mhandler_accepts (s := s.trapTo t .m) rfl ha.testing ha.request
  · exact hshandler_accepts (s := s.trapTo t .hs) rfl ha.testing (ha.ecall rfl)
  · exact vshandler_accepts (s := s.trapTo t .vs) rfl ha.testing ha.request

/-- What `return_from_exception` leaves in the exception program counter is where the code is meant to go on. -/
theorem returnEpc_eq (t : Hart.Trap) (faultInst : Word) :
    returnEpc img t.cause (leaveEpc t.cause t.epc faultInst) t.epc =
      if isInterrupt t.cause then resumeAt img t faultInst else resumeAt img t faultInst &&& ~~~1#64 := by
  unfold returnEpc resumeAt leaveEpc
  split
  · rfl
  · split <;> rfl

theorem mode_trapTo {h : Hart} {f c : Mode} (t : Hart.Trap) (hret : CanReturn f c) : (h.trapTo t f).mode = f := by
  cases f with
  | m => rfl
  | hs => rfl
  | vs => rfl
  | vu => exact absurd hret id
  | hu => exact absurd hret id

/-- A trap records its address in the register that the handler of its mode reads. -/
theorem epcIn_trapTo {h : Hart} {p : Word} {f c : Mode} (t : Hart.Trap) (hret : CanReturn f c) :
    epcIn { h.trapTo t f with mip := p } f = t.epc := by
  cases f with
  | m => rfl
  | hs => rfl
  | vs => rfl
  | vu => exact absurd hret id
  | hu => exact absurd hret id

/-- A trap leaves TSR and VTSR as they were, so a handler may return where it may have before. -/
theorem mayReturn_trapTo {h h' : Hart} {p : Word} {f : Mode} {t : Hart.Trap} (hmay : h.MayReturn f)
    (hsame : SameConf { h.trapTo t f with mip := p } h') : h'.MayReturn f := by
  cases f with
  | m => exact trivial
  | hs =>
    have htsr : (h.trapHS t).mstatus.getLsbD 22 = h.mstatus.getLsbD 22 := by simp [Hart.trapHS]
    exact hsame.tsr.trans (htsr.trans hmay)
  | _ => exact hsame.vtsr.trans hmay

/-- The answer of a handler chooses the return instruction of its mode, which goes where the bits say. -/
theorem returnBy_run {h : Hart} {f c : Mode} (hm : h.mode = f) (hr : h.ReturnsTo f c) (hmay : h.MayReturn f) :
    ∃ h', returnBy ((priv f).setWidth 64) h = some (h', epcIn h f) ∧ h'.mode = c := by
  cases f with
  | m => exact ⟨_, Hart.mret_eq hm, Hart.afterMret_mode hr⟩
  | hs => exact ⟨_, Hart.sret_eq_hs hm hmay, Hart.afterSret_mode hr⟩
  | vs => exact ⟨_, Hart.sret_eq_vs hm hmay, Hart.afterSretVS_mode hr⟩
  | vu => exact absurd hr id
  | hu => exact absurd hr id

end HandlersAux

open HandlersAux

/-- Every trap that a handler accepts, into M mode from any mode, into HS mode from below M, or into VS mode from a guest, is left
with the return instruction going back to the mode that was interrupted, which `curr_priv` names, at the address where the code
is meant to go on (the lowest bit of which the program counter cannot hold). The return instruction in HS and VS mode traps
when TSR or VTSR is set. -/
theorem trap_returns (img : Image) (goto : Word32 → Exec Unit) {s : Sys} {c f : Mode} {t : Hart.Trap} (hmode : s.hart.mode = c)
    (hcurr : s.currPriv = priv c) (hf : f = .m ∨ f = .hs ∧ c ≠ .m ∨ f = .vs ∧ (c = .vu ∨ c = .vs)) (ha : Accepted s t f) :
    ∃ answer s', handler img goto f (s.trapTo t f) = .ok (answer, s') ∧
      (s.hart.MayReturn f → ∃ h' pc, returnBy answer s'.hart = some (h', pc) ∧ h'.mode = s.hart.mode ∧
        pc &&& ~~~1#64 = resumeAt img t s.excpt.faultInst &&& ~~~1#64 ∧
        ((resumeAt img t s.excpt.faultInst).getLsbD 0 = false → pc = resumeAt img t s.excpt.faultInst)) ∧
      s'.realPriv = s'.currPriv ∧ s'.currPriv = s.currPriv ∧ s'.excpt.testing = false ∧ s'.excpt.faultInst = 0#64 := by
  have hret : CanReturn f c := by
    rcases hf with rfl | ⟨rfl, hc⟩ | ⟨rfl, hc⟩
    · exact trivial
    · exact hc
    · exact hc
  obtain ⟨p, x, hrun, hx, hfault⟩ := @handler_accepts img s goto f (by tauto) t ha
  obtain ⟨h₁, hleave, hm₁, hepc, hr, hsame⟩ := @leaveHandler_run img
    { s with hart := { s.hart.trapTo t f with mip := p }, realPriv := priv f, excpt := x } f c (mode_trapTo t hret) rfl
    (congrArg _ hcurr) hret t.cause (by rw [hfault]; exact ha.fault) t.epc
  refine ⟨_, _, hrun.trans hleave, ?_, rfl, rfl, hx, rfl⟩
  intro hmay
  obtain ⟨h', hback, hmode'⟩ := returnBy_run hm₁ hr (mayReturn_trapTo hmay hsame)
  have hpc := hepc.trans (congrArg (returnEpc img t.cause _) (epcIn_trapTo t hret))
  rw [hfault, returnEpc_eq] at hpc
  refine ⟨h', _, hback, hmode'.trans hmode.symm, ?_, ?_⟩ <;> rw [hpc]
  · split
    · rfl
    · rw [BitVec.and_assoc, BitVec.and_self]
  · intro heven
    split
    · rfl
    · exact and_not_one_of_even heven

/-- A state in a mode in which a test has set up a trap. -/
def Sys.testing (c : Mode) : Sys :=
  { Sys.boot with
    hart := { Sys.boot.hart with mode := c }
    currPriv := priv c
    excpt := { Sys.boot.excpt with testing := true } }

/-- The theorem at a load page fault of a guest application that its own supervisor handles. -/
theorem trap_returns_at :
    ∃ answer s', handler Image.plain (gotoPriv Image.plain 0) .vs
        ((Sys.testing .vu).trapTo ⟨13, 0x80001230, 0x1000, 0, 0, false⟩ .vs) = .ok (answer, s') ∧
      ∃ h', returnBy answer s'.hart = some (h', 0x80001234) ∧ h'.mode = .vu := by
  obtain ⟨answer, s', hrun, hback, _⟩ := trap_returns Image.plain (gotoPriv Image.plain 0) (s := Sys.testing .vu) (c := .vu)
    (f := .vs) (t := ⟨13, 0x80001230, 0x1000, 0, 0, false⟩) rfl rfl (by decide)
    ⟨by decide, rfl, by decide, by decide⟩
  obtain ⟨h', pc, hret, hmode, _, hpc⟩ := hback rfl
  refine ⟨answer, s', hrun, h', ?_, hmode⟩
  rw [hret, hpc (by decide)]
  exact congrArg (fun a => some (h', a)) (by decide)

end RvIommuTests
