import RvIommuTests.Lib.TwoRuns
import RvIommuTests.Lemmas.Goto
import RvIommuTests.Trap.Handlers

/-!
# The record of the last trap

Two runs of a handler from states that differ in the record `excpt` of the traps before. What does not touch the record is framed
(`Framed`); the handlers of M and HS mode write all of it; the one of VS mode leaves four fields as they were.
-/

namespace RvIommuTests

open Riscv PrivAux GotoAux TwoRuns

/-- Two states that differ only in `excpt`, by a relation between the records. -/
def Differ (P : Excpt → Excpt → Prop) (s s' : Sys) : Prop := ∃ x, s' = { s with excpt := x } ∧ P s.excpt x

/-- Two histories of traps. -/
abbrev History : Sys → Sys → Prop := Differ SameSetup

/-- A relation between records that agree in what a test sets up, kept by what `vshandler` writes. -/
structure VSKeeps (P : Excpt → Excpt → Prop) : Prop where
  setup : ∀ {e x}, P e x → SameSetup e x
  leave : ∀ {e x}, P e x → P { e with faultInst := 0#64 } { x with faultInst := 0#64 }
  record : ∀ {e x} (cause epc tval : Word), P e x →
    P { e with triggered := true, priv := privVS, cause := cause, epc := epc, tval := tval, testing := false }
      { x with triggered := true, priv := privVS, cause := cause, epc := epc, tval := tval, testing := false }

namespace HistoryAux

variable {α β : Type} {img : Image} {s s' : Sys}

/-! ## Code that does not touch the record -/

/-- The code neither reads nor writes the record. -/
def Framed (p : Exec α) : Prop :=
  ∀ (s : Sys) (x : Excpt), p { s with excpt := x } = (p s).map fun r => (r.1, { r.2 with excpt := x })

namespace Framed

/-- A sequence of two functions that leave the record of the last trap alone does so too. -/
theorem bind {p : Exec α} {f : α → Exec β} (hp : Framed p) (hf : ∀ a, Framed (f a)) : Framed (p >>= f) := by
  intro s x
  rw [bind_run, bind_run, hp s x]
  cases p s with
  | error e => rfl
  | ok r => exact hf r.1 r.2 x

/-- A function that only returns leaves the record of the last trap alone. -/
theorem pure (a : α) : Framed (Pure.pure a) := fun _ _ => rfl

/-- A function that stops leaves the record of the last trap alone. -/
theorem throw (e : Stop) : Framed (MonadExcept.throw e : Exec α) := fun _ _ => rfl

/-- What is read of the state does not depend on the record, as long as the rest of the function does not. -/
theorem get {f : Sys → Exec α} (hf : ∀ s x, f { s with excpt := x } = f s) (h : ∀ s, Framed (f s)) :
    Framed (MonadState.get >>= f) := by
  intro s x
  have hrun : ∀ s, (MonadState.get >>= f : Exec α) s = f s s := fun _ => rfl
  rw [hrun, hrun, hf s x, h s s x]

/-- A change of the rest of the state leaves it alone. -/
theorem modify {g : Sys → Sys} (hg : ∀ s x, g { s with excpt := x } = { g s with excpt := x }) :
    Framed (modify g : Exec Unit) :=
  fun s x => congrArg (fun t => Except.ok ((), t)) (hg s x)

/-- A choice between two functions that leave the record alone leaves it alone, too. -/
theorem ite {c : Prop} [Decidable c] {p q : Exec α} (hp : Framed p) (hq : Framed q) : Framed (if c then p else q) := by
  split
  · exact hp
  · exact hq

/-- When a function that leaves the record alone returns, the record is as it was before it. -/
theorem excpt {p : Exec α} (hp : Framed p) {a : α} {t : Sys} (h : p s = .ok (a, t)) : t.excpt = s.excpt := by
  have hs : p s = (p s).map fun r => (r.1, { r.2 with excpt := s.excpt }) := hp s s.excpt
  rw [h] at hs
  have ht : (a, t) = (a, ({ t with excpt := s.excpt } : Sys)) := Except.ok.inj hs
  exact congrArg (fun r => r.2.excpt) ht

/-- What the records have in common, and where they differ, stays. -/
theorem lock {p : Exec α} (hp : Framed p) {P : Excpt → Excpt → Prop} : Lock (Differ P) (Differ P) p := by
  rintro s _ ⟨x, rfl, hx⟩
  rw [hp s x]
  cases hs : p s with
  | error e => rfl
  | ok r => exact ⟨rfl, x, rfl, (hp.excpt hs).symm ▸ hx⟩

end Framed

/-- A read of a CSR neither looks at the record nor changes it. -/
theorem framed_csrr (c : Csr) : Framed (csrr c) := by
  intro s x
  unfold csrr
  dsimp only
  cases s.hart.read c <;> rfl

/-- A write to a CSR neither reads nor changes the record of the last trap. -/
theorem framed_csrw (c : Csr) (v : Word) : Framed (csrw c v) := by
  intro s x
  unfold csrw
  dsimp only
  cases s.hart.write c v <;> rfl

/-- Clearing bits of a CSR neither reads nor changes the record of the last trap. -/
theorem framed_csrc (c : Csr) (v : Word) : Framed (csrc c v) := (framed_csrr c).bind fun _ => framed_csrw c _

/-- The return from M-mode neither reads nor changes the record of the last trap. -/
theorem framed_mret : Framed mret := by
  intro s x
  unfold mret
  dsimp only
  cases s.hart.mret <;> rfl

/-- The return from S-mode neither reads nor changes the record of the last trap. -/
theorem framed_sret : Framed sret := by
  intro s x
  unfold sret
  dsimp only
  cases s.hart.sret <;> rfl

/-- The same of going on at the address that a handler returns to. -/
theorem framed_resume (label pc : Word) : Framed (resume label pc) := .ite (.pure ()) (.throw _)

/-- `ERROR` stops without a look at the record of the last trap. -/
theorem framed_error (msg : String) : Framed (error msg) := .throw _

/-- `set_prev_priv` works on the CSRs only, so it leaves the record of the last trap alone. -/
theorem framed_setPrevPriv (p : Word32) : Framed (setPrevPriv p) := by
  unfold setPrevPriv
  refine .get (fun _ _ => rfl) fun s => .ite ?_ (.ite ?_ (.ite ?_ (framed_error _)))
  · exact (framed_csrr _).bind fun _ => framed_csrw _ _
  · exact (framed_csrr _).bind fun _ => (framed_csrw _ _).bind fun _ => (framed_csrr _).bind fun _ => framed_csrw _ _
  · exact (framed_csrr _).bind fun _ => framed_csrc _ _

/-- `return_from_exception` works on the CSRs only, so it leaves the record of the last trap alone. -/
theorem framed_returnFromException (fromPriv toPriv : Word32) (cause epc : Word) :
    Framed (returnFromException img fromPriv toPriv cause epc) := by
  have hepc : ∀ (c : Csr) (v a : Word), Framed (do
      if !isInterrupt cause then
        csrw c v
      return a : Exec Word) := fun c v a => .ite ((framed_csrw c v).bind fun _ => .pure _) (.pure _)
  have hs : Framed (do
      if fromPriv = privHS ∨ fromPriv = privVS then
        let temp ← csrr .sstatus
        let temp := temp &&& ~~~((1#64 <<< 8) ||| (1#64 <<< 5))
        let temp := if toPriv = privVS ∨ toPriv = privHS then temp ||| (1#64 <<< 8) else temp
        csrw .sstatus temp
        if !isInterrupt cause then
          csrw .sepc (nextInstruction img epc)
      return fromPriv.setWidth 64 : Exec Word) :=
    .ite ((framed_csrr _).bind fun _ => (framed_csrw _ _).bind fun _ => hepc _ _ _) (.pure _)
  refine .ite ?_ (.ite ?_ hs)
  · exact (framed_csrr _).bind fun _ => (framed_csrw _ _).bind fun _ => hepc _ _ _
  · exact (framed_csrr _).bind fun _ => (framed_csrw _ _).bind fun _ => hs

/-- `lower_priv` works on the CSRs and on what tracks the mode, so it leaves the record of the last trap alone. -/
theorem framed_lowerPriv (priv : Word32) : Framed (lowerPriv img priv) := by
  have hcurr : Framed (modify fun s => { s with currPriv := priv } : Exec Unit) := .modify fun _ _ => rfl
  have hlower : ∀ s : Sys, Framed (do
      setPrevPriv priv
      modify fun s => { s with realPriv := priv }
      if s.currPriv = privM then
        csrw .mepc img.mretLabel
        let pc ← mret
        resume img.mretLabel pc
      else if s.currPriv = privVS ∨ s.currPriv = privHS then
        csrw .sepc img.sretLabel
        let pc ← sret
        resume img.sretLabel pc
      else
        error "cant lower priv from u"
      modify fun s => { s with currPriv := priv } : Exec Unit) := by
    intro s
    refine (framed_setPrevPriv _).bind fun _ => .bind (.modify fun _ _ => rfl) fun _ => .ite ?_ (.ite ?_ ?_)
    · exact (framed_csrw _ _).bind fun _ => framed_mret.bind fun _ => (framed_resume _ _).bind fun _ => hcurr
    · exact (framed_csrw _ _).bind fun _ => framed_sret.bind fun _ => (framed_resume _ _).bind fun _ => hcurr
    · exact (framed_error _).bind fun _ => hcurr
  unfold lowerPriv
  refine .get (fun _ _ => rfl) fun s => .ite (.pure _) (.ite ((framed_error _).bind fun _ => ?_) ?_) <;>
  exact .ite ((framed_error _).bind fun _ => hlower s) (hlower s)

/-- The variable of the mode is no part of the record. -/
theorem framed_realPriv (p : Word32) : Framed (modify fun s => { s with realPriv := p }) := .modify fun _ _ => rfl

/-! ## The handlers -/

/-- Two states that are equal differ in nothing, so in their history they agree as well. -/
theorem history_of_eq (s s' : Sys) : s = s' → History s s' := by
  rintro rfl
  exact ⟨s.excpt, rfl, rfl, rfl⟩

variable {P : Excpt → Excpt → Prop}

/-- That a test has been set up in the same way is kept by the part of `vshandler` that records the trap. -/
theorem vsKeeps_sameSetup : VSKeeps SameSetup := ⟨id, fun h => ⟨h.1, rfl⟩, fun _ _ _ h => ⟨rfl, h.2⟩⟩

/-- The end of a handler makes the same steps from both states, and leaves them as different as they were. -/
theorem lock_leaveHandler (hP : VSKeeps P) (cause epc : Word) : Lock (Differ P) (Differ P) (leaveHandler img cause epc) := by
  have hleave : ∀ a : Word, Lock (Differ P) (Differ P) (do
      modify fun s => { s with excpt := { s.excpt with faultInst := 0#64 } }
      let s ← get
      let tempPriv := s.realPriv
      modify fun s => { s with realPriv := s.currPriv }
      returnFromException img tempPriv s.currPriv cause a : Exec Word) := by
    intro a
    refine .bind (.modify ?_ : Lock _ (Differ P) _) fun _ => .get ?_ fun s => ?_
    · rintro s _ ⟨x, rfl, hx⟩
      exact ⟨_, rfl, hP.leave hx⟩
    · rintro s _ ⟨x, rfl, -⟩
      rfl
    · exact ((Framed.modify fun _ _ => rfl).bind fun _ => framed_returnFromException _ _ _ _).lock
  unfold leaveHandler
  refine .get ?_ fun s => .ite (fun _ => (framed_error _).lock.bind fun _ => hleave _) fun _ => hleave _
  rintro s _ ⟨x, rfl, hx⟩
  simp only [(hP.setup hx).2]

/-- A handler reads a status register and writes a record that holds nothing of the one before. -/
theorem lock_record (c : Csr) (cause epc : Word) {f : Word → Sys → Sys}
    (hf : ∀ status s s', History s s' → f status s = f status s') :
    Lock History Eq (do
      let status ← csrr c
      modify (f status)
      leaveHandler img cause epc : Exec Word) :=
  (framed_csrr _).lock.bind fun status => .bind (.modify (hf status) : Lock _ Eq _) fun _ => .refl _

/-- What `mhandler` does after a request or a check: it writes the whole record. -/
theorem lock_mhandler_end (cause epc tval tval2 tinst : Word) : Lock History Eq (do
    if isInterrupt cause then
      csrc .mip (interruptBit cause)
    let status ← csrr .mstatus
    modify fun s => { s with excpt := { s.excpt with
      triggered := true, priv := privM, cause := cause, epc := epc, tval := tval, tinst := tinst, tval2 := tval2,
      gva := status.getLsbD 38, xpv := status.getLsbD 39, testing := false } }
    leaveHandler img cause epc : Exec Word) := by
  refine .ite (fun _ => (framed_csrc _ _).lock.bind fun _ => lock_record _ _ _ ?_) fun _ => lock_record _ _ _ ?_
  all_goals
    rintro status s _ ⟨x, rfl, -, hf⟩
    simp only [hf]

/-- What `hshandler` does after a request or a check: it writes the whole record. -/
theorem lock_hshandler_end (cause epc tval htval htinst : Word) : Lock History Eq (do
    if isInterrupt cause then
      csrc .sip (interruptBit cause)
      csrc .hip (interruptBit cause)
    let status ← csrr .hstatus
    modify fun s => { s with excpt := { s.excpt with
      triggered := true, priv := privHS, cause := cause, epc := epc, tval := tval, tinst := htinst, tval2 := htval,
      gva := status.getLsbD 6, xpv := status.getLsbD 7, testing := false } }
    leaveHandler img cause epc : Exec Word) := by
  refine .ite (fun _ => (framed_csrc _ _).lock.bind fun _ => (framed_csrc _ _).lock.bind fun _ => lock_record _ _ _ ?_)
    fun _ => lock_record _ _ _ ?_
  all_goals
    rintro status s _ ⟨x, rfl, -, hf⟩
    simp only [hf]

/-- What `vshandler` does after a request or a check. -/
def vshandlerEnd (img : Image) (cause epc tval : Word) : Exec Word := do
  if isInterrupt cause then
    csrc .sip (interruptBit cause)
  modify fun s => { s with excpt := { s.excpt with
    triggered := true, priv := privVS, cause := cause, epc := epc, tval := tval, testing := false } }
  leaveHandler img cause epc

/-- So does the end of `vshandler` with the fields of the record that it does write. -/
theorem lock_vshandlerEnd (hP : VSKeeps P) (cause epc tval : Word) :
    Lock (Differ P) (Differ P) (vshandlerEnd img cause epc tval) := by
  have hrecord : Lock (Differ P) (Differ P) (do
      modify fun s => { s with excpt := { s.excpt with
        triggered := true, priv := privVS, cause := cause, epc := epc, tval := tval, testing := false } }
      leaveHandler img cause epc : Exec Word) := by
    refine .bind (.modify ?_ : Lock _ (Differ P) _) fun _ => lock_leaveHandler hP _ _
    rintro s _ ⟨x, rfl, hx⟩
    exact ⟨_, rfl, hP.record _ _ _ hx⟩
  exact .ite (fun _ => (framed_csrc _ _).lock.bind fun _ => hrecord) fun _ => hrecord

variable {goto : Word32 → Exec Unit}

/-- `mhandler` writes every field of the record, so two states that differ only there are equal after it. -/
theorem lock_mhandler (hgoto : ∀ p, Lock History History (goto p)) : Lock History Eq (mhandler img goto) := by
  unfold mhandler
  refine (framed_realPriv _).lock.bind fun _ => (framed_csrr _).lock.bind fun cause => (framed_csrr _).lock.bind fun epc =>
    (framed_csrr _).lock.bind fun tval => (framed_csrr _).lock.bind fun tval2 => (framed_csrr _).lock.bind fun tinst =>
    .get ?_ fun s => .ite (fun _ => ?_) fun _ => .ite (fun _ => ?_) fun _ => lock_mhandler_end _ _ _ _ _
  · rintro s _ ⟨x, rfl, ht, -⟩
    simp only [ht]
  · exact (hgoto _).bind fun _ => lock_mhandler_end _ _ _ _ _
  · exact (framed_error _).lock.bind fun _ => lock_mhandler_end _ _ _ _ _

/-- From states that differ in their history only, `hshandler` ends in equal states, when `goto_priv` keeps the difference. -/
theorem lock_hshandler (hgoto : ∀ p, Lock History History (goto p)) : Lock History Eq (hshandler img goto) := by
  unfold hshandler
  refine (framed_realPriv _).lock.bind fun _ => (framed_csrr _).lock.bind fun cause => (framed_csrr _).lock.bind fun epc =>
    (framed_csrr _).lock.bind fun tval => (framed_csrr _).lock.bind fun htval => (framed_csrr _).lock.bind fun htinst =>
    .get ?_ fun s => .ite (fun _ => ?_) fun _ => .ite (fun _ => ?_) fun _ => .ite (fun _ => ?_)
      fun _ => lock_hshandler_end _ _ _ _ _
  · rintro s _ ⟨x, rfl, ht, -⟩
    simp only [ht]
  · exact (hgoto _).bind fun _ => lock_hshandler_end _ _ _ _ _
  · exact (framed_error _).lock.bind fun _ => lock_hshandler_end _ _ _ _ _
  · exact (framed_error _).lock.bind fun _ => lock_hshandler_end _ _ _ _ _

/-- `vshandler` leaves fields of the record, so two states may differ in them after it too, but nowhere else. -/
theorem lock_vshandler (hgoto : ∀ p, Lock History History (goto p)) : Lock History History (vshandler img goto) := by
  unfold vshandler
  refine (framed_realPriv _).lock.bind fun _ => (framed_csrr _).lock.bind fun cause => (framed_csrr _).lock.bind fun epc =>
    (framed_csrr _).lock.bind fun tval =>
    .get ?_ fun s => .ite (fun _ => ?_) fun _ => .ite (fun _ => ?_) fun _ => lock_vshandlerEnd vsKeeps_sameSetup _ _ _
  · rintro s _ ⟨x, rfl, ht, -⟩
    simp only [ht]
  · exact (hgoto _).bind fun _ => lock_vshandlerEnd vsKeeps_sameSetup _ _ _
  · exact (framed_error _).lock.bind fun _ => lock_vshandlerEnd vsKeeps_sameSetup _ _ _

/-! ## Requests -/

variable {R : Sys → Sys → Prop}

/-- The return from a handler works on the CSRs only. -/
theorem framed_trapRet (a : Word) : Framed (trapRet a) := .ite framed_mret framed_sret

/-- The handler at a trap vector, in two runs in which the handlers agree. -/
theorem trapAt_agree {v : Word} (hret : ∀ a, Lock R R (trapRet a))
    (hm : v = img.mhandlerEntry → Agree R (mhandler img goto s) (mhandler img goto s'))
    (hhs : v = img.hshandlerEntry → Agree R (hshandler img goto s) (hshandler img goto s'))
    (hvs : v = img.vshandlerEntry → Agree R (vshandler img goto s) (vshandler img goto s')) :
    Agree R (trapAt img goto v s) (trapAt img goto v s') := by
  unfold trapAt
  by_cases h₁ : v = img.mhandlerEntry
  · rw [if_pos h₁]
    exact (hm h₁).bind hret
  · rw [if_neg h₁]
    by_cases h₂ : v = img.hshandlerEntry
    · rw [if_pos h₂]
      exact (hhs h₂).bind hret
    · rw [if_neg h₂]
      by_cases h₃ : v = img.vshandlerEntry
      · rw [if_pos h₃]
        exact (hvs h₃).bind hret
      · rw [if_neg h₃]
        exact Agree.bind (R := R) rfl hret

/-- The state in which the handler of an `ecall` starts. -/
def ecallState (img : Image) (a0 a1 : Word) (s : Sys) : Sys :=
  { s with ecallArgs := (a0, a1), hart := s.hart.ecall img.ecallPc }

/-- An `ecall` from two states with the same hart takes the same trap, so what its handler leaves agrees as far as it does after
the trap. -/
theorem ecall_agree {a0 a1 : Word} (hpure : ∀ a b, Lock R R (resume a b >>= fun _ => get >>= fun s => pure s.ecallArgs.1))
    (h : Agree R (trapAt img goto (s.hart.ecall img.ecallPc).tvec (ecallState img a0 a1 s))
      (trapAt img goto (s.hart.ecall img.ecallPc).tvec (ecallState img a0 a1 s'))) (hs : s'.hart = s.hart) :
    Agree R (ecall img goto a0 a1 s) (ecall img goto a0 a1 s') := by
  have hrun : ∀ s, ecall img goto a0 a1 s = (trapAt img goto (s.hart.ecall img.ecallPc).tvec >>= fun pc =>
      resume (img.ecallPc + 4#64) pc >>= fun _ => get >>= fun s => pure s.ecallArgs.1) (ecallState img a0 a1 s) := fun _ => rfl
  rw [hrun, hrun, hs]
  exact h.bind fun pc => hpure _ _

/-- A call of `goto_priv` keeps two histories apart or makes them one. -/
theorem lock_gotoPriv (n : Nat) (p : Word32) : Lock History History (gotoPriv img n p) := by
  induction n generalizing p with
  | zero => exact .throw _
  | succ n ih =>
    have hecall : ∀ a0 a1, Lock History History (ecall img (gotoPriv img n) a0 a1) := by
      rintro a0 a1 s _ ⟨x, rfl, hx⟩
      have hstate : History (ecallState img a0 a1 s) (ecallState img a0 a1 { s with excpt := x }) := ⟨x, rfl, hx⟩
      refine ecall_agree (fun _ _ => (framed_resume _ _).lock.bind fun _ => .get ?_ fun _ => .pure _) ?_ rfl
      · rintro s _ ⟨x, rfl, -⟩
        rfl
      · exact trapAt_agree (fun a => (framed_trapRet a).lock)
          (fun _ => (lock_mhandler ih _ _ hstate).mono history_of_eq)
          (fun _ => (lock_hshandler ih _ _ hstate).mono history_of_eq)
          (fun _ => lock_vshandler ih _ _ hstate)
    have hmod : ∀ b, Lock History History (modify fun s => { s with onGoing := b } : Exec Unit) := fun b =>
      (Framed.modify fun _ _ => rfl).lock
    have hgo : Lock History History (do
        let s ← get
        if s.realPriv = p ∨ privMax.sle p then
          modify fun s => { s with onGoing := false, currPriv := p }
        else
          modify fun s => { s with onGoing := true }
          if s.currPriv < p then
            let _ ← ecall img (gotoPriv img n) ecallGotoPriv (p.signExtend 64)
          else
            modify fun s => { s with onGoing := false }
            lowerPriv img p : Exec Unit) := by
      refine .get ?_ fun s => .ite (fun _ => (Framed.modify fun _ _ => rfl).lock) fun _ => (hmod _).bind fun _ =>
        .ite (fun _ => (hecall _ _).bind fun _ => .pure _) fun _ => (hmod _).bind fun _ => (framed_lowerPriv _).lock
      rintro s _ ⟨x, rfl, -⟩
      rfl
    unfold gotoPriv
    refine .get ?_ fun s => .ite (fun _ => (ih _).bind fun _ => hgo) fun _ => hgo
    rintro s _ ⟨x, rfl, -⟩
    rfl

/-- On a request of `goto_priv`, `vshandler` notes its mode, makes the change, and goes on to its end with the CSRs of the
trap. -/
theorem vshandler_request (hm : s.hart.mode = .vs) (hc : isEcall s.hart.vscause = true) (ha : s.ecallArgs.1 = ecallGotoPriv) :
    vshandler img goto s = (goto (s.ecallArgs.2.setWidth 32) >>= fun _ =>
      vshandlerEnd img s.hart.vscause s.hart.vsepc s.hart.vstval) { s with realPriv := privVS } := by
  simp only [vshandler, bind_run, get_run, modify_run, csrr, Hart.read, hm, Csr.resolve, Option.map_some, Hart.get, hc, ha,
    and_self, if_true]
  rfl

/-- An `ecall` that goes to the handler of VS mode is recorded in the registers of that mode. -/
theorem ecall_vs {h : Hart} {pc : Word} (hi : Installed img h) (hv : (h.ecall pc).tvec = img.vshandlerEntry) :
    (h.ecall pc).mode = .vs ∧ isEcall (h.ecall pc).vscause = true ∧ Installed img (h.ecall pc) := by
  obtain ⟨-, hmv, hhv⟩ := img.entries
  unfold Hart.ecall at hv ⊢
  split
  · rename_i hm
    rw [if_pos hm] at hv
    exact absurd (hi.1.symm.trans hv) hmv
  · rename_i hm
    rw [if_neg hm] at hv
    split
    · exact ⟨rfl, isEcall_ecallCause _, hi⟩
    · rename_i hs
      rw [if_neg hs] at hv
      exact absurd (hi.2.symm.trans hv) hhv

/-- A request that goes up from VS mode reaches a handler that writes the whole record. -/
theorem gotoPriv_up {p : Word32} (n : Nat) (hh : History s s') (hi : Installed img s.hart) (hreal : s.realPriv = privVS)
    (hup : GoesUp p s.currPriv) : Agree Eq (gotoPriv img n p s) (gotoPriv img n p s') := by
  induction n generalizing p s s' with
  | zero => rfl
  | succ n ih =>
    obtain ⟨x, rfl, hx⟩ := hh
    rw [gotoPriv_succ, gotoPriv_succ]
    by_cases hu : isUser p = true ∧ isUser s.currPriv = true
    · have hup' : GoesUp privM s.currPriv := by
        refine Or.inr ⟨by decide, by decide, ?_⟩
        have hcurr := hu.2
        unfold isUser at hcurr
        simp only [Bool.or_eq_true, beq_iff_eq] at hcurr
        rcases hcurr with h | h <;> rw [h] <;> decide
      rw [if_pos hu, if_pos hu]
      exact (ih ⟨x, rfl, hx⟩ hi hreal hup').bind fun _ => .refl _
    · obtain ⟨hvs, hmax, hlt⟩ := hup.resolve_left hu
      have hnot : ¬ (s.realPriv = p ∨ privMax.sle p = true) := by
        rw [hreal, hmax]
        exact fun ho => ho.elim (fun he => hvs he.symm) Bool.false_ne_true
      rw [if_neg hu, if_neg hu]
      unfold arrive
      rw [if_neg hnot, if_neg hnot, if_pos hlt, if_pos hlt]
      refine Agree.bind (R := Eq) (ecall_agree (fun _ _ => .refl _) ?_ rfl) fun _ => .refl _
      generalize hs₁ : ecallState img ecallGotoPriv (p.signExtend 64) { s with onGoing := true } = s₁
      have hhart : s₁.hart = s.hart.ecall img.ecallPc := by rw [← hs₁]; rfl
      have hargs : s₁.ecallArgs = (ecallGotoPriv, p.signExtend 64) := by rw [← hs₁]; rfl
      have hcurr : s₁.currPriv = s.currPriv := by rw [← hs₁]; rfl
      have hx₁ : SameSetup s₁.excpt x := by rw [← hs₁]; exact hx
      have hstate : History s₁ { s₁ with excpt := x } := ⟨x, rfl, hx₁⟩
      have hs₂ : ecallState img ecallGotoPriv (p.signExtend 64) { s with onGoing := true, excpt := x } =
          { s₁ with excpt := x } := by rw [← hs₁]; rfl
      rw [hs₂]
      refine trapAt_agree (fun _ => .refl _) (fun _ => lock_mhandler (lock_gotoPriv n) _ _ hstate)
        (fun _ => lock_hshandler (lock_gotoPriv n) _ _ hstate) fun hv => ?_
      -- the request is made again
      obtain ⟨hmode, hcause, hinst⟩ := ecall_vs hi hv
      rw [← hhart] at hmode hcause hinst
      have ha : s₁.ecallArgs.1 = ecallGotoPriv := by rw [hargs]
      have hp : s₁.ecallArgs.2.setWidth 32 = p := by rw [hargs]; exact Fields.setWidth_signExtend p (by decide)
      rw [vshandler_request hmode hcause ha, vshandler_request (s := { s₁ with excpt := x }) hmode hcause ha]
      refine Agree.bind (R := Eq) ?_ fun _ => .refl _
      show Agree Eq (gotoPriv img n (s₁.ecallArgs.2.setWidth 32) _) (gotoPriv img n (s₁.ecallArgs.2.setWidth 32) _)
      rw [hp]
      exact ih ⟨x, rfl, hx₁⟩ hinst rfl (by rw [hcurr]; exact hup)
/-- A request that does not go up from VS mode leaves the record alone. -/
theorem gotoPriv_down {p : Word32} (n : Nat) (hd : Differ P s s') (hreal : s.realPriv = privVS) (hup : ¬ GoesUp p s.currPriv) :
    Agree (Differ P) (gotoPriv img n p s) (gotoPriv img n p s') := by
  obtain ⟨x, rfl, hx⟩ := hd
  cases n with
  | zero => rfl
  | succ n =>
    have hu : ¬ (isUser p = true ∧ isUser s.currPriv = true) := fun hf => hup (Or.inl hf)
    rw [gotoPriv_succ, gotoPriv_succ, if_neg hu, if_neg hu]
    unfold arrive
    by_cases hat : s.realPriv = p ∨ privMax.sle p = true
    · rw [if_pos hat, if_pos hat]
      exact ⟨rfl, x, rfl, hx⟩
    · have hlt : ¬ s.currPriv < p := by
        intro hlt
        rw [not_or, hreal, Bool.not_eq_true] at hat
        exact hup (Or.inr ⟨fun he => hat.1 he.symm, hat.2, hlt⟩)
      rw [if_neg hat, if_neg hat, if_neg hlt, if_neg hlt]
      exact (framed_lowerPriv p).lock _ _ ⟨x, rfl, hx⟩

/-- Without a request `vshandler` stops if no trap was expected, and otherwise goes on to what it does at its end. -/
theorem vshandler_other (hm : s.hart.mode = .vs) (hr : ¬ (isEcall s.hart.vscause = true ∧ s.ecallArgs.1 = ecallGotoPriv)) :
    vshandler img goto s = (if !s.excpt.testing then error "untested exception!" >>= fun _ =>
      vshandlerEnd img s.hart.vscause s.hart.vsepc s.hart.vstval else vshandlerEnd img s.hart.vscause s.hart.vsepc s.hart.vstval)
        { s with realPriv := privVS } := by
  simp only [vshandler, bind_run, get_run, modify_run, csrr, Hart.read, hm, Csr.resolve, Option.map_some, Hart.get, if_neg hr]
  rfl

/-- `vshandler` with a request that goes up: one record is left of two histories. -/
theorem vshandler_up (n : Nat) (hh : History s s') (hm : s.hart.mode = .vs) (hi : Installed img s.hart)
    (hf : Forwards s s.hart.vscause) :
    Agree Eq (vshandler img (gotoPriv img n) s) (vshandler img (gotoPriv img n) s') := by
  obtain ⟨x, rfl, hx⟩ := hh
  obtain ⟨hc, ha, hup⟩ := hf
  rw [vshandler_request hm hc ha, vshandler_request (s := { s with excpt := x }) hm hc ha]
  exact Agree.bind (R := Eq) (gotoPriv_up n ⟨x, rfl, hx⟩ hi rfl hup) fun _ => .refl _

/-- When `vshandler` does not pass a request on, what it does not write of the record differs afterwards as it did before. -/
theorem vshandler_apart (hP : VSKeeps P) (n : Nat) (hd : Differ P s s') (hm : s.hart.mode = .vs)
    (hf : ¬ Forwards s s.hart.vscause) :
    Agree (Differ P) (vshandler img (gotoPriv img n) s) (vshandler img (gotoPriv img n) s') := by
  obtain ⟨x, rfl, hx⟩ := hd
  by_cases hr : isEcall s.hart.vscause = true ∧ s.ecallArgs.1 = ecallGotoPriv
  · obtain ⟨hc, ha⟩ := hr
    rw [vshandler_request hm hc ha, vshandler_request (s := { s with excpt := x }) hm hc ha]
    exact Agree.bind (gotoPriv_down n ⟨x, rfl, hx⟩ rfl fun hup => hf ⟨hc, ha, hup⟩) fun _ => lock_vshandlerEnd hP _ _ _
  · rw [vshandler_other hm hr, vshandler_other (s := { s with excpt := x }) hm hr]
    have hend : Lock (Differ P) (Differ P) (vshandlerEnd img s.hart.vscause s.hart.vsepc s.hart.vstval) :=
      lock_vshandlerEnd hP _ _ _
    have htest : x.testing = s.excpt.testing := (hP.setup hx).1
    simp only [htest]
    exact (Lock.ite (fun _ => (framed_error _).lock.bind fun _ => hend) fun _ => hend) _ _ ⟨x, rfl, hx⟩

end HistoryAux

end RvIommuTests
