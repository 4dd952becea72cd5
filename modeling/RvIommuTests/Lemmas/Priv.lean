import RvIommuTests.Trap.Priv

/-!
# One step of the privilege tracking

What the trap of an `ecall`, the end of a handler with its return instruction, and `lower_priv` do to the mode and to the two
globals that track it. The invariant is `Tracks`: the hart's mode is `real_priv`, and `curr_priv` is the mode that the code
outside of the handlers is in.
-/

namespace RvIommuTests

open Riscv

/-- The configuration that `reset_state` leaves and nothing afterwards changes: the delegated environment calls, the trap
entries, and no return instruction traps. -/
structure Conf (img : Image) (h : Hart) : Prop where
  medelegU : h.medeleg.getLsbD 8 = true
  medelegS : h.medeleg.getLsbD 9 = false
  medelegVS : h.medeleg.getLsbD 10 = true
  hedelegU : h.hedeleg.getLsbD 8 = true
  hedelegVS : h.hedeleg.getLsbD 10 = false
  mtvec : h.mtvec = img.mhandlerEntry
  stvec : h.stvec = img.hshandlerEntry
  vstvec : h.vstvec = img.vshandlerEntry
  tsr : h.mstatus.getLsbD 22 = false
  vtsr : h.hstatus.getLsbD 22 = false

/-- The hart is in `mode`, `real_priv` says so, and `curr_priv` is `curr`. -/
structure Tracks (img : Image) (mode curr : Mode) (s : Sys) : Prop where
  hart : s.hart.mode = mode
  real : s.realPriv = priv mode
  curr : s.currPriv = priv curr
  conf : Conf img s.hart

/-- The configuration of a hart that differs in other registers only, and in status words that still let the return
instructions pass. -/
theorem Conf.congr {img : Image} {h h' : Hart} (hc : Conf img h) (hd : h'.medeleg = h.medeleg ∧ h'.hedeleg = h.hedeleg)
    (hv : h'.mtvec = h.mtvec ∧ h'.stvec = h.stvec ∧ h'.vstvec = h.vstvec) (ht : h'.mstatus.getLsbD 22 = h.mstatus.getLsbD 22)
    (hvt : h'.hstatus.getLsbD 22 = h.hstatus.getLsbD 22) : Conf img h' := by
  refine ⟨?_, ?_, ?_, ?_, ?_, hv.1.trans hc.mtvec, hv.2.1.trans hc.stvec, hv.2.2.trans hc.vstvec, ht.trans hc.tsr,
    hvt.trans hc.vtsr⟩
  · rw [hd.1, hc.medelegU]
  · rw [hd.1, hc.medelegS]
  · rw [hd.1, hc.medelegVS]
  · rw [hd.2, hc.hedelegU]
  · rw [hd.2, hc.hedelegVS]

namespace PrivAux

variable {α β : Type} {img : Image} {s s' : Sys}

/-! ## Running code -/

/-- Code in sequence runs the second part from where the first has returned, and stops where the first stops. -/
theorem bind_run (p : Exec α) (f : α → Exec β) (s : Sys) :
    (p >>= f) s = match p s with | .ok (a, s') => f a s' | .error e => .error e := by
  show (p s >>= fun r => f r.1 r.2) = _
  cases p s <;> rfl

/-- Code in sequence whose first part returns goes on with the second. -/
theorem bind_ok {p : Exec α} {f : α → Exec β} {a : α} (h : p s = .ok (a, s')) : (p >>= f) s = f a s' := by
  rw [bind_run, h]

/-- Code in sequence whose first part stops is stopped there, whatever the second part is. -/
theorem bind_error {p : Exec α} {f : α → Exec β} {e : Stop} (h : p s = .error e) : (p >>= f) s = .error e := by
  rw [bind_run, h]

/-- Code that runs as other code does from another state can be replaced by it under a bind. -/
theorem bind_congr {p q : Exec α} {f : α → Exec β} (h : p s = q s') : (p >>= f) s = (q >>= f) s' := by
  rw [bind_run, bind_run, h]

/-- Reading the state returns it and leaves it as it is. -/
theorem get_run (s : Sys) : (get : Exec Sys) s = .ok (s, s) := rfl

/-- A change of the state returns in the changed state. -/
theorem modify_run (f : Sys → Sys) (s : Sys) : (modify f : Exec Unit) s = .ok ((), f s) := rfl

/-- Code that only returns leaves the state as it is. -/
theorem pure_run (a : α) (s : Sys) : (pure a : Exec α) s = .ok (a, s) := rfl

/-- `ERROR` stops the program with its message and returns nothing. -/
theorem error_run (msg : String) (s : Sys) : error msg s = .error (.error msg) := rfl

/-! ## Status words -/

/-- The value `return_from_exception` writes to `mstatus`. -/
def returnStatusM (w : Word) (toPriv : Word32) : Word :=
  let temp := w &&& ~~~((3#64 <<< 11) ||| (1#64 <<< 39) ||| (1#64 <<< 7))
  let temp := if toPriv = privM then temp ||| (3#64 <<< 11) else temp
  let temp := if toPriv = privVS ∨ toPriv = privHS then temp ||| (1#64 <<< 11) else temp
  if toPriv = privVU ∨ toPriv = privVS then temp ||| (1#64 <<< 39) else temp

/-- The word for `mstatus` says which mode the return goes to: MPP is 1 or 3 except for a user mode, 3 for M-mode, and MPV is the
virtualization. TSR is left as it was. -/
theorem getLsbD_returnStatusM (w : Word) (c : Mode) :
    (returnStatusM w (priv c)).getLsbD 11 = !c.user ∧ (returnStatusM w (priv c)).getLsbD 12 = decide (c = .m) ∧
    (returnStatusM w (priv c)).getLsbD 39 = c.virt ∧ (returnStatusM w (priv c)).getLsbD 22 = w.getLsbD 22 := by
  cases c <;> simp [returnStatusM, priv, privM, privVS, privHS, privVU, privHU, Mode.user, Mode.virt]

/-- The value `return_from_exception` writes to `hstatus`. -/
def returnStatusH (w : Word) (toPriv : Word32) : Word :=
  let temp := w &&& ~~~(1#64 <<< 7)
  if toPriv = privVU ∨ toPriv = privVS then temp ||| (1#64 <<< 7) else temp

/-- The word for `hstatus` says whether the return goes to a virtual mode. VTSR is left as it was. -/
theorem getLsbD_returnStatusH (w : Word) (c : Mode) :
    (returnStatusH w (priv c)).getLsbD 7 = c.virt ∧ (returnStatusH w (priv c)).getLsbD 22 = w.getLsbD 22 := by
  cases c <;> simp [returnStatusH, priv, privM, privVS, privHS, privVU, privHU, Mode.virt]

/-- The value `return_from_exception` writes to `sstatus`. -/
def returnStatusS (w : Word) (toPriv : Word32) : Word :=
  let temp := w &&& ~~~((1#64 <<< 8) ||| (1#64 <<< 5))
  if toPriv = privVS ∨ toPriv = privHS then temp ||| (1#64 <<< 8) else temp

/-- The word for `sstatus` says whether the return goes to a user mode. -/
theorem getLsbD_returnStatusS (w : Word) {c : Mode} (hc : c ≠ .m) :
    (returnStatusS w (priv c)).getLsbD 8 = !c.user := by
  cases c with
  | m => exact absurd rfl hc
  | vu => simp [returnStatusS, priv, privVS, privHS, privVU, Mode.user]
  | hu => simp [returnStatusS, priv, privVS, privHS, privHU, Mode.user]
  | vs => simp [returnStatusS, priv, privVS, privHS, Mode.user]
  | hs => simp [returnStatusS, priv, privVS, privHS, Mode.user]

/-- The value `set_prev_priv` writes to `mstatus`. -/
def prevStatusM (w : Word) (p : Word32) : Word :=
  let temp := w &&& ~~~((3#64 <<< 11) ||| (1#64 <<< 39))
  let temp := if p = privVS ∨ p = privHS then temp ||| (1#64 <<< 11) else temp
  if p = privVU ∨ p = privVS then temp ||| (1#64 <<< 39) else temp

/-- `set_prev_priv` in M-mode makes MPP and MPV those of the target, which is below M-mode. TSR is left as it was. -/
theorem getLsbD_prevStatusM (w : Word) {c : Mode} (hc : c ≠ .m) :
    (prevStatusM w (priv c)).getLsbD 11 = !c.user ∧ (prevStatusM w (priv c)).getLsbD 12 = false ∧
    (prevStatusM w (priv c)).getLsbD 39 = c.virt ∧ (prevStatusM w (priv c)).getLsbD 22 = w.getLsbD 22 := by
  cases c with
  | m => exact absurd rfl hc
  | vu => simp [prevStatusM, priv, privVS, privHS, privVU, Mode.user, Mode.virt]
  | hu => simp [prevStatusM, priv, privVS, privHS, privVU, privHU, Mode.user, Mode.virt]
  | vs => simp [prevStatusM, priv, privVS, privHS, privVU, Mode.user, Mode.virt]
  | hs => simp [prevStatusM, priv, privVS, privHS, privVU, Mode.user, Mode.virt]

/-- The value `set_prev_priv` writes to `sstatus`. -/
def prevStatusS (w : Word) (p : Word32) : Word :=
  let temp := w &&& ~~~(1#64 <<< 8)
  if p = privHS ∨ p = privVS then temp ||| (1#64 <<< 8) else temp

/-- `set_prev_priv` in HS-mode makes SPP that of the target. -/
theorem getLsbD_prevStatusS (w : Word) {c : Mode} (hc : c ≠ .m) : (prevStatusS w (priv c)).getLsbD 8 = !c.user := by
  cases c with
  | m => exact absurd rfl hc
  | vu => simp [prevStatusS, priv, privVS, privHS, privVU, Mode.user]
  | hu => simp [prevStatusS, priv, privVS, privHS, privHU, Mode.user]
  | vs => simp [prevStatusS, priv, privVS, privHS, Mode.user]
  | hs => simp [prevStatusS, priv, privVS, privHS, Mode.user]

/-- The value `set_prev_priv` writes to `hstatus`. -/
def prevStatusH (w : Word) (p : Word32) : Word :=
  let temp := w &&& ~~~(3#64 <<< 7)
  let temp := if p = privVS then temp ||| (1#64 <<< 8) else temp
  if p = privVU ∨ p = privVS then temp ||| (1#64 <<< 7) else temp

/-- `set_prev_priv` in HS-mode makes SPV that of the target. VTSR is left as it was. -/
theorem getLsbD_prevStatusH (w : Word) (c : Mode) :
    (prevStatusH w (priv c)).getLsbD 7 = c.virt ∧ (prevStatusH w (priv c)).getLsbD 22 = w.getLsbD 22 := by
  cases c <;> simp [prevStatusH, priv, privM, privVS, privHS, privVU, privHU, Mode.virt]

/-- A write through `sstatus` does not reach TSR, which is no bit of it. -/
theorem getLsbD_merge_22 (old new : Word) : (merge sstatusMask old new).getLsbD 22 = old.getLsbD 22 := by
  rw [getLsbD_merge, show sstatusMask.getLsbD 22 = false by decide]
  rfl

/-- A write through `sstatus` reaches SPP, which is a bit of it. -/
theorem getLsbD_merge_8 (old new : Word) : (merge sstatusMask old new).getLsbD 8 = new.getLsbD 8 := by
  rw [getLsbD_merge, show sstatusMask.getLsbD 8 = true by decide]
  rfl

/-- An even address survives a CSR that has no lowest bit. -/
theorem and_not_one_of_even {a : Word} (h : a.getLsbD 0 = false) : a &&& ~~~1#64 = a := by
  apply BitVec.eq_of_getLsbD_eq
  intro i hi
  rw [BitVec.getLsbD_and, BitVec.getLsbD_not, BitVec.getLsbD_one]
  by_cases hi0 : i = 0
  · subst hi0
    rw [h]
    rfl
  · simp [hi, hi0]

/-! ## The trap of an `ecall` -/

/-- Where the configuration sends the `ecall` of a mode. -/
def up : Mode → Mode
  | .vu => .vs
  | .hu => .hs
  | .vs => .hs
  | .hs => .m
  | .m => .m

/-- The cause that a trap into a mode recorded. -/
def causeIn (h : Hart) : Mode → Word
  | .m => h.mcause
  | .hs => h.scause
  | _ => h.vscause

/-- The address that a trap into a mode recorded. -/
def epcIn (h : Hart) : Mode → Word
  | .m => h.mepc
  | .hs => h.sepc
  | _ => h.vsepc

/-- What the trap of an `ecall` at `pc` leaves for the handler in the mode it goes to. -/
structure Trapped (img : Image) (mode : Mode) (pc : Word) (h : Hart) : Prop where
  hart : h.mode = mode
  conf : Conf img h
  cause : ∃ c : Mode, causeIn h mode = BitVec.ofNat 64 (Hart.ecallCause c)
  epc : epcIn h mode = pc

/-- The trap of an `ecall`. -/
theorem trapped_ecall {h : Hart} (hc : Conf img h) (pc : Word) : Trapped img (up h.mode) pc (h.ecall pc) := by
  have htrapM : ∀ t, Conf img (h.trapM t) := fun t =>
    hc.congr ⟨rfl, rfl⟩ ⟨rfl, rfl, rfl⟩ (by simp [Hart.trapM]) rfl
  have htrapHS : ∀ t, Conf img (h.trapHS t) := fun t =>
    hc.congr ⟨rfl, rfl⟩ ⟨rfl, rfl, rfl⟩ (by simp [Hart.trapHS]) (by
      simp only [Hart.trapHS]
      split <;> simp)
  have htrapVS : ∀ t, Conf img (h.trapVS t) := fun t => hc.congr ⟨rfl, rfl⟩ ⟨rfl, rfl, rfl⟩ rfl rfl
  cases hm : h.mode with
  | vu =>
    simp only [Hart.ecall, hm, Hart.ecallCause, Mode.virt, hc.medelegU, hc.hedelegU]
    exact ⟨rfl, htrapVS _, ⟨.vu, rfl⟩, rfl⟩
  | hu =>
    simp only [Hart.ecall, hm, Hart.ecallCause, Mode.virt, hc.medelegU]
    exact ⟨rfl, htrapHS _, ⟨.hu, rfl⟩, rfl⟩
  | vs =>
    simp only [Hart.ecall, hm, Hart.ecallCause, Mode.virt, hc.medelegVS, hc.hedelegVS]
    exact ⟨rfl, htrapHS _, ⟨.vs, rfl⟩, rfl⟩
  | hs =>
    simp only [Hart.ecall, hm, Hart.ecallCause, hc.medelegS]
    exact ⟨rfl, htrapM _, ⟨.hs, rfl⟩, rfl⟩
  | m =>
    simp only [Hart.ecall, hm, Hart.ecallCause]
    exact ⟨rfl, htrapM _, ⟨.m, rfl⟩, rfl⟩

/-! ## Leaving a handler -/

/-- What `return_from_exception` leaves in the exception program counter: of an interrupt, what was there. -/
def returnEpc (img : Image) (cause epc old : Word) : Word :=
  if isInterrupt cause then old else nextInstruction img epc &&& ~~~1#64

/-- `return_from_exception` at the end of the machine handler: the status and the pc are for `mret`, which code 4 stands for. -/
theorem returnFromException_m (hm : s.hart.mode = .m) (toPriv : Word32) (cause epc : Word) :
    returnFromException img privM toPriv cause epc s =
      .ok (4#64, { s with hart := { s.hart with
        mstatus := returnStatusM s.hart.mstatus toPriv, mepc := returnEpc img cause epc s.hart.mepc } }) := by
  unfold returnEpc
  cases hi : isInterrupt cause <;>
  · simp only [returnFromException, bind_run, csrr, csrw, Hart.read, Hart.write, hm, Csr.resolve, Option.map_some, Hart.get,
      Hart.put, hi, if_pos, Bool.not_false, Bool.not_true, Bool.false_eq_true, if_false]
    rfl

/-- `return_from_exception` at the end of the hypervisor handler: the statuses and the pc are for `sret`, which code 3 stands
for. -/
theorem returnFromException_hs (hm : s.hart.mode = .hs) (toPriv : Word32) (cause epc : Word) :
    returnFromException img privHS toPriv cause epc s =
      .ok (3#64, { s with hart := { s.hart with
        hstatus := returnStatusH s.hart.hstatus toPriv
        mstatus := merge sstatusMask s.hart.mstatus (returnStatusS (s.hart.mstatus &&& sstatusMask) toPriv)
        sepc := returnEpc img cause epc s.hart.sepc } }) := by
  have hne : privHS ≠ privM := by decide
  unfold returnEpc
  cases hi : isInterrupt cause <;>
  · simp only [returnFromException, if_neg hne, bind_run, csrr, csrw, Hart.read, Hart.write, hm, Csr.resolve, Option.map_some,
      Hart.get, Hart.put, hi, if_pos, Bool.not_false, Bool.not_true, Bool.false_eq_true, if_false, true_or]
    rfl

/-- `return_from_exception` at the end of the supervisor handler of the guest: the status and the pc are for `sret`, which code 2
stands for. -/
theorem returnFromException_vs (hm : s.hart.mode = .vs) (toPriv : Word32) (cause epc : Word) :
    returnFromException img privVS toPriv cause epc s =
      .ok (2#64, { s with hart := { s.hart with
        vsstatus := returnStatusS s.hart.vsstatus toPriv, vsepc := returnEpc img cause epc s.hart.vsepc } }) := by
  have hne : privVS ≠ privM := by decide
  have hne' : privVS ≠ privHS := by decide
  unfold returnEpc
  cases hi : isInterrupt cause <;>
  · simp only [returnFromException, if_neg hne, if_neg hne', bind_run, csrr, csrw, Hart.read, Hart.write, hm, Csr.resolve,
      Option.map_some, Hart.get, Hart.put, hi, if_pos, Bool.not_false, Bool.not_true, Bool.false_eq_true, if_false, or_true]
    rfl

/-- `mret` with the bits of `c` in `mstatus` goes to `c`. -/
theorem mret_to {c : Mode} (hm : s.hart.mode = .m) (hc : Conf img s.hart) (hr : s.hart.ReturnsTo .m c) :
    mret s = .ok (s.hart.mepc, { s with hart := s.hart.afterMret }) ∧ s.hart.afterMret.mode = c ∧
      Conf img s.hart.afterMret := by
  refine ⟨?_, Hart.afterMret_mode hr, hc.congr ⟨rfl, rfl⟩ ⟨rfl, rfl, rfl⟩ ?_ rfl⟩
  · simp only [mret, Hart.mret_eq hm]
  · simp only [Hart.afterMret]
    split <;> simp

/-- `sret` in HS mode with the bits of `c` in `hstatus` and `mstatus` goes to `c`. -/
theorem sret_to_hs {c : Mode} (hm : s.hart.mode = .hs) (hc : Conf img s.hart) (hr : s.hart.ReturnsTo .hs c) :
    sret s = .ok (s.hart.sepc, { s with hart := s.hart.afterSret }) ∧ s.hart.afterSret.mode = c ∧
      Conf img s.hart.afterSret := by
  refine ⟨?_, Hart.afterSret_mode hr, hc.congr ⟨rfl, rfl⟩ ⟨rfl, rfl, rfl⟩ (by simp [Hart.afterSret]) (by simp [Hart.afterSret])⟩
  simp only [sret, Hart.sret_eq_hs hm hc.tsr]

/-- `sret` in VS mode with the bit of `c` in `vsstatus` goes to `c`. -/
theorem sret_to_vs {c : Mode} (hm : s.hart.mode = .vs) (hc : Conf img s.hart) (hr : s.hart.ReturnsTo .vs c) :
    sret s = .ok (s.hart.vsepc, { s with hart := s.hart.afterSretVS }) ∧ s.hart.afterSretVS.mode = c ∧
      Conf img s.hart.afterSretVS := by
  refine ⟨?_, Hart.afterSretVS_mode hr, hc.congr ⟨rfl, rfl⟩ ⟨rfl, rfl, rfl⟩ rfl rfl⟩
  simp only [sret, Hart.sret_eq_vs hm hc.vtsr]

/-- The return instruction that the answer of a handler chooses. -/
def trapRet (fromPriv : Word) : Exec Word := if fromPriv = 4#64 then mret else sret

/-- The modes a handler in a mode can return to. -/
def CanReturn : Mode → Mode → Prop
  | .m, _ => True
  | .hs, c => c ≠ .m
  | .vs, c => c = .vu ∨ c = .vs
  | _, _ => False

/-- Two harts differ in registers that are not part of the configuration. -/
structure SameConf (h h' : Hart) : Prop where
  deleg : h'.medeleg = h.medeleg ∧ h'.hedeleg = h.hedeleg
  vec : h'.mtvec = h.mtvec ∧ h'.stvec = h.stvec ∧ h'.vstvec = h.vstvec
  tsr : h'.mstatus.getLsbD 22 = h.mstatus.getLsbD 22
  vtsr : h'.hstatus.getLsbD 22 = h.hstatus.getLsbD 22

/-- `return_from_exception` answers with the mode it is in, and sets the status bits and the program counter for the return. -/
theorem returnFromException_run {f c : Mode} (hm : s.hart.mode = f) (hret : CanReturn f c) (cause epc : Word) :
    ∃ h', returnFromException img (priv f) (priv c) cause epc s = .ok ((priv f).setWidth 64, { s with hart := h' }) ∧
      h'.mode = f ∧ epcIn h' f = returnEpc img cause epc (epcIn s.hart f) ∧ h'.ReturnsTo f c ∧ SameConf s.hart h' := by
  cases f with
  | m =>
    obtain ⟨h11, h12, h39, h22⟩ := getLsbD_returnStatusM s.hart.mstatus c
    exact ⟨_, returnFromException_m hm (priv c) cause epc, hm, rfl, ⟨h11, h12, h39⟩, ⟨rfl, rfl⟩, ⟨rfl, rfl, rfl⟩, h22, rfl⟩
  | hs =>
    obtain ⟨h7, h22⟩ := getLsbD_returnStatusH s.hart.hstatus c
    have h8 := getLsbD_returnStatusS (s.hart.mstatus &&& sstatusMask) hret
    exact ⟨_, returnFromException_hs hm (priv c) cause epc, hm, rfl, ⟨hret, h7, (getLsbD_merge_8 _ _).trans h8⟩, ⟨rfl, rfl⟩,
      ⟨rfl, rfl, rfl⟩, getLsbD_merge_22 _ _, h22⟩
  | vs =>
    have hne : c ≠ .m := by
      rintro rfl
      exact absurd hret (by simp [CanReturn])
    exact ⟨_, returnFromException_vs hm (priv c) cause epc, hm, rfl, ⟨hret, getLsbD_returnStatusS s.hart.vsstatus hne⟩,
      ⟨rfl, rfl⟩, ⟨rfl, rfl, rfl⟩, rfl, rfl⟩
  | vu => exact absurd hret id
  | hu => exact absurd hret id

/-- Where the code goes on after a trap: of an instruction fault, the address is the one in `fault_inst`. -/
def leaveEpc (cause epc faultInst : Word) : Word := if isInstFault cause then faultInst else epc

/-- The end of a handler that does not stop with an error, when `return_from_exception` does for `curr_priv` what it does for
the mode `c`. -/
theorem leaveHandler_run {f c : Mode} (hm : s.hart.mode = f) (hreal : s.realPriv = priv f)
    (hcurr : returnFromException img (priv f) s.currPriv = returnFromException img (priv f) (priv c)) (hret : CanReturn f c)
    {cause : Word} (hf : isInstFault cause = true → s.excpt.faultInst ≠ 0#64) (epc : Word) :
    ∃ h', leaveHandler img cause epc s =
        .ok ((priv f).setWidth 64,
          { s with hart := h', excpt := { s.excpt with faultInst := 0#64 }, realPriv := s.currPriv }) ∧
      h'.mode = f ∧ epcIn h' f = returnEpc img cause (leaveEpc cause epc s.excpt.faultInst) (epcIn s.hart f) ∧
      h'.ReturnsTo f c ∧ SameConf s.hart h' := by
  have hrun : leaveHandler img cause epc s =
      returnFromException img (priv f) (priv c) cause (leaveEpc cause epc s.excpt.faultInst)
        { s with excpt := { s.excpt with faultInst := 0#64 }, realPriv := s.currPriv } := by
    have hne : ¬ (isInstFault cause = true ∧ s.excpt.faultInst = 0#64) := fun h => hf h.1 h.2
    simp only [leaveHandler, bind_run, get_run, modify_run, if_neg hne, hreal, hcurr, leaveEpc]
  obtain ⟨h', hrun', hrest⟩ := @returnFromException_run img
    { s with excpt := { s.excpt with faultInst := 0#64 }, realPriv := s.currPriv } f c hm hret cause
    (leaveEpc cause epc s.excpt.faultInst)
  exact ⟨h', hrun.trans hrun', hrest⟩

/-- The return instruction that a handler's answer chooses goes where the status bits and the program counter say. -/
theorem trapRet_run {f c : Mode} (hm : s.hart.mode = f) (hr : s.hart.ReturnsTo f c) (hc : Conf img s.hart) :
    ∃ h', trapRet ((priv f).setWidth 64) s = .ok (epcIn s.hart f, { s with hart := h' }) ∧ h'.mode = c ∧ Conf img h' := by
  cases f with
  | m => exact ⟨_, mret_to hm hc hr⟩
  | hs => exact ⟨_, sret_to_hs hm hc hr⟩
  | vs => exact ⟨_, sret_to_vs hm hc hr⟩
  | vu => exact absurd hr id
  | hu => exact absurd hr id

/-- The hart is in a mode, `real_priv` says so, and the configuration is the one `reset_state` leaves. -/
structure Sits (img : Image) (mode : Mode) (s : Sys) : Prop where
  hart : s.hart.mode = mode
  real : s.realPriv = priv mode
  conf : Conf img s.hart

/-- A hart that is tracked sits in its mode, whatever `curr_priv` says. -/
theorem sits {m c : Mode} (h : Tracks img m c s) : Sits img m s := ⟨h.hart, h.real, h.conf⟩

/-- The end of a handler and its return instruction go to the instruction after `epc`, in the mode that the status bits for
`curr_priv` stand for. `real_priv` becomes `curr_priv`. -/
theorem leave_goes {f c : Mode} (h : Sits img f s)
    (hcurr : returnFromException img (priv f) s.currPriv = returnFromException img (priv f) (priv c)) (hret : CanReturn f c)
    {cause : Word} (hi : isInterrupt cause = false) (hf : isInstFault cause = false) (epc : Word) :
    ∃ s', (leaveHandler img cause epc >>= trapRet) s = .ok (nextInstruction img epc &&& ~~~1#64, s') ∧
      s'.hart.mode = c ∧ Conf img s'.hart ∧ s'.realPriv = s.currPriv ∧ s'.currPriv = s.currPriv ∧
      s'.ecallArgs = s.ecallArgs := by
  obtain ⟨h₁, hleave, hm₁, hepc, hr, hsame⟩ := @leaveHandler_run img s f c h.hart h.real hcurr hret cause
    (by rw [hf]; exact fun hf => absurd hf Bool.false_ne_true) epc
  generalize hs₁ : ({ s with
    hart := h₁, excpt := { s.excpt with faultInst := 0#64 }, realPriv := s.currPriv } : Sys) = s₁ at hleave
  have hhart : s₁.hart = h₁ := by rw [← hs₁]
  obtain ⟨h₂, hgo, hm₂, hconf⟩ := @trapRet_run img s₁ f c (hhart ▸ hm₁) (hhart ▸ hr)
    (hhart ▸ h.conf.congr hsame.deleg hsame.vec hsame.tsr hsame.vtsr)
  have hpc : epcIn s₁.hart f = nextInstruction img epc &&& ~~~1#64 := by
    rw [hhart, hepc, returnEpc, leaveEpc, hi, hf]
    rfl
  refine ⟨_, (bind_ok hleave).trans (hpc ▸ hgo), hm₂, hconf, ?_, ?_, ?_⟩ <;> rw [← hs₁]

/-- The end of a handler and its return instruction go to the mode in `curr_priv`, at the instruction after `epc`. -/
theorem leave_ret {f c : Mode} (h : Tracks img f c s) (hret : CanReturn f c) {cause : Word}
    (hi : isInterrupt cause = false) (hf : isInstFault cause = false) (epc : Word) :
    ∃ s', (leaveHandler img cause epc >>= trapRet) s = .ok (nextInstruction img epc &&& ~~~1#64, s') ∧
      Tracks img c c s' ∧ s'.ecallArgs = s.ecallArgs := by
  obtain ⟨s', hrun, hm, hconf, hreal, hcurr, hargs⟩ := leave_goes (sits h) (by rw [h.curr]) hret hi hf epc
  exact ⟨s', hrun, ⟨hm, hreal.trans h.curr, hcurr.trans h.curr, hconf⟩, hargs⟩

/-! ## Lowering the privilege -/

/-- `set_prev_priv` in M-mode writes the mode to go to into MPP and MPV of `mstatus`. -/
theorem setPrevPriv_m (hm : s.hart.mode = .m) (hc : s.currPriv = privM) (p : Word32) :
    setPrevPriv p s = .ok ((), { s with hart := { s.hart with mstatus := prevStatusM s.hart.mstatus p } }) := by
  simp only [setPrevPriv, bind_run, get_run, hc, if_pos, csrr, csrw, Hart.read, Hart.write, hm, Csr.resolve, Option.map_some,
    Hart.get, Hart.put]
  rfl

/-- `set_prev_priv` in HS-mode writes the mode to go to into SPP of `sstatus` and SPV of `hstatus`. -/
theorem setPrevPriv_hs (hm : s.hart.mode = .hs) (hc : s.currPriv = privHS) (p : Word32) :
    setPrevPriv p s =
      .ok ((), { s with hart := { s.hart with
        mstatus := merge sstatusMask s.hart.mstatus (prevStatusS (s.hart.mstatus &&& sstatusMask) p)
        hstatus := prevStatusH s.hart.hstatus p } }) := by
  have hne : privHS ≠ privM := by decide
  simp only [setPrevPriv, bind_run, get_run, hc, if_neg hne, if_pos, csrr, csrw, Hart.read, Hart.write, hm, Csr.resolve,
    Option.map_some, Hart.get, Hart.put]
  rfl

/-- `set_prev_priv` in VS-mode clears SPP: the only way down from VS-mode is to VU-mode. -/
theorem setPrevPriv_vs (hm : s.hart.mode = .vs) (hc : s.currPriv = privVS) (p : Word32) :
    setPrevPriv p s =
      .ok ((), { s with hart := { s.hart with vsstatus := s.hart.vsstatus &&& ~~~(1#64 <<< 8) } }) := by
  have hne : privVS ≠ privM := by decide
  have hne' : privVS ≠ privHS := by decide
  simp only [setPrevPriv, bind_run, get_run, hc, if_neg hne, if_neg hne', if_pos, csrr, csrc, csrw, Hart.read, Hart.write, hm,
    Csr.resolve, Option.map_some, Hart.get, Hart.put]

/-- What the checks of `lower_priv` ask for. -/
def LowerOk (curr p : Word32) : Prop := p ≠ curr ∧ ¬ curr ≤ p ∧ ¬ (curr = privVS ∧ p = privHU)

/-- The checks of `lower_priv` pass on the way down, except from VS to HU. -/
theorem lowerOk_of_lt {c t : Mode} (hlt : priv t < priv c) (hvh : ¬ (c = .vs ∧ t = .hu)) : LowerOk (priv c) (priv t) := by
  refine ⟨fun he => absurd hlt (by rw [he]; exact BitVec.lt_irrefl _), BitVec.not_le.2 hlt, fun hf => hvh ?_⟩
  revert hf
  cases c <;> cases t <;> decide

variable {s₁ s₂ s₃ : Sys} {p : Word32}

/-- In M-mode `lower_priv` sets the previous mode and the pc and then uses `mret`. -/
theorem lowerPriv_by_mret (hc : s.currPriv = privM) (hok : LowerOk s.currPriv p) (hset : setPrevPriv p s = .ok ((), s₁))
    (hpc : csrw .mepc img.mretLabel { s₁ with realPriv := p } = .ok ((), s₂)) (hret : mret s₂ = .ok (img.mretLabel, s₃)) :
    lowerPriv img p s = .ok ((), { s₃ with currPriv := p }) := by
  simp only [lowerPriv, bind_run, get_run, if_neg hok.1, if_neg hok.2.1, if_neg hok.2.2, hset, modify_run, if_pos hc, hpc,
    hret, resume, if_true, pure_run]

/-- In HS-mode and VS-mode `lower_priv` sets the previous mode and the pc and then uses `sret`. -/
theorem lowerPriv_by_sret (hm : s.currPriv ≠ privM) (hc : s.currPriv = privVS ∨ s.currPriv = privHS)
    (hok : LowerOk s.currPriv p) (hset : setPrevPriv p s = .ok ((), s₁))
    (hpc : csrw .sepc img.sretLabel { s₁ with realPriv := p } = .ok ((), s₂)) (hret : sret s₂ = .ok (img.sretLabel, s₃)) :
    lowerPriv img p s = .ok ((), { s₃ with currPriv := p }) := by
  simp only [lowerPriv, bind_run, get_run, if_neg hok.1, if_neg hok.2.1, if_neg hok.2.2, hset, modify_run, if_neg hm,
    if_pos hc, hpc, hret, resume, if_true, pure_run]

/-- A write to `mepc` in M-mode puts the address there. -/
theorem csrw_mepc (hm : s.hart.mode = .m) {a : Word} (ha : a.getLsbD 0 = false) :
    csrw .mepc a s = .ok ((), { s with hart := { s.hart with mepc := a } }) := by
  simp only [csrw, Hart.write, hm, Csr.resolve, Option.map_some, Hart.put, and_not_one_of_even ha]

/-- A write to `sepc` in HS-mode puts the address there. -/
theorem csrw_sepc_hs (hm : s.hart.mode = .hs) {a : Word} (ha : a.getLsbD 0 = false) :
    csrw .sepc a s = .ok ((), { s with hart := { s.hart with sepc := a } }) := by
  simp only [csrw, Hart.write, hm, Csr.resolve, Option.map_some, Hart.put, and_not_one_of_even ha]

/-- A write to `sepc` in VS-mode goes to `vsepc`, as the hart has the guest use its own copies. -/
theorem csrw_sepc_vs (hm : s.hart.mode = .vs) {a : Word} (ha : a.getLsbD 0 = false) :
    csrw .sepc a s = .ok ((), { s with hart := { s.hart with vsepc := a } }) := by
  simp only [csrw, Hart.write, hm, Csr.resolve, Option.map_some, Hart.put, and_not_one_of_even ha]

/-- From M-mode `lower_priv` goes to any mode below it, and the two globals track it. -/
theorem lowerPriv_m (h : Tracks img .m .m s) {t : Mode} (ht : t ≠ .m) (hlt : priv t < priv .m) :
    ∃ s', lowerPriv img (priv t) s = .ok ((), s') ∧ Tracks img t t s' := by
  have hok := lowerOk_of_lt hlt (fun hf => Mode.noConfusion hf.1)
  rw [← h.curr] at hok
  obtain ⟨h11, h12, h39, h22⟩ := getLsbD_prevStatusM s.hart.mstatus ht
  obtain ⟨hret, hto, hconf⟩ := mret_to (s := { s with
    hart := { s.hart with mstatus := prevStatusM s.hart.mstatus (priv t), mepc := img.mretLabel }
    realPriv := priv t }) h.hart (h.conf.congr ⟨rfl, rfl⟩ ⟨rfl, rfl, rfl⟩ h22 rfl)
    ⟨h11, h12.trans (decide_eq_false ht).symm, h39⟩
  exact ⟨_, lowerPriv_by_mret h.curr hok (setPrevPriv_m h.hart h.curr _) (csrw_mepc (by exact h.hart) img.even.2.1)
    hret, ⟨hto, rfl, rfl, hconf⟩⟩

/-- From HS-mode `lower_priv` goes to any mode below it, and the two globals track it. -/
theorem lowerPriv_hs (h : Tracks img .hs .hs s) {t : Mode} (ht : t ≠ .m) (hlt : priv t < priv .hs) :
    ∃ s', lowerPriv img (priv t) s = .ok ((), s') ∧ Tracks img t t s' := by
  have hok := lowerOk_of_lt hlt (fun hf => Mode.noConfusion hf.1)
  rw [← h.curr] at hok
  have hm : s.currPriv ≠ privM := by rw [h.curr]; decide
  obtain ⟨h7, h22⟩ := getLsbD_prevStatusH s.hart.hstatus t
  have h8 := getLsbD_prevStatusS (s.hart.mstatus &&& sstatusMask) ht
  obtain ⟨hret, hto, hconf⟩ := sret_to_hs (s := { s with
    hart := { s.hart with
      mstatus := merge sstatusMask s.hart.mstatus (prevStatusS (s.hart.mstatus &&& sstatusMask) (priv t))
      hstatus := prevStatusH s.hart.hstatus (priv t)
      sepc := img.sretLabel }
    realPriv := priv t }) h.hart (h.conf.congr ⟨rfl, rfl⟩ ⟨rfl, rfl, rfl⟩ (getLsbD_merge_22 _ _) h22)
    ⟨ht, h7, (getLsbD_merge_8 _ _).trans h8⟩
  exact ⟨_, lowerPriv_by_sret hm (Or.inr h.curr) hok (setPrevPriv_hs h.hart h.curr _)
    (csrw_sepc_hs (by exact h.hart) img.even.2.2) hret, ⟨hto, rfl, rfl, hconf⟩⟩

/-- From VS-mode `lower_priv` goes to VU-mode, and the two globals track it. -/
theorem lowerPriv_vs (h : Tracks img .vs .vs s) :
    ∃ s', lowerPriv img (priv .vu) s = .ok ((), s') ∧ Tracks img .vu .vu s' := by
  have hok := @lowerOk_of_lt .vs .vu (by decide) (fun hf => Mode.noConfusion hf.2)
  rw [← h.curr] at hok
  have hm : s.currPriv ≠ privM := by rw [h.curr]; decide
  obtain ⟨hret, hto, hconf⟩ := sret_to_vs (s := { s with
    hart := { s.hart with vsstatus := s.hart.vsstatus &&& ~~~(1#64 <<< 8), vsepc := img.sretLabel }
    realPriv := priv .vu }) (c := .vu) h.hart (h.conf.congr ⟨rfl, rfl⟩ ⟨rfl, rfl, rfl⟩ rfl rfl)
    ⟨Or.inl rfl, by simp [Mode.user]⟩
  exact ⟨_, lowerPriv_by_sret hm (Or.inl h.curr) hok (setPrevPriv_vs h.hart h.curr _)
    (csrw_sepc_vs (by exact h.hart) img.even.2.2) hret, ⟨hto, rfl, rfl, hconf⟩⟩

/-- `lower_priv` refuses to go from VS-mode to HU-mode, as `sret` in VS-mode cannot leave the guest. -/
theorem lowerPriv_vs_hu (h : Tracks img .vs .vs s) :
    lowerPriv img privHU s = .error (.error "trying to go from vs to hu") := by
  have hcurr : s.currPriv = privVS := h.curr
  have hne : privHU ≠ privVS := by decide
  have hle : ¬ privVS ≤ privHU := by decide
  simp only [lowerPriv, bind_run, get_run, hcurr, if_neg hne, if_neg hle, and_self, if_true, error_run]

/-! ## The handlers -/

/-- The cause of an `ecall` from any mode passes `is_ecall`. -/
theorem isEcall_ecallCause (c : Mode) : isEcall (BitVec.ofNat 64 (Hart.ecallCause c)) = true := by
  cases c <;> decide

/-- The cause of an `ecall` has the interrupt bit clear, so no bit of `mip` is cleared for it. -/
theorem isInterrupt_ecallCause (c : Mode) : isInterrupt (BitVec.ofNat 64 (Hart.ecallCause c)) = false := by
  cases c <;> decide

/-- The cause of an `ecall` is no instruction fault, so the handler returns behind the `ecall`. -/
theorem isInstFault_ecallCause (c : Mode) : isInstFault (BitVec.ofNat 64 (Hart.ecallCause c)) = false := by
  cases c <;> decide

variable {goto : Word32 → Exec Unit}

/-- `mhandler` on a request: it passes the request on, and then leaves. -/
theorem mhandler_run (hm : s.hart.mode = .m) {c : Mode} (hc : s.hart.mcause = BitVec.ofNat 64 (Hart.ecallCause c))
    (ha : s.ecallArgs.1 = ecallGotoPriv) :
    (∀ s₂, goto (s.ecallArgs.2.setWidth 32) { s with realPriv := privM } = .ok ((), s₂) → s₂.hart.mode = .m →
      ∃ x, mhandler img goto s = leaveHandler img s.hart.mcause s.hart.mepc { s₂ with excpt := x }) ∧
    (∀ e, goto (s.ecallArgs.2.setWidth 32) { s with realPriv := privM } = .error e → mhandler img goto s = .error e) := by
  have hi := hc ▸ isInterrupt_ecallCause c
  have he := hc ▸ isEcall_ecallCause c
  constructor
  · intro s₂ hg hm₂
    simp only [mhandler, bind_run, get_run, modify_run, csrr, Hart.read, hm, Csr.resolve, Option.map_some, Hart.get, he, ha,
      and_self, if_true, hg, hi, hm₂, Bool.false_eq_true, if_false]
    exact ⟨_, rfl⟩
  · intro e hg
    simp only [mhandler, bind_run, get_run, modify_run, csrr, Hart.read, hm, Csr.resolve, Option.map_some, Hart.get, he, ha,
      and_self, if_true, hg]

/-- `hshandler` on a request: it passes the request on, and then leaves. -/
theorem hshandler_run (hm : s.hart.mode = .hs) {c : Mode} (hc : s.hart.scause = BitVec.ofNat 64 (Hart.ecallCause c))
    (ha : s.ecallArgs.1 = ecallGotoPriv) :
    (∀ s₂, goto (s.ecallArgs.2.setWidth 32) { s with realPriv := privHS } = .ok ((), s₂) →
      s₂.hart.mode = .hs ∨ s₂.hart.mode = .m →
      ∃ x, hshandler img goto s = leaveHandler img s.hart.scause s.hart.sepc { s₂ with excpt := x }) ∧
    (∀ e, goto (s.ecallArgs.2.setWidth 32) { s with realPriv := privHS } = .error e →
      hshandler img goto s = .error e) := by
  have hi := hc ▸ isInterrupt_ecallCause c
  have he := hc ▸ isEcall_ecallCause c
  constructor
  · intro s₂ hg hm₂
    rcases hm₂ with hm₂ | hm₂ <;>
    · simp only [hshandler, bind_run, get_run, modify_run, csrr, Hart.read, hm, Csr.resolve, Option.map_some, Hart.get, he,
        ha, and_self, if_true, hg, hi, hm₂, Bool.false_eq_true, if_false]
      exact ⟨_, rfl⟩
  · intro e hg
    simp only [hshandler, bind_run, get_run, modify_run, csrr, Hart.read, hm, Csr.resolve, Option.map_some, Hart.get, he, ha,
      and_self, if_true, hg]

/-- `vshandler` on a request: it passes the request on, and then leaves. -/
theorem vshandler_run (hm : s.hart.mode = .vs) {c : Mode} (hc : s.hart.vscause = BitVec.ofNat 64 (Hart.ecallCause c))
    (ha : s.ecallArgs.1 = ecallGotoPriv) :
    (∀ s₂, goto (s.ecallArgs.2.setWidth 32) { s with realPriv := privVS } = .ok ((), s₂) →
      ∃ x, vshandler img goto s = leaveHandler img s.hart.vscause s.hart.vsepc { s₂ with excpt := x }) ∧
    (∀ e, goto (s.ecallArgs.2.setWidth 32) { s with realPriv := privVS } = .error e →
      vshandler img goto s = .error e) := by
  have hi := hc ▸ isInterrupt_ecallCause c
  have he := hc ▸ isEcall_ecallCause c
  constructor
  · intro s₂ hg
    simp only [vshandler, bind_run, get_run, modify_run, csrr, Hart.read, hm, Csr.resolve, Option.map_some, Hart.get, he, ha,
      and_self, if_true, hg, hi, Bool.false_eq_true, if_false]
    exact ⟨_, rfl⟩
  · intro e hg
    simp only [vshandler, bind_run, get_run, modify_run, csrr, Hart.read, hm, Csr.resolve, Option.map_some, Hart.get, he, ha,
      and_self, if_true, hg]

end PrivAux

end RvIommuTests
