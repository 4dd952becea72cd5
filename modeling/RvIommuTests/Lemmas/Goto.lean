import RvIommuTests.Lemmas.Priv

/-!
# Runs of `goto_priv`

A request for a supervisor or machine mode climbs: every activation of `goto_priv` that has not reached the target makes an
`ecall` to the next mode up, where the handler makes the next activation. `climbs` says whether the target is on that way, and
with how many activations.
-/

namespace RvIommuTests

open Riscv PrivAux

/-- The climb from a mode meets the target within `n` activations of `goto_priv`. -/
def climbs : Nat → Mode → Mode → Bool
  | 0, _, _ => false
  | n + 1, c, t => c == t || climbs n (up c) t

namespace GotoAux

variable {img : Image} {s : Sys} {m c t : Mode}

/-! ## Numbers of modes -/

/-- The numbers of the modes are different. -/
theorem priv_inj : priv c = priv t ↔ c = t := by
  cases c <;> cases t <;> decide

/-- The number of a mode is below `PRIV_MAX`, so a request for a mode is never taken for one out of range. -/
theorem privMax_sle (t : Mode) : privMax.sle (priv t) = false := by
  cases t <;> decide

/-- `is_user` says of the number of a mode whether it is a user mode. -/
theorem isUser_priv (t : Mode) : isUser (priv t) = t.user := by
  cases t <;> rfl

/-- The user modes are below M-mode, so a call that goes to M-mode first comes down from there. -/
theorem user_lt_m (h : t.user = true) : priv t < priv .m := by
  revert h
  cases t <;> decide

/-- The handler of a mode can be left in the target mode once the request is served. -/
def CanServe : Mode → Mode → Prop
  | .m, t => t = .m
  | .hs, t => t = .hs ∨ t = .m
  | .vs, t => t = .vs ∨ t = .hs ∨ t = .m
  | _, _ => False

/-- A handler that can be left in the target mode returns there with its return instruction. -/
theorem CanServe.canReturn {mode : Mode} (h : CanServe mode t) : CanReturn t t := by
  cases mode <;> cases t <;> simp_all [CanServe, CanReturn]

/-- The climb from M-mode stays there, so it meets nothing else. -/
theorem canServe_of_climbs_m {n : Nat} (h : climbs n .m t = true) : t = .m := by
  induction n with
  | zero => cases h
  | succ n ih =>
    rw [climbs, Bool.or_eq_true, beq_iff_eq] at h
    exact h.elim Eq.symm ih

/-- A climb that meets its target from the handler of a mode on ends in a mode from which that handler can return. -/
theorem canServe_of_climbs {n : Nat} (h : climbs n (up m) t = true) : CanServe (up m) t := by
  have hs : ∀ n, climbs n .hs t = true → t = .hs ∨ t = .m := by
    intro n h
    cases n with
    | zero => cases h
    | succ n =>
      rw [climbs, Bool.or_eq_true, beq_iff_eq] at h
      exact h.imp Eq.symm canServe_of_climbs_m
  have vs : ∀ n, climbs n .vs t = true → t = .vs ∨ t = .hs ∨ t = .m := by
    intro n h
    cases n with
    | zero => cases h
    | succ n =>
      rw [climbs, Bool.or_eq_true, beq_iff_eq] at h
      exact h.imp Eq.symm (hs n)
  cases m with
  | vu => exact vs n h
  | hu => exact hs n h
  | vs => exact hs n h
  | hs => exact canServe_of_climbs_m h
  | m => exact canServe_of_climbs_m h

/-! ## A request through a handler -/

variable {goto : Word32 → Exec Unit}

/-- Leaving a handler that has served its request returns behind the `ecall`, in the mode asked for. -/
theorem leave_served (h : Tracks img t t s) (hret : CanReturn t t) (k : Mode) (x : Excpt) (pc : Word) :
    ∃ s', (leaveHandler img (BitVec.ofNat 64 (Hart.ecallCause k)) pc >>= trapRet) { s with excpt := x } =
      .ok (nextInstruction img pc &&& ~~~1#64, s') ∧ Tracks img t t s' := by
  have h' : Tracks img t t { s with excpt := x } := ⟨h.hart, h.real, h.curr, h.conf⟩
  obtain ⟨s', h1, h2, -⟩ := leave_ret h' hret (isInterrupt_ecallCause k) (isInstFault_ecallCause k) pc
  exact ⟨s', h1, h2⟩

/-- A trap to the entry of the machine handler runs it, and its return instruction. -/
theorem trapAt_mhandler (img : Image) : trapAt img goto img.mhandlerEntry = mhandler img goto >>= trapRet := by
  unfold trapAt
  rw [if_pos rfl]
  rfl

/-- A trap to the entry of the hypervisor handler runs it, and its return instruction. -/
theorem trapAt_hshandler (img : Image) : trapAt img goto img.hshandlerEntry = hshandler img goto >>= trapRet := by
  unfold trapAt
  rw [if_neg img.entries.1.symm, if_pos rfl]
  rfl

/-- A trap to the entry of the supervisor handler of the guest runs it, and its return instruction. -/
theorem trapAt_vshandler (img : Image) : trapAt img goto img.vshandlerEntry = vshandler img goto >>= trapRet := by
  obtain ⟨-, hmv, hhv⟩ := img.entries
  unfold trapAt
  rw [if_neg hmv.symm, if_neg hhv.symm, if_pos rfl]
  rfl

/-- A trap of an `ecall` that carries a request: the handler goes on to its end when the request returns, and stops as the
request does. -/
theorem trapAt_run {mode : Mode} {pc : Word} (ht : Trapped img mode pc s.hart) (ha : s.ecallArgs.1 = ecallGotoPriv)
    (hup : mode.user = false) :
    (∀ s₂, goto (s.ecallArgs.2.setWidth 32) { s with realPriv := priv mode } = .ok ((), s₂) → CanServe mode s₂.hart.mode →
      ∃ k x, trapAt img goto s.hart.tvec s =
        (leaveHandler img (BitVec.ofNat 64 (Hart.ecallCause k)) pc >>= trapRet) { s₂ with excpt := x }) ∧
    (∀ e, goto (s.ecallArgs.2.setWidth 32) { s with realPriv := priv mode } = .error e →
      trapAt img goto s.hart.tvec s = .error e) := by
  obtain ⟨k, hk⟩ := ht.cause
  have hepc := ht.epc
  cases mode with
  | vu => cases hup
  | hu => cases hup
  | m =>
    obtain ⟨hok, herr⟩ := @mhandler_run img s goto ht.hart k hk ha
    rw [Hart.tvec, ht.hart, ht.conf.mtvec, trapAt_mhandler]
    constructor
    · intro s₂ hg h₂
      obtain ⟨x, hx⟩ := hok s₂ hg h₂
      rw [bind_congr hx, show s.hart.mcause = _ from hk, show s.hart.mepc = pc from hepc]
      exact ⟨k, x, rfl⟩
    · exact fun e hg => bind_error (herr e hg)
  | hs =>
    obtain ⟨hok, herr⟩ := @hshandler_run img s goto ht.hart k hk ha
    rw [Hart.tvec, ht.hart, ht.conf.stvec, trapAt_hshandler]
    constructor
    · intro s₂ hg h₂
      obtain ⟨x, hx⟩ := hok s₂ hg h₂
      rw [bind_congr hx, show s.hart.scause = _ from hk, show s.hart.sepc = pc from hepc]
      exact ⟨k, x, rfl⟩
    · exact fun e hg => bind_error (herr e hg)
  | vs =>
    obtain ⟨hok, herr⟩ := @vshandler_run img s goto ht.hart k hk ha
    rw [Hart.tvec, ht.hart, ht.conf.vstvec, trapAt_vshandler]
    constructor
    · intro s₂ hg _
      obtain ⟨x, hx⟩ := hok s₂ hg
      rw [bind_congr hx, show s.hart.vscause = _ from hk, show s.hart.vsepc = pc from hepc]
      exact ⟨k, x, rfl⟩
    · exact fun e hg => bind_error (herr e hg)

/-- The instruction after the `ecall` is four bytes behind it, as an `ecall` is never compressed. -/
theorem nextInstruction_ecallPc (img : Image) :
    nextInstruction img img.ecallPc &&& ~~~1#64 = img.ecallPc + 4#64 := by
  unfold nextInstruction
  rw [if_pos img.ecall_text]
  apply and_not_one_of_even
  have h := img.even.1
  rw [BitVec.getLsbD, Nat.testBit_zero, decide_eq_false_iff_not] at h ⊢
  rw [BitVec.toNat_add, show (4#64 : Word).toNat = 4 from rfl]
  omega

/-- A request made by an `ecall`, up to the end of the handler: its `goto_priv` starts in the mode above with the same
`curr_priv`. -/
theorem ecall_serves (h : Sits img m s) (a1 : Word) :
    ∃ s₁, Sits img (up m) s₁ ∧ s₁.currPriv = s.currPriv ∧
      (∀ s₂, goto (a1.setWidth 32) s₁ = .ok ((), s₂) → CanServe (up m) s₂.hart.mode →
        ∃ k x, ∀ s', (leaveHandler img (BitVec.ofNat 64 (Hart.ecallCause k)) img.ecallPc >>= trapRet) { s₂ with excpt := x } =
            .ok (nextInstruction img img.ecallPc &&& ~~~1#64, s') →
          ecall img goto ecallGotoPriv a1 s = .ok (s'.ecallArgs.1, s')) ∧
      (∀ e, goto (a1.setWidth 32) s₁ = .error e → ecall img goto ecallGotoPriv a1 s = .error e) := by
  generalize hs₁ : ({ s with ecallArgs := (ecallGotoPriv, a1), hart := s.hart.ecall img.ecallPc } : Sys) = s₁
  have htrap : Trapped img (up m) img.ecallPc s₁.hart := by
    rw [← hs₁, ← h.hart]
    exact trapped_ecall h.conf img.ecallPc
  have hup : (up m).user = false := by cases m <;> rfl
  have hrun : ecall img goto ecallGotoPriv a1 s =
      (trapAt img goto s₁.hart.tvec >>= fun pc =>
        resume (img.ecallPc + 4#64) pc >>= fun _ => get >>= fun s => pure s.ecallArgs.1) s₁ := by
    rw [← hs₁]
    rfl
  obtain ⟨hok, herr⟩ := @trapAt_run img s₁ goto (up m) img.ecallPc htrap (by rw [← hs₁]) hup
  rw [show s₁.ecallArgs.2 = a1 by rw [← hs₁]] at hok herr
  refine ⟨{ s₁ with realPriv := priv (up m) }, ⟨htrap.hart, rfl, htrap.conf⟩, by rw [← hs₁], ?_, ?_⟩
  · intro s₂ hg hserve
    obtain ⟨k, x, hx⟩ := hok s₂ hg hserve
    refine ⟨k, x, ?_⟩
    intro s' hs'
    rw [hrun, bind_ok (hx.trans hs'), nextInstruction_ecallPc, resume, if_pos rfl]
    rfl
  · intro e hg
    rw [hrun]
    exact bind_error (herr e hg)

/-- A request made by an `ecall`: served in the mode asked for, or stopped as the request is. -/
theorem ecall_run (h : Tracks img m c s) (t : Mode) :
    (CanServe (up m) t → (∀ s₁, Tracks img (up m) c s₁ → ∃ s₂, goto (priv t) s₁ = .ok ((), s₂) ∧ Tracks img t t s₂) →
      ∃ v s', ecall img goto ecallGotoPriv ((priv t).signExtend 64) s = .ok (v, s') ∧ Tracks img t t s') ∧
    (∀ e, (∀ s₁, Tracks img (up m) c s₁ → goto (priv t) s₁ = .error e) →
      ecall img goto ecallGotoPriv ((priv t).signExtend 64) s = .error e) := by
  obtain ⟨s₁, h₁, hcurr, hok, herr⟩ := @ecall_serves img s m goto (sits h) ((priv t).signExtend 64)
  rw [Fields.setWidth_signExtend (priv t) (by decide)] at hok herr
  have hcall : Tracks img (up m) c s₁ := ⟨h₁.hart, h₁.real, hcurr.trans h.curr, h₁.conf⟩
  constructor
  · intro hserve hg
    obtain ⟨s₂, hg₂, h₂⟩ := hg s₁ hcall
    obtain ⟨k, x, hx⟩ := hok s₂ hg₂ (by rwa [h₂.hart])
    obtain ⟨s', hs', h'⟩ := leave_served h₂ hserve.canReturn k x img.ecallPc
    exact ⟨_, s', hx s' hs', h'⟩
  · intro e hg
    exact herr e (hg s₁ hcall)

/-! ## The climb -/

/-- A request for a supervisor or machine mode above `curr_priv` is served when the climb meets the target, and otherwise makes
one activation after the other until the fuel is used up. -/
theorem gotoPriv_climb (htu : t.user = false) (hct : priv c < priv t) (n : Nat) (h : Tracks img m c s) :
    if climbs n m t then ∃ s', gotoPriv img n (priv t) s = .ok ((), s') ∧ Tracks img t t s'
    else gotoPriv img n (priv t) s = .error .outOfFuel := by
  induction n generalizing m s with
  | zero => rfl
  | succ n ih =>
    have hu : ¬ (isUser (priv t) = true ∧ isUser s.currPriv = true) := by
      rw [isUser_priv, htu]
      exact fun hf => Bool.false_ne_true hf.1
    by_cases hmt : m = t
    · subst hmt
      rw [climbs, beq_self_eq_true, Bool.true_or, if_pos rfl]
      refine ⟨{ s with onGoing := false, currPriv := priv m }, ?_, ⟨h.hart, h.real, rfl, h.conf⟩⟩
      simp only [gotoPriv, bind_run, get_run, if_neg hu, if_pos (Or.inl h.real), modify_run]
    · have hreal : ¬ (s.realPriv = priv t ∨ privMax.sle (priv t) = true) := by
        rw [h.real, priv_inj, privMax_sle]
        exact fun ho => ho.elim hmt Bool.false_ne_true
      have hcurr : s.currPriv < priv t := by rwa [h.curr]
      have hbeq : (m == t) = false := beq_false_of_ne hmt
      have hgo : Tracks img m c { s with onGoing := true } := ⟨h.hart, h.real, h.curr, h.conf⟩
      have hrun : gotoPriv img (n + 1) (priv t) s =
          (ecall img (gotoPriv img n) ecallGotoPriv ((priv t).signExtend 64) >>= fun _ => pure ())
            { s with onGoing := true } := by
        simp only [gotoPriv, bind_run, get_run, if_neg hu, if_neg hreal, modify_run, if_pos hcurr]
      obtain ⟨hok, herr⟩ := @ecall_run img { s with onGoing := true } m c (gotoPriv img n) hgo t
      rw [climbs, hbeq, Bool.false_or, hrun]
      by_cases hcl : climbs n (up m) t = true
      · rw [if_pos hcl]
        obtain ⟨v, s', hs', h'⟩ := hok (canServe_of_climbs hcl) fun s₁ h₁ => by
          have := ih h₁
          rwa [if_pos hcl] at this
        exact ⟨s', bind_ok hs', h'⟩
      · rw [if_neg hcl]
        refine bind_error (herr _ ?_)
        intro s₁ h₁
        have := ih h₁
        rwa [if_neg hcl] at this

/-! ## A call -/

/-- What `goto_priv` does once it is not on its way between two user modes. -/
def arrive (img : Image) (fuel : Nat) (targetPriv : Word32) : Exec Unit := fun s =>
  if s.realPriv = targetPriv ∨ privMax.sle targetPriv then .ok ((), { s with onGoing := false, currPriv := targetPriv })
  else if s.currPriv < targetPriv then
    (ecall img (gotoPriv img fuel) ecallGotoPriv (targetPriv.signExtend 64) >>= fun _ => pure ()) { s with onGoing := true }
  else lowerPriv img targetPriv { s with onGoing := false }

/-- An activation of `goto_priv` goes to M-mode first when it is on its way between two user modes. -/
theorem gotoPriv_succ (img : Image) (n : Nat) (p : Word32) (s : Sys) :
    gotoPriv img (n + 1) p s =
      if isUser p ∧ isUser s.currPriv then (gotoPriv img n privM >>= fun _ => arrive img n p) s else arrive img n p s := by
  have harrive : ∀ s : Sys, (do
      let s ← get
      if s.realPriv = p ∨ privMax.sle p then
        modify fun s => { s with onGoing := false, currPriv := p }
      else
        modify fun s => { s with onGoing := true }
        if s.currPriv < p then
          let _ ← ecall img (gotoPriv img n) ecallGotoPriv (p.signExtend 64)
        else
          modify fun s => { s with onGoing := false }
          lowerPriv img p : Exec Unit) s = arrive img n p s := by
    intro s
    simp only [arrive, bind_run, get_run]
    split
    · rfl
    · split
      · simp only [bind_run, modify_run]
      · rfl
  simp only [gotoPriv, bind_run, get_run]
  split
  · simp only [bind_run]
    cases gotoPriv img n privM s with
    | error e => rfl
    | ok r => exact harrive r.2
  · exact harrive s

/-- A request for the mode the hart is in already is served at once. -/
theorem arrive_same (h : Tracks img c c s) (n : Nat) : ∃ s', arrive img n (priv c) s = .ok ((), s') ∧ Tracks img c c s' :=
  ⟨_, if_pos (Or.inl h.real), ⟨h.hart, h.real, rfl, h.conf⟩⟩

/-- A request for a mode below goes down with `lower_priv`. -/
theorem arrive_below (h : Tracks img c c s) (hlt : priv t < priv c) (n : Nat) :
    arrive img n (priv t) s = lowerPriv img (priv t) { s with onGoing := false } := by
  have hne : ¬ (s.realPriv = priv t ∨ privMax.sle (priv t) = true) := by
    rw [h.real, privMax_sle]
    intro he
    rcases he with he | hf
    · exact absurd hlt (by rw [he]; exact BitVec.lt_irrefl _)
    · cases hf
  have hle : ¬ s.currPriv < priv t := by
    rw [h.curr]
    exact fun hf => absurd (BitVec.lt_trans hf hlt) (BitVec.lt_irrefl _)
  unfold arrive
  rw [if_neg hne, if_neg hle]

/-- A request for a mode below the current one is served by `lower_priv` and tracked, except from VS to HU. -/
theorem arrive_lower (h : Tracks img c c s) (hu : c.user = false) (hlt : priv t < priv c) (hvh : ¬ (c = .vs ∧ t = .hu))
    (n : Nat) :
    ∃ s', arrive img n (priv t) s = .ok ((), s') ∧ Tracks img t t s' := by
  have h' : Tracks img c c { s with onGoing := false } := ⟨h.hart, h.real, h.curr, h.conf⟩
  have htm : t ≠ .m := by
    rintro rfl
    exact absurd hlt (by cases c <;> decide)
  rw [arrive_below h hlt]
  cases c with
  | m => exact lowerPriv_m h' htm hlt
  | hs => exact lowerPriv_hs h' htm hlt
  | vs =>
    cases t with
    | vu => exact lowerPriv_vs h'
    | hu => exact absurd ⟨rfl, rfl⟩ hvh
    | _ => exact absurd hlt (by decide)
  | hu => cases hu
  | vu => cases hu

/-- The way from VS down to HU is refused with the message of `lower_priv`. -/
theorem arrive_vs_hu (h : Tracks img .vs .vs s) (n : Nat) :
    arrive img n (priv .hu) s = .error (.error "trying to go from vs to hu") := by
  have h' : Tracks img .vs .vs { s with onGoing := false } := ⟨h.hart, h.real, h.curr, h.conf⟩
  rw [arrive_below h (by decide)]
  exact lowerPriv_vs_hu h'

/-- `n` activations are enough for the call to return. -/
def answers (n : Nat) (c t : Mode) : Bool :=
  match n with
  | 0 => false
  | n + 1 =>
    if c.user && t.user then climbs n c .m
    else if priv c < priv t then climbs (n + 1) c t
    else true

/-- A call of `goto_priv`, except from VS to HU: it returns in the mode asked for when it has enough activations, and otherwise
uses them up. -/
theorem gotoPriv_run (h : Tracks img c c s) (hvh : ¬ (c = .vs ∧ t = .hu)) (n : Nat) :
    if answers n c t then ∃ s', gotoPriv img n (priv t) s = .ok ((), s') ∧ Tracks img t t s'
    else gotoPriv img n (priv t) s = .error .outOfFuel := by
  cases n with
  | zero => rfl
  | succ n =>
    rw [answers]
    by_cases hu : c.user = true ∧ t.user = true
    · -- both are user modes: up to M mode, and down from there
      have hcond : isUser (priv t) = true ∧ isUser s.currPriv = true := by
        rw [h.curr, isUser_priv, isUser_priv]
        exact hu.symm
      have hclimb := gotoPriv_climb (t := .m) rfl (user_lt_m hu.1) n h
      rw [gotoPriv_succ, if_pos hcond, hu.1, hu.2, Bool.and_true, if_pos rfl]
      split at hclimb
      · rename_i hcl
        obtain ⟨s₁, hs₁, h₁⟩ := hclimb
        obtain ⟨s', hs', h'⟩ := arrive_lower h₁ rfl (user_lt_m hu.2)
          (fun hf => Mode.noConfusion hf.1) n
        rw [if_pos hcl]
        exact ⟨s', (bind_ok hs₁).trans hs', h'⟩
      · rename_i hcl
        rw [if_neg hcl]
        exact bind_error hclimb
    · have hcond : ¬ (isUser (priv t) = true ∧ isUser s.currPriv = true) := by
        rw [h.curr, isUser_priv, isUser_priv]
        exact fun hf => hu hf.symm
      have hb : (c.user && t.user) = false := by
        rw [← Bool.not_eq_true, Bool.and_eq_true]
        exact hu
      rw [hb, if_neg Bool.false_ne_true]
      by_cases hlt : priv c < priv t
      · have htu : t.user = false := by
          revert hu hlt
          cases c <;> cases t <;> decide
        rw [if_pos hlt]
        exact gotoPriv_climb htu hlt (n + 1) h
      · rw [if_neg hlt, if_pos rfl, gotoPriv_succ, if_neg hcond]
        by_cases hct : c = t
        · subst hct
          exact arrive_same h n
        · have hlow : c.user = false ∧ priv t < priv c := by
            revert hu hlt hct
            cases c <;> cases t <;> decide
          exact arrive_lower h hlow.1 hlow.2 hvh n

/-- A call of `goto_priv` from VS to HU is refused with the message of `lower_priv`. -/
theorem gotoPriv_vs_hu (h : Tracks img .vs .vs s) (n : Nat) :
    gotoPriv img (n + 1) (priv .hu) s = .error (.error "trying to go from vs to hu") := by
  have hcond : ¬ (isUser (priv .hu) = true ∧ isUser s.currPriv = true) := by
    rw [h.curr]
    decide
  rw [gotoPriv_succ, if_neg hcond, arrive_vs_hu h n]

/-- A target that the climb meets is met with more activations too. -/
theorem climbs_mono {n : Nat} (h : climbs n m t = true) (k : Nat) : climbs (n + k) m t = true := by
  induction n generalizing m with
  | zero => cases h
  | succ n ih =>
    rw [Nat.add_right_comm, climbs, Bool.or_eq_true]
    rw [climbs, Bool.or_eq_true] at h
    exact h.imp_right ih

/-- A climb from HU-mode goes past VS-mode, since the `ecall` from HU-mode traps to HS-mode. -/
theorem climbs_hu_vs (n : Nat) : climbs n .hu .vs = false := by
  cases n with
  | zero => rfl
  | succ n =>
    rw [← Bool.not_eq_true, climbs, Bool.or_eq_true]
    intro h
    rcases h with h | h
    · cases h
    · exact absurd (@canServe_of_climbs .hu .vs n h) (by simp [up, CanServe])

/-- Five activations are enough for every call but that from HU-mode to VS-mode, which no number of them is enough for. -/
theorem answers_five (n : Nat) : answers (n + 5) c t = true ↔ ¬ (c = .hu ∧ t = .vs) := by
  by_cases hbad : c = .hu ∧ t = .vs
  · obtain ⟨rfl, rfl⟩ := hbad
    have h : answers (n + 5) .hu .vs = false := climbs_hu_vs (n + 5)
    simp [h]
  · simp only [hbad, not_false_iff, iff_true]
    rw [answers]
    split
    · rename_i hu
      have h4 : climbs 4 c .m = true := by
        revert hu
        cases c <;> cases t <;> decide
      rw [Nat.add_comm]
      exact climbs_mono h4 n
    · split
      · rename_i hu hlt
        have h5 : climbs 5 c t = true := by
          revert hu hlt hbad
          cases c <;> cases t <;> decide
        rw [show n + 4 + 1 = 5 + n by omega]
        exact climbs_mono h5 n
      · rfl

/-- A call from HU to VS uses up every number of activations. -/
theorem gotoPriv_hu_vs (h : Tracks img .hu .hu s) (n : Nat) : gotoPriv img n (priv .vs) s = .error .outOfFuel := by
  have hrun := gotoPriv_climb (t := .vs) rfl (by decide) n h
  rwa [climbs_hu_vs, if_neg Bool.false_ne_true] at hrun

/-! ## Sequences of calls -/

/-- A run of calls that all return ends in the mode of the last; a run that stops is out of fuel or refused. -/
theorem gotoAll_run (h : Tracks img c c s) (n : Nat) (ts : List Mode) :
    (∀ s', gotoAll img n ts s = .ok ((), s') → Tracks img (ts.getLastD c) (ts.getLastD c) s') ∧
    (∀ e, gotoAll img n ts s = .error e → e = .outOfFuel ∨ e = .error "trying to go from vs to hu") := by
  induction ts generalizing c s with
  | nil =>
    constructor
    · intro s' hs'
      cases hs'
      exact h
    · intro e he
      cases he
  | cons t ts ih =>
    rw [List.getLastD_cons, gotoAll, bind_run]
    by_cases hvh : c = .vs ∧ t = .hu
    · -- the refused call
      obtain ⟨rfl, rfl⟩ := hvh
      cases n with
      | zero => exact ⟨fun s' hs' => (by cases hs'), fun e he => Or.inl (by cases he; rfl)⟩
      | succ n =>
        rw [gotoPriv_vs_hu h n]
        exact ⟨fun s' hs' => (by cases hs'), fun e he => Or.inr (by cases he; rfl)⟩
    · have hrun := gotoPriv_run h hvh n
      split at hrun
      · obtain ⟨s₁, hs₁, h₁⟩ := hrun
        rw [hs₁]
        exact ih h₁
      · rw [hrun]
        exact ⟨fun s' hs' => (by cases hs'), fun e he => Or.inl (by cases he; rfl)⟩

/-- A sequence none of whose calls goes from HU to VS returns, or is stopped by a call from VS to HU. -/
theorem gotoAll_answers (h : Tracks img c c s) (n : Nat) {ts : List Mode}
    (hts : (c :: ts).IsChain fun c t => ¬ (c = .hu ∧ t = .vs)) :
    (∃ s', gotoAll img (n + 5) ts s = .ok ((), s')) ∨
      gotoAll img (n + 5) ts s = .error (.error "trying to go from vs to hu") ∧
        ¬ (c :: ts).IsChain fun c t => ¬ (c = .vs ∧ t = .hu) := by
  induction ts generalizing c s with
  | nil => exact Or.inl ⟨s, rfl⟩
  | cons t ts ih =>
    obtain ⟨hct, hts⟩ := List.isChain_cons_cons.1 hts
    rw [gotoAll, bind_run, List.isChain_cons_cons]
    by_cases hvh : c = .vs ∧ t = .hu
    · obtain ⟨rfl, rfl⟩ := hvh
      rw [gotoPriv_vs_hu h (n + 4)]
      exact Or.inr ⟨rfl, fun hf => hf.1 ⟨rfl, rfl⟩⟩
    · have hrun := gotoPriv_run h hvh (n + 5)
      rw [if_pos ((answers_five n).2 hct)] at hrun
      obtain ⟨s₁, hs₁, h₁⟩ := hrun
      rw [hs₁]
      exact (ih h₁ hts).imp_right fun hf => ⟨hf.1, fun hc => hf.2 hc.2⟩

/-! ## `reset_state` -/

/-- A write to a CSR does not change the mode. -/
theorem put_mode (h : Hart) (c : Csr) (v : Value) : (h.put c v).mode = h.mode := by
  cases c <;> rfl

/-- In M-mode the hart reads every register that the model has. -/
theorem csrr_m (hm : s.hart.mode = .m) (c : Csr) : csrr c s = .ok (s.hart.get c, s) := by
  simp only [csrr, Hart.read, hm, Csr.resolve, Option.map_some]

/-- In M-mode the hart writes every register that the model has. -/
theorem csrw_m (hm : s.hart.mode = .m) (c : Csr) (v : Word) :
    csrw c v s = .ok ((), { s with hart := s.hart.put c v }) := by
  simp only [csrw, Hart.write, hm, Csr.resolve, Option.map_some]

/-- `reset_state` in M-mode needs one activation of `goto_priv` and sets up the configuration that the modes are tracked in. -/
theorem resetState_run (hm : s.hart.mode = .m) (hreal : s.realPriv = privM) (n : Nat) :
    ∃ s', resetState img (n + 1) s = .ok ((), s') ∧ Tracks img .m .m s' := by
  have hgoto : gotoPriv img (n + 1) privM s = .ok ((), { s with onGoing := false, currPriv := privM }) := by
    have hu : ¬ (isUser privM = true ∧ isUser s.currPriv = true) := fun hf => absurd hf.1 (by decide)
    rw [gotoPriv_succ, if_neg hu, arrive, if_pos (Or.inl hreal)]
  simp only [resetState, csrs, bind_run, hgoto, csrw_m, csrr_m, put_mode, hm]
  refine ⟨_, rfl, ⟨?_, hreal, rfl, ?_⟩⟩
  · simp only [put_mode, hm]
  · simp only [Hart.put, Hart.get]
    constructor <;> simp

end GotoAux

end RvIommuTests
