import RvIommuTests.Trap.Requests
import RvIommuTests.Lemmas.Goto

/-!
# Runs of requests for any number

The invariant of the calls is `Settled`: the hart's mode is `real_priv`, and `curr_priv` is this mode or no mode at all.
-/

namespace RvIommuTests

open Riscv PrivAux GotoAux

/-- Between two calls of `goto_priv`: `curr_priv` is the mode of the hart, or a number from a request for no mode. -/
def Settled (img : Image) (c : Mode) (s : Sys) : Prop := Sits img c s ∧ (s.currPriv = priv c ∨ NoMode s.currPriv)

namespace RequestAux

variable {img : Image} {s s' : Sys} {m c t : Mode} {p : Word32}

/-! ## Numbers that are no mode -/

theorem noMode_ne_priv (hp : NoMode p) (t : Mode) : p ≠ priv t := by
  rintro rfl
  rw [NoMode, privMax_sle] at hp
  cases hp

theorem noMode_not_user (hp : NoMode p) : isUser p = false := by
  rw [isUser, Bool.or_eq_false_iff, beq_eq_false_iff_ne, beq_eq_false_iff_ne]
  exact ⟨noMode_ne_priv hp .vu, noMode_ne_priv hp .hu⟩

/-- As an unsigned number it lies between the modes and the negative ones. -/
theorem noMode_bounds : NoMode p ↔ 5 ≤ p.toNat ∧ p.toNat < 2 ^ 31 := by
  have h := p.isLt
  rw [NoMode, BitVec.sle_iff_toInt_le, show privMax.toInt = 5 from rfl, BitVec.toInt_eq_toNat_cond]
  split <;> omega

/-- Every number that `goto_priv` can be called with is that of a mode, of none, or negative. -/
theorem number_cases (p : Word32) : (∃ t, p = priv t) ∨ NoMode p ∨ 2 ^ 31 ≤ p.toNat := by
  by_cases h : p.toNat < 5
  · have hp : p = 0#32 ∨ p = 1#32 ∨ p = 2#32 ∨ p = 3#32 ∨ p = 4#32 := by bv_omega
    left
    rcases hp with rfl | rfl | rfl | rfl | rfl
    · exact ⟨.vu, rfl⟩
    · exact ⟨.hu, rfl⟩
    · exact ⟨.vs, rfl⟩
    · exact ⟨.hs, rfl⟩
    · exact ⟨.m, rfl⟩
  · rw [noMode_bounds]
    omega

/-- Between two calls `curr_priv` is a mode, or a number of none that is not negative. -/
theorem settled_not_negative (h : Settled img c s) : s.currPriv.toNat < 2 ^ 31 := by
  rcases h.2 with hc | hc
  · rw [hc]
    cases c <;> decide
  · exact (noMode_bounds.1 hc).2

/-- A negative number is no mode, and is not rejected. -/
theorem negative_facts (hp : 2 ^ 31 ≤ p.toNat) : (∀ t, p ≠ priv t) ∧ isUser p = false ∧ privMax.sle p = false := by
  have hmode : ∀ t, p ≠ priv t := by
    rintro t rfl
    exact absurd hp (by cases t <;> decide)
  refine ⟨hmode, ?_, ?_⟩
  · rw [isUser, Bool.or_eq_false_iff, beq_eq_false_iff_ne, beq_eq_false_iff_ne]
    exact ⟨hmode .vu, hmode .hu⟩
  · rw [← Bool.not_eq_true]
    intro hf
    have := (noMode_bounds.1 hf).2
    omega

/-! ## A request for no mode -/

/-- A call for no mode takes the branch of a call for the mode that is reached already. -/
theorem gotoPriv_noMode (hp : NoMode p) (n : Nat) (s : Sys) :
    gotoPriv img (n + 1) p s = .ok ((), { s with onGoing := false, currPriv := p }) := by
  have hu : ¬ (isUser p = true ∧ isUser s.currPriv = true) := by
    rw [noMode_not_user hp]
    exact fun hf => Bool.false_ne_true hf.1
  rw [gotoPriv_succ, if_neg hu, arrive, if_pos (show s.realPriv = p ∨ privMax.sle p = true from Or.inr hp)]

/-- Where a handler returns to when `curr_priv` is no mode: no bit of the status words is set. -/
def fallen : Mode → Mode
  | .m => .hu
  | .hs => .hu
  | _ => .vu

theorem canReturn_fallen (hm : m.user = false) : CanReturn m (fallen m) := by
  cases m <;> simp_all [CanReturn, fallen, Mode.user]

/-- `return_from_exception` to no mode sets the status bits of a user mode. -/
theorem returnFromException_noMode (hp : NoMode p) (m : Mode) :
    returnFromException img (priv m) p = returnFromException img (priv m) (priv (fallen m)) := by
  have hvu : p ≠ 0#32 := noMode_ne_priv hp .vu
  have hvs : p ≠ 2#32 := noMode_ne_priv hp .vs
  have hhs : p ≠ 3#32 := noMode_ne_priv hp .hs
  have hm : p ≠ 4#32 := noMode_ne_priv hp .m
  funext cause epc
  cases m <;>
    simp [returnFromException, fallen, priv, hvu, hvs, hhs, hm, privVU, privHU, privVS, privHS, privM]

/-- A handler that carries a request for no mode returns to a user mode, with `curr_priv` and `real_priv` set to the number. -/
theorem ecall_noMode (h : Sits img m s) {a1 : Word} (hp : NoMode (a1.setWidth 32)) (n : Nat) :
    ∃ v s', ecall img (gotoPriv img (n + 1)) ecallGotoPriv a1 s = .ok (v, s') ∧ s'.hart.mode = fallen (up m) ∧
      s'.realPriv = a1.setWidth 32 ∧ s'.currPriv = a1.setWidth 32 := by
  have hup : (up m).user = false := by cases m <;> rfl
  obtain ⟨s₁, h₁, -, hok, -⟩ := @ecall_serves img s m (gotoPriv img (n + 1)) h a1
  obtain ⟨k, x, hx⟩ := hok _ (gotoPriv_noMode hp n s₁) (by
    rw [h₁.hart]
    cases m <;> simp [up, CanServe])
  obtain ⟨s', hs', hmode, -, hreal, hcurr, -⟩ := @leave_goes img
    { s₁ with onGoing := false, currPriv := a1.setWidth 32, excpt := x } (up m) (fallen (up m)) ⟨h₁.hart, h₁.real, h₁.conf⟩
    (returnFromException_noMode hp (up m)) (canReturn_fallen hup) _ (isInterrupt_ecallCause k) (isInstFault_ecallCause k)
    img.ecallPc
  exact ⟨_, s', hx s' hs', hmode, hreal, hcurr⟩

/-! ## A call after it -/

/-- A call for a mode when `curr_priv` is no mode: it returns when the hart is in the mode, and otherwise no case of
`set_prev_priv` is met. -/
theorem gotoPriv_astray (h : Sits img c s) (hcurr : NoMode s.currPriv) (t : Mode) (n : Nat) :
    gotoPriv img (n + 1) (priv t) s =
      if c = t then .ok ((), { s with onGoing := false, currPriv := priv t })
      else .error (.error "unknown current priv %d (%s)\n") := by
  have hu : ¬ (isUser (priv t) = true ∧ isUser s.currPriv = true) := by
    rw [noMode_not_user hcurr]
    exact fun hf => Bool.false_ne_true hf.2
  have hreal : s.realPriv = priv t ∨ privMax.sle (priv t) = true ↔ c = t := by
    simp [h.real, priv_inj, privMax_sle]
  rw [gotoPriv_succ, if_neg hu, arrive]
  by_cases hct : c = t
  · rw [if_pos (hreal.2 hct), if_pos hct]
  · have hlow := (noMode_bounds.1 hcurr).1
    have ht : (priv t).toNat < 5 := by cases t <;> decide
    have hlt : ¬ s.currPriv < priv t := by
      rw [BitVec.lt_def]
      omega
    have hle : ¬ s.currPriv ≤ priv t := by
      rw [BitVec.le_def]
      omega
    have hvs : s.currPriv ≠ privVS := noMode_ne_priv hcurr .vs
    have hhs : s.currPriv ≠ privHS := noMode_ne_priv hcurr .hs
    have hm : s.currPriv ≠ privM := noMode_ne_priv hcurr .m
    rw [if_neg fun hf => hct (hreal.1 hf), if_neg hct, if_neg hlt]
    simp only [lowerPriv, bind_run, get_run, if_neg (noMode_ne_priv hcurr t).symm, if_neg hle, hvs, false_and, if_false,
      setPrevPriv, if_neg hm, if_neg hhs, error_run]

/-- A call for a negative number makes one nested activation after the other: in every handler `curr_priv` is still below it. -/
theorem gotoPriv_negative (hp : 2 ^ 31 ≤ p.toNat) (n : Nat) (h : Sits img m s) (hcurr : s.currPriv.toNat < 2 ^ 31) :
    gotoPriv img n p s = .error .outOfFuel := by
  induction n generalizing m s with
  | zero => rfl
  | succ n ih =>
    obtain ⟨hmode, hu, hmax⟩ := negative_facts hp
    have hcond : ¬ (isUser p = true ∧ isUser s.currPriv = true) := by
      rw [hu]
      exact fun hf => Bool.false_ne_true hf.1
    have hreal : ¬ (s.realPriv = p ∨ privMax.sle p = true) := by
      rw [h.real, hmax]
      exact fun hf => hf.elim (fun he => hmode m he.symm) Bool.false_ne_true
    have hlt : s.currPriv < p := by
      rw [BitVec.lt_def]
      omega
    obtain ⟨s₁, h₁, hcurr₁, -, herr⟩ := @ecall_serves img { s with onGoing := true } m (gotoPriv img n)
      ⟨h.hart, h.real, h.conf⟩ (p.signExtend 64)
    rw [Fields.setWidth_signExtend p (by decide)] at herr
    rw [gotoPriv_succ, if_neg hcond, arrive, if_neg hreal, if_pos hlt]
    refine bind_error (herr _ (ih h₁ ?_))
    rw [hcurr₁]
    exact hcurr

/-! ## Sessions -/

/-- A call that returns leaves the modes settled, whichever number it was called with. -/
theorem gotoPriv_settled (h : Settled img c s) {n : Nat} (hs' : gotoPriv img n p s = .ok ((), s')) : ∃ t, Settled img t s' := by
  cases n with
  | zero => cases hs'
  | succ n =>
    rcases number_cases p with ⟨t, rfl⟩ | hp | hp
    · rcases h.2 with hc | hc
      · have htracks : Tracks img c c s := ⟨h.1.hart, h.1.real, hc, h.1.conf⟩
        have hvh : ¬ (c = .vs ∧ t = .hu) := by
          rintro ⟨rfl, rfl⟩
          rw [gotoPriv_vs_hu htracks n] at hs'
          cases hs'
        have hrun := gotoPriv_run htracks hvh (n + 1)
        split at hrun
        · obtain ⟨s₁, hs₁, h₁⟩ := hrun
          rw [hs₁] at hs'
          cases hs'
          exact ⟨t, sits h₁, Or.inl h₁.curr⟩
        · rw [hrun] at hs'
          cases hs'
      · rw [gotoPriv_astray h.1 hc] at hs'
        split at hs'
        · rename_i hct
          cases hs'
          exact ⟨c, ⟨h.1.hart, h.1.real, h.1.conf⟩, Or.inl (by rw [hct])⟩
        · cases hs'
    · rw [gotoPriv_noMode hp] at hs'
      cases hs'
      exact ⟨c, ⟨h.1.hart, h.1.real, h.1.conf⟩, Or.inr hp⟩
    · rw [gotoPriv_negative hp (n + 1) h.1 (settled_not_negative h)] at hs'
      cases hs'

/-- Calls that all return leave the modes settled, by induction over the calls. -/
theorem callAll_settled (h : Settled img c s) {n : Nat} {ps : List Word32} (hs' : callAll img n ps s = .ok ((), s')) :
    ∃ t, Settled img t s' := by
  induction ps generalizing c s with
  | nil =>
    cases hs'
    exact ⟨c, h⟩
  | cons p ps ih =>
    rw [callAll, bind_run] at hs'
    cases hcall : gotoPriv img n p s with
    | error e =>
      rw [hcall] at hs'
      cases hs'
    | ok r =>
      obtain ⟨⟨⟩, s₁⟩ := r
      rw [hcall] at hs'
      obtain ⟨t, h₁⟩ := gotoPriv_settled h hcall
      exact ih h₁ hs'

/-- A session that has returned, from M-mode after the boot, leaves the modes settled. -/
theorem callSession_settled {s₀ : Sys} (hm : s₀.hart.mode = .m) (hreal : s₀.realPriv = privM) {fuel : Nat}
    {ps : List Word32} (hs : callSession img fuel ps s₀ = .ok ((), s)) : ∃ c, Settled img c s := by
  cases fuel with
  | zero => cases hs
  | succ n =>
    obtain ⟨s₁, hs₁, h₁⟩ := @resetState_run img s₀ hm hreal n
    rw [callSession, bind_ok hs₁] at hs
    exact callAll_settled ⟨sits h₁, Or.inl h₁.curr⟩ hs

end RequestAux

end RvIommuTests
