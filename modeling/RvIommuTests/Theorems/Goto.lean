import RvIommuTests.Lemmas.Goto

/-!
# What `goto_priv` does to the mode

Sequences of calls after `reset_state`: a call that returns has tracked the mode rightly, and when a call returns.
-/

namespace RvIommuTests

open Riscv PrivAux GotoAux

/-- The state that `reset_state` starts from at boot. -/
structure Boot (s : Sys) : Prop where
  mode : s.hart.mode = .m
  real : s.realPriv = privM

/-- `reset_state` and a sequence of calls. -/
def session (img : Image) (fuel : Nat) (ts : List Mode) : Exec Unit := do
  resetState img fuel
  gotoAll img fuel ts

/-- How a session goes on after `reset_state`. -/
theorem session_run_succ {img : Image} {s₀ : Sys} (hboot : Boot s₀) (n : Nat) (ts : List Mode) :
    ∃ s₁, Tracks img .m .m s₁ ∧ session img (n + 1) ts s₀ = gotoAll img (n + 1) ts s₁ := by
  obtain ⟨s₁, hs₁, h₁⟩ := @resetState_run img s₀ hboot.mode hboot.real n
  exact ⟨s₁, h₁, bind_ok hs₁⟩

/-- A session that has returned tracks the mode of its last call. A session that stops is out of fuel or refused. -/
theorem session_run {img : Image} {s₀ : Sys} (hboot : Boot s₀) (fuel : Nat) (ts : List Mode) :
    (∀ s, session img fuel ts s₀ = .ok ((), s) → Tracks img (ts.getLastD .m) (ts.getLastD .m) s) ∧
    (∀ e, session img fuel ts s₀ = .error e → e = .outOfFuel ∨ e = .error "trying to go from vs to hu") := by
  cases fuel with
  | zero => exact ⟨fun s hs => (by cases hs), fun e he => Or.inl (by cases he; rfl)⟩
  | succ n =>
    obtain ⟨s₁, h₁, h⟩ := session_run_succ hboot n ts
    rw [h]
    exact gotoAll_run h₁ (n + 1) ts

/-- Privilege tracking is never wrong: when every call of a sequence has returned, the mode of the hart, `curr_priv` and
`real_priv` are the target of the last call. A sequence that stops short was refused, or a chain of activations used up the fuel:
control never leaves the calling code, and no access or return instruction is refused by the mode it is made in. -/
theorem goto_priv_tracks {img : Image} {s₀ : Sys} (hboot : Boot s₀) (fuel : Nat) (ts : List Mode) (t : Mode) :
    (∀ s, session img fuel (ts ++ [t]) s₀ = .ok ((), s) →
      s.hart.mode = t ∧ s.currPriv = priv t ∧ s.realPriv = priv t) ∧
    (∀ e, session img fuel (ts ++ [t]) s₀ = .error e →
      e = .outOfFuel ∨ e = .error "trying to go from vs to hu") := by
  obtain ⟨hok, herr⟩ := session_run hboot fuel (ts ++ [t])
  refine ⟨?_, herr⟩
  intro s hs
  have ht := hok s hs
  rw [List.getLastD_concat] at ht
  exact ⟨ht.hart, ht.curr, ht.real⟩

/-- An image whose code is full of `ecall`s. -/
def Image.plain : Image where
  text := fun _ => 0x73#16
  mhandlerEntry := 0x80000100#64
  hshandlerEntry := 0x80000200#64
  vshandlerEntry := 0x80000300#64
  ecallPc := 0x80001000#64
  mretLabel := 0x80001010#64
  sretLabel := 0x80001020#64
  entries := by decide
  ecall_text := by decide
  even := by decide

/-- A hart after a reset, in M mode. -/
def Sys.boot : Sys where
  hart := {
    mode := .m, mstatus := 0, mtvec := 0, medeleg := 0, mideleg := 0, mip := 0, mepc := 0, mcause := 0, mtval := 0,
    mtval2 := 0, mtinst := 0, stvec := 0, sepc := 0, scause := 0, stval := 0, hstatus := 0, hedeleg := 0, hideleg := 0,
    htval := 0, htinst := 0, vsstatus := 0, vstvec := 0, vsepc := 0, vscause := 0, vstval := 0 }
  currPriv := privM
  realPriv := privM
  onGoing := false
  excpt := ⟨false, false, 0, 0, 0, 0, 0, 0, false, false, 0⟩
  ecallArgs := (0, 0)

theorem boot_boot : Boot Sys.boot := ⟨rfl, rfl⟩

theorem session_returns {img : Image} {s₀ : Sys} (hboot : Boot s₀) (n : Nat) {ts : List Mode}
    (hup : (Mode.m :: ts).IsChain fun c t => ¬ (c = .hu ∧ t = .vs))
    (hdown : (Mode.m :: ts).IsChain fun c t => ¬ (c = .vs ∧ t = .hu)) : ∃ s, session img (n + 5) ts s₀ = .ok ((), s) := by
  obtain ⟨s₁, h₁, h⟩ := session_run_succ hboot (n + 4) ts
  rw [h]
  exact (gotoAll_answers h₁ n hup).resolve_right fun hf => hf.2 hdown

/-- The theorem at a session that lowers the mode to VU, and then has a request climb through VS and HS to M. -/
theorem goto_priv_tracks_at :
    ∃ s, session Image.plain 5 [.vu, .m] Sys.boot = .ok ((), s) ∧ s.hart.mode = .m ∧ s.currPriv = privM ∧
      s.realPriv = privM := by
  obtain ⟨s, hs⟩ := @session_returns Image.plain Sys.boot boot_boot 0 [.vu, .m] (by decide) (by decide)
  exact ⟨s, hs, (goto_priv_tracks boot_boot 5 [.vu] .m).1 s hs⟩

/-! ## Termination -/

/-- The code has come to an end: it has returned, or an `ERROR` check has stopped it. -/
def Finished (r : Except Stop (Unit × Sys)) : Prop := (∃ s, r = .ok ((), s)) ∨ ∃ msg, r = .error (.error msg)

/-- A call terminates: some number of nested activations is enough for it. -/
def Terminates (img : Image) (t : Mode) (s : Sys) : Prop := ∃ N, ∀ n, N ≤ n → Finished (gotoPriv img n (priv t) s)

theorem not_terminates_hu_vs {img : Image} {s : Sys} (h : Tracks img .hu .hu s) : ¬ Terminates img .vs s := by
  rintro ⟨N, hN⟩
  have hrun := gotoPriv_hu_vs h N
  rcases hN N (Nat.le_refl N) with ⟨s', hs'⟩ | ⟨msg, hmsg⟩
  · rw [hrun] at hs'
    cases hs'
  · rw [hrun] at hmsg
    cases hmsg

/-- After every completed session, the next call terminates exactly when it does not go from HU to VS: the request of HU climbs
to HS and M, and every activation there makes the next `ecall`, since it compares the target with `curr_priv`, which is still HU,
and not with the mode it is in. A session none of whose calls goes from HU to VS is finished. -/
theorem goto_priv_terminates_iff {img : Image} {s₀ : Sys} (hboot : Boot s₀) :
    (∀ fuel ts s, session img fuel ts s₀ = .ok ((), s) →
      ∀ t, Terminates img t s ↔ ¬ (s.currPriv = privHU ∧ t = .vs)) ∧
    (∀ ts : List Mode, (Mode.m :: ts).IsChain (fun c t => ¬ (c = .hu ∧ t = .vs)) →
      ∀ n, 5 ≤ n → Finished (session img n ts s₀)) := by
  constructor
  · intro fuel ts s hs t
    have hc := (session_run hboot fuel ts).1 s hs
    generalize ts.getLastD .m = c at hc
    have hcurr : s.currPriv = privHU ↔ c = .hu := by
      rw [hc.curr]
      exact @priv_inj c .hu
    rw [hcurr]
    constructor
    · rintro ht ⟨rfl, rfl⟩
      exact not_terminates_hu_vs hc ht
    · intro hct
      refine ⟨5, ?_⟩
      intro n hn
      obtain ⟨k, rfl⟩ := Nat.exists_eq_add_of_le' hn
      by_cases hvh : c = .vs ∧ t = .hu
      · obtain ⟨rfl, rfl⟩ := hvh
        exact Or.inr ⟨_, gotoPriv_vs_hu hc (k + 4)⟩
      · have hrun := gotoPriv_run hc hvh (k + 5)
        rw [if_pos ((answers_five k).2 hct)] at hrun
        exact Or.inl (hrun.imp fun _ hs' => hs'.1)
  · intro ts hts n hn
    obtain ⟨k, rfl⟩ := Nat.exists_eq_add_of_le' hn
    obtain ⟨s₁, h₁, h⟩ := session_run_succ hboot (k + 4) ts
    rw [h]
    exact (gotoAll_answers h₁ k hts).imp_right fun hf => ⟨_, hf.1⟩

/-- The theorem at a session that goes to HS: the next call terminates whatever its target. -/
theorem goto_priv_terminates_iff_at :
    ∃ s, session Image.plain 5 [.hs] Sys.boot = .ok ((), s) ∧ ∀ t, Terminates Image.plain t s := by
  obtain ⟨s, hs⟩ := @session_returns Image.plain Sys.boot boot_boot 0 [.hs] (by decide) (by decide)
  have hcurr := ((session_run boot_boot 5 [.hs]).1 s hs).curr
  refine ⟨s, hs, fun t => ((goto_priv_terminates_iff boot_boot).1 5 [.hs] s hs t).2 ?_⟩
  intro hf
  rw [hcurr] at hf
  exact absurd hf.1 (by decide)

/-- After a session that goes to HU, a call for VS makes one nested activation after the other and never terminates. -/
theorem goto_priv_hu_vs_diverges :
    ∃ s, session Image.plain 5 [.hu] Sys.boot = .ok ((), s) ∧
      (∀ n, gotoPriv Image.plain n (priv .vs) s = .error .outOfFuel) ∧ ¬ Terminates Image.plain .vs s := by
  obtain ⟨s, hs⟩ := @session_returns Image.plain Sys.boot boot_boot 0 [.hu] (by decide) (by decide)
  have hc : Tracks Image.plain .hu .hu s := (session_run boot_boot 5 [.hu]).1 s hs
  exact ⟨s, hs, gotoPriv_hu_vs hc, not_terminates_hu_vs hc⟩

end RvIommuTests
