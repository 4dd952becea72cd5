import RvIommuTests.Lemmas.Requests
import RvIommuTests.Theorems.Goto

/-!
# Requests for no mode

When a request for a number that is no mode changes nothing. The branch of `goto_priv` that is to reject it is the one for a mode
that is reached already, and sets `curr_priv` to the number.
-/

namespace RvIommuTests

open Riscv PrivAux GotoAux RequestAux

/-- A request for no mode returns with `curr_priv` set to the number, and from a handler that carries it with `real_priv` set to
it as well, in a user mode. -/
theorem request_noMode_run {img : Image} {s : Sys} {c : Mode} (h : Settled img c s) {r : Request} (hr : NoMode r.target)
    (n : Nat) :
    ∃ s', r.run img (n + 1) s = .ok ((), s') ∧ s'.currPriv = r.target ∧
      (r.direct → s' = { s with onGoing := false, currPriv := r.target }) ∧
      (¬ r.direct → s'.realPriv = r.target ∧ s'.hart.mode.user = true) := by
  cases r with
  | call p => exact ⟨_, gotoPriv_noMode hr n s, rfl, fun _ => rfl, fun hd => absurd trivial hd⟩
  | args a1 =>
    obtain ⟨v, s', hs', hmode, hreal, hcurr⟩ := ecall_noMode h.1 hr n
    refine ⟨s', bind_ok hs', hcurr, fun hd => absurd hd id, fun _ => ⟨hreal, ?_⟩⟩
    rw [hmode]
    cases c <;> rfl

/-- The calls for modes do not depend on `on_going`, nor on `curr_priv` when it is no mode already. -/
theorem gotoPriv_congr_astray {img : Image} {s : Sys} {c : Mode} (h : Sits img c s) (hcurr : NoMode s.currPriv) (t : Mode)
    (n : Nat) : gotoPriv img n (priv t) { s with onGoing := false } = gotoPriv img n (priv t) s := by
  cases n with
  | zero => rfl
  | succ n => rw [gotoPriv_astray h hcurr, gotoPriv_astray (s := { s with onGoing := false }) ⟨h.hart, h.real, h.conf⟩ hcurr]

/-- After every session, a request for no mode changes nothing exactly when it is a call of `goto_priv` and `curr_priv` is its
number already. From anywhere else it returns with `curr_priv` set to the number, and out of a handler with the hart in a user
mode and `real_priv` set to the number. -/
theorem no_mode_changes_nothing_iff {img : Image} {s₀ : Sys} (hboot : Boot s₀) (fuel : Nat) (ps : List Word32) (s : Sys)
    (hs : callSession img fuel ps s₀ = .ok ((), s)) (r : Request) (hr : NoMode r.target) :
    ChangesNothing img r s ↔ r.direct ∧ s.currPriv = r.target := by
  obtain ⟨c, hc⟩ := callSession_settled hboot.mode hboot.real hs
  constructor
  · rintro ⟨s', ⟨N, hN⟩, hsame, -⟩
    obtain ⟨s'', hs'', hcurr, -, hcarried⟩ := request_noMode_run hc hr N
    rw [hN (N + 1) (Nat.le_succ N)] at hs''
    cases hs''
    refine ⟨Classical.not_not.1 fun hd => ?_, hsame.curr.symm.trans hcurr⟩
    exact noMode_ne_priv hr c ((hcarried hd).1.symm.trans (hsame.real.trans hc.1.real))
  · rintro ⟨hd, hcurr⟩
    refine ⟨{ s with onGoing := false }, ⟨1, ?_⟩, ⟨rfl, rfl, rfl⟩, gotoPriv_congr_astray hc.1 (hcurr ▸ hr)⟩
    intro n hn
    obtain ⟨k, rfl⟩ := Nat.exists_eq_add_of_le' hn
    obtain ⟨s', hs', -, hdirect, -⟩ := request_noMode_run hc hr k
    rw [hs', hdirect hd, ← hcurr]

/-- The theorem at a request for 9 after a call for 9. -/
theorem no_mode_changes_nothing_at :
    ∃ s, callSession Image.plain 5 [9#32] Sys.boot = .ok ((), s) ∧ ChangesNothing Image.plain (.call 9#32) s := by
  obtain ⟨s, hs, h⟩ := @resetState_run Image.plain Sys.boot boot_boot.mode boot_boot.real 4
  have hrun : callSession Image.plain 5 [9#32] Sys.boot = .ok ((), { s with onGoing := false, currPriv := 9#32 }) := by
    rw [callSession, bind_ok hs, callAll, bind_ok (gotoPriv_noMode (by decide) 4 s)]
    rfl
  exact ⟨_, hrun, (no_mode_changes_nothing_iff boot_boot 5 [9#32] _ hrun (.call 9#32) (by decide)).2 ⟨trivial, rfl⟩⟩

/-- After `reset_state` a call for HS returns in HS mode. After `goto_priv(9)`, which returns with `curr_priv` set to 9, the same
call stops with an error, and a handler that carries the 9 returns to HU mode. -/
theorem no_mode_breaks_next :
    ∃ s, callSession Image.plain 5 [] Sys.boot = .ok ((), s) ∧ ¬ ChangesNothing Image.plain (.call 9#32) s ∧
      (∃ s', gotoPriv Image.plain 5 (priv .hs) s = .ok ((), s') ∧ s'.hart.mode = .hs) ∧
      (∃ s', gotoPriv Image.plain 5 9#32 s = .ok ((), s') ∧
        gotoPriv Image.plain 5 (priv .hs) s' = .error (.error "unknown current priv %d (%s)\n")) ∧
      ∃ s', (Request.args 9#64).run Image.plain 5 s = .ok ((), s') ∧ s.hart.mode = .m ∧ s'.hart.mode.user = true := by
  obtain ⟨s, hs, h⟩ := @resetState_run Image.plain Sys.boot boot_boot.mode boot_boot.real 4
  have hsettled : Settled Image.plain .m s := ⟨sits h, Or.inl h.curr⟩
  refine ⟨s, bind_ok hs, ?_, ?_, ?_, ?_⟩
  · rintro ⟨s', ⟨N, hN⟩, hsame, -⟩
    have hrun := @gotoPriv_noMode Image.plain 9#32 (by decide) N s
    rw [show gotoPriv _ _ _ _ = _ from hN (N + 1) (Nat.le_succ N)] at hrun
    cases hrun
    exact noMode_ne_priv (by decide : NoMode 9#32) .m (hsame.curr.trans h.curr)
  · have hrun := gotoPriv_run (t := .hs) h (fun hf => Mode.noConfusion hf.1) 5
    rw [if_pos ((answers_five 0).2 fun hf => Mode.noConfusion hf.1)] at hrun
    obtain ⟨s', hs', h'⟩ := hrun
    exact ⟨s', hs', h'.hart⟩
  · exact ⟨_, gotoPriv_noMode (by decide) 4 s, @gotoPriv_astray Image.plain { s with onGoing := false, currPriv := 9#32 } .m
      ⟨h.hart, h.real, h.conf⟩ (by decide : NoMode 9#32) .hs 4⟩
  · obtain ⟨s', hs', -, -, hcarried⟩ := request_noMode_run hsettled (r := .args 9#64) (by decide) 4
    exact ⟨s', hs', h.hart, (hcarried id).2⟩

end RvIommuTests
