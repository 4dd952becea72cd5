import Mathlib.Tactic.Common

/-!
# While loops

A loop runs for at most a number of rounds (`loop`), so that it can be run whatever its test is. It ends (`Ends`) when it has a
result for every bound from some number of rounds on. A round that keeps an invariant and makes a variant smaller is enough for
a loop to end (`ends_of_variant`).
-/

namespace Loops

variable {σ : Type}

/-- `while (test) body`, for at most `fuel` rounds. A body without a result stops the program. -/
def loop (test : σ → Bool) (body : σ → Option σ) : Nat → σ → Option σ
  | 0, s => if test s then none else some s
  | fuel + 1, s => if test s then (body s).bind (loop test body fuel) else some s

/-- From `s` the loop ends in `t`. -/
def Ends (test : σ → Bool) (body : σ → Option σ) (s t : σ) : Prop := ∃ n, ∀ fuel, n ≤ fuel → loop test body fuel s = some t

variable {test : σ → Bool} {body : σ → Option σ} {s s' t : σ}

/-- Without a round. -/
theorem loop_done (h : test s = false) (fuel : Nat) : loop test body fuel s = some s := by
  cases fuel with
  | zero => rw [loop, h, if_neg Bool.false_ne_true]
  | succ fuel => rw [loop, h, if_neg Bool.false_ne_true]

theorem Ends.done (h : test s = false) : Ends test body s s :=
  ⟨0, fun fuel _ => loop_done h fuel⟩

/-- A loop that ends from where one round leads ends from before that round. -/
theorem Ends.round (h : test s = true) (hb : body s = some s') (he : Ends test body s' t) : Ends test body s t := by
  obtain ⟨n, hn⟩ := he
  refine ⟨n + 1, ?_⟩
  intro fuel hfuel
  obtain ⟨fuel, rfl⟩ : ∃ k, fuel = k + 1 := ⟨fuel - 1, by omega⟩
  rw [loop, if_pos h, hb, Option.bind_some]
  exact hn fuel (by omega)

/-- A loop ends, in a state of the invariant in which its test fails, when every round keeps the invariant and makes the variant
smaller. The induction is over the variant. -/
theorem ends_of_variant {I : σ → Prop} {v : σ → Nat}
    (hround : ∀ s, I s → test s = true → ∃ s', body s = some s' ∧ I s' ∧ v s' < v s) (hs : I s) :
    ∃ t, Ends test body s t ∧ I t ∧ test t = false := by
  induction hv : v s using Nat.strongRecOn generalizing s with
  | ind n ih =>
    cases htest : test s with
    | false => exact ⟨s, .done htest, hs, htest⟩
    | true =>
      obtain ⟨s', hbody, hs', hlt⟩ := hround s hs htest
      obtain ⟨t, hends, ht, hstop⟩ := ih (v s') (hv ▸ hlt) hs' rfl
      exact ⟨t, .round htest hbody hends, ht, hstop⟩

/-- A loop that stays where its test passes has no result, whatever the bound on its rounds. -/
theorem loop_stays {I : σ → Prop} (htest : ∀ s, I s → test s = true) (hround : ∀ s s', I s → body s = some s' → I s') (hs : I s)
    (fuel : Nat) : loop test body fuel s = none := by
  induction fuel generalizing s with
  | zero => rw [loop, if_pos (htest s hs)]
  | succ fuel ih =>
    rw [loop, if_pos (htest s hs)]
    cases hb : body s with
    | none => rfl
    | some s' => exact ih (hround s s' hs hb)

end Loops
