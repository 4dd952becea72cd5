import RvIommuTests.Lib.Prog

/-!
# Programs that can always go on

A program is served by a world (`Prog.Served`) when each of its accesses has an answer in every state, and each loop that polls one
that passes its test, possibly after the environment has moved. Wherever a run of such a program is, it can be completed to one
that returns (`Run.completes`): no interleaving leads it into a dead end.
-/

namespace Shared

variable {ι : Type} {ρ : ι → Type} {σ α β : Type} {W : World ι ρ σ}

/-- Every access of the program is answered. -/
def Prog.Served (W : World ι ρ σ) : Prog ι ρ α → Prop
  | .ret _ => True
  | .act i k => (∀ s, ∃ s₁ r s', W.Drift s s₁ ∧ W.sem i s₁ r s') ∧ ∀ r, (k r).Served W
  | .poll i test k => (∀ s, ∃ s₁ r s', W.Drift s s₁ ∧ W.sem i s₁ r s' ∧ test r = true) ∧ ∀ r, (k r).Served W

namespace Prog.Served

theorem call {i : ι} (h : ∀ s, ∃ s₁ r s', W.Drift s s₁ ∧ W.sem i s₁ r s') : (Prog.call i : Prog ι ρ (ρ i)).Served W :=
  ⟨h, fun _ => trivial⟩

theorem waitFor {i : ι} {test : ρ i → Bool} (h : ∀ s, ∃ s₁ r s', W.Drift s s₁ ∧ W.sem i s₁ r s' ∧ test r = true) :
    (Prog.waitFor i test : Prog ι ρ Unit).Served W :=
  ⟨h, fun _ => trivial⟩

theorem bind {p : Prog ι ρ α} {f : α → Prog ι ρ β} (hp : p.Served W) (hf : ∀ a, (f a).Served W) : (p >>= f).Served W := by
  induction p with
  | ret a => exact hf a
  | act i k ih => exact ⟨hp.1, fun r => ih r (hp.2 r)⟩
  | poll i test k ih => exact ⟨hp.1, fun r => ih r (hp.2 r)⟩

end Prog.Served

/-- What is left of a served program is served. -/
theorem Run.served {p q : Prog ι ρ α} {s t : σ} (h : Run W p s q t) (hp : p.Served W) : q.Served W := by
  induction h with
  | refl => exact hp
  | env _ _ ih => exact ih hp
  | act r _ _ ih => exact ih (hp.2 r)
  | hit r _ _ _ ih => exact ih (hp.2 r)
  | miss _ _ _ _ ih => exact ih hp

/-- A served program returns in some run from every state. -/
theorem Prog.Served.returns {p : Prog ι ρ α} (hp : p.Served W) (s : σ) : ∃ a t, Run W p s (.ret a) t := by
  induction p generalizing s with
  | ret a => exact ⟨a, s, .refl _ _⟩
  | act i k ih =>
    obtain ⟨s₁, r, s', hd, hs⟩ := hp.1 s
    obtain ⟨a, t, hr⟩ := ih r (hp.2 r) s'
    exact ⟨a, t, .drift hd (.act r hs hr)⟩
  | poll i test k ih =>
    obtain ⟨s₁, r, s', hd, hs, ht⟩ := hp.1 s
    obtain ⟨a, t, hr⟩ := ih r (hp.2 r) s'
    exact ⟨a, t, .drift hd (.hit r hs ht hr)⟩

/-- A run of a served program can be completed from wherever it is. -/
theorem Run.completes {p q : Prog ι ρ α} {s t : σ} (h : Run W p s q t) (hp : p.Served W) : ∃ a u, Run W q t (.ret a) u :=
  (h.served hp).returns t

end Shared
