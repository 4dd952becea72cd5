import Mathlib.Tactic.Common

/-!
# Two runs of the same code

Code that changes a state and may stop is run from two related states. It is in step (`Lock`) when both runs stop for the same
reason, or both answer the same and leave related states. The rules follow the code: two pieces in sequence are in step when each
is, and a piece that branches on the state is when related states take the same branch.
-/

namespace TwoRuns

variable {σ ε α β : Type}

/-- The results of two runs agree: the same stop, or the same answer in related states. -/
def Agree (R : σ → σ → Prop) : Except ε (α × σ) → Except ε (α × σ) → Prop
  | .ok (a, t), .ok (a', t') => a = a' ∧ R t t'
  | .error e, .error e' => e = e'
  | _, _ => False

/-- Two runs from states related by `R` agree, in states related by `R'`. -/
def Lock (R R' : σ → σ → Prop) (p : StateT σ (Except ε) α) : Prop := ∀ s s', R s s' → Agree R' (p s) (p s')

variable {R R' R'' : σ → σ → Prop} {p : StateT σ (Except ε) α} {f : α → StateT σ (Except ε) β} {s s' : σ}

/-- When one of two runs that agree returns, so does the other. -/
theorem Agree.ok {r : Except ε (α × σ)} {a : α} {t : σ} (h : Agree R (.ok (a, t)) r) : ∃ t', r = .ok (a, t') ∧ R t t' := by
  cases r with
  | error e => exact absurd h id
  | ok x =>
    obtain ⟨rfl, hR⟩ := h
    exact ⟨_, rfl, hR⟩

theorem Agree.mono {r r' : Except ε (α × σ)} (h : Agree R r r') (hR : ∀ t t', R t t' → R' t t') : Agree R' r r' := by
  cases r <;> cases r'
  · exact h
  · exact h
  · exact h
  · exact ⟨h.1, hR _ _ h.2⟩

/-- When a first piece agrees at two states and the second does wherever the first has led, the sequence agrees. -/
theorem Agree.bind (hp : Agree R (p s) (p s')) (hf : ∀ a, Lock R R' (f a)) : Agree R' ((p >>= f) s) ((p >>= f) s') := by
  have hrun : ∀ s, (p >>= f) s = match p s with | .ok (a, t) => f a t | .error e => .error e := by
    intro s
    show (p s >>= fun r => f r.1 r.2) = _
    cases p s <;> rfl
  rw [hrun, hrun]
  cases hs : p s with
  | error e =>
    rw [hs] at hp
    cases hs' : p s' with
    | error e' =>
      rw [hs'] at hp
      exact hp
    | ok x =>
      rw [hs'] at hp
      exact absurd hp id
  | ok x =>
    rw [hs] at hp
    obtain ⟨t', ht', hR⟩ := hp.ok
    rw [ht']
    exact hf x.1 x.2 t' hR

namespace Lock

/-- Two pieces in sequence keep step when each of them does. -/
theorem bind (hp : Lock R R' p) (hf : ∀ a, Lock R' R'' (f a)) : Lock R R'' (p >>= f) := fun s s' h => (hp s s' h).bind hf

theorem pure (a : α) : Lock R R (Pure.pure a : StateT σ (Except ε) α) := fun _ _ h => ⟨rfl, h⟩

/-- Every piece keeps step with itself from equal states. -/
theorem refl (p : StateT σ (Except ε) α) : Lock Eq Eq p := by
  rintro s _ rfl
  cases p s with
  | error e => rfl
  | ok x => exact ⟨rfl, rfl⟩

/-- What the rest of the code depends on is the same in related states. -/
theorem get {g : σ → StateT σ (Except ε) α} (hg : ∀ s s', R s s' → g s = g s') (h : ∀ s, Lock R R' (g s)) :
    Lock R R' (MonadState.get >>= g) := by
  intro s s' hR
  have hrun := h s s s' hR
  have hs' : (MonadState.get >>= g : StateT σ (Except ε) α) s' = g s s' := (congrFun (hg s s' hR) s').symm
  exact hs'.symm ▸ hrun

/-- A change of the state keeps step when it takes related states to related ones. -/
theorem modify {g : σ → σ} (h : ∀ s s', R s s' → R' (g s) (g s')) : Lock R R' (modify g : StateT σ (Except ε) Unit) :=
  fun s s' hR => ⟨rfl, h s s' hR⟩

theorem throw (e : ε) : Lock R R' (MonadExcept.throw e : StateT σ (Except ε) α) := fun _ _ _ => rfl

/-- A choice on a condition that does not depend on the state keeps step when both branches do. -/
theorem ite {c : Prop} [Decidable c] {q : StateT σ (Except ε) α} (hp : c → Lock R R' p) (hq : ¬ c → Lock R R' q) :
    Lock R R' (if c then p else q) := by
  by_cases h : c
  · rw [if_pos h]
    exact hp h
  · rw [if_neg h]
    exact hq h

end Lock

end TwoRuns
