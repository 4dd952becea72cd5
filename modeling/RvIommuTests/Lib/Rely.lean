import RvIommuTests.Lib.Prog

/-!
# Rely-guarantee triples

A program proved access by access against an environment: between two accesses the assertion that holds must survive every
step of the environment (`Stable`). A triple also carries an invariant that holds at every point of the run, so that a program
that is stopped anywhere, or waits for ever, has kept it.
-/

namespace Shared

variable {ι : Type} {ρ : ι → Type} {σ α β : Type} {W : World ι ρ σ} {P : σ → Prop}

/-- No step of the environment breaks the assertion. -/
def Stable (W : World ι ρ σ) (A : σ → Prop) : Prop := ∀ s s', A s → W.env s s' → A s'

theorem Stable.drift {A : σ → Prop} (h : Stable W A) {s t : σ} (hs : A s) (hd : W.Drift s t) : A t := by
  induction hd with
  | refl => exact hs
  | tail _ he ih => exact h _ _ ih he

theorem Stable.and {A B : σ → Prop} (ha : Stable W A) (hb : Stable W B) : Stable W (fun s => A s ∧ B s) :=
  fun s s' h he => ⟨ha s s' h.1 he, hb s s' h.2 he⟩

/-- A fact that does not mention the state is stable. -/
theorem stable_const (φ : Prop) : Stable W (fun _ : σ => φ) := fun _ _ h _ => h

/-- A guard on the program's accesses does not concern the environment. -/
theorem Stable.restrict {A : σ → Prop} {guard : ι → σ → Prop} (h : Stable W A) : Stable (W.restrict guard) A := h

/-- The states the environment can drift to from `s₀` are closed under its steps. -/
theorem stable_drift (s₀ : σ) : Stable W (W.Drift s₀) := fun _ _ h he => h.tail he

/-- A run of a busy-wait loop is either still in it, where what holds of the loop holds, or past it. -/
theorem Run.poll_inv {A : σ → Prop} {i : ι} {test : ρ i → Bool} {k : ρ i → Prog ι ρ α} {q : Prog ι ρ α} {s t : σ}
    (hst : Stable W A) (hmiss : ∀ s r s', A s → W.sem i s r s' → test r = false → A s') (hA : A s)
    (h : Run W (.poll i test k) s q t) :
    (q = .poll i test k ∧ A t) ∨ ∃ s₁ r s₂, A s₁ ∧ W.sem i s₁ r s₂ ∧ test r = true ∧ Run W (k r) s₂ q t := by
  generalize hp : Prog.poll i test k = p at h
  induction h with
  | refl => exact Or.inl ⟨rfl, hA⟩
  | env he _ ih => exact ih (hst _ _ hA he) hp
  | act => cases hp
  | hit r hsem ht hr _ =>
    cases hp
    exact Or.inr ⟨_, r, _, hA, hsem, ht, hr⟩
  | miss r hsem ht _ ih =>
    cases hp
    exact ih (hmiss _ r _ hA hsem ht) rfl

/-- From every state in `A`, at every point of every run of `p` the invariant `P` holds, and where the run has returned `a`,
`Q a` holds. -/
def Triple (W : World ι ρ σ) (P : σ → Prop) (A : σ → Prop) (p : Prog ι ρ α) (Q : α → σ → Prop) : Prop :=
  ∀ s q t, A s → Run W p s q t → P t ∧ ∀ a, q = .ret a → Q a t

theorem Triple.conseq {A A' : σ → Prop} {p : Prog ι ρ α} {Q Q' : α → σ → Prop} (h : Triple W P A p Q)
    (hA : ∀ s, A' s → A s) (hQ : ∀ a s, Q a s → Q' a s) : Triple W P A' p Q' := by
  intro s q t hs hr
  obtain ⟨h1, h2⟩ := h s q t (hA s hs) hr
  exact ⟨h1, fun a ha => hQ a t (h2 a ha)⟩

theorem Triple.exists {γ : Type} {A : γ → σ → Prop} {p : Prog ι ρ α} {Q : α → σ → Prop}
    (h : ∀ x, Triple W P (A x) p Q) : Triple W P (fun s => ∃ x, A x s) p Q := by
  rintro s q t ⟨x, hx⟩ hr
  exact h x s q t hx hr

/-- A program that has returned, in a stable assertion that gives the invariant and what is wanted of the answer. -/
theorem Triple.ret {A : σ → Prop} {a : α} {Q : α → σ → Prop} (hst : Stable W A) (hP : ∀ s, A s → P s)
    (hQ : ∀ s, A s → Q a s) : Triple W P A (.ret a) Q := by
  intro s q t hs hr
  obtain ⟨rfl, hd⟩ := hr.ret_inv
  have ht := hst.drift hs hd
  refine ⟨hP t ht, ?_⟩
  intro b hb
  cases hb
  exact hQ t ht

/-- One access: its assertion is stable, gives the invariant, and every answer leads to what the rest needs. -/
theorem Triple.act {A : σ → Prop} {i : ι} {k : ρ i → Prog ι ρ α} {Q : α → σ → Prop} (B : ρ i → σ → Prop)
    (hst : Stable W A) (hP : ∀ s, A s → P s) (hB : ∀ s r s', A s → W.sem i s r s' → B r s')
    (hk : ∀ r, Triple W P (B r) (k r) Q) : Triple W P A (.act i k) Q := by
  intro s q t hs hr
  rcases hr.act_inv with ⟨rfl, hd⟩ | ⟨s₁, r, s₂, hd, hsem, hr'⟩
  · exact ⟨hP t (hst.drift hs hd), fun a ha => nomatch ha⟩
  · exact hk r s₂ q t (hB s₁ r s₂ (hst.drift hs hd) hsem) hr'

/-- A busy-wait loop: a failed test keeps the loop's assertion, a passed one leads to what the rest needs. -/
theorem Triple.poll {A : σ → Prop} {i : ι} {test : ρ i → Bool} {k : ρ i → Prog ι ρ α} {Q : α → σ → Prop}
    (B : ρ i → σ → Prop) (hst : Stable W A) (hP : ∀ s, A s → P s)
    (hmiss : ∀ s r s', A s → W.sem i s r s' → test r = false → A s')
    (hhit : ∀ s r s', A s → W.sem i s r s' → test r = true → B r s')
    (hk : ∀ r, Triple W P (B r) (k r) Q) : Triple W P A (.poll i test k) Q := by
  intro s q t hs hr
  rcases hr.poll_inv hst hmiss hs with ⟨rfl, ht⟩ | ⟨s₁, r, s₂, hs₁, hsem, ht, hr'⟩
  · exact ⟨hP t ht, fun a ha => nomatch ha⟩
  · exact hk r s₂ q t (hhit s₁ r s₂ hs₁ hsem ht) hr'

/-- Triples of two programs are put together when the second starts where the first has ended. -/
theorem Triple.bind {A : σ → Prop} {p : Prog ι ρ α} {f : α → Prog ι ρ β} {Q : β → σ → Prop} (B : α → σ → Prop)
    (hp : Triple W P A p B) (hf : ∀ a, Triple W P (B a) (f a) Q) : Triple W P A (p >>= f) Q := by
  intro s q t hs hr
  rcases hr.bind_inv with ⟨p', rfl, hr'⟩ | ⟨a, s₁, hr₁, hr₂⟩
  · obtain ⟨h1, h2⟩ := hp s p' t hs hr'
    refine ⟨h1, ?_⟩
    intro b hb
    cases p' with
    | ret a => exact (hf a t (f a) t (h2 a rfl) (Run.refl _ _)).2 b hb
    | act i k => cases hb
    | poll i test k => cases hb
  · exact hf a s₁ q t ((hp s _ s₁ hs hr₁).2 a rfl) hr₂

end Shared
