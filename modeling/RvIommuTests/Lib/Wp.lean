import RvIommuTests.Lib.Prog

/-!
# Contracts of accesses

What a program comes to when all that is known of its accesses is a contract (`Contract`): when an access may be made, and what
its answer says then, about a view of the state that nobody but the program changes. `wp` folds a contract over the tree of a
program. It is sound in every world that keeps the contract (`Contract.KeptBy`), whatever else is in the state of that world and
whatever its environment does.
-/

namespace Shared

variable {ι : Type} {ρ : ι → Type} {σ γ α β : Type}

/-- What is known of the accesses, over a view `γ` of the state. -/
structure Contract (ι : Type) (ρ : ι → Type) (γ : Type) where
  /-- The access may be made. -/
  pre : ι → γ → Prop
  /-- `post i g r g'`: the access may answer `r`, and the view is `g'` then. -/
  post : (i : ι) → γ → ρ i → γ → Prop

/-- The program keeps to the contract, and whatever it returns is in `Q`. A loop that polls leaves the view as it is until the
test passes. -/
def wp (C : Contract ι ρ γ) : Prog ι ρ α → (α → γ → Prop) → γ → Prop
  | .ret a, Q, g => Q a g
  | .act i k, Q, g => C.pre i g ∧ ∀ r g', C.post i g r g' → wp C (k r) Q g'
  | .poll i test k, Q, g => C.pre i g ∧ ∀ r g', C.post i g r g' → if test r = true then wp C (k r) Q g' else g' = g

section Rules

variable {C : Contract ι ρ γ} {g : γ}

theorem wp_ret (a : α) (Q : α → γ → Prop) : wp C (.ret a) Q g ↔ Q a g := Iff.rfl

theorem wp_pure (a : α) (Q : α → γ → Prop) : wp C (pure a) Q g ↔ Q a g := Iff.rfl

theorem wp_waitFor (i : ι) (test : ρ i → Bool) (Q : Unit → γ → Prop) :
    wp C (.waitFor i test) Q g ↔ C.pre i g ∧ ∀ r g', C.post i g r g' → if test r = true then Q () g' else g' = g := Iff.rfl

/-- Sequencing. -/
theorem wp_bind (p : Prog ι ρ α) (f : α → Prog ι ρ β) (Q : β → γ → Prop) :
    wp C (p >>= f) Q g ↔ wp C p (fun a g' => wp C (f a) Q g') g := by
  induction p generalizing g with
  | ret a => exact Iff.rfl
  | act i k ih => exact and_congr Iff.rfl (forall_congr' fun r => forall₂_congr fun g' _ => ih r)
  | poll i test k ih =>
    refine and_congr Iff.rfl (forall_congr' fun r => forall₂_congr fun g' _ => ?_)
    split
    · exact ih r
    · exact Iff.rfl

theorem wp_ite (c : Prop) [Decidable c] (p q : Prog ι ρ α) (Q : α → γ → Prop) :
    wp C (if c then p else q) Q g ↔ if c then wp C p Q g else wp C q Q g := by
  split <;> exact Iff.rfl

/-- A program that is shown to end in one condition also ends in a weaker one. -/
theorem wp_mono {p : Prog ι ρ α} {Q Q' : α → γ → Prop} (h : wp C p Q g) (hQ : ∀ a g, Q a g → Q' a g) : wp C p Q' g := by
  induction p generalizing g with
  | ret a => exact hQ a g h
  | act i k ih => exact ⟨h.1, fun r g' hpost => ih r (h.2 r g' hpost)⟩
  | poll i test k ih =>
    refine ⟨h.1, ?_⟩
    intro r g' hpost
    have hr := h.2 r g' hpost
    split at hr
    · rename_i ht
      rw [if_pos ht]
      exact ih r hr
    · rename_i ht
      rw [if_neg ht]
      exact hr

end Rules

/-- The contract of the accesses that `f` names. -/
def Contract.comap {κ : Type} {ρ' : κ → Type} (f : ι → κ) (r : ∀ i, ρ' (f i) → ρ i) (C : Contract κ ρ' γ) :
    Contract ι ρ γ where
  pre i := C.pre (f i)
  post i g a g' := ∃ b, r i b = a ∧ C.post (f i) g b g'

/-- Accesses that are named in two steps. -/
theorem Contract.comap_comap {κ κ' : Type} {ρ' : κ → Type} {ρ'' : κ' → Type} (f : ι → κ) (r : ∀ i, ρ' (f i) → ρ i) (f' : κ → κ')
    (r' : ∀ i, ρ'' (f' i) → ρ' i) (C : Contract κ' ρ'' γ) :
    (C.comap f' r').comap f r = C.comap (fun i => f' (f i)) (fun i x => r i (r' (f i) x)) := by
  unfold Contract.comap
  congr
  funext i g a g'
  refine propext ⟨?_, ?_⟩
  · rintro ⟨_, hx, b, rfl, hb⟩
    exact ⟨b, hx, hb⟩
  · rintro ⟨b, hx, hb⟩
    exact ⟨_, hx, b, rfl, hb⟩

/-- One access to a device that is part of another. -/
theorem wp_comap_call {κ : Type} {ρ' : κ → Type} {C : Contract κ ρ' γ} (f : ι → κ) (r : ∀ i, ρ' (f i) → ρ i) (i : ι)
    {Q : ρ i → γ → Prop} {g : γ} :
    wp (C.comap f r) (.call i) Q g ↔ C.pre (f i) g ∧ ∀ x g', C.post (f i) g x g' → Q (r i x) g' := by
  refine and_congr Iff.rfl ⟨?_, ?_⟩
  · exact fun h x g' hx => h (r i x) g' ⟨x, rfl, hx⟩
  · rintro h _ g' ⟨x, rfl, hx⟩
    exact h x g' hx

/-- A program among more accesses needs the contract of its own. -/
theorem wp_embed {κ : Type} {ρ' : κ → Type} (f : ι → κ) (r : ∀ i, ρ' (f i) → ρ i) {C : Contract κ ρ' γ} (p : Prog ι ρ α)
    {Q : α → γ → Prop} {g : γ} : wp C (p.embed f r) Q g ↔ wp (C.comap f r) p Q g := by
  induction p generalizing g with
  | ret a => exact Iff.rfl
  | act i k ih =>
    refine and_congr Iff.rfl ⟨?_, ?_⟩
    · rintro h _ g' ⟨b, rfl, hb⟩
      exact (ih _).1 (h b g' hb)
    · exact fun h b g' hb => (ih _).2 (h _ g' ⟨b, rfl, hb⟩)
  | poll i test k ih =>
    refine and_congr Iff.rfl ⟨?_, ?_⟩
    · rintro h _ g' ⟨b, rfl, hb⟩
      have hr := h b g' hb
      split at hr
      · rename_i ht
        rw [if_pos ht]
        exact (ih _).1 hr
      · rename_i ht
        rw [if_neg ht]
        exact hr
    · intro h b g' hb
      have hr := h _ g' ⟨b, rfl, hb⟩
      split at hr
      · rename_i ht
        rw [if_pos ht]
        exact (ih _).2 hr
      · rename_i ht
        rw [if_neg ht]
        exact hr

/-- The world keeps the contract: `R` relates its states to the view, every access that the contract allows answers as the
contract says, and the environment does not change the view. -/
structure Contract.KeptBy (C : Contract ι ρ γ) (W : World ι ρ σ) (R : σ → γ → Prop) : Prop where
  sem : ∀ i s g r s', R s g → C.pre i g → W.sem i s r s' → ∃ g', C.post i g r g' ∧ R s' g'
  env : ∀ s g s', R s g → W.env s s' → R s' g

/-- The world keeps the contract at one access. -/
def Contract.KeptAt (C : Contract ι ρ γ) (W : World ι ρ σ) (R : σ → γ → Prop) (i : ι) : Prop :=
  ∀ s g r s', R s g → C.pre i g → W.sem i s r s' → ∃ g', C.post i g r g' ∧ R s' g'

/-- A program that keeps to the contract does so at every point of its runs, in every world that keeps the contract. -/
theorem wp_run {C : Contract ι ρ γ} {W : World ι ρ σ} {R : σ → γ → Prop} (hC : C.KeptBy W R) {p q : Prog ι ρ α}
    {Q : α → γ → Prop} {s t : σ} {g : γ} (hr : Run W p s q t) (hw : wp C p Q g) (hR : R s g) :
    ∃ g', R t g' ∧ wp C q Q g' := by
  induction hr generalizing g with
  | refl => exact ⟨g, hR, hw⟩
  | env he _ ih => exact ih hw (hC.env _ g _ hR he)
  | act r hsem _ ih =>
    obtain ⟨g', hpost, hR'⟩ := hC.sem _ _ g r _ hR hw.1 hsem
    exact ih (hw.2 r g' hpost) hR'
  | hit r hsem ht _ ih =>
    obtain ⟨g', hpost, hR'⟩ := hC.sem _ _ g r _ hR hw.1 hsem
    have hk := hw.2 r g' hpost
    rw [if_pos ht] at hk
    exact ih hk hR'
  | miss r hsem ht _ ih =>
    obtain ⟨g', hpost, hR'⟩ := hC.sem _ _ g r _ hR hw.1 hsem
    have hk := hw.2 r g' hpost
    rw [if_neg (by simp [ht])] at hk
    subst hk
    exact ih hw hR'

/-- A sequence whose parts keep to different contracts is either in its first part and keeps to the first, or keeps to the second. -/
theorem wp_run_bind {γ' : Type} {C : Contract ι ρ γ} {C' : Contract ι ρ γ'} {W : World ι ρ σ} {R : σ → γ → Prop}
    {R' : σ → γ' → Prop} (hC : C.KeptBy W R) (hC' : C'.KeptBy W R') {p : Prog ι ρ α} {f : α → Prog ι ρ β} {q : Prog ι ρ β}
    {Q : β → γ' → Prop} {s t : σ} {g : γ} (hr : Run W (p >>= f) s q t)
    (hw : wp C p (fun a g => ∀ s, R s g → ∃ g', R' s g' ∧ wp C' (f a) Q g') g) (hR : R s g) :
    (∃ p' g', q = p' >>= f ∧ (∀ a, p' ≠ .ret a) ∧ R t g' ∧ wp C p' (fun _ _ => True) g') ∨ ∃ g', R' t g' ∧ wp C' q Q g' := by
  rcases hr.bind_inv with ⟨p', rfl, hp⟩ | ⟨a, s₁, hp, hf⟩
  · obtain ⟨g', hR', hw'⟩ := wp_run hC hp hw hR
    cases p' with
    | ret a => exact Or.inr (hw' t hR')
    | act i k => exact Or.inl ⟨_, g', rfl, (fun _ h => nomatch h), hR', wp_mono hw' fun _ _ _ => trivial⟩
    | poll i test k => exact Or.inl ⟨_, g', rfl, (fun _ h => nomatch h), hR', wp_mono hw' fun _ _ _ => trivial⟩
  · obtain ⟨g₁, hR₁, hw₁⟩ := wp_run hC hp hw hR
    obtain ⟨g', hR', hw'⟩ := hw₁ s₁ hR₁
    exact Or.inr (wp_run hC' hf hw' hR')

/-- Soundness: in a world that keeps the contract, a program returns in a state for which its `wp` was shown. -/
theorem wp_sound {C : Contract ι ρ γ} {W : World ι ρ σ} {R : σ → γ → Prop} (hC : C.KeptBy W R) {p : Prog ι ρ α}
    {Q : α → γ → Prop} {s t : σ} {g : γ} {a : α} (hr : Run W p s (.ret a) t) (hw : wp C p Q g) (hR : R s g) :
    ∃ g', R t g' ∧ Q a g' := by
  obtain ⟨g', hR', hQ⟩ := wp_run hC hr hw hR
  exact ⟨g', hR', (wp_ret a Q).1 hQ⟩

end Shared
