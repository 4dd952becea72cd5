import Mathlib.Logic.Relation

/-!
# Programs that share their state with an environment

A program is the tree of its accesses to a shared state: what it does next may depend on what each access answered. Between
any two accesses the environment may take any number of steps of its own. A busy-wait loop on one access is a node of its own
(`Prog.poll`), so that a program that may wait for ever is still a finite tree for each answer.

`Triple` is the rely-guarantee rule set over these runs: an assertion is stable when no step of the environment breaks it, and
a program is proved access by access between stable assertions, with an invariant `P` that holds at every point of the run and
not only at its end.
-/

namespace Shared

variable {ι : Type} {ρ : ι → Type} {σ α β : Type}

/-- A program over the accesses `ι`, whose access `i` answers with a `ρ i`. -/
inductive Prog (ι : Type) (ρ : ι → Type) (α : Type) : Type where
  /-- The program has returned. -/
  | ret (a : α)
  /-- One access, and what follows on its answer. -/
  | act (i : ι) (k : ρ i → Prog ι ρ α)
  /-- The same access again and again until its answer passes the test. -/
  | poll (i : ι) (test : ρ i → Bool) (k : ρ i → Prog ι ρ α)

namespace Prog

/-- Sequencing. -/
def bind : Prog ι ρ α → (α → Prog ι ρ β) → Prog ι ρ β
  | ret a, f => f a
  | act i k, f => act i (fun r => (k r).bind f)
  | poll i test k, f => poll i test (fun r => (k r).bind f)

instance : Monad (Prog ι ρ) where
  pure := ret
  bind := bind

/-- The program that makes one access and returns its answer. -/
def call (i : ι) : Prog ι ρ (ρ i) := act i ret

/-- The program that waits until the answer of an access passes the test. -/
def waitFor (i : ι) (test : ρ i → Bool) : Prog ι ρ Unit := poll i test (fun _ => ret ())

/-- Returning makes no call. -/
@[simp] theorem pure_def (a : α) : (pure a : Prog ι ρ α) = ret a := rfl

/-- A program that has returned goes on with the rest. -/
@[simp] theorem ret_bind (a : α) (f : α → Prog ι ρ β) : (ret a >>= f) = f a := rfl

/-- The rest of a program that makes a call comes after it. -/
@[simp] theorem act_bind (i : ι) (k : ρ i → Prog ι ρ α) (f : α → Prog ι ρ β) :
    (act i k >>= f) = act i (fun r => k r >>= f) := rfl

/-- The rest of a program that polls comes after it. -/
@[simp] theorem poll_bind (i : ι) (test : ρ i → Bool) (k : ρ i → Prog ι ρ α) (f : α → Prog ι ρ β) :
    (poll i test k >>= f) = poll i test (fun r => k r >>= f) := rfl

/-- A single call goes on with its answer to what comes after it. -/
@[simp] theorem call_bind (i : ι) (f : ρ i → Prog ι ρ β) : (call i >>= f) = act i f := rfl

/-- A wait goes on to what comes after it when the test of an answer succeeds. -/
@[simp] theorem waitFor_bind (i : ι) (test : ρ i → Bool) (f : Unit → Prog ι ρ β) :
    (waitFor i test >>= f) = poll i test (fun _ => f ()) := rfl

/-- The same program over more accesses: `f` is where an access is among them, and `g` reads its answer there. -/
def embed {κ : Type} {ρ' : κ → Type} (f : ι → κ) (g : ∀ i, ρ' (f i) → ρ i) : Prog ι ρ α → Prog κ ρ' α
  | ret a => ret a
  | act i k => act (f i) (fun r => (k (g i r)).embed f g)
  | poll i test k => poll (f i) (fun r => test (g i r)) (fun r => (k (g i r)).embed f g)

end Prog

/-- What the shared state does: how it answers an access, and what it may do by itself. -/
structure World (ι : Type) (ρ : ι → Type) (σ : Type) where
  /-- `sem i s r s'`: in `s`, access `i` may answer `r` and leave `s'`. -/
  sem : (i : ι) → σ → ρ i → σ → Prop
  /-- A step of the environment. -/
  env : σ → σ → Prop

/-- The world in which an access is made only in the states that `guard` allows. -/
def World.restrict (W : World ι ρ σ) (guard : ι → σ → Prop) : World ι ρ σ where
  sem i s r s' := guard i s ∧ W.sem i s r s'
  env := W.env

/-- Any number of steps of the environment. -/
def World.Drift (W : World ι ρ σ) : σ → σ → Prop := Relation.ReflTransGen W.env

/-- A run of a program from a state to what is left of it in a later state, in any interleaving with the environment. -/
inductive Run (W : World ι ρ σ) : Prog ι ρ α → σ → Prog ι ρ α → σ → Prop where
  | refl (p : Prog ι ρ α) (s : σ) : Run W p s p s
  | env {p q : Prog ι ρ α} {s s' t : σ} : W.env s s' → Run W p s' q t → Run W p s q t
  | act {i : ι} {k : ρ i → Prog ι ρ α} {q : Prog ι ρ α} {s s' t : σ} (r : ρ i) :
      W.sem i s r s' → Run W (k r) s' q t → Run W (.act i k) s q t
  | hit {i : ι} {test : ρ i → Bool} {k : ρ i → Prog ι ρ α} {q : Prog ι ρ α} {s s' t : σ} (r : ρ i) :
      W.sem i s r s' → test r = true → Run W (k r) s' q t → Run W (.poll i test k) s q t
  | miss {i : ι} {test : ρ i → Bool} {k : ρ i → Prog ι ρ α} {q : Prog ι ρ α} {s s' t : σ} (r : ρ i) :
      W.sem i s r s' → test r = false → Run W (.poll i test k) s' q t → Run W (.poll i test k) s q t

/-- A run can start with steps of the environment. -/
theorem Run.drift {W : World ι ρ σ} {p q : Prog ι ρ α} {s s' t : σ} (h : W.Drift s s') (hr : Run W p s' q t) :
    Run W p s q t := by
  induction h using Relation.ReflTransGen.head_induction_on with
  | refl => exact hr
  | head h _ ih => exact Run.env h ih

/-- A run to a point and one from there on are together a run. -/
theorem Run.trans {W : World ι ρ σ} {p q r : Prog ι ρ α} {s t u : σ} (h : Run W p s q t) (h' : Run W q t r u) :
    Run W p s r u := by
  induction h with
  | refl => exact h'
  | env he _ ih => exact Run.env he (ih h')
  | act a hs _ ih => exact Run.act a hs (ih h')
  | hit a hs ht _ ih => exact Run.hit a hs ht (ih h')
  | miss a hs ht _ ih => exact Run.miss a hs ht (ih h')

/-- A run in a world in which some accesses are forbidden is a run in the world in which they are not. -/
theorem Run.unrestrict {W : World ι ρ σ} {guard : ι → σ → Prop} {p q : Prog ι ρ α} {s t : σ}
    (h : Run (W.restrict guard) p s q t) : Run W p s q t := by
  induction h with
  | refl => exact Run.refl _ _
  | env he _ ih => exact Run.env he ih
  | act a hs _ ih => exact Run.act a hs.2 ih
  | hit a hs ht _ ih => exact Run.hit a hs.2 ht ih
  | miss a hs ht _ ih => exact Run.miss a hs.2 ht ih

/-- A run of the first part of a sequence is a run of the sequence. -/
theorem Run.bind {W : World ι ρ σ} {p q : Prog ι ρ α} {s t : σ} (f : α → Prog ι ρ β) (h : Run W p s q t) :
    Run W (p >>= f) s (q >>= f) t := by
  induction h with
  | refl => exact Run.refl _ _
  | env he _ ih => exact Run.env he ih
  | act a hs _ ih => exact Run.act a hs ih
  | hit a hs ht _ ih => exact Run.hit a hs ht ih
  | miss a hs ht _ ih => exact Run.miss a hs ht ih

/-! ## Inversion: where a run of a program can be -/

/-- A program that has returned makes no access: only the environment moves. -/
theorem Run.ret_inv {W : World ι ρ σ} {a : α} {q : Prog ι ρ α} {s t : σ} (h : Run W (.ret a) s q t) :
    q = .ret a ∧ W.Drift s t := by
  generalize hp : Prog.ret a = p at h
  induction h with
  | refl => exact ⟨rfl, .refl⟩
  | env he _ ih =>
    obtain ⟨h1, h2⟩ := ih hp
    exact ⟨h1, .head he h2⟩
  | act => cases hp
  | hit => cases hp
  | miss => cases hp

/-- A run of a program that starts with an access is either still before it or past it. -/
theorem Run.act_inv {W : World ι ρ σ} {i : ι} {k : ρ i → Prog ι ρ α} {q : Prog ι ρ α} {s t : σ}
    (h : Run W (.act i k) s q t) :
    (q = .act i k ∧ W.Drift s t) ∨
      ∃ s₁ r s₂, W.Drift s s₁ ∧ W.sem i s₁ r s₂ ∧ Run W (k r) s₂ q t := by
  generalize hp : Prog.act i k = p at h
  induction h with
  | refl => exact Or.inl ⟨rfl, .refl⟩
  | env he _ ih =>
    rcases ih hp with ⟨h1, h2⟩ | ⟨s₁, r, s₂, h1, h2, h3⟩
    · exact Or.inl ⟨h1, .head he h2⟩
    · exact Or.inr ⟨s₁, r, s₂, .head he h1, h2, h3⟩
  | act r hs hr _ =>
    cases hp
    exact Or.inr ⟨_, r, _, .refl, hs, hr⟩
  | hit => cases hp
  | miss => cases hp

/-- A run of a sequence is either inside its first part or past it. -/
theorem Run.bind_inv {W : World ι ρ σ} {p : Prog ι ρ α} {f : α → Prog ι ρ β} {q : Prog ι ρ β} {s t : σ}
    (h : Run W (p >>= f) s q t) :
    (∃ p', q = p' >>= f ∧ Run W p s p' t) ∨ ∃ a s₁, Run W p s (.ret a) s₁ ∧ Run W (f a) s₁ q t := by
  generalize hp : (p >>= f) = w at h
  induction h generalizing p with
  | refl w s => exact Or.inl ⟨p, hp.symm, Run.refl _ _⟩
  | env he hr ih =>
    rcases ih hp with ⟨p', h1, h2⟩ | ⟨a, s₁, h1, h2⟩
    · exact Or.inl ⟨p', h1, Run.env he h2⟩
    · exact Or.inr ⟨a, s₁, Run.env he h1, h2⟩
  | act r hs hr ih =>
    cases p with
    | ret a => exact Or.inr ⟨a, _, Run.refl _ _, (show f a = _ from hp) ▸ Run.act r hs hr⟩
    | act i k =>
      cases hp
      rcases ih rfl with ⟨p', h1, h2⟩ | ⟨a, s₁, h1, h2⟩
      · exact Or.inl ⟨p', h1, Run.act r hs h2⟩
      · exact Or.inr ⟨a, s₁, Run.act r hs h1, h2⟩
    | poll i test k => cases hp
  | hit r hs ht hr ih =>
    cases p with
    | ret a => exact Or.inr ⟨a, _, Run.refl _ _, (show f a = _ from hp) ▸ Run.hit r hs ht hr⟩
    | act i k => cases hp
    | poll i test k =>
      cases hp
      rcases ih rfl with ⟨p', h1, h2⟩ | ⟨a, s₁, h1, h2⟩
      · exact Or.inl ⟨p', h1, Run.hit r hs ht h2⟩
      · exact Or.inr ⟨a, s₁, Run.hit r hs ht h1, h2⟩
  | miss r hs ht hr ih =>
    cases p with
    | ret a => exact Or.inr ⟨a, _, Run.refl _ _, (show f a = _ from hp) ▸ Run.miss r hs ht hr⟩
    | act i k => cases hp
    | poll i test k =>
      cases hp
      rcases @ih (.poll _ _ k) rfl with ⟨p', h1, h2⟩ | ⟨a, s₁, h1, h2⟩
      · exact Or.inl ⟨p', h1, Run.miss r hs ht h2⟩
      · exact Or.inr ⟨a, s₁, Run.miss r hs ht h1, h2⟩

/-- A run of a sequence that has returned is a run of the first part and one of the rest from its answer. -/
theorem Run.bind_ret_inv {W : World ι ρ σ} {p : Prog ι ρ α} {f : α → Prog ι ρ β} {b : β} {s t : σ}
    (h : Run W (p >>= f) s (.ret b) t) : ∃ a s₁, Run W p s (.ret a) s₁ ∧ Run W (f a) s₁ (.ret b) t := by
  rcases h.bind_inv with ⟨p', hq, hr⟩ | h
  · cases p' with
    | ret a => exact ⟨a, t, hr, (show f a = _ from hq.symm) ▸ Run.refl _ _⟩
    | act i k => cases hq
    | poll i test k => cases hq
  · exact h

/-- A run of a single access that has returned is that access, with steps of the environment before and after it. -/
theorem Run.call_inv {W : World ι ρ σ} {i : ι} {r : ρ i} {s t : σ} (h : Run W (.call i) s (.ret r) t) :
    ∃ s₁ s₂, W.Drift s s₁ ∧ W.sem i s₁ r s₂ ∧ W.Drift s₂ t := by
  rcases h.act_inv with ⟨hq, -⟩ | ⟨s₁, a, s₂, hd, hs, hr⟩
  · cases hq
  · obtain ⟨hq, hd'⟩ := hr.ret_inv
    cases hq
    exact ⟨s₁, s₂, hd, hs, hd'⟩

/-- What every access and every step of the environment keeps to, a whole run keeps to. -/
theorem Run.rel {W : World ι ρ σ} {Rel : σ → σ → Prop} (hrefl : ∀ s, Rel s s)
    (htrans : ∀ s t u, Rel s t → Rel t u → Rel s u) (hsem : ∀ i s r t, W.sem i s r t → Rel s t)
    (henv : ∀ s t, W.env s t → Rel s t) {p q : Prog ι ρ α} {s t : σ} (h : Run W p s q t) : Rel s t := by
  induction h with
  | refl => exact hrefl _
  | env he _ ih => exact htrans _ _ _ (henv _ _ he) ih
  | act r hs _ ih => exact htrans _ _ _ (hsem _ _ r _ hs) ih
  | hit r hs _ _ ih => exact htrans _ _ _ (hsem _ _ r _ hs) ih
  | miss r hs _ _ ih => exact htrans _ _ _ (hsem _ _ r _ hs) ih

/-- The world of a program that is embedded: its accesses are those that `f` names. -/
def World.comap {κ : Type} {ρ' : κ → Type} (f : ι → κ) (g : ∀ i, ρ' (f i) → ρ i) (W : World κ ρ' σ) : World ι ρ σ where
  sem i s r t := ∃ r', g i r' = r ∧ W.sem (f i) s r' t
  env := W.env

/-- A run of a program that is embedded is a run of the program. -/
theorem Run.of_embed {κ : Type} {ρ' : κ → Type} {f : ι → κ} {g : ∀ i, ρ' (f i) → ρ i} {W : World κ ρ' σ} {p : Prog ι ρ α}
    {q : Prog κ ρ' α} {s t : σ} (h : Run W (p.embed f g) s q t) : ∃ p', q = p'.embed f g ∧ Run (W.comap f g) p s p' t := by
  generalize hp : p.embed f g = w at h
  induction h generalizing p with
  | refl => exact ⟨p, hp.symm, Run.refl _ _⟩
  | env he _ ih =>
    obtain ⟨p', hq, hr⟩ := ih hp
    exact ⟨p', hq, Run.env he hr⟩
  | act r hs _ ih =>
    cases p with
    | act i k =>
      cases hp
      obtain ⟨p', hq, hr⟩ := ih rfl
      exact ⟨p', hq, Run.act (g i r) ⟨r, rfl, hs⟩ hr⟩
    | ret a => cases hp
    | poll i test k => cases hp
  | hit r hs ht _ ih =>
    cases p with
    | poll i test k =>
      cases hp
      obtain ⟨p', hq, hr⟩ := ih rfl
      exact ⟨p', hq, Run.hit (g i r) ⟨r, rfl, hs⟩ ht hr⟩
    | ret a => cases hp
    | act i k => cases hp
  | miss r hs ht _ ih =>
    cases p with
    | poll i test k =>
      cases hp
      obtain ⟨p', hq, hr⟩ := @ih (.poll i test k) rfl
      exact ⟨p', hq, Run.miss (g i r) ⟨r, rfl, hs⟩ ht hr⟩
    | ret a => cases hp
    | act i k => cases hp

/-! ## Runs that can be computed -/

/-- The run of a program in which `step` says how each access is answered, if it answers at all. A loop that polls has to pass at
its first answer. -/
def Prog.exec (step : (i : ι) → σ → Option (ρ i × σ)) : Prog ι ρ α → σ → Option (α × σ)
  | .ret a, s => some (a, s)
  | .act i k, s => (step i s).bind fun x => (k x.1).exec step x.2
  | .poll i test k, s => (step i s).bind fun x => if test x.1 then (k x.1).exec step x.2 else none

/-- A run that is computed is a run, also when the environment has to move before an access is answered as `step` says. -/
theorem Run.of_exec_drift {W : World ι ρ σ} {step : (i : ι) → σ → Option (ρ i × σ)}
    (hstep : ∀ i s r s', step i s = some (r, s') → ∃ s₁, W.Drift s s₁ ∧ W.sem i s₁ r s') {p : Prog ι ρ α} {s t : σ} {a : α}
    (h : p.exec step s = some (a, t)) : Run W p s (.ret a) t := by
  induction p generalizing s with
  | ret b =>
    cases h
    exact Run.refl _ _
  | act i k ih =>
    obtain ⟨⟨r, s'⟩, hr, hk⟩ := Option.bind_eq_some_iff.1 h
    obtain ⟨s₁, hd, hs⟩ := hstep i s r s' hr
    exact Run.drift hd (Run.act r hs (ih r hk))
  | poll i test k ih =>
    obtain ⟨⟨r, s'⟩, hr, hk⟩ := Option.bind_eq_some_iff.1 h
    obtain ⟨s₁, hd, hs⟩ := hstep i s r s' hr
    dsimp only at hk
    split at hk
    · rename_i ht
      exact Run.drift hd (Run.hit r hs ht (ih r hk))
    · cases hk

/-- An execution is a run, when each of its answers is one that the world can give. -/
theorem Run.of_exec {W : World ι ρ σ} {step : (i : ι) → σ → Option (ρ i × σ)}
    (hstep : ∀ i s r s', step i s = some (r, s') → W.sem i s r s') {p : Prog ι ρ α} {s t : σ} {a : α}
    (h : p.exec step s = some (a, t)) : Run W p s (.ret a) t :=
  Run.of_exec_drift (fun i s r s' hs => ⟨s, .refl, hstep i s r s' hs⟩) h

end Shared
