import RvIommuTests.Lib.Wp
import RvIommuTests.TestBodies

/-!
# Contracts of a test function

A contract of the devices gives one of a test function, in which the view has the assertions made so far beside that of the
devices. The rules fold it over the pieces that the test bodies are made of.
-/

namespace Shared

open RvIommuTests

variable {γ : Type}

/-- The contract of a test function on devices with the contract `C`, when only what `P` says may be asserted. -/
def Contract.testOnly (C : Contract DevIo DevIo.Answer γ) (P : String × Bool → Prop) :
    Contract TestIo TestIo.Answer (γ × List (String × Bool)) where
  pre
    | .body (.dev i), g => C.pre i g.1
    | .body (.assert test cond), _ => P (test, cond)
    | _, _ => True
  post
    | .body (.dev i), g, r, g' => ∃ d, C.post i g.1 r d ∧ g' = (d, g.2)
    | .body (.assert test cond), g, _, g' => g' = (g.1, g.2 ++ [(test, cond)])
    | .body (.error _), _, _, _ => False
    | .start _, g, _, g' => g' = (g.1, [])
    | .verdict, g, _, g' => g' = g
    | .gotoPriv _, g, _, g' => g' = g
    | .resetState, g, _, g' => g' = g

/-- The contract of a test body. -/
def Contract.bodyOnly (C : Contract DevIo DevIo.Answer γ) (P : String × Bool → Prop) :
    Contract BodyIo BodyIo.Answer (γ × List (String × Bool)) :=
  (C.testOnly P).comap TestIo.body (fun _ r => r)

/-- The contract of a test function that may assert anything. -/
abbrev Contract.test (C : Contract DevIo DevIo.Answer γ) : Contract TestIo TestIo.Answer (γ × List (String × Bool)) :=
  C.testOnly fun _ => True

/-- The contract of a test body that may assert anything. -/
abbrev Contract.body (C : Contract DevIo DevIo.Answer γ) : Contract BodyIo BodyIo.Answer (γ × List (String × Bool)) :=
  C.bodyOnly fun _ => True

/-- The contract of the driver of the queues. -/
def Contract.queue (C : Contract DevIo DevIo.Answer γ) : Contract Access Access.Answer γ := C.comap DevIo.queue (fun _ r => r)

/-- The contract of the driver of the DMA device. -/
def Contract.idma (C : Contract DevIo DevIo.Answer γ) : Contract IdmaIo IdmaIo.Answer γ := C.comap DevIo.idma (fun _ r => r)

end Shared

namespace RvIommuTests

open Shared

namespace TestAux

variable {γ δ α : Type} {C : Contract DevIo DevIo.Answer γ} {P : String × Bool → Prop} {g : γ × List (String × Bool)}

/-- A test on devices that `R` relates to the view: what it has asserted is in the view, and was allowed. -/
structure Judged (R : δ → γ → Prop) (P : String × Bool → Prop) (b : Bench δ) (g : γ × List (String × Bool)) : Prop where
  dev : R b.dev g.1
  asserted : b.asserted = g.2
  only : ∀ a ∈ b.asserted, P a

/-- The world of a test function keeps the contract when its devices do. -/
theorem test_keptBy {D : World DevIo DevIo.Answer δ} {R : δ → γ → Prop} (h : C.KeptBy D R) (P : String × Bool → Prop)
    (logLevel : Int) (img : Image) : (C.testOnly P).KeptBy (testWorld logLevel img D) (Judged R P) := by
  constructor
  · rintro i b g r b' ⟨hR, has, hP⟩ hpre hsem
    cases i with
    | body i =>
      cases i with
      | dev i =>
        obtain ⟨d, hd, rfl⟩ := hsem
        obtain ⟨e, hpost, hR'⟩ := h.sem i b.dev g.1 r d hR hpre hd
        exact ⟨(e, g.2), ⟨e, hpost, rfl⟩, hR', has, hP⟩
      | assert test cond =>
        cases hsem
        refine ⟨_, rfl, hR, congrArg (· ++ [(test, cond)]) has, ?_⟩
        intro a ha
        rcases List.mem_append.1 ha with ha | ha
        · exact hP a ha
        · exact List.mem_singleton.1 ha ▸ hpre
      | error msg => exact hsem.elim
    | start name =>
      cases hsem
      exact ⟨_, rfl, hR, rfl, fun a ha => nomatch ha⟩
    | verdict =>
      obtain ⟨-, rfl⟩ := hsem
      exact ⟨g, rfl, hR, has, hP⟩
    | gotoPriv t =>
      obtain ⟨fuel, sys, -, rfl⟩ := hsem
      exact ⟨g, rfl, hR, has, hP⟩
    | resetState =>
      obtain ⟨fuel, sys, -, rfl⟩ := hsem
      exact ⟨g, rfl, hR, has, hP⟩
  · rintro b g b' ⟨hR, has, hP⟩ ⟨d, hd, rfl⟩
    exact ⟨h.env _ _ _ hR hd, has, hP⟩

/-- A run of a test that is computed is a run of it, when the computed devices answer as the devices may. -/
theorem testStep_sound {D : World DevIo DevIo.Answer δ} {step : (i : DevIo) → δ → Option (i.Answer × δ)}
    (hstep : ∀ i s r s', step i s = some (r, s') → D.sem i s r s') (logLevel : Int) (img : Image) :
    ∀ i b r b', testStep logLevel img step i b = some (r, b') → (testWorld logLevel img D).sem i b r b' := by
  have hexec : ∀ {p : Exec Unit} {b : Bench δ} {b' : Bench δ}, ((p b.sys).toOption.map fun x =>
      ((), { b with sys := x.2 })) = some ((), b') → ∃ sys, p b.sys = .ok ((), sys) ∧ b' = { b with sys := sys } := by
    intro p b b' h
    cases hp : p b.sys with
    | error e =>
      rw [hp] at h
      cases h
    | ok x =>
      rw [hp] at h
      cases h
      exact ⟨x.2, rfl, rfl⟩
  intro i b r b' h
  cases i with
  | body i =>
    cases i with
    | dev i =>
      obtain ⟨x, hx, he⟩ := Option.map_eq_some_iff.1 h
      cases he
      exact ⟨x.2, hstep i b.dev x.1 x.2 hx, rfl⟩
    | assert test cond =>
      cases h
      rfl
    | error msg => cases h
  | start name =>
    cases h
    rfl
  | verdict =>
    cases h
    exact ⟨rfl, rfl⟩
  | gotoPriv t => exact ⟨5, hexec h⟩
  | resetState => exact ⟨5, hexec h⟩

/-- The same, when the devices have to move by themselves before they answer as `step` says. -/
theorem testStep_drift {D : World DevIo DevIo.Answer δ} {step : (i : DevIo) → δ → Option (i.Answer × δ)}
    (hstep : ∀ i s r s', step i s = some (r, s') → ∃ s₁, D.Drift s s₁ ∧ D.sem i s₁ r s') (logLevel : Int) (img : Image)
    (i : TestIo) (b : Bench δ) (r : i.Answer) (b' : Bench δ) (h : testStep logLevel img step i b = some (r, b')) :
    ∃ b₁, (testWorld logLevel img D).Drift b b₁ ∧ (testWorld logLevel img D).sem i b₁ r b' := by
  have hs := @testStep_sound δ ⟨fun i s r s' => step i s = some (r, s'), D.env⟩ step (fun _ _ _ _ h => h) logLevel img i b r b' h
  cases i with
  | body i =>
    cases i with
    | dev i =>
      obtain ⟨d, hd, rfl⟩ := hs
      obtain ⟨s₁, hdrift, hsem⟩ := hstep i b.dev r d hd
      refine ⟨{ b with dev := s₁ }, ?_, d, hsem, rfl⟩
      refine Relation.ReflTransGen.lift (fun s => { b with dev := s }) ?_ _ _ hdrift
      exact fun s s' he => ⟨s', he, rfl⟩
    | assert test cond => exact ⟨b, .refl, hs⟩
    | error msg => exact hs.elim
  | start name => exact ⟨b, .refl, hs⟩
  | verdict => exact ⟨b, .refl, hs⟩
  | gotoPriv t => exact ⟨b, .refl, hs⟩
  | resetState => exact ⟨b, .refl, hs⟩

/-! ## Rules -/

/-- An access of a device, in the contract of a test body. -/
theorem wp_dev (i : DevIo) (Q : i.Answer → γ × List (String × Bool) → Prop) :
    wp (C.bodyOnly P) (Body.dev i) Q g ↔ C.pre i g.1 ∧ ∀ r d, C.post i g.1 r d → Q r (d, g.2) := by
  refine and_congr Iff.rfl ⟨?_, ?_⟩
  · exact fun h r d hd => h r _ ⟨r, rfl, d, hd, rfl⟩
  · rintro h r _ ⟨_, rfl, d, hd, rfl⟩
    exact h _ d hd

/-- An assertion of a test that may make only those that satisfy `P`. -/
theorem wp_assertOnly (test : String) (cond : Bool) (Q : Unit → γ × List (String × Bool) → Prop) :
    wp (C.bodyOnly P) (Body.testAssert test cond) Q g ↔ P (test, cond) ∧ Q () (g.1, g.2 ++ [(test, cond)]) := by
  constructor
  · exact fun h => ⟨h.1, h.2 () _ ⟨(), rfl, rfl⟩⟩
  · refine fun h => ⟨h.1, ?_⟩
    rintro r _ ⟨_, rfl, rfl⟩
    exact h.2

/-- An assertion is recorded after those made before it, with the value of its condition. -/
theorem wp_assert (test : String) (cond : Bool) (Q : Unit → γ × List (String × Bool) → Prop) :
    wp C.body (Body.testAssert test cond) Q g ↔ Q () (g.1, g.2 ++ [(test, cond)]) :=
  (wp_assertOnly test cond Q).trans (iff_of_eq (true_and _))

/-- Nothing is left to show where a test stops, because `ERROR` is never answered. -/
theorem wp_error (msg : String) (Q : Unit → γ × List (String × Bool) → Prop) : wp (C.bodyOnly P) (Body.error msg) Q g ↔ True := by
  refine iff_true_intro ⟨trivial, ?_⟩
  rintro r _ ⟨_, rfl, hf⟩
  exact hf.elim

/-- The second check of two is made only when the first holds. -/
theorem wp_and (p q : Body Bool) (Q : Bool → γ × List (String × Bool) → Prop) :
    wp (C.bodyOnly P) (p.and q) Q g ↔
      wp (C.bodyOnly P) p (fun b g' => if b = true then wp (C.bodyOnly P) q Q g' else Q false g') g := by
  unfold Body.and
  rw [wp_bind]
  simp only [wp_ite, wp_pure]

/-- What an access to the devices answers in a test body. -/
theorem body_post (i : DevIo) (r : i.Answer) (g' : γ × List (String × Bool)) :
    (C.bodyOnly P).post (.dev i) g r g' ↔ ∃ d, C.post i g.1 r d ∧ g' = (d, g.2) :=
  ⟨fun ⟨_, hr, h⟩ => hr ▸ h, fun h => ⟨r, rfl, h⟩⟩

/-- A program of accesses to one device is judged by the contract of these. -/
theorem wp_device {ι : Type} {ρ : ι → Type} (f : ι → DevIo) (a : ∀ i, (f i).Answer → ρ i) (p : Prog ι ρ α)
    (Q : α → γ × List (String × Bool) → Prop) :
    wp (C.bodyOnly P) (p.embed (fun i => BodyIo.dev (f i)) a) Q g ↔ wp (C.comap f a) p (fun x d => Q x (d, g.2)) g.1 := by
  induction p generalizing g with
  | ret x => exact Iff.rfl
  | act i k ih =>
    refine and_congr Iff.rfl ⟨?_, ?_⟩
    · rintro h _ d ⟨r, rfl, hd⟩
      exact (ih _).1 (h r _ ((body_post (f i) r _).2 ⟨d, hd, rfl⟩))
    · intro h r g' hr
      obtain ⟨d, hd, rfl⟩ := (body_post (f i) r g').1 hr
      exact (ih _).2 (h _ d ⟨r, rfl, hd⟩)
  | poll i test k ih =>
    refine and_congr Iff.rfl ⟨?_, ?_⟩
    · rintro h _ d ⟨r, rfl, hd⟩
      have hr := h r _ ((body_post (f i) r _).2 ⟨d, hd, rfl⟩)
      split at hr
      · rename_i ht
        rw [if_pos ht]
        exact (ih _).1 hr
      · rename_i ht
        rw [if_neg ht]
        exact congrArg Prod.fst hr
    · intro h r g' hr
      obtain ⟨d, hd, rfl⟩ := (body_post (f i) r g').1 hr
      have hk := h _ d ⟨r, rfl, hd⟩
      split at hk
      · rename_i ht
        rw [if_pos ht]
        exact (ih _).2 hk
      · rename_i ht
        rw [if_neg ht]
        exact Prod.ext hk rfl

/-- Code of the IOMMU driver is shown over the contract of its own accesses, and asserts nothing. -/
theorem wp_queue (p : Driver α) (Q : α → γ × List (String × Bool) → Prop) :
    wp (C.bodyOnly P) (Body.queue p) Q g ↔ wp C.queue p (fun x d => Q x (d, g.2)) g.1 :=
  wp_device DevIo.queue (fun _ r => r) p Q

/-- Code of the driver of the DMA device in a test body. -/
theorem wp_idma (p : IdmaDriver α) (Q : α → γ × List (String × Bool) → Prop) :
    wp (C.bodyOnly P) (Body.idma p) Q g ↔ wp C.idma p (fun x d => Q x (d, g.2)) g.1 :=
  wp_device DevIo.idma (fun _ r => r) p Q

/-- One access of the IOMMU driver meets the contract that a test body has for it. -/
theorem wp_queue_call (i : Access) (Q : i.Answer → γ → Prop) {d : γ} :
    wp C.queue (.call i) Q d ↔ C.pre (.queue i) d ∧ ∀ r d', C.post (.queue i) d r d' → Q r d' :=
  wp_comap_call DevIo.queue (fun _ r => r) i

/-- One access of the driver of the DMA device meets the contract that a test body has for it. -/
theorem wp_idma_call (i : IdmaIo) (Q : i.Answer → γ → Prop) {d : γ} :
    wp C.idma (.call i) Q d ↔ C.pre (.idma i) d ∧ ∀ r d', C.post (.idma i) d r d' → Q r d' :=
  wp_comap_call DevIo.idma (fun _ r => r) i

/-! ## Whole functions -/

/-- A test function that starts its test and runs its body comes, whatever follows, to what the body comes to. -/
theorem wp_start_body (name : String) (p : Body Unit) (e : TestFn) {Q : γ × List (String × Bool) → Prop}
    (he : ∀ g, Q g → wp (C.testOnly P) e (fun _ => Q) g) (hp : wp (C.bodyOnly P) p (fun _ => Q) (g.1, [])) :
    wp (C.testOnly P) (TestFn.testStart name >>= fun _ => TestFn.body p >>= fun _ => e) (fun _ => Q) g := by
  rw [wp_bind]
  refine ⟨trivial, ?_⟩
  rintro r _ rfl
  rw [wp_ret, wp_bind]
  refine (wp_embed _ _ p).2 (wp_mono hp ?_)
  exact fun _ g hg => he g hg

/-- `TEST_END` works on the hart and on the harness only, so it leaves the view as it is. -/
theorem wp_testEnd {Q : γ × List (String × Bool) → Prop} (h : Q g) : wp (C.testOnly P) TestFn.testEnd (fun _ => Q) g := by
  refine ⟨trivial, ?_⟩
  rintro r _ rfl
  refine ⟨trivial, ?_⟩
  rintro _ _ rfl
  refine ⟨trivial, ?_⟩
  rintro _ _ rfl
  exact h

/-- A test function comes to what its body comes to, whether it has a `TEST_END` or not. -/
theorem wp_fn (name : String) {p : Body Unit} {e : TestFn} (he : e = TestFn.testEnd ∨ e = pure none)
    {Q : γ × List (String × Bool) → Prop} (hp : wp (C.bodyOnly P) p (fun _ => Q) (g.1, [])) :
    wp (C.testOnly P) (TestFn.testStart name >>= fun _ => TestFn.body p >>= fun _ => e) (fun _ => Q) g := by
  refine wp_start_body name p e ?_ hp
  intro g hg
  rcases he with rfl | rfl
  · exact wp_testEnd hg
  · exact hg

/-- What the body of a test comes to holds when the function has returned, in every world that keeps the contract. -/
theorem returned_of_wp {D : World DevIo DevIo.Answer δ} {R : δ → γ → Prop} (hD : C.KeptBy D R) {logLevel : Int} {img : Image}
    {name : String} {p : Body Unit} {e : TestFn} (he : e = TestFn.testEnd ∨ e = pure none)
    {Q : γ × List (String × Bool) → Prop} {b b' : Bench δ} {v : Option Bool}
    (hr : Run (testWorld logLevel img D) (TestFn.testStart name >>= fun _ => TestFn.body p >>= fun _ => e) b (.ret v) b')
    {d : γ} (hd : R b.dev d) (hp : wp C.body p (fun _ => Q) (d, [])) : ∃ d', R b'.dev d' ∧ Q (d', b'.asserted) := by
  obtain ⟨g', ⟨hR, has, -⟩, hQ⟩ := wp_sound (test_keptBy hD (fun _ => True) logLevel img) hr
    (wp_fn (g := (d, b.asserted)) name he hp) ⟨hd, rfl, fun _ _ => trivial⟩
  exact ⟨g'.1, hR, has ▸ hQ⟩

/-- What the body of a test may assert is all that the function asserts, at every point of its runs. When the function has returned,
what its body comes to holds. -/
theorem asserted_of_wp {D : World DevIo DevIo.Answer δ} {R : δ → γ → Prop} (hD : C.KeptBy D R) {logLevel : Int} {img : Image}
    {name : String} {p : Body Unit} {e : TestFn} (he : e = TestFn.testEnd ∨ e = pure none) {b b' : Bench δ} {q : TestFn}
    (hr : Run (testWorld logLevel img D) (TestFn.testStart name >>= fun _ => TestFn.body p >>= fun _ => e) b q b')
    {d : γ} (hd : R b.dev d) (hnone : b.asserted = []) {Q : γ × List (String × Bool) → Prop}
    (hp : wp (C.bodyOnly P) p (fun _ => Q) (d, [])) :
    (∀ a ∈ b'.asserted, P a) ∧ ∀ v, q = .ret v → ∃ d', Q (d', b'.asserted) := by
  obtain ⟨g', hjudged, hQ⟩ := wp_run (test_keptBy hD P logLevel img) hr (wp_fn (g := (d, b.asserted)) name he hp)
    ⟨hd, rfl, fun a ha => nomatch hnone ▸ ha⟩
  refine ⟨hjudged.only, ?_⟩
  rintro v rfl
  exact ⟨g'.1, hjudged.asserted ▸ hQ⟩

end TestAux

end RvIommuTests
