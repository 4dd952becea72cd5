import RvIommuTests.Lemmas.TestContracts
import RvIommuTests.Soc

/-!
# Tests that find nothing

A contract of the devices gives one of a test function that may assert only what is true and comes to no error. A run that keeps
to it reports no failure, at any point.
-/

namespace Shared

open RvIommuTests

variable {γ : Type}

/-- The contract of a test function that finds nothing, on devices with the contract `C`. -/
def Contract.flawless (C : Contract DevIo DevIo.Answer γ) : Contract TestIo TestIo.Answer γ where
  pre
    | .body (.dev i), g => C.pre i g
    | .body (.assert _ cond), _ => cond = true
    | .body (.error _), _ => False
    | _, _ => True
  post
    | .body (.dev i), g, r, g' => C.post i g r g'
    | .body (.error _), _, _, _ => False
    | .verdict, g, r, g' => r = true ∧ g' = g
    | _, g, _, g' => g' = g

/-- The contract of its body. -/
def Contract.flawlessBody (C : Contract DevIo DevIo.Answer γ) : Contract BodyIo BodyIo.Answer γ :=
  C.flawless.comap TestIo.body (fun _ r => r)

end Shared

namespace RvIommuTests

open Shared

namespace FlawlessAux

variable {γ δ α : Type} {C : Contract DevIo DevIo.Answer γ} {g : γ}

/-- The test has found nothing, on devices that `R` relates to the view. -/
structure Flawless (R : δ → γ → Prop) (b : Bench δ) (g : γ) : Prop where
  dev : R b.dev g
  status : b.status = true
  asserted : ∀ a ∈ b.asserted, a.2 = true
  counted : b.harness.numSuccTests = b.harness.numTotalTests
  printed : ∀ l ∈ b.harness.printed, l.isGood = true

/-- One more line. -/
theorem good_print {h : Harness} (hp : ∀ l ∈ h.printed, l.isGood = true) {l : Line} (hl : l.isGood = true) :
    ∀ l' ∈ (h.print l).printed, l'.isGood = true := by
  intro l' hl'
  rcases List.mem_append.1 hl' with hl' | hl'
  · exact hp l' hl'
  · exact List.mem_singleton.1 hl' ▸ hl

/-- The world of a test function keeps the contract when its devices do. -/
theorem flawless_keptBy {D : World DevIo DevIo.Answer δ} {R : δ → γ → Prop} (h : C.KeptBy D R) (logLevel : Int) (img : Image) :
    C.flawless.KeptBy (testWorld logLevel img D) (Flawless R) := by
  constructor
  · rintro i b g r b' hb hpre hsem
    cases i with
    | body i =>
      cases i with
      | dev i =>
        obtain ⟨d, hd, rfl⟩ := hsem
        obtain ⟨g', hpost, hR'⟩ := h.sem i b.dev g r d hb.dev hpre hd
        exact ⟨g', hpost, hR', hb.status, hb.asserted, hb.counted, hb.printed⟩
      | assert test cond =>
        cases hsem
        obtain rfl : cond = true := hpre
        refine ⟨g, rfl, hb.dev, ?_, ?_, ?_, ?_⟩
        · exact (Bool.and_true _).trans hb.status
        · intro a ha
          rcases List.mem_append.1 ha with ha | ha
          · exact hb.asserted a ha
          · exact List.mem_singleton.1 ha ▸ rfl
        · unfold Bench.assert Harness.testAssert
          dsimp only
          split
          · exact congrArg (· + 1#32) hb.counted
          · exact hb.counted
        · unfold Bench.assert Harness.testAssert
          dsimp only
          split
          · exact good_print hb.printed rfl
          · exact hb.printed
      | error msg => exact hsem.elim
    | start name =>
      cases hsem
      refine ⟨g, rfl, hb.dev, rfl, (fun a ha => nomatch ha), ?_, ?_⟩
      · unfold Bench.start Harness.testStart
        dsimp only
        split
        · exact hb.counted
        · exact hb.counted
      · unfold Bench.start Harness.testStart
        dsimp only
        split
        · exact good_print hb.printed rfl
        · exact hb.printed
    | verdict =>
      obtain ⟨rfl, rfl⟩ := hsem
      refine ⟨g, ⟨hb.status, rfl⟩, hb.dev, hb.status, hb.asserted, ?_, ?_⟩
      · unfold Bench.verdict Harness.testEnd
        dsimp only
        split
        · exact hb.counted
        · exact hb.counted
      · unfold Bench.verdict Harness.testEnd
        dsimp only
        split
        · exact good_print hb.printed hb.status
        · exact hb.printed
    | gotoPriv t =>
      obtain ⟨fuel, sys, -, rfl⟩ := hsem
      exact ⟨g, rfl, hb.dev, hb.status, hb.asserted, hb.counted, hb.printed⟩
    | resetState =>
      obtain ⟨fuel, sys, -, rfl⟩ := hsem
      exact ⟨g, rfl, hb.dev, hb.status, hb.asserted, hb.counted, hb.printed⟩
  · rintro b g b' hb ⟨d, hd, rfl⟩
    exact ⟨h.env _ _ _ hb.dev hd, hb.status, hb.asserted, hb.counted, hb.printed⟩

/-! ## Rules -/

/-- An access of a device in a test body that is to find no flaw. -/
theorem wp_dev (i : DevIo) (Q : i.Answer → γ → Prop) :
    wp C.flawlessBody (Body.dev i) Q g ↔ C.pre i g ∧ ∀ r g', C.post i g r g' → Q r g' :=
  wp_comap_call TestIo.body (fun _ r => r) (BodyIo.dev i)

/-- An assertion of a test body that is to find no flaw holds. -/
theorem wp_assert (test : String) (cond : Bool) (Q : Unit → γ → Prop) :
    wp C.flawlessBody (Body.testAssert test cond) Q g ↔ cond = true ∧ Q () g :=
  (wp_comap_call TestIo.body (fun _ r => r) (BodyIo.assert test cond)).trans
    (and_congr Iff.rfl ⟨fun h => h () g rfl, fun h _ _ hg => hg ▸ h⟩)

/-- The second check of two is made only when the first holds. -/
theorem wp_and (p q : Body Bool) (Q : Bool → γ → Prop) :
    wp C.flawlessBody (p.and q) Q g ↔
      wp C.flawlessBody p (fun b g' => if b = true then wp C.flawlessBody q Q g' else Q false g') g := by
  unfold Body.and
  rw [wp_bind]
  simp only [wp_ite, wp_pure]

/-- Code of the IOMMU driver in such a test body. -/
theorem wp_queue (p : Driver α) (Q : α → γ → Prop) : wp C.flawlessBody (Body.queue p) Q g ↔ wp C.queue p Q g := by
  unfold Body.queue Contract.flawlessBody
  rw [wp_embed, Contract.comap_comap]
  exact Iff.rfl

/-- Code of the driver of the DMA device in such a test body. -/
theorem wp_idma (p : IdmaDriver α) (Q : α → γ → Prop) : wp C.flawlessBody (Body.idma p) Q g ↔ wp C.idma p Q g := by
  unfold Body.idma Contract.flawlessBody
  rw [wp_embed, Contract.comap_comap]
  exact Iff.rfl

/-- A test function comes to what its body comes to. -/
theorem wp_fn (name : String) {p : Body Unit} {e : TestFn} (he : e = TestFn.testEnd ∨ e = pure none) {Q : γ → Prop}
    (hp : wp C.flawlessBody p (fun _ => Q) g) :
    wp C.flawless (TestFn.testStart name >>= fun _ => TestFn.body p >>= fun _ => e) (fun r g' => r ≠ some false ∧ Q g') g := by
  rw [wp_bind]
  refine ⟨trivial, ?_⟩
  rintro r _ rfl
  rw [wp_ret, wp_bind]
  refine (wp_embed _ _ p).2 (wp_mono hp ?_)
  intro _ g hg
  rcases he with rfl | rfl
  · refine ⟨trivial, ?_⟩
    rintro _ _ ⟨rfl, rfl⟩
    refine ⟨trivial, ?_⟩
    rintro _ _ rfl
    refine ⟨trivial, ?_⟩
    rintro _ _ rfl
    exact ⟨by decide, hg⟩
  · exact ⟨by decide, hg⟩

/-- Tests that come back to where they started can be called in any order. -/
theorem wp_runTests {Q : γ → Prop} (ts : List TestFn)
    (ht : ∀ t ∈ ts, ∀ g, Q g → wp C.flawless t (fun r g' => r ≠ some false ∧ Q g') g) (hg : Q g) :
    wp C.flawless (runTests ts) (fun rs g' => (∀ r ∈ rs, r ≠ some false) ∧ Q g') g := by
  induction ts generalizing g with
  | nil => exact ⟨(fun r hr => nomatch hr), hg⟩
  | cons t ts ih =>
    unfold runTests
    rw [wp_bind]
    refine wp_mono (ht t (List.mem_cons_self ..) g hg) ?_
    rintro r g' ⟨hr, hg'⟩
    rw [wp_bind]
    refine wp_mono (ih (fun t' ht' => ht t' (List.mem_cons_of_mem _ ht')) hg') ?_
    rintro rs g'' ⟨hrs, hg''⟩
    refine ⟨?_, hg''⟩
    intro r' hr'
    rcases List.mem_cons.1 hr' with rfl | hr'
    · exact hr
    · exact hrs r' hr'

end FlawlessAux

end RvIommuTests
