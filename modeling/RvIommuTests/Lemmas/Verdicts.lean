import RvIommuTests.Lemmas.Goto
import RvIommuTests.Theorems.Harness
import RvIommuTests.Verdicts

/-!
# Calls of test functions

A call of a test function, whatever the devices do, is for the harness a call of a `TestFunc`: of what the test has asserted, with or
without a `TEST_END`.
-/

namespace RvIommuTests

open Shared Riscv

namespace VerdictAux

open Harness GotoAux

variable {δ : Type} {logLevel : Int} {img : Image} {D : World DevIo DevIo.Answer δ} {b b' : Bench δ}

/-- From one point of a body to a later one: only assertions were made. -/
def Asserts (logLevel : Int) (b b' : Bench δ) : Prop :=
  ∃ as, b'.asserted = b.asserted ++ as ∧ (b'.harness, b'.status) = as.foldl (testAssert logLevel) (b.harness, b.status) ∧
    b'.sys = b.sys

/-- Nothing was asserted between a bench and itself. -/
theorem Asserts.refl (b : Bench δ) : Asserts logLevel b b := ⟨[], (List.append_nil _).symm, rfl, rfl⟩

/-- What was asserted between three benches was asserted from the first to the last, in that order. -/
theorem Asserts.trans {b₁ b₂ b₃ : Bench δ} (h : Asserts logLevel b₁ b₂) (h' : Asserts logLevel b₂ b₃) :
    Asserts logLevel b₁ b₃ := by
  obtain ⟨as, h1, h2, h3⟩ := h
  obtain ⟨as', h1', h2', h3'⟩ := h'
  refine ⟨as ++ as', ?_, ?_, h3'.trans h3⟩
  · rw [h1', h1, List.append_assoc]
  · rw [h2', h2, List.foldl_append]

/-- What the devices do by themselves asserts nothing and prints nothing. -/
theorem asserts_env (h : (testWorld logLevel img D).env b b') : Asserts logLevel b b' := by
  obtain ⟨d, -, rfl⟩ := h
  exact Asserts.refl b

/-- One access of a test body asserts at most what it says. -/
theorem asserts_body (i : BodyIo) (r : i.Answer) (h : (testWorld logLevel img D).sem (.body i) b r b') :
    Asserts logLevel b b' := by
  cases i with
  | dev i =>
    obtain ⟨d, -, rfl⟩ := h
    exact Asserts.refl b
  | assert test cond =>
    cases h
    exact ⟨[(test, cond)], rfl, rfl, rfl⟩
  | error msg => exact h.elim

/-- A whole test body asserts what its accesses assert, by induction over the run. -/
theorem asserts_run {p : Body Unit} {q : Prog TestIo TestIo.Answer Unit}
    (h : Run (testWorld logLevel img D) (TestFn.body p) b q b') : Asserts logLevel b b' := by
  obtain ⟨p', -, hr⟩ := Run.of_embed h
  apply Run.rel Asserts.refl (fun _ _ _ => Asserts.trans) _ _ hr
  · rintro i s r t ⟨r', -, hs⟩
    exact asserts_body i r' hs
  · exact fun _ _ h => @asserts_env _ logLevel img D _ _ h

/-! ## The macros -/

/-- The environment of a test changes nothing of the bench but the devices. -/
theorem drift_eq (h : (testWorld logLevel img D).Drift b b') : ∃ d, b' = { b with dev := d } := by
  induction h with
  | refl => exact ⟨b.dev, rfl⟩
  | tail _ he ih =>
    obtain ⟨d, -, rfl⟩ := he
    obtain ⟨d', rfl⟩ := ih
    exact ⟨d, rfl⟩

/-- When the start of a test has been run, the bench is as `TEST_START` leaves it, but for the devices. -/
theorem start_run {name : String} {u : Unit} (h : Run (testWorld logLevel img D) (TestFn.testStart name) b (.ret u) b') :
    ∃ d, b' = { b.start logLevel name with dev := d } := by
  obtain ⟨b₁, b₂, hd, rfl, hd'⟩ := h.call_inv
  obtain ⟨d, rfl⟩ := drift_eq hd
  obtain ⟨d', rfl⟩ := drift_eq hd'
  exact ⟨d', rfl⟩

/-- When the end of a test has been run, it has returned the status, gone to M-mode, reset the state, and printed the verdict. -/
theorem testEnd_run {r : Option Bool} (h : Run (testWorld logLevel img D) TestFn.testEnd b (.ret r) b') :
    r = some b.status ∧ ∃ fuel s, gotoPriv img fuel (priv .m) b.sys = .ok ((), s) ∧
      ∃ fuel' s', resetState img fuel' s = .ok ((), s') ∧ ∃ d, b' = { b.verdict logLevel with dev := d, sys := s' } := by
  obtain ⟨status, b₁, h1, h⟩ := h.bind_ret_inv
  obtain ⟨_, b₂, h2, h⟩ := h.bind_ret_inv
  obtain ⟨_, b₃, h3, h⟩ := h.bind_ret_inv
  obtain ⟨c₁, c₂, hd1, ⟨rfl, rfl⟩, hd1'⟩ := h1.call_inv
  obtain ⟨c₃, c₄, hd2, ⟨fuel, s, hs, rfl⟩, hd2'⟩ := h2.call_inv
  obtain ⟨c₅, c₆, hd3, ⟨fuel', s', hs', rfl⟩, hd3'⟩ := h3.call_inv
  obtain ⟨hr, hd4⟩ := h.ret_inv
  obtain ⟨_, rfl⟩ := drift_eq hd1
  obtain ⟨_, rfl⟩ := drift_eq hd1'
  obtain ⟨_, rfl⟩ := drift_eq hd2
  obtain ⟨_, rfl⟩ := drift_eq hd2'
  obtain ⟨_, rfl⟩ := drift_eq hd3
  obtain ⟨_, rfl⟩ := drift_eq hd3'
  obtain ⟨d, rfl⟩ := drift_eq hd4
  cases hr
  exact ⟨rfl, fuel, s, hs, fuel', s', hs', d, rfl⟩

/-! ## Whole functions -/

/-- A test function that ends in `TEST_END` is for the harness a call with what it has asserted, and leaves the hart reset. -/
theorem called_of_run {name : String} {p : Body Unit} {r : Option Bool}
    (h : Run (testWorld logLevel img D) (TestFn.testStart name >>= fun _ => TestFn.body p >>= fun _ => TestFn.testEnd) b (.ret r)
      b') :
    (b'.harness, r) = Harness.call logLevel b.harness ⟨name, b'.asserted, true⟩ ∧
      ∃ fuel s, gotoPriv img fuel (priv .m) b.sys = .ok ((), s) ∧ ∃ fuel', resetState img fuel' s = .ok ((), b'.sys) := by
  obtain ⟨_, b₁, h1, h⟩ := h.bind_ret_inv
  obtain ⟨_, b₂, h2, h3⟩ := h.bind_ret_inv
  obtain ⟨d, rfl⟩ := start_run h1
  obtain ⟨as, has, hfold, hsys⟩ := asserts_run h2
  obtain ⟨rfl, fuel, s, hs, fuel', s', hs', d', rfl⟩ := testEnd_run h3
  refine ⟨?_, fuel, s, hsys ▸ hs, fuel', hs'⟩
  have hasserted : b₂.asserted = as := has
  have hcall : Harness.call logLevel b.harness ⟨name, b₂.asserted, true⟩ = Harness.testEnd logLevel (b₂.harness, b₂.status) := by
    rw [Harness.call, if_pos rfl, hasserted]
    exact congrArg (Harness.testEnd logLevel) hfold.symm
  exact hcall.symm

/-- A test function without a `TEST_END` returns no verdict. -/
theorem none_of_run {name : String} {p : Body Unit} {r : Option Bool}
    (h : Run (testWorld logLevel img D) (TestFn.testStart name >>= fun _ => TestFn.body p >>= fun _ => pure none) b (.ret r) b') :
    r = none := by
  obtain ⟨_, b₁, -, h⟩ := h.bind_ret_inv
  obtain ⟨_, b₂, -, h⟩ := h.bind_ret_inv
  obtain ⟨hr, -⟩ := h.ret_inv
  cases hr
  rfl

/-! ## What is printed -/

/-- The second state has printed more than the first, and no verdict. -/
def PrintsOn (h h' : Harness) : Prop := ∃ lines, (∀ l ∈ lines, Line.isVerdict l = false) ∧ h'.printed = h.printed ++ lines

/-- Nothing was printed between a harness and itself. -/
theorem PrintsOn.refl (h : Harness) : PrintsOn h h := ⟨[], (fun _ hl => nomatch hl), (List.append_nil _).symm⟩

/-- Lines without a verdict that are printed one after the other have no verdict among them. -/
theorem PrintsOn.trans {h₁ h₂ h₃ : Harness} (h : PrintsOn h₁ h₂) (h' : PrintsOn h₂ h₃) : PrintsOn h₁ h₃ := by
  obtain ⟨ls, h1, h2⟩ := h
  obtain ⟨ls', h1', h2'⟩ := h'
  refine ⟨ls ++ ls', ?_, by rw [h2', h2, List.append_assoc]⟩
  intro l hl
  rcases List.mem_append.1 hl with hl | hl
  · exact h1 l hl
  · exact h1' l hl

/-- Printing a line that is no verdict prints no verdict. -/
theorem printsOn_print {h : Harness} {l : Line} (hl : l.isVerdict = false) : PrintsOn h (h.print l) := by
  refine ⟨[l], ?_, rfl⟩
  intro l' hl'
  obtain rfl := List.mem_singleton.1 hl'
  exact hl

/-- `TEST_START` prints the name of the test at most, which is no verdict. -/
theorem printsOn_start (logLevel : Int) (name : String) (h : Harness) : PrintsOn h (Harness.testStart logLevel name h).1 := by
  unfold Harness.testStart
  dsimp only
  split
  · exact printsOn_print rfl
  · exact PrintsOn.refl h

/-- `TEST_ASSERT` prints its own line at most, which is no verdict of a test. -/
theorem printsOn_assert (logLevel : Int) (r : Harness × Bool) (a : String × Bool) :
    PrintsOn r.1 (Harness.testAssert logLevel r a).1 := by
  obtain ⟨test, cond⟩ := a
  unfold Harness.testAssert
  dsimp only
  split
  · refine ⟨[.asserted test cond], ?_, ?_⟩
    · intro l hl
      obtain rfl := List.mem_singleton.1 hl
      rfl
    · cases cond <;> rfl
  · exact PrintsOn.refl r.1

/-- The assertions of a test print no verdict, by induction over them. -/
theorem printsOn_asserts (logLevel : Int) (as : List (String × Bool)) (r : Harness × Bool) :
    PrintsOn r.1 (as.foldl (Harness.testAssert logLevel) r).1 := by
  induction as generalizing r with
  | nil => exact PrintsOn.refl r.1
  | cons a as ih => exact (printsOn_assert logLevel r a).trans (ih _)

/-- What a call prints where tests print: its verdict last, and no other. -/
theorem printed_call (h : Harness) (t : TestFunc) (hends : t.ends = true) (hlow : logLevel ≥ logInfo)
    (hhigh : logLevel < logVerbose) : ∃ lines, (∀ l ∈ lines, Line.isVerdict l = false) ∧
      (Harness.call logLevel h t).1.printed = h.printed ++ lines ++ [.verdict (t.asserts.all Prod.snd)] := by
  have hstatus := call_status logLevel h t
  rw [Harness.call, if_pos hends, if_pos hends, Harness.testEnd] at hstatus
  obtain ⟨lines, hlines, hprinted⟩ := (printsOn_start logLevel t.name h).trans (printsOn_asserts logLevel t.asserts _)
  refine ⟨lines, hlines, ?_⟩
  rw [Harness.call, if_pos hends, Harness.testEnd, if_pos ⟨hlow, hhigh⟩, Harness.print, hprinted, Option.some.inj hstatus]

end VerdictAux

end RvIommuTests
