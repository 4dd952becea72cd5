import Mathlib.Data.Bool.Count
import RvIommuTests.Harness

/-!
# The summary of a run

`TEST_ASSERT` counts an assertion only where it prints it, from `LOG_DETAIL` on, while `END` compares the counters at every log
level. The status of each single test is right at every level.
-/

namespace RvIommuTests

namespace HarnessAux

open Harness

/-- How often assertions with these outcomes are counted. -/
def counted (logLevel : Int) (bs : List Bool) : List Bool := if logLevel ≥ logDetail then bs else []

/-- At `LOG_DETAIL` and above all assertions are counted. -/
theorem counted_of_detail {logLevel : Int} (h : logLevel ≥ logDetail) (bs : List Bool) : counted logLevel bs = bs := if_pos h

/-- Below `LOG_DETAIL` no assertion is counted, as the counters are inside of the branch that prints. -/
theorem counted_of_not_detail {logLevel : Int} (h : ¬ logLevel ≥ logDetail) (bs : List Bool) : counted logLevel bs = [] :=
  if_neg h

/-- What is counted of assertions made one after the other is what is counted of the parts. -/
theorem counted_append (logLevel : Int) (bs bs' : List Bool) :
    counted logLevel (bs ++ bs') = counted logLevel bs ++ counted logLevel bs' := by
  unfold counted
  split <;> rfl

/-- A state of the harness after assertions with the outcomes `bs`, before `END`. -/
structure Counts (logLevel : Int) (bs : List Bool) (h : Harness) : Prop where
  total : h.numTotalTests = BitVec.ofNat 32 (counted logLevel bs).length
  succ : h.numSuccTests = BitVec.ofNat 32 ((counted logLevel bs).count true)
  quiet : h.summary = []

/-- Printing a line that is not a summary. -/
theorem Counts.print {logLevel : Int} {bs : List Bool} {h : Harness} (hc : Counts logLevel bs h) {l : Line}
    (hl : l.isSummary = false) : Counts logLevel bs (h.print l) := by
  refine ⟨hc.total, hc.succ, ?_⟩
  unfold Harness.print Harness.summary
  rw [List.filter_append, List.filter_cons_of_neg (by simp [hl])]
  exact (List.append_nil _).trans hc.quiet

/-- At the start nothing has been counted, and no summary has been printed. -/
theorem counts_boot (logLevel : Int) : Counts logLevel [] boot := by
  have h : counted logLevel [] = [] := by
    unfold counted
    split <;> rfl
  refine ⟨?_, ?_, rfl⟩ <;> rw [h] <;> rfl

/-- A line that `INFO` prints counts nothing, and is no summary. -/
theorem Counts.info {logLevel : Int} {bs : List Bool} {h : Harness} (hc : Counts logLevel bs h) (text : String) :
    Counts logLevel bs (Harness.info logLevel text h) := by
  unfold Harness.info
  split
  · exact hc.print rfl
  · exact hc

/-- The line that `TEST_START` prints counts nothing, and is no summary. -/
theorem Counts.testStart {logLevel : Int} {bs : List Bool} {h : Harness} (hc : Counts logLevel bs h) (name : String) :
    Counts logLevel bs (Harness.testStart logLevel name h).1 := by
  unfold Harness.testStart
  dsimp only
  split
  · exact hc.print rfl
  · exact hc

/-- The line that `TEST_END` prints counts nothing, and is no summary. -/
theorem Counts.testEnd {logLevel : Int} {bs : List Bool} {r : Harness × Bool} (hc : Counts logLevel bs r.1) :
    Counts logLevel bs (Harness.testEnd logLevel r).1 := by
  unfold Harness.testEnd
  dsimp only
  split
  · exact hc.print rfl
  · exact hc

/-- One assertion: it is counted, with its outcome, from `LOG_DETAIL` on. -/
theorem Counts.testAssert {logLevel : Int} {bs : List Bool} {r : Harness × Bool} (hc : Counts logLevel bs r.1)
    (a : String × Bool) : Counts logLevel (bs ++ [a.2]) (Harness.testAssert logLevel r a).1 := by
  obtain ⟨test, cond⟩ := a
  unfold Harness.testAssert
  dsimp only
  by_cases hd : logLevel ≥ logDetail
  · rw [if_pos hd]
    have hc' : counted logLevel (bs ++ [cond]) = counted logLevel bs ++ [cond] := by
      rw [counted_append, counted_of_detail hd [cond]]
    refine Counts.print ⟨?_, ?_, ?_⟩ rfl
    · have htotal : r.1.numTotalTests + 1#32 = BitVec.ofNat 32 (counted logLevel (bs ++ [cond])).length := by
        rw [hc.total, hc', List.length_append, BitVec.ofNat_add]
        rfl
      cases cond <;> exact htotal
    · cases cond with
      | false =>
        rw [hc', List.count_append]
        exact hc.succ
      | true =>
        rw [hc', List.count_append, BitVec.ofNat_add, ← hc.succ]
        rfl
    · cases cond <;> exact hc.quiet
  · rw [if_neg hd]
    have hc' : counted logLevel (bs ++ [cond]) = counted logLevel bs := by
      rw [counted_of_not_detail hd, counted_of_not_detail hd]
    exact ⟨by rw [hc']; exact hc.total, by rw [hc']; exact hc.succ, hc.quiet⟩

/-- The assertions of a test are counted with their outcomes, by induction over them. -/
theorem Counts.asserts {logLevel : Int} (as : List (String × Bool)) {bs : List Bool} {r : Harness × Bool}
    (hc : Counts logLevel bs r.1) :
    Counts logLevel (bs ++ as.map Prod.snd) (as.foldl (Harness.testAssert logLevel) r).1 := by
  induction as generalizing bs r with
  | nil => exact (List.append_nil bs).symm ▸ hc
  | cons a as ih =>
    have h := ih (hc.testAssert a)
    rw [List.append_assoc] at h
    exact h

/-- A whole test counts the outcomes of its assertions, and nothing else. -/
theorem Counts.call {logLevel : Int} {bs : List Bool} {h : Harness} (hc : Counts logLevel bs h) (t : TestFunc) :
    Counts logLevel (bs ++ t.asserts.map Prod.snd) (Harness.call logLevel h t).1 := by
  have hasserts := Counts.asserts t.asserts (hc.testStart t.name)
  unfold Harness.call
  dsimp only
  split
  · exact hasserts.testEnd
  · exact hasserts

/-- All tests count the outcomes of their assertions in order, by induction over the tests. -/
theorem Counts.runTests {logLevel : Int} (ts : List TestFunc) {bs : List Bool} {h : Harness} (hc : Counts logLevel bs h) :
    Counts logLevel (bs ++ outcomes ts) (Harness.runTests logLevel ts h) := by
  induction ts generalizing bs h with
  | nil => exact (List.append_nil bs).symm ▸ hc
  | cons t ts ih =>
    have h := ih (hc.call t)
    rw [List.append_assoc] at h
    exact h

/-- `END` prints one summary, which it computes from the counters as they are then. -/
theorem summary_finish {h : Harness} (hq : h.summary = []) :
    h.finish.summary =
      [if h.numSuccTests = h.numTotalTests then .summaryPassed h.numSuccTests.toInt h.numTotalTests.toInt
        else .summaryFailed (h.numTotalTests - h.numSuccTests).toInt h.numTotalTests.toInt] := by
  unfold Harness.finish Harness.print
  unfold Harness.summary at hq ⊢
  dsimp only
  split <;> rw [List.append_assoc, List.filter_append, hq] <;> rfl

/-- When `main` comes to `END` it has counted the outcomes of all tests, and the summary is that of `END`. -/
theorem counts_main (logLevel : Int) (ts : List TestFunc) :
    ∃ h : Harness, Counts logLevel (outcomes ts) h ∧ (main logLevel ts).summary = h.finish.summary :=
  ⟨_, Counts.runTests ts ((counts_boot logLevel).info _), rfl⟩

/-- A count that is printed as it is: it does not reach the sign bit. -/
theorem toInt_count {n : Nat} (h : n < 2 ^ 31) : (BitVec.ofNat 32 n).toInt = n := by
  have hn : (BitVec.ofNat 32 n).toNat = n := by
    rw [BitVec.toNat_ofNat]
    omega
  rw [BitVec.toInt_eq_toNat_of_lt (by omega), hn]

/-- Two counts are equal as words when they are equal. -/
theorem count_inj {m n : Nat} (hm : m < 2 ^ 31) (hn : n < 2 ^ 31) (h : BitVec.ofNat 32 m = BitVec.ofNat 32 n) : m = n := by
  have h' := congrArg BitVec.toInt h
  rw [toInt_count hm, toInt_count hn] at h'
  exact Int.ofNat_inj.1 h'

/-- The summary of counters that hold the outcomes: `passed` when all are true, `failed` when one is not. -/
theorem summary_of_counts {bs : List Bool} (hlen : bs.length < 2 ^ 31) {h : Harness}
    (htotal : h.numTotalTests = BitVec.ofNat 32 bs.length) (hsucc : h.numSuccTests = BitVec.ofNat 32 (bs.count true))
    (hq : h.summary = []) :
    h.finish.summary =
      [if ∀ b ∈ bs, b = true then .summaryPassed bs.length bs.length
        else .summaryFailed (bs.count false) bs.length] := by
  have hle : bs.count true ≤ bs.length := List.count_le_length
  have hsum : bs.count true + bs.count false = bs.length := List.count_true_add_count_false bs
  have hall : (bs.count true = bs.length) ↔ ∀ b ∈ bs, b = true := by
    rw [List.count_eq_length]
    exact forall₂_congr fun b _ => eq_comm
  rw [summary_finish hq, htotal, hsucc]
  by_cases h1 : bs.count true = bs.length
  · rw [if_pos (congrArg _ h1), if_pos (hall.1 h1), h1, toInt_count hlen]
  · have h2 : ¬ BitVec.ofNat 32 (bs.count true) = BitVec.ofNat 32 bs.length := fun h => h1 (count_inj (by omega) hlen h)
    have h3 : BitVec.ofNat 32 bs.length - BitVec.ofNat 32 (bs.count true) = BitVec.ofNat 32 (bs.count false) := by
      rw [← hsum, BitVec.ofNat_add, BitVec.add_comm, BitVec.add_sub_cancel]
    rw [if_neg h2, if_neg (fun h => h1 (hall.2 h)), h3, toInt_count hlen, toInt_count (by omega)]

/-- A sound summary gives the number of assertions, so this number was counted and fits `%d`. -/
theorem total_of_sound {logLevel : Int} {ts : List TestFunc} (hs : SummarySound logLevel ts) {h : Harness}
    (hq : h.summary = []) (hmain : (main logLevel ts).summary = h.finish.summary) :
    h.numTotalTests.toInt = (outcomes ts).length := by
  rw [summary_finish hq] at hmain
  by_cases hall : ∀ b ∈ outcomes ts, b = true
  · have h1 := hmain.symm.trans (hs.passed.2 hall)
    split at h1 <;> simp_all
  · have hfalse : ∃ b ∈ outcomes ts, b = false := by simpa using hall
    have h1 := hmain.symm.trans (hs.failed hfalse)
    split at h1 <;> simp_all

end HarnessAux

open Harness HarnessAux

/-- Whatever tests are registered and whatever their assertions come to, the summary is sound exactly when no assertion was
evaluated, or the log level is `LOG_DETAIL` or above and the number of assertions fits `%d`. -/
theorem summary_sound_iff (logLevel : Int) (ts : List TestFunc) :
    SummarySound logLevel ts ↔ outcomes ts = [] ∨ logLevel ≥ logDetail ∧ (outcomes ts).length < 2 ^ 31 := by
  obtain ⟨h, hc, hmain⟩ := counts_main logLevel ts
  constructor
  · intro hs
    have htotal := total_of_sound hs hc.quiet hmain
    rw [hc.total] at htotal
    by_cases hd : logLevel ≥ logDetail
    · have hlt := BitVec.two_mul_toInt_lt (x := BitVec.ofNat 32 (counted logLevel (outcomes ts)).length)
      exact Or.inr ⟨hd, by omega⟩
    · rw [counted_of_not_detail hd] at htotal
      exact Or.inl (List.length_eq_zero_iff.1 (Int.ofNat_eq_zero.1 htotal.symm))
  · intro hcond
    have hcounted : counted logLevel (outcomes ts) = outcomes ts ∧ (outcomes ts).length < 2 ^ 31 := by
      rcases hcond with hnil | ⟨hd, hlen⟩
      · rw [hnil]
        exact ⟨by unfold counted; split <;> rfl, by decide⟩
      · exact ⟨counted_of_detail hd _, hlen⟩
    obtain ⟨heq, hlen⟩ := hcounted
    have hsum := summary_of_counts hlen (heq ▸ hc.total) (heq ▸ hc.succ) hc.quiet
    rw [← hmain] at hsum
    constructor
    · rw [hsum]
      split <;> simp_all
    · rintro ⟨b, hb, rfl⟩
      rw [hsum, if_neg fun hall => Bool.false_ne_true (hall false hb)]

/-- At `LOG_INFO`, which the Makefile sets, a failed assertion is not counted: the summary is `passed 0 of 0`. -/
theorem summary_passes_failure_at_info :
    ¬ SummarySound logInfo [⟨"iofence", [("cqh was incremented", false)], true⟩] := by
  intro hs
  have h := hs.failed ⟨false, by decide, rfl⟩
  revert h
  decide

/-- The status of a single test is right at every log level. -/
theorem call_status (logLevel : Int) (h : Harness) (t : TestFunc) :
    (call logLevel h t).2 = if t.ends then some (t.asserts.all Prod.snd) else none := by
  have hstatus : ∀ (as : List (String × Bool)) (r : Harness × Bool),
      (as.foldl (testAssert logLevel) r).2 = (r.2 && as.all Prod.snd) := by
    intro as
    induction as with
    | nil => exact fun r => (Bool.and_true _).symm
    | cons a as ih => exact fun r => (ih _).trans (Bool.and_assoc _ _ _)
  unfold call testEnd
  dsimp only
  split
  · rw [hstatus]
    rfl
  · rfl

end RvIommuTests
