import RvIommuTests.Platform

/-!
# The test harness

The macros of `rvh_test.h` that run a test and count what it asserts, and `main`. A test is what the harness sees of it: the
conditions it asserts, in their order. What is printed is kept line by line, without its layout and colors.
-/

namespace RvIommuTests

/-! ## Log levels -/

/-- `LOG_INFO` -/
def logInfo : Int := 2
/-- `LOG_DETAIL` -/
def logDetail : Int := 3
/-- `LOG_VERBOSE` -/
def logVerbose : Int := 5

/-! ## Tests and what they print -/

/-- A line of the output. `%d` prints a number as a signed one. -/
inductive Line where
  /-- What `INFO` prints. -/
  | info (text : String)
  /-- The name of a test. -/
  | testName (name : String)
  /-- The text of an assertion, and `PASSED` or `FAILED`. -/
  | asserted (test : String) (passed : Bool)
  /-- `PASSED` or `FAILED`, at the end of a test. -/
  | verdict (passed : Bool)
  /-- `Summary: passed %d of %d` -/
  | summaryPassed (succ total : Int)
  /-- `Summary: failed %d of %d` -/
  | summaryFailed (failed total : Int)
  /-- `You can close the test!` -/
  | close
  deriving DecidableEq

/-- A test function, from its name to what it asserts. A body without `TEST_END` returns no value. -/
structure TestFunc where
  name : String
  asserts : List (String × Bool)
  ends : Bool

/-- The counters of the harness, and what was printed so far. -/
structure Harness where
  /-- `num_total_tests` -/
  numTotalTests : Word32
  /-- `num_succ_tests` -/
  numSuccTests : Word32
  printed : List Line

namespace Harness

/-- The boot code clears the counters. -/
def boot : Harness := ⟨0#32, 0#32, []⟩

/-- One more line. -/
def print (h : Harness) (l : Line) : Harness := { h with printed := h.printed ++ [l] }

/-- `INFO` -/
def info (logLevel : Int) (text : String) (h : Harness) : Harness :=
  if logLevel ≥ logInfo then h.print (.info text) else h

/-- `TEST_START`. The second component is `test_status`. -/
def testStart (logLevel : Int) (name : String) (h : Harness) : Harness × Bool :=
  (if logLevel ≥ logInfo then h.print (.testName name) else h, true)

/-- `TEST_ASSERT`. The counters are under the same guard as the output. -/
def testAssert (logLevel : Int) : Harness × Bool → String × Bool → Harness × Bool
  | (h, testStatus), (test, cond) =>
    let h :=
      if logLevel ≥ logDetail then
        let h := { h with numTotalTests := h.numTotalTests + 1#32 }
        let h := if cond then { h with numSuccTests := h.numSuccTests + 1#32 } else h
        h.print (.asserted test cond)
      else h
    (h, testStatus && cond)

/-- `TEST_END` -/
def testEnd (logLevel : Int) : Harness × Bool → Harness × Option Bool
  | (h, testStatus) =>
    (if logLevel ≥ logInfo ∧ logLevel < logVerbose then h.print (.verdict testStatus) else h, some testStatus)

/-- A call of a test function. -/
def call (logLevel : Int) (h : Harness) (t : TestFunc) : Harness × Option Bool :=
  let r := t.asserts.foldl (testAssert logLevel) (testStart logLevel t.name h)
  if t.ends then testEnd logLevel r else (r.1, none)

/-- `END` -/
def finish (h : Harness) : Harness :=
  let h :=
    if h.numSuccTests = h.numTotalTests then h.print (.summaryPassed h.numSuccTests.toInt h.numTotalTests.toInt)
    else h.print (.summaryFailed (h.numTotalTests - h.numSuccTests).toInt h.numTotalTests.toInt)
  h.print .close

/-- The loop of `main` over the registered tests. It does not look at what a test returns. -/
def runTests (logLevel : Int) (ts : List TestFunc) (h : Harness) : Harness :=
  ts.foldl (fun h t => (call logLevel h t).1) h

/-- `main` -/
def main (logLevel : Int) (testTable : List TestFunc) : Harness :=
  (runTests logLevel testTable (info logLevel "RISC-V Input/Output Memory Management Unit Tests" boot)).finish

end Harness

/-! ## What the summary stands for -/

/-- The line is one of the two that `END` prints. -/
def Line.isSummary : Line → Bool
  | .summaryPassed _ _ | .summaryFailed _ _ => true
  | _ => false

/-- The summaries that were printed. -/
def Harness.summary (h : Harness) : List Line := h.printed.filter Line.isSummary

/-- The outcomes of the assertions of some tests, in their order. -/
def outcomes (ts : List TestFunc) : List Bool := ts.flatMap fun t => t.asserts.map Prod.snd

/-- The summary says what the assertions came to: it is `passed n of n` exactly when all of them were true, and `failed k of n`
when there were false ones. -/
structure Harness.SummarySound (logLevel : Int) (ts : List TestFunc) : Prop where
  passed : (main logLevel ts).summary = [.summaryPassed (outcomes ts).length (outcomes ts).length] ↔
    ∀ b ∈ outcomes ts, b = true
  failed : (∃ b ∈ outcomes ts, b = false) →
    (main logLevel ts).summary = [.summaryFailed ((outcomes ts).count false) (outcomes ts).length]

end RvIommuTests
