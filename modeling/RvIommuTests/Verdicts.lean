import RvIommuTests.TestBodies

/-!
# What a test is to deliver

The end of a test function, as `TEST_END` has it.
-/

namespace RvIommuTests

open Shared Riscv

/-- The line is the last one of a test. -/
def Line.isVerdict : Line → Bool
  | .verdict _ => true
  | _ => false

/-- Between its call and its return, a test has delivered its verdict and cleaned up. -/
structure Delivers {δ : Type} (logLevel : Int) (img : Image) (b b' : Bench δ) (r : Option Bool) : Prop where
  /-- It returns whether all that it has asserted was true. -/
  value : r = some (b'.asserted.all Prod.snd)
  /-- Where tests print, the last line that it prints is its only verdict, and agrees with what it returns. -/
  verdict : logLevel ≥ logInfo → logLevel < logVerbose → ∃ lines, (∀ l ∈ lines, l.isVerdict = false) ∧
    b'.harness.printed = b.harness.printed ++ lines ++ [.verdict (b'.asserted.all Prod.snd)]
  /-- It has left through `goto_priv(PRIV_M)` and `reset_state`, and has not touched the hart before. -/
  left : ∃ fuel s, gotoPriv img fuel (priv .m) b.sys = .ok ((), s) ∧ ∃ fuel', resetState img fuel' s = .ok ((), b'.sys)

end RvIommuTests
