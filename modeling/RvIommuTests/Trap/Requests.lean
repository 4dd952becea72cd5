import RvIommuTests.Trap.Priv

/-!
# Requests for any number

`goto_priv` takes an `int`, and a handler passes it whatever `ecall_args[1]` holds. A request is one or the other, for any number
at all, and a request for a number that is no mode is meant to change nothing.
-/

namespace RvIommuTests

open Riscv

/-- `target_priv >= PRIV_MAX`, where `target_priv` is an `int`. -/
def NoMode (targetPriv : Word32) : Prop := privMax.sle targetPriv = true

instance : DecidablePred NoMode := fun targetPriv => inferInstanceAs (Decidable (privMax.sle targetPriv = true))

/-- A request to go to a mode. -/
inductive Request where
  /-- A call of `goto_priv`. -/
  | call (targetPriv : Word32)
  /-- `ecall(ECALL_GOTO_PRIV, a1)` -/
  | args (a1 : Word)

namespace Request

/-- The argument that `goto_priv` gets. -/
def target : Request → Word32
  | call targetPriv => targetPriv
  | args a1 => a1.setWidth 32

/-- The request is a call of `goto_priv`, and no handler carries it. -/
def direct : Request → Prop
  | call _ => True
  | args _ => False

/-- A request is made. -/
def run (img : Image) (fuel : Nat) : Request → Exec Unit
  | call targetPriv => gotoPriv img fuel targetPriv
  | args a1 => do
    let _ ← ecall img (gotoPriv img fuel) ecallGotoPriv a1

/-- The request returns, given enough nested activations, and `s'` is the state then. -/
def Returns (img : Image) (r : Request) (s s' : Sys) : Prop := ∃ N, ∀ n, N ≤ n → r.run img n s = .ok ((), s')

end Request

/-- Calls of `goto_priv` with any numbers, one after the other. -/
def callAll (img : Image) (fuel : Nat) : List Word32 → Exec Unit
  | [] => pure ()
  | p :: ps => do
    gotoPriv img fuel p
    callAll img fuel ps

/-- `reset_state`, and calls of `goto_priv` with any numbers. -/
def callSession (img : Image) (fuel : Nat) (ps : List Word32) : Exec Unit := do
  resetState img fuel
  callAll img fuel ps

/-- The mode of the hart, `curr_priv` and `real_priv` are as they were. -/
structure SamePriv (s s' : Sys) : Prop where
  mode : s'.hart.mode = s.hart.mode
  curr : s'.currPriv = s.currPriv
  real : s'.realPriv = s.realPriv

/-- The request changes nothing: it returns with the modes as they were, and every call that follows it runs as if it had not
been made. -/
def ChangesNothing (img : Image) (r : Request) (s : Sys) : Prop :=
  ∃ s', r.Returns img s s' ∧ SamePriv s s' ∧ ∀ (t : Mode) n, gotoPriv img n (priv t) s' = gotoPriv img n (priv t) s

end RvIommuTests
