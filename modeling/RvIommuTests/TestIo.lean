import RvIommuTests.DeviceContext
import RvIommuTests.Harness
import RvIommuTests.Idma
import RvIommuTests.Queues
import RvIommuTests.Trap.Priv

/-!
# What a test function does

The accesses that the functions of `rv_iommu_tests.c` are made of: those to the devices and to memory (`DevIo`), with them the
assertions and the errors of a test body (`BodyIo`), and with these what opens and closes a test function (`TestIo`). `testWorld`
runs a function on any devices at all, with the harness and the hart beside them.
-/

namespace RvIommuTests

open Bytes Shared Riscv

/-! ## The devices -/

/-- The 32-bit registers of the IOMMU beside those of the queues. -/
inductive Ctl32 where
  | fctl | ipsr | iocntovf | iocntinh
  /-- `msi_cfg_tbl[i].vctl` -/
  | msiCfgTblVctl (i : Nat)
  deriving DecidableEq

/-- The 64-bit registers of the IOMMU beside those of the queues. -/
inductive Ctl64 where
  | ddtp | iohpmcycles
  | iohpmctr (i : Nat)
  | iohpmevt (i : Nat)
  | trReqIova | trReqCtl | trResponse
  deriving DecidableEq

/-- A single access of a test to the devices, to memory, or to what the C library and the compiler give it. -/
inductive DevIo where
  /-- An access to the registers of the queues, or a doubleword of memory. -/
  | queue (i : Access)
  /-- An access to the DMA device. -/
  | idma (i : IdmaIo)
  | getCtl32 (r : Ctl32)
  | setCtl32 (r : Ctl32) (v : Word32)
  | getCtl64 (r : Ctl64)
  | setCtl64 (r : Ctl64) (v : Word)
  /-- `read32` from memory. -/
  | load32 (a : Addr)
  /-- `write32` to memory. -/
  | store32 (a : Addr) (v : Word32)
  /-- One of the setters of the device contexts. -/
  | setDc (setter : DcSetter)
  /-- `s1pt_switch` -/
  | s1ptSwitch
  /-- `s2pt_switch` -/
  | s2ptSwitch
  /-- `CSRR(CSR_CYCLES)` -/
  | cycles
  /-- `srand` -/
  | srand (seed : Word)
  /-- `rand` -/
  | rand
  /-- What the stack holds where a local array is placed. -/
  | stack
  /-- `printf` of one number. -/
  | printf (text : String) (v : Word)

/-- What an access answers. -/
@[reducible] def DevIo.Answer : DevIo → Type
  | .queue i => i.Answer
  | .idma i => i.Answer
  | .getCtl32 _ => Word32
  | .getCtl64 _ => Word
  | .load32 _ => Word32
  | .cycles => Word
  | .rand => Nat
  | .stack => Record
  | _ => Unit

/-! ## A test body -/

/-- An access of a test body. -/
inductive BodyIo where
  | dev (i : DevIo)
  /-- `TEST_ASSERT` -/
  | assert (test : String) (cond : Bool)
  /-- `ERROR`. It is never answered. -/
  | error (msg : String)

/-- What an access answers. -/
@[reducible] def BodyIo.Answer : BodyIo → Type
  | .dev i => i.Answer
  | .assert _ _ => Unit
  | .error _ => Empty

/-- A piece of a test body. -/
abbrev Body (α : Type) : Type := Prog BodyIo BodyIo.Answer α

namespace Body

/-- One access to the devices. -/
def dev (i : DevIo) : Body i.Answer := .call (BodyIo.dev i)

/-- A function of the driver of the queues. -/
def queue {α : Type} (p : Driver α) : Body α := p.embed (fun i => BodyIo.dev (.queue i)) (fun _ r => r)

/-- A function of the driver of the DMA device. -/
def idma {α : Type} (p : IdmaDriver α) : Body α := p.embed (fun i => BodyIo.dev (.idma i)) (fun _ r => r)

/-- `TEST_ASSERT` -/
def testAssert (test : String) (cond : Bool) : Body Unit := .call (BodyIo.assert test cond)

/-- `ERROR` -/
def error (msg : String) : Body Unit := .act (BodyIo.error msg) fun e => nomatch e

/-- `p && q` -/
def and (p q : Body Bool) : Body Bool := do
  if ← p then q else return false

end Body

/-! ## A test function -/

/-- An access of a test function. -/
inductive TestIo where
  | body (i : BodyIo)
  /-- `TEST_START` -/
  | start (name : String)
  /-- The line of `TEST_END`, and `test_status`. -/
  | verdict
  /-- `goto_priv` -/
  | gotoPriv (t : Mode)
  /-- `reset_state` -/
  | resetState

/-- What an access answers. -/
@[reducible] def TestIo.Answer : TestIo → Type
  | .body i => i.Answer
  | .verdict => Bool
  | _ => Unit

/-- A test function. One that ends without `return` returns no value. -/
abbrev TestFn : Type := Prog TestIo TestIo.Answer (Option Bool)

namespace TestFn

/-- `TEST_START` -/
def testStart (name : String) : Prog TestIo TestIo.Answer Unit := .call (TestIo.start name)

/-- The code of a test between `TEST_START` and `TEST_END`. -/
def body (p : Body Unit) : Prog TestIo TestIo.Answer Unit := p.embed TestIo.body (fun _ r => r)

/-- `TEST_END` -/
def testEnd : TestFn := do
  let testStatus ← .call TestIo.verdict
  .call (TestIo.gotoPriv .m)
  .call TestIo.resetState
  return some testStatus

end TestFn

/-! ## Running a test function -/

/-- The devices, the harness with the status of the current test, and the hart with the globals of `rvh_test.c`. What the test has
asserted is recorded beside them, and read by no access. -/
structure Bench (δ : Type) where
  dev : δ
  harness : Harness
  /-- `test_status` -/
  status : Bool
  sys : Sys
  /-- The assertions of the current test, in their order. -/
  asserted : List (String × Bool)

namespace Bench

variable {δ : Type}

/-- After `TEST_START`. -/
def start (logLevel : Int) (name : String) (b : Bench δ) : Bench δ :=
  let r := Harness.testStart logLevel name b.harness
  { b with harness := r.1, status := r.2, asserted := [] }

/-- After `TEST_ASSERT`. -/
def assert (logLevel : Int) (test : String) (cond : Bool) (b : Bench δ) : Bench δ :=
  let r := Harness.testAssert logLevel (b.harness, b.status) (test, cond)
  { b with harness := r.1, status := r.2, asserted := b.asserted ++ [(test, cond)] }

/-- After the line of `TEST_END`. -/
def verdict (logLevel : Int) (b : Bench δ) : Bench δ :=
  { b with harness := (Harness.testEnd logLevel (b.harness, b.status)).1 }

end Bench

/-- A test function on the devices `D`. -/
def testWorld {δ : Type} (logLevel : Int) (img : Image) (D : World DevIo DevIo.Answer δ) :
    World TestIo TestIo.Answer (Bench δ) where
  sem
    | .body (.dev i), b, r, b' => ∃ d, D.sem i b.dev r d ∧ b' = { b with dev := d }
    | .body (.assert test cond), b, _, b' => b' = b.assert logLevel test cond
    | .body (.error _), _, _, _ => False
    | .start name, b, _, b' => b' = b.start logLevel name
    | .verdict, b, r, b' => r = b.status ∧ b' = b.verdict logLevel
    | .gotoPriv t, b, _, b' => ∃ fuel sys, gotoPriv img fuel (priv t) b.sys = .ok ((), sys) ∧ b' = { b with sys := sys }
    | .resetState, b, _, b' => ∃ fuel sys, resetState img fuel b.sys = .ok ((), sys) ∧ b' = { b with sys := sys }
  env b b' := ∃ d, D.env b.dev d ∧ b' = { b with dev := d }

/-- The run of a test function when the devices answer by `step`. -/
def testStep {δ : Type} (logLevel : Int) (img : Image) (step : (i : DevIo) → δ → Option (i.Answer × δ)) :
    (i : TestIo) → Bench δ → Option (i.Answer × Bench δ)
  | .body (.dev i), b => (step i b.dev).map fun x => (x.1, { b with dev := x.2 })
  | .body (.assert test cond), b => some ((), b.assert logLevel test cond)
  | .body (.error _), _ => none
  | .start name, b => some ((), b.start logLevel name)
  | .verdict, b => some (b.status, b.verdict logLevel)
  | .gotoPriv t, b => (gotoPriv img 5 (priv t) b.sys).toOption.map fun x => ((), { b with sys := x.2 })
  | .resetState, b => (resetState img 5 b.sys).toOption.map fun x => ((), { b with sys := x.2 })

end RvIommuTests
