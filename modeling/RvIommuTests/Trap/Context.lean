import RvIommuTests.Lib.Spill
import RvIommuTests.Platform

/-!
# Saving and restoring the context of a trap

The macros `SAVE_CONTEXT` and `RESTORE_CONTEXT` of `handlers.S` instruction by instruction, and the trap entries that run a C
handler between them.
-/

namespace RvIommuTests

open Bytes

/-- A register number. -/
abbrev RegId : Type := Fin 32

/-- The integer registers and the memory of a hart. -/
structure Cpu where
  reg : RegId → Word
  mem : Mem

/-- `sp`, `ra`, `t0` and `a0`. -/
def sp : RegId := 2
def ra : RegId := 1
def t0 : RegId := 5
def a0 : RegId := 10

namespace Cpu

/-- Writing a register. The register `x0` cannot be written. -/
def set (s : Cpu) (r : RegId) (v : Word) : Cpu :=
  { s with reg := fun q => if q = r ∧ r ≠ 0 then v else s.reg q }

/-- `sd r, off(sp)` -/
def sd (s : Cpu) (r : RegId) (off : Nat) : Cpu :=
  { s with mem := store s.mem 8 (s.reg sp + BitVec.ofNat 64 off) (s.reg r) }

/-- `ld r, off(sp)` -/
def ld (s : Cpu) (r : RegId) (off : Nat) : Cpu := s.set r (load s.mem 8 (s.reg sp + BitVec.ofNat 64 off))

end Cpu

/-- `REGLEN` -/
def regLen : Nat := 8

/-- The stores of `SAVE_CONTEXT`: register and slot. -/
def saveSlots : List (RegId × Nat) :=
  [(1, 0), (3, 2), (4, 3), (5, 4), (6, 5), (7, 6), (8, 7), (9, 8), (10, 9), (11, 10), (12, 11), (13, 12), (14, 13), (15, 14),
    (16, 15), (17, 16), (18, 17), (19, 18), (20, 19), (21, 20), (22, 21), (23, 22), (24, 23), (25, 24), (26, 25), (27, 26),
    (28, 27), (29, 28), (30, 29), (31, 29)]

/-- The loads of `RESTORE_CONTEXT`: register and slot. -/
def restoreSlots : List (RegId × Nat) :=
  [(1, 0), (3, 2), (4, 3), (5, 4), (6, 5), (7, 6), (8, 7), (9, 8), (10, 9), (11, 10), (12, 11), (13, 12), (14, 13), (15, 14),
    (16, 15), (17, 16), (18, 17), (19, 18), (20, 19), (21, 20), (22, 21), (23, 22), (24, 23), (25, 24), (26, 25), (27, 26),
    (28, 27), (29, 28), (30, 29), (31, 30)]

/-- Stores one after the other. -/
def storeAll (s : Cpu) : List (RegId × Nat) → Cpu
  | [] => s
  | (r, k) :: ps => storeAll (s.sd r (k * regLen)) ps

/-- Loads one after the other. -/
def loadAll (s : Cpu) : List (RegId × Nat) → Cpu
  | [] => s
  | (r, k) :: ps => loadAll (s.ld r (k * regLen)) ps

/-- `SAVE_CONTEXT` -/
def saveContext (s : Cpu) : Cpu := storeAll (s.set sp (s.reg sp - BitVec.ofNat 64 (regLen * 31))) saveSlots

/-- `RESTORE_CONTEXT` -/
def restoreContext (s : Cpu) : Cpu :=
  let s := loadAll s restoreSlots
  s.set sp (s.reg sp + BitVec.ofNat 64 (regLen * 31))

/-- The two ways out of a trap. -/
inductive TrapReturn where
  | mret
  | sret
  deriving DecidableEq

/-- `_return`: the answer of the C handler chooses the return instruction. Neither changes an integer register. -/
def trapReturn (s : Cpu) : TrapReturn × Cpu :=
  let s := s.set t0 4#64
  if s.reg a0 = s.reg t0 then (.mret, restoreContext s) else (.sret, restoreContext s)

/-- A trap entry: `SAVE_CONTEXT`, the call of the C handler, which leaves its return address in `ra`, and `_return`. -/
def trapEntry (handler : Cpu → Cpu) (returnAddr : Word) (s : Cpu) : TrapReturn × Cpu :=
  trapReturn (handler ((saveContext s).set ra returnAddr))

/-- `mhandler_entry` -/
def mhandlerEntry (mhandler : Cpu → Cpu) (returnAddr : Word) (s : Cpu) : TrapReturn × Cpu :=
  trapEntry mhandler returnAddr s

/-- `hshandler_entry` -/
def hshandlerEntry (hshandler : Cpu → Cpu) (returnAddr : Word) (s : Cpu) : TrapReturn × Cpu :=
  trapEntry hshandler returnAddr s

/-- `vshandler_entry` -/
def vshandlerEntry (vshandler : Cpu → Cpu) (returnAddr : Word) (s : Cpu) : TrapReturn × Cpu :=
  trapEntry vshandler returnAddr s

/-- A handler body may clobber any register and any memory but the stack pointer and the frame of 31 words that starts there. -/
structure KeepsFrame (handler : Cpu → Cpu) : Prop where
  sp : ∀ s, (handler s).reg sp = s.reg sp
  frame : ∀ s, ∀ k < 31, load (handler s).mem 8 (s.reg RvIommuTests.sp + BitVec.ofNat 64 (k * regLen)) =
    load s.mem 8 (s.reg RvIommuTests.sp + BitVec.ofNat 64 (k * regLen))

end RvIommuTests
