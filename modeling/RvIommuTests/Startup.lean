import RvIommuTests.AddressMap
import RvIommuTests.Lib.Loops

/-!
# From power-on to `_init`

The code of `boot.S` before it calls `_init`: all harts but the first one are parked, and the first one clears `.bss`, of which the
linker script gives it the bounds.
-/

namespace RvIommuTests

open Bytes Loops

/-- The registers `a0` and `a1` in the loop at the label `1`, and the memory. -/
structure Clearing where
  a0 : Addr
  a1 : Addr
  mem : Mem

/-- `sw zero, (a0)` and `addi a0, a0, 4`. A store to an address that is not aligned to its word has no result: no handler is
installed yet. -/
def Clearing.next (c : Clearing) : Option Clearing :=
  if c.a0.toNat % 4 = 0 then some ⟨c.a0 + 4#64, c.a1, store c.mem 4 c.a0 0#32⟩ else none

/-- `bltu a0, a1, 1b`, and the opposite of `bgeu a0, a1, 2f` before the loop. -/
def Clearing.left (c : Clearing) : Bool := c.a0.ult c.a1

/-- `_boot` up to the label `2`, for at most `fuel` rounds of each of its loops: the memory then. -/
def bootEntry (fuel : Nat) (hartId : Word) (bssStart bssEnd : Addr) (m : Mem) : Option Mem := do
  -- `bnez a0, .`
  let _ ← loop (fun a0 : Word => a0 != 0#64) some fuel hartId
  let c ← loop Clearing.left Clearing.next fuel ⟨bssStart, bssEnd, m⟩
  return c.mem

/-- The hart comes to the call of `_init`, with the memory `m'`. -/
def Boots (hartId : Word) (bssStart bssEnd : Addr) (m m' : Mem) : Prop :=
  ∃ n, ∀ fuel, n ≤ fuel → bootEntry fuel hartId bssStart bssEnd m = some m'

/-- The linker has put the page tables into `.bss`. -/
structure TablesInBss (link : Link) (bssStart bssEnd : Addr) : Prop where
  s1pt : bssStart.toNat ≤ link.s1pt.toNat ∧ link.s1pt.toNat + 6 * pageSize ≤ bssEnd.toNat
  root : bssStart.toNat ≤ link.s2ptRoot.toNat ∧ link.s2ptRoot.toNat + 4 * pageSize ≤ bssEnd.toNat
  s2pt : bssStart.toNat ≤ link.s2pt.toNat ∧ link.s2pt.toNat + 5 * pageSize ≤ bssEnd.toNat

end RvIommuTests
