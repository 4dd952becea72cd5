import RvIommuTests.Lib.Copies
import RvIommuTests.Lib.Fields
import RvIommuTests.Lib.Loops
import RvIommuTests.Platform

/-!
# `memcpy`

The `memcpy` of `retarget_qemu.c`. It has two loops, over words of eight bytes and over bytes, that differ in the type of their
pointers only.
-/

namespace RvIommuTests

open Bytes Loops

/-- `sizeof(uintptr_t)` -/
def sizeofUintptr : Nat := 8

/-- The pointers `d` and `s` of a loop, and the memory. -/
structure Copying where
  d : Addr
  s : Addr
  mem : Mem

/-- `*d++ = *s++`, for pointers to objects of `w` bytes. An access through a pointer that is not aligned to its object has no
result. -/
def Copying.next (w : Nat) (c : Copying) : Option Copying :=
  if c.d.toNat % w = 0 ∧ c.s.toNat % w = 0 then
    some ⟨c.d + BitVec.ofNat 64 w, c.s + BitVec.ofNat 64 w, store c.mem w c.d (load c.mem w c.s)⟩
  else none

/-- `while (d < dest + len) *d++ = *s++`, for pointers to objects of `w` bytes that start at `dest` and `src`. Pointers are compared
as unsigned numbers. -/
def copyLoop (w fuel : Nat) (dest src : Addr) (len : Word) (m : Mem) : Option Mem :=
  (loop (fun c : Copying => c.d.ult (dest + len)) (Copying.next w) fuel ⟨dest, src, m⟩).map Copying.mem

/-- The test that selects the loop over words. -/
def selectsWords (dest src : Addr) (len : Word) : Bool :=
  (dest ||| src ||| len) &&& BitVec.ofNat 64 (sizeofUintptr - 1) == 0#64

/-- `memcpy`: what it returns, and the memory then. -/
def memcpy (fuel : Nat) (dest src : Addr) (len : Word) (m : Mem) : Option (Addr × Mem) :=
  if selectsWords dest src len then do
    let m ← copyLoop sizeofUintptr fuel dest src len m
    return (dest, m)
  else do
    let m ← copyLoop 1 fuel dest src len m
    return (dest, m)

/-- What `memcpy` is to do with the memory: `m'` has from `dest` on the `len` bytes that `m` has from `src` on, and all other bytes
of `m`. -/
structure Copied (dest src : Addr) (len : Word) (m m' : Mem) : Prop where
  bytes : ∀ i < len.toNat, m' (dest + BitVec.ofNat 64 i) = m (src + BitVec.ofNat 64 i)
  others : ∀ x : Addr, x < dest ∨ dest + len ≤ x → m' x = m x

end RvIommuTests
