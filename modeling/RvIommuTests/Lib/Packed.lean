import Mathlib.Algebra.Order.Group.Nat
import Mathlib.Tactic.Common

/-!
# Packed aggregates

The types of C objects without padding: integers, arrays and structures, nested in any way. A member is named by its path, the
indices of members and elements from the outside to the inside. Its offset is computed as C computes addresses, also for an index
that is out of bounds. The integers of an object lie inside of it (`offset_add_le`) and have no byte in common (`disjoint`).
-/

namespace Packed

/-- The type of an object. A structure is its first member and the structure of the others. -/
inductive Ty where
  | int (bytes : Nat)
  | array (n : Nat) (elem : Ty)
  | empty
  | member (first rest : Ty)

namespace Ty

/-- The structure with given members. -/
def struct (members : List Ty) : Ty := members.foldr .member .empty

/-- The number of bytes of an object. -/
def size : Ty → Nat
  | .int bytes => bytes
  | .array n elem => n * elem.size
  | .empty => 0
  | .member first rest => first.size + rest.size

/-- Where the member at a path starts. -/
def offset : Ty → List Nat → Nat
  | .array _ elem, i :: path => i * elem.size + elem.offset path
  | .member first _, 0 :: path => first.offset path
  | .member first rest, (i + 1) :: path => first.size + rest.offset (i :: path)
  | _, _ => 0

/-- The number of bytes of the integer at a path, if there is one: no index is out of bounds. -/
def width : Ty → List Nat → Option Nat
  | .int bytes, [] => some bytes
  | .array n elem, i :: path => if i < n then elem.width path else none
  | .member first _, 0 :: path => first.width path
  | .member _ rest, (i + 1) :: path => rest.width (i :: path)
  | _, _ => none

theorem width_array {n i : Nat} {elem : Ty} {path : List Nat} {w : Nat} (h : (array n elem).width (i :: path) = some w) :
    i < n ∧ elem.width path = some w := by
  rw [width] at h
  split at h
  · exact ⟨‹_›, h⟩
  · cases h

/-- An integer lies inside of its object. -/
theorem offset_add_le (t : Ty) {path : List Nat} {w : Nat} (h : t.width path = some w) : t.offset path + w ≤ t.size := by
  induction t generalizing path with
  | int bytes =>
    cases path with
    | nil =>
      cases h
      exact Nat.le_of_eq (Nat.zero_add _)
    | cons i path => cases h
  | array n elem ih =>
    cases path with
    | nil => cases h
    | cons i path =>
      obtain ⟨hi, hw⟩ := width_array h
      have hle := ih hw
      calc i * elem.size + elem.offset path + w ≤ i * elem.size + elem.size := by omega
        _ = (i + 1) * elem.size := (Nat.succ_mul i elem.size).symm
        _ ≤ n * elem.size := Nat.mul_le_mul_right _ hi
  | empty => cases path <;> cases h
  | member first rest ihf ihr =>
    match path, h with
    | 0 :: path, h =>
      have hle := ihf (show first.width path = some w from h)
      simp only [offset, size]
      omega
    | (i + 1) :: path, h =>
      have hle := ihr (show rest.width (i :: path) = some w from h)
      simp only [offset, size]
      omega

/-- Elements of an array at different indices have no byte in common. -/
theorem disjoint_elements {elem : Ty} {i j : Nat} {p q : List Nat} {w v : Nat} (hij : i < j) (hp : elem.width p = some w) :
    i * elem.size + elem.offset p + w ≤ j * elem.size + elem.offset q ∨
      j * elem.size + elem.offset q + v ≤ i * elem.size + elem.offset p := by
  have hle := offset_add_le elem hp
  have hmul : (i + 1) * elem.size ≤ j * elem.size := Nat.mul_le_mul_right _ hij
  rw [Nat.succ_mul] at hmul
  left
  omega

/-- Two integers of an object have no byte in common. -/
theorem disjoint (t : Ty) {p q : List Nat} {w v : Nat} (hp : t.width p = some w) (hq : t.width q = some v) (hne : p ≠ q) :
    t.offset p + w ≤ t.offset q ∨ t.offset q + v ≤ t.offset p := by
  induction t generalizing p q with
  | int bytes =>
    cases p with
    | nil =>
      cases q with
      | nil => exact absurd rfl hne
      | cons j q => cases hq
    | cons i p => cases hp
  | array n elem ih =>
    cases p with
    | nil => cases hp
    | cons i p =>
      cases q with
      | nil => cases hq
      | cons j q =>
        have hp' := (width_array hp).2
        have hq' := (width_array hq).2
        simp only [offset]
        rcases Nat.lt_trichotomy i j with hij | rfl | hij
        · exact disjoint_elements hij hp'
        · have := ih hp' hq' fun he => hne (congrArg _ he)
          omega
        · exact (disjoint_elements hij hq').symm
  | empty => cases p <;> cases hp
  | member first rest ihf ihr =>
    match p, q, hp, hq, hne with
    | 0 :: p, 0 :: q, hp, hq, hne => exact ihf hp hq fun he => hne (congrArg _ he)
    | 0 :: p, (j + 1) :: q, hp, hq, hne =>
      have hle := offset_add_le first (show first.width p = some w from hp)
      simp only [offset]
      omega
    | (i + 1) :: p, 0 :: q, hp, hq, hne =>
      have hle := offset_add_le first (show first.width q = some v from hq)
      simp only [offset]
      omega
    | (i + 1) :: p, (j + 1) :: q, hp, hq, hne =>
      have hrest := ihr (show rest.width (i :: p) = some w from hp) (show rest.width (j :: q) = some v from hq) (by
        intro he
        cases he
        exact hne rfl)
      simp only [offset]
      omega

end Ty

end Packed
