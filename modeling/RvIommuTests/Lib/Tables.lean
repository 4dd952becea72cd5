import Mathlib.Logic.Equiv.Basic
import RvIommuTests.Lib.Bytes

/-!
# Arrays of words in memory

Several arrays of 64-bit words in one byte-addressed memory, at bases a linker chose. A `Layout` says where they are and carries
that no two entries share a byte; over a layout the memory can be viewed as one function of array and index, in which a store
updates one point and a loop of stores a segment.
-/

namespace Tables

open Bytes

/-- The address of an entry. -/
def entryAddr (base : Addr) (i : Nat) : Addr := base + BitVec.ofNat 64 (8 * i)

/-- An entry of the array at `base`. -/
def get (m : Mem) (base : Addr) (i : Nat) : BitVec 64 := load m 8 (entryAddr base i)

/-- The memory after a store to an entry of the array at `base`. -/
def set (m : Mem) (base : Addr) (i : Nat) (v : BitVec 64) : Mem := store m 8 (entryAddr base i) v

/-- `for (; n != 0; n--, i++) { base[i] = entry(i, x); x += stride; }` -/
def fill (base : Addr) (entry : Nat → BitVec 64 → BitVec 64) (stride : BitVec 64) : Nat → Nat → BitVec 64 → Mem → Mem
  | 0, _, _, m => m
  | n + 1, i, x, m => fill base entry stride n (i + 1) (x + stride) (set m base i (entry i x))

/-- Arrays with their sizes, no two entries of which have a byte in common. -/
structure Layout (τ : Type) where
  base : τ → Addr
  size : τ → Nat
  apart : ∀ {t t' i i'}, i < size t → i' < size t' → ¬ (t' = t ∧ i' = i) →
    Apart (entryAddr (base t) i) 8 (entryAddr (base t') i') 8

/-- Arrays that do not wrap and that lie one before the other have no entries with a byte in common. -/
theorem apart_entries {b b' : Addr} {n n' i i' : Nat} (hi : i < n) (hi' : i' < n') (hb : b.toNat + 8 * n < 2 ^ 64)
    (hb' : b'.toNat + 8 * n' < 2 ^ 64) (h : b.toNat + 8 * n ≤ b'.toNat ∨ b'.toNat + 8 * n' ≤ b.toNat ∨ (b = b' ∧ i' ≠ i)) :
    Apart (entryAddr b i) 8 (entryAddr b' i') 8 := by
  have ha : (entryAddr b i).toNat = b.toNat + 8 * i := toNat_add_offset (by omega)
  have ha' : (entryAddr b' i').toNat = b'.toNat + 8 * i' := toNat_add_offset (by omega)
  apply apart_of_disjoint (by decide) (by decide)
  · rcases h with h | h | ⟨rfl, h⟩ <;> omega
  · omega
  · omega

namespace Layout

variable {τ : Type} [DecidableEq τ] (L : Layout τ)

/-- The arrays of a memory. -/
def view (m : Mem) (t : τ) (i : Nat) : BitVec 64 := get m (L.base t) i

variable {L}

/-- A store changes one entry. -/
theorem view_set {t t' : τ} {i j : Nat} (hi : i < L.size t) (hj : j < L.size t') (m : Mem) (v : BitVec 64) :
    L.view (set m (L.base t) i v) t' j = if t' = t ∧ j = i then v else L.view m t' j := by
  split
  · rename_i h
    obtain ⟨rfl, rfl⟩ := h
    exact load_store_same m (n := 8) (by decide) (entryAddr (L.base t') j) v
  · rename_i h
    exact load_store_apart m (n := 8) (k := 8) v (L.apart hi hj h)

/-- A loop of stores to the entries of a table changes a segment of that table, and nothing of the others. -/
theorem view_fill {t t' : τ} {j : Nat} (entry : Nat → BitVec 64 → BitVec 64) (stride : BitVec 64) (n i : Nat)
    (hn : i + n ≤ L.size t) (hj : j < L.size t') (x : BitVec 64) (m : Mem) :
    L.view (fill (L.base t) entry stride n i x m) t' j =
      if t' = t ∧ i ≤ j ∧ j < i + n then entry j (x + BitVec.ofNat 64 (j - i) * stride) else L.view m t' j := by
  induction n generalizing i x m with
  | zero =>
    rw [if_neg (fun h => by omega)]
    rfl
  | succ n ih =>
    rw [fill, ih (i + 1) (by omega), view_set (by omega) hj]
    by_cases ht : t' = t
    · by_cases hji : j = i
      · subst hji
        rw [if_neg (fun h => by omega), if_pos ⟨ht, rfl⟩, if_pos ⟨ht, by omega, by omega⟩, Nat.sub_self]
        simp
      · by_cases hle : i + 1 ≤ j ∧ j < i + 1 + n
        · have hx : x + stride + BitVec.ofNat 64 (j - (i + 1)) * stride = x + BitVec.ofNat 64 (j - i) * stride := by
            rw [show j - i = j - (i + 1) + 1 by omega, BitVec.ofNat_add, BitVec.add_mul, BitVec.one_mul, BitVec.add_assoc,
              BitVec.add_comm stride]
          rw [if_pos ⟨ht, hle⟩, if_pos ⟨ht, by omega, by omega⟩, hx]
        · rw [if_neg (fun h => hle h.2), if_neg (fun h => hji h.2), if_neg (fun h => by omega)]
    · simp [ht]

/-- Two stores that exchange two entries of an array permute it. -/
theorem view_swap {t t' : τ} {i i' j : Nat} (hi : i < L.size t) (hi' : i' < L.size t) (hj : j < L.size t') (m : Mem) :
    L.view (set (set m (L.base t) i (get m (L.base t) i')) (L.base t) i' (get m (L.base t) i)) t' j =
      L.view m t' (if t' = t then Equiv.swap i i' j else j) := by
  rw [view_set hi' hj, view_set hi hj]
  by_cases ht : t' = t
  · subst ht
    rw [if_pos rfl, Equiv.swap_apply_def]
    by_cases h : j = i
    · by_cases h' : j = i'
      · rw [if_pos ⟨rfl, h'⟩, if_pos h, ← h', h]
        rfl
      · rw [if_neg (fun hh => h' hh.2), if_pos ⟨rfl, h⟩, if_pos h]
        rfl
    · by_cases h' : j = i'
      · rw [if_pos ⟨rfl, h'⟩, if_neg h, if_pos h']
        rfl
      · rw [if_neg (fun hh => h' hh.2), if_neg (fun hh => h hh.2), if_neg h, if_neg h']
  · rw [if_neg (fun hh => ht hh.1), if_neg (fun hh => ht hh.1), if_neg ht]

end Layout

end Tables
