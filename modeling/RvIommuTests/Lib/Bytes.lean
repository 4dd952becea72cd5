import Mathlib.Algebra.Group.Nat.Defs
import Mathlib.Tactic.Common

/-!
# Byte-addressed memory

A memory of bytes over 64-bit addresses, with little-endian loads and stores of any width. Addresses wrap modulo `2 ^ 64`,
as on the machine: a store near the top of the address space continues at address zero. Two ranges are apart (`Apart`) when
neither starts inside the other, and a load does not see a store to a range apart from its own.
-/

namespace Bytes

/-- A machine address. -/
abbrev Addr : Type := BitVec 64

/-- A memory: one byte at every address. -/
abbrev Mem : Type := Addr → BitVec 8

/-- The little-endian value of the `n` bytes from address `a` on. -/
def load (m : Mem) : (n : Nat) → Addr → BitVec (8 * n)
  | 0, _ => 0#0
  | n + 1, a => load m n (a + 1#64) ++ m a

/-- The memory after the `n` bytes of `v` have been stored from address `a` on. -/
def store (m : Mem) (n : Nat) (a : Addr) (v : BitVec (8 * n)) : Mem :=
  fun x => if (x - a).toNat < n then v.extractLsb' (8 * (x - a).toNat) 8 else m x

/-- The `n` bytes at `a` and the `k` bytes at `b` have no byte in common. -/
def Apart (a : Addr) (n : Nat) (b : Addr) (k : Nat) : Prop :=
  n ≤ (b - a).toNat ∧ k ≤ (a - b).toNat

instance (a : Addr) (n : Nat) (b : Addr) (k : Nat) : Decidable (Apart a n b k) := inferInstanceAs (Decidable (_ ∧ _))

theorem Apart.symm {a b : Addr} {n k : Nat} (h : Apart a n b k) : Apart b k a n :=
  ⟨h.2, h.1⟩

/-- Ranges that do not wrap are apart when one ends before the other starts. -/
theorem apart_of_le {a b : Addr} {n k : Nat} (hn : 0 < n) (h : a.toNat + n ≤ b.toNat) (hk : b.toNat + k ≤ 2 ^ 64) :
    Apart a n b k := by
  have ha := a.isLt
  have hb := b.isLt
  constructor
  · rw [BitVec.toNat_sub_of_le (by rw [BitVec.le_def]; omega)]
    omega
  · rw [BitVec.toNat_sub]
    omega

/-- Ranges that do not wrap are apart when one ends before the other starts, in either order. -/
theorem apart_of_disjoint {a b : Addr} {n k : Nat} (hn : 0 < n) (hk : 0 < k)
    (h : a.toNat + n ≤ b.toNat ∨ b.toNat + k ≤ a.toNat) (ha : a.toNat + n ≤ 2 ^ 64) (hb : b.toNat + k ≤ 2 ^ 64) :
    Apart a n b k := by
  rcases h with h | h
  · exact apart_of_le hn h hb
  · exact (apart_of_le hk h ha).symm

/-- A part of a range is apart from what the range is apart from. -/
theorem Apart.part {a b : Addr} {n k : Nat} (h : Apart a n b k) {x m : Nat} (hm : 0 < m) (hx : x + m ≤ n) :
    Apart (a + BitVec.ofNat 64 x) m b k := by
  obtain ⟨h1, h2⟩ := h
  have := a.isLt
  have := b.isLt
  constructor <;>
    (simp only [BitVec.toNat_sub, BitVec.toNat_add, BitVec.toNat_ofNat] at *; omega)

/-- An address at an offset from a base is their sum when that does not wrap around. -/
theorem toNat_add_offset {base : Addr} {x : Nat} (h : base.toNat + x < 2 ^ 64) :
    (base + BitVec.ofNat 64 x).toNat = base.toNat + x := by
  rw [BitVec.toNat_add, BitVec.toNat_ofNat]
  omega

/-- Ranges at two offsets from one base are apart when one ends before the other starts, wherever the base is. -/
theorem apart_offsets {base : Addr} {x y n k : Nat} (h : x + n ≤ y ∨ y + k ≤ x) (hx : x + n ≤ 2 ^ 64) (hy : y + k ≤ 2 ^ 64)
    (hn : 0 < n) (hk : 0 < k) : Apart (base + BitVec.ofNat 64 x) n (base + BitVec.ofNat 64 y) k := by
  have hb := base.isLt
  constructor <;>
    (simp only [BitVec.toNat_sub, BitVec.toNat_add, BitVec.toNat_ofNat]; omega)

/-! ## Loads bit by bit -/

/-- Bit `i` of a loaded value is bit `i % 8` of its byte `i / 8`. -/
theorem getLsbD_load (m : Mem) (n : Nat) (a : Addr) (i : Nat) (h : i < 8 * n) :
    (load m n a).getLsbD i = (m (a + BitVec.ofNat 64 (i / 8))).getLsbD (i % 8) := by
  induction n generalizing a i with
  | zero => omega
  | succ n ih =>
    simp only [load, BitVec.getLsbD_append]
    by_cases hi : i < 8
    · rw [if_pos hi]
      have h0 : i / 8 = 0 := by omega
      have h1 : i % 8 = i := by omega
      simp [h0, h1]
    · rw [if_neg hi, ih (a + 1#64) (i - 8) (by omega)]
      have h0 : i / 8 = (i - 8) / 8 + 1 := by omega
      have h1 : i % 8 = (i - 8) % 8 := by omega
      have h2 : a + 1#64 + BitVec.ofNat 64 ((i - 8) / 8) = a + BitVec.ofNat 64 (i / 8) := by
        rw [h0]
        apply BitVec.eq_of_toNat_eq
        simp only [BitVec.toNat_add, BitVec.toNat_ofNat]
        omega
      rw [h2, h1]

/-- A load depends only on the bytes of its range. -/
theorem load_congr {m m' : Mem} {n : Nat} {a : Addr}
    (h : ∀ k < n, m (a + BitVec.ofNat 64 k) = m' (a + BitVec.ofNat 64 k)) : load m n a = load m' n a := by
  apply BitVec.eq_of_getLsbD_eq
  intro i hi
  rw [getLsbD_load m n a i hi, getLsbD_load m' n a i hi, h (i / 8) (by omega)]

/-- The offset of byte `k` of a range from the range's start. -/
theorem offset_toNat (a : Addr) {k : Nat} (hk : k < 2 ^ 64) : (a + BitVec.ofNat 64 k - a).toNat = k := by
  rw [BitVec.toNat_sub, BitVec.toNat_add, BitVec.toNat_ofNat]
  have := a.isLt
  omega

/-- A load at the range just stored gives the value stored. -/
theorem load_store_same (m : Mem) {n : Nat} (hn : n ≤ 2 ^ 64) (a : Addr) (v : BitVec (8 * n)) :
    load (store m n a v) n a = v := by
  apply BitVec.eq_of_getLsbD_eq
  intro i hi
  rw [getLsbD_load _ n a i hi]
  have h1 : (a + BitVec.ofNat 64 (i / 8) - a).toNat = i / 8 := offset_toNat a (by omega)
  simp only [store, h1]
  rw [if_pos (by omega), BitVec.getLsbD_extractLsb']
  have h2 : i % 8 < 8 := Nat.mod_lt _ (by decide)
  simp only [h2, decide_true, Bool.true_and]
  congr 1
  omega

/-- A byte that is apart from the range of a store is unchanged by it. -/
theorem store_apart (m : Mem) {n : Nat} {a x : Addr} (v : BitVec (8 * n)) (h : n ≤ (x - a).toNat) :
    store m n a v x = m x := by
  simp only [store]
  rw [if_neg (by omega)]

/-- A load of a range apart from the stored one does not see the store. -/
theorem load_store_apart (m : Mem) {n k : Nat} {a b : Addr} (v : BitVec (8 * n)) (h : Apart a n b k) :
    load (store m n a v) k b = load m k b := by
  apply load_congr
  intro i hi
  apply store_apart
  obtain ⟨h1, h2⟩ := h
  have := a.isLt
  have := b.isLt
  simp only [BitVec.toNat_sub, BitVec.toNat_add, BitVec.toNat_ofNat] at *
  omega

/-- A load of a part of the range just stored gives the part of the value. -/
theorem load_store_part (m : Mem) {n i k : Nat} (a : Addr) (v : BitVec (8 * n)) (hi : i + k ≤ n) (hn : n ≤ 2 ^ 64) :
    load (store m n a v) k (a + BitVec.ofNat 64 i) = v.extractLsb' (8 * i) (8 * k) := by
  apply BitVec.eq_of_getLsbD_eq
  intro j hj
  have hoff : (a + BitVec.ofNat 64 i + BitVec.ofNat 64 (j / 8) - a).toNat = i + j / 8 := by
    rw [BitVec.add_assoc, ← BitVec.ofNat_add]
    exact offset_toNat a (by omega)
  rw [getLsbD_load _ k _ j hj, BitVec.getLsbD_extractLsb', decide_eq_true hj, Bool.true_and]
  unfold store
  rw [hoff, if_pos (by omega), BitVec.getLsbD_extractLsb', decide_eq_true (Nat.mod_lt j (by decide)), Bool.true_and]
  congr 1
  omega

/-- The word at the address of a doubleword just stored is its low half. -/
theorem load_store_low (m : Mem) (a : Addr) (v : BitVec 64) : load (store m 8 a v) 4 a = v.extractLsb' 0 32 := by
  have h := @load_store_part m 8 0 4 a v (by decide) (by decide)
  rwa [show BitVec.ofNat 64 0 = 0#64 from rfl, BitVec.add_zero] at h

theorem load_store_high (m : Mem) (a : Addr) (v : BitVec 64) : load (store m 8 a v) 4 (a + 4#64) = v.extractLsb' 32 32 :=
  @load_store_part m 8 4 4 a v (by decide) (by decide)

/-- A doubleword in memory is put together from its two words, the low one first. -/
theorem load_words (m : Mem) (a : Addr) : load m 8 a = (load m 4 (a + 4#64) ++ load m 4 a : BitVec 64) := by
  apply BitVec.eq_of_getLsbD_eq
  intro j hj
  rw [getLsbD_load m 8 a j hj, BitVec.getLsbD_append]
  split
  · rename_i hlo
    rw [getLsbD_load m 4 a j hlo]
  · rename_i hlo
    rw [getLsbD_load m 4 _ (j - 8 * 4) (by omega), BitVec.add_assoc, show 4#64 = BitVec.ofNat 64 4 from rfl, ← BitVec.ofNat_add,
      show 4 + (j - 8 * 4) / 8 = j / 8 by omega, show (j - 8 * 4) % 8 = j % 8 by omega]

end Bytes
