import Mathlib.Tactic.Common

/-!
# A ring of slots as a FIFO queue

A ring of `N` slots with a head and a tail index. The ring holds at most `N - 1` entries, so that equal indices mean an empty
queue and never a full one. `Holds` is the refinement relation to the queue as a list, oldest entry first: a producer that
fills the slot at the tail and then moves the tail appends, a consumer that moves the head takes the oldest entry, and a write
to the slot at the tail touches no entry.
-/

namespace Ring

variable {α : Type}

/-- The ring `slot` of `N` slots holds the entries `q`, oldest first, from index `head` up to index `tail`. -/
structure Holds (N : Nat) (slot : Nat → α) (head tail : Nat) (q : List α) : Prop where
  head_lt : head < N
  length_lt : q.length < N
  tail_eq : tail = (head + q.length) % N
  entry : ∀ k a, q[k]? = some a → slot ((head + k) % N) = a

/-- An index that has wrapped at most once. -/
theorem mod_eq_ite {a N : Nat} (h : a < 2 * N) : a % N = if a < N then a else a - N := by
  split
  · rename_i h'
    exact Nat.mod_eq_of_lt h'
  · rename_i h'
    rw [Nat.mod_eq_sub_mod (by omega), Nat.mod_eq_of_lt (by omega)]

/-- An index whose head and tail are equal holds nothing. -/
theorem holds_nil {N : Nat} (slot : Nat → α) {head : Nat} (h : head < N) : Holds N slot head head [] where
  head_lt := h
  length_lt := Nat.zero_lt_of_lt h
  tail_eq := by
    simp only [List.length_nil, Nat.add_zero]
    exact (Nat.mod_eq_of_lt h).symm
  entry := by
    intro k a hk
    simp at hk

namespace Holds

variable {N : Nat} {slot slot' : Nat → α} {head tail : Nat} {q : List α}

theorem tail_lt (h : Holds N slot head tail q) : tail < N := by
  have := h.head_lt
  rw [h.tail_eq]
  exact Nat.mod_lt _ (by omega)

/-- The indices are equal exactly when the queue is empty. -/
theorem head_eq_tail_iff (h : Holds N slot head tail q) : head = tail ↔ q = [] := by
  have h1 := h.head_lt
  have h2 := h.length_lt
  have h3 := h.tail_eq
  rw [mod_eq_ite (by omega)] at h3
  rw [← List.length_eq_zero_iff]
  split at h3 <;> omega

/-- The tail is one behind the head exactly when the queue has no room left. -/
theorem next_tail_eq_head_iff (h : Holds N slot head tail q) : (tail + 1) % N = head ↔ q.length + 1 = N := by
  have h1 := h.head_lt
  have h2 := h.length_lt
  have h3 := h.tail_eq
  have h4 := h.tail_lt
  rw [mod_eq_ite (by omega)] at h3
  rw [mod_eq_ite (by omega)]
  split at h3 <;> split <;> omega

/-- The distance from the head to the tail is the length of the queue. -/
theorem length_eq (h : Holds N slot head tail q) : q.length = (tail + N - head) % N := by
  have h1 := h.head_lt
  have h2 := h.length_lt
  have h3 := h.tail_eq
  rw [mod_eq_ite (by omega)] at h3
  split at h3
  · rw [mod_eq_ite (by omega)]
    split <;> omega
  · rw [mod_eq_ite (by omega)]
    split <;> omega

/-- The slot at the tail holds no entry of the ring, as at least one slot stays free. -/
theorem entry_ne_tail (h : Holds N slot head tail q) {k : Nat} (hk : k < q.length) : (head + k) % N ≠ tail := by
  have h1 := h.head_lt
  have h2 := h.length_lt
  rw [h.tail_eq, mod_eq_ite (by omega), mod_eq_ite (by omega)]
  split <;> split <;> omega

/-- A write to the slot at the tail touches no entry. -/
theorem frame (h : Holds N slot head tail q) (hs : ∀ i < N, i ≠ tail → slot' i = slot i) : Holds N slot' head tail q where
  head_lt := h.head_lt
  length_lt := h.length_lt
  tail_eq := h.tail_eq
  entry := by
    intro k a hk
    have hlt : k < q.length := (List.getElem?_eq_some_iff.1 hk).1
    have hN := h.head_lt
    rw [hs _ (Nat.mod_lt _ (by omega)) (h.entry_ne_tail hlt)]
    exact h.entry k a hk

/-- Moving the tail over a slot that holds `a` appends `a`, as long as the queue has room. -/
theorem push (h : Holds N slot head tail q) {a : α} (hroom : q.length + 1 < N) (ha : slot tail = a) :
    Holds N slot head ((tail + 1) % N) (q ++ [a]) where
  head_lt := h.head_lt
  length_lt := by
    rw [List.length_append, List.length_singleton]
    exact hroom
  tail_eq := by
    rw [List.length_append, List.length_singleton, h.tail_eq, Nat.mod_add_mod, Nat.add_assoc]
  entry := by
    intro k b hk
    by_cases hlt : k < q.length
    · rw [List.getElem?_append_left hlt] at hk
      exact h.entry k b hk
    · rw [List.getElem?_append_right (by omega)] at hk
      have hk0 : k - q.length = 0 := by
        have := (List.getElem?_eq_some_iff.1 hk).1
        simp only [List.length_singleton] at this
        omega
      rw [hk0, List.getElem?_cons_zero, Option.some.injEq] at hk
      have hkq : k = q.length := by omega
      rw [hkq, ← h.tail_eq, ha, hk]

/-- Moving the head over the slot of the oldest entry takes that entry. -/
theorem pop {a : α} (h : Holds N slot head tail (a :: q)) :
    slot head = a ∧ Holds N slot ((head + 1) % N) tail q := by
  have h1 := h.head_lt
  have h2 := h.length_lt
  rw [List.length_cons] at h2
  refine ⟨?_, ?_, by omega, ?_, ?_⟩
  · have := h.entry 0 a rfl
    rwa [Nat.add_zero, Nat.mod_eq_of_lt h1] at this
  · exact Nat.mod_lt _ (by omega)
  · rw [h.tail_eq, List.length_cons, Nat.mod_add_mod]
    congr 1
    omega
  · intro k b hk
    rw [Nat.mod_add_mod, show head + 1 + k = head + (k + 1) by omega]
    exact h.entry (k + 1) b (by rwa [List.getElem?_cons_succ])

end Holds

end Ring
