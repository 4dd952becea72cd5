import Mathlib.Data.List.Basic

/-!
# Streams with marks

An encoding of streams that puts a mark before each occurrence of one special symbol, as a terminal driver does with the ends of
lines. The mark may also stand in the stream itself. The encoding loses nothing, and the streams that it makes are exactly those
in which every special symbol directly follows a mark (`Marked`).
-/

namespace Marks

variable {α : Type} [DecidableEq α] {mark special : α}

/-- A mark before each special symbol. -/
def encode (mark special : α) : List α → List α
  | [] => []
  | x :: xs => if x = special then mark :: x :: encode mark special xs else x :: encode mark special xs

/-- Without the marks that stand before a special symbol. -/
def decode (mark special : α) : List α → List α
  | x :: y :: xs =>
    if x = mark ∧ y = special then y :: decode mark special xs else x :: decode mark special (y :: xs)
  | xs => xs

/-- Every special symbol directly follows a mark. Whether a mark stands directly before the stream is `after`. -/
def Marked (mark special : α) (after : Bool) : List α → Prop
  | [] => True
  | x :: xs => (x = special → after = true) ∧ Marked mark special (decide (x = mark)) xs

/-- Whether a stream is marked is read off from its symbols, one by one. -/
instance Marked.decidable : (after : Bool) → (xs : List α) → Decidable (Marked mark special after xs)
  | _, [] => isTrue trivial
  | after, x :: xs =>
    have := Marked.decidable (decide (x = mark)) xs
    inferInstanceAs (Decidable ((x = special → after = true) ∧ Marked mark special (decide (x = mark)) xs))

/-! ## Encoding -/

/-- The empty text needs no mark. -/
@[simp] theorem encode_nil : encode mark special [] = [] := rfl

/-- The encoding puts the mark before a special character. -/
theorem encode_special (xs : List α) : encode mark special (special :: xs) = mark :: special :: encode mark special xs :=
  if_pos rfl

/-- The encoding leaves any other character as it is. -/
theorem encode_other {x : α} (h : x ≠ special) (xs : List α) : encode mark special (x :: xs) = x :: encode mark special xs :=
  if_neg h

/-- A text can be encoded in parts, since the mark of a character does not depend on what is around it. -/
theorem encode_append (xs ys : List α) : encode mark special (xs ++ ys) = encode mark special xs ++ encode mark special ys := by
  induction xs with
  | nil => rfl
  | cons x xs ih =>
    simp only [encode, List.cons_append, ih]
    split
    · rfl
    · rfl

/-! ## What encoded streams look like -/

/-- In an encoded text each special character comes after a mark. -/
theorem marked_encode (h : mark ≠ special) (xs : List α) (after : Bool) : Marked mark special after (encode mark special xs) := by
  induction xs generalizing after with
  | nil => trivial
  | cons x xs ih =>
    by_cases hx : x = special
    · subst hx
      rw [encode_special]
      exact ⟨fun he => absurd he h, fun _ => decide_eq_true rfl, ih _⟩
    · rw [encode_other hx]
      exact ⟨fun he => absurd he hx, ih _⟩

/-- The first part of a text in which each special character is marked is one, too. -/
theorem Marked.left {after : Bool} {xs ys : List α} (h : Marked mark special after (xs ++ ys)) : Marked mark special after xs := by
  induction xs generalizing after with
  | nil => trivial
  | cons x xs ih => exact ⟨h.1, ih h.2⟩

/-- A stream that is broken off has each special character marked when the whole one has. -/
theorem Marked.initial {after : Bool} {xs ys : List α} (h : Marked mark special after ys) (hp : xs <+: ys) :
    Marked mark special after xs := by
  obtain ⟨zs, rfl⟩ := hp
  exact h.left

/-! ## Decoding -/

/-- Decoding takes the mark before a special character away, and goes on behind the character. -/
theorem decode_marked (xs : List α) : decode mark special (mark :: special :: xs) = special :: decode mark special xs :=
  if_pos ⟨rfl, rfl⟩

/-- A symbol that is no mark of what follows it stays. -/
theorem decode_cons {x : α} {xs : List α} (h : x = mark → xs.head? ≠ some special) :
    decode mark special (x :: xs) = x :: decode mark special xs := by
  cases xs with
  | nil => rfl
  | cons y xs =>
    refine if_neg ?_
    rintro ⟨hx, rfl⟩
    exact h hx rfl

/-- An encoded stream does not start with a special symbol. -/
theorem head_encode (h : mark ≠ special) (xs : List α) : (encode mark special xs).head? ≠ some special := by
  intro hs
  have hm := marked_encode h xs false
  cases hx : encode mark special xs with
  | nil =>
    rw [hx] at hs
    cases hs
  | cons y ys =>
    rw [hx] at hs hm
    cases hs
    cases hm.1 rfl

/-- Decoding an encoded text gives the text back, so the encoding loses nothing. -/
theorem decode_encode (h : mark ≠ special) (xs : List α) : decode mark special (encode mark special xs) = xs := by
  induction xs with
  | nil => rfl
  | cons x xs ih =>
    by_cases hx : x = special
    · subst hx
      rw [encode_special, decode_marked, ih]
    · rw [encode_other hx, decode_cons fun _ => head_encode h xs, ih]

/-- Every marked stream is an encoded one, by the recursion of the decoder. -/
theorem encode_decode (h : mark ≠ special) (xs : List α) (hm : Marked mark special false xs) :
    encode mark special (decode mark special xs) = xs := by
  induction xs using decode.induct mark special with
  | case1 x y xs hxy ih =>
    obtain ⟨rfl, rfl⟩ := hxy
    rw [decode_marked, encode_special, ih ?_]
    have hrest := hm.2.2
    rwa [decide_eq_false h.symm] at hrest
  | case2 x y xs hxy ih =>
    have hx : x ≠ special := fun he => Bool.false_ne_true (hm.1 he)
    have hy : y ≠ special := fun he => hxy ⟨of_decide_eq_true (hm.2.1 he), he⟩
    rw [decode, if_neg hxy, encode_other hx, ih ⟨fun he => absurd he hy, hm.2.2⟩]
  | case3 xs hxs =>
    cases xs with
    | nil => rfl
    | cons x xs =>
      cases xs with
      | nil =>
        have hx : x ≠ special := fun he => Bool.false_ne_true (hm.1 he)
        exact encode_other hx []
      | cons y xs => exact absurd rfl (hxs x y xs)

end Marks
