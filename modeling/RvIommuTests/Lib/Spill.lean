import Mathlib.Tactic.Common

/-!
# Registers saved in a frame

A context switch that saves registers by a list of stores, each a register and a slot, and brings them back by a list of loads.
Two lookups decide what a register holds in the end: the slot it was last loaded from, and the register last stored in that slot.
-/

namespace Spill

variable {ι α : Type}

/-- The frame after the stores. -/
def save (regs : ι → α) : List (ι × Nat) → (Nat → α) → Nat → α
  | [], frame => frame
  | (r, k) :: ps, frame => save regs ps (fun j => if j = k then regs r else frame j)

/-- The registers after the loads. -/
def restore [DecidableEq ι] (frame : Nat → α) : List (ι × Nat) → (ι → α) → ι → α
  | [], regs => regs
  | (r, k) :: ps, regs => restore frame ps (fun q => if q = r then frame k else regs q)

/-- The register whose value the stores leave in a slot. -/
def owner : List (ι × Nat) → Nat → Option ι
  | [], _ => none
  | (r, k) :: ps, j => (owner ps j).or (if j = k then some r else none)

/-- The slot whose value the loads leave in a register. -/
def source [DecidableEq ι] : List (ι × Nat) → ι → Option Nat
  | [], _ => none
  | (r, k) :: ps, q => (source ps q).or (if q = r then some k else none)

/-- A slot holds the value of its owner, or what it held before. -/
theorem save_apply (regs : ι → α) (ps : List (ι × Nat)) (frame : Nat → α) (j : Nat) :
    save regs ps frame j = ((owner ps j).map regs).getD (frame j) := by
  induction ps generalizing frame with
  | nil => rfl
  | cons p ps ih =>
    obtain ⟨r, k⟩ := p
    simp only [save, owner, ih]
    cases owner ps j with
    | some q => rfl
    | none => by_cases h : j = k <;> simp [h]

variable [DecidableEq ι]

/-- A register holds the value of its source, or what it held before. -/
theorem restore_apply (frame : Nat → α) (ps : List (ι × Nat)) (regs : ι → α) (q : ι) :
    restore frame ps regs q = ((source ps q).map frame).getD (regs q) := by
  induction ps generalizing regs with
  | nil => rfl
  | cons p ps ih =>
    obtain ⟨r, k⟩ := p
    simp only [restore, source, ih]
    cases source ps q with
    | some j => rfl
    | none => by_cases h : q = r <;> simp [h]

end Spill
