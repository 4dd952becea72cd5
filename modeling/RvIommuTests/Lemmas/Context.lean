import RvIommuTests.Trap.Context

/-!
# The frame of a trap

The stores and the loads of the two macros as a save and a restore of the frame of 31 words at the stack pointer.
-/

namespace RvIommuTests

open Bytes

/-- The word in a slot of the frame at the stack pointer. -/
def Cpu.slot (s : Cpu) (k : Nat) : Word := load s.mem 8 (s.reg sp + BitVec.ofNat 64 (k * regLen))

namespace ContextAux

/-- A store changes its own slot only. -/
theorem slot_sd (s : Cpu) (r : RegId) {j k : Nat} (hj : j < 31) (hk : k < 31) :
    (s.sd r (k * regLen)).slot j = if j = k then s.reg r else s.slot j := by
  by_cases h : j = k
  · subst h
    rw [if_pos rfl]
    exact load_store_same s.mem (by decide) _ _
  · rw [if_neg h]
    refine load_store_apart s.mem _ (apart_offsets ?_ ?_ ?_ (by decide) (by decide)) <;>
      (rw [regLen]; omega)

theorem reg_storeAll (s : Cpu) (ps : List (RegId × Nat)) : (storeAll s ps).reg = s.reg := by
  induction ps generalizing s with
  | nil => rfl
  | cons p ps ih => exact ih _

/-- The stores of `SAVE_CONTEXT` leave the frame as the library says for their list of slots. -/
theorem slot_storeAll (s : Cpu) (ps : List (RegId × Nat)) (hps : ∀ p ∈ ps, p.2 < 31) {j : Nat} (hj : j < 31) :
    (storeAll s ps).slot j = Spill.save s.reg ps s.slot j := by
  induction ps generalizing s with
  | nil => rfl
  | cons p ps ih =>
    obtain ⟨r, k⟩ := p
    have hk : k < 31 := hps (r, k) List.mem_cons_self
    rw [storeAll, ih _ (fun p hp => hps p (List.mem_cons_of_mem _ hp)), Spill.save, Spill.save_apply, Spill.save_apply,
      slot_sd s r hj hk]
    rfl

/-- The loads of registers other than the stack pointer leave it and the memory alone. -/
theorem loadAll_frame (s : Cpu) (ps : List (RegId × Nat)) (hps : ∀ p ∈ ps, p.1 ≠ sp) :
    (loadAll s ps).reg sp = s.reg sp ∧ (loadAll s ps).mem = s.mem := by
  induction ps generalizing s with
  | nil => exact ⟨rfl, rfl⟩
  | cons p ps ih =>
    obtain ⟨r, k⟩ := p
    have hr : sp ≠ r := (hps (r, k) List.mem_cons_self).symm
    obtain ⟨h1, h2⟩ := ih (s.ld r (k * regLen)) (fun p hp => hps p (List.mem_cons_of_mem _ hp))
    refine ⟨h1.trans ?_, h2⟩
    exact if_neg fun h => hr h.1

/-- The loads of `RESTORE_CONTEXT` leave the registers as the library says for their list of slots. -/
theorem reg_loadAll (s : Cpu) (ps : List (RegId × Nat)) (hps : ∀ p ∈ ps, p.1 ≠ sp ∧ p.1 ≠ 0) (q : RegId) :
    (loadAll s ps).reg q = Spill.restore s.slot ps s.reg q := by
  induction ps generalizing s with
  | nil => rfl
  | cons p ps ih =>
    obtain ⟨r, k⟩ := p
    obtain ⟨hr, hr0⟩ := hps (r, k) List.mem_cons_self
    have hsp : (s.ld r (k * regLen)).reg sp = s.reg sp := if_neg fun h => hr h.1.symm
    have hslot : (s.ld r (k * regLen)).slot = s.slot := by
      funext j
      unfold Cpu.slot
      rw [hsp]
      rfl
    rw [loadAll, ih _ (fun p hp => hps p (List.mem_cons_of_mem _ hp)), Spill.restore, hslot]
    congr 1
    funext q
    exact if_congr (and_iff_left hr0) rfl rfl

/-! ## The tables of the two macros -/

theorem saveSlots_lt : ∀ p ∈ saveSlots, p.2 < 31 := by decide

theorem restoreSlots_ne : ∀ p ∈ restoreSlots, p.1 ≠ sp ∧ p.1 ≠ 0 := by decide

/-- Every register but `x30` and `x31` is restored from the slot that it owns. -/
theorem source_owner : ∀ q : RegId, q ≠ 0 → q ≠ sp → q ≠ 30 → q ≠ 31 →
    ∃ k < 31, Spill.source restoreSlots q = some k ∧ Spill.owner saveSlots k = some q := by decide

/-- `x30` is restored from a slot that `x31` owns, and `x31` from one that nothing was stored in. -/
theorem source_owner_last :
    Spill.source restoreSlots 30 = some 29 ∧ Spill.owner saveSlots 29 = some 31 ∧
    Spill.source restoreSlots 31 = some 30 ∧ Spill.owner saveSlots 30 = none := by decide

/-! ## A trap -/

/-- The state after `SAVE_CONTEXT` has moved the stack pointer. -/
def pushed (s : Cpu) : Cpu := s.set sp (s.reg sp - BitVec.ofNat 64 (regLen * 31))

/-- What a register holds after the trap, in terms of the tables. -/
theorem reg_trapEntry {handler : Cpu → Cpu} (hk : KeepsFrame handler) (returnAddr : Word) (s : Cpu) {q : RegId} {k : Nat}
    (hq : q ≠ sp) (hk31 : k < 31) (hsrc : Spill.source restoreSlots q = some k) :
    (trapEntry handler returnAddr s).2.reg q = Spill.save (pushed s).reg saveSlots (pushed s).slot k := by
  -- the frame survives the handler
  have hframe : ((handler ((saveContext s).set ra returnAddr)).set t0 4#64).slot k =
      Spill.save (pushed s).reg saveSlots (pushed s).slot k := by
    rw [← slot_storeAll (pushed s) saveSlots saveSlots_lt hk31]
    have hset : ((handler ((saveContext s).set ra returnAddr)).set t0 4#64).reg sp =
        ((saveContext s).set ra returnAddr).reg sp := hk.sp _
    unfold Cpu.slot
    rw [hset]
    exact hk.frame _ k hk31
  have hres : (restoreContext ((handler ((saveContext s).set ra returnAddr)).set t0 4#64)).reg q =
      Spill.save (pushed s).reg saveSlots (pushed s).slot k := by
    rw [← hframe]
    refine (if_neg fun h => hq h.1).trans ?_
    rw [reg_loadAll _ _ restoreSlots_ne, Spill.restore_apply, hsrc]
    rfl
  rw [trapEntry, trapReturn]
  split
  · exact hres
  · exact hres

/-- The stack pointer is after a trap what it was before, as the frame is taken off again. -/
theorem sp_trapEntry {handler : Cpu → Cpu} (hk : KeepsFrame handler) (returnAddr : Word) (s : Cpu) :
    (trapEntry handler returnAddr s).2.reg sp = s.reg sp := by
  have hsave : ((saveContext s).set ra returnAddr).reg sp = s.reg sp - BitVec.ofNat 64 (regLen * 31) := by
    show (saveContext s).reg sp = _
    unfold saveContext
    rw [reg_storeAll]
    rfl
  have hres : (restoreContext ((handler ((saveContext s).set ra returnAddr)).set t0 4#64)).reg sp = s.reg sp := by
    show (loadAll _ restoreSlots).reg sp + BitVec.ofNat 64 (regLen * 31) = s.reg sp
    rw [(loadAll_frame _ restoreSlots fun p hp => (restoreSlots_ne p hp).1).1]
    show (handler _).reg sp + _ = _
    rw [hk.sp, hsave, BitVec.sub_add_cancel]
  rw [trapEntry, trapReturn]
  split
  · exact hres
  · exact hres

/-- After a trap each register holds what it held before, but for `x30` and `x31`, which share a slot on one side. -/
theorem reg_trapEntry_eq {handler : Cpu → Cpu} (hk : KeepsFrame handler) (returnAddr : Word) (s : Cpu) {q : RegId}
    (hq : q ≠ 0) :
    (trapEntry handler returnAddr s).2.reg q =
      if q = 30 then s.reg 31 else if q = 31 then load s.mem 8 (s.reg sp - 8#64) else s.reg q := by
  obtain ⟨h30, o30, h31, o31⟩ := source_owner_last
  by_cases hsp : q = sp
  · rw [hsp, sp_trapEntry hk]
    rfl
  by_cases hq30 : q = 30
  · subst hq30
    rw [if_pos rfl, reg_trapEntry hk returnAddr s hsp (by decide) h30, Spill.save_apply, o30]
    rfl
  by_cases hq31 : q = 31
  · subst hq31
    rw [if_neg (by decide), if_pos rfl, reg_trapEntry hk returnAddr s hsp (by decide) h31, Spill.save_apply, o31]
    show load s.mem 8 (s.reg sp - BitVec.ofNat 64 (regLen * 31) + BitVec.ofNat 64 (30 * regLen)) = _
    congr 1
    unfold regLen
    bv_omega
  · rw [if_neg hq30, if_neg hq31]
    obtain ⟨k, hk31, hsrc, hown⟩ := source_owner q hq hsp hq30 hq31
    rw [reg_trapEntry hk returnAddr s hsp hk31 hsrc, Spill.save_apply, hown]
    exact if_neg fun h => hsp h.1

end ContextAux

end RvIommuTests
