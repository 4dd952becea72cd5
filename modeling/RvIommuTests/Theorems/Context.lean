import RvIommuTests.Lemmas.Context

/-!
# What a trap does to the interrupted registers

The round trip through the frame of `SAVE_CONTEXT` and `RESTORE_CONTEXT`.
-/

namespace RvIommuTests

open Bytes ContextAux

/-- A trap gives every register back exactly when `x30` and `x31` are equal and the word below the stack pointer happens to hold
that value too: `SAVE_CONTEXT` stores `x31` over `x30`, in slot 29, while `RESTORE_CONTEXT` loads it from slot 30, which nothing
was stored in. All other registers always come back. -/
theorem trap_transparent_iff (entry : (Cpu → Cpu) → Word → Cpu → TrapReturn × Cpu)
    (he : entry ∈ [mhandlerEntry, hshandlerEntry, vshandlerEntry]) (handler : Cpu → Cpu) (hk : KeepsFrame handler)
    (returnAddr : Word) (s : Cpu) :
    (∀ q : RegId, q ≠ 0 → (entry handler returnAddr s).2.reg q = s.reg q) ↔
      s.reg 30 = s.reg 31 ∧ load s.mem 8 (s.reg sp - 8#64) = s.reg 31 := by
  have hentry : entry = trapEntry := by
    simp only [List.mem_cons, List.not_mem_nil, or_false] at he
    rcases he with rfl | rfl | rfl <;> rfl
  rw [hentry]
  constructor
  · intro h
    have h30 := h 30 (by decide)
    have h31 := h 31 (by decide)
    rw [reg_trapEntry_eq hk returnAddr s (by decide), if_pos rfl] at h30
    rw [reg_trapEntry_eq hk returnAddr s (by decide), if_neg (by decide), if_pos rfl] at h31
    exact ⟨h30.symm, h31⟩
  · rintro ⟨h30, h31⟩ q hq
    rw [reg_trapEntry_eq hk returnAddr s hq]
    split
    · rename_i hq30
      rw [hq30, h30]
    · split
      · rename_i hq31
        rw [hq31, h31]
      · rfl

/-- A hart whose registers hold their own numbers, over a memory of zeros. -/
def Cpu.numbered : Cpu where
  reg := fun q => BitVec.ofNat 64 q.val
  mem := fun _ => 0#8

theorem keepsFrame_id : KeepsFrame id := ⟨fun _ => rfl, fun _ _ _ => rfl⟩

/-- The theorem at a hart whose registers are all zero, and at one whose registers hold their own numbers. -/
theorem trap_transparent_iff_at :
    (∀ q : RegId, q ≠ 0 → (mhandlerEntry id 0 ⟨fun _ => 0, fun _ => 0⟩).2.reg q = 0) ∧
    ¬ ∀ q : RegId, q ≠ 0 → (vshandlerEntry id 0 Cpu.numbered).2.reg q = Cpu.numbered.reg q :=
  ⟨(trap_transparent_iff mhandlerEntry (by simp) id keepsFrame_id 0 ⟨fun _ => 0, fun _ => 0⟩).2 ⟨rfl, by decide⟩,
    fun h => absurd ((trap_transparent_iff vshandlerEntry (by simp) id keepsFrame_id 0 Cpu.numbered).1 h).1 (by decide)⟩

/-- A handler that does nothing at all does not give `x30` back: it comes back as `x31`. -/
theorem trap_corrupts_x30 :
    KeepsFrame id ∧ (mhandlerEntry id 0 Cpu.numbered).2.reg 30 = 31#64 ∧ Cpu.numbered.reg 30 = 30#64 := by
  refine ⟨keepsFrame_id, ?_, rfl⟩
  have h := reg_trapEntry_eq keepsFrame_id 0 Cpu.numbered (show (30 : RegId) ≠ 0 by decide)
  rw [if_pos rfl] at h
  exact h

end RvIommuTests
