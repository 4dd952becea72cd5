import RvIommuTests.Startup

/-!
# What `boot.S` leaves

The loop that clears `.bss` is in the state `cleared` after each number of words.
-/

namespace RvIommuTests

open Bytes Loops

namespace StartupAux

variable {bssStart bssEnd : Addr} {m : Mem}

/-! ## The words that are cleared -/

/-- The memory after the first `k` bytes from an address on are cleared. -/
def zeroed (m : Mem) (start : Addr) (k : Nat) : Mem := fun x => if (x - start).toNat < k then 0#8 else m x

/-- One word more. -/
theorem store_zeroed (m : Mem) (start : Addr) {k : Nat} (hk : k + 4 ≤ 2 ^ 64) :
    store (zeroed m start k) 4 (start + BitVec.ofNat 64 k) 0#32 = zeroed m start (k + 4) := by
  funext x
  have hsub : (x - (start + BitVec.ofNat 64 k)).toNat = (2 ^ 64 - k + (x - start).toNat) % 2 ^ 64 := by
    have h := x.isLt
    have h' := start.isLt
    rw [BitVec.toNat_sub, BitVec.toNat_sub, BitVec.toNat_add, BitVec.toNat_ofNat, Nat.mod_eq_of_lt (by omega : k < 2 ^ 64)]
    omega
  have hx := (x - start).isLt
  unfold store zeroed
  rw [hsub]
  by_cases hlt : (x - start).toNat < k
  · rw [if_neg (by omega), if_pos hlt, if_pos (by omega)]
  · by_cases hlt' : (x - start).toNat < k + 4
    · rw [if_pos (by omega), if_pos hlt']
      exact BitVec.extractLsb'_zero
    · rw [if_neg (by omega), if_neg hlt, if_neg hlt']

/-- The state of the loop after `k` words. -/
def cleared (bssStart bssEnd : Addr) (m : Mem) (k : Nat) : Clearing :=
  ⟨bssStart + BitVec.ofNat 64 (4 * k), bssEnd, zeroed m bssStart (4 * k)⟩

theorem cleared_zero : cleared bssStart bssEnd m 0 = ⟨bssStart, bssEnd, m⟩ := by
  have hnone : zeroed m bssStart 0 = m := by
    funext x
    exact if_neg (Nat.not_lt_zero _)
  rw [cleared, Nat.mul_zero, BitVec.add_zero, hnone]

/-- One round of the loop. -/
theorem next_cleared (ha : bssStart.toNat % 4 = 0) {k : Nat} (hk : bssStart.toNat + 4 * k < 2 ^ 64) :
    (cleared bssStart bssEnd m k).next = some (cleared bssStart bssEnd m (k + 1)) := by
  have ha0 : (bssStart + BitVec.ofNat 64 (4 * k)).toNat = bssStart.toNat + 4 * k := toNat_add_offset hk
  have hnext : bssStart + BitVec.ofNat 64 (4 * k) + 4#64 = bssStart + BitVec.ofNat 64 (4 * (k + 1)) := by
    rw [BitVec.add_assoc, show 4 * (k + 1) = 4 * k + 4 from rfl, BitVec.ofNat_add]
  unfold Clearing.next cleared
  dsimp only
  rw [if_pos (by omega), hnext, store_zeroed m bssStart (by omega)]
  rfl

/-! ## Where the loop ends -/

/-- The words of `.bss`, the last of which may reach past its end. -/
def bssWords (bssStart bssEnd : Addr) : Nat := (bssEnd.toNat - bssStart.toNat + 3) / 4

/-- The loop clears all of the words when the last address that it reaches does not wrap. -/
theorem clearing_ends (h : bssEnd ≤ bssStart ∨ bssStart.toNat % 4 = 0 ∧ bssEnd.toNat ≤ 2 ^ 64 - 4) :
    Ends Clearing.left Clearing.next ⟨bssStart, bssEnd, m⟩ (cleared bssStart bssEnd m (bssWords bssStart bssEnd)) := by
  have hleft : ∀ c : Clearing, c.left = decide (c.a0.toNat < c.a1.toNat) := fun _ => rfl
  rcases h with hle | ⟨ha, hend⟩
  · have hle : bssEnd.toNat ≤ bssStart.toNat := hle
    have hnone : bssWords bssStart bssEnd = 0 := by
      unfold bssWords
      omega
    rw [hnone, cleared_zero]
    exact .done ((hleft _).trans (decide_eq_false (by simp only; omega)))
  · let I : Clearing → Prop := fun c => ∃ k ≤ bssWords bssStart bssEnd, c = cleared bssStart bssEnd m k
    have hwords : bssStart.toNat + 4 * bssWords bssStart bssEnd < 2 ^ 64 := by
      have := bssStart.isLt
      unfold bssWords
      omega
    have ha0 : ∀ k ≤ bssWords bssStart bssEnd, (cleared bssStart bssEnd m k).a0.toNat = bssStart.toNat + 4 * k :=
      fun k hk => toNat_add_offset (by omega)
    have hround : ∀ c, I c → c.left = true →
        ∃ c', c.next = some c' ∧ I c' ∧ bssEnd.toNat - c'.a0.toNat < bssEnd.toNat - c.a0.toNat := by
      rintro c ⟨k, hk, rfl⟩ htest
      rw [hleft] at htest
      have hlt : (cleared bssStart bssEnd m k).a0.toNat < bssEnd.toNat := of_decide_eq_true htest
      rw [ha0 k hk] at hlt
      have hk' : k + 1 ≤ bssWords bssStart bssEnd := by
        unfold bssWords
        omega
      refine ⟨_, next_cleared ha (by omega), ⟨k + 1, hk', rfl⟩, ?_⟩
      rw [ha0 k hk, ha0 (k + 1) hk']
      omega
    obtain ⟨c, hends, ⟨k, hk, rfl⟩, hstop⟩ :=
      ends_of_variant (v := fun c : Clearing => bssEnd.toNat - c.a0.toNat) hround ⟨0, Nat.zero_le _, cleared_zero.symm⟩
    rw [hleft] at hstop
    have hge : ¬ (cleared bssStart bssEnd m k).a0.toNat < bssEnd.toNat := of_decide_eq_false hstop
    rw [ha0 k hk] at hge
    have hall : k = bssWords bssStart bssEnd := by
      unfold bssWords at *
      omega
    rwa [hall] at hends

/-- Behind the last word of the address space `a0` wraps to zero, which is below the end again. -/
theorem clearing_stays (ha : bssStart.toNat % 4 = 0) (hlt : bssStart < bssEnd) (hend : 2 ^ 64 - 4 < bssEnd.toNat) (fuel : Nat) :
    loop Clearing.left Clearing.next fuel ⟨bssStart, bssEnd, m⟩ = none := by
  refine loop_stays (I := fun c => c.a0.toNat % 4 = 0 ∧ c.a1 = bssEnd) ?_ ?_ ⟨ha, rfl⟩ fuel
  · rintro ⟨a0, a1, mem⟩ ⟨ha0, rfl⟩
    have := a0.isLt
    exact decide_eq_true (by simp only at ha0 hend ⊢; omega)
  · rintro ⟨a0, a1, mem⟩ c' ⟨ha0, rfl⟩ hnext
    unfold Clearing.next at hnext
    rw [if_pos ha0] at hnext
    cases hnext
    refine ⟨?_, rfl⟩
    have hmod : (a0 + 4#64).toNat % 4 = (a0.toNat + 4) % 4 := by
      rw [BitVec.toNat_add, Nat.mod_mod_of_dvd _ (by decide : 4 ∣ 2 ^ 64)]
      rfl
    simp only at ha0 ⊢
    omega

/-- When `.bss` does not start at a word, the first store of the clearing loop is not aligned, and the loop has no result. -/
theorem clearing_traps (ha : bssStart.toNat % 4 ≠ 0) (hlt : bssStart < bssEnd) (fuel : Nat) :
    loop Clearing.left Clearing.next fuel ⟨bssStart, bssEnd, m⟩ = none := by
  have htest : Clearing.left ⟨bssStart, bssEnd, m⟩ = true := decide_eq_true hlt
  cases fuel with
  | zero => rw [loop, if_pos htest]
  | succ fuel =>
    rw [loop, if_pos htest, Clearing.next, if_neg ha]
    rfl

/-! ## The whole code -/

/-- The first hart goes on to the loop, and any other one does not. -/
theorem bootEntry_eq (fuel : Nat) (hartId : Word) (m : Mem) :
    bootEntry fuel hartId bssStart bssEnd m =
      if hartId = 0#64 then (loop Clearing.left Clearing.next fuel ⟨bssStart, bssEnd, m⟩).map Clearing.mem else none := by
  unfold bootEntry
  split
  · rename_i h
    subst h
    rw [loop_done rfl]
    cases loop Clearing.left Clearing.next fuel ⟨bssStart, bssEnd, m⟩ <;> rfl
  · rename_i h
    have hpark : loop (fun a0 : Word => a0 != 0#64) some fuel hartId = none := by
      refine loop_stays (I := fun a0 => a0 = hartId) ?_ ?_ rfl fuel
      · rintro _ rfl
        exact bne_iff_ne.2 h
      · rintro _ _ rfl hs
        exact (Option.some.inj hs).symm
    rw [hpark]
    rfl

theorem boots_unique {hartId : Word} {m m₁ m₂ : Mem} (h₁ : Boots hartId bssStart bssEnd m m₁)
    (h₂ : Boots hartId bssStart bssEnd m m₂) : m₁ = m₂ := by
  obtain ⟨n₁, h₁⟩ := h₁
  obtain ⟨n₂, h₂⟩ := h₂
  have heq := (h₁ (n₁ + n₂) (by omega)).symm.trans (h₂ (n₁ + n₂) (by omega))
  exact Option.some.inj heq

theorem boots_cleared (h : bssEnd ≤ bssStart ∨ bssStart.toNat % 4 = 0 ∧ bssEnd.toNat ≤ 2 ^ 64 - 4) (m : Mem) :
    Boots 0#64 bssStart bssEnd m (zeroed m bssStart (4 * bssWords bssStart bssEnd)) := by
  obtain ⟨n, hn⟩ := clearing_ends (m := m) h
  refine ⟨n, ?_⟩
  intro fuel hfuel
  rw [bootEntry_eq, if_pos rfl, hn fuel hfuel]
  rfl

end StartupAux

open StartupAux

/-- A hart gets past `boot.S` exactly when it is the first one, and `.bss` is empty, or starts at a word and does not reach into the
last one of the address space. Then every byte of `.bss` is zero, with up to three bytes behind it, and every other byte is as it
was; so the page tables are zero if they are in `.bss`, whatever was in the memory. -/
theorem boots_iff (hartId : Word) (bssStart bssEnd : Addr) (m : Mem) :
    ((∃ m', Boots hartId bssStart bssEnd m m') ↔
      hartId = 0#64 ∧ (bssEnd ≤ bssStart ∨ bssStart.toNat % 4 = 0 ∧ bssEnd.toNat ≤ 2 ^ 64 - 4)) ∧
    ∀ m', Boots hartId bssStart bssEnd m m' →
      (∀ x : Addr, bssStart ≤ x → x < bssEnd → m' x = 0#8) ∧
      (∀ x : Addr, x < bssStart ∨ bssStart.toNat + (bssEnd.toNat - bssStart.toNat + 3) / 4 * 4 ≤ x.toNat → m' x = m x) ∧
      ∀ link, TablesInBss link bssStart bssEnd → TablesZeroed link m' := by
  have hiff : (∃ m', Boots hartId bssStart bssEnd m m') ↔
      hartId = 0#64 ∧ (bssEnd ≤ bssStart ∨ bssStart.toNat % 4 = 0 ∧ bssEnd.toNat ≤ 2 ^ 64 - 4) := by
    constructor
    · rintro ⟨m', n, hn⟩
      have hrun := hn n (Nat.le_refl n)
      rw [bootEntry_eq] at hrun
      by_cases hhart : hartId = 0#64
      · rw [if_pos hhart] at hrun
        refine ⟨hhart, ?_⟩
        by_contra hcon
        rw [not_or, BitVec.not_le] at hcon
        obtain ⟨hlt, hcon⟩ := hcon
        by_cases ha : bssStart.toNat % 4 = 0
        · rw [clearing_stays ha hlt (Nat.lt_of_not_le fun hle => hcon ⟨ha, hle⟩)] at hrun
          cases hrun
        · rw [clearing_traps ha hlt] at hrun
          cases hrun
      · rw [if_neg hhart] at hrun
        cases hrun
    · rintro ⟨rfl, h⟩
      exact ⟨_, boots_cleared h m⟩
  refine ⟨hiff, ?_⟩
  intro m' hm'
  obtain ⟨rfl, h⟩ := hiff.1 ⟨m', hm'⟩
  rw [boots_unique hm' (boots_cleared h m)]
  have hzero : ∀ x : Addr, bssStart ≤ x → x < bssEnd → zeroed m bssStart (4 * bssWords bssStart bssEnd) x = 0#8 := by
    intro x hlo hhi
    rw [BitVec.le_def] at hlo
    rw [BitVec.lt_def] at hhi
    refine if_pos ?_
    rw [BitVec.toNat_sub_of_le hlo, bssWords]
    omega
  refine ⟨hzero, ?_, ?_⟩
  · intro x hx
    refine if_neg ?_
    have := x.isLt
    have := bssStart.isLt
    have := bssEnd.isLt
    rw [BitVec.lt_def] at hx
    rw [BitVec.toNat_sub, bssWords]
    rcases h with h | ⟨-, h⟩
    · rw [BitVec.le_def] at h
      omega
    · omega
  · rintro link ⟨h1, h2, h3⟩
    have hat : ∀ {table : Addr} {n : Nat}, bssStart.toNat ≤ table.toNat ∧ table.toNat + n ≤ bssEnd.toNat → ∀ k < n,
        zeroed m bssStart (4 * bssWords bssStart bssEnd) (table + BitVec.ofNat 64 k) = 0#8 := by
      rintro table n ⟨hlo, hhi⟩ k hk
      have hend := bssEnd.isLt
      have haddr : (table + BitVec.ofNat 64 k).toNat = table.toNat + k := toNat_add_offset (by omega)
      exact hzero _ (by rw [BitVec.le_def]; omega) (by rw [BitVec.lt_def]; omega)
    exact ⟨hat h1, hat h2, hat h3⟩

end RvIommuTests
