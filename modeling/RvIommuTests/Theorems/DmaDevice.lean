import RvIommuTests.DmaDevice
import RvIommuTests.Lib.Rely

/-!
# The request protocol of the DMA device

Calls of the driver in any order, in any interleaving with the completions of the device.
-/

namespace RvIommuTests

open Shared

namespace DmaAux

/-! ## The device -/

theorem outstanding_idle {s : Dma} (h : s.Idle) : s.outstanding = [] := by
  rw [Dma.outstanding, h.none, List.drop_length]

/-- An idle device does nothing by itself, as it has no transfer to complete. -/
theorem drift_idle {s t : Dma} (h : s.Idle) (hd : Dma.world.Drift s t) : t = s := by
  induction hd with
  | refl => rfl
  | tail _ he ih =>
    subst ih
    obtain ⟨l, hl, -⟩ := he
    rw [outstanding_idle h] at hl
    cases hl

/-- A write to a register starts nothing, so an idle device stays idle. -/
theorem idle_write {s : Dma} (h : s.Idle) (r : IdmaReg) (v : Word) : (s.write r v).Idle := by
  cases r <;> exact ⟨h.none, h.last⟩

/-- The device after a launch from an idle state: one transfer is outstanding. -/
theorem outstanding_launch {s : Dma} (h : s.Idle) (id : Word) : (s.launch id).outstanding = [⟨s.setup, id⟩] := by
  rw [Dma.outstanding, Dma.launch, h.none, List.drop_left]

/-- The device is idle again after it has completed the one transfer that was launched. -/
theorem idle_complete {s : Dma} (h : s.Idle) (id : Word) : ((s.launch id).complete ⟨s.setup, id⟩).Idle := by
  constructor
  · rw [Dma.complete, Dma.launch, h.none, List.length_append]
    rfl
  · exact Or.inr ⟨⟨s.setup, id⟩, List.mem_append_right _ (List.mem_singleton.2 rfl), rfl⟩

/-- Until a transfer is completed the last completed id is another one than its id, which is fresh. -/
theorem last_ne {s : Dma} (h : s.Idle) {id : Word} (hid : s.Fresh id) : s.lastTransferIdComplete ≠ id := by
  rcases h.last with h0 | ⟨l, hl, he⟩
  · rw [h0]
    exact hid.1.symm
  · rw [← he]
    exact hid.2 l hl

/-- What the device can be like while the driver waits for the transfer that it has launched. -/
def Waiting (s : Dma) (id : Word) (t : Dma) : Prop := t = s.launch id ∨ t = (s.launch id).complete ⟨s.setup, id⟩

/-- All that the device can do meanwhile is to complete the transfer. -/
theorem stable_waiting {s : Dma} (h : s.Idle) (id : Word) : Stable Dma.world (Waiting s id) := by
  rintro t t' (rfl | rfl) ⟨l, hl, rfl⟩
  · rw [outstanding_launch h] at hl
    cases hl
    exact Or.inr rfl
  · rw [outstanding_idle (idle_complete h id)] at hl
    cases hl

/-! ## A transfer -/

/-- The points of `idma_exec_transfer` on an idle device: before the launch, refused, waiting for the id, or done. -/
theorem exec_run {s t : Dma} (hs : s.Idle) {q : IdmaDriver Int} (h : Run Dma.world idmaExecTransfer s q t) :
    (q = idmaExecTransfer ∧ t = s) ∨ (q = .ret (-1) ∧ t = s) ∨
      ∃ id, s.Fresh id ∧ ((q = (idmaWait id >>= fun _ => pure 0) ∧ Waiting s id t) ∨
        (q = .ret 0 ∧ t = (s.launch id).complete ⟨s.setup, id⟩)) := by
  rcases h.act_inv with ⟨rfl, hd⟩ | ⟨s₁, id, s₂, hd, hsem, hr⟩
  · exact Or.inl ⟨rfl, drift_idle hs hd⟩
  · rw [drift_idle hs hd] at hsem
    rcases hsem with ⟨rfl, rfl⟩ | ⟨hid, rfl⟩
    · obtain ⟨rfl, hd'⟩ := hr.ret_inv
      exact Or.inr (Or.inl ⟨rfl, drift_idle hs hd'⟩)
    · refine Or.inr (Or.inr ⟨id, hid, ?_⟩)
      have hwait : Run Dma.world (if id = 0#64 then (pure (-1) : IdmaDriver Int) else idmaWait id >>= fun _ => pure 0)
        (s.launch id) q t := hr
      rw [if_neg hid.1] at hwait
      have hmiss : ∀ t₁ v t₂, Waiting s id t₁ → Dma.world.sem (.read64 .lastTransferIdComplete) t₁ v t₂ →
          (v == id) = false → Waiting s id t₂ := by
        rintro t₁ v t₂ hw ⟨-, rfl⟩ -
        exact hw
      rcases hwait.poll_inv (stable_waiting hs id) hmiss (Or.inl rfl) with ⟨rfl, hw⟩ | ⟨t₁, v, t₂, hw, ⟨rfl, rfl⟩, hv, hr'⟩
      · exact Or.inl ⟨rfl, hw⟩
      · right
        obtain ⟨rfl, hd'⟩ := hr'.ret_inv
        rcases hw with rfl | rfl
        · exact absurd (beq_iff_eq.1 hv) (last_ne hs hid)
        · exact ⟨rfl, drift_idle (idle_complete hs id) hd'⟩

/-- While the driver waits, its transfer is either the one that is outstanding or complete, with its id in the register. -/
theorem outstanding_waiting {s t : Dma} (hs : s.Idle) {id : Word} (h : Waiting s id t) :
    t.lastTransferIdComplete = id ∧ t.outstanding = [] ∨ t.outstanding = [⟨s.setup, id⟩] := by
  rcases h with rfl | rfl
  · exact Or.inr (outstanding_launch hs id)
  · exact Or.inl ⟨rfl, outstanding_idle (idle_complete hs id)⟩

/-- At every point of a transfer at most one is outstanding. -/
theorem exec_atMostOne {s t : Dma} (hs : s.Idle) {q : IdmaDriver Int} (h : Run Dma.world idmaExecTransfer s q t) :
    t.outstanding.length ≤ 1 := by
  rcases exec_run hs h with ⟨-, rfl⟩ | ⟨-, rfl⟩ | ⟨id, -, ⟨-, hw⟩ | ⟨-, rfl⟩⟩
  · rw [outstanding_idle hs]
    exact Nat.zero_le 1
  · rw [outstanding_idle hs]
    exact Nat.zero_le 1
  · rcases outstanding_waiting hs hw with ⟨-, ho⟩ | ho <;> rw [ho]
    · exact Nat.zero_le 1
    · exact Nat.le_refl 1
  · rw [outstanding_idle (idle_complete hs id)]
    exact Nat.zero_le 1

/-! ## Calls -/

/-- The device between two calls. -/
def Ready (d : DmaSetup) (s : Dma) : Prop := s.Idle ∧ s.setup = d

/-- Between two calls the device does nothing by itself. -/
theorem stable_ready (d : DmaSetup) : Stable Dma.world (Ready d) := by
  intro s t h he
  obtain rfl := drift_idle h.1 (.single he)
  exact h

/-- At most one transfer is outstanding. -/
def AtMostOne (s : Dma) : Prop := s.outstanding.length ≤ 1

/-- Between two calls none is. -/
theorem atMostOne_ready {d : DmaSetup} {s : Dma} (h : Ready d s) : AtMostOne s := by
  rw [AtMostOne, outstanding_idle h.1]
  exact Nat.zero_le 1

/-- A write to a register between two transfers changes what the next one is set up with, and launches none. -/
theorem write_triple (r : IdmaReg) (v : Word) (d d' : DmaSetup) (hd : ∀ s : Dma, s.setup = d → (s.write r v).setup = d') :
    Triple Dma.world AtMostOne (Ready d) (idmaWrite r v) (fun _ => Ready d') := by
  refine Triple.act (fun _ => Ready d') (stable_ready d) (fun _ => atMostOne_ready) ?_ ?_
  · rintro s _ _ ⟨hidle, hs⟩ rfl
    exact ⟨idle_write hidle r v, hd s hs⟩
  · exact fun _ => Triple.ret (stable_ready d') (fun _ => atMostOne_ready) fun _ h => h

/-- A transfer keeps the setup, and leaves the device idle when it returns. -/
theorem exec_triple (d : DmaSetup) :
    Triple Dma.world AtMostOne (Ready d) idmaExecTransfer (fun _ => Ready d) := by
  rintro s q t ⟨hidle, hs⟩ h
  refine ⟨exec_atMostOne hidle h, ?_⟩
  rintro r rfl
  rcases exec_run hidle h with ⟨hq, -⟩ | ⟨-, rfl⟩ | ⟨id, -, ⟨hq, -⟩ | ⟨-, rfl⟩⟩
  · cases hq
  · exact ⟨hidle, hs⟩
  · cases hq
  · exact ⟨idle_complete hidle id, hs⟩

/-- One call leaves at most one transfer outstanding at every point, and the device idle with its setup. -/
theorem run_triple (c : IdmaCall) (d : DmaSetup) :
    Triple Dma.world AtMostOne (Ready d) c.run (fun _ => Ready (c.setsUp d)) := by
  cases c with
  | setup src dst nBytes =>
    refine Triple.bind _ (write_triple .srcAddr src d { d with srcAddr := src } ?_) fun _ => ?_
    · rintro s rfl
      rfl
    refine Triple.bind _ (write_triple .destAddr dst _ { d with srcAddr := src, destAddr := dst } ?_) fun _ => ?_
    · intro s hs
      exact congrArg (fun e => { e with destAddr := dst }) hs
    refine Triple.bind _ (write_triple .numBytes nBytes _ { d with srcAddr := src, destAddr := dst, numBytes := nBytes } ?_)
      fun _ => ?_
    · intro s hs
      exact congrArg (fun e => { e with numBytes := nBytes }) hs
    refine write_triple .config idmaConfig _ _ ?_
    intro s hs
    exact congrArg (fun e => { e with config := idmaConfig }) hs
  | setupAddr src dst =>
    refine Triple.bind _ (write_triple .srcAddr src d { d with srcAddr := src } ?_) fun _ => ?_
    · rintro s rfl
      rfl
    refine write_triple .destAddr dst _ _ ?_
    intro s hs
    exact congrArg (fun e => { e with destAddr := dst }) hs
  | execTransfer =>
    exact Triple.bind _ (exec_triple d) fun _ => Triple.ret (stable_ready d) (fun _ => atMostOne_ready) fun _ h => h

/-- All calls leave at most one transfer outstanding at every point, by induction over them. -/
theorem all_triple (calls : List IdmaCall) (d : DmaSetup) :
    Triple Dma.world AtMostOne (Ready d) (idmaAll calls) (fun _ => Ready (calls.foldl IdmaCall.setsUp d)) := by
  induction calls generalizing d with
  | nil => exact Triple.ret (stable_ready d) (fun _ => atMostOne_ready) fun _ h => h
  | cons c cs ih => exact Triple.bind _ (run_triple c d) fun _ => ih (c.setsUp d)

end DmaAux

open DmaAux

/-- From an idle device, whatever is called and whenever the device completes a transfer: at no point more than one transfer is
outstanding, and when the calls have returned, a call of `idma_exec_transfer` waits for no id that it can miss, and has done what it
is to do when it returns. -/
theorem idma_request_protocol (calls : List IdmaCall) (s : Dma) (hs : s.Idle) :
    (∀ q t, Run Dma.world (idmaAll calls) s q t → t.outstanding.length ≤ 1) ∧
      ∀ u, Run Dma.world (idmaAll calls) s (.ret ()) u → ∀ q t, Run Dma.world idmaExecTransfer u q t →
        t.outstanding.length ≤ 1 ∧ (∀ r, q = .ret r → Executed (calls.foldl IdmaCall.setsUp s.setup) u t r) ∧
          ∀ i test k, q = .poll i test k → ∃ id, q = (idmaWait id >>= fun _ => pure 0) ∧ Ahead t id := by
  constructor
  · exact fun q t h => (all_triple calls s.setup s q t ⟨hs, rfl⟩ h).1
  · intro u hu q t h
    obtain ⟨hidle, hsetup⟩ := (all_triple calls s.setup s (.ret ()) u ⟨hs, rfl⟩ hu).2 () rfl
    rw [← hsetup]
    refine ⟨exec_atMostOne hidle h, ?_⟩
    rcases exec_run hidle h with ⟨rfl, -⟩ | ⟨rfl, rfl⟩ | ⟨id, hid, ⟨rfl, hw⟩ | ⟨rfl, rfl⟩⟩
    · exact ⟨fun r hr => (nomatch hr), fun i test k hk => (nomatch hk)⟩
    · refine ⟨?_, fun i test k hk => nomatch hk⟩
      intro r hr
      cases hr
      exact ⟨Or.inr rfl, fun h0 => absurd h0 (by decide), fun _ => rfl, outstanding_idle hidle⟩
    · refine ⟨fun r hr => (nomatch hr), ?_⟩
      intro i test k _
      refine ⟨id, rfl, ?_⟩
      rcases outstanding_waiting hidle hw with hlast | ho
      · exact Or.inl hlast
      · exact Or.inr ⟨_, ho, rfl⟩
    · refine ⟨?_, fun i test k hk => nomatch hk⟩
      intro r hr
      cases hr
      exact ⟨Or.inl rfl, fun _ => ⟨id, rfl⟩, fun h1 => absurd h1 (by decide), outstanding_idle (idle_complete hidle id)⟩

/-- Calls before a transfer: one that succeeds, one that the device refuses, and setups before and after them. -/
def DmaAux.callsBefore : List IdmaCall :=
  [.setup 0x1000#64 0x2000#64 8#64, .execTransfer, .setup 0x5000#64 0x6000#64 64#64, .execTransfer, .setupAddr 0x3000#64 0x4000#64]

/-- What is set up after them: the addresses of the last call, and the length of the second one. -/
def DmaAux.setupAfter : DmaSetup := ⟨0x3000#64, 0x4000#64, 64#64, idmaConfig⟩

/-- The device after the calls, of which the first transfer is complete. -/
def DmaAux.deviceAfter : Dma := ⟨setupAfter, 1#64, [⟨⟨0x1000#64, 0x2000#64, 8#64, idmaConfig⟩, 1#64⟩], 1⟩

/-- A run of the calls. The first transfer is complete before it is polled for, and the second one is refused. -/
theorem DmaAux.callsBefore_run : Run Dma.world (idmaAll callsBefore) Dma.boot (.ret ()) deviceAfter :=
  .act () rfl <| .act () rfl <| .act () rfl <| .act () rfl <|
    .act 1#64 (Or.inr ⟨⟨by decide, nofun⟩, rfl⟩) <| .env ⟨_, rfl, rfl⟩ <| .hit 1#64 ⟨rfl, rfl⟩ rfl <|
    .act () rfl <| .act () rfl <| .act () rfl <| .act () rfl <| .act 0#64 (Or.inl ⟨rfl, rfl⟩) <|
    .act () rfl <| .act () rfl <| .refl _ _

/-- A further transfer after them. Until it completes, the driver reads the id of the first one. -/
theorem DmaAux.exec_after : ∃ t, Run Dma.world idmaExecTransfer deviceAfter (.ret 0) t := by
  have hfresh : deviceAfter.Fresh 2#64 := by
    refine ⟨by decide, ?_⟩
    intro l hl
    rw [List.mem_singleton.1 hl]
    decide
  exact ⟨_, .act 2#64 (Or.inr ⟨hfresh, rfl⟩) <| .miss 1#64 ⟨rfl, rfl⟩ rfl <| .env ⟨_, rfl, rfl⟩ <|
    .hit 2#64 ⟨rfl, rfl⟩ rfl <| .refl _ _⟩

/-- The theorem at these calls and the transfer after them, which is one with the latest setup. -/
theorem idma_request_protocol_at :
    ∃ t, Run Dma.world (idmaAll DmaAux.callsBefore) Dma.boot (.ret ()) DmaAux.deviceAfter ∧
      Run Dma.world idmaExecTransfer DmaAux.deviceAfter (.ret 0) t ∧
      Executed DmaAux.setupAfter DmaAux.deviceAfter t 0 := by
  have hidle : Dma.boot.Idle := ⟨rfl, Or.inl rfl⟩
  obtain ⟨t, ht⟩ := DmaAux.exec_after
  have hafter := (idma_request_protocol DmaAux.callsBefore Dma.boot hidle).2 DmaAux.deviceAfter DmaAux.callsBefore_run (.ret 0) t ht
  exact ⟨t, DmaAux.callsBefore_run, ht, hafter.2.1 0 rfl⟩

end RvIommuTests
