import RvIommuTests.Lemmas.CommandQueue

/-!
# The command queue is a lossless FIFO queue

The driver as the producer and the IOMMU as the consumer of the ring of 64 entries, in any interleaving of their accesses.
-/

namespace RvIommuTests

open Bytes Fields Shared CommandQueueAux

/-- The command queue before the first call: programmed at its placement, on, empty at some index, and nothing fetched yet. -/
structure CqReady (link : Link) (s : Iommu) : Prop where
  placed : Placed link.commandQueue
  programmed : s.cqb = qbOf link.commandQueue
  on : On s.cqcsr
  empty : s.cqh = s.cqt
  index : s.cqh.toNat < nEntries
  fetched : s.fetched = []

/-- Along every run in which the driver moves the tail only while at most 62 commands are not fetched, whatever the order of the
calls' accesses, of the IOMMU's fetches and of everything else: the commands fetched are a prefix of those issued, those
issued and not fetched yet are intact in the ring from the head to the tail, and the indices are equal only when none is left.
So once the calls have returned and the IOMMU has drained the queue, exactly the issued commands have been fetched, in order.
The driver never reads the head, so nothing but the callers keeps the queue from filling up. -/
theorem command_queue_fifo (link : Link) (s : Iommu) (hs : CqReady link s) (calls : List (Command × DriverCall))
    (q : Driver Unit) (t : Iommu) (hr : Run ((Iommu.world (CqEnv link)).restrict Room) (issueAll link calls) s q t) :
    t.fetched <+: commandsOf calls ∧
    (∃ pending, Ring.Holds nEntries t.command t.cqh.toNat t.cqt.toNat pending ∧
      t.fetched ++ pending <+: commandsOf calls ∧ (t.cqh = t.cqt ↔ pending = []) ∧
      (q = .ret () → t.fetched ++ pending = commandsOf calls)) ∧
    (q = .ret () → t.cqh = t.cqt → t.fetched = commandsOf calls) := by
  have hstart : ∃ pending, CqInv link [] pending s := by
    refine ⟨[], hs.programmed, ?_, by rw [hs.fetched, List.append_nil]⟩
    rw [← hs.empty]
    exact Ring.holds_nil _ hs.index
  -- at every point of the run the ring holds what follows the fetched commands in a prefix of the issued ones
  obtain ⟨⟨n, pending, hinv⟩, hret⟩ :=
    issueAll_triple hs.placed (P := fun s => ∃ n pending, CqInv link ([] ++ (commandsOf calls).take n) pending s) calls
      (fun n s pending h => ⟨n, pending, h⟩) s q t hstart hr
  have hzero : ∀ pending', CqInv link ([] ++ commandsOf calls) pending' t → t.cqh = t.cqt →
      t.fetched = commandsOf calls := by
    intro pending' h he
    have hnil := h.holds.head_eq_tail_iff.1 (congrArg BitVec.toNat he)
    have := h.issued
    rwa [hnil, List.append_nil, List.nil_append] at this
  have hpre : t.fetched ++ pending <+: commandsOf calls := by
    rw [hinv.issued, List.nil_append]
    exact List.take_prefix n _
  refine ⟨(List.prefix_append _ _).trans hpre, ⟨pending, hinv.holds, hpre, ?_, ?_⟩, ?_⟩
  · rw [← hinv.holds.head_eq_tail_iff, BitVec.toNat_inj]
  · intro hq
    obtain ⟨pending', h⟩ := hret () hq
    have hlen : pending'.length = pending.length := (unfetched_eq h).symm.trans (unfetched_eq hinv)
    have h1 := h.issued
    rw [List.nil_append] at h1
    rw [← h1] at hpre
    have hp := List.prefix_append_right_inj t.fetched |>.1 hpre
    rw [hp.eq_of_length hlen.symm]
    exact h1
  · intro hq he
    obtain ⟨pending', h⟩ := hret () hq
    exact hzero pending' h he

/-- A queue that has been emptied at any index is ready for commands. -/
theorem cqReady_emptyAt {i : Word32} (hi : i.toNat < nEntries) : CqReady Link.compact (Iommu.emptyAt Link.compact i) where
  placed := ⟨by decide, by decide⟩
  programmed := rfl
  on := (by decide : On (csrEnable ||| csrOn))
  empty := rfl
  index := hi
  fetched := rfl

/-- Calls of three of the functions, the second on a stack that still holds another command. -/
def CommandQueueAux.threeCalls : List (Command × DriverCall) :=
  [(⟨0, 0⟩, .inval (.ddtInval true 1)), (⟨0, 7⟩, .iofenceC true false), (⟨0, 0⟩, .induceFaultCq)]

/-- A run of the three calls from index 62, so that the second one moves the tail from the last entry back to the first. The IOMMU
fetches between their accesses: the first command when the second call has read the tail, the second one when the third call has
written the first half of its entry, and the last one when all have returned. -/
theorem CommandQueueAux.wrapping_run :
    ∃ t, Run (roomyWorld Link.compact) (issueAll Link.compact threeCalls) (Iommu.emptyAt Link.compact 62#32) (.ret ()) t ∧
      t.cqh = t.cqt ∧ t.cqt = 1#32 := by
  have hon : On (csrEnable ||| csrOn) := by decide
  exact ⟨_, .act _ ⟨trivial, rfl⟩ <| .act _ ⟨trivial, rfl⟩ <| .act _ ⟨trivial, rfl⟩ <| .act _ ⟨(by decide : 0 + 1 < 64), rfl⟩ <|
    .act _ ⟨trivial, rfl⟩ <| .env (.inl (.fetch _ hon (by decide : (62#32 : Word32) ≠ 63#32))) <|
    .act _ ⟨trivial, rfl⟩ <| .act _ ⟨trivial, rfl⟩ <| .act _ ⟨(by decide : 0 + 1 < 64), rfl⟩ <|
    .act _ ⟨trivial, rfl⟩ <| .act _ ⟨trivial, rfl⟩ <| .env (.inl (.fetch _ hon (by decide : (63#32 : Word32) ≠ 0#32))) <|
    .act _ ⟨trivial, rfl⟩ <| .act _ ⟨(by decide : 0 + 1 < 64), rfl⟩ <|
    .env (.inl (.fetch _ hon (by decide : (0#32 : Word32) ≠ 1#32))) <| .refl _ _, rfl, rfl⟩

/-- The theorem at that run: the IOMMU has fetched the three commands in the order of the calls. -/
theorem command_queue_fifo_at_wrap :
    ∃ t, Run ((Iommu.world (CqEnv Link.compact)).restrict Room) (issueAll Link.compact CommandQueueAux.threeCalls)
        (Iommu.emptyAt Link.compact 62#32) (.ret ()) t ∧
      t.cqt = 1#32 ∧ t.fetched = commandsOf CommandQueueAux.threeCalls := by
  obtain ⟨t, hr, he, ht⟩ := CommandQueueAux.wrapping_run
  have hready : CqReady Link.compact (Iommu.emptyAt Link.compact 62#32) := cqReady_emptyAt (by decide)
  exact ⟨t, hr, ht, (command_queue_fifo Link.compact _ hready CommandQueueAux.threeCalls (.ret ()) t hr).2.2 rfl he⟩

/-- Without the restriction commands are lost: after 64 calls in which the IOMMU fetches nothing the tail is back at the head,
so the full queue reads as empty and none of the commands will ever be fetched. -/
theorem command_queue_overflow :
    ∃ t, CqReady Link.compact (Iommu.cold Link.compact) ∧
      Run (Iommu.world (CqEnv Link.compact)) (issueAll Link.compact (List.replicate 64 (⟨0, 0⟩, .induceFaultCq)))
        (Iommu.cold Link.compact) (.ret ()) t ∧
      t.cqh = t.cqt ∧ t.fetched ≠ commandsOf (List.replicate 64 (⟨0, 0⟩, .induceFaultCq)) := by
  obtain ⟨t, hr, hh, hf, ht⟩ := @run_issueAll Link.compact (Iommu.cold Link.compact) (CqEnv Link.compact)
    (List.replicate 64 (⟨0, 0⟩, .induceFaultCq)) rfl (by decide)
  refine ⟨t, @cqReady_emptyAt 0#32 (by decide), hr, ?_, ?_⟩
  · rw [hh]
    apply BitVec.eq_of_toNat_eq
    rw [ht]
    rfl
  · rw [hf]
    exact fun h => nomatch h

end RvIommuTests
