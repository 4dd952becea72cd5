import RvIommuTests.Lemmas.FaultQueue

/-!
# The fault queue is read back without loss

The IOMMU as the producer and the driver as the consumer of the ring of 64 records, in any interleaving of their accesses.
-/

namespace RvIommuTests

open Bytes Fields Shared FaultQueueAux

/-- The fault queue before the first call: programmed at its placement, on, empty at some index, and nothing accepted yet. -/
structure FqReady (link : Link) (s : Iommu) : Prop where
  placed : Placed link.faultQueue
  programmed : s.fqb = qbOf link.faultQueue
  on : On s.fqcsr
  empty : s.fqh = s.fqt
  index : s.fqh.toNat < nEntries
  recording : s.recording = none
  accepted : s.accepted = []

/-- Along every run, whatever the order of the calls' accesses, of the IOMMU's steps and of everything else: when calls have
returned, the buffers returned with status 0, then the records in the ring from the head to the tail, then the one the IOMMU is
writing, are the accepted records, in order, each once and whole. And from any state so reached a further call returns 0 or -1;
if it returns -1, the queue was empty both when the call read the head and when it read the tail, the buffer is as it was, and
nothing but the environment has moved, so the call has changed neither the memory nor the head. -/
theorem fault_queue_reader (link : Link) (s : Iommu) (hs : FqReady link s) (bufs : List Record) (rs : List (Int × Record))
    (t : Iommu) (hr : Run (Iommu.world (FqEnv link)) (readAll link bufs) s (.ret rs) t) :
    (∃ pending, Ring.Holds nEntries t.record t.fqh.toNat t.fqt.toNat pending ∧
      returned rs ++ pending ++ t.inFlight = t.accepted) ∧
    (∀ buf r u, Run (Iommu.world (FqEnv link)) (rvIommuFqReadRecord link buf) t (.ret r) u →
      (r.1 = 0 ∨ r.1 = -1) ∧ (r.1 = -1 → r.2 = buf ∧ SawEmpty link t u ∧ u.fqh = t.fqh)) := by
  have hstart : FqAt link [] s := by
    refine ⟨[], hs.programmed, ?_, ?_, ?_, ?_⟩
    · rw [← hs.empty]
      exact Ring.holds_nil _ hs.index
    · unfold Iommu.inFlight
      rw [hs.recording, hs.accepted]
      rfl
    · intro r k hk
      rw [hs.recording] at hk
      cases hk
    · intro r k hk
      rw [hs.recording] at hk
      cases hk
  have hret := (readAll_triple hs.placed (fun _ _ _ => trivial) bufs s _ t hstart hr).2 rs rfl
  obtain ⟨pending, hinv⟩ := hret
  refine ⟨⟨pending, hinv.holds, ?_⟩, ?_⟩
  · rw [← hinv.accepted, List.nil_append]
  · intro buf r u hcall
    have hpost := (readRecord_triple hs.placed (fun _ _ _ => trivial) t buf t _ u ⟨⟨pending, hinv⟩, .refl⟩ hcall).2 r rfl
    rcases hpost.2 with h0 | ⟨rfl, hsaw⟩
    · refine ⟨Or.inl h0, ?_⟩
      intro h
      rw [h0] at h
      cases h
    · obtain ⟨s₁, s₂, hd₁, hd₂, hd₃, he⟩ := hsaw
      have hhead : u.fqh = t.fqh := (stable_fqh t.fqh).drift rfl ((hd₁.trans hd₂).trans hd₃)
      exact ⟨Or.inr rfl, fun _ => ⟨rfl, ⟨s₁, s₂, hd₁, hd₂, hd₃, he⟩, hhead⟩⟩

/-- A queue that has been emptied at any index is ready for records. -/
theorem fqReady_emptyAt {i : Word32} (hi : i.toNat < nEntries) : FqReady Link.compact (Iommu.emptyAt Link.compact i) where
  placed := ⟨by decide, by decide⟩
  programmed := rfl
  on := (by decide : On (csrEnable ||| csrOn))
  empty := rfl
  index := hi
  recording := rfl
  accepted := rfl

namespace FaultQueueAux

/-- The IOMMU once it has put another record in the queue. -/
def recorded (s : Iommu) (r : Record) : Iommu :=
  let mem := store s.mem 8 (s.recordAddr s.fqt.toNat 0) r.dw0
  let mem := store mem 8 (s.recordAddr s.fqt.toNat 1) r.dw1
  let mem := store mem 8 (s.recordAddr s.fqt.toNat 2) r.dw2
  let mem := store mem 8 (s.recordAddr s.fqt.toNat 3) r.dw3
  { s with mem := mem, fqt := (s.fqt + 1#32) &&& indexMask s.fqb, accepted := s.accepted ++ [r], recording := none }

/-- It gets there by accepting the record, writing its four doublewords and moving the tail. -/
theorem drift_recorded {link : Link} {s : Iommu} (r : Record) (hon : On s.fqcsr) (hn : s.recording = none) (hfull : ¬ s.Full) :
    (Iommu.world (FqEnv link)).Drift s (recorded s r) :=
  .head (.inl (.accept s r hon hn hfull)) <| .head (.inl (.write _ r 0 rfl (by decide))) <|
    .head (.inl (.write _ r 1 rfl (by decide))) <| .head (.inl (.write _ r 2 rfl (by decide))) <|
    .head (.inl (.write _ r 3 rfl (by decide))) <| .head (.inl (.publish _ r rfl)) .refl

/-- A run of three calls from index 62. Two records are in the queue when the first call begins. The IOMMU accepts a third one when
that call has read the head, and writes it while the call reads its own record: first a half, then the rest, and it moves the tail
only when the call has moved the head. The second call moves the head from the last entry back to the first. -/
theorem wrapping_run :
    ∃ rs t, Run (Iommu.world (FqEnv Link.compact)) (readAll Link.compact [⟨0, 0, 0, 0⟩, ⟨0, 0, 0, 0⟩, ⟨0, 0, 0, 0⟩])
        (Iommu.emptyAt Link.compact 62#32) (.ret rs) t ∧
      (∃ x y z, returned rs = [x, y, z]) ∧ t.accepted = [⟨1, 2, 3, 4⟩, ⟨5, 6, 7, 8⟩, ⟨9, 10, 11, 12⟩] ∧
      t.fqh = 1#32 ∧ t.fqt = 1#32 := by
  have hon : On (csrEnable ||| csrOn) := by decide
  exact ⟨_, _, .drift (drift_recorded ⟨1, 2, 3, 4⟩ hon rfl (by decide)) <|
    .drift (drift_recorded ⟨5, 6, 7, 8⟩ hon rfl (by decide)) <|
    .act _ rfl <| .env (.inl (.accept _ ⟨9, 10, 11, 12⟩ hon rfl (by decide))) <| .act _ rfl <| .act _ rfl <|
    .env (.inl (.write _ _ 0 rfl (by decide))) <| .env (.inl (.write _ _ 1 rfl (by decide))) <| .act _ rfl <| .act _ rfl <|
    .env (.inl (.write _ _ 2 rfl (by decide))) <| .act _ rfl <| .env (.inl (.write _ _ 3 rfl (by decide))) <| .act _ rfl <|
    .env (.inl (.publish _ _ rfl)) <|
    .act _ rfl <| .act _ rfl <| .act _ rfl <| .act _ rfl <| .act _ rfl <| .act _ rfl <| .act _ rfl <|
    .act _ rfl <| .act _ rfl <| .act _ rfl <| .act _ rfl <| .act _ rfl <| .act _ rfl <| .act _ rfl <| .refl _ _,
    ⟨_, _, _, rfl⟩, rfl, rfl, rfl⟩

end FaultQueueAux

/-- The theorem at that run: the three calls have returned the three records, whole and in order. A further call finds the queue
empty, and leaves its buffer and the head alone. -/
theorem fault_queue_reader_at_wrap :
    ∃ rs t u, Run (Iommu.world (FqEnv Link.compact)) (readAll Link.compact [⟨0, 0, 0, 0⟩, ⟨0, 0, 0, 0⟩, ⟨0, 0, 0, 0⟩])
        (Iommu.emptyAt Link.compact 62#32) (.ret rs) t ∧
      returned rs = [⟨1, 2, 3, 4⟩, ⟨5, 6, 7, 8⟩, ⟨9, 10, 11, 12⟩] ∧
      Run (Iommu.world (FqEnv Link.compact)) (rvIommuFqReadRecord Link.compact ⟨1, 1, 1, 1⟩) t (.ret (-1, ⟨1, 1, 1, 1⟩)) u ∧
      SawEmpty Link.compact t u ∧ u.fqh = 1#32 := by
  obtain ⟨rs, t, hr, ⟨x, y, z, hx⟩, ht, hh, hl⟩ := FaultQueueAux.wrapping_run
  have hempty : Run (Iommu.world (FqEnv Link.compact)) (rvIommuFqReadRecord Link.compact ⟨1, 1, 1, 1⟩) t
      (.ret (-1, ⟨1, 1, 1, 1⟩)) t := by
    refine .act _ rfl (.act _ rfl ?_)
    rw [Iommu.reg32, Iommu.reg32, hh, hl]
    exact .refl _ _
  obtain ⟨⟨pending, -, heq⟩, hcall⟩ := fault_queue_reader Link.compact _ (fqReady_emptyAt (by decide)) _ rs t hr
  obtain ⟨-, hminus⟩ := hcall _ _ _ hempty
  obtain ⟨-, hsaw, hhead⟩ := hminus rfl
  rw [hx, ht, List.append_assoc, List.cons_append, List.cons_append, List.cons_append, List.nil_append] at heq
  injection heq with h1 heq
  injection heq with h2 heq
  injection heq with h3 _
  exact ⟨rs, t, t, hr, by rw [hx, h1, h2, h3], hempty, hsaw, hhead.trans hh⟩

end RvIommuTests
