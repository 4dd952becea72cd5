import RvIommuTests.Lemmas.QueueInit

/-!
# The queues after the initialisation

When `rv_iommu_cq_init` and `rv_iommu_fq_init` leave both queues empty, whatever the indices were before.
-/

namespace RvIommuTests

open Bytes Fields Shared QueueInitAux

/-- The queues as `init_iommu` sets them up. -/
def initQueues (link : Link) : Driver Unit := do
  rvIommuCqInit link
  rvIommuFqInit link

/-- Both queues are disabled, nothing is being recorded, and the histories start here. -/
structure QueuesOff (s : Iommu) : Prop where
  cq : Idle s.cqcsr
  fq : Idle s.fqcsr
  recording : s.recording = none
  fetched : s.fetched = []
  accepted : s.accepted = []

/-- Whatever the IOMMU does meanwhile, the initialisation leaves both queues empty: no command is fetched while it runs or after
it has returned, the indices are equal when it returns (those of the fault queue unless a fault has been recorded by then), and a
call of `rv_iommu_fq_read_record` after it returns -1 unless a fault has been recorded by then. -/
def YieldsEmpty (link : Link) (s : Iommu) : Prop :=
  (∀ q t, Run (Iommu.world QueueEnv) (initQueues link) s q t → t.fetched = []) ∧
  (∀ t, Run (Iommu.world QueueEnv) (initQueues link) s (.ret ()) t →
    (t.cqh = t.cqt ∧ (t.accepted = [] → t.fqh = t.fqt)) ∧
    (∀ buf q u, Run (Iommu.world QueueEnv) (rvIommuFqReadRecord link buf) t q u →
      u.fetched = [] ∧ ∀ r, q = .ret r → u.accepted = [] → r.1 = -1))

/-- The initialisation yields empty queues exactly when the head of the command queue and the tail of the fault queue were
multiples of the size of the queues: the driver copies them to the other index before it enables the queue, and enabling the
queue then resets them to zero but not the copy. -/
theorem queue_init_empty_iff (link : Link) (s : Iommu) (hs : QueuesOff s) :
    YieldsEmpty link s ↔ s.cqh.toNat % nEntries = 0 ∧ s.fqt.toNat % nEntries = 0 := by
  constructor
  · intro h
    obtain ⟨t₁, hr₁, hh, ht, -, hfq, hft, -, ha₁⟩ := @run_cqInit link s hs.cq.enabled
    have hfq' : ¬ Enabled t₁.fqcsr := by
      rw [hfq]
      exact hs.fq.enabled
    obtain ⟨t, hr, htl, hfh, hh', ht', -, -, ha⟩ := @run_fqInit link t₁ hfq'
    obtain ⟨⟨hc, hf⟩, -⟩ := h.2 t ((hr₁.bind _).trans hr)
    constructor
    · rw [hh', ht', hh] at hc
      unfold nEntries
      rw [← ht, ← hc]
      rfl
    · have := hf (by rw [ha, ha₁, hs.accepted])
      unfold nEntries
      rw [← hft, ← hfh, this, htl]
      rfl
  · rintro ⟨hc, hf⟩
    have hinit : Triple (Iommu.world QueueEnv) (fun s => s.fetched = []) (fun t => CqOff s.cqh t ∧ FqOff s.fqt t)
        (initQueues link) (fun _ t => CqEmpty t ∧ FqEmpty t) :=
      Triple.bind _ (cqInit_triple hc) fun _ => fqInit_triple hf
    have hstart : CqOff s.cqh s ∧ FqOff s.fqt s :=
      ⟨⟨hs.cq, rfl, hs.fetched⟩, ⟨hs.fq, rfl, hs.recording, hs.accepted⟩⟩
    refine ⟨fun q t hr => (hinit s q t hstart hr).1, ?_⟩
    intro t hr
    have ht := (hinit s _ t hstart hr).2 () rfl
    refine ⟨⟨ht.1.head.trans ht.1.tail.symm, fun ha => (ht.2 ha).2.1.trans (ht.2 ha).2.2.symm⟩, ?_⟩
    intro buf q u hru
    exact readRecord_empty_triple buf t q u ht hru

/-- A warm start: the IOMMU after a cold start with both queues disabled again, at a head and a tail that are left over. -/
def Iommu.warm (cqh fqt : Word32) : Iommu :=
  { Iommu.cold Link.compact with
    cqh := cqh, cqt := cqh, cqcsr := 0#32, fqh := fqt, fqt := fqt, fqcsr := 0#32 }

theorem queuesOff_warm (cqh fqt : Word32) : QueuesOff (Iommu.warm cqh fqt) where
  cq := idle_zero
  fq := idle_zero
  recording := rfl
  fetched := rfl
  accepted := rfl

/-- The theorem at a start from indices zero, and at one from indices that are left over. -/
theorem queue_init_empty_iff_at :
    YieldsEmpty Link.compact (Iommu.warm 0#32 64#32) ∧ ¬ YieldsEmpty Link.compact (Iommu.warm 5#32 0#32) :=
  ⟨(queue_init_empty_iff Link.compact _ (queuesOff_warm _ _)).2 (by decide),
    fun h => absurd ((queue_init_empty_iff Link.compact _ (queuesOff_warm _ _)).1 h) (by decide)⟩

/-- After a warm start with five commands fetched before, the initialisation returns with the head at zero and the tail at five,
and the IOMMU executes a stale command. -/
theorem queue_init_stale :
    QueuesOff (Iommu.warm 5#32 0#32) ∧ ∃ t u,
      Run (Iommu.world QueueEnv) (initQueues Link.compact) (Iommu.warm 5#32 0#32) (.ret ()) t ∧ t.cqh ≠ t.cqt ∧
      (Iommu.world QueueEnv).Drift t u ∧ u.fetched ≠ [] := by
  obtain ⟨t₁, hr₁, hh, ht, hon, hfq, -, -, -⟩ := @run_cqInit Link.compact (Iommu.warm 5#32 0#32) (by decide)
  have hfq' : ¬ Enabled t₁.fqcsr := by
    rw [hfq]
    decide
  obtain ⟨t, hr, -, -, hh', ht', hcs, -, -⟩ := @run_fqInit Link.compact t₁ hfq'
  have hne : t.cqh ≠ t.cqt := by
    intro h
    rw [hh', ht', hh] at h
    rw [← h] at ht
    exact absurd ht (by decide)
  have hon' : On t.cqcsr := by
    rw [hcs, hon]
    decide
  refine ⟨queuesOff_warm _ _, t, _, (hr₁.bind _).trans hr, hne,
    Relation.ReflTransGen.single (Or.inl (CqStep.fetch t hon' hne)), ?_⟩
  exact List.append_ne_nil_of_right_ne_nil _ (List.cons_ne_nil _ _)

end RvIommuTests
