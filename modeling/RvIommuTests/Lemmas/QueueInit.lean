import RvIommuTests.Lib.Rely
import RvIommuTests.Lemmas.Queues

/-!
# The initialisation of the queues

What holds of the indices while `rv_iommu_cq_init` and `rv_iommu_fq_init` run: a disabled queue stands still, and an enabled one
whose indices are both zero stays empty.
-/

namespace RvIommuTests

open Bytes Fields Shared QueuesAux

/-- The environment of the initialisation: the IOMMU on both queues. -/
def QueueEnv (s s' : Iommu) : Prop := CqStep s s' ∨ FqStep s s'

namespace QueueInitAux

variable {link : Link} {s s' : Iommu}

/-- A queue's csr says neither enabled nor on. -/
structure Idle (csr : Word32) : Prop where
  enabled : ¬ Enabled csr
  on : ¬ On csr

/-- A csr that is zero is idle. -/
theorem idle_zero : Idle 0#32 := ⟨by decide, by decide⟩

/-- An idle queue stays idle when its on bit is cleared. -/
theorem Idle.off {csr : Word32} (h : Idle csr) : Idle (csr &&& ~~~csrOn) := by
  refine ⟨fun he => h.enabled ?_, fun he => h.on ?_⟩
  · unfold Enabled at he
    rw [BitVec.getLsbD_and, Bool.and_eq_true] at he
    exact he.1
  · unfold On at he
    rw [BitVec.getLsbD_and, Bool.and_eq_true] at he
    exact he.1

/-- The value that the driver writes to a csr enables a queue that was disabled. -/
theorem enables_csrEnable {csr : Word32} (h : ¬ Enabled csr) : enables csr csrEnable = true := by
  unfold Enabled at h
  rw [Bool.not_eq_true] at h
  unfold enables
  rw [h]
  rfl

/-- Whatever a csr held, the queue is enabled after the driver has written to it. -/
theorem enabled_writeCsr (csr : Word32) : Enabled (writeCsr csr csrEnable) := by
  unfold Enabled writeCsr
  rw [BitVec.getLsbD_or]
  have : (csrEnable &&& 3#32).getLsbD 0 = true := by decide
  rw [this, Bool.or_true]

/-- A queue that has turned on passes the test of the loop. -/
theorem poll_on (csr : Word32) : ((csr ||| csrOn) &&& csrOn != 0#32) = true := by
  rw [bne_iff_ne]
  intro h
  have h16 := congrArg (fun x => x.getLsbD 16) h
  simp only [BitVec.getLsbD_and, BitVec.getLsbD_or] at h16
  rw [show csrOn.getLsbD 16 = true by decide] at h16
  simp at h16

/-- The command queue stands still: disabled, at head `c`, nothing fetched. -/
structure CqOff (c : Word32) (s : Iommu) : Prop where
  idle : Idle s.cqcsr
  head : s.cqh = c
  fetched : s.fetched = []

/-- The fault queue stands still: disabled, at tail `f`, nothing recorded. -/
structure FqOff (f : Word32) (s : Iommu) : Prop where
  idle : Idle s.fqcsr
  tail : s.fqt = f
  recording : s.recording = none
  accepted : s.accepted = []

/-- The command queue is empty at index zero, and nothing has been fetched. -/
structure CqEmpty (s : Iommu) : Prop where
  head : s.cqh = 0#32
  tail : s.cqt = 0#32
  fetched : s.fetched = []

/-- Until a fault is recorded the fault queue is empty at index zero. -/
def FqEmpty (s : Iommu) : Prop := s.accepted = [] → s.recording = none ∧ s.fqh = 0#32 ∧ s.fqt = 0#32

/-! ## What the IOMMU cannot change -/

/-- The IOMMU does not touch a command queue that is off. -/
theorem stable_cqOff (c : Word32) : Stable (Iommu.world QueueEnv) (CqOff c) := by
  intro s s' h he
  rcases he with he | he
  · cases he with
    | on he => exact absurd he h.idle.enabled
    | off he => exact ⟨h.idle.off, h.head, h.fetched⟩
    | fetch hon => exact absurd hon h.idle.on
  · cases he <;> exact ⟨h.idle, h.head, h.fetched⟩

/-- The IOMMU does not touch a fault queue that is off. -/
theorem stable_fqOff (f : Word32) : Stable (Iommu.world QueueEnv) (FqOff f) := by
  intro s s' h he
  rcases he with he | he
  · cases he <;> exact ⟨h.idle, h.tail, h.recording, h.accepted⟩
  · cases he with
    | on he => exact absurd he h.idle.enabled
    | off he => exact ⟨h.idle.off, h.tail, h.recording, h.accepted⟩
    | accept _ hon => exact absurd hon h.idle.on
    | discard hon => exact absurd hon h.idle.on
    | write r k hr => exact nomatch h.recording.symm.trans hr
    | publish r hr => exact nomatch h.recording.symm.trans hr

/-- The IOMMU leaves an empty command queue empty: there is nothing to fetch. -/
theorem stable_cqEmpty : Stable (Iommu.world QueueEnv) CqEmpty := by
  intro s s' h he
  rcases he with he | he
  · cases he with
    | on => exact ⟨h.head, h.tail, h.fetched⟩
    | off => exact ⟨h.head, h.tail, h.fetched⟩
    | fetch _ hne => exact absurd (h.head.trans h.tail.symm) hne
  · cases he <;> exact ⟨h.head, h.tail, h.fetched⟩

/-- As long as no record has been accepted, the IOMMU leaves the fault queue empty. -/
theorem stable_fqEmpty : Stable (Iommu.world QueueEnv) FqEmpty := by
  rintro s s' h (he | he) ha
  · cases he <;> exact h ha
  · cases he with
    | on => exact h ha
    | off => exact h ha
    | accept => exact absurd ha (List.append_ne_nil_of_right_ne_nil _ (List.cons_ne_nil _ _))
    | discard => exact h ha
    | write r k hr => exact nomatch (h ha).1.symm.trans hr
    | publish r hr => exact nomatch (h ha).1.symm.trans hr

/-- Once the IOMMU has accepted a record, it has accepted one at every later point. -/
theorem stable_accepted : Stable (Iommu.world QueueEnv) (fun s => s.accepted ≠ []) := by
  intro s s' h he
  rcases he with he | he
  · cases he <;> exact h
  · cases he with
    | accept => exact List.append_ne_nil_of_right_ne_nil _ (List.cons_ne_nil _ _)
    | on => exact h
    | off => exact h
    | discard => exact h
    | write => exact h
    | publish => exact h

/-- The IOMMU does not write `cqb`, so it keeps its value between the accesses of the driver. -/
theorem stable_cqb (v : Word) : Stable (Iommu.world QueueEnv) (fun s => s.cqb = v) := by
  intro s s' h he
  rcases he with he | he <;> cases he <;> exact h

/-- The IOMMU does not write `fqb`, so it keeps its value between the accesses of the driver. -/
theorem stable_fqb (v : Word) : Stable (Iommu.world QueueEnv) (fun s => s.fqb = v) := by
  intro s s' h he
  rcases he with he | he <;> cases he <;> exact h

/-- The IOMMU does not write `cqt`, so it keeps its value between the accesses of the driver. -/
theorem stable_cqt (v : Word32) : Stable (Iommu.world QueueEnv) (fun s => s.cqt = v) := by
  intro s s' h he
  rcases he with he | he <;> cases he <;> exact h

/-- The IOMMU does not write `fqh`, so it keeps its value between the accesses of the driver. -/
theorem stable_fqh (v : Word32) : Stable (Iommu.world QueueEnv) (fun s => s.fqh = v) := by
  intro s s' h he
  rcases he with he | he <;> cases he <;> exact h

/-! ## The two functions on indices that are zero -/

/-- An index that is a multiple of 64 is written as zero. -/
theorem and_63_eq_zero {c : Word32} (hc : c.toNat % 64 = 0) : c &&& 63#32 = 0#32 := by
  apply BitVec.eq_of_toNat_eq
  rw [toNat_and_63, hc]
  rfl

/-- `rv_iommu_cq_init` from a head that is a multiple of 64. -/
theorem cqInit_triple {c f : Word32} (hc : c.toNat % 64 = 0) :
    Triple (Iommu.world QueueEnv) (fun s => s.fetched = []) (fun s => CqOff c s ∧ FqOff f s) (rvIommuCqInit link)
      (fun _ s => CqEmpty s ∧ FqOff f s) := by
  have hoff := (stable_cqOff c).and (stable_fqOff f)
  have hcqb := stable_cqb (qbOf link.commandQueue)
  refine Triple.act (fun _ s => (CqOff c s ∧ FqOff f s) ∧ s.cqb = qbOf link.commandQueue) hoff
    (fun s h => h.1.fetched) ?_ fun _ => ?_
  · rintro s r s' ⟨h1, h2⟩ hsem
    cases hsem
    exact ⟨⟨⟨h1.idle, h1.head, h1.fetched⟩, ⟨h2.idle, h2.tail, h2.recording, h2.accepted⟩⟩, rfl⟩
  refine Triple.act (fun (v : Word32) s => v = c ∧ (CqOff c s ∧ FqOff f s) ∧ s.cqb = qbOf link.commandQueue)
    (hoff.and hcqb) (fun s h => h.1.1.fetched) ?_ fun v => ?_
  · intro s r s' h hsem
    cases hsem
    exact ⟨h.1.1.head, h⟩
  refine Triple.act (fun _ s => (CqOff c s ∧ FqOff f s) ∧ s.cqt = 0#32) ((stable_const _).and (hoff.and hcqb))
    (fun s h => h.2.1.1.fetched) ?_ fun _ => ?_
  · rintro s r s' ⟨rfl, ⟨h1, h2⟩, hb⟩ hsem
    cases hsem
    refine ⟨⟨⟨h1.idle, h1.head, h1.fetched⟩, ⟨h2.idle, h2.tail, h2.recording, h2.accepted⟩⟩, ?_⟩
    show v &&& indexMask s.cqb = 0#32
    rw [hb, indexMask_qbOf, and_63_eq_zero hc]
  refine Triple.act (fun _ s => CqEmpty s ∧ FqOff f s) (hoff.and (stable_cqt 0#32)) (fun s h => h.1.1.fetched) ?_ fun _ => ?_
  · rintro s r s' ⟨⟨h1, h2⟩, ht⟩ hsem
    cases hsem
    refine ⟨⟨?_, ht, h1.fetched⟩, ⟨h2.idle, h2.tail, h2.recording, h2.accepted⟩⟩
    show (if enables s.cqcsr csrEnable then 0#32 else s.cqh) = 0#32
    rw [enables_csrEnable h1.idle.enabled]
    rfl
  have hst := stable_cqEmpty.and (stable_fqOff f)
  refine Triple.poll (fun _ s => CqEmpty s ∧ FqOff f s) hst (fun s h => h.1.fetched) ?_ ?_ fun _ =>
    Triple.ret hst (fun s h => h.1.fetched) fun s h => h
  · intro s r s' h hsem _
    cases hsem
    exact h
  · intro s r s' h hsem _
    cases hsem
    exact h

/-- `rv_iommu_fq_init` from a tail that is a multiple of 64. -/
theorem fqInit_triple {f : Word32} (hf : f.toNat % 64 = 0) :
    Triple (Iommu.world QueueEnv) (fun s => s.fetched = []) (fun s => CqEmpty s ∧ FqOff f s) (rvIommuFqInit link)
      (fun _ s => CqEmpty s ∧ FqEmpty s) := by
  have hoff := stable_cqEmpty.and (stable_fqOff f)
  have hfqb := stable_fqb (qbOf link.faultQueue)
  refine Triple.act (fun _ s => (CqEmpty s ∧ FqOff f s) ∧ s.fqb = qbOf link.faultQueue) hoff
    (fun s h => h.1.fetched) ?_ fun _ => ?_
  · rintro s r s' ⟨h1, h2⟩ hsem
    cases hsem
    exact ⟨⟨⟨h1.head, h1.tail, h1.fetched⟩, ⟨h2.idle, h2.tail, h2.recording, h2.accepted⟩⟩, rfl⟩
  refine Triple.act (fun (v : Word32) s => v = f ∧ (CqEmpty s ∧ FqOff f s) ∧ s.fqb = qbOf link.faultQueue)
    (hoff.and hfqb) (fun s h => h.1.1.fetched) ?_ fun v => ?_
  · intro s r s' h hsem
    cases hsem
    exact ⟨h.1.2.tail, h⟩
  refine Triple.act (fun _ s => (CqEmpty s ∧ FqOff f s) ∧ s.fqh = 0#32) ((stable_const _).and (hoff.and hfqb))
    (fun s h => h.2.1.1.fetched) ?_ fun _ => ?_
  · rintro s r s' ⟨rfl, ⟨h1, h2⟩, hb⟩ hsem
    cases hsem
    refine ⟨⟨⟨h1.head, h1.tail, h1.fetched⟩, ⟨h2.idle, h2.tail, h2.recording, h2.accepted⟩⟩, ?_⟩
    show v &&& indexMask s.fqb = 0#32
    rw [hb, indexMask_qbOf, and_63_eq_zero hf]
  refine Triple.act (fun _ s => CqEmpty s ∧ FqEmpty s) (hoff.and (stable_fqh 0#32)) (fun s h => h.1.1.fetched) ?_ fun _ => ?_
  · rintro s r s' ⟨⟨h1, h2⟩, hh⟩ hsem
    cases hsem
    refine ⟨⟨h1.head, h1.tail, h1.fetched⟩, fun _ => ⟨h2.recording, hh, ?_⟩⟩
    show (if enables s.fqcsr csrEnable then 0#32 else s.fqt) = 0#32
    rw [enables_csrEnable h2.idle.enabled]
    rfl
  have hst := stable_cqEmpty.and stable_fqEmpty
  refine Triple.poll (fun _ s => CqEmpty s ∧ FqEmpty s) hst (fun s h => h.1.fetched) ?_ ?_ fun _ =>
    Triple.ret hst (fun s h => h.1.fetched) fun s h => h
  · intro s r s' h hsem _
    cases hsem
    exact h
  · intro s r s' h hsem _
    cases hsem
    exact h

/-- Once a fault has been recorded, an access that touches neither the command queue nor the records keeps that so. -/
theorem recorded_act {i : Access} {k : i.Answer → Driver (Int × Record)} {Q : Int × Record → Iommu → Prop}
    (hi : ∀ s : Iommu, (s.access i).2.cqh = s.cqh ∧ (s.access i).2.cqt = s.cqt ∧ (s.access i).2.fetched = s.fetched ∧
      (s.access i).2.accepted = s.accepted)
    (hk : ∀ r, Triple (Iommu.world QueueEnv) (fun s => s.fetched = []) (fun s => CqEmpty s ∧ s.accepted ≠ []) (k r) Q) :
    Triple (Iommu.world QueueEnv) (fun s => s.fetched = []) (fun s => CqEmpty s ∧ s.accepted ≠ []) (.act i k) Q := by
  refine Triple.act (fun _ s => CqEmpty s ∧ s.accepted ≠ []) (stable_cqEmpty.and stable_accepted)
    (fun s h => h.1.fetched) ?_ hk
  rintro s r s' ⟨h, ha⟩ hsem
  obtain ⟨h1, h2, h3, h4⟩ := hi s
  rw [show s.access i = (r, s') from hsem] at h1 h2 h3 h4
  exact ⟨⟨h1.trans h.head, h2.trans h.tail, h3.trans h.fetched⟩, by rwa [h4]⟩

/-- A call of `rv_iommu_fq_read_record` after the initialisation returns -1 unless a fault has been recorded. -/
theorem readRecord_empty_triple (buf : Record) :
    Triple (Iommu.world QueueEnv) (fun s => s.fetched = []) (fun s => CqEmpty s ∧ FqEmpty s) (rvIommuFqReadRecord link buf)
      (fun r s => s.accepted = [] → r.1 = -1) := by
  have hst := stable_cqEmpty.and stable_fqEmpty
  have hread : ∀ a b : Word32, Stable (Iommu.world QueueEnv)
      (fun s => (CqEmpty s ∧ FqEmpty s) ∧ (s.accepted = [] → a = b)) := by
    rintro a b s s' ⟨h, hab⟩ he
    refine ⟨hst s s' h he, fun ha => hab ?_⟩
    exact Classical.byContradiction fun hne => stable_accepted s s' hne he ha
  refine Triple.act (fun (a : Word32) s => (CqEmpty s ∧ FqEmpty s) ∧ (s.accepted = [] → a = 0#32)) hst
    (fun s h => h.1.fetched) ?_ fun a => ?_
  · intro s r s' h hsem
    cases hsem
    exact ⟨h, fun ha => (h.2 ha).2.1⟩
  refine Triple.act (fun (b : Word32) s => (CqEmpty s ∧ FqEmpty s) ∧ (s.accepted = [] → a = b)) (hread a 0#32)
    (fun s h => h.1.1.fetched) ?_ fun b => ?_
  · rintro s r s' ⟨h, ha0⟩ hsem
    cases hsem
    exact ⟨h, fun ha => (ha0 ha).trans (h.2 ha).2.2.symm⟩
  show Triple _ _ _ (if a ≠ b then _ else _) _
  by_cases hab : a = b
  · rw [if_neg (not_not_intro hab)]
    exact Triple.ret (hread a b) (fun s h => h.1.1.fetched) fun _ _ _ => rfl
  · rw [if_pos hab]
    -- the indices differ only after a fault has been recorded
    have hgone : ∀ s, ((CqEmpty s ∧ FqEmpty s) ∧ (s.accepted = [] → a = b)) → CqEmpty s ∧ s.accepted ≠ [] :=
      fun s h => ⟨h.1.1, fun ha => hab (h.2 ha)⟩
    refine Triple.conseq ?_ hgone fun r s h => h
    refine recorded_act (fun _ => ⟨rfl, rfl, rfl, rfl⟩) ?_
    intro _
    refine recorded_act (fun _ => ⟨rfl, rfl, rfl, rfl⟩) ?_
    intro _
    refine recorded_act (fun _ => ⟨rfl, rfl, rfl, rfl⟩) ?_
    intro _
    refine recorded_act (fun _ => ⟨rfl, rfl, rfl, rfl⟩) ?_
    intro _
    refine recorded_act (fun _ => ⟨rfl, rfl, rfl, rfl⟩) ?_
    intro _
    exact Triple.ret (stable_cqEmpty.and stable_accepted) (fun s h => h.1.fetched) fun s h ha => absurd ha h.2

/-! ## A run of the two functions in which the queues only turn on -/

/-- From a disabled command queue there is a run of `rv_iommu_cq_init` in which `cqt` becomes the old `cqh`, cut to the bits of an
index, and nothing is fetched. -/
theorem run_cqInit (hs : ¬ Enabled s.cqcsr) :
    ∃ t, Run (Iommu.world QueueEnv) (rvIommuCqInit link) s (.ret ()) t ∧ t.cqh = 0#32 ∧
      t.cqt.toNat = s.cqh.toNat % 64 ∧ t.cqcsr = writeCsr s.cqcsr csrEnable ||| csrOn ∧ t.fqcsr = s.fqcsr ∧
      t.fqt = s.fqt ∧ t.fetched = s.fetched ∧ t.accepted = s.accepted := by
  refine ⟨_, Run.act _ rfl (Run.act _ rfl (Run.act _ rfl (Run.act _ rfl (Run.env (Or.inl (CqStep.on _ ?_))
    (Run.hit _ rfl (poll_on _) (Run.refl _ _)))))), ?_, ?_, rfl, rfl, rfl, rfl, rfl⟩
  · exact enabled_writeCsr s.cqcsr
  · show (if enables s.cqcsr csrEnable then 0#32 else s.cqh) = 0#32
    rw [enables_csrEnable hs]
    rfl
  · show (s.cqh &&& indexMask (qbOf link.commandQueue)).toNat = _
    rw [indexMask_qbOf, toNat_and_63]

/-- From a disabled fault queue there is a run of `rv_iommu_fq_init` in which `fqh` becomes the old `fqt`, cut to the bits of an
index, and nothing is recorded. -/
theorem run_fqInit (hs : ¬ Enabled s.fqcsr) :
    ∃ t, Run (Iommu.world QueueEnv) (rvIommuFqInit link) s (.ret ()) t ∧ t.fqt = 0#32 ∧
      t.fqh.toNat = s.fqt.toNat % 64 ∧ t.cqh = s.cqh ∧ t.cqt = s.cqt ∧ t.cqcsr = s.cqcsr ∧
      t.fetched = s.fetched ∧ t.accepted = s.accepted := by
  refine ⟨_, Run.act _ rfl (Run.act _ rfl (Run.act _ rfl (Run.act _ rfl (Run.env (Or.inr (FqStep.on _ ?_))
    (Run.hit _ rfl (poll_on _) (Run.refl _ _)))))), ?_, ?_, rfl, rfl, rfl, rfl, rfl⟩
  · exact enabled_writeCsr s.fqcsr
  · show (if enables s.fqcsr csrEnable then 0#32 else s.fqt) = 0#32
    rw [enables_csrEnable hs]
    rfl
  · show (s.fqt &&& indexMask (qbOf link.faultQueue)).toNat = _
    rw [indexMask_qbOf, toNat_and_63]

end QueueInitAux

end RvIommuTests
