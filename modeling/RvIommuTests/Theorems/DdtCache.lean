import RvIommuTests.Lemmas.DdtCache

/-!
# The context that a request is translated with

Some tests issue `IODIR.INVAL_DDT` after they have changed the context of the device, some do not. Whether a request can be
translated with a context that is no longer in `root_ddt` depends on the tests that ran before: on whether one of them made the
IOMMU read a context, and on the modes that it left.
-/

namespace RvIommuTests

open Shared

namespace DdtCacheAux

/-! ## The operations of a test -/

namespace Abs

/-- What operations do, when no launch finds another context. -/
def run (a : Abs) : List Op → Abs
  | [] => a
  | o :: os => (a.step o).run os

/-- Operations in sequence, in the abstract state. -/
theorem run_append (a : Abs) (os os' : List Op) : a.run (os ++ os') = (a.run os).run os' := by
  induction os generalizing a with
  | nil => rfl
  | cons o os ih => exact ih _

/-- The current modes after some operations do not depend on what the IOMMU keeps. -/
theorem run_cur (a : Abs) (os : List Op) : (a.run os).cur = a.cur.after os := by
  induction os generalizing a with
  | nil => rfl
  | cons o os ih => cases o <;> exact ih _

end Abs

/-- Operations in sequence are fine when the first part is, and the second from where the first ends. -/
theorem okAll_append (os os' : List Op) (a : Abs) : okAll (os ++ os') a ↔ okAll os a ∧ okAll os' (a.run os) := by
  induction os generalizing a with
  | nil => exact (and_iff_right trivial).symm
  | cons o os ih =>
    simp only [List.cons_append, okAll, ih, Abs.run, and_assoc]

/-- Between launches that follow one another nothing changes, so all of them are fine when the context that is kept is the current
one. -/
theorem okAll_launches (os : List Op) (hos : ∀ o ∈ os, o.launches = true) (a : Abs) (hm : a.mode = .oneLvl) (hc : a.Clean) :
    okAll os a ∧ a.run os = if os = [] then a else { a with held := some a.cur } := by
  induction os generalizing a with
  | nil => exact ⟨trivial, rfl⟩
  | cons o os ih =>
    have hstep : a.step o = { a with held := some a.cur } := by
      rw [a.step_launches (hos o List.mem_cons_self), if_pos hm]
    obtain ⟨hok, hrun⟩ := ih (fun o' ho' => hos o' (List.mem_cons_of_mem _ ho')) (a.step o) (by rw [hstep]; exact hm)
      (by rw [hstep]; exact Or.inr rfl)
    refine ⟨⟨fun _ _ => hc, hok⟩, ?_⟩
    rw [Abs.run, hrun, hstep, if_neg (List.cons_ne_nil o os)]
    split <;> rfl

/-- What tests leave, of which no launch found another context. `used` says whether one of them launched requests in 1LVL mode. -/
def settled (mode : DdtpMode) (cur : DcModes) (used : Bool) : Abs := ⟨mode, cur, if used = true then some cur else none⟩

/-- The IODIR.INVAL_DDT of the tests drops the device context of the DMA device. -/
theorem covers_ddtInval : ((DriverCall.inval (.ddtInval false idmaId)).command ⟨0#64, 0#64⟩).coversDevice did = true := by
  decide

/-- No IOTINVAL that the tests send drops a device context, as that takes an IODIR. -/
theorem covers_iotinval :
    ((DriverCall.inval (.iotinvalVma false true true 0#64 0xABC#64 0xDEF#64)).command ⟨0#64, 0#64⟩).coversDevice did = false ∧
    ((DriverCall.inval (.iotinvalGvma false true 0#64 0xABC#64)).command ⟨0#64, 0#64⟩).coversDevice did = false ∧
    ((DriverCall.inval (.iotinvalVma false false false 0#64 0#64 0#64)).command ⟨0#64, 0#64⟩).coversDevice did = false ∧
    ((DriverCall.inval (.iotinvalGvma false false 0#64 0#64)).command ⟨0#64, 0#64⟩).coversDevice did = false := by decide

/-- No IOFENCE.C drops a device context, whichever of its flags are set. -/
theorem covers_iofenceC (wsi av : Bool) :
    ((DriverCall.iofenceC wsi av).command ⟨0#64, 0#64⟩).coversDevice did = false := by
  cases wsi <;> cases av <;> decide

/-- The illegal command of `rv_iommu_induce_fault_cq` drops no device context. -/
theorem covers_induceFaultCq : (DriverCall.induceFaultCq.command ⟨0#64, 0#64⟩).coversDevice did = false := by decide

/-- The transfers of the latency test. -/
abbrev latencyTransfers (rand : Nat → Nat) : List Op :=
  (List.range nTransfers).map fun i =>
    .transfer (virtPageBase (rand i % nMappings + stressStart)) (virtPageBase (rand i % nMappings + stressStart) + 0x0800#64)

/-- The latency test makes a transfer. -/
theorem latencyTransfers_ne_nil (rand : Nat → Nat) : latencyTransfers rand ≠ [] := by
  rw [ne_eq, List.map_eq_nil_iff]
  decide

/-- The operations of the loop of the latency test are transfers. -/
theorem launches_of_mem {rand : Nat → Nat} {o : Op} (ho : o ∈ latencyTransfers rand) : o.launches = true := by
  obtain ⟨i, _, rfl⟩ := List.mem_map.1 ho
  rfl

/-- The latency test invalidates the contexts before its transfers, which follow one another. -/
theorem latencyTest_settled (rand : Nat → Nat) (mode : DdtpMode) (cur : DcModes) (used : Bool) :
    okAll (Test.latencyTest rand).ops (settled mode cur used) ∧
      (settled mode cur used).run (Test.latencyTest rand).ops = settled .oneLvl (cur.after (Test.latencyTest rand).ops) true := by
  have hcur := (settled mode cur used).run_cur (Test.latencyTest rand).ops
  obtain ⟨hok, hrun⟩ := okAll_launches (latencyTransfers rand) (fun _ => launches_of_mem)
    ⟨.oneLvl, ⟨true, true, cur.msiptp⟩, none⟩ rfl (Or.inl rfl)
  rw [if_neg (latencyTransfers_ne_nil rand)] at hrun
  unfold Test.ops at hcur ⊢
  rw [Abs.run_append] at hcur ⊢
  simp only [okAll_append, okAll, Abs.run, Abs.step, ddtInvalAll, settled, Op.launches, DcModes.set, covers_ddtInval, if_true,
    ite_self] at hcur ⊢
  rw [hrun] at hcur ⊢
  exact ⟨⟨by simp, hok⟩, by rw [← hcur]⟩

/-- A test that runs after others is settled again exactly when it invalidates the contexts, or need not. -/
theorem test_settled (t : Test) (mode : DdtpMode) (cur : DcModes) (used : Bool) :
    (okAll t.ops (settled mode cur used) ↔
      (t.usesDdt = true → t.invalidates = false → used = true → cur.after t.ops = cur)) ∧
    (okAll t.ops (settled mode cur used) →
      ∃ mode', (settled mode cur used).run t.ops = settled mode' (cur.after t.ops) (used || t.usesDdt)) := by
  cases t with
  | latencyTest rand =>
    obtain ⟨hok, hrun⟩ := latencyTest_settled rand mode cur used
    have hinval : (Test.latencyTest rand).invalidates = true := by
      simp [Test.invalidates, Test.ops]
    have huses : (Test.latencyTest rand).usesDdt = true := by
      obtain ⟨o, ho⟩ := List.exists_mem_of_ne_nil _ (latencyTransfers_ne_nil rand)
      have hany : (Test.latencyTest rand).ops.any Op.launches = true :=
        List.any_eq_true.2 ⟨o, List.mem_append_right _ ho, launches_of_mem ho⟩
      unfold Test.usesDdt
      rw [hany, Bool.and_true]
      simp [Test.ops]
    refine ⟨iff_of_true hok fun _ h => absurd hinval (by rw [h]; decide), fun _ => ⟨.oneLvl, ?_⟩⟩
    rw [hrun, huses, Bool.or_true]
  | _ =>
    obtain ⟨i, g, m⟩ := cur
    cases used <;>
    simp [Test.ops, settled, okAll, Abs.run, Abs.step, Abs.Clean, Op.launches, DcModes.after, DcModes.set, Test.usesDdt,
      Test.invalidates, ddtInvalAll, covers_ddtInval, covers_iotinval, covers_iofenceC, covers_induceFaultCq]

/-- Every launch of the tests finds no other context exactly when the tests that need to invalidate the contexts do. -/
theorem suite_ok_iff (ts : List Test) (mode : DdtpMode) (cur : DcModes) (used : Bool) :
    okAll (ts.flatMap Test.ops) (settled mode cur used) ↔ Refreshed cur used ts := by
  induction ts generalizing mode cur used with
  | nil => rfl
  | cons t ts ih =>
    obtain ⟨hok, hrun⟩ := test_settled t mode cur used
    rw [List.flatMap_cons, okAll_append, Refreshed, ← hok]
    refine and_congr_right ?_
    intro h
    obtain ⟨mode', h'⟩ := hrun h
    rw [h', ih]

end DdtCacheAux

/-- Whatever tests run, in whatever order, every request is translated with the context in `root_ddt` in every run exactly when
each test that launches requests in 1LVL mode without `IODIR.INVAL_DDT` runs before all others that launch some, or leaves the
modes as they were. -/
theorem ddt_coherent_iff (link : Link) (ddt : Ddt) (ts : List Test) :
    (∀ q s, Run (DdtSys.world .platform link) (suite ts) (DdtSys.init .platform link ddt) q s → s.Coherent) ↔
      Refreshed .reset false ts :=
  (DdtCacheAux.runOps_coherent_iff _ ddt).trans (DdtCacheAux.suite_ok_iff ts .off .reset false)

/-- When `both_stages_bare` follows `second_stage_only`, its transfers may be translated with the context of the latter. -/
theorem ddt_stale_after_second_stage_only :
    ∃ q s, Run (DdtSys.world .platform .compact) (suite [.secondStageOnly, .bothStagesBare])
      (DdtSys.init .platform .compact fun _ => ⟨0, 0, 0, 0, 0, 0, 0, 0⟩) q s ∧ ¬ s.Coherent := by
  have hstale : ¬ Refreshed .reset false [.secondStageOnly, .bothStagesBare] := by decide
  by_contra h
  push Not at h
  exact hstale ((DdtCacheAux.suite_ok_iff _ .off .reset false).1 ((DdtCacheAux.runOps_coherent_iff _ _).1 h))

end RvIommuTests
