import RvIommuTests.Lemmas.Latency
import RvIommuTests.Theorems.Goto

/-!
# What the latency test prints of the counters

The five counters that `init_iommu` has set up are those that `latency_test` prints. It resets four of them, and one that counts
nothing.
-/

namespace RvIommuTests

open Shared TestAux LatencyAux

namespace LatencyAux

/-- The view of devices on which no transfer is outstanding. -/
def viewOf (s : Counting) : CountView where
  beyond := fun k => s.iohpmctr k - BitVec.ofNat 64 (s.counted k)
  iohpmevt := s.iohpmevt
  iocntinh := s.iocntinh
  printed := s.printed
  counted := s.counted
  waiting := none

theorem viewed_viewOf {s : Counting} (h : s.dma.Idle) : Viewed s (viewOf s) where
  ctr _ := (BitVec.sub_add_cancel _ _).symm
  evt := rfl
  inh := rfl
  printed := rfl
  idle _ := ⟨h, rfl⟩
  waiting _ hid := nomatch hid

/-! ## The counters that count -/

theorem hpmInit_wp {g : CountView} {as : List (String × Bool)} :
    wp countContract.body hpmInit
      (fun _ v => v.1.iocntinh = ~~~cntMask ∧ ∀ c ∈ hpmEvents, v.1.iohpmevt c.1 = c.2.code) (g, as) := by
  have hevt : ∀ (k : Nat) (v : Word) {g : CountView} {Q : Unit → CountView × List (String × Bool) → Prop},
      Q () ({ g with iohpmevt := Function.update g.iohpmevt k v }, as) →
      wp countContract.body (Body.dev (.setCtl64 (.iohpmevt k) v)) Q (g, as) := by
    intro k v g Q hQ
    rw [wp_dev]
    exact ⟨trivial, fun r d hd => hd ▸ hQ⟩
  simp only [hpmInit, wp_bind]
  refine hevt _ _ (hevt _ _ (hevt _ _ (hevt _ _ (hevt _ _ ?_))))
  rw [wp_dev]
  refine ⟨trivial, ?_⟩
  rintro r _ rfl
  simp [hpmEvents, Function.update]

/-- The counters that `CNT_MASK` leaves are the first five. -/
theorem cntMask_inhibits (k : Nat) (hk : k < iommuMaxHpmCounters) : (~~~cntMask).getLsbD (k + 1) = decide (5 ≤ k) := by
  revert k
  decide

/-- An event is told from the others by its code. -/
theorem code_inj (e e' : HpmEvent) : (e.code &&& 0x7FFF#64 == e'.code) = decide (e = e') := by
  cases e <;> cases e' <;> rfl

end LatencyAux

/-- After `init_iommu` each of the counters that are printed counts one kind of event, and no other counter counts any. -/
theorem hpmInit_selects (logLevel : Int) (img : Image) (b b' : Bench Counting) (hidle : b.dev.dma.Idle)
    (hrun : Run (testWorld logLevel img Counting.world) (TestFn.body hpmInit) b (.ret ()) b') (e : HpmEvent) (k : Nat) :
    b'.dev.selects e k = true ↔ (k, e) ∈ hpmEvents := by
  obtain ⟨v, hv, hinh, hevt⟩ := wp_sound (test_keptBy countContract_keptBy (fun _ => True) logLevel img) hrun
    ((wp_embed _ _ hpmInit).2 (@hpmInit_wp _ b.asserted))
    (⟨viewed_viewOf hidle, rfl, fun _ _ => trivial⟩ : Judged Viewed _ b (viewOf b.dev, b.asserted))
  simp only [Counting.selects, Bool.and_eq_true, decide_eq_true_eq, Bool.not_eq_true', hv.dev.inh, hv.dev.evt, hinh]
  constructor
  · rintro ⟨⟨hmax, hk⟩, hcode⟩
    rw [cntMask_inhibits k hmax, decide_eq_false_iff_not] at hk
    obtain ⟨c, hc, rfl⟩ : ∃ c ∈ hpmEvents, c.1 = k := (show ∀ j < 5, ∃ c ∈ hpmEvents, c.1 = j by decide) k (by omega)
    rw [hevt c hc, code_inj, decide_eq_true_eq] at hcode
    exact hcode ▸ hc
  · intro hk
    have hlt : k < 5 := (show ∀ c ∈ hpmEvents, c.1 < 5 by decide) _ hk
    have hmax : k < iommuMaxHpmCounters := Nat.lt_trans hlt (by decide)
    refine ⟨⟨hmax, ?_⟩, ?_⟩
    · rw [cntMask_inhibits k hmax, decide_eq_false_iff_not]
      omega
    · rw [hevt _ hk, code_inj, decide_eq_true_eq]

/-! ## The test -/

namespace LatencyAux

/-- What every run prints: of four counters what they have counted, and of the last one what it held at the call as well. -/
theorem latency_printed {link : TestLink} {logLevel : Int} {img : Image} {b b' : Bench Counting} {v : Option Bool}
    (h : b.dev.Called) (hrun : Run (testWorld logLevel img Counting.world) (latencyTest link) b (.ret v) b') :
    b'.dev.printedCnts =
      latencyCnts.map fun c => (c.1, afterReset b.dev.iohpmctr c.2 + BitVec.ofNat 64 (b'.dev.counted c.2)) := by
  have hbeyond : (viewOf b.dev).beyond = b.dev.iohpmctr := by
    funext k
    simp only [viewOf]
    rw [h.none k, BitVec.sub_zero]
  obtain ⟨g, hv, hwait, hprinted⟩ := returned_of_wp countContract_keptBy (Or.inl rfl) hrun (viewed_viewOf h.idle)
    (latencyTestBody_wp link rfl h.none h.silent)
  rw [hbeyond] at hprinted
  rw [Counting.printedCnts, hv.printed, hprinted, (hv.idle hwait).2]

/-- The five numbers determine what the last counter held at the call, and are determined by it. -/
theorem afterReset_eq_iff {ctr ctr' : Nat → Word} {n n' : Nat → Nat} (h : ∀ c ∈ latencyCnts, n c.2 = n' c.2) :
    (latencyCnts.map fun c => (c.1, afterReset ctr c.2 + BitVec.ofNat 64 (n c.2))) =
      (latencyCnts.map fun c => (c.1, afterReset ctr' c.2 + BitVec.ofNat 64 (n' c.2))) ↔ ctr 4 = ctr' 4 := by
  have heach : ∀ c ∈ latencyCnts, (((c.1, afterReset ctr c.2 + BitVec.ofNat 64 (n c.2)) : String × Word) =
      (c.1, afterReset ctr' c.2 + BitVec.ofNat 64 (n' c.2)) ↔ afterReset ctr c.2 = afterReset ctr' c.2) := by
    intro c hc
    rw [Prod.mk.injEq, h c hc, BitVec.add_left_inj]
    exact and_iff_right rfl
  rw [List.map_inj_left]
  constructor
  · intro hall
    have hmem : (("Second-stage PT walk cnt: %llu\n", 4) : String × Nat) ∈ latencyCnts := by decide
    exact (heach _ hmem).1 (hall _ hmem)
  · intro heq c hc
    rw [heach c hc, afterReset, afterReset, heq]

end LatencyAux

/-- In every run that returns: the five numbers are those of the events counted since the call exactly if `iohpmctr[4]` was zero at
the call. Two runs that have counted the same print the same exactly if they were called with the same `iohpmctr[4]`. -/
theorem latency_counts_iff (link : TestLink) (logLevel : Int) (img : Image) (b b' : Bench Counting) (v : Option Bool)
    (hcalled : b.dev.Called) (hrun : Run (testWorld logLevel img Counting.world) (latencyTest link) b (.ret v) b') :
    (b'.dev.CountsPrinted ↔ b.dev.iohpmctr 4 = 0#64) ∧
      ∀ c c' w, c.dev.Called → Run (testWorld logLevel img Counting.world) (latencyTest link) c (.ret w) c' →
        b'.dev.SameCounts c'.dev → (b'.dev.printedCnts = c'.dev.printedCnts ↔ b.dev.iohpmctr 4 = c.dev.iohpmctr 4) := by
  constructor
  · have hzero : ∀ k, (0#64 : Word) + BitVec.ofNat 64 (b'.dev.counted k) = BitVec.ofNat 64 (b'.dev.counted k) :=
      fun _ => BitVec.zero_add _
    rw [Counting.CountsPrinted, latency_printed hcalled hrun]
    have hiff := @afterReset_eq_iff b.dev.iohpmctr (fun _ => 0#64) b'.dev.counted b'.dev.counted fun _ _ => rfl
    simpa only [afterReset, ite_self, hzero] using hiff
  · intro c c' w hcalled' hrun' hsame
    rw [latency_printed hcalled hrun, latency_printed hcalled' hrun']
    exact afterReset_eq_iff hsame

namespace LatencyAux

/-- The event comes while the transfer is outstanding, and then its completion. -/
theorem step_drift (e : HpmEvent) (i : DevIo) (s : Counting) (r : i.Answer) (s' : Counting)
    (h : Counting.step e i s = some (r, s')) : ∃ s₁, Counting.world.Drift s s₁ ∧ Counting.world.sem i s₁ r s' := by
  cases i with
  | queue i =>
    cases i with
    | writeReg64 reg v => cases h
    | _ =>
      cases h
      exact ⟨s, .refl, rfl⟩
  | idma i =>
    cases i with
    | write64 reg v =>
      cases h
      exact ⟨s, .refl, _, rfl, rfl⟩
    | read64 reg =>
      cases reg with
      | nextTransferId =>
        simp only [Counting.step] at h
        split at h
        · rename_i hfresh
          cases h
          exact ⟨s, .refl, _, Or.inr ⟨hfresh, rfl⟩, rfl⟩
        · cases h
      | lastTransferIdComplete =>
        simp only [Counting.step] at h
        split at h
        · cases h
          exact ⟨s, .refl, s.dma, ⟨rfl, rfl⟩, rfl⟩
        · rename_i l ls ho
          cases h
          have hcount : Counting.world.env s (s.count (s.selects e)) :=
            Or.inr ⟨fun hnil => (nomatch ho.symm.trans hnil), e, _, fun k hk => hk, rfl⟩
          have hdone : Counting.world.env (s.count (s.selects e)) { s.count (s.selects e) with dma := s.dma.complete l } :=
            Or.inl ⟨_, ⟨l, congrArg List.head? ho, rfl⟩, rfl⟩
          exact ⟨_, .tail (.single hcount) hdone, s.dma.complete l, ⟨rfl, rfl⟩, rfl⟩
      | _ => cases h
  | getCtl64 reg =>
    cases reg with
    | iohpmctr k =>
      cases h
      exact ⟨s, .refl, rfl, rfl⟩
    | _ => cases h
  | setCtl64 reg v =>
    cases reg with
    | ddtp =>
      cases h
      exact ⟨s, .refl, rfl⟩
    | iohpmctr k =>
      cases h
      exact ⟨s, .refl, rfl⟩
    | _ => cases h
  | setDc setter =>
    cases h
    exact ⟨s, .refl, rfl⟩
  | cycles =>
    cases h
    exact ⟨s, .refl, rfl⟩
  | srand seed =>
    cases h
    exact ⟨s, .refl, rfl⟩
  | rand =>
    cases h
    exact ⟨s, .refl, rfl⟩
  | stack =>
    cases h
    exact ⟨s, .refl, rfl⟩
  | printf text v =>
    cases h
    exact ⟨s, .refl, rfl⟩
  | _ => cases h

/-- The harness and the hart at the first test, and counters that `init_iommu` has set up. All are zero but the last one. -/
def staleBench : Bench Counting where
  dev :=
    { dma := Dma.boot
      iohpmctr := fun k => if k = 4 then 5#64 else 0#64
      iohpmevt := fun k => ((hpmEvents.find? fun c => c.1 == k).map fun c => c.2.code).getD 0#64
      iocntinh := ~~~cntMask
      printed := []
      counted := fun _ => 0 }
  harness := Harness.boot
  status := false
  sys := Sys.boot
  asserted := []

/-- A run in which every transfer makes a second-stage walk. -/
theorem latencyTest_exec :
    ((latencyTest TestLink.compact).exec (testStep logInfo Image.plain (Counting.step .s2Ptw)) staleBench).map (fun x =>
      decide (x.2.dev.counted 4 = 200 ∧ ("Second-stage PT walk cnt: %llu\n", 205#64) ∈ x.2.dev.printedCnts ∧
        ¬ x.2.dev.CountsPrinted)) = some true := by
  decide +kernel

end LatencyAux

/-- The theorem at a run whose 200 transfers make a second-stage walk each. -/
theorem latency_counts_at :
    ∃ v b', Run (testWorld logInfo Image.plain Counting.world) (latencyTest TestLink.compact) staleBench (.ret v) b' ∧
      (b'.dev.CountsPrinted ↔ staleBench.dev.iohpmctr 4 = 0#64) := by
  obtain ⟨⟨v, b'⟩, hx, -⟩ := Option.map_eq_some_iff.1 latencyTest_exec
  have hr := Run.of_exec_drift (testStep_drift (step_drift .s2Ptw) logInfo Image.plain) hx
  exact ⟨v, b', hr, (latency_counts_iff TestLink.compact logInfo Image.plain _ b' v
    ⟨⟨rfl, Or.inl rfl⟩, fun _ => rfl, rfl⟩ hr).1⟩

/-- The last counter holds 5 at the call. The 200 transfers make 200 second-stage walks, and the test prints that there were 205. -/
theorem latency_prints_too_many :
    ∃ v b', Run (testWorld logInfo Image.plain Counting.world) (latencyTest TestLink.compact) staleBench (.ret v) b' ∧
      b'.dev.counted 4 = 200 ∧ ("Second-stage PT walk cnt: %llu\n", 205#64) ∈ b'.dev.printedCnts ∧ ¬ b'.dev.CountsPrinted := by
  obtain ⟨⟨v, b'⟩, hx, hd⟩ := Option.map_eq_some_iff.1 latencyTest_exec
  exact ⟨v, b', Run.of_exec_drift (testStep_drift (step_drift .s2Ptw) logInfo Image.plain) hx, of_decide_eq_true hd⟩

end RvIommuTests
