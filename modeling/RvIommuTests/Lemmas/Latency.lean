import RvIommuTests.Latency
import RvIommuTests.Lemmas.TestContracts
import RvIommuTests.Theorems.DmaDevice

/-!
# The latency test on its counters

The view of the devices splits every counter into what it has counted and the rest, which no event changes. While a transfer is
outstanding the counts are not known, so the test may touch the counters only when none is.
-/

namespace RvIommuTests

open Shared TestAux

/-- What the test knows of the devices. -/
structure CountView where
  /-- What a counter holds beyond what it has counted. -/
  beyond : Nat → Word
  iohpmevt : Nat → Word
  iocntinh : Word32
  printed : List (String × Word)
  /-- What each counter has counted, when no transfer is outstanding. -/
  counted : Nat → Nat
  /-- The id that the test waits for. -/
  waiting : Option Word

namespace LatencyAux

/-- The contract of the devices. -/
def countContract : Contract DevIo DevIo.Answer CountView where
  pre
    | .idma (.write64 _ _), g => g.waiting = none
    | .idma (.read64 .nextTransferId), g => g.waiting = none
    | .getCtl64 (.iohpmctr _), g => g.waiting = none
    | .setCtl64 (.iohpmctr _) _, g => g.waiting = none
    | _, _ => True
  post
    | .idma (.read64 .nextTransferId), g, r, g' => (r = 0#64 ∧ g' = g) ∨ (r ≠ 0#64 ∧ g' = { g with waiting := some r })
    | .idma (.read64 .lastTransferIdComplete), g, r, g' =>
      (g.waiting = some r → ∃ c, g' = { g with counted := c, waiting := none }) ∧ (g.waiting ≠ some r → g' = g)
    | .getCtl64 (.iohpmctr k), g, r, g' => r = g.beyond k + BitVec.ofNat 64 (g.counted k) ∧ g' = g
    | .setCtl64 (.iohpmctr k) v, g, _, g' =>
      g' = { g with beyond := Function.update g.beyond k (v - BitVec.ofNat 64 (g.counted k)) }
    | .setCtl64 (.iohpmevt k) v, g, _, g' => g' = { g with iohpmevt := Function.update g.iohpmevt k v }
    | .setCtl32 .iocntinh v, g, _, g' => g' = { g with iocntinh := v }
    | .printf text v, g, _, g' => g' = { g with printed := g.printed ++ [(text, v)] }
    | _, g, _, g' => g' = g

/-- The devices are as the view says. -/
structure Viewed (s : Counting) (g : CountView) : Prop where
  ctr : ∀ k, s.iohpmctr k = g.beyond k + BitVec.ofNat 64 (s.counted k)
  evt : s.iohpmevt = g.iohpmevt
  inh : s.iocntinh = g.iocntinh
  printed : s.printed = g.printed
  idle : g.waiting = none → s.dma.Idle ∧ s.counted = g.counted
  waiting : ∀ id, g.waiting = some id → ∃ d : Dma, d.Idle ∧ d.Fresh id ∧ DmaAux.Waiting d id s.dma

/-! ## The devices keep the contract -/

/-- An event leaves the rest of every counter as it is. -/
theorem count_ctr {s : Counting} {beyond : Nat → Word} (h : ∀ k, s.iohpmctr k = beyond k + BitVec.ofNat 64 (s.counted k))
    (hits : Nat → Bool) (k : Nat) : (s.count hits).iohpmctr k = beyond k + BitVec.ofNat 64 ((s.count hits).counted k) := by
  simp only [Counting.count]
  split
  · rw [h k, BitVec.ofNat_add, BitVec.add_assoc]
  · exact h k

/-- The rest of a counter that is written makes up for what it has counted. -/
theorem update_ctr {s : Counting} {beyond : Nat → Word} (h : ∀ k, s.iohpmctr k = beyond k + BitVec.ofNat 64 (s.counted k))
    (k : Nat) (v : Word) (j : Nat) : Function.update s.iohpmctr k v j =
      Function.update beyond k (v - BitVec.ofNat 64 (s.counted k)) j + BitVec.ofNat 64 (s.counted j) := by
  by_cases hj : j = k
  · subst hj
    rw [Function.update_self, Function.update_self, BitVec.sub_add_cancel]
  · rw [Function.update_of_ne hj, Function.update_of_ne hj]
    exact h j

/-- Whatever the devices do by themselves, the view stays right. -/
theorem viewed_env {s s' : Counting} {g : CountView} (h : Viewed s g) (he : Counting.world.env s s') : Viewed s' g := by
  rcases he with ⟨d, hd, rfl⟩ | ⟨ho, e, hits, -, rfl⟩
  · refine ⟨h.ctr, h.evt, h.inh, h.printed, ?_, ?_⟩
    · intro hg
      obtain ⟨hidle, hc⟩ := h.idle hg
      obtain rfl := DmaAux.drift_idle hidle (.single hd)
      exact ⟨hidle, hc⟩
    · intro id hid
      obtain ⟨d₀, hidle, hfresh, hw⟩ := h.waiting id hid
      exact ⟨d₀, hidle, hfresh, DmaAux.stable_waiting hidle id _ _ hw hd⟩
  · refine ⟨count_ctr h.ctr hits, h.evt, h.inh, h.printed, ?_, h.waiting⟩
    exact fun hg => absurd (DmaAux.outstanding_idle (h.idle hg).1) ho

/-- A write to the DMA device when no transfer is outstanding. -/
theorem viewed_dma {s : Counting} {g : CountView} (h : Viewed s g) {d : Dma} (hd : s.dma.Idle → d.Idle) (hg : g.waiting = none) :
    Viewed { s with dma := d } g :=
  ⟨h.ctr, h.evt, h.inh, h.printed, fun hg => ⟨hd (h.idle hg).1, (h.idle hg).2⟩, fun id hid => by rw [hg] at hid; cases hid⟩

/-- The counters and the DMA device follow the contract, whenever events come. -/
theorem countContract_keptBy : countContract.KeptBy Counting.world Viewed := by
  constructor
  · intro i s g r s' h hpre hsem
    cases i with
    | idma i =>
      obtain ⟨d, hd, rfl⟩ := hsem
      cases i with
      | write64 reg v =>
        cases hd
        exact ⟨g, rfl, viewed_dma h (fun hidle => DmaAux.idle_write hidle reg v) hpre⟩
      | read64 reg =>
        cases reg with
        | nextTransferId =>
          rcases hd with ⟨hr, rfl⟩ | ⟨hfresh, rfl⟩
          · exact ⟨g, Or.inl ⟨hr, rfl⟩, h⟩
          · refine ⟨_, Or.inr ⟨hfresh.1, rfl⟩, h.ctr, h.evt, h.inh, h.printed, fun hg => (nomatch hg), ?_⟩
            rintro id ⟨⟩
            exact ⟨s.dma, (h.idle hpre).1, hfresh, Or.inl rfl⟩
        | lastTransferIdComplete =>
          obtain ⟨hr, rfl⟩ := hd
          by_cases hg : g.waiting = some r
          · refine ⟨{ g with counted := s.counted, waiting := none }, ?_, h.ctr, h.evt, h.inh, h.printed, ?_, ?_⟩
            · exact ⟨fun _ => ⟨s.counted, rfl⟩, fun hne => absurd hg hne⟩
            · intro _
              obtain ⟨d, hidle, hfresh, hw⟩ := h.waiting r hg
              rcases hw with hw | hw
              · exact absurd (hw ▸ hr).symm (DmaAux.last_ne hidle hfresh)
              · exact ⟨hw ▸ DmaAux.idle_complete hidle r, rfl⟩
            · exact fun id hid => nomatch hid
          · exact ⟨g, ⟨fun hr => absurd hr hg, fun _ => rfl⟩, h⟩
        | _ =>
          cases hd
          exact ⟨g, rfl, h⟩
    | getCtl64 reg =>
      cases reg with
      | iohpmctr k =>
        obtain ⟨rfl, rfl⟩ := hsem
        exact ⟨g, ⟨(h.idle hpre).2 ▸ h.ctr k, rfl⟩, h⟩
      | _ =>
        cases hsem
        exact ⟨g, rfl, h⟩
    | setCtl64 reg v =>
      cases reg with
      | iohpmctr k =>
        cases hsem
        exact ⟨_, rfl, (h.idle hpre).2 ▸ update_ctr h.ctr k v, h.evt, h.inh, h.printed, h.idle, h.waiting⟩
      | iohpmevt k =>
        cases hsem
        exact ⟨_, rfl, h.ctr, congrArg (Function.update · k v) h.evt, h.inh, h.printed, h.idle, h.waiting⟩
      | _ =>
        cases hsem
        exact ⟨g, rfl, h⟩
    | setCtl32 reg v =>
      cases reg with
      | iocntinh =>
        cases hsem
        exact ⟨_, rfl, h.ctr, h.evt, rfl, h.printed, h.idle, h.waiting⟩
      | _ =>
        cases hsem
        exact ⟨g, rfl, h⟩
    | printf text v =>
      cases hsem
      exact ⟨_, rfl, h.ctr, h.evt, h.inh, congrArg (· ++ [(text, v)]) h.printed, h.idle, h.waiting⟩
    | _ =>
      cases hsem
      exact ⟨g, rfl, h⟩
  · exact fun s g s' => viewed_env

/-! ## Rules -/

variable {g : CountView} {as : List (String × Bool)} {α : Type}

/-- An access that the contract lets change nothing leaves the view as it is, whatever it answers. -/
theorem wp_still (i : DevIo) (hpre : countContract.pre i g) (hpost : ∀ r g', countContract.post i g r g' → g' = g)
    {Q : i.Answer → CountView × List (String × Bool) → Prop} (h : ∀ r, Q r (g, as)) :
    wp countContract.body (Body.dev i) Q (g, as) := by
  rw [wp_dev]
  refine ⟨hpre, ?_⟩
  intro r d hd
  rw [hpost r d hd]
  exact h r

/-- When a counter is written between two transfers, what it holds beyond its events is the difference. -/
theorem wp_setCtr (k : Nat) (v : Word) (Q : Unit → CountView × List (String × Bool) → Prop) :
    @wp _ _ _ Unit countContract.body (Body.dev (.setCtl64 (.iohpmctr k) v)) Q (g, as) ↔ g.waiting = none ∧
      Q () ({ g with beyond := Function.update g.beyond k (v - BitVec.ofNat 64 (g.counted k)) }, as) := by
  rw [wp_dev]
  exact ⟨fun h => ⟨h.1, h.2 () _ rfl⟩, fun h => ⟨h.1, fun r d hd => hd ▸ h.2⟩⟩

/-- A counter that is read between two transfers holds what it held beyond its events, and the events themselves. -/
theorem wp_getCtr (k : Nat) (Q : Word → CountView × List (String × Bool) → Prop) :
    @wp _ _ _ Word countContract.body (Body.dev (.getCtl64 (.iohpmctr k))) Q (g, as) ↔ g.waiting = none ∧
      Q (g.beyond k + BitVec.ofNat 64 (g.counted k)) (g, as) := by
  rw [wp_dev]
  constructor
  · exact fun h => ⟨h.1, h.2 _ g ⟨rfl, rfl⟩⟩
  · refine fun h => ⟨h.1, ?_⟩
    rintro r _ ⟨rfl, rfl⟩
    exact h.2

/-- `latency_test` prints a value under a text, which the view keeps. -/
theorem wp_printf (text : String) (v : Word) (Q : Unit → CountView × List (String × Bool) → Prop) :
    @wp _ _ _ Unit countContract.body (Body.dev (.printf text v)) Q (g, as) ↔
      Q () ({ g with printed := g.printed ++ [(text, v)] }, as) := by
  rw [wp_dev]
  exact ⟨fun h => h.2 () _ rfl, fun h => ⟨trivial, fun r d hd => hd ▸ h⟩⟩

/-- Whatever the driver of the queues does and answers, the view stays as it is. -/
theorem wp_driver (p : Driver α) {Q : α → CountView × List (String × Bool) → Prop} (h : ∀ a, Q a (g, as)) :
    wp countContract.body (Body.queue p) Q (g, as) := by
  rw [wp_queue]
  induction p with
  | ret a => exact h a
  | act i k ih =>
    refine ⟨trivial, ?_⟩
    rintro r _ ⟨_, rfl, rfl⟩
    exact ih _
  | poll i test k ih =>
    refine ⟨trivial, ?_⟩
    rintro r _ ⟨_, rfl, rfl⟩
    split
    · exact ih _
    · rfl

/-- A command may be answered in any way, and counts nothing in the view. -/
theorem wp_issue (link : TestLink) (c : DriverCall) {Q : Unit → CountView × List (String × Bool) → Prop} (h : Q () (g, as)) :
    wp countContract.body (Body.issue link c) Q (g, as) := by
  rw [Body.issue, wp_bind]
  exact wp_still .stack trivial (fun _ _ hd => hd) fun _ => wp_driver _ fun _ => h

/-- A transfer is set up while none is under way, and nothing is counted for that. -/
theorem wp_setup (hg : g.waiting = none) (src dst n : Word) {Q : Unit → CountView × List (String × Bool) → Prop}
    (h : Q () (g, as)) : wp countContract.body (Body.idma (idmaSetup src dst n)) Q (g, as) := by
  rw [wp_idma]
  have hwrite : ∀ (r : IdmaReg) (v : Word) {Q : Unit → CountView → Prop}, Q () g → wp countContract.idma (idmaWrite r v) Q g := by
    intro r v Q hQ
    rw [idmaWrite, wp_idma_call]
    exact ⟨hg, fun _ d hd => hd ▸ hQ⟩
  simp only [idmaSetup, wp_bind]
  exact hwrite _ _ (hwrite _ _ (hwrite _ _ (hwrite _ _ h)))

/-- A transfer is refused, or launched with an id that is not zero, for which the driver has to wait then. -/
theorem wp_launch (hg : g.waiting = none) {Q : Word → CountView × List (String × Bool) → Prop} (hzero : Q 0#64 (g, as))
    (h : ∀ id, id ≠ 0#64 → Q id ({ g with waiting := some id }, as)) :
    wp countContract.body (Body.idma (idmaRead .nextTransferId)) Q (g, as) := by
  rw [wp_idma, idmaRead, wp_idma_call]
  refine ⟨hg, ?_⟩
  intro id _ h
  rcases h with ⟨rfl, rfl⟩ | ⟨hid, rfl⟩
  · exact hzero
  · exact h id hid

/-- When its transfer is complete the test knows of the counts that there are some. -/
theorem wp_wait (hg : g.waiting = none) (id : Word) {Q : Unit → CountView × List (String × Bool) → Prop}
    (h : ∀ c, Q () ({ g with counted := c }, as)) :
    wp countContract.body (Body.idma (idmaWait id)) Q ({ g with waiting := some id }, as) := by
  rw [wp_idma, idmaWait, wp_waitFor]
  refine ⟨trivial, ?_⟩
  rintro r g' ⟨_, rfl, hyes, hno⟩
  split
  · rename_i ht
    obtain ⟨c, rfl⟩ := hyes (congrArg some (beq_iff_eq.1 ht).symm)
    rw [← hg]
    exact h c
  · rename_i ht
    refine hno ?_
    intro he
    exact ht (beq_iff_eq.2 (Option.some.inj he).symm)

/-! ## The body -/

/-- The loop, by induction on the transfers that are left: it ends with no transfer outstanding and some counts. -/
theorem latencyLoop_wp (n : Nat) (avgLat : Word) (hg : g.waiting = none) {Q : Word → CountView × List (String × Bool) → Prop}
    (h : ∀ avgLat c, Q avgLat ({ g with counted := c }, as)) : wp countContract.body (latencyLoop n avgLat) Q (g, as) := by
  induction n generalizing avgLat g with
  | zero => exact h avgLat g.counted
  | succ n ih =>
    simp only [latencyLoop, wp_bind]
    refine wp_still .rand trivial (fun _ _ hd => hd) fun _ => ?_
    refine wp_still .rand trivial (fun _ _ hd => hd) fun ptIndex => ?_
    refine wp_driver _ fun _ => wp_driver _ fun _ => wp_setup hg _ _ _ ?_
    refine wp_still .cycles trivial (fun _ _ hd => hd) fun stampStart => ?_
    refine wp_launch hg ?_ ?_
    · rw [if_pos rfl, wp_bind]
      exact (wp_error _ _).2 trivial
    · intro id hid
      rw [if_neg hid, wp_bind]
      refine wp_wait hg id fun c => ?_
      rw [wp_bind]
      refine wp_still .cycles trivial (fun _ _ hd => hd) fun stampEnd => ?_
      rw [wp_bind]
      refine wp_driver _ fun v => ?_
      split
      · rw [wp_bind]
        exact (wp_error _ _).2 trivial
      · exact ih _ hg h

/-- What a counter holds beyond its counts after the resets of `latency_test`. -/
def afterReset (beyond : Nat → Word) (k : Nat) : Word := if k = 4 then beyond 4 else 0#64

/-- `latency_test` prints the five counters, each as what has been counted since it was last reset. -/
theorem latencyTestBody_wp (link : TestLink) (hg : g.waiting = none) (hcounted : ∀ k, g.counted k = 0)
    (hprinted : g.printed = []) :
    wp countContract.body (latencyTestBody link) (fun _ v => v.1.waiting = none ∧ v.1.printed.drop 1 =
      latencyCnts.map fun c => (c.1, afterReset g.beyond c.2 + BitVec.ofNat 64 (v.1.counted c.2))) (g, as) := by
  simp only [latencyTestBody, Body.setIommu, wp_bind]
  refine wp_still (.setCtl64 .ddtp _) trivial (fun _ _ hd => hd) fun _ => ?_
  refine wp_still (.setDc .iosatpSv39) trivial (fun _ _ hd => hd) fun _ => ?_
  refine wp_still (.setDc .iohgatpSv39x4) trivial (fun _ _ hd => hd) fun _ => ?_
  refine wp_issue link _ (wp_issue link _ (wp_issue link _ ?_))
  simp only [wp_setCtr, hg, true_and]
  refine wp_still .cycles trivial (fun _ _ hd => hd) fun stamp => ?_
  refine wp_still (.srand stamp) trivial (fun _ _ hd => hd) fun _ => ?_
  refine latencyLoop_wp nTransfers _ rfl fun avgLat c => ?_
  simp only [wp_printf, wp_getCtr, true_and]
  simp [hprinted, hcounted, latencyCnts, afterReset, Function.update]

end LatencyAux

end RvIommuTests
