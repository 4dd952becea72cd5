import RvIommuTests.Lemmas.SocTests
import RvIommuTests.Theorems.Goto
import RvIommuTests.Theorems.MsiTable

/-!
# No test fails on devices as they should be

The tests find the platform as `init_iommu` leaves it. Each leaves it so that any of them may follow.
-/

namespace RvIommuTests

open Bytes Fields Shared Riscv IotlbAux DdtCacheAux RequestMapAux SocAux FlawlessAux

namespace SocTestsAux

variable {link : TestLink} {s : Soc} {m : Mem}

/-! ## The first view -/

/-- What a test knows of the platform as it is given. -/
def readyView (link : TestLink) (s : Soc) : View where
  mode := .off
  modes := .reset
  exchanged := fun _ => false
  mem := s.io.mem
  mrif i := load s.io.mem 8 (link.mrif + BitVec.ofNat 64 (8 * i))
  got := []
  pending := []
  fqh := s.io.fqh
  fip := false
  trReqIova := s.trReqIova
  trReqCtl := s.trReqCtl
  trResponse := s.trResponse
  srcAddr := s.srcAddr
  destAddr := s.destAddr
  numBytes := s.numBytes

/-- `mrif_init` changes the MRIF only. -/
theorem mrifInit_onlyIn (h : ImagePlaced link) (m : Mem) : OnlyIn (Region.Has link) .mrif m (mrifInit link.mrif m) := by
  have hword : ∀ (m : Mem) {i : Nat} (w : Word), i < 64 →
      OnlyIn (Region.Has link) .mrif m (store m 8 (link.mrif + BitVec.ofNat 64 (8 * i)) w) :=
    fun m i w hi => onlyIn_store (n := 8) (regions_disjoint h) (within_mrif h hi) w
  exact (((hword _ _ (by decide)).trans (hword _ _ (by decide))).trans (hword _ _ (by decide))).trans (hword _ _ (by decide))

/-- `mrif_init` enables the one interrupt of the tests in the MRIF, and not the other. -/
theorem load_mrifInit (mrif : Addr) (m : Mem) :
    load (mrifInit mrif m) 8 (mrif + BitVec.ofNat 64 (8 * (intIpIdx intId1 + 1))) = intMask intId1 ∧
      load (mrifInit mrif m) 8 (mrif + BitVec.ofNat 64 (8 * (intIpIdx intId2 + 1))) = 0#64 := by
  have hapart : ∀ {i j : Nat}, i < 64 ∧ j < 64 ∧ i ≠ j →
      Apart (mrif + BitVec.ofNat 64 (8 * i)) 8 (mrif + BitVec.ofNat 64 (8 * j)) 8 :=
    fun ⟨_, _, _⟩ => apart_offsets (by omega) (by omega) (by omega) (by decide) (by decide)
  unfold mrifInit
  constructor
  · exact (load_store_apart (n := 8) _ _ (hapart (by decide))).trans
      ((load_store_apart (n := 8) _ _ (hapart (by decide))).trans (load_store_same (n := 8) _ (by decide) _ _))
  · exact load_store_same (n := 8) _ (by decide) _ _

/-- A platform that is ready is as the view says. -/
theorem shows_ready (h : ImagePlaced link) (hs : s.Ready link) : Shows link s (readyView link s) := by
  obtain ⟨m, hz, hmem⟩ := hs.mem
  obtain ⟨ddt, hddt⟩ := hs.rootDdt
  obtain ⟨pt, hpt⟩ := hs.msiPt
  obtain ⟨hmode, hbase⟩ := ddtp_mode h .off
  have htables : TablesAt link.toLink (fun _ => false) s.io.mem := by
    rw [hmem]
    exact tables_onlyIn h (mrifInit_onlyIn h _) (by decide) (tablesAt_built (asBuilt_init (tablesPlaced h) hz))
  have hfq : FqInv link.toLink [] [] s.io := by
    rw [hs.queues]
    have hempty : (0#32).toNat < 64 := by decide
    refine ⟨rfl, Ring.holds_nil _ hempty, rfl, ?_, ?_⟩ <;> intro _ _ hr <;> cases hr
  have hmrif : Aligned link.mrif 9 ∧ Fields.Fits link.mrif 56 := by
    obtain ⟨-, hb⟩ := image_bounds h (link.mrif, 64 * 8) (by simp [TestLink.objects])
    dsimp only at hb
    refine ⟨h.mrifAligned, ?_⟩
    unfold Fields.Fits
    omega
  exact {
    fq := hfq
    fqh := rfl
    recording := by rw [hs.queues]; rfl
    fqcsr := by rw [hs.queues]; rfl
    cqb := by rw [hs.queues]; rfl
    cqt := by rw [hs.queues]; exact (by decide : (0#32).toNat < 64)
    data := fun _ _ => rfl
    mrif := fun _ _ => rfl
    tables := htables
    rootDdt := by rw [hddt, init_did]; rfl
    msiPt := fun i hi => by rw [hpt, MsiAux.entry_msiPtInit hmrif.1 hmrif.2 pt hi]
    mode := by rw [hs.ddtp, hmode]; rfl
    base := fun hmode => DdtpMode.noConfusion hmode
    fip := hs.fip
    trReqIova := rfl
    trReqCtl := rfl
    trResponse := rfl
    srcAddr := rfl
    destAddr := rfl
    numBytes := rfl }

/-- A platform that is ready is in the state that the tests leave between two of them. -/
theorem idle_ready (hs : s.Ready link) : Idle (readyView link s) := by
  obtain ⟨m, -, hmem⟩ := hs.mem
  obtain ⟨hie1, hie2⟩ := load_mrifInit link.mrif (s1ptInit .platform link.toLink (s2ptInit .platform link.toLink m))
  refine ⟨rfl, ⟨false, rfl⟩, ?_, ?_, ?_, Or.inl ?_⟩
  · dsimp only [readyView]
    rw [hmem, hie1]
    decide
  · dsimp only [readyView]
    rw [hmem, hie2]
    decide
  · dsimp only [readyView]
    rw [hs.trReqCtl]
    decide
  · dsimp only [readyView]
    rw [hs.trReqCtl]
    decide

/-! ## The tests -/

/-- Each of the tests starts and ends with an idle view. -/
theorem steady_wp (h : ImagePlaced link) : ∀ t ∈ steadyTests link, ∀ v, Idle v →
    wp (View.contract link).flawless t (fun r v' => r ≠ some false ∧ Idle v') v := by
  intro t ht v hv
  simp only [steadyTests, List.mem_cons, List.not_mem_nil, or_false] at ht
  rcases ht with rfl | rfl | rfl | rfl | rfl | rfl | rfl | rfl | rfl
  · exact wp_fn _ (Or.inl rfl) (dbgInterface_wp h hv)
  · exact wp_fn _ (Or.inl rfl) (mrifSupport_wp h hv)
  · exact wp_fn _ (Or.inl rfl) (wsiGeneration_wp h hv)
  · exact wp_fn _ (Or.inl rfl) (iotinval_wp h hv)
  · exact wp_fn _ (Or.inl rfl) (twoStageTranslation_wp h hv)
  · exact wp_fn _ (Or.inl rfl) (secondStageOnly_wp h hv)
  · exact wp_fn _ (Or.inl rfl) (bothStagesBare_wp h hv)
  · exact wp_fn _ (Or.inr rfl) (iommuBare_wp h hv)
  · exact wp_fn _ (Or.inl rfl) (iommuOff_wp h hv)

/-! ## Runs that are computed -/

/-- The executable platform makes accesses that the platform can make. -/
theorem step_sound (link : TestLink) (c : Soc.Choice) :
    ∀ i s r s', Soc.step link c i s = some (r, s') → (Soc.world link).sem i s r s' := by
  intro i s r s' h
  cases i with
  | queue i =>
    cases h
    exact ⟨rfl, rfl⟩
  | idma i =>
    cases i with
    | write64 reg x =>
      cases h
      rfl
    | read64 reg =>
      cases reg with
      | nextTransferId =>
        cases h
        exact ⟨by decide, fun _ _ => ⟨c, rfl⟩⟩
      | lastTransferIdComplete =>
        cases h
        rfl
      | _ => cases h
  | getCtl32 reg =>
    cases reg with
    | ipsr =>
      cases h
      exact ⟨rfl, rfl⟩
    | _ => cases h
  | setCtl32 reg x => cases reg <;> cases h <;> rfl
  | getCtl64 reg =>
    cases reg with
    | trReqCtl =>
      cases h
      exact ⟨rfl, rfl⟩
    | trResponse =>
      cases h
      exact ⟨rfl, rfl⟩
    | _ => cases h
  | setCtl64 reg x =>
    cases reg with
    | ddtp =>
      cases h
      rfl
    | trReqIova =>
      cases h
      rfl
    | trReqCtl =>
      cases h
      exact ⟨c.readRecord, rfl⟩
    | _ => cases h
  | load32 a =>
    cases h
    exact ⟨rfl, rfl⟩
  | store32 a x =>
    cases h
    rfl
  | setDc setter =>
    cases h
    rfl
  | s1ptSwitch =>
    cases h
    rfl
  | s2ptSwitch =>
    cases h
    rfl
  | stack =>
    cases h
    rfl
  | _ => cases h

/-- The image of the compact placement has its objects on pages, apart from each other and from the data. -/
theorem imagePlaced_compact : ImagePlaced TestLink.compact := by
  refine ⟨by decide, by decide, ?_, by decide, by decide⟩
  simp only [List.mem_cons, List.not_mem_nil, or_false, forall_eq_or_imp, forall_eq]
  decide

/-- A platform that `init_iommu` has set up, on memory that was zero. -/
def readySoc : Soc where
  io := { Iommu.cold TestLink.compact.toLink with
    mem := mrifInit TestLink.compact.mrif (s1ptInit .platform TestLink.compact.toLink (s2ptInit .platform TestLink.compact.toLink
      fun _ => 0#8)) }
  rootDdt := rvIommuDdtInit DdtConfig.platform TestLink.compact.toLink fun _ => ⟨0, 0, 0, 0, 0, 0, 0, 0⟩
  msiPt := msiPtInit TestLink.compact.mrif fun _ => 0#64
  ddtp := ((TestLink.compact.rootDdt >>> 2) &&& ddtpPpnMask) ||| DdtpMode.off.code
  fip := false
  trReqIova := 0#64
  trReqCtl := 0#64
  trResponse := 0#64
  srcAddr := 0#64
  destAddr := 0#64
  numBytes := 0#64

/-- The platform of the runs is ready. -/
theorem ready_readySoc : readySoc.Ready TestLink.compact where
  mem := ⟨_, ⟨fun _ _ => rfl, fun _ _ => rfl, fun _ _ => rfl⟩, rfl⟩
  queues := rfl
  rootDdt := ⟨_, rfl⟩
  msiPt := ⟨_, rfl⟩
  ddtp := rfl
  fip := rfl
  trReqCtl := rfl

end SocTestsAux

open SocTestsAux

/-- The bench when `main` comes to the loop over the tests. -/
def Bench.ofReady (logLevel : Int) (s : Soc) (sys : Sys) : Bench Soc :=
  ⟨s, Harness.boot.info logLevel "RISC-V Input/Output Memory Management Unit Tests", true, sys, []⟩

/-- **No false alarm.** Any steady tests, in any order and any number, on a platform as it should
be: no run comes to `ERROR`, every assertion is of a true condition, and nothing printed is a
failure. When the tests are done none has failed, the fault queue is empty, and `END` says that
all have passed. -/
theorem no_false_alarm {link : TestLink} (h : ImagePlaced link) {s : Soc} (hs : s.Ready link) (logLevel : Int) (img : Image)
    (sys : Sys) (ts : List TestFn) (ht : ∀ t ∈ ts, t ∈ steadyTests link) {b : Bench Soc}
    {q : Prog TestIo TestIo.Answer (List (Option Bool))}
    (hr : Run (testWorld logLevel img (Soc.world link)) (runTests ts) (.ofReady logLevel s sys) q b) :
    (∀ a ∈ b.asserted, a.2 = true) ∧ (∀ l ∈ b.harness.printed, l.isGood = true) ∧
      (∀ msg k, q ≠ .act (.body (.error msg)) k) ∧
      ∀ rs, q = .ret rs → (∀ r ∈ rs, r ≠ some false) ∧ b.dev.io.fqh = b.dev.io.fqt ∧
        ∀ l ∈ b.harness.finish.printed, l.isGood = true := by
  have hstart : Flawless (Shows link) (.ofReady logLevel s sys) (readyView link s) := by
    refine ⟨shows_ready h hs, rfl, fun a ha => (List.not_mem_nil ha).elim, ?_, ?_⟩
    · unfold Bench.ofReady Harness.info
      dsimp only
      split <;> rfl
    · unfold Bench.ofReady Harness.info
      dsimp only
      split
      · exact good_print (fun l hl => (List.not_mem_nil hl).elim) rfl
      · exact fun l hl => (List.not_mem_nil hl).elim
  obtain ⟨v, hb, hq⟩ := wp_run (flawless_keptBy (soc_keptBy h) logLevel img) hr (wp_runTests ts
    (fun t htt => steady_wp h t (ht t htt)) (idle_ready hs)) hstart
  refine ⟨hb.asserted, hb.printed, ?_, ?_⟩
  · rintro msg k rfl
    exact hq.1
  · rintro rs rfl
    obtain ⟨hrs, hidle⟩ := hq
    refine ⟨hrs, ?_, ?_⟩
    · rw [← BitVec.toNat_inj, hb.dev.fq.holds.head_eq_tail_iff]
      exact hidle.pending
    · unfold Harness.finish
      dsimp only
      rw [if_pos hb.counted]
      exact good_print (good_print hb.printed rfl) rfl

/-- Three of the tests. -/
def threeTests : List TestFn :=
  [bothStagesBare TestLink.compact, iommuBare TestLink.compact, iommuOff TestLink.compact]

/-- The theorem at a run of three tests. -/
theorem no_false_alarm_at :
    ∃ rs b, Run (testWorld logInfo Image.plain (Soc.world TestLink.compact)) (runTests threeTests)
        (.ofReady logInfo readySoc Sys.boot) (.ret rs) b ∧
      (∀ a ∈ b.asserted, a.2 = true) ∧ ∀ l ∈ b.harness.finish.printed, l.isGood = true := by
  have hrun : ((runTests threeTests).exec
      (testStep logInfo Image.plain (Soc.step TestLink.compact ⟨⟨0, 0, 0, 0⟩, ⟨0, 0, 0, 0⟩, fun _ => 0#8⟩))
      (.ofReady logInfo readySoc Sys.boot)).isSome = true := by decide +kernel
  obtain ⟨⟨rs, b⟩, hx⟩ := Option.isSome_iff_exists.1 hrun
  have hr := Run.of_exec (TestAux.testStep_sound (step_sound TestLink.compact _) logInfo Image.plain) hx
  obtain ⟨has, -, -, hret⟩ := no_false_alarm imagePlaced_compact ready_readySoc logInfo Image.plain Sys.boot threeTests
    (by simp [threeTests, steadyTests]) hr
  exact ⟨rs, b, hr, has, (hret rs rfl).2.2⟩

end RvIommuTests
