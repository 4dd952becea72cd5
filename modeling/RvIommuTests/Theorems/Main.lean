import RvIommuTests.Lemmas.Main
import RvIommuTests.Theorems.Soc

/-!
# The whole program finds nothing

`init_iommu` makes a platform ready that comes out of reset, and then no test fails, whatever the queues do by themselves in
between.
-/

namespace RvIommuTests

open Bytes Shared Riscv SocAux FlawlessAux SocTestsAux

namespace MainAux

variable {link : TestLink} {s g : Soc} {x y : Word32}

/-- A queue that is on stays on, as the IOMMU turns off a disabled queue only. -/
theorem starting_stays (h : Starting x y) (hx : x = csrEnable ||| csrOn) : y = x := by
  cases h with
  | off => exact absurd hx (by decide)
  | enabled => exact absurd hx (by decide)
  | turned => exact absurd hx (by decide)
  | on => rfl

/-- When the queues have been waited for, all that the platform may have done by itself is what it may do during the tests too. -/
theorem quiet_follows (hg : g.Ready link) (hs : Follows link s g) : g.Quiet link s := by
  obtain ⟨mem, cqh, cqcsr, fqcsr, fetched, rfl, hm, -, hfq⟩ := hs
  have hon : g.io.fqcsr = csrEnable ||| csrOn := by
    rw [hg.queues]
    rfl
  obtain rfl := starting_stays hfq hon
  exact ⟨mem, cqh, cqcsr, fetched, hm, rfl⟩

/-- On a platform that follows a ready one, the first test finds what the view of the ready one shows. -/
theorem shows_follows (h : ImagePlaced link) (hg : g.Ready link) (hs : Follows link s g) : Shows link s (readyView link g) :=
  (soc_keptBy h).env g _ s (shows_ready h hg) (quiet_follows hg hs)

/-- When `main` is called, nothing has been asserted, counted or printed yet. -/
theorem flawless_atReset (hs : s.Reset link) (sys : Sys) : Flawless (Follows link) (.atReset s sys) s :=
  ⟨follows_refl (hs.fqcsr ▸ .off), rfl, fun _ ha => (List.not_mem_nil ha).elim, rfl, fun _ hl => (List.not_mem_nil hl).elim⟩

/-- From a platform that comes out of its reset, `main` comes to the first test with the platform ready. -/
theorem beforeTests_wp (hs : s.Reset link) : wp (startContract link) (beforeTests link) (fun _ g => g.Ready link) s := by
  unfold beforeTests MainFn.info
  rw [wp_bind, wp_log, wp_bind]
  refine ⟨trivial, ?_⟩
  rintro _ _ rfl
  exact initIommu_wp hs

/-- A test is under the contract that it has alone. -/
theorem tests_comap : (testsContract link).comap MainIo.test (fun _ r => r) = (View.contract link).flawless := by
  unfold Contract.comap
  congr
  funext i v r v'
  exact propext ⟨fun ⟨_, hr, hv⟩ => hr ▸ hv, fun hv => ⟨r, rfl, hv⟩⟩

/-- From an idle platform on, `main` runs any of the steady tests and comes to its end with the platform idle. -/
theorem testsAndEnd_wp (h : ImagePlaced link) {ts : List TestFn} (ht : ∀ t ∈ ts, t ∈ steadyTests link) {v : View} (hv : Idle v) :
    wp (testsContract link) (testsAndEnd ts) (fun _ => Idle) v := by
  unfold testsAndEnd
  rw [wp_bind, wp_embed, tests_comap]
  refine wp_mono (wp_runTests ts (fun t htt => steady_wp h t (ht t htt)) hv) ?_
  rintro _ v' ⟨-, hv'⟩
  refine ⟨trivial, ?_⟩
  rintro _ _ rfl
  exact hv'

/-! ## A run -/

/-- An answer of the computed platform is one of the platform's, which has turned the queue on just before. -/
theorem startStep_drift (link : TestLink) (c : Soc.Choice) (i : DevIo) (s : Soc) (r : i.Answer) (s' : Soc)
    (h : Soc.startStep link c i s = some (r, s')) :
    ∃ s₁, (Soc.startWorld link).Drift s s₁ ∧ (Soc.startWorld link).sem i s₁ r s' := by
  have hstep : Soc.step link c i s = some (r, s') →
      ∃ s₁, (Soc.startWorld link).Drift s s₁ ∧ (Soc.startWorld link).sem i s₁ r s' :=
    fun hs => ⟨s, .refl, step_sound link c i s r s' hs⟩
  unfold Soc.startStep at h
  split at h
  · split at h
    · rename_i he
      cases h
      exact ⟨_, .single (.commandQueue s _ (.on _ he)), rfl, rfl⟩
    · cases h
  · split at h
    · rename_i he
      cases h
      exact ⟨_, .single (.faultQueueOn s he), rfl, rfl⟩
    · cases h
  · cases h
    exact ⟨s, .refl, rfl⟩
  · exact hstep h

/-- The computed run of `main` is one of its runs. -/
theorem mainStep_drift (logLevel : Int) (img : Image) (link : TestLink) (c : Soc.Choice) (i : MainIo) (b : Bench Soc)
    (r : i.Answer) (b' : Bench Soc) (h : mainStep logLevel img link c i b = some (r, b')) :
    ∃ b₁, (mainWorld logLevel img link).Drift b b₁ ∧ (mainWorld logLevel img link).sem i b₁ r b' := by
  cases i with
  | test i => exact TestAux.testStep_drift (startStep_drift link c) logLevel img i b r b' h
  | log level text =>
    cases h
    exact ⟨b, .refl, rfl⟩
  | fill t =>
    obtain ⟨-, rfl⟩ := Prod.mk.inj (Option.some.inj h)
    exact ⟨b, .refl, rfl⟩
  | setVector reg =>
    cases h
    exact ⟨b, .refl, rfl⟩
  | finish =>
    cases h
    exact ⟨b, .refl, rfl⟩

/-- A platform that comes out of reset, on memory that the boot code has cleared. -/
def resetSoc : Soc where
  io := { Iommu.cold TestLink.compact.toLink with cqb := 0#64, cqcsr := 0#32, fqb := 0#64, fqcsr := 0#32 }
  rootDdt := fun _ => ⟨0, 0, 0, 0, 0, 0, 0, 0⟩
  msiPt := fun _ => 0#64
  ddtp := 0#64
  fip := false
  trReqIova := 0#64
  trReqCtl := 0#64
  trResponse := 0#64
  srcAddr := 0#64
  destAddr := 0#64
  numBytes := 0#64

/-- It is a platform after its reset. -/
theorem reset_resetSoc : resetSoc.Reset TestLink.compact where
  tables := ⟨fun _ _ => rfl, fun _ _ => rfl, fun _ _ => rfl⟩
  cqcsr := rfl
  fqcsr := rfl
  cqh := rfl
  fqt := rfl
  fetched := rfl
  accepted := rfl
  recording := rfl
  fip := rfl
  trReqCtl := rfl

end MainAux

open MainAux

/-- **`init_iommu` makes the platform ready.** In whatever run it returns, from a platform that comes out of reset, and whatever the
queues do by themselves meanwhile: the platform is then as the tests rely on it, but for what the command queue may do by itself
during the tests too. -/
theorem initIommu_ready {link : TestLink} {s : Soc} (hs : s.Reset link) (logLevel : Int) (img : Image) (sys : Sys) {b : Bench Soc}
    (hr : Run (mainWorld logLevel img link) (initIommu link) (.atReset s sys) (.ret ()) b) :
    ∃ g : Soc, g.Ready link ∧ g.Quiet link b.dev := by
  obtain ⟨g, hb, hg⟩ := wp_sound (start_keptBy logLevel img) hr (initIommu_wp hs) (flawless_atReset hs sys)
  exact ⟨g, hg, quiet_follows hg hb.dev⟩

/-- The same of `main` up to the first test, when moreover nothing that was printed is a failure. -/
theorem beforeTests_ready {link : TestLink} {s : Soc} (hs : s.Reset link) (logLevel : Int) (img : Image) (sys : Sys)
    {b : Bench Soc} (hr : Run (mainWorld logLevel img link) (beforeTests link) (.atReset s sys) (.ret ()) b) :
    (∃ g : Soc, g.Ready link ∧ g.Quiet link b.dev) ∧ ∀ l ∈ b.harness.printed, l.isGood = true := by
  obtain ⟨g, hb, hg⟩ := wp_sound (start_keptBy logLevel img) hr (beforeTests_wp hs) (flawless_atReset hs sys)
  exact ⟨⟨g, hg, quiet_follows hg hb.dev⟩, hb.printed⟩

/-- **The whole program finds nothing.** `main` with any steady tests, in any order and any number, on a platform that comes out of
reset: no run comes to `ERROR`, every assertion is of a true condition, and nothing printed is a failure, the summary of `END`
included. When `main` is done no fault is left in the queue. -/
theorem main_finds_nothing {link : TestLink} (h : ImagePlaced link) {s : Soc} (hs : s.Reset link) (logLevel : Int) (img : Image)
    (sys : Sys) (ts : List TestFn) (ht : ∀ t ∈ ts, t ∈ steadyTests link) {b : Bench Soc} {q : MainFn Unit}
    (hr : Run (mainWorld logLevel img link) (main link ts) (.atReset s sys) q b) :
    (∀ a ∈ b.asserted, a.2 = true) ∧ (∀ l ∈ b.harness.printed, l.isGood = true) ∧
      (∀ msg k, q ≠ .act (.test (.body (.error msg))) k) ∧ (q = .ret () → b.dev.io.fqh = b.dev.io.fqt) := by
  have hstart := flawless_atReset hs sys
  have hw : wp (startContract link) (beforeTests link) (fun _ g => ∀ b, Flawless (Follows link) b g →
      ∃ v, Flawless (Shows link) b v ∧ wp (testsContract link) (testsAndEnd ts) (fun _ => Idle) v) s :=
    wp_mono (beforeTests_wp hs) fun _ g hg b hb =>
      ⟨readyView link g, { hb with dev := shows_follows h hg hb.dev }, testsAndEnd_wp h ht (idle_ready hg)⟩
  rcases wp_run_bind (start_keptBy logLevel img) (tests_keptBy h logLevel img) hr hw hstart with
    ⟨p', g, rfl, hp, hb, hq⟩ | ⟨v, hb, hq⟩
  · refine ⟨hb.asserted, hb.printed, ?_, ?_⟩
    · intro msg k he
      cases p' with
      | ret a => exact hp a rfl
      | act i k' =>
        cases he
        exact hq.1
      | poll i test k' => cases he
    · intro he
      cases p' with
      | ret a => exact (hp a rfl).elim
      | act i k' => cases he
      | poll i test k' => cases he
  · refine ⟨hb.asserted, hb.printed, ?_, ?_⟩
    · rintro msg k rfl
      exact hq.1
    · rintro rfl
      rw [← BitVec.toNat_inj, hb.dev.fq.holds.head_eq_tail_iff]
      exact hq.pending

/-- The theorem at a run with three tests. -/
theorem main_finds_nothing_at :
    ∃ b, Run (mainWorld logInfo Image.plain TestLink.compact) (main TestLink.compact threeTests) (.atReset resetSoc Sys.boot)
        (.ret ()) b ∧
      (∀ l ∈ b.harness.printed, l.isGood = true) ∧ b.dev.io.fqh = b.dev.io.fqt := by
  have hrun : ((main TestLink.compact threeTests).exec
      (mainStep logInfo Image.plain TestLink.compact ⟨⟨0, 0, 0, 0⟩, ⟨0, 0, 0, 0⟩, fun _ => 0#8⟩)
      (.atReset resetSoc Sys.boot)).isSome = true := by decide +kernel
  obtain ⟨⟨_, b⟩, hx⟩ := Option.isSome_iff_exists.1 hrun
  have hr := Run.of_exec_drift (mainStep_drift logInfo Image.plain TestLink.compact _) hx
  obtain ⟨-, hprinted, -, hret⟩ := main_finds_nothing imagePlaced_compact reset_resetSoc logInfo Image.plain Sys.boot threeTests
    (by simp [threeTests, steadyTests]) hr
  exact ⟨b, hr, hprinted, hret rfl⟩

end RvIommuTests
