import RvIommuTests.Lemmas.Verdicts
import RvIommuTests.Theorems.Transfers

/-!
# Every test delivers its verdict

What a registered test function returns, prints last and leaves of the hart, whatever the IOMMU and the DMA device do.
-/

namespace RvIommuTests

open Shared Riscv VerdictAux

namespace VerdictAux

/-- A registered function either has a `TEST_END` or is `iommu_bare`. -/
theorem testTable_cases {link : TestLink} {t : TestFn} (ht : t ∈ testTable link) :
    (∃ name p, t = (TestFn.testStart name >>= fun _ => TestFn.body p >>= fun _ => TestFn.testEnd)) ∨ t = iommuBare link := by
  simp only [testTable, List.mem_cons, List.not_mem_nil, or_false] at ht
  rcases ht with rfl | rfl | rfl | rfl | rfl | rfl | rfl | rfl | rfl | rfl | rfl | rfl
  case inr.inr.inr.inr.inr.inr.inr.inr.inr.inr.inl => exact Or.inr rfl
  all_goals exact Or.inl ⟨_, _, rfl⟩

theorem delivers_of_run {δ : Type} {logLevel : Int} {img : Image} {D : World DevIo DevIo.Answer δ} {b b' : Bench δ}
    {name : String} {p : Body Unit} {r : Option Bool}
    (h : Run (testWorld logLevel img D) (TestFn.testStart name >>= fun _ => TestFn.body p >>= fun _ => TestFn.testEnd) b (.ret r)
      b') :
    Delivers logLevel img b b' r := by
  obtain ⟨hcall, hleft⟩ := called_of_run h
  obtain ⟨hharness, hr⟩ := Prod.mk.inj hcall
  refine ⟨hr.trans (call_status logLevel b.harness ⟨name, b'.asserted, true⟩), ?_, hleft⟩
  intro hlow hhigh
  rw [hharness]
  exact printed_call b.harness ⟨name, b'.asserted, true⟩ rfl hlow hhigh

end VerdictAux

/-- Every call of a registered test that returns, on any devices, has delivered its verdict and cleaned up, except a call of
`iommu_bare`. -/
theorem delivers_iff_ne_iommu_bare (link : TestLink) (logLevel : Int) (img : Image) {δ : Type} (D : World DevIo DevIo.Answer δ)
    (t : TestFn) (ht : t ∈ testTable link) (b b' : Bench δ) (r : Option Bool)
    (hrun : Run (testWorld logLevel img D) t b (.ret r) b') : Delivers logLevel img b b' r ↔ t ≠ iommuBare link := by
  constructor
  · rintro h rfl
    have hnone := none_of_run hrun
    rw [h.value] at hnone
    cases hnone
  · intro hne
    rcases testTable_cases ht with ⟨name, p, rfl⟩ | rfl
    · exact delivers_of_run hrun
    · exact absurd rfl hne

/-- The theorem at a run of `both_stages_bare`. -/
theorem delivers_at :
    ∃ r b', Run (testWorld logInfo Image.plain Lossy.world) (bothStagesBare TestLink.compact) TransferAux.bench (.ret r) b' ∧
      (Delivers logInfo Image.plain TransferAux.bench b' r ↔ bothStagesBare TestLink.compact ≠ iommuBare TestLink.compact) := by
  have hrun : ((bothStagesBare TestLink.compact).exec
      (testStep logInfo Image.plain (Lossy.step fun _ _ => true)) TransferAux.bench).isSome = true := by decide +kernel
  obtain ⟨⟨r, b'⟩, hx⟩ := Option.isSome_iff_exists.1 hrun
  have hr := Run.of_exec (TestAux.testStep_sound (TransferAux.step_sound fun _ _ => true) logInfo Image.plain) hx
  exact ⟨r, b', hr, delivers_iff_ne_iommu_bare TestLink.compact logInfo Image.plain Lossy.world _ (by simp [testTable]) _ b' r hr⟩

/-- `iommu_bare` is registered. When all that it asserts is true, it prints no verdict at `LOG_INFO`, and returns no value. -/
theorem iommu_bare_reports_nothing :
    iommuBare TestLink.compact ∈ testTable TestLink.compact ∧
      ∃ b', Run (testWorld logInfo Image.plain Lossy.world) (iommuBare TestLink.compact) TransferAux.bench (.ret none) b' ∧
        b'.asserted.all Prod.snd = true ∧ ∀ l ∈ b'.harness.printed, l.isVerdict = false := by
  refine ⟨by simp [testTable], ?_⟩
  have hrun : ((iommuBare TestLink.compact).exec
      (testStep logInfo Image.plain (Lossy.step fun _ _ => true)) TransferAux.bench).map
        (fun x => (x.1, x.2.asserted.all Prod.snd, decide (∀ l ∈ x.2.harness.printed, l.isVerdict = false))) =
      some (none, true, true) := by decide +kernel
  obtain ⟨⟨r, b'⟩, hx, he⟩ := Option.map_eq_some_iff.1 hrun
  obtain ⟨hr, hall, hquiet⟩ := Prod.mk.inj he |>.imp_right Prod.mk.inj
  cases hr
  exact ⟨b', Run.of_exec (TestAux.testStep_sound (TransferAux.step_sound fun _ _ => true) logInfo Image.plain) hx, hall,
    of_decide_eq_true hquiet⟩

/-- The end of a test always returns: it finds the hart in M mode, where `reset_state` has left it before the first test and at the
end of each one, and leaves it so. -/
theorem testEnd_returns {δ : Type} (logLevel : Int) (img : Image) (D : World DevIo DevIo.Answer δ) (b : Bench δ)
    (h : Tracks img .m .m b.sys) :
    ∃ b', Run (testWorld logLevel img D) TestFn.testEnd b (.ret (some b.status)) b' ∧ Tracks img .m .m b'.sys := by
  have hgoto := GotoAux.gotoPriv_run (t := .m) h (fun hf => Mode.noConfusion hf.1) 5
  rw [if_pos ((GotoAux.answers_five 0).2 fun hf => Mode.noConfusion hf.1)] at hgoto
  obtain ⟨s, hs, hm⟩ := hgoto
  obtain ⟨s', hs', hm'⟩ := @GotoAux.resetState_run img s hm.hart hm.real 0
  exact ⟨_, Run.act _ ⟨rfl, rfl⟩ (Run.act () ⟨5, s, hs, rfl⟩ (Run.act () ⟨1, s', hs', rfl⟩ (Run.refl _ _))), hm'⟩

end RvIommuTests
