import RvIommuTests.Lemmas.Transfers
import RvIommuTests.Theorems.Goto

/-!
# What the data-transfer tests can tell

When the conditions that a test asserts about data hold exactly if every beat of every transfer was copied.
-/

namespace RvIommuTests

open Bytes Shared TestAux TransferAux

namespace TransferAux

/-! ## Lost beats -/

/-- All beats are copied when each beat of each transfer is. -/
theorem allCopied_iff (made : List Transfer) : AllCopied made ↔ ∀ t ∈ made, ∀ i < t.beats, t.copied i = true := by
  constructor
  · intro h t ht i hi
    obtain ⟨k, hk⟩ := List.mem_iff_getElem?.1 ht
    by_contra hc
    exact h k i ⟨t, hk, hi, by simpa using hc⟩
  · rintro h k i ⟨t, hk, hi, hc⟩
    rw [h t (List.mem_of_getElem? hk) i hi] at hc
    cases hc

/-- Only the first beat of the first transfer is lost when the first transfer loses no other, and the rest none. -/
theorem onlyFirstLost_cons (t : Transfer) (ts : List Transfer) :
    OnlyFirstLost (t :: ts) ↔ (∀ i, i < t.beats ∧ t.copied i = false ↔ i = 0) ∧ AllCopied ts := by
  constructor
  · intro h
    constructor
    · intro i
      have hi := h 0 i
      simpa [Lost] using hi
    · rintro k i ⟨u, hk, hi, hc⟩
      have := (h (k + 1) i).1 ⟨u, by simpa using hk, hi, hc⟩
      omega
  · rintro ⟨h0, hts⟩ k i
    cases k with
    | zero => simpa [Lost] using h0 i
    | succ k =>
      refine iff_of_false ?_ (by omega)
      rintro ⟨u, hk, hi, hc⟩
      exact hts k i ⟨u, by simpa using hk, hi, hc⟩

/-- What holds of the beats of a transfer of three. -/
theorem forall_lt_three {P : Nat → Prop} : (∀ i < 3, P i) ↔ P 0 ∧ P 1 ∧ P 2 := by
  constructor
  · exact fun h => ⟨h 0 (by decide), h 1 (by decide), h 2 (by decide)⟩
  · rintro ⟨h0, h1, h2⟩ i hi
    have hi' : i = 0 ∨ i = 1 ∨ i = 2 := by omega
    rcases hi' with rfl | rfl | rfl
    · exact h0
    · exact h1
    · exact h2

/-- What holds of the beat of a transfer of one. -/
theorem forall_lt_one {P : Nat → Prop} : (∀ i < 1, P i) ↔ P 0 := by
  constructor
  · exact fun h => h 0 (by decide)
  · intro h0 i hi
    obtain rfl : i = 0 := by omega
    exact h0

/-- A transfer of three beats loses exactly the first when that one is lost and the other two are copied. -/
theorem only_first_of_three (c : Nat → Bool) :
    (∀ i, i < 3 ∧ c i = false ↔ i = 0) ↔ c 0 = false ∧ c 1 = true ∧ c 2 = true := by
  constructor
  · intro h
    refine ⟨((h 0).2 rfl).2, ?_, ?_⟩
    · by_contra hc
      exact absurd ((h 1).1 ⟨by decide, by simpa using hc⟩) (by decide)
    · by_contra hc
      exact absurd ((h 2).1 ⟨by decide, by simpa using hc⟩) (by decide)
  · rintro ⟨h0, h1, h2⟩ i
    constructor
    · rintro ⟨hi, hc⟩
      have hi' : i = 0 ∨ i = 1 ∨ i = 2 := by omega
      rcases hi' with rfl | rfl | rfl
      · rfl
      · rw [h1] at hc
        cases hc
      · rw [h2] at hc
        cases hc
    · rintro rfl
      exact ⟨by decide, h0⟩

/-- A transfer of one beat loses exactly the first when it loses its only one. -/
theorem only_first_of_one (c : Nat → Bool) : (∀ i, i < 1 ∧ c i = false ↔ i = 0) ↔ c 0 = false := by
  constructor
  · exact fun h => ((h 0).2 rfl).2
  · intro h0 i
    constructor
    · exact fun hi => by omega
    · rintro rfl
      exact ⟨by decide, h0⟩

/-- What is known of the devices at the start of a test: the registers. -/
def entryView (s : Lossy) : CellView := ⟨fun _ => none, s.srcAddr, s.destAddr, s.numBytes, s.ipsr, s.made⟩

/-- At the entry of a test the view knows nothing of the pages, and the registers as they are. -/
theorem sees_entryView (s : Lossy) : CellView.Sees s (entryView s) := ⟨fun _ _ h => (nomatch h), rfl, rfl, rfl, rfl, rfl⟩

/-! ## Runs that are computed -/

/-- The executable device makes accesses that the device can make. -/
theorem step_sound (copied : Nat → Nat → Bool) :
    ∀ i s r s', Lossy.step copied i s = some (r, s') → Lossy.world.sem i s r s' := by
  intro i s r s' h
  cases i with
  | queue i =>
    cases i with
    | read64 a =>
      cases h
      exact ⟨rfl, rfl⟩
    | write64 a x =>
      cases h
      rfl
    | read32 r => cases h
    | write32 r x => cases h
    | writeReg64 r x => cases h
  | idma i =>
    cases i with
    | write64 reg x =>
      cases h
      rfl
    | read64 reg =>
      cases reg with
      | nextTransferId =>
        cases h
        exact Or.inr ⟨by decide, _, rfl⟩
      | lastTransferIdComplete =>
        cases h
        exact ⟨fun _ _ => rfl, rfl⟩
      | ipsr =>
        cases h
        exact ⟨rfl, rfl⟩
      | srcAddr => cases h
      | destAddr => cases h
      | numBytes => cases h
      | config => cases h
  | setCtl64 r x =>
    cases h
    exact ⟨fun _ _ => rfl, rfl⟩
  | setDc setter =>
    cases h
    exact ⟨fun _ _ => rfl, rfl⟩
  | _ => cases h

/-- The harness and the hart at the first test, beside devices that have made no transfer. -/
def bench : Bench Lossy := ⟨Lossy.boot, Harness.boot, false, Sys.boot, []⟩

end TransferAux

open DataTest

/-- Whatever the memory holds on entry and whatever beats are lost: what a test asserts about data holds exactly if every beat was
copied, except when the test is blind for the first beat of its first transfer and this is the only one that was lost. -/
theorem data_tests_tell_iff (link : TestLink) (logLevel : Int) (img : Image) (t : DataTest) (b b' : Bench Lossy)
    (r : Option Bool) (hmade : b.dev.made = []) (hrun : Run (testWorld logLevel img Lossy.world) (t.fn link) b (.ret r) b') :
    (DataHolds b'.asserted ↔ AllCopied b'.dev.made) ↔ ¬ (t.blind = true ∧ OnlyFirstLost b'.dev.made) := by
  cases t with
  | iommuBare =>
    obtain ⟨v, hsees, c, hc, has⟩ := returned_of_wp contract_keptBy (Or.inr rfl) hrun (sees_entryView b.dev)
      (iommuBareBody_wp link (entryView b.dev))
    have hm : b'.dev.made = [⟨3, c⟩] := hsees.made.trans (hc.trans (by rw [entryView, hmade]; rfl))
    rw [hm, show b'.asserted = _ from has, allCopied_iff, onlyFirstLost_cons, only_first_of_three, allCopied_iff]
    simp only [DataHolds, aboutData, blind, List.forall_mem_singleton, forall_lt_three]
    cases c 0 <;> cases c 1 <;> cases c 2 <;> simp
  | bothStagesBare =>
    obtain ⟨v, hsees, c, d, hc, has⟩ := returned_of_wp contract_keptBy (Or.inl rfl) hrun (sees_entryView b.dev)
      (bothStagesBareBody_wp link (entryView b.dev))
    have hm : b'.dev.made = [⟨1, c⟩, ⟨1, d⟩] := hsees.made.trans (hc.trans (by rw [entryView, hmade]; rfl))
    rw [hm, show b'.asserted = _ from has, allCopied_iff, onlyFirstLost_cons, only_first_of_one, allCopied_iff]
    simp only [DataHolds, aboutData, blind, List.forall_mem_cons, forall_lt_one]
    cases c 0 <;> cases d 0 <;> simp
  | idmaOnly idmaIrqEn =>
    obtain ⟨v, hsees, c, d, hc, has⟩ := returned_of_wp contract_keptBy (Or.inl rfl) hrun (sees_entryView b.dev)
      (idmaOnlyBody_wp idmaIrqEn (entryView b.dev))
    have hm : b'.dev.made = [⟨1, c⟩, ⟨1, d⟩] := hsees.made.trans (hc.trans (by rw [entryView, hmade]; rfl))
    rw [hm, show b'.asserted = _ from has, allCopied_iff, onlyFirstLost_cons, only_first_of_one, allCopied_iff]
    simp only [DataHolds, aboutData, blind, List.forall_mem_cons, forall_lt_one]
    cases idmaIrqEn <;> cases c 0 <;> cases d 0 <;> simp
  | idmaOnlyMultipleBeats =>
    obtain ⟨v, hsees, c, d, hc, has⟩ := returned_of_wp contract_keptBy (Or.inl rfl) hrun (sees_entryView b.dev)
      (idmaOnlyMultipleBeatsBody_wp (entryView b.dev))
    have hm : b'.dev.made = [⟨3, c⟩, ⟨3, d⟩] := hsees.made.trans (hc.trans (by rw [entryView, hmade]; rfl))
    rw [hm, show b'.asserted = _ from has, allCopied_iff, onlyFirstLost_cons, only_first_of_three, allCopied_iff]
    simp only [DataHolds, aboutData, blind, List.forall_mem_cons, forall_lt_three]
    cases c 0 <;> cases c 1 <;> cases c 2 <;> cases d 0 <;> cases d 1 <;> cases d 2 <;> simp

/-- The theorem at a run of `both_stages_bare` that copies every beat. -/
theorem data_tests_tell_at :
    ∃ r b', Run (testWorld logInfo Image.plain Lossy.world) (bothStagesBare TestLink.compact) bench (.ret r) b' ∧
      ((DataHolds b'.asserted ↔ AllCopied b'.dev.made) ↔
        ¬ (blind .bothStagesBare = true ∧ OnlyFirstLost b'.dev.made)) := by
  have hrun : ((bothStagesBare TestLink.compact).exec
      (testStep logInfo Image.plain (Lossy.step fun _ _ => true)) bench).isSome = true := by decide +kernel
  obtain ⟨⟨r, b'⟩, hx⟩ := Option.isSome_iff_exists.1 hrun
  have hr := Run.of_exec (testStep_sound (step_sound fun _ _ => true) logInfo Image.plain) hx
  exact ⟨r, b', hr, data_tests_tell_iff TestLink.compact logInfo Image.plain .bothStagesBare bench b' r rfl hr⟩

/-- In `iommu_bare` the value of the first beat is the one that its destination was cleared to. When this beat is lost, and the
other two are copied, the test asserts that all values match. -/
theorem iommu_bare_passes_on_lost_beat :
    ∃ r b', Run (testWorld logInfo Image.plain Lossy.world) (iommuBare TestLink.compact) bench (.ret r) b' ∧
      DataHolds b'.asserted ∧ Lost b'.dev.made 0 0 := by
  have hrun : ((iommuBare TestLink.compact).exec
      (testStep logInfo Image.plain (Lossy.step fun _ i => i != 0)) bench).map
        (fun x => (x.2.asserted, x.2.dev.made.map fun t => (t.beats, t.copied 0))) =
      some ([("Memory transfer with IOMMU in Bare mode: All values match", true)], [(3, false)]) := by decide +kernel
  obtain ⟨⟨r, b'⟩, hx, he⟩ := Option.map_eq_some_iff.1 hrun
  obtain ⟨has, hmade⟩ := Prod.mk.inj he
  refine ⟨r, b', Run.of_exec (testStep_sound (step_sound fun _ i => i != 0) logInfo Image.plain) hx, ?_, ?_⟩
  · rw [has]
    simp [DataHolds]
  · obtain ⟨t, ht, hbeat⟩ := List.map_eq_singleton_iff.1 hmade
    obtain ⟨hbeats, hlost⟩ := Prod.mk.inj hbeat
    exact ⟨t, by rw [ht]; rfl, by omega, hlost⟩

end RvIommuTests
