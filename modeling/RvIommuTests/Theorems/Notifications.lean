import RvIommuTests.Lemmas.Notifications
import RvIommuTests.Theorems.Goto

/-!
# What a notification test can tell

What the tests assert about a word of memory that the IOMMU is to write, in the runs in which it does not.
-/

namespace RvIommuTests

open Bytes Shared TestAux NotificationAux

namespace NotificationAux

/-- The body of the test of a notification, in the shape that every test function has. -/
theorem fn_body (link : TestLink) (n : Notification) (hplaced : Placed link.commandQueue)
    (hq : Apart link.commandQueue 1024 n.addr 4) (w : Word32) :
    ∃ name p, n.fn link = (TestFn.testStart name >>= fun _ => TestFn.body p >>= fun _ => TestFn.testEnd) ∧
      wp ((wordContract n.addr).bodyOnly (Stale n w)) p (fun _ g => ∃ v, (n.text, v) ∈ g.2) (w, []) := by
  cases n with
  | fence => exact ⟨_, _, rfl, iofenceBody_wp hplaced hq w⟩
  | fq => exact ⟨_, _, rfl, msiGenerationBody_wp hplaced (Or.inl rfl) hq w⟩
  | cq => exact ⟨_, _, rfl, msiGenerationBody_wp hplaced (Or.inr rfl) hq w⟩
  | pm => exact ⟨_, _, rfl, hpmBody_wp link w⟩

end NotificationAux

/-- In every run, up to any point, in which the IOMMU writes nothing to the word of a notification: the assertion that it did
so is false exactly if the word did not hold the data when the test was called. A run that returns has made the assertion. -/
theorem notification_false_iff (link : TestLink) (logLevel : Int) (img : Image) (n : Notification)
    (hplaced : Placed link.commandQueue) (hq : Apart link.commandQueue 1024 n.addr 4) (b b' : Bench Mem) (q : TestFn)
    (hnew : b.asserted = []) (hrun : Run (testWorld logLevel img (unnotified n.addr)) (n.fn link) b q b') :
    (∀ v, (n.text, v) ∈ b'.asserted → (v = false ↔ ¬ n.Written b.dev)) ∧
      ∀ r, q = .ret r → ∃ v, (n.text, v) ∈ b'.asserted := by
  obtain ⟨name, p, hfn, hp⟩ := fn_body link n hplaced hq (load b.dev 4 n.addr)
  rw [hfn] at hrun
  obtain ⟨hstale, hmade⟩ := asserted_of_wp (wordContract_keptBy n.addr) (Or.inl rfl) hrun rfl hnew hp
  refine ⟨?_, fun r hr => (hmade r hr).elim fun _ h => h⟩
  intro v hv
  have hsame : v = ((load b.dev 4 n.addr).setWidth 64 == n.data) := hstale _ hv rfl
  rw [hsame, beq_eq_false_iff_ne]
  exact Iff.rfl

/-- In `mrif_support`, which clears the word first, the assertion is false whatever the word was. -/
theorem mrif_notice_false (link : TestLink) (logLevel : Int) (img : Image) (hplaced : Placed link.commandQueue)
    (hq : Apart link.commandQueue 1024 noticeAddr1 4) (hmrif : Apart link.mrif 512 noticeAddr1 4) (b b' : Bench Mem) (q : TestFn)
    (hnew : b.asserted = []) (hrun : Run (testWorld logLevel img (unnotified noticeAddr1)) (mrifSupport link) b q b') (v : Bool)
    (hv : (noticeText, v) ∈ b'.asserted) : v = false :=
  (asserted_of_wp (wordContract_keptBy noticeAddr1) (Or.inl rfl) hrun rfl hnew
    (mrifSupportBody_wp hplaced hq hmrif (load b.dev 4 noticeAddr1))).1 _ hv rfl

namespace NotificationAux

theorem untouched_sound (a : Addr) : ∀ i m r m', untouched i m = some (r, m') → (unnotified a).sem i m r m' := by
  intro i m r m' h
  cases i with
  | queue i =>
    cases i with
    | read32 reg =>
      cases h
      cases reg with
      | cqt => exact ⟨by decide, rfl⟩
      | _ => rfl
    | write32 reg x =>
      cases h
      rfl
    | write64 b x =>
      cases h
      rfl
    | read64 b => cases h
    | writeReg64 reg x => cases h
  | getCtl32 reg =>
    cases h
    rfl
  | setCtl32 reg x =>
    cases h
    rfl
  | setCtl64 reg x =>
    cases h
    rfl
  | load32 b =>
    cases h
    exact ⟨rfl, rfl⟩
  | stack =>
    cases h
    rfl
  | _ => cases h

/-- The harness and the hart at the first test, and a memory. -/
def memBench (m : Mem) : Bench Mem := ⟨m, Harness.boot, false, Sys.boot, []⟩

theorem queue_beside_fence : Placed Link.compact.commandQueue ∧ Apart Link.compact.commandQueue 1024 Notification.fence.addr 4 :=
  ⟨⟨by decide, by decide⟩, by decide⟩

end NotificationAux

/-- The theorem at a run of `iofence` on memory that is zero. -/
theorem notification_false_at :
    ∃ r b', Run (testWorld logInfo Image.plain (unnotified Notification.fence.addr)) (Notification.fence.fn TestLink.compact)
        (memBench fun _ => 0#8) (.ret r) b' ∧
      (∀ v, (Notification.fence.text, v) ∈ b'.asserted → (v = false ↔ ¬ Notification.fence.Written fun _ => 0#8)) ∧
      ∃ v, (Notification.fence.text, v) ∈ b'.asserted := by
  have hrun : ((Notification.fence.fn TestLink.compact).exec (testStep logInfo Image.plain untouched)
      (memBench fun _ => 0#8)).isSome = true := by decide +kernel
  obtain ⟨⟨r, b'⟩, hx⟩ := Option.isSome_iff_exists.1 hrun
  have hr := Run.of_exec (testStep_sound (untouched_sound Notification.fence.addr) logInfo Image.plain) hx
  have hfalse := notification_false_iff TestLink.compact logInfo Image.plain .fence queue_beside_fence.1 queue_beside_fence.2 _ b' _
    rfl hr
  exact ⟨r, b', hr, hfalse.1, hfalse.2 r rfl⟩

/-- The data of a fence is in memory from an earlier run of `iofence`. The IOMMU writes nothing, and the test asserts that it has
written the data. -/
theorem iofence_passes_on_stale_word :
    ∃ r b', Run (testWorld logInfo Image.plain (unnotified Notification.fence.addr)) (Notification.fence.fn TestLink.compact)
        (memBench (store (fun _ => 0#8) 4 iofenceAddr 0xABCDEF#32)) (.ret r) b' ∧
      (Notification.fence.text, true) ∈ b'.asserted := by
  have hrun : ((Notification.fence.fn TestLink.compact).exec (testStep logInfo Image.plain untouched)
      (memBench (store (fun _ => 0#8) 4 iofenceAddr 0xABCDEF#32))).map
        (fun x => decide ((Notification.fence.text, true) ∈ x.2.asserted)) = some true := by decide +kernel
  obtain ⟨⟨r, b'⟩, hx, hmem⟩ := Option.map_eq_some_iff.1 hrun
  exact ⟨r, b', Run.of_exec (testStep_sound (untouched_sound Notification.fence.addr) logInfo Image.plain) hx,
    of_decide_eq_true hmem⟩

end RvIommuTests
