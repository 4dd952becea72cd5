import RvIommuTests.Lemmas.Queues
import RvIommuTests.Lemmas.TestContracts
import RvIommuTests.Notifications

/-!
# The tests around a word that is not notified

The view of the devices is the word alone. Every access but a load and a store of the word answers what it likes, so each test is
followed to its assertions whatever happens in between.
-/

namespace RvIommuTests

open Bytes Shared TestAux

/-- The contract around the word at `a`, which the view holds: a test stores to it as a whole or not at all. -/
def wordContract (a : Addr) : Contract DevIo DevIo.Answer Word32 where
  pre
    | .queue (.write64 b _), _ => Apart b 8 a 4
    | .store32 b _, _ => b = a ∨ Apart b 4 a 4
    | _, _ => True
  post
    | .queue (.read32 .cqt), w, r, w' => r.toNat < nEntries ∧ w' = w
    | .load32 b, w, r, w' => (b = a → r = w) ∧ w' = w
    | .store32 b v, w, _, w' => w' = if b = a then v else w
    | _, w, _, w' => w' = w

namespace NotificationAux

/-- A platform that never writes the word of a notification keeps the contract: the word has the value that the program last
stored. -/
theorem wordContract_keptBy (a : Addr) : (wordContract a).KeptBy (unnotified a) (fun m w => load m 4 a = w) := by
  constructor
  · intro i m w r m' h hpre hsem
    cases i with
    | queue i =>
      cases i with
      | read64 b =>
        obtain ⟨-, rfl⟩ := hsem
        exact ⟨w, rfl, h⟩
      | write64 b x =>
        cases hsem
        exact ⟨w, rfl, (@load_store_apart m 8 4 b a x hpre).trans h⟩
      | read32 reg =>
        cases reg with
        | cqt => exact ⟨w, ⟨hsem.1, rfl⟩, hsem.2.trans h⟩
        | _ => exact ⟨w, rfl, hsem.trans h⟩
      | write32 reg x => exact ⟨w, rfl, hsem.trans h⟩
      | writeReg64 reg x => exact ⟨w, rfl, hsem.trans h⟩
    | load32 b =>
      obtain ⟨rfl, rfl⟩ := hsem
      exact ⟨w, ⟨fun hb => hb ▸ h, rfl⟩, h⟩
    | store32 b x =>
      cases hsem
      refine ⟨_, rfl, ?_⟩
      by_cases hb : b = a
      · subst hb
        rw [if_pos rfl]
        exact @load_store_same m 4 (by decide) b x
      · rw [if_neg hb]
        exact (@load_store_apart m 4 4 b a x (hpre.resolve_left hb)).trans h
    | idma i => exact ⟨w, by cases i <;> rfl, hsem.trans h⟩
    | _ => exact ⟨w, rfl, hsem.trans h⟩
  · exact fun m w m' h he => he.trans h

/-! ## Rules -/

section Rules

variable {a : Addr} {w : Word32} {P : String × Bool → Prop} {as : List (String × Bool)}

/-- A register may read as anything, and reading it does not touch the word. -/
theorem wp_getCtl32 (r : Ctl32) (Q : Word32 → Word32 × List (String × Bool) → Prop) :
    @wp _ _ _ Word32 ((wordContract a).bodyOnly P) (Body.dev (.getCtl32 r)) Q (w, as) ↔ ∀ x, Q x (w, as) := by
  rw [wp_dev]
  exact ⟨fun h x => h.2 x w rfl, fun h => ⟨trivial, fun x d hd => hd ▸ h x⟩⟩

/-- A read of a 64-bit register of the IOMMU may answer anything, and leaves the word. -/
theorem wp_getCtl64 (r : Ctl64) (Q : Word → Word32 × List (String × Bool) → Prop) :
    @wp _ _ _ Word ((wordContract a).bodyOnly P) (Body.dev (.getCtl64 r)) Q (w, as) ↔ ∀ x, Q x (w, as) := by
  rw [wp_dev]
  exact ⟨fun h x => h.2 x w rfl, fun h => ⟨trivial, fun x d hd => hd ▸ h x⟩⟩

/-- What is on the stack may be anything, and the word is left. -/
theorem wp_stack (Q : Record → Word32 × List (String × Bool) → Prop) :
    @wp _ _ _ Record ((wordContract a).bodyOnly P) (Body.dev .stack) Q (w, as) ↔ ∀ x, Q x (w, as) := by
  rw [wp_dev]
  exact ⟨fun h x => h.2 x w rfl, fun h => ⟨trivial, fun x d hd => hd ▸ h x⟩⟩

/-- A write to a register does not touch the word. -/
theorem wp_setCtl32 (r : Ctl32) (v : Word32) (Q : Unit → Word32 × List (String × Bool) → Prop) :
    @wp _ _ _ Unit ((wordContract a).bodyOnly P) (Body.dev (.setCtl32 r v)) Q (w, as) ↔ Q () (w, as) := by
  rw [wp_dev]
  exact ⟨fun h => h.2 () w rfl, fun h => ⟨trivial, fun x d hd => hd ▸ h⟩⟩

/-- A write to a 64-bit register of the IOMMU leaves the word. -/
theorem wp_setCtl64 (r : Ctl64) (v : Word) (Q : Unit → Word32 × List (String × Bool) → Prop) :
    @wp _ _ _ Unit ((wordContract a).bodyOnly P) (Body.dev (.setCtl64 r v)) Q (w, as) ↔ Q () (w, as) := by
  rw [wp_dev]
  exact ⟨fun h => h.2 () w rfl, fun h => ⟨trivial, fun x d hd => hd ▸ h⟩⟩

/-- A setter of the device context leaves the word, which is no part of the directory. -/
theorem wp_setDc (setter : DcSetter) (Q : Unit → Word32 × List (String × Bool) → Prop) :
    @wp _ _ _ Unit ((wordContract a).bodyOnly P) (Body.dev (.setDc setter)) Q (w, as) ↔ Q () (w, as) := by
  rw [wp_dev]
  exact ⟨fun h => h.2 () w rfl, fun h => ⟨trivial, fun x d hd => hd ▸ h⟩⟩

/-- The word is what it was last stored to be. -/
theorem wp_load {b : Addr} (hb : b = a) (Q : Word32 → Word32 × List (String × Bool) → Prop) :
    @wp _ _ _ Word32 ((wordContract a).bodyOnly P) (Body.dev (.load32 b)) Q (w, as) ↔ Q w (w, as) := by
  rw [wp_dev]
  constructor
  · exact fun h => h.2 w w ⟨fun _ => rfl, rfl⟩
  · intro h
    refine ⟨trivial, ?_⟩
    rintro r d ⟨hr, rfl⟩
    exact hr hb ▸ h

/-- A word of memory other than the one of the notification reads as anything. -/
theorem wp_load_other {b : Addr} (hb : b ≠ a) (Q : Word32 → Word32 × List (String × Bool) → Prop) :
    @wp _ _ _ Word32 ((wordContract a).bodyOnly P) (Body.dev (.load32 b)) Q (w, as) ↔ ∀ x, Q x (w, as) := by
  rw [wp_dev]
  constructor
  · exact fun h x => h.2 x w ⟨fun he => absurd he hb, rfl⟩
  · intro h
    refine ⟨trivial, ?_⟩
    rintro r d ⟨-, rfl⟩
    exact h r

/-- A store to the word is what it holds from then on. -/
theorem wp_store {b : Addr} (hb : b = a) (v : Word32) (Q : Unit → Word32 × List (String × Bool) → Prop) :
    @wp _ _ _ Unit ((wordContract a).bodyOnly P) (Body.dev (.store32 b v)) Q (w, as) ↔ Q () (v, as) := by
  subst hb
  rw [wp_dev]
  constructor
  · exact fun h => h.2 () v (if_pos rfl).symm
  · refine fun h => ⟨Or.inl rfl, ?_⟩
    intro r d hd
    rw [hd, if_pos rfl]
    exact h

/-- A store that is apart from the word of the notification leaves it. -/
theorem wp_store_other {b : Addr} (hb : Apart b 4 a 4) (v : Word32) (Q : Unit → Word32 × List (String × Bool) → Prop) :
    @wp _ _ _ Unit ((wordContract a).bodyOnly P) (Body.dev (.store32 b v)) Q (w, as) ↔ Q () (w, as) := by
  have hne : b ≠ a := by
    rintro rfl
    have := hb.1
    simp at this
  rw [wp_dev]
  constructor
  · exact fun h => h.2 () w (if_neg hne).symm
  · refine fun h => ⟨Or.inr hb, ?_⟩
    intro r d hd
    rw [hd, if_neg hne]
    exact h

/-! ### The drivers -/

/-- A register of the queues may read as anything, but for the tail of the command queue. -/
theorem wp_read32 {r : Reg32} (hr : r ≠ .cqt) (Q : Word32 → Word32 → Prop) :
    wp (wordContract a).queue (read32 r) Q w ↔ ∀ x, Q x w := by
  rw [read32, wp_queue_call]
  constructor
  · intro h x
    refine h.2 x w ?_
    cases r with
    | cqt => exact absurd rfl hr
    | _ => rfl
  · intro h
    refine ⟨trivial, ?_⟩
    intro x d hd
    cases r with
    | cqt => exact absurd rfl hr
    | _ =>
      cases hd
      exact h x

/-- The tail of the command queue reads as some index of the ring, of which nothing more is known. -/
theorem wp_tail (Q : Word32 → Word32 → Prop) :
    wp (wordContract a).queue (read32 .cqt) Q w ↔ ∀ x : Word32, x.toNat < 64 → Q x w := by
  rw [read32, wp_queue_call]
  constructor
  · exact fun h x hx => h.2 x w ⟨hx, rfl⟩
  · intro h
    refine ⟨trivial, ?_⟩
    rintro x d ⟨hx, rfl⟩
    exact h x hx

/-- A write to a register of the queues does not touch the word. -/
theorem wp_write32 (r : Reg32) (v : Word32) (Q : Unit → Word32 → Prop) :
    wp (wordContract a).queue (write32 r v) Q w ↔ Q () w := by
  rw [write32, wp_queue_call]
  exact ⟨fun h => h.2 () w rfl, fun h => ⟨trivial, fun x d hd => hd ▸ h⟩⟩

/-- Any doubleword reads as anything, and the word is left. -/
theorem wp_read64 (b : Addr) (Q : Word → Word32 → Prop) : wp (wordContract a).queue (read64 b) Q w ↔ ∀ x, Q x w := by
  rw [read64, wp_queue_call]
  exact ⟨fun h x => h.2 x w rfl, fun h => ⟨trivial, fun x d hd => hd ▸ h x⟩⟩

/-- A doubleword may be written where it does not reach the word. -/
theorem wp_write64 (b : Addr) (v : Word) (Q : Unit → Word32 → Prop) :
    wp (wordContract a).queue (write64 b v) Q w ↔ Apart b 8 a 4 ∧ Q () w := by
  rw [write64, wp_queue_call]
  exact ⟨fun h => ⟨h.1, h.2 () w rfl⟩, fun h => ⟨h.1, fun x d hd => hd ▸ h.2⟩⟩

/-- A register of the DMA device may read as anything. -/
theorem wp_idmaRead (r : IdmaReg) (Q : Word → Word32 → Prop) :
    wp (wordContract a).idma (idmaRead r) Q w ↔ ∀ x, Q x w := by
  rw [idmaRead, wp_idma_call]
  exact ⟨fun h x => h.2 x w rfl, fun h => ⟨trivial, fun x d hd => hd ▸ h x⟩⟩

/-- A write to a register of the DMA device leaves the word. -/
theorem wp_idmaWrite (r : IdmaReg) (v : Word) (Q : Unit → Word32 → Prop) :
    wp (wordContract a).idma (idmaWrite r v) Q w ↔ Q () w := by
  rw [idmaWrite, wp_idma_call]
  exact ⟨fun h => h.2 () w rfl, fun h => ⟨trivial, fun x d hd => hd ▸ h⟩⟩

/-- When the driver has waited for a transfer, the word is as it was. -/
theorem wp_idmaWait (id : Word) (Q : Unit → Word32 → Prop) : wp (wordContract a).idma (idmaWait id) Q w ↔ Q () w := by
  rw [idmaWait, wp_waitFor]
  constructor
  · intro h
    have hid := h.2 id w ⟨id, rfl, rfl⟩
    rwa [if_pos (by simp)] at hid
  · intro h
    refine ⟨trivial, ?_⟩
    rintro r _ ⟨_, rfl, rfl⟩
    split
    · exact h
    · rfl

/-! ### The pieces of the tests -/

/-- A command is stored in the queue, wherever the tail is. -/
theorem wp_issue {link : TestLink} (hplaced : Placed link.commandQueue) (hq : Apart link.commandQueue 1024 a 4) (c : DriverCall)
    (Q : Unit → Word32 × List (String × Bool) → Prop) :
    wp ((wordContract a).bodyOnly P) (Body.issue link c) Q (w, as) ↔ Q () (w, as) := by
  have hentry : ∀ cqt : Word32, cqt.toNat < 64 →
      Apart ((link.commandQueue &&& ppnMask) ||| (cqt <<< 4).setWidth 64) 8 a 4 ∧
        Apart (((link.commandQueue &&& ppnMask) ||| (cqt <<< 4).setWidth 64) + 8#64) 8 a 4 := by
    intro cqt hcqt
    rw [QueuesAux.entry_addr hplaced hcqt (by decide)]
    refine ⟨hq.part (by decide) (by omega), ?_⟩
    rw [show (8#64 : Word) = BitVec.ofNat 64 8 from rfl, BitVec.add_assoc, ← BitVec.ofNat_add]
    exact hq.part (by decide) (by omega)
  simp only [Body.issue, DriverCall.run, rvIommuWriteCommandInQueue, wp_bind, wp_stack, wp_queue, wp_tail, wp_write64, wp_write32]
  constructor
  · exact fun h => (h ⟨0#64, 0#64, 0#64, 0#64⟩ 0#32 (by decide)).2.2
  · exact fun h newCmd cqt hcqt => ⟨(hentry cqt hcqt).1, (hentry cqt hcqt).2, h⟩

/-- A transfer may be refused or not, and leaves the word, as the devices do not write it here. -/
theorem wp_transfer (src dst n : Word) (Q : Unit → Word32 × List (String × Bool) → Prop) :
    wp ((wordContract a).bodyOnly P) (Body.transfer (idmaSetup src dst n)) Q (w, as) ↔ Q () (w, as) := by
  simp only [Body.transfer, wp_bind, wp_idma, idmaSetup, idmaExecTransfer, wp_idmaWrite, wp_idmaRead]
  constructor
  · intro h
    have h1 := h 1#64
    rw [if_neg (by decide), wp_bind, wp_idmaWait] at h1
    exact h1
  · intro h id
    split
    · exact (wp_error _ _).2 trivial
    · rw [wp_bind, wp_idmaWait]
      exact h

/-- Whatever record the test reads from the fault queue, the word is left. -/
theorem wp_readRecord (link : TestLink) (fqEntry : Record) (Q : Record → Word32 × List (String × Bool) → Prop) :
    wp ((wordContract a).bodyOnly P) (Body.readRecord link fqEntry) Q (w, as) ↔ ∀ r, Q r (w, as) := by
  have hfqh : Reg32.fqh ≠ Reg32.cqt := Reg32.noConfusion
  have hfqt : Reg32.fqt ≠ Reg32.cqt := Reg32.noConfusion
  simp only [Body.readRecord, rvIommuFqReadRecord, wp_bind, wp_queue, wp_read32 hfqh, wp_read32 hfqt]
  constructor
  · intro h r
    have h1 := h 0#32 1#32
    simp only [if_pos (show (0#32 : Word32) ≠ 1#32 by decide), wp_bind, wp_read64, wp_write32, wp_pure] at h1
    exact h1 r.dw0 r.dw1 r.dw2 r.dw3
  · intro h fqh fqt
    split
    · simp only [wp_bind, wp_read64, wp_write32, wp_pure]
      exact fun dw0 dw1 dw2 dw3 => h ⟨dw0, dw1, dw2, dw3⟩
    · rw [wp_pure, if_pos (show (-1 : Int) ≠ 0 by decide), wp_bind]
      exact (wp_error _ _).2 trivial

/-- Neither does the setup of both stages touch the word. -/
theorem wp_twoStages (link : TestLink) (Q : Unit → Word32 × List (String × Bool) → Prop) :
    wp ((wordContract a).bodyOnly P) (Body.twoStages link) Q (w, as) ↔ Q () (w, as) := by
  simp only [Body.twoStages, Body.setIommu, wp_bind, wp_setCtl64, wp_setDc]

/-- Nor the one of the counter that is to overflow. -/
theorem wp_overflowCycles (Q : Unit → Word32 × List (String × Bool) → Prop) :
    wp ((wordContract a).bodyOnly P) Body.overflowCycles Q (w, as) ↔ Q () (w, as) := by
  simp only [Body.overflowCycles, wp_bind, wp_getCtl32, wp_setCtl32, wp_setCtl64, wp_waitFor]
  constructor
  · intro h
    have h1 := (h 0#32).2 (1#64 <<< 63) (w, as) ((body_post _ _ _).2 ⟨w, rfl, rfl⟩)
    rwa [if_pos (by decide)] at h1
  · intro h _
    refine ⟨trivial, ?_⟩
    intro r g' hr
    obtain ⟨_, rfl, rfl⟩ := (body_post _ _ _).1 hr
    split
    · exact h
    · rfl

end Rules

/-! ## The bodies -/

/-- What may be asserted: that the word holds the data exactly when it did on entry. -/
def Stale (n : Notification) (w : Word32) (as : String × Bool) : Prop := as.1 = n.text → as.2 = (w.setWidth 64 == n.data)

/-- A comparison of words of 32 bits may be made at 64 bits. -/
theorem setWidth_eq_iff {x y : Word32} : x.setWidth 64 = y.setWidth 64 ↔ x = y := by
  constructor
  · intro h
    have h1 := congrArg (BitVec.setWidth 32) h
    rwa [BitVec.setWidth_setWidth_of_le _ (by decide), BitVec.setWidth_setWidth_of_le _ (by decide), BitVec.setWidth_eq,
      BitVec.setWidth_eq] at h1
  · exact congrArg _

/-- `iofence` compares the word with what it stored there before the fence, so without a notification the assertion is of a false
condition, unless the word was the one that is expected. -/
theorem iofenceBody_wp {link : TestLink} (hplaced : Placed link.commandQueue)
    (hq : Apart link.commandQueue 1024 (Notification.fence).addr 4) (w : Word32) :
    wp ((wordContract (Notification.fence).addr).bodyOnly (Stale .fence w)) (iofenceBody link)
      (fun _ g => ∃ v, (Notification.fence.text, v) ∈ g.2) (w, []) := by
  have hcqh : Reg32.cqh ≠ Reg32.cqt := Reg32.noConfusion
  have hcqcsr : Reg32.cqcsr ≠ Reg32.cqt := Reg32.noConfusion
  simp only [iofenceBody, wp_bind, Body.setIommu, Body.getIpsr, Body.clearIpsrFip, wp_setCtl64, wp_queue, wp_read32 hcqh,
    wp_read32 hcqcsr, wp_issue hplaced hq, wp_getCtl32, wp_assertOnly,
    wp_load (show iofenceAddr = Notification.fence.addr from rfl), wp_write32,
    wp_setCtl32]
  simp [Stale, Notification.text, Notification.data]

/-- `msi_generation` makes the assertion about each of its two words, with whatever value while the word is stale. -/
theorem msiGenerationBody_wp {link : TestLink} (hplaced : Placed link.commandQueue) {n : Notification} (hn : n = .fq ∨ n = .cq)
    (hq : Apart link.commandQueue 1024 n.addr 4) (w : Word32) :
    wp ((wordContract n.addr).bodyOnly (Stale n w)) (msiGenerationBody link)
      (fun _ g => ∃ v, (n.text, v) ∈ g.2) (w, []) := by
  have hcqcsr : Reg32.cqcsr ≠ Reg32.cqt := Reg32.noConfusion
  simp only [msiGenerationBody, wp_bind, wp_twoStages, Body.setIgMsi, Body.getIpsr, Body.clearIpsrFip, wp_setCtl32, wp_queue,
    wp_transfer, wp_read32 hcqcsr, wp_issue hplaced hq, wp_getCtl32, wp_assertOnly, wp_write32, wp_stack, wp_readRecord, wp_pure]
  rcases hn with rfl | rfl
  · simp only [wp_load (show msiAddrFq = (Notification.fq).addr from rfl),
      wp_load_other (show msiAddrCq ≠ (Notification.fq).addr by decide)]
    simp [Stale, Notification.text, Notification.data, setWidth_eq_iff]
  · simp only [wp_load (show msiAddrCq = (Notification.cq).addr from rfl),
      wp_load_other (show msiAddrFq ≠ (Notification.cq).addr by decide)]
    simp [Stale, Notification.text, Notification.data, setWidth_eq_iff]

/-- `hpm` makes the assertion about the word of the overflow, with whatever value while the word is stale. -/
theorem hpmBody_wp (link : TestLink) (w : Word32) :
    wp ((wordContract (Notification.pm).addr).bodyOnly (Stale .pm w)) (hpmBody link)
      (fun _ g => ∃ v, (Notification.pm.text, v) ∈ g.2) (w, []) := by
  simp only [hpmBody, wp_bind, wp_twoStages, Body.setIgWsi, Body.setIgMsi, Body.getIpsr, Body.clearIpsrFip, wp_setCtl32,
    wp_setCtl64, wp_overflowCycles, wp_transfer, wp_getCtl32, wp_getCtl64, wp_assertOnly,
    wp_load (show msiAddrHpm = Notification.pm.addr from rfl)]
  simp [Stale, Notification.text, Notification.data, setWidth_eq_iff]

/-- The first of the two checks of the notice in `mrif_support` that expect it. -/
def noticeText : String := "MRIF with Second-stage only: MSI notice matches"

instance (b : Addr) (n : Nat) (a : Addr) (k : Nat) : Decidable (Apart b n a k) := inferInstanceAs (Decidable (_ ∧ _))

/-- `mrif_support` clears the word of the notice first, so without a notice the assertion about it is always of a false
condition. -/
theorem mrifSupportBody_wp {link : TestLink} (hplaced : Placed link.commandQueue)
    (hq : Apart link.commandQueue 1024 noticeAddr1 4) (hmrif : Apart link.mrif 512 noticeAddr1 4) (w : Word32) :
    wp ((wordContract noticeAddr1).bodyOnly fun as => as.1 = noticeText → as.2 = false) (mrifSupportBody link)
      (fun _ _ => True) (w, []) := by
  have h2 : noticeAddr2 ≠ noticeAddr1 := by decide
  have h3 : Apart (phys .msiR3) 4 noticeAddr1 4 := by decide
  have h4 : Apart (phys .msiR4) 4 noticeAddr1 4 := by decide
  have h5 : Apart noticeAddr2 4 noticeAddr1 4 := by decide
  have h6 : Apart (link.mrif + BitVec.ofNat 64 (8 * intIpIdx intId1)) 8 noticeAddr1 4 := hmrif.part (by decide) (by decide)
  simp only [mrifSupportBody, wp_bind, Body.setIommu, Body.mrifIp, Body.clearIpsrFip, wp_setCtl32, wp_setCtl64, wp_setDc,
    wp_issue hplaced hq, wp_store_other h3, wp_store_other h4, wp_store_other h5, wp_store (Eq.refl noticeAddr1), wp_transfer,
    wp_queue, wp_read64, wp_assertOnly, wp_load (Eq.refl noticeAddr1), wp_load_other h2, wp_stack, wp_readRecord, wp_write64]
  simp [noticeText, h6]
  decide

end NotificationAux

end RvIommuTests
