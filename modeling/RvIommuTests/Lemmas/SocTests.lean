import RvIommuTests.Lemmas.Flawless
import RvIommuTests.Lemmas.Soc
import RvIommuTests.Theorems.DebugInterface

/-!
# The tests on devices as they should be

Each test body, folded over the contract of the platform: it starts with no fault in the queue and the same entries exchanged in
both stages, finds what it expects, and leaves the platform so.
-/

namespace RvIommuTests

open Bytes Fields Paging Shared QueuesAux RequestMapAux SocAux FlawlessAux DebugMapAux

namespace SocTestsAux

variable {link : TestLink} {v : View} {a : Addr} {n : Nat}

/-- The contract of a test body on the platform. -/
abbrev body (link : TestLink) : Contract BodyIo BodyIo.Answer View := (View.contract link).flawlessBody

/-! ## Rules for the IOMMU -/

/-- After a call that sets the mode of the IOMMU the view shows that mode: two modes are never written as the same value. -/
theorem wp_setIommu (h : ImagePlaced link) (mode : DdtpMode) (Q : Unit → View → Prop) :
    wp (body link) (Body.setIommu link mode) Q v ↔ Q () { v with mode := mode } := by
  rw [Body.setIommu, wp_dev]
  refine ⟨fun hq => hq.2 () _ ⟨mode, rfl, rfl⟩, fun hq => ⟨⟨mode, rfl⟩, ?_⟩⟩
  rintro r v' ⟨mode', hmode, rfl⟩
  have hsame := (ddtp_mode h mode).1.symm.trans (hmode ▸ (ddtp_mode h mode').1)
  exact Option.some.inj hsame ▸ hq

/-- A setter of the device context changes the modes that the view shows. -/
theorem wp_setDc (setter : DcSetter) (Q : Unit → View → Prop) :
    @wp _ _ _ Unit (body link) (Body.dev (.setDc setter)) Q v ↔ Q () { v with modes := v.modes.set setter } := by
  rw [wp_dev]
  exact ⟨fun hq => hq.2 () _ rfl, fun hq => ⟨trivial, fun _ _ hd => hd ▸ hq⟩⟩

/-- The switch of the first stage exchanges the two entries, or puts them back. -/
theorem wp_s1ptSwitch (Q : Unit → View → Prop) :
    @wp _ _ _ Unit (body link) (Body.dev .s1ptSwitch) Q v ↔
      Q () { v with exchanged := Function.update v.exchanged .first (!v.exchanged .first) } := by
  rw [wp_dev]
  exact ⟨fun hq => hq.2 () _ rfl, fun hq => ⟨trivial, fun _ _ hd => hd ▸ hq⟩⟩

/-- The switch of the second stage exchanges its two pages in the view, as that of the first stage does. -/
theorem wp_s2ptSwitch (Q : Unit → View → Prop) :
    @wp _ _ _ Unit (body link) (Body.dev .s2ptSwitch) Q v ↔
      Q () { v with exchanged := Function.update v.exchanged .second (!v.exchanged .second) } := by
  rw [wp_dev]
  exact ⟨fun hq => hq.2 () _ rfl, fun hq => ⟨trivial, fun _ _ hd => hd ▸ hq⟩⟩

/-- How interrupts are signalled is not part of the view. -/
theorem wp_setIgWsi (Q : Unit → View → Prop) : wp (body link) Body.setIgWsi Q v ↔ Q () v := by
  rw [Body.setIgWsi, wp_dev]
  exact ⟨fun hq => hq.2 () _ rfl, fun hq => ⟨trivial, fun _ _ hd => hd ▸ hq⟩⟩

/-- What is on the stack of a function is anything. -/
theorem wp_stack (Q : Record → View → Prop) :
    @wp _ _ _ Record (body link) (Body.dev .stack) Q v ↔ ∀ r, Q r v := by
  rw [wp_dev]
  exact ⟨fun hq r => hq.2 r _ rfl, fun hq => ⟨trivial, fun r _ hd => hd ▸ hq r⟩⟩

/-- `ipsr` tells whether a fault has been reported since it was last cleared. -/
theorem wp_getIpsr (Q : Word32 → View → Prop) :
    wp (body link) Body.getIpsr Q v ↔ Q (if v.fip then fipMask else 0#32) v := by
  rw [Body.getIpsr, wp_dev]
  exact ⟨fun hq => hq.2 _ _ ⟨rfl, rfl⟩, fun hq => ⟨trivial, fun _ _ hd => hd.1 ▸ hd.2 ▸ hq⟩⟩

/-- The bit of the fault queue in `ipsr` is cleared by writing one to it, as the mask that the test writes does. -/
theorem wp_clearIpsrFip (Q : Unit → View → Prop) : wp (body link) Body.clearIpsrFip Q v ↔ Q () { v with fip := false } := by
  have hclear : (v.fip && (0x7#32 &&& fipMask == 0#32)) = false := by
    rw [show (0x7#32 &&& fipMask == 0#32) = false by decide, Bool.and_false]
  rw [Body.clearIpsrFip, wp_dev]
  refine ⟨fun hq => hclear ▸ hq.2 () _ rfl, fun hq => ⟨trivial, ?_⟩⟩
  rintro _ _ rfl
  rw [hclear]
  exact hq

/-! ## Rules for the memory -/

/-- A doubleword is written to a region that is watched. What the view shows afterwards is determined. -/
theorem wp_queue_write {x : Word} {w : View} (h : ImagePlaced link) (hw : View.Writes link v a x w) (Q : Unit → View → Prop) :
    wp (View.contract link).queue (write64 a x) Q v ↔ Q () w := by
  rw [write64, TestAux.wp_queue_call]
  exact ⟨fun hq => hq.2 () w fun w' hw' => writes_unique h hw hw', fun hq => ⟨⟨w, hw⟩, fun r v' hv' => hv' w hw ▸ hq⟩⟩

/-- A doubleword is read from a region that is watched, so that its value is known. -/
theorem wp_queue_read {x : Word} (hx : View.Reads link v a x) {Q : Word → View → Prop} (hQ : Q x v) :
    wp (View.contract link).queue (read64 a) Q v := by
  rw [read64, TestAux.wp_queue_call]
  exact ⟨⟨x, hx⟩, fun r v' hv' => hv'.1 x hx ▸ hv'.2 ▸ hQ⟩

/-- When a test writes a doubleword of the data, the view has the same store made to its data. -/
theorem wp_write64 (h : ImagePlaced link) (ha : InData a 8) (x : Word) (Q : Unit → View → Prop) :
    wp (body link) (Body.queue (write64 a x)) Q v ↔ Q () { v with mem := store v.mem 8 a x } := by
  rw [wp_queue, wp_queue_write h (.data a x (within_data link ha))]

/-- When a test writes a doubleword of the MRIF, the view has that doubleword replaced. -/
theorem wp_writeMrif (h : ImagePlaced link) {i : Nat} (hi : i < 64) (x : Word) (Q : Unit → View → Prop) :
    wp (body link) (Body.queue (write64 (link.mrif + BitVec.ofNat 64 (8 * i)) x)) Q v ↔
      Q () { v with mrif := Function.update v.mrif i x } := by
  rw [wp_queue, wp_queue_write h (.mrif i x hi)]

/-- The check that a doubleword of the data has the value that it has succeeds. -/
theorem wp_holds {x : Word} (ha : InData a 8) (hx : load v.mem 8 a = x) {Q : Bool → View → Prop} (hQ : Q true v) :
    wp (body link) (Body.holds a x) Q v := by
  subst hx
  rw [Body.holds, wp_bind, wp_queue]
  refine wp_queue_read (.data a (within_data link ha)) ?_
  rw [wp_pure, beq_self_eq_true]
  exact hQ

/-- The check of two doublewords of the data succeeds when both have the values that are expected. -/
theorem wp_bothHold {b : Addr} {x y : Word} (ha : InData a 8) (hb : InData b 8) (hx : load v.mem 8 a = x) (hy : load v.mem 8 b = y)
    {Q : Bool → View → Prop} (hQ : Q true v) : wp (body link) ((Body.holds a x).and (Body.holds b y)) Q v := by
  rw [wp_and]
  refine wp_holds ha hx ?_
  rw [if_pos rfl]
  exact wp_holds hb hy hQ

/-- The pending bits of an interrupt are read from the MRIF. -/
theorem wp_mrifIp (intId : Word32) (hi : intIpIdx intId < 64) {Q : Word → View → Prop} (hQ : Q (v.mrif (intIpIdx intId)) v) :
    wp (body link) (Body.mrifIp link intId) Q v := by
  rw [Body.mrifIp, wp_queue]
  exact wp_queue_read (.mrif _ hi) hQ

/-- When a test reads a word of the data, it gets what the data of the view hold there. -/
theorem wp_load32 (ha : InData a 4) (Q : Word32 → View → Prop) :
    @wp _ _ _ Word32 (body link) (Body.dev (.load32 a)) Q v ↔ Q (load v.mem 4 a) v := by
  rw [wp_dev]
  exact ⟨fun hq => hq.2 _ _ ⟨rfl, rfl⟩, fun hq => ⟨within_data link ha, fun _ _ hd => hd.1 ▸ hd.2 ▸ hq⟩⟩

/-- When a test writes a word of the data, the view has the same store made to its data. -/
theorem wp_store32 (ha : InData a 4) (x : Word32) (Q : Unit → View → Prop) :
    @wp _ _ _ Unit (body link) (Body.dev (.store32 a x)) Q v ↔ Q () { v with mem := store v.mem 4 a x } := by
  rw [wp_dev]
  exact ⟨fun hq => hq.2 () _ rfl, fun hq => ⟨within_data link ha, fun _ _ hd => hd ▸ hq⟩⟩

/-! ## Rules for the driver -/

/-- A command is put in the queue, which the view does not show. -/
theorem wp_issue (h : ImagePlaced link) (c : DriverCall) {Q : Unit → View → Prop} (hQ : Q () v) :
    wp (body link) (Body.issue link c) Q v := by
  rw [Body.issue, wp_bind, wp_stack]
  intro newCmd
  rw [wp_queue]
  unfold DriverCall.run rvIommuWriteCommandInQueue
  rw [wp_bind, read32, TestAux.wp_queue_call]
  refine ⟨trivial, ?_⟩
  rintro cqt _ ⟨hcqt, rfl⟩
  dsimp only
  have haddr := @entry_addr link.commandQueue (placed_commandQueue h) cqt hcqt 4 (by decide)
  have hw : ∀ k < 2, Within (Region.Has link .commands)
      (((link.commandQueue &&& ppnMask) ||| (cqt <<< 4).setWidth 64) + BitVec.ofNat 64 (8 * k)) 8 := by
    intro k hk
    rw [haddr]
    exact within_commands h hcqt hk
  have hw0 := hw 0 (by decide)
  rw [show BitVec.ofNat 64 (8 * 0) = 0#64 from rfl, BitVec.add_zero] at hw0
  rw [wp_bind, wp_queue_write h (.command _ _ hw0), wp_bind, wp_queue_write h (.command _ _ (hw 1 (by decide))), write32,
    TestAux.wp_queue_call]
  exact ⟨trivial, fun _ _ hd => hd ▸ hQ⟩

/-- When a fault is pending, the test reads the oldest record, and no `ERROR` stops it. -/
theorem wp_readRecord {r : Record} {rest : List Record} (hp : v.pending = r :: rest) (buf : Record) {Q : Record → View → Prop}
    (hQ : ∀ fqh, Q r { v with got := v.got ++ [r], pending := rest, fqh := fqh }) :
    wp (body link) (Body.readRecord link buf) Q v := by
  have hread : ∀ {k : Nat} {R : Word → View → Prop}, k < 4 → R (r.dw k) v → wp (View.contract link).queue
      (read64 (((link.faultQueue &&& ppnMask) ||| (v.fqh <<< 5).setWidth 64) + BitVec.ofNat 64 (8 * k))) R v :=
    fun hk hR => wp_queue_read (.fault r rest _ hp hk) hR
  rw [Body.readRecord, wp_bind, wp_queue]
  unfold rvIommuFqReadRecord
  rw [wp_bind, read32, TestAux.wp_queue_call]
  refine ⟨trivial, ?_⟩
  intro fqh d hfqh
  rw [hfqh.2, hfqh.1, wp_bind, read32, TestAux.wp_queue_call]
  refine ⟨trivial, ?_⟩
  intro fqt d ⟨hfqt, hd⟩
  rw [hd]
  have hne : v.fqh ≠ fqt := by
    intro he
    rw [hfqt.1 he.symm] at hp
    cases hp
  rw [if_pos hne]
  dsimp only
  rw [wp_bind]
  refine @hread 0 _ (by decide) ?_
  rw [wp_bind]
  refine @hread 1 _ (by decide) ?_
  rw [wp_bind]
  refine @hread 2 _ (by decide) ?_
  rw [wp_bind]
  refine @hread 3 _ (by decide) ?_
  rw [wp_bind, write32, TestAux.wp_queue_call]
  refine ⟨⟨rfl, by rw [hp]; exact List.cons_ne_nil _ _⟩, ?_⟩
  rintro _ _ ⟨fqh, rfl⟩
  rw [wp_pure, hp]
  exact hQ fqh

/-! ## Rules for transfers -/

/-- The view when a transfer is set up. -/
def aim (v : View) (src dst n : Word) : View := { v with srcAddr := src, destAddr := dst, numBytes := n }

/-- Code that sets up a transfer. -/
def SetsUp (link : TestLink) (setup : IdmaDriver Unit) (v : View) (src dst n : Word) : Prop :=
  ∀ Q : Unit → View → Prop, Q () (aim v src dst n) → wp (View.contract link).idma setup Q v

/-- A write to a register of the DMA device changes that register, and no other. -/
theorem wp_idmaWrite (reg : IdmaReg) (x : Word) (w : View) (R : Unit → View → Prop) :
    wp (View.contract link).idma (idmaWrite reg x) R w ↔ R () (w.writeIdma reg x) := by
  rw [idmaWrite, TestAux.wp_idma_call]
  exact ⟨fun hq => hq.2 () _ rfl, fun hq => ⟨trivial, fun _ _ hd => hd ▸ hq⟩⟩

/-- `idma_setup` sets up the source, the destination and the length of the next transfer. -/
theorem setsUp_idmaSetup (src dst n : Word) : SetsUp link (idmaSetup src dst n) v src dst n := by
  intro Q hQ
  simp only [idmaSetup, wp_bind, wp_idmaWrite]
  exact hQ

/-- `idma_setup_addr` leaves the number of bytes as an earlier setup has left it. -/
theorem setsUp_idmaSetupAddr {n : Word} (hn : v.numBytes = n) (src dst : Word) :
    SetsUp link (idmaSetupAddr src dst) v src dst n := by
  subst hn
  intro Q hQ
  simp only [idmaSetupAddr, wp_bind, wp_idmaWrite]
  exact hQ

/-- A transfer between two pages ends in whatever outcome the view knows of it, and the DMA device is not misconfigured. -/
theorem wp_transfer {setup : IdmaDriver Unit} {src dst n : Word} (hsetup : SetsUp link setup v src dst n)
    (hpages : InOnePage src n.toNat ∧ InOnePage dst n.toNat) (hroom : v.Room) {Q : Unit → View → Prop}
    (hknown : ∀ c, ∃ w, (aim v src dst n).Transfers link c w)
    (hQ : ∀ c w, (aim v src dst n).Transfers link c w → Q () w) : wp (body link) (Body.transfer setup) Q v := by
  rw [Body.transfer, wp_bind, wp_idma]
  apply hsetup
  rw [wp_bind, wp_idma, idmaExecTransfer, wp_bind, idmaRead, TestAux.wp_idma_call]
  refine ⟨⟨hpages.1, hpages.2, hroom, hknown⟩, ?_⟩
  rintro r w ⟨hr, c, hw⟩
  rw [if_neg hr, wp_bind]
  refine ⟨trivial, ?_⟩
  rintro last _ ⟨_, rfl, rfl⟩
  split
  · exact hQ c _ hw
  · rfl

/-- The view after a transfer of some bytes. -/
def moved (v : View) (src dst n : Word) (x y : Nat) : View :=
  { v with
    srcAddr := src
    destAddr := dst
    numBytes := n
    mem := copy v.mem (BitVec.ofNat 64 y) (BitVec.ofNat 64 x) n.toNat }

variable {setup : IdmaDriver Unit} {src dst m : Word} {x y : Nat}

/-- Bytes are copied. -/
theorem wp_copied (hsetup : SetsUp link setup v src dst m) (hpages : InOnePage src m.toNat ∧ InOnePage dst m.toNat)
    (hroom : v.Room) (hr : v.resolve link (.ofRead src) = .ok (.mem x)) (hw : v.resolve link (.ofWrite dst) = .ok (.mem y))
    (hdata : InData (BitVec.ofNat 64 y) m.toNat ∧ InData (BitVec.ofNat 64 x) m.toNat) {Q : Unit → View → Prop}
    (hQ : Q () (moved v src dst m x y)) :
    wp (body link) (Body.transfer setup) Q v := by
  refine wp_transfer hsetup hpages hroom ?_ ?_
  · exact fun c => ⟨_, .copied x y hr hw (within_data link hdata.1) (within_data link hdata.2)⟩
  · intro c w ht
    cases ht with
    | copied x' y' hr' hw' =>
      cases hr.symm.trans hr'
      cases hw.symm.trans hw'
      exact hQ
    | delivered _ _ _ _ hw' => cases hw.symm.trans hw'
    | dropped _ _ _ hw' => cases hw.symm.trans hw'
    | refused _ _ _ hw' => cases hw.symm.trans hw'

/-- A transfer of one word to a page of the MRIF delivers the identity that it has read, when neither request is refused. -/
theorem wp_delivered {nid : BitVec 11} {noticeAddr : Addr} (hsetup : SetsUp link setup v src dst m)
    (hpages : InOnePage src m.toNat ∧ InOnePage dst m.toNat) (hroom : v.Room)
    (hr : v.resolve link (.ofRead src) = .ok (.mem x)) (hw : v.resolve link (.ofWrite dst) = .ok (.mrif link.mrif nid noticeAddr))
    (hm : m.toNat = 4) (hdata : InData (BitVec.ofNat 64 x) 4 ∧ InData noticeAddr 4) {Q : Unit → View → Prop}
    (hQ : Q () ((aim v src dst m).deliver nid noticeAddr (load v.mem 4 (BitVec.ofNat 64 x)))) :
    wp (body link) (Body.transfer setup) Q v := by
  refine wp_transfer hsetup hpages hroom ?_ ?_
  · exact fun c => ⟨_, .delivered x nid noticeAddr hr hw hm (within_data link hdata.1) (within_data link hdata.2)⟩
  · intro c w ht
    cases ht with
    | copied _ _ _ hw' => cases hw.symm.trans hw'
    | delivered x' nid' noticeAddr' hr' hw' =>
      cases hr.symm.trans hr'
      cases hw.symm.trans hw'
      exact hQ
    | dropped _ _ _ hw' => cases hw.symm.trans hw'
    | refused _ _ _ hw' => cases hw.symm.trans hw'

/-- A transfer whose write is refused moves nothing, and reports the one fault. -/
theorem wp_dropped {cause : Cause} (hsetup : SetsUp link setup v src dst m)
    (hpages : InOnePage src m.toNat ∧ InOnePage dst m.toNat) (hroom : v.Room)
    (hr : v.resolve link (.ofRead src) = .ok (.mem x)) (hw : v.resolve link (.ofWrite dst) = .error cause)
    {Q : Unit → View → Prop} (hQ : ∀ r : Record, Q () ((aim v src dst m).report (r.fault cause dst))) :
    wp (body link) (Body.transfer setup) Q v := by
  refine wp_transfer hsetup hpages hroom (fun c => ⟨_, .dropped x cause hr hw⟩) ?_
  intro c w ht
  cases ht with
  | copied _ _ _ hw' => cases hw.symm.trans hw'
  | delivered _ _ _ _ hw' => cases hw.symm.trans hw'
  | dropped _ _ _ hw' =>
    cases hw.symm.trans hw'
    exact hQ _
  | refused _ _ hr' => cases hr.symm.trans hr'

/-- A transfer whose read and write are both refused moves nothing, and reports the two faults in that order. -/
theorem wp_refused {cause cause' : Cause} (hsetup : SetsUp link setup v src dst m)
    (hpages : InOnePage src m.toNat ∧ InOnePage dst m.toNat) (hroom : v.Room)
    (hr : v.resolve link (.ofRead src) = .error cause) (hw : v.resolve link (.ofWrite dst) = .error cause')
    {Q : Unit → View → Prop}
    (hQ : ∀ r r' : Record, Q () (((aim v src dst m).report (r.fault cause src)).report (r'.fault cause' dst))) :
    wp (body link) (Body.transfer setup) Q v := by
  refine wp_transfer hsetup hpages hroom (fun c => ⟨_, .refused cause cause' hr hw⟩) ?_
  intro c w ht
  cases ht with
  | copied _ _ hr' => cases hr.symm.trans hr'
  | delivered _ _ _ hr' => cases hr.symm.trans hr'
  | dropped _ _ hr' => cases hr.symm.trans hr'
  | refused _ _ hr' hw' =>
    cases hr.symm.trans hr'
    cases hw.symm.trans hw'
    exact hQ _ _

/-! ## Outcomes -/

/-- The same target, with the MRIF elsewhere. -/
def retarget (mrif : Word) : Target → Target
  | .mem spa => .mem spa
  | .mrif _ nid noticeAddr => .mrif mrif nid noticeAddr

/-- The address of the MRIF decides nothing else. -/
theorem requestMap_retarget (mrif : Word) (modes : DcModes) (ex : Exchanged) (q : TransRequest) :
    requestMap mrif modes ex q = (requestMap 0#64 modes ex q).map (retarget mrif) := by
  have hentry : ∀ i gpa, (msiEntryFor mrif i).target q gpa = ((msiEntryFor 0#64 i).target q gpa).map (retarget mrif) := by
    intro i gpa
    unfold MsiPte.target msiEntryFor
    by_cases hx : q.exec = true
    · rw [if_pos hx, if_pos hx]
      rfl
    rw [if_neg hx, if_neg hx]
    by_cases h20 : i = 20
    · rw [if_pos h20, if_pos h20]
      rfl
    rw [if_neg h20, if_neg h20]
    by_cases h21 : i = 21
    · rw [if_pos h21, if_pos h21]
      rfl
    rw [if_neg h21, if_neg h21]
    by_cases h23 : i = 23
    · rw [if_pos h23]
      rfl
    · rw [if_neg h23]
      rfl
  unfold requestMap
  cases (if modes.iosatp then guestMap (ex .first) q else .ok q.iova.toNat) with
  | error c => rfl
  | ok gpa =>
    change (if _ then _ else _) = Except.map _ (if _ then _ else _)
    split
    · exact hentry _ _
    · cases (if modes.iohgatp then hostMap (ex .second) q gpa else .ok gpa) <;> rfl

/-- The view of a test that translates: the modes, how the tables are exchanged, and an empty queue. -/
structure Translates (modes : DcModes) (ex : Bool → Exchanged) (v : View) : Prop where
  mode : v.mode = .oneLvl
  modes : v.modes = modes
  exchanged : ∃ e, v.exchanged = ex e
  pending : v.pending = []

/-- A queue with no fault in it has room for those of a transfer. -/
theorem room_of (hp : v.pending = []) : v.Room := by
  unfold View.Room
  rw [hp]
  decide

section

variable {modes : DcModes} {ex : Bool → Exchanged} {cause cause' : Cause} {Q : Unit → View → Prop}

/-- The outcome of a request, from one that can be computed. -/
theorem Translates.resolve (hv : Translates modes ex v) {q : TransRequest} {t : Except Cause Target}
    (ht : ∀ e, requestMap 0#64 modes (ex e) q = t) : v.resolve link q = t.map (retarget link.mrif) := by
  obtain ⟨e, he⟩ := hv.exchanged
  unfold View.resolve
  rw [hv.mode, hv.modes, he, ← ht e]
  exact requestMap_retarget _ _ _ _

/-- A transfer whose addresses are both translated, as the closed form of the translations says, copies its bytes. -/
theorem wp_translated (modes : DcModes) (ex : Bool → Exchanged) (x y : Nat) (hsetup : SetsUp link setup v src dst m)
    (hv : Translates modes ex v) (hpages : InOnePage src m.toNat ∧ InOnePage dst m.toNat)
    (hr : ∀ e, requestMap 0#64 modes (ex e) (.ofRead src) = .ok (.mem x))
    (hw : ∀ e, requestMap 0#64 modes (ex e) (.ofWrite dst) = .ok (.mem y))
    (hdata : InData (BitVec.ofNat 64 y) m.toNat ∧ InData (BitVec.ofNat 64 x) m.toNat) (hQ : Q () (moved v src dst m x y)) :
    wp (body link) (Body.transfer setup) Q v :=
  wp_copied hsetup hpages (room_of hv.pending) (hv.resolve hr) (hv.resolve hw) hdata hQ

/-- A transfer of a word that is translated to the MRIF delivers the interrupt that the word names, and leaves a notice if it is
enabled. -/
theorem wp_translatedMrif (modes : DcModes) (ex : Bool → Exchanged) (x : Nat) (nid : BitVec 11) (noticeAddr : Addr)
    (hsetup : SetsUp link setup v src dst m) (hv : Translates modes ex v)
    (hpages : InOnePage src m.toNat ∧ InOnePage dst m.toNat)
    (hr : ∀ e, requestMap 0#64 modes (ex e) (.ofRead src) = .ok (.mem x))
    (hw : ∀ e, requestMap 0#64 modes (ex e) (.ofWrite dst) = .ok (.mrif 0#64 nid noticeAddr)) (hm : m.toNat = 4)
    (hdata : InData (BitVec.ofNat 64 x) 4 ∧ InData noticeAddr 4)
    (hQ : Q () ((aim v src dst m).deliver nid noticeAddr (load v.mem 4 (BitVec.ofNat 64 x)))) :
    wp (body link) (Body.transfer setup) Q v :=
  wp_delivered hsetup hpages (room_of hv.pending) (hv.resolve hr) (hv.resolve hw) hm hdata hQ

/-- A transfer the write of which is refused leaves one fault in the queue, that of the write. -/
theorem wp_writeFaults (modes : DcModes) (ex : Bool → Exchanged) (x : Nat) (cause : Cause)
    (hsetup : SetsUp link setup v src dst m) (hv : Translates modes ex v)
    (hpages : InOnePage src m.toNat ∧ InOnePage dst m.toNat)
    (hr : ∀ e, requestMap 0#64 modes (ex e) (.ofRead src) = .ok (.mem x))
    (hw : ∀ e, requestMap 0#64 modes (ex e) (.ofWrite dst) = .error cause)
    (hQ : ∀ r : Record, Q () { aim v src dst m with pending := [r.fault cause dst], fip := true }) :
    wp (body link) (Body.transfer setup) Q v := by
  refine wp_dropped hsetup hpages (room_of hv.pending) (hv.resolve hr) (hv.resolve hw) ?_
  intro r
  unfold View.report aim
  dsimp only
  rw [hv.pending]
  exact hQ r

/-- A transfer both requests of which are refused leaves two faults in the queue, that of the read before that of the write. -/
theorem wp_bothFault (modes : DcModes) (ex : Bool → Exchanged) (cause cause' : Cause)
    (hsetup : SetsUp link setup v src dst m) (hv : Translates modes ex v)
    (hpages : InOnePage src m.toNat ∧ InOnePage dst m.toNat)
    (hr : ∀ e, requestMap 0#64 modes (ex e) (.ofRead src) = .error cause)
    (hw : ∀ e, requestMap 0#64 modes (ex e) (.ofWrite dst) = .error cause')
    (hQ : ∀ r r' : Record, Q () { aim v src dst m with pending := [r.fault cause src, r'.fault cause' dst], fip := true }) :
    wp (body link) (Body.transfer setup) Q v := by
  refine wp_refused hsetup hpages (room_of hv.pending) (hv.resolve hr) (hv.resolve hw) ?_
  intro r r'
  unfold View.report aim
  dsimp only
  rw [hv.pending]
  exact hQ r r'

end

/-- The field that a test compares of a record is the code of the cause it was reported for. -/
theorem fault_cause (r : Record) (c : Cause) (iova : Word) : (r.fault c iova).dw0 &&& causeMask = c.code := by
  have hfits : c.code &&& causeMask = c.code := by cases c <;> decide
  change ((r.dw0 &&& ~~~causeMask) ||| c.code) &&& causeMask = c.code
  rw [BitVec.and_or_distrib_right, BitVec.and_assoc, hfits]
  simp

/-- The record of a fault names the address of the request. -/
theorem fault_iova (r : Record) (c : Cause) (iova : Word) : (r.fault c iova).dw2 = iova := rfl

/-! ## The tests -/

/-- The control register of the debug interface between two tests: no request is started, and the device id is not given yet or is
that of the device. -/
structure NoRequest (ctl : Word) : Prop where
  go : ctl.getLsbD 0 = false
  did : (dbgReq ctl).did = 0#64 ∨ (dbgReq ctl).did = idmaId

/-- Between two tests: no fault is in the queue, the two pages are exchanged in both stages or in none, and what `mrif_init` has
enabled still is. -/
structure Idle (v : View) : Prop where
  pending : v.pending = []
  exchanged : ∃ e, v.exchanged = fun _ => e
  enabled : (v.mrif (intIpIdx intId1 + 1)).getLsbD (intId1.toNat % 64) = true
  disabled : (v.mrif (intIpIdx intId2 + 1)).getLsbD (intId2.toNat % 64) = false
  request : NoRequest v.trReqCtl

/-- `iommu_off`: with the IOMMU off, both requests of the transfer are refused, and the two records are read in the order of the
requests. -/
theorem iommuOff_wp (h : ImagePlaced link) (hv : Idle v) : wp (body link) (iommuOffBody link) (fun _ => Idle) v := by
  unfold iommuOffBody
  simp only [wp_bind, wp_setIommu h, wp_stack]
  refine wp_refused (setsUp_idmaSetup _ _ _) (by decide) ?_ rfl rfl ?_
  · exact room_of hv.pending
  intro r r' buf
  refine wp_readRecord (r := r.fault .allInbTransactionsDisallowed (virt .iommuOffR))
    (congrArg (· ++ [_] ++ [_]) hv.pending) buf ?_
  intro fqh
  simp only [wp_assert, fault_cause, fault_iova]
  refine ⟨by decide, by decide, ?_⟩
  refine wp_readRecord rfl _ ?_
  intro fqh'
  simp only [wp_clearIpsrFip, fault_cause, fault_iova]
  exact ⟨by decide, by decide, rfl, hv.exchanged, hv.enabled, hv.disabled, hv.request⟩

/-- `iommu_bare`: addresses are not translated, so the physical addresses of the test copy its data. -/
theorem iommuBare_wp (h : ImagePlaced link) (hv : Idle v) : wp (body link) (iommuBareBody link) (fun _ => Idle) v := by
  unfold iommuBareBody
  simp (disch := decide) only [wp_bind, wp_setIommu h, wp_write64 h]
  refine wp_copied (x := (phys .iommuBareR).toNat) (y := (phys .iommuBareW).toNat) (setsUp_idmaSetup _ _ _) (by decide)
    ?_ rfl rfl (by decide) ?_
  · exact room_of hv.pending
  rw [wp_and]
  refine wp_holds (by decide) ?_ ?_
  · simp (disch := decide) only [moved, BitVec.ofNat_toNat, BitVec.setWidth_eq, load_copy_self, load_store_same, load_store_apart]
  rw [if_pos rfl]
  refine wp_bothHold (by decide) (by decide) ?_ ?_ ?_
  · simp (disch := decide) only [moved, BitVec.ofNat_toNat, BitVec.setWidth_eq, load_copy, load_store_same, load_store_apart]
  · simp (disch := decide) only [moved, BitVec.ofNat_toNat, BitVec.setWidth_eq, load_copy, load_store_same, load_store_apart]
  rw [wp_assert]
  exact ⟨rfl, hv.pending, hv.exchanged, hv.enabled, hv.disabled, hv.request⟩

/-- `both_stages_bare`: a context with both stages Bare, through which the data are copied all the same. -/
theorem bothStagesBare_wp (h : ImagePlaced link) (hv : Idle v) :
    wp (body link) (bothStagesBareBody link) (fun _ => Idle) v := by
  unfold bothStagesBareBody
  simp (disch := decide) only [wp_bind, wp_setIommu h, wp_setDc, DcModes.set, wp_write64 h]
  refine wp_translated ⟨false, false, v.modes.msiptp⟩ (fun e _ => e) (phys .bareTransR1).toNat (phys .bareTransW1).toNat
    (setsUp_idmaSetup _ _ _) ?_ (by decide) ?_ ?_ (by decide) ?_
  · exact ⟨rfl, rfl, hv.exchanged, hv.pending⟩
  · cases v.modes.msiptp <;> decide
  · cases v.modes.msiptp <;> decide
  refine wp_holds (by decide) ?_ ?_
  · simp (disch := decide) only [moved, BitVec.ofNat_toNat, BitVec.setWidth_eq, load_copy_self, load_store_same, load_store_apart]
  rw [wp_assert]
  refine ⟨rfl, ?_⟩
  refine wp_translated ⟨false, false, v.modes.msiptp⟩ (fun e _ => e) (phys .bareTransR2).toNat (phys .bareTransW2).toNat
    (setsUp_idmaSetupAddr (n := 8#64) rfl _ _) ?_ (by decide) ?_ ?_ (by decide) ?_
  · exact ⟨rfl, rfl, hv.exchanged, hv.pending⟩
  · cases v.modes.msiptp <;> decide
  · cases v.modes.msiptp <;> decide
  refine wp_holds (by decide) ?_ ?_
  · simp (disch := decide) only [moved, BitVec.ofNat_toNat, BitVec.setWidth_eq, load_copy_self, load_copy_apart, load_store_same,
      load_store_apart]
  rw [wp_assert]
  exact ⟨rfl, hv.pending, hv.exchanged, hv.enabled, hv.disabled, hv.request⟩

/-- `second_stage_only`: guest physical addresses are translated by the second stage, or through the MSI page table. -/
theorem secondStageOnly_wp (h : ImagePlaced link) (hv : Idle v) :
    wp (body link) (secondStageOnlyBody link) (fun _ => Idle) v := by
  unfold secondStageOnlyBody
  simp (disch := decide) only [wp_bind, wp_setIommu h, wp_setDc, DcModes.set, wp_write64 h]
  refine wp_issue h _ ?_
  dsimp only
  refine wp_translated ⟨false, true, true⟩ (fun e _ => e) (phys .s2OnlyR).toNat (phys .s2OnlyW).toNat
    (setsUp_idmaSetup _ _ _) ?_ (by decide) (by decide) (by decide) (by decide) ?_
  · exact ⟨rfl, rfl, hv.exchanged, hv.pending⟩
  refine wp_holds (by decide) ?_ ?_
  · simp (disch := decide) only [moved, BitVec.ofNat_toNat, BitVec.setWidth_eq, load_copy_self, load_store_same, load_store_apart]
  rw [wp_assert]
  refine ⟨rfl, ?_⟩
  have hmsi : msiTranslation = 1 := rfl
  rw [if_pos hmsi, wp_bind]
  refine wp_translated ⟨false, true, true⟩ (fun e _ => e) (phys .msiR1).toNat
    (msiBaseIfSpa + BitVec.ofNat 64 (17 * pageSize)).toNat (setsUp_idmaSetup _ _ _) ?_ (by decide) (by decide) (by decide)
    (by decide) ?_
  · exact ⟨rfl, rfl, hv.exchanged, hv.pending⟩
  rw [wp_bind]
  refine wp_holds (by decide) ?_ ?_
  · simp (disch := decide) only [moved, BitVec.ofNat_toNat, BitVec.setWidth_eq, load_words, load_copy_self, load_copy_apart,
      load_store_low, load_store_high, load_store_apart]
    decide
  rw [wp_assert]
  exact ⟨rfl, hv.pending, hv.exchanged, hv.enabled, hv.disabled, hv.request⟩

/-- `two_stage_translation`: pages of all three sizes, and addresses of the MSI pages behind both stages. -/
theorem twoStageTranslation_wp (h : ImagePlaced link) (hv : Idle v) :
    wp (body link) (twoStageTranslationBody link) (fun _ => Idle) v := by
  unfold twoStageTranslationBody
  simp (disch := decide) only [wp_bind, Body.twoStages, wp_setIommu h, wp_setDc, DcModes.set, wp_write64 h]
  refine wp_issue h _ ?_
  dsimp only
  refine wp_translated ⟨true, true, true⟩ (fun e _ => e) (phys .twoStageR4K).toNat (phys .twoStageW4K).toNat
    (setsUp_idmaSetup _ _ _) ?_ (by decide) (by decide) (by decide) (by decide) ?_
  · exact ⟨rfl, rfl, hv.exchanged, hv.pending⟩
  refine wp_holds (by decide) ?_ ?_
  · simp (disch := decide) only [moved, BitVec.ofNat_toNat, BitVec.setWidth_eq, load_copy_self, load_store_same, load_store_apart]
  rw [wp_assert]
  refine ⟨rfl, ?_⟩
  refine wp_translated ⟨true, true, true⟩ (fun e _ => e) (phys .twoStageR2M).toNat testPaddr2Mib
    (setsUp_idmaSetupAddr (n := 8#64) rfl _ _) ?_ (by decide) (by decide) (by decide) (by decide) ?_
  · exact ⟨rfl, rfl, hv.exchanged, hv.pending⟩
  refine wp_holds (by decide) ?_ ?_
  · simp (disch := decide) only [moved, BitVec.ofNat_toNat, BitVec.setWidth_eq, load_copy_self, load_copy_apart, load_store_same,
      load_store_apart]
  rw [wp_assert]
  refine ⟨rfl, ?_⟩
  refine wp_translated ⟨true, true, true⟩ (fun e _ => e) (phys .twoStageR1G).toNat testPaddr1Gib
    (setsUp_idmaSetupAddr (n := 8#64) rfl _ _) ?_ (by decide) (by decide) (by decide) (by decide) ?_
  · exact ⟨rfl, rfl, hv.exchanged, hv.pending⟩
  refine wp_holds (by decide) ?_ ?_
  · simp (disch := decide) only [moved, BitVec.ofNat_toNat, BitVec.setWidth_eq, load_copy_self, load_copy_apart, load_store_same,
      load_store_apart]
  rw [wp_assert]
  refine ⟨rfl, ?_⟩
  have hmsi : msiTranslation = 1 := rfl
  rw [if_pos hmsi, wp_bind]
  refine wp_translated ⟨true, true, true⟩ (fun e _ => e) (phys .msiR2).toNat
    (msiBaseIfSpa + BitVec.ofNat 64 (19 * pageSize)).toNat (setsUp_idmaSetup _ _ _) ?_ (by decide) (by decide) (by decide)
    (by decide) ?_
  · exact ⟨rfl, rfl, hv.exchanged, hv.pending⟩
  rw [wp_bind]
  refine wp_holds (by decide) ?_ ?_
  · simp (disch := decide) only [moved, BitVec.ofNat_toNat, BitVec.setWidth_eq, load_words, load_copy_self, load_copy_apart,
      load_store_low, load_store_high, load_store_apart]
    decide
  rw [wp_assert]
  exact ⟨rfl, hv.pending, hv.exchanged, hv.enabled, hv.disabled, hv.request⟩

/-- How the tables are exchanged in `iotinval` after one switch, and after both. -/
def switchedOnce (e : Bool) : Exchanged := Function.update (fun _ => e) .first (!e)

/-- `iotinval`: after each switch the transfers go to the pages that the switched entries lead to, as this IOMMU keeps no
entry. -/
theorem iotinval_wp (h : ImagePlaced link) (hv : Idle v) : wp (body link) (iotinvalBody link) (fun _ => Idle) v := by
  obtain ⟨hpending, ⟨e, he⟩, henabled, hdisabled, hrequest⟩ := hv
  have hex : ∃ e, v.exchanged = (fun (e : Bool) _ => e) e := ⟨e, he⟩
  have honce : ∃ e, Function.update v.exchanged .first (!v.exchanged .first) = switchedOnce e := ⟨e, by rw [he]; rfl⟩
  have htwice : Function.update (Function.update v.exchanged .first (!v.exchanged .first)) .second
      (!Function.update v.exchanged .first (!v.exchanged .first) .second) = fun _ => !e := by
    funext stage
    rw [he]
    cases stage <;> rfl
  unfold iotinvalBody
  simp (disch := decide) only [wp_bind, Body.twoStages, wp_setIommu h, wp_setDc, DcModes.set, wp_write64 h]
  -- before the entries are exchanged
  refine wp_translated ⟨true, true, true⟩ (fun e _ => e) (phys .iotinvalR1).toNat (phys .switch1).toNat
    (setsUp_idmaSetup _ _ _) ?_ (by decide) (by decide) (by decide) (by decide) ?_
  · exact ⟨rfl, rfl, hex, hpending⟩
  refine wp_translated ⟨true, true, true⟩ (fun e _ => e) (phys .iotinvalR2).toNat (phys .switch2).toNat
    (setsUp_idmaSetupAddr (n := 8#64) rfl _ _) ?_ (by decide) (by decide) (by decide) (by decide) ?_
  · exact ⟨rfl, rfl, hex, hpending⟩
  refine wp_bothHold (by decide) (by decide) ?_ ?_ ?_
  · simp (disch := decide) only [moved, BitVec.ofNat_toNat, BitVec.setWidth_eq, load_copy_self, load_copy_apart, load_store_same,
      load_store_apart]
  · simp (disch := decide) only [moved, BitVec.ofNat_toNat, BitVec.setWidth_eq, load_copy_self, load_copy_apart, load_store_same,
      load_store_apart]
  simp (disch := decide) only [wp_assert, wp_s1ptSwitch]
  refine ⟨trivial, wp_issue h _ ?_⟩
  dsimp only [moved]
  -- those of the first stage are exchanged
  refine wp_translated ⟨true, true, true⟩ switchedOnce (phys .iotinvalR1).toNat (phys .switch2).toNat
    (setsUp_idmaSetupAddr (n := 8#64) rfl _ _) ?_ (by decide) (by decide) (by decide) (by decide) ?_
  · exact ⟨rfl, rfl, honce, hpending⟩
  refine wp_translated ⟨true, true, true⟩ switchedOnce (phys .iotinvalR2).toNat (phys .switch1).toNat
    (setsUp_idmaSetupAddr (n := 8#64) rfl _ _) ?_ (by decide) (by decide) (by decide) (by decide) ?_
  · exact ⟨rfl, rfl, honce, hpending⟩
  refine wp_bothHold (by decide) (by decide) ?_ ?_ ?_
  · simp (disch := decide) only [moved, BitVec.ofNat_toNat, BitVec.setWidth_eq, load_copy_self, load_copy_apart, load_store_same,
      load_store_apart]
  · simp (disch := decide) only [moved, BitVec.ofNat_toNat, BitVec.setWidth_eq, load_copy_self, load_copy_apart, load_store_same,
      load_store_apart]
  simp (disch := decide) only [wp_s2ptSwitch]
  refine ⟨trivial, wp_issue h _ ?_⟩
  dsimp only [moved]
  -- those of both stages are
  refine wp_translated ⟨true, true, true⟩ (fun e _ => e) (phys .iotinvalR1).toNat (phys .switch1).toNat
    (setsUp_idmaSetupAddr (n := 8#64) rfl _ _) ?_ (by decide) (by decide) (by decide) (by decide) ?_
  · exact ⟨rfl, rfl, ⟨!e, htwice⟩, hpending⟩
  refine wp_translated ⟨true, true, true⟩ (fun e _ => e) (phys .iotinvalR2).toNat (phys .switch2).toNat
    (setsUp_idmaSetupAddr (n := 8#64) rfl _ _) ?_ (by decide) (by decide) (by decide) (by decide) ?_
  · exact ⟨rfl, rfl, ⟨!e, htwice⟩, hpending⟩
  refine wp_bothHold (by decide) (by decide) ?_ ?_ ?_
  · simp (disch := decide) only [moved, BitVec.ofNat_toNat, BitVec.setWidth_eq, load_copy_self, load_copy_apart, load_store_same,
      load_store_apart]
  · simp (disch := decide) only [moved, BitVec.ofNat_toNat, BitVec.setWidth_eq, load_copy_self, load_copy_apart, load_store_same,
      load_store_apart]
  exact ⟨rfl, hpending, ⟨!e, htwice⟩, henabled, hdisabled, hrequest⟩

/-- `wsi_generation`: both requests of the transfer are refused, `ipsr` shows it until it is cleared, and the two records are read. -/
theorem wsiGeneration_wp (h : ImagePlaced link) (hv : Idle v) :
    wp (body link) (wsiGenerationBody link) (fun _ => Idle) v := by
  unfold wsiGenerationBody
  simp (disch := decide) only [wp_bind, Body.twoStages, wp_setIommu h, wp_setDc, DcModes.set, wp_setIgWsi, wp_write64 h]
  refine wp_bothFault ⟨true, true, true⟩ (fun e _ => e) .loadPageFault .storeGuestPageFault (setsUp_idmaSetup _ _ _) ?_
    (by decide) (by decide) (by decide) ?_
  · exact ⟨rfl, rfl, hv.exchanged, hv.pending⟩
  intro r r'
  simp only [wp_getIpsr, wp_assert, wp_clearIpsrFip, wp_stack]
  refine ⟨rfl, rfl, ?_⟩
  intro buf
  refine wp_readRecord rfl buf ?_
  intro fqh
  simp only [fault_cause, fault_iova]
  refine ⟨by decide, by decide, ?_⟩
  refine wp_readRecord rfl _ ?_
  intro fqh'
  simp only [fault_cause, fault_iova]
  exact ⟨by decide, by decide, rfl, hv.exchanged, hv.enabled, hv.disabled, hv.request⟩

/-! ## The MRIF -/

section

variable {nid : BitVec 11} {noticeAddr : Addr} {identity : Word32}

/-- An identity that is enabled becomes pending in the MRIF, and its notice is written to memory. -/
theorem deliver_enabled (hid : identity.toNat < 2 ^ 11)
    (hie : (v.mrif (2 * (identity.toNat / 64) + 1)).getLsbD (identity.toNat % 64) = true) :
    v.deliver nid noticeAddr identity =
      { v with
        mrif := Function.update v.mrif (2 * (identity.toNat / 64))
          (v.mrif (2 * (identity.toNat / 64)) ||| 1#64 <<< (identity.toNat % 64))
        mem := store v.mem 4 noticeAddr (nid.setWidth 32) } := by
  unfold View.deliver
  rw [if_pos hid]
  dsimp only
  rw [Function.update_of_ne (Nat.succ_ne_self _), if_pos hie]

/-- An identity that is not enabled becomes pending in the MRIF, and no notice is written. -/
theorem deliver_disabled (hid : identity.toNat < 2 ^ 11)
    (hie : (v.mrif (2 * (identity.toNat / 64) + 1)).getLsbD (identity.toNat % 64) = false) :
    v.deliver nid noticeAddr identity =
      { v with
        mrif := Function.update v.mrif (2 * (identity.toNat / 64))
          (v.mrif (2 * (identity.toNat / 64)) ||| 1#64 <<< (identity.toNat % 64)) } := by
  unfold View.deliver
  rw [if_pos hid]
  dsimp only
  rw [Function.update_of_ne (Nat.succ_ne_self _), if_neg (Bool.eq_false_iff.1 hie)]

/-- An identity that has more than eleven bits is ignored. -/
theorem deliver_ignored (hid : ¬ identity.toNat < 2 ^ 11) : v.deliver nid noticeAddr identity = v := if_neg hid

end

/-- The mask that the test uses for an interrupt finds the bit that the delivery of its identity has set. -/
theorem intMask_pending (x : Word) (intId : Word32) :
    ((x ||| 1#64 <<< (intId.toNat % 64)) &&& intMask intId != 0#64) = true := by
  have hmask : intMask intId = 1#64 <<< (intId.toNat % 64) := by
    unfold intMask
    rw [show 0x3F#32 = BitVec.ofNat 32 (2 ^ 6 - 1) from rfl, BitVec.toNat_and]
    congr 1
    exact Nat.and_two_pow_sub_one_eq_mod _ 6
  have hset : (1#64 <<< (intId.toNat % 64)).getLsbD (intId.toNat % 64) = true := by
    rw [BitVec.getLsbD_shiftLeft, Nat.sub_self]
    have : intId.toNat % 64 < 64 := Nat.mod_lt _ (by decide)
    simp [this]
  rw [hmask, bne_iff_ne]
  intro h0
  have hbit := congrArg (BitVec.getLsbD · (intId.toNat % 64)) h0
  rw [BitVec.getLsbD_and, BitVec.getLsbD_or, hset, Bool.or_true, Bool.and_true, BitVec.getLsbD_zero] at hbit
  cases hbit

/-- The identity that a transfer reads is the one that the test has put there, as the notice that it clears is apart from it. -/
theorem load_identity {mem : Mem} {page notice : Addr} {identity : Word32} (hap : Apart notice 4 page 4) :
    load (store (store mem 4 page identity) 4 notice 0#32) 4 (BitVec.ofNat 64 page.toNat) = identity := by
  rw [BitVec.ofNat_toNat, BitVec.setWidth_eq, load_store_apart _ _ hap]
  exact load_store_same _ (by decide) _ _

/-- `mrif_support`, in its four parts: an interrupt that is enabled is pending with a notice, one that is not is pending without,
an entry with a custom bit is refused, and an identity that is too large is ignored. -/
theorem mrifSupport_wp (h : ImagePlaced link) (hv : Idle v) :
    wp (body link) (mrifSupportBody link) (fun _ => Idle) v := by
  have hidx1 : 2 * (intId1.toNat / 64) = intIpIdx intId1 := by decide
  have hidx2 : 2 * (intId2.toNat / 64) = intIpIdx intId2 := by decide
  have hne : intIpIdx intId1 + 1 ≠ intIpIdx intId1 ∧ intIpIdx intId1 + 1 ≠ intIpIdx intId2 ∧
      intIpIdx intId2 + 1 ≠ intIpIdx intId1 ∧ intIpIdx intId2 + 1 ≠ intIpIdx intId2 := by decide
  obtain ⟨hne11, hne12, hne21, hne22⟩ := hne
  unfold mrifSupportBody
  simp only [wp_bind, wp_setIommu h, wp_setDc, DcModes.set]
  refine wp_issue h _ ?_
  simp (disch := decide) only [wp_store32]
  -- an interrupt that is enabled
  refine wp_translatedMrif ⟨false, true, true⟩ (fun e _ => e) (phys .msiR3).toNat 0x7AC#11 noticeAddr1 (setsUp_idmaSetup _ _ _) ?_
    (by decide) (by decide) (by decide) rfl (by decide) ?_
  · exact ⟨rfl, rfl, hv.exchanged, hv.pending⟩
  dsimp only
  rw [load_identity (by decide), deliver_enabled (by decide) hv.enabled, hidx1]
  refine wp_mrifIp intId1 (by decide) ?_
  dsimp only [aim]
  simp (disch := decide) only [Function.update_self, intMask_pending, wp_assert, wp_load32, load_store_same]
  refine ⟨trivial, by decide, ?_⟩
  -- one that is not
  refine wp_issue h _ ?_
  refine wp_translatedMrif ⟨true, true, true⟩ (fun e _ => e) (phys .msiR4).toNat 0x7AC#11 noticeAddr2 (setsUp_idmaSetup _ _ _) ?_
    (by decide) (by decide) (by decide) rfl (by decide) ?_
  · exact ⟨rfl, rfl, hv.exchanged, hv.pending⟩
  have hie2 : Function.update v.mrif (intIpIdx intId1) (v.mrif (intIpIdx intId1) ||| 1#64 <<< (intId1.toNat % 64))
      (intIpIdx intId2 + 1) = v.mrif (intIpIdx intId2 + 1) := Function.update_of_ne hne21 ..
  dsimp only
  rw [load_identity (by decide), deliver_disabled (by decide) (by rw [← hv.disabled, ← hie2]; rfl), hidx2]
  refine wp_mrifIp intId2 (by decide) ?_
  dsimp only [aim]
  simp (disch := decide) only [Function.update_self, intMask_pending, load_store_same]
  refine ⟨trivial, by decide, ?_⟩
  -- an entry that is refused
  refine wp_writeFaults ⟨true, true, true⟩ (fun e _ => e) (phys .msiR5).toNat .msiPteInvalid (setsUp_idmaSetup _ _ _) ?_
    (by decide) (by decide) (by decide) ?_
  · exact ⟨rfl, rfl, hv.exchanged, hv.pending⟩
  intro r
  rw [wp_stack]
  intro buf
  refine wp_readRecord rfl buf ?_
  intro fqh
  simp only [fault_cause, fault_iova, wp_clearIpsrFip]
  refine ⟨by decide, by decide, ?_⟩
  -- an identity that has too many bits
  rw [wp_writeMrif h (by decide)]
  refine wp_translatedMrif ⟨true, true, true⟩ (fun e _ => e) (phys .msiR3).toNat 0x7AC#11 noticeAddr1 (setsUp_idmaSetup _ _ _) ?_
    (by decide) (by decide) (by decide) rfl (by decide) ?_
  · exact ⟨rfl, rfl, hv.exchanged, rfl⟩
  dsimp only [aim]
  rw [load_identity (by decide), deliver_ignored (by decide)]
  refine wp_mrifIp intId1 (by decide) ?_
  simp (disch := decide) only [Function.update_self, load_store_same]
  refine ⟨by decide, by decide, rfl, hv.exchanged, ?_, ?_, hv.request⟩
  · dsimp only
    rw [Function.update_of_ne hne11, Function.update_of_ne hne12, Function.update_of_ne hne11]
    exact hv.enabled
  · dsimp only
    rw [Function.update_of_ne hne21, Function.update_of_ne hne22, Function.update_of_ne hne21]
    exact hv.disabled

/-! ## The debug interface -/

/-- The control register holds a request that is not started. -/
def Holds (d : DbgReq) (ctl : Word) : Prop := dbgReq ctl = d ∧ ctl.getLsbD 0 = false

/-- A control register without `go` is not changed by clearing the bit. -/
theorem go_clear {ctl : Word} (h : ctl.getLsbD 0 = false) : ctl &&& ~~~trReqCtlGoBit = ctl := by
  have hmask : ∀ i < 64, (~~~trReqCtlGoBit).getLsbD i = !decide (i = 0) := by decide
  apply BitVec.eq_of_getLsbD_eq
  intro i hi
  rw [BitVec.getLsbD_and, hmask i hi]
  by_cases h0 : i = 0
  · rw [h0, h, Bool.false_and]
  · rw [decide_eq_false h0, Bool.not_false, Bool.and_true]

/-- Setting `go`, and clearing it when the request is done, gives the control register back. -/
theorem go_set {ctl : Word} (h : ctl.getLsbD 0 = false) :
    (ctl ||| trReqCtlGoBit) &&& ~~~trReqCtlGoBit = ctl ∧ (ctl ||| trReqCtlGoBit).getLsbD 0 = true := by
  constructor
  · rw [BitVec.and_or_distrib_right, go_clear h, show trReqCtlGoBit &&& ~~~trReqCtlGoBit = 0#64 by decide, BitVec.or_zero]
  · rw [BitVec.getLsbD_or, show trReqCtlGoBit.getLsbD 0 = true by decide, Bool.or_true]

/-- A setter of the debug interface changes its own field of the request that the register holds, and no other. -/
theorem Holds.run {d : DbgReq} {ctl : Word} (h : Holds d ctl) (c : DbgCall) (hc : ∀ i, c = .setDid i → Fits i 24) :
    Holds (DebugAux.join d c) (c.run ctl) := by
  have hrun := DebugAux.dbgReq_run ctl c hc
  have hbit : ∀ w : Word, (dbgReq w).others.getLsbD 0 = w.getLsbD 0 := by
    intro w
    change (w &&& dbgOthersMask).getLsbD 0 = _
    rw [BitVec.getLsbD_and, show dbgOthersMask.getLsbD 0 = true by decide, Bool.and_true]
  have hothers : (DebugAux.join (dbgReq ctl) c).others = (dbgReq ctl).others := by
    cases c <;> rfl
  refine ⟨h.1 ▸ hrun, ?_⟩
  rw [← hbit, hrun, hothers, hbit]
  exact h.2

/-- The view of `dbg_interface`: both stages are on, and the registers hold a request. -/
structure Asking (d : DbgReq) (iova : Word) (v : View) : Prop where
  translates : Translates ⟨true, true, true⟩ (fun e _ => e) v
  enabled : (v.mrif (intIpIdx intId1 + 1)).getLsbD (intId1.toNat % 64) = true
  disabled : (v.mrif (intIpIdx intId2 + 1)).getLsbD (intId2.toNat % 64) = false
  ctl : Holds d v.trReqCtl
  iova : v.trReqIova = iova

/-- A request of the device for a write. -/
structure Asks (d : DbgReq) (exe : Bool) : Prop where
  did : d.did = idmaId
  nw : d.nw = false
  exe : d.exe = exe

section

variable {d : DbgReq} {iova : Word} {Q : Unit → View → Prop}

/-- The request of a control register that asks for a write of the device. -/
theorem Asks.request {x : Bool} (hask : Asks d x) (iova : Word) : d.request iova = ⟨iova, true, true, x⟩ := by
  unfold DbgReq.request
  rw [hask.nw, hask.exe]
  rfl

/-- A field of the response is read from the response register. -/
theorem wp_dbgResponse {α : Type} (f : Word → α) (Q : α → View → Prop) :
    wp (body link) (Body.dbgResponse f) Q v ↔ Q (f v.trResponse) v := by
  rw [Body.dbgResponse, wp_bind, wp_dev]
  refine ⟨fun hq => hq.2 _ _ ⟨rfl, rfl⟩, fun hq => ⟨trivial, ?_⟩⟩
  rintro _ _ ⟨rfl, rfl⟩
  exact hq

/-- The address of a request is set. The lower twelve bits of the register are zero. -/
theorem wp_dbgSetIova (hv : Asking d iova v) (iova' : Word) (hQ : ∀ w, Asking d (iova' &&& ~~~0xFFF#64) w → Q () w) :
    wp (body link) (Body.dbgSetIova iova') Q v := by
  rw [Body.dbgSetIova, wp_dev]
  refine ⟨trivial, ?_⟩
  rintro _ _ rfl
  exact hQ _ ⟨⟨hv.1.1, hv.1.2, hv.1.3, hv.1.4⟩, hv.enabled, hv.disabled, hv.ctl, rfl⟩

/-- A setter of the debug interface changes one field of the request, and starts nothing. -/
theorem wp_dbgSet (hv : Asking d iova v) (c : DbgCall) (hc : ∀ i, c = .setDid i → Fits i 24)
    (hQ : ∀ w, Asking (DebugAux.join d c) iova w → Q () w) : wp (body link) (Body.dbgSet c) Q v := by
  have hrun := hv.ctl.run c hc
  rw [Body.dbgSet, wp_bind, wp_dev]
  refine ⟨trivial, ?_⟩
  rintro r w ⟨hr, hw⟩
  rw [hw, hr, wp_dev]
  refine ⟨fun hgo => ?_, ?_⟩
  · rw [hrun.2] at hgo
    cases hgo
  · intro r v' hv'
    have hpost : v' = { v with trReqCtl := c.run v.trReqCtl &&& ~~~trReqCtlGoBit } := by
      change (if (c.run v.trReqCtl).getLsbD 0 then _ else _) at hv'
      rwa [if_neg (Bool.eq_false_iff.1 hrun.2)] at hv'
    rw [hpost, go_clear hrun.2]
    exact hQ _ ⟨⟨hv.1.1, hv.1.2, hv.1.3, hv.1.4⟩, hv.enabled, hv.disabled, hrun, hv.iova⟩

/-- A request of the debug interface is started, and its end awaited. -/
theorem wp_dbgGo (hv : Asking d iova v) (hdid : d.did = idmaId) (hQ : ∀ r, Q () (v.debug r)) :
    wp (body link) Body.dbgGo Q v := by
  obtain ⟨hctl, hgo⟩ := go_set hv.ctl.2
  rw [Body.dbgGo, wp_bind, wp_dev]
  refine ⟨trivial, ?_⟩
  rintro r w ⟨hr, hw⟩
  rw [hw, hr, wp_bind, wp_dev]
  refine ⟨fun _ => ⟨hv.translates.mode, ?_, room_of hv.translates.pending⟩, ?_⟩
  · rw [← did_go, hctl, hv.ctl.1, hdid]
  · intro r v' hv'
    obtain ⟨rec, rfl⟩ : ∃ rec, v' = v.debug rec := by
      change (if (v.trReqCtl ||| trReqCtlGoBit).getLsbD 0 then _ else _) at hv'
      rw [if_pos hgo, hctl] at hv'
      exact hv'
    have hkept : (v.debug rec).trReqCtl = v.trReqCtl := by
      unfold View.debug
      dsimp only
      split <;> rfl
    rw [wp_waitFor]
    refine ⟨trivial, ?_⟩
    rintro _ _ ⟨_, rfl, rfl, rfl⟩
    have hcomplete : rvIommuDbgReqIsComplete (v.debug rec).trReqCtl = true := by
      rw [hkept]
      change (v.trReqCtl &&& 1#64 == 0#64) = true
      rw [BitVec.and_one_eq_setWidth_ofBool_getLsbD, hv.ctl.2]
      rfl
    rw [if_pos hcomplete]
    exact hQ rec

/-- What is made of the request in the registers is what the map says of it, whatever has been exchanged before. -/
theorem Asking.outcome (hv : Asking d iova v) {x : Bool} (hask : Asks d x) {t : Except Cause (Nat × Nat)}
    (hout : ∀ e, debugMap ⟨true, true, true⟩ (fun _ => e) ⟨iova, true, true, x⟩ = t) :
    debugMap v.modes v.exchanged ((dbgReq v.trReqCtl).request v.trReqIova) = t := by
  obtain ⟨e, he⟩ := hv.translates.exchanged
  rw [hv.translates.modes, he, hv.ctl.1, hv.iova, hask.request, hout e]

/-- When the map translates the request, the test finds the response to it after it has waited. -/
theorem wp_answered (hv : Asking d iova v) (x : Bool) (hask : Asks d x) (spa level : Nat)
    (hout : ∀ e, debugMap ⟨true, true, true⟩ (fun _ => e) ⟨iova, true, true, x⟩ = .ok (spa, level))
    (hQ : ∀ w, Asking d iova w → w.trResponse = trResponseOf spa level → Q () w) : wp (body link) Body.dbgGo Q v := by
  refine wp_dbgGo hv hask.did ?_
  intro r
  unfold View.debug
  rw [hv.outcome hask hout]
  exact hQ _ ⟨⟨hv.1.1, hv.1.2, hv.1.3, hv.1.4⟩, hv.enabled, hv.disabled, hv.ctl, hv.iova⟩ rfl

/-- When the map refuses the request, the test finds the fault bit set after it has waited, and the fault is in the queue. -/
theorem wp_debugFaults (hv : Asking d iova v) (x : Bool) (hask : Asks d x) (cause : Cause)
    (hout : ∀ e, debugMap ⟨true, true, true⟩ (fun _ => e) ⟨iova, true, true, x⟩ = .error cause)
    (hQ : ∀ r : Record, Q () { v with trResponse := trResponseFaultBit, pending := [r.fault cause iova], fip := true }) :
    wp (body link) Body.dbgGo Q v := by
  refine wp_dbgGo hv hask.did ?_
  intro r
  have hpending : v.pending ++ [r.fault cause v.trReqIova] = [r.fault cause iova] := by
    rw [hv.translates.pending, hv.iova]
    rfl
  unfold View.debug View.report
  rw [hv.outcome hask hout]
  dsimp only
  rw [hpending]
  exact hQ r

end

/-- `dbg_interface`: a page of 4 KiB, one of 2 MiB, and one of 1 GiB are answered with their addresses and sizes, and an MSI page
with a fault. -/
theorem dbgInterface_wp (h : ImagePlaced link) (hv : Idle v) :
    wp (body link) (dbgInterfaceBody link) (fun _ => Idle) v := by
  obtain ⟨hgo, hdid⟩ := hv.request
  have hjoin : (DebugAux.join (dbgReq v.trReqCtl) (.setDid idmaId)).did = idmaId := by
    change (dbgReq v.trReqCtl).did ||| idmaId = idmaId
    rcases hdid with hdid | hdid <;> rw [hdid] <;> decide
  have hfits : ∀ i, DbgCall.setDid idmaId = .setDid i → Fits i 24 := by
    rintro i hi
    cases hi
    decide
  unfold dbgInterfaceBody
  simp only [wp_bind, Body.twoStages, wp_setIommu h, wp_setDc, DcModes.set]
  have hstart : Asking (dbgReq v.trReqCtl) v.trReqIova { v with mode := .oneLvl, modes := ⟨true, true, true⟩ } :=
    ⟨⟨rfl, rfl, hv.exchanged, hv.pending⟩, hv.enabled, hv.disabled, ⟨rfl, hgo⟩, rfl⟩
  generalize { v with mode := .oneLvl, modes := (⟨true, true, true⟩ : DcModes) } = w at hstart ⊢
  clear hv hgo hdid
  have hflag : ∀ {c : DbgCall}, (∀ i, c ≠ .setDid i) → ∀ i, c = .setDid i → Fits i 24 := fun hne i hi => absurd hi (hne i)
  refine wp_dbgSetIova hstart _ ?_
  intro w hw
  refine wp_dbgSet hw _ hfits ?_
  intro w hw
  refine wp_dbgSet hw _ (hflag nofun) ?_
  intro w hw
  refine wp_dbgSet hw _ (hflag nofun) ?_
  intro w hw
  refine wp_dbgSet hw _ (hflag nofun) ?_
  intro w hw
  refine wp_dbgSet hw _ (hflag nofun) ?_
  intro w hw
  -- a page of 4 KiB
  refine wp_answered hw false ⟨hjoin, rfl, rfl⟩ (phys .twoStageW4K).toNat 0 (by decide) ?_
  intro w hw hresp
  simp only [wp_and, wp_dbgResponse, wp_assert, hresp]
  rw [if_pos (by decide), if_pos (by decide)]
  refine ⟨by decide, ?_⟩
  -- one of 2 MiB
  refine wp_dbgSetIova hw _ ?_
  intro w hw
  refine wp_dbgSet hw _ (hflag nofun) ?_
  intro w hw
  refine wp_dbgSet hw _ (hflag nofun) ?_
  intro w hw
  refine wp_answered hw true ⟨hjoin, rfl, rfl⟩ testPaddr2Mib 1 (by decide) ?_
  intro w hw hresp
  rw [hresp, if_pos (by decide), if_pos (by decide)]
  refine ⟨by decide, ?_, ?_⟩
  · exact beq_iff_eq.2 (BitVec.eq_of_toNat_eq (encodeX_trResponseOf testPaddr2Mib (Or.inl rfl)))
  -- one of 1 GiB
  refine wp_dbgSetIova hw _ ?_
  intro w hw
  refine wp_dbgSet hw _ (hflag nofun) ?_
  intro w hw
  refine wp_answered hw false ⟨hjoin, rfl, rfl⟩ testPaddr1Gib 2 (by decide) ?_
  intro w hw hresp
  rw [hresp, if_pos (by decide), if_pos (by decide)]
  refine ⟨by decide, ?_, ?_⟩
  · exact beq_iff_eq.2 (BitVec.eq_of_toNat_eq (encodeX_trResponseOf testPaddr1Gib (Or.inr rfl)))
  -- an MSI page
  refine wp_dbgSetIova hw _ ?_
  intro w hw
  refine wp_debugFaults hw false ⟨hjoin, rfl, rfl⟩ .transTypeDisallowed (by decide) ?_
  intro r
  have hfault : (rvIommuDbgReqFault trResponseFaultBit != 0#8) = true := by decide
  refine ⟨hfault, ?_⟩
  rw [wp_stack]
  intro buf
  refine wp_readRecord rfl buf ?_
  intro fqh
  simp only [fault_cause, fault_iova]
  refine ⟨by decide, by decide, rfl, hw.translates.exchanged, hw.enabled, hw.disabled, hw.ctl.2, Or.inr ?_⟩
  change (dbgReq w.trReqCtl).did = idmaId
  rw [hw.ctl.1]
  exact hjoin

end SocTestsAux

end RvIommuTests
