import RvIommuTests.Lemmas.QueueInit
import RvIommuTests.Lemmas.SocTests
import RvIommuTests.Main

/-!
# From the reset to the first test

What is known of the platform while `init_iommu` runs: it is as the accesses would have left it if it did nothing by itself, but for
what the queues do when they are on (`Follows`). So what `init_iommu` comes to is found by running it on a platform at rest.
-/

namespace RvIommuTests

open Bytes Fields Shared SocAux FlawlessAux QueueInitAux QueuesAux

/-- `fqcsr` while the queue is started, and what it is when it turns on only if it is waited for. -/
inductive Starting : Word32 → Word32 → Prop where
  | off : Starting 0#32 0#32
  | enabled : Starting csrEnable csrEnable
  | turned : Starting csrEnable (csrEnable ||| csrOn)
  | on : Starting (csrEnable ||| csrOn) (csrEnable ||| csrOn)

/-- The platform is as `g` but for what the queues have done. -/
def Follows (link : TestLink) (s g : Soc) : Prop :=
  ∃ (mem : Mem) (cqh cqcsr fqcsr : Word32) (fetched : List Command),
    s = { g with io := { g.io with mem := mem, cqh := cqh, cqcsr := cqcsr, fqcsr := fqcsr, fetched := fetched } } ∧
      OnlyIn (Region.Has link) .commands g.io.mem mem ∧ (g.io.cqcsr = 0#32 → cqcsr = 0#32 ∧ cqh = g.io.cqh) ∧
      Starting g.io.fqcsr fqcsr

namespace Soc

/-- What `init_iommu` does to the registers, on a platform that does nothing by itself before it is waited for. -/
def starting : Contract DevIo DevIo.Answer Soc where
  pre
    | .queue (.read32 _), _ => True
    | .queue (.write32 .cqcsr v), g => v = csrEnable ∧ g.io.cqcsr = 0#32
    | .queue (.write32 .fqcsr v), g => v = csrEnable ∧ g.io.fqcsr = 0#32
    | .queue (.write32 _ _), _ => True
    | .queue (.writeReg64 _ _), _ => True
    | .setCtl32 .ipsr _, _ => False
    | .setCtl32 _ _, _ => True
    | .setCtl64 .ddtp _, _ => True
    | .setCtl64 (.iohpmevt _) _, _ => True
    | _, _ => False
  post
    | .queue (.read32 .cqh), g, r, g' => (g.io.cqcsr = 0#32 → r = g.io.cqh) ∧ g' = g
    | .queue (.read32 .fqt), g, r, g' => r = g.io.fqt ∧ g' = g
    | .queue (.read32 .cqcsr), g, r, g' =>
      if r &&& csrOn ≠ 0#32 then g' = { g with io := { g.io with cqcsr := csrEnable ||| csrOn } } else g' = g
    | .queue (.read32 .fqcsr), g, r, g' =>
      if r &&& csrOn ≠ 0#32 then g' = { g with io := { g.io with fqcsr := csrEnable ||| csrOn } } else g' = g
    | .queue i, g, _, g' => g' = { g with io := (g.io.access i).2 }
    | .setCtl64 .ddtp v, g, _, g' => g' = { g with ddtp := v }
    | _, g, _, g' => g' = g

end Soc

/-- The contract of `main` before the tests. -/
def startContract (link : TestLink) : Contract MainIo MainIo.Answer Soc where
  pre
    | .test i, g => Soc.starting.flawless.pre i g
    | .finish, _ => False
    | _, _ => True
  post
    | .test i, g, r, g' => Soc.starting.flawless.post i g r g'
    | .fill t, g, _, g' => g' = g.fill link t
    | _, g, _, g' => g' = g

/-- The contract of `main` from the first test on. -/
def testsContract (link : TestLink) : Contract MainIo MainIo.Answer View where
  pre
    | .test i, v => (View.contract link).flawless.pre i v
    | .log _ _, _ => True
    | .finish, _ => True
    | .fill _, _ => False
    | .setVector _, _ => False
  post
    | .test i, v, r, v' => (View.contract link).flawless.post i v r v'
    | _, v, _, v' => v' = v

namespace MainAux

variable {link : TestLink} {s s' g : Soc} {x y : Word32} {m m' : Mem}

/-! ## The queues by themselves -/

/-- A queue that the IOMMU turns on while it is started is still being started. -/
theorem starting_on (h : Starting x y) (he : Enabled y) : Starting x (y ||| csrOn) := by
  cases h with
  | off => exact absurd he (by decide)
  | enabled => exact .turned
  | turned => exact .turned
  | on => exact .on

/-- A queue that the IOMMU turns off is not being started, so it stays as it was. -/
theorem starting_off (h : Starting x y) (he : ¬ Enabled y) : Starting x (y &&& ~~~csrOn) := by
  cases h with
  | off => exact .off
  | enabled => exact absurd (by decide) he
  | turned => exact absurd (by decide) he
  | on => exact absurd (by decide) he

/-- A queue whose csr is zero has not been started, so the IOMMU leaves its csr as it is. -/
theorem starting_zero (h : Starting x y) (hx : x = 0#32) : y = x := by
  cases h with
  | off => rfl
  | enabled => exact absurd hx (by decide)
  | turned => exact absurd hx (by decide)
  | on => rfl

/-- A platform follows itself, when its fault queue is being started. -/
theorem follows_refl (hcq : Starting g.io.fqcsr g.io.fqcsr) : Follows link g g :=
  ⟨_, _, _, _, _, rfl, .refl _, fun h => ⟨h, rfl⟩, hcq⟩

/-- What the IOMMU does by itself leaves the platform behind the same one at rest. -/
theorem follows_settles (h : Follows link s g) (he : Soc.Settles link s s') : Follows link s' g := by
  obtain ⟨mem, cqh, cqcsr, fqcsr, fetched, rfl, hm, hcq, hfq⟩ := h
  cases he with
  | commandQueue io hio =>
    cases hio with
    | on he =>
      refine ⟨_, _, _, _, _, rfl, hm, ?_, hfq⟩
      intro h0
      rw [(hcq h0).1] at he
      exact absurd he idle_zero.enabled
    | off _ =>
      refine ⟨_, _, _, _, _, rfl, hm, ?_, hfq⟩
      intro h0
      dsimp only
      rw [(hcq h0).1]
      exact ⟨rfl, (hcq h0).2⟩
    | fetch hon _ =>
      refine ⟨_, _, _, _, _, rfl, hm, ?_, hfq⟩
      intro h0
      rw [(hcq h0).1] at hon
      exact absurd hon idle_zero.on
  | faultQueueOn he => exact ⟨_, _, _, _, _, rfl, hm, hcq, starting_on hfq he⟩
  | faultQueueOff he => exact ⟨_, _, _, _, _, rfl, hm, hcq, starting_off hfq he⟩
  | commands _ hon hq =>
    obtain ⟨mem', cqh', cqcsr', fetched', hm', rfl⟩ := hq
    refine ⟨_, _, _, _, _, rfl, hm.trans hm', ?_, hfq⟩
    intro h0
    rw [(hcq h0).1] at hon
    exact absurd hon idle_zero.on

/-! ## The tables -/

/-- Memories that differ in the command queue only differ there only after `s2pt_init`. -/
theorem s2ptInit_both (h : OnlyIn (Region.Has link) .commands m m') :
    OnlyIn (Region.Has link) .commands (s2ptInit .platform link.toLink m) (s2ptInit .platform link.toLink m') := by
  simp only [s2ptInit]
  repeat first
    | apply OnlyIn.fill_both
    | apply OnlyIn.set_both
  exact h

/-- Memories that differ in the command queue only differ there only after `s1pt_init`. -/
theorem s1ptInit_both (h : OnlyIn (Region.Has link) .commands m m') :
    OnlyIn (Region.Has link) .commands (s1ptInit .platform link.toLink m) (s1ptInit .platform link.toLink m') := by
  simp only [s1ptInit]
  repeat first
    | apply OnlyIn.fill_both
    | apply OnlyIn.set_both
  exact h

/-- A change of the memory is followed when it does not look at the command queue. -/
theorem follows_onMem {f : Mem → Mem} (h : Follows link s g)
    (hf : ∀ m m', OnlyIn (Region.Has link) .commands m m' → OnlyIn (Region.Has link) .commands (f m) (f m')) :
    Follows link (s.onMem f) (g.onMem f) := by
  obtain ⟨mem, cqh, cqcsr, fqcsr, fetched, rfl, hm, hcq, hfq⟩ := h
  exact ⟨f mem, cqh, cqcsr, fqcsr, fetched, rfl, hf _ _ hm, hcq, hfq⟩

/-- The initialisation of a table reads nothing of the command queue, so a platform that follows another one still does. -/
theorem follows_fill (h : Follows link s g) (t : TableInit) : Follows link (s.fill link t) (g.fill link t) := by
  cases t with
  | s2pt => exact follows_onMem h fun _ _ => s2ptInit_both
  | s1pt => exact follows_onMem h fun _ _ => s1ptInit_both
  | mrif =>
    refine follows_onMem h fun m m' hm => ?_
    exact (((hm.store_both (n := 8) _ _).store_both (n := 8) _ _).store_both (n := 8) _ _).store_both (n := 8) _ _
  | msiPt =>
    obtain ⟨mem, cqh, cqcsr, fqcsr, fetched, rfl, hm, hcq, hfq⟩ := h
    exact ⟨mem, cqh, cqcsr, fqcsr, fetched, rfl, hm, hcq, hfq⟩
  | ddt =>
    obtain ⟨mem, cqh, cqcsr, fqcsr, fetched, rfl, hm, hcq, hfq⟩ := h
    exact ⟨mem, cqh, cqcsr, fqcsr, fetched, rfl, hm, hcq, hfq⟩

/-! ## The contracts are kept -/

/-- The polling loop of a queue ends when the queue is on. -/
theorem on_iff_polled (csr : Word32) (h : Starting x csr) : csr &&& csrOn ≠ 0#32 ↔ csr = csrEnable ||| csrOn := by
  cases h <;> decide

/-- What the devices do while the queues are started follows the contract. -/
theorem starting_keptBy : Soc.starting.KeptBy (Soc.startWorld link) (Follows link) := by
  constructor
  · intro i s g r s' hs hpre hsem
    have hsame : s' = s → Follows link s' g := fun he => he ▸ hs
    cases i with
    | queue i =>
      obtain ⟨hacc, hs'⟩ := hsem
      obtain ⟨hr, hio⟩ := Prod.mk.inj hacc
      rw [← hio] at hs'
      obtain ⟨mem, cqh, cqcsr, fqcsr, fetched, rfl, hm, hcq, hfq⟩ := hs
      cases i with
      | read32 reg =>
        cases reg with
        | cqh => exact ⟨g, ⟨fun h0 => hr ▸ (hcq h0).2, rfl⟩, hsame hs'⟩
        | fqt => exact ⟨g, ⟨hr.symm, rfl⟩, hsame hs'⟩
        | cqcsr =>
          by_cases hon : r &&& csrOn ≠ 0#32
          · refine ⟨_, (if_pos hon).mpr rfl, mem, cqh, cqcsr, fqcsr, fetched, hs', hm, ?_, hfq⟩
            exact fun h0 => absurd h0 (show csrEnable ||| csrOn ≠ 0#32 by decide)
          · exact ⟨_, (if_neg hon).mpr rfl, hsame hs'⟩
        | fqcsr =>
          obtain rfl : fqcsr = r := hr
          by_cases hon : fqcsr &&& csrOn ≠ 0#32
          · refine ⟨_, (if_pos hon).mpr rfl, ?_⟩
            rw [on_iff_polled _ hfq] at hon
            subst hon
            exact ⟨mem, cqh, cqcsr, _, fetched, hs', hm, hcq, .on⟩
          · exact ⟨_, (if_neg hon).mpr rfl, hsame hs'⟩
        | cqt => exact ⟨_, rfl, hsame hs'⟩
        | fqh => exact ⟨_, rfl, hsame hs'⟩
      | write32 reg w =>
        refine ⟨_, rfl, ?_⟩
        cases reg with
        | cqcsr =>
          obtain ⟨rfl, h0⟩ := hpre
          obtain ⟨rfl, rfl⟩ := hcq h0
          refine ⟨mem, _, _, fqcsr, fetched, hs', hm, ?_, hfq⟩
          intro h1
          dsimp only [Iommu.access, Iommu.writeReg32] at h1
          rw [h0] at h1
          exact absurd h1 (by decide)
        | fqcsr =>
          obtain ⟨rfl, h0⟩ := hpre
          obtain rfl := starting_zero hfq h0
          refine ⟨mem, cqh, cqcsr, _, fetched, hs', hm, hcq, ?_⟩
          change Starting (writeCsr g.io.fqcsr csrEnable) (writeCsr g.io.fqcsr csrEnable)
          rw [h0, show writeCsr 0#32 csrEnable = csrEnable by decide]
          exact .enabled
        | cqh => exact ⟨mem, cqh, cqcsr, fqcsr, fetched, hs', hm, hcq, hfq⟩
        | cqt => exact ⟨mem, cqh, cqcsr, fqcsr, fetched, hs', hm, hcq, hfq⟩
        | fqh => exact ⟨mem, cqh, cqcsr, fqcsr, fetched, hs', hm, hcq, hfq⟩
        | fqt => exact ⟨mem, cqh, cqcsr, fqcsr, fetched, hs', hm, hcq, hfq⟩
      | writeReg64 reg w =>
        refine ⟨_, rfl, ?_⟩
        cases reg with
        | cqb => exact ⟨mem, cqh, cqcsr, fqcsr, fetched, hs', hm, hcq, hfq⟩
        | fqb => exact ⟨mem, cqh, cqcsr, fqcsr, fetched, hs', hm, hcq, hfq⟩
      | read64 a => exact hpre.elim
      | write64 a w => exact hpre.elim
    | setCtl32 reg w =>
      cases reg with
      | ipsr => exact hpre.elim
      | fctl => exact ⟨g, rfl, hsame hsem⟩
      | iocntovf => exact ⟨g, rfl, hsame hsem⟩
      | iocntinh => exact ⟨g, rfl, hsame hsem⟩
      | msiCfgTblVctl i => exact ⟨g, rfl, hsame hsem⟩
    | setCtl64 reg w =>
      cases reg with
      | ddtp =>
        obtain ⟨mem, cqh, cqcsr, fqcsr, fetched, rfl, hm, hcq, hfq⟩ := hs
        exact ⟨_, rfl, mem, cqh, cqcsr, fqcsr, fetched, hsem, hm, hcq, hfq⟩
      | iohpmevt i => exact ⟨g, rfl, hsame hsem⟩
      | _ => exact hpre.elim
    | _ => exact hpre.elim
  · exact fun s g s' hs he => follows_settles hs he

/-- Up to the tests `main` keeps its contract on a platform that follows one at rest. -/
theorem start_keptBy (logLevel : Int) (img : Image) :
    (startContract link).KeptBy (mainWorld logLevel img link) (Flawless (Follows link)) := by
  have htest := flawless_keptBy (@starting_keptBy link) logLevel img
  constructor
  · intro i b g r b' hb hpre hsem
    cases i with
    | test i => exact htest.sem i b g r b' hb hpre hsem
    | finish => exact hpre.elim
    | log level text =>
      cases hsem
      refine ⟨g, rfl, ?_⟩
      unfold Bench.log
      split
      · exact { hb with printed := good_print hb.printed rfl }
      · exact hb
    | fill t =>
      obtain rfl : b' = { b with dev := b.dev.fill link t } := hsem
      exact ⟨_, rfl, follows_fill hb.dev t, hb.status, hb.asserted, hb.counted, hb.printed⟩
    | setVector reg =>
      obtain rfl : b' = b := hsem
      exact ⟨g, rfl, hb⟩
  · exact htest.env

/-- The tests find nothing of what the platform does by itself. -/
theorem startWorld_keptBy (h : ImagePlaced link) : (View.contract link).KeptBy (Soc.startWorld link) (Shows link) := by
  have hkept := soc_keptBy h
  refine ⟨hkept.sem, ?_⟩
  intro s v s' hs he
  cases he with
  | commandQueue io hio =>
    refine hkept.env s v _ hs ?_
    cases hio with
    | on => exact ⟨_, _, _, _, .refl _, rfl⟩
    | off => exact ⟨_, _, _, _, .refl _, rfl⟩
    | fetch => exact ⟨_, _, _, _, .refl _, rfl⟩
  | faultQueueOn =>
    have hon : s.io.fqcsr ||| csrOn = s.io.fqcsr := by
      rw [hs.fqcsr]
      decide
    rw [hon]
    exact hs
  | faultQueueOff hoff =>
    rw [hs.fqcsr] at hoff
    exact absurd (by decide) hoff
  | commands _ _ hq => exact hkept.env s v s' hs hq

/-- From the first test on `main` keeps its contract on a platform that is as the view shows. -/
theorem tests_keptBy (h : ImagePlaced link) (logLevel : Int) (img : Image) :
    (testsContract link).KeptBy (mainWorld logLevel img link) (Flawless (Shows link)) := by
  have htest := flawless_keptBy (startWorld_keptBy h) logLevel img
  constructor
  · intro i b v r b' hb hpre hsem
    cases i with
    | test i => exact htest.sem i b v r b' hb hpre hsem
    | finish =>
      cases hsem
      refine ⟨v, rfl, hb.dev, hb.status, hb.asserted, ?_, ?_⟩
      · unfold Harness.finish
        dsimp only
        rw [if_pos hb.counted]
        exact hb.counted
      · unfold Harness.finish
        dsimp only
        rw [if_pos hb.counted]
        exact good_print (good_print hb.printed rfl) rfl
    | log level text =>
      cases hsem
      refine ⟨v, rfl, ?_⟩
      unfold Bench.log
      split
      · exact { hb with printed := good_print hb.printed rfl }
      · exact hb
    | _ => exact hpre.elim
  · exact htest.env

/-! ## Rules -/

variable {α : Type}

/-- A test function called before the tests meets the contract of the devices. -/
theorem wp_startBody (p : Body α) (Q : α → Soc → Prop) :
    wp (startContract link) (MainFn.body p) Q g ↔ wp Soc.starting.flawlessBody p Q g := by
  unfold MainFn.body
  rw [wp_embed]
  exact Iff.rfl

/-- A message of any level leaves what is known of the platform as it is. -/
theorem wp_log (level : Int) (text : String) (Q : Unit → Soc → Prop) :
    wp (startContract link) (MainFn.log level text) Q g ↔ Q () g :=
  ⟨fun h => h.2 () g rfl, fun h => ⟨trivial, fun _ _ he => he ▸ h⟩⟩

/-- The initialisation of a table, in the contract of `main` before the tests. -/
theorem wp_fill (t : TableInit) (Q : Unit → Soc → Prop) :
    wp (startContract link) (MainFn.fill t) Q g ↔ Q () (g.fill link t) :=
  ⟨fun h => h.2 () _ rfl, fun h => ⟨trivial, fun _ _ he => he ▸ h⟩⟩

/-- A write to an interrupt vector or to the MSI configuration leaves what is known as it is. -/
theorem wp_setVector (reg : VectorReg) (Q : Unit → Soc → Prop) :
    wp (startContract link) (MainFn.setVector reg) Q g ↔ Q () g :=
  ⟨fun h => h.2 () g rfl, fun h => ⟨trivial, fun _ _ he => he ▸ h⟩⟩

/-- A write to a control register other than `ipsr` leaves what is known as it is. -/
theorem wp_setCtl32 {reg : Ctl32} (hreg : reg ≠ .ipsr) (v : Word32) (Q : Unit → Soc → Prop) :
    wp Soc.starting.flawlessBody (Body.dev (.setCtl32 reg v)) Q g ↔ Q () g := by
  rw [FlawlessAux.wp_dev]
  cases reg with
  | ipsr => exact absurd rfl hreg
  | _ => exact ⟨fun h => h.2 () g rfl, fun h => ⟨trivial, fun _ _ he => he ▸ h⟩⟩

/-- A write to an event selector leaves what is known as it is. -/
theorem wp_setIohpmevt (i : Nat) (v : Word) (Q : Unit → Soc → Prop) :
    wp Soc.starting.flawlessBody (Body.dev (.setCtl64 (.iohpmevt i) v)) Q g ↔ Q () g := by
  rw [FlawlessAux.wp_dev]
  exact ⟨fun h => h.2 () g rfl, fun h => ⟨trivial, fun _ _ he => he ▸ h⟩⟩

/-- The setters of the mode of the IOMMU write `ddtp`. -/
theorem wp_setIommu (mode : DdtpMode) (Q : Unit → Soc → Prop) :
    wp (startContract link) (MainFn.body (Body.setIommu link mode)) Q g ↔
      Q () { g with ddtp := ((link.rootDdt >>> 2) &&& ddtpPpnMask) ||| mode.code } := by
  rw [wp_startBody, Body.setIommu, FlawlessAux.wp_dev]
  exact ⟨fun h => h.2 () _ rfl, fun h => ⟨trivial, fun _ _ he => he ▸ h⟩⟩

/-- A write to a base register of a queue, while the queues are started. -/
theorem wp_writeReg64 (reg : Reg64) (w : Word) (Q : Unit → Soc → Prop) :
    wp Soc.starting.queue (writeReg64 reg w) Q g ↔ Q () { g with io := g.io.writeReg64 reg w } := by
  rw [writeReg64, TestAux.wp_queue_call]
  exact ⟨fun h => h.2 () _ rfl, fun h => ⟨trivial, fun _ _ he => he ▸ h⟩⟩

/-- An index of the driver is written, or a queue is enabled. -/
theorem wp_write32 {reg : Reg32} {w : Word32} {Q : Unit → Soc → Prop} (hpre : Soc.starting.pre (.queue (.write32 reg w)) g)
    (hQ : Q () { g with io := g.io.writeReg32 reg w }) : wp Soc.starting.queue (write32 reg w) Q g := by
  rw [write32, TestAux.wp_queue_call]
  exact ⟨hpre, fun _ _ he => he ▸ hQ⟩

/-- When the driver waits for a queue, the queue is on afterwards, and nothing else has changed. -/
theorem wp_waitOn {reg : Reg32} {on : Soc} {Q : Unit → Soc → Prop}
    (hpost : ∀ (csr : Word32) g', Soc.starting.post (.queue (.read32 reg)) g csr g' →
      if csr &&& csrOn ≠ 0#32 then g' = on else g' = g) (hQ : Q () on) :
    wp Soc.starting.queue (.waitFor (Access.read32 reg) (fun csr => csr &&& csrOn != 0#32)) Q g := by
  rw [wp_waitFor]
  refine ⟨trivial, ?_⟩
  rintro _ g' ⟨csr, rfl, hg'⟩
  have hg := hpost csr g' hg'
  by_cases hon : csr &&& csrOn ≠ 0#32
  · rw [if_pos hon] at hg
    rw [if_pos (by simpa using hon), hg]
    exact hQ
  · rw [if_neg hon] at hg
    rw [if_neg (by simpa using hon)]
    exact hg

/-- `rv_iommu_cq_init` from a head that is a multiple of 64. The queue is waited for. -/
theorem cqInit_wp (hcsr : g.io.cqcsr = 0#32) (hcqh : g.io.cqh.toNat % 64 = 0) {Q : Unit → Soc → Prop}
    (hQ : Q () { g with
      io := { g.io with cqb := qbOf link.commandQueue, cqt := 0#32, cqcsr := csrEnable ||| csrOn, cqh := 0#32 } }) :
    wp (startContract link) (MainFn.body (Body.queue (rvIommuCqInit link.toLink))) Q g := by
  rw [wp_startBody, wp_queue, rvIommuCqInit, wp_bind, wp_writeReg64, wp_bind, read32, TestAux.wp_queue_call]
  refine ⟨trivial, ?_⟩
  rintro cqh _ ⟨hread, rfl⟩
  obtain rfl := hread hcsr
  rw [wp_bind]
  refine wp_write32 trivial ?_
  rw [wp_bind]
  refine wp_write32 ⟨rfl, hcsr⟩ ?_
  refine wp_waitOn (fun _ _ h => h) ?_
  dsimp only [Iommu.writeReg32, Iommu.writeReg64]
  rw [hcsr, indexMask_qbOf, and_63_eq_zero hcqh]
  exact hQ

/-- `rv_iommu_fq_init` from a tail that is a multiple of 64. -/
theorem fqInit_wp (hcsr : g.io.fqcsr = 0#32) (hfqt : g.io.fqt.toNat % 64 = 0) {Q : Unit → Soc → Prop}
    (hQ : Q () { g with
      io := { g.io with fqb := qbOf link.faultQueue, fqh := 0#32, fqcsr := csrEnable ||| csrOn, fqt := 0#32 } }) :
    wp (startContract link) (MainFn.body (Body.queue (rvIommuFqInit link.toLink))) Q g := by
  rw [wp_startBody, wp_queue, rvIommuFqInit, wp_bind, wp_writeReg64, wp_bind, read32, TestAux.wp_queue_call]
  refine ⟨trivial, ?_⟩
  rintro _ _ ⟨rfl, rfl⟩
  rw [wp_bind]
  refine wp_write32 trivial ?_
  rw [wp_bind]
  refine wp_write32 ⟨rfl, hcsr⟩ ?_
  refine wp_waitOn (fun _ _ h => h) ?_
  dsimp only [Iommu.writeReg32, Iommu.writeReg64]
  rw [hcsr, indexMask_qbOf, and_63_eq_zero hfqt]
  exact hQ

/-- The counters are set up without a change to what is known of the platform. -/
theorem wp_hpmInit (Q : Unit → Soc → Prop) : wp (startContract link) (MainFn.body hpmInit) Q g ↔ Q () g := by
  rw [wp_startBody, hpmInit, wp_bind, wp_setIohpmevt, wp_bind, wp_setIohpmevt, wp_bind, wp_setIohpmevt, wp_bind, wp_setIohpmevt,
    wp_bind, wp_setIohpmevt, wp_setCtl32 (by simp)]

/-- `rv_iommu_set_ig_wsi` leaves what is known of the platform as it is. -/
theorem wp_setIgWsi (Q : Unit → Soc → Prop) : wp (startContract link) (MainFn.body Body.setIgWsi) Q g ↔ Q () g := by
  rw [wp_startBody, Body.setIgWsi]
  exact wp_setCtl32 (by decide) _ Q

/-- The setup of an entry of the MSI configuration table leaves what is known as it is. -/
theorem wp_setMsiCfgTbl (i : Nat) (addr : Word) (data vctl : Word32) (Q : Unit → Soc → Prop) :
    wp (startContract link) (setMsiCfgTbl i addr data vctl) Q g ↔ Q () g := by
  unfold setMsiCfgTbl
  simp only [wp_bind, wp_setVector, wp_startBody]
  exact wp_setCtl32 (by simp) vctl Q

/-- From a platform that comes out of its reset, `init_iommu` makes the platform ready for the tests. -/
theorem initIommu_wp (hs : g.Reset link) : wp (startContract link) (initIommu link)
    (fun _ g' => g'.Ready link) g := by
  unfold initIommu MainFn.info MainFn.verbose
  rw [wp_bind, wp_log, wp_bind]
  refine cqInit_wp hs.cqcsr hs.cqh ?_
  rw [wp_bind, wp_log, wp_bind, wp_log, wp_bind]
  refine fqInit_wp ?_ ?_ ?_
  · exact hs.fqcsr
  · exact hs.fqt
  simp only [wp_bind, wp_log, wp_fill, wp_setIommu, wp_setMsiCfgTbl, wp_setIgWsi, wp_setVector, wp_hpmInit]
  simp only [Soc.fill, Soc.onMem]
  refine ⟨⟨g.io.mem, hs.tables, rfl⟩, ?_, ⟨_, rfl⟩, ⟨_, rfl⟩, rfl, hs.fip, hs.trReqCtl⟩
  simp only [Iommu.cold, hs.fetched, hs.accepted, hs.recording]

end MainAux

end RvIommuTests
