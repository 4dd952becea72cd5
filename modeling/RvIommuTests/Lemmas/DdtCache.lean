import RvIommuTests.Lib.Rely
import RvIommuTests.DdtCache
import RvIommuTests.Lemmas.CommandLayout
import RvIommuTests.Lemmas.DeviceContext

/-!
# Operations and the contexts the IOMMU may keep

For any sequence of operations, whatever tests it comes from, the requests are translated with the context in `root_ddt` in every
run exactly when each launch finds the IOMMU with no other context (`okAll`): as long as that is so, at most one context can be
kept, the one of the last launch.
-/

namespace RvIommuTests

open Shared

namespace DdtCacheAux

variable {link : Link}

/-- The number of the device under test. -/
abbrev did : Nat := idmaId.toNat

/-! ## The context of the device -/

/-- The loops over `[DID_MIN, DID_MAX]` reach the device under test. -/
theorem hasDid_did : DdtConfig.platform.HasDid did := by decide

/-- The context of the device with given modes. -/
def dcAt (link : Link) (m : DcModes) : Dc where
  tc := dcTcBasic
  iohgatp := ((link.s2ptRoot >>> 12) ||| (if m.iohgatp then iohgatpModeSv39x4 else iohgatpModeBare)) |||
    (DdtConfig.platform.gscid did <<< gscidOff)
  ta := DdtConfig.platform.pscid did <<< pscidOff
  fsc := (link.s1pt >>> 12) ||| (if m.iosatp then iosatpModeSv39 else iosatpModeBare)
  msiptp := (link.msiPt >>> 12) ||| (if m.msiptp then msiptpModeFlat else msiptpModeOff)
  msiAddrMask := msiAddrMask
  msiAddrPattern := msiAddrPattern
  reserved := 0#64

/-- `rv_iommu_ddt_init` gives the DMA device the context with all modes reset. -/
theorem init_did (ddt : Ddt) : rvIommuDdtInit DdtConfig.platform link ddt did = dcAt link .reset :=
  (DdtConfig.platform.forDids_apply _ _ did).trans (if_pos hasDid_did)

/-- A setter changes its mode in the context of the DMA device. -/
theorem run_did (setter : DcSetter) {ddt : Ddt} {m : DcModes} (h : ddt did = dcAt link m) :
    setter.run DdtConfig.platform link ddt did = dcAt link (m.set setter) := by
  rw [setter.run_apply, if_pos hasDid_did, h]
  cases setter <;> rfl

/-- A bit that is set in one of two words only says which of them it is. -/
theorem getLsbD_ite {k : Nat} {on off : Word} (hon : on.getLsbD k = true) (hoff : off.getLsbD k = false) (b : Bool) :
    (if b = true then on else off).getLsbD k = b := by
  cases b with
  | false => rw [if_neg Bool.false_ne_true, hoff]
  | true => rw [if_pos rfl, hon]

/-- Each mode has a bit of the context of its own. -/
theorem dcAt_injective {m m' : DcModes} (h : dcAt link m = dcAt link m') : m = m' := by
  obtain ⟨a, b, d⟩ := m
  obtain ⟨a', b', d'⟩ := m'
  have hfsc := congrArg (fun dc : Dc => dc.fsc.getLsbD 63) h
  have hgatp := congrArg (fun dc : Dc => dc.iohgatp.getLsbD 63) h
  have hmsi := congrArg (fun dc : Dc => dc.msiptp.getLsbD 60) h
  have hid : (DdtConfig.platform.gscid did <<< gscidOff).getLsbD 63 = false := by decide
  simp only [dcAt, hid, BitVec.getLsbD_or, BitVec.getLsbD_ushiftRight, Bool.or_false] at hfsc hgatp hmsi
  rw [getLsbD_ite (by decide) (by decide), getLsbD_ite (by decide) (by decide),
    BitVec.getLsbD_of_ge link.s1pt _ (by decide), Bool.false_or, Bool.false_or] at hfsc
  rw [getLsbD_ite (by decide) (by decide), getLsbD_ite (by decide) (by decide),
    BitVec.getLsbD_of_ge link.s2ptRoot _ (by decide), Bool.false_or, Bool.false_or] at hgatp
  rw [getLsbD_ite (by decide) (by decide), getLsbD_ite (by decide) (by decide),
    BitVec.getLsbD_of_ge link.msiPt _ (by decide), Bool.false_or, Bool.false_or] at hmsi
  rw [hfsc, hgatp, hmsi]

/-! ## Operations on the modes -/

/-- The mode of the IOMMU, the modes in the context of the device, and the ones in the context that the IOMMU may keep. -/
structure Abs where
  mode : DdtpMode
  cur : DcModes
  held : Option DcModes

namespace Abs

/-- What an operation does, when no launch so far has found another context. -/
def step (a : Abs) : Op → Abs
  | .setMode mode => { a with mode := mode }
  | .setDc setter => { a with cur := a.cur.set setter }
  | .issue call => { a with held := if (call.command ⟨0#64, 0#64⟩).coversDevice did then none else a.held }
  | .transfer _ _ | .debug _ => { a with held := if a.mode = .oneLvl then some a.cur else a.held }
  | .s1ptSwitch | .s2ptSwitch => a

/-- The IOMMU keeps no other context of the device than the one in `root_ddt`. -/
def Clean (a : Abs) : Prop := a.held = none ∨ a.held = some a.cur

/-- A transfer leaves the current modes kept, when the IOMMU is in the 1LVL mode. -/
theorem step_launches (a : Abs) {o : Op} (ho : o.launches = true) :
    a.step o = { a with held := if a.mode = .oneLvl then some a.cur else a.held } := by
  cases o with
  | transfer src dst => rfl
  | debug iova => rfl
  | _ => cases ho

end Abs

/-- Every launch in 1LVL mode finds the IOMMU with no other context. -/
def okAll : List Op → Abs → Prop
  | [], _ => True
  | o :: os, a => (o.launches = true → a.mode = .oneLvl → a.Clean) ∧ okAll os (a.step o)

/-- Which device a command covers does not depend on what the stack held before. -/
theorem coversDevice_command (call : DriverCall) (n n' : Command) (d : Nat) :
    (call.command n).coversDevice d = (call.command n').coversDevice d := by
  simp only [Command.coversDevice, Command.iodir, call.dw0_command n n']

/-! ## Soundness -/

/-- A state that the modes stand for. -/
structure Matches (link : Link) (a : Abs) (s : DdtSys) : Prop where
  mode : s.mode = a.mode
  cur : s.rootDdt did = dcAt link a.cur
  held : ∀ dc, s.ddtc did = some dc → ∃ m, a.held = some m ∧ dc = dcAt link m
  coherent : s.Coherent

/-- Requests of the device under test may be under way. -/
def Busy (s : DdtSys) : Prop := s.request = none ∨ s.request = some did

/-- A context that is kept is one of the modes held, whichever entry was put in or dropped. -/
theorem update_held {a : Abs} {s : DdtSys} (h : Matches link a s) (d : Nat) (dc : Dc)
    (hdc : Function.update s.ddtc d none did = some dc) : ∃ m, a.held = some m ∧ dc = dcAt link m := by
  rw [Function.update_apply] at hdc
  split at hdc
  · cases hdc
  · exact h.held dc hdc

/-- Between two operations no request is under way, so the IOMMU can only drop contexts that it keeps. -/
theorem stable_idle (a : Abs) :
    Stable (DdtSys.world .platform link) (fun s => Matches link a s ∧ s.request = none) := by
  rintro s s' ⟨h, hr⟩ hstep
  cases hstep with
  | hit did' dc _ hreq _ =>
    rw [hr] at hreq
    cases hreq
  | walk did' _ hreq =>
    rw [hr] at hreq
    cases hreq
  | evict did' => exact ⟨⟨h.mode, h.cur, update_held h did', h.coherent⟩, hr⟩
  | finish => exact ⟨⟨h.mode, h.cur, h.held, h.coherent⟩, rfl⟩

/-- A request more that was translated with the context in `root_ddt`. -/
theorem coherent_append {s : DdtSys} (h : s.Coherent) {dc : Dc} (hdc : dc = s.rootDdt did) :
    ∀ u ∈ s.used ++ [(dc, s.rootDdt did)], u.1 = u.2 := by
  intro u hu
  rcases List.mem_append.1 hu with hu | hu
  · exact h u hu
  · rw [List.mem_singleton.1 hu]
    exact hdc

/-- While requests are under way in 1LVL mode, the IOMMU uses and keeps the context in `root_ddt` only. -/
theorem stable_busy {a : Abs} (hfull : a.mode = .oneLvl → a.held = some a.cur) :
    Stable (DdtSys.world .platform link) (fun s => Matches link a s ∧ Busy s) := by
  rintro s s' ⟨h, hr⟩ hstep
  have hdid : ∀ d, s.request = some d → d = did := by
    intro d hd
    rcases hr with hr | hr
    · rw [hr] at hd
      cases hd
    · rw [hr] at hd
      cases hd
      rfl
  cases hstep with
  | hit d dc hm hreq hdc =>
    obtain rfl := hdid d hreq
    obtain ⟨m, hm', rfl⟩ := h.held dc hdc
    have hcur : m = a.cur := by
      rw [hfull (h.mode ▸ hm)] at hm'
      exact (Option.some.inj hm').symm
    exact ⟨⟨h.mode, h.cur, h.held, coherent_append h.coherent (by rw [h.cur, hcur])⟩, hr⟩
  | walk d hm hreq =>
    obtain rfl := hdid d hreq
    refine ⟨⟨h.mode, h.cur, fun dc hdc => ⟨a.cur, hfull (h.mode ▸ hm), ?_⟩, coherent_append h.coherent rfl⟩, hr⟩
    have hdc' : some (s.rootDdt did) = some dc := (Function.update_self did _ s.ddtc).symm.trans hdc
    rw [← Option.some.inj hdc', h.cur]
  | evict d => exact ⟨⟨h.mode, h.cur, update_held h d, h.coherent⟩, hr⟩
  | finish => exact ⟨⟨h.mode, h.cur, h.held, h.coherent⟩, Or.inl rfl⟩

/-- An operation that launches no transfer does in the model what it does in the abstract state. -/
theorem matches_drive {a : Abs} {s : DdtSys} (h : Matches link a s) {o : Op} (ho : o.launches = false) (newCmd : Command) :
    Matches link (a.step o) (s.drive .platform link o newCmd) := by
  cases o with
  | setMode mode => exact ⟨rfl, h.cur, h.held, h.coherent⟩
  | setDc setter => exact ⟨h.mode, run_did setter h.cur, h.held, h.coherent⟩
  | s1ptSwitch => exact h
  | s2ptSwitch => exact h
  | issue call =>
    refine ⟨h.mode, h.cur, ?_, h.coherent⟩
    intro dc hdc
    simp only [DdtSys.drive, coversDevice_command call newCmd ⟨0#64, 0#64⟩] at hdc
    simp only [Abs.step]
    split at hdc
    · cases hdc
    · rename_i hc
      rw [if_neg hc]
      exact h.held dc hdc
  | transfer src dst => cases ho
  | debug iova => cases ho

/-- The launch of requests keeps the IOMMU to the context in `root_ddt`. -/
theorem matches_start {a : Abs} {s : DdtSys} (h : Matches link a s) {o : Op} (ho : o.launches = true)
    (hclean : a.mode = .oneLvl → a.Clean) : Matches link (a.step o) s := by
  rw [a.step_launches ho]
  refine ⟨h.mode, h.cur, ?_, h.coherent⟩
  intro dc hdc
  obtain ⟨m, hm, rfl⟩ := h.held dc hdc
  by_cases hmode : a.mode = .oneLvl
  · refine ⟨m, (if_pos hmode).trans ?_, rfl⟩
    rcases hclean hmode with hc | hc
    · rw [hc] at hm
      cases hm
    · exact hc.symm.trans hm
  · exact ⟨m, (if_neg hmode).trans hm, rfl⟩

/-- When every launch finds the IOMMU with no other context, every request is translated with the one in `root_ddt`. -/
theorem runOps_triple (os : List Op) (a : Abs) (hok : okAll os a) :
    Triple (DdtSys.world .platform link) DdtSys.Coherent (fun s => Matches link a s ∧ s.request = none) (runOps os)
      (fun _ _ => True) := by
  induction os generalizing a with
  | nil => exact Triple.ret (stable_idle a) (fun s h => h.1.coherent) (fun _ _ => trivial)
  | cons o os ih =>
    obtain ⟨hclean, hok⟩ := hok
    rw [runOps]
    by_cases ho : o.launches = true
    · rw [if_pos ho]
      have hfull : (a.step o).mode = .oneLvl → (a.step o).held = some (a.step o).cur := by
        rw [a.step_launches ho]
        exact fun hm => if_pos hm
      refine Triple.act (fun accepted s => Matches link (if accepted = true then a.step o else a) s ∧
        if accepted = true then Busy s else s.request = none) (stable_idle a) (fun s h => h.1.coherent) ?_ ?_
      · rintro s accepted s' ⟨h, hr⟩ hs'
        cases accepted with
        | false =>
          obtain rfl : s' = s := hs'
          exact ⟨h, hr⟩
        | true =>
          obtain rfl : s' = { s with request := some idmaId.toNat } := hs'
          have h' := matches_start h ho (hclean ho)
          exact ⟨⟨h'.mode, h'.cur, h'.held, h'.coherent⟩, Or.inr rfl⟩
      · intro accepted
        cases accepted with
        | false => exact Triple.ret (stable_idle a) (fun s h => h.1.coherent) (fun _ _ => trivial)
        | true =>
          refine Triple.poll (fun _ s => Matches link (a.step o) s ∧ s.request = none) (stable_busy hfull)
            (fun s h => h.1.coherent) ?_ ?_ (fun _ => ih _ hok)
          · rintro s done s' h ⟨rfl, _⟩ _
            exact h
          · rintro s done s' h ⟨rfl, hdone⟩ htest
            exact ⟨h.1, hdone.1 htest⟩
    · rw [if_neg ho]
      refine Triple.act (fun _ s => Matches link (a.step o) s ∧ s.request = none) (stable_idle a)
        (fun s h => h.1.coherent) ?_ (fun _ => ih _ hok)
      rintro s _ s' ⟨h, hr⟩ ⟨newCmd, rfl⟩
      have ho' : o.launches = false := Bool.eq_false_iff.2 ho
      refine ⟨matches_drive h ho' newCmd, ?_⟩
      cases o with
      | transfer src dst => cases ho'
      | debug iova => cases ho'
      | _ => exact hr

/-! ## Completeness -/

/-- The state that the modes stand for when the IOMMU keeps what it may keep. -/
structure Keeps (link : Link) (a : Abs) (s : DdtSys) : Prop where
  mode : s.mode = a.mode
  cur : s.rootDdt did = dcAt link a.cur
  held : s.ddtc did = a.held.map (dcAt link)
  idle : s.request = none

/-- An operation that launches no transfer leaves the IOMMU keeping what the abstract state holds. -/
theorem keeps_drive {a : Abs} {s : DdtSys} (h : Keeps link a s) {o : Op} (ho : o.launches = false) :
    Keeps link (a.step o) (s.drive .platform link o ⟨0#64, 0#64⟩) := by
  cases o with
  | setMode mode => exact ⟨rfl, h.cur, h.held, h.idle⟩
  | setDc setter => exact ⟨h.mode, run_did setter h.cur, h.held, h.idle⟩
  | s1ptSwitch => exact h
  | s2ptSwitch => exact h
  | issue call =>
    refine ⟨h.mode, h.cur, ?_, h.idle⟩
    simp only [DdtSys.drive, Abs.step]
    split
    · rfl
    · exact h.held
  | transfer src dst => cases ho
  | debug iova => cases ho

/-- Requests that are launched may all be done at once, after the IOMMU has read and kept the context in `root_ddt`. -/
theorem keeps_launch {a : Abs} {s : DdtSys} (h : Keeps link a s) {o : Op} (ho : o.launches = true) (os : List Op) :
    ∃ s', Run (DdtSys.world .platform link) (runOps (o :: os)) s (runOps os) s' ∧ Keeps link (a.step o) s' := by
  rw [runOps, if_pos ho, a.step_launches ho]
  have hfinish : ∀ s₁ : DdtSys, Run (DdtSys.world .platform link) (.poll .finished (fun done => done) fun _ => runOps os) s₁
      (runOps os) { s₁ with request := none } := fun s₁ =>
    .env (.finish s₁) (.hit true ⟨rfl, fun _ => rfl, fun _ => rfl⟩ rfl (.refl _ _))
  by_cases hm : a.mode = .oneLvl
  · refine ⟨_, .act true rfl (.env (.walk _ did (h.mode.trans hm) rfl) (hfinish _)), h.mode, h.cur, ?_, rfl⟩
    rw [if_pos hm]
    exact (Function.update_self did _ s.ddtc).trans (congrArg some h.cur)
  · refine ⟨_, .act true rfl (hfinish _), h.mode, h.cur, ?_, rfl⟩
    rw [if_neg hm]
    exact h.held

/-- A launch that finds another context may be translated with it. -/
theorem runOps_stale (os : List Op) (a : Abs) (hok : ¬ okAll os a) (s : DdtSys) (h : Keeps link a s) :
    ∃ q s', Run (DdtSys.world .platform link) (runOps os) s q s' ∧ ¬ s'.Coherent := by
  induction os generalizing a s with
  | nil => exact absurd trivial hok
  | cons o os ih =>
    by_cases ho : o.launches = true
    · by_cases hclean : a.mode = .oneLvl → a.Clean
      · obtain ⟨s₁, hrun, h₁⟩ := keeps_launch h ho os
        obtain ⟨q, s', hrun', hs'⟩ := ih _ (fun hos => hok ⟨fun _ => hclean, hos⟩) s₁ h₁
        exact ⟨q, s', hrun.trans hrun', hs'⟩
      · obtain ⟨hm, hdirty⟩ := Classical.not_imp.1 hclean
        obtain ⟨hnone, hcur⟩ := not_or.1 hdirty
        obtain ⟨m, hheld⟩ := Option.ne_none_iff_exists'.1 hnone
        have hddtc : s.ddtc did = some (dcAt link m) := by rw [h.held, hheld, Option.map_some]
        rw [runOps, if_pos ho]
        refine ⟨_, _, .act true rfl (.env (.hit _ did _ (h.mode.trans hm) rfl hddtc) (.refl _ _)), fun hcoh => hcur ?_⟩
        have hdc : dcAt link m = s.rootDdt did := hcoh (_, _) (List.mem_append_right _ (List.mem_singleton.2 rfl))
        rw [hheld, dcAt_injective (hdc.trans h.cur)]
    · have ho' : o.launches = false := Bool.eq_false_iff.2 ho
      obtain ⟨q, s', hrun, hs'⟩ := ih _ (fun hos => hok ⟨fun h => absurd h ho, hos⟩) _ (keeps_drive h ho')
      refine ⟨q, s', ?_, hs'⟩
      rw [runOps, if_neg ho]
      exact .act () ⟨⟨0#64, 0#64⟩, rfl⟩ hrun

/-- The requests are translated with the context in `root_ddt` in every run exactly when every launch finds no other one. -/
theorem runOps_coherent_iff (os : List Op) (ddt : Ddt) :
    (∀ q s, Run (DdtSys.world .platform link) (runOps os) (DdtSys.init .platform link ddt) q s → s.Coherent) ↔
      okAll os ⟨.off, .reset, none⟩ := by
  constructor
  · intro h
    by_contra hok
    obtain ⟨q, s, hrun, hs⟩ := runOps_stale os _ hok (DdtSys.init .platform link ddt) ⟨rfl, init_did ddt, rfl, rfl⟩
    exact hs (h q s hrun)
  · intro hok q s hrun
    refine (runOps_triple os _ hok _ q s ⟨⟨rfl, init_did ddt, ?_, ?_⟩, rfl⟩ hrun).1
    · intro dc hdc
      cases hdc
    · intro u hu
      cases hu

end DdtCacheAux

end RvIommuTests
