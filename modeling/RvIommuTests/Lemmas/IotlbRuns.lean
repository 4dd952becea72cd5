import RvIommuTests.Lemmas.Iotlb
import RvIommuTests.Lib.Rely

/-!
# Operations and the entries the IOMMU may keep

The switch of a stage leaves entries of the stage that are no longer the ones in memory, until the IOMMU executes a command that
makes it give them up. Operations that queue such a command with a GSCID between a switch and the next launch (`Flushed`) need
only wait for the IOMMU to execute it.
-/

namespace RvIommuTests

open Bytes Tables Paging Shared PageTablesAux WalksAux DdtCacheAux

namespace IotlbAux

variable {link : Link} {s s' : TlbSys} {stage : Stage}

/-! ## States -/

/-- What holds at every point of a run. -/
structure Base (link : Link) (s : TlbSys) : Prop where
  modes : ∃ modes, s.dc = dcAt link modes
  mem : MemOk link s.mem
  tags : ∀ e ∈ s.kept, e.gscid = 0x0ABC#64 ∧ e.pscid = 0x0DEF#64
  kept : ∀ e ∈ s.kept, InStage link e.stage e.addr ∧ Fits link e.addr e.pte
  fresh : s.Fresh

/-- The kept entries of a stage are the ones in memory. -/
def Coherent (stage : Stage) (s : TlbSys) : Prop := ∀ e ∈ s.kept, e.stage = stage → e.pte = entryAt s.mem e.addr

/-- The command has a GSCID, and makes the IOMMU give up the entries of a stage. -/
def settles (c : Command) (stage : Stage) : Bool := c.iotinval.gv && c.flushes 0x0ABC#64 0x0DEF#64 stage

/-- Such a command is queued. -/
def Flushing (stage : Stage) (s : TlbSys) : Prop := ∃ c ∈ s.queue, settles c stage = true

/-- The kept entries of a stage are the ones in memory, at the latest when the queue is empty. -/
def Settling (stage : Stage) (s : TlbSys) : Prop := Coherent stage s ∨ Flushing stage s

/-- The stages that were switched with no command queued since. -/
abbrev Dirty : Type := Stage → Bool

/-- Between two operations. -/
structure Idle (link : Link) (d : Dirty) (s : TlbSys) : Prop extends Base link s where
  idle : s.request = []
  settling : ∀ stage, d stage = false → Settling stage s

/-- While requests are under way. -/
structure Busy (link : Link) (s : TlbSys) : Prop extends Base link s where
  coherent : ∀ stage, Coherent stage s

/-! ## Steps of the IOMMU -/

/-- Whatever the IOMMU reads, it sees entries of the tables. -/
theorem Base.readsOk (h : Base link s) {r : Reads} (hr : s.Available r) : ReadsOk link r := by
  intro stage a
  rcases hr stage a with he | he
  · rw [he]
    exact h.mem a
  · exact (h.kept _ he).2

/-- While the kept entries of a stage are the ones in memory, a translation uses these. -/
theorem Coherent.available (h : Coherent stage s) {r : Reads} (hr : s.Available r) (a : Nat) :
    r stage a = entryAt s.mem a := by
  rcases hr stage a with he | he
  · exact he
  · exact h _ he rfl

/-- A step of the IOMMU keeps a stage coherent, as it keeps no entry but what it reads, and changes no memory. -/
theorem Coherent.step (h : Coherent stage s) (hstep : s.Step s') : Coherent stage s' := by
  cases hstep with
  | execute c cs hq => exact fun e he => h e (List.mem_filter.1 he).1
  | keep r stage' a hm hr ha =>
    intro e he hstage
    rcases List.mem_cons.1 he with rfl | he
    · obtain rfl : stage' = stage := hstage
      exact h.available hr a
    · exact h e he hstage
  | serve r iova write hm hr hreq => exact h
  | finish => exact h

/-- A step of the IOMMU keeps a stage coherent or about to become so. -/
theorem Settling.step (hb : Base link s) (h : Settling stage s) (hstep : s.Step s') : Settling stage s' := by
  rcases h with h | ⟨c, hc, hsettles⟩
  · exact Or.inl (h.step hstep)
  · have hflush := (Bool.and_eq_true_iff.1 hsettles).2
    cases hstep with
    | execute c' cs hq =>
      rw [hq] at hc
      rcases List.mem_cons.1 hc with rfl | hc
      · left
        intro e he hstage
        obtain ⟨hmem, hkeep⟩ := List.mem_filter.1 he
        obtain ⟨hg, hp⟩ := hb.tags e hmem
        rw [hg, hp, hstage, hflush] at hkeep
        cases hkeep
      · exact Or.inr ⟨c, hc, hsettles⟩
    | keep r stage' a hm hr ha => exact Or.inr ⟨c, hc, hsettles⟩
    | serve r iova write hm hr hreq => exact Or.inr ⟨c, hc, hsettles⟩
    | finish => exact Or.inr ⟨c, hc, hsettles⟩

/-- No step of the IOMMU breaks what holds at every point, when requests are under way only with the entries in memory. -/
theorem Base.step (h : TablesPlaced Config.platform link) (hb : Base link s)
    (hreq : s.request = [] ∨ ∀ stage, Coherent stage s) (hstep : s.Step s') : Base link s' := by
  cases hstep with
  | execute c cs hq =>
    exact ⟨hb.modes, hb.mem, fun e he => hb.tags e (List.mem_filter.1 he).1,
      fun e he => hb.kept e (List.mem_filter.1 he).1, hb.fresh⟩
  | keep r stage a hm hr ha =>
    obtain ⟨modes, hdc⟩ := hb.modes
    have hok := hb.readsOk hr
    refine ⟨⟨modes, hdc⟩, hb.mem, ?_, ?_, hb.fresh⟩
    · intro e he
      rcases List.mem_cons.1 he with rfl | he
      · exact ⟨by rw [hdc, dcAt_gscid h], by rw [hdc, dcAt_pscid]⟩
      · exact hb.tags e he
    · intro e he
      rcases List.mem_cons.1 he with rfl | he
      · rw [hdc] at ha
        exact ⟨reaches_inStage h hok ha, hok stage a⟩
      · exact hb.kept e he
  | serve r iova write hm hr hin =>
    refine ⟨hb.modes, hb.mem, hb.tags, hb.kept, ?_⟩
    intro u hu
    rcases List.mem_append.1 hu with hu | hu
    · exact hb.fresh u hu
    · rcases hreq with hnone | hcoh
      · rw [hnone] at hin
        cases hin
      · have hmem : r = memReads s.mem := funext fun stage => funext fun a => (hcoh stage).available hr a
        rw [List.mem_singleton.1 hu, hmem]
  | finish => exact ⟨hb.modes, hb.mem, hb.tags, hb.kept, hb.fresh⟩

/-- The IOMMU leaves the state between two operations as it is known. -/
theorem idle_stable (h : TablesPlaced Config.platform link) (d : Dirty) :
    Stable (TlbSys.world .platform link) (Idle link d) := by
  intro s s' hs hstep
  refine ⟨hs.step h (Or.inl hs.idle) hstep, ?_, fun stage hd => (hs.settling stage hd).step hs.toBase hstep⟩
  cases hstep with
  | finish => rfl
  | _ => exact hs.idle

/-- While requests are under way the IOMMU keeps every stage coherent. -/
theorem busy_stable (h : TablesPlaced Config.platform link) : Stable (TlbSys.world .platform link) (Busy link) :=
  fun _ _ hs hstep => ⟨hs.step h (Or.inr hs.coherent) hstep, fun stage => (hs.coherent stage).step hstep⟩

/-! ## Operations -/

/-- The stages that an operation leaves switched with no command queued since. -/
def Dirty.step (d : Dirty) : Op → Dirty
  | .s1ptSwitch => Function.update d .first true
  | .s2ptSwitch => Function.update d .second true
  | .issue call => fun stage => d stage && !settles (call.command ⟨0#64, 0#64⟩) stage
  | _ => d

/-- Between a switch and the next launch, a command with a GSCID is queued that makes the IOMMU give up the entries of the
stage. -/
def Flushed : List Op → Dirty → Prop
  | [], _ => True
  | o :: os, d => (o.launches = true → ∀ stage, d stage = false) ∧ Flushed os (d.step o)

/-- Which stages a command settles does not depend on the words that the driver leaves unassigned. -/
theorem settles_command (call : DriverCall) (n n' : Command) (stage : Stage) :
    settles (call.command n) stage = settles (call.command n') stage := by
  cases stage <;> simp only [settles, Command.flushes, Command.iotinval, call.dw0_command n n']

/-- The switch of a stage leaves the entries of the other one as they were. -/
theorem settling_switch (h : TablesPlaced Config.platform link) {d : Dirty} (hs : Idle link d s) {switched : Stage}
    (hd : Function.update d switched true stage = false) :
    Settling stage { s with mem := switchMem link switched s.mem } := by
  have hne : stage ≠ switched := by
    rintro rfl
    rw [Function.update_self] at hd
    cases hd
  rw [Function.update_of_ne hne] at hd
  refine (hs.settling stage hd).imp ?_ id
  intro hc e he hstage
  rw [entryAt_switch h hne s.mem (hstage ▸ (hs.kept e he).1)]
  exact hc e he hstage

/-- A switch leaves its stage dirty, and what is known of the other stage stays known. -/
theorem idle_switch (h : TablesPlaced Config.platform link) {d : Dirty} (hs : Idle link d s) (switched : Stage) :
    Idle link (Function.update d switched true) { s with mem := switchMem link switched s.mem } :=
  ⟨⟨hs.modes, memOk_switch h switched hs.mem, hs.tags, hs.kept, hs.fresh⟩, hs.idle, fun _ hd => settling_switch h hs hd⟩

/-- An operation that launches no transfer keeps the dirty stages known. -/
theorem idle_drive (h : TablesPlaced Config.platform link) {d : Dirty} (hs : Idle link d s) {o : Op} (ho : o.launches = false)
    (newCmd : Command) : Idle link (d.step o) (s.drive .platform link o newCmd) := by
  cases o with
  | setMode mode => exact ⟨⟨hs.modes, hs.mem, hs.tags, hs.kept, hs.fresh⟩, hs.idle, hs.settling⟩
  | setDc setter =>
    obtain ⟨modes, hdc⟩ := hs.modes
    exact ⟨⟨⟨_, run_did setter hdc⟩, hs.mem, hs.tags, hs.kept, hs.fresh⟩, hs.idle, hs.settling⟩
  | s1ptSwitch => exact idle_switch h hs .first
  | s2ptSwitch => exact idle_switch h hs .second
  | issue call =>
    refine ⟨⟨hs.modes, hs.mem, hs.tags, hs.kept, hs.fresh⟩, hs.idle, ?_⟩
    intro stage hd
    rcases Bool.and_eq_false_iff.1 hd with hd | hd
    · refine (hs.settling stage hd).imp id ?_
      rintro ⟨c, hc, hsettles⟩
      exact ⟨c, List.mem_append_left _ hc, hsettles⟩
    · refine Or.inr ⟨call.command newCmd, List.mem_append_right _ (List.mem_singleton.2 rfl), ?_⟩
      rw [settles_command call newCmd ⟨0#64, 0#64⟩]
      simpa using hd
  | transfer src dst => cases ho
  | debug iova => cases ho

/-- A command that makes the IOMMU give up entries is an `IOTINVAL`. -/
theorem opcode_of_flushes {c : Command} {gscid pscid : Word} (hc : c.flushes gscid pscid stage = true) :
    c.iotinval.opcode = 1#7 := by
  cases stage with
  | first =>
    simp only [Command.flushes, Bool.and_eq_true, beq_iff_eq] at hc
    exact hc.1.1.1.1.1
  | second =>
    simp only [Command.flushes, Bool.and_eq_true, beq_iff_eq] at hc
    exact hc.1.1.1.1

/-- A launch with no `IOTINVAL` queued that has a GSCID finds the entries in memory. -/
theorem coherent_of_drained {d : Dirty} (hs : Idle link d s) (hd : ∀ stage, d stage = false)
    (hq : ∀ c ∈ s.queue, c.iotinval.opcode = 1#7 → c.iotinval.gv = false) (stage : Stage) : Coherent stage s := by
  rcases hs.settling stage (hd stage) with hc | ⟨c, hc, hsettles⟩
  · exact hc
  · obtain ⟨hgv, hflush⟩ := Bool.and_eq_true_iff.1 hsettles
    rw [hq c hc (opcode_of_flushes hflush)] at hgv
    cases hgv

/-- When every launch finds no `IOTINVAL` queued that has a GSCID, every request is translated with the tables in memory. -/
theorem runOps_fresh (h : TablesPlaced Config.platform link) (os : List Op) (d : Dirty) (hos : Flushed os d) :
    Triple ((TlbSys.world .platform link).restrict TlbSys.Drained) TlbSys.Fresh (Idle link d) (runOps os) (fun _ _ => True) := by
  induction os generalizing d with
  | nil => exact Triple.ret (idle_stable h d).restrict (fun s hs => hs.fresh) (fun _ _ => trivial)
  | cons o os ih =>
    obtain ⟨hclean, hos⟩ := hos
    rw [runOps]
    by_cases ho : o.launches = true
    · rw [if_pos ho]
      have hd := hclean ho
      have hstep : d.step o = d := by
        cases o with
        | transfer src dst => rfl
        | debug iova => rfl
        | _ => cases ho
      refine Triple.act (fun accepted s => if accepted = true then Busy link s else Idle link d s)
        (idle_stable h d).restrict (fun s hs => hs.fresh) ?_ ?_
      · rintro s accepted s' hs ⟨hq, hs'⟩
        cases accepted with
        | false =>
          obtain rfl : s' = s := hs'
          exact hs
        | true =>
          obtain rfl : s' = { s with request := o.addresses } := hs'
          exact ⟨⟨hs.modes, hs.mem, hs.tags, hs.kept, hs.fresh⟩, fun stage => coherent_of_drained (s := s) hs hd hq stage⟩
      · intro accepted
        cases accepted with
        | false => exact Triple.ret (idle_stable h d).restrict (fun s hs => hs.fresh) (fun _ _ => trivial)
        | true =>
          refine Triple.poll (fun _ s => Idle link (d.step o) s) (busy_stable h).restrict (fun s hs => hs.fresh) ?_ ?_
            (fun _ => ih _ hos)
          · rintro s done s' hs ⟨_, rfl, _⟩ _
            exact hs
          · rintro s done s' hs ⟨_, rfl, hdone⟩ htest
            exact ⟨hs.toBase, hdone.1 htest, fun stage _ => Or.inl (hs.coherent stage)⟩
    · rw [if_neg ho]
      refine Triple.act (fun _ s => Idle link (d.step o) s) (idle_stable h d).restrict (fun s hs => hs.fresh) ?_
        (fun _ => ih _ hos)
      rintro s _ s' hs ⟨_, newCmd, rfl⟩
      exact idle_drive h hs (Bool.eq_false_iff.2 ho) newCmd

end IotlbAux

end RvIommuTests
