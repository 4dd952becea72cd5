import RvIommuTests.Lemmas.IotlbRuns
import RvIommuTests.Theorems.AddressMap

/-!
# The entries that a request is translated with

Nothing makes a test wait until the IOMMU has executed the commands it queued. A run in which each launch finds no `IOTINVAL` with
a GSCID in the queue (only `iotinval` queues these) translates every request with the tables in memory; in other runs a transfer
of `iotinval` may find the entry that was switched.
-/

namespace RvIommuTests

open Bytes Tables Paging Shared PageTablesAux WalksAux DdtCacheAux

namespace IotlbAux

/-! ## The operations of the tests -/

/-- No stage was switched. -/
abbrev clean : Dirty := fun _ => false

/-- The operation switches no page table. -/
def Quiet (o : Op) : Prop := o ≠ .s1ptSwitch ∧ o ≠ .s2ptSwitch

theorem clean_step {o : Op} (ho : Quiet o) : clean.step o = clean := by
  cases o with
  | s1ptSwitch => exact absurd rfl ho.1
  | s2ptSwitch => exact absurd rfl ho.2
  | _ => rfl

theorem flushed_quiet (os : List Op) {rest : List Op} (hos : ∀ o ∈ os, Quiet o) (hrest : Flushed rest clean) :
    Flushed (os ++ rest) clean := by
  induction os with
  | nil => exact hrest
  | cons o os ih =>
    refine ⟨fun _ _ => rfl, ?_⟩
    rw [clean_step (hos o List.mem_cons_self)]
    exact ih fun o' ho' => hos o' (List.mem_cons_of_mem _ ho')

/-- A switch, and a command that makes the IOMMU give up the entries of the stage. -/
theorem flushed_switch (o : Op) (call : DriverCall) (stage : Stage) {rest : List Op} (ho : o.launches = false)
    (hstep : clean.step o = Function.update clean stage true)
    (hsettles : settles (call.command ⟨0#64, 0#64⟩) stage = true) (hrest : Flushed rest clean) :
    Flushed (o :: .issue call :: rest) clean := by
  have hclean : (clean.step o).step (.issue call) = clean := by
    funext stage'
    rw [hstep]
    simp only [Dirty.step]
    by_cases hs : stage' = stage
    · rw [hs, hsettles, Bool.not_true, Bool.and_false]
    · rw [Function.update_of_ne hs, Bool.false_and]
  refine ⟨?_, fun h => (by cases h), ?_⟩
  · intro h
    rw [ho] at h
    cases h
  · rw [hclean]
    exact hrest

/-- Each test queues a command between a switch and the next launch. -/
theorem flushed_test (t : Test) {rest : List Op} (hrest : Flushed rest clean) : Flushed (t.ops ++ rest) clean := by
  cases t with
  | iotinval =>
    let first : Op := .transfer (virt .iotinvalR1) (virt .switch1)
    let second : Op := .transfer (virt .iotinvalR2) (virt .switch2)
    have hlast : Flushed (first :: second :: rest) clean := flushed_quiet [first, second] (by simp [first, second, Quiet]) hrest
    have hgvma := flushed_switch .s2ptSwitch (.inval (.iotinvalGvma false true 0 0xABC)) .second rfl rfl (by decide) hlast
    have hmid := flushed_quiet [first, second] (by simp [first, second, Quiet]) hgvma
    have hvma := flushed_switch .s1ptSwitch (.inval (.iotinvalVma false true true 0 0xABC 0xDEF)) .first rfl rfl (by decide) hmid
    exact flushed_quiet [.setMode .oneLvl, .setDc .iosatpSv39, .setDc .iohgatpSv39x4, .setDc .msiFlat, first, second]
      (by simp [first, second, Quiet]) hvma
  | latencyTest rand =>
    refine flushed_quiet _ ?_ hrest
    intro o ho
    rcases List.mem_append.1 ho with ho | ho
    · simp only [List.mem_cons, List.not_mem_nil, or_false] at ho
      rcases ho with rfl | rfl | rfl | rfl | rfl | rfl <;> exact ⟨nofun, nofun⟩
    · obtain ⟨i, -, rfl⟩ := List.mem_map.1 ho
      exact ⟨nofun, nofun⟩
  | _ => exact flushed_quiet _ (by simp [Test.ops, Quiet, ddtInvalAll]) hrest

theorem flushed_suite (ts : List Test) : Flushed (ts.flatMap Test.ops) clean := by
  induction ts with
  | nil => trivial
  | cons t ts ih => exact flushed_test t ih

/-! ## The entry of `SWITCH1` -/

variable {link : Link} {m : Mem}

/-- The switch of the first stage leaves the entries of every other table as they were built. -/
theorem AsBuilt.switched (h : TablesPlaced Config.platform link) (hm : AsBuilt link m) {t : PtTable} {i : Nat} (hi : i < t.size)
    (ht : t ≠ .s1 3) : entryAt (s1ptSwitch link m) ((t.base link).toNat + 8 * i) = made link t i := by
  have hview := view_switch h .first m hi
  rw [if_neg (show t ≠ switchedTable .first from ht)] at hview
  exact (entryAt_view h _ t i).trans (hview.trans ((entryAt_view h m t i).symm.trans (hm t i hi)))

/-- The entry of `SWITCH1` is the one of `SWITCH2` after the switch. -/
theorem AsBuilt.switch1 (h : TablesPlaced Config.platform link) (hm : AsBuilt link m) :
    entryAt (s1ptSwitch link m) (switch1Addr link) = made link (.s1 3) 28 := by
  have hlt : TestPage.switch1.index < (PtTable.s1 3).size := by decide
  have hview := view_switch h .first m hlt
  have hswitch : switch TestPage.switch1.index = 28 := Equiv.swap_apply_left _ _
  rw [if_pos (show PtTable.s1 3 = switchedTable .first from rfl), hswitch] at hview
  exact (entryAt_view h _ _ _).trans (hview.trans ((entryAt_view h m _ _).symm.trans (hm (.s1 3) 28 (by decide))))

/-- The entries in memory after the switch, but of the entry of `SWITCH1` the one before it. -/
def staleReads (link : Link) (m : Mem) : Reads := fun stage a =>
  if stage = .first ∧ a = switch1Addr link then entryAt m a else entryAt (s1ptSwitch link m) a

/-- Each of these entries is one of the built ones. -/
theorem staleReads_ok (h : TablesPlaced Config.platform link) (hm : AsBuilt link m) : ReadsOk link (staleReads link m) := by
  intro stage a
  unfold staleReads
  split
  · exact hm.memOk a
  · exact memOk_switch h .first hm.memOk a

/-- After the switch, the transfer to `SWITCH1` goes to `SWITCH2`, but with the kept entry still to `SWITCH1`. -/
theorem translate_stale (h : TablesPlaced Config.platform link) (hm : AsBuilt link m) :
    (dcAt link ⟨true, true, true⟩).translate (staleReads link m) true (virt .switch1).toNat = some (switchedPage 27) ∧
      (dcAt link ⟨true, true, true⟩).translate (memReads (s1ptSwitch link m)) true (virt .switch1).toNat =
        some (switchedPage 28) := by
  have hb0 := toNat_base h Config.platform_regular (.s1 0)
  have hb2 := toNat_base h Config.platform_regular (.s1 2)
  have hb3 : (s1Switched.base link).toNat = link.s1pt.toNat + 3 * pageSize := toNat_base h Config.platform_regular (.s1 3)
  have hother : ∀ {t : PtTable} {i : Nat}, i < t.size → t ≠ .s1 3 → (t.base link).toNat + 8 * i ≠ switch1Addr link →
      staleReads link m .first ((t.base link).toNat + 8 * i) = made link t i := fun hi ht hne =>
    (if_neg fun hh => hne hh.2).trans (hm.switched h hi ht)
  have hindex : TestPage.switch1.index = 27 := rfl
  constructor
  · refine translate_switch1 h (staleReads_ok h hm) (hother (by decide) nofun ?_) (hother (by decide) nofun ?_) (Or.inl rfl)
      ((if_pos ⟨rfl, rfl⟩).trans (hm (.s1 3) 27 (by decide))) fun t i ht hi => (if_neg nofun).trans (hm.switched h hi ?_)
    · unfold switch1Addr
      rw [hb0, hb3, hindex]
      simp only [pageSize]
      omega
    · unfold switch1Addr
      rw [hb2, hb3, hindex]
      simp only [pageSize]
      omega
    · rintro rfl
      cases ht
  · refine translate_switch1 h (fun _ => memOk_switch h .first hm.memOk) (hm.switched h (by decide) nofun)
      (hm.switched h (by decide) nofun) (Or.inr rfl) (hm.switch1 h) fun t i ht hi => hm.switched h hi ?_
    rintro rfl
    cases ht

/-- The first stage reads the entry of `SWITCH1` when the tables are as they were built. -/
theorem reaches_switch1 (h : TablesPlaced Config.platform link) (hm : AsBuilt link m) :
    (dcAt link ⟨true, true, true⟩).Reaches (memReads m) .first (switch1Addr link) := by
  have hok : ReadsOk link (memReads m) := fun _ => hm.memOk
  have hvisited := (firstStage_switch1 h hok ⟨true, true, true⟩ rfl (hm (.s1 0) 4 (by decide))
    (hm (.s1 2) 0 (by decide)) (Or.inl rfl) (hm (.s1 3) 27 (by decide)) true).2
  obtain ⟨flags, hlow⟩ := secondStage_low h hok ⟨true, true, true⟩ false
    (inStage_lt h ⟨.s1 3, TestPage.switch1.index, rfl, by decide, rfl⟩)
  exact .first true _ _ _ flags (dcAt_sv39 link _) hvisited hlow

/-- The entry of `SWITCH1` as the IOMMU may keep it. -/
def keptSwitch1 (link : Link) (m : Mem) : Kept := ⟨.first, 0x0ABC#64, 0x0DEF#64, switch1Addr link, entryAt m (switch1Addr link)⟩

/-- After the switch it is no longer the entry in memory. -/
theorem keptSwitch1_stale (h : TablesPlaced Config.platform link) (hm : AsBuilt link m) :
    (keptSwitch1 link m).pte ≠ entryAt (s1ptSwitch link m) (keptSwitch1 link m).addr := by
  have hbefore : entryAt m (switch1Addr link) = made link (.s1 3) 27 := hm (.s1 3) 27 (by decide)
  have hne : Pte.make (0x100000 + 27) (pageFlags PagePerm.stage1 27) ≠ Pte.make (0x100000 + 28) (pageFlags PagePerm.stage1 28) := by
    decide
  show entryAt m (switch1Addr link) ≠ entryAt (s1ptSwitch link m) (switch1Addr link)
  rw [hbefore, hm.switch1 h]
  exact hne

/-- Two transfers of `iotinval`, the switch of the first stage and a command. The IOMMU keeps the entry of `SWITCH1` during the
first transfer, and still has it when the command is queued. -/
theorem kept_run (h : TablesPlaced Config.platform link) {s : TlbSys} (hmode : s.mode = .oneLvl)
    (hdc : s.dc = dcAt link ⟨true, true, true⟩) (hm : AsBuilt link s.mem) (hq : s.queue = []) (call : DriverCall)
    (a₁ a₂ b₂ : Word) (os : List Op) :
    Run ((TlbSys.world .platform link).restrict TlbSys.Drained)
      (runOps (.transfer a₁ (virt .switch1) :: .transfer a₂ b₂ :: .s1ptSwitch :: .issue call :: os)) s (runOps os)
      { s with
        mem := s1ptSwitch link s.mem, queue := [call.command ⟨0#64, 0#64⟩], kept := keptSwitch1 link s.mem :: s.kept,
        request := [] } := by
  have hempty : ∀ c ∈ s.queue, c.iotinval.opcode = 1#7 → c.iotinval.gv = false := by
    intro c hc
    rw [hq] at hc
    cases hc
  have hentry : (⟨.first, s.dc.gscid, s.dc.pscid, switch1Addr link, memReads s.mem .first (switch1Addr link)⟩ : Kept) =
      keptSwitch1 link s.mem := by
    rw [hdc, dcAt_gscid h, dcAt_pscid]
    rfl
  have hreach : s.dc.Reaches (memReads s.mem) .first (switch1Addr link) := by
    rw [hdc]
    exact reaches_switch1 h hm
  have hqueue : [call.command ⟨0#64, 0#64⟩] = s.queue ++ [call.command ⟨0#64, 0#64⟩] := by rw [hq, List.nil_append]
  rw [← hentry, hqueue]
  exact .act true ⟨hempty, rfl⟩ (.env (.keep _ (memReads s.mem) .first (switch1Addr link) hmode (fun _ _ => Or.inl rfl) hreach)
    (.env (.finish _) (.hit true ⟨trivial, rfl, fun _ => rfl, fun _ => rfl⟩ rfl
    (.act true ⟨hempty, rfl⟩ (.env (.finish _) (.hit true ⟨trivial, rfl, fun _ => rfl, fun _ => rfl⟩ rfl
    (.act () ⟨trivial, ⟨0#64, 0#64⟩, rfl⟩ (.act () ⟨trivial, ⟨0#64, 0#64⟩, rfl⟩ (.refl _ _)))))))))

end IotlbAux

/-- Whatever tests run, in whatever order, wherever the linker has put the tables: in every run in which each launch finds no
`IOTINVAL` with a GSCID in the queue, every request is translated with the tables in memory, whichever entries the IOMMU keeps
until it executes the commands. -/
theorem iotlb_fresh {link : Link} (h : TablesPlaced Config.platform link) {m : Mem} (hz : TablesZeroed link m) (ddt : Ddt)
    (ts : List Test) {q : Prog TestAccess TestAccess.Answer Unit} {s : TlbSys}
    (hrun : Run ((TlbSys.world .platform link).restrict TlbSys.Drained) (suite ts) (TlbSys.init .platform link ddt m) q s) :
    s.Fresh := by
  have hdc : (TlbSys.init .platform link ddt m).dc = dcAt link .reset := init_did ddt
  have hmem : IotlbAux.MemOk link (TlbSys.init .platform link ddt m).mem := by
    simp only [TlbSys.init]
    exact IotlbAux.memOk_init h hz
  refine (IotlbAux.runOps_fresh h _ _ (IotlbAux.flushed_suite ts) _ q s ?_ hrun).1
  exact ⟨⟨⟨_, hdc⟩, hmem, nofun, nofun, nofun⟩, rfl, fun stage _ => Or.inl nofun⟩

/-- The platform when the setters of `iotinval` have been called. -/
def IotlbAux.configured (link : Link) (ddt : Ddt) (m : Mem) : TlbSys where
  mode := .oneLvl
  rootDdt := DcSetter.msiFlat.run .platform link (DcSetter.iohgatpSv39x4.run .platform link
    (DcSetter.iosatpSv39.run .platform link ddt))
  mem := m
  queue := []
  kept := []
  request := []
  log := []

/-- The platform when the `IOTINVAL.VMA` has been queued, and the IOMMU has the entry of `SWITCH1` from before the switch. -/
def IotlbAux.overtaken (link : Link) (ddt : Ddt) (m : Mem) : TlbSys :=
  { configured link ddt m with
    mem := s1ptSwitch link m, queue := [rvIommuIotinvalVma ⟨0#64, 0#64⟩ false true true 0 0xABC 0xDEF],
    kept := [keptSwitch1 link m] }

/-- A run from the start of `iotinval` to the launch that follows the switch of the first stage. -/
theorem IotlbAux.iotinval_kept {link : Link} {m : Mem} (h : TablesPlaced Config.platform link) {ddt : Ddt}
    (hdc : ddt did = dcAt link .reset) (hm : AsBuilt link m) :
    (configured link ddt m).dc = dcAt link ⟨true, true, true⟩ ∧
      Run ((TlbSys.world .platform link).restrict TlbSys.Drained) (suite [.iotinval]) ⟨.off, ddt, m, [], [], [], []⟩
        (runOps ((Test.ops .iotinval).drop 8)) (overtaken link ddt m) := by
  have hdc' : (configured link ddt m).dc = dcAt link ⟨true, true, true⟩ :=
    run_did .msiFlat (run_did .iohgatpSv39x4 (run_did .iosatpSv39 hdc))
  refine ⟨hdc', ?_⟩
  exact .act () ⟨trivial, ⟨0#64, 0#64⟩, rfl⟩ (.act () ⟨trivial, ⟨0#64, 0#64⟩, rfl⟩ (.act () ⟨trivial, ⟨0#64, 0#64⟩, rfl⟩
    (.act () ⟨trivial, ⟨0#64, 0#64⟩, rfl⟩ (kept_run h rfl hdc' hm rfl (.inval (.iotinvalVma false true true 0 0xABC 0xDEF))
      (virt .iotinvalR1) (virt .iotinvalR2) (virt .switch2) _))))

/-- From there, the IOMMU executes the `IOTINVAL.VMA`, with which it gives the kept entry up. The third transfer is launched with
nothing queued, and its request is translated with the switched entry. -/
theorem IotlbAux.drained_run {link : Link} {m : Mem} (h : TablesPlaced Config.platform link) {ddt : Ddt}
    (hdc : (configured link ddt m).dc = dcAt link ⟨true, true, true⟩) (hm : AsBuilt link m) :
    ∃ q s, Run ((TlbSys.world .platform link).restrict TlbSys.Drained) (runOps ((Test.ops .iotinval).drop 8))
        (overtaken link ddt m) q s ∧
      s.kept = [] ∧ s.log.map Prod.fst = [some (switchedPage 28)] := by
  refine ⟨_, _, .env (.execute _ _ _ rfl) (.act true ⟨nofun, rfl⟩ (.env (.serve _ (memReads (s1ptSwitch link m)) (virt .switch1)
    true rfl (fun _ _ => Or.inl rfl) (List.mem_cons_of_mem _ (List.mem_singleton.2 rfl))) (.refl _ _))), rfl, ?_⟩
  have hfresh := (translate_stale h hm).2
  rw [← hdc] at hfresh
  exact congrArg (fun x => [x]) hfresh

/-- The theorem at the compact placement and a memory of zeros, for a run in which the IOMMU keeps an entry that a switch makes
stale. It has given it up when the request for it comes. -/
theorem iotlb_fresh_at :
    ∃ q₁ s₁ q s, Run ((TlbSys.world .platform .compact).restrict TlbSys.Drained) (suite [.iotinval])
        (TlbSys.init .platform .compact (fun _ => ⟨0, 0, 0, 0, 0, 0, 0, 0⟩) fun _ => 0#8) q₁ s₁ ∧
      ¬ IotlbAux.Coherent .first s₁ ∧
      Run ((TlbSys.world .platform .compact).restrict TlbSys.Drained) q₁ s₁ q s ∧
      s.log.map Prod.fst = [some (IotlbAux.switchedPage 28)] ∧ s.Fresh := by
  have hz : TablesZeroed .compact fun _ => 0#8 := ⟨fun _ _ => rfl, fun _ _ => rfl, fun _ _ => rfl⟩
  have hbuilt := IotlbAux.asBuilt_init tablesPlaced_compact hz
  obtain ⟨hdc, hkept⟩ := IotlbAux.iotinval_kept tablesPlaced_compact (init_did fun _ => ⟨0, 0, 0, 0, 0, 0, 0, 0⟩) hbuilt
  obtain ⟨q, s, hdrained, -, hlog⟩ := IotlbAux.drained_run tablesPlaced_compact hdc hbuilt
  refine ⟨_, _, q, s, hkept, ?_, hdrained, hlog, ?_⟩
  · intro hcoherent
    exact IotlbAux.keptSwitch1_stale tablesPlaced_compact hbuilt (hcoherent _ List.mem_cons_self rfl)
  · exact iotlb_fresh tablesPlaced_compact hz _ [.iotinval] (hkept.trans hdrained)

namespace IotlbAux

/-! ## A transfer that overtakes the command -/

variable {link : Link} {m : Mem}

/-- While the `IOTINVAL.VMA` is queued, the third transfer may find the entry of `SWITCH1` that the first one left with the IOMMU. -/
theorem stale_run (h : TablesPlaced Config.platform link) {ddt : Ddt}
    (hdc : (configured link ddt m).dc = dcAt link ⟨true, true, true⟩) (hm : AsBuilt link m) :
    ∃ q s, Run (TlbSys.world .platform link) (runOps ((Test.ops .iotinval).drop 8)) (overtaken link ddt m) q s ∧ ¬ s.Fresh := by
  obtain ⟨hstale, hfresh⟩ := translate_stale h hm
  refine ⟨_, _, .act true rfl (.env (.serve _ (staleReads link m) (virt .switch1) true rfl ?_ ?_) (.refl _ _)), ?_⟩
  · intro stage a
    by_cases hstage : stage = .first ∧ a = switch1Addr link
    · obtain ⟨rfl, rfl⟩ := hstage
      have hentry : (⟨.first, (configured link ddt m).dc.gscid, (configured link ddt m).dc.pscid, switch1Addr link,
          staleReads link m .first (switch1Addr link)⟩ : Kept) = keptSwitch1 link m := by
        rw [hdc, dcAt_gscid h, dcAt_pscid, staleReads, if_pos ⟨rfl, rfl⟩]
        rfl
      exact Or.inr (List.mem_singleton.2 hentry)
    · exact Or.inl (if_neg hstage)
  · exact List.mem_cons_of_mem _ (List.mem_singleton.2 rfl)
  · intro hf
    have heq := hf (_, _) (List.mem_append_right _ (List.mem_singleton.2 rfl))
    have hne : some (switchedPage 27) ≠ some (switchedPage 28) := by decide
    apply hne
    rw [← hstale, ← hfresh, ← hdc]
    exact heq

end IotlbAux

/-- The transfer to the switched page in `iotinval` may be translated with the entry before the switch, while the `IOTINVAL.VMA` is
still queued. -/
theorem iotinval_stale :
    ∃ q s, Run (TlbSys.world .platform .compact) (suite [.iotinval])
      (TlbSys.init .platform .compact (fun _ => ⟨0, 0, 0, 0, 0, 0, 0, 0⟩) fun _ => 0#8) q s ∧ ¬ s.Fresh := by
  have hbuilt := IotlbAux.asBuilt_init tablesPlaced_compact (m := fun _ => 0#8) ⟨fun _ _ => rfl, fun _ _ => rfl, fun _ _ => rfl⟩
  unfold TlbSys.init
  obtain ⟨hdc, hkept⟩ := IotlbAux.iotinval_kept tablesPlaced_compact (init_did fun _ => ⟨0, 0, 0, 0, 0, 0, 0, 0⟩) hbuilt
  obtain ⟨q, s, hrun, hs⟩ := IotlbAux.stale_run tablesPlaced_compact hdc hbuilt
  exact ⟨q, s, hkept.unrestrict.trans hrun, hs⟩

end RvIommuTests
