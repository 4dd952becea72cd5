import RvIommuTests.Lib.Rely
import RvIommuTests.Lib.Ring
import RvIommuTests.Lemmas.Queues

/-!
# The command queue as a FIFO queue

The command queue as a ring that holds the pending commands: what each step of the IOMMU and each access of the driver does to
it, and from that the triple of a whole sequence of calls.
-/

namespace RvIommuTests

open Bytes Fields Shared QueuesAux

/-- The command queue is programmed at its placement and its ring holds `pending`, which follow the fetched commands in
`issued`. -/
structure CqInv (link : Link) (issued pending : List Command) (s : Iommu) : Prop where
  programmed : s.cqb = qbOf link.commandQueue
  holds : Ring.Holds 64 s.command s.cqh.toNat s.cqt.toNat pending
  issued : s.fetched ++ pending = issued

namespace CommandQueueAux

variable {link : Link} {issued pending : List Command} {s s' : Iommu}

theorem command_eq (hq : Placed link.commandQueue) (hs : s.cqb = qbOf link.commandQueue) (i : Nat) :
    s.command i =
      { dw0 := load s.mem 8 (link.commandQueue + BitVec.ofNat 64 (16 * i))
        dw1 := load s.mem 8 (link.commandQueue + BitVec.ofNat 64 (16 * i + 8)) } := by
  unfold Iommu.command
  rw [hs, queueBase_qbOf hq]

theorem unfetched_eq (h : CqInv link issued pending s) : s.unfetched = pending.length :=
  h.holds.length_eq.symm

/-- A fetch takes the oldest pending command. -/
theorem cqInv_fetch (h : CqInv link issued pending s) (hne : s.cqh ≠ s.cqt) :
    ∃ pending', CqInv link issued pending'
      { s with cqh := (s.cqh + 1#32) &&& indexMask s.cqb, fetched := s.fetched ++ [s.command s.cqh.toNat] } := by
  cases pending with
  | nil =>
    have := h.holds.head_eq_tail_iff.2 rfl
    exact absurd (BitVec.eq_of_toNat_eq this) hne
  | cons a rest =>
    obtain ⟨ha, hrest⟩ := h.holds.pop
    have hh : ((s.cqh + 1#32) &&& indexMask s.cqb).toNat = (s.cqh.toNat + 1) % 64 := by
      rw [h.programmed, indexMask_qbOf, toNat_next _ h.holds.head_lt]
    refine ⟨rest, h.programmed, ?_, ?_⟩
    · simp only [hh]
      exact hrest
    · simp only [ha, List.append_assoc, List.singleton_append]
      exact h.issued

/-- What goes on elsewhere leaves every entry of the command queue alone. -/
theorem cqInv_frame (hq : Placed link.commandQueue) (h : CqInv link issued pending s) (hf : CqFrame link s s') :
    CqInv link issued pending s' := by
  have hb : s'.cqb = qbOf link.commandQueue := hf.cqb.trans h.programmed
  refine ⟨hb, ?_, by rw [hf.fetched]; exact h.issued⟩
  rw [hf.cqh, hf.cqt]
  refine h.holds.frame ?_
  intro i hi _
  have hload : ∀ x, x + 8 ≤ 1024 → load s'.mem 8 (link.commandQueue + BitVec.ofNat 64 x) =
      load s.mem 8 (link.commandQueue + BitVec.ofNat 64 x) := by
    intro x hx
    refine load_congr ?_
    intro k hk
    rw [BitVec.add_assoc, ← BitVec.ofNat_add]
    exact hf.mem (x + k) (by omega)
  rw [command_eq hq hb, command_eq hq h.programmed, hload _ (by omega), hload _ (by omega)]

/-- Whatever the IOMMU and the other writers of memory do, the command queue keeps its invariant. -/
theorem stable_cqInv (hq : Placed link.commandQueue) :
    Stable (Iommu.world (CqEnv link)) (fun s => ∃ pending, CqInv link issued pending s) := by
  rintro s s' ⟨pending, h⟩ (he | he)
  · cases he with
    | on => exact ⟨pending, h.programmed, h.holds, h.issued⟩
    | off => exact ⟨pending, h.programmed, h.holds, h.issued⟩
    | fetch _ hne => exact cqInv_fetch h hne
  · exact ⟨pending, cqInv_frame hq h he⟩

/-- Only the driver moves the tail, so it stays where it is between two accesses. -/
theorem stable_cqt (c : Word32) : Stable (Iommu.world (CqEnv link)) (fun s => s.cqt = c) := by
  intro s s' h he
  rcases he with he | he
  · cases he <;> exact h
  · exact he.cqt.trans h

/-- Only the driver writes into the memory of the queue, so a doubleword there stays as it is between two accesses. -/
theorem stable_cqMem {x : Nat} (hx : x + 8 ≤ 1024) (v : Word) :
    Stable (Iommu.world (CqEnv link)) (fun s => load s.mem 8 (link.commandQueue + BitVec.ofNat 64 x) = v) := by
  intro s s' h he
  rcases he with he | he
  · cases he <;> exact h
  · rw [← h]
    refine load_congr ?_
    intro k hk
    rw [BitVec.add_assoc, ← BitVec.ofNat_add]
    exact he.mem (x + k) (by omega)

/-- A store into the entry at the tail keeps the invariant. -/
theorem cqInv_store (hq : Placed link.commandQueue) (h : CqInv link issued pending s) {x : Nat} (v : Word)
    (hx : 16 * s.cqt.toNat ≤ x) (hx' : x + 8 ≤ 16 * s.cqt.toNat + 16) :
    CqInv link issued pending { s with mem := store s.mem 8 (link.commandQueue + BitVec.ofNat 64 x) v } := by
  refine ⟨h.programmed, ?_, h.issued⟩
  refine h.holds.frame ?_
  intro i hi hne
  have hlt := h.holds.tail_lt
  have hload : ∀ y, y = 16 * i ∨ y = 16 * i + 8 →
      load (store s.mem 8 (link.commandQueue + BitVec.ofNat 64 x) v) 8 (link.commandQueue + BitVec.ofNat 64 y) =
        load s.mem 8 (link.commandQueue + BitVec.ofNat 64 y) := by
    intro y hy
    apply load_store_apart
    exact apart_offsets (by omega) (by omega) (by omega) (by decide) (by decide)
  have hb : Iommu.cqb { s with mem := store s.mem 8 (link.commandQueue + BitVec.ofNat 64 x) v } = qbOf link.commandQueue :=
    h.programmed
  rw [command_eq hq hb, command_eq hq h.programmed, hload _ (Or.inl rfl), hload _ (Or.inr rfl)]

/-- The command queue when the driver has read the tail. -/
def AtTail (link : Link) (issued : List Command) (c : Word32) (s : Iommu) : Prop :=
  (∃ pending, CqInv link issued pending s) ∧ s.cqt = c

theorem stable_atTail (hq : Placed link.commandQueue) (c : Word32) :
    Stable (Iommu.world (CqEnv link)) (AtTail link issued c) :=
  (stable_cqInv hq).and (stable_cqt c)

/-- Moving the tail over the entry just written appends the command, when the queue has room. -/
theorem cqInv_push (hq : Placed link.commandQueue) (h : CqInv link issued pending s) (hroom : s.unfetched + 1 < 64)
    {cmd : Command} (h0 : load s.mem 8 (link.commandQueue + BitVec.ofNat 64 (16 * s.cqt.toNat)) = cmd.dw0)
    (h1 : load s.mem 8 (link.commandQueue + BitVec.ofNat 64 (16 * s.cqt.toNat + 8)) = cmd.dw1) :
    CqInv link (issued ++ [cmd]) (pending ++ [cmd]) (s.writeReg32 .cqt (s.cqt + 1#32)) := by
  have ht : ((s.cqt + 1#32) &&& indexMask s.cqb).toNat = (s.cqt.toNat + 1) % 64 := by
    rw [h.programmed, indexMask_qbOf, toNat_next _ h.holds.tail_lt]
  refine ⟨h.programmed, ?_, ?_⟩
  · simp only [Iommu.writeReg32, ht]
    refine h.holds.push (by rwa [← unfetched_eq h]) ?_
    rw [command_eq hq h.programmed, h0, h1]
  · simp only [Iommu.writeReg32, ← List.append_assoc, h.issued]

/-- The driver's accesses, each tail write made while the queue has room. -/
abbrev roomyWorld (link : Link) : World Access Access.Answer Iommu := (Iommu.world (CqEnv link)).restrict Room

/-- The entry at the tail holds the first doubleword of the command. -/
def AtDw0 (link : Link) (issued : List Command) (c : Word32) (cmd : Command) (s : Iommu) : Prop :=
  AtTail link issued c s ∧ load s.mem 8 (link.commandQueue + BitVec.ofNat 64 (16 * c.toNat)) = cmd.dw0

/-- The entry at the tail holds the command. -/
def AtDw1 (link : Link) (issued : List Command) (c : Word32) (cmd : Command) (s : Iommu) : Prop :=
  AtDw0 link issued c cmd s ∧ load s.mem 8 (link.commandQueue + BitVec.ofNat 64 (16 * c.toNat + 8)) = cmd.dw1

/-- Writing one command appends it to the queue. -/
theorem writeCommand_triple (hq : Placed link.commandQueue) {P : Iommu → Prop} (cmd : Command)
    (hP : ∀ s pending, CqInv link issued pending s → P s)
    (hP' : ∀ s pending, CqInv link (issued ++ [cmd]) pending s → P s) :
    Triple (roomyWorld link) P (fun s => ∃ pending, CqInv link issued pending s) (rvIommuWriteCommandInQueue link cmd)
      (fun _ s => ∃ pending, CqInv link (issued ++ [cmd]) pending s) := by
  have hPA : ∀ c s, AtTail link issued c s → P s := fun c s h => h.1.elim (hP s)
  refine Triple.act (AtTail link issued) (stable_cqInv hq).restrict (fun s h => h.elim (hP s)) ?_ fun c => ?_
  · rintro s r s' hs ⟨_, hsem⟩
    cases hsem
    exact ⟨hs, rfl⟩
  by_cases hc : c.toNat < 64
  swap
  · rintro s q t ⟨⟨pending, h⟩, rfl⟩
    exact absurd h.holds.tail_lt hc
  have haddr : (link.commandQueue &&& ppnMask) ||| (c <<< 4).setWidth 64 =
      link.commandQueue + BitVec.ofNat 64 (16 * c.toNat) := entry_addr hq hc (by decide)
  have hst1 := @stable_cqMem link (16 * c.toNat) (by omega) cmd.dw0
  have hst2 := @stable_cqMem link (16 * c.toNat + 8) (by omega) cmd.dw1
  refine Triple.act (fun _ => AtDw0 link issued c cmd) (stable_atTail hq c).restrict (hPA c) ?_ fun _ => ?_
  · rintro s r s' ⟨⟨pending, h⟩, rfl⟩ ⟨_, hsem⟩
    cases hsem
    rw [haddr]
    exact ⟨⟨⟨pending, cqInv_store hq h _ (by omega) (by omega)⟩, rfl⟩, load_store_same _ (by decide) _ _⟩
  refine Triple.act (fun _ => AtDw1 link issued c cmd) ((stable_atTail hq c).and hst1).restrict (fun s h => hPA c s h.1)
    ?_ fun _ => ?_
  · rintro s r s' ⟨⟨⟨pending, h⟩, rfl⟩, h0⟩ ⟨_, hsem⟩
    cases hsem
    rw [haddr, BitVec.add_assoc, show (8#64 : Word) = BitVec.ofNat 64 8 from rfl, ← BitVec.ofNat_add]
    refine ⟨⟨⟨⟨pending, cqInv_store hq h _ (by omega) (by omega)⟩, rfl⟩, ?_⟩, load_store_same _ (by decide) _ _⟩
    rw [← h0]
    exact load_store_apart _ _ (apart_offsets (by omega) (by omega) (by omega) (by decide) (by decide))
  refine Triple.act (fun _ s => ∃ pending, CqInv link (issued ++ [cmd]) pending s)
    (((stable_atTail hq c).and hst1).and hst2).restrict (fun s h => hPA c s h.1.1) ?_ fun _ => ?_
  · rintro s r s' ⟨⟨⟨⟨pending, h⟩, rfl⟩, h0⟩, h1⟩ ⟨hroom, hsem⟩
    cases hsem
    exact ⟨pending ++ [cmd], cqInv_push hq h hroom h0 h1⟩
  exact Triple.ret (stable_cqInv hq).restrict (fun s h => h.elim (hP' s)) fun s h => h

/-- Issuing the commands of a sequence of calls appends them in the order of the calls, and at every point a prefix of them. -/
theorem issueAll_triple (hq : Placed link.commandQueue) {P : Iommu → Prop} (calls : List (Command × DriverCall))
    (hP : ∀ n s pending, CqInv link (issued ++ (commandsOf calls).take n) pending s → P s) :
    Triple (roomyWorld link) P (fun s => ∃ pending, CqInv link issued pending s) (issueAll link calls)
      (fun _ s => ∃ pending, CqInv link (issued ++ commandsOf calls) pending s) := by
  induction calls generalizing issued with
  | nil =>
    have hnil : issued ++ commandsOf [] = issued := List.append_nil issued
    simp only [hnil]
    refine Triple.ret (stable_cqInv hq).restrict ?_ fun s h => h
    rintro s ⟨pending, h⟩
    refine hP 0 s pending ?_
    rwa [List.take_zero, List.append_nil]
  | cons call calls ih =>
    obtain ⟨newCmd, c⟩ := call
    have hcons : commandsOf ((newCmd, c) :: calls) = c.command newCmd :: commandsOf calls := rfl
    have hsplit : issued ++ commandsOf ((newCmd, c) :: calls) = (issued ++ [c.command newCmd]) ++ commandsOf calls := by
      rw [hcons, List.append_assoc, List.singleton_append]
    rw [hsplit]
    refine Triple.bind (fun _ s => ∃ pending, CqInv link (issued ++ [c.command newCmd]) pending s) ?_ ?_
    · refine writeCommand_triple hq _ (fun s pending h => hP 0 s pending ?_) (fun s pending h => hP 1 s pending ?_)
      · rwa [List.take_zero, List.append_nil]
      · rwa [hcons, List.take_succ_cons, List.take_zero]
    · intro _
      refine ih fun n s pending h => hP (n + 1) s pending ?_
      rwa [hcons, List.take_succ_cons, ← List.singleton_append, ← List.append_assoc]

/-! ## Runs in which the IOMMU does nothing -/

/-- A call that the IOMMU does not interrupt moves the tail by one, and fetches nothing. -/
theorem run_writeCommand (env : Iommu → Iommu → Prop) (hs : s.cqb = qbOf link.commandQueue) (cmd : Command) :
    ∃ t, Run (Iommu.world env) (rvIommuWriteCommandInQueue link cmd) s (.ret ()) t ∧ t.cqb = s.cqb ∧ t.cqh = s.cqh ∧
      t.fetched = s.fetched ∧ t.cqt.toNat = (s.cqt.toNat + 1) % 64 := by
  refine ⟨_, Run.act _ rfl (Run.act _ rfl (Run.act _ rfl (Run.act _ rfl (Run.refl _ _)))), rfl, rfl, rfl, ?_⟩
  show ((s.cqt + 1#32) &&& indexMask s.cqb).toNat = _
  rw [hs, indexMask_qbOf, toNat_and_63, BitVec.toNat_add, show (1#32).toNat = 1 from rfl]
  omega

/-- A sequence of calls that the IOMMU does not interrupt moves the tail by its length, and fetches nothing. -/
theorem run_issueAll (env : Iommu → Iommu → Prop) (calls : List (Command × DriverCall))
    (hs : s.cqb = qbOf link.commandQueue) (hlt : s.cqt.toNat < 64) :
    ∃ t, Run (Iommu.world env) (issueAll link calls) s (.ret ()) t ∧ t.cqh = s.cqh ∧ t.fetched = s.fetched ∧
      t.cqt.toNat = (s.cqt.toNat + calls.length) % 64 := by
  induction calls generalizing s with
  | nil => exact ⟨s, Run.refl _ _, rfl, rfl, (Nat.mod_eq_of_lt hlt).symm⟩
  | cons call calls ih =>
    obtain ⟨t₁, hr₁, hb₁, hh₁, hf₁, ht₁⟩ := run_writeCommand env hs (call.2.command call.1)
    obtain ⟨t, hr, hh, hf, ht⟩ := ih (hb₁.trans hs) (by omega)
    refine ⟨t, (hr₁.bind _).trans hr, hh.trans hh₁, hf.trans hf₁, ?_⟩
    rw [ht, ht₁, List.length_cons]
    omega

end CommandQueueAux

end RvIommuTests
