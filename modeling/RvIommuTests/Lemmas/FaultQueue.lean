import RvIommuTests.Lib.Rely
import RvIommuTests.Lib.Ring
import RvIommuTests.Lemmas.Queues

/-!
# The fault queue as a FIFO queue

The fault queue as a ring that holds the pending records: what each step of the IOMMU and each access of the driver does to it,
and from that the triple of a call of `rv_iommu_fq_read_record` and of a sequence of calls.
-/

namespace RvIommuTests

open Bytes Fields Shared QueuesAux

/-- The fault queue is programmed at its placement and its ring holds `pending`. With the records the driver `got` before them
and the one that is being written after them, these are the accepted records. The entry at the tail holds what the IOMMU has
written of its record. -/
structure FqInv (link : Link) (got pending : List Record) (s : Iommu) : Prop where
  programmed : s.fqb = qbOf link.faultQueue
  holds : Ring.Holds 64 s.record s.fqh.toNat s.fqt.toNat pending
  accepted : got ++ pending ++ s.inFlight = s.accepted
  room : ∀ r k, s.recording = some (r, k) → k ≤ 4 ∧ pending.length + 1 < 64
  written : ∀ r k, s.recording = some (r, k) → ∀ j < k, load s.mem 8 (s.recordAddr s.fqt.toNat j) = r.dw j

namespace FaultQueueAux

variable {link : Link} {got pending : List Record} {s s' : Iommu}

/-- Where the doublewords of a record are, in the queue of the driver. -/
theorem recordAddr_eq (hq : Placed link.faultQueue) (hs : s.fqb = qbOf link.faultQueue) (i k : Nat) :
    s.recordAddr i k = link.faultQueue + BitVec.ofNat 64 (32 * i + 8 * k) := by
  unfold Iommu.recordAddr
  rw [hs, queueBase_qbOf hq]

/-- A record in the queue is the one given when each of its four doublewords is. -/
theorem record_eq_iff (s : Iommu) (i : Nat) (r : Record) :
    s.record i = r ↔ ∀ k < 4, load s.mem 8 (s.recordAddr i k) = r.dw k := by
  constructor
  · rintro rfl k hk
    match k, hk with
    | 0, _ => rfl
    | 1, _ => rfl
    | 2, _ => rfl
    | 3, _ => rfl
  · intro h
    unfold Iommu.record
    rw [h 0 (by decide), h 1 (by decide), h 2 (by decide), h 3 (by decide)]
    rfl

/-- A store to one doubleword of the queue is not seen at another. -/
theorem load_store_record (link : Link) (m : Mem) (v : Word) {i k i' k' : Nat} (hi : i < 64) (hk : k < 4)
    (hi' : i' < 64) (hk' : k' < 4) (hne : i ≠ i' ∨ k ≠ k') :
    load (store m 8 (link.faultQueue + BitVec.ofNat 64 (32 * i + 8 * k)) v) 8
        (link.faultQueue + BitVec.ofNat 64 (32 * i' + 8 * k')) =
      load m 8 (link.faultQueue + BitVec.ofNat 64 (32 * i' + 8 * k')) := by
  apply load_store_apart
  exact apart_offsets (by omega) (by omega) (by omega) (by decide) (by decide)

/-- The queue has no room exactly when its ring is full. -/
theorem full_iff (h : FqInv link got pending s) : s.Full ↔ pending.length + 1 = 64 := by
  unfold Iommu.Full
  rw [h.programmed, indexMask_qbOf, ← h.holds.next_tail_eq_head_iff, ← toNat_next _ h.holds.tail_lt,
    BitVec.toNat_inj]

/-! ## Steps of the IOMMU -/

/-- The invariant is kept when the IOMMU writes the next doubleword of a record, which no pending record has a part in. -/
theorem fqInv_write (hq : Placed link.faultQueue) (h : FqInv link got pending s) {r : Record} {k : Nat}
    (hr : s.recording = some (r, k)) (hk : k < 4) :
    FqInv link got pending
      { s with mem := store s.mem 8 (s.recordAddr s.fqt.toNat k) (r.dw k), recording := some (r, k + 1) } := by
  have ht := h.holds.tail_lt
  have haddr := recordAddr_eq hq h.programmed
  refine ⟨h.programmed, ?_, ?_, ?_, ?_⟩
  · refine h.holds.frame ?_
    intro i hi hne
    rw [record_eq_iff]
    intro j hj
    have : load s.mem 8 (s.recordAddr i j) = (s.record i).dw j := (record_eq_iff s i _).1 rfl j hj
    rw [← this]
    show load (store s.mem 8 (s.recordAddr s.fqt.toNat k) (r.dw k)) 8 (s.recordAddr i j) = _
    rw [haddr, haddr]
    exact load_store_record link _ _ ht hk hi hj (Or.inl (Ne.symm hne))
  · have := h.accepted
    simp only [Iommu.inFlight, hr] at this
    exact this
  · intro r' k' hr'
    cases hr'
    exact ⟨hk, (h.room r k hr).2⟩
  · intro r' k' hr' j hj
    cases hr'
    show load (store s.mem 8 (s.recordAddr s.fqt.toNat k) (r.dw k)) 8 (s.recordAddr s.fqt.toNat j) = _
    by_cases hjk : j = k
    · subst hjk
      exact load_store_same _ (by decide) _ _
    · rw [← h.written r k hr j (by omega), haddr, haddr]
      exact load_store_record link _ _ ht hk ht (by omega) (Or.inr (Ne.symm hjk))

/-- The invariant is kept when the IOMMU moves the tail over a complete record, which is the last pending one then. -/
theorem fqInv_publish (h : FqInv link got pending s) {r : Record} (hr : s.recording = some (r, 4)) :
    FqInv link got (pending ++ [r]) { s with fqt := (s.fqt + 1#32) &&& indexMask s.fqb, recording := none } := by
  have ht : ((s.fqt + 1#32) &&& indexMask s.fqb).toNat = (s.fqt.toNat + 1) % 64 := by
    rw [h.programmed, indexMask_qbOf, toNat_next _ h.holds.tail_lt]
  refine ⟨h.programmed, ?_, ?_, (fun _ _ hn => nomatch hn), (fun _ _ hn => nomatch hn)⟩
  · simp only [ht]
    exact h.holds.push (h.room r 4 hr).2 ((record_eq_iff s _ r).2 (h.written r 4 hr))
  · have := h.accepted
    simp only [Iommu.inFlight, hr] at this
    rw [← this]
    simp [Iommu.inFlight]

/-- The invariant is kept when the IOMMU accepts a record while the queue is not full. -/
theorem fqInv_accept (h : FqInv link got pending s) (r : Record) (hn : s.recording = none) (hfull : ¬ s.Full) :
    FqInv link got pending { s with accepted := s.accepted ++ [r], recording := some (r, 0) } := by
  have hlen := h.holds.length_lt
  rw [full_iff h] at hfull
  refine ⟨h.programmed, h.holds, ?_, ?_, ?_⟩
  · rw [← h.accepted]
    simp [Iommu.inFlight, hn]
  · intro r' k' hr'
    cases hr'
    exact ⟨by decide, by omega⟩
  · intro r' k' hr' j hj
    cases hr'
    exact absurd hj (Nat.not_lt_zero j)

/-- What goes on elsewhere leaves every entry of the fault queue alone. -/
theorem fqInv_frame (hq : Placed link.faultQueue) (h : FqInv link got pending s) (hf : FqFrame link s s') :
    FqInv link got pending s' := by
  have hb : s'.fqb = qbOf link.faultQueue := hf.fqb.trans h.programmed
  have hload : ∀ i < 64, ∀ k < 4, load s'.mem 8 (s'.recordAddr i k) = load s.mem 8 (s.recordAddr i k) := by
    intro i hi k hk
    rw [recordAddr_eq hq hb, recordAddr_eq hq h.programmed]
    refine load_congr ?_
    intro j hj
    rw [BitVec.add_assoc, ← BitVec.ofNat_add]
    exact hf.mem _ (by omega)
  refine ⟨hb, ?_, ?_, ?_, ?_⟩
  · rw [hf.fqh, hf.fqt]
    refine h.holds.frame ?_
    intro i hi _
    rw [record_eq_iff]
    intro k hk
    rw [hload i hi k hk]
    exact (record_eq_iff s i _).1 rfl k hk
  · unfold Iommu.inFlight
    rw [hf.recording, hf.accepted]
    exact h.accepted
  · rw [hf.recording]
    exact h.room
  · rw [hf.recording, hf.fqt]
    intro r k hr j hj
    have hk := (h.room r k hr).1
    rw [hload _ h.holds.tail_lt j (by omega)]
    exact h.written r k hr j hj

/-- A step of the environment only appends to the pending records. -/
theorem fqInv_env (hq : Placed link.faultQueue) (h : FqInv link got pending s) (he : FqEnv link s s') :
    ∃ new, FqInv link got (pending ++ new) s' := by
  have hnil : FqInv link got pending s' → ∃ new, FqInv link got (pending ++ new) s' := fun h' =>
    ⟨[], by rwa [List.append_nil]⟩
  rcases he with he | he
  · cases he with
    | on => exact hnil ⟨h.programmed, h.holds, h.accepted, h.room, h.written⟩
    | off => exact hnil ⟨h.programmed, h.holds, h.accepted, h.room, h.written⟩
    | accept r _ hn hfull => exact hnil (fqInv_accept h r hn hfull)
    | discard => exact hnil ⟨h.programmed, h.holds, h.accepted, h.room, h.written⟩
    | write r k hr hk => exact hnil (fqInv_write hq h hr hk)
    | publish r hr => exact ⟨[r], fqInv_publish h hr⟩
  · exact hnil (fqInv_frame hq h he)

/-- A step of the environment does not move the head, which is the register of the driver. -/
theorem fqh_env (he : FqEnv link s s') : s'.fqh = s.fqh := by
  rcases he with he | he
  · cases he <;> rfl
  · exact he.fqh

/-! ## Accesses of the driver -/

/-- The queue's assertion: its ring is consistent after the driver has got `got`. -/
def FqAt (link : Link) (got : List Record) (s : Iommu) : Prop := ∃ pending, FqInv link got pending s

/-- The oldest pending record is `a`, at head `h`. -/
def FqHead (link : Link) (got : List Record) (h : Word32) (a : Record) (s : Iommu) : Prop :=
  (∃ rest, FqInv link got (a :: rest) s) ∧ s.fqh = h

/-- The IOMMU keeps the invariant of the fault queue between two calls. -/
theorem stable_fqAt (hq : Placed link.faultQueue) : Stable (Iommu.world (FqEnv link)) (FqAt link got) := by
  rintro s s' ⟨pending, h⟩ he
  obtain ⟨new, h'⟩ := fqInv_env hq h he
  exact ⟨pending ++ new, h'⟩

/-- Nobody but the driver writes `fqh`, so it keeps its value between two accesses. -/
theorem stable_fqh (c : Word32) : Stable (Iommu.world (FqEnv link)) (fun s => s.fqh = c) :=
  fun _ _ h he => (fqh_env he).trans h

/-- The record at the head stays there while the driver reads it. -/
theorem stable_fqHead (hq : Placed link.faultQueue) (c : Word32) (a : Record) :
    Stable (Iommu.world (FqEnv link)) (FqHead link got c a) := by
  rintro s s' ⟨⟨rest, h⟩, hc⟩ he
  obtain ⟨new, h'⟩ := fqInv_env hq h he
  exact ⟨⟨rest ++ new, h'⟩, (fqh_env he).trans hc⟩

/-- Pending records stay pending while the driver does not move the head. -/
theorem fqInv_drift (hq : Placed link.faultQueue) (h : FqInv link got pending s)
    (hd : (Iommu.world (FqEnv link)).Drift s s') : ∃ new, FqInv link got (pending ++ new) s' := by
  have hst : Stable (Iommu.world (FqEnv link)) (fun s => ∃ new, FqInv link got (pending ++ new) s) := by
    rintro s s' ⟨new, h⟩ he
    obtain ⟨new', h'⟩ := fqInv_env hq h he
    exact ⟨new ++ new', by rwa [← List.append_assoc]⟩
  exact hst.drift ⟨[], by rwa [List.append_nil]⟩ hd

/-- The driver's move of the head takes the oldest pending record. -/
theorem fqInv_pop {a : Record} {rest : List Record} (h : FqInv link got (a :: rest) s) :
    FqInv link (got ++ [a]) rest (s.writeReg32 .fqh (s.fqh + 1#32)) := by
  have hh : ((s.fqh + 1#32) &&& indexMask s.fqb).toNat = (s.fqh.toNat + 1) % 64 := by
    rw [h.programmed, indexMask_qbOf, toNat_next _ h.holds.head_lt]
  refine ⟨h.programmed, ?_, ?_, ?_, h.written⟩
  · simp only [Iommu.writeReg32, hh]
    exact h.holds.pop.2
  · rw [List.append_assoc got, List.singleton_append]
    exact h.accepted
  · intro r k hr
    obtain ⟨h1, h2⟩ := h.room r k hr
    rw [List.length_cons] at h2
    exact ⟨h1, by omega⟩

/-- The driver reads the doublewords of the oldest pending record. -/
theorem load_fqHead (hq : Placed link.faultQueue) {c : Word32} {a : Record} (h : FqHead link got c a s) {k : Nat}
    (hk : k < 4) :
    load s.mem 8 (((link.faultQueue &&& ppnMask) ||| (c <<< 5).setWidth 64) + BitVec.ofNat 64 (8 * k)) = a.dw k := by
  obtain ⟨⟨rest, hinv⟩, rfl⟩ := h
  rw [entry_addr hq hinv.holds.head_lt (by decide), BitVec.add_assoc, ← BitVec.ofNat_add, show 2 ^ 5 = 32 from rfl,
    ← recordAddr_eq hq hinv.programmed]
  exact (record_eq_iff s _ a).1 hinv.holds.pop.1 k hk

/-- One read of a doubleword of the oldest pending record. -/
theorem read_triple (hq : Placed link.faultQueue) {P : Iommu → Prop} (hP : ∀ s, FqAt link got s → P s) {c : Word32}
    {a : Record} {k : Nat} (hk : k < 4) {f : Word → Driver (Int × Record)} {Q : Int × Record → Iommu → Prop}
    (hf : Triple (Iommu.world (FqEnv link)) P (FqHead link got c a) (f (a.dw k)) Q) :
    Triple (Iommu.world (FqEnv link)) P (FqHead link got c a)
      (.act (.read64 (((link.faultQueue &&& ppnMask) ||| (c <<< 5).setWidth 64) + BitVec.ofNat 64 (8 * k))) f) Q := by
  refine Triple.act (fun (v : Word) s => v = a.dw k ∧ FqHead link got c a s) (stable_fqHead hq c a) ?_ ?_ ?_
  · rintro s ⟨⟨rest, h⟩, -⟩
    exact hP s ⟨_, h⟩
  · intro s r s' hs hsem
    cases hsem
    exact ⟨load_fqHead hq hs hk, hs⟩
  · intro v
    rintro s q t ⟨rfl, hs⟩ hr
    exact hf s q t hs hr

/-- The queue was empty when the call read the head, at `s₁`, and when it read the tail, at `s₂`, and nothing but the environment
has moved since the call began at `s₀`. -/
def SawEmpty (link : Link) (s₀ t : Iommu) : Prop :=
  ∃ s₁ s₂, (Iommu.world (FqEnv link)).Drift s₀ s₁ ∧ (Iommu.world (FqEnv link)).Drift s₁ s₂ ∧
    (Iommu.world (FqEnv link)).Drift s₂ t ∧ s₁.fqh = s₁.fqt ∧ s₂.fqh = s₂.fqt

/-- The head as the call read it. -/
def ReadHead (link : Link) (got : List Record) (s₀ : Iommu) (c : Word32) (s : Iommu) : Prop :=
  (FqAt link got s ∧ s.fqh = c) ∧
    ∃ s₁, (Iommu.world (FqEnv link)).Drift s₀ s₁ ∧ FqAt link got s₁ ∧ (Iommu.world (FqEnv link)).Drift s₁ s

/-- The head as the call has read it stays so. -/
theorem stable_readHead (hq : Placed link.faultQueue) (s₀ : Iommu) (c : Word32) :
    Stable (Iommu.world (FqEnv link)) (ReadHead link got s₀ c) := by
  refine ((stable_fqAt hq).and (stable_fqh c)).and ?_
  rintro s s' ⟨s₁, h1, h2, h3⟩ he
  exact ⟨s₁, h1, h2, h3.tail he⟩

/-- What the call knows of the queue once it has read both indices. -/
theorem readHead_tail (hq : Placed link.faultQueue) {s₀ : Iommu} {c : Word32} (h : ReadHead link got s₀ c s) :
    (c = s.fqt → FqAt link got s ∧ SawEmpty link s₀ s) ∧ (c ≠ s.fqt → ∃ a, FqHead link got c a s) := by
  obtain ⟨⟨⟨pending, hinv⟩, rfl⟩, s₁, hd₁, ⟨pending₁, hinv₁⟩, hd₂⟩ := h
  constructor
  · intro he
    have hnil := hinv.holds.head_eq_tail_iff.1 (congrArg BitVec.toNat he)
    -- what was pending at the first read is still pending
    obtain ⟨new, hinv'⟩ := fqInv_drift hq hinv₁ hd₂
    have hnil' := hinv'.holds.head_eq_tail_iff.1 (congrArg BitVec.toNat he)
    have hnil₁ := (List.append_eq_nil_iff.1 hnil').1
    have he₁ := hinv₁.holds.head_eq_tail_iff.2 hnil₁
    exact ⟨⟨pending, hinv⟩, s₁, s, hd₁, hd₂, .refl, BitVec.eq_of_toNat_eq he₁, he⟩
  · intro hne
    cases pending with
    | nil => exact absurd (BitVec.eq_of_toNat_eq (hinv.holds.head_eq_tail_iff.2 rfl)) hne
    | cons a rest => exact ⟨a, ⟨rest, hinv⟩, rfl⟩

/-- A call that has found the record `a` pending returns it. -/
theorem readEntry_triple (hq : Placed link.faultQueue) {P : Iommu → Prop} (hP : ∀ got s, FqAt link got s → P s)
    (c : Word32) (a : Record) :
    Triple (Iommu.world (FqEnv link)) P (FqHead link got c a)
      (do
        let fqEntryBase := (link.faultQueue &&& ppnMask) ||| (c <<< 5).setWidth 64
        let dw0 ← read64 (fqEntryBase + 0#64)
        let dw1 ← read64 (fqEntryBase + 8#64)
        let dw2 ← read64 (fqEntryBase + 16#64)
        let dw3 ← read64 (fqEntryBase + 24#64)
        write32 .fqh (c + 1#32)
        pure ((0 : Int), { dw0 := dw0, dw1 := dw1, dw2 := dw2, dw3 := dw3 }))
      (fun r s => FqAt link (got ++ [a]) s ∧ r = (0, a)) := by
  refine @read_triple link got hq P (hP got) c a 0 (by decide) _ _ ?_
  refine @read_triple link got hq P (hP got) c a 1 (by decide) _ _ ?_
  refine @read_triple link got hq P (hP got) c a 2 (by decide) _ _ ?_
  refine @read_triple link got hq P (hP got) c a 3 (by decide) _ _ ?_
  refine Triple.act (fun _ => FqAt link (got ++ [a])) (stable_fqHead hq c a) ?_ ?_ ?_
  · rintro s ⟨⟨rest, h⟩, -⟩
    exact hP got s ⟨_, h⟩
  · rintro s r s' ⟨⟨rest, h⟩, rfl⟩ hsem
    cases hsem
    exact ⟨rest, fqInv_pop h⟩
  · intro _
    exact Triple.ret (stable_fqAt hq) (hP (got ++ [a])) fun s h => ⟨h, rfl⟩

/-- A call returns the oldest pending record, or leaves its buffer alone after it has seen the queue empty. -/
theorem readRecord_triple (hq : Placed link.faultQueue) {P : Iommu → Prop} (hP : ∀ got s, FqAt link got s → P s)
    (s₀ : Iommu) (buf : Record) :
    Triple (Iommu.world (FqEnv link)) P (fun s => FqAt link got s ∧ (Iommu.world (FqEnv link)).Drift s₀ s)
      (rvIommuFqReadRecord link buf)
      (fun r s => FqAt link (got ++ returned [r]) s ∧ (r.1 = 0 ∨ r = (-1, buf) ∧ SawEmpty link s₀ s)) := by
  refine Triple.act (ReadHead link got s₀) ((stable_fqAt hq).and (stable_drift s₀)) (fun s h => hP got s h.1) ?_ fun c => ?_
  · rintro s r s' ⟨hs, hd⟩ hsem
    cases hsem
    exact ⟨⟨hs, rfl⟩, s, hd, hs, .refl⟩
  refine Triple.act (fun (tail : Word32) s => (c = tail → FqAt link got s ∧ SawEmpty link s₀ s) ∧
    (c ≠ tail → ∃ a, FqHead link got c a s)) (stable_readHead hq s₀ c) (fun s h => hP got s h.1.1) ?_ fun tail => ?_
  · intro s r s' hs hsem
    cases hsem
    exact readHead_tail hq hs
  by_cases hc : c = tail
  · have hempty : Stable (Iommu.world (FqEnv link)) (fun s => FqAt link got s ∧ SawEmpty link s₀ s) := by
      refine (stable_fqAt hq).and ?_
      rintro s s' ⟨s₁, s₂, h1, h2, h3, h4⟩ he
      exact ⟨s₁, s₂, h1, h2, h3.tail he, h4⟩
    refine Triple.conseq ?_ (fun s h => h.1 hc) fun r s h => h
    show Triple _ _ _ (if c ≠ tail then _ else _) _
    rw [if_neg (not_not_intro hc)]
    refine Triple.ret hempty (fun s h => hP got s h.1) fun s h => ⟨?_, Or.inr ⟨rfl, h.2⟩⟩
    rw [show returned [((-1 : Int), buf)] = [] from rfl, List.append_nil]
    exact h.1
  · refine Triple.conseq (Triple.exists ?_) (fun s h => h.2 hc) fun r s h => h
    intro a
    show Triple _ _ _ (if c ≠ tail then _ else _) _
    rw [if_pos hc]
    refine (readEntry_triple hq hP c a).conseq (fun s h => h) ?_
    rintro r s ⟨h, rfl⟩
    exact ⟨h, Or.inl rfl⟩

/-- Along a sequence of calls the records returned follow those got before, in the order of the queue. -/
theorem readAll_triple (hq : Placed link.faultQueue) {P : Iommu → Prop} (hP : ∀ got s, FqAt link got s → P s)
    (bufs : List Record) :
    Triple (Iommu.world (FqEnv link)) P (FqAt link got) (readAll link bufs)
      (fun rs s => FqAt link (got ++ returned rs) s) := by
  induction bufs generalizing got with
  | nil =>
    refine Triple.ret (stable_fqAt hq) (hP got) ?_
    intro s h
    rw [show returned [] = [] from rfl, List.append_nil]
    exact h
  | cons buf bufs ih =>
    refine Triple.bind (fun r => FqAt link (got ++ returned [r])) ?_ ?_
    · intro s q t hs hr
      obtain ⟨h1, h2⟩ := readRecord_triple hq hP s buf s q t ⟨hs, .refl⟩ hr
      exact ⟨h1, fun r hret => (h2 r hret).1⟩
    · intro r
      refine Triple.bind (fun rs => FqAt link (got ++ returned [r] ++ returned rs)) ih ?_
      intro rs
      refine Triple.ret (stable_fqAt hq) (hP _) ?_
      intro s h
      rw [show r :: rs = [r] ++ rs from rfl, returned, List.filter_append, List.map_append, ← List.append_assoc]
      exact h

end FaultQueueAux

end RvIommuTests
