import RvIommuTests.DebugInterface

/-!
# The setters of the debug interface and the record

Each setter of a flag writes its bit. The setter of the device id only sets bits: what it leaves is the OR of all ids that were
given, with the one that was in the register.
-/

namespace RvIommuTests

open Fields

namespace DebugAux

/-- What a call does to the record: the device id is joined to the one before. -/
def join (r : DbgReq) : DbgCall → DbgReq
  | .setDid deviceId => { r with did := r.did ||| deviceId }
  | c => r.set c

/-- A bit written to the register, for each field. -/
theorem dbgReq_writeBit (ctl : Word) {k : Nat} (hk : k < 40) (hothers : dbgOthersMask.getLsbD k = false) (b : Bool) :
    dbgReq (writeBit ctl k b) =
      { dbgReq ctl with
        pv := if 32 = k then b else ctl.getLsbD 32
        priv := if 1 = k then b else ctl.getLsbD 1
        exe := if 2 = k then b else ctl.getLsbD 2
        nw := if 3 = k then b else ctl.getLsbD 3 } := by
  have hk' : k < 64 := by omega
  unfold dbgReq
  rw [extract_writeBit hk' (Or.inl hk), and_writeBit hk' hothers, getLsbD_writeBit hk', getLsbD_writeBit hk',
    getLsbD_writeBit hk', getLsbD_writeBit hk']

/-- The device id is written by OR, and reaches no other field. -/
theorem dbgReq_setDid (ctl : Word) {deviceId : Word} (h : Fits deviceId 24) :
    dbgReq (rvIommuDbgSetDid deviceId ctl) = { dbgReq ctl with did := (dbgReq ctl).did ||| deviceId } := by
  have hmask : ∀ i, i < 40 → trReqCtlDidMask.getLsbD i = false := by decide
  have hfield : trReqCtlDidMask.extractLsb' 40 24 = BitVec.allOnes 24 := by decide
  have hothers : trReqCtlDidMask &&& dbgOthersMask = 0#64 := by decide
  have hbit : ∀ i, i < 40 → (rvIommuDbgSetDid deviceId ctl).getLsbD i = ctl.getLsbD i := by
    intro i hi
    unfold rvIommuDbgSetDid
    rw [BitVec.getLsbD_or, BitVec.getLsbD_and, hmask i hi, Bool.and_false, Bool.or_false]
  unfold dbgReq
  rw [hbit 32 (by decide), hbit 1 (by decide), hbit 2 (by decide), hbit 3 (by decide)]
  unfold rvIommuDbgSetDid
  rw [BitVec.extractLsb'_or, BitVec.extractLsb'_and, hfield, BitVec.and_allOnes, trReqCtlDidOffset,
    extract_shiftLeft_self (by decide), BitVec.setWidth_or, h.setWidth_setWidth, BitVec.and_or_distrib_right, BitVec.and_assoc,
    hothers, BitVec.and_zero, BitVec.or_zero]

/-- One call of a setter does to the request what it is meant to, whatever the register held, but that `set_did` ORs the id in. -/
theorem dbgReq_run (ctl : Word) (c : DbgCall) (hc : ∀ d, c = .setDid d → Fits d 24) :
    dbgReq (c.run ctl) = join (dbgReq ctl) c := by
  cases c with
  | setDid d => exact dbgReq_setDid ctl (hc d rfl)
  | setPv pv => exact dbgReq_writeBit ctl (k := 32) (by decide) (by decide) pv
  | setPriv priv => exact dbgReq_writeBit ctl (k := 1) (by decide) (by decide) priv
  | setRw rw =>
    have hrw : rvIommuDbgSetRw rw ctl = writeBit ctl 3 !rw := by
      cases rw <;> rfl
    exact (congrArg dbgReq hrw).trans (dbgReq_writeBit ctl (by decide) (by decide) !rw)
  | setExe exe => exact dbgReq_writeBit ctl (k := 2) (by decide) (by decide) exe

/-- Calls of the setters in any order do to the request what they do one by one, by induction over them. -/
theorem dbgReq_runAll (cs : List DbgCall) (ctl : Word) (hcs : ∀ d, .setDid d ∈ cs → Fits d 24) :
    dbgReq (DbgCall.runAll cs ctl) = cs.foldl join (dbgReq ctl) := by
  induction cs generalizing ctl with
  | nil => rfl
  | cons c cs ih =>
    have hrest := ih (c.run ctl) fun d hd => hcs d (List.mem_cons_of_mem c hd)
    rw [dbgReq_run ctl c fun d hd => hcs d (hd ▸ List.mem_cons_self)] at hrest
    exact hrest

/-- The other fields of the record do not depend on the device id. -/
theorem foldl_set_did (cs : List DbgCall) (r : DbgReq) (d x : Word) :
    { cs.foldl DbgReq.set { r with did := d } with did := x } = { cs.foldl DbgReq.set r with did := x } := by
  induction cs generalizing r d with
  | nil => rfl
  | cons c cs ih => cases c with
    | setDid deviceId => rfl
    | setPv pv => exact ih { r with pv := pv } d
    | setPriv priv => exact ih { r with priv := priv } d
    | setRw rw => exact ih { r with nw := !rw } d
    | setExe exe => exact ih { r with exe := exe } d

/-- The device id that calls leave is the OR of all of them, and the other fields are the record's. -/
theorem foldl_join (cs : List DbgCall) (r : DbgReq) :
    cs.foldl join r = { cs.foldl DbgReq.set r with did := (DbgCall.dids cs).foldl (· ||| ·) r.did } := by
  induction cs generalizing r with
  | nil => rfl
  | cons c cs ih =>
    rw [List.foldl_cons, List.foldl_cons, ih]
    cases c with
    | setDid deviceId =>
      have hrest := foldl_set_did cs { r with did := r.did ||| deviceId } deviceId
      exact (hrest _).symm
    | _ => rfl

/-- The device id of the record is the last one. -/
theorem did_foldl_set (cs : List DbgCall) (r : DbgReq) :
    (cs.foldl DbgReq.set r).did = (DbgCall.dids cs).getLast?.getD r.did := by
  induction cs generalizing r with
  | nil => rfl
  | cons c cs ih =>
    rw [List.foldl_cons, ih]
    cases c with
    | setDid deviceId =>
      have hdids : DbgCall.dids (.setDid deviceId :: cs) = deviceId :: DbgCall.dids cs := rfl
      rw [hdids, List.getLast?_cons]
      rfl
    | _ => rfl

/-- A word has the bits of an OR when it has those of both parts. -/
theorem or_covered {x y z : Word} : (x ||| y) ||| z = z ↔ x ||| z = z ∧ y ||| z = z := by
  constructor
  · intro h
    constructor
    · rw [← h, ← BitVec.or_assoc, ← BitVec.or_assoc, BitVec.or_self]
    · rw [← h, BitVec.or_comm x y, BitVec.or_assoc, ← BitVec.or_assoc, BitVec.or_self]
  · rintro ⟨hx, hy⟩
    rw [BitVec.or_assoc, hy, hx]

/-- A word has the bits of the OR of some words when it has those of each. -/
theorem foldl_or_covered {z : Word} (d : Word) (ds : List Word) :
    ds.foldl (· ||| ·) d ||| z = z ↔ ∀ x ∈ d :: ds, x ||| z = z := by
  induction ds generalizing d with
  | nil => rw [List.forall_mem_singleton, List.foldl_nil]
  | cons e ds ih =>
    rw [List.foldl_cons, ih, List.forall_mem_cons, or_covered, List.forall_mem_cons, List.forall_mem_cons, and_assoc]

/-- The OR of some words is the last one exactly when that one has the bits of all. -/
theorem foldl_or_eq_last (d : Word) (ds : List Word) :
    ds.foldl (· ||| ·) d = ds.getLast?.getD d ↔ ∀ last, ds.getLast? = some last → ∀ x ∈ d :: ds, x ||| last = last := by
  cases hlast : ds.getLast? with
  | none =>
    rw [List.getLast?_eq_none_iff.1 hlast]
    exact iff_of_true rfl fun last h => nomatch h
  | some last =>
    have hmem : last ∈ d :: ds := List.mem_cons_of_mem d (List.mem_of_getLast? hlast)
    have hle : last ||| ds.foldl (· ||| ·) d = ds.foldl (· ||| ·) d :=
      (foldl_or_covered d ds).1 BitVec.or_self last hmem
    constructor
    · rintro h _ ⟨⟩
      rw [← foldl_or_covered, h]
      exact BitVec.or_self
    · intro h
      have hge := (foldl_or_covered d ds).2 (h last rfl)
      rw [BitVec.or_comm, hle] at hge
      exact hge

end DebugAux

open DebugAux

/-- Whatever the register holds and whatever setters are called, the register refines the record exactly when the last device id
that is given has all the bits of the earlier ones: `rv_iommu_dbg_set_did` does not clear the field. -/
theorem debug_setters_refine_iff (ctl : Word) (cs : List DbgCall) (hcs : ∀ d, .setDid d ∈ cs → Fits d 24) :
    dbgReq (DbgCall.runAll cs ctl) = cs.foldl DbgReq.set (dbgReq ctl) ↔ DidsCovered ctl cs := by
  rw [dbgReq_runAll cs ctl hcs, foldl_join]
  unfold DidsCovered
  rw [← foldl_or_eq_last, ← did_foldl_set]
  constructor
  · intro h
    exact congrArg DbgReq.did h
  · intro h
    rw [h]

/-- The theorem at a device id that has all the bits of the one before, given twice. -/
theorem debug_setters_refine_at :
    dbgReq (DbgCall.runAll [.setDid 2, .setRw true, .setDid 10, .setPv true, .setDid 10] 0#64) =
      { did := 10, pv := true, priv := false, exe := false, nw := false, others := 0 } := by
  refine ((debug_setters_refine_iff 0#64 [.setDid 2, .setRw true, .setDid 10, .setPv true, .setDid 10] ?_).2 ?_).trans ?_
  · intro d hd
    simp only [List.mem_cons, DbgCall.setDid.injEq, reduceCtorEq, false_or, or_false, List.not_mem_nil] at hd
    rcases hd with rfl | rfl | rfl <;> decide
  · rintro _ ⟨⟩ d hd
    have hd' : d ∈ [0#64, 2#64, 10#64, 10#64] := hd
    simp only [List.mem_cons, List.not_mem_nil, or_false] at hd'
    rcases hd' with rfl | rfl | rfl | rfl <;> decide
  · decide

/-- Giving device 10 and then device 5 leaves device 15. -/
theorem debug_did_joined :
    (dbgReq (DbgCall.runAll [.setDid 10, .setDid 5] 0#64)).did = 15#64 ∧
    dbgReq (DbgCall.runAll [.setDid 10, .setDid 5] 0#64) ≠ [DbgCall.setDid 10, .setDid 5].foldl DbgReq.set (dbgReq 0#64) := by
  decide

end RvIommuTests
