import RvIommuTests.Lib.Fields
import RvIommuTests.Platform

/-!
# The debug interface

The setters of `rv_iommu.c` for `tr_req_ctl`, the control register of a debug translation. Each reads the register, changes one
field of it and writes it back. Then the functions that read `tr_response`, and the request that the control register holds as a
record of independent fields, which is not translated from the driver.
-/

namespace RvIommuTests

/-! ## `rv_iommu.c` -/

/-- `TR_REQ_CTL_DID_OFFSET` -/
def trReqCtlDidOffset : Nat := 40
/-- `TR_REQ_CTL_DID_MASK` -/
def trReqCtlDidMask : Word := 0xFFFFFF0000000000#64
/-- `TR_REQ_CTL_PV_BIT` -/
def trReqCtlPvBit : Word := 1#64 <<< 32
/-- `TR_REQ_CTL_PRIV_BIT` -/
def trReqCtlPrivBit : Word := 1#64 <<< 1
/-- `TR_REQ_CTL_EXE_BIT` -/
def trReqCtlExeBit : Word := 1#64 <<< 2
/-- `TR_REQ_CTL_NW_BIT` -/
def trReqCtlNwBit : Word := 1#64 <<< 3

/-- `rv_iommu_dbg_set_did` -/
def rvIommuDbgSetDid (deviceId : Word) (ctl : Word) : Word :=
  ctl ||| ((deviceId <<< trReqCtlDidOffset) &&& trReqCtlDidMask)

/-- The body of the setters of a flag: the flag sets its bit, or clears it. -/
def dbgSetFlag (bit : Word) (flag : Bool) (ctl : Word) : Word := if flag then ctl ||| bit else ctl &&& ~~~bit

/-- `rv_iommu_dbg_set_pv` -/
def rvIommuDbgSetPv (pv : Bool) : Word → Word := dbgSetFlag trReqCtlPvBit pv

/-- `rv_iommu_dbg_set_priv` -/
def rvIommuDbgSetPriv (priv : Bool) : Word → Word := dbgSetFlag trReqCtlPrivBit priv

/-- `rv_iommu_dbg_set_rw`. The bit says that there is no write, so the flag clears it. -/
def rvIommuDbgSetRw (rw : Bool) (ctl : Word) : Word := if rw then ctl &&& ~~~trReqCtlNwBit else ctl ||| trReqCtlNwBit

/-- `rv_iommu_dbg_set_exe` -/
def rvIommuDbgSetExe (exe : Bool) : Word → Word := dbgSetFlag trReqCtlExeBit exe

/-- A call of one of the setters, with its argument. -/
inductive DbgCall where
  | setDid (deviceId : Word)
  | setPv (pv : Bool)
  | setPriv (priv : Bool)
  | setRw (rw : Bool)
  | setExe (exe : Bool)
  deriving DecidableEq

namespace DbgCall

/-- What a call leaves in the register. -/
def run (ctl : Word) : DbgCall → Word
  | .setDid deviceId => rvIommuDbgSetDid deviceId ctl
  | .setPv pv => rvIommuDbgSetPv pv ctl
  | .setPriv priv => rvIommuDbgSetPriv priv ctl
  | .setRw rw => rvIommuDbgSetRw rw ctl
  | .setExe exe => rvIommuDbgSetExe exe ctl

/-- Calls one after the other. -/
def runAll (cs : List DbgCall) (ctl : Word) : Word := cs.foldl run ctl

end DbgCall

/-! ## The response -/

/-- `TR_REQ_CTL_GO_BIT` -/
def trReqCtlGoBit : Word := 1#64 <<< 0
/-- `TR_RESPONSE_FAULT_BIT` -/
def trResponseFaultBit : Word := 1#64 <<< 0
/-- `TR_RESPONSE_SP_BIT` -/
def trResponseSpBit : Word := 1#64 <<< 9
/-- `TR_RESPONSE_PPN_OFFSET` -/
def trResponsePpnOffset : Nat := 10
/-- `TR_RESPONSE_PPN_MASK` -/
def trResponsePpnMask : Word := 0x3FFFFFFFFFFC00#64

/-- `rv_iommu_dbg_req_is_complete`. The mask is `TR_REQ_CTL_GO_BIT != 0`, which is 1. -/
def rvIommuDbgReqIsComplete (ctl : Word) : Bool := ctl &&& (if trReqCtlGoBit ≠ 0#64 then 1#64 else 0#64) == 0#64

/-- `rv_iommu_dbg_req_fault` -/
def rvIommuDbgReqFault (resp : Word) : BitVec 8 := (resp &&& trResponseFaultBit).setWidth 8

/-- `rv_iommu_dbg_req_is_superpage` -/
def rvIommuDbgReqIsSuperpage (resp : Word) : BitVec 8 := ((resp &&& trResponseSpBit) >>> 9).setWidth 8

/-- `rv_iommu_dbg_translated_ppn` -/
def rvIommuDbgTranslatedPpn (resp : Word) : Word := (resp &&& trResponsePpnMask) >>> trResponsePpnOffset

/-- The loop of `rv_iommu_dbg_ppn_encode_x`: it ends because an odd `ppn` gets smaller. -/
def ppnEncodeLoop (ppn : Word) (xIdx : BitVec 8) : BitVec 8 :=
  if h : (ppn &&& 1#64).setWidth 8 ≠ 0#8 then ppnEncodeLoop (ppn >>> 1) (xIdx + 1#8) else xIdx
termination_by ppn.toNat
decreasing_by
  have hne : ppn.toNat ≠ 0 := by
    intro h0
    rw [BitVec.eq_of_toNat_eq (h0.trans BitVec.toNat_zero.symm)] at h
    exact h rfl
  rw [BitVec.toNat_ushiftRight, Nat.shiftRight_eq_div_pow]
  exact Nat.div_lt_self (Nat.pos_of_ne_zero hne) (by decide)

/-- `rv_iommu_dbg_ppn_encode_x` -/
def rvIommuDbgPpnEncodeX (resp : Word) : BitVec 8 := ppnEncodeLoop ((resp &&& trResponsePpnMask) >>> trResponsePpnOffset) 0#8

/-! ## The request as a record -/

/-- The request in the register: its fields, and the bits of the register that no setter is for. -/
structure DbgReq where
  did : Word
  pv : Bool
  priv : Bool
  exe : Bool
  nw : Bool
  others : Word
  deriving DecidableEq

/-- The bits that no setter is for: `go`, `PID` and the reserved ones. -/
def dbgOthersMask : Word := 0x000000FEFFFFFFF1#64

/-- Reading the register. -/
def dbgReq (ctl : Word) : DbgReq where
  did := (ctl.extractLsb' 40 24).setWidth 64
  pv := ctl.getLsbD 32
  priv := ctl.getLsbD 1
  exe := ctl.getLsbD 2
  nw := ctl.getLsbD 3
  others := ctl &&& dbgOthersMask

/-- The record after a setter: the field of the setter is the given value, the others are as they were. -/
def DbgReq.set (r : DbgReq) : DbgCall → DbgReq
  | .setDid deviceId => { r with did := deviceId }
  | .setPv pv => { r with pv := pv }
  | .setPriv priv => { r with priv := priv }
  | .setRw rw => { r with nw := !rw }
  | .setExe exe => { r with exe := exe }

/-- The device ids that the calls give, in their order. -/
def DbgCall.dids (cs : List DbgCall) : List Word :=
  cs.filterMap fun
    | .setDid deviceId => some deviceId
    | _ => none

/-- The last device id has all the bits of the ones before it, and of the one in the register. -/
def DidsCovered (ctl : Word) (cs : List DbgCall) : Prop :=
  ∀ last, (DbgCall.dids cs).getLast? = some last → ∀ d ∈ (dbgReq ctl).did :: DbgCall.dids cs, d ||| last = last

/-! ## The response -/

/-- The page number in the response. -/
def ppnField (resp : Word) : BitVec 44 := resp.extractLsb' 10 44

/-- The position of the lowest zero in the field, or its width when there is none. -/
structure LowestZero (ppn : BitVec 44) (x : Nat) : Prop where
  le : x ≤ 44
  below : ∀ i < x, ppn.getLsbD i = true
  zero : ppn.getLsbD x = false

/-- The pages from `base` on, two to the power `x + 1` of them, as the field encodes them. -/
def napot (base : BitVec 44) (x : Nat) : BitVec 44 := base ||| BitVec.ofNat 44 (2 ^ x - 1)

end RvIommuTests
