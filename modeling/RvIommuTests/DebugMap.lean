import RvIommuTests.DebugInterface
import RvIommuTests.RequestMap

/-!
# What the debug interface answers

A request that is put in the registers of the debug interface, as the specification has it translated with the tables in memory:
like one of a device, but for the MSI page table, and with the size of the page that it comes to. Then, as for the requests of a
device, what this is for every address.
-/

namespace RvIommuTests

open Bytes Paging

/-! ## The IOMMU's side -/

namespace Dc

/-- The level of the leaf of the first stage. A walk asks for one entry at each level down to that of its leaf. -/
def firstLevel (dc : Dc) (r : Reads) (q : TransRequest) : Nat :=
  3 - (visited Paging.sv39 (dc.firstRead r) q.write q.iova.toNat 2 (dc.root .first)).length

/-- The level of the leaf of the second stage. -/
def secondLevel (dc : Dc) (r : Reads) (q : TransRequest) (gpa : Nat) : Nat :=
  3 - (visited Paging.sv39x4 (fun a => some (r .second a)) q.write gpa 2 (dc.root .second)).length

/-- The level of a translation: the lower one of the two stages, as far as they are on. -/
def leafLevel (dc : Dc) (r : Reads) (q : TransRequest) (gpa : Nat) : Nat :=
  match dc.sv39, dc.sv39x4 with
  | true, true => min (dc.firstLevel r q) (dc.secondLevel r q gpa)
  | true, false => dc.firstLevel r q
  | false, true => dc.secondLevel r q gpa
  | false, false => 0

/-- A request of the debug interface: the address translated to, and the level. One that comes to the MSI page table is refused. -/
def debug (dc : Dc) (m : Mem) (q : TransRequest) : Except Cause (Nat × Nat) :=
  (dc.guest (memReads m) q).bind fun gpa =>
    if dc.isMsi gpa then .error .transTypeDisallowed
    else (dc.host (memReads m) q gpa).map fun spa => (spa, dc.leafLevel (memReads m) q gpa)

end Dc

/-- The request in the registers of the debug interface. -/
def DbgReq.request (d : DbgReq) (iova : Word) : TransRequest := ⟨iova, true, !d.nw, d.exe⟩

/-- The response to a request that is not refused. A superpage is encoded with its size. -/
def trResponseOf (spa level : Nat) : Word :=
  if level = 0 then (BitVec.ofNat 44 (spa / 2 ^ 12)).setWidth 64 <<< trResponsePpnOffset
  else
    let base := BitVec.ofNat 44 (spa / 2 ^ pageBits level * 2 ^ (9 * level))
    ((napot base (9 * level - 1)).setWidth 64 <<< trResponsePpnOffset) ||| trResponseSpBit

/-- The response to a request. -/
def trResponseTo : Except Cause (Nat × Nat) → Word
  | .ok (spa, level) => trResponseOf spa level
  | .error _ => trResponseFaultBit

/-! ## The tests' side -/

/-- The level of the page that the tables of either stage have for an address. -/
def levelAt (a : Nat) : Nat :=
  if a < 0xC0000000 then 2 else if a < 0xC8000000 ∨ 0x140000000 ≤ a ∧ a < 0x180000000 then 1 else 0

/-- The level of a translation with given modes. -/
def levelMap (modes : DcModes) (iova gpa : Nat) : Nat :=
  match modes.iosatp, modes.iohgatp with
  | true, true => min (levelAt iova) (levelAt gpa)
  | true, false => levelAt iova
  | false, true => levelAt gpa
  | false, false => 0

/-- What the debug interface makes of a request with given modes. -/
def debugMap (modes : DcModes) (exchanged : Exchanged) (q : TransRequest) : Except Cause (Nat × Nat) :=
  (if modes.iosatp then guestMap (exchanged .first) q else .ok q.iova.toNat).bind fun gpa =>
    if modes.msiptp = true ∧ IsMsiPage (gppn gpa) then .error .transTypeDisallowed
    else (if modes.iohgatp then hostMap (exchanged .second) q gpa else .ok gpa).map fun spa =>
      (spa, levelMap modes q.iova.toNat gpa)

/-! ## The driver's side -/

/-- The number of pages that a response is about, as the driver reads it. -/
def dbgPages (resp : Word) : Nat :=
  if rvIommuDbgReqIsSuperpage resp = 0#8 then 1 else 2 ^ ((rvIommuDbgPpnEncodeX resp).toNat + 1)

/-- The first of these pages: the page number, for a superpage without the ones that encode its size. -/
def dbgFirstPage (resp : Word) : Nat :=
  if rvIommuDbgReqIsSuperpage resp = 0#8 then (rvIommuDbgTranslatedPpn resp).toNat
  else (rvIommuDbgTranslatedPpn resp &&& ~~~BitVec.ofNat 64 (2 ^ (rvIommuDbgPpnEncodeX resp).toNat - 1)).toNat

/-- The address that a response gives for any address of a page of that size. -/
def dbgAddress (resp : Word) (iova : Nat) : Nat := dbgFirstPage resp * 2 ^ 12 + iova % (dbgPages resp * 2 ^ 12)

end RvIommuTests
