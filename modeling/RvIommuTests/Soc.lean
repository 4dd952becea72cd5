import RvIommuTests.DebugMap
import RvIommuTests.Lib.Regions
import RvIommuTests.QueueEnv
import RvIommuTests.TestBodies

/-!
# The devices as they should be

A platform on which no test should fail: the memory, the DMA device, and an IOMMU that translates every request as the
specification has it and keeps nothing of what it reads. A transfer, and a request of the debug interface, is done as soon as it is
started. What the specification leaves open (`Soc.Choice`), the words that no test looks at, and the pace at which commands are
fetched, are anything at all.
-/

namespace RvIommuTests

open Bytes Paging Shared

/-! ## The image -/

/-- The objects of `.bss` that the devices access, with their sizes. -/
def TestLink.objects (link : TestLink) : List (Addr × Nat) := [
  (link.commandQueue, 64 * 2 * 8 * 8), (link.faultQueue, 64 * 4 * 8 * 8), (link.rootDdt, 64 * 64),
  (link.s1pt, 6 * pageSize), (link.s2ptRoot, 4 * pageSize), (link.s2pt, 5 * pageSize),
  (link.msiPt, msiNEntries * 2 * 8), (link.mrif, 64 * 8)]

/-- The linker has placed the image: the objects are aligned as declared and apart from each other, behind the code and before
`MEM_BASE + 0x1ff000`. -/
structure ImagePlaced (link : TestLink) : Prop where
  inBss : ∀ o ∈ link.objects, memBase < o.1.toNat ∧ o.1.toNat + o.2 ≤ memBase + 0x1ff000
  apart : link.objects.Pairwise fun o p => o.1.toNat + o.2 ≤ p.1.toNat ∨ p.1.toNat + p.2 ≤ o.1.toNat
  aligned : ∀ o ∈ [link.commandQueue, link.faultQueue, link.rootDdt, link.s1pt, link.s2pt, link.msiPt], o.toNat % pageSize = 0
  rootAligned : link.s2ptRoot.toNat % (4 * pageSize) = 0
  mrifAligned : link.mrif.toNat % 512 = 0

/-- The parts of the memory that the tests, the requests of the devices, or the driver use. -/
inductive Region where
  /-- What the tests use for data: the first doubleword of the RAM, and the RAM from the words of the notices on. -/
  | data
  | mrif | tables | faults | commands
  deriving DecidableEq

/-- A byte of an object. -/
def InObject (base : Addr) (size : Nat) (a : Addr) : Prop := base.toNat ≤ a.toNat ∧ a.toNat < base.toNat + size

instance (base : Addr) (size : Nat) (a : Addr) : Decidable (InObject base size a) := inferInstanceAs (Decidable (_ ∧ _))

/-- The bytes of a region. Of the objects of the queues only the entries are used. -/
def Region.Has (link : TestLink) : Region → Addr → Prop
  | .data, a => InObject 0x80000000#64 8 a ∨ InObject 0x83008000#64 0xCFF8000 a
  | .mrif, a => InObject link.mrif (64 * 8) a
  | .tables, a =>
    InObject link.s1pt (6 * pageSize) a ∨ InObject link.s2ptRoot (4 * pageSize) a ∨ InObject link.s2pt (5 * pageSize) a
  | .faults, a => InObject link.faultQueue (nEntries * 32) a
  | .commands, a => InObject link.commandQueue (nEntries * 16) a

/-- `mrif_init` -/
def mrifInit (mrif : Addr) (m : Mem) : Mem :=
  let m := store m 8 (mrif + BitVec.ofNat 64 (8 * intIpIdx intId1)) 0#64
  let m := store m 8 (mrif + BitVec.ofNat 64 (8 * (intIpIdx intId1 + 1))) (intMask intId1)
  let m := store m 8 (mrif + BitVec.ofNat 64 (8 * intIpIdx intId2)) 0#64
  store m 8 (mrif + BitVec.ofNat 64 (8 * (intIpIdx intId2 + 1))) 0#64

/-! ## Memory -/

/-- The memory after a write of an interrupt identity to an MRIF: the interrupt is pending, and if it is enabled, the notice is
written. An identity has eleven bits, and any other one is ignored. -/
def deliver (mrifAddr : Addr) (nid : BitVec 11) (noticeAddr : Addr) (identity : Word32) (m : Mem) : Mem :=
  if identity.toNat < 2 ^ 11 then
    let ip := mrifAddr + BitVec.ofNat 64 (16 * (identity.toNat / 64))
    let m := store m 8 ip (load m 8 ip ||| 1#64 <<< (identity.toNat % 64))
    if (load m 8 (ip + 8#64)).getLsbD (identity.toNat % 64) then store m 4 noticeAddr (nid.setWidth 32) else m
  else m

/-- Some bytes of an object lie in one page. -/
def InOnePage (a : Addr) (n : Nat) : Prop := a.toNat % pageSize + n ≤ pageSize

instance (a : Addr) (n : Nat) : Decidable (InOnePage a n) := inferInstanceAs (Decidable (_ ≤ _))

/-- A fault record with given cause and IOVA, and anything in its other fields. -/
def Record.fault (r : Record) (c : Cause) (iova : Word) : Record :=
  { r with dw0 := (r.dw0 &&& ~~~causeMask) ||| c.code, dw2 := iova }

/-- A record is put in the queue. -/
def Iommu.enqueue (s : Iommu) (r : Record) : Iommu :=
  { s with
    mem := store (store (store (store s.mem 8 (s.recordAddr s.fqt.toNat 0) r.dw0) 8 (s.recordAddr s.fqt.toNat 1) r.dw1) 8
      (s.recordAddr s.fqt.toNat 2) r.dw2) 8 (s.recordAddr s.fqt.toNat 3) r.dw3
    fqt := (s.fqt + 1#32) &&& indexMask s.fqb
    accepted := s.accepted ++ [r] }

/-! ## The platform -/

/-- The mode in `ddtp`. -/
def ddtpMode (ddtp : Word) : Option DdtpMode :=
  if ddtp.extractLsb' 0 4 = 0#4 then some .off
  else if ddtp.extractLsb' 0 4 = 1#4 then some .bare
  else if ddtp.extractLsb' 0 4 = 2#4 then some .oneLvl
  else none

/-- The memory with the queues, the other registers of the IOMMU, and those of the DMA device. -/
structure Soc where
  io : Iommu
  rootDdt : Ddt
  msiPt : MsiPt
  ddtp : Word
  /-- `ipsr.fip`. The other bits are zero. -/
  fip : Bool
  trReqIova : Word
  trReqCtl : Word
  trResponse : Word
  srcAddr : Word
  destAddr : Word
  numBytes : Word

namespace Soc

/-- What the specification and the DMA device leave open: the fields of the records of a read and of a write, and what the device
writes when there is nothing that it has read. -/
structure Choice where
  readRecord : Record
  writeRecord : Record
  unread : Mem

/-- The context that the requests of a device are translated with. In Bare mode there is none. -/
def context (link : TestLink) (s : Soc) (did : Nat) : Except Cause (Option Dc) :=
  match ddtpMode s.ddtp with
  | some .bare => .ok none
  | some .oneLvl =>
    if ddtNEntries ≤ did then .error .transTypeDisallowed
    else if queueBase s.ddtp ≠ link.rootDdt then .error .ddtEntryLdAccessFault
    else if (s.rootDdt did).tc.getLsbD 0 then .ok (some (s.rootDdt did)) else .error .ddtEntryInvalid
  | _ => .error .allInbTransactionsDisallowed

/-- The translation of a request of the device under test. -/
def resolve (link : TestLink) (s : Soc) (q : TransRequest) : Except Cause Target :=
  (s.context link idmaId.toNat).bind fun
    | none => .ok (.mem q.iova.toNat)
    | some dc => dc.resolve s.msiPt s.io.mem q

/-- A fault is reported. -/
def report (s : Soc) (r : Record) : Soc :=
  if ¬ On s.io.fqcsr then s
  else
    { s with
      io := if s.io.Full then { s.io with fqcsr := s.io.fqcsr ||| csrOverflow } else s.io.enqueue r
      fip := s.fip || s.io.fqcsr.getLsbD 1 }

/-- A request is translated, or refused and reported. -/
def serve (link : TestLink) (s : Soc) (q : TransRequest) (r : Record) : Option Target × Soc :=
  match s.resolve link q with
  | .ok t => (some t, s)
  | .error c => (none, s.report (r.fault c q.iova))

/-- The memory after a transfer between the two targets, if its requests were not refused. What is written is what was read. -/
def move (n : Nat) (src dst : Option Target) (unread : Mem) (m : Mem) : Mem :=
  match src, dst with
  | _, none => m
  | some (.mem a), some (.mem b) => copy m (BitVec.ofNat 64 b) (BitVec.ofNat 64 a) n
  | _, some (.mem b) => fun x => if (x - BitVec.ofNat 64 b).toNat < n then unread x else m x
  | some (.mem a), some (.mrif mrifAddr nid noticeAddr) =>
    if n = 4 then deliver mrifAddr nid noticeAddr (load m 4 (BitVec.ofNat 64 a)) m else m
  | _, some (.mrif mrifAddr nid noticeAddr) =>
    if n = 4 then deliver mrifAddr nid noticeAddr (load unread 4 0#64) m else m

/-- A transfer: one request to read and one to write. -/
def transfer (link : TestLink) (s : Soc) (c : Choice) : Soc :=
  let (src, s) := s.serve link (.ofRead s.srcAddr) c.readRecord
  let (dst, s) := s.serve link (.ofWrite s.destAddr) c.writeRecord
  { s with io := { s.io with mem := move s.numBytes.toNat src dst c.unread s.io.mem } }

/-- A request of the debug interface. -/
def debug (link : TestLink) (s : Soc) (r : Record) : Soc :=
  let d := dbgReq s.trReqCtl
  let outcome := (s.context link d.did.toNat).bind fun
    | none => .ok (s.trReqIova.toNat, 0)
    | some dc => dc.debug s.io.mem (d.request s.trReqIova)
  let s' := { s with trResponse := trResponseTo outcome }
  match outcome with
  | .ok _ => s'
  | .error c => s'.report (r.fault c s.trReqIova)

/-- A write to `tr_req_ctl`. With `go`, the request is done at once. -/
def setTrReqCtl (link : TestLink) (s : Soc) (v : Word) (r : Record) : Soc :=
  let s' := { s with trReqCtl := v &&& ~~~trReqCtlGoBit }
  if v.getLsbD 0 then s'.debug link r else s'

/-- A write to a register of the DMA device. -/
def writeIdma (s : Soc) : IdmaReg → Word → Soc
  | .srcAddr, v => { s with srcAddr := v }
  | .destAddr, v => { s with destAddr := v }
  | .numBytes, v => { s with numBytes := v }
  | _, _ => s

/-- Commands are fetched, and the memory is written where it does not belong to a region that is watched. -/
def Quiet (link : TestLink) (s s' : Soc) : Prop :=
  ∃ (mem : Mem) (cqh cqcsr : Word32) (fetched : List Command), OnlyIn (Region.Has link) .commands s.io.mem mem ∧
    s' = { s with io := { s.io with mem := mem, cqh := cqh, cqcsr := cqcsr, fetched := fetched } }

/-- The platform. Of a transfer that crosses a page nothing is said. -/
def world (link : TestLink) : World DevIo DevIo.Answer Soc where
  sem
    | .queue i, s, r, s' => s.io.access i = (r, s'.io) ∧ s' = { s with io := s'.io }
    | .idma (.read64 .nextTransferId), s, r, s' => r ≠ 0#64 ∧
      (InOnePage s.srcAddr s.numBytes.toNat → InOnePage s.destAddr s.numBytes.toNat → ∃ c, s' = s.transfer link c)
    | .idma (.write64 r v), s, _, s' => s' = s.writeIdma r v
    | .getCtl32 .ipsr, s, r, s' => r = (if s.fip then fipMask else 0#32) ∧ s' = s
    | .setCtl32 .ipsr v, s, _, s' => s' = { s with fip := s.fip && v &&& fipMask == 0#32 }
    | .setCtl64 .ddtp v, s, _, s' => s' = { s with ddtp := v }
    | .getCtl64 .trReqIova, s, r, s' => r = s.trReqIova ∧ s' = s
    | .setCtl64 .trReqIova v, s, _, s' => s' = { s with trReqIova := v }
    | .getCtl64 .trReqCtl, s, r, s' => r = s.trReqCtl ∧ s' = s
    | .setCtl64 .trReqCtl v, s, _, s' => ∃ r, s' = s.setTrReqCtl link v r
    | .getCtl64 .trResponse, s, r, s' => r = s.trResponse ∧ s' = s
    | .load32 a, s, r, s' => r = load s.io.mem 4 a ∧ s' = s
    | .store32 a v, s, _, s' => s' = { s with io := { s.io with mem := store s.io.mem 4 a v } }
    | .setDc setter, s, _, s' => s' = { s with rootDdt := setter.run DdtConfig.platform link.toLink s.rootDdt }
    | .s1ptSwitch, s, _, s' => s' = { s with io := { s.io with mem := s1ptSwitch link.toLink s.io.mem } }
    | .s2ptSwitch, s, _, s' => s' = { s with io := { s.io with mem := s2ptSwitch link.toLink s.io.mem } }
    | _, s, _, s' => s' = s
  env := Quiet link

/-- The platform with one choice for all transfers, without its environment. A request that the tests never make has no answer. -/
def step (link : TestLink) (c : Choice) : (i : DevIo) → Soc → Option (i.Answer × Soc)
  | .queue i, s => some ((s.io.access i).1, { s with io := (s.io.access i).2 })
  | .idma (.read64 .nextTransferId), s => some (1#64, s.transfer link c)
  | .idma (.read64 .lastTransferIdComplete), s => some (1#64, s)
  | .idma (.write64 r v), s => some ((), s.writeIdma r v)
  | .getCtl32 .ipsr, s => some (if s.fip then fipMask else 0#32, s)
  | .setCtl32 .ipsr v, s => some ((), { s with fip := s.fip && v &&& fipMask == 0#32 })
  | .setCtl32 _ _, s => some ((), s)
  | .getCtl64 .trReqCtl, s => some (s.trReqCtl, s)
  | .getCtl64 .trResponse, s => some (s.trResponse, s)
  | .setCtl64 .ddtp v, s => some ((), { s with ddtp := v })
  | .setCtl64 .trReqIova v, s => some ((), { s with trReqIova := v })
  | .setCtl64 .trReqCtl v, s => some ((), s.setTrReqCtl link v c.readRecord)
  | .load32 a, s => some (load s.io.mem 4 a, s)
  | .store32 a v, s => some ((), { s with io := { s.io with mem := store s.io.mem 4 a v } })
  | .setDc setter, s => some ((), { s with rootDdt := setter.run DdtConfig.platform link.toLink s.rootDdt })
  | .s1ptSwitch, s => some ((), { s with io := { s.io with mem := RvIommuTests.s1ptSwitch link.toLink s.io.mem } })
  | .s2ptSwitch, s => some ((), { s with io := { s.io with mem := RvIommuTests.s2ptSwitch link.toLink s.io.mem } })
  | .stack, s => some (c.readRecord, s)
  | _, _ => none

end Soc

/-! ## Runs of the tests -/

/-- The platform as `init_iommu` leaves it, on memory in which the page tables were zero. -/
structure Soc.Ready (link : TestLink) (s : Soc) : Prop where
  mem : ∃ m, TablesZeroed link.toLink m ∧
    s.io.mem = mrifInit link.mrif (s1ptInit .platform link.toLink (s2ptInit .platform link.toLink m))
  queues : s.io = { Iommu.cold link.toLink with mem := s.io.mem }
  rootDdt : ∃ ddt, s.rootDdt = rvIommuDdtInit DdtConfig.platform link.toLink ddt
  msiPt : ∃ pt, s.msiPt = msiPtInit link.mrif pt
  ddtp : s.ddtp = ((link.rootDdt >>> 2) &&& ddtpPpnMask) ||| DdtpMode.off.code
  fip : s.fip = false
  trReqCtl : s.trReqCtl = 0#64

/-- The calls of `main`, of any tests in any order. -/
def runTests : List TestFn → Prog TestIo TestIo.Answer (List (Option Bool))
  | [] => return []
  | t :: ts => do
    let r ← t
    let rs ← runTests ts
    return r :: rs

/-- The registered tests but for `iofence`, `msi_generation` and `hpm`. -/
def steadyTests (link : TestLink) : List TestFn :=
  [dbgInterface link, mrifSupport link, wsiGeneration link, iotinval link, twoStageTranslation link, secondStageOnly link,
    bothStagesBare link, iommuBare link, iommuOff link]

/-- The line does not report a failure. -/
def Line.isGood : Line → Bool
  | .asserted _ passed => passed
  | .verdict passed => passed
  | .summaryFailed _ _ => false
  | _ => true

end RvIommuTests
