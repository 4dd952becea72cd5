import RvIommuTests.Lib.Fields
import RvIommuTests.Queues

/-!
# What the queues run against

Where the queues may lie, what the IOMMU and everything else may do while the driver is at work, and when the driver may move
the tail of the command queue.
-/

namespace RvIommuTests

open Bytes Fields Shared

/-- A placement of a queue: a page below `2 ^ 56`. -/
structure Placed (queue : Addr) : Prop where
  aligned : Aligned queue 12
  fits : Fits queue 56

/-- The IOMMU after a cold start: both queues programmed and on, every index and every byte of memory zero. -/
def Iommu.cold (link : Link) : Iommu where
  mem := fun _ => 0#8
  cqb := qbOf link.commandQueue
  cqh := 0#32
  cqt := 0#32
  cqcsr := csrEnable ||| csrOn
  fqb := qbOf link.faultQueue
  fqh := 0#32
  fqt := 0#32
  fqcsr := csrEnable ||| csrOn
  fetched := []
  accepted := []
  recording := none

/-- The IOMMU some time after a cold start: both queues have been used and are empty again, at the index `i`. -/
def Iommu.emptyAt (link : Link) (i : Word32) : Iommu := { Iommu.cold link with cqh := i, cqt := i, fqh := i, fqt := i }

/-! ## Around the command queue -/

/-- Anything else that goes on around the command queue and leaves its memory and its registers alone. -/
structure CqFrame (link : Link) (s s' : Iommu) : Prop where
  cqb : s'.cqb = s.cqb
  cqh : s'.cqh = s.cqh
  cqt : s'.cqt = s.cqt
  cqcsr : s'.cqcsr = s.cqcsr
  fetched : s'.fetched = s.fetched
  mem : ∀ k < 1024, s'.mem (link.commandQueue + BitVec.ofNat 64 k) = s.mem (link.commandQueue + BitVec.ofNat 64 k)

/-- The environment of the driver as it issues commands. -/
def CqEnv (link : Link) (s s' : Iommu) : Prop := CqStep s s' ∨ CqFrame link s s'

/-- How many commands the registers say are not fetched yet. -/
def Iommu.unfetched (s : Iommu) : Nat := (s.cqt.toNat + 64 - s.cqh.toNat) % 64

/-- The tail is moved only while the queue has room for one more command. -/
def Room : Access → Iommu → Prop
  | .write32 .cqt _, s => s.unfetched + 1 < 64
  | _, _ => True

/-- The commands of a sequence of calls, in the order of the calls. -/
def commandsOf (calls : List (Command × DriverCall)) : List Command := calls.map (fun c => c.2.command c.1)

/-! ## Around the fault queue -/

/-- Anything else that goes on around the fault queue and leaves its memory and its registers alone. -/
structure FqFrame (link : Link) (s s' : Iommu) : Prop where
  fqb : s'.fqb = s.fqb
  fqh : s'.fqh = s.fqh
  fqt : s'.fqt = s.fqt
  fqcsr : s'.fqcsr = s.fqcsr
  accepted : s'.accepted = s.accepted
  recording : s'.recording = s.recording
  mem : ∀ k < 2048, s'.mem (link.faultQueue + BitVec.ofNat 64 k) = s.mem (link.faultQueue + BitVec.ofNat 64 k)

/-- The environment of the driver as it reads records. -/
def FqEnv (link : Link) (s s' : Iommu) : Prop := FqStep s s' ∨ FqFrame link s s'

/-- The accepted records that are not in the queue yet. -/
def Iommu.inFlight (s : Iommu) : List Record := (s.recording.map Prod.fst).toList

end RvIommuTests
