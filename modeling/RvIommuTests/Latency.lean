import Mathlib.Logic.Function.Basic
import RvIommuTests.DmaDevice
import RvIommuTests.TestBodies

/-!
# Counters of events

The event counters of the IOMMU, as `init_iommu` sets them up and as `latency_test` meets them, beside the DMA device. Its
transfers are all that reaches the IOMMU, so events come only while one is outstanding.
-/

namespace RvIommuTests

open Shared

/-! ## Configuration -/

/-- The events of `rv_iommu_hpm.h`. -/
inductive HpmEvent where
  | utReq | tReq | atsReq | iotlbMiss | ddtw | pdtw | s1Ptw | s2Ptw
  deriving DecidableEq

/-- `HPM_UT_REQ` to `HPM_S2_PTW` -/
def HpmEvent.code : HpmEvent → Word
  | utReq => 1#64
  | tReq => 2#64
  | atsReq => 3#64
  | iotlbMiss => 4#64
  | ddtw => 5#64
  | pdtw => 6#64
  | s1Ptw => 7#64
  | s2Ptw => 8#64

/-- `IOMMU_MAX_HPM_COUNTERS` -/
def iommuMaxHpmCounters : Nat := 31

/-- `CNT_MASK` -/
def cntMask : Word32 := 0x3E#32

/-- What `init_iommu` does to the event counters. -/
def hpmInit : Body Unit := do
  Body.dev (.setCtl64 (.iohpmevt 0) HpmEvent.utReq.code)
  Body.dev (.setCtl64 (.iohpmevt 1) HpmEvent.iotlbMiss.code)
  Body.dev (.setCtl64 (.iohpmevt 2) HpmEvent.ddtw.code)
  Body.dev (.setCtl64 (.iohpmevt 3) HpmEvent.s1Ptw.code)
  Body.dev (.setCtl64 (.iohpmevt 4) HpmEvent.s2Ptw.code)
  Body.dev (.setCtl32 .iocntinh (~~~cntMask))

/-- The counters that `init_iommu` has set up, and what they are to count. -/
def hpmEvents : List (Nat × HpmEvent) := [(0, .utReq), (1, .iotlbMiss), (2, .ddtw), (3, .s1Ptw), (4, .s2Ptw)]

/-! ## The devices -/

/-- The DMA device, the registers of the counters, and what was printed. How many events a counter has counted since the test was
called is read by no access. -/
structure Counting where
  dma : Dma
  iohpmctr : Nat → Word
  iohpmevt : Nat → Word
  iocntinh : Word32
  printed : List (String × Word)
  counted : Nat → Nat

namespace Counting

/-- A counter counts an event that its `iohpmevt` selects, by the low 15 bits, unless it is inhibited. -/
def selects (s : Counting) (e : HpmEvent) (k : Nat) : Bool :=
  decide (k < iommuMaxHpmCounters) && !s.iocntinh.getLsbD (k + 1) && s.iohpmevt k &&& 0x7FFF#64 == e.code

/-- After an event that the counters in `hits` have counted. -/
def count (s : Counting) (hits : Nat → Bool) : Counting :=
  { s with
    iohpmctr := fun k => if hits k then s.iohpmctr k + 1#64 else s.iohpmctr k
    counted := fun k => if hits k then s.counted k + 1 else s.counted k }

instance (s : Dma) (id : Word) : Decidable (s.Fresh id) := inferInstanceAs (Decidable (_ ∧ _))

/-- The devices. The counters change when the test writes to them, and by an event, which may come whenever a transfer is
outstanding. A counter may leave out an event that it selects, when its other filters do. -/
def world : World DevIo DevIo.Answer Counting where
  sem
    | .idma i, s, r, s' => ∃ d, Dma.world.sem i s.dma r d ∧ s' = { s with dma := d }
    | .getCtl64 (.iohpmctr k), s, r, s' => r = s.iohpmctr k ∧ s' = s
    | .setCtl64 (.iohpmctr k) v, s, _, s' => s' = { s with iohpmctr := Function.update s.iohpmctr k v }
    | .setCtl64 (.iohpmevt k) v, s, _, s' => s' = { s with iohpmevt := Function.update s.iohpmevt k v }
    | .setCtl32 .iocntinh v, s, _, s' => s' = { s with iocntinh := v }
    | .printf text v, s, _, s' => s' = { s with printed := s.printed ++ [(text, v)] }
    | _, s, _, s' => s' = s
  env s s' := (∃ d, Dma.world.env s.dma d ∧ s' = { s with dma := d }) ∨
    (s.dma.outstanding ≠ [] ∧ ∃ e hits, (∀ k, hits k = true → s.selects e k = true) ∧ s' = s.count hits)

/-- Devices whose registers are zero but for those of the counters and of the DMA device. A transfer is complete before the second
poll of its status at the latest, after one event `e`. -/
def step (e : HpmEvent) : (i : DevIo) → Counting → Option (i.Answer × Counting)
  | .queue (.read32 _), s => some (0#32, s)
  | .queue (.write32 _ _), s => some ((), s)
  | .queue (.read64 _), s => some (0xDEADBEEF#64, s)
  | .queue (.write64 _ _), s => some ((), s)
  | .idma (.write64 r v), s => some ((), { s with dma := s.dma.write r v })
  | .idma (.read64 .nextTransferId), s =>
    let id := s.dma.lastTransferIdComplete + 1#64
    if s.dma.Fresh id then some (id, { s with dma := s.dma.launch id }) else none
  | .idma (.read64 .lastTransferIdComplete), s =>
    match s.dma.outstanding with
    | [] => some (s.dma.lastTransferIdComplete, s)
    | l :: _ => some (l.id, { s.count (s.selects e) with dma := s.dma.complete l })
  | .getCtl64 (.iohpmctr k), s => some (s.iohpmctr k, s)
  | .setCtl64 .ddtp _, s => some ((), s)
  | .setCtl64 (.iohpmctr k) v, s => some ((), { s with iohpmctr := Function.update s.iohpmctr k v })
  | .setDc _, s => some ((), s)
  | .cycles, s => some (0#64, s)
  | .srand _, s => some ((), s)
  | .rand, s => some (0, s)
  | .stack, s => some (⟨0#64, 0#64, 0#64, 0#64⟩, s)
  | .printf text v, s => some ((), { s with printed := s.printed ++ [(text, v)] })
  | _, _ => none

/-- When `latency_test` is called: no transfer is outstanding, and nothing was counted or printed yet. -/
structure Called (s : Counting) : Prop where
  idle : s.dma.Idle
  none : ∀ k, s.counted k = 0
  silent : s.printed = []

end Counting

/-! ## What is printed -/

/-- The numbers that `latency_test` prints of the counters: the text, and the counter. -/
def latencyCnts : List (String × Nat) :=
  [("Untranslated Requests cnt: %llu\n", 0), ("IOTLB miss cnt: %llu\n", 1), ("DDT Walks cnt: %llu\n", 2),
    ("First-stage PT walk cnt: %llu\n", 3), ("Second-stage PT walk cnt: %llu\n", 4)]

namespace Counting

/-- What was printed of the counters, after the average. -/
def printedCnts (s : Counting) : List (String × Word) := s.printed.drop 1

/-- Of every counter the number of the events was printed that it has counted. -/
def CountsPrinted (s : Counting) : Prop := s.printedCnts = latencyCnts.map fun c => (c.1, BitVec.ofNat 64 (s.counted c.2))

instance (s : Counting) : Decidable s.CountsPrinted := inferInstanceAs (Decidable (_ = _))

/-- Both have counted the same number of events with every counter that is printed. -/
def SameCounts (s t : Counting) : Prop := ∀ c ∈ latencyCnts, s.counted c.2 = t.counted c.2

end Counting

end RvIommuTests
