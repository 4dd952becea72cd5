import RvIommuTests.TestBodies

/-!
# Words that the IOMMU notifies

The words of memory that tests read to see whether the IOMMU has written to them, and the devices when it does not: whatever else
happens, only the stores of the test change such a word.
-/

namespace RvIommuTests

open Bytes Shared

/-- The assertions of the tests that a notification was written to memory. -/
inductive Notification where
  /-- The data of the fence, in `iofence`. -/
  | fence
  /-- The interrupts of the fault queue and of the command queue, in `msi_generation`. -/
  | fq | cq
  /-- The interrupt of the counters, in `hpm`. -/
  | pm

namespace Notification

/-- The word that is read. -/
def addr : Notification → Addr
  | fence => iofenceAddr
  | fq => msiAddrFq
  | cq => msiAddrCq
  | pm => msiAddrHpm

/-- What it is compared with. -/
def data : Notification → Word
  | fence => iofenceData
  | fq => msiDataFq.setWidth 64
  | cq => msiDataCq.setWidth 64
  | pm => msiDataHpm.setWidth 64

/-- The text of the assertion. -/
def text : Notification → String
  | fence => "IOFENCE DATA was correctly written in the given ADDR"
  | fq => "MSI data corresponding to FQ interrupt vector matches"
  | cq => "MSI data corresponding to CQ interrupt vector matches after clearing mask"
  | pm => "MSI data corresponding to HPM interrupt vector matches"

/-- The test. -/
def fn (link : TestLink) : Notification → TestFn
  | fence => iofence link
  | fq => msiGeneration link
  | cq => msiGeneration link
  | pm => hpm link

/-- The word holds the data. -/
def Written (n : Notification) (m : Mem) : Prop := (load m 4 n.addr).setWidth 64 = n.data

end Notification

/-- Memory where the IOMMU, the DMA device and everything else write anything, but nothing to the word at `a`. The tests do store
to memory, and the tail of the command queue is one of its 64 indices. -/
def unnotified (a : Addr) : World DevIo DevIo.Answer Mem where
  sem
    | .queue (.read64 b), m, r, m' => r = load m 8 b ∧ m' = m
    | .queue (.write64 b v), m, _, m' => m' = store m 8 b v
    | .queue (.read32 .cqt), m, r, m' => r.toNat < nEntries ∧ load m' 4 a = load m 4 a
    | .load32 b, m, r, m' => r = load m 4 b ∧ m' = m
    | .store32 b v, m, _, m' => m' = store m 4 b v
    | _, m, _, m' => load m' 4 a = load m 4 a
  env m m' := load m' 4 a = load m 4 a

/-- Memory that only the test writes to, beside registers that are all zero. -/
def untouched : (i : DevIo) → Mem → Option (i.Answer × Mem)
  | .queue (.read32 _), m => some (0#32, m)
  | .queue (.write32 _ _), m => some ((), m)
  | .queue (.write64 b v), m => some ((), store m 8 b v)
  | .getCtl32 _, m => some (0#32, m)
  | .setCtl32 _ _, m => some ((), m)
  | .setCtl64 _ _, m => some ((), m)
  | .load32 b, m => some (load m 4 b, m)
  | .stack, m => some (⟨0#64, 0#64, 0#64, 0#64⟩, m)
  | _, _ => none

end RvIommuTests
