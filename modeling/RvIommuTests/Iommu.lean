import RvIommuTests.Commands
import RvIommuTests.Lib.Prog

/-!
# The queues of the IOMMU

The IOMMU as the driver meets it: the registers of the command queue and of the fault queue, the memory both sides share, and
what the IOMMU does to them by itself. The driver reaches this state by single accesses only (`Access`), and the IOMMU may take
any of its own steps between two of them.

Three fields record what the IOMMU did and are read by no access: the commands it has fetched, the records it has accepted,
and the record it is writing.
-/

namespace RvIommuTests

open Bytes Shared

/-- The 32-bit registers of the two queues. -/
inductive Reg32 where
  | cqh | cqt | fqh | fqt | cqcsr | fqcsr
  deriving DecidableEq

/-- The 64-bit registers of the two queues. -/
inductive Reg64 where
  | cqb | fqb
  deriving DecidableEq

/-- A fault record: four doublewords. -/
structure Record where
  dw0 : Word
  dw1 : Word
  dw2 : Word
  dw3 : Word
  deriving DecidableEq

/-- The doublewords of a record by index. -/
def Record.dw (r : Record) : Nat → Word
  | 0 => r.dw0
  | 1 => r.dw1
  | 2 => r.dw2
  | _ => r.dw3

/-- The IOMMU's queue registers, the memory, and what the IOMMU has done. -/
structure Iommu where
  mem : Mem
  cqb : Word
  cqh : Word32
  cqt : Word32
  cqcsr : Word32
  fqb : Word
  fqh : Word32
  fqt : Word32
  fqcsr : Word32
  /-- The commands fetched, oldest first. -/
  fetched : List Command
  /-- The fault records accepted, oldest first. -/
  accepted : List Record
  /-- The accepted record that is not in the queue yet, with the number of its doublewords that are in memory. -/
  recording : Option (Record × Nat)

/-! ## Queue registers -/

/-- The queue's memory, from its base register: the page number is at `[53:10]`. -/
def queueBase (qb : Word) : Addr := (qb.extractLsb' 10 44).setWidth 64 <<< 12

/-- The bits of an index of the queue, from its base register: `LOG2SZ-1` is at `[4:0]`. -/
def indexMask (qb : Word) : Word32 := 2#32 <<< (qb.extractLsb' 0 5).toNat - 1#32

/-- The bits of `cqcsr` and `fqcsr` that a write of one clears. -/
def csrErrors : Word32 := 0xF00#32

/-- The bit of `cqcsr` and `fqcsr` that says that the queue is on. -/
def csrOn : Word32 := 1#32 <<< 16

/-- `fqcsr.fqof`: a record was discarded. -/
def csrOverflow : Word32 := 1#32 <<< 9

/-- The write enables the queue: its lowest bit goes from 0 to 1. -/
def enables (old new : Word32) : Bool := !old.getLsbD 0 && new.getLsbD 0

/-- What a write leaves in `cqcsr` or `fqcsr`: the two lowest bits are stored, an error bit is cleared by writing one and by
enabling the queue, the others are read-only. -/
def writeCsr (old new : Word32) : Word32 :=
  let cleared := if enables old new then csrErrors else new &&& csrErrors
  (old &&& ~~~(3#32 ||| cleared)) ||| (new &&& 3#32)

/-- The queue is enabled. -/
def Enabled (csr : Word32) : Prop := csr.getLsbD 0 = true

/-- The queue is on. -/
def On (csr : Word32) : Prop := csr.getLsbD 16 = true

instance (csr : Word32) : Decidable (Enabled csr) := inferInstanceAs (Decidable (_ = _))

instance (csr : Word32) : Decidable (On csr) := inferInstanceAs (Decidable (_ = _))

/-! ## Accesses of the driver -/

/-- A single access of the driver. -/
inductive Access where
  | read32 (r : Reg32)
  | write32 (r : Reg32) (v : Word32)
  | writeReg64 (r : Reg64) (v : Word)
  | read64 (a : Addr)
  | write64 (a : Addr) (v : Word)
  deriving DecidableEq

/-- What an access answers. -/
@[reducible] def Access.Answer : Access → Type
  | .read32 _ => Word32
  | .read64 _ => Word
  | _ => Unit

namespace Iommu

/-- The value of a register. -/
def reg32 (s : Iommu) : Reg32 → Word32
  | .cqh => s.cqh
  | .cqt => s.cqt
  | .fqh => s.fqh
  | .fqt => s.fqt
  | .cqcsr => s.cqcsr
  | .fqcsr => s.fqcsr

/-- A write to a register. The indices that the IOMMU owns are read-only, the driver's keep the bits of an index only, and
enabling a queue resets the index that the IOMMU owns. -/
def writeReg32 (s : Iommu) : Reg32 → Word32 → Iommu
  | .cqh, _ => s
  | .cqt, v => { s with cqt := v &&& indexMask s.cqb }
  | .fqh, v => { s with fqh := v &&& indexMask s.fqb }
  | .fqt, _ => s
  | .cqcsr, v => { s with cqcsr := writeCsr s.cqcsr v, cqh := if enables s.cqcsr v then 0#32 else s.cqh }
  | .fqcsr, v => { s with fqcsr := writeCsr s.fqcsr v, fqt := if enables s.fqcsr v then 0#32 else s.fqt }

/-- A write to a base register. -/
def writeReg64 (s : Iommu) : Reg64 → Word → Iommu
  | .cqb, v => { s with cqb := v }
  | .fqb, v => { s with fqb := v }

/-- The answer to an access and the state after it. -/
def access (s : Iommu) : (i : Access) → i.Answer × Iommu
  | .read32 r => (s.reg32 r, s)
  | .write32 r v => ((), s.writeReg32 r v)
  | .writeReg64 r v => ((), s.writeReg64 r v)
  | .read64 a => (load s.mem 8 a, s)
  | .write64 a v => ((), { s with mem := store s.mem 8 a v })

/-- The entry of the command queue at an index. -/
def command (s : Iommu) (i : Nat) : Command where
  dw0 := load s.mem 8 (queueBase s.cqb + BitVec.ofNat 64 (16 * i))
  dw1 := load s.mem 8 (queueBase s.cqb + BitVec.ofNat 64 (16 * i + 8))

/-- Where the doubleword `k` of the entry `i` of the fault queue is. -/
def recordAddr (s : Iommu) (i k : Nat) : Addr := queueBase s.fqb + BitVec.ofNat 64 (32 * i + 8 * k)

/-- The entry of the fault queue at an index. -/
def record (s : Iommu) (i : Nat) : Record where
  dw0 := load s.mem 8 (s.recordAddr i 0)
  dw1 := load s.mem 8 (s.recordAddr i 1)
  dw2 := load s.mem 8 (s.recordAddr i 2)
  dw3 := load s.mem 8 (s.recordAddr i 3)

/-- The fault queue has no room: the index after the tail is the head. -/
def Full (s : Iommu) : Prop := (s.fqt + 1#32) &&& indexMask s.fqb = s.fqh

instance (s : Iommu) : Decidable s.Full := inferInstanceAs (Decidable (_ = _))

end Iommu

/-! ## Steps of the IOMMU -/

/-- A step of the IOMMU on the command queue. -/
inductive CqStep : Iommu → Iommu → Prop where
  /-- The queue turns on after it was enabled. -/
  | on (s : Iommu) : Enabled s.cqcsr → CqStep s { s with cqcsr := s.cqcsr ||| csrOn }
  /-- The queue turns off after it was disabled. -/
  | off (s : Iommu) : ¬ Enabled s.cqcsr → CqStep s { s with cqcsr := s.cqcsr &&& ~~~csrOn }
  /-- The entry at the head is fetched. -/
  | fetch (s : Iommu) : On s.cqcsr → s.cqh ≠ s.cqt →
      CqStep s { s with cqh := (s.cqh + 1#32) &&& indexMask s.cqb, fetched := s.fetched ++ [s.command s.cqh.toNat] }

/-- A step of the IOMMU on the fault queue. A record is accepted, written one doubleword after the other, and only then put in
the queue by moving the tail. -/
inductive FqStep : Iommu → Iommu → Prop where
  /-- The queue turns on after it was enabled. -/
  | on (s : Iommu) : Enabled s.fqcsr → FqStep s { s with fqcsr := s.fqcsr ||| csrOn }
  /-- The queue turns off after it was disabled. -/
  | off (s : Iommu) : ¬ Enabled s.fqcsr → FqStep s { s with fqcsr := s.fqcsr &&& ~~~csrOn }
  /-- A fault occurs and the queue has room. -/
  | accept (s : Iommu) (r : Record) : On s.fqcsr → s.recording = none → ¬ s.Full →
      FqStep s { s with accepted := s.accepted ++ [r], recording := some (r, 0) }
  /-- A fault occurs and the queue has no room. -/
  | discard (s : Iommu) : On s.fqcsr → s.recording = none → s.Full → FqStep s { s with fqcsr := s.fqcsr ||| csrOverflow }
  /-- The next doubleword of the record is written. -/
  | write (s : Iommu) (r : Record) (k : Nat) : s.recording = some (r, k) → k < 4 →
      FqStep s { s with mem := store s.mem 8 (s.recordAddr s.fqt.toNat k) (r.dw k), recording := some (r, k + 1) }
  /-- The record is complete and the tail moves. -/
  | publish (s : Iommu) (r : Record) : s.recording = some (r, 4) →
      FqStep s { s with fqt := (s.fqt + 1#32) &&& indexMask s.fqb, recording := none }

/-- The driver's accesses on the IOMMU, between which the environment moves by `env`. -/
def Iommu.world (env : Iommu → Iommu → Prop) : World Access Access.Answer Iommu where
  sem i s r s' := s.access i = (r, s')
  env := env

end RvIommuTests
