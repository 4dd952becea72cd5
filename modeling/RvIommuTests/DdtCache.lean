import RvIommuTests.CommandLayout
import RvIommuTests.Tests

/-!
# The device contexts the IOMMU uses

The IOMMU as the tests see it through `root_ddt`: in 1LVL mode a request is translated with the device's context in memory, or
with one that the IOMMU has read before and kept. It may keep a context until an `IODIR.INVAL_DDT` that covers the device, which
counts here from the moment it is queued.
-/

namespace RvIommuTests

open Shared

/-- The command is an `IODIR.INVAL_DDT` that covers a device. -/
def Command.coversDevice (c : Command) (did : Nat) : Bool :=
  c.iodir.opcode == 3#7 && c.iodir.func3 == 0#3 && (!c.iodir.dv || c.iodir.did.toNat == did)

/-- The device directory and the IOMMU. -/
structure DdtSys where
  mode : DdtpMode
  rootDdt : Ddt
  /-- The contexts that the IOMMU keeps. -/
  ddtc : Nat → Option Dc
  /-- The device whose requests are under way. -/
  request : Option Nat
  /-- For each request that was translated, the context it was translated with and the one in `root_ddt` then. -/
  used : List (Dc × Dc)

namespace DdtSys

/-- What an operation that is done at once does. -/
def drive (c : DdtConfig) (link : Link) (s : DdtSys) : Op → Command → DdtSys
  | .setMode mode, _ => { s with mode := mode }
  | .setDc setter, _ => { s with rootDdt := setter.run c link s.rootDdt }
  | .issue call, newCmd =>
    { s with ddtc := fun did => if (call.command newCmd).coversDevice did then none else s.ddtc did }
  | _, _ => s

/-- A step of the IOMMU. -/
inductive Step : DdtSys → DdtSys → Prop where
  /-- A request is translated with a context that was kept. -/
  | hit (s : DdtSys) (did : Nat) (dc : Dc) : s.mode = .oneLvl → s.request = some did → s.ddtc did = some dc →
      Step s { s with used := s.used ++ [(dc, s.rootDdt did)] }
  /-- A request is translated with the context in memory, which is kept. -/
  | walk (s : DdtSys) (did : Nat) : s.mode = .oneLvl → s.request = some did →
      Step s { s with
        used := s.used ++ [(s.rootDdt did, s.rootDdt did)]
        ddtc := Function.update s.ddtc did (some (s.rootDdt did)) }
  /-- A context is not kept any longer. -/
  | evict (s : DdtSys) (did : Nat) : Step s { s with ddtc := Function.update s.ddtc did none }
  /-- The requests that are under way are done. -/
  | finish (s : DdtSys) : Step s { s with request := none }

/-- The tests' accesses, between which the IOMMU steps. All requests are the ones of the device `idma_ids[0]`. -/
def world (c : DdtConfig) (link : Link) : World TestAccess TestAccess.Answer DdtSys where
  sem
    | .drive o, s, _, s' => ∃ newCmd, s' = s.drive c link o newCmd
    | .start _, s, accepted, s' => s' = if accepted = true then { s with request := some idmaId.toNat } else s
    | .finished, s, done, s' => s' = s ∧ (done = true ↔ s.request = none)
  env := Step

/-- After `init_iommu`, with the IOMMU fresh from its reset: it has not read any context. -/
def init (c : DdtConfig) (link : Link) (ddt : Ddt) : DdtSys where
  mode := .off
  rootDdt := rvIommuDdtInit c link ddt
  ddtc := fun _ => none
  request := none
  used := []

/-- Every request was translated with the context in `root_ddt`. -/
def Coherent (s : DdtSys) : Prop := ∀ u ∈ s.used, u.1 = u.2

end DdtSys

/-! ## When the contexts are invalidated -/

/-- The modes in the context of a device: whether they are `SV39`, `SV39X4` and `FLAT`. -/
structure DcModes where
  iosatp : Bool
  iohgatp : Bool
  msiptp : Bool
  deriving DecidableEq

namespace DcModes

/-- The modes after `rv_iommu_ddt_init`. -/
def reset : DcModes := ⟨false, false, false⟩

/-- The modes after one of the setters. -/
def set (m : DcModes) : DcSetter → DcModes
  | .iosatpBare => { m with iosatp := false }
  | .iosatpSv39 => { m with iosatp := true }
  | .iohgatpBare => { m with iohgatp := false }
  | .iohgatpSv39x4 => { m with iohgatp := true }
  | .msiOff => { m with msiptp := false }
  | .msiFlat => { m with msiptp := true }

/-- The modes after the setters among some operations. -/
def after (m : DcModes) : List Op → DcModes
  | [] => m
  | .setDc setter :: os => (m.set setter).after os
  | _ :: os => m.after os

end DcModes

/-- The test launches requests in 1LVL mode. -/
def Test.usesDdt (t : Test) : Bool := t.ops.contains (.setMode .oneLvl) && t.ops.any Op.launches

/-- The test issues `IODIR.INVAL_DDT`. -/
def Test.invalidates (t : Test) : Bool := t.ops.contains ddtInvalAll

/-- A test that launches requests in 1LVL mode, and does not issue `IODIR.INVAL_DDT`, runs before all others that launch requests
in 1LVL mode (`used` says whether there have been some), or its setters leave the modes as they were. -/
def Refreshed (m : DcModes) (used : Bool) : List Test → Prop
  | [] => True
  | t :: ts =>
    (t.usesDdt = true → t.invalidates = false → used = true → m.after t.ops = m) ∧
    Refreshed (m.after t.ops) (used || t.usesDdt) ts

instance Refreshed.decidable : (m : DcModes) → (used : Bool) → (ts : List Test) → Decidable (Refreshed m used ts)
  | _, _, [] => inferInstanceAs (Decidable True)
  | m, used, t :: ts =>
    have := Refreshed.decidable (m.after t.ops) (used || t.usesDdt) ts
    inferInstanceAs (Decidable (_ ∧ _))

end RvIommuTests
