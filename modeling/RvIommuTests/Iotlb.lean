import RvIommuTests.AddressMap
import RvIommuTests.CommandLayout
import RvIommuTests.Tests

/-!
# The page-table entries the IOMMU keeps

The IOMMU as the tests see it through the page tables: it may keep every entry that a walk has read until it executes a command
that covers it, and use it instead of the one in memory. Commands wait in the queue until the IOMMU gets to them. The translation
is the one with the context in `root_ddt`: which context the IOMMU uses is the subject of another model.
-/

namespace RvIommuTests

open Bytes Paging Shared

/-! ## Translation -/

/-- The entries of each stage that a translation uses, by their physical addresses. -/
abbrev Reads : Type := Stage → Nat → Pte

/-- The entry in memory. -/
def entryAt (m : Mem) (a : Nat) : Pte := load m 8 (BitVec.ofNat 64 a)

/-- Every entry is read from memory. -/
def memReads (m : Mem) : Reads := fun _ => entryAt m

/-- What a request is translated to. -/
inductive Translated where
  /-- An address of the MSI pages, which goes on through the MSI page table. -/
  | msi (gpa : Nat) (flags : Word)
  /-- An address, and the flags of the leaves of both stages. -/
  | page (spa : Nat) (flags₁ flags₂ : Word)
  deriving DecidableEq

namespace Dc

/-- The first stage is Sv39, not Bare. -/
def sv39 (dc : Dc) : Bool := dc.fsc.extractLsb' 60 4 == 8#4

/-- The second stage is Sv39x4, not Bare. -/
def sv39x4 (dc : Dc) : Bool := dc.iohgatp.extractLsb' 60 4 == 8#4

/-- The root table of a stage. -/
def root (dc : Dc) : Stage → Nat
  | .first => (dc.fsc.extractLsb' 0 44).toNat * 2 ^ 12
  | .second => (dc.iohgatp.extractLsb' 0 44).toNat * 2 ^ 12

/-- The GSCID -/
def gscid (dc : Dc) : Word := (dc.iohgatp.extractLsb' 44 16).setWidth 64

/-- The PSCID -/
def pscid (dc : Dc) : Word := (dc.ta.extractLsb' 12 20).setWidth 64

/-- A guest physical address is one of the MSI pages. -/
def isMsi (dc : Dc) (gpa : Nat) : Bool :=
  dc.msiptp.extractLsb' 60 4 == 1#4 &&
    (BitVec.ofNat 64 (gpa / 2 ^ 12) &&& ~~~dc.msiAddrMask) == (dc.msiAddrPattern &&& ~~~dc.msiAddrMask)

/-- The second stage. -/
def secondStage (dc : Dc) (r : Reads) (write : Bool) (gpa : Nat) : Option (Nat × Word) :=
  if dc.sv39x4 then walk Paging.sv39x4 (fun a => some (r .second a)) write (dc.root .second) gpa else some (gpa, 0#64)

/-- How the first stage reads an entry: the tables are at guest physical addresses. -/
def firstRead (dc : Dc) (r : Reads) (gpa : Nat) : Option Pte :=
  (dc.secondStage r false gpa).map fun x => r .first x.1

/-- The first stage. -/
def firstStage (dc : Dc) (r : Reads) (write : Bool) (iova : Nat) : Option (Nat × Word) :=
  if dc.sv39 then walk Paging.sv39 (dc.firstRead r) write (dc.root .first) iova else some (iova, 0#64)

/-- The translation of an address, by both stages. -/
def translate (dc : Dc) (r : Reads) (write : Bool) (iova : Nat) : Option Translated :=
  (dc.firstStage r write iova).bind fun x =>
    if dc.isMsi x.1 then some (.msi x.1 x.2)
    else (dc.secondStage r write x.1).map fun y => .page y.1 x.2 y.2

/-- A walk of a stage reads the entry at a physical address. -/
inductive Reaches (dc : Dc) (r : Reads) : Stage → Nat → Prop where
  | first (write : Bool) (iova gpa spa : Nat) (flags : Word) : dc.sv39 = true →
      gpa ∈ visited Paging.sv39 (dc.firstRead r) write iova 2 (dc.root .first) →
      dc.secondStage r false gpa = some (spa, flags) → Reaches dc r .first spa
  | second (write : Bool) (gpa a : Nat) : dc.sv39x4 = true →
      a ∈ visited Paging.sv39x4 (fun a => some (r .second a)) write gpa 2 (dc.root .second) → Reaches dc r .second a

end Dc

/-! ## The kept entries -/

/-- An entry that the IOMMU keeps, with the identifiers of the context that it was read for. -/
structure Kept where
  stage : Stage
  gscid : Word
  pscid : Word
  addr : Nat
  pte : Pte
  deriving DecidableEq

/-- The command makes the IOMMU give up all entries of a stage for a context: `IOTINVAL.VMA` with its GSCID, and its PSCID or none,
or `IOTINVAL.GVMA` with its GSCID or none. One with an address leaves other entries, and counts for none. -/
def Command.flushes (c : Command) (gscid pscid : Word) : Stage → Bool
  | .first => c.iotinval.opcode == 1#7 && c.iotinval.func3 == 0#3 && !c.iotinval.av && c.iotinval.gv &&
      c.iotinval.gscid == gscid && (!c.iotinval.pscv || c.iotinval.pscid == pscid)
  | .second => c.iotinval.opcode == 1#7 && c.iotinval.func3 == 1#3 && !c.iotinval.av && !c.iotinval.pscv &&
      (!c.iotinval.gv || c.iotinval.gscid == gscid)

/-- The addresses that the requests of an operation are for. -/
def Op.addresses : Op → List Word
  | .transfer src dst => [src, dst]
  | .debug iova => [iova]
  | _ => []

/-- The page tables, the commands that are queued, and the IOMMU. -/
structure TlbSys where
  mode : DdtpMode
  rootDdt : Ddt
  mem : Mem
  /-- The commands that the IOMMU has not executed. -/
  queue : List Command
  kept : List Kept
  /-- The addresses for which requests are under way. -/
  request : List Word
  /-- For each request that was translated, what it was translated to and what it is translated to with the tables in memory. -/
  log : List (Option Translated × Option Translated)

namespace TlbSys

/-- The context of the device under test. -/
def dc (s : TlbSys) : Dc := s.rootDdt idmaId.toNat

/-- Each entry is the one in memory, or one that the IOMMU keeps for the context. -/
def Available (s : TlbSys) (r : Reads) : Prop :=
  ∀ stage a, r stage a = entryAt s.mem a ∨ ⟨stage, s.dc.gscid, s.dc.pscid, a, r stage a⟩ ∈ s.kept

/-- What an operation that is done at once does. -/
def drive (c : DdtConfig) (link : Link) (s : TlbSys) : Op → Command → TlbSys
  | .setMode mode, _ => { s with mode := mode }
  | .setDc setter, _ => { s with rootDdt := setter.run c link s.rootDdt }
  | .issue call, newCmd => { s with queue := s.queue ++ [call.command newCmd] }
  | .s1ptSwitch, _ => { s with mem := s1ptSwitch link s.mem }
  | .s2ptSwitch, _ => { s with mem := s2ptSwitch link s.mem }
  | _, _ => s

/-- A step of the IOMMU. -/
inductive Step : TlbSys → TlbSys → Prop where
  /-- The next command is executed. -/
  | execute (s : TlbSys) (c : Command) (cs : List Command) : s.queue = c :: cs →
      Step s { s with queue := cs, kept := s.kept.filter fun e => !c.flushes e.gscid e.pscid e.stage }
  /-- An entry that a walk reads is kept. -/
  | keep (s : TlbSys) (r : Reads) (stage : Stage) (a : Nat) : s.mode = .oneLvl → s.Available r → s.dc.Reaches r stage a →
      Step s { s with kept := ⟨stage, s.dc.gscid, s.dc.pscid, a, r stage a⟩ :: s.kept }
  /-- A request is translated. -/
  | serve (s : TlbSys) (r : Reads) (iova : Word) (write : Bool) : s.mode = .oneLvl → s.Available r → iova ∈ s.request →
      Step s { s with
        log := s.log ++ [(s.dc.translate r write iova.toNat, s.dc.translate (memReads s.mem) write iova.toNat)] }
  /-- The requests that are under way are done. -/
  | finish (s : TlbSys) : Step s { s with request := [] }

/-- The tests' accesses, between which the IOMMU steps. -/
def world (c : DdtConfig) (link : Link) : World TestAccess TestAccess.Answer TlbSys where
  sem
    | .drive o, s, _, s' => ∃ newCmd, s' = s.drive c link o newCmd
    | .start o, s, accepted, s' => s' = if accepted = true then { s with request := o.addresses } else s
    | .finished, s, done, s' => s' = s ∧ (done = true ↔ s.request = [])
  env := Step

/-- After `init_iommu`, with the IOMMU fresh from its reset. -/
def init (c : DdtConfig) (link : Link) (ddt : Ddt) (m : Mem) : TlbSys where
  mode := .off
  rootDdt := rvIommuDdtInit c link ddt
  mem := s1ptInit Config.platform link (s2ptInit Config.platform link m)
  queue := []
  kept := []
  request := []
  log := []

/-- Every request was translated as with the tables in memory. -/
def Fresh (s : TlbSys) : Prop := ∀ u ∈ s.log, u.1 = u.2

/-- A launch finds no `IOTINVAL` with a GSCID in the queue. -/
def Drained : TestAccess → TlbSys → Prop
  | .start _, s => ∀ c ∈ s.queue, c.iotinval.opcode = 1#7 → c.iotinval.gv = false
  | _, _ => True

end TlbSys

end RvIommuTests
