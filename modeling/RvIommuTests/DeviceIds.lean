import RvIommuTests.ContextLayout

/-!
# The tables of identifiers within their bounds

The functions of `rv_iommu.c` that read `GSCID_ARRAY` and `PSCID_ARRAY`, with every access to an array checked against its declared
size. A function that makes an access outside of an array has no result.
-/

namespace RvIommuTests

open Bytes

/-- The functions that read the tables of identifiers. -/
inductive IdReader where
  | ddtInit | iosatpBare | iosatpSv39 | iohgatpBare | iohgatpSv39x4

/-- The sizes that `rv_iommu_dc.c` declares the tables of identifiers with. -/
structure DdtConfig.Declared (c : DdtConfig) : Prop where
  gscid : c.gscidArray.length = 16
  pscid : c.pscidArray.length = 16

/-! ## Loops with their bounds -/

/-- A loop over `root_ddt` whose body may make an access outside of an array. -/
def Ddt.eachWithin (f : Nat → Dc → Option Dc) : Nat → Nat → Ddt → Option Ddt
  | 0, _, ddt => some ddt
  | n + 1, i, ddt =>
    if i < ddtNEntries then (f i (ddt i)).bind fun dc => Ddt.eachWithin f n (i + 1) (Function.update ddt i dc) else none

/-- A loop over the devices in `[DID_MIN, DID_MAX]`. -/
def DdtConfig.forDidsWithin (c : DdtConfig) (f : Nat → Dc → Option Dc) (ddt : Ddt) : Option Ddt :=
  Ddt.eachWithin f (c.didMax + 1 - c.didMin) c.didMin ddt

namespace IdReader

/-- `rv_iommu_ddt_init` -/
def ddtInitWithin (c : DdtConfig) (link : Link) (ddt : Ddt) : Option Ddt := do
  let ddt ← Ddt.eachWithin (fun _ dc => some { dc with tc := 0#64 }) ddtNEntries 0 ddt
  c.forDidsWithin (fun i dc => do
    let dc := { dc with tc := dcTcBasic }
    let dc := { dc with iohgatp := (link.s2ptRoot >>> 12) ||| iohgatpModeBare }
    let gscid ← c.gscidArray[i]?
    let dc := { dc with iohgatp := dc.iohgatp ||| (gscid <<< gscidOff) }
    let pscid ← c.pscidArray[i]?
    let dc := { dc with ta := pscid <<< pscidOff }
    let dc := { dc with fsc := (link.s1pt >>> 12) ||| iosatpModeBare }
    let dc := { dc with msiptp := (link.msiPt >>> 12) ||| msiptpModeOff }
    let dc := { dc with msiAddrMask := msiAddrMask }
    let dc := { dc with msiAddrPattern := msiAddrPattern }
    some { dc with reserved := 0#64 }) ddt

/-- The loop of the two `rv_iommu_set_iosatp` functions. -/
def setIosatpWithin (c : DdtConfig) (link : Link) (mode : Word) : Ddt → Option Ddt :=
  c.forDidsWithin fun i dc => do
    let pscid ← c.pscidArray[i]?
    let dc := { dc with ta := pscid <<< pscidOff }
    some { dc with fsc := (link.s1pt >>> 12) ||| mode }

/-- The loop of the two `rv_iommu_set_iohgatp` functions. -/
def setIohgatpWithin (c : DdtConfig) (link : Link) (mode : Word) : Ddt → Option Ddt :=
  c.forDidsWithin fun i dc => do
    let dc := { dc with iohgatp := (link.s2ptRoot >>> 12) ||| mode }
    let gscid ← c.gscidArray[i]?
    some { dc with iohgatp := dc.iohgatp ||| (gscid <<< gscidOff) }

/-- The function with its bounds. -/
def within (c : DdtConfig) (link : Link) : IdReader → Ddt → Option Ddt
  | ddtInit => ddtInitWithin c link
  | iosatpBare => setIosatpWithin c link iosatpModeBare
  | iosatpSv39 => setIosatpWithin c link iosatpModeSv39
  | iohgatpBare => setIohgatpWithin c link iohgatpModeBare
  | iohgatpSv39x4 => setIohgatpWithin c link iohgatpModeSv39x4

/-- The function. -/
def run (c : DdtConfig) (link : Link) : IdReader → Ddt → Ddt
  | ddtInit => rvIommuDdtInit c link
  | iosatpBare => rvIommuSetIosatpBare c link
  | iosatpSv39 => rvIommuSetIosatpSv39 c link
  | iohgatpBare => rvIommuSetIohgatpBare c link
  | iohgatpSv39x4 => rvIommuSetIohgatpSv39x4 c link

/-- The function writes the GSCID of a context. -/
def setsGscid : IdReader → Bool
  | ddtInit | iohgatpBare | iohgatpSv39x4 => true
  | _ => false

/-- The function writes the PSCID of a context. -/
def setsPscid : IdReader → Bool
  | ddtInit | iosatpBare | iosatpSv39 => true
  | _ => false

/-- The function makes no access outside of an array, and each context in the range has then the identifiers that its own entries
of the tables hold. -/
structure Safe (f : IdReader) (c : DdtConfig) (link : Link) (ddt : Ddt) : Prop where
  within : f.within c link ddt = some (f.run c link ddt)
  gscid : f.setsGscid = true → ∀ i, c.HasDid i →
    ∃ x, c.gscidArray[i]? = some x ∧ ((f.run c link ddt i).fields.gscid).setWidth 64 = x
  pscid : f.setsPscid = true → ∀ i, c.HasDid i →
    ∃ x, c.pscidArray[i]? = some x ∧ ((f.run c link ddt i).fields.pscid).setWidth 64 = x

end IdReader

end RvIommuTests
