import Mathlib.Logic.Function.Basic
import RvIommuTests.Platform

/-!
# The device directory table

`rv_iommu_dc.h`, `rv_iommu_dc.c`, and the functions of `rv_iommu.c` that write device contexts: `rv_iommu_ddt_init` and the six
mode setters. `MSI_TRANSLATION` is 1, so a context has eight words.
-/

namespace RvIommuTests

open Bytes

/-- `struct ddt`: a device context. -/
structure Dc where
  tc : Word
  iohgatp : Word
  ta : Word
  fsc : Word
  msiptp : Word
  msiAddrMask : Word
  msiAddrPattern : Word
  reserved : Word
  deriving DecidableEq

/-- `root_ddt`: the contexts by their index. -/
abbrev Ddt : Type := Nat → Dc

/-- `DDT_N_ENTRIES` -/
def ddtNEntries : Nat := 64

/-! ## `rv_iommu_dc.h` -/

/-- `IOSATP_MODE_BARE` -/
def iosatpModeBare : Word := 0x0#64 <<< 60
/-- `IOSATP_MODE_SV39` -/
def iosatpModeSv39 : Word := 0x8#64 <<< 60
/-- `IOHGATP_MODE_BARE` -/
def iohgatpModeBare : Word := 0x0#64 <<< 60
/-- `IOHGATP_MODE_SV39X4` -/
def iohgatpModeSv39x4 : Word := 0x8#64 <<< 60
/-- `MSIPTP_MODE_OFF` -/
def msiptpModeOff : Word := 0x0#64 <<< 60
/-- `MSIPTP_MODE_FLAT` -/
def msiptpModeFlat : Word := 0x1#64 <<< 60

/-- `MSI_ADDR_MASK` -/
def msiAddrMask : Word := 0x100286#64
/-- `MSI_ADDR_PATTERN` -/
def msiAddrPattern : Word := 0x000386#64

/-- `GSCID_OFF` -/
def gscidOff : Nat := 44
/-- `PSCID_OFF` -/
def pscidOff : Nat := 12

/-- `test_dc_tc_table[BASIC]`: `DC_TC_VALID`. -/
def dcTcBasic : Word := 1#64 <<< 0

/-! ## `rv_iommu_dc.c` -/

/-- `DID_MIN` and `DID_MAX` with the tables of identifiers. -/
structure DdtConfig where
  didMin : Nat
  didMax : Nat
  gscidArray : List Word
  pscidArray : List Word

/-- The identifiers of a device. -/
def DdtConfig.gscid (c : DdtConfig) (i : Nat) : Word := c.gscidArray.getD i 0#64

/-- The identifiers of a device. -/
def DdtConfig.pscid (c : DdtConfig) (i : Nat) : Word := c.pscidArray.getD i 0#64

/-- The constants of `rv_iommu_tests.h`, `GSCID_ARRAY` and `PSCID_ARRAY`. -/
def DdtConfig.platform : DdtConfig where
  didMin := RvIommuTests.didMin
  didMax := RvIommuTests.didMax
  gscidArray := List.replicate 16 0x0ABC#64
  pscidArray := List.replicate 16 0x0DEF#64

/-! ## `rv_iommu.c` -/

/-- `for (int i = first; n != 0; i++, n--) root_ddt[i] = f(i, root_ddt[i]);` -/
def Ddt.each (f : Nat → Dc → Dc) : Nat → Nat → Ddt → Ddt
  | 0, _, ddt => ddt
  | n + 1, i, ddt => Ddt.each f n (i + 1) (Function.update ddt i (f i (ddt i)))

/-- A loop over the devices in `[DID_MIN, DID_MAX]`. -/
def DdtConfig.forDids (c : DdtConfig) (f : Nat → Dc → Dc) (ddt : Ddt) : Ddt :=
  Ddt.each f (c.didMax + 1 - c.didMin) c.didMin ddt

/-- `rv_iommu_ddt_init` -/
def rvIommuDdtInit (c : DdtConfig) (link : Link) (ddt : Ddt) : Ddt :=
  let ddt := Ddt.each (fun _ dc => { dc with tc := 0#64 }) ddtNEntries 0 ddt
  c.forDids (fun i dc =>
    let dc := { dc with tc := dcTcBasic }
    let dc := { dc with iohgatp := (link.s2ptRoot >>> 12) ||| iohgatpModeBare }
    let dc := { dc with iohgatp := dc.iohgatp ||| (c.gscid i <<< gscidOff) }
    let dc := { dc with ta := c.pscid i <<< pscidOff }
    let dc := { dc with fsc := (link.s1pt >>> 12) ||| iosatpModeBare }
    let dc := { dc with msiptp := (link.msiPt >>> 12) ||| msiptpModeOff }
    let dc := { dc with msiAddrMask := msiAddrMask }
    let dc := { dc with msiAddrPattern := msiAddrPattern }
    { dc with reserved := 0#64 }) ddt

/-- The loop of the two `rv_iommu_set_iosatp` functions. -/
def setIosatp (c : DdtConfig) (link : Link) (mode : Word) : Ddt → Ddt :=
  c.forDids fun i dc =>
    let dc := { dc with ta := c.pscid i <<< pscidOff }
    { dc with fsc := (link.s1pt >>> 12) ||| mode }

/-- `rv_iommu_set_iosatp_bare` -/
def rvIommuSetIosatpBare (c : DdtConfig) (link : Link) : Ddt → Ddt := setIosatp c link iosatpModeBare

/-- `rv_iommu_set_iosatp_sv39` -/
def rvIommuSetIosatpSv39 (c : DdtConfig) (link : Link) : Ddt → Ddt := setIosatp c link iosatpModeSv39

/-- The loop of the two `rv_iommu_set_iohgatp` functions. -/
def setIohgatp (c : DdtConfig) (link : Link) (mode : Word) : Ddt → Ddt :=
  c.forDids fun i dc =>
    let dc := { dc with iohgatp := (link.s2ptRoot >>> 12) ||| mode }
    { dc with iohgatp := dc.iohgatp ||| (c.gscid i <<< gscidOff) }

/-- `rv_iommu_set_iohgatp_bare` -/
def rvIommuSetIohgatpBare (c : DdtConfig) (link : Link) : Ddt → Ddt := setIohgatp c link iohgatpModeBare

/-- `rv_iommu_set_iohgatp_sv39x4` -/
def rvIommuSetIohgatpSv39x4 (c : DdtConfig) (link : Link) : Ddt → Ddt := setIohgatp c link iohgatpModeSv39x4

/-- `rv_iommu_set_msi_off` -/
def rvIommuSetMsiOff (c : DdtConfig) (link : Link) : Ddt → Ddt :=
  c.forDids fun _ dc =>
    let dc := { dc with msiptp := (link.msiPt >>> 12) ||| msiptpModeOff }
    let dc := { dc with msiAddrMask := msiAddrMask }
    { dc with msiAddrPattern := msiAddrPattern }

/-- `rv_iommu_set_msi_flat`. It assigns the pattern twice, the first time from the mask. -/
def rvIommuSetMsiFlat (c : DdtConfig) (link : Link) : Ddt → Ddt :=
  c.forDids fun _ dc =>
    let dc := { dc with msiptp := (link.msiPt >>> 12) ||| msiptpModeFlat }
    let dc := { dc with msiAddrPattern := msiAddrMask }
    { dc with msiAddrPattern := msiAddrPattern }

/-- One of the six setters. -/
inductive DcSetter where
  | iosatpBare | iosatpSv39 | iohgatpBare | iohgatpSv39x4 | msiOff | msiFlat
  deriving DecidableEq

/-- What a setter does to the table. -/
def DcSetter.run (c : DdtConfig) (link : Link) : DcSetter → Ddt → Ddt
  | .iosatpBare => rvIommuSetIosatpBare c link
  | .iosatpSv39 => rvIommuSetIosatpSv39 c link
  | .iohgatpBare => rvIommuSetIohgatpBare c link
  | .iohgatpSv39x4 => rvIommuSetIohgatpSv39x4 c link
  | .msiOff => rvIommuSetMsiOff c link
  | .msiFlat => rvIommuSetMsiFlat c link

end RvIommuTests
