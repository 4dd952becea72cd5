import RvIommuTests.Lib.Fields
import RvIommuTests.Platform

/-!
# The commands the driver builds

The encodings of `rv_iommu_cq.h` and, of each command-issuing function of `rv_iommu.c`, the two doublewords it hands to
`rv_iommu_write_command_in_queue`. The local array `new_cmd` is not initialised by its declaration, so every builder starts
from whatever the stack held there (`newCmd`).
-/

namespace RvIommuTests

/-- `command_t`: the two doublewords of a command. -/
structure Command where
  dw0 : Word
  dw1 : Word
  deriving DecidableEq

/-! ## `rv_iommu_cq.h` -/

/-- `IOTINVAL` -/
def iotinvalOp : Word := 0x1#64 <<< 0
/-- `IOFENCE` -/
def iofenceOp : Word := 0x2#64 <<< 0
/-- `IODIR` -/
def iodirOp : Word := 0x3#64 <<< 0

/-- `VMA` -/
def vma : Word := 0#64 <<< 7
/-- `GVMA` -/
def gvma : Word := 1#64 <<< 7
/-- `FUNC3_C` -/
def func3C : Word := 0#64 <<< 7
/-- `INVAL_DDT` -/
def invalDdt : Word := 0#64 <<< 7

/-- `IOTINVAL_AV` -/
def iotinvalAv : Word := 1#64 <<< 10
/-- `IOTINVAL_GV` -/
def iotinvalGv : Word := 1#64 <<< 33
/-- `IOTINVAL_PSCV` -/
def iotinvalPscv : Word := 1#64 <<< 32

/-- `IOFENCE_AV` -/
def iofenceAv : Word := 1#64 <<< 10
/-- `IOFENCE_WSI` -/
def iofenceWsi : Word := 1#64 <<< 11
/-- `IOFENCE_ADDR` -/
def iofenceAddr : Word := 0x82000000#64
/-- `IOFENCE_DATA` -/
def iofenceData : Word := 0xABCDEF#64

/-- `IODIR_DV` -/
def iodirDv : Word := 1#64 <<< 33

/-- `IOTINVAL_PSCID_OFF` -/
def iotinvalPscidOff : Nat := 12
/-- `IOTINVAL_GSCID_OFF` -/
def iotinvalGscidOff : Nat := 44
/-- `IOTINVAL_IOVA_OFF` -/
def iotinvalIovaOff : Nat := 10
/-- `IODIR_DID_OFF` -/
def iodirDidOff : Nat := 40

/-! ## The builders -/

/-- The command of `rv_iommu_induce_fault_cq`. -/
def rvIommuInduceFaultCq (newCmd : Command) : Command :=
  let newCmd := { newCmd with dw0 := iotinvalOp ||| gvma }
  -- PSCV is invalid for IOTINVAL.GVMA
  let newCmd := { newCmd with dw0 := newCmd.dw0 ||| iotinvalPscv }
  { newCmd with dw1 := 0#64 }

/-- The command of `rv_iommu_ddt_inval`. -/
def rvIommuDdtInval (newCmd : Command) (dv : Bool) (deviceId : Word) : Command :=
  let newCmd := { newCmd with dw0 := iodirOp ||| invalDdt }
  let newCmd := if dv then { newCmd with dw0 := newCmd.dw0 ||| (iodirDv ||| (deviceId <<< iodirDidOff)) } else newCmd
  { newCmd with dw1 := 0#64 }

/-- The command of `rv_iommu_iotinval_vma`. -/
def rvIommuIotinvalVma (newCmd : Command) (av gv pscv : Bool) (addr gscid pscid : Word) : Command :=
  let newCmd := { newCmd with dw0 := iotinvalOp ||| vma }
  let newCmd := if gv then { newCmd with dw0 := newCmd.dw0 ||| (iotinvalGv ||| (gscid <<< iotinvalGscidOff)) } else newCmd
  let newCmd :=
    if pscv then { newCmd with dw0 := newCmd.dw0 ||| (iotinvalPscv ||| (pscid <<< iotinvalPscidOff)) } else newCmd
  let newCmd := { newCmd with dw1 := 0#64 }
  -- the flag goes to the same doubleword as the address
  if av then { newCmd with dw1 := newCmd.dw1 ||| (iotinvalAv ||| ((addr >>> 12) <<< iotinvalIovaOff)) } else newCmd

/-- The command of `rv_iommu_iotinval_gvma`. -/
def rvIommuIotinvalGvma (newCmd : Command) (av gv : Bool) (addr gscid : Word) : Command :=
  let newCmd := { newCmd with dw0 := iotinvalOp ||| gvma }
  let newCmd := if gv then { newCmd with dw0 := newCmd.dw0 ||| (iotinvalGv ||| (gscid <<< iotinvalGscidOff)) } else newCmd
  let newCmd := { newCmd with dw1 := 0#64 }
  if av then { newCmd with dw1 := newCmd.dw1 ||| (iotinvalAv ||| ((addr >>> 12) <<< iotinvalIovaOff)) } else newCmd

/-- The command of `rv_iommu_iofence_c`. -/
def rvIommuIofenceC (newCmd : Command) (wsi av : Bool) : Command :=
  let newCmd := { newCmd with dw0 := iofenceOp ||| func3C }
  let newCmd := if wsi then { newCmd with dw0 := newCmd.dw0 ||| iofenceWsi } else newCmd
  -- the second doubleword is assigned on this branch only
  if av then { dw0 := (newCmd.dw0 ||| iofenceAv) ||| (iofenceData <<< 32), dw1 := iofenceAddr >>> 2 } else newCmd

/-- A call of one of the three invalidation functions, with its arguments. -/
inductive Inval where
  | ddtInval (dv : Bool) (deviceId : Word)
  | iotinvalVma (av gv pscv : Bool) (addr gscid pscid : Word)
  | iotinvalGvma (av gv : Bool) (addr gscid : Word)
  deriving DecidableEq

/-- The command an invalidation call builds. -/
def Inval.command (newCmd : Command) : Inval → Command
  | .ddtInval dv deviceId => rvIommuDdtInval newCmd dv deviceId
  | .iotinvalVma av gv pscv addr gscid pscid => rvIommuIotinvalVma newCmd av gv pscv addr gscid pscid
  | .iotinvalGvma av gv addr gscid => rvIommuIotinvalGvma newCmd av gv addr gscid

/-- A call of one of the five command-issuing functions, with its arguments. -/
inductive DriverCall where
  | inval (i : Inval)
  | iofenceC (wsi av : Bool)
  | induceFaultCq
  deriving DecidableEq

/-- The command a call builds. -/
def DriverCall.command (newCmd : Command) : DriverCall → Command
  | .inval i => i.command newCmd
  | .iofenceC wsi av => rvIommuIofenceC newCmd wsi av
  | .induceFaultCq => rvIommuInduceFaultCq newCmd

end RvIommuTests
