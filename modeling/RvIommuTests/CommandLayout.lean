import RvIommuTests.Commands

/-!
# The command layout

How the IOMMU reads a command: the fields of the two doublewords of `IOTINVAL` and `IODIR` commands, reserved bits included,
so that every bit of a command belongs to exactly one field. This is the abstract side of the encoders: it is not translated
from the driver.
-/

namespace RvIommuTests

/-- The fields of an `IOTINVAL` command, its operands as words. -/
structure IotinvalFields where
  opcode : BitVec 7
  func3 : BitVec 3
  av : Bool
  rsvd11 : Bool
  pscid : Word
  pscv : Bool
  gv : Bool
  rsvd34 : BitVec 10
  gscid : Word
  rsvd60 : BitVec 4
  rsvd64 : BitVec 10
  addr : Word
  rsvd126 : BitVec 2
  deriving DecidableEq

/-- The fields of an `IODIR` command, its operand as a word. -/
structure IodirFields where
  opcode : BitVec 7
  func3 : BitVec 3
  rsvd10 : BitVec 2
  pid : BitVec 20
  rsvd32 : Bool
  dv : Bool
  rsvd34 : BitVec 6
  did : Word
  rsvd64 : BitVec 64
  deriving DecidableEq

/-- The fields of an `IOFENCE` command, with its second doubleword whole. -/
structure IofenceFields where
  opcode : BitVec 7
  func3 : BitVec 3
  av : Bool
  wsi : Bool
  pr : Bool
  pw : Bool
  rsvd14 : BitVec 18
  data : BitVec 32
  dw1 : Word
  deriving DecidableEq

/-- Reading a command as `IOTINVAL`. -/
def Command.iotinval (c : Command) : IotinvalFields where
  opcode := c.dw0.extractLsb' 0 7
  func3 := c.dw0.extractLsb' 7 3
  av := c.dw0.getLsbD 10
  rsvd11 := c.dw0.getLsbD 11
  pscid := (c.dw0.extractLsb' 12 20).setWidth 64
  pscv := c.dw0.getLsbD 32
  gv := c.dw0.getLsbD 33
  rsvd34 := c.dw0.extractLsb' 34 10
  gscid := (c.dw0.extractLsb' 44 16).setWidth 64
  rsvd60 := c.dw0.extractLsb' 60 4
  rsvd64 := c.dw1.extractLsb' 0 10
  addr := (c.dw1.extractLsb' 10 52).setWidth 64
  rsvd126 := c.dw1.extractLsb' 62 2

/-- Reading a command as `IODIR`. -/
def Command.iodir (c : Command) : IodirFields where
  opcode := c.dw0.extractLsb' 0 7
  func3 := c.dw0.extractLsb' 7 3
  rsvd10 := c.dw0.extractLsb' 10 2
  pid := c.dw0.extractLsb' 12 20
  rsvd32 := c.dw0.getLsbD 32
  dv := c.dw0.getLsbD 33
  rsvd34 := c.dw0.extractLsb' 34 6
  did := (c.dw0.extractLsb' 40 24).setWidth 64
  rsvd64 := c.dw1

/-- Reading a command as `IOFENCE`. -/
def Command.iofence (c : Command) : IofenceFields where
  opcode := c.dw0.extractLsb' 0 7
  func3 := c.dw0.extractLsb' 7 3
  av := c.dw0.getLsbD 10
  wsi := c.dw0.getLsbD 11
  pr := c.dw0.getLsbD 12
  pw := c.dw0.getLsbD 13
  rsvd14 := c.dw0.extractLsb' 14 18
  data := c.dw0.extractLsb' 32 32
  dw1 := c.dw1

/-- An operand counts when its flag is set, and reads as zero otherwise. -/
def enabled (flag : Bool) (operand : Word) : Word := if flag then operand else 0#64

/-- The operands fit their fields. -/
def Inval.InRange : Inval → Prop
  | .ddtInval _ deviceId => Fields.Fits deviceId 24
  | .iotinvalVma _ _ _ _ gscid pscid => Fields.Fits gscid 16 ∧ Fields.Fits pscid 20
  | .iotinvalGvma _ _ _ gscid => Fields.Fits gscid 16

instance : DecidablePred Inval.InRange
  | .ddtInval _ deviceId => inferInstanceAs (Decidable (Fields.Fits deviceId 24))
  | .iotinvalVma _ _ _ _ gscid pscid => inferInstanceAs (Decidable (Fields.Fits gscid 16 ∧ Fields.Fits pscid 20))
  | .iotinvalGvma _ _ _ gscid => inferInstanceAs (Decidable (Fields.Fits gscid 16))

/-- Whether a call gives an address. The DDT invalidation has no address operand. -/
def Inval.av : Inval → Bool
  | .ddtInval _ _ => false
  | .iotinvalVma av _ _ _ _ _ => av
  | .iotinvalGvma av _ _ _ => av

/-- The command reads back as the arguments of the call, and as zero in every reserved field. -/
def Inval.ReadsBack (c : Command) : Inval → Prop
  | .ddtInval dv deviceId =>
    c.iodir =
      { opcode := 3#7, func3 := 0#3, rsvd10 := 0#2, pid := 0#20, rsvd32 := false, dv := dv, rsvd34 := 0#6,
        did := enabled dv deviceId, rsvd64 := 0#64 }
  | .iotinvalVma av gv pscv addr gscid pscid =>
    c.iotinval =
      { opcode := 1#7, func3 := 0#3, av := av, rsvd11 := false, pscid := enabled pscv pscid, pscv := pscv, gv := gv,
        rsvd34 := 0#10, gscid := enabled gv gscid, rsvd60 := 0#4, rsvd64 := 0#10, addr := enabled av (addr >>> 12),
        rsvd126 := 0#2 }
  | .iotinvalGvma av gv addr gscid =>
    c.iotinval =
      { opcode := 1#7, func3 := 1#3, av := av, rsvd11 := false, pscid := 0#64, pscv := false, gv := gv, rsvd34 := 0#10,
        gscid := enabled gv gscid, rsvd60 := 0#4, rsvd64 := 0#10, addr := enabled av (addr >>> 12), rsvd126 := 0#2 }

/-- The call with its enabled arguments only, its address by page: two calls with the same one ask for the same. -/
def Inval.asked : Inval → Inval
  | .ddtInval dv deviceId => .ddtInval dv (enabled dv deviceId)
  | .iotinvalVma av gv pscv addr gscid pscid =>
    .iotinvalVma av gv pscv (enabled av (addr >>> 12)) (enabled gv gscid) (enabled pscv pscid)
  | .iotinvalGvma av gv addr gscid => .iotinvalGvma av gv (enabled av (addr >>> 12)) (enabled gv gscid)

/-- What is left of a call in its command: the enabled arguments, but of the page with its lowest bit overwritten. -/
def Inval.sent : Inval → Inval
  | .ddtInval dv deviceId => .ddtInval dv (enabled dv deviceId)
  | .iotinvalVma av gv pscv addr gscid pscid =>
    .iotinvalVma av gv pscv (enabled av (addr >>> 12 ||| 1)) (enabled gv gscid) (enabled pscv pscid)
  | .iotinvalGvma av gv addr gscid => .iotinvalGvma av gv (enabled av (addr >>> 12 ||| 1)) (enabled gv gscid)

/-- A command of `rv_iommu_iofence_c` reads back as its flags, with the data and the address when AV is set. -/
def DriverCall.FenceReadsBack (c : Command) : DriverCall → Prop
  | .iofenceC wsi av =>
    c.iofence =
      { opcode := 2#7, func3 := 0#3, av := av, wsi := wsi, pr := false, pw := false, rsvd14 := 0#18,
        data := if av then iofenceData.setWidth 32 else 0#32, dw1 := enabled av (iofenceAddr >>> 2) }
  | _ => True

end RvIommuTests
