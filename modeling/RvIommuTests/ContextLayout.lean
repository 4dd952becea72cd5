import RvIommuTests.DeviceContext

/-!
# The layout of a device context

How the IOMMU reads a device context: its fields with the reserved bits between them, so that every bit of a context belongs to
exactly one field. And what the setters are meant to do to these fields, each to those of its kind. This is the abstract side of
the setters: it is not translated from the driver.
-/

namespace RvIommuTests

/-- The fields of a device context. -/
structure DcFields where
  tc : Word
  iohgatpPpn : BitVec 44
  gscid : BitVec 16
  iohgatpMode : BitVec 4
  taRsvd0 : BitVec 12
  pscid : BitVec 20
  taRsvd32 : BitVec 32
  fscPpn : BitVec 44
  fscRsvd44 : BitVec 16
  fscMode : BitVec 4
  msiptpPpn : BitVec 44
  msiptpRsvd44 : BitVec 16
  msiptpMode : BitVec 4
  msiAddrMask : Word
  msiAddrPattern : Word
  reserved : Word
  deriving DecidableEq

/-- Reading a device context. -/
def Dc.fields (dc : Dc) : DcFields where
  tc := dc.tc
  iohgatpPpn := dc.iohgatp.extractLsb' 0 44
  gscid := dc.iohgatp.extractLsb' 44 16
  iohgatpMode := dc.iohgatp.extractLsb' 60 4
  taRsvd0 := dc.ta.extractLsb' 0 12
  pscid := dc.ta.extractLsb' 12 20
  taRsvd32 := dc.ta.extractLsb' 32 32
  fscPpn := dc.fsc.extractLsb' 0 44
  fscRsvd44 := dc.fsc.extractLsb' 44 16
  fscMode := dc.fsc.extractLsb' 60 4
  msiptpPpn := dc.msiptp.extractLsb' 0 44
  msiptpRsvd44 := dc.msiptp.extractLsb' 44 16
  msiptpMode := dc.msiptp.extractLsb' 60 4
  msiAddrMask := dc.msiAddrMask
  msiAddrPattern := dc.msiAddrPattern
  reserved := dc.reserved

/-- The page number of an address. -/
def ppnOf (a : Bytes.Addr) : BitVec 44 := BitVec.ofNat 44 (a.toNat / pageSize)

/-- The device is one of those the table is set up for. -/
def DdtConfig.HasDid (c : DdtConfig) (i : Nat) : Prop := c.didMin ≤ i ∧ i ≤ c.didMax

instance (c : DdtConfig) (i : Nat) : Decidable (c.HasDid i) := inferInstanceAs (Decidable (_ ∧ _))

/-- What a setter sets: the mode of the first stage, of the second stage, or of the MSI page table. -/
inductive DcKind where
  | iosatp | iohgatp | msi
  deriving DecidableEq

namespace DcSetter

/-- The kind of a setter. -/
def kind : DcSetter → DcKind
  | .iosatpBare | .iosatpSv39 => .iosatp
  | .iohgatpBare | .iohgatpSv39x4 => .iohgatp
  | .msiOff | .msiFlat => .msi

/-- The mode that a setter sets, as it is encoded in its field. -/
def mode : DcSetter → BitVec 4
  | .iosatpBare | .iohgatpBare | .msiOff => 0#4
  | .iosatpSv39 | .iohgatpSv39x4 => 8#4
  | .msiFlat => 1#4

/-- Setters one after the other. -/
def runAll (c : DdtConfig) (link : Link) (ss : List DcSetter) (ddt : Ddt) : Ddt :=
  ss.foldl (fun ddt s => s.run c link ddt) ddt

/-- The mode of the last setter of a kind. When there was none, it is the one of `rv_iommu_ddt_init`: Bare, or Off. -/
def lastMode (k : DcKind) (ss : List DcSetter) : BitVec 4 := ((ss.filter (·.kind = k)).getLast?.map mode).getD 0#4

end DcSetter

/-- The context of a device after some setters. -/
def DcFields.after (c : DdtConfig) (link : Link) (i : Nat) (ss : List DcSetter) : DcFields where
  tc := 1#64
  iohgatpPpn := ppnOf link.s2ptRoot
  gscid := (c.gscid i).setWidth 16
  iohgatpMode := DcSetter.lastMode .iohgatp ss
  taRsvd0 := 0#12
  pscid := (c.pscid i).setWidth 20
  taRsvd32 := 0#32
  fscPpn := ppnOf link.s1pt
  fscRsvd44 := 0#16
  fscMode := DcSetter.lastMode .iosatp ss
  msiptpPpn := ppnOf link.msiPt
  msiptpRsvd44 := 0#16
  msiptpMode := DcSetter.lastMode .msi ss
  msiAddrMask := 0x100286#64
  msiAddrPattern := 0x000386#64
  reserved := 0#64

/-- A setter leaves in a context, beside `msiptp`, the mask and the pattern of the MSI addresses, and nothing else. -/
def SetsMsiAddr (before after : Dc) : Prop :=
  after = { before with msiptp := after.msiptp, msiAddrMask := msiAddrMask, msiAddrPattern := msiAddrPattern }

/-- The two MSI setters leave tables that differ only in the mode in `msiptp` of the devices in the range: each sets the mask and
the pattern, whatever they were, and changes no other field of any context. -/
structure MsiEstablished (c : DdtConfig) (link : Link) (ddt : Ddt) : Prop where
  outside : ∀ i, ¬ c.HasDid i → rvIommuSetMsiFlat c link ddt i = ddt i ∧ rvIommuSetMsiOff c link ddt i = ddt i
  agree : ∀ i, c.HasDid i →
    (rvIommuSetMsiFlat c link ddt i).fields = { (rvIommuSetMsiOff c link ddt i).fields with msiptpMode := 1#4 }
  off : ∀ i, c.HasDid i → (rvIommuSetMsiOff c link ddt i).fields.msiptpMode = 0#4
  address : ∀ i, c.HasDid i →
    SetsMsiAddr (ddt i) (rvIommuSetMsiFlat c link ddt i) ∧ SetsMsiAddr (ddt i) (rvIommuSetMsiOff c link ddt i)

end RvIommuTests
