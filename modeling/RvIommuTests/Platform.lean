import RvIommuTests.Lib.Bytes

/-!
# The platform and the placement of the objects in memory

The constants of `platform.h`, `plat_dma.c` and `rv_iommu_tests.h`, and where the linker puts the objects whose addresses the
code takes. Nothing is assumed of a placement here: the alignment and the bounds a result needs are its hypotheses.
-/

namespace RvIommuTests

open Bytes

/-- A 64-bit word (`uint64_t`). -/
abbrev Word : Type := BitVec 64

/-- A 32-bit word (`uint32_t`). -/
abbrev Word32 : Type := BitVec 32

/-- `MEM_BASE`: where the RAM starts. -/
def memBase : Nat := 0x80000000

/-- `MEM_SIZE`: how large the RAM is. -/
def memSize : Nat := 0x10000000

/-- `PAGE_SIZE` -/
def pageSize : Nat := 0x1000

/-- `DID_MIN`: the lowest device id the DDT is set up for. -/
def didMin : Nat := 1

/-- `DID_MAX`: the highest device id the DDT is set up for. -/
def didMax : Nat := 15

/-- `idma_ids[0]`: the device id of the only DMA device, the one every test drives. -/
def idmaId : Word := 10

/-- The addresses the linker gave to the objects the code shares with the hardware. -/
structure Link where
  /-- `command_queue` -/
  commandQueue : Addr
  /-- `fault_queue` -/
  faultQueue : Addr
  /-- `s1pt` -/
  s1pt : Addr
  /-- `s2pt_root` -/
  s2ptRoot : Addr
  /-- `s2pt` -/
  s2pt : Addr
  /-- `msi_pt` -/
  msiPt : Addr
  deriving DecidableEq

/-- A placement: the objects one after the other near the start of the RAM. -/
def Link.compact : Link where
  commandQueue := 0x80010000#64
  faultQueue := 0x80012000#64
  s1pt := 0x80020000#64
  s2ptRoot := 0x80028000#64
  s2pt := 0x8002C000#64
  msiPt := 0x80032000#64

end RvIommuTests
