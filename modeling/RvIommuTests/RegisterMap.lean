import RvIommuTests.Console
import RvIommuTests.Latency
import RvIommuTests.Lib.Packed
import RvIommuTests.TestIo

/-!
# The registers in memory

The structures through which the code reaches the registers: `iommu_t` of `rv_iommu.c`, `struct idma` and `uart8250_t`. The register
offsets of `rv_iommu.h` describe the first of them once more.
-/

namespace RvIommuTests

open Bytes Packed

/-! ## The structures -/

/-- `uint64_t` -/
def u64 : Ty := .int 8

/-- `uint32_t` -/
def u32 : Ty := .int 4

/-- `IOMMU_MAX_MSI_CFG_TABLE` -/
def iommuMaxMsiCfgTable : Nat := 16

/-- `iommu_debug_t` -/
def iommuDebugTy : Ty := .struct [u64, u64, u64]

/-- `iommu_msi_cfg_table_t` -/
def iommuMsiCfgTableTy : Ty := .struct [u64, u32, u32]

/-- `iommu_t` -/
def iommuTy : Ty := .struct [u64, u32, u32, u64, u64, u32, u32, u64, u32, u32, u64, u32, u32, u32, u32, u32, u32, u32, u32, u64,
  .array iommuMaxHpmCounters u64, .array iommuMaxHpmCounters u64, iommuDebugTy, .array 8 u64, .array 9 u64, u64,
  .array iommuMaxMsiCfgTable iommuMsiCfgTableTy]

/-- The members of `iommu_t` that are integers. -/
inductive IommuMember where
  | capabilities | fctl | reserved0 | ddtp | cqb | cqh | cqt | fqb | fqh | fqt | pqb | pqh | pqt | cqcsr | fqcsr | pqcsr | ipsr
  | iocntovf | iocntinh | iohpmcycles
  | iohpmctr (i : Nat)
  | iohpmevt (i : Nat)
  | trReqIova | trReqCtl | trResponse
  | reserved (i : Nat)
  | custom (i : Nat)
  | icvec
  | msiCfgTblAddr (i : Nat)
  | msiCfgTblData (i : Nat)
  | msiCfgTblVctl (i : Nat)
  deriving DecidableEq

/-- The path of a member. -/
def IommuMember.path : IommuMember → List Nat
  | .capabilities => [0]
  | .fctl => [1]
  | .reserved0 => [2]
  | .ddtp => [3]
  | .cqb => [4]
  | .cqh => [5]
  | .cqt => [6]
  | .fqb => [7]
  | .fqh => [8]
  | .fqt => [9]
  | .pqb => [10]
  | .pqh => [11]
  | .pqt => [12]
  | .cqcsr => [13]
  | .fqcsr => [14]
  | .pqcsr => [15]
  | .ipsr => [16]
  | .iocntovf => [17]
  | .iocntinh => [18]
  | .iohpmcycles => [19]
  | .iohpmctr i => [20, i]
  | .iohpmevt i => [21, i]
  | .trReqIova => [22, 0]
  | .trReqCtl => [22, 1]
  | .trResponse => [22, 2]
  | .reserved i => [23, i]
  | .custom i => [24, i]
  | .icvec => [25]
  | .msiCfgTblAddr i => [26, i, 0]
  | .msiCfgTblData i => [26, i, 1]
  | .msiCfgTblVctl i => [26, i, 2]

/-- Where a member starts in the structure. No accessor checks its index. -/
def IommuMember.offset (m : IommuMember) : Nat := iommuTy.offset m.path

/-- The macros `IOMMU_MSI_ADDR_i_OFFSET`, `IOMMU_MSI_DATA_i_OFFSET` and `IOMMU_MSI_VEC_CTL_i_OFFSET`. -/
def iommuMsiOffsets : List (Nat × Nat × Nat) := [
  (0x300, 0x308, 0x30c), (0x310, 0x318, 0x31c), (0x320, 0x328, 0x32c), (0x330, 0x338, 0x33c),
  (0x340, 0x348, 0x34c), (0x350, 0x358, 0x35c), (0x360, 0x368, 0x36c), (0x370, 0x378, 0x37c),
  (0x380, 0x388, 0x38c), (0x390, 0x398, 0x39c), (0x3a0, 0x3a8, 0x3ac), (0x3b0, 0x3b8, 0x3bc),
  (0x3c0, 0x3c8, 0x3cc), (0x3d0, 0x3d8, 0x3dc), (0x3e0, 0x3e8, 0x3ec), (0x3f0, 0x3f8, 0x3fc)]

/-- The macro of `rv_iommu.h` for the offset of a member. Of the counters and of their events, the first one has a macro. -/
def IommuMember.headerOffset : IommuMember → Option Nat
  | .capabilities => some 0x0
  | .fctl => some 0x8
  | .ddtp => some 0x10
  | .cqb => some 0x18
  | .cqh => some 0x20
  | .cqt => some 0x24
  | .fqb => some 0x28
  | .fqh => some 0x30
  | .fqt => some 0x34
  | .cqcsr => some 0x48
  | .fqcsr => some 0x4c
  | .ipsr => some 0x54
  | .iocntovf => some 0x58
  | .iocntinh => some 0x5c
  | .iohpmcycles => some 0x60
  | .iohpmctr i => if i = 0 then some 0x68 else none
  | .iohpmevt i => if i = 0 then some 0x160 else none
  | .trReqIova => some 0x258
  | .trReqCtl => some 0x260
  | .trResponse => some 0x268
  | .icvec => some 0x2f8
  | .msiCfgTblAddr i => (iommuMsiOffsets[i]?).map fun x => x.1
  | .msiCfgTblData i => (iommuMsiOffsets[i]?).map fun x => x.2.1
  | .msiCfgTblVctl i => (iommuMsiOffsets[i]?).map fun x => x.2.2
  | _ => none

/-- `struct idma` -/
def idmaTy : Ty := .struct [u64, u64, u64, u64, u64, u64, u64, u64]

/-- The path of a register of the DMA device. -/
def IdmaReg.path : IdmaReg → List Nat
  | .srcAddr => [0]
  | .destAddr => [1]
  | .numBytes => [2]
  | .config => [3]
  | .nextTransferId => [5]
  | .lastTransferIdComplete => [6]
  | .ipsr => [7]

/-- `uart8250_t`, in which each union is one register. -/
def uart8250Ty : Ty := .struct [.array 0x40 (.int 1), u32, u32, u32, u32, u32, u32, u32, u32]

/-- The path of a register of the UART. -/
def UartReg.path : UartReg → List Nat
  | .thr => [1]
  | .ier => [2]
  | .lcr => [4]
  | .mcr => [5]
  | .lsr => [6]
  | .msr => [7]

/-! ## The address space -/

/-- A register of one of the devices. -/
inductive Mmio where
  | iommu (m : IommuMember)
  | idma (r : IdmaReg)
  | uart (r : UartReg)
  deriving DecidableEq

namespace Mmio

/-- `IOMMU_BASE_ADDR`, `idma_addr[0]`, and the address that `uart` is initialised with. -/
def base : Mmio → Nat
  | iommu _ => 0x50010000
  | idma _ => 0x50000000
  | uart _ => 0x10000000

/-- The structure of its device. -/
def ty : Mmio → Ty
  | iommu _ => iommuTy
  | idma _ => idmaTy
  | uart _ => uart8250Ty

/-- Its path in the structure. -/
def path : Mmio → List Nat
  | iommu m => m.path
  | idma r => r.path
  | uart r => r.path

/-- The address of the register. -/
def addr (r : Mmio) : Nat := r.base + r.ty.offset r.path

/-- The number of its bytes, if it is a register at all. -/
def width (r : Mmio) : Option Nat := r.ty.width r.path

end Mmio

/-- The register that an access of a test reaches, if it is one to a register, and the number of bytes that it reads or writes. -/
def DevIo.register : DevIo → Option (Mmio × Nat)
  | .queue (.read32 r) => some (.iommu (reg32 r), 4)
  | .queue (.write32 r _) => some (.iommu (reg32 r), 4)
  | .queue (.writeReg64 r _) => some (.iommu (reg64 r), 8)
  | .idma (.read64 r) => some (.idma r, 8)
  | .idma (.write64 r _) => some (.idma r, 8)
  | .getCtl32 r => some (.iommu (ctl32 r), 4)
  | .setCtl32 r _ => some (.iommu (ctl32 r), 4)
  | .getCtl64 r => some (.iommu (ctl64 r), 8)
  | .setCtl64 r _ => some (.iommu (ctl64 r), 8)
  | _ => none
where
  /-- The member of a 32-bit register of the queues. -/
  reg32 : Reg32 → IommuMember
    | .cqh => .cqh
    | .cqt => .cqt
    | .cqcsr => .cqcsr
    | .fqh => .fqh
    | .fqt => .fqt
    | .fqcsr => .fqcsr
  /-- The member of a 64-bit register of the queues. -/
  reg64 : Reg64 → IommuMember
    | .cqb => .cqb
    | .fqb => .fqb
  /-- The member of another 32-bit register. -/
  ctl32 : Ctl32 → IommuMember
    | .fctl => .fctl
    | .ipsr => .ipsr
    | .iocntovf => .iocntovf
    | .iocntinh => .iocntinh
    | .msiCfgTblVctl i => .msiCfgTblVctl i
  /-- The member of another 64-bit register. -/
  ctl64 : Ctl64 → IommuMember
    | .ddtp => .ddtp
    | .iohpmcycles => .iohpmcycles
    | .iohpmctr i => .iohpmctr i
    | .iohpmevt i => .iohpmevt i
    | .trReqIova => .trReqIova
    | .trReqCtl => .trReqCtl
    | .trResponse => .trResponse

end RvIommuTests
