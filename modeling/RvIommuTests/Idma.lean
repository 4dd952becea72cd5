import RvIommuTests.Lib.Prog
import RvIommuTests.Platform

/-!
# The driver of the DMA device

`idma.c`, access by access. Every test drives the one device of `plat_dma.c`.
-/

namespace RvIommuTests

open Shared

/-- The registers of `struct idma` that the code accesses. -/
inductive IdmaReg where
  | srcAddr | destAddr | numBytes | config | nextTransferId | lastTransferIdComplete | ipsr
  deriving DecidableEq

/-- A single access of the driver to the device. -/
inductive IdmaIo where
  | read64 (r : IdmaReg)
  | write64 (r : IdmaReg) (v : Word)
  deriving DecidableEq

/-- What an access answers. -/
@[reducible] def IdmaIo.Answer : IdmaIo → Type
  | .read64 _ => Word
  | .write64 _ _ => Unit

/-- A function of the driver. -/
abbrev IdmaDriver (α : Type) : Type := Prog IdmaIo IdmaIo.Answer α

/-- `read64` of a register of the device. -/
def idmaRead (r : IdmaReg) : IdmaDriver Word := .call (IdmaIo.read64 r)

/-- `write64` to a register of the device. -/
def idmaWrite (r : IdmaReg) (v : Word) : IdmaDriver Unit := .call (IdmaIo.write64 r v)

/-- `IDMA_DECOUPLE` -/
def idmaDecouple : Word := 1#64 <<< 0
/-- `IDMA_DEBURST` -/
def idmaDeburst : Word := 1#64 <<< 1
/-- `IDMA_SERIALIZE` -/
def idmaSerialize : Word := 1#64 <<< 2

/-- What `idma_setup` writes to `config`. -/
def idmaConfig : Word := ~~~(idmaSerialize ||| idmaDeburst ||| idmaDecouple)

/-- `idma_setup` -/
def idmaSetup (src dst nBytes : Word) : IdmaDriver Unit := do
  idmaWrite .srcAddr src
  idmaWrite .destAddr dst
  idmaWrite .numBytes nBytes
  idmaWrite .config idmaConfig

/-- `idma_setup_addr` -/
def idmaSetupAddr (src dst : Word) : IdmaDriver Unit := do
  idmaWrite .srcAddr src
  idmaWrite .destAddr dst

/-- The loop that polls the status of a transfer. -/
def idmaWait (transId : Word) : IdmaDriver Unit :=
  .waitFor (IdmaIo.read64 .lastTransferIdComplete) (fun last => last == transId)

/-- `idma_exec_transfer` -/
def idmaExecTransfer : IdmaDriver Int := do
  let transId ← idmaRead .nextTransferId
  if transId = 0#64 then
    return -1
  idmaWait transId
  return 0

end RvIommuTests
