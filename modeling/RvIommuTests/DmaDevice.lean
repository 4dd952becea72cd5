import RvIommuTests.Idma

/-!
# The DMA device as its driver relies on it

The registers of the device and the transfers it has launched. A read of the next id may launch a transfer. Between any two accesses
of the driver the device may complete one, in the order of their launches.
-/

namespace RvIommuTests

open Shared

/-- The registers that set up a transfer. -/
structure DmaSetup where
  srcAddr : Word
  destAddr : Word
  numBytes : Word
  config : Word
  deriving DecidableEq

/-- A transfer that was launched. -/
structure Launch where
  setup : DmaSetup
  id : Word
  deriving DecidableEq

/-- The device. The number of the transfers that are complete is read by no access. -/
structure Dma where
  setup : DmaSetup
  lastTransferIdComplete : Word
  /-- All transfers, oldest first. -/
  launched : List Launch
  completed : Nat
  deriving DecidableEq

namespace Dma

/-- The transfers that are not complete yet. -/
def outstanding (s : Dma) : List Launch := s.launched.drop s.completed

/-- A write to a register. -/
def write (s : Dma) : IdmaReg → Word → Dma
  | .srcAddr, v => { s with setup.srcAddr := v }
  | .destAddr, v => { s with setup.destAddr := v }
  | .numBytes, v => { s with setup.numBytes := v }
  | .config, v => { s with setup.config := v }
  | _, _ => s

/-- After the launch of a transfer. -/
def launch (s : Dma) (id : Word) : Dma := { s with launched := s.launched ++ [⟨s.setup, id⟩] }

/-- After the completion of a transfer. -/
def complete (s : Dma) (l : Launch) : Dma := { s with lastTransferIdComplete := l.id, completed := s.completed + 1 }

/-- The id was not given to a transfer before. -/
def Fresh (s : Dma) (id : Word) : Prop := id ≠ 0#64 ∧ ∀ l ∈ s.launched, l.id ≠ id

/-- The device by itself and at each access. -/
def world : World IdmaIo IdmaIo.Answer Dma where
  sem
    | .write64 r v, s, _, s' => s' = s.write r v
    | .read64 .nextTransferId, s, id, s' => (id = 0#64 ∧ s' = s) ∨ (s.Fresh id ∧ s' = s.launch id)
    | .read64 .lastTransferIdComplete, s, id, s' => id = s.lastTransferIdComplete ∧ s' = s
    | .read64 _, s, _, s' => s' = s
  env s s' := ∃ l, s.outstanding.head? = some l ∧ s' = s.complete l

/-- No transfer is outstanding, and the last id is that of a transfer, or none yet. -/
structure Idle (s : Dma) : Prop where
  none : s.completed = s.launched.length
  last : s.lastTransferIdComplete = 0#64 ∨ ∃ l ∈ s.launched, l.id = s.lastTransferIdComplete

/-- A device that has launched nothing. -/
def boot : Dma := ⟨⟨0#64, 0#64, 0#64, 0#64⟩, 0#64, [], 0⟩

end Dma

/-! ## Calls of the driver -/

/-- A call of the driver. -/
inductive IdmaCall where
  | setup (src dst nBytes : Word)
  | setupAddr (src dst : Word)
  | execTransfer

/-- The call. -/
def IdmaCall.run : IdmaCall → IdmaDriver Unit
  | setup src dst nBytes => idmaSetup src dst nBytes
  | setupAddr src dst => idmaSetupAddr src dst
  | execTransfer => do
    let _ ← idmaExecTransfer
    return ()

/-- Calls one after the other. -/
def idmaAll : List IdmaCall → IdmaDriver Unit
  | [] => pure ()
  | c :: cs => do
    c.run
    idmaAll cs

/-- What is set up after a call: the addresses of the latest of the two setup calls, the length and the configuration of the latest
`idma_setup`. -/
def IdmaCall.setsUp (d : DmaSetup) : IdmaCall → DmaSetup
  | setup src dst nBytes => ⟨src, dst, nBytes, idmaConfig⟩
  | setupAddr src dst => { d with srcAddr := src, destAddr := dst }
  | execTransfer => d

/-- What `idma_exec_transfer` has done when it returns: with 0 it has launched exactly one transfer, which is complete, and with -1
none. -/
structure Executed (d : DmaSetup) (s t : Dma) (r : Int) : Prop where
  status : r = 0 ∨ r = -1
  launched : r = 0 → ∃ id, t.launched = s.launched ++ [⟨d, id⟩]
  refused : r = -1 → t.launched = s.launched
  complete : t.outstanding = []

/-- A loop that waits for the id will not miss it: it is the last one, or that of the one transfer that is outstanding. -/
def Ahead (t : Dma) (id : Word) : Prop :=
  (t.lastTransferIdComplete = id ∧ t.outstanding = []) ∨ ∃ l, t.outstanding = [l] ∧ l.id = id

end RvIommuTests
