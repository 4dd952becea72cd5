import RvIommuTests.Lib.Fields

/-!
# A RISC-V hart with the hypervisor extension

The privileged state of one hart: its mode, the CSRs that take part in traps, how each mode reaches them, trap entry with
delegation, and the return instructions. Interrupt enables are stored and stacked as the instructions prescribe, but no
interrupt is taken here by itself.
-/

namespace Riscv

/-- A 64-bit CSR value. -/
abbrev Value : Type := BitVec 64

/-- The word with one bit set to a value. -/
def setBit (w : Value) (i : Nat) (b : Bool) : Value := (w &&& ~~~(1#64 <<< i)) ||| (if b then 1#64 <<< i else 0#64)

/-- A word after one of its bits is set. -/
@[simp] theorem getLsbD_setBit (w : Value) (i : Nat) (b : Bool) (hi : i < 64) (j : Nat) :
    (setBit w i b).getLsbD j = if j = i then b else w.getLsbD j := by
  have hb : (if b then 1#64 <<< i else 0#64).getLsbD j = (b && decide (j = i)) := by
    cases b
    · exact BitVec.getLsbD_zero
    · exact Fields.getLsbD_one_shiftLeft hi j
  unfold setBit
  rw [BitVec.getLsbD_or, BitVec.getLsbD_and, BitVec.getLsbD_not, Fields.getLsbD_one_shiftLeft hi, hb]
  by_cases h : j = i
  · subst h
    simp
  · by_cases hj : j < 64
    · simp [h, hj]
    · simp [h, BitVec.getLsbD_of_ge w j (by omega)]

@[simp] theorem getElem_setBit (w : Value) (i : Nat) (b : Bool) (hi : i < 64) (j : Nat) (hj : j < 64) :
    (setBit w i b)[j] = if j = i then b else w[j] := by
  rw [← BitVec.getLsbD_eq_getElem, getLsbD_setBit w i b hi, BitVec.getLsbD_eq_getElem]

/-- `old` with the bits of `mask` taken from `new`. -/
def merge (mask old new : Value) : Value := (old &&& ~~~mask) ||| (new &&& mask)

/-- A word after the bits of a mask are replaced. -/
@[simp] theorem getLsbD_merge (mask old new : Value) (i : Nat) :
    (merge mask old new).getLsbD i = if mask.getLsbD i then new.getLsbD i else old.getLsbD i := by
  by_cases hi : i < 64
  · unfold merge
    rw [BitVec.getLsbD_or, BitVec.getLsbD_and, BitVec.getLsbD_and, BitVec.getLsbD_not]
    cases mask.getLsbD i <;> simp [hi]
  · simp [merge, BitVec.getLsbD_of_ge _ i (Nat.le_of_not_lt hi)]

@[simp] theorem getElem_merge (mask old new : Value) (i : Nat) (hi : i < 64) :
    (merge mask old new)[i] = if mask[i] then new[i] else old[i] := by
  rw [← BitVec.getLsbD_eq_getElem, getLsbD_merge, BitVec.getLsbD_eq_getElem, BitVec.getLsbD_eq_getElem,
    BitVec.getLsbD_eq_getElem]

/-! ## Modes -/

/-- The privilege modes. -/
inductive Mode where
  | vu | hu | vs | hs | m
  deriving DecidableEq

/-- The virtualisation mode is on. -/
def Mode.virt : Mode → Bool
  | .vu | .vs => true
  | _ => false

/-- The mode is a user mode. -/
def Mode.user : Mode → Bool
  | .vu | .hu => true
  | _ => false

/-- The supervisor or user mode with a virtualisation and a previous-privilege bit. -/
def Mode.below (virt supervisor : Bool) : Mode :=
  if supervisor then (if virt then .vs else .hs) else (if virt then .vu else .hu)

/-! ## Registers -/

/-- The CSRs by the names software uses. -/
inductive Csr where
  | mstatus | mtvec | medeleg | mideleg | mip | mepc | mcause | mtval | mtval2 | mtinst
  | sstatus | stvec | sip | sepc | scause | stval
  | hstatus | hedeleg | hideleg | hip | htval | htinst
  | vsstatus | vstvec | vsip | vsepc | vscause | vstval
  deriving DecidableEq

/-- The mode and the registers. `sstatus`, `sip`, `hip` and `vsip` are views of others. -/
structure Hart where
  mode : Mode
  mstatus : Value
  mtvec : Value
  medeleg : Value
  mideleg : Value
  mip : Value
  mepc : Value
  mcause : Value
  mtval : Value
  mtval2 : Value
  mtinst : Value
  stvec : Value
  sepc : Value
  scause : Value
  stval : Value
  hstatus : Value
  hedeleg : Value
  hideleg : Value
  htval : Value
  htinst : Value
  vsstatus : Value
  vstvec : Value
  vsepc : Value
  vscause : Value
  vstval : Value

/-- The bits of `mstatus` that `sstatus` shows. -/
def sstatusMask : Value := 0x80000003000DE762#64

/-- The pending bits of `mip` that `sip` shows. -/
def sipMask : Value := 0x222#64

/-- The pending bits of `mip` that `hip` shows. -/
def hipMask : Value := 0x1444#64

/-- The register a name stands for in a mode; none where the mode may not reach it. The supervisor names stand for the
registers of the guest in VS mode. -/
def Csr.resolve : Mode → Csr → Option Csr
  | .m, c => some c
  | .hs, c =>
    match c with
    | .mstatus | .mtvec | .medeleg | .mideleg | .mip | .mepc | .mcause | .mtval | .mtval2 | .mtinst => none
    | c => some c
  | .vs, c =>
    match c with
    | .sstatus => some .vsstatus
    | .stvec => some .vstvec
    | .sip => some .vsip
    | .sepc => some .vsepc
    | .scause => some .vscause
    | .stval => some .vstval
    | _ => none
  | .vu, _ => none
  | .hu, _ => none

namespace Hart

/-- The value of a register. -/
def get (h : Hart) : Csr → Value
  | .mstatus => h.mstatus
  | .mtvec => h.mtvec
  | .medeleg => h.medeleg
  | .mideleg => h.mideleg
  | .mip => h.mip
  | .mepc => h.mepc
  | .mcause => h.mcause
  | .mtval => h.mtval
  | .mtval2 => h.mtval2
  | .mtinst => h.mtinst
  | .sstatus => h.mstatus &&& sstatusMask
  | .stvec => h.stvec
  | .sip => h.mip &&& h.mideleg &&& sipMask
  | .sepc => h.sepc
  | .scause => h.scause
  | .stval => h.stval
  | .hstatus => h.hstatus
  | .hedeleg => h.hedeleg
  | .hideleg => h.hideleg
  | .hip => h.mip &&& hipMask
  | .htval => h.htval
  | .htinst => h.htinst
  | .vsstatus => h.vsstatus
  | .vstvec => h.vstvec
  | .vsip => ((h.mip &&& h.hideleg) >>> 1) &&& sipMask
  | .vsepc => h.vsepc
  | .vscause => h.vscause
  | .vstval => h.vstval

/-- A write to a register. An exception program counter has no lowest bit; of the pending bits that a view shows, software
writes the software interrupt's only. -/
def put (h : Hart) : Csr → Value → Hart
  | .mstatus, v => { h with mstatus := v }
  | .mtvec, v => { h with mtvec := v }
  | .medeleg, v => { h with medeleg := v }
  | .mideleg, v => { h with mideleg := v }
  | .mip, v => { h with mip := v }
  | .mepc, v => { h with mepc := v &&& ~~~1#64 }
  | .mcause, v => { h with mcause := v }
  | .mtval, v => { h with mtval := v }
  | .mtval2, v => { h with mtval2 := v }
  | .mtinst, v => { h with mtinst := v }
  | .sstatus, v => { h with mstatus := merge sstatusMask h.mstatus v }
  | .stvec, v => { h with stvec := v }
  | .sip, v => { h with mip := merge (h.mideleg &&& 2#64) h.mip v }
  | .sepc, v => { h with sepc := v &&& ~~~1#64 }
  | .scause, v => { h with scause := v }
  | .stval, v => { h with stval := v }
  | .hstatus, v => { h with hstatus := v }
  | .hedeleg, v => { h with hedeleg := v }
  | .hideleg, v => { h with hideleg := v }
  | .hip, v => { h with mip := merge 4#64 h.mip v }
  | .htval, v => { h with htval := v }
  | .htinst, v => { h with htinst := v }
  | .vsstatus, v => { h with vsstatus := v }
  | .vstvec, v => { h with vstvec := v }
  | .vsip, v => { h with mip := merge (h.hideleg &&& 4#64) h.mip (v <<< 1) }
  | .vsepc, v => { h with vsepc := v &&& ~~~1#64 }
  | .vscause, v => { h with vscause := v }
  | .vstval, v => { h with vstval := v }

/-- Software reads a register. -/
def read (h : Hart) (c : Csr) : Option Value := (c.resolve h.mode).map h.get

/-- Software writes a register. -/
def write (h : Hart) (c : Csr) (v : Value) : Option Hart := (c.resolve h.mode).map (fun c => h.put c v)

/-! ## Traps -/

/-- What the hart records of a trap. -/
structure Trap where
  cause : Value
  epc : Value
  tval : Value
  tval2 : Value
  tinst : Value
  /-- `tval` is a guest virtual address. -/
  gva : Bool

/-- A trap into M mode. -/
def trapM (h : Hart) (t : Trap) : Hart :=
  { h with
    mode := .m
    -- MPV, MPP, MPIE, MIE and GVA
    mstatus := setBit (setBit (setBit (setBit (setBit (setBit h.mstatus 39 h.mode.virt) 12 (decide (h.mode = .m)))
      11 (!h.mode.user)) 7 (h.mstatus.getLsbD 3)) 3 false) 38 t.gva
    mepc := t.epc
    mcause := t.cause
    mtval := t.tval
    mtval2 := t.tval2
    mtinst := t.tinst }

/-- A trap into HS mode. -/
def trapHS (h : Hart) (t : Trap) : Hart :=
  { h with
    mode := .hs
    -- SPP, SPIE and SIE
    mstatus := setBit (setBit (setBit h.mstatus 8 (!h.mode.user)) 5 (h.mstatus.getLsbD 1)) 1 false
    -- SPV and GVA, and SPVP when the trap comes from a guest
    hstatus := setBit (setBit (if h.mode.virt then setBit h.hstatus 8 (!h.mode.user) else h.hstatus) 7 h.mode.virt) 6 t.gva
    sepc := t.epc
    scause := t.cause
    stval := t.tval
    htval := t.tval2
    htinst := t.tinst }

/-- A trap into VS mode. -/
def trapVS (h : Hart) (t : Trap) : Hart :=
  { h with
    mode := .vs
    -- SPP, SPIE and SIE of the guest
    vsstatus := setBit (setBit (setBit h.vsstatus 8 (!h.mode.user)) 5 (h.vsstatus.getLsbD 1)) 1 false
    vsepc := t.epc
    vscause := t.cause
    vstval := t.tval }

/-- A trap into a mode that has traps. -/
def trapTo (h : Hart) (t : Trap) : Mode → Hart
  | .m => h.trapM t
  | .hs => h.trapHS t
  | _ => h.trapVS t

/-- The cause of an environment call from a mode. -/
def ecallCause : Mode → Nat
  | .vu => 8
  | .hu => 8
  | .vs => 10
  | .hs => 9
  | .m => 11

/-- The trap of an `ecall` at an address, where the delegation registers send it. -/
def ecall (h : Hart) (pc : Value) : Hart :=
  let t : Trap :=
    { cause := BitVec.ofNat 64 (ecallCause h.mode), epc := pc, tval := 0#64, tval2 := 0#64, tinst := 0#64, gva := false }
  if h.mode = .m ∨ h.medeleg.getLsbD (ecallCause h.mode) = false then h.trapM t
  else if h.mode.virt ∧ h.hedeleg.getLsbD (ecallCause h.mode) = true then h.trapVS t
  else h.trapHS t

/-- The trap vector of the mode. -/
def tvec (h : Hart) : Value :=
  match h.mode with
  | .m => h.mtvec
  | .hs => h.stvec
  | _ => h.vstvec

/-- The mode that `mret` returns to. -/
def mretMode (h : Hart) : Mode :=
  if h.mstatus.getLsbD 11 ∧ h.mstatus.getLsbD 12 then .m else Mode.below (h.mstatus.getLsbD 39) (h.mstatus.getLsbD 11)

/-- The hart after `mret`. -/
def afterMret (h : Hart) : Hart :=
  -- MIE, MPIE, MPP, MPV and MPRV
  let status := setBit (setBit (setBit (setBit (setBit h.mstatus 3 (h.mstatus.getLsbD 7)) 7 true) 11 false) 12 false) 39 false
  { h with
    mode := h.mretMode
    mstatus := if h.mretMode = .m then status else setBit status 17 false }

/-- `mret`, and the address it jumps to; none where it traps. -/
def mret (h : Hart) : Option (Hart × Value) := if h.mode = .m then some (h.afterMret, h.mepc) else none

/-- The hart after `sret` in VS mode. -/
def afterSretVS (h : Hart) : Hart :=
  { h with
    mode := Mode.below true (h.vsstatus.getLsbD 8)
    -- SIE, SPIE and SPP of the guest
    vsstatus := setBit (setBit (setBit h.vsstatus 1 (h.vsstatus.getLsbD 5)) 5 true) 8 false }

/-- The hart after `sret` in HS or M mode. -/
def afterSret (h : Hart) : Hart :=
  { h with
    mode := Mode.below (h.hstatus.getLsbD 7) (h.mstatus.getLsbD 8)
    -- SIE, SPIE, SPP and MPRV
    mstatus := setBit (setBit (setBit (setBit h.mstatus 1 (h.mstatus.getLsbD 5)) 5 true) 8 false) 17 false
    hstatus := setBit h.hstatus 7 false }

/-- `sret`, and the address it jumps to; none where it traps. In VS mode VTSR makes it trap, in HS mode TSR. -/
def sret (h : Hart) : Option (Hart × Value) :=
  match h.mode with
  | .vu => none
  | .hu => none
  | .vs => if h.hstatus.getLsbD 22 then none else some (h.afterSretVS, h.vsepc)
  | .hs => if h.mstatus.getLsbD 22 then none else some (h.afterSret, h.sepc)
  | .m => some (h.afterSret, h.sepc)

/-! ## Returning to a mode -/

/-- The bits that the return instruction of a mode reads name a mode it can return to. -/
def ReturnsTo (h : Hart) : Mode → Mode → Prop
  | .m, c => h.mstatus.getLsbD 11 = !c.user ∧ h.mstatus.getLsbD 12 = decide (c = .m) ∧ h.mstatus.getLsbD 39 = c.virt
  | .hs, c => c ≠ .m ∧ h.hstatus.getLsbD 7 = c.virt ∧ h.mstatus.getLsbD 8 = !c.user
  | .vs, c => (c = .vu ∨ c = .vs) ∧ h.vsstatus.getLsbD 8 = !c.user
  | _, _ => False

/-- The return instruction of a mode does not trap: TSR and VTSR are clear where they matter. -/
def MayReturn (h : Hart) : Mode → Prop
  | .m => True
  | .hs => h.mstatus.getLsbD 22 = false
  | _ => h.hstatus.getLsbD 22 = false

/-- `mret` goes to the mode that the bits name. -/
theorem afterMret_mode {h : Hart} {c : Mode} (hr : h.ReturnsTo .m c) : h.afterMret.mode = c := by
  obtain ⟨h11, h12, h39⟩ := hr
  have hmode : h.afterMret.mode = h.mretMode := rfl
  rw [hmode, mretMode, h11, h12, h39]
  cases c <;> rfl

/-- `sret` in HS mode goes to the mode that the bits name. -/
theorem afterSret_mode {h : Hart} {c : Mode} (hr : h.ReturnsTo .hs c) : h.afterSret.mode = c := by
  obtain ⟨hc, h7, h8⟩ := hr
  have hmode : h.afterSret.mode = Mode.below (h.hstatus.getLsbD 7) (h.mstatus.getLsbD 8) := rfl
  rw [hmode, h7, h8]
  cases c with
  | m => exact absurd rfl hc
  | _ => rfl

/-- `sret` in VS mode goes to the mode that the bit names. -/
theorem afterSretVS_mode {h : Hart} {c : Mode} (hr : h.ReturnsTo .vs c) : h.afterSretVS.mode = c := by
  obtain ⟨hc, h8⟩ := hr
  have hmode : h.afterSretVS.mode = Mode.below true (h.vsstatus.getLsbD 8) := rfl
  rw [hmode, h8]
  rcases hc with rfl | rfl <;> rfl

/-- In M-mode `mret` always returns, to `mepc` and the mode that `mstatus` has. -/
theorem mret_eq {h : Hart} (hm : h.mode = .m) : h.mret = some (h.afterMret, h.mepc) := if_pos hm

/-- In HS-mode `sret` returns to `sepc` when TSR does not make it trap. -/
theorem sret_eq_hs {h : Hart} (hm : h.mode = .hs) (hr : h.MayReturn .hs) : h.sret = some (h.afterSret, h.sepc) := by
  have hr' : h.mstatus.getLsbD 22 = false := hr
  unfold sret
  rw [hm, hr']
  rfl

/-- In VS-mode `sret` returns to `vsepc` when VTSR does not make it trap. -/
theorem sret_eq_vs {h : Hart} (hm : h.mode = .vs) (hr : h.MayReturn .vs) : h.sret = some (h.afterSretVS, h.vsepc) := by
  have hr' : h.hstatus.getLsbD 22 = false := hr
  unfold sret
  rw [hm, hr']
  rfl

end Hart

end Riscv
