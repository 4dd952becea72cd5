import RvIommuTests.CommandLayout

/-!
# The doublewords of the invalidation commands

Each builder branch by branch comes down to one OR of a constant word with the enabled operands shifted to their offsets. The
fields are then read off that form.
-/

namespace RvIommuTests

open Fields

/-- An operand that fits its field still fits when it is replaced by zero because its flag is not set. -/
theorem fits_enabled {flag : Bool} {x : Word} {n : Nat} (h : Fits x n) : Fits (enabled flag x) n := by
  cases flag
  · exact Nat.two_pow_pos n
  · exact h

/-- The two words ORed on one flag are enabled one by one. -/
theorem enabled_or (flag : Bool) (x y : Word) : enabled flag (x ||| y) = enabled flag x ||| enabled flag y := by
  cases flag <;> simp [enabled]

theorem enabled_shiftLeft (flag : Bool) (x : Word) (n : Nat) : enabled flag (x <<< n) = enabled flag x <<< n := by
  cases flag <;> simp [enabled]

/-- The constant part of the first doubleword of an `IOTINVAL` command: opcode, function and flags. -/
def iotinvalHead (func3 : Word) (gv pscv : Bool) : Word :=
  iotinvalOp ||| func3 ||| enabled gv iotinvalGv ||| enabled pscv iotinvalPscv

/-- The first doubleword of an `IOTINVAL` command. -/
def iotinvalDw0 (head gscid pscid : Word) : Word :=
  head ||| gscid <<< iotinvalGscidOff ||| pscid <<< iotinvalPscidOff

/-- The second doubleword of an `IOTINVAL` command: the flag AV, as the driver places it, and the page. -/
def iotinvalDw1 (av : Bool) (addr : Word) : Word := enabled av (((addr >>> 12) ||| 1) <<< iotinvalIovaOff)

/-- The flag AV and the page as one shifted value: the flag is ORed into the lowest bit of the page. -/
theorem iotinvalAv_or (addr : Word) :
    iotinvalAv ||| addr >>> 12 <<< iotinvalIovaOff = (addr >>> 12 ||| 1) <<< iotinvalIovaOff := by
  rw [BitVec.shiftLeft_or_distrib, BitVec.or_comm]
  rfl

/-- The parts of a first doubleword, flags and operands sorted apart. -/
theorem or_parts (a b c d e f : Word) : a ||| b ||| (c ||| d) ||| (e ||| f) = a ||| b ||| c ||| e ||| d ||| f := by
  ac_rfl

theorem rvIommuIotinvalVma_eq (newCmd : Command) (av gv pscv : Bool) (addr gscid pscid : Word) :
    rvIommuIotinvalVma newCmd av gv pscv addr gscid pscid =
      ⟨iotinvalDw0 (iotinvalHead vma gv pscv) (enabled gv gscid) (enabled pscv pscid), iotinvalDw1 av addr⟩ := by
  unfold iotinvalDw0 iotinvalHead
  rw [← or_parts, ← enabled_shiftLeft, ← enabled_shiftLeft, ← enabled_or, ← enabled_or,
    iotinvalDw1, ← iotinvalAv_or]
  cases av <;> cases gv <;> cases pscv <;> simp [rvIommuIotinvalVma, enabled]

theorem rvIommuIotinvalGvma_eq (newCmd : Command) (av gv : Bool) (addr gscid : Word) :
    rvIommuIotinvalGvma newCmd av gv addr gscid =
      ⟨iotinvalDw0 (iotinvalHead gvma gv false) (enabled gv gscid) 0#64, iotinvalDw1 av addr⟩ := by
  unfold iotinvalDw0 iotinvalHead
  rw [← or_parts, ← enabled_shiftLeft, ← enabled_or, iotinvalDw1, ← iotinvalAv_or]
  cases av <;> cases gv <;> simp [rvIommuIotinvalGvma, enabled]

/-- The first doubleword of an `IODIR.INVAL_DDT` command. -/
def iodirDw0 (dv : Bool) (deviceId : Word) : Word :=
  (iodirOp ||| invalDdt ||| enabled dv iodirDv) ||| (enabled dv deviceId) <<< iodirDidOff

theorem rvIommuDdtInval_eq (newCmd : Command) (dv : Bool) (deviceId : Word) :
    rvIommuDdtInval newCmd dv deviceId = ⟨iodirDw0 dv deviceId, 0#64⟩ := by
  cases dv <;>
    simp [rvIommuDdtInval, iodirDw0, enabled, BitVec.or_assoc]

/-! ## The fields of the first doubleword -/

/-- A bit outside the two operand fields is the head's. -/
theorem getLsbD_iotinvalDw0 {head gscid pscid : Word} (hg : Fits gscid 16) (hp : Fits pscid 20) {i : Nat}
    (hi : i < 12 ∨ 32 ≤ i ∧ i < 44 ∨ 60 ≤ i) : (iotinvalDw0 head gscid pscid).getLsbD i = head.getLsbD i := by
  simp only [iotinvalDw0, iotinvalGscidOff, iotinvalPscidOff, BitVec.getLsbD_or, BitVec.getLsbD_shiftLeft]
  rcases hi with hi | ⟨h1, h2⟩ | hi
  · have h1 : i < 44 := by omega
    simp [hi, h1]
  · rw [hp.getLsbD (by omega : 20 ≤ i - 12)]
    simp [h2]
  · rw [hp.getLsbD (by omega : 20 ≤ i - 12), hg.getLsbD (by omega : 16 ≤ i - 44)]
    simp

/-- A field outside the two operand fields is the head's. -/
theorem extract_iotinvalDw0 {head gscid pscid : Word} (hg : Fits gscid 16) (hp : Fits pscid 20) {lo n : Nat}
    (h : lo + n ≤ 12 ∨ 32 ≤ lo ∧ lo + n ≤ 44 ∨ 60 ≤ lo) :
    (iotinvalDw0 head gscid pscid).extractLsb' lo n = head.extractLsb' lo n := by
  apply BitVec.eq_of_getLsbD_eq
  intro i hi
  rw [BitVec.getLsbD_extractLsb', BitVec.getLsbD_extractLsb', getLsbD_iotinvalDw0 hg hp (by omega)]

/-- The field GSCID is the operand, when the head is clear there. -/
theorem extract_iotinvalDw0_gscid {head gscid pscid : Word} (hp : Fits pscid 20) (hh : head.extractLsb' 44 16 = 0#16) :
    (iotinvalDw0 head gscid pscid).extractLsb' 44 16 = gscid.setWidth 16 := by
  simp only [iotinvalDw0, iotinvalGscidOff, iotinvalPscidOff, BitVec.extractLsb'_or]
  rw [hh, extract_shiftLeft_self (by decide), extract_shiftLeft_above hp (by decide)]
  simp

/-- The field PSCID is the operand, when the head is clear there. -/
theorem extract_iotinvalDw0_pscid {head gscid pscid : Word} (hh : head.extractLsb' 12 20 = 0#20) :
    (iotinvalDw0 head gscid pscid).extractLsb' 12 20 = pscid.setWidth 20 := by
  simp only [iotinvalDw0, iotinvalGscidOff, iotinvalPscidOff, BitVec.extractLsb'_or]
  rw [hh, extract_shiftLeft_below (by decide), extract_shiftLeft_self (by decide)]
  simp

/-- The head of a VMA or GVMA command reads back its function and its flags, and is clear elsewhere. -/
theorem extract_iotinvalHead {func3 : Word} (hf : func3 = vma ∨ func3 = gvma) (gv pscv : Bool) :
    (iotinvalHead func3 gv pscv).extractLsb' 0 7 = 1#7 ∧
    (iotinvalHead func3 gv pscv).extractLsb' 7 3 = func3.extractLsb' 7 3 ∧
    (iotinvalHead func3 gv pscv).getLsbD 10 = false ∧ (iotinvalHead func3 gv pscv).getLsbD 11 = false ∧
    (iotinvalHead func3 gv pscv).extractLsb' 12 20 = 0#20 ∧ (iotinvalHead func3 gv pscv).getLsbD 32 = pscv ∧
    (iotinvalHead func3 gv pscv).getLsbD 33 = gv ∧ (iotinvalHead func3 gv pscv).extractLsb' 34 10 = 0#10 ∧
    (iotinvalHead func3 gv pscv).extractLsb' 44 16 = 0#16 ∧ (iotinvalHead func3 gv pscv).extractLsb' 60 4 = 0#4 := by
  rcases hf with rfl | rfl <;> cases gv <;> cases pscv <;> decide

/-- Reading an `IOTINVAL` command back, whatever its second doubleword: the flag AV reads as clear. -/
theorem iotinval_eq {func3 gscid pscid : Word} (hf : func3 = vma ∨ func3 = gvma) (gv pscv : Bool) (dw1 : Word)
    (hg : Fits gscid 16) (hp : Fits pscid 20) :
    (Command.mk (iotinvalDw0 (iotinvalHead func3 gv pscv) gscid pscid) dw1).iotinval =
      { opcode := 1#7, func3 := func3.extractLsb' 7 3, av := false, rsvd11 := false, pscid := pscid, pscv := pscv,
        gv := gv, rsvd34 := 0#10, gscid := gscid, rsvd60 := 0#4, rsvd64 := dw1.extractLsb' 0 10,
        addr := (dw1.extractLsb' 10 52).setWidth 64, rsvd126 := dw1.extractLsb' 62 2 } := by
  obtain ⟨h0, h7, h10, h11, h12, h32, h33, h34, h44, h60⟩ := extract_iotinvalHead hf gv pscv
  simp only [Command.iotinval, IotinvalFields.mk.injEq, and_true]
  refine ⟨?_, ?_, ?_, ?_, ?_, ?_, ?_, ?_, ?_, ?_⟩
  · rw [extract_iotinvalDw0 hg hp (by omega), h0]
  · rw [extract_iotinvalDw0 hg hp (by omega), h7]
  · rw [getLsbD_iotinvalDw0 hg hp (by omega), h10]
  · rw [getLsbD_iotinvalDw0 hg hp (by omega), h11]
  · rw [extract_iotinvalDw0_pscid h12, hp.setWidth_setWidth]
  · rw [getLsbD_iotinvalDw0 hg hp (by omega), h32]
  · rw [getLsbD_iotinvalDw0 hg hp (by omega), h33]
  · rw [extract_iotinvalDw0 hg hp (by omega), h34]
  · rw [extract_iotinvalDw0_gscid hp h44, hg.setWidth_setWidth]
  · rw [extract_iotinvalDw0 hg hp (by omega), h60]

/-- The head of an IODIR command reads back its function and its flag, and is clear elsewhere. -/
theorem extract_iodirHead (dv : Bool) :
    (iodirOp ||| invalDdt ||| enabled dv iodirDv).extractLsb' 0 7 = 3#7 ∧
    (iodirOp ||| invalDdt ||| enabled dv iodirDv).extractLsb' 7 3 = 0#3 ∧
    (iodirOp ||| invalDdt ||| enabled dv iodirDv).extractLsb' 10 2 = 0#2 ∧
    (iodirOp ||| invalDdt ||| enabled dv iodirDv).extractLsb' 12 20 = 0#20 ∧
    (iodirOp ||| invalDdt ||| enabled dv iodirDv).getLsbD 32 = false ∧
    (iodirOp ||| invalDdt ||| enabled dv iodirDv).getLsbD 33 = dv ∧
    (iodirOp ||| invalDdt ||| enabled dv iodirDv).extractLsb' 34 6 = 0#6 ∧
    (iodirOp ||| invalDdt ||| enabled dv iodirDv).extractLsb' 40 24 = 0#24 := by
  cases dv <;> decide

/-- The fields that the IOMMU reads from an `IODIR.INVAL_DDT` are those the driver has put there. -/
theorem iodir_eq (dv : Bool) (deviceId : Word) (hd : Fits deviceId 24) :
    (Command.mk (iodirDw0 dv deviceId) 0#64).iodir =
      { opcode := 3#7, func3 := 0#3, rsvd10 := 0#2, pid := 0#20, rsvd32 := false, dv := dv, rsvd34 := 0#6,
        did := enabled dv deviceId, rsvd64 := 0#64 } := by
  obtain ⟨h0, h7, h10, h12, h32, h33, h34, h40⟩ := extract_iodirHead dv
  have hlow : ∀ lo n, lo + n ≤ 40 → (iodirDw0 dv deviceId).extractLsb' lo n =
      (iodirOp ||| invalDdt ||| enabled dv iodirDv).extractLsb' lo n := by
    intro lo n h
    unfold iodirDw0
    rw [BitVec.extractLsb'_or, iodirDidOff, extract_shiftLeft_below h, BitVec.or_zero]
  have hbit : ∀ i < 40, (iodirDw0 dv deviceId).getLsbD i =
      (iodirOp ||| invalDdt ||| enabled dv iodirDv).getLsbD i := by
    intro i hi
    unfold iodirDw0
    rw [BitVec.getLsbD_or, iodirDidOff, BitVec.getLsbD_shiftLeft]
    simp [hi]
  simp only [Command.iodir, IodirFields.mk.injEq, and_true]
  refine ⟨?_, ?_, ?_, ?_, ?_, ?_, ?_, ?_⟩
  · rw [hlow 0 7 (by decide), h0]
  · rw [hlow 7 3 (by decide), h7]
  · rw [hlow 10 2 (by decide), h10]
  · rw [hlow 12 20 (by decide), h12]
  · rw [hbit 32 (by decide), h32]
  · rw [hbit 33 (by decide), h33]
  · rw [hlow 34 6 (by decide), h34]
  · unfold iodirDw0
    rw [BitVec.extractLsb'_or, iodirDidOff, h40, extract_shiftLeft_self (by decide), BitVec.zero_or,
      (fits_enabled hd).setWidth_setWidth]

/-! ## Reading the commands of the driver back -/

/-- The page of an address fits its field of 52 bits, also with the lowest bit set, as for a range. -/
theorem fits_page (addr : Word) : Fits (addr >>> 12 ||| 1) 52 := by
  have h : Fits (addr >>> 12) 52 := fits_ushiftRight addr (by decide)
  unfold Fits at h ⊢
  rw [BitVec.toNat_or]
  exact Nat.or_lt_two_pow h (by decide)

/-- The second doubleword holds the page, with the flag in its lowest bit, and is clear elsewhere. -/
theorem extract_iotinvalDw1 (av : Bool) (addr : Word) :
    (iotinvalDw1 av addr).extractLsb' 0 10 = 0#10 ∧
    ((iotinvalDw1 av addr).extractLsb' 10 52).setWidth 64 = enabled av (addr >>> 12 ||| 1) ∧
    (iotinvalDw1 av addr).extractLsb' 62 2 = 0#2 := by
  have h : Fits (enabled av (addr >>> 12 ||| 1)) 52 := fits_enabled (fits_page addr)
  unfold iotinvalDw1
  rw [enabled_shiftLeft, iotinvalIovaOff]
  refine ⟨extract_shiftLeft_below (by decide), ?_, extract_shiftLeft_above h (by decide)⟩
  rw [extract_shiftLeft_self (by decide), h.setWidth_setWidth]

/-- The fields that the IOMMU reads from an `IOTINVAL.VMA` are those the driver has put there. -/
theorem iotinval_vma (newCmd : Command) (av gv pscv : Bool) (addr : Word) {gscid pscid : Word} (hg : Fits gscid 16)
    (hp : Fits pscid 20) :
    (rvIommuIotinvalVma newCmd av gv pscv addr gscid pscid).iotinval =
      { opcode := 1#7, func3 := 0#3, av := false, rsvd11 := false, pscid := enabled pscv pscid, pscv := pscv, gv := gv,
        rsvd34 := 0#10, gscid := enabled gv gscid, rsvd60 := 0#4, rsvd64 := 0#10,
        addr := enabled av (addr >>> 12 ||| 1), rsvd126 := 0#2 } := by
  obtain ⟨h0, h10, h62⟩ := extract_iotinvalDw1 av addr
  rw [rvIommuIotinvalVma_eq, iotinval_eq (Or.inl rfl) gv pscv _ (fits_enabled hg) (fits_enabled hp), h0, h10, h62]
  rfl

/-- The fields that the IOMMU reads from an `IOTINVAL.GVMA` are those the driver has put there. -/
theorem iotinval_gvma (newCmd : Command) (av gv : Bool) (addr : Word) {gscid : Word} (hg : Fits gscid 16) :
    (rvIommuIotinvalGvma newCmd av gv addr gscid).iotinval =
      { opcode := 1#7, func3 := 1#3, av := false, rsvd11 := false, pscid := 0#64, pscv := false, gv := gv,
        rsvd34 := 0#10, gscid := enabled gv gscid, rsvd60 := 0#4, rsvd64 := 0#10,
        addr := enabled av (addr >>> 12 ||| 1), rsvd126 := 0#2 } := by
  obtain ⟨h0, h10, h62⟩ := extract_iotinvalDw1 av addr
  have hp : Fits 0#64 20 := by decide
  rw [rvIommuIotinvalGvma_eq, iotinval_eq (Or.inr rfl) gv false _ (fits_enabled hg) hp, h0, h10, h62]
  rfl

/-- The fields that the IOMMU reads from the command of `rv_iommu_ddt_inval` are the arguments of the call. -/
theorem iodir_ddtInval (newCmd : Command) (dv : Bool) {deviceId : Word} (hd : Fits deviceId 24) :
    (rvIommuDdtInval newCmd dv deviceId).iodir =
      { opcode := 3#7, func3 := 0#3, rsvd10 := 0#2, pid := 0#20, rsvd32 := false, dv := dv, rsvd34 := 0#6,
        did := enabled dv deviceId, rsvd64 := 0#64 } := by
  rw [rvIommuDdtInval_eq, iodir_eq dv deviceId hd]

/-- A page with the flag in its lowest bit is not zero, so the field ADDR also tells whether the call gave an address. -/
theorem enabled_page_inj {av av' : Bool} {addr addr' : Word}
    (h : enabled av (addr >>> 12 ||| 1) = enabled av' (addr' >>> 12 ||| 1)) : av = av' := by
  have hbit : ∀ (b : Bool) (x : Word), (enabled b (x ||| 1)).getLsbD 0 = b := by
    intro b x
    cases b <;> simp [enabled]
  rw [← hbit av (addr >>> 12), h, hbit]

/-- The opcode of a call. -/
def Inval.opcode : Inval → BitVec 7
  | .ddtInval _ _ => 3#7
  | .iotinvalVma _ _ _ _ _ _ => 1#7
  | .iotinvalGvma _ _ _ _ => 1#7

/-- The function of a call. -/
def Inval.func3 : Inval → BitVec 3
  | .ddtInval _ _ => 0#3
  | .iotinvalVma _ _ _ _ _ _ => 0#3
  | .iotinvalGvma _ _ _ _ => 1#3

/-- Opcode and function tell the three calls apart. -/
theorem Inval.opcode_func3 (newCmd : Command) {i : Inval} (hi : i.InRange) :
    (i.command newCmd).iotinval.opcode = i.opcode ∧ (i.command newCmd).iotinval.func3 = i.func3 := by
  cases i with
  | ddtInval dv deviceId =>
    have h := iodir_ddtInval newCmd dv hi
    exact ⟨congrArg IodirFields.opcode h, congrArg IodirFields.func3 h⟩
  | iotinvalVma av gv pscv addr gscid pscid =>
    have h := iotinval_vma newCmd av gv pscv addr hi.1 hi.2
    exact ⟨congrArg IotinvalFields.opcode h, congrArg IotinvalFields.func3 h⟩
  | iotinvalGvma av gv addr gscid =>
    have h := iotinval_gvma newCmd av gv addr hi
    exact ⟨congrArg IotinvalFields.opcode h, congrArg IotinvalFields.func3 h⟩

/-- Two calls that queue the same command have sent the same, so a command determines what its call sent. -/
theorem Inval.sent_of_command {newCmd newCmd' : Command} {i j : Inval} (hi : i.InRange) (hj : j.InRange)
    (h : i.command newCmd = j.command newCmd') : i.sent = j.sent := by
  have hop := Inval.opcode_func3 newCmd hi
  have hop' := Inval.opcode_func3 newCmd' hj
  rw [h] at hop
  have h1 := hop.1.symm.trans hop'.1
  have h2 := hop.2.symm.trans hop'.2
  cases i with
  | ddtInval dv deviceId =>
    cases j with
    | ddtInval dv' deviceId' =>
      have hf : (Inval.command newCmd (.ddtInval dv deviceId)).iodir = _ := iodir_ddtInval newCmd dv hi
      rw [h, show (Inval.command newCmd' (.ddtInval dv' deviceId')).iodir = _ from iodir_ddtInval newCmd' dv' hj] at hf
      simp only [IodirFields.mk.injEq, true_and, and_true] at hf
      obtain ⟨rfl, hd⟩ := hf
      rw [Inval.sent, Inval.sent, hd]
    | iotinvalVma => exact absurd h1 (by simp [Inval.opcode])
    | iotinvalGvma => exact absurd h1 (by simp [Inval.opcode])
  | iotinvalVma av gv pscv addr gscid pscid =>
    cases j with
    | ddtInval => exact absurd h1 (by simp [Inval.opcode])
    | iotinvalVma av' gv' pscv' addr' gscid' pscid' =>
      have hf : (Inval.command newCmd (.iotinvalVma av gv pscv addr gscid pscid)).iotinval = _ :=
        iotinval_vma newCmd av gv pscv addr hi.1 hi.2
      rw [h, show (Inval.command newCmd' (.iotinvalVma av' gv' pscv' addr' gscid' pscid')).iotinval = _ from
        iotinval_vma newCmd' av' gv' pscv' addr' hj.1 hj.2] at hf
      simp only [IotinvalFields.mk.injEq, true_and, and_true] at hf
      obtain ⟨hp, rfl, rfl, hgs, ha⟩ := hf
      obtain rfl := enabled_page_inj ha
      rw [Inval.sent, Inval.sent, ha, hp, hgs]
    | iotinvalGvma => exact absurd h2 (by simp [Inval.func3])
  | iotinvalGvma av gv addr gscid =>
    cases j with
    | ddtInval => exact absurd h1 (by simp [Inval.opcode])
    | iotinvalVma => exact absurd h2 (by simp [Inval.func3])
    | iotinvalGvma av' gv' addr' gscid' =>
      have hf : (Inval.command newCmd (.iotinvalGvma av gv addr gscid)).iotinval = _ :=
        iotinval_gvma newCmd av gv addr hi
      rw [h, show (Inval.command newCmd' (.iotinvalGvma av' gv' addr' gscid')).iotinval = _ from
        iotinval_gvma newCmd' av' gv' addr' hj] at hf
      simp only [IotinvalFields.mk.injEq, true_and, and_true] at hf
      obtain ⟨rfl, hgs, ha⟩ := hf
      obtain rfl := enabled_page_inj ha
      rw [Inval.sent, Inval.sent, ha, hgs]

/-- What the call sent determines the command, whatever the stack held. -/
theorem Inval.command_of_sent (newCmd newCmd' : Command) {i j : Inval} (h : i.sent = j.sent) :
    i.command newCmd = j.command newCmd' := by
  cases i with
  | ddtInval dv deviceId =>
    cases j with
    | ddtInval dv' deviceId' =>
      simp only [Inval.sent, Inval.ddtInval.injEq] at h
      obtain ⟨rfl, hd⟩ := h
      simp only [Inval.command, rvIommuDdtInval_eq, iodirDw0, hd]
    | iotinvalVma => cases h
    | iotinvalGvma => cases h
  | iotinvalVma av gv pscv addr gscid pscid =>
    cases j with
    | ddtInval => cases h
    | iotinvalVma av' gv' pscv' addr' gscid' pscid' =>
      simp only [Inval.sent, Inval.iotinvalVma.injEq] at h
      obtain ⟨rfl, rfl, rfl, ha, hg, hp⟩ := h
      simp only [Inval.command, rvIommuIotinvalVma_eq, iotinvalDw0, iotinvalDw1, enabled_shiftLeft, ha, hg, hp]
    | iotinvalGvma => cases h
  | iotinvalGvma av gv addr gscid =>
    cases j with
    | ddtInval => cases h
    | iotinvalVma => cases h
    | iotinvalGvma av' gv' addr' gscid' =>
      simp only [Inval.sent, Inval.iotinvalGvma.injEq] at h
      obtain ⟨rfl, rfl, ha, hg⟩ := h
      simp only [Inval.command, rvIommuIotinvalGvma_eq, iotinvalDw0, iotinvalDw1, enabled_shiftLeft, ha, hg]

/-- A call without an address sends what it asks for. -/
theorem Inval.sent_eq_asked {i : Inval} (h : i.av = false) : i.sent = i.asked := by
  cases i with
  | ddtInval => rfl
  | iotinvalVma =>
    obtain rfl := h
    rfl
  | iotinvalGvma =>
    obtain rfl := h
    rfl

/-- The first doubleword does not depend on what the stack held before. -/
theorem DriverCall.dw0_command (call : DriverCall) (newCmd newCmd' : Command) :
    (call.command newCmd).dw0 = (call.command newCmd').dw0 := by
  cases call with
  | inval i =>
    cases i with
    | ddtInval dv _ => cases dv <;> rfl
    | iotinvalVma av gv pscv _ _ _ => cases av <;> cases gv <;> cases pscv <;> rfl
    | iotinvalGvma av gv _ _ => cases av <;> cases gv <;> rfl
  | iofenceC wsi av => cases wsi <;> cases av <;> rfl
  | induceFaultCq => rfl

end RvIommuTests
