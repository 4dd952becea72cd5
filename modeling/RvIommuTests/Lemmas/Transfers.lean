import RvIommuTests.Lemmas.TestContracts
import RvIommuTests.Transfers

/-!
# The data-transfer tests, beat by beat

The view of the devices that the tests have is a partial map of the doublewords of their pages (`Cells`), next to the registers of
the DMA device: what a test has written there, and what a transfer has copied. Each body is folded over the contract of this view.
-/

namespace RvIommuTests

open Bytes Shared TestAux

/-- What is known of the doublewords of the pages of the tests. -/
abbrev Cells : Type := Addr → Option Word

/-- The cells after the beats that are copied of a transfer. -/
def Cells.copy (copied : Nat → Bool) (src dst : Word) : Nat → Nat → Cells → Cells
  | 0, _, c => c
  | n + 1, i, c =>
    Cells.copy copied src dst n (i + 1)
      (if copied i then Function.update c (dst + BitVec.ofNat 64 (8 * i)) (c (src + BitVec.ofNat 64 (8 * i))) else c)

/-- The view of the devices. -/
structure CellView where
  cells : Cells
  srcAddr : Word
  destAddr : Word
  numBytes : Word
  ipsr : BitVec 2
  made : List Transfer

namespace CellView

/-- The number of beats of the next transfer. -/
def beats (v : CellView) : Nat := v.numBytes.toNat / 8

/-- A write to a register of the DMA device. -/
def write (v : CellView) : IdmaReg → Word → CellView
  | .srcAddr, x => { v with srcAddr := x }
  | .destAddr, x => { v with destAddr := x }
  | .numBytes, x => { v with numBytes := x }
  | .ipsr, x => { v with ipsr := v.ipsr &&& ~~~x.setWidth 2 }
  | _, _ => v

/-- After a transfer of which some beats were copied. -/
def transfer (v : CellView) (copied : Nat → Bool) : CellView :=
  { v with
    cells := Cells.copy copied v.srcAddr v.destAddr v.beats 0 v.cells
    ipsr := 3#2
    made := v.made ++ [⟨v.beats, copied⟩] }

/-- The contract: the tests write to their pages only, read what they know, and transfer to their pages. -/
def contract : Contract DevIo DevIo.Answer CellView where
  pre
    | .queue (.read64 a), v => (v.cells a).isSome
    | .queue (.write64 a _), _ => TestCell a
    | .idma (.read64 .nextTransferId), v => ∀ i < v.beats, TestCell (v.destAddr + BitVec.ofNat 64 (8 * i))
    | .store32 _ _, _ => False
    | _, _ => True
  post
    | .queue (.read64 a), v, r, v' => v.cells a = some r ∧ v' = v
    | .queue (.write64 a x), v, _, v' => v' = { v with cells := Function.update v.cells a (some x) }
    | .idma (.write64 r x), v, _, v' => v' = v.write r x
    | .idma (.read64 .nextTransferId), v, r, v' => (r = 0#64 ∧ v' = v) ∨ (r ≠ 0#64 ∧ ∃ copied, v' = v.transfer copied)
    | .idma (.read64 .ipsr), v, r, v' => r = v.ipsr.setWidth 64 ∧ v' = v
    | _, v, _, v' => v' = v

/-- The view is right: what it knows of a doubleword is what is there. -/
structure Sees (s : Lossy) (v : CellView) : Prop where
  cells : ∀ a x, v.cells a = some x → TestCell a ∧ load s.mem 8 a = x
  srcAddr : s.srcAddr = v.srcAddr
  destAddr : s.destAddr = v.destAddr
  numBytes : s.numBytes = v.numBytes
  ipsr : s.ipsr = v.ipsr
  made : s.made = v.made

end CellView

namespace TransferAux

open CellView

/-- Two different doublewords of the pages of the tests have no byte in common. -/
theorem apart_cells {a b : Addr} (ha : TestCell a) (hb : TestCell b) (hne : a ≠ b) : Apart a 8 b 8 := by
  have hpages : (testPpageBase .platform).toNat + testPageMax * pageSize = 0x88200000 := by decide
  obtain ⟨ha8, -, hal⟩ := ha
  obtain ⟨hb8, -, hbl⟩ := hb
  have hne' : a.toNat ≠ b.toNat := fun h => hne (BitVec.eq_of_toNat_eq h)
  exact apart_of_disjoint (by decide) (by decide) (by omega) (by omega) (by omega)

/-- After a store to a doubleword of a test page, the cells that were known still are, and that one has its new value. -/
theorem cells_store {m : Mem} {c : Cells} (h : ∀ a x, c a = some x → TestCell a ∧ load m 8 a = x) {b : Addr}
    (hb : TestCell b) {w : Word} {o : Option Word} (ho : ∀ x, o = some x → w = x) :
    ∀ a x, Function.update c b o a = some x → TestCell a ∧ load (store m 8 b w) 8 a = x := by
  intro a x hx
  by_cases hab : a = b
  · subst hab
    rw [Function.update_self] at hx
    exact ⟨hb, (@load_store_same m 8 (by decide) a w).trans (ho x hx)⟩
  · rw [Function.update_of_ne hab] at hx
    obtain ⟨hcell, hload⟩ := h a x hx
    exact ⟨hcell, (@load_store_apart m 8 8 b a w (apart_cells hb hcell (Ne.symm hab))).trans hload⟩

/-- The cells after a transfer, by induction over its beats. -/
theorem cells_copy {copied : Nat → Bool} {src dst : Word} (n : Nat) {i : Nat} {m : Mem} {c : Cells}
    (h : ∀ a x, c a = some x → TestCell a ∧ load m 8 a = x)
    (hdst : ∀ k, i ≤ k → k < i + n → TestCell (dst + BitVec.ofNat 64 (8 * k))) :
    ∀ a x, Cells.copy copied src dst n i c a = some x → TestCell a ∧ load (copyBeats copied src dst n i m) 8 a = x := by
  induction n generalizing i m c with
  | zero => exact h
  | succ n ih =>
    rw [Cells.copy, copyBeats]
    refine ih ?_ (fun k hk hkn => hdst k (by omega) (by omega))
    split
    · exact cells_store h (hdst i (Nat.le_refl i) (by omega)) fun x hx => (h _ x hx).2
    · exact h

/-- The lossy device keeps the contract of its view, whichever beats it copies. -/
theorem contract_keptBy : contract.KeptBy Lossy.world Sees := by
  have hquiet : ∀ {s s' : Lossy} {v : CellView}, Sees s v → s.Quiet s' → Sees s' v := by
    intro s s' v h hq
    have hrest := hq.rest
    refine ⟨?_, ?_, ?_, ?_, ?_, ?_⟩
    · intro a x hx
      obtain ⟨hcell, hload⟩ := h.cells a x hx
      exact ⟨hcell, (hq.mem a hcell).trans hload⟩
    · exact (congrArg Lossy.srcAddr hrest).trans h.srcAddr
    · exact (congrArg Lossy.destAddr hrest).trans h.destAddr
    · exact (congrArg Lossy.numBytes hrest).trans h.numBytes
    · exact (congrArg Lossy.ipsr hrest).trans h.ipsr
    · exact (congrArg Lossy.made hrest).trans h.made
  constructor
  · intro i s v r s' h hpre hsem
    cases i with
    | queue i =>
      cases i with
      | read64 a =>
        obtain ⟨rfl, rfl⟩ := hsem
        obtain ⟨x, hx⟩ := Option.isSome_iff_exists.1 hpre
        exact ⟨v, ⟨(h.cells a x hx).2 ▸ hx, rfl⟩, h⟩
      | write64 a x =>
        cases hsem
        refine ⟨_, rfl, ?_, h.srcAddr, h.destAddr, h.numBytes, h.ipsr, h.made⟩
        exact cells_store h.cells hpre fun y hy => Option.some.inj hy
      | read32 r => exact ⟨v, rfl, hquiet h hsem⟩
      | write32 r x => exact ⟨v, rfl, hquiet h hsem⟩
      | writeReg64 r x => exact ⟨v, rfl, hquiet h hsem⟩
    | idma i =>
      cases i with
      | write64 reg x =>
        cases hsem
        refine ⟨_, rfl, ?_⟩
        obtain ⟨h1, h2, h3, h4, h5, h6⟩ := h
        cases reg <;> constructor <;> simp_all [Lossy.write, CellView.write]
      | read64 reg =>
        cases reg with
        | nextTransferId =>
          rcases hsem with ⟨hr, rfl⟩ | ⟨hr, copied, rfl⟩
          · exact ⟨v, Or.inl ⟨hr, rfl⟩, h⟩
          · refine ⟨_, Or.inr ⟨hr, copied, rfl⟩, ?_⟩
            have hbeats : s.beats = v.beats := by rw [Lossy.beats, CellView.beats, h.numBytes]
            refine ⟨?_, h.srcAddr, h.destAddr, h.numBytes, rfl, ?_⟩
            · rw [Lossy.transfer, CellView.transfer, hbeats, h.srcAddr, h.destAddr]
              exact cells_copy v.beats h.cells fun k _ hk => hpre k (by omega)
            · rw [Lossy.transfer, CellView.transfer, hbeats, h.made]
        | ipsr =>
          obtain ⟨rfl, rfl⟩ := hsem
          exact ⟨v, ⟨by rw [h.ipsr], rfl⟩, h⟩
        | srcAddr => exact ⟨v, rfl, hquiet h hsem⟩
        | destAddr => exact ⟨v, rfl, hquiet h hsem⟩
        | numBytes => exact ⟨v, rfl, hquiet h hsem⟩
        | config => exact ⟨v, rfl, hquiet h hsem⟩
        | lastTransferIdComplete => exact ⟨v, rfl, hquiet h hsem⟩
    | load32 a =>
      obtain ⟨-, rfl⟩ := hsem
      exact ⟨v, rfl, h⟩
    | store32 a x => exact hpre.elim
    | getCtl32 r => exact ⟨v, rfl, hquiet h hsem⟩
    | setCtl32 r x => exact ⟨v, rfl, hquiet h hsem⟩
    | getCtl64 r => exact ⟨v, rfl, hquiet h hsem⟩
    | setCtl64 r x => exact ⟨v, rfl, hquiet h hsem⟩
    | setDc setter => exact ⟨v, rfl, hquiet h hsem⟩
    | s1ptSwitch => exact ⟨v, rfl, hquiet h hsem⟩
    | s2ptSwitch => exact ⟨v, rfl, hquiet h hsem⟩
    | cycles => exact ⟨v, rfl, hquiet h hsem⟩
    | srand seed => exact ⟨v, rfl, hquiet h hsem⟩
    | rand => exact ⟨v, rfl, hquiet h hsem⟩
    | stack => exact ⟨v, rfl, hquiet h hsem⟩
    | printf text x => exact ⟨v, rfl, hquiet h hsem⟩
  · exact fun s v s' h he => hquiet h he

/-! ## Rules -/

variable {v : CellView} {as : List (String × Bool)}

/-- The view after a store. -/
def put (v : CellView) (a : Addr) (x : Word) : CellView := { v with cells := Function.update v.cells a (some x) }

/-- A write to a doubleword of a test page is known afterwards. -/
theorem wp_write64 (a : Addr) (x : Word) (Q : Unit → CellView × List (String × Bool) → Prop) :
    wp contract.body (Body.queue (write64 a x)) Q (v, as) ↔ TestCell a ∧ Q () (put v a x, as) := by
  rw [wp_queue, write64, wp_queue_call]
  exact and_congr Iff.rfl ⟨fun h => h () _ rfl, fun h r d hd => hd ▸ h⟩

/-- A check of a doubleword that is known compares the known value. -/
theorem wp_holds {a : Addr} {x y : Word} (ha : v.cells a = some x) (Q : Bool → CellView × List (String × Bool) → Prop) :
    wp contract.body (Body.holds a y) Q (v, as) ↔ Q (x == y) (v, as) := by
  rw [Body.holds, wp_bind, wp_queue, read64, wp_queue_call]
  constructor
  · exact fun h => h.2 x v ⟨ha, rfl⟩
  · refine fun h => ⟨Option.isSome_iff_exists.2 ⟨x, ha⟩, ?_⟩
    rintro r d ⟨hr, rfl⟩
    obtain rfl := Option.some.inj (ha.symm.trans hr)
    exact h

/-- The access of a test to the IOMMU that the view does not show. -/
theorem wp_setCtl64 (r : Ctl64) (x : Word) (Q : Unit → CellView × List (String × Bool) → Prop) :
    wp contract.body (Body.dev (.setCtl64 r x)) Q (v, as) ↔ Q () (v, as) := by
  rw [wp_dev]
  exact ⟨fun h => h.2 () v rfl, fun h => ⟨trivial, fun r d hd => hd ▸ h⟩⟩

/-- A setter of the device context does not touch the pages. -/
theorem wp_setDc (setter : DcSetter) (Q : Unit → CellView × List (String × Bool) → Prop) :
    wp contract.body (Body.dev (.setDc setter)) Q (v, as) ↔ Q () (v, as) := by
  rw [wp_dev]
  exact ⟨fun h => h.2 () v rfl, fun h => ⟨trivial, fun r d hd => hd ▸ h⟩⟩

/-- A write to a register of the DMA device, in the view. -/
theorem wp_idmaWrite (r : IdmaReg) (x : Word) (Q : Unit → CellView → Prop) :
    wp contract.idma (idmaWrite r x) Q v ↔ Q () (v.write r x) := by
  rw [idmaWrite, wp_idma_call]
  exact ⟨fun h => h.2 () _ rfl, fun h => ⟨trivial, fun r d hd => hd ▸ h⟩⟩

/-- A read of the interrupt pending bits returns the known ones. -/
theorem wp_readIpsr (Q : Word → CellView × List (String × Bool) → Prop) :
    wp contract.body (Body.idma (idmaRead .ipsr)) Q (v, as) ↔ Q (v.ipsr.setWidth 64) (v, as) := by
  rw [wp_idma, idmaRead, wp_idma_call]
  exact ⟨fun h => h.2 _ v ⟨rfl, rfl⟩, fun h => ⟨trivial, fun r d hd => hd.2 ▸ hd.1 ▸ h⟩⟩

/-- A call of `idma_exec_transfer` returns 0 after a transfer of which some beats were copied, or -1 without one. -/
theorem wp_exec {Q : Int → CellView → Prop} (hdst : ∀ i < v.beats, TestCell (v.destAddr + BitVec.ofNat 64 (8 * i)))
    (hok : ∀ copied, Q 0 (v.transfer copied)) (hbad : Q (-1) v) : wp contract.idma idmaExecTransfer Q v := by
  rw [idmaExecTransfer, wp_bind, idmaRead, wp_idma_call]
  refine ⟨hdst, ?_⟩
  intro r d h
  rcases h with ⟨rfl, rfl⟩ | ⟨hr, copied, rfl⟩
  · exact hbad
  · rw [if_neg hr, wp_bind]
    refine ⟨trivial, ?_⟩
    rintro last d ⟨_, rfl, rfl⟩
    split
    · exact hok copied
    · rfl

/-- The view after `idma_setup`. -/
def aim (v : CellView) (src dst n : Word) : CellView := { v with srcAddr := src, destAddr := dst, numBytes := n }

/-- The end of a transfer whose registers are set up: the test goes on whatever was copied. -/
theorem wp_transfer {setup : IdmaDriver Unit} {Q : Unit → CellView × List (String × Bool) → Prop} {src dst n : Word}
    (hsetup : ∀ R : Unit → CellView → Prop, R () (aim v src dst n) → wp contract.idma setup R v)
    (hdst : ∀ i < n.toNat / 8, TestCell (dst + BitVec.ofNat 64 (8 * i)))
    (hQ : ∀ copied, Q () ((aim v src dst n).transfer copied, as)) : wp contract.body (Body.transfer setup) Q (v, as) := by
  rw [Body.transfer, wp_bind, wp_idma]
  apply hsetup
  rw [wp_bind, wp_idma]
  apply wp_exec (v := aim v src dst n) hdst
  · exact hQ
  · exact (wp_error _ _).2 trivial

/-- A transfer that `idma_setup` makes copies some of its beats, when all of them go to test pages. -/
theorem wp_setup {src dst n : Word} {Q : Unit → CellView × List (String × Bool) → Prop}
    (hdst : ∀ i < n.toNat / 8, TestCell (dst + BitVec.ofNat 64 (8 * i)))
    (hQ : ∀ copied, Q () ((aim v src dst n).transfer copied, as)) :
    wp contract.body (Body.transfer (idmaSetup src dst n)) Q (v, as) := by
  refine wp_transfer ?_ hdst hQ
  intro R h
  simp only [idmaSetup, wp_bind, wp_idmaWrite]
  exact h

/-- A transfer that `idma_setup_addr` makes copies some of its beats, of the length set up before. -/
theorem wp_setupAddr {src dst n : Word} {Q : Unit → CellView × List (String × Bool) → Prop} (hn : v.numBytes = n)
    (hdst : ∀ i < n.toNat / 8, TestCell (dst + BitVec.ofNat 64 (8 * i)))
    (hQ : ∀ copied, Q () ((aim v src dst n).transfer copied, as)) :
    wp contract.body (Body.transfer (idmaSetupAddr src dst)) Q (v, as) := by
  subst hn
  refine wp_transfer ?_ hdst hQ
  intro R h
  simp only [idmaSetupAddr, wp_bind, wp_idmaWrite]
  exact h

/-! ## What a transfer leaves -/

section

variable {copied : Nat → Bool} {src dst : Word}

/-- A transfer leaves the doublewords that none of its beats goes to. -/
theorem copy_other (n : Nat) {i : Nat} {c : Cells} {a : Addr}
    (h : ∀ j, i ≤ j → j < i + n → a ≠ dst + BitVec.ofNat 64 (8 * j)) : Cells.copy copied src dst n i c a = c a := by
  induction n generalizing i c with
  | zero => rfl
  | succ n ih =>
    rw [Cells.copy, ih fun j hj hjn => h j (by omega) (by omega)]
    split
    · exact Function.update_of_ne (h i (Nat.le_refl i) (by omega)) _ _
    · rfl

/-- A beat that does not read what another beat has written. -/
theorem copy_beat (n : Nat) {i k : Nat} {c : Cells} (hik : i ≤ k) (hkn : k < i + n)
    (hsrc : ∀ j, i ≤ j → j < i + n → src + BitVec.ofNat 64 (8 * k) ≠ dst + BitVec.ofNat 64 (8 * j))
    (hdst : ∀ j, i ≤ j → j < i + n → j ≠ k → dst + BitVec.ofNat 64 (8 * k) ≠ dst + BitVec.ofNat 64 (8 * j)) :
    Cells.copy copied src dst n i c (dst + BitVec.ofNat 64 (8 * k)) =
      if copied k then c (src + BitVec.ofNat 64 (8 * k)) else c (dst + BitVec.ofNat 64 (8 * k)) := by
  induction n generalizing i c with
  | zero => omega
  | succ n ih =>
    rw [Cells.copy]
    by_cases hk : k = i
    · subst hk
      rw [copy_other n fun j hj hjn => hdst j (by omega) (by omega) (by omega)]
      split
      · exact Function.update_self _ _ _
      · rfl
    · rw [ih (by omega) (by omega) (fun j hj hjn => hsrc j (by omega) (by omega))
        (fun j hj hjn => hdst j (by omega) (by omega))]
      have hs := hsrc i (Nat.le_refl i) (by omega)
      have hd := hdst i (Nat.le_refl i) (by omega) (Ne.symm hk)
      by_cases hc : copied i = true
      · simp only [hc, if_true, Function.update_of_ne hs, Function.update_of_ne hd]
      · rw [if_neg hc]

end

/-- The first cells of two pages of the tests are apart from each other. -/
def Disjoint (src dst : Word) (n : Nat) : Prop :=
  ∀ j < n, ∀ k < n, src + BitVec.ofNat 64 (8 * k) ≠ dst + BitVec.ofNat 64 (8 * j) ∧
    (j ≠ k → dst + BitVec.ofNat 64 (8 * k) ≠ dst + BitVec.ofNat 64 (8 * j))

instance (src dst : Word) (n : Nat) : Decidable (Disjoint src dst n) := by
  unfold Disjoint
  infer_instance

/-- The cells after a transfer between given addresses. -/
theorem transfer_cells (v : CellView) (src dst n : Word) (copied : Nat → Bool) :
    ((aim v src dst n).transfer copied).cells = Cells.copy copied src dst (n.toNat / 8) 0 v.cells := rfl

/-- A transfer is added to those made, with its number of beats. -/
theorem transfer_made (v : CellView) (src dst : Word) {n : Word} (copied : Nat → Bool) {m : Nat} (hm : n.toNat / 8 = m) :
    ((aim v src dst n).transfer copied).made = v.made ++ [⟨m, copied⟩] := by
  subst hm
  rfl

/-- A transfer between cells that are known: a beat that was copied is what was read, and one that was lost is what was there. -/
theorem transfer_cell {v : CellView} {src dst n : Word} (copied : Nat → Bool) (hd : Disjoint src dst (n.toNat / 8)) (k : Nat)
    (hk : k < n.toNat / 8) {a b : Addr} (ha : a = dst + BitVec.ofNat 64 (8 * k)) (hb : b = src + BitVec.ofNat 64 (8 * k))
    {x y : Word} (hx : v.cells b = some x) (hy : v.cells a = some y) :
    ((aim v src dst n).transfer copied).cells a = some (if copied k then x else y) := by
  subst ha hb
  rw [transfer_cells, copy_beat (n.toNat / 8) (Nat.zero_le k) (by omega), hx, hy]
  · split <;> rfl
  · exact fun j _ hj => (hd j (by omega) k hk).1
  · exact fun j _ hj hne => (hd j (by omega) k hk).2 hne

/-- A cell that no beat of a transfer goes to holds afterwards what it held before. -/
theorem transfer_other {v : CellView} {src dst n : Word} (copied : Nat → Bool) {a : Addr} {x : Word}
    (h : ∀ j < n.toNat / 8, a ≠ dst + BitVec.ofNat 64 (8 * j)) (hx : v.cells a = some x) :
    ((aim v src dst n).transfer copied).cells a = some x := by
  rw [transfer_cells, copy_other (n.toNat / 8) fun j _ hj => h j (by omega), hx]

/-! ## Three beats -/

/-- The three doublewords from an address on. -/
structure Holds3 (v : CellView) (a : Addr) (x y z : Word) : Prop where
  first : v.cells a = some x
  second : v.cells (a + 8#64) = some y
  third : v.cells (a + 16#64) = some z

/-- The destination after a transfer of three beats to cleared doublewords. -/
theorem transfer3 {src dst x y z : Word} (c : Nat → Bool) (hd : Disjoint src dst ((24#64).toNat / 8))
    (hsrc : Holds3 v src x y z) (hdst : Holds3 v dst 0#64 0#64 0#64) :
    Holds3 ((aim v src dst 24#64).transfer c) dst (if c 0 then x else 0#64) (if c 1 then y else 0#64)
      (if c 2 then z else 0#64) := by
  constructor
  · exact transfer_cell c hd 0 (by decide) (BitVec.add_zero dst).symm (BitVec.add_zero src).symm hsrc.first hdst.first
  · exact transfer_cell c hd 1 (by decide) rfl rfl hsrc.second hdst.second
  · exact transfer_cell c hd 2 (by decide) rfl rfl hsrc.third hdst.third

/-- Three doublewords that no beat of a transfer goes to hold afterwards what they held before. -/
theorem transfer3_other {src dst a x y z : Word} (c : Nat → Bool)
    (hd : ∀ j < (24#64).toNat / 8, a ≠ dst + BitVec.ofNat 64 (8 * j) ∧ a + 8#64 ≠ dst + BitVec.ofNat 64 (8 * j) ∧
      a + 16#64 ≠ dst + BitVec.ofNat 64 (8 * j)) (h : Holds3 v a x y z) :
    Holds3 ((aim v src dst 24#64).transfer c) a x y z := by
  constructor
  · exact transfer_other c (fun j hj => (hd j hj).1) h.first
  · exact transfer_other c (fun j hj => (hd j hj).2.1) h.second
  · exact transfer_other c (fun j hj => (hd j hj).2.2) h.third

/-- The check of three doublewords compares each with its known value, as far as the ones before it are equal. -/
theorem wp_check3 {a x y z x' y' z' : Word} (h : Holds3 v a x y z) (Q : Bool → CellView × List (String × Bool) → Prop) :
    wp contract.body ((Body.holds a x').and ((Body.holds (a + 8#64) y').and (Body.holds (a + 16#64) z'))) Q (v, as) ↔
      Q (x == x' && (y == y' && z == z')) (v, as) := by
  simp only [wp_and, wp_holds h.first, wp_holds h.second, wp_holds h.third]
  cases x == x' <;> cases y == y' <;> rfl

/-- `iommu_bare` compares the second and the third beat of its transfer, and no other. -/
theorem iommuBareBody_wp (link : TestLink) (v : CellView) :
    wp contract.body (iommuBareBody link)
      (fun _ g => ∃ c : Nat → Bool, g.1.made = v.made ++ [⟨3, c⟩] ∧
        g.2 = [("Memory transfer with IOMMU in Bare mode: All values match", c 1 && c 2)]) (v, []) := by
  simp only [iommuBareBody, wp_bind, Body.setIommu]
  rw [wp_setCtl64]
  simp only [wp_write64]
  refine ⟨by decide, by decide, by decide, by decide, by decide, by decide, ?_⟩
  refine wp_setup (by decide) ?_
  intro c
  generalize hv : put _ _ _ = v'
  have hmade : v'.made = v.made := by rw [← hv]; rfl
  have hw := @transfer3 v' (phys .iommuBareR) (phys .iommuBareW) 0x00#64 0x10#64 0x20#64 c (by decide)
    (hv ▸ ⟨rfl, rfl, rfl⟩) (hv ▸ ⟨rfl, rfl, rfl⟩)
  rw [wp_check3 hw, wp_assert]
  refine ⟨c, (transfer_made v' _ _ c (m := 3) (by decide)).trans (by rw [hmade]), ?_⟩
  cases c 0 <;> cases c 1 <;> cases c 2 <;> rfl

/-- `idma_only_mult_beats` compares two beats of its first transfer, and all three of its second. -/
theorem idmaOnlyMultipleBeatsBody_wp (v : CellView) :
    wp contract.body idmaOnlyMultipleBeatsBody
      (fun _ g => ∃ c d : Nat → Bool, g.1.made = v.made ++ [⟨3, c⟩, ⟨3, d⟩] ∧
        g.2 = [("Multi-beat transfers without IOMMU", (c 1 && c 2) && (d 0 && (d 1 && d 2)))]) (v, []) := by
  simp only [idmaOnlyMultipleBeatsBody, wp_bind, wp_write64]
  refine ⟨by decide, by decide, by decide, by decide, by decide, by decide, by decide, by decide, by decide, by decide,
    by decide, by decide, ?_⟩
  refine wp_setup (by decide) ?_
  intro c
  generalize hv : put _ _ _ = v'
  have hmade : v'.made = v.made := by rw [← hv]; rfl
  have h1 := @transfer3 v' (phys .iommuOffR) (phys .iommuOffW) 0x00#64 0x10#64 0x20#64 c (by decide)
    (hv ▸ ⟨rfl, rfl, rfl⟩) (hv ▸ ⟨rfl, rfl, rfl⟩)
  have hr2 := @transfer3_other v' (phys .iommuOffR) (phys .iommuOffW) (phys .iommuBareR) 0x80#64 0x90#64 0xA0#64 c (by decide)
    (hv ▸ ⟨rfl, rfl, rfl⟩)
  have hw2 := @transfer3_other v' (phys .iommuOffR) (phys .iommuOffW) (phys .iommuBareW) 0#64 0#64 0#64 c (by decide)
    (hv ▸ ⟨rfl, rfl, rfl⟩)
  have hmade1 := @transfer_made v' (phys .iommuOffR) (phys .iommuOffW) 24#64 c 3 (by decide)
  have hn : ((aim v' (phys .iommuOffR) (phys .iommuOffW) 24#64).transfer c).numBytes = 24#64 := rfl
  generalize (aim v' _ _ _).transfer c = w at h1 hr2 hw2 hmade1 hn ⊢
  rw [wp_check3 h1]
  refine wp_setupAddr hn (by decide) ?_
  intro d
  rw [wp_check3 (transfer3 d (by decide) hr2 hw2), wp_assert]
  refine ⟨c, d, ?_, ?_⟩
  · rw [transfer_made w _ _ d (m := 3) (by decide), hmade1, hmade, List.append_assoc]
    rfl
  · cases c 0 <;> cases c 1 <;> cases c 2 <;> cases d 0 <;> cases d 1 <;> cases d 2 <;> rfl

/-! ## One beat -/

/-- What two tests have after the first of their two transfers of one beat. -/
structure FirstDone (v : CellView) (copied : Nat → Bool) (w : CellView) : Prop where
  made : w.made = v.made ++ [⟨1, copied⟩]
  writePaddr1 : w.cells (phys .bareTransW1) = some (if copied 0 then 0x11#64 else 0#64)
  readPaddr2 : w.cells (phys .bareTransR2) = some 0x22#64
  writePaddr2 : w.cells (phys .bareTransW2) = some 0#64
  numBytes : w.numBytes = 8#64
  ipsr : w.ipsr = 3#2

/-- The stores of the two tests, and their first transfer. -/
theorem wp_first {Q : Unit → CellView × List (String × Bool) → Prop} (h : ∀ c w, FirstDone v c w → Q () (w, as)) :
    TestCell (phys .bareTransR1) ∧ TestCell (phys .bareTransR2) ∧ TestCell (phys .bareTransW1) ∧ TestCell (phys .bareTransW2) ∧
      wp contract.body (Body.transfer (idmaSetup (phys .bareTransR1) (phys .bareTransW1) 8#64)) Q
        (put (put (put (put v (phys .bareTransR1) 0x11#64) (phys .bareTransR2) 0x22#64) (phys .bareTransW1) 0#64)
          (phys .bareTransW2) 0#64, as) := by
  refine ⟨by decide, by decide, by decide, by decide, ?_⟩
  refine wp_setup (by decide) ?_
  intro c
  apply h c
  refine ⟨transfer_made _ _ _ c (by decide), ?_, ?_, ?_, rfl, rfl⟩
  · exact transfer_cell c (by decide) 0 (by decide) (by decide) rfl rfl rfl
  · exact transfer_other c (by decide) rfl
  · exact transfer_other c (by decide) rfl

/-- The second transfer of these tests copies its beat or not, whatever the test has made of `ipsr` before it. -/
theorem wp_second {v w : CellView} {c : Nat → Bool} (hw : FirstDone v c w) (ipsr : BitVec 2)
    {Q : Unit → CellView × List (String × Bool) → Prop}
    (h : ∀ d w', w'.made = v.made ++ [⟨1, c⟩, ⟨1, d⟩] → w'.cells (phys .bareTransW2) = some (if d 0 then 0x22#64 else 0#64) →
      Q () (w', as)) :
    wp contract.body (Body.transfer (idmaSetupAddr (phys .bareTransR2) (phys .bareTransW2))) Q ({ w with ipsr := ipsr }, as) := by
  refine wp_setupAddr hw.numBytes (by decide) ?_
  intro d
  apply h d
  · rw [transfer_made _ _ _ d (m := 1) (by decide), hw.made, List.append_assoc]
    rfl
  · exact transfer_cell d (by decide) 0 (by decide) (by decide) (by decide) hw.readPaddr2 hw.writePaddr2

/-- `both_stages_bare` makes two transfers of one beat and compares each. -/
theorem bothStagesBareBody_wp (link : TestLink) (v : CellView) :
    wp contract.body (bothStagesBareBody link)
      (fun _ g => ∃ c d : Nat → Bool, g.1.made = v.made ++ [⟨1, c⟩, ⟨1, d⟩] ∧
        g.2 = [("Bare translation: First value matches", c 0), ("Bare translation: Second value matches", d 0)]) (v, []) := by
  simp only [bothStagesBareBody, wp_bind, Body.setIommu]
  rw [wp_setCtl64, wp_setDc, wp_setDc]
  simp only [wp_write64]
  refine wp_first ?_
  intro c w hw
  simp only [wp_holds hw.writePaddr1, wp_assert]
  refine wp_second hw w.ipsr ?_
  intro d w' hmade hw2
  rw [wp_holds hw2]
  refine ⟨c, d, hmade, ?_⟩
  cases c 0 <;> cases d 0 <;> rfl

/-- `idma_only` compares the beat of its second transfer only when interrupts are on, and those of both when they are off. -/
theorem idmaOnlyBody_wp (idmaIrqEn : Bool) (v : CellView) :
    wp contract.body (idmaOnlyBody idmaIrqEn)
      (fun _ g => ∃ c d : Nat → Bool, g.1.made = v.made ++ [⟨1, c⟩, ⟨1, d⟩] ∧
        g.2 = if idmaIrqEn then [("iDMA interrupt pending bits set", true),
            ("iDMA interrupt pending bits cleared after writing 1", true), ("Single transfer without IOMMU", d 0)]
          else [("Single transfer without IOMMU", c 0 && d 0)]) (v, []) := by
  simp only [idmaOnlyBody, wp_bind, wp_write64]
  refine wp_first ?_
  intro c w hw
  rw [wp_holds hw.writePaddr1]
  cases idmaIrqEn with
  | false =>
    simp only [Bool.false_eq_true, if_false, wp_bind]
    refine wp_second hw w.ipsr ?_
    intro d w' hmade hw2
    rw [wp_holds hw2, wp_assert]
    refine ⟨c, d, hmade, ?_⟩
    cases c 0 <;> cases d 0 <;> rfl
  | true =>
    simp only [if_true, wp_bind, wp_assert]
    rw [wp_readIpsr, wp_idma, wp_idmaWrite, wp_readIpsr]
    refine wp_second hw (w.ipsr &&& ~~~(0x03#64 : Word).setWidth 2) ?_
    intro d w' hmade hw2
    rw [wp_holds hw2]
    refine ⟨c, d, hmade, ?_⟩
    simp only [CellView.write, hw.ipsr]
    cases d 0 <;> rfl

end TransferAux

end RvIommuTests
