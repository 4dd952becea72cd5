import RvIommuTests.Lemmas.DebugMap
import RvIommuTests.Lemmas.FaultQueue
import RvIommuTests.Lemmas.TestContracts
import RvIommuTests.Soc

/-!
# What the tests know of the devices

The platform as a test has it in view: the modes it has set, how often it has switched the tables, its data, the MRIF, and the
faults that it has not read. The platform keeps a contract about this view, in which a request goes where the map says.
-/

namespace RvIommuTests

open Bytes Fields Paging Shared DdtCacheAux IotlbAux RequestMapAux DebugMapAux QueuesAux FaultQueueAux

namespace SocAux

variable {link : TestLink} {x y : Region} {a : Addr} {n : Nat} {m m' : Mem}

/-! ## The image -/

/-- The objects of the image, each behind the first 512 bytes of the RAM, in terms of numbers. -/
theorem image_bounds (h : ImagePlaced link) :
    (∀ o ∈ link.objects, 0x80000200 ≤ o.1.toNat ∧ o.1.toNat + o.2 ≤ 0x801ff000) := by
  intro o ho
  obtain ⟨h1, h2⟩ := h.inBss o ho
  have hmod : o.1.toNat % 512 = 0 := by
    have ha := h.aligned
    have hr := h.rootAligned
    have hm := h.mrifAligned
    simp only [List.mem_cons, List.not_mem_nil, or_false, forall_eq_or_imp, forall_eq, pageSize] at ha hr
    simp only [TestLink.objects, List.mem_cons, List.not_mem_nil, or_false] at ho
    rcases ho with rfl | rfl | rfl | rfl | rfl | rfl | rfl | rfl <;> dsimp only <;> omega
  unfold memBase at h1 h2
  omega

/-- No byte belongs to two objects of the image, because the linker has put them apart from each other. -/
theorem object_unique (h : ImagePlaced link) {i j : Nat} {o p : Addr × Nat} (hi : link.objects[i]? = some o)
    (hj : link.objects[j]? = some p) (ho : InObject o.1 o.2 a) (hp : InObject p.1 p.2 a) : i = j := by
  obtain ⟨hil, rfl⟩ := List.getElem?_eq_some_iff.1 hi
  obtain ⟨hjl, rfl⟩ := List.getElem?_eq_some_iff.1 hj
  have hapart := List.pairwise_iff_getElem.1 h.apart
  unfold InObject at ho hp
  rcases Nat.lt_trichotomy i j with hlt | heq | hgt
  · have := hapart i j hil hjl hlt
    omega
  · exact heq
  · have := hapart j i hjl hil hgt
    omega

/-- The regions of the objects. The two tables that are no region count as data, which are elsewhere. -/
def owners : List Region := [.commands, .faults, .data, .tables, .tables, .tables, .data, .mrif]

/-- A byte of a region is one of the data or of an object. -/
theorem region_object (hx : Region.Has link x a) :
    (x = .data ∧ Region.Has link .data a) ∨
      ∃ (i : Nat) (o : Addr × Nat), link.objects[i]? = some o ∧ owners[i]? = some x ∧ InObject o.1 o.2 a := by
  have hgrow : ∀ {base : Addr} {k l : Nat}, InObject base k a → k ≤ l → InObject base l a :=
    fun h hle => ⟨h.1, Nat.lt_of_lt_of_le h.2 (Nat.add_le_add_left hle _)⟩
  cases x with
  | data => exact Or.inl ⟨rfl, hx⟩
  | mrif => exact Or.inr ⟨7, _, rfl, rfl, hx⟩
  | tables =>
    rcases hx with hx | hx | hx
    · exact Or.inr ⟨3, _, rfl, rfl, hx⟩
    · exact Or.inr ⟨4, _, rfl, rfl, hx⟩
    · exact Or.inr ⟨5, _, rfl, rfl, hx⟩
  | faults => exact Or.inr ⟨1, _, rfl, rfl, hgrow hx (show nEntries * 32 ≤ 64 * 4 * 8 * 8 by decide)⟩
  | commands => exact Or.inr ⟨0, _, rfl, rfl, hgrow hx (show nEntries * 16 ≤ 64 * 2 * 8 * 8 by decide)⟩

/-- The data of the tests are outside of every object of the image, which the linker has placed apart from them. -/
theorem data_outside (h : ImagePlaced link) (ha : Region.Has link .data a) {o : Addr × Nat} (ho : o ∈ link.objects)
    (hoa : InObject o.1 o.2 a) : False := by
  obtain ⟨h1, h2⟩ := image_bounds h o ho
  obtain ⟨h3, h4⟩ := hoa
  rcases ha with ⟨h5, h6⟩ | ⟨h5, h6⟩
  · rw [show (0x80000000#64).toNat = 0x80000000 from rfl] at h5 h6
    omega
  · rw [show (0x83008000#64).toNat = 0x83008000 from rfl] at h5 h6
    omega

/-- No byte belongs to two regions, as each region is an object of the image, the page tables together, or the data. -/
theorem regions_disjoint (h : ImagePlaced link) (x y : Region) (a : Addr) (hx : Region.Has link x a)
    (hy : Region.Has link y a) : x = y := by
  rcases region_object hx with ⟨rfl, hxd⟩ | ⟨i, o, hi, hxi, ho⟩
  · rcases region_object hy with ⟨rfl, -⟩ | ⟨j, p, hj, -, hp⟩
    · rfl
    · exact (data_outside h hxd (List.mem_of_getElem? hj) hp).elim
  · rcases region_object hy with ⟨rfl, hyd⟩ | ⟨j, p, hj, hyj, hp⟩
    · exact (data_outside h hyd (List.mem_of_getElem? hi) ho).elim
    · obtain rfl := object_unique h hi hj ho hp
      exact Option.some.inj (hxi.symm.trans hyj)

/-! ## Placements -/

/-- An object of the image that starts a page is placed where the base registers can hold it. -/
theorem placed_of (h : ImagePlaced link) (i : Nat) {base : Addr} {size : Nat} (ho : link.objects[i]? = some (base, size))
    (ha : base.toNat % pageSize = 0) : Placed base := by
  obtain ⟨-, h2⟩ := image_bounds h _ (List.mem_of_getElem? ho)
  dsimp only at h2
  refine ⟨ha, ?_⟩
  unfold Fields.Fits
  omega

/-- The command queue starts a page that its base register can hold. -/
theorem placed_commandQueue (h : ImagePlaced link) : Placed link.commandQueue := placed_of h 0 rfl (h.aligned _ (by simp))

/-- The fault queue starts a page that its base register can hold. -/
theorem placed_faultQueue (h : ImagePlaced link) : Placed link.faultQueue := placed_of h 1 rfl (h.aligned _ (by simp))

/-- The root of the device directory table starts a page that `ddtp` can hold. -/
theorem placed_rootDdt (h : ImagePlaced link) : Placed link.rootDdt := placed_of h 2 rfl (h.aligned _ (by simp))

/-- The MSI page table starts a page that the device contexts can hold. -/
theorem placed_msiPt (h : ImagePlaced link) : Placed link.msiPt := placed_of h 6 rfl (h.aligned _ (by simp))

/-- An image that is placed has its page tables placed. -/
theorem tablesPlaced (h : ImagePlaced link) : TablesPlaced Config.platform link.toLink := by
  have hb := image_bounds h
  have hp := h.apart
  have ha := h.aligned
  simp only [TestLink.objects, List.mem_cons, List.not_mem_nil, or_false, forall_eq_or_imp, forall_eq, List.pairwise_cons,
    List.Pairwise.nil, and_true] at hb hp ha
  obtain ⟨-, -, -, hs1, hroot, hs2, -⟩ := hb
  obtain ⟨-, -, -, ⟨hs1root, hs1s2, -⟩, ⟨hroots2, -⟩, -⟩ := hp
  have hram : Config.platform.memBase = 0x80000000 ∧ Config.platform.memBase + Config.platform.memSize = 0x90000000 :=
    ⟨rfl, rfl⟩
  obtain ⟨hram1, hram2⟩ := hram
  refine ⟨ha.2.2.2.1, h.rootAligned, ha.2.2.2.2.1, ⟨?_, ?_⟩, ⟨?_, ?_⟩, ⟨?_, ?_⟩, hs1root, hs1s2, hroots2⟩ <;> omega

end SocAux

/-! ## The view -/

/-- The platform in the view of the tests. -/
structure View where
  mode : DdtpMode
  modes : DcModes
  exchanged : Exchanged
  /-- The memory, of which the data are shown. -/
  mem : Mem
  /-- The doublewords of the MRIF. -/
  mrif : Nat → Word
  /-- The records that were read, and those that are in the queue. -/
  got : List Record
  pending : List Record
  fqh : Word32
  fip : Bool
  trReqIova : Word
  trReqCtl : Word
  trResponse : Word
  srcAddr : Word
  destAddr : Word
  numBytes : Word

namespace View

/-- What becomes of a request of the device under test. -/
def resolve (link : TestLink) (v : View) (q : TransRequest) : Except Cause Target :=
  match v.mode with
  | .off => .error .allInbTransactionsDisallowed
  | .bare => .ok (.mem q.iova.toNat)
  | .oneLvl => requestMap link.mrif v.modes v.exchanged q

/-- A fault is reported. -/
def report (v : View) (r : Record) : View := { v with pending := v.pending ++ [r], fip := true }

/-- An interrupt identity is written to the MRIF. -/
def deliver (v : View) (nid : BitVec 11) (noticeAddr : Addr) (identity : Word32) : View :=
  if identity.toNat < 2 ^ 11 then
    let i := 2 * (identity.toNat / 64)
    let mrif := Function.update v.mrif i (v.mrif i ||| 1#64 <<< (identity.toNat % 64))
    { v with
      mrif := mrif
      mem := if (mrif (i + 1)).getLsbD (identity.toNat % 64) then store v.mem 4 noticeAddr (nid.setWidth 32) else v.mem }
  else v

/-- The transfers whose outcome the tests know. -/
inductive Transfers (link : TestLink) (v : View) (c : Soc.Choice) : View → Prop where
  /-- The bytes are copied. -/
  | copied (a b : Nat) : v.resolve link (.ofRead v.srcAddr) = .ok (.mem a) → v.resolve link (.ofWrite v.destAddr) = .ok (.mem b) →
      Within (Region.Has link .data) (BitVec.ofNat 64 b) v.numBytes.toNat →
      Within (Region.Has link .data) (BitVec.ofNat 64 a) v.numBytes.toNat →
      Transfers link v c { v with mem := copy v.mem (BitVec.ofNat 64 b) (BitVec.ofNat 64 a) v.numBytes.toNat }
  /-- A word is written to the MRIF. -/
  | delivered (a : Nat) (nid : BitVec 11) (noticeAddr : Addr) : v.resolve link (.ofRead v.srcAddr) = .ok (.mem a) →
      v.resolve link (.ofWrite v.destAddr) = .ok (.mrif link.mrif nid noticeAddr) → v.numBytes.toNat = 4 →
      Within (Region.Has link .data) (BitVec.ofNat 64 a) 4 → Within (Region.Has link .data) noticeAddr 4 →
      Transfers link v c (v.deliver nid noticeAddr (load v.mem 4 (BitVec.ofNat 64 a)))
  /-- The write is refused. -/
  | dropped (a : Nat) (cause : Cause) : v.resolve link (.ofRead v.srcAddr) = .ok (.mem a) →
      v.resolve link (.ofWrite v.destAddr) = .error cause → Transfers link v c (v.report (c.writeRecord.fault cause v.destAddr))
  /-- The read and the write are refused. -/
  | refused (cause cause' : Cause) : v.resolve link (.ofRead v.srcAddr) = .error cause →
      v.resolve link (.ofWrite v.destAddr) = .error cause' →
      Transfers link v c ((v.report (c.readRecord.fault cause v.srcAddr)).report (c.writeRecord.fault cause' v.destAddr))

/-- A request of the debug interface. -/
def debug (v : View) (r : Record) : View :=
  let outcome := debugMap v.modes v.exchanged ((dbgReq v.trReqCtl).request v.trReqIova)
  let v' := { v with trResponse := trResponseTo outcome }
  match outcome with
  | .ok _ => v'
  | .error c => v'.report (r.fault c v.trReqIova)

/-- What a test knows of a doubleword. -/
inductive Reads (link : TestLink) (v : View) : Addr → Word → Prop where
  | data (a : Addr) : Within (Region.Has link .data) a 8 → Reads link v a (load v.mem 8 a)
  | mrif (i : Nat) : i < 64 → Reads link v (link.mrif + BitVec.ofNat 64 (8 * i)) (v.mrif i)
  | fault (r : Record) (rest : List Record) (k : Nat) : v.pending = r :: rest → k < 4 →
      Reads link v (((link.faultQueue &&& ppnMask) ||| (v.fqh <<< 5).setWidth 64) + BitVec.ofNat 64 (8 * k)) (r.dw k)

/-- What a test, or the driver, writes to a doubleword. -/
inductive Writes (link : TestLink) (v : View) : Addr → Word → View → Prop where
  | data (a : Addr) (x : Word) : Within (Region.Has link .data) a 8 → Writes link v a x { v with mem := store v.mem 8 a x }
  | mrif (i : Nat) (x : Word) : i < 64 →
      Writes link v (link.mrif + BitVec.ofNat 64 (8 * i)) x { v with mrif := Function.update v.mrif i x }
  | command (a : Addr) (x : Word) : Within (Region.Has link .commands) a 8 → Writes link v a x v

/-- A write to a register of the DMA device. -/
def writeIdma (v : View) : IdmaReg → Word → View
  | .srcAddr, x => { v with srcAddr := x }
  | .destAddr, x => { v with destAddr := x }
  | .numBytes, x => { v with numBytes := x }
  | _, _ => v

/-- The queue has room for two more records. -/
def Room (v : View) : Prop := v.pending.length + 2 < 64

/-- The contract: what the tests do to the platform, as far as they know what comes of it. -/
def contract (link : TestLink) : Contract DevIo DevIo.Answer View where
  pre
    | .queue (.read64 a), v => ∃ x, Reads link v a x
    | .queue (.write64 a x), v => ∃ v', Writes link v a x v'
    | .queue (.read32 _), _ => True
    | .queue (.write32 .cqt _), _ => True
    | .queue (.write32 .fqh x), v => x = v.fqh + 1#32 ∧ v.pending ≠ []
    | .queue _, _ => False
    | .idma (.read64 .nextTransferId), v => InOnePage v.srcAddr v.numBytes.toNat ∧ InOnePage v.destAddr v.numBytes.toNat ∧
      v.Room ∧ ∀ c, ∃ v', Transfers link v c v'
    | .setCtl64 .ddtp x, _ => ∃ mode : DdtpMode, x = ((link.rootDdt >>> 2) &&& ddtpPpnMask) ||| mode.code
    | .setCtl64 .trReqCtl x, v => x.getLsbD 0 = true → v.mode = .oneLvl ∧ (dbgReq x).did = idmaId ∧ v.Room
    | .load32 a, _ => Within (Region.Has link .data) a 4
    | .store32 a _, _ => Within (Region.Has link .data) a 4
    | _, _ => True
  post
    | .queue (.read64 a), v, r, v' => (∀ x, Reads link v a x → r = x) ∧ v' = v
    | .queue (.write64 a x), v, _, v' => ∀ w, Writes link v a x w → v' = w
    | .queue (.read32 .cqt), v, r, v' => r.toNat < 64 ∧ v' = v
    | .queue (.read32 .fqh), v, r, v' => r = v.fqh ∧ v' = v
    | .queue (.read32 .fqt), v, r, v' => (r = v.fqh ↔ v.pending = []) ∧ v' = v
    | .queue (.write32 .fqh _), v, _, v' => ∃ fqh,
      v' = { v with got := v.got ++ v.pending.take 1, pending := v.pending.tail, fqh := fqh }
    | .idma (.read64 .nextTransferId), v, r, v' => r ≠ 0#64 ∧ ∃ c, Transfers link v c v'
    | .idma (.write64 r x), v, _, v' => v' = v.writeIdma r x
    | .getCtl32 .ipsr, v, r, v' => r = (if v.fip then fipMask else 0#32) ∧ v' = v
    | .setCtl32 .ipsr x, v, _, v' => v' = { v with fip := v.fip && x &&& fipMask == 0#32 }
    | .setCtl64 .ddtp x, v, _, v' =>
      ∃ mode : DdtpMode, x = ((link.rootDdt >>> 2) &&& ddtpPpnMask) ||| mode.code ∧ v' = { v with mode := mode }
    | .getCtl64 .trReqIova, v, r, v' => r = v.trReqIova ∧ v' = v
    | .setCtl64 .trReqIova x, v, _, v' => v' = { v with trReqIova := x }
    | .getCtl64 .trReqCtl, v, r, v' => r = v.trReqCtl ∧ v' = v
    | .setCtl64 .trReqCtl x, v, _, v' =>
      let w := { v with trReqCtl := x &&& ~~~trReqCtlGoBit }
      if x.getLsbD 0 then ∃ r, v' = w.debug r else v' = w
    | .getCtl64 .trResponse, v, r, v' => r = v.trResponse ∧ v' = v
    | .load32 a, v, r, v' => r = load v.mem 4 a ∧ v' = v
    | .store32 a x, v, _, v' => v' = { v with mem := store v.mem 4 a x }
    | .setDc setter, v, _, v' => v' = { v with modes := v.modes.set setter }
    | .s1ptSwitch, v, _, v' => v' = { v with exchanged := Function.update v.exchanged .first (!v.exchanged .first) }
    | .s2ptSwitch, v, _, v' => v' = { v with exchanged := Function.update v.exchanged .second (!v.exchanged .second) }
    | _, v, _, v' => v' = v

end View

/-- The view is right. -/
structure Shows (link : TestLink) (s : Soc) (v : View) : Prop where
  fq : FqInv link.toLink v.got v.pending s.io
  fqh : s.io.fqh = v.fqh
  recording : s.io.recording = none
  fqcsr : s.io.fqcsr = csrEnable ||| csrOn
  cqb : s.io.cqb = qbOf link.commandQueue
  cqt : s.io.cqt.toNat < 64
  data : ∀ a, Region.Has link .data a → s.io.mem a = v.mem a
  mrif : ∀ i < 64, load s.io.mem 8 (link.mrif + BitVec.ofNat 64 (8 * i)) = v.mrif i
  tables : TablesAt link.toLink v.exchanged s.io.mem
  rootDdt : s.rootDdt did = dcAt link.toLink v.modes
  msiPt : ∀ i < msiNEntries, s.msiPt.entry i = msiEntryFor link.mrif i
  mode : ddtpMode s.ddtp = some v.mode
  base : v.mode = .oneLvl → queueBase s.ddtp = link.rootDdt
  fip : s.fip = v.fip
  trReqIova : s.trReqIova = v.trReqIova
  trReqCtl : s.trReqCtl = v.trReqCtl
  trResponse : s.trResponse = v.trResponse
  srcAddr : s.srcAddr = v.srcAddr
  destAddr : s.destAddr = v.destAddr
  numBytes : s.numBytes = v.numBytes

namespace SocAux

variable {link : TestLink} {x y : Region} {a : Addr} {n : Nat} {m m' : Mem} {s : Soc} {v : View}

/-! ## Ranges in the regions -/

/-- A range of an object that does not wrap. -/
theorem within_object {base : Addr} {l i : Nat} (hb : base.toNat + l ≤ 2 ^ 64) (hi : i + n ≤ l) :
    Within (InObject base l) (base + BitVec.ofNat 64 i) n := by
  intro k hk
  rw [BitVec.add_assoc, ← BitVec.ofNat_add]
  unfold InObject
  rw [toNat_add_offset (by omega)]
  omega

/-- A doubleword of the MRIF lies in the region of the MRIF. -/
theorem within_mrif (h : ImagePlaced link) {i : Nat} (hi : i < 64) :
    Within (Region.Has link .mrif) (link.mrif + BitVec.ofNat 64 (8 * i)) 8 := by
  obtain ⟨-, hb⟩ := image_bounds h (link.mrif, 64 * 8) (by simp [TestLink.objects])
  dsimp only at hb
  exact within_object (by omega) (by omega)

/-- A doubleword of a fault record lies in the region of the fault queue. -/
theorem within_faults (h : ImagePlaced link) {i k : Nat} (hi : i < 64) (hk : k < 4) :
    Within (Region.Has link .faults) (link.faultQueue + BitVec.ofNat 64 (32 * i + 8 * k)) 8 := by
  have hb := (placed_faultQueue h).fits
  unfold Fields.Fits at hb
  exact within_object (l := nEntries * 32) (by unfold nEntries; omega) (by unfold nEntries; omega)

/-- A doubleword of a command lies in the region of the command queue. -/
theorem within_commands (h : ImagePlaced link) {i k : Nat} (hi : i < 64) (hk : k < 2) :
    Within (Region.Has link .commands) (link.commandQueue + BitVec.ofNat 64 (16 * i) + BitVec.ofNat 64 (8 * k)) 8 := by
  have hb := (placed_commandQueue h).fits
  unfold Fields.Fits at hb
  rw [BitVec.add_assoc, ← BitVec.ofNat_add]
  exact within_object (l := nEntries * 16) (by unfold nEntries; omega) (by unfold nEntries; omega)

/-- An entry of a page table lies in the region of the page tables. -/
theorem within_tables (h : ImagePlaced link) (t : PtTable) {i : Nat} (hi : i < t.size) :
    Within (Region.Has link .tables) (t.base link.toLink + BitVec.ofNat 64 (8 * i)) 8 := by
  have hb := image_bounds h
  have hin : ∀ {base : Addr} {size : Nat}, (base, size) ∈ link.objects → ∀ {j : Nat}, j + 8 ≤ size →
      Within (InObject base size) (base + BitVec.ofNat 64 j) 8 := by
    intro base size ho j hj
    obtain ⟨-, hend⟩ := hb _ ho
    dsimp only at hend
    exact within_object (by omega) hj
  have h1 : (link.s1pt, 6 * pageSize) ∈ link.objects := by simp [TestLink.objects]
  have h2 : (link.s2ptRoot, 4 * pageSize) ∈ link.objects := by simp [TestLink.objects]
  have h3 : (link.s2pt, 5 * pageSize) ∈ link.objects := by simp [TestLink.objects]
  cases t with
  | s1 k =>
    unfold PtTable.base s1ptTable
    rw [BitVec.add_assoc, ← BitVec.ofNat_add]
    exact fun j hj => Or.inl (hin h1 (by simp only [PtTable.size, pageSize] at *; omega) j hj)
  | root => exact fun j hj => Or.inr (Or.inl (hin h2 (by simp only [PtTable.size, pageSize] at *; omega) j hj))
  | s2 k =>
    unfold PtTable.base s2ptTable
    rw [BitVec.add_assoc, ← BitVec.ofNat_add]
    exact fun j hj => Or.inr (Or.inr (hin h3 (by simp only [PtTable.size, pageSize] at *; omega) j hj))

/-- A range of the data, in terms of numbers. -/
def InData (a : Addr) (n : Nat) : Prop :=
  (0x80000000 ≤ a.toNat ∧ a.toNat + n ≤ 0x80000008) ∨ (0x83008000 ≤ a.toNat ∧ a.toNat + n ≤ 0x90000000)

instance (a : Addr) (n : Nat) : Decidable (InData a n) := inferInstanceAs (Decidable (_ ∨ _))

/-- What lies in a page of the tests lies in the region of the data. -/
theorem within_data (link : TestLink) (h : InData a n) : Within (Region.Has link .data) a n := by
  intro k hk
  have hadd : (a + BitVec.ofNat 64 k).toNat = a.toNat + k := toNat_add_offset (by unfold InData at h; omega)
  change InObject _ _ _ ∨ InObject _ _ _
  unfold InObject
  rw [hadd, show (0x80000000#64).toNat = 0x80000000 from rfl, show (0x83008000#64).toNat = 0x83008000 from rfl]
  unfold InData at h
  omega

/-! ## What a change of one region leaves -/

/-- A change within any region but that of the page tables leaves the tables as they were, exchanged or not. -/
theorem tables_onlyIn (h : ImagePlaced link) (hm : OnlyIn (Region.Has link) x m m') (hx : x ≠ .tables) {ex : Exchanged}
    (ht : TablesAt link.toLink ex m) : TablesAt link.toLink ex m' := by
  intro t i hi
  rw [← ht t i hi]
  unfold entryAt
  rw [BitVec.ofNat_add, BitVec.ofNat_toNat, BitVec.setWidth_eq]
  exact hm.load_eq (Ne.symm hx) (within_tables h t hi)

/-- A change within any region but that of the MRIF leaves its 64 doublewords as they were. -/
theorem mrif_onlyIn (h : ImagePlaced link) (hm : OnlyIn (Region.Has link) x m m') (hx : x ≠ .mrif) {words : Nat → Word}
    (hw : ∀ i < 64, load m 8 (link.mrif + BitVec.ofNat 64 (8 * i)) = words i) :
    ∀ i < 64, load m' 8 (link.mrif + BitVec.ofNat 64 (8 * i)) = words i :=
  fun i hi => (hm.load_eq (Ne.symm hx) (within_mrif h hi)).trans (hw i hi)

/-- Memory that the view shows of the queue's registers too. -/
theorem fq_onlyIn (h : ImagePlaced link) {got pending : List Record} {io io' : Iommu}
    (hm : OnlyIn (Region.Has link) x io.mem io'.mem) (hx : x ≠ .faults) (hfqb : io'.fqb = io.fqb) (hfqh : io'.fqh = io.fqh)
    (hfqt : io'.fqt = io.fqt) (hfqcsr : io'.fqcsr = io.fqcsr) (hacc : io'.accepted = io.accepted)
    (hrec : io'.recording = io.recording) (hfq : FqInv link.toLink got pending io) : FqInv link.toLink got pending io' := by
  refine fqInv_frame (placed_faultQueue h) hfq ⟨hfqb, hfqh, hfqt, hfqcsr, hacc, hrec, ?_⟩
  intro k hk
  have hb := (placed_faultQueue h).fits
  unfold Fields.Fits at hb
  have hw := @within_object 1 link.faultQueue (nEntries * 32) k (by unfold nEntries; omega) (by unfold nEntries; omega) 0
    (by decide)
  refine hm .faults _ (Ne.symm hx) ?_
  rwa [show BitVec.ofNat 64 0 = 0#64 from rfl, BitVec.add_zero] at hw

/-- The view after a change of the memory outside of the fault queue, and of what the view does not show of the registers. -/
theorem shows_mem (h : ImagePlaced link) (hs : Shows link s v) (hm : OnlyIn (Region.Has link) x s.io.mem m') (hx : x ≠ .faults)
    {mem : Mem} {mrif : Nat → Word} {ex : Exchanged} (hdata : ∀ a, Region.Has link .data a → m' a = mem a)
    (hmrif : ∀ i < 64, load m' 8 (link.mrif + BitVec.ofNat 64 (8 * i)) = mrif i) (htables : TablesAt link.toLink ex m')
    (cqh cqcsr : Word32) (fetched : List Command) :
    Shows link { s with io := { s.io with mem := m', cqh := cqh, cqcsr := cqcsr, fetched := fetched } }
      { v with mem := mem, mrif := mrif, exchanged := ex } :=
  ⟨fq_onlyIn h hm hx rfl rfl rfl rfl rfl rfl hs.fq, hs.fqh, hs.recording, hs.fqcsr, hs.cqb, hs.cqt, hdata, hmrif, htables,
    hs.rootDdt, hs.msiPt, hs.mode, hs.base, hs.fip, hs.trReqIova, hs.trReqCtl, hs.trResponse, hs.srcAddr, hs.destAddr,
    hs.numBytes⟩

/-- When the memory changes in the data only, the view shows the platform with the data changed alike. -/
theorem shows_data (h : ImagePlaced link) (hs : Shows link s v) (hm : OnlyIn (Region.Has link) .data s.io.mem m') {mem : Mem}
    (hdata : ∀ a, Region.Has link .data a → m' a = mem a) :
    Shows link { s with io := { s.io with mem := m' } } { v with mem := mem } :=
  shows_mem h hs hm (by decide) hdata (mrif_onlyIn h hm (by decide) hs.mrif) (tables_onlyIn h hm (by decide) hs.tables) _ _ _

/-- When the memory changes in the MRIF only, the view shows the platform with the words of the MRIF replaced. -/
theorem shows_mrif (h : ImagePlaced link) (hs : Shows link s v) (hm : OnlyIn (Region.Has link) .mrif s.io.mem m')
    {mrif : Nat → Word} (hmrif : ∀ i < 64, load m' 8 (link.mrif + BitVec.ofNat 64 (8 * i)) = mrif i) :
    Shows link { s with io := { s.io with mem := m' } } { v with mrif := mrif } :=
  shows_mem h hs hm (by decide) (fun a ha => (hm .data a (by decide) ha).trans (hs.data a ha)) hmrif
    (tables_onlyIn h hm (by decide) hs.tables) _ _ _

/-- What the IOMMU does to the command queue, its registers and the commands it has fetched is nothing that the view shows. -/
theorem shows_commands (h : ImagePlaced link) (hs : Shows link s v) (hm : OnlyIn (Region.Has link) .commands s.io.mem m')
    (cqh cqcsr : Word32) (fetched : List Command) :
    Shows link { s with io := { s.io with mem := m', cqh := cqh, cqcsr := cqcsr, fetched := fetched } } v :=
  shows_mem h hs hm (by decide) (fun a ha => (hm .data a (by decide) ha).trans (hs.data a ha))
    (mrif_onlyIn h hm (by decide) hs.mrif) (tables_onlyIn h hm (by decide) hs.tables) _ _ _

/-! ## Accesses to memory -/

/-- What is loaded from the data of the platform is what is loaded from those of the view. -/
theorem load_data (hs : Shows link s v) (ha : Within (Region.Has link .data) a n) : load s.io.mem n a = load v.mem n a :=
  load_congr fun k hk => hs.data _ (ha k hk)

/-- A doubleword whose value is known is read so from memory. -/
theorem load_reads (h : ImagePlaced link) (hs : Shows link s v) {w : Word} (hr : v.Reads link a w) : load s.io.mem 8 a = w := by
  cases hr with
  | data _ ha => exact load_data hs ha
  | mrif i hi => exact hs.mrif i hi
  | fault r rest k hp hk => exact load_fqHead (placed_faultQueue h) ⟨⟨rest, hp ▸ hs.fq⟩, hs.fqh⟩ hk

/-- A store to the data of the platform is shown as the same store to the data of the view. -/
theorem shows_store (h : ImagePlaced link) (hs : Shows link s v) (ha : Within (Region.Has link .data) a n)
    (w : BitVec (8 * n)) :
    Shows link { s with io := { s.io with mem := store s.io.mem n a w } } { v with mem := store v.mem n a w } :=
  shows_data h hs (onlyIn_store (regions_disjoint h) ha w) fun b hb => store_congr (hs.data b hb) a w

/-- A store to a doubleword of the MRIF is shown as a new value of that doubleword. -/
theorem shows_store_mrif (h : ImagePlaced link) (hs : Shows link s v) {i : Nat} (hi : i < 64) (w : Word) :
    Shows link { s with io := { s.io with mem := store s.io.mem 8 (link.mrif + BitVec.ofNat 64 (8 * i)) w } }
      { v with mrif := Function.update v.mrif i w } := by
  refine shows_mrif h hs (onlyIn_store (regions_disjoint h) (within_mrif h hi) w) ?_
  intro j hj
  by_cases hji : j = i
  · subst hji
    rw [Function.update_self]
    exact load_store_same _ (by decide) _ _
  · rw [Function.update_of_ne hji, ← hs.mrif j hj]
    exact load_store_apart _ _ (apart_offsets (by omega) (by omega) (by omega) (by decide) (by decide))

/-- A doubleword that is written where the view knows of a cell is shown in that cell afterwards. -/
theorem shows_writes (h : ImagePlaced link) (hs : Shows link s v) {w : Word} {v' : View} (hw : v.Writes link a w v') :
    Shows link { s with io := { s.io with mem := store s.io.mem 8 a w } } v' := by
  cases hw with
  | data _ _ ha => exact shows_store h hs ha w
  | mrif i _ hi => exact shows_store_mrif h hs hi w
  | command _ _ ha => exact shows_commands h hs (onlyIn_store (regions_disjoint h) ha w) _ _ _

/-- The view after a write is determined by the address and the value, as no address is that of two cells. -/
theorem writes_unique (h : ImagePlaced link) {w : Word} {v₁ v₂ : View} (h₁ : v.Writes link a w v₁) (h₂ : v.Writes link a w v₂) :
    v₁ = v₂ := by
  have hfirst : ∀ {x : Region}, Within (Region.Has link x) a 8 → Region.Has link x a := by
    intro x ha
    have ha0 := ha 0 (by decide)
    rwa [show BitVec.ofNat 64 0 = 0#64 from rfl, BitVec.add_zero] at ha0
  have hregion : ∀ {x y : Region}, Within (Region.Has link x) a 8 → Within (Region.Has link y) a 8 → x = y :=
    fun hx hy => regions_disjoint h _ _ a (hfirst hx) (hfirst hy)
  cases h₁ with
  | data _ _ ha =>
    cases h₂ with
    | data => rfl
    | mrif i _ hi => exact nomatch hregion ha (within_mrif h hi)
    | command _ _ hb => exact nomatch hregion ha hb
  | mrif i _ hi =>
    have hm := within_mrif h hi
    generalize hb : link.mrif + BitVec.ofNat 64 (8 * i) = b at h₂ hregion hm
    cases h₂ with
    | data _ _ ha => exact nomatch hregion ha hm
    | mrif j _ hj =>
      obtain rfl : i = j := by
        have hoff := congrArg (fun b => (b - link.mrif).toNat) hb
        rw [offset_toNat _ (by omega), offset_toNat _ (by omega)] at hoff
        omega
      rfl
    | command _ _ ha => exact nomatch hregion ha hm
  | command _ _ ha =>
    cases h₂ with
    | data _ _ hb => exact nomatch hregion ha hb
    | mrif i _ hi => exact nomatch hregion ha (within_mrif h hi)
    | command => rfl

/-! ## Faults -/

/-- The fault queue keeps its invariant when a record is put at its tail, and the record is the last of the pending ones. -/
theorem fqInv_enqueue (hq : Placed link.faultQueue) {got pending : List Record} {io : Iommu}
    (hfq : FqInv link.toLink got pending io) (hrec : io.recording = none) (hfull : ¬ io.Full) (r : Record) :
    FqInv link.toLink got (pending ++ [r]) (io.enqueue r) := by
  have h0 := fqInv_accept hfq r hrec hfull
  have h1 := fqInv_write hq h0 (k := 0) rfl (by decide)
  have h2 := fqInv_write hq h1 (k := 1) rfl (by decide)
  have h3 := fqInv_write hq h2 (k := 2) rfl (by decide)
  have h4 := fqInv_write hq h3 (k := 3) rfl (by decide)
  have h5 := fqInv_publish h4 rfl
  unfold Iommu.enqueue
  rw [← hrec] at h5
  exact h5

/-- A record put into the fault queue changes nothing else in memory. -/
theorem onlyIn_enqueue (h : ImagePlaced link) {io : Iommu} (hfqb : io.fqb = qbOf link.faultQueue) (hfqt : io.fqt.toNat < 64)
    (r : Record) : OnlyIn (Region.Has link) .faults io.mem (io.enqueue r).mem := by
  have hstore : ∀ (m : Mem) {k : Nat}, k < 4 → ∀ w : Word,
      OnlyIn (Region.Has link) .faults m (store m 8 (io.recordAddr io.fqt.toNat k) w) := by
    intro m k hk w
    refine onlyIn_store (n := 8) (regions_disjoint h) ?_ w
    rw [@recordAddr_eq link.toLink io (placed_faultQueue h) hfqb]
    exact within_faults h hfqt hk
  exact (((hstore _ (by decide) _).trans (hstore _ (by decide) _)).trans (hstore _ (by decide) _)).trans
    (hstore _ (by decide) _)

/-- A fault that is reported while the queue has room is shown as the last of the pending records. -/
theorem shows_report (h : ImagePlaced link) (hs : Shows link s v) (hroom : v.pending.length + 1 < 64) (r : Record) :
    Shows link (s.report r) (v.report r) := by
  have hfull : ¬ s.io.Full := by
    rw [full_iff hs.fq]
    omega
  have hon : On s.io.fqcsr := by
    rw [hs.fqcsr]
    decide
  have hie : s.io.fqcsr.getLsbD 1 = true := by
    rw [hs.fqcsr]
    decide
  have hm := onlyIn_enqueue h hs.fq.programmed hs.fq.holds.tail_lt r
  unfold Soc.report View.report
  rw [if_neg (not_not_intro hon), if_neg hfull, hie, Bool.or_true]
  exact ⟨fqInv_enqueue (placed_faultQueue h) hs.fq hs.recording hfull r, hs.fqh, hs.recording, hs.fqcsr, hs.cqb, hs.cqt,
    fun a ha => (hm .data a (by decide) ha).trans (hs.data a ha), mrif_onlyIn h hm (by decide) hs.mrif,
    tables_onlyIn h hm (by decide) hs.tables, hs.rootDdt, hs.msiPt, hs.mode, hs.base, rfl, hs.trReqIova, hs.trReqCtl,
    hs.trResponse, hs.srcAddr, hs.destAddr, hs.numBytes⟩

/-! ## Requests -/

/-- The context that the IOMMU uses for the device under test is the one that the mode and the setters of the view stand for. -/
theorem context_did (hs : Shows link s v) {id : Nat} (hid : id = did) : s.context link id =
    match v.mode with
    | .off => .error .allInbTransactionsDisallowed
    | .bare => .ok none
    | .oneLvl => .ok (some (dcAt link.toLink v.modes)) := by
  subst hid
  unfold Soc.context
  rw [hs.mode]
  cases hmode : v.mode with
  | off => rfl
  | bare => rfl
  | oneLvl =>
    have hvalid : (dcAt link.toLink v.modes).tc.getLsbD 0 = true := by
      change dcTcBasic.getLsbD 0 = true
      decide
    dsimp only
    rw [if_neg (by decide), if_neg (not_not_intro (hs.base hmode)), hs.rootDdt, if_pos hvalid]

/-- A request of the device under test is resolved on the platform as the view says, with the same target or the same cause. -/
theorem resolve_shows (h : ImagePlaced link) (hs : Shows link s v) (q : TransRequest) : s.resolve link q = v.resolve link q := by
  unfold Soc.resolve View.resolve
  rw [context_did hs rfl]
  cases v.mode with
  | off => rfl
  | bare => rfl
  | oneLvl => exact resolve_eq (tablesPlaced h) (placed_msiPt h).fits hs.tables hs.msiPt v.modes q

/-- A request that the view resolves to a target reaches it, and reports nothing. -/
theorem serve_ok (h : ImagePlaced link) (hs : Shows link s v) {q : TransRequest} {t : Target} (hq : v.resolve link q = .ok t)
    (r : Record) : s.serve link q r = (some t, s) := by
  unfold Soc.serve
  rw [resolve_shows h hs, hq]

/-- A request that faults reaches no target, and its fault is reported. -/
theorem serve_error (h : ImagePlaced link) (hs : Shows link s v) {q : TransRequest} {c : Cause}
    (hq : v.resolve link q = .error c) (r : Record) : s.serve link q r = (none, s.report (r.fault c q.iova)) := by
  unfold Soc.serve
  rw [resolve_shows h hs, hq]

/-! ## Transfers -/

/-- When bytes of the data are copied to other data, the view shows the same copy. -/
theorem shows_copy (h : ImagePlaced link) (hs : Shows link s v) {dst src : Addr} (hd : Within (Region.Has link .data) dst n)
    (hsrc : Within (Region.Has link .data) src n) :
    Shows link { s with io := { s.io with mem := copy s.io.mem dst src n } } { v with mem := copy v.mem dst src n } := by
  refine shows_data h hs ?_ ?_
  · exact fun y b hne hb => copy_outside (outside_of_within (regions_disjoint h) hd hne hb)
  · intro b hb
    unfold copy
    split
    · rename_i hlt
      have hin := hsrc _ hlt
      rw [BitVec.ofNat_toNat, BitVec.setWidth_eq] at hin
      exact hs.data _ hin
    · exact hs.data b hb

/-- When an interrupt identity is delivered to the MRIF, the view shows the pending bit and the notice that is written for it. -/
theorem shows_deliver (h : ImagePlaced link) (hs : Shows link s v) {noticeAddr : Addr}
    (hn : Within (Region.Has link .data) noticeAddr 4) (nid : BitVec 11) (identity : Word32) :
    Shows link { s with io := { s.io with mem := deliver link.mrif nid noticeAddr identity s.io.mem } }
      (v.deliver nid noticeAddr identity) := by
  unfold RvIommuTests.deliver View.deliver
  by_cases hid : identity.toNat < 2 ^ 11
  · have hi : 2 * (identity.toNat / 64) + 1 < 64 := by omega
    have hoff : BitVec.ofNat 64 (16 * (identity.toNat / 64)) = BitVec.ofNat 64 (8 * (2 * (identity.toNat / 64))) := by
      congr 1
      omega
    have hnext : link.mrif + BitVec.ofNat 64 (8 * (2 * (identity.toNat / 64))) + 8#64 =
        link.mrif + BitVec.ofNat 64 (8 * (2 * (identity.toNat / 64) + 1)) := by
      rw [BitVec.add_assoc, show 8#64 = BitVec.ofNat 64 8 from rfl, ← BitVec.ofNat_add]
      rfl
    rw [if_pos hid, if_pos hid]
    dsimp only
    rw [hoff, hnext, hs.mrif _ (by omega)]
    have hset := shows_store_mrif h hs (i := 2 * (identity.toNat / 64)) (by omega)
      (v.mrif (2 * (identity.toNat / 64)) ||| 1#64 <<< (identity.toNat % 64))
    rw [hset.mrif _ hi]
    split
    · exact shows_store h hset hn _
    · exact hset
  · rw [if_neg hid, if_neg hid]
    exact hs

/-- A transfer whose outcome the view knows leaves the platform as that view shows it, whatever the unread bytes and the records
are. -/
theorem shows_transfer (h : ImagePlaced link) (hs : Shows link s v) (hroom : v.Room) {c : Soc.Choice} {v' : View}
    (ht : v.Transfers link c v') : Shows link (s.transfer link c) v' := by
  have hsrc : s.srcAddr = v.srcAddr := hs.srcAddr
  have hdest : s.destAddr = v.destAddr := hs.destAddr
  have hnum : s.numBytes = v.numBytes := hs.numBytes
  unfold View.Room at hroom
  unfold Soc.transfer
  dsimp only
  rw [hsrc]
  cases ht with
  | copied a b hr hw hb ha =>
    rw [serve_ok h hs hr]
    dsimp only
    rw [hdest, serve_ok h hs hw]
    dsimp only
    have hmem : Soc.move s.numBytes.toNat (some (.mem a)) (some (.mem b)) c.unread s.io.mem =
        copy s.io.mem (BitVec.ofNat 64 b) (BitVec.ofNat 64 a) v.numBytes.toNat := by
      rw [hnum]
      rfl
    rw [hmem]
    exact shows_copy h hs hb ha
  | delivered a nid noticeAddr hr hw hn ha hnotice =>
    rw [serve_ok h hs hr]
    dsimp only
    rw [hdest, serve_ok h hs hw]
    dsimp only
    have hload : load s.io.mem 4 (BitVec.ofNat 64 a) = load v.mem 4 (BitVec.ofNat 64 a) := load_data hs ha
    have hmem : Soc.move s.numBytes.toNat (some (.mem a)) (some (.mrif link.mrif nid noticeAddr)) c.unread s.io.mem =
        deliver link.mrif nid noticeAddr (load v.mem 4 (BitVec.ofNat 64 a)) s.io.mem := by
      rw [hnum, hn, ← hload]
      unfold Soc.move
      exact if_pos rfl
    rw [hmem]
    exact shows_deliver h hs hnotice nid _
  | dropped a cause hr hw =>
    rw [serve_ok h hs hr]
    dsimp only
    rw [hdest, serve_error h hs hw]
    exact shows_report h hs (by omega) _
  | refused cause cause' hr hw =>
    have hs' := shows_report h hs (by omega) (c.readRecord.fault cause v.srcAddr)
    rw [serve_error h hs hr]
    dsimp only
    have hdest' : (s.report (c.readRecord.fault cause v.srcAddr)).destAddr = v.destAddr := hs'.destAddr
    change Shows link _ _
    rw [show (TransRequest.ofRead v.srcAddr).iova = v.srcAddr from rfl, hdest', serve_error h hs' hw]
    refine shows_report h hs' ?_ _
    change (v.pending ++ [_]).length + 1 < 64
    rw [List.length_append]
    exact hroom

/-- A request of the debug interface for the device under test is answered on the platform as in the view. -/
theorem shows_debug (h : ImagePlaced link) (hs : Shows link s v) (hmode : v.mode = .oneLvl)
    (hdid : (dbgReq v.trReqCtl).did = idmaId) (hroom : v.Room) (r : Record) : Shows link (s.debug link r) (v.debug r) := by
  have hcontext : s.context link (dbgReq s.trReqCtl).did.toNat = .ok (some (dcAt link.toLink v.modes)) := by
    rw [context_did hs (by rw [hs.trReqCtl, hdid]), hmode]
  have hout : (dcAt link.toLink v.modes).debug s.io.mem ((dbgReq s.trReqCtl).request s.trReqIova) =
      debugMap v.modes v.exchanged ((dbgReq v.trReqCtl).request v.trReqIova) := by
    rw [debug_eq (tablesPlaced h) (placed_msiPt h).fits hs.tables, hs.trReqCtl, hs.trReqIova]
  unfold View.Room at hroom
  unfold Soc.debug View.debug
  dsimp only
  rw [hcontext]
  simp only [Except.bind, hout]
  cases debugMap v.modes v.exchanged ((dbgReq v.trReqCtl).request v.trReqIova) with
  | ok outcome => exact { hs with trResponse := rfl }
  | error cause =>
    have hs' : Shows link { s with trResponse := trResponseFaultBit } { v with trResponse := trResponseFaultBit } :=
      { hs with trResponse := rfl }
    dsimp only [trResponseTo]
    rw [show r.fault cause s.trReqIova = r.fault cause v.trReqIova from congrArg _ hs.trReqIova]
    exact shows_report h hs' (show v.pending.length + 1 < 64 by omega) _

/-! ## The tables -/

/-- When the two test pages of a stage are switched in memory, the view shows that stage exchanged once more. -/
theorem shows_switch (h : ImagePlaced link) (hs : Shows link s v) (stage : Stage) :
    Shows link { s with io := { s.io with mem := switchMem link.toLink stage s.io.mem } }
      { v with exchanged := Function.update v.exchanged stage (!v.exchanged stage) } := by
  have hentry : ∀ (t : PtTable) (m : Mem) (w : Word) {i : Nat}, i < t.size →
      OnlyIn (Region.Has link) .tables m (store m 8 (t.base link.toLink + BitVec.ofNat 64 (8 * i)) w) :=
    fun t m w i hi => onlyIn_store (n := 8) (regions_disjoint h) (within_tables h t hi) w
  have hm : OnlyIn (Region.Has link) .tables s.io.mem (switchMem link.toLink stage s.io.mem) := by
    cases stage with
    | first => exact (hentry (.s1 ⟨3, by decide⟩) _ _ (by decide)).trans (hentry (.s1 ⟨3, by decide⟩) _ _ (by decide))
    | second => exact (hentry (.s2 ⟨2, by decide⟩) _ _ (by decide)).trans (hentry (.s2 ⟨2, by decide⟩) _ _ (by decide))
  exact shows_mem h hs hm (by decide) (fun a ha => (hm .data a (by decide) ha).trans (hs.data a ha))
    (mrif_onlyIn h hm (by decide) hs.mrif) (tablesAt_switch (tablesPlaced h) hs.tables stage) _ _ _

/-! ## The contract is kept -/

/-- The value that a setter of the mode writes to `ddtp` has that mode, and the root of the device directory table in it. -/
theorem ddtp_mode (h : ImagePlaced link) (mode : DdtpMode) :
    ddtpMode (((link.rootDdt >>> 2) &&& ddtpPpnMask) ||| mode.code) = some mode ∧
      queueBase (((link.rootDdt >>> 2) &&& ddtpPpnMask) ||| mode.code) = link.rootDdt := by
  have hfield : (((link.rootDdt >>> 2) &&& ddtpPpnMask) ||| mode.code).extractLsb' 0 4 = mode.code.extractLsb' 0 4 := by
    have hmask : ∀ i < 4, ddtpPpnMask.getLsbD i = false := by decide
    apply BitVec.eq_of_getLsbD_eq
    intro i hi
    rw [BitVec.getLsbD_extractLsb', BitVec.getLsbD_extractLsb', BitVec.getLsbD_or, BitVec.getLsbD_and, Nat.zero_add, hmask i hi,
      Bool.and_false, Bool.false_or]
  constructor
  · unfold ddtpMode
    rw [hfield]
    cases mode <;> decide
  · refine queueBase_or (placed_rootDdt h) ?_
    cases mode <;> decide

/-- The device id of a request, without the bit that starts it. -/
theorem did_go (w : Word) : (dbgReq (w &&& ~~~trReqCtlGoBit)).did = (dbgReq w).did := by
  have hmask : ∀ i < 64, 40 ≤ i → (~~~trReqCtlGoBit).getLsbD i = true := by decide
  change ((w &&& ~~~trReqCtlGoBit).extractLsb' 40 24).setWidth 64 = (w.extractLsb' 40 24).setWidth 64
  congr 1
  apply BitVec.eq_of_getLsbD_eq
  intro i hi
  rw [BitVec.getLsbD_extractLsb', BitVec.getLsbD_extractLsb', BitVec.getLsbD_and, hmask (40 + i) (by omega) (by omega),
    Bool.and_true]

/-- The platform keeps the contract at an access. -/
abbrev KeptAt (link : TestLink) (i : DevIo) : Prop := (View.contract link).KeptAt (Soc.world link) (Shows link) i

/-- A read of a register of the queues. Whether the fault queue is empty is read off its two indices. -/
theorem keptAt_read32 (reg : Reg32) : KeptAt link (.queue (.read32 reg)) := by
  intro s v r s' hs _ hsem
  obtain ⟨hacc, hs'⟩ := hsem
  obtain ⟨hr, hio⟩ := Prod.mk.inj hacc
  rw [← hio] at hs'
  have hsame : Shows link s' v := (show s' = s from hs') ▸ hs
  cases reg with
  | cqt => exact ⟨v, ⟨hr ▸ hs.cqt, rfl⟩, hsame⟩
  | fqh => exact ⟨v, ⟨hr.symm.trans hs.fqh, rfl⟩, hsame⟩
  | fqt =>
    refine ⟨v, ⟨?_, rfl⟩, hsame⟩
    rw [← hr, ← hs.fqh, ← hs.fq.holds.head_eq_tail_iff, BitVec.toNat_inj]
    exact eq_comm
  | cqh => exact ⟨v, rfl, hsame⟩
  | cqcsr => exact ⟨v, rfl, hsame⟩
  | fqcsr => exact ⟨v, rfl, hsame⟩

/-- A write to a register of the queues: the tail of the command queue stays an index, and with the head of the fault queue the
oldest record goes. -/
theorem keptAt_write32 (reg : Reg32) (w : Word32) : KeptAt link (.queue (.write32 reg w)) := by
  intro s v r s' hs hpre hsem
  obtain ⟨hacc, hs'⟩ := hsem
  obtain ⟨-, hio⟩ := Prod.mk.inj hacc
  rw [← hio] at hs'
  cases reg with
  | cqt =>
    refine ⟨v, rfl, hs' ▸ ?_⟩
    have hcqt : (w &&& indexMask s.io.cqb).toNat < 64 := by
      rw [hs.cqb, indexMask_qbOf, toNat_and_63]
      exact Nat.mod_lt _ (by decide)
    exact ⟨⟨hs.fq.programmed, hs.fq.holds, hs.fq.accepted, hs.fq.room, hs.fq.written⟩, hs.fqh, hs.recording, hs.fqcsr,
      hs.cqb, hcqt, hs.data, hs.mrif, hs.tables, hs.rootDdt, hs.msiPt, hs.mode, hs.base, hs.fip, hs.trReqIova,
      hs.trReqCtl, hs.trResponse, hs.srcAddr, hs.destAddr, hs.numBytes⟩
  | fqh =>
    obtain ⟨rfl, hne⟩ := hpre
    obtain ⟨rec, rest, hpending⟩ := List.exists_cons_of_ne_nil hne
    refine ⟨_, ⟨(v.fqh + 1#32) &&& indexMask s.io.fqb, rfl⟩, hs' ▸ ?_⟩
    have hpop := fqInv_pop (hpending ▸ hs.fq)
    rw [hs.fqh] at hpop
    rw [hpending]
    exact { hs with fq := hpop, fqh := rfl }
  | cqh => exact hpre.elim
  | fqt => exact hpre.elim
  | cqcsr => exact hpre.elim
  | fqcsr => exact hpre.elim

/-- An access of the driver to the queues, or of a test to a doubleword. -/
theorem keptAt_queue (h : ImagePlaced link) (i : Access) : KeptAt link (.queue i) := by
  cases i with
  | read32 reg => exact keptAt_read32 reg
  | write32 reg w => exact keptAt_write32 reg w
  | read64 a =>
    rintro s v r s' hs ⟨w, hw⟩ ⟨hacc, hs'⟩
    obtain ⟨hr, hio⟩ := Prod.mk.inj hacc
    rw [← hio] at hs'
    exact ⟨v, ⟨fun x hx => hr ▸ load_reads h hs hx, rfl⟩, (show s' = s from hs') ▸ hs⟩
  | write64 a w =>
    rintro s v r s' hs ⟨v', hv'⟩ ⟨hacc, hs'⟩
    obtain ⟨-, hio⟩ := Prod.mk.inj hacc
    rw [← hio] at hs'
    exact ⟨v', fun x hx => writes_unique h hv' hx, hs' ▸ shows_writes h hs hv'⟩
  | writeReg64 reg w => exact fun _ _ _ _ _ hpre => hpre.elim

/-- An access to the DMA device. A read of the next id starts a transfer, the outcome of which the view must know. -/
theorem keptAt_idma (h : ImagePlaced link) (i : IdmaIo) : KeptAt link (.idma i) := by
  intro s v r s' hs hpre hsem
  cases i with
  | write64 reg w =>
    cases hsem
    refine ⟨_, rfl, ?_⟩
    cases reg with
    | srcAddr => exact { hs with srcAddr := rfl }
    | destAddr => exact { hs with destAddr := rfl }
    | numBytes => exact { hs with numBytes := rfl }
    | config => exact hs
    | nextTransferId => exact hs
    | lastTransferIdComplete => exact hs
    | ipsr => exact hs
  | read64 reg =>
    have hsame : s' = s → Shows link s' v := fun he => he ▸ hs
    cases reg with
    | nextTransferId =>
      obtain ⟨hsrc, hdest, hroom, hknown⟩ := hpre
      obtain ⟨hr, hdone⟩ := hsem
      obtain ⟨c, rfl⟩ := hdone (by rwa [hs.srcAddr, hs.numBytes]) (by rwa [hs.destAddr, hs.numBytes])
      obtain ⟨v', hv'⟩ := hknown c
      exact ⟨v', ⟨hr, c, hv'⟩, shows_transfer h hs hroom hv'⟩
    | srcAddr => exact ⟨v, rfl, hsame hsem⟩
    | destAddr => exact ⟨v, rfl, hsame hsem⟩
    | numBytes => exact ⟨v, rfl, hsame hsem⟩
    | config => exact ⟨v, rfl, hsame hsem⟩
    | lastTransferIdComplete => exact ⟨v, rfl, hsame hsem⟩
    | ipsr => exact ⟨v, rfl, hsame hsem⟩

/-- A read of another 32-bit register of the IOMMU. Of these the view shows `ipsr` only. -/
theorem keptAt_getCtl32 (reg : Ctl32) : KeptAt link (.getCtl32 reg) := by
  intro s v r s' hs _ hsem
  have hsame : s' = s → Shows link s' v := fun he => he ▸ hs
  cases reg with
  | ipsr =>
    obtain ⟨rfl, rfl⟩ := hsem
    exact ⟨v, ⟨by rw [hs.fip], rfl⟩, hs⟩
  | fctl => exact ⟨v, rfl, hsame hsem⟩
  | iocntovf => exact ⟨v, rfl, hsame hsem⟩
  | iocntinh => exact ⟨v, rfl, hsame hsem⟩
  | msiCfgTblVctl i => exact ⟨v, rfl, hsame hsem⟩

/-- A write to a 32-bit register of the IOMMU that is not one of a queue follows the contract of the view. -/
theorem keptAt_setCtl32 (reg : Ctl32) (w : Word32) : KeptAt link (.setCtl32 reg w) := by
  intro s v r s' hs _ hsem
  have hsame : s' = s → Shows link s' v := fun he => he ▸ hs
  cases reg with
  | ipsr =>
    cases hsem
    exact ⟨_, rfl, { hs with fip := by rw [hs.fip] }⟩
  | fctl => exact ⟨v, rfl, hsame hsem⟩
  | iocntovf => exact ⟨v, rfl, hsame hsem⟩
  | iocntinh => exact ⟨v, rfl, hsame hsem⟩
  | msiCfgTblVctl i => exact ⟨v, rfl, hsame hsem⟩

/-- A read of another 64-bit register of the IOMMU. Of these the view shows the registers of the debug interface only. -/
theorem keptAt_getCtl64 (reg : Ctl64) : KeptAt link (.getCtl64 reg) := by
  intro s v r s' hs _ hsem
  have hsame : s' = s → Shows link s' v := fun he => he ▸ hs
  cases reg with
  | trReqIova =>
    obtain ⟨rfl, rfl⟩ := hsem
    exact ⟨v, ⟨hs.trReqIova, rfl⟩, hs⟩
  | trReqCtl =>
    obtain ⟨rfl, rfl⟩ := hsem
    exact ⟨v, ⟨hs.trReqCtl, rfl⟩, hs⟩
  | trResponse =>
    obtain ⟨rfl, rfl⟩ := hsem
    exact ⟨v, ⟨hs.trResponse, rfl⟩, hs⟩
  | ddtp => exact ⟨v, rfl, hsame hsem⟩
  | iohpmcycles => exact ⟨v, rfl, hsame hsem⟩
  | iohpmctr i => exact ⟨v, rfl, hsame hsem⟩
  | iohpmevt i => exact ⟨v, rfl, hsame hsem⟩

/-- A write to `tr_req_ctl`, which starts a request if it sets `go`. -/
theorem keptAt_setTrReqCtl (h : ImagePlaced link) (w : Word) : KeptAt link (.setCtl64 .trReqCtl w) := by
  rintro s v r s' hs hpre ⟨rec, rfl⟩
  have hset : Shows link { s with trReqCtl := w &&& ~~~trReqCtlGoBit } { v with trReqCtl := w &&& ~~~trReqCtlGoBit } :=
    { hs with trReqCtl := rfl }
  unfold Soc.setTrReqCtl
  by_cases hgo : w.getLsbD 0 = true
  · obtain ⟨hmode, hdid, hroom⟩ := hpre hgo
    refine ⟨_, (if_pos hgo).mpr ⟨rec, rfl⟩, ?_⟩
    dsimp only
    rw [if_pos hgo]
    exact shows_debug h hset hmode (hdid ▸ did_go w) hroom rec
  · refine ⟨_, (if_neg hgo).mpr rfl, ?_⟩
    dsimp only
    rw [if_neg hgo]
    exact hset

/-- A write to a 64-bit register of the IOMMU that is not one of a queue follows the contract of the view. -/
theorem keptAt_setCtl64 (h : ImagePlaced link) (reg : Ctl64) (w : Word) : KeptAt link (.setCtl64 reg w) := by
  cases reg with
  | trReqCtl => exact keptAt_setTrReqCtl h w
  | ddtp =>
    rintro s v r s' hs ⟨mode, rfl⟩ hsem
    cases hsem
    obtain ⟨hmode, hbase⟩ := ddtp_mode h mode
    exact ⟨_, ⟨mode, rfl, rfl⟩, { hs with mode := hmode, base := fun _ => hbase }⟩
  | trReqIova =>
    intro s v r s' hs _ hsem
    cases hsem
    exact ⟨_, rfl, { hs with trReqIova := rfl }⟩
  | trResponse => exact fun s v r s' hs _ hsem => ⟨v, rfl, (show s' = s from hsem) ▸ hs⟩
  | iohpmcycles => exact fun s v r s' hs _ hsem => ⟨v, rfl, (show s' = s from hsem) ▸ hs⟩
  | iohpmctr i => exact fun s v r s' hs _ hsem => ⟨v, rfl, (show s' = s from hsem) ▸ hs⟩
  | iohpmevt i => exact fun s v r s' hs _ hsem => ⟨v, rfl, (show s' = s from hsem) ▸ hs⟩

/-- The devices that the tests see keep the contract: each kind of access does, and the environment changes nothing that the view
shows. -/
theorem soc_keptBy (h : ImagePlaced link) : (View.contract link).KeptBy (Soc.world link) (Shows link) := by
  constructor
  · intro i s v r s' hs hpre hsem
    cases i with
    | queue i => exact keptAt_queue h i s v r s' hs hpre hsem
    | idma i => exact keptAt_idma h i s v r s' hs hpre hsem
    | getCtl32 reg => exact keptAt_getCtl32 reg s v r s' hs hpre hsem
    | setCtl32 reg w => exact keptAt_setCtl32 reg w s v r s' hs hpre hsem
    | getCtl64 reg => exact keptAt_getCtl64 reg s v r s' hs hpre hsem
    | setCtl64 reg w => exact keptAt_setCtl64 h reg w s v r s' hs hpre hsem
    | load32 a =>
      obtain ⟨rfl, rfl⟩ := hsem
      exact ⟨v, ⟨load_data hs hpre, rfl⟩, hs⟩
    | store32 a w =>
      cases hsem
      exact ⟨_, rfl, shows_store h hs hpre w⟩
    | setDc setter =>
      cases hsem
      exact ⟨_, rfl, { hs with rootDdt := run_did setter hs.rootDdt }⟩
    | s1ptSwitch =>
      cases hsem
      exact ⟨_, rfl, shows_switch h hs .first⟩
    | s2ptSwitch =>
      cases hsem
      exact ⟨_, rfl, shows_switch h hs .second⟩
    | cycles => exact ⟨v, rfl, (show s' = s from hsem) ▸ hs⟩
    | srand seed => exact ⟨v, rfl, (show s' = s from hsem) ▸ hs⟩
    | rand => exact ⟨v, rfl, (show s' = s from hsem) ▸ hs⟩
    | stack => exact ⟨v, rfl, (show s' = s from hsem) ▸ hs⟩
    | printf text w => exact ⟨v, rfl, (show s' = s from hsem) ▸ hs⟩
  · rintro s v s' hs ⟨mem, cqh, cqcsr, fetched, hm, rfl⟩
    exact shows_commands h hs hm cqh cqcsr fetched

end SocAux

end RvIommuTests
