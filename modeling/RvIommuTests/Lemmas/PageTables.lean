import RvIommuTests.AddressMap

/-!
# What the page-table builders build

The twelve tables are the arrays of a layout (`tables`), and over it each builder comes down to one function of table and index
(`built`), whatever the placement. As lists of writes (`s1ptWrites`, `s2ptWrites`) the builders are there once more, with addresses
that are integers without a bound.
-/

namespace RvIommuTests

open Bytes Tables Paging

/-- The tables of both stages. -/
inductive PtTable where
  | s1 (k : Fin 6)
  | root
  | s2 (k : Fin 5)
  deriving DecidableEq

/-- Where a table is. -/
def PtTable.base (link : Link) : PtTable → Addr
  | .s1 k => s1ptTable link k
  | .root => link.s2ptRoot
  | .s2 k => s2ptTable link k

/-- How many entries a table has. -/
def PtTable.size : PtTable → Nat
  | .root => 2048
  | _ => 512

/-- The root table of a stage. -/
def Stage.rootTable : Stage → PtTable
  | .first => .s1 0
  | .second => .root

/-- The table of a stage behind entry 3 of its root, with the 2-MiB pages of the RAM. -/
def Stage.midTable : Stage → PtTable
  | .first => .s1 1
  | .second => .s2 0

/-- A configuration in whose address space the builders lay out whole superpages: the RAM lies below `2 ^ 56`, it and its upper
half start at a multiple of 2 MiB, and half of it fits a table of 2-MiB pages. -/
structure Config.Regular (c : Config) : Prop where
  base : c.memBase % 2 ^ 21 = 0
  half : c.memSize / 2 % 2 ^ 21 = 0
  fits : c.memBase + c.memSize < 2 ^ 55
  count : c.memSize / superpageSize 1 / 2 ≤ 512

/-- The configuration of the platform is regular. -/
theorem Config.platform_regular : Config.platform.Regular := ⟨rfl, rfl, by decide, by decide⟩

namespace PageTablesAux

variable {c : Config} {link : Link} {m : Mem}

/-! ## The layout -/

/-- The address of a table as a number: its array, and the tables before it, which do not wrap around. -/
theorem toNat_base (h : TablesPlaced c link) (hc : c.Regular) (t : PtTable) :
    (t.base link).toNat = match t with
      | .s1 k => link.s1pt.toNat + k * pageSize
      | .root => link.s2ptRoot.toNat
      | .s2 k => link.s2pt.toNat + k * pageSize := by
  have hfits := hc.fits
  cases t with
  | s1 k =>
    have := h.s1ptInRam.2
    exact toNat_add_offset (by simp only [pageSize] at *; omega)
  | root => rfl
  | s2 k =>
    have := h.s2ptInRam.2
    exact toNat_add_offset (by simp only [pageSize] at *; omega)

/-- A table that the linker has placed lies in the RAM with all of its entries. -/
theorem base_inRam (h : TablesPlaced c link) (hc : c.Regular) (t : PtTable) :
    c.memBase ≤ (t.base link).toNat ∧ (t.base link).toNat + 8 * t.size ≤ c.memBase + c.memSize := by
  have h1 := h.s1ptInRam
  have h2 := h.rootInRam
  have h3 := h.s2ptInRam
  have hb := toNat_base h hc t
  cases t with
  | s1 k => simp only [pageSize, PtTable.size] at *; omega
  | root => simp only [pageSize, PtTable.size] at *; omega
  | s2 k => simp only [pageSize, PtTable.size] at *; omega

/-- The tables lie below `2 ^ 55`, because the RAM of a regular configuration does. -/
theorem base_fits (h : TablesPlaced c link) (hc : c.Regular) (t : PtTable) :
    (t.base link).toNat + 8 * t.size ≤ 2 ^ 55 := by
  have hfits := hc.fits
  have hram := (base_inRam h hc t).2
  omega

/-- Of two tables one lies before the other, as those of one array follow each other and the arrays are apart. -/
theorem base_disjoint (h : TablesPlaced c link) (hc : c.Regular) {t t' : PtTable} (hne : t' ≠ t) :
    (t.base link).toNat + 8 * t.size ≤ (t'.base link).toNat ∨ (t'.base link).toNat + 8 * t'.size ≤ (t.base link).toNat := by
  have h12 := h.s1ptRoot
  have h13 := h.s1ptS2pt
  have h23 := h.rootS2pt
  have hb := toNat_base h hc t
  have hb' := toNat_base h hc t'
  have hk : ∀ {n : Nat} {k k' : Fin n}, k' ≠ k → k'.val < k.val ∨ k.val < k'.val :=
    fun hne => Nat.lt_or_gt_of_ne (Fin.val_ne_of_ne hne)
  cases t with
  | s1 k =>
    cases t' with
    | s1 k' =>
      have := hk (fun he => hne (congrArg PtTable.s1 he))
      simp only [pageSize, PtTable.size] at *
      omega
    | root => simp only [pageSize, PtTable.size] at *; omega
    | s2 k' => simp only [pageSize, PtTable.size] at *; omega
  | root =>
    cases t' with
    | s1 k' => simp only [pageSize, PtTable.size] at *; omega
    | root => exact absurd rfl hne
    | s2 k' => simp only [pageSize, PtTable.size] at *; omega
  | s2 k =>
    cases t' with
    | s1 k' => simp only [pageSize, PtTable.size] at *; omega
    | root => simp only [pageSize, PtTable.size] at *; omega
    | s2 k' =>
      have := hk (fun he => hne (congrArg PtTable.s2 he))
      simp only [pageSize, PtTable.size] at *
      omega

/-- The tables as arrays. -/
def tables (h : TablesPlaced c link) (hc : c.Regular) : Layout PtTable where
  base := PtTable.base link
  size := PtTable.size
  apart := by
    intro t t' i i' hi hi' hne
    have hf := base_fits h hc t
    have hf' := base_fits h hc t'
    refine apart_entries hi hi' (by omega) (by omega) ?_
    by_cases ht : t' = t
    · subst ht
      exact Or.inr (Or.inr ⟨rfl, fun hi => hne ⟨rfl, hi⟩⟩)
    · exact (base_disjoint h hc ht).imp_right Or.inl

/-! ## The entries -/

/-- The page a table is in. -/
def pageOf (link : Link) (t : PtTable) : Nat := (t.base link).toNat / 2 ^ 12

/-- The flags of a 4-KiB page. -/
def pageFlags (perm : PagePerm → Word) (i : Nat) : Word :=
  if stressStart ≤ i ∧ i < stressTop then pteAD ||| pteV ||| pteU ||| pteRWX else pteAD ||| perm (testPagePermTable i)

/-- The entries of the first stage. -/
def s1Built (c : Config) (link : Link) (k : Fin 6) (i : Nat) : Pte :=
  match k with
  | 0 =>
    if i = 5 then Pte.make (pageOf link (.s1 5)) pteV
    else if i = 4 then Pte.make (pageOf link (.s1 2)) pteV
    else if i = 3 then Pte.make (pageOf link (.s1 1)) pteV
    else if i < 4 then Pte.make (2 ^ 18 * i) stage1Perm1Gib
    else 0#64
  | 1 => if i < c.memSize / superpageSize 1 / 2 then Pte.make (0xC0000 + 2 ^ 9 * i) stage1Perm2Mib else 0#64
  | 2 =>
    if i = 1 then Pte.make (pageOf link (.s1 4)) pteV
    else if i = 0 then Pte.make (pageOf link (.s1 3)) pteV
    else 0#64
  | 3 => Pte.make (0x100000 + i) (pageFlags PagePerm.stage1 i)
  | 4 => Pte.make (0x100200 + i) (pageFlags PagePerm.stage1 i)
  | 5 => Pte.make (0x140000 + 2 ^ 9 * i) (pteV ||| (pteAD ||| pteRWX))

/-- The entries of the root table of the second stage. -/
def rootBuilt (link : Link) (i : Nat) : Pte :=
  if i = 5 then Pte.make (pageOf link (.s2 4)) pteV
  else if i = 2047 then Pte.make (pageOf link (.s2 1)) pteV
  else if i = 4 then Pte.make (pageOf link (.s2 1)) pteV
  else if i = 3 then Pte.make (pageOf link (.s2 0)) pteV
  else if i < 4 then Pte.make (2 ^ 18 * i) stage2Perm1Gib
  else 0#64

/-- The entries of the other tables of the second stage. -/
def s2Built (c : Config) (link : Link) (k : Fin 5) (i : Nat) : Pte :=
  match k with
  | 0 => if i < c.memSize / superpageSize 1 / 2 then Pte.make (c.memBase / 2 ^ 12 + 2 ^ 9 * i) stage2Perm2Mib else 0#64
  | 1 =>
    if i = 1 then Pte.make (pageOf link (.s2 3)) pteV
    else if i = 511 then Pte.make (pageOf link (.s2 2)) pteV
    else if i = 0 then Pte.make (pageOf link (.s2 2)) pteV
    else 0#64
  | 2 => Pte.make ((c.memBase + c.memSize / 2) / 2 ^ 12 + i) (pageFlags PagePerm.stage2 i)
  | 3 => Pte.make ((c.memBase + c.memSize / 2) / 2 ^ 12 + i) (pageFlags PagePerm.stage2 i)
  | 4 => Pte.make ((c.memBase + c.memSize / 2) / 2 ^ 12 + 2 ^ 9 * i) (pteV ||| (pteU ||| (pteAD ||| pteRWX)))

/-- The table of the first stage that `s1pt_switch` changes. -/
def s1Switched : PtTable := .s1 3

/-- The table of the second stage that `s2pt_switch` changes. -/
def s2Switched : PtTable := .s2 2

/-- What both builders make of the tables. -/
def built (c : Config) (link : Link) : PtTable → Nat → Pte
  | .s1 k => s1Built c link k
  | .root => rootBuilt link
  | .s2 k => s2Built c link k

/-- The table that an entry leads to. -/
def pointee : PtTable → Nat → Option PtTable
  | .s1 0, i => if i = 5 then some (.s1 5) else if i = 4 then some (.s1 2) else if i = 3 then some (.s1 1) else none
  | .s1 2, i => if i = 1 then some (.s1 4) else if i = 0 then some (.s1 3) else none
  | .root, i =>
    if i = 5 then some (.s2 4) else if i = 2047 then some (.s2 1) else if i = 4 then some (.s2 1)
    else if i = 3 then some (.s2 0) else none
  | .s2 1, i => if i = 1 then some (.s2 3) else if i = 511 then some (.s2 2) else if i = 0 then some (.s2 2) else none
  | _, _ => none

/-- The entries that neither builder writes. -/
def Unwritten : PtTable → Nat → Prop
  | .s1 0, i => 6 ≤ i
  | .s1 2, i => 2 ≤ i
  | .s2 1, i => i ≠ 0 ∧ i ≠ 1 ∧ i ≠ 511
  | _, _ => False

instance : (t : PtTable) → (i : Nat) → Decidable (Unwritten t i)
  | .s1 0, i => inferInstanceAs (Decidable (6 ≤ i))
  | .s1 2, i => inferInstanceAs (Decidable (2 ≤ i))
  | .s2 1, i => inferInstanceAs (Decidable (i ≠ 0 ∧ i ≠ 1 ∧ i ≠ 511))
  | .root, _ => .isFalse id
  | .s1 1, _ => .isFalse id
  | .s1 3, _ => .isFalse id
  | .s1 4, _ => .isFalse id
  | .s1 5, _ => .isFalse id
  | .s2 0, _ => .isFalse id
  | .s2 2, _ => .isFalse id
  | .s2 3, _ => .isFalse id
  | .s2 4, _ => .isFalse id

end PageTablesAux

open PageTablesAux

/-! ## The writes -/

/-- An entry that a builder writes. -/
inductive Entry where
  | zero
  | pointer (table : PtTable)
  | leaf (addr : Nat) (flags : Word)

/-- The word that is written. -/
def Entry.value (link : Link) : Entry → Word
  | .zero => 0#64
  | .pointer table => nonLeaf (table.base link)
  | .leaf addr flags => (BitVec.ofNat 64 addr >>> 2) ||| flags

/-- `table[index] = entry` -/
structure TableWrite where
  table : PtTable
  index : Nat
  entry : Entry

/-- The memory after the write. -/
def TableWrite.run (link : Link) (m : Mem) (w : TableWrite) : Mem :=
  set m (w.table.base link) w.index (w.entry.value link)

/-- `for (; n != 0; n--, i++) { table[i] = entry(i, addr); addr += stride; }` -/
def fillWrites (table : PtTable) (entry : Nat → Nat → Entry) (stride : Nat) : Nat → Nat → Nat → List TableWrite
  | 0, _, _ => []
  | n + 1, i, addr => ⟨table, i, entry i addr⟩ :: fillWrites table entry stride n (i + 1) (addr + stride)

/-- The writes of `s1pt_init`. -/
def s1ptWrites (c : Config) : List TableWrite :=
  fillWrites (.s1 0) (fun _ addr => .leaf addr stage1Perm1Gib) (superpageSize 0) 4 0 0x00000000 ++
  [⟨.s1 0, 3, .pointer (.s1 1)⟩] ++
  fillWrites (.s1 1) (fun _ _ => .zero) 0 512 0 0xC0000000 ++
  fillWrites (.s1 1) (fun _ addr => .leaf addr stage1Perm2Mib) (superpageSize 1) (c.memSize / superpageSize 1 / 2) 0
    0xC0000000 ++
  [⟨.s1 0, 4, .pointer (.s1 2)⟩, ⟨.s1 2, 0, .pointer (.s1 3)⟩] ++
  fillWrites (.s1 3) (fun i addr => .leaf addr (pageFlags PagePerm.stage1 i)) pageSize testPageMax 0 0x100000000 ++
  [⟨.s1 2, 1, .pointer (.s1 4)⟩] ++
  fillWrites (.s1 4) (fun i addr => .leaf addr (pageFlags PagePerm.stage1 i)) pageSize 512 0
    (4 * superpageSize 0 + superpageSize 1) ++
  [⟨.s1 0, 5, .pointer (.s1 5)⟩] ++
  fillWrites (.s1 5) (fun _ addr => .leaf addr (pteV ||| pteAD ||| pteRWX)) (superpageSize 1) 512 0 (5 * superpageSize 0)

/-- The writes of `s2pt_init`. -/
def s2ptWrites (c : Config) : List TableWrite :=
  fillWrites .root (fun _ _ => .zero) 0 2048 0 0 ++
  fillWrites .root (fun _ addr => .leaf addr stage2Perm1Gib) (superpageSize 0) 4 0 0x0 ++
  [⟨.root, 3, .pointer (.s2 0)⟩] ++
  fillWrites (.s2 0) (fun _ _ => .zero) 0 512 0 c.memBase ++
  fillWrites (.s2 0) (fun _ addr => .leaf addr stage2Perm2Mib) (superpageSize 1) (c.memSize / superpageSize 1 / 2) 0
    c.memBase ++
  [⟨.root, 4, .pointer (.s2 1)⟩, ⟨.root, 2047, .pointer (.s2 1)⟩] ++
  [⟨.s2 1, 0, .pointer (.s2 2)⟩, ⟨.s2 1, 511, .pointer (.s2 2)⟩] ++
  fillWrites (.s2 2) (fun i addr => .leaf addr (pageFlags PagePerm.stage2 i)) pageSize testPageMax 0
    (c.memBase + c.memSize / 2) ++
  [⟨.s2 1, 1, .pointer (.s2 3)⟩] ++
  fillWrites (.s2 3) (fun i addr => .leaf addr (pageFlags PagePerm.stage2 i)) pageSize 512 0 (c.memBase + c.memSize / 2) ++
  [⟨.root, 5, .pointer (.s2 4)⟩] ++
  fillWrites (.s2 4) (fun _ addr => .leaf addr (pteV ||| pteU ||| pteAD ||| pteRWX)) (superpageSize 1) 512 0
    (c.memBase + c.memSize / 2)

namespace PageTablesAux

/-! ## The builders' entries -/

variable {c : Config} {link : Link} {m : Mem} {t : PtTable} {i : Nat}

/-- Where the unwritten entries are. -/
theorem Unwritten.cases (hu : Unwritten t i) :
    t = .s1 0 ∧ 6 ≤ i ∨ t = .s1 2 ∧ 2 ≤ i ∨ t = .s2 1 ∧ i ≠ 0 ∧ i ≠ 1 ∧ i ≠ 511 := by
  unfold Unwritten at hu
  split at hu
  · exact Or.inl ⟨rfl, hu⟩
  · exact Or.inr (Or.inl ⟨rfl, hu⟩)
  · exact Or.inr (Or.inr ⟨rfl, hu⟩)
  · exact hu.elim

/-- An entry that the builders do not write is zero in the table they are said to build. -/
theorem built_unwritten (hu : Unwritten t i) : built c link t i = 0#64 := by
  rcases hu.cases with ⟨rfl, hi⟩ | ⟨rfl, hi⟩ | ⟨rfl, h0, h1, h511⟩
  · rw [built, s1Built, if_neg (by omega), if_neg (by omega), if_neg (by omega), if_neg (by omega)]
  · rw [built, s1Built, if_neg (by omega), if_neg (by omega)]
  · rw [built, s2Built, if_neg h1, if_neg h511, if_neg h0]

/-- The page of a table fits into the PPN of an entry, because the table lies below `2 ^ 56`. -/
theorem pageOf_lt (h : TablesPlaced c link) (hc : c.Regular) (t : PtTable) : pageOf link t < 2 ^ 44 := by
  have := base_fits h hc t
  unfold pageOf
  omega

/-- A table starts on a page, so its address is its page times the size of one. -/
theorem pageOf_mul (h : TablesPlaced c link) (hc : c.Regular) (t : PtTable) :
    pageOf link t * 2 ^ 12 = (t.base link).toNat := by
  have h1 := h.s1ptAligned
  have h2 := h.rootAligned
  have h3 := h.s2ptAligned
  have hb := toNat_base h hc t
  unfold pageOf
  cases t with
  | s1 k => simp only [pageSize] at *; omega
  | root => simp only [pageSize] at *; omega
  | s2 k => simp only [pageSize] at *; omega

/-- The pointer that the builders write to a table has the page of the table and V only. -/
theorem nonLeaf_base (h : TablesPlaced c link) (hc : c.Regular) (t : PtTable) :
    nonLeaf (t.base link) = Pte.make (pageOf link t) pteV := by
  have hpage := pageOf_lt h hc t
  have hbase : t.base link = BitVec.ofNat 64 (2 ^ 12 * pageOf link t) := by
    apply BitVec.eq_of_toNat_eq
    rw [BitVec.toNat_ofNat, Nat.mod_eq_of_lt (by omega), Nat.mul_comm, pageOf_mul h hc]
  have hmask : (BitVec.ofNat 64 (2 ^ 12 * pageOf link t) >>> 2) &&& ptePpnMsk =
      BitVec.ofNat 64 (2 ^ 12 * pageOf link t) >>> 2 := by
    apply BitVec.eq_of_toNat_eq
    rw [BitVec.toNat_and, BitVec.toNat_ushiftRight, BitVec.toNat_ofNat, Nat.mod_eq_of_lt (by omega),
      show 2 ^ 12 * pageOf link t = (pageOf link t <<< 10) <<< 2 by rw [Nat.shiftLeft_eq, Nat.shiftLeft_eq]; omega,
      Nat.shiftLeft_shiftRight, show ptePpnMsk.toNat = (2 ^ 44 - 1) <<< 10 from rfl, ← Nat.shiftLeft_and_distrib,
      Nat.and_two_pow_sub_one_eq_mod, Nat.mod_eq_of_lt hpage]
  unfold nonLeaf
  rw [hbase, hmask, BitVec.or_comm, Pte.shiftRight_or _ hpage]

/-- The entry that a loop writes in its turn `i`. -/
theorem leaf_entry {a s page : Nat} (ha : a + i * s = 2 ^ 12 * page) (hpage : page < 2 ^ 44) (flags : Word) :
    (BitVec.ofNat 64 a + BitVec.ofNat 64 i * BitVec.ofNat 64 s) >>> 2 ||| flags = Pte.make page flags := by
  rw [← BitVec.ofNat_mul, ← BitVec.ofNat_add, ha, Pte.shiftRight_or flags hpage]

/-- The entry that the builders compute for a 4-KiB page has the page and the flags of its index. -/
theorem pageEntry_eq {a page : Nat} (ha : a = 2 ^ 12 * page) (hi : i < 2048) (hpage : page < 2 ^ 43)
    (perm : PagePerm → Word) :
    pageEntry perm i (BitVec.ofNat 64 a + BitVec.ofNat 64 i * BitVec.ofNat 64 pageSize) =
      Pte.make (page + i) (pageFlags perm i) := by
  have hleaf := @leaf_entry i a pageSize (page + i) (by rw [pageSize]; omega) (by omega)
  unfold pageEntry pageFlags
  split
  · rw [BitVec.or_assoc, BitVec.or_assoc, BitVec.or_assoc, hleaf, BitVec.or_assoc, BitVec.or_assoc]
  · rw [BitVec.or_assoc, hleaf]

/-! ## The builders -/

/-- What `s1pt_init` makes of the tables: the entries that it writes, and of the others what they were. -/
theorem view_s1ptInit (h : TablesPlaced c link) (hc : c.Regular) (hi : i < t.size) :
    (tables h hc).view (s1ptInit c link m) t i =
      match t with
      | .s1 k => if Unwritten (.s1 k) i then (tables h hc).view m (.s1 k) i else s1Built c link k i
      | t => (tables h hc).view m t i := by
  have hb0 : s1ptTable link 0 = (tables h hc).base (.s1 0) := rfl
  have hb1 : s1ptTable link 1 = (tables h hc).base (.s1 1) := rfl
  have hb2 : s1ptTable link 2 = (tables h hc).base (.s1 2) := rfl
  have hb3 : s1ptTable link 3 = (tables h hc).base (.s1 3) := rfl
  have hb4 : s1ptTable link 4 = (tables h hc).base (.s1 4) := rfl
  have hb5 : s1ptTable link 5 = (tables h hc).base (.s1 5) := rfl
  have hi' : i < (tables h hc).size t := hi
  have h512 : ∀ k n, n ≤ 512 → 0 + n ≤ (tables h hc).size (.s1 k) := fun k n hn => (Nat.zero_add n).symm ▸ hn
  have hlt : ∀ k j, j < 512 → j < (tables h hc).size (.s1 k) := fun _ _ hj => hj
  have hptr : ∀ k, nonLeaf ((tables h hc).base (.s1 k)) = Pte.make (pageOf link (.s1 k)) pteV :=
    fun k => nonLeaf_base h hc (.s1 k)
  simp only [s1ptInit, hb0, hb1, hb2, hb3, hb4, hb5]
  rw [Layout.view_fill _ _ _ _ (h512 5 _ (by decide)) hi', Layout.view_set (hlt 0 5 (by decide)) hi',
    Layout.view_fill _ _ _ _ (h512 4 _ (by decide)) hi', Layout.view_set (hlt 2 1 (by decide)) hi',
    Layout.view_fill _ _ _ _ (h512 3 _ (by decide)) hi', Layout.view_set (hlt 2 0 (by decide)) hi',
    Layout.view_set (hlt 0 4 (by decide)) hi', Layout.view_fill _ _ _ _ (h512 1 _ hc.count) hi',
    Layout.view_fill _ _ _ _ (h512 1 _ (by decide)) hi', Layout.view_set (hlt 0 3 (by decide)) hi',
    Layout.view_fill _ _ _ _ (h512 0 _ (by decide)) hi']
  have hle : i < 2048 := by
    cases t with
    | root => exact hi
    | _ => exact Nat.lt_of_lt_of_le hi (show 512 ≤ 2048 by decide)
  have h0 : (0#64 + BitVec.ofNat 64 i * BitVec.ofNat 64 (superpageSize 0)) >>> 2 ||| stage1Perm1Gib =
      Pte.make (2 ^ 18 * i) stage1Perm1Gib :=
    leaf_entry (a := 0) (by simp only [superpageSize, pageSize]; omega) (by omega) _
  have h1 : (0xC0000000#64 + BitVec.ofNat 64 i * BitVec.ofNat 64 (superpageSize 1)) >>> 2 ||| stage1Perm2Mib =
      Pte.make (0xC0000 + 2 ^ 9 * i) stage1Perm2Mib :=
    leaf_entry (a := 0xC0000000) (by simp only [superpageSize, pageSize]; omega) (by omega) _
  have h3 := @pageEntry_eq i 0x100000000 0x100000 (by decide) hle (by decide) PagePerm.stage1
  have h4 := @pageEntry_eq i (4 * superpageSize 0 + superpageSize 1) 0x100200 (by decide) hle (by decide) PagePerm.stage1
  have h5 : (BitVec.ofNat 64 (5 * superpageSize 0) + BitVec.ofNat 64 i * BitVec.ofNat 64 (superpageSize 1)) >>> 2 |||
      (pteV ||| (pteAD ||| pteRWX)) = Pte.make (0x140000 + 2 ^ 9 * i) (pteV ||| (pteAD ||| pteRWX)) :=
    leaf_entry (by simp only [superpageSize, pageSize]; omega) (by omega) _
  simp only [Nat.zero_add, Nat.zero_le, true_and, Nat.sub_zero, hptr, BitVec.or_comm stage1Perm1Gib,
    BitVec.or_comm stage1Perm2Mib, BitVec.or_assoc, testVpageBase, h0, h1, h3, h4, h5]
  cases t with
  | root => simp
  | s2 k => simp
  | s1 k =>
    have hi512 : i < 512 := hi
    have htop : testPageMax = 512 := rfl
    match k with
    | 0 =>
      by_cases hrest : 6 ≤ i
      · have h3 : i ≠ 3 := by omega
        have h4 : i ≠ 4 := by omega
        have h5 : i ≠ 5 := by omega
        have hlow : ¬ i < 4 := by omega
        simp [Unwritten, hrest, h3, h4, h5, hlow]
      · have hlow : i < 4 ∨ i = 4 ∨ i = 5 := by omega
        rcases hlow with hlow | rfl | rfl <;> simp [Unwritten, s1Built, *]
    | 1 => simp [Unwritten, s1Built, hi512]
    | 2 =>
      by_cases hrest : 2 ≤ i
      · have h0 : i ≠ 0 := by omega
        have h1 : i ≠ 1 := by omega
        simp [Unwritten, hrest, h0, h1]
      · have hlow : i = 0 ∨ i = 1 := by omega
        rcases hlow with rfl | rfl <;> simp [Unwritten, s1Built]
    | 3 => simp [Unwritten, s1Built, hi512, htop]
    | 4 => simp [Unwritten, s1Built, hi512]
    | 5 => simp [Unwritten, s1Built, hi512]

/-- What `s2pt_init` makes of the tables: the entries that it writes, and of the others what they were. -/
theorem view_s2ptInit (h : TablesPlaced c link) (hc : c.Regular) (hi : i < t.size) :
    (tables h hc).view (s2ptInit c link m) t i =
      match t with
      | .root => rootBuilt link i
      | .s2 k => if Unwritten (.s2 k) i then (tables h hc).view m (.s2 k) i else s2Built c link k i
      | t => (tables h hc).view m t i := by
  have hbr : link.s2ptRoot = (tables h hc).base .root := rfl
  have hb0 : s2ptTable link 0 = (tables h hc).base (.s2 0) := rfl
  have hb1 : s2ptTable link 1 = (tables h hc).base (.s2 1) := rfl
  have hb2 : s2ptTable link 2 = (tables h hc).base (.s2 2) := rfl
  have hb3 : s2ptTable link 3 = (tables h hc).base (.s2 3) := rfl
  have hb4 : s2ptTable link 4 = (tables h hc).base (.s2 4) := rfl
  have hi' : i < (tables h hc).size t := hi
  have hroot : ∀ n, n ≤ 2048 → 0 + n ≤ (tables h hc).size .root := fun n hn => (Nat.zero_add n).symm ▸ hn
  have hltr : ∀ j, j < 2048 → j < (tables h hc).size .root := fun _ hj => hj
  have h512 : ∀ k n, n ≤ 512 → 0 + n ≤ (tables h hc).size (.s2 k) := fun k n hn => (Nat.zero_add n).symm ▸ hn
  have hlt : ∀ k j, j < 512 → j < (tables h hc).size (.s2 k) := fun _ _ hj => hj
  have hptr : ∀ k, nonLeaf ((tables h hc).base (.s2 k)) = Pte.make (pageOf link (.s2 k)) pteV :=
    fun k => nonLeaf_base h hc (.s2 k)
  simp only [s2ptInit, hb0, hb1, hb2, hb3, hb4, hbr]
  rw [Layout.view_fill _ _ _ _ (h512 4 _ (by decide)) hi', Layout.view_set (hltr 5 (by decide)) hi',
    Layout.view_fill _ _ _ _ (h512 3 _ (by decide)) hi', Layout.view_set (hlt 1 1 (by decide)) hi',
    Layout.view_fill _ _ _ _ (h512 2 _ (by decide)) hi', Layout.view_set (hlt 1 511 (by decide)) hi',
    Layout.view_set (hlt 1 0 (by decide)) hi', Layout.view_set (hltr 2047 (by decide)) hi',
    Layout.view_set (hltr 4 (by decide)) hi', Layout.view_fill _ _ _ _ (h512 0 _ hc.count) hi',
    Layout.view_fill _ _ _ _ (h512 0 _ (by decide)) hi', Layout.view_set (hltr 3 (by decide)) hi',
    Layout.view_fill _ _ _ _ (hroot _ (by decide)) hi', Layout.view_fill _ _ _ _ (hroot _ (by decide)) hi']
  have hle : i < 2048 := by
    cases t with
    | root => exact hi
    | _ => exact Nat.lt_of_lt_of_le hi (show 512 ≤ 2048 by decide)
  have hbase := hc.base
  have hhalf := hc.half
  have hfits := hc.fits
  have h0 : (0#64 + BitVec.ofNat 64 i * BitVec.ofNat 64 (superpageSize 0)) >>> 2 ||| stage2Perm1Gib =
      Pte.make (2 ^ 18 * i) stage2Perm1Gib :=
    leaf_entry (a := 0) (by simp only [superpageSize, pageSize]; omega) (by omega) _
  have h1 : (BitVec.ofNat 64 c.memBase + BitVec.ofNat 64 i * BitVec.ofNat 64 (superpageSize 1)) >>> 2 ||| stage2Perm2Mib =
      Pte.make (c.memBase / 2 ^ 12 + 2 ^ 9 * i) stage2Perm2Mib :=
    leaf_entry (by simp only [superpageSize, pageSize]; omega) (by omega) _
  have h2 := @pageEntry_eq i (c.memBase + c.memSize / 2) ((c.memBase + c.memSize / 2) / 2 ^ 12) (by omega) hle (by omega)
    PagePerm.stage2
  have h4 : (BitVec.ofNat 64 (c.memBase + c.memSize / 2) + BitVec.ofNat 64 i * BitVec.ofNat 64 (superpageSize 1)) >>> 2 |||
      (pteV ||| (pteU ||| (pteAD ||| pteRWX))) =
        Pte.make ((c.memBase + c.memSize / 2) / 2 ^ 12 + 2 ^ 9 * i) (pteV ||| (pteU ||| (pteAD ||| pteRWX))) :=
    leaf_entry (by simp only [superpageSize, pageSize]; omega) (by omega) _
  simp only [Nat.zero_add, Nat.zero_le, true_and, Nat.sub_zero, hptr, BitVec.or_comm stage2Perm1Gib,
    BitVec.or_comm stage2Perm2Mib, BitVec.or_assoc, testPpageBase, h0, h1, h2, h4]
  cases t with
  | root => simp [rootBuilt, hle]
  | s1 k => simp
  | s2 k =>
    have hi512 : i < 512 := hi
    have htop : testPageMax = 512 := rfl
    match k with
    | 0 => simp [Unwritten, s2Built, hi512]
    | 1 =>
      by_cases hrest : i ≠ 0 ∧ i ≠ 1 ∧ i ≠ 511
      · simp [Unwritten, hrest]
      · have hset : i = 0 ∨ i = 1 ∨ i = 511 := by omega
        rcases hset with rfl | rfl | rfl <;> simp [Unwritten, s2Built]
    | 2 => simp [Unwritten, s2Built, hi512, htop]
    | 3 => simp [Unwritten, s2Built, hi512]
    | 4 => simp [Unwritten, s2Built, hi512]

/-- What both builders make of the tables, in the order of `init_iommu`. -/
theorem view_init_of (h : TablesPlaced c link) (hc : c.Regular) (hi : i < t.size) :
    (tables h hc).view (s1ptInit c link (s2ptInit c link m)) t i =
      if Unwritten t i then (tables h hc).view m t i else built c link t i := by
  rw [view_s1ptInit h hc hi]
  cases t with
  | s1 k =>
    simp only [built]
    rw [@view_s2ptInit c link m (.s1 k) i h hc hi]
  | root => exact (@view_s2ptInit c link m .root i h hc hi).trans (if_neg id).symm
  | s2 k => exact @view_s2ptInit c link m (.s2 k) i h hc hi

/-- What they make of tables whose other entries are zero. -/
theorem view_init (h : TablesPlaced c link) (hc : c.Regular)
    (hz : ∀ t i, i < t.size → Unwritten t i → (tables h hc).view m t i = 0#64) (hi : i < t.size) :
    (tables h hc).view (s1ptInit c link (s2ptInit c link m)) t i = built c link t i := by
  rw [view_init_of h hc hi]
  split
  · rename_i hu
    rw [hz t i hi hu, built_unwritten hu]
  · rfl

end PageTablesAux

end RvIommuTests
