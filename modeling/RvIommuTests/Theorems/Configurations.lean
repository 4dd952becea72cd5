import RvIommuTests.Configurations
import RvIommuTests.Theorems.AddressMap

/-!
# What the guards leave out

For every platform that the guards of `page_tables.c` accept, when the page-table builders stay within their tables, when the
superpages they map are aligned, and when the addresses that the tests check are the ones translated to.
-/

namespace RvIommuTests

open Bytes Tables Paging PageTablesAux WalksAux

namespace ConfigurationsAux

variable {c : Config} {link : Link} {m : Mem}

/-! ## The writes -/

/-- A loop of the code makes the writes of the loop over integers. -/
theorem fill_eq {t : PtTable} {entry : Nat → Word → Word} {entry' : Nat → Nat → Entry} (stride : Nat)
    (h : ∀ i a, entry i (BitVec.ofNat 64 a) = (entry' i a).value link) (n i a : Nat) (m : Mem) :
    fill (t.base link) entry (BitVec.ofNat 64 stride) n i (BitVec.ofNat 64 a) m =
      (fillWrites t entry' stride n i a).foldl (TableWrite.run link) m := by
  induction n generalizing i a m with
  | zero => rfl
  | succ n ih =>
    rw [fill, fillWrites, List.foldl_cons, h, ← BitVec.ofNat_add, ih]
    rfl

/-- A loop of the builders that maps superpages makes the writes of its list, one after the other. -/
theorem fill_leaves (link : Link) (t : PtTable) (flags : Word) (stride n i a : Nat) (m : Mem) :
    fill (t.base link) (fun _ addr => flags ||| (addr >>> 2)) (BitVec.ofNat 64 stride) n i (BitVec.ofNat 64 a) m =
      (fillWrites t (fun _ addr => .leaf addr flags) stride n i a).foldl (TableWrite.run link) m :=
  fill_eq stride (fun _ _ => BitVec.or_comm _ _) n i a m

/-- A loop that maps the pages of the permission table. -/
theorem fill_pages (link : Link) (t : PtTable) (perm : PagePerm → Word) (stride n i a : Nat) (m : Mem) :
    fill (t.base link) (pageEntry perm) (BitVec.ofNat 64 stride) n i (BitVec.ofNat 64 a) m =
      (fillWrites t (fun i addr => .leaf addr (pageFlags perm i)) stride n i a).foldl (TableWrite.run link) m := by
  refine fill_eq stride (fun i a => ?_) n i a m
  unfold pageEntry pageFlags Entry.value
  split <;> simp only [BitVec.or_assoc]

/-- A loop of the builders that clears entries makes the writes of its list, one after the other. -/
theorem fill_zeros (link : Link) (t : PtTable) (n i a : Nat) (m : Mem) :
    fill (t.base link) (fun _ _ => 0#64) 0#64 n i (BitVec.ofNat 64 a) m =
      (fillWrites t (fun _ _ => .zero) 0 n i a).foldl (TableWrite.run link) m :=
  fill_eq 0 (fun _ _ => rfl) n i a m

/-- `s1pt_init` makes the writes of its list one after the other, whatever the configuration is. -/
theorem s1ptInit_eq (c : Config) (link : Link) (m : Mem) :
    s1ptInit c link m = (s1ptWrites c).foldl (TableWrite.run link) m := by
  have h5 := @fill_eq link (.s1 5) (fun _ addr => (addr >>> 2) ||| pteV ||| pteAD ||| pteRWX)
    (fun _ addr => .leaf addr (pteV ||| pteAD ||| pteRWX)) (superpageSize 1)
    (fun _ _ => by simp only [Entry.value, BitVec.or_assoc]) 512 0 (5 * superpageSize 0)
  simp only [s1ptWrites, List.foldl_append, List.foldl_cons, List.foldl_nil, ← fill_leaves, ← fill_zeros, ← fill_pages, ← h5]
  rfl

/-- `s2pt_init` makes the writes of its list one after the other, whatever the configuration is. -/
theorem s2ptInit_eq (c : Config) (link : Link) (m : Mem) :
    s2ptInit c link m = (s2ptWrites c).foldl (TableWrite.run link) m := by
  have h4 := @fill_eq link (.s2 4) (fun _ addr => (addr >>> 2) ||| pteV ||| pteU ||| pteAD ||| pteRWX)
    (fun _ addr => .leaf addr (pteV ||| pteU ||| pteAD ||| pteRWX)) (superpageSize 1)
    (fun _ _ => by simp only [Entry.value, BitVec.or_assoc]) 512 0 (c.memBase + c.memSize / 2)
  simp only [s2ptWrites, List.foldl_append, List.foldl_cons, List.foldl_nil, ← fill_leaves, ← fill_zeros, ← fill_pages, ← h4]
  rfl

/-- A property of all writes of a loop is one of its turns. -/
theorem forall_fillWrites {P : TableWrite → Prop} {t : PtTable} {entry : Nat → Nat → Entry} {stride n i a : Nat} :
    (∀ w ∈ fillWrites t entry stride n i a, P w) ↔ ∀ k < n, P ⟨t, i + k, entry (i + k) (a + k * stride)⟩ := by
  induction n generalizing i a with
  | zero => exact iff_of_true (fun w hw => nomatch hw) fun k hk => absurd hk (Nat.not_lt_zero k)
  | succ n ih =>
    have hk : ∀ k, i + 1 + k = i + (k + 1) ∧ a + stride + k * stride = a + (k + 1) * stride := fun k =>
      ⟨by omega, by rw [Nat.succ_mul]; omega⟩
    rw [fillWrites, List.forall_mem_cons, ih]
    constructor
    · rintro ⟨h0, hs⟩ k hlt
      cases k with
      | zero => simpa using h0
      | succ k =>
        rw [← (hk k).1, ← (hk k).2]
        exact hs k (by omega)
    · intro h
      refine ⟨by simpa using h 0 (Nat.succ_pos n), fun k hlt => ?_⟩
      rw [(hk k).1, (hk k).2]
      exact h (k + 1) (by omega)

/-- A property of all writes of `s1pt_init`, loop by loop. -/
theorem forall_s1ptWrites (c : Config) (P : TableWrite → Prop) (hptr : ∀ t i t', i < t.size → P ⟨t, i, .pointer t'⟩)
    (hzero : ∀ t i, i < t.size → P ⟨t, i, .zero⟩) :
    (∀ w ∈ s1ptWrites c, P w) ↔
      (∀ k < 4, P ⟨.s1 0, k, .leaf (k * superpageSize 0) stage1Perm1Gib⟩) ∧
      (∀ k < c.memSize / superpageSize 1 / 2, P ⟨.s1 1, k, .leaf (0xC0000000 + k * superpageSize 1) stage1Perm2Mib⟩) ∧
      (∀ k < 512, P ⟨.s1 3, k, .leaf (0x100000000 + k * pageSize) (pageFlags PagePerm.stage1 k)⟩) ∧
      (∀ k < 512, P ⟨.s1 4, k, .leaf (4 * superpageSize 0 + superpageSize 1 + k * pageSize) (pageFlags PagePerm.stage1 k)⟩) ∧
      (∀ k < 512, P ⟨.s1 5, k, .leaf (5 * superpageSize 0 + k * superpageSize 1) (pteV ||| pteAD ||| pteRWX)⟩) := by
  have h1 : ∀ k < 512, P ⟨.s1 1, k, .zero⟩ := fun k hk => hzero _ k hk
  have htop : testPageMax = 512 := rfl
  simp only [s1ptWrites, List.forall_mem_append, List.forall_mem_cons, List.not_mem_nil, false_imp_iff, implies_true, and_true,
    forall_fillWrites, Nat.zero_add, htop, hptr (.s1 0) 3 _ (by decide), hptr (.s1 0) 4 _ (by decide),
    hptr (.s1 2) 0 _ (by decide), hptr (.s1 2) 1 _ (by decide), hptr (.s1 0) 5 _ (by decide), iff_true_intro h1, and_assoc]

/-- A property of all writes of `s2pt_init`, loop by loop. -/
theorem forall_s2ptWrites (c : Config) (P : TableWrite → Prop) (hptr : ∀ t i t', i < t.size → P ⟨t, i, .pointer t'⟩)
    (hzero : ∀ t i, i < t.size → P ⟨t, i, .zero⟩) :
    (∀ w ∈ s2ptWrites c, P w) ↔
      (∀ k < 4, P ⟨.root, k, .leaf (k * superpageSize 0) stage2Perm1Gib⟩) ∧
      (∀ k < c.memSize / superpageSize 1 / 2, P ⟨.s2 0, k, .leaf (c.memBase + k * superpageSize 1) stage2Perm2Mib⟩) ∧
      (∀ k < 512, P ⟨.s2 2, k, .leaf (c.memBase + c.memSize / 2 + k * pageSize) (pageFlags PagePerm.stage2 k)⟩) ∧
      (∀ k < 512, P ⟨.s2 3, k, .leaf (c.memBase + c.memSize / 2 + k * pageSize) (pageFlags PagePerm.stage2 k)⟩) ∧
      (∀ k < 512, P ⟨.s2 4, k, .leaf (c.memBase + c.memSize / 2 + k * superpageSize 1) (pteV ||| pteU ||| pteAD ||| pteRWX)⟩) := by
  have hr : ∀ k < 2048, P ⟨.root, k, .zero⟩ := fun k hk => hzero _ k hk
  have h0 : ∀ k < 512, P ⟨.s2 0, k, .zero⟩ := fun k hk => hzero _ k hk
  have htop : testPageMax = 512 := rfl
  simp only [s2ptWrites, List.forall_mem_append, List.forall_mem_cons, List.not_mem_nil, false_imp_iff, implies_true, and_true,
    forall_fillWrites, Nat.zero_add, htop, hptr .root 3 _ (by decide), hptr .root 4 _ (by decide),
    hptr .root 2047 _ (by decide), hptr (.s2 1) 0 _ (by decide), hptr (.s2 1) 511 _ (by decide), hptr (.s2 1) 1 _ (by decide),
    hptr .root 5 _ (by decide), iff_true_intro hr, iff_true_intro h0, and_assoc, true_and]

/-! ## The tables -/

/-- The builders stay within their tables exactly when half of the RAM takes one table of 2-MiB pages. -/
theorem inside_iff (c : Config) :
    (∀ w ∈ s1ptWrites c ++ s2ptWrites c, w.Inside) ↔ c.memSize / superpageSize 1 / 2 ≤ 512 := by
  rw [List.forall_mem_append, forall_s1ptWrites c _ (fun _ _ _ h => h) (fun _ _ h => h),
    forall_s2ptWrites c _ (fun _ _ _ h => h) (fun _ _ h => h)]
  simp only [TableWrite.Inside, PtTable.size]
  generalize c.memSize / superpageSize 1 / 2 = n
  constructor
  · rintro ⟨⟨-, h, -⟩, -⟩
    by_contra hn
    exact absurd (h 512 (by omega)) (by decide)
  · intro h
    refine ⟨⟨?_, ?_, ?_, ?_, ?_⟩, ?_, ?_, ?_, ?_, ?_⟩ <;>
    · intro k hk
      omega

theorem aligned_leaf {t : PtTable} {i addr : Nat} {flags : Word} :
    (TableWrite.Aligned ⟨t, i, .leaf addr flags⟩) ↔ (superpageSize 2 < t.leafSize → addr % t.leafSize = 0) := by
  constructor
  · exact fun h => h addr flags rfl
  · rintro h _ _ ⟨⟩
    exact h

/-- The superpages are aligned exactly when half of the RAM is a multiple of 2 MiB. -/
theorem aligned_iff {c : Config} (hc : c.Accepted) :
    (∀ w ∈ s1ptWrites c ++ s2ptWrites c, w.Aligned) ↔ c.memSize / 2 % superpageSize 1 = 0 := by
  have hbase : c.memBase % 2 ^ 30 = 0 := by
    have h := hc.aligned
    rwa [show superpageSize 0 - 1 = 2 ^ 30 - 1 from rfl, Nat.and_two_pow_sub_one_eq_mod] at h
  have h0 : superpageSize 0 = 2 ^ 30 := rfl
  have h1 : superpageSize 1 = 2 ^ 21 := rfl
  rw [List.forall_mem_append, forall_s1ptWrites c _ (fun _ _ _ _ _ _ h => nomatch h) (fun _ _ _ _ _ h => nomatch h),
    forall_s2ptWrites c _ (fun _ _ _ _ _ _ h => nomatch h) (fun _ _ _ _ _ h => nomatch h)]
  simp only [aligned_leaf, PtTable.leafSize, h0, h1, show superpageSize 2 = 2 ^ 12 from rfl]
  generalize c.memSize / 2 ^ 21 / 2 = n
  constructor
  · rintro ⟨-, -, -, -, -, h⟩
    have := h 0 (by decide) (by decide)
    omega
  · intro h
    refine ⟨⟨?_, ?_, ?_, ?_, ?_⟩, ?_, ?_, ?_, ?_, ?_⟩ <;>
    · intro k hk hsize
      omega

/-! ## The addresses of the tests -/

theorem memBase_cases {c : Config} (hc : c.Accepted) :
    c.memBase = 0 ∨ c.memBase = 0x40000000 ∨ c.memBase = 0x80000000 ∨ c.memBase = 0xC0000000 := by
  have halign := hc.aligned
  have hlow := hc.low
  rw [show superpageSize 0 - 1 = 2 ^ 30 - 1 from rfl, Nat.and_two_pow_sub_one_eq_mod] at halign
  rw [show superpageSize 0 = 2 ^ 30 from rfl] at hlow
  omega

/-- An accepted platform for which the builders stay within their tables and align their superpages. -/
theorem regular_of {c : Config} (hc : c.Accepted) (hcount : c.memSize / superpageSize 1 / 2 ≤ 512)
    (hhalf : c.memSize / 2 % superpageSize 1 = 0) : c.Regular := by
  have hbase := memBase_cases hc
  have h1 : superpageSize 1 = 2 ^ 21 := rfl
  rw [h1] at hhalf
  refine ⟨by omega, hhalf, ?_, hcount⟩
  rw [h1] at hcount
  omega

/-- Half of the RAM takes at least 64 pages of 2 MiB. -/
theorem count_ge {c : Config} (hc : c.Accepted) : 64 ≤ c.memSize / superpageSize 1 / 2 := by
  have hsize := hc.size
  rw [show superpageSize 1 = 2 ^ 21 from rfl]
  omega

/-- The tables are where the second stage gives the addresses back. -/
theorem readsBuilt_nestedRead (hc : c.Accepted) (hr : c.Regular) (h : Linked c link) (hz : TablesZeroed link m) :
    ReadsBuilt c link (nestedRead link (s1ptInit c link (s2ptInit c link m))) := by
  intro t i hi
  have H := readsBuilt_init h.toTablesPlaced hr hz
  have hbase := memBase_cases hc
  have hcount := count_ge hc
  have hram := (base_inRam h.toTablesPlaced hr t).1
  have hbss : (t.base link).toNat + 8 * t.size ≤ c.memBase + 0x1ff000 := by
    have h1 := h.s1ptBss
    have h2 := h.rootBss
    have h3 := h.s2ptBss
    have hb := toNat_base h.toTablesPlaced hr t
    cases t with
    | s1 k => simp only [pageSize, PtTable.size] at *; omega
    | root => simp only [pageSize, PtTable.size] at *; omega
    | s2 k => simp only [pageSize, PtTable.size] at *; omega
  have hsecond : ∃ flags, walk sv39x4 (physRead (s1ptInit c link (s2ptInit c link m))) false link.s2ptRoot.toNat
      ((t.base link).toNat + 8 * i) = some ((t.base link).toNat + 8 * i, flags) := by
    by_cases hlow : (t.base link).toNat + 8 * i < 0xC0000000
    · exact ⟨_, s2_low H hlow⟩
    · refine ⟨stage2Perm2Mib, (s2_mid h.toTablesPlaced hr H (by omega) (by omega)).trans ?_⟩
      rw [show c.memBase + ((t.base link).toNat + 8 * i - 0xC0000000) = (t.base link).toNat + 8 * i by omega]
  obtain ⟨flags, hsecond⟩ := hsecond
  unfold nestedRead
  rw [hsecond]
  exact H t i hi

/-- What both stages make of the addresses that the tests check. -/
theorem twoStage_test (hc : c.Accepted) (hr : c.Regular) (h : Linked c link) (hz : TablesZeroed link m) (write : Bool) :
    twoStage link (s1ptInit c link (s2ptInit c link m)) write testVaddr2Mib =
        some (c.memBase + 0x4000000, stage1Perm2Mib, stage2Perm2Mib) ∧
      twoStage link (s1ptInit c link (s2ptInit c link m)) write testVaddr1Gib =
        some (0x80000000, stage1Perm1Gib, stage2Perm1Gib) := by
  have H := readsBuilt_init h.toTablesPlaced hr hz
  have Hn := readsBuilt_nestedRead hc hr h hz
  have hcount := count_ge hc
  have h2 : testVaddr2Mib.toNat = 0xC4000000 := rfl
  have h1 : testVaddr1Gib.toNat = 0x80000000 := rfl
  unfold twoStage
  rw [h2, h1, ← base_s1pt link]
  constructor
  · rw [s1_mid h.toTablesPlaced hr Hn (by omega) (by omega), Option.bind_some]
    have hsecond := @s2_mid c link _ write 0xC4000000 h.toTablesPlaced hr H (by omega) (by omega)
    exact congrArg (Option.map _) hsecond
  · rw [s1_low Hn (by omega), Option.bind_some]
    have hsecond := @s2_low c link _ write 0x80000000 H (by omega)
    exact congrArg (Option.map _) hsecond

end ConfigurationsAux

open ConfigurationsAux

/-- The platforms that the guards accept, with any placement that the linker script makes, for which the builders are safe: the
guards look neither at the 512 entries of a table nor at the alignment of the upper half of the RAM, and `TEST_PADDR_2MIB` does
not depend on `MEM_BASE`. -/
theorem config_safe_iff {c : Config} (hc : c.Accepted) {link : Link} (h : Linked c link) {m : Mem} (hz : TablesZeroed link m) :
    c.Safe link m ↔ c.memBase = 0x80000000 ∧ c.memSize / superpageSize 1 / 2 ≤ 512 ∧ c.memSize / 2 % superpageSize 1 = 0 := by
  constructor
  · intro hsafe
    have hcount := (inside_iff c).1 hsafe.indices
    have hhalf := (aligned_iff hc).1 hsafe.superpages
    obtain ⟨flags, htest⟩ := hsafe.test2Mib false
    rw [(twoStage_test hc (regular_of hc hcount hhalf) h hz false).1] at htest
    have haddr : c.memBase + 0x4000000 = 0x84000000 := congrArg Prod.fst (Option.some.inj htest)
    exact ⟨by omega, hcount, hhalf⟩
  · rintro ⟨hbase, hcount, hhalf⟩
    have hr := regular_of hc hcount hhalf
    refine ⟨(inside_iff c).2 hcount, (aligned_iff hc).2 hhalf, fun write => ?_, fun write => ?_⟩
    · refine ⟨(stage1Perm2Mib, stage2Perm2Mib), (twoStage_test hc hr h hz write).1.trans ?_⟩
      rw [hbase]
      rfl
    · exact ⟨_, (twoStage_test hc hr h hz write).2⟩

theorem accepted_platform : Config.platform.Accepted := ⟨by decide, by decide, by decide⟩

theorem linked_compact : Linked Config.platform Link.compact := ⟨tablesPlaced_compact, by decide, by decide, by decide⟩

/-- The theorem at the platform that is built. -/
theorem config_safe_at : Config.platform.Safe Link.compact fun _ => 0#8 :=
  (config_safe_iff accepted_platform linked_compact ⟨fun _ _ => rfl, fun _ _ => rfl, fun _ _ => rfl⟩).2
    ⟨rfl, by decide, by decide⟩

/-- The tables near the start of a RAM at 1 GiB. -/
def Link.atOneGib : Link :=
  { Link.compact with s1pt := 0x40020000#64, s2ptRoot := 0x40028000#64, s2pt := 0x4002C000#64 }

/-- Three platforms that the guards accept: with a RAM of 2 GiB and 4 MiB a builder writes behind its table, with one of 258 MiB
it maps superpages that are not aligned, and with one at 1 GiB the address of the 2-MiB test is translated elsewhere. -/
theorem config_guards_miss :
    ((⟨0x80000000, 0x80400000⟩ : Config).Accepted ∧
      ¬ ∀ w ∈ s1ptWrites ⟨0x80000000, 0x80400000⟩ ++ s2ptWrites ⟨0x80000000, 0x80400000⟩, w.Inside) ∧
    ((⟨0x80000000, 0x10200000⟩ : Config).Accepted ∧
      ¬ ∀ w ∈ s1ptWrites ⟨0x80000000, 0x10200000⟩ ++ s2ptWrites ⟨0x80000000, 0x10200000⟩, w.Aligned) ∧
    ((⟨0x40000000, 0x10000000⟩ : Config).Accepted ∧ Linked ⟨0x40000000, 0x10000000⟩ Link.atOneGib ∧
      ∃ flags, twoStage Link.atOneGib (s1ptInit ⟨0x40000000, 0x10000000⟩ Link.atOneGib
        (s2ptInit ⟨0x40000000, 0x10000000⟩ Link.atOneGib fun _ => 0#8)) true testVaddr2Mib = some (0x44000000, flags)) := by
  have h1 : (⟨0x80000000, 0x80400000⟩ : Config).Accepted := ⟨by decide, by decide, by decide⟩
  have h2 : (⟨0x80000000, 0x10200000⟩ : Config).Accepted := ⟨by decide, by decide, by decide⟩
  have h3 : (⟨0x40000000, 0x10000000⟩ : Config).Accepted := ⟨by decide, by decide, by decide⟩
  have hl : Linked ⟨0x40000000, 0x10000000⟩ Link.atOneGib := ⟨by constructor <;> decide, by decide, by decide, by decide⟩
  refine ⟨⟨h1, ?_⟩, ⟨h2, ?_⟩, h3, hl, _, (twoStage_test h3 (regular_of h3 (by decide) (by decide)) hl
    (m := fun _ => 0#8) ⟨fun _ _ => rfl, fun _ _ => rfl, fun _ _ => rfl⟩ true).1⟩
  · rw [inside_iff]
    decide
  · rw [aligned_iff h2]
    decide

end RvIommuTests
