import RvIommuTests.Lemmas.PageTables

/-!
# Walks over the built tables

The walk of every address of either stage, for hardware that finds the entries of `built` wherever the tables are.
-/

namespace RvIommuTests

open Bytes Tables Paging PageTablesAux

/-- The hardware reads the entries that the builders made. -/
def ReadsBuilt (c : Config) (link : Link) (read : Nat → Option Pte) : Prop :=
  ∀ t i, i < t.size → read ((t.base link).toNat + 8 * i) = some (built c link t i)

namespace Stage

/-- The format of the tables of a stage. -/
def scheme : Stage → Scheme
  | .first => sv39
  | .second => sv39x4

/-- What the permission table says of a page for a stage. -/
def perm : Stage → PagePerm → Word
  | .first => PagePerm.stage1
  | .second => PagePerm.stage2

end Stage

namespace WalksAux

variable {c : Config} {link : Link} {read : Nat → Option Pte} {s : Scheme} {write : Bool} {va level i page : Nat}
  {t t' : PtTable} {flags : Word}

/-! ## Steps -/

/-- A leaf of a built table ends the walk. -/
theorem at_leaf (H : ReadsBuilt c link read) (hi : s.index level va = i) (hlt : i < t.size)
    (hb : built c link t i = Pte.make page flags) (hpage : page < 2 ^ 44) (hflags : flags.toNat < 2 ^ 10)
    (hleaf : LeafFlags s flags) (halign : page % 2 ^ (9 * level) = 0) :
    descend s read write va level (t.base link).toNat = some (page * 2 ^ 12 + va % 2 ^ pageBits level, flags) := by
  have hread := H t i hlt
  rw [hb, ← hi] at hread
  exact descend_leaf hread hpage hflags hleaf halign

/-- Over a pointer the walk goes on in the table of the next level. -/
theorem at_pointer (h : TablesPlaced c link) (hc : c.Regular) (H : ReadsBuilt c link read)
    (hi : s.index (level + 1) va = i) (hlt : i < t.size) (hb : built c link t i = Pte.make (pageOf link t') pteV) :
    descend s read write va (level + 1) (t.base link).toNat = descend s read write va level (t'.base link).toNat := by
  have hread := H t i hlt
  rw [hb, ← hi] at hread
  rw [descend_next hread (pageOf_lt h hc t'), pageOf_mul h hc]

/-- An entry without V ends the walk with a fault. -/
theorem at_invalid (H : ReadsBuilt c link read) (hi : s.index level va = i) (hlt : i < t.size)
    (hb : (built c link t i).flag 0 = false) : descend s read write va level (t.base link).toNat = none := by
  have hread := H t i hlt
  rw [← hi] at hread
  exact descend_invalid hread (hi ▸ hb)

/-! ## Flags of the pages -/

/-- What the initialisers of the permission table have in common holds of all its entries. -/
theorem testPagePermTable_of {P : PagePerm → Prop} (h : ∀ e ∈ testPagePerms, P e.2) (h0 : P ⟨0#64, 0#64⟩) (i : Nat) :
    P (testPagePermTable i) := by
  unfold testPagePermTable
  split
  · rename_i e he
    exact h e (List.mem_of_find?_eq_some he)
  · exact h0

/-- The flags of a page: V stands exactly in a mapped page, and there every access passes. -/
structure GoodFlags (s : Scheme) (flags : Word) (mapped : Bool) : Prop where
  small : flags.toNat < 2 ^ 10
  valid : flags.getLsbD 0 = mapped
  leaf : mapped = true → LeafFlags s flags

/-- The flags of all pages are good if those of the permission table and of the stress range are. -/
theorem goodFlags {perm : PagePerm → Word}
    (hsmall : ∀ i, (pteAD ||| perm (testPagePermTable i)).toNat < 2 ^ 10)
    (hleaf : ∀ i, (perm (testPagePermTable i)).getLsbD 0 = true → LeafFlags s (pteAD ||| perm (testPagePermTable i)))
    (hs : LeafFlags s (pteAD ||| pteV ||| pteU ||| pteRWX)) (i : Nat) :
    GoodFlags s (pageFlags perm i) (pageMapped perm i) := by
  unfold pageFlags pageMapped
  by_cases h : stressStart ≤ i ∧ i < stressTop
  · rw [if_pos h, decide_eq_true h.1, decide_eq_true h.2]
    exact ⟨by decide, rfl, fun _ => hs⟩
  · have hb : (decide (stressStart ≤ i) && decide (i < stressTop)) = false := by
      rw [← Bool.not_eq_true, Bool.and_eq_true, decide_eq_true_eq, decide_eq_true_eq]
      exact h
    rw [if_neg h, hb, Bool.false_or]
    refine ⟨hsmall i, ?_, hleaf i⟩
    rw [BitVec.getLsbD_or, show pteAD.getLsbD 0 = false by decide, Bool.false_or]

/-- The flags of the pages of either stage are good, as each initialiser of the permission table is. -/
theorem goodFlags_stage (stage : Stage) (i : Nat) :
    GoodFlags stage.scheme (pageFlags stage.perm i) (pageMapped stage.perm i) := by
  have hsmall : ∀ e ∈ testPagePerms, (pteAD ||| stage.perm e.2).toNat < 2 ^ 10 := by
    cases stage <;> decide
  have hleaf : ∀ e ∈ testPagePerms, (stage.perm e.2).getLsbD 0 = true → LeafFlags stage.scheme (pteAD ||| stage.perm e.2) := by
    cases stage <;> decide
  refine goodFlags (testPagePermTable_of (P := fun p => (pteAD ||| stage.perm p).toNat < 2 ^ 10) hsmall ?_)
    (testPagePermTable_of (P := fun p => (stage.perm p).getLsbD 0 = true → LeafFlags stage.scheme (pteAD ||| stage.perm p)) hleaf ?_)
    ?_ i
  all_goals cases stage <;> decide

/-- A table of 4-KiB pages ends the walk, in a leaf or with a fault. -/
theorem at_page (H : ReadsBuilt c link read) (hi : s.index 0 va = i) (hlt : i < t.size) {mapped : Bool}
    (hb : built c link t i = Pte.make page flags) (hpage : page < 2 ^ 44) (hgood : GoodFlags s flags mapped) :
    descend s read write va 0 (t.base link).toNat =
      if mapped = true then some (page * 2 ^ 12 + va % 2 ^ 12, flags) else none := by
  split
  · rename_i hm
    exact at_leaf H hi hlt hb hpage hgood.small (hgood.leaf hm) (Nat.mod_one page)
  · rename_i hm
    refine at_invalid H hi hlt ?_
    rw [hb, Pte.flag_make (by decide), hgood.valid]
    exact Bool.not_eq_true _ ▸ hm

/-! ## The first stage -/

/-- An address of the lower half is in range for the first stage, so the walk starts at the root. -/
theorem walk_sv39 (hva : va < 2 ^ 38) (root : Nat) :
    walk sv39 read write root va = descend sv39 read write va 2 root := by
  unfold walk
  rw [if_pos]
  simp only [sv39, hva, decide_true, Bool.true_or]

/-- The index of an address in a root table, which has more entries in the second stage. -/
theorem index_two (s : Scheme) : s.index 2 va = va / 2 ^ 30 % 2 ^ s.rootBits := rfl

/-- The index of an address in a table of the middle level. -/
theorem index_one (s : Scheme) : s.index 1 va = va / 2 ^ 21 % 512 := rfl

/-- The index of an address in a table of pages. -/
theorem index_zero (s : Scheme) : s.index 0 va = va / 2 ^ 12 % 512 := rfl

/-- The index of an address behind the entry 3 of a root table. -/
theorem index_mid (s : Scheme) (hlo : 0xC0000000 ≤ va) (hhi : va < 0x100000000) : s.index 1 va = va / 2 ^ 21 - 0x600 := by
  rw [index_one]
  omega

/-- An address in the 1-GiB pages of the first stage is mapped to itself. -/
theorem s1_low (H : ReadsBuilt c link read) (hva : va < 0xC0000000) :
    walk sv39 read write ((PtTable.s1 0).base link).toNat va = some (va, stage1Perm1Gib) := by
  rw [walk_sv39 (by omega)]
  have hi : sv39.index 2 va = va / 2 ^ 30 := by
    rw [index_two, Nat.mod_eq_of_lt]
    simp only [sv39]
    omega
  have hlt : va / 2 ^ 30 < 3 := by omega
  have hb : built c link (.s1 0) (va / 2 ^ 30) = Pte.make (2 ^ 18 * (va / 2 ^ 30)) stage1Perm1Gib := by
    rw [built, s1Built, if_neg (by omega), if_neg (by omega), if_neg (by omega), if_pos (by omega)]
  rw [at_leaf H hi (by simp only [PtTable.size]; omega) hb (by omega) (by decide) (by decide) (by omega)]
  congr 2
  simp only [pageBits]
  omega

/-- An address behind an entry of `s1pt[0]` that points to a table is walked on from that table. -/
theorem s1_pointer (h : TablesPlaced c link) (hc : c.Regular) (H : ReadsBuilt c link read) (hva : va < 2 ^ 38)
    (hi : va / 2 ^ 30 = i) {k : Fin 6} (hb : s1Built c link 0 i = Pte.make (pageOf link (.s1 k)) pteV) :
    walk sv39 read write ((PtTable.s1 0).base link).toNat va =
      descend sv39 read write va 1 ((PtTable.s1 k).base link).toNat := by
  have hidx : sv39.index 2 va = i := by
    rw [index_two, Nat.mod_eq_of_lt, hi]
    simp only [sv39]
    omega
  rw [walk_sv39 hva]
  exact at_pointer h hc H hidx (by simp only [PtTable.size]; omega) hb

/-- An address in the 2-MiB pages of the first stage is mapped to itself. -/
theorem s1_mid (h : TablesPlaced c link) (hc : c.Regular) (H : ReadsBuilt c link read) (hlo : 0xC0000000 ≤ va)
    (hhi : va < 0xC0000000 + c.memSize / superpageSize 1 / 2 * 2 ^ 21) :
    walk sv39 read write ((PtTable.s1 0).base link).toNat va = some (va, stage1Perm2Mib) := by
  have hcount := hc.count
  rw [s1_pointer h hc H (i := 3) (k := 1) (by omega) (by omega) rfl]
  have hi := index_mid sv39 hlo (by omega)
  have hb : built c link (.s1 1) (va / 2 ^ 21 - 0x600) =
      Pte.make (0xC0000 + 2 ^ 9 * (va / 2 ^ 21 - 0x600)) stage1Perm2Mib := if_pos (by omega)
  rw [at_leaf H hi (by simp only [PtTable.size]; omega) hb (by omega) (by decide) (by decide) (by omega)]
  congr 2
  simp only [pageBits]
  omega

/-- An address in the 4-KiB pages of the first stage is mapped to itself exactly when the permission table has its page valid. -/
theorem s1_pages (h : TablesPlaced c link) (hc : c.Regular) (H : ReadsBuilt c link read) (hlo : 0x100000000 ≤ va)
    (hhi : va < 0x100400000) :
    walk sv39 read write ((PtTable.s1 0).base link).toNat va =
      if pageMapped PagePerm.stage1 (va / 2 ^ 12 % 512) = true then
        some (va, pageFlags PagePerm.stage1 (va / 2 ^ 12 % 512))
      else none := by
  rw [s1_pointer h hc H (i := 4) (k := 2) (by omega) (by omega) rfl]
  have hgood : GoodFlags sv39 (pageFlags PagePerm.stage1 (va / 2 ^ 12 % 512)) (pageMapped PagePerm.stage1 (va / 2 ^ 12 % 512)) :=
    goodFlags_stage .first _
  have hlt : va / 2 ^ 12 % 512 < 512 := Nat.mod_lt _ (by decide)
  by_cases hva : va < 0x100200000
  · have hi : sv39.index 1 va = 0 := by
      rw [index_one]
      omega
    rw [at_pointer h hc H hi (by decide)
      (show built c link (.s1 2) 0 = Pte.make (pageOf link (.s1 3)) pteV from rfl),
      at_page (t := .s1 3) H (index_zero sv39) hlt rfl (by omega) hgood]
    rw [show (0x100000 + va / 2 ^ 12 % 512) * 2 ^ 12 + va % 2 ^ 12 = va by omega]
  · have hi : sv39.index 1 va = 1 := by
      rw [index_one]
      omega
    rw [at_pointer h hc H hi (by decide)
      (show built c link (.s1 2) 1 = Pte.make (pageOf link (.s1 4)) pteV from rfl),
      at_page (t := .s1 4) H (index_zero sv39) hlt rfl (by omega) hgood]
    rw [show (0x100200 + va / 2 ^ 12 % 512) * 2 ^ 12 + va % 2 ^ 12 = va by omega]

/-- Between the 4-KiB pages and the 2-MiB pages without U the first stage maps nothing. -/
theorem s1_gap (h : TablesPlaced c link) (hc : c.Regular) (H : ReadsBuilt c link read) (hlo : 0x100400000 ≤ va)
    (hhi : va < 0x140000000) : walk sv39 read write ((PtTable.s1 0).base link).toNat va = none := by
  rw [s1_pointer h hc H (i := 4) (k := 2) (by omega) (by omega) rfl]
  have hi : sv39.index 1 va = va / 2 ^ 21 - 0x800 := by
    rw [index_one]
    omega
  have hb : built c link (.s1 2) (va / 2 ^ 21 - 0x800) = 0#64 := by
    rw [built, s1Built, if_neg (by omega), if_neg (by omega)]
  exact at_invalid H hi (by simp only [PtTable.size]; omega) (by rw [hb]; rfl)

/-- The 2-MiB pages of the first stage that have no U. -/
theorem s1_giant (h : TablesPlaced c link) (hc : c.Regular) (H : ReadsBuilt c link read) (hlo : 0x140000000 ≤ va)
    (hhi : va < 0x180000000) :
    walk sv39 read write ((PtTable.s1 0).base link).toNat va = some (va, pteV ||| (pteAD ||| pteRWX)) := by
  rw [s1_pointer h hc H (i := 5) (k := 5) (by omega) (by omega) rfl]
  have hlt : va / 2 ^ 21 % 512 < 512 := Nat.mod_lt _ (by decide)
  rw [at_leaf (t := .s1 5) H (index_one sv39) hlt rfl (by omega) (by decide) (by decide) (by omega)]
  congr 2
  simp only [pageBits]
  omega

/-- Behind the entry 5 of the root the first stage maps nothing, and neither any address that is not sign-extended. -/
theorem s1_high (H : ReadsBuilt c link read) (hlo : 0x180000000 ≤ va) :
    walk sv39 read write ((PtTable.s1 0).base link).toNat va = none := by
  unfold walk
  split
  · rename_i hr
    simp only [sv39, Bool.or_eq_true, Bool.and_eq_true, decide_eq_true_eq] at hr
    have hlt : va / 2 ^ 30 % 512 < 512 := Nat.mod_lt _ (by decide)
    have hb : built c link (.s1 0) (va / 2 ^ 30 % 512) = 0#64 := by
      rw [built, s1Built, if_neg (by omega), if_neg (by omega), if_neg (by omega), if_neg (by omega)]
    exact at_invalid (t := .s1 0) H (index_two sv39) hlt (by
      rw [show 2 ^ sv39.rootBits = 512 from rfl, hb]
      rfl)
  · rfl

/-! ## The second stage -/

/-- An address of up to 41 bits is in range for the second stage. -/
theorem walk_sv39x4 (hva : va < 2 ^ 41) (root : Nat) :
    walk sv39x4 read write root va = descend sv39x4 read write va 2 root := by
  unfold walk
  rw [if_pos]
  simp only [sv39x4, hva, decide_true]

/-- The root table of the second stage is indexed with all the upper bits. -/
theorem index_root (hva : va < 2 ^ 41) : sv39x4.index 2 va = va / 2 ^ 30 := by
  rw [index_two, Nat.mod_eq_of_lt]
  simp only [sv39x4]
  omega

/-- The 1-GiB pages of the second stage, for which one entry of the root table is enough. -/
theorem s2_low_of_read {root : Nat} (hva : va < 0xC0000000)
    (hread : read (root + 8 * (va / 2 ^ 30)) = some (Pte.make (2 ^ 18 * (va / 2 ^ 30)) stage2Perm1Gib)) :
    walk sv39x4 read write root va = some (va, stage2Perm1Gib) := by
  have hi : sv39x4.index 2 va = va / 2 ^ 30 := index_root (by omega)
  rw [← hi] at hread
  rw [walk_sv39x4 (by omega), descend_leaf hread (by omega) (by decide) (by decide) (by omega)]
  congr 2
  simp only [pageBits]
  omega

/-- The first three entries of the root of the second stage are 1-GiB pages. -/
theorem rootBuilt_low {i : Nat} (hi : i < 3) : rootBuilt link i = Pte.make (2 ^ 18 * i) stage2Perm1Gib := by
  unfold rootBuilt
  rw [if_neg (by omega), if_neg (by omega), if_neg (by omega), if_neg (by omega), if_pos (by omega)]

/-- An address in the 1-GiB pages of the second stage is mapped to itself. -/
theorem s2_low (H : ReadsBuilt c link read) (hva : va < 0xC0000000) :
    walk sv39x4 read write (PtTable.root.base link).toNat va = some (va, stage2Perm1Gib) := by
  refine s2_low_of_read hva ?_
  rw [H .root (va / 2 ^ 30) (by simp only [PtTable.size]; omega), built, rootBuilt_low (by omega)]

/-- An address behind an entry of `s2pt_root` that points to a table is walked on from that table. -/
theorem s2_pointer (h : TablesPlaced c link) (hc : c.Regular) (H : ReadsBuilt c link read) (hva : va < 2 ^ 41)
    (hi : va / 2 ^ 30 = i) {k : Fin 5} (hb : rootBuilt link i = Pte.make (pageOf link (.s2 k)) pteV) :
    walk sv39x4 read write (PtTable.root.base link).toNat va =
      descend sv39x4 read write va 1 ((PtTable.s2 k).base link).toNat := by
  rw [walk_sv39x4 hva]
  exact at_pointer (t := .root) h hc H ((index_root hva).trans hi) (by simp only [PtTable.size]; omega) hb

/-- The 2-MiB pages of the second stage in the lower half of the RAM. -/
theorem s2_mid (h : TablesPlaced c link) (hc : c.Regular) (H : ReadsBuilt c link read) (hlo : 0xC0000000 ≤ va)
    (hhi : va < 0xC0000000 + c.memSize / superpageSize 1 / 2 * 2 ^ 21) :
    walk sv39x4 read write (PtTable.root.base link).toNat va =
      some (c.memBase + (va - 0xC0000000), stage2Perm2Mib) := by
  have hcount := hc.count
  have hbase := hc.base
  have hfits := hc.fits
  rw [s2_pointer h hc H (i := 3) (k := 0) (by omega) (by omega) rfl]
  have hi := index_mid sv39x4 hlo (by omega)
  have hb : built c link (.s2 0) (va / 2 ^ 21 - 0x600) =
      Pte.make (c.memBase / 2 ^ 12 + 2 ^ 9 * (va / 2 ^ 21 - 0x600)) stage2Perm2Mib := if_pos (by omega)
  have haddr : (c.memBase / 2 ^ 12 + 2 ^ 9 * (va / 2 ^ 21 - 0x600)) * 2 ^ 12 + va % 2 ^ pageBits 1 =
      c.memBase + (va - 0xC0000000) := by
    simp only [pageBits]
    omega
  rw [at_leaf H hi (by simp only [PtTable.size]; omega) hb (by omega) (by decide) (by decide) (by omega), haddr]

/-- Behind the 2-MiB pages of the RAM nothing is mapped, in either stage. -/
theorem mid_none (h : TablesPlaced c link) (hc : c.Regular) (H : ReadsBuilt c link read) (stage : Stage)
    (hlo : 0xC0000000 + c.memSize / superpageSize 1 / 2 * 2 ^ 21 ≤ va) (hhi : va < 0x100000000) :
    walk stage.scheme read write (stage.rootTable.base link).toNat va = none := by
  have hroot : walk stage.scheme read write (stage.rootTable.base link).toNat va =
      descend stage.scheme read write va 1 (stage.midTable.base link).toNat := by
    cases stage with
    | first => exact s1_pointer h hc H (i := 3) (k := 1) (by omega) (by omega) rfl
    | second => exact s2_pointer h hc H (i := 3) (k := 0) (by omega) (by omega) rfl
  have hbuilt : built c link stage.midTable (va / 2 ^ 21 - 0x600) = 0#64 := by
    cases stage with
    | first => exact if_neg (by omega)
    | second => exact if_neg (by omega)
  have hlt : va / 2 ^ 21 - 0x600 < stage.midTable.size := by
    cases stage <;> simp only [Stage.midTable, PtTable.size] <;> omega
  rw [hroot]
  exact at_invalid H (index_mid _ (Nat.le_of_add_right_le hlo) hhi) hlt (by rw [hbuilt]; rfl)

/-- Both entries of `s2pt_root` that point to `s2pt[1]`, 4 and 2047, are walked on from there. -/
theorem s2_root (h : TablesPlaced c link) (hc : c.Regular) (H : ReadsBuilt c link read)
    (hr : va / 2 ^ 30 = 4 ∨ va / 2 ^ 30 = 2047) :
    walk sv39x4 read write (PtTable.root.base link).toNat va =
      descend sv39x4 read write va 1 ((PtTable.s2 1).base link).toNat := by
  rcases hr with hr | hr
  · exact s2_pointer h hc H (by omega) hr rfl
  · exact s2_pointer h hc H (by omega) hr rfl

/-- The 4-KiB pages of the second stage: the tables behind entry 4 of the root stand behind entry 2047 too. -/
theorem s2_pages (h : TablesPlaced c link) (hc : c.Regular) (H : ReadsBuilt c link read)
    (hr : va / 2 ^ 30 = 4 ∨ va / 2 ^ 30 = 2047) (hm : va / 2 ^ 21 % 512 = 0 ∨ va / 2 ^ 21 % 512 = 1 ∨ va / 2 ^ 21 % 512 = 511) :
    walk sv39x4 read write (PtTable.root.base link).toNat va =
      if pageMapped PagePerm.stage2 (va / 2 ^ 12 % 512) = true then
        some (c.memBase + c.memSize / 2 + va % 2 ^ 21, pageFlags PagePerm.stage2 (va / 2 ^ 12 % 512))
      else none := by
  have hbase := hc.base
  have hhalf := hc.half
  have hfits := hc.fits
  have hgood : GoodFlags sv39x4 (pageFlags PagePerm.stage2 (va / 2 ^ 12 % 512)) (pageMapped PagePerm.stage2 (va / 2 ^ 12 % 512)) :=
    goodFlags_stage .second _
  have hlt : va / 2 ^ 12 % 512 < 512 := Nat.mod_lt _ (by decide)
  have haddr : ((c.memBase + c.memSize / 2) / 2 ^ 12 + va / 2 ^ 12 % 512) * 2 ^ 12 + va % 2 ^ 12 =
      c.memBase + c.memSize / 2 + va % 2 ^ 21 := by omega
  rw [s2_root h hc H hr]
  rcases hm with hm | hm | hm
  · rw [at_pointer h hc H ((index_one _).trans hm) (by decide)
      (show built c link (.s2 1) 0 = Pte.make (pageOf link (.s2 2)) pteV from rfl),
      at_page (t := .s2 2) H (index_zero _) hlt rfl (by omega) hgood, haddr]
  · rw [at_pointer h hc H ((index_one _).trans hm) (by decide)
      (show built c link (.s2 1) 1 = Pte.make (pageOf link (.s2 3)) pteV from rfl),
      at_page (t := .s2 3) H (index_zero _) hlt rfl (by omega) hgood, haddr]
  · rw [at_pointer h hc H ((index_one _).trans hm) (by decide)
      (show built c link (.s2 1) 511 = Pte.make (pageOf link (.s2 2)) pteV from rfl),
      at_page (t := .s2 2) H (index_zero _) hlt rfl (by omega) hgood, haddr]

/-- Around the 4-KiB pages behind `s2pt[1]` the second stage maps nothing. -/
theorem s2_gap (h : TablesPlaced c link) (hc : c.Regular) (H : ReadsBuilt c link read)
    (hr : va / 2 ^ 30 = 4 ∨ va / 2 ^ 30 = 2047) (h0 : va / 2 ^ 21 % 512 ≠ 0) (h1 : va / 2 ^ 21 % 512 ≠ 1)
    (h511 : va / 2 ^ 21 % 512 ≠ 511) : walk sv39x4 read write (PtTable.root.base link).toNat va = none := by
  have hlt : va / 2 ^ 21 % 512 < 512 := Nat.mod_lt _ (by decide)
  have hb : built c link (.s2 1) (va / 2 ^ 21 % 512) = 0#64 := by
    rw [built, s2Built, if_neg h1, if_neg h511, if_neg h0]
  rw [s2_root h hc H hr]
  exact at_invalid H (index_one _) hlt (by rw [hb]; rfl)

/-- The 2-MiB pages of the second stage from the upper half of the RAM on. -/
theorem s2_giant (h : TablesPlaced c link) (hc : c.Regular) (H : ReadsBuilt c link read) (hr : va / 2 ^ 30 = 5) :
    walk sv39x4 read write (PtTable.root.base link).toNat va =
      some (c.memBase + c.memSize / 2 + (va - 0x140000000), pteV ||| (pteU ||| (pteAD ||| pteRWX))) := by
  have hbase := hc.base
  have hhalf := hc.half
  have hfits := hc.fits
  rw [s2_pointer h hc H (i := 5) (k := 4) (by omega) hr rfl]
  have hlt : va / 2 ^ 21 % 512 < 512 := Nat.mod_lt _ (by decide)
  have haddr : ((c.memBase + c.memSize / 2) / 2 ^ 12 + 2 ^ 9 * (va / 2 ^ 21 % 512)) * 2 ^ 12 + va % 2 ^ pageBits 1 =
      c.memBase + c.memSize / 2 + (va - 0x140000000) := by
    simp only [pageBits]
    omega
  rw [at_leaf (t := .s2 4) H (index_one _) hlt rfl (by omega) (by decide) (by decide) (by omega), haddr]

/-- From entry 6 of the root on, but for entry 2047, the second stage maps nothing. -/
theorem s2_other (H : ReadsBuilt c link read) (hlo : 0x180000000 ≤ va) (hr : va / 2 ^ 30 ≠ 2047) :
    walk sv39x4 read write (PtTable.root.base link).toNat va = none := by
  unfold walk
  split
  · rename_i hin
    have hva : va < 2 ^ 41 := of_decide_eq_true hin
    have hb : built c link .root (va / 2 ^ 30) = 0#64 := by
      rw [built, rootBuilt, if_neg (by omega), if_neg hr, if_neg (by omega), if_neg (by omega), if_neg (by omega)]
    exact at_invalid (t := .root) H (index_root hva) (by simp only [PtTable.size]; omega) (by rw [hb]; rfl)
  · rfl

/-! ## The tables in memory -/

/-- The root table of the first stage is at the start of `s1pt`. -/
theorem base_s1pt (link : Link) : (PtTable.s1 0).base link = link.s1pt := by
  simp [PtTable.base, s1ptTable]

/-- Eight zero bytes are read as a zero doubleword. -/
theorem load_zero {m : Mem} {a : Addr} (h : ∀ k < 8, m (a + BitVec.ofNat 64 k) = 0#8) : load m 8 a = 0#64 :=
  (@load_congr m (fun _ => 0#8) 8 a h).trans (by simp [load])

/-- In tables whose bytes are zero every entry is zero, hence not valid. -/
theorem view_zeroed (h : TablesPlaced c link) (hc : c.Regular) {m : Mem} (hz : TablesZeroed link m) (hi : i < t.size) :
    (tables h hc).view m t i = 0#64 := by
  apply load_zero
  intro k hk
  cases t with
  | s1 j =>
    have hi : i < 512 := hi
    have := hz.s1pt (j * pageSize + 8 * i + k) (by simp only [pageSize]; omega)
    rwa [BitVec.ofNat_add, BitVec.ofNat_add, ← BitVec.add_assoc, ← BitVec.add_assoc] at this
  | root =>
    have hi : i < 2048 := hi
    have := hz.root (8 * i + k) (by simp only [pageSize]; omega)
    rwa [BitVec.ofNat_add, ← BitVec.add_assoc] at this
  | s2 j =>
    have hi : i < 512 := hi
    have := hz.s2pt (j * pageSize + 8 * i + k) (by simp only [pageSize]; omega)
    rwa [BitVec.ofNat_add, BitVec.ofNat_add, ← BitVec.add_assoc, ← BitVec.add_assoc] at this

/-- After the builders have run on zeroed tables, the hardware reads the entries that they made and zeros elsewhere. -/
theorem readsBuilt_init (h : TablesPlaced c link) (hc : c.Regular) {m : Mem} (hz : TablesZeroed link m) :
    ReadsBuilt c link (physRead (s1ptInit c link (s2ptInit c link m))) := by
  intro t i hi
  rw [← view_init h hc (fun t i hi _ => view_zeroed h hc hz hi) hi]
  have haddr : BitVec.ofNat 64 ((t.base link).toNat + 8 * i) = entryAddr (t.base link) i := by
    rw [BitVec.ofNat_add, BitVec.ofNat_toNat, BitVec.setWidth_eq]
    rfl
  unfold physRead
  rw [haddr]
  rfl

end WalksAux

end RvIommuTests
