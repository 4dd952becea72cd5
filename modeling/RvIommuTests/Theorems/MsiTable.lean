import RvIommuTests.MsiTable

/-!
# The MSI page table and the pages of the tests

Every MSI page has an index within the table, and its entry leads to the interrupt file of the index, or to the MRIF. Of the
three entries for the MRIF, the last one has its custom bit set, and so is none of the two formats.
-/

namespace RvIommuTests

open Fields

namespace MsiAux

/-! ## What the loops write -/

/-- The loop writes nothing below the word it starts at. -/
theorem fillBt_below (n i : Nat) (addr : Word) (pt : MsiPt) {j : Nat} (hj : j < i) : MsiPt.fillBt n i addr pt j = pt j := by
  induction n generalizing i addr pt with
  | zero => rfl
  | succ n ih =>
    unfold MsiPt.fillBt
    dsimp only
    rw [ih _ _ _ (by omega), Function.update_of_ne (by omega), Function.update_of_ne (by omega)]

/-- The loop writes into each entry the page of its own interrupt file, in basic-translate mode. -/
theorem fillBt_entry (n i : Nat) (addr : Word) (pt : MsiPt) {k : Nat} (hk : k < n) :
    MsiPt.fillBt n i addr pt (i + 2 * k) =
      msiPteValid ||| msiPteBtMode ||| ((addr + BitVec.ofNat 64 (k * pageSize)) >>> 2) := by
  induction n generalizing i addr pt k with
  | zero => exact absurd hk (Nat.not_lt_zero k)
  | succ n ih =>
    unfold MsiPt.fillBt
    dsimp only
    cases k with
    | zero =>
      rw [fillBt_below _ _ _ _ (by omega), Function.update_of_ne (by omega), Nat.mul_zero, Nat.add_zero, Function.update_self,
        Nat.zero_mul, BitVec.add_zero]
    | succ k =>
      have h1 : i + 2 * (k + 1) = i + 2 + 2 * k := by omega
      have h2 : (k + 1) * pageSize = pageSize + k * pageSize := by rw [Nat.succ_mul, Nat.add_comm]
      rw [h1, ih _ _ _ (by omega), h2, BitVec.ofNat_add, BitVec.add_assoc]

/-- The words of the entries that are in basic-translate mode. -/
theorem msiPtInit_basic (mrif : Word) (pt : MsiPt) {i : Nat} (hi : i < msiNEntries) (h20 : i ≠ 20) (h21 : i ≠ 21)
    (h23 : i ≠ 23) :
    msiPtInit mrif pt (2 * i) =
      msiPteValid ||| msiPteBtMode ||| ((msiBaseIfSpa + BitVec.ofNat 64 (i * pageSize)) >>> 2) := by
  have hfill := fillBt_entry msiNEntries 0 msiBaseIfSpa (MsiPt.clear (msiNEntries * 2) 0 pt) hi
  rw [Nat.zero_add] at hfill
  unfold msiPtInit
  rw [Function.update_of_ne (by omega), Function.update_of_ne (by omega), Function.update_of_ne (by omega),
    Function.update_of_ne (by omega), Function.update_of_ne (by omega), Function.update_of_ne (by omega), hfill]

/-! ## How they are read -/

/-- The flags of an entry do not meet the address in it. -/
theorem extract_flags (flags : Word) {x : Word} (hx : Aligned x 7) (hy : Fits x 54) :
    (flags ||| x).getLsbD 0 = flags.getLsbD 0 ∧ (flags ||| x).getLsbD 63 = flags.getLsbD 63 ∧
      (flags ||| x).extractLsb' 54 9 = flags.extractLsb' 54 9 ∧ (flags ||| x).extractLsb' 1 2 = flags.extractLsb' 1 2 ∧
      (flags ||| x).extractLsb' 3 4 = flags.extractLsb' 3 4 := by
  refine ⟨?_, ?_, ?_, ?_, ?_⟩
  · rw [BitVec.getLsbD_or, hx.getLsbD (by decide), Bool.or_false]
  · rw [BitVec.getLsbD_or, hy.getLsbD (by decide), Bool.or_false]
  · rw [BitVec.extractLsb'_or, hy.extract_above (by decide), BitVec.or_zero]
  · rw [BitVec.extractLsb'_or, hx.extract_below (by decide), BitVec.or_zero]
  · rw [BitVec.extractLsb'_or, hx.extract_below (by decide), BitVec.or_zero]

/-- An entry in basic-translate mode is read as the page that was shifted into it. -/
theorem decode_basic {addr : Word} (ha : Aligned addr 12) (hf : Fits addr 56) (dw1 : Word) :
    MsiPte.decode (msiPteValid ||| msiPteBtMode ||| (addr >>> 2)) dw1 = .basic addr := by
  have hx : Aligned (addr >>> 2) 10 := ha.ushiftRight (by decide)
  have hy : Fits (addr >>> 2) 54 := hf.ushiftRight (by decide)
  obtain ⟨h0, h63, h54, h1, _⟩ := extract_flags (msiPteValid ||| msiPteBtMode) (hx.mono (by decide)) hy
  have h3 : (msiPteValid ||| msiPteBtMode ||| (addr >>> 2)).extractLsb' 3 7 = 0#7 := by
    rw [BitVec.extractLsb'_or, hx.extract_below (by decide)]
    decide
  have h10 : (msiPteValid ||| msiPteBtMode ||| (addr >>> 2)).extractLsb' 10 44 = (addr >>> 2).extractLsb' 10 44 := by
    have hflags : (msiPteValid ||| msiPteBtMode).extractLsb' 10 44 = 0#44 := by decide
    rw [BitVec.extractLsb'_or, hflags, BitVec.zero_or]
  have hback : ((addr >>> 2).extractLsb' 10 44).setWidth 64 <<< 12 = addr :=
    extract_shift_back 12 56 2 ha hf (by decide) (by decide)
  have f0 : (msiPteValid ||| msiPteBtMode).getLsbD 0 = true := by decide
  have f63 : (msiPteValid ||| msiPteBtMode).getLsbD 63 = false := by decide
  have f54 : (msiPteValid ||| msiPteBtMode).extractLsb' 54 9 = 0#9 := by decide
  have f1 : (msiPteValid ||| msiPteBtMode).extractLsb' 1 2 = 3#2 := by decide
  unfold MsiPte.decode
  rw [h0, h63, h54, h1, h3, h10, hback, f0, f63, f54, f1, if_neg Bool.noConfusion, if_neg Bool.noConfusion,
    if_neg (not_not_intro rfl), if_pos rfl, if_pos rfl]

/-- The second word of an entry in MRIF mode: the identifier, and the address. -/
theorem decode_notice {noticeAddr : Word} (hn : noticeAddr = noticeAddr1 ∨ noticeAddr = noticeAddr2) :
    (noticePte noticeAddr).extractLsb' 54 6 = 0#6 ∧ (noticePte noticeAddr).extractLsb' 61 3 = 0#3 ∧
      (noticePte noticeAddr).extractLsb' 60 1 ++ (noticePte noticeAddr).extractLsb' 0 10 = 0x7AC#11 ∧
      ((noticePte noticeAddr).extractLsb' 10 44).setWidth 64 <<< 12 = noticeAddr := by
  rcases hn with rfl | rfl <;> decide

/-- The first word of an entry in MRIF mode: nothing of the address is masked away. -/
theorem mrifPte_eq {mrif : Word} (ha : Aligned mrif 9) (hf : Fits mrif 56) :
    mrifPte mrif = msiPteValid ||| msiPteMrifMode ||| (mrif >>> 2) := by
  have hmask : ∀ i < 64, msiPteMrifAddrMask.getLsbD i = decide (7 ≤ i ∧ i < 54) := by decide
  unfold mrifPte
  rw [and_mask_eq hmask (ha.ushiftRight (by decide)) (hf.ushiftRight (by decide))]

/-- An entry in MRIF mode is read as the MRIF, the identity of the notice and its address. -/
theorem decode_mrif {mrif : Word} (ha : Aligned mrif 9) (hf : Fits mrif 56) {noticeAddr : Word}
    (hn : noticeAddr = noticeAddr1 ∨ noticeAddr = noticeAddr2) :
    MsiPte.decode (mrifPte mrif) (noticePte noticeAddr) = .mrif mrif 0x7AC#11 noticeAddr := by
  have hx : Aligned (mrif >>> 2) 7 := ha.ushiftRight (by decide)
  have hy : Fits (mrif >>> 2) 54 := hf.ushiftRight (by decide)
  obtain ⟨h0, h63, h54, h1, h3⟩ := extract_flags (msiPteValid ||| msiPteMrifMode) hx hy
  have h7 : (msiPteValid ||| msiPteMrifMode ||| (mrif >>> 2)).extractLsb' 7 47 = (mrif >>> 2).extractLsb' 7 47 := by
    have hflags : (msiPteValid ||| msiPteMrifMode).extractLsb' 7 47 = 0#47 := by decide
    rw [BitVec.extractLsb'_or, hflags, BitVec.zero_or]
  have hback : ((mrif >>> 2).extractLsb' 7 47).setWidth 64 <<< 9 = mrif :=
    extract_shift_back 9 56 2 ha hf (by decide) (by decide)
  obtain ⟨n54, n61, nid, naddr⟩ := decode_notice hn
  rw [mrifPte_eq ha hf]
  have f0 : (msiPteValid ||| msiPteMrifMode).getLsbD 0 = true := by decide
  have f63 : (msiPteValid ||| msiPteMrifMode).getLsbD 63 = false := by decide
  have f54 : (msiPteValid ||| msiPteMrifMode).extractLsb' 54 9 = 0#9 := by decide
  have f1 : (msiPteValid ||| msiPteMrifMode).extractLsb' 1 2 = 1#2 := by decide
  have f3 : (msiPteValid ||| msiPteMrifMode).extractLsb' 3 4 = 0#4 := by decide
  unfold MsiPte.decode
  rw [h0, h63, h54, h1, h3, h7, hback, n54, n61, nid, naddr, f0, f63, f54, f1, f3, if_neg Bool.noConfusion,
    if_neg Bool.noConfusion, if_neg (not_not_intro rfl), if_neg (by decide), if_pos rfl, if_pos ⟨rfl, rfl, rfl⟩]

/-- The custom bit on an entry in MRIF mode: the entry is valid, and is as before without the bit. -/
theorem mrifPte_custom {mrif : Word} (ha : Aligned mrif 9) (hf : Fits mrif 56) :
    (mrifPte mrif ||| msiPteCustom).getLsbD 0 = true ∧ (mrifPte mrif ||| msiPteCustom).getLsbD 63 = true ∧
      (mrifPte mrif ||| msiPteCustom) &&& ~~~msiPteCustom = mrifPte mrif := by
  have hx : Aligned (mrif >>> 2) 7 := ha.ushiftRight (by decide)
  have hy : Fits (mrif >>> 2) 54 := hf.ushiftRight (by decide)
  obtain ⟨h0, h63, _⟩ := extract_flags (msiPteValid ||| msiPteMrifMode) hx hy
  rw [← mrifPte_eq ha hf] at h0 h63
  have f0 : (msiPteValid ||| msiPteMrifMode).getLsbD 0 = true := by decide
  have f63 : (msiPteValid ||| msiPteMrifMode).getLsbD 63 = false := by decide
  have hset : mrifPte mrif ||| msiPteCustom = writeBit (mrifPte mrif) 63 true := rfl
  refine ⟨?_, ?_, ?_⟩
  · rw [hset, getLsbD_writeBit (by decide), if_neg (by decide), h0, f0]
  · rw [hset, getLsbD_writeBit (by decide), if_pos rfl]
  · have hclear : (mrifPte mrif ||| msiPteCustom) &&& ~~~msiPteCustom = writeBit (writeBit (mrifPte mrif) 63 true) 63 false := rfl
    rw [hclear]
    apply BitVec.eq_of_getLsbD_eq
    intro i hi
    rw [getLsbD_writeBit (by decide), getLsbD_writeBit (by decide)]
    by_cases h : i = 63
    · rw [if_pos h, h, h63, f63]
    · rw [if_neg h, if_neg h]

/-- The interrupt files are pages below `2 ^ 56`, so an entry can hold the page of each. -/
theorem interruptFile_page {i : Nat} (hi : i < msiNEntries) :
    Aligned (msiBaseIfSpa + BitVec.ofNat 64 (i * pageSize)) 12 ∧ Fits (msiBaseIfSpa + BitVec.ofNat 64 (i * pageSize)) 56 := by
  revert i
  decide

/-- Every entry of the table says what it is meant to. -/
theorem entry_msiPtInit {mrif : Word} (ha : Aligned mrif 9) (hf : Fits mrif 56) (pt : MsiPt) {i : Nat} (hi : i < msiNEntries) :
    (msiPtInit mrif pt).entry i = msiEntryFor mrif i := by
  unfold msiEntryFor
  by_cases h20 : i = 20
  · rw [if_pos h20, h20]
    exact decode_mrif ha hf (Or.inl rfl)
  · by_cases h21 : i = 21
    · rw [if_neg h20, if_pos h21, h21]
      exact decode_mrif ha hf (Or.inr rfl)
    · by_cases h23 : i = 23
      · rw [if_neg h20, if_neg h21, if_pos h23, h23]
        obtain ⟨h0, h63, _⟩ := mrifPte_custom ha hf
        have hentry : (msiPtInit mrif pt).entry 23 = MsiPte.decode (mrifPte mrif ||| msiPteCustom) (noticePte noticeAddr1) := rfl
        rw [hentry, MsiPte.decode, if_neg (by rw [h0]; decide), if_pos h63]
      · rw [if_neg h20, if_neg h21, if_neg h23, MsiPt.entry, msiPtInit_basic mrif pt hi h20 h21 h23]
        obtain ⟨hpage, hfit⟩ := interruptFile_page hi
        exact decode_basic hpage hfit _

end MsiAux

open MsiAux

/-- Every MSI page has an index in the table, and its entry after `msi_pt_init` is the one for the index: the interrupt file, or
the MRIF for 20 and 21. The entry 23 has its custom bit set, and is one for the MRIF but for this bit. Of the pages of the tests
exactly eight are MSI pages, and the five that the tests write to have the indices the tests assume. -/
theorem msi_table_agrees {mrif : Word} (ha : Aligned mrif 9) (hf : Fits mrif 56) (pt : MsiPt) :
    (∀ gppn : Word, Fits gppn 52 → IsMsiPage gppn → msiIndex gppn < msiNEntries ∧
      (msiPtInit mrif pt).entry (msiIndex gppn) = msiEntryFor mrif (msiIndex gppn)) ∧
    (msiPtInit mrif pt).standardEntry 23 = .mrif mrif 0x7AC#11 noticeAddr1 ∧
    (∀ tp < testPageMax, IsMsiPage (testGppn tp) ↔ tp ∈ [256, 258, 260, 262, 384, 386, 388, 390]) ∧
    [TestPage.msiW1, .msiW2, .msiW3, .msiW4, .msiW5].map (fun p => msiIndex (testGppn p.index)) = [17, 19, 20, 21, 23] := by
  refine ⟨?_, ?_, ?_, ?_⟩
  · intro gppn _ _
    have hlt : msiIndex gppn < msiNEntries := gather_lt 52 msiAddrMask.toNat gppn.toNat
    exact ⟨hlt, entry_msiPtInit ha hf pt hlt⟩
  · have hentry : (msiPtInit mrif pt).standardEntry 23 =
        MsiPte.decode ((mrifPte mrif ||| msiPteCustom) &&& ~~~msiPteCustom) (noticePte noticeAddr1) := rfl
    rw [hentry, (mrifPte_custom ha hf).2.2]
    exact decode_mrif ha hf (Or.inl rfl)
  · decide +kernel
  · decide

/-- The theorem at a placement of the MRIF. -/
theorem msi_table_agrees_at :
    (msiPtInit 0x80040000#64 fun _ => 0#64).entry (msiIndex (testGppn 258)) = .basic 0x84011000#64 := by
  have h := (msi_table_agrees (by decide : Aligned 0x80040000#64 9) (by decide) (fun _ => 0#64)).1 (testGppn 258) (by decide)
    (by decide)
  exact h.2.trans (by decide)

/-- The page of `MSI_W5` is an MSI page, and its entry is valid, but it is in neither of the two formats. -/
theorem msi_entry_custom :
    IsMsiPage (testGppn TestPage.msiW5.index) ∧ msiIndex (testGppn TestPage.msiW5.index) = 23 ∧
    (∀ spa : Word, (msiPtInit 0x80040000#64 fun _ => 0#64).entry 23 ≠ .basic spa) ∧
    ∀ (mrifAddr : Word) (nid : BitVec 11) (noticeAddr : Word),
      (msiPtInit 0x80040000#64 fun _ => 0#64).entry 23 ≠ .mrif mrifAddr nid noticeAddr := by
  have hentry : (msiPtInit 0x80040000#64 fun _ => 0#64).entry 23 = .custom :=
    entry_msiPtInit (by decide) (by decide) _ (by decide)
  refine ⟨by decide, by decide, ?_, ?_⟩
  · intro spa h
    cases hentry.symm.trans h
  · intro mrifAddr nid noticeAddr h
    cases hentry.symm.trans h

end RvIommuTests
