import RvIommuTests.DebugMap
import RvIommuTests.Lemmas.RequestMap
import RvIommuTests.Lemmas.StaleEntries
import RvIommuTests.Theorems.PpnEncoding

/-!
# The debug interface against the tables in memory

The pointers of the tables are where the builders put them, exchanged pages or not, so that a walk asks for one entry more for
each pointer on its way. The level of a leaf is what this leaves of three.
-/

namespace RvIommuTests

open Bytes Fields Tables Paging PageTablesAux DdtCacheAux IotlbAux SwitchesAux StaleAux WalksAux RequestMapAux PpnAux

namespace DebugMapAux

variable {link : Link} {s : Scheme} {read : Nat → Option Pte} {write : Bool} {va gpa level : Nat} {t t' : PtTable} {m : Mem}
  {ex : Exchanged} {modes : DcModes} {q : TransRequest}

/-! ## Levels -/

/-- The entries that a walk of a stage finds: the pointers that the builders made, and leaves. -/
def ReadsPointers (link : Link) (stage : Stage) (read : Nat → Option Pte) : Prop :=
  ∀ (t : PtTable) i, t.stage = stage → i < t.size → ∃ p j, read ((t.base link).toNat + 8 * i) = some p ∧ p = made link t j ∧
    pointee t j = pointee t i

/-- Reads that see the tables of a stage see its pointers. -/
theorem readsPointers (hm : TablesAt link ex m) {stage : Stage} (hread : ∀ (t : PtTable) i, t.stage = stage → i < t.size →
    read ((t.base link).toNat + 8 * i) = some (entryAt m ((t.base link).toNat + 8 * i))) : ReadsPointers link stage read := by
  have hleaves : ∀ (stage : Stage) (j k : Nat), pointee (switchedTable stage) j = pointee (switchedTable stage) k := by
    intro stage j k
    cases stage <;> rfl
  intro t i hstage hi
  refine ⟨_, placedAt ex t i, hread t i hstage hi, hm t i hi, ?_⟩
  unfold placedAt
  split
  · rename_i ht
    rw [ht]
    exact hleaves _ _ _
  · rfl

/-- A walk goes on where the tables have a pointer, and nowhere else. -/
theorem visited_pointee (h : TablesPlaced Config.platform link) {stage : Stage} (hr : ReadsPointers link stage read)
    (hstage : t.stage = stage) (hi : s.index (level + 1) va < t.size) :
    (visited s read write va (level + 1) (t.base link).toNat).length =
      match pointee t (s.index (level + 1) va) with
      | some t' => (visited s read write va level (t'.base link).toNat).length + 1
      | none => 1 := by
  obtain ⟨p, j, hp, hmade, hj⟩ := hr t _ hstage hi
  rw [← hj]
  cases ht : pointee t j with
  | some t' =>
    rw [hmade, show made link t j = _ from (@built_pointee link _ _ _ ht).1] at hp
    rw [visited_next hp (pageOf_lt h Config.platform_regular t'), pageOf_mul h Config.platform_regular, List.length_cons]
  | none =>
    rw [visited, hp, Option.map_some]
    cases hstep : step s write (level + 1) va p with
    | next table' =>
      rw [hmade] at hstep
      obtain ⟨t', ht', -⟩ := leads_next h (leads_made link t j) hstep
      rw [ht] at ht'
      cases ht'
    | fault => rfl
    | leaf addr flags => rfl

/-- The first stage comes to its leaf on the level of the page. -/
theorem first_length (h : TablesPlaced Config.platform link) (hr : ReadsPointers link .first read)
    (hva : va < 0xC8000000 ∨ 0x100000000 ≤ va ∧ va < 0x100400000) :
    3 - (visited Paging.sv39 read write va 2 ((PtTable.s1 0).base link).toNat).length = levelAt va := by
  have hroot := @visited_pointee link Paging.sv39 read write va 1 (.s1 0) h _ hr rfl (Nat.mod_lt _ (by decide))
  have hmid : ∀ k : Fin 6, _ := fun k =>
    @visited_pointee link Paging.sv39 read write va 0 (.s1 k) h _ hr rfl (Nat.mod_lt _ (by decide))
  rw [index_two, show 2 ^ Paging.sv39.rootBits = 512 from rfl] at hroot
  simp only [Nat.zero_add, index_one] at hmid
  unfold levelAt
  by_cases h1 : va < 0xC0000000
  · have hi : va / 2 ^ 30 % 512 = 0 ∨ va / 2 ^ 30 % 512 = 1 ∨ va / 2 ^ 30 % 512 = 2 := by omega
    have hp : pointee (.s1 0) (va / 2 ^ 30 % 512) = none := by
      rcases hi with hi | hi | hi <;> rw [hi] <;> rfl
    rw [hp] at hroot
    dsimp only at hroot
    rw [hroot, if_pos h1]
  by_cases h2 : va < 0xC8000000
  · have hi : va / 2 ^ 30 % 512 = 3 := by omega
    rw [hi, show pointee (.s1 0) 3 = some (.s1 1) from rfl] at hroot
    dsimp only at hroot
    rw [hmid 1] at hroot
    rw [hroot, if_neg h1, if_pos (Or.inl h2)]
    rfl
  · have hi : va / 2 ^ 30 % 512 = 4 := by omega
    have hj : va / 2 ^ 21 % 512 = 0 ∨ va / 2 ^ 21 % 512 = 1 := by omega
    rw [hi, show pointee (.s1 0) 4 = some (.s1 2) from rfl] at hroot
    dsimp only at hroot
    rw [hmid 2] at hroot
    rw [hroot, if_neg h1, if_neg (by omega)]
    rcases hj with hj | hj <;> rw [hj] <;> rfl

/-- A walk of the second stage to a mapped address visits as many entries as the level of its page says. -/
theorem second_length (h : TablesPlaced Config.platform link) (hr : ReadsPointers link .second read)
    (hgpa : gpa < 0xC8000000 ∨ 0x140000000 ≤ gpa ∧ gpa < 0x180000000 ∨ AddressMapAux.InWindow gpa) :
    3 - (visited Paging.sv39x4 read write gpa 2 (PtTable.root.base link).toNat).length = levelAt gpa := by
  have hlt : gpa < 2 ^ 41 := by
    unfold AddressMapAux.InWindow at hgpa
    omega
  have hroot := @visited_pointee link Paging.sv39x4 read write gpa 1 .root h _ hr rfl (Nat.mod_lt _ (by decide))
  have hmid : ∀ k : Fin 5, _ := fun k =>
    @visited_pointee link Paging.sv39x4 read write gpa 0 (.s2 k) h _ hr rfl (Nat.mod_lt _ (by decide))
  rw [index_root hlt] at hroot
  simp only [Nat.zero_add, index_one] at hmid
  unfold levelAt
  by_cases h1 : gpa < 0xC0000000
  · have hi : gpa / 2 ^ 30 = 0 ∨ gpa / 2 ^ 30 = 1 ∨ gpa / 2 ^ 30 = 2 := by omega
    have hp : pointee .root (gpa / 2 ^ 30) = none := by
      rcases hi with hi | hi | hi <;> rw [hi] <;> rfl
    rw [hp] at hroot
    dsimp only at hroot
    rw [hroot, if_pos h1]
  by_cases h2 : gpa < 0xC8000000 ∨ 0x140000000 ≤ gpa ∧ gpa < 0x180000000
  · rw [if_neg h1, if_pos h2]
    rcases h2 with h2 | h2
    · have hi : gpa / 2 ^ 30 = 3 := by omega
      rw [hi, show pointee .root 3 = some (.s2 0) from rfl] at hroot
      dsimp only at hroot
      rw [hmid 0] at hroot
      rw [hroot]
      rfl
    · have hi : gpa / 2 ^ 30 = 5 := by omega
      rw [hi, show pointee .root 5 = some (.s2 4) from rfl] at hroot
      dsimp only at hroot
      rw [hmid 4] at hroot
      rw [hroot]
      rfl
  · have hin : AddressMapAux.InWindow gpa := by
      rcases hgpa with hgpa | hgpa | hgpa
      · exact absurd (Or.inl hgpa) h2
      · exact absurd (Or.inr hgpa) h2
      · exact hgpa
    have hp : pointee .root (gpa / 2 ^ 30) = some (.s2 1) := by
      rcases hin.1 with hi | hi <;> rw [hi] <;> rfl
    rw [hp] at hroot
    dsimp only at hroot
    rw [hmid 1] at hroot
    rw [hroot, if_neg h1, if_neg h2]
    rcases hin.2 with hj | hj | hj <;> rw [hj] <;> rfl

/-! ## Requests -/

/-- The addresses that a stage maps are those whose level is known. -/
theorem guestMap_ok {e : Bool} (hok : guestMap e q = .ok gpa) :
    q.iova.toNat < 0xC8000000 ∨ 0x100000000 ≤ q.iova.toNat ∧ q.iova.toNat < 0x100400000 := by
  unfold guestMap at hok
  extract_lets gva i j flags at hok
  split at hok
  · rename_i h1
    exact Or.inl h1
  · split at hok
    · rename_i h2
      exact Or.inr ⟨h2.1, h2.2.1⟩
    · cases hok

/-- What the second stage maps lies in one of the ranges of the superpages, or in a window of test pages. -/
theorem hostMap_ok {e : Bool} {spa : Nat} (hok : hostMap e q gpa = .ok spa) :
    gpa < 0xC8000000 ∨ 0x140000000 ≤ gpa ∧ gpa < 0x180000000 ∨ AddressMapAux.InWindow gpa := by
  unfold hostMap at hok
  extract_lets base i j at hok
  split at hok
  · exact Or.inl (by omega)
  · split at hok
    · exact Or.inl (by omega)
    · split at hok
      · exact Or.inr (Or.inl (by assumption))
      · split at hok
        · rename_i hin
          obtain ⟨⟨window, hw, hp⟩, -⟩ := hin
          exact Or.inr (Or.inr (AddressMapAux.window_page hw (Nat.mod_lt _ (by decide)) hp).1)
        · cases hok

/-- The level of the leaf that a request ends at is the one that its address has in the map. -/
theorem leafLevel_eq (h : TablesPlaced Config.platform link) (hm : TablesAt link ex m)
    (hguest : modes.iosatp = true → ∃ e, guestMap e q = .ok gpa)
    (hhost : modes.iohgatp = true → ∃ e spa, hostMap e q gpa = .ok spa) :
    (dcAt link modes).leafLevel (memReads m) q gpa = levelMap modes q.iova.toNat gpa := by
  have hfirst : modes.iosatp = true → (dcAt link modes).firstLevel (memReads m) q = levelAt q.iova.toNat := by
    intro hs
    obtain ⟨e, he⟩ := hguest hs
    unfold Dc.firstLevel
    rw [root_first h, ← base_s1pt link]
    refine first_length h (readsPointers hm ?_) (guestMap_ok he)
    exact fun t i hstage hi => firstRead_inStage h hm.readsOk modes ⟨t, i, hstage, hi, rfl⟩
  have hsecond : modes.iohgatp = true → (dcAt link modes).secondLevel (memReads m) q gpa = levelAt gpa := by
    intro hs
    obtain ⟨e, spa, he⟩ := hhost hs
    unfold Dc.secondLevel
    rw [root_second h]
    exact second_length h (readsPointers hm fun _ _ _ _ => rfl) (hostMap_ok he)
  unfold Dc.leafLevel levelMap
  rw [dcAt_sv39, dcAt_sv39x4]
  cases hs1 : modes.iosatp with
  | true =>
    cases hs2 : modes.iohgatp with
    | true => exact congrArg₂ min (hfirst hs1) (hsecond hs2)
    | false => exact hfirst hs1
  | false =>
    cases hs2 : modes.iohgatp with
    | true => exact hsecond hs2
    | false => rfl

/-- The answer of the debug interface with the tables in memory is what the map says. -/
theorem debug_eq (h : TablesPlaced Config.platform link) (hmsiPt : link.msiPt.toNat < 2 ^ 56) (hm : TablesAt link ex m)
    (modes : DcModes) (q : TransRequest) : (dcAt link modes).debug m q = debugMap modes ex q := by
  unfold Dc.debug debugMap
  rw [guest_modes h hm]
  cases hg : (if modes.iosatp then guestMap (ex .first) q else .ok q.iova.toNat) with
  | error c => rfl
  | ok gpa =>
    change (if _ then _ else _) = (if _ then _ else _)
    have hmsi := @isMsi_iff link hmsiPt modes gpa
    by_cases hc : modes.msiptp = true ∧ IsMsiPage (gppn gpa)
    · rw [if_pos (hmsi.2 hc), if_pos hc]
    · rw [if_neg fun hd => hc (hmsi.1 hd), if_neg hc, host_modes h hm]
      cases hh : (if modes.iohgatp then hostMap (ex .second) q gpa else .ok gpa) with
      | error c => rfl
      | ok spa =>
        refine congrArg (fun level => Except.ok (spa, level)) (leafLevel_eq h hm ?_ ?_)
        · intro hs
          rw [if_pos hs] at hg
          exact ⟨_, hg⟩
        · intro hs
          rw [if_pos hs] at hh
          exact ⟨_, _, hh⟩

/-! ## Responses -/

variable {spa : Nat}

/-- The field of a response is the page itself at the lowest level, and above it the encoding of the range with its size. -/
theorem ppnField_trResponseOf (spa level : Nat) : ppnField (trResponseOf spa level) =
    if level = 0 then BitVec.ofNat 44 (spa / 2 ^ 12)
    else napot (BitVec.ofNat 44 (spa / 2 ^ pageBits level * 2 ^ (9 * level))) (9 * level - 1) := by
  have hfield : ∀ p : BitVec 44, (p.setWidth 64 <<< trResponsePpnOffset).extractLsb' 10 44 = p :=
    fun p => (extract_shiftLeft_self (by decide)).trans (by simp)
  unfold ppnField trResponseOf
  split
  · exact hfield _
  · dsimp only
    rw [BitVec.extractLsb'_or, hfield, show trResponseSpBit.extractLsb' 10 44 = 0#44 by decide, BitVec.or_zero]

/-- The bits below the field: only that of a superpage may be set. -/
theorem low_trResponseOf (spa level : Nat) {i : Nat} (hi : i < 10) :
    (trResponseOf spa level).getLsbD i = (decide (i = 9) && decide (level ≠ 0)) := by
  have hlow : ∀ p : Word, (p <<< trResponsePpnOffset).getLsbD i = false := by
    intro p
    rw [BitVec.getLsbD_shiftLeft, decide_eq_true (show i < trResponsePpnOffset from hi)]
    simp
  have hbit : ∀ i < 10, trResponseSpBit.getLsbD i = decide (i = 9) := by decide
  unfold trResponseOf
  by_cases hl : level = 0
  · rw [if_pos hl, hlow, decide_eq_false (not_not_intro hl), Bool.and_false]
  · rw [if_neg hl, decide_eq_true hl, Bool.and_true]
    dsimp only
    rw [BitVec.getLsbD_or, hlow, hbit i hi, Bool.false_or]

/-- A response to a translation has the fault bit clear. -/
theorem fault_trResponseOf (spa level : Nat) : rvIommuDbgReqFault (trResponseOf spa level) = 0#8 := by
  unfold rvIommuDbgReqFault
  rw [show trResponseFaultBit = BitVec.twoPow 64 0 by decide, BitVec.and_twoPow, low_trResponseOf spa level (by decide)]
  rfl

/-- A response has the superpage bit set when the leaf is above the lowest level. -/
theorem superpage_trResponseOf (spa level : Nat) :
    rvIommuDbgReqIsSuperpage (trResponseOf spa level) = if level = 0 then 0#8 else 1#8 := by
  unfold rvIommuDbgReqIsSuperpage
  rw [show trResponseSpBit = BitVec.twoPow 64 9 by decide, BitVec.and_twoPow, low_trResponseOf spa level (by decide)]
  by_cases hl : level = 0
  · rw [if_pos hl, decide_eq_false (not_not_intro hl)]
    rfl
  · rw [if_neg hl, decide_eq_true hl]
    rfl

/-- `rv_iommu_dbg_ppn_encode_x` finds the size of a superpage, of `9 * level` bits, from the response. -/
theorem encodeX_trResponseOf (spa : Nat) {level : Nat} (hl : level = 1 ∨ level = 2) :
    (rvIommuDbgPpnEncodeX (trResponseOf spa level)).toNat = 9 * level - 1 := by
  apply encodeX_of_lowestZero
  rw [ppnField_trResponseOf, if_neg (by omega)]
  apply lowestZero_napot
  · omega
  · unfold Aligned
    rw [BitVec.toNat_ofNat]
    rcases hl with rfl | rfl <;> omega

end DebugMapAux

end RvIommuTests
