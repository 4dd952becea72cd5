import RvIommuTests.Lemmas.DebugMap
import RvIommuTests.Theorems.RequestMap

/-!
# The debug interface tells where a request goes

What the driver reads of a response is true of every address of the page that it is about: a request of the device goes where the
response says. Pages are those of the smaller one of both stages.
-/

namespace RvIommuTests

open Bytes Fields Paging DdtCacheAux IotlbAux SwitchesAux RequestMapAux DebugMapAux PpnAux

namespace DebugMapAux

variable {ex : Exchanged} {modes : DcModes} {q : TransRequest} {gpa spa level : Nat} {e : Bool}

/-! ## Pages -/

/-- Two addresses of one page of a level. -/
def SamePage (level a a' : Nat) : Prop := a / 2 ^ pageBits level = a' / 2 ^ pageBits level

/-- The address that is translated like another one: in the same page as `b`, and at the place of `a'` in its own. -/
def Along (level b a' b' : Nat) : Prop := SamePage level b b' ∧ b' % 2 ^ pageBits level = a' % 2 ^ pageBits level

/-- A leaf is at one of the three levels. -/
theorem levelAt_le (a : Nat) : levelAt a ≤ 2 := by
  unfold levelAt
  split
  · omega
  · split <;> omega

/-- The addresses of a page lie in the same part of the map. -/
theorem SamePage.part {a a' : Nat} (hp : SamePage level a a') (hl : level ≤ levelAt a) :
    (a < 0xC0000000 ↔ a' < 0xC0000000) ∧ (a < 0xC8000000 ↔ a' < 0xC8000000) ∧
      (0x140000000 ≤ a ∧ a < 0x180000000 ↔ 0x140000000 ≤ a' ∧ a' < 0x180000000) := by
  obtain rfl | rfl | rfl : level = 0 ∨ level = 1 ∨ level = 2 := by
    have := levelAt_le a
    omega
  · have hpage : a / 2 ^ 12 = a' / 2 ^ 12 := hp
    omega
  · have hpage : a / 2 ^ 21 = a' / 2 ^ 21 := hp
    omega
  · have hpage : a / 2 ^ 30 = a' / 2 ^ 30 := hp
    unfold levelAt at hl
    split at hl
    · omega
    · split at hl <;> omega

/-- Two addresses in the same page of a range that is moved by whole 2-MiB pages are in the same page afterwards. -/
theorem SamePage.moved {a a' lo base : Nat} (hp : SamePage level a a') (hl : level ≤ 1) (hlo : lo ≤ a ∧ lo ≤ a')
    (hlo' : lo % 2 ^ 21 = 0) (hbase : base % 2 ^ 21 = 0) : Along level (base + (a - lo)) a' (base + (a' - lo)) := by
  obtain rfl | rfl : level = 0 ∨ level = 1 := by omega
  · have hpage : a / 2 ^ 12 = a' / 2 ^ 12 := hp
    change _ / 2 ^ 12 = _ / 2 ^ 12 ∧ _ % 2 ^ 12 = _ % 2 ^ 12
    omega
  · have hpage : a / 2 ^ 21 = a' / 2 ^ 21 := hp
    change _ / 2 ^ 21 = _ / 2 ^ 21 ∧ _ % 2 ^ 21 = _ % 2 ^ 21
    omega

/-- The first stage of an address of the same page. -/
theorem guestMap_along (hok : guestMap e q = .ok gpa) (hl : level ≤ levelAt q.iova.toNat) {iova' : Word}
    (hp : SamePage level q.iova.toNat iova'.toNat) :
    ∃ gpa', guestMap e { q with iova := iova' } = .ok gpa' ∧ Along level gpa iova'.toNat gpa' := by
  obtain ⟨-, hpart, -⟩ := hp.part hl
  unfold guestMap at hok
  extract_lets gva i j flags at hok
  split at hok
  · rename_i h1
    exact ⟨iova'.toNat, if_pos (hpart.1 h1), Except.ok.inj hok ▸ hp, rfl⟩
  · rename_i h1
    split at hok
    · rename_i h2
      have h0 : levelAt gva = 0 := by
        unfold levelAt
        rw [if_neg (by omega), if_neg (by omega)]
      obtain rfl : level = 0 := Nat.le_zero.1 (h0 ▸ hl)
      have hpage : gva / 2 ^ 12 = iova'.toNat / 2 ^ 12 := hp
      have hi : i = gva / 2 ^ 12 % 512 := rfl
      refine ⟨iova'.toNat - i * 2 ^ 12 + j * 2 ^ 12, ?_, ?_⟩
      · unfold guestMap
        dsimp only
        have hsame : iova'.toNat / 2 ^ 12 % 512 = i ∧ iova'.toNat / 2 ^ 21 % 512 = gva / 2 ^ 21 % 512 := by omega
        rw [hsame.1, hsame.2, if_neg (fun h => h1 (hpart.2 h))]
        exact if_pos ⟨by omega, by omega, h2.2.2⟩
      · have hgpa := Except.ok.inj hok
        change _ / 2 ^ 12 = _ / 2 ^ 12 ∧ _ % 2 ^ 12 = _ % 2 ^ 12
        omega
    · cases hok

/-- The second stage of an address of the same page. -/
theorem hostMap_along (hok : hostMap e q gpa = .ok spa) (hl : level ≤ levelAt gpa) {gpa' : Nat} (hp : SamePage level gpa gpa')
    (iova' : Word) : ∃ spa', hostMap e { q with iova := iova' } gpa' = .ok spa' ∧ Along level spa gpa' spa' := by
  obtain ⟨hlow, hmid, hgiant⟩ := hp.part hl
  unfold hostMap at hok
  extract_lets base i j at hok
  have hbase : base = 0x88000000 := rfl
  split at hok
  · rename_i h1
    exact ⟨gpa', if_pos (hlow.1 h1), Except.ok.inj hok ▸ hp, rfl⟩
  · rename_i h1
    split at hok
    · rename_i h2
      have h1' : ¬ gpa' < 0xC0000000 := fun h => h1 (hlow.2 h)
      have hlevel : level ≤ 1 := by
        unfold levelAt at hl
        rwa [if_neg h1, if_pos (Or.inl h2)] at hl
      refine ⟨gpa' - 0xC0000000 + memBase, (if_neg h1').trans (if_pos (hmid.1 h2)), ?_⟩
      rw [← Except.ok.inj hok, Nat.add_comm, Nat.add_comm (gpa' - _)]
      exact hp.moved hlevel ⟨by omega, by omega⟩ rfl rfl
    · rename_i h2
      have h1' : ¬ gpa' < 0xC0000000 := fun h => h1 (hlow.2 h)
      have h2' : ¬ gpa' < 0xC8000000 := fun h => h2 (hmid.2 h)
      split at hok
      · rename_i h3
        have hlevel : level ≤ 1 := by
          unfold levelAt at hl
          rwa [if_neg h1, if_pos (Or.inr h3)] at hl
        obtain ⟨hlo', -⟩ := hgiant.1 h3
        refine ⟨base + (gpa' - 0x140000000), ?_, ?_⟩
        · exact (if_neg h1').trans ((if_neg h2').trans (if_pos (hgiant.1 h3)))
        · rw [← Except.ok.inj hok]
          exact hp.moved hlevel ⟨h3.1, hlo'⟩ rfl (by omega)
      · rename_i h3
        split at hok
        · rename_i h4
          have h0 : levelAt gpa = 0 := by
            unfold levelAt
            rw [if_neg h1, if_neg (by omega)]
          obtain rfl : level = 0 := Nat.le_zero.1 (h0 ▸ hl)
          have hpage : gpa / 2 ^ 12 = gpa' / 2 ^ 12 := hp
          have hi : i = gpa / 2 ^ 12 % 512 := rfl
          have hsame : gpa' / 2 ^ 12 % 512 = i ∧ gpa' / 2 ^ 21 % 512 = gpa / 2 ^ 21 % 512 := by omega
          obtain ⟨⟨window, hw, hin⟩, hj⟩ := h4
          obtain ⟨hwindow, -⟩ := AddressMapAux.window_page hw (Nat.mod_lt _ (by decide)) hin
          have hwindow' : AddressMapAux.InWindow gpa' := by
            unfold AddressMapAux.InWindow at hwindow ⊢
            omega
          refine ⟨base + j * 2 ^ 12 + gpa' % 2 ^ 12, ?_, ?_⟩
          · have hex := hsame.1 ▸ AddressMapAux.window_of hwindow'
            unfold hostMap
            dsimp only
            rw [hsame.1, hsame.2, if_neg h1', if_neg h2', if_neg fun h => h3 (hgiant.2 h)]
            exact if_pos ⟨hex, hj⟩
          · have hspa := Except.ok.inj hok
            change _ / 2 ^ 12 = _ / 2 ^ 12 ∧ _ % 2 ^ 12 = _ % 2 ^ 12
            omega
        · cases hok

/-! ## Responses -/

/-- The number of pages that the driver reads of a response is that of the page at its level. -/
theorem dbgPages_trResponseOf (hl : level ≤ 2) (spa : Nat) : dbgPages (trResponseOf spa level) * 2 ^ 12 = 2 ^ pageBits level := by
  have hsuper := superpage_trResponseOf spa level
  unfold dbgPages
  rw [hsuper]
  obtain rfl | hl' : level = 0 ∨ (level = 1 ∨ level = 2) := by omega
  · rw [if_pos rfl, if_pos rfl]
    rfl
  · rw [encodeX_trResponseOf spa hl']
    rcases hl' with rfl | rfl <;> rfl

/-- The first page that the driver reads of a response is the first 4-KiB page of the page at its level. -/
theorem dbgFirstPage_trResponseOf (hl : level ≤ 2) (hspa : spa < 2 ^ 56) :
    dbgFirstPage (trResponseOf spa level) = spa / 2 ^ pageBits level * 2 ^ (9 * level) := by
  have hsuper := superpage_trResponseOf spa level
  have hfield := ppnField_trResponseOf spa level
  unfold dbgFirstPage
  rw [hsuper]
  obtain rfl | hl' : level = 0 ∨ (level = 1 ∨ level = 2) := by omega
  · rw [if_pos rfl, if_pos rfl, translatedPpn_eq, hfield, if_pos rfl, BitVec.toNat_setWidth, BitVec.toNat_ofNat]
    have hpage : spa / 2 ^ pageBits 0 * 2 ^ (9 * 0) = spa / 2 ^ 12 := Nat.mul_one _
    rw [hpage]
    omega
  · have hx : 9 * level - 1 + 1 = 9 * level := by omega
    have hlt : spa / 2 ^ pageBits level * 2 ^ (9 * level) < 2 ^ 44 := by
      rcases hl' with rfl | rfl
      · change spa / 2 ^ 21 * 2 ^ 9 < 2 ^ 44
        omega
      · change spa / 2 ^ 30 * 2 ^ 18 < 2 ^ 44
        omega
    have haligned : Aligned (BitVec.ofNat 44 (spa / 2 ^ pageBits level * 2 ^ (9 * level))) (9 * level - 1 + 1) := by
      unfold Aligned
      rw [BitVec.toNat_ofNat, Nat.mod_eq_of_lt hlt, hx]
      exact Nat.mul_mod_left _ _
    have h0 : ¬ level = 0 := by omega
    rw [if_neg h0] at hfield
    rw [if_neg h0, if_neg (by decide), encodeX_trResponseOf spa hl', napot_clear (by omega) haligned hfield, BitVec.toNat_setWidth,
      BitVec.toNat_ofNat, Nat.mod_eq_of_lt hlt, Nat.mod_eq_of_lt (Nat.lt_trans hlt (by decide))]

/-! ## Requests -/

/-- The address along another one is put together from the page of the one and the offset of the other. -/
theorem Along.eq {b a' b' : Nat} (h : Along level b a' b') :
    b / 2 ^ pageBits level * 2 ^ pageBits level + a' % 2 ^ pageBits level = b' := by
  rw [show b / 2 ^ pageBits level = b' / 2 ^ pageBits level from h.1, ← h.2]
  exact Nat.div_add_mod' _ _

/-- When a request is answered, the first stage gives a guest address, and the second stage takes that to the answer. -/
theorem debugMap_ok (hok : debugMap modes ex q = .ok (spa, level)) :
    ∃ gpa, (if modes.iosatp then guestMap (ex .first) q else .ok q.iova.toNat) = .ok gpa ∧
      (if modes.iohgatp then hostMap (ex .second) q gpa else .ok gpa) = .ok spa ∧ level = levelMap modes q.iova.toNat gpa := by
  unfold debugMap at hok
  cases hg : (if modes.iosatp then guestMap (ex .first) q else .ok q.iova.toNat) with
  | error c =>
    rw [hg] at hok
    cases hok
  | ok gpa =>
    rw [hg] at hok
    change (if _ then _ else _) = _ at hok
    split at hok
    · cases hok
    · cases hh : (if modes.iohgatp then hostMap (ex .second) q gpa else .ok gpa) with
      | error c =>
        rw [hh] at hok
        cases hok
      | ok spa' =>
        rw [hh] at hok
        cases hok
        exact ⟨gpa, rfl, hh, rfl⟩

/-- The level is at most that of each stage that is on. -/
theorem levelMap_le (modes : DcModes) (iova gpa : Nat) :
    (modes.iosatp = true → levelMap modes iova gpa ≤ levelAt iova) ∧
      (modes.iohgatp = true → levelMap modes iova gpa ≤ levelAt gpa) ∧ levelMap modes iova gpa ≤ 2 := by
  have h1 := levelAt_le iova
  have h2 := levelAt_le gpa
  unfold levelMap
  cases modes.iosatp <;> cases modes.iohgatp <;> simp <;> omega

/-- A request for an address of the same page, once one was answered. -/
theorem debugMap_along (hok : debugMap modes ex q = .ok (spa, level)) {iova' : Word} (hp : SamePage level q.iova.toNat iova'.toNat)
    (mrif : Word) : debugMap modes ex { q with iova := iova' } = .error .transTypeDisallowed ∨
      ∃ spa', requestMap mrif modes ex { q with iova := iova' } = .ok (.mem spa') ∧ Along level spa iova'.toNat spa' := by
  obtain ⟨gpa, hg, hh, hlevel⟩ := debugMap_ok hok
  obtain ⟨hl1, hl2, -⟩ := levelMap_le modes q.iova.toNat gpa
  rw [← hlevel] at hl1 hl2
  obtain ⟨gpa', hg', halong⟩ : ∃ gpa', (if modes.iosatp then guestMap (ex .first) { q with iova := iova' } else .ok iova'.toNat) =
      .ok gpa' ∧ Along level gpa iova'.toNat gpa' := by
    cases hs : modes.iosatp with
    | true =>
      rw [hs] at hg
      exact guestMap_along hg (hl1 hs) hp
    | false =>
      rw [hs] at hg
      exact ⟨_, rfl, Except.ok.inj hg ▸ hp, rfl⟩
  obtain ⟨spa', hh', halong'⟩ : ∃ spa', (if modes.iohgatp then hostMap (ex .second) { q with iova := iova' } gpa' else .ok gpa') =
      .ok spa' ∧ Along level spa gpa' spa' := by
    cases hs : modes.iohgatp with
    | true =>
      rw [hs] at hh
      exact hostMap_along hh (hl2 hs) halong.1 iova'
    | false =>
      rw [hs] at hh
      exact ⟨_, rfl, Except.ok.inj hh ▸ halong.1, rfl⟩
  unfold debugMap requestMap
  dsimp only
  rw [hg']
  by_cases hmsi : modes.msiptp = true ∧ IsMsiPage (gppn gpa')
  · exact Or.inl (if_pos hmsi)
  · refine Or.inr ⟨spa', (if_neg hmsi).trans ?_, halong'.1, halong'.2.trans halong.2⟩
    rw [hh']
    rfl

/-- A request that is refused is one that the device is refused too, unless it comes to an MSI page. -/
theorem requestMap_refused {c : Cause} (herr : debugMap modes ex q = .error c) (hc : c ≠ .transTypeDisallowed) (mrif : Word) :
    requestMap mrif modes ex q = .error c := by
  unfold debugMap at herr
  unfold requestMap
  cases hg : (if modes.iosatp then guestMap (ex .first) q else .ok q.iova.toNat) with
  | error c' =>
    rw [hg] at herr
    cases herr
    rfl
  | ok gpa =>
    rw [hg] at herr
    change (if _ then _ else _) = _ at herr ⊢
    split at herr
    · cases herr
      exact absurd rfl hc
    · rename_i hmsi
      rw [if_neg hmsi]
      cases hh : (if modes.iohgatp then hostMap (ex .second) q gpa else .ok gpa) with
      | error c' =>
        rw [hh] at herr
        cases herr
        rfl
      | ok spa =>
        rw [hh] at herr
        cases herr

/-- A test page has an index of the table, exchanged or not. -/
theorem pageAt_lt {i : Nat} (hi : i < 512) : pageAt e i < 512 := by
  cases e with
  | false => exact hi
  | true => exact switch_lt hi

/-- The stages come to addresses that the response has room for. -/
theorem guestMap_lt (hok : guestMap e q = .ok gpa) : gpa < 2 ^ 56 := by
  unfold guestMap at hok
  extract_lets gva i j flags at hok
  have hj : j < 512 := by
    have hi : gva / 2 ^ 12 % 512 < 512 := Nat.mod_lt _ (by decide)
    change (if _ then _ else _) < 512
    split
    · exact pageAt_lt hi
    · exact hi
  split at hok
  · have := Except.ok.inj hok
    omega
  · split at hok
    · have := Except.ok.inj hok
      omega
    · cases hok

/-- What the second stage maps to is an address of 56 bits. -/
theorem hostMap_lt (hok : hostMap e q gpa = .ok spa) : spa < 2 ^ 56 := by
  unfold hostMap at hok
  extract_lets base i j at hok
  have hbase : base = 0x88000000 := rfl
  have hmem : memBase = 0x80000000 := rfl
  have hj : j < 512 := by
    have hi : gpa / 2 ^ 12 % 512 < 512 := Nat.mod_lt _ (by decide)
    change (if _ then _ else _) < 512
    split
    · exact hi
    · exact pageAt_lt hi
  split at hok
  · have := Except.ok.inj hok
    omega
  · split at hok
    · have := Except.ok.inj hok
      omega
    · split at hok
      · have := Except.ok.inj hok
        omega
      · split at hok
        · have := Except.ok.inj hok
          omega
        · cases hok

/-- What a request is translated to is an address of 56 bits. -/
theorem debugMap_lt (hon : modes.iosatp = true ∨ modes.iohgatp = true) (hok : debugMap modes ex q = .ok (spa, level)) :
    spa < 2 ^ 56 := by
  obtain ⟨gpa, hg, hh, -⟩ := debugMap_ok hok
  cases hs : modes.iohgatp with
  | true =>
    rw [hs] at hh
    exact hostMap_lt hh
  | false =>
    rw [hs] at hh
    rw [hs, Bool.false_eq_true, or_false] at hon
    rw [if_pos hon] at hg
    exact Except.ok.inj hh ▸ guestMap_lt hg

end DebugMapAux

/-- What the driver reads of a response of the debug interface, for any request after the builders, any calls of the setters of the
contexts and any switches of the tables. Without a fault, every request with the same permissions for an address of the same page
goes where the response says, but for those that come to the MSI page table, which the interface refuses. With a fault of any other
cause, the same request of the device is refused with this cause. -/
theorem debug_agrees {link : Link} (h : TablesPlaced Config.platform link) (hmsiPt : link.msiPt.toNat < 2 ^ 56) {mrif : Word}
    (ha : Aligned mrif 9) (hf : Fields.Fits mrif 56) {m : Mem} (hz : TablesZeroed link m) (ddt : Ddt) (pt : MsiPt)
    (setters : List DcSetter) (hon : (modesAfter setters).iosatp = true ∨ (modesAfter setters).iohgatp = true) (calls : List Stage)
    (q : TransRequest) :
    let dc := ddtAfter link setters ddt did
    let mem := switches link calls (initTables link m)
    let resp := trResponseTo (dc.debug mem q)
    (rvIommuDbgReqFault resp = 0#8 → ∀ iova' : Word,
      iova'.toNat / (dbgPages resp * 2 ^ 12) = q.iova.toNat / (dbgPages resp * 2 ^ 12) →
        dc.debug mem { q with iova := iova' } = .error .transTypeDisallowed ∨
        dc.resolve (msiPtInit mrif pt) mem { q with iova := iova' } = .ok (.mem (dbgAddress resp iova'.toNat))) ∧
    (rvIommuDbgReqFault resp ≠ 0#8 → ∃ c, dc.debug mem q = .error c ∧
      (c = .transTypeDisallowed ∨ dc.resolve (msiPtInit mrif pt) mem q = .error c)) := by
  intro dc mem resp
  have htables : TablesAt link (fun stage => calls.count stage % 2 == 1) mem := by
    refine tablesAt_switches h ?_ calls
    unfold initTables
    exact asBuilt_init h hz
  have hdc : dc = dcAt link (modesAfter setters) := ddtAfter_did link setters ddt
  have hdebug : ∀ q, dc.debug mem q = debugMap (modesAfter setters) (fun stage => calls.count stage % 2 == 1) q := by
    intro q
    rw [hdc]
    exact debug_eq h hmsiPt htables _ q
  have hresolve : ∀ q, dc.resolve (msiPtInit mrif pt) mem q =
      requestMap mrif (modesAfter setters) (fun stage => calls.count stage % 2 == 1) q := by
    intro q
    rw [hdc]
    exact resolve_eq h hmsiPt htables (fun i hi => MsiAux.entry_msiPtInit ha hf pt hi) _ q
  have hresp : resp = trResponseTo (debugMap (modesAfter setters) (fun stage => calls.count stage % 2 == 1) q) :=
    congrArg trResponseTo (hdebug q)
  cases hout : debugMap (modesAfter setters) (fun stage => calls.count stage % 2 == 1) q with
  | ok answer =>
    obtain ⟨spa, level⟩ := answer
    obtain ⟨gpa, -, -, hlevel⟩ := debugMap_ok hout
    have hl : level ≤ 2 := hlevel ▸ (levelMap_le _ _ _).2.2
    have hsize : dbgPages resp * 2 ^ 12 = 2 ^ pageBits level := by
      rw [hresp, hout]
      exact dbgPages_trResponseOf hl spa
    have hfirst : dbgFirstPage resp = spa / 2 ^ pageBits level * 2 ^ (9 * level) := by
      rw [hresp, hout]
      exact dbgFirstPage_trResponseOf hl (debugMap_lt hon hout)
    have hbits : 2 ^ (9 * level) * 2 ^ 12 = 2 ^ pageBits level := by rw [← Nat.pow_add, Nat.add_comm]; rfl
    refine ⟨fun _ iova' hp => ?_, fun hfault => absurd ?_ hfault⟩
    · rw [hsize] at hp
      rcases debugMap_along hout hp.symm mrif with hmsi | ⟨spa', hspa', halong⟩
      · exact Or.inl ((hdebug _).trans hmsi)
      · refine Or.inr ((hresolve _).trans (hspa'.trans ?_))
        unfold dbgAddress
        rw [hsize, hfirst, Nat.mul_assoc, hbits, halong.eq]
    · rw [hresp, hout]
      exact fault_trResponseOf spa level
  | error c =>
    have hfault : rvIommuDbgReqFault resp ≠ 0#8 := by
      rw [hresp, hout]
      exact (by decide : rvIommuDbgReqFault trResponseFaultBit ≠ 0#8)
    refine ⟨fun h0 => absurd h0 hfault, fun _ => ⟨c, (hdebug q).trans hout, ?_⟩⟩
    by_cases hc : c = .transTypeDisallowed
    · exact Or.inl hc
    · exact Or.inr ((hresolve q).trans (requestMap_refused hout hc mrif))

/-- The theorem at the 2-MiB page of `dbg_interface`, and an address in the middle of it. -/
theorem debug_agrees_at :
    let dc := ddtAfter Link.compact [.iosatpSv39, .iohgatpSv39x4, .msiFlat] (fun _ => ⟨0, 0, 0, 0, 0, 0, 0, 0⟩) did
    let mem := switches Link.compact [] (initTables Link.compact fun _ => 0#8)
    dc.resolve (msiPtInit 0x80034000#64 fun _ => 0#64) mem ⟨testVaddr2Mib + 0x12345#64, true, true, true⟩ =
      .ok (.mem (dbgAddress (trResponseTo (dc.debug mem ⟨testVaddr2Mib, true, true, true⟩))
        (testVaddr2Mib + 0x12345#64).toNat)) := by
  intro dc mem
  have htables : TablesAt Link.compact (fun _ => false) mem :=
    tablesAt_switches tablesPlaced_compact (asBuilt_builtMem tablesPlaced_compact) []
  have hdebug : ∀ q, dc.debug mem q = debugMap ⟨true, true, true⟩ (fun _ => false) q := by
    intro q
    rw [show dc = dcAt Link.compact ⟨true, true, true⟩ from ddtAfter_did _ _ _]
    exact debug_eq tablesPlaced_compact (by decide) htables _ q
  have hanswer : trResponseTo (dc.debug mem ⟨testVaddr2Mib, true, true, true⟩) = trResponseOf testPaddr2Mib 1 := by
    rw [hdebug]
    decide
  obtain ⟨hgoes, -⟩ := @debug_agrees Link.compact tablesPlaced_compact (by decide) 0x80034000#64 (by decide) (by decide)
    (fun _ => 0#8) ⟨fun _ _ => rfl, fun _ _ => rfl, fun _ _ => rfl⟩ (fun _ => ⟨0, 0, 0, 0, 0, 0, 0, 0⟩) (fun _ => 0#64)
    [.iosatpSv39, .iohgatpSv39x4, .msiFlat] (by decide) [] ⟨testVaddr2Mib, true, true, true⟩
  have hsize : dbgPages (trResponseOf testPaddr2Mib 1) * 2 ^ 12 = 2 ^ pageBits 1 := dbgPages_trResponseOf (by decide) _
  have hfault : rvIommuDbgReqFault (trResponseTo (dc.debug mem ⟨testVaddr2Mib, true, true, true⟩)) = 0#8 := by
    rw [hanswer]
    exact fault_trResponseOf _ _
  refine (hgoes hfault (testVaddr2Mib + 0x12345#64) ?_).resolve_left ?_
  · rw [hanswer, hsize]
    decide
  · rw [hdebug]
    decide

end RvIommuTests
