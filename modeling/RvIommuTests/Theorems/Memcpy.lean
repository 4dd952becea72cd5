import RvIommuTests.Memcpy

/-!
# What `memcpy` copies

The loop over objects of any size `w` (`copyLoop`), and from it both loops of `memcpy`. After `k` bytes a loop is in the state
`after`, in which memory is a copy of `k` bytes. The loops differ in where they can be in between, and not in where they end.
-/

namespace RvIommuTests

open Bytes Fields Loops

namespace MemcpyAux

variable {w : Nat} {dest src : Addr} {len : Word} {m : Mem}

/-! ## One round -/

/-- Both pointers and the length are multiples of the size of an object. -/
structure Objects (w : Nat) (dest src : Addr) (len : Word) : Prop where
  size : w ∣ 2 ^ 64
  dest : dest.toNat % w = 0
  src : src.toNat % w = 0
  len : len.toNat % w = 0

/-- A sum of addresses is a multiple when they are, even if it wraps. -/
theorem add_mod_eq_zero (hw : w ∣ 2 ^ 64) {a b : Addr} (ha : a.toNat % w = 0) (hb : b.toNat % w = 0) : (a + b).toNat % w = 0 := by
  rw [BitVec.toNat_add, Nat.mod_mod_of_dvd _ hw, Nat.add_mod, ha, hb, Nat.zero_mod]

theorem Objects.stop (h : Objects w dest src len) : (dest + len).toNat % w = 0 :=
  add_mod_eq_zero h.size h.dest h.len

/-- A multiple below another one leaves room for an object. -/
theorem add_le_of_mod {a b : Nat} (ha : a % w = 0) (hb : b % w = 0) (h : a < b) : a + w ≤ b := by
  obtain ⟨i, rfl⟩ := Nat.dvd_of_mod_eq_zero ha
  obtain ⟨j, rfl⟩ := Nat.dvd_of_mod_eq_zero hb
  have hij : i + 1 ≤ j := Nat.lt_of_mul_lt_mul_left h
  calc w * i + w = w * (i + 1) := (Nat.mul_succ w i).symm
    _ ≤ w * j := Nat.mul_le_mul_left w hij

/-- A round that starts at aligned pointers has a result, and `d` does not go past the end, so that it does not wrap. -/
theorem next_of_lt (h : Objects w dest src len) {c : Copying} (hd : c.d.toNat % w = 0) (hs : c.s.toNat % w = 0)
    (htest : c.d.ult (dest + len) = true) :
    c.next w = some ⟨c.d + BitVec.ofNat 64 w, c.s + BitVec.ofNat 64 w, store c.mem w c.d (load c.mem w c.s)⟩ ∧
      (c.d + BitVec.ofNat 64 w).toNat = c.d.toNat + w ∧ c.d.toNat + w ≤ (dest + len).toNat ∧
      (c.d + BitVec.ofNat 64 w).toNat % w = 0 ∧ (c.s + BitVec.ofNat 64 w).toNat % w = 0 := by
  have hlt : c.d.toNat < (dest + len).toNat := of_decide_eq_true htest
  have hle := add_le_of_mod hd h.stop hlt
  have hend := (dest + len).isLt
  have hw : (BitVec.ofNat 64 w).toNat % w = 0 := by
    rw [BitVec.toNat_ofNat, Nat.mod_mod_of_dvd _ h.size, Nat.mod_self]
  exact ⟨if_pos ⟨hd, hs⟩, toNat_add_offset (by omega), hle, add_mod_eq_zero h.size hd hw, add_mod_eq_zero h.size hs hw⟩

/-! ## A loop -/

/-- A loop over aligned objects ends, whatever the ranges are: `d` comes closer to the end in every round. What the rounds before the
end keep holds then. -/
theorem copyLoop_ends (h : Objects w dest src len) {J : Copying → Prop} (hJ : J ⟨dest, src, m⟩)
    (hround : ∀ c : Copying, J c → c.d.toNat + w ≤ (dest + len).toNat →
      J ⟨c.d + BitVec.ofNat 64 w, c.s + BitVec.ofNat 64 w, store c.mem w c.d (load c.mem w c.s)⟩) :
    ∃ c : Copying, J c ∧ (dest + len).toNat ≤ c.d.toNat ∧
      ∃ n, ∀ fuel, n ≤ fuel → copyLoop w fuel dest src len m = some c.mem := by
  have hpos : 0 < w := Nat.pos_of_dvd_of_pos h.size (Nat.two_pow_pos 64)
  let I : Copying → Prop := fun c => J c ∧ c.d.toNat % w = 0 ∧ c.s.toNat % w = 0
  have hstep : ∀ c, I c → c.d.ult (dest + len) = true →
      ∃ c', c.next w = some c' ∧ I c' ∧ (dest + len).toNat - c'.d.toNat < (dest + len).toNat - c.d.toNat := by
    intro c hI htest
    obtain ⟨hnext, hadd, hle, hd, hs⟩ := next_of_lt h hI.2.1 hI.2.2 htest
    refine ⟨_, hnext, ⟨hround c hI.1 hle, hd, hs⟩, ?_⟩
    rw [hadd]
    omega
  have hI : I ⟨dest, src, m⟩ := ⟨hJ, h.dest, h.src⟩
  obtain ⟨c, ⟨n, hn⟩, hc, hfail⟩ := ends_of_variant (v := fun c => (dest + len).toNat - c.d.toNat) hstep hI
  refine ⟨c, hc.1, Nat.not_lt.1 (of_decide_eq_false hfail), n, ?_⟩
  intro fuel hfuel
  rw [copyLoop, hn fuel hfuel]
  rfl

/-- The state of a loop after `k` bytes. -/
def after (dest src : Addr) (m : Mem) (k : Nat) : Copying :=
  ⟨dest + BitVec.ofNat 64 k, src + BitVec.ofNat 64 k, copy m dest src k⟩

/-- The end of a range that does not wrap. -/
theorem toNat_stop (hwrap : dest ≤ dest + len) : (dest + len).toNat = dest.toNat + len.toNat := by
  have hd := dest.isLt
  have hl := len.isLt
  rw [BitVec.le_def, BitVec.toNat_add] at *
  omega

/-- A loop over aligned objects ends with the copy of `len` bytes: it has copied `k` bytes after some rounds, and `k` is `len` when
`d` is at the end. -/
theorem copyLoop_copies (h : Objects w dest src len) (hwrap : dest ≤ dest + len) (hapart : Apart dest len.toNat src len.toNat)
    (m : Mem) : ∃ n, ∀ fuel, n ≤ fuel → copyLoop w fuel dest src len m = some (copy m dest src len.toNat) := by
  have hstop := toNat_stop hwrap
  have hlt := (dest + len).isLt
  have hpointer : ∀ k ≤ len.toNat, (after dest src m k).d.toNat = dest.toNat + k := fun k hk => toNat_add_offset (by omega)
  let J : Copying → Prop := fun c => ∃ k ≤ len.toNat, c = after dest src m k
  have hJ : J ⟨dest, src, m⟩ := by
    refine ⟨0, Nat.zero_le _, ?_⟩
    rw [after, copy_zero, BitVec.add_zero, BitVec.add_zero]
  have hround : ∀ c : Copying, J c → c.d.toNat + w ≤ (dest + len).toNat →
      J ⟨c.d + BitVec.ofNat 64 w, c.s + BitVec.ofNat 64 w, store c.mem w c.d (load c.mem w c.s)⟩ := by
    intro c hc hle
    obtain ⟨k, hk, rfl⟩ := hc
    rw [hpointer k hk] at hle
    have hkw : k + w ≤ len.toNat := by omega
    refine ⟨k + w, hkw, ?_⟩
    simp only [after, store_copy hapart hkw len.isLt, BitVec.add_assoc, BitVec.ofNat_add]
  obtain ⟨c, ⟨k, hk, rfl⟩, hge, hends⟩ := copyLoop_ends h hJ hround
  rw [hpointer k hk] at hge
  have hall : k = len.toNat := by omega
  rw [← hall]
  exact hends

/-- A loop whose end has wrapped, or that has nothing to copy, makes no round. -/
theorem copyLoop_of_le (hle : dest + len ≤ dest) (fuel : Nat) (m : Mem) : copyLoop w fuel dest src len m = some m := by
  have hloop : loop (fun c : Copying => c.d.ult (dest + len)) (Copying.next w) fuel ⟨dest, src, m⟩ = some ⟨dest, src, m⟩ := by
    apply loop_done
    exact decide_eq_false (Nat.not_lt.2 hle)
  rw [copyLoop, hloop]
  rfl

/-! ## The loops of `memcpy` -/

/-- Every pointer is aligned for objects of one byte, so the second loop of `memcpy` never has an access without a result. -/
theorem objects_bytes (dest src : Addr) (len : Word) : Objects 1 dest src len :=
  ⟨Nat.one_dvd _, Nat.mod_one _, Nat.mod_one _, Nat.mod_one _⟩

/-- The test of `memcpy` covers both pointers and the length. -/
theorem objects_words (h : selectsWords dest src len = true) : Objects sizeofUintptr dest src len := by
  have hmask : (dest ||| src ||| len) &&& BitVec.ofNat 64 (2 ^ 3 - 1) = 0#64 := beq_iff_eq.1 h
  rw [and_ones_eq_zero_iff (by decide), aligned_or_iff, aligned_or_iff] at hmask
  exact ⟨by decide, hmask.1.1, hmask.1.2, hmask.2⟩

/-- `memcpy` is the loop over words or the loop over bytes, and its objects are aligned. -/
theorem memcpy_eq (dest src : Addr) (len : Word) :
    ∃ w, Objects w dest src len ∧
      ∀ fuel m, memcpy fuel dest src len m = (copyLoop w fuel dest src len m).map fun m' => (dest, m') := by
  cases h : selectsWords dest src len with
  | true =>
    refine ⟨sizeofUintptr, objects_words h, ?_⟩
    intro fuel m
    rw [memcpy, if_pos h]
    cases copyLoop sizeofUintptr fuel dest src len m <;> rfl
  | false =>
    refine ⟨1, objects_bytes dest src len, ?_⟩
    intro fuel m
    rw [memcpy, h, if_neg Bool.false_ne_true]
    cases copyLoop 1 fuel dest src len m <;> rfl

theorem copied_copy (hwrap : dest ≤ dest + len) (m : Mem) : Copied dest src len m (copy m dest src len.toNat) where
  bytes i hi := copy_apply hi (Nat.le_of_lt len.isLt)
  others x hx := by
    have hstop := toNat_stop hwrap
    have hx64 := x.isLt
    have hd64 := dest.isLt
    apply copy_outside
    rw [BitVec.lt_def, BitVec.le_def, hstop] at hx
    rw [BitVec.toNat_sub]
    omega

end MemcpyAux

open MemcpyAux

/-- Whatever its arguments are, `memcpy` ends and returns `dest`, by either of its loops. -/
theorem memcpy_returns (dest src : Addr) (len : Word) (m : Mem) :
    ∃ m' n, ∀ fuel, n ≤ fuel → memcpy fuel dest src len m = some (dest, m') := by
  obtain ⟨w, hobjects, heq⟩ := memcpy_eq dest src len
  obtain ⟨c, -, -, n, hn⟩ := copyLoop_ends (J := fun _ => True) hobjects (m := m) trivial fun _ _ _ => trivial
  refine ⟨c.mem, n, ?_⟩
  intro fuel hfuel
  rw [heq, hn fuel hfuel, Option.map_some]

/-- For ranges that have no byte in common, and a destination that does not wrap: `memcpy` ends and returns `dest`, and it has copied
all bytes and changed no others. With the loop over bytes alone the memory would be the same. -/
theorem memcpy_copies (dest src : Addr) (len : Word) (hwrap : dest ≤ dest + len) (hapart : Apart dest len.toNat src len.toNat)
    (m : Mem) :
    ∃ m', Copied dest src len m m' ∧
      ∃ n, ∀ fuel, n ≤ fuel → memcpy fuel dest src len m = some (dest, m') ∧ copyLoop 1 fuel dest src len m = some m' := by
  obtain ⟨w, hobjects, heq⟩ := memcpy_eq dest src len
  obtain ⟨n, hn⟩ := copyLoop_copies hobjects hwrap hapart m
  obtain ⟨n', hn'⟩ := copyLoop_copies (objects_bytes dest src len) hwrap hapart m
  refine ⟨copy m dest src len.toNat, copied_copy hwrap m, max n n', ?_⟩
  intro fuel hfuel
  refine ⟨?_, hn' fuel (by omega)⟩
  rw [heq, hn fuel (by omega), Option.map_some]

/-- The theorem at a copy of two words. -/
theorem memcpy_copies_at :
    selectsWords 0x80001000#64 0x80000000#64 16#64 = true ∧
      ∃ m', Copied 0x80001000#64 0x80000000#64 16#64 (fun a => a.setWidth 8) m' ∧
        ∃ n, ∀ fuel, n ≤ fuel →
          memcpy fuel 0x80001000#64 0x80000000#64 16#64 (fun a => a.setWidth 8) = some (0x80001000#64, m') ∧
            copyLoop 1 fuel 0x80001000#64 0x80000000#64 16#64 (fun a => a.setWidth 8) = some m' :=
  ⟨by decide, memcpy_copies _ _ _ (by decide) ⟨by decide, by decide⟩ _⟩

/-- When `dest + len` wraps, even to 0, `memcpy` copies nothing. -/
theorem memcpy_of_wraps {dest src : Addr} {len : Word} (hwraps : dest + len < dest) (fuel : Nat) (m : Mem) :
    memcpy fuel dest src len m = some (dest, m) := by
  obtain ⟨w, -, heq⟩ := memcpy_eq dest src len
  rw [heq, copyLoop_of_le (BitVec.le_of_lt hwraps), Option.map_some]

end RvIommuTests
