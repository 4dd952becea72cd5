import RvIommuTests.Lib.Copies
import RvIommuTests.Lib.Tables

/-!
# Regions of the memory

A memory that is divided into regions, with `has x a` for the bytes of the region `x`. A write within one of them leaves all the
others as they were (`OnlyIn`), and so what is loaded from these.
-/

namespace Bytes

variable {ι : Type} {has : ι → Addr → Prop} {x y : ι} {m m' m'' : Mem} {n : Nat} {a : Addr}

/-- All the bytes of a range lie in a region. -/
def Within (region : Addr → Prop) (a : Addr) (n : Nat) : Prop := ∀ k < n, region (a + BitVec.ofNat 64 k)

/-- No byte of another region has changed. -/
def OnlyIn (has : ι → Addr → Prop) (x : ι) (m m' : Mem) : Prop := ∀ y a, y ≠ x → has y a → m' a = m a

/-- Nothing has changed between a memory and itself. -/
theorem OnlyIn.refl (m : Mem) : OnlyIn has x m m := fun _ _ _ _ => rfl

/-- Changes in a region one after the other are changes in the region. -/
theorem OnlyIn.trans (h : OnlyIn has x m m') (h' : OnlyIn has x m' m'') : OnlyIn has x m m'' :=
  fun y a hne ha => (h' y a hne ha).trans (h y a hne ha)

/-- A change in one region leaves what is loaded from within another one. -/
theorem OnlyIn.load_eq (h : OnlyIn has x m m') (hne : y ≠ x) (ha : Within (has y) a n) : load m' n a = load m n a :=
  load_congr fun k hk => h y _ hne (ha k hk)

/-- A byte of one region is not in a range of another. -/
theorem outside_of_within (hd : ∀ x y a, has x a → has y a → x = y) (ha : Within (has x) a n) (hne : y ≠ x) {b : Addr}
    (hb : has y b) : n ≤ (b - a).toNat := by
  by_contra hlt
  refine hne (hd y x b hb ?_)
  have h := ha (b - a).toNat (Nat.lt_of_not_le hlt)
  rwa [BitVec.ofNat_toNat, BitVec.setWidth_eq, BitVec.add_comm, BitVec.sub_add_cancel] at h

/-- A store within a region changes that region only, when no byte belongs to two regions. -/
theorem onlyIn_store (hd : ∀ x y a, has x a → has y a → x = y) (ha : Within (has x) a n) (v : BitVec (8 * n)) :
    OnlyIn has x m (store m n a v) :=
  fun _ _ hne hb => store_apart m v (outside_of_within hd ha hne hb)

/-- Memories that agree on a region still do so after the same store. -/
theorem store_congr {b : Addr} (h : m b = m' b) (a : Addr) (v : BitVec (8 * n)) : store m n a v b = store m' n a v b := by
  unfold store
  rw [h]

/-! ## The same change of two memories -/

/-- The same store leaves two memories that differ in a region differing there only. -/
theorem OnlyIn.store_both (h : OnlyIn has x m m') (a : Addr) (v : BitVec (8 * n)) :
    OnlyIn has x (store m n a v) (store m' n a v) := fun y b hne hb => store_congr (h y b hne hb) a v

/-- The same entry leaves two memories that differ in a region differing there only. -/
theorem OnlyIn.set_both (h : OnlyIn has x m m') (base : Addr) (i : Nat) (v : BitVec 64) :
    OnlyIn has x (Tables.set m base i v) (Tables.set m' base i v) := h.store_both (n := 8) _ v

/-- The same fill of a table leaves two memories that differ in a region differing there only. -/
theorem OnlyIn.fill_both (h : OnlyIn has x m m') (base : Addr) (entry : Nat → BitVec 64 → BitVec 64) (stride : BitVec 64)
    (n i : Nat) (v : BitVec 64) :
    OnlyIn has x (Tables.fill base entry stride n i v m) (Tables.fill base entry stride n i v m') := by
  induction n generalizing i v m m' with
  | zero => exact h
  | succ n ih => exact ih (h.set_both base i _) (i + 1) (v + stride)

end Bytes
