import Mathlib.Algebra.Order.Ring.Int
import LiteralScrub.Rewrite.Mask

/-!
# What a mask covers

A mask that is not empty covers every length exactly and goes round: over offset `k` stands its
point `k` modulo its length. A length below zero is covered by nothing.
-/
namespace LiteralScrub

theorem Text.upTo_of_nonneg (t : Text) {bound : Int} (h : 0 ≤ bound) :
    t.upTo bound = t.take bound.toNat := by
  simp [Text.upTo, Int.not_lt.mpr h]

@[simp] theorem Text.upTo_nil (bound : Int) : Text.upTo [] bound = [] := by
  simp [Text.upTo]

namespace Mask

theorem repeated_succ (mask : Text) (times : Nat) :
    repeated mask (times + 1) = mask ++ repeated mask times := by
  simp [repeated, List.replicate_succ]

theorem repeated_length (mask : Text) (times : Nat) :
    (repeated mask times).length = times * mask.length := by
  simp [repeated]

theorem repeated_getElem? {mask : Text} {times k : Nat} (hk : k < times * mask.length) :
    (repeated mask times)[k]? = mask[k % mask.length]? := by
  induction times generalizing k with
  | zero => simp at hk
  | succ times ih =>
    rw [repeated_succ]
    by_cases hin : k < mask.length
    · rw [List.getElem?_append_left hin, Nat.mod_eq_of_lt hin]
    · have hle : mask.length ≤ k := by omega
      rw [Nat.succ_mul] at hk
      rw [List.getElem?_append_right hle, ih (by omega), ← Nat.mod_eq_sub_mod hle]

/-- The number of rounds is rounded up, so they reach. -/
theorem toNat_le_rounds_mul (n : Int) {m : Nat} (hm : 0 < m) :
    n.toNat ≤ (-((-n).fdiv m)).toNat * m := by
  have hm' : (0 : Int) < m := by exact_mod_cast hm
  have hreach : n ≤ -((-n).fdiv m) * m := by
    have := Int.ediv_mul_le (-n) hm'.ne'
    rw [Int.fdiv_eq_ediv_of_nonneg _ hm'.le, neg_mul]
    omega
  rw [Int.toNat_le, Nat.cast_mul]
  exact hreach.trans (mul_le_mul_of_nonneg_right (Int.self_le_toNat _) hm'.le)

theorem rounds_nonpos {n : Int} (hn : n ≤ 0) (m : Nat) : -((-n).fdiv m) ≤ 0 := by
  have := Int.fdiv_nonneg (Int.neg_nonneg.mpr hn) (Int.natCast_nonneg m)
  omega

theorem fill?_eq_some (mask : Text) (n : Int) : fill? mask n = some (fill mask n) :=
  (Option.some_get _).symm

section

variable {mask : Text} (hmask : mask ≠ [])
include hmask

/-- Below zero there is nothing to cut, so it does not matter that the bound counts from the end. -/
theorem fill_of_ne_nil (n : Int) :
    fill mask n = (repeated mask (-((-n).fdiv mask.length)).toNat).take n.toNat := by
  have hcut : fill mask n = (repeated mask (-((-n).fdiv mask.length)).toNat).upTo n := by
    simp [fill, fill?, rounds?, hmask]
  rw [hcut]
  by_cases hn : n < 0
  · have hnone : (-((-n).fdiv mask.length)).toNat = 0 :=
      Int.toNat_of_nonpos (rounds_nonpos hn.le mask.length)
    simp [hnone, repeated]
  · exact Text.upTo_of_nonneg _ (by omega)

theorem fill_length (n : Int) : (fill mask n).length = n.toNat := by
  have hreach := toNat_le_rounds_mul n (List.length_pos_iff.mpr hmask)
  rw [fill_of_ne_nil hmask, List.length_take, repeated_length]
  omega

theorem fill_getElem? {n : Int} {k : Nat} (hk : k < n.toNat) :
    (fill mask n)[k]? = mask[k % mask.length]? := by
  have hreach := toNat_le_rounds_mul n (List.length_pos_iff.mpr hmask)
  rw [fill_of_ne_nil hmask, List.getElem?_take_of_lt hk, repeated_getElem? (by omega)]

end

@[simp] theorem fill_nil (n : Int) : fill [] n = [] := rfl

/-- Also the empty mask goes round: it has nothing to put anywhere. -/
theorem fill_eq_filterMap (mask : Text) (n : Int) :
    fill mask n = (List.range n.toNat).filterMap fun k => mask[k % mask.length]? := by
  by_cases hmask : mask = []
  · subst hmask
    simp
  · have hpos := List.length_pos_iff.mpr hmask
    have hpoint : ∀ k, mask[k % mask.length]? = some (mask.getD (k % mask.length) 0) := by
      intro k
      simp [List.getElem?_eq_getElem (Nat.mod_lt k hpos)]
    apply List.ext_getElem?
    intro k
    simp only [hpoint]
    rw [List.filterMap_eq_map']
    by_cases hk : k < n.toNat
    · rw [fill_getElem? hmask hk, hpoint]
      simp [hk]
    · rw [List.getElem?_eq_none (by rw [fill_length hmask]; omega), List.getElem?_eq_none]
      simpa using hk

/-- From any offset up to any other a mask can be computed without a division by zero. The empty mask
leaves nothing there; another one covers exactly what lies between the two, nothing if they are in
the wrong order, and goes round. -/
theorem between_covers_range (mask : Text) (start stop : Int) :
    fill? mask (stop - start) = some (between mask start stop) ∧
      (mask = [] → between mask start stop = []) ∧
      (mask ≠ [] →
        ((between mask start stop).length : Int) = max 0 (stop - start) ∧
        ∀ k < (between mask start stop).length,
          (between mask start stop)[k]? = mask[k % mask.length]?) := by
  refine ⟨fill?_eq_some mask _, ?_, ?_⟩
  · rintro rfl
    exact fill_nil _
  · intro hmask
    have hlength : (between mask start stop).length = (stop - start).toNat :=
      fill_length hmask _
    refine ⟨by omega, ?_⟩
    intro k hk
    rw [hlength] at hk
    exact fill_getElem? hmask hk

theorem between_covers_range_across_zero :
    fill? [97, 98, 99] 7 = some (between [97, 98, 99] (-4) 3) ∧
      (between [97, 98, 99] (-4) 3).length = 7 ∧
      (between [97, 98, 99] (-4) 3)[6]? = some 97 := by
  obtain ⟨hfill, -, hcovers⟩ := between_covers_range [97, 98, 99] (-4) 3
  obtain ⟨hlength, hround⟩ := hcovers (by simp)
  have hseven : (between [97, 98, 99] (-4) 3).length = 7 := by omega
  exact ⟨hfill, hseven, hround 6 (by omega)⟩

-- In the wrong order the bound of the cut is below zero.
example : between [97, 98, 99] 3 (-4) = [] := by decide

end Mask

end LiteralScrub
