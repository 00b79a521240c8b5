import Mathlib.Data.List.Sort
import Mathlib.Data.Nat.BitIndices

/-!
# Masks of bits

A mask is put together from one bit after the other.  If the bits come in
ascending order, listing the bits of the mask gives them back.
-/

namespace YkbFirmware.Library.BitMask

variable {bits : Nat → Nat} {count : Nat}

/-- The mask of the first bits of a sequence. -/
def mask (bits : Nat → Nat) (count : Nat) : Nat :=
  (List.range count).foldl (fun word index => word ||| 2 ^ bits index) 0

theorem mask_succ :
    mask bits (count + 1) = mask bits count ||| 2 ^ bits count := by
  rw [mask, List.range_succ, List.foldl_append]
  rfl

theorem testBit_mask (position : Nat) :
    (mask bits count).testBit position ↔
      ∃ index < count, bits index = position := by
  induction count with
  | zero =>
      constructor
      · intro set
        exact absurd set (by simp [mask])
      · rintro ⟨index, outside, _⟩
        exact absurd outside (Nat.not_lt_zero index)
  | succ count induction =>
      rw [mask_succ, Nat.testBit_or, Bool.or_eq_true, induction,
        Nat.testBit_two_pow, decide_eq_true_iff]
      constructor
      · rintro (⟨index, inside, same⟩ | same)
        · exact ⟨index, Nat.lt_succ_of_lt inside, same⟩
        · exact ⟨count, Nat.lt_succ_self count, same⟩
      · rintro ⟨index, inside, same⟩
        rcases Nat.lt_succ_iff_lt_or_eq.mp inside with before | rfl
        · exact Or.inl ⟨index, before, same⟩
        · exact Or.inr same

/-- Bits in ascending order are listed as they were given. -/
theorem bitIndices_mask
    (ascending :
      ∀ second < count, ∀ first < second, bits first < bits second) :
    (mask bits count).bitIndices = (List.range count).map bits := by
  have sorted : ((List.range count).map bits).SortedLT := by
    rw [List.sortedLT_iff_pairwise, List.pairwise_map]
    refine List.Pairwise.imp_of_mem ?_ List.pairwise_lt_range
    intro first second _ member before
    exact ascending second (List.mem_range.mp member) first before
  refine Nat.bitIndices_sorted.eq_of_mem_iff sorted fun position => ?_
  rw [Nat.mem_bitIndices, testBit_mask, List.mem_map]
  simp only [List.mem_range]

end YkbFirmware.Library.BitMask
