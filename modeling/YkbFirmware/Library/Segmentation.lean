import Mathlib.Algebra.BigOperators.Group.Finset.Basic
import Mathlib.Algebra.Order.BigOperators.Group.Finset
import Mathlib.Algebra.BigOperators.Intervals
import YkbFirmware.Library.ByteMemory

/-!
# Cutting a message into segments

A message of `total` elements is cut into segments of `size` elements; the
last one may be shorter, and the empty message is one empty segment.  The
segments tile the message: their lengths add up to `total` and every position
lies in exactly one of them.

The second half is the abstract reassembler.  Its state is the finite set of
indices stored so far together with a buffer; a buffer which agrees with the
message on every stored segment is the message once all indices are stored,
in whatever order they came.
-/

namespace YkbFirmware.Library.Segmentation

open YkbFirmware.Library.ByteMemory

/-- Number of segments of a message; an empty message is one segment. -/
def segmentCount (size total : Nat) : Nat :=
  if total = 0 then 1 else (total + size - 1) / size

/-- Number of elements in the segment at `index`. -/
def segmentLength (size total index : Nat) : Nat :=
  min size (total - index * size)

@[simp]
theorem segmentCount_zero (size : Nat) : segmentCount size 0 = 1 :=
  rfl

@[simp]
theorem segmentLength_zero (size index : Nat) :
    segmentLength size 0 index = 0 := by
  simp [segmentLength]

theorem segmentLength_le_size (size total index : Nat) :
    segmentLength size total index ≤ size :=
  Nat.min_le_left _ _

section Tiling

variable {size total index : Nat}

theorem segmentCount_pos (positive : 0 < size) :
    0 < segmentCount size total := by
  rw [segmentCount]
  split_ifs with empty
  · exact Nat.one_pos
  · exact Nat.div_pos (by omega) positive

/-- Every index of a nonempty message starts inside the message. -/
theorem mul_lt_total
    (positive : 0 < size) (nonempty : total ≠ 0)
    (within : index < segmentCount size total) :
    index * size < total := by
  rw [segmentCount, if_neg nonempty,
    Nat.lt_iff_add_one_le, Nat.le_div_iff_mul_le positive,
    Nat.add_mul] at within
  omega

theorem mul_le_total
    (positive : 0 < size)
    (within : index < segmentCount size total) :
    index * size ≤ total := by
  by_cases empty : total = 0
  · subst empty
    have first : index = 0 := by
      simpa using within
    simp [first]
  · exact (mul_lt_total positive empty within).le

/-- The segments reach the end of the message. -/
theorem total_le_mul (positive : 0 < size) :
    total ≤ segmentCount size total * size := by
  rw [segmentCount]
  split_ifs with empty
  · omega
  · have division := Nat.div_add_mod (total + size - 1) size
    have remainder := Nat.mod_lt (total + size - 1) positive
    rw [Nat.mul_comm] at division
    omega

/-- A message of at most `bound` elements has at most `bound` segments. -/
theorem segmentCount_le
    {bound : Nat} (positive : 0 < size)
    (totalLe : total ≤ bound) (boundPositive : 0 < bound) :
    segmentCount size total ≤ bound := by
  rw [segmentCount]
  split_ifs with empty
  · exact boundPositive
  · apply Nat.div_le_of_le_mul
    have scaled : bound ≤ size * bound :=
      Nat.le_mul_of_pos_left bound positive
    have split : size * bound = size * (bound - 1) + size := by
      rw [← Nat.mul_add_one]
      congr 1
      omega
    have tail : bound - 1 ≤ size * (bound - 1) :=
      Nat.le_mul_of_pos_left _ positive
    omega

theorem segment_end_le
    (positive : 0 < size)
    (within : index < segmentCount size total) :
    index * size + segmentLength size total index ≤ total := by
  have start := mul_le_total positive within
  rw [segmentLength]
  omega

/-- Every segment but the last is full. -/
theorem segmentLength_inner
    (positive : 0 < size)
    (inner : index + 1 < segmentCount size total) :
    segmentLength size total index = size := by
  have start := mul_le_total positive inner
  rw [Nat.add_mul] at start
  rw [segmentLength]
  omega

/-- The last segment holds whatever the full ones leave over. -/
theorem segmentLength_last
    (positive : 0 < size)
    (last : index + 1 = segmentCount size total) :
    segmentLength size total index = total - index * size := by
  have reach := @total_le_mul size total positive
  rw [← last, Nat.add_mul] at reach
  rw [segmentLength]
  omega

/-- The first `count` segments hold the first `count * size` elements. -/
theorem sum_segmentLength_range (size total count : Nat) :
    ∑ index ∈ Finset.range count, segmentLength size total index =
      min (count * size) total := by
  induction count with
  | zero => simp
  | succ count induction =>
      rw [Finset.sum_range_succ, induction, segmentLength, Nat.add_mul]
      omega

/-- All segments together hold the whole message. -/
theorem sum_segmentLength (positive : 0 < size) :
    ∑ index ∈ Finset.range (segmentCount size total),
        segmentLength size total index =
      total := by
  rw [sum_segmentLength_range]
  exact Nat.min_eq_right (total_le_mul positive)

/-- Distinct segments of a message never hold more than the message. -/
theorem sum_segmentLength_le
    (positive : 0 < size) {stored : Finset Nat}
    (storedWithin : stored ⊆ Finset.range (segmentCount size total)) :
    ∑ index ∈ stored, segmentLength size total index ≤ total := by
  calc
    ∑ index ∈ stored, segmentLength size total index ≤
        ∑ index ∈ Finset.range (segmentCount size total),
          segmentLength size total index :=
      Finset.sum_le_sum_of_subset storedWithin
    _ = total := sum_segmentLength positive

/-- Position `position` lies in segment `position / size`. -/
theorem position_in_segment
    {position : Nat} (positive : 0 < size) (within : position < total) :
    position / size < segmentCount size total ∧
      position / size * size ≤ position ∧
        position <
          position / size * size +
            segmentLength size total (position / size) := by
  have division := Nat.div_add_mod position size
  have remainder := Nat.mod_lt position positive
  rw [Nat.mul_comm] at division
  refine ⟨?_, by omega, by rw [segmentLength]; omega⟩
  rw [segmentCount, if_neg (by omega), Nat.lt_iff_add_one_le,
    Nat.le_div_iff_mul_le positive, Nat.add_mul]
  omega

/-- As many stored indices as there are segments means all of them. -/
theorem eq_range_of_card
    {stored : Finset Nat} {count : Nat}
    (storedWithin : stored ⊆ Finset.range count)
    (full : stored.card = count) :
    stored = Finset.range count :=
  Finset.eq_of_subset_of_card_le storedWithin (by simp [full])

theorem card_lt_of_not_mem
    {stored : Finset Nat} {count : Nat}
    (storedWithin : stored ⊆ Finset.range count)
    (within : index < count) (missing : index ∉ stored) :
    stored.card < count := by
  have proper : stored ⊂ Finset.range count :=
    (Finset.ssubset_iff_of_subset storedWithin).2
      ⟨index, Finset.mem_range.2 within, missing⟩
  simpa using Finset.card_lt_card proper

/-- Distinct segments do not overlap. -/
theorem segment_disjoint
    {first second position : Nat}
    (firstLower : first * size ≤ position)
    (firstUpper : position < first * size + segmentLength size total first)
    (secondLower : second * size ≤ position)
    (secondUpper :
      position < second * size + segmentLength size total second) :
    first = second := by
  have firstLe := segmentLength_le_size size total first
  have secondLe := segmentLength_le_size size total second
  rcases Nat.lt_trichotomy first second with less | equal | greater
  · have step := Nat.mul_le_mul_right size (Nat.succ_le_of_lt less)
    rw [Nat.succ_mul] at step
    omega
  · exact equal
  · have step := Nat.mul_le_mul_right size (Nat.succ_le_of_lt greater)
    rw [Nat.succ_mul] at step
    omega

end Tiling

/-! ## Reassembly -/

/-- The buffer agrees with the message on every stored segment. -/
def Holds
    (size total : Nat) (stored : Finset Nat) (buffer message : Memory) :
    Prop :=
  ∀ index ∈ stored, ∀ within < segmentLength size total index,
    buffer (index * size + within) = message (index * size + within)

namespace Holds

variable {size total : Nat} {stored : Finset Nat} {buffer message : Memory}

theorem empty : Holds size total ∅ buffer message := by
  intro index member
  exact absurd member (Finset.notMem_empty index)

/-- Writing one segment of the message keeps the others and adds it. -/
theorem insert
    {index : Nat} {source : Memory}
    (holds : Holds size total stored buffer message)
    (segment :
      ∀ within < segmentLength size total index,
        source within = message (index * size + within)) :
    Holds size total (Insert.insert index stored)
      (buffer.writeBlock (index * size)
        (segmentLength size total index) source)
      message := by
  intro other member within withinLt
  by_cases inside :
      index * size ≤ other * size + within ∧
        other * size + within <
          index * size + segmentLength size total index
  · have same : index = other :=
      segment_disjoint inside.1 inside.2
        (Nat.le_add_right _ _) (Nat.add_lt_add_left withinLt _)
    subst same
    rw [Memory.writeBlock_inside inside.1 inside.2,
      Nat.add_sub_cancel_left]
    exact segment within withinLt
  · rw [Memory.writeBlock_outside (by omega)]
    rcases Finset.mem_insert.mp member with same | already
    · subst same
      exact absurd
        ⟨Nat.le_add_right _ _, Nat.add_lt_add_left withinLt _⟩ inside
    · exact holds other already within withinLt

/-- A buffer holding every segment starts with the message. -/
theorem complete
    (positive : 0 < size)
    (all : stored = Finset.range (segmentCount size total))
    (holds : Holds size total stored buffer message)
    {position : Nat} (within : position < total) :
    buffer position = message position := by
  rcases position_in_segment positive within with
    ⟨indexLt, lower, upper⟩
  have located :=
    holds (position / size)
      (by rw [all]; exact Finset.mem_range.2 indexLt)
      (position - position / size * size) (by omega)
  rwa [Nat.add_sub_cancel' lower] at located

end Holds

end YkbFirmware.Library.Segmentation
