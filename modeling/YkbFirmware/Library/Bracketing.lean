import Mathlib.Tactic.Basic
import Mathlib.Data.List.Basic

/-!
# Things opened and closed in turn

A log of marks, `true` for an opening and `false` for a closing, each with a
tag.  `Bracketed` builds the logs in which openings and closings take turns
and a closing has the tag of the opening before it; its index is the tag of
the opening still to be closed.
-/

namespace YkbFirmware.Library.Bracketing

universe u

variable {Tag : Type u}

inductive Bracketed : Option Tag → List (Bool × Tag) → Prop where
  | nil : Bracketed none []
  | opened {log : List (Bool × Tag)} (closed : Bracketed none log)
      (tag : Tag) :
      Bracketed (some tag) (log ++ [(true, tag)])
  | closed {log : List (Bool × Tag)} {tag : Tag}
      (opened : Bracketed (some tag) log) :
      Bracketed none (log ++ [(false, tag)])

/-- Marks take turns, beginning with an opening. -/
def Alternates (marks : List Bool) : Prop :=
  ∀ index (inside : index < marks.length),
    marks[index] = decide (index % 2 = 0)

theorem Alternates.concat
    {marks : List Bool} (alternates : Alternates marks) {mark : Bool}
    (next : mark = decide (marks.length % 2 = 0)) :
    Alternates (marks ++ [mark]) := by
  intro index inside
  by_cases before : index < marks.length
  · rw [List.getElem_append_left before]
    exact alternates index before
  · have last : index = marks.length := by
      rw [List.length_append, List.length_singleton] at inside
      omega
    subst last
    rw [List.getElem_concat_length rfl, next]

section Logs

variable {pending : Option Tag} {log : List (Bool × Tag)}

/-- An opening is pending exactly after an odd number of marks. -/
theorem Bracketed.odd_length (bracketed : Bracketed pending log) :
    log.length % 2 = 1 ↔ pending.isSome = true := by
  induction bracketed with
  | nil => simp
  | opened _ tag induction =>
      rw [List.length_append, List.length_singleton]
      have even := induction
      simp only [Option.isSome_none, Bool.false_eq_true, iff_false] at even
      simp only [Option.isSome_some, iff_true]
      omega
  | closed _ induction =>
      rw [List.length_append, List.length_singleton]
      have odd := induction.mpr rfl
      simp only [Option.isSome_none, Bool.false_eq_true, iff_false]
      omega

theorem Bracketed.alternates (bracketed : Bracketed pending log) :
    Alternates (log.map Prod.fst) := by
  induction bracketed with
  | nil => exact fun index inside => absurd inside (Nat.not_lt_zero index)
  | opened closed tag induction =>
      rw [List.map_append]
      apply induction.concat
      rw [List.length_map]
      have even := closed.odd_length
      simp only [Option.isSome_none, Bool.false_eq_true, iff_false] at even
      exact (decide_eq_true (by omega)).symm
  | closed opened induction =>
      rw [List.map_append]
      apply induction.concat
      rw [List.length_map]
      have odd := opened.odd_length.mpr rfl
      exact (decide_eq_false (by omega)).symm

/-- The last mark says whether an opening is pending. -/
theorem Bracketed.getLast (bracketed : Bracketed pending log) :
    (log.map Prod.fst).getLast?.getD false = pending.isSome := by
  cases bracketed with
  | nil => rfl
  | opened | closed => simp

/-- The pending opening is the last mark. -/
theorem Bracketed.pending_tag
    {tag : Tag} (bracketed : Bracketed (some tag) log) :
    ∃ before, log = before ++ [(true, tag)] ∧ before.length % 2 = 0 := by
  cases bracketed with
  | opened closed =>
      refine ⟨_, rfl, ?_⟩
      have even := closed.odd_length
      simp only [Option.isSome_none, Bool.false_eq_true, iff_false] at even
      omega

/-- Each closing has the tag of the opening it closes. -/
theorem Bracketed.matched
    (bracketed : Bracketed pending log) {index : Nat}
    (inside : 2 * index + 1 < log.length) :
    log[2 * index + 1].2 = log[2 * index].2 := by
  induction bracketed with
  | nil => exact absurd inside (Nat.not_lt_zero _)
  | @opened log closed tag induction =>
      have even := closed.odd_length
      simp only [Option.isSome_none, Bool.false_eq_true, iff_false] at even
      rw [List.length_append, List.length_singleton] at inside
      have before : 2 * index + 1 < log.length := by omega
      rw [List.getElem_append_left before,
        List.getElem_append_left (by omega)]
      exact induction before
  | @closed log tag opened induction =>
      rw [List.length_append, List.length_singleton] at inside
      by_cases before : 2 * index + 1 < log.length
      · rw [List.getElem_append_left before,
          List.getElem_append_left (by omega)]
        exact induction before
      · rcases opened.pending_tag with ⟨earlier, rfl, even⟩
        simp only [List.length_append, List.length_singleton] at before inside
        have last : earlier.length = 2 * index := by omega
        rw [List.getElem_append_right (by simp; omega),
          List.getElem_append_left (by simp; omega),
          List.getElem_append_right (by omega)]
        simp [last]

end Logs

end YkbFirmware.Library.Bracketing
