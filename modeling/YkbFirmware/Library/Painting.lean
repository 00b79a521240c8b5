import Mathlib.Logic.Function.Basic
import Mathlib.Tactic.Basic

/-!
# Strokes on a canvas

A canvas assigns a colour to each index, and a stroke sets that of one of
them.  Strokes are painted one after the other, so a later one hides an
earlier one at the same place; what was on the canvas shows only where there
is no stroke.
-/

namespace YkbFirmware.Library.Painting

universe u v

variable {Index : Type u} {Colour : Type v} [DecidableEq Index]

/-- Paint the strokes, the first one first. -/
def paint (canvas : Index → Colour) (strokes : List (Index × Colour)) :
    Index → Colour :=
  strokes.foldl
    (fun canvas stroke => Function.update canvas stroke.1 stroke.2) canvas

variable
    {canvas other : Index → Colour} {strokes : List (Index × Colour)}

@[simp]
theorem paint_nil : paint canvas [] = canvas :=
  rfl

@[simp]
theorem paint_cons (stroke : Index × Colour) :
    paint canvas (stroke :: strokes) =
      paint (Function.update canvas stroke.1 stroke.2) strokes :=
  rfl

/-- The canvas shows where there is no stroke. -/
theorem paint_of_notMem {index : Index}
    (bare : index ∉ strokes.map Prod.fst) :
    paint canvas strokes index = canvas index := by
  induction strokes generalizing canvas with
  | nil => rfl
  | cons stroke rest induction =>
      rw [List.map_cons, List.mem_cons, not_or] at bare
      rw [paint_cons, induction bare.2, Function.update_of_ne bare.1]

/-- Strokes hide what canvases differ in. -/
theorem paint_congr
    (agree : ∀ index, index ∉ strokes.map Prod.fst →
      canvas index = other index) :
    paint canvas strokes = paint other strokes := by
  induction strokes generalizing canvas other with
  | nil => exact funext fun index => agree index List.not_mem_nil
  | cons stroke rest induction =>
      rw [paint_cons, paint_cons]
      apply induction
      intro index bare
      by_cases same : index = stroke.1
      · rw [same, Function.update_self, Function.update_self]
      · rw [Function.update_of_ne same, Function.update_of_ne same]
        apply agree
        rw [List.map_cons, List.mem_cons, not_or]
        exact ⟨same, bare⟩

end YkbFirmware.Library.Painting
