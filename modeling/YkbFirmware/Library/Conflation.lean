import Mathlib.Data.List.Basic

/-!
# Conflation

A writer puts values in a place that holds one of them, and a reader takes
out what it finds there.  A value that is not read in time gives way to the
next one.  What is read is then a part of what was written, in its order, and
ends with the last value written as soon as none waits to be read.
-/

namespace YkbFirmware.Library.Conflation

universe u

variable {Value : Type u}

/-- What has been read of the values written, and whether one is unread. -/
def Conflates (written read : List Value) : Bool → Prop
  | false => read.Sublist written ∧ read.getLast? = written.getLast?
  | true =>
      ∃ value, written.getLast? = some value ∧
        (read ++ [value]).Sublist written

namespace Conflates

variable {written read : List Value} {unread : Bool} {value : Value}

theorem nil : Conflates ([] : List Value) [] false :=
  ⟨.slnil, rfl⟩

theorem sublist (conflates : Conflates written read unread) :
    read.Sublist written := by
  cases unread with
  | false => exact conflates.1
  | true =>
      rcases conflates with ⟨value, -, part⟩
      exact (List.sublist_append_left read [value]).trans part

/-- A value is written over the one there. -/
theorem write (conflates : Conflates written read unread) :
    Conflates (written ++ [value]) read true :=
  ⟨value, List.getLast?_concat,
    conflates.sublist.append (List.Sublist.refl [value])⟩

/-- The value there is read. -/
theorem take
    (conflates : Conflates written read true)
    (last : written.getLast? = some value) :
    Conflates written (read ++ [value]) false := by
  rcases conflates with ⟨there, isLast, part⟩
  cases last.symm.trans isLast
  exact ⟨part, by rw [List.getLast?_concat, last]⟩

end Conflates

end YkbFirmware.Library.Conflation
