import Mathlib.Data.List.Nodup
import Mathlib.Data.List.Perm.Basic
import Mathlib.Logic.Function.Basic

/-!
# Maps kept in an array of slots

A finite map is often kept in an array of slots, each of which is free or
holds one entry: a new key takes the first free slot, a key is found by a
search from the front.  This file presents such an array by the function that
reads the entry of a slot, and relates writes into found slots to updates of
the map.
-/

namespace YkbFirmware.Library.SlotMap

universe u v w

/-! ## Lists of entries -/

section Entries

variable {Key : Type v} {Value : Type w}

/-- The entries are those of the map, each key once. -/
structure Represents
    (entries : List (Key × Value)) (content : Key → Option Value) : Prop where
  distinct : (entries.map Prod.fst).Nodup
  holds : ∀ key value, (key, value) ∈ entries ↔ content key = some value

theorem represents_nil :
    Represents ([] : List (Key × Value)) fun _ => none :=
  ⟨List.nodup_nil, fun key value => by simp⟩

theorem represents_perm
    {first second : List (Key × Value)} {content : Key → Option Value}
    (same : first.Perm second) (represents : Represents first content) :
    Represents second content where
  distinct := (same.map Prod.fst).nodup_iff.mp represents.distinct
  holds := fun key value =>
    same.mem_iff.symm.trans (represents.holds key value)

/-- A key that no entry has is not in the map. -/
theorem Represents.absent
    {entries : List (Key × Value)} {content : Key → Option Value}
    (represents : Represents entries content) {key : Key}
    (absent : ∀ entry ∈ entries, entry.1 ≠ key) : content key = none := by
  cases found : content key with
  | none => rfl
  | some value =>
      have member := (represents.holds key value).mpr found
      exact absurd rfl (absent (key, value) member)

variable [DecidableEq Key]

theorem represents_cons
    {rest : List (Key × Value)} {content : Key → Option Value}
    {key : Key} (value : Value)
    (represents : Represents rest content) (absent : content key = none) :
    Represents ((key, value) :: rest)
      (Function.update content key (some value)) where
  distinct := by
    rw [List.map_cons, List.nodup_cons]
    refine ⟨fun member => ?_, represents.distinct⟩
    rcases List.mem_map.mp member with ⟨entry, within, same⟩
    have found := (represents.holds entry.1 entry.2).mp within
    rw [same, absent] at found
    cases found
  holds := by
    intro other found
    rw [List.mem_cons, Prod.mk.injEq, represents.holds]
    by_cases same : other = key
    · subst same
      simp [absent, eq_comm]
    · simp [same]

theorem represents_tail
    {rest : List (Key × Value)} {content : Key → Option Value}
    {key : Key} {value : Value}
    (represents : Represents ((key, value) :: rest) content) :
    Represents rest (Function.update content key none) where
  distinct := (List.nodup_cons.mp represents.distinct).2
  holds := by
    have fresh := (List.nodup_cons.mp represents.distinct).1
    intro other found
    by_cases same : other = key
    · subst same
      refine iff_of_false (fun member => fresh ?_) (by simp)
      exact List.mem_map.mpr ⟨(other, found), member, rfl⟩
    · rw [Function.update_of_ne same, ← represents.holds, List.mem_cons,
        Prod.mk.injEq]
      simp [same]

end Entries

/-! ## Slots -/

section Slots

variable
    {Slot : Type u} {Entry : Type v}
    {entry : Slot → Option Entry} {slots : List Slot} {index : Nat}

/-- The entries in the slots, from the front. -/
def entries (entry : Slot → Option Entry) (slots : List Slot) :
    List Entry :=
  slots.filterMap entry

variable (entry) in
/-- A write into a slot exchanges its entry and leaves the others. -/
theorem entries_set_perm {slot : Slot} (found : slots[index]? = some slot) :
    ∃ rest,
      (entries entry slots).Perm ((entry slot).toList ++ rest) ∧
        ∀ other,
          (entries entry (slots.set index other)).Perm
            ((entry other).toList ++ rest) := by
  rcases List.getElem?_eq_some_iff.mp found with ⟨inside, rfl⟩
  have apart (middle : Slot) :
      ((slots.take index ++ middle :: slots.drop (index + 1)).filterMap
          entry).Perm
        ((entry middle).toList ++
          (entries entry (slots.take index) ++
            entries entry (slots.drop (index + 1)))) := by
    rw [List.filterMap_append, List.filterMap_cons, entries, entries]
    cases entry middle with
    | none => exact List.Perm.refl _
    | some held => exact List.perm_middle
  refine
    ⟨entries entry (slots.take index) ++
        entries entry (slots.drop (index + 1)),
      ?_, fun other => ?_⟩
  · have whole :
        slots =
          slots.take index ++ slots[index] :: slots.drop (index + 1) := by
      rw [List.getElem_cons_drop, List.take_append_drop]
    rw [entries]
    conv_lhs => rw [whole]
    exact apart slots[index]
  · rw [entries, List.set_eq_take_append_cons_drop, if_pos inside]
    exact apart other

/-- A slot that takes an entry is the only one if there was none before. -/
theorem entries_set_of_empty
    {slot taken : Slot} {held : Entry} (empty : entries entry slots = [])
    (found : slots[index]? = some slot) (holds : entry taken = some held) :
    entries entry (slots.set index taken) = [held] := by
  rcases entries_set_perm entry found with ⟨rest, before, after⟩
  rw [empty] at before
  have none := (List.append_eq_nil_iff.mp before.nil_eq.symm).2
  have exchanged := after taken
  rw [holds, none] at exchanged
  exact List.perm_singleton.mp exchanged

/-- A slot that is freed leaves none behind if it held the only entry. -/
theorem entries_set_of_only
    {slot freed : Slot} {only held : Entry}
    (one : entries entry slots = [only])
    (found : slots[index]? = some slot) (holds : entry slot = some held)
    (free : entry freed = none) :
    entries entry (slots.set index freed) = [] := by
  rcases entries_set_perm entry found with ⟨rest, before, after⟩
  rw [one, holds] at before
  have exchanged := after freed
  rw [free] at exchanged
  have none : rest = [] := by simpa using before.length_eq
  rw [none] at exchanged
  exact List.perm_nil.mp exchanged

/-- A change that leaves the entry of every slot leaves the entries. -/
theorem entries_modify
    {change : Slot → Slot} (same : ∀ slot, entry (change slot) = entry slot) :
    entries entry (slots.modify index change) = entries entry slots := by
  induction slots generalizing index with
  | nil => rw [List.modify_nil]
  | cons slot rest induction =>
      simp only [entries] at induction ⊢
      cases index with
      | zero =>
          rw [List.modify_zero_cons, List.filterMap_cons,
            List.filterMap_cons, same]
      | succ index =>
          rw [List.modify_succ_cons, List.filterMap_cons,
            List.filterMap_cons, induction]

end Slots

section SlotMaps

variable
    {Slot : Type u} {Key : Type v} {Value : Type w} [DecidableEq Key]
    {entry : Slot → Option (Key × Value)} {slots : List Slot} {index : Nat}
    {content : Key → Option Value}

/-- A free slot takes an entry whose key is new. -/
theorem represents_insert
    {slot taken : Slot} {key : Key} {value : Value}
    (represents : Represents (entries entry slots) content)
    (found : slots[index]? = some slot) (free : entry slot = none)
    (holds : entry taken = some (key, value)) (absent : content key = none) :
    Represents (entries entry (slots.set index taken))
      (Function.update content key (some value)) := by
  rcases entries_set_perm entry found with ⟨rest, before, after⟩
  rw [free, Option.toList_none, List.nil_append] at before
  have exchanged := after taken
  rw [holds, Option.toList_some, List.singleton_append] at exchanged
  exact
    represents_perm exchanged.symm
      (represents_cons value (represents_perm before represents) absent)

/-- A slot that is freed takes its key from the map. -/
theorem represents_remove
    {slot freed : Slot} {key : Key} {value : Value}
    (represents : Represents (entries entry slots) content)
    (found : slots[index]? = some slot)
    (holds : entry slot = some (key, value)) (free : entry freed = none) :
    Represents (entries entry (slots.set index freed))
      (Function.update content key none) := by
  rcases entries_set_perm entry found with ⟨rest, before, after⟩
  rw [holds, Option.toList_some, List.singleton_append] at before
  have exchanged := after freed
  rw [free, Option.toList_none, List.nil_append] at exchanged
  exact
    represents_perm exchanged.symm
      (represents_tail (represents_perm before represents))

/-- A slot that is written over keeps its key and changes the value. -/
theorem represents_replace
    {slot written : Slot} {key : Key} {value replaced : Value}
    (represents : Represents (entries entry slots) content)
    (found : slots[index]? = some slot)
    (holds : entry slot = some (key, value))
    (holdsWritten : entry written = some (key, replaced)) :
    Represents (entries entry (slots.set index written))
      (Function.update content key (some replaced)) := by
  rcases entries_set_perm entry found with ⟨rest, before, after⟩
  rw [holds, Option.toList_some, List.singleton_append] at before
  have exchanged := after written
  rw [holdsWritten, Option.toList_some, List.singleton_append] at exchanged
  have removed := represents_tail (represents_perm before represents)
  have again :=
    represents_cons replaced removed (Function.update_self key none content)
  rw [Function.update_idem] at again
  exact represents_perm exchanged.symm again

end SlotMaps

end YkbFirmware.Library.SlotMap
