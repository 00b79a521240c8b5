import Mathlib.Data.List.Forall2

/-!
# Computations that can fail

What is known of the parts of a computation in `Except` that has succeeded:
of two steps, of a step for each element of a list, and of a loop over
`0, …, count - 1` with an invariant indexed by the number of passes.  A loop
whose passes succeed under its invariant succeeds as well.
-/

namespace YkbFirmware.Library.Fallible

universe u v

variable {Error : Type u} {State Item Result : Type v}

/-! ## Steps -/

theorem bind_eq_ok_iff
    {first : Except Error State} {second : State → Except Error Result}
    {result : Result} :
    first >>= second = .ok result ↔
      ∃ state, first = .ok state ∧ second state = .ok result := by
  cases first with
  | error error =>
      constructor
      · intro succeeded
        cases succeeded
      · rintro ⟨_, impossible, _⟩
        cases impossible
  | ok state =>
      constructor
      · intro succeeded
        exact ⟨state, rfl, succeeded⟩
      · rintro ⟨_, same, succeeded⟩
        cases same
        exact succeeded

/-- A successful traversal has succeeded on every element. -/
theorem forall₂_of_mapM
    {step : Item → Except Error Result} {items : List Item}
    {results : List Result} (succeeded : items.mapM step = .ok results) :
    List.Forall₂ (fun item result => step item = .ok result) items results := by
  induction items generalizing results with
  | nil =>
      cases succeeded
      exact List.Forall₂.nil
  | cons item items induction =>
      rw [List.mapM_cons, bind_eq_ok_iff] at succeeded
      rcases succeeded with ⟨result, first, succeeded⟩
      rw [bind_eq_ok_iff] at succeeded
      rcases succeeded with ⟨rest, others, same⟩
      cases same
      exact List.Forall₂.cons first (induction others)

/-! ## Loops -/

section Loops

variable
    {body : State → Nat → Except Error State} {start finish : State}
    {count : Nat}

/-- The last pass of a loop. -/
theorem foldlM_range_succ (start : State) (count : Nat) :
    (List.range (count + 1)).foldlM body start =
      (List.range count).foldlM body start >>= fun state =>
        body state count := by
  rw [List.range_succ, List.foldlM_append]
  congr 1
  funext state
  rw [List.foldlM_cons]
  exact bind_pure _

/-- A loop whose passes succeed under the invariant succeeds under it. -/
theorem foldlM_range_total
    (invariant : Nat → State → Prop)
    (initially : invariant 0 start)
    (pass :
      ∀ index < count, ∀ state, invariant index state →
        ∃ next, body state index = .ok next ∧ invariant (index + 1) next) :
    ∃ finish,
      (List.range count).foldlM body start = .ok finish ∧
        invariant count finish := by
  induction count with
  | zero => exact ⟨start, rfl, initially⟩
  | succ count induction =>
      rcases induction fun index before => pass index (by omega) with
        ⟨middle, looped, holds⟩
      rcases pass count (Nat.lt_succ_self count) middle holds with
        ⟨next, passed, holdsNext⟩
      refine ⟨next, ?_, holdsNext⟩
      rw [foldlM_range_succ, bind_eq_ok_iff]
      exact ⟨middle, looped, passed⟩

/-- A loop that has succeeded has kept what each successful pass keeps. -/
theorem foldlM_range_sound
    (invariant : Nat → State → Prop)
    (looped : (List.range count).foldlM body start = .ok finish)
    (initially : invariant 0 start)
    (pass :
      ∀ index < count, ∀ state next, invariant index state →
        body state index = .ok next → invariant (index + 1) next) :
    invariant count finish := by
  induction count generalizing finish with
  | zero =>
      cases looped
      exact initially
  | succ count induction =>
      rw [foldlM_range_succ, bind_eq_ok_iff] at looped
      rcases looped with ⟨middle, before, last⟩
      have holds := induction before fun index earlier => pass index (by omega)
      exact pass count (Nat.lt_succ_self count) middle finish holds last

end Loops

end YkbFirmware.Library.Fallible
