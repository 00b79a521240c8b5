import Mathlib.Data.List.Nodup
import Mathlib.Tactic.Basic
import Mathlib.Tactic.SplitIfs

/-!
# Work queues

A first-in first-out queue of work items run by one thread.  An item that is
submitted while it waits in the queue is not queued again; one that is
submitted while it runs is.  What the queue ends with is decided by its last
item: the one at its end, or the running one when nothing waits.
-/

namespace YkbFirmware.Library.WorkQueue

universe u

structure ItemQueue (Item : Type u) where
  queued : List Item
  running : Option Item

namespace ItemQueue

variable {Item : Type u}

def empty : ItemQueue Item where
  queued := []
  running := none

/-- Neither waiting nor running items. -/
structure Idle (work : ItemQueue Item) : Prop where
  queued : work.queued = []
  running : work.running = none

/-- The item that will have run last once the queue is idle. -/
def last (work : ItemQueue Item) : Option Item :=
  work.queued.getLast?.or work.running

/-- The thread takes the first item, if it runs none. -/
def begin (work : ItemQueue Item) : Option (ItemQueue Item) :=
  match work.running, work.queued with
  | none, item :: rest => some ⟨rest, some item⟩
  | _, _ => none

/-- The running item ends. -/
def finish (work : ItemQueue Item) : Option (Item × ItemQueue Item) :=
  work.running.map fun item => (item, { work with running := none })

section Submit

variable [DecidableEq Item]

def submit (work : ItemQueue Item) (item : Item) : ItemQueue Item :=
  if work.queued.contains item then
    work
  else
    { work with queued := work.queued ++ [item] }

/-- A submitted item waits, and nothing else does that did not before. -/
theorem mem_queued_submit {work : ItemQueue Item} {item other : Item} :
    other ∈ (work.submit item).queued ↔
      other ∈ work.queued ∨ other = item := by
  rw [submit]
  split_ifs with waits
  · have member : item ∈ work.queued := by simpa using waits
    exact ⟨.inl, fun either => either.elim id fun same => same ▸ member⟩
  · simp

/-- No item waits twice. -/
theorem nodup_submit {work : ItemQueue Item} (nodup : work.queued.Nodup)
    (item : Item) : (work.submit item).queued.Nodup := by
  rw [submit]
  split_ifs with waits
  · exact nodup
  · have fresh : item ∉ work.queued := by simpa using waits
    show (work.queued ++ [item]).Nodup
    rw [← List.concat_eq_append, List.nodup_concat]
    exact ⟨fresh, nodup⟩

/-- A submitted item runs last unless it already waits before another one. -/
theorem last_submit_iff {work : ItemQueue Item} {item : Item} :
    (work.submit item).last = some item ↔
      item ∉ work.queued ∨ work.queued.getLast? = some item := by
  rw [submit]
  split_ifs with waits
  · have member : item ∈ work.queued := by simpa using waits
    rw [last, or_iff_right (not_not_intro member)]
    cases ending : work.queued.getLast? with
    | none =>
        rw [List.getLast?_eq_none_iff.mp ending] at member
        cases member
    | some final => exact Iff.rfl
  · simp [last, show item ∉ work.queued by simpa using waits]

/-- Some item runs last after a submission. -/
theorem last_submit_isSome {work : ItemQueue Item} {item : Item} :
    ∃ final, (work.submit item).last = some final := by
  rw [submit]
  split_ifs with waits
  · have member : item ∈ work.queued := by simpa using waits
    cases ending : work.queued.getLast? with
    | none =>
        rw [List.getLast?_eq_none_iff.mp ending] at member
        cases member
    | some final => exact ⟨final, by rw [last, ending, Option.some_or]⟩
  · exact ⟨item, by simp [last]⟩

end Submit

theorem last_begin
    {work begun : ItemQueue Item} (begins : work.begin = some begun) :
    begun.last = work.last := by
  rcases work with ⟨queued, running⟩
  cases running with
  | some item => cases begins
  | none =>
      cases queued with
      | nil => cases begins
      | cons item rest =>
          cases begins
          cases ending : rest.getLast? with
          | none => simp [last, List.getLast?_cons, ending]
          | some final => simp [last, List.getLast?_cons, ending]

/-- An item that ends was the last one exactly if nothing waits. -/
theorem last_finish
    {work ended : ItemQueue Item} {item : Item}
    (finishes : work.finish = some (item, ended)) :
    work.last = some (ended.last.getD item) := by
  rcases work with ⟨queued, running⟩
  cases running with
  | none => cases finishes
  | some current =>
      cases finishes
      cases ending : queued.getLast? with
      | none => simp [last, ending]
      | some final => simp [last, ending]

theorem last_idle {work : ItemQueue Item} (idle : work.Idle) :
    work.last = none := by
  rw [last, idle.queued, idle.running]
  rfl

section Cancel

variable [DecidableEq Item]

/-- A waiting item is taken out of the queue; a running one goes on. -/
def cancel (work : ItemQueue Item) (item : Item) : ItemQueue Item :=
  { work with queued := work.queued.filter fun other => other ≠ item }

end Cancel

/-! ## Marks of items -/

section Marks

universe v

variable {Mark : Type v} (mark : Item → Option Mark)

/-- The marks of the items still to end, in the order they will. -/
def ahead (work : ItemQueue Item) : List Mark :=
  (work.running.toList ++ work.queued).filterMap mark

variable {mark}

theorem ahead_finish
    {work ended : ItemQueue Item} {item : Item}
    (finishes : work.finish = some (item, ended)) :
    work.ahead mark = (mark item).toList ++ ended.ahead mark := by
  rcases work with ⟨queued, running⟩
  cases running with
  | none => cases finishes
  | some current =>
      cases finishes
      cases marked : mark item <;> simp [ahead, marked]

section Submit

variable [DecidableEq Item]

/-- A submitted item adds its mark unless it waits already. -/
theorem ahead_submit
    {work : ItemQueue Item} {item : Item}
    (free : ∀ found, mark item = some found → found ∉ work.ahead mark) :
    (work.submit item).ahead mark =
      work.ahead mark ++ (mark item).toList := by
  rw [submit]
  split_ifs with waits
  · cases marked : mark item with
    | none => simp
    | some found =>
        refine absurd ?_ (free found marked)
        have member : item ∈ work.queued := by simpa using waits
        exact
          List.mem_filterMap.mpr
            ⟨item, List.mem_append_right _ member, marked⟩
  · cases marked : mark item <;> simp [ahead, marked]

section Cancel

variable [DecidableEq Mark] {item : Item} {found : Mark}

theorem filterMap_cancel
    (marks : ∀ other, mark other = some found ↔ other = item)
    (items : List Item) :
    (items.filter fun other => other ≠ item).filterMap mark =
      (items.filterMap mark).filter fun other => other ≠ found := by
  induction items with
  | nil => rfl
  | cons first rest induction =>
      by_cases same : first = item
      · simpa [same, (marks item).mpr rfl] using induction
      · cases marked : mark first with
        | none => simpa [same, marked] using induction
        | some other =>
            have differs : other ≠ found := by
              rintro rfl
              exact same ((marks first).mp marked)
            simpa [same, marked, differs] using induction

/-- The marks of a canceled item that was waiting are gone. -/
theorem ahead_cancel
    {work : ItemQueue Item}
    (marks : ∀ other, mark other = some found ↔ other = item)
    (idle : work.running ≠ some item) :
    (work.cancel item).ahead mark =
      (work.ahead mark).filter fun other => other ≠ found := by
  have kept :
      work.running.toList.filter (fun other => other ≠ item) =
        work.running.toList := by
    cases running : work.running with
    | none => rfl
    | some other =>
        rw [running] at idle
        simpa using fun same => idle (by rw [same])
  rw [ahead, ahead, ← filterMap_cancel marks, List.filter_append, kept]
  rfl

/-- A canceled item that runs keeps its mark. -/
theorem ahead_cancel_running
    {work : ItemQueue Item}
    (marks : ∀ other, mark other = some found ↔ other = item)
    (running : work.running = some item) :
    (work.cancel item).ahead mark =
      found :: (work.ahead mark).tail.filter fun other => other ≠ found := by
  have marked : mark item = some found := (marks item).mpr rfl
  have kept := filterMap_cancel marks work.queued
  rw [ahead, ahead, cancel, running]
  simpa [marked] using kept

end Cancel

end Submit

@[simp]
theorem submit_running
    [DecidableEq Item] (work : ItemQueue Item) (item : Item) :
    (work.submit item).running = work.running := by
  rw [submit]
  split_ifs <;> rfl

theorem running_of_begin
    {work begun : ItemQueue Item} (begins : work.begin = some begun) :
    work.running = none ∧
      ∃ item rest, work.queued = item :: rest ∧ begun = ⟨rest, some item⟩ := by
  rcases work with ⟨queued, running⟩
  cases running with
  | some item => cases begins
  | none =>
      cases queued with
      | nil => cases begins
      | cons item rest =>
          cases begins
          exact ⟨rfl, item, rest, rfl, rfl⟩

theorem ahead_begin
    {work begun : ItemQueue Item} (begins : work.begin = some begun) :
    begun.ahead mark = work.ahead mark := by
  rcases running_of_begin begins with ⟨idle, item, rest, queue, rfl⟩
  rw [ahead, ahead, idle, queue]
  rfl

theorem running_of_finish
    {work ended : ItemQueue Item} {item : Item}
    (finishes : work.finish = some (item, ended)) :
    work.running = some item ∧ ended.running = none := by
  rcases work with ⟨queued, running⟩
  cases running with
  | none => cases finishes
  | some current =>
      cases finishes
      exact ⟨rfl, rfl⟩

end Marks

end ItemQueue

end YkbFirmware.Library.WorkQueue
