import Mathlib.Data.List.Induction
import Mathlib.Order.Bounds.Basic
import Mathlib.Order.Bounds.Defs
import Mathlib.Tactic.Basic

/-!
# The first maximum of a scan

A list is scanned from the left for the best scored item.  Some items have no
score, the scan starts with a floor instead of an item, and an item replaces
the best one only if it scores strictly higher.

What is left at the end is the first of the items with the highest score, if
that score is above the floor, and no item otherwise.  Over the indices of an
array it is the least index with the highest score.
-/

namespace YkbFirmware.Library.FirstMaximum

universe u v

/-- The best item so far and its score; at first the floor. -/
structure Best (Item : Type u) (Score : Type v) where
  score : Score
  item : Option Item

section Scan

variable {Item : Type u} {Score : Type v} [LinearOrder Score]
variable {score : Item → Option Score} {floor : Score}
variable {seen : List Item} {best : Best Item Score}

def Best.consider
    (score : Item → Option Score) (best : Best Item Score) (item : Item) :
    Best Item Score :=
  match score item with
  | none => best
  | some reached =>
      if best.score < reached then ⟨reached, some item⟩ else best

def scan (score : Item → Option Score) (floor : Score) (items : List Item) :
    Best Item Score :=
  items.foldl (Best.consider score) ⟨floor, none⟩

/-- What the best item is among the items seen. -/
inductive Leads
    (score : Item → Option Score) (floor : Score) (seen : List Item) :
    Best Item Score → Prop where
  | floor
      (low : ∀ item ∈ seen, ∀ reached ∈ score item, reached ≤ floor) :
      Leads score floor seen ⟨floor, none⟩
  | item
      {before after : List Item} {item : Item} {top : Score}
      (split : seen = before ++ item :: after)
      (scored : score item = some top)
      (above : floor < top)
      (earlier : ∀ other ∈ before, ∀ reached ∈ score other, reached < top)
      (later : ∀ other ∈ after, ∀ reached ∈ score other, reached ≤ top) :
      Leads score floor seen ⟨top, some item⟩

/-- No item seen scores higher than the best one. -/
theorem Leads.bound
    (leads : Leads score floor seen best)
    {item : Item} (member : item ∈ seen)
    {reached : Score} (scored : reached ∈ score item) :
    reached ≤ best.score := by
  cases leads with
  | floor low => exact low item member reached scored
  | item split top above earlier later =>
      subst split
      rcases List.mem_append.mp member with before | rest
      · exact (earlier item before reached scored).le
      · rcases List.mem_cons.mp rest with rfl | after
        · exact (Option.mem_unique scored top).le
        · exact later item after reached scored

theorem Leads.floor_le (leads : Leads score floor seen best) :
    floor ≤ best.score := by
  cases leads with
  | floor low => exact le_refl floor
  | item split top above earlier later => exact above.le

/-- One more item is considered. -/
theorem Leads.consider
    (leads : Leads score floor seen best) (item : Item) :
    Leads score floor (seen ++ [item]) (best.consider score item) := by
  rw [Best.consider]
  cases scored : score item with
  | none =>
      have unscored : ∀ reached, reached ∉ score item := by
        intro reached member
        rw [scored] at member
        cases member
      cases leads with
      | floor low =>
          refine .floor fun other member reached found => ?_
          rcases List.mem_append.mp member with before | last
          · exact low other before reached found
          · rw [List.mem_singleton.mp last] at found
            exact absurd found (unscored reached)
      | @item before after _ _ split top above earlier later =>
          refine
            @Leads.item _ _ _ _ _ _ before (after ++ [item]) _ _
              (by simp [split]) top above earlier
              fun other member reached found => ?_
          rcases List.mem_append.mp member with inside | last
          · exact later other inside reached found
          · rw [List.mem_singleton.mp last] at found
            exact absurd found (unscored reached)
  | some reached =>
      dsimp only
      split_ifs with higher
      · -- the new item beats everything that was seen before it
        exact
          @Leads.item _ _ _ _ _ _ seen [] _ _ rfl scored
            (leads.floor_le.trans_lt higher)
            (fun other member value found =>
              (leads.bound member found).trans_lt higher)
            (fun other member => absurd member List.not_mem_nil)
      · have within := not_lt.mp higher
        cases leads with
        | floor low =>
            refine .floor fun other member value found => ?_
            rcases List.mem_append.mp member with before | last
            · exact low other before value found
            · rw [List.mem_singleton.mp last, scored] at found
              exact (Option.mem_some_iff.mp found) ▸ within
        | @item before after _ _ split top above earlier later =>
            refine
              @Leads.item _ _ _ _ _ _ before (after ++ [item]) _ _
                (by simp [split]) top above earlier
                fun other member value found => ?_
            rcases List.mem_append.mp member with inside | last
            · exact later other inside value found
            · rw [List.mem_singleton.mp last, scored] at found
              exact (Option.mem_some_iff.mp found) ▸ within

/-- A scan ends with the first maximum of the items scanned. -/
theorem scan_leads (items : List Item) :
    Leads score floor items (scan score floor items) := by
  induction items using List.reverseRecOn with
  | nil => exact .floor fun item member => absurd member List.not_mem_nil
  | append_singleton items item induction =>
      rw [scan, List.foldl_append]
      exact induction.consider item

end Scan

/-! ## Over the indices of an array -/

section Indices

variable {Score : Type v} [LinearOrder Score]
variable {score : Nat → Option Score} {floor : Score} {count : Nat}

/-- The index has a score above the floor and no index scores higher. -/
def Maximises
    (score : Nat → Option Score) (floor : Score) (count index : Nat) :
    Prop :=
  index < count ∧
    ∃ top ∈ score index, floor < top ∧
      ∀ other < count, ∀ reached ∈ score other, reached ≤ top

/-- The item of a scan is one of the best. -/
theorem scan_range_maximises
    {index : Nat}
    (chosen : (scan score floor (List.range count)).item = some index) :
    IsLeast {other | Maximises score floor count other} index := by
  have leads := @scan_leads Nat Score _ score floor (List.range count)
  generalize scan score floor (List.range count) = best at chosen leads
  cases leads with
  | floor low => cases chosen
  | @item before after _ top split scored above earlier later =>
      cases chosen
      have inside : index ∈ List.range count := by simp [split]
      constructor
      · refine
          ⟨List.mem_range.mp inside, top, scored, above,
            fun other small reached found => ?_⟩
        exact
          (Leads.item split scored above earlier later).bound
            (List.mem_range.mpr small) found
      · rintro other ⟨small, reached, found, _, best⟩
        by_contra less
        -- a smaller index comes before in the list, so it scores less
        have ordered : (List.range count).Pairwise (· < ·) :=
          List.pairwise_lt_range
        have member : other ∈ before ++ index :: after :=
          split ▸ List.mem_range.mpr small
        rw [split, List.pairwise_append] at ordered
        have earlierPlace : other ∈ before := by
          rcases List.mem_append.mp member with place | place
          · exact place
          · rcases List.mem_cons.mp place with rfl | place
            · exact absurd le_rfl less
            · have order := (List.pairwise_cons.mp ordered.2.1).1 other place
              exact absurd order.le less
        have highest := best index (List.mem_range.mp inside) top scored
        exact
          absurd (earlier other earlierPlace reached found)
            (not_lt.mpr highest)

/-- A scan finds the least of the best indices, if there is one. -/
theorem scan_range_eq_some_iff {index : Nat} :
    (scan score floor (List.range count)).item = some index ↔
      IsLeast {other | Maximises score floor count other} index := by
  refine ⟨scan_range_maximises, fun least => ?_⟩
  cases chosen : (scan score floor (List.range count)).item with
  | some other => rw [(scan_range_maximises chosen).unique least]
  | none =>
      rcases least.1 with ⟨small, top, scored, above, _⟩
      have leads := @scan_leads Nat Score _ score floor (List.range count)
      generalize scan score floor (List.range count) = best at chosen leads
      cases leads with
      | item => cases chosen
      | floor low =>
          have high := low index (List.mem_range.mpr small) top scored
          exact absurd above (not_lt.mpr high)

end Indices

end YkbFirmware.Library.FirstMaximum
