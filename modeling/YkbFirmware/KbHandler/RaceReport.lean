import Mathlib.Data.Finset.Max
import Mathlib.Order.Nat
import YkbFirmware.Library.FirstMaximum
import YkbFirmware.KbHandler.Transition
import YkbFirmware.KbHandler.ReportCodes

/-!
# The race report

In race mode the report shows the key that is pressed deepest in proportion
to its travel.  The loop of `send_race_report_if_changed` is a scan for the
first maximum: a key that is not pressed, or whose travel is empty, has no
score, and the scan starts at the floor 0.
-/

namespace YkbFirmware.KbHandler.RaceReport

open YkbFirmware.Library.FirstMaximum
open YkbFirmware.KbHandler.Settings
open YkbFirmware.KbHandler.Report
open YkbFirmware.KbHandler.Core
open YkbFirmware.KbHandler.Frames
open YkbFirmware.KbHandler.Transition
open YkbFirmware.KbHandler.ReportCodes

/-! ## The deepest key -/

section Definitions

variable (config : KbHandlerConfig) (st : KbhRuntimeState)

/-- The key is pressed and its travel is not empty. -/
def Eligible (key : Nat) : Prop :=
  st.pressedKeys key = true ∧
    st.settings.thresholds key < st.settings.maximums key

/-- How far beyond its threshold a key is, in proportion to its travel. -/
def depthRatio (key : Nat) : ℚ :=
  ((st.currentValues key).toNat - (st.settings.thresholds key).toNat) /
    ((st.settings.maximums key).toNat - (st.settings.thresholds key).toNat)

/-- No eligible key is pressed deeper. -/
def Deepest (key : Nat) : Prop :=
  key < config.totalKeyCount ∧ Eligible st key ∧
    ∀ other < config.totalKeyCount, Eligible st other →
      depthRatio st other ≤ depthRatio st key

/-- The smallest index of the deepest keys. -/
def FirstDeepest (key : Nat) : Prop :=
  IsLeast {other | Deepest config st other} key

instance (key : Nat) : Decidable (Eligible st key) :=
  inferInstanceAs (Decidable (_ ∧ _))

/-- What the loop compares: the ratio of an eligible key. -/
def raceScore (key : Nat) : Option ℚ :=
  if Eligible st key then some (depthRatio st key) else none

end Definitions

/-- A report with no code, with one modifier or with one usage. -/
def ShowsAtMostOne (report : HidKbReport) : Prop :=
  report = HidKbReport.zero ∨
    (∃ code, isModifier code = true ∧
      report = ⟨modBit code, 0, KeySlots.fill 0⟩) ∨
      ∃ code, isModifier code = false ∧
        report = ⟨0, 0, ⟨[code, 0, 0, 0, 0, 0], rfl⟩⟩

section Choice

variable {config : KbHandlerConfig} {st : KbhRuntimeState}

/-- The choice as the best item of a scan. -/
def bestOf (choice : RaceChoice) : Best Nat ℚ :=
  ⟨choice.maxPercentage, choice.maxIndex⟩

/-- The body of the loop considers one key. -/
theorem bestOf_raceKey (choice : RaceChoice) (key : Nat) :
    bestOf (raceKey st choice key) =
      (bestOf choice).consider (raceScore st) key := by
  rw [raceKey, Best.consider, raceScore]
  dsimp only
  by_cases pressed : st.pressedKeys key = false
  · rw [if_pos pressed,
      if_neg fun eligible : Eligible st key =>
        Bool.false_ne_true (pressed.symm.trans eligible.1)]
  by_cases empty : st.settings.maximums key ≤ st.settings.thresholds key
  · rw [if_neg pressed, if_pos empty,
      if_neg fun eligible : Eligible st key =>
        absurd eligible.2 (UInt16.not_lt.mpr empty)]
  have eligible : Eligible st key :=
    ⟨Bool.eq_true_of_not_eq_false pressed, UInt16.not_le.mp empty⟩
  rw [if_neg pressed, if_neg empty, if_pos eligible]
  have ratio :
      (((st.currentValues key).toNat - (st.settings.thresholds key).toNat :
            Int) : ℚ) /
          ((st.settings.maximums key).toNat -
              (st.settings.thresholds key).toNat :
            Int) =
        depthRatio st key := by
    rw [depthRatio]
    push_cast
    rfl
  rw [ratio]
  dsimp only
  by_cases higher : depthRatio st key > choice.maxPercentage
  · rw [if_pos higher]
    exact (if_pos higher).symm
  · rw [if_neg higher]
    exact (if_neg higher).symm

/-- The loop scans the keys for the first maximum. -/
theorem bestOf_raceChoice :
    bestOf (raceChoice config st) =
      scan (raceScore st) 0 (List.range config.totalKeyCount) :=
  (List.foldl_hom bestOf fun choice key =>
    (bestOf_raceKey choice key).symm).symm

theorem maximises_iff {key : Nat} :
    Maximises (raceScore st) 0 config.totalKeyCount key ↔
      Deepest config st key ∧ 0 < depthRatio st key := by
  have scored :
      ∀ {other : Nat} {ratio : ℚ},
        ratio ∈ raceScore st other ↔
          Eligible st other ∧ depthRatio st other = ratio := by
    intro other ratio
    rw [raceScore]
    split_ifs with eligible <;> simp [eligible]
  constructor
  · rintro ⟨inside, ratio, found, positive, best⟩
    rcases scored.mp found with ⟨eligible, rfl⟩
    refine ⟨⟨inside, eligible, fun other small competes => ?_⟩, positive⟩
    exact best other small _ (scored.mpr ⟨competes, rfl⟩)
  · rintro ⟨⟨inside, eligible, best⟩, positive⟩
    refine
      ⟨inside, _, scored.mpr ⟨eligible, rfl⟩, positive,
        fun other small ratio found => ?_⟩
    rcases scored.mp found with ⟨competes, rfl⟩
    exact best other small competes

/-- All deepest keys have one ratio. -/
theorem Deepest.ratio_eq
    {key other : Nat} (deepest : Deepest config st key)
    (deep : Deepest config st other) :
    depthRatio st other = depthRatio st key :=
  le_antisymm (deepest.2.2 other deep.1 deep.2.1)
    (deep.2.2 key deepest.1 deepest.2.1)

/-- Of some eligible keys one is the first deepest. -/
theorem exists_firstDeepest
    (some : ∃ key < config.totalKeyCount, Eligible st key) :
    ∃ key, FirstDeepest config st key := by
  classical
  rcases some with ⟨key, inside, eligible⟩
  let competing :=
    (Finset.range config.totalKeyCount).filter fun key => Eligible st key
  have nonempty : competing.Nonempty :=
    ⟨key, Finset.mem_filter.mpr ⟨Finset.mem_range.mpr inside, eligible⟩⟩
  rcases competing.exists_max_image (depthRatio st) nonempty with
    ⟨deepest, member, best⟩
  have maximal : Deepest config st deepest := by
    rcases Finset.mem_filter.mp member with ⟨small, competes⟩
    refine ⟨Finset.mem_range.mp small, competes, fun other small competes => ?_⟩
    exact
      best other (Finset.mem_filter.mpr ⟨Finset.mem_range.mpr small, competes⟩)
  exact ⟨_, Nat.isLeast_find ⟨deepest, maximal⟩⟩

/-- The loop ends with the first deepest key, if its ratio is positive. -/
theorem raceChoice_maxIndex_iff {key : Nat} :
    (raceChoice config st).maxIndex = some key ↔
      FirstDeepest config st key ∧ 0 < depthRatio st key := by
  have scanned :
      (raceChoice config st).maxIndex =
        (scan (raceScore st) 0 (List.range config.totalKeyCount)).item := by
    rw [← bestOf_raceChoice]
    rfl
  rw [scanned, scan_range_eq_some_iff, FirstDeepest]
  constructor
  · rintro ⟨maximal, least⟩
    rcases maximises_iff.mp maximal with ⟨deepest, positive⟩
    refine ⟨⟨deepest, fun other deep => ?_⟩, positive⟩
    have same := deepest.ratio_eq deep
    exact least (maximises_iff.mpr ⟨deep, same.symm ▸ positive⟩)
  · rintro ⟨⟨deepest, least⟩, positive⟩
    refine ⟨maximises_iff.mpr ⟨deepest, positive⟩, fun other maximal => ?_⟩
    exact least (maximises_iff.mp maximal).1

theorem racePressedKeys_iff {key : Nat} :
    (sendRaceReportIfChanged config st).racePressedKeys key = true ↔
      FirstDeepest config st key ∧ 0 < depthRatio st key := by
  rw [← raceChoice_maxIndex_iff, sendRaceReportIfChanged, sendKbReport]
  split_ifs <;> exact decide_eq_true_iff

end Choice

/-! ## The report of one key -/

section OneKey

variable
    {config : KbHandlerConfig} {settings : KbSettings}
    {pressedKeys : Nat → Bool} {secondLayerActive thirdLayerActive : Bool}
    {totalKeyCount : Nat}

/-- One pressed key types at most one code. -/
theorem typedCodes_length_le
    (only :
      ∀ key other, pressedKeys key = true → pressedKeys other = true →
        key = other) :
    (typedCodes totalKeyCount settings pressedKeys secondLayerActive
        thirdLayerActive).length ≤
      1 := by
  refine (List.length_filter_le _ _).trans ?_
  rw [List.length_map]
  have distinct :
      ((List.range totalKeyCount).filter
        (typed settings pressedKeys)).Nodup :=
    List.nodup_range.filter _
  apply List.nodup_iff_injective_get.mp at distinct
  by_contra many
  have second := Nat.not_le.mp many
  -- two entries of the list are two pressed keys
  have pressed :
      ∀ key ∈ (List.range totalKeyCount).filter (typed settings pressedKeys),
        pressedKeys key = true := by
    intro key member
    have shown := (List.mem_filter.mp member).2
    rw [typed, Bool.and_eq_true] at shown
    exact shown.1
  have same :=
    only _ _ (pressed _ (List.get_mem _ ⟨0, by omega⟩))
      (pressed _ (List.get_mem _ ⟨1, second⟩))
  exact absurd (congrArg Fin.val (distinct same)) Nat.zero_ne_one

/-- The report of one code shows that code only. -/
theorem reportOf_showsAtMostOne
    {reportRollover : Bool} {codes : List UInt8}
    (short : codes.length ≤ 1) :
    ShowsAtMostOne (reportOf reportRollover codes) := by
  match codes, short with
  | [], _ => exact .inl rfl
  | [code], _ =>
      have slots (kept : List UInt8) (few : kept.length ≤ 1) :
          ¬ (kept.length > 6 ∧ reportRollover = true) := fun many => by
        have := many.1
        omega
      cases modifier : isModifier code with
      | true =>
          refine .inr (.inl ⟨code, modifier, ?_⟩)
          have none : distinctKeys [code] = [] := by
            simp [distinctKeys, modifier]
          rw [reportOf, reportSlots, if_neg (slots _ (by simp [none]))]
          simp [modifierByte, modifier, none, YkbFirmware.Library.SlotArray.filled,
            KeySlots.fill]
      | false =>
          refine .inr (.inr ⟨code, modifier, ?_⟩)
          have one : distinctKeys [code] = [code] := by
            simp [distinctKeys, modifier, List.eraseDups_cons]
          rw [reportOf, reportSlots, if_neg (slots _ (by simp [one]))]
          simp [modifierByte, modifier, one, YkbFirmware.Library.SlotArray.filled]

/-- `build_kb_report` of an array with at most one pressed key. -/
theorem buildKbReport_showsAtMostOne
    (only :
      ∀ key other, pressedKeys key = true → pressedKeys other = true →
        key = other) :
    ShowsAtMostOne
      (buildKbReport config settings pressedKeys secondLayerActive
        thirdLayerActive) := by
  rw [buildKbReport_eq_over, buildKbReportOver_eq]
  exact reportOf_showsAtMostOne (typedCodes_length_le only)

end OneKey

/-! ## The specification -/

/-- A built report is sent if it is new. -/
theorem sendKbReport_report (st : KbhRuntimeState) (report : HidKbReport) :
    let after := sendKbReport st report
    after.racePressedKeys = st.racePressedKeys ∧
      after.kbReport = report ∧ after.prevKbReport = report ∧
        after.outputs =
          st.outputs ++
            (if report = st.prevKbReport then
              []
            else
              [.sendKbReport report st.settings.kbhPrio]) := by
  dsimp only
  rw [sendKbReport]
  split_ifs with same
  · exact ⟨rfl, rfl, same.symm, (List.append_nil _).symm⟩
  · exact ⟨rfl, rfl, rfl, rfl⟩

/-- The report built last is that of the race keys. -/
theorem sendRaceReportIfChanged_report
    (config : KbHandlerConfig) (st : KbhRuntimeState) :
    let after := sendRaceReportIfChanged config st
    after.kbReport =
        buildKbReport config st.settings after.racePressedKeys
          st.secondLayerActive st.thirdLayerActive ∧
      after.prevKbReport = after.kbReport ∧
        after.outputs =
          st.outputs ++
            (if after.kbReport = st.prevKbReport then
              []
            else
              [.sendKbReport after.kbReport st.settings.kbhPrio]) := by
  dsimp only
  rw [sendRaceReportIfChanged]
  rcases sendKbReport_report _ _ with ⟨raced, built, previous, sent⟩
  rw [raced, previous, sent, built]
  exact ⟨rfl, rfl, rfl⟩

/--
`send_race_report_if_changed` leaves only the first deepest key among the race
keys if its ratio is positive, and no key otherwise; if any key is eligible,
there is a first deepest one.  The report is built from the race keys, is sent
exactly if it differs from the one sent before, and shows at most one usage or
one modifier.
-/
theorem race_report_specification
    (config : KbHandlerConfig) (st : KbhRuntimeState) :
    let after := sendRaceReportIfChanged config st
    ((∃ key < config.totalKeyCount, Eligible st key) →
        ∃ key, FirstDeepest config st key) ∧
      (∀ key, FirstDeepest config st key → 0 < depthRatio st key →
        ∀ other, after.racePressedKeys other = decide (other = key)) ∧
      ((∀ key, FirstDeepest config st key → depthRatio st key ≤ 0) →
        ∀ other, after.racePressedKeys other = false) ∧
      after.kbReport =
        buildKbReport config st.settings after.racePressedKeys
          st.secondLayerActive st.thirdLayerActive ∧
      after.outputs =
        st.outputs ++
          (if after.kbReport = st.prevKbReport then
            []
          else
            [.sendKbReport after.kbReport st.settings.kbhPrio]) ∧
      after.prevKbReport = after.kbReport ∧
      (Handed st → Handed after) ∧
      ShowsAtMostOne after.kbReport := by
  have report := sendRaceReportIfChanged_report config st
  dsimp only at report ⊢
  rcases report with ⟨built, previous, sent⟩
  refine ⟨exists_firstDeepest, ?_, ?_, built, sent, previous, ?_, ?_⟩
  · intro key deepest positive other
    rw [Bool.eq_iff_iff, racePressedKeys_iff, decide_eq_true_iff]
    constructor
    · exact fun raced => raced.1.unique deepest
    · rintro rfl
      exact ⟨deepest, positive⟩
  · intro shallow other
    rw [Bool.eq_false_iff]
    intro raced
    rcases racePressedKeys_iff.mp raced with ⟨deepest, positive⟩
    exact absurd positive (not_lt.mpr (shallow other deepest))
  · intro handed
    rw [Handed, sent, previous]
    split_ifs with same
    · rw [List.append_nil, same]
      exact handed
    · exact lastKbReport_append_report _ _ _
  · rw [built]
    apply buildKbReport_showsAtMostOne
    intro key other raced alsoRaced
    exact
      (racePressedKeys_iff.mp raced).1.unique
        (racePressedKeys_iff.mp alsoRaced).1

end YkbFirmware.KbHandler.RaceReport
