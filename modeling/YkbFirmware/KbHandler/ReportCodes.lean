import Mathlib.Tactic.IntervalCases
import YkbFirmware.Library.SlotArray
import YkbFirmware.KbHandler.Report

/-!
# What a keyboard report says

The report is a function of one list: the codes of the pressed keys in the
order of the key indices, without the keys of mouse emulation and without the
codes which are no usages.  Its modifier byte collects the modifiers of the
list, and its slots hold the first six distinct other codes.
-/

namespace YkbFirmware.KbHandler.ReportCodes

open YkbFirmware.Library.SlotArray
open YkbFirmware.KbHandler.Settings
open YkbFirmware.KbHandler.Report

/-! ## The codes -/

/-- A pressed key which is not left to mouse emulation. -/
def typed
    (settings : KbSettings) (pressedKeys : Nat → Bool) (key : Nat) : Bool :=
  pressedKeys key &&
    !(decide (settings.mode = .mousesim) &&
      isMouseemuPhysicalKey settings.mouseemu key)

/-- The codes of the keys that are typed, in index order. -/
def typedCodes
    (totalKeyCount : Nat) (settings : KbSettings) (pressedKeys : Nat → Bool)
    (secondLayerActive thirdLayerActive : Bool) : List UInt8 :=
  (((List.range totalKeyCount).filter (typed settings pressedKeys)).map
      fun key =>
        resolveHid settings key secondLayerActive thirdLayerActive).filter
    reportable

/-- The distinct codes which are no modifiers, by first occurrence. -/
def distinctKeys (codes : List UInt8) : List UInt8 :=
  (codes.filter fun code => !isModifier code).eraseDups

def modifierByte (codes : List UInt8) : UInt8 :=
  (codes.filter isModifier).foldl (fun mods code => mods ||| modBit code) 0

/-- Six slots for the distinct codes, or the rollover codes. -/
def reportSlots (reportRollover : Bool) (codes : List UInt8) : KeySlots :=
  if (distinctKeys codes).length > 6 ∧ reportRollover then
    KeySlots.fill 0x01
  else
    ⟨filled 6 0 (distinctKeys codes), length_filled⟩

/-- The report that shows a list of codes. -/
def reportOf (reportRollover : Bool) (codes : List UInt8) : HidKbReport where
  mods := modifierByte codes
  reserved := 0
  keys := reportSlots reportRollover codes

/-! ## Building the report -/

/-- `build_kb_report` for an array of any length. -/
def buildKbReportOver
    (reportRollover : Bool) (totalKeyCount : Nat) (settings : KbSettings)
    (pressedKeys : Nat → Bool) (secondLayerActive thirdLayerActive : Bool) :
    HidKbReport :=
  let built :=
    (List.range totalKeyCount).foldl
      (reportKey settings pressedKeys secondLayerActive thirdLayerActive)
      ⟨HidKbReport.zero, false⟩
  if built.overflow ∧ reportRollover then
    { built.report with keys := KeySlots.fill 0x01 }
  else
    built.report

section Build

variable
    {config : KbHandlerConfig} {reportRollover : Bool}
    {totalKeyCount : Nat} {settings : KbSettings}
    {pressedKeys : Nat → Bool} {secondLayerActive thirdLayerActive : Bool}

theorem buildKbReport_eq_over :
    buildKbReport config settings pressedKeys secondLayerActive
        thirdLayerActive =
      buildKbReportOver config.reportRollover config.totalKeyCount settings
        pressedKeys secondLayerActive thirdLayerActive :=
  rfl

/-- The loop body adds the code of a typed key. -/
theorem reportKey_eq (build : ReportBuild) (key : Nat) :
    reportKey settings pressedKeys secondLayerActive thirdLayerActive build
        key =
      if
          typed settings pressedKeys key = true ∧
            reportable
                (resolveHid settings key secondLayerActive
                  thirdLayerActive) =
              true then
        build.addCode
          (resolveHid settings key secondLayerActive thirdLayerActive)
      else
        build := by
  rw [reportKey]
  cases up : pressedKeys key with
  | false => simp [typed, up]
  | true =>
      by_cases emulated :
          settings.mode = .mousesim ∧
            isMouseemuPhysicalKey settings.mouseemu key = true
      · simp [typed, emulated.1, emulated.2]
      · have shown : typed settings pressedKeys key = true := by
          simpa [typed, up, imp_iff_not_or] using emulated
        cases reported :
            reportable
              (resolveHid settings key secondLayerActive
                thirdLayerActive) <;>
          simp [shown, emulated, reported]

/-- The loop adds the codes of the typed keys one by one. -/
theorem foldl_reportKey_eq (keys : List Nat) (build : ReportBuild) :
    keys.foldl
        (reportKey settings pressedKeys secondLayerActive thirdLayerActive)
        build =
      (((keys.filter (typed settings pressedKeys)).map fun key =>
          resolveHid settings key secondLayerActive
            thirdLayerActive).filter reportable).foldl
        ReportBuild.addCode build := by
  induction keys generalizing build with
  | nil => rfl
  | cons key rest induction =>
      rw [List.foldl_cons, induction, reportKey_eq]
      cases shown : typed settings pressedKeys key with
      | false => simp [shown]
      | true =>
          cases reported :
              reportable
                (resolveHid settings key secondLayerActive
                  thirdLayerActive) <;>
            simp [shown, reported]

/-- `add_key` puts a code into the slots. -/
theorem addKey_eq (keys : KeySlots) (hid : UInt8) :
    (addKey keys hid).1.val = (insertSlot 0 keys.val hid).1 ∧
      (addKey keys hid).2 = (insertSlot 0 keys.val hid).2 := by
  rw [addKey, insertSlot]
  simp only [List.contains_iff_mem, beq_eq_decide]
  split_ifs
  · exact ⟨rfl, rfl⟩
  · cases keys.val.findIdx? fun slot => decide (slot = 0) with
    | none => exact ⟨rfl, rfl⟩
    | some slot => exact ⟨rfl, rfl⟩

/-- Modifiers go to the byte and other codes to the slots. -/
theorem foldl_addCode (codes : List UInt8) (build : ReportBuild) :
    let added := codes.foldl ReportBuild.addCode build
    let slots :=
      insertAll 0 (build.report.keys.val, build.overflow)
        (codes.filter fun code => !isModifier code)
    added.report.mods =
        (codes.filter isModifier).foldl (fun mods code => mods ||| modBit code)
          build.report.mods ∧
      added.report.reserved = build.report.reserved ∧
        added.report.keys.val = slots.1 ∧ added.overflow = slots.2 := by
  induction codes generalizing build with
  | nil => exact ⟨rfl, rfl, rfl, rfl⟩
  | cons code rest induction =>
      have after := induction (build.addCode code)
      cases modifier : isModifier code with
      | true =>
          simp only [ReportBuild.addCode, modifier, if_true] at after
          simpa [List.filter_cons, modifier, ReportBuild.addCode] using after
      | false =>
          have added := addKey_eq build.report.keys code
          simp only [ReportBuild.addCode, modifier, Bool.false_eq_true,
            if_false, added.1, added.2] at after
          simpa [List.filter_cons, modifier, ReportBuild.addCode, insertAll,
            added.2] using after

/-- Codes that are reported are no empty slots. -/
theorem zero_not_mem_typedCodes :
    0 ∉
      typedCodes totalKeyCount settings pressedKeys secondLayerActive
        thirdLayerActive := by
  intro member
  have reported := (List.mem_filter.mp member).2
  exact absurd reported (by decide)

/-- The report shows the codes of the typed keys. -/
theorem buildKbReportOver_eq :
    buildKbReportOver reportRollover totalKeyCount settings pressedKeys
        secondLayerActive thirdLayerActive =
      reportOf reportRollover
        (typedCodes totalKeyCount settings pressedKeys secondLayerActive
          thirdLayerActive) := by
  have clean :=
    @zero_not_mem_typedCodes totalKeyCount settings pressedKeys
      secondLayerActive thirdLayerActive
  rw [buildKbReportOver, foldl_reportKey_eq, ← typedCodes]
  generalize
    typedCodes totalKeyCount settings pressedKeys secondLayerActive
      thirdLayerActive = codes at clean ⊢
  have keysClean : 0 ∉ codes.filter fun code => !isModifier code :=
    fun member => clean (List.mem_of_mem_filter member)
  rcases foldl_addCode codes ⟨HidKbReport.zero, false⟩ with
    ⟨mods, reserved, keys, overflow⟩
  rw [show HidKbReport.zero.keys.val = List.replicate 6 0 from rfl,
    insertAll_empty keysClean, ← distinctKeys] at keys overflow
  dsimp only
  generalize
    codes.foldl ReportBuild.addCode ⟨HidKbReport.zero, false⟩ = built
    at mods reserved keys overflow ⊢
  rcases built with ⟨⟨builtMods, builtReserved, builtKeys⟩, builtOverflow⟩
  dsimp only at mods reserved keys overflow ⊢
  subst overflow mods reserved
  simp only [reportOf, reportSlots, decide_eq_true_eq]
  split_ifs
  · rfl
  · congr 1
    exact Subtype.ext keys

end Build

/-! ## Modifiers -/

/-- The place of a modifier in the modifier byte. -/
def modifierBit (code : UInt8) : Nat :=
  (code - keyLeftcontrol).toNat

theorem modBit_toNat {code : UInt8} (modifier : isModifier code = true) :
    (modBit code).toNat = 2 ^ modifierBit code ∧
      code = keyLeftcontrol + UInt8.ofNat (modifierBit code) := by
  have range := of_decide_eq_true modifier
  have lower := UInt8.le_iff_toNat_le.mp range.1
  have upper := UInt8.le_iff_toNat_le.mp range.2
  have shape : UInt8.ofNat code.toNat = code := UInt8.ofNat_toNat
  simp only [keyLeftcontrol, keyRightgui, UInt8.reduceToNat] at lower upper
  generalize code.toNat = value at lower upper shape
  subst shape
  interval_cases value <;> exact ⟨by decide, by decide⟩

/-- Each modifier has a bit of its own. -/
theorem modBit_testBit
    {code other : UInt8}
    (modifier : isModifier code = true)
    (otherModifier : isModifier other = true) :
    (modBit other).toNat.testBit (modifierBit code) = true ↔
      other = code := by
  rw [(modBit_toNat otherModifier).1, Nat.testBit_two_pow, decide_eq_true_eq]
  constructor
  · intro same
    rw [(modBit_toNat otherModifier).2, same]
    exact (modBit_toNat modifier).2.symm
  · rintro rfl
    rfl

/-- A bit of the modifier byte is set by the code it belongs to. -/
theorem modifierByte_testBit
    {code : UInt8} (modifier : isModifier code = true)
    (codes : List UInt8) :
    (modifierByte codes).toNat.testBit (modifierBit code) = true ↔
      code ∈ codes := by
  rw [modifierByte]
  induction codes using List.reverseRecOn with
  | nil => simp
  | append_singleton codes other induction =>
      rw [List.filter_append, List.foldl_append, List.mem_append,
        List.mem_singleton, ← induction]
      cases otherModifier : isModifier other with
      | false =>
          have different : code ≠ other := by
            rintro rfl
            exact absurd (modifier.symm.trans otherModifier) (by decide)
          simp [otherModifier, different]
      | true =>
          rw [List.filter_cons_of_pos otherModifier, List.filter_nil,
            List.foldl_cons, List.foldl_nil, UInt8.toNat_or,
            Nat.testBit_or, Bool.or_eq_true]
          exact
            or_congr_right
              ((modBit_testBit modifier otherModifier).trans eq_comm)

/-- Modifier bytes agree if they are of the same modifiers. -/
theorem modifierByte_eq_iff {codes others : List UInt8} :
    modifierByte codes = modifierByte others ↔
      ∀ code, isModifier code = true → (code ∈ codes ↔ code ∈ others) := by
  constructor
  · intro same code modifier
    rw [← modifierByte_testBit modifier, same, modifierByte_testBit modifier]
  · intro same
    apply UInt8.toNat_inj.mp
    apply Nat.eq_of_testBit_eq
    intro bit
    by_cases inside : bit < 8
    · -- the eight bits are those of the eight modifiers
      have named :
          ∃ code, isModifier code = true ∧ modifierBit code = bit := by
        refine ⟨keyLeftcontrol + UInt8.ofNat bit, ?_⟩
        interval_cases bit <;> decide
      rcases named with ⟨code, modifier, rfl⟩
      rw [Bool.eq_iff_iff, modifierByte_testBit modifier,
        modifierByte_testBit modifier]
      exact same code modifier
    · have beyond :
          ∀ byte : UInt8, byte.toNat.testBit bit = false := by
        intro byte
        apply Nat.testBit_lt_two_pow
        exact
          byte.toNat_lt.trans_le
            (Nat.pow_le_pow_right (by decide) (Nat.not_lt.mp inside))
      rw [beyond, beyond]

/-! ## Slots -/

theorem reportSlots_val (reportRollover : Bool) (codes : List UInt8) :
    (reportSlots reportRollover codes).val =
      if (distinctKeys codes).length ≤ 6 then
        distinctKeys codes ++
          List.replicate (6 - (distinctKeys codes).length) 0
      else if reportRollover then
        List.replicate 6 0x01
      else
        (distinctKeys codes).take 6 := by
  rw [reportSlots]
  by_cases fits : (distinctKeys codes).length ≤ 6
  · rw [if_neg fun overflow => absurd overflow.1 (Nat.not_lt.mpr fits),
      if_pos fits]
    exact filled_of_le fits
  · have overflow := Nat.not_le.mp fits
    rw [if_neg fits]
    cases reportRollover with
    | true =>
        rw [if_pos ⟨overflow, rfl⟩, if_pos rfl]
        rfl
    | false =>
        rw [if_neg fun rollover => Bool.false_ne_true rollover.2,
          if_neg Bool.false_ne_true]
        exact filled_of_ge (Nat.le_of_lt overflow)

/-- No usage is in two slots, unless they hold the rollover codes. -/
theorem reportSlots_nodup
    {reportRollover : Bool} {codes : List UInt8}
    (regular :
      ¬ (6 < (distinctKeys codes).length ∧ reportRollover = true)) :
    ((reportSlots reportRollover codes).val.filter fun slot =>
      slot ≠ 0).Nodup := by
  have distinct := nodup_eraseDups (codes.filter fun code => !isModifier code)
  rw [reportSlots, if_neg regular]
  have empty :
      (List.replicate (6 - (distinctKeys codes).length) (0 : UInt8)).filter
          (fun slot => slot ≠ 0) =
        [] := by
    simp
  dsimp only
  rw [filled, List.filter_append, empty, List.append_nil]
  exact (distinct.sublist (List.take_sublist 6 _)).filter _

/-! ## Equal reports -/

/--
Both lists show in the same way: they have the same modifiers, and the slots
overflow alike or hold the same codes.
-/
structure SameUsages
    (reportRollover : Bool) (codes others : List UInt8) : Prop where
  modifiers : ∀ code, isModifier code = true →
    (code ∈ codes ↔ code ∈ others)
  keys :
    if 6 < (distinctKeys codes).length ∧ reportRollover = true then
      6 < (distinctKeys others).length
    else
      (distinctKeys codes).take 6 = (distinctKeys others).take 6

section Usages

variable {reportRollover : Bool} {codes others : List UInt8}

theorem distinctKeys_length_le (subset : others ⊆ codes) :
    (distinctKeys others).length ≤ (distinctKeys codes).length := by
  apply List.Nodup.length_le_of_subset (nodup_eraseDups _)
  intro code member
  simp only [distinctKeys, List.mem_eraseDups, List.mem_filter] at member ⊢
  exact member.imp_left fun inside => subset inside

theorem zero_not_mem_distinctKeys (clean : 0 ∉ codes) :
    0 ∉ distinctKeys codes := by
  intro member
  exact clean (List.mem_of_mem_filter (List.mem_eraseDups.mp member))

/-- The rollover codes are no six distinct codes. -/
theorem filled_ne_rollover :
    filled 6 0 (distinctKeys codes) ≠ List.replicate 6 0x01 := by
  intro same
  have distinct : ((distinctKeys codes).take 6).Nodup :=
    (nodup_eraseDups _).sublist (List.take_sublist 6 _)
  have full : (distinctKeys codes).take 6 = List.replicate 6 0x01 := by
    by_cases short : (distinctKeys codes).length < 6
    · have last : (0 : UInt8) ∈ filled 6 0 (distinctKeys codes) := by
        rw [filled, List.mem_append, List.mem_replicate]
        exact .inr ⟨by omega, rfl⟩
      rw [same] at last
      exact absurd (List.eq_of_mem_replicate last) (by decide)
    · rw [← filled_of_ge (Nat.not_lt.mp short), same]
  rw [full] at distinct
  exact absurd distinct (by decide)

/-- Codes and a part of them show alike exactly if they have the same usages. -/
theorem reportOf_eq_iff (clean : 0 ∉ codes) (subset : others ⊆ codes) :
    reportOf reportRollover codes = reportOf reportRollover others ↔
      SameUsages reportRollover codes others := by
  have slots :
      reportSlots reportRollover codes = reportSlots reportRollover others ↔
        if 6 < (distinctKeys codes).length ∧ reportRollover = true then
          6 < (distinctKeys others).length
        else
          (distinctKeys codes).take 6 = (distinctKeys others).take 6 := by
    have fewer := distinctKeys_length_le subset
    have sameSlots :
        filled 6 0 (distinctKeys codes) = filled 6 0 (distinctKeys others) ↔
          (distinctKeys codes).take 6 = (distinctKeys others).take 6 :=
      filled_eq_filled_iff (zero_not_mem_distinctKeys clean)
        (zero_not_mem_distinctKeys fun member => clean (subset member))
    rw [reportSlots, reportSlots]
    by_cases overflow :
        6 < (distinctKeys codes).length ∧ reportRollover = true
    · rw [if_pos overflow, if_pos overflow]
      by_cases stays : 6 < (distinctKeys others).length
      · rw [if_pos ⟨stays, overflow.2⟩]
        exact iff_of_true rfl stays
      · rw [if_neg fun other => stays other.1]
        apply iff_of_false _ stays
        intro same
        exact filled_ne_rollover (congrArg Subtype.val same).symm
    · rw [if_neg overflow, if_neg overflow,
        if_neg fun other => overflow ⟨other.1.trans_le fewer, other.2⟩]
      exact Subtype.ext_iff.trans sameSlots
  constructor
  · intro same
    exact
      ⟨modifierByte_eq_iff.mp (congrArg HidKbReport.mods same),
        slots.mp (congrArg HidKbReport.keys same)⟩
  · intro same
    rw [reportOf, reportOf, modifierByte_eq_iff.mpr same.modifiers,
      slots.mpr same.keys]

end Usages

/-! ## The specification -/

/--
Of an array of any length, `build_kb_report` shows the modifiers among the
typed codes in the modifier byte and the distinct other codes in the slots:
all of them if there are at most six, else the rollover codes or the first
six.  No usage shows twice, and nothing but the typed codes matters.
-/
theorem keyboard_report_specification
    (reportRollover : Bool) (totalKeyCount : Nat) (settings : KbSettings)
    (pressedKeys : Nat → Bool) (secondLayerActive thirdLayerActive : Bool) :
    let codes :=
      typedCodes totalKeyCount settings pressedKeys secondLayerActive
        thirdLayerActive
    let distinct := (codes.filter fun code => !isModifier code).eraseDups
    let report :=
      buildKbReportOver reportRollover totalKeyCount settings pressedKeys
        secondLayerActive thirdLayerActive
    (∀ code, isModifier code = true →
        (report.mods.toNat.testBit (code - keyLeftcontrol).toNat = true ↔
          code ∈ codes)) ∧
      report.keys.val =
        (if distinct.length ≤ 6 then
          distinct ++ List.replicate (6 - distinct.length) 0
        else if reportRollover then
          List.replicate 6 0x01
        else
          distinct.take 6) ∧
      (¬ (6 < distinct.length ∧ reportRollover = true) →
        (report.keys.val.filter fun slot => slot ≠ 0).Nodup) ∧
      ∀ (otherCount : Nat) (otherSettings : KbSettings)
        (otherPressed : Nat → Bool) (otherSecond otherThird : Bool),
        typedCodes otherCount otherSettings otherPressed otherSecond
            otherThird =
          codes →
        buildKbReportOver reportRollover otherCount otherSettings
            otherPressed otherSecond otherThird =
          report := by
  dsimp only
  simp only [buildKbReportOver_eq]
  refine ⟨?_, ?_, ?_, ?_⟩
  · intro code modifier
    exact modifierByte_testBit modifier _
  · exact reportSlots_val reportRollover _
  · exact reportSlots_nodup
  · intro otherCount otherSettings otherPressed otherSecond otherThird same
    rw [same]

end YkbFirmware.KbHandler.ReportCodes
