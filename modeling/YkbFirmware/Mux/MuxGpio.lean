import Mathlib.Data.List.Nodup
import Mathlib.Logic.Function.Basic
import Mathlib.Tactic.SplitIfs
import YkbFirmware.Library.TransitionSystem

/-!
# Multiplexers behind GPIO pins

A multiplexer has select pins, which carry the number of a channel in binary
or a pattern from a table, and it may have an enable pin.  The driver
remembers the channel selected last and whether the multiplexer is enabled.

A write to a pin can fail, and then some pins already carry the new channel
while the driver remembers the old one.  The next selection that succeeds
writes all pins again.
-/

namespace YkbFirmware.Mux.MuxGpio

open YkbFirmware.Library.TransitionSystem

variable {Pin : Type} [DecidableEq Pin]

def einval : Int := 22

def enodev : Int := 19

/-! ## The driver -/

/--
`struct mux_gpio_config`, with what the definition of a device asserts and
how it counts the channels of a table.
-/
structure MuxGpioConfig (Pin : Type) where
  sel : List Pin
  en : Option Pin
  idleChan : Option UInt16
  channels : UInt16
  channelMap : Option (List UInt32)
  someChannel : 0 < channels
  fewPins : sel.length < 32
  mapLength : ∀ table ∈ channelMap, table.length = channels.toNat

/-- `struct mux_gpio_data` -/
structure MuxGpioData where
  current : UInt16
  enabled : Bool
deriving DecidableEq, Repr

/-- The pins of the board, active or not, with what one driver remembers. -/
structure MuxGpioState (Pin : Type) where
  levels : Pin → Bool
  data : MuxGpioData

/-- What is driven for a channel. -/
def MuxGpioConfig.pattern (cfg : MuxGpioConfig Pin) (channel : Nat) : Nat :=
  match cfg.channelMap with
  | some table => (table.getD channel 0).toNat
  | none => channel

/--
`drive_bits` from the pin with the given number on; `answers` are the results
of `gpio_pin_set_dt`, and a pin that cannot be set keeps its level.
-/
def driveBits (answers : Nat → Int) (pattern : Nat) :
    Nat → List Pin → (Pin → Bool) → Int × (Pin → Bool)
  | _, [], levels => (0, levels)
  | i, pin :: rest, levels =>
      if answers i ≠ 0 then
        (answers i, levels)
      else
        driveBits answers pattern (i + 1) rest
          (Function.update levels pin (pattern.testBit i))

section Calls

variable (cfg : MuxGpioConfig Pin) (answers : Nat → Int)

/-- `mux_gpio_select` -/
def muxGpioSelect (st : MuxGpioState Pin) (channel : Nat) :
    Int × MuxGpioState Pin :=
  if cfg.channels.toNat ≤ channel then
    (-einval, st)
  else
    let driven := driveBits answers (cfg.pattern channel) 0 cfg.sel st.levels
    if driven.1 ≠ 0 then
      (driven.1, { st with levels := driven.2 })
    else
      (0, ⟨driven.2, { st.data with current := UInt16.ofNat channel }⟩)

/-- `mux_gpio_select_next` -/
def muxGpioSelectNext (st : MuxGpioState Pin) : Int × MuxGpioState Pin :=
  muxGpioSelect cfg answers st
    ((st.data.current.toNat + 1) % cfg.channels.toNat)

/-- `mux_gpio_enable`; `err` is the result of `gpio_pin_set_dt`. -/
def muxGpioEnable (err : Int) (st : MuxGpioState Pin) :
    Int × MuxGpioState Pin :=
  if st.data.enabled then
    (0, st)
  else
    match cfg.en with
    | none => (0, { st with data := { st.data with enabled := true } })
    | some pin =>
        if err ≠ 0 then
          (err, st)
        else
          (0, ⟨Function.update st.levels pin true,
            { st.data with enabled := true }⟩)

/-- The selection of the idle channel, if there is one. -/
def selectIdle (st : MuxGpioState Pin) : Int × MuxGpioState Pin :=
  match cfg.idleChan with
  | none => (0, st)
  | some channel => muxGpioSelect cfg answers st channel.toNat

/-- `mux_gpio_disable` -/
def muxGpioDisable (err : Int) (st : MuxGpioState Pin) :
    Int × MuxGpioState Pin :=
  if st.data.enabled = false then
    (0, st)
  else
    let idle := selectIdle cfg answers st
    if idle.1 ≠ 0 then
      idle
    else
      match cfg.en with
      | none =>
          (0, { idle.2 with data := { idle.2.data with enabled := false } })
      | some pin =>
          if err ≠ 0 then
            (err, idle.2)
          else
            (0, ⟨Function.update idle.2.levels pin false,
              { idle.2.data with enabled := false }⟩)

end Calls

/-- The answers to the calls of `mux_gpio_init`. -/
structure InitAnswers where
  selReady : Nat → Bool
  selConfigure : Nat → Int
  enReady : Bool
  enConfigure : Int
  selSet : Nat → Int

/-- The loop of `mux_gpio_init` over the select pins. -/
def configureSel (answers : InitAnswers) :
    Nat → List Pin → (Pin → Bool) → Int × (Pin → Bool)
  | _, [], levels => (0, levels)
  | i, pin :: rest, levels =>
      if answers.selReady i = false then
        (-enodev, levels)
      else if answers.selConfigure i ≠ 0 then
        (answers.selConfigure i, levels)
      else
        configureSel answers (i + 1) rest (Function.update levels pin false)

/-- The part of `mux_gpio_init` about the enable pin. -/
def configureEn
    (cfg : MuxGpioConfig Pin) (answers : InitAnswers)
    (st : MuxGpioState Pin) : Int × MuxGpioState Pin :=
  match cfg.en with
  | none => (0, { st with data := { st.data with enabled := true } })
  | some pin =>
      if answers.enReady = false then
        (-enodev, st)
      else if answers.enConfigure ≠ 0 then
        (answers.enConfigure, st)
      else
        (0, ⟨Function.update st.levels pin false,
          { st.data with enabled := false }⟩)

/-- `mux_gpio_init` -/
def muxGpioInit
    (cfg : MuxGpioConfig Pin) (answers : InitAnswers)
    (st : MuxGpioState Pin) : Int × MuxGpioState Pin :=
  let sel := configureSel answers 0 cfg.sel st.levels
  if sel.1 ≠ 0 then
    (sel.1, { st with levels := sel.2 })
  else
    let en := configureEn cfg answers { st with levels := sel.2 }
    if en.1 ≠ 0 then
      en
    else
      muxGpioSelect cfg answers.selSet en.2
        ((cfg.idleChan.getD 0).toNat)

/-! ## What a call does -/

/-- The select pins carry the pattern of the channel. -/
def Carries
    (cfg : MuxGpioConfig Pin) (levels : Pin → Bool) (channel : Nat) : Prop :=
  ∀ (k : Nat) (pin : Pin), cfg.sel[k]? = some pin →
    levels pin = (cfg.pattern channel).testBit k

theorem driveBits_other
    (answers : Nat → Int) (pattern : Nat) {sel : List Pin} {pin : Pin}
    (other : pin ∉ sel) (i : Nat) (levels : Pin → Bool) :
    (driveBits answers pattern i sel levels).2 pin = levels pin := by
  induction sel generalizing i levels with
  | nil => rfl
  | cons first rest induction =>
      rw [List.mem_cons, not_or] at other
      rw [driveBits]
      split_ifs with failed
      · rfl
      · rw [induction other.2, Function.update_of_ne other.1]

/-- When every pin could be set, each carries its bit. -/
theorem driveBits_set
    {answers : Nat → Int} {pattern i : Nat} {sel : List Pin}
    {levels : Pin → Bool} (distinct : sel.Nodup)
    (driven : (driveBits answers pattern i sel levels).1 = 0)
    {k : Nat} {pin : Pin} (isPin : sel[k]? = some pin) :
    (driveBits answers pattern i sel levels).2 pin =
      pattern.testBit (i + k) := by
  induction sel generalizing i k levels with
  | nil => cases isPin
  | cons first rest induction =>
      rcases List.nodup_cons.mp distinct with ⟨notAgain, distinctRest⟩
      rw [driveBits] at driven ⊢
      split_ifs at driven ⊢ with failed
      · exact absurd driven failed
      · cases k with
        | zero =>
            cases isPin
            rw [driveBits_other answers pattern notAgain, Nat.add_zero,
              Function.update_self]
        | succ k =>
            rw [List.getElem?_cons_succ] at isPin
            rw [induction distinctRest driven isPin, Nat.add_right_comm,
              Nat.add_assoc]

section Select

variable
    {cfg : MuxGpioConfig Pin} {answers : Nat → Int} {st : MuxGpioState Pin}
    {channel : Nat}

/-- A selection that succeeds. -/
theorem muxGpioSelect_ok
    (distinct : cfg.sel.Nodup)
    (ok : (muxGpioSelect cfg answers st channel).1 = 0) :
    channel < cfg.channels.toNat ∧
      (muxGpioSelect cfg answers st channel).2.data =
        { st.data with current := UInt16.ofNat channel } ∧
      Carries cfg (muxGpioSelect cfg answers st channel).2.levels channel := by
  rw [muxGpioSelect] at ok ⊢
  dsimp only at ok ⊢
  split_ifs at ok ⊢ with outside failed
  · cases ok
  · exact absurd ok failed
  · refine ⟨Nat.lt_of_not_le outside, rfl, fun k pin isPin => ?_⟩
    have carried := driveBits_set distinct (not_not.mp failed) isPin
    rwa [Nat.zero_add] at carried

theorem muxGpioSelect_failed
    (failed : (muxGpioSelect cfg answers st channel).1 ≠ 0) :
    (muxGpioSelect cfg answers st channel).2.data = st.data := by
  rw [muxGpioSelect] at failed ⊢
  dsimp only at failed ⊢
  split_ifs at failed ⊢
  · rfl
  · rfl
  · exact absurd rfl failed

theorem muxGpioSelect_other {pin : Pin} (other : pin ∉ cfg.sel) :
    (muxGpioSelect cfg answers st channel).2.levels pin = st.levels pin := by
  rw [muxGpioSelect]
  dsimp only
  split_ifs
  · rfl
  · exact driveBits_other _ _ other _ _
  · exact driveBits_other _ _ other _ _

theorem muxGpioSelect_enabled :
    (muxGpioSelect cfg answers st channel).2.data.enabled =
      st.data.enabled := by
  rw [muxGpioSelect]
  dsimp only
  split_ifs <;> rfl

end Select

/-! ## A device -/

/-- The calls of a driver, each with the answers it gets. -/
inductive MuxCall where
  | init (answers : InitAnswers)
  | select (channel : Nat) (answers : Nat → Int)
  | selectNext (answers : Nat → Int)
  | enable (err : Int)
  | disable (answers : Nat → Int) (err : Int)

def MuxCall.perform (cfg : MuxGpioConfig Pin) (st : MuxGpioState Pin) :
    MuxCall → Int × MuxGpioState Pin
  | .init answers => muxGpioInit cfg answers st
  | .select channel answers => muxGpioSelect cfg answers st channel
  | .selectNext answers => muxGpioSelectNext cfg answers st
  | .enable err => muxGpioEnable cfg err st
  | .disable answers err => muxGpioDisable cfg answers err st

/-- The result of the selection that a call makes, if it makes one. -/
def MuxCall.selection (cfg : MuxGpioConfig Pin) (st : MuxGpioState Pin) :
    MuxCall → Option Int
  | .init answers => some (muxGpioInit cfg answers st).1
  | .select channel answers => some (muxGpioSelect cfg answers st channel).1
  | .selectNext answers => some (muxGpioSelectNext cfg answers st).1
  | .enable _ => none
  | .disable answers _ =>
      if st.data.enabled = false then
        none
      else
        cfg.idleChan.map fun channel =>
          (muxGpioSelect cfg answers st channel.toNat).1

/-- What is remembered is a channel, and the level of the enable pin. -/
structure Told (cfg : MuxGpioConfig Pin) (st : MuxGpioState Pin) : Prop where
  current : st.data.current < cfg.channels
  enabled : ∀ pin, cfg.en = some pin → st.levels pin = st.data.enabled

/-- The select pins carry the channel that is remembered. -/
def Carried (cfg : MuxGpioConfig Pin) (st : MuxGpioState Pin) : Prop :=
  Carries cfg st.levels st.data.current.toNat

section Device

variable {cfg : MuxGpioConfig Pin} {st : MuxGpioState Pin}

omit [DecidableEq Pin] in
theorem selected_current
    {channel : Nat} (inside : channel < cfg.channels.toNat) :
    (UInt16.ofNat channel).toNat = channel :=
  Nat.mod_eq_of_lt (Nat.lt_trans inside cfg.channels.toNat_lt)

/-- A selection that succeeds leaves its channel on the pins. -/
theorem select_carried
    (distinct : cfg.sel.Nodup) {answers : Nat → Int} {channel : Nat}
    (ok : (muxGpioSelect cfg answers st channel).1 = 0) :
    Carried cfg (muxGpioSelect cfg answers st channel).2 := by
  rcases muxGpioSelect_ok distinct ok with ⟨inside, data, carries⟩
  rw [Carried, data, selected_current inside]
  exact carries

theorem select_told
    (apart : ∀ pin, cfg.en = some pin → pin ∉ cfg.sel)
    (distinct : cfg.sel.Nodup) {answers : Nat → Int} {channel : Nat}
    (enabled : ∀ pin, cfg.en = some pin → st.levels pin = st.data.enabled)
    (possible :
      (muxGpioSelect cfg answers st channel).1 ≠ 0 →
        st.data.current < cfg.channels) :
    Told cfg (muxGpioSelect cfg answers st channel).2 := by
  refine ⟨?_, fun pin isEn => ?_⟩
  · by_cases ok : (muxGpioSelect cfg answers st channel).1 = 0
    · rcases muxGpioSelect_ok distinct ok with ⟨inside, data, _⟩
      rw [data, UInt16.lt_iff_toNat_lt]
      dsimp only
      rwa [selected_current inside]
    · rw [muxGpioSelect_failed ok]
      exact possible ok
  · rw [muxGpioSelect_other (apart pin isEn), muxGpioSelect_enabled]
    exact enabled pin isEn

/-- The idle channel is selected like any other. -/
theorem selectIdle_told
    (apart : ∀ pin, cfg.en = some pin → pin ∉ cfg.sel)
    (distinct : cfg.sel.Nodup) {answers : Nat → Int} (told : Told cfg st) :
    Told cfg (selectIdle cfg answers st).2 := by
  rw [selectIdle]
  cases cfg.idleChan with
  | none => exact told
  | some channel =>
      exact select_told apart distinct told.enabled fun _ => told.current

theorem enable_told
    {err : Int} (told : Told cfg st) :
    Told cfg (muxGpioEnable cfg err st).2 := by
  rw [muxGpioEnable]
  split
  · exact told
  · split
    · rename_i noEn
      exact ⟨told.current, fun pin isEn => by rw [noEn] at isEn; cases isEn⟩
    · rename_i pin isPin
      split_ifs
      · exact told
      · refine ⟨told.current, fun other isEn => ?_⟩
        cases isPin.symm.trans isEn
        exact Function.update_self _ _ _

theorem disable_told
    (apart : ∀ pin, cfg.en = some pin → pin ∉ cfg.sel)
    (distinct : cfg.sel.Nodup) {answers : Nat → Int} {err : Int}
    (told : Told cfg st) :
    Told cfg (muxGpioDisable cfg answers err st).2 := by
  have idle : Told cfg (selectIdle cfg answers st).2 :=
    selectIdle_told apart distinct told
  rw [muxGpioDisable]
  dsimp only
  split
  · exact told
  · split
    · exact idle
    · split
      · rename_i noEn
        exact ⟨idle.current, fun pin isEn => by rw [noEn] at isEn; cases isEn⟩
      · rename_i pin isPin
        split
        · exact idle
        · refine ⟨idle.current, fun other isEn => ?_⟩
          cases isPin.symm.trans isEn
          exact Function.update_self _ _ _

/-- The pins are set up with the enable pin as it is remembered. -/
theorem configureEn_enabled
    {answers : InitAnswers} (ok : (configureEn cfg answers st).1 = 0)
    {pin : Pin} (isEn : cfg.en = some pin) :
    (configureEn cfg answers st).2.levels pin =
      (configureEn cfg answers st).2.data.enabled := by
  rw [configureEn, isEn] at ok ⊢
  dsimp only at ok ⊢
  split_ifs at ok ⊢ with unready failed
  · cases ok
  · exact absurd ok failed
  · exact Function.update_self _ _ _

/-- An initialisation that succeeds ends with a selection. -/
theorem init_ok
    {answers : InitAnswers} (ok : (muxGpioInit cfg answers st).1 = 0) :
    ∃ before : MuxGpioState Pin,
      (∀ pin, cfg.en = some pin → before.levels pin = before.data.enabled) ∧
        muxGpioInit cfg answers st =
          muxGpioSelect cfg answers.selSet before
            (cfg.idleChan.getD 0).toNat := by
  rw [muxGpioInit] at ok ⊢
  dsimp only at ok ⊢
  split_ifs at ok ⊢ with selFailed enFailed
  · exact absurd ok selFailed
  · exact absurd ok enFailed
  · exact ⟨_, fun pin => configureEn_enabled (not_not.mp enFailed), rfl⟩

theorem init_told
    (apart : ∀ pin, cfg.en = some pin → pin ∉ cfg.sel)
    (distinct : cfg.sel.Nodup) {answers : InitAnswers}
    (ok : (muxGpioInit cfg answers st).1 = 0) :
    Told cfg (muxGpioInit cfg answers st).2 := by
  rcases init_ok ok with ⟨before, enabled, selects⟩
  rw [selects] at ok ⊢
  exact select_told apart distinct enabled fun failed => absurd ok failed

/-- The calls of a device that is ready. -/
theorem perform_told
    (apart : ∀ pin, cfg.en = some pin → pin ∉ cfg.sel)
    (distinct : cfg.sel.Nodup) {call : MuxCall}
    (noInit : ∀ answers, call ≠ .init answers) (told : Told cfg st) :
    Told cfg (call.perform cfg st).2 := by
  cases call with
  | init answers => exact absurd rfl (noInit answers)
  | select channel answers =>
      exact select_told apart distinct told.enabled fun _ => told.current
  | selectNext answers =>
      exact select_told apart distinct told.enabled fun _ => told.current
  | enable err => exact enable_told told
  | disable answers err => exact disable_told apart distinct told

/-! ### The select pins -/

/-- The enable pin is not a select pin. -/
theorem carried_update
    (apart : ∀ pin, cfg.en = some pin → pin ∉ cfg.sel)
    {pin : Pin} (isEn : cfg.en = some pin) {level enabled : Bool}
    (carried : Carried cfg st) :
    Carried cfg
      ⟨Function.update st.levels pin level,
        { st.data with enabled := enabled }⟩ := by
  intro k other isSel
  have differs : other ≠ pin := by
    rintro rfl
    exact apart other isEn (List.mem_of_getElem? isSel)
  exact (Function.update_of_ne differs _ _).trans (carried k other isSel)

theorem enable_carried
    (apart : ∀ pin, cfg.en = some pin → pin ∉ cfg.sel)
    {err : Int} (carried : Carried cfg st) :
    Carried cfg (muxGpioEnable cfg err st).2 := by
  rw [muxGpioEnable]
  split
  · exact carried
  · split
    · exact carried
    · rename_i pin isEn
      split
      · exact carried
      · exact carried_update apart isEn carried

/-- Disabling leaves on the pins what the idle channel does. -/
theorem disable_carried
    (apart : ∀ pin, cfg.en = some pin → pin ∉ cfg.sel)
    {answers : Nat → Int} {err : Int}
    (carried : st.data.enabled = false → Carried cfg st)
    (idle : Carried cfg (selectIdle cfg answers st).2) :
    Carried cfg (muxGpioDisable cfg answers err st).2 := by
  rw [muxGpioDisable]
  dsimp only
  split
  · exact carried ‹_›
  · split
    · exact idle
    · split
      · exact idle
      · rename_i pin isEn
        split
        · exact idle
        · exact carried_update apart isEn idle

/-- A call with a selection that succeeds. -/
theorem perform_selects
    (apart : ∀ pin, cfg.en = some pin → pin ∉ cfg.sel)
    (distinct : cfg.sel.Nodup) {call : MuxCall}
    (selects : call.selection cfg st = some 0) :
    Carried cfg (call.perform cfg st).2 := by
  cases call with
  | init answers =>
      have ok := Option.some.inj selects
      rcases init_ok ok with ⟨before, _, selects⟩
      rw [MuxCall.perform]
      rw [selects] at ok ⊢
      exact select_carried distinct ok
  | select channel answers =>
      exact select_carried distinct (Option.some.inj selects)
  | selectNext answers =>
      exact select_carried distinct (Option.some.inj selects)
  | enable err => cases selects
  | disable answers err =>
      rw [MuxCall.selection] at selects
      split at selects
      · cases selects
      · rename_i enabled
        rcases Option.map_eq_some_iff.mp selects with ⟨channel, isIdle, ok⟩
        refine disable_carried apart (fun off => absurd off enabled) ?_
        rw [selectIdle, isIdle]
        exact select_carried distinct ok

/-- A call without a selection. -/
theorem perform_keeps
    (apart : ∀ pin, cfg.en = some pin → pin ∉ cfg.sel) {call : MuxCall}
    (none : call.selection cfg st = none) (carried : Carried cfg st) :
    Carried cfg (call.perform cfg st).2 := by
  cases call with
  | init answers => cases none
  | select channel answers => cases none
  | selectNext answers => cases none
  | enable err => exact enable_carried apart carried
  | disable answers err =>
      rw [MuxCall.selection] at none
      split at none
      · rename_i off
        rw [MuxCall.perform, muxGpioDisable, if_pos off]
        exact carried
      · have noIdle := Option.map_eq_none_iff.mp none
        refine disable_carried apart (fun _ => carried) ?_
        rw [selectIdle, noIdle]
        exact carried

/-! ### The other pins -/

theorem configureSel_other
    (answers : InitAnswers) {sel : List Pin} {pin : Pin}
    (other : pin ∉ sel) (i : Nat) (levels : Pin → Bool) :
    (configureSel answers i sel levels).2 pin = levels pin := by
  induction sel generalizing i levels with
  | nil => rfl
  | cons first rest induction =>
      rw [List.mem_cons, not_or] at other
      rw [configureSel]
      split_ifs with unready failed
      · rfl
      · rfl
      · rw [induction other.2, Function.update_of_ne other.1]

theorem update_en_other
    {en pin : Pin} (isEn : cfg.en = some en) (other : cfg.en ≠ some pin)
    (levels : Pin → Bool) (level : Bool) :
    Function.update levels en level pin = levels pin := by
  refine Function.update_of_ne ?_ _ _
  rintro rfl
  exact other isEn

theorem configureEn_other
    {answers : InitAnswers} {pin : Pin} (other : cfg.en ≠ some pin) :
    (configureEn cfg answers st).2.levels pin = st.levels pin := by
  rw [configureEn]
  split
  · rfl
  · rename_i en isEn
    split_ifs
    · rfl
    · rfl
    · exact update_en_other isEn other _ _

theorem selectIdle_other
    {answers : Nat → Int} {pin : Pin} (other : pin ∉ cfg.sel) :
    (selectIdle cfg answers st).2.levels pin = st.levels pin := by
  rw [selectIdle]
  split
  · rfl
  · exact muxGpioSelect_other other

/-- A driver leaves the pins of others alone. -/
theorem perform_other
    (call : MuxCall) {pin : Pin} (noSel : pin ∉ cfg.sel)
    (noEn : cfg.en ≠ some pin) :
    (call.perform cfg st).2.levels pin = st.levels pin := by
  cases call with
  | init answers =>
      rw [MuxCall.perform, muxGpioInit]
      dsimp only
      split_ifs
      · exact configureSel_other answers noSel _ _
      · exact
          (configureEn_other noEn).trans (configureSel_other answers noSel _ _)
      · exact (muxGpioSelect_other noSel).trans
          ((configureEn_other noEn).trans
            (configureSel_other answers noSel _ _))
  | select channel answers => exact muxGpioSelect_other noSel
  | selectNext answers => exact muxGpioSelect_other noSel
  | enable err =>
      rw [MuxCall.perform, muxGpioEnable]
      split
      · rfl
      · split
        · rfl
        · rename_i en isEn
          split
          · rfl
          · exact update_en_other isEn noEn _ _
  | disable answers err =>
      rw [MuxCall.perform, muxGpioDisable]
      dsimp only
      split
      · rfl
      · split
        · exact selectIdle_other noSel
        · split
          · exact selectIdle_other noSel
          · rename_i en isEn
            split
            · exact selectIdle_other noSel
            · exact
                (update_en_other isEn noEn _ _).trans
                  (selectIdle_other noSel)

end Device

/-! ## A board -/

/-- What a pin is to a multiplexer. -/
inductive Line where
  | sel (k : Nat)
  | en
deriving DecidableEq, Repr

/-- Multiplexers with pins of their own. -/
structure Board (Mux Pin : Type) where
  gpio : Mux → MuxGpioConfig Pin
  line : Pin → Option (Mux × Line)
  sel_iff :
    ∀ mux k pin,
      (gpio mux).sel[k]? = some pin ↔ line pin = some (mux, .sel k)
  en_iff :
    ∀ mux pin, (gpio mux).en = some pin ↔ line pin = some (mux, .en)

/-- The pins of the board, and what each driver remembers. -/
structure BoardState (Mux Pin : Type) where
  levels : Pin → Bool
  data : Mux → MuxGpioData
  ready : Mux → Bool

def BoardState.view {Mux Pin : Type} (st : BoardState Mux Pin) (mux : Mux) :
    MuxGpioState Pin :=
  ⟨st.levels, st.data mux⟩

section Board

variable {Mux : Type} (board : Board Mux Pin)

omit [DecidableEq Pin] in
theorem Board.mem_sel_iff {mux : Mux} {pin : Pin} :
    pin ∈ (board.gpio mux).sel ↔
      ∃ k, board.line pin = some (mux, .sel k) := by
  rw [List.mem_iff_getElem?]
  exact exists_congr fun k => board.sel_iff mux k pin

omit [DecidableEq Pin] in
/-- No pin is two select pins of a multiplexer. -/
theorem Board.distinct (mux : Mux) : (board.gpio mux).sel.Nodup := by
  rw [List.nodup_iff_getElem?_ne_getElem?]
  intro i j before inside same
  have isPin := List.getElem?_eq_getElem inside
  have first := (board.sel_iff mux i _).mp (same.trans isPin)
  have second := (board.sel_iff mux j _).mp isPin
  cases first.symm.trans second
  exact Nat.lt_irrefl i before

omit [DecidableEq Pin] in
theorem Board.apart
    (mux : Mux) (pin : Pin) (isEn : (board.gpio mux).en = some pin) :
    pin ∉ (board.gpio mux).sel := by
  intro isSel
  rcases board.mem_sel_iff.mp isSel with ⟨k, sel⟩
  cases ((board.en_iff mux pin).mp isEn).symm.trans sel

omit [DecidableEq Pin] in
/-- The pins of one multiplexer are not those of another. -/
theorem Board.foreign
    {mux other : Mux} (differs : mux ≠ other) {pin : Pin} {line : Line}
    (isLine : board.line pin = some (mux, line)) :
    pin ∉ (board.gpio other).sel ∧ (board.gpio other).en ≠ some pin := by
  constructor
  · intro isSel
    rcases board.mem_sel_iff.mp isSel with ⟨k, sel⟩
    cases isLine.symm.trans sel
    exact differs rfl
  · intro isEn
    cases isLine.symm.trans ((board.en_iff other pin).mp isEn)
    exact differs rfl

variable [DecidableEq Mux]

/-- A device is called once it has been initialised. -/
def boardStep (st : BoardState Mux Pin) (event : Mux × MuxCall) :
    Option (BoardState Mux Pin) :=
  let result := event.2.perform (board.gpio event.1) (st.view event.1)
  let next ready : BoardState Mux Pin :=
    ⟨result.2.levels, Function.update st.data event.1 result.2.data,
      Function.update st.ready event.1 ready⟩
  match event.2 with
  | .init _ =>
      if st.ready event.1 then none else some (next (result.1 == 0))
  | _ => if st.ready event.1 then some (next true) else none

variable {board} {st next : BoardState Mux Pin} {event : Mux × MuxCall}

/-- What a step does. -/
theorem boardStep_some (stepped : boardStep board st event = some next) :
    ∃ ready,
      next =
          ⟨(event.2.perform (board.gpio event.1) (st.view event.1)).2.levels,
            Function.update st.data event.1
              (event.2.perform (board.gpio event.1) (st.view event.1)).2.data,
            Function.update st.ready event.1 ready⟩ ∧
        ((∃ answers,
            event.2 = .init answers ∧
              (ready = true →
                (muxGpioInit (board.gpio event.1) answers
                  (st.view event.1)).1 = 0)) ∨
          (∀ answers, event.2 ≠ .init answers) ∧
            st.ready event.1 = true) := by
  rcases event with ⟨mux, call⟩
  cases call with
  | init answers =>
      rw [boardStep] at stepped
      dsimp only at stepped
      split at stepped
      · cases stepped
      · cases stepped
        exact
          ⟨_, rfl, .inl ⟨answers, rfl, fun ready => beq_iff_eq.mp ready⟩⟩
  | select _ _ | selectNext _ | enable _ | disable _ _ =>
      rw [boardStep] at stepped
      dsimp only at stepped
      split at stepped
      · rename_i ready
        cases stepped
        refine ⟨true, rfl, .inr ⟨fun answers same => ?_, ready⟩⟩
        cases same
      · cases stepped

/-- The multiplexer that is called is as the call leaves it. -/
theorem boardStep_view
    (stepped : boardStep board st event = some next) :
    next.view event.1 =
      (event.2.perform (board.gpio event.1) (st.view event.1)).2 := by
  rcases boardStep_some stepped with ⟨ready, rfl, _⟩
  rw [BoardState.view]
  dsimp only
  rw [Function.update_self]

/-- For the other ones nothing changes. -/
theorem boardStep_other
    (stepped : boardStep board st event = some next) {mux : Mux}
    (differs : mux ≠ event.1) :
    next.data mux = st.data mux ∧ next.ready mux = st.ready mux ∧
      ∀ pin line, board.line pin = some (mux, line) →
        next.levels pin = st.levels pin := by
  rcases boardStep_some stepped with ⟨ready, rfl, _⟩
  refine
    ⟨Function.update_of_ne differs _ _, Function.update_of_ne differs _ _,
      fun pin line isLine => ?_⟩
  rcases board.foreign differs isLine with ⟨noSel, noEn⟩
  exact perform_other event.2 noSel noEn

theorem told_step
    (told :
      ∀ mux, st.ready mux = true → Told (board.gpio mux) (st.view mux))
    (stepped : boardStep board st event = some next) :
    ∀ mux, next.ready mux = true → Told (board.gpio mux) (next.view mux) := by
  intro mux ready
  by_cases same : mux = event.1
  · subst same
    rw [boardStep_view stepped]
    rcases boardStep_some stepped with
      ⟨isReady, rfl, ⟨answers, isInit, ok⟩ | ⟨noInit, before⟩⟩
    · dsimp only at ready
      rw [Function.update_self] at ready
      rw [isInit]
      exact init_told (board.apart _) (board.distinct _) (ok ready)
    · exact
        perform_told (board.apart _) (board.distinct _) noInit
          (told event.1 before)
  · rcases boardStep_other stepped same with ⟨data, isReady, levels⟩
    have before := told mux (isReady ▸ ready)
    refine ⟨?_, fun pin isEn => ?_⟩
    · rw [BoardState.view, data]
      exact before.current
    · rw [BoardState.view, data]
      exact
        (levels pin .en ((board.en_iff mux pin).mp isEn)).trans
          (before.enabled pin isEn)

/-- The event makes a selection on the multiplexer. -/
def SelectsOn (board : Board Mux Pin) (mux : Mux)
    (st : BoardState Mux Pin) (event : Mux × MuxCall) : Prop :=
  event.1 = mux ∧
    event.2.selection (board.gpio event.1) (st.view event.1) ≠ none

/-- The selection of the event succeeds. -/
def SelectionSucceeds (board : Board Mux Pin)
    (st : BoardState Mux Pin) (event : Mux × MuxCall) : Prop :=
  event.2.selection (board.gpio event.1) (st.view event.1) = some 0

theorem carried_of_selectsOn
    {mux : Mux} (selects : SelectsOn board mux st event)
    (ok : SelectionSucceeds board st event)
    (stepped : boardStep board st event = some next) :
    Carried (board.gpio mux) (next.view mux) := by
  rcases selects with ⟨rfl, _⟩
  rw [boardStep_view stepped]
  exact perform_selects (board.apart _) (board.distinct _) ok

theorem carried_of_not_selectsOn
    {mux : Mux} (not : ¬ SelectsOn board mux st event)
    (carried : Carried (board.gpio mux) (st.view mux))
    (stepped : boardStep board st event = some next) :
    Carried (board.gpio mux) (next.view mux) := by
  by_cases same : event.1 = mux
  · have none : event.2.selection (board.gpio event.1) (st.view event.1) =
        none :=
      of_not_not fun some => not ⟨same, some⟩
    subst same
    rw [boardStep_view stepped]
    exact perform_keeps (board.apart _) none carried
  · rcases boardStep_other stepped (Ne.symm same) with ⟨data, _, levels⟩
    intro k pin isSel
    rw [BoardState.view, data]
    exact
      (levels pin (.sel k) ((board.sel_iff mux k pin).mp isSel)).trans
        (carried k pin isSel)

/-! ## Runs -/

/--
In every run a driver that is ready remembers a channel that the multiplexer
has and the level of its enable pin; and it remembers the channel that the
select pins carry, if the last selection has not failed.
-/
theorem driver_remembers_pins
    {start finish : BoardState Mux Pin} {events : List (Mux × MuxCall)}
    (unready : ∀ mux, start.ready mux = false)
    (ran : run (boardStep board) start events = some finish)
    (mux : Mux) :
    (finish.ready mux = true → Told (board.gpio mux) (finish.view mux)) ∧
      (LastMeets (boardStep board) (SelectsOn board mux)
          (SelectionSucceeds board) False start events →
        Carried (board.gpio mux) (finish.view mux)) := by
  constructor
  · refine
      run_preserves
        (fun st _ _ told stepped => told_step told stepped) ?_ ran mux
    intro other ready
    rw [unready other] at ready
    cases ready
  · exact
      run_of_lastMeets
        (fun _ _ _ selects ok stepped =>
          carried_of_selectsOn selects ok stepped)
        (fun _ _ _ not carried stepped =>
          carried_of_not_selectsOn not carried stepped)
        False.elim ran

end Board

end YkbFirmware.Mux.MuxGpio
