import Mathlib.Tactic.Linarith
import Mathlib.Tactic.NormNum
import YkbFirmware.Library.TransitionSystem
import YkbFirmware.Backlight.WholeFrames

/-!
# The limit of the brightness

A board limits the brightness of its LEDs to a percentage, for the sake of its
power supply.  As long as the settings ask for a brightness between 0 and 1,
no LED is ever brighter, and the conversion of a scaled component to a byte is
always defined.
-/

namespace YkbFirmware.Backlight.BrightnessLimit

open YkbFirmware.Library.TransitionSystem
open YkbFirmware.KbHandler.Settings
open YkbFirmware.Backlight.ScriptSlots
open YkbFirmware.Backlight.KeyStorage
open YkbFirmware.Backlight.Renderer
open YkbFirmware.Backlight.WholeFrames

variable {vm : LumiVm}

/-- The brightest a component may be. -/
def brightnessLimit (options : RenderOptions) : Nat :=
  ⌈options.rounding.round (255 * maxAbsoluteBrightness options)⌉.toNat

/-- A brightness that the settings may ask for. -/
def InRange (brightness : ℚ) : Prop :=
  0 ≤ brightness ∧ brightness ≤ 1

section Components

variable (options : RenderOptions)

theorem round_zero : options.rounding.round 0 = 0 := by
  have zero := options.rounding.bytes 0 (by decide)
  simpa using zero

theorem round_one : options.rounding.round 1 = 1 := by
  have one := options.rounding.bytes 1 (by decide)
  simpa using one

theorem maxAbsoluteBrightness_inRange :
    InRange (maxAbsoluteBrightness options) := by
  have percent : (options.maxAbsBrightness : ℚ) ≤ 100 := by
    exact_mod_cast options.percent.2
  have positive : (0 : ℚ) ≤ options.maxAbsBrightness := by positivity
  constructor
  · rw [maxAbsoluteBrightness, ← round_zero options]
    exact options.rounding.monotone _ _ (by positivity)
  · rw [maxAbsoluteBrightness, ← round_one options]
    exact options.rounding.monotone _ _ (by linarith)

/-- A component before it is scaled by the brightness of the settings. -/
def limited (color : UInt8) : ℚ :=
  options.rounding.round (color.toNat * maxAbsoluteBrightness options)

theorem limited_bounds (color : UInt8) :
    0 ≤ limited options color ∧ limited options color ≤ color.toNat ∧
      limited options color ≤
        options.rounding.round (255 * maxAbsoluteBrightness options) := by
  rcases maxAbsoluteBrightness_inRange options with ⟨positive, atMost⟩
  have byte : (color.toNat : ℚ) ≤ 255 := by
    have inside := color.toNat_lt
    exact_mod_cast Nat.le_of_lt_succ inside
  have component : (0 : ℚ) ≤ color.toNat := by positivity
  refine ⟨?_, ?_, ?_⟩
  · rw [limited, ← round_zero options]
    exact options.rounding.monotone _ _ (mul_nonneg component positive)
  · calc
      limited options color
          ≤ options.rounding.round color.toNat :=
        options.rounding.monotone _ _ (mul_le_of_le_one_right component atMost)
      _ = color.toNat := options.rounding.bytes _ color.toNat_lt
  · exact
      options.rounding.monotone _ _
        (mul_le_mul_of_nonneg_right byte positive)

theorem scaled_bounds
    {brightness : ℚ} (inRange : InRange brightness) (color : UInt8) :
    0 ≤ scaled options brightness color ∧
      scaled options brightness color ≤ limited options color := by
  have before := (limited_bounds options color).1
  constructor
  · rw [scaled, ← round_zero options]
    exact options.rounding.monotone _ _ (mul_nonneg before inRange.1)
  · calc
      scaled options brightness color
          ≤ options.rounding.round (limited options color) :=
        options.rounding.monotone _ _
          (mul_le_of_le_one_right before inRange.2)
      _ = limited options color := options.rounding.idempotent _

/-- A component is scaled to a byte that is no brighter, nor than allowed. -/
theorem applyBrightness_le
    {brightness : ℚ} (inRange : InRange brightness) (color : UInt8) :
    ∃ level,
      applyBrightness options brightness color = some level ∧
        level.toNat ≤ brightnessLimit options ∧ level ≤ color := by
  rcases scaled_bounds options inRange color with ⟨positive, below⟩
  rcases limited_bounds options color with ⟨-, dimmer, allowed⟩
  have floor : 0 ≤ ⌈scaled options brightness color⌉ :=
    Int.ceil_nonneg positive
  have atMost : ⌈scaled options brightness color⌉ ≤ (color.toNat : Int) :=
    Int.ceil_le.mpr (by exact_mod_cast below.trans dimmer)
  have byte : color.toNat < 256 := color.toNat_lt
  have limit :
      ⌈scaled options brightness color⌉ ≤
        ⌈options.rounding.round (255 * maxAbsoluteBrightness options)⌉ :=
    Int.ceil_le_ceil (below.trans allowed)
  have small : ⌈scaled options brightness color⌉.toNat < UInt8.size := by
    change _ < 256
    omega
  have fits :
      (UInt8.ofNat ⌈scaled options brightness color⌉.toNat).toNat =
        ⌈scaled options brightness color⌉.toNat :=
    UInt8.toNat_ofNat_of_lt' small
  refine
    ⟨UInt8.ofNat ⌈scaled options brightness color⌉.toNat, ?_, ?_, ?_⟩
  · rw [applyBrightness]
    exact if_pos ⟨floor, by omega⟩
  · rw [fits, brightnessLimit]
    exact Int.toNat_le_toNat limit
  · rw [UInt8.le_iff_toNat_le, fits]
    omega

end Components

/-! ## Buffers -/

/-- No LED is brighter than allowed. -/
def WithinLimit (options : RenderOptions) (led : LedRgb) : Prop :=
  led.r.toNat ≤ brightnessLimit options ∧
    led.g.toNat ≤ brightnessLimit options ∧
      led.b.toNat ≤ brightnessLimit options

section Buffers

variable
    {options : RenderOptions} {runs : LumiVmRuns vm}
    {st next : RendererState vm} {event : RenderEvent}

theorem withinLimit_dark : WithinLimit options .dark :=
  ⟨Nat.zero_le _, Nat.zero_le _, Nat.zero_le _⟩

theorem shade_withinLimit
    {brightness : ℚ} (inRange : InRange brightness) (color : UInt32) :
    ∃ led, shade options brightness color = some led ∧
      WithinLimit options led := by
  rcases applyBrightness_le options inRange (color >>> 16).toUInt8 with
    ⟨r, red, rLimit, -⟩
  rcases applyBrightness_le options inRange (color >>> 8).toUInt8 with
    ⟨g, green, gLimit, -⟩
  rcases applyBrightness_le options inRange color.toUInt8 with
    ⟨b, blue, bLimit, -⟩
  refine ⟨⟨r, g, b⟩, ?_, rLimit, gLimit, bLimit⟩
  rw [shade, red, green, blue]
  rfl

/-- The loop over the keys draws what is allowed, and is always defined. -/
theorem drawKeys_withinLimit
    {statics : RenderState vm}
    (inRange : InRange statics.backlight.curBrightness)
    (layout : BacklightLayout) (inputs : LumiVmInputs)
    (random : Nat → Nat) (keys : List Nat)
    (lumiscript : LumiscriptStatics vm) {buffer : LedBuffer}
    (before : ∀ led, WithinLimit options (buffer led)) :
    ∃ drawn,
      drawKeys options runs statics layout inputs random keys lumiscript
          buffer =
        some drawn ∧
      ∀ led, WithinLimit options (drawn.2.1 led) := by
  induction keys generalizing lumiscript buffer with
  | nil => exact ⟨_, rfl, before⟩
  | cons i rest induction =>
      simp only [drawKeys]
      cases
          (renderKey runs statics layout inputs lumiscript i
            (random i)).1 with
      | error err => exact ⟨_, rfl, before⟩
      | ok color =>
          rcases @shade_withinLimit options _ inRange color with
            ⟨led, shaded, limited⟩
          simp only [shaded, Option.bind_some]
          apply induction
          intro place
          by_cases same : place = (layout.ledMap i).toNat
          · rw [same, Function.update_self]
            exact limited
          · rw [Function.update_of_ne same]
            exact before place

/-- Nothing is, or will be shown, that is brighter than allowed. -/
structure Limited (options : RenderOptions) (st : RendererState vm) :
    Prop where
  strip : ∀ led, WithinLimit options (st.strip led)
  front : ∀ led, WithinLimit options (st.bufFront led)
  back : ∀ led, WithinLimit options (st.bufBack led)
  brightness : InRange st.statics.backlight.curBrightness
  layout : st.statics.backlight.initSuccess = true → st.statics.layout ≠ none

/-- An update that asks for a brightness in range. -/
def AsksInRange : RenderEvent → Prop
  | .settingsUpdate _ settings _ _ => InRange settings.backlight.brightness
  | _ => True

theorem Limited.thread
    (limited : Limited options st) (uptime : Int) (random : Nat → Nat)
    (stripErr : Int) (ready : st.statics.backlight.initSuccess = true) :
    ∃ next,
      threadIteration options runs st uptime random stripErr = some next ∧
        Limited options next := by
  have attached := startFrame_layout runs st.statics uptime (random 0)
  have kept := startFrame_backlight runs st.statics uptime (random 0)
  simp only [threadIteration]
  generalize startFrame runs st.statics uptime (random 0) = started
    at attached kept ⊢
  rcases started with ⟨statics, inputs⟩
  dsimp only at attached kept ⊢
  have inRange : InRange statics.backlight.curBrightness := by
    rw [kept]
    exact limited.brightness
  have layouts :
      statics.backlight.initSuccess = true → statics.layout ≠ none := by
    rw [attached, kept]
    exact limited.layout
  cases inputs with
  | none =>
      exact
        ⟨_, rfl, limited.strip, limited.front, limited.back, inRange, layouts⟩
  | some inputs =>
      rcases Option.ne_none_iff_exists'.mp (limited.layout ready) with
        ⟨layout, board⟩
      rcases
          @drawKeys_withinLimit vm options runs statics inRange layout inputs
            (fun i => random (i + 1)) (List.range layout.keyCount)
            statics.lumiscript st.bufBack limited.back with
        ⟨drawn, drew, within⟩
      have placed : statics.layout = some layout := attached.trans board
      refine
        ⟨_,
          Option.bind_eq_some_iff.mpr
            ⟨layout, placed, by rw [drew, Option.map_some]⟩,
          ?_⟩
      split_ifs
      · exact
          ⟨limited.strip, limited.front, within, inRange, layouts⟩
      · exact
          ⟨limited.strip, within, limited.front, inRange, layouts⟩
      · exact ⟨within, within, limited.front, inRange, layouts⟩

theorem init_ready
    {statics : RenderState vm} (stripReady : Bool) (settingsErr : Int)
    (ready :
      (ykbBacklightInit options statics stripReady
          settingsErr).backlight.initSuccess = true)
    (unready : statics.backlight.initSuccess ≠ true) :
    (ykbBacklightInit options statics stripReady settingsErr).layout ≠
      none := by
  revert ready
  rw [ykbBacklightInit]
  cases stripReady with
  | false => exact fun ready => absurd ready unready
  | true =>
      cases options.layout with
      | none => exact fun ready => absurd ready unready
      | some layout =>
          simp only [Bool.true_eq_false, if_false]
          split_ifs <;> exact fun _ => Option.some_ne_none layout

theorem init_brightness
    (statics : RenderState vm) (stripReady : Bool) (settingsErr : Int) :
    (ykbBacklightInit options statics stripReady
        settingsErr).backlight.curBrightness =
      statics.backlight.curBrightness := by
  rw [ykbBacklightInit]
  cases stripReady with
  | false => rfl
  | true =>
      cases options.layout with
      | none => rfl
      | some layout =>
          simp only [Bool.true_eq_false, if_false]
          split_ifs <;> rfl

theorem Limited.settingsUpdate
    (limited : Limited options st) (store : ScriptStore)
    (settings : KbSettings) (stripErr : Int) (random : Nat)
    (inRange : InRange settings.backlight.brightness) :
    Limited options
      (onSettingsUpdate options runs st store settings stripErr random) := by
  rw [onSettingsUpdate]
  split_ifs with early
  · exact limited
  · have ready : st.statics.backlight.initSuccess = true := by
      simpa using early
    have dark : ∀ led, WithinLimit options (LedBuffer.clear led) :=
      fun _ => withinLimit_dark
    have asked :
        ∀ statics : RenderState vm,
          statics.backlight = st.statics.backlight →
            InRange
              (takeSettings options runs statics store settings
                random).backlight.curBrightness := by
      intro statics same
      have taken : statics.backlight.initSuccess = true := by
        rw [same]
        exact ready
      rw [takeSettings]
      dsimp only
      rw [(SettingsUpdate.onSettingsUpdate_sameFields taken).brightness]
      exact inRange
    have board := limited.layout ready
    rw [clearState]
    dsimp only
    split_ifs
    · exact
        ⟨limited.strip, dark, limited.front, asked _ rfl, fun _ => board⟩
    · have same :
          (resetScript runs st.statics).backlight =
            st.statics.backlight := by
        rw [resetScript]
        split_ifs <;> rfl
      refine ⟨dark, dark, limited.front, asked _ same, fun _ => ?_⟩
      rw [takeSettings_layout, resetScript_layout]
      exact board

theorem limited_step
    (limited : Limited options st) (asks : AsksInRange event)
    (stepped : rendererStep options runs st event = some next) :
    Limited options next := by
  cases event with
  | init stripReady settingsErr =>
      rw [rendererStep] at stepped
      split_ifs at stepped with unready
      cases stepped
      refine
        ⟨limited.strip, limited.front, limited.back, ?_, fun ready =>
          init_ready stripReady settingsErr ready unready⟩
      rw [init_brightness]
      exact limited.brightness
  | settingsUpdate store settings stripErr random =>
      cases stepped
      exact limited.settingsUpdate store settings stripErr random asks
  | thread uptime random stripErr =>
      rw [rendererStep] at stepped
      split_ifs at stepped with ready
      rcases
          @Limited.thread vm options runs st limited uptime random stripErr
            ready with
        ⟨other, iterated, within⟩
      cases stepped.symm.trans iterated
      exact within
  | keyEvent index value =>
      cases stepped
      simp only [kbHandlerOnEvent]
      split
      · exact limited
      · exact
          ⟨limited.strip, limited.front, limited.back, limited.brightness,
            limited.layout⟩
  | keyValue index value =>
      cases stepped
      simp only [kbHandlerOnValueChanged]
      split
      · exact limited
      · exact
          ⟨limited.strip, limited.front, limited.back, limited.brightness,
            limited.layout⟩

end Buffers

/--
As long as the settings ask for a brightness between 0 and 1, no LED is shown
brighter than the board allows; and the thread always has a next iteration,
since no component is ever too bright for a byte.
-/
theorem brightness_stays_within_limit
    (options : RenderOptions) (runs : LumiVmRuns vm) (strip : LedBuffer)
    (before : ∀ led, WithinLimit options (strip led))
    (events : List RenderEvent) (finish : RendererState vm)
    (asks : ∀ event ∈ events, AsksInRange event)
    (ran :
      run (rendererStep options runs) (.initial vm strip) events =
        some finish) :
    (∀ led, WithinLimit options (finish.strip led)) ∧
      ∀ uptime random stripErr,
        finish.statics.backlight.initSuccess = true →
          (threadIteration options runs finish uptime random
            stripErr).isSome = true := by
  have dark : ∀ led, WithinLimit options (LedBuffer.clear led) :=
    fun _ => withinLimit_dark
  have full : InRange (RenderState.initial vm).backlight.curBrightness := by
    constructor <;> norm_num [RenderState.initial]
  have initially : Limited options (.initial vm strip) :=
    ⟨before, dark, dark, full, fun ready => Bool.noConfusion ready⟩
  have kept (st : RendererState vm) (event : RenderEvent)
      (next : RendererState vm) (limited : Limited options st)
      (asks : AsksInRange event)
      (stepped : rendererStep options runs st event = some next) :
      Limited options next :=
    limited_step limited asks stepped
  have limited : Limited options finish :=
    run_preserves_of_stepsMeet kept initially (stepsMeet_of_events asks) ran
  refine ⟨limited.strip, fun uptime random stripErr ready => ?_⟩
  rcases
      @Limited.thread vm options runs finish limited uptime random stripErr
        ready with
    ⟨next, iterated, -⟩
  rw [iterated]
  rfl

/-- A frame at full brightness, of a board that allows a fifth of it. -/
theorem frameAndUpdate_withinLimit :
    ∃ finish,
      run (rendererStep oneKey whiteRuns)
          (.initial countingVm LedBuffer.clear) frameAndUpdate =
        some finish ∧
      ∀ led, WithinLimit oneKey (finish.strip led) := by
  rcases Option.isSome_iff_exists.mp frameAndUpdate_runs with ⟨finish, ran⟩
  have asks : ∀ event ∈ frameAndUpdate, AsksInRange event := by
    have full : InRange litSettings.backlight.brightness := by
      constructor <;> norm_num [litSettings]
    intro event member
    simp only [frameAndUpdate, List.mem_cons, List.not_mem_nil,
      or_false] at member
    rcases member with rfl | rfl | rfl | rfl | rfl
    · exact trivial
    · exact full
    · exact trivial
    · exact full
    · exact trivial
  exact
    ⟨finish, ran,
      (brightness_stays_within_limit oneKey whiteRuns LedBuffer.clear
        (fun _ => withinLimit_dark) frameAndUpdate finish asks ran).1⟩

end YkbFirmware.Backlight.BrightnessLimit
