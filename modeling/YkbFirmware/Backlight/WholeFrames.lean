import YkbFirmware.Library.Painting
import YkbFirmware.Library.TransitionSystem
import YkbFirmware.Backlight.Renderer

/-!
# The strip shows whole frames

The thread draws into one of two buffers, key by key, and a frame that is not
finished leaves what was drawn of it behind.  None of this is seen: the
renderer is one that renders all keys first and then puts the frame on a
cleared strip at once.
-/

namespace YkbFirmware.Backlight.WholeFrames

open YkbFirmware.Library.Painting
open YkbFirmware.Library.TransitionSystem
open YkbFirmware.KbHandler.Settings
open YkbFirmware.Backlight.ScriptSlots
open YkbFirmware.Backlight.KeyStorage
open YkbFirmware.Backlight.Renderer

/-! ## A renderer without buffers -/

/-- The statics of the renderer, and what the strip shows. -/
structure FrameState (vm : LumiVm) where
  statics : RenderState vm
  shown : LedBuffer

section Frames

variable {vm : LumiVm} (options : RenderOptions) (runs : LumiVmRuns vm)

/-- Render the keys; one that cannot be rendered ends the frame. -/
def renderKeys
    (statics : RenderState vm) (layout : BacklightLayout)
    (inputs : LumiVmInputs) (random : Nat → Nat) :
    List Nat → LumiscriptStatics vm →
      Option (LumiscriptStatics vm × Option (List (Nat × LedRgb)))
  | [], lumiscript => some (lumiscript, some [])
  | i :: rest, lumiscript =>
      let rendered :=
        renderKey runs statics layout inputs lumiscript i (random i)
      match rendered.1 with
      | .error _ => some (rendered.2, none)
      | .ok color =>
          (shade options statics.backlight.curBrightness color).bind
            fun led =>
              (renderKeys statics layout inputs random rest rendered.2).map
                fun others =>
                  (others.1,
                    others.2.map (((layout.ledMap i).toNat, led) :: ·))

/-- A frame on a cleared strip. -/
def showFrame
    (st : FrameState vm) (uptime : Int) (random : Nat → Nat)
    (stripErr : Int) : Option (FrameState vm) :=
  let started := startFrame runs st.statics uptime (random 0)
  match started.2 with
  | none => some { st with statics := started.1 }
  | some inputs =>
      started.1.layout.bind fun layout =>
        (renderKeys options runs started.1 layout inputs
            (fun i => random (i + 1)) (List.range layout.keyCount)
            started.1.lumiscript).map fun rendered =>
          { statics := { started.1 with lumiscript := rendered.1 }
            shown :=
              match rendered.2 with
              | none => st.shown
              | some leds =>
                  if stripErr ≠ 0 then
                    st.shown
                  else
                    paint LedBuffer.clear leds }

/-- A settings update clears the strip. -/
def showUpdate
    (st : FrameState vm) (store : ScriptStore) (settings : KbSettings)
    (stripErr : Int) (random : Nat) : FrameState vm :=
  if st.statics.backlight.initSuccess = false then
    st
  else if stripErr ≠ 0 then
    { st with
      statics := takeSettings options runs st.statics store settings random }
  else
    { statics :=
        takeSettings options runs (resetScript runs st.statics) store
          settings random
      shown := LedBuffer.clear }

def frameStep (st : FrameState vm) :
    RenderEvent → Option (FrameState vm)
  | .init stripReady settingsErr =>
      if st.statics.backlight.initSuccess then
        none
      else
        some
          { st with
            statics :=
              ykbBacklightInit options st.statics stripReady settingsErr }
  | .settingsUpdate store settings stripErr random =>
      some (showUpdate options runs st store settings stripErr random)
  | .thread uptime random stripErr =>
      if st.statics.backlight.initSuccess then
        showFrame options runs st uptime random stripErr
      else
        none
  | .keyEvent index value =>
      some
        { st with statics := kbHandlerOnEvent options st.statics index value }
  | .keyValue index value =>
      some
        { st with
          statics := kbHandlerOnValueChanged options st.statics index value }

/-- What is left of a renderer without its buffers. -/
def view (st : RendererState vm) : FrameState vm where
  statics := st.statics
  shown := st.strip

/-! ## The loop over the keys -/

/-- The LED of a key. -/
def ledOf (layout : BacklightLayout) (i : Nat) : Nat :=
  (layout.ledMap i).toNat

variable {options : RenderOptions} {runs : LumiVmRuns vm}

/-- Keys that have been rendered are drawn over what was in the buffer. -/
inductive Draws
    (layout : BacklightLayout) (keys : List Nat) (buffer : LedBuffer) :
    Option (LumiscriptStatics vm × Option (List (Nat × LedRgb))) →
      Option (LumiscriptStatics vm × LedBuffer × Bool) → Prop where
  | undefined : Draws layout keys buffer none none
  | finishes (lumiscript : LumiscriptStatics vm)
      (leds : List (Nat × LedRgb))
      (all : leds.map Prod.fst = keys.map (ledOf layout)) :
      Draws layout keys buffer (some (lumiscript, some leds))
        (some (lumiscript, paint buffer leds, true))
  | stops (lumiscript : LumiscriptStatics vm)
      (leds : List (Nat × LedRgb))
      (keysOnly : ∀ led ∈ leds.map Prod.fst, led ∈ keys.map (ledOf layout)) :
      Draws layout keys buffer (some (lumiscript, none))
        (some (lumiscript, paint buffer leds, false))

theorem draws_keys
    (options : RenderOptions) (runs : LumiVmRuns vm)
    (statics : RenderState vm) (layout : BacklightLayout)
    (inputs : LumiVmInputs) (random : Nat → Nat) (keys : List Nat)
    (lumiscript : LumiscriptStatics vm) (buffer : LedBuffer) :
    Draws layout keys buffer
      (renderKeys options runs statics layout inputs random keys lumiscript)
      (drawKeys options runs statics layout inputs random keys lumiscript
        buffer) := by
  induction keys generalizing lumiscript buffer with
  | nil => exact .finishes lumiscript [] rfl
  | cons i rest induction =>
      simp only [renderKeys, drawKeys]
      cases
          (renderKey runs statics layout inputs lumiscript i
            (random i)).1 with
      | error err => exact .stops _ [] (by simp)
      | ok color =>
          cases shaded :
              shade options statics.backlight.curBrightness color with
          | none =>
              simp only [shaded, Option.bind_none]
              exact .undefined
          | some led =>
              have others :=
                induction
                  (renderKey runs statics layout inputs lumiscript i
                    (random i)).2
                  (Function.update buffer (layout.ledMap i).toNat led)
              simp only [shaded, Option.bind_some]
              generalize
                renderKeys options runs statics layout inputs random rest
                  (renderKey runs statics layout inputs lumiscript i
                    (random i)).2 = rendered at others ⊢
              generalize
                drawKeys options runs statics layout inputs random rest
                  (renderKey runs statics layout inputs lumiscript i
                    (random i)).2
                  (Function.update buffer (layout.ledMap i).toNat led) =
                  drawn at others ⊢
              cases others with
              | undefined => exact .undefined
              | finishes lumiscript leds all =>
                  have allKeys :
                      (((layout.ledMap i).toNat, led) :: leds).map Prod.fst =
                        (i :: rest).map (ledOf layout) := by
                    rw [List.map_cons, List.map_cons, all]
                    rfl
                  exact .finishes lumiscript _ allKeys
              | stops lumiscript leds keysOnly =>
                  have someKeys :
                      ∀ place ∈
                          (((layout.ledMap i).toNat, led) :: leds).map
                            Prod.fst,
                        place ∈ (i :: rest).map (ledOf layout) := by
                    intro place member
                    rw [List.map_cons, List.mem_cons] at member ⊢
                    exact member.imp id (keysOnly place)
                  exact .stops lumiscript _ someKeys

/-! ## The buffers -/

/-- Nothing was drawn but keys. -/
def DarkOffKeys (options : RenderOptions) (buffer : LedBuffer) : Prop :=
  ∀ layout ∈ options.layout, ∀ led,
    led ∉ (List.range layout.keyCount).map (ledOf layout) →
      buffer led = .dark

/-- The keys are those of the board, and only their LEDs were drawn. -/
structure KeysOnly (options : RenderOptions) (st : RendererState vm) :
    Prop where
  front : DarkOffKeys options st.bufFront
  back : DarkOffKeys options st.bufBack
  layout : ∀ layout ∈ st.statics.layout, options.layout = some layout

theorem darkOffKeys_clear : DarkOffKeys options LedBuffer.clear :=
  fun _ _ _ _ => rfl

variable
    {layout : BacklightLayout} {buffer : LedBuffer}
    {leds : List (Nat × LedRgb)}

theorem DarkOffKeys.drawn
    (dark : DarkOffKeys options buffer) (board : options.layout = some layout)
    (keysOnly :
      ∀ led ∈ leds.map Prod.fst,
        led ∈ (List.range layout.keyCount).map (ledOf layout)) :
    DarkOffKeys options (paint buffer leds) := by
  intro other same led off
  cases board.symm.trans same
  rw [paint_of_notMem fun member => off (keysOnly led member)]
  exact dark layout board led off

/-- A frame hides what the buffer held. -/
theorem DarkOffKeys.hidden
    (dark : DarkOffKeys options buffer) (board : options.layout = some layout)
    (all :
      leds.map Prod.fst = (List.range layout.keyCount).map (ledOf layout)) :
    paint buffer leds = paint LedBuffer.clear leds :=
  paint_congr fun led off => dark layout board led (all ▸ off)

/-! ## Steps -/

variable {st next : RendererState vm} {event : RenderEvent}

theorem startFrame_layout
    (runs : LumiVmRuns vm) (statics : RenderState vm) (uptime : Int)
    (random : Nat) :
    (startFrame runs statics uptime random).1.layout = statics.layout := by
  simp only [startFrame]
  split_ifs
  · rfl
  · rfl
  · split <;> rfl

theorem takeSettings_layout
    (statics : RenderState vm) (store : ScriptStore) (settings : KbSettings)
    (random : Nat) :
    (takeSettings options runs statics store settings random).layout =
      statics.layout :=
  rfl

theorem init_layout
    {statics : RenderState vm}
    (board : ∀ layout ∈ statics.layout, options.layout = some layout)
    (stripReady : Bool) (settingsErr : Int) :
    ∀ layout ∈ (ykbBacklightInit options statics stripReady
        settingsErr).layout,
      options.layout = some layout := by
  rw [ykbBacklightInit]
  cases stripReady with
  | false => exact board
  | true =>
      cases own : options.layout with
      | none => exact fun _ => id
      | some layout =>
          simp only [Bool.true_eq_false, if_false]
          split_ifs <;> exact fun _ => id

theorem resetScript_layout (statics : RenderState vm) :
    (resetScript runs statics).layout = statics.layout := by
  rw [resetScript]
  split_ifs <;> rfl

theorem thread_matched
    (keysOnly : KeysOnly options st) (uptime : Int) (random : Nat → Nat)
    (stripErr : Int)
    (stepped :
      threadIteration options runs st uptime random stripErr = some next) :
    showFrame options runs (view st) uptime random stripErr =
        some (view next) ∧
      KeysOnly options next := by
  have kept := startFrame_layout runs st.statics uptime (random 0)
  simp only [threadIteration] at stepped
  simp only [showFrame, view]
  generalize startFrame runs st.statics uptime (random 0) = started
    at kept stepped ⊢
  rcases started with ⟨statics, inputs⟩
  cases inputs with
  | none =>
      cases stepped
      exact
        ⟨rfl, keysOnly.front, keysOnly.back, by
          rw [kept]
          exact keysOnly.layout⟩
  | some inputs =>
      rcases Option.bind_eq_some_iff.mp stepped with
        ⟨layout, attached, drawing⟩
      have board : options.layout = some layout := by
        dsimp only at kept attached
        exact keysOnly.layout layout (kept ▸ attached)
      rcases Option.map_eq_some_iff.mp drawing with ⟨drawn, drew, rfl⟩
      have draws :=
        draws_keys options runs statics layout inputs
          (fun i => random (i + 1)) (List.range layout.keyCount)
          statics.lumiscript st.bufBack
      dsimp only at attached drew ⊢
      rw [attached, Option.bind_some]
      rw [drew] at draws
      generalize
        renderKeys options runs statics layout inputs
          (fun i => random (i + 1)) (List.range layout.keyCount)
          statics.lumiscript = rendered at draws ⊢
      have keysOf :
          ∀ place ∈ some layout, options.layout = some place := by
        rintro place ⟨⟩
        exact board
      cases draws with
      | finishes lumiscript leds all =>
          rw [keysOnly.back.hidden board all]
          refine ⟨rfl, ?_, keysOnly.front, keysOf⟩
          exact
            darkOffKeys_clear.drawn board fun led member => all ▸ member
      | stops lumiscript leds drawnOnly =>
          exact
            ⟨rfl, keysOnly.front, keysOnly.back.drawn board drawnOnly, keysOf⟩

theorem update_matched
    (keysOnly : KeysOnly options st) (store : ScriptStore)
    (settings : KbSettings) (stripErr : Int) (random : Nat) :
    showUpdate options runs (view st) store settings stripErr random =
        view (onSettingsUpdate options runs st store settings stripErr
          random) ∧
      KeysOnly options
        (onSettingsUpdate options runs st store settings stripErr random) := by
  have unready :
      (view st).statics.backlight.initSuccess =
        st.statics.backlight.initSuccess :=
    rfl
  rw [showUpdate, onSettingsUpdate, unready]
  split_ifs with early failed
  · exact ⟨rfl, keysOnly⟩
  · rw [clearState, if_pos failed]
    exact ⟨rfl, darkOffKeys_clear, keysOnly.front, keysOnly.layout⟩
  · rw [clearState, if_neg failed]
    refine ⟨rfl, darkOffKeys_clear, keysOnly.front, ?_⟩
    rw [takeSettings_layout, resetScript_layout]
    exact keysOnly.layout

/-- Every step is one of the renderer without buffers. -/
theorem step_matched
    (keysOnly : KeysOnly options st)
    (stepped : rendererStep options runs st event = some next) :
    frameStep options runs (view st) event = some (view next) ∧
      KeysOnly options next := by
  cases event with
  | init stripReady settingsErr =>
      rw [rendererStep] at stepped
      split_ifs at stepped with ready
      cases stepped
      rw [frameStep, view, if_neg ready]
      exact
        ⟨rfl, keysOnly.front, keysOnly.back,
          init_layout keysOnly.layout stripReady settingsErr⟩
  | settingsUpdate store settings stripErr random =>
      cases stepped
      rcases update_matched keysOnly store settings stripErr random with
        ⟨same, after⟩
      exact ⟨congrArg some same, after⟩
  | thread uptime random stripErr =>
      rw [rendererStep] at stepped
      split_ifs at stepped with ready
      have shownReady : (view st).statics.backlight.initSuccess = true := ready
      rw [frameStep, if_pos shownReady]
      exact thread_matched keysOnly uptime random stripErr stepped
  | keyEvent index value =>
      cases stepped
      refine ⟨rfl, keysOnly.front, keysOnly.back, ?_⟩
      simp only [kbHandlerOnEvent]
      split <;> exact keysOnly.layout
  | keyValue index value =>
      cases stepped
      refine ⟨rfl, keysOnly.front, keysOnly.back, ?_⟩
      simp only [kbHandlerOnValueChanged]
      split <;> exact keysOnly.layout

end Frames

section Runs

variable {vm : LumiVm}

theorem keysOnly_initial (options : RenderOptions) (strip : LedBuffer) :
    KeysOnly options (.initial vm strip) :=
  ⟨darkOffKeys_clear, darkOffKeys_clear, fun _ none => by cases none⟩

/--
Every run of the renderer is one of a renderer without buffers, which renders
all keys and then puts their frame on a cleared strip: whatever frames were
given up, updates came in between and writes to the strip failed, the strip
shows what it would.
-/
theorem renderer_shows_whole_frames
    (options : RenderOptions) (runs : LumiVmRuns vm) (strip : LedBuffer)
    (events : List RenderEvent) (finish : RendererState vm)
    (ran :
      run (rendererStep options runs) (.initial vm strip) events =
        some finish) :
    run (frameStep options runs) (view (.initial vm strip)) events =
      some (view finish) := by
  have kept (st : RendererState vm) (event : RenderEvent)
      (next : RendererState vm) (keysOnly : KeysOnly options st)
      (stepped : rendererStep options runs st event = some next) :
      KeysOnly options next :=
    (step_matched keysOnly stepped).2
  have matched (st : RendererState vm) (event : RenderEvent)
      (next : RendererState vm) (keysOnly : KeysOnly options st)
      (stepped : rendererStep options runs st event = some next) :
      run (frameStep options runs) (view st) [event] = some (view next) := by
    rw [run_cons, (step_matched keysOnly stepped).1]
    rfl
  have refined :=
    run_refines kept matched (keysOnly_initial options strip) ran
  rwa [List.flatMap_singleton'] at refined

end Runs

/-- Doubles that do not round. -/
def exactly : DoubleRounding where
  round := id
  monotone _ _ := id
  idempotent _ := rfl
  bytes _ _ := rfl

/-- One key, whose LED is the second of two. -/
def oneKey : RenderOptions where
  scripts := SettingsUpdate.tinyOptions
  lumivm := defaultLumivm 1 (Nat.le_of_ble_eq_true rfl)
  layout :=
    some
      { keyCount := 1
        ledMap := fun _ => 1
        xCoordinates := fun _ => 0
        yCoordinates := fun _ => 0
        countFits := by decide }
  ledCount := 2
  maxAbsBrightness := 20
  splitlinkSlave := false
  rounding := exactly
  percent := ⟨Nat.le_of_ble_eq_true rfl, Nat.le_of_ble_eq_true rfl⟩

/-- Every script paints all keys white. -/
def whiteRuns : LumiVmRuns countingVm where
  runInit _ state _ := (some (), state)
  runUpdate _ state _ _ := (some (), state)
  runRender _ state _ _ _ := (some 0xFFFFFF, state)
  resetState _ state := state

/-- The same script in all slots. -/
def oneScript : ScriptStore where
  scriptSlots _ := ⟨true, 1, [], [1]⟩
  scriptsRegistered := true
  scriptsLoaded := true
  scriptSlotUpdateCb := false

def litSettings : KbSettings :=
  { plainSettings with backlight := ⟨true, 0, 1, 1, 5⟩ }

/-- A frame, and an update the strip does not take. -/
def frameAndUpdate : List RenderEvent :=
  [.init true 0, .settingsUpdate oneScript litSettings 0 0,
    .thread 5 id 0, .settingsUpdate oneScript litSettings (-5) 0,
    .thread 10 id 0]

theorem frameAndUpdate_runs :
    (run (rendererStep oneKey whiteRuns)
      (.initial countingVm LedBuffer.clear) frameAndUpdate).isSome =
        true := by
  decide +kernel

theorem frameAndUpdate_shown :
    ∃ finish,
      run (rendererStep oneKey whiteRuns)
          (.initial countingVm LedBuffer.clear) frameAndUpdate =
        some finish ∧
      run (frameStep oneKey whiteRuns)
          (view (.initial countingVm LedBuffer.clear)) frameAndUpdate =
        some (view finish) := by
  rcases Option.isSome_iff_exists.mp frameAndUpdate_runs with ⟨finish, ran⟩
  exact
    ⟨finish, ran,
      renderer_shows_whole_frames oneKey whiteRuns LedBuffer.clear
        frameAndUpdate finish ran⟩

/-! ## Darkness -/

section Darkness

variable
    {vm : LumiVm} {options : RenderOptions} {runs : LumiVmRuns vm}
    {st next : RendererState vm} {event : RenderEvent}

/-- The backlight is switched off, or has no script. -/
def Idle (st : RendererState vm) : Prop :=
  st.statics.backlight.on = false ∨ st.statics.backlight.scriptLoaded = false

/-- An update of the settings that is not ignored. -/
def Updates (st : RendererState vm) : RenderEvent → Prop
  | .settingsUpdate _ _ _ _ => st.statics.backlight.initSuccess = true
  | _ => False

/-- The strip takes what an update writes to it. -/
def Clears (_ : RendererState vm) : RenderEvent → Prop
  | .settingsUpdate _ _ stripErr _ => stripErr = 0
  | _ => True

def DarkIfIdle (st : RendererState vm) : Prop :=
  Idle st → st.strip = LedBuffer.clear

theorem startFrame_backlight
    (runs : LumiVmRuns vm) (statics : RenderState vm) (uptime : Int)
    (random : Nat) :
    (startFrame runs statics uptime random).1.backlight =
      statics.backlight := by
  simp only [startFrame]
  split_ifs
  · rfl
  · rfl
  · split <;> rfl

theorem startFrame_of_idle
    (runs : LumiVmRuns vm) (idle : Idle st) (uptime : Int) (random : Nat) :
    (startFrame runs st.statics uptime random).2 = none := by
  rw [startFrame]
  rcases idle with off | unloaded
  · rw [if_pos off, ite_self]
  · rw [if_pos unloaded]

theorem thread_backlight
    {uptime : Int} {random : Nat → Nat} {stripErr : Int}
    (stepped :
      threadIteration options runs st uptime random stripErr = some next) :
    next.statics.backlight = st.statics.backlight ∧
      (Idle st → next.strip = st.strip) := by
  have kept := startFrame_backlight runs st.statics uptime (random 0)
  have resting := fun idle : Idle st =>
    startFrame_of_idle runs idle uptime (random 0)
  simp only [threadIteration] at stepped
  generalize startFrame runs st.statics uptime (random 0) = started
    at kept resting stepped
  rcases started with ⟨statics, inputs⟩
  cases inputs with
  | none =>
      cases stepped
      exact ⟨kept, fun _ => rfl⟩
  | some inputs =>
      refine ⟨?_, fun idle => by cases resting idle⟩
      rcases Option.bind_eq_some_iff.mp stepped with ⟨layout, -, drawing⟩
      rcases Option.map_eq_some_iff.mp drawing with ⟨drawn, -, rfl⟩
      dsimp only
      split_ifs <;> exact kept

theorem darkIfIdle_cleared
    (updates : Updates st event) (clears : Clears st event)
    (stepped : rendererStep options runs st event = some next) :
    DarkIfIdle next := by
  cases event with
  | settingsUpdate store settings stripErr random =>
      have cleared : stripErr = 0 := clears
      have ready : st.statics.backlight.initSuccess = true := updates
      cases stepped
      intro _
      simp [onSettingsUpdate, clearState, ready, cleared]
  | init | thread | keyEvent | keyValue => exact updates.elim

theorem darkIfIdle_kept
    (other : ¬ Updates st event) (dark : DarkIfIdle st)
    (stepped : rendererStep options runs st event = some next) :
    DarkIfIdle next := by
  cases event with
  | init stripReady settingsErr =>
      rw [rendererStep] at stepped
      split_ifs at stepped
      cases stepped
      have same :
          (ykbBacklightInit options st.statics stripReady
                settingsErr).backlight.on =
              st.statics.backlight.on ∧
            (ykbBacklightInit options st.statics stripReady
                settingsErr).backlight.scriptLoaded =
              st.statics.backlight.scriptLoaded := by
        rw [ykbBacklightInit]
        cases stripReady with
        | false => exact ⟨rfl, rfl⟩
        | true =>
            cases options.layout with
            | none => exact ⟨rfl, rfl⟩
            | some layout =>
                simp only [Bool.true_eq_false, if_false]
                split_ifs <;> exact ⟨rfl, rfl⟩
      intro idle
      apply dark
      rwa [Idle, same.1, same.2] at idle
  | settingsUpdate store settings stripErr random =>
      have early : st.statics.backlight.initSuccess = false := by
        simpa [Updates] using other
      cases stepped
      rw [onSettingsUpdate, if_pos early]
      exact dark
  | thread uptime random stripErr =>
      rw [rendererStep] at stepped
      split_ifs at stepped
      rcases thread_backlight stepped with ⟨same, strip⟩
      intro idle
      rw [Idle, same] at idle
      rw [strip idle]
      exact dark idle
  | keyEvent index value =>
      cases stepped
      simp only [kbHandlerOnEvent]
      split <;> exact dark
  | keyValue index value =>
      cases stepped
      simp only [kbHandlerOnValueChanged]
      split <;> exact dark

end Darkness

/--
While the backlight is switched off or has no script, the strip is dark, if it
took what the last update of the settings wrote to it.
-/
theorem strip_dark_while_idle
    {vm : LumiVm} (options : RenderOptions) (runs : LumiVmRuns vm)
    (strip : LedBuffer) (events : List RenderEvent)
    (finish : RendererState vm)
    (ran :
      run (rendererStep options runs) (.initial vm strip) events =
        some finish)
    (cleared :
      LastMeets (rendererStep options runs) Updates Clears
        (strip = LedBuffer.clear) (.initial vm strip) events)
    (idle :
      finish.statics.backlight.on = false ∨
        finish.statics.backlight.scriptLoaded = false) :
    finish.strip = LedBuffer.clear := by
  have dark : DarkIfIdle finish :=
    run_of_lastMeets
      (fun _ _ _ updates clears stepped =>
        darkIfIdle_cleared updates clears stepped)
      (fun _ _ _ other dark stepped => darkIfIdle_kept other dark stepped)
      (fun clear _ => clear) ran cleared
  exact dark idle

/-- The backlight is switched off after a frame. -/
def switchedOff : List RenderEvent :=
  [.init true 0, .settingsUpdate oneScript litSettings 0 0, .thread 5 id 0,
    .settingsUpdate oneScript plainSettings 0 0]

/-- What is left of a run of it. -/
theorem switchedOff_runs :
    ((run (rendererStep oneKey whiteRuns)
        (.initial countingVm LedBuffer.clear) switchedOff).map
      fun finish => finish.statics.backlight.on) = some false := by
  decide +kernel

theorem switchedOff_ready :
    ((run (rendererStep oneKey whiteRuns)
        (.initial countingVm LedBuffer.clear) (switchedOff.take 3)).map
      fun st => st.statics.backlight.initSuccess) = some true := by
  decide +kernel

theorem switchedOff_dark :
    ∃ finish,
      run (rendererStep oneKey whiteRuns)
          (.initial countingVm LedBuffer.clear) switchedOff =
        some finish ∧
      finish.strip = LedBuffer.clear := by
  rcases Option.map_eq_some_iff.mp switchedOff_runs with ⟨finish, ran, off⟩
  refine
    ⟨finish, ran,
      strip_dark_while_idle oneKey whiteRuns LedBuffer.clear switchedOff
        finish ran ?_ (.inl off)⟩
  intro first initialised second updated third drawn fourth _
  have reached := switchedOff_ready
  simp only [switchedOff, List.take, run_cons, run_nil, initialised, updated,
    drawn, Option.bind_some, Option.map_some, Option.some.injEq] at reached
  exact .inl ⟨reached, rfl⟩

end YkbFirmware.Backlight.WholeFrames
