import YkbFirmware.Library.TransitionSystem
import YkbFirmware.Backlight.WholeFrames

/-!
# The script that runs

The program and the state of the VM are statics of their own, and a load that
fails half-way replaces only some of them.  The flag of `lumiscript_vm.c` is
never cleared, so it does not tell; that of `ykb_backlight.c` does.  While it
is set, the program is that of the script which was loaded last, and the state
is one that this program initialised, started and has run on since.
-/

namespace YkbFirmware.Backlight.RunningScript

open YkbFirmware.Library.TransitionSystem
open YkbFirmware.KbHandler.Settings
open YkbFirmware.Backlight.ScriptSlots
open YkbFirmware.Backlight.KeyStorage
open YkbFirmware.Backlight.Renderer
open YkbFirmware.Backlight.WholeFrames

variable {vm : LumiVm}

/-! ## The states of a program -/

/-- The states a program comes to once it has been started. -/
inductive Started
    (options : LumivmOptions) (runs : LumiVmRuns vm) (program : vm.Program) :
    vm.State → Prop where
  | starts {stateStorage : LumiVmStateStorage} {fresh : vm.State}
      (random : Nat)
      (initialised :
        vm.initState program stateStorage options.keyCount = some fresh)
      (succeeded : (runs.runInit program fresh random).1 = some ()) :
      Started options runs program (runs.runInit program fresh random).2
  | updates {state : vm.State} (started : Started options runs program state)
      (inputs : LumiVmInputs) (random : Nat) :
      Started options runs program
        (runs.runUpdate program state inputs random).2
  | renders {state : vm.State} (started : Started options runs program state)
      (keyIndex : Nat) (inputs : LumiVmInputs) (random : Nat) :
      Started options runs program
        (runs.runRender program state keyIndex inputs random).2
  | resets {state : vm.State}
      (started : Started options runs program state) :
      Started options runs program (runs.resetState program state)

/-- The statics of the VM are those of a running script. -/
structure RunsScript
    (options : RenderOptions) (runs : LumiVmRuns vm) (script : List UInt8)
    (statics : LumiscriptStatics vm) (program : vm.Program)
    (state : vm.State) : Prop where
  flag : statics.scriptLoaded = true
  held : statics.program = some program
  current : statics.state = some state
  loads :
    vm.loadProgram script (programStorageOf options.lumivm) = some program
  started : Started options.lumivm runs program state

/-- A script that runs is the one that was loaded last. -/
def Runs
    (options : RenderOptions) (runs : LumiVmRuns vm)
    (script : Option (List UInt8)) (statics : LumiscriptStatics vm) : Prop :=
  ∃ bytecode program state,
    script = some bytecode ∧
      RunsScript options runs bytecode statics program state

section Calls

variable
    {options : RenderOptions} {runs : LumiVmRuns vm}
    {script : Option (List UInt8)} {lumiscript : LumiscriptStatics vm}

/-- A call that runs a script keeps it, if the program steps its state. -/
theorem Runs.runLoaded
    {Answer : Type} (running : Runs options runs script lumiscript)
    {call : vm.Program → vm.State → Option Answer × vm.State}
    (steps :
      ∀ program state, Started options.lumivm runs program state →
        Started options.lumivm runs program (call program state).2) :
    Runs options runs script (Renderer.runLoaded lumiscript call).2 := by
  rcases running with ⟨bytecode, program, state, same, running⟩
  have kept :
      (Renderer.runLoaded lumiscript call).2 =
        { lumiscript with state := some (call program state).2 } := by
    rw [Renderer.runLoaded, if_neg (by simp [running.flag]), running.held,
      running.current]
    dsimp only
    cases (call program state).1 <;> rfl
  refine ⟨bytecode, program, (call program state).2, same, ?_⟩
  rw [kept]
  exact
    ⟨running.flag, running.held, rfl, running.loads,
      steps program state running.started⟩

theorem Runs.update
    (running : Runs options runs script lumiscript)
    (inputs : LumiVmInputs) (random : Nat) :
    Runs options runs script
      (lumiscriptRunUpdate runs lumiscript inputs random).2 :=
  running.runLoaded fun _ _ started => started.updates inputs random

theorem Runs.render
    (running : Runs options runs script lumiscript)
    (inputs : LumiVmInputs) (keyIndex random : Nat) :
    Runs options runs script
      (lumiscriptRunRender runs lumiscript inputs keyIndex random).2 :=
  running.runLoaded fun _ _ started => started.renders keyIndex inputs random

theorem Runs.reset (running : Runs options runs script lumiscript) :
    Runs options runs script (lumiscriptResetState runs lumiscript).2 :=
  running.runLoaded fun _ _ started => started.resets

/-- A script that is loaded and started runs. -/
theorem runs_of_loadScript
    (lumiscript : LumiscriptStatics vm) (bytecode : List UInt8)
    (random : Nat)
    (succeeds :
      (loadScript options runs lumiscript bytecode random).2.Succeed) :
    Runs options runs (some bytecode)
      (loadScript options runs lumiscript bytecode random).1 := by
  rw [loadScript] at succeeds ⊢
  generalize returned :
    lumiscriptLoad options.lumivm vm lumiscript bytecode = loaded
    at succeeds ⊢
  rcases loaded with ⟨after, err⟩
  dsimp only at succeeds ⊢
  split_ifs at succeeds ⊢ with refused
  · exact absurd succeeds.1 refused
  · rw [not_not.mp refused] at returned
    cases loaded_of_returned returned with
    | @intro req program state stateStorage _ _ _ loads initialises =>
        have ran := succeeds.2
        simp only [lumiscriptRunInit, Renderer.runLoaded] at ran ⊢
        cases answer : (runs.runInit program state random).1 with
        | none => simp [answer, errorOf] at ran
        | some done =>
            refine
              ⟨bytecode, program, (runs.runInit program state random).2, rfl,
                ?_⟩
            simp only [Bool.true_eq_false, if_false]
            exact ⟨rfl, rfl, rfl, loads, .starts random initialises answer⟩

/-- An unfinished load leaves nothing that runs. -/
theorem runs_of_takeSettings
    {statics : RenderState vm} (store : ScriptStore) (settings : KbSettings)
    (random : Nat) (ready : statics.backlight.initSuccess = true)
    (loaded :
      (takeSettings options runs statics store settings
          random).backlight.scriptLoaded =
        true) :
    Runs options runs
      (takeSettings options runs statics store settings
        random).backlight.vmScript
      (takeSettings options runs statics store settings
        random).lumiscript := by
  rw [takeSettings] at loaded ⊢
  dsimp only at loaded ⊢
  have succeeded :=
    (SettingsUpdate.onSettingsUpdate_scriptLoaded ready).mp loaded
  rw [SettingsUpdate.onSettingsUpdate_vmScript loaded ready]
  rcases Option.isSome_iff_exists.mp succeeded.1 with ⟨slot, found⟩
  simp only [found, Option.map_some] at succeeded ⊢
  exact runs_of_loadScript statics.lumiscript _ random succeeded.2

/-! ## Steps -/

/-- While the backlight has a script, it runs. -/
def Running
    (options : RenderOptions) (runs : LumiVmRuns vm)
    (statics : RenderState vm) : Prop :=
  statics.backlight.scriptLoaded = true →
    Runs options runs statics.backlight.vmScript statics.lumiscript

theorem Running.startFrame
    {statics : RenderState vm} (running : Running options runs statics)
    (uptime : Int) (random : Nat) :
    Running options runs (startFrame runs statics uptime random).1 := by
  rw [Running, startFrame_backlight]
  intro loaded
  have before := running loaded
  simp only [Renderer.startFrame]
  split_ifs
  · exact before
  · exact before
  · split <;> exact before.update _ random

theorem runs_of_drawKeys
    (statics : RenderState vm) (layout : BacklightLayout)
    (inputs : LumiVmInputs) (random : Nat → Nat) (keys : List Nat)
    (running : Runs options runs script lumiscript)
    {buffer : LedBuffer} {drawn : LumiscriptStatics vm × LedBuffer × Bool}
    (drew :
      drawKeys options runs statics layout inputs random keys lumiscript
          buffer =
        some drawn) :
    Runs options runs script drawn.1 := by
  induction keys generalizing lumiscript buffer with
  | nil =>
      cases drew
      exact running
  | cons i rest induction =>
      have after :
          Runs options runs script
            (renderKey runs statics layout inputs lumiscript i
              (random i)).2 :=
        running.render _ i (random i)
      simp only [drawKeys] at drew
      cases rendered :
          (renderKey runs statics layout inputs lumiscript i (random i)).1 with
      | error err =>
          simp only [rendered] at drew
          cases drew
          exact after
      | ok color =>
          simp only [rendered] at drew
          rcases Option.bind_eq_some_iff.mp drew with ⟨led, -, others⟩
          exact induction after others

theorem running_thread
    {st next : RendererState vm}
    (running : Running options runs st.statics) (uptime : Int)
    (random : Nat → Nat) (stripErr : Int)
    (stepped :
      threadIteration options runs st uptime random stripErr = some next) :
    Running options runs next.statics := by
  have begun := running.startFrame uptime (random 0)
  simp only [threadIteration] at stepped
  generalize startFrame runs st.statics uptime (random 0) = started
    at begun stepped
  rcases started with ⟨statics, inputs⟩
  cases inputs with
  | none =>
      cases stepped
      exact begun
  | some inputs =>
      rcases Option.bind_eq_some_iff.mp stepped with ⟨layout, -, drawing⟩
      rcases Option.map_eq_some_iff.mp drawing with ⟨drawn, drew, rfl⟩
      dsimp only
      split_ifs
      all_goals
        exact fun loaded =>
          runs_of_drawKeys statics layout inputs _ _ (begun loaded) drew

theorem running_step
    {st next : RendererState vm} {event : RenderEvent}
    (running : Running options runs st.statics)
    (stepped : rendererStep options runs st event = some next) :
    Running options runs next.statics := by
  cases event with
  | init stripReady settingsErr =>
      rw [rendererStep] at stepped
      split_ifs at stepped
      cases stepped
      dsimp only
      rw [ykbBacklightInit]
      cases stripReady with
      | false => exact running
      | true =>
          cases options.layout with
          | none => exact running
          | some layout =>
              simp only [Bool.true_eq_false, if_false]
              split_ifs <;> exact running
  | settingsUpdate store settings stripErr random =>
      cases stepped
      rw [onSettingsUpdate]
      split_ifs with early
      · exact running
      · have ready : st.statics.backlight.initSuccess = true := by
          simpa using early
        rw [clearState]
        dsimp only
        split_ifs
        · exact runs_of_takeSettings store settings random ready
        · apply runs_of_takeSettings store settings random
          rw [resetScript]
          split_ifs <;> exact ready
  | thread uptime random stripErr =>
      rw [rendererStep] at stepped
      split_ifs at stepped
      exact running_thread running uptime random stripErr stepped
  | keyEvent index value =>
      cases stepped
      simp only [kbHandlerOnEvent]
      split <;> exact running
  | keyValue index value =>
      cases stepped
      simp only [kbHandlerOnValueChanged]
      split <;> exact running

end Calls

/--
While the backlight has a script, the statics of the VM hold the program of
the script that was loaded last, and a state which this program has
initialised, started and run on from: never parts of two scripts, and never
those of a load that failed.
-/
theorem running_script_is_whole
    (options : RenderOptions) (runs : LumiVmRuns vm) (strip : LedBuffer)
    (events : List RenderEvent) (finish : RendererState vm)
    (ran :
      run (rendererStep options runs) (.initial vm strip) events =
        some finish)
    (loaded : finish.statics.backlight.scriptLoaded = true) :
    ∃ script program state,
      finish.statics.backlight.vmScript = some script ∧
        finish.statics.lumiscript.scriptLoaded = true ∧
        finish.statics.lumiscript.program = some program ∧
        finish.statics.lumiscript.state = some state ∧
        vm.loadProgram script (programStorageOf options.lumivm) =
          some program ∧
        Started options.lumivm runs program state := by
  have kept (st : RendererState vm) (event : RenderEvent)
      (next : RendererState vm) (running : Running options runs st.statics)
      (stepped : rendererStep options runs st event = some next) :
      Running options runs next.statics :=
    running_step running stepped
  have initially :
      Running options runs (RendererState.initial vm strip).statics :=
    fun impossible => Bool.noConfusion impossible
  rcases run_preserves kept initially ran loaded with
    ⟨script, program, state, same, running⟩
  exact
    ⟨script, program, state, same, running.flag, running.held,
      running.current, running.loads, running.started⟩

theorem frameAndUpdate_loaded :
    ((run (rendererStep oneKey whiteRuns)
        (.initial countingVm LedBuffer.clear) frameAndUpdate).map
      fun finish => finish.statics.backlight.scriptLoaded) = some true := by
  decide +kernel

/-- The script that paints the second frame. -/
theorem frameAndUpdate_whole :
    ∃ finish program state,
      run (rendererStep oneKey whiteRuns)
          (.initial countingVm LedBuffer.clear) frameAndUpdate =
        some finish ∧
      finish.statics.lumiscript.state = some state ∧
        Started oneKey.lumivm whiteRuns program state := by
  rcases Option.map_eq_some_iff.mp frameAndUpdate_loaded with
    ⟨finish, ran, loaded⟩
  rcases
      running_script_is_whole oneKey whiteRuns LedBuffer.clear
        frameAndUpdate finish ran loaded with
    ⟨_, program, state, -, -, -, current, -, started⟩
  exact ⟨finish, program, state, ran, current, started⟩

end YkbFirmware.Backlight.RunningScript
