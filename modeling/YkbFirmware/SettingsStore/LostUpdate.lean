import YkbFirmware.SettingsStore.Store

/-!
# A host update against an FN shortcut

Another thread applies `requested` while the core thread handles one FN
shortcut.  Both go through `kb_settings_apply`, whose locked store, save and
callbacks are separate steps; the shortcut changes the handler's snapshot in
place first.  The shortcut's store puts the snapshot over the settings, so it
must not come between the other thread's store and the callback that brings
the snapshot up to date.
-/

namespace YkbFirmware.SettingsStore.LostUpdate

open YkbFirmware.Library.TransitionSystem
open YkbFirmware.KbHandler.Settings
open YkbFirmware.KbHandler.SettingsCheck
open YkbFirmware.SettingsStore.Store

/-! ## The two threads -/

/-- Where the other thread is in `kb_settings_apply(&requested)`. -/
inductive HostPhase where
  | waiting
  | stored
  | saved
  | finished
deriving DecidableEq, Repr

/-- Where the core thread is in the branch of the matching shortcut. -/
inductive CorePhase where
  | waiting
  | mutated
  | stored
  | saved
  | finished
deriving DecidableEq, Repr

/-- The statics of both modules and the position of the threads. -/
structure Shared where
  store : KbSettingsStore
  storage : Option StoredItem
  settingsSnapshot : KbSettings
  host : HostPhase
  core : CorePhase

inductive UpdateEvent where
  | hostStore
  | hostSave (saveErr : Int)
  | hostCallbacks
  | coreMutate
  | coreStore
  | coreSave (saveErr : Int)
  | coreCallbacks
deriving DecidableEq, Repr

section Steps

variable
    (options : SettingsOptions) (slots : ScriptSlotTable)
    (shortcut : KbFnShortcut) (requested : KbSettings)

/-- The locked section of `kb_settings_apply`. -/
def applyStore (state : Shared) (settings : KbSettings) : Shared :=
  { state with store := storeApplied state.store settings }

/-- `kb_settings_save` as part of a call. -/
def applySave (state : Shared) (saveErr : Int) : Shared :=
  { state with
    storage :=
      (kbSettingsSave options state.store state.storage saveErr).storage }

/--
The callbacks on `notify_snapshot`, of which the handler's copies it; they do
not return if that one panics.
-/
def applyCallbacks (state : Shared) : Option Shared :=
  let update :=
    kbHandlerOnSettingsUpdate options.handler state.store.notifySnapshot
  if update.panic.isSome then
    none
  else
    some { state with settingsSnapshot := update.settingsSnapshot }

/-- The next step of one of the threads. -/
def updateStep (state : Shared) : UpdateEvent → Option Shared
  | .hostStore =>
      if state.host = .waiting then
        some { applyStore state requested with host := .stored }
      else
        none
  | .hostSave saveErr =>
      if state.host = .stored then
        some { applySave options state saveErr with host := .saved }
      else
        none
  | .hostCallbacks =>
      if state.host = .saved then
        (applyCallbacks options state).map fun called =>
          { called with host := .finished }
      else
        none
  | .coreMutate =>
      if state.core = .waiting then
        match
            executeFnAction options.handler slots shortcut
              state.settingsSnapshot with
        | some changed =>
            some { state with settingsSnapshot := changed, core := .mutated }
        | none => some { state with core := .finished }
      else
        none
  | .coreStore =>
      if state.core = .mutated then
        some
          { applyStore state state.settingsSnapshot with core := .stored }
      else
        none
  | .coreSave saveErr =>
      if state.core = .stored then
        some { applySave options state saveErr with core := .saved }
      else
        none
  | .coreCallbacks =>
      if state.core = .saved then
        (applyCallbacks options state).map fun called =>
          { called with core := .finished }
      else
        none

end Steps

/-- Nothing is under way and all copies agree. -/
def settled
    (settings : KbSettings) (registered : Bool)
    (storage : Option StoredItem) : Shared where
  store :=
    { kbSettings := settings
      settingsRegistered := registered
      successfullyLoaded := true
      notifySnapshot := settings }
  storage := storage
  settingsSnapshot := settings
  host := .waiting
  core := .waiting

/-- Uninterrupted, the steps of the other thread are `kb_settings_apply`. -/
theorem host_alone
    {options : SettingsOptions} {slots : ScriptSlotTable}
    {shortcut : KbFnShortcut} {requested : KbSettings}
    {state finish : Shared} {saveErr : Int}
    (ran :
      run (updateStep options slots shortcut requested) state
          [.hostStore, .hostSave saveErr, .hostCallbacks] =
        some finish) :
    let applied :=
      kbSettingsApply options state.store state.storage (some requested)
        saveErr
    applied.panic = none ∧ finish.store = applied.store ∧
      finish.storage = applied.storage ∧
        finish.settingsSnapshot = applied.store.notifySnapshot := by
  by_cases waiting : state.host = .waiting
  · cases updated :
        (kbHandlerOnSettingsUpdate options.handler requested).panic with
    | some fault =>
        simp [updateStep, waiting, applyStore, applySave, applyCallbacks,
          storeApplied, updated] at ran
    | none =>
        simp only [run_cons, run_nil, updateStep, if_pos waiting, applyStore,
          applySave, applyCallbacks, storeApplied, updated,
          Option.bind_some, if_true, Option.isSome_none,
          Bool.false_eq_true, if_false, Option.map_some,
          Option.some.injEq] at ran
        subst ran
        refine ⟨?_, rfl, rfl, rfl⟩
        simp [kbSettingsApply, kbSettingsHandleOnUpdateSnapshot, updated,
          storeApplied]
  · simp [updateStep, waiting] at ran

/-! ## Which update survives -/

section Outcome

variable
    {options : SettingsOptions} {slots : ScriptSlotTable}
    {shortcut : KbFnShortcut} {requested initial : KbSettings}
    {state next finish : Shared} {event : UpdateEvent}
    {events : List UpdateEvent}

/-- The settings after the shortcut has run on them. -/
def afterAction
    (options : SettingsOptions) (slots : ScriptSlotTable)
    (shortcut : KbFnShortcut) (settings : KbSettings) : KbSettings :=
  (executeFnAction options.handler slots shortcut settings).getD settings

/-- The result of the shortcut then the request, or the other way round. -/
def SequentialResult
    (options : SettingsOptions) (slots : ScriptSlotTable)
    (shortcut : KbFnShortcut) (requested result : KbSettings) : Prop :=
  result = requested ∨
    result = afterAction options slots shortcut requested

/--
The core thread does not store while the other thread is between its store
and its callback, unless the stored value is the result of an order anyway.
-/
def NotBetween
    (options : SettingsOptions) (slots : ScriptSlotTable)
    (shortcut : KbFnShortcut) (requested initial : KbSettings)
    (state : Shared) (event : UpdateEvent) : Prop :=
  event = .coreStore → state.host = .stored ∨ state.host = .saved →
    SequentialResult options slots shortcut requested
      (afterAction options slots shortcut initial)

/-- What the handler's snapshot holds until the core thread stores it. -/
structure Cached
    (options : SettingsOptions) (slots : ScriptSlotTable)
    (shortcut : KbFnShortcut) (requested initial : KbSettings)
    (state : Shared) : Prop where
  untouched :
    state.core = .waiting → state.host ≠ .finished →
      state.settingsSnapshot = initial
  refreshed :
    state.core = .waiting → state.host = .finished →
      state.settingsSnapshot = requested
  mutated :
    state.core = .mutated → state.host ≠ .finished →
      state.settingsSnapshot = afterAction options slots shortcut initial
  overwritten :
    state.core = .mutated → state.host = .finished →
      SequentialResult options slots shortcut requested
        state.settingsSnapshot
  applied :
    state.core = .waiting ∨ state.core = .mutated →
      state.host ≠ .waiting →
        state.store.kbSettings = requested ∧
          state.store.notifySnapshot = requested

/-- The request has been stored and is not reflected any more. -/
def Lost
    (options : SettingsOptions) (slots : ScriptSlotTable)
    (shortcut : KbFnShortcut) (requested : KbSettings)
    (state : Shared) : Prop :=
  state.host ≠ .waiting ∧
    ¬ SequentialResult options slots shortcut requested
        state.store.kbSettings

theorem applyCallbacks_some {called : Shared}
    (returned : applyCallbacks options state = some called) :
    called =
      { state with settingsSnapshot := state.store.notifySnapshot } := by
  rw [applyCallbacks] at returned
  split_ifs at returned
  cases returned
  rfl

/-- The steps of both threads, each with the condition it is taken under. -/
inductive UpdateStep
    (options : SettingsOptions) (slots : ScriptSlotTable)
    (shortcut : KbFnShortcut) (requested : KbSettings) (state : Shared) :
    UpdateEvent → Shared → Prop where
  | hostStore (waiting : state.host = .waiting) :
      UpdateStep options slots shortcut requested state .hostStore
        { applyStore state requested with host := .stored }
  | hostSave {saveErr : Int} (stored : state.host = .stored) :
      UpdateStep options slots shortcut requested state (.hostSave saveErr)
        { applySave options state saveErr with host := .saved }
  | hostCallbacks (saved : state.host = .saved) :
      UpdateStep options slots shortcut requested state .hostCallbacks
        { state with
          settingsSnapshot := state.store.notifySnapshot
          host := .finished }
  | coreMutate {changed : KbSettings}
      (waiting : state.core = .waiting)
      (executed :
        executeFnAction options.handler slots shortcut
            state.settingsSnapshot =
          some changed) :
      UpdateStep options slots shortcut requested state .coreMutate
        { state with settingsSnapshot := changed, core := .mutated }
  | coreIgnores (waiting : state.core = .waiting) :
      UpdateStep options slots shortcut requested state .coreMutate
        { state with core := .finished }
  | coreStore (mutated : state.core = .mutated) :
      UpdateStep options slots shortcut requested state .coreStore
        { applyStore state state.settingsSnapshot with core := .stored }
  | coreSave {saveErr : Int} (stored : state.core = .stored) :
      UpdateStep options slots shortcut requested state (.coreSave saveErr)
        { applySave options state saveErr with core := .saved }
  | coreCallbacks (saved : state.core = .saved) :
      UpdateStep options slots shortcut requested state .coreCallbacks
        { state with
          settingsSnapshot := state.store.notifySnapshot
          core := .finished }

theorem updateStep_cases
    (stepped :
      updateStep options slots shortcut requested state event =
        some next) :
    UpdateStep options slots shortcut requested state event next := by
  cases event with
  | hostStore =>
      rw [updateStep] at stepped
      split_ifs at stepped with waiting
      cases stepped
      exact .hostStore waiting
  | hostSave saveErr =>
      rw [updateStep] at stepped
      split_ifs at stepped with stored
      cases stepped
      exact .hostSave stored
  | hostCallbacks =>
      rw [updateStep] at stepped
      split_ifs at stepped with saved
      rcases Option.map_eq_some_iff.mp stepped with ⟨called, returned, rfl⟩
      rw [applyCallbacks_some returned]
      exact .hostCallbacks saved
  | coreMutate =>
      rw [updateStep] at stepped
      split_ifs at stepped with waiting
      cases executed :
          executeFnAction options.handler slots shortcut
            state.settingsSnapshot with
      | none =>
          rw [executed] at stepped
          cases stepped
          exact .coreIgnores waiting
      | some changed =>
          rw [executed] at stepped
          cases stepped
          exact .coreMutate waiting executed
  | coreStore =>
      rw [updateStep] at stepped
      split_ifs at stepped with mutated
      cases stepped
      exact .coreStore mutated
  | coreSave saveErr =>
      rw [updateStep] at stepped
      split_ifs at stepped with stored
      cases stepped
      exact .coreSave stored
  | coreCallbacks =>
      rw [updateStep] at stepped
      split_ifs at stepped with saved
      rcases Option.map_eq_some_iff.mp stepped with ⟨called, returned, rfl⟩
      rw [applyCallbacks_some returned]
      exact .coreCallbacks saved

theorem cached_settled
    (registered : Bool) (storage : Option StoredItem) :
    Cached options slots shortcut requested initial
      (settled initial registered storage) where
  untouched := fun _ _ => rfl
  refreshed := fun _ impossible => by cases impossible
  mutated := fun impossible => by cases impossible
  overwritten := fun impossible => by cases impossible
  applied := fun _ started => absurd rfl started

/-- Nothing is claimed about the snapshot behind the core thread's store. -/
theorem Cached.past
    (started : state.core ≠ .waiting) (applied : state.core ≠ .mutated) :
    Cached options slots shortcut requested initial state where
  untouched := fun core => absurd core started
  refreshed := fun core => absurd core started
  mutated := fun core => absurd core applied
  overwritten := fun core => absurd core applied
  applied := fun core => by
    rcases core with core | core
    · exact absurd core started
    · exact absurd core applied

/-- Any step keeps what is known about the snapshot. -/
theorem cached_step
    (cached : Cached options slots shortcut requested initial state)
    (stepped :
      updateStep options slots shortcut requested state event =
        some next) :
    Cached options slots shortcut requested initial next := by
  cases updateStep_cases stepped with
  | hostStore waiting =>
      have pending : state.host ≠ .finished := by simp [waiting]
      exact
        { untouched := fun core _ => cached.untouched core pending
          refreshed := fun _ impossible => by cases impossible
          mutated := fun core _ => cached.mutated core pending
          overwritten := fun _ impossible => by cases impossible
          applied := fun _ _ => ⟨rfl, rfl⟩ }
  | hostSave stored =>
      have pending : state.host ≠ .finished := by simp [stored]
      exact
        { untouched := fun core _ => cached.untouched core pending
          refreshed := fun _ impossible => by cases impossible
          mutated := fun core _ => cached.mutated core pending
          overwritten := fun _ impossible => by cases impossible
          applied := fun core _ => cached.applied core (by simp [stored]) }
  | hostCallbacks saved =>
      have started : state.host ≠ .waiting := by simp [saved]
      exact
        { untouched := fun _ impossible => absurd rfl impossible
          refreshed := fun core _ =>
            (cached.applied (Or.inl core) started).2
          mutated := fun _ impossible => absurd rfl impossible
          overwritten := fun core _ =>
            Or.inl (cached.applied (Or.inr core) started).2
          applied := fun core _ => cached.applied core started }
  | coreMutate waiting executed =>
      have applied := cached.applied (Or.inl waiting)
      exact
        { untouched := fun impossible => by cases impossible
          refreshed := fun impossible => by cases impossible
          mutated := fun _ pending => by
            rw [cached.untouched waiting pending] at executed
            simp [afterAction, executed]
          overwritten := fun _ finished => by
            rw [cached.refreshed waiting finished] at executed
            exact Or.inr (by simp [afterAction, executed])
          applied := fun _ => applied }
  | coreIgnores | coreStore | coreSave | coreCallbacks =>
      exact .past (by simp) (by simp)

/-- A step that stores nothing loses nothing. -/
theorem lost_congr
    (other : event ≠ .coreStore)
    (host : next.host = .waiting ↔ state.host = .waiting)
    (same : next.store.kbSettings = state.store.kbSettings) :
    ¬ Lost options slots shortcut requested next ↔
      ¬ Lost options slots shortcut requested state ∧
        NotBetween options slots shortcut requested initial state event := by
  have meets :
      NotBetween options slots shortcut requested initial state event :=
    fun impossible => absurd impossible other
  rw [Lost, Lost, same, ne_eq, host, and_iff_left meets]

/-- The request is lost exactly by a store in between. -/
theorem lost_step
    (cached : Cached options slots shortcut requested initial state)
    (stepped :
      updateStep options slots shortcut requested state event =
        some next) :
    ¬ Lost options slots shortcut requested next ↔
      ¬ Lost options slots shortcut requested state ∧
        NotBetween options slots shortcut requested initial state event := by
  cases updateStep_cases stepped with
  | hostStore waiting =>
      constructor
      · exact fun _ =>
          ⟨fun lost => lost.1 waiting, fun impossible => by
            cases impossible⟩
      · exact fun _ lost => lost.2 (Or.inl rfl)
  | hostSave stored => exact lost_congr (by simp) (by simp [stored]) rfl
  | hostCallbacks saved =>
      exact lost_congr (by decide) (by simp [saved]) rfl
  | coreStore mutated =>
      have kept : ¬ Lost options slots shortcut requested state :=
        fun lost =>
          lost.2 (Or.inl (cached.applied (Or.inr mutated) lost.1).1)
      rw [and_iff_right kept]
      constructor
      · intro reflected _ between
        have pending : state.host ≠ .finished := by
          rcases between with between | between <;> simp [between]
        rw [← cached.mutated mutated pending]
        by_contra other
        refine reflected ⟨?_, other⟩
        change state.host ≠ .waiting
        rcases between with between | between <;> simp [between]
      · intro meets lost
        apply lost.2
        change
          SequentialResult options slots shortcut requested
            state.settingsSnapshot
        cases phase : state.host with
        | waiting => exact absurd phase lost.1
        | finished => exact cached.overwritten mutated phase
        | stored =>
            rw [cached.mutated mutated (by simp [phase])]
            exact meets rfl (Or.inl phase)
        | saved =>
            rw [cached.mutated mutated (by simp [phase])]
            exact meets rfl (Or.inr phase)
  | coreMutate | coreIgnores | coreSave | coreCallbacks =>
      exact lost_congr (by simp) Iff.rfl rfl

end Outcome

/--
When both updates are through, the settings are the result of one of the two
orders if and only if the core thread did not store between the other
thread's store and its callback, or stored such a result anyway.
-/
theorem host_update_survives_iff
    (options : SettingsOptions) (slots : ScriptSlotTable)
    (shortcut : KbFnShortcut) (requested initial : KbSettings)
    (registered : Bool) (storage : Option StoredItem)
    (events : List UpdateEvent) (finish : Shared)
    (ran :
      run (updateStep options slots shortcut requested)
          (settled initial registered storage) events =
        some finish)
    (finished : finish.host = .finished) :
    SequentialResult options slots shortcut requested
        finish.store.kbSettings ↔
      StepsMeet (updateStep options slots shortcut requested)
        (NotBetween options slots shortcut requested initial)
        (settled initial registered storage) events := by
  have kept :=
    @cached_step options slots shortcut requested initial
  have exactly :=
    @lost_step options slots shortcut requested initial
  have fresh :
      ¬ Lost options slots shortcut requested
          (settled initial registered storage) :=
    fun lost => lost.1 rfl
  have survives :=
    run_iff_stepsMeet
      (fun _ _ _ cached stepped => kept cached stepped)
      (fun _ _ _ cached stepped => exactly cached stepped)
      (cached_settled registered storage) ran
  rw [and_iff_right fresh] at survives
  rw [← survives, Lost, not_and_not_right]
  constructor
  · exact fun result _ => result
  · exact fun result => result (by simp [finished])

/-! ## An interleaving that loses the request -/

/-- No script slots. -/
def noSlots : ScriptSlotTable where
  count := 0
  occupied := fun _ => false
  size := fun _ => 0

/-- FN+A selects race mode. -/
def raceShortcut : KbFnShortcut where
  key := 0x04
  action := .modeRace
  param := 0

/-- The request raises the thresholds. -/
def raisedThresholds : KbSettings :=
  { plainSettings with thresholds := fun _ => 2 }

/-- The request is stored while the shortcut is being saved. -/
def requestDuringShortcut : List UpdateEvent :=
  [.coreMutate, .coreStore, .hostStore, .coreSave 0, .hostSave 0,
    .coreCallbacks, .hostCallbacks]

/-- It survives, as if it had been made after the shortcut. -/
theorem request_during_shortcut_survives :
    ∃ finish,
      run (updateStep exampleOptions noSlots raceShortcut raisedThresholds)
            (settled plainSettings true none) requestDuringShortcut =
          some finish ∧
        finish.host = .finished ∧ finish.core = .finished ∧
        finish.store.kbSettings = raisedThresholds ∧
        SequentialResult exampleOptions noSlots raceShortcut
          raisedThresholds finish.store.kbSettings := by
  refine ⟨_, rfl, rfl, rfl, rfl, ?_⟩
  refine
    (host_update_survives_iff exampleOptions noSlots raceShortcut
      raisedThresholds plainSettings true none requestDuringShortcut _ rfl
      rfl).mpr ⟨fun same => (nomatch same), fun mutated first => ?_⟩
  cases first
  -- the core thread stores once, and before the other thread
  refine ⟨fun _ busy => absurd busy (by decide), fun stored second => ?_⟩
  cases second
  refine
    @stepsMeet_of_invariant _ _ _ _ (fun _ => True) _
      (fun _ _ member _ same => ?_) (fun _ _ _ _ _ _ => trivial) _ trivial
  rw [same] at member
  simp at member

/-- The shortcut while the request is being saved. -/
theorem request_lost_during_save :
    ¬ ∀ (events : List UpdateEvent) (finish : Shared),
      run (updateStep exampleOptions noSlots raceShortcut raisedThresholds)
            (settled plainSettings true none) events =
          some finish →
        finish.host = .finished → finish.core = .finished →
          SequentialResult exampleOptions noSlots raceShortcut
            raisedThresholds finish.store.kbSettings := by
  intro always
  have result :=
    always
      [.hostStore, .coreMutate, .coreStore, .coreSave 0, .coreCallbacks,
        .hostSave 0, .hostCallbacks]
      _ rfl rfl rfl
  have lost : (1 : UInt16) = 2 := by
    rcases result with same | same <;>
      exact congrArg (fun settings => settings.thresholds 0) same
  exact absurd lost (by decide)

end YkbFirmware.SettingsStore.LostUpdate
