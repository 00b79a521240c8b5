import YkbFirmware.SettingsStore.Persistence
import YkbFirmware.Backlight.ScriptSlots
import YkbFirmware.VendorHid.Protocol

/-!
# Acknowledged changes

The requests that change settings or a script slot, on a device that keeps
both in the settings storage.  Every call of `settings_save_one` has a result
of its own; a call that fails leaves the stored item as it was.

The functions that save return nothing, so the result is lost between
`settings_save_one` and the response.  A request answered with its OK code is
durable exactly if the save got to the changed item and succeeded, or the
item held the same content before.
-/

namespace YkbFirmware.VendorHid.Durability

open YkbFirmware.Library.ByteMemory
open YkbFirmware.Library.TransitionSystem
open YkbFirmware.KbHandler.Settings
open YkbFirmware.KbHandler.SettingsCheck
open YkbFirmware.Protocol.Receiver
open YkbFirmware.SettingsStore.Store
open YkbFirmware.SettingsStore.Persistence
open YkbFirmware.Backlight.ScriptSlots
open YkbFirmware.VendorHid.Protocol

/-! ## The device -/

/--
The options of the three subsystems; `settingsOfBytes` is the cast of the
request's data to `kb_settings_t`.
-/
structure DeviceOptions where
  protocol : VendorHidOptions
  settings : SettingsOptions
  scripts : ScriptOptions
  settingsOfBytes : List UInt8 → KbSettings
  sameSlotSize : scripts.scriptSlotSize = protocol.scriptSlotSize

/-- Variables and storage of `kb_settings.c` and `ykb_backlight.c`. -/
structure Device where
  settings : KbSettingsStore
  settingsStorage : Option StoredItem
  scripts : ScriptStore
  scriptStorage : ScriptStorage
  panic : Option Panic

section Services

variable
    (options : DeviceOptions) (saves : Nat → Int) (device : Device)

/-- `kb_settings_apply` on the device. -/
def applySettings (settings : KbSettings) : Int × Device :=
  let applied :=
    kbSettingsApply options.settings device.settings device.settingsStorage
      (some settings) (saves 0)
  (applied.returned,
    { device with
      settings := applied.store
      settingsStorage := applied.storage
      panic := applied.panic })

/-- `ykb_backlight_set_script_slot` on the device. -/
def setSlot (slot : UInt16) (input : ScriptSlot) : Int × Device :=
  let stored :=
    ykbBacklightSetScriptSlot options.scripts device.settings.kbSettings
      device.scripts device.scriptStorage slot (some input) saves
  (stored.returned,
    { device with
      scripts := stored.store
      scriptStorage := stored.storage })

/-- The services of the device; those of other subsystems are `base`'s. -/
def deviceServices (base : VendorHidServices Device) :
    VendorHidServices Device :=
  { base with
    kbSettingsApply := fun device bytes =>
      applySettings options saves device (options.settingsOfBytes bytes)
    ykbBacklightGetScriptSlot := fun device slot =>
      ykbBacklightGetScriptSlot options.scripts device.scripts slot
    ykbBacklightSetScriptSlot := setSlot options saves }

end Services

/-! ## Requests -/

/-- What a request establishes. -/
inductive Content where
  | settings (settings : KbSettings)
  | slot (slot : UInt16) (content : ScriptSlot)

/-- The content of the empty slot a clear request stores. -/
def clearedSlot (options : VendorHidOptions) : ScriptSlot where
  occupied := false
  size := 0
  name := List.replicate options.scriptNameSize 0
  bytecode := List.replicate options.scriptSlotSize 0

/-- What the request in the buffer establishes when it is executed. -/
def requestedContent
    (options : DeviceOptions) (before : Device) (rxBuffer : Memory) :
    Option Content :=
  let request := rxBuffer.shift 1
  let slot := requestSlot request
  match requestedResponse options.protocol rxBuffer with
  | .setSettingsOk =>
      some
        (.settings
          (options.settingsOfBytes
            (request.readBlock 0 options.protocol.kbSettingsSize)))
  | .setLumiscriptSlotOk =>
      some
        (.slot slot
          (vendorHidProtocolScriptSlotFromWire options.protocol request))
  | .clearLumiscriptSlotOk => some (.slot slot (clearedSlot options.protocol))
  | .renameLumiscriptSlotOk =>
      some
        (.slot slot
          { before.scripts.scriptSlots slot.toNat with
            name := terminatedName options.protocol request 2 })
  | _ => none

/-- A request as the work handler finds it, and the results of its saves. -/
structure RequestEvent where
  rx : YkbProtocolRxState
  saves : Nat → Int

def RequestEvent.rxBuffer (event : RequestEvent) : Memory :=
  event.rx.buffer

/-- A request that was answered: the device before it and the response. -/
structure Answered where
  before : Device
  rxBuffer : Memory
  response : List UInt8

/-- The device, and the last request if it was answered. -/
structure RequestState where
  device : Device
  answered : Option Answered

def RequestState.start (device : Device) : RequestState where
  device := device
  answered := none

section Steps

variable (options : DeviceOptions) (base : VendorHidServices Device)

/-- The context in which the work handler runs. -/
def requestContext (event : RequestEvent) : VendorHidProtocolCtx where
  rx := event.rx
  currentResponse := requestedResponse options.protocol event.rxBuffer
  busy := true

/-- A panic in a subscriber ends everything before the response is sent. -/
def requestStep (state : RequestState) (event : RequestEvent) :
    Option RequestState :=
  if state.device.panic.isSome then
    none
  else
    let executed :=
      executeRequest options.protocol
        (deviceServices options event.saves base) state.device
        (requestContext options event)
    some
      { device := executed.2
        answered :=
          if executed.2.panic.isSome then
            none
          else
            some ⟨state.device, event.rxBuffer, executed.1⟩ }

end Steps

/-! ## Durability -/

section Durability

variable (options : DeviceOptions)

/-- Loading the settings item, which is read completely. -/
def loadSettings (device : Device) : Option SetOutcome :=
  device.settingsStorage.map fun item =>
    kbSettingsHandlerSet options.settings device.settings kbSettingsItem
      item.len item.len item.image

/-- Loading the item of a slot, which is read completely. -/
def loadScript (device : Device) (slot : UInt16) :
    Option (ScriptStore × Int) :=
  (device.scriptStorage (slotKey slot.toNat)).map fun item =>
    ykbBacklightScriptHandlerSet options.scripts device.scripts
      (slotName slot.toNat) item.len item.len item.image

/-- Loading from the storage succeeds and yields the content. -/
def Loads (device : Device) : Content → Prop
  | .settings settings =>
      ∃ loaded,
        loadSettings options device = some loaded ∧
          loaded.returned = 0 ∧ loaded.panic = none ∧
          loaded.store.kbSettings = settings
  | .slot slot content =>
      ∃ loaded,
        loadScript options device slot = some loaded ∧
          loaded.2 = 0 ∧ loaded.1.scriptSlots slot.toNat = content

/-- The last request, if it was answered with its OK code, is durable. -/
def AcknowledgedDurable (state : RequestState) : Prop :=
  ∀ answered, state.answered = some answered →
    ∀ content,
      requestedContent options answered.before answered.rxBuffer =
          some content →
        answered.response =
            codeResponse
              (requestedResponse options.protocol answered.rxBuffer) →
          Loads options state.device content

/-- The content is not accepted: a panic for settings, an error for slots. -/
def Refused : Content → Prop
  | .settings settings => ¬ MouseemuPasses options.settings settings
  | .slot slot content =>
      options.scripts.slotCount ≤ slot.toNat ∨
        options.scripts.scriptSlotSize < content.size.toNat

/-- The save gets to the item and succeeds. -/
def SaveSucceeds (device : Device) (saves : Nat → Int) : Content → Prop
  | .settings _ =>
      device.settings.settingsRegistered = true ∧ saves 0 = 0
  | .slot slot _ =>
      device.scripts.scriptsRegistered = true ∧
        ∀ index, index ≤ slot.toNat → saves index = 0

/-- A request that is accepted is saved, or changes nothing in the storage. -/
def SaveHolds (state : RequestState) (event : RequestEvent) : Prop :=
  ∀ content,
    requestedContent options state.device event.rxBuffer = some content →
      Refused options content ∨
        SaveSucceeds state.device event.saves content ∨
        Loads options state.device content

end Durability

/-! ## What is loaded -/

section Loading

variable
    {options : DeviceOptions} {device other : Device}
    {settings : KbSettings} {slot : UInt16} {content : ScriptSlot}

theorem loads_settings_iff :
    Loads options device (.settings settings) ↔
      MouseemuPasses options.settings settings ∧
        ∃ item, device.settingsStorage = some item ∧
          item.len = options.settings.imageSize ∧
          item.image = kbSettingsImage settings := by
  constructor
  · rintro ⟨loaded, load, returned, panic, same⟩
    rcases Option.map_eq_some_iff.mp load with ⟨item, stored, rfl⟩
    rw [kbSettingsHandlerSet_item] at returned panic same
    split_ifs at returned panic same with fits
    · cases same
      refine ⟨onUpdate_eq_none_iff.mp panic, item, stored, fits.1, ?_⟩
      rw [kbSettingsImage, ← fits.2.2]
    · simp at returned
  · rintro ⟨passes, item, stored, size, image⟩
    refine ⟨_, by rw [loadSettings, stored]; rfl, ?_⟩
    beta_reduce
    rw [kbSettingsHandlerSet_item, image,
      if_pos ⟨size, congrArg Int.ofNat size, rfl⟩]
    exact ⟨rfl, onUpdate_eq_none_iff.mpr passes, rfl⟩

theorem loads_slot_iff (inside : slot.toNat < options.scripts.slotCount) :
    Loads options device (.slot slot content) ↔
      device.scriptStorage (slotKey slot.toNat) =
        some (storedScript options.scripts content) := by
  constructor
  · rintro ⟨loaded, load, returned, same⟩
    rcases Option.map_eq_some_iff.mp load with ⟨item, stored, rfl⟩
    rw [handlerSet_slotName inside] at returned same
    split_ifs at returned same with fits
    · dsimp only at same
      rw [Function.update_self] at same
      rw [stored, storedScript, ← same, ← fits.1, ← fits.2]
    · simp at returned
  · intro stored
    refine ⟨_, by rw [loadScript, stored]; rfl, ?_⟩
    beta_reduce
    rw [handlerSet_slotName inside, if_pos ⟨rfl, rfl⟩]
    exact ⟨rfl, Function.update_self _ _ _⟩

end Loading

/-! ## Storing -/

/-- The call which stores the content. -/
def putContent (options : DeviceOptions) (saves : Nat → Int)
    (device : Device) : Content → Int × Device
  | .settings settings => applySettings options saves device settings
  | .slot slot content => setSlot options saves device slot content

section Storing

variable
    {options : DeviceOptions} {base : VendorHidServices Device}
    {saves : Nat → Int} {device : Device} {content : Content}

/-- Getting a slot out of range fails as setting it does. -/
theorem renameScriptSlot_eq (request : Memory) :
    vendorHidProtocolRenameScriptSlot options.protocol
        (deviceServices options saves base) device request =
      setSlot options saves device (requestSlot request)
        { device.scripts.scriptSlots (requestSlot request).toNat with
          name := terminatedName options.protocol request 2 } := by
  rw [vendorHidProtocolRenameScriptSlot]
  dsimp only [deviceServices]
  rw [ykbBacklightGetScriptSlot]
  by_cases outside :
      options.scripts.slotCount ≤ (requestSlot request).toNat
  · rw [if_pos outside, setSlot, ykbBacklightSetScriptSlot]
    dsimp only
    rw [if_pos outside]
  · rw [if_neg outside]

/-- The handler stores what the request establishes. -/
theorem executeRequest_put
    {event : RequestEvent}
    (requested :
      requestedContent options device event.rxBuffer = some content) :
    executeRequest options.protocol (deviceServices options event.saves base)
        device (requestContext options event) =
      (outcomeResponse (requestedResponse options.protocol event.rxBuffer)
          (putContent options event.saves device content).1,
        (putContent options event.saves device content).2) := by
  rw [requestedContent] at requested
  rw [executeRequest, requestContext]
  cases response : requestedResponse options.protocol event.rxBuffer with
  | setSettingsOk =>
      rw [response] at requested
      cases requested
      rfl
  | setLumiscriptSlotOk =>
      rw [response] at requested
      cases requested
      rfl
  | clearLumiscriptSlotOk =>
      rw [response] at requested
      cases requested
      rfl
  | renameLumiscriptSlotOk =>
      rw [response] at requested
      cases requested
      dsimp only
      rw [renameScriptSlot_eq]
      rfl
  | getFeatures | getValues | getSettings | getLumiscriptSlot
  | getLumiscriptSlotInfo | getBatteryState | getSecondaryBatteryState
  | error =>
      rw [response] at requested
      cases requested

/-- The answer is the OK code if and only if the call succeeded. -/
theorem outcomeResponse_eq_iff
    {event : RequestEvent} {err : Int}
    (requested :
      requestedContent options device event.rxBuffer = some content) :
    outcomeResponse (requestedResponse options.protocol event.rxBuffer) err =
        codeResponse (requestedResponse options.protocol event.rxBuffer) ↔
      err = 0 := by
  rw [requestedContent] at requested
  have notError :
      codeResponse (requestedResponse options.protocol event.rxBuffer) ≠
        codeResponse .error := by
    intro same
    cases response : requestedResponse options.protocol event.rxBuffer with
    | setSettingsOk | setLumiscriptSlotOk | clearLumiscriptSlotOk
    | renameLumiscriptSlotOk =>
        rw [response] at same
        exact absurd same (by decide)
    | getFeatures | getValues | getSettings | getLumiscriptSlot
    | getLumiscriptSlotInfo | getBatteryState | getSecondaryBatteryState
    | error =>
        rw [response] at requested
        cases requested
  rw [outcomeResponse]
  by_cases succeeded : err = 0
  · simp [succeeded]
  · rw [if_neg succeeded]
    exact ⟨fun same => absurd same.symm notError, (absurd · succeeded)⟩

/-- A call succeeds and returns unless the content is refused. -/
theorem putContent_accepted_iff (running : device.panic = none) :
    ((putContent options saves device content).1 = 0 ∧
        (putContent options saves device content).2.panic = none) ↔
      ¬ Refused options content := by
  cases content with
  | settings settings =>
      rw [Refused, not_not, ← @onUpdate_eq_none_iff _ _ .apply]
      exact and_iff_right rfl
  | slot slot content =>
      rw [Refused, putContent, setSlot, ykbBacklightSetScriptSlot]
      dsimp only
      by_cases outside : options.scripts.slotCount ≤ slot.toNat
      · rw [if_pos outside]
        simp [outside]
      · rw [if_neg outside]
        by_cases large : options.scripts.scriptSlotSize < content.size.toNat
        · rw [if_pos large]
          simp [large]
        · rw [if_neg large]
          simp [outside, large, running]

/--
After an accepted call the storage loads to the content if the save succeeded
or the storage did so before.
-/
theorem putContent_loads_iff (accepted : ¬ Refused options content) :
    Loads options (putContent options saves device content).2 content ↔
      SaveSucceeds device saves content ∨ Loads options device content := by
  cases content with
  | settings settings =>
      have passes : MouseemuPasses options.settings settings :=
        not_not.mp accepted
      rw [loads_settings_iff, loads_settings_iff, SaveSucceeds]
      simp only [passes, true_and]
      have saved :=
        kbSettingsSave_cases options.settings
          (storeApplied device.settings settings) device.settingsStorage
          (saves 0)
      change
        (∃ item,
          (kbSettingsSave options.settings
              (storeApplied device.settings settings) device.settingsStorage
              (saves 0)).storage = some item ∧ _) ↔ _
      rcases saved with ⟨registered, succeeded, saved⟩ | ⟨skipped, saved⟩
      · rw [saved]
        exact
          ⟨fun _ => .inl ⟨registered, succeeded⟩,
            fun _ => ⟨_, rfl, rfl, rfl⟩⟩
      · rw [saved]
        exact (or_iff_right skipped).symm
  | slot slot content =>
      rcases not_or.mp accepted with ⟨outside, large⟩
      have inside := Nat.not_le.mp outside
      rw [loads_slot_iff inside, loads_slot_iff inside, SaveSucceeds,
        putContent, setSlot, ykbBacklightSetScriptSlot]
      dsimp only
      rw [if_neg outside, if_neg large]
      dsimp only
      rw [saveScripts_at inside]
      split_ifs with saved
      · rw [slotReplaced_scriptSlots]
        exact ⟨fun _ => .inl saved, fun _ => rfl⟩
      · exact (or_iff_right saved).symm

end Storing

/-! ## Runs -/

section Runs

variable
    {options : DeviceOptions} {base : VendorHidServices Device}
    {state next : RequestState} {event : RequestEvent}

/-- Durability after a request that establishes some content. -/
theorem acknowledgedDurable_iff
    {before after : Device} {content : Content} {response : List UInt8}
    (requested :
      requestedContent options before event.rxBuffer = some content) :
    AcknowledgedDurable options
        { device := after
          answered :=
            if after.panic.isSome then
              none
            else
              some ⟨before, event.rxBuffer, response⟩ } ↔
      (response =
          codeResponse (requestedResponse options.protocol event.rxBuffer) ∧
        after.panic = none →
          Loads options after content) := by
  constructor
  · rintro durable ⟨acknowledged, running⟩
    exact
      durable ⟨before, event.rxBuffer, response⟩ (by simp [running]) content
        requested acknowledged
  · intro loads answered was other some acknowledged
    dsimp only at was
    split_ifs at was with stopped
    cases was
    cases requested.symm.trans some
    exact loads ⟨acknowledged, Option.not_isSome_iff_eq_none.mp stopped⟩

/-- A request that establishes nothing owes nothing. -/
theorem acknowledgedDurable_of_none
    {before after : Device} {response : List UInt8}
    (nothing : requestedContent options before event.rxBuffer = none) :
    AcknowledgedDurable options
      { device := after
        answered :=
          if after.panic.isSome then
            none
          else
            some ⟨before, event.rxBuffer, response⟩ } := by
  intro answered was content some
  dsimp only at was
  split_ifs at was
  cases was
  rw [nothing] at some
  cases some

theorem saveHolds_iff
    {content : Content}
    (requested :
      requestedContent options state.device event.rxBuffer = some content) :
    SaveHolds options state event ↔
      Refused options content ∨
        SaveSucceeds state.device event.saves content ∨
        Loads options state.device content := by
  constructor
  · exact fun holds => holds content requested
  · intro holds other some
    cases requested.symm.trans some
    exact holds

/-- A step leaves what it acknowledges durable if and only if the save holds. -/
theorem requestStep_durable_iff
    (stepped : requestStep options base state event = some next) :
    AcknowledgedDurable options next ↔ SaveHolds options state event := by
  rw [requestStep] at stepped
  split_ifs at stepped with stopped
  have running : state.device.panic = none :=
    Option.not_isSome_iff_eq_none.mp stopped
  cases stepped
  cases requested :
      requestedContent options state.device event.rxBuffer with
  | none =>
      refine ⟨fun _ content some => ?_, fun _ => ?_⟩
      · rw [requested] at some
        cases some
      · exact acknowledgedDurable_of_none requested
  | some content =>
      rw [saveHolds_iff requested, executeRequest_put requested,
        acknowledgedDurable_iff requested, outcomeResponse_eq_iff requested,
        putContent_accepted_iff running]
      by_cases refused : Refused options content
      · simp [refused]
      · simp [refused, putContent_loads_iff refused]

/--
In every run of requests, with every pattern of failing saves: whatever was
answered with its OK code can be loaded from the storage right afterwards
exactly if every request is refused, or saved up to the changed item, or
finds its content stored already.
-/
theorem acknowledged_durable_iff
    (options : DeviceOptions) (base : VendorHidServices Device)
    (device : Device) (events : List RequestEvent) (finish : RequestState)
    (ran :
      run (requestStep options base) (RequestState.start device) events =
        some finish) :
    Throughout (requestStep options base) (AcknowledgedDurable options)
        (RequestState.start device) events ↔
      StepsMeet (requestStep options base) (SaveHolds options)
        (RequestState.start device) events := by
  have fresh : AcknowledgedDurable options (RequestState.start device) :=
    fun _ was => nomatch was
  refine Iff.trans ?_ (and_iff_right fresh)
  exact
    throughout_iff_stepsMeet
      (fun _ _ _ _ stepped => requestStep_durable_iff stepped) ran

end Runs

/-! ## A storage that fails once -/

/-- Settings of which every byte is zero. -/
def zeroedSettings : KbSettings :=
  { plainSettings with
    thresholds := fun _ => 0
    maximums := fun _ => 0
    backlight := ⟨false, 0, 0, 0, 0⟩ }

/-- The default sizes with backlight, for requests whose data is zero. -/
def lumiOptions : DeviceOptions where
  protocol :=
    { plainOptions with
      backlight := true
      kbSettingsSize := 508
      sizesFit := by decide }
  settings := exampleOptions
  scripts :=
    { slotCount := 8
      scriptSlotSize := 1024
      imageSize := 1060
      settingsFullNameLen := 74
      countFits := by decide
      namesFit := by decide }
  settingsOfBytes := fun _ => zeroedSettings
  sameSlotSize := rfl

/-- A slot with a script of one byte. -/
def shortScript : ScriptSlot where
  occupied := true
  size := 1
  name := List.replicate 21 0
  bytecode := List.replicate 1024 0

def shortScripts : ScriptStore where
  scriptSlots := fun _ => shortScript
  scriptsRegistered := true
  scriptsLoaded := true
  scriptSlotUpdateCb := false

/-- After a first boot which has saved the defaults. -/
def bootedDevice : Device :=
  let booted :=
    kbSettingsInit exampleOptions plainDefaults (clearedStore zeroedSettings)
      none workingBoot
  { settings := booted.store
    settingsStorage := booted.storage
    scripts := shortScripts
    scriptStorage :=
      ykbBacklightSaveScripts lumiOptions.scripts shortScripts (fun _ => none)
        fun _ => 0
    panic := booted.panic }

def otherServices : VendorHidServices Device where
  features := []
  kbHandlerCoreGetValues := fun _ => []
  kbSettingsGet := fun _ => .ok []
  kbSettingsApply := fun device _ => (0, device)
  ykbBacklightGetScriptSlot := fun _ _ => .error (-34)
  ykbBacklightSetScriptSlot := fun device _ _ => (0, device)
  ykbBattsenseGetState := fun _ => .ok []
  secondaryBattState := fun _ => []

/-- The request with the given first bytes and zeros after them. -/
def requestWith (bytes : List UInt8) (saves : Nat → Int) : RequestEvent where
  rx :=
    ykbProtocolRxInit (Memory.ofList bytes)
      (UInt16.ofNat lumiOptions.protocol.rxBufferSize) false none 0
  saves := saves

/-- Only the first save of the request fails, with `-EIO`. -/
def firstSaveFails : Nat → Int := fun index => if index = 0 then -5 else 0

/-- A cleared slot is durable when all saves succeed. -/
theorem cleared_slot_durable :
    ∃ finish,
      run (requestStep lumiOptions otherServices)
          (RequestState.start bootedDevice)
          [requestWith [7, 1, 0] fun _ => 0] =
        some finish ∧
      finish.answered.map Answered.response = some [7] ∧
      Throughout (requestStep lumiOptions otherServices)
        (AcknowledgedDurable lumiOptions) (RequestState.start bootedDevice)
        [requestWith [7, 1, 0] fun _ => 0] := by
  refine ⟨_, rfl, rfl, ?_⟩
  refine
    (acknowledged_durable_iff lumiOptions otherServices bootedDevice
      [requestWith [7, 1, 0] fun _ => 0] _ rfl).mpr
      ⟨fun content requested => ?_, fun _ _ => trivial⟩
  cases requested
  exact .inr (.inl ⟨rfl, fun _ _ => rfl⟩)

/-- A step whose save does not hold breaks durability. -/
theorem not_durable_of_fails
    {options : DeviceOptions} {base : VendorHidServices Device}
    {state next : RequestState} {event : RequestEvent}
    (stepped : requestStep options base state event = some next)
    (fails : ¬ SaveHolds options state event) :
    ¬ Throughout (requestStep options base) (AcknowledgedDurable options)
      state [event] := fun durable =>
  fails ((requestStep_durable_iff stepped).mp (durable.2 next stepped))

/--
With a failing save, a settings request is answered 3 and a clear request 7.
The clear request loses the save of slot 1 because that of slot 0 failed.
-/
theorem failed_saves_are_acknowledged :
    (∃ next,
      requestStep lumiOptions otherServices (RequestState.start bootedDevice)
          (requestWith [3] firstSaveFails) =
        some next ∧
      next.answered.map Answered.response = some [3] ∧
      ¬ Throughout (requestStep lumiOptions otherServices)
        (AcknowledgedDurable lumiOptions) (RequestState.start bootedDevice)
        [requestWith [3] firstSaveFails]) ∧
      ∃ next,
        requestStep lumiOptions otherServices
            (RequestState.start bootedDevice)
            (requestWith [7, 1, 0] firstSaveFails) =
          some next ∧
        next.answered.map Answered.response = some [7] ∧
        ¬ Throughout (requestStep lumiOptions otherServices)
          (AcknowledgedDurable lumiOptions) (RequestState.start bootedDevice)
          [requestWith [7, 1, 0] firstSaveFails] := by
  constructor
  · refine ⟨_, rfl, rfl, not_durable_of_fails rfl fun holds => ?_⟩
    rcases holds (.settings zeroedSettings) rfl with
      refused | ⟨_, succeeded⟩ | loads
    · exact refused rfl
    · exact absurd (succeeded : (-5 : Int) = 0) (by decide)
    · rcases (loads_settings_iff.mp loads).2 with ⟨item, stored, _, image⟩
      cases stored
      have thresholds :=
        congrArg (fun image => image.settings.thresholds 0) image
      exact absurd (thresholds : (1 : UInt16) = 0) (by decide)
  · refine ⟨_, rfl, rfl, not_durable_of_fails rfl fun holds => ?_⟩
    rcases holds (.slot 1 (clearedSlot lumiOptions.protocol)) rfl with
      (outside | large) | ⟨_, succeeded⟩ | loads
    · exact absurd outside (by decide)
    · exact absurd large (by decide)
    · exact absurd (succeeded 0 (Nat.zero_le _) : (-5 : Int) = 0) (by decide)
    · rw [loads_slot_iff (by decide)] at loads
      change
        ykbBacklightSaveScripts lumiOptions.scripts shortScripts
            (fun _ => none) (fun _ => 0) (slotKey 1) =
          _ at loads
      rw [saveScripts_at (by decide), if_pos ⟨rfl, fun _ _ => rfl⟩] at loads
      have occupied :=
        congrArg (fun item => item.image.slot.occupied)
          (Option.some.inj loads)
      exact absurd (occupied : true = false) (by decide)

end YkbFirmware.VendorHid.Durability
