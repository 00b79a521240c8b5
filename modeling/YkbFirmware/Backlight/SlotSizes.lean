import YkbFirmware.Library.TransitionSystem
import YkbFirmware.Backlight.SettingsUpdate

/-!
# The sizes of the stored scripts

The bytecode of a slot has an array of fixed length, and the slot says how
much of it is in use.  `ykb_backlight_set_script_slot` refuses a larger size.
The other two ways into the table, a stored image and the scripts of the
build, take the size as it is; the checksum and the VM read as far as it says.
-/

namespace YkbFirmware.Backlight.SlotSizes

open YkbFirmware.Library.TransitionSystem
open YkbFirmware.Library.DecimalText
open YkbFirmware.KbHandler.Settings
open YkbFirmware.VendorHid.Protocol
open YkbFirmware.Backlight.ScriptSlots
open YkbFirmware.Backlight.SettingsUpdate

/-! ## The default scripts -/

/-- A script of the build: its name and its compiled bytecode. -/
structure DefaultScript where
  name : List UInt8
  bytecode : List UInt8

/-- A slot of zeroed memory; its name is the empty string. -/
def zeroedSlot (options : ScriptOptions) : ScriptSlot where
  occupied := false
  size := 0
  name := []
  bytecode := List.replicate options.scriptSlotSize 0

/--
`default_backlight_script_slots` as `gen_ykb_backlight_resources.py` writes
it.  The array is filled up with zeros, and initializers beyond it are dropped
by the compiler; the size is that of the script all the same.
-/
def defaultScriptSlots
    (options : ScriptOptions) (scripts : List DefaultScript) (slot : Nat) :
    ScriptSlot :=
  match scripts[slot]? with
  | some script =>
      { occupied := true
        size := UInt32.ofNat script.bytecode.length
        name := script.name
        bytecode :=
          (script.bytecode ++ List.replicate options.scriptSlotSize 0).take
            options.scriptSlotSize }
  | none => zeroedSlot options

/-- `ykb_backlight_load_default_scripts`. -/
def ykbBacklightLoadDefaultScripts
    (options : ScriptOptions) (scripts : List DefaultScript)
    (store : ScriptStore) : ScriptStore :=
  { store with
    scriptSlots := defaultScriptSlots options scripts
    scriptsLoaded := true }

/-! ## The ways into the table -/

/-- The slots and their storage. -/
structure SlotState where
  store : ScriptStore
  storage : ScriptStorage

inductive SlotEvent where
  | setScriptSlot
      (settings : KbSettings) (slot : UInt16) (input : Option ScriptSlot)
      (saves : Nat → Int)
  | scriptHandlerSet
      (key : List Char) (len : Nat) (rlen : Int) (loadImg : ScriptSlotImage)
  | loadDefaultScripts

def slotStep
    (options : ScriptOptions) (scripts : List DefaultScript)
    (state : SlotState) : SlotEvent → Option SlotState
  | .setScriptSlot settings slot input saves =>
      let outcome :=
        ykbBacklightSetScriptSlot options settings state.store state.storage
          slot input saves
      some ⟨outcome.store, outcome.storage⟩
  | .scriptHandlerSet key len rlen loadImg =>
      some
        { state with
          store :=
            (ykbBacklightScriptHandlerSet options state.store key len rlen
              loadImg).1 }
  | .loadDefaultScripts =>
      some
        { state with
          store :=
            ykbBacklightLoadDefaultScripts options scripts state.store }

/-- The slots as `ykb_backlight_init` clears them. -/
def clearedSlots
    (options : ScriptOptions) (scriptsRegistered scriptSlotUpdateCb : Bool)
    (storage : ScriptStorage) : SlotState where
  store :=
    { scriptSlots := fun _ => zeroedSlot options
      scriptsRegistered := scriptsRegistered
      scriptsLoaded := false
      scriptSlotUpdateCb := scriptSlotUpdateCb }
  storage := storage

/-! ## What is read -/

/-- The bytes of bytecode the checksum of a slot runs over. -/
def crcBytecodeLength
    (options : ScriptOptions) (store : ScriptStore) (slot : UInt16) : Nat :=
  let slotData := store.scriptSlots slot.toNat
  if options.slotCount ≤ slot.toNat then
    0
  else if slotData.occupied = true ∧ slotData.size > 0 then
    slotData.size.toNat
  else
    0

/-- The length `on_settings_update` gives to `lumiscript_load`. -/
def loadBytecodeLength
    (options : ScriptOptions) (store : ScriptStore)
    (settings : KbSettings) : Nat :=
  ((scriptToLoad options store settings).map fun slot =>
    slot.size.toNat).getD 0

/-- No slot announces more bytecode than its array holds. -/
def SizesFit (options : ScriptOptions) (slots : Nat → ScriptSlot) : Prop :=
  ∀ slot, slot < options.slotCount →
    (slots slot).size.toNat ≤ options.scriptSlotSize

/-- All sizes fit, and so does what either reader takes of a slot. -/
structure WithinBuffers
    (options : ScriptOptions) (state : SlotState) : Prop where
  sizes : SizesFit options state.store.scriptSlots
  checksum :
    ∀ slot,
      crcBytecodeLength options state.store slot ≤ options.scriptSlotSize
  load :
    ∀ settings,
      loadBytecodeLength options state.store settings ≤
        options.scriptSlotSize

/-! ## Stored images -/

/-- The item is loaded: into which slot, and what is asked of it. -/
structure Loads
    (options : ScriptOptions) (key : List Char) (len : Nat) (rlen : Int)
    (loadImg : ScriptSlotImage) (slot : Nat) : Prop where
  named : settingsSlotPrefix.isPrefixOf key = true
  digits : key.drop settingsSlotPrefix.length ≠ []
  number :
    strtoul ulongMax (key.drop settingsSlotPrefix.length) = (slot, [])
  inside : slot < options.slotCount
  len : len = options.imageSize
  rlen : rlen = options.imageSize
  version : loadImg.version = scriptImageVersion

/-- What `ykb_backlight_script_handler_set` does with an item. -/
inductive HandlerSet
    (options : ScriptOptions) (store : ScriptStore) (key : List Char)
    (len : Nat) (rlen : Int) (loadImg : ScriptSlotImage) :
    ScriptStore × Int → Prop where
  | loaded {slot : Nat} (loads : Loads options key len rlen loadImg slot) :
      HandlerSet options store key len rlen loadImg
        ({ store with
            scriptSlots :=
              Function.update store.scriptSlots slot loadImg.slot
            scriptsLoaded := true },
          0)
  | refused {err : Int}
      (unfit : ∀ slot, ¬ Loads options key len rlen loadImg slot) :
      HandlerSet options store key len rlen loadImg (store, err)

section HandlerSet

variable
    {options : ScriptOptions} {key : List Char} {len : Nat} {rlen : Int}
    {loadImg : ScriptSlotImage}

theorem handlerSet_cases (store : ScriptStore) :
    HandlerSet options store key len rlen loadImg
      (ykbBacklightScriptHandlerSet options store key len rlen loadImg) := by
  rw [ykbBacklightScriptHandlerSet]
  dsimp only
  split_ifs with named digits number size failed truncated version
  · exact .refused fun slot loads => by
      simp [loads.named] at named
  · exact .refused fun slot loads => loads.digits digits
  · refine .refused fun slot loads => ?_
    have inside := loads.inside
    rw [loads.number] at number
    rcases number with trailing | outside
    · exact trailing rfl
    · exact absurd outside (Nat.not_le.mpr inside)
  · exact .refused fun slot loads => size loads.len
  · refine .refused fun slot loads => ?_
    have whole := loads.rlen
    omega
  · refine .refused fun slot loads => truncated ?_
    rw [loads.rlen, Int.toNat_natCast]
  · exact .refused fun slot loads => version loads.version
  · rw [not_or, not_not, Nat.not_le] at number
    exact .loaded
      { named := by simpa using named
        digits := digits
        number := Prod.ext rfl number.1
        inside := number.2
        len := not_not.mp size
        rlen := by omega
        version := not_not.mp version }

end HandlerSet

/-! ## Sizes along a run -/

/--
An image that is loaded announces no more than the array holds, and so do the
scripts of the build when they are loaded.
-/
def SizeAllowed
    (options : ScriptOptions) (scripts : List DefaultScript) :
    SlotState → SlotEvent → Prop
  | _, .setScriptSlot .. => True
  | _, .scriptHandlerSet key len rlen loadImg =>
      ∀ slot, Loads options key len rlen loadImg slot →
        loadImg.slot.size.toNat ≤ options.scriptSlotSize
  | _, .loadDefaultScripts =>
      SizesFit options (defaultScriptSlots options scripts)

section Sizes

variable
    {options : ScriptOptions} {scripts : List DefaultScript}
    {state next : SlotState} {event : SlotEvent}
    {slots : Nat → ScriptSlot} {slot : Nat} {content : ScriptSlot}

theorem SizesFit.update
    (fits : SizesFit options slots)
    (bounded : content.size.toNat ≤ options.scriptSlotSize) :
    SizesFit options (Function.update slots slot content) := by
  intro other inside
  by_cases same : other = slot
  · subst same
    rw [Function.update_self]
    exact bounded
  · rw [Function.update_of_ne same]
    exact fits other inside

/-- Both readers stay inside the array if the sizes do. -/
theorem withinBuffers_iff :
    WithinBuffers options state ↔
      SizesFit options state.store.scriptSlots := by
  refine ⟨WithinBuffers.sizes, fun fits => ⟨fits, ?_, ?_⟩⟩
  · intro slot
    rw [crcBytecodeLength]
    split_ifs with outside used
    · exact Nat.zero_le _
    · exact fits _ (Nat.not_le.mp outside)
    · exact Nat.zero_le _
  · intro settings
    rw [loadBytecodeLength]
    cases found : scriptToLoad options state.store settings with
    | none => exact Nat.zero_le _
    | some slot =>
        rcases scriptToLoad_eq_some.mp found with ⟨inside, rfl, -⟩
        exact fits _ inside

/-- An upload is the one way in that checks. -/
theorem sizesFit_setScriptSlot
    (fits : SizesFit options state.store.scriptSlots)
    (settings : KbSettings) (slot : UInt16) (input : Option ScriptSlot)
    (saves : Nat → Int) :
    SizesFit options
      (ykbBacklightSetScriptSlot options settings state.store state.storage
        slot input saves).store.scriptSlots := by
  cases input with
  | none => exact fits
  | some input =>
      rw [ykbBacklightSetScriptSlot]
      by_cases outside : options.slotCount ≤ slot.toNat
      · rw [if_pos outside]
        exact fits
      · rw [if_neg outside]
        by_cases large : options.scriptSlotSize < input.size.toNat
        · rw [if_pos large]
          exact fits
        · rw [if_neg large]
          exact fits.update (Nat.not_lt.mp large)

/-- One step keeps the sizes exactly if what it lets in is no larger. -/
theorem sizesFit_step
    (fits : SizesFit options state.store.scriptSlots)
    (stepped : slotStep options scripts state event = some next) :
    SizesFit options next.store.scriptSlots ↔
      SizeAllowed options scripts state event := by
  cases event with
  | setScriptSlot settings slot input saves =>
      cases stepped
      exact iff_of_true (sizesFit_setScriptSlot fits settings slot input saves)
        trivial
  | scriptHandlerSet key len rlen loadImg =>
      cases stepped
      have outcome :=
        @handlerSet_cases options key len rlen loadImg state.store
      change
        SizesFit options
            (ykbBacklightScriptHandlerSet options state.store key len rlen
              loadImg).1.scriptSlots ↔
          _
      generalize
        ykbBacklightScriptHandlerSet options state.store key len rlen
            loadImg =
          result at outcome ⊢
      cases outcome with
      | loaded loads =>
          constructor
          · intro kept slot other
            have stored := kept _ loads.inside
            dsimp only at stored
            rwa [Function.update_self] at stored
          · exact fun allowed => fits.update (allowed _ loads)
      | refused unfit =>
          exact iff_of_true fits fun slot loads => absurd loads (unfit slot)
  | loadDefaultScripts =>
      cases stepped
      exact Iff.rfl

theorem slotStep_total (state : SlotState) (event : SlotEvent) :
    ∃ next, slotStep options scripts state event = some next := by
  cases event <;> exact ⟨_, rfl⟩

end Sizes

/--
From cleared slots on, through uploads, loaded images and default scripts in
any order, every slot and both its readers stay inside the array if and only
if every image that is loaded, and the default scripts where they are loaded,
announce no more than it holds.
-/
theorem stored_scripts_within_buffers_iff
    (options : ScriptOptions) (scripts : List DefaultScript)
    (scriptsRegistered scriptSlotUpdateCb : Bool) (storage : ScriptStorage)
    (events : List SlotEvent) :
    let start :=
      clearedSlots options scriptsRegistered scriptSlotUpdateCb storage
    Throughout (slotStep options scripts) (WithinBuffers options) start
        events ↔
      StepsMeet (slotStep options scripts) (SizeAllowed options scripts)
        start events := by
  intro start
  rcases run_total (@slotStep_total options scripts) start events with
    ⟨finish, ran⟩
  have initially : WithinBuffers options start :=
    withinBuffers_iff.mpr fun slot _ => Nat.zero_le _
  have throughout :=
    throughout_iff_stepsMeet
      (fun state event next fits stepped =>
        withinBuffers_iff.trans
          (sizesFit_step (withinBuffers_iff.mp fits) stepped))
      ran
  rwa [and_iff_right initially] at throughout

/-! ## An image that announces too much -/

/-- An image of the right version whose script would have three bytes. -/
def largeImage : ScriptSlotImage where
  version := 1
  slot := ⟨true, 3, [], [0, 0]⟩

/--
A stored image of the right length and version is loaded into slot 0, and the
VM is told to read three of its two bytes.
-/
theorem large_image_overruns :
    ¬ ∀ (events : List SlotEvent),
      Throughout (slotStep tinyOptions []) (WithinBuffers tinyOptions)
        (clearedSlots tinyOptions true false fun _ => none) events := by
  intro always
  have within :=
    (always [.scriptHandlerSet (slotName 0) 16 16 largeImage]).2 _ rfl
  have load := within.load plainSettings
  exact absurd load (by decide +kernel)

end YkbFirmware.Backlight.SlotSizes
