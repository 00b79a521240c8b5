import YkbFirmware.Library.DecimalText
import YkbFirmware.KbHandler.Settings
import YkbFirmware.VendorHid.Protocol

/-!
# The stored script slots

The part of `ykb_backlight.c` that keeps the Lumiscript slots: the array
`script_slots`, the settings items `ykb_bl/slot_N` it is saved under, the
handler that loads one item, and the calls that read and replace a slot.

A replaced slot is saved by saving all slots in order.  The first failure
ends that loop, and nobody is told: `ykb_backlight_save_scripts` returns
nothing.
-/

namespace YkbFirmware.Backlight.ScriptSlots

open YkbFirmware.Library.DecimalText
open YkbFirmware.KbHandler.Settings
open YkbFirmware.VendorHid.Protocol

/-! ## Types -/

/-- The sizes of the subsystem. -/
structure ScriptSizes where
  slotCount : Nat
  scriptSlotSize : Nat
  imageSize : Nat
  settingsFullNameLen : Nat

/--
Sizes the subsystem works with: its loops over the slots count in 16 bits, and
a settings name has room for every key.
-/
structure ScriptOptions extends ScriptSizes where
  countFits : slotCount < 2 ^ 16
  namesFit : 18 ≤ settingsFullNameLen

instance : Coe ScriptOptions ScriptSizes := ⟨ScriptOptions.toScriptSizes⟩

/-- `YKB_BACKLIGHT_SCRIPT_IMAGE_VERSION`. -/
def scriptImageVersion : UInt16 := 1

/-- `ykb_backlight_script_slot_image_t`. -/
structure ScriptSlotImage where
  version : UInt16
  slot : ScriptSlot

/-- A stored item: its length and its bytes, seen as an image. -/
structure StoredScript where
  len : Nat
  image : ScriptSlotImage

/-- The items of the settings storage by their full key. -/
abbrev ScriptStorage := List Char → Option StoredScript

/-- The static variables that concern the slots. -/
structure ScriptStore where
  scriptSlots : Nat → ScriptSlot
  scriptsRegistered : Bool
  scriptsLoaded : Bool
  /-- `script_slot_update_cb` is set. -/
  scriptSlotUpdateCb : Bool

/-! ## Keys -/

/-- `YKB_BACKLIGHT_SETTINGS_NS`. -/
def settingsNs : List Char := ['y', 'k', 'b', '_', 'b', 'l']

/-- `YKB_BACKLIGHT_SETTINGS_SLOT_PREFIX`. -/
def settingsSlotPrefix : List Char := ['s', 'l', 'o', 't', '_']

/-- The text `slot_N`. -/
def slotName (slot : Nat) : List Char :=
  settingsSlotPrefix ++ Nat.toDigits 10 slot

/-- The text `ykb_bl/slot_N`. -/
def slotKey (slot : Nat) : List Char :=
  settingsNs ++ '/' :: slotName slot

def ykbBacklightSettingsSlotKey (options : ScriptOptions) (slot : Nat) :
    Except Int (List Char) :=
  snprintf options.settingsFullNameLen (slotKey slot)

/-- `ULONG_MAX` of the 32-bit targets. -/
def ulongMax : Nat := 2 ^ 32 - 1

/-! ## Saving -/

/-- What is stored for a slot. -/
def storedScript (options : ScriptOptions) (slot : ScriptSlot) :
    StoredScript where
  len := options.imageSize
  image := ⟨scriptImageVersion, slot⟩

/--
`ykb_backlight_save_script_slot`: result and storage; `saveErr` is what
`settings_save_one` returns.
-/
def ykbBacklightSaveScriptSlot
    (options : ScriptOptions) (store : ScriptStore)
    (storage : ScriptStorage) (slot : Nat) (saveErr : Int) :
    Int × ScriptStorage :=
  if options.slotCount ≤ slot then
    (-34, storage)
  else
    match ykbBacklightSettingsSlotKey options slot with
    | .error err => (err, storage)
    | .ok key =>
        if saveErr ≠ 0 then
          (saveErr, storage)
        else
          (0,
            Function.update storage key
              (some (storedScript options (store.scriptSlots slot))))

/-- The loop of `ykb_backlight_save_scripts` from a slot on. -/
def saveScriptsFrom
    (options : ScriptOptions) (store : ScriptStore) (saves : Nat → Int) :
    (slot remaining : Nat) → ScriptStorage → ScriptStorage
  | _, 0, storage => storage
  | slot, remaining + 1, storage =>
      let saved :=
        ykbBacklightSaveScriptSlot options store storage slot (saves slot)
      if saved.1 ≠ 0 then
        saved.2
      else
        saveScriptsFrom options store saves (slot + 1) remaining saved.2

/-- `ykb_backlight_save_scripts`; each slot's save has its own result. -/
def ykbBacklightSaveScripts
    (options : ScriptOptions) (store : ScriptStore)
    (storage : ScriptStorage) (saves : Nat → Int) : ScriptStorage :=
  if store.scriptsRegistered = false then
    storage
  else
    saveScriptsFrom options store saves 0 options.slotCount storage

/-! ## Loading -/

/--
`ykb_backlight_script_handler_set`: new state and result; `rlen` is what the
read callback returns and `loadImg` what it has put into the image.
-/
def ykbBacklightScriptHandlerSet
    (options : ScriptOptions) (store : ScriptStore)
    (key : List Char) (len : Nat) (rlen : Int) (loadImg : ScriptSlotImage) :
    ScriptStore × Int :=
  if settingsSlotPrefix.isPrefixOf key = false then
    (store, -2)
  else
    let digits := key.drop settingsSlotPrefix.length
    let parsed := strtoul ulongMax digits
    if digits = [] then
      (store, -22)
    else if parsed.2 ≠ [] ∨ options.slotCount ≤ parsed.1 then
      (store, -22)
    else if len ≠ options.imageSize then
      (store, -22)
    else if rlen < 0 then
      (store, -22)
    else if rlen.toNat ≠ options.imageSize then
      (store, -22)
    else if loadImg.version ≠ scriptImageVersion then
      (store, -22)
    else
      ({ store with
          scriptSlots :=
            Function.update store.scriptSlots parsed.1 loadImg.slot
          scriptsLoaded := true },
        0)

/-! ## Slots -/

def ykbBacklightGetScriptSlot
    (options : ScriptSizes) (store : ScriptStore) (slot : UInt16) :
    Except Int ScriptSlot :=
  if options.slotCount ≤ slot.toNat then
    .error (-34)
  else
    .ok (store.scriptSlots slot.toNat)

/--
What a call of `ykb_backlight_set_script_slot` leaves behind: `reloaded` are
the settings `on_settings_update` is called with, and `updated` the slot the
update callback is called with.
-/
structure SetSlotOutcome where
  store : ScriptStore
  storage : ScriptStorage
  returned : Int
  reloaded : Option KbSettings
  updated : Option UInt16

/-- The locked section of `ykb_backlight_set_script_slot`. -/
def slotReplaced (store : ScriptStore) (slot : UInt16) (input : ScriptSlot) :
    ScriptStore :=
  { store with
    scriptSlots := Function.update store.scriptSlots slot.toNat input }

@[simp]
theorem slotReplaced_scriptSlots
    (store : ScriptStore) (slot : UInt16) (input : ScriptSlot) :
    (slotReplaced store slot input).scriptSlots slot.toNat = input :=
  Function.update_self _ _ _

/--
`ykb_backlight_set_script_slot`, where `settings` is what `kb_settings_get`
copies; a null pointer is `none`.
-/
def ykbBacklightSetScriptSlot
    (options : ScriptOptions) (settings : KbSettings) (store : ScriptStore)
    (storage : ScriptStorage) (slot : UInt16) (input : Option ScriptSlot)
    (saves : Nat → Int) : SetSlotOutcome :=
  match input with
  | none => ⟨store, storage, -22, none, none⟩
  | some input =>
      if options.slotCount ≤ slot.toNat then
        ⟨store, storage, -34, none, none⟩
      else if options.scriptSlotSize < input.size.toNat then
        ⟨store, storage, -122, none, none⟩
      else
        let store := slotReplaced store slot input
        ⟨store, ykbBacklightSaveScripts options store storage saves, 0,
          if settings.backlight.activeScriptIndex = slot then
            some settings
          else
            none,
          if store.scriptSlotUpdateCb then some slot else none⟩

/-! ## What is stored under a key -/

section Keys

variable {options : ScriptOptions} {slot other : Nat}

theorem slotName_injective : Function.Injective slotName :=
  fun _ _ same => toDigits_injective (List.append_cancel_left same)

theorem slotKey_injective : Function.Injective slotKey := by
  intro first second same
  have names := List.append_cancel_left same
  exact slotName_injective (List.cons.inj names).2

/-- The key of every slot fits into a settings name. -/
theorem slotKey_fits (inside : slot < options.slotCount) :
    ykbBacklightSettingsSlotKey options slot = .ok (slotKey slot) := by
  apply snprintf_fits
  have digits : (Nat.toDigits 10 slot).length ≤ 5 := by
    rw [Nat.length_toDigits_le_iff (by decide) (by decide)]
    have fits := options.countFits
    omega
  have length :
      (slotKey slot).length = 12 + (Nat.toDigits 10 slot).length := by
    simp [slotKey, slotName, settingsNs, settingsSlotPrefix]
    omega
  have room := options.namesFit
  omega

end Keys

section Saves

variable
    {options : ScriptOptions} {store : ScriptStore}
    {storage : ScriptStorage} {saves : Nat → Int} {slot target : Nat}

theorem saveScriptSlot_eq (inside : slot < options.slotCount) (saveErr : Int) :
    ykbBacklightSaveScriptSlot options store storage slot saveErr =
      if saveErr ≠ 0 then
        (saveErr, storage)
      else
        (0,
          Function.update storage (slotKey slot)
            (some (storedScript options (store.scriptSlots slot)))) := by
  rw [ykbBacklightSaveScriptSlot, if_neg (Nat.not_le.mpr inside),
    slotKey_fits inside]

/-- The loop writes slots from its position on. -/
theorem saveScriptsFrom_before
    {remaining : Nat} (bound : slot + remaining ≤ options.slotCount)
    (before : target < slot) :
    saveScriptsFrom options store saves slot remaining storage
        (slotKey target) =
      storage (slotKey target) := by
  induction remaining generalizing slot storage with
  | zero => rfl
  | succ remaining induction =>
      have away : slotKey target ≠ slotKey slot := fun same =>
        before.ne (slotKey_injective same)
      rw [saveScriptsFrom, saveScriptSlot_eq (by omega)]
      by_cases succeeds : saves slot = 0
      · simp only [succeeds, ne_eq, not_true_eq_false, if_false]
        rw [induction (by omega) (by omega), Function.update_of_ne away]
      · simp [succeeds]

/--
A slot from the position on is stored if its save and those on the way to it
succeed, and otherwise keeps its item.
-/
theorem saveScriptsFrom_at
    {remaining : Nat} (bound : slot + remaining ≤ options.slotCount)
    (reached : slot ≤ target) (inside : target < slot + remaining) :
    saveScriptsFrom options store saves slot remaining storage
        (slotKey target) =
      if ∀ index, slot ≤ index → index ≤ target → saves index = 0 then
        some (storedScript options (store.scriptSlots target))
      else
        storage (slotKey target) := by
  induction remaining generalizing slot storage with
  | zero => omega
  | succ remaining induction =>
      rw [saveScriptsFrom, saveScriptSlot_eq (by omega)]
      by_cases succeeds : saves slot = 0
      · simp only [succeeds, ne_eq, not_true_eq_false, if_false]
        by_cases here : target = slot
        · subst here
          rw [saveScriptsFrom_before (by omega) (Nat.lt_succ_self _),
            Function.update_self, if_pos]
          intro index atLeast atMost
          rw [Nat.le_antisymm atMost atLeast]
          exact succeeds
        · have away : slotKey target ≠ slotKey slot := fun same =>
            here (slotKey_injective same)
          rw [induction (by omega) (by omega) (by omega),
            Function.update_of_ne away]
          congr 1
          rw [eq_iff_iff]
          constructor
          · intro later index atLeast atMost
            rcases Nat.eq_or_lt_of_le atLeast with rfl | past
            · exact succeeds
            · exact later index past atMost
          · exact fun all index atLeast => all index (by omega)
      · have stops :
            ¬ ∀ index, slot ≤ index → index ≤ target → saves index = 0 :=
          fun all => succeeds (all slot le_rfl reached)
        rw [if_neg stops]
        simp [succeeds]

/-- What a pass over all slots leaves under the key of one of them. -/
theorem saveScripts_at (inside : target < options.slotCount) :
    ykbBacklightSaveScripts options store storage saves (slotKey target) =
      if store.scriptsRegistered = true ∧
          ∀ index, index ≤ target → saves index = 0 then
        some (storedScript options (store.scriptSlots target))
      else
        storage (slotKey target) := by
  rw [ykbBacklightSaveScripts]
  cases store.scriptsRegistered with
  | false => simp
  | true =>
      rw [if_neg (by decide),
        saveScriptsFrom_at (by omega) (Nat.zero_le _) (by omega)]
      simp

/-- An item of the right form under a slot's name is loaded into the slot. -/
theorem handlerSet_slotName
    (inside : slot < options.slotCount) (loadImg : ScriptSlotImage)
    (len : Nat) :
    ykbBacklightScriptHandlerSet options store (slotName slot) len len
        loadImg =
      if len = options.imageSize ∧ loadImg.version = scriptImageVersion then
        ({ store with
            scriptSlots :=
              Function.update store.scriptSlots slot loadImg.slot
            scriptsLoaded := true },
          0)
      else
        (store, -22) := by
  have fits : slot ≤ ulongMax := by
    have bound := options.countFits
    rw [ulongMax]
    omega
  have hasPrefix : settingsSlotPrefix.isPrefixOf (slotName slot) = true := by
    rw [List.isPrefixOf_iff_prefix]
    exact List.prefix_append _ _
  have digits :
      (slotName slot).drop settingsSlotPrefix.length =
        Nat.toDigits 10 slot := by
    rw [slotName, List.drop_left]
  rw [ykbBacklightScriptHandlerSet, digits]
  dsimp only
  rw [strtoul_toDigits fits]
  by_cases size : len = options.imageSize
  · by_cases version : loadImg.version = scriptImageVersion
    · have present : ¬ options.slotCount ≤ slot := Nat.not_le.mpr inside
      have natural : ¬ (options.imageSize : Int) < 0 := by omega
      simp [hasPrefix, Nat.toDigits_ne_nil, present, natural, size, version]
    · simp [hasPrefix, Nat.toDigits_ne_nil, size, version]
  · simp [hasPrefix, Nat.toDigits_ne_nil, size]

end Saves

end YkbFirmware.Backlight.ScriptSlots
