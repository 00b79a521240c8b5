import YkbFirmware.Library.ByteMemory
import YkbFirmware.Backlight.SlotChecksum

/-!
# Finding the script slots that differ

When the link comes up the master sends a manifest of its script slots, the
slave compares it with its own slots and asks for those that differ, and the
master queues the slots it is asked for: `splitlink_build_script_manifest`,
`splitlink_sync_scripts_manifest_received` and
`splitlink_sync_scripts_request_received`.
-/

namespace YkbFirmware.SplitLink.ManifestExchange

open YkbFirmware.Library.ByteMemory
open YkbFirmware.VendorHid.Protocol
open YkbFirmware.Backlight.ScriptSlots
open YkbFirmware.Backlight.SlotChecksum

/-! ## Messages -/

/-- `splitlink_script_manifest_entry_t`. -/
structure ScriptManifestEntry where
  occupied : UInt8
  size : UInt32
  crc32 : UInt32
deriving DecidableEq, Repr

/-- An entry as `memset` leaves it. -/
def ScriptManifestEntry.zero : ScriptManifestEntry := ⟨0, 0, 0⟩

/-- `splitlink_script_manifest_t`. -/
structure ScriptManifest where
  slotCount : UInt16
  slots : Nat → ScriptManifestEntry

/-- `splitlink_script_request_t`. -/
structure ScriptRequest where
  slotCount : UInt16
  bitmap : Memory

section Handlers

variable (crc32Update : Crc32Update) (options : ScriptSizes)

/-! ## The master's manifest -/

def splitlinkScriptSlotCrc32 (store : ScriptStore) (slot : UInt16) : UInt32 :=
  match ykbBacklightGetScriptSlotCrc32 crc32Update options store slot with
  | .error _ => 0
  | .ok crc32 => crc32

/-- The entry of one slot. -/
def manifestEntry (store : ScriptStore) (slot : UInt16) :
    ScriptManifestEntry :=
  match ykbBacklightGetScriptSlot options store slot with
  | .error _ => .zero
  | .ok slotData =>
      { occupied := if slotData.occupied then 1 else 0
        size := slotData.size
        crc32 := splitlinkScriptSlotCrc32 crc32Update options store slot }

def splitlinkBuildScriptManifest (store : ScriptStore) : ScriptManifest where
  slotCount := UInt16.ofNat options.slotCount
  slots := fun slot =>
    if slot < (UInt16.ofNat options.slotCount).toNat then
      manifestEntry crc32Update options store (UInt16.ofNat slot)
    else
      .zero

/-! ## The slave's request -/

/-- The request under construction and `any_mismatch`. -/
structure ManifestCheck where
  bitmap : Memory
  anyMismatch : Bool

def ManifestCheck.flag (check : ManifestCheck) (slot : Nat) : ManifestCheck :=
  ⟨check.bitmap.setBit slot, true⟩

/-- The body of the loop: whether the slot is flagged. -/
def slotMismatch
    (store : ScriptStore) (manifest : ScriptManifest) (slot : Nat) : Bool :=
  match ykbBacklightGetScriptSlot options store (UInt16.ofNat slot) with
  | .error _ => true
  | .ok slotData =>
      match
          ykbBacklightGetScriptSlotCrc32 crc32Update options store
            (UInt16.ofNat slot) with
      | .error _ => true
      | .ok localCrc32 =>
          decide
            (decide ((manifest.slots slot).occupied ≠ 0) ≠ slotData.occupied ∨
              (manifest.slots slot).size ≠ slotData.size ∨
                (manifest.slots slot).crc32 ≠ localCrc32)

/-- `none`: no request is sent. -/
def splitlinkSyncScriptsManifestReceived
    (store : ScriptStore) (manifest : ScriptManifest) :
    Option ScriptRequest :=
  let count := min manifest.slotCount.toNat options.slotCount
  let check :=
    (List.range count).foldl
      (fun check slot =>
        if slotMismatch crc32Update options store manifest slot then
          check.flag slot
        else
          check)
      (⟨Memory.zero, false⟩ : ManifestCheck)
  if check.anyMismatch = false then
    none
  else
    some ⟨UInt16.ofNat options.slotCount, check.bitmap⟩

/-! ## The master's queue -/

/-- The slots `splitlink_sync_queue_script_slot_sync` is called with. -/
def splitlinkSyncScriptsRequestReceived (request : ScriptRequest) :
    List UInt16 :=
  let count := min request.slotCount.toNat options.slotCount
  ((List.range count).filter request.bitmap.testBit).map UInt16.ofNat

/-- What the master queues after the exchange of manifest and request. -/
def queuedAfterManifest (master slave : ScriptStore) : List UInt16 :=
  let manifest := splitlinkBuildScriptManifest crc32Update options master
  match
      splitlinkSyncScriptsManifestReceived crc32Update options slave
        manifest with
  | none => []
  | some request => splitlinkSyncScriptsRequestReceived options request

end Handlers

/-! ## Flags -/

/-- The loop flags the slots that pass the test, and no others. -/
theorem foldl_flag
    (test : Nat → Bool) (slots : List Nat) (check : ManifestCheck) :
    let flagged :=
      slots.foldl
        (fun check slot => if test slot then check.flag slot else check)
        check
    (∀ index,
        flagged.bitmap.testBit index =
          (decide (index ∈ slots.filter test) ||
            check.bitmap.testBit index)) ∧
      flagged.anyMismatch =
        (slots.any test || check.anyMismatch) := by
  induction slots generalizing check with
  | nil => simp
  | cons slot rest induction =>
      cases passes : test slot with
      | false =>
          have after := induction check
          simpa [passes] using after
      | true =>
          have after := induction (check.flag slot)
          rw [List.foldl_cons, if_pos passes, List.filter_cons_of_pos passes]
          refine ⟨fun index => ?_, ?_⟩
          · rw [after.1 index, ManifestCheck.flag, Memory.testBit_setBit]
            simp only [List.mem_cons, Bool.decide_or]
            rw [← Bool.or_assoc,
              Bool.or_comm (decide (index ∈ rest.filter test))]
          · rw [after.2]
            simp [ManifestCheck.flag, passes]

section Exchange

variable
    {crc32Update : Crc32Update} {options : ScriptSizes}
    {master slave : ScriptStore}

theorem slotCount_toNat (countFits : options.slotCount < 2 ^ 16) :
    (UInt16.ofNat options.slotCount).toNat = options.slotCount := by
  rw [UInt16.toNat_ofNat', Nat.mod_eq_of_lt countFits]

/-- Whether a request is sent, and what the master queues. -/
theorem exchange_eq (countFits : options.slotCount < 2 ^ 16) :
    let manifest := splitlinkBuildScriptManifest crc32Update options master
    let request :=
      splitlinkSyncScriptsManifestReceived crc32Update options slave manifest
    let flagged :=
      (List.range options.slotCount).filter
        (slotMismatch crc32Update options slave manifest)
    (request = none ↔ flagged = []) ∧
      queuedAfterManifest crc32Update options master slave =
        flagged.map UInt16.ofNat := by
  intro manifest request flagged
  have counted :
      min manifest.slotCount.toNat options.slotCount = options.slotCount := by
    rw [show manifest.slotCount = UInt16.ofNat options.slotCount from rfl,
      slotCount_toNat countFits, Nat.min_self]
  have flags :=
    foldl_flag (slotMismatch crc32Update options slave manifest)
      (List.range options.slotCount) ⟨Memory.zero, false⟩
  have queued :
      queuedAfterManifest crc32Update options master slave =
        match request with
        | none => []
        | some request =>
            splitlinkSyncScriptsRequestReceived options request :=
    rfl
  have sent :
      request =
        splitlinkSyncScriptsManifestReceived crc32Update options slave
          manifest :=
    rfl
  rw [splitlinkSyncScriptsManifestReceived, counted] at sent
  dsimp only at flags sent
  generalize
    (List.range options.slotCount).foldl _
      (⟨Memory.zero, false⟩ : ManifestCheck) = check at flags sent
  rcases flags with ⟨bits, any⟩
  rw [Bool.or_false] at any
  have nothing : check.anyMismatch = false ↔ flagged = [] := by
    rw [any, List.any_eq_false, List.filter_eq_nil_iff]
  rw [queued]
  by_cases agree : check.anyMismatch = false
  · rw [if_pos agree] at sent
    rw [sent, nothing.mp agree]
    exact ⟨iff_of_true rfl rfl, rfl⟩
  · rw [if_neg agree] at sent
    rw [sent]
    refine ⟨iff_of_false (by simp) (mt nothing.mpr agree), ?_⟩
    -- the master reads back the bits of the slots that were flagged
    dsimp only
    rw [splitlinkSyncScriptsRequestReceived, slotCount_toNat countFits,
      Nat.min_self]
    congr 1
    apply List.filter_congr
    intro slot member
    rw [bits slot, Bool.eq_iff_iff]
    simp [List.mem_range.mp member, Memory.testBit]

/-- With distinct checksums the test of the slave finds every difference. -/
theorem slotMismatch_eq
    (countFits : options.slotCount < 2 ^ 16)
    (inParts : crc32Update.InParts) {slot : Nat}
    (inside : slot < options.slotCount)
    (masterFits : SlotFits options (master.scriptSlots slot))
    (slaveFits : SlotFits options (slave.scriptSlots slot))
    (distinct :
      crc32Update 0 (slotStream (master.scriptSlots slot)) =
          crc32Update 0 (slotStream (slave.scriptSlots slot)) →
        slotStream (master.scriptSlots slot) =
          slotStream (slave.scriptSlots slot)) :
    slotMismatch crc32Update options slave
        (splitlinkBuildScriptManifest crc32Update options master) slot =
      decide
        (Differs (master.scriptSlots slot) (slave.scriptSlots slot)) := by
  have index : (UInt16.ofNat slot).toNat = slot := by
    rw [UInt16.toNat_ofNat', Nat.mod_eq_of_lt (inside.trans countFits)]
  have insideIndex : (UInt16.ofNat slot).toNat < options.slotCount := by
    rw [index]
    exact inside
  have checksum :
      ∀ store : ScriptStore,
        ykbBacklightGetScriptSlotCrc32 crc32Update options store
            (UInt16.ofNat slot) =
          .ok (crc32Update 0 (slotStream (store.scriptSlots slot))) := by
    intro store
    rw [getScriptSlotCrc32_eq inParts store insideIndex, index]
  have got :
      ∀ store : ScriptStore,
        ykbBacklightGetScriptSlot options store (UInt16.ofNat slot) =
          .ok (store.scriptSlots slot) := by
    intro store
    rw [ykbBacklightGetScriptSlot, if_neg (Nat.not_le.mpr insideIndex), index]
  have entry :
      (splitlinkBuildScriptManifest crc32Update options master).slots slot =
        { occupied := if (master.scriptSlots slot).occupied then 1 else 0
          size := (master.scriptSlots slot).size
          crc32 := crc32Update 0 (slotStream (master.scriptSlots slot)) } := by
    rw [splitlinkBuildScriptManifest, slotCount_toNat countFits]
    dsimp only
    rw [if_pos inside, manifestEntry, got, splitlinkScriptSlotCrc32, checksum]
  have flag :
      ∀ occupied : Bool,
        decide ((if occupied then (1 : UInt8) else 0) ≠ 0) = occupied := by
    decide
  rw [slotMismatch, got, checksum, entry]
  dsimp only
  rw [flag, decide_eq_decide, ← not_iff_not,
    ← same_stream_iff masterFits slaveFits]
  simp only [not_or, ne_eq, not_not]
  exact
    and_congr_right fun _ =>
      and_congr_right fun _ => ⟨distinct, congrArg (crc32Update 0)⟩

end Exchange

/-! ## The exchange -/

/--
Both sides hold slots of the declared size, the checksum may be taken in
parts, and no two streams that are compared collide.
-/
structure Comparable
    (crc32Update : Crc32Update) (options : ScriptSizes)
    (master slave : ScriptStore) : Prop where
  inParts : crc32Update.InParts
  masterFits :
    ∀ slot < options.slotCount, SlotFits options (master.scriptSlots slot)
  slaveFits :
    ∀ slot < options.slotCount, SlotFits options (slave.scriptSlots slot)
  noCollision :
    ∀ slot < options.slotCount,
      crc32Update 0 (slotStream (master.scriptSlots slot)) =
          crc32Update 0 (slotStream (slave.scriptSlots slot)) →
        slotStream (master.scriptSlots slot) =
          slotStream (slave.scriptSlots slot)

/--
The master queues exactly the slots that differ, in order, and no request is
sent if no slot differs.
-/
def FindsDiffering
    (crc32Update : Crc32Update) (options : ScriptSizes)
    (master slave : ScriptStore) : Prop :=
  let differing :=
    (List.range options.slotCount).filter fun slot =>
      decide (Differs (master.scriptSlots slot) (slave.scriptSlots slot))
  queuedAfterManifest crc32Update options master slave =
      differing.map UInt16.ofNat ∧
    (splitlinkSyncScriptsManifestReceived crc32Update options slave
          (splitlinkBuildScriptManifest crc32Update options master) =
        none ↔
      ∀ slot < options.slotCount,
        ¬ Differs (master.scriptSlots slot) (slave.scriptSlots slot))

/--
The exchange of manifest and request finds the slots that differ, as long as
16 bits can count them.
-/
theorem manifest_finds_differing_slots
    (crc32Update : Crc32Update) (options : ScriptSizes)
    (master slave : ScriptStore) (countFits : options.slotCount < 2 ^ 16)
    (comparable : Comparable crc32Update options master slave) :
    FindsDiffering crc32Update options master slave := by
  have exchange := @exchange_eq crc32Update options master slave countFits
  dsimp only at exchange
  have found :
      (List.range options.slotCount).filter
          (slotMismatch crc32Update options slave
            (splitlinkBuildScriptManifest crc32Update options master)) =
        (List.range options.slotCount).filter fun slot =>
          decide
            (Differs (master.scriptSlots slot) (slave.scriptSlots slot)) := by
    apply List.filter_congr
    intro slot member
    have inside := List.mem_range.mp member
    exact
      slotMismatch_eq countFits comparable.inParts inside
        (comparable.masterFits slot inside) (comparable.slaveFits slot inside)
        (comparable.noCollision slot inside)
  rw [found] at exchange
  refine ⟨exchange.2, exchange.1.trans ?_⟩
  rw [List.filter_eq_nil_iff]
  simp only [List.mem_range, decide_eq_true_eq]

/-! ## Two slots -/

/-- Two slots of four bytes each. -/
def twoSlots : ScriptSizes where
  slotCount := 2
  scriptSlotSize := 4
  imageSize := 40
  settingsFullNameLen := 32

/-- One bit of the reflected polynomial of CRC-32. -/
def crc32Bit (crc : UInt32) : UInt32 :=
  if crc &&& 1 = 1 then (crc >>> 1) ^^^ 0xEDB88320 else crc >>> 1

/-- CRC-32 bit by bit, complemented before and after. -/
def bitwiseCrc32 : Crc32Update := fun crc data =>
  ~~~data.foldl
    (fun crc byte => Nat.iterate crc32Bit 8 (crc ^^^ byte.toUInt32)) (~~~crc)

theorem bitwiseCrc32_inParts : bitwiseCrc32.InParts := by
  intro crc first second
  rw [bitwiseCrc32, bitwiseCrc32, UInt32.not_not, ← List.foldl_append]
  rfl

/-- Slots which all hold one script. -/
def storeOf (slot : ScriptSlot) : ScriptStore where
  scriptSlots := fun _ => slot
  scriptsRegistered := true
  scriptsLoaded := true
  scriptSlotUpdateCb := false

/-- A script of two bytes; two more bytes are not in use. -/
def shortScript (last : UInt8) : ScriptSlot where
  occupied := true
  size := 2
  name := [65, 0, 0]
  bytecode := [1, last, 0, 0]

theorem shortScript_fits
    {options : ScriptSizes} (size : options.scriptSlotSize = 4)
    (last : UInt8) : SlotFits options (shortScript last) := by
  have used : (shortScript last).size.toNat ≤ 4 :=
    show (2 : UInt32).toNat ≤ 4 by decide
  exact ⟨size.symm, size ▸ used⟩

theorem shortScript_crc32_ne :
    bitwiseCrc32 0 (slotStream (shortScript 2)) ≠
      bitwiseCrc32 0 (slotStream (shortScript 3)) := by
  decide +kernel

/-- Scripts which differ in their last byte are all queued. -/
theorem two_scripts_queued :
    FindsDiffering bitwiseCrc32 twoSlots (storeOf (shortScript 2))
        (storeOf (shortScript 3)) ∧
      queuedAfterManifest bitwiseCrc32 twoSlots (storeOf (shortScript 2))
          (storeOf (shortScript 3)) =
        [0, 1] := by
  have comparable :
      Comparable bitwiseCrc32 twoSlots (storeOf (shortScript 2))
        (storeOf (shortScript 3)) :=
    { inParts := bitwiseCrc32_inParts
      masterFits := fun _ _ => shortScript_fits rfl 2
      slaveFits := fun _ _ => shortScript_fits rfl 3
      noCollision := fun _ _ same => absurd same shortScript_crc32_ne }
  have finds :=
    manifest_finds_differing_slots bitwiseCrc32 twoSlots
      (storeOf (shortScript 2)) (storeOf (shortScript 3)) (by decide)
      comparable
  exact ⟨finds, finds.1.trans (by decide)⟩

/-! ## More slots than 16 bits can count -/

/-- As many slots as the count of the manifest shows as one. -/
def tooManySlots : ScriptSizes where
  slotCount := 65537
  scriptSlotSize := 4
  imageSize := 40
  settingsFullNameLen := 32

/-- Only slot 0 holds the same script as a store full of it. -/
def otherBeyondFirst : ScriptStore :=
  { storeOf (shortScript 3) with
    scriptSlots := Function.update (fun _ => shortScript 3) 0 (shortScript 2) }

theorem otherBeyondFirst_scriptSlots {slot : Nat} (beyond : slot ≠ 0) :
    otherBeyondFirst.scriptSlots slot = shortScript 3 := by
  rw [otherBeyondFirst]
  dsimp only
  rw [Function.update_of_ne beyond]

theorem otherBeyondFirst_comparable :
    Comparable bitwiseCrc32 tooManySlots (storeOf (shortScript 2))
      otherBeyondFirst where
  inParts := bitwiseCrc32_inParts
  masterFits := fun _ _ => shortScript_fits rfl 2
  slaveFits := by
    intro slot _
    by_cases first : slot = 0
    · subst first
      exact shortScript_fits rfl 2
    · rw [otherBeyondFirst_scriptSlots first]
      exact shortScript_fits rfl 3
  noCollision := by
    intro slot _ same
    by_cases first : slot = 0
    · subst first
      rfl
    · rw [otherBeyondFirst_scriptSlots first] at same
      exact absurd same shortScript_crc32_ne

/-- Slot 1 differs, and neither asked for nor queued. -/
theorem slot_beyond_count_not_compared :
    Comparable bitwiseCrc32 tooManySlots (storeOf (shortScript 2))
        otherBeyondFirst ∧
      Differs (shortScript 2) (otherBeyondFirst.scriptSlots 1) ∧
      splitlinkSyncScriptsManifestReceived bitwiseCrc32 tooManySlots
          otherBeyondFirst
          (splitlinkBuildScriptManifest bitwiseCrc32 tooManySlots
            (storeOf (shortScript 2))) =
        none ∧
      queuedAfterManifest bitwiseCrc32 tooManySlots (storeOf (shortScript 2))
          otherBeyondFirst =
        [] ∧
      ¬ ∀ options master slave,
        Comparable bitwiseCrc32 options master slave →
          FindsDiffering bitwiseCrc32 options master slave := by
  have differs :
      Differs (shortScript 2) (otherBeyondFirst.scriptSlots 1) := by
    decide
  have silent :
      splitlinkSyncScriptsManifestReceived bitwiseCrc32 tooManySlots
          otherBeyondFirst
          (splitlinkBuildScriptManifest bitwiseCrc32 tooManySlots
            (storeOf (shortScript 2))) =
        none := by
    decide +kernel
  refine
    ⟨otherBeyondFirst_comparable, differs, silent, ?_, fun always => ?_⟩
  · rw [queuedAfterManifest, silent]
  · have finds := always _ _ _ otherBeyondFirst_comparable
    exact finds.2.mp silent 1 (by decide) differs

end YkbFirmware.SplitLink.ManifestExchange
