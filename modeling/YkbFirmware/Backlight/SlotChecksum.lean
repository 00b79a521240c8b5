import YkbFirmware.Backlight.ScriptSlots

/-!
# The checksum of a script slot

`ykb_backlight_get_script_slot_crc32`.  Its CRC-32 runs over a stream of four
parts without separators: the occupied flag, the size, the name up to its
first NUL, and as many bytes of bytecode as the size says, if the slot is
occupied.  Together with the flag and the size the stream determines the name
and the bytecode, and nothing behind their ends enters it.

`crc32_ieee_update` belongs to the operating system and is a parameter.
-/

namespace YkbFirmware.Backlight.SlotChecksum

open YkbFirmware.VendorHid.Protocol
open YkbFirmware.Backlight.ScriptSlots

/-- `crc32_ieee_update`: the checksum so far and the data to add. -/
abbrev Crc32Update := UInt32 → List UInt8 → UInt32

/-- Data may be added in parts. -/
def Crc32Update.InParts (crc32Update : Crc32Update) : Prop :=
  ∀ crc first second,
    crc32Update (crc32Update crc first) second =
      crc32Update crc (first ++ second)

/-- The byte of a `bool`. -/
def occupiedByte (occupied : Bool) : UInt8 :=
  if occupied then 1 else 0

/-- The name up to its first NUL, as `strnlen` measures it. -/
def nameText (slot : ScriptSlot) : List UInt8 :=
  slot.name.takeWhile fun character => character ≠ 0

/-- The bytecode the checksum covers. -/
def coveredBytecode (slot : ScriptSlot) : List UInt8 :=
  if slot.occupied = true ∧ slot.size > 0 then
    slot.bytecode.take slot.size.toNat
  else
    []

def ykbBacklightGetScriptSlotCrc32
    (crc32Update : Crc32Update) (options : ScriptSizes)
    (store : ScriptStore) (slot : UInt16) : Except Int UInt32 :=
  if options.slotCount ≤ slot.toNat then
    .error (-34)
  else
    let slotData := store.scriptSlots slot.toNat
    let crc := crc32Update 0 [occupiedByte slotData.occupied]
    let crc := crc32Update crc (wordBytes slotData.size)
    let crc := crc32Update crc (nameText slotData)
    .ok
      (if slotData.occupied = true ∧ slotData.size > 0 then
        crc32Update crc (slotData.bytecode.take slotData.size.toNat)
      else
        crc)

/-- Everything the checksum of a slot runs over. -/
def slotStream (slot : ScriptSlot) : List UInt8 :=
  occupiedByte slot.occupied ::
    (wordBytes slot.size ++ nameText slot ++ coveredBytecode slot)

section Stream

variable {crc32Update : Crc32Update} {options : ScriptSizes}

theorem getScriptSlotCrc32_eq
    (inParts : crc32Update.InParts) (store : ScriptStore) {slot : UInt16}
    (inside : slot.toNat < options.slotCount) :
    ykbBacklightGetScriptSlotCrc32 crc32Update options store slot =
      .ok (crc32Update 0 (slotStream (store.scriptSlots slot.toNat))) := by
  rw [ykbBacklightGetScriptSlotCrc32, if_neg (Nat.not_le.mpr inside)]
  dsimp only
  rw [slotStream, coveredBytecode]
  split_ifs
  · rw [inParts, inParts, inParts]
    simp
  · rw [inParts, inParts]
    simp

variable {first second : ScriptSlot}

/--
The two slots are told apart by what is synchronized: the flag, the size, the
name up to its first NUL, or the bytecode in use of an occupied slot.
-/
def Differs (first second : ScriptSlot) : Prop :=
  first.occupied ≠ second.occupied ∨ first.size ≠ second.size ∨
    nameText first ≠ nameText second ∨
      first.occupied = true ∧
        first.bytecode.take first.size.toNat ≠
          second.bytecode.take second.size.toNat

instance (first second : ScriptSlot) : Decidable (Differs first second) :=
  inferInstanceAs (Decidable (_ ∨ _ ∨ _ ∨ _ ∧ _))

/-- The array of bytecode is as long as it is declared, and so is its use. -/
structure SlotFits (options : ScriptSizes) (slot : ScriptSlot) : Prop where
  bytecode : slot.bytecode.length = options.scriptSlotSize
  size : slot.size.toNat ≤ options.scriptSlotSize

theorem SlotFits.coveredBytecode_length
    {slot : ScriptSlot} (fits : SlotFits options slot) :
    (coveredBytecode slot).length =
      if slot.occupied then slot.size.toNat else 0 := by
  rw [coveredBytecode]
  cases slot.occupied with
  | false => simp
  | true =>
      by_cases used : slot.size > 0
      · have bytecode := fits.bytecode
        have size := fits.size
        rw [if_pos ⟨rfl, used⟩, List.length_take, if_pos rfl]
        omega
      · have empty : slot.size.toNat = 0 := by
          simpa [UInt32.lt_iff_toNat_lt] using used
        simp [used, empty]

/-- Of an occupied slot the bytecode in use is covered. -/
theorem coveredBytecode_of_occupied
    {slot : ScriptSlot} (occupied : slot.occupied = true) :
    coveredBytecode slot = slot.bytecode.take slot.size.toNat := by
  rw [coveredBytecode]
  split_ifs with used
  · rfl
  · have empty : slot.size.toNat = 0 := by
      simpa [occupied, UInt32.lt_iff_toNat_lt] using used
    simp [empty]

/-- Flag, size and stream are the same exactly for slots that do not differ. -/
theorem same_stream_iff
    (firstFits : SlotFits options first)
    (secondFits : SlotFits options second) :
    first.occupied = second.occupied ∧ first.size = second.size ∧
        slotStream first = slotStream second ↔
      ¬ Differs first second := by
  simp only [Differs, not_or, not_and, ne_eq, not_not]
  constructor
  · rintro ⟨occupied, size, streams⟩
    rw [slotStream, slotStream, occupied, size] at streams
    have texts := List.append_inj'
      (List.append_cancel_left
        (by simpa only [List.append_assoc] using (List.cons.inj streams).2))
      (by
        rw [firstFits.coveredBytecode_length,
          secondFits.coveredBytecode_length, occupied, size])
    refine ⟨occupied, size, texts.1, fun used => ?_⟩
    rw [← coveredBytecode_of_occupied used,
      ← coveredBytecode_of_occupied (occupied ▸ used)]
    exact texts.2
  · rintro ⟨occupied, size, name, bytecode⟩
    refine ⟨occupied, size, ?_⟩
    have covered : coveredBytecode first = coveredBytecode second := by
      rw [coveredBytecode, coveredBytecode, occupied, size]
      split_ifs with used
      · have same := bytecode (occupied.trans used.1)
        rwa [size] at same
      · rfl
    rw [slotStream, slotStream, occupied, size, name, covered]

end Stream

end YkbFirmware.Backlight.SlotChecksum
