import Mathlib.Data.Nat.Bitwise
import Mathlib.Data.List.Basic
import Mathlib.Logic.Function.Basic
import Mathlib.Tactic.Basic

/-!
# Byte memory seen from a pointer

A C pointer to bytes is modelled by the function giving the byte at every
offset from it.  Reads and writes are total, so an access outside the object
is representable: a development proves that it does not happen instead of
having it silently dropped by the data type.

The second half treats a region of memory as a bitmap, eight indices to the
byte.
-/

namespace YkbFirmware.Library.ByteMemory

/-- The bytes reachable from a pointer, by offset. -/
abbrev Memory := Nat → UInt8

namespace Memory

/-- Memory cleared throughout. -/
def zero : Memory :=
  fun _ => 0

/-- Memory holding the given bytes, and zero after them. -/
def ofList (bytes : List UInt8) : Memory :=
  fun address => bytes.getD address 0

/-- The bytes at `offset, …, offset + length - 1`. -/
def readBlock (memory : Memory) (offset length : Nat) : List UInt8 :=
  (List.range length).map fun index => memory (offset + index)

/-- `memcpy` of `length` bytes of `source` to `offset`. -/
def writeBlock
    (memory : Memory) (offset length : Nat) (source : Memory) : Memory :=
  fun address =>
    if offset ≤ address ∧ address < offset + length then
      source (address - offset)
    else
      memory address

/-- `memset` of the first `length` bytes to zero. -/
def clearBlock (memory : Memory) (length : Nat) : Memory :=
  fun address => if address < length then 0 else memory address

/-- The memory `offset` bytes further on. -/
def shift (memory : Memory) (offset : Nat) : Memory :=
  fun address => memory (offset + address)

@[simp]
theorem zero_apply (address : Nat) : zero address = 0 :=
  rfl

@[simp]
theorem shift_apply (memory : Memory) (offset address : Nat) :
    memory.shift offset address = memory (offset + address) :=
  rfl

@[simp]
theorem readBlock_length (memory : Memory) (offset length : Nat) :
    (memory.readBlock offset length).length = length := by
  simp [readBlock]

@[simp]
theorem readBlock_zero (memory : Memory) (offset : Nat) :
    memory.readBlock offset 0 = [] :=
  rfl

/-- Adjacent blocks read as one. -/
theorem readBlock_add (memory : Memory) (offset first second : Nat) :
    memory.readBlock offset (first + second) =
      memory.readBlock offset first ++
        memory.readBlock (offset + first) second := by
  simp [readBlock, List.range_add, Nat.add_assoc]

/-- Two memories read alike exactly when they agree on the block. -/
theorem readBlock_congr
    {left right : Memory} {leftOffset rightOffset length : Nat}
    (agree :
      ∀ index < length,
        left (leftOffset + index) = right (rightOffset + index)) :
    left.readBlock leftOffset length =
      right.readBlock rightOffset length := by
  apply List.map_congr_left
  intro index member
  exact agree index (List.mem_range.mp member)

theorem readBlock_eq_iff
    {left right : Memory} {leftOffset rightOffset length : Nat} :
    left.readBlock leftOffset length =
        right.readBlock rightOffset length ↔
      ∀ index < length,
        left (leftOffset + index) = right (rightOffset + index) := by
  constructor
  · intro equal index within
    exact
      List.map_inj_left.mp equal index (List.mem_range.mpr within)
  · exact readBlock_congr

@[simp]
theorem ofList_readBlock (bytes : List UInt8) :
    (ofList bytes).readBlock 0 bytes.length = bytes := by
  apply List.ext_getElem
  · simp
  · intro index left right
    simp [readBlock, ofList, right]

theorem writeBlock_inside
    {memory source : Memory} {offset length address : Nat}
    (lower : offset ≤ address) (upper : address < offset + length) :
    memory.writeBlock offset length source address =
      source (address - offset) := by
  simp [writeBlock, lower, upper]

theorem writeBlock_outside
    {memory source : Memory} {offset length address : Nat}
    (outside : address < offset ∨ offset + length ≤ address) :
    memory.writeBlock offset length source address = memory address := by
  have notInside : ¬ (offset ≤ address ∧ address < offset + length) := by
    omega
  simp [writeBlock, notInside]

@[simp]
theorem writeBlock_zero (memory source : Memory) (offset : Nat) :
    memory.writeBlock offset 0 source = memory := by
  funext address
  exact writeBlock_outside (by omega)

/-- The block just written reads as its source. -/
theorem readBlock_writeBlock
    {memory source : Memory} {offset length : Nat} :
    (memory.writeBlock offset length source).readBlock offset length =
      source.readBlock 0 length := by
  apply readBlock_congr
  intro index within
  rw [writeBlock_inside (by omega) (by omega), Nat.add_sub_cancel_left,
    Nat.zero_add]

/-- A write depends on the bytes it copies only. -/
theorem writeBlock_congr
    {memory first second : Memory} {offset length : Nat}
    (agree : ∀ position < length, first position = second position) :
    memory.writeBlock offset length first =
      memory.writeBlock offset length second := by
  funext address
  by_cases inside : offset ≤ address ∧ address < offset + length
  · rw [writeBlock_inside inside.1 inside.2,
      writeBlock_inside inside.1 inside.2]
    exact agree (address - offset) (by omega)
  · rw [writeBlock_outside (by omega), writeBlock_outside (by omega)]

/-! ## Bitmaps -/

/-- Whether bit `index` is set, eight bits to the byte. -/
def testBit (bitmap : Memory) (index : Nat) : Bool :=
  (bitmap (index / 8) &&& (1 <<< UInt8.ofNat (index % 8))) != 0

/-- Set bit `index`. -/
def setBit (bitmap : Memory) (index : Nat) : Memory :=
  Function.update bitmap (index / 8)
    (bitmap (index / 8) ||| (1 <<< UInt8.ofNat (index % 8)))

theorem bitMask_toNat {bit : Nat} (small : bit < 8) :
    ((1 : UInt8) <<< UInt8.ofNat bit).toNat = 2 ^ bit := by
  have cases :
      bit = 0 ∨ bit = 1 ∨ bit = 2 ∨ bit = 3 ∨ bit = 4 ∨ bit = 5 ∨
        bit = 6 ∨ bit = 7 := by
    omega
  rcases cases with rfl | rfl | rfl | rfl | rfl | rfl | rfl | rfl <;> rfl

/-- The C mask test reads one binary digit of the byte. -/
theorem testBit_eq (bitmap : Memory) (index : Nat) :
    testBit bitmap index =
      (bitmap (index / 8)).toNat.testBit (index % 8) := by
  have small : index % 8 < 8 := Nat.mod_lt _ (by decide)
  rw [Bool.eq_iff_iff]
  simp only [testBit, bne_iff_ne, ne_eq, ← UInt8.toNat_inj,
    UInt8.toNat_and, bitMask_toNat small, UInt8.toNat_zero,
    Nat.and_two_pow]
  cases (bitmap (index / 8)).toNat.testBit (index % 8) <;> simp

/-- Setting one bit changes that bit and no other. -/
theorem testBit_setBit (bitmap : Memory) (index other : Nat) :
    testBit (setBit bitmap index) other =
      (decide (other = index) || testBit bitmap other) := by
  have small : index % 8 < 8 := Nat.mod_lt _ (by decide)
  rw [testBit_eq, testBit_eq, setBit]
  by_cases sameByte : other / 8 = index / 8
  · rw [sameByte, Function.update_self, UInt8.toNat_or,
      bitMask_toNat small, Nat.testBit_or, Nat.testBit_two_pow,
      Bool.or_comm]
    have sameBit : index % 8 = other % 8 ↔ other = index := by
      omega
    simp [sameBit]
  · have distinct : other ≠ index := by
      rintro rfl
      exact sameByte rfl
    rw [Function.update_of_ne sameByte]
    simp [distinct]

@[simp]
theorem testBit_setBit_self (bitmap : Memory) (index : Nat) :
    testBit (setBit bitmap index) index = true := by
  simp [testBit_setBit]

/-- No bit is set in a cleared region. -/
theorem testBit_clearBlock
    {bitmap : Memory} {size index : Nat} (within : index / 8 < size) :
    testBit (clearBlock bitmap size) index = false := by
  simp [testBit, clearBlock, within]

end Memory

end YkbFirmware.Library.ByteMemory
