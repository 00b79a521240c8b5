import Mathlib.Algebra.Group.Int.Defs
import Mathlib.Algebra.Group.Nat.Defs
import Mathlib.Data.List.Basic
import Mathlib.Tactic.SplitIfs

/-!
# Codecs of prefixes, and those of CBOR

A codec writes a value as a list of bytes and reads one back from the front of
a longer list, with what is left of it.  Values written one after the other
are read back in the same order.

CBOR writes a number as a head: three bits of a major type, and an argument
that takes up to four further bytes here.  Unsigned numbers, negative numbers
and strings of bytes are told apart by their major types.
-/

namespace YkbFirmware.Library.Cbor

universe u v

/-! ## Codecs -/

/-- A value is read back from the front of what follows it. -/
structure PrefixCodec (Byte : Type u) (Value : Type v) where
  encode : Value → List Byte
  decode : List Byte → Option (Value × List Byte)
  /-- The values that the format has room for. -/
  Admits : Value → Prop
  decode_encode :
    ∀ value rest, Admits value →
      decode (encode value ++ rest) = some (value, rest)

/-- Nothing has to follow. -/
theorem PrefixCodec.decode_encode_nil
    {Byte : Type u} {Value : Type v} (codec : PrefixCodec Byte Value)
    {value : Value} (admits : codec.Admits value) :
    codec.decode (codec.encode value) = some (value, []) := by
  have read := codec.decode_encode value [] admits
  rwa [List.append_nil] at read

/-! ## Bytes and numbers -/

/-- The first bytes of the input, if there are as many. -/
def takeBytes {Byte : Type u} (count : Nat) (input : List Byte) :
    Option (List Byte × List Byte) :=
  if count ≤ input.length then
    some (input.take count, input.drop count)
  else
    none

theorem takeBytes_append
    {Byte : Type u} {count : Nat} {bytes : List Byte}
    (length : bytes.length = count) (rest : List Byte) :
    takeBytes count (bytes ++ rest) = some (bytes, rest) := by
  have enough : count ≤ (bytes ++ rest).length := by
    rw [List.length_append, length]
    exact Nat.le_add_right count rest.length
  rw [takeBytes, if_pos enough, ← length, List.take_left, List.drop_left]

/-- The bytes of a number, the least significant one last. -/
def bigEndian : Nat → Nat → List UInt8
  | 0, _ => []
  | width + 1, value => bigEndian width (value / 256) ++ [UInt8.ofNat value]

/-- The number that bytes stand for. -/
def ofBigEndian (bytes : List UInt8) : Nat :=
  bytes.foldl (fun value byte => value * 256 + byte.toNat) 0

@[simp]
theorem length_bigEndian (width value : Nat) :
    (bigEndian width value).length = width := by
  induction width generalizing value with
  | zero => rfl
  | succ width induction =>
      rw [bigEndian, List.length_append, induction, List.length_singleton]

theorem ofBigEndian_bigEndian
    {width value : Nat} (fits : value < 256 ^ width) :
    ofBigEndian (bigEndian width value) = value := by
  induction width generalizing value with
  | zero =>
      rw [Nat.pow_zero, Nat.lt_one_iff] at fits
      rw [fits]
      rfl
  | succ width induction =>
      rw [Nat.pow_succ] at fits
      have upper : value / 256 < 256 ^ width :=
        Nat.div_lt_of_lt_mul (by rwa [Nat.mul_comm])
      have read := induction upper
      rw [ofBigEndian] at read
      rw [bigEndian, ofBigEndian, List.foldl_append, read, List.foldl_cons,
        List.foldl_nil, UInt8.toNat_ofNat']
      exact Nat.div_add_mod' value 256

/-! ## Heads -/

/-- The first byte of a head. -/
def initialByte (major info : Nat) : UInt8 :=
  UInt8.ofNat (major * 32 + info)

/-- The head of a major type, with the fewest bytes for its argument. -/
def encodeHead (major argument : Nat) : List UInt8 :=
  if argument < 24 then
    [initialByte major argument]
  else if argument < 256 then
    initialByte major 24 :: bigEndian 1 argument
  else if argument < 65536 then
    initialByte major 25 :: bigEndian 2 argument
  else
    initialByte major 26 :: bigEndian 4 argument

/-- The argument that takes so many bytes. -/
def decodeArgument (width : Nat) (input : List UInt8) :
    Option (Nat × List UInt8) :=
  (takeBytes width input).map fun taken => (ofBigEndian taken.1, taken.2)

/-- The argument that the first byte tells. -/
def argumentOf (info : Nat) (rest : List UInt8) :
    Option (Nat × List UInt8) :=
  if info < 24 then
    some (info, rest)
  else
    match info with
    | 24 => decodeArgument 1 rest
    | 25 => decodeArgument 2 rest
    | 26 => decodeArgument 4 rest
    | _ => none

/-- The argument of a head of the major type. -/
def decodeHead (major : Nat) : List UInt8 → Option (Nat × List UInt8)
  | [] => none
  | initial :: rest =>
      if initial.toNat / 32 = major then
        argumentOf (initial.toNat % 32) rest
      else
        none

section Heads

variable {major argument : Nat}

theorem initialByte_split
    {info : Nat} (isMajor : major < 8) (isInfo : info < 32) :
    (initialByte major info).toNat / 32 = major ∧
      (initialByte major info).toNat % 32 = info := by
  rw [initialByte, UInt8.toNat_ofNat', Nat.mod_eq_of_lt (by omega)]
  omega

theorem decodeArgument_bigEndian
    {width : Nat} (fits : argument < 256 ^ width) (rest : List UInt8) :
    decodeArgument width (bigEndian width argument ++ rest) =
      some (argument, rest) := by
  rw [decodeArgument, takeBytes_append (length_bigEndian width argument),
    Option.map_some, ofBigEndian_bigEndian fits]

theorem decodeHead_initialByte
    {info : Nat} (isMajor : major < 8) (isInfo : info < 32)
    (rest : List UInt8) :
    decodeHead major (initialByte major info :: rest) =
      argumentOf info rest := by
  have split := initialByte_split isMajor isInfo
  rw [decodeHead, if_pos split.1, split.2]

theorem decodeHead_encodeHead
    (isMajor : major < 8) (fits : argument < 2 ^ 32) (rest : List UInt8) :
    decodeHead major (encodeHead major argument ++ rest) =
      some (argument, rest) := by
  rw [encodeHead]
  split_ifs with tiny small medium
  · rw [List.singleton_append, decodeHead_initialByte isMajor (by omega)]
    exact if_pos tiny
  · have oneByte : argument < 256 ^ 1 := small
    rw [List.cons_append, decodeHead_initialByte isMajor (by omega)]
    exact decodeArgument_bigEndian oneByte rest
  · have twoBytes : argument < 256 ^ 2 := medium
    rw [List.cons_append, decodeHead_initialByte isMajor (by omega)]
    exact decodeArgument_bigEndian twoBytes rest
  · have fourBytes : argument < 256 ^ 4 := fits
    rw [List.cons_append, decodeHead_initialByte isMajor (by omega)]
    exact decodeArgument_bigEndian fourBytes rest

theorem length_encodeHead_le : (encodeHead major argument).length ≤ 5 := by
  rw [encodeHead]
  split_ifs <;> simp

/-- A head of another major type is not read. -/
theorem decodeHead_other
    {other : Nat} (isMajor : major < 8) (differs : other ≠ major)
    (rest : List UInt8) :
    decodeHead other (encodeHead major argument ++ rest) = none := by
  have refuses (info : Nat) (isInfo : info < 32) (rest : List UInt8) :
      decodeHead other (initialByte major info :: rest) = none := by
    rw [decodeHead, (initialByte_split isMajor isInfo).1,
      if_neg differs.symm]
  rw [encodeHead]
  split_ifs with tiny small medium
  · exact refuses argument (by omega) rest
  · exact refuses 24 (by decide) _
  · exact refuses 25 (by decide) _
  · exact refuses 26 (by decide) _

end Heads

/-! ## Values -/

/-- Unsigned numbers. -/
def unsigned : PrefixCodec UInt8 Nat where
  encode := encodeHead 0
  decode := decodeHead 0
  Admits value := value < 2 ^ 32
  decode_encode _ rest fits := decodeHead_encodeHead (by decide) fits rest

/-- Signed numbers; the negative ones have a major type of their own. -/
def signed : PrefixCodec UInt8 Int where
  encode
    | .ofNat value => encodeHead 0 value
    | .negSucc value => encodeHead 1 value
  decode input :=
    match decodeHead 0 input with
    | some (value, rest) => some (.ofNat value, rest)
    | none =>
        (decodeHead 1 input).map fun read => (.negSucc read.1, read.2)
  Admits value := -(2 ^ 32) ≤ value ∧ value < 2 ^ 32
  decode_encode value rest fits := by
    cases value with
    | ofNat value =>
        have upper : (value : Int) < 2 ^ 32 := fits.2
        have small : value < 2 ^ 32 := by omega
        dsimp only
        rw [decodeHead_encodeHead (by decide) small rest]
    | negSucc value =>
        have small : value < 2 ^ 32 := by
          have lower := fits.1
          omega
        dsimp only
        rw [decodeHead_other (by decide) (by decide) rest,
          decodeHead_encodeHead (by decide) small rest]
        rfl

/-- Strings of bytes, behind their length. -/
def byteString : PrefixCodec UInt8 (List UInt8) where
  encode bytes := encodeHead 2 bytes.length ++ bytes
  decode input :=
    (decodeHead 2 input).bind fun read => takeBytes read.1 read.2
  Admits bytes := bytes.length < 2 ^ 32
  decode_encode bytes rest fits := by
    rw [List.append_assoc, decodeHead_encodeHead (by decide) fits,
      Option.bind_some]
    exact takeBytes_append rfl rest

end YkbFirmware.Library.Cbor
