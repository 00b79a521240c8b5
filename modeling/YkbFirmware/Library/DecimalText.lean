import Mathlib.Data.List.TakeWhile
import Mathlib.Tactic.Basic

/-!
# Decimal numbers in C strings

A C string is the list of its characters before the terminator.  `%u` prints
the digits `Nat.toDigits 10`, and `strtoul` with base 10 reads a number and
says where it stopped.  What was printed is read back to its end.
-/

namespace YkbFirmware.Library.DecimalText

/-- The printed form determines the number. -/
theorem toDigits_injective :
    Function.Injective (Nat.toDigits 10) := by
  intro first second same
  calc
    first = Nat.ofDigitChars 10 (Nat.toDigits 10 first) 0 :=
      Nat.ofDigitChars_ten_toDigits.symm
    _ = Nat.ofDigitChars 10 (Nat.toDigits 10 second) 0 := by rw [same]
    _ = second := Nat.ofDigitChars_ten_toDigits

/-! ## Printing into a buffer -/

/--
`snprintf` where the text and its terminator have to fit into `size` bytes;
the error is `-EINVAL`.
-/
def snprintf (size : Nat) (text : List Char) : Except Int (List Char) :=
  if size ≤ text.length then .error (-22) else .ok text

theorem snprintf_fits
    {size : Nat} {text : List Char} (fits : text.length < size) :
    snprintf size text = .ok text :=
  if_neg (Nat.not_le.mpr fits)

/-! ## Reading -/

/-- `isspace`. -/
def isSpace (character : Char) : Bool :=
  character == ' ' || (9 ≤ character.toNat && character.toNat ≤ 13)

/-- An optional sign: whether it is a minus, and the text after it. -/
def splitSign : List Char → Bool × List Char
  | '-' :: rest => (true, rest)
  | '+' :: rest => (false, rest)
  | text => (false, text)

/--
`strtoul` with base 10, where `max` is the largest value: the number and the
text from `endptr` on.  Without digits nothing is consumed.
-/
def strtoul (max : Nat) (text : List Char) : Nat × List Char :=
  let signed := splitSign (text.dropWhile isSpace)
  let digits := signed.2.takeWhile Char.isDigit
  if digits = [] then
    (0, text)
  else
    let value := Nat.ofDigitChars 10 digits 0
    (if max < value then max
      else if signed.1 then (max + 1 - value) % (max + 1)
      else value,
      signed.2.dropWhile Char.isDigit)

theorem isSpace_of_isDigit
    {character : Char} (digit : character.isDigit = true) :
    isSpace character = false := by
  have range : 48 ≤ character.toNat ∧ character.toNat ≤ 57 :=
    Char.isDigit_iff_toNat.mp digit
  rw [isSpace, Bool.or_eq_false_iff]
  constructor
  · rw [beq_eq_false_iff_ne]
    rintro rfl
    exact absurd digit (by decide)
  · simp
    omega

theorem splitSign_of_isDigit
    {character : Char} {rest : List Char}
    (digit : character.isDigit = true) :
    splitSign (character :: rest) = (false, character :: rest) := by
  rw [splitSign]
  · rintro _ ⟨⟩
    exact absurd digit (by decide)
  · rintro _ ⟨⟩
    exact absurd digit (by decide)

/-- A printed number is read back, up to its end. -/
theorem strtoul_toDigits {max number : Nat} (fits : number ≤ max) :
    strtoul max (Nat.toDigits 10 number) = (number, []) := by
  have digits :
      ∀ character ∈ Nat.toDigits 10 number, character.isDigit = true :=
    fun _ member =>
      Nat.isDigit_of_mem_toDigits (by decide) (by decide) member
  have unsigned :
      splitSign ((Nat.toDigits 10 number).dropWhile isSpace) =
        (false, Nat.toDigits 10 number) := by
    cases printed : Nat.toDigits 10 number with
    | nil => exact absurd printed Nat.toDigits_ne_nil
    | cons first rest =>
        have digit : first.isDigit = true :=
          digits first (by rw [printed]; exact List.mem_cons_self)
        rw [List.dropWhile_cons_of_neg (by simp [isSpace_of_isDigit digit]),
          splitSign_of_isDigit digit]
  have taken :
      (Nat.toDigits 10 number).takeWhile Char.isDigit =
        Nat.toDigits 10 number :=
    List.takeWhile_eq_self_iff.mpr digits
  have dropped : (Nat.toDigits 10 number).dropWhile Char.isDigit = [] :=
    List.dropWhile_eq_nil_iff.mpr digits
  simp [strtoul, unsigned, taken, dropped, Nat.toDigits_ne_nil,
    Nat.not_lt.mpr fits]

end YkbFirmware.Library.DecimalText
