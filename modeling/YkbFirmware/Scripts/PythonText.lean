import Mathlib.Data.List.DropRight

/-!
# Python text

The methods of `str` and the conversions to numbers that the scripts of the
build use, over texts as lists of characters.  What they take from the Unicode
tables, and floating-point numbers, are parameters.
-/

namespace YkbFirmware.Scripts.PythonText

abbrev Text := List Char

/-- What depends on the Python that runs. -/
structure Python where
  lower : Text → Text
  upper : Text → Text
  /-- The value of a decimal digit of any script. -/
  decimal : Char → Option Nat
  /-- `sys.get_int_max_str_digits()`; zero stands for no limit. -/
  intMaxStrDigits : Nat
  float : Text → Option Float
  /-- `int(round(x))`, which a number that is not finite does not have. -/
  intRound : Float → Option Int

/-- `str.isspace` of one character. -/
def isSpace (c : Char) : Bool :=
  (9 ≤ c.toNat ∧ c.toNat ≤ 13) ∨ (28 ≤ c.toNat ∧ c.toNat ≤ 32) ∨
    (0x2000 ≤ c.toNat ∧ c.toNat ≤ 0x200a) ∨
    c.toNat ∈
      [0x85, 0xa0, 0x1680, 0x2028, 0x2029, 0x202f, 0x205f, 0x3000]

def strip (text : Text) : Text :=
  (text.dropWhile isSpace).rdropWhile isSpace

/-- `text.split()`. -/
def split (text : Text) : List Text :=
  (text.splitOnP isSpace).filter (· ≠ [])

/-- `text.split(separator, 1)`, if it has two parts. -/
def splitOnce (separator : Char) (text : Text) : Option (Text × Text) :=
  match text.span (· ≠ separator) with
  | (_, []) => none
  | (before, _ :: after) => some (before, after)

/-- The line boundaries of `str.splitlines`. -/
def isLineBreak (c : Char) : Bool :=
  c.toNat ∈ [0x0a, 0x0b, 0x0c, 0x0d, 0x1c, 0x1d, 0x1e, 0x85, 0x2028, 0x2029]

def splitlines : Text → List Text
  | [] => []
  | '\r' :: '\n' :: rest => [] :: splitlines rest
  | c :: rest =>
      if isLineBreak c then
        [] :: splitlines rest
      else
        match splitlines rest with
        | [] => [[c]]
        | line :: lines => (c :: line) :: lines

/-- The values of digits, which single underscores may separate. -/
def digits (python : Python) : Text → Option (List Nat)
  | [] => none
  | [c] => (python.decimal c).map fun digit => [digit]
  | c :: '_' :: rest => do
      let digit ← python.decimal c
      let more ← digits python rest
      pure (digit :: more)
  | c :: rest => do
      let digit ← python.decimal c
      let more ← digits python rest
      pure (digit :: more)

/-- A text of digits as a number. -/
def natural (python : Python) (text : Text) : Option Nat := do
  let values ← digits python text
  if 0 < python.intMaxStrDigits ∧ python.intMaxStrDigits < values.length then
    none
  else
    pure (values.foldl (fun value digit => 10 * value + digit) 0)

/-- `int(text, 10)`; `none` where it raises `ValueError`. -/
def int (python : Python) (text : Text) : Option Int :=
  match strip text with
  | '-' :: rest => (natural python rest).map fun value => -(value : Int)
  | '+' :: rest => (natural python rest).map fun value => (value : Int)
  | rest => (natural python rest).map fun value => (value : Int)

/-- Python on ASCII texts, without floating-point numbers. -/
def asciiPython : Python where
  lower := List.map Char.toLower
  upper := List.map Char.toUpper
  decimal := fun c => if c.isDigit then some (c.toNat - 48) else none
  intMaxStrDigits := 4300
  float := fun _ => none
  intRound := fun _ => none

example :
    int asciiPython " -1_023 ".toList = some (-1023) ∧
      int asciiPython "1__0".toList = none ∧
      splitlines "a\r\n\nb\n".toList = [['a'], [], ['b']] := by
  decide

end YkbFirmware.Scripts.PythonText
