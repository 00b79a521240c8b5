import YkbFirmware.Scripts.PythonText

/-!
# The layout file of the default settings

`parse_layout` of `gen_default_settings.py`, which sorts the lines of a layout
file into its sections.
-/

namespace YkbFirmware.Scripts.DefaultLayout

open YkbFirmware.Scripts.PythonText

/-! ## Sections -/

/-- `ARRAY_SECTIONS`. -/
inductive ArraySection where
  | thresholds
  | minimums
  | maximums
  | deadzones
  | layer1
  | layer2
  | layer3
deriving DecidableEq, Repr

/-- `MOUSEEMU_KEYS`. -/
inductive MouseemuKey where
  | enabled
  | direction
  | moveX
  | moveY
  | scroll
deriving DecidableEq, Repr

/-- `MOUSEEMU_ARRAY_KEYS`. -/
inductive MouseemuArrayKey where
  | moveKeys
  | scrollKeys
  | buttonKeys
deriving DecidableEq, Repr

inductive LayoutSection where
  | array (name : ArraySection)
  | mouseemu
  | fnShortcuts
  | mouseemuArray (key : MouseemuArrayKey)
deriving DecidableEq, Repr

def sectionNames : List (Text × LayoutSection) :=
  [ ("thresholds".toList, .array .thresholds),
    ("minimums".toList, .array .minimums),
    ("maximums".toList, .array .maximums),
    ("deadzones".toList, .array .deadzones),
    ("layer1".toList, .array .layer1),
    ("layer2".toList, .array .layer2),
    ("layer3".toList, .array .layer3),
    ("mouseemu".toList, .mouseemu),
    ("fn_shortcuts".toList, .fnShortcuts),
    ("move_keys".toList, .mouseemuArray .moveKeys),
    ("scroll_keys".toList, .mouseemuArray .scrollKeys),
    ("button_keys".toList, .mouseemuArray .buttonKeys) ]

def mouseemuKeyNames : List (Text × MouseemuKey) :=
  [ ("enabled".toList, .enabled),
    ("direction".toList, .direction),
    ("move_x".toList, .moveX),
    ("move_y".toList, .moveY),
    ("scroll".toList, .scroll) ]

/-- The left and the right tokens of one line. -/
abbrev HalfRow := List Text × List Text

/-- The `data` of `parse_layout`. -/
structure Sections where
  rows : ArraySection → List HalfRow
  mouseemu : MouseemuKey → Option Text
  fnShortcuts : List (Nat × Text)
  tokens : MouseemuArrayKey → List Text

def noSections : Sections where
  rows := fun _ => []
  mouseemu := fun _ => none
  fnShortcuts := []
  tokens := fun _ => []

/-! ## Errors -/

/-- The errors of the script, with what their messages quote. -/
inductive LayoutError where
  | unknownSection (lineno : Nat) (name : Text)
  | contentBeforeSection (lineno : Nat)
  | mouseemuNotKeyValue (lineno : Nat)
  | unknownMouseemuKey (lineno : Nat) (key : Text)
  | tooManySeparators (lineno : Nat) (name : ArraySection)
  | levelNotInteger (name : ArraySection) (idx : Nat) (token : Text)
  | levelOutside (name : ArraySection) (idx : Nat) (value : Int)
  | fnShortcutForm (lineno : Nat)
  | fnShortcutLhsForm (lineno : Nat)
  | fnShortcutPrefix (lineno : Nat)
  | unknownFnParamAction (lineno : Nat) (actionName : Text)
  | expectsInteger (lineno : Nat) (actionName : Text)
  | expectsIntegerPercent (lineno : Nat) (actionName : Text)
  | percentOutside (lineno : Nat)
  | expectsNumericSpeed (lineno : Nat) (actionName : Text)
  | speedOutside (lineno : Nat)
  | speedNotRounded (lineno : Nat)
  | unknownFnAction (lineno : Nat) (rhs : Text)
  | thresholdsEmpty
  | wrongLength (name : ArraySection) (length keyCount : Nat)
  | minimumAboveMaximum (idx : Nat) (minimum maximum : Int)
  | layerEmpty (name : ArraySection)
  | mouseemuNotBool (key : MouseemuKey)
  | mouseemuDirection
  | ratioForm (key : MouseemuKey)
  | ratioNotIntegers (key : MouseemuKey)
  | ratioZero (key : MouseemuKey)
  | tooManyKeys (key : MouseemuArrayKey) (count maxCount : Nat)
  | keyNotInteger (key : MouseemuArrayKey) (idx : Nat) (token : Text)
deriving DecidableEq, Repr

/-! ## The loop over the lines -/

structure ParseState where
  data : Sections
  current : Option LayoutSection

/-- `line` without its comment. -/
def content (rawLine : Text) : Text :=
  strip (rawLine.takeWhile (· ≠ '#'))

/-- `line.startswith("[") and line.endswith("]")`. -/
def isHeader (line : Text) : Bool :=
  line.head? = some '[' ∧ line.getLast? = some ']'

/-- A line of `[mouseemu]`. -/
def mouseemuLine
    (python : Python) (data : Sections) (lineno : Nat) (line : Text) :
    Except LayoutError Sections :=
  match splitOnce '=' line with
  | none => .error (.mouseemuNotKeyValue lineno)
  | some (lhs, rhs) =>
      let key := python.lower (strip lhs)
      let value := python.lower (strip rhs)
      match mouseemuKeyNames.lookup key with
      | none => .error (.unknownMouseemuKey lineno key)
      | some known =>
          .ok
            { data with
              mouseemu := fun other =>
                if other = known then some value else data.mouseemu other }

/-- A line of an array section. -/
def arrayLine
    (data : Sections) (name : ArraySection) (lineno : Nat) (line : Text) :
    Except LayoutError Sections :=
  let parts := (line.splitOn '|').map strip
  if parts.length > 2 then
    .error (.tooManySeparators lineno name)
  else
    let row : HalfRow :=
      (split (parts.getD 0 []), split (parts.getD 1 []))
    .ok
      { data with
        rows := fun other =>
          if other = name then data.rows name ++ [row] else data.rows other }

/-- A line of one of the lists of keys. -/
def tokensLine (data : Sections) (key : MouseemuArrayKey) (line : Text) :
    Sections :=
  { data with
    tokens := fun other =>
      if other = key then
        data.tokens key ++ (split line).filter (· ≠ ['|'])
      else
        data.tokens other }

/-- One pass of the loop of `parse_layout`. -/
def parseLine
    (python : Python) (st : ParseState) (numbered : Text × Nat) :
    Except LayoutError ParseState :=
  let lineno := numbered.2
  let line := content numbered.1
  if line = [] then
    .ok st
  else if isHeader line then
    let name := python.lower (strip (line.drop 1).dropLast)
    match sectionNames.lookup name with
    | none => .error (.unknownSection lineno name)
    | some current => .ok { st with current := some current }
  else
    match st.current with
    | none => .error (.contentBeforeSection lineno)
    | some .mouseemu =>
        (mouseemuLine python st.data lineno line).map fun data =>
          { st with data := data }
    | some .fnShortcuts =>
        .ok
          { st with
            data :=
              { st.data with
                fnShortcuts := st.data.fnShortcuts ++ [(lineno, line)] } }
    | some (.array name) =>
        (arrayLine st.data name lineno line).map fun data =>
          { st with data := data }
    | some (.mouseemuArray key) =>
        .ok { st with data := tokensLine st.data key line }

/-- `parse_layout`, on the text of the file. -/
def parseLayout (python : Python) (layout : Text) :
    Except LayoutError Sections :=
  (((splitlines layout).zipIdx 1).foldlM (parseLine python)
      ⟨noSections, none⟩).map ParseState.data

/-- `flatten_half_rows`. -/
def flattenHalfRows (rows : List HalfRow) : List Text :=
  let left := rows.flatMap Prod.fst
  let right := rows.flatMap Prod.snd
  let rightSeen := rows.any fun row => row.2 ≠ []
  if rightSeen then left ++ right else left

end YkbFirmware.Scripts.DefaultLayout
