import Mathlib.Data.BitVec
import Mathlib.Logic.Function.Iterate
import Mathlib.Tactic.Basic

/-!
# Cyclic redundancy checks by a shift register

A register of `width` bits is shifted to the right, and a polynomial is added
whenever a set bit falls out.  A symbol is added to the register and as many
steps as it has bits are made; a check value is what a list of symbols leaves
in the register.

A step is linear, and it can be undone if the top bit of the polynomial is
set.  Symbols which together have at most `width` bits amount to one addition
to the register followed by all their steps, so a check value tells lists
apart which differ in such a window only.
-/

namespace YkbFirmware.Library.ShiftRegister

section Register

variable {width : Nat}

def step (poly state : BitVec width) : BitVec width :=
  if state.getLsbD 0 then (state >>> 1) ^^^ poly else state >>> 1

/-- Add a symbol and make one step for each of its bits. -/
def feed {symbolWidth : Nat}
    (poly state : BitVec width) (symbol : BitVec symbolWidth) :
    BitVec width :=
  (step poly)^[symbolWidth] (state ^^^ symbol.setWidth width)

/-- What a list of symbols leaves in the register. -/
def check {symbolWidth : Nat}
    (poly state : BitVec width) (symbols : List (BitVec symbolWidth)) :
    BitVec width :=
  symbols.foldl (feed poly) state

/-! ## Steps -/

variable {poly : BitVec width}

theorem getLsbD_step (state : BitVec width) (position : Nat) :
    (step poly state).getLsbD position =
      (state.getLsbD (position + 1) ^^
        (state.getLsbD 0 && poly.getLsbD position)) := by
  rw [step]
  split_ifs with fallen
  · simp [fallen, Nat.add_comm 1]
  · simp [fallen, Nat.add_comm 1]

theorem step_xor (first second : BitVec width) :
    step poly (first ^^^ second) = step poly first ^^^ step poly second := by
  apply BitVec.eq_of_getLsbD_eq
  intro position _
  simp only [getLsbD_step, BitVec.getLsbD_xor]
  cases first.getLsbD (position + 1) <;>
    cases second.getLsbD (position + 1) <;>
    cases first.getLsbD 0 <;> cases second.getLsbD 0 <;> simp

/-- The top bit after a step says which bit fell out. -/
theorem step_injective (top : poly.getLsbD (width - 1) = true) :
    Function.Injective (step poly) := by
  intro first second same
  have bits :
      ∀ position,
        (first.getLsbD (position + 1) ^^
            (first.getLsbD 0 && poly.getLsbD position)) =
          (second.getLsbD (position + 1) ^^
            (second.getLsbD 0 && poly.getLsbD position)) := by
    intro position
    rw [← getLsbD_step, ← getLsbD_step, same]
  have fallen : first.getLsbD 0 = second.getLsbD 0 := by
    have last := bits (width - 1)
    rwa [BitVec.getLsbD_of_ge first _ (by omega),
      BitVec.getLsbD_of_ge second _ (by omega), top, Bool.false_xor,
      Bool.false_xor, Bool.and_true, Bool.and_true] at last
  apply BitVec.eq_of_getLsbD_eq
  intro position _
  cases position with
  | zero => exact fallen
  | succ position =>
      have shifted := bits position
      rw [fallen] at shifted
      exact Bool.xor_left_inj.mp shifted

theorem iterate_step_xor (steps : Nat) (first second : BitVec width) :
    (step poly)^[steps] (first ^^^ second) =
      (step poly)^[steps] first ^^^ (step poly)^[steps] second := by
  induction steps generalizing first second with
  | zero => rfl
  | succ steps induction =>
      simp only [Function.iterate_succ_apply, step_xor, induction]

/-- Bits that are clear fall out without a trace. -/
theorem iterate_step_of_clear
    {steps : Nat} {state : BitVec width}
    (clear : ∀ position < steps, state.getLsbD position = false) :
    (step poly)^[steps] state = state >>> steps := by
  induction steps generalizing state with
  | zero => simp
  | succ steps induction =>
      have shifted : step poly state = state >>> 1 := by
        rw [step, clear 0 (Nat.succ_pos steps), if_neg Bool.false_ne_true]
      rw [Function.iterate_succ_apply, shifted, induction]
      · rw [← BitVec.shiftRight_add, Nat.add_comm]
      · intro position within
        rw [BitVec.getLsbD_ushiftRight]
        exact clear _ (by omega)

/-- Steps undo a shift to the left that loses no bit. -/
theorem iterate_step_shiftLeft
    {steps : Nat} {state : BitVec width}
    (room : ∀ position, width ≤ position + steps →
      state.getLsbD position = false) :
    (step poly)^[steps] (state <<< steps) = state := by
  rw [iterate_step_of_clear]
  · apply BitVec.eq_of_getLsbD_eq
    intro position within
    rw [BitVec.getLsbD_ushiftRight, BitVec.getLsbD_shiftLeft]
    by_cases inside : steps + position < width
    · simp [inside]
    · rw [room position (by omega)]
      simp [inside]
  · intro position within
    rw [BitVec.getLsbD_shiftLeft]
    simp [within]

end Register

/-! ## Check values -/

section Check

variable {width symbolWidth : Nat} {poly : BitVec width}
variable {state : BitVec width}

@[simp]
theorem check_nil : check poly state ([] : List (BitVec symbolWidth)) = state :=
  rfl

@[simp]
theorem check_cons
    (symbol : BitVec symbolWidth) (symbols : List (BitVec symbolWidth)) :
    check poly state (symbol :: symbols) =
      check poly (feed poly state symbol) symbols :=
  rfl

theorem check_append (first second : List (BitVec symbolWidth)) :
    check poly state (first ++ second) =
      check poly (check poly state first) second :=
  List.foldl_append

theorem feed_state_injective
    (top : poly.getLsbD (width - 1) = true) (symbol : BitVec symbolWidth) :
    Function.Injective fun state => feed poly state symbol := by
  intro first second same
  have added := (step_injective top).iterate symbolWidth same
  exact (BitVec.xor_left_inj _).mp added

/-- The same symbols keep different registers apart. -/
theorem check_state_injective
    (top : poly.getLsbD (width - 1) = true)
    (symbols : List (BitVec symbolWidth)) :
    Function.Injective fun state => check poly state symbols := by
  induction symbols with
  | nil => exact fun _ _ same => same
  | cons symbol rest induction =>
      intro first second same
      exact feed_state_injective top symbol (induction same)

/-- The symbols side by side, the first one lowest. -/
def packed : List (BitVec symbolWidth) → BitVec width
  | [] => 0
  | symbol :: rest => symbol.setWidth width ^^^ (packed rest <<< symbolWidth)

theorem getLsbD_packed_of_ge
    (symbols : List (BitVec symbolWidth)) {position : Nat}
    (beyond : symbolWidth * symbols.length ≤ position) :
    (packed symbols : BitVec width).getLsbD position = false := by
  induction symbols generalizing position with
  | nil => simp [packed]
  | cons symbol rest induction =>
      rw [List.length_cons, Nat.mul_succ] at beyond
      rw [packed, BitVec.getLsbD_xor, BitVec.getLsbD_setWidth,
        BitVec.getLsbD_of_ge symbol _ (by omega), BitVec.getLsbD_shiftLeft,
        induction (by omega)]
      simp

/-- Symbols that fit the register are added at once. -/
theorem check_eq_packed
    {symbols : List (BitVec symbolWidth)}
    (fits : symbolWidth * symbols.length ≤ width) :
    check poly state symbols =
      (step poly)^[symbolWidth * symbols.length] (state ^^^ packed symbols) := by
  induction symbols generalizing state with
  | nil => simp [packed]
  | cons symbol rest induction =>
      rw [List.length_cons, Nat.mul_succ] at fits
      -- what the rest adds may be added before the steps of the first symbol
      have later :
          (step poly)^[symbolWidth]
              ((packed rest : BitVec width) <<< symbolWidth) =
            packed rest :=
        iterate_step_shiftLeft fun position beyond =>
          getLsbD_packed_of_ge rest (by omega)
      have early :
          feed poly state symbol ^^^ packed rest =
            (step poly)^[symbolWidth] (state ^^^ packed (symbol :: rest)) := by
        rw [feed, packed, ← BitVec.xor_assoc, iterate_step_xor _ _ (_ <<< _),
          later]
      rw [check_cons, induction (by omega), early, List.length_cons,
        Nat.mul_succ, Function.iterate_add_apply]

theorem packed_injective
    {first second : List (BitVec symbolWidth)}
    (lengths : first.length = second.length)
    (fits : symbolWidth * first.length ≤ width)
    (same : (packed first : BitVec width) = packed second) :
    first = second := by
  induction first generalizing second with
  | nil => exact (List.length_eq_zero_iff.mp lengths.symm).symm
  | cons symbol rest induction =>
      rcases second with _ | ⟨other, others⟩
      · cases lengths
      have shorter := Nat.succ.inj lengths
      rw [List.length_cons, Nat.mul_succ] at fits
      have bits :
          ∀ position, position < width →
            (symbol.getLsbD position ^^
                (!decide (position < symbolWidth) &&
                  (packed rest : BitVec width).getLsbD
                    (position - symbolWidth))) =
              (other.getLsbD position ^^
                (!decide (position < symbolWidth) &&
                  (packed others : BitVec width).getLsbD
                    (position - symbolWidth))) := by
        intro position inside
        have bit := congrArg (fun word => word.getLsbD position) same
        simpa only [packed, BitVec.getLsbD_xor, BitVec.getLsbD_setWidth,
          BitVec.getLsbD_shiftLeft, inside, decide_true, Bool.true_and]
          using bit
      have heads : symbol = other := by
        apply BitVec.eq_of_getLsbD_eq
        intro position within
        simpa [within] using bits position (by omega)
      have tails : (packed rest : BitVec width) = packed others := by
        apply BitVec.eq_of_getLsbD_eq
        intro position _
        by_cases inside : position + symbolWidth < width
        · have bit := bits (position + symbolWidth) inside
          rw [heads] at bit
          have above : ¬ position + symbolWidth < symbolWidth := by omega
          simpa [above] using Bool.xor_right_inj.mp bit
        · rw [getLsbD_packed_of_ge rest (by omega),
            getLsbD_packed_of_ge others (by rw [← shorter]; omega)]
      rw [heads, induction shorter (by omega) tails]

/--
Lists of symbols which differ in a window not wider than the register have
different check values.
-/
theorem check_window_injective
    (top : poly.getLsbD (width - 1) = true)
    {first last window other : List (BitVec symbolWidth)}
    (lengths : window.length = other.length)
    (fits : symbolWidth * window.length ≤ width)
    (same :
      check poly state (first ++ window ++ last) =
        check poly state (first ++ other ++ last)) :
    window = other := by
  simp only [check_append] at same
  have reached := check_state_injective top last same
  generalize check poly state first = middle at reached
  have otherFits : symbolWidth * other.length ≤ width := by
    rw [← lengths]
    exact fits
  rw [check_eq_packed fits, check_eq_packed otherFits, ← lengths] at reached
  have added := (step_injective top).iterate _ reached
  exact
    packed_injective lengths fits ((BitVec.xor_right_inj _).mp added)

end Check

end YkbFirmware.Library.ShiftRegister
