import YkbFirmware.Library.Tiling
import YkbFirmware.KbHandler.CoreLoop

/-!
# The topology of the key scanners

`kb_handler_validate_kscan_topology` compares each scanner with the one before
it and the sum of the key amounts with the expected count.  An accepted list
therefore lies end to end, from wherever the first scanner begins; nothing
compares that beginning with zero.  `scan_local_values`, which checks every
scanner by itself, accepts them all exactly if the first one begins at zero.
-/

namespace YkbFirmware.KbHandler.KscanTopology

open YkbFirmware.Library.Tiling
open YkbFirmware.KbHandler.Settings
open YkbFirmware.KbHandler.CoreLoop

/-! ## The validation -/

/-- What `kscan_get_idx_offset` and `kscan_get_key_amount` return. -/
structure KscanDevice where
  idxOffset : Int32
  keyAmount : Int32
deriving DecidableEq

def KscanDevice.toKscan (kscan : KscanDevice) : Kscan where
  idxOffset := kscan.idxOffset.toInt
  keyAmount := kscan.keyAmount.toInt

/-- The locals of the validation. -/
structure TopologyLocals where
  expectedOffset : Int32
  totalKeyCount : Int32

def einval : Int32 := 22

/-- The loop over the scanners, from one of them on. -/
def validateFrom :
    Nat → TopologyLocals → List KscanDevice → Except Int32 TopologyLocals
  | _, locals, [] => .ok locals
  | i, locals, kscan :: rest =>
      if kscan.idxOffset < 0 then
        .error kscan.idxOffset
      else if kscan.keyAmount < 0 then
        .error kscan.keyAmount
      else if i ≠ 0 ∧ locals.expectedOffset < kscan.idxOffset then
        -- a gap between the scanners
        .error (-einval)
      else if i ≠ 0 ∧ locals.expectedOffset > kscan.idxOffset then
        -- an intersection of the scanners
        .error (-einval)
      else
        validateFrom (i + 1)
          ⟨kscan.idxOffset + kscan.keyAmount,
            locals.totalKeyCount + kscan.keyAmount⟩
          rest

/-- `kb_handler_validate_kscan_topology`. -/
def kbHandlerValidateKscanTopology
    (kscans : List KscanDevice) (expectedKeyCount : UInt16) : Int32 :=
  match validateFrom 0 ⟨0, 0⟩ kscans with
  | .error err => err
  | .ok locals =>
      if locals.totalKeyCount ≠ Int32.ofInt expectedKeyCount.toNat then
        -einval
      else
        0

/-! ## What is accepted -/

/-- The indices of a scanner, as its offset with its size. -/
def KscanDevice.extent (kscan : KscanDevice) : Int × Int :=
  (kscan.idxOffset.toInt, kscan.keyAmount.toInt)

section Accepted

variable
    {kscan : KscanDevice} {rest kscans : List KscanDevice} {i : Nat}
    {locals finished : TopologyLocals} {expected : UInt16}

/-- The checks a scanner passes. -/
structure Passes
    (i : Nat) (locals : TopologyLocals) (kscan : KscanDevice) : Prop where
  offset : 0 ≤ kscan.idxOffset.toInt
  amount : 0 ≤ kscan.keyAmount.toInt
  adjacent : i ≠ 0 → kscan.idxOffset = locals.expectedOffset

/-- The loop goes on after a scanner that passes its checks. -/
theorem validateFrom_cons
    (accepted : validateFrom i locals (kscan :: rest) = .ok finished) :
    Passes i locals kscan ∧
      validateFrom (i + 1)
          ⟨kscan.idxOffset + kscan.keyAmount,
            locals.totalKeyCount + kscan.keyAmount⟩
          rest =
        .ok finished := by
  rw [validateFrom] at accepted
  split_ifs at accepted with offset amount gap intersection
  refine ⟨⟨?_, ?_, fun later => ?_⟩, accepted⟩
  · simpa [Int32.lt_iff_toInt_lt] using offset
  · simpa [Int32.lt_iff_toInt_lt] using amount
  · simp only [later, ne_eq, not_false_eq_true, true_and,
      gt_iff_lt, Int32.lt_iff_toInt_lt, Int.not_lt] at gap intersection
    exact Int32.toInt_inj.mp (Int.le_antisymm gap intersection)

/-- A sum of two nonnegative numbers that is not negative has not wrapped. -/
theorem toInt_add_of_nonneg
    {left right : Int32} (leftNonneg : 0 ≤ left.toInt)
    (rightNonneg : 0 ≤ right.toInt) (sumNonneg : 0 ≤ (left + right).toInt) :
    (left + right).toInt = left.toInt + right.toInt := by
  have leftLt := left.toInt_lt
  have rightLt := right.toInt_lt
  rw [Int32.toInt_add] at sumNonneg ⊢
  rw [Int.bmod_def] at sumNonneg ⊢
  omega

/--
Accepted scanners lie end to end, and the total counts the indices up to
where the last one ends.
-/
theorem tiles_of_accepted
    (accepted : validateFrom i locals (kscan :: rest) = .ok finished) :
    ∃ stop,
      Tiles kscan.idxOffset.toInt
          ((kscan :: rest).map KscanDevice.extent) stop ∧
        finished.totalKeyCount.toInt =
          (locals.totalKeyCount.toInt +
            (stop - kscan.idxOffset.toInt)).bmod (2 ^ 32) := by
  induction rest generalizing kscan i locals with
  | nil =>
      rcases validateFrom_cons accepted with ⟨passes, ⟨⟩⟩
      refine
        ⟨kscan.idxOffset.toInt + kscan.keyAmount.toInt,
          ⟨rfl, passes.amount, rfl⟩, ?_⟩
      rw [Int32.toInt_add, add_sub_cancel_left]
  | cons next rest induction =>
      rcases validateFrom_cons accepted with ⟨passes, further⟩
      have nextPasses := (validateFrom_cons further).1
      rcases induction further with ⟨stop, tiles, total⟩
      have adjacent :
          next.idxOffset.toInt =
            kscan.idxOffset.toInt + kscan.keyAmount.toInt := by
        have reached := nextPasses.adjacent (Nat.succ_ne_zero i)
        have nonneg := nextPasses.offset
        rw [reached] at nonneg ⊢
        exact toInt_add_of_nonneg passes.offset passes.amount nonneg
      refine ⟨stop, ⟨rfl, passes.amount, ?_⟩, ?_⟩
      · rw [adjacent] at tiles
        exact tiles
      · rw [total, Int32.toInt_add, Int.bmod_add_bmod, adjacent]
        congr 1
        omega

/-- A list is refused with an error, never with zero. -/
theorem validateFrom_error
    {err : Int32} (refused : validateFrom i locals kscans = .error err) :
    err ≠ 0 := by
  induction kscans generalizing i locals with
  | nil => cases refused
  | cons kscan rest induction =>
      rw [validateFrom] at refused
      split_ifs at refused with offset amount
      · cases refused
        rintro zero
        rw [zero] at offset
        exact absurd offset (by decide)
      · cases refused
        rintro zero
        rw [zero] at amount
        exact absurd amount (by decide)
      · cases refused
        decide
      · cases refused
        decide
      · exact induction refused

/-- The two conditions under which the validation returns zero. -/
theorem validate_eq_zero
    (accepted : kbHandlerValidateKscanTopology kscans expected = 0) :
    ∃ finished,
      validateFrom 0 ⟨0, 0⟩ kscans = .ok finished ∧
        finished.totalKeyCount.toInt = expected.toNat := by
  rw [kbHandlerValidateKscanTopology] at accepted
  cases ended : validateFrom 0 ⟨0, 0⟩ kscans with
  | error err =>
      rw [ended] at accepted
      exact absurd accepted (validateFrom_error ended)
  | ok finished =>
      rw [ended] at accepted
      refine ⟨finished, rfl, ?_⟩
      have short := expected.toNat_lt
      by_cases equal :
          finished.totalKeyCount = Int32.ofInt expected.toNat
      · rw [equal]
        exact Int32.toInt_ofInt_of_le (by omega) (by omega)
      · simp only [ne_eq, equal, not_false_eq_true, if_true] at accepted
        exact absurd accepted (by decide)

/-- An accepted list covers as many indices as are expected. -/
theorem accepted_tiles
    (accepted :
      kbHandlerValidateKscanTopology (kscan :: rest) expected = 0) :
    Tiles kscan.idxOffset.toInt ((kscan :: rest).map KscanDevice.extent)
      (kscan.idxOffset.toInt + expected.toNat) := by
  rcases validate_eq_zero accepted with ⟨finished, ended, counted⟩
  rcases tiles_of_accepted ended with ⟨stop, tiles, total⟩
  rcases tiles.exists_end (by simp) with ⟨extent, member, ends⟩
  rcases List.mem_map.mp member with ⟨last, _, rfl⟩
  have lower := tiles.le
  have offsetLt := last.idxOffset.toInt_lt
  have amountLt := last.keyAmount.toInt_lt
  have first := (validateFrom_cons ended).1.offset
  have length : stop - kscan.idxOffset.toInt = expected.toNat := by
    have short := expected.toNat_lt
    simp only [KscanDevice.extent] at ends
    rw [counted, Int32.toInt_zero, Int.zero_add, Int.bmod_def] at total
    omega
  rw [← length, add_sub_cancel]
  exact tiles

theorem accepted_empty
    (accepted : kbHandlerValidateKscanTopology [] expected = 0) :
    expected.toNat = 0 := by
  rcases validate_eq_zero accepted with ⟨finished, ended, counted⟩
  cases ended
  have zero : ((0 : Int32).toInt : Int) = expected.toNat := counted
  rw [Int32.toInt_zero] at zero
  omega

end Accepted

/-! ## The scan -/

/-- What `scan_local_values` calls an invalid topology at runtime. -/
def InvalidAtRuntime (localScanKeyCount : Nat) (kscan : Kscan) : Prop :=
  kscan.idxOffset < 0 ∨ kscan.keyAmount < 0 ∨
    kscan.idxOffset + kscan.keyAmount > localScanKeyCount

instance (localScanKeyCount : Nat) (kscan : Kscan) :
    Decidable (InvalidAtRuntime localScanKeyCount kscan) :=
  inferInstanceAs (Decidable (_ ∨ _ ∨ _))

/-- Whether a scan frame fills an entry from a scanner. -/
def fills (localScanKeyCount entry : Nat) (kscan : Kscan) : Bool :=
  decide
    (¬ InvalidAtRuntime localScanKeyCount kscan ∧
      kscan.idxOffset ≤ entry ∧ entry < kscan.idxOffset + kscan.keyAmount)

/--
The scanners divide the indices below the expected count among them, all pass
the check at runtime, and each entry is filled from exactly one of them.
-/
structure PartitionsIndices
    (kscans : List KscanDevice) (expected : UInt16) : Prop where
  disjoint :
    kscans.Pairwise fun left right =>
      Disjoint (span left.extent) (span right.extent)
  union :
    ∀ index : Int,
      (∃ kscan ∈ kscans, index ∈ span kscan.extent) ↔
        0 ≤ index ∧ index < expected.toNat
  runtime :
    ∀ kscan ∈ kscans, ¬ InvalidAtRuntime expected.toNat kscan.toKscan
  filledOnce :
    ∀ entry < expected.toNat,
      (kscans.map KscanDevice.toKscan).countP
        (fills expected.toNat entry) = 1

section Partition

variable {kscans : List KscanDevice} {expected : UInt16}

theorem passes_of_tiles
    (tiles : Tiles 0 (kscans.map KscanDevice.extent) (expected.toNat : Int))
    {kscan : KscanDevice} (member : kscan ∈ kscans) :
    ¬ InvalidAtRuntime expected.toNat kscan.toKscan := by
  have listed := List.mem_map_of_mem (f := KscanDevice.extent) member
  have bounds := tiles.within listed
  have amount := tiles.size_nonneg listed
  simp only [KscanDevice.extent] at bounds amount
  simp only [InvalidAtRuntime, KscanDevice.toKscan]
  omega

/-- Scanners that lie end to end from zero on divide the indices. -/
theorem partitionsIndices_of_tiles
    (tiles :
      Tiles 0 (kscans.map KscanDevice.extent) (expected.toNat : Int)) :
    PartitionsIndices kscans expected where
  disjoint := by
    have pairs := tiles.pairwise_disjoint
    rwa [List.pairwise_map] at pairs
  union := fun index => by
    rw [← Set.mem_Ico, ← tiles.mem_iff]
    simp only [List.mem_map, exists_exists_and_eq_and]
  runtime := fun _ => passes_of_tiles tiles
  filledOnce := fun entry inside => by
    let covers : Int × Int → Bool := fun extent =>
      decide (extent.1 ≤ entry ∧ entry < extent.1 + extent.2)
    have once : (kscans.map KscanDevice.extent).countP covers = 1 := by
      refine
        @Tiles.countP_eq_one Int _ _ _ 0 expected.toNat entry _ covers
          (fun extent => ?_) tiles ⟨by omega, by omega⟩
      simp [covers, span]
    rw [List.countP_map] at once ⊢
    rw [← once]
    apply List.countP_congr
    intro kscan member
    have passes := passes_of_tiles tiles member
    have same :
        fills expected.toNat entry kscan.toKscan = covers kscan.extent := by
      simp only [fills, passes, not_false_eq_true, true_and]
      rfl
    simp only [Function.comp, same]

/--
An accepted list of scanners divides the expected indices among them if and
only if its first scanner begins at zero.
-/
theorem accepted_partitions_iff
    (accepted : kbHandlerValidateKscanTopology kscans expected = 0) :
    PartitionsIndices kscans expected ↔
      ∀ first, kscans.head? = some first → first.idxOffset = 0 := by
  cases kscans with
  | nil =>
      have none := accepted_empty accepted
      refine iff_of_true (partitionsIndices_of_tiles ?_) fun first listed => by
        cases listed
      rw [none]
      exact rfl
  | cons kscan rest =>
      have tiles := accepted_tiles accepted
      constructor
      · rintro partitions first ⟨⟩
        rcases tiles.exists_end (by simp) with ⟨extent, member, ends⟩
        rcases List.mem_map.mp member with ⟨last, listed, rfl⟩
        have passes := partitions.runtime last listed
        have nonneg := partitions.runtime kscan List.mem_cons_self
        simp only [InvalidAtRuntime, KscanDevice.toKscan] at passes nonneg
        simp only [KscanDevice.extent] at ends
        apply Int32.toInt_inj.mp
        rw [Int32.toInt_zero]
        omega
      · intro first
        apply partitionsIndices_of_tiles
        rw [first kscan rfl, Int32.toInt_zero, Int.zero_add] at tiles
        exact tiles

end Partition

/-! ## A scan frame of the core thread -/

section Frame

variable
    {config : KbHandlerConfig} {build : LoopBuild}
    {kscans : List KscanDevice} {expected : UInt16}
    {inputs : Nat → ThreadInput} {st : LoopState config}

/-- So many steps of the thread from a state on. -/
def threadSteps
    (build : LoopBuild) (inputs : Nat → ThreadInput)
    (st : LoopState config) : Nat → LoopState config
  | 0 => st
  | n + 1 => threadStep build (threadSteps build inputs st n) (inputs n)

/-- Where the frame is after the first scanners, and what they have filled. -/
structure Scanned
    (build : LoopBuild) (inputs : Nat → ThreadInput) (n : Nat)
    (st : LoopState config) : Prop where
  point : st.point = .scanning n true
  filled :
    ∀ index < n, ∀ kscan, build.kscans[index]? = some kscan →
      ∀ entry,
        fills (build.localScanKeyCount config) entry kscan = true →
          st.localScanValues entry = (inputs index).scanned entry

/-- No two scanners fill the same entry. -/
def FillsApart (config : KbHandlerConfig) (build : LoopBuild) : Prop :=
  ∀ (first second : Nat) (left right : Kscan),
    build.kscans[first]? = some left → build.kscans[second]? = some right →
      ∀ entry,
        fills (build.localScanKeyCount config) entry left = true →
          fills (build.localScanKeyCount config) entry right = true →
            first = second

/-- One scanner is scanned into its entries, and no others change. -/
theorem Scanned.step
    {kscan : Kscan} {n : Nat} (apart : FillsApart config build)
    (scanned : Scanned build inputs n st)
    (listed : build.kscans[n]? = some kscan)
    (passes :
      ¬ InvalidAtRuntime (build.localScanKeyCount config) kscan)
    (noErr : (inputs n).scanErr = false) :
    Scanned build inputs (n + 1) (threadStep build st (inputs n)) := by
  have nonempty : build.kscans.length ≠ 0 := by
    rintro empty
    rw [List.length_eq_zero_iff.mp empty] at listed
    cases listed
  have stepped :
      threadStep build st (inputs n) =
        { st with
          localScanValues := fun entry =>
            if kscan.idxOffset ≤ entry ∧
                entry < kscan.idxOffset + kscan.keyAmount then
              (inputs n).scanned entry
            else
              st.localScanValues entry
          point := .scanning (n + 1) true } := by
    rw [threadStep, scanned.point]
    dsimp only
    rw [scanLocalValues, if_neg nonempty, listed]
    dsimp only
    rw [InvalidAtRuntime] at passes
    rw [scanOne, if_neg passes, noErr]
    rfl
  rw [stepped]
  refine ⟨rfl, fun index before other found entry filling => ?_⟩
  dsimp only
  by_cases here : index = n
  · subst here
    rw [listed] at found
    cases found
    exact if_pos (of_decide_eq_true filling).2
  · rw [if_neg, scanned.filled index (by omega) other found entry filling]
    intro covered
    have alsoHere :
        fills (build.localScanKeyCount config) entry kscan = true :=
      decide_eq_true ⟨passes, covered⟩
    exact here (apart index n other kscan found listed entry filling alsoHere)

/-- The first scanners, one step each. -/
theorem scanned_after
    (apart : FillsApart config build)
    (passes :
      ∀ kscan ∈ build.kscans,
        ¬ InvalidAtRuntime (build.localScanKeyCount config) kscan)
    (noErr : ∀ n, (inputs n).scanErr = false)
    (start : st.point = .scanning 0 true) :
    ∀ n ≤ build.kscans.length,
      Scanned build inputs n (threadSteps build inputs st n) := by
  intro n
  induction n with
  | zero =>
      intro _
      exact ⟨start, fun index before => absurd before (Nat.not_lt_zero index)⟩
  | succ n induction =>
      intro within
      have listed : build.kscans[n]? = some build.kscans[n] :=
        List.getElem?_eq_getElem within
      exact
        (induction (by omega)).step apart listed
          (passes _ (List.getElem_mem within)) (noErr n)

/-- Scanners that divide the indices among them fill apart. -/
theorem PartitionsIndices.fillsApart
    (partitions : PartitionsIndices kscans expected)
    (same : build.kscans = kscans.map KscanDevice.toKscan) :
    FillsApart config build := by
  intro first second left right foundLeft foundRight entry fillsLeft fillsRight
  rw [same, List.getElem?_map, Option.map_eq_some_iff] at foundLeft foundRight
  rcases foundLeft with ⟨leftDevice, foundLeft, rfl⟩
  rcases foundRight with ⟨rightDevice, foundRight, rfl⟩
  have inLeft : (entry : Int) ∈ span leftDevice.extent :=
    (of_decide_eq_true fillsLeft).2
  have inRight : (entry : Int) ∈ span rightDevice.extent :=
    (of_decide_eq_true fillsRight).2
  rcases List.getElem?_eq_some_iff.mp foundLeft with ⟨leftLt, rfl⟩
  rcases List.getElem?_eq_some_iff.mp foundRight with ⟨rightLt, rfl⟩
  have disjoint := List.pairwise_iff_getElem.mp partitions.disjoint
  rcases Nat.lt_trichotomy first second with before | equal | after
  · have apart := disjoint first second leftLt rightLt before
    exact absurd inRight (Set.disjoint_left.mp apart inLeft)
  · exact equal
  · have apart := disjoint second first rightLt leftLt after
    exact absurd inLeft (Set.disjoint_left.mp apart inRight)

/--
If the scanners divide the indices among them and none reports an error, a
frame fills every entry from the scanner it belongs to, and is then processed.
-/
theorem frame_fills
    (partitions : PartitionsIndices kscans expected)
    (same : build.kscans = kscans.map KscanDevice.toKscan)
    (count : build.localScanKeyCount config = expected.toNat)
    (nonempty : kscans ≠ []) (noErr : ∀ n, (inputs n).scanErr = false)
    (start : st.point = .scanning 0 true) :
    (threadSteps build inputs st (kscans.length + 1)).point = .processing 0 ∧
      ∀ entry < expected.toNat, ∃ index kscan,
        kscans[index]? = some kscan ∧ (entry : Int) ∈ span kscan.extent ∧
          (threadSteps build inputs st (kscans.length + 1)).localScanValues
              entry =
            (inputs index).scanned entry := by
  have passes :
      ∀ kscan ∈ build.kscans,
        ¬ InvalidAtRuntime (build.localScanKeyCount config) kscan := by
    intro kscan member
    rw [same] at member
    rcases List.mem_map.mp member with ⟨device, listed, rfl⟩
    rw [count]
    exact partitions.runtime device listed
  have length : build.kscans.length = kscans.length := by
    rw [same, List.length_map]
  have scanned :=
    scanned_after (partitions.fillsApart same) passes noErr start
      kscans.length length.ge
  have last :
      threadSteps build inputs st (kscans.length + 1) =
        goTo (threadSteps build inputs st kscans.length) (.processing 0) := by
    have positive : build.kscans.length ≠ 0 := by
      rw [length, Ne, List.length_eq_zero_iff]
      exact nonempty
    have ended : build.kscans[kscans.length]? = none :=
      List.getElem?_eq_none length.le
    rw [threadSteps, threadStep, scanned.point]
    dsimp only
    rw [scanLocalValues, if_neg positive, ended]
    rfl
  rw [last]
  refine ⟨rfl, fun entry inside => ?_⟩
  rcases (partitions.union entry).mpr ⟨by omega, by omega⟩ with
    ⟨kscan, member, within⟩
  rcases List.getElem?_of_mem member with ⟨index, found⟩
  refine ⟨index, kscan, found, within, ?_⟩
  have indexLt := (List.getElem?_eq_some_iff.mp found).1
  have listed : build.kscans[index]? = some kscan.toKscan := by
    rw [same, List.getElem?_map, found]
    rfl
  have filling :
      fills (build.localScanKeyCount config) entry kscan.toKscan = true := by
    rw [count]
    exact decide_eq_true ⟨partitions.runtime kscan member, within⟩
  exact scanned.filled index indexLt _ listed entry filling

end Frame

/-! ## A scanner that does not begin at zero -/

/-- Scanners of three keys, of none and of five. -/
def threeScanners : List KscanDevice := [⟨0, 3⟩, ⟨3, 0⟩, ⟨3, 5⟩]

theorem three_scanners_partition :
    kbHandlerValidateKscanTopology threeScanners 8 = 0 ∧
      PartitionsIndices threeScanners 8 := by
  have accepted : kbHandlerValidateKscanTopology threeScanners 8 = 0 := by
    decide
  refine ⟨accepted, (accepted_partitions_iff accepted).mpr ?_⟩
  intro first same
  cases same
  rfl

/-- A scanner of eight keys from index 5 on. -/
def shifted : List KscanDevice := [⟨5, 8⟩]

/-- It is accepted, and refused in every frame. -/
theorem shifted_accepted :
    kbHandlerValidateKscanTopology shifted 8 = 0 ∧
      InvalidAtRuntime 8 (KscanDevice.toKscan ⟨5, 8⟩) ∧
      ¬ PartitionsIndices shifted 8 := by
  refine ⟨by decide, by decide, fun partitions => ?_⟩
  exact partitions.runtime ⟨5, 8⟩ List.mem_cons_self (by decide)

end YkbFirmware.KbHandler.KscanTopology
