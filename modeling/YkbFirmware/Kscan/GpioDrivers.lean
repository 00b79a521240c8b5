import YkbFirmware.Kscan.ScanAgreement
import YkbFirmware.Mux.MuxGpio

/-!
# Scanning through GPIO multiplexers

The scanner knows one selected channel for each multiplexer; the drivers of
the multiplexers know pins.  On a board whose pins can be written the pins
always carry the channels that the scanner has selected, and what the ADC
samples is decided by the pins of the multiplexer that is wired to it.

So these drivers are what the scans rely on, and a scan stores for each
channel the reading under its own pattern.
-/

namespace YkbFirmware.Kscan.GpioDrivers

open YkbFirmware.Library.Fallible
open YkbFirmware.Library.RaggedTable
open YkbFirmware.Library.TransitionSystem
open YkbFirmware.Kscan.Muxes
open YkbFirmware.Kscan.ScanAgreement
open YkbFirmware.Mux.MuxGpio

variable {Mux Pin : Type}

/-! ## Pins that can be written -/

section Obeying

variable [DecidableEq Pin]

/-- `gpio_pin_set_dt` succeeds on every pin. -/
def obeying : Nat → Int := fun _ => 0

theorem driveBits_obeying
    (pattern i : Nat) (sel : List Pin) (levels : Pin → Bool) :
    (driveBits obeying pattern i sel levels).1 = 0 := by
  induction sel generalizing i levels with
  | nil => rfl
  | cons pin rest induction =>
      rw [driveBits, if_neg (show ¬ obeying i ≠ 0 from not_not.mpr rfl)]
      exact induction _ _

theorem muxGpioSelect_obeying
    {cfg : MuxGpioConfig Pin} {channel : Nat}
    (inside : channel < cfg.channels.toNat) (st : MuxGpioState Pin) :
    (muxGpioSelect cfg obeying st channel).1 = 0 := by
  rw [muxGpioSelect, if_neg (Nat.not_le.mpr inside)]
  dsimp only
  rw [if_neg (not_not.mpr (driveBits_obeying _ _ _ _))]

theorem muxGpioEnable_obeying
    (cfg : MuxGpioConfig Pin) (st : MuxGpioState Pin) :
    (muxGpioEnable cfg 0 st).1 = 0 := by
  rw [muxGpioEnable]
  split
  · rfl
  · split
    · rfl
    · rfl

end Obeying

/-! ## The board under a scan -/

/--
The board with every multiplexer enabled and on the given channel; `others`
are the levels of the pins that belong to none.
-/
def onChannels
    (board : Board Mux Pin) (others : Pin → Bool) (selected : Mux → Nat) :
    BoardState Mux Pin where
  levels := fun pin =>
    match board.line pin with
    | some (mux, .sel k) =>
        ((board.gpio mux).pattern (selected mux)).testBit k
    | some (_, .en) => true
    | none => others pin
  data := fun mux => ⟨UInt16.ofNat (selected mux), true⟩
  ready := fun _ => true

section Board

variable {board : Board Mux Pin} {others : Pin → Bool} {selected : Mux → Nat}

theorem onChannels_data (mux : Mux) :
    (onChannels board others selected).data mux =
      ⟨UInt16.ofNat (selected mux), true⟩ :=
  rfl

/-- The select pins carry the channel. -/
theorem onChannels_carries (mux : Mux) :
    Carries (board.gpio mux) (onChannels board others selected).levels
      (selected mux) := by
  intro k pin isSel
  rw [onChannels]
  dsimp only
  rw [(board.sel_iff mux k pin).mp isSel]

/-- A board like this is known from what its drivers remember. -/
theorem eq_onChannels
    {st : BoardState Mux Pin} (ready : ∀ mux, st.ready mux = true)
    (enabled : ∀ mux, (st.data mux).enabled = true)
    (told : ∀ mux, Told (board.gpio mux) (st.view mux))
    (carried : ∀ mux, Carried (board.gpio mux) (st.view mux)) :
    st =
      onChannels board st.levels
        fun mux => (st.data mux).current.toNat := by
  have levels :
      st.levels =
        (onChannels board st.levels
          fun mux => (st.data mux).current.toNat).levels := by
    funext pin
    rw [onChannels]
    dsimp only
    cases isLine : board.line pin with
    | none => rfl
    | some place =>
        rcases place with ⟨mux, line⟩
        cases line with
        | sel k => exact carried mux k pin ((board.sel_iff mux k pin).mpr isLine)
        | en =>
            exact
              ((told mux).enabled pin ((board.en_iff mux pin).mpr isLine)).trans
                (enabled mux)
  have data :
      st.data =
        fun mux => ⟨UInt16.ofNat (st.data mux).current.toNat, true⟩ := by
    funext mux
    rw [UInt16.ofNat_toNat, ← enabled mux]
  have allReady : st.ready = fun _ => true := funext ready
  rcases st with ⟨_, _, _⟩
  rw [onChannels, BoardState.mk.injEq]
  exact ⟨levels, data, allReady⟩

variable [DecidableEq Mux]

/-- A pin of another multiplexer is not about the selected channel. -/
theorem onChannels_update
    {mux : Mux} {channel : Nat} {pin : Pin}
    (noSel : pin ∉ (board.gpio mux).sel) :
    (onChannels board others (Function.update selected mux channel)).levels
        pin =
      (onChannels board others selected).levels pin := by
  rw [onChannels, onChannels]
  dsimp only
  cases isLine : board.line pin with
  | none => rfl
  | some place =>
      rcases place with ⟨other, line⟩
      cases line with
      | en => rfl
      | sel k =>
          have differs : other ≠ mux := by
            rintro rfl
            exact noSel (board.mem_sel_iff.mpr ⟨k, isLine⟩)
          dsimp only
          rw [Function.update_of_ne differs]

variable [DecidableEq Pin]

/-- A driver that is told to select a channel puts it on the board. -/
theorem select_onChannels
    {mux : Mux} {channel : Nat}
    (inside : channel < (board.gpio mux).channels.toNat) :
    boardStep board (onChannels board others selected)
        (mux, .select channel obeying) =
      some
        (onChannels board others
          (Function.update selected mux channel)) := by
  have ok :=
    muxGpioSelect_obeying inside
      ((onChannels board others selected).view mux)
  rcases muxGpioSelect_ok (board.distinct mux) ok with ⟨_, data, carries⟩
  have levels :
      (muxGpioSelect (board.gpio mux) obeying
            ((onChannels board others selected).view mux) channel).2.levels =
        (onChannels board others
          (Function.update selected mux channel)).levels := by
    funext pin
    by_cases isSel : pin ∈ (board.gpio mux).sel
    · rcases List.mem_iff_getElem?.mp isSel with ⟨k, isPin⟩
      rw [carries k pin isPin, onChannels_carries mux k pin isPin,
        Function.update_self]
    · rw [muxGpioSelect_other isSel, onChannels_update isSel]
      rfl
  have remembered :
      Function.update (onChannels board others selected).data mux
          (muxGpioSelect (board.gpio mux) obeying
            ((onChannels board others selected).view mux) channel).2.data =
        (onChannels board others
          (Function.update selected mux channel)).data := by
    funext other
    rw [data, onChannels_data]
    by_cases same : other = mux
    · rw [same, Function.update_self, Function.update_self]
      rfl
    · rw [Function.update_of_ne same, Function.update_of_ne same]
      rfl
  have ready :
      Function.update (onChannels board others selected).ready mux true =
        fun _ => true :=
    Function.update_eq_self mux _
  rw [boardStep, MuxCall.perform]
  dsimp only
  rw [levels, remembered, ready]
  rfl

/--
Whatever calls have failed before: once all drivers are ready, all
multiplexers enabled and the last selections have succeeded, the board is on
the channels that the drivers remember.
-/
theorem reached_onChannels
    {start finish : BoardState Mux Pin} {events : List (Mux × MuxCall)}
    (unready : ∀ mux, start.ready mux = false)
    (ran : run (boardStep board) start events = some finish)
    (ready : ∀ mux, finish.ready mux = true)
    (enabled : ∀ mux, (finish.data mux).enabled = true)
    (selected :
      ∀ mux,
        LastMeets (boardStep board) (SelectsOn board mux)
          (SelectionSucceeds board) False start events) :
    finish =
      onChannels board finish.levels
        fun mux => (finish.data mux).current.toNat := by
  have remembers (mux : Mux) := driver_remembers_pins unready ran mux
  exact
    eq_onChannels ready enabled (fun mux => (remembers mux).1 (ready mux))
      fun mux => (remembers mux).2 (selected mux)

end Board

/-! ## The drivers of the scanner -/

/-- What the ADC of a board is wired to, and what it samples there. -/
structure AnalogInputs (Mux : Type) where
  /-- The multiplexer behind a channel of an ADC device. -/
  mux : Nat → Nat → Mux
  /-- The key that levels of the select pins connect. -/
  key : Mux → List Bool → UInt16

section Drivers

variable
    (board : Board Mux Pin) (others : Pin → Bool) (inputs : AnalogInputs Mux)

/-- What the ADC samples behind a multiplexer. -/
def sampleOf (levels : Pin → Bool) (mux : Mux) : UInt16 :=
  inputs.key mux ((board.gpio mux).sel.map levels)

/-- The drivers of `mux_gpio.c`, with an ADC that does not fail. -/
def gpioDrivers [DecidableEq Pin] : MuxDrivers Mux where
  deviceIsReady := fun _ => true
  muxGetChannelAmount := fun mux => (board.gpio mux).channels.toNat
  muxEnable := fun mux =>
    (muxGpioEnable (board.gpio mux) 0 ⟨others, 0, false⟩).1
  muxSelect := fun st mux channel =>
    (muxGpioSelect (board.gpio mux) obeying
      ((onChannels board others st.selected).view mux) channel).1
  adcIsReady := fun _ => true
  adcChannelSetup := fun _ => 0
  adcRead := fun _ _ => 0
  sample := fun st dev channel =>
    sampleOf board inputs (onChannels board others st.selected).levels
      (inputs.mux dev channel)

/-- The key that is wired to a channel of a multiplexer. -/
def channelKey (mux : Mux) (channel : Nat) : UInt16 :=
  inputs.key mux
    ((List.range (board.gpio mux).sel.length).map
      ((board.gpio mux).pattern channel).testBit)

/-- Every ADC channel of the scanner is wired to its multiplexer. -/
def Wired (cfg : KscanMuxesConfig Mux) : Prop :=
  ∀ j < cfg.muxesCount.toNat,
    inputs.mux (cfg.channels j).dev (cfg.channels j).channelId.toNat =
      cfg.muxes j

variable {board others inputs} {cfg : KscanMuxesConfig Mux}

/-- The pins of a multiplexer connect the key of its channel. -/
theorem sampleOf_onChannels {selected : Mux → Nat} (mux : Mux) :
    sampleOf board inputs (onChannels board others selected).levels mux =
      channelKey board inputs mux (selected mux) := by
  rw [sampleOf, channelKey]
  congr 1
  apply List.ext_getElem
  · rw [List.length_map, List.length_map, List.length_range]
  · intro k inside _
    rw [List.length_map] at inside
    rw [List.getElem_map, List.getElem_map, List.getElem_range]
    exact onChannels_carries mux k _ (List.getElem?_eq_getElem inside)

variable [DecidableEq Pin]

theorem reading_gpioDrivers
    (wired : Wired inputs cfg) {j : Nat} (inside : j < cfg.muxesCount.toNat)
    (st : ScanState Mux) :
    reading (gpioDrivers board others inputs) cfg j st =
      channelKey board inputs (cfg.muxes j) (st.selected (cfg.muxes j)) := by
  rw [reading, gpioDrivers]
  dsimp only
  rw [wired j inside, sampleOf_onChannels]

/-- The drivers do not fail on the channels of their multiplexers. -/
theorem gpioDrivers_noErrors :
    NoErrors (gpioDrivers board others inputs) where
  muxEnable := fun mux => muxGpioEnable_obeying (board.gpio mux) _
  muxSelect := fun _ _ _ inside =>
    muxGpioSelect_obeying (Int.ofNat_lt.mp inside) _
  adcRead := fun _ _ => rfl

theorem gpioDrivers_dependsOnItsMux (wired : Wired inputs cfg) :
    DependsOnItsMux (gpioDrivers board others inputs) cfg := by
  intro j inside st other same
  rw [reading_gpioDrivers wired inside, reading_gpioDrivers wired inside,
    same]

variable [DecidableEq Mux]

/-! ## The pins during a scan -/

/-- Calls of the drivers have taken the board from one state to the other. -/
def Driven
    (board : Board Mux Pin) (others : Pin → Bool)
    (st next : ScanState Mux) : Prop :=
  ∃ calls,
    run (boardStep board) (onChannels board others st.selected) calls =
      some (onChannels board others next.selected)

theorem Driven.of_selected
    {st next : ScanState Mux} (same : next.selected = st.selected) :
    Driven board others st next :=
  ⟨[], congrArg (fun selected => some (onChannels board others selected))
    same.symm⟩

theorem Driven.trans
    {first second third : ScanState Mux}
    (earlier : Driven board others first second)
    (later : Driven board others second third) :
    Driven board others first third := by
  rcases earlier with ⟨calls, ran⟩
  rcases later with ⟨more, ranMore⟩
  refine ⟨calls ++ more, ?_⟩
  rw [run_append, ran, Option.bind_some, ranMore]

/-- A selection of the scanner is one call of a driver. -/
theorem muxSelect_driven
    {st next : ScanState Mux} {mux : Mux} {channel : Nat}
    (selected :
      muxSelect (gpioDrivers board others inputs) st mux channel =
        .ok next) :
    Driven board others st next := by
  rw [muxSelect] at selected
  split at selected
  · cases selected
  · rename_i accepted
    cases selected
    have inside :=
      (muxGpioSelect_ok (board.distinct mux) (not_not.mp accepted)).1
    refine ⟨[(mux, .select channel obeying)], ?_⟩
    rw [run_cons, select_onChannels inside]
    rfl

omit [DecidableEq Pin] [DecidableEq Mux] in
theorem adcRead_selected
    {drivers : MuxDrivers Mux} {st next : ScanState Mux} {dev : Nat}
    (read : adcRead drivers st dev = .ok next) :
    next.selected = st.selected := by
  rw [adcRead] at read
  split at read
  · cases read
  · cases read
    rfl

theorem storeColumn_driven
    {locals : ScanLocals} (i : Nat) (st : ScanState Mux) :
    Driven board others st (storeColumn cfg locals i st) := by
  apply Driven.of_selected
  rw [storeColumn]
  generalize List.range cfg.muxesCount.toNat = indices
  induction indices generalizing st with
  | nil => rfl
  | cons j rest induction =>
      rw [List.foldl_cons, induction]
      split
      · rfl
      · rfl

theorem selectColumn_driven
    {locals : ScanLocals} {i : Nat} {st next : ScanState Mux}
    (selected :
      selectColumn (gpioDrivers board others inputs) cfg locals i st =
        .ok next) :
    Driven board others st next := by
  refine
    foldlM_range_sound (fun _ reached => Driven board others st reached)
      selected (Driven.of_selected rfl) ?_
  intro j _ middle reached before passed
  split at passed
  · cases passed
    exact before
  · exact before.trans (muxSelect_driven passed)

theorem scanChannel_driven
    {locals : ScanLocals} {j i : Nat} {st next : ScanState Mux}
    (scanned :
      scanChannel (gpioDrivers board others inputs) cfg locals j st i =
        .ok next) :
    Driven board others st next := by
  rw [scanChannel] at scanned
  rcases bind_eq_ok_iff.mp scanned with ⟨onChannel, selected, scanned⟩
  rcases bind_eq_ok_iff.mp scanned with ⟨filled, read, stored⟩
  cases stored
  have same := adcRead_selected read
  exact (muxSelect_driven selected).trans (Driven.of_selected same)

/--
A scan takes the board, by calls of the drivers alone, to where the pins
carry the channels that it has selected last.
-/
theorem scan_drives_board
    {options : KscanMuxesOptions} {start finish : ScanState Mux}
    (scanned :
      kscanMuxesScan options (gpioDrivers board others inputs) cfg start =
        .ok finish) :
    Driven board others start finish := by
  rw [kscanMuxesScan] at scanned
  rcases bind_eq_ok_iff.mp scanned with ⟨locals, _, scanned⟩
  split at scanned
  · refine
      foldlM_range_sound (fun _ reached => Driven board others start reached)
        scanned (Driven.of_selected rfl) ?_
    intro i _ middle next before passed
    rcases bind_eq_ok_iff.mp passed with ⟨selected, chosen, passed⟩
    rcases bind_eq_ok_iff.mp passed with ⟨filled, read, stored⟩
    cases stored
    exact
      before.trans
        ((selectColumn_driven chosen).trans
          ((Driven.of_selected (adcRead_selected read)).trans
            (storeColumn_driven i filled)))
  · refine
      foldlM_range_sound (fun _ reached => Driven board others start reached)
        scanned (Driven.of_selected rfl) ?_
    intro j _ middle next before passed
    refine
      foldlM_range_sound (fun _ reached => Driven board others start reached)
        passed before ?_
    exact fun i _ state reached earlier channel =>
      earlier.trans (scanChannel_driven channel)

/-! ## A scan of the board -/

/-- A scan has stored every key, each with the reading of its channel. -/
structure StoresChannels
    (board : Board Mux Pin) (inputs : AnalogInputs Mux)
    (cfg : KscanMuxesConfig Mux) (keyOffset : Nat → Nat)
    (start finish : ScanState Mux) : Prop where
  indices :
    ∃ indices,
      finish.writes = start.writes ++ indices ∧
        indices.Perm (List.range cfg.keyAmount.toNat)
  keys :
    ∀ j < cfg.muxesCount.toNat,
      ∀ i < (board.gpio (cfg.muxes j)).channels.toNat,
        finish.values (keyOffset j + i) =
          channelKey board inputs (cfg.muxes j) i

theorem storesChannels_of_scansAllKeys
    (wired : Wired inputs cfg) {locals : ScanLocals}
    {start finish : ScanState Mux}
    (known :
      LocalsUpTo (gpioDrivers board others inputs) cfg cfg.muxesCount.toNat
        locals)
    (all :
      ScansAllKeys (gpioDrivers board others inputs) cfg locals start
        finish) :
    StoresChannels board inputs cfg
      (offset (width (gpioDrivers board others inputs) cfg)) start
      finish := by
  refine ⟨all.indices, fun j inside i channel => ?_⟩
  let selecting : ScanState Mux :=
    { start with
      selected := Function.update start.selected (cfg.muxes j) i }
  have selected : selecting.selected (cfg.muxes j) = i :=
    Function.update_self _ _ _
  have stored := all.readings j inside i channel selecting selected
  rw [known.offset j inside] at stored
  rw [stored, reading_gpioDrivers wired inside, selected]

/--
Both builds scan a board whose pins can be written: every key is stored once,
and it is the one that the pattern of its channel connects.
-/
theorem board_scan_stores_channels
    {toggle : Bool} {before : AdcSequence} {start : ScanState Mux}
    (wired : Wired inputs cfg)
    (initialised :
      kscanMuxesInit ⟨true, toggle⟩ (gpioDrivers board others inputs) cfg
          before =
        .ok start.adcSeq)
    (parallel : Bool) :
    ∃ finish,
      kscanMuxesScan ⟨parallel, toggle⟩ (gpioDrivers board others inputs)
          cfg start =
        .ok finish ∧
      StoresChannels board inputs cfg
        (offset (width (gpioDrivers board others inputs) cfg)) start
        finish := by
  have noErrors : NoErrors (gpioDrivers board others inputs) :=
    gpioDrivers_noErrors
  have depends :
      DependsOnItsMux (gpioDrivers board others inputs) cfg :=
    gpioDrivers_dependsOnItsMux wired
  rcases checked_of_init rfl initialised with ⟨checked, sequence⟩
  rcases scanLocals_ok checked noErrors ⟨parallel, toggle⟩ with
    ⟨locals, found, known⟩
  rw [kscanMuxesScan, found, Except.bind]
  cases parallel with
  | true =>
      rcases parallelScan_stored checked noErrors depends known sequence with
        ⟨finish, scanned, byColumn⟩
      refine
        ⟨finish, scanned, storesChannels_of_scansAllKeys wired known ?_⟩
      exact
        scansAllKeys_of_stored checked depends known byColumn
          (byColumns_perm_byRows known.widest)
  | false =>
      rcases stableScan_stored checked noErrors depends known start with
        ⟨finish, scanned, byRow⟩
      refine
        ⟨finish, scanned, storesChannels_of_scansAllKeys wired known ?_⟩
      exact
        scansAllKeys_of_stored checked depends known byRow
          (List.Perm.refl _)

end Drivers

/-! ## Two multiplexers with a pin each -/

/-- The pin of each is its only select pin. -/
def twoPins : Board Bool Bool where
  gpio := fun mux =>
    { sel := [mux]
      en := none
      idleChan := none
      channels := if mux then 1 else 2
      channelMap := none
      someChannel := by cases mux <;> decide
      fewPins := (by decide : 1 < 32)
      mapLength := fun _ none => nomatch none }
  line := fun pin => some (pin, .sel 0)
  sel_iff := by
    intro mux k pin
    cases k with
    | zero => simp [eq_comm]
    | succ k => simp
  en_iff := by simp

/-- The keys of a multiplexer have the numbers of their channels. -/
def numbered : AnalogInputs Bool where
  mux := fun _ channel => channel == 5
  key := fun mux levels =>
    (if mux then 50 else 30) + (if levels.head? = some true then 1 else 0)

example (parallel : Bool) :
    (kscanMuxesScan ⟨parallel, false⟩
        (gpioDrivers twoPins (fun _ => false) numbered) twoMuxes
        twoMuxStart).map
      (fun finish => (List.range 3).map finish.values) =
      .ok [30, 31, 50] := by
  cases parallel <;> decide +kernel

end YkbFirmware.Kscan.GpioDrivers
