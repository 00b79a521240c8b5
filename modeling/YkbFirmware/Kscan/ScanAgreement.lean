import YkbFirmware.Kscan.Muxes
import YkbFirmware.Library.BitMask
import YkbFirmware.Library.Fallible

/-!
# The two scans of the multiplexers agree

The keys of a scanner are the cells of a table with one row for each
multiplexer, which may have different numbers of channels.  The parallel scan
goes through the table by columns and the stable scan by rows.  Both number
the cells by rows, with the offsets that `kscan_muxes_scan` adds up, so that
they store the same readings in a different order.
-/

namespace YkbFirmware.Kscan.ScanAgreement

open YkbFirmware.Library.BitMask
open YkbFirmware.Library
open YkbFirmware.Library.Fallible
open YkbFirmware.Library.RaggedTable
open YkbFirmware.Kscan.Muxes

variable {Mux : Type}

/-! ## The drivers -/

section Assumptions

variable (drivers : MuxDrivers Mux) (cfg : KscanMuxesConfig Mux)

/-- No driver fails on what it is meant for. -/
structure NoErrors : Prop where
  muxEnable : ∀ mux, drivers.muxEnable mux = 0
  muxSelect :
    ∀ st mux (i : Nat), (i : Int) < drivers.muxGetChannelAmount mux →
      drivers.muxSelect st mux i = 0
  adcRead : ∀ st dev, drivers.adcRead st dev = 0

/-- What the ADC samples for a multiplexer. -/
def reading (j : Nat) (st : ScanState Mux) : UInt16 :=
  drivers.sample st (cfg.channels j).dev (cfg.channels j).channelId.toNat

/-- A reading depends on the selected channel of its multiplexer only. -/
def DependsOnItsMux : Prop :=
  ∀ j < cfg.muxesCount.toNat, ∀ st other : ScanState Mux,
    st.selected (cfg.muxes j) = other.selected (cfg.muxes j) →
      reading drivers cfg j st = reading drivers cfg j other

/-- The number of channels of a multiplexer. -/
def width (j : Nat) : Nat :=
  (drivers.muxGetChannelAmount (cfg.muxes j)).toNat

/-- What a successful initialisation of the parallel build has checked. -/
structure InitChecked : Prop where
  amount :
    ∀ j < cfg.muxesCount.toNat,
      drivers.muxGetChannelAmount (cfg.muxes j) = width drivers cfg j
  total : offset (width drivers cfg) cfg.muxesCount.toNat = cfg.keyAmount.toNat
  sameDev :
    ∀ j < cfg.muxesCount.toNat, (cfg.channels j).dev = (cfg.channels 0).dev
  ascending :
    ∀ j < cfg.muxesCount.toNat, ∀ i < j,
      (cfg.channels i).channelId.toNat < (cfg.channels j).channelId.toNat

end Assumptions

variable {drivers : MuxDrivers Mux} {cfg : KscanMuxesConfig Mux}

/-! ## Initialisation -/

theorem initMux_ok
    {options : KscanMuxesOptions} {totalAmount next : Int} {i : Nat}
    (passed : initMux options drivers cfg totalAmount i = .ok next) :
    drivers.muxGetChannelAmount (cfg.muxes i) = width drivers cfg i ∧
      next = totalAmount + width drivers cfg i := by
  simp only [initMux] at passed
  split at passed
  · cases passed
  · split at passed
    · cases passed
    · rename_i nonneg
      split at passed
      · cases passed
      · cases passed
        have amount :
            drivers.muxGetChannelAmount (cfg.muxes i) = width drivers cfg i :=
          (Int.toNat_of_nonneg (Int.not_lt.mp nonneg)).symm
        exact ⟨amount, by rw [amount]⟩

theorem initChannel_ok
    {options : KscanMuxesOptions} (parallel : options.parallelAdcReads = true)
    {i : Nat} {next : Unit}
    (passed : initChannel options drivers cfg () i = .ok next) :
    (cfg.channels i).dev = (cfg.channels 0).dev ∧
      (0 < i →
        (cfg.channels (i - 1)).channelId.toNat <
          (cfg.channels i).channelId.toNat) := by
  simp only [initChannel, parallel, true_and] at passed
  split at passed
  · cases passed
  · rename_i sameAdc
    split at passed
    · cases passed
    · rename_i later
      simp only [not_or, not_not] at sameAdc
      refine ⟨sameAdc.1, fun positive => ?_⟩
      have notLe := fun le => later ⟨positive, le⟩
      exact UInt8.lt_iff_toNat_lt.mp (UInt8.not_le.mp notLe)

theorem initMuxes_ok
    {options : KscanMuxesOptions} {total : Int} {count : Nat}
    (looped :
      (List.range count).foldlM (initMux options drivers cfg) 0 = .ok total) :
    total = offset (width drivers cfg) count ∧
      ∀ j < count,
        drivers.muxGetChannelAmount (cfg.muxes j) = width drivers cfg j := by
  refine
    foldlM_range_sound
      (fun count (total : Int) =>
        total = offset (width drivers cfg) count ∧
          ∀ j < count,
            drivers.muxGetChannelAmount (cfg.muxes j) = width drivers cfg j)
      looped ⟨rfl, fun j none => absurd none (Nat.not_lt_zero j)⟩ ?_
  rintro i _ before next ⟨rfl, amounts⟩ passed
  rcases initMux_ok passed with ⟨amount, rfl⟩
  have sum :
      ((offset (width drivers cfg) (i + 1) : Nat) : Int) =
        offset (width drivers cfg) i + width drivers cfg i :=
    Int.natCast_add _ _
  exact ⟨sum.symm, Nat.forall_lt_succ_right.mpr ⟨amounts, amount⟩⟩

theorem initChannels_ok
    {options : KscanMuxesOptions} (parallel : options.parallelAdcReads = true)
    {count : Nat} {finish : Unit}
    (looped :
      (List.range count).foldlM (initChannel options drivers cfg) () =
        .ok finish) :
    ∀ j < count,
      (cfg.channels j).dev = (cfg.channels 0).dev ∧
        ∀ i < j,
          (cfg.channels i).channelId.toNat <
            (cfg.channels j).channelId.toNat := by
  refine
    foldlM_range_sound
      (fun count _ =>
        ∀ j < count,
          (cfg.channels j).dev = (cfg.channels 0).dev ∧
            ∀ i < j,
              (cfg.channels i).channelId.toNat <
                (cfg.channels j).channelId.toNat)
      looped (fun j none => absurd none (Nat.not_lt_zero j)) ?_
  intro j _ _ next checked passed
  rcases initChannel_ok parallel passed with ⟨sameDev, larger⟩
  refine Nat.forall_lt_succ_right.mpr ⟨checked, sameDev, fun i before => ?_⟩
  have last := larger (by omega)
  rcases Nat.lt_or_eq_of_le (Nat.le_sub_one_of_lt before) with much | rfl
  · exact Nat.lt_trans ((checked (j - 1) (by omega)).2 i much) last
  · exact last

theorem checked_of_init
    {options : KscanMuxesOptions} {before adcSeq : AdcSequence}
    (parallel : options.parallelAdcReads = true)
    (initialised : kscanMuxesInit options drivers cfg before = .ok adcSeq) :
    InitChecked drivers cfg ∧ adcSeq = parallelSequence cfg := by
  rw [kscanMuxesInit] at initialised
  rcases bind_eq_ok_iff.mp initialised with ⟨total, muxesLoop, summed⟩
  rcases initMuxes_ok muxesLoop with ⟨total_eq, amounts⟩
  split at summed
  · cases summed
  · rename_i same
    rcases bind_eq_ok_iff.mp summed with ⟨_, channelsLoop, last⟩
    cases last
    have channels := initChannels_ok parallel channelsLoop
    rw [cfg.sameLength] at channels
    refine ⟨⟨amounts, ?_, ?_, ?_⟩, rfl⟩
    · exact Int.ofNat_inj.mp (total_eq.symm.trans (not_not.mp same))
    · exact fun j inside => (channels j inside).1
    · exact fun j inside => (channels j inside).2

/-! ## The offsets of a scan -/

/-- What the first loop of `kscan_muxes_scan` has found out. -/
structure LocalsUpTo
    (drivers : MuxDrivers Mux) (cfg : KscanMuxesConfig Mux)
    (count : Nat) (locals : ScanLocals) : Prop where
  amount :
    ∀ j < count, locals.channelAmount j = width drivers cfg j
  offset :
    ∀ j < count,
      (locals.muxOffsets j).toNat = RaggedTable.offset (width drivers cfg) j
  widest :
    ∀ j < count, width drivers cfg j ≤ locals.maxChannelAmount.toNat
  next : locals.nextOffset.toNat = RaggedTable.offset (width drivers cfg) count

/-- The keys before a multiplexer are counted without overflow. -/
theorem offset_lt
    (checked : InitChecked drivers cfg)
    {j : Nat} (inside : j ≤ cfg.muxesCount.toNat) :
    offset (width drivers cfg) j < 65536 := by
  have within :
      offset (width drivers cfg) j ≤
        offset (width drivers cfg) cfg.muxesCount.toNat :=
    offset_mono inside
  rw [checked.total] at within
  exact Nat.lt_of_le_of_lt within cfg.keyAmount.toNat_lt

theorem scanMux_ok
    (checked : InitChecked drivers cfg) (noErrors : NoErrors drivers)
    {options : KscanMuxesOptions} {locals : ScanLocals} {i : Nat}
    (inside : i < cfg.muxesCount.toNat)
    (before : LocalsUpTo drivers cfg i locals) :
    ∃ next,
      scanMux options drivers cfg locals i = .ok next ∧
        LocalsUpTo drivers cfg (i + 1) next := by
  have amount := checked.amount i inside
  simp only [scanMux, amount, noErrors.muxEnable, not_true, and_false,
    if_false, ne_eq, Int.toNat_natCast]
  rw [if_neg (by omega)]
  refine ⟨_, rfl, ?_, ?_, ?_, ?_⟩
  · refine
      Nat.forall_lt_succ_right.mpr
        ⟨fun j earlier => ?_, Function.update_self _ _ _⟩
    exact
      (Function.update_of_ne (Nat.ne_of_lt earlier) _ _).trans
        (before.amount j earlier)
  · refine Nat.forall_lt_succ_right.mpr ⟨fun j earlier => ?_, ?_⟩
    · have kept :=
        Function.update_of_ne (Nat.ne_of_lt earlier) locals.nextOffset
          locals.muxOffsets
      exact (congrArg UInt16.toNat kept).trans (before.offset j earlier)
    · have stored :=
        Function.update_self i locals.nextOffset locals.muxOffsets
      exact (congrArg UInt16.toNat stored).trans before.next
  · refine Nat.forall_lt_succ_right.mpr ⟨fun j earlier => ?_, ?_⟩
    · have widest := before.widest j earlier
      dsimp only
      split <;> omega
    · dsimp only
      split <;> omega
  · have fits := offset_lt checked inside
    have sum := before.next
    rw [RaggedTable.offset] at fits ⊢
    simp only [UInt16.toNat_add, UInt16.toNat_ofNat', sum]
    omega

theorem scanLocals_ok
    (checked : InitChecked drivers cfg) (noErrors : NoErrors drivers)
    (options : KscanMuxesOptions) :
    ∃ locals,
      scanLocals options drivers cfg = .ok locals ∧
        LocalsUpTo drivers cfg cfg.muxesCount.toNat locals := by
  refine foldlM_range_total (LocalsUpTo drivers cfg) ?_ ?_
  · exact
      ⟨fun j none => absurd none (Nat.not_lt_zero j),
        fun j none => absurd none (Nat.not_lt_zero j),
        fun j none => absurd none (Nat.not_lt_zero j), rfl⟩
  · intro i inside locals before
    exact scanMux_ok checked noErrors inside before

/-! ## Driver calls -/

section Calls

variable [DecidableEq Mux]

theorem muxSelect_ok
    (checked : InitChecked drivers cfg) (noErrors : NoErrors drivers)
    (st : ScanState Mux) {j i : Nat}
    (inside : j < cfg.muxesCount.toNat) (channel : i < width drivers cfg j) :
    muxSelect drivers st (cfg.muxes j) i =
      .ok { st with
            selected := Function.update st.selected (cfg.muxes j) i } := by
  have selects :=
    noErrors.muxSelect st (cfg.muxes j) i (by
      rw [checked.amount j inside]
      omega)
  rw [muxSelect, selects, if_neg (not_not.mpr rfl)]

/-- Selecting a channel selects it on the multiplexers that have it. -/
theorem selectColumn_ok
    (checked : InitChecked drivers cfg) (noErrors : NoErrors drivers)
    {locals : ScanLocals}
    (known : LocalsUpTo drivers cfg cfg.muxesCount.toNat locals)
    (i : Nat) (st : ScanState Mux) :
    ∃ selected,
      selectColumn drivers cfg locals i st =
          .ok { st with selected := selected } ∧
        ∀ j < cfg.muxesCount.toNat, i < width drivers cfg j →
          selected (cfg.muxes j) = i := by
  have looped :
      ∃ finish,
        selectColumn drivers cfg locals i st = .ok finish ∧
          finish = { st with selected := finish.selected } ∧
          ∀ j < cfg.muxesCount.toNat, i < width drivers cfg j →
            finish.selected (cfg.muxes j) = i := by
    refine
      foldlM_range_total
        (fun count (state : ScanState Mux) =>
          state = { st with selected := state.selected } ∧
            ∀ j < count, i < width drivers cfg j →
              state.selected (cfg.muxes j) = i)
        ⟨rfl, fun j none => absurd none (Nat.not_lt_zero j)⟩ ?_
    rintro index inside state ⟨same, selected⟩
    rw [known.amount index inside]
    by_cases absent : (i : Int) ≥ width drivers cfg index
    · rw [if_pos absent]
      exact
        ⟨state, rfl, same,
          Nat.forall_lt_succ_right.mpr
            ⟨selected, fun wide => absurd wide (by omega)⟩⟩
    · rw [if_neg absent, muxSelect_ok checked noErrors state inside (by omega)]
      refine ⟨_, rfl, by rw [same], fun j upTo wide => ?_⟩
      by_cases sameMux : cfg.muxes j = cfg.muxes index
      · rw [sameMux]
        exact Function.update_self _ _ _
      · refine (Function.update_of_ne sameMux _ _).trans ?_
        rcases Nat.lt_succ_iff_lt_or_eq.mp upTo with earlier | rfl
        · exact selected j earlier wide
        · exact absurd rfl sameMux
  rcases looped with ⟨finish, ok, same, selected⟩
  exact ⟨finish.selected, same ▸ ok, selected⟩

end Calls

/-- The channels of the parallel sequence, in the order of their samples. -/
theorem parallelSequence_channels (checked : InitChecked drivers cfg) :
    (parallelSequence cfg).channels.bitIndices =
      (List.range cfg.muxesCount.toNat).map fun j =>
        (cfg.channels j).channelId.toNat := by
  have channels :
      (parallelSequence cfg).channels =
        mask (fun j => (cfg.channels j).channelId.toNat)
          cfg.channelsCount.toNat := by
    rw [parallelSequence]
    split <;> rfl
  rw [channels, cfg.sameLength, bitIndices_mask checked.ascending]

theorem parallelSequence_buffer : (parallelSequence cfg).buffer = 0 := by
  rw [parallelSequence]
  split <;> rfl

/-- The parallel sequence reads every multiplexer into its own place. -/
theorem adcRead_parallel
    (checked : InitChecked drivers cfg) (noErrors : NoErrors drivers)
    (st : ScanState Mux) (sequence : st.adcSeq = parallelSequence cfg) :
    ∃ readBuf,
      adcRead drivers st (cfg.channels 0).dev =
          .ok { st with readBuf := readBuf } ∧
        ∀ j < cfg.muxesCount.toNat, readBuf j = reading drivers cfg j st := by
  rw [adcRead, noErrors.adcRead, if_neg (not_not.mpr rfl)]
  refine ⟨_, rfl, fun j inside => ?_⟩
  have channel :
      ((List.range cfg.muxesCount.toNat).map fun j =>
          (cfg.channels j).channelId.toNat)[j]? =
        some (cfg.channels j).channelId.toNat := by
    rw [List.getElem?_map, List.getElem?_range inside]
    rfl
  simp only [sequence, parallelSequence_buffer, Nat.zero_le, if_true,
    Nat.sub_zero, parallelSequence_channels checked, channel]
  rw [reading, checked.sameDev j inside]

/-- The sequence of one channel reads it into the place of its multiplexer. -/
theorem adcRead_single
    (noErrors : NoErrors drivers) (st : ScanState Mux) (j : Nat)
    (sequence :
      st.adcSeq = kscanMuxesPrepareSequence (cfg.channels j) j 2) :
    ∃ readBuf,
      adcRead drivers st (cfg.channels j).dev =
          .ok { st with readBuf := readBuf } ∧
        readBuf j = reading drivers cfg j st := by
  rw [adcRead, noErrors.adcRead, if_neg (not_not.mpr rfl)]
  refine ⟨_, rfl, ?_⟩
  have channels : st.adcSeq.channels.bitIndices[j - st.adcSeq.buffer]? =
      some (cfg.channels j).channelId.toNat := by
    rw [sequence, kscanMuxesPrepareSequence, bit, Nat.bitIndices_two_pow,
      Nat.sub_self]
    rfl
  have buffer : st.adcSeq.buffer ≤ j := by
    rw [sequence]
    exact Nat.le_refl j
  simp only [channels, if_pos buffer]
  rfl

/-! ## Storing keys -/

/-- The index of a key, and its reading with its own channel selected. -/
def keyOf
    (drivers : MuxDrivers Mux) (cfg : KscanMuxesConfig Mux)
    (start : ScanState Mux) (j i : Nat) : Nat × UInt16 :=
  (offset (width drivers cfg) j + i,
    reading drivers cfg j { start with selected := fun _ => i })

/-- A state in which keys have been stored, one after the other. -/
structure Stored
    (start : ScanState Mux) (keys : List (Nat × UInt16))
    (st : ScanState Mux) : Prop where
  values : st.values = writeAll start.values keys
  writes : st.writes = start.writes ++ keys.map Prod.fst

theorem Stored.nothing (start : ScanState Mux) : Stored start [] start where
  values := rfl
  writes := (List.append_nil _).symm

theorem Stored.storeValue
    {start st : ScanState Mux} {keys : List (Nat × UInt16)}
    (stored : Stored start keys st)
    {keyIdx : UInt16} {index : Nat} (same : keyIdx.toNat = index)
    (value : UInt16) :
    Stored start (keys ++ [(index, value)]) (storeValue st keyIdx value) where
  values := by
    rw [writeAll_append, ← stored.values, ← same]
    rfl
  writes := by
    rw [List.map_append, ← List.append_assoc, ← stored.writes, ← same]
    rfl

/-- `key_idx` numbers the keys by multiplexers. -/
theorem keyIdx_eq
    (checked : InitChecked drivers cfg) {locals : ScanLocals}
    (known : LocalsUpTo drivers cfg cfg.muxesCount.toNat locals)
    {j i : Nat}
    (inside : j < cfg.muxesCount.toNat) (channel : i < width drivers cfg j) :
    (locals.muxOffsets j + UInt16.ofNat i).toNat =
      offset (width drivers cfg) j + i := by
  have fits := offset_lt checked inside
  have start := known.offset j inside
  rw [RaggedTable.offset] at fits
  simp only [UInt16.toNat_add, UInt16.toNat_ofNat', start]
  omega

/-- A reading taken with the right channel is the reading of the key. -/
theorem reading_eq
    (depends : DependsOnItsMux drivers cfg)
    {start st : ScanState Mux} {j i : Nat}
    (inside : j < cfg.muxesCount.toNat)
    (selected : st.selected (cfg.muxes j) = i) :
    reading drivers cfg j st = (keyOf drivers cfg start j i).2 :=
  depends j inside st _ selected

/-! ## The parallel scan -/

/-- Storing a column appends its keys. -/
theorem storeColumn_stored
    (checked : InitChecked drivers cfg) {locals : ScanLocals}
    (known : LocalsUpTo drivers cfg cfg.muxesCount.toNat locals)
    {start st : ScanState Mux} {keys : List (Nat × UInt16)} {i : Nat}
    (stored : Stored start keys st)
    (readings :
      ∀ j < cfg.muxesCount.toNat, i < width drivers cfg j →
        st.readBuf j = (keyOf drivers cfg start j i).2) :
    Stored start
        (keys ++
          column cfg.muxesCount.toNat (width drivers cfg)
            (keyOf drivers cfg start) i)
        (storeColumn cfg locals i st) ∧
      (storeColumn cfg locals i st).adcSeq = st.adcSeq := by
  have looped :
      ∀ count ≤ cfg.muxesCount.toNat,
        let state :=
          (List.range count).foldl
            (fun st j =>
              if (i : Int) ≥ locals.channelAmount j then
                st
              else
                storeValue st (locals.muxOffsets j + UInt16.ofNat i)
                  (st.readBuf j))
            st
        Stored start
            (keys ++
              column count (width drivers cfg) (keyOf drivers cfg start) i)
            state ∧
          state.readBuf = st.readBuf ∧ state.adcSeq = st.adcSeq := by
    intro count upTo
    induction count with
    | zero => exact ⟨by simpa [column] using stored, rfl, rfl⟩
    | succ count induction =>
        rcases induction (by omega) with ⟨before, sameBuf, sameSeq⟩
        intro state
        simp only [state, List.range_succ, List.foldl_append, List.foldl_cons,
          List.foldl_nil, known.amount count upTo]
        rw [column_succ, ← List.append_assoc]
        by_cases absent : (i : Int) ≥ width drivers cfg count
        · rw [if_pos absent, if_neg (by omega), List.append_nil]
          exact ⟨before, sameBuf, sameSeq⟩
        · have wide : i < width drivers cfg count := by omega
          rw [if_neg absent, if_pos wide, sameBuf, readings count upTo wide]
          exact
            ⟨before.storeValue (keyIdx_eq checked known upTo wide) _, sameBuf,
              sameSeq⟩
  rcases looped cfg.muxesCount.toNat (Nat.le_refl _) with ⟨after, _, sameSeq⟩
  exact ⟨after, sameSeq⟩

section Scans

variable [DecidableEq Mux]

/-- The parallel scan stores the keys by columns. -/
theorem parallelScan_stored
    (checked : InitChecked drivers cfg) (noErrors : NoErrors drivers)
    (depends : DependsOnItsMux drivers cfg) {locals : ScanLocals}
    (known : LocalsUpTo drivers cfg cfg.muxesCount.toNat locals)
    {start : ScanState Mux} (sequence : start.adcSeq = parallelSequence cfg) :
    ∃ finish,
      kscanMuxesParallelScan drivers cfg locals start = .ok finish ∧
        Stored start
          (byColumns cfg.muxesCount.toNat (width drivers cfg)
            locals.maxChannelAmount.toNat (keyOf drivers cfg start))
          finish := by
  have looped :
      ∃ finish,
        kscanMuxesParallelScan drivers cfg locals start = .ok finish ∧
          Stored start
            (byColumns cfg.muxesCount.toNat (width drivers cfg)
              locals.maxChannelAmount.toNat (keyOf drivers cfg start))
            finish ∧
          finish.adcSeq = parallelSequence cfg := by
    refine
      foldlM_range_total
        (fun count (state : ScanState Mux) =>
          Stored start
              (byColumns cfg.muxesCount.toNat (width drivers cfg) count
                (keyOf drivers cfg start))
              state ∧
            state.adcSeq = parallelSequence cfg)
        ⟨Stored.nothing start, sequence⟩ ?_
    rintro i _ state ⟨stored, sameSeq⟩
    rcases selectColumn_ok checked noErrors known i state with
      ⟨selected, selectOk, onChannel⟩
    rcases adcRead_parallel checked noErrors
        { state with selected := selected } sameSeq with
      ⟨readBuf, readOk, samples⟩
    have sampled :
        Stored start
          (byColumns cfg.muxesCount.toNat (width drivers cfg) i
            (keyOf drivers cfg start))
          { state with selected := selected, readBuf := readBuf } :=
      ⟨stored.values, stored.writes⟩
    have column :=
      storeColumn_stored checked known sampled fun j inside wide =>
        (samples j inside).trans
          (reading_eq depends inside (onChannel j inside wide))
    rw [selectOk, Except.bind, readOk, Except.bind]
    refine ⟨_, rfl, ?_, column.2.trans sameSeq⟩
    rw [byColumns_succ]
    exact column.1
  rcases looped with ⟨finish, ok, stored, _⟩
  exact ⟨finish, ok, stored⟩

/-! ## The stable scan -/

theorem scanChannel_stored
    (checked : InitChecked drivers cfg) (noErrors : NoErrors drivers)
    (depends : DependsOnItsMux drivers cfg) {locals : ScanLocals}
    (known : LocalsUpTo drivers cfg cfg.muxesCount.toNat locals)
    {start st : ScanState Mux} {keys : List (Nat × UInt16)} {j i : Nat}
    (inside : j < cfg.muxesCount.toNat) (channel : i < width drivers cfg j)
    (stored : Stored start keys st) :
    ∃ next,
      scanChannel drivers cfg locals j st i = .ok next ∧
        Stored start (keys ++ [keyOf drivers cfg start j i]) next := by
  rw [scanChannel, muxSelect_ok checked noErrors st inside channel, Except.bind]
  rcases adcRead_single noErrors
      { st with
        selected := Function.update st.selected (cfg.muxes j) i
        adcSeq := kscanMuxesPrepareSequence (cfg.channels j) j 2 }
      j rfl with
    ⟨readBuf, readOk, sample⟩
  rw [readOk, Except.bind]
  refine ⟨_, rfl, ?_⟩
  have key :
      keyOf drivers cfg start j i =
        (offset (width drivers cfg) j + i, readBuf j) :=
    Prod.ext rfl
      (sample.trans
        (reading_eq depends inside (Function.update_self _ _ _))).symm
  have sampled :
      Stored start keys
        { st with
          selected := Function.update st.selected (cfg.muxes j) i
          adcSeq := kscanMuxesPrepareSequence (cfg.channels j) j 2
          readBuf := readBuf } :=
    ⟨stored.values, stored.writes⟩
  rw [key]
  exact sampled.storeValue (keyIdx_eq checked known inside channel) _

/-- The stable scan stores the keys by rows. -/
theorem stableScan_stored
    (checked : InitChecked drivers cfg) (noErrors : NoErrors drivers)
    (depends : DependsOnItsMux drivers cfg) {locals : ScanLocals}
    (known : LocalsUpTo drivers cfg cfg.muxesCount.toNat locals)
    (start : ScanState Mux) :
    ∃ finish,
      kscanMuxesStableScan drivers cfg locals start = .ok finish ∧
        Stored start
          (byRows cfg.muxesCount.toNat (width drivers cfg)
            (keyOf drivers cfg start))
          finish := by
  refine
    foldlM_range_total
      (fun count state =>
        Stored start
          (byRows count (width drivers cfg) (keyOf drivers cfg start)) state)
      (Stored.nothing start) ?_
  intro j inside state stored
  rw [known.amount j inside, Int.toNat_natCast, byRows_succ]
  refine
    foldlM_range_total
      (fun count next =>
        Stored start
          (byRows j (width drivers cfg) (keyOf drivers cfg start) ++
            (List.range count).map (keyOf drivers cfg start j))
          next)
      ?_ ?_
  · rwa [List.range_zero, List.map_nil, List.append_nil]
  · intro i channel next before
    rw [List.range_succ, List.map_append, ← List.append_assoc]
    exact
      scanChannel_stored checked noErrors depends known inside channel before

end Scans

/-! ## Both scans -/

/--
A scan stores to every index of a key once and to no other, and under the
offset of a multiplexer finds the reading of each of its channels.
-/
structure ScansAllKeys
    (drivers : MuxDrivers Mux) (cfg : KscanMuxesConfig Mux)
    (locals : ScanLocals) (start finish : ScanState Mux) : Prop where
  indices :
    ∃ indices,
      finish.writes = start.writes ++ indices ∧
        indices.Perm (List.range cfg.keyAmount.toNat)
  readings :
    ∀ j < cfg.muxesCount.toNat,
      ∀ i < (drivers.muxGetChannelAmount (cfg.muxes j)).toNat,
        ∀ st : ScanState Mux, st.selected (cfg.muxes j) = i →
          finish.values ((locals.muxOffsets j).toNat + i) =
            reading drivers cfg j st
  others :
    ∀ index, cfg.keyAmount.toNat ≤ index →
      finish.values index = start.values index

/-- The keys by rows have the indices from zero to `key_amount`. -/
theorem keys_indices
    (checked : InitChecked drivers cfg) (start : ScanState Mux) :
    (byRows cfg.muxesCount.toNat (width drivers cfg)
          (keyOf drivers cfg start)).map Prod.fst =
      List.range cfg.keyAmount.toNat := by
  rw [map_byRows, ← checked.total]
  exact byRows_offset cfg.muxesCount.toNat (width drivers cfg)

/-- The keys have the same readings wherever a scan starts. -/
theorem keyOf_congr
    (depends : DependsOnItsMux drivers cfg) (start other : ScanState Mux)
    {j : Nat} (inside : j < cfg.muxesCount.toNat) (i : Nat) :
    keyOf drivers cfg start j i = keyOf drivers cfg other j i :=
  Prod.ext rfl (depends j inside _ _ rfl)

theorem keys_congr
    (depends : DependsOnItsMux drivers cfg) (start other : ScanState Mux) :
    byRows cfg.muxesCount.toNat (width drivers cfg)
        (keyOf drivers cfg start) =
      byRows cfg.muxesCount.toNat (width drivers cfg)
        (keyOf drivers cfg other) := by
  apply List.flatMap_congr
  intro j member
  apply List.map_congr_left
  intro i _
  exact keyOf_congr depends start other (List.mem_range.mp member) i

/-- Storing the keys in any order scans them all. -/
theorem scansAllKeys_of_stored
    (checked : InitChecked drivers cfg)
    (depends : DependsOnItsMux drivers cfg) {locals : ScanLocals}
    (known : LocalsUpTo drivers cfg cfg.muxesCount.toNat locals)
    {start finish : ScanState Mux} {keys : List (Nat × UInt16)}
    (stored : Stored start keys finish)
    (same :
      keys.Perm
        (byRows cfg.muxesCount.toNat (width drivers cfg)
          (keyOf drivers cfg start))) :
    ScansAllKeys drivers cfg locals start finish := by
  have indices : (keys.map Prod.fst).Perm (List.range cfg.keyAmount.toNat) :=
    keys_indices checked start ▸ same.map Prod.fst
  have distinct : (keys.map Prod.fst).Nodup :=
    indices.nodup_iff.mpr List.nodup_range
  refine ⟨⟨_, stored.writes, indices⟩, ?_, ?_⟩
  · intro j inside i channel st selected
    have member : keyOf drivers cfg start j i ∈ keys :=
      same.mem_iff.mpr (mem_byRows inside channel)
    rw [stored.values, known.offset j inside]
    exact
      (writeAll_of_mem distinct member).trans
        (reading_eq depends inside selected).symm
  · intro index outside
    rw [stored.values]
    refine writeAll_of_notMem fun member => ?_
    have inside := List.mem_range.mp (indices.mem_iff.mp member)
    omega

/--
Started on the same array, the parallel and the stable scan write the same
array, each with one store to every key and the readings in their places.
-/
theorem scans_agree
    [DecidableEq Mux] {toggle : Bool} {before : AdcSequence}
    {parallelStart stableStart : ScanState Mux}
    (noErrors : NoErrors drivers) (depends : DependsOnItsMux drivers cfg)
    (initialised :
      kscanMuxesInit ⟨true, toggle⟩ drivers cfg before =
        .ok parallelStart.adcSeq)
    (sameValues : parallelStart.values = stableStart.values) :
    ∃ locals parallel stable,
      scanLocals ⟨true, toggle⟩ drivers cfg = .ok locals ∧
        kscanMuxesParallelScan drivers cfg locals parallelStart =
          .ok parallel ∧
        kscanMuxesScan ⟨true, toggle⟩ drivers cfg parallelStart =
          .ok parallel ∧
        kscanMuxesStableScan drivers cfg locals stableStart = .ok stable ∧
        kscanMuxesScan ⟨false, toggle⟩ drivers cfg stableStart = .ok stable ∧
        parallel.values = stable.values ∧
        ScansAllKeys drivers cfg locals parallelStart parallel ∧
        ScansAllKeys drivers cfg locals stableStart stable := by
  rcases checked_of_init rfl initialised with ⟨checked, sequence⟩
  rcases scanLocals_ok checked noErrors ⟨true, toggle⟩ with
    ⟨locals, found, known⟩
  rcases parallelScan_stored checked noErrors depends known sequence with
    ⟨parallel, parallelOk, byColumn⟩
  rcases stableScan_stored checked noErrors depends known stableStart with
    ⟨stable, stableOk, byRow⟩
  have foundStable : scanLocals ⟨false, toggle⟩ drivers cfg = .ok locals :=
    found
  have transposed :
      (byColumns cfg.muxesCount.toNat (width drivers cfg)
          locals.maxChannelAmount.toNat
          (keyOf drivers cfg parallelStart)).Perm
        (byRows cfg.muxesCount.toNat (width drivers cfg)
          (keyOf drivers cfg parallelStart)) :=
    byColumns_perm_byRows known.widest
  have parallelAll :=
    scansAllKeys_of_stored checked depends known byColumn transposed
  have stableAll :=
    scansAllKeys_of_stored checked depends known byRow (List.Perm.refl _)
  have distinct :
      ((byRows cfg.muxesCount.toNat (width drivers cfg)
          (keyOf drivers cfg parallelStart)).map Prod.fst).Nodup := by
    rw [keys_indices checked]
    exact List.nodup_range
  have sameArray : parallel.values = stable.values := by
    rw [byColumn.values, byRow.values, sameValues,
      keys_congr depends stableStart parallelStart]
    exact (writeAll_perm distinct transposed.symm).symm
  refine
    ⟨locals, parallel, stable, found, parallelOk, ?_, stableOk, ?_, sameArray,
      parallelAll, stableAll⟩
  · rw [kscanMuxesScan, found]
    exact parallelOk
  · rw [kscanMuxesScan, foundStable]
    exact stableOk

/-! ## Two multiplexers -/

/-- A multiplexer with two channels and one with a single channel. -/
def twoMuxes : KscanMuxesConfig Bool where
  channels := fun j => ⟨0, if j = 0 then 3 else 5, 12, 0⟩
  channelsCount := 2
  keyAmount := 3
  muxes := fun j => j != 0
  muxesCount := 2
  sameLength := rfl
  nonempty := by decide

/-- Drivers that sample ten times the ADC channel plus the selected one. -/
def twoMuxDrivers : MuxDrivers Bool where
  deviceIsReady := fun _ => true
  muxGetChannelAmount := fun mux => if mux then 1 else 2
  muxEnable := fun _ => 0
  muxSelect := fun _ mux i =>
    if i < (if mux then 1 else 2) then 0 else -einval
  adcIsReady := fun _ => true
  adcChannelSetup := fun _ => 0
  adcRead := fun _ _ => 0
  sample := fun st _ channel =>
    UInt16.ofNat (10 * channel + st.selected (channel == 5))

def twoMuxStart : ScanState Bool where
  selected := fun _ => 0
  readBuf := fun _ => 0
  adcSeq := parallelSequence twoMuxes
  values := fun _ => 0
  writes := []

theorem twoMuxes_noErrors : NoErrors twoMuxDrivers where
  muxEnable := fun _ => rfl
  muxSelect := fun _ mux i inside => by
    refine if_pos ?_
    cases mux with
    | false => exact Int.ofNat_lt.mp inside
    | true => exact Int.ofNat_lt.mp inside
  adcRead := fun _ _ => rfl

theorem twoMuxes_depends : DependsOnItsMux twoMuxDrivers twoMuxes := by
  intro j inside st other same
  change j < 2 at inside
  have selects :
      ((twoMuxes.channels j).channelId.toNat == 5) = twoMuxes.muxes j := by
    have either : j = 0 ∨ j = 1 := by omega
    rcases either with rfl | rfl
    · rfl
    · rfl
  simp only [reading, twoMuxDrivers, selects, same]

theorem twoMuxes_agree :
    ∃ locals parallel stable,
      scanLocals ⟨true, false⟩ twoMuxDrivers twoMuxes = .ok locals ∧
        kscanMuxesParallelScan twoMuxDrivers twoMuxes locals twoMuxStart =
          .ok parallel ∧
        kscanMuxesScan ⟨true, false⟩ twoMuxDrivers twoMuxes twoMuxStart =
          .ok parallel ∧
        kscanMuxesStableScan twoMuxDrivers twoMuxes locals twoMuxStart =
          .ok stable ∧
        kscanMuxesScan ⟨false, false⟩ twoMuxDrivers twoMuxes twoMuxStart =
          .ok stable ∧
        parallel.values = stable.values ∧
        ScansAllKeys twoMuxDrivers twoMuxes locals twoMuxStart parallel ∧
        ScansAllKeys twoMuxDrivers twoMuxes locals twoMuxStart stable :=
  scans_agree twoMuxes_noErrors twoMuxes_depends
    (show
      kscanMuxesInit ⟨true, false⟩ twoMuxDrivers twoMuxes
          twoMuxStart.adcSeq =
        .ok twoMuxStart.adcSeq from by decide +kernel)
    rfl

end YkbFirmware.Kscan.ScanAgreement
