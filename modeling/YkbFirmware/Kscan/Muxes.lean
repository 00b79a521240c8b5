import Mathlib.Data.Nat.BitIndices
import YkbFirmware.Library.RaggedTable

/-!
# The multiplexer key scanner

`kscan_muxes` reads analog keys through multiplexers, each of which is wired
to one channel of an ADC.  A build either selects the same channel on all
multiplexers and reads them in one sequence, or takes one multiplexer after
the other and reads its channels one by one.

What the drivers answer is a parameter: error codes and samples may depend on
the whole state.
-/

namespace YkbFirmware.Kscan.Muxes

variable {Mux : Type} [DecidableEq Mux]

/-! ## Types -/

/-- `struct adc_dt_spec`. -/
structure AdcDtSpec where
  dev : Nat
  channelId : UInt8
  resolution : UInt8
  oversampling : UInt8
deriving DecidableEq

/--
`struct kscan_muxes_config`, with what its definition asserts of the two
lists.
-/
structure KscanMuxesConfig (Mux : Type) where
  channels : Nat → AdcDtSpec
  channelsCount : UInt16
  keyAmount : UInt16
  muxes : Nat → Mux
  muxesCount : UInt16
  sameLength : channelsCount = muxesCount
  nonempty : 0 < muxesCount

/--
`struct adc_sequence`; the buffer is an offset in `read_buf`, and the bits of
`channels` are the channels to read.
-/
structure AdcSequence where
  buffer : Nat
  bufferSize : Nat
  resolution : UInt8
  oversampling : UInt8
  channels : Nat
deriving DecidableEq

/-- What a scan changes, with the indices of `values` stored to, in order. -/
structure ScanState (Mux : Type) where
  selected : Mux → Nat
  readBuf : Nat → UInt16
  adcSeq : AdcSequence
  values : Nat → UInt16
  writes : List Nat

/-- `CONFIG_KSCAN_MUXES_*`. -/
structure KscanMuxesOptions where
  parallelAdcReads : Bool
  muxToggle : Bool

/-- What the drivers of the multiplexers and of the ADC answer. -/
structure MuxDrivers (Mux : Type) where
  deviceIsReady : Mux → Bool
  muxGetChannelAmount : Mux → Int
  muxEnable : Mux → Int
  muxSelect : ScanState Mux → Mux → Nat → Int
  adcIsReady : AdcDtSpec → Bool
  adcChannelSetup : AdcDtSpec → Int
  adcRead : ScanState Mux → Nat → Int
  /-- What an ADC device samples on one of its channels. -/
  sample : ScanState Mux → Nat → Nat → UInt16

def einval : Int := 22

def enodev : Int := 19

/--
`BIT`.  The set of channels has 32 bits, and the ADC sets up no channel beyond
them, so that no width is put on it here.
-/
def bit (n : Nat) : Nat := 2 ^ n

/-- `kscan_muxes_prepare_sequence`. -/
def kscanMuxesPrepareSequence
    (spec : AdcDtSpec) (buffer bufferSize : Nat) : AdcSequence where
  buffer := buffer
  bufferSize := bufferSize
  resolution := spec.resolution
  oversampling := spec.oversampling
  channels := bit spec.channelId.toNat

/-! ## Initialisation -/

section Init

variable
    (options : KscanMuxesOptions) (drivers : MuxDrivers Mux)
    (cfg : KscanMuxesConfig Mux)

/-- The loop over the multiplexers adds up their channel amounts. -/
def initMux (totalAmount : Int) (i : Nat) : Except Int Int :=
  let mux := cfg.muxes i
  let amount := drivers.muxGetChannelAmount mux
  if drivers.deviceIsReady mux = false then
    .error (-enodev)
  else if amount < 0 then
    .error (-enodev)
  else if options.muxToggle = false ∧ drivers.muxEnable mux ≠ 0 then
    .error (-enodev)
  else
    .ok (totalAmount + amount)

/-- The loop over the ADC channels. -/
def initChannel (_ : Unit) (i : Nat) : Except Int Unit :=
  let spec := cfg.channels i
  if options.parallelAdcReads = true ∧
      (spec.dev ≠ (cfg.channels 0).dev ∨
        spec.resolution ≠ (cfg.channels 0).resolution ∨
        spec.oversampling ≠ (cfg.channels 0).oversampling) then
    .error (-enodev)
  else if options.parallelAdcReads = true ∧ i > 0 ∧
      spec.channelId ≤ (cfg.channels (i - 1)).channelId then
    .error (-enodev)
  else if drivers.adcIsReady spec = false then
    .error (-enodev)
  else if drivers.adcChannelSetup spec < 0 then
    .error (-enodev)
  else
    .ok ()

/-- The sequence that reads all channels at once. -/
def parallelSequence : AdcSequence :=
  let sequence :=
    { kscanMuxesPrepareSequence (cfg.channels 0) 0
        (2 * cfg.channelsCount.toNat) with
      channels :=
        (List.range cfg.channelsCount.toNat).foldl
          (fun channels i =>
            channels ||| bit (cfg.channels i).channelId.toNat)
          0 }
  if cfg.channelsCount > 1 ∧ sequence.oversampling > 0 then
    { sequence with oversampling := 0 }
  else
    sequence

/-- `kscan_muxes_init`, with the sequence it leaves behind. -/
def kscanMuxesInit (adcSeq : AdcSequence) : Except Int AdcSequence :=
  ((List.range cfg.muxesCount.toNat).foldlM (initMux options drivers cfg)
      0).bind fun totalAmount =>
    if totalAmount ≠ cfg.keyAmount.toNat then
      .error (-enodev)
    else
      ((List.range cfg.channelsCount.toNat).foldlM
          (initChannel options drivers cfg) ()).bind fun _ =>
        .ok (if options.parallelAdcReads then parallelSequence cfg else adcSeq)

end Init

/-! ## Scanning -/

section Scan

variable
    (options : KscanMuxesOptions) (drivers : MuxDrivers Mux)
    (cfg : KscanMuxesConfig Mux)

/-- The locals of `kscan_muxes_scan`. -/
structure ScanLocals where
  channelAmount : Nat → Int
  muxOffsets : Nat → UInt16
  maxChannelAmount : Int
  nextOffset : UInt16

def noLocals : ScanLocals where
  channelAmount := fun _ => 0
  muxOffsets := fun _ => 0
  maxChannelAmount := 0
  nextOffset := 0

/-- The first loop of `kscan_muxes_scan`. -/
def scanMux (locals : ScanLocals) (i : Nat) : Except Int ScanLocals :=
  let mux := cfg.muxes i
  let amount := drivers.muxGetChannelAmount mux
  if amount < 0 then
    .error (-einval)
  else if options.muxToggle = true ∧ drivers.muxEnable mux ≠ 0 then
    .error (drivers.muxEnable mux)
  else
    .ok
      { channelAmount := Function.update locals.channelAmount i amount
        muxOffsets := Function.update locals.muxOffsets i locals.nextOffset
        nextOffset := locals.nextOffset + UInt16.ofNat amount.toNat
        maxChannelAmount :=
          if amount > locals.maxChannelAmount then
            amount
          else
            locals.maxChannelAmount }

def scanLocals : Except Int ScanLocals :=
  (List.range cfg.muxesCount.toNat).foldlM (scanMux options drivers cfg)
    noLocals

/-- `mux_select`. -/
def muxSelect (st : ScanState Mux) (mux : Mux) (i : Nat) :
    Except Int (ScanState Mux) :=
  if drivers.muxSelect st mux i ≠ 0 then
    .error (drivers.muxSelect st mux i)
  else
    .ok { st with selected := Function.update st.selected mux i }

/-- `adc_read` stores the samples of its channels in ascending order. -/
def adcRead (st : ScanState Mux) (dev : Nat) : Except Int (ScanState Mux) :=
  if drivers.adcRead st dev ≠ 0 then
    .error (drivers.adcRead st dev)
  else
    .ok
      { st with
        readBuf := fun index =>
          if st.adcSeq.buffer ≤ index then
            match
                st.adcSeq.channels.bitIndices[index - st.adcSeq.buffer]? with
            | some channel => drivers.sample st dev channel
            | none => st.readBuf index
          else
            st.readBuf index }

/-- `values[key_idx] = value`. -/
def storeValue (st : ScanState Mux) (keyIdx : UInt16) (value : UInt16) :
    ScanState Mux :=
  { st with
    values := Function.update st.values keyIdx.toNat value
    writes := st.writes ++ [keyIdx.toNat] }

variable (locals : ScanLocals)

/-- The first inner loop of the parallel scan. -/
def selectColumn (i : Nat) (st : ScanState Mux) :
    Except Int (ScanState Mux) :=
  (List.range cfg.muxesCount.toNat).foldlM
    (fun st j =>
      if (i : Int) ≥ locals.channelAmount j then
        .ok st
      else
        muxSelect drivers st (cfg.muxes j) i)
    st

/-- The second inner loop of the parallel scan. -/
def storeColumn (i : Nat) (st : ScanState Mux) : ScanState Mux :=
  (List.range cfg.muxesCount.toNat).foldl
    (fun st j =>
      if (i : Int) ≥ locals.channelAmount j then
        st
      else
        storeValue st (locals.muxOffsets j + UInt16.ofNat i) (st.readBuf j))
    st

/-- `kscan_muxes_parallel_scan`. -/
def kscanMuxesParallelScan (st : ScanState Mux) :
    Except Int (ScanState Mux) :=
  (List.range locals.maxChannelAmount.toNat).foldlM
    (fun st i =>
      (selectColumn drivers cfg locals i st).bind fun st =>
      (adcRead drivers st (cfg.channels 0).dev).bind fun st =>
        .ok (storeColumn cfg locals i st))
    st

/-- The inner loop of the stable scan. -/
def scanChannel (muxIdx : Nat) (st : ScanState Mux) (i : Nat) :
    Except Int (ScanState Mux) :=
  (muxSelect drivers st (cfg.muxes muxIdx) i).bind fun st =>
  (adcRead drivers
      { st with
        adcSeq :=
          kscanMuxesPrepareSequence (cfg.channels muxIdx) muxIdx 2 }
      (cfg.channels muxIdx).dev).bind fun st =>
    .ok
      (storeValue st (locals.muxOffsets muxIdx + UInt16.ofNat i)
        (st.readBuf muxIdx))

/-- `kscan_muxes_stable_scan`. -/
def kscanMuxesStableScan (st : ScanState Mux) : Except Int (ScanState Mux) :=
  (List.range cfg.muxesCount.toNat).foldlM
    (fun st muxIdx =>
      (List.range (locals.channelAmount muxIdx).toNat).foldlM
        (scanChannel drivers cfg locals muxIdx) st)
    st

/-- `kscan_muxes_scan`. -/
def kscanMuxesScan (st : ScanState Mux) : Except Int (ScanState Mux) :=
  (scanLocals options drivers cfg).bind fun locals =>
    if options.parallelAdcReads then
      kscanMuxesParallelScan drivers cfg locals st
    else
      kscanMuxesStableScan drivers cfg locals st

end Scan

end YkbFirmware.Kscan.Muxes
