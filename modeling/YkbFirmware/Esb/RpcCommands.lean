import YkbFirmware.Library.TransitionSystem
import YkbFirmware.Esb.RpcMessages

/-!
# The radio library of the other core

The application core's `ykb_esb_init` and `ykb_esb_send` are commands to the
network core, which carries them out with its radio library.  The transport
between the cores must be set up once only, and says later, by a callback,
when the other core is there.

A packet that is sent reaches the radio library as it is, and its answer comes
back.  But `ykb_esb_send` also asks whether the transport reported success
when it was set up, while `ykb_esb_init` goes on without: a link that came up
after an error is initialised and never sends.
-/

namespace YkbFirmware.Esb.RpcCommands

open YkbFirmware.Library.Cbor
open YkbFirmware.Library.TransitionSystem
open YkbFirmware.Esb.Driver (YkbEsbMode)
open YkbFirmware.Esb.Radio (YkbEsbData einval)
open YkbFirmware.Esb.RpcMessages

def eagain : Int := 11

/-! ## Structures -/

/-- `ykb_esb_config_t` -/
structure YkbEsbConfig where
  mode : YkbEsbMode
  userPtr : Nat
  baseAddr0 : List UInt8
  baseAddr1 : List UInt8

/-- How a structure lies in memory, on both cores. -/
structure StructLayout (Struct : Type) where
  size : Nat
  toBytes : Struct → List UInt8
  ofBytes : List UInt8 → Struct
  /-- The values that the members have room for. -/
  Valid : Struct → Prop
  length_toBytes : ∀ value, Valid value → (toBytes value).length = size
  ofBytes_toBytes : ∀ value, Valid value → ofBytes (toBytes value) = value
  size_fits : size < 2 ^ 32

/-- The radio library of the network core. -/
structure RadioLibrary (Net : Type) where
  ykbEsbInit : Net → YkbEsbConfig → Int × Net
  ykbEsbSend : Net → YkbEsbData → Int × Net
  init_answer : ∀ net config, FitsInt32 (ykbEsbInit net config).1
  send_answer : ∀ net packet, FitsInt32 (ykbEsbSend net packet).1

/-- What the two cores are built of. -/
structure Cores (Net : Type) where
  zcbor : Zcbor
  config : StructLayout YkbEsbConfig
  packet : StructLayout YkbEsbData
  radio : RadioLibrary Net

variable {Net : Type}

section Commands

variable (cores : Cores Net)

/-! ## The network core -/

/-- `rpc_esb_init_handler`, with its response. -/
def rpcEsbInitHandler (net : Net) (message : List UInt8) :
    List UInt8 × Net :=
  match decodeStruct cores.zcbor message cores.config.size with
  | .error _ => (rpcRsp cores.zcbor (-ebadmsg), net)
  | .ok bytes =>
      let config := { cores.config.ofBytes bytes with userPtr := 0 }
      let answer := cores.radio.ykbEsbInit net config
      (rpcRsp cores.zcbor answer.1, answer.2)

/-- `rpc_esb_tx_handler`, with its response. -/
def rpcEsbTxHandler (net : Net) (message : List UInt8) :
    List UInt8 × Net :=
  match decodeStruct cores.zcbor message cores.packet.size with
  | .error _ => (rpcRsp cores.zcbor (-ebadmsg), net)
  | .ok bytes =>
      let answer := cores.radio.ykbEsbSend net (cores.packet.ofBytes bytes)
      (rpcRsp cores.zcbor answer.1, answer.2)

/-! ## The application core -/

/--
A command made of a structure: `nrf_rpc_cbor_cmd` fails without reaching the
other core, or carries the message there and the response back.
-/
def rpcCommand
    (errRpc : Int) (handler : Net → List UInt8 → List UInt8 × Net)
    (net : Net) (bytes : List UInt8) : Int × Net :=
  match encodeStruct cores.zcbor bytes with
  | .error err => (err, net)
  | .ok message =>
      if errRpc ≠ 0 then
        (-einval, net)
      else
        let response := handler net message
        (decodeError cores.zcbor response.1, response.2)

/-- `rpc_esb_init` -/
def rpcEsbInit (errRpc : Int) (net : Net) (config : YkbEsbConfig) :
    Int × Net :=
  rpcCommand cores errRpc (rpcEsbInitHandler cores) net
    (cores.config.toBytes config)

/-- `rpc_esb_tx` -/
def rpcEsbTx (errRpc : Int) (net : Net) (packet : YkbEsbData) : Int × Net :=
  rpcCommand cores errRpc (rpcEsbTxHandler cores) net
    (cores.packet.toBytes packet)

/-- The statics of the application core, and the other core. -/
structure RpcState (Net : Type) where
  rpcInitAttempted : Bool
  rpcInitialized : Bool
  rpcBound : Bool
  mConfig : Option YkbEsbConfig
  /-- how often `nrf_rpc_init` was called -/
  nrfRpcInits : Nat
  /-- a call of `ykb_esb_init` has succeeded -/
  ready : Bool
  net : Net

def RpcState.initial (net : Net) : RpcState Net where
  rpcInitAttempted := false
  rpcInitialized := false
  rpcBound := false
  mConfig := none
  nrfRpcInits := 0
  ready := false
  net := net

/-- The answers to a call of `ykb_esb_init`. -/
structure InitAnswers where
  nrfRpcInit : Int
  /-- `rpc_bound_handler` is called before the call looks at `rpc_bound`. -/
  binds : Bool
  errRpc : Int

/-- `serialization_init` -/
def serializationInit (st : RpcState Net) (answers : InitAnswers) :
    Int × RpcState Net :=
  let st :=
    if st.rpcInitAttempted then
      st
    else
      { st with
        rpcInitAttempted := true
        rpcInitialized := decide (answers.nrfRpcInit = 0)
        nrfRpcInits := st.nrfRpcInits + 1 }
  let st := { st with rpcBound := st.rpcBound || answers.binds }
  if st.rpcBound = false then (-eagain, st) else (0, st)

/-- `ykb_esb_init` -/
def ykbEsbInit
    (st : RpcState Net) (config : YkbEsbConfig) (answers : InitAnswers) :
    Int × RpcState Net :=
  let serialized := serializationInit st answers
  if serialized.1 ≠ 0 then
    serialized
  else
    let st := { serialized.2 with mConfig := some config }
    let remote := rpcEsbInit cores answers.errRpc st.net config
    let st := { st with net := remote.2 }
    if remote.1 < 0 then
      (remote.1, st)
    else
      (0, { st with ready := true })

/-- `ykb_esb_send` -/
def ykbEsbSend (st : RpcState Net) (packet : YkbEsbData) (errRpc : Int) :
    Int × RpcState Net :=
  if st.rpcInitialized = false ∨ st.rpcBound = false then
    (-eagain, st)
  else
    let remote := rpcEsbTx cores errRpc st.net packet
    (remote.1, { st with net := remote.2 })

end Commands

/-! ## Commands carried out -/

section Carried

variable {cores : Cores Net} {net : Net}

theorem rpcCommand_carried
    {handler : Net → List UInt8 → List UInt8 × Net} {bytes : List UInt8}
    {size : Nat} (length : bytes.length = size) (fits : size < 2 ^ 32) :
    ∃ message,
      rpcCommand cores 0 handler net bytes =
          (decodeError cores.zcbor (handler net message).1,
            (handler net message).2) ∧
        decodeStruct cores.zcbor message size = .ok bytes := by
  subst length
  rcases decodeStruct_encodeStruct cores.zcbor fits with
    ⟨message, encoded, decoded⟩
  refine ⟨message, ?_, decoded⟩
  rw [rpcCommand, encoded]
  exact if_neg (not_not.mpr rfl)

/-- The radio library sends the packet as it is, and its answer comes back. -/
theorem rpcEsbTx_carried
    {packet : YkbEsbData} (valid : cores.packet.Valid packet) :
    rpcEsbTx cores 0 net packet = cores.radio.ykbEsbSend net packet := by
  rcases
      @rpcCommand_carried Net cores net (rpcEsbTxHandler cores) _ _
        (cores.packet.length_toBytes packet valid) cores.packet.size_fits with
    ⟨message, carried, decoded⟩
  rw [rpcEsbTx, carried, rpcEsbTxHandler, decoded]
  dsimp only
  rw [cores.packet.ofBytes_toBytes packet valid,
    decodeError_rpcRsp cores.zcbor (cores.radio.send_answer net packet)]

/-- A command that the transport loses does not reach the other core. -/
theorem rpcEsbTx_lost
    {packet : YkbEsbData} (valid : cores.packet.Valid packet) {errRpc : Int}
    (lost : errRpc ≠ 0) :
    rpcEsbTx cores errRpc net packet = (-einval, net) := by
  have fits : (cores.packet.toBytes packet).length < 2 ^ 32 := by
    rw [cores.packet.length_toBytes packet valid]
    exact cores.packet.size_fits
  rcases decodeStruct_encodeStruct cores.zcbor fits with
    ⟨message, encoded, -⟩
  rw [rpcEsbTx, rpcCommand, encoded]
  exact if_pos lost

end Carried

/-! ## Runs -/

inductive RpcEvent where
  | init (config : YkbEsbConfig) (answers : InitAnswers)
  | bound
  | send (packet : YkbEsbData) (errRpc : Int)

def rpcStep (cores : Cores Net) (st : RpcState Net) :
    RpcEvent → Option (RpcState Net)
  | .init config answers => some (ykbEsbInit cores st config answers).2
  | .bound =>
      if st.rpcInitAttempted then
        some { st with rpcBound := true }
      else
        none
  | .send packet errRpc => some (ykbEsbSend cores st packet errRpc).2

/-- What `nrf_rpc_init` answers to the first call. -/
def firstAnswer (first : Option Int) : RpcEvent → Option Int
  | .init _ answers => first.or (some answers.nrfRpcInit)
  | _ => first

/-- The statics tell whether the transport was set up, and how. -/
structure SetUp (st : RpcState Net) (first : Option Int) : Prop where
  attempted : st.rpcInitAttempted = first.isSome
  inits : st.nrfRpcInits = if first.isSome then 1 else 0
  initialized : st.rpcInitialized = decide (first = some 0)
  ready : st.ready = true → st.rpcBound = true ∧ first.isSome = true

section Steps

variable {cores : Cores Net} {st next : RpcState Net} {first : Option Int}

/-- What does not touch the transport leaves it set up. -/
theorem SetUp.same
    (setUp : SetUp st first)
    (attempted : next.rpcInitAttempted = st.rpcInitAttempted)
    (inits : next.nrfRpcInits = st.nrfRpcInits)
    (initialized : next.rpcInitialized = st.rpcInitialized)
    (ready :
      next.ready = true → next.rpcBound = true ∧ first.isSome = true) :
    SetUp next first where
  attempted := attempted.trans setUp.attempted
  inits := inits.trans setUp.inits
  initialized := initialized.trans setUp.initialized
  ready := ready

theorem serializationInit_setUp
    (setUp : SetUp st first) (answers : InitAnswers) :
    SetUp (serializationInit st answers).2
        (first.or (some answers.nrfRpcInit)) ∧
      ((serializationInit st answers).1 = 0 →
        (serializationInit st answers).2.rpcBound = true) := by
  rw [serializationInit]
  cases answered : first with
  | some answer =>
      have attempted : st.rpcInitAttempted = true := by
        rw [setUp.attempted, answered]
        rfl
      have kept : SetUp st (some answer) := answered ▸ setUp
      rw [if_pos attempted]
      dsimp only
      split_ifs with unbound
      · refine ⟨kept.same rfl rfl rfl fun ready => ?_, fun impossible => ?_⟩
        · rw [(kept.ready ready).1] at unbound
          cases unbound
        · cases impossible
      · have bound := eq_true_of_ne_false unbound
        exact
          ⟨kept.same rfl rfl rfl fun _ => ⟨bound, rfl⟩, fun _ => bound⟩
  | none =>
      have attempted : st.rpcInitAttempted = false := by
        rw [setUp.attempted, answered]
        rfl
      have never : ¬ st.ready = true := by
        intro ready
        have some := (setUp.ready ready).2
        rw [answered] at some
        cases some
      have inits : st.nrfRpcInits = 0 := by
        rw [setUp.inits, answered]
        rfl
      rw [if_neg (ne_true_of_eq_false attempted)]
      have begun :
          SetUp
            { st with
              rpcInitAttempted := true
              rpcInitialized := decide (answers.nrfRpcInit = 0)
              nrfRpcInits := st.nrfRpcInits + 1
              rpcBound := st.rpcBound || answers.binds }
            (some answers.nrfRpcInit) :=
        ⟨rfl, by rw [inits]; rfl, by simp, fun ready => absurd ready never⟩
      dsimp only
      split_ifs with unbound
      · exact ⟨begun, fun impossible => by cases impossible⟩
      · exact ⟨begun, fun _ => eq_true_of_ne_false unbound⟩

theorem ykbEsbInit_setUp
    (setUp : SetUp st first) (config : YkbEsbConfig)
    (answers : InitAnswers) :
    SetUp (ykbEsbInit cores st config answers).2
      (first.or (some answers.nrfRpcInit)) := by
  rcases serializationInit_setUp setUp answers with ⟨serialized, bound⟩
  rw [ykbEsbInit]
  dsimp only
  split_ifs with refused fails
  · exact serialized
  · exact serialized.same rfl rfl rfl serialized.ready
  · have up := bound (not_not.mp refused)
    have some : (first.or (some answers.nrfRpcInit)).isSome = true := by
      cases first <;> rfl
    exact serialized.same rfl rfl rfl fun _ => ⟨up, some⟩

theorem setUp_step
    (st : RpcState Net) (first : Option Int) (event : RpcEvent)
    (next : RpcState Net) (setUp : SetUp st first)
    (stepped : rpcStep cores st event = some next) :
    SetUp next (firstAnswer first event) := by
  cases event with
  | init config answers =>
      cases stepped
      exact ykbEsbInit_setUp setUp config answers
  | bound =>
      rw [rpcStep] at stepped
      split_ifs at stepped
      cases stepped
      exact
        setUp.same rfl rfl rfl fun ready => ⟨rfl, (setUp.ready ready).2⟩
  | send packet errRpc =>
      cases stepped
      rw [ykbEsbSend]
      split_ifs
      · exact setUp
      · exact setUp.same rfl rfl rfl setUp.ready

end Steps

/--
What `ykb_esb_send` does with a packet, where `first` is what `nrf_rpc_init`
answered.
-/
structure Sends
    (cores : Cores Net) (st : RpcState Net) (first : Option Int)
    (packet : YkbEsbData) : Prop where
  sent :
    first = some 0 →
      ykbEsbSend cores st packet 0 =
        ((cores.radio.ykbEsbSend st.net packet).1,
          { st with net := (cores.radio.ykbEsbSend st.net packet).2 })
  lost :
    first = some 0 →
      ∀ errRpc ≠ 0, ykbEsbSend cores st packet errRpc = (-einval, st)
  refused :
    first ≠ some 0 →
      ∀ errRpc, ykbEsbSend cores st packet errRpc = (-eagain, st)

theorem SetUp.sends
    {cores : Cores Net} {st : RpcState Net} {first : Option Int}
    (setUp : SetUp st first) (ready : st.ready = true)
    {packet : YkbEsbData} (valid : cores.packet.Valid packet) :
    Sends cores st first packet := by
  have initialized := setUp.initialized
  have passes (started : first = some 0) :
      ¬ (st.rpcInitialized = false ∨ st.rpcBound = false) := by
    rw [decide_eq_true started] at initialized
    simp [initialized, (setUp.ready ready).1]
  constructor
  case sent =>
    intro started
    rw [ykbEsbSend, if_neg (passes started), rpcEsbTx_carried valid]
  case lost =>
    intro started errRpc lost
    rw [ykbEsbSend, if_neg (passes started), rpcEsbTx_lost valid lost]
  case refused =>
    intro failed errRpc
    rw [decide_eq_false failed] at initialized
    rw [ykbEsbSend, if_pos (.inl initialized)]

/--
The transport is set up by the first call of `ykb_esb_init` and never again.
Once the radio library is initialised, a packet that is sent is sent by the
other core's, if the transport reported success when it was set up and does
not lose the command; otherwise every packet is refused.
-/
theorem sends_iff_transport_started
    (cores : Cores Net) (net : Net) (events : List RpcEvent)
    (finish : RpcState Net)
    (ran : run (rpcStep cores) (.initial net) events = some finish) :
    let first := events.foldl firstAnswer none
    (finish.nrfRpcInits = if first.isSome then 1 else 0) ∧
      (finish.ready = true →
        ∀ packet, cores.packet.Valid packet →
          Sends cores finish first packet) := by
  have initially : SetUp (.initial net) none :=
    ⟨rfl, rfl, rfl, fun never => Bool.noConfusion never⟩
  have setUp : SetUp finish (events.foldl firstAnswer none) :=
    run_preserves_folded setUp_step initially ran
  exact ⟨setUp.inits, fun ready packet valid => setUp.sends ready valid⟩

/-! ## Two cores that start well or badly -/

/-- The bytes of a number in memory. -/
def littleEndian (width value : Nat) : List UInt8 :=
  (bigEndian width value).reverse

def ofLittleEndian (bytes : List UInt8) : Nat :=
  ofBigEndian bytes.reverse

theorem ofLittleEndian_littleEndian
    {width value : Nat} (fits : value < 256 ^ width) :
    ofLittleEndian (littleEndian width value) = value := by
  rw [ofLittleEndian, littleEndian, List.reverse_reverse,
    ofBigEndian_bigEndian fits]

@[simp]
theorem length_littleEndian (width value : Nat) :
    (littleEndian width value).length = width := by
  rw [littleEndian, List.length_reverse, length_bigEndian]

/-- A packet of 32 bytes and its length. -/
def packetLayout : StructLayout YkbEsbData where
  size := 36
  toBytes packet := packet.data ++ littleEndian 4 packet.len.toNat
  ofBytes bytes :=
    ⟨bytes.take 32, UInt32.ofNat (ofLittleEndian (bytes.drop 32))⟩
  Valid packet := packet.data.length = 32
  length_toBytes packet valid := by
    rw [List.length_append, valid, length_littleEndian]
  ofBytes_toBytes packet valid := by
    have fits : packet.len.toNat < 256 ^ 4 := packet.len.toNat_lt
    rw [← valid, List.take_left, List.drop_left,
      ofLittleEndian_littleEndian fits, UInt32.ofNat_toNat]
  size_fits := Nat.le_of_ble_eq_true rfl

def modeNumber : YkbEsbMode → UInt8
  | .ptx => 0
  | .prx => 1

/-- A member is read from where it was put. -/
theorem member_read
    {before member after : List UInt8} {offset size : Nat}
    (place : before.length = offset) (length : member.length = size) :
    ((before ++ (member ++ after)).drop offset).take size = member := by
  rw [← place, ← length, List.drop_left, List.take_left]

/-- The mode, a pointer of four bytes and the two addresses. -/
def configLayout : StructLayout YkbEsbConfig where
  size := 16
  toBytes config :=
    [modeNumber config.mode, 0, 0, 0] ++
      (littleEndian 4 config.userPtr ++
        (config.baseAddr0 ++ (config.baseAddr1 ++ [])))
  ofBytes bytes :=
    { mode := if bytes.head? = some 0 then .ptx else .prx
      userPtr := ofLittleEndian ((bytes.drop 4).take 4)
      baseAddr0 := (bytes.drop 8).take 4
      baseAddr1 := (bytes.drop 12).take 4 }
  Valid config :=
    config.userPtr < 2 ^ 32 ∧ config.baseAddr0.length = 4 ∧
      config.baseAddr1.length = 4
  length_toBytes config valid := by
    simp [valid.2.1, valid.2.2]
  ofBytes_toBytes config valid := by
    rcases config with ⟨mode, userPtr, baseAddr0, baseAddr1⟩
    rcases valid with ⟨pointer, first, second⟩
    have pointerFits : userPtr < 256 ^ 4 := pointer
    have modeEnds : [modeNumber mode, 0, 0, 0].length = 4 := rfl
    have pointerEnds :
        ([modeNumber mode, 0, 0, 0] ++ littleEndian 4 userPtr).length = 8 := by
      rw [List.length_append, modeEnds, length_littleEndian]
    have firstEnds :
        ([modeNumber mode, 0, 0, 0] ++ littleEndian 4 userPtr ++
          baseAddr0).length = 12 := by
      rw [List.length_append, pointerEnds, first]
    dsimp only
    congr 1
    · cases mode <;> rfl
    · rw [member_read modeEnds (length_littleEndian 4 userPtr),
        ofLittleEndian_littleEndian pointerFits]
    · rw [← List.append_assoc, member_read pointerEnds first]
    · rw [← List.append_assoc, ← List.append_assoc,
        member_read firstEnds second]
  size_fits := Nat.le_of_ble_eq_true rfl

/-- A radio library that takes every packet. -/
def takingRadio : RadioLibrary (List YkbEsbData) where
  ykbEsbInit net _ := (0, net)
  ykbEsbSend net packet := (0, net ++ [packet])
  init_answer _ _ := fitsInt32_zero
  send_answer _ _ := fitsInt32_zero

def twoCores : Cores (List YkbEsbData) where
  zcbor := shortestCbor
  config := configLayout
  packet := packetLayout
  radio := takingRadio

def transmitter : YkbEsbConfig := ⟨.ptx, 0, [1, 2, 3, 4], [5, 6, 7, 8]⟩

def onePacket : YkbEsbData := ⟨List.replicate 32 7, 1⟩

/-- The other core is there at the second attempt. -/
def slowCore : List RpcEvent :=
  [.init transmitter ⟨0, false, 0⟩, .bound, .init transmitter ⟨0, false, 0⟩]

/-- The transport reports an error, and the other core is there later. -/
def lateCore : List RpcEvent :=
  [.init transmitter ⟨-5, false, 0⟩, .bound, .init transmitter ⟨0, false, 0⟩]

/-- The one sends a packet, the other never does. -/
theorem slowCore_sends_lateCore_refuses :
    (∃ finish,
      run (rpcStep twoCores) (.initial []) slowCore = some finish ∧
        finish.nrfRpcInits = 1 ∧
        ykbEsbSend twoCores finish onePacket 0 =
          (0, { finish with net := [onePacket] })) ∧
      ∃ finish,
        run (rpcStep twoCores) (.initial []) lateCore = some finish ∧
          finish.nrfRpcInits = 1 ∧
          ykbEsbSend twoCores finish onePacket 0 = (-eagain, finish) := by
  refine ⟨⟨_, rfl, ?_, ?_⟩, ⟨_, rfl, ?_, ?_⟩⟩
  · exact (sends_iff_transport_started twoCores [] slowCore _ rfl).1
  · exact
      ((sends_iff_transport_started twoCores [] slowCore _ rfl).2 rfl
        onePacket rfl).sent rfl
  · exact (sends_iff_transport_started twoCores [] lateCore _ rfl).1
  · exact
      ((sends_iff_transport_started twoCores [] lateCore _ rfl).2 rfl
        onePacket rfl).refused (by decide) 0

end YkbFirmware.Esb.RpcCommands
