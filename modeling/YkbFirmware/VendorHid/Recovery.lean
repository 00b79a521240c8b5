import YkbFirmware.Library.TransitionSystem
import YkbFirmware.Protocol.InOrderRoundTrip
import YkbFirmware.VendorHid.Protocol

/-!
# Acceptance after an arbitrary history

A session is any sequence of parser calls and runs of the submitted work
item.  Whatever happened before, an idle context accepts the packets of a
well-formed request exactly when its receiver is inactive, or happens to be
pinned to a transfer with the same header fields of which it still expects
the first packet.  The parser never resets the receiver on an error, so an
abandoned transfer leaves it in neither situation.
-/

namespace YkbFirmware.VendorHid.Recovery

open YkbFirmware.Library.ByteMemory
open YkbFirmware.Library.Segmentation
open YkbFirmware.Library.TransitionSystem
open YkbFirmware.Protocol.Wire
open YkbFirmware.Protocol.Receiver
open YkbFirmware.Protocol.ReceiverInvariant
open YkbFirmware.Protocol.ReceiverStep
open YkbFirmware.Protocol.Sender
open YkbFirmware.Protocol.TransferReceipt
open YkbFirmware.Protocol.InOrderRoundTrip
open YkbFirmware.VendorHid.Protocol

/-! ## Sessions -/

/-- A context with its work item. -/
structure Session (Device : Type) where
  ctx : VendorHidProtocolCtx
  workQueued : Bool
  device : Device

inductive SessionEvent where
  | parse (report : Report)
  | respond (sendPacket : List UInt8 → Int)

section Sessions

variable
    {Device : Type}
    (geometry : PacketGeometry) (options : VendorHidOptions)
    (services : VendorHidServices Device)

def Session.start (device : Device) : Session Device where
  ctx := vendorHidProtocolInit options
  workQueued := false
  device := device

/-- The work handler runs only when its item was submitted. -/
def sessionStep (session : Session Device) :
    SessionEvent → Option (Session Device)
  | .parse report =>
      let parsed :=
        vendorHidProtocolParse geometry options session.ctx report
      some
        { session with
          ctx := parsed.ctx
          workQueued := session.workQueued || parsed.submitted }
  | .respond sendPacket =>
      if session.workQueued then
        let responded :=
          responseWorkHandler geometry options services sendPacket
            session.device session.ctx
        some ⟨responded.ctx, false, responded.device⟩
      else
        none

/-- The receiver of a context, seen from outside. -/
structure Ready (ctx : VendorHidProtocolCtx) : Prop where
  described : ∃ stored, Describes geometry ctx.rx stored
  configuration :
    SameConfiguration (vendorHidProtocolInit options).rx ctx.rx

variable {geometry options services}

/-- The parser changes the receiver by a push or not at all. -/
theorem parse_rx
    (geometry : PacketGeometry) (options : VendorHidOptions)
    (ctx : VendorHidProtocolCtx) (report : Report) :
    (vendorHidProtocolParse geometry options ctx report).ctx.rx = ctx.rx ∨
      (vendorHidProtocolParse geometry options ctx report).ctx.rx =
        (parsePush geometry ctx report).state := by
  rw [vendorHidProtocolParse]
  split
  · exact Or.inl rfl
  · dsimp only
    split_ifs <;> exact Or.inr rfl

theorem Ready.push
    {ctx : VendorHidProtocolCtx} {rx : YkbProtocolRxState}
    {report : Report}
    (ready : Ready geometry options ctx)
    (changed : rx = ctx.rx ∨ rx = (parsePush geometry ctx report).state) :
    (∃ stored, Describes geometry rx stored) ∧
      SameConfiguration (vendorHidProtocolInit options).rx rx := by
  rcases ready.described with ⟨stored, describes⟩
  rcases changed with same | pushed
  · rw [same]
    exact ⟨⟨stored, describes⟩, ready.configuration⟩
  · rcases pushStep describes (packetAt report.data) with ⟨next, step⟩
    rw [pushed]
    exact
      ⟨⟨next, step.describes describes⟩,
        ready.configuration.trans step.sameConfiguration⟩

theorem ready_start (device : Device) :
    Ready geometry options (Session.start options device).ctx :=
  ⟨⟨∅, .idle (idle_rxInit _ _ _ _ _)⟩, .refl _⟩

theorem ready_step
    (session : Session Device) (event : SessionEvent)
    (next : Session Device)
    (ready : Ready geometry options session.ctx)
    (stepped :
      sessionStep geometry options services session event = some next) :
    Ready geometry options next.ctx := by
  cases event with
  | parse report =>
      cases stepped
      have pushed := ready.push (parse_rx geometry options session.ctx report)
      exact ⟨pushed.1, pushed.2⟩
  | respond sendPacket =>
      rw [sessionStep] at stepped
      split_ifs at stepped with queued
      cases stepped
      exact
        ⟨⟨∅, .idle (idle_rxReset _)⟩,
          ready.configuration.trans (rxReset_sameConfiguration _)⟩

/-- Every session keeps the receiver described and in order. -/
theorem ready_of_run
    {device : Device} {session : Session Device}
    {history : List SessionEvent}
    (ran :
      run (sessionStep geometry options services)
        (Session.start options device) history = some session) :
    Ready geometry options session.ctx :=
  run_preserves ready_step (ready_start device) ran

/-- A session of one report. -/
theorem run_parse
    {session : Session Device} {report : Report} {outcome : ParseOutcome}
    (parsed :
      vendorHidProtocolParse geometry options session.ctx report =
        outcome) :
    run (sessionStep geometry options services) session [.parse report] =
      some
        { session with
          ctx := outcome.ctx
          workQueued := session.workQueued || outcome.submitted } := by
  simp [sessionStep, parsed]

end Sessions

/-! ## Feeding a request -/

/-- The report holds the packet, with its payload bytes complete. -/
structure Carries
    (geometry : PacketGeometry)
    (report : Report) (packet : YkbProtocolPacket) : Prop where
  sameWire : SameWire geometry (packetAt report.data) packet
  longEnough :
    headerSize + (crcPayloadLen geometry packet.header).toNat ≤ report.len

/-- Call the parser on each report in turn. -/
def parseAll
    (geometry : PacketGeometry) (options : VendorHidOptions) :
    VendorHidProtocolCtx → List Report → List ParseOutcome
  | _, [] => []
  | ctx, report :: rest =>
      let parsed := vendorHidProtocolParse geometry options ctx report
      parsed :: parseAll geometry options parsed.ctx rest

/-- The context after a list of reports. -/
def contextAfter
    (geometry : PacketGeometry) (options : VendorHidOptions)
    (ctx : VendorHidProtocolCtx) (reports : List Report) :
    VendorHidProtocolCtx :=
  reports.foldl
    (fun ctx report =>
      (vendorHidProtocolParse geometry options ctx report).ctx)
    ctx

/--
The request is accepted: every call returns 0, the last one submits the work
and leaves the context busy over the complete payload.
-/
structure Accepts
    (geometry : PacketGeometry) (options : VendorHidOptions)
    (ctx : VendorHidProtocolCtx)
    (transfer : Transfer) (reports : List Report) : Prop where
  returned :
    (parseAll geometry options ctx reports).map (·.returned) =
      List.replicate reports.length .zero
  submitted :
    (parseAll geometry options ctx reports).map (·.submitted) =
      List.replicate (reports.length - 1) false ++ [true]
  busy : (contextAfter geometry options ctx reports).busy = true
  completed : (contextAfter geometry options ctx reports).rx.complete = true
  received :
    (contextAfter geometry options ctx reports).rxBuffer.readBlock 0
        transfer.totalLen.toNat =
      transfer.payload

/-- The receiver expects the first packet of a transfer headed like this. -/
structure PinnedAtStart
    (geometry : PacketGeometry) (transfer : Transfer)
    (rx : YkbProtocolRxState) : Prop where
  transferId : rx.transferId = transfer.transferId
  totalLen : rx.totalLen = transfer.totalLen
  packetCount : rx.packetCount = transfer.packetCount geometry
  typeFlagsBase :
    rx.typeFlagsBase = withoutStartEnd transfer.typeFlagsBase
  nextExpectedPacketIdx : rx.nextExpectedPacketIdx = 0

section Feeding

variable
    {geometry : PacketGeometry} {options : VendorHidOptions}
    {ctx : VendorHidProtocolCtx} {transfer : Transfer}
    {report : Report} {packet : YkbProtocolPacket} {index : Nat}

/-- Past the checks the parser sees the carried packet. -/
theorem parse_carried
    (free : ctx.busy = false) (carried : Carries geometry report packet) :
    parseGuard ctx report = none ∧
      parsePush geometry ctx report =
        ykbProtocolRxPushPacket geometry ctx.rx packet := by
  have long := carried.longEnough
  constructor
  · rw [parseGuard, if_neg (by simp [free]), if_neg (by omega)]
  · exact push_congr carried.sameWire

theorem parse_accepted
    (options : VendorHidOptions)
    (free : ctx.busy = false) (carried : Carries geometry report packet)
    (accepted :
      (ykbProtocolRxPushPacket geometry ctx.rx packet).result =
        .accepted) :
    vendorHidProtocolParse geometry options ctx report =
      ⟨{ ctx with
          rx := (ykbProtocolRxPushPacket geometry ctx.rx packet).state },
        .zero, false⟩ := by
  rcases parse_carried free carried with ⟨guarded, pushed⟩
  simp [vendorHidProtocolParse, guarded, pushed, accepted]

theorem parse_complete
    (options : VendorHidOptions)
    (free : ctx.busy = false) (carried : Carries geometry report packet)
    (completed :
      (ykbProtocolRxPushPacket geometry ctx.rx packet).result =
        .complete) :
    vendorHidProtocolParse geometry options ctx report =
      ⟨{ ctx with
          rx := (ykbProtocolRxPushPacket geometry ctx.rx packet).state
          busy := true
          currentResponse :=
            requestedResponse options
              (ykbProtocolRxPushPacket geometry ctx.rx
                packet).state.buffer },
        .zero, true⟩ := by
  rcases parse_carried free carried with ⟨guarded, pushed⟩
  have fine : YkbProtocolRxResult.complete.isError = false := rfl
  simp [vendorHidProtocolParse, guarded, pushed, completed, fine,
    VendorHidProtocolCtx.rxBuffer]

theorem parse_refused
    (options : VendorHidOptions)
    (free : ctx.busy = false) (carried : Carries geometry report packet)
    (refused :
      (ykbProtocolRxPushPacket geometry ctx.rx packet).result.isError =
        true) :
    (vendorHidProtocolParse geometry options ctx report).returned ≠
      .zero := by
  rcases parse_carried free carried with ⟨guarded, pushed⟩
  simp [vendorHidProtocolParse, guarded, pushed, refused]

/-- From any position, the reports of the remaining packets are accepted. -/
theorem inOrderAt_accepts
    (remaining : Nat) {ctx : VendorHidProtocolCtx} {index : Nat}
    {reports : List Report}
    (ends : index + (remaining + 1) = transfer.count geometry)
    (position : InOrderAt geometry transfer ctx.rx index)
    (free : ctx.busy = false)
    (carried :
      List.Forall₂ (Carries geometry) reports
        ((List.range' index (remaining + 1)).map
          (transfer.packet geometry))) :
    Accepts geometry options ctx transfer reports := by
  induction remaining generalizing ctx index reports with
  | zero =>
      have within : index < transfer.count geometry := by omega
      have last : index + 1 = transfer.count geometry := by omega
      have advances := (position.advances within).1
      rw [Nat.zero_add, List.range'_one, List.map_singleton] at carried
      rcases carried with _ | ⟨carriedOne, none⟩
      cases none
      have parsed :=
        parse_complete options free carriedOne
          (by rw [advances.result, if_pos (by simp [last])])
      have full :
          Finset.range (index + 1) =
            Finset.range (transfer.count geometry) := by
        rw [last]
      have payload := advances.receiving.payload_of_full full
      rw [advances.receiving.totalLen] at payload
      refine ⟨?_, ?_, ?_, ?_, ?_⟩
      · simp [parseAll, parsed]
      · simp [parseAll, parsed]
      · simp [contextAfter, parsed]
      · simp only [contextAfter, List.foldl, parsed]
        rw [advances.receiving.tracks.complete,
          advances.receiving.packetCount_toNat, full, Finset.card_range]
      · simpa [contextAfter, parsed, VendorHidProtocolCtx.rxBuffer] using
          payload
  | succ remaining induction =>
      have within : index < transfer.count geometry := by omega
      have inner : index + 1 ≠ transfer.count geometry := by omega
      rcases position.advances within with ⟨advances, next⟩
      rw [List.range'_succ, List.map_cons] at carried
      rcases carried with _ | ⟨carriedOne, carriedRest⟩
      have parsed :=
        parse_accepted options free carriedOne
          (by rw [advances.result, if_neg (by simpa using inner)])
      have length := carriedRest.length_eq
      have rest :=
        @induction
          { ctx with
            rx :=
              (ykbProtocolRxPushPacket geometry ctx.rx
                (transfer.packet geometry index)).state }
          (index + 1) _ (by omega) next free carriedRest
      rw [List.length_map, List.length_range'] at length
      refine ⟨?_, ?_, ?_, ?_, ?_⟩
      · rw [parseAll, List.map_cons, parsed, rest.returned]
        rfl
      · rw [parseAll, List.map_cons, parsed, rest.submitted, length]
        simp [List.replicate_succ, length]
      · simpa [contextAfter, parsed] using rest.busy
      · simpa [contextAfter, parsed] using rest.completed
      · simpa [contextAfter, parsed] using rest.received

/-- A receiver pinned at its start is at position zero of the transfer. -/
theorem PinnedAtStart.receiving
    {rx : YkbProtocolRxState} {stored : Finset Nat}
    (pinned : PinnedAtStart geometry transfer rx)
    (tracks : Tracks geometry rx stored)
    (inOrder : rx.allowOutOfOrder = false) :
    Receiving geometry transfer rx (Finset.range 0) := by
  have nothing : stored = ∅ := by
    have represents := tracks.represents
    rw [RepresentsStored, if_neg (by simp [inOrder]),
      pinned.nextExpectedPacketIdx] at represents
    exact represents
  rw [nothing] at tracks
  exact
    ⟨tracks, pinned.transferId, pinned.totalLen, pinned.packetCount,
      pinned.typeFlagsBase, .empty⟩

/-- The first packet is refused by a receiver that is pinned elsewhere. -/
theorem first_refused
    {rx : YkbProtocolRxState} {stored : Finset Nat}
    (tracks : Tracks geometry rx stored)
    (inOrder : rx.allowOutOfOrder = false)
    (elsewhere : ¬ PinnedAtStart geometry transfer rx) :
    (ykbProtocolRxPushPacket geometry rx
        (transfer.packet geometry 0)).result.isError = true := by
  have admissible := packet_admissible (transfer.count_pos geometry)
  by_cases same :
      sameTransfer rx (transfer.packet geometry 0).header = true
  · have unexpected :
        (transfer.packet geometry 0).header.packetIdx ≠
          rx.nextExpectedPacketIdx := by
      intro expected
      have fields := of_decide_eq_true same
      exact
        elsewhere
          ⟨fields.1, fields.2.1, fields.2.2.1,
            fields.2.2.2.trans Transfer.packet_flagsBase, expected.symm⟩
    rw [push_unexpected admissible tracks.active same inOrder unexpected]
    rfl
  · rw [push_mismatch admissible tracks.active (by simpa using same)]
    rfl

/-- The buffer of a context has room for every request that fits it. -/
theorem Ready.room
    (ready : Ready geometry options ctx)
    (fits : transfer.totalLen.toNat ≤ options.rxBufferSize) :
    RoomFor geometry transfer ctx.rx := by
  have bound := options.rxBufferSize_lt
  have inOrder : ctx.rx.allowOutOfOrder = false :=
    ready.configuration.allowOutOfOrder
  constructor
  · rw [ready.configuration.capacity, UInt16.le_iff_toNat_le]
    change _ ≤ (UInt16.ofNat options.rxBufferSize).toNat
    rw [UInt16.toNat_ofNat', Nat.mod_eq_of_lt bound]
    exact fits
  · intro outOfOrder
    rw [inOrder] at outOfOrder
    cases outOfOrder

/-- A request that fits is accepted exactly from these receivers. -/
theorem accepts_iff
    {reports : List Report}
    (ready : Ready geometry options ctx) (free : ctx.busy = false)
    (fits : transfer.totalLen.toNat ≤ options.rxBufferSize)
    (carried :
      List.Forall₂ (Carries geometry) reports
        (transfer.packets geometry)) :
    Accepts geometry options ctx transfer reports ↔
      ctx.rx.active = false ∨ PinnedAtStart geometry transfer ctx.rx := by
  have inOrder : ctx.rx.allowOutOfOrder = false :=
    ready.configuration.allowOutOfOrder
  have room : RoomFor geometry transfer ctx.rx := ready.room fits
  obtain ⟨remaining, count⟩ :
      ∃ remaining, transfer.count geometry = remaining + 1 :=
    ⟨transfer.count geometry - 1, by
      have positive := transfer.count_pos geometry
      omega⟩
  rw [Transfer.packets_eq, List.range_eq_range', count] at carried
  rcases ready.described with ⟨stored, describes⟩
  constructor
  · intro accepts
    by_contra neither
    rw [not_or, Bool.not_eq_false] at neither
    have refused :=
      first_refused (describes.tracks neither.1) inOrder neither.2
    rw [List.range'_succ, List.map_cons] at carried
    rcases carried with _ | ⟨carriedOne, carriedRest⟩
    have returned := accepts.returned
    rw [parseAll, List.map_cons, List.length_cons, List.replicate_succ,
      List.cons.injEq] at returned
    exact parse_refused options free carriedOne refused returned.1
  · rintro (inactive | pinned)
    · cases describes with
      | idle resting =>
          exact
            inOrderAt_accepts remaining (by omega)
              (.start resting room inOrder) free carried
      | busy tracks =>
          rw [tracks.active] at inactive
          cases inactive
    · by_cases active : ctx.rx.active = true
      · exact
          inOrderAt_accepts remaining (by omega)
            (.middle
              (pinned.receiving (describes.tracks active) inOrder) inOrder)
            free carried
      · cases describes with
        | idle resting =>
            exact
              inOrderAt_accepts remaining (by omega)
                (.start resting room inOrder) free carried
        | busy tracks => exact absurd tracks.active active

end Feeding

/-! ## Reports of whole packets -/

/-- The report a host sends for the packet. -/
def reportOf (packet : YkbProtocolPacket) (len : Nat) : Report where
  data := fun address =>
    if address < headerSize then
      packet.header.bytes.getD address 0
    else
      packet.payload (address - headerSize)
  len := len

theorem packetAt_reportOf (packet : YkbProtocolPacket) (len : Nat) :
    packetAt (reportOf packet len).data = packet := by
  rcases packet with ⟨header, payload⟩
  have rest :
      (fun address => payload (headerSize + address - headerSize)) =
        payload := by
    funext address
    rw [Nat.add_sub_cancel_left]
  simp only [packetAt, reportOf, YkbProtocolPacket.mk.injEq]
  constructor
  · simp [headerSize, YkbProtocolHeader.bytes]
  · funext address
    simp [Memory.shift]

/-- Full-size reports of all packets of a transfer. -/
def reportsOf (geometry : PacketGeometry) (transfer : Transfer) :
    List Report :=
  (transfer.packets geometry).map fun packet =>
    reportOf packet geometry.maxPacketSize

theorem reportOf_carries
    {geometry : PacketGeometry} {packet : YkbProtocolPacket}
    (valid : HeaderValid geometry packet.header) :
    Carries geometry (reportOf packet geometry.maxPacketSize) packet := by
  have lengthLe := crcPayloadLen_le valid
  have fits := geometry.headerFits
  constructor
  · rw [packetAt_reportOf]
    exact ⟨rfl, fun _ _ => rfl⟩
  · rw [PacketGeometry.maxPayloadSize] at lengthLe
    change _ ≤ geometry.maxPacketSize
    omega

theorem reportsOf_carries
    (geometry : PacketGeometry) (transfer : Transfer) :
    List.Forall₂ (Carries geometry) (reportsOf geometry transfer)
      (transfer.packets geometry) := by
  rw [reportsOf, List.forall₂_map_left_iff, List.forall₂_same]
  intro packet sent
  rcases Transfer.mem_packets.mp sent with ⟨index, within, rfl⟩
  exact reportOf_carries (Transfer.packet_headerValid within)

/-- The first packet of a longer request leaves the receiver pinned. -/
theorem abandoned_after_first
    {Device : Type}
    (geometry : PacketGeometry) (options : VendorHidOptions)
    (services : VendorHidServices Device) (device : Device)
    (transfer : Transfer)
    (longer : 1 < transfer.count geometry)
    (fits : transfer.totalLen.toNat ≤ options.rxBufferSize) :
    ∃ session : Session Device,
      run (sessionStep geometry options services)
          (Session.start options device)
          [.parse
            (reportOf (transfer.packet geometry 0)
              geometry.maxPacketSize)] =
          some session ∧
        session.ctx.busy = false ∧
          Receiving geometry transfer session.ctx.rx (insert 0 ∅) := by
  have within := transfer.count_pos geometry
  have room :
      RoomFor geometry transfer (vendorHidProtocolInit options).rx :=
    (ready_start device).room fits
  have advances :=
    push_first within (rfl : (vendorHidProtocolInit options).rx.active = _)
      room fun _ => rfl
  have accepted := advances.result
  rw [if_neg (by simpa using longer.ne)] at accepted
  have parsed :=
    parse_accepted options
      (rfl : (vendorHidProtocolInit options).busy = false)
      (reportOf_carries (Transfer.packet_headerValid within)) accepted
  exact ⟨_, run_parse parsed, rfl, advances.receiving⟩

/-! ## Two requests -/

/-- The first 120 bytes of a SET_SETTINGS request. -/
def setSettingsRequest : Transfer :=
  plainTransfer (Memory.ofList [3]) 120

/-- A GET_FEATURES request, one byte long. -/
def getFeaturesRequest : Transfer :=
  plainTransfer (Memory.ofList [0]) 1

/--
After any session that leaves the context idle, a request that fits the
buffer is accepted if and only if the receiver is inactive or pinned to the
start of a transfer with the same header fields.
-/
theorem accepted_after_history_iff
    {Device : Type}
    (geometry : PacketGeometry) (options : VendorHidOptions)
    (services : VendorHidServices Device) (device : Device)
    (history : List SessionEvent) (session : Session Device)
    (transfer : Transfer) (reports : List Report)
    (ran :
      run (sessionStep geometry options services)
        (Session.start options device) history = some session)
    (free : session.ctx.busy = false)
    (fits : transfer.totalLen.toNat ≤ options.rxBufferSize)
    (carried :
      List.Forall₂ (Carries geometry) reports
        (transfer.packets geometry)) :
    Accepts geometry options session.ctx transfer reports ↔
      session.ctx.rx.active = false ∨
        PinnedAtStart geometry transfer session.ctx.rx :=
  accepts_iff (ready_of_run ran) free fits carried

/-- A request of one packet, the answer to it, and a report cut short. -/
def answeredHistory : List SessionEvent :=
  (reportsOf usbGeometry getFeaturesRequest).map .parse ++
    [.respond fun _ => 0, .parse ⟨Memory.zero, 3⟩]

theorem answeredHistory_succeeds :
    (run (sessionStep usbGeometry plainOptions idleServices)
      (Session.start plainOptions ()) answeredHistory).isSome = true := by
  decide +kernel

/-- A request of three packets is accepted after it. -/
theorem answeredHistory_accepts :
    ∃ session,
      run (sessionStep usbGeometry plainOptions idleServices)
          (Session.start plainOptions ()) answeredHistory = some session ∧
        session.ctx.busy = false ∧
        (reportsOf usbGeometry setSettingsRequest).length = 3 ∧
        Accepts usbGeometry plainOptions session.ctx setSettingsRequest
          (reportsOf usbGeometry setSettingsRequest) := by
  have ran := (Option.some_get answeredHistory_succeeds).symm
  refine
    ⟨_, ran, by decide +kernel, by decide +kernel,
      (accepted_after_history_iff usbGeometry plainOptions idleServices ()
        answeredHistory _ setSettingsRequest
        (reportsOf usbGeometry setSettingsRequest) ran (by decide +kernel)
        (by decide)
        (reportsOf_carries usbGeometry setSettingsRequest)).mpr ?_⟩
  exact Or.inl (by decide +kernel)

/--
A host that gives up SET_SETTINGS after its first packet is refused when it
asks for the features next.
-/
theorem abandoned_request_blocks :
    ¬ ∀ (history : List SessionEvent) (session : Session Unit)
        (transfer : Transfer) (reports : List Report),
      run (sessionStep usbGeometry plainOptions idleServices)
          (Session.start plainOptions ()) history = some session →
        session.ctx.busy = false →
          transfer.totalLen.toNat ≤ plainOptions.rxBufferSize →
            List.Forall₂ (Carries usbGeometry) reports
                (transfer.packets usbGeometry) →
              Accepts usbGeometry plainOptions session.ctx transfer
                reports := by
  intro always
  rcases
      abandoned_after_first usbGeometry plainOptions idleServices ()
        setSettingsRequest (by decide) (by decide) with
    ⟨session, ran, free, receiving⟩
  have carried := reportsOf_carries usbGeometry getFeaturesRequest
  have accepts :=
    (accepts_iff (ready_of_run ran) free (by decide) carried).mp
      (always _ session getFeaturesRequest _ ran free (by decide) carried)
  rcases accepts with inactive | pinned
  · exact absurd receiving.tracks.active (by simp [inactive])
  · exact
      absurd (receiving.totalLen.symm.trans pinned.totalLen) (by decide)

end YkbFirmware.VendorHid.Recovery
