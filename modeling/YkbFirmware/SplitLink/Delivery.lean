import YkbFirmware.SplitLink.Link

/-!
# Undisturbed stretches of a run

A transmitting slot whose packets are all taken by the transport puts the whole
transfer on the link, in index order.  A receiving slot which is then given
packets that read like those of one transfer, in index order, hands over the
payload of that transfer.  The second statement does not ask which transfers
the packets were sent for.
-/

namespace YkbFirmware.SplitLink.Delivery

open YkbFirmware.Library.ByteMemory
open YkbFirmware.Library.TransitionSystem
open YkbFirmware.Protocol.Wire
open YkbFirmware.Protocol.Sender
open YkbFirmware.SplitLink.Slots
open YkbFirmware.SplitLink.TransmitSlot
open YkbFirmware.SplitLink.ReceiveSlot
open YkbFirmware.SplitLink.Link

variable
    {options : SplitlinkOptions} {receiver : SyncRole} {name : SlotName}
    {transfer : Transfer} {state : LinkState} {index : Nat}

/-! ## Transmitting -/

/-- The frame a transfer puts on the link at `index`. -/
def sentFrameAt
    (options : SplitlinkOptions) (name : SlotName) (transfer : Transfer)
    (index : Nat) : SentFrame :=
  ⟨name, transfer, frameAt options.geometry transfer index⟩

/-- The slot is scheduled to send `index` next, with nothing pending. -/
structure Sending
    (options : SplitlinkOptions) (name : SlotName) (transfer : Transfer)
    (side : TxSide) (index : Nat) : Prop where
  transmits : Transmits options name side.slot index
  transfer : transferOf name side.slot = transfer
  scheduled : side.slot.scheduled = true
  quiet : side.pending.ready = false

/-- Without a pending copy or a pending script, `out` does nothing. -/
theorem txSlotOut_quiet
    {connected : Bool} {side : TxSide}
    (quiet : side.pending.ready = false) :
    txSlotOut options name connected none side = side := by
  cases name with
  | values | battery =>
      rw [txSlotOut, if_neg]
      rintro ⟨ready, _⟩
      rw [quiet] at ready
      cases ready
  | scriptSlot =>
      rw [txSlotOut, scriptSlotSyncKickLocked, ite_self]
  | settings | scriptsManifest | scriptsRequest => rfl

/-- One packet taken by the transport. -/
theorem transmitOn_ok
    {connected : Bool} {side : TxSide}
    (sending : Sending options name transfer side index) :
    ∃ next,
      transmitOn options connected name .ok none side =
          (next, [sentFrameAt options name transfer index]) ∧
        (index + 1 < transfer.count options.geometry →
          Sending options name transfer next (index + 1)) ∧
        (index + 1 = transfer.count options.geometry →
          next.slot.state = .empty ∧ next.pending.ready = false) := by
  have running :
      Transmits options name { side.slot with scheduled := false } index :=
    ⟨sending.transmits.state, sending.transmits.within,
      sending.transmits.position⟩
  have own :
      transferOf name { side.slot with scheduled := false } = transfer :=
    sending.transfer
  have step := txSlotWorkHandler_step running .ok
  rw [transmitOn]
  dsimp only
  generalize
    txSlotWorkHandler options { side.slot with scheduled := false } .ok =
      outcome at step
  rw [sending.transfer]
  cases step with
  | kept retried => rcases retried with wrong | wrong <;> cases wrong
  | @advanced next transmits same scheduled =>
      rw [own]
      refine ⟨_, rfl, fun _ => ?_, fun last => ?_⟩
      · exact ⟨transmits, same.trans own, scheduled, sending.quiet⟩
      · have within := transmits.within
        rw [same, own] at within
        exact absurd last (Nat.ne_of_lt within)
  | @finished next last empty =>
      have settled :=
        @txSlotOut_quiet options name connected ⟨next, side.pending⟩
          sending.quiet
      rw [own] at last ⊢
      rw [if_pos rfl]
      exact
        ⟨_, Prod.ext settled rfl,
          fun more => absurd last (Nat.ne_of_lt more),
          fun _ => ⟨empty, sending.quiet⟩⟩

/-- With every packet taken, the rest of the transfer reaches the link. -/
theorem run_transmit_rest
    (receiver : SyncRole) (remaining : Nat)
    (sending : Sending options name transfer (state.tx name) index)
    (ends : index + remaining = transfer.count options.geometry) :
    ∃ side,
      side.slot.state = .empty ∧ side.pending.ready = false ∧
        run (linkStep options receiver) state
            (List.replicate remaining (.transmit name .ok none)) =
          some
            { state with
              tx := Function.update state.tx name side
              sent :=
                state.sent ++
                  (List.range' index remaining).map
                    (sentFrameAt options name transfer) } := by
  induction remaining generalizing state index with
  | zero =>
      have within := sending.transmits.within
      rw [sending.transfer] at within
      exact absurd ends (Nat.ne_of_lt within)
  | succ remaining induction =>
      rcases @transmitOn_ok options name transfer index state.connected _
          sending with
        ⟨next, transmitted, more, last⟩
      have stepped :
          linkStep options receiver state (.transmit name .ok none) =
            some
              { state with
                tx := Function.update state.tx name next
                sent :=
                  state.sent ++ [sentFrameAt options name transfer index] } := by
        rw [linkStep, if_pos sending.scheduled, transmitted]
      rw [List.replicate_succ, run_cons, stepped, Option.bind_some]
      cases remaining with
      | zero =>
          have finished := last ends
          exact ⟨next, finished.1, finished.2, rfl⟩
      | succ remaining =>
          have sendingNext :
              Sending options name transfer
                (Function.update state.tx name next name) (index + 1) := by
            rw [Function.update_self]
            exact more (by omega)
          rcases @induction
              { state with
                tx := Function.update state.tx name next
                sent :=
                  state.sent ++ [sentFrameAt options name transfer index] }
              (index + 1) sendingNext (by omega) with
            ⟨side, empty, quiet, ran⟩
          refine ⟨side, empty, quiet, ?_⟩
          rw [ran, Function.update_idem]
          simp [List.range'_succ]

/-- A transfer begun on an EMPTY slot reaches the link as a whole. -/
theorem run_transfer
    (receives : receiver.receives name = true)
    {data : Memory} {count length : UInt16}
    (quiet : (state.tx name).pending.ready = false)
    (begun :
      sendOn options state.connected name data count (state.tx name) =
        ⟨startTransfer options name (state.tx name).slot data length,
          (state.tx name).pending⟩) :
    ∃ side transfer,
      side.slot.state = .empty ∧ side.pending.ready = false ∧
        transfer.payload = data.readBlock 0 length.toNat ∧
        (∃ stored, transfer = slotTransfer name stored length) ∧
        run (linkStep options receiver) state
            (.send name data count ::
              List.replicate (transfer.count options.geometry)
                (.transmit name .ok none)) =
          some
            { state with
              tx := Function.update state.tx name side
              sent :=
                state.sent ++
                  (List.range (transfer.count options.geometry)).map
                    (sentFrameAt options name transfer) } := by
  let slot := startTransfer options name (state.tx name).slot data length
  have sending :
      Sending options name (transferOf name slot)
        (Function.update state.tx name ⟨slot, (state.tx name).pending⟩ name)
        0 := by
    rw [Function.update_self]
    exact
      ⟨startTransfer_transmits options name _ data length, rfl, rfl, quiet⟩
  rcases @run_transmit_rest options name (transferOf name slot)
      { state with
        tx := Function.update state.tx name ⟨slot, (state.tx name).pending⟩ }
      0 receiver _ sending (Nat.zero_add _) with
    ⟨side, empty, sideQuiet, ran⟩
  refine
    ⟨side, transferOf name slot, empty, sideQuiet,
      startTransfer_payload options name _ data length, ⟨_, rfl⟩, ?_⟩
  rw [run_cons, linkStep, if_pos receives, begun, Option.bind_some, ran,
    Function.update_idem, List.range_eq_range']

/-! ## Receiving -/

/-- The packet at `position` of the link reads like `transfer` at `index`. -/
def ReadsLike
    (options : SplitlinkOptions) (sent : List SentFrame) (name : SlotName)
    (transfer : Transfer) (position index : Nat) : Prop :=
  ∃ frame,
    sent[position]? = some frame ∧ frame.name = name ∧
      FrameIntact options frame ∧
        packetAt (Memory.ofList frame.bytes) =
          transfer.packet options.geometry index

/-- The other half takes one more packet. -/
theorem step_deliver
    (receives : receiver.receives name = true)
    {position : Nat}
    (reads :
      ReadsLike options state.sent name transfer position index)
    (within : index < transfer.count options.geometry)
    (upTo : UpTo options name transfer (state.rx name) index) :
    ∃ next,
      linkStep options receiver state (.deliver position) = some next ∧
        next.sent = state.sent ∧ next.messages = state.messages ∧
          UpTo options name transfer (next.rx name) (index + 1) := by
  rcases reads with ⟨frame, found, rfl, intact, packet⟩
  refine
    ⟨state.deliver options receiver frame, by rw [linkStep, found]; rfl, rfl,
      rfl, ?_⟩
  rw [LinkState.deliver, onReceive_frame intact receives]
  dsimp only
  rw [Function.update_self, packet]
  exact upTo_next upTo within

/-- Packets in index order complete the slot. -/
theorem run_deliver_rest
    (receives : receiver.receives name = true)
    (positions : Nat → Nat) (remaining : Nat)
    (reads :
      ∀ index < transfer.count options.geometry,
        ReadsLike options state.sent name transfer (positions index) index)
    (upTo : UpTo options name transfer (state.rx name) index)
    (ends : index + remaining = transfer.count options.geometry) :
    ∃ next,
      run (linkStep options receiver) state
          ((List.range' index remaining).map fun position =>
            .deliver (positions position)) = some next ∧
        next.sent = state.sent ∧ next.messages = state.messages ∧
          UpTo options name transfer (next.rx name)
            (transfer.count options.geometry) := by
  induction remaining generalizing state index with
  | zero =>
      rw [Nat.add_zero] at ends
      exact ⟨state, rfl, rfl, rfl, ends ▸ upTo⟩
  | succ remaining induction =>
      have within : index < transfer.count options.geometry := by omega
      rcases step_deliver receives (reads index within) within upTo with
        ⟨next, stepped, sent, messages, upToNext⟩
      rcases induction (sent ▸ reads) upToNext (by omega) with
        ⟨final, ran, sentRest, messagesRest, full⟩
      refine
        ⟨final, ?_, sentRest.trans sent, messagesRest.trans messages, full⟩
      rw [List.range'_succ, List.map_cons, run_cons, stepped,
        Option.bind_some]
      exact ran

/-- A complete slot hands the payload to its consumer. -/
theorem run_handOver
    (length : MessageLength options name transfer.totalLen)
    (full :
      UpTo options name transfer (state.rx name)
        (transfer.count options.geometry)) :
    ∃ final,
      run (linkStep options receiver) state
          [.process name, .handOver name] = some final ∧
        final.sent = state.sent ∧
          final.messages = state.messages ++ [(name, transfer.payload)] := by
  generalize taken : transfer.count options.geometry = count at full
  cases full with
  | start => exact absurd taken (Nat.ne_of_gt (Transfer.count_pos _ _))
  | middle _ within => exact absurd taken (Nat.ne_of_gt within)
  | full ready submitted receiving =>
      have handed :
          handedMessage options name (rxSlotWorkStart (state.rx name)) =
            transfer.payload :=
        @handedMessage_eq options name (rxSlotWorkStart (state.rx name))
          transfer receiving length
      let begun : LinkState :=
        { state with
          rx :=
            Function.update state.rx name
              (rxSlotWorkStart (state.rx name)) }
      have slot : begun.rx name = rxSlotWorkStart (state.rx name) :=
        Function.update_self _ _ _
      have started :
          linkStep options receiver state (.process name) = some begun :=
        if_pos submitted
      have ended :
          linkStep options receiver begun (.handOver name) =
            some
              { begun with
                rx :=
                  Function.update begun.rx name
                    (rxSlotWorkFinish (begun.rx name))
                messages :=
                  begun.messages ++
                    [(name, handedMessage options name (begun.rx name))] } :=
        if_pos (by rw [slot]; rfl)
      rw [slot, handed] at ended
      rw [run_cons, started, Option.bind_some, run_cons, ended,
        Option.bind_some, run_nil]
      exact ⟨_, rfl, rfl, rfl⟩

/-- An EMPTY slot with room hands over what reads like a transfer. -/
theorem run_receive
    (receives : receiver.receives name = true)
    (positions : Nat → Nat)
    (reads :
      ∀ index < transfer.count options.geometry,
        ReadsLike options state.sent name transfer (positions index) index)
    (empty : (state.rx name).state = .empty)
    (fits : Fits options name transfer)
    (length : MessageLength options name transfer.totalLen) :
    ∃ final,
      run (linkStep options receiver) state
          ((List.range (transfer.count options.geometry)).map
              (fun index => .deliver (positions index)) ++
            [.process name, .handOver name]) = some final ∧
        final.sent = state.sent ∧
          final.messages = state.messages ++ [(name, transfer.payload)] := by
  rcases run_deliver_rest receives positions _ reads (.start empty fits)
      (Nat.zero_add _) with
    ⟨complete, delivered, sent, messages, full⟩
  rcases @run_handOver options receiver name transfer complete length full with
    ⟨final, handed, sentRest, messagesRest⟩
  refine ⟨final, ?_, sentRest.trans sent, messages ▸ messagesRest⟩
  rw [run_append, List.range_eq_range', delivered, Option.bind_some, handed]

/-! ## Settings -/

/-- Settings sent on an idle slot start their transfer at once. -/
theorem sendOn_settings
    {side : TxSide} {data : Memory} {count : UInt16}
    (empty : side.slot.state = .empty) :
    sendOn options true .settings data count side =
      ⟨startTransfer options .settings side.slot data options.kbSettingsSize,
        side.pending⟩ :=
  congrArg (fun slot => (⟨slot, side.pending⟩ : TxSide))
    (sendOrLogBusy_empty empty data)

end YkbFirmware.SplitLink.Delivery
