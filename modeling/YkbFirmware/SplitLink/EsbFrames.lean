import YkbFirmware.SplitLink.EsbLink

/-!
# Messages in packets

A message travels in one packet behind a byte that tells it from the packets
that only keep the link up.  The two sides agree on the packets, with one
exception: a transmitter takes no message of a single byte.
-/

namespace YkbFirmware.SplitLink.EsbFrames

open YkbFirmware.Esb.Driver (EsbPayload YkbEsbMode)
open YkbFirmware.Esb.Radio
  (EsbOptions YkbEsbData YkbEsbEvent einval payloadOf rxCallbacks)
open YkbFirmware.SplitLink.EsbLink

def ebusy : Int := 16

/-- The packet of a message. -/
def dataPacket (message : List UInt8) : YkbEsbData where
  data := flagData :: message
  len := UInt32.ofNat (message.length + 1)

/-- `alive_data` of `alive_work_handler`. -/
def alivePacket : YkbEsbData where
  data := [flagAlive]
  len := 1

/--
`splitlink_ykb_esb_send` up to its call of `ykb_esb_send`: an error, or the
packet.  Only a transmitter looks at its link.
-/
def splitlinkYkbEsbSend
    (mode : YkbEsbMode) (options : EsbOptions) (ready connected : Bool)
    (message : List UInt8) : Except Int YkbEsbData :=
  if message.length = 0 then
    .error (-einval)
  else if message.length > options.maxPayloadLength - 1 then
    .error (-einval)
  else
    match mode with
    | .prx => .ok (dataPacket message)
    | .ptx =>
        if ready = false then
          .error (-ebusy)
        else if connected = false then
          .error (-ebusy)
        else
          .ok (dataPacket message)

/-- The message a callback for the packet reports, if it reports one. -/
def reportedMessage (mode : YkbEsbMode) (packet : YkbEsbData) :
    Option (List UInt8) :=
  let payload := payloadOf packet
  messageOf mode payload.data payload.length.toNat

section Frames

variable
    {mode : YkbEsbMode} {options : EsbOptions} {ready connected : Bool}
    {message : List UInt8} {packet : YkbEsbData}

/-- A packet is made of a message that fits, and of no other. -/
theorem splitlinkYkbEsbSend_ok
    (sent :
      splitlinkYkbEsbSend mode options ready connected message =
        .ok packet) :
    packet = dataPacket message ∧ 0 < message.length ∧
      message.length + 1 ≤ options.maxPayloadLength := by
  cases mode with
  | prx =>
      rw [splitlinkYkbEsbSend] at sent
      split_ifs at sent
      cases sent
      exact ⟨rfl, by omega, by omega⟩
  | ptx =>
      rw [splitlinkYkbEsbSend] at sent
      split_ifs at sent
      cases sent
      exact ⟨rfl, by omega, by omega⟩

/-- No field of the packet loses anything of a message that fits. -/
theorem payloadOf_dataPacket
    (fits : message.length + 1 ≤ options.maxPayloadLength) :
    (payloadOf (dataPacket message)).data = flagData :: message ∧
      (payloadOf (dataPacket message)).length.toNat =
        message.length + 1 := by
  have short := options.lengthFits
  have length : (dataPacket message).len.toNat = message.length + 1 := by
    rw [dataPacket, UInt32.toNat_ofNat']
    exact Nat.mod_eq_of_lt (by omega)
  constructor
  · rw [payloadOf, length]
    exact List.take_of_length_le (Nat.le_refl _)
  · rw [payloadOf, UInt32.toNat_toUInt8, length]
    exact Nat.mod_eq_of_lt (by omega)

/-- What the other side makes of a packet of a message. -/
theorem reportedMessage_dataPacket
    (receiver : YkbEsbMode)
    (fits : message.length + 1 ≤ options.maxPayloadLength) :
    reportedMessage receiver (dataPacket message) =
      if message.length > (if receiver = .ptx then 1 else 0) then
        some message
      else
        none := by
  rcases payloadOf_dataPacket fits with ⟨data, length⟩
  have whole :
      ((flagData :: message).take (message.length + 1)).tail = message := by
    rw [← List.length_cons, List.take_length, List.tail_cons]
  cases receiver with
  | ptx =>
      rw [reportedMessage, messageOf, data, length, whole]
      refine if_congr ⟨fun more => ?_, fun more => ⟨?_, rfl⟩⟩ rfl rfl
      · exact Nat.succ_lt_succ_iff.mp more.1
      · exact Nat.succ_lt_succ_iff.mpr more
  | prx =>
      rw [reportedMessage, messageOf, data, length, whole]
      refine if_congr ⟨fun more => ?_, fun more => ⟨?_, rfl⟩⟩ rfl rfl
      · exact Nat.succ_lt_succ_iff.mp more.1
      · exact Nat.succ_lt_succ_iff.mpr more

/-- The packets that keep the link up carry no message. -/
theorem reportedMessage_alivePacket (receiver : YkbEsbMode) :
    reportedMessage receiver alivePacket = none := by
  cases receiver <;> decide

end Frames

/--
A message that is sent is reported by the other side as it was, unless it is a
single byte sent by the receiver; a packet that reports a message was sent for
that message; and no message is reported of a packet that keeps the link up.
-/
theorem message_round_trip
    (sender receiver : YkbEsbMode) (options : EsbOptions)
    (ready connected : Bool) (message : List UInt8) (packet : YkbEsbData)
    (sent :
      splitlinkYkbEsbSend sender options ready connected message =
        .ok packet) :
    (reportedMessage receiver packet = some message ↔
        receiver = .prx ∨ 1 < message.length) ∧
      (∀ other, reportedMessage receiver packet = some other →
        other = message) ∧
      reportedMessage receiver alivePacket = none := by
  rcases splitlinkYkbEsbSend_ok sent with ⟨rfl, some, fits⟩
  have reported := reportedMessage_dataPacket receiver fits
  refine ⟨?_, ?_, reportedMessage_alivePacket receiver⟩
  · rw [reported]
    cases receiver with
    | ptx => simp
    | prx => simp [some]
  · intro other same
    rw [reported] at same
    by_cases taken :
        message.length > (if receiver = YkbEsbMode.ptx then 1 else 0)
    · rw [if_pos taken] at same
      exact (Option.some.inj same).symm
    · rw [if_neg taken] at same
      cases same

/-- The longest message of a transmitter with payloads of four bytes. -/
theorem three_bytes_arrive :
    reportedMessage .prx (dataPacket [1, 2, 3]) = some [1, 2, 3] ↔
      YkbEsbMode.prx = .prx ∨ 1 < ([1, 2, 3] : List UInt8).length :=
  (message_round_trip .ptx .prx
    { mpsl := true
      mode := .ptx
      baseAddr0 := []
      baseAddr1 := []
      maxPayloadLength := 4
      lengthFits := by decide }
    true true [1, 2, 3] _ rfl).1

end YkbFirmware.SplitLink.EsbFrames
