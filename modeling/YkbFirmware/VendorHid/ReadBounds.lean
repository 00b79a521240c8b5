import YkbFirmware.Protocol.ReceiverStep
import YkbFirmware.VendorHid.Protocol

/-!
# What the parser reads of a report

`vendor_hid_protocol_parse` casts a report to a packet once it is as long as a
header.  How many payload bytes are read after that is decided by the header:
the checksum is computed over the length the header announces, and storing
the packet copies that many bytes again.
-/

namespace YkbFirmware.VendorHid.ReadBounds

open YkbFirmware.Library.ByteMemory
open YkbFirmware.Protocol.Wire
open YkbFirmware.Protocol.Receiver
open YkbFirmware.Protocol.ReceiverInvariant
open YkbFirmware.Protocol.ReceiverStep
open YkbFirmware.VendorHid.Protocol

/-! ## The bytes read -/

/-- A block of the report that is read. -/
structure ReadBlock where
  offset : Nat
  length : Nat
deriving DecidableEq, Repr

/-- A read of the payload as a block of the report. -/
def readBlock? : Access → Option ReadBlock
  | .readPayload length => some ⟨headerSize, length⟩
  | _ => none

/-- The blocks of `data` that one call of the parser reads. -/
def parseReads
    (geometry : PacketGeometry)
    (ctx : VendorHidProtocolCtx) (report : Report) : List ReadBlock :=
  match parseGuard ctx report with
  | some _ => []
  | none =>
      ⟨0, headerSize⟩ ::
        (parsePush geometry ctx report).accesses.filterMap readBlock?

/-- Every byte the call reads has an index below the report's length. -/
def ReadsInside
    (geometry : PacketGeometry)
    (ctx : VendorHidProtocolCtx) (report : Report) : Prop :=
  ∀ block ∈ parseReads geometry ctx report,
    ∀ index, block.offset ≤ index → index < block.offset + block.length →
      index < report.len

/--
The payload a valid DATA header announces for the packet is part of the
report, if the call gets to look at the header.
-/
def CarriesAnnounced
    (geometry : PacketGeometry)
    (ctx : VendorHidProtocolCtx) (report : Report) : Prop :=
  let header := (packetAt report.data).header
  ctx.busy = false → headerSize ≤ report.len →
    ykbProtocolIsHeaderValid geometry header = true →
      ykbProtocolGetType header.typeFlags = YkbProtocolType.data.code →
        headerSize + (crcPayloadLen geometry header).toNat ≤ report.len

/-! ## Payload reads of a push -/

section Push

variable
    {geometry : PacketGeometry}
    {rx : YkbProtocolRxState} {packet : YkbProtocolPacket} {length : Nat}

theorem readPayload_mem_bitmapAccesses (idx : UInt16) :
    Access.readPayload length ∉ bitmapAccesses rx idx := by
  rw [bitmapAccesses]
  split_ifs <;> simp

/-- Storing a packet copies its payload length. -/
theorem readPayload_mem_storePacket
    (member :
      Access.readPayload length ∈ (storePacket geometry rx packet).accesses) :
    length = (rxPayloadLen geometry rx packet.header.packetIdx).toNat := by
  have untested :=
    @readPayload_mem_bitmapAccesses rx length packet.header.packetIdx
  have copied :
      Access.readPayload length ∈ storeAccesses geometry rx packet →
        length = (rxPayloadLen geometry rx packet.header.packetIdx).toNat := by
    intro stored
    rw [storeAccesses, List.mem_append, List.mem_append, copyAccesses]
      at stored
    rcases stored with (tested | copied) | tested
    · exact absurd tested untested
    · split_ifs at copied
      · simpa using copied
      · cases copied
    · exact absurd tested untested
  rw [storePacket] at member
  dsimp only at member
  split_ifs at member
  · cases member
  · exact absurd member untested
  · exact absurd member untested
  · exact copied member
  · exact copied member
  · exact copied member

theorem readPayload_mem_begin :
    Access.readPayload length ∉
      (ykbProtocolRxBeginTransfer rx packet).accesses := by
  rw [ykbProtocolRxBeginTransfer]
  dsimp only
  split_ifs <;> simp

/-- On the packet's own transfer both lengths are the same. -/
theorem rxPayloadLen_eq_crcPayloadLen
    (same : sameTransfer rx packet.header = true) :
    rxPayloadLen geometry rx packet.header.packetIdx =
      crcPayloadLen geometry packet.header := by
  have parameters := of_decide_eq_true same
  rw [rxPayloadLen, parameters.2.1, parameters.2.2.1]
  rfl

/--
A push reads the payload of valid DATA headers, and all its reads have the
length the checksum is computed over.
-/
theorem readPayload_mem_push :
    Access.readPayload length ∈
        (ykbProtocolRxPushPacket geometry rx packet).accesses ↔
      ykbProtocolIsHeaderValid geometry packet.header = true ∧
        ykbProtocolGetType packet.header.typeFlags =
          YkbProtocolType.data.code ∧
        length = (crcPayloadLen geometry packet.header).toNat := by
  rw [ykbProtocolRxPushPacket]
  dsimp only
  by_cases valid : ykbProtocolIsHeaderValid geometry packet.header = true
  case neg => simp [valid]
  by_cases isData :
      ykbProtocolGetType packet.header.typeFlags = YkbProtocolType.data.code
  case neg => simp [valid, isData]
  rw [if_neg (by simp [valid]), if_neg (not_not.mpr isData)]
  -- past these tests every branch begins with the read for the checksum
  have stored :
      ∀ (state : YkbProtocolRxState) (before : List Access),
        sameTransfer state packet.header = true →
          Access.readPayload length ∉ before →
            (Access.readPayload length ∈
                ((storePacket geometry state packet).after
                  (.readPayload (crcPayloadLen geometry packet.header).toNat ::
                    before)).accesses ↔
              length = (crcPayloadLen geometry packet.header).toNat) := by
    intro state before same unread
    rw [RxOutcome.after, List.cons_append, List.mem_cons, List.mem_append]
    constructor
    · rintro (checked | early | copied)
      · exact Access.readPayload.inj checked
      · exact absurd early unread
      · rw [readPayload_mem_storePacket copied,
          rxPayloadLen_eq_crcPayloadLen same]
    · rintro rfl
      exact .inl rfl
  have outcome :
      ∀ {accesses : List Access},
        (Access.readPayload length ∈ accesses ↔
          length = (crcPayloadLen geometry packet.header).toNat) →
        (Access.readPayload length ∈ accesses ↔
          ykbProtocolIsHeaderValid geometry packet.header = true ∧
            ykbProtocolGetType packet.header.typeFlags =
              YkbProtocolType.data.code ∧
            length = (crcPayloadLen geometry packet.header).toNat) := by
    intro accesses reads
    rw [reads]
    exact ⟨fun same => ⟨valid, isData, same⟩, fun all => all.2.2⟩
  apply outcome
  split_ifs with crcDiffers resting begunError other
  · simp
  · rw [RxOutcome.after, List.mem_append, or_iff_left readPayload_mem_begin]
    simp
  · exact
      stored _ _ (begin_sameTransfer (by simpa using begunError))
        readPayload_mem_begin
  · simp
  · exact stored rx [] (by simpa using other) List.not_mem_nil

end Push

/-! ## The parser -/

section Parser

variable
    {geometry : PacketGeometry}
    {ctx : VendorHidProtocolCtx} {report : Report}

/-- A call past the guards reads the header, and the announced payload. -/
theorem mem_parseReads {block : ReadBlock} :
    block ∈ parseReads geometry ctx report ↔
      parseGuard ctx report = none ∧
        (block = ⟨0, headerSize⟩ ∨
          ykbProtocolIsHeaderValid geometry (packetAt report.data).header =
              true ∧
            ykbProtocolGetType (packetAt report.data).header.typeFlags =
              YkbProtocolType.data.code ∧
            block =
              ⟨headerSize,
                (crcPayloadLen geometry
                  (packetAt report.data).header).toNat⟩) := by
  rw [parseReads]
  cases guarded : parseGuard ctx report with
  | some returned => simp
  | none =>
      simp only [List.mem_cons, List.mem_filterMap, true_and]
      apply or_congr_right
      constructor
      · rintro ⟨access, member, found⟩
        cases access with
        | readPayload length =>
            rcases readPayload_mem_push.mp member with ⟨valid, isData, same⟩
            refine ⟨valid, isData, ?_⟩
            rw [← Option.some.inj found, same]
        | writeBuffer => cases found
        | bitmapByte => cases found
        | clearBitmap => cases found
      · rintro ⟨valid, isData, rfl⟩
        exact ⟨_, readPayload_mem_push.mpr ⟨valid, isData, rfl⟩, rfl⟩

theorem parseGuard_eq_none_iff :
    parseGuard ctx report = none ↔
      ctx.busy = false ∧ headerSize ≤ report.len := by
  rw [parseGuard]
  split_ifs with busy short
  · simp [busy]
  · simp [Nat.not_le.mpr short]
  · exact
      iff_of_true rfl ⟨Bool.eq_false_of_not_eq_true busy, Nat.not_lt.mp short⟩

end Parser

/--
For every context and every report, the parser reads only bytes of the report
if and only if the report is as long as the payload announced by its header
requires.
-/
theorem parser_reads_inside_iff
    (geometry : PacketGeometry)
    (ctx : VendorHidProtocolCtx) (report : Report) :
    ReadsInside geometry ctx report ↔
      CarriesAnnounced geometry ctx report := by
  constructor
  · intro inside free long valid isData
    have passes := parseGuard_eq_none_iff.mpr ⟨free, long⟩
    have read :=
      mem_parseReads.mpr ⟨passes, .inr ⟨valid, isData, rfl⟩⟩
    -- the last announced byte, if there is one, is read
    by_contra short
    rw [Nat.not_le] at short
    have last := inside _ read report.len long short
    exact Nat.lt_irrefl _ last
  · intro carries block member index above below
    rcases mem_parseReads.mp member with ⟨passes, header | payload⟩
    · subst header
      rw [Nat.zero_add] at below
      exact below.trans_le (parseGuard_eq_none_iff.mp passes).2
    · rcases payload with ⟨valid, isData, rfl⟩
      rcases parseGuard_eq_none_iff.mp passes with ⟨free, long⟩
      exact below.trans_le (carries free long valid isData)

/-- A header without payload that announces one byte. -/
def headerOnlyReport : Report where
  data := Memory.ofList [0, 0, 1, 0, 0, 0, 0, 1, 0, 1, 0]
  len := 11

/-- A report of one header announcing one byte is read beyond its end. -/
theorem short_report_read_beyond_end :
    ¬ ∀ (ctx : VendorHidProtocolCtx) (report : Report),
      ReadsInside usbGeometry ctx report := by
  intro always
  have inside :=
    always (vendorHidProtocolInit plainOptions) headerOnlyReport
  have read :
      (⟨11, 1⟩ : ReadBlock) ∈
        parseReads usbGeometry (vendorHidProtocolInit plainOptions)
          headerOnlyReport :=
    mem_parseReads.mpr ⟨by decide, .inr ⟨by decide, by decide, by decide⟩⟩
  exact absurd (inside _ read 11 le_rfl (by decide)) (by decide)

end YkbFirmware.VendorHid.ReadBounds
