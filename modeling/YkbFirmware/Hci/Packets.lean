import Mathlib.Tactic.SplitIfs
import YkbFirmware.Library.ByteMemory

/-!
# Packets from the host

The network core hosts the Bluetooth controller, and the application core its
host stack.  A message from there is a packet indicator, a header and a
payload whose length the header tells.  `hci_ipc_cmd_recv` and its two
siblings take a buffer for the packet before they look at this length, and
give it back if the length is wrong.

An empty message makes `remaining` wrap around, and the indicator is then read
from what an earlier message has left in the block.  No header tells such a
length, so that the message is refused all the same.
-/

namespace YkbFirmware.Hci.Packets

open YkbFirmware.Library.ByteMemory

/-! ## Buffers -/

/-- `BT_BUF_CMD`, `BT_BUF_ACL_OUT` and `BT_BUF_ISO_OUT` -/
inductive BufType where
  | cmd
  | aclOut
  | isoOut
deriving DecidableEq, Repr

/-- `struct net_buf` -/
structure NetBuf where
  type : BufType
  data : List UInt8
deriving DecidableEq, Repr

/-- The buffers of each type: how many are free, and how much fits in one. -/
structure Pools where
  free : BufType → Nat
  room : BufType → Nat

namespace Pools

/-- `bt_buf_get_tx` without waiting. -/
def btBufGetTx (pools : Pools) (type : BufType) (data : List UInt8) :
    Option (NetBuf × Pools) :=
  if pools.free type = 0 ∨ pools.room type < data.length then
    none
  else
    let free := Function.update pools.free type (pools.free type - 1)
    some (⟨type, data⟩, { pools with free := free })

/-- `net_buf_unref` -/
def netBufUnref (pools : Pools) (buf : NetBuf) : Pools :=
  let free := Function.update pools.free buf.type (pools.free buf.type + 1)
  { pools with free := free }

/-- `net_buf_tailroom` -/
def netBufTailroom (pools : Pools) (buf : NetBuf) : Nat :=
  pools.room buf.type - buf.data.length

end Pools

/-! ## Formats -/

/-- A kind of packet: its indicator, and where its header has the length. -/
structure PacketFormat where
  indicator : UInt8
  type : BufType
  headerSize : Nat
  payloadLength : List UInt8 → Nat

/-- `sys_le16_to_cpu` of two bytes of a header. -/
def le16 (header : List UInt8) (offset : Nat) : Nat :=
  (header.getD offset 0).toNat + 256 * (header.getD (offset + 1) 0).toNat

/-- `HCI_IPC_CMD` and `struct bt_hci_cmd_hdr` -/
def cmdFormat : PacketFormat where
  indicator := 0x01
  type := .cmd
  headerSize := 3
  payloadLength header := (header.getD 2 0).toNat

/-- `HCI_IPC_ACL` and `struct bt_hci_acl_hdr` -/
def aclFormat : PacketFormat where
  indicator := 0x02
  type := .aclOut
  headerSize := 4
  payloadLength header := le16 header 2

/-- `HCI_IPC_ISO` and `struct bt_hci_iso_hdr` -/
def isoFormat : PacketFormat where
  indicator := 0x05
  type := .isoOut
  headerSize := 4
  payloadLength header := le16 header 2 % 2 ^ 14

/-! ## Reception -/

/-- What `hci_ipc_cmd_recv`, `hci_ipc_acl_recv` and `hci_ipc_iso_recv` do. -/
def hciIpcRecv
    (format : PacketFormat) (pools : Pools) (data : Memory)
    (remaining : Nat) : Option NetBuf × Pools :=
  if remaining < format.headerSize then
    (none, pools)
  else
    let header := data.readBlock 0 format.headerSize
    match pools.btBufGetTx format.type header with
    | none => (none, pools)
    | some (buf, pools) =>
        let remaining := remaining - format.headerSize
        if remaining ≠ format.payloadLength header then
          (none, pools.netBufUnref buf)
        else if remaining > pools.netBufTailroom buf then
          (none, pools.netBufUnref buf)
        else
          let payload := data.readBlock format.headerSize remaining
          (some { buf with data := buf.data ++ payload }, pools)

/-- `hci_ipc_cmd_recv` -/
def hciIpcCmdRecv := hciIpcRecv cmdFormat

/-- `hci_ipc_acl_recv` -/
def hciIpcAclRecv := hciIpcRecv aclFormat

/-- `hci_ipc_iso_recv` -/
def hciIpcIsoRecv := hciIpcRecv isoFormat

/-- The `switch` of `queue_thread`, on a block and its length. -/
def parseBlock (pools : Pools) (block : Memory) (len : UInt32) :
    Option NetBuf × Pools :=
  let data := block.shift 1
  let remaining := (len - 1).toNat
  if block 0 = 0x01 then
    hciIpcCmdRecv pools data remaining
  else if block 0 = 0x02 then
    hciIpcAclRecv pools data remaining
  else if block 0 = 0x05 then
    hciIpcIsoRecv pools data remaining
  else
    (none, pools)

/-! ## Well-formed packets -/

def BufType.format : BufType → PacketFormat
  | .cmd => cmdFormat
  | .aclOut => aclFormat
  | .isoOut => isoFormat

/-- A packet as the message it comes in. -/
def NetBuf.message (buf : NetBuf) : List UInt8 :=
  buf.type.format.indicator :: buf.data

/-- The header tells how much follows it, and all of it fits in a buffer. -/
structure NetBuf.WellFormed (room : BufType → Nat) (buf : NetBuf) : Prop where
  header : buf.type.format.headerSize ≤ buf.data.length
  payload :
    buf.data.length - buf.type.format.headerSize =
      buf.type.format.payloadLength
        (buf.data.take buf.type.format.headerSize)
  fits : buf.data.length ≤ room buf.type

instance (room : BufType → Nat) (buf : NetBuf) :
    Decidable (buf.WellFormed room) :=
  decidable_of_iff
    (buf.type.format.headerSize ≤ buf.data.length ∧
      buf.data.length - buf.type.format.headerSize =
        buf.type.format.payloadLength
          (buf.data.take buf.type.format.headerSize) ∧
      buf.data.length ≤ room buf.type)
    ⟨fun all => ⟨all.1, all.2.1, all.2.2⟩,
      fun formed => ⟨formed.header, formed.payload, formed.fits⟩⟩

/-- The type a packet indicator stands for. -/
def indicated (indicator : UInt8) : Option BufType :=
  if indicator = 0x01 then
    some .cmd
  else if indicator = 0x02 then
    some .aclOut
  else if indicator = 0x05 then
    some .isoOut
  else
    none

/-- The packet that a message is. -/
def packetOf (room : BufType → Nat) : List UInt8 → Option NetBuf
  | [] => none
  | indicator :: data =>
      (indicated indicator).bind fun type =>
        if NetBuf.WellFormed room ⟨type, data⟩ then
          some ⟨type, data⟩
        else
          none

/-- The type a format is of. -/
@[simp]
theorem format_type (type : BufType) : type.format.type = type := by
  cases type <;> rfl

theorem indicated_indicator (type : BufType) :
    indicated type.format.indicator = some type := by
  cases type <;> rfl

theorem indicator_of_indicated
    {indicator : UInt8} {type : BufType}
    (isType : indicated indicator = some type) :
    indicator = type.format.indicator := by
  rw [indicated] at isType
  split_ifs at isType with cmd acl iso
  · cases isType
    exact cmd
  · cases isType
    exact acl
  · cases isType
    exact iso

/-- A message is read as a packet exactly if it was written as that one. -/
theorem packetOf_eq_some_iff
    {room : BufType → Nat} {message : List UInt8} {buf : NetBuf} :
    packetOf room message = some buf ↔
      message = buf.message ∧ buf.WellFormed room := by
  constructor
  · intro read
    cases message with
    | nil => cases read
    | cons indicator data =>
        rw [packetOf] at read
        rcases Option.bind_eq_some_iff.mp read with ⟨type, isType, formed⟩
        split_ifs at formed with wellFormed
        cases formed
        refine ⟨?_, wellFormed⟩
        rw [NetBuf.message, indicator_of_indicated isType]
  · rintro ⟨rfl, wellFormed⟩
    rw [NetBuf.message, packetOf, indicated_indicator, Option.bind_some]
    exact if_pos wellFormed

/-! ## The buffers a message takes -/

/-- A buffer of the type is taken. -/
def Pools.take (pools : Pools) (type : BufType) : Pools :=
  let free := Function.update pools.free type (pools.free type - 1)
  { pools with free := free }

theorem Pools.netBufUnref_take
    {pools : Pools} {buf : NetBuf} (some : pools.free buf.type ≠ 0) :
    (pools.take buf.type).netBufUnref buf = pools := by
  have back : pools.free buf.type - 1 + 1 = pools.free buf.type :=
    Nat.succ_pred_eq_of_ne_zero some
  rw [take, netBufUnref]
  dsimp only
  rw [Function.update_self, Function.update_idem, back,
    Function.update_eq_self]

/-- A packet in memory is well-formed if its length and size are right. -/
theorem wellFormed_readBlock_iff
    {type : BufType} {room : BufType → Nat} {data : Memory} {rest : Nat} :
    NetBuf.WellFormed room
        ⟨type, data.readBlock 0 (type.format.headerSize + rest)⟩ ↔
      rest =
          type.format.payloadLength
            (data.readBlock 0 type.format.headerSize) ∧
        type.format.headerSize + rest ≤ room type := by
  have header :
      (data.readBlock 0 (type.format.headerSize + rest)).take
          type.format.headerSize =
        data.readBlock 0 type.format.headerSize := by
    rw [Memory.readBlock_add]
    exact List.take_left' (Memory.readBlock_length ..)
  have length :
      (data.readBlock 0 (type.format.headerSize + rest)).length =
        type.format.headerSize + rest :=
    Memory.readBlock_length ..
  constructor
  · intro formed
    have payload := formed.payload
    have fits := formed.fits
    dsimp only at payload fits
    rw [length, header, Nat.add_sub_cancel_left] at payload
    rw [length] at fits
    exact ⟨payload, fits⟩
  · rintro ⟨payload, fits⟩
    refine ⟨?_, ?_, ?_⟩ <;> dsimp only
    · rw [length]
      exact Nat.le_add_right _ rest
    · rw [length, header, Nat.add_sub_cancel_left]
      exact payload
    · rw [length]
      exact fits

/--
A buffer stays taken exactly if the message is a packet and one was free.
-/
theorem hciIpcRecv_eq
    (type : BufType) (pools : Pools) (data : Memory) (remaining : Nat) :
    hciIpcRecv type.format pools data remaining =
      if NetBuf.WellFormed pools.room ⟨type, data.readBlock 0 remaining⟩ ∧
          pools.free type ≠ 0 then
        (some ⟨type, data.readBlock 0 remaining⟩, pools.take type)
      else
        (none, pools) := by
  rw [hciIpcRecv]
  by_cases short : remaining < type.format.headerSize
  · have notFormed :
        ¬ NetBuf.WellFormed pools.room
          ⟨type, data.readBlock 0 remaining⟩ := by
      intro formed
      have header := formed.header
      dsimp only at header
      rw [Memory.readBlock_length] at header
      omega
    rw [if_pos short, if_neg fun both => notFormed both.1]
  · rcases Nat.le.dest (Nat.not_lt.mp short) with ⟨rest, rfl⟩
    have header :
        (data.readBlock 0 type.format.headerSize).length =
          type.format.headerSize :=
      Memory.readBlock_length ..
    rw [if_neg short]
    dsimp only
    rw [Pools.btBufGetTx, format_type, header, Nat.add_sub_cancel_left]
    by_cases none :
        pools.free type = 0 ∨ pools.room type < type.format.headerSize
    · rw [if_pos none]
      refine (if_neg ?_).symm
      rintro ⟨formed, some⟩
      have fits := (wellFormed_readBlock_iff.mp formed).2
      rcases none with empty | small
      · exact some empty
      · omega
    · rcases not_or.mp none with ⟨some, large⟩
      rw [if_neg none]
      have back :
          ({ pools with
              free :=
                Function.update pools.free type (pools.free type - 1) } :
            Pools).netBufUnref
              ⟨type, data.readBlock 0 type.format.headerSize⟩ = pools :=
        @Pools.netBufUnref_take pools
          ⟨type, data.readBlock 0 type.format.headerSize⟩ some
      dsimp only
      rw [back, Pools.netBufTailroom]
      dsimp only
      rw [header]
      by_cases wrong :
          rest ≠
            type.format.payloadLength
              (data.readBlock 0 type.format.headerSize)
      · rw [if_pos wrong]
        refine (if_neg fun all => ?_).symm
        exact wrong (wellFormed_readBlock_iff.mp all.1).1
      · have right := not_not.mp wrong
        rw [if_neg wrong]
        by_cases exceeds :
            rest > pools.room type - type.format.headerSize
        · rw [if_pos exceeds]
          refine (if_neg fun all => ?_).symm
          have fits := (wellFormed_readBlock_iff.mp all.1).2
          omega
        · have fits : type.format.headerSize + rest ≤ pools.room type := by
            omega
          have formed := wellFormed_readBlock_iff.mpr ⟨right, fits⟩
          rw [if_neg exceeds, if_pos ⟨formed, some⟩, Memory.readBlock_add,
            Nat.zero_add]
          rfl

/-- Every payload is shorter than two bytes can tell. -/
theorem payloadLength_lt (type : BufType) (header : List UInt8) :
    type.format.payloadLength header < 2 ^ 16 := by
  have low (offset : Nat) : (header.getD offset 0).toNat < 256 :=
    UInt8.toNat_lt _
  cases type with
  | cmd =>
      have := low 2
      show (header.getD 2 0).toNat < 2 ^ 16
      omega
  | aclOut =>
      have := low 2
      have := low 3
      show (header.getD 2 0).toNat + 256 * (header.getD 3 0).toNat < 2 ^ 16
      omega
  | isoOut =>
      show le16 header 2 % 2 ^ 14 < 2 ^ 16
      omega

/-- An empty message is none, whatever its block holds. -/
theorem not_wellFormed_wrapped
    (type : BufType) (room : BufType → Nat) (data : Memory) :
    ¬ NetBuf.WellFormed room ⟨type, data.readBlock 0 (2 ^ 32 - 1)⟩ := by
  intro formed
  have payload := formed.payload
  have bound :=
    payloadLength_lt type
      ((data.readBlock 0 (2 ^ 32 - 1)).take type.format.headerSize)
  dsimp only at payload
  rw [Memory.readBlock_length] at payload
  have size : type.format.headerSize ≤ 4 := by
    cases type <;> exact Nat.le_of_ble_eq_true rfl
  omega

/--
What `queue_thread` makes of a block: the packet that its message is, in a
buffer of its own, if one is free.
-/
theorem parseBlock_eq (pools : Pools) (block : Memory) (len : UInt32) :
    parseBlock pools block len =
      match packetOf pools.room (block.readBlock 0 len.toNat) with
      | none => (none, pools)
      | some buf =>
          if pools.free buf.type = 0 then
            (none, pools)
          else
            (some buf, pools.take buf.type) := by
  have received : parseBlock pools block len =
      match indicated (block 0) with
      | none => (none, pools)
      | some type =>
          hciIpcRecv type.format pools (block.shift 1) (len - 1).toNat := by
    rw [parseBlock, indicated]
    split_ifs <;> rfl
  by_cases empty : len = 0
  · subst empty
    have none :
        packetOf pools.room (block.readBlock 0 (0 : UInt32).toNat) = none :=
      rfl
    rw [none, received]
    cases indicated (block 0) with
    | none => rfl
    | some type =>
        dsimp only
        rw [hciIpcRecv_eq]
        refine if_neg fun all => ?_
        exact not_wellFormed_wrapped type pools.room (block.shift 1) all.1
  · have message :
        block.readBlock 0 len.toNat =
          block 0 :: (block.shift 1).readBlock 0 (len - 1).toNat := by
      have one : (1 : UInt32) ≤ len := by
        rw [UInt32.le_iff_toNat_le]
        exact Nat.pos_of_ne_zero fun zero =>
          empty (UInt32.toNat_inj.mp zero)
      have split : len.toNat = 1 + (len - 1).toNat := by
        rw [UInt32.toNat_sub_of_le len 1 one]
        exact
          (Nat.add_sub_cancel' (UInt32.le_iff_toNat_le.mp one)).symm
      rw [split, Memory.readBlock_add]
      have shifted :
          block.readBlock (0 + 1) (len - 1).toNat =
            (block.shift 1).readBlock 0 (len - 1).toNat :=
        Memory.readBlock_congr fun index _ => by
          rw [Memory.shift_apply, Nat.zero_add, Nat.zero_add]
      rw [shifted]
      rfl
    rw [message, packetOf, received]
    cases indicated (block 0) with
    | none => rfl
    | some type =>
        rw [Option.bind_some]
        dsimp only
        rw [hciIpcRecv_eq]
        by_cases formed :
            NetBuf.WellFormed pools.room
              ⟨type, (block.shift 1).readBlock 0 (len - 1).toNat⟩
        · rw [if_pos formed]
          dsimp only
          by_cases none : pools.free type = 0
          · rw [if_pos none, if_neg fun all => all.2 none]
          · rw [if_neg none, if_pos ⟨formed, none⟩]
        · rw [if_neg formed, if_neg fun all => formed all.1]

end YkbFirmware.Hci.Packets
