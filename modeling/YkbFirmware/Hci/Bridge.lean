import Mathlib.Data.List.Perm.Subperm
import Mathlib.Data.List.Nodup
import YkbFirmware.Library.Conservation
import YkbFirmware.Hci.Packets

/-!
# The bridge between host and controller

Messages of the host arrive in blocks of the memory that both cores share.
`hci_ept_recv` is called back with one, holds its block and queues it.  A
first thread makes a packet of it and releases the block, and a second thread
passes the packets on to the controller.

A packet is dropped only when no buffer for it is free.  The queue has room
for every block there is, so it never refuses one.  A block that is held can
be released; an error of that would only be logged.
-/

namespace YkbFirmware.Hci.Bridge

open YkbFirmware.Library.ByteMemory
open YkbFirmware.Library.Conservation
open YkbFirmware.Library.TransitionSystem
open YkbFirmware.Hci.Packets

/-! ## State -/

/-- `struct ipc_block_item` -/
structure IpcBlockItem where
  ptr : Nat
  len : UInt32
deriving DecidableEq, Repr

/-- How far `queue_thread` is. -/
inductive QueuePhase where
  | waiting
  | parsing (block : IpcBlockItem)
  | releasing (block : IpcBlockItem) (buf : Option NetBuf)
  | putting (buf : Option NetBuf)

structure HciState where
  /-- The blocks of the shared memory. -/
  blocks : Nat → Memory
  /-- Those the other core is kept from using again. -/
  held : List Nat
  ipcBlockQueue : List IpcBlockItem
  queueThread : QueuePhase
  txQueue : List NetBuf
  /-- The buffer `tx_thread` is about to send. -/
  txThread : Option NetBuf
  pools : Pools
  /-- The buffers that the controller has not given back. -/
  controller : List NetBuf

def HciState.initial (blocks : Nat → Memory) (pools : Pools) : HciState where
  blocks := blocks
  held := []
  ipcBlockQueue := []
  queueThread := .waiting
  txQueue := []
  txThread := none
  pools := pools
  controller := []

inductive HciEvent where
  /-- A message arrives; `holdErr` is the answer of
  `ipc_service_hold_rx_buffer`. -/
  | received (ptr : Nat) (data : List UInt8) (holdErr : Int)
  | getBlock
  | parse
  | release
  | put
  | getBuf
  /-- `err` is the answer of `bt_send`. -/
  | send (err : Int)
  /-- The controller gives the buffer of a packet back. -/
  | done (buf : NetBuf)

section Step

variable (maxIpcBlocks : Nat)

/-- `hci_ept_recv`, with the message in its block. -/
def hciEptRecv (st : HciState) (ptr : Nat) (data : List UInt8)
    (holdErr : Int) : HciState :=
  let written := (st.blocks ptr).writeBlock 0 data.length (.ofList data)
  let st := { st with blocks := Function.update st.blocks ptr written }
  if holdErr ≠ 0 then
    st
  else
    let st := { st with held := st.held ++ [ptr] }
    if st.ipcBlockQueue.length < maxIpcBlocks then
      let item := ⟨ptr, UInt32.ofNat data.length⟩
      { st with ipcBlockQueue := st.ipcBlockQueue ++ [item] }
    else
      { st with held := st.held.erase ptr }

/-- A message only comes in a block which is not held. -/
def hciStep (st : HciState) : HciEvent → Option HciState
  | .received ptr data holdErr =>
      if ptr < maxIpcBlocks ∧ ptr ∉ st.held ∧ data.length < 2 ^ 32 then
        some (hciEptRecv maxIpcBlocks st ptr data holdErr)
      else
        none
  | .getBlock =>
      match st.queueThread, st.ipcBlockQueue with
      | .waiting, block :: rest =>
          some { st with ipcBlockQueue := rest, queueThread := .parsing block }
      | _, _ => none
  | .parse =>
      match st.queueThread with
      | .parsing block =>
          let parsed := parseBlock st.pools (st.blocks block.ptr) block.len
          some
            { st with
              queueThread := .releasing block parsed.1
              pools := parsed.2 }
      | _ => none
  | .release =>
      match st.queueThread with
      | .releasing block buf =>
          some
            { st with
              queueThread := .putting buf
              held := st.held.erase block.ptr }
      | _ => none
  | .put =>
      match st.queueThread with
      | .putting buf =>
          some
            { st with
              queueThread := .waiting
              txQueue := st.txQueue ++ buf.toList }
      | _ => none
  | .getBuf =>
      match st.txThread, st.txQueue with
      | none, buf :: rest =>
          some { st with txQueue := rest, txThread := some buf }
      | _, _ => none
  | .send err =>
      match st.txThread with
      | some buf =>
          if err ≠ 0 then
            some
              { st with
                txThread := none
                pools := st.pools.netBufUnref buf }
          else
            some
              { st with
                txThread := none
                controller := st.controller ++ [buf] }
      | none => none
  | .done buf =>
      if buf ∈ st.controller then
        some
          { st with
            controller := st.controller.erase buf
            pools := st.pools.netBufUnref buf }
      else
        none

end Step

/-! ## Packets under way -/

section Packets

variable (room : BufType → Nat) (blocks : Nat → Memory)

/-- The packet in a block. -/
def packetAt (block : IpcBlockItem) : Option NetBuf :=
  packetOf room ((blocks block.ptr).readBlock 0 block.len.toNat)

/-- The packet `queue_thread` is at. -/
def threadPacket : QueuePhase → List NetBuf
  | .waiting => []
  | .parsing block => (packetAt room blocks block).toList
  | .releasing _ buf => buf.toList
  | .putting buf => buf.toList

end Packets

/-- The packets still to be sent, the next one first. -/
def underway (st : HciState) : List NetBuf :=
  st.txThread.toList ++ st.txQueue ++
    threadPacket st.pools.room st.blocks st.queueThread ++
    st.ipcBlockQueue.filterMap (packetAt st.pools.room st.blocks)

/-- The packet of a message whose block could be held. -/
def arrived (st : HciState) : HciEvent → List NetBuf
  | .received _ data holdErr =>
      if holdErr = 0 then (packetOf st.pools.room data).toList else []
  | _ => []

/-- The packet `bt_send` is called with. -/
def passedOn (st : HciState) : HciEvent → List NetBuf
  | .send _ => st.txThread.toList
  | _ => []

/-- A buffer is free for the packet that is parsed. -/
def supplied (st : HciState) : HciEvent → Prop
  | .parse =>
      ∀ buf ∈ threadPacket st.pools.room st.blocks st.queueThread,
        st.pools.free buf.type ≠ 0
  | _ => True

instance (st : HciState) : ∀ event, Decidable (supplied st event)
  | .parse => List.decidableBAll _ _
  | .received .. | .getBlock | .release | .put | .getBuf | .send _
  | .done _ => isTrue trivial

/-- What a step does. -/
inductive HciMove (maxIpcBlocks : Nat) (st : HciState) :
    HciEvent → HciState → Prop where
  | received
      {ptr : Nat} {data : List UInt8} {holdErr : Int}
      (inRange : ptr < maxIpcBlocks) (free : ptr ∉ st.held)
      (short : data.length < 2 ^ 32) :
      HciMove maxIpcBlocks st (.received ptr data holdErr)
        (hciEptRecv maxIpcBlocks st ptr data holdErr)
  | getBlock
      {block : IpcBlockItem} {rest : List IpcBlockItem}
      (waits : st.queueThread = .waiting)
      (queue : st.ipcBlockQueue = block :: rest) :
      HciMove maxIpcBlocks st .getBlock
        { st with ipcBlockQueue := rest, queueThread := .parsing block }
  | parse
      {block : IpcBlockItem} (parses : st.queueThread = .parsing block) :
      HciMove maxIpcBlocks st .parse
        { st with
          queueThread :=
            .releasing block
              (parseBlock st.pools (st.blocks block.ptr) block.len).1
          pools :=
            (parseBlock st.pools (st.blocks block.ptr) block.len).2 }
  | release
      {block : IpcBlockItem} {buf : Option NetBuf}
      (releases : st.queueThread = .releasing block buf) :
      HciMove maxIpcBlocks st .release
        { st with
          queueThread := .putting buf
          held := st.held.erase block.ptr }
  | put {buf : Option NetBuf} (puts : st.queueThread = .putting buf) :
      HciMove maxIpcBlocks st .put
        { st with
          queueThread := .waiting
          txQueue := st.txQueue ++ buf.toList }
  | getBuf
      {buf : NetBuf} {rest : List NetBuf}
      (idle : st.txThread = none) (queue : st.txQueue = buf :: rest) :
      HciMove maxIpcBlocks st .getBuf
        { st with txQueue := rest, txThread := some buf }
  | refused {buf : NetBuf} {err : Int} (sends : st.txThread = some buf) :
      HciMove maxIpcBlocks st (.send err)
        { st with
          txThread := none
          pools := st.pools.netBufUnref buf }
  | sent {buf : NetBuf} {err : Int} (sends : st.txThread = some buf) :
      HciMove maxIpcBlocks st (.send err)
        { st with
          txThread := none
          controller := st.controller ++ [buf] }
  | done {buf : NetBuf} (owned : buf ∈ st.controller) :
      HciMove maxIpcBlocks st (.done buf)
        { st with
          controller := st.controller.erase buf
          pools := st.pools.netBufUnref buf }

theorem hciMove_of_step
    {maxIpcBlocks : Nat} {st next : HciState} {event : HciEvent}
    (stepped : hciStep maxIpcBlocks st event = some next) :
    HciMove maxIpcBlocks st event next := by
  cases event with
  | received ptr data holdErr =>
      rw [hciStep] at stepped
      split_ifs at stepped with arrives
      cases stepped
      exact .received arrives.1 arrives.2.1 arrives.2.2
  | getBlock =>
      rw [hciStep] at stepped
      split at stepped
      · next waits queue =>
          cases stepped
          exact .getBlock waits queue
      · cases stepped
  | parse =>
      rw [hciStep] at stepped
      split at stepped
      · next parses =>
          cases stepped
          exact .parse parses
      · cases stepped
  | release =>
      rw [hciStep] at stepped
      split at stepped
      · next releases =>
          cases stepped
          exact .release releases
      · cases stepped
  | put =>
      rw [hciStep] at stepped
      split at stepped
      · next puts =>
          cases stepped
          exact .put puts
      · cases stepped
  | getBuf =>
      rw [hciStep] at stepped
      split at stepped
      · next idle queue =>
          cases stepped
          exact .getBuf idle queue
      · cases stepped
  | send err =>
      rw [hciStep] at stepped
      split at stepped
      · next sends =>
          split_ifs at stepped
          · cases stepped
            exact .refused sends
          · cases stepped
            exact .sent sends
      · cases stepped
  | done buf =>
      rw [hciStep] at stepped
      split_ifs at stepped with owned
      cases stepped
      exact .done owned

/-! ## Blocks and buffers -/

/-- The block `queue_thread` is at. -/
def QueuePhase.block : QueuePhase → List Nat
  | .parsing block | .releasing block _ => [block.ptr]
  | .waiting | .putting _ => []

/-- The buffer `queue_thread` has. -/
def QueuePhase.buf : QueuePhase → List NetBuf
  | .releasing _ buf | .putting buf => buf.toList
  | .waiting | .parsing _ => []

/-- The buffers that are not free. -/
def inUse (st : HciState) : List NetBuf :=
  st.txThread.toList ++ st.txQueue ++ st.queueThread.buf ++ st.controller

def countType (bufs : List NetBuf) (type : BufType) : Nat :=
  bufs.countP fun buf => buf.type = type

/--
A block is held while it is queued or looked at, and each buffer is free or
in one place.
-/
structure Bridged (maxIpcBlocks : Nat) (size : Pools) (st : HciState) :
    Prop where
  held : st.held = st.queueThread.block ++ st.ipcBlockQueue.map (·.ptr)
  nodup : st.held.Nodup
  inRange : ∀ ptr ∈ st.held, ptr < maxIpcBlocks
  room : st.pools.room = size.room
  free :
    ∀ type, st.pools.free type + countType (inUse st) type = size.free type

section Buffers

variable {pools : Pools} {buf : NetBuf} {type : BufType}

theorem countType_append (first second : List NetBuf) :
    countType (first ++ second) type =
      countType first type + countType second type :=
  List.countP_append ..

theorem free_netBufUnref :
    (pools.netBufUnref buf).free type =
      pools.free type + countType [buf] type := by
  rw [Pools.netBufUnref]
  dsimp only
  by_cases same : buf.type = type
  · subst same
    simp [countType]
  · rw [Function.update_of_ne (Ne.symm same)]
    simp [countType, same]

theorem free_take (some : pools.free buf.type ≠ 0) :
    (pools.take buf.type).free type + countType [buf] type =
      pools.free type := by
  rw [Pools.take]
  dsimp only
  by_cases same : buf.type = type
  · subst same
    simp [countType]
    omega
  · rw [Function.update_of_ne (Ne.symm same)]
    simp [countType, same]

theorem countType_erase
    {bufs : List NetBuf} (member : buf ∈ bufs) :
    countType bufs type =
      countType (bufs.erase buf) type + countType [buf] type := by
  have parts : countType (buf :: bufs.erase buf) type = countType bufs type :=
    ((List.perm_cons_erase member).countP_eq _).symm
  rw [← parts, Nat.add_comm]
  exact countType_append [buf] (bufs.erase buf)

end Buffers

section Steps

variable {maxIpcBlocks : Nat} {size : Pools} {st next : HciState}

/-- A block makes a packet if a buffer is free for it. -/
theorem parseBlock_cases (st : HciState) (block : IpcBlockItem) :
    (parseBlock st.pools (st.blocks block.ptr) block.len =
          (none, st.pools) ∧
        ∀ buf ∈ packetAt st.pools.room st.blocks block,
          st.pools.free buf.type = 0) ∨
      ∃ buf,
        packetAt st.pools.room st.blocks block = some buf ∧
          st.pools.free buf.type ≠ 0 ∧
        parseBlock st.pools (st.blocks block.ptr) block.len =
          (some buf, st.pools.take buf.type) := by
  rw [parseBlock_eq]
  unfold packetAt
  cases packetOf st.pools.room
      ((st.blocks block.ptr).readBlock 0 block.len.toNat) with
  | none => exact .inl ⟨rfl, fun buf impossible => by cases impossible⟩
  | some buf =>
      by_cases none : st.pools.free buf.type = 0
      · refine .inl ⟨if_pos none, fun other same => ?_⟩
        cases same
        exact none
      · exact .inr ⟨buf, rfl, none, if_neg none⟩

/-- Every block there is fits in the queue. -/
theorem Bridged.queue_has_room
    (bridged : Bridged maxIpcBlocks size st) {ptr : Nat}
    (inRange : ptr < maxIpcBlocks) (free : ptr ∉ st.held) :
    st.ipcBlockQueue.length < maxIpcBlocks := by
  have nodup : (ptr :: st.held).Nodup :=
    List.nodup_cons.mpr ⟨free, bridged.nodup⟩
  have within : (ptr :: st.held) ⊆ List.range maxIpcBlocks := by
    intro other member
    rw [List.mem_range]
    rcases List.mem_cons.mp member with rfl | isHeld
    · exact inRange
    · exact bridged.inRange other isHeld
  have bound := (List.subperm_of_subset nodup within).length_le
  rw [List.length_cons, List.length_range, bridged.held,
    List.length_append, List.length_map] at bound
  omega

/-- A message whose block can be held is queued. -/
theorem Bridged.hciEptRecv_eq
    (bridged : Bridged maxIpcBlocks size st) {ptr : Nat}
    (inRange : ptr < maxIpcBlocks) (free : ptr ∉ st.held)
    (data : List UInt8) (holdErr : Int) :
    hciEptRecv maxIpcBlocks st ptr data holdErr =
      let written := (st.blocks ptr).writeBlock 0 data.length (.ofList data)
      let st := { st with blocks := Function.update st.blocks ptr written }
      if holdErr ≠ 0 then
        st
      else
        { st with
          held := st.held ++ [ptr]
          ipcBlockQueue :=
            st.ipcBlockQueue ++ [⟨ptr, UInt32.ofNat data.length⟩] } := by
  rw [hciEptRecv]
  dsimp only
  rw [if_pos (bridged.queue_has_room inRange free)]

theorem bridged_step
    (st : HciState) (event : HciEvent) (next : HciState)
    (bridged : Bridged maxIpcBlocks size st)
    (stepped : hciStep maxIpcBlocks st event = some next) :
    Bridged maxIpcBlocks size next := by
  have held := bridged.held
  have accounted := bridged.free
  have moved := hciMove_of_step stepped
  cases moved with
  | @received ptr data holdErr inRange free short =>
      rw [bridged.hciEptRecv_eq inRange free]
      dsimp only
      split_ifs
      · exact ⟨held, bridged.nodup, bridged.inRange, bridged.room, accounted⟩
      · refine ⟨?_, ?_, ?_, bridged.room, accounted⟩
        · dsimp only
          rw [held, List.map_append, List.append_assoc]
          rfl
        · dsimp only
          rw [← List.concat_eq_append, List.nodup_concat]
          exact ⟨free, bridged.nodup⟩
        · intro other member
          rcases List.mem_append.mp member with isHeld | isNew
          · exact bridged.inRange other isHeld
          · rw [List.mem_singleton.mp isNew]
            exact inRange
  | @getBlock block rest waits queue =>
      rw [waits, queue] at held
      refine ⟨held, bridged.nodup, bridged.inRange, bridged.room, ?_⟩
      intro type
      have before := accounted type
      rw [inUse, waits] at before
      exact before
  | @parse block parses =>
      rw [parses] at held
      have room :
          (parseBlock st.pools (st.blocks block.ptr) block.len).2.room =
            size.room := by
        rcases parseBlock_cases st block with
          ⟨parsed, -⟩ | ⟨buf, -, -, parsed⟩
        · rw [parsed]
          exact bridged.room
        · rw [parsed]
          exact bridged.room
      refine ⟨held, bridged.nodup, bridged.inRange, room, fun type => ?_⟩
      have before := accounted type
      rw [inUse, parses] at before
      rw [inUse]
      dsimp only [QueuePhase.buf] at before ⊢
      rw [countType_append, countType_append] at before ⊢
      rcases parseBlock_cases st block with
        ⟨parsed, -⟩ | ⟨buf, -, some, parsed⟩
      · rw [parsed]
        exact before
      · have taken := @free_take st.pools buf type some
        rw [parsed]
        have none : countType [] type = 0 := rfl
        have one :
            countType (Option.some buf).toList type = countType [buf] type :=
          rfl
        dsimp only
        omega
  | @release block buf releases =>
      rw [releases] at held
      have nodup := bridged.nodup
      have rest : st.held.erase block.ptr = st.ipcBlockQueue.map (·.ptr) := by
        rw [held]
        exact List.erase_cons_head ..
      refine ⟨rest, nodup.erase block.ptr, fun ptr member => ?_,
        bridged.room, fun type => ?_⟩
      · exact bridged.inRange ptr (List.mem_of_mem_erase member)
      · have before := accounted type
        rw [inUse, releases] at before
        exact before
  | @put buf puts =>
      rw [puts] at held
      refine ⟨held, bridged.nodup, bridged.inRange, bridged.room, ?_⟩
      intro type
      have before := accounted type
      rw [inUse, puts] at before
      rw [inUse]
      dsimp only [QueuePhase.buf] at before ⊢
      rw [List.append_nil, ← List.append_assoc]
      exact before
  | @getBuf buf rest idle queue =>
      refine ⟨held, bridged.nodup, bridged.inRange, bridged.room, ?_⟩
      intro type
      have before := accounted type
      rw [inUse, idle, queue] at before
      exact before
  | @refused buf err sends =>
      refine ⟨held, bridged.nodup, bridged.inRange, bridged.room, ?_⟩
      intro type
      have before := accounted type
      rw [inUse, sends] at before
      rw [inUse, free_netBufUnref]
      simp only [countType_append, Option.toList] at before ⊢
      have none : countType [] type = 0 := rfl
      omega
  | @sent buf err sends =>
      refine ⟨held, bridged.nodup, bridged.inRange, bridged.room, ?_⟩
      intro type
      have before := accounted type
      rw [inUse, sends] at before
      rw [inUse]
      simp only [countType_append, Option.toList] at before ⊢
      have none : countType [] type = 0 := rfl
      omega
  | @done buf owned =>
      refine ⟨held, bridged.nodup, bridged.inRange, bridged.room, ?_⟩
      intro type
      have before := accounted type
      have given := @countType_erase buf type st.controller owned
      rw [inUse] at before ⊢
      rw [free_netBufUnref]
      simp only [countType_append] at before ⊢
      omega

/-- A new message in a free block leaves the packets under way. -/
theorem Bridged.underway_received
    (bridged : Bridged maxIpcBlocks size st) {ptr : Nat}
    (free : ptr ∉ st.held) (written : Memory) :
    underway { st with blocks := Function.update st.blocks ptr written } =
      underway st := by
  have others (block : IpcBlockItem) (isHeld : block.ptr ∈ st.held) :
      packetAt st.pools.room (Function.update st.blocks ptr written) block =
        packetAt st.pools.room st.blocks block := by
    have other : block.ptr ≠ ptr := by
      rintro rfl
      exact free isHeld
    rw [packetAt, packetAt, Function.update_of_ne other]
  have atThread :
      threadPacket st.pools.room (Function.update st.blocks ptr written)
          st.queueThread =
        threadPacket st.pools.room st.blocks st.queueThread := by
    cases phase : st.queueThread with
    | parsing block =>
        have isHeld : block.ptr ∈ st.held := by
          rw [bridged.held, phase]
          exact List.mem_append_left _ (List.mem_singleton.mpr rfl)
        rw [threadPacket, threadPacket, others block isHeld]
    | _ => rfl
  have inQueue :
      st.ipcBlockQueue.filterMap
          (packetAt st.pools.room
            (Function.update st.blocks ptr written)) =
        st.ipcBlockQueue.filterMap (packetAt st.pools.room st.blocks) := by
    refine List.filterMap_congr fun block queued => others block ?_
    rw [bridged.held]
    exact List.mem_append_right _ (List.mem_map_of_mem queued)
  rw [underway, underway]
  dsimp only
  rw [atThread, inQueue]

/-- The message that was written is the one that is queued. -/
theorem packetAt_new
    {ptr : Nat} {data : List UInt8} (short : data.length < 2 ^ 32) :
    packetAt st.pools.room
        (Function.update st.blocks ptr
          ((st.blocks ptr).writeBlock 0 data.length (.ofList data)))
        ⟨ptr, UInt32.ofNat data.length⟩ =
      packetOf st.pools.room data := by
  rw [packetAt]
  dsimp only
  rw [Function.update_self, UInt32.toNat_ofNat_of_lt' short,
    Memory.readBlock_writeBlock, Memory.ofList_readBlock]

/-- A step loses a packet only if no buffer is free for it. -/
theorem underway_step
    {event : HciEvent} (bridged : Bridged maxIpcBlocks size st)
    (stepped : hciStep maxIpcBlocks st event = some next) :
    (passedOn st event ++ underway next).Sublist
        (underway st ++ arrived st event) ∧
      (supplied st event →
        underway st ++ arrived st event =
          passedOn st event ++ underway next) := by
  have exactly
      (equal :
        underway st ++ arrived st event =
          passedOn st event ++ underway next) :
      (passedOn st event ++ underway next).Sublist
          (underway st ++ arrived st event) ∧
        (supplied st event →
          underway st ++ arrived st event =
            passedOn st event ++ underway next) :=
    ⟨equal ▸ List.Sublist.refl _, fun _ => equal⟩
  have moved := hciMove_of_step stepped
  cases moved with
  | @received ptr data holdErr inRange free short =>
      have written :=
        bridged.underway_received free
          ((st.blocks ptr).writeBlock 0 data.length (.ofList data))
      refine exactly ?_
      rw [bridged.hciEptRecv_eq inRange free]
      dsimp only [passedOn, arrived]
      rw [List.nil_append]
      by_cases isHeld : holdErr = 0
      · rw [if_pos isHeld, if_neg (not_not.mpr isHeld), ← written, underway,
          underway, List.filterMap_append, ← List.append_assoc]
        congr 1
        exact (packetAt_new short).symm ▸ by
          cases packetOf st.pools.room data <;> rfl
      · rw [if_neg isHeld, if_pos isHeld, List.append_nil]
        exact written.symm
  | @getBlock block rest waits queue =>
      refine exactly ?_
      dsimp only [passedOn, arrived]
      rw [underway, underway, waits, queue, List.append_nil,
        List.nil_append]
      dsimp only [threadPacket]
      cases found : packetAt st.pools.room st.blocks block <;>
        simp [found]
  | @parse block parses =>
      have split (packets : List NetBuf) :
          st.txThread.toList ++ st.txQueue ++ packets ++
              st.ipcBlockQueue.filterMap (packetAt st.pools.room st.blocks) =
            st.txThread.toList ++ st.txQueue ++
              (packets ++
                st.ipcBlockQueue.filterMap
                  (packetAt st.pools.room st.blocks)) :=
        List.append_assoc ..
      rcases parseBlock_cases st block with
        ⟨parsed, empty⟩ | ⟨buf, found, some, parsed⟩
      · cases found : packetAt st.pools.room st.blocks block with
        | none =>
            refine exactly ?_
            dsimp only [passedOn, arrived]
            rw [parsed, underway, underway, parses, List.append_nil,
              List.nil_append]
            dsimp only [threadPacket]
            rw [found]
        | some buf =>
            constructor
            · dsimp only [passedOn, arrived]
              rw [parsed, underway, underway, parses, List.append_nil,
                List.nil_append, split, split]
              dsimp only [threadPacket]
              exact
                (List.sublist_append_right _ _).append_left _
            · intro enough
              rw [supplied, parses, threadPacket, found] at enough
              exact
                absurd (empty buf found)
                  (enough buf (List.mem_singleton.mpr rfl))
      · refine exactly ?_
        dsimp only [passedOn, arrived]
        rw [parsed, underway, underway, parses, List.append_nil,
          List.nil_append]
        dsimp only [threadPacket]
        rw [found]
        rfl
  | @release block buf releases =>
      refine exactly ?_
      dsimp only [passedOn, arrived]
      rw [underway, underway, releases, List.append_nil]
      rfl
  | @put buf puts =>
      refine exactly ?_
      dsimp only [passedOn, arrived]
      rw [underway, underway, puts, List.append_nil, List.nil_append]
      dsimp only [threadPacket]
      rw [List.append_nil, List.append_assoc st.txThread.toList]
  | @getBuf buf rest idle queue =>
      refine exactly ?_
      dsimp only [passedOn, arrived]
      rw [underway, underway, idle, queue, List.append_nil]
      rfl
  | @refused buf err sends =>
      refine exactly ?_
      dsimp only [passedOn, arrived]
      rw [underway, underway, sends, List.append_nil]
      rfl
  | @sent buf err sends =>
      refine exactly ?_
      dsimp only [passedOn, arrived]
      rw [underway, underway, sends, List.append_nil]
      rfl
  | @done buf owned =>
      refine exactly ?_
      dsimp only [passedOn, arrived]
      rw [underway, underway, List.append_nil]
      rfl

end Steps

/-! ## Runs -/

theorem initially_bridged
    (maxIpcBlocks : Nat) (blocks : Nat → Memory) (pools : Pools) :
    Bridged maxIpcBlocks pools (.initial blocks pools) where
  held := rfl
  nodup := .nil
  inRange _ impossible := by cases impossible
  room := rfl
  free _ := rfl

/--
What the controller is given are packets the host has sent, in their order,
and those still under way come next.  All of them get there if a buffer is
free whenever a packet is parsed.
-/
theorem packets_reach_controller
    (maxIpcBlocks : Nat) (blocks : Nat → Memory) (pools : Pools)
    (events : List HciEvent) (finish : HciState)
    (ran :
      run (hciStep maxIpcBlocks) (.initial blocks pools) events =
        some finish) :
    (collected (hciStep maxIpcBlocks) passedOn (.initial blocks pools)
          events ++ underway finish).Sublist
        (collected (hciStep maxIpcBlocks) arrived (.initial blocks pools)
          events) ∧
      (StepsMeet (hciStep maxIpcBlocks) supplied (.initial blocks pools)
          events →
        collected (hciStep maxIpcBlocks) arrived (.initial blocks pools)
            events =
          collected (hciStep maxIpcBlocks) passedOn
              (.initial blocks pools) events ++
            underway finish) := by
  have initially := initially_bridged maxIpcBlocks blocks pools
  constructor
  · have part :=
      run_adds_nothing bridged_step
        (fun state event next bridged stepped =>
          (underway_step bridged stepped).1)
        initially ran
    exact part
  · intro enough
    have all :=
      run_conserves
        (fun state event next bridged _ stepped =>
          bridged_step state event next bridged stepped)
        (fun state event bridged enough next stepped =>
          (underway_step bridged stepped).2 enough)
        initially enough ran
    exact all

/-- One buffer of each type. -/
def singleBuffers : Pools where
  free _ := 1
  room _ := 255

/-- A reset command, and an empty message in another block. -/
def resetCommand : List HciEvent :=
  [.received 0 [0x01, 0x03, 0x0c, 0x00] 0, .getBlock, .received 1 [] 0,
    .parse, .release, .put, .getBlock, .getBuf, .parse, .send 0]

theorem resetCommand_reaches_controller :
    ∃ finish,
      run (hciStep 2) (.initial (fun _ => .zero) singleBuffers)
          resetCommand = some finish ∧
        collected (hciStep 2) arrived
            (.initial (fun _ => .zero) singleBuffers) resetCommand =
          collected (hciStep 2) passedOn
              (.initial (fun _ => .zero) singleBuffers) resetCommand ++
            underway finish :=
  ⟨_, rfl,
    (packets_reach_controller 2 (fun _ => .zero) singleBuffers resetCommand
      _ rfl).2 (by decide +kernel)⟩

/-- The buffer is not given back in time for a second command. -/
example :
    collected (hciStep 2) passedOn
        (.initial (fun _ => .zero) singleBuffers)
        [.received 0 [0x01, 0x03, 0x0c, 0x00] 0,
          .received 1 [0x01, 0x09, 0x10, 0x00] 0, .getBlock, .parse,
          .release, .put, .getBlock, .parse, .release, .put, .getBuf,
          .send 0] =
      [⟨.cmd, [0x03, 0x0c, 0x00]⟩] := by
  decide +kernel

/--
The queue has room for the block of every message that can come.  A block is
held as long as its message is queued or parsed, and each buffer is free, with
a thread, queued for the controller or with it.
-/
theorem blocks_and_buffers_accounted
    (maxIpcBlocks : Nat) (blocks : Nat → Memory) (pools : Pools)
    (events : List HciEvent) (finish : HciState)
    (ran :
      run (hciStep maxIpcBlocks) (.initial blocks pools) events =
        some finish) :
    (∀ ptr < maxIpcBlocks, ptr ∉ finish.held →
        finish.ipcBlockQueue.length < maxIpcBlocks) ∧
      finish.held =
          finish.queueThread.block ++ finish.ipcBlockQueue.map (·.ptr) ∧
      finish.held.Nodup ∧
      ∀ type,
        finish.pools.free type + countType (inUse finish) type =
          pools.free type := by
  have bridged : Bridged maxIpcBlocks pools finish :=
    run_preserves bridged_step (initially_bridged maxIpcBlocks blocks pools)
      ran
  exact
    ⟨fun ptr inRange free => bridged.queue_has_room inRange free,
      bridged.held, bridged.nodup, bridged.free⟩

theorem resetCommand_accounted :
    ∃ finish,
      run (hciStep 2) (.initial (fun _ => .zero) singleBuffers)
          resetCommand = some finish ∧
        (∀ ptr < 2, ptr ∉ finish.held → finish.ipcBlockQueue.length < 2) ∧
        finish.held =
            finish.queueThread.block ++ finish.ipcBlockQueue.map (·.ptr) ∧
        finish.held.Nodup ∧
        ∀ type,
          finish.pools.free type + countType (inUse finish) type =
            singleBuffers.free type :=
  ⟨_, rfl,
    blocks_and_buffers_accounted 2 (fun _ => .zero) singleBuffers
      resetCommand _ rfl⟩

end YkbFirmware.Hci.Bridge
