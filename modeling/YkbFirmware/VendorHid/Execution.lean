import YkbFirmware.Library.TransitionSystem
import YkbFirmware.Protocol.ReceiverInvariant
import YkbFirmware.VendorHid.Protocol

/-!
# Parser and work handler side by side

The transport calls the parser while the system work queue runs the response
work.  Both are cut at every access to shared data: the parser into its
checks, the push, the three writes and the submission; the handler into the
execution of the request, one step per packet sent, the receiver reset and
the release of `busy`.  The two interleave freely, and other threads may
change the device at any time.

`Stage` lists the control states that occur, each with what holds there.  At
any time there is at most one completed request that was not answered yet:
first in the hands of the parser, then queued, then with the handler.
-/

namespace YkbFirmware.VendorHid.Execution

open YkbFirmware.Library.ByteMemory
open YkbFirmware.Library.TransitionSystem
open YkbFirmware.Protocol.Wire
open YkbFirmware.Protocol.Receiver
open YkbFirmware.Protocol.ReceiverInvariant
open YkbFirmware.Protocol.Sender
open YkbFirmware.VendorHid.Protocol

/-! ## The step relation -/

/-- Where a call of the parser stands. -/
inductive ParserAt where
  | outside
  | admitted (report : Report)
  | completed
  | marked
  | selected

/-- Where the work handler stands. -/
inductive HandlerAt where
  | asleep
  | executing
  | sending (tx : YkbProtocolTxState)
  | releasing
  | clearing

/-- A request: the bytes in the buffer and the response they ask for. -/
structure Request where
  rxBuffer : Memory
  response : ResponseType

/-- A request with the device as it was when the handler took it up. -/
structure Executed (Device : Type) where
  request : Request
  device : Device

/--
The shared context and both parties.  The last four fields record what
happened and are never read: requests completed by the parser, requests
executed by the handler, finished runs and reports handed to `send_packet`.
-/
structure ExecutionState (Device : Type) where
  ctx : VendorHidProtocolCtx
  parser : ParserAt
  workQueued : Bool
  handler : HandlerAt
  device : Device
  returned : Option ParseReturn
  completed : List Request
  executed : List (Executed Device)
  finished : Nat
  sent : List (List UInt8)

inductive ExecutionEvent (Device : Type) where
  | call (report : Report)
  | parser
  | work
  | handler (sendResult : Int)
  | device (changed : Device)

section Steps

variable
    {Device : Type}
    (geometry : PacketGeometry) (options : VendorHidOptions)
    (services : VendorHidServices Device)

def ExecutionState.start (device : Device) : ExecutionState Device where
  ctx := vendorHidProtocolInit options
  parser := .outside
  workQueued := false
  handler := .asleep
  device := device
  returned := none
  completed := []
  executed := []
  finished := 0
  sent := []

/-- A call enters the parser, or returns from its first checks. -/
def callStep (state : ExecutionState Device) (report : Report) :
    ExecutionState Device :=
  match parseGuard state.ctx report with
  | some returned => { state with returned := some returned }
  | none => { state with parser := .admitted report }

/-- The next step of the call in progress. -/
def parserStep (state : ExecutionState Device) :
    Option (ExecutionState Device) :=
  match state.parser with
  | .outside => none
  | .admitted report =>
      let pushed := parsePush geometry state.ctx report
      let state := { state with ctx := { state.ctx with rx := pushed.state } }
      some
        (if pushed.result.isError then
          { state with
            parser := .outside
            returned := some (.protocolError pushed.result) }
        else if pushed.result ≠ .complete then
          { state with parser := .outside, returned := some .zero }
        else
          { state with
            parser := .completed
            completed :=
              state.completed ++
                [⟨state.ctx.rxBuffer,
                  requestedResponse options state.ctx.rxBuffer⟩] })
  | .completed =>
      some
        { state with
          ctx := { state.ctx with busy := true }
          parser := .marked }
  | .marked =>
      some
        { state with
          ctx :=
            { state.ctx with
              currentResponse :=
                requestedResponse options state.ctx.rxBuffer }
          parser := .selected }
  | .selected =>
      some
        { state with
          parser := .outside
          workQueued := true
          returned := some .zero }

/-- The work queue starts a queued item which is not running. -/
def workStep (state : ExecutionState Device) :
    Option (ExecutionState Device) :=
  match state.workQueued, state.handler with
  | true, .asleep =>
      some { state with workQueued := false, handler := .executing }
  | _, _ => none

/-- The next step of the handler; `sendResult` is what a send returns. -/
def handlerStep (state : ExecutionState Device) (sendResult : Int) :
    Option (ExecutionState Device) :=
  match state.handler with
  | .asleep => none
  | .executing =>
      let response := executeRequest options services state.device state.ctx
      some
        { state with
          handler := .sending (responseSender geometry response.1)
          device := response.2
          executed :=
            state.executed ++
              [⟨⟨state.ctx.rxBuffer, state.ctx.currentResponse⟩,
                state.device⟩] }
  | .sending tx =>
      match ykbProtocolTxBuildPacket geometry tx with
      | none => some { state with handler := .releasing }
      | some (packet, next) =>
          some
            { state with
              handler :=
                if sendResult ≠ 0 then .releasing else .sending next
              sent := state.sent ++ [packetReport geometry next packet] }
  | .releasing =>
      some
        { state with
          ctx := { state.ctx with rx := ykbProtocolRxReset state.ctx.rx }
          handler := .clearing }
  | .clearing =>
      some
        { state with
          ctx := { state.ctx with busy := false }
          handler := .asleep
          finished := state.finished + 1 }

/-- Calls come from one transport thread, so at most one is in progress. -/
def executionStep (state : ExecutionState Device) :
    ExecutionEvent Device → Option (ExecutionState Device)
  | .call report =>
      match state.parser with
      | .outside => some (callStep state report)
      | _ => none
  | .parser => parserStep geometry options state
  | .work => workStep state
  | .handler sendResult =>
      handlerStep geometry options services state sendResult
  | .device changed => some { state with device := changed }

end Steps

/-! ## The invariant -/

/-- The request is the one in the buffer. -/
structure InBuffer
    (options : VendorHidOptions)
    (ctx : VendorHidProtocolCtx) (request : Request) : Prop where
  rxBuffer : ctx.rxBuffer = request.rxBuffer
  response : request.response = requestedResponse options request.rxBuffer

/-- The request is the one in the buffer and its response is selected. -/
structure Selected
    (options : VendorHidOptions)
    (ctx : VendorHidProtocolCtx) (request : Request) : Prop where
  inBuffer : InBuffer options ctx request
  busy : ctx.busy = true
  currentResponse : ctx.currentResponse = request.response

/-- The control states that occur, with the requests accounted for. -/
inductive Stage
    {Device : Type} (options : VendorHidOptions) :
    ExecutionState Device → Prop where
  | free {ctx parser device returned done sent}
      (notEngaged :
        parser = .outside ∨ ∃ report, parser = .admitted report)
      (notBusy : ctx.busy = false) :
      Stage options
        ⟨ctx, parser, false, .asleep, device, returned,
          done.map Executed.request, done, done.length, sent⟩
  | completed {ctx device returned done request sent}
      (inBuffer : InBuffer options ctx request)
      (notBusy : ctx.busy = false) :
      Stage options
        ⟨ctx, .completed, false, .asleep, device, returned,
          done.map Executed.request ++ [request], done, done.length,
          sent⟩
  | marked {ctx device returned done request sent}
      (inBuffer : InBuffer options ctx request)
      (busy : ctx.busy = true) :
      Stage options
        ⟨ctx, .marked, false, .asleep, device, returned,
          done.map Executed.request ++ [request], done, done.length,
          sent⟩
  | selected {ctx device returned done request sent}
      (selected : Selected options ctx request) :
      Stage options
        ⟨ctx, .selected, false, .asleep, device, returned,
          done.map Executed.request ++ [request], done, done.length,
          sent⟩
  | queued {ctx device returned done request sent}
      (selected : Selected options ctx request) :
      Stage options
        ⟨ctx, .outside, true, .asleep, device, returned,
          done.map Executed.request ++ [request], done, done.length,
          sent⟩
  | executing {ctx device returned done request sent}
      (selected : Selected options ctx request) :
      Stage options
        ⟨ctx, .outside, false, .executing, device, returned,
          done.map Executed.request ++ [request], done, done.length,
          sent⟩
  | sending {ctx device returned done executed sent tx}
      (selected : Selected options ctx executed.request) :
      Stage options
        ⟨ctx, .outside, false, .sending tx, device, returned,
          done.map Executed.request ++ [executed.request],
          done ++ [executed], done.length, sent⟩
  | releasing {ctx device returned done executed sent}
      (selected : Selected options ctx executed.request) :
      Stage options
        ⟨ctx, .outside, false, .releasing, device, returned,
          done.map Executed.request ++ [executed.request],
          done ++ [executed], done.length, sent⟩
  | clearing {ctx device returned done executed sent}
      (selected : Selected options ctx executed.request) (idle : Idle ctx.rx) :
      Stage options
        ⟨ctx, .outside, false, .clearing, device, returned,
          done.map Executed.request ++ [executed.request],
          done ++ [executed], done.length, sent⟩

section Invariant

variable
    {Device : Type}
    {geometry : PacketGeometry} {options : VendorHidOptions}
    {services : VendorHidServices Device}
    {state next : ExecutionState Device}

theorem stage_start (device : Device) :
    Stage options (ExecutionState.start options device) :=
  @Stage.free _ _ _ _ _ _ [] _ (Or.inl rfl) rfl

/-- A busy context turns every call away. -/
theorem callStep_busy
    (busy : state.ctx.busy = true) (report : Report) :
    callStep state report = { state with returned := some .eBusy } := by
  rw [callStep, parseGuard, if_pos busy]

theorem call_busy
    (outside : state.parser = .outside) (busy : state.ctx.busy = true)
    (report : Report) :
    executionStep geometry options services state (.call report) =
      some { state with returned := some .eBusy } := by
  rw [executionStep]
  split
  · rw [callStep_busy busy]
  · rename_i inside
    exact absurd outside inside

theorem stage_callStep
    (stage : Stage options state) (report : Report)
    (stepped :
      executionStep geometry options services state (.call report) =
        some next) :
    Stage options next := by
  have away :
      state.ctx.busy = true →
        callStep state report =
          { state with returned := some .eBusy } := fun busy =>
    callStep_busy busy report
  cases stage with
  | free notEngaged notBusy =>
      rcases notEngaged with rfl | ⟨other, rfl⟩
      · cases stepped
        rw [callStep]
        split
        · exact .free (Or.inl rfl) notBusy
        · exact .free (Or.inr ⟨report, rfl⟩) notBusy
      · cases stepped
  | completed => cases stepped
  | marked => cases stepped
  | selected => cases stepped
  | queued selected =>
      cases stepped
      rw [away selected.busy]
      exact .queued selected
  | executing selected =>
      cases stepped
      rw [away selected.busy]
      exact .executing selected
  | sending selected =>
      cases stepped
      rw [away selected.busy]
      exact .sending selected
  | releasing selected =>
      cases stepped
      rw [away selected.busy]
      exact .releasing selected
  | clearing selected idle =>
      cases stepped
      rw [away selected.busy]
      exact .clearing selected idle

theorem stage_parserStep
    (stage : Stage options state)
    (stepped : parserStep geometry options state = some next) :
    Stage options next := by
  cases stage with
  | free notEngaged notBusy =>
      rcases notEngaged with rfl | ⟨report, rfl⟩
      · cases stepped
      · cases stepped
        dsimp only
        split_ifs
        · exact .free (Or.inl rfl) notBusy
        · exact .free (Or.inl rfl) notBusy
        · exact .completed ⟨rfl, rfl⟩ notBusy
  | completed inBuffer notBusy =>
      cases stepped
      exact .marked ⟨inBuffer.rxBuffer, inBuffer.response⟩ rfl
  | marked inBuffer busy =>
      cases stepped
      refine .selected ⟨⟨inBuffer.rxBuffer, inBuffer.response⟩, busy, ?_⟩
      exact
        (congrArg (requestedResponse options) inBuffer.rxBuffer).trans
          inBuffer.response.symm
  | selected selected =>
      cases stepped
      exact .queued selected
  | queued => cases stepped
  | executing => cases stepped
  | sending => cases stepped
  | releasing => cases stepped
  | clearing => cases stepped

theorem stage_workStep
    (stage : Stage options state) (stepped : workStep state = some next) :
    Stage options next := by
  cases stage with
  | free => cases stepped
  | completed => cases stepped
  | marked => cases stepped
  | selected => cases stepped
  | queued selected =>
      cases stepped
      exact .executing selected
  | executing => cases stepped
  | sending => cases stepped
  | releasing => cases stepped
  | clearing => cases stepped

theorem stage_handlerStep
    (stage : Stage options state) {sendResult : Int}
    (stepped :
      handlerStep geometry options services state sendResult =
        some next) :
    Stage options next := by
  cases stage with
  | free => cases stepped
  | completed => cases stepped
  | marked => cases stepped
  | selected => cases stepped
  | queued => cases stepped
  | @executing ctx device _ _ request _ selected =>
      cases stepped
      have own :
          (⟨ctx.rxBuffer, ctx.currentResponse⟩ : Request) = request := by
        rw [selected.inBuffer.rxBuffer, selected.currentResponse]
      have carried :
          Selected options ctx
            (⟨⟨ctx.rxBuffer, ctx.currentResponse⟩, device⟩ :
              Executed Device).request := by
        rwa [own]
      rw [← own]
      exact .sending carried
  | @sending ctx _ _ _ executed _ tx selected =>
      simp only [handlerStep] at stepped
      split at stepped
      · cases stepped
        exact .releasing selected
      · cases stepped
        split_ifs
        · exact .releasing selected
        · exact .sending selected
  | releasing selected =>
      cases stepped
      exact
        .clearing
          ⟨⟨selected.inBuffer.rxBuffer, selected.inBuffer.response⟩,
            selected.busy, selected.currentResponse⟩
          (idle_rxReset _)
  | @clearing _ _ _ done executed _ selected idle =>
      cases stepped
      have count : done.length + 1 = (done ++ [executed]).length := by
        simp
      have requests :
          done.map Executed.request ++ [executed.request] =
            (done ++ [executed]).map Executed.request := by
        simp
      rw [count, requests]
      exact .free (Or.inl rfl) rfl

/-- Every step leads from stage to stage. -/
theorem stage_step
    (state : ExecutionState Device) (event : ExecutionEvent Device)
    (next : ExecutionState Device)
    (stage : Stage options state)
    (stepped :
      executionStep geometry options services state event = some next) :
    Stage options next := by
  cases event with
  | call report => exact stage_callStep stage report stepped
  | parser => exact stage_parserStep stage stepped
  | work => exact stage_workStep stage stepped
  | handler sendResult => exact stage_handlerStep stage stepped
  | device changed =>
      cases stepped
      cases stage with
      | free notEngaged notBusy => exact .free notEngaged notBusy
      | completed inBuffer notBusy => exact .completed inBuffer notBusy
      | marked inBuffer busy => exact .marked inBuffer busy
      | selected selected => exact .selected selected
      | queued selected => exact .queued selected
      | executing selected => exact .executing selected
      | sending selected => exact .sending selected
      | releasing selected => exact .releasing selected
      | clearing selected idle => exact .clearing selected idle

theorem stage_of_reachable
    {device : Device}
    (reached :
      Reachable (executionStep geometry options services)
        (ExecutionState.start options device) state) :
    Stage options state :=
  reached.invariant stage_step (stage_start device)

end Invariant

/-! ## Exactly once -/

def ParserAt.engaged : ParserAt → Bool
  | .completed | .marked | .selected => true
  | .outside | .admitted _ => false

def HandlerAt.awake : HandlerAt → Bool
  | .asleep => false
  | .executing | .sending _ | .releasing | .clearing => true

/-- A completed request whose handler run has not ended. -/
def ExecutionState.outstanding
    {Device : Type} (state : ExecutionState Device) : Bool :=
  state.parser.engaged || state.workQueued || state.handler.awake

/-- Upper bound on the steps left in a handler run. -/
def HandlerAt.remaining : HandlerAt → Nat
  | .asleep => 0
  | .clearing => 1
  | .releasing => 2
  | .sending tx => 3 + (tx.packetCount.toNat - tx.nextPacketIdx.toNat)
  | .executing => 3 + 2 ^ 16

/-- Completed requests and handler runs in one state. -/
structure AccountsFor {Device : Type} (state : ExecutionState Device) :
    Prop where
  counted :
    state.completed.length =
      state.finished + if state.outstanding then 1 else 0
  executedInOrder :
    state.executed.map Executed.request <+: state.completed
  startedOnce :
    state.finished ≤ state.executed.length ∧
      state.executed.length ≤ state.finished + 1
  startedByHandler :
    state.executed.length = state.finished + 1 → state.handler.awake = true
  settled :
    state.outstanding = false →
      state.executed.map Executed.request = state.completed

/-- A request on its way is in the buffer, and so is its response. -/
def HoldsRequest {Device : Type} (state : ExecutionState Device) : Prop :=
  ∃ earlier request,
    state.completed = earlier ++ [request] ∧
      state.ctx.rxBuffer = request.rxBuffer ∧
        (state.parser = .outside →
          state.ctx.currentResponse = request.response ∧
            state.ctx.busy = true)

/-- The context a handler run leaves behind. -/
structure Released (ctx : VendorHidProtocolCtx) : Prop where
  inactive : ctx.rx.active = false
  receivedBytes : ctx.rx.receivedBytes = 0
  packetCount : ctx.rx.packetCount = 0
  receivedCount : ctx.rx.receivedCount = 0
  nextExpectedPacketIdx : ctx.rx.nextExpectedPacketIdx = 0
  notBusy : ctx.busy = false

section Answers

variable
    {Device : Type}
    (geometry : PacketGeometry) (options : VendorHidOptions)
    (services : VendorHidServices Device)

/-- A context with nothing but the request in it. -/
def Request.context (request : Request) : VendorHidProtocolCtx :=
  let fresh := vendorHidProtocolInit options
  { fresh with
    rx := { fresh.rx with buffer := request.rxBuffer }
    currentResponse := request.response }

/-- The response to a request on its device, and the device afterwards. -/
def Executed.outcome (executed : Executed Device) : List UInt8 × Device :=
  executeRequest options services executed.device
    (executed.request.context options)

/-- All reports of a response. -/
def Executed.reports (executed : Executed Device) : List (List UInt8) :=
  sendResponse geometry (fun _ => 0)
    (responseSender geometry (executed.outcome options services).1)

/-- The reports the handler would still send. -/
def HandlerAt.unsent : HandlerAt → List (List UInt8)
  | .sending tx => sendResponse geometry (fun _ => 0) tx
  | .asleep | .executing | .releasing | .clearing => []

/-- Each executed request has its own reports sent, in their order. -/
def SentFor
    (executed : List (Executed Device))
    (sends : List (List (List UInt8))) : Prop :=
  List.Forall₂
    (fun executed send =>
      send <+: executed.reports geometry options services)
    executed sends

/--
What has been sent are the first reports of each response; of the one being
sent, all but those that are left.
-/
structure Answered (state : ExecutionState Device) : Prop where
  sent :
    ∃ sends,
      state.sent = sends.flatten ∧
        SentFor geometry options services state.executed sends
  sending :
    ∀ tx, state.handler = .sending tx →
      ∃ earlier executed before last,
        state.executed = earlier ++ [executed] ∧
          state.sent = before.flatten ++ last ∧
            SentFor geometry options services earlier before ∧
              last ++ state.handler.unsent geometry =
                executed.reports geometry options services

end Answers

section ExactlyOnce

variable
    {Device : Type}
    {geometry : PacketGeometry} {options : VendorHidOptions}
    {services : VendorHidServices Device}
    {state next : ExecutionState Device}

theorem Stage.accountsFor (stage : Stage options state) :
    AccountsFor state := by
  cases stage with
  | free notEngaged =>
      rcases notEngaged with rfl | ⟨report, rfl⟩ <;>
      · exact
          ⟨List.length_map _, List.prefix_rfl, by simp,
            fun more => by simp at more, fun _ => rfl⟩
  | completed | marked | selected | queued | executing =>
      exact
        ⟨by simp [ExecutionState.outstanding, ParserAt.engaged,
            HandlerAt.awake],
          List.prefix_append _ _, by simp, fun more => by simp at more,
          fun settled => by
            simp [ExecutionState.outstanding, ParserAt.engaged,
              HandlerAt.awake] at settled⟩
  | sending | releasing | clearing =>
      exact
        ⟨by simp [ExecutionState.outstanding, HandlerAt.awake],
          by simp, by simp, fun _ => rfl, fun _ => by simp⟩

theorem Stage.holdsRequest
    (stage : Stage options state) (outstanding : state.outstanding = true) :
    HoldsRequest state := by
  have fromSelected :
      ∀ {ctx : VendorHidProtocolCtx} {request : Request},
        Selected options ctx request →
          ctx.rxBuffer = request.rxBuffer ∧
            ctx.currentResponse = request.response ∧ ctx.busy = true :=
    fun selected =>
      ⟨selected.inBuffer.rxBuffer, selected.currentResponse, selected.busy⟩
  cases stage with
  | free notEngaged =>
      rcases notEngaged with rfl | ⟨report, rfl⟩ <;> cases outstanding
  | completed inBuffer =>
      exact ⟨_, _, rfl, inBuffer.rxBuffer, fun outside => by cases outside⟩
  | marked inBuffer =>
      exact ⟨_, _, rfl, inBuffer.rxBuffer, fun outside => by cases outside⟩
  | selected selected | queued selected | executing selected
  | sending selected | releasing selected | clearing selected =>
      rcases fromSelected selected with ⟨rxBuffer, rest⟩
      exact ⟨_, _, rfl, rxBuffer, fun _ => rest⟩

/-- With a request outstanding, no call is past its checks. -/
theorem Stage.not_admitted
    (stage : Stage options state) (outstanding : state.outstanding = true)
    (report : Report) :
    state.parser ≠ .admitted report := by
  intro admitted
  cases stage with
  | free notEngaged =>
      rcases notEngaged with rfl | ⟨other, rfl⟩ <;> cases outstanding
  | completed | marked | selected | queued | executing | sending
  | releasing | clearing => cases admitted

theorem callStep_ctx (state : ExecutionState Device) (report : Report) :
    (callStep state report).ctx = state.ctx := by
  rw [callStep]
  split <;> rfl

theorem handlerStep_ctx
    {sendResult : Int}
    (stepped :
      handlerStep geometry options services state sendResult =
        some next) :
    next.ctx.rxBuffer = state.ctx.rxBuffer ∧
      next.ctx.currentResponse = state.ctx.currentResponse := by
  rw [handlerStep] at stepped
  split at stepped
  · cases stepped
  · cases stepped
    exact ⟨rfl, rfl⟩
  · split at stepped <;>
    · cases stepped
      exact ⟨rfl, rfl⟩
  · cases stepped
    exact ⟨rfl, rfl⟩
  · cases stepped
    exact ⟨rfl, rfl⟩

/-- No step touches an outstanding request. -/
theorem Stage.frozen
    (stage : Stage options state) (outstanding : state.outstanding = true)
    {event : ExecutionEvent Device}
    (stepped :
      executionStep geometry options services state event = some next) :
    next.ctx.rxBuffer = state.ctx.rxBuffer ∧
      (state.parser = .outside →
        next.ctx.currentResponse = state.ctx.currentResponse) := by
  cases event with
  | call report =>
      rw [executionStep] at stepped
      split at stepped
      · cases stepped
        rw [callStep_ctx]
        exact ⟨rfl, fun _ => rfl⟩
      · cases stepped
  | parser =>
      rw [executionStep, parserStep] at stepped
      split at stepped
      · cases stepped
      · rename_i report admitted
        exact absurd admitted (stage.not_admitted outstanding report)
      · cases stepped
        exact ⟨rfl, fun _ => rfl⟩
      · rename_i marked
        cases stepped
        exact ⟨rfl, fun outside => by rw [marked] at outside; cases outside⟩
      · cases stepped
        exact ⟨rfl, fun _ => rfl⟩
  | work =>
      rw [executionStep, workStep] at stepped
      split at stepped
      · cases stepped
        exact ⟨rfl, fun _ => rfl⟩
      · cases stepped
  | handler sendResult =>
      have kept := handlerStep_ctx stepped
      exact ⟨kept.1, fun _ => kept.2⟩
  | device changed =>
      cases stepped
      exact ⟨rfl, fun _ => rfl⟩

/-- The step that ends a handler run releases the context. -/
theorem Stage.released
    (stage : Stage options state)
    {event : ExecutionEvent Device}
    (stepped :
      executionStep geometry options services state event = some next)
    (awake : state.handler.awake = true)
    (asleep : next.handler.awake = false) :
    Released next.ctx := by
  cases event with
  | handler sendResult =>
      cases stage with
      | free | completed | marked | selected | queued => cases awake
      | executing =>
          cases stepped
          cases asleep
      | sending =>
          simp only [executionStep, handlerStep] at stepped
          split at stepped
          · cases stepped
            cases asleep
          · cases stepped
            dsimp only at asleep
            split_ifs at asleep <;> cases asleep
      | releasing =>
          cases stepped
          cases asleep
      | clearing selected idle =>
          cases stepped
          exact
            ⟨idle.active, idle.receivedBytes, idle.packetCount,
              idle.receivedCount, idle.nextExpectedPacketIdx, rfl⟩
  | call report =>
      rw [executionStep] at stepped
      split at stepped
      · cases stepped
        rw [callStep] at asleep
        split at asleep <;> exact absurd awake (by simp [asleep])
      · cases stepped
  | parser =>
      cases stage with
      | free | completed | marked | selected | queued => cases awake
      | executing | sending | releasing | clearing => cases stepped
  | work =>
      cases stage with
      | free | completed | marked | selected | queued => cases awake
      | executing | sending | releasing | clearing => cases stepped
  | device changed =>
      cases stepped
      exact absurd awake (by simp [asleep])

theorem responseSender_remaining
    (geometry : PacketGeometry) (response : List UInt8) :
    (HandlerAt.sending (responseSender geometry response)).remaining <
      HandlerAt.executing.remaining := by
  have bound :=
    (ykbProtocolCalcPacketCount geometry
      (UInt16.ofNat response.length)).toNat_lt
  simp only [HandlerAt.remaining, responseSender, ykbProtocolTxInit]
  exact Nat.add_lt_add_left (Nat.lt_of_le_of_lt (Nat.sub_le _ _) bound) 3

/-- An awake handler can always step, and its run is finite. -/
theorem handler_progress
    (awake : state.handler.awake = true) (sendResult : Int) :
    ∃ next,
      executionStep geometry options services state
          (.handler sendResult) = some next ∧
        next.handler.remaining < state.handler.remaining := by
  rcases state with ⟨_, _, _, handler, _, _, _, _, _, _⟩
  cases handler with
  | asleep => cases awake
  | executing => exact ⟨_, rfl, responseSender_remaining geometry _⟩
  | sending tx =>
      simp only [executionStep, handlerStep]
      cases built : ykbProtocolTxBuildPacket geometry tx with
      | none =>
          refine ⟨_, rfl, ?_⟩
          simp only [HandlerAt.remaining]
          omega
      | some pair =>
          rcases pair with ⟨packet, rest⟩
          have less := buildPacket_decreases built
          refine ⟨_, rfl, ?_⟩
          dsimp only
          split_ifs <;> simp only [HandlerAt.remaining] <;> omega
  | releasing => exact ⟨_, rfl, Nat.lt_add_one 1⟩
  | clearing => exact ⟨_, rfl, Nat.zero_lt_one⟩

/-! ### Answers -/

/-- The handler reads the buffer and the selected response only. -/
theorem executeRequest_context
    (device : Device) (ctx : VendorHidProtocolCtx) :
    executeRequest options services device ctx =
      (⟨⟨ctx.rxBuffer, ctx.currentResponse⟩, device⟩ :
        Executed Device).outcome options services :=
  rfl

theorem answered_start (device : Device) :
    Answered geometry options services
      (ExecutionState.start options device) where
  sent := ⟨[], rfl, .nil⟩
  sending := fun _ sending => by cases sending

/-- Steps that neither execute nor send. -/
theorem Answered.same
    (answered : Answered geometry options services state)
    (executed : next.executed = state.executed)
    (sent : next.sent = state.sent)
    (handler :
      next.handler = state.handler ∨ ∀ tx, next.handler ≠ .sending tx) :
    Answered geometry options services next where
  sent := by
    rw [executed, sent]
    exact answered.sent
  sending := by
    intro tx sending
    rcases handler with same | none
    · rw [executed, sent, same]
      exact answered.sending tx (same ▸ sending)
    · exact absurd sending (none tx)

theorem sentFor_append
    {earlier : List (Executed Device)} {executed : Executed Device}
    {before : List (List (List UInt8))} {last : List (List UInt8)}
    (sentBefore : SentFor geometry options services earlier before)
    (first : last <+: executed.reports geometry options services) :
    SentFor geometry options services (earlier ++ [executed])
      (before ++ [last]) :=
  List.rel_append sentBefore (.cons first .nil)

/-- Sending a response that is sent up to `last`. -/
theorem answered_sending
    {earlier : List (Executed Device)}
    {executed : Executed Device} {before : List (List (List UInt8))}
    {last : List (List UInt8)}
    (isExecuted : state.executed = earlier ++ [executed])
    (isSent : state.sent = before.flatten ++ last)
    (sentBefore : SentFor geometry options services earlier before)
    (first : last <+: executed.reports geometry options services)
    (rest :
      ∀ tx, state.handler = .sending tx →
        last ++ state.handler.unsent geometry =
          executed.reports geometry options services) :
    Answered geometry options services state where
  sent := by
    refine ⟨before ++ [last], ?_, ?_⟩
    · rw [isSent, List.flatten_append, List.flatten_singleton]
    · rw [isExecuted]
      exact sentFor_append sentBefore first
  sending := fun tx sending =>
    ⟨earlier, executed, before, last, isExecuted, isSent, sentBefore,
      rest tx sending⟩

theorem answered_handlerStep
    (answered : Answered geometry options services state)
    {sendResult : Int}
    (stepped :
      handlerStep geometry options services state sendResult =
        some next) :
    Answered geometry options services next := by
  rw [handlerStep] at stepped
  split at stepped
  · cases stepped
  · rename_i executing
    cases stepped
    rcases answered.sent with ⟨sends, isSent, sentFor⟩
    refine
      answered_sending rfl (by rw [isSent, List.append_nil]) sentFor
        List.nil_prefix fun tx _ => ?_
    rw [List.nil_append, HandlerAt.unsent, executeRequest_context,
      Executed.reports]
  · rename_i tx sending
    rcases answered.sending tx sending with
      ⟨earlier, executed, before, last, isExecuted, isSent, sentFor, rest⟩
    rw [sending, HandlerAt.unsent] at rest
    split at stepped
    · cases stepped
      exact
        answered_sending isExecuted isSent sentFor ⟨_, rest⟩
          fun tx releasing => by cases releasing
    · rename_i packet rest' built
      rw [sendResponse_some built, if_neg (by decide)] at rest
      cases stepped
      have moved :
          last ++ [packetReport geometry rest' packet] ++
              sendResponse geometry (fun _ => 0) rest' =
            executed.reports geometry options services := by
        rw [List.append_assoc, List.singleton_append]
        exact rest
      refine
        answered_sending isExecuted (by rw [isSent, List.append_assoc])
          sentFor ⟨_, moved⟩ fun tx goesOn => ?_
      dsimp only at goesOn ⊢
      split_ifs at goesOn ⊢
      exact moved
  · cases stepped
    exact answered.same rfl rfl (.inr fun tx clearing => by cases clearing)
  · cases stepped
    exact answered.same rfl rfl (.inr fun tx asleep => by cases asleep)

theorem answered_step
    (state : ExecutionState Device) (event : ExecutionEvent Device)
    (next : ExecutionState Device)
    (answered : Answered geometry options services state)
    (stepped :
      executionStep geometry options services state event = some next) :
    Answered geometry options services next := by
  cases event with
  | call report =>
      rw [executionStep] at stepped
      split at stepped
      · cases stepped
        rw [callStep]
        split <;> exact answered.same rfl rfl (.inl rfl)
      · cases stepped
  | parser =>
      rw [executionStep, parserStep] at stepped
      split at stepped
      · cases stepped
      · cases stepped
        split_ifs <;> exact answered.same rfl rfl (.inl rfl)
      all_goals
        cases stepped
        exact answered.same rfl rfl (.inl rfl)
  | work =>
      rw [executionStep, workStep] at stepped
      split at stepped
      · cases stepped
        exact
          answered.same rfl rfl (.inr fun tx executing => by cases executing)
      · cases stepped
  | handler sendResult => exact answered_handlerStep answered stepped
  | device changed =>
      cases stepped
      exact answered.same rfl rfl (.inl rfl)

/-- The step that executes takes up the one completed request left. -/
theorem Stage.executes
    (stage : Stage options state) (executing : state.handler = .executing)
    {sendResult : Int}
    (stepped :
      executionStep geometry options services state
          (.handler sendResult) =
        some next) :
    ∃ executed : Executed Device,
      executed.device = state.device ∧
        state.completed =
            state.executed.map Executed.request ++ [executed.request] ∧
          next.executed = state.executed ++ [executed] ∧
            next.device = (executed.outcome options services).2 ∧
              next.handler =
                .sending
                  (responseSender geometry
                    (executed.outcome options services).1) := by
  cases stage with
  | free | completed | marked | selected | queued | sending | releasing
  | clearing => cases executing
  | @executing ctx device _ _ request _ selected =>
      cases stepped
      refine
        ⟨⟨⟨ctx.rxBuffer, ctx.currentResponse⟩, device⟩, rfl, ?_, rfl, rfl,
          rfl⟩
      rw [selected.inBuffer.rxBuffer, selected.currentResponse]

/-- A send that succeeds takes its report from those left. -/
theorem sends_one
    {tx : YkbProtocolTxState} (sending : state.handler = .sending tx)
    (stepped :
      executionStep geometry options services state (.handler 0) =
        some next) :
    next.sent ++ next.handler.unsent geometry =
      state.sent ++ state.handler.unsent geometry := by
  rw [executionStep, handlerStep, sending] at stepped
  dsimp only at stepped
  rw [sending, HandlerAt.unsent]
  split at stepped
  · rename_i done
    cases stepped
    rw [sendResponse_none done]
    rfl
  · rename_i packet rest built
    cases stepped
    rw [sendResponse_some built, if_neg (by decide), if_neg (by decide),
      List.append_assoc]
    rfl

/-- Only that step and other threads change the device. -/
theorem device_kept
    {event : ExecutionEvent Device}
    (notOther : ∀ changed, event ≠ .device changed)
    (notExecuting : state.handler ≠ .executing)
    (stepped :
      executionStep geometry options services state event = some next) :
    next.device = state.device := by
  cases event with
  | call report =>
      rw [executionStep] at stepped
      split at stepped
      · cases stepped
        rw [callStep]
        split <;> rfl
      · cases stepped
  | parser =>
      rw [executionStep, parserStep] at stepped
      split at stepped
      · cases stepped
      · cases stepped
        split_ifs <;> rfl
      all_goals
        cases stepped
        rfl
  | work =>
      rw [executionStep, workStep] at stepped
      split at stepped
      · cases stepped
        rfl
      · cases stepped
  | handler sendResult =>
      rw [executionStep, handlerStep] at stepped
      split at stepped
      · cases stepped
      · rename_i executing
        exact absurd executing notExecuting
      · split at stepped <;>
        · cases stepped
          rfl
      · cases stepped
        rfl
      · cases stepped
        rfl
  | device changed => exact absurd rfl (notOther changed)

end ExactlyOnce

/-- How the request taken up is carried out and answered. -/
structure CarriesOut
    {Device : Type}
    (geometry : PacketGeometry) (options : VendorHidOptions)
    (services : VendorHidServices Device)
    (state : ExecutionState Device) : Prop where
  executes :
    state.handler = .executing → ∀ sendResult next,
      executionStep geometry options services state
            (.handler sendResult) =
          some next →
        ∃ executed : Executed Device,
          executed.device = state.device ∧
            state.completed =
                state.executed.map Executed.request ++
                  [executed.request] ∧
              next.executed = state.executed ++ [executed] ∧
                next.device = (executed.outcome options services).2 ∧
                  next.handler =
                    .sending
                      (responseSender geometry
                        (executed.outcome options services).1)
  deviceKept :
    state.handler ≠ .executing → ∀ event next,
      (∀ changed, event ≠ .device changed) →
        executionStep geometry options services state event = some next →
          next.device = state.device
  sendsOne :
    ∀ tx next, state.handler = .sending tx →
      executionStep geometry options services state (.handler 0) =
          some next →
        next.sent ++ next.handler.unsent geometry =
          state.sent ++ state.handler.unsent geometry
  answered : Answered geometry options services state

/--
In every interleaving each completed request is executed exactly once and on
its own bytes: completed requests and handler runs are in step, an
outstanding request stays in the buffer untouched, calls meanwhile are turned
away with EBUSY, and every handler run ends, leaving the receiver idle.  A
run changes the device as its request asks and sends the response to it.
-/
theorem executes_each_request_once
    {Device : Type}
    (geometry : PacketGeometry) (options : VendorHidOptions)
    (services : VendorHidServices Device) (device : Device)
    (state : ExecutionState Device)
    (reached :
      Reachable (executionStep geometry options services)
        (ExecutionState.start options device) state) :
    AccountsFor state ∧
      CarriesOut geometry options services state ∧
      (state.outstanding = true →
        HoldsRequest state ∧
          ∀ event next,
            executionStep geometry options services state event =
                some next →
              next.ctx.rxBuffer = state.ctx.rxBuffer ∧
                (state.parser = .outside →
                  next.ctx.currentResponse = state.ctx.currentResponse)) ∧
        (∀ report,
          state.parser = .outside → state.ctx.busy = true →
            executionStep geometry options services state (.call report) =
              some { state with returned := some .eBusy }) ∧
          (∀ event next,
            executionStep geometry options services state event =
                some next →
              state.handler.awake = true → next.handler.awake = false →
                Released next.ctx) ∧
            ∀ sendResult,
              state.handler.awake = true →
                ∃ next,
                  executionStep geometry options services state
                      (.handler sendResult) = some next ∧
                    next.handler.remaining < state.handler.remaining := by
  have stage := stage_of_reachable reached
  refine ⟨stage.accountsFor, ⟨?_, ?_, ?_, ?_⟩, ?_, ?_, ?_, ?_⟩
  · intro executing sendResult next stepped
    exact stage.executes executing stepped
  · intro notExecuting event next notOther stepped
    exact device_kept notOther notExecuting stepped
  · intro tx next sending stepped
    exact sends_one sending stepped
  · exact reached.invariant answered_step (answered_start device)
  · intro outstanding
    exact
      ⟨stage.holdsRequest outstanding, fun event next stepped =>
        stage.frozen outstanding stepped⟩
  · intro report outside busy
    exact call_busy outside busy report
  · intro event next stepped awake asleep
    exact stage.released stepped awake asleep
  · intro sendResult awake
    exact handler_progress awake sendResult

/-! ### A request in two packets -/

/-- A device that is its settings. -/
def settingsServices : VendorHidServices (List UInt8) where
  features := []
  kbHandlerCoreGetValues := fun _ => []
  kbSettingsGet := fun settings => .ok settings
  kbSettingsApply := fun _ settings => (0, settings)
  ykbBacklightGetScriptSlot := fun _ _ => .error (-22)
  ykbBacklightSetScriptSlot := fun settings _ _ => (0, settings)
  ykbBattsenseGetState := fun _ => .ok []
  secondaryBattState := fun _ => []

def firstPacketReport : Report where
  data := Memory.ofList [90, 157, 1, 4, 0, 0, 0, 2, 0, 5, 0, 3, 10, 20]
  len := 14

def secondPacketReport : Report where
  data := Memory.ofList [79, 161, 1, 8, 0, 1, 0, 2, 0, 5, 0, 30, 40, 0]
  len := 14

/-- SET_SETTINGS in two packets, a call while busy, and the handler's run. -/
def settingsRequestRun : List (ExecutionEvent (List UInt8)) :=
  [.call firstPacketReport, .parser,
    .call secondPacketReport, .parser, .parser, .parser, .parser,
    .call firstPacketReport, .work,
    .handler 0, .handler 0, .handler 0, .handler 0, .handler 0]

theorem settingsRequestRun_succeeds :
    (run (executionStep threeByteGeometry fourByteOptions settingsServices)
        (ExecutionState.start fourByteOptions [])
        settingsRequestRun).isSome = true := by
  decide +kernel

/-- The settings that were sent are applied, once, and this is answered. -/
theorem settings_request_executed :
    ∃ state,
      run (executionStep threeByteGeometry fourByteOptions settingsServices)
          (ExecutionState.start fourByteOptions []) settingsRequestRun =
        some state ∧
      state.device = [10, 20, 30, 40] ∧ state.returned = some .eBusy ∧
      state.finished = 1 ∧ state.executed.length = 1 ∧
      state.sent = [[76, 198, 1, 12, 0, 0, 0, 1, 0, 1, 0, 3]] ∧
      AccountsFor state ∧
      CarriesOut threeByteGeometry fourByteOptions settingsServices state := by
  have ran := (Option.some_get settingsRequestRun_succeeds).symm
  have proved :=
    executes_each_request_once threeByteGeometry fourByteOptions
      settingsServices [] _ ⟨settingsRequestRun, ran⟩
  exact
    ⟨_, ran, by decide +kernel, by decide +kernel, by decide +kernel,
      by decide +kernel, by decide +kernel, proved.1, proved.2.1⟩

/-! ## The steps make up the source functions -/

section Composition

variable
    {Device : Type}
    (geometry : PacketGeometry) (options : VendorHidOptions)
    (services : VendorHidServices Device)

/-- The call ended in `final` with what the parser function returns. -/
structure ReturnedFrom
    (state : ExecutionState Device) (outcome : ParseOutcome)
    (final : ExecutionState Device) : Prop where
  parser : final.parser = .outside
  ctx : final.ctx = outcome.ctx
  returned : final.returned = some outcome.returned
  workQueued :
    final.workQueued = (state.workQueued || outcome.submitted)

/-- A call whose steps are not interleaved is `vendor_hid_protocol_parse`. -/
theorem call_is_parse
    (state : ExecutionState Device) (outside : state.parser = .outside)
    (report : Report) :
    ∃ steps final,
      run (executionStep geometry options services) state
          (.call report :: List.replicate steps .parser) = some final ∧
        ReturnedFrom state
          (vendorHidProtocolParse geometry options state.ctx report)
          final := by
  have entered :
      executionStep geometry options services state (.call report) =
        some (callStep state report) := by
    rw [executionStep, outside]
  simp only [run_cons, entered, Option.bind_some]
  cases guarded : parseGuard state.ctx report with
  | some returned =>
      refine ⟨0, callStep state report, rfl, ?_⟩
      simp only [callStep, vendorHidProtocolParse, guarded]
      exact ⟨outside, rfl, rfl, (Bool.or_false _).symm⟩
  | none =>
      simp only [callStep, vendorHidProtocolParse, guarded]
      split_ifs with isError partly
      · refine
          ⟨1,
            { state with
              ctx :=
                { state.ctx with
                  rx := (parsePush geometry state.ctx report).state }
              parser := .outside
              returned :=
                some
                  (.protocolError
                    (parsePush geometry state.ctx report).result) },
            ?_, ⟨rfl, rfl, rfl, (Bool.or_false _).symm⟩⟩
        simp [executionStep, parserStep, isError]
      · refine
          ⟨1,
            { state with
              ctx :=
                { state.ctx with
                  rx := (parsePush geometry state.ctx report).state }
              parser := .outside
              returned := some .zero },
            ?_, ⟨rfl, rfl, rfl, (Bool.or_false _).symm⟩⟩
        simp [executionStep, parserStep, isError, partly]
      · refine ⟨4, ?_⟩
        simp [executionStep, parserStep, isError, partly, List.replicate]
        exact ⟨rfl, rfl, rfl, (Bool.or_true _).symm⟩

/-- The sending steps are the send loop. -/
theorem sending_is_sendResponse
    (sendPacket : List UInt8 → Int) (tx : YkbProtocolTxState)
    (state : ExecutionState Device) (sending : state.handler = .sending tx) :
    ∃ events,
      run (executionStep geometry options services) state events =
        some
          { state with
            handler := .releasing
            sent :=
              state.sent ++ sendResponse geometry sendPacket tx } := by
  induction tx using sendResponse.induct geometry sendPacket
    generalizing state with
  | case1 tx done =>
      refine ⟨[.handler 0], ?_⟩
      simp [executionStep, handlerStep, sending, done,
        sendResponse_none done]
  | case2 tx packet next built report failed =>
      refine ⟨[.handler (sendPacket report)], ?_⟩
      rw [sendResponse_some built, if_pos failed]
      simp [executionStep, handlerStep, sending, built, failed, report]
  | case3 tx packet next built report sent induction =>
      have stepped :
          executionStep geometry options services state
              (.handler (sendPacket report)) =
            some
              { state with
                handler := .sending next
                sent := state.sent ++ [report] } := by
        simp only [executionStep, handlerStep, sending, built, report,
          if_neg sent]
      rcases
          induction
            { state with
              handler := .sending next
              sent := state.sent ++ [report] }
            rfl with
        ⟨events, ran⟩
      refine ⟨.handler (sendPacket report) :: events, ?_⟩
      rw [run_cons, stepped, Option.bind_some, ran,
        sendResponse_some built, if_neg sent]
      simp [report]

/-- The steps of a handler run make up `response_work_handler`. -/
theorem work_is_responseWorkHandler
    (sendPacket : List UInt8 → Int)
    (state : ExecutionState Device)
    (queued : state.workQueued = true)
    (asleep : state.handler = .asleep) :
    ∃ events final,
      run (executionStep geometry options services) state
          (.work :: events) = some final ∧
        final.handler = .asleep ∧ final.workQueued = false ∧
          ResponseOutcome.mk final.ctx final.device final.sent =
            (fun outcome =>
              { outcome with sent := state.sent ++ outcome.sent })
              (responseWorkHandler geometry options services sendPacket
                state.device state.ctx) := by
  have started :
      executionStep geometry options services state .work =
        some { state with workQueued := false, handler := .executing } := by
    simp only [executionStep, workStep, queued, asleep]
  rcases
      sending_is_sendResponse geometry options services sendPacket _
        { state with
          workQueued := false
          handler :=
            .sending
              (responseSender geometry
                (executeRequest options services state.device
                  state.ctx).1)
          device :=
            (executeRequest options services state.device state.ctx).2
          executed :=
            state.executed ++
              [⟨⟨state.ctx.rxBuffer, state.ctx.currentResponse⟩,
                state.device⟩] }
        rfl with
    ⟨sends, ran⟩
  refine ⟨.handler 0 :: (sends ++ [.handler 0, .handler 0]), ?_⟩
  rw [run_cons, started, Option.bind_some, run_cons]
  simp only [executionStep, handlerStep, Option.bind_some] at ran ⊢
  rw [run_append, ran]
  exact ⟨_, rfl, rfl, rfl, rfl⟩

end Composition

end YkbFirmware.VendorHid.Execution
