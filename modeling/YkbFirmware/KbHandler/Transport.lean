import YkbFirmware.Library.TransitionSystem
import YkbFirmware.KbHandler.Effects

/-!
# Transports

Each keyboard report goes to the transport the priority of that moment
selects, but `prev_kb_report` is one record for both hosts.  A shortcut that
changes the transport while keys are down therefore leaves the old host with
its last report: the release is reported to the new one.

The file states when a shortcut does not, proves that such runs release every
host, and exhibits a run which does not.
-/

namespace YkbFirmware.KbHandler.Transport

open YkbFirmware.Library.TransitionSystem
open YkbFirmware.KbHandler.Settings
open YkbFirmware.KbHandler.Report
open YkbFirmware.KbHandler.Core
open YkbFirmware.KbHandler.Frames
open YkbFirmware.KbHandler.Transition
open YkbFirmware.KbHandler.Effects

/-! ## Selection of a transport -/

/-- The transports the firmware is built with. -/
structure TransportOptions where
  btConnectKbd : Bool
  usbConnectKbd : Bool

inductive KbTransport where
  | usb
  | bt
deriving DecidableEq, Repr

/--
`kb_handler_transport_send_kb_report`: the transport the report is sent on,
if any.
-/
def kbHandlerTransportSendKbReport
    (options : TransportOptions) (usbReady btReady : Bool)
    (prio : KbhTransportPrio) : Option KbTransport :=
  match options.btConnectKbd, options.usbConnectKbd with
  | true, true =>
      match usbReady, btReady with
      | true, true =>
          match prio with
          | .usb => some .usb
          | .bt => some .bt
          | .other _ => none
      | true, false => some .usb
      | false, true => some .bt
      | false, false => none
  | true, false => if btReady then some .bt else none
  | false, true => if usbReady then some .usb else none
  | false, false => none

/-- The selection with both hosts ready. -/
def routeOf
    (options : TransportOptions) (prio : KbhTransportPrio) :
    Option KbTransport :=
  kbHandlerTransportSendKbReport options true true prio

/-- The reports delivered on a transport, both hosts being ready. -/
def deliveredOn
    (options : TransportOptions) (transport : KbTransport)
    (sends : List (HidKbReport × KbhTransportPrio)) : List HidKbReport :=
  (sends.filter fun send =>
    decide (routeOf options send.2 = some transport)).map Prod.fst

/-- The last report the host at the other end received. -/
def lastOn
    (options : TransportOptions) (transport : KbTransport)
    (st : KbhRuntimeState) : Option HidKbReport :=
  (deliveredOn options transport (kbSends st)).getLast?

/-! ## Released hosts -/

/-- No modifier and no key. -/
structure NoneDown (report : HidKbReport) : Prop where
  mods : report.mods = 0
  keys : ∀ code ∈ report.keys.val, code = 0

theorem noneDown_zero : NoneDown HidKbReport.zero where
  mods := rfl
  keys := fun _ member => List.eq_of_mem_replicate member

/-- The last report delivered on the transport, if any, shows no key. -/
def Released
    (options : TransportOptions) (transport : KbTransport)
    (st : KbhRuntimeState) : Prop :=
  ∀ report, lastOn options transport st = some report → NoneDown report

/-- Once the handler is idle, both hosts are released. -/
def IdleReleased
    (options : TransportOptions) (config : KbHandlerConfig)
    (st : KbhRuntimeState) : Prop :=
  (∀ key < config.totalKeyCount, st.pressedKeys key = false) →
    st.prevKbReport = HidKbReport.zero →
      ∀ transport, Released options transport st

/-! ## Runs -/

inductive KeyEvent where
  | keyValue (env : KbhEnvironment) (key : Nat) (value : UInt16)
  | frameEnd (nowMs : Int)

/-- An event which leaves the handler in NORMAL or RACE mode. -/
def keyStep
    (config : KbHandlerConfig) (st : KbhRuntimeState) (event : KeyEvent) :
    Option KbhRuntimeState :=
  let next :=
    match event with
    | .keyValue env key value => (processKeyValue config env st key value).1
    | .frameEnd nowMs => finishValueFrame config st nowMs
  if next.activeMode = .normal ∨ next.activeMode = .race then
    some next
  else
    none

/-- The priority an action selects. -/
def selectedPrio : KbFnAction → Option KbhTransportPrio
  | .transportUsb => some .usb
  | .transportBt => some .bt
  | _ => none

/--
A shortcut that sends the following reports elsewhere leaves a released host
behind.
-/
def LeavesReleased
    (options : TransportOptions) (config : KbHandlerConfig)
    (st : KbhRuntimeState) : KeyEvent → Prop
  | .keyValue _ key value =>
      LooksForShortcut config st key value →
        ∀ shortcut prio,
          findFnShortcut st.settings (st.resolvedHid key) = some shortcut →
            selectedPrio shortcut.action = some prio →
              routeOf options prio ≠
                  routeOf options st.settings.kbhPrio →
                ∀ transport,
                  routeOf options st.settings.kbhPrio = some transport →
                    Released options transport st
  | .frameEnd _ => True

section Deliveries

variable
    {options : TransportOptions} {config : KbHandlerConfig}
    {transport : KbTransport} {st next : KbhRuntimeState}

theorem lastOn_congr (same : kbSends next = kbSends st) :
    lastOn options transport next = lastOn options transport st := by
  rw [lastOn, lastOn, same]

/-- A send shows on the transport it is routed to, and on no other. -/
theorem lastOn_send
    {report : HidKbReport} {prio : KbhTransportPrio}
    (sent : kbSends next = kbSends st ++ [(report, prio)]) :
    lastOn options transport next =
      if routeOf options prio = some transport then
        some report
      else
        lastOn options transport st := by
  rw [lastOn, lastOn, sent, deliveredOn, deliveredOn, List.filter_append,
    List.map_append]
  split_ifs with routed <;> simp [routed]

/-- An action changes the priority to the one it selects. -/
theorem executeFnAction_prio
    {slots : ScriptSlotTable} {shortcut : KbFnShortcut}
    {settings changed : KbSettings}
    (executed :
      executeFnAction config slots shortcut settings = some changed) :
    changed.kbhPrio =
      (selectedPrio shortcut.action).getD settings.kbhPrio := by
  have cycle : ∀ step,
      (mutateBlCycleScript slots settings step).kbhPrio =
        settings.kbhPrio := by
    intro step
    rw [mutateBlCycleScript]
    split <;> rfl
  rcases shortcut with ⟨key, action, param⟩
  cases action with
  | none | other => cases executed
  | modeNormal | modeRace | modeMousesim | transportUsb | transportBt =>
      cases executed
      rfl
  | blToggle | blBrightnessUp | blBrightnessDown | blSpeedUp | blSpeedDown
  | blSetBrightness | blSetSpeed =>
      simp only [executeFnAction] at executed
      split_ifs at executed
      cases executed
      rfl
  | blNextScript | blPrevScript =>
      simp only [executeFnAction] at executed
      split_ifs at executed
      cases executed
      exact cycle _
  | blSetScript =>
      simp only [executeFnAction] at executed
      split_ifs at executed
      cases executed
      rw [mutateBlSetScript]
      split_ifs <;> rfl

/-! ## The invariant -/

/--
Each host is released, or it is the one reports go to and knows the cached
report.
-/
def Informed
    (options : TransportOptions) (st : KbhRuntimeState) : Prop :=
  ∀ transport,
    Released options transport st ∨
      routeOf options st.settings.kbhPrio = some transport ∧
        lastOn options transport st = some st.prevKbReport

theorem Informed.idleReleased (informed : Informed options st) :
    IdleReleased options config st := by
  intro _ zero transport
  rcases informed transport with released | ⟨_, last⟩
  · exact released
  · intro report delivered
    rw [last, zero] at delivered
    cases delivered
    exact noneDown_zero

theorem threadStart_informed (settings : KbSettings) :
    Informed options (threadStart config settings) := by
  intro transport
  left
  intro report last
  have sent :
      kbSends (threadStart config settings) =
        [(HidKbReport.zero, settings.kbhPrio)] :=
    rfl
  rw [lastOn, sent] at last
  have member := List.mem_of_getLast? last
  rw [deliveredOn, List.mem_map] at member
  rcases member with ⟨send, filtered, rfl⟩
  have listed := List.mem_of_mem_filter filtered
  rw [List.mem_singleton.mp listed]
  exact noneDown_zero

theorem Informed.silent
    (informed : Informed options st) (quiet : Silent st next) :
    Informed options next := by
  intro transport
  have last := @lastOn_congr options transport _ _ quiet.sends
  rw [Released, last, quiet.settings, quiet.prevKbReport]
  exact informed transport

theorem Informed.sent
    (informed : Informed options st) (report : HidKbReport) :
    Informed options (sendKbReport st report) := by
  rw [sendKbReport]
  dsimp only
  split_ifs with same
  · exact informed.silent ⟨rfl, rfl, rfl, rfl, rfl, rfl, rfl⟩
  · intro transport
    have last :
        ∀ other,
          lastOn options other
              { ({ st with kbReport := report }.emit
                  (.sendKbReport report st.settings.kbhPrio)) with
                prevKbReport := report } =
            if routeOf options st.settings.kbhPrio = some other then
              some report
            else
              lastOn options other st := by
      intro other
      apply lastOn_send
      simp [kbSends, KbhRuntimeState.emit, KbhOutput.kbSend?]
    by_cases routed :
        routeOf options st.settings.kbhPrio = some transport
    · right
      refine ⟨routed, ?_⟩
      rw [last, if_pos routed]
    · left
      rw [Released, last, if_neg routed]
      rcases informed transport with released | ⟨impossible, _⟩
      · exact released
      · exact absurd impossible routed

theorem Informed.reports
    (reported : Reports st next) (informed : Informed options st) :
    Informed options next := by
  induction reported with
  | silent quiet => exact informed.silent quiet
  | sent before report => exact informed.sent report
  | trans _ _ earlier later => exact later (earlier informed)

/-- A shortcut that leaves a released host behind keeps both informed. -/
theorem Informed.shortcut
    {env : KbhEnvironment} {shortcut : KbFnShortcut}
    (informed : Informed options st)
    (leaves :
      ∀ prio, selectedPrio shortcut.action = some prio →
        routeOf options prio ≠ routeOf options st.settings.kbhPrio →
          ∀ transport,
            routeOf options st.settings.kbhPrio = some transport →
              Released options transport st) :
    Informed options (runFnShortcut config env st shortcut) := by
  rw [runFnShortcut]
  split
  · exact informed
  · rename_i changed executed
    have prio := executeFnAction_prio executed
    have applied :
        Informed options
          ({ st with settings := changed }.emit
            (.settingsApply changed)) := by
      intro transport
      have last :
          lastOn options transport
              ({ st with settings := changed }.emit
                (.settingsApply changed)) =
            lastOn options transport st :=
        lastOn_congr (kbSends_emit rfl)
      rw [Released, last]
      rcases informed transport with released | ⟨routed, known⟩
      · exact .inl released
      · by_cases stays :
            routeOf options changed.kbhPrio =
              routeOf options st.settings.kbhPrio
        · exact .inr ⟨stays.trans routed, known⟩
        · left
          cases selected : selectedPrio shortcut.action with
          | none =>
              rw [selected, Option.getD_none] at prio
              exact absurd (congrArg (routeOf options) prio) stays
          | some target =>
              rw [selected, Option.getD_some] at prio
              rw [prio] at stays
              exact leaves target selected stays transport routed
    dsimp only
    split_ifs
    · exact applied
    · exact applied

theorem Informed.step
    {event : KeyEvent} (informed : Informed options st)
    (leaves : LeavesReleased options config st event)
    (stepped : keyStep config st event = some next) :
    Informed options next := by
  simp only [keyStep] at stepped
  split_ifs at stepped
  cases stepped
  cases event with
  | frameEnd nowMs => exact informed.reports (finishValueFrame_reports nowMs)
  | keyValue env key value =>
      rcases @processKeyValue_cases config st key env value with
        reported | ⟨looks, shortcut, middle, found, before, after⟩
      · exact informed.reports reported
      · have reached := informed.silent before
        have ran :
            Informed options (runFnShortcut config env middle shortcut) := by
          apply reached.shortcut
          rw [before.settings]
          intro prio selected moves transport routed
          rw [Released, lastOn_congr before.sends]
          exact leaves looks shortcut prio found selected moves transport routed
        exact ran.silent after

end Deliveries

/--
With both hosts ready, in every run of key events in NORMAL or RACE mode
whose shortcuts leave a released host behind: whenever no key is pressed and
the cached report is empty, both hosts are released.
-/
theorem transports_released_when_idle
    (options : TransportOptions) (config : KbHandlerConfig)
    (settings : KbSettings) (events : List KeyEvent)
    (leaves :
      StepsMeet (keyStep config) (LeavesReleased options config)
        (threadStart config settings) events) :
    Throughout (keyStep config) (IdleReleased options config)
      (threadStart config settings) events :=
  throughout_of_stepsMeet
    (fun _ _ _ informed guard stepped => informed.step guard stepped)
    (fun _ informed => informed.idleReleased)
    (threadStart_informed settings) leaves

/-! ## A host that keeps a key -/

def bothTransports : TransportOptions where
  btConnectKbd := true
  usbConnectKbd := true

/-- Keys 0, 1 and 2 are FN, `A` and `B`; FN with `B` selects Bluetooth. -/
def switchingSettings : KbSettings :=
  { plainSettings with
    mappingsLayer1 := fun key =>
      match key with
      | 0 => keyFn
      | 1 => 0x04
      | 2 => 0x05
      | _ => keyNokey
    fnShortcutsCount := 1
    fnShortcuts := fun _ => ⟨0x05, .transportBt, 0⟩ }

def keyValueEvent (key : Nat) (value : UInt16) : KeyEvent :=
  .keyValue ⟨⟨0, fun _ => false, fun _ => 0⟩, true⟩ key value

/-- Bluetooth is selected first; then `A` is pressed and released. -/
theorem switch_between_keys_releases :
    Throughout (keyStep eightKeys) (IdleReleased bothTransports eightKeys)
      (threadStart eightKeys switchingSettings)
      [keyValueEvent 0 1, keyValueEvent 2 1, keyValueEvent 2 0,
        keyValueEvent 0 0, keyValueEvent 1 1, keyValueEvent 1 0] := by
  apply transports_released_when_idle
  refine ⟨fun looks => absurd looks.fnActive (by decide), ?_⟩
  rintro _ ⟨⟩
  refine ⟨?_, ?_⟩
  · intro _ _ _ _ _ _ transport routed report last
    cases routed
    cases last
    exact noneDown_zero
  rintro _ ⟨⟩
  refine ⟨fun looks => absurd looks.down (by decide), ?_⟩
  rintro _ ⟨⟩
  refine ⟨fun looks => absurd looks.down (by decide), ?_⟩
  rintro _ ⟨⟩
  refine ⟨fun looks => absurd looks.fnActive (by decide), ?_⟩
  rintro _ ⟨⟩
  refine ⟨fun looks => absurd looks.down (by decide), ?_⟩
  rintro _ ⟨⟩
  exact trivial

/-- `A` is pressed on USB and released on Bluetooth: USB keeps it. -/
theorem switch_keeps_key_down :
    ¬ ∀ (options : TransportOptions) (config : KbHandlerConfig)
        (settings : KbSettings) (events : List KeyEvent),
      settings.mode = .normal →
        Throughout (keyStep config) (IdleReleased options config)
          (threadStart config settings) events := by
  intro always
  have throughout :=
    always bothTransports eightKeys switchingSettings
      [keyValueEvent 1 1, keyValueEvent 0 1, keyValueEvent 2 1,
        keyValueEvent 2 0, keyValueEvent 0 0, keyValueEvent 1 0] rfl
  have ran :
      ∃ finish,
        run (keyStep eightKeys) (threadStart eightKeys switchingSettings)
            [keyValueEvent 1 1, keyValueEvent 0 1, keyValueEvent 2 1,
              keyValueEvent 2 0, keyValueEvent 0 0, keyValueEvent 1 0] =
          some finish ∧
        (∀ key < eightKeys.totalKeyCount,
            finish.pressedKeys key = false) ∧
          finish.prevKbReport = HidKbReport.zero ∧
            ∃ report, lastOn bothTransports .usb finish = some report ∧
              report.keys.val = [4, 0, 0, 0, 0, 0] := by
    exact ⟨_, rfl, by decide, rfl, _, rfl, rfl⟩
  rcases ran with ⟨finish, ran, up, zero, report, last, keys⟩
  have down := (throughout.finish ran up zero .usb report last).keys 4
  rw [keys] at down
  exact absurd (down (by simp)) (by decide)

end YkbFirmware.KbHandler.Transport
