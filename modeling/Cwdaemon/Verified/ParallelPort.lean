import Cwdaemon.Daemon.ParallelPort
import Cwdaemon.Verified.KeyLine

/-! # The pins of the parallel port

A run of the daemon, down to the registers of the parallel port: what somebody sees who
watches the pins of the port is what the clients and libcw have asked for, and a port that
the daemon has given up is at rest.
-/

namespace Cwdaemon

open Register

/-! ## The functions of the pins -/

/-- What is to be seen at the pins, apart from PTT. -/
structure Panel where
  enabled : Bool
  key : Bool
  soundcard : Bool
  band : Nat
  deriving DecidableEq, Repr

namespace Panel

/-- A port after a reset. -/
def atRest : Panel := ⟨true, false, false, 0⟩

/-- A port that is not in use. -/
def disabled : Panel := ⟨false, false, false, 0⟩

end Panel

/-- The number in binary at the pins 9, 8, 7 and 2. -/
def bandOf (data : BitVec 8) : Nat := ((data &&& 0x01#8) ||| ((data >>> 4) &&& 0x0e#8)).toNat

theorem bandOf_bandPattern {band : Int} (least : 0 ≤ band) (most : band ≤ 15) :
    bandOf (bandPattern (BitVec.ofInt 8 band)) = band.toNat := by
  have all : ∀ band : Fin 16, bandOf (bandPattern (BitVec.ofInt 8 band)) = band := by decide
  obtain ⟨number, rfl⟩ := Int.eq_ofNat_of_zero_le least
  exact all ⟨number, by omega⟩

namespace Parport

variable (port : Parport) (on : Bool)

def panel : Panel where
  enabled := test PARPORT_CONTROL_STROBE port.control
  key := !test PARPORT_CONTROL_SELECT port.control
  soundcard := test PARPORT_CONTROL_AUTOFD port.control
  band := bandOf port.data

def ptt : Bool := test PARPORT_CONTROL_INIT port.control

/-! Every method changes what it is for, and nothing else. -/

@[simp] theorem panel_lpCw : (port.lpCw on).panel = { port.panel with key := on } := by
  cases on <;> simp (disch := decide) only [panel, lpCw, parportControl, test_frob_set, test_frob_clear,
    test_frob_other, if_true, if_false, Bool.false_eq_true, Bool.not_true, Bool.not_false]

@[simp] theorem ptt_lpCw : (port.lpCw on).ptt = port.ptt := by
  cases on <;> simp (disch := decide) only [ptt, lpCw, parportControl, test_frob_other, if_true, if_false,
    Bool.false_eq_true]

@[simp] theorem panel_lpPtt : (port.lpPtt on).panel = port.panel := by
  cases on <;> simp (disch := decide) only [panel, lpPtt, parportControl, test_frob_other, if_true, if_false,
    Bool.false_eq_true]

@[simp] theorem ptt_lpPtt : (port.lpPtt on).ptt = on := by
  cases on <;> simp (disch := decide) only [ptt, lpPtt, parportControl, test_frob_set, test_frob_clear, if_true,
    if_false, Bool.false_eq_true]

@[simp] theorem panel_lpSsbway : (port.lpSsbway on).panel = { port.panel with soundcard := on } := by
  cases on <;> simp (disch := decide) only [panel, lpSsbway, parportControl, test_frob_set, test_frob_clear,
    test_frob_other, if_true, if_false, Bool.false_eq_true]

@[simp] theorem ptt_lpSsbway : (port.lpSsbway on).ptt = port.ptt := by
  cases on <;> simp (disch := decide) only [ptt, lpSsbway, parportControl, test_frob_other, if_true, if_false,
    Bool.false_eq_true]

@[simp] theorem panel_lpSwitchband (bitpattern : BitVec 8) :
    (port.lpSwitchband bitpattern).panel = { port.panel with band := bandOf bitpattern } := rfl

@[simp] theorem ptt_lpSwitchband (bitpattern : BitVec 8) : (port.lpSwitchband bitpattern).ptt = port.ptt := rfl

@[simp] theorem panel_enable : port.enable.panel = { port.panel with enabled := true } := by
  simp (disch := decide) only [panel, enable, parportControl, test_frob_set, test_frob_other]

@[simp] theorem panel_disable : port.disable.panel = { port.panel with enabled := false } := by
  simp (disch := decide) only [panel, disable, parportControl, test_frob_clear, test_frob_other]

@[simp] theorem ptt_disable : port.disable.ptt = port.ptt := by
  simp (disch := decide) only [ptt, disable, parportControl, test_frob_other]

/-- A port that is opened is at rest, however it was found. -/
theorem lpInit_atRest : port.lpInit.panel = .atRest ∧ port.lpInit.ptt = false := by
  simp [lpInit, lpResetPinsState, Panel.atRest, bandOf]

/-- A port that is closed is left at rest, and disabled. -/
theorem lpFree_disabled : port.lpFree.panel = .disabled ∧ port.lpFree.ptt = false := by
  simp [lpFree, lpResetPinsState, Panel.disabled, bandOf]

end Parport

/-! ## Calls -/

/-- What a signal to the port does to its pins. -/
def Signal.shows (panel : Panel) : Signal → Panel
  | .key .lp on => { panel with key := on }
  | .ssbWay .lp soundcard => { panel with soundcard := soundcard }
  | .band .lp bitPattern => { panel with band := bandOf bitPattern }
  | _ => panel

/-- What an action does to the panel of the port that the daemon runs on. -/
def Action.shows (world : World) (action : Action) (state : State) (panel : Panel) : Panel :=
  match action with
  | .key on => if state.libcw.keyingCallback = none then panel else { panel with key := on }
  | .request .reset _ => { panel with key := false, soundcard := false, band := 0 }
  | .request .cwdevice name => if State.Refused world name then panel else .atRest
  | .request .ssbWay payload =>
    match getLong payload with
    | none => panel
    | some lv => { panel with soundcard := lv ≠ 0 }
  | .request .bandSwitch payload =>
    match getLong payload with
    | none => panel
    | some lv => if 0 ≤ lv ∧ lv ≤ 15 then { panel with band := lv.toNat } else panel
  | _ => panel

/-- No port is opened or closed. -/
def Keeping (signals : List Signal) : Prop := .opened .lp ∉ signals ∧ .closed .lp ∉ signals

theorem keeping_append {first second : List Signal} : Keeping (first ++ second) ↔ Keeping first ∧ Keeping second := by
  simp only [Keeping, List.mem_append, not_or]
  exact and_and_and_comm

theorem signalsOf_cons (entry : Entry) (log : List Entry) :
    signalsOf (entry :: log) = entry.call.signal.toList ++ signalsOf log := by
  cases call : entry.call.signal <;> simp [signalsOf, call]

namespace Ports

variable {found : Nat → Parport}

theorem calls_append (ports : Ports Parport) (first second : List Entry) :
    ports.calls found (first ++ second) = (ports.calls found first).calls found second := List.foldl_append

theorem call_opened {command : Call} (keeping : Keeping command.signal.toList) (port : Parport)
    (released : List Parport) :
    ∃ after, call found ⟨some port, released⟩ command = ⟨some after, released⟩ ∧
      after.panel = command.signal.toList.foldl Signal.shows port.panel ∧
      command.tells .lp (some port.ptt) = some after.ptt := by
  cases command with
  | deviceInit device fd =>
    cases device with
    | lp => exact absurd (List.mem_singleton_self _) keeping.1
    | ttys | null => exact ⟨port, rfl, rfl, rfl⟩
  | deviceFree device fd =>
    cases device with
    | lp => exact absurd (List.mem_singleton_self _) keeping.2
    | ttys | null => exact ⟨port, rfl, rfl, rfl⟩
  | deviceCw device on =>
    cases device with
    | lp => exact ⟨port.lpCw on, rfl, port.panel_lpCw on, congrArg some (port.ptt_lpCw on).symm⟩
    | ttys | null => exact ⟨port, rfl, rfl, rfl⟩
  | devicePtt device on =>
    cases device with
    | lp => exact ⟨port.lpPtt on, rfl, port.panel_lpPtt on, congrArg some (port.ptt_lpPtt on).symm⟩
    | ttys | null => exact ⟨port, rfl, rfl, rfl⟩
  | deviceSsbway device soundcard =>
    cases device with
    | lp =>
      exact ⟨port.lpSsbway soundcard, rfl, port.panel_lpSsbway soundcard,
        congrArg some (port.ptt_lpSsbway soundcard).symm⟩
    | ttys | null => exact ⟨port, rfl, rfl, rfl⟩
  | deviceSwitchband device bitPattern =>
    cases device with
    | lp => exact ⟨port.lpSwitchband bitPattern, rfl, rfl, rfl⟩
    | ttys | null => exact ⟨port, rfl, rfl, rfl⟩
  -- No other call is one of the port's driver.
  | _ => exact ⟨port, rfl, rfl, rfl⟩

/-- While a port is open, its pins follow the signals, and its PTT the last command. -/
theorem calls_opened (found : Nat → Parport) {log : List Entry} (keeping : Keeping (signalsOf log)) (port : Parport)
    (released : List Parport) :
    ∃ after, calls found ⟨some port, released⟩ log = ⟨some after, released⟩ ∧
      after.panel = (signalsOf log).foldl Signal.shows port.panel ∧
      toldAfter .lp log (some port.ptt) = some after.ptt := by
  induction log generalizing port with
  | nil => exact ⟨port, rfl, rfl, rfl⟩
  | cons entry log inductionHypothesis =>
    rw [signalsOf_cons, keeping_append] at keeping
    obtain ⟨next, called, panel, told⟩ := call_opened keeping.1 port released
    obtain ⟨after, rest, shown, last⟩ := inductionHypothesis keeping.2 next
    refine ⟨after, ?_, ?_, ?_⟩
    · rw [calls, List.foldl_cons, called]
      exact rest
    · rw [signalsOf_cons, List.foldl_append, ← panel, shown]
    · rw [toldAfter, List.foldl_cons, told]
      exact last

/-- While no port is open, calls to the driver reach none. -/
theorem calls_unopened {log : List Entry} (keeping : Keeping (signalsOf log)) (released : List Parport) :
    calls found ⟨none, released⟩ log = ⟨none, released⟩ := by
  induction log with
  | nil => rfl
  | cons entry log inductionHypothesis =>
    rw [signalsOf_cons, keeping_append] at keeping
    have missed : call found ⟨none, released⟩ entry.call = ⟨none, released⟩ := by
      cases command : entry.call with
      | deviceInit device fd =>
        cases device with
        | lp => simp [Keeping, command, Call.signal] at keeping
        | ttys | null => rfl
      | deviceFree device fd =>
        cases device with
        | lp => simp [Keeping, command, Call.signal] at keeping
        | ttys | null => rfl
      | deviceCw device | devicePtt device | deviceSsbway device | deviceSwitchband device => cases device <;> rfl
      | _ => rfl
    rw [calls, List.foldl_cons, missed]
    exact inductionHypothesis keeping.2

/-- What closing a device does to the ports. -/
def release : DeviceType → Ports Parport → Ports Parport
  | .lp, ports => ⟨none, ports.released ++ (ports.opened.map Parport.lpFree).toList⟩
  | _, ports => ports

/-- What opening a device does to the ports. -/
def acquire (found : Nat → Parport) : DeviceType → Ports Parport → Ports Parport
  | .lp, ports => { ports with opened := some (found ports.released.length).lpInit }
  | _, ports => ports

end Ports

namespace State

variable {found : Nat → Parport} {state : State}

/-- What happens between two states does this to the ports. -/
def Drives (found : Nat → Parport) (change : Ports Parport → Ports Parport) (before after : State) : Prop :=
  ∃ new, after.log = before.log ++ new ∧ ∀ ports, Ports.calls found ports new = change ports

namespace Drives

variable {before after : State} {change : Ports Parport → Ports Parport}

theorem of_log_eq (same : after.log = before.log) : Drives found id before after :=
  ⟨[], by rw [same, List.append_nil], fun _ => rfl⟩

theorem record (command : Call) (state : State) :
    Drives found (fun ports => ports.call found command) state (state.record command) := ⟨_, rfl, fun _ => rfl⟩

theorem trans {first second third : State} {later : Ports Parport → Ports Parport}
    (earlier : Drives found change first second) (rest : Drives found later second third) :
    Drives found (fun ports => later (change ports)) first third := by
  obtain ⟨new, log, changed⟩ := earlier
  obtain ⟨new', log', changed'⟩ := rest
  exact ⟨new ++ new', by rw [log', log, List.append_assoc],
    fun ports => by rw [Ports.calls_append, changed, changed']⟩

theorem congr {change' : Ports Parport → Ports Parport} (drives : Drives found change before after)
    (same : ∀ ports, change ports = change' ports) : Drives found change' before after := by
  obtain ⟨new, log, changed⟩ := drives
  exact ⟨new, log, fun ports => (changed ports).trans (same ports)⟩

end Drives

open Drives

theorem drives_ttysLines (on : Bool) (mask : BitVec 32) (state : State) :
    Drives found id state (state.ttysLines on mask) := by
  unfold ttysLines
  split
  · exact .of_log_eq rfl
  · exact .record _ state

theorem drives_deviceCw_ttys (on : Bool) (state : State) : Drives found id state (state.deviceCw .ttys on) :=
  (Drives.record _ state).trans (drives_ttysLines _ _ _)

/-- A PTT command, which is noted in the device. -/
theorem drives_told (device : DeviceType) (on : Bool) (state : State) :
    Drives found (fun ports => ports.call found (.devicePtt device on)) state
      ((state.record (.devicePtt device on)).setDevice device { state.devices device with pttCommand := some on }) :=
  ⟨_, rfl, fun _ => rfl⟩

theorem drives_devicePtt_ttys (on : Bool) (state : State) : Drives found id state (state.devicePtt .ttys on) :=
  (drives_told .ttys on state).trans (drives_ttysLines _ _ _)

theorem drives_deviceResetPinsState (device : DeviceType) (state : State) :
    Drives found (fun ports =>
        if device = .lp then { ports with opened := ports.opened.map .lpResetPinsState } else ports)
      state (state.deviceResetPinsState device) := by
  cases device with
  | lp =>
    have told : Drives found _ state (state.deviceResetPinsState .lp) :=
      (((Drives.record (.deviceCw .lp false) state).trans (drives_told .lp false _)).trans
        (.record (.deviceSsbway .lp false) _)).trans (.record (.deviceSwitchband .lp 0#8) _)
    refine told.congr fun ports => ?_
    obtain ⟨opened, released⟩ := ports
    cases opened <;> rfl
  | ttys => exact (drives_deviceCw_ttys false state).trans (drives_devicePtt_ttys false _)
  | null => exact .of_log_eq rfl

theorem drives_deviceFree (device : DeviceType) (state : State) :
    Drives found (Ports.release device) state (state.deviceFree device) := by
  have reset : Drives found _ state (state.deviceResetPinsState device) := drives_deviceResetPinsState device state
  cases device with
  | lp =>
    refine (reset.trans (.record (.deviceFree .lp (state.devices .lp).fd) _)).congr fun ports => ?_
    obtain ⟨opened, released⟩ := ports
    cases opened <;> rfl
  | ttys => exact (reset.trans (.record _ _)).trans (.of_log_eq rfl)
  | null => exact .of_log_eq rfl

theorem drives_deviceInit (device : DeviceType) (fd : Int) (state : State) :
    Drives found (Ports.acquire found device) state (state.deviceInit device fd) := by
  have opened : Drives found (fun ports => ports.call found (.deviceInit device fd)) state
      ((state.record (.deviceInit device fd)).setDevice device
        { state.devices device with fd := fd, pttCommand := none }) :=
    (Drives.record _ state).trans (.of_log_eq rfl)
  cases device with
  | lp => exact opened.trans (drives_deviceResetPinsState .lp _)
  | ttys => exact opened.trans (drives_deviceResetPinsState .ttys _)
  | null => exact opened

theorem drives_adoptCwdevice (world : World) (stored : world.strdup = true) (device : DeviceType) (fd : Int)
    (desc : Bytes) (state : State) :
    Drives found (fun ports => (ports.release state.globalCwdevice).acquire found device) state
      (state.adoptCwdevice world device fd desc).2 := by
  have selected : Drives found id state { state with globalCwdevice := device } := .of_log_eq rfl
  have closed := selected.trans (drives_deviceFree state.globalCwdevice { state with globalCwdevice := device })
  simp only [adoptCwdevice, if_pos stored]
  generalize deviceFree state.globalCwdevice { state with globalCwdevice := device } = freed at closed
  have described (device : DeviceType) (desc : Option Bytes) (state : State) :
      Drives found id state (state.setDesc device desc) := .of_log_eq rfl
  exact (((closed.trans (described _ _ _)).trans (described _ _ _)).trans (described _ _ _)).trans
    (drives_deviceInit device fd _)

theorem drives_cwRegisterKeyingCallback (device : Option DeviceType) (state : State) :
    Drives found id state (state.cwRegisterKeyingCallback device) := ⟨_, rfl, fun _ => rfl⟩

theorem drives_escCwdevice {world : World} (stored : world.strdup = true) (name : Bytes) (state : State) :
    Drives found (fun ports => if Refused world name then ports
        else (ports.release state.globalCwdevice).acquire found (selectedType world name))
      state (state.escCwdevice world name) := by
  have unkeyed : Drives found id state (state.cwRegisterKeyingCallback none) :=
    drives_cwRegisterKeyingCallback none state
  have selected : Drives found (fun ports => if Refused world name then ports
        else (ports.release state.globalCwdevice).acquire found (selectedType world name))
      state ((state.cwRegisterKeyingCallback none).optionCwdevice world name).2 := by
    rcases optionCwdevice_cases world name (state.cwRegisterKeyingCallback none) with
      ⟨refused, unchanged⟩ | ⟨accepted, fd, adopted⟩
    · simp only [if_pos refused, unchanged]
      exact unkeyed
    · simp only [if_neg accepted, adopted]
      exact unkeyed.trans (drives_adoptCwdevice world stored _ fd name _)
  simp only [escCwdevice]
  generalize (state.cwRegisterKeyingCallback none).optionCwdevice world name = option at selected
  obtain ⟨success, after⟩ := option
  cases success with
  | true => exact selected.trans (drives_cwRegisterKeyingCallback _ _)
  | false => exact selected

theorem drives_exitProcess (code : Int) (state : State) :
    Drives found (Ports.release state.globalCwdevice) state (state.exitProcess code) := by
  obtain ⟨log, closed⟩ := closeLibcwOutput_eq state
  have stopped : Drives found id state state.closeLibcwOutput :=
    (Drives.record .generatorStop state).trans ⟨[_], rfl, fun _ => rfl⟩
  have current : state.closeLibcwOutput.globalCwdevice = state.globalCwdevice := by
    rw [closed]
    rfl
  have freed := stopped.trans (drives_deviceFree state.globalCwdevice state.closeLibcwOutput)
  simp only [exitProcess, current]
  exact freed.trans (.of_log_eq rfl)

/-- Nothing is done to the ports before the action of a step. -/
theorem drives_ready (input : Input) (state : State) :
    Drives found id { state with log := [] } (state.ready input) := by
  rcases ready_log input state with empty | ⟨client, request, moment, received⟩
  · exact .of_log_eq empty
  · exact ⟨_, received, fun _ => rfl⟩

/-! ## The invariant -/

/-- A daemon that runs on the parallel port. -/
def OnPort (state : State) : Prop := state.status = .running ∧ state.globalCwdevice = .lp

/-- The port that the daemon runs on shows a panel and the last PTT command; those that it
has given up are disabled. -/
structure Driven (ports : Ports Parport) (state : State) (panel : Panel) : Prop where
  closed : ports.opened = none → ¬ state.OnPort
  opened : ∀ port, ports.opened = some port → state.OnPort ∧ port.panel = panel ∧
    (state.devices .lp).pttCommand = some port.ptt
  released : ∀ port ∈ ports.released, port.panel = .disabled ∧ port.ptt = false

/-- Calls that open and close no port. -/
theorem Driven.keeping {ports : Ports Parport} {before after : State} {panel panel' : Panel} {new : List Entry}
    (driven : Driven ports before panel) (keeping : Keeping (signalsOf new))
    (on : after.OnPort ↔ before.OnPort)
    (told : (after.devices .lp).pttCommand = toldAfter .lp new (before.devices .lp).pttCommand)
    (shown : before.OnPort → (signalsOf new).foldl Signal.shows panel = panel') :
    Driven (ports.calls found new) after panel' := by
  obtain ⟨closed, opened, released⟩ := driven
  obtain ⟨current, others⟩ := ports
  cases current with
  | none =>
    rw [Ports.calls_unopened keeping]
    exact ⟨fun _ => mt on.mp (closed rfl), nofun, released⟩
  | some port =>
    obtain ⟨here, rfl, command⟩ := opened port rfl
    obtain ⟨later, called, same, last⟩ := Ports.calls_opened found keeping port others
    rw [called]
    refine ⟨nofun, fun other open_ => ?_, released⟩
    cases open_
    exact ⟨on.mpr here, same.trans (shown here), by rw [told, command, last]⟩

/-! ## Steps -/

theorem keeping_signals {world : World} {action : Action} (stays : ¬ action.Leaves) :
    Keeping (action.signals world state) := by
  have reset (device : DeviceType) : Keeping (resetSignals device) := by
    cases device <;> simp [Keeping, resetSignals]
  cases action with
  | idle | text | dequeue => exact ⟨List.not_mem_nil, List.not_mem_nil⟩
  | key => simp [Keeping, Action.signals]
  | exit => exact absurd (.inl (Option.some_ne_none _)) stays
  | request request payload =>
    cases request with
    | reset => exact reset _
    | ssbWay | bandSwitch => simp [Keeping, Action.signals]
    | cwdevice => exact absurd (.inr ⟨payload, rfl⟩) stays
    | exit => exact absurd (.inl (Option.some_ne_none _)) stays
    | speed | tone | abort | wordMode | weighting | port | pttState | tune | txDelay | soundSystem | volume | reply =>
      exact ⟨List.not_mem_nil, List.not_mem_nil⟩

/-- The signals of an action say what it shows. -/
theorem foldl_signals {world : World} {action : Action} (linked : state.Linked) (current : state.globalCwdevice = .lp)
    (stays : ¬ action.Leaves) (panel : Panel) :
    (action.signals world state).foldl Signal.shows panel = action.shows world state panel := by
  cases action with
  | idle | text | dequeue => rfl
  | key on =>
    rcases linked with unkeyed | keyed
    · simp [Action.signals, Action.shows, unkeyed]
    · simp [Action.signals, Action.shows, keyed, current, Signal.shows]
  | exit => exact absurd (.inl (Option.some_ne_none _)) stays
  | request request payload =>
    cases request with
    | reset =>
      simp only [Action.signals, Action.shows, current]
      rfl
    | ssbWay =>
      simp only [Action.signals, Action.shows, if_pos current]
      cases getLong payload <;> rfl
    | bandSwitch =>
      simp only [Action.signals, Action.shows, if_pos current]
      cases getLong payload with
      | none => rfl
      | some lv =>
        by_cases valid : 0 ≤ lv ∧ lv ≤ 15
        · simp only [Option.filter_some, decide_eq_true valid, if_true, if_pos valid, Option.map_some,
            Option.toList_some, List.foldl_cons, List.foldl_nil, Signal.shows, bandOf_bandPattern valid.1 valid.2]
        · simp [Option.filter_some, valid]
    | cwdevice => exact absurd (.inr ⟨payload, rfl⟩) stays
    | exit => exact absurd (.inl (Option.some_ne_none _)) stays
    | speed | tone | abort | wordMode | weighting | port | pttState | tune | txDelay | soundSystem | volume
    | reply => rfl

/-- The end of an iteration polls the footswitch at most. -/
theorem Driven.finish {ports : Ports Parport} {panel : Panel} (driven : Driven ports state panel)
    (found : Nat → Parport) (world : World) (input : Input) :
    ∃ new, (state.finish world input).log = state.log ++ new ∧
      Driven (ports.calls found new) (state.finish world input) panel := by
  obtain ⟨new, log, told⟩ := (Works.finish world input state).told .lp
  have silent : signalsOf new = [] := by
    rcases finish_cases world input state with same | ⟨port, polls, polled, only⟩
    · rw [same] at log
      rw [List.self_eq_append_right.mp log]
      rfl
    · rw [polled] at log
      obtain rfl := List.append_cancel_left log
      exact List.filterMap_eq_nil_iff.mpr fun entry member => by
        obtain ⟨on, call⟩ := only entry member
        rw [call]
        rfl
  refine ⟨new, log, driven.keeping ?_ ?_ told fun _ => by rw [silent]; rfl⟩
  · rw [silent]
    exact ⟨List.not_mem_nil, List.not_mem_nil⟩
  · rw [OnPort, finish_status, (sameOutput_finish world input state).globalCwdevice, OnPort]

/-- After the current device is closed no port is open, and all those closed are disabled. -/
theorem Driven.release {ports : Ports Parport} {panel : Panel} (driven : Driven ports state panel) :
    (ports.release state.globalCwdevice).opened = none ∧
      ∀ port ∈ (ports.release state.globalCwdevice).released, port.panel = .disabled ∧ port.ptt = false := by
  have unopened (other : state.globalCwdevice ≠ .lp) : ports.opened = none :=
    Option.eq_none_iff_forall_not_mem.mpr fun port open_ => other (driven.opened port open_).1.2
  cases current : state.globalCwdevice with
  | lp =>
    refine ⟨rfl, fun port member => ?_⟩
    rcases List.mem_append.mp member with before | left
    · exact driven.released port before
    -- The port that is open has just been added to those that are released.
    · obtain ⟨used, -, rfl⟩ := Option.map_eq_some_iff.mp (Option.mem_toList.mp left)
      exact used.lpFree_disabled
  | ttys | null => exact ⟨unopened (by simp [current]), driven.released⟩

/-- A device that is opened in the place of the current one. -/
theorem Driven.switch {ports : Ports Parport} {panel : Panel} {after : State} (driven : Driven ports state panel)
    (running : after.status = .running)
    (told : after.globalCwdevice = .lp → (after.devices .lp).pttCommand = some false) :
    Driven ((ports.release state.globalCwdevice).acquire found after.globalCwdevice) after .atRest := by
  obtain ⟨closed, released⟩ := driven.release
  generalize ports.release state.globalCwdevice = left at closed released ⊢
  cases current : after.globalCwdevice with
  | lp =>
    refine ⟨nofun, fun port open_ => ?_, released⟩
    cases open_
    obtain ⟨rests, off⟩ := (found left.released.length).lpInit_atRest
    exact ⟨⟨running, current⟩, rests, (told current).trans (congrArg some off.symm)⟩
  | ttys | null =>
    refine ⟨fun _ here => ?_, fun port open_ => ?_, released⟩
    · cases current.symm.trans here.2
    · cases closed.symm.trans open_

theorem Driven.exitProcess {ports : Ports Parport} {panel : Panel} (driven : Driven ports state panel) (code : Int)
    (after : Panel) : Driven (ports.release state.globalCwdevice) (state.exitProcess code) after := by
  obtain ⟨closed, released⟩ := driven.release
  exact ⟨fun _ here => Status.noConfusion here.1, fun port open_ => absurd (closed.symm.trans open_) nofun, released⟩

theorem Driven.escCwdevice {ports : Ports Parport} {panel : Panel} (driven : Driven ports state panel)
    (found : Nat → Parport) (running : state.status = .running) {world : World} (stored : world.strdup = true)
    (name : Bytes) :
    Driven (if Refused world name then ports
        else (ports.release state.globalCwdevice).acquire found (selectedType world name))
      (state.escCwdevice world name) ((Action.request .cwdevice name).shows world state panel) := by
  rcases escCwdevice_cases world name state with ⟨refused, log, equal⟩ | ⟨accepted, devices, log, equal, commands⟩
  · simp only [Action.shows, if_pos refused, equal]
    exact ⟨driven.closed, driven.opened, driven.released⟩
  · simp only [Action.shows, if_neg accepted]
    have current : (state.escCwdevice world name).globalCwdevice = selectedType world name := by rw [equal]
    have lives : (state.escCwdevice world name).status = .running := by
      rw [equal]
      exact running
    rw [← current]
    refine driven.switch lives fun selected => ?_
    rw [current] at selected
    have command := commands .lp
    rw [selected, if_pos ⟨rfl, stored⟩] at command
    rw [equal]
    exact command

/-- A step does to the ports what its action does. -/
theorem Driven.of_act {ports : Ports Parport} {panel : Panel} {label : Label} (running : state.status = .running)
    (change : Ports Parport → Ports Parport)
    (acts : Drives found change (state.ready label.input)
      ((state.ready label.input).act label.world label.input.action))
    (driven : Driven (change ports) ((state.ready label.input).act label.world label.input.action) panel) :
    Driven (ports.calls found (state.step label).log) (state.step label) panel := by
  obtain ⟨new, log, changed⟩ := (drives_ready label.input state).trans acts
  obtain ⟨polls, polled, finished⟩ := driven.finish found label.world label.input
  rw [step_eq label running, polled, log, List.nil_append, Ports.calls_append, changed]
  exact finished

theorem Driven.step {ports : Ports Parport} {panel : Panel} {label : Label} (driven : Driven ports state panel)
    (found : Nat → Parport) (wellformed : state.Wellformed) (linked : state.Linked)
    (stored : label.world.strdup = true) :
    Driven (ports.calls found (state.step label).log) (state.step label)
      (label.input.action.shows label.world state panel) := by
  by_cases running : state.status = .running
  case neg =>
    rw [step_ended label running]
    refine ⟨driven.closed, fun port open_ => absurd (driven.opened port open_).1.1 running, driven.released⟩
  by_cases leaves : label.input.action.Leaves
  case neg =>
    obtain ⟨lives, current, -⟩ := step_stays wellformed running linked leaves
    have signals := step_signals label running wellformed
    obtain ⟨new, log, told⟩ := (Works.step label (.inr linked) (.refl (label.licence state))).told .lp
    rw [List.nil_append] at log
    subst log
    refine driven.keeping ?_ ?_ told fun here => ?_
    · rw [signals]
      exact keeping_signals leaves
    · rw [OnPort, OnPort, lives, running, current]
    · rw [signals]
      exact foldl_signals linked here.2 leaves panel
  case pos =>
    have lives := ready_status label.input state
    have ready : Driven ports (state.ready label.input) panel := by
      obtain ⟨seconds, addr, log, equal, -⟩ := ready_eq label.input state
      rw [equal]
      exact ⟨driven.closed, driven.opened, driven.released⟩
    -- An end releases the port, a switch releases it and may acquire another one.
    rcases leaves with ends | ⟨payload, action⟩
    · obtain ⟨code, exits⟩ := Option.ne_none_iff_exists'.mp ends
      refine Driven.of_act running (Ports.release (state.ready label.input).globalCwdevice) ?_ ?_
      · rw [act_of_exits exits]
        exact drives_exitProcess code _
      · rw [act_of_exits exits]
        exact ready.exitProcess code _
    · have switched := ready.escCwdevice found (lives.trans running) stored payload
      refine Driven.of_act running (fun ports => if Refused label.world payload then ports
          else (ports.release (state.ready label.input).globalCwdevice).acquire found
            (selectedType label.world payload)) ?_ ?_
      · rw [action]
        exact drives_escCwdevice stored payload _
      · rw [action]
        exact switched

/-! ## Start-up -/

/-- The ports under all that was called so far are at rest. -/
def PortsAtRest (found : Nat → Parport) (state : State) : Prop :=
  Driven (Ports.unopened.calls found state.log) state .atRest

theorem PortsAtRest.drives {before after : State} {change : Ports Parport → Ports Parport}
    (drives : Drives found change before after)
    (driven : Driven (change (Ports.unopened.calls found before.log)) after .atRest) : after.PortsAtRest found := by
  obtain ⟨new, log, changed⟩ := drives
  rw [PortsAtRest, log, Ports.calls_append, changed]
  exact driven

theorem PortsAtRest.argsProcess {world : World} {arg : Arg} {after : State} (rests : state.PortsAtRest found)
    (running : state.status = .running) (processed : state.argsProcess world arg = some after) :
    after.PortsAtRest found := by
  rcases argsProcess_cases processed with ⟨name, -, selected⟩ | ⟨option, -, -, parsed⟩ | ⟨-, -, _, _, _, rfl⟩
  -- A cwdevice, an option for the lines of the serial port, or an option for a setting.
  · rcases optionCwdevice_cases world name state with ⟨-, refused⟩ | ⟨-, fd, adopted⟩
    · rw [refused] at selected
      cases selected
    · obtain ⟨devices, log, equal, -⟩ := adoptCwdevice_eq world (selectedType world name) fd name state
      have stored : world.strdup = true := by
        rw [adopted, equal] at selected
        exact (Prod.mk.inj selected).1
      have drives : Drives found _ state (state.adoptCwdevice world (selectedType world name) fd name).2 :=
        drives_adoptCwdevice world stored _ fd name state
      rw [← adopted, selected] at drives
      obtain ⟨devices, log, after_eq, commands⟩ := optionCwdevice_selected selected
      have current : after.globalCwdevice = selectedType world name := by rw [after_eq]
      have lives : after.status = .running := by
        rw [after_eq]
        exact running
      refine PortsAtRest.drives drives ?_
      rw [← current]
      refine Driven.switch rests lives fun selected => ?_
      have command := commands .lp
      rw [← current, selected, if_pos rfl] at command
      rw [after_eq]
      exact command
  · obtain ⟨lines, -, rfl | rfl⟩ := ttysOptparse_cases parsed
    · obtain ⟨log, keyed⟩ := deviceCw_eq .ttys false
        (state.setDevice .ttys { state.devices .ttys with ttyOptions := lines })
      refine PortsAtRest.drives (drives_deviceCw_ttys false _) ?_
      rw [keyed]
      exact ⟨rests.closed, rests.opened, rests.released⟩
    · obtain ⟨log, lowered⟩ := devicePtt_eq .ttys false
        (state.setDevice .ttys { state.devices .ttys with ttyOptions := lines })
      refine PortsAtRest.drives (drives_devicePtt_ttys false _) ?_
      rw [lowered]
      exact ⟨rests.closed, rests.opened, rests.released⟩
  · exact ⟨rests.closed, rests.opened, rests.released⟩

theorem PortsAtRest.argsProcessAll {args : List (World × Arg)} {after : State} (rests : state.PortsAtRest found)
    (running : state.status = .running) (processed : argsProcessAll args state = some after) :
    after.PortsAtRest found := by
  have frame {world : World} {arg : Arg} {state after : State} (processed : state.argsProcess world arg = some after)
      (running : state.status = .running) : after.status = .running := by
    obtain ⟨_, _, _, _, _, _, rfl⟩ := argsProcess_frame processed
    exact running
  exact (argsProcessAll_relates
    (fun state after => state.status = .running ∧ state.PortsAtRest found →
      after.status = .running ∧ after.PortsAtRest found)
    (fun _ => id) (fun earlier later => later ∘ earlier)
    (fun _ _ _ _ processed both => ⟨frame processed both.1, both.2.argsProcess both.1 processed⟩) processed
    ⟨running, rests⟩).2

end State

open State

/-- The daemon enters its main loop with a parallel port, if it has one, at rest. -/
theorem Started.portsAtRest {initial : State} (started : Started initial) (found : Nat → Parport) :
    initial.PortsAtRest found := by
  obtain ⟨args, world, started⟩ := started
  obtain ⟨configured, all, -, -, rfl⟩ := start_cases started
  have first : initialState.PortsAtRest found := ⟨fun _ here => DeviceType.noConfusion here.2, nofun, nofun⟩
  have rests := first.argsProcessAll rfl all
  have works : Works .startup configured (configured.resetAlmostAll world).2 := .resetAlmostAll trivial world configured
  obtain ⟨new, log, told⟩ := works.told .lp
  have silent : signalsOf new = [] := by
    have gives := gives_resetAlmostAll world configured
    rw [Gives, log, signalsOf_append] at gives
    exact List.append_cancel_left gives
  obtain ⟨success, libcw, log', equal, -⟩ := resetAlmostAll_eq world configured
  have driven : Driven ((Ports.unopened.calls found configured.log).calls found new)
      (configured.resetAlmostAll world).2 .atRest := by
    refine rests.keeping ?_ ?_ told fun _ => by rw [silent]; rfl
    · rw [silent]
      exact ⟨List.not_mem_nil, List.not_mem_nil⟩
    · rw [equal]
      rfl
  have same : (configured.resetAlmostAll world).2.clearRequestQueue.log = configured.log ++ new := log
  rw [PortsAtRest, same, Ports.calls_append]
  exact ⟨driven.closed, driven.opened, driven.released⟩

/-- What the actions of a run make of the panel. -/
def panelAfter : List Label → State → Panel → Panel
  | [], _, panel => panel
  | label :: labels, state, panel =>
    panelAfter labels (state.step label) (label.input.action.shows label.world state panel)

theorem State.Driven.run {ports : Ports Parport} {state : State} {panel : Panel} (driven : Driven ports state panel)
    (found : Nat → Parport) (wellformed : state.Wellformed) (linked : state.Linked) {labels : List Label}
    (stored : ∀ label ∈ labels, label.world.strdup = true) :
    Driven (ports.calls found (calls labels state)) (Runs.run State.step labels state)
      (panelAfter labels state panel) := by
  induction labels generalizing ports state panel with
  | nil => exact driven
  | cons label labels inductionHypothesis =>
    obtain ⟨here, rest⟩ := List.forall_mem_cons.mp stored
    have next := driven.step found wellformed linked here
    have later := inductionHypothesis next (wellformed.step label) (linked.step label wellformed) rest
    rw [← Ports.calls_append] at later
    exact later

/-- Down to the registers of the parallel port, and however these are found: while the
daemon runs on the port, key, way, band and PTT at its pins are what the requests, libcw and
the footswitch have last asked for, and a port that the daemon has given up is disabled with
all its pins at rest. -/
theorem parallel_port_shows_requests {initial : State} (started : Started initial) (found : Nat → Parport)
    {labels : List Label} (stored : ∀ label ∈ labels, label.world.strdup = true) :
    Driven (Ports.unopened.calls found (initial.log ++ calls labels initial)) (Runs.run State.step labels initial)
      (panelAfter labels initial .atRest) := by
  have linked : initial.Linked := Reachable.linked ⟨initial, [], started, rfl⟩
  have rests : initial.PortsAtRest found := started.portsAtRest found
  rw [Ports.calls_append]
  exact rests.run found started.wellformed linked stored

/-- The key is down, and somebody has chosen the soundcard and the band 10. -/
theorem parallel_port_shows_band :
    Driven
      (Ports.unopened.calls (fun _ => ⟨0xff#8, 0xff#8⟩) (onParallelPort.log ++ calls [⟨root, .key true⟩,
        root.receivesEscape .ssbWay [byte '1'], root.receivesEscape .bandSwitch [byte '1', byte '0']] onParallelPort))
      (Runs.run State.step [⟨root, .key true⟩, root.receivesEscape .ssbWay [byte '1'],
        root.receivesEscape .bandSwitch [byte '1', byte '0']] onParallelPort)
      ⟨true, true, true, 10⟩ := by
  have panel : panelAfter [⟨root, .key true⟩, root.receivesEscape .ssbWay [byte '1'],
      root.receivesEscape .bandSwitch [byte '1', byte '0']] onParallelPort .atRest = ⟨true, true, true, 10⟩ := by
    decide +kernel
  rw [← panel]
  exact parallel_port_shows_requests started_onParallelPort _ (by decide)

end Cwdaemon
