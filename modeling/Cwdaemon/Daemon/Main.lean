import Cwdaemon.Foundations.Runs
import Cwdaemon.Daemon.Escape

/-! # Start-up and the main loop

A step of the daemon is an iteration of the main loop, one tone taken by libcw's
thread, or a change of libcw's key.  `start` is what comes before the main loop:
the command line (as `getopt` delivers it) and the first reset.
-/

namespace Cwdaemon

open CString

/-! ## Receiving -/

/-- The end of `cwdaemon_recvfrom()`: trailing CR and LF are removed. -/
def stripCrlf (request : Bytes) : Bytes :=
  (request.reverse.dropWhile fun char => char == byte '\n' || char == byte '\r').reverse

/-- The request in the first `CWDAEMON_REQUEST_SIZE_MAX` bytes of a datagram, or
`none` when nothing is left of it for `cwdaemon_receive()`. -/
def requestOf (datagram : Bytes) : Option Bytes :=
  let stripped := stripCrlf (datagram.take CWDAEMON_REQUEST_SIZE_MAX)
  if stripped = [] then none else some (cstr stripped)

namespace State

/-- A text request: the request is appended to the queue, if there is room. -/
def receiveText (world : World) (request : Bytes) (state : State) : State :=
  if request.length + state.requestQueue.bytes.length ≤ CWDAEMON_REQUEST_QUEUE_SIZE_MAX - 1 then
    { state with requestQueue := state.requestQueue.append request }.playRequest world
  else state

def handleRequest (world : World) (request : Bytes) (state : State) : State :=
  if request.head? ≠ some ASCII_ESC then state.receiveText world request
  else state.handleEscapedRequest world request

/-- `cwdaemon_receive()` when a datagram has come. -/
def receive (world : World) (client : SockaddrIn) (datagram : Bytes) (state : State) : State :=
  let state := { state with requestAddr := client }
  match requestOf datagram with
  | none => state
  | some request => (state.record (.received client request)).handleRequest world request

/-- `cwdaemon_keyingevent()`, called with the registered cwdevice. -/
def keyingevent (on : Bool) (state : State) : State :=
  match state.libcw.keyingCallback with
  | none => state
  | some device => { state.deviceCw device on with inactivitySeconds := 0 }

/-- The time-out that an iteration of the main loop chooses. -/
def countInactivity (state : State) : State :=
  if state.inactivitySeconds < 30 then
    { state with inactivitySeconds := state.inactivitySeconds + 1 }
  else state

/-- The end of an iteration of the main loop: the footswitch drives the PTT of a
parallel port.  The switch reads 1 when it is up. -/
def pollFootswitch (world : World) (state : State) : State :=
  match state.globalCwdevice with
  | .lp => state.devicePtt .lp (!world.footswitch)
  | .ttys => state
  | .null => state

end State

/-! ## Steps -/

inductive Input where
  | datagram (client : SockaddrIn) (bytes : Bytes)
  | timeout
  | receiveError
  | dequeue
  | key (on : Bool)

/-- An input of the daemon, and the answers of the world while it is handled. -/
structure Label where
  world : World
  input : Input

namespace State

def iterate (world : World) (handle : State → State) (state : State) : State :=
  let state := handle state.countInactivity
  if state.status = .running then state.pollFootswitch world else state

def handleInput (world : World) (input : Input) (state : State) : State :=
  match input with
  | .datagram client bytes => state.iterate world (·.receive world client bytes)
  | .timeout => state.iterate world id
  | .receiveError => state.iterate world (·.exitProcess 1)
  | .dequeue => state.dequeue
  | .key on => state.keyingevent on

/-- A step starts a new log.  A process that has ended makes no more steps. -/
def step (label : Label) (state : State) : State :=
  let state := { state with log := [] }
  if state.status = .running then state.handleInput label.world label.input else state

end State

/-! ## Start-up -/

/-- The command line options that have an effect on the state. -/
inductive Arg where
  | cwdevice (name : Bytes)
  | options (option : Bytes)
  | port (value : Bytes)
  | priority (value : Bytes)
  | wpm (value : Bytes)
  | pttdelay (value : Bytes)
  | volume (value : Bytes)
  | weighting (value : Bytes)
  | tone (value : Bytes)
  | system (value : Bytes)

def defaultParams : Params where
  morseSpeed := CWDAEMON_MORSE_SPEED_DEFAULT
  morseTone := CWDAEMON_MORSE_TONE_DEFAULT
  morseVolume := CWDAEMON_MORSE_VOLUME_DEFAULT
  pttDelayMs := CWDAEMON_PTT_DELAY_DEFAULT
  audioSystem := .console
  weighting := CWDAEMON_MORSE_WEIGHTING_DEFAULT

/-- The devices after `cwdaemon_cwdevices_init()`. -/
def initialDevices : DeviceType → Cwdevice
  | .ttys => ⟨0, some [byte 't', byte 't', byte 'y', byte 'S', byte '0'], ⟨TIOCM_DTR, TIOCM_RTS⟩, none⟩
  | .lp => ⟨0, some [byte 'p', byte 'a', byte 'r', byte 'p', byte 'o', byte 'r', byte 't', byte '0'],
      ⟨0, 0⟩, none⟩
  | .null => ⟨0, some [byte 'n', byte 'u', byte 'l', byte 'l'], ⟨0, 0⟩, none⟩

/-- The state before the command line is parsed; the null device is current. -/
def initialState : State where
  defaults := defaultParams
  current := defaultParams
  networkPort := CWDAEMON_NETWORK_PORT_DEFAULT
  processPriority := 0
  hasAudioOutput := false
  wordmode := false
  inactivitySeconds := 9999
  pttFlag := .zero
  requestQueue := .empty (Nat.zero_lt_succ _)
  replyBuffer := .empty (Nat.zero_lt_succ _)
  requestAddr := ⟨0, 0⟩
  replyAddr := ⟨0, 0⟩
  globalCwdevice := .null
  devices := initialDevices
  libcw := ⟨none, none⟩
  status := .running
  log := []

namespace State

def setDefaults (defaults : Params) (state : State) : State := { state with defaults := defaults }

/-- `ttys_optparse()`: a parsed option also switches the pin off. -/
def ttysOptparse (option : Bytes) (state : State) : Option State :=
  let device := state.devices .ttys
  match optparse option device.ttyOptions with
  | (false, _) => none
  | (true, dropt) =>
    let state := state.setDevice .ttys { device with ttyOptions := dropt }
    some (if (findOptValue option [byte 'k', byte 'e', byte 'y']).isSome then state.deviceCw .ttys false
      else state.devicePtt .ttys false)

/-- `cwdaemon_params_options()`; only the serial driver has options. -/
def paramsOptions (option : Bytes) (state : State) : Option State :=
  match state.globalCwdevice with
  | .ttys => state.ttysOptparse option
  | .lp => none
  | .null => none

/-- `ttys_optvalidate()`. -/
def ttysOptvalidate (state : State) : Bool :=
  let options := (state.devices .ttys).ttyOptions
  !(options.key != 0#32 && options.ptt != 0#32 && options.key == options.ptt)

/-- One option of `cwdaemon_args_process_long()`; `none` where the daemon exits. -/
def argsProcess (world : World) (arg : Arg) (state : State) : Option State :=
  match arg with
  | .cwdevice name =>
    let (success, state) := state.optionCwdevice world name
    if success then some state else none
  | .options option => state.paramsOptions option
  | .port value => (optionNetworkPort value).map fun port => { state with networkPort := port }
  | .priority value =>
    (paramsPriority value).map fun priority => { state with processPriority := priority }
  | .wpm value =>
    (paramsWpm value).map fun wpm => state.setDefaults { state.defaults with morseSpeed := wpm }
  | .pttdelay value =>
    let (rv, delayMs) := paramsPttdelay state.defaults.pttDelayMs value
    if rv = 1 then some (state.setDefaults { state.defaults with pttDelayMs := delayMs }) else none
  | .volume value =>
    (paramsVolume value).map fun volume =>
      state.setDefaults { state.defaults with morseVolume := volume }
  | .weighting value =>
    (paramsWeighting value).map fun weighting =>
      state.setDefaults { state.defaults with weighting := weighting }
  | .tone value =>
    (paramsTone value).map fun tone => state.setDefaults { state.defaults with morseTone := tone }
  | .system value =>
    (paramsSystem value).map fun system =>
      state.setDefaults { state.defaults with audioSystem := system }

/-- The loop over the options, each with the world at that time. -/
def argsProcessAll : List (World × Arg) → State → Option State
  | [], state => some state
  | (world, arg) :: args, state => (state.argsProcess world arg).bind (argsProcessAll args)

/-- `cwdaemon_args_parse()`. -/
def argsParse (args : List (World × Arg)) (state : State) : Option State :=
  (state.argsProcessAll args).bind fun state =>
    if state.globalCwdevice = .ttys ∧ state.ttysOptvalidate = false then none else some state

end State

/-- `main()` up to the main loop, when the daemon does not exit before. -/
def start (args : List (World × Arg)) (world : World) : Option State :=
  (initialState.argsParse args).bind fun state =>
    let (success, state) := state.resetAlmostAll world
    if success then some state.clearRequestQueue else none

/-! ## Runs -/

/-- The states in which the daemon enters its main loop. -/
def Started (state : State) : Prop := ∃ args world, start args world = some state

/-- The states between two steps of a run of the daemon. -/
def Reachable (state : State) : Prop :=
  ∃ initial labels, Started initial ∧ Runs.run State.step labels initial = state

/-- What the daemon has called in the course of a run. -/
def calls (labels : List Label) (state : State) : List Entry :=
  Runs.history State.step State.log labels state

end Cwdaemon
