import Cwdaemon.Verified.Wellformed

/-! # Start-up

The command line only chooses the device and the defaults, so the first reset finds
no PTT, no libcw output and no text.  What it leaves is the first state of a run.
-/

namespace Cwdaemon

open CString

namespace State

variable {state after : State}

/-! ## The command line -/

/-- An option of the serial driver gives a function a line, and then switches that function
off. -/
theorem ttysOptparse_cases {option : Bytes} (parsed : state.ttysOptparse option = some after) :
    ∃ lines, optparse option (state.devices .ttys).ttyOptions = (true, lines) ∧
      (after = (state.setDevice .ttys { state.devices .ttys with ttyOptions := lines }).deviceCw .ttys false ∨
        after = (state.setDevice .ttys { state.devices .ttys with ttyOptions := lines }).devicePtt .ttys false) := by
  unfold ttysOptparse at parsed
  match read : optparse option (state.devices .ttys).ttyOptions with
  | (false, _) =>
    simp only [read] at parsed
    cases parsed
  | (true, lines) =>
    simp only [read] at parsed
    refine ⟨lines, rfl, ?_⟩
    split at parsed <;> cases parsed
    · exact .inl rfl
    · exact .inr rfl

/-- An argument selects a cwdevice, is for the serial driver, or is stored. -/
theorem argsProcess_cases {world : World} {arg : Arg} (processed : state.argsProcess world arg = some after) :
    (∃ name, arg = .cwdevice name ∧ state.optionCwdevice world name = (true, after)) ∨
    (∃ option, arg = .options option ∧ state.globalCwdevice = .ttys ∧ state.ttysOptparse option = some after) ∨
    (∀ name, arg ≠ .cwdevice name) ∧ (∀ option, arg ≠ .options option) ∧ ∃ defaults networkPort processPriority,
      after = { state with
        defaults := defaults, networkPort := networkPort, processPriority := processPriority } := by
  cases arg with
  | cwdevice name =>
    simp only [argsProcess] at processed
    split at processed
    case isTrue success =>
      cases processed
      exact .inl ⟨name, rfl, Prod.ext success rfl⟩
    case isFalse => cases processed
  | options option =>
    simp only [argsProcess, paramsOptions] at processed
    split at processed
    case h_1 current => exact .inr (.inl ⟨option, rfl, current, processed⟩)
    case h_2 => cases processed
    case h_3 => cases processed
  | pttdelay value =>
    simp only [argsProcess] at processed
    split at processed
    · cases processed
      exact .inr (.inr ⟨by simp, by simp, _, _, _, rfl⟩)
    · cases processed
  | port value | priority value | wpm value | volume value | weighting value | tone value | system value =>
    obtain ⟨number, -, rfl⟩ := Option.map_eq_some_iff.mp processed
    exact .inr (.inr ⟨by simp, by simp, _, _, _, rfl⟩)

theorem optionCwdevice_selected {world : World} {name : Bytes}
    (selected : state.optionCwdevice world name = (true, after)) :
    ∃ devices log, after = { state.withDevices devices log with globalCwdevice := selectedType world name } ∧
      ∀ other, (devices other).pttCommand =
        if other = selectedType world name then afterReset (selectedType world name) none
        else freed state.globalCwdevice state.devices other := by
  rcases optionCwdevice_cases world name state with ⟨-, refused⟩ | ⟨-, fd, adopted⟩
  · rw [refused] at selected
    cases selected
  · obtain ⟨devices, log, equal, commands⟩ := adoptCwdevice_eq world (selectedType world name) fd name state
    rw [adopted, equal] at selected
    obtain ⟨stored, rfl⟩ := Prod.mk.inj selected
    exact ⟨devices, log, rfl, by simpa [stored] using commands⟩

/-- While the command line is read, PTT, libcw and the texts are left alone. -/
theorem argsProcess_frame {world : World} {arg : Arg} (processed : state.argsProcess world arg = some after) :
    ∃ defaults networkPort processPriority globalCwdevice devices log,
      after = { state.withDevices devices log with
        defaults := defaults, networkPort := networkPort, processPriority := processPriority
        globalCwdevice := globalCwdevice } := by
  rcases argsProcess_cases processed with ⟨name, -, selected⟩ | ⟨option, -, -, parsed⟩ | ⟨-, -, _, _, _, rfl⟩
  · obtain ⟨devices, log, rfl, -⟩ := optionCwdevice_selected selected
    exact ⟨_, _, _, _, devices, log, rfl⟩
  · obtain ⟨lines, -, rfl | rfl⟩ := ttysOptparse_cases parsed
    · obtain ⟨log, keyed⟩ := deviceCw_eq .ttys false
        (state.setDevice .ttys { state.devices .ttys with ttyOptions := lines })
      exact ⟨_, _, _, _, _, log, keyed⟩
    · obtain ⟨log, lowered⟩ := devicePtt_eq .ttys false
        (state.setDevice .ttys { state.devices .ttys with ttyOptions := lines })
      exact ⟨_, _, _, _, _, log, lowered⟩
  · exact ⟨_, _, _, _, _, _, rfl⟩

/-- What every argument does the whole command line does. -/
theorem argsProcessAll_relates (relation : State → State → Prop) (refl : ∀ state, relation state state)
    (trans : ∀ {first second third}, relation first second → relation second third → relation first third)
    {args : List (World × Arg)} (step : ∀ arg ∈ args, ∀ {state after : State},
      state.argsProcess arg.1 arg.2 = some after → relation state after)
    (processed : argsProcessAll args state = some after) : relation state after := by
  induction args generalizing state with
  | nil =>
    cases processed
    exact refl _
  | cons arg args inductionHypothesis =>
    obtain ⟨next, first, rest⟩ := Option.bind_eq_some_iff.mp processed
    obtain ⟨here, later⟩ := List.forall_mem_cons.mp step
    exact trans (here first) (inductionHypothesis later rest)

/-- The state of the daemon while it reads its command line. -/
structure Configuring (state : State) : Prop where
  running : state.status = .running
  flag : state.pttFlag = .zero
  idle : state.requestQueue.bytes = []
  libcw : state.libcw = ⟨none, none⟩
  line : (state.devices .ttys).pttCommand ≠ some true

theorem configuring_initialState : initialState.Configuring := ⟨rfl, rfl, rfl, rfl, nofun⟩

/-- Changes of the devices that leave the PTT line of the serial port off. -/
theorem Configuring.withDevices (configuring : state.Configuring) {devices : DeviceType → Cwdevice}
    (log : List Entry) (line : (devices .ttys).pttCommand ≠ some true) :
    (state.withDevices devices log).Configuring :=
  ⟨configuring.running, configuring.flag, configuring.idle, configuring.libcw, line⟩

theorem Configuring.ttysOptparse (configuring : state.Configuring) {option : Bytes}
    (parsed : state.ttysOptparse option = some after) : after.Configuring := by
  obtain ⟨lines, -, rfl | rfl⟩ := ttysOptparse_cases parsed
  · obtain ⟨log, keyed⟩ := deviceCw_eq .ttys false
      (state.setDevice .ttys { state.devices .ttys with ttyOptions := lines })
    rw [keyed]
    exact configuring.withDevices log (by simpa using configuring.line)
  · obtain ⟨log, lowered⟩ := devicePtt_eq .ttys false
      (state.setDevice .ttys { state.devices .ttys with ttyOptions := lines })
    rw [lowered]
    exact configuring.withDevices log (by simp)

theorem Configuring.optionCwdevice (configuring : state.Configuring) {world : World} {name : Bytes}
    (selected : state.optionCwdevice world name = (true, after)) : after.Configuring := by
  obtain ⟨devices, log, rfl, commands⟩ := optionCwdevice_selected selected
  refine ⟨configuring.running, configuring.flag, configuring.idle, configuring.libcw, ?_⟩
  have line := configuring.line
  show (devices .ttys).pttCommand ≠ some true
  -- The port is the new device, or the old one, or neither: then it is left as it was.
  rw [commands .ttys, freed]
  split
  · cases selectedType world name <;> simp [afterReset]
  · split
    case isTrue current => simp [← current, afterReset]
    case isFalse => exact line

theorem Configuring.argsProcess (configuring : state.Configuring) {world : World} {arg : Arg}
    (processed : state.argsProcess world arg = some after) : after.Configuring := by
  rcases argsProcess_cases processed with ⟨name, -, selected⟩ | ⟨option, -, -, parsed⟩ | ⟨-, -, _, _, _, rfl⟩
  · exact configuring.optionCwdevice selected
  · exact configuring.ttysOptparse parsed
  · exact ⟨configuring.running, configuring.flag, configuring.idle, configuring.libcw, configuring.line⟩

theorem Configuring.argsProcessAll (configuring : state.Configuring) {args : List (World × Arg)}
    (processed : argsProcessAll args state = some after) : after.Configuring :=
  argsProcessAll_relates (fun state after => state.Configuring → after.Configuring) (fun _ => id)
    (fun earlier later => later ∘ earlier) (fun _ _ _ _ processed configuring => configuring.argsProcess processed)
    processed configuring

end State

open State

/-- Start-up reads the command line, accepts the lines of a serial port and resets. -/
theorem start_cases {args : List (World × Arg)} {world : World} {state : State}
    (started : start args world = some state) :
    ∃ configured, argsProcessAll args initialState = some configured ∧
      (configured.globalCwdevice = .ttys → configured.ttysOptvalidate = true) ∧
      (configured.resetAlmostAll world).1 = true ∧
      state = (configured.resetAlmostAll world).2.clearRequestQueue := by
  obtain ⟨configured, parsed, finished⟩ := Option.bind_eq_some_iff.mp started
  obtain ⟨processed, all, checked⟩ := Option.bind_eq_some_iff.mp parsed
  split at checked
  case isTrue => cases checked
  case isFalse valid =>
    cases checked
    simp only at finished
    split at finished
    case isTrue success =>
      cases finished
      exact ⟨configured, all, fun current => by simpa using not_and.mp valid current, success, rfl⟩
    case isFalse => cases finished

/-- The daemon enters its main loop with libcw ready and keying the current cwdevice. -/
theorem start_eq {args : List (World × Arg)} {world : World} {state : State}
    (started : start args world = some state) :
    ∃ configured libcw log, State.Configuring configured ∧
      state = { configured.withLibcw libcw log with
        current := configured.defaults, hasAudioOutput := true
        requestQueue := configured.requestQueue.clear } ∧
      configured.resetAlmostAll world = (true, { configured.withLibcw libcw log with
        current := configured.defaults, hasAudioOutput := true }) ∧
      Ready libcw ∧ libcw.keyingCallback = some configured.globalCwdevice := by
  obtain ⟨configured, all, -, success, rfl⟩ := start_cases started
  -- A daemon whose first reset fails does not enter its main loop.
  obtain ⟨success', libcw, log, equal, ready, -⟩ := resetAlmostAll_eq world configured
  rw [equal] at success
  obtain rfl : success' = true := success
  rw [equal]
  exact ⟨configured, libcw, log, configuring_initialState.argsProcessAll all, rfl, equal, ready rfl⟩

theorem Started.wellformed {state : State} (started : Started state) : state.Wellformed := by
  obtain ⟨args, world, started⟩ := started
  obtain ⟨configured, libcw, log, configuring, rfl, -, ready, -⟩ := start_eq started
  refine ⟨⟨.inl configuring.running, ?_, ready.watched, ?_⟩, rfl⟩
  · simp [configuring.flag]
  · intro on
    exact absurd (by simpa [keyer] using on) configuring.line

/-- The invariant holds between any two steps of any run. -/
theorem Reachable.wellformed {state : State} (reachable : Reachable state) : state.Wellformed := by
  obtain ⟨initial, labels, started, rfl⟩ := reachable
  exact Runs.run_preserves Wellformed.step labels started.wellformed

/-! ## A world to try the daemon in -/

/-- A world in which the serial port `ttyS0` and every sound system can be opened, and
libcw plays a letter as two tones and rejects anything else.  No driver fails. -/
def calm : World where
  openTty path := if path = [byte '/', byte 'd', byte 'e', byte 'v', byte '/', byte 't', byte 't',
    byte 'y', byte 'S', byte '0'] then some 3 else none
  openLp _ := none
  geteuid := 1000
  strdup := true
  generatorNew _ _ := true
  generatorStart _ := true
  sendCharacter _ generator char :=
    if byte 'a' ≤ char ∧ char ≤ byte 'z' then some [⟨50000, generator.frequency⟩, ⟨150000, 0⟩] else none
  footswitch := true
  during _ := 0
  ioctl _ _ := true

theorem quiet_calm : Quiet calm := fun _ => rfl

def nullName : Bytes := [byte 'n', byte 'u', byte 'l', byte 'l']

def ttyS0 : Bytes := [byte 't', byte 't', byte 'y', byte 'S', byte '0']

def parport0 : Bytes := [byte 'p', byte 'a', byte 'r', byte 'p', byte 'o', byte 'r', byte 't', byte '0']

/-- The daemon, started in the calm world on the serial port. -/
def onSerialPort : State := (start [(calm, .cwdevice ttyS0)] calm).get (by decide +kernel)

theorem start_onSerialPort : start [(calm, .cwdevice ttyS0)] calm = some onSerialPort := (Option.some_get _).symm

theorem started_onSerialPort : Started onSerialPort := ⟨_, calm, start_onSerialPort⟩

def client : SockaddrIn := ⟨0x7f000001#32, 5000#16⟩

def otherClient : SockaddrIn := ⟨0x7f000001#32, 5001#16⟩

/-- A client sends a datagram. -/
def World.receives (world : World) (bytes : Bytes) : Label := ⟨world, .datagram client bytes⟩

/-- A client sends an Escape request. -/
def World.receivesEscape (world : World) (request : EscRequest) (payload : Bytes) : Label :=
  world.receives (ASCII_ESC :: request.code :: payload)

end Cwdaemon
