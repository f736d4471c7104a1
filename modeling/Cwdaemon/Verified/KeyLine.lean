import Cwdaemon.Verified.Footswitch
import Cwdaemon.Verified.Ports
import Cwdaemon.Verified.Signals

/-! # Ports that are not in use

A serial or parallel port is keyed, and its PTT is on, only while it is the current cwdevice
of a daemon that runs.  Whatever was going on when a port was switched away from, or when
the daemon ended, the transmitter behind it is left in peace.
-/

namespace Cwdaemon

/-- Whether the last command to the `cw` method of a device is ON, after a signal. -/
def Signal.keys (device : DeviceType) (keyed : Bool) : Signal → Bool
  | .key other on => if other = device then on else keyed
  | _ => keyed

def keyedAfter (device : DeviceType) (signals : List Signal) (keyed : Bool) : Bool :=
  signals.foldl (Signal.keys device) keyed

/-- The key of a device is down after the calls of a log. -/
def Keys (device : DeviceType) (log : List Entry) : Prop := keyedAfter device (signalsOf log) false = true

instance (device : DeviceType) (log : List Entry) : Decidable (Keys device log) :=
  inferInstanceAs (Decidable (_ = true))

section Signals

variable {device : DeviceType} {keyed : Bool}

theorem keyedAfter_append (first second : List Signal) :
    keyedAfter device (first ++ second) keyed = keyedAfter device second (keyedAfter device first keyed) :=
  List.foldl_append

/-- A reset releases the key of a port, and of no other device. -/
theorem keyedAfter_resetSignals (port : device ≠ .null) (other : DeviceType) :
    keyedAfter device (resetSignals other) keyed = if other = device then false else keyed := by
  cases other with
  | ttys | lp => cases device <;> rfl
  | null => rw [if_neg fun same => port same.symm]; rfl

theorem keyedAfter_freeSignals (port : device ≠ .null) (other : DeviceType) :
    keyedAfter device (freeSignals other) keyed = if other = device then false else keyed := by
  rw [← keyedAfter_resetSignals port other]
  cases other with
  | ttys | lp => rw [freeSignals, keyedAfter_append]; rfl
  | null => rfl

theorem keyedAfter_initSignals (port : device ≠ .null) (other : DeviceType) :
    keyedAfter device (initSignals other) keyed = if other = device then false else keyed :=
  keyedAfter_resetSignals port other

/-- Signals that do not press a key leave it as it was, or release it. -/
theorem keyedAfter_of_unpressed {signals : List Signal} (unpressed : Signal.key device true ∉ signals)
    (down : keyedAfter device signals keyed = true) : keyed = true := by
  induction signals generalizing keyed with
  | nil => exact down
  | cons signal signals inductionHypothesis =>
    obtain ⟨first, rest⟩ := not_or.mp (mt List.mem_cons.mpr unpressed)
    have before := inductionHypothesis rest down
    cases signal with
    | key other on =>
      simp only [Signal.keys] at before
      split at before
      case isTrue same =>
        subst same before
        exact absurd rfl first
      case isFalse => exact before
    | opened | closed | ssbWay | band => exact before

end Signals

theorem unpressed_resetSignals (device other : DeviceType) : .key device true ∉ resetSignals other := by
  cases other <;> simp [resetSignals]

theorem unpressed_freeSignals (device other : DeviceType) : .key device true ∉ freeSignals other := by
  cases other <;> simp [freeSignals, resetSignals]

theorem unpressed_initSignals (device other : DeviceType) : .key device true ∉ initSignals other := by
  simp [initSignals, unpressed_resetSignals]

/-- Putting one device in the place of another presses no key. -/
theorem unpressed_switched (device old new : DeviceType) (opens : Prop) [Decidable opens] :
    .key device true ∉ freeSignals old ++ if opens then initSignals new else [] := by
  rw [List.mem_append, not_or]
  refine ⟨unpressed_freeSignals device old, ?_⟩
  split
  · exact unpressed_initSignals device new
  · exact List.not_mem_nil

/-- Only the device that libcw keys is told that the key goes down. -/
theorem Action.key_callback {action : Action} {world : World} {state : State} {device : DeviceType}
    (pressed : .key device true ∈ action.signals world state) : state.libcw.keyingCallback = some device := by
  cases action with
  | key on =>
    obtain ⟨keyed, callback, same⟩ := Option.map_eq_some_iff.mp (Option.mem_toList.mp pressed)
    cases same
    exact callback
  | exit => exact absurd pressed (unpressed_freeSignals device _)
  | request request payload =>
    cases request with
    | reset => exact absurd pressed (unpressed_resetSignals device _)
    | exit => exact absurd pressed (unpressed_freeSignals device _)
    | cwdevice =>
      simp only [Action.signals, List.mem_ite_nil_left] at pressed
      exact absurd pressed.2 (unpressed_switched device _ _ _)
    | ssbWay | bandSwitch => simp [Action.signals] at pressed
    | speed | tone | abort | wordMode | weighting | port | pttState | tune | txDelay | soundSystem | volume | reply =>
      cases pressed
  | idle | text | dequeue => cases pressed

/-- A daemon that ends gives its cwdevice up. -/
theorem Action.signals_of_exits {world : World} {state : State} {action : Action} {code : Int}
    (exits : action.exitCode = some code) : action.signals world state = freeSignals state.globalCwdevice := by
  rcases Action.exits_cases exits with ⟨rfl, -⟩ | ⟨payload, rfl, -⟩ <;> rfl

namespace State

variable {state : State}

/-- Any other action keeps the daemon running on the cwdevice that it has, and does not tell
another one anything about PTT. -/
theorem step_stays {label : Label} (wellformed : state.Wellformed) (running : state.status = .running)
    (linked : state.Linked) (stays : ¬ label.input.action.Leaves) :
    (state.step label).status = .running ∧ (state.step label).globalCwdevice = state.globalCwdevice ∧
      ∀ device ≠ state.globalCwdevice,
        ((state.step label).devices device).pttCommand = (state.devices device).pttCommand := by
  have works := Works.step label (.inr linked) (.refl (label.licence state))
  have kept : ¬ (label.licence state).replaces := fun replaces =>
    stays (leaves_of_replaces (state.ready label.input) replaces)
  have lives : label.input.action.exitCode = none := not_not.mp fun ends => stays (.inl ends)
  refine ⟨?_, works.globalCwdevice kept, fun device other => works.untold kept other⟩
  rw [step_status label running wellformed]
  simp [statusAfter, lives]

/-! ## Leaving a device -/

/-- A port that is closed has its PTT off, and the other devices are left as they were. -/
theorem raised_of_freed {device current : DeviceType} (port : device ≠ .null) {devices : DeviceType → Cwdevice}
    (up : freed current devices device = some true) :
    device ≠ current ∧ (devices device).pttCommand = some true := by
  unfold freed at up
  split at up
  case isTrue same =>
    subst same
    cases device with
    | ttys | lp => cases up
    | null => exact absurd rfl port
  case isFalse other => exact ⟨other, up⟩

theorem exitProcess_ptt (code : Int) (state : State) (device : DeviceType) :
    ((state.exitProcess code).devices device).pttCommand = freed state.globalCwdevice state.devices device := by
  obtain ⟨log, closed⟩ := closeLibcwOutput_eq state
  obtain ⟨devices, log', free, commands⟩ := deviceFree_eq state.globalCwdevice (state.withLibcw ⟨none, none⟩ log)
  simp only [exitProcess, closed, withLibcw_globalCwdevice, free]
  exact commands device

/-- What the poll of the footswitch can do to the PTT of a device it does to the current one
of a running daemon. -/
theorem finish_ptt (world : World) (input : Input) (state : State) {device : DeviceType}
    (elsewhere : state.status = .running → device ≠ state.globalCwdevice) :
    ((state.finish world input).devices device).pttCommand = (state.devices device).pttCommand := by
  by_cases running : state.status = .running
  · exact (Works.finish world input state).untold id (elsewhere running)
  · cases input with
    | datagram | timeout | receiveError => rw [finish, if_neg running]
    | dequeue | key => rfl

/-- A device whose PTT is on is the current one. -/
def OnlyCurrentUp (state : State) (device : DeviceType) : Prop :=
  (state.devices device).pttCommand = some true → device = state.globalCwdevice

/-- A daemon that ends leaves the PTT of no port on. -/
theorem ended_ptt {device : DeviceType} (port : device ≠ .null) (only : state.OnlyCurrentUp device) (code : Int)
    (world : World) (input : Input) :
    (((state.exitProcess code).finish world input).devices device).pttCommand ≠ some true := by
  rw [finish_ptt world input _ fun running => Status.noConfusion running, exitProcess_ptt]
  intro up
  obtain ⟨other, raised⟩ := raised_of_freed port up
  exact other (only raised)

/-- A CWDEVICE request leaves no PTT on behind. -/
theorem switched_ptt {device : DeviceType} (port : device ≠ .null) (only : state.OnlyCurrentUp device)
    (world : World) (name : Bytes) (input : Input) :
    ((state.escCwdevice world name).finish world input).OnlyCurrentUp device := by
  intro up
  rw [(sameOutput_finish world input _).globalCwdevice]
  by_contra other
  rw [finish_ptt world input _ fun _ => other] at up
  rcases escCwdevice_cases world name state with ⟨-, log, equal⟩ | ⟨-, devices, log, equal, commands⟩
  · rw [equal] at up other
    exact other (only up)
  · rw [equal] at up other
    have command := (commands device).symm.trans up
    rw [if_neg fun same => other same.1] at command
    obtain ⟨left, raised⟩ := raised_of_freed port command
    exact left (only raised)

/-! ## The invariant -/

/-- A port with its key down or its PTT on is the current cwdevice of a running daemon. -/
def OnlyCurrentOn (past : List Entry) (state : State) : Prop :=
  ∀ device ≠ DeviceType.null, Keys device past ∨ (state.devices device).pttCommand = some true →
    state.status = .running ∧ device = state.globalCwdevice

/-- Whatever the descriptor, a port that is open is the one of the current cwdevice of a running
daemon, and one that is not open has its key up and its PTT off. -/
def OnlyCurrentOpen (past : List Entry) (state : State) : Prop :=
  ∀ device ≠ DeviceType.null, ∀ fd : Int, Owns device fd (portAfter device fd past .unused) state

/-- The key of a port that is left goes up. -/
theorem keyedAfter_left {device : DeviceType} (port : device ≠ .null) {current : DeviceType} {keyed : Bool}
    (only : keyed = true → device = current) : keyedAfter device (freeSignals current) keyed = false := by
  rw [keyedAfter_freeSignals port]
  split
  case isTrue => rfl
  case isFalse other => exact Bool.eq_false_iff.mpr fun down => other (only down).symm

/-- A CWDEVICE request leaves no key down behind. -/
theorem switched_key {device : DeviceType} (port : device ≠ .null) (world : World) (name : Bytes) {keyed : Bool}
    (only : keyed = true → device = state.globalCwdevice)
    (pressed : keyedAfter device ((Action.request .cwdevice name).signals world state) keyed = true) :
    device = (state.escCwdevice world name).globalCwdevice := by
  rcases escCwdevice_cases world name state with ⟨refused, log, equal⟩ | ⟨accepted, devices, log, equal, -⟩
  · simp only [Action.signals, if_pos refused] at pressed
    rw [equal]
    exact only pressed
  · simp only [Action.signals, if_neg accepted, keyedAfter_append, keyedAfter_left port only] at pressed
    split at pressed
    · rw [keyedAfter_initSignals port, ite_self] at pressed
      cases pressed
    · cases pressed

theorem OnlyCurrentOn.step {past : List Entry} (only : OnlyCurrentOn past state) (wellformed : state.Wellformed)
    (linked : state.Linked) (label : Label) : OnlyCurrentOn (past ++ (state.step label).log) (state.step label) := by
  by_cases running : state.status = .running
  case neg =>
    rw [step_ended label running, List.append_nil]
    exact only
  intro device port on
  have keyed (down : keyedAfter device (signalsOf past) false = true) : device = state.globalCwdevice :=
    (only device port (.inl down)).2
  have raised : state.OnlyCurrentUp device := fun up => (only device port (.inr up)).2
  rw [Keys, signalsOf_append, keyedAfter_append, step_signals label running wellformed] at on
  generalize keyedAfter device (signalsOf past) false = down at keyed on
  by_cases leaves : label.input.action.Leaves
  case neg =>
    obtain ⟨lives, current, untold⟩ := step_stays wellformed running linked leaves
    refine ⟨lives, ?_⟩
    rw [current]
    by_contra other
    -- Another device can neither be keyed nor told about PTT by such a step.
    rcases on with pressed | up
    · refine other (keyed (keyedAfter_of_unpressed (fun member => ?_) pressed))
      -- The device that libcw keys is the current one.
      rcases linked with none | same
      · cases none.symm.trans (Action.key_callback member)
      · exact other (Option.some.inj ((Action.key_callback member).symm.trans same))
    · exact other (raised ((untold device other).symm.trans up))
  case pos =>
    have same := sameOutput_ready label.input state
    have raised' : (state.ready label.input).OnlyCurrentUp device := by
      obtain ⟨seconds, addr, log, ready, -⟩ := ready_eq label.input state
      rw [ready]
      exact raised
    rcases leaves with ends | ⟨payload, action⟩
    · obtain ⟨code, exits⟩ := Option.ne_none_iff_exists'.mp ends
      rw [step_eq label running, act_of_exits exits, Action.signals_of_exits exits, keyedAfter_left port keyed] at on
      exact (on.elim Bool.noConfusion (ended_ptt port raised' code label.world label.input)).elim
    · have lives := step_status label running wellformed
      refine ⟨by rw [lives]; simp [statusAfter, action, Action.exitCode], ?_⟩
      have switched := switched_ptt port raised' label.world payload label.input
      have acts : (state.step label) =
          ((state.ready label.input).escCwdevice label.world payload).finish label.world label.input := by
        rw [step_eq label running, action]
        rfl
      rw [← acts] at switched
      refine on.elim (fun pressed => ?_) switched
      rw [← signals_ready label.world _ label.input, action] at pressed
      rw [acts, (sameOutput_finish label.world label.input _).globalCwdevice]
      exact switched_key port label.world payload (fun down => (keyed down).trans same.globalCwdevice.symm) pressed

/-! ## Start-up -/

/-- No port has its key down or its PTT on. -/
def AtRest (state : State) : Prop :=
  ∀ device ≠ DeviceType.null, ¬ Keys device state.log ∧ (state.devices device).pttCommand ≠ some true

theorem AtRest.gives {after : State} {signals : List Signal} (rests : state.AtRest) (gives : Gives signals state after)
    (unpressed : ∀ device, .key device true ∉ signals)
    (lowered : ∀ device ≠ DeviceType.null, (after.devices device).pttCommand = some true →
      (state.devices device).pttCommand = some true) : after.AtRest := by
  intro device port
  obtain ⟨up, off⟩ := rests device port
  refine ⟨fun down => up (keyedAfter_of_unpressed (unpressed device) ?_), fun on => off (lowered device port on)⟩
  rwa [Keys, gives, keyedAfter_append] at down

theorem AtRest.argsProcess {world : World} {arg : Arg} {after : State} (rests : state.AtRest)
    (processed : state.argsProcess world arg = some after) : after.AtRest := by
  rcases argsProcess_cases processed with ⟨name, -, selected⟩ | ⟨option, -, -, parsed⟩ | ⟨-, -, _, _, _, rfl⟩
  -- A cwdevice, an option for the lines of the serial port, or an option for a setting.
  · rcases optionCwdevice_cases world name state with ⟨-, refused⟩ | ⟨-, fd, adopted⟩
    · rw [refused] at selected
      cases selected
    · have told := gives_adoptCwdevice world (selectedType world name) fd name state
      rw [← adopted, selected] at told
      refine rests.gives told (fun device => unpressed_switched device _ _ _) fun device port up => ?_
      obtain ⟨devices, log, rfl, commands⟩ := optionCwdevice_selected selected
      have command := (commands device).symm.trans up
      split at command
      · generalize selectedType world name = selected at command
        cases selected <;> cases command
      · exact (raised_of_freed port command).2
  · obtain ⟨lines, -, rfl | rfl⟩ := ttysOptparse_cases parsed
    · have told := (Gives.of_log_eq rfl).trans
        (gives_deviceCw .ttys false (state.setDevice .ttys { state.devices .ttys with ttyOptions := lines }))
      obtain ⟨log, keyed⟩ := deviceCw_eq .ttys false
        (state.setDevice .ttys { state.devices .ttys with ttyOptions := lines })
      refine rests.gives told (by simp) fun device _ up => ?_
      rw [keyed] at up
      cases device with
      | ttys | lp | null => exact up
    · have told := (Gives.of_log_eq rfl).trans
        (gives_devicePtt .ttys false (state.setDevice .ttys { state.devices .ttys with ttyOptions := lines }))
      obtain ⟨log, lowered⟩ := devicePtt_eq .ttys false
        (state.setDevice .ttys { state.devices .ttys with ttyOptions := lines })
      refine rests.gives told (fun _ => List.not_mem_nil) fun device _ up => ?_
      rw [lowered] at up
      cases device with
      | ttys => cases up
      | lp | null => exact up
  · exact rests.gives (.of_log_eq rfl) (fun _ => List.not_mem_nil) fun _ _ => id

theorem AtRest.argsProcessAll {args : List (World × Arg)} {after : State} (rests : state.AtRest)
    (processed : argsProcessAll args state = some after) : after.AtRest :=
  argsProcessAll_relates (fun state after => state.AtRest → after.AtRest) (fun _ => id)
    (fun earlier later => later ∘ earlier) (fun _ _ _ _ processed rests => rests.argsProcess processed) processed rests

end State

open State

/-- The daemon enters its main loop with every port at rest. -/
theorem Started.atRest {state : State} (started : Started state) : state.AtRest := by
  obtain ⟨args, world, started⟩ := started
  obtain ⟨configured, all, -, -, rfl⟩ := start_cases started
  have rests : initialState.AtRest := fun device _ => ⟨Bool.false_ne_true, by cases device <;> exact nofun⟩
  obtain ⟨success, libcw, log, equal, -⟩ := resetAlmostAll_eq world configured
  refine (rests.argsProcessAll all).gives ((gives_resetAlmostAll world configured).silently (.of_log_eq rfl))
    (fun _ => List.not_mem_nil) fun device _ up => ?_
  rw [equal] at up
  exact up

/-- In every run of the daemon a serial or parallel port with its key down or its PTT on is
the current cwdevice, and the daemon runs: when it switches to another cwdevice, or ends,
the port that it leaves is released.  The same holds of each descriptor that the daemon has
used for a port: if it is not the one of the current cwdevice, the port behind it is closed,
with its key up and its PTT off. -/
theorem only_current_port_is_on {initial : State} (started : Started initial) (labels : List Label) :
    OnlyCurrentOn (initial.log ++ calls labels initial) (Runs.run State.step labels initial) ∧
      OnlyCurrentOpen (initial.log ++ calls labels initial) (Runs.run State.step labels initial) := by
  have linked : initial.Linked := Reachable.linked ⟨initial, [], started, rfl⟩
  have first : OnlyCurrentOn initial.log initial := fun device port on =>
    absurd on (not_or.mpr (started.atRest device port))
  have first' : OnlyCurrentOpen initial.log initial := fun device isPort fd => started.owns isPort fd
  have preserved (label : Label) (state : State) (past : List Entry)
      (invariant : state.Wellformed ∧ state.Linked ∧ OnlyCurrentOn past state ∧ OnlyCurrentOpen past state) :
      (state.step label).Wellformed ∧ (state.step label).Linked ∧
        OnlyCurrentOn (past ++ (state.step label).log) (state.step label) ∧
        OnlyCurrentOpen (past ++ (state.step label).log) (state.step label) := by
    obtain ⟨wellformed, linked, on, opened⟩ := invariant
    refine ⟨wellformed.step label, linked.step label wellformed, on.step wellformed linked label,
      fun device isPort fd => ?_⟩
    rw [portAfter_append]
    exact (opened device isPort fd).step isPort linked wellformed label
  exact (Runs.history_preserves preserved labels ⟨started.wellformed, linked, first, first'⟩).2.2

def ttyS1 : Bytes := [byte 't', byte 't', byte 'y', byte 'S', byte '1']

/-- Another serial port gets another descriptor. -/
def secondPort : World := { calm with openTty := fun _ => some 4 }

/-- The key is down when the serial port is given up for another serial port. -/
theorem switched_port_is_off :
    (Keys .ttys (onSerialPort.log ++ calls [⟨calm, .key true⟩] onSerialPort) ∧
      (portAfter .ttys 3 (onSerialPort.log ++ calls [⟨calm, .key true⟩] onSerialPort) .unused).keyed = true) ∧
    OnlyCurrentOn
      (onSerialPort.log ++ calls [⟨calm, .key true⟩, secondPort.receivesEscape .cwdevice ttyS1] onSerialPort)
      (Runs.run State.step [⟨calm, .key true⟩, secondPort.receivesEscape .cwdevice ttyS1] onSerialPort) ∧
    OnlyCurrentOpen
      (onSerialPort.log ++ calls [⟨calm, .key true⟩, secondPort.receivesEscape .cwdevice ttyS1] onSerialPort)
      (Runs.run State.step [⟨calm, .key true⟩, secondPort.receivesEscape .cwdevice ttyS1] onSerialPort) :=
  ⟨by decide +kernel, only_current_port_is_on started_onSerialPort _⟩

end Cwdaemon
