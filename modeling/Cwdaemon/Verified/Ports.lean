import Cwdaemon.Verified.Ending

/-! # Ports and their descriptors

What is behind a serial or parallel port is reached by a descriptor.  When the daemon goes
from one serial port to another the cwdevice is the same, and only the descriptors tell the
two ports apart.
-/

namespace Cwdaemon

/-! ## Leaving a cwdevice -/

/-- The daemon changes its cwdevice, or ends. -/
def Action.Leaves (action : Action) : Prop :=
  action.exitCode ≠ none ∨ ∃ name, action = .request .cwdevice name

theorem Action.exits_cases {action : Action} {code : Int} (exits : action.exitCode = some code) :
    action = .exit ∧ code = 1 ∨ ∃ payload, action = .request .exit payload ∧ code = 0 := by
  cases action with
  | exit =>
    cases exits
    exact .inl ⟨rfl, rfl⟩
  | request request payload =>
    cases request <;> cases exits
    exact .inr ⟨payload, rfl, rfl⟩
  | idle | text | dequeue | key => cases exits

namespace State

theorem act_of_exits {action : Action} {code : Int} (exits : action.exitCode = some code) (world : World)
    (state : State) : state.act world action = state.exitProcess code := by
  rcases Action.exits_cases exits with ⟨rfl, rfl⟩ | ⟨payload, rfl, rfl⟩ <;> rfl

theorem leaves_of_replaces (state : State) {action : Action} (replaces : (action.licence state).replaces) :
    action.Leaves := by
  rcases replaces with rfl | ⟨payload, rfl | rfl⟩
  · exact .inl nofun
  · exact .inr ⟨payload, rfl⟩
  · exact .inl nofun

end State

/-! ## Calls -/

/-- What has become of a port with a certain descriptor: whether a cwdevice has it open, and
the last commands for key and PTT that reached it. -/
structure Port where
  opened : Bool
  keyed : Bool
  raised : Bool
  deriving DecidableEq, Repr

namespace Port

def unused : Port := ⟨false, false, false⟩

/-- The port that `device` uses as `fd`, after a call.  Only while it is open do the commands
for the device reach it. -/
def next (device : DeviceType) (fd : Int) (port : Port) : Call → Port
  | .deviceInit other fd' => if other = device then { port with opened := fd' = fd } else port
  | .deviceFree other fd' => if other = device ∧ fd' = fd then { port with opened := false } else port
  | .deviceCw other on => if other = device ∧ port.opened then { port with keyed := on } else port
  | .devicePtt other on => if other = device ∧ port.opened then { port with raised := on } else port
  | _ => port

/-- Its key is down, or its PTT is on, only while it is open. -/
def Released (port : Port) : Prop := port.keyed = true ∨ port.raised = true → port.opened = true

end Port

/-- The port after the calls of a log. -/
def portAfter (device : DeviceType) (fd : Int) (log : List Entry) (port : Port) : Port :=
  log.foldl (fun port entry => port.next device fd entry.call) port

/-- The call opens or closes a cwdevice. -/
def Call.moves : Call → Bool
  | .deviceInit _ _ | .deviceFree _ _ => true
  | _ => false

section Calls

variable {device : DeviceType} {fd : Int} {port : Port}

theorem portAfter_append (first second : List Entry) :
    portAfter device fd (first ++ second) port = portAfter device fd second (portAfter device fd first port) :=
  List.foldl_append

@[simp] theorem portAfter_concat (log : List Entry) (entry : Entry) :
    portAfter device fd (log ++ [entry]) port = (portAfter device fd log port).next device fd entry.call :=
  portAfter_append ..

theorem Port.Released.eq_unused (released : port.Released) (closed : port.opened = false) : port = .unused := by
  obtain ⟨opened, keyed, raised⟩ := port
  cases closed
  cases keyed with
  | true => cases released (.inl rfl)
  | false =>
    cases raised with
    | true => cases released (.inr rfl)
    | false => rfl

theorem Port.next_of_stays {call : Call} (stays : call.moves = false) (released : port.Released) :
    (port.next device fd call).opened = port.opened ∧ (port.next device fd call).Released := by
  cases call with
  | deviceInit | deviceFree => cases stays
  | deviceCw other on | devicePtt other on =>
    simp only [Port.next]
    split
    case isTrue reached => exact ⟨rfl, fun _ => reached.2⟩
    case isFalse => exact ⟨rfl, released⟩
  | _ => exact ⟨rfl, released⟩

/-- Commands alone neither open nor close a port. -/
theorem portAfter_of_stays {log : List Entry} (stays : ∀ entry ∈ log, entry.call.moves = false)
    (released : port.Released) :
    (portAfter device fd log port).opened = port.opened ∧ (portAfter device fd log port).Released := by
  induction log generalizing port with
  | nil => exact ⟨rfl, released⟩
  | cons entry log inductionHypothesis =>
    obtain ⟨here, rest⟩ := List.forall_mem_cons.mp stays
    obtain ⟨same, next⟩ : (port.next device fd entry.call).opened = port.opened ∧
        (port.next device fd entry.call).Released := Port.next_of_stays here released
    exact (inductionHypothesis rest next).imp_left (·.trans same)

end Calls

namespace State

/-- An open port is the one of the current cwdevice, and a port that is not open is left in
peace. -/
structure Matches (device : DeviceType) (fd : Int) (port : Port) (state : State) : Prop where
  released : port.Released
  current : port.opened = true → device = state.globalCwdevice ∧ (state.devices device).fd = fd

variable {state before after : State} {device : DeviceType} {fd : Int} {port : Port}

/-! ## Operations -/

@[simp] theorem portAfter_ttysLines (on : Bool) (mask : BitVec 32) (state : State) :
    portAfter device fd (state.ttysLines on mask).log port = portAfter device fd state.log port := by
  unfold ttysLines
  split
  · rfl
  · exact portAfter_concat ..

theorem portAfter_deviceCw (type : DeviceType) (on : Bool) (state : State) :
    portAfter device fd (state.deviceCw type on).log port =
      (portAfter device fd state.log port).next device fd (.deviceCw type on) := by
  cases type <;> simp [deviceCw]

theorem portAfter_devicePtt (type : DeviceType) (on : Bool) (state : State) :
    portAfter device fd (state.devicePtt type on).log port =
      (portAfter device fd state.log port).next device fd (.devicePtt type on) := by
  cases type <;> simp [devicePtt]

/-- Key and PTT of a port go off in a reset, and no other one changes. -/
theorem portAfter_deviceResetPinsState (isPort : device ≠ .null) (type : DeviceType) (state : State) :
    portAfter device fd (state.deviceResetPinsState type).log port =
      if type = device ∧ (portAfter device fd state.log port).opened then ⟨true, false, false⟩
      else portAfter device fd state.log port := by
  generalize was : portAfter device fd state.log port = port'
  have off : portAfter device fd ((state.deviceCw type false).devicePtt type false).log port =
      if type = device ∧ port'.opened then ⟨true, false, false⟩ else port' := by
    rw [portAfter_devicePtt, portAfter_deviceCw, was]
    obtain ⟨opened, keyed, raised⟩ := port'
    by_cases reached : type = device ∧ opened
    · simp [Port.next, reached]
    · simp [Port.next, reached]
  cases type with
  | ttys => exact off
  | lp =>
    simp only [deviceResetPinsState, record_log, portAfter_concat]
    rw [off]
    rfl
  | null => rw [if_neg fun same => isPort same.1.symm]; exact was

theorem deviceResetPinsState_fd (type other : DeviceType) (state : State) :
    ((state.deviceResetPinsState type).devices other).fd = (state.devices other).fd := by
  obtain ⟨log, reset⟩ := deviceResetPinsState_eq type state
  rw [reset]
  by_cases same : other = type
  · subst same
    simp
  · simp [same]

/-- The port of a cwdevice that is closed is released. -/
theorem portAfter_deviceFree (isPort : device ≠ .null) {old : DeviceType}
    (released : (portAfter device fd state.log port).Released)
    (current : (portAfter device fd state.log port).opened = true → device = old ∧ (state.devices device).fd = fd) :
    portAfter device fd (state.deviceFree old).log port = .unused := by
  have reset := @portAfter_deviceResetPinsState device fd port isPort old state
  have same := deviceResetPinsState_fd old old state
  generalize before : portAfter device fd state.log port = was at released current reset
  have closed : ((portAfter device fd (state.deviceResetPinsState old).log port).next device fd
      (.deviceFree old ((state.deviceResetPinsState old).devices old).fd)) = .unused := by
    rw [reset, same]
    cases opened : was.opened with
    | true =>
      obtain ⟨rfl, rfl⟩ := current opened
      simp [Port.next, Port.unused]
    | false =>
      rw [released.eq_unused opened]
      simp [Port.next, Port.unused]
  cases old with
  | ttys | lp =>
    simp only [deviceFree, setDevice_log, record_log, portAfter_concat]
    exact closed
  | null =>
    have unopened : was.opened = false := Bool.eq_false_iff.mpr fun opened => isPort (current opened).1
    exact before.trans (released.eq_unused unopened)

/-- A port is opened with its key up and its PTT off. -/
theorem Matches.deviceInit (isPort : device ≠ .null) {type : DeviceType} (current : state.globalCwdevice = type)
    (unused : portAfter device fd state.log port = .unused) (fd' : Int) :
    Matches device fd (portAfter device fd (state.deviceInit type fd').log port) (state.deviceInit type fd') := by
  have begins : ∃ begun : State, state.deviceInit type fd' = begun.deviceResetPinsState type ∧
      begun.globalCwdevice = type ∧ (begun.devices type).fd = fd' ∧
      portAfter device fd begun.log port = if type = device then ⟨fd' = fd, false, false⟩ else .unused := by
    refine ⟨(state.record (.deviceInit type fd')).setDevice type
      { state.devices type with fd := fd', pttCommand := none }, by cases type <;> rfl, current, by simp, ?_⟩
    rw [setDevice_log, record_log, portAfter_concat, unused]
    rfl
  obtain ⟨begun, equal, selected, uses, opened⟩ := begins
  obtain ⟨log, reset⟩ := deviceResetPinsState_eq type begun
  have selected' : (begun.deviceResetPinsState type).globalCwdevice = type := by
    rw [reset]
    exact selected
  rw [equal, portAfter_deviceResetPinsState isPort, opened]
  by_cases same : type = device
  · subst same
    have fits : ((begun.deviceResetPinsState type).devices type).fd = fd' :=
      (deviceResetPinsState_fd type type begun).trans uses
    by_cases its : fd' = fd
    · simp only [its, decide_true, and_self, if_true]
      exact ⟨fun _ => rfl, fun _ => ⟨selected'.symm, fits.trans its⟩⟩
    · simp only [its, decide_false, if_true]
      exact ⟨nofun, nofun⟩
  · simp only [same, false_and, if_false]
    exact ⟨nofun, nofun⟩

theorem Matches.adoptCwdevice (isPort : device ≠ .null) (matched : Matches device fd (portAfter device fd state.log port) state)
    (world : World) (type : DeviceType) (fd' : Int) (desc : Bytes) :
    Matches device fd (portAfter device fd (state.adoptCwdevice world type fd' desc).2.log port)
      (state.adoptCwdevice world type fd' desc).2 := by
  have closed : portAfter device fd (deviceFree state.globalCwdevice { state with globalCwdevice := type }).log port =
      .unused := portAfter_deviceFree isPort matched.released matched.current
  have selected : (deviceFree state.globalCwdevice { state with globalCwdevice := type }).globalCwdevice = type := by
    obtain ⟨devices, log, free, -⟩ := deviceFree_eq state.globalCwdevice { state with globalCwdevice := type }
    rw [free]
    rfl
  unfold State.adoptCwdevice
  simp only
  generalize State.deviceFree state.globalCwdevice _ = left at closed selected ⊢
  have described (other : DeviceType) (desc : Option Bytes) (state : State) :
      (state.setDesc other desc).log = state.log ∧ (state.setDesc other desc).globalCwdevice = state.globalCwdevice :=
    ⟨rfl, rfl⟩
  split
  · refine Matches.deviceInit isPort ?_ ?_ fd'
    · simpa only [described] using selected
    · simpa only [described] using closed
  · simp only [described, closed]
    exact ⟨nofun, nofun⟩

/-- What does not replace the current cwdevice opens and closes no port. -/
theorem opened_of_works {licence : Licence} (works : Works licence before after) (stays : ¬ licence.replaces)
    (released : (portAfter device fd before.log port).Released) :
    (portAfter device fd after.log port).opened = (portAfter device fd before.log port).opened ∧
      (portAfter device fd after.log port).Released := by
  obtain ⟨new, appended, made⟩ := works.adds
  have unmoved : ∀ entry ∈ new, entry.call.moves = false := by
    intro entry member
    rcases made entry member with wires | ⟨tone, played⟩
    · generalize entry.call = call at wires
      cases call with
      | deviceInit | deviceFree => exact absurd wires stays
      | _ => rfl
    · rw [played]
      rfl
  rw [appended, portAfter_append]
  exact portAfter_of_stays unmoved released

theorem Matches.works {licence : Licence} (matched : Matches device fd (portAfter device fd before.log port) before)
    (works : Works licence before after) (stays : ¬ licence.replaces) :
    Matches device fd (portAfter device fd after.log port) after := by
  obtain ⟨same, released⟩ := opened_of_works works stays matched.released
  refine ⟨released, fun opened => ?_⟩
  rw [works.globalCwdevice stays, works.fd stays]
  exact matched.current (same.symm.trans opened)

theorem Matches.optionCwdevice (isPort : device ≠ .null)
    (matched : Matches device fd (portAfter device fd state.log port) state) (world : World) (name : Bytes) :
    Matches device fd (portAfter device fd (state.optionCwdevice world name).2.log port)
      (state.optionCwdevice world name).2 := by
  rcases optionCwdevice_cases world name state with ⟨-, refused⟩ | ⟨-, fd', adopted⟩
  · rw [refused]
    exact matched
  · rw [adopted]
    exact matched.adoptCwdevice isPort world _ fd' name

theorem Matches.escCwdevice (isPort : device ≠ .null)
    (matched : Matches device fd (portAfter device fd state.log port) state) (world : World) (name : Bytes) :
    Matches device fd (portAfter device fd (state.escCwdevice world name).log port) (state.escCwdevice world name) := by
  have registers (other : Option DeviceType) (state : State) :
      Works .none state (state.cwRegisterKeyingCallback other) := .cwRegisterKeyingCallback other state
  have selected := (matched.works (registers none state) id).optionCwdevice isPort world name
  simp only [State.escCwdevice]
  split
  · exact selected.works (registers _ _) id
  · exact selected

theorem Matches.exitProcess (isPort : device ≠ .null) (matched : Matches device fd (portAfter device fd state.log port) state)
    (code : Int) : portAfter device fd (state.exitProcess code).log port = .unused := by
  have works : Works { Licence.none with renews := True } state state.closeLibcwOutput := .closeLibcwOutput trivial state
  have closed := matched.works works id
  exact portAfter_deviceFree isPort closed.released closed.current

/-! ## Steps -/

/-- A port is in use while the daemon runs; afterwards none is. -/
structure Owns (device : DeviceType) (fd : Int) (port : Port) (state : State) : Prop where
  matched : Matches device fd port state
  running : port.opened = true → state.status = .running

theorem Owns.step (isPort : device ≠ .null) (owns : Owns device fd port state) (linked : state.Linked)
    (wellformed : state.Wellformed) (label : Label) :
    Owns device fd (portAfter device fd (state.step label).log port) (state.step label) := by
  by_cases running : state.status = .running
  case neg =>
    rw [step_ended label running]
    exact ⟨⟨owns.matched.released, owns.matched.current⟩, owns.running⟩
  have begun : Matches device fd (portAfter device fd ({ state with log := [] } : State).log port) { state with log := [] } :=
    ⟨owns.matched.released, owns.matched.current⟩
  have finish := Works.finish label.world label.input ((state.ready label.input).act label.world label.input.action)
  have ready := begun.works (Works.ready label.input state) id
  cases exits : label.input.action.exitCode with
  | some code =>
    have unused := ready.exitProcess isPort code
    rw [← act_of_exits exits label.world] at unused
    have left : Matches device fd (portAfter device fd
        ((state.ready label.input).act label.world label.input.action).log port)
        ((state.ready label.input).act label.world label.input.action) := by
      rw [unused]
      exact ⟨nofun, nofun⟩
    have closed := (opened_of_works finish id left.released).1
    rw [unused, ← step_eq label running] at closed
    rw [← step_eq label running] at finish
    exact ⟨left.works finish id, fun opened => Bool.noConfusion (closed.symm.trans opened)⟩
  | none =>
    have lives : (state.step label).status = .running := by
      rw [step_status label running wellformed]
      simp [statusAfter, exits]
    refine ⟨?_, fun _ => lives⟩
    by_cases request : ∃ payload, label.input.action = .request .cwdevice payload
    · obtain ⟨payload, action⟩ := request
      rw [action] at finish
      rw [step_eq label running, action]
      exact (ready.escCwdevice isPort label.world payload).works finish id
    · refine begun.works (.step label (.inr linked) (Licence.Within.refl _)) fun replaces => ?_
      rcases leaves_of_replaces (state.ready label.input) replaces with ends | named
      · exact ends exits
      · exact request named

/-! ## Start-up -/

theorem Matches.argsProcess (isPort : device ≠ .null)
    (matched : Matches device fd (portAfter device fd before.log port) before) {world : World} {arg : Arg}
    (processed : before.argsProcess world arg = some after) :
    Matches device fd (portAfter device fd after.log port) after := by
  rcases argsProcess_cases processed with ⟨name, -, selected⟩ | ⟨option, -, current, parsed⟩ | ⟨-, -, _, _, _, rfl⟩
  · have adopted := matched.optionCwdevice isPort world name
    rwa [selected] at adopted
  · have works : Works { Licence.none with rewires := True } before after := .ttysOptparse trivial current parsed
    exact matched.works works id
  · exact ⟨matched.released, matched.current⟩

end State

open State

/-- The daemon enters its main loop with at most one port open, that of its cwdevice. -/
theorem Started.owns {state : State} (started : Started state) {device : DeviceType} (isPort : device ≠ .null)
    (fd : Int) : Owns device fd (portAfter device fd state.log .unused) state := by
  refine ⟨?_, fun _ => started.running⟩
  obtain ⟨args, world, started⟩ := started
  obtain ⟨configured, all, -, -, rfl⟩ := start_cases started
  have first : Matches device fd (portAfter device fd initialState.log .unused) initialState := ⟨nofun, nofun⟩
  have matched : Matches device fd (portAfter device fd configured.log .unused) configured :=
    argsProcessAll_relates
      (fun before after => Matches device fd (portAfter device fd before.log .unused) before →
        Matches device fd (portAfter device fd after.log .unused) after)
      (fun _ => id) (fun earlier later => later ∘ earlier) (fun _ _ _ _ processed matched => matched.argsProcess isPort processed)
      all first
  have works : Works { Licence.none with renews := True } configured (configured.resetAlmostAll world).2 :=
    .resetAlmostAll trivial world configured
  have reset := matched.works works id
  exact ⟨reset.released, reset.current⟩

end Cwdaemon
