import Cwdaemon.Verified.Works

/-! # The lines of the serial port

The functions of the two lines are assigned on the command line, where they are
validated at the end if the serial port is the current cwdevice then.  Nothing changes
the assignment later, and nothing validates it when the serial port is selected later.
-/

namespace Cwdaemon

open CString

/-- Key and PTT do not share a line, or one of them is opted out. -/
def TtyDriverOptions.Separate (options : TtyDriverOptions) : Prop :=
  options.key ≠ options.ptt ∨ options.key = 0#32 ∨ options.ptt = 0#32

instance (options : TtyDriverOptions) : Decidable options.Separate := inferInstanceAs (Decidable (_ ∨ _))

/-- The assignment after a command line option. -/
def Arg.assigns (arg : Arg) (lines : TtyDriverOptions) : TtyDriverOptions :=
  match arg with
  | .options option => (optparse option lines).2
  | _ => lines

/-- The assignment that a command line makes. -/
def linesOf (args : List Arg) : TtyDriverOptions :=
  args.foldl (fun lines arg => arg.assigns lines) ⟨TIOCM_DTR, TIOCM_RTS⟩

namespace State

/-- The options of the cwdevices; only those of the serial port mean anything. -/
def options (state : State) (type : DeviceType) : TtyDriverOptions := (state.devices type).ttyOptions

/-- The assignment of the lines. -/
def lines (state : State) : TtyDriverOptions := state.options .ttys

theorem ttysOptvalidate_iff (state : State) : state.ttysOptvalidate = true ↔ state.lines.Separate := by
  simp only [ttysOptvalidate, lines, options, TtyDriverOptions.Separate, Bool.not_eq_true', Bool.and_eq_false_iff,
    bne_eq_false_iff_eq, beq_eq_false_iff_ne]
  tauto

theorem Works.options {licence : Licence} {before after : State} (works : Works licence before after)
    (wired : ¬ licence.rewires) : after.options = before.options := funext (works.ttyOptions wired)

theorem setDevice_options (type : DeviceType) (device : Cwdevice) (state : State)
    (kept : device.ttyOptions = (state.devices type).ttyOptions) :
    (state.setDevice type device).options = state.options := by
  funext other
  by_cases same : other = type
  · subst same
    simpa [options] using kept
  · simp [options, same]

/-! ## The command line -/

theorem ttysOptparse_options {option : Bytes} {state after : State}
    (parsed : state.ttysOptparse option = some after) :
    after.options = Function.update state.options .ttys ((Arg.options option).assigns state.lines) := by
  obtain ⟨lines, accepted, switched⟩ := ttysOptparse_cases parsed
  have assigned : (state.setDevice .ttys { state.devices .ttys with ttyOptions := lines }).options =
      Function.update state.options .ttys ((Arg.options option).assigns state.lines) := by
    have lines_eq : (Arg.options option).assigns state.lines = lines := congrArg Prod.snd accepted
    rw [lines_eq]
    funext type
    cases type <;> rfl
  rw [← assigned]
  rcases switched with rfl | rfl
  · obtain ⟨log, keyed⟩ := deviceCw_eq .ttys false
      (state.setDevice .ttys { state.devices .ttys with ttyOptions := lines })
    rw [keyed]
    rfl
  · obtain ⟨log, lowered⟩ := devicePtt_eq .ttys false
      (state.setDevice .ttys { state.devices .ttys with ttyOptions := lines })
    rw [lowered]
    exact setDevice_options .ttys _ _ rfl

theorem argsProcess_options {world : World} {arg : Arg} {state after : State}
    (processed : state.argsProcess world arg = some after) :
    after.options = Function.update state.options .ttys (arg.assigns state.lines) := by
  have unchanged : state.options = Function.update state.options .ttys state.lines :=
    (Function.update_eq_self .ttys state.options).symm
  rcases argsProcess_cases processed with ⟨name, rfl, selected⟩ | ⟨option, rfl, -, parsed⟩ | ⟨device, option, _, _, _, rfl⟩
  · have works : Works .all state (state.optionCwdevice world name).2 := .optionCwdevice trivial trivial world name state
    rw [selected] at works
    exact (works.options id).trans unchanged
  · exact ttysOptparse_options parsed
  · cases arg with
    | options value => exact absurd rfl (option value)
    | cwdevice | port | priority | wpm | pttdelay | volume | weighting | tone | system => exact unchanged

theorem argsProcessAll_options {args : List (World × Arg)} {state after : State}
    (processed : argsProcessAll args state = some after) :
    after.options = Function.update state.options .ttys
      ((args.map Prod.snd).foldl (fun lines arg => arg.assigns lines) state.lines) := by
  induction args generalizing state with
  | nil =>
    cases processed
    exact (Function.update_eq_self _ _).symm
  | cons arg args inductionHypothesis =>
    obtain ⟨next, first, rest⟩ := Option.bind_eq_some_iff.mp processed
    have assigned : next.lines = arg.2.assigns state.lines := by
      unfold lines
      rw [argsProcess_options first, Function.update_self]
      rfl
    rw [inductionHypothesis rest, argsProcess_options first, assigned, Function.update_idem]
    rfl

end State

open State

/-- The daemon starts with the lines of its command line, which are separate if the serial
port is the current cwdevice. -/
theorem start_options {args : List (World × Arg)} {world : World} {state : State}
    (started : start args world = some state) :
    state.options = Function.update initialState.options .ttys (linesOf (args.map Prod.snd)) ∧
      (state.globalCwdevice = .ttys → state.lines.Separate) := by
  obtain ⟨configured, all, valid, -, rfl⟩ := start_cases started
  obtain ⟨success, libcw, log, equal, -⟩ := resetAlmostAll_eq world configured
  have assigned := argsProcessAll_options all
  rw [equal]
  exact ⟨assigned, fun current => (ttysOptvalidate_iff configured).mp (valid current)⟩

theorem start_lines {args : List (World × Arg)} {world : World} {state : State}
    (started : start args world = some state) : state.lines = linesOf (args.map Prod.snd) := by
  unfold lines
  rw [(start_options started).1, Function.update_self]

namespace State

/-! ## Runs -/

/-- No step changes the assignment. -/
theorem step_options (label : Label) (state : State) : (state.step label).options = state.options := by
  have works : Works .all { state with log := [] } (state.step label) :=
    .step label (.inl trivial) (Licence.within_all id)
  exact works.options id

/-- A CWDEVICE request that selects the serial port. -/
def SelectsSerialPort (label : Label) (state : State) : Prop :=
  state.status = .running ∧ ∃ payload, label.input.action = .request .cwdevice payload ∧ payload ≠ [] ∧
    (ttyProbeCwdevice label.world payload).isSome

theorem step_selectsSerialPort {label : Label} {state : State} (selects : SelectsSerialPort label state) :
    (state.step label).globalCwdevice = .ttys := by
  obtain ⟨running, payload, action, named, serial⟩ := selects
  rw [step_eq label running, action, (Works.finish label.world label.input _).globalCwdevice id]
  simp only [act, handleEscRequest]
  rcases escCwdevice_cases label.world payload (state.ready label.input) with
    ⟨refused, -⟩ | ⟨-, devices, log, equal, -⟩
  · rcases refused with empty | ⟨none, -⟩
    · exact absurd empty named
    · simp [none] at serial
  · rw [equal]
    simp [selectedType, serial]

/-- Without such a request the serial port is not current unless it was before. -/
theorem step_unselectedSerialPort {label : Label} {state : State} (linked : state.Linked)
    (unselected : ¬ SelectsSerialPort label state) (after : (state.step label).globalCwdevice = .ttys) :
    state.globalCwdevice = .ttys := by
  by_cases replaces : (label.input.action.licence (state.ready label.input)).replaces
  case neg =>
    have works := Works.step label (.inr linked) (Licence.Within.refl _)
    exact (works.globalCwdevice replaces).symm.trans after
  by_cases running : state.status = .running
  case neg =>
    rw [step_ended label running] at after
    exact after
  have ready := (Works.ready label.input state).globalCwdevice id
  have exits (code : Int) :
      ((state.ready label.input).exitProcess code).globalCwdevice = (state.ready label.input).globalCwdevice := by
    obtain ⟨devices, log, ended⟩ := exitProcess_eq code (state.ready label.input)
    rw [ended]
    rfl
  rw [step_eq label running, (Works.finish label.world label.input _).globalCwdevice id] at after
  refine ready.symm.trans ?_
  rcases replaces with action | ⟨payload, action | action⟩
  · rw [action] at after
    exact (exits 1).symm.trans after
  · rw [action] at after
    simp only [act, handleEscRequest] at after
    rcases escCwdevice_cases label.world payload (state.ready label.input) with
      ⟨-, log, equal⟩ | ⟨accepted, devices, log, equal, -⟩
    · rw [equal] at after
      exact after
    · rw [equal] at after
      -- The name was accepted, so it does not name a serial port.
      have parallel : (ttyProbeCwdevice label.world payload).isSome = false := by
        by_contra serial
        exact unselected ⟨running, payload, action, fun empty => accepted (.inl empty),
          by simpa [Option.isSome_iff_ne_none] using serial⟩
      simp only [selectedType, parallel, Bool.false_eq_true, if_false] at after
      split at after <;> cases after
  · rw [action] at after
    exact (exits 0).symm.trans after

end State

/-- The assignment of the command line holds in every state of a run, and the serial port
is never the current cwdevice with key and PTT on one line, exactly if the assignment
keeps them apart or no request selects the serial port. -/
theorem key_and_ptt_have_their_lines_iff {args : List (World × Arg)} {world : World} {initial : State}
    (started : start args world = some initial) (labels : List Label) :
    Runs.States State.step (fun state =>
        state.lines = linesOf (args.map Prod.snd) ∧ (state.globalCwdevice = .ttys → state.lines.Separate)) labels initial ↔
      (linesOf (args.map Prod.snd)).Separate ∨
        Runs.Steps State.step (fun label state => ¬ SelectsSerialPort label state) labels initial := by
  have wellformed := Started.wellformed ⟨args, world, started⟩
  have linked : initial.Linked := .inr (by rw [(start_defaults started).2.2.1])
  have preserved (label : Label) (state : State)
      (invariant : state.Wellformed ∧ state.Linked ∧ state.lines = linesOf (args.map Prod.snd)) :
      (state.step label).Wellformed ∧ (state.step label).Linked ∧
        (state.step label).lines = linesOf (args.map Prod.snd) :=
    ⟨invariant.1.step label, invariant.2.1.step label invariant.1,
      (congrFun (step_options label state) .ttys).trans invariant.2.2⟩
  have assigned := start_lines started
  by_cases separate : (linesOf (args.map Prod.snd)).Separate
  · refine iff_of_true ?_ (.inl separate)
    refine (Runs.states_preserves preserved labels ⟨wellformed, linked, assigned⟩).mono ?_
    exact fun state ⟨_, _, lines⟩ => ⟨lines, fun _ => lines ▸ separate⟩
  · rw [or_iff_right separate]
    refine Runs.states_iff preserved ?_ labels ⟨wellformed, linked, assigned⟩
      ⟨assigned, (start_options started).2⟩
    intro label state invariant holds
    have lines := (preserved label state invariant).2.2
    constructor
    · intro next selects
      exact separate (lines ▸ next.2 (step_selectsSerialPort selects))
    · intro unselected
      refine ⟨lines, fun current => ?_⟩
      have before := step_unselectedSerialPort invariant.2.1 unselected current
      exact absurd (holds.1 ▸ holds.2 before) separate

/-- The key is put on the line of PTT while the serial port is current, and the null
device is selected before the options are validated. -/
def sharedLine : List (World × Arg) :=
  [(calm, .cwdevice ttyS0), (calm, .options [byte 'k', byte 'e', byte 'y', byte '=', byte 'r', byte 't', byte 's']),
    (calm, .cwdevice nullName)]

def withSharedLine : State := (start sharedLine calm).get (by decide +kernel)

/-- Then the serial port is selected by a request. -/
theorem key_and_ptt_share_a_line :
    ¬ ∀ args world initial labels, start args world = some initial →
      Runs.States State.step (fun state =>
        state.lines = linesOf (args.map Prod.snd) ∧ (state.globalCwdevice = .ttys → state.lines.Separate)) labels initial := by
  intro claim
  have along := claim sharedLine calm withSharedLine [calm.receivesEscape .cwdevice ttyS0] (Option.some_get _).symm
  have current : (withSharedLine.step (calm.receivesEscape .cwdevice ttyS0)).globalCwdevice = .ttys := by
    decide +kernel
  have shared : ¬ (withSharedLine.step (calm.receivesEscape .cwdevice ttyS0)).lines.Separate := by decide +kernel
  exact shared (along.2.2 current)

theorem key_and_ptt_have_their_lines_on_serial_port :
    Runs.States State.step (fun state =>
        state.lines = linesOf [.cwdevice ttyS0] ∧ (state.globalCwdevice = .ttys → state.lines.Separate))
      [calm.receivesEscape .cwdevice nullName, calm.receivesEscape .cwdevice ttyS0] onSerialPort :=
  (key_and_ptt_have_their_lines_iff start_onSerialPort _).mpr (.inl (by decide))

end Cwdaemon
