import Cwdaemon.Verified.PinOptions

/-! # The states of the lines

Opening a serial port raises its lines, and after that only `ioctl()` changes them.  The
port that is opened at start-up is initialised before the command line assigns its lines,
so both are lowered; a port that is opened later is initialised with the assignment, and
a line without a function stays up.
-/

namespace Cwdaemon

open State

/-- The state of a line after a call, which may name a descriptor of its port. -/
def Call.drives (call : Call) (ofPort : Int → Bool) (line : BitVec 32) (up : Bool) : Bool :=
  match call with
  | .ioctlLines fd on mask => if ofPort fd = true ∧ mask &&& line ≠ 0#32 then on else up
  | _ => up

/-- The state of a line of a port that was opened before the calls of a log. -/
def lineAfter (ofPort : Int → Bool) (line : BitVec 32) (log : List Entry) : Bool :=
  log.foldl (fun up entry => entry.call.drives ofPort line up) true

/-- The call changes lines only by lowering some of those that the masks stand for. -/
def Clears (masks : BitVec 32 → Prop) (entry : Entry) : Prop :=
  ∀ fd on mask, entry.call = .ioctlLines fd on mask → on = false ∧ masks mask

/-- The call names the line and its port. -/
def Reaches (ofPort : Int → Bool) (line : BitVec 32) (entry : Entry) : Prop :=
  ∃ fd on mask, entry.call = .ioctlLines fd on mask ∧ ofPort fd = true ∧ mask &&& line ≠ 0#32

theorem drives_of_not_reaches {ofPort : Int → Bool} {line : BitVec 32} {entry : Entry}
    (missed : ¬ Reaches ofPort line entry) (up : Bool) : entry.call.drives ofPort line up = up := by
  unfold Call.drives
  split
  case h_1 fd on mask call => exact if_neg fun reached => missed ⟨fd, on, mask, call, reached.1, reached.2⟩
  case h_2 => rfl

theorem drives_of_reaches {masks : BitVec 32 → Prop} {ofPort : Int → Bool} {line : BitVec 32} {entry : Entry}
    (clears : Clears masks entry) (reached : Reaches ofPort line entry) (up : Bool) :
    entry.call.drives ofPort line up = false := by
  obtain ⟨fd, on, mask, call, port, names⟩ := reached
  obtain ⟨rfl, -⟩ := clears fd on mask call
  rw [call, Call.drives, if_pos ⟨port, names⟩]

/-- Where lines are only lowered, a line is off if it was before, or some call reaches it. -/
theorem foldl_drives_iff {masks : BitVec 32 → Prop} {ofPort : Int → Bool} {line : BitVec 32} {log : List Entry}
    (clears : ∀ entry ∈ log, Clears masks entry) (up : Bool) :
    log.foldl (fun up entry => entry.call.drives ofPort line up) up = false ↔
      up = false ∨ ∃ entry ∈ log, Reaches ofPort line entry := by
  induction log generalizing up with
  | nil => simp
  | cons entry log inductionHypothesis =>
    obtain ⟨first, rest⟩ := List.forall_mem_cons.mp clears
    rw [List.foldl_cons, inductionHypothesis rest, List.exists_mem_cons_iff]
    by_cases reached : Reaches ofPort line entry
    · simp [drives_of_reaches first reached, reached]
    · simp [drives_of_not_reaches reached, reached]

theorem lineAfter_iff {masks : BitVec 32 → Prop} {ofPort : Int → Bool} {line : BitVec 32} {log : List Entry}
    (clears : ∀ entry ∈ log, Clears masks entry) :
    lineAfter ofPort line log = false ↔ ∃ entry ∈ log, Reaches ofPort line entry := by
  simp [lineAfter, foldl_drives_iff clears]

/-- The call changes a line. -/
def Call.isLines : Call → Bool
  | .ioctlLines _ _ _ => true
  | _ => false

theorem clears_of_other {masks : BitVec 32 → Prop} {call : Call} (other : call.isLines = false) {moment : Moment} :
    Clears masks ⟨call, moment⟩ := by
  rintro fd on mask rfl
  cases other

namespace State

variable {masks : BitVec 32 → Prop} {state before after : State}

/-! ## Calls about other things -/

theorem clearsRecord {call : Call} (other : call.isLines = false) (state : State) :
    Adds (Clears masks) state (state.record call) := .record (clears_of_other other)

theorem clearsCall {call : Call} (other : call.isLines = false) (change : Generator → Generator) (state : State) :
    Adds (Clears masks) state (state.callGenerator call change) := .callGenerator change (clears_of_other other)

theorem Opens.clears {entry : Entry} (opens : Opens entry) : Clears masks entry := by
  intro fd on mask call
  rw [Opens, call] at opens
  exact opens.elim

theorem clears_configured (params : Params) (state : State) :
    Adds (Clears masks) state (state.configured params) := by
  have registered : Adds (Clears masks) state (state.cwRegisterToneQueueLowCallback tqLowWatermark) :=
    clearsCall rfl _ state
  have tuned (state : State) : Adds (Clears masks) state
      ((state.cwSetFrequency params.morseTone).cwSetSendSpeed params.morseSpeed) :=
    (clearsCall rfl _ state).trans (clearsCall rfl _ _)
  have rest (state : State) : Adds (Clears masks) state
      (((state.cwSetVolume params.morseVolume).cwSetGap 0).cwSetWeighting (libcwWeighting params.weighting)) :=
    ((clearsCall rfl _ state).trans (clearsCall rfl _ _)).trans (clearsCall rfl _ _)
  exact (registered.trans (tuned _)).trans (rest _)

theorem clears_closeLibcwOutput (state : State) : Adds (Clears masks) state state.closeLibcwOutput := by
  have stopped : Adds (Clears masks) state state.cwGeneratorStop := clearsCall rfl _ state
  have deleted (state : State) : Adds (Clears masks) state state.cwGeneratorDelete :=
    (clearsRecord rfl state).trans (.of_log_eq rfl)
  exact stopped.trans (deleted _)

theorem clears_cwRegisterKeyingCallback (device : Option DeviceType) (state : State) :
    Adds (Clears masks) state (state.cwRegisterKeyingCallback device) := (clearsRecord rfl state).trans (.of_log_eq rfl)

theorem clears_resetAlmostAll (world : World) (state : State) :
    Adds (Clears masks) state (state.resetAlmostAll world).2 := by
  have current : Adds (Clears masks) state { state with current := state.defaults } := .of_log_eq rfl
  have closed := current.trans (clears_closeLibcwOutput _)
  have opened := closed.trans ((adds_openLibcwOutput world
    ({ state with current := state.defaults } : State).closeLibcwOutput.defaults.audioSystem _).mono fun _ => Opens.clears)
  have available (state : State) (success : Bool) : Adds (Clears masks) state (state.setHasAudioOutput success) :=
    .of_log_eq rfl
  simp only [resetAlmostAll, resetLibcwOutput_configured]
  generalize openLibcwOutput world _ _ = output at opened ⊢
  obtain ⟨success, after⟩ := output
  cases success with
  | true =>
    have configured := (opened.trans (clears_configured after.defaults after)).trans (available _ true)
    simp only [if_true]
    exact configured.trans (clears_cwRegisterKeyingCallback _ _)
  | false => exact opened.trans (available _ false)

/-! ## The serial port -/

/-- The lines that have a function are among those that the masks stand for. -/
def Uses (masks : BitVec 32 → Prop) (lines : TtyDriverOptions) : Prop := masks lines.key ∧ masks lines.ptt

theorem clears_ttysLines {mask : BitVec 32} (used : masks mask) (state : State) :
    Adds (Clears masks) state (state.ttysLines false mask) := by
  unfold ttysLines
  split
  · exact .refl _ state
  · refine .record fun fd on mask same => ?_
    cases same
    exact ⟨rfl, used⟩

theorem clears_deviceCw (type : DeviceType) (used : masks state.lines.key) :
    Adds (Clears masks) state (state.deviceCw type false) := by
  have recorded : Adds (Clears masks) state (state.record (.deviceCw type false)) := clearsRecord rfl state
  cases type with
  | ttys => exact recorded.trans (clears_ttysLines used _)
  | lp | null => exact recorded

theorem clears_devicePtt (type : DeviceType) (used : masks state.lines.ptt) :
    Adds (Clears masks) state (state.devicePtt type false) := by
  have recorded : Adds (Clears masks) state (state.record (.devicePtt type false)) := clearsRecord rfl state
  have switched := recorded.trans (adds_setDevice type { state.devices type with pttCommand := some false } _)
  cases type with
  | ttys => exact switched.trans (clears_ttysLines (by simpa [lines, options] using used) _)
  | lp | null => exact switched

theorem deviceCw_lines (type : DeviceType) (on : Bool) (state : State) :
    (state.deviceCw type on).lines = state.lines := by
  obtain ⟨log, keyed⟩ := deviceCw_eq type on state
  rw [keyed]
  rfl

theorem deviceResetPinsState_lines (type : DeviceType) (state : State) :
    (state.deviceResetPinsState type).lines = state.lines := by
  obtain ⟨log, reset⟩ := deviceResetPinsState_eq type state
  rw [reset]
  cases type <;> rfl

theorem clears_deviceResetPinsState (type : DeviceType) (uses : Uses masks state.lines) :
    Adds (Clears masks) state (state.deviceResetPinsState type) := by
  have off := (clears_deviceCw type uses.1).trans (clears_devicePtt type (by rw [deviceCw_lines]; exact uses.2))
  cases type with
  | ttys => exact off
  | lp => exact off.trans ((clearsRecord rfl _).trans (clearsRecord rfl _))
  | null => exact .refl _ state

theorem clears_deviceFree (type : DeviceType) (uses : Uses masks state.lines) :
    Adds (Clears masks) state (state.deviceFree type) := by
  have reset := clears_deviceResetPinsState type uses
  cases type with
  | ttys =>
    simp only [deviceFree]
    generalize state.deviceResetPinsState .ttys = released at reset ⊢
    exact (reset.trans (clearsRecord rfl released)).trans (.of_log_eq rfl)
  | lp => exact reset.trans (clearsRecord rfl _)
  | null => exact .refl _ state

theorem clears_deviceInit (type : DeviceType) (fd : Int) (uses : Uses masks state.lines) :
    Adds (Clears masks) state (state.deviceInit type fd) := by
  have opened : Adds (Clears masks) state ((state.record (.deviceInit type fd)).setDevice type
      { state.devices type with fd := fd, pttCommand := none }) :=
    (clearsRecord rfl state).trans (.of_log_eq rfl)
  have same : ((state.record (.deviceInit type fd)).setDevice type
      { state.devices type with fd := fd, pttCommand := none }).lines = state.lines := by
    cases type <;> rfl
  cases type with
  | ttys | lp => exact opened.trans (clears_deviceResetPinsState _ (same ▸ uses))
  | null => exact opened

theorem deviceFree_lines (type : DeviceType) (state : State) : (state.deviceFree type).lines = state.lines := by
  have reset := deviceResetPinsState_lines type state
  cases type with
  | ttys => exact reset
  | lp => exact reset
  | null => rfl

theorem setDesc_lines (type : DeviceType) (desc : Option Bytes) (state : State) :
    (state.setDesc type desc).lines = state.lines := by cases type <;> rfl

theorem clears_adoptCwdevice (world : World) (type : DeviceType) (fd : Int) (desc : Bytes)
    (uses : Uses masks state.lines) : Adds (Clears masks) state (state.adoptCwdevice world type fd desc).2 := by
  have selected : Adds (Clears masks) state { state with globalCwdevice := type } := .of_log_eq rfl
  have closed := selected.trans (clears_deviceFree state.globalCwdevice uses)
  have same := deviceFree_lines state.globalCwdevice { state with globalCwdevice := type }
  simp only [adoptCwdevice]
  generalize deviceFree state.globalCwdevice { state with globalCwdevice := type } = freed at closed same
  have cleared := (closed.trans (adds_setDesc state.globalCwdevice none freed)).trans (adds_setDesc type none _)
  have uses' :
      Uses masks (((freed.setDesc state.globalCwdevice none).setDesc type none).setDesc type (some desc)).lines := by
    rw [setDesc_lines, setDesc_lines, setDesc_lines, same]
    exact uses
  split
  · exact (cleared.trans (adds_setDesc type (some desc) _)).trans (clears_deviceInit type fd uses')
  · exact cleared

theorem clears_optionCwdevice (world : World) (name : Bytes) (uses : Uses masks state.lines) :
    Adds (Clears masks) state (state.optionCwdevice world name).2 := by
  rcases optionCwdevice_cases world name state with ⟨-, refused⟩ | ⟨-, fd, adopted⟩
  · rw [refused]
    exact .refl _ state
  · rw [adopted]
    exact clears_adoptCwdevice world _ fd name uses

variable {ofPort : Int → Bool} {line : BitVec 32}

theorem ttysLines_reaches (nonzero : line ≠ 0#32) (here : ofPort (state.devices .ttys).fd = true) :
    ∃ entry ∈ (state.ttysLines false line).log, Reaches ofPort line entry := by
  rw [ttysLines, if_neg nonzero]
  have names : line &&& line ≠ 0#32 := by rwa [BitVec.and_self]
  exact ⟨_, List.mem_append_right _ (List.mem_singleton_self _), _, _, _, rfl, here, names⟩

/-- A port that is initialised is told about each line that has a function. -/
theorem deviceInit_reaches {fd : Int} (here : ofPort fd = true) (nonzero : line ≠ 0#32)
    (used : line = state.lines.key ∨ line = state.lines.ptt) :
    ∃ entry ∈ (state.deviceInit .ttys fd).log, Reaches ofPort line entry := by
  have equal : state.deviceInit .ttys fd = (((state.record (.deviceInit .ttys fd)).setDevice .ttys
      { state.devices .ttys with fd := fd, pttCommand := none }).deviceCw .ttys false).devicePtt .ttys false := rfl
  have same : ((state.record (.deviceInit .ttys fd)).setDevice .ttys
      { state.devices .ttys with fd := fd, pttCommand := none }).lines = state.lines := rfl
  have opened : (((state.record (.deviceInit .ttys fd)).setDevice .ttys
      { state.devices .ttys with fd := fd, pttCommand := none }).devices .ttys).fd = fd := rfl
  rw [equal]
  generalize (state.record (.deviceInit .ttys fd)).setDevice .ttys
    { state.devices .ttys with fd := fd, pttCommand := none } = adopted at same opened ⊢
  rw [← same] at used
  rw [← opened] at here
  rcases used with rfl | rfl
  · have keyed : ∃ entry ∈ (adopted.deviceCw .ttys false).log, Reaches ofPort adopted.lines.key entry :=
      @ttysLines_reaches (adopted.record (.deviceCw .ttys false)) _ _ nonzero here
    obtain ⟨entry, member, reaches⟩ := keyed
    exact ⟨entry, (adds_devicePtt .ttys false _).subset member, reaches⟩
  · obtain ⟨log, keyed⟩ := deviceCw_eq .ttys false adopted
    rw [keyed]
    exact @ttysLines_reaches (((adopted.withDevices adopted.devices log).record (.devicePtt .ttys false)).setDevice .ttys
      { adopted.devices .ttys with pttCommand := some false }) _ _ nonzero here

theorem optionCwdevice_reaches {world : World} {name : Bytes} {fd : Nat} (named : name ≠ [])
    (stored : world.strdup = true) (probed : ttyProbeCwdevice world name = some fd) (here : ofPort fd = true)
    (nonzero : line ≠ 0#32) (used : line = state.lines.key ∨ line = state.lines.ptt) :
    ∃ entry ∈ (state.optionCwdevice world name).2.log, Reaches ofPort line entry := by
  have adopted : state.optionCwdevice world name = state.adoptCwdevice world .ttys fd name := by
    simp only [optionCwdevice, if_neg named, cwdeviceSet, probed]
  have same := deviceFree_lines state.globalCwdevice { state with globalCwdevice := .ttys }
  rw [adopted]
  simp only [adoptCwdevice, stored, if_true]
  refine deviceInit_reaches here nonzero ?_
  rw [setDesc_lines, setDesc_lines, setDesc_lines, same]
  exact used

/-! ## Start-up -/

theorem ttysOptparse_of_optionArgs {options : List (World × Bytes)} {arg : World × Arg} (member : arg ∈ optionArgs options)
    (processed : before.argsProcess arg.1 arg.2 = some after) :
    ∃ option, before.globalCwdevice = .ttys ∧ before.ttysOptparse option = some after := by
  obtain ⟨option, -, rfl⟩ := List.mem_map.mp member
  rcases argsProcess_cases processed with ⟨name, other, -⟩ | ⟨option, -, parsed⟩ | ⟨-, other, -⟩
  · cases other
  · exact ⟨option, parsed⟩
  · exact absurd rfl (other _)

theorem clears_argsProcessAll {options : List (World × Bytes)}
    (processed : argsProcessAll (optionArgs options) before = some after) :
    Adds (Clears fun _ => True) before after := by
  refine argsProcessAll_relates (Adds (Clears fun _ => True)) (.refl _) .trans ?_ processed
  intro arg member state after processed
  obtain ⟨option, -, parsed⟩ := ttysOptparse_of_optionArgs member processed
  obtain ⟨lines, -, rfl | rfl⟩ := ttysOptparse_cases parsed
  · exact (adds_setDevice .ttys _ state).trans (clears_deviceCw .ttys trivial)
  · exact (adds_setDevice .ttys _ state).trans (clears_devicePtt .ttys trivial)

/-- Options are for the current device, and leave it current. -/
theorem argsProcessAll_globalCwdevice {options : List (World × Bytes)}
    (processed : argsProcessAll (optionArgs options) before = some after) :
    after.globalCwdevice = before.globalCwdevice := by
  refine argsProcessAll_relates (fun before after => after.globalCwdevice = before.globalCwdevice) (fun _ => rfl)
    (fun earlier later => later.trans earlier) ?_ processed
  intro arg member state after processed
  obtain ⟨option, current, parsed⟩ := ttysOptparse_of_optionArgs member processed
  have works : Works { Licence.none with rewires := True } state after := .ttysOptparse trivial current parsed
  exact works.globalCwdevice id

end State

open State

variable {options : List (World × Bytes)} {probing world : World} {name : Bytes} {initial state : State}

/-- Start-up with one device and its options. -/
theorem start_selected
    (started : start ((probing, .cwdevice name) :: optionArgs options) world = some initial) :
    name ≠ [] ∧ probing.strdup = true ∧ ∃ configured,
      argsProcessAll (optionArgs options) (initialState.optionCwdevice probing name).2 = some configured ∧
      initial = (configured.resetAlmostAll world).2.clearRequestQueue := by
  obtain ⟨configured, all, -, -, equal⟩ := start_cases started
  obtain ⟨selected, first, rest⟩ := Option.bind_eq_some_iff.mp all
  simp only [argsProcess] at first
  split at first
  case isFalse => cases first
  case isTrue success =>
    cases first
    obtain ⟨accepted, stored⟩ :=
      not_or.mp (mt (optionCwdevice_fails_iff probing name initialState).mpr (by simp [success]))
    exact ⟨fun empty => accepted (.inl empty), by simpa using stored, configured, rest, equal⟩

theorem optionCwdevice_serial {fd : Nat} (probed : ttyProbeCwdevice probing name = some fd) (named : name ≠ [])
    (state : State) : (state.optionCwdevice probing name).2.globalCwdevice = .ttys := by
  have adopted : state.optionCwdevice probing name = state.adoptCwdevice probing .ttys fd name := by
    simp only [optionCwdevice, if_neg named, cwdeviceSet, probed]
  obtain ⟨devices, log, equal, -⟩ := adoptCwdevice_eq probing .ttys fd name state
  rw [adopted, equal]

theorem start_globalCwdevice {fd : Nat} (probed : ttyProbeCwdevice probing name = some fd)
    (started : start ((probing, .cwdevice name) :: optionArgs options) world = some initial) :
    initial.globalCwdevice = .ttys := by
  obtain ⟨named, -, configured, assigned, rfl⟩ := start_selected started
  obtain ⟨success, libcw, log, equal, -⟩ := resetAlmostAll_eq world configured
  rw [equal]
  exact (argsProcessAll_globalCwdevice assigned).trans (optionCwdevice_serial probed named initialState)

/-- Both lines are off when the daemon has started, whatever its options: the port is
opened before the options, with the lines that it has by default. -/
theorem start_lineAfter {fd : Nat} (probed : ttyProbeCwdevice probing name = some fd)
    (started : start ((probing, .cwdevice name) :: optionArgs options) world = some initial)
    {ofPort : Int → Bool} (here : ofPort fd = true) {line : BitVec 32} (isLine : line = TIOCM_DTR ∨ line = TIOCM_RTS) :
    lineAfter ofPort line initial.log = false := by
  obtain ⟨named, stored, configured, assigned, rfl⟩ := start_selected started
  have nonzero : line ≠ 0#32 := by rcases isLine with rfl | rfl <;> decide
  have reached : ∃ entry ∈ (initialState.optionCwdevice probing name).2.log, Reaches ofPort line entry :=
    optionCwdevice_reaches named stored probed here nonzero isLine
  obtain ⟨entry, member, reaches⟩ := reached
  have opened : Adds (Clears fun _ => True) initialState (initialState.optionCwdevice probing name).2 :=
    clears_optionCwdevice probing name ⟨trivial, trivial⟩
  have later : Adds (Clears fun _ => True) (initialState.optionCwdevice probing name).2
      (configured.resetAlmostAll world).2.clearRequestQueue :=
    ((clears_argsProcessAll assigned).trans (clears_resetAlmostAll world configured)).trans (.of_log_eq rfl)
  obtain ⟨new, appended, clears⟩ := opened.trans later
  have all : ∀ entry ∈ (configured.resetAlmostAll world).2.clearRequestQueue.log, Clears (fun _ => True) entry := by
    rw [appended]
    exact clears
  exact (lineAfter_iff all).mpr ⟨entry, later.subset member, reaches⟩

/-! ## Requests -/

/-- A CWDEVICE request that opens a serial port, with the descriptor that the probe gets. -/
def Reopens (label : Label) (fd : Nat) (state : State) : Prop :=
  state.status = .running ∧ label.world.strdup = true ∧ ∃ name, label.input.action = .request .cwdevice name ∧
    name ≠ [] ∧ ttyProbeCwdevice label.world name = some fd

/-- What a line can stand for. -/
def IsPin (pin : BitVec 32) : Prop := pin = TIOCM_DTR ∨ pin = TIOCM_RTS ∨ pin = 0#32

theorem IsPin.reaches_iff {pin line : BitVec 32} (isPin : IsPin pin) (isLine : line = TIOCM_DTR ∨ line = TIOCM_RTS) :
    pin &&& line ≠ 0#32 ↔ line = pin := by
  rcases isPin with rfl | rfl | rfl <;> rcases isLine with rfl | rfl <;> decide

theorem optparse_isPin (option : Bytes) {lines : TtyDriverOptions} (pins : ∀ function, IsPin (lines.pin function))
    (function : TtyFunction) : IsPin ((optparse option lines).2.pin function) := by
  by_cases named : ∃ function pin, Names option function pin
  · obtain ⟨assigned, pin, names⟩ := named
    rw [optparse_of_names names]
    by_cases same : function = assigned
    · subst same
      rw [TtyDriverOptions.pin_assign]
      obtain ⟨-, -, name, -, -, -, member⟩ := names
      simp only [pinNames, List.mem_cons, Prod.mk.injEq, List.not_mem_nil, or_false] at member
      rcases member with ⟨-, rfl⟩ | ⟨-, rfl⟩ | ⟨-, rfl⟩
      · exact .inl rfl
      · exact .inr (.inl rfl)
      · exact .inr (.inr rfl)
    · rw [TtyDriverOptions.pin_assign_of_ne _ same]
      exact pins function
  · rw [optparse_of_not_names named]
    exact pins function

theorem parsedLines_isPin (options : List Bytes) {lines : TtyDriverOptions}
    (pins : ∀ function, IsPin (lines.pin function)) :
    ∀ function, IsPin ((parsedLines options lines).pin function) := by
  induction options generalizing lines with
  | nil => exact pins
  | cons option options inductionHypothesis => exact inductionHypothesis (optparse_isPin option pins)

/-- After the request exactly the lines that have a function are off. -/
theorem step_lineAfter_iff {label : Label} {fd : Nat} (reopens : Reopens label fd state)
    (pins : ∀ function, IsPin (state.lines.pin function)) {ofPort : Int → Bool} (here : ofPort fd = true)
    {line : BitVec 32} (isLine : line = TIOCM_DTR ∨ line = TIOCM_RTS) :
    lineAfter ofPort line (state.step label).log = false ↔ line = state.lines.key ∨ line = state.lines.ptt := by
  obtain ⟨running, stored, name, action, named, probed⟩ := reopens
  have nonzero : line ≠ 0#32 := by rcases isLine with rfl | rfl <;> decide
  have same : (state.ready label.input).lines = state.lines := congrFun ((Works.ready label.input state).options id) .ttys
  have selects : (state.ready label.input).act label.world label.input.action =
      (state.ready label.input).escCwdevice label.world name := by rw [action]; rfl
  have silenced : Adds (Clears fun mask => mask = state.lines.key ∨ mask = state.lines.ptt) (state.ready label.input)
      ((state.ready label.input).cwRegisterKeyingCallback none) := clears_cwRegisterKeyingCallback none _
  have opened : Adds (Clears fun mask => mask = state.lines.key ∨ mask = state.lines.ptt)
      ((state.ready label.input).cwRegisterKeyingCallback none)
      (((state.ready label.input).cwRegisterKeyingCallback none).optionCwdevice label.world name).2 :=
    clears_optionCwdevice label.world name ⟨.inl (congrArg _ same), .inr (congrArg _ same)⟩
  have success : (((state.ready label.input).cwRegisterKeyingCallback none).optionCwdevice label.world name).1 = true := by
    by_contra fails
    rcases (optionCwdevice_fails_iff _ _ _).mp (by simpa using fails) with (empty | ⟨none, -⟩) | unstored
    · exact named empty
    · simp [probed] at none
    · simp [stored] at unstored
  have acts : Adds (Clears fun mask => mask = state.lines.key ∨ mask = state.lines.ptt) (state.ready label.input)
      ((state.ready label.input).act label.world label.input.action) := by
    rw [selects]
    simp only [escCwdevice, success, if_true]
    exact (silenced.trans opened).trans (clears_cwRegisterKeyingCallback _ _)
  have clears : ∀ entry ∈ (state.step label).log,
      Clears (fun mask => mask = state.lines.key ∨ mask = state.lines.ptt) entry := by
    intro entry member
    rcases step_log running acts member with clears | ⟨client, request, received⟩ | ⟨on, polled⟩
    · exact clears
    · exact fun fd on mask call => by simp [received] at call
    · exact fun fd on mask call => by simp [polled] at call
  rw [lineAfter_iff clears]
  constructor
  · rintro ⟨entry, member, fd', on, mask, call, -, names⟩
    obtain ⟨-, rfl | rfl⟩ := clears entry member fd' on mask call
    · exact .inl ((IsPin.reaches_iff (pins .key) isLine).mp names)
    · exact .inr ((IsPin.reaches_iff (pins .ptt) isLine).mp names)
  · intro used
    have reached : ∃ entry ∈ (((state.ready label.input).cwRegisterKeyingCallback none).optionCwdevice
        label.world name).2.log, Reaches ofPort line entry :=
      optionCwdevice_reaches named stored probed here nonzero (same.symm ▸ used)
    obtain ⟨entry, member, reaches⟩ := reached
    refine ⟨entry, log_subset_step running ?_, reaches⟩
    rw [selects]
    simp only [escCwdevice, success, if_true]
    exact (adds_cwRegisterKeyingCallback _ _).subset member

theorem start_parsedLines
    (started : start ((probing, .cwdevice name) :: optionArgs options) world = some initial) :
    initial.lines = parsedLines (options.map Prod.snd) ⟨TIOCM_DTR, TIOCM_RTS⟩ := by
  have folded (lines : TtyDriverOptions) :
      ((optionArgs options).map Prod.snd).foldl (fun lines arg => arg.assigns lines) lines =
      parsedLines (options.map Prod.snd) lines := by
    simp only [optionArgs, parsedLines, List.map_map, List.foldl_map, Function.comp_apply, Arg.assigns]
  exact (start_lines started).trans (folded _)

theorem run_lines (labels : List Label) (initial : State) : (Runs.run State.step labels initial).lines = initial.lines :=
  Runs.run_preserves (fun label state same => (congrFun (step_options label state) .ttys).trans same) labels rfl

/-- Both lines are off after start-up and after a request that opens the port again
exactly if the options leave neither function without a line. -/
theorem lines_are_off_after_selection_iff {fd fd' : Nat} (probed : ttyProbeCwdevice probing name = some fd)
    (started : start ((probing, .cwdevice name) :: optionArgs options) world = some initial) (labels : List Label)
    {label : Label} (reopens : Reopens label fd' (Runs.run State.step labels initial)) {ofPort ofPort' : Int → Bool}
    (here : ofPort fd = true) (there : ofPort' fd' = true) :
    (∀ line, line = TIOCM_DTR ∨ line = TIOCM_RTS →
      lineAfter ofPort line initial.log = false ∧
      lineAfter ofPort' line ((Runs.run State.step labels initial).step label).log = false) ↔
    (parsedLines (options.map Prod.snd) ⟨TIOCM_DTR, TIOCM_RTS⟩).key ≠ 0#32 ∧
      (parsedLines (options.map Prod.snd) ⟨TIOCM_DTR, TIOCM_RTS⟩).ptt ≠ 0#32 := by
  have separate := (start_options started).2 (start_globalCwdevice probed started)
  have same := run_lines labels initial
  have pins : ∀ function, IsPin (initial.lines.pin function) := by
    rw [start_parsedLines started]
    refine parsedLines_isPin _ fun function => ?_
    cases function
    · exact .inl rfl
    · exact .inr (.inl rfl)
  have off {line : BitVec 32} (isLine : line = TIOCM_DTR ∨ line = TIOCM_RTS) :=
    step_lineAfter_iff reopens (same.symm ▸ pins) there isLine
  rw [same] at off
  rw [← start_parsedLines started]
  have key : IsPin initial.lines.key := pins .key
  have ptt : IsPin initial.lines.ptt := pins .ptt
  have distinct : TIOCM_DTR ≠ TIOCM_RTS ∧ TIOCM_DTR ≠ 0#32 ∧ TIOCM_RTS ≠ 0#32 := by decide
  obtain ⟨apart, someDtr, someRts⟩ := distinct
  constructor
  · intro both
    have dtr := (off (.inl rfl)).mp (both TIOCM_DTR (.inl rfl)).2
    have rts := (off (.inr rfl)).mp (both TIOCM_RTS (.inr rfl)).2
    grind
  · intro used line isLine
    refine ⟨start_lineAfter probed started here isLine, (off isLine).mpr ?_⟩
    unfold TtyDriverOptions.Separate at separate
    unfold IsPin at key ptt
    grind

/-- PTT is turned off on the command line. -/
def withoutPtt : List (World × Bytes) :=
  [(calm, [byte 'p', byte 't', byte 't', byte '=', byte 'n', byte 'o', byte 'n', byte 'e'])]

def onPortWithoutPtt : State := (start ((calm, .cwdevice ttyS0) :: optionArgs withoutPtt) calm).get (by decide +kernel)

/-- Then RTS is off until the port is selected by a request. -/
theorem rts_is_up_after_selection :
    ¬ ∀ (probing world : World) (name : Bytes) (options : List (World × Bytes)) (initial : State) (labels : List Label)
        (label : Label) (fd fd' : Nat) (ofPort ofPort' : Int → Bool),
      ttyProbeCwdevice probing name = some fd →
      start ((probing, .cwdevice name) :: optionArgs options) world = some initial →
      Reopens label fd' (Runs.run State.step labels initial) → ofPort fd = true → ofPort' fd' = true →
      ∀ line, line = TIOCM_DTR ∨ line = TIOCM_RTS →
        lineAfter ofPort line initial.log = false ∧
        lineAfter ofPort' line ((Runs.run State.step labels initial).step label).log = false := by
  intro alike
  have probed : ttyProbeCwdevice calm ttyS0 = some 3 := by decide
  have reopens : Reopens (calm.receivesEscape .cwdevice ttyS0) 3 onPortWithoutPtt :=
    ⟨by decide +kernel, rfl, ttyS0, rfl, by decide, probed⟩
  have off := alike calm calm ttyS0 withoutPtt onPortWithoutPtt [] (calm.receivesEscape .cwdevice ttyS0) 3 3
    (fun _ => true) (fun _ => true) probed (Option.some_get _).symm reopens rfl rfl TIOCM_RTS (.inr rfl)
  have up : lineAfter (fun _ => true) TIOCM_RTS
      (onPortWithoutPtt.step (calm.receivesEscape .cwdevice ttyS0)).log = true := by decide +kernel
  exact absurd (up.symm.trans off.2) (by decide)

/-- The lines change places on the command line. -/
def swappedLines : List (World × Bytes) :=
  [(calm, [byte 'k', byte 'e', byte 'y', byte '=', byte 'r', byte 't', byte 's']),
    (calm, [byte 'p', byte 't', byte 't', byte '=', byte 'd', byte 't', byte 'r'])]

def onSwappedPort : State := (start ((calm, .cwdevice ttyS0) :: optionArgs swappedLines) calm).get (by decide +kernel)

theorem lines_are_off_after_swap :
    lineAfter (fun _ => true) TIOCM_DTR onSwappedPort.log = false ∧
      lineAfter (fun _ => true) TIOCM_RTS ((Runs.run State.step [calm.receivesEscape .cwdevice nullName]
        onSwappedPort).step (calm.receivesEscape .cwdevice ttyS0)).log = false := by
  have probed : ttyProbeCwdevice calm ttyS0 = some 3 := by decide
  have started : start ((calm, .cwdevice ttyS0) :: optionArgs swappedLines) calm = some onSwappedPort :=
    (Option.some_get _).symm
  have reopens : Reopens (calm.receivesEscape .cwdevice ttyS0) 3
      (Runs.run State.step [calm.receivesEscape .cwdevice nullName] onSwappedPort) :=
    ⟨by decide +kernel, rfl, ttyS0, rfl, by decide, probed⟩
  have off : ∀ line, line = TIOCM_DTR ∨ line = TIOCM_RTS →
      lineAfter (fun _ => true) line onSwappedPort.log = false ∧
      lineAfter (fun _ => true) line ((Runs.run State.step [calm.receivesEscape .cwdevice nullName]
        onSwappedPort).step (calm.receivesEscape .cwdevice ttyS0)).log = false :=
    (lines_are_off_after_selection_iff probed started _ reopens rfl rfl).mpr (by decide)
  exact ⟨(off TIOCM_DTR (.inl rfl)).1, (off TIOCM_RTS (.inr rfl)).2⟩

end Cwdaemon
