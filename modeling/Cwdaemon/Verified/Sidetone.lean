import Cwdaemon.Verified.Calls

/-! # The frequency of the sidetone

libcw keys a device only while it plays a tone of a frequency above zero.  The TONE
request knows this and turns a tone of 0 into a volume of 0.  Start-up and RESET pass
the default tone on, SOUND_SYSTEM and TUNE the current one, so these must not be 0.
-/

namespace Cwdaemon

namespace State

/-- The frequency of libcw and the frequency of a tuning tone are never zero. -/
def Audible (entry : Entry) : Prop :=
  (∀ frequency, entry.call = .setFrequency frequency → 0 < frequency) ∧
    ∀ frequency, entry.call = .queueTone CWDAEMON_MICROSECS_PER_SEC frequency → 0 < frequency

/-- A request for the tone 0 mutes the sidetone. -/
def Mutes (label : Label) (state : State) : Prop :=
  ∀ payload, state.status = .running → label.input.action = .request .tone payload →
    paramsTone payload = some 0 → ∃ entry ∈ (state.step label).log, entry.call = .setVolume 0

def KeepsKeying (label : Label) (state : State) : Prop :=
  (∀ entry ∈ (state.step label).log, Audible entry) ∧ Mutes label state

/-- A tuning, and the choice of a sound system, come when the current tone is above zero. -/
def SoundsAction (action : Action) (state : State) : Prop :=
  match action with
  | .request .tune payload =>
    ∀ seconds, paramsTune payload = some seconds → 0 < seconds → 0 < state.current.morseTone
  | .request .soundSystem payload => paramsSystem payload ≠ none → 0 < state.current.morseTone
  | _ => True

def Sounds (label : Label) (state : State) : Prop :=
  state.status = .running → SoundsAction label.input.action state

theorem audible_of_other {entry : Entry} (untuned : ∀ frequency, entry.call ≠ .setFrequency frequency)
    (unqueued : ∀ frequency, entry.call ≠ .queueTone CWDAEMON_MICROSECS_PER_SEC frequency) : Audible entry :=
  ⟨fun frequency call => absurd call (untuned frequency), fun frequency call => absurd call (unqueued frequency)⟩

theorem audible_of_routine {entry : Entry} (routine : Routine entry) : Audible entry := by
  refine audible_of_other (fun frequency call => ?_) fun frequency call => ?_
  · simp [Routine, call, Call.isRoutine] at routine
  · simp [Routine, call, Call.isRoutine] at routine

theorem audible_of_lowers {entry : Entry} (lowers : Lowers entry) : Audible entry := by
  rcases lowers with routine | ⟨type, off⟩
  · exact audible_of_routine routine
  · exact audible_of_other (by simp [off]) (by simp [off])

theorem audible_of_tunes {frequency : Int} (positive : 0 < frequency) {entry : Entry}
    (tunes : Tunes frequency entry) : Audible entry := by
  rcases tunes with routine | tuned
  · exact audible_of_routine routine
  · refine ⟨fun other call => ?_, fun other call => ?_⟩
    · cases tuned.symm.trans call
      exact positive
    · cases tuned.symm.trans call

variable {state : State} {world : World}

/-- The silent tones of the low callback are no tuning tones. -/
theorem audible_of_serves {entry : Entry} (serves : Serves state entry) : Audible entry := by
  cases serves with
  | routine routine => exact audible_of_routine routine
  | release | answer => exact audible_of_other nofun nofun
  | silence => exact audible_of_other nofun fun _ call => by simp [CWDAEMON_MICROSECS_PER_SEC] at call

theorem audible_of_plays {request : Bytes} {entry : Entry} (plays : Plays world request state entry) :
    Audible entry := by
  cases plays with
  | routine routine => exact audible_of_routine routine
  | serve _ _ serves => exact audible_of_serves serves
  | raise | send | prepare => exact audible_of_other nofun nofun

theorem audible_of_makes {request : EscRequest} {payload : Bytes} {entry : Entry}
    (default : 0 < state.defaults.morseTone) (sounds : SoundsAction (.request request payload) state)
    (makes : Makes payload state request entry) : Audible entry := by
  have tuned {frequency : Int} {moment : Moment} (positive : 0 < frequency) :
      Audible ⟨.setFrequency frequency, moment⟩ := audible_of_tunes positive (.inr rfl)
  cases makes with
  | routine routine => exact audible_of_routine routine
  | resetFrequency => exact tuned default
  | toneFrequency positive => exact tuned positive
  | soundSystemFrequency valid => exact tuned (sounds (by simp [valid]))
  | tuneTone valid positive =>
    have current : 0 < state.current.morseTone := sounds _ valid positive
    refine ⟨nofun, fun frequency call => ?_⟩
    cases call
    exact current
  | tuneCharacter | raise | force | release | sendBreak | prepare => exact audible_of_other nofun nofun

theorem adds_audible (wellformed : state.Wellformed) (default : 0 < state.defaults.morseTone) (world : World)
    {input : Input} (sounds : SoundsAction input.action state) :
    Adds Audible state (state.act world input.action) := by
  refine adds_act wellformed world input (fun _ => True) (fun _ => trivial)
    (fun _ _ _ _ _ _ => trivial) (fun _ => audible_of_routine) ?_ (fun _ _ _ _ _ => audible_of_plays)
    (fun _ _ => audible_of_lowers) fun _ => (adds_dequeue wellformed.watched).mono fun _ => audible_of_serves
  intro request payload action entry
  rw [action] at sounds
  exact audible_of_makes default sounds

/-! ## Steps -/

theorem soundsAction_ready (action : Action) (input : Input) (state : State) :
    SoundsAction action (state.ready input) ↔ SoundsAction action state :=
  ready_iff (fun _ _ _ _ => Iff.rfl) input state

/-- What the TONE request does about a tone of 0 is right, whatever the state. -/
theorem mutes (label : Label) (state : State) : Mutes label state := by
  intro payload running request zero
  have muted : ∃ moment, ((state.ready label.input).act label.world label.input.action).log =
      (state.ready label.input).log ++ [⟨.setVolume 0, moment⟩] := by
    simp only [request, act, handleEscRequest, escTone, zero]
    exact ⟨_, rfl⟩
  obtain ⟨moment, logged⟩ := muted
  refine ⟨⟨.setVolume 0, moment⟩, log_subset_step running ?_, rfl⟩
  rw [logged]
  exact List.mem_append_right _ (List.mem_singleton_self _)

theorem keepsKeying_of_sounds (label : Label) (state : State)
    (invariant : state.Wellformed ∧ 0 < state.defaults.morseTone) (sounds : Sounds label state) :
    KeepsKeying label state := by
  obtain ⟨wellformed, default⟩ := invariant
  refine ⟨fun entry member => ?_, mutes label state⟩
  by_cases running : state.status = .running
  case neg =>
    rw [step_ended label running] at member
    cases member
  have default' : 0 < (state.ready label.input).defaults.morseTone := by
    rw [(sameOutput_ready label.input state).defaults]
    exact default
  have acts := adds_audible (wellformed.ready label.input) default' label.world
    ((soundsAction_ready label.input.action label.input state).mpr (sounds running))
  -- Neither a request that was received nor the footswitch has a frequency.
  rcases step_log running acts member with audible | ⟨client, request, received⟩ | ⟨on, polled⟩
  · exact audible
  · exact audible_of_other (by simp [received]) (by simp [received])
  · exact audible_of_other (by simp [polled]) (by simp [polled])

theorem audible_invariant (label : Label) (state : State)
    (invariant : state.Wellformed ∧ 0 < state.defaults.morseTone) :
    (state.step label).Wellformed ∧ 0 < (state.step label).defaults.morseTone :=
  ⟨invariant.1.step label, by rw [step_defaults label invariant.1]; exact invariant.2⟩

/-! ## Start-up -/

theorem adds_ttysOptparse {option : Bytes} {state after : State}
    (parsed : state.ttysOptparse option = some after) : Adds Lowers state after := by
  obtain ⟨lines, -, rfl | rfl⟩ := ttysOptparse_cases parsed
  · exact (adds_setDevice _ _ state).trans (adds_deviceCw _ _ _).lowers
  · exact (adds_setDevice _ _ state).trans ((adds_devicePtt _ _ _).mono fun _ => Switches.lowers)

/-- Reading the command line calls nothing but devices. -/
theorem adds_argsProcess {world : World} {arg : Arg} {state after : State}
    (processed : state.argsProcess world arg = some after) : Adds Lowers state after := by
  rcases argsProcess_cases processed with ⟨name, -, selected⟩ | ⟨option, -, -, parsed⟩ | ⟨-, -, _, _, _, rfl⟩
  · have adds := adds_optionCwdevice world name state
    rwa [selected] at adds
  · exact adds_ttysOptparse parsed
  · exact .of_log_eq rfl

theorem adds_argsProcessAll {args : List (World × Arg)} {state after : State}
    (processed : argsProcessAll args state = some after) : Adds Lowers state after :=
  argsProcessAll_relates (Adds Lowers) (.refl _) .trans (fun _ _ _ _ => adds_argsProcess) processed

end State

open State

/-- A daemon with a default tone above zero starts with that frequency. -/
theorem Started.audible {state : State} (started : Started state) (default : 0 < state.defaults.morseTone) :
    ∀ entry ∈ state.log, Audible entry := by
  obtain ⟨args, world, started⟩ := started
  obtain ⟨configured, all, -, -, rfl⟩ := start_cases started
  -- The frequency of the first reset is the default of the state that it leaves.
  obtain ⟨success, libcw, log, equal, -⟩ := resetAlmostAll_eq world configured
  have resets := adds_resetAlmostAll world configured
  rw [equal] at resets default ⊢
  obtain ⟨new, appended, allowed⟩ := ((adds_argsProcessAll all).mono fun _ => audible_of_lowers).trans
    (resets.mono fun _ => audible_of_tunes default)
  have logged : log = new := appended
  exact fun entry member => allowed entry (logged ▸ member)

/-- With a default tone above zero, and a current tone above zero whenever SOUND_SYSTEM
or TUNE comes, no frequency of a run is zero: not at start-up, not in any step. -/
theorem sidetone_off_keeps_keying {labels : List Label} {state : State} (started : Started state)
    (default : 0 < state.defaults.morseTone) (sounds : Runs.Steps State.step Sounds labels state) :
    (∀ entry ∈ state.log ++ calls labels state, Audible entry) ∧
      Runs.Steps State.step KeepsKeying labels state := by
  have steps : Runs.Steps State.step KeepsKeying labels state :=
    Runs.Steps.mono audible_invariant keepsKeying_of_sounds ⟨started.wellformed, default⟩ sounds
  refine ⟨fun entry member => ?_, steps⟩
  rcases List.mem_append.mp member with before | during
  · exact started.audible default entry before
  · exact Runs.history_of_steps (fun label state kept => kept.1) steps entry during

/-- The tone is set to 0, and a tuning of one second is asked for. -/
theorem sidetone_off_silences_tuning :
    ¬ ∀ labels state, Started state → ∀ entry ∈ state.log ++ calls labels state, Audible entry := by
  intro claim
  have audible := claim [calm.receivesEscape .tone [byte '0'], calm.receivesEscape .tune [byte '1']]
    onSerialPort started_onSerialPort
  have silent : ∃ entry ∈ onSerialPort.log ++ calls [calm.receivesEscape .tone [byte '0'],
      calm.receivesEscape .tune [byte '1']] onSerialPort,
      entry.call = .queueTone CWDAEMON_MICROSECS_PER_SEC 0 := by decide +kernel
  obtain ⟨entry, member, call⟩ := silent
  exact absurd ((audible entry member).2 0 call) (by decide)

/-- A tuning of one second with the tone 600. -/
theorem sidetone_off_keeps_keying_at_600 :
    (∀ entry ∈ onSerialPort.log ++ calls [calm.receivesEscape .tone [byte '6', byte '0', byte '0'],
        calm.receivesEscape .tune [byte '1']] onSerialPort, Audible entry) ∧
      Runs.Steps State.step KeepsKeying [calm.receivesEscape .tone [byte '6', byte '0', byte '0'],
        calm.receivesEscape .tune [byte '1']] onSerialPort := by
  have positive : 0 < (onSerialPort.step
      (calm.receivesEscape .tone [byte '6', byte '0', byte '0'])).current.morseTone := by decide +kernel
  have sounds : Runs.Steps State.step Sounds [calm.receivesEscape .tone [byte '6', byte '0', byte '0'],
      calm.receivesEscape .tune [byte '1']] onSerialPort :=
    ⟨fun _ => trivial, fun _ _ _ _ => positive, trivial⟩
  exact sidetone_off_keeps_keying started_onSerialPort (by decide +kernel) sounds

end Cwdaemon
