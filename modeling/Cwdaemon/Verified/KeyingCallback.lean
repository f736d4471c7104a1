import Cwdaemon.Verified.OpenDevice

/-! # The keying callback follows the current cwdevice

RESET and SOUND_SYSTEM register the current device anew, and CWDEVICE takes the
registration away before it knows that it can give it back.
-/

namespace Cwdaemon

namespace State

/-- A running daemon that has an output has its current device keyed. -/
def Keyed (state : State) : Prop :=
  state.status = .running → state.hasAudioOutput = true →
    state.libcw.keyingCallback = some state.globalCwdevice

/-- A CWDEVICE request that fails, because the device is refused or its name cannot be
stored, leaves the current device as it was, open on the same port, and the callback. -/
def Unharmed (label : Label) (state : State) : Prop :=
  ∀ payload, state.status = .running → label.input.action = .request .cwdevice payload →
    Refused label.world payload ∨ label.world.strdup = false →
    (state.step label).globalCwdevice = state.globalCwdevice ∧
      (state.step label).device.fd = state.device.fd ∧
      (state.step label).device.desc = state.device.desc ∧
      (∀ entry ∈ (state.step label).log, ∀ type fd, entry.call ≠ .deviceFree type fd) ∧
      (state.step label).libcw.keyingCallback = state.libcw.keyingCallback

/-- A CWDEVICE request is refused only while no callback is registered, and otherwise finds
memory for the name of the device. -/
def Harmless (label : Label) (state : State) : Prop :=
  ∀ payload, state.status = .running → label.input.action = .request .cwdevice payload →
    (Refused label.world payload → state.libcw.keyingCallback = none) ∧
      (¬ Refused label.world payload → label.world.strdup = true)

variable {state : State}

/-! ## One step -/

theorem Keyed.sameOutput {before after : State} (keyed : before.Keyed) (same : SameOutput before after)
    (running : before.status = .running) : after.Keyed := by
  intro _ available
  rw [same.keyingCallback, same.globalCwdevice]
  exact keyed running (same.hasAudioOutput ▸ available)

/-- Whatever is not a CWDEVICE request keeps the current device keyed. -/
theorem Keyed.act (keyed : state.Keyed) (wellformed : state.Wellformed) (running : state.status = .running)
    (world : World) (input : Input) (other : ∀ payload, input.action ≠ .request .cwdevice payload) :
    (state.act world input.action).Keyed := by
  cases action : input.action with
  | idle => exact keyed
  | text request =>
    obtain ⟨nulFree, length⟩ := Input.action_text_bounds action
    exact keyed.sameOutput (.receiveText wellformed world nulFree length) running
  | dequeue => exact keyed.sameOutput (.served (served_dequeue state)) running
  | key on => exact keyed.sameOutput (sameOutput_keyingevent on state) running
  | exit => exact fun ended => by simp [State.act, exitProcess] at ended
  | request request payload =>
    simp only [State.act]
    -- RESET and SOUND_SYSTEM register the current device when there is an output.
    by_cases reset : request = .reset
    · subst reset
      obtain ⟨success, libcw, devices, log, equal, ready, -⟩ := escReset_eq world state
      simp only [handleEscRequest, equal]
      intro _ available
      exact (ready available).2
    by_cases soundSystem : request = .soundSystem
    · subst soundSystem
      simp only [handleEscRequest]
      cases valid : paramsSystem payload with
      | none =>
        simp only [escSoundSystem, valid]
        exact keyed
      | some system =>
        obtain ⟨success, audioSystem, libcw, log, equal, ready, -⟩ := escSoundSystem_eq world valid state
        rw [equal]
        intro _ available
        exact (ready available).2
    by_cases exits : request = .exit
    · subst exits
      exact fun ended => by simp [handleEscRequest, exitProcess] at ended
    by_cases cwdevice : request = .cwdevice
    · subst cwdevice
      exact absurd action (other payload)
    exact keyed.sameOutput (sameOutput_handleEscRequest world payload state
      ⟨reset, exits, cwdevice, soundSystem⟩) running

theorem Keyed.step {label : Label} (keyed : state.Keyed) (wellformed : state.Wellformed)
    (harmless : Harmless label state) : (state.step label).Keyed := by
  by_cases running : state.status = .running
  case neg =>
    rw [step_ended label running]
    exact fun live => absurd live running
  by_cases request : ∃ payload, label.input.action = .request .cwdevice payload
  · obtain ⟨payload, action⟩ := request
    obtain ⟨unkeyed, stored⟩ := harmless payload running action
    by_cases refused : Refused label.world payload
    · -- With an output a callback is registered, so that no harmless request has been refused.
      obtain ⟨-, available, -⟩ := works_refused running action refused
      intro _ output
      have registered := keyed running (available.symm.trans output)
      rw [unkeyed refused] at registered
      cases registered
    · exact fun _ _ => (step_adopted running action refused).2 (stored refused)
  · have ready := keyed.sameOutput (sameOutput_ready label.input state) running
    have acted := ready.act (wellformed.ready label.input) ((ready_status label.input state).trans running) label.world
      label.input fun payload action => request ⟨payload, action⟩
    rw [step_eq label running]
    rcases finish_cases label.world label.input
      ((state.ready label.input).act label.world label.input.action) with same | ⟨port, log, polled, -⟩
    · rw [same]
      exact acted
    · rw [polled]
      exact acted

/-- A request that leaves an open device unharmed is harmless. -/
theorem harmless_of_unharmed {label : Label} (opened : state.Opened) (unharmed : Unharmed label state) :
    Harmless label state := by
  intro payload running action
  refine ⟨fun refused => ?_, fun accepted => ?_⟩
  · obtain ⟨-, -, -, -, callback⟩ := unharmed payload running action (.inl refused)
    exact callback.symm.trans (works_refused running action refused).2.2
  · by_contra unstored
    have fails : label.world.strdup = false := by simpa using unstored
    obtain ⟨-, -, desc, -, -⟩ := unharmed payload running action (.inr fails)
    -- The device has lost the name that it had.
    rw [(step_adopted running action accepted).1, fails, if_neg Bool.false_ne_true] at desc
    exact opened running desc.symm

theorem unharmed_of_harmless {label : Label} (harmless : Harmless label state) : Unharmed label state := by
  intro payload running action fails
  obtain ⟨unkeyed, stored⟩ := harmless payload running action
  have refused : Refused label.world payload := by
    by_contra accepted
    rw [stored accepted] at fails
    exact accepted (fails.resolve_right (by simp))
  obtain ⟨works, -, callback⟩ := works_refused running action refused
  have current := works.globalCwdevice id
  refine ⟨current, ?_, ?_, ?_, callback.trans (unkeyed refused).symm⟩
  · rw [device, current, works.fd id]
    rfl
  · rw [device, current, works.desc id]
    rfl
  · intro entry member type fd freed
    obtain ⟨new, log, made⟩ := works.adds
    rw [log, List.nil_append] at member
    -- A call that closes a device needs a licence to replace it.
    rcases made entry member with wires | ⟨tone, played⟩
    · rw [freed] at wires
      exact wires
    · cases freed.symm.trans played

end State

open State

theorem Started.keyed {state : State} (started : Started state) : state.Keyed := by
  obtain ⟨args, world, started⟩ := started
  obtain ⟨configured, libcw, log, -, rfl, -, -, registered⟩ := start_eq started
  exact fun _ _ => registered

/-- Along a run the callback follows the device, and no failing CWDEVICE request changes
either, exactly when each one that is refused comes while no callback is registered, and no
other one fails. -/
theorem keying_follows_cwdevice_iff (labels : List Label) {state : State} (started : Started state) :
    Runs.States State.step Keyed labels state ∧ Runs.Steps State.step Unharmed labels state ↔
      Runs.Steps State.step Harmless labels state := by
  have linked : state.Linked := Reachable.linked ⟨state, [], started, rfl⟩
  constructor
  · rintro ⟨-, unharmed⟩
    -- A device that was not open might be left unharmed by a failing strdup().
    refine Runs.steps_of_steps (fun label state (invariant : (state.Wellformed ∧ state.Linked) ∧ state.Opened)
      unharmed => ?_) ⟨⟨started.wellformed, linked⟩, started.opened⟩ unharmed
    obtain ⟨⟨wellformed, linked⟩, opened⟩ := invariant
    have harmless := harmless_of_unharmed opened unharmed
    have stays := opened.step linked fun payload running action => (harmless payload running action).2
    exact ⟨⟨⟨wellformed.step label, linked.step label wellformed⟩, stays⟩, harmless⟩
  · intro harmless
    refine ⟨?_, Runs.Steps.mono (fun _ (_ : State) (always : True) => always)
      (fun _ _ _ => unharmed_of_harmless) trivial harmless⟩
    have states := Runs.states_of_steps (fun label state (invariant : state.Wellformed ∧ state.Keyed)
      (harmless : Harmless label state) => ⟨invariant.1.step label, invariant.2.step invariant.1 harmless⟩)
      ⟨started.wellformed, started.keyed⟩ harmless
    exact states.mono fun _ => And.right

instance (state : State) : Decidable state.Keyed := inferInstanceAs (Decidable (_ → _ → _))

/-- A daemon on the serial port that is asked for a device without giving its name. -/
theorem keying_lost_on_empty_name :
    ¬ ∀ labels state, Started state →
      Runs.States State.step Keyed labels state ∧ Runs.Steps State.step Unharmed labels state := by
  intro claim
  have keyed := (claim [calm.receivesEscape .cwdevice []] onSerialPort started_onSerialPort).1.2
  have lost : ¬ (onSerialPort.step (calm.receivesEscape .cwdevice [])).Keyed := by decide +kernel
  exact lost keyed

/-- The daemon is asked for a device that it accepts. -/
theorem keying_follows_cwdevice_to_null :
    Runs.States State.step Keyed [calm.receivesEscape .cwdevice nullName] onSerialPort := by
  have harmless : Runs.Steps State.step Harmless [calm.receivesEscape .cwdevice nullName] onSerialPort := by
    refine ⟨fun payload _ action => ?_, trivial⟩
    have name : payload = nullName := by
      have same := action.symm.trans (show _ = Action.request .cwdevice nullName from rfl)
      simpa using same
    subst name
    exact ⟨fun refused => absurd refused (by decide +kernel), fun _ => rfl⟩
  exact ((keying_follows_cwdevice_iff _ started_onSerialPort).mpr harmless).1

end Cwdaemon
