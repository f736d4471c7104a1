import Cwdaemon.Verified.Works

/-! # Whether the current cwdevice is open

A CWDEVICE request that cannot store the name of the new device has closed the old one by
then, taken its name, and opens no other one.  So the name of the current device tells
whether it is open.
-/

namespace Cwdaemon

namespace State

/-- The current cwdevice of a running daemon is open.  Where the name of the next one could
not be stored, it is closed and has none. -/
def Opened (state : State) : Prop := state.status = .running → state.device.desc ≠ none

variable {state : State}

/-! ## CWDEVICE requests -/

/-- A device that is opened gets a name; one that cannot get a name is not opened. -/
theorem adoptCwdevice_desc (world : World) (type : DeviceType) (fd : Int) (desc : Bytes) (state : State) :
    ((state.adoptCwdevice world type fd desc).2.devices type).desc = if world.strdup then some desc else none := by
  have initialised (state : State) : ((state.deviceInit type fd).devices type).desc = (state.devices type).desc := by
    have works : Works { Licence.none with replaces := True } state (state.deviceInit type fd) :=
      .deviceInit trivial type fd state
    exact works.desc id type
  unfold adoptCwdevice
  cases stored : world.strdup with
  | true => simp [initialised, setDesc]
  | false => simp [setDesc]

/-- A CWDEVICE request that is refused does no more than take the callback away. -/
theorem works_refused {label : Label} {payload : Bytes} (running : state.status = .running)
    (action : label.input.action = .request .cwdevice payload) (refused : Refused label.world payload) :
    Works (.polling label.world) { state with log := [] } (state.step label) ∧
      (state.step label).hasAudioOutput = state.hasAudioOutput ∧ (state.step label).libcw.keyingCallback = none := by
  have unkeyed : (state.ready label.input).act label.world label.input.action =
      (state.ready label.input).cwRegisterKeyingCallback none := by
    rw [action]
    simp only [act, handleEscRequest, escCwdevice]
    rcases optionCwdevice_cases label.world payload ((state.ready label.input).cwRegisterKeyingCallback none) with
      ⟨-, unchanged⟩ | ⟨accepted, -⟩
    · simp only [unchanged, Bool.false_eq_true, if_false]
    · exact absurd refused accepted
  have works : Works .none { state with log := [] } ((state.ready label.input).cwRegisterKeyingCallback none) :=
    (Works.ready label.input state).trans (.cwRegisterKeyingCallback none _)
  have output := sameOutput_finish label.world label.input ((state.ready label.input).cwRegisterKeyingCallback none)
  rw [step_eq label running, unkeyed]
  exact ⟨works.finished label.world label.input,
    output.hasAudioOutput.trans (sameOutput_ready label.input state).hasAudioOutput, output.keyingCallback⟩

/-- Any other one gives the current device the name it asks for, or none. -/
theorem step_adopted {label : Label} {payload : Bytes} (running : state.status = .running)
    (action : label.input.action = .request .cwdevice payload) (accepted : ¬ Refused label.world payload) :
    (state.step label).device.desc = (if label.world.strdup then some payload else none) ∧
      (label.world.strdup = true →
        (state.step label).libcw.keyingCallback = some (state.step label).globalCwdevice) := by
  have finish := Works.finish label.world label.input
    ((state.ready label.input).act label.world label.input.action)
  have output := sameOutput_finish label.world label.input
    ((state.ready label.input).act label.world label.input.action)
  rw [← step_eq label running] at finish output
  rw [device, finish.globalCwdevice id, finish.desc id, output.keyingCallback, action]
  simp only [act, handleEscRequest, escCwdevice]
  rcases optionCwdevice_cases label.world payload ((state.ready label.input).cwRegisterKeyingCallback none) with
    ⟨refused, -⟩ | ⟨-, fd, adopted⟩
  · exact absurd refused accepted
  · have named := adoptCwdevice_desc label.world (selectedType label.world payload) fd payload
      ((state.ready label.input).cwRegisterKeyingCallback none)
    obtain ⟨devices, log, equal, -⟩ := adoptCwdevice_eq label.world (selectedType label.world payload) fd payload
      ((state.ready label.input).cwRegisterKeyingCallback none)
    rw [equal] at named
    simp only [adopted, equal]
    cases stored : label.world.strdup with
    | true => exact ⟨by simpa [stored] using named, fun _ => rfl⟩
    | false => exact ⟨by simpa [stored] using named, fun remembered => absurd remembered Bool.false_ne_true⟩

/-! ## Runs -/

theorem status_of_replaces {label : Label} (running : state.status = .running)
    (replaces : (label.input.action.licence (state.ready label.input)).replaces)
    (other : ∀ payload, label.input.action ≠ .request .cwdevice payload) : (state.step label).status ≠ .running := by
  obtain ⟨code, exits⟩ := act_of_replaces label.world replaces other
  rw [step_eq label running, finish_status, exits]
  simp [exitProcess]

/-- The current device stays open, or another one is opened, as long as there is
memory for its name. -/
theorem Opened.step {label : Label} (opened : state.Opened) (linked : state.Linked)
    (stored : ∀ payload, state.status = .running → label.input.action = .request .cwdevice payload →
      ¬ Refused label.world payload → label.world.strdup = true) : (state.step label).Opened := by
  by_cases running : state.status = .running
  case neg =>
    rw [step_ended label running]
    exact fun live => absurd live running
  by_cases request : ∃ payload, label.input.action = .request .cwdevice payload
  · obtain ⟨payload, action⟩ := request
    intro _
    by_cases refused : Refused label.world payload
    · obtain ⟨works, -⟩ := works_refused running action refused
      rw [device, works.globalCwdevice id, works.desc id]
      exact opened running
    · rw [(step_adopted running action refused).1, stored payload running action refused, if_pos rfl]
      exact Option.some_ne_none payload
  · by_cases ends : (label.input.action.licence (state.ready label.input)).replaces
    · -- A daemon that ends closes its device, but uses no device then.
      exact fun live => absurd live (status_of_replaces running ends fun payload action => request ⟨payload, action⟩)
    · have works : Works (label.licence state) { state with log := [] } (state.step label) :=
        .step label (.inr linked) (Licence.Within.refl _)
      intro _
      rw [device, works.globalCwdevice ends, works.desc fun ⟨payload, action⟩ => request ⟨payload, action⟩]
      exact opened running

end State

open State

/-- The command line can only give the current device another name. -/
theorem argsProcess_named {world : World} {arg : Arg} {before after : State}
    (processed : before.argsProcess world arg = some after) (named : before.device.desc ≠ none) :
    after.device.desc ≠ none := by
  rcases argsProcess_cases processed with ⟨name, -, selected⟩ | ⟨option, -, current, parsed⟩ | ⟨-, -, _, _, _, rfl⟩
  · rcases optionCwdevice_cases world name before with ⟨-, refused⟩ | ⟨-, fd, adopted⟩
    · cases refused.symm.trans selected
    · have desc := adoptCwdevice_desc world (selectedType world name) fd name before
      obtain ⟨devices, log, equal, -⟩ := adoptCwdevice_eq world (selectedType world name) fd name before
      have outcome : (world.strdup, _) = (true, after) := equal.symm.trans (adopted.symm.trans selected)
      obtain ⟨stored, rfl⟩ := Prod.mk.inj outcome
      rw [equal, stored, if_pos rfl] at desc
      exact fun lost => absurd (desc.symm.trans lost) (Option.some_ne_none name)
  · have works : Works { Licence.none with rewires := True } before after := .ttysOptparse trivial current parsed
    rw [device, works.globalCwdevice id, works.desc id]
    exact named
  · exact named

theorem Started.opened {state : State} (started : Started state) : state.Opened := by
  obtain ⟨args, world, started⟩ := started
  obtain ⟨configured, all, -, -, rfl⟩ := start_cases started
  have named : configured.device.desc ≠ none :=
    argsProcessAll_relates (fun before after => before.device.desc ≠ none → after.device.desc ≠ none) (fun _ => id)
      (fun earlier later => later ∘ earlier) (fun _ _ _ _ => argsProcess_named) all (Option.some_ne_none _)
  have works : Works { Licence.none with renews := True } configured (configured.resetAlmostAll world).2 :=
    .resetAlmostAll trivial world configured
  intro _
  show ((configured.resetAlmostAll world).2.devices (configured.resetAlmostAll world).2.globalCwdevice).desc ≠ none
  rw [works.globalCwdevice id, works.desc id]
  exact named

end Cwdaemon
