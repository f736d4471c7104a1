import Cwdaemon.Verified.Startup

/-! # What the operations leave of the output

libcw keys whatever device it was last told to.  Every operation but four leaves the
registration, the device and the output alone, and all of them leave the defaults.
-/

namespace Cwdaemon

namespace State

/-- The output, the device and the registration of one at the other stay in place. -/
structure SameOutput (before after : State) : Prop where
  defaults : after.defaults = before.defaults
  hasAudioOutput : after.hasAudioOutput = before.hasAudioOutput
  keyingCallback : after.libcw.keyingCallback = before.libcw.keyingCallback
  globalCwdevice : after.globalCwdevice = before.globalCwdevice

namespace SameOutput

variable {before after state : State}

theorem refl (state : State) : SameOutput state state := ⟨rfl, rfl, rfl, rfl⟩

theorem trans {first second third : State} (earlier : SameOutput first second)
    (later : SameOutput second third) : SameOutput first third :=
  ⟨later.defaults.trans earlier.defaults, later.hasAudioOutput.trans earlier.hasAudioOutput,
    later.keyingCallback.trans earlier.keyingCallback, later.globalCwdevice.trans earlier.globalCwdevice⟩

theorem served (served : Served before after) : SameOutput before after := by
  obtain ⟨_, _, _, _, _, _, rfl⟩ := served
  exact ⟨rfl, rfl, rfl, rfl⟩

theorem kept (kept : Kept before after) : SameOutput before after := by
  obtain ⟨_, _, _, _, _, _, _, rfl⟩ := kept
  exact ⟨rfl, rfl, rfl, rfl⟩

theorem prepareReply (request : Bytes) (state : State) : SameOutput state (state.prepareReply request) := by
  unfold State.prepareReply
  split <;> exact ⟨rfl, rfl, rfl, rfl⟩

theorem textStep {world : World} {request : Bytes} (step : TextStep world request before after) :
    SameOutput before after := by
  cases step with
  | drain => exact served (served_dequeue before)
  | raise => exact kept (.setPttOn before)
  | caret _ front =>
    have cut : SameOutput before { before with requestQueue := before.requestQueue.cut front.length } :=
      ⟨rfl, rfl, rfl, rfl⟩
    exact cut.trans (prepareReply _ _)
  | speed | sendSpeed | setGap | getGap | replace | send => exact ⟨rfl, rfl, rfl, rfl⟩

theorem receiveText (wellformed : state.Wellformed) (world : World) {request : Bytes} (nulFree : 0 ∉ request)
    (length : request.length ≤ CWDAEMON_REQUEST_SIZE_MAX) :
    SameOutput state (state.receiveText world request) := by
  obtain ⟨after, reads, -, received⟩ := reads_receiveText world request wellformed.idle nulFree
    (Nat.lt_of_le_of_lt length (by decide))
  have read : SameOutput state after := by
    refine reads.preserves (fun before after step (same : SameOutput state before) =>
      same.trans (textStep step)) ?_
    exact ⟨rfl, rfl, rfl, rfl⟩
  rw [received]
  exact read.trans ⟨rfl, rfl, rfl, rfl⟩

end SameOutput

theorem sameOutput_handleEscRequest (world : World) {request : EscRequest} (payload : Bytes) (state : State)
    (staying : request ≠ .reset ∧ request ≠ .exit ∧ request ≠ .cwdevice ∧ request ≠ .soundSystem) :
    SameOutput state (state.handleEscRequest world request payload) := by
  by_cases reply : request = .reply
  · subst reply
    exact .prepareReply _ state
  · exact .kept (kept_handleEscRequest world payload state staying reply)

theorem sameOutput_ready (input : Input) (state : State) : SameOutput state (state.ready input) := by
  obtain ⟨seconds, addr, log, equal, -⟩ := ready_eq input state
  rw [equal]
  exact ⟨rfl, rfl, rfl, rfl⟩

theorem sameOutput_finish (world : World) (input : Input) (state : State) :
    SameOutput state (state.finish world input) := by
  rcases finish_cases world input state with same | ⟨port, log, polled, -⟩
  · rw [same]
    exact .refl state
  · rw [polled]
    exact ⟨rfl, rfl, rfl, rfl⟩

theorem sameOutput_keyingevent (on : Bool) (state : State) : SameOutput state (state.keyingevent on) := by
  obtain ⟨seconds, log, keyed⟩ := keyingevent_eq on state
  rw [keyed]
  exact ⟨rfl, rfl, rfl, rfl⟩

/-! ## The defaults -/

theorem handleEscRequest_defaults (world : World) (request : EscRequest) (payload : Bytes) (state : State) :
    (state.handleEscRequest world request payload).defaults = state.defaults := by
  by_cases reply : request = .reply
  · subst reply
    exact (SameOutput.prepareReply _ state).defaults
  · obtain ⟨_, _, _, _, _, _, _, _, _, _, handled⟩ := handled_handleEscRequest world payload state reply
    rw [handled]

/-- The defaults are those of the command line for ever. -/
theorem step_defaults (label : Label) {state : State} (wellformed : state.Wellformed) :
    (state.step label).defaults = state.defaults := by
  by_cases running : state.status = .running
  case neg => rw [step_ended label running]
  have acted (state : State) (wellformed : state.Wellformed) :
      (state.act label.world label.input.action).defaults = state.defaults := by
    cases action : label.input.action with
    | idle => rfl
    | request request payload => exact handleEscRequest_defaults label.world request payload state
    | text request =>
      obtain ⟨nulFree, length⟩ := Input.action_text_bounds action
      exact (SameOutput.receiveText wellformed label.world nulFree length).defaults
    | exit =>
      obtain ⟨devices, log, ended⟩ := exitProcess_eq 1 state
      simp only [State.act, ended]
      rfl
    | dequeue => exact (SameOutput.served (served_dequeue state)).defaults
    | key on => exact (sameOutput_keyingevent on state).defaults
  rw [step_eq label running, (sameOutput_finish label.world label.input _).defaults,
    acted _ (wellformed.ready label.input), (sameOutput_ready label.input state).defaults]

end State

end Cwdaemon
