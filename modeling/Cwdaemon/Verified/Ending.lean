import Cwdaemon.Verified.Drivers

/-! # The end of the daemon

Nothing keeps the daemon from ending when it is told to, and no request brings it down by
accident, as long as no driver of a port fails: how it stands after a run can be read off
the inputs then.
-/

namespace Cwdaemon

/-- The exit code of an action that ends the daemon. -/
def Action.exitCode : Action → Option Int
  | .request .exit _ => some 0
  | .exit => some 1
  | _ => none

/-- How the daemon stands after inputs that it has met running. -/
def statusAfter (labels : List Label) : Status :=
  match labels.findSome? fun label => label.input.action.exitCode with
  | none => .running
  | some code => .exited code

namespace State

variable {state : State}

theorem toneQueueLowCallback_status (sound : state.Sound) : state.toneQueueLowCallback.status = state.status := by
  rw [toneQueueLowCallback_eq]
  split
  · obtain ⟨devices, log, off⟩ := setPttOff_eq state
    rw [off]
    rfl
  · split
    case isTrue pending =>
      -- The assertion about the end of the reply holds of a short reply.
      have answered : state.answered.status = state.status := by
        rw [answered_eq (sound.short pending)]
        rfl
      generalize state.answered = after at answered ⊢
      split
      · exact answered
      · exact answered
    case isFalse => rfl

theorem dequeue_status (sound : state.Sound) : state.dequeue.status = state.status := by
  rcases state.dequeue_cases with same | ⟨generator, tone, tones, opened, started, -, dequeued⟩
  · rw [same]
  · rw [dequeued]
    split
    · refine toneQueueLowCallback_status ⟨sound.live, sound.short, ?_, sound.accounted⟩
      intro changed opened' started'
      cases opened'
      exact sound.watched generator opened started
    · rfl

theorem textStep_status {world : World} {request : Bytes} {before after : State}
    (length : request.length ≤ CWDAEMON_REQUEST_SIZE_MAX) (nulFree : 0 ∉ request)
    (step : TextStep world request before after) (sound : before.Sound) : after.status = before.status := by
  cases step with
  | drain => exact dequeue_status sound
  | raise => exact (Kept.setPttOn before).status
  | caret _ front rest split =>
    obtain ⟨reply, -, prepared⟩ := prepareReply_eq (played_nul_free nulFree split) (played_length length split)
      { before with requestQueue := before.requestQueue.cut front.length }
    rw [prepared]
    rfl
  | speed | sendSpeed | setGap | getGap | replace | send => rfl

theorem receiveText_status (wellformed : state.Wellformed) (world : World) {request : Bytes} (nulFree : 0 ∉ request)
    (length : request.length ≤ CWDAEMON_REQUEST_SIZE_MAX) :
    (state.receiveText world request).status = state.status := by
  obtain ⟨after, reads, -, equal⟩ := reads_receiveText world request wellformed.idle nulFree
    (Nat.lt_of_le_of_lt length (by decide))
  have played (first last : State) (step : TextStep world request first last)
      (kept : first.Sound ∧ first.status = state.status) : last.Sound ∧ last.status = state.status :=
    ⟨kept.1.textStep length nulFree step, (textStep_status length nulFree step kept.1).trans kept.2⟩
  rw [equal]
  exact (reads.preserves played ⟨wellformed.toSound.withRequestQueue _, rfl⟩).2

theorem handleEscRequest_status (world : World) {request : EscRequest} {payload : Bytes} (nulFree : 0 ∉ payload)
    (short : payload.length < 255) (stays : request ≠ .exit) (state : State) :
    (state.handleEscRequest world request payload).status = state.status := by
  cases request with
  | exit => exact absurd rfl stays
  | reset =>
    obtain ⟨success, libcw, devices, log, equal, -⟩ := escReset_eq world state
    simp only [handleEscRequest, equal]
    rfl
  | cwdevice =>
    rcases escCwdevice_cases world payload state with ⟨-, log, equal⟩ | ⟨-, devices, log, equal, -⟩
    · simp only [handleEscRequest, equal]
      rfl
    · simp only [handleEscRequest, equal]
      rfl
  | soundSystem =>
    cases valid : paramsSystem payload with
    | none => simp only [handleEscRequest, escSoundSystem, valid]
    | some system =>
      obtain ⟨success, audioSystem, libcw, log, equal, -⟩ := escSoundSystem_eq world valid state
      simp only [handleEscRequest, equal]
      rfl
  | reply =>
    obtain ⟨reply, -, equal⟩ := prepareReply_eq (reply_nul_free nulFree) (Nat.succ_le_of_lt short) state
    simp only [handleEscRequest, escReply, equal]
    rfl
  | speed | tone | abort | wordMode | weighting | port | pttState | ssbWay | tune | txDelay | bandSwitch | volume =>
    exact (kept_handleEscRequest world payload state (by simp) (by simp)).status

/-- Only the actions with an exit code end the daemon, and they do. -/
theorem act_status (wellformed : state.Wellformed) (world : World) (input : Input) :
    (state.act world input.action).status =
      match input.action.exitCode with
      | none => state.status
      | some code => .exited code := by
  cases action : input.action with
  | idle => rfl
  | request request payload =>
    obtain ⟨nulFree, short⟩ := Input.action_payload action
    by_cases exits : request = .exit
    · subst exits
      rfl
    · have none : (Action.request request payload).exitCode = none := by
        cases request <;> first | rfl | exact absurd rfl exits
      rw [none]
      exact handleEscRequest_status world nulFree short exits state
  | text request =>
    obtain ⟨nulFree, length⟩ := Input.action_text_bounds action
    exact receiveText_status wellformed world nulFree length
  | exit => rfl
  | dequeue => exact dequeue_status wellformed.toSound
  | key on =>
    obtain ⟨seconds, log, equal⟩ := keyingevent_eq on state
    simp only [act, equal, Action.exitCode]

theorem step_status (label : Label) (running : state.status = .running) (wellformed : state.Wellformed) :
    (state.step label).status = statusAfter [label] := by
  rw [step_eq label running, finish_status, act_status (wellformed.ready label.input), ready_status, running]
  cases exits : label.input.action.exitCode <;> simp [statusAfter, exits]

theorem run_status (labels : List Label) (running : state.status = .running) (wellformed : state.Wellformed) :
    (Runs.run State.step labels state).status = statusAfter labels := by
  induction labels generalizing state with
  | nil => exact running
  | cons label labels inductionHypothesis =>
    have first := step_status label running wellformed
    rw [Runs.run_cons]
    cases exits : label.input.action.exitCode with
    | none =>
      simp only [statusAfter, List.findSome?_cons, exits, List.findSome?_nil] at first ⊢
      exact inductionHypothesis first (wellformed.step label)
    | some code =>
      simp only [statusAfter, List.findSome?_cons, exits] at first ⊢
      -- The rest of the run finds the daemon ended.
      have stays (label : Label) (state : State) (ended : state.status = .exited code) :
          (state.step label).status = .exited code := by
        rw [step_ended label (by simp [ended])]
        exact ended
      exact Runs.run_preserves stays labels first

end State

open State

theorem Started.running {state : State} (started : Started state) : state.status = .running := by
  obtain ⟨args, world, started⟩ := started
  obtain ⟨configured, libcw, log, configuring, rfl, -⟩ := start_eq started
  exact configuring.running

/-- A world in which there is no memory for the name of a cwdevice. -/
def forgetful : World := { calm with strdup := false }

end Cwdaemon
