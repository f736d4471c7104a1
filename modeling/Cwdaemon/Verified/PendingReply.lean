import Cwdaemon.Verified.Replies

/-! # When a pending reply is dropped

The bit that says that a reply is owed shares a byte with the two PTT bits, and
`cwdaemon_set_ptt_off()` clears the byte.  The low callback and ABORT answer the client
before they come to it.  A PTT delay of 0 and a PTT request for 0 do not.
-/

namespace Cwdaemon

open CString

/-- What is sent among some calls. -/
def sends (entries : List Entry) : List (SockaddrIn × Bytes) :=
  entries.filterMap fun entry =>
    match entry.call with
    | .sendto client reply => some (client, reply)
    | _ => none

theorem sends_append (earlier later : List Entry) : sends (earlier ++ later) = sends earlier ++ sends later :=
  List.filterMap_append

namespace State

theorem sends_of_other {entries : List Entry}
    (other : ∀ entry ∈ entries, ∀ client reply, entry.call ≠ .sendto client reply) : sends entries = [] := by
  refine List.filterMap_eq_nil_iff.mpr fun entry member => ?_
  have unsent := other entry member
  obtain ⟨call, moment⟩ := entry
  cases call with
  | sendto client reply => exact absurd rfl (unsent client reply)
  | _ => rfl

theorem sends_of_mailless {entries : List Entry} (mailless : ∀ entry ∈ entries, Mailless entry) :
    sends entries = [] := by
  refine sends_of_other fun entry member client reply call => ?_
  have none := mailless entry member
  simp [Mailless, Entry.mail, call] at none

variable {state : State} {label : Label}

/-- An iteration sends what its action sends: neither what comes before nor the poll of the
footswitch sends anything. -/
theorem sends_finish (world : World) {input : Input} {acted : State} {new : List Entry}
    (appended : acted.log = (state.ready input).log ++ new) : sends (acted.finish world input).log = sends new := by
  obtain ⟨seconds, addr, log, equal, received⟩ := ready_eq input state
  have before : sends (state.ready input).log = [] := by
    rw [equal]
    refine sends_of_other fun entry member client reply call => ?_
    obtain ⟨client', request, heard⟩ := received entry member
    simp [heard] at call
  rcases finish_cases world input acted with same | ⟨port, polls, polled, switched⟩
  · rw [same, appended, sends_append, before, List.nil_append]
  · have after : sends polls = [] := sends_of_other fun entry member client reply call => by
      obtain ⟨on, poll⟩ := switched entry member
      simp [poll] at call
    rw [polled, withDevices_log, appended, sends_append, sends_append, before, after, List.nil_append, List.append_nil]

theorem sends_step (running : state.status = .running) {new : List Entry}
    (appended : ((state.ready label.input).act label.world label.input.action).log =
      (state.ready label.input).log ++ new) : sends (state.step label).log = sends new := by
  rw [step_eq label running, sends_finish label.world appended]

theorem sends_of_answers (running : state.status = .running) {reply : Bytes}
    (answers : Answers reply (state.ready label.input)
      ((state.ready label.input).act label.world label.input.action)) :
    sends (state.step label).log = [((state.ready label.input).replyAddr, reply)] := by
  obtain ⟨earlier, moment, later, appended, quiet, quiet'⟩ := answers.log
  rw [sends_step running appended, sends_append, sends_of_mailless quiet, List.nil_append]
  exact congrArg (((state.ready label.input).replyAddr, reply) :: ·) (sends_of_mailless quiet')

/-! ## Exactly when a reply survives an action -/

/-- A step after which a reply is no longer owed has answered, once: with the prepared
reply from the callback, or with `break` from an ABORT in character mode.  Or it was a
RESET. -/
def Settles (label : Label) (state : State) : Prop :=
  state.status = .running → state.Owes → ¬ (state.step label).Owes →
    (∃ payload, label.input.action = .request .reset payload) ∨
    (label.input.action = .dequeue ∧
      sends (state.step label).log = [(state.replyAddr, state.replyBuffer.bytes ++ crlf)]) ∨
    ∃ payload, label.input.action = .request .abort payload ∧ state.wordmode = false ∧
      sends (state.step label).log = [(state.replyAddr, breakReply)]

/-- The PTT delay is not set to 0, and manual PTT is not given back with at most one tone
left. -/
def SparingAction (action : Action) (state : State) : Prop :=
  match action with
  | .request .txDelay payload => getLong payload ≠ some 0
  | .request .pttState payload =>
    getLong payload = some 0 → state.pttFlag.has .manual = true → 1 < state.toneQueueLength
  | _ => True

def SparesReply (label : Label) (state : State) : Prop :=
  state.status = .running → state.Owes → SparingAction label.input.action state

theorem sparingAction_ready (action : Action) (input : Input) (state : State) :
    SparingAction action (state.ready input) ↔ SparingAction action state :=
  ready_iff (fun _ _ _ _ => Iff.rfl) input state

/-- The controller's condition on the move, as a condition on the request. -/
theorem escMove_owes_iff (world : World) {request : EscRequest} (payload : Bytes)
    (idle : state.requestQueue.bytes = []) (unsettling : request ≠ .reset ∧ request ≠ .abort) :
    (state.escMove world request payload).Owes state.keyer ↔ SparingAction (.request request payload) state := by
  cases request with
  | reset => exact absurd rfl unsettling.1
  | abort => exact absurd rfl unsettling.2
  | txDelay =>
    -- A delay of 0 is the only one that puts PTT off.
    have zero := paramsPttdelay_zero_iff state.current.pttDelayMs payload
    simp only [escMove, SparingAction, ne_eq, ← zero]
    split
    case isTrue accepted => simp [Keyer.Move.Owes, accepted]
    case isFalse refused => exact iff_of_true trivial fun off => refused off.1
  | pttState =>
    simp only [escMove, SparingAction]
    cases getLong payload with
    | none => simp [Keyer.Move.Owes]
    | some lv =>
      by_cases zero : lv = 0
      · simp [zero, Keyer.Move.Owes, keyer, idle]
      · simp [zero, Keyer.Move.Owes]
  | cwdevice =>
    simp only [escMove]
    split <;> exact Iff.rfl
  | tune =>
    simp only [escMove]
    split
    · exact Iff.rfl
    · split <;> exact Iff.rfl
  | soundSystem =>
    simp only [escMove]
    split <;> exact Iff.rfl
  | speed | tone | exit | wordMode | weighting | port | ssbWay | bandSwitch | volume | reply => exact Iff.rfl

theorem handleEscRequest_owes_iff (world : World) {request : EscRequest} (payload : Bytes) (owed : state.Owes)
    (idle : state.requestQueue.bytes = []) (unsettling : request ≠ .reset ∧ request ≠ .abort) :
    (state.handleEscRequest world request payload).Owes ↔ SparingAction (.request request payload) state := by
  rw [owes_iff, keyer_handleEscRequest world request payload idle, Keyer.owes_move_iff ((owes_iff state).mp owed),
    escMove_owes_iff world payload idle unsettling]

theorem receiveText_owes (world : World) (quiet : Quiet world) (wellformed : state.Wellformed) (owed : state.Owes)
    {request : Bytes} (nulFree : 0 ∉ request) (length : request.length ≤ CWDAEMON_REQUEST_SIZE_MAX) :
    (state.receiveText world request).Owes := by
  obtain ⟨after, reads, -, received⟩ := reads_receiveText world request wellformed.idle nulFree
    (Nat.lt_of_le_of_lt length (by decide))
  have sound := wellformed.toSound.withRequestQueue (state.requestQueue.append request)
  rw [received]
  exact (reads_undisturbed quiet nulFree length sound reads).2.echo owed

theorem owes_ready_iff (input : Input) (state : State) : (state.ready input).Owes ↔ state.Owes := by
  rw [owes_iff, owes_iff, ready_keyer]

theorem owes_step_iff (running : state.status = .running) : (state.step label).Owes ↔
    ((state.ready label.input).act label.world label.input.action).Owes := by
  rw [owes_iff, owes_iff, keyer_step running]

/-- An action that spares the reply leaves it owed or settles it. -/
theorem settles_of_spares (wellformed : state.Wellformed) (quiet : Quiet label.world)
    (spares : SparesReply label state) : Settles label state := by
  intro running owed gone
  -- The action is taken in the state made ready for it, which owes the same reply.
  rw [owes_step_iff running] at gone
  have ready := wellformed.ready label.input
  have owed' := (owes_ready_iff label.input state).mpr owed
  have sparing := (sparingAction_ready label.input.action label.input state).mpr (spares running owed)
  have same : (state.ready label.input).replyAddr = state.replyAddr ∧
      (state.ready label.input).replyBuffer = state.replyBuffer ∧
      (state.ready label.input).wordmode = state.wordmode := by
    obtain ⟨seconds, addr, log, equal, -⟩ := ready_eq label.input state
    rw [equal]
    exact ⟨rfl, rfl, rfl⟩
  have sent {reply : Bytes} (answers : Answers reply (state.ready label.input)
      ((state.ready label.input).act label.world label.input.action)) :
      sends (state.step label).log = [(state.replyAddr, reply)] := by
    rw [sends_of_answers running answers, same.1]
  cases action : label.input.action with
  | idle =>
    rw [action] at gone
    exact absurd owed' gone
  | text request =>
    rw [action] at gone
    obtain ⟨nulFree, length⟩ := Input.action_text_bounds action
    exact absurd (receiveText_owes label.world quiet ready owed' nulFree length) gone
  | exit =>
    rw [action, act] at gone
    obtain ⟨devices, log, ended⟩ := exitProcess_eq 1 (state.ready label.input)
    rw [ended] at gone
    exact absurd owed' gone
  | key on =>
    rw [action, act] at gone
    obtain ⟨seconds, log, keyed⟩ := keyingevent_eq on (state.ready label.input)
    rw [keyed] at gone
    exact absurd owed' gone
  | dequeue =>
    by_cases low : (state.ready label.input).NextLeavesOne
    · have answers := dequeue_answers ready.toSound owed' low
      rw [same.2.1] at answers
      exact .inr (.inl ⟨rfl, sent (by rwa [action])⟩)
    · rw [action] at gone
      exact absurd ((silent_dequeue ready.toSound fun _ => low).2 owed') gone
  | request request payload =>
    rw [action] at sparing
    by_cases reset : request = .reset
    · subst reset
      exact .inl ⟨payload, rfl⟩
    by_cases abort : request = .abort
    · subst abort
      -- In word mode ABORT is ignored, and the reply is still owed.
      cases mode : state.wordmode with
      | true =>
        rw [action] at gone
        simp only [act, handleEscRequest, escAbort, same.2.2, mode, if_true] at gone
        exact absurd owed' gone
      | false =>
        have answers := escAbort_answers (same.2.2.trans mode) owed'
        exact .inr (.inr ⟨payload, rfl, rfl, sent (by rwa [action])⟩)
    · rw [action] at gone
      exact absurd ((handleEscRequest_owes_iff label.world payload owed' ready.idle ⟨reset, abort⟩).mpr sparing) gone

/-- An action that does not spare the reply leaves nothing owed, and is not one of those
that settle it. -/
theorem spares_of_settles (wellformed : state.Wellformed) (settles : Settles label state) :
    SparesReply label state := by
  intro running owed
  by_contra unsparing
  have ready := wellformed.ready label.input
  have owed' := (owes_ready_iff label.input state).mpr owed
  have unsparing' := mt (sparingAction_ready label.input.action label.input state).mp unsparing
  -- Only an Escape request can fail to spare the reply, and not one that settles it.
  have request : ∃ request payload, label.input.action = .request request payload ∧
      request ≠ .reset ∧ request ≠ .abort := by
    cases action : label.input.action with
    | request request payload =>
      rw [action] at unsparing
      refine ⟨request, payload, rfl, ?_, ?_⟩
      · rintro rfl
        exact unsparing trivial
      · rintro rfl
        exact unsparing trivial
    | idle | text | exit | dequeue | key =>
      rw [action] at unsparing
      exact absurd trivial unsparing
  obtain ⟨request, payload, action, unsettling⟩ := request
  have gone : ¬ (state.step label).Owes := by
    rw [owes_step_iff running, action, act,
      handleEscRequest_owes_iff label.world payload owed' ready.idle unsettling, ← action]
    exact unsparing'
  rcases settles running owed gone with ⟨other, reset⟩ | ⟨dequeue, -⟩ | ⟨other, abort, -⟩
  · cases action.symm.trans reset
    exact unsettling.1 rfl
  · cases action.symm.trans dequeue
  · cases action.symm.trans abort
    exact unsettling.2 rfl

end State

open State

/-- Along a run every reply that ceases to be owed was answered or reset exactly when no
step sets the PTT delay to 0, or gives manual PTT back with at most one tone left, while a
reply is owed. -/
theorem pending_reply_is_settled_iff (labels : List Label) {state : State} (started : Started state)
    (quiet : ∀ label ∈ labels, Quiet label.world) :
    Runs.Steps State.step Settles labels state ↔ Runs.Steps State.step SparesReply labels state := by
  constructor
  · exact Runs.Steps.mono Wellformed.step (fun label state wellformed => spares_of_settles wellformed)
      started.wellformed
  · intro spares
    exact Runs.Steps.mono Wellformed.step (fun label state wellformed both =>
      settles_of_spares wellformed both.1 both.2) started.wellformed (spares.assuming quiet)

/-- A client waits for a reply, and another one sets the PTT delay to 0. -/
theorem pending_reply_is_dropped_by_delay :
    ¬ ∀ labels state, Started state → (∀ label ∈ labels, Quiet label.world) →
      Runs.Steps State.step Settles labels state := by
  intro claim
  have settles := (claim [calm.receivesEscape .reply [byte 'x'], calm.receivesEscape .txDelay [byte '0']]
    onSerialPort started_onSerialPort (by simp [World.receivesEscape, World.receives, quiet_calm])).2.1
  have unsettled := settles (by decide +kernel) (by decide +kernel) (by decide +kernel)
  rcases unsettled with ⟨payload, reset⟩ | ⟨dequeue, -⟩ | ⟨payload, abort, -⟩
  · cases reset
  · cases dequeue
  · cases abort

/-- A reply is asked for, a letter is played, and the reply is sent. -/
theorem pending_reply_is_settled_after_a_letter :
    Runs.Steps State.step Settles
      [calm.receivesEscape .reply [byte 'x'], calm.receives [byte 'e'], ⟨calm, .dequeue⟩] onSerialPort :=
  (pending_reply_is_settled_iff _ started_onSerialPort
    (by simp [World.receivesEscape, World.receives, quiet_calm])).mpr
    ⟨fun _ _ => trivial, fun _ _ => trivial, fun _ _ => trivial, trivial⟩

end Cwdaemon
