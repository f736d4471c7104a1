import Cwdaemon.Verified.Carets
import Cwdaemon.Verified.PendingReply

/-! # A caret without a text

A request that is a caret and nothing in front of it plays nothing, but it arms an empty
reply: from then on the daemon owes CR LF to the client, and what it owed before is
forgotten.  This shows as soon as the tones of something else run low.
-/

namespace Cwdaemon

open CString (Buffer)

namespace State

/-- The daemon owes this reply, without CR LF, to the client. -/
def OwesReply (client : SockaddrIn) (reply : Bytes) (state : State) : Prop :=
  state.Owes ∧ state.replyBuffer.bytes = reply ∧ state.replyAddr = client

variable {state first second : State} {numbers : Bool}

/-! ## What the request does -/

theorem receiveText_emptyCaret (idle : state.requestQueue.bytes = []) {rest : Bytes} (nulFree : 0 ∉ byte '^' :: rest)
    (length : (byte '^' :: rest).length ≤ CWDAEMON_REQUEST_SIZE_MAX) (world : World) :
    ∃ reply queue log, reply.bytes = [] ∧ queue.bytes = [] ∧ state.receiveText world (byte '^' :: rest) =
      { state.setPttFlag (state.pttFlag.set .echo) with
        replyAddr := state.requestAddr, replyBuffer := reply, requestQueue := queue, log := log } := by
  have compiled : state.programOf (byte '^' :: rest) = [.reply 0] :=
    programOf_caret (List.not_mem_nil (a := byte '^')) not_halfGapped_nil rest
  obtain ⟨reply, bytes, prepared⟩ := prepareReply_eq (List.not_mem_nil (a := 0)) (Nat.zero_le 255)
    { state with requestQueue := (state.requestQueue.append (byte '^' :: rest)).cut 0 }
  rw [receiveText_program idle nulFree length world, compiled]
  exact ⟨reply, _, _, bytes, rfl, congrArg clearRequestQueue prepared⟩

theorem owesReply_receiveText (idle : state.requestQueue.bytes = []) {rest : Bytes} (nulFree : 0 ∉ byte '^' :: rest)
    (length : (byte '^' :: rest).length ≤ CWDAEMON_REQUEST_SIZE_MAX) (world : World) :
    (state.receiveText world (byte '^' :: rest)).status = state.status ∧
      OwesReply state.requestAddr [] (state.receiveText world (byte '^' :: rest)) := by
  obtain ⟨reply, queue, log, bytes, -, received⟩ := receiveText_emptyCaret idle nulFree length world
  rw [received]
  exact ⟨rfl, by simp [Owes], bytes, rfl⟩

/-- An empty reply that is owed to the client anyway makes no difference. -/
theorem indistinct_receiveText (idle : state.requestQueue.bytes = []) {rest : Bytes} (nulFree : 0 ∉ byte '^' :: rest)
    (length : (byte '^' :: rest).length ≤ CWDAEMON_REQUEST_SIZE_MAX) (world : World) (numbers : Bool)
    (owes : OwesReply state.requestAddr [] state) :
    Indistinct numbers (state.receiveText world (byte '^' :: rest)) state := by
  obtain ⟨reply, queue, log, bytes, empty, received⟩ := receiveText_emptyCaret idle nulFree length world
  obtain ⟨owed, nothing, sender⟩ := owes
  have flag : state.pttFlag.set .echo = state.pttFlag := state.pttFlag.set_of_has owed
  have same : reply = state.replyBuffer := Buffer.ext (bytes.trans nothing.symm)
  rw [received, flag, same, ← sender]
  have unchanged : Indistinct numbers state state := Alike.refl (fun _ => rfl) _
  exact { unchanged with requestQueue := empty.trans idle.symm }

/-! ## The iteration around it -/

theorem indistinct_ready (numbers : Bool) (input : Input) (state : State) :
    Indistinct numbers (state.ready input) state := by
  obtain ⟨seconds, addr, log, ready, -⟩ := ready_eq input state
  rw [ready]
  exact { Indistinct.refl numbers state with requestAddr := False.elim }

/-- The poll of the footswitch does not look at the log. -/
theorem finish_forget (world : World) (input : Input) (state : State) :
    ({ ({ state with log := [] } : State).finish world input with log := [] } : State) =
      { state.finish world input with log := [] } := by
  have polled : ({ ({ state with log := [] } : State).pollFootswitch world with log := [] } : State) =
      { state.pollFootswitch world with log := [] } := by
    simp only [pollFootswitch]
    split <;> rfl
  cases input with
  | datagram | timeout | receiveError =>
    simp only [finish]
    split
    · exact polled
    · rfl
  | dequeue | key => rfl

theorem Indistinct.finish (indistinct : Indistinct numbers first second) (world : World) (input : Input) :
    Indistinct numbers (first.finish world input) (second.finish world input) := by
  have finished := (Alike.finish indistinct world input).indistinct
  unfold Indistinct at finished ⊢
  rwa [finish_forget, finish_forget] at finished

/-- The poll of the footswitch leaves no trace but a PTT command of the parallel port. -/
theorem indistinct_finish (world : World) (input : Input) (state : State) :
    Indistinct false (state.finish world input) state := by
  have polled : Indistinct false (state.pollFootswitch world) state := by
    unfold pollFootswitch
    split
    · refine { Indistinct.refl false state with devices := fun type => ?_ }
      cases type <;> rfl
    · exact .refl false state
    · exact .refl false state
  cases input with
  | datagram | timeout | receiveError =>
    simp only [State.finish]
    split
    · exact polled
    · exact .refl false state
  | dequeue | key => exact .refl false state

/-! ## A run that shows what is owed -/

/-- A world in which libcw rejects every character. -/
def mute : World := { calm with sendCharacter := fun _ _ _ => none }

/-- A new sound system, and two seconds of a tone for tuning. -/
def queueTwoTones : List Label := [calm.receivesEscape .soundSystem [byte 'n'], mute.receivesEscape .tune [byte '2']]

theorem owesReply_ready_iff (input : Input) (client : SockaddrIn) (reply : Bytes) (state : State) :
    OwesReply client reply (state.ready input) ↔ OwesReply client reply state :=
  ready_iff (fun _ _ _ _ => Iff.rfl) input state

theorem owesReply_finish_iff (world : World) (input : Input) (client : SockaddrIn) (reply : Bytes) (state : State) :
    OwesReply client reply (state.finish world input) ↔ OwesReply client reply state := by
  rcases finish_cases world input state with same | ⟨port, polls, polled, -⟩
  · rw [same]
  · rw [polled]
    exact Iff.rfl

/-- Neither request has to do with replies. -/
theorem steady_step {label : Label} (wellformed : state.Wellformed) (running : state.status = .running)
    {request : EscRequest} {payload : Bytes} (action : label.input.action = .request request payload)
    (steady : request = .soundSystem ∨ request = .tune) :
    (state.step label).status = .running ∧
      ∀ client reply, OwesReply client reply (state.step label) ↔ OwesReply client reply state := by
  obtain ⟨nulFree, short⟩ := Input.action_payload action
  have ready := wellformed.ready label.input
  have unarmed : request ≠ .reply ∧ request ≠ .abort ∧ request ≠ .reset := by
    rcases steady with rfl | rfl <;> simp
  have silent := silent_handleEscRequest label.world nulFree short ready.idle unarmed.1
    fun abort => absurd abort unarmed.2.1
  rw [step_eq label running, action, act]
  constructor
  · rw [finish_status, ← running, ← ready_status label.input state]
    rcases steady with rfl | rfl
    · simp only [handleEscRequest]
      cases valid : paramsSystem payload with
      | none => simp only [escSoundSystem, valid]
      | some system =>
        obtain ⟨_, _, _, _, equal, -⟩ := escSoundSystem_eq label.world valid (state.ready label.input)
        rw [equal]
        rfl
    · exact (kept_handleEscRequest label.world payload _ (by simp) (by simp)).status
  · intro client reply
    have owes : ((state.ready label.input).handleEscRequest label.world request payload).Owes ↔
        (state.ready label.input).Owes := by
      refine ⟨silent.owes, fun owed => ?_⟩
      apply (handleEscRequest_owes_iff label.world payload owed ready.idle ⟨unarmed.2.2, unarmed.2.1⟩).mpr
      rcases steady with rfl | rfl <;> trivial
    rw [owesReply_finish_iff, ← owesReply_ready_iff label.input client reply state, OwesReply, owes,
      silent.replyBuffer, silent.replyAddr]
    exact Iff.rfl

theorem escTune_nextLeavesOne {generator : Generator} (opened : state.libcw.generator = some generator)
    (started : generator.started = true) : (state.escTune mute [byte '2']).NextLeavesOne := by
  obtain ⟨flag, devices, log, raised⟩ := setPttOn_eq state.cwFlushToneQueue
  have tuned : state.escTune mute [byte '2'] = state.tune mute 2 := rfl
  rw [tuned, tune, if_pos (by decide)]
  simp only [raised, queueTuneTones, cwQueueTone, cwSendCharacter, callGenerator_eq]
  simp [NextLeavesOne, opened, started, cwFlushToneQueue, callGenerator_eq, acceptedTones, mute]

theorem finish_libcw (world : World) (input : Input) (state : State) :
    (state.finish world input).libcw = state.libcw := by
  rcases finish_cases world input state with same | ⟨port, polls, polled, -⟩
  · rw [same]
  · rw [polled]
    rfl

theorem renew_step (running : state.status = .running) :
    ∃ params, (state.step (calm.receivesEscape .soundSystem [byte 'n'])).libcw.generator =
      some (freshGenerator params) := by
  have valid : paramsSystem [byte 'n'] = some .null := by decide
  have fresh := escSoundSystem_fresh calm valid (state.ready (calm.receivesEscape .soundSystem [byte 'n']).input) rfl
  refine ⟨_, Eq.trans ?_ fresh⟩
  rw [step_eq _ running, finish_libcw]
  rfl

theorem tune_step (running : state.status = .running) {params : Params}
    (opened : state.libcw.generator = some (freshGenerator params)) :
    (state.step (mute.receivesEscape .tune [byte '2'])).NextLeavesOne := by
  obtain ⟨seconds, addr, log, ready, -⟩ := ready_eq (mute.receivesEscape .tune [byte '2']).input state
  have opened' : (state.ready (mute.receivesEscape .tune [byte '2']).input).libcw.generator =
      some (freshGenerator params) := by rw [ready, opened]
  have tuned := escTune_nextLeavesOne opened' rfl
  rw [step_eq _ running, NextLeavesOne, finish_libcw]
  exact tuned

/-- After the two tones the next tone that is taken runs the queue low, and what was owed is
owed. -/
theorem run_queueTwoTones (wellformed : state.Wellformed) (running : state.status = .running) :
    (Runs.run State.step queueTwoTones state).Wellformed ∧ (Runs.run State.step queueTwoTones state).status = .running ∧
      (Runs.run State.step queueTwoTones state).NextLeavesOne ∧
      ∀ client reply, OwesReply client reply (Runs.run State.step queueTwoTones state) ↔ OwesReply client reply state := by
  have renews : (calm.receivesEscape .soundSystem [byte 'n']).input.action = .request .soundSystem [byte 'n'] := rfl
  have tunes : (mute.receivesEscape .tune [byte '2']).input.action = .request .tune [byte '2'] := rfl
  have wellformed' := wellformed.step (calm.receivesEscape .soundSystem [byte 'n'])
  obtain ⟨running', owes⟩ := steady_step wellformed running renews (.inl rfl)
  obtain ⟨running'', owes'⟩ := steady_step wellformed' running' tunes (.inr rfl)
  obtain ⟨params, opened⟩ := renew_step running
  exact ⟨wellformed'.step _, running'', tune_step running' opened,
    fun client reply => (owes' client reply).trans (owes client reply)⟩

/-- When the queue runs low, the daemon sends what it owes and nothing else. -/
theorem sends_dequeue_iff (wellformed : state.Wellformed) (running : state.status = .running)
    (low : state.NextLeavesOne) (client : SockaddrIn) (reply : Bytes) :
    sends (state.step ⟨calm, .dequeue⟩).log = [(client, reply ++ crlf)] ↔ OwesReply client reply state := by
  have wellformed' := wellformed.ready .dequeue
  by_cases owed : state.Owes
  · have sent : sends (state.step ⟨calm, .dequeue⟩).log = [(state.replyAddr, state.replyBuffer.bytes ++ crlf)] :=
      sends_of_answers running (dequeue_answers wellformed'.toSound owed low)
    rw [sent, OwesReply, List.cons.injEq, Prod.mk.injEq, List.append_left_inj, and_comm (a := state.replyAddr = client)]
    simp [owed]
  · have silent := (silent_dequeue wellformed'.toSound fun owed' => absurd owed' owed).1
    obtain ⟨new, appended, mailless⟩ := silent.adds
    have sent : sends (state.step ⟨calm, .dequeue⟩).log = sends new := sends_step running appended
    rw [sent, sends_of_mailless mailless]
    exact iff_of_false (by simp) fun owes => owed owes.1

theorem sends_of_shown {log log' : List Entry} (same : shown numbers log = shown numbers log') :
    sends log = sends log' := by
  -- What is sent does not depend on the moments.
  have seen (entries : List Entry) : sends entries =
      sends ((shown numbers entries).map fun call => ⟨call, initialState.moment⟩) := by
    rw [shown, List.map_map, sends, sends, List.filterMap_map]
    apply List.filterMap_congr
    intro entry _
    obtain ⟨call, moment⟩ := entry
    cases numbers <;> cases call <;> rfl
  rw [seen log, same, ← seen log']

/-- States with the same calls owe the same reply. -/
theorem owesReply_of_sameCalls (same : SameCalls numbers first second) (wellformed : first.Wellformed)
    (running : first.status = .running) (wellformed' : second.Wellformed) (running' : second.status = .running)
    {client : SockaddrIn} {reply : Bytes} (owes : OwesReply client reply first) : OwesReply client reply second := by
  obtain ⟨ready, goesOn, low, kept⟩ := run_queueTwoTones wellformed running
  obtain ⟨ready', goesOn', low', kept'⟩ := run_queueTwoTones wellformed' running'
  have before := same queueTwoTones
  have whole := same (queueTwoTones ++ [⟨calm, .dequeue⟩])
  rw [Runs.history_append, Runs.history_append, before] at whole
  have last := List.append_cancel_left whole
  simp only [Runs.history, List.append_nil] at last
  apply (kept' client reply).mp
  apply (sends_dequeue_iff ready' goesOn' low' client reply).mp
  rw [← sends_of_shown last]
  exact (sends_dequeue_iff ready goesOn low client reply).mpr ((kept client reply).mpr owes)

end State

open State

/-- In every reachable state a request that begins with a caret does nothing, ever, exactly
if the daemon owes an empty reply to its client.  It is compared with no request, where
descriptor numbers do not count, and with an iteration in which nothing comes. -/
theorem empty_caret_does_nothing_iff {state : State} (reachable : Reachable state) (running : state.status = .running)
    (world : World) {client : SockaddrIn} {bytes rest : Bytes}
    (request : (Input.datagram client bytes).action = .text (byte '^' :: rest)) :
    (SameCalls false (state.step ⟨world, .datagram client bytes⟩) state ↔ OwesReply client [] state) ∧
    (SameCalls true (state.step ⟨world, .datagram client bytes⟩) (state.step ⟨world, .timeout⟩) ↔
      OwesReply client [] state) := by
  have wellformed := reachable.wellformed
  obtain ⟨nulFree, length⟩ := Input.action_text_bounds request
  obtain ⟨-, _, _, same, arrived⟩ := Input.action_text request
  cases same
  have stepped := step_eq ⟨world, .datagram client bytes⟩ running
  have waited := step_eq ⟨world, .timeout⟩ running
  rw [request] at stepped
  have wellformed' := wellformed.step ⟨world, .datagram client bytes⟩
  obtain ⟨status, heard⟩ := owesReply_receiveText (wellformed.ready (.datagram client bytes)).idle nulFree length world
  have unheard := indistinct_receiveText (wellformed.ready (.datagram client bytes)).idle nulFree length world
  obtain ⟨moment, -, sender⟩ : ∃ moment, _ ∧ (state.ready (.datagram client bytes)).requestAddr = client :=
    ready_datagram arrived state
  rw [sender] at heard unheard
  have owes : OwesReply client [] (state.step ⟨world, .datagram client bytes⟩) := by
    rw [stepped, owesReply_finish_iff]
    exact heard
  have goesOn : (state.step ⟨world, .datagram client bytes⟩).status = .running := by
    rw [stepped, finish_status, ← running, ← ready_status (.datagram client bytes) state]
    exact status
  have waits : OwesReply client [] (state.step ⟨world, .timeout⟩) ↔ OwesReply client [] state := by
    rw [waited, owesReply_finish_iff]
    exact owesReply_ready_iff .timeout client [] state
  have waitsOn : (state.step ⟨world, .timeout⟩).status = .running := by
    rw [waited, finish_status, ← running]
    exact ready_status .timeout state
  have silence (numbers : Bool) (owed : OwesReply client [] state) :
      Indistinct numbers ((state.ready (.datagram client bytes)).receiveText world (byte '^' :: rest)) state :=
    (unheard numbers ((owesReply_ready_iff _ client [] state).mpr owed)).trans (indistinct_ready numbers _ state)
  refine ⟨⟨fun same => ?_, fun owed => ?_⟩, fun same => ?_, fun owed => ?_⟩
  · exact owesReply_of_sameCalls same wellformed' goesOn wellformed running owes
  · apply Indistinct.sameCalls _ wellformed'
    rw [stepped]
    exact (indistinct_finish world _ _).trans (silence false owed)
  · exact waits.mp (owesReply_of_sameCalls same wellformed' goesOn (wellformed.step _) waitsOn owes)
  · apply Indistinct.sameCalls _ wellformed'
    rw [stepped, waited]
    exact ((silence true owed).trans (indistinct_ready true .timeout state).symm).finish world .timeout

/-- A second `^` does nothing. -/
theorem second_empty_caret_does_nothing :
    SameCalls false ((onSerialPort.step (calm.receives [byte '^'])).step (calm.receives [byte '^']))
      (onSerialPort.step (calm.receives [byte '^'])) := by
  have owes : OwesReply client [] (onSerialPort.step (calm.receives [byte '^'])) :=
    ⟨by decide +kernel, by decide +kernel, by decide +kernel⟩
  exact (empty_caret_does_nothing_iff ⟨onSerialPort, [calm.receives [byte '^']], started_onSerialPort, rfl⟩
    (by decide +kernel) calm rfl).1.mpr owes

/-- A `^` is answered with CR LF when the tones of the text `e` run low. -/
theorem empty_caret_is_answered : ¬ SameCalls false (onSerialPort.step (calm.receives [byte '^'])) onSerialPort := by
  intro same
  have differs : Runs.history State.step (fun state => shown false state.log)
        [calm.receives [byte 'e'], ⟨calm, .dequeue⟩] (onSerialPort.step (calm.receives [byte '^'])) ≠
      Runs.history State.step (fun state => shown false state.log)
        [calm.receives [byte 'e'], ⟨calm, .dequeue⟩] onSerialPort := by decide +kernel
  exact differs (same _)

end Cwdaemon
