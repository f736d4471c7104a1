import Cwdaemon.Verified.Mails

/-! # Every reply answers the client that asked for it

The daemon refines the mailbox server: as long as a reply is owed, the reply buffer and
the reply address are the text and the client of the answer that the server owes.  So the
mail of every run is a trace of the server, and what follows from its rules holds of the
daemon, however requests and callbacks interleave.
-/

namespace Cwdaemon

open CString
open Mailbox

namespace State

/-- What a request that asks for a reply gets as its text: the payload of a REPLY request
with its code, or what was played of a text up to the caret. -/
def Arms (request text : Bytes) : Prop :=
  (∃ payload, request = ASCII_ESC :: EscRequest.reply.code :: payload ∧ text = EscRequest.reply.code :: payload) ∨
    (request.head? ≠ some ASCII_ESC ∧ ∃ front rest, request = front ++ byte '^' :: rest ∧ text = front.map played)

/-- What is sent for a text: the text with CR LF, or `break`. -/
def Completes (text reply : Bytes) : Prop := reply = text ++ crlf ∨ reply = breakReply

/-- The server and the daemon agree on the request that is handled and on the reply that
is owed. -/
structure Agrees (asked : Option (SockaddrIn × Bytes)) (desk : Desk) (state : State) : Prop where
  latest : desk.latest = asked
  pending : state.Owes → desk.pending = some (state.replyAddr, state.replyBuffer.bytes)

/-- The mail of a change, while a request is handled, is mail that the server may have. -/
def Delivers (asked : Option (SockaddrIn × Bytes)) (before after : State) : Prop :=
  ∀ desk, Agrees asked desk before → ∃ new desk', after.log = before.log ++ new ∧
    Trace Arms Completes desk (mails new) desk' ∧ Agrees asked desk' after

variable {asked : Option (SockaddrIn × Bytes)} {before after state : State}

theorem Delivers.trans {first second third : State} (earlier : Delivers asked first second)
    (later : Delivers asked second third) : Delivers asked first third := by
  intro desk agrees
  obtain ⟨new, desk', appended, trace, agrees'⟩ := earlier desk agrees
  obtain ⟨new', desk'', appended', trace', agrees''⟩ := later desk' agrees'
  refine ⟨new ++ new', desk'', by rw [appended', appended, List.append_assoc], ?_, agrees''⟩
  rw [mails_append]
  exact trace.append trace'

theorem Silent.delivers (silent : Silent before after) : Delivers asked before after := by
  intro desk agrees
  obtain ⟨new, appended, mailless⟩ := silent.adds
  refine ⟨new, desk, appended, ?_, agrees.latest, fun owed => ?_⟩
  · rw [mails_of_mailless mailless]
    exact .nil desk
  · rw [silent.replyAddr, silent.replyBuffer]
    exact agrees.pending (silent.owes owed)

theorem Delivers.refl (asked : Option (SockaddrIn × Bytes)) (state : State) : Delivers asked state state :=
  (Silent.refl state).delivers

theorem Answers.delivers {reply : Bytes} (answers : Answers reply before after)
    (completes : Completes before.replyBuffer.bytes reply) : Delivers asked before after := by
  intro desk agrees
  obtain ⟨⟨earlier, moment, later, appended, quiet, quiet'⟩, owed, done⟩ := answers
  refine ⟨_, { desk with pending := none }, appended, ?_, agrees.latest, fun owed => absurd owed done⟩
  have only : mails (earlier ++ ⟨.sendto before.replyAddr reply, moment⟩ :: later) = [.sent before.replyAddr reply] := by
    rw [mails_append, mails_of_mailless quiet, List.nil_append]
    exact congrArg (Mail.sent before.replyAddr reply :: ·) (mails_of_mailless quiet')
  rw [only]
  exact .single (.send (agrees.pending owed) completes)

theorem prepareReply_delivers {request text : Bytes} (nulFree : 0 ∉ text) (short : text.length ≤ 255)
    (arms : Arms request text) (sender : asked = some (state.requestAddr, request)) :
    Delivers asked state (state.prepareReply text) := by
  intro desk agrees
  obtain ⟨reply, bytes, prepared⟩ := prepareReply_eq nulFree short state
  rw [prepared]
  refine ⟨_, { desk with pending := some (state.requestAddr, text) }, rfl, ?_, agrees.latest, fun _ => ?_⟩
  · exact .single (.prepare (agrees.latest.trans sender) arms)
  · simp [bytes]

/-! ## Actions -/

theorem dequeue_delivers (sound : state.Sound) : Delivers asked state state.dequeue := by
  by_cases answer : state.Owes ∧ state.NextLeavesOne
  · exact (dequeue_answers sound answer.1 answer.2).delivers (.inl rfl)
  · exact (silent_dequeue sound fun owed low => answer ⟨owed, low⟩).1.delivers

theorem textStep_requestAddr {world : World} {request : Bytes} (step : TextStep world request before after) :
    after.requestAddr = before.requestAddr := by
  cases step with
  | drain => exact (served_dequeue before).requestAddr
  | raise =>
    obtain ⟨_, _, _, raised⟩ := setPttOn_eq before
    rw [raised]
    rfl
  | caret =>
    unfold prepareReply
    split <;> rfl
  | speed | sendSpeed | setGap | getGap | replace | send => rfl

theorem textStep_delivers {world : World} {client : SockaddrIn} {request : Bytes} (sound : before.Sound)
    (sender : before.requestAddr = client) (unescaped : request.head? ≠ some ASCII_ESC) (nulFree : 0 ∉ request)
    (length : request.length ≤ CWDAEMON_REQUEST_SIZE_MAX) (step : TextStep world request before after) :
    Delivers (some (client, request)) before after := by
  cases step with
  | drain => exact dequeue_delivers sound
  | raise => exact (silent_setPttOn before).delivers
  | sendSpeed | setGap | send => exact (silent_callGenerator (by rfl) _).delivers
  | getGap => exact Silent.delivers ⟨.record rfl, rfl, rfl, id⟩
  | speed | replace => exact Silent.delivers ⟨.of_log_eq rfl, rfl, rfl, id⟩
  | caret _ front rest split =>
    have cut : Silent before { before with requestQueue := before.requestQueue.cut front.length } :=
      ⟨.of_log_eq rfl, rfl, rfl, id⟩
    refine cut.delivers.trans (prepareReply_delivers (played_nul_free nulFree split) (played_length length split)
      (.inr ⟨unescaped, front, rest, split, rfl⟩) ?_)
    rw [← sender]

theorem receiveText_delivers {world : World} {client : SockaddrIn} {request : Bytes} (wellformed : state.Wellformed)
    (sender : state.requestAddr = client) (unescaped : request.head? ≠ some ASCII_ESC) (nulFree : 0 ∉ request)
    (length : request.length ≤ CWDAEMON_REQUEST_SIZE_MAX) :
    Delivers (some (client, request)) state (state.receiveText world request) := by
  obtain ⟨after, reads, -, received⟩ := reads_receiveText world request wellformed.idle nulFree
    (Nat.lt_of_le_of_lt length (by decide))
  have queued : Silent state { state with requestQueue := state.requestQueue.append request } :=
    ⟨.of_log_eq rfl, rfl, rfl, id⟩
  have cleared : Silent after after.clearRequestQueue := ⟨.of_log_eq rfl, rfl, rfl, id⟩
  have step (before after : State) (step : TextStep world request before after)
      (held : before.Sound ∧ before.requestAddr = client) :
      (after.Sound ∧ after.requestAddr = client) ∧ Delivers (some (client, request)) before after :=
    ⟨⟨held.1.textStep length nulFree step, (textStep_requestAddr step).trans held.2⟩,
      textStep_delivers held.1 held.2 unescaped nulFree length step⟩
  have sound := wellformed.toSound.withRequestQueue (state.requestQueue.append request)
  -- The sender stays the same while the text is being read, as libcw's thread hears nothing.
  have read := reads.relates (Delivers.refl _) (fun _ _ _ => Delivers.trans) step ⟨sound, sender⟩
  rw [received]
  exact (queued.delivers.trans read.2).trans cleared.delivers

theorem handleEscRequest_delivers (world : World) {client : SockaddrIn} {request : EscRequest} {payload : Bytes}
    (wellformed : state.Wellformed) (sender : state.requestAddr = client) (nulFree : 0 ∉ payload)
    (short : payload.length < 255) :
    Delivers (some (client, ASCII_ESC :: request.code :: payload)) state
      (state.handleEscRequest world request payload) := by
  -- REPLY prepares a reply, ABORT answers `break` when one is owed, and the rest is silent.
  by_cases reply : request = .reply
  · subst reply
    exact prepareReply_delivers (reply_nul_free nulFree) short (.inl ⟨payload, rfl, rfl⟩) (by rw [sender])
  by_cases breaks : request = .abort ∧ state.wordmode = false ∧ state.Owes
  · obtain ⟨rfl, character, owed⟩ := breaks
    exact (escAbort_answers character owed).delivers (.inr rfl)
  · have unbroken (abort : request = .abort) (character : state.wordmode = false) : ¬ state.Owes :=
      fun owed => breaks ⟨abort, character, owed⟩
    exact (silent_handleEscRequest world nulFree short wellformed.idle reply unbroken).delivers

/-- Whatever the action, its mail is mail that the server may have. -/
theorem act_delivers (world : World) {input : Input} (wellformed : state.Wellformed)
    (arrived : ∀ client bytes request, input = .datagram client bytes → requestOf bytes = some request →
      asked = some (client, request) ∧ state.requestAddr = client) :
    Delivers asked state (state.act world input.action) := by
  cases action : input.action with
  | idle => exact .refl asked state
  | request request payload =>
    obtain ⟨client, bytes, datagram, request⟩ := Input.action_request action
    obtain ⟨rfl, sender⟩ := arrived client bytes _ datagram request
    obtain ⟨nulFree, short⟩ := Input.action_payload action
    exact handleEscRequest_delivers world wellformed sender nulFree short
  | text request =>
    obtain ⟨unescaped, client, bytes, datagram, request⟩ := Input.action_text action
    obtain ⟨rfl, sender⟩ := arrived client bytes _ datagram request
    obtain ⟨nulFree, length⟩ := Input.action_text_bounds action
    exact receiveText_delivers wellformed sender unescaped nulFree length
  | exit => exact (silent_exitProcess 1 state).delivers
  | dequeue => exact dequeue_delivers wellformed.toSound
  | key on => exact (silent_keyingevent on state).delivers

/-! ## Steps -/

/-- The server has heard the request that is about to be handled. -/
theorem ready_delivers (input : Input) {desk : Desk} (agrees : Agrees desk.latest desk state) :
    ∃ desk', Trace Arms Completes desk (mails (state.ready input).log) desk' ∧
      Agrees desk'.latest desk' (state.ready input) ∧
      ∀ client bytes request, input = .datagram client bytes → requestOf bytes = some request →
        desk'.latest = some (client, request) ∧ (state.ready input).requestAddr = client := by
  obtain ⟨seconds, addr, log, equal, -⟩ := ready_eq input state
  have pending : (state.ready input).Owes →
      desk.pending = some ((state.ready input).replyAddr, (state.ready input).replyBuffer.bytes) := by
    rw [equal]
    exact agrees.pending
  -- The server hears exactly the datagrams that hold a request.
  by_cases some_request : ∃ client bytes request, input = .datagram client bytes ∧ requestOf bytes = some request
  · obtain ⟨client, bytes, request, rfl, arrived⟩ := some_request
    obtain ⟨moment, logged, sender⟩ := ready_datagram arrived state
    refine ⟨{ desk with latest := some (client, request) }, ?_, ⟨rfl, pending⟩, fun other bytes' request' same arrived' => ?_⟩
    · rw [logged]
      exact .single .receive
    · cases same
      cases arrived.symm.trans arrived'
      exact ⟨rfl, sender⟩
  · refine ⟨desk, ?_, ⟨rfl, pending⟩, fun client bytes request same arrived =>
      absurd ⟨client, bytes, request, same, arrived⟩ some_request⟩
    rw [ready_log_empty input state fun client bytes request same arrived =>
      some_request ⟨client, bytes, request, same, arrived⟩]
    exact .nil desk

theorem step_delivers (label : Label) (wellformed : state.Wellformed) {desk : Desk}
    (agrees : Agrees desk.latest desk state) :
    ∃ desk', Trace Arms Completes desk (mails (state.step label).log) desk' ∧
      Agrees desk'.latest desk' (state.step label) := by
  by_cases running : state.status = .running
  case neg =>
    rw [step_ended label running]
    exact ⟨desk, .nil desk, rfl, agrees.pending⟩
  obtain ⟨desk', heard, agrees', arrived⟩ := ready_delivers label.input agrees
  obtain ⟨new, desk'', appended, trace, agrees''⟩ :=
    act_delivers label.world (wellformed.ready label.input) arrived desk' agrees'
  obtain ⟨polls, logged, switched⟩ := step_log_eq label running
  -- Behind the action only the footswitch is polled, which is no mail.
  have quiet : mails polls = [] := mails_of_mailless fun entry member => by
    obtain ⟨on, poll⟩ := switched entry member
    simp [Mailless, Entry.mail, poll]
  refine ⟨desk'', ?_, rfl, ?_⟩
  · rw [logged, appended, mails_append, mails_append, quiet, List.append_nil]
    exact heard.append trace
  · rw [step_eq label running]
    rcases finish_cases label.world label.input
      ((state.ready label.input).act label.world label.input.action) with same | ⟨port, log, polled, -⟩
    · rw [same]
      exact agrees''.pending
    · rw [polled]
      exact agrees''.pending

/-- The mail so far is a trace of the server, and the two agree. -/
structure Delivered (past : List Entry) (state : State) : Prop where
  wellformed : state.Wellformed
  trace : ∃ desk, Trace Arms Completes .empty (mails past) desk ∧ Agrees desk.latest desk state

theorem Delivered.step (label : Label) (state : State) (past : List Entry) (delivered : Delivered past state) :
    Delivered (past ++ (state.step label).log) (state.step label) := by
  obtain ⟨wellformed, desk, trace, agrees⟩ := delivered
  obtain ⟨desk', trace', agrees'⟩ := step_delivers label wellformed agrees
  refine ⟨wellformed.step label, desk', ?_, agrees'⟩
  rw [mails_append]
  exact trace.append trace'

end State

open State

theorem Started.delivered {state : State} (started : Started state) (labels : List Label) :
    Delivered (calls labels state) (Runs.run State.step labels state) := by
  have initial : Delivered [] state :=
    ⟨started.wellformed, .empty, .nil _, rfl, fun owed => absurd owed started.owes_nothing⟩
  exact Runs.history_preserves Delivered.step labels initial

/-- Whatever is sent in a run is sent to the client of the request for which a reply was
prepared last; it is the text prepared for that request with CR LF, or `break`; and since
the reply was prepared nothing else was sent. -/
theorem every_reply_answers_its_client {state : State} (started : Started state) (labels : List Label)
    {earlier later : List Letter} {client : SockaddrIn} {reply : Bytes}
    (sent : mails (calls labels state) = earlier ++ .sent client reply :: later) :
    ∃ first request middle text between,
      earlier = first ++ .received client request :: middle ++ .prepared client text :: between ∧
      (∀ mail ∈ middle, mail.isReceived = false) ∧ (∀ mail ∈ between, mail.isReceived = true) ∧
      Arms request text ∧ (reply = text ++ crlf ∨ reply = breakReply) := by
  obtain ⟨desk, trace, -⟩ := (started.delivered labels).trace
  rw [sent] at trace
  exact trace.sent

/-- A client asks for a reply, another one has a letter played, and the reply is sent to
the first. -/
theorem every_reply_answers_its_client_of_two :
    ∃ (first : List Letter) (request : Bytes) (middle : List Letter) (text : Bytes) (between : List Letter),
      [.received client [ASCII_ESC, byte 'h', byte 'x'], .prepared client [byte 'h', byte 'x'],
        .received otherClient [byte 'e']] =
        first ++ .received client request :: middle ++ .prepared client text :: between ∧
      (∀ mail ∈ middle, mail.isReceived = false) ∧ (∀ mail ∈ between, mail.isReceived = true) ∧
      Arms request text ∧
      ([byte 'h', byte 'x', byte '\r', byte '\n'] = text ++ crlf ∨
        [byte 'h', byte 'x', byte '\r', byte '\n'] = breakReply) := by
  have sent : mails (calls [calm.receivesEscape .reply [byte 'x'], ⟨calm, .datagram otherClient [byte 'e']⟩,
      ⟨calm, .dequeue⟩] onSerialPort) =
      [.received client [ASCII_ESC, byte 'h', byte 'x'], .prepared client [byte 'h', byte 'x'],
        .received otherClient [byte 'e']] ++
      .sent client [byte 'h', byte 'x', byte '\r', byte '\n'] :: [] := by decide +kernel
  exact every_reply_answers_its_client started_onSerialPort _ sent

end Cwdaemon
