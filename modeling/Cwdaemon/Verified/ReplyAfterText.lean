import Cwdaemon.Verified.Replies

/-! # A reply comes after the text that follows the request

The low callback sends the pending reply whatever tones have run low.  If the REPLY
request has found two tones or more in the queue, or a tuning has come before the text,
these are the tones of something else.
-/

namespace Cwdaemon

open CString
open Mailbox

namespace State

/-! ## What sends a reply -/

/-- Libcw's thread takes the tone that makes the queue run low while a reply is owed. -/
def CallsLow (label : Label) (state : State) : Prop :=
  state.status = .running ∧ label.input.action = .dequeue ∧ state.NextLeavesOne ∧ state.Owes

/-- libcw's thread takes tones while a text is being handled. -/
def PlaysInterrupted (world : World) (action : Action) : Prop :=
  (∃ request, action = .text request) ∧ ∃ calls, 0 < world.during calls

/-- What an action sends is `break`, or it is a reply that the low callback sends: when a
tone is taken, or in the middle of a text that is interrupted. -/
def SendsReply (world : World) (action : Action) (state : State) (entry : Entry) : Prop :=
  ∀ client reply, entry.call = .sendto client reply → reply = breakReply ∨ entry.moment.toneQueueLength ≤ 1 ∧
    (action = .dequeue ∧ state.NextLeavesOne ∧ state.Owes ∨ PlaysInterrupted world action)

variable {state : State} {label : Label} {world : World} {action : Action}

theorem sendsReply_of_mailless {entry : Entry} (mailless : Mailless entry) :
    SendsReply world action state entry := by
  intro client reply call
  simp [Mailless, Entry.mail, call] at mailless

theorem sendsReply_of_makes {request : EscRequest} {payload : Bytes} {entry : Entry}
    (makes : Makes payload state request entry) : SendsReply world action state entry := by
  cases makes with
  | routine routine => exact sendsReply_of_mailless (mailless_of_routine routine)
  | sendBreak =>
    rintro client reply ⟨⟩
    exact .inl rfl
  | prepare => exact nofun
  | resetFrequency | toneFrequency | soundSystemFrequency | tuneTone | tuneCharacter | raise | force | release =>
    exact nofun

theorem sendsReply_of_serves {before : State} {entry : Entry} (serves : Serves before entry)
    (sends : before.Owes →
      action = .dequeue ∧ state.NextLeavesOne ∧ state.Owes ∨ PlaysInterrupted world action) :
    SendsReply world action state entry := by
  cases serves with
  | routine routine => exact sendsReply_of_mailless (mailless_of_routine routine)
  | release | silence => exact nofun
  | answer pending drained => exact fun _ _ _ => .inr ⟨drained, sends pending⟩

theorem sendsReply_of_plays {request : Bytes} {before : State} {entry : Entry} (text : action = .text request)
    (plays : Plays world request before entry) : SendsReply world action state entry := by
  cases plays with
  | routine routine => exact sendsReply_of_mailless (mailless_of_routine routine)
  | serve _ interrupted serves => exact sendsReply_of_serves serves fun _ => .inr ⟨⟨request, text⟩, interrupted⟩
  | raise | send | prepare => exact nofun

theorem adds_sendsReply (wellformed : state.Wellformed) (world : World) (input : Input) :
    Adds (SendsReply world input.action state) state (state.act world input.action) := by
  refine adds_act wellformed world input (fun _ => True) (fun _ => trivial)
    (fun _ _ _ _ _ _ => trivial) (fun _ routine => sendsReply_of_mailless (mailless_of_routine routine))
    (fun _ _ _ _ => sendsReply_of_makes) (fun _ _ text _ _ => sendsReply_of_plays text)
    (fun _ _ lowers => sendsReply_of_mailless (mailless_of_lowers lowers)) fun action => ?_
  by_cases low : state.NextLeavesOne
  · exact (adds_dequeue wellformed.watched).mono fun _ serves =>
      sendsReply_of_serves serves fun owed => .inl ⟨action, low, owed⟩
  · -- The low callback does not run, and without it nothing is sent.
    exact (silent_dequeue wellformed.toSound fun _ => low).1.adds.mono fun _ => sendsReply_of_mailless

theorem nextLeavesOne_ready_iff (input : Input) (state : State) :
    (state.ready input).NextLeavesOne ↔ state.NextLeavesOne :=
  ready_iff (fun _ _ _ _ => Iff.rfl) input state

/-- A reply that is not `break` is sent by the low callback. -/
theorem low_of_sendto (wellformed : state.Wellformed) {entry : Entry} (member : entry ∈ (state.step label).log)
    {client : SockaddrIn} {reply : Bytes} (call : entry.call = .sendto client reply)
    (prepared : reply ≠ breakReply) :
    entry.moment.toneQueueLength ≤ 1 ∧
      (CallsLow label state ∨ state.status = .running ∧ PlaysInterrupted label.world label.input.action) := by
  by_cases running : state.status = .running
  case neg =>
    rw [step_ended label running] at member
    cases member
  have acts := adds_sendsReply (wellformed.ready label.input) label.world label.input
  rcases step_log running acts member with sends | ⟨client', request, received⟩ | ⟨on, polled⟩
  · obtain ⟨drained, ⟨dequeue, low, owed⟩ | plays⟩ := (sends client reply call).resolve_left prepared
    · rw [nextLeavesOne_ready_iff] at low
      rw [owes_iff, ready_keyer] at owed
      exact ⟨drained, .inl ⟨running, dequeue, low, owed⟩⟩
    · exact ⟨drained, .inr ⟨running, plays⟩⟩
  · simp [received] at call
  · simp [polled] at call

/-- When the callback comes while a reply is owed, the reply is sent. -/
theorem sendto_of_callsLow (wellformed : state.Wellformed) (low : CallsLow label state) :
    ∃ entry ∈ (state.step label).log,
      entry.call = .sendto state.replyAddr (state.replyBuffer.bytes ++ crlf) := by
  obtain ⟨running, dequeue, low, owed⟩ := low
  have owed' : (state.ready label.input).Owes := by
    rw [owes_iff, ready_keyer]
    exact owed
  have answers := dequeue_answers (wellformed.ready label.input).toSound owed'
    ((nextLeavesOne_ready_iff label.input state).mpr low)
  obtain ⟨seconds, addr, log, equal, -⟩ := ready_eq label.input state
  obtain ⟨earlier, moment, later, appended, -⟩ := answers.log
  refine ⟨⟨.sendto state.replyAddr (state.replyBuffer.bytes ++ crlf), moment⟩, log_subset_step running ?_, rfl⟩
  rw [dequeue, act, appended, equal]
  simp

/-! ## Waiting for the text -/

/-- The step prepares a reply. -/
def Prepares (label : Label) (state : State) : Prop :=
  ∃ entry ∈ (state.step label).log, ∃ client reply, entry.call = .prepared client reply

/-- Among some calls libcw has accepted a character. -/
def Accepted (entries : List Entry) : Prop := ∃ entry ∈ entries, ∃ char, entry.call = .sendCharacter char true

theorem accepted_append_iff (earlier later : List Entry) :
    Accepted (earlier ++ later) ↔ Accepted earlier ∨ Accepted later := by
  simp only [Accepted, List.mem_append, or_and_right, exists_or]

/-- The step hands a text to libcw, which accepts a character of it. -/
def HandsText (label : Label) (state : State) : Prop :=
  (∃ request, label.input.action = .text request) ∧ Accepted (state.step label).log

/-- A tuning of at least one second. -/
def Tuning (label : Label) : Prop :=
  ∃ payload seconds, label.input.action = .request .tune payload ∧ paramsTune payload = some seconds ∧ 0 < seconds

/-- In `asked` a client asks for a reply, and in the steps after that no other reply is
prepared. -/
structure Waiting (client : SockaddrIn) (payload : Bytes) (asked : State) (reply : Label) (between : List Label) :
    Prop where
  running : asked.status = .running
  datagram : ∃ bytes, reply.input = .datagram client bytes
  request : reply.input.action = .request .reply payload
  last : Runs.Steps State.step (fun label state => ¬ Prepares label state) between (asked.step reply)

/-- The reply that was asked for, or none, is owed. -/
def OwesOnly (client : SockaddrIn) (text : Bytes) (state : State) : Prop :=
  state.Owes → state.replyAddr = client ∧ state.replyBuffer.bytes = text

theorem owesOnly_reply {client : SockaddrIn} {payload : Bytes} {asked : State} {reply : Label}
    {between : List Label} (waiting : Waiting client payload asked reply between) :
    OwesOnly client (EscRequest.reply.code :: payload) (asked.step reply) := by
  obtain ⟨nulFree, short⟩ := Input.action_payload waiting.request
  obtain ⟨buffer, bytes, prepared⟩ := prepareReply_eq (reply_nul_free nulFree) short (asked.ready reply.input)
  have sender : (asked.ready reply.input).requestAddr = client := by
    obtain ⟨datagram, input⟩ := waiting.datagram
    obtain ⟨sender, datagram', input', arrived⟩ := Input.action_request waiting.request
    cases input.symm.trans input'
    rw [input]
    obtain ⟨moment, -, addr⟩ := ready_datagram arrived asked
    exact addr
  intro _
  rw [step_eq reply waiting.running, waiting.request, act, handleEscRequest, escReply, prepared]
  rcases finish_cases reply.world reply.input _ with same | ⟨port, log, polled, -⟩
  · rw [same]
    exact ⟨sender, bytes⟩
  · rw [polled]
    exact ⟨sender, bytes⟩

theorem prepares_of_mail {client : SockaddrIn} {text : Bytes}
    (prepared : Mail.prepared client text ∈ mails (state.step label).log) : Prepares label state := by
  obtain ⟨entry, member, mail⟩ := List.mem_filterMap.mp prepared
  refine ⟨entry, member, client, text, ?_⟩
  obtain ⟨call, moment⟩ := entry
  cases call with
  | prepared => cases mail; rfl
  | received | sendto => cases mail
  | _ => cases mail

/-- A step that prepares nothing makes no other reply owed. -/
theorem OwesOnly.step {client : SockaddrIn} {text : Bytes} (only : OwesOnly client text state)
    (wellformed : state.Wellformed) (unprepared : ¬ Prepares label state) :
    OwesOnly client text (state.step label) := by
  intro owed
  -- The server that owes what the daemon owes before the step.
  obtain ⟨start, pending, agrees⟩ : ∃ desk : Desk,
      desk.pending = (if state.Owes then some (state.replyAddr, state.replyBuffer.bytes) else none) ∧
        Agrees desk.latest desk state := ⟨⟨none, _⟩, rfl, rfl, fun owed => if_pos owed⟩
  obtain ⟨desk, trace, agrees'⟩ := step_delivers label wellformed agrees
  have before := trace.pending_of_unprepared (fun _ _ prepared => unprepared (prepares_of_mail prepared))
    (agrees'.pending owed)
  rw [pending] at before
  split at before
  case isTrue owed =>
    obtain ⟨addr, buffer⟩ := Prod.mk.inj (Option.some.inj before)
    rw [← addr, ← buffer]
    exact only owed
  case isFalse => cases before

/-! ## Few tones -/

/-- No prepared reply is sent. -/
def Withheld (entry : Entry) : Prop := ∀ client reply, entry.call = .sendto client reply → reply = breakReply

theorem withheld_of_mailless {entry : Entry} (mailless : Mailless entry) : Withheld entry := by
  intro client reply call
  simp [Mailless, Entry.mail, call] at mailless

/-- With one tone at most in the queue, and as long as no character is accepted, no reply
is sent and there is still one tone at most. -/
def KeepsFew (before after : State) : Prop :=
  ∃ new, after.log = before.log ++ new ∧ (before.keyer.tones ≤ 1 →
    (∀ earlier entry later, new = earlier ++ entry :: later → ¬ Accepted earlier → Withheld entry) ∧
      (¬ Accepted new → after.keyer.tones ≤ 1))

namespace KeepsFew

variable {before after : State}

theorem trans {first second third : State} (earlier : KeepsFew first second)
    (later : KeepsFew second third) : KeepsFew first third := by
  obtain ⟨new, appended, kept⟩ := earlier
  obtain ⟨new', appended', kept'⟩ := later
  refine ⟨new ++ new', by rw [appended', appended, List.append_assoc], fun few => ?_⟩
  obtain ⟨withheld, few_after⟩ := kept few
  constructor
  · intro sofar entry rest split unaccepted
    -- The call is one of the first change or of the second, with the whole first one before it.
    rcases List.append_eq_append_iff.mp split with ⟨middle, rfl, split'⟩ | ⟨middle, rfl, split'⟩
    · rw [accepted_append_iff, not_or] at unaccepted
      exact (kept' (few_after unaccepted.1)).1 middle entry rest split' unaccepted.2
    · cases middle with
      | nil =>
        rw [List.append_nil] at few_after
        exact (kept' (few_after unaccepted)).1 [] entry rest split'.symm (by simp [Accepted])
      | cons =>
        obtain ⟨rfl, -⟩ := List.cons.inj split'
        exact withheld sofar entry _ rfl unaccepted
  · intro unaccepted
    rw [accepted_append_iff, not_or] at unaccepted
    exact (kept' (few_after unaccepted.1)).2 unaccepted.2

theorem of_withheld {before after : State} (adds : Adds Withheld before after)
    (tones : before.keyer.tones ≤ 1 → after.keyer.tones ≤ 1) : KeepsFew before after := by
  obtain ⟨new, appended, withheld⟩ := adds
  refine ⟨new, appended, fun few => ⟨fun earlier entry later split _ => withheld entry ?_, fun _ => tones few⟩⟩
  rw [split]
  exact List.mem_append_right _ List.mem_cons_self

theorem of_silent (silent : Silent before after) (tones : before.keyer.tones ≤ 1 → after.keyer.tones ≤ 1) :
    KeepsFew before after :=
  of_withheld (silent.adds.mono fun _ => withheld_of_mailless) tones

theorem refl (state : State) : KeepsFew state state := of_silent (.refl state) id

end KeepsFew

theorem not_nextLeavesOne_of_few (few : state.toneQueueLength ≤ 1) : ¬ state.NextLeavesOne := by
  rintro ⟨generator, tone, last, opened, -, queued⟩
  simp [toneQueueLength, Libcw.toneQueueLength, opened, queued] at few

theorem dequeue_few (watched : Watched state.libcw) (few : state.keyer.tones ≤ 1) :
    state.dequeue.keyer.tones ≤ 1 := by
  rcases keyer_dequeue watched with same | drained
  · rw [same]
    exact few
  · rw [drained, Keyer.drain_few few]
    exact Nat.zero_le 1

theorem keepsFew_dequeue (sound : state.Sound) : KeepsFew state state.dequeue := by
  by_cases few : state.keyer.tones ≤ 1
  · exact .of_silent (silent_dequeue sound fun _ => not_nextLeavesOne_of_few few).1 (dequeue_few sound.watched)
  · obtain ⟨new, appended, -⟩ := adds_dequeue sound.watched
    exact ⟨new, appended, fun few' => absurd few' few⟩

theorem keepsFew_sendCharacter (world : World) (char : UInt8) (state : State) :
    KeepsFew state (state.cwSendCharacter world char) := by
  refine ⟨[⟨.sendCharacter char (state.acceptedTones world char).isSome, state.moment⟩], rfl,
    fun few => ⟨fun earlier entry later split _ => ?_, fun unaccepted => ?_⟩⟩
  · have sent : entry ∈ [(⟨.sendCharacter char (state.acceptedTones world char).isSome, state.moment⟩ : Entry)] := by
      rw [split]
      exact List.mem_append_right _ List.mem_cons_self
    rw [List.mem_singleton.mp sent]
    exact nofun
  · have rejected : state.acceptedTones world char = none := by
      cases accepted : state.acceptedTones world char with
      | none => rfl
      | some tones => exact absurd ⟨_, List.mem_singleton_self _, char, by simp [accepted]⟩ unaccepted
    rw [keyer_cwSendCharacter, rejected]
    simpa using few

theorem keepsFew_textStep {request : Bytes} {before after : State} (sound : before.Sound) (nulFree : 0 ∉ request)
    (step : TextStep world request before after) : KeepsFew before after := by
  -- A text queues tones with an accepted character only.
  cases step with
  | drain => exact keepsFew_dequeue sound
  | raise => exact .of_silent (silent_setPttOn before) fun few => by rwa [keyer_setPttOn, Keyer.raise_tones]
  | send char => exact keepsFew_sendCharacter world char before
  | sendSpeed wpm =>
    exact .of_silent (silent_callGenerator (by rfl) _) fun few => by rwa [(adjusts_cwSetSendSpeed wpm before).keyer]
  | setGap gap =>
    exact .of_silent (silent_callGenerator (by rfl) _) fun few => by rwa [(adjusts_cwSetGap gap before).keyer]
  | getGap => exact .of_silent ⟨.record rfl, rfl, rfl, id⟩ id
  | speed | replace => exact .of_silent ⟨.of_log_eq rfl, rfl, rfl, id⟩ id
  | caret _ front rest split =>
    have cut : KeepsFew before { before with requestQueue := before.requestQueue.cut front.length } :=
      .of_silent ⟨.of_log_eq rfl, rfl, rfl, id⟩ id
    have prepares := adds_prepareReply (front.map played)
      { before with requestQueue := before.requestQueue.cut front.length } (played_nul_free nulFree split)
    refine cut.trans (.of_withheld (prepares.mono ?_) fun few => by rwa [keyer_prepareReply])
    rintro entry rfl
    exact nofun

theorem keepsFew_receiveText (world : World) (wellformed : state.Wellformed) {request : Bytes}
    (nulFree : 0 ∉ request) (length : request.length ≤ CWDAEMON_REQUEST_SIZE_MAX) :
    KeepsFew state (state.receiveText world request) := by
  obtain ⟨after, reads, -, received⟩ := reads_receiveText world request wellformed.idle nulFree
    (Nat.lt_of_le_of_lt length (by decide))
  have sound := wellformed.toSound.withRequestQueue (state.requestQueue.append request)
  have queued : KeepsFew state { state with requestQueue := state.requestQueue.append request } :=
    .of_silent ⟨.of_log_eq rfl, rfl, rfl, id⟩ id
  have read := reads.relates KeepsFew.refl (fun _ _ _ => KeepsFew.trans)
    (fun before after step (sound : before.Sound) =>
      ⟨sound.textStep length nulFree step, keepsFew_textStep sound nulFree step⟩) sound
  have cleared : KeepsFew after after.clearRequestQueue := .of_silent ⟨.of_log_eq rfl, rfl, rfl, id⟩ id
  rw [received]
  exact (queued.trans read.2).trans cleared

/-- The step of a text, from its first entry on. -/
theorem keepsFew_step (wellformed : state.Wellformed) (running : state.status = .running) {request : Bytes}
    (text : label.input.action = .text request) : KeepsFew { state with log := [] } (state.step label) := by
  have ready : KeepsFew { state with log := [] } (state.ready label.input) := by
    have same := ready_keyer label.input state
    obtain ⟨seconds, addr, log, equal, received⟩ := ready_eq label.input state
    rw [equal] at same ⊢
    refine .of_withheld ⟨log, rfl, fun entry member client reply call => ?_⟩ fun few => same ▸ few
    obtain ⟨client', request', heard⟩ := received entry member
    cases heard.symm.trans call
  have acted : KeepsFew (state.ready label.input) ((state.ready label.input).act label.world label.input.action) := by
    obtain ⟨nulFree, length⟩ := Input.action_text_bounds text
    rw [text]
    exact keepsFew_receiveText label.world (wellformed.ready label.input) nulFree length
  have finished : KeepsFew ((state.ready label.input).act label.world label.input.action) (state.step label) := by
    obtain ⟨polls, logged, switched⟩ := step_log_eq label running
    refine .of_withheld ⟨polls, logged, fun entry member client reply call => ?_⟩ fun few => ?_
    · obtain ⟨on, polled⟩ := switched entry member
      cases polled.symm.trans call
    · rwa [keyer_step running]
  exact (ready.trans acted).trans finished

theorem tuning_of_escMove {request : EscRequest} {payload : Bytes} {count : Nat}
    (action : label.input.action = .request request payload)
    (tunes : state.escMove world request payload = .tune count) : Tuning label := by
  cases request with
  | tune =>
    simp only [escMove] at tunes
    cases valid : paramsTune payload with
    | none => simp [valid] at tunes
    | some seconds =>
      simp only [valid] at tunes
      split at tunes
      case isTrue positive => exact ⟨payload, seconds, action, valid, by omega⟩
      case isFalse => cases tunes
  | abort | cwdevice | txDelay | soundSystem =>
    simp only [escMove] at tunes
    split at tunes <;> cases tunes
  | pttState =>
    simp only [escMove] at tunes
    split at tunes
    · cases tunes
    · split at tunes <;> cases tunes
  | reset | speed | tone | exit | wordMode | weighting | port | ssbWay | bandSwitch | volume | reply => cases tunes

/-- Only a text that is handed to libcw and a tuning put tones in a queue that has run low. -/
theorem few_step (wellformed : state.Wellformed) (few : state.toneQueueLength ≤ 1)
    (unhanded : ¬ HandsText label state) (untuned : ¬ Tuning label) : (state.step label).toneQueueLength ≤ 1 := by
  by_cases running : state.status = .running
  case neg =>
    rw [step_ended label running]
    exact few
  by_cases text : ∃ request, label.input.action = .text request
  · obtain ⟨request, action⟩ := text
    obtain ⟨new, logged, kept⟩ := keepsFew_step wellformed running action
    exact (kept few).2 fun accepted => unhanded ⟨⟨request, action⟩, by rwa [logged]⟩
  have ready := wellformed.ready label.input
  have start : (state.ready label.input).keyer.tones ≤ 1 := by
    rw [ready_keyer]
    exact few
  -- An Escape request is a move of the controller, and of these only a tuning queues tones.
  have acted : ((state.ready label.input).act label.world label.input.action).keyer.tones ≤ 1 := by
    cases action : label.input.action with
    | idle => exact start
    | request request payload =>
      rw [act, keyer_handleEscRequest label.world request payload ready.idle]
      exact (Keyer.tones_move_le _ fun count tunes => untuned (tuning_of_escMove action tunes)).trans start
    | text request => exact absurd ⟨request, action⟩ text
    | exit =>
      rw [act, keyer_exitProcess]
      exact (Keyer.tones_move_le _ fun count tunes => Keyer.Move.noConfusion tunes).trans start
    | dequeue => exact dequeue_few ready.watched start
    | key on =>
      obtain ⟨seconds, log, keyed⟩ := keyingevent_eq on (state.ready label.input)
      rw [act, keyed]
      exact start
  have tones : (state.step label).keyer.tones ≤ 1 := by
    rw [keyer_step running]
    exact acted
  exact tones

/-- From a queue that has run low a reply is sent in the middle of a text at most, behind
a character that libcw has accepted. -/
theorem accepted_of_sendto (wellformed : state.Wellformed) (few : state.toneQueueLength ≤ 1)
    {earlier later : List Entry} {entry : Entry} (split : (state.step label).log = earlier ++ entry :: later)
    {client : SockaddrIn} {reply : Bytes} (call : entry.call = .sendto client reply)
    (prepared : reply ≠ breakReply) :
    (∃ request, label.input.action = .text request) ∧ Accepted earlier := by
  have member : entry ∈ (state.step label).log := by
    rw [split]
    exact List.mem_append_right _ List.mem_cons_self
  rcases (low_of_sendto wellformed member call prepared).2 with ⟨-, -, low, -⟩ | ⟨running, text, -⟩
  · exact absurd low (not_nextLeavesOne_of_few few)
  · refine ⟨text, ?_⟩
    obtain ⟨request, action⟩ := text
    obtain ⟨new, logged, kept⟩ := keepsFew_step wellformed running action
    by_contra unaccepted
    exact prepared ((kept few).1 earlier entry later (logged.symm.trans split) unaccepted client reply call)

/-! ## Runs -/

/-- Whenever a reply that a REPLY request has asked for is sent, a text that came after
the request has been handed to libcw, in a step before or in the same one, and the tone
queue has run low. -/
def AnsweredAfterText (labels : List Label) (initial : State) : Prop :=
  ∀ client payload before reply between last rest, labels = before ++ reply :: between ++ last :: rest →
    Waiting client payload (Runs.run State.step before initial) reply between →
    ∀ earlier entry later,
      ((Runs.run State.step between ((Runs.run State.step before initial).step reply)).step last).log =
        earlier ++ entry :: later →
      entry.call = .sendto client (EscRequest.reply.code :: payload ++ crlf) →
      (Runs.Once State.step HandsText between ((Runs.run State.step before initial).step reply) ∨
          (∃ request, last.input.action = .text request) ∧ Accepted earlier) ∧
        entry.moment.toneQueueLength ≤ 1

/-- Whenever the tone queue runs low while such a reply is owed, a text that came after
the request has been handed to libcw. -/
def RunsLowAfterText (labels : List Label) (initial : State) : Prop :=
  ∀ client payload before reply between last rest, labels = before ++ reply :: between ++ last :: rest →
    Waiting client payload (Runs.run State.step before initial) reply between →
    CallsLow last (Runs.run State.step between ((Runs.run State.step before initial).step reply)) →
    Runs.Once State.step HandsText between ((Runs.run State.step before initial).step reply)

/-- A REPLY request finds at most one tone in the queue, and until a text is handed to
libcw there is no tuning. -/
def Prompt (labels : List Label) (initial : State) : Prop :=
  ∀ client payload before reply between rest, labels = before ++ reply :: between ++ rest →
    Waiting client payload (Runs.run State.step before initial) reply between →
    ¬ Runs.Once State.step HandsText between ((Runs.run State.step before initial).step reply) →
    (Runs.run State.step before initial).toneQueueLength ≤ 1 ∧ ∀ label ∈ between, ¬ Tuning label

variable {client : SockaddrIn} {payload : Bytes} {asked : State} {reply : Label} {between : List Label}

/-- While a reply is waited for, it is the only one that is owed. -/
theorem Waiting.owesOnly (waiting : Waiting client payload asked reply between) (wellformed : asked.Wellformed) :
    OwesOnly client (EscRequest.reply.code :: payload) (Runs.run State.step between (asked.step reply)) := by
  have states := Runs.states_of_steps (fun label state (held : state.Wellformed ∧ OwesOnly client _ state) unprepared =>
    ⟨held.1.step label, held.2.step held.1 unprepared⟩) ⟨wellformed.step reply, owesOnly_reply waiting⟩ waiting.last
  exact states.run.2

/-- The request for a reply puts no tone in the queue. -/
theorem Waiting.few (waiting : Waiting client payload asked reply between) (wellformed : asked.Wellformed)
    (few : asked.toneQueueLength ≤ 1) : (asked.step reply).toneQueueLength ≤ 1 := by
  refine few_step wellformed few (fun hands => ?_) fun tuning => ?_
  · obtain ⟨⟨request, text⟩, -⟩ := hands
    cases waiting.request.symm.trans text
  · obtain ⟨payload, seconds, tune, -⟩ := tuning
    cases waiting.request.symm.trans tune

/-- The text of a REPLY request begins with its code, so that it is not `break`. -/
theorem reply_ne_break (payload : Bytes) : EscRequest.reply.code :: payload ++ crlf ≠ breakReply :=
  fun equal => absurd (List.cons.inj equal).1 (by decide)

end State

open State

theorem answeredAfterText_iff {labels : List Label} {initial : State} (started : Started initial)
    (quiet : ∀ label ∈ labels, Quiet label.world) :
    AnsweredAfterText labels initial ↔ RunsLowAfterText labels initial := by
  have wellformed (labels : List Label) : (Runs.run State.step labels initial).Wellformed :=
    Runs.run_preserves Wellformed.step labels started.wellformed
  constructor
  · intro answered client payload before reply between last rest split waiting low
    have last_wellformed := Runs.run_preserves Wellformed.step between ((wellformed before).step reply)
    -- The callback sends the reply that was waited for, so that the claim speaks of it.
    obtain ⟨entry, member, call⟩ := sendto_of_callsLow last_wellformed low
    obtain ⟨addr, text⟩ := waiting.owesOnly (wellformed before) low.2.2.2
    rw [addr, text] at call
    obtain ⟨earlier, later, logged⟩ := List.append_of_mem member
    have handed := (answered client payload before reply between last rest split waiting earlier entry later logged call).1
    refine handed.resolve_right fun texts => ?_
    obtain ⟨⟨request, action⟩, -⟩ := texts
    cases low.2.1.symm.trans action
  · intro after client payload before reply between last rest split waiting earlier entry later logged call
    have last_wellformed := Runs.run_preserves Wellformed.step between ((wellformed before).step reply)
    have calm : Quiet last.world := quiet last (by simp [split])
    obtain ⟨drained, low⟩ := low_of_sendto last_wellformed
      (logged ▸ List.mem_append_right _ List.mem_cons_self) call (reply_ne_break payload)
    have calls := low.resolve_right fun plays => calm.uninterrupted plays.2.2
    exact ⟨.inl (after client payload before reply between last rest split waiting calls), drained⟩

theorem answeredAfterText_of_prompt {labels : List Label} {initial : State} (started : Started initial)
    (prompt : Prompt labels initial) : AnsweredAfterText labels initial := by
  intro client payload before reply between last rest split waiting earlier entry later logged call
  have wellformed : (Runs.run State.step before initial).Wellformed :=
    Runs.run_preserves Wellformed.step before started.wellformed
  have last_wellformed := Runs.run_preserves Wellformed.step between (wellformed.step reply)
  obtain ⟨drained, -⟩ := low_of_sendto last_wellformed
    (logged ▸ List.mem_append_right _ List.mem_cons_self) call (reply_ne_break payload)
  refine ⟨?_, drained⟩
  by_cases handed : Runs.Once State.step HandsText between ((Runs.run State.step before initial).step reply)
  · exact .inl handed
  · obtain ⟨few, untuned⟩ := prompt client payload before reply between (last :: rest) split waiting handed
    -- No step in between puts a tone in the queue, so it has still run low before the last step.
    have steps := ((Runs.not_once_iff between _).mp handed).assuming untuned
    have states := Runs.states_of_steps
      (fun label state (held : state.Wellformed ∧ state.toneQueueLength ≤ 1) untouched =>
        ⟨held.1.step label, few_step held.1 held.2 untouched.2 untouched.1⟩)
      ⟨wellformed.step reply, waiting.few wellformed few⟩ steps
    exact .inr (accepted_of_sendto last_wellformed states.run.2 logged call (reply_ne_break payload))

/-- Along a run a reply comes after the text that follows its request when the request
finds at most one tone in the queue and no tuning comes before the text.  Where libcw's
thread takes no tone in the middle of a text, a reply comes after the text exactly when
the tone queue does not run low before. -/
theorem reply_comes_after_text {labels : List Label} {initial : State} (started : Started initial) :
    (Prompt labels initial → AnsweredAfterText labels initial) ∧
      ((∀ label ∈ labels, Quiet label.world) →
        (AnsweredAfterText labels initial ↔ RunsLowAfterText labels initial)) :=
  ⟨answeredAfterText_of_prompt started, answeredAfterText_iff started⟩

/-- A letter is being played when the reply is asked for, and its end sends the reply. -/
theorem reply_comes_without_a_text :
    ¬ ∀ labels initial, Started initial → AnsweredAfterText labels initial := by
  intro claim
  have answered := claim [calm.receives [byte 'e'], calm.receivesEscape .reply [byte 'x'], ⟨calm, .dequeue⟩]
    onSerialPort started_onSerialPort client [byte 'x'] [calm.receives [byte 'e']]
    (calm.receivesEscape .reply [byte 'x']) [] ⟨calm, .dequeue⟩ [] rfl
    ⟨by decide +kernel, ⟨_, rfl⟩, rfl, trivial⟩
  have sent : ∃ entry ∈ ((Runs.run State.step [calm.receives [byte 'e'], calm.receivesEscape .reply [byte 'x']]
      onSerialPort).step ⟨calm, .dequeue⟩).log,
      entry.call = .sendto client (EscRequest.reply.code :: [byte 'x'] ++ crlf) := by decide +kernel
  obtain ⟨entry, member, call⟩ := sent
  obtain ⟨earlier, later, logged⟩ := List.append_of_mem member
  rcases (answered earlier entry later logged call).1 with never | ⟨⟨request, text⟩, -⟩
  · exact never
  · cases text

/-- The reply is asked for, and then a letter is played. -/
theorem reply_comes_after_a_letter :
    AnsweredAfterText [calm.receivesEscape .reply [byte 'x'], calm.receives [byte 'e'], ⟨calm, .dequeue⟩]
      onSerialPort := by
  have prompt : Prompt [calm.receivesEscape .reply [byte 'x'], calm.receives [byte 'e'], ⟨calm, .dequeue⟩]
      onSerialPort := by
    intro client payload before reply between rest split waiting _
    have text : (calm.receives [byte 'e']).input.action = .text [byte 'e'] := rfl
    constructor
    · cases before with
      | nil => decide +kernel
      | cons first before =>
        -- Only the first step is a request for a reply.
        have later : reply ∈ [calm.receives [byte 'e'], ⟨calm, .dequeue⟩] := by
          rw [(List.cons.inj split).2]
          simp
        rcases List.mem_pair.mp later with rfl | rfl
        · cases text.symm.trans waiting.request
        · cases waiting.request
    · rintro label member ⟨tuned, seconds, tune, -⟩
      have some_label : label ∈ [calm.receivesEscape .reply [byte 'x'], calm.receives [byte 'e'],
          ⟨calm, .dequeue⟩] := by
        rw [split]
        simp [member]
      simp only [List.mem_cons, List.not_mem_nil, or_false] at some_label
      rcases some_label with rfl | rfl | rfl
      · cases tune
      · cases text.symm.trans tune
      · cases tune
  exact (reply_comes_after_text started_onSerialPort).1 prompt

end Cwdaemon
