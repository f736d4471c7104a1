import Cwdaemon.Verified.Steps

/-! # The invariant of the daemon

`Sound` holds at every moment of every run, also while a text is being read:
nothing has gone wrong with a reply and nothing can, libcw's thread knows the
daemon's callback, and PTT is accounted for.  `Wellformed` adds that between two
steps the request queue is empty.
-/

namespace Cwdaemon

open CString (Buffer)

namespace State

structure Sound (state : State) : Prop where
  live : state.status = .running ∨ ∃ code, state.status = .exited code
  short : state.pttFlag.has .echo = true → state.replyBuffer.bytes.length ≤ 255
  watched : Watched state.libcw
  accounted : state.keyer.Accounted

structure Wellformed (state : State) : Prop extends Sound state where
  idle : state.requestQueue.bytes = []

/-! ## Replies -/

/-- A short reply is completed by CR LF, with room to spare. -/
theorem completed_bytes {state : State} (short : state.replyBuffer.bytes.length ≤ 255) :
    (state.replyBuffer.append crlf).bytes = state.replyBuffer.bytes ++ crlf :=
  state.replyBuffer.append_bytes_of_fits (by decide)
    (Nat.lt_of_le_of_lt (Nat.add_le_add_right short _) (by decide))

/-- The pending reply, when it is short, goes to the client that waits for it. -/
theorem answered_eq {state : State} (short : state.replyBuffer.bytes.length ≤ 255) :
    state.answered =
      { state.setPttFlag (state.pttFlag.unset .echo) with
        replyBuffer := state.replyBuffer.append crlf
        log := state.log ++ [⟨.sendto state.replyAddr (state.replyBuffer.bytes ++ crlf), state.moment⟩] } := by
  simp only [answered, setPttFlag_replyBuffer, completed_bytes short, sendto,
    if_pos (List.suffix_append state.replyBuffer.bytes crlf)]
  rfl

/-- The text of a REPLY request, whose code is the first character of the reply. -/
theorem reply_nul_free {payload : Bytes} (nulFree : 0 ∉ payload) : 0 ∉ EscRequest.reply.code :: payload := by
  simp only [List.mem_cons, not_or]
  exact ⟨by decide, nulFree⟩

/-- A short text is copied into the reply buffer. -/
theorem prepareReply_eq {request : Bytes} (nulFree : 0 ∉ request) (short : request.length ≤ 255) (state : State) :
    ∃ reply : Buffer (CWDAEMON_REPLY_SIZE_MAX + 1), reply.bytes = request ∧
      state.prepareReply request =
        { state.setPttFlag (state.pttFlag.set .echo) with
          replyAddr := state.requestAddr
          replyBuffer := reply
          log := state.log ++ [⟨.prepared state.requestAddr request, state.moment⟩] } := by
  obtain ⟨reply, copied, bytes⟩ := Buffer.copy?_bytes (CWDAEMON_REPLY_SIZE_MAX + 1) nulFree
    (Nat.lt_of_le_of_lt short (by decide))
  refine ⟨reply, bytes, ?_⟩
  simp only [prepareReply, copied, bytes]
  rfl

/-! ## What keeps the invariant -/

namespace Sound

variable {before after state : State}

theorem adjusts (sound : before.Sound) (adjusts : Adjusts before after) : after.Sound := by
  have accounted := adjusts.keyer ▸ sound.accounted
  obtain ⟨current, change, log, rfl, delay, kept⟩ := adjusts
  refine ⟨sound.live, sound.short, ?_, accounted⟩
  -- The generator keeps its callback and does not start.
  intro changed opened started
  obtain ⟨generator, opened', rfl⟩ := Option.map_eq_some_iff.mp opened
  obtain ⟨-, started', watermark⟩ := kept generator
  rw [watermark]
  exact sound.watched generator opened' (started' ▸ started)

/-- A libcw call that only adds tones to the queue. -/
theorem callGenerator {call : Call} {change : Generator → Generator} {count : Nat} (sound : state.Sound)
    (adds : ∀ generator, (change generator).toneQueue.length = generator.toneQueue.length + count ∧
      (change generator).started = generator.started ∧
      (change generator).lowWatermark = generator.lowWatermark) :
    (state.callGenerator call change).Sound := by
  refine ⟨sound.live, sound.short, ?_, ?_⟩
  · intro changed opened started
    obtain ⟨generator, opened', rfl⟩ := Option.map_eq_some_iff.mp opened
    obtain ⟨-, started', watermark⟩ := adds generator
    rw [watermark]
    exact sound.watched generator opened' (started' ▸ started)
  · rw [keyer_callGenerator fun generator _ => (adds generator).1]
    exact sound.accounted.queue count

theorem cwQueueTone (sound : state.Sound) (usecs : Nat) (frequency : Int) :
    (state.cwQueueTone usecs frequency).Sound :=
  sound.callGenerator fun _ => ⟨List.length_append, rfl, rfl⟩

theorem cwSendCharacter (sound : state.Sound) (world : World) (char : UInt8) :
    (state.cwSendCharacter world char).Sound :=
  sound.callGenerator fun _ => ⟨List.length_append, rfl, rfl⟩

theorem cwFlushToneQueue (sound : state.Sound) : state.cwFlushToneQueue.Sound := by
  refine ⟨sound.live, sound.short, ?_, ?_⟩
  · intro changed opened started
    obtain ⟨generator, opened', rfl⟩ := Option.map_eq_some_iff.mp opened
    exact sound.watched generator opened' started
  · rw [keyer_cwFlushToneQueue]
    exact sound.accounted

theorem setPttFlag {flag : PttFlag} (sound : state.Sound)
    (echo : flag.has .echo = true → state.pttFlag.has .echo = true)
    (auto : state.pttFlag.has .auto = true → flag.has .auto = true) : (state.setPttFlag flag).Sound := by
  refine ⟨sound.live, fun pending => sound.short (echo pending), sound.watched, fun on => ?_⟩
  obtain ⟨serial, automatic, delayed⟩ := sound.accounted on
  exact ⟨serial, auto automatic, delayed⟩

theorem setPttOn (sound : state.Sound) : state.setPttOn.Sound := by
  have accounted := keyer_setPttOn state ▸ sound.accounted.raise
  have echo : state.setPttOn.pttFlag.has .echo = state.pttFlag.has .echo := by
    unfold State.setPttOn
    split
    · obtain ⟨log, turned⟩ := devicePtt_eq state.globalCwdevice true state
      simp [turned]
    · rfl
  obtain ⟨flag, devices, log, raised⟩ := setPttOn_eq state
  rw [raised] at accounted echo ⊢
  exact ⟨sound.live, fun pending => sound.short (echo ▸ pending), sound.watched, accounted⟩

theorem setPttOff (sound : state.Sound) : state.setPttOff.Sound := by
  -- Owed replies are forgotten with PTT, so that the length of the buffer does not matter.
  have accounted := keyer_setPttOff state ▸ sound.accounted.lower
  obtain ⟨devices, log, lowered⟩ := setPttOff_eq state
  rw [lowered] at accounted ⊢
  exact ⟨sound.live, by simp, sound.watched, accounted⟩

theorem answered (sound : state.Sound) (pending : state.pttFlag.has .echo = true) :
    state.answered.Sound ∧ state.answered.pttFlag.has .echo = false := by
  have accounted : state.answered.keyer.Accounted := by
    rw [keyer_answered]
    exact sound.accounted
  rw [answered_eq (sound.short pending)] at accounted ⊢
  exact ⟨⟨sound.live, by simp, sound.watched, accounted⟩, by simp⟩

theorem toneQueueLowCallback (sound : state.Sound) : state.toneQueueLowCallback.Sound := by
  rw [toneQueueLowCallback_eq]
  split
  · exact sound.setPttOff
  · split
    case isTrue pending =>
      have answered := (sound.answered pending).1
      split
      · exact (answered.cwQueueTone 1 0).cwQueueTone 1 0
      · exact answered
    case isFalse => exact sound

theorem dequeue (sound : state.Sound) : state.dequeue.Sound := by
  rcases state.dequeue_cases with same | ⟨generator, tone, tones, opened, started, queued, dequeued⟩
  · rw [same]
    exact sound
  · have taken : (state.taken generator tone tones).Sound := by
      refine ⟨sound.live, sound.short, ?_, ?_⟩
      · rintro _ ⟨⟩ started
        exact sound.watched generator opened started
      · exact sound.accounted
    rw [dequeued]
    split
    · exact taken.toneQueueLowCallback
    · exact taken

theorem prepareReply {request : Bytes} (sound : state.Sound) (nulFree : 0 ∉ request)
    (short : request.length ≤ 255) : (state.prepareReply request).Sound := by
  have accounted : (state.prepareReply request).keyer.Accounted := by
    rw [keyer_prepareReply]
    exact sound.accounted
  obtain ⟨reply, bytes, prepared⟩ := prepareReply_eq nulFree short state
  rw [prepared] at accounted ⊢
  exact ⟨sound.live, fun _ => bytes ▸ short, sound.watched, accounted⟩

theorem withRequestQueue (sound : state.Sound) (queue : Buffer CWDAEMON_REQUEST_QUEUE_SIZE_MAX) :
    ({ state with requestQueue := queue } : State).Sound :=
  ⟨sound.live, sound.short, sound.watched, sound.accounted⟩

theorem clearRequestQueue (sound : state.Sound) : state.clearRequestQueue.Sound :=
  ⟨sound.live, sound.short, sound.watched, sound.accounted⟩

theorem textStep {world : World} {request : Bytes} (length : request.length ≤ CWDAEMON_REQUEST_SIZE_MAX)
    (nulFree : 0 ∉ request) (step : TextStep world request before after) (sound : before.Sound) :
    after.Sound := by
  cases step with
  | drain => exact sound.dequeue
  | speed speed => exact sound.adjusts (.setCurrent before rfl)
  | sendSpeed wpm => exact sound.adjusts (adjusts_cwSetSendSpeed wpm before)
  | setGap gap => exact sound.adjusts (adjusts_cwSetGap gap before)
  | getGap => exact sound.adjusts (.record _ before)
  | replace index => exact sound.withRequestQueue _
  | raise => exact sound.setPttOn
  | send char => exact sound.cwSendCharacter world char
  | caret _ front rest split queue =>
    exact (sound.withRequestQueue (before.requestQueue.cut front.length)).prepareReply (played_nul_free nulFree split) (played_length length split)

end Sound

/-- A text during which libcw's thread takes no tone leaves the controller undisturbed. -/
theorem reads_undisturbed {world : World} {request : Bytes} {before after : State} (quiet : Quiet world)
    (nulFree : 0 ∉ request) (length : request.length ≤ CWDAEMON_REQUEST_SIZE_MAX) (sound : before.Sound)
    (reads : Reads world request before after) :
    after.Sound ∧ Keyer.Undisturbed before.keyer after.keyer :=
  reads.preserves (fun _ _ step (held : State.Sound _ ∧ Keyer.Undisturbed before.keyer _) =>
    ⟨held.1.textStep length nulFree step,
      held.2.read (eq_false quiet.uninterrupted ▸ step.keyer held.1.watched)⟩) ⟨sound, .refl _⟩

/-! ## Actions -/

theorem Ready.watched {libcw : Libcw} (ready : Ready libcw) : Watched libcw := by
  obtain ⟨fresh, generator, -, -, watermark⟩ := ready
  intro other opened _
  cases generator.symm.trans opened
  exact watermark

theorem Unready.watched {libcw : Libcw} (unready : Unready libcw) : Watched libcw := by
  intro other opened started
  rcases unready with closed | ⟨audioSystem, fresh⟩
  · cases closed.symm.trans opened
  · cases (show libcw.generator = _ from fresh).symm.trans opened
    cases started

namespace Wellformed

variable {state : State}

theorem receiveText (wellformed : state.Wellformed) (world : World) {request : Bytes} (nulFree : 0 ∉ request)
    (length : request.length ≤ CWDAEMON_REQUEST_SIZE_MAX) : (state.receiveText world request).Wellformed := by
  obtain ⟨after, reads, -, received⟩ := reads_receiveText world request wellformed.idle nulFree
    (Nat.lt_of_le_of_lt length (by decide))
  have sound : after.Sound := reads.preserves (fun _ _ => Sound.textStep length nulFree)
    (wellformed.toSound.withRequestQueue _)
  rw [received]
  exact ⟨sound.clearRequestQueue, rfl⟩

theorem dequeue (wellformed : state.Wellformed) : state.dequeue.Wellformed :=
  ⟨wellformed.toSound.dequeue, (served_dequeue state).requestQueue ▸ wellformed.idle⟩

theorem exitProcess (wellformed : state.Wellformed) (code : Int) : (state.exitProcess code).Wellformed := by
  have accounted : (state.exitProcess code).keyer.Accounted := by
    rw [keyer_exitProcess]
    exact wellformed.accounted.move .exit
  obtain ⟨devices, log, ended⟩ := exitProcess_eq code state
  rw [ended] at accounted ⊢
  exact ⟨⟨.inr ⟨code, rfl⟩, wellformed.short, Unready.watched (.inl rfl), accounted⟩, wellformed.idle⟩

theorem adjusts {after : State} (wellformed : state.Wellformed) (adjusts : Adjusts state after) :
    after.Wellformed := by
  have sound := wellformed.toSound.adjusts adjusts
  obtain ⟨current, change, log, rfl, delay, kept⟩ := adjusts
  exact ⟨sound, wellformed.idle⟩

theorem escReset (wellformed : state.Wellformed) (world : World)
    (accounted : (state.escReset world).keyer.Accounted) : (state.escReset world).Wellformed := by
  obtain ⟨success, libcw, devices, log, equal, ready, unready, -⟩ := escReset_eq world state
  have watched : Watched libcw := (ready_or_unready ready unready).elim Ready.watched Unready.watched
  rw [equal] at accounted ⊢
  exact ⟨⟨wellformed.live, by simp, watched, accounted⟩, rfl⟩

theorem escSoundSystem (wellformed : state.Wellformed) (world : World) (payload : Bytes)
    (accounted : (state.escSoundSystem world payload).keyer.Accounted) :
    (state.escSoundSystem world payload).Wellformed := by
  cases valid : paramsSystem payload with
  | none =>
    simp only [State.escSoundSystem, valid]
    exact wellformed
  | some system =>
    obtain ⟨success, audioSystem, libcw, log, equal, ready, unready⟩ := escSoundSystem_eq world valid state
    have watched : Watched libcw := (ready_or_unready ready unready).elim Ready.watched Unready.watched
    rw [equal] at accounted ⊢
    exact ⟨⟨wellformed.live, wellformed.short, watched, accounted⟩, wellformed.idle⟩

theorem escAbort (wellformed : state.Wellformed) (accounted : state.escAbort.keyer.Accounted) :
    state.escAbort.Wellformed := by
  cases mode : state.wordmode with
  | true =>
    simp only [State.escAbort, mode, if_true]
    exact wellformed
  | false =>
    have watched := wellformed.toSound.cwFlushToneQueue.watched
    obtain ⟨devices, log, equal⟩ := escAbort_eq mode
    rw [equal] at accounted ⊢
    exact ⟨⟨wellformed.live, by simp, watched, accounted⟩, rfl⟩

theorem escCwdevice (wellformed : state.Wellformed) (world : World) (payload : Bytes)
    (accounted : (state.escCwdevice world payload).keyer.Accounted) :
    (state.escCwdevice world payload).Wellformed := by
  rcases escCwdevice_cases world payload state with ⟨-, log, equal⟩ | ⟨-, devices, log, equal, -⟩
  · rw [equal] at accounted ⊢
    exact ⟨⟨wellformed.live, wellformed.short, wellformed.watched, accounted⟩, wellformed.idle⟩
  · rw [equal] at accounted ⊢
    exact ⟨⟨wellformed.live, wellformed.short, wellformed.watched, accounted⟩, wellformed.idle⟩

theorem setPttOn (wellformed : state.Wellformed) : state.setPttOn.Wellformed :=
  ⟨wellformed.toSound.setPttOn, setPttOn_requestQueue state ▸ wellformed.idle⟩

theorem setPttOff (wellformed : state.Wellformed) : state.setPttOff.Wellformed := by
  have sound := wellformed.toSound.setPttOff
  obtain ⟨devices, log, lowered⟩ := setPttOff_eq state
  rw [lowered] at sound ⊢
  exact ⟨sound, wellformed.idle⟩

theorem paramsPttOnOff (wellformed : state.Wellformed) (payload : Bytes) :
    (state.paramsPttOnOff payload).Wellformed := by
  rw [paramsPttOnOff_eq]
  cases getLong payload with
  | none => exact wellformed
  | some lv =>
    simp only
    split
    · have raised := wellformed.setPttOn
      exact ⟨raised.toSound.setPttFlag (by simp) (by simp), raised.idle⟩
    · split
      · split
        · have released : (state.setPttFlag (state.pttFlag.unset .manual)).Wellformed :=
            ⟨wellformed.toSound.setPttFlag (by simp) (by simp), wellformed.idle⟩
          exact released.setPttOff
        · exact ⟨wellformed.toSound.setPttFlag (by simp) (by simp), wellformed.idle⟩
      · exact wellformed

theorem queueTuneTones (wellformed : state.Wellformed) (seconds : Nat) :
    (state.queueTuneTones seconds).Wellformed := by
  induction seconds generalizing state with
  | zero => exact wellformed
  | succ seconds inductionHypothesis =>
    exact inductionHypothesis ⟨wellformed.toSound.cwQueueTone _ _, wellformed.idle⟩

theorem tune (wellformed : state.Wellformed) (world : World) (seconds : Nat) :
    (state.tune world seconds).Wellformed := by
  unfold State.tune
  split
  · have flushed : state.cwFlushToneQueue.Wellformed :=
      ⟨wellformed.toSound.cwFlushToneQueue, wellformed.idle⟩
    have queued := flushed.setPttOn.queueTuneTones seconds
    exact ⟨queued.toSound.cwSendCharacter world _, queued.idle⟩
  · exact wellformed

theorem escTxDelay (wellformed : state.Wellformed) (payload : Bytes)
    (accounted : (state.escTxDelay payload).keyer.Accounted) : (state.escTxDelay payload).Wellformed := by
  simp only [State.escTxDelay] at accounted ⊢
  split at accounted
  case isTrue off =>
    obtain ⟨devices, log, lowered⟩ := setPttOff_eq
      (state.setPttDelayMs (paramsPttdelay state.current.pttDelayMs payload).2)
    rw [if_pos off, lowered]
    rw [lowered] at accounted
    exact ⟨⟨wellformed.live, by simp, wellformed.watched, accounted⟩, wellformed.idle⟩
  case isFalse kept =>
    rw [if_neg kept]
    exact ⟨⟨wellformed.live, wellformed.short, wellformed.watched, accounted⟩, wellformed.idle⟩

theorem escReply (wellformed : state.Wellformed) {payload : Bytes} (nulFree : 0 ∉ payload)
    (short : payload.length < 255) : (state.escReply payload).Wellformed := by
  have sound := wellformed.toSound.prepareReply (reply_nul_free nulFree) short
  obtain ⟨reply, -, prepared⟩ := prepareReply_eq (reply_nul_free nulFree) short state
  rw [State.escReply]
  rw [prepared] at sound ⊢
  exact ⟨sound, wellformed.idle⟩

/-- Every Escape request keeps the invariant.  That PTT stays accounted for comes from
the controller, whatever the request. -/
theorem handleEscRequest (wellformed : state.Wellformed) (world : World) (request : EscRequest)
    {payload : Bytes} (nulFree : 0 ∉ payload) (short : payload.length < 255) :
    (state.handleEscRequest world request payload).Wellformed := by
  have accounted : (state.handleEscRequest world request payload).keyer.Accounted := by
    rw [keyer_handleEscRequest world request payload wellformed.idle]
    exact wellformed.accounted.move _
  -- What is left are the reply buffer, the generator's callback and the request queue.
  cases request with
  | reset => exact wellformed.escReset world accounted
  | abort => exact wellformed.escAbort accounted
  | exit => exact wellformed.exitProcess 0
  | wordMode => exact ⟨⟨wellformed.live, wellformed.short, wellformed.watched, accounted⟩, rfl⟩
  | cwdevice => exact wellformed.escCwdevice world payload accounted
  | pttState => exact wellformed.paramsPttOnOff payload
  | tune =>
    simp only [State.handleEscRequest, escTune]
    split
    · exact wellformed
    · exact wellformed.tune world _
  | txDelay => exact wellformed.escTxDelay payload accounted
  | soundSystem => exact wellformed.escSoundSystem world payload accounted
  | reply => exact wellformed.escReply nulFree short
  | speed | tone | weighting | port | ssbWay | bandSwitch | volume =>
    exact wellformed.adjusts (adjusts_handleEscRequest world payload state (by simp))

end Wellformed

/-! ## Steps and runs -/

variable {state : State}

theorem Wellformed.ready (wellformed : state.Wellformed) (input : Input) :
    (state.ready input).Wellformed := by
  have accounted := ready_keyer input state ▸ wellformed.accounted
  obtain ⟨seconds, addr, log, equal, -⟩ := ready_eq input state
  rw [equal] at accounted ⊢
  exact ⟨⟨wellformed.live, wellformed.short, wellformed.watched, accounted⟩, wellformed.idle⟩

theorem Wellformed.finish (wellformed : state.Wellformed) (world : World) (input : Input) :
    (state.finish world input).Wellformed := by
  have accounted := finish_keyer world input state ▸ wellformed.accounted
  rcases finish_cases world input state with same | ⟨port, log, polled, -⟩
  · rw [same]
    exact wellformed
  · rw [polled] at accounted ⊢
    exact ⟨⟨wellformed.live, wellformed.short, wellformed.watched, accounted⟩, wellformed.idle⟩

theorem keyingevent_eq (on : Bool) (state : State) :
    ∃ seconds log, state.keyingevent on = { state with inactivitySeconds := seconds, log := log } := by
  unfold keyingevent
  split
  · exact ⟨state.inactivitySeconds, state.log, rfl⟩
  · rename_i device _
    obtain ⟨log, keyed⟩ := deviceCw_eq device on state
    exact ⟨0, log, by rw [keyed]; rfl⟩

/-- What a step of the daemon does to the invariant is what its action does. -/
theorem Wellformed.act (wellformed : state.Wellformed) (world : World) (input : Input) :
    (state.act world input.action).Wellformed := by
  cases action : input.action with
  | idle => exact wellformed
  | request request payload =>
    obtain ⟨nulFree, short⟩ := Input.action_payload action
    exact wellformed.handleEscRequest world request nulFree short
  | text request =>
    obtain ⟨nulFree, length⟩ := Input.action_text_bounds action
    exact wellformed.receiveText world nulFree length
  | exit => exact wellformed.exitProcess 1
  | dequeue => exact wellformed.dequeue
  | key on =>
    have accounted : (state.keyingevent on).keyer.Accounted := by
      obtain ⟨seconds, log, keyed⟩ := keyingevent_eq on state
      rw [keyed]
      exact wellformed.accounted
    simp only [State.act]
    obtain ⟨seconds, log, keyed⟩ := keyingevent_eq on state
    rw [keyed] at accounted ⊢
    exact ⟨⟨wellformed.live, wellformed.short, wellformed.watched, accounted⟩, wellformed.idle⟩

theorem Wellformed.step (label : Label) (state : State) (wellformed : state.Wellformed) :
    (state.step label).Wellformed := by
  by_cases running : state.status = .running
  · rw [step_eq label running]
    exact ((wellformed.ready label.input).act label.world label.input).finish label.world label.input
  · rw [step_ended label running]
    exact ⟨⟨wellformed.live, wellformed.short, wellformed.watched, wellformed.accounted⟩, wellformed.idle⟩

end State

end Cwdaemon
