import Cwdaemon.Verified.Startup

/-! # What holds in every reachable state

The invariant, read as statements about the daemon: a request never finds another
one in the queue, a reply always fits, and the PTT line of the serial port is up only
for a reason.
-/

namespace Cwdaemon

open CString
open State

theorem reachable_run {initial : State} (started : Started initial) (labels : List Label) :
    Reachable (Runs.run State.step labels initial) := ⟨initial, labels, started, rfl⟩

/-! ## The request queue and the reply buffer -/

/-- What a text request finds in a well-formed state: room, and nothing before it. -/
theorem State.Wellformed.append_eq {state : State} (wellformed : state.Wellformed) {input : Input} {request : Bytes}
    (text : input.action = .text request) :
    request.length + state.requestQueue.bytes.length ≤ CWDAEMON_REQUEST_QUEUE_SIZE_MAX - 1 ∧
      (state.requestQueue.append request).bytes = request := by
  obtain ⟨nulFree, length⟩ := Input.action_text_bounds text
  have room : request.length + state.requestQueue.bytes.length ≤ CWDAEMON_REQUEST_QUEUE_SIZE_MAX - 1 := by
    rw [wellformed.idle]
    exact Nat.le_trans length (by decide)
  refine ⟨room, ?_⟩
  have appended := state.requestQueue.append_bytes_of_fits nulFree
    (Nat.lt_of_le_of_lt (Nat.add_comm _ _ ▸ room) (by decide))
  rwa [wellformed.idle, List.nil_append] at appended

/-- No assertion has failed, nothing was written past the reply buffer, and a pending
reply can take its CR LF. -/
def State.RepliesSafely (state : State) : Prop :=
  state.status ≠ .assertionFailed ∧ state.status ≠ .overrun ∧
    (state.pttFlag.has .echo = true →
      state.replyBuffer.bytes.length ≤ 255 ∧
        (state.replyBuffer.append crlf).bytes = state.replyBuffer.bytes ++ crlf)

theorem State.Sound.repliesSafely {state : State} (sound : state.Sound) : state.RepliesSafely := by
  refine ⟨?_, ?_, fun pending => ⟨sound.short pending, completed_bytes (sound.short pending)⟩⟩
  · rcases sound.live with running | ⟨code, exited⟩ <;> simp_all
  · rcases sound.live with running | ⟨code, exited⟩ <;> simp_all

/-- The request queue is empty between two steps, so appending a text request is copying
it; and a reply fits, also at every point of playing a text. -/
theorem request_queue_empty_and_replies_fit {state : State} (reachable : Reachable state) :
    state.requestQueue.bytes = [] ∧ state.RepliesSafely ∧
      ∀ (label : Label) request, label.input.action = .text request →
        (state.ready label.input).requestQueue.bytes = [] ∧
        request.length + (state.ready label.input).requestQueue.bytes.length ≤
          CWDAEMON_REQUEST_QUEUE_SIZE_MAX - 1 ∧
        ((state.ready label.input).requestQueue.append request).bytes = request ∧
        ∀ middle, Reads label.world request
            { state.ready label.input with
              requestQueue := (state.ready label.input).requestQueue.append request } middle →
          middle.RepliesSafely := by
  have wellformed := reachable.wellformed
  refine ⟨wellformed.idle, wellformed.toSound.repliesSafely, fun label request text => ?_⟩
  have ready := wellformed.ready label.input
  obtain ⟨room, appended⟩ := ready.append_eq text
  refine ⟨ready.idle, room, appended, fun middle reads => ?_⟩
  obtain ⟨nulFree, length⟩ := Input.action_text_bounds text
  exact (reads.preserves (fun _ _ => Sound.textStep length nulFree)
    (ready.toSound.withRequestQueue _)).repliesSafely

/-- A daemon with a pending reply. -/
theorem request_queue_empty_and_replies_fit_pending :
    (Runs.run State.step [calm.receivesEscape .reply nullName] onSerialPort).pttFlag.has .echo = true ∧
      (Runs.run State.step [calm.receivesEscape .reply nullName] onSerialPort).replyBuffer.bytes.length ≤ 255 := by
  have pending : (Runs.run State.step [calm.receivesEscape .reply nullName] onSerialPort).pttFlag.has .echo =
      true := by decide +kernel
  have safely := (request_queue_empty_and_replies_fit (reachable_run started_onSerialPort
    [calm.receivesEscape .reply nullName])).2.1
  exact ⟨pending, (safely.2.2 pending).1⟩

/-! ## PTT of the serial port -/

/-- The PTT line of the serial port is up. -/
def State.LineUp (state : State) : Prop := (state.devices .ttys).pttCommand = some true

theorem State.lineUp_iff (state : State) : state.LineUp ↔ state.keyer.line = true := by
  simp [LineUp, keyer]

theorem State.Sound.lineUp {state : State} (sound : state.Sound) (up : state.LineUp) :
    state.globalCwdevice = .ttys ∧ state.pttFlag.has .auto = true ∧ state.current.pttDelayMs ≠ 0 := by
  obtain ⟨serial, auto, delayed⟩ := sound.accounted ((lineUp_iff state).mp up)
  exact ⟨by simpa [keyer] using serial, auto, by simpa [keyer] using delayed⟩

/-- A RESET, and an ABORT in character mode. -/
def ClearsPtt (action : Action) (state : State) : Prop :=
  ∃ payload, action = .request .reset payload ∨ (action = .request .abort payload ∧ state.wordmode = false)

theorem pttFlag_of_clearsPtt {label : Label} {state : State} (running : state.status = .running)
    (clears : ClearsPtt label.input.action state) : (state.step label).pttFlag = .zero := by
  have ready_wordmode : (state.ready label.input).wordmode = state.wordmode := by
    obtain ⟨seconds, addr, log, equal, -⟩ := ready_eq label.input state
    rw [equal]
  have acted : ((state.ready label.input).act label.world label.input.action).pttFlag = .zero := by
    obtain ⟨payload, reset | ⟨abort, character⟩⟩ := clears
    · obtain ⟨success, libcw, devices, log, equal, -⟩ := escReset_eq label.world (state.ready label.input)
      simp only [reset, act, handleEscRequest, equal]
    · obtain ⟨devices, log, equal⟩ := escAbort_eq (ready_wordmode.trans character)
      simp only [abort, act, handleEscRequest, equal]
  rw [step_eq label running]
  rcases finish_cases label.world label.input
    ((state.ready label.input).act label.world label.input.action) with same | ⟨port, log, polled, -⟩
  · rw [same]
    exact acted
  · rw [polled]
    exact acted

/-- In every reachable state a PTT line that is up is accounted for: the serial port is
keyed, in automatic mode, with a PTT delay.  So it is down without a delay, down on a
port that is not in use, and down after RESET and ABORT. -/
theorem ptt_is_accounted_for {state : State} (reachable : Reachable state) :
    (state.LineUp →
      state.globalCwdevice = .ttys ∧ state.pttFlag.has .auto = true ∧ state.current.pttDelayMs ≠ 0) ∧
    (state.current.pttDelayMs = 0 → ¬ state.LineUp) ∧
    (state.globalCwdevice ≠ .ttys → ¬ state.LineUp) ∧
    ∀ label : Label, state.status = .running → ClearsPtt label.input.action state →
      (state.step label).pttFlag = .zero ∧ ¬ (state.step label).LineUp := by
  have accounted := reachable.wellformed.toSound.lineUp
  refine ⟨accounted, fun undelayed up => (accounted up).2.2 undelayed,
    fun elsewhere up => elsewhere (accounted up).1, fun label running clears => ?_⟩
  have cleared := pttFlag_of_clearsPtt running clears
  refine ⟨cleared, fun up => ?_⟩
  -- A line that is up would be in automatic mode, but the flag is cleared.
  have auto := ((reachable.wellformed.step label).toSound.lineUp up).2.1
  rw [cleared] at auto
  simp at auto

/-- A daemon that plays a text with a PTT delay of 9 ms. -/
theorem ptt_is_accounted_for_while_playing :
    (Runs.run State.step [calm.receivesEscape .txDelay [byte '9'], calm.receives [byte 'e']]
      onSerialPort).LineUp ∧
    (Runs.run State.step [calm.receivesEscape .txDelay [byte '9'], calm.receives [byte 'e']]
      onSerialPort).globalCwdevice = .ttys := by
  have up : (Runs.run State.step [calm.receivesEscape .txDelay [byte '9'], calm.receives [byte 'e']]
      onSerialPort).LineUp := by
    unfold State.LineUp
    decide +kernel
  exact ⟨up, ((ptt_is_accounted_for (reachable_run started_onSerialPort _)).1 up).1⟩

end Cwdaemon
