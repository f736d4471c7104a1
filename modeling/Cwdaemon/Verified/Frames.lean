import Cwdaemon.Verified.Cwdevices

/-! # What the operations of the daemon leave alone

The PTT flag, libcw's thread with the low callback, and the Escape requests: each
operation gives the state before with the few fields replaced that it can change.
-/

namespace Cwdaemon

/-! ## PTT flag -/

namespace PttFlag

@[simp] theorem has_zero (mode : PttActive) : zero.has mode = false := by cases mode <;> rfl

@[simp] theorem has_set (flag : PttFlag) (mode tested : PttActive) :
    (flag.set mode).has tested = (decide (mode = tested) || flag.has tested) := by
  simp only [has, set]
  generalize flag.bits = bits
  cases mode <;> cases tested <;> revert bits <;> decide +kernel

@[simp] theorem has_unset (flag : PttFlag) (mode tested : PttActive) :
    (flag.unset mode).has tested = (!decide (mode = tested) && flag.has tested) := by
  simp only [has, unset]
  generalize flag.bits = bits
  cases mode <;> cases tested <;> revert bits <;> decide +kernel

/-- Setting a bit that is set changes nothing. -/
theorem set_of_has (flag : PttFlag) {mode : PttActive} (has : flag.has mode = true) : flag.set mode = flag := by
  apply PttFlag.ext
  simp only [PttFlag.has] at has
  simp only [set]
  generalize flag.bits = bits at has
  cases mode <;> revert bits <;> decide +kernel

/-- With no bit outside the known three, the comparison in the callback is a test of
all three of them. -/
theorem equals_auto (flag : PttFlag) :
    flag.equals .auto = (flag.has .auto && !flag.has .manual && !flag.has .echo) := by
  obtain ⟨bits, known⟩ := flag
  simp only [equals, has]
  revert bits
  decide +kernel

theorem bits_eq_zero_iff (flag : PttFlag) :
    flag.bits = 0#8 ↔ (flag.has .auto || flag.has .manual || flag.has .echo) = false := by
  obtain ⟨bits, known⟩ := flag
  simp only [has]
  revert bits
  decide +kernel

end PttFlag

/-- The guard of the manual PTT off is no guard: `!PTT_ACTIVE_AUTO` is 0. -/
@[simp] theorem logicalNot_auto : logicalNot PttActive.auto.mask = 0#8 := rfl

namespace State

/-! ## Replies and tones -/

theorem sendto_pttFlag (reply : Bytes) (state : State) : (state.sendto reply).pttFlag = state.pttFlag := by
  unfold sendto
  split <;> rfl

/-- The state after the pending reply was sent. -/
def answered (state : State) : State :=
  let state := state.setPttFlag (state.pttFlag.unset .echo)
  let state := { state with replyBuffer := state.replyBuffer.append crlf }
  state.sendto state.replyBuffer.bytes

theorem answered_pttFlag (state : State) : state.answered.pttFlag = state.pttFlag.unset .echo :=
  sendto_pttFlag _ _

/-- The low callback turns off an automatic PTT that nothing else holds, or else
sends the pending reply; in automatic mode it then queues two silent tones. -/
theorem toneQueueLowCallback_eq (state : State) :
    state.toneQueueLowCallback =
      if state.pttFlag.equals .auto ∧ state.requestQueue.bytes = [] ∧ state.toneQueueLength ≤ tqLowWatermark then
        state.setPttOff
      else if state.pttFlag.has .echo then
        if state.pttFlag.has .auto && !state.pttFlag.has .manual then
          (state.answered.cwQueueTone 1 0).cwQueueTone 1 0
        else state.answered
      else state := by
  have alone : state.answered.pttFlag.equals .auto = (state.pttFlag.has .auto && !state.pttFlag.has .manual) := by
    simp [answered_pttFlag, PttFlag.equals_auto]
  rw [← alone]
  rfl

/-- The state after the first tone of a generator was taken. -/
def taken (generator : Generator) (tone : Tone) (tones : List Tone) (state : State) : State :=
  state.withLibcw ⟨some { generator with toneQueue := tones }, state.libcw.keyingCallback⟩
    (state.log ++ [⟨.dequeued tone, state.moment⟩])

/-- A started generator loses the first tone of its queue; the callback follows when the
queue crosses the low level. -/
theorem dequeue_eq {generator : Generator} {tone : Tone} {tones : List Tone} {state : State}
    (opened : state.libcw.generator = some generator) (started : generator.started = true)
    (queued : generator.toneQueue = tone :: tones) :
    state.dequeue = if generator.crossesLow then (state.taken generator tone tones).toneQueueLowCallback
      else state.taken generator tone tones := by
  obtain ⟨audioSystem, running, toneQueue, lowWatermark, sendSpeed, frequency, volume, gap, weighting⟩ := generator
  cases started
  cases queued
  simp only [dequeue, opened]
  rfl

/-- Only a started generator with a tone in its queue loses one. -/
theorem dequeue_cases (state : State) :
    state.dequeue = state ∨
    ∃ generator tone tones, state.libcw.generator = some generator ∧ generator.started = true ∧
      generator.toneQueue = tone :: tones ∧
      state.dequeue = if generator.crossesLow then (state.taken generator tone tones).toneQueueLowCallback
        else state.taken generator tone tones := by
  cases opened : state.libcw.generator with
  | none => exact .inl (by simp only [dequeue, opened])
  | some generator =>
    cases started : generator.started with
    | false => exact .inl (by simp only [dequeue, opened, started])
    | true =>
      cases queued : generator.toneQueue with
      | nil => exact .inl (by simp only [dequeue, opened, started, queued])
      | cons tone tones => exact .inr ⟨generator, tone, tones, rfl, started, queued, dequeue_eq opened started queued⟩

/-- With the daemon's watermark, the callback follows the tone that leaves one in the queue. -/
theorem crossesLow_iff {generator : Generator} {tone : Tone} {tones : List Tone}
    (watermark : generator.lowWatermark = some tqLowWatermark) (queued : generator.toneQueue = tone :: tones) :
    generator.crossesLow = true ↔ tones.length = 1 := by
  simp only [Generator.crossesLow, watermark, queued, tqLowWatermark, List.length_cons]
  grind

theorem setPttOn_eq (state : State) :
    ∃ flag devices log, state.setPttOn = { state.withDevices devices log with pttFlag := flag } := by
  unfold setPttOn
  split
  · obtain ⟨log, turned⟩ := devicePtt_eq state.globalCwdevice true state
    exact ⟨_, _, log, by rw [turned]; rfl⟩
  · exact ⟨state.pttFlag, state.devices, state.log, rfl⟩

theorem setPttOff_eq (state : State) :
    ∃ devices log, state.setPttOff = { state.withDevices devices log with pttFlag := .zero } := by
  obtain ⟨log, turned⟩ := devicePtt_eq state.globalCwdevice false state
  exact ⟨_, log, by rw [setPttOff, turned]; rfl⟩

/-- A PTT request: the guard in front of PTT on repeats the test of
`cwdaemon_set_ptt_on()`, and the one in front of PTT off always holds. -/
theorem paramsPttOnOff_eq (payload : Bytes) (state : State) :
    state.paramsPttOnOff payload =
      match getLong payload with
      | none => state
      | some lv =>
        if lv ≠ 0 then state.setPttOn.setPttFlag (state.setPttOn.pttFlag.set .manual)
        else if state.pttFlag.has .manual then
          if state.requestQueue.bytes = [] ∧ state.toneQueueLength ≤ 1 then
            (state.setPttFlag (state.pttFlag.unset .manual)).setPttOff
          else state.setPttFlag ((state.pttFlag.unset .manual).set .auto)
        else state := by
  -- Without a delay `cwdaemon_set_ptt_on()` does nothing anyway.
  have guarded : (if state.current.pttDelayMs ≠ 0 then state.setPttOn else state) = state.setPttOn := by
    split
    case isTrue => rfl
    case isFalse undelayed =>
      rw [setPttOn, if_neg fun raises => undelayed raises.1]
  unfold paramsPttOnOff
  cases getLong payload with
  | none => rfl
  | some lv =>
    simp only [guarded, logicalNot_auto, BitVec.and_zero, if_true]
    rfl

/-- What libcw's thread can change, in the low callback or before it. -/
def Served (before after : State) : Prop :=
  ∃ flag reply devices generator status log,
    after = { before with
      pttFlag := flag, replyBuffer := reply, devices := devices
      libcw := ⟨generator, before.libcw.keyingCallback⟩, status := status, log := log }

theorem Served.refl (state : State) : Served state state := ⟨_, _, _, _, _, _, rfl⟩

theorem Served.trans {first second third : State} (earlier : Served first second)
    (later : Served second third) : Served first third := by
  obtain ⟨_, _, _, _, _, _, rfl⟩ := earlier
  obtain ⟨_, _, _, _, _, _, rfl⟩ := later
  exact ⟨_, _, _, _, _, _, rfl⟩

theorem served_callGenerator (call : Call) (change : Generator → Generator) (state : State) :
    Served state (state.callGenerator call change) := ⟨_, _, _, _, _, _, rfl⟩

theorem served_sendto (reply : Bytes) (state : State) : Served state (state.sendto reply) := by
  unfold sendto
  split
  · exact ⟨_, _, _, _, _, _, rfl⟩
  · exact ⟨_, _, _, _, _, _, rfl⟩

theorem served_answered (state : State) : Served state state.answered := by
  have unset : Served state { state.setPttFlag (state.pttFlag.unset .echo) with
      replyBuffer := state.replyBuffer.append crlf } := ⟨_, _, _, _, _, _, rfl⟩
  exact unset.trans (served_sendto _ _)

theorem served_toneQueueLowCallback (state : State) : Served state state.toneQueueLowCallback := by
  rw [toneQueueLowCallback_eq]
  split
  · obtain ⟨devices, log, off⟩ := setPttOff_eq state
    exact ⟨_, _, _, _, _, _, off⟩
  · split
    · split
      · exact ((served_answered state).trans (served_callGenerator _ _ _)).trans (served_callGenerator _ _ _)
      · exact served_answered state
    · exact .refl state

theorem served_dequeue (state : State) : Served state state.dequeue := by
  rcases state.dequeue_cases with same | ⟨generator, tone, tones, -, -, -, dequeued⟩
  · rw [same]
    exact .refl state
  · have taken : Served state (state.taken generator tone tones) := ⟨_, _, _, _, _, _, rfl⟩
    rw [dequeued]
    split
    · exact taken.trans (served_toneQueueLowCallback _)
    · exact taken

theorem Served.requestQueue {before after : State} (served : Served before after) :
    after.requestQueue = before.requestQueue := by
  obtain ⟨_, _, _, _, _, _, rfl⟩ := served
  rfl

theorem Served.requestAddr {before after : State} (served : Served before after) :
    after.requestAddr = before.requestAddr := by
  obtain ⟨_, _, _, _, _, _, rfl⟩ := served
  rfl

theorem Served.current {before after : State} (served : Served before after) :
    after.current = before.current := by
  obtain ⟨_, _, _, _, _, _, rfl⟩ := served
  rfl

/-- While a text is being read, libcw's thread never takes an automatic PTT away. -/
theorem dequeue_auto {state : State} (busy : state.requestQueue.bytes ≠ []) :
    state.dequeue.pttFlag.has .auto = state.pttFlag.has .auto := by
  have called (taken : State) (queue : taken.requestQueue.bytes ≠ []) :
      taken.toneQueueLowCallback.pttFlag.has .auto = taken.pttFlag.has .auto := by
    have kept : taken.answered.pttFlag.has .auto = taken.pttFlag.has .auto := by
      simp [answered_pttFlag]
    -- The first branch, which puts PTT off, asks for an empty request queue.
    rw [toneQueueLowCallback_eq, if_neg (by simp [queue])]
    generalize taken.answered = answered at kept
    split
    · split
      · exact kept
      · exact kept
    · rfl
  rcases state.dequeue_cases with same | ⟨generator, tone, tones, -, -, -, dequeued⟩
  · rw [same]
  · rw [dequeued]
    split
    · exact called (state.taken generator tone tones) busy
    · rfl

/-- The state after the client that waits for a reply, if any, was told that there will
be none. -/
def broken (state : State) : State :=
  if state.pttFlag.has .echo then state.record (.sendto state.replyAddr breakReply) else state

theorem broken_eq (state : State) :
    (if state.pttFlag.has .echo then state.sendto breakReply else state) = state.broken := by
  have complete : crlf <:+ breakReply := by decide
  simp only [sendto, if_pos complete, broken]

/-- An ABORT in character mode answers a waiting client, empties both queues and, if
there is any PTT, turns it off. -/
theorem escAbort_eq {state : State} (character : state.wordmode = false) :
    ∃ devices log,
      state.escAbort = { state.withDevices devices log with
        pttFlag := .zero, requestQueue := state.requestQueue.clear, libcw := state.cwFlushToneQueue.libcw } := by
  -- The answer, the flush and PTT off, one after the other; what they log is left open.
  have told : ∃ log, state.broken = state.withDevices state.devices log := by
    unfold broken
    split
    · exact ⟨_, rfl⟩
    · exact ⟨state.log, rfl⟩
  obtain ⟨log, equal⟩ := told
  have emptied : ∃ log', (state.withDevices state.devices log).clearRequestQueue.cwFlushToneQueue.cwWaitForToneQueue =
      { state.withDevices state.devices log' with
        requestQueue := state.requestQueue.clear, libcw := state.cwFlushToneQueue.libcw } := ⟨_, rfl⟩
  obtain ⟨log', equal'⟩ := emptied
  obtain ⟨devices, log'', off⟩ := setPttOff_eq { state.withDevices state.devices log' with
    requestQueue := state.requestQueue.clear, libcw := state.cwFlushToneQueue.libcw }
  simp only [escAbort, character, Bool.false_eq_true, if_false, broken_eq, equal, equal', off]
  split
  · exact ⟨devices, log'', rfl⟩
  · exact ⟨state.devices, log', rfl⟩

/-! ## Escape requests -/

/-- What an Escape request can change that neither replaces the output or the device nor
prepares a reply. -/
def Kept (before after : State) : Prop :=
  ∃ current flag queue devices generator wordmode log,
    after = { before with
      current := current, pttFlag := flag, requestQueue := queue, devices := devices
      libcw := ⟨generator, before.libcw.keyingCallback⟩, wordmode := wordmode, log := log }

namespace Kept

variable {before after : State}

theorem refl (state : State) : Kept state state := ⟨_, _, _, _, _, _, _, rfl⟩

theorem trans {first second third : State} (earlier : Kept first second) (later : Kept second third) :
    Kept first third := by
  obtain ⟨_, _, _, _, _, _, _, rfl⟩ := earlier
  obtain ⟨_, _, _, _, _, _, _, rfl⟩ := later
  exact ⟨_, _, _, _, _, _, _, rfl⟩

theorem status (kept : Kept before after) : after.status = before.status := by
  obtain ⟨_, _, _, _, _, _, _, rfl⟩ := kept
  rfl

theorem adjusts (adjusts : Adjusts before after) : Kept before after := by
  obtain ⟨_, _, _, rfl, _⟩ := adjusts
  exact ⟨_, _, _, _, _, _, _, rfl⟩

theorem setPttOn (state : State) : Kept state state.setPttOn := by
  obtain ⟨flag, devices, log, raised⟩ := setPttOn_eq state
  rw [raised]
  exact ⟨_, _, _, _, _, _, _, rfl⟩

theorem setPttOff (state : State) : Kept state state.setPttOff := by
  obtain ⟨devices, log, lowered⟩ := setPttOff_eq state
  rw [lowered]
  exact ⟨_, _, _, _, _, _, _, rfl⟩

theorem callGenerator (call : Call) (change : Generator → Generator) (state : State) :
    Kept state (state.callGenerator call change) := ⟨_, _, _, _, _, _, _, rfl⟩

theorem queueTuneTones (seconds : Nat) (state : State) : Kept state (state.queueTuneTones seconds) := by
  induction seconds generalizing state with
  | zero => exact refl state
  | succ seconds inductionHypothesis => exact (callGenerator _ _ state).trans (inductionHypothesis _)

theorem tune (world : World) (seconds : Nat) (state : State) : Kept state (state.tune world seconds) := by
  unfold State.tune
  split
  · exact (((callGenerator _ _ state).trans (setPttOn _)).trans (queueTuneTones seconds _)).trans
      (callGenerator _ _ _)
  · exact refl state

theorem paramsPttOnOff (payload : Bytes) (state : State) : Kept state (state.paramsPttOnOff payload) := by
  rw [paramsPttOnOff_eq]
  split
  · exact refl state
  · split
    · exact (setPttOn state).trans ⟨_, _, _, _, _, _, _, rfl⟩
    · split
      · split
        · have released : Kept state (state.setPttFlag (state.pttFlag.unset .manual)) :=
            ⟨_, _, _, _, _, _, _, rfl⟩
          exact released.trans (setPttOff _)
        · exact ⟨_, _, _, _, _, _, _, rfl⟩
      · exact refl state

theorem escTxDelay (payload : Bytes) (state : State) : Kept state (state.escTxDelay payload) := by
  have delayed (delayMs : Nat) : Kept state (state.setPttDelayMs delayMs) := ⟨_, _, _, _, _, _, _, rfl⟩
  simp only [State.escTxDelay]
  split
  · exact (delayed _).trans (setPttOff _)
  · exact delayed _

theorem escAbort (state : State) : Kept state state.escAbort := by
  cases mode : state.wordmode with
  | true =>
    simp only [State.escAbort, mode, if_true]
    exact refl state
  | false =>
    obtain ⟨devices, log, equal⟩ := escAbort_eq mode
    rw [equal]
    exact ⟨_, _, _, _, _, _, _, rfl⟩

end Kept

/-- Only four Escape requests replace the output or the device, or end the daemon, and
only one prepares a reply. -/
theorem kept_handleEscRequest (world : World) {request : EscRequest} (payload : Bytes) (state : State)
    (staying : request ≠ .reset ∧ request ≠ .exit ∧ request ≠ .cwdevice ∧ request ≠ .soundSystem)
    (silent : request ≠ .reply) : Kept state (state.handleEscRequest world request payload) := by
  cases request with
  | reset => exact absurd rfl staying.1
  | exit => exact absurd rfl staying.2.1
  | cwdevice => exact absurd rfl staying.2.2.1
  | soundSystem => exact absurd rfl staying.2.2.2
  | reply => exact absurd rfl silent
  | abort => exact .escAbort state
  | wordMode => exact ⟨_, _, _, _, _, _, _, rfl⟩
  | pttState => exact .paramsPttOnOff payload state
  | tune =>
    simp only [handleEscRequest, escTune]
    split
    · exact .refl state
    · exact .tune world _ state
  | txDelay => exact .escTxDelay payload state
  | speed | tone | weighting | port | ssbWay | bandSwitch | volume =>
    exact .adjusts (adjusts_handleEscRequest world payload state (by simp))

/-- What any Escape request can change that does not prepare a reply. -/
def Handled (before after : State) : Prop :=
  ∃ current hasAudioOutput wordmode flag queue globalCwdevice devices libcw status log,
    after = { before with
      current := current, hasAudioOutput := hasAudioOutput, wordmode := wordmode, pttFlag := flag
      requestQueue := queue, globalCwdevice := globalCwdevice, devices := devices, libcw := libcw
      status := status, log := log }

theorem Kept.handled {before after : State} (kept : Kept before after) : Handled before after := by
  obtain ⟨_, _, _, _, _, _, _, rfl⟩ := kept
  exact ⟨_, _, _, _, _, _, _, _, _, _, rfl⟩

theorem exitProcess_eq (code : Int) (state : State) :
    ∃ devices log, state.exitProcess code =
      { state.withDevices devices log with libcw := ⟨none, none⟩, status := .exited code } := by
  obtain ⟨log, closed⟩ := state.closeLibcwOutput_eq
  obtain ⟨devices, freeLog, free, -⟩ := deviceFree_eq state.globalCwdevice (state.withLibcw ⟨none, none⟩ log)
  simp only [exitProcess, closed, withLibcw_globalCwdevice, free]
  exact ⟨devices, freeLog, rfl⟩

theorem handled_handleEscRequest (world : World) {request : EscRequest} (payload : Bytes) (state : State)
    (silent : request ≠ .reply) : Handled state (state.handleEscRequest world request payload) := by
  by_cases staying : request ≠ .reset ∧ request ≠ .exit ∧ request ≠ .cwdevice ∧ request ≠ .soundSystem
  · exact (kept_handleEscRequest world payload state staying silent).handled
  cases request with
  | reset =>
    obtain ⟨success, libcw, devices, log, equal, -⟩ := escReset_eq world state
    exact ⟨_, _, _, _, _, _, _, _, _, _, equal⟩
  | exit =>
    obtain ⟨devices, log, ended⟩ := exitProcess_eq 0 state
    exact ⟨_, _, _, _, _, _, _, _, _, _, ended⟩
  | cwdevice =>
    rcases escCwdevice_cases world payload state with ⟨-, log, equal⟩ | ⟨-, devices, log, equal, -⟩
    · exact ⟨_, _, _, _, _, _, _, _, _, _, equal⟩
    · exact ⟨_, _, _, _, _, _, _, _, _, _, equal⟩
  | soundSystem =>
    simp only [handleEscRequest]
    cases valid : paramsSystem payload with
    | none =>
      simp only [escSoundSystem, valid]
      exact (Kept.refl state).handled
    | some system =>
      obtain ⟨success, audioSystem, libcw, log, equal, -⟩ := escSoundSystem_eq world valid state
      exact ⟨_, _, _, _, _, _, _, _, _, _, equal⟩
  | speed | tone | abort | wordMode | weighting | port | pttState | ssbWay | tune | txDelay | bandSwitch
  | volume | reply => exact absurd (by simp) staying

end State

end Cwdaemon
