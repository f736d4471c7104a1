import Cwdaemon.Verified.Keyer
import Cwdaemon.Verified.TextSteps

/-! # The daemon refines the PTT controller

`State.keyer` forgets everything about the daemon but its PTT.  Raising, lowering,
queueing and the callback of libcw are the operations of `Keyer` under this view,
and an Escape request is the move that `State.escMove` says it is.
-/

namespace Cwdaemon

open CString (Buffer)

namespace State

/-- The PTT controller that the daemon is. -/
def keyer (state : State) : Keyer where
  serial := decide (state.globalCwdevice = .ttys)
  line := (state.devices .ttys).pttCommand == some true
  auto := state.pttFlag.has .auto
  manual := state.pttFlag.has .manual
  echo := state.pttFlag.has .echo
  delayed := state.current.pttDelayMs != 0
  text := !state.requestQueue.bytes.isEmpty
  generator := state.libcw.generator.isSome
  tones := state.toneQueueLength

/-! ## Operations -/

@[simp] theorem keyer_withLibcw (libcw : Libcw) (log : List Entry) (state : State) :
    (state.withLibcw libcw log).keyer =
      { state.keyer with generator := libcw.generator.isSome, tones := libcw.toneQueueLength } := rfl

@[simp] theorem keyer_withDevices (devices : DeviceType → Cwdevice) (log : List Entry) (state : State) :
    (state.withDevices devices log).keyer =
      { state.keyer with line := (devices .ttys).pttCommand == some true } := rfl

@[simp] theorem keyer_setPttFlag (flag : PttFlag) (state : State) :
    (state.setPttFlag flag).keyer =
      { state.keyer with auto := flag.has .auto, manual := flag.has .manual, echo := flag.has .echo } := rfl

@[simp] theorem keyer_record (call : Call) (state : State) : (state.record call).keyer = state.keyer := rfl

theorem keyer_devicePtt_current (on : Bool) (state : State) :
    (state.devicePtt state.globalCwdevice on).keyer =
      { state.keyer with
        line := if on then state.keyer.line || state.keyer.serial
          else state.keyer.line && !state.keyer.serial } := by
  obtain ⟨log, turned⟩ := devicePtt_eq state.globalCwdevice on state
  rw [turned, keyer_withDevices]
  cases current : state.globalCwdevice with
  | ttys => cases on <;> simp [keyer, current]
  | lp | null => cases on <;> simp [keyer, current]

theorem keyer_setPttOn (state : State) : state.setPttOn.keyer = state.keyer.raise := by
  unfold setPttOn
  -- The guard of `cwdaemon_set_ptt_on()` is the controller's.
  by_cases raises : state.current.pttDelayMs ≠ 0 ∧ state.pttFlag.has .auto = false
  · have delayed : (state.keyer.delayed && !state.keyer.auto) = true := by
      simp [keyer, raises.1, raises.2]
    have flag : (state.devicePtt state.globalCwdevice true).pttFlag = state.pttFlag := by
      obtain ⟨log, turned⟩ := devicePtt_eq state.globalCwdevice true state
      rw [turned, withDevices_pttFlag]
    rw [if_pos raises, Keyer.raise, if_pos delayed, keyer_setPttFlag, keyer_devicePtt_current, flag]
    simp [keyer]
  · have blocked : ¬ (state.keyer.delayed && !state.keyer.auto) = true := by
      simpa [keyer] using raises
    rw [if_neg raises, Keyer.raise, if_neg blocked]

theorem keyer_setPttOff (state : State) : state.setPttOff.keyer = state.keyer.lower := by
  rw [setPttOff, keyer_setPttFlag, keyer_devicePtt_current, Keyer.lower]
  simp

/-- A libcw call that adds `count` tones to the queue of the generator, if there is one. -/
theorem keyer_callGenerator {call : Call} {change : Generator → Generator} {count : Nat} {state : State}
    (adds : ∀ generator, state.libcw.generator = some generator →
      (change generator).toneQueue.length = generator.toneQueue.length + count) :
    (state.callGenerator call change).keyer = state.keyer.queue count := by
  rw [callGenerator_eq, keyer_withLibcw, Keyer.queue]
  cases opened : state.libcw.generator with
  | none => simp [keyer, toneQueueLength, Libcw.toneQueueLength, opened]
  | some generator => simp [keyer, toneQueueLength, Libcw.toneQueueLength, opened, adds generator opened]

theorem Adjusts.keyer {before after : State} (adjusts : Adjusts before after) : after.keyer = before.keyer := by
  obtain ⟨current, change, log, rfl, delay, kept⟩ := adjusts
  cases opened : before.libcw.generator with
  | none => simp [State.keyer, toneQueueLength, Libcw.toneQueueLength, opened, delay]
  | some generator =>
    simp [State.keyer, toneQueueLength, Libcw.toneQueueLength, opened, delay, (kept generator).1]

theorem keyer_cwQueueTone (usecs : Nat) (frequency : Int) (state : State) :
    (state.cwQueueTone usecs frequency).keyer = state.keyer.queue 1 :=
  keyer_callGenerator fun _ _ => by simp

theorem keyer_cwSendCharacter (world : World) (char : UInt8) (state : State) :
    (state.cwSendCharacter world char).keyer =
      state.keyer.queue ((state.acceptedTones world char).getD []).length :=
  keyer_callGenerator fun _ _ => by simp

theorem keyer_cwFlushToneQueue (state : State) : state.cwFlushToneQueue.keyer = state.keyer.flush := by
  rw [cwFlushToneQueue, callGenerator_eq, keyer_withLibcw, Keyer.flush]
  cases opened : state.libcw.generator with
  | none => simp [keyer, opened, Libcw.toneQueueLength]
  | some generator => simp [keyer, opened, Libcw.toneQueueLength]

/-! ## The low callback and replies -/

@[simp] theorem keyer_sendto (reply : Bytes) (state : State) : (state.sendto reply).keyer = state.keyer := by
  unfold sendto
  split <;> rfl

theorem keyer_prepareReply (request : Bytes) (state : State) :
    (state.prepareReply request).keyer = { state.keyer with echo := true } := by
  unfold prepareReply
  split <;> simp [keyer, record, toneQueueLength]

theorem keyer_answered (state : State) : state.answered.keyer = { state.keyer with echo := false } := by
  rw [answered, keyer_sendto]
  simp [keyer, toneQueueLength]

theorem keyer_toneQueueLowCallback (state : State) : state.toneQueueLowCallback.keyer = state.keyer.low := by
  -- The flag is compared as a whole, which is a test of each reason for PTT.
  have lowers : (state.keyer.auto && !state.keyer.manual && !state.keyer.echo && !state.keyer.text &&
      decide (state.keyer.tones ≤ 1)) = true ↔ state.pttFlag.equals .auto = true ∧
        state.requestQueue.bytes = [] ∧ state.toneQueueLength ≤ tqLowWatermark := by
    rw [PttFlag.equals_auto]
    simp only [Bool.and_eq_true, decide_eq_true_eq, and_assoc]
    simp [keyer, tqLowWatermark]
  have pending : state.keyer.echo = true ↔ state.pttFlag.has .echo = true := Iff.rfl
  have alone : (state.pttFlag.has .auto && !state.pttFlag.has .manual) =
    (state.keyer.auto && !state.keyer.manual) := rfl
  simp only [toneQueueLowCallback_eq, Keyer.low, lowers, pending]
  split
  · exact keyer_setPttOff state
  · split
    · rw [alone]
      split
      · rw [keyer_cwQueueTone, keyer_cwQueueTone, keyer_answered, Keyer.queue_queue]
      · exact keyer_answered state
    · rfl

/-- The generators whose low callback is the daemon's. -/
def Watched (libcw : Libcw) : Prop :=
  ∀ generator, libcw.generator = some generator → generator.started = true →
    generator.lowWatermark = some tqLowWatermark

/-- A tone taken from the queue is a tone drained from the controller; without one
to take nothing happens. -/
theorem keyer_dequeue_eq {generator : Generator} {tone : Tone} {tones : List Tone} {state : State}
    (watched : Watched state.libcw) (opened : state.libcw.generator = some generator)
    (started : generator.started = true) (queued : generator.toneQueue = tone :: tones) :
    state.dequeue.keyer = state.keyer.drain := by
  have before : state.keyer.tones = tones.length + 1 := by
    simp [keyer, toneQueueLength, Libcw.toneQueueLength, opened, queued]
  have after : (state.taken generator tone tones).keyer = { state.keyer with tones := tones.length } := by
    simp [taken, keyer, toneQueueLength, Libcw.toneQueueLength, opened]
  simp only [dequeue_eq opened started queued, crossesLow_iff (watched generator opened started) queued, Keyer.drain,
    before]
  split
  · rw [keyer_toneQueueLowCallback, after]
  · exact after

theorem keyer_dequeue {state : State} (watched : Watched state.libcw) :
    state.dequeue = state ∨ state.dequeue.keyer = state.keyer.drain := by
  rcases state.dequeue_cases with same | ⟨generator, tone, tones, opened, started, queued, -⟩
  · exact .inl same
  · exact .inr (keyer_dequeue_eq watched opened started queued)

/-! ## Texts -/

/-- A step of playing a text, as the controller sees it. -/
theorem TextStep.keyer {world : World} {request : Bytes} {before after : State} (watched : Watched before.libcw)
    (step : TextStep world request before after) :
    Keyer.Read (∃ calls, 0 < world.during calls) before.keyer after.keyer := by
  cases step with
  | drain _ busy interrupted =>
    have text : before.keyer.text = true := by simpa [State.keyer] using busy
    rcases keyer_dequeue watched with same | drained
    · rw [same]
      exact .keep _
    · rw [drained]
      exact .drain _ text interrupted
  | speed speed => exact (Adjusts.setCurrent before rfl).keyer ▸ .keep _
  | sendSpeed wpm => exact (adjusts_cwSetSendSpeed wpm before).keyer ▸ .keep _
  | setGap gap => exact (adjusts_cwSetGap gap before).keyer ▸ .keep _
  | getGap => exact .keep _
  | replace index =>
    have same : ({ before with requestQueue := before.requestQueue.poke index (byte '+') (by decide) } :
        State).keyer = before.keyer := by
      have same : (before.requestQueue.bytes.set index (byte '+')).isEmpty = before.requestQueue.bytes.isEmpty := by
        rw [Bool.eq_iff_iff]
        simp [List.isEmpty_iff, ← List.length_eq_zero_iff]
      simp [State.keyer, toneQueueLength, same]
    rw [same]
    exact .keep _
  | raise =>
    rw [keyer_setPttOn]
    exact .raise _
  | send char held =>
    rw [keyer_cwSendCharacter]
    exact .queue _ _
  | caret front rest split queue =>
    rw [keyer_prepareReply]
    exact .arm _ _

/-! ## Escape requests -/

/-- The tones that a TUNE request of some seconds asks for. -/
def tuneTones (world : World) (seconds : Nat) (state : State) : Nat :=
  seconds + (((state.cwFlushToneQueue.setPttOn.queueTuneTones seconds).acceptedTones world
    (byte 'e')).getD []).length

/-- The move of the controller that an Escape request is. -/
def escMove (world : World) (request : EscRequest) (payload : Bytes) (state : State) : Keyer.Move :=
  match request with
  | .reset => .reset (state.defaults.pttDelayMs != 0) (state.escReset world).libcw.generator.isSome
  | .abort => if state.wordmode then .keep else .abort
  | .exit => .exit
  | .cwdevice =>
    if Refused world payload then .keep else .select (decide (selectedType world payload = .ttys)) world.strdup
  | .pttState =>
    match getLong payload with
    | none => .keep
    | some lv => if lv ≠ 0 then .press else .release
  | .tune =>
    match paramsTune payload with
    | none => .keep
    | some seconds => if 0 < seconds.toNat then .tune (state.tuneTones world seconds.toNat) else .keep
  | .txDelay =>
    let (rv, delayMs) := paramsPttdelay state.current.pttDelayMs payload
    if rv ≠ 0 then .delay (delayMs != 0) else .keep
  | .soundSystem =>
    match paramsSystem payload with
    | none => .keep
    | some _ => .renew (state.escSoundSystem world payload).libcw.generator.isSome
  | .reply => .arm
  | .speed | .tone | .wordMode | .weighting | .port | .ssbWay | .bandSwitch | .volume => .keep

variable {world : World} {payload : Bytes} {state : State}

theorem keyer_clearRequestQueue (idle : state.requestQueue.bytes = []) :
    state.clearRequestQueue.keyer = state.keyer := by
  simp [keyer, toneQueueLength, idle]

theorem keyer_escReset (world : World) (state : State) :
    (state.escReset world).keyer = state.keyer.move
      (.reset (state.defaults.pttDelayMs != 0) (state.escReset world).libcw.generator.isSome) := by
  obtain ⟨success, libcw, devices, log, equal, ready, unready, commands⟩ := escReset_eq world state
  have empty : libcw.toneQueueLength = 0 :=
    (ready_or_unready ready unready).elim Ready.toneQueueLength Unready.toneQueueLength
  have line := commands .ttys
  rw [equal]
  cases current : state.globalCwdevice with
  | ttys | lp | null =>
    simp [keyer, Keyer.move, Keyer.flush, Keyer.lower, toneQueueLength, empty, line, current, freed, afterReset]

@[simp] theorem keyer_broken (state : State) : state.broken.keyer = state.keyer := by
  unfold broken
  split
  · exact keyer_record _ state
  · rfl

theorem broken_pttFlag (state : State) : state.broken.pttFlag = state.pttFlag := by
  unfold broken
  split <;> rfl

theorem keyer_escAbort (character : state.wordmode = false) :
    state.escAbort.keyer = state.keyer.move .abort := by
  have flag : state.pttFlag.bits ≠ 0#8 ↔
      (state.keyer.auto || state.keyer.manual || state.keyer.echo) = true := by
    rw [ne_eq, PttFlag.bits_eq_zero_iff, Bool.not_eq_false]
    rfl
  simp only [escAbort, character, Bool.false_eq_true, if_false, broken_eq]
  have answered := keyer_broken state
  have kept := broken_pttFlag state
  generalize state.broken = sent at answered kept
  have flushed : (sent.clearRequestQueue.cwFlushToneQueue.cwWaitForToneQueue).keyer =
      { state.keyer.flush with text := false } := by
    rw [cwWaitForToneQueue, keyer_record, keyer_cwFlushToneQueue, ← answered]
    simp [keyer, Keyer.flush]
  have pttFlag : (sent.clearRequestQueue.cwFlushToneQueue.cwWaitForToneQueue).pttFlag = state.pttFlag := kept
  simp only [pttFlag, flag, Keyer.move]
  split
  case isTrue =>
    rw [keyer_setPttFlag, keyer_setPttOff, flushed]
    simp [Keyer.lower, Keyer.flush]
  case isFalse quiet =>
    -- There was no PTT to put off, and the flag that is cleared was clear.
    rw [keyer_setPttFlag, flushed]
    simp only [Bool.not_eq_true, Bool.or_eq_false_iff] at quiet
    simp [Keyer.flush, quiet.1.1, quiet.1.2, quiet.2]

theorem keyer_exitProcess (code : Int) (state : State) :
    (state.exitProcess code).keyer = state.keyer.move .exit := by
  obtain ⟨log, closed⟩ := state.closeLibcwOutput_eq
  obtain ⟨devices, freeLog, free, commands⟩ := deviceFree_eq state.globalCwdevice (state.withLibcw ⟨none, none⟩ log)
  have line := commands .ttys
  simp only [exitProcess, closed, withLibcw_globalCwdevice, free]
  cases current : state.globalCwdevice with
  | ttys | lp | null =>
    simp [keyer, Keyer.move, toneQueueLength, Libcw.toneQueueLength, line, current, freed, afterReset]

theorem keyer_escCwdevice (world : World) (payload : Bytes) (state : State) :
    (state.escCwdevice world payload).keyer = state.keyer.move
      (if Refused world payload then .keep else .select (decide (selectedType world payload = .ttys)) world.strdup) := by
  rcases escCwdevice_cases world payload state with ⟨refused, log, equal⟩ | ⟨accepted, devices, log, equal, commands⟩
  · rw [if_pos refused, equal]
    rfl
  · have line := commands .ttys
    rw [if_neg accepted, equal]
    generalize selectedType world payload = type at *
    cases current : state.globalCwdevice with
    | ttys | lp | null =>
      -- Whatever the two devices are, each closed or initialised one has its PTT off.
      cases type with
      | ttys | lp | null =>
        cases stored : world.strdup with
        | true | false =>
          simp [keyer, Keyer.move, toneQueueLength, Libcw.toneQueueLength, line, current, stored, freed, afterReset]

theorem keyer_paramsPttOnOff (payload : Bytes) (state : State) :
    (state.paramsPttOnOff payload).keyer = state.keyer.move
      (match getLong payload with
        | none => .keep
        | some lv => if lv ≠ 0 then .press else .release) := by
  rw [paramsPttOnOff_eq]
  cases getLong payload with
  | none => rfl
  | some lv =>
    by_cases on : lv ≠ 0
    · simp only [if_pos on, Keyer.move, ← keyer_setPttOn]
      simp [keyer, toneQueueLength]
    · have drained : (!state.keyer.text && decide (state.keyer.tones ≤ 1)) = true ↔
          state.requestQueue.bytes = [] ∧ state.toneQueueLength ≤ 1 := by
        rw [Bool.and_eq_true, decide_eq_true_eq]
        simp [keyer]
      have manual : state.keyer.manual = true ↔ state.pttFlag.has .manual = true := Iff.rfl
      simp only [if_neg on, Keyer.move, drained, manual]
      split
      · split
        · rw [keyer_setPttOff]
          simp [Keyer.lower]
        · simp [keyer, toneQueueLength]
      · rfl

theorem keyer_queueTuneTones (seconds : Nat) (state : State) :
    (state.queueTuneTones seconds).keyer = state.keyer.queue seconds := by
  induction seconds generalizing state with
  | zero => simp [queueTuneTones]
  | succ seconds inductionHypothesis =>
    rw [queueTuneTones, inductionHypothesis, keyer_cwQueueTone, Keyer.queue_queue, Nat.add_comm]

theorem keyer_tune (world : World) (seconds : Nat) (state : State) :
    (state.tune world seconds).keyer =
      state.keyer.move (if 0 < seconds then .tune (state.tuneTones world seconds) else .keep) := by
  unfold tune
  split
  · rw [keyer_cwSendCharacter, keyer_queueTuneTones, keyer_setPttOn, keyer_cwFlushToneQueue, Keyer.queue_queue]
    rfl
  · rfl

/-- A delay that is not accepted leaves the one that was set. -/
theorem paramsPttdelay_rejected (delayMs : Nat) (payload : Bytes)
    (rejected : (paramsPttdelay delayMs payload).1 = 0) : (paramsPttdelay delayMs payload).2 = delayMs := by
  revert rejected
  unfold paramsPttdelay
  split
  · exact fun _ => rfl
  · split
    · exact fun accepted => absurd accepted (by decide)
    · split
      · exact fun _ => rfl
      · exact fun accepted => absurd accepted Nat.one_ne_zero

theorem keyer_escTxDelay (payload : Bytes) (state : State) :
    (state.escTxDelay payload).keyer = state.keyer.move
      (let (rv, delayMs) := paramsPttdelay state.current.pttDelayMs payload
       if rv ≠ 0 then .delay (delayMs != 0) else .keep) := by
  have unchanged := paramsPttdelay_rejected state.current.pttDelayMs payload
  simp only [escTxDelay]
  generalize paramsPttdelay state.current.pttDelayMs payload = result at *
  obtain ⟨rv, delayMs⟩ := result
  have delayed : (state.setPttDelayMs delayMs).keyer = { state.keyer with delayed := delayMs != 0 } := by
    simp [keyer, toneQueueLength]
  by_cases rejected : rv = 0
  · have same : delayMs = state.current.pttDelayMs := unchanged rejected
    subst same
    simp [rejected, Keyer.move, delayed]
    simp [keyer]
  · by_cases zero : delayMs = 0
    · -- A delay of zero switches PTT off for good, and any PTT with it.
      subst zero
      have off : (state.setPttDelayMs 0).setPttOff.keyer = { state.keyer.lower with delayed := false } := by
        rw [keyer_setPttOff, delayed]
        rfl
      simpa [rejected, Keyer.move] using off
    · simp [rejected, zero, Keyer.move, delayed]

theorem keyer_escSoundSystem {system : AudioSystem} (valid : paramsSystem payload = some system) :
    (state.escSoundSystem world payload).keyer =
      state.keyer.move (.renew (state.escSoundSystem world payload).libcw.generator.isSome) := by
  obtain ⟨success, audioSystem, libcw, log, equal, ready, unready⟩ := escSoundSystem_eq world valid state
  have empty : libcw.toneQueueLength = 0 :=
    (ready_or_unready ready unready).elim Ready.toneQueueLength Unready.toneQueueLength
  rw [equal]
  simp [keyer, Keyer.move, Keyer.flush, toneQueueLength, empty]

/-- An Escape request, handled with an empty request queue, is a move of the controller. -/
theorem keyer_handleEscRequest (world : World) (request : EscRequest) (payload : Bytes)
    (idle : state.requestQueue.bytes = []) :
    (state.handleEscRequest world request payload).keyer =
      state.keyer.move (state.escMove world request payload) := by
  cases request with
  | reset => exact keyer_escReset world state
  | abort =>
    cases mode : state.wordmode with
    | true => simp [handleEscRequest, escAbort, escMove, mode, Keyer.move]
    | false => simpa [handleEscRequest, escMove, mode] using keyer_escAbort mode
  | exit => exact keyer_exitProcess 0 state
  | cwdevice => exact keyer_escCwdevice world payload state
  | pttState => exact keyer_paramsPttOnOff payload state
  | tune =>
    simp only [handleEscRequest, escTune, escMove]
    cases paramsTune payload with
    | none => rfl
    | some seconds => exact keyer_tune world seconds.toNat state
  | txDelay => exact keyer_escTxDelay payload state
  | soundSystem =>
    simp only [handleEscRequest, escMove]
    cases valid : paramsSystem payload with
    | none => simp only [escSoundSystem, valid, Keyer.move]
    | some system => exact keyer_escSoundSystem valid
  | reply => exact keyer_prepareReply _ state
  | wordMode => exact keyer_clearRequestQueue idle
  | speed | tone | weighting | port | ssbWay | bandSwitch | volume =>
    exact (adjusts_handleEscRequest world payload state (by simp)).keyer

end State

end Cwdaemon
