import Cwdaemon.Verified.Calls

/-! # What leaves the parameters of sending alone

A generator is its tone queue and the parameters it plays them with.  Everything the
daemon does about PTT, replies, devices and tones is done without touching a
parameter, its own or libcw's.
-/

namespace Cwdaemon

/-- The generator without the tones in its queue. -/
def Generator.silent (generator : Generator) : Generator := { generator with toneQueue := [] }

namespace State

def tuning (state : State) : Option Generator := state.libcw.generator.map Generator.silent

/-- The parameters, the daemon's and the generator's, are the same after as before. -/
structure SameTuning (before after : State) : Prop where
  current : after.current = before.current
  hasAudioOutput : after.hasAudioOutput = before.hasAudioOutput
  tuning : after.tuning = before.tuning

theorem gap_eq_tuning (state : State) : state.gap = (state.tuning.map Generator.gap).getD 0 := by
  unfold State.gap State.tuning
  cases state.libcw.generator <;> rfl

theorem gap_of_tuning {first second : State} (same : first.tuning = second.tuning) : first.gap = second.gap := by
  rw [gap_eq_tuning, gap_eq_tuning, same]

theorem tuning_isSome (state : State) : state.tuning.isSome = state.libcw.generator.isSome := Option.isSome_map

namespace SameTuning

variable {before after state : State}

theorem refl (state : State) : SameTuning state state := ⟨rfl, rfl, rfl⟩

theorem trans {first second third : State} (earlier : SameTuning first second) (later : SameTuning second third) :
    SameTuning first third :=
  ⟨later.current.trans earlier.current, later.hasAudioOutput.trans earlier.hasAudioOutput,
    later.tuning.trans earlier.tuning⟩

theorem gap (same : SameTuning before after) : after.gap = before.gap := gap_of_tuning same.tuning

theorem opened (same : SameTuning before after) :
    after.libcw.generator.isSome = before.libcw.generator.isSome := by
  rw [← tuning_isSome, ← tuning_isSome, same.tuning]

/-- A libcw call that changes nothing but the tones. -/
theorem callGenerator (call : Call) {change : Generator → Generator} (state : State)
    (kept : ∀ generator, (change generator).silent = generator.silent) :
    SameTuning state (state.callGenerator call change) := by
  refine ⟨rfl, rfl, ?_⟩
  simp only [State.tuning, callGenerator_eq, withLibcw_libcw, Option.map_map]
  congr 1
  exact funext kept

theorem cwQueueTone (usecs : Nat) (frequency : Int) (state : State) :
    SameTuning state (state.cwQueueTone usecs frequency) := callGenerator _ state fun _ => rfl

theorem cwSendCharacter (world : World) (char : UInt8) (state : State) :
    SameTuning state (state.cwSendCharacter world char) := callGenerator _ state fun _ => rfl

theorem cwFlushToneQueue (state : State) : SameTuning state state.cwFlushToneQueue :=
  callGenerator _ state fun _ => rfl

theorem withDevices (devices : DeviceType → Cwdevice) (log : List Entry) (state : State) :
    SameTuning state (state.withDevices devices log) := ⟨rfl, rfl, rfl⟩

theorem setPttOn (state : State) : SameTuning state state.setPttOn := by
  obtain ⟨flag, devices, log, raised⟩ := setPttOn_eq state
  rw [raised]
  exact ⟨rfl, rfl, rfl⟩

theorem setPttOff (state : State) : SameTuning state state.setPttOff := by
  obtain ⟨devices, log, lowered⟩ := setPttOff_eq state
  rw [lowered]
  exact ⟨rfl, rfl, rfl⟩

theorem prepareReply (request : Bytes) (state : State) : SameTuning state (state.prepareReply request) := by
  unfold State.prepareReply
  split <;> exact ⟨rfl, rfl, rfl⟩

theorem answered (state : State) : SameTuning state state.answered := by
  unfold State.answered sendto
  simp only
  split <;> exact ⟨rfl, rfl, rfl⟩

/-! ## libcw's thread -/

theorem toneQueueLowCallback (state : State) : SameTuning state state.toneQueueLowCallback := by
  rw [toneQueueLowCallback_eq]
  split
  · exact setPttOff state
  · split
    · split
      · exact ((answered state).trans (cwQueueTone 1 0 _)).trans (cwQueueTone 1 0 _)
      · exact answered state
    · exact refl state

theorem dequeue (state : State) : SameTuning state state.dequeue := by
  rcases state.dequeue_cases with same | ⟨generator, tone, tones, opened, -, -, dequeued⟩
  · rw [same]
    exact refl state
  · have taken : SameTuning state (state.taken generator tone tones) :=
      ⟨rfl, rfl, by simp [State.tuning, taken, opened, Generator.silent]⟩
    rw [dequeued]
    split
    · exact taken.trans (toneQueueLowCallback _)
    · exact taken

theorem dequeues (count : Nat) (state : State) : SameTuning state (state.dequeues count) := by
  induction count generalizing state with
  | zero => exact refl state
  | succ count inductionHypothesis => exact (dequeue state).trans (inductionHypothesis _)

theorem serve (world : World) (state : State) : SameTuning state (state.serve world) := dequeues _ state

/-! ## Requests -/

theorem queueTuneTones (seconds : Nat) (state : State) : SameTuning state (state.queueTuneTones seconds) := by
  induction seconds generalizing state with
  | zero => exact refl state
  | succ seconds inductionHypothesis => exact (cwQueueTone _ _ state).trans (inductionHypothesis _)

theorem tune (world : World) (seconds : Nat) (state : State) : SameTuning state (state.tune world seconds) := by
  unfold State.tune
  split
  · exact (((cwFlushToneQueue state).trans (setPttOn _)).trans (queueTuneTones seconds _)).trans
      (cwSendCharacter world _ _)
  · exact refl state

theorem paramsPttOnOff (payload : Bytes) (state : State) : SameTuning state (state.paramsPttOnOff payload) := by
  rw [paramsPttOnOff_eq]
  split
  · exact refl state
  · split
    · exact (setPttOn state).trans ⟨rfl, rfl, rfl⟩
    · split
      · split
        · have released : SameTuning state (state.setPttFlag (state.pttFlag.unset .manual)) := ⟨rfl, rfl, rfl⟩
          exact released.trans (setPttOff _)
        · exact ⟨rfl, rfl, rfl⟩
      · exact refl state

theorem escAbort (state : State) : SameTuning state state.escAbort := by
  cases mode : state.wordmode with
  | true =>
    simp only [State.escAbort, mode, if_true]
    exact refl state
  | false =>
    obtain ⟨devices, log, equal⟩ := escAbort_eq mode
    rw [equal]
    have flushed := cwFlushToneQueue state
    exact ⟨rfl, rfl, flushed.tuning⟩

theorem escCwdevice (world : World) (payload : Bytes) (state : State) :
    SameTuning state (state.escCwdevice world payload) := by
  rcases escCwdevice_cases world payload state with ⟨-, log, equal⟩ | ⟨-, devices, log, equal, -⟩
  · rw [equal]
    exact ⟨rfl, rfl, rfl⟩
  · rw [equal]
    exact ⟨rfl, rfl, rfl⟩

theorem escSsbWay (payload : Bytes) (state : State) : SameTuning state (state.escSsbWay payload) := by
  unfold State.escSsbWay
  split
  · exact refl state
  · split <;> exact ⟨rfl, rfl, rfl⟩

theorem escBandSwitch (payload : Bytes) (state : State) : SameTuning state (state.escBandSwitch payload) := by
  simp only [State.escBandSwitch, switchBand]
  split
  · exact refl state
  · split
    · split <;> exact ⟨rfl, rfl, rfl⟩
    · exact refl state

/-! ## The ends of a step -/

theorem ready (input : Input) (state : State) : SameTuning state (state.ready input) := by
  obtain ⟨seconds, addr, log, equal, -⟩ := ready_eq input state
  rw [equal]
  exact ⟨rfl, rfl, rfl⟩

theorem finish (world : World) (input : Input) (state : State) : SameTuning state (state.finish world input) := by
  rcases finish_cases world input state with same | ⟨port, log, polled, -⟩
  · rw [same]
    exact refl state
  · rw [polled]
    exact withDevices _ _ state

theorem keyingevent (on : Bool) (state : State) : SameTuning state (state.keyingevent on) := by
  obtain ⟨seconds, log, keyed⟩ := keyingevent_eq on state
  rw [keyed]
  exact ⟨rfl, rfl, rfl⟩

end SameTuning

/-- The requests that set no parameter, nor replace the generator. -/
theorem sameTuning_handleEscRequest (world : World) {request : EscRequest} (payload : Bytes) (state : State)
    (untuned : request = .abort ∨ request = .wordMode ∨ request = .cwdevice ∨ request = .port ∨
      request = .pttState ∨ request = .ssbWay ∨ request = .tune ∨ request = .bandSwitch ∨ request = .reply) :
    SameTuning state (state.handleEscRequest world request payload) := by
  rcases untuned with rfl | rfl | rfl | rfl | rfl | rfl | rfl | rfl | rfl
  · exact .escAbort state
  · exact ⟨rfl, rfl, rfl⟩
  · exact .escCwdevice world payload state
  · exact .refl state
  · exact .paramsPttOnOff payload state
  · exact .escSsbWay payload state
  · simp only [handleEscRequest, escTune]
    split
    · exact .refl state
    · exact .tune world _ state
  · exact .escBandSwitch payload state
  · exact .prepareReply _ state

/-! ## Setting up an output -/

/-- A new output is set up with these parameters. -/
def configured (params : Params) (state : State) : State :=
  (((((state.cwRegisterToneQueueLowCallback tqLowWatermark).cwSetFrequency params.morseTone).cwSetSendSpeed
    params.morseSpeed).cwSetVolume params.morseVolume).cwSetGap 0).cwSetWeighting (libcwWeighting params.weighting)

theorem resetLibcwOutput_configured (world : World) (state : State) :
    state.resetLibcwOutput world =
      let (opened, state) :=
        state.closeLibcwOutput.openLibcwOutput world state.closeLibcwOutput.defaults.audioSystem
      if opened then (true, state.configured state.defaults) else (false, state) := by
  simp only [resetLibcwOutput, configured, cwRegisterToneQueueLowCallback, cwSetFrequency, cwSetSendSpeed,
    cwSetVolume, cwSetGap, cwSetWeighting, callGenerator_eq, withLibcw_withLibcw, withLibcw_libcw, withLibcw_defaults]

theorem escSoundSystem_configured {payload : Bytes} {system : AudioSystem}
    (valid : paramsSystem payload = some system) (world : World) (state : State) :
    state.escSoundSystem world payload =
      let opened := { state with current := { state.current with audioSystem := system }
        }.closeLibcwOutput.openOrFallBack world
      if opened.hasAudioOutput then
        (opened.configured opened.current).cwRegisterKeyingCallback (some opened.globalCwdevice)
      else opened := by
  simp only [escSoundSystem, valid, configured, cwRegisterToneQueueLowCallback, cwSetFrequency, cwSetSendSpeed,
    cwSetVolume, cwSetGap, cwSetWeighting, callGenerator_eq, withLibcw_withLibcw, withLibcw_libcw,
    withLibcw_current, cwRegisterKeyingCallback_eq, withLibcw_globalCwdevice]

end State

end Cwdaemon
