import Cwdaemon.Daemon.Main

/-! # What the operations on libcw leave alone

One lemma for each composite operation on libcw's output.  It gives the state
afterwards as the state before with the few fields replaced that the operation can
change, so that a proof about any other field rewrites with it and never unfolds the
operation.
-/

namespace Cwdaemon

namespace State

/-! ## Calls -/

/-- The state with another libcw and another log. -/
@[simps] def withLibcw (libcw : Libcw) (log : List Entry) (state : State) : State :=
  { state with libcw := libcw, log := log }

@[simp] theorem withLibcw_withLibcw (first second : Libcw) (before after : List Entry) (state : State) :
    (state.withLibcw first before).withLibcw second after = state.withLibcw second after := rfl

@[simp] theorem callGenerator_eq (call : Call) (change : Generator → Generator) (state : State) :
    state.callGenerator call change =
      state.withLibcw ⟨state.libcw.generator.map change, state.libcw.keyingCallback⟩
        (state.log ++ [⟨call, state.moment⟩]) := rfl

@[simp] theorem cwGeneratorDelete_eq (state : State) :
    state.cwGeneratorDelete = state.withLibcw ⟨none, none⟩ (state.log ++ [⟨.generatorDelete, state.moment⟩]) :=
  rfl

@[simp] theorem cwRegisterKeyingCallback_eq (device : Option DeviceType) (state : State) :
    state.cwRegisterKeyingCallback device =
      state.withLibcw ⟨state.libcw.generator, device⟩
        (state.log ++ [⟨.registerKeyingCallback device, state.moment⟩]) := rfl

attribute [simp] cwSetSendSpeed cwSetFrequency cwSetVolume cwSetGap cwSetWeighting
  cwRegisterToneQueueLowCallback cwFlushToneQueue cwWaitForToneQueue cwQueueTone cwGetGap
  cwGeneratorStop

theorem closeLibcwOutput_eq (state : State) :
    ∃ log, state.closeLibcwOutput = state.withLibcw ⟨none, none⟩ log := by
  simp only [closeLibcwOutput, cwGeneratorStop, callGenerator_eq, cwGeneratorDelete_eq, withLibcw_withLibcw]
  exact ⟨_, rfl⟩

/-! ## Parameters of sending -/

/-- The state changes in nothing but the parameters of sending, the daemon's and the
generator's, and the log. -/
def Adjusts (before after : State) : Prop :=
  ∃ current change log,
    after = { before.withLibcw ⟨before.libcw.generator.map change, before.libcw.keyingCallback⟩ log with
      current := current } ∧
    current.pttDelayMs = before.current.pttDelayMs ∧
    ∀ generator, (change generator).toneQueue = generator.toneQueue ∧
      (change generator).started = generator.started ∧
      (change generator).lowWatermark = generator.lowWatermark

theorem Adjusts.record (call : Call) (state : State) : Adjusts state (state.record call) := by
  refine ⟨state.current, id, state.log ++ [⟨call, state.moment⟩], ?_, rfl, fun _ => ⟨rfl, rfl, rfl⟩⟩
  simp [State.record, withLibcw]

theorem Adjusts.refl (state : State) : Adjusts state state := by
  refine ⟨state.current, id, state.log, ?_, rfl, fun _ => ⟨rfl, rfl, rfl⟩⟩
  simp [withLibcw]

theorem Adjusts.trans {first second third : State} (earlier : Adjusts first second)
    (later : Adjusts second third) : Adjusts first third := by
  obtain ⟨current, change, log, rfl, delay, kept⟩ := earlier
  obtain ⟨current', change', log', rfl, delay', kept'⟩ := later
  refine ⟨current', change' ∘ change, log', ?_, delay'.trans delay, fun generator => ?_⟩
  · simp [withLibcw]
  · obtain ⟨queue, started, watermark⟩ := kept generator
    obtain ⟨queue', started', watermark'⟩ := kept' (change generator)
    exact ⟨queue'.trans queue, started'.trans started, watermark'.trans watermark⟩

theorem Adjusts.setCurrent {current : Params} (state : State)
    (delay : current.pttDelayMs = state.current.pttDelayMs) :
    Adjusts state { state with current := current } := by
  refine ⟨current, id, state.log, ?_, delay, fun _ => ⟨rfl, rfl, rfl⟩⟩
  simp [withLibcw]

theorem Adjusts.callGenerator (call : Call) {change : Generator → Generator} (state : State)
    (kept : ∀ generator, (change generator).toneQueue = generator.toneQueue ∧
      (change generator).started = generator.started ∧
      (change generator).lowWatermark = generator.lowWatermark) :
    Adjusts state (state.callGenerator call change) :=
  ⟨state.current, change, _, rfl, rfl, kept⟩

theorem adjusts_cwSetSendSpeed (wpm : Int) (state : State) : Adjusts state (state.cwSetSendSpeed wpm) :=
  .callGenerator _ state fun _ => ⟨rfl, rfl, rfl⟩

theorem adjusts_cwSetFrequency (frequency : Int) (state : State) : Adjusts state (state.cwSetFrequency frequency) :=
  .callGenerator _ state fun _ => ⟨rfl, rfl, rfl⟩

theorem adjusts_cwSetVolume (volume : Int) (state : State) : Adjusts state (state.cwSetVolume volume) :=
  .callGenerator _ state fun _ => ⟨rfl, rfl, rfl⟩

theorem adjusts_cwSetGap (gap : Int) (state : State) : Adjusts state (state.cwSetGap gap) :=
  .callGenerator _ state fun _ => ⟨rfl, rfl, rfl⟩

theorem adjusts_cwSetWeighting (weighting : Int) (state : State) : Adjusts state (state.cwSetWeighting weighting) :=
  .callGenerator _ state fun _ => ⟨rfl, rfl, rfl⟩

/-- The requests about speed, tone, weighting and volume adjust at most, and those
about the pins of a parallel port and the port are only logged. -/
theorem adjusts_handleEscRequest (world : World) {request : EscRequest} (payload : Bytes) (state : State)
    (adjusting : request = .speed ∨ request = .tone ∨ request = .weighting ∨ request = .port ∨
      request = .ssbWay ∨ request = .bandSwitch ∨ request = .volume) :
    Adjusts state (state.handleEscRequest world request payload) := by
  rcases adjusting with rfl | rfl | rfl | rfl | rfl | rfl | rfl
  · simp only [handleEscRequest, escSpeed]
    split
    · exact .refl state
    · exact (Adjusts.setCurrent _ rfl).trans (adjusts_cwSetSendSpeed _ _)
  · simp only [handleEscRequest, escTone]
    split
    · exact .refl state
    · split
      · exact ((Adjusts.setCurrent _ rfl).trans (adjusts_cwSetFrequency _ _)).trans (adjusts_cwSetVolume _ _)
      · exact (Adjusts.setCurrent _ rfl).trans (adjusts_cwSetVolume _ _)
  · simp only [handleEscRequest, escWeighting]
    split
    · exact .refl state
    · exact (Adjusts.setCurrent _ rfl).trans (adjusts_cwSetWeighting _ _)
  · exact .refl state
  · simp only [handleEscRequest, escSsbWay]
    split
    · exact .refl state
    · split
      · exact .record _ state
      · exact .refl state
      · exact .refl state
  · simp only [handleEscRequest, escBandSwitch, switchBand]
    split
    · exact .refl state
    · split
      · split
        · exact .record _ state
        · exact .refl state
        · exact .refl state
      · exact .refl state
  · simp only [handleEscRequest, escVolume]
    split
    · exact .refl state
    · exact (Adjusts.setCurrent _ rfl).trans (adjusts_cwSetVolume _ _)

/-! ## Opening and closing the output -/

/-- A new generator of the sound system, started or not. -/
def IsNew (audioSystem : AudioSystem) (started : Bool) (generator : Option Generator) : Prop :=
  generator = some { newGenerator audioSystem with started := started }

variable (world : World)

theorem cwGeneratorNew_eq (audioSystem : AudioSystem) (state : State) :
    ∃ success generator log,
      state.cwGeneratorNew world audioSystem =
        (success, state.withLibcw ⟨generator, state.libcw.keyingCallback⟩ log) ∧
      (success = true → IsNew audioSystem false generator) ∧ (success = false → generator = none) := by
  refine ⟨_, _, _, rfl, fun success => ?_, fun failure => ?_⟩
  · simp [IsNew, newGenerator, success]
  · simp [failure]

theorem cwGeneratorStart_eq {audioSystem : AudioSystem} (state : State)
    (fresh : IsNew audioSystem false state.libcw.generator) :
    ∃ success log,
      state.cwGeneratorStart world =
        (success, state.withLibcw
          ⟨some { newGenerator audioSystem with started := success }, state.libcw.keyingCallback⟩ log) ∧
      IsNew audioSystem success (some { newGenerator audioSystem with started := success }) := by
  refine ⟨(state.cwGeneratorStart world).1, (state.cwGeneratorStart world).2.log, ?_, rfl⟩
  simp only [cwGeneratorStart, callGenerator, show state.libcw.generator = _ from fresh, Option.map_some]
  rfl

theorem retryOss_eq (attempts : Nat) (state : State) (closed : state.libcw.generator = none) :
    ∃ success generator log,
      state.retryOss world attempts =
        (success, state.withLibcw ⟨generator, state.libcw.keyingCallback⟩ log) ∧
      (success = true → IsNew .oss false generator) ∧ (success = false → generator = none) := by
  induction attempts generalizing state with
  | zero =>
    refine ⟨false, none, state.log, ?_, nofun, fun _ => rfl⟩
    simp [retryOss, withLibcw, ← closed]
  | succ attempts inductionHypothesis =>
    obtain ⟨success, generator, log, equal, opened, failed⟩ := cwGeneratorNew_eq world .oss state
    simp only [retryOss, equal]
    cases success with
    | true => exact ⟨true, generator, log, rfl, opened, failed⟩
    | false => exact inductionHypothesis (state.withLibcw ⟨generator, _⟩ log) (failed rfl)

/-- Opening the output replaces the generator: by a started one of the sound system
when it succeeds, by none or by one that is not started when it fails. -/
theorem openLibcwOutput_eq (audioSystem : AudioSystem) (state : State) :
    ∃ success generator log,
      state.openLibcwOutput world audioSystem =
        (success, state.withLibcw ⟨generator, state.libcw.keyingCallback⟩ log) ∧
      (success = true → IsNew audioSystem true generator) ∧
      (success = false → generator = none ∨ IsNew audioSystem false generator) := by
  obtain ⟨created, generator, log, equal, opened, failed⟩ := cwGeneratorNew_eq world audioSystem state
  have retried : ∃ success generator' log',
      (if audioSystem = .oss ∧ created = false then
        (state.withLibcw ⟨generator, state.libcw.keyingCallback⟩ log).retryOss world 5
       else (created, state.withLibcw ⟨generator, state.libcw.keyingCallback⟩ log)) =
        (success, state.withLibcw ⟨generator', state.libcw.keyingCallback⟩ log') ∧
      (success = true → IsNew audioSystem false generator') ∧ (success = false → generator' = none) := by
    split
    case isTrue retry =>
      obtain ⟨oss, failure⟩ := retry
      subst oss
      exact retryOss_eq world 5 _ (failed failure)
    case isFalse => exact ⟨created, generator, log, rfl, opened, failed⟩
  obtain ⟨success, generator', log', equal', opened, failed⟩ := retried
  simp only [openLibcwOutput, equal, equal']
  cases success with
  | false => exact ⟨false, generator', log', rfl, Bool.noConfusion, fun _ => .inl (failed rfl)⟩
  | true =>
    obtain ⟨started, startedLog, starts, becomes⟩ := cwGeneratorStart_eq world
      (state.withLibcw ⟨generator', state.libcw.keyingCallback⟩ log') (opened rfl)
    refine ⟨started, _, startedLog, starts, fun success => ?_, fun failure => .inr ?_⟩
    · rw [← success]; exact becomes
    · rw [← failure]; exact becomes

/-- A generator that plays, with nothing queued and the low callback registered. -/
def Ready (libcw : Libcw) : Prop :=
  ∃ fresh, libcw.generator = some fresh ∧ fresh.started = true ∧ fresh.toneQueue = [] ∧
    fresh.lowWatermark = some tqLowWatermark

/-- No generator, or one that was created but could not be started. -/
def Unready (libcw : Libcw) : Prop :=
  libcw.generator = none ∨ ∃ audioSystem, IsNew audioSystem false libcw.generator

theorem Ready.toneQueueLength {libcw : Libcw} (ready : Ready libcw) : libcw.toneQueueLength = 0 := by
  obtain ⟨fresh, generator, -, empty, -⟩ := ready
  simp [Libcw.toneQueueLength, generator, empty]

theorem Unready.toneQueueLength {libcw : Libcw} (unready : Unready libcw) :
    libcw.toneQueueLength = 0 := by
  rcases unready with none | ⟨audioSystem, fresh⟩
  · simp [Libcw.toneQueueLength, none]
  · simp [Libcw.toneQueueLength, show libcw.generator = _ from fresh, newGenerator]

/-- Opening the output leaves libcw ready or unready, whether it succeeds or not. -/
theorem ready_or_unready {success : Bool} {libcw : Libcw} {keyed : Prop}
    (ready : success = true → Ready libcw ∧ keyed) (unready : success = false → Unready libcw) :
    Ready libcw ∨ Unready libcw := by
  cases success with
  | true => exact .inl (ready rfl).1
  | false => exact .inr (unready rfl)

theorem resetLibcwOutput_eq (state : State) :
    ∃ success libcw log,
      state.resetLibcwOutput world = (success, state.withLibcw libcw log) ∧
      (success = true → Ready libcw) ∧ (success = false → Unready libcw) := by
  obtain ⟨closedLog, closed⟩ := state.closeLibcwOutput_eq
  obtain ⟨success, generator, log, equal, opened, failed⟩ :=
    openLibcwOutput_eq world state.defaults.audioSystem (state.withLibcw ⟨none, none⟩ closedLog)
  simp only [resetLibcwOutput, closed, withLibcw_defaults, equal]
  cases success with
  | false => exact ⟨false, ⟨generator, none⟩, log, rfl, nofun, fun _ => (failed rfl).imp id fun fresh => ⟨_, fresh⟩⟩
  | true =>
    have fresh := opened rfl
    simp only [IsNew] at fresh
    subst fresh
    simp only [if_true, cwRegisterToneQueueLowCallback, cwSetFrequency, cwSetSendSpeed, cwSetVolume,
      cwSetGap, cwSetWeighting, callGenerator_eq, withLibcw_withLibcw, withLibcw_libcw, Option.map_some]
    exact ⟨true, _, _, rfl, fun _ => ⟨_, rfl, rfl, rfl, rfl⟩, nofun⟩

/-- A reset of the parameters sets the current ones to the defaults and says in
`has_audio_output` whether libcw is ready; then it keys the current cwdevice. -/
theorem resetAlmostAll_eq (state : State) :
    ∃ success libcw log,
      state.resetAlmostAll world =
        (success, { state.withLibcw libcw log with current := state.defaults, hasAudioOutput := success }) ∧
      (success = true → Ready libcw ∧ libcw.keyingCallback = some state.globalCwdevice) ∧
      (success = false → Unready libcw) := by
  obtain ⟨success, libcw, log, equal, ready, unready⟩ :=
    resetLibcwOutput_eq world { state with current := state.defaults }
  simp only [resetAlmostAll, equal]
  cases success with
  | false => exact ⟨false, libcw, log, rfl, nofun, unready⟩
  | true => exact ⟨true, ⟨libcw.generator, some state.globalCwdevice⟩, _, rfl, fun _ => ⟨ready rfl, rfl⟩, nofun⟩

theorem openOrFallBack_eq (state : State) :
    ∃ success audioSystem libcw log,
      state.openOrFallBack world =
        { state.withLibcw libcw log with
          current := { state.current with audioSystem := audioSystem }, hasAudioOutput := success } ∧
      (success = true → IsNew audioSystem true libcw.generator) ∧ (success = false → Unready libcw) := by
  obtain ⟨first, generator, log, equal, opened, failed⟩ :=
    openLibcwOutput_eq world state.current.audioSystem state
  simp only [openOrFallBack, equal]
  cases first with
  | true => exact ⟨true, state.current.audioSystem, ⟨generator, _⟩, log, rfl, opened, nofun⟩
  | false =>
    obtain ⟨closedLog, closed⟩ := (state.withLibcw ⟨generator, state.libcw.keyingCallback⟩ log).closeLibcwOutput_eq
    obtain ⟨second, generator, log, equal, opened, failed⟩ :=
      openLibcwOutput_eq world .null (state.withLibcw ⟨none, none⟩ closedLog)
    simp only [Bool.false_eq_true, if_false, closed, withLibcw_withLibcw, equal]
    cases second with
    | true => exact ⟨true, .null, ⟨generator, none⟩, log, rfl, opened, nofun⟩
    | false =>
      exact ⟨false, state.current.audioSystem, ⟨generator, none⟩, log, rfl, nofun,
        fun _ => (failed rfl).imp id fun fresh => ⟨_, fresh⟩⟩

/-- A valid SOUND_SYSTEM request replaces the generator; when the new one is ready,
the keying callback is registered for the current cwdevice. -/
theorem escSoundSystem_eq {payload : Bytes} {system : AudioSystem} (valid : paramsSystem payload = some system)
    (state : State) :
    ∃ success audioSystem libcw log,
      state.escSoundSystem world payload =
        { state.withLibcw libcw log with
          current := { state.current with audioSystem := audioSystem }, hasAudioOutput := success } ∧
      (success = true → Ready libcw ∧ libcw.keyingCallback = some state.globalCwdevice) ∧
      (success = false → Unready libcw) := by
  obtain ⟨closedLog, closed⟩ := closeLibcwOutput_eq
    { state with current := { state.current with audioSystem := system } }
  obtain ⟨success, audioSystem, libcw, log, equal, opened, failed⟩ := openOrFallBack_eq world
    (withLibcw ⟨none, none⟩ closedLog { state with current := { state.current with audioSystem := system } })
  simp only [escSoundSystem, valid, closed, equal]
  cases success with
  | false => exact ⟨false, audioSystem, libcw, log, rfl, nofun, failed⟩
  | true =>
    obtain ⟨generator, callback⟩ := libcw
    have fresh := opened rfl
    simp only [IsNew] at fresh
    subst fresh
    generalize changed : ({ withLibcw _ log _ with current := _, hasAudioOutput := true } : State) = opened
    simp only [if_true, cwRegisterToneQueueLowCallback, cwSetFrequency, cwSetSendSpeed, cwSetVolume,
      cwSetGap, cwSetWeighting, callGenerator_eq, withLibcw_withLibcw, withLibcw_libcw,
      cwRegisterKeyingCallback_eq]
    subst changed
    exact ⟨true, audioSystem, ⟨_, some state.globalCwdevice⟩, _, rfl, fun _ => ⟨⟨_, rfl, rfl, rfl, rfl⟩, rfl⟩, nofun⟩

end State

end Cwdaemon
