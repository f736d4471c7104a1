import Cwdaemon.Verified.TextProgram

/-! # Parameters in range, libcw in step

Whatever sets a parameter has checked or clamped it before, so the parameters stay in
the ranges of libcw.  The generator plays with the current ones: they are given to it
one by one as they change, and all together when it is replaced.
-/

namespace Cwdaemon

open CString

/-! ## Ranges -/

structure Params.InRange (params : Params) : Prop where
  morseSpeed : CW_SPEED_MIN ≤ params.morseSpeed ∧ params.morseSpeed ≤ CW_SPEED_MAX
  morseTone : CW_FREQUENCY_MIN ≤ params.morseTone ∧ params.morseTone ≤ CW_FREQUENCY_MAX
  morseVolume : CW_VOLUME_MIN ≤ params.morseVolume ∧ params.morseVolume ≤ CW_VOLUME_MAX
  weighting : CWDAEMON_MORSE_WEIGHTING_MIN ≤ params.weighting ∧ params.weighting ≤ CWDAEMON_MORSE_WEIGHTING_MAX
  pttDelayMs : CWDAEMON_PTT_DELAY_MIN ≤ params.pttDelayMs ∧ params.pttDelayMs ≤ CWDAEMON_PTT_DELAY_MAX

/-- A number that is accepted is in the range it was checked against. -/
theorem paramsInRange_bounds {min max value : Int} {optarg : Bytes}
    (accepted : paramsInRange min max optarg = some value) : min ≤ value ∧ value ≤ max := by
  unfold paramsInRange at accepted
  split at accepted
  · cases accepted
  · split at accepted
    · cases accepted
    · cases accepted
      omega

/-- A delay that is refused stays as it was, and one that is too long is clipped. -/
theorem paramsPttdelay_bounds {delayMs : Nat} (optarg : Bytes) (bounded : delayMs ≤ CWDAEMON_PTT_DELAY_MAX) :
    CWDAEMON_PTT_DELAY_MIN ≤ (paramsPttdelay delayMs optarg).2 ∧
      (paramsPttdelay delayMs optarg).2 ≤ CWDAEMON_PTT_DELAY_MAX := by
  have known : CWDAEMON_PTT_DELAY_MIN ≤ delayMs ∧ delayMs ≤ CWDAEMON_PTT_DELAY_MAX :=
    ⟨Int.natCast_nonneg delayMs, bounded⟩
  unfold paramsPttdelay
  split
  · exact known
  · split
    · decide
    · split
      · exact known
      · simp only [CWDAEMON_PTT_DELAY_MAX, CWDAEMON_PTT_DELAY_MIN] at *
        omega

theorem clampSpeed_bounds (speed : Int) : CW_SPEED_MIN ≤ clampSpeed speed ∧ clampSpeed speed ≤ CW_SPEED_MAX := by
  simp only [clampSpeed, CW_SPEED_MIN, CW_SPEED_MAX]
  omega

theorem inRange_defaultParams : defaultParams.InRange := by
  constructor <;> decide

/-! ## The command line -/

/-- The default values after a command line option. -/
def Arg.sets (arg : Arg) (defaults : Params) : Params :=
  match arg with
  | .wpm value => (paramsWpm value).elim defaults ({ defaults with morseSpeed := · })
  | .pttdelay value => { defaults with pttDelayMs := (paramsPttdelay defaults.pttDelayMs value).2 }
  | .volume value => (paramsVolume value).elim defaults ({ defaults with morseVolume := · })
  | .weighting value => (paramsWeighting value).elim defaults ({ defaults with weighting := · })
  | .tone value => (paramsTone value).elim defaults ({ defaults with morseTone := · })
  | .system value => (paramsSystem value).elim defaults ({ defaults with audioSystem := · })
  | .cwdevice _ | .options _ | .port _ | .priority _ => defaults

/-- The default values that a command line fixes. -/
def defaultsOf (args : List Arg) : Params := args.foldl (fun defaults arg => arg.sets defaults) defaultParams

theorem Arg.sets_inRange (arg : Arg) {defaults : Params} (inRange : defaults.InRange) :
    (arg.sets defaults).InRange := by
  cases arg with
  | wpm value =>
    cases accepted : paramsWpm value with
    | none => simpa [sets, accepted] using inRange
    | some wpm =>
      simp only [sets, accepted]
      exact { inRange with morseSpeed := paramsInRange_bounds accepted }
  | pttdelay value => exact { inRange with pttDelayMs := paramsPttdelay_bounds value inRange.pttDelayMs.2 }
  | volume value =>
    cases accepted : paramsVolume value with
    | none => simpa [sets, accepted] using inRange
    | some volume =>
      simp only [sets, accepted]
      exact { inRange with morseVolume := paramsInRange_bounds accepted }
  | weighting value =>
    cases accepted : paramsWeighting value with
    | none => simpa [sets, accepted] using inRange
    | some weighting =>
      simp only [sets, accepted]
      exact { inRange with weighting := paramsInRange_bounds accepted }
  | tone value =>
    cases accepted : paramsTone value with
    | none => simpa [sets, accepted] using inRange
    | some tone =>
      simp only [sets, accepted]
      exact { inRange with morseTone := paramsInRange_bounds accepted }
  | system value =>
    cases accepted : paramsSystem value with
    | none => simpa [sets, accepted] using inRange
    | some system =>
      simp only [sets, accepted]
      exact { inRange with }
  | cwdevice | options | port | priority => exact inRange

theorem defaultsOf_inRange (args : List Arg) : (defaultsOf args).InRange := by
  unfold defaultsOf
  generalize defaults : defaultParams = start
  have inRange : start.InRange := defaults ▸ inRange_defaultParams
  clear defaults
  induction args generalizing start with
  | nil => exact inRange
  | cons arg args inductionHypothesis => exact inductionHypothesis _ (arg.sets_inRange inRange)

namespace State

theorem ttysOptparse_defaults {option : Bytes} {state after : State} (parsed : state.ttysOptparse option = some after) :
    after.defaults = state.defaults := by
  obtain ⟨lines, -, rfl | rfl⟩ := ttysOptparse_cases parsed
  · exact (deviceCw_eq .ttys false _).elim fun log keyed => by rw [keyed]; rfl
  · exact (devicePtt_eq .ttys false _).elim fun log lowered => by rw [lowered]; rfl

theorem argsProcess_defaults {world : World} {arg : Arg} {state after : State}
    (processed : state.argsProcess world arg = some after) : after.defaults = arg.sets state.defaults := by
  rcases argsProcess_cases processed with ⟨name, rfl, selected⟩ | ⟨option, rfl, -, parsed⟩ | ⟨device, option, -⟩
  · obtain ⟨devices, log, rfl, -⟩ := optionCwdevice_selected selected
    rfl
  · exact ttysOptparse_defaults parsed
  · cases arg with
    | cwdevice name => exact absurd rfl (device name)
    | options value => exact absurd rfl (option value)
    | pttdelay value =>
      simp only [argsProcess] at processed
      split at processed
      · cases processed
        rfl
      · cases processed
    | port value | priority value | wpm value | volume value | weighting value | tone value | system value =>
      obtain ⟨number, accepted, rfl⟩ := Option.map_eq_some_iff.mp processed
      simp [Arg.sets, accepted, setDefaults]

theorem argsProcessAll_defaults {args : List (World × Arg)} {state after : State}
    (processed : argsProcessAll args state = some after) :
    after.defaults = (args.map Prod.snd).foldl (fun defaults arg => arg.sets defaults) state.defaults := by
  induction args generalizing state with
  | nil =>
    cases processed
    rfl
  | cons arg args inductionHypothesis =>
    obtain ⟨next, first, rest⟩ := Option.bind_eq_some_iff.mp processed
    rw [inductionHypothesis rest, argsProcess_defaults first]
    rfl

end State

/-! ## libcw in step -/

/-- A generator that plays with these parameters.  A tone of 0 leaves the frequency as
it was and is played with a volume of 0. -/
structure Generator.InStep (params : Params) (generator : Generator) : Prop where
  audioSystem : generator.audioSystem = params.audioSystem
  started : generator.started = true
  lowWatermark : generator.lowWatermark = some tqLowWatermark
  sendSpeed : generator.sendSpeed = params.morseSpeed
  weighting : generator.weighting = libcwWeighting params.weighting
  frequency : params.morseTone ≠ 0 → generator.frequency = params.morseTone
  volume : params.morseTone ≠ 0 → generator.volume = params.morseVolume

/-- A new generator that is set up with these parameters. -/
def freshGenerator (params : Params) : Generator where
  audioSystem := params.audioSystem
  started := true
  toneQueue := []
  lowWatermark := some tqLowWatermark
  sendSpeed := params.morseSpeed
  frequency := params.morseTone
  volume := params.morseVolume
  gap := 0
  weighting := libcwWeighting params.weighting

theorem inStep_freshGenerator (params : Params) : (freshGenerator params).InStep params :=
  ⟨rfl, rfl, rfl, rfl, rfl, fun _ => rfl, fun _ => rfl⟩

namespace State

/-- The parameters of a running daemon and of its generator. -/
structure Tuned (state : State) : Prop where
  inRange : state.current.InRange
  gap : state.gap = 0 ∨ state.gap = 2
  audible : state.hasAudioOutput = true → ∃ generator, state.tuning = some generator ∧ generator.InStep state.current
  silent : state.hasAudioOutput = false → ∀ generator ∈ state.tuning, generator.started = false

variable {state before after : State}

theorem Tuned.same (tuned : before.Tuned) (same : SameTuning before after) : after.Tuned where
  inRange := same.current ▸ tuned.inRange
  gap := same.gap ▸ tuned.gap
  audible output := by
    rw [same.tuning, same.current]
    exact tuned.audible (same.hasAudioOutput ▸ output)
  silent output := by
    rw [same.tuning]
    exact tuned.silent (same.hasAudioOutput ▸ output)

/-- The parameters are changed, and the generator with them. -/
theorem Tuned.change (tuned : before.Tuned) (change : Generator → Generator) (inRange : after.current.InRange)
    (output : after.hasAudioOutput = before.hasAudioOutput) (tuning : after.tuning = before.tuning.map change)
    (inStep : ∀ generator, generator.InStep before.current → (change generator).InStep after.current)
    (started : ∀ generator, (change generator).started = generator.started)
    (gap : ∀ generator, (change generator).gap = generator.gap ∨ (change generator).gap = 0 ∨
      (change generator).gap = 2) : after.Tuned where
  inRange := inRange
  gap := by
    have level := tuned.gap
    rw [gap_eq_tuning] at level ⊢
    rw [tuning]
    cases opened : before.tuning with
    | none => exact .inl rfl
    | some generator =>
      simp only [opened, Option.map_some, Option.getD_some] at level ⊢
      rcases gap generator with kept | set
      · rw [kept]
        exact level
      · exact set
  audible available := by
    obtain ⟨generator, opened, plays⟩ := tuned.audible (output ▸ available)
    exact ⟨change generator, by rw [tuning, opened, Option.map_some], inStep generator plays⟩
  silent unavailable := by
    intro generator opened
    rw [tuning] at opened
    obtain ⟨generator, opened', rfl⟩ := Option.map_eq_some_iff.mp opened
    rw [started]
    exact tuned.silent (output ▸ unavailable) generator opened'

/-! ## A new generator -/

theorem configured_eq (params : Params) (state : State)
    (opened : IsNew params.audioSystem true state.libcw.generator) :
    ∃ log, state.configured params =
      state.withLibcw ⟨some (freshGenerator params), state.libcw.keyingCallback⟩ log := by
  simp only [IsNew] at opened
  simp only [configured, cwRegisterToneQueueLowCallback, cwSetFrequency, cwSetSendSpeed, cwSetVolume, cwSetGap,
    cwSetWeighting, callGenerator_eq, withLibcw_withLibcw, withLibcw_libcw, opened, Option.map_some]
  exact ⟨_, rfl⟩

/-- A reset that succeeds leaves a new generator, set up with the defaults, and keys the
current cwdevice. -/
theorem resetAlmostAll_fresh (world : World) {state : State} (success : (state.resetAlmostAll world).1 = true) :
    (state.resetAlmostAll world).2.libcw = ⟨some (freshGenerator state.defaults), some state.globalCwdevice⟩ := by
  obtain ⟨closedLog, closed⟩ := closeLibcwOutput_eq { state with current := state.defaults }
  obtain ⟨opens, generator, log, equal, opened, -⟩ := openLibcwOutput_eq world state.defaults.audioSystem
    (withLibcw ⟨none, none⟩ closedLog { state with current := state.defaults })
  simp only [resetAlmostAll, resetLibcwOutput_configured, closed, withLibcw_defaults, equal] at success ⊢
  cases opens with
  | false => exact absurd success (by simp)
  | true =>
    obtain ⟨configuredLog, set⟩ := configured_eq state.defaults (withLibcw ⟨generator, none⟩ log
      (withLibcw ⟨none, none⟩ closedLog { state with current := state.defaults })) (opened rfl)
    simp only [if_true, cwRegisterKeyingCallback_eq, withLibcw_libcw, set]
    rfl

/-- So does a SOUND_SYSTEM request that finds an output, with the current parameters. -/
theorem escSoundSystem_fresh (world : World) {payload : Bytes} {system : AudioSystem}
    (valid : paramsSystem payload = some system) (state : State) (success : (state.escSoundSystem world payload).hasAudioOutput = true) :
    (state.escSoundSystem world payload).libcw.generator =
      some (freshGenerator (state.escSoundSystem world payload).current) := by
  obtain ⟨opens, audioSystem, libcw, log, equal, opened, -⟩ := openOrFallBack_eq world
    { state with current := { state.current with audioSystem := system } }.closeLibcwOutput
  rw [escSoundSystem_configured valid] at success ⊢
  generalize State.openOrFallBack world _ = ready at *
  have output : ready.hasAudioOutput = true := by
    by_contra unavailable
    simp [unavailable] at success
  obtain ⟨log, set⟩ := configured_eq ready.current ready (by subst equal; exact opened output)
  simp only [output, if_true, set, cwRegisterKeyingCallback_eq, withLibcw_libcw, withLibcw_current]

theorem escReset_resetAlmostAll (world : World) (state : State) :
    ∃ devices log, state.escReset world =
      { (state.clearRequestQueue.resetAlmostAll world).2.withDevices devices log with
        wordmode := false, pttFlag := .zero } := by
  simp only [escReset]
  generalize (state.clearRequestQueue.resetAlmostAll world).2 = reset
  obtain ⟨log, pins⟩ := deviceResetPinsState_eq reset.globalCwdevice { reset with wordmode := false }
  exact ⟨_, log, congrArg (setPttFlag .zero) pins⟩

/-! ## Requests -/

theorem Tuned.unready (inRange : after.current.InRange) (output : after.hasAudioOutput = false)
    (unready : Unready after.libcw) : after.Tuned := by
  have quiet : ∀ generator, after.libcw.generator = some generator → generator.started = false ∧ generator.gap = 0 := by
    intro generator opened
    rcases unready with none | ⟨audioSystem, fresh⟩
    · rw [none] at opened
      cases opened
    · rw [show after.libcw.generator = _ from fresh] at opened
      cases opened
      exact ⟨rfl, rfl⟩
  refine ⟨inRange, .inl ?_, fun available => ?_, fun _ generator opened => ?_⟩
  · unfold State.gap
    split
    · rfl
    · exact (quiet _ (by assumption)).2
  · rw [output] at available
    cases available
  · obtain ⟨loud, opened', rfl⟩ := Option.map_eq_some_iff.mp opened
    exact (quiet loud opened').1

theorem Tuned.fresh (inRange : after.current.InRange) (output : after.hasAudioOutput = true)
    (fresh : after.libcw.generator = some (freshGenerator after.current)) : after.Tuned := by
  refine ⟨inRange, .inl ?_, fun _ => ⟨freshGenerator after.current, ?_, inStep_freshGenerator _⟩, fun unavailable => ?_⟩
  · simp only [State.gap, fresh]
    rfl
  · simp only [tuning, fresh]
    rfl
  · rw [output] at unavailable
    cases unavailable

theorem Tuned.escReset (defaults : state.defaults.InRange) (world : World) : (state.escReset world).Tuned := by
  obtain ⟨devices, pinsLog, reset⟩ := escReset_resetAlmostAll world state
  obtain ⟨success, libcw, log, equal, -, unready⟩ := resetAlmostAll_eq world state.clearRequestQueue
  have fresh : success = true → _ := fun success =>
    resetAlmostAll_fresh world ((congrArg Prod.fst equal).trans success)
  rw [reset]
  rw [equal] at fresh ⊢
  cases success with
  | false => exact .unready defaults rfl (unready rfl)
  | true => exact .fresh defaults rfl (congrArg Libcw.generator (fresh rfl))

theorem Tuned.escSoundSystem (tuned : state.Tuned) (world : World) (payload : Bytes) :
    (state.escSoundSystem world payload).Tuned := by
  cases valid : paramsSystem payload with
  | none =>
    simp only [State.escSoundSystem, valid]
    exact tuned
  | some system =>
    obtain ⟨success, audioSystem, libcw, log, equal, -, unready⟩ := escSoundSystem_eq world valid state
    have fresh := escSoundSystem_fresh world valid state
    rw [equal] at fresh ⊢
    cases success with
    | false => exact .unready { tuned.inRange with } rfl (unready rfl)
    | true => exact .fresh { tuned.inRange with } rfl (fresh rfl)

theorem Tuned.escTone (tuned : state.Tuned) (payload : Bytes) : (state.escTone payload).Tuned := by
  unfold State.escTone
  split
  · exact tuned
  · rename_i tone accepted
    have bounds := paramsInRange_bounds accepted
    have inRange : Params.InRange { state.current with morseTone := tone } := { tuned.inRange with morseTone := bounds }
    dsimp only
    split
    case isTrue positive =>
      refine tuned.change ({ · with frequency := tone, volume := state.current.morseVolume }) inRange rfl ?_
        (fun generator plays => { plays with frequency := fun _ => rfl, volume := fun _ => rfl }) (fun _ => rfl)
        fun _ => .inl rfl
      simp [tuning, Generator.silent, Function.comp_def]
    case isFalse zero =>
      have silent : tone = 0 := by
        simp only [CW_FREQUENCY_MIN] at bounds
        omega
      refine tuned.change ({ · with volume := 0 }) inRange rfl ?_
        (fun generator plays => { plays with frequency := absurd silent, volume := absurd silent }) (fun _ => rfl)
        fun _ => .inl rfl
      simp [tuning, Generator.silent, Function.comp_def]

theorem Tuned.handleEscRequest (tuned : state.Tuned) (defaults : state.defaults.InRange) (world : World)
    {request : EscRequest} (payload : Bytes) (lives : request ≠ .exit) :
    (state.handleEscRequest world request payload).Tuned := by
  cases request with
  | reset => exact .escReset defaults world
  | speed =>
    simp only [State.handleEscRequest, escSpeed]
    split
    · exact tuned
    · rename_i wpm accepted
      exact tuned.change _ { tuned.inRange with morseSpeed := paramsInRange_bounds accepted } rfl
        (cwSetSendSpeed_tuning wpm _) (fun _ plays => { plays with sendSpeed := rfl }) (fun _ => rfl) fun _ => .inl rfl
  | tone => exact tuned.escTone payload
  | weighting =>
    simp only [State.handleEscRequest, escWeighting]
    split
    · exact tuned
    · rename_i weighting accepted
      exact tuned.change _ { tuned.inRange with weighting := paramsInRange_bounds accepted } rfl
        (callGenerator_tuning _ _ _ fun _ => rfl) (fun _ plays => { plays with weighting := rfl }) (fun _ => rfl)
        fun _ => .inl rfl
  | txDelay =>
    have delayed (delayMs : Nat) (bounds : CWDAEMON_PTT_DELAY_MIN ≤ delayMs ∧ delayMs ≤ CWDAEMON_PTT_DELAY_MAX) :
        (state.setPttDelayMs delayMs).Tuned :=
      tuned.change id { tuned.inRange with pttDelayMs := bounds } rfl (Option.map_id_apply).symm
        (fun _ plays => { plays with }) (fun _ => rfl) fun _ => .inl rfl
    have accepted := delayed _ (paramsPttdelay_bounds payload tuned.inRange.pttDelayMs.2)
    simp only [State.handleEscRequest, escTxDelay]
    split
    · exact accepted.same (.setPttOff _)
    · exact accepted
  | soundSystem => exact tuned.escSoundSystem world payload
  | volume =>
    simp only [State.handleEscRequest, escVolume]
    split
    · exact tuned
    · rename_i volume accepted
      exact tuned.change _ { tuned.inRange with morseVolume := paramsInRange_bounds accepted } rfl
        (callGenerator_tuning _ _ _ fun _ => rfl) (fun _ plays => { plays with volume := fun _ => rfl }) (fun _ => rfl)
        fun _ => .inl rfl
  | exit => exact absurd rfl lives
  | abort | wordMode | cwdevice | port | pttState | ssbWay | tune | bandSwitch | reply =>
    exact tuned.same (sameTuning_handleEscRequest world payload state (by simp))

/-! ## Texts -/

end State

/-- A speed that libcw takes, or a gap that the daemon uses. -/
def Command.InRange : Command → Prop
  | .speed wpm => CW_SPEED_MIN ≤ wpm ∧ wpm ≤ CW_SPEED_MAX
  | .gap dots => dots = 0 ∨ dots = 2
  | .readGap | .ptt | .send _ | .replace _ | .reply _ => True

namespace State

variable {state before after : State}

theorem program_inRange (opened lookAhead : Bool) (index : Nat) (gap speed : Int) (text : Bytes) :
    ∀ command ∈ program opened lookAhead index gap speed text, command.InRange := by
  have reset (lookAhead : Bool) : ∀ command ∈ (if lookAhead then [Command.gap 0] else []), command.InRange := by
    intro command member
    cases lookAhead with
    | false => cases member
    | true =>
      cases List.mem_singleton.mp member
      exact .inl rfl
  induction text generalizing lookAhead index gap speed with
  | nil => simpa only [program] using reset lookAhead
  | cons char rest inductionHypothesis =>
    intro command member
    simp only [program] at member
    split at member
    · exact inductionHypothesis _ _ _ _ command member
    · rcases List.mem_append.mp member with back | member
      · exact reset lookAhead command back
      split at member
      · split at member
        · exact inductionHypothesis _ _ _ _ command member
        · rcases List.mem_cons.mp member with rfl | member
          · exact clampSpeed_bounds _
          · exact inductionHypothesis _ _ _ _ command member
      · split at member
        · rcases List.mem_cons.mp member with rfl | member
          · exact .inr rfl
          · exact inductionHypothesis _ _ _ _ command member
        · split at member
          · cases List.mem_singleton.mp member
            trivial
          · rcases List.mem_append.mp member with played | member
            · unfold characterCommands at played
              simp only [List.mem_append, List.mem_cons, List.not_mem_nil, or_false, List.mem_ite_nil_right] at played
              rcases played with ⟨-, rfl⟩ | rfl | ⟨-, rfl⟩ | rfl <;> trivial
            · exact inductionHypothesis _ _ _ _ command member

theorem Tuned.exec (tuned : state.Tuned) (world : World) {command : Command} (inRange : command.InRange) :
    (state.exec world command).Tuned := by
  have output {call : State → State} (state : State) (same : ∀ state, (call state).hasAudioOutput = state.hasAudioOutput) :
      (state.served world call).hasAudioOutput = state.hasAudioOutput :=
    (SameTuning.serve world _).hasAudioOutput.trans ((same _).trans (SameTuning.serve world state).hasAudioOutput)
  cases command with
  | speed wpm =>
    obtain ⟨current, tuning⟩ := exec_speed world wpm state
    refine tuned.change _ ?_ (output _ fun _ => rfl) tuning ?_ (fun _ => rfl) fun _ => .inl rfl
    · rw [current]
      exact { tuned.inRange with morseSpeed := inRange }
    · intro generator plays
      rw [current]
      exact { plays with sendSpeed := rfl }
  | gap dots =>
    obtain ⟨current, tuning⟩ := exec_gap world dots state
    refine tuned.change _ ?_ (output _ fun _ => rfl) tuning ?_ (fun _ => rfl) fun _ => .inr inRange
    · rw [current]
      exact tuned.inRange
    · intro generator plays
      rw [current]
      exact { plays with }
  | readGap | ptt | send | replace | reply =>
    exact tuned.same (sameTuning_exec world state (by simp) (by simp))

theorem Tuned.execAll (tuned : state.Tuned) (world : World) {commands : List Command}
    (inRange : ∀ command ∈ commands, command.InRange) : (State.execAll world commands state).Tuned := by
  induction commands generalizing state with
  | nil => exact tuned
  | cons command commands inductionHypothesis =>
    exact inductionHypothesis (tuned.exec world (inRange command (by simp)))
      fun command member => inRange command (by simp [member])

theorem Tuned.playLoop (tuned : state.Tuned) (world : World) (text : Bytes) :
    (State.playLoop world false 0 text state).Tuned := by
  rw [playLoop_eq]
  exact tuned.execAll world (program_inRange _ _ _ _ _ text)

theorem Tuned.receiveText (tuned : state.Tuned) (world : World) (request : Bytes) :
    (state.receiveText world request).Tuned := by
  unfold State.receiveText
  split
  · have queued : State.Tuned { state with requestQueue := state.requestQueue.append request } :=
      tuned.same ⟨rfl, rfl, rfl⟩
    exact (queued.playLoop world _).same ⟨rfl, rfl, rfl⟩
  · exact tuned

/-! ## Runs -/

/-- The daemon stays tuned until it exits. -/
theorem Tuned.act (tuned : state.Tuned) (defaults : state.defaults.InRange) (world : World) (action : Action) :
    (state.act world action).Tuned ∨ ∃ code, state.act world action = state.exitProcess code := by
  cases action with
  | idle => exact .inl tuned
  | request request payload =>
    by_cases exits : request = .exit
    · subst exits
      exact .inr ⟨0, rfl⟩
    · exact .inl (tuned.handleEscRequest defaults world payload exits)
  | text request => exact .inl (tuned.receiveText world request)
  | exit => exact .inr ⟨1, rfl⟩
  | dequeue => exact .inl (tuned.same (.dequeue state))
  | key on => exact .inl (tuned.same (.keyingevent on state))

/-- The parameters are in range, also when the process has ended; a running daemon has
its generator in step. -/
structure Regulated (state : State) : Prop where
  wellformed : state.Wellformed
  defaults : state.defaults.InRange
  inRange : state.current.InRange
  gap : state.gap = 0 ∨ state.gap = 2
  tuned : state.status = .running → state.Tuned

theorem Regulated.step (label : Label) (state : State) (regulated : state.Regulated) :
    (state.step label).Regulated := by
  have defaults : (state.step label).defaults.InRange := by
    rw [step_defaults label regulated.wellformed]
    exact regulated.defaults
  have wellformed := regulated.wellformed.step label
  by_cases running : state.status = .running
  case neg =>
    rw [step_ended label running] at defaults wellformed ⊢
    exact ⟨wellformed, defaults, regulated.inRange, regulated.gap, fun lives => absurd lives running⟩
  case pos =>
    have ready := (regulated.tuned running).same (.ready label.input state)
    have readyDefaults : (state.ready label.input).defaults.InRange := by
      rw [(sameOutput_ready label.input state).defaults]
      exact regulated.defaults
    rw [step_eq label running] at defaults wellformed ⊢
    have finished := SameTuning.finish label.world label.input
      ((state.ready label.input).act label.world label.input.action)
    rcases ready.act readyDefaults label.world label.input.action with tuned | ⟨code, exits⟩
    · exact ⟨wellformed, defaults, (tuned.same finished).inRange, (tuned.same finished).gap,
        fun _ => tuned.same finished⟩
    · obtain ⟨devices, log, ended⟩ := exitProcess_eq code (state.ready label.input)
      refine ⟨wellformed, defaults, ?_, ?_, fun lives => ?_⟩
      · rw [finished.current, exits, ended]
        exact ready.inRange
      · rw [finished.gap, exits, ended]
        exact .inl rfl
      · rw [finish_status, exits, ended] at lives
        cases lives

end State

open State

/-- The defaults are those of the command line, and the daemon starts with them. -/
theorem start_defaults {args : List (World × Arg)} {world : World} {state : State}
    (started : start args world = some state) :
    state.defaults = defaultsOf (args.map Prod.snd) ∧ state.current = state.defaults ∧
      state.libcw = ⟨some (freshGenerator state.defaults), some state.globalCwdevice⟩ ∧
      state.hasAudioOutput = true := by
  obtain ⟨configured, all, -, success, rfl⟩ := start_cases started
  have fresh := resetAlmostAll_fresh world success
  obtain ⟨success', libcw, log, equal, -⟩ := resetAlmostAll_eq world configured
  rw [equal] at success fresh ⊢
  exact ⟨argsProcessAll_defaults all, rfl, fresh, success⟩

theorem start_regulated {args : List (World × Arg)} {world : World} {state : State}
    (started : start args world = some state) : state.Regulated := by
  obtain ⟨defaults, current, libcw, output⟩ := start_defaults started
  have inRange : state.defaults.InRange := defaults ▸ defaultsOf_inRange _
  have tuned : state.Tuned := .fresh (current ▸ inRange) output (by rw [libcw, current])
  exact ⟨Started.wellformed ⟨args, world, started⟩, inRange, tuned.inRange, tuned.gap, fun _ => tuned⟩

theorem Reachable.regulated {state : State} (reachable : Reachable state) : state.Regulated := by
  obtain ⟨initial, labels, ⟨args, world, started⟩, rfl⟩ := reachable
  exact Runs.run_preserves Regulated.step labels (start_regulated started)

/-- In every state of a run the parameters are in range and the defaults those of the
command line; while the daemon is running and has an output, its generator plays with
the current parameters. -/
theorem libcw_stays_in_step {args : List (World × Arg)} {world : World} {initial : State}
    (started : start args world = some initial) (labels : List Label) :
    Runs.States State.step (fun state =>
      state.current.InRange ∧ state.defaults = defaultsOf (args.map Prod.snd) ∧
      (state.status = .running → state.hasAudioOutput = true →
        ∃ generator, state.libcw.generator = some generator ∧ generator.InStep state.current)) labels initial := by
  have preserved (label : Label) (state : State)
      (invariant : state.Regulated ∧ state.defaults = defaultsOf (args.map Prod.snd)) :
      (state.step label).Regulated ∧ (state.step label).defaults = defaultsOf (args.map Prod.snd) :=
    ⟨invariant.1.step label, (step_defaults label invariant.1.wellformed).trans invariant.2⟩
  have along := Runs.states_preserves preserved labels ⟨start_regulated started, (start_defaults started).1⟩
  refine along.mono fun state ⟨regulated, defaults⟩ => ⟨regulated.inRange, defaults, fun running output => ?_⟩
  obtain ⟨silent, tuning, plays⟩ := (regulated.tuned running).audible output
  obtain ⟨generator, opened, rfl⟩ := Option.map_eq_some_iff.mp tuning
  exact ⟨generator, opened, plays.1, plays.2, plays.3, plays.4, plays.5, plays.6, plays.7⟩

/-- The speed is raised twice, the tone is turned off and the sound system is changed. -/
theorem libcw_stays_in_step_on_serial_port :
    Runs.States State.step (fun state =>
      state.current.InRange ∧ state.defaults = defaultsOf [.cwdevice ttyS0] ∧
      (state.status = .running → state.hasAudioOutput = true →
        ∃ generator, state.libcw.generator = some generator ∧ generator.InStep state.current))
      [calm.receives [byte '+', byte '+', byte 'e'], calm.receivesEscape .tone [byte '0'],
        calm.receivesEscape .soundSystem [byte 'a']] onSerialPort :=
  libcw_stays_in_step start_onSerialPort _

end Cwdaemon
