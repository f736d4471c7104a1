import Cwdaemon.Verified.Keying

/-! # Which calls an action makes

`Adds allowed` says that the log grew by calls that are allowed.  Most calls are
routine: no client sees them, they key nothing, they touch neither the PTT line nor
the frequency.  The others are listed for each kind of action, with the state they
are made in, and nothing outside these lists is ever called.
-/

namespace Cwdaemon

open CString (Buffer)

/-- The calls that no statement about clients, PTT or frequencies is concerned with. -/
def Call.isRoutine : Call → Bool
  | .received _ _ | .prepared _ _ | .sendto _ _ => false
  | .devicePtt _ _ => false
  | .setFrequency _ | .queueTone _ _ | .sendCharacter _ _ => false
  | _ => true

def Routine (entry : Entry) : Prop := entry.call.isRoutine = true

namespace State

def Adds (allowed : Entry → Prop) (before after : State) : Prop :=
  ∃ new, after.log = before.log ++ new ∧ ∀ entry ∈ new, allowed entry

namespace Adds

variable {allowed : Entry → Prop} {before after : State}

theorem refl (allowed : Entry → Prop) (state : State) : Adds allowed state state := ⟨[], by simp, by simp⟩

theorem trans {first second third : State} (earlier : Adds allowed first second)
    (later : Adds allowed second third) : Adds allowed first third := by
  obtain ⟨new, appended, ok⟩ := earlier
  obtain ⟨new', appended', ok'⟩ := later
  refine ⟨new ++ new', by rw [appended', appended, List.append_assoc], fun entry member => ?_⟩
  exact (List.mem_append.mp member).elim (ok entry) (ok' entry)

theorem mono {wider : Entry → Prop} (adds : Adds allowed before after)
    (implies : ∀ entry, allowed entry → wider entry) : Adds wider before after := by
  obtain ⟨new, appended, ok⟩ := adds
  exact ⟨new, appended, fun entry member => implies entry (ok entry member)⟩

/-- What is logged stays in the log. -/
theorem subset (adds : Adds allowed before after) {entry : Entry} (member : entry ∈ before.log) : entry ∈ after.log := by
  obtain ⟨new, appended, -⟩ := adds
  rw [appended]
  exact List.mem_append_left new member

/-- Changes outside the log do not count. -/
theorem of_log_eq {allowed : Entry → Prop} (same : after.log = before.log) : Adds allowed before after :=
  ⟨[], by simp [same], by simp⟩

theorem record {call : Call} {state : State} (ok : allowed ⟨call, state.moment⟩) :
    Adds allowed state (state.record call) := ⟨[⟨call, state.moment⟩], rfl, by simpa using ok⟩

theorem callGenerator {call : Call} {state : State} (change : Generator → Generator)
    (ok : allowed ⟨call, state.moment⟩) : Adds allowed state (state.callGenerator call change) :=
  ⟨[⟨call, state.moment⟩], rfl, by simpa using ok⟩

theorem routineRecord {call : Call} (routine : call.isRoutine = true) (state : State) :
    Adds Routine state (state.record call) := .record routine

theorem routineCall {call : Call} (routine : call.isRoutine = true) (change : Generator → Generator)
    (state : State) : Adds Routine state (state.callGenerator call change) := .callGenerator change routine

end Adds

/-! ## libcw output -/

section Output

variable (world : World)

theorem adds_cwGeneratorDelete (state : State) : Adds Routine state state.cwGeneratorDelete :=
  (Adds.routineRecord rfl state).trans (.of_log_eq rfl)

theorem adds_cwRegisterKeyingCallback (device : Option DeviceType) (state : State) :
    Adds Routine state (state.cwRegisterKeyingCallback device) :=
  (Adds.routineRecord rfl state).trans (.of_log_eq rfl)

theorem adds_closeLibcwOutput (state : State) : Adds Routine state state.closeLibcwOutput :=
  (Adds.routineCall rfl _ state).trans (adds_cwGeneratorDelete _)

/-- The calls that open an output: a generator is created and started. -/
def Opens (entry : Entry) : Prop :=
  match entry.call with
  | .generatorNew _ _ | .generatorStart _ => True
  | _ => False

theorem Opens.routine {entry : Entry} (opens : Opens entry) : Routine entry := by
  unfold Opens at opens
  unfold Routine
  split at opens
  · rename_i call
    rw [call]
    rfl
  · rename_i call
    rw [call]
    rfl
  · exact opens.elim

theorem adds_cwGeneratorNew (audioSystem : AudioSystem) (state : State) :
    Adds Opens state (state.cwGeneratorNew world audioSystem).2 := by
  have recorded (success : Bool) : Adds Opens state (state.record (.generatorNew audioSystem success)) :=
    .record trivial
  exact (recorded _).trans (.of_log_eq rfl)

theorem adds_retryOss (attempts : Nat) (state : State) :
    Adds Opens state (state.retryOss world attempts).2 := by
  induction attempts generalizing state with
  | zero => exact .refl _ state
  | succ attempts inductionHypothesis =>
    have first := adds_cwGeneratorNew world .oss state
    simp only [retryOss]
    split
    · exact first
    · exact first.trans (inductionHypothesis _)

theorem adds_openLibcwOutput (audioSystem : AudioSystem) (state : State) :
    Adds Opens state (state.openLibcwOutput world audioSystem).2 := by
  have first := adds_cwGeneratorNew world audioSystem state
  have opened : Adds Opens state (if audioSystem = .oss ∧ (state.cwGeneratorNew world audioSystem).1 = false then
      (state.cwGeneratorNew world audioSystem).2.retryOss world 5
      else ((state.cwGeneratorNew world audioSystem).1, (state.cwGeneratorNew world audioSystem).2)).2 := by
    split
    · exact first.trans (adds_retryOss world 5 _)
    · exact first
  -- The generator is started only when it was created, at the first try or at another one.
  simp only [openLibcwOutput]
  generalize (if audioSystem = .oss ∧ (state.cwGeneratorNew world audioSystem).1 = false then
    (state.cwGeneratorNew world audioSystem).2.retryOss world 5
    else ((state.cwGeneratorNew world audioSystem).1, (state.cwGeneratorNew world audioSystem).2)) = created at opened ⊢
  split
  · exact opened.trans (.callGenerator _ trivial)
  · exact opened

theorem adds_openOrFallBack (state : State) : Adds Routine state (state.openOrFallBack world) := by
  have opens (audioSystem : AudioSystem) (state : State) :
      Adds Routine state (state.openLibcwOutput world audioSystem).2 :=
    (adds_openLibcwOutput world audioSystem state).mono fun _ => Opens.routine
  have first := opens state.current.audioSystem state
  simp only [openOrFallBack]
  split
  · exact first.trans (.of_log_eq rfl)
  · have second := (first.trans (adds_closeLibcwOutput _)).trans (opens .null _)
    split
    · exact second.trans (.of_log_eq rfl)
    · exact second.trans (.of_log_eq rfl)

/-- The calls of a new output: routine, and the frequency of the sidetone. -/
def Tunes (frequency : Int) (entry : Entry) : Prop := Routine entry ∨ entry.call = .setFrequency frequency

theorem Adds.tunes {before after : State} (adds : Adds Routine before after) (frequency : Int) :
    Adds (Tunes frequency) before after := adds.mono fun _ => .inl

/-- The calls by which a new output is set up. -/
theorem adds_configure (frequency speed volume weighting : Int) (state : State) :
    Adds (Tunes frequency) state
      ((((((state.cwRegisterToneQueueLowCallback tqLowWatermark).cwSetFrequency frequency).cwSetSendSpeed
        speed).cwSetVolume volume).cwSetGap 0).cwSetWeighting weighting) := by
  have registered : Adds (Tunes frequency) state (state.cwRegisterToneQueueLowCallback tqLowWatermark) :=
    (Adds.routineCall rfl _ state).tunes frequency
  have tuned (state : State) : Adds (Tunes frequency) state (state.cwSetFrequency frequency) :=
    .callGenerator _ (.inr rfl)
  have rest (state : State) : Adds (Tunes frequency) state
      ((((state.cwSetSendSpeed speed).cwSetVolume volume).cwSetGap 0).cwSetWeighting weighting) :=
    ((((Adds.routineCall rfl _ state).trans (.routineCall rfl _ _)).trans (.routineCall rfl _ _)).trans
      (.routineCall rfl _ _)).tunes frequency
  exact (registered.trans (tuned _)).trans (rest _)

theorem closeLibcwOutput_defaults (state : State) : state.closeLibcwOutput.defaults = state.defaults := by
  obtain ⟨log, closed⟩ := state.closeLibcwOutput_eq
  rw [closed]
  rfl

theorem adds_resetLibcwOutput (state : State) :
    Adds (Tunes state.defaults.morseTone) state (state.resetLibcwOutput world).2 := by
  have opens := (adds_closeLibcwOutput state).trans
    ((adds_openLibcwOutput world state.closeLibcwOutput.defaults.audioSystem state.closeLibcwOutput).mono
      fun _ => Opens.routine)
  obtain ⟨success, generator, log, equal, -, -⟩ := openLibcwOutput_eq world
    state.closeLibcwOutput.defaults.audioSystem state.closeLibcwOutput
  rw [equal] at opens
  simp only [resetLibcwOutput, equal]
  split
  · have configured := adds_configure state.defaults.morseTone state.defaults.morseSpeed
      state.defaults.morseVolume (libcwWeighting state.defaults.weighting)
      (state.closeLibcwOutput.withLibcw ⟨generator, state.closeLibcwOutput.libcw.keyingCallback⟩ log)
    rw [← closeLibcwOutput_defaults state] at configured ⊢
    exact (opens.tunes _).trans configured
  · exact opens.tunes _

theorem adds_resetAlmostAll (state : State) :
    Adds (Tunes state.defaults.morseTone) state (state.resetAlmostAll world).2 := by
  have reset := adds_resetLibcwOutput world { state with current := state.defaults }
  have started : Adds (Tunes state.defaults.morseTone) state { state with current := state.defaults } :=
    .of_log_eq rfl
  simp only [resetAlmostAll]
  split
  · exact (started.trans reset).trans (((adds_cwRegisterKeyingCallback _ _).tunes _))
  · exact (started.trans reset).trans (.of_log_eq rfl)

theorem adds_escSoundSystem {payload : Bytes} {system : AudioSystem} (valid : paramsSystem payload = some system)
    (state : State) : Adds (Tunes state.current.morseTone) state (state.escSoundSystem world payload) := by
  have selected : Adds Routine state
      { state with current := { state.current with audioSystem := system } } := .of_log_eq rfl
  obtain ⟨closedLog, closed⟩ := closeLibcwOutput_eq
    { state with current := { state.current with audioSystem := system } }
  have closes := adds_closeLibcwOutput { state with current := { state.current with audioSystem := system } }
  rw [closed] at closes
  obtain ⟨success, audioSystem, libcw, log, equal, -⟩ := openOrFallBack_eq world
    (withLibcw ⟨none, none⟩ closedLog { state with current := { state.current with audioSystem := system } })
  have opens := adds_openOrFallBack world
    (withLibcw ⟨none, none⟩ closedLog { state with current := { state.current with audioSystem := system } })
  rw [equal] at opens
  have opened := (selected.trans closes).trans opens
  simp only [escSoundSystem, valid, closed, equal]
  split
  · exact ((opened.tunes _).trans (adds_configure _ _ _ _ _)).trans ((adds_cwRegisterKeyingCallback _ _).tunes _)
  · exact opened.tunes _

end Output

/-! ## cwdevices and PTT -/

theorem adds_setDevice {allowed : Entry → Prop} (type : DeviceType) (device : Cwdevice) (state : State) :
    Adds allowed state (state.setDevice type device) := .of_log_eq rfl

theorem adds_setDesc {allowed : Entry → Prop} (type : DeviceType) (desc : Option Bytes) (state : State) :
    Adds allowed state (state.setDesc type desc) := .of_log_eq rfl

theorem adds_ttysLines (on : Bool) (mask : BitVec 32) (state : State) :
    Adds Routine state (state.ttysLines on mask) := by
  unfold ttysLines
  split
  · exact .refl _ state
  · exact .routineRecord rfl state

theorem adds_deviceCw (type : DeviceType) (on : Bool) (state : State) :
    Adds Routine state (state.deviceCw type on) := by
  have recorded : Adds Routine state (state.record (.deviceCw type on)) := .routineRecord rfl state
  cases type with
  | ttys => exact recorded.trans (adds_ttysLines _ _ _)
  | lp | null => exact recorded

/-- The calls of a switch of PTT in a given moment. -/
def Switches (type : DeviceType) (on : Bool) (moment : Moment) (entry : Entry) : Prop :=
  Routine entry ∨ entry = ⟨.devicePtt type on, moment⟩

theorem adds_devicePtt (type : DeviceType) (on : Bool) (state : State) :
    Adds (Switches type on state.moment) state (state.devicePtt type on) := by
  have recorded : Adds (Switches type on state.moment) state (state.record (.devicePtt type on)) :=
    .record (.inr rfl)
  have switched := recorded.trans (adds_setDevice type { state.devices type with pttCommand := some on } _)
  cases type with
  | ttys => exact switched.trans ((adds_ttysLines _ _ _).mono fun _ => .inl)
  | lp | null => exact switched

theorem adds_setPttOn (state : State) :
    Adds (Switches state.globalCwdevice true state.moment) state state.setPttOn := by
  unfold setPttOn
  split
  · exact (adds_devicePtt _ _ state).trans (.of_log_eq rfl)
  · exact .refl _ state

theorem adds_setPttOff (state : State) :
    Adds (Switches state.globalCwdevice false state.moment) state state.setPttOff :=
  (adds_devicePtt _ _ state).trans (.of_log_eq rfl)

/-- The calls of an operation that leaves pins off. -/
def Lowers (entry : Entry) : Prop := Routine entry ∨ ∃ type, entry.call = .devicePtt type false

theorem Adds.lowers {before after : State} (adds : Adds Routine before after) : Adds Lowers before after :=
  adds.mono fun _ => .inl

theorem Switches.lowers {type : DeviceType} {moment : Moment} {entry : Entry}
    (switches : Switches type false moment entry) : Lowers entry :=
  switches.imp id fun equal => ⟨type, by rw [equal]⟩

theorem adds_deviceResetPinsState (type : DeviceType) (state : State) :
    Adds Lowers state (state.deviceResetPinsState type) := by
  have off := (adds_deviceCw type false state).lowers.trans
    ((adds_devicePtt type false (state.deviceCw type false)).mono fun _ => Switches.lowers)
  cases type with
  | ttys => exact off
  | lp => exact off.trans ((Adds.routineRecord rfl _).trans (.routineRecord rfl _)).lowers
  | null => exact .refl _ state

theorem adds_deviceFree (type : DeviceType) (state : State) : Adds Lowers state (state.deviceFree type) := by
  have reset := adds_deviceResetPinsState type state
  cases type with
  | ttys =>
    simp only [deviceFree]
    generalize state.deviceResetPinsState .ttys = released at reset ⊢
    exact (reset.trans (Adds.routineRecord rfl released).lowers).trans (.of_log_eq rfl)
  | lp => exact reset.trans (Adds.routineRecord rfl _).lowers
  | null => exact .refl _ state

theorem adds_deviceInit (type : DeviceType) (fd : Int) (state : State) :
    Adds Lowers state (state.deviceInit type fd) := by
  have opened : Adds Lowers state ((state.record (.deviceInit type fd)).setDevice type
      { state.devices type with fd := fd, pttCommand := none }) :=
    (Adds.routineRecord rfl state).lowers.trans (.of_log_eq rfl)
  cases type with
  | ttys | lp => exact opened.trans (adds_deviceResetPinsState _ _)
  | null => exact opened

theorem adds_adoptCwdevice (world : World) (type : DeviceType) (fd : Int) (desc : Bytes) (state : State) :
    Adds Lowers state (state.adoptCwdevice world type fd desc).2 := by
  have selected : Adds Lowers state { state with globalCwdevice := type } := .of_log_eq rfl
  have closed := selected.trans (adds_deviceFree state.globalCwdevice { state with globalCwdevice := type })
  simp only [adoptCwdevice]
  generalize deviceFree state.globalCwdevice { state with globalCwdevice := type } = freed at closed
  have cleared := (closed.trans (adds_setDesc state.globalCwdevice none freed)).trans (adds_setDesc type none _)
  split
  · exact (cleared.trans (adds_setDesc type (some desc) _)).trans (adds_deviceInit type fd _)
  · exact cleared

theorem adds_optionCwdevice (world : World) (name : Bytes) (state : State) :
    Adds Lowers state (state.optionCwdevice world name).2 := by
  rcases optionCwdevice_cases world name state with ⟨-, refused⟩ | ⟨-, fd, adopted⟩
  · rw [refused]
    exact .refl _ state
  · rw [adopted]
    exact adds_adoptCwdevice world _ fd name state

theorem adds_escCwdevice (world : World) (payload : Bytes) (state : State) :
    Adds Lowers state (state.escCwdevice world payload) := by
  have set := (adds_cwRegisterKeyingCallback none state).lowers.trans
    (adds_optionCwdevice world payload (state.cwRegisterKeyingCallback none))
  simp only [escCwdevice]
  split
  · exact set.trans (adds_cwRegisterKeyingCallback _ _).lowers
  · exact set

theorem adds_exitProcess (code : Int) (state : State) : Adds Lowers state (state.exitProcess code) :=
  ((adds_closeLibcwOutput state).lowers.trans (adds_deviceFree _ _)).trans (.of_log_eq rfl)

/-! ## Escape requests -/

/-- The requests that put PTT off whatever holds it on. -/
def ForcesOff (request : EscRequest) (payload : Bytes) (state : State) : Prop :=
  request = .reset ∨ request = .exit ∨ request = .cwdevice ∨
    (request = .abort ∧ state.wordmode = false) ∨ (request = .txDelay ∧ getLong payload = some 0)

/-- The calls that an Escape request makes, by kind. -/
inductive Makes (payload : Bytes) (state : State) : EscRequest → Entry → Prop
  | routine {request : EscRequest} {entry : Entry} (routine : Routine entry) : Makes payload state request entry
  | resetFrequency {moment : Moment} :
      Makes payload state .reset ⟨.setFrequency state.defaults.morseTone, moment⟩
  | toneFrequency {tone : Int} {moment : Moment} (positive : 0 < tone) :
      Makes payload state .tone ⟨.setFrequency tone, moment⟩
  | soundSystemFrequency {system : AudioSystem} {moment : Moment} (valid : paramsSystem payload = some system) :
      Makes payload state .soundSystem ⟨.setFrequency state.current.morseTone, moment⟩
  | tuneTone {seconds : Int} {moment : Moment} (valid : paramsTune payload = some seconds)
      (positive : 0 < seconds) :
      Makes payload state .tune ⟨.queueTone CWDAEMON_MICROSECS_PER_SEC state.current.morseTone, moment⟩
  | tuneCharacter {char : UInt8} {accepted : Bool} (after : State) (count : Nat)
      (raised : after.keyer = state.keyer.flush.raise.queue count) :
      Makes payload state .tune ⟨.sendCharacter char accepted, after.moment⟩
  | raise {request : EscRequest} {type : DeviceType} {moment : Moment} :
      Makes payload state request ⟨.devicePtt type true, moment⟩
  | force {request : EscRequest} {type : DeviceType} {moment : Moment}
      (forces : ForcesOff request payload state) :
      Makes payload state request ⟨.devicePtt type false, moment⟩
  | release {type : DeviceType} {moment : Moment} (idle : moment.requestQueue = [])
      (drained : moment.toneQueueLength ≤ 1) :
      Makes payload state .pttState ⟨.devicePtt type false, moment⟩
  | sendBreak {moment : Moment} (pending : state.pttFlag.has .echo = true)
      (character : state.wordmode = false) :
      Makes payload state .abort ⟨.sendto state.replyAddr breakReply, moment⟩
  | prepare {moment : Moment} :
      Makes payload state .reply ⟨.prepared state.requestAddr (EscRequest.reply.code :: payload), moment⟩

namespace Makes

variable {payload : Bytes} {state : State} {request : EscRequest} {entry : Entry}

theorem of_lowers (forces : ForcesOff request payload state) (lowers : Lowers entry) :
    Makes payload state request entry := by
  rcases lowers with routine | ⟨type, off⟩
  · exact .routine routine
  · obtain ⟨call, moment⟩ := entry
    simp only at off
    subst off
    exact .force forces

theorem of_tunes {frequency : Int} (sets : ∀ moment, Makes payload state request ⟨.setFrequency frequency, moment⟩)
    (tunes : Tunes frequency entry) : Makes payload state request entry := by
  rcases tunes with routine | call
  · exact .routine routine
  · obtain ⟨_, moment⟩ := entry
    simp only at call
    subst call
    exact sets moment

theorem of_switches_on {type : DeviceType} {moment : Moment} (switches : Switches type true moment entry) :
    Makes payload state request entry := by
  rcases switches with routine | rfl
  · exact .routine routine
  · exact .raise

end Makes

variable {payload : Bytes} {state : State}

theorem adds_queueTuneTones {allowed : Entry → Prop} (seconds : Nat) (state : State)
    (ok : ∀ moment, allowed ⟨.queueTone CWDAEMON_MICROSECS_PER_SEC state.current.morseTone, moment⟩) :
    Adds allowed state (state.queueTuneTones seconds) := by
  induction seconds generalizing state with
  | zero => exact .refl _ state
  | succ seconds inductionHypothesis =>
    have first : Adds allowed state
        (state.cwQueueTone CWDAEMON_MICROSECS_PER_SEC state.current.morseTone) := .callGenerator _ (ok _)
    exact first.trans (inductionHypothesis _ ok)

theorem setPttOn_current (state : State) : state.setPttOn.current = state.current := by
  obtain ⟨flag, devices, log, raised⟩ := setPttOn_eq state
  rw [raised]
  rfl

theorem adds_escTune (world : World) (payload : Bytes) (state : State) :
    Adds (Makes payload state .tune) state (state.escTune world payload) := by
  simp only [escTune]
  cases valid : paramsTune payload with
  | none => exact .refl _ state
  | some seconds =>
    simp only [tune]
    split
    case isTrue positive =>
      have flushed : Adds (Makes payload state .tune) state state.cwFlushToneQueue :=
        .callGenerator _ (.routine rfl)
      have raised := flushed.trans ((adds_setPttOn state.cwFlushToneQueue).mono fun _ => Makes.of_switches_on)
      have tone : state.cwFlushToneQueue.setPttOn.current.morseTone = state.current.morseTone := by
        rw [setPttOn_current]
        rfl
      have queued := raised.trans (adds_queueTuneTones seconds.toNat _ fun moment => by
        rw [tone]
        exact .tuneTone valid (by omega))
      refine queued.trans (.callGenerator _ (.tuneCharacter _ seconds.toNat ?_))
      rw [keyer_queueTuneTones, keyer_setPttOn, keyer_cwFlushToneQueue]
    case isFalse => exact .refl _ state

/-- PTT is turned off by a delay request exactly for the value 0. -/
theorem paramsPttdelay_zero_iff (delayMs : Nat) (payload : Bytes) :
    (paramsPttdelay delayMs payload).1 ≠ 0 ∧ (paramsPttdelay delayMs payload).2 = 0 ↔
      getLong payload = some 0 := by
  cases parsed : getLong payload with
  | none => simp [paramsPttdelay, parsed]
  | some lv =>
    -- The value is clipped to 50, refused when it is negative, or taken as it is.
    by_cases large : lv > CWDAEMON_PTT_DELAY_MAX
    · have clipped : paramsPttdelay delayMs payload = (2, 50) := by
        simp only [paramsPttdelay, parsed, if_pos large]
        rfl
      simp only [CWDAEMON_PTT_DELAY_MAX] at large
      simp only [clipped, Option.some.injEq]
      omega
    · by_cases negative : lv < CWDAEMON_PTT_DELAY_MIN
      · have refused : paramsPttdelay delayMs payload = (0, delayMs) := by
          simp only [paramsPttdelay, parsed, if_neg large, if_pos negative]
        simp only [CWDAEMON_PTT_DELAY_MIN] at negative
        simp only [refused, Option.some.injEq]
        omega
      · have taken : paramsPttdelay delayMs payload = (1, lv.toNat) := by
          simp only [paramsPttdelay, parsed, if_neg large, if_neg negative]
        simp only [CWDAEMON_PTT_DELAY_MIN] at negative
        simp only [taken, Option.some.injEq]
        omega

theorem adds_escTxDelay (payload : Bytes) (state : State) :
    Adds (Makes payload state .txDelay) state (state.escTxDelay payload) := by
  have delayed (delayMs : Nat) : Adds (Makes payload state .txDelay) state (state.setPttDelayMs delayMs) :=
    .of_log_eq rfl
  simp only [escTxDelay]
  split
  case isTrue off =>
    have zero := (paramsPttdelay_zero_iff _ payload).mp off
    exact (delayed _).trans ((adds_setPttOff _).mono fun _ switches =>
      .of_lowers (.inr (.inr (.inr (.inr ⟨rfl, zero⟩)))) switches.lowers)
  case isFalse => exact delayed _

theorem adds_paramsPttOnOff (payload : Bytes) (state : State) :
    Adds (Makes payload state .pttState) state (state.paramsPttOnOff payload) := by
  rw [paramsPttOnOff_eq]
  split
  · exact .refl _ state
  · split
    · exact ((adds_setPttOn state).mono fun _ => Makes.of_switches_on).trans (.of_log_eq rfl)
    · split
      · split
        case isTrue drained =>
          have released : Adds (Makes payload state .pttState) state
              (state.setPttFlag (state.pttFlag.unset .manual)) := .of_log_eq rfl
          refine released.trans ((adds_setPttOff _).mono ?_)
          rintro entry (routine | rfl)
          · exact .routine routine
          · exact .release drained.1 drained.2
        case isFalse => exact .of_log_eq rfl
      · exact .refl _ state

/-- An ABORT in character mode, after what it tells the client. -/
theorem adds_escAbort_broken {state : State} (character : state.wordmode = false) :
    Adds Lowers state.broken state.escAbort := by
  simp only [escAbort, character, Bool.false_eq_true, if_false, broken_eq]
  generalize state.broken = sent
  have emptied : Adds Routine sent sent.clearRequestQueue := .of_log_eq rfl
  have flushed : Adds Lowers sent sent.clearRequestQueue.cwFlushToneQueue.cwWaitForToneQueue :=
    ((emptied.trans (.routineCall rfl _ _)).trans (.routineRecord rfl _)).lowers
  generalize sent.clearRequestQueue.cwFlushToneQueue.cwWaitForToneQueue = waited at flushed
  split
  · exact (flushed.trans ((adds_setPttOff waited).mono fun _ => Switches.lowers)).trans (.of_log_eq rfl)
  · exact flushed.trans (.of_log_eq rfl)

theorem adds_escAbort (payload : Bytes) (state : State) : Adds (Makes payload state .abort) state state.escAbort := by
  cases mode : state.wordmode with
  | true =>
    simp only [escAbort, mode, if_true]
    exact .refl _ state
  | false =>
    have told : Adds (Makes payload state .abort) state state.broken := by
      unfold broken
      split
      case isTrue pending => exact .record (.sendBreak pending mode)
      case isFalse => exact .refl _ state
    have forces : ForcesOff .abort payload state := .inr (.inr (.inr (.inl ⟨rfl, mode⟩)))
    exact told.trans ((adds_escAbort_broken mode).mono fun _ => .of_lowers forces)

theorem adds_escTone (payload : Bytes) (state : State) :
    Adds (Makes payload state .tone) state (state.escTone payload) := by
  simp only [escTone]
  cases paramsTone payload with
  | none => exact .refl _ state
  | some tone =>
    have stored : Adds (Makes payload state .tone) state
        { state with current := { state.current with morseTone := tone } } := .of_log_eq rfl
    simp only
    split
    case isTrue positive =>
      exact (stored.trans (.callGenerator _ (.toneFrequency positive))).trans (.callGenerator _ (.routine rfl))
    case isFalse => exact stored.trans (.callGenerator _ (.routine rfl))

theorem adds_escReply (nulFree : 0 ∉ payload) (short : payload.length < 255) (state : State) :
    Adds (Makes payload state .reply) state (state.escReply payload) := by
  obtain ⟨reply, -, prepared⟩ := prepareReply_eq (reply_nul_free nulFree) short state
  rw [escReply, prepared]
  exact ⟨_, rfl, by simpa using .prepare⟩

theorem adds_escReset (world : World) (payload : Bytes) (state : State) :
    Adds (Makes payload state .reset) state (state.escReset world) := by
  have cleared : Adds (Makes payload state .reset) state state.clearRequestQueue := .of_log_eq rfl
  have reset := cleared.trans
    ((adds_resetAlmostAll world state.clearRequestQueue).mono fun _ => .of_tunes fun _ => .resetFrequency)
  have lowered := (reset.trans (.of_log_eq rfl)).trans
    ((adds_deviceResetPinsState (state.clearRequestQueue.resetAlmostAll world).2.globalCwdevice
      { (state.clearRequestQueue.resetAlmostAll world).2 with wordmode := false }).mono fun _ =>
        .of_lowers (.inl rfl))
  exact lowered.trans (.of_log_eq rfl)

/-- Every call that an Escape request makes is one of those listed. -/
theorem adds_handleEscRequest (world : World) (request : EscRequest) (nulFree : 0 ∉ payload)
    (short : payload.length < 255) (state : State) :
    Adds (Makes payload state request) state (state.handleEscRequest world request payload) := by
  have recorded {request : EscRequest} {call : Call} (routine : call.isRoutine = true) (state' : State) :
      Adds (Makes payload state request) state' (state'.record call) := .record (.routine routine)
  cases request with
  | reset => exact adds_escReset world payload state
  | tone => exact adds_escTone payload state
  | abort => exact adds_escAbort payload state
  | exit => exact (adds_exitProcess 0 state).mono fun _ => .of_lowers (.inr (.inl rfl))
  | wordMode => exact .of_log_eq rfl
  | cwdevice => exact (adds_escCwdevice world payload state).mono fun _ => .of_lowers (.inr (.inr (.inl rfl)))
  | port => exact .refl _ state
  | pttState => exact adds_paramsPttOnOff payload state
  | tune => exact adds_escTune world payload state
  | txDelay => exact adds_escTxDelay payload state
  | soundSystem =>
    simp only [handleEscRequest]
    cases valid : paramsSystem payload with
    | none =>
      simp only [escSoundSystem, valid]
      exact .refl _ state
    | some system =>
      exact (adds_escSoundSystem world valid state).mono fun _ => .of_tunes fun _ => .soundSystemFrequency valid
  | reply => exact adds_escReply nulFree short state
  | speed =>
    simp only [handleEscRequest, escSpeed]
    split
    · exact .refl _ state
    · exact (.of_log_eq rfl : Adds _ state (state.setMorseSpeed _)).trans (.callGenerator _ (.routine rfl))
  | weighting =>
    simp only [handleEscRequest, escWeighting]
    split
    · exact .refl _ state
    · exact ⟨_, rfl, by simpa using .routine rfl⟩
  | volume =>
    simp only [handleEscRequest, escVolume]
    split
    · exact .refl _ state
    · exact ⟨_, rfl, by simpa using .routine rfl⟩
  | ssbWay =>
    simp only [handleEscRequest, escSsbWay]
    split
    · exact .refl _ state
    · split
      · exact recorded rfl state
      · exact .refl _ state
      · exact .refl _ state
  | bandSwitch =>
    simp only [handleEscRequest, escBandSwitch, switchBand]
    split
    · exact .refl _ state
    · split
      · split
        · exact recorded rfl state
        · exact .refl _ state
        · exact .refl _ state
      · exact .refl _ state

/-! ## libcw's thread -/

/-- The calls that libcw's thread makes when it takes a tone. -/
inductive Serves (state : State) : Entry → Prop
  | routine {entry : Entry} (routine : Routine entry) : Serves state entry
  | release {moment : Moment} (alone : state.pttFlag.equals .auto = true)
      (idle : moment.requestQueue = []) (drained : moment.toneQueueLength ≤ 1) :
      Serves state ⟨.devicePtt state.globalCwdevice false, moment⟩
  | answer {moment : Moment} (pending : state.pttFlag.has .echo = true) (drained : moment.toneQueueLength ≤ 1) :
      Serves state ⟨.sendto state.replyAddr (state.replyBuffer.append crlf).bytes, moment⟩
  | silence {moment : Moment} : Serves state ⟨.queueTone 1 0, moment⟩

theorem adds_answered {state : State} (pending : state.pttFlag.has .echo = true)
    (drained : state.toneQueueLength ≤ 1) : Adds (Serves state) state state.answered := by
  unfold answered
  simp only [sendto]
  split
  · exact ⟨_, rfl, by simpa using .answer pending drained⟩
  · exact .of_log_eq rfl

theorem adds_toneQueueLowCallback {state : State} (drained : state.toneQueueLength ≤ 1) :
    Adds (Serves state) state state.toneQueueLowCallback := by
  rw [toneQueueLowCallback_eq]
  split
  case isTrue alone =>
    refine (adds_setPttOff state).mono ?_
    rintro entry (routine | rfl)
    · exact .routine routine
    · exact .release alone.1 alone.2.1 drained
  case isFalse =>
    split
    case isTrue pending =>
      have answers := adds_answered pending drained
      split
      · exact (answers.trans (.callGenerator _ .silence)).trans (.callGenerator _ .silence)
      · exact answers
    case isFalse => exact .refl _ state

theorem adds_dequeue {state : State} (watched : Watched state.libcw) :
    Adds (Serves state) state state.dequeue := by
  rcases state.dequeue_cases with same | ⟨generator, tone, tones, opened, started, queued, dequeued⟩
  · rw [same]
    exact .refl _ state
  · have taken : Adds (Serves state) state (state.taken generator tone tones) :=
      ⟨[⟨.dequeued tone, state.moment⟩], rfl, by simpa using .routine rfl⟩
    rw [dequeued]
    split
    case isTrue crosses =>
      -- The callback runs in the state without the tone: the queue has run low then.
      have one := (crossesLow_iff (watched generator opened started) queued).mp crosses
      have drained : (state.taken generator tone tones).toneQueueLength ≤ 1 := Nat.le_of_eq one
      refine taken.trans ((adds_toneQueueLowCallback drained).mono fun entry serves => ?_)
      cases serves with
      | routine routine => exact .routine routine
      | release alone idle drained => exact .release alone idle drained
      | answer pending drained => exact .answer pending drained
      | silence => exact .silence
    case isFalse => exact taken

/-! ## Texts -/

/-- The calls that a step of playing a text makes. -/
inductive Plays (world : World) (request : Bytes) (state : State) : Entry → Prop
  | routine {entry : Entry} (routine : Routine entry) : Plays world request state entry
  | serve {entry : Entry} (busy : state.requestQueue.bytes ≠ []) (interrupted : ∃ calls, 0 < world.during calls)
      (serves : Serves state entry) : Plays world request state entry
  | raise {moment : Moment} : Plays world request state ⟨.devicePtt state.globalCwdevice true, moment⟩
  | send {char : UInt8} {accepted : Bool} (held : state.Held) :
      Plays world request state ⟨.sendCharacter char accepted, state.moment⟩
  | prepare {front rest : Bytes} {moment : Moment} (split : request = front ++ byte '^' :: rest) :
      Plays world request state ⟨.prepared state.requestAddr (front.map played), moment⟩

theorem adds_prepareReply (request : Bytes) (state : State) (nulFree : 0 ∉ request) :
    Adds (fun entry => entry = ⟨.prepared state.requestAddr request, state.moment⟩) state
      (state.prepareReply request) := by
  unfold prepareReply
  simp only
  split
  · exact .of_log_eq rfl
  case h_2 reply copied =>
    -- The copy is complete: a request has no NUL inside.
    have same := CString.cstr_of_nul_free nulFree
    simp only [Buffer.copy?, same] at copied
    split at copied
    · cases copied
      exact ⟨[⟨.prepared state.requestAddr request, state.moment⟩], rfl, by simp⟩
    · cases copied

theorem adds_textStep {world : World} {request : Bytes} {before after : State} (watched : Watched before.libcw)
    (nulFree : 0 ∉ request) (step : TextStep world request before after) :
    Adds (Plays world request before) before after := by
  cases step with
  | drain _ busy interrupted => exact (adds_dequeue watched).mono fun _ => .serve busy interrupted
  | speed speed => exact .of_log_eq rfl
  | sendSpeed wpm => exact .callGenerator _ (.routine rfl)
  | setGap gap => exact .callGenerator _ (.routine rfl)
  | getGap => exact .record (.routine rfl)
  | replace index => exact .of_log_eq rfl
  | raise =>
    refine (adds_setPttOn before).mono ?_
    rintro entry (routine | rfl)
    · exact .routine routine
    · exact .raise
  | send char _ held => exact .callGenerator _ (.send held)
  | caret _ front rest split queue =>
    have cut : Adds (Plays world request before) before
        { before with requestQueue := before.requestQueue.cut front.length } := .of_log_eq rfl
    refine cut.trans ((adds_prepareReply _ _ (played_nul_free nulFree split)).mono ?_)
    rintro entry rfl
    exact .prepare split

/-- A text makes the calls that its steps make, with what the steps preserve. -/
theorem adds_receiveText {world : World} {request : Bytes} {invariant : State → Prop} {allowed : Entry → Prop}
    {state : State} (wellformed : state.Wellformed) (nulFree : 0 ∉ request)
    (length : request.length ≤ CWDAEMON_REQUEST_SIZE_MAX)
    (step : ∀ before after, TextStep world request before after → invariant before →
      invariant after ∧ Adds allowed before after)
    (queued : invariant { state with requestQueue := state.requestQueue.append request }) :
    Adds allowed state (state.receiveText world request) := by
  obtain ⟨after, reads, -, received⟩ := reads_receiveText world request wellformed.idle nulFree
    (Nat.lt_of_le_of_lt length (by decide))
  have started : Adds allowed state { state with requestQueue := state.requestQueue.append request } :=
    .of_log_eq rfl
  rw [received]
  have read := reads.relates (Adds.refl allowed) (fun _ _ _ => Adds.trans) step queued
  exact (started.trans read.2).trans (.of_log_eq rfl)

/-! ## Actions -/

theorem adds_keyingevent (on : Bool) (state : State) : Adds Routine state (state.keyingevent on) := by
  unfold keyingevent
  split
  · exact .refl _ state
  · exact (adds_deviceCw _ on state).trans (.of_log_eq rfl)

/-- What is allowed of every call that the kind of an action lists is allowed of every
call that the action makes.  While a text is being read an invariant may help. -/
theorem adds_act {allowed : Entry → Prop} {state : State} (wellformed : state.Wellformed) (world : World)
    (input : Input) (invariant : State → Prop)
    (queued : ∀ queue, invariant { state with requestQueue := queue })
    (kept : ∀ request before after, TextStep world request before after → before.Sound → invariant before →
      invariant after)
    (routine : ∀ entry, Routine entry → allowed entry)
    (makes : ∀ request payload, input.action = .request request payload →
      ∀ entry, Makes payload state request entry → allowed entry)
    (plays : ∀ request before, input.action = .text request → invariant before →
      ∀ entry, Plays world request before entry → allowed entry)
    (lowers : input.action = .exit → ∀ entry, Lowers entry → allowed entry)
    (dequeues : input.action = .dequeue → Adds allowed state state.dequeue) :
    Adds allowed state (state.act world input.action) := by
  cases action : input.action with
  | idle => exact .refl _ state
  | request request payload =>
    obtain ⟨nulFree, short⟩ := Input.action_payload action
    exact (adds_handleEscRequest world request nulFree short state).mono (makes request payload action)
  | text request =>
    obtain ⟨nulFree, length⟩ := Input.action_text_bounds action
    have step (before after : State) (step : TextStep world request before after)
        (held : before.Sound ∧ invariant before) :
        (after.Sound ∧ invariant after) ∧ Adds allowed before after := by
      obtain ⟨sound, holds⟩ := held
      exact ⟨⟨sound.textStep length nulFree step, kept request before after step sound holds⟩,
        (adds_textStep sound.watched nulFree step).mono (plays request before action holds)⟩
    exact adds_receiveText wellformed nulFree length step ⟨wellformed.toSound.withRequestQueue _, queued _⟩
  | exit => exact (adds_exitProcess 1 state).mono (lowers action)
  | dequeue => exact dequeues action
  | key on => exact (adds_keyingevent on state).mono routine

/-! ## Steps -/

/-- Behind the calls of the action the log of a step has the footswitch at most. -/
theorem step_log_eq (label : Label) {state : State} (running : state.status = .running) :
    ∃ polls, (state.step label).log =
        ((state.ready label.input).act label.world label.input.action).log ++ polls ∧
      ∀ entry ∈ polls, ∃ on, entry.call = .devicePtt .lp on := by
  rw [step_eq label running]
  rcases finish_cases label.world label.input
    ((state.ready label.input).act label.world label.input.action) with same | ⟨port, polls, polled, switched⟩
  · exact ⟨[], by rw [same, List.append_nil], by simp⟩
  · exact ⟨polls, by rw [polled, withDevices_log], switched⟩

/-- The log of a step: a request that was received, the calls of the action, and the
footswitch of a parallel port. -/
theorem step_log {label : Label} {state : State} {allowed : Entry → Prop} (running : state.status = .running)
    (acts : Adds allowed (state.ready label.input) ((state.ready label.input).act label.world label.input.action))
    {entry : Entry} (member : entry ∈ (state.step label).log) :
    allowed entry ∨ (∃ client request, entry.call = .received client request) ∨
      ∃ on, entry.call = .devicePtt .lp on := by
  obtain ⟨seconds, addr, log, equal, received⟩ := ready_eq label.input state
  obtain ⟨new, appended, ok⟩ := acts
  obtain ⟨polls, logged, switched⟩ := step_log_eq label running
  rw [logged, appended, equal, List.append_assoc] at member
  rcases List.mem_append.mp member with before | rest
  · exact .inr (.inl (received entry before))
  · rcases List.mem_append.mp rest with during | after
    · exact .inl (ok entry during)
    · exact .inr (.inr (switched entry after))

/-- What the action has called stays in the log of the step. -/
theorem log_subset_step {label : Label} {state : State} (running : state.status = .running) {entry : Entry}
    (member : entry ∈ ((state.ready label.input).act label.world label.input.action).log) :
    entry ∈ (state.step label).log := by
  obtain ⟨polls, logged, -⟩ := step_log_eq label running
  rw [logged]
  exact List.mem_append_left polls member

end State

end Cwdaemon
