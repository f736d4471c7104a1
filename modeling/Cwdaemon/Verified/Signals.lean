import Cwdaemon.Verified.Works

/-! # What the cwdevices are told

Apart from PTT, a cwdevice is told something only by libcw's key and by five of the
requests.  `Action.signals` says by what, in which order, and nothing else: it is what the
methods of the devices are called with in a step, whatever libcw's thread does meanwhile.
-/

namespace Cwdaemon

/-- A call of a method of a cwdevice, other than its `ptt`. -/
inductive Signal where
  | opened (device : DeviceType)
  | closed (device : DeviceType)
  | key (device : DeviceType) (on : Bool)
  | ssbWay (device : DeviceType) (soundcard : Bool)
  | band (device : DeviceType) (bitPattern : BitVec 8)
  deriving DecidableEq, Repr

def Call.signal : Call → Option Signal
  | .deviceInit device _ => some (.opened device)
  | .deviceFree device _ => some (.closed device)
  | .deviceCw device on => some (.key device on)
  | .deviceSsbway device soundcard => some (.ssbWay device soundcard)
  | .deviceSwitchband device bitPattern => some (.band device bitPattern)
  | _ => none

/-- The signals of a log. -/
def signalsOf (log : List Entry) : List Signal := log.filterMap fun entry => entry.call.signal

@[simp] theorem signalsOf_append (first second : List Entry) :
    signalsOf (first ++ second) = signalsOf first ++ signalsOf second :=
  List.filterMap_append

def Unsignalled (entry : Entry) : Prop := entry.call.signal = none

theorem unsignalled_of_opens {entry : Entry} (opens : State.Opens entry) : Unsignalled entry := by
  obtain ⟨call, moment⟩ := entry
  cases call with
  | generatorNew | generatorStart => rfl
  | _ => exact absurd opens id

/-! ## The methods that give several signals -/

/-- `reset_pins_state`. -/
def resetSignals : DeviceType → List Signal
  | .ttys => [.key .ttys false]
  | .lp => [.key .lp false, .ssbWay .lp false, .band .lp 0#8]
  | .null => []

/-- `free`. -/
def freeSignals : DeviceType → List Signal
  | .ttys => resetSignals .ttys ++ [.closed .ttys]
  | .lp => resetSignals .lp ++ [.closed .lp]
  | .null => []

/-- `init`. -/
def initSignals (device : DeviceType) : List Signal := .opened device :: resetSignals device

/-- The bits of the port for a band, as `cwdaemon_switch_band()` arranges them. -/
def bandPattern (band : BitVec 8) : BitVec 8 := (band &&& 0x01#8) ||| ((band &&& 0x0e#8) <<< 4)

/-- What an action tells the cwdevices. -/
def Action.signals (world : World) (action : Action) (state : State) : List Signal :=
  match action with
  | .key on => (state.libcw.keyingCallback.map (Signal.key · on)).toList
  | .request .reset _ => resetSignals state.globalCwdevice
  | .request .cwdevice name =>
    if State.Refused world name then []
    else
      freeSignals state.globalCwdevice ++
        if world.strdup then initSignals (State.selectedType world name) else []
  | .request .ssbWay payload =>
    if state.globalCwdevice = .lp then ((getLong payload).map fun lv => .ssbWay .lp (lv ≠ 0)).toList else []
  | .request .bandSwitch payload =>
    if state.globalCwdevice = .lp then
      (((getLong payload).filter fun lv => 0 ≤ lv ∧ lv ≤ 15).map fun lv => .band .lp (bandPattern (.ofInt 8 lv))).toList
    else []
  | .request .exit _ | .exit => freeSignals state.globalCwdevice
  | _ => []

namespace State

/-! ## Operations -/

/-- What happens between two states tells the cwdevices this. -/
def Gives (signals : List Signal) (before after : State) : Prop :=
  signalsOf after.log = signalsOf before.log ++ signals

namespace Gives

variable {before after : State} {signals : List Signal}

theorem of_log_eq (same : after.log = before.log) : Gives [] before after := by
  rw [Gives, same, List.append_nil]

theorem refl (state : State) : Gives [] state state := of_log_eq rfl

theorem trans {first second third : State} {later : List Signal} (earlier : Gives signals first second)
    (rest : Gives later second third) : Gives (signals ++ later) first third := by
  rw [Gives, rest, earlier, List.append_assoc]

theorem silently {third : State} (gives : Gives signals before after) (rest : Gives [] after third) :
    Gives signals before third := by
  have both := gives.trans rest
  rwa [List.append_nil] at both

theorem of_adds {allowed : Entry → Prop} (adds : Adds allowed before after)
    (unsignalled : ∀ entry, allowed entry → Unsignalled entry) : Gives [] before after := by
  obtain ⟨new, appended, ok⟩ := adds
  have none : signalsOf new = [] :=
    List.filterMap_eq_nil_iff.mpr fun entry member => unsignalled entry (ok entry member)
  rw [Gives, appended, signalsOf_append, none]

theorem record {call : Call} {signal : Signal} (is : call.signal = some signal) (state : State) :
    Gives [signal] state (state.record call) := by
  simp [Gives, signalsOf, record_log, is]

theorem unsignalled {call : Call} (none : call.signal = none) (state : State) :
    Gives [] state (state.record call) := by
  simp [Gives, signalsOf, record_log, none]

theorem callGenerator {call : Call} (none : call.signal = none) (change : Generator → Generator) (state : State) :
    Gives [] state (state.callGenerator call change) := unsignalled none state

end Gives

open Gives

theorem gives_ttysLines (on : Bool) (mask : BitVec 32) (state : State) : Gives [] state (state.ttysLines on mask) := by
  unfold ttysLines
  split
  · exact .refl state
  · exact .unsignalled rfl state

theorem gives_deviceCw (device : DeviceType) (on : Bool) (state : State) :
    Gives [.key device on] state (state.deviceCw device on) := by
  have told : Gives [.key device on] state (state.record (.deviceCw device on)) := .record rfl state
  cases device with
  | ttys => exact told.silently (gives_ttysLines _ _ _)
  | lp | null => exact told

theorem gives_devicePtt (device : DeviceType) (on : Bool) (state : State) :
    Gives [] state (state.devicePtt device on) := by
  have told : Gives [] state ((state.record (.devicePtt device on)).setDevice device
      { state.devices device with pttCommand := some on }) :=
    (Gives.unsignalled rfl state).silently (.of_log_eq rfl)
  cases device with
  | ttys => exact told.silently (gives_ttysLines _ _ _)
  | lp | null => exact told

theorem gives_deviceResetPinsState (device : DeviceType) (state : State) :
    Gives (resetSignals device) state (state.deviceResetPinsState device) := by
  have off := (gives_deviceCw device false state).silently (gives_devicePtt device false _)
  cases device with
  | ttys => exact off
  | lp => exact (off.trans (.record rfl _)).trans (.record rfl _)
  | null => exact .refl state

theorem gives_deviceFree (device : DeviceType) (state : State) :
    Gives (freeSignals device) state (state.deviceFree device) := by
  have reset := gives_deviceResetPinsState device state
  cases device with
  | ttys => exact (reset.trans (.record rfl _)).silently (.of_log_eq rfl)
  | lp => exact reset.trans (.record rfl _)
  | null => exact .refl state

theorem gives_deviceInit (device : DeviceType) (fd : Int) (state : State) :
    Gives (initSignals device) state (state.deviceInit device fd) := by
  have opened : Gives [.opened device] state ((state.record (.deviceInit device fd)).setDevice device
      { state.devices device with fd := fd, pttCommand := none }) :=
    (Gives.record rfl state).silently (.of_log_eq rfl)
  cases device with
  | ttys | lp => exact opened.trans (gives_deviceResetPinsState _ _)
  | null => exact opened

theorem gives_adoptCwdevice (world : World) (device : DeviceType) (fd : Int) (desc : Bytes) (state : State) :
    Gives (freeSignals state.globalCwdevice ++ if world.strdup then initSignals device else [])
      state (state.adoptCwdevice world device fd desc).2 := by
  have selected : Gives [] state { state with globalCwdevice := device } := .of_log_eq rfl
  have closed := selected.trans (gives_deviceFree state.globalCwdevice { state with globalCwdevice := device })
  simp only [adoptCwdevice]
  generalize deviceFree state.globalCwdevice { state with globalCwdevice := device } = freed at closed
  have described (device : DeviceType) (desc : Option Bytes) (state : State) :
      Gives [] state (state.setDesc device desc) := .of_log_eq rfl
  have cleared := (closed.silently (described state.globalCwdevice none freed)).silently (described device none _)
  split
  · exact (cleared.silently (described device (some desc) _)).trans (gives_deviceInit device fd _)
  · exact cleared.trans (.refl _)

theorem gives_escCwdevice (world : World) (name : Bytes) (state : State) :
    Gives ((Action.request .cwdevice name).signals world state) state (state.escCwdevice world name) := by
  have unkeyed : Gives [] state (state.cwRegisterKeyingCallback none) :=
    (Gives.unsignalled rfl state).silently (.of_log_eq rfl)
  have registered (device : Option DeviceType) (state : State) :
      Gives [] state (state.cwRegisterKeyingCallback device) := (Gives.unsignalled rfl state).silently (.of_log_eq rfl)
  have selected : Gives ((Action.request .cwdevice name).signals world state) state
      ((state.cwRegisterKeyingCallback none).optionCwdevice world name).2 := by
    rcases optionCwdevice_cases world name (state.cwRegisterKeyingCallback none) with
      ⟨refused, unchanged⟩ | ⟨accepted, fd, adopted⟩
    · simp only [Action.signals, if_pos refused, unchanged]
      exact unkeyed
    · simp only [Action.signals, if_neg accepted, adopted]
      exact unkeyed.trans (gives_adoptCwdevice world _ fd name _)
  simp only [escCwdevice]
  split
  · exact selected.silently (registered _ _)
  · exact selected

/-! ## What tells the devices nothing -/

theorem gives_setPttOn (state : State) : Gives [] state state.setPttOn := by
  unfold setPttOn
  split
  · exact (gives_devicePtt _ _ _).silently (.of_log_eq rfl)
  · exact .refl state

theorem gives_setPttOff (state : State) : Gives [] state state.setPttOff :=
  (gives_devicePtt _ _ _).silently (.of_log_eq rfl)

theorem gives_sendto (reply : Bytes) (state : State) : Gives [] state (state.sendto reply) := by
  unfold sendto
  split
  · exact .unsignalled rfl state
  · exact .of_log_eq rfl

theorem gives_prepareReply (request : Bytes) (state : State) : Gives [] state (state.prepareReply request) := by
  have addressed : Gives [] state { state.setPttFlag (state.pttFlag.set .echo) with replyAddr := state.requestAddr } :=
    .of_log_eq rfl
  unfold prepareReply
  split
  · exact .of_log_eq rfl
  · exact addressed.trans ((Gives.unsignalled rfl _).silently (.of_log_eq rfl))

theorem gives_toneQueueLowCallback (state : State) : Gives [] state state.toneQueueLowCallback := by
  have answered : Gives [] state state.answered := (Gives.of_log_eq rfl).trans (gives_sendto _ _)
  rw [toneQueueLowCallback_eq]
  split
  · exact gives_setPttOff state
  · split
    · split
      · exact (answered.trans (.callGenerator rfl _ _)).trans (.callGenerator rfl _ _)
      · exact answered
    · exact .refl state

theorem gives_dequeue (state : State) : Gives [] state state.dequeue := by
  rcases state.dequeue_cases with same | ⟨generator, tone, tones, -, -, -, dequeued⟩
  · rw [same]
    exact .refl state
  · have taken : Gives [] state (state.taken generator tone tones) :=
      (Gives.unsignalled rfl state).silently (.of_log_eq rfl)
    rw [dequeued]
    split
    · exact taken.trans (gives_toneQueueLowCallback _)
    · exact taken

theorem gives_textStep {world : World} {request : Bytes} {before after : State}
    (step : TextStep world request before after) : Gives [] before after := by
  cases step with
  | drain => exact gives_dequeue before
  | speed | replace => exact .of_log_eq rfl
  | sendSpeed | setGap | send => exact .callGenerator rfl _ before
  | getGap => exact .unsignalled rfl before
  | raise => exact gives_setPttOn before
  | caret => exact (Gives.of_log_eq rfl).trans (gives_prepareReply _ _)

theorem gives_receiveText {state : State} (wellformed : state.Wellformed) (world : World) {request : Bytes}
    (nulFree : 0 ∉ request) (length : request.length ≤ CWDAEMON_REQUEST_SIZE_MAX) :
    Gives [] state (state.receiveText world request) := by
  obtain ⟨after, reads, -, equal⟩ := reads_receiveText world request wellformed.idle nulFree
    (Nat.lt_of_le_of_lt length (by decide))
  have queued : Gives [] state { state with requestQueue := state.requestQueue.append request } := .of_log_eq rfl
  obtain ⟨-, read⟩ : True ∧ Gives [] { state with requestQueue := state.requestQueue.append request } after :=
    Reads.relates .refl (fun _ _ _ earlier later => earlier.trans later)
      (fun _ _ step _ => ⟨trivial, gives_textStep step⟩) reads trivial
  rw [equal]
  exact (queued.trans read).trans (.of_log_eq rfl)

theorem gives_cwSetSendSpeed (wpm : Int) (state : State) : Gives [] state (state.cwSetSendSpeed wpm) :=
  .callGenerator rfl _ state

theorem gives_cwSetFrequency (frequency : Int) (state : State) : Gives [] state (state.cwSetFrequency frequency) :=
  .callGenerator rfl _ state

theorem gives_cwSetVolume (volume : Int) (state : State) : Gives [] state (state.cwSetVolume volume) :=
  .callGenerator rfl _ state

theorem gives_cwSetWeighting (weighting : Int) (state : State) : Gives [] state (state.cwSetWeighting weighting) :=
  .callGenerator rfl _ state

theorem gives_cwFlushToneQueue (state : State) : Gives [] state state.cwFlushToneQueue := .callGenerator rfl _ state

theorem gives_cwQueueTone (usecs : Nat) (frequency : Int) (state : State) :
    Gives [] state (state.cwQueueTone usecs frequency) := .callGenerator rfl _ state

theorem gives_cwSendCharacter (world : World) (char : UInt8) (state : State) :
    Gives [] state (state.cwSendCharacter world char) := .callGenerator rfl _ state

theorem gives_cwWaitForToneQueue (state : State) : Gives [] state state.cwWaitForToneQueue := .unsignalled rfl state

/-! ## Requests -/

theorem gives_closeLibcwOutput (state : State) : Gives [] state state.closeLibcwOutput :=
  (Gives.callGenerator rfl _ state).trans ((Gives.unsignalled rfl _).silently (.of_log_eq rfl))

theorem gives_openLibcwOutput (world : World) (audioSystem : AudioSystem) (state : State) :
    Gives [] state (state.openLibcwOutput world audioSystem).2 :=
  .of_adds (adds_openLibcwOutput world audioSystem state) fun _ => unsignalled_of_opens

theorem gives_cwRegisterKeyingCallback (device : Option DeviceType) (state : State) :
    Gives [] state (state.cwRegisterKeyingCallback device) := (Gives.unsignalled rfl state).silently (.of_log_eq rfl)

theorem gives_configured (params : Params) (state : State) : Gives [] state (state.configured params) :=
  (((((Gives.callGenerator rfl _ _).trans (.callGenerator rfl _ _)).trans (.callGenerator rfl _ _)).trans
    (.callGenerator rfl _ _)).trans (.callGenerator rfl _ _)).trans (.callGenerator rfl _ _)

theorem gives_resetAlmostAll (world : World) (state : State) : Gives [] state (state.resetAlmostAll world).2 := by
  have current : Gives [] state { state with current := state.defaults } := .of_log_eq rfl
  have opened := (current.trans (gives_closeLibcwOutput _)).trans (gives_openLibcwOutput world
    ({ state with current := state.defaults } : State).closeLibcwOutput.defaults.audioSystem _)
  simp only [resetAlmostAll, resetLibcwOutput_configured]
  generalize openLibcwOutput world _ _ = output at opened ⊢
  obtain ⟨success, after⟩ := output
  have available (state : State) (success : Bool) : Gives [] state (state.setHasAudioOutput success) := .of_log_eq rfl
  cases success with
  | true =>
    have set := (opened.trans (gives_configured after.defaults after)).trans (available _ true)
    simp only [if_true]
    exact set.trans (gives_cwRegisterKeyingCallback _ _)
  | false => exact opened.trans (available _ false)

theorem gives_openOrFallBack (world : World) (state : State) : Gives [] state (state.openOrFallBack world) := by
  have opened := gives_openLibcwOutput world state.current.audioSystem state
  have fallen := (opened.trans (gives_closeLibcwOutput _)).trans (gives_openLibcwOutput world .null _)
  simp only [openOrFallBack]
  split
  · exact opened.trans (.of_log_eq rfl)
  · split
    · exact fallen.trans (.of_log_eq rfl)
    · exact fallen.trans (.of_log_eq rfl)

theorem gives_escReset (world : World) (payload : Bytes) (state : State) :
    Gives ((Action.request .reset payload).signals world state) state (state.escReset world) := by
  have cleared : Gives [] state state.clearRequestQueue := .of_log_eq rfl
  have reset := cleared.trans (gives_resetAlmostAll world state.clearRequestQueue)
  obtain ⟨success, libcw, log, equal, -⟩ := resetAlmostAll_eq world state.clearRequestQueue
  have current : (state.clearRequestQueue.resetAlmostAll world).2.globalCwdevice = state.globalCwdevice := by
    rw [equal]
    rfl
  simp only [escReset, Action.signals]
  generalize (state.clearRequestQueue.resetAlmostAll world).2 = after at reset current ⊢
  have character : Gives [] after { after with wordmode := false } := .of_log_eq rfl
  rw [← current]
  exact ((reset.trans character).trans (gives_deviceResetPinsState after.globalCwdevice _)).silently (.of_log_eq rfl)

theorem gives_escSoundSystem (world : World) (payload : Bytes) (state : State) :
    Gives [] state (state.escSoundSystem world payload) := by
  cases valid : paramsSystem payload with
  | none =>
    simp only [escSoundSystem, valid]
    exact .refl state
  | some system =>
    have selected : Gives [] state { state with current := { state.current with audioSystem := system } } :=
      .of_log_eq rfl
    have opened := (selected.trans (gives_closeLibcwOutput _)).trans (gives_openOrFallBack world _)
    rw [escSoundSystem_configured valid]
    simp only
    split
    · exact (opened.trans (gives_configured _ _)).trans (gives_cwRegisterKeyingCallback _ _)
    · exact opened

theorem gives_escAbort (state : State) : Gives [] state state.escAbort := by
  have broken : Gives [] state (if state.pttFlag.has .echo then state.sendto breakReply else state) := by
    split
    · exact gives_sendto _ state
    · exact .refl state
  generalize told : (if state.pttFlag.has .echo then state.sendto breakReply else state) = after at broken
  have cleared : Gives [] after after.clearRequestQueue := .of_log_eq rfl
  have flushed := (cleared.trans (gives_cwFlushToneQueue _)).trans (gives_cwWaitForToneQueue _)
  simp only [escAbort, told]
  split
  · exact .refl state
  · split
    · exact ((broken.trans flushed).trans (gives_setPttOff _)).trans (.of_log_eq rfl)
    · exact (broken.trans flushed).trans (.of_log_eq rfl)

theorem gives_tune (world : World) (seconds : Nat) (state : State) : Gives [] state (state.tune world seconds) := by
  have queued (seconds : Nat) (state : State) : Gives [] state (state.queueTuneTones seconds) := by
    induction seconds generalizing state with
    | zero => exact .refl state
    | succ seconds inductionHypothesis => exact (gives_cwQueueTone _ _ state).trans (inductionHypothesis _)
  unfold tune
  split
  · exact (((gives_cwFlushToneQueue state).trans (gives_setPttOn _)).trans (queued seconds _)).trans
      (gives_cwSendCharacter world (byte 'e') _)
  · exact .refl state

theorem gives_paramsPttOnOff (payload : Bytes) (state : State) : Gives [] state (state.paramsPttOnOff payload) := by
  rw [paramsPttOnOff_eq]
  split
  · exact .refl state
  · split
    · exact (gives_setPttOn state).trans (.of_log_eq rfl)
    · split
      · split
        · exact (Gives.of_log_eq rfl).trans (gives_setPttOff _)
        · exact .of_log_eq rfl
      · exact .refl state

theorem gives_exitProcess (code : Int) (state : State) :
    Gives (freeSignals state.globalCwdevice) state (state.exitProcess code) := by
  obtain ⟨log, closed⟩ := closeLibcwOutput_eq state
  have current : state.closeLibcwOutput.globalCwdevice = state.globalCwdevice := by
    rw [closed]
    rfl
  have freed := (gives_closeLibcwOutput state).trans (gives_deviceFree state.globalCwdevice state.closeLibcwOutput)
  simp only [exitProcess, current]
  exact freed.silently (.of_log_eq rfl)

theorem gives_handleEscRequest (world : World) (request : EscRequest) (payload : Bytes) (state : State) :
    Gives ((Action.request request payload).signals world state) state
      (state.handleEscRequest world request payload) := by
  have stored (params : Params) : Gives [] state { state with current := params } := .of_log_eq rfl
  cases request with
  | reset => exact gives_escReset world payload state
  | speed =>
    simp only [handleEscRequest, escSpeed]
    split
    · exact .refl state
    · exact (stored _).trans (gives_cwSetSendSpeed _ _)
  | tone =>
    simp only [handleEscRequest, escTone]
    split
    · exact .refl state
    · split
      · exact ((stored _).trans (gives_cwSetFrequency _ _)).trans (gives_cwSetVolume _ _)
      · exact (stored _).trans (gives_cwSetVolume 0 _)
  | abort => exact gives_escAbort state
  | exit => exact gives_exitProcess 0 state
  | wordMode => exact .of_log_eq rfl
  | weighting =>
    simp only [handleEscRequest, escWeighting]
    split
    · exact .refl state
    · exact (stored _).trans (gives_cwSetWeighting _ _)
  | cwdevice => exact gives_escCwdevice world payload state
  | port => exact .refl state
  | pttState => exact gives_paramsPttOnOff payload state
  | ssbWay =>
    simp only [handleEscRequest, escSsbWay, Action.signals]
    cases getLong payload with
    | none => simpa using Gives.refl state
    | some lv =>
      cases current : state.globalCwdevice with
      | lp => exact .record rfl state
      | ttys | null => exact .refl state
  | tune =>
    simp only [handleEscRequest, escTune]
    split
    · exact .refl state
    · exact gives_tune world _ state
  | txDelay =>
    simp only [handleEscRequest, escTxDelay]
    split
    · exact (Gives.of_log_eq rfl).trans (gives_setPttOff _)
    · exact .of_log_eq rfl
  | bandSwitch =>
    simp only [handleEscRequest, escBandSwitch, Action.signals]
    cases getLong payload with
    | none => simpa using Gives.refl state
    | some lv =>
      by_cases valid : 0 ≤ lv ∧ lv ≤ 15
      · simp only [ge_iff_le, if_pos valid, switchBand, Option.filter_some, decide_eq_true valid]
        cases current : state.globalCwdevice with
        | lp => exact .record rfl state
        | ttys | null => exact .refl state
      · simp only [ge_iff_le, if_neg valid, Option.filter_some, decide_eq_false valid]
        simpa using Gives.refl state
  | soundSystem => exact gives_escSoundSystem world payload state
  | volume =>
    simp only [handleEscRequest, escVolume]
    split
    · exact .refl state
    · exact (stored _).trans (gives_cwSetVolume _ _)
  | reply => exact gives_prepareReply _ state

theorem gives_act {state : State} (wellformed : state.Wellformed) (world : World) (input : Input) :
    Gives (input.action.signals world state) state (state.act world input.action) := by
  cases action : input.action with
  | idle => exact .refl state
  | request request payload => exact gives_handleEscRequest world request payload state
  | text request =>
    obtain ⟨nulFree, length⟩ := Input.action_text_bounds action
    exact gives_receiveText wellformed world nulFree length
  | exit => exact gives_exitProcess 1 state
  | dequeue => exact gives_dequeue state
  | key on =>
    simp only [act, keyingevent, Action.signals]
    cases state.libcw.keyingCallback with
    | none => exact .refl state
    | some device => exact (gives_deviceCw device on state).silently (.of_log_eq rfl)

/-- An action tells the same devices the same however the state is made ready for it. -/
theorem signals_ready (world : World) (action : Action) (input : Input) (state : State) :
    action.signals world (state.ready input) = action.signals world state := by
  have same := sameOutput_ready input state
  cases action with
  | key on => simp only [Action.signals, same.keyingCallback]
  | request request payload => cases request <;> simp only [Action.signals, same.globalCwdevice]
  | exit => simp only [Action.signals, same.globalCwdevice]
  | idle | text | dequeue => rfl

/-- Nothing but the receipt of a request is logged before the action of a step. -/
theorem ready_log (input : Input) (state : State) :
    (state.ready input).log = [] ∨
      ∃ client request moment, (state.ready input).log = [⟨.received client request, moment⟩] := by
  by_cases arrives : ∃ client bytes request, input = .datagram client bytes ∧ requestOf bytes = some request
  · obtain ⟨client, bytes, request, rfl, arrived⟩ := arrives
    obtain ⟨moment, received, -⟩ := ready_datagram arrived state
    exact .inr ⟨client, request, moment, received⟩
  · exact .inl (ready_log_empty input state fun client bytes request input arrived =>
      arrives ⟨client, bytes, request, input, arrived⟩)

/-- What a step tells the cwdevices. -/
theorem step_signals (label : Label) {state : State} (running : state.status = .running)
    (wellformed : state.Wellformed) :
    signalsOf (state.step label).log = label.input.action.signals label.world state := by
  have told := gives_act (wellformed.ready label.input) label.world label.input
  have before : signalsOf (state.ready label.input).log = [] := by
    rcases ready_log label.input state with empty | ⟨client, request, moment, received⟩
    · rw [empty]
      rfl
    · rw [received]
      rfl
  obtain ⟨polls, polled, only⟩ := step_log_eq label running
  have still : signalsOf polls = [] := List.filterMap_eq_nil_iff.mpr fun entry member => by
    obtain ⟨on, call⟩ := only entry member
    rw [call]
    rfl
  rw [Gives, before, List.nil_append, signals_ready] at told
  rw [polled, signalsOf_append, still, List.append_nil, told]

end State

end Cwdaemon
