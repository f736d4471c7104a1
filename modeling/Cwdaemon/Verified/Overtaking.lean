import Cwdaemon.Foundations.Commuting
import Cwdaemon.Verified.Ending
import Cwdaemon.Verified.Works

/-! # Datagrams that overtake one another

On its way to the daemon a datagram may be overtaken by another one.  Requests for the
speed, for the sidetone and for the weighting may be handled in any order among each other,
among the requests about PTT, band and reply, and among the steps of libcw's thread.
-/

namespace Cwdaemon

open CString Commuting

/-! ## Adjustments -/

def Params.withDelay (delayMs : Nat) (params : Params) : Params := { params with pttDelayMs := delayMs }

def Generator.withTones (tones : List Tone) (generator : Generator) : Generator :=
  { generator with toneQueue := tones }

/-- A change of the state that PTT, replies and libcw's thread do not look at: of the
parameters other than the PTT delay, of the generator other than its tone queue, of the
clock of the main loop and of the address of the last client. -/
structure Adjustment where
  params : Params → Params
  generator : Params → Generator → Generator
  clock : Int → Int := id
  sender : SockaddrIn → SockaddrIn := id
  delayed : ∀ delayMs current, params (current.withDelay delayMs) = (params current).withDelay delayMs := by
    intros; rfl
  undelayed : ∀ delayMs current, generator (current.withDelay delayMs) = generator current := by
    intros; rfl
  queued : ∀ tones current owner,
      generator current (owner.withTones tones) = (generator current owner).withTones tones := by
    intros; rfl
  started : ∀ current owner, (generator current owner).started = owner.started := by
    intros; rfl
  lowWatermark : ∀ current owner, (generator current owner).lowWatermark = owner.lowWatermark := by
    intros; rfl

namespace Adjustment

variable (adjustment : Adjustment)

theorem pttDelayMs (current : Params) : (adjustment.params current).pttDelayMs = current.pttDelayMs := by
  have kept := congrArg Params.pttDelayMs (adjustment.delayed current.pttDelayMs current)
  exact kept

theorem toneQueue (current : Params) (owner : Generator) :
    (adjustment.generator current owner).toneQueue = owner.toneQueue := by
  have kept := congrArg Generator.toneQueue (adjustment.queued owner.toneQueue current owner)
  exact kept

theorem crossesLow (current : Params) (owner : Generator) :
    (adjustment.generator current owner).crossesLow = owner.crossesLow := by
  rw [Generator.crossesLow, adjustment.lowWatermark, adjustment.toneQueue]
  rfl

/-- Only the clock and the sender. -/
def unheard (clock : Int → Int) (sender : SockaddrIn → SockaddrIn) : Adjustment where
  params := id
  generator _ := id
  clock := clock
  sender := sender

/-- The same for parameters and generator. -/
def timed (clock : Int → Int) (sender : SockaddrIn → SockaddrIn) : Adjustment where
  __ := adjustment
  clock := clock
  sender := sender

def speed (wpm : Int) : Adjustment where
  params current := { current with morseSpeed := wpm }
  generator _ owner := { owner with sendSpeed := wpm }

def tone (tone : Int) : Adjustment where
  params current := { current with morseTone := tone }
  generator current owner :=
    if tone > 0 then { owner with frequency := tone, volume := current.morseVolume } else { owner with volume := 0 }
  queued _ _ _ := by
    split <;> rfl
  started _ _ := by
    split <;> rfl
  lowWatermark _ _ := by
    split <;> rfl

def volume (volume : Int) : Adjustment where
  params current := { current with morseVolume := volume }
  generator _ owner := { owner with volume := volume }

def weighting (weighting : Int) : Adjustment where
  params current := { current with weighting := weighting }
  generator _ owner := { owner with weighting := libcwWeighting weighting }

end Adjustment

namespace State

def adjust (adjustment : Adjustment) (state : State) : State :=
  { state with
    current := adjustment.params state.current
    libcw := { state.libcw with generator := state.libcw.generator.map (adjustment.generator state.current) }
    inactivitySeconds := adjustment.clock state.inactivitySeconds
    requestAddr := adjustment.sender state.requestAddr }

variable (adjustment : Adjustment) (state : State)

@[simp] theorem adjust_pttFlag : (state.adjust adjustment).pttFlag = state.pttFlag := rfl
@[simp] theorem adjust_requestQueue : (state.adjust adjustment).requestQueue = state.requestQueue := rfl
@[simp] theorem adjust_globalCwdevice : (state.adjust adjustment).globalCwdevice = state.globalCwdevice := rfl
@[simp] theorem adjust_devices : (state.adjust adjustment).devices = state.devices := rfl
@[simp] theorem adjust_wordmode : (state.adjust adjustment).wordmode = state.wordmode := rfl
@[simp] theorem adjust_replyBuffer : (state.adjust adjustment).replyBuffer = state.replyBuffer := rfl
@[simp] theorem adjust_status : (state.adjust adjustment).status = state.status := rfl

@[simp] theorem adjust_pttDelayMs : (state.adjust adjustment).current.pttDelayMs = state.current.pttDelayMs :=
  adjustment.pttDelayMs state.current

@[simp] theorem adjust_toneQueueLength : (state.adjust adjustment).toneQueueLength = state.toneQueueLength := by
  simp only [toneQueueLength, Libcw.toneQueueLength, adjust]
  cases state.libcw.generator with
  | none => rfl
  | some owner => exact congrArg List.length (adjustment.toneQueue state.current owner)

theorem adjust_moment : (state.adjust adjustment).moment = state.moment := by
  simp only [moment, adjust_toneQueueLength, adjust_pttDelayMs]
  rfl

/-! ## What does not look at the difference -/

@[simp] theorem record_adjust (call : Call) :
    (state.adjust adjustment).record call = (state.record call).adjust adjustment := by
  rw [record, adjust_moment]
  rfl

@[simp] theorem setPttFlag_adjust (flag : PttFlag) :
    (state.adjust adjustment).setPttFlag flag = (state.setPttFlag flag).adjust adjustment := rfl

@[simp] theorem setDevice_adjust (type : DeviceType) (device : Cwdevice) :
    (state.adjust adjustment).setDevice type device = (state.setDevice type device).adjust adjustment := rfl

@[simp] theorem clearRequestQueue_adjust :
    (state.adjust adjustment).clearRequestQueue = state.clearRequestQueue.adjust adjustment := rfl

@[simp] theorem ttysLines_adjust (on : Bool) (mask : BitVec 32) :
    (state.adjust adjustment).ttysLines on mask = (state.ttysLines on mask).adjust adjustment := by
  unfold ttysLines
  split
  · rfl
  · rw [record_adjust, adjust_devices]

@[simp] theorem deviceCw_adjust (type : DeviceType) (on : Bool) :
    (state.adjust adjustment).deviceCw type on = (state.deviceCw type on).adjust adjustment := by
  cases type <;> simp [deviceCw]

@[simp] theorem devicePtt_adjust (type : DeviceType) (on : Bool) :
    (state.adjust adjustment).devicePtt type on = (state.devicePtt type on).adjust adjustment := by
  cases type <;> simp [devicePtt]

@[simp] theorem setPttOn_adjust : (state.adjust adjustment).setPttOn = state.setPttOn.adjust adjustment := by
  simp only [setPttOn, adjust_pttDelayMs, adjust_pttFlag, adjust_globalCwdevice, devicePtt_adjust, setPttFlag_adjust]
  split <;> rfl

@[simp] theorem setPttOff_adjust : (state.adjust adjustment).setPttOff = state.setPttOff.adjust adjustment := by
  simp [setPttOff]

/-- Calls to libcw that change nothing but the tone queue. -/
theorem callGenerator_adjust (call : Call) (change : List Tone → List Tone) :
    (state.adjust adjustment).callGenerator call (fun owner => owner.withTones (change owner.toneQueue)) =
      (state.callGenerator call fun owner => owner.withTones (change owner.toneQueue)).adjust adjustment := by
  rw [callGenerator, record_adjust]
  cases owned : state.libcw.generator with
  | none => simp [callGenerator, setGenerator, adjust, owned]
  | some owner =>
    simp [callGenerator, setGenerator, adjust, owned, adjustment.queued, adjustment.toneQueue]

@[simp] theorem cwQueueTone_adjust (usecs : Nat) (frequency : Int) :
    (state.adjust adjustment).cwQueueTone usecs frequency = (state.cwQueueTone usecs frequency).adjust adjustment :=
  callGenerator_adjust adjustment state (.queueTone usecs frequency) fun tones => tones ++ [(⟨usecs, frequency⟩ : Tone)]

@[simp] theorem cwFlushToneQueue_adjust :
    (state.adjust adjustment).cwFlushToneQueue = state.cwFlushToneQueue.adjust adjustment :=
  callGenerator_adjust adjustment state .flushToneQueue fun _ => []

@[simp] theorem sendto_adjust (reply : Bytes) :
    (state.adjust adjustment).sendto reply = (state.sendto reply).adjust adjustment := by
  unfold sendto
  split
  · exact record_adjust ..
  · rfl

@[simp] theorem answered_adjust : (state.adjust adjustment).answered = state.answered.adjust adjustment :=
  sendto_adjust adjustment
    { state.setPttFlag (state.pttFlag.unset .echo) with replyBuffer := state.replyBuffer.append crlf } _

@[simp] theorem toneQueueLowCallback_adjust :
    (state.adjust adjustment).toneQueueLowCallback = state.toneQueueLowCallback.adjust adjustment := by
  simp only [toneQueueLowCallback_eq, adjust_pttFlag, adjust_requestQueue, adjust_toneQueueLength, setPttOff_adjust,
    answered_adjust, cwQueueTone_adjust]
  split_ifs <;> rfl

theorem taken_adjust (owner : Generator) (tone : Tone) (tones : List Tone) :
    (state.adjust adjustment).taken (adjustment.generator state.current owner) tone tones =
      (state.taken owner tone tones).adjust adjustment := by
  have left := adjustment.queued tones state.current owner
  simp only [Generator.withTones] at left
  simp only [taken, adjust_moment]
  simp only [adjust, withLibcw, Option.map_some, left]

@[simp] theorem dequeue_adjust : (state.adjust adjustment).dequeue = state.dequeue.adjust adjustment := by
  cases owned : state.libcw.generator with
  | none => simp only [dequeue, adjust, owned, Option.map_none]
  | some owner =>
    have owned' : (state.adjust adjustment).libcw.generator = some (adjustment.generator state.current owner) := by
      simp only [adjust, owned, Option.map_some]
    cases started : owner.started with
    | false => simp only [dequeue, owned, owned', adjustment.started, started]
    | true =>
      cases queued : owner.toneQueue with
      | nil => simp only [dequeue, owned, owned', adjustment.started, started, adjustment.toneQueue, queued]
      | cons tone tones =>
        -- The callback comes at the same time, since the level does not depend on the adjustment.
        rw [dequeue_eq owned started queued, dequeue_eq owned' ((adjustment.started ..).trans started)
          ((adjustment.toneQueue ..).trans queued), adjustment.crossesLow, taken_adjust, toneQueueLowCallback_adjust]
        split <;> rfl

@[simp] theorem setPttDelayMs_adjust (delayMs : Nat) :
    (state.adjust adjustment).setPttDelayMs delayMs = (state.setPttDelayMs delayMs).adjust adjustment := by
  have delayed := adjustment.delayed delayMs state.current
  have undelayed := adjustment.undelayed delayMs state.current
  simp only [Params.withDelay] at delayed undelayed
  simp only [setPttDelayMs, adjust, delayed, undelayed]

theorem paramsPttOnOff_adjust (payload : Bytes) :
    (state.adjust adjustment).paramsPttOnOff payload = (state.paramsPttOnOff payload).adjust adjustment := by
  unfold paramsPttOnOff
  split
  · rfl
  · split
    · simp only [adjust_pttDelayMs, setPttOn_adjust]
      split <;> rfl
    · simp only [adjust_pttFlag, setPttFlag_adjust, adjust_requestQueue, adjust_toneQueueLength, setPttOff_adjust]
      split_ifs <;> rfl

theorem escTxDelay_adjust (payload : Bytes) :
    (state.adjust adjustment).escTxDelay payload = (state.escTxDelay payload).adjust adjustment := by
  simp only [escTxDelay, adjust_pttDelayMs, setPttDelayMs_adjust, setPttOff_adjust]
  split <;> rfl

theorem escAbort_adjust : (state.adjust adjustment).escAbort = state.escAbort.adjust adjustment := by
  simp only [escAbort, adjust_wordmode, adjust_pttFlag, sendto_adjust, ← apply_ite (adjust adjustment),
    clearRequestQueue_adjust, cwFlushToneQueue_adjust, cwWaitForToneQueue, record_adjust, setPttOff_adjust,
    setPttFlag_adjust]
  rfl

theorem escBandSwitch_adjust (payload : Bytes) :
    (state.adjust adjustment).escBandSwitch payload = (state.escBandSwitch payload).adjust adjustment := by
  have switched (band : BitVec 8) : (state.adjust adjustment).switchBand band =
      (state.switchBand band).adjust adjustment := by
    unfold switchBand
    simp only [adjust_globalCwdevice, record_adjust]
    split <;> rfl
  unfold escBandSwitch
  split
  · rfl
  · split
    · exact switched _
    · rfl

theorem escSsbWay_adjust (payload : Bytes) :
    (state.adjust adjustment).escSsbWay payload = (state.escSsbWay payload).adjust adjustment := by
  unfold escSsbWay
  split
  · rfl
  · simp only [adjust_globalCwdevice, record_adjust]
    split <;> rfl

/-- A reply is meant for the last client. -/
theorem escReply_adjust (payload : Bytes) (known : adjustment.sender state.requestAddr = state.requestAddr) :
    (state.adjust adjustment).escReply payload = (state.escReply payload).adjust adjustment := by
  let addressed : State := { state.setPttFlag (state.pttFlag.set .echo) with replyAddr := state.requestAddr }
  have addressed' : { (state.setPttFlag (state.pttFlag.set .echo)).adjust adjustment with
      replyAddr := adjustment.sender state.requestAddr } = addressed.adjust adjustment := by
    rw [known]
    rfl
  have client : (addressed.adjust adjustment).requestAddr = addressed.requestAddr := known
  cases copied : Buffer.copy? (CWDAEMON_REPLY_SIZE_MAX + 1) (EscRequest.reply.code :: payload) with
  | none =>
    simp only [escReply, prepareReply, copied]
    exact congrArg (fun state : State => { state with status := .overrun }) addressed'
  | some reply =>
    have prepared := congrArg (fun state : State =>
      { state.record (.prepared state.requestAddr reply.bytes) with replyBuffer := reply }) addressed'
    simp only [client, record_adjust] at prepared
    simp only [escReply, prepareReply, copied]
    exact prepared

theorem keyingevent_adjust (on : Bool) (still : adjustment.clock 0 = 0) :
    (state.adjust adjustment).keyingevent on = (state.keyingevent on).adjust adjustment := by
  cases registered : state.libcw.keyingCallback with
  | none => simp only [keyingevent, adjust, registered]
  | some device =>
    have registered' : (state.adjust adjustment).libcw.keyingCallback = some device := registered
    simp only [keyingevent, registered, registered', deviceCw_adjust]
    simp only [adjust, still]

end State

/-! ## Requests that may overtake one another -/

/-- What a step is about, of those that may be taken in another order. -/
inductive Part where
  | speed
  | sidetone
  | weighting
  | rest
  deriving DecidableEq, Repr

def Action.part : Action → Option Part
  | .idle | .dequeue | .key _ => some .rest
  | .text _ | .exit => none
  | .request code _ =>
    match code with
    | .speed => some .speed
    | .tone | .volume => some .sidetone
    | .weighting => some .weighting
    | .abort | .wordMode | .port | .pttState | .ssbWay | .txDelay | .bandSwitch | .reply => some .rest
    | .reset | .exit | .cwdevice | .tune | .soundSystem => none

/-- What an action about speed, sidetone or weighting changes. -/
def Action.tuning : Action → Option Adjustment
  | .request .speed payload => (paramsWpm payload).map .speed
  | .request .tone payload => (paramsTone payload).map .tone
  | .request .volume payload => (paramsVolume payload).map .volume
  | .request .weighting payload => (paramsWeighting payload).map .weighting
  | _ => none

namespace State

/-- The state apart from its log, the clock of the main loop and the last client. -/
def view (state : State) : State := { state with log := [], inactivitySeconds := 0, requestAddr := ⟨0, 0⟩ }

/-- An adjustment of the sound alone, if there is one. -/
def retune (tuning : Option Adjustment) (state : State) : State :=
  tuning.elim state fun adjustment => state.adjust (adjustment.timed id id)

theorem act_adjust (adjustment : Adjustment) (world : World) {action : Action} (part : action.part = some .rest)
    (still : ∀ on, action = .key on → adjustment.clock 0 = 0) (state : State)
    (known : ∀ payload, action = .request .reply payload → adjustment.sender state.requestAddr = state.requestAddr) :
    (state.adjust adjustment).act world action = (state.act world action).adjust adjustment := by
  cases action with
  | idle => rfl
  | dequeue => exact dequeue_adjust ..
  | key on => exact keyingevent_adjust adjustment state on (still on rfl)
  | text | exit => cases part
  | request request payload =>
    cases request with
    | abort => exact escAbort_adjust ..
    | wordMode | port => rfl
    | pttState => exact paramsPttOnOff_adjust ..
    | ssbWay => exact escSsbWay_adjust ..
    | txDelay => exact escTxDelay_adjust ..
    | bandSwitch => exact escBandSwitch_adjust ..
    | reply => exact escReply_adjust adjustment state payload (known payload rfl)
    | speed | tone | volume | weighting | reset | exit | cwdevice | tune | soundSystem => cases part

theorem finish_adjust (adjustment : Adjustment) (world : World) (input : Input) (state : State) :
    (state.adjust adjustment).finish world input = (state.finish world input).adjust adjustment := by
  have polled : (state.adjust adjustment).pollFootswitch world = (state.pollFootswitch world).adjust adjustment := by
    unfold pollFootswitch
    simp only [adjust_globalCwdevice, devicePtt_adjust]
    split <;> rfl
  cases input with
  | datagram | timeout | receiveError =>
    simp only [finish, adjust_status, polled]
    split <;> rfl
  | dequeue | key => rfl

theorem countInactivity_adjust (adjustment : Adjustment) (state : State) :
    ∃ clock, (state.adjust adjustment).countInactivity =
      state.countInactivity.adjust (adjustment.timed clock adjustment.sender) := by
  obtain ⟨seconds, counted⟩ := countInactivity_eq state
  obtain ⟨seconds', counted'⟩ := countInactivity_eq (state.adjust adjustment)
  refine ⟨fun _ => seconds', ?_⟩
  rw [counted, counted']
  rfl

theorem arrive_adjust (adjustment : Adjustment) (client : SockaddrIn) (bytes : Bytes) (state : State) :
    (state.adjust adjustment).arrive client bytes =
      (state.arrive client bytes).adjust (adjustment.timed adjustment.clock id) := by
  simp only [arrive]
  split
  · rfl
  · exact record_adjust (adjustment.timed adjustment.clock id) { state with requestAddr := client } _

/-- Of an adjustment, only the clock and the sender may be lost when a step begins. -/
theorem ready_adjust (adjustment : Adjustment) (input : Input) (state : State) :
    ∃ clock sender,
      (state.adjust adjustment).ready input = (state.ready input).adjust (adjustment.timed clock sender) ∧
      (∀ on, input = .key on → clock = adjustment.clock) ∧
      (∀ client bytes, input = .datagram client bytes → sender = id) := by
  obtain ⟨clock, counted⟩ := countInactivity_adjust adjustment { state with log := [] }
  cases input with
  | datagram client bytes =>
    have arrived := arrive_adjust (adjustment.timed clock adjustment.sender) client bytes
      { state with log := [] }.countInactivity
    rw [← counted] at arrived
    exact ⟨clock, id, arrived, nofun, fun _ _ _ => rfl⟩
  | timeout | receiveError => exact ⟨clock, adjustment.sender, counted, nofun, nofun⟩
  | dequeue | key => exact ⟨adjustment.clock, adjustment.sender, rfl, fun _ _ => rfl, nofun⟩

theorem view_adjust (adjustment : Adjustment) (state : State) :
    (state.adjust adjustment).view = state.view.adjust (adjustment.timed id id) := rfl

theorem view_view (state : State) : state.view.view = state.view := rfl

/-- A step that is not about the sound goes on below an adjustment. -/
theorem step_adjust (adjustment : Adjustment) (still : adjustment.clock 0 = 0) {label : Label}
    (part : label.input.action.part = some .rest) {state : State} (running : state.status = .running) :
    ((state.adjust adjustment).step label).view = (state.step label).view.adjust (adjustment.timed id id) := by
  obtain ⟨clock, sender, ready, same, known⟩ := ready_adjust adjustment label.input state
  have running' : (state.adjust adjustment).status = .running := running
  rw [step_eq label running, step_eq label running', ready, act_adjust (adjustment.timed clock sender) label.world part,
    finish_adjust, view_adjust]
  · rfl
  -- A key sets the clock to 0, and a request for a reply comes with a client of its own.
  · intro on keys
    rw [same on (Input.action_key keys)]
    exact still
  · intro payload replies
    obtain ⟨client, bytes, datagram, -⟩ := Input.action_request replies
    rw [known client bytes datagram]
    rfl

theorem adjust_unheard (clock : Int → Int) (sender : SockaddrIn → SockaddrIn) (state : State) :
    state.adjust (.unheard clock sender) =
      { state with inactivitySeconds := clock state.inactivitySeconds, requestAddr := sender state.requestAddr } := by
  simp only [adjust, Adjustment.unheard, Option.map_id, id]

/-- What is not in view does not matter to such a step. -/
theorem step_view {label : Label} (part : label.input.action.part = some .rest) {state : State}
    (running : state.status = .running) : (state.view.step label).view = (state.step label).view := by
  have unheard : state.view.step label = (state.adjust (.unheard (fun _ => 0) fun _ => ⟨0, 0⟩)).step label := by
    rw [adjust_unheard]
    rfl
  rw [unheard, step_adjust _ rfl part running]
  exact adjust_unheard id id _

/-! ## Steps about the sound -/

theorem act_tuning (world : World) {action : Action} {part : Part} (tuned : action.part = some part)
    (sound : part ≠ .rest) (state : State) : (state.act world action).view = (state.retune action.tuning).view := by
  cases action with
  | idle | dequeue | key on =>
    cases tuned
    exact absurd rfl sound
  | text | exit => cases tuned
  | request request payload =>
    cases request with
    | speed =>
      simp only [act, handleEscRequest, escSpeed, Action.tuning]
      cases paramsWpm payload <;> rfl
    | tone =>
      simp only [act, handleEscRequest, escTone, Action.tuning]
      cases paramsTone payload with
      | none => rfl
      | some tone =>
        simp only [retune, Option.map_some, Option.elim_some, adjust, Adjustment.timed, Adjustment.tone]
        -- An audible tone sets the volume as well, which is why tone and volume are one part.
        by_cases audible : tone > 0
        · simp only [if_pos audible, cwSetFrequency, cwSetVolume, callGenerator, setGenerator, record_libcw,
            Option.map_map]
          rfl
        · simp only [if_neg audible]
          rfl
    | volume =>
      simp only [act, handleEscRequest, escVolume, Action.tuning]
      cases paramsVolume payload <;> rfl
    | weighting =>
      simp only [act, handleEscRequest, escWeighting, Action.tuning]
      cases paramsWeighting payload <;> rfl
    | abort | wordMode | port | pttState | ssbWay | txDelay | bandSwitch | reply =>
      cases tuned
      exact absurd rfl sound
    | reset | exit | cwdevice | tune | soundSystem => cases tuned

theorem view_retune (tuning : Option Adjustment) (state : State) :
    (state.retune tuning).view = state.view.retune tuning := by
  cases tuning <;> rfl

theorem ready_view (input : Input) (state : State) : (state.ready input).view = state.view := by
  obtain ⟨seconds, addr, log, ready, -⟩ := ready_eq input state
  rw [ready]
  rfl

theorem finish_away {state : State} (away : state.globalCwdevice ≠ .lp) (world : World) (input : Input) :
    state.finish world input = state := by
  have polled : state.pollFootswitch world = state := by
    unfold pollFootswitch
    split
    case h_1 port => exact absurd port away
    case h_2 | h_3 => rfl
  cases input with
  | datagram | timeout | receiveError =>
    simp only [finish, polled, ite_self]
  | dequeue | key => rfl

theorem step_tuning {label : Label} {part : Part} (tuned : label.input.action.part = some part)
    (sound : part ≠ .rest) {state : State} (running : state.status = .running) (away : state.globalCwdevice ≠ .lp) :
    (state.step label).view = state.view.retune label.input.action.tuning := by
  have acted := act_tuning label.world tuned sound (state.ready label.input)
  rw [view_retune, ready_view] at acted
  have stays :
      ((state.ready label.input).act label.world label.input.action).globalCwdevice = state.globalCwdevice := by
    have current := congrArg State.globalCwdevice acted
    exact current.trans (by cases label.input.action.tuning <;> rfl)
  rw [step_eq label running, finish_away (stays ▸ away), acted]

end State

/-! ## Any order -/

/-- Two adjustments of the sound that can be made in either order. -/
structure Adjustment.Independent (first second : Adjustment) : Prop where
  params : ∀ current, second.params (first.params current) = first.params (second.params current)
  generator : ∀ current owner, second.generator (first.params current) (first.generator current owner) =
    first.generator (second.params current) (second.generator current owner)

theorem Action.tuning_cases {action : Action} {part : Part} (tuned : action.part = some part) (sound : part ≠ .rest) :
    action.tuning = none ∨
    (part = .speed ∧ ∃ wpm, action.tuning = some (.speed wpm)) ∨
    (part = .sidetone ∧ ∃ tone, action.tuning = some (.tone tone)) ∨
    (part = .sidetone ∧ ∃ volume, action.tuning = some (.volume volume)) ∨
    (part = .weighting ∧ ∃ weighting, action.tuning = some (.weighting weighting)) := by
  cases action with
  | idle | dequeue | key on =>
    cases tuned
    exact absurd rfl sound
  | text | exit => cases tuned
  | request request payload =>
    cases request with
    | speed =>
      cases tuned
      cases accepted : paramsWpm payload <;> simp [tuning, accepted]
    | tone =>
      cases tuned
      cases accepted : paramsTone payload <;> simp [tuning, accepted]
    | volume =>
      cases tuned
      cases accepted : paramsVolume payload <;> simp [tuning, accepted]
    | weighting =>
      cases tuned
      cases accepted : paramsWeighting payload <;> simp [tuning, accepted]
    | abort | wordMode | port | pttState | ssbWay | txDelay | bandSwitch | reply =>
      cases tuned
      exact absurd rfl sound
    | reset | exit | cwdevice | tune | soundSystem => cases tuned

theorem Action.independent {action action' : Action} {part part' : Part} (tuned : action.part = some part)
    (tuned' : action'.part = some part') (sound : part ≠ .rest) (sound' : part' ≠ .rest) (different : part ≠ part')
    {first second : Adjustment} (tuning : action.tuning = some first) (tuning' : action'.tuning = some second) :
    first.Independent second := by
  rcases tuning_cases tuned sound with none | ⟨rfl, wpm, set⟩ | ⟨rfl, tone, set⟩ | ⟨rfl, volume, set⟩ |
    ⟨rfl, weighting, set⟩
  · rw [none] at tuning
    cases tuning
  all_goals
    rw [set] at tuning
    cases tuning
    rcases tuning_cases tuned' sound' with none | ⟨rfl, wpm', set'⟩ | ⟨rfl, tone', set'⟩ | ⟨rfl, volume', set'⟩ |
      ⟨rfl, weighting', set'⟩
    · rw [none] at tuning'
      cases tuning'
    -- Adjustments of one part do not meet; the others change different fields.
    all_goals
      first
        | exact absurd rfl different
        | rw [set'] at tuning'
          cases tuning'
          refine ⟨fun _ => rfl, fun _ _ => ?_⟩
          first
            | rfl
            | simp only [Adjustment.tone]
              split <;> rfl

namespace State

theorem retune_comm {first second : Option Adjustment}
    (independent : ∀ adjustment ∈ first, ∀ adjustment' ∈ second, Adjustment.Independent adjustment adjustment')
    (state : State) : (state.retune first).retune second = (state.retune second).retune first := by
  cases first with
  | none => cases second <;> rfl
  | some adjustment =>
    cases second with
    | none => rfl
    | some adjustment' =>
      obtain ⟨params, generator⟩ := independent adjustment rfl adjustment' rfl
      simp only [retune, Option.elim_some, adjust, Adjustment.timed, params, Option.map_map, id]
      cases state.libcw.generator with
      | none => rfl
      | some owner => simp only [Option.map_some, Function.comp_apply, generator]

/-- The daemon runs, and no footswitch interferes with PTT. -/
def Free (state : State) : Prop := state.status = .running ∧ state.globalCwdevice ≠ .lp

instance (state : State) : Decidable state.Free := inferInstanceAs (Decidable (_ ∧ _))

/-- A step that may be taken in another order, as far as it is in view. -/
def overtake (state : State) (label : Label) : Option State :=
  if state.Free ∧ label.input.action.part.isSome ∧ (state.step label).Free then some (state.step label).view else none

end State

def Label.part (label : Label) : Part := label.input.action.part.getD .rest

namespace State

variable {state : State} {label : Label}

theorem free_view : state.view.Free ↔ state.Free := Iff.rfl

theorem free_retune (tuning : Option Adjustment) : (state.retune tuning).Free ↔ state.Free := by
  cases tuning <;> exact Iff.rfl

theorem overtake_sound {part : Part} (tuned : label.input.action.part = some part) (sound : part ≠ .rest) :
    state.overtake label = if state.Free then some (state.view.retune label.input.action.tuning) else none := by
  unfold overtake
  by_cases free : state.Free
  · have stepped := step_tuning tuned sound free.1 free.2
    have stays : (state.step label).Free := by
      rw [← free_view, stepped, free_retune, free_view]
      exact free
    rw [if_pos ⟨free, by rw [tuned]; rfl, stays⟩, if_pos free, stepped]
  · rw [if_neg fun condition => free condition.1, if_neg free]

theorem overtake_rest (rest : label.input.action.part = some .rest) :
    state.overtake label = if state.Free ∧ (state.step label).Free then some (state.step label).view else none := by
  simp [overtake, rest]

theorem overtake_none (excluded : label.input.action.part = none) : state.overtake label = none := by
  simp [overtake, excluded]

theorem commute_sound {first second : Label} {part part' : Part} (tuned : first.input.action.part = some part)
    (tuned' : second.input.action.part = some part') (sound : part ≠ .rest) (sound' : part' ≠ .rest)
    (different : part ≠ part') : Commute overtake first second := by
  intro state
  have independent := retune_comm fun adjustment tuning adjustment' tuning' =>
    Action.independent tuned tuned' sound sound' different (Option.mem_def.mp tuning) (Option.mem_def.mp tuning')
  simp only [overtake_sound tuned sound, overtake_sound tuned' sound']
  by_cases free : state.Free
  · simp only [if_pos free, Option.bind_some, free_retune, free_view, view_retune, view_view, independent]
  · simp only [if_neg free, Option.bind_none]

theorem step_retune (tuning : Option Adjustment) (rest : label.input.action.part = some .rest)
    (running : state.status = .running) :
    ((state.view.retune tuning).step label).view = (state.step label).view.retune tuning := by
  cases tuning with
  | none => exact step_view rest running
  | some adjustment =>
    have stepped := step_adjust (adjustment.timed id id) rfl rest (show state.view.status = .running from running)
    rw [step_view rest running] at stepped
    exact stepped

theorem commute_rest {first second : Label} {part : Part} (tuned : first.input.action.part = some part)
    (sound : part ≠ .rest) (rest : second.input.action.part = some .rest) : Commute overtake first second := by
  intro state
  simp only [overtake_sound tuned sound, overtake_rest rest]
  by_cases free : state.Free
  · have stepped := step_retune first.input.action.tuning rest free.1
    -- Whether the daemon is still free after the other step does not depend on the sound.
    have stays : ((state.view.retune first.input.action.tuning).step second).Free ↔ (state.step second).Free := by
      rw [← free_view, stepped, free_retune, free_view]
    simp only [free, if_true, Option.bind_some, free_retune, free_view, stays, stepped, true_and]
    by_cases after : (state.step second).Free
    · simp only [if_pos after, Option.bind_some, free_view, view_view]
    · simp only [if_neg after, Option.bind_none]
  · simp [free]

theorem commute_none {first : Label} (excluded : first.input.action.part = none) (second : Label) :
    Commute overtake first second := by
  intro state
  rw [overtake_none excluded]
  cases state.overtake second with
  | none => rfl
  | some after => exact (overtake_none excluded).symm

/-- Steps that are about different things can be taken in either order. -/
theorem overtake_byKind : ByKind overtake Label.part := by
  intro first second different
  cases part : first.input.action.part with
  | none => exact commute_none part second
  | some its =>
    cases part' : second.input.action.part with
    | none => exact (commute_none part' first).symm
    | some its' =>
      have different' : its ≠ its' := by simpa [Label.part, part, part'] using different
      by_cases sound : its = .rest
      · have sound' : its' ≠ .rest := fun rest => different' (sound.trans rest.symm)
        exact (commute_rest part' sound' (sound ▸ part)).symm
      · by_cases sound' : its' = .rest
        · exact commute_rest part sound (sound' ▸ part')
        · exact commute_sound part part' sound sound' different'

/-- None of these steps ends the daemon or takes it to another cwdevice. -/
theorem part_licence {action : Action} (permitted : action.part.isSome = true) (state : State) :
    action.exitCode = none ∧ ¬ (action.licence state).replaces := by
  cases action with
  | idle | dequeue | key => exact ⟨rfl, by simp [Action.licence]⟩
  | text | exit => cases permitted
  | request request payload =>
    cases request with
    | reset | exit | cwdevice | tune | soundSystem => cases permitted
    | _ => exact ⟨rfl, by simp [Action.licence]⟩

theorem Free.step (free : state.Free) (wellformed : state.Wellformed) (linked : state.Linked)
    (permitted : label.input.action.part.isSome = true) : (state.step label).Free := by
  obtain ⟨lives, stays⟩ := part_licence permitted (state.ready label.input)
  have works := Works.step label (.inr linked) (.refl (label.licence state))
  refine ⟨?_, (works.globalCwdevice stays).symm ▸ free.2⟩
  rw [step_status label free.1 wellformed]
  simp [statusAfter, lives]

theorem overtake_view (free : state.Free) (wellformed : state.Wellformed) (linked : state.Linked)
    (permitted : label.input.action.part.isSome = true) :
    state.view.overtake label = some (state.step label).view := by
  have after := free.step wellformed linked permitted
  obtain ⟨part, its⟩ := Option.isSome_iff_exists.mp permitted
  by_cases sound : part = .rest
  · subst sound
    have same : (state.view.step label).Free ↔ (state.step label).Free := by
      rw [← free_view, step_view its free.1, free_view]
    rw [overtake_rest its, if_pos ⟨free, same.mpr after⟩, step_view its free.1]
  · rw [overtake_sound its sound, if_pos (free_view.mpr free), step_tuning its sound free.1 free.2, view_view]

theorem foldlM_overtake (free : state.Free) (wellformed : state.Wellformed) (linked : state.Linked)
    {labels : List Label} (permitted : ∀ label ∈ labels, label.input.action.part.isSome = true) :
    labels.foldlM overtake state.view = some (Runs.run step labels state).view := by
  induction labels generalizing state with
  | nil => rfl
  | cons label labels inductionHypothesis =>
    obtain ⟨here, rest⟩ := List.forall_mem_cons.mp permitted
    rw [foldlM_cons, overtake_view free wellformed linked here, Option.bind_some, Runs.run_cons]
    exact inductionHypothesis (free.step wellformed linked here) (wellformed.step label)
      (linked.step label wellformed) rest

end State

open State

/-- Requests for speed, sidetone and weighting can overtake one another and all that is about
PTT, replies, band and the tones that libcw takes: in any reachable state, unless a footswitch
interferes, what comes of a run of such steps is decided by the steps about each of these
things in their order. -/
theorem datagrams_may_overtake {state : State} (reachable : Reachable state) (running : state.status = .running)
    (away : state.globalCwdevice ≠ .lp) {labels labels' : List Label}
    (permitted : ∀ label ∈ labels, label.input.action.part.isSome = true)
    (permitted' : ∀ label ∈ labels', label.input.action.part.isSome = true)
    (same : ∀ part, ofKind Label.part part labels = ofKind Label.part part labels') :
    (Runs.run State.step labels state).view = (Runs.run State.step labels' state).view := by
  have free : state.Free := ⟨running, away⟩
  have outcome := foldlM_overtake free reachable.wellformed reachable.linked permitted
  have outcome' := foldlM_overtake free reachable.wellformed reachable.linked permitted'
  rw [overtake_byKind.foldlM_eq same, outcome'] at outcome
  exact (Option.some.inj outcome).symm

/-- A speed overtakes a volume, PTT by hand and a tone taken by libcw. -/
theorem speed_may_overtake :
    (Runs.run State.step [calm.receivesEscape .volume [byte '5'], calm.receivesEscape .pttState [byte '1'],
      ⟨calm, .dequeue⟩, calm.receivesEscape .speed [byte '9']] onSerialPort).view =
    (Runs.run State.step [calm.receivesEscape .speed [byte '9'], calm.receivesEscape .pttState [byte '1'],
      calm.receivesEscape .volume [byte '5'], ⟨calm, .dequeue⟩] onSerialPort).view := by
  refine datagrams_may_overtake ⟨onSerialPort, [], started_onSerialPort, rfl⟩ (by decide +kernel) (by decide +kernel)
    (by decide +kernel) (by decide +kernel) fun part => ?_
  cases part <;> rfl

end Cwdaemon
