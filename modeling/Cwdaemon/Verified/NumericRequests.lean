import Cwdaemon.Foundations.Parsing
import Cwdaemon.Verified.InStep

/-! # Requests and options with a number

Nine Escape requests, and the command line options for the same parameters, take a
number.  `Accepts` is the range that is documented for it, `obey` and `Arg.stores` are
what is done with a number in the range.  Any other text is refused, and nothing is done.
-/

namespace Cwdaemon

open CString State

/-! ## Numbers -/

theorem getLong_iff {text : Bytes} {value : Int} : getLong text = some value ↔ Denotes text value := by
  constructor
  · intro accepted
    simp only [getLong] at accepted
    split at accepted
    · cases accepted
    case isFalse nonempty =>
      split at accepted
      · cases accepted
      case isFalse read =>
        -- The text is a number, which `strtol()` has clamped only if it says so.
        obtain ⟨number, numeral⟩ := numeral_of_strtol nonempty (not_not.mp read)
        rw [strtol_numeral numeral, clampLong] at accepted
        by_cases high : number > longMax
        · simp [high] at accepted
        · by_cases low : number < longMin
          · simp [high, low] at accepted
          · simp only [if_neg high, if_neg low] at accepted
            cases accepted
            exact ⟨numeral, by omega, by omega⟩
  · rintro ⟨numeral, low, high⟩
    have nonempty : text ≠ [] := by
      obtain ⟨blanks, sign, digits, negative, rfl, -, -, some, -⟩ := numeral
      simp [some]
    have read : strtol text = ⟨value, [], false⟩ := by
      rw [strtol_numeral numeral, clampLong, if_neg (by omega), if_neg (by omega)]
    simp [getLong, nonempty, read]

theorem paramsInRange_iff {min max value : Int} {optarg : Bytes} :
    paramsInRange min max optarg = some value ↔ Denotes optarg value ∧ min ≤ value ∧ value ≤ max := by
  rw [← getLong_iff]
  unfold paramsInRange
  cases getLong optarg with
  | none => simp
  | some number =>
    simp only [Option.some.injEq]
    split
    · constructor
      · nofun
      · rintro ⟨rfl, bounds⟩
        omega
    · constructor
      · intro same
        cases same
        omega
      · rintro ⟨rfl, -⟩
        rfl

theorem paramsInRange_of_getLong (min max : Int) {optarg : Bytes} {value : Int} (parsed : getLong optarg = some value) :
    (min ≤ value ∧ value ≤ max → paramsInRange min max optarg = some value) ∧
      (¬ (min ≤ value ∧ value ≤ max) → paramsInRange min max optarg = none) := by
  simp only [paramsInRange, parsed]
  constructor
  · intro bounds
    rw [if_neg (by omega)]
  · intro outside
    rw [if_pos (by omega)]

/-! ## Requests -/

namespace EscRequest

/-- The requests with the codes 2, 3, 7, a, b, c, d, e and g. -/
def isNumeric : EscRequest → Bool
  | speed | tone | weighting | pttState | ssbWay | tune | txDelay | bandSwitch | volume => true
  | reset | abort | exit | wordMode | cwdevice | port | soundSystem | reply => false

/-- The numbers that a request is meant to take.  A delay above the maximum is taken as
the maximum. -/
def Accepts (request : EscRequest) (value : Int) : Prop :=
  match request with
  | speed => CW_SPEED_MIN ≤ value ∧ value ≤ CW_SPEED_MAX
  | tone => CW_FREQUENCY_MIN ≤ value ∧ value ≤ CW_FREQUENCY_MAX
  | weighting => CWDAEMON_MORSE_WEIGHTING_MIN ≤ value ∧ value ≤ CWDAEMON_MORSE_WEIGHTING_MAX
  | volume => CW_VOLUME_MIN ≤ value ∧ value ≤ CW_VOLUME_MAX
  | tune => 0 ≤ value ∧ value ≤ CWDAEMON_TUNE_SECONDS_MAX
  | bandSwitch => 0 ≤ value ∧ value ≤ 15
  | txDelay => CWDAEMON_PTT_DELAY_MIN ≤ value
  | pttState | ssbWay => True
  | _ => False

/-- The number that counts when `value` was asked for. -/
def taken (request : EscRequest) (value : Int) : Int :=
  if request = txDelay then min value CWDAEMON_PTT_DELAY_MAX else value

/-- The parameter that a request sets. -/
def stored (request : EscRequest) (params : Params) : Option Int :=
  match request with
  | speed => some params.morseSpeed
  | tone => some params.morseTone
  | weighting => some params.weighting
  | volume => some params.morseVolume
  | txDelay => some params.pttDelayMs
  | _ => none

end EscRequest

theorem paramsPttdelay_of_accepts (delayMs : Nat) {optarg : Bytes} {value : Int}
    (parsed : getLong optarg = some value) (accepts : EscRequest.txDelay.Accepts value) :
    (paramsPttdelay delayMs optarg).1 ≠ 0 ∧
      (paramsPttdelay delayMs optarg).2 = (EscRequest.txDelay.taken value).toNat := by
  have bottom : CWDAEMON_PTT_DELAY_MIN = 0 := rfl
  have top : CWDAEMON_PTT_DELAY_MAX = 50 := rfl
  simp only [EscRequest.Accepts] at accepts
  simp only [paramsPttdelay, parsed, EscRequest.taken, if_true]
  by_cases long : value > CWDAEMON_PTT_DELAY_MAX
  · rw [if_pos long]
    refine ⟨by decide, ?_⟩
    show CWDAEMON_PTT_DELAY_MAX.toNat = _
    omega
  · rw [if_neg long, if_neg (by omega)]
    refine ⟨Nat.one_ne_zero, ?_⟩
    show value.toNat = _
    omega

namespace State

/-- What a request does with a number that it accepts. -/
def obey (world : World) (request : EscRequest) (value : Int) (state : State) : State :=
  match request with
  | .speed => (state.setMorseSpeed value).cwSetSendSpeed value
  | .tone =>
    let state := { state with current := { state.current with morseTone := value } }
    if value > 0 then (state.cwSetFrequency value).cwSetVolume state.current.morseVolume
    else state.cwSetVolume 0
  | .weighting =>
    { state with current := { state.current with weighting := value } }.cwSetWeighting (libcwWeighting value)
  | .volume => { state with current := { state.current with morseVolume := value } }.cwSetVolume value
  | .tune => state.tune world value.toNat
  | .txDelay =>
    let state := state.setPttDelayMs (EscRequest.txDelay.taken value).toNat
    if value = 0 then state.setPttOff else state
  | .bandSwitch => state.switchBand (BitVec.ofInt 8 value)
  | .pttState =>
    if value ≠ 0 then state.setPttOn.setPttFlag (state.setPttOn.pttFlag.set .manual)
    else if state.pttFlag.has .manual then
      if state.requestQueue.bytes = [] ∧ state.toneQueueLength ≤ 1 then
        (state.setPttFlag (state.pttFlag.unset .manual)).setPttOff
      else state.setPttFlag ((state.pttFlag.unset .manual).set .auto)
    else state
  | .ssbWay =>
    match state.globalCwdevice with
    | .lp => state.record (.deviceSsbway .lp (value ≠ 0))
    | .ttys => state
    | .null => state
  | _ => state

/-- A request with a number is obeyed when it accepts the number, and else ignored. -/
theorem handleEscRequest_numeric (world : World) {request : EscRequest} (numeric : request.isNumeric = true)
    (payload : Bytes) (state : State) :
    (∀ value, getLong payload = some value → request.Accepts value →
      state.handleEscRequest world request payload = state.obey world request value) ∧
    ((∀ value, getLong payload = some value → ¬ request.Accepts value) →
      state.handleEscRequest world request payload = state) := by
  cases parsed : getLong payload with
  | none =>
    refine ⟨by simp, fun _ => ?_⟩
    cases request with
    | reset | abort | exit | wordMode | cwdevice | port | soundSystem | reply => cases numeric
    | speed | tone | weighting | tune | volume =>
      simp [handleEscRequest, escSpeed, escTone, escWeighting, escTune, escVolume, paramsWpm, paramsTone,
        paramsWeighting, paramsTune, paramsVolume, paramsInRange, parsed]
    | txDelay =>
      simp only [handleEscRequest, escTxDelay, paramsPttdelay, parsed]
      rfl
    | pttState => simp [handleEscRequest, escPttState, paramsPttOnOff, parsed]
    | ssbWay => simp [handleEscRequest, escSsbWay, parsed]
    | bandSwitch => simp [handleEscRequest, escBandSwitch, parsed]
  | some number =>
    simp only [Option.some.injEq, forall_eq']
    cases request with
    | reset | abort | exit | wordMode | cwdevice | port | soundSystem | reply => cases numeric
    | speed =>
      obtain ⟨inside, outside⟩ := paramsInRange_of_getLong CW_SPEED_MIN CW_SPEED_MAX parsed
      refine ⟨fun accepts => ?_, fun refused => ?_⟩
      · simp only [handleEscRequest, escSpeed, paramsWpm, inside accepts]
        rfl
      · simp only [handleEscRequest, escSpeed, paramsWpm, outside refused]
    | tone =>
      obtain ⟨inside, outside⟩ := paramsInRange_of_getLong CW_FREQUENCY_MIN CW_FREQUENCY_MAX parsed
      refine ⟨fun accepts => ?_, fun refused => ?_⟩
      · simp only [handleEscRequest, escTone, paramsTone, inside accepts]
        rfl
      · simp only [handleEscRequest, escTone, paramsTone, outside refused]
    | weighting =>
      obtain ⟨inside, outside⟩ := paramsInRange_of_getLong CWDAEMON_MORSE_WEIGHTING_MIN CWDAEMON_MORSE_WEIGHTING_MAX parsed
      refine ⟨fun accepts => ?_, fun refused => ?_⟩
      · simp only [handleEscRequest, escWeighting, paramsWeighting, inside accepts]
        rfl
      · simp only [handleEscRequest, escWeighting, paramsWeighting, outside refused]
    | tune =>
      obtain ⟨inside, outside⟩ := paramsInRange_of_getLong 0 CWDAEMON_TUNE_SECONDS_MAX parsed
      refine ⟨fun accepts => ?_, fun refused => ?_⟩
      · simp only [handleEscRequest, escTune, paramsTune, inside accepts]
        rfl
      · simp only [handleEscRequest, escTune, paramsTune, outside refused]
    | volume =>
      obtain ⟨inside, outside⟩ := paramsInRange_of_getLong CW_VOLUME_MIN CW_VOLUME_MAX parsed
      refine ⟨fun accepts => ?_, fun refused => ?_⟩
      · simp only [handleEscRequest, escVolume, paramsVolume, inside accepts]
        rfl
      · simp only [handleEscRequest, escVolume, paramsVolume, outside refused]
    | txDelay =>
      have bottom : CWDAEMON_PTT_DELAY_MIN = 0 := rfl
      have top : CWDAEMON_PTT_DELAY_MAX = 50 := rfl
      constructor
      · intro accepts
        obtain ⟨positive, clipped⟩ := paramsPttdelay_of_accepts state.current.pttDelayMs parsed accepts
        have off : (EscRequest.txDelay.taken number).toNat = 0 ↔ number = 0 := by
          simp only [EscRequest.Accepts, EscRequest.taken, if_true] at accepts ⊢
          omega
        simp only [handleEscRequest, escTxDelay, obey, clipped, positive, ne_eq, not_false_eq_true, true_and]
        exact if_congr off rfl rfl
      · intro negative
        simp only [EscRequest.Accepts] at negative
        have refused : paramsPttdelay state.current.pttDelayMs payload = (0, state.current.pttDelayMs) := by
          simp only [paramsPttdelay, parsed]
          rw [if_neg (by omega), if_pos (by omega)]
        simp only [handleEscRequest, escTxDelay, refused]
        rfl
    | pttState =>
      simp only [handleEscRequest, escPttState, paramsPttOnOff_eq, parsed, EscRequest.Accepts]
      exact ⟨fun _ => rfl, fun refused => absurd trivial refused⟩
    | ssbWay =>
      simp only [handleEscRequest, escSsbWay, parsed, EscRequest.Accepts]
      exact ⟨fun _ => rfl, fun refused => absurd trivial refused⟩
    | bandSwitch =>
      simp only [handleEscRequest, escBandSwitch, parsed, EscRequest.Accepts]
      exact ⟨fun accepts => if_pos accepts, fun refused => if_neg refused⟩

theorem current_setPttOff (state : State) : state.setPttOff.current = state.current :=
  (SameTuning.setPttOff state).current

/-- The number that is kept is the one that was asked for. -/
theorem obey_stored (world : World) {request : EscRequest} {value : Int} (accepts : request.Accepts value)
    (state : State) :
    ∀ kept ∈ request.stored (state.obey world request value).current, kept = request.taken value := by
  cases request with
  | speed | weighting | volume =>
    intro kept member
    cases member
    rfl
  | tone =>
    intro kept member
    simp only [obey, EscRequest.stored] at member
    split at member <;> cases member <;> rfl
  | txDelay =>
    have bottom : CWDAEMON_PTT_DELAY_MIN = 0 := rfl
    have top : CWDAEMON_PTT_DELAY_MAX = 50 := rfl
    simp only [EscRequest.Accepts] at accepts
    have known : (state.obey world .txDelay value).current.pttDelayMs = (EscRequest.txDelay.taken value).toNat := by
      simp only [obey]
      split
      · rw [current_setPttOff]
        rfl
      · rfl
    intro kept member
    simp only [EscRequest.stored, known, Option.mem_def, Option.some.injEq] at member
    simp only [← member, EscRequest.taken, if_true]
    omega
  | reset | abort | exit | wordMode | cwdevice | port | pttState | ssbWay | tune | bandSwitch | soundSystem | reply =>
    simp [EscRequest.stored]

/-- An Escape request with a known code is handled as the request that the code stands for. -/
theorem handleRequest_escape (world : World) (request : EscRequest) (payload : Bytes) (state : State) :
    state.handleRequest world (ASCII_ESC :: request.code :: payload) =
      state.handleEscRequest world request payload := by
  have known : EscRequest.ofCode request.code = some request := by cases request <;> decide
  simp only [handleRequest, List.head?_cons, ne_eq, not_true_eq_false, if_false, handleEscapedRequest,
    escapeRequest, known, Option.map_some]

end State

/-! ## Options -/

/-- The text of an option with a number, and the range of the number. -/
def Arg.numeral : Arg → Option (Bytes × Int × Int)
  | .wpm value => some (value, CW_SPEED_MIN, CW_SPEED_MAX)
  | .tone value => some (value, CW_FREQUENCY_MIN, CW_FREQUENCY_MAX)
  | .weighting value => some (value, CWDAEMON_MORSE_WEIGHTING_MIN, CWDAEMON_MORSE_WEIGHTING_MAX)
  | .volume value => some (value, CW_VOLUME_MIN, CW_VOLUME_MAX)
  | .pttdelay value => some (value, CWDAEMON_PTT_DELAY_MIN, CWDAEMON_PTT_DELAY_MAX)
  | .port value => some (value, CWDAEMON_NETWORK_PORT_MIN, CWDAEMON_NETWORK_PORT_MAX)
  | .priority value => some (value, -20, 20)
  | .cwdevice _ | .options _ | .system _ => none

/-- The command line takes no delay that has to be clipped. -/
theorem paramsPttdelay_iff {delayMs : Nat} {optarg : Bytes} {delay : Nat} :
    paramsPttdelay delayMs optarg = (1, delay) ↔
      ∃ value, Denotes optarg value ∧ CWDAEMON_PTT_DELAY_MIN ≤ value ∧ value ≤ CWDAEMON_PTT_DELAY_MAX ∧
        delay = value.toNat := by
  simp only [← getLong_iff]
  unfold paramsPttdelay
  cases getLong optarg with
  | none => simp
  | some number =>
    simp only [Option.some.injEq, exists_eq_left']
    by_cases long : number > CWDAEMON_PTT_DELAY_MAX
    · simp only [if_pos long, Prod.mk.injEq]
      omega
    · by_cases negative : number < CWDAEMON_PTT_DELAY_MIN
      · simp only [if_neg long, if_pos negative, Prod.mk.injEq]
        omega
      · simp only [if_neg long, if_neg negative, Prod.mk.injEq, true_and]
        constructor
        · rintro rfl
          exact ⟨by omega, by omega, rfl⟩
        · rintro ⟨-, -, rfl⟩
          rfl

/-- The state with the number of an option in the place it is kept in. -/
def Arg.stores (arg : Arg) (value : Int) (state : State) : State :=
  match arg with
  | .wpm _ => state.setDefaults { state.defaults with morseSpeed := value }
  | .tone _ => state.setDefaults { state.defaults with morseTone := value }
  | .weighting _ => state.setDefaults { state.defaults with weighting := value }
  | .volume _ => state.setDefaults { state.defaults with morseVolume := value }
  | .pttdelay _ => state.setDefaults { state.defaults with pttDelayMs := value.toNat }
  | .port _ => { state with networkPort := value }
  | .priority _ => { state with processPriority := value }
  | .cwdevice _ | .options _ | .system _ => state

theorem argsProcess_numeral {arg : Arg} {text : Bytes} {min max : Int} (numeral : arg.numeral = some (text, min, max))
    (world : World) (state after : State) :
    state.argsProcess world arg = some after ↔
      ∃ value, Denotes text value ∧ min ≤ value ∧ value ≤ max ∧ after = arg.stores value state := by
  have checked (store : Int → State) :
      (paramsInRange min max text).map store = some after ↔
        ∃ value, Denotes text value ∧ min ≤ value ∧ value ≤ max ∧ after = store value := by
    rw [Option.map_eq_some_iff]
    constructor
    · rintro ⟨value, accepted, rfl⟩
      obtain ⟨denotes, bounds⟩ := paramsInRange_iff.mp accepted
      exact ⟨value, denotes, bounds.1, bounds.2, rfl⟩
    · rintro ⟨value, denotes, low, high, rfl⟩
      exact ⟨value, paramsInRange_iff.mpr ⟨denotes, low, high⟩, rfl⟩
  cases arg with
  | cwdevice | options | system => cases numeral
  | wpm | tone | weighting | volume | port | priority =>
    cases numeral
    exact checked _
  | pttdelay =>
    cases numeral
    have split : state.argsProcess world (.pttdelay text) = some after ↔
        ∃ delay, paramsPttdelay state.defaults.pttDelayMs text = (1, delay) ∧
          after = state.setDefaults { state.defaults with pttDelayMs := delay } := by
      simp only [State.argsProcess]
      generalize paramsPttdelay state.defaults.pttDelayMs text = result
      obtain ⟨rv, delayMs⟩ := result
      constructor
      · intro processed
        split at processed
        · cases processed
          simp_all
        · cases processed
      · rintro ⟨delay, same, rfl⟩
        cases same
        rfl
    rw [split]
    simp only [paramsPttdelay_iff]
    constructor
    · rintro ⟨delay, ⟨number, denotes, low, high, rfl⟩, rfl⟩
      exact ⟨number, denotes, low, high, rfl⟩
    · rintro ⟨number, denotes, low, high, rfl⟩
      exact ⟨_, ⟨number, denotes, low, high, rfl⟩, rfl⟩

/-- In every state a request with a number is obeyed exactly if its payload is a number
in the range of the request, and else changes nothing and calls nobody; and an option
with a number is accepted exactly if it is in the range of the option, and is stored as
it is. -/
theorem numbers_are_accepted_exactly_when_valid (world : World) (state : State) :
    (∀ request : EscRequest, request.isNumeric = true → ∀ payload,
      (∀ value, Denotes payload value → request.Accepts value →
        state.handleRequest world (ASCII_ESC :: request.code :: payload) = state.obey world request value ∧
        ∀ kept ∈ request.stored (state.obey world request value).current, kept = request.taken value) ∧
      ((¬ ∃ value, Denotes payload value ∧ request.Accepts value) →
        state.handleRequest world (ASCII_ESC :: request.code :: payload) = state)) ∧
    ∀ (arg : Arg) (text : Bytes) (min max : Int), arg.numeral = some (text, min, max) → ∀ after,
      (state.argsProcess world arg = some after ↔
        ∃ value, Denotes text value ∧ min ≤ value ∧ value ≤ max ∧ after = arg.stores value state) := by
  refine ⟨fun request numeric payload => ?_, fun arg text min max numeral after => ?_⟩
  · obtain ⟨obeyed, ignored⟩ := handleEscRequest_numeric world numeric payload state
    simp only [handleRequest_escape]
    constructor
    · intro value denotes accepts
      exact ⟨obeyed value (getLong_iff.mpr denotes) accepts, obey_stored world accepts state⟩
    · intro outside
      exact ignored fun value parsed accepts => outside ⟨value, getLong_iff.mp parsed, accepts⟩
  · exact argsProcess_numeral numeral world state after

/-- The number of a text of decimal digits. -/
theorem denotes_digits : Denotes [byte '3', byte '0'] 30 := getLong_iff.mp (by decide)

/-- A speed of 30 is taken from a request and from the command line. -/
theorem speed_of_30_is_accepted :
    onSerialPort.handleRequest calm [ASCII_ESC, EscRequest.speed.code, byte '3', byte '0'] =
      (onSerialPort.setMorseSpeed 30).cwSetSendSpeed 30 ∧
    onSerialPort.argsProcess calm (.wpm [byte '3', byte '0']) =
      some (onSerialPort.setDefaults { onSerialPort.defaults with morseSpeed := 30 }) :=
  ⟨(((numbers_are_accepted_exactly_when_valid calm onSerialPort).1 .speed rfl _).1 30 denotes_digits ⟨by decide, by decide⟩).1,
    ((numbers_are_accepted_exactly_when_valid calm onSerialPort).2 _ _ _ _ rfl _).mpr
      ⟨30, denotes_digits, by decide, by decide, rfl⟩⟩

end Cwdaemon
