import Cwdaemon.Daemon.Text

/-! # Escape requests -/

namespace Cwdaemon

/-- The codes `CWDAEMON_ESC_REQUEST_*`. -/
inductive EscRequest where
  | reset
  | speed
  | tone
  | abort
  | exit
  | wordMode
  | weighting
  | cwdevice
  | port
  | pttState
  | ssbWay
  | tune
  | txDelay
  | bandSwitch
  | soundSystem
  | volume
  | reply
  deriving DecidableEq, Repr

namespace EscRequest

def code : EscRequest → UInt8
  | reset => byte '0'
  | speed => byte '2'
  | tone => byte '3'
  | abort => byte '4'
  | exit => byte '5'
  | wordMode => byte '6'
  | weighting => byte '7'
  | cwdevice => byte '8'
  | port => byte '9'
  | pttState => byte 'a'
  | ssbWay => byte 'b'
  | tune => byte 'c'
  | txDelay => byte 'd'
  | bandSwitch => byte 'e'
  | soundSystem => byte 'f'
  | volume => byte 'g'
  | reply => byte 'h'

def all : List EscRequest :=
  [reset, speed, tone, abort, exit, wordMode, weighting, cwdevice, port, pttState, ssbWay, tune,
    txDelay, bandSwitch, soundSystem, volume, reply]

/-- The request a code stands for, if any. -/
def ofCode (char : UInt8) : Option EscRequest := all.find? (·.code == char)

end EscRequest

namespace State

/-! ## libcw output -/

/-- The attempts at OSS after the first one has failed. -/
def retryOss (world : World) : Nat → State → Bool × State
  | 0, state => (false, state)
  | attempts + 1, state =>
    let (success, state) := state.cwGeneratorNew world .oss
    if success then (true, state) else retryOss world attempts state

/-- `cwdaemon_open_libcw_output()`. -/
def openLibcwOutput (world : World) (audioSystem : AudioSystem) (state : State) : Bool × State :=
  let (success, state) := state.cwGeneratorNew world audioSystem
  let (success, state) :=
    if audioSystem = .oss ∧ success = false then state.retryOss world 5 else (success, state)
  if success then state.cwGeneratorStart world else (false, state)

/-- `cwdaemon_close_libcw_output()`. -/
def closeLibcwOutput (state : State) : State := state.cwGeneratorStop.cwGeneratorDelete

/-- `cwdaemon_reset_libcw_output()`, with `true` for its return value 0. -/
def resetLibcwOutput (world : World) (state : State) : Bool × State :=
  let state := state.closeLibcwOutput
  let (opened, state) := state.openLibcwOutput world state.defaults.audioSystem
  if opened then
    let state := state.cwRegisterToneQueueLowCallback tqLowWatermark
    let state := state.cwSetFrequency state.defaults.morseTone
    let state := state.cwSetSendSpeed state.defaults.morseSpeed
    let state := state.cwSetVolume state.defaults.morseVolume
    let state := state.cwSetGap 0
    (true, state.cwSetWeighting (libcwWeighting state.defaults.weighting))
  else (false, state)

def setHasAudioOutput (available : Bool) (state : State) : State :=
  { state with hasAudioOutput := available }

/-- `cwdaemon_reset_almost_all(global_cwdevice)`, with `true` for its return value 0. -/
def resetAlmostAll (world : World) (state : State) : Bool × State :=
  let state := { state with current := state.defaults }
  let (success, state) := state.resetLibcwOutput world
  if success then
    let state := state.setHasAudioOutput true
    (true, state.cwRegisterKeyingCallback (some state.globalCwdevice))
  else (false, state.setHasAudioOutput false)

/-- `exit()`: the functions registered with `atexit()` close libcw's output and the
current cwdevice. -/
def exitProcess (code : Int) (state : State) : State :=
  let state := state.closeLibcwOutput
  let state := state.deviceFree state.globalCwdevice
  { state with status := .exited code }

/-! ## The cases of `cwdaemon_handle_escaped_request()` -/

@[simps] def clearRequestQueue (state : State) : State :=
  { state with requestQueue := state.requestQueue.clear }

def escReset (world : World) (state : State) : State :=
  let state := state.clearRequestQueue
  let state := (state.resetAlmostAll world).2
  let state := { state with wordmode := false }
  let state := state.deviceResetPinsState state.globalCwdevice
  state.setPttFlag .zero

def escSpeed (payload : Bytes) (state : State) : State :=
  match paramsWpm payload with
  | none => state
  | some wpm => (state.setMorseSpeed wpm).cwSetSendSpeed wpm

def escTone (payload : Bytes) (state : State) : State :=
  match paramsTone payload with
  | none => state
  | some tone =>
    let state := { state with current := { state.current with morseTone := tone } }
    -- A tone of 0 is taken as a volume of 0, and the frequency of libcw stays.
    if tone > 0 then (state.cwSetFrequency tone).cwSetVolume state.current.morseVolume
    else state.cwSetVolume 0

def escAbort (state : State) : State :=
  if state.wordmode then state
  else
    -- A client that waits for a reply is told that there will be none.
    let state := if state.pttFlag.has .echo then state.sendto breakReply else state
    let state := state.clearRequestQueue
    let state := state.cwFlushToneQueue.cwWaitForToneQueue
    let state := if state.pttFlag.bits ≠ 0#8 then state.setPttOff else state
    state.setPttFlag .zero

def escWordMode (state : State) : State := { state.clearRequestQueue with wordmode := true }

def escWeighting (payload : Bytes) (state : State) : State :=
  match paramsWeighting payload with
  | none => state
  | some weighting =>
    { state with current := { state.current with weighting := weighting } }.cwSetWeighting
      (libcwWeighting weighting)

def escCwdevice (world : World) (payload : Bytes) (state : State) : State :=
  -- The callback is gone before it is known whether there will be another one.
  let state := state.cwRegisterKeyingCallback none
  let (success, state) := state.optionCwdevice world payload
  if success then state.cwRegisterKeyingCallback (some state.globalCwdevice) else state

def escPttState (payload : Bytes) (state : State) : State := state.paramsPttOnOff payload

def escSsbWay (payload : Bytes) (state : State) : State :=
  match getLong payload with
  | none => state
  | some lv =>
    match state.globalCwdevice with
    | .lp => state.record (.deviceSsbway .lp (lv ≠ 0))
    | .ttys => state
    | .null => state

def escTune (world : World) (payload : Bytes) (state : State) : State :=
  match paramsTune payload with
  | none => state
  | some seconds => state.tune world seconds.toNat

@[simps] def setPttDelayMs (delayMs : Nat) (state : State) : State :=
  { state with current := { state.current with pttDelayMs := delayMs } }

def escTxDelay (payload : Bytes) (state : State) : State :=
  let (rv, delayMs) := paramsPttdelay state.current.pttDelayMs payload
  let state := state.setPttDelayMs delayMs
  -- A value that is clipped counts as accepted.
  if rv ≠ 0 ∧ state.current.pttDelayMs = 0 then state.setPttOff else state

/-- `cwdaemon_switch_band()`. -/
def switchBand (band : BitVec 8) (state : State) : State :=
  let bitPattern := (band &&& 0x01#8) ||| ((band &&& 0x0e#8) <<< 4)
  match state.globalCwdevice with
  | .lp => state.record (.deviceSwitchband .lp bitPattern)
  | .ttys => state
  | .null => state

def escBandSwitch (payload : Bytes) (state : State) : State :=
  match getLong payload with
  | none => state
  | some lv => if lv ≥ 0 ∧ lv ≤ 15 then state.switchBand (BitVec.ofInt 8 lv) else state

/-- The new sound system, or else the fall-back to the "Null" sound system. -/
def openOrFallBack (world : World) (state : State) : State :=
  let (opened, state) := state.openLibcwOutput world state.current.audioSystem
  if opened then state.setHasAudioOutput true
  else
    let state := state.closeLibcwOutput
    let (opened, state) := state.openLibcwOutput world .null
    if opened then
      { state with current := { state.current with audioSystem := .null } }.setHasAudioOutput true
    else state.setHasAudioOutput false

def escSoundSystem (world : World) (payload : Bytes) (state : State) : State :=
  match paramsSystem payload with
  | none => state
  | some system =>
    let state := { state with current := { state.current with audioSystem := system } }
    let state := state.closeLibcwOutput.openOrFallBack world
    if state.hasAudioOutput then
      let state := state.cwRegisterToneQueueLowCallback tqLowWatermark
      let state := state.cwSetFrequency state.current.morseTone
      let state := state.cwSetSendSpeed state.current.morseSpeed
      let state := state.cwSetVolume state.current.morseVolume
      let state := state.cwSetGap 0
      let state := state.cwSetWeighting (libcwWeighting state.current.weighting)
      state.cwRegisterKeyingCallback (some state.globalCwdevice)
    else state

def escVolume (payload : Bytes) (state : State) : State :=
  match paramsVolume payload with
  | none => state
  | some volume =>
    { state with current := { state.current with morseVolume := volume } }.cwSetVolume volume

/-- The reply of a REPLY request includes the code `h`. -/
def escReply (payload : Bytes) (state : State) : State :=
  state.prepareReply (EscRequest.reply.code :: payload)

def handleEscRequest (world : World) (request : EscRequest) (payload : Bytes) (state : State) : State :=
  match request with
  | .reset => state.escReset world
  | .speed => state.escSpeed payload
  | .tone => state.escTone payload
  | .abort => state.escAbort
  | .exit => state.exitProcess 0
  | .wordMode => state.escWordMode
  | .weighting => state.escWeighting payload
  | .cwdevice => state.escCwdevice world payload
  | .port => state
  | .pttState => state.escPttState payload
  | .ssbWay => state.escSsbWay payload
  | .tune => state.escTune world payload
  | .txDelay => state.escTxDelay payload
  | .bandSwitch => state.escBandSwitch payload
  | .soundSystem => state.escSoundSystem world payload
  | .volume => state.escVolume payload
  | .reply => state.escReply payload

/-- The Escape request that a request is, with its payload: the characters behind
`<ESC>` and the code. -/
def escapeRequest : Bytes → Option (EscRequest × Bytes)
  | _ :: code :: payload => (EscRequest.ofCode code).map fun request => (request, payload)
  | _ => none

/-- `cwdaemon_handle_escaped_request()`.  An unknown code does nothing. -/
def handleEscapedRequest (world : World) (request : Bytes) (state : State) : State :=
  match escapeRequest request with
  | none => state
  | some (request, payload) => state.handleEscRequest world request payload

end State

end Cwdaemon
