import Cwdaemon.Daemon.Libcw

/-! # Parameters given as text

The parsers shared by the command line and the Escape requests.
-/

namespace Cwdaemon

open CString

def CWDAEMON_MORSE_WEIGHTING_DEFAULT : Int := 0
def CWDAEMON_MORSE_WEIGHTING_MIN : Int := -50
def CWDAEMON_MORSE_WEIGHTING_MAX : Int := 50
def CWDAEMON_MORSE_SPEED_DEFAULT : Int := 24
def CWDAEMON_MORSE_TONE_DEFAULT : Int := 800
def CWDAEMON_MORSE_VOLUME_DEFAULT : Int := 70
def CWDAEMON_NETWORK_PORT_MIN : Int := 1024
def CWDAEMON_NETWORK_PORT_MAX : Int := 65535
def CWDAEMON_NETWORK_PORT_DEFAULT : Int := 6789
def CWDAEMON_PTT_DELAY_DEFAULT : Nat := 0
def CWDAEMON_PTT_DELAY_MIN : Int := 0
def CWDAEMON_PTT_DELAY_MAX : Int := 50
def CWDAEMON_TUNE_SECONDS_MAX : Int := 10

/-- `cwdaemon_get_long()`. -/
def getLong (buf : Bytes) : Option Int :=
  if buf = [] then none
  else
    let parsed := strtol buf
    if parsed.rest ≠ [] then none
    else if parsed.erange ∧ (parsed.value = longMax ∨ parsed.value = longMin) then none
    else some parsed.value

/-- The value of an argument that has to be a number from `min` to `max`. -/
def paramsInRange (min max : Int) (optarg : Bytes) : Option Int :=
  match getLong optarg with
  | none => none
  | some lv => if lv < min ∨ lv > max then none else some lv

def paramsPriority (optarg : Bytes) : Option Int := paramsInRange (-20) 20 optarg

def paramsWpm (optarg : Bytes) : Option Int := paramsInRange CW_SPEED_MIN CW_SPEED_MAX optarg

def paramsTune (optarg : Bytes) : Option Int := paramsInRange 0 CWDAEMON_TUNE_SECONDS_MAX optarg

def paramsVolume (optarg : Bytes) : Option Int := paramsInRange CW_VOLUME_MIN CW_VOLUME_MAX optarg

def paramsWeighting (optarg : Bytes) : Option Int :=
  paramsInRange CWDAEMON_MORSE_WEIGHTING_MIN CWDAEMON_MORSE_WEIGHTING_MAX optarg

def paramsTone (optarg : Bytes) : Option Int :=
  paramsInRange CW_FREQUENCY_MIN CW_FREQUENCY_MAX optarg

def optionNetworkPort (optValue : Bytes) : Option Int :=
  paramsInRange CWDAEMON_NETWORK_PORT_MIN CWDAEMON_NETWORK_PORT_MAX optValue

/-- `cwdaemon_params_pttdelay()`: the return value, and `*delay_ms` after the call. -/
def paramsPttdelay (delayMs : Nat) (optarg : Bytes) : Nat × Nat :=
  match getLong optarg with
  | none => (0, delayMs)
  | some lv =>
    -- 2 says that the value was clipped, 0 that it was refused.
    if lv > CWDAEMON_PTT_DELAY_MAX then (2, CWDAEMON_PTT_DELAY_MAX.toNat)
    else if lv < CWDAEMON_PTT_DELAY_MIN then (0, delayMs)
    else (1, lv.toNat)

/-- `cwdaemon_params_system()`, which looks at the first character only. -/
def paramsSystem (optarg : Bytes) : Option AudioSystem :=
  match optarg with
  | [] => none
  | first :: _ =>
    if first = byte 'n' then some .null
    else if first = byte 'c' then some .console
    else if first = byte 's' then some .soundcard
    else if first = byte 'a' then some .alsa
    else if first = byte 'p' then some .pa
    else if first = byte 'o' then some .oss
    else none

/-- `(int) (weighting * 0.6 + CWDAEMON_MORSE_WEIGHTING_MAX)`, the weighting of libcw
for a weighting of the daemon. -/
def libcwWeighting (weighting : Int) : Int := CWDAEMON_MORSE_WEIGHTING_MAX + 6 * weighting / 10

/-! ## Options of the serial driver -/

/-- `find_opt_value()`: the value, when `input` is `keyword=value`. -/
def findOptValue (input keyword : Bytes) : Option Bytes :=
  let key := input.takeWhile (· ≠ byte '=')
  match input.dropWhile (· ≠ byte '=') with
  | [] => none
  | _ :: value =>
    if key = [] then none
    else if key.getLast?.any isspace ∨ value.head?.any isspace then none
    else if key.length ≠ keyword.length then none
    else if strcaseeq key keyword then some value
    else none

/-- The pin that "dtr", "rts" or "none" names. -/
def ttyPin (value : Bytes) : Option (BitVec 32) :=
  if strcaseeq value [byte 'd', byte 't', byte 'r'] then some TIOCM_DTR
  else if strcaseeq value [byte 'r', byte 't', byte 's'] then some TIOCM_RTS
  else if strcaseeq value [byte 'n', byte 'o', byte 'n', byte 'e'] then some 0#32
  else none

/-- What `ttys_optparse()` does to the options of the driver, with `true` for its return
value 0. -/
def optparse (option : Bytes) (dropt : TtyDriverOptions) : Bool × TtyDriverOptions :=
  match findOptValue option [byte 'k', byte 'e', byte 'y'] with
  | some value =>
    match ttyPin value with
    | some pin => (true, { dropt with key := pin })
    | none => (false, dropt)
  | none =>
    match findOptValue option [byte 'p', byte 't', byte 't'] with
    | some value =>
      match ttyPin value with
      | some pin => (true, { dropt with ptt := pin })
      | none => (false, dropt)
    | none => (false, dropt)

end Cwdaemon
