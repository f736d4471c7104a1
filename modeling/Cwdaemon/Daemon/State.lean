import Cwdaemon.Foundations.CString
import Mathlib.Logic.Function.Basic
import Mathlib.Tactic.Simps.Basic

/-! # The state of the daemon

The file-scope variables of `cwdaemon.c`, the three cwdevices, and as much of
libcw as the daemon can observe.  What the daemon asks of the world outside
(device probes, sound systems, libcw's answers) is not part of the state: it is a
`World`, given anew with every step.

Every call that leaves the daemon is logged together with a `Moment`: the PTT of
the current cwdevice, the request queue and the length of the tone queue at the
time of the call.
-/

namespace Cwdaemon

open CString (Buffer)

abbrev Bytes := List UInt8

/-- A character constant of the source. -/
def byte (char : Char) : UInt8 := char.toUInt8

def ASCII_ESC : UInt8 := 27

def CWDAEMON_REQUEST_SIZE_MAX : Nat := 256
def CWDAEMON_REPLY_SIZE_MAX : Nat := CWDAEMON_REQUEST_SIZE_MAX + 1
def CWDAEMON_REQUEST_QUEUE_SIZE_MAX : Nat := 4000

/-- `tq_low_watermark`. -/
def tqLowWatermark : Nat := 1

/-! ## PTT flag -/

/-- The bits `PTT_ACTIVE_AUTO`, `PTT_ACTIVE_MANUAL` and `PTT_ACTIVE_ECHO`. -/
inductive PttActive where
  | auto
  | manual
  | echo
  deriving DecidableEq, Repr

def PttActive.mask : PttActive → BitVec 8
  | auto => 0x01#8
  | manual => 0x02#8
  | echo => 0x04#8

/-- `ptt_flag`: a byte in which only the three known bits are ever set. -/
@[ext] structure PttFlag where
  bits : BitVec 8
  known : bits &&& 0xf8#8 = 0#8
  deriving DecidableEq

namespace PttFlag

/-- `ptt_flag & mode` as a condition. -/
def has (flag : PttFlag) (mode : PttActive) : Bool := flag.bits &&& mode.mask != 0#8

/-- `ptt_flag == mode`. -/
def equals (flag : PttFlag) (mode : PttActive) : Bool := flag.bits == mode.mask

def zero : PttFlag := ⟨0#8, rfl⟩

/-- `ptt_flag |= mode`. -/
def set (flag : PttFlag) (mode : PttActive) : PttFlag where
  bits := flag.bits ||| mode.mask
  known := by
    have masked : mode.mask &&& 0xf8#8 = 0#8 := by cases mode <;> rfl
    rw [BitVec.and_comm, BitVec.and_or_distrib_left, BitVec.and_comm _ flag.bits,
      BitVec.and_comm _ mode.mask, flag.known, masked, BitVec.or_zero]

/-- `ptt_flag &= ~mode`. -/
def unset (flag : PttFlag) (mode : PttActive) : PttFlag where
  bits := flag.bits &&& ~~~mode.mask
  known := by
    rw [BitVec.and_assoc, BitVec.and_comm (~~~mode.mask), ← BitVec.and_assoc, flag.known, BitVec.zero_and]

end PttFlag

/-- `!value` of the C language, on a byte. -/
def logicalNot (value : BitVec 8) : BitVec 8 := if value = 0#8 then 1#8 else 0#8

/-! ## Parameters -/

/-- Sound systems of libcw (`CW_AUDIO_*`). -/
inductive AudioSystem where
  | null
  | console
  | oss
  | alsa
  | pa
  | soundcard
  deriving DecidableEq, Repr

/-- The `default_*` variables, or the `current_*` variables. -/
structure Params where
  morseSpeed : Int
  morseTone : Int
  morseVolume : Int
  pttDelayMs : Nat
  audioSystem : AudioSystem
  weighting : Int
  deriving DecidableEq, Repr

/-! ## cwdevices -/

/-- `cwdevice_ttys`, `cwdevice_lp` and `cwdevice_null`. -/
inductive DeviceType where
  | ttys
  | lp
  | null
  deriving DecidableEq, Repr

/-- Modem lines of a serial port, as masks of `TIOCMBIS` and `TIOCMBIC`. -/
def TIOCM_DTR : BitVec 32 := 0x002#32
def TIOCM_RTS : BitVec 32 := 0x004#32

/-- `tty_driver_options`; 0 stands for a function that is opted out. -/
structure TtyDriverOptions where
  key : BitVec 32
  ptt : BitVec 32
  deriving DecidableEq, Repr

/-- The data of a cwdevice.  `pttCommand` is the last command given to its `ptt`
method since its `init` method was last called. -/
structure Cwdevice where
  fd : Int
  desc : Option Bytes
  ttyOptions : TtyDriverOptions
  pttCommand : Option Bool
  deriving DecidableEq, Repr

/-! ## libcw -/

/-- A tone in libcw's tone queue. -/
structure Tone where
  usecs : Nat
  frequency : Int
  deriving DecidableEq, Repr

/-- A generator of libcw.  It owns the tone queue, the callback for a low level in
the queue (here the level that triggers it) and the sending parameters. -/
structure Generator where
  audioSystem : AudioSystem
  started : Bool
  toneQueue : List Tone
  lowWatermark : Option Nat
  sendSpeed : Int
  frequency : Int
  volume : Int
  gap : Int
  weighting : Int
  deriving DecidableEq, Repr

/-- The state of libcw: its generator, and the cwdevice that is the argument of the
registered keying callback `cwdaemon_keyingevent`. -/
structure Libcw where
  generator : Option Generator
  keyingCallback : Option DeviceType
  deriving DecidableEq, Repr

/-- `cw_get_tone_queue_length()`. -/
def Libcw.toneQueueLength (libcw : Libcw) : Nat :=
  match libcw.generator with
  | none => 0
  | some generator => generator.toneQueue.length

/-! ## Calls -/

/-- `struct sockaddr_in`. -/
structure SockaddrIn where
  sinAddr : BitVec 32
  sinPort : BitVec 16
  deriving DecidableEq, Repr

/-- A call that leaves the daemon, or (`received`, `prepared`, `dequeued`) a step of
the daemon's dealings with its clients and with libcw that the statements refer to. -/
inductive Call where
  | received (client : SockaddrIn) (request : Bytes)
  | prepared (client : SockaddrIn) (reply : Bytes)
  | sendto (client : SockaddrIn) (reply : Bytes)
  | dequeued (tone : Tone)
  | generatorNew (audioSystem : AudioSystem) (success : Bool)
  | generatorStart (success : Bool)
  | generatorStop
  | generatorDelete
  | registerToneQueueLowCallback (level : Nat)
  | registerKeyingCallback (device : Option DeviceType)
  | setSendSpeed (wpm : Int)
  | setFrequency (frequency : Int)
  | setVolume (volume : Int)
  | setGap (gap : Int)
  | getGap
  | setWeighting (weighting : Int)
  | sendCharacter (char : UInt8) (accepted : Bool)
  | queueTone (usecs : Nat) (frequency : Int)
  | flushToneQueue
  | waitForToneQueue
  | deviceInit (device : DeviceType) (fd : Int)
  | deviceFree (device : DeviceType) (fd : Int)
  | deviceCw (device : DeviceType) (on : Bool)
  | devicePtt (device : DeviceType) (on : Bool)
  | deviceSsbway (device : DeviceType) (soundcard : Bool)
  | deviceSwitchband (device : DeviceType) (bitPattern : BitVec 8)
  | ioctlLines (fd : Int) (on : Bool) (mask : BitVec 32)
  deriving DecidableEq, Repr

/-- The state of PTT and of the two queues at the time of a call. -/
structure Moment where
  device : DeviceType
  pttCommand : Option Bool
  pttDelayMs : Nat
  requestQueue : Bytes
  toneQueueLength : Nat
  deriving DecidableEq, Repr

structure Entry where
  call : Call
  moment : Moment
  deriving DecidableEq, Repr

/-! ## The daemon -/

/-- How the process stands.  The last two are the failed assertion of
`cwdaemon_sendto()` and a write past the end of `reply_buffer`. -/
inductive Status where
  | running
  | exited (code : Int)
  | assertionFailed
  | overrun
  deriving DecidableEq, Repr

structure State where
  defaults : Params
  current : Params
  networkPort : Int
  processPriority : Int
  hasAudioOutput : Bool
  wordmode : Bool
  inactivitySeconds : Int
  pttFlag : PttFlag
  requestQueue : Buffer CWDAEMON_REQUEST_QUEUE_SIZE_MAX
  replyBuffer : Buffer (CWDAEMON_REPLY_SIZE_MAX + 1)
  requestAddr : SockaddrIn
  replyAddr : SockaddrIn
  globalCwdevice : DeviceType
  devices : DeviceType → Cwdevice
  libcw : Libcw
  status : Status
  log : List Entry

/-- What the world outside answers during a step.  The number of calls logged in
the step so far tells one question from the next.  `during` is how many tones
libcw's thread takes from the queue around a libcw call of the text loop, and `ioctl`
whether the driver of a port does what a call asks of it. -/
structure World where
  openTty : Bytes → Option Nat
  openLp : Bytes → Option Nat
  geteuid : Nat
  strdup : Bool
  generatorNew : Nat → AudioSystem → Bool
  generatorStart : Nat → Bool
  sendCharacter : Nat → Generator → UInt8 → Option (List Tone)
  footswitch : Bool
  during : Nat → Nat
  ioctl : Nat → Call → Bool

namespace State

/-- The current cwdevice, `*global_cwdevice`. -/
def device (state : State) : Cwdevice := state.devices state.globalCwdevice

/-- `cw_get_tone_queue_length()`. -/
def toneQueueLength (state : State) : Nat := state.libcw.toneQueueLength

def moment (state : State) : Moment where
  device := state.globalCwdevice
  pttCommand := state.device.pttCommand
  pttDelayMs := state.current.pttDelayMs
  requestQueue := state.requestQueue.bytes
  toneQueueLength := state.toneQueueLength

/-- Log a call, made in this state. -/
@[simps] def record (call : Call) (state : State) : State :=
  { state with log := state.log ++ [⟨call, state.moment⟩] }

@[simps] def setDevice (type : DeviceType) (device : Cwdevice) (state : State) : State :=
  { state with devices := Function.update state.devices type device }

@[simps] def setPttFlag (flag : PttFlag) (state : State) : State := { state with pttFlag := flag }

end State

end Cwdaemon
