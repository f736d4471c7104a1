import Cwdaemon.Daemon.DevicePath

/-! # cwdevices

The serial port (`ttys.c`), the parallel port (`lp.c`, with ppdev) and the null
device (`null.c`), and the switch between them.  The methods are those of a port whose
driver does what it is asked.  Where an `ioctl()` fails, on a port that was closed or for
any other reason, they call `exit(1)`: what is left of a step then is in
`Cwdaemon.Daemon.Drivers`.
-/

namespace Cwdaemon

open CString

def MAXPATHLEN : Nat := 4096

/-- The path that a probe finds in its buffer of `size` bytes, when it could be built. -/
def buildFullDevicePath (size : Nat) (fname : Bytes) : Option Bytes :=
  let (retv, nm) := buildFullDevicePathIn (List.replicate size 0) size fname
  if retv = 0 then some (cstr nm) else none

def ttyProbeCwdevice (world : World) (fname : Bytes) : Option Nat :=
  (buildFullDevicePath MAXPATHLEN fname).bind world.openTty

def lpProbeCwdevice (world : World) (fname : Bytes) : Option Nat :=
  (buildFullDevicePath MAXPATHLEN fname).bind world.openLp

/-- `null_probe_cwdevice()`, which gives -1 for any name but "null". -/
def nullProbeCwdevice (fname : Bytes) : Int :=
  if fname = [byte 'n', byte 'u', byte 'l', byte 'l'] then 0 else -1

namespace State

/-- `ioctl(fd, TIOCMBIS or TIOCMBIC, &mask)`, or nothing for an opted out function.  A
failure of it is in `State.attempt`. -/
def ttysLines (on : Bool) (mask : BitVec 32) (state : State) : State :=
  if mask = 0#32 then state else state.record (.ioctlLines (state.devices .ttys).fd on mask)

/-- The `cw` method of a cwdevice. -/
def deviceCw (type : DeviceType) (on : Bool) (state : State) : State :=
  let state := state.record (.deviceCw type on)
  match type with
  | .ttys => state.ttysLines on (state.devices .ttys).ttyOptions.key
  | .lp => state
  | .null => state

/-- The `ptt` method of a cwdevice. -/
def devicePtt (type : DeviceType) (on : Bool) (state : State) : State :=
  let state := state.record (.devicePtt type on)
  let state := state.setDevice type { state.devices type with pttCommand := some on }
  match type with
  | .ttys => state.ttysLines on (state.devices .ttys).ttyOptions.ptt
  | .lp => state
  | .null => state

/-- The `reset_pins_state` method of a cwdevice. -/
def deviceResetPinsState (type : DeviceType) (state : State) : State :=
  match type with
  | .ttys => (state.deviceCw .ttys false).devicePtt .ttys false
  | .lp =>
    (((state.deviceCw .lp false).devicePtt .lp false).record (.deviceSsbway .lp false)).record
      (.deviceSwitchband .lp 0#8)
  | .null => state

/-- The `free` method of a cwdevice. -/
def deviceFree (type : DeviceType) (state : State) : State :=
  match type with
  | .ttys =>
    let state := state.deviceResetPinsState .ttys
    let state := state.record (.deviceFree .ttys (state.devices .ttys).fd)
    state.setDevice .ttys { state.devices .ttys with fd := -1 }
  | .lp =>
    let state := state.deviceResetPinsState .lp
    state.record (.deviceFree .lp (state.devices .lp).fd)
  | .null => state

/-- The `init` method of a cwdevice.  A failure of one of the `ioctl()` calls of `lp_init()`
is in `State.attempt`. -/
def deviceInit (type : DeviceType) (fd : Int) (state : State) : State :=
  let state := state.record (.deviceInit type fd)
  let state := state.setDevice type { state.devices type with fd := fd, pttCommand := none }
  match type with
  | .ttys => state.deviceResetPinsState .ttys
  | .lp => state.deviceResetPinsState .lp
  | .null => state

def setDesc (type : DeviceType) (desc : Option Bytes) (state : State) : State :=
  state.setDevice type { state.devices type with desc := desc }

/-- The part of `cwdaemon_cwdevice_set()` behind the probes: close the old cwdevice
and put the new one, opened as `fd`, in its place. -/
def adoptCwdevice (world : World) (type : DeviceType) (fd : Int) (desc : Bytes) (state : State) :
    Bool × State :=
  let old := state.globalCwdevice
  let state := { state with globalCwdevice := type }
  let state := (state.deviceFree old).setDesc old none
  let state := state.setDesc type none
  if world.strdup then
    (true, (state.setDesc type (some desc)).deviceInit type fd)
  else (false, state)

/-- `cwdaemon_cwdevice_set()`.  Anything that is neither a serial nor a parallel
port selects the null device; a parallel port is refused to a user other than root. -/
def cwdeviceSet (world : World) (desc : Bytes) (state : State) : Bool × State :=
  match ttyProbeCwdevice world desc with
  | some fd => state.adoptCwdevice world .ttys fd desc
  | none =>
    match lpProbeCwdevice world desc with
    | some fd =>
      if world.geteuid ≠ 0 then (false, state) else state.adoptCwdevice world .lp fd desc
    | none => state.adoptCwdevice world .null (nullProbeCwdevice desc) desc

/-- `cwdaemon_option_cwdevice()`, with `true` for its return value 0. -/
def optionCwdevice (world : World) (optValue : Bytes) (state : State) : Bool × State :=
  if optValue = [] then (false, state) else state.cwdeviceSet world optValue

end State

end Cwdaemon
