import Cwdaemon.Daemon.State
import Cwdaemon.Foundations.Register

/-! # The parallel port

What the methods of the parallel port in `lp.c` do to the registers of the port (with ppdev,
where every `ioctl()` succeeds), and so what becomes of the ports under the calls that the
daemon logs.
-/

namespace Cwdaemon

def PARPORT_CONTROL_STROBE : BitVec 8 := 0x01#8
def PARPORT_CONTROL_AUTOFD : BitVec 8 := 0x02#8
def PARPORT_CONTROL_INIT : BitVec 8 := 0x04#8
def PARPORT_CONTROL_SELECT : BitVec 8 := 0x08#8

/-- The registers of a port that the daemon writes. -/
structure Parport where
  control : BitVec 8
  data : BitVec 8
  deriving DecidableEq, Repr

namespace Parport

/-- `parport_control()`. -/
def parportControl (controlbits values : BitVec 8) (port : Parport) : Parport :=
  { port with control := Register.frob controlbits values port.control }

/-- `parport_write_data()`. -/
def parportWriteData (data : BitVec 8) (port : Parport) : Parport := { port with data := data }

/-- `lp_cw()`. -/
def lpCw (on : Bool) (port : Parport) : Parport :=
  if on then port.parportControl PARPORT_CONTROL_SELECT 0#8
  else port.parportControl PARPORT_CONTROL_SELECT PARPORT_CONTROL_SELECT

/-- `lp_ptt()`. -/
def lpPtt (on : Bool) (port : Parport) : Parport :=
  if on then port.parportControl PARPORT_CONTROL_INIT PARPORT_CONTROL_INIT
  else port.parportControl PARPORT_CONTROL_INIT 0#8

/-- `lp_ssbway()`. -/
def lpSsbway (soundcard : Bool) (port : Parport) : Parport :=
  if soundcard then port.parportControl PARPORT_CONTROL_AUTOFD PARPORT_CONTROL_AUTOFD
  else port.parportControl PARPORT_CONTROL_AUTOFD 0#8

/-- `lp_switchband()`. -/
def lpSwitchband (bitpattern : BitVec 8) (port : Parport) : Parport := port.parportWriteData bitpattern

/-- `lp_reset_pins_state()`. -/
def lpResetPinsState (port : Parport) : Parport :=
  (((port.lpCw false).lpPtt false).lpSsbway false).lpSwitchband 0#8

/-- What `lp_init()` does before it resets the pins. -/
def enable (port : Parport) : Parport := port.parportControl PARPORT_CONTROL_STROBE PARPORT_CONTROL_STROBE

/-- What `lp_free()` does after it has reset the pins. -/
def disable (port : Parport) : Parport := port.parportControl PARPORT_CONTROL_STROBE 0#8

/-- `lp_init()`. -/
def lpInit (port : Parport) : Parport := port.enable.lpResetPinsState

/-- `lp_free()`. -/
def lpFree (port : Parport) : Parport := port.lpResetPinsState.disable

end Parport

/-- The parallel ports that the daemon has opened so far: the one that is open now, and
those that were closed, as they were left. -/
structure Ports (Port : Type) where
  opened : Option Port
  released : List Port

namespace Ports

def unopened {Port : Type} : Ports Port := ⟨none, []⟩

/-- A call of a method of `cwdevice_lp`.  A port is found as somebody else left it.  The
calls with which `lp_init()` and `lp_free()` reset the pins are logged on their own. -/
def call (found : Nat → Parport) (ports : Ports Parport) : Call → Ports Parport
  | .deviceInit .lp _ => { ports with opened := some (found ports.released.length).enable }
  | .deviceFree .lp _ => ⟨none, ports.released ++ (ports.opened.map Parport.disable).toList⟩
  | .deviceCw .lp on => { ports with opened := ports.opened.map (Parport.lpCw on) }
  | .devicePtt .lp on => { ports with opened := ports.opened.map (Parport.lpPtt on) }
  | .deviceSsbway .lp soundcard => { ports with opened := ports.opened.map (Parport.lpSsbway soundcard) }
  | .deviceSwitchband .lp bitpattern => { ports with opened := ports.opened.map (Parport.lpSwitchband bitpattern) }
  | _ => ports

/-- The calls of a log. -/
def calls (found : Nat → Parport) (ports : Ports Parport) (log : List Entry) : Ports Parport :=
  log.foldl (fun ports entry => ports.call found entry.call) ports

end Ports

end Cwdaemon
