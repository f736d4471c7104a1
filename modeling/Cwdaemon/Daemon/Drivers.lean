import Cwdaemon.Foundations.Interruption
import Cwdaemon.Daemon.Main

/-! # Drivers that fail

The methods of the serial port and of the parallel port call `exit(1)` as soon as an
`ioctl()` fails.  So a step in which one fails is cut off there: of what the step would
call, the daemon has called what comes before, and it makes no further step.  What the
functions registered with `atexit()` do in that case is left out.
-/

namespace Cwdaemon

/-- The calls that ask the driver of a port for something.  Where a method of the parallel
port asks more than once (as `lp_init()` does, with `PPSETMODE`, `PPEXCL`, `PPCLAIM` and
`PPFCONTROL`), its call stands for all of it; the command that follows a reading of the
footswitch stands for that reading too. -/
def Call.controls : Call → Bool
  | .ioctlLines _ _ _ => true
  | .deviceInit .lp _ => true
  | .deviceFree .lp _ => true
  | .deviceCw .lp _ => true
  | .devicePtt .lp _ => true
  | .deviceSsbway .lp _ => true
  | .deviceSwitchband .lp _ => true
  | _ => false

/-- The call is made on a serial port that `ttys_close()` has closed. -/
def Call.onClosedPort : Call → Bool
  | .ioctlLines fd _ _ => fd < 0
  | _ => false

/-- An `ioctl()` of this call, the one at this place of the step, fails. -/
def World.refuses (world : World) (index : Nat) (call : Call) : Bool :=
  call.controls && (call.onClosedPort || !world.ioctl index call)

/-- What comes before the first call that fails, if there is one. -/
def World.cut (world : World) : Nat → List Entry → Option (List Entry)
  | _, [] => none
  | index, entry :: log =>
    if world.refuses index entry.call then some []
    else (world.cut (index + 1) log).map (entry :: ·)

/-- The daemon, and the `exit(1)` of a method of a port. -/
def driven : Interruption State Label Entry where
  step := State.step
  emitted := State.log
  cut label log := label.world.cut 0 log
  stop made state := { state with log := made, status := .exited 1 }

namespace State

/-- A step, as far as the drivers of the ports let it come. -/
def attempt (label : Label) (state : State) : State := driven.attempt label state

/-- A driver fails in the step. -/
def Fails (label : Label) (state : State) : Prop := driven.Interrupts label state

instance (label : Label) (state : State) : Decidable (state.Fails label) :=
  inferInstanceAs (Decidable (driven.Interrupts label state))

end State

/-- What the daemon has called in the course of a run, as far as it came. -/
def callsMade (labels : List Label) (state : State) : List Entry :=
  Runs.history State.attempt State.log labels state

end Cwdaemon
