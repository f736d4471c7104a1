import Cwdaemon.Daemon.Devices
import Cwdaemon.Daemon.Params

/-! # PTT -/

namespace Cwdaemon

def CWDAEMON_MICROSECS_PER_SEC : Nat := 1000000

namespace State

/-- `cwdaemon_set_ptt_on()` on the current cwdevice.  A delay of 0 means that PTT is
not turned on at all. -/
def setPttOn (state : State) : State :=
  if state.current.pttDelayMs ≠ 0 ∧ state.pttFlag.has .auto = false then
    let state := state.devicePtt state.globalCwdevice true
    state.setPttFlag (state.pttFlag.set .auto)
  else state

/-- `cwdaemon_set_ptt_off()` on the current cwdevice. -/
def setPttOff (state : State) : State :=
  (state.devicePtt state.globalCwdevice false).setPttFlag .zero

/-- The loop of `cwdaemon_tune()`. -/
def queueTuneTones : Nat → State → State
  | 0, state => state
  | seconds + 1, state =>
    queueTuneTones seconds (state.cwQueueTone CWDAEMON_MICROSECS_PER_SEC state.current.morseTone)

/-- `cwdaemon_tune()`. -/
def tune (world : World) (seconds : Nat) (state : State) : State :=
  if seconds > 0 then
    let state := state.cwFlushToneQueue
    let state := state.setPttOn
    let state := state.queueTuneTones seconds
    state.cwSendCharacter world (byte 'e')
  else state

/-- `cwdaemon_params_ptt_on_off()`. -/
def paramsPttOnOff (optarg : Bytes) (state : State) : State :=
  match getLong optarg with
  | none => state
  | some lv =>
    if lv ≠ 0 then
      let state := if state.current.pttDelayMs ≠ 0 then state.setPttOn else state
      state.setPttFlag (state.pttFlag.set .manual)
    else if state.pttFlag.has .manual then
      let state := state.setPttFlag (state.pttFlag.unset .manual)
      -- The source has `!PTT_ACTIVE_AUTO` here, not `~PTT_ACTIVE_AUTO`.
      if state.pttFlag.bits &&& logicalNot PttActive.auto.mask = 0#8 then
        -- While something is being sent, PTT is handed over to the callback.
        if state.requestQueue.bytes = [] ∧ state.toneQueueLength ≤ 1 then state.setPttOff
        else state.setPttFlag (state.pttFlag.set .auto)
      else state
    else state

end State

end Cwdaemon
