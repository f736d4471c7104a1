import Cwdaemon.Daemon.Escape

/-! # ABORT while libcw's thread is at work

`escAbort` is what ABORT does when libcw's thread is at rest.  The handler is in
`cw_flush_tone_queue()` and in `cw_wait_for_tone_queue()` for some time, and the thread
may take tones and call back in both.
-/

namespace Cwdaemon

/-- What libcw's thread does while the daemon is in a call of libcw. -/
inductive Activity where
  | callback
  | tone
  deriving DecidableEq, Repr

namespace State

/-- libcw's thread takes a tone, if there is one. -/
def takeTone (state : State) : State :=
  match state.libcw.generator with
  | none => state
  | some generator =>
    match generator.toneQueue with
    | [] => state
    | tone :: tones => (state.record (.dequeued tone)).setGenerator (some { generator with toneQueue := tones })

def active : List Activity → State → State
  | [], state => state
  | .callback :: activities, state => active activities state.toneQueueLowCallback
  | .tone :: activities, state => active activities state.takeTone

/-- The case of ABORT, with what libcw's thread does until the queue is flushed, and from
then on until the queue is empty. -/
def escAbortDuring (flushing waiting : List Activity) (state : State) : State :=
  if state.wordmode then state
  else
    let state := if state.pttFlag.has .echo then state.sendto breakReply else state
    let state := state.clearRequestQueue
    let state := (state.active flushing).cwFlushToneQueue
    let state := state.cwWaitForToneQueue.active waiting
    -- The daemon waits for the tones that are left.
    let state := state.active (List.replicate state.toneQueueLength .tone)
    let state := if state.pttFlag.bits ≠ 0#8 then state.setPttOff else state
    state.setPttFlag .zero

end State

end Cwdaemon
