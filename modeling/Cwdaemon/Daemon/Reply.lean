import Cwdaemon.Daemon.Ptt

/-! # Replies

Preparing a reply, sending it, and the callback in which libcw's thread sends it or
turns an automatic PTT off.
-/

namespace Cwdaemon

open CString (Buffer)

def crlf : Bytes := [byte '\r', byte '\n']

/-- The answer to a client whose reply is aborted. -/
def breakReply : Bytes := [byte 'b', byte 'r', byte 'e', byte 'a', byte 'k', byte '\r', byte '\n']

namespace State

/-- `cwdaemon_sendto()`, with its assertion about the end of the reply. -/
def sendto (reply : Bytes) (state : State) : State :=
  if crlf <:+ reply then state.record (.sendto state.replyAddr reply)
  else { state with status := .assertionFailed }

/-- `cwdaemon_prepare_reply()` for the whole of `request`. -/
def prepareReply (request : Bytes) (state : State) : State :=
  let state := state.setPttFlag (state.pttFlag.set .echo)
  let state := { state with replyAddr := state.requestAddr }
  match Buffer.copy? (CWDAEMON_REPLY_SIZE_MAX + 1) request with
  | none => { state with status := .overrun }
  | some reply => { state.record (.prepared state.requestAddr reply.bytes) with replyBuffer := reply }

/-- `cwdaemon_tone_queue_low_callback()`. -/
def toneQueueLowCallback (state : State) : State :=
  if state.pttFlag.equals .auto ∧ state.requestQueue.bytes = []
      ∧ state.toneQueueLength ≤ tqLowWatermark then
    state.setPttOff
  else if state.pttFlag.has .echo then
    let state := state.setPttFlag (state.pttFlag.unset .echo)
    let state := { state with replyBuffer := state.replyBuffer.append crlf }
    let state := state.sendto state.replyBuffer.bytes
    -- Two short silent tones make libcw call back once more.
    if state.pttFlag.equals .auto then (state.cwQueueTone 1 0).cwQueueTone 1 0 else state
  else state

end State

/-- Taking the next tone brings the queue from above the level of the registered
callback down to it. -/
def Generator.crossesLow (generator : Generator) : Bool :=
  match generator.lowWatermark with
  | none => false
  | some level => level < generator.toneQueue.length && generator.toneQueue.length ≤ level + 1

namespace State

/-- libcw's thread takes the next tone from the queue of a started generator and
calls the low callback if that is due. -/
def dequeue (state : State) : State :=
  match state.libcw.generator with
  | none => state
  | some generator =>
    match generator.started, generator.toneQueue with
    | true, tone :: tones =>
      let taken := (state.record (.dequeued tone)).setGenerator
        (some { generator with toneQueue := tones })
      if generator.crossesLow then taken.toneQueueLowCallback else taken
    | _, _ => state

/-- libcw's thread takes a number of tones. -/
def dequeues : Nat → State → State
  | 0, state => state
  | count + 1, state => dequeues count state.dequeue

end State

end Cwdaemon
