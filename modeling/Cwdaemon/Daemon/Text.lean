import Cwdaemon.Daemon.Reply

/-! # Playing a text request

`cwdaemon_play_request()` edits the request queue in place while it reads it.  Here
the text still to be read is an argument, `index` is its position in the queue, and
the edits are made in the queue of the state, which is what the callback sees when
libcw's thread runs it around one of the libcw calls of the loop.
-/

namespace Cwdaemon

def isSpeedSign (char : UInt8) : Bool := char == byte '+' || char == byte '-'

/-- The speed clamped to the range of libcw. -/
def clampSpeed (speed : Int) : Int :=
  if speed < CW_SPEED_MIN then CW_SPEED_MIN
  else if speed > CW_SPEED_MAX then CW_SPEED_MAX
  else speed

namespace State

/-- What libcw's thread does around a libcw call of the text loop. -/
def serve (world : World) (state : State) : State := state.dequeues (world.during state.log.length)

/-- A libcw call of the text loop. -/
def served (world : World) (call : State → State) (state : State) : State :=
  (call (state.serve world)).serve world

@[simps] def setMorseSpeed (speed : Int) (state : State) : State :=
  { state with current := { state.current with morseSpeed := speed } }

/-- The end of a run of `+` and `-`. -/
def playSpeed (world : World) (state : State) : State :=
  let state := state.setMorseSpeed (clampSpeed state.current.morseSpeed)
  state.served world (·.cwSetSendSpeed state.current.morseSpeed)

/-- A character that is played, as far as the test of the gap.  `*` is played as
`+`, also in the queue; 0xff raises PTT but is not passed to libcw. -/
def playCharacter (world : World) (index : Nat) (char : UInt8) (state : State) : State :=
  let state :=
    if char = byte '*' then
      { state with requestQueue := state.requestQueue.poke index (byte '+') (by decide) }
    else state
  let state := state.setPttOn
  -- PTT was asked for before libcw is asked to take the character.
  let char := if char = byte '*' then byte '+' else char
  let state := if char ≠ 0xff then state.served world (·.cwSendCharacter world char) else state
  state.served world cwGetGap

/-- The loop of `cwdaemon_play_request()`.  The inner loop over a run of `+` and `-`
is the speed branch taken again, before the speed is clamped and set.  `lookAhead`
says that the character before was played with a gap of 2, when the source looks at
the next one before it leaves the iteration: a caret is skipped there, and before
anything else the gap is set back to 0. -/
def playLoop (world : World) : Bool → Nat → Bytes → State → State
  | lookAhead, _, [], state => if lookAhead then state.served world (·.cwSetGap 0) else state
  | lookAhead, index, char :: rest, state =>
    if lookAhead && char = byte '^' then playLoop world false (index + 1) rest state
    else
      let state := if lookAhead then state.served world (·.cwSetGap 0) else state
      if isSpeedSign char then
        let state := state.setMorseSpeed
          (state.current.morseSpeed + if char = byte '+' then 2 else -2)
        -- In the middle of a run of signs the speed may leave the range of libcw.
        let state := if rest.head?.any isSpeedSign then state else state.playSpeed world
        playLoop world false (index + 1) rest state
      else if char = byte '~' then
        playLoop world false (index + 1) rest (state.served world (·.cwSetGap 2))
      else if char = byte '^' then
        -- What is behind the caret is dropped; what was played is the reply.
        let state := { state with requestQueue := state.requestQueue.cut index }
        state.prepareReply state.requestQueue.bytes
      else
        let state := state.playCharacter world index char
        playLoop world (state.gap = 2) (index + 1) rest state

/-- `cwdaemon_play_request(request_queue)`. -/
def playRequest (world : World) (state : State) : State :=
  let state := playLoop world false 0 state.requestQueue.bytes state
  { state with requestQueue := state.requestQueue.clear }

end State

end Cwdaemon
