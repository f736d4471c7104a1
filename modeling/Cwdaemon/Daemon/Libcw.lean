import Cwdaemon.Daemon.State

/-! # Calls to libcw

libcw is not part of the repository.  What it answers (whether a generator can be
created, whether a character is accepted and as which tones) comes from the
`World`; what is fixed here is its documented bookkeeping: a generator owns the
tone queue and the sending parameters, deleting it loses the queue and the
registered callbacks, and a new one starts with an empty queue.
-/

namespace Cwdaemon

def CW_SPEED_MIN : Int := 4
def CW_SPEED_MAX : Int := 60
def CW_FREQUENCY_MIN : Int := 0
def CW_FREQUENCY_MAX : Int := 4000
def CW_VOLUME_MIN : Int := 0
def CW_VOLUME_MAX : Int := 100

/-- A generator as `cw_generator_new()` makes it. -/
def newGenerator (audioSystem : AudioSystem) : Generator where
  audioSystem := audioSystem
  started := false
  toneQueue := []
  lowWatermark := none
  sendSpeed := 12
  frequency := 800
  volume := 70
  gap := 0
  weighting := 50

namespace State

def setGenerator (generator : Option Generator) (state : State) : State :=
  { state with libcw := { state.libcw with generator := generator } }

/-- A call that changes the generator and reports nothing. -/
def callGenerator (call : Call) (change : Generator → Generator) (state : State) : State :=
  (state.record call).setGenerator (state.libcw.generator.map change)

def cwGeneratorNew (world : World) (audioSystem : AudioSystem) (state : State) : Bool × State :=
  let success := world.generatorNew state.log.length audioSystem
  (success, (state.record (.generatorNew audioSystem success)).setGenerator
    (if success then some (newGenerator audioSystem) else none))

def cwGeneratorStart (world : World) (state : State) : Bool × State :=
  let success := state.libcw.generator.isSome && world.generatorStart state.log.length
  (success, state.callGenerator (.generatorStart success) ({ · with started := success }))

def cwGeneratorStop (state : State) : State :=
  state.callGenerator .generatorStop ({ · with started := false })

def cwGeneratorDelete (state : State) : State :=
  { state.record .generatorDelete with libcw := ⟨none, none⟩ }

def cwRegisterToneQueueLowCallback (level : Nat) (state : State) : State :=
  state.callGenerator (.registerToneQueueLowCallback level) ({ · with lowWatermark := some level })

/-- `cw_register_keying_callback(cwdaemon_keyingevent, device)`, or with two NULLs. -/
def cwRegisterKeyingCallback (device : Option DeviceType) (state : State) : State :=
  { state.record (.registerKeyingCallback device) with
    libcw := { state.libcw with keyingCallback := device } }

def cwSetSendSpeed (wpm : Int) (state : State) : State :=
  state.callGenerator (.setSendSpeed wpm) ({ · with sendSpeed := wpm })

def cwSetFrequency (frequency : Int) (state : State) : State :=
  state.callGenerator (.setFrequency frequency) ({ · with frequency := frequency })

def cwSetVolume (volume : Int) (state : State) : State :=
  state.callGenerator (.setVolume volume) ({ · with volume := volume })

def cwSetGap (gap : Int) (state : State) : State :=
  state.callGenerator (.setGap gap) ({ · with gap := gap })

def cwSetWeighting (weighting : Int) (state : State) : State :=
  state.callGenerator (.setWeighting weighting) ({ · with weighting := weighting })

/-- The value of `cw_get_gap()`; the call itself is logged by `cwGetGap`. -/
def gap (state : State) : Int :=
  match state.libcw.generator with
  | none => 0
  | some generator => generator.gap

def cwGetGap (state : State) : State := state.record .getGap

def cwFlushToneQueue (state : State) : State :=
  state.callGenerator .flushToneQueue ({ · with toneQueue := [] })

/-- `cw_wait_for_tone_queue()`; its one caller has flushed the queue before. -/
def cwWaitForToneQueue (state : State) : State := state.record .waitForToneQueue

/-- `cw_queue_tone()`: one tone is added, there being a generator to take it. -/
def cwQueueTone (usecs : Nat) (frequency : Int) (state : State) : State :=
  state.callGenerator (.queueTone usecs frequency)
    fun generator => { generator with toneQueue := generator.toneQueue ++ [⟨usecs, frequency⟩] }

/-- The tones as which libcw accepts a character now. -/
def acceptedTones (world : World) (char : UInt8) (state : State) : Option (List Tone) :=
  state.libcw.generator.bind fun generator => world.sendCharacter state.log.length generator char

/-- `cw_send_character()`: the tones of an accepted character are added to the
queue, a rejected one adds nothing. -/
def cwSendCharacter (world : World) (char : UInt8) (state : State) : State :=
  let tones := state.acceptedTones world char
  state.callGenerator (.sendCharacter char tones.isSome)
    fun generator => { generator with toneQueue := generator.toneQueue ++ tones.getD [] }

end State

end Cwdaemon
