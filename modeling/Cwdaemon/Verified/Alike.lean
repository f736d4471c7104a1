import Cwdaemon.Verified.TextProgram

/-! # States that behave alike

Two states are alike when they agree on everything that an operation of the daemon
looks at.  The reply buffer and its address count only while a reply is pending, the
clock of the main loop and the moments in the log do not count at all, and how much of
the request queue, of the sender and of the devices has to agree is a parameter, the
`Likeness`.  Alike states make the same calls and stay alike.
-/

namespace Cwdaemon

open CString (Buffer)

/-- What alike states agree on beyond what every operation looks at: with `numbers`,
the descriptors and names of the devices and what they were last told; of the request
queues, `queues`, which must at least tell an empty queue from one that is not; and, if
`sender`, the address of the last client. -/
structure Likeness where
  numbers : Bool
  queues : Bytes → Bytes → Prop
  sender : Prop
  empty : ∀ first second, queues first second → (first = [] ↔ second = [])
  poke : ∀ first second index, queues first second →
    queues (first.set index (byte '+')) (second.set index (byte '+'))
  clear : queues [] []

/-- The request queues are the same, and if need be the sender is. -/
def Likeness.sameQueue (numbers : Bool) (sender : Prop) : Likeness where
  numbers := numbers
  queues := Eq
  sender := sender
  empty _ _ same := by rw [same]
  poke _ _ _ same := by rw [same]
  clear := rfl

/-- The request queues are both empty or both not. -/
def Likeness.sameBusy : Likeness where
  numbers := true
  queues first second := first = [] ↔ second = []
  sender := True
  empty _ _ := id
  poke first second index same := by simpa [← List.length_eq_zero_iff] using same
  clear := Iff.rfl

def Cwdevice.seen (numbers : Bool) (device : Cwdevice) : Cwdevice :=
  if numbers then device else ⟨0, none, device.ttyOptions, none⟩

def Call.seen (numbers : Bool) (call : Call) : Call :=
  if numbers then call
  else
    match call with
    | .deviceInit type _ => .deviceInit type 0
    | .deviceFree type _ => .deviceFree type 0
    | .ioctlLines _ on mask => .ioctlLines 0 on mask
    | call => call

/-- What a log shows, apart from the moments. -/
def shown (numbers : Bool) (log : List Entry) : List Call := log.map fun entry => entry.call.seen numbers

theorem Cwdevice.seen_change {numbers : Bool} {first second : Cwdevice} (change : Cwdevice → Cwdevice)
    (options : ∀ device, (change device).ttyOptions = device.ttyOptions)
    (same : first.seen numbers = second.seen numbers) :
    (change first).seen numbers = (change second).seen numbers := by
  cases numbers with
  | true =>
    have equal : first = second := by simpa [seen] using same
    rw [equal]
  | false => simpa [seen, options] using same

theorem Cwdevice.seen_options {numbers : Bool} {first second : Cwdevice}
    (same : first.seen numbers = second.seen numbers) : first.ttyOptions = second.ttyOptions := by
  have projected := congrArg Cwdevice.ttyOptions same
  cases numbers <;> exact projected

/-- The calls that name a descriptor show it no more than the device does. -/
theorem Call.seen_descriptor {numbers : Bool} {first second : Cwdevice} (call : Int → Call)
    (erased : ∀ fd, (call fd).seen false = call 0) (same : first.seen numbers = second.seen numbers) :
    (call first.fd).seen numbers = (call second.fd).seen numbers := by
  cases numbers with
  | true =>
    have equal : first = second := by simpa [Cwdevice.seen] using same
    rw [equal]
  | false => rw [erased, erased]

namespace State

structure Alike (likeness : Likeness) (first second : State) : Prop where
  defaults : first.defaults = second.defaults
  current : first.current = second.current
  hasAudioOutput : first.hasAudioOutput = second.hasAudioOutput
  wordmode : first.wordmode = second.wordmode
  pttFlag : first.pttFlag = second.pttFlag
  requestQueue : likeness.queues first.requestQueue.bytes second.requestQueue.bytes
  requestAddr : likeness.sender → first.requestAddr = second.requestAddr
  reply : first.pttFlag.has .echo = true →
    first.replyBuffer = second.replyBuffer ∧ first.replyAddr = second.replyAddr
  globalCwdevice : first.globalCwdevice = second.globalCwdevice
  devices : ∀ type, (first.devices type).seen likeness.numbers = (second.devices type).seen likeness.numbers
  libcw : first.libcw = second.libcw
  status : first.status = second.status
  calls : shown likeness.numbers first.log = shown likeness.numbers second.log

namespace Alike

/-- Every state is like itself. -/
theorem refl {likeness : Likeness} (same : ∀ queue, likeness.queues queue queue) (state : State) :
    Alike likeness state state :=
  ⟨rfl, rfl, rfl, rfl, rfl, same _, fun _ => rfl, fun _ => ⟨rfl, rfl⟩, rfl, fun _ => rfl, rfl, rfl, rfl⟩

theorem symm {likeness : Likeness} (turn : ∀ queue queue', likeness.queues queue queue' → likeness.queues queue' queue)
    {first second : State} (alike : Alike likeness first second) : Alike likeness second first where
  defaults := alike.defaults.symm
  current := alike.current.symm
  hasAudioOutput := alike.hasAudioOutput.symm
  wordmode := alike.wordmode.symm
  pttFlag := alike.pttFlag.symm
  requestQueue := turn _ _ alike.requestQueue
  requestAddr known := (alike.requestAddr known).symm
  reply pending := (alike.reply (alike.pttFlag ▸ pending)).imp Eq.symm Eq.symm
  globalCwdevice := alike.globalCwdevice.symm
  devices type := (alike.devices type).symm
  libcw := alike.libcw.symm
  status := alike.status.symm
  calls := alike.calls.symm

theorem trans {likeness : Likeness}
    (chain : ∀ queue queue' queue'', likeness.queues queue queue' → likeness.queues queue' queue'' →
      likeness.queues queue queue'')
    {first second third : State} (alike : Alike likeness first second) (alike' : Alike likeness second third) :
    Alike likeness first third where
  defaults := alike.defaults.trans alike'.defaults
  current := alike.current.trans alike'.current
  hasAudioOutput := alike.hasAudioOutput.trans alike'.hasAudioOutput
  wordmode := alike.wordmode.trans alike'.wordmode
  pttFlag := alike.pttFlag.trans alike'.pttFlag
  requestQueue := chain _ _ _ alike.requestQueue alike'.requestQueue
  requestAddr known := (alike.requestAddr known).trans (alike'.requestAddr known)
  reply pending :=
    ⟨(alike.reply pending).1.trans (alike'.reply (alike.pttFlag ▸ pending)).1,
      (alike.reply pending).2.trans (alike'.reply (alike.pttFlag ▸ pending)).2⟩
  globalCwdevice := alike.globalCwdevice.trans alike'.globalCwdevice
  devices type := (alike.devices type).trans (alike'.devices type)
  libcw := alike.libcw.trans alike'.libcw
  status := alike.status.trans alike'.status
  calls := alike.calls.trans alike'.calls

variable {likeness : Likeness} {first second : State} (alike : Alike likeness first second)
include alike

theorem length : first.log.length = second.log.length := by
  simpa [shown] using congrArg List.length alike.calls

theorem toneQueueLength : first.toneQueueLength = second.toneQueueLength := by
  rw [State.toneQueueLength, State.toneQueueLength, alike.libcw]

theorem gap : first.gap = second.gap := by
  unfold State.gap
  rw [alike.libcw]

theorem programOf (text : Bytes) : first.programOf text = second.programOf text := by
  unfold State.programOf
  rw [alike.gap, alike.current, alike.libcw]

theorem idle : first.requestQueue.bytes = [] ↔ second.requestQueue.bytes = [] :=
  likeness.empty _ _ alike.requestQueue

/-! ## Calls -/

theorem recordSeen {call call' : Call} (same : call.seen likeness.numbers = call'.seen likeness.numbers) :
    Alike likeness (first.record call) (second.record call') := by
  refine { alike with calls := ?_ }
  have before := alike.calls
  simp only [shown] at before
  simp [shown, before, same]

theorem record (call : Call) : Alike likeness (first.record call) (second.record call) :=
  alike.recordSeen rfl

theorem setLibcw (libcw : Libcw) :
    Alike likeness { first with libcw := libcw } { second with libcw := libcw } :=
  { alike with libcw := rfl }

theorem callGenerator (call : Call) (change : Generator → Generator) :
    Alike likeness (first.callGenerator call change) (second.callGenerator call change) := by
  unfold State.callGenerator State.setGenerator
  simp only [record_libcw, alike.libcw]
  exact (alike.record call).setLibcw _

theorem setPttFlag {flag : PttFlag} (echo : flag.has .echo = true → first.pttFlag.has .echo = true) :
    Alike likeness (first.setPttFlag flag) (second.setPttFlag flag) :=
  { alike with pttFlag := rfl, reply := fun pending => alike.reply (echo pending) }

theorem setPttFlag_zero : Alike likeness (first.setPttFlag .zero) (second.setPttFlag .zero) :=
  alike.setPttFlag (by simp)

theorem setCurrent {current current' : Params} (same : current = current') :
    Alike likeness { first with current := current } { second with current := current' } :=
  { alike with current := same }

theorem setHasAudioOutput (available : Bool) :
    Alike likeness (first.setHasAudioOutput available) (second.setHasAudioOutput available) :=
  { alike with hasAudioOutput := rfl }

theorem clearRequestQueue : Alike likeness first.clearRequestQueue second.clearRequestQueue :=
  { alike with requestQueue := likeness.clear }

theorem cwRegisterKeyingCallback {device device' : Option DeviceType} (same : device = device') :
    Alike likeness (first.cwRegisterKeyingCallback device) (second.cwRegisterKeyingCallback device') := by
  cases same
  unfold State.cwRegisterKeyingCallback
  simp only [alike.libcw]
  exact (alike.record _).setLibcw _

theorem cwSendCharacter (world : World) (char : UInt8) :
    Alike likeness (first.cwSendCharacter world char) (second.cwSendCharacter world char) := by
  have same : first.acceptedTones world char = second.acceptedTones world char := by
    unfold acceptedTones
    rw [alike.libcw, alike.length]
  unfold State.cwSendCharacter
  simp only [same]
  exact alike.callGenerator _ _

/-! ## Devices -/

theorem setDevice {type : DeviceType} {device device' : Cwdevice}
    (same : device.seen likeness.numbers = device'.seen likeness.numbers) :
    Alike likeness (first.setDevice type device) (second.setDevice type device') := by
  refine { alike with devices := fun other => ?_ }
  by_cases equal : other = type
  · subst equal
    simpa using same
  · simpa [Function.update_of_ne equal] using alike.devices other

theorem changeDevice (type : DeviceType) (change : Cwdevice → Cwdevice)
    (options : ∀ device, (change device).ttyOptions = device.ttyOptions) :
    Alike likeness (first.setDevice type (change (first.devices type)))
      (second.setDevice type (change (second.devices type))) :=
  alike.setDevice (Cwdevice.seen_change change options (alike.devices type))

theorem ttysLines (on : Bool) (mask : BitVec 32) :
    Alike likeness (first.ttysLines on mask) (second.ttysLines on mask) := by
  unfold State.ttysLines
  split
  · exact alike
  · exact alike.recordSeen (Call.seen_descriptor (.ioctlLines · on mask) (fun _ => rfl) (alike.devices .ttys))

theorem ttyOptions : (first.devices .ttys).ttyOptions = (second.devices .ttys).ttyOptions :=
  Cwdevice.seen_options (alike.devices .ttys)

theorem deviceCw (type : DeviceType) (on : Bool) :
    Alike likeness (first.deviceCw type on) (second.deviceCw type on) := by
  have recorded := alike.record (.deviceCw type on)
  cases type with
  | ttys =>
    simp only [State.deviceCw, record_devices, alike.ttyOptions]
    exact recorded.ttysLines on _
  | lp | null => exact recorded

theorem devicePtt (type : DeviceType) (on : Bool) :
    Alike likeness (first.devicePtt type on) (second.devicePtt type on) := by
  have told := (alike.record (.devicePtt type on)).changeDevice type
    ({ · with pttCommand := some on }) fun _ => rfl
  cases type with
  | ttys =>
    have lines := told.ttysLines on (((first.record (.devicePtt .ttys on)).setDevice .ttys
      { first.devices .ttys with pttCommand := some on }).devices .ttys).ttyOptions.ptt
    simp only [State.devicePtt]
    rw [← told.ttyOptions]
    exact lines
  | lp | null => exact told

theorem deviceResetPinsState {type type' : DeviceType} (same : type = type') :
    Alike likeness (first.deviceResetPinsState type) (second.deviceResetPinsState type') := by
  cases same
  have off := (alike.deviceCw type false).devicePtt type false
  cases type with
  | ttys => exact off
  | lp => exact (off.record _).record _
  | null => exact alike

theorem deviceFree (type : DeviceType) : Alike likeness (first.deviceFree type) (second.deviceFree type) := by
  have reset := alike.deviceResetPinsState (Eq.refl type)
  have closed := reset.recordSeen
    (Call.seen_descriptor (.deviceFree type ·) (fun _ => rfl) (reset.devices type))
  cases type with
  | ttys => exact closed.changeDevice .ttys ({ · with fd := -1 }) fun _ => rfl
  | lp => exact closed
  | null => exact alike

theorem deviceInit (type : DeviceType) (fd : Int) :
    Alike likeness (first.deviceInit type fd) (second.deviceInit type fd) := by
  have opened := (alike.record (.deviceInit type fd)).changeDevice type
    ({ · with fd := fd, pttCommand := none }) fun _ => rfl
  cases type with
  | ttys => exact opened.deviceResetPinsState (Eq.refl .ttys)
  | lp => exact opened.deviceResetPinsState (Eq.refl .lp)
  | null => exact opened

theorem setDesc (type : DeviceType) (desc : Option Bytes) :
    Alike likeness (first.setDesc type desc) (second.setDesc type desc) :=
  alike.changeDevice type ({ · with desc := desc }) fun _ => rfl

theorem setGlobalCwdevice (type : DeviceType) :
    Alike likeness { first with globalCwdevice := type } { second with globalCwdevice := type } :=
  { alike with globalCwdevice := rfl }

theorem adoptCwdevice (world : World) (type : DeviceType) (fd : Int) (desc : Bytes) :
    (first.adoptCwdevice world type fd desc).1 = (second.adoptCwdevice world type fd desc).1 ∧
      Alike likeness (first.adoptCwdevice world type fd desc).2 (second.adoptCwdevice world type fd desc).2 := by
  have closed := (((alike.setGlobalCwdevice type).deviceFree second.globalCwdevice).setDesc
    second.globalCwdevice none).setDesc type none
  simp only [State.adoptCwdevice, alike.globalCwdevice]
  split
  · exact ⟨rfl, (closed.setDesc type (some desc)).deviceInit type fd⟩
  · exact ⟨rfl, closed⟩

theorem optionCwdevice (world : World) (name : Bytes) :
    (first.optionCwdevice world name).1 = (second.optionCwdevice world name).1 ∧
      Alike likeness (first.optionCwdevice world name).2 (second.optionCwdevice world name).2 := by
  simp only [State.optionCwdevice, cwdeviceSet]
  split
  · exact ⟨rfl, alike⟩
  · split
    · exact alike.adoptCwdevice world _ _ _
    · split
      · split
        · exact ⟨rfl, alike⟩
        · exact alike.adoptCwdevice world _ _ _
      · exact alike.adoptCwdevice world _ _ _

/-! ## PTT and replies -/

theorem setPttOn : Alike likeness first.setPttOn second.setPttOn := by
  have turned := alike.devicePtt second.globalCwdevice true
  simp only [State.setPttOn, alike.current, alike.pttFlag, alike.globalCwdevice]
  split
  · rw [turned.pttFlag]
    exact turned.setPttFlag (by rw [turned.pttFlag]; simp)
  · exact alike

theorem setPttOff : Alike likeness first.setPttOff second.setPttOff := by
  unfold State.setPttOff
  rw [alike.globalCwdevice]
  exact (alike.devicePtt _ false).setPttFlag (by simp)

/-- What is sent while a reply is pending. -/
theorem sendto (reply : Bytes) (addressed : first.replyAddr = second.replyAddr) :
    Alike likeness (first.sendto reply) (second.sendto reply) := by
  unfold State.sendto
  split
  · rw [addressed]
    exact alike.record _
  · exact { alike with status := rfl }

theorem answered (pending : first.pttFlag.has .echo = true) :
    Alike likeness first.answered second.answered := by
  obtain ⟨buffer, address⟩ := alike.reply pending
  have settled : Alike likeness
      { first.setPttFlag (second.pttFlag.unset .echo) with replyBuffer := second.replyBuffer.append crlf }
      { second.setPttFlag (second.pttFlag.unset .echo) with replyBuffer := second.replyBuffer.append crlf } :=
    { alike with pttFlag := rfl, reply := by simp }
  unfold State.answered
  simp only [alike.pttFlag, setPttFlag_replyBuffer, buffer]
  exact settled.sendto _ address

theorem cwQueueTone (usecs : Nat) (frequency : Int) :
    Alike likeness (first.cwQueueTone usecs frequency) (second.cwQueueTone usecs frequency) :=
  alike.callGenerator _ _

theorem toneQueueLowCallback : Alike likeness first.toneQueueLowCallback second.toneQueueLowCallback := by
  rw [toneQueueLowCallback_eq, toneQueueLowCallback_eq]
  simp only [alike.pttFlag, alike.idle, alike.toneQueueLength]
  split
  · exact alike.setPttOff
  · split
    case isTrue pending =>
      have answers := alike.answered (by rw [alike.pttFlag]; exact pending)
      split
      · exact (answers.cwQueueTone 1 0).cwQueueTone 1 0
      · exact answers
    case isFalse => exact alike

theorem dequeue : Alike likeness first.dequeue second.dequeue := by
  cases opened : second.libcw.generator with
  | none =>
    simp only [State.dequeue, alike.libcw, opened]
    exact alike
  | some generator =>
    cases started : generator.started with
    | false =>
      simp only [State.dequeue, alike.libcw, opened, started]
      exact alike
    | true =>
      cases queued : generator.toneQueue with
      | nil =>
        simp only [State.dequeue, alike.libcw, opened, started, queued]
        exact alike
      | cons tone tones =>
        have taken : Alike likeness (first.taken generator tone tones) (second.taken generator tone tones) := by
          unfold State.taken
          rw [alike.libcw]
          exact (alike.record (.dequeued tone)).setLibcw _
        rw [dequeue_eq opened started queued, dequeue_eq (alike.libcw ▸ opened) started queued]
        split
        · exact taken.toneQueueLowCallback
        · exact taken

theorem dequeues (count : Nat) : Alike likeness (first.dequeues count) (second.dequeues count) := by
  induction count generalizing first second with
  | zero => exact alike
  | succ count inductionHypothesis => exact inductionHypothesis alike.dequeue

theorem serve (world : World) : Alike likeness (first.serve world) (second.serve world) := by
  unfold State.serve
  rw [alike.length]
  exact alike.dequeues _

/-! ## libcw output -/

theorem cwGeneratorNew (world : World) (audioSystem : AudioSystem) :
    (first.cwGeneratorNew world audioSystem).1 = (second.cwGeneratorNew world audioSystem).1 ∧
      Alike likeness (first.cwGeneratorNew world audioSystem).2 (second.cwGeneratorNew world audioSystem).2 := by
  simp only [State.cwGeneratorNew, alike.length, setGenerator, record_libcw, alike.libcw, true_and]
  exact (alike.record _).setLibcw _

theorem cwGeneratorStart (world : World) :
    (first.cwGeneratorStart world).1 = (second.cwGeneratorStart world).1 ∧
      Alike likeness (first.cwGeneratorStart world).2 (second.cwGeneratorStart world).2 := by
  simp only [State.cwGeneratorStart, alike.length, alike.libcw, true_and]
  exact alike.callGenerator _ _

theorem retryOss (world : World) (attempts : Nat) :
    (first.retryOss world attempts).1 = (second.retryOss world attempts).1 ∧
      Alike likeness (first.retryOss world attempts).2 (second.retryOss world attempts).2 := by
  induction attempts generalizing first second with
  | zero => exact ⟨rfl, alike⟩
  | succ attempts inductionHypothesis =>
    obtain ⟨same, created⟩ := alike.cwGeneratorNew world .oss
    simp only [State.retryOss, same]
    split
    · exact ⟨rfl, created⟩
    · exact inductionHypothesis created

theorem openLibcwOutput (world : World) (audioSystem : AudioSystem) :
    (first.openLibcwOutput world audioSystem).1 = (second.openLibcwOutput world audioSystem).1 ∧
      Alike likeness (first.openLibcwOutput world audioSystem).2 (second.openLibcwOutput world audioSystem).2 := by
  obtain ⟨same, created⟩ := alike.cwGeneratorNew world audioSystem
  obtain ⟨same', retried⟩ := created.retryOss world 5
  simp only [State.openLibcwOutput, same]
  -- Either the first attempt stands, or the retries decide.
  by_cases retry : audioSystem = .oss ∧ (second.cwGeneratorNew world audioSystem).1 = false
  · simp only [if_pos retry, same']
    split
    · exact retried.cwGeneratorStart world
    · exact ⟨rfl, retried⟩
  · simp only [if_neg retry]
    split
    · exact created.cwGeneratorStart world
    · exact ⟨rfl, created⟩

theorem closeLibcwOutput : Alike likeness first.closeLibcwOutput second.closeLibcwOutput := by
  have stopped : Alike likeness first.cwGeneratorStop second.cwGeneratorStop := alike.callGenerator _ _
  exact (stopped.record .generatorDelete).setLibcw _

theorem configured {params params' : Params} (same : params = params') :
    Alike likeness (first.configured params) (second.configured params') := by
  cases same
  have registered : Alike likeness (first.cwRegisterToneQueueLowCallback tqLowWatermark)
      (second.cwRegisterToneQueueLowCallback tqLowWatermark) := alike.callGenerator _ _
  have tuned {first second : State} (alike : Alike likeness first second) :
      Alike likeness
        (((first.cwSetFrequency params.morseTone).cwSetSendSpeed params.morseSpeed).cwSetVolume params.morseVolume)
        (((second.cwSetFrequency params.morseTone).cwSetSendSpeed params.morseSpeed).cwSetVolume
          params.morseVolume) :=
    ((alike.callGenerator (.setFrequency params.morseTone) _).callGenerator (.setSendSpeed params.morseSpeed)
      _).callGenerator (.setVolume params.morseVolume) _
  exact ((tuned registered).callGenerator (.setGap 0) _).callGenerator
    (.setWeighting (libcwWeighting params.weighting)) _

theorem resetLibcwOutput (world : World) :
    (first.resetLibcwOutput world).1 = (second.resetLibcwOutput world).1 ∧
      Alike likeness (first.resetLibcwOutput world).2 (second.resetLibcwOutput world).2 := by
  have closed := alike.closeLibcwOutput
  obtain ⟨same, opened⟩ := closed.openLibcwOutput world second.closeLibcwOutput.defaults.audioSystem
  simp only [resetLibcwOutput_configured, closed.defaults, same]
  split
  · exact ⟨rfl, opened.configured opened.defaults⟩
  · exact ⟨rfl, opened⟩

theorem resetAlmostAll (world : World) :
    (first.resetAlmostAll world).1 = (second.resetAlmostAll world).1 ∧
      Alike likeness (first.resetAlmostAll world).2 (second.resetAlmostAll world).2 := by
  obtain ⟨same, reset⟩ := (alike.setCurrent alike.defaults).resetLibcwOutput world
  simp only [State.resetAlmostAll, same]
  split
  · refine ⟨rfl, ?_⟩
    have available := reset.setHasAudioOutput true
    exact available.cwRegisterKeyingCallback (congrArg some available.globalCwdevice)
  · exact ⟨rfl, reset.setHasAudioOutput false⟩

theorem openOrFallBack (world : World) :
    Alike likeness (first.openOrFallBack world) (second.openOrFallBack world) := by
  obtain ⟨same, opened⟩ := alike.openLibcwOutput world second.current.audioSystem
  obtain ⟨same', opened'⟩ := opened.closeLibcwOutput.openLibcwOutput world .null
  simp only [State.openOrFallBack, alike.current, same, same']
  split
  · exact opened.setHasAudioOutput true
  · split
    · exact (opened'.setCurrent (by rw [opened'.current])).setHasAudioOutput true
    · exact opened'.setHasAudioOutput false

theorem exitProcess (code : Int) : Alike likeness (first.exitProcess code) (second.exitProcess code) := by
  have closed := alike.closeLibcwOutput
  have freed := closed.deviceFree second.closeLibcwOutput.globalCwdevice
  unfold State.exitProcess
  simp only [closed.globalCwdevice]
  exact { freed with status := rfl }

/-! ## Texts -/

theorem served (world : World) {call : State → State}
    (called : ∀ {first second : State}, Alike likeness first second → Alike likeness (call first) (call second)) :
    Alike likeness (first.served world call) (second.served world call) :=
  (called (alike.serve world)).serve world

/-- A command that prepares no reply. -/
theorem exec (world : World) {command : Command} (silent : ∀ index, command ≠ .reply index) :
    Alike likeness (first.exec world command) (second.exec world command) := by
  cases command with
  | speed wpm =>
    have set : Alike likeness (first.setMorseSpeed wpm) (second.setMorseSpeed wpm) :=
      alike.setCurrent (by rw [alike.current])
    exact set.served world fun alike => alike.callGenerator _ _
  | gap dots => exact alike.served world fun alike => alike.callGenerator _ _
  | readGap => exact alike.served world fun alike => alike.record _
  | ptt => exact alike.setPttOn
  | send char => exact alike.served world fun alike => alike.cwSendCharacter world char
  | replace index => exact { alike with requestQueue := likeness.poke _ _ index alike.requestQueue }
  | reply index => exact absurd rfl (silent index)

theorem execAll (world : World) {commands : List Command}
    (silent : ∀ command ∈ commands, ∀ index, command ≠ .reply index) :
    Alike likeness (State.execAll world commands first) (State.execAll world commands second) := by
  induction commands generalizing first second with
  | nil => exact alike
  | cons command commands inductionHypothesis =>
    exact inductionHypothesis (alike.exec world (silent command (by simp)))
      fun command member => silent command (by simp [member])

end Alike

/-! ## Requests -/

section Requests

variable {numbers : Bool} {sender : Prop} {first second : State}

variable (alike : Alike (.sameQueue numbers sender) first second)
include alike

namespace Alike

/-- A reply is prepared alike for the same client. -/
theorem prepareReply (known : sender) {request : Bytes} (nulFree : 0 ∉ request) (short : request.length ≤ 255) :
    Alike (.sameQueue numbers sender) (first.prepareReply request) (second.prepareReply request) := by
  obtain ⟨reply, bytes, prepared⟩ := prepareReply_eq nulFree short first
  obtain ⟨reply', bytes', prepared'⟩ := prepareReply_eq nulFree short second
  have same : reply = reply' := Buffer.ext (bytes.trans bytes'.symm)
  have address := alike.requestAddr known
  have recorded := alike.record (.prepared first.requestAddr request)
  rw [prepared, prepared', same, ← address]
  refine { alike with pttFlag := ?_, reply := fun _ => ⟨rfl, rfl⟩, calls := recorded.calls }
  exact congrArg (PttFlag.set · .echo) alike.pttFlag

theorem execReply (world : World) (known : sender) {index : Nat} (short : index ≤ 255) :
    Alike (.sameQueue numbers sender) (first.exec world (.reply index)) (second.exec world (.reply index)) := by
  have same : first.requestQueue = second.requestQueue := Buffer.ext alike.requestQueue
  have cut : Alike (.sameQueue numbers sender)
      { first with requestQueue := second.requestQueue.cut index }
      { second with requestQueue := second.requestQueue.cut index } := { alike with requestQueue := rfl }
  have length : (second.requestQueue.cut index).bytes.length ≤ 255 :=
    (List.length_take_le index second.requestQueue.bytes).trans short
  simp only [State.exec, same]
  exact cut.prepareReply known (second.requestQueue.cut index).nul_free length

theorem execAll_replies (world : World) (known : sender) {commands : List Command}
    (short : ∀ index, .reply index ∈ commands → index ≤ 255) :
    Alike (.sameQueue numbers sender) (State.execAll world commands first) (State.execAll world commands second) := by
  induction commands generalizing first second with
  | nil => exact alike
  | cons command commands inductionHypothesis =>
    have next : Alike (.sameQueue numbers sender) (first.exec world command) (second.exec world command) := by
      by_cases replies : ∃ index, command = .reply index
      · obtain ⟨index, rfl⟩ := replies
        exact alike.execReply world known (short index (by simp))
      · exact alike.exec world fun index equal => replies ⟨index, equal⟩
    exact inductionHypothesis next fun index member => short index (by simp [member])

theorem receiveText (world : World) (known : sender) {request : Bytes}
    (length : request.length ≤ CWDAEMON_REQUEST_SIZE_MAX) (nulFree : 0 ∉ request)
    (idle : first.requestQueue.bytes = []) :
    Alike (.sameQueue numbers sender) (first.receiveText world request) (second.receiveText world request) := by
  have fits : request.length < CWDAEMON_REQUEST_QUEUE_SIZE_MAX := Nat.lt_of_le_of_lt length (by decide)
  have same : first.requestQueue = second.requestQueue := Buffer.ext alike.requestQueue
  have queued : Alike (.sameQueue numbers sender)
      { first with requestQueue := first.requestQueue.append request }
      { second with requestQueue := second.requestQueue.append request } :=
    { alike with requestQueue := by rw [same]; rfl }
  rw [(receiveText_eq world request idle nulFree fits).2,
    (receiveText_eq world request (same ▸ idle) nulFree fits).2, playLoop_eq, playLoop_eq, queued.programOf]
  refine (queued.execAll_replies world known fun index member => ?_).clearRequestQueue
  have bound := program_reply_index member
  simp only [CWDAEMON_REQUEST_SIZE_MAX] at length
  omega

theorem tune (world : World) (seconds : Nat) :
    Alike (.sameQueue numbers sender) (first.tune world seconds) (second.tune world seconds) := by
  have queueTones (seconds : Nat) {first second : State} (alike : Alike (.sameQueue numbers sender) first second) :
      Alike (.sameQueue numbers sender) (first.queueTuneTones seconds) (second.queueTuneTones seconds) := by
    induction seconds generalizing first second with
    | zero => exact alike
    | succ seconds inductionHypothesis =>
      simp only [queueTuneTones, alike.current]
      exact inductionHypothesis (alike.cwQueueTone _ _)
  unfold State.tune
  split
  · have flushed : Alike (.sameQueue numbers sender) first.cwFlushToneQueue second.cwFlushToneQueue :=
      alike.callGenerator _ _
    exact (queueTones seconds flushed.setPttOn).cwSendCharacter world _
  · exact alike

theorem paramsPttOnOff (payload : Bytes) :
    Alike (.sameQueue numbers sender) (first.paramsPttOnOff payload) (second.paramsPttOnOff payload) := by
  rw [paramsPttOnOff_eq, paramsPttOnOff_eq]
  split
  · exact alike
  · split
    · have raised := alike.setPttOn
      rw [raised.pttFlag]
      exact raised.setPttFlag (by rw [raised.pttFlag]; simp)
    · simp only [alike.pttFlag, alike.idle, alike.toneQueueLength]
      have released (flag : PttFlag) (echo : flag.has .echo = second.pttFlag.has .echo) :
          Alike (.sameQueue numbers sender) (first.setPttFlag flag) (second.setPttFlag flag) :=
        alike.setPttFlag (by rw [echo, alike.pttFlag]; exact id)
      split
      · split
        · exact (released (second.pttFlag.unset .manual) (by simp)).setPttOff
        · exact released _ (by simp)
      · exact alike

theorem escAbort : Alike (.sameQueue numbers sender) first.escAbort second.escAbort := by
  have told : Alike (.sameQueue numbers sender) first.broken second.broken := by
    unfold broken
    rw [alike.pttFlag]
    split
    case isTrue pending =>
      rw [(alike.reply (alike.pttFlag ▸ pending)).2]
      exact alike.record _
    case isFalse => exact alike
  have flushed : Alike (.sameQueue numbers sender) first.broken.clearRequestQueue.cwFlushToneQueue.cwWaitForToneQueue
      second.broken.clearRequestQueue.cwFlushToneQueue.cwWaitForToneQueue :=
    (told.clearRequestQueue.callGenerator _ _).record _
  simp only [State.escAbort, broken_eq, alike.wordmode, flushed.pttFlag]
  split
  · exact alike
  · split
    · exact flushed.setPttOff.setPttFlag_zero
    · exact flushed.setPttFlag_zero

theorem escReset (world : World) : Alike (.sameQueue numbers sender) (first.escReset world) (second.escReset world) := by
  obtain ⟨-, reset⟩ := alike.clearRequestQueue.resetAlmostAll world
  have character : Alike (.sameQueue numbers sender)
      { (first.clearRequestQueue.resetAlmostAll world).2 with wordmode := false }
      { (second.clearRequestQueue.resetAlmostAll world).2 with wordmode := false } :=
    { reset with wordmode := rfl }
  exact (character.deviceResetPinsState reset.globalCwdevice).setPttFlag_zero

theorem escCwdevice (world : World) (payload : Bytes) :
    Alike (.sameQueue numbers sender) (first.escCwdevice world payload) (second.escCwdevice world payload) := by
  obtain ⟨same, set⟩ := (alike.cwRegisterKeyingCallback (Eq.refl none)).optionCwdevice world payload
  simp only [State.escCwdevice, same]
  split
  · exact set.cwRegisterKeyingCallback (congrArg some set.globalCwdevice)
  · exact set

theorem escTxDelay (payload : Bytes) :
    Alike (.sameQueue numbers sender) (first.escTxDelay payload) (second.escTxDelay payload) := by
  have delayed (delayMs : Nat) :
      Alike (.sameQueue numbers sender) (first.setPttDelayMs delayMs) (second.setPttDelayMs delayMs) :=
    alike.setCurrent (by rw [alike.current])
  have accepted := delayed (paramsPttdelay second.current.pttDelayMs payload).2
  have same := congrArg Params.pttDelayMs accepted.current
  simp only [State.escTxDelay, alike.current, same]
  split
  · exact accepted.setPttOff
  · exact accepted

theorem escSoundSystem (world : World) (payload : Bytes) :
    Alike (.sameQueue numbers sender) (first.escSoundSystem world payload) (second.escSoundSystem world payload) := by
  cases valid : paramsSystem payload with
  | none =>
    simp only [State.escSoundSystem, valid]
    exact alike
  | some system =>
    have selected : Alike (.sameQueue numbers sender)
        { first with current := { first.current with audioSystem := system } }
        { second with current := { second.current with audioSystem := system } } :=
      alike.setCurrent (by rw [alike.current])
    have opened := selected.closeLibcwOutput.openOrFallBack world
    rw [escSoundSystem_configured valid, escSoundSystem_configured valid]
    simp only [opened.hasAudioOutput]
    split
    · exact (opened.configured opened.current).cwRegisterKeyingCallback (congrArg some opened.globalCwdevice)
    · exact opened

theorem escTone (payload : Bytes) :
    Alike (.sameQueue numbers sender) (first.escTone payload) (second.escTone payload) := by
  simp only [State.escTone]
  split
  · exact alike
  · rename_i tone _
    have stored : Alike (.sameQueue numbers sender)
        { first with current := { first.current with morseTone := tone } }
        { second with current := { second.current with morseTone := tone } } :=
      alike.setCurrent (by rw [alike.current])
    simp only [alike.current]
    rw [alike.current] at stored
    split
    · exact (stored.callGenerator _ _).callGenerator _ _
    · exact stored.callGenerator _ _

theorem handleEscRequest (world : World) (request : EscRequest) {payload : Bytes} (known : sender)
    (nulFree : 0 ∉ payload) (short : payload.length < 255) :
    Alike (.sameQueue numbers sender) (first.handleEscRequest world request payload)
      (second.handleEscRequest world request payload) := by
  cases request with
  | reset => exact alike.escReset world
  | speed =>
    simp only [State.handleEscRequest, escSpeed]
    split
    · exact alike
    · exact (alike.setCurrent (by rw [alike.current])).callGenerator _ _
  | tone => exact alike.escTone payload
  | abort => exact alike.escAbort
  | exit => exact alike.exitProcess 0
  | wordMode => exact { alike.clearRequestQueue with wordmode := rfl }
  | weighting =>
    simp only [State.handleEscRequest, escWeighting]
    split
    · exact alike
    · exact (alike.setCurrent (by rw [alike.current])).callGenerator _ _
  | cwdevice => exact alike.escCwdevice world payload
  | port => exact alike
  | pttState => exact alike.paramsPttOnOff payload
  | ssbWay =>
    simp only [State.handleEscRequest, escSsbWay, alike.globalCwdevice]
    split
    · exact alike
    · split
      · exact alike.record _
      · exact alike
      · exact alike
  | tune =>
    simp only [State.handleEscRequest, escTune]
    split
    · exact alike
    · exact alike.tune world _
  | txDelay => exact alike.escTxDelay payload
  | bandSwitch =>
    simp only [State.handleEscRequest, escBandSwitch, switchBand, alike.globalCwdevice]
    split
    · exact alike
    · split
      · split
        · exact alike.record _
        · exact alike
        · exact alike
      · exact alike
  | soundSystem => exact alike.escSoundSystem world payload
  | volume =>
    simp only [State.handleEscRequest, escVolume]
    split
    · exact alike
    · exact (alike.setCurrent (by rw [alike.current])).callGenerator _ _
  | reply => exact alike.prepareReply known (reply_nul_free nulFree) short

/-! ## Steps -/

theorem keyingevent (on : Bool) :
    Alike (.sameQueue numbers sender) (first.keyingevent on) (second.keyingevent on) := by
  simp only [State.keyingevent, alike.libcw]
  split
  · exact alike
  · exact { alike.deviceCw _ on with libcw := (alike.deviceCw _ on).libcw }

theorem act (world : World) (input : Input) (known : (∃ client bytes, input = .datagram client bytes) → sender)
    (idle : first.requestQueue.bytes = []) :
    Alike (.sameQueue numbers sender) (first.act world input.action) (second.act world input.action) := by
  cases action : input.action with
  | idle => exact alike
  | request request payload =>
    obtain ⟨nulFree, short⟩ := Input.action_payload action
    obtain ⟨client, bytes, arrived, -⟩ := Input.action_request action
    exact alike.handleEscRequest world request (known ⟨client, bytes, arrived⟩) nulFree short
  | text request =>
    obtain ⟨nulFree, length⟩ := Input.action_text_bounds action
    obtain ⟨-, client, bytes, arrived, -⟩ := Input.action_text action
    exact alike.receiveText world (known ⟨client, bytes, arrived⟩) length nulFree idle
  | exit => exact alike.exitProcess 1
  | dequeue => exact alike.dequeue
  | key on => exact alike.keyingevent on

theorem finish (world : World) (input : Input) :
    Alike (.sameQueue numbers sender) (first.finish world input) (second.finish world input) := by
  have polled : Alike (.sameQueue numbers sender)
      (if first.status = .running then first.pollFootswitch world else first)
      (if second.status = .running then second.pollFootswitch world else second) := by
    simp only [alike.status, State.pollFootswitch, alike.globalCwdevice]
    split
    · split
      · exact alike.devicePtt .lp _
      · exact alike
      · exact alike
    · exact alike
  cases input with
  | datagram | timeout | receiveError => exact polled
  | dequeue | key => exact alike

/-- What the sender is no longer asked for. -/
theorem forget : Alike (.sameQueue numbers False) first second :=
  { alike with requestAddr := False.elim }

end Alike

end Requests

/-! ## Runs -/

/-- Between two steps the sender of the last request and what was logged are gone. -/
def Indistinct (numbers : Bool) (first second : State) : Prop :=
  Alike (.sameQueue numbers False) { first with log := [] } { second with log := [] }

section Runs

variable {numbers : Bool} {first second : State}

theorem Alike.indistinct {sender : Prop} (alike : Alike (.sameQueue numbers sender) first second) :
    Indistinct numbers first second :=
  { alike.forget with calls := rfl }

namespace Indistinct

variable (indistinct : Indistinct numbers first second)
include indistinct

/-- The sender of a datagram is known when its request is handled. -/
theorem ready (input : Input) :
    Alike (.sameQueue numbers (∃ client bytes, input = .datagram client bytes)) (first.ready input)
      (second.ready input) := by
  obtain ⟨seconds, counted⟩ := countInactivity_eq { first with log := [] }
  obtain ⟨seconds', counted'⟩ := countInactivity_eq { second with log := [] }
  cases input with
  | datagram client bytes =>
    simp only [State.ready, counted, counted', arrive]
    have arrives : Alike (.sameQueue numbers (∃ client' bytes', Input.datagram client bytes = .datagram client' bytes'))
        { first with inactivitySeconds := seconds, requestAddr := client, log := [] }
        { second with inactivitySeconds := seconds', requestAddr := client, log := [] } :=
      { indistinct with requestAddr := fun _ => rfl }
    cases requestOf bytes with
    | none => exact arrives
    | some request => exact arrives.record _
  | timeout | receiveError =>
    simp only [State.ready, counted, counted']
    refine { indistinct with requestAddr := ?_ }
    rintro ⟨_, _, impossible⟩
    cases impossible
  | dequeue | key =>
    refine { indistinct with requestAddr := ?_ }
    rintro ⟨_, _, impossible⟩
    cases impossible

/-- Indistinct states show the same calls in a step, and stay indistinct. -/
theorem step (label : Label) (idle : first.requestQueue.bytes = []) :
    shown numbers (first.step label).log = shown numbers (second.step label).log ∧
      Indistinct numbers (first.step label) (second.step label) := by
  by_cases running : first.status = .running
  · have empty : (first.ready label.input).requestQueue.bytes = [] := by
      obtain ⟨seconds, addr, log, equal, -⟩ := ready_eq label.input first
      rw [equal]
      exact idle
    have acted := (indistinct.ready label.input).act label.world label.input id empty
    have stepped := acted.finish label.world label.input
    rw [step_eq label running, step_eq label (indistinct.status ▸ running)]
    exact ⟨stepped.calls, stepped.indistinct⟩
  · rw [step_ended label running, step_ended label (indistinct.status ▸ running)]
    exact ⟨rfl, indistinct⟩

end Indistinct

theorem Indistinct.refl (numbers : Bool) (state : State) : Indistinct numbers state state := Alike.refl (fun _ => rfl) _

theorem Indistinct.symm (indistinct : Indistinct numbers first second) : Indistinct numbers second first :=
  Alike.symm (fun _ _ => Eq.symm) indistinct

theorem Indistinct.trans {third : State} (earlier : Indistinct numbers first second)
    (later : Indistinct numbers second third) : Indistinct numbers first third :=
  Alike.trans (fun _ _ _ => Eq.trans) earlier later

/-- From now on the daemon makes the same calls, whatever comes. -/
def SameCalls (numbers : Bool) (first second : State) : Prop :=
  ∀ labels : List Label, Runs.history State.step (fun state => shown numbers state.log) labels first =
    Runs.history State.step (fun state => shown numbers state.log) labels second

theorem Indistinct.sameCalls (indistinct : Indistinct numbers first second) (wellformed : first.Wellformed) :
    SameCalls numbers first second := by
  intro labels
  have advance (label : Label) (first second : State) (related : Indistinct numbers first second ∧ first.Wellformed) :
      shown numbers (first.step label).log = shown numbers (second.step label).log ∧
        Indistinct numbers (first.step label) (second.step label) ∧ (first.step label).Wellformed := by
    obtain ⟨calls, next⟩ := related.1.step label related.2.idle
    exact ⟨calls, next, related.2.step label⟩
  exact Runs.history_lockstep advance labels ⟨indistinct, wellformed⟩

end Runs

end State

end Cwdaemon
