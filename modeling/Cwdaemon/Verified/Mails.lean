import Cwdaemon.Foundations.Mailbox
import Cwdaemon.Verified.Calls

/-! # What passes between the daemon and its clients

There is one reply buffer, one reply address and one bit that says whether a reply is
owed, for all clients.  An action is silent, or it prepares one reply, or it answers
once; so the daemon is a mailbox server that owes one answer at a time.
-/

namespace Cwdaemon

open CString
open Mailbox

/-- The mail of the daemon. -/
abbrev Letter := Mail SockaddrIn Bytes Bytes

abbrev Desk := Office SockaddrIn Bytes Bytes

def Entry.mail (entry : Entry) : Option Letter :=
  match entry.call with
  | .received client request => some (.received client request)
  | .prepared client reply => some (.prepared client reply)
  | .sendto client reply => some (.sent client reply)
  | _ => none

/-- The mail among some calls. -/
def mails (entries : List Entry) : List Letter := entries.filterMap Entry.mail

theorem mails_append (earlier later : List Entry) : mails (earlier ++ later) = mails earlier ++ mails later :=
  List.filterMap_append

namespace State

/-- A reply is owed. -/
def Owes (state : State) : Prop := state.pttFlag.has .echo = true

instance (state : State) : Decidable state.Owes := inferInstanceAs (Decidable (_ = true))

theorem owes_iff (state : State) : state.Owes ↔ state.keyer.echo = true := Iff.rfl

theorem Owes.echo {state : State} (owed : state.Owes) : state.pttFlag.has .echo = true := owed

/-! ## Calls without mail -/

def Mailless (entry : Entry) : Prop := entry.mail = none

theorem mails_of_mailless {entries : List Entry} (mailless : ∀ entry ∈ entries, Mailless entry) :
    mails entries = [] := List.filterMap_eq_nil_iff.mpr mailless

theorem mailless_of_routine {entry : Entry} (routine : Routine entry) : Mailless entry := by
  obtain ⟨call, moment⟩ := entry
  cases call with
  | received | prepared | sendto => cases routine
  | _ => rfl

theorem mailless_of_lowers {entry : Entry} (lowers : Lowers entry) : Mailless entry := by
  rcases lowers with routine | ⟨type, off⟩
  · exact mailless_of_routine routine
  · simp [Mailless, Entry.mail, off]

theorem mailless_of_switches {type : DeviceType} {on : Bool} {moment : Moment} {entry : Entry}
    (switches : Switches type on moment entry) : Mailless entry := by
  rcases switches with routine | rfl
  · exact mailless_of_routine routine
  · rfl

/-- An Escape request sends and prepares nothing, ABORT with a reply owed and REPLY apart. -/
theorem mailless_of_makes {payload : Bytes} {state : State} {request : EscRequest} {entry : Entry}
    (unarmed : request ≠ .reply) (unbroken : request = .abort → state.wordmode = false → ¬ state.Owes)
    (makes : Makes payload state request entry) : Mailless entry := by
  cases makes with
  | routine routine => exact mailless_of_routine routine
  | sendBreak pending character => exact absurd pending (unbroken rfl character)
  | prepare => exact absurd rfl unarmed
  | resetFrequency | toneFrequency | soundSystemFrequency | tuneTone | tuneCharacter | raise | force | release => rfl

/-! ## Silent changes -/

/-- Nothing is sent or prepared, the reply that is owed stays what it is, and none comes
to be owed. -/
structure Silent (before after : State) : Prop where
  adds : Adds Mailless before after
  replyAddr : after.replyAddr = before.replyAddr
  replyBuffer : after.replyBuffer = before.replyBuffer
  owes : after.Owes → before.Owes

variable {before after state : State}

theorem Silent.refl (state : State) : Silent state state := ⟨.refl _ state, rfl, rfl, id⟩

theorem Silent.trans {first second third : State} (earlier : Silent first second) (later : Silent second third) :
    Silent first third :=
  ⟨earlier.adds.trans later.adds, later.replyAddr.trans earlier.replyAddr,
    later.replyBuffer.trans earlier.replyBuffer, earlier.owes ∘ later.owes⟩

theorem silent_setPttOn (state : State) : Silent state state.setPttOn := by
  have adds := (adds_setPttOn state).mono fun _ => mailless_of_switches
  have owes : state.setPttOn.Owes → state.Owes := by
    rw [owes_iff, owes_iff, keyer_setPttOn, Keyer.raise_echo]
    exact id
  obtain ⟨flag, devices, log, raised⟩ := setPttOn_eq state
  rw [raised] at adds owes ⊢
  exact ⟨adds, rfl, rfl, owes⟩

theorem silent_setPttOff (state : State) : Silent state state.setPttOff := by
  have adds := (adds_setPttOff state).mono fun _ => mailless_of_switches
  obtain ⟨devices, log, lowered⟩ := setPttOff_eq state
  rw [lowered] at adds ⊢
  exact ⟨adds, rfl, rfl, by simp [Owes]⟩

theorem silent_callGenerator {call : Call} (routine : Mailless ⟨call, state.moment⟩)
    (change : Generator → Generator) : Silent state (state.callGenerator call change) :=
  ⟨.callGenerator change routine, rfl, rfl, id⟩

theorem silent_exitProcess (code : Int) (state : State) : Silent state (state.exitProcess code) := by
  have adds := (adds_exitProcess code state).mono fun _ => mailless_of_lowers
  obtain ⟨devices, log, ended⟩ := exitProcess_eq code state
  rw [ended] at adds ⊢
  exact ⟨adds, rfl, rfl, id⟩

theorem silent_keyingevent (on : Bool) (state : State) : Silent state (state.keyingevent on) := by
  have adds := (adds_keyingevent on state).mono fun _ => mailless_of_routine
  obtain ⟨seconds, log, keyed⟩ := keyingevent_eq on state
  rw [keyed] at adds ⊢
  exact ⟨adds, rfl, rfl, id⟩

theorem escMove_ne_arm (world : World) {request : EscRequest} (unarmed : request ≠ .reply) (payload : Bytes)
    (state : State) : state.escMove world request payload ≠ .arm := by
  cases request with
  | reply => exact absurd rfl unarmed
  | abort =>
    simp only [escMove]
    split <;> simp
  | cwdevice =>
    simp only [escMove]
    split <;> simp
  | pttState =>
    simp only [escMove]
    split
    · simp
    · split <;> simp
  | tune =>
    simp only [escMove]
    split
    · simp
    · split <;> simp
  | txDelay =>
    simp only [escMove]
    split <;> simp
  | soundSystem =>
    simp only [escMove]
    split <;> simp
  | reset | speed | tone | exit | wordMode | weighting | port | ssbWay | bandSwitch | volume =>
    exact Keyer.Move.noConfusion

theorem silent_handleEscRequest (world : World) {request : EscRequest} {payload : Bytes} (nulFree : 0 ∉ payload)
    (short : payload.length < 255) (idle : state.requestQueue.bytes = []) (unarmed : request ≠ .reply)
    (unbroken : request = .abort → state.wordmode = false → ¬ state.Owes) :
    Silent state (state.handleEscRequest world request payload) := by
  have adds := (adds_handleEscRequest world request nulFree short state).mono
    fun _ => mailless_of_makes unarmed unbroken
  -- Whether a reply is owed is a matter of the controller; no other field of the reply is touched.
  have owes : (state.handleEscRequest world request payload).Owes → state.Owes := by
    rw [owes_iff, owes_iff, keyer_handleEscRequest world request payload idle]
    exact Keyer.echo_of_move (escMove_ne_arm world unarmed payload state)
  obtain ⟨_, _, _, _, _, _, _, _, _, _, handled⟩ := handled_handleEscRequest world payload state unarmed
  rw [handled] at adds owes ⊢
  exact ⟨adds, rfl, rfl, owes⟩

/-! ## Answers -/

/-- The client that waits for a reply is sent this one, and nothing else is sent. -/
structure Answers (reply : Bytes) (before after : State) : Prop where
  log : ∃ earlier moment later, after.log = before.log ++ (earlier ++ ⟨.sendto before.replyAddr reply, moment⟩ :: later) ∧
    (∀ entry ∈ earlier, Mailless entry) ∧ ∀ entry ∈ later, Mailless entry
  owed : before.Owes
  done : ¬ after.Owes

theorem escAbort_answers (character : state.wordmode = false) (owed : state.Owes) :
    Answers breakReply state state.escAbort := by
  obtain ⟨new, appended, lowers⟩ := adds_escAbort_broken character
  rw [broken, if_pos owed.echo] at appended
  refine ⟨⟨[], state.moment, new, ?_, by simp, fun entry member => mailless_of_lowers (lowers entry member)⟩, owed, ?_⟩
  · rw [appended]
    simp
  · obtain ⟨devices, log, equal⟩ := escAbort_eq character
    simp [equal, Owes]

/-- The next tone that libcw's thread takes leaves one in the queue. -/
def NextLeavesOne (state : State) : Prop :=
  ∃ generator tone last, state.libcw.generator = some generator ∧ generator.started = true ∧
    generator.toneQueue = [tone, last]

theorem toneQueueLowCallback_answers (short : state.replyBuffer.bytes.length ≤ 255) (owed : state.Owes) :
    Answers (state.replyBuffer.bytes ++ crlf) state state.toneQueueLowCallback := by
  -- An owed reply is a reason for PTT, so that the callback does not put it off.
  have busy : ¬ (state.pttFlag.equals .auto = true ∧ state.requestQueue.bytes = [] ∧
      state.toneQueueLength ≤ tqLowWatermark) := by
    rw [PttFlag.equals_auto, owed.echo]
    simp
  rw [toneQueueLowCallback_eq, if_neg busy, if_pos owed.echo]
  have done : ¬ state.answered.Owes := by simp [Owes, answered_pttFlag]
  have log : state.answered.log =
      state.log ++ [⟨.sendto state.replyAddr (state.replyBuffer.bytes ++ crlf), state.moment⟩] := by
    rw [answered_eq short]
  generalize state.answered = answered at done log
  split
  · -- Two silent tones follow the reply, or nothing.
    have silence (state : State) : Adds Mailless state (state.cwQueueTone 1 0) := .callGenerator _ rfl
    obtain ⟨new, appended, quiet⟩ := (silence answered).trans (silence _)
    exact ⟨⟨[], state.moment, new, by rw [appended, log, List.append_assoc]; rfl, by simp, quiet⟩, owed, done⟩
  · exact ⟨⟨[], state.moment, [], by simp [log], by simp, by simp⟩, owed, done⟩

theorem dequeue_answers (sound : state.Sound) (owed : state.Owes) (low : state.NextLeavesOne) :
    Answers (state.replyBuffer.bytes ++ crlf) state state.dequeue := by
  obtain ⟨generator, tone, last, opened, started, queued⟩ := low
  have crosses : generator.crossesLow = true :=
    (crossesLow_iff (sound.watched generator opened started) queued).mpr rfl
  rw [dequeue_eq opened started queued, if_pos crosses]
  have short : (state.taken generator tone [last]).replyBuffer.bytes.length ≤ 255 := sound.short owed
  obtain ⟨⟨earlier, moment, later, log, quiet, quiet'⟩, -, done⟩ := toneQueueLowCallback_answers short owed
  refine ⟨⟨⟨.dequeued tone, state.moment⟩ :: earlier, moment, later, ?_, ?_, quiet'⟩, owed, done⟩
  · rw [log]
    simp [taken]
  · simpa [Mailless, Entry.mail] using quiet

theorem silent_toneQueueLowCallback (nothing : ¬ state.Owes) : Silent state state.toneQueueLowCallback := by
  rw [toneQueueLowCallback_eq, if_neg (show ¬ state.pttFlag.has .echo = true from nothing)]
  split
  · exact silent_setPttOff state
  · exact .refl state

/-- A tone is taken without an answer, and a reply that is owed stays so. -/
theorem silent_dequeue (sound : state.Sound) (patient : state.Owes → ¬ state.NextLeavesOne) :
    Silent state state.dequeue ∧ (state.Owes → state.dequeue.Owes) := by
  rcases state.dequeue_cases with same | ⟨generator, tone, tones, opened, started, queued, dequeued⟩
  · rw [same]
    exact ⟨.refl state, id⟩
  · have taken : Silent state (state.taken generator tone tones) :=
      ⟨⟨[⟨.dequeued tone, state.moment⟩], rfl, by simp [Mailless, Entry.mail]⟩, rfl, rfl, id⟩
    rw [dequeued]
    split
    case isTrue crosses =>
      have one := (crossesLow_iff (sound.watched generator opened started) queued).mp crosses
      obtain ⟨last, rfl⟩ := List.length_eq_one_iff.mp one
      -- The callback runs, but no reply is owed.
      have nothing : ¬ state.Owes := fun owed => patient owed ⟨generator, tone, last, opened, started, queued⟩
      exact ⟨taken.trans (silent_toneQueueLowCallback nothing), fun owed => absurd owed nothing⟩
    case isFalse => exact ⟨taken, id⟩

end State

theorem Started.owes_nothing {state : State} (started : Started state) : ¬ state.Owes := by
  obtain ⟨args, world, started⟩ := started
  obtain ⟨configured, libcw, log, configuring, rfl, -⟩ := start_eq started
  simp [State.Owes, configuring.flag]

end Cwdaemon
