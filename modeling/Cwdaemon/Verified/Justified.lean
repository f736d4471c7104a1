import Cwdaemon.Verified.Calls
import Cwdaemon.Verified.Safety

/-! # Every switch-off of PTT is justified

Apart from the requests that put PTT off whatever holds it on, PTT of the serial port
is switched off only when no text is being read and the tone queue has run low.  While
a text is being read the line cannot go down at all: the request queue is not empty,
and the low callback looks there first.
-/

namespace Cwdaemon

open CString

namespace State

/-- The input puts PTT off whatever holds it on: an ABORT in character mode, a RESET, a
PTT delay of 0, a CWDEVICE request, or the end of the daemon. -/
def Forced (action : Action) (state : State) : Prop :=
  match action with
  | .request request payload => ForcesOff request payload state
  | .exit => True
  | .idle | .text _ | .dequeue | .key _ => False

/-- No text is being read, and at most one tone is left. -/
def RunLow (entry : Entry) : Prop := entry.moment.requestQueue = [] ∧ entry.moment.toneQueueLength ≤ 1

def Excused (action : Action) (state : State) (entry : Entry) : Prop :=
  entry.call = .devicePtt .ttys false → Forced action state ∨ RunLow entry

variable {state : State} {action : Action} {world : World}

theorem excused_of_other {entry : Entry} (other : entry.call ≠ .devicePtt .ttys false) :
    Excused action state entry := fun off => absurd off other

theorem excused_of_routine {entry : Entry} (routine : Routine entry) : Excused action state entry :=
  excused_of_other fun off => by simp [Routine, off, Call.isRoutine] at routine

theorem excused_of_serves {before : State} {entry : Entry} (serves : Serves before entry) :
    Excused action state entry := by
  cases serves with
  | routine routine => exact excused_of_routine routine
  | release _ idle drained => exact fun _ => .inr ⟨idle, drained⟩
  | answer | silence => exact excused_of_other nofun

theorem excused_of_plays {request : Bytes} {before : State} {entry : Entry}
    (plays : Plays world request before entry) : Excused action state entry := by
  cases plays with
  | routine routine => exact excused_of_routine routine
  | serve _ _ serves => exact excused_of_serves serves
  | raise => exact excused_of_other (by simp)
  | send | prepare => exact excused_of_other nofun

theorem excused_of_makes {request : EscRequest} {payload : Bytes} {entry : Entry}
    (makes : Makes payload state request entry) : Excused (.request request payload) state entry := by
  cases makes with
  | routine routine => exact excused_of_routine routine
  | force forces => exact fun _ => .inl forces
  | release idle drained => exact fun _ => .inr ⟨idle, drained⟩
  | raise => exact excused_of_other (by simp)
  | resetFrequency | toneFrequency | soundSystemFrequency | tuneTone | tuneCharacter | sendBreak | prepare =>
    exact excused_of_other nofun

/-- Whatever an action switches off is excused. -/
theorem adds_excused (wellformed : state.Wellformed) (world : World) (input : Input) :
    Adds (Excused input.action state) state (state.act world input.action) := by
  refine adds_act wellformed world input (fun _ => True) (fun _ => trivial)
    (fun _ _ _ _ _ _ => trivial) (fun _ => excused_of_routine) ?_ (fun _ _ _ _ _ => excused_of_plays) ?_
    fun _ => (adds_dequeue wellformed.watched).mono fun _ => excused_of_serves
  · intro request payload action entry
    rw [action]
    exact excused_of_makes
  · intro action entry _
    rw [action]
    exact fun _ => .inl trivial

theorem forced_ready_iff (action : Action) (input : Input) (state : State) :
    Forced action (state.ready input) ↔ Forced action state :=
  ready_iff (fun _ _ _ _ => Iff.rfl) input state

/-! ## The line and the calls -/

/-- A command to a device is in the log. -/
theorem devicePtt_log (type : DeviceType) (on : Bool) (state : State) :
    ∃ entry ∈ (state.devicePtt type on).log, entry.call = .devicePtt type on := by
  have recorded : (⟨.devicePtt type on, state.moment⟩ : Entry) ∈ (state.record (.devicePtt type on)).log := by
    simp
  refine ⟨⟨.devicePtt type on, state.moment⟩, ?_, rfl⟩
  cases type with
  | ttys =>
    obtain ⟨new, appended, -⟩ := adds_ttysLines on
      (((state.record (.devicePtt .ttys on)).setDevice .ttys
        { state.devices .ttys with pttCommand := some on }).devices .ttys).ttyOptions.ptt
      ((state.record (.devicePtt .ttys on)).setDevice .ttys { state.devices .ttys with pttCommand := some on })
    exact appended ▸ List.mem_append_left new recorded
  | lp | null => exact recorded

theorem setPttOff_log (serial : state.globalCwdevice = .ttys) :
    ∃ entry ∈ state.setPttOff.log, entry.call = .devicePtt .ttys false := by
  obtain ⟨entry, member, call⟩ := devicePtt_log state.globalCwdevice false state
  exact ⟨entry, member, serial ▸ call⟩

/-- Of the requests that are not forced only a PTT request can put the line down. -/
theorem escMove_line {request : EscRequest} {payload : Bytes} (free : ¬ ForcesOff request payload state)
    (other : request ≠ .pttState) (up : state.keyer.line = true) :
    (state.keyer.move (state.escMove world request payload)).line = true := by
  simp only [ForcesOff, not_or] at free
  obtain ⟨noReset, noExit, noCwdevice, noAbort, noDelay⟩ := free
  -- Three kinds of requests are forced always, two under a condition that the move shows.
  cases request with
  | reset => exact absurd rfl noReset
  | exit => exact absurd rfl noExit
  | cwdevice => exact absurd rfl noCwdevice
  | pttState => exact absurd rfl other
  | abort =>
    simp only [escMove]
    split
    · exact up
    case isFalse character => exact absurd ⟨rfl, by simpa using character⟩ noAbort
  | tune =>
    simp only [escMove]
    split
    · exact up
    · split
      · exact Keyer.raise_line (show state.keyer.flush.line = true from up)
      · exact up
  | txDelay =>
    simp only [escMove]
    split
    case isTrue accepted =>
      by_cases zero : (paramsPttdelay state.current.pttDelayMs payload).2 = 0
      · exact absurd ⟨rfl, (paramsPttdelay_zero_iff _ payload).mp ⟨accepted, zero⟩⟩ noDelay
      · simpa [Keyer.move, zero] using up
    case isFalse => exact up
  | soundSystem =>
    simp only [escMove]
    split
    · exact up
    · exact up
  | speed | tone | wordMode | weighting | port | ssbWay | bandSwitch | volume | reply => exact up

theorem paramsPttOnOff_off (payload : Bytes) (serial : state.globalCwdevice = .ttys) (up : state.LineUp)
    (down : ¬ (state.paramsPttOnOff payload).LineUp) :
    ∃ entry ∈ (state.paramsPttOnOff payload).log, entry.call = .devicePtt .ttys false := by
  rw [paramsPttOnOff_eq] at down ⊢
  cases parsed : getLong payload with
  | none => simp [parsed, up] at down
  | some lv =>
    simp only [parsed] at down ⊢
    split at down
    case isTrue =>
      -- A request for PTT on does not put the line down.
      refine absurd ?_ down
      rw [lineUp_iff, keyer_setPttFlag, keyer_setPttOn]
      exact Keyer.raise_line ((lineUp_iff state).mp up)
    case isFalse zero =>
      rw [if_neg zero]
      split at down
      case isTrue manual =>
        rw [if_pos manual]
        split at down
        case isTrue drained =>
          rw [if_pos drained]
          exact setPttOff_log serial
        case isFalse => exact absurd up down
      case isFalse => exact absurd up down

theorem toneQueueLowCallback_off (serial : state.globalCwdevice = .ttys) (up : state.LineUp)
    (down : ¬ state.toneQueueLowCallback.LineUp) :
    ∃ entry ∈ state.toneQueueLowCallback.log, entry.call = .devicePtt .ttys false := by
  have answered : state.answered.LineUp := by
    rw [lineUp_iff, keyer_answered]
    exact (lineUp_iff state).mp up
  rw [toneQueueLowCallback_eq] at down ⊢
  generalize state.answered = answer at answered down
  split at down
  case isTrue alone =>
    rw [if_pos alone]
    exact setPttOff_log serial
  case isFalse =>
    split at down
    · split at down
      · exact absurd answered down
      · exact absurd answered down
    · exact absurd up down

/-- A line that goes down in an action that is not forced is switched off by a call. -/
theorem off_of_lineDown (wellformed : state.Wellformed) (input : Input) (up : state.LineUp)
    (down : ¬ (state.act world input.action).LineUp) (free : ¬ Forced input.action state) :
    ∃ entry ∈ (state.act world input.action).log, entry.call = .devicePtt .ttys false := by
  have serial := (wellformed.toSound.lineUp up).1
  have line := (lineUp_iff state).mp up
  cases action : input.action with
  | idle =>
    rw [action] at down
    exact absurd up down
  | exit =>
    rw [action] at free
    exact absurd trivial free
  | request request payload =>
    rw [action] at down free
    by_cases pttState : request = .pttState
    · subst pttState
      exact paramsPttOnOff_off payload serial up down
    · refine absurd ?_ down
      rw [lineUp_iff, act, keyer_handleEscRequest world request payload wellformed.idle]
      exact escMove_line free pttState line
  | text request =>
    obtain ⟨nulFree, length⟩ := Input.action_text_bounds action
    obtain ⟨after, reads, -, received⟩ := reads_receiveText world request wellformed.idle nulFree
      (Nat.lt_of_le_of_lt length (by decide))
    -- No step of a text puts the line down, not even the callback.
    have read : after.Sound ∧ after.keyer.line = true := by
      refine reads.preserves (fun before after step (held : before.Sound ∧ before.keyer.line = true) =>
        ⟨held.1.textStep length nulFree step, (step.keyer held.1.watched).line held.2⟩) ⟨?_, line⟩
      exact wellformed.toSound.withRequestQueue _
    rw [action, act, received] at down
    exact absurd ((lineUp_iff after).mpr read.2) down
  | key on =>
    obtain ⟨seconds, log, keyed⟩ := keyingevent_eq on state
    rw [action, act, keyed] at down
    exact absurd up down
  | dequeue =>
    rw [action, act] at down
    simp only [act]
    rcases state.dequeue_cases with same | ⟨generator, tone, tones, -, -, -, dequeued⟩
    · rw [same] at down
      exact absurd up down
    · rw [dequeued] at down ⊢
      split at down
      case isTrue crosses =>
        rw [if_pos crosses]
        exact toneQueueLowCallback_off serial up down
      case isFalse => exact absurd up down

/-! ## Steps -/

/-- The low callback leaves the devices alone while PTT is held or a reply is owed. -/
theorem toneQueueLowCallback_devices
    (held : state.pttFlag.has .manual = true ∨ state.pttFlag.has .echo = true) :
    state.toneQueueLowCallback.devices = state.devices := by
  have answered : state.answered.devices = state.devices := by
    simp only [answered, sendto]
    split <;> rfl
  rw [toneQueueLowCallback_eq, PttFlag.equals_auto]
  generalize state.answered = answer at answered
  split
  case isTrue alone =>
    rcases held with manual | echo
    · simp [manual] at alone
    · simp [echo] at alone
  case isFalse =>
    split
    · split
      · exact answered
      · exact answered
    · rfl

/-- A request for PTT off that comes while tones are queued leaves the line up. -/
theorem lineUp_of_busy {label : Label} {payload : Bytes} (wellformed : state.Wellformed)
    (request : label.input.action = .request .pttState payload) (busy : 1 < state.toneQueueLength)
    (up : state.LineUp) : (state.step label).LineUp := by
  rw [lineUp_iff] at up ⊢
  by_cases running : state.status = .running
  · have kept : ((state.ready label.input).act label.world label.input.action).keyer.line = true := by
      rw [request, act, keyer_handleEscRequest label.world .pttState payload (wellformed.ready label.input).idle]
      rw [← ready_keyer label.input state] at up
      -- With tones queued PTT off only hands the line over to automatic mode.
      have queued : ¬ (state.ready label.input).keyer.tones ≤ 1 := by
        rw [ready_keyer]
        exact Nat.not_le.mpr busy
      simp only [escMove]
      split
      · exact up
      · split
        · exact Keyer.raise_line up
        · simp only [Keyer.move, queued, decide_false, Bool.and_false, Bool.false_eq_true, if_false]
          split
          · exact up
          · exact up
    rw [keyer_step running]
    exact kept
  · rw [step_ended label running]
    exact up

end State

open State

/-- In every reachable state and for every input: a command that switches PTT of the
serial port off is forced, or is given with no text being read and at most one tone
left; a line that goes down was switched off; the low callback never switches off a PTT
that is held; and a request for PTT off that comes too early leaves the line up. -/
theorem ptt_is_switched_off_only_when_justified {state : State} (reachable : Reachable state) (label : Label) :
    (∀ entry ∈ (state.step label).log, entry.call = .devicePtt .ttys false →
      Forced label.input.action state ∨ RunLow entry) ∧
    (state.LineUp → ¬ (state.step label).LineUp → Forced label.input.action state ∨
      ∃ entry ∈ (state.step label).log, entry.call = .devicePtt .ttys false ∧ RunLow entry) ∧
    (∀ middle : State, middle.pttFlag.has .manual = true ∨ middle.pttFlag.has .echo = true →
      middle.toneQueueLowCallback.devices = middle.devices) ∧
    ∀ payload, label.input.action = .request .pttState payload → 1 < state.toneQueueLength →
      state.LineUp → (state.step label).LineUp := by
  have wellformed := reachable.wellformed
  have excused (entry : Entry) (member : entry ∈ (state.step label).log)
      (off : entry.call = .devicePtt .ttys false) : Forced label.input.action state ∨ RunLow entry := by
    by_cases running : state.status = .running
    · have acts := adds_excused (wellformed.ready label.input) label.world label.input
      rcases step_log running acts member with excused | ⟨client, request, received⟩ | ⟨on, polled⟩
      · exact (excused off).imp (forced_ready_iff label.input.action label.input state).mp id
      · simp [received] at off
      · simp [polled] at off
    · rw [step_ended label running] at member
      cases member
  refine ⟨excused, fun up down => ?_, fun middle held => toneQueueLowCallback_devices held,
    fun payload request busy up => lineUp_of_busy wellformed request busy up⟩
  -- The call that has put the line down is in the log, and it is excused like any other.
  by_cases forced : Forced label.input.action state
  · exact .inl forced
  · right
    have running : state.status = .running := by
      by_contra ended
      rw [step_ended label ended] at down
      exact down up
    have ready : (state.ready label.input).LineUp := by
      rw [lineUp_iff, ready_keyer]
      exact (lineUp_iff state).mp up
    have lowered : ¬ ((state.ready label.input).act label.world label.input.action).LineUp := by
      rw [lineUp_iff, keyer_step running] at down
      rwa [lineUp_iff]
    obtain ⟨entry, member, off⟩ := off_of_lineDown (wellformed.ready label.input) label.input ready lowered
      (mt (forced_ready_iff label.input.action label.input state).mp forced)
    have logged := log_subset_step running member
    exact ⟨entry, logged, off, (excused entry logged off).resolve_left forced⟩

/-- The first of the two tones of a character is taken, and PTT goes off. -/
theorem ptt_is_switched_off_after_a_character :
    ∃ entry ∈ ((Runs.run State.step [calm.receivesEscape .txDelay [byte '9'], calm.receives [byte 'e']]
      onSerialPort).step ⟨calm, .dequeue⟩).log, entry.call = .devicePtt .ttys false ∧ RunLow entry := by
  have up : (Runs.run State.step [calm.receivesEscape .txDelay [byte '9'], calm.receives [byte 'e']]
      onSerialPort).LineUp := by
    unfold LineUp
    decide +kernel
  have down : ¬ ((Runs.run State.step [calm.receivesEscape .txDelay [byte '9'], calm.receives [byte 'e']]
      onSerialPort).step ⟨calm, .dequeue⟩).LineUp := by
    unfold LineUp
    decide +kernel
  have justified := ptt_is_switched_off_only_when_justified (reachable_run started_onSerialPort
    [calm.receivesEscape .txDelay [byte '9'], calm.receives [byte 'e']]) ⟨calm, .dequeue⟩
  exact (justified.2.1 up down).resolve_left id

end Cwdaemon
