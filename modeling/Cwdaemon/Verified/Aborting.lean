import Cwdaemon.Daemon.Abort
import Cwdaemon.Foundations.Monitor
import Cwdaemon.Verified.PendingReply
import Cwdaemon.Verified.Safety
import Cwdaemon.Verified.Works

/-! # ABORT leaves a clean state

ABORT answers first and then waits for libcw's thread, with the echo bit still set.  A
callback that comes meanwhile sends the reply that was just called off.
-/

namespace Cwdaemon

open CString (Buffer)

namespace State

variable {before after state : State} {activities : List Activity}

/-! ## The activity of libcw's thread -/

theorem takeTone_cases (state : State) :
    (state.takeTone = state ∧ state.tones = []) ∨
      ∃ generator tone tones, state.libcw.generator = some generator ∧ generator.toneQueue = tone :: tones ∧
        state.takeTone = state.taken generator tone tones := by
  cases opened : state.libcw.generator with
  | none => exact .inl (by simp [takeTone, tones, opened])
  | some generator =>
    cases queued : generator.toneQueue with
    | nil => exact .inl (by simp [takeTone, tones, opened, queued])
    | cons tone tones =>
      refine .inr ⟨generator, tone, tones, rfl, queued, ?_⟩
      simp only [takeTone, opened, queued]
      rfl

theorem silent_takeTone (state : State) : Silent state state.takeTone ∧ (state.Owes → state.takeTone.Owes) := by
  rcases state.takeTone_cases with ⟨same, -⟩ | ⟨generator, tone, tones, -, -, taken⟩
  · rw [same]
    exact ⟨.refl state, id⟩
  · rw [taken]
    exact ⟨⟨⟨[⟨.dequeued tone, state.moment⟩], rfl, by simp [Mailless, Entry.mail]⟩, rfl, rfl, id⟩, id⟩

theorem Sound.takeTone (sound : state.Sound) : state.takeTone.Sound := by
  rcases state.takeTone_cases with ⟨same, -⟩ | ⟨generator, tone, tones, opened, -, taken⟩
  · rw [same]
    exact sound
  · rw [taken]
    refine ⟨sound.live, sound.short, ?_, sound.accounted⟩
    rintro _ ⟨⟩ started
    exact sound.watched generator opened started

theorem served_takeTone (state : State) : Served state state.takeTone := by
  rcases state.takeTone_cases with ⟨same, -⟩ | ⟨generator, tone, tones, -, -, taken⟩
  · rw [same]
    exact .refl state
  · rw [taken]
    exact ⟨_, _, _, _, _, _, rfl⟩

theorem Sound.active (sound : state.Sound) (activities : List Activity) : (state.active activities).Sound := by
  induction activities generalizing state with
  | nil => exact sound
  | cons activity activities inductionHypothesis =>
    cases activity with
    | callback => exact inductionHypothesis sound.toneQueueLowCallback
    | tone => exact inductionHypothesis sound.takeTone

theorem served_active (activities : List Activity) (state : State) : Served state (state.active activities) := by
  induction activities generalizing state with
  | nil => exact .refl state
  | cons activity activities inductionHypothesis =>
    cases activity with
    | callback => exact (served_toneQueueLowCallback state).trans (inductionHypothesis _)
    | tone => exact (served_takeTone state).trans (inductionHypothesis _)

/-- Nothing is sent when no reply is owed, or when libcw's thread does not call back. -/
theorem silent_active (patient : state.Owes → .callback ∉ activities) :
    Silent state (state.active activities) ∧ (state.Owes → (state.active activities).Owes) := by
  induction activities generalizing state with
  | nil => exact ⟨.refl state, id⟩
  | cons activity activities inductionHypothesis =>
    cases activity with
    | callback =>
      have nothing : ¬ state.Owes := fun owed => patient owed List.mem_cons_self
      have called := silent_toneQueueLowCallback nothing
      have later := inductionHypothesis fun owed => absurd (called.owes owed) nothing
      exact ⟨called.trans later.1, fun owed => absurd owed nothing⟩
    | tone =>
      have taken := silent_takeTone state
      have later := inductionHypothesis fun owed => mt (List.mem_cons_of_mem _) (patient (taken.1.owes owed))
      exact ⟨taken.1.trans later.1, later.2 ∘ taken.2⟩

theorem Answers.silent {reply : Bytes} {last : State} (answers : Answers reply before after) (silent : Silent after last) :
    Answers reply before last := by
  obtain ⟨⟨earlier, moment, later, log, quiet, quiet'⟩, owed, done⟩ := answers
  obtain ⟨new, appended, mailless⟩ := silent.adds
  refine ⟨⟨earlier, moment, later ++ new, by rw [appended, log]; simp, quiet, fun entry member => ?_⟩, owed, done ∘ silent.owes⟩
  exact (List.mem_append.mp member).elim (quiet' entry) (mailless entry)

theorem Silent.answers {reply : Bytes} {last : State} (silent : Silent before after) (owed : before.Owes)
    (answers : Answers reply after last) : Answers reply before last := by
  obtain ⟨new, appended, mailless⟩ := silent.adds
  obtain ⟨⟨earlier, moment, later, log, quiet, quiet'⟩, -, done⟩ := answers
  refine ⟨⟨new ++ earlier, moment, later, ?_, fun entry member => ?_, quiet'⟩, owed, done⟩
  · rw [log, appended, silent.replyAddr]
    simp
  · exact (List.mem_append.mp member).elim (mailless entry) (quiet entry)

/-- A callback sends the reply that is owed, and no other one follows it. -/
theorem active_answers (sound : state.Sound) (owed : state.Owes) (called : .callback ∈ activities) :
    Answers (state.replyBuffer.bytes ++ crlf) state (state.active activities) := by
  induction activities generalizing state with
  | nil => cases called
  | cons activity activities inductionHypothesis =>
    cases activity with
    | callback =>
      have answers := toneQueueLowCallback_answers (sound.short owed) owed
      exact answers.silent (silent_active fun owed' => absurd owed' answers.done).1
    | tone =>
      obtain ⟨taken, owed'⟩ := silent_takeTone state
      have later := inductionHypothesis sound.takeTone (owed' owed) ((List.mem_cons.mp called).resolve_left (by simp))
      rw [taken.replyBuffer] at later
      exact taken.answers owed later

theorem tones_active_replicate {count : Nat} (enough : state.toneQueueLength ≤ count) :
    (state.active (List.replicate count .tone)).tones = [] := by
  rw [← length_tones] at enough
  induction count generalizing state with
  | zero => exact List.length_eq_zero_iff.mp (Nat.le_zero.mp enough)
  | succ count inductionHypothesis =>
    refine inductionHypothesis ?_
    rcases state.takeTone_cases with ⟨same, empty⟩ | ⟨generator, tone, tones, opened, queued, taken⟩
    · rw [same, empty]
      exact Nat.zero_le count
    · have before : state.tones = tone :: tones := by simp [State.tones, opened, queued]
      have after : (state.taken generator tone tones).tones = tones := rfl
      rw [before, List.length_cons] at enough
      rw [taken, after]
      omega

/-! ## The handler -/

/-- ABORT up to the flush, with what libcw's thread does meanwhile. -/
def flushed (flushing : List Activity) (state : State) : State :=
  (state.broken.clearRequestQueue.active flushing).cwFlushToneQueue.cwWaitForToneQueue

/-- ABORT up to the end of the wait. -/
def waited (flushing waiting : List Activity) (state : State) : State :=
  ((state.flushed flushing).active waiting).active
    (List.replicate ((state.flushed flushing).active waiting).toneQueueLength .tone)

/-- The end of ABORT. -/
def putOff (state : State) : State :=
  (if state.pttFlag.bits ≠ 0#8 then state.setPttOff else state).setPttFlag .zero

variable {flushing waiting : List Activity}

theorem escAbortDuring_eq (character : state.wordmode = false) :
    state.escAbortDuring flushing waiting = (state.waited flushing waiting).putOff := by
  simp only [escAbortDuring, character, Bool.false_eq_true, if_false, broken_eq]
  rfl

/-- When libcw's thread is at rest, ABORT is what it was taken for. -/
theorem escAbortDuring_nil (state : State) : state.escAbortDuring [] [] = state.escAbort := by
  have emptied (state : State) : state.cwFlushToneQueue.cwWaitForToneQueue.toneQueueLength = 0 := by
    rw [← length_tones]
    unfold tones
    cases opened : state.libcw.generator with
    | none => simp [cwFlushToneQueue, cwWaitForToneQueue, opened]
    | some generator => simp [cwFlushToneQueue, cwWaitForToneQueue, opened]
  simp only [escAbortDuring, escAbort, active, emptied, List.replicate_zero]

theorem Sound.broken (sound : state.Sound) : state.broken.Sound := by
  unfold State.broken
  split
  · exact ⟨sound.live, sound.short, sound.watched, sound.accounted⟩
  · exact sound

theorem Sound.flushed (sound : state.Sound) (flushing : List Activity) : (state.flushed flushing).Sound := by
  have flushed := (sound.broken.clearRequestQueue.active flushing).cwFlushToneQueue
  exact ⟨flushed.live, flushed.short, flushed.watched, flushed.accounted⟩

theorem Sound.waited (sound : state.Sound) (flushing waiting : List Activity) : (state.waited flushing waiting).Sound :=
  ((sound.flushed flushing).active waiting).active _

theorem waited_requestQueue (flushing waiting : List Activity) (state : State) :
    (state.waited flushing waiting).requestQueue = state.requestQueue.clear := by
  have served : Served (state.flushed flushing) (state.waited flushing waiting) :=
    (served_active waiting (state.flushed flushing)).trans (served_active _ _)
  have told : state.broken.requestQueue = state.requestQueue := by
    unfold broken
    split <;> rfl
  have flushed : (state.flushed flushing).requestQueue = state.broken.clearRequestQueue.requestQueue :=
    (served_active flushing state.broken.clearRequestQueue).requestQueue
  rw [served.requestQueue, flushed, clearRequestQueue_requestQueue, told]

theorem Sound.putOff (sound : state.Sound) : state.putOff.Sound := by
  have off : (if state.pttFlag.bits ≠ 0#8 then state.setPttOff else state).Sound ∧
      (if state.pttFlag.bits ≠ 0#8 then state.setPttOff else state).pttFlag.has .auto = false := by
    split
    case isTrue =>
      obtain ⟨devices, log, lowered⟩ := setPttOff_eq state
      exact ⟨sound.setPttOff, by simp [lowered]⟩
    case isFalse nothing =>
      have none := (PttFlag.bits_eq_zero_iff state.pttFlag).mp (not_not.mp nothing)
      simp only [Bool.or_eq_false_iff] at none
      exact ⟨sound, none.1.1⟩
  exact off.1.setPttFlag (by simp) fun auto => absurd (auto.symm.trans off.2) (by decide)

theorem putOff_eq (state : State) :
    ∃ devices log, state.putOff = { state.withDevices devices log with pttFlag := .zero } := by
  unfold putOff
  split
  · obtain ⟨devices, log, lowered⟩ := setPttOff_eq state
    exact ⟨devices, log, by rw [lowered]; rfl⟩
  · exact ⟨state.devices, state.log, rfl⟩

theorem silent_putOff (state : State) : Silent state state.putOff := by
  have off : Silent state (if state.pttFlag.bits ≠ 0#8 then state.setPttOff else state) := by
    split
    · exact silent_setPttOff state
    · exact .refl state
  have cleared (state : State) : Silent state (state.setPttFlag .zero) := ⟨.of_log_eq rfl, rfl, rfl, by simp [Owes]⟩
  exact off.trans (cleared _)

theorem Wellformed.escAbortDuring (wellformed : state.Wellformed) (flushing waiting : List Activity) :
    (state.escAbortDuring flushing waiting).Wellformed := by
  cases mode : state.wordmode with
  | true =>
    simp only [State.escAbortDuring, mode, if_true]
    exact wellformed
  | false =>
    have sound := (wellformed.toSound.waited flushing waiting).putOff
    have cleared := congrArg Buffer.bytes (waited_requestQueue flushing waiting state)
    obtain ⟨devices, log, off⟩ := putOff_eq (state.waited flushing waiting)
    rw [escAbortDuring_eq mode]
    refine ⟨sound, ?_⟩
    rw [off]
    exact cleared

/-! ## What is sent -/

theorem silent_flush (state : State) :
    Silent state state.cwFlushToneQueue.cwWaitForToneQueue ∧
      (state.Owes → state.cwFlushToneQueue.cwWaitForToneQueue.Owes) := by
  have waited (state : State) : Silent state state.cwWaitForToneQueue := ⟨.record rfl, rfl, rfl, id⟩
  exact ⟨(silent_callGenerator (by rfl) _).trans (waited _), id⟩

/-- What follows the answer is silent when libcw's thread does not call back with a reply
owed, and else it is the reply. -/
theorem waited_told (sound : state.Sound) :
    ((state.Owes → .callback ∉ flushing ∧ .callback ∉ waiting) → Silent state.broken (state.waited flushing waiting)) ∧
    (state.Owes → .callback ∈ flushing ∨ .callback ∈ waiting →
      Answers (state.replyBuffer.bytes ++ crlf) state.broken (state.waited flushing waiting)) := by
  have cleared : Silent state.broken state.broken.clearRequestQueue := ⟨.of_log_eq rfl, rfl, rfl, id⟩
  have same : (state.broken.Owes ↔ state.Owes) ∧ state.broken.replyBuffer = state.replyBuffer := by
    unfold broken
    split <;> exact ⟨Iff.rfl, rfl⟩
  have queued := sound.broken.clearRequestQueue
  have flush := silent_flush (state.broken.clearRequestQueue.active flushing)
  have tones : Activity.callback ∉ List.replicate ((state.flushed flushing).active waiting).toneQueueLength .tone :=
    fun member => by simpa using List.eq_of_mem_replicate member
  have last : Silent ((state.flushed flushing).active waiting) (state.waited flushing waiting) :=
    (silent_active fun _ => tones).1
  constructor
  · intro patient
    have first : Silent state.broken.clearRequestQueue (state.broken.clearRequestQueue.active flushing) :=
      (silent_active fun owed : state.broken.clearRequestQueue.Owes => (patient (same.1.mp owed)).1).1
    have second : Silent (state.flushed flushing) ((state.flushed flushing).active waiting) :=
      (silent_active fun owed => (patient (same.1.mp (first.owes (flush.1.owes owed)))).2).1
    exact ((cleared.trans (first.trans flush.1)).trans second).trans last
  · intro owed called
    have owed' : state.broken.clearRequestQueue.Owes := same.1.mpr owed
    rw [← same.2]
    by_cases early : Activity.callback ∈ flushing
    · have answers := active_answers queued owed' early
      have second : Silent (state.flushed flushing) ((state.flushed flushing).active waiting) :=
        (silent_active fun owed => absurd (flush.1.owes owed) answers.done).1
      exact cleared.answers owed' (answers.silent ((flush.1.trans second).trans last))
    · have first : Silent state.broken.clearRequestQueue (state.broken.clearRequestQueue.active flushing) ∧
          (state.broken.clearRequestQueue.Owes → (state.broken.clearRequestQueue.active flushing).Owes) :=
        silent_active fun _ => early
      have unsent := first.1.trans flush.1
      have answers := active_answers (sound.flushed flushing) (flush.2 (first.2 owed')) (called.resolve_left early)
      have same' : (state.flushed flushing).replyBuffer = state.broken.replyBuffer := unsent.replyBuffer
      rw [same'] at answers
      exact (cleared.trans unsent).answers owed' (answers.silent last)

/-! ## Prepared replies -/

/-- Remembers what was prepared, and allows no reply to be sent that was not. -/
def clerk : Monitor (List (SockaddrIn × Bytes)) Letter where
  next prepared letter :=
    match letter with
    | .prepared client text => (client, text) :: prepared
    | .received _ _ | .sent _ _ => prepared
  Allows prepared letter :=
    match letter with
    | .sent client reply => ∃ text, (client, text) ∈ prepared ∧ Completes text reply
    | .received _ _ | .prepared _ _ => True

/-- Whatever is sent among some calls was prepared among them. -/
def SendsPrepared (entries : List Entry) : Prop := clerk.Accepts (mails entries) []

/-- The reply that is owed was prepared. -/
def Remembered (prepared : List (SockaddrIn × Bytes)) (state : State) : Prop :=
  state.Owes → (state.replyAddr, state.replyBuffer.bytes) ∈ prepared

theorem accepts_of_trace {first last : Desk} {letters : List Letter} {prepared : List (SockaddrIn × Bytes)}
    (trace : Mailbox.Trace Arms Completes first letters last) (known : ∀ answer ∈ first.pending, answer ∈ prepared) :
    clerk.Accepts letters prepared ∧ ∀ answer ∈ last.pending, answer ∈ clerk.after letters prepared := by
  induction trace generalizing prepared with
  | nil => exact ⟨trivial, known⟩
  | cons step _ inductionHypothesis =>
    cases step with
    | receive =>
      have later := inductionHypothesis known
      exact ⟨⟨trivial, later.1⟩, later.2⟩
    | @prepare client request text _ _ _ =>
      have known' : ∀ answer ∈ some (client, text), answer ∈ (client, text) :: prepared := by simp
      have later := inductionHypothesis known'
      exact ⟨⟨trivial, later.1⟩, later.2⟩
    | send owed completed =>
      have known' : ∀ answer ∈ none, answer ∈ prepared := by simp
      have later := inductionHypothesis known'
      exact ⟨⟨⟨_, known _ owed, completed⟩, later.1⟩, later.2⟩

/-- What is sent in a change was prepared in it, or is owed before. -/
def Minds (before after : State) : Prop :=
  ∀ prepared, Remembered prepared before → ∃ new, after.log = before.log ++ new ∧
    clerk.Accepts (mails new) prepared ∧ Remembered (clerk.after (mails new) prepared) after

theorem Minds.trans {first second third : State} (earlier : Minds first second) (later : Minds second third) :
    Minds first third := by
  intro prepared known
  obtain ⟨new, appended, accepts, known'⟩ := earlier prepared known
  obtain ⟨new', appended', accepts', known''⟩ := later _ known'
  refine ⟨new ++ new', by rw [appended', appended, List.append_assoc], ?_, ?_⟩
  · rw [mails_append, Monitor.accepts_append]
    exact ⟨accepts, accepts'⟩
  · rw [mails_append, Monitor.after_append]
    exact known''

theorem Silent.minds (silent : Silent before after) : Minds before after := by
  intro prepared known
  obtain ⟨new, appended, mailless⟩ := silent.adds
  refine ⟨new, appended, ?_, fun owed => ?_⟩
  · rw [mails_of_mailless mailless]
    trivial
  · rw [mails_of_mailless mailless, silent.replyAddr, silent.replyBuffer]
    exact known (silent.owes owed)

theorem Answers.minds {reply : Bytes} (answers : Answers reply before after)
    (completes : Completes before.replyBuffer.bytes reply) : Minds before after := by
  intro prepared known
  obtain ⟨⟨earlier, moment, later, appended, quiet, quiet'⟩, owed, done⟩ := answers
  have only : mails (earlier ++ ⟨.sendto before.replyAddr reply, moment⟩ :: later) = [.sent before.replyAddr reply] := by
    rw [mails_append, mails_of_mailless quiet, List.nil_append]
    exact congrArg (Mailbox.Mail.sent before.replyAddr reply :: ·) (mails_of_mailless quiet')
  refine ⟨_, appended, ?_, fun owed' => absurd owed' done⟩
  rw [only]
  exact ⟨⟨_, known owed, completes⟩, trivial⟩

theorem minds_broken (state : State) : Minds state state.broken := by
  intro prepared known
  unfold broken
  split
  case isTrue owed => exact ⟨_, rfl, ⟨⟨_, known owed, .inr rfl⟩, trivial⟩, known⟩
  case isFalse => exact ⟨[], by simp, trivial, known⟩

theorem minds_escAbortDuring (sound : state.Sound) (flushing waiting : List Activity) :
    Minds state (state.escAbortDuring flushing waiting) := by
  cases mode : state.wordmode with
  | true =>
    simp only [escAbortDuring, mode, if_true]
    exact (Silent.refl state).minds
  | false =>
    obtain ⟨quiet, answers⟩ := @waited_told state flushing waiting sound
    have waited : Minds state.broken (state.waited flushing waiting) := by
      by_cases patient : state.Owes → .callback ∉ flushing ∧ .callback ∉ waiting
      · exact (quiet patient).minds
      · obtain ⟨owed, called⟩ := Classical.not_imp.mp patient
        have same : state.broken.replyBuffer = state.replyBuffer := by
          unfold broken
          split <;> rfl
        exact (answers owed (by tauto)).minds (.inl (congrArg (·.bytes ++ crlf) same.symm))
    rw [escAbortDuring_eq mode]
    exact ((minds_broken state).trans waited).trans (silent_putOff _).minds

/-! ## Runs -/

/-- A label, and what libcw's thread does while the daemon handles an ABORT. -/
structure BusyLabel extends Label where
  flushing : List Activity
  waiting : List Activity

/-- A step of the daemon with libcw's thread at work. -/
def stepDuring (label : BusyLabel) (state : State) : State :=
  match label.input.action with
  | .request .abort _ =>
    if state.status = .running then
      ((state.ready label.input).escAbortDuring label.flushing label.waiting).finish label.world label.input
    else { state with log := [] }
  | _ => state.step label.toLabel

theorem stepDuring_cases (label : BusyLabel) (state : State) :
    (state.stepDuring label = state.step label.toLabel) ∨
      (state.status = .running ∧ (∃ payload, label.input.action = .request .abort payload) ∧
        state.stepDuring label =
          ((state.ready label.input).escAbortDuring label.flushing label.waiting).finish label.world label.input) := by
  unfold stepDuring
  split
  case h_1 payload action =>
    by_cases running : state.status = .running
    · rw [if_pos running]
      exact .inr ⟨running, ⟨payload, action⟩, rfl⟩
    · rw [if_neg running, step_ended label.toLabel running]
      exact .inl rfl
  case h_2 => exact .inl rfl

/-- When libcw's thread is at rest, it is a step as it was taken for. -/
theorem stepDuring_idle (label : Label) (state : State) : state.stepDuring ⟨label, [], []⟩ = state.step label := by
  rcases stepDuring_cases ⟨label, [], []⟩ state with same | ⟨running, ⟨payload, action⟩, equal⟩
  · exact same
  · rw [equal, escAbortDuring_nil, step_eq label running, action]
    rfl

theorem Wellformed.stepDuring (label : BusyLabel) (state : State) (wellformed : state.Wellformed) :
    (state.stepDuring label).Wellformed := by
  rcases stepDuring_cases label state with same | ⟨-, -, equal⟩
  · rw [same]
    exact wellformed.step label.toLabel
  · rw [equal]
    exact ((wellformed.ready label.input).escAbortDuring label.flushing label.waiting).finish label.world label.input

/-- The mailbox server that owes what the daemon owes. -/
def duty (state : State) : Desk := ⟨none, if state.Owes then some (state.replyAddr, state.replyBuffer.bytes) else none⟩

theorem agrees_duty (state : State) : Agrees state.duty.latest state.duty state := by
  refine ⟨rfl, fun owed => ?_⟩
  simp only [duty, if_pos owed]

theorem Remembered.duty {prepared : List (SockaddrIn × Bytes)} (known : Remembered prepared state) :
    ∀ answer ∈ state.duty.pending, answer ∈ prepared := by
  intro answer member
  simp only [State.duty] at member
  split at member
  case isTrue owed =>
    cases member
    exact known owed
  case isFalse => cases member

/-- What a step sends was prepared in it, or before. -/
theorem stepDuring_remembers (label : BusyLabel) (wellformed : state.Wellformed)
    {prepared : List (SockaddrIn × Bytes)} (known : Remembered prepared state) :
    clerk.Accepts (mails (state.stepDuring label).log) prepared ∧
      Remembered (clerk.after (mails (state.stepDuring label).log) prepared) (state.stepDuring label) := by
  rcases stepDuring_cases label state with same | ⟨-, -, equal⟩
  · obtain ⟨desk, trace, agrees⟩ := step_delivers label.toLabel wellformed state.agrees_duty
    obtain ⟨accepts, known'⟩ := accepts_of_trace trace known.duty
    rw [same]
    exact ⟨accepts, fun owed => known' _ (agrees.pending owed)⟩
  · obtain ⟨desk, trace, agrees, -⟩ := ready_delivers label.input state.agrees_duty
    obtain ⟨accepts, known'⟩ := accepts_of_trace trace known.duty
    have sound := (wellformed.ready label.input).toSound
    obtain ⟨new, appended, accepts', known''⟩ := minds_escAbortDuring sound label.flushing label.waiting _
      fun owed => known' _ (agrees.pending owed)
    have log : mails (state.stepDuring label).log = mails (state.ready label.input).log ++ mails new ∧
        Remembered (clerk.after (mails new) (clerk.after (mails (state.ready label.input).log) prepared))
          (state.stepDuring label) := by
      rw [equal, ← mails_append, ← appended]
      -- The poll of the footswitch is no mail.
      rcases finish_cases label.world label.input
        ((state.ready label.input).escAbortDuring label.flushing label.waiting) with same | ⟨port, polls, polled, switched⟩
      · rw [same]
        exact ⟨rfl, known''⟩
      · have quiet : mails polls = [] := mails_of_mailless fun entry member => by
          obtain ⟨on, poll⟩ := switched entry member
          simp [Mailless, Entry.mail, poll]
        rw [polled, withDevices_log, mails_append, quiet, List.append_nil]
        exact ⟨rfl, known''⟩
    rw [log.1, Monitor.accepts_append, Monitor.after_append]
    exact ⟨⟨accepts, accepts'⟩, log.2⟩

theorem history_remembers (labels : List BusyLabel) (wellformed : state.Wellformed)
    {prepared : List (SockaddrIn × Bytes)} (known : Remembered prepared state) :
    clerk.Accepts (mails (Runs.history stepDuring State.log labels state)) prepared := by
  induction labels generalizing state prepared with
  | nil => trivial
  | cons label labels inductionHypothesis =>
    obtain ⟨accepts, known'⟩ := stepDuring_remembers label wellformed known
    rw [Runs.history, mails_append, Monitor.accepts_append]
    exact ⟨accepts, inductionHypothesis (wellformed.stepDuring label) known'⟩

/-! ## The request -/

/-- ABORT leaves no PTT and nothing queued.  A client that waits for a reply is told so,
once, and the reply is sent to nobody, now or later. -/
structure CleanlyAborted (before after : State) : Prop where
  pttFlag : after.pttFlag = .zero
  line : ¬ after.LineUp
  requestQueue : after.requestQueue.bytes = []
  tones : after.tones = []
  told : before.Owes → sends after.log = [(before.replyAddr, breakReply)]
  forgotten : before.Owes → ∀ labels, SendsPrepared (Runs.history stepDuring State.log labels after)

theorem finish_kept (world : World) (input : Input) (state : State) :
    (state.finish world input).pttFlag = state.pttFlag ∧ (state.finish world input).libcw = state.libcw := by
  rcases finish_cases world input state with same | ⟨port, polls, polled, -⟩
  · rw [same]
    exact ⟨rfl, rfl⟩
  · rw [polled]
    exact ⟨rfl, rfl⟩

/-- Whatever libcw's thread does, there is no PTT and nothing queued afterwards. -/
theorem finish_escAbortDuring (character : state.wordmode = false) (world : World) (input : Input)
    (flushing waiting : List Activity) :
    ((state.escAbortDuring flushing waiting).finish world input).pttFlag = .zero ∧
      ((state.escAbortDuring flushing waiting).finish world input).tones = [] := by
  have kept := finish_kept world input (state.escAbortDuring flushing waiting)
  have empty : (state.waited flushing waiting).tones = [] := tones_active_replicate (Nat.le_refl _)
  obtain ⟨devices, log, off⟩ := putOff_eq (state.waited flushing waiting)
  rw [escAbortDuring_eq character, off] at kept ⊢
  refine ⟨kept.1, ?_⟩
  unfold tones at empty ⊢
  rw [kept.2]
  exact empty

theorem broken_owed (owed : state.Owes) :
    state.broken.log = state.log ++ [⟨.sendto state.replyAddr breakReply, state.moment⟩] ∧
      state.broken.replyAddr = state.replyAddr := by
  rw [broken, if_pos owed.echo]
  exact ⟨rfl, rfl⟩

/-- What is sent to a client that waits: `break`, and then the reply if there is a callback. -/
theorem sends_escAbortDuring (wellformed : state.Wellformed) (character : state.wordmode = false)
    (owed : state.Owes) (world : World) (input : Input) (flushing waiting : List Activity) :
    sends (((state.ready input).escAbortDuring flushing waiting).finish world input).log =
      (state.replyAddr, breakReply) ::
        if .callback ∈ flushing ∨ .callback ∈ waiting then [(state.replyAddr, state.replyBuffer.bytes ++ crlf)] else [] := by
  have ready := wellformed.ready input
  have same : (state.ready input).wordmode = false ∧ (state.ready input).Owes ∧
      (state.ready input).replyAddr = state.replyAddr ∧ (state.ready input).replyBuffer = state.replyBuffer := by
    obtain ⟨seconds, addr, log, equal, -⟩ := ready_eq input state
    rw [equal]
    exact ⟨character, owed, rfl, rfl⟩
  obtain ⟨character', owed', addr, reply⟩ := same
  obtain ⟨quiet, answers⟩ := @waited_told (state.ready input) flushing waiting ready.toSound
  have told := broken_owed owed'
  have off := silent_putOff ((state.ready input).waited flushing waiting)
  rw [← escAbortDuring_eq character'] at off
  rw [← addr, ← reply]
  by_cases called : .callback ∈ flushing ∨ .callback ∈ waiting
  · obtain ⟨⟨earlier, moment, later, appended, mailless, mailless'⟩, -, -⟩ := (answers owed' called).silent off
    rw [told.1, List.append_assoc] at appended
    rw [sends_finish world appended, if_pos called, sends_append, sends_append, sends_of_mailless mailless]
    have after : sends later = [] := sends_of_mailless mailless'
    simp only [sends] at after
    simp [sends, after, told.2]
  · have silent := (quiet fun _ => not_or.mp called).trans off
    obtain ⟨new, appended, mailless⟩ := silent.adds
    rw [told.1, List.append_assoc] at appended
    rw [sends_finish world appended, if_neg called, sends_append, sends_of_mailless mailless]
    rfl

end State

open State

/-- ABORT leaves a clean state exactly if no reply is owed or libcw's thread does not call
back before the daemon has waited for it. -/
theorem abort_leaves_clean_state_iff {initial : State} (started : Started initial) (labels : List BusyLabel)
    {state : State} (reached : Runs.run stepDuring labels initial = state) (running : state.status = .running)
    (character : state.wordmode = false) {label : BusyLabel} {payload : Bytes}
    (action : label.input.action = .request .abort payload) :
    CleanlyAborted state (state.stepDuring label) ↔
      (state.Owes → .callback ∉ label.flushing ∧ .callback ∉ label.waiting) := by
  have wellformed : state.Wellformed := by
    rw [← reached]
    exact Runs.run_preserves Wellformed.stepDuring labels started.wellformed
  have after := wellformed.stepDuring label
  have equal : state.stepDuring label =
      ((state.ready label.input).escAbortDuring label.flushing label.waiting).finish label.world label.input := by
    simp only [stepDuring, action, if_pos running]
  have character' : (state.ready label.input).wordmode = false := by
    obtain ⟨seconds, addr, log, ready, -⟩ := ready_eq label.input state
    rw [ready]
    exact character
  obtain ⟨flag, tones⟩ :=
    finish_escAbortDuring character' label.world label.input label.flushing label.waiting
  rw [← equal] at flag tones
  have sent (owed : state.Owes) :=
    sends_escAbortDuring wellformed character owed label.world label.input label.flushing label.waiting
  rw [← equal] at sent
  constructor
  · intro clean owed
    by_contra called
    have told := clean.told owed
    rw [sent owed, if_pos (by tauto)] at told
    cases told
  · intro patient
    have nothing : ¬ (state.stepDuring label).Owes := by simp [Owes, flag]
    refine ⟨flag, fun up => ?_, after.idle, tones, fun owed => ?_, fun _ labels => ?_⟩
    · -- A line that is up would be in automatic mode, but the flag is cleared.
      have auto := (after.toSound.lineUp up).2.1
      rw [flag] at auto
      simp at auto
    · rw [sent owed, if_neg (by tauto)]
    · exact history_remembers labels after fun owed => absurd owed nothing

/-- A client that waits for a reply has a letter played. -/
def waitingForReply : List BusyLabel :=
  [⟨calm.receivesEscape .reply [byte 'x'], [], []⟩, ⟨calm.receives [byte 'e'], [], []⟩]

/-- The letter is aborted when its first tone has been played, and libcw's thread calls
back: the client is sent `break` and the reply. -/
theorem abort_sends_the_reply_too :
    ¬ ∀ (initial : State) (labels : List BusyLabel) (state : State) (label : BusyLabel) (payload : Bytes),
      Started initial → Runs.run stepDuring labels initial = state → state.status = .running →
      state.wordmode = false → label.input.action = .request .abort payload →
      CleanlyAborted state (state.stepDuring label) := by
  intro clean
  have aborted := clean onSerialPort waitingForReply _ ⟨calm.receivesEscape .abort [], [.tone, .callback], []⟩ []
    started_onSerialPort rfl (by decide +kernel) (by decide +kernel) rfl
  exact absurd (aborted.told (by decide +kernel)) (by decide +kernel)

theorem abort_leaves_clean_state_without_callback :
    CleanlyAborted (Runs.run stepDuring waitingForReply onSerialPort)
      ((Runs.run stepDuring waitingForReply onSerialPort).stepDuring ⟨calm.receivesEscape .abort [], [.tone], []⟩) :=
  (abort_leaves_clean_state_iff started_onSerialPort waitingForReply rfl (by decide +kernel) (by decide +kernel)
    rfl).mpr fun _ => ⟨by decide, by decide⟩

end Cwdaemon
