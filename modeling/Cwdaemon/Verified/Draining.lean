import Cwdaemon.Verified.Ending
import Cwdaemon.Verified.InStep
import Cwdaemon.Verified.PendingReply
import Cwdaemon.Verified.Works

/-! # When nobody asks for anything more

Left alone by its clients, the daemon comes to rest as soon as libcw has played what is in
its queue: nothing of it is left out, the client that waits for a reply gets it, once, and
PTT goes off unless somebody holds it by hand.
-/

namespace Cwdaemon

namespace Keyer

/-- A number of tones are taken from the queue. -/
def drains : Nat → Keyer → Keyer
  | 0, keyer => keyer
  | count + 1, keyer => drains count keyer.drain

theorem drains_add (first second : Nat) (keyer : Keyer) :
    keyer.drains (first + second) = (keyer.drains first).drains second := by
  induction first generalizing keyer with
  | zero => rw [Nat.zero_add, drains]
  | succ first inductionHypothesis =>
    rw [Nat.succ_add, drains, drains]
    exact inductionHypothesis keyer.drain

theorem drains_empty {keyer : Keyer} (empty : keyer.tones = 0) (count : Nat) : keyer.drains count = keyer := by
  induction count with
  | zero => rfl
  | succ count inductionHypothesis =>
    have same : keyer.drain = keyer := by simp only [drain, empty]
    rw [drains, same, inductionHypothesis]

/-- No callback comes before the last but one tone. -/
theorem drains_to_two (count : Nat) (keyer : Keyer) :
    drains count { keyer with tones := count + 2 } = { keyer with tones := 2 } := by
  induction count with
  | zero => rfl
  | succ count inductionHypothesis =>
    have taken : drain { keyer with tones := count + 1 + 2 } = { keyer with tones := count + 2 } := by
      simp only [drain]
      exact if_neg (by omega)
    rw [drains, taken, inductionHypothesis]

/-- What the controller is left at when all tones are played. -/
def rested (keyer : Keyer) : Keyer :=
  { (if keyer.auto && !keyer.manual then keyer.lower else { keyer with echo := false }) with tones := 0 }

theorem drains_two (keyer : Keyer) (opened : keyer.generator = true) (idle : keyer.text = false) :
    drains 4 { keyer with tones := 2 } = keyer.rested := by
  obtain ⟨serial, line, auto, manual, echo, delayed, text, generator, tones⟩ := keyer
  cases opened
  cases idle
  cases auto <;> cases manual <;> cases echo <;> rfl

theorem drains_rested {keyer : Keyer} (opened : keyer.generator = true) (idle : keyer.text = false)
    (queued : 2 ≤ keyer.tones) {count : Nat} (enough : keyer.tones + 2 ≤ count) :
    keyer.drains count = keyer.rested := by
  obtain ⟨before, tones⟩ := Nat.exists_eq_add_of_le' queued
  obtain ⟨rest, rfl⟩ := Nat.exists_eq_add_of_le enough
  have many : keyer.drains before = { keyer with tones := 2 } := by
    have above := drains_to_two before keyer
    rw [← tones] at above
    exact above
  have empty : keyer.rested.tones = 0 := rfl
  rw [tones, Nat.add_assoc before, Nat.add_assoc before, drains_add, many, drains_add, drains_two keyer opened idle,
    drains_empty empty]

end Keyer

/-- What happens without a client: the clock, libcw's thread and its key. -/
def Action.Unasked : Action → Prop
  | .idle | .dequeue | .key _ => True
  | .request _ _ | .text _ | .exit => False

def Action.dequeues : Action → Bool
  | .dequeue => true
  | _ => false

/-- How often libcw's thread comes for a tone. -/
def dequeuesOf (labels : List Label) : Nat := labels.countP fun label => label.input.action.dequeues

namespace State

variable {state : State}

/-- libcw's thread takes a tone whenever a started generator has one. -/
theorem keyer_dequeue_started (watched : Watched state.libcw) (playing : state.output = .started) :
    state.dequeue.keyer = state.keyer.drain := by
  cases opened : state.libcw.generator with
  | none => simp [State.output, outputOf, opened] at playing
  | some generator =>
    have started : generator.started = true := by
      by_contra stopped
      simp [State.output, outputOf, opened, stopped] at playing
    cases queued : generator.toneQueue with
    | nil =>
      have empty : state.keyer.tones = 0 := by
        simp [keyer, toneQueueLength, Libcw.toneQueueLength, opened, queued]
      have same : state.dequeue = state := by simp only [dequeue, opened, started, queued]
      rw [same]
      simp only [Keyer.drain, empty]
    | cons tone tones => exact keyer_dequeue_eq watched opened started queued

/-- What nobody asks for needs no licence to lose tones or to renew the generator. -/
theorem licence_unasked (state : State) {action : Action} (unasked : action.Unasked) :
    action.exitCode = none ∧ ¬ (action.licence state).flushes ∧ ¬ (action.licence state).renews := by
  cases action with
  | idle | dequeue | key => exact ⟨rfl, by simp [Action.licence], by simp [Action.licence]⟩
  | request | text | exit => exact unasked.elim

/-- Nothing that is not asked for opens or closes the output, or ends the daemon. -/
theorem step_unasked {label : Label} (wellformed : state.Wellformed) (linked : state.Linked)
    (running : state.status = .running) (unasked : label.input.action.Unasked) :
    (state.step label).status = .running ∧ (state.step label).output = state.output := by
  obtain ⟨lives, -, stays⟩ := licence_unasked (state.ready label.input) unasked
  have works := Works.step label (.inr linked) (.refl (label.licence state))
  refine ⟨?_, works.output stays⟩
  rw [step_status label running wellformed]
  simp [statusAfter, lives]

/-- What a step does to the controller. -/
theorem keyer_step_unasked {label : Label} (wellformed : state.Wellformed) (running : state.status = .running)
    (playing : state.output = .started) (unasked : label.input.action.Unasked) :
    (state.step label).keyer = if label.input.action.dequeues then state.keyer.drain else state.keyer := by
  have playing' : (state.ready label.input).output = .started :=
    ((Works.ready label.input state).output id).trans playing
  rw [keyer_step running, ← ready_keyer label.input state]
  cases action : label.input.action with
  | idle => rfl
  | key on =>
    obtain ⟨seconds, log, keyed⟩ := keyingevent_eq on (state.ready label.input)
    rw [act, keyed]
    rfl
  | dequeue => exact keyer_dequeue_started (wellformed.ready label.input).watched playing'
  | request | text | exit => exact (action ▸ unasked).elim

theorem keyer_run_unasked {labels : List Label} (wellformed : state.Wellformed) (linked : state.Linked)
    (running : state.status = .running) (playing : state.output = .started)
    (unasked : ∀ label ∈ labels, label.input.action.Unasked) :
    (Runs.run State.step labels state).keyer = state.keyer.drains (dequeuesOf labels) := by
  induction labels generalizing state with
  | nil => rfl
  | cons label labels inductionHypothesis =>
    obtain ⟨here, rest⟩ := List.forall_mem_cons.mp unasked
    obtain ⟨lives, plays⟩ := step_unasked wellformed linked running here
    rw [Runs.run_cons, inductionHypothesis (wellformed.step label) (linked.step label wellformed) lives
      (plays.trans playing) rest, keyer_step_unasked wellformed running playing here, dequeuesOf, dequeuesOf,
      List.countP_cons]
    cases label.input.action.dequeues <;> rfl

/-! ## Replies -/

theorem act_unasked_cases (world : World) {action : Action} (sound : state.Sound) (unasked : action.Unasked) :
    Answers (state.replyBuffer.bytes ++ crlf) state (state.act world action) ∨
      Silent state (state.act world action) ∧ (state.Owes → (state.act world action).Owes) := by
  cases action with
  | idle => exact .inr ⟨.refl state, id⟩
  | key on =>
    refine .inr ⟨silent_keyingevent on state, fun owed => ?_⟩
    obtain ⟨seconds, log, keyed⟩ := keyingevent_eq on state
    rw [act, keyed]
    exact owed
  | dequeue =>
    -- The callback answers when the tone that is taken leaves one in the queue.
    by_cases due : state.Owes ∧ state.NextLeavesOne
    · exact .inl (dequeue_answers sound due.1 due.2)
    · exact .inr (silent_dequeue sound fun owed low => due ⟨owed, low⟩)
  | request | text | exit => exact unasked.elim

/-- A step either settles the reply that is owed, with one datagram to the client that waits
for it, or sends nothing and leaves what is owed as it is. -/
theorem step_unasked_cases {label : Label} (wellformed : state.Wellformed) (running : state.status = .running)
    (unasked : label.input.action.Unasked) :
    (state.Owes ∧ ¬ (state.step label).Owes ∧
      sends (state.step label).log = [(state.replyAddr, state.replyBuffer.bytes ++ crlf)]) ∨
    ((state.step label).Owes ↔ state.Owes) ∧ sends (state.step label).log = [] ∧
      (state.step label).replyAddr = state.replyAddr ∧ (state.step label).replyBuffer = state.replyBuffer := by
  have ready := wellformed.ready label.input
  have same : (state.ready label.input).replyAddr = state.replyAddr ∧
      (state.ready label.input).replyBuffer = state.replyBuffer := by
    obtain ⟨seconds, addr, log, equal, -⟩ := ready_eq label.input state
    rw [equal]
    exact ⟨rfl, rfl⟩
  rw [owes_step_iff running]
  rcases act_unasked_cases label.world ready.toSound unasked with answers | ⟨silent, owes⟩
  · have sent := sends_of_answers running answers
    rw [same.1, same.2] at sent
    exact .inl ⟨(owes_ready_iff label.input state).mp answers.owed, answers.done, sent⟩
  · obtain ⟨new, appended, mailless⟩ := silent.adds
    have kept : (state.step label).replyAddr = state.replyAddr ∧
        (state.step label).replyBuffer = state.replyBuffer := by
      rw [step_eq label running, ← same.1, ← same.2, ← silent.replyAddr, ← silent.replyBuffer]
      rcases finish_cases label.world label.input ((state.ready label.input).act label.world label.input.action) with
        still | ⟨port, polls, polled, -⟩
      · rw [still]
        exact ⟨rfl, rfl⟩
      · rw [polled]
        exact ⟨rfl, rfl⟩
    refine .inr ⟨?_, ?_, kept⟩
    · rw [← owes_ready_iff label.input state]
      exact ⟨silent.owes, owes⟩
    · rw [sends_step running appended, sends_of_mailless mailless]

/-- No reply comes to be owed, and one that is owed at first, and not in the end, was sent
exactly once. -/
theorem sends_run_unasked {labels : List Label} (wellformed : state.Wellformed) (linked : state.Linked)
    (running : state.status = .running) (unasked : ∀ label ∈ labels, label.input.action.Unasked) :
    ((Runs.run State.step labels state).Owes → state.Owes) ∧
      sends (calls labels state) =
        if state.Owes ∧ ¬ (Runs.run State.step labels state).Owes then
          [(state.replyAddr, state.replyBuffer.bytes ++ crlf)]
        else [] := by
  induction labels generalizing state with
  | nil => exact ⟨id, (if_neg fun both => both.2 both.1).symm⟩
  | cons label labels inductionHypothesis =>
    obtain ⟨here, rest⟩ := List.forall_mem_cons.mp unasked
    obtain ⟨lives, -⟩ := step_unasked wellformed linked running here
    obtain ⟨never, later⟩ := inductionHypothesis (wellformed.step label) (linked.step label wellformed) lives rest
    have split : sends (calls (label :: labels) state) =
        sends (state.step label).log ++ sends (calls labels (state.step label)) := sends_append _ _
    rw [split, later, Runs.run_cons]
    -- The reply is sent by the first step or by a later one, and by one of them only.
    rcases step_unasked_cases wellformed running here with ⟨owed, gone, sent⟩ | ⟨owes, silent, addr, buffer⟩
    · refine ⟨fun _ => owed, ?_⟩
      rw [sent, if_neg fun both => gone both.1, List.append_nil, if_pos ⟨owed, fun again => gone (never again)⟩]
    · refine ⟨fun owed => owes.mp (never owed), ?_⟩
      rw [silent, addr, buffer, List.nil_append]
      simp only [owes]

/-! ## Tones -/

/-- The tones in the queue are played in their order, and before any other. -/
theorem played_run_unasked {labels : List Label} (wellformed : state.Wellformed) (linked : state.Linked)
    (running : state.status = .running) (unasked : ∀ label ∈ labels, label.input.action.Unasked) :
    ∃ added, state.tones ++ added =
      playedTones (calls labels state) ++ (Runs.run State.step labels state).tones := by
  induction labels generalizing state with
  | nil => exact ⟨[], List.append_nil _⟩
  | cons label labels inductionHypothesis =>
    obtain ⟨here, rest⟩ := List.forall_mem_cons.mp unasked
    obtain ⟨lives, -⟩ := step_unasked wellformed linked running here
    obtain ⟨added', later⟩ := inductionHypothesis (wellformed.step label) (linked.step label wellformed) lives rest
    obtain ⟨-, keeps, stays⟩ := licence_unasked (state.ready label.input) here
    have works := Works.step label (.inr linked) (.refl (label.licence state))
    obtain ⟨new, added, log, tones⟩ := works.conserves fun loses => loses.elim keeps stays
    have split : playedTones (calls (label :: labels) state) =
        playedTones (state.step label).log ++ playedTones (calls labels (state.step label)) := playedTones_append _ _
    refine ⟨added ++ added', ?_⟩
    rw [split, Runs.run_cons, List.append_assoc, ← later, log, List.nil_append, ← List.append_assoc,
      ← List.append_assoc, ← tones]
    rfl

end State

open State

/-- With an audio output there is a generator that plays. -/
theorem Reachable.playing {state : State} (reachable : Reachable state) (running : state.status = .running)
    (output : state.hasAudioOutput = true) : state.output = .started := by
  obtain ⟨generator, tuning, plays⟩ := (reachable.regulated.tuned running).audible output
  rw [output_eq_tuning, tuning]
  exact if_pos plays.started

/-- Left alone in any reachable state with an audio output and at least two tones in the
queue, the daemon comes to rest once libcw has come for two tones more than there were: these
tones were played in their order before any other, the client that waited for a reply was
sent it, once, and nobody else anything, and PTT of a serial port is off unless it is held by
hand. -/
theorem daemon_comes_to_rest {state : State} (reachable : Reachable state) (running : state.status = .running)
    (output : state.hasAudioOutput = true) (queued : 2 ≤ state.toneQueueLength) (labels : List Label)
    (unasked : ∀ label ∈ labels, label.input.action.Unasked)
    (enough : state.toneQueueLength + 2 ≤ dequeuesOf labels) :
    (Runs.run State.step labels state).toneQueueLength = 0 ∧
      state.tones <+: playedTones (calls labels state) ∧
      sends (calls labels state) =
        (if state.Owes then [(state.replyAddr, state.replyBuffer.bytes ++ crlf)] else []) ∧
      (((Runs.run State.step labels state).devices .ttys).pttCommand = some true →
        (Runs.run State.step labels state).pttFlag.has .manual = true) := by
  have wellformed := reachable.wellformed
  have linked := reachable.linked
  have playing := reachable.playing running output
  have opened : state.libcw.generator.isSome = true := by
    by_contra closed
    simp [State.output, outputOf, Option.not_isSome_iff_eq_none.mp closed] at playing
  have idle : state.keyer.text = false := by simp [keyer, wellformed.idle]
  -- PTT, reply and queue are those of the abstract controller when it has been drained.
  have rested : (Runs.run State.step labels state).keyer = state.keyer.rested := by
    rw [keyer_run_unasked wellformed linked running playing unasked]
    exact Keyer.drains_rested opened idle queued enough
  have empty : (Runs.run State.step labels state).toneQueueLength = 0 := congrArg Keyer.tones rested
  obtain ⟨added, tones⟩ := played_run_unasked wellformed linked running unasked
  obtain ⟨-, sent⟩ := sends_run_unasked wellformed linked running unasked
  refine ⟨empty, ⟨added, ?_⟩, ?_, fun up => ?_⟩
  · rw [tones, List.length_eq_zero_iff.mp ((length_tones _).trans empty), List.append_nil]
  · have settled : ¬ (Runs.run State.step labels state).Owes := by
      rw [owes_iff, rested, Keyer.rested]
      split <;> exact Bool.false_ne_true
    rw [sent]
    simp only [settled, not_false_eq_true, and_true]
  · have line : (Runs.run State.step labels state).keyer.line = true := beq_iff_eq.mpr up
    have manual : (Runs.run State.step labels state).keyer.manual = true := by
      have accounted := wellformed.accounted
      rw [rested] at line ⊢
      simp only [Keyer.rested, Keyer.lower, Keyer.Accounted] at line accounted ⊢
      grind
    exact manual

/-- A letter, with a reply asked for, while it is not played yet. -/
def afterLetter : State :=
  Runs.run State.step [calm.receivesEscape .txDelay [byte '9'], calm.receives [byte 'e', byte '^']] onSerialPort

theorem daemon_rests_after_letter :
    sends (calls [⟨calm, .key true⟩, ⟨calm, .dequeue⟩, ⟨calm, .key false⟩, ⟨calm, .dequeue⟩, ⟨calm, .timeout⟩,
        ⟨calm, .dequeue⟩, ⟨calm, .dequeue⟩] afterLetter) = [(client, [byte 'e'] ++ crlf)] := by
  have reachable : Reachable afterLetter := ⟨onSerialPort, _, started_onSerialPort, rfl⟩
  have rests := daemon_comes_to_rest reachable
    (by decide +kernel) (by decide +kernel) (by decide +kernel)
    [⟨calm, .key true⟩, ⟨calm, .dequeue⟩, ⟨calm, .key false⟩, ⟨calm, .dequeue⟩, ⟨calm, .timeout⟩, ⟨calm, .dequeue⟩,
      ⟨calm, .dequeue⟩]
    (by simp [Action.Unasked, Input.action]) (by decide +kernel)
  have owed : afterLetter.Owes := by decide +kernel
  rw [rests.2.2.1, if_pos owed]
  decide +kernel

end Cwdaemon
