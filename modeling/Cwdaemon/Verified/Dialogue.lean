import Cwdaemon.Foundations.StopAndWait
import Cwdaemon.Verified.Capacity
import Cwdaemon.Verified.Carets
import Cwdaemon.Verified.Draining
import Cwdaemon.Verified.TrailingNul
import Mathlib.Algebra.GroupWithZero.Nat

/-! # A client that waits for its replies

A client that wants to know how far its texts have been played ends each with a caret, waits
for the reply, and sends the next.  The daemon is then a server that keeps its promises: the
letters of the texts reach libcw in their order, none is left out, and each reply comes once,
when at most one tone of its text is left.
-/

namespace Cwdaemon

open CString

/-! ## Texts of letters -/

/-- A character that is passed to libcw, and sent back in a reply, as it is. -/
def isLetter (char : UInt8) : Bool := isPlayed char && char != byte '^' && char != byte '*' && char != 0xff

/-- The commands for a letter. -/
def letterCommands (char : UInt8) : List Command := [.ptt, .send char, .readGap]

namespace Keyer

theorem drain_unowed {keyer : Keyer} (unowed : keyer.echo = false) : keyer.drain.tones ≤ keyer.tones := by
  obtain ⟨serial, line, auto, manual, echo, delayed, text, generator, tones⟩ := keyer
  cases unowed
  cases tones with
  | zero => exact Nat.le_refl _
  | succ tones =>
    simp only [drain, low]
    split
    · split <;> exact Nat.le_succ tones
    · exact Nat.le_succ tones

/-- The tone that leaves one settles the reply, and two short ones may follow. -/
theorem drain_owed {keyer : Keyer} (owed : keyer.echo = true) (queued : 2 ≤ keyer.tones) :
    keyer.drain.echo = true ∧ 2 ≤ keyer.drain.tones ∧ keyer.drain.tones + 1 = keyer.tones ∨
      keyer.drain.echo = false ∧ keyer.drain.tones ≤ 3 := by
  obtain ⟨serial, line, auto, manual, echo, delayed, text, generator, tones⟩ := keyer
  cases owed
  obtain ⟨more, rfl⟩ : ∃ more, tones = more + 2 := Nat.exists_eq_add_of_le' queued
  by_cases last : more = 0
  · subst last
    refine .inr ?_
    simp only [drain, low, queue]
    cases auto <;> cases manual <;> cases generator <;> simp
  · refine .inl ?_
    simp only [drain]
    rw [if_neg (by omega)]
    exact ⟨rfl, by simp only; omega, rfl⟩

end Keyer

namespace State

variable {text : Bytes} {commands : List Command}

theorem characterCommands_letter (index : Nat) {char : UInt8} (letter : isLetter char = true) :
    characterCommands index char = letterCommands char := by
  simp only [isLetter, Bool.and_eq_true, bne_iff_ne] at letter
  obtain ⟨⟨-, star⟩, sent⟩ := letter
  simp [characterCommands, played, star, sent, letterCommands]

theorem program_letters (opened : Bool) (index : Nat) {gap : Int} (level : gap = 0) (speed : Int)
    (letters : ∀ char ∈ text, isLetter char = true) :
    program opened false index gap speed (text ++ [byte '^']) =
      text.flatMap letterCommands ++ [.reply (index + text.length)] := by
  subst level
  induction text generalizing index with
  | nil => rfl
  | cons char rest inductionHypothesis =>
    obtain ⟨letter, letters⟩ := List.forall_mem_cons.mp letters
    have plays := characterCommands_letter index letter
    simp only [isLetter, isPlayed, Bool.and_eq_true, bne_iff_ne, Bool.not_eq_true'] at letter
    obtain ⟨⟨⟨⟨sign, tilde⟩, caret⟩, -⟩, -⟩ := letter
    have next := inductionHypothesis (index + 1) letters
    have counted : index + (char :: rest).length = index + 1 + rest.length := by
      rw [List.length_cons]
      omega
    rw [counted, List.flatMap_cons, List.append_assoc, ← next, ← plays]
    simp [program, sign, tilde, caret]

theorem letters_silent : ∀ command ∈ text.flatMap letterCommands, ∀ index, command ≠ .reply index := by
  rintro _ member index rfl
  simp [letterCommands] at member

theorem heard_letters (code : MorseCode) (known : ∀ char ∈ text, code.known char = true) :
    code.heard (text.flatMap letterCommands) = text := by
  induction text with
  | nil => rfl
  | cons char rest inductionHypothesis =>
    obtain ⟨here, known⟩ := List.forall_mem_cons.mp known
    have alone : code.heard (letterCommands char) = [char] := List.filter_cons_of_pos here
    rw [List.flatMap_cons, code.heard_append, inductionHypothesis known, alone]
    rfl

theorem edit_letters (bytes : Bytes) : (text.flatMap letterCommands).foldl edit bytes = bytes := by
  induction text with
  | nil => rfl
  | cons char rest inductionHypothesis =>
    rw [List.flatMap_cons, List.foldl_append]
    exact inductionHypothesis

/-- Letters leave the parameters of the generator as they are. -/
theorem sameTuning_letters (world : World) (text : Bytes) (index : Nat) (state : State) :
    SameTuning state (execAll world (text.flatMap letterCommands ++ [.reply index]) state) := by
  refine sameTuning_execAll world state fun command member => ?_
  simp only [letterCommands, List.mem_append, List.mem_flatMap, List.mem_cons, List.not_mem_nil, or_false] at member
  rcases member with ⟨char, -, rfl | rfl | rfl⟩ | rfl <;> exact ⟨nofun, nofun⟩

/-- How many tones a text is played as. -/
def weight (code : MorseCode) (text : Bytes) (generator : Generator) : Nat :=
  (text.map fun char => (code.tones generator char).length).sum

theorem demand_letters (code : MorseCode) (known : ∀ char ∈ text, code.known char = true) (index : Nat)
    (generator : Generator) :
    code.demand (text.flatMap letterCommands ++ [.reply index]) generator = weight code text generator := by
  induction text with
  | nil => rfl
  | cons char rest inductionHypothesis =>
    obtain ⟨here, known⟩ := List.forall_mem_cons.mp known
    have later := inductionHypothesis known
    simp only [weight] at later ⊢
    rw [List.flatMap_cons, List.append_assoc, List.map_cons, List.sum_cons, ← later]
    simp [letterCommands, MorseCode.demand, MorseCode.load, Command.tune, here]

/-! ## The queue after a text -/

section Quiet

variable {code : MorseCode} {capacity : Nat} {world : World} (sends : world.Sends code capacity)
  (quiet : Quiet world)

include sends quiet

theorem queued_exec {state : State} {command : Command} {generator : Generator}
    (tuned : state.tuning = some generator)
    (room : state.toneQueueLength + code.load generator command ≤ capacity) :
    (state.exec world command).toneQueueLength = state.toneQueueLength + code.load generator command := by
  by_cases heard : code.heard [command] = []
  · rw [code.load_unheard heard, Nat.add_zero]
    by_cases replies : ∃ index, command = .reply index
    · obtain ⟨index, rfl⟩ := replies
      exact congrArg Keyer.tones (keyer_prepareReply _ _)
    · exact exec_quiet sends quiet (not_exists.mp replies) heard state
  · obtain ⟨char, rfl, known⟩ := code.heard_send heard
    have accepted : acceptedIn (state.exec world (.send char)).log = acceptedIn state.log ++ code.heard [.send char] :=
      accepted_exec sends (fun _ : false = false => quiet) fun _ => ⟨generator, tuned, room⟩
    rw [MorseCode.load, if_pos known]
    refine (accepted_send_quiet sends quiet known tuned ?_).2
    rw [accepted, code.heard_known known, List.length_append]
    exact Nat.lt_succ_self _

/-- A program that fits leaves its tones in the queue. -/
theorem queued_execAll {state : State} {generator : Generator} (tuned : state.tuning = some generator)
    (room : state.toneQueueLength + code.demand commands generator ≤ capacity) :
    (execAll world commands state).toneQueueLength = state.toneQueueLength + code.demand commands generator := by
  induction commands generalizing state generator with
  | nil => rfl
  | cons command commands inductionHypothesis =>
    rw [MorseCode.demand] at room ⊢
    have first : (state.exec world command).toneQueueLength = state.toneQueueLength + code.load generator command :=
      queued_exec sends quiet tuned (by omega)
    have next : (state.exec world command).tuning = some (command.tune generator) := by rw [tuning_exec, tuned]; rfl
    rw [execAll_cons, inductionHypothesis next (by omega), first, Nat.add_assoc]

end Quiet

end State

/-- A text that a client may send with a caret behind it: its letters are known to libcw, and
their tones fit into the queue with this many others. -/
structure Proper (code : MorseCode) (capacity others : Nat) (text : Bytes) : Prop where
  nonempty : text ≠ []
  short : text.length < CWDAEMON_REQUEST_SIZE_MAX
  unescaped : text.head? ≠ some ASCII_ESC
  nulFree : 0 ∉ text
  letters : ∀ char ∈ text, isLetter char = true
  known : ∀ char ∈ text, code.known char = true
  fits : ∀ generator, others + State.weight code text generator ≤ capacity

/-- libcw keys every letter with two tones at least. -/
def MorseCode.TwoTones (code : MorseCode) : Prop :=
  ∀ generator char, code.known char = true → 2 ≤ (code.tones generator char).length

section Text

variable {code : MorseCode} {capacity others : Nat} {text : Bytes} (proper : Proper code capacity others text)

include proper

theorem Proper.arrived : requestOf (text ++ [byte '^']) = some (text ++ [byte '^']) := by
  have caret : 0 ≠ byte '^' ∧ byte '^' ≠ byte '\n' ∧ byte '^' ≠ byte '\r' := by decide
  have nulFree : 0 ∉ text ++ [byte '^'] := by simp [proper.nulFree, caret.1]
  have length : (text ++ [byte '^']).length ≤ CWDAEMON_REQUEST_SIZE_MAX := by
    rw [List.length_append]
    exact proper.short
  have whole : stripCrlf (text ++ [byte '^']) = text ++ [byte '^'] := by
    rw [stripCrlf, List.reverse_append]
    simp [caret.2]
  rw [requestOf_of_nul_free nulFree length, whole, if_neg (by simp)]

theorem Proper.action (client : SockaddrIn) :
    (Input.datagram client (text ++ [byte '^'])).action = .text (text ++ [byte '^']) := by
  have unescaped : (text ++ [byte '^']).head? ≠ some ASCII_ESC := by
    rw [List.head?_append_of_ne_nil _ proper.nonempty]
    exact proper.unescaped
  simp only [Input.action, proper.arrived, if_pos unescaped]

theorem Proper.weight (twoTones : code.TwoTones) (generator : Generator) : 2 ≤ State.weight code text generator := by
  obtain ⟨char, rest, rfl⟩ := List.exists_cons_of_ne_nil proper.nonempty
  have first := twoTones generator char (proper.known char List.mem_cons_self)
  rw [State.weight, List.map_cons, List.sum_cons]
  omega

end Text

/-! ## What is heard of the daemon -/

/-- A letter that libcw takes to key it, or a reply, which may come when at most one tone is
left in the queue. -/
inductive Heard where
  | letter (char : UInt8)
  | reply (client : SockaddrIn) (reply : Bytes) (drained : Bool)
  deriving DecidableEq, Repr

def Entry.heard (entry : Entry) : Option Heard :=
  match entry.call with
  | .sendCharacter char true => some (.letter char)
  | .sendto client reply => some (.reply client reply (entry.moment.toneQueueLength ≤ 1))
  | _ => none

def heardIn (log : List Entry) : List Heard := log.filterMap Entry.heard

theorem heardIn_of_silent {log : List Entry} (silent : sends log = []) :
    heardIn log = (acceptedIn log).map Heard.letter := by
  induction log with
  | nil => rfl
  | cons entry log inductionHypothesis =>
    obtain ⟨call, moment⟩ := entry
    cases call with
    | sendto => simp [sends] at silent
    | sendCharacter char accepted =>
      have later := inductionHypothesis silent
      cases accepted with
      | false => exact later
      | true => exact congrArg (Heard.letter char :: ·) later
    | _ => exact inductionHypothesis silent

/-- Replies come when the queue has run low. -/
def RunsLow (entry : Entry) : Prop :=
  (∀ char accepted, entry.call ≠ .sendCharacter char accepted) ∧
    ∀ client reply, entry.call = .sendto client reply → entry.moment.toneQueueLength ≤ 1

theorem heardIn_of_runsLow {log : List Entry} (low : ∀ entry ∈ log, RunsLow entry) :
    heardIn log = (sends log).map fun (client, reply) => Heard.reply client reply true := by
  induction log with
  | nil => rfl
  | cons entry log inductionHypothesis =>
    obtain ⟨⟨unsent, drained⟩, low⟩ := List.forall_mem_cons.mp low
    have later := inductionHypothesis low
    obtain ⟨call, moment⟩ := entry
    cases call with
    | sendCharacter char accepted => exact absurd rfl (unsent char accepted)
    | sendto client reply =>
      have heard : Entry.heard ⟨.sendto client reply, moment⟩ = some (.reply client reply true) := by
        simpa [Entry.heard] using drained client reply rfl
      rw [heardIn, List.filterMap_cons, heard]
      exact congrArg (Heard.reply client reply true :: ·) later
    | _ => exact later

namespace State

variable {code : MorseCode} {capacity others : Nat} {client : SockaddrIn} {text : Bytes} {state : State}

/-! ## The daemon as a server -/

/-- The daemon runs, its output is open, and the gap is the usual one. -/
structure Attentive (state : State) : Prop extends Wellformed state where
  linked : state.Linked
  running : state.status = .running
  playing : state.output = .started
  level : state.gap = 0

theorem Attentive.tuned (attentive : state.Attentive) : ∃ generator, state.tuning = some generator := by
  have playing := attentive.playing
  rw [output_eq_tuning] at playing
  cases tuned : state.tuning with
  | none => simp [tuned, outputOf] at playing
  | some generator => exact ⟨generator, rfl⟩

/-- No reply is owed, and there are few tones. -/
structure Resting (others : Nat) (state : State) : Prop extends Attentive state where
  settled : ¬ state.Owes
  few : state.toneQueueLength ≤ others

/-- The client waits for the reply to its text. -/
structure Busy (client : SockaddrIn) (text : Bytes) (state : State) : Prop extends Attentive state where
  owed : state.Owes
  addr : state.replyAddr = client
  buffer : state.replyBuffer.bytes = text
  queued : 2 ≤ state.toneQueueLength

section Working

variable {label : Label} (unasked : label.input.action.Unasked)

include unasked

theorem sameTuning_step_unasked (running : state.status = .running) : SameTuning state (state.step label) := by
  rw [step_eq label running]
  refine ((SameTuning.ready label.input state).trans ?_).trans (SameTuning.finish label.world label.input _)
  cases action : label.input.action with
  | idle => exact .refl _
  | dequeue => exact .dequeue _
  | key on => exact .keyingevent on _
  | request | text | exit => exact (action ▸ unasked).elim

theorem runsLow_step (wellformed : state.Wellformed) (running : state.status = .running) :
    ∀ entry ∈ (state.step label).log, RunsLow entry := by
  have routine {entry : Entry} (routine : Routine entry) : RunsLow entry := by
    constructor <;> intros _ _ call <;> simp [Routine, call, Call.isRoutine] at routine
  have acts : Adds RunsLow (state.ready label.input)
      ((state.ready label.input).act label.world label.input.action) := by
    cases action : label.input.action with
    | idle => exact .refl _ _
    | key on => exact (adds_keyingevent on _).mono fun _ => routine
    | dequeue =>
      refine (adds_dequeue (wellformed.ready label.input).watched).mono fun entry serves => ?_
      cases serves with
      | routine calm => exact routine calm
      | release | silence => exact ⟨nofun, nofun⟩
      | answer _ drained => exact ⟨nofun, fun _ _ _ => drained⟩
    | request | text | exit => exact (action ▸ unasked).elim
  intro entry member
  rcases step_log running acts member with low | ⟨client, request, received⟩ | ⟨on, polled⟩
  · exact low
  · constructor <;> simp [received]
  · constructor <;> simp [polled]

theorem Attentive.step (attentive : state.Attentive) : (state.step label).Attentive where
  toWellformed := attentive.toWellformed.step label
  linked := attentive.linked.step label attentive.toWellformed
  running := (step_unasked attentive.toWellformed attentive.linked attentive.running unasked).1
  playing := (step_unasked attentive.toWellformed attentive.linked attentive.running unasked).2.trans attentive.playing
  level := (sameTuning_step_unasked unasked attentive.running).gap.trans attentive.level

theorem Resting.step (resting : state.Resting others) :
    (state.step label).Resting others ∧ heardIn (state.step label).log = [] := by
  have attentive := resting.toAttentive
  have keyer := keyer_step_unasked attentive.toWellformed attentive.running attentive.playing unasked
  have low := heardIn_of_runsLow (runsLow_step unasked attentive.toWellformed attentive.running)
  rcases step_unasked_cases attentive.toWellformed attentive.running unasked with ⟨owed, -⟩ | ⟨owes, silent, -⟩
  · exact absurd owed resting.settled
  · have tones : (state.step label).keyer.tones ≤ others := by
      rw [keyer]
      have few : state.keyer.tones ≤ others := resting.few
      split
      · exact (Keyer.drain_unowed (by simpa [owes_iff] using resting.settled)).trans few
      · exact few
    exact ⟨⟨attentive.step unasked, owes.not.mpr resting.settled, tones⟩, by rw [low, silent]; rfl⟩

/-- As long as the reply is owed, only a tone that is taken makes a difference. -/
theorem Busy.advance (busy : state.Busy client text) :
    (state.step label).Owes ∧ 2 ≤ (state.step label).toneQueueLength ∧
        (state.step label).toneQueueLength + label.input.action.dequeues.toNat = state.toneQueueLength ∨
      ¬ (state.step label).Owes ∧ (state.step label).toneQueueLength ≤ 3 := by
  have keyer := keyer_step_unasked busy.toWellformed busy.running busy.playing unasked
  have owed : state.keyer.echo = true := busy.owed
  have queued : 2 ≤ state.keyer.tones := busy.queued
  have tones (state : State) : state.toneQueueLength = state.keyer.tones := rfl
  rw [owes_iff, tones, tones, keyer]
  cases label.input.action.dequeues with
  | false => exact .inl ⟨owed, queued, rfl⟩
  | true =>
    rcases Keyer.drain_owed owed queued with ⟨still, taken⟩ | ⟨settled, few⟩
    · refine .inl ⟨still, ?_⟩
      simp only [if_true, Bool.toNat_true]
      omega
    · exact .inr ⟨by simp [settled], few⟩

theorem Busy.step (busy : state.Busy client text) (spare : 3 ≤ others) :
    (state.step label).Busy client text ∧ heardIn (state.step label).log = [] ∨
      (state.step label).Resting others ∧ heardIn (state.step label).log = [.reply client (text ++ crlf) true] := by
  have attentive := busy.toAttentive
  have low := heardIn_of_runsLow (runsLow_step unasked attentive.toWellformed attentive.running)
  have next := attentive.step unasked
  rcases step_unasked_cases attentive.toWellformed attentive.running unasked with
    ⟨-, settled, sent⟩ | ⟨owes, silent, addr, buffer⟩
  · rcases busy.advance unasked with ⟨owed, -⟩ | ⟨-, few⟩
    · exact absurd owed settled
    · exact .inr ⟨⟨next, settled, few.trans spare⟩, by rw [low, sent, busy.addr, busy.buffer]; rfl⟩
  · rcases busy.advance unasked with ⟨owed, queued, -⟩ | ⟨settled, -⟩
    · exact .inl ⟨⟨next, owed, addr.trans busy.addr, by rw [buffer, busy.buffer], queued⟩, by rw [low, silent]; rfl⟩
    · exact absurd (owes.mpr busy.owed) settled

end Working

section Text

variable {world : World}

theorem programOf_letters (level : state.gap = 0) (letters : ∀ char ∈ text, isLetter char = true) :
    state.programOf (text ++ [byte '^']) = text.flatMap letterCommands ++ [.reply text.length] := by
  rw [programOf, program_letters _ _ level _ letters, Nat.zero_add]

/-- A text that is not interrupted sends nothing. -/
theorem sends_text {label : Label} {request : Bytes} (wellformed : state.Wellformed) (running : state.status = .running)
    (quiet : Quiet label.world) (action : label.input.action = .text request) :
    sends (state.step label).log = [] := by
  let Mute (entry : Entry) : Prop := ∀ client reply, entry.call ≠ .sendto client reply
  have routine (entry : Entry) (routine : Routine entry) : Mute entry := by
    intro client reply call
    simp [Routine, call, Call.isRoutine] at routine
  have acts : Adds Mute (state.ready label.input) ((state.ready label.input).act label.world label.input.action) := by
    refine adds_act (wellformed.ready label.input) label.world label.input (fun _ => True) (fun _ => trivial)
      (fun _ _ _ _ _ _ => trivial) routine ?_ (fun request before _ _ entry plays => ?_) ?_ ?_
    · rintro _ _ request
      cases action.symm.trans request
    · cases plays with
      | routine calm => exact routine entry calm
      | serve _ interrupted =>
        obtain ⟨calls, during⟩ := interrupted
        rw [quiet calls] at during
        exact absurd during (Nat.lt_irrefl 0)
      | raise | send | prepare => exact nofun
    · intro exits
      cases action.symm.trans exits
    · intro dequeues
      cases action.symm.trans dequeues
  refine sends_of_other fun entry member => ?_
  rcases step_log running acts member with mute | ⟨client, request, received⟩ | ⟨on, polled⟩
  · exact mute
  · simp [received]
  · simp [polled]

/-- What playing a text of letters comes to. -/
theorem receiveText_letters (wellformed : state.Wellformed) (level : state.gap = 0) (sends : world.Sends code capacity)
    (quiet : Quiet world) (proper : Proper code capacity others text) {generator : Generator}
    (tuned : state.tuning = some generator)
    (room : state.toneQueueLength + weight code text generator ≤ capacity) :
    SameTuning state (state.receiveText world (text ++ [byte '^'])) ∧
      (state.receiveText world (text ++ [byte '^'])).toneQueueLength =
        state.toneQueueLength + weight code text generator ∧
      (state.receiveText world (text ++ [byte '^'])).Owes ∧
      (state.receiveText world (text ++ [byte '^'])).replyAddr = state.requestAddr ∧
      (state.receiveText world (text ++ [byte '^'])).replyBuffer.bytes = text := by
  obtain ⟨nulFree, length⟩ := Input.action_text_bounds (proper.action state.requestAddr)
  have compiled := programOf_letters level proper.letters
  obtain ⟨replies, -⟩ := receiveText_reply wellformed.idle nulFree length world letters_silent compiled (by simp)
  have reply := replies.reply
  rw [edit_letters, List.take_left] at reply
  refine ⟨?_, ?_, replies.echo, replies.sender, reply⟩
  · rw [receiveText_program wellformed.idle nulFree length world, compiled]
    have played := sameTuning_letters world text text.length
      { state with requestQueue := state.requestQueue.append (text ++ [byte '^']) }
    exact ⟨played.current, played.hasAudioOutput, played.tuning⟩
  · rw [receiveText_program wellformed.idle nulFree length world]
    have demand := demand_letters code proper.known text.length generator
    rw [← compiled] at demand
    rw [← demand] at room ⊢
    have queued (first : State) (tuned : first.tuning = some generator)
        (room : first.toneQueueLength + code.demand (state.programOf (text ++ [byte '^'])) generator ≤ capacity) :=
      queued_execAll sends quiet tuned room
    exact queued { state with requestQueue := state.requestQueue.append (text ++ [byte '^']) } tuned room

theorem finish_replies (world : World) (input : Input) (state : State) :
    (state.finish world input).replyAddr = state.replyAddr ∧
      (state.finish world input).replyBuffer = state.replyBuffer := by
  rcases finish_cases world input state with same | ⟨port, polls, polled, -⟩
  · rw [same]
    exact ⟨rfl, rfl⟩
  · rw [polled]
    exact ⟨rfl, rfl⟩

theorem Resting.room (resting : state.Resting others) (proper : Proper code capacity others text)
    (generator : Generator) : state.toneQueueLength + weight code text generator ≤ capacity :=
  (Nat.add_le_add_right resting.few _).trans (proper.fits generator)

/-- What is heard when the daemon takes a text in are the letters of the text. -/
theorem Resting.hears (resting : state.Resting others) (sends : world.Sends code capacity) (quiet : Quiet world)
    (proper : Proper code capacity others text) {label : Label} (world_eq : label.world = world)
    (action : label.input.action = .text (text ++ [byte '^'])) :
    heardIn (state.step label).log = text.map .letter := by
  subst world_eq
  have attentive := resting.toAttentive
  have wellformed := attentive.toWellformed
  obtain ⟨generator, tuned⟩ := attentive.tuned
  have letters : state.letters code (text ++ [byte '^']) = text := by
    rw [← heard_programOf, programOf_letters attentive.level proper.letters, code.heard_append,
      heard_letters code proper.known]
    exact List.append_nil text
  have fits : state.Fits code capacity label := by
    intro request _ other _
    obtain rfl : text ++ [byte '^'] = request := Action.text.inj (action.symm.trans other)
    rw [programOf_letters attentive.level proper.letters]
    refine ⟨generator, tuned, ?_, fun _ => .inl quiet⟩
    rw [demand_letters code proper.known]
    exact resting.room proper generator
  have heard := heardIn_of_silent (sends_text wellformed attentive.running quiet action)
  rwa [accepted_of_fits wellformed sends attentive.running action fits, letters] at heard

/-- The daemon takes a text of letters in. -/
theorem Resting.takes (resting : state.Resting others) (twoTones : code.TwoTones) (sends : world.Sends code capacity)
    (quiet : Quiet world) (proper : Proper code capacity others text) :
    (state.step ⟨world, .datagram client (text ++ [byte '^'])⟩).Busy client text ∧
      heardIn (state.step ⟨world, .datagram client (text ++ [byte '^'])⟩).log = text.map .letter ∧
      (state.step ⟨world, .datagram client (text ++ [byte '^'])⟩).toneQueueLength ≤ capacity := by
  have action := proper.action client
  have attentive := resting.toAttentive
  have wellformed := attentive.toWellformed
  have running := attentive.running
  obtain ⟨generator, tuned⟩ := attentive.tuned
  have room := resting.room proper generator
  generalize labelled : (⟨world, .datagram client (text ++ [byte '^'])⟩ : Label) = label
  have world_eq : label.world = world := by rw [← labelled]
  have input_eq : label.input = .datagram client (text ++ [byte '^']) := by rw [← labelled]
  rw [← input_eq] at action
  have heard := resting.hears sends quiet proper world_eq action
  rw [← world_eq] at sends quiet
  -- What is received is what the state that is made ready receives.
  have ready := SameTuning.ready label.input state
  obtain ⟨tuning, queued, owed, sender, reply⟩ := receiveText_letters (wellformed.ready label.input)
    (ready.gap.trans attentive.level) sends quiet proper (ready.tuning.trans tuned)
    (by rw [ready_toneQueueLength]; exact room)
  have received : (state.ready label.input).act label.world label.input.action =
      (state.ready label.input).receiveText label.world (text ++ [byte '^']) := by rw [action, act]
  rw [ready_toneQueueLength] at queued
  rw [← received] at tuning queued owed sender reply
  have same := (ready.trans tuning).trans (SameTuning.finish label.world label.input _)
  rw [← step_eq label running] at same
  have tones : (state.step label).toneQueueLength = state.toneQueueLength + weight code text generator := by
    have kept : (state.step label).keyer = _ := keyer_step running
    exact (congrArg Keyer.tones kept).trans queued
  have lives : (state.step label).status = .running := by
    rw [step_status label running wellformed]
    simp [statusAfter, action, Action.exitCode]
  have addressed : (state.ready label.input).requestAddr = client := by
    rw [input_eq]
    exact (ready_datagram proper.arrived state).choose_spec.2
  have kept := finish_replies label.world label.input ((state.ready label.input).act label.world label.input.action)
  rw [← step_eq label running] at kept
  have two := proper.weight twoTones generator
  refine ⟨⟨⟨wellformed.step label, attentive.linked.step label wellformed, lives, ?_, ?_⟩, ?_, ?_, ?_, ?_⟩, heard, ?_⟩
  · exact same.output.trans attentive.playing
  · exact same.gap.trans attentive.level
  · exact (owes_step_iff running).mpr owed
  · rw [kept.1, sender, addressed]
  · rw [kept.2, reply]
  · omega
  · rw [tones]
    exact room

end Text

end State

open StopAndWait

/-- The daemon as a server for one client, whose texts it gets with a caret behind them. -/
def textServer (client : SockaddrIn) : Server State World Label Bytes Heard where
  serve text world state := state.step ⟨world, .datagram client (text ++ [byte '^'])⟩
  work label state := state.step label
  emits state := heardIn state.log
  isAnswer
    | .letter _ => false
    | .reply receiver _ _ => receiver = client

/-- A text comes to a daemon that handles it without interruption; otherwise nobody asks for
anything. -/
def Permitted (code : MorseCode) (capacity : Nat) : Turn World Label → Prop
  | .send world => world.Sends code capacity ∧ Quiet world
  | .work label => label.input.action.Unasked

/-- What the daemon promises its client: the letters of a text, then the reply. -/
def textContract (client : SockaddrIn) {code : MorseCode} (capacity : Nat) {others : Nat} (spare : 3 ≤ others)
    (twoTones : code.TwoTones) : (textServer client).Contract where
  Proper := Proper code capacity others
  Permitted := Permitted code capacity
  Resting := State.Resting others
  Busy := State.Busy client
  taken text := text.map .letter
  answer text := [.reply client (text ++ crlf) true]
  serves proper permitted resting :=
    let takes := resting.takes twoTones permitted.1 permitted.2 proper
    ⟨takes.1, takes.2.1⟩
  rests permitted resting := resting.step permitted
  works permitted busy := busy.step permitted spare
  unanswered {text} _ := by simp [textServer]
  answers _ := by simp [textServer]

/-- Every tone that is taken brings the reply nearer. -/
def textPrompt (client : SockaddrIn) {code : MorseCode} (capacity : Nat) {others : Nat} (spare : 3 ≤ others)
    (twoTones : code.TwoTones) : (textServer client).Prompt (textContract client capacity spare twoTones) where
  counts label := label.input.action.dequeues
  left state := state.toneQueueLength - 2
  bound := capacity - 2
  begins proper permitted resting :=
    Nat.sub_le_sub_right (State.Resting.takes resting twoTones permitted.1 permitted.2 proper).2.2 2
  advances {text label state} permitted busy still := by
    rcases State.Busy.advance permitted busy with ⟨-, queued, taken⟩ | ⟨settled, -⟩
    · have stays : 2 ≤ (state.step label).toneQueueLength := queued
      show (state.step label).toneQueueLength - 2 + label.input.action.dequeues.toNat ≤ state.toneQueueLength - 2
      omega
    · exact absurd still.owed settled

/-- All that is heard on account of a text. -/
def exchangeOf (client : SockaddrIn) (text : Bytes) : List Heard :=
  text.map .letter ++ [.reply client (text ++ crlf) true]

/-- A client that ends every text with a caret and waits for the reply is heard out: however
its turns and the steps of libcw and of the clock follow one another, what is heard are the
letters of its texts in their order, each text followed by its reply, except for the text that
is being played. -/
theorem texts_are_played_and_answered_in_turn {code : MorseCode} {others : Nat} (client : SockaddrIn) (capacity : Nat)
    (twoTones : code.TwoTones) (spare : 3 ≤ others) {state : State} (reachable : Reachable state)
    (running : state.status = .running) (output : state.hasAudioOutput = true) (level : state.gap = 0)
    (settled : ¬ state.Owes) (few : state.toneQueueLength ≤ others) {texts : List Bytes}
    (proper : ∀ text ∈ texts, Proper code capacity others text) {turns : List (Turn World Label)}
    (permitted : ∀ turn ∈ turns, Permitted code capacity turn) :
    ∃ answered current,
      texts = answered ++ current ++ (Runs.run (textServer client).step turns (.start state texts)).unsent ∧
      (Runs.run (textServer client).step turns (.start state texts)).past =
        answered.flatMap (exchangeOf client) ++ (current.flatten.map .letter) ∧
      current.length = (Runs.run (textServer client).step turns (.start state texts)).waiting.toNat := by
  have resting : state.Resting others :=
    ⟨⟨reachable.wellformed, reachable.linked, running, reachable.playing running output, level⟩, settled, few⟩
  have inTurn := (textContract client capacity spare twoTones).inTurn proper permitted resting
  generalize Runs.run (textServer client).step turns (.start state texts) = system at inTurn
  cases inTurn with
  | resting answered split idle _ past =>
    refine ⟨answered, [], by rw [List.append_nil]; exact split, ?_, by rw [idle]; rfl⟩
    rw [past]
    exact (List.append_nil _).symm
  | busy answered current split waits _ past =>
    refine ⟨answered, [current], by rw [List.append_assoc]; exact split, ?_, by rw [waits]; rfl⟩
    rw [past, List.flatten_singleton]
    rfl

theorem twoTones_twoTones : twoTones.TwoTones := fun _ _ _ => Nat.le_refl 2

/-- A queue for five tones. -/
def roomy : World := calm.withCapacity twoTones 5

theorem permitted_roomy : roomy.Sends twoTones 5 ∧ Quiet roomy := ⟨sends_withCapacity calm twoTones 5, quiet_calm⟩

theorem reachable_onSerialPort : Reachable onSerialPort := ⟨onSerialPort, [], started_onSerialPort, rfl⟩

theorem proper_letters : ∀ text ∈ [[byte 'e'], [byte 't']], Proper twoTones 5 3 text := by
  have fits (char : UInt8) (generator : Generator) : 3 + State.weight twoTones [char] generator ≤ 5 := Nat.le_refl 5
  have single {char : UInt8} {good : UInt8 → Prop} (holds : good char) : ∀ other ∈ [char], good other :=
    List.forall_mem_singleton.mpr holds
  rw [List.forall_mem_cons, List.forall_mem_singleton]
  exact ⟨⟨by decide, by decide, by decide, by decide, single rfl, single rfl, fits _⟩,
    ⟨by decide, by decide, by decide, by decide, single rfl, single rfl, fits _⟩⟩

/-- Two letters, and not enough time for the first one. -/
theorem second_text_waits_for_its_turn :
    ∃ answered current,
      [[byte 'e'], [byte 't']] = answered ++ current ++ (Runs.run (textServer client).step
        [.send roomy, .work ⟨calm, .dequeue⟩, .send roomy] (.start onSerialPort [[byte 'e'], [byte 't']])).unsent ∧
      (Runs.run (textServer client).step [.send roomy, .work ⟨calm, .dequeue⟩, .send roomy]
          (.start onSerialPort [[byte 'e'], [byte 't']])).past =
        answered.flatMap (exchangeOf client) ++ (current.flatten.map .letter) ∧
      current.length = (Runs.run (textServer client).step [.send roomy, .work ⟨calm, .dequeue⟩, .send roomy]
        (.start onSerialPort [[byte 'e'], [byte 't']])).waiting.toNat :=
  texts_are_played_and_answered_in_turn client 5 twoTones_twoTones (Nat.le_refl 3) reachable_onSerialPort
    (by decide +kernel) (by decide +kernel) (by decide +kernel) (by decide +kernel) (by decide +kernel)
    proper_letters (by simp [permitted_roomy, Permitted, Input.action, Action.Unasked])

/-- And it is served: when libcw has come for as many tones as its queue holds between any two
turns of the client, all texts have been played and answered after as many turns as there are
texts. -/
theorem every_text_is_played_and_answered {code : MorseCode} {others : Nat} (client : SockaddrIn) (capacity : Nat)
    (twoTones : code.TwoTones) (spare : 3 ≤ others) {state : State} (reachable : Reachable state)
    (running : state.status = .running) (output : state.hasAudioOutput = true) (level : state.gap = 0)
    (settled : ¬ state.Owes) (few : state.toneQueueLength ≤ others) {texts : List Bytes}
    (proper : ∀ text ∈ texts, Proper code capacity others text) {rounds : List (Server.Round World Label)}
    (permitted : ∀ round ∈ rounds, ∀ turn ∈ round.turns, Permitted code capacity turn)
    (ample : ∀ round ∈ rounds, capacity - 2 < dequeuesOf round.works) (enough : texts.length ≤ rounds.length) :
    (Runs.run (textServer client).step (rounds.flatMap Server.Round.turns) (.start state texts)).past =
      texts.flatMap (exchangeOf client) := by
  have resting : state.Resting others :=
    ⟨⟨reachable.wellformed, reachable.linked, running, reachable.playing running output, level⟩, settled, few⟩
  exact (textPrompt client capacity spare twoTones).all_answered permitted proper ample resting enough

/-- The client's turn, and time for four tones. -/
def roundOfFour : Server.Round World Label := ⟨roomy, List.replicate 4 ⟨calm, .dequeue⟩⟩

theorem two_letters_are_played_and_answered :
    (Runs.run (textServer client).step ([roundOfFour, roundOfFour].flatMap Server.Round.turns)
      (.start onSerialPort [[byte 'e'], [byte 't']])).past =
        [.letter (byte 'e'), .reply client ([byte 'e'] ++ crlf) true,
          .letter (byte 't'), .reply client ([byte 't'] ++ crlf) true] :=
  every_text_is_played_and_answered client 5 twoTones_twoTones (Nat.le_refl 3) reachable_onSerialPort
    (by decide +kernel) (by decide +kernel) (by decide +kernel) (by decide +kernel) (by decide +kernel)
    proper_letters (by simp [roundOfFour, Server.Round.turns, permitted_roomy, Permitted, Input.action, Action.Unasked])
    (by simp [roundOfFour, dequeuesOf, Input.action, Action.dequeues]) (by simp)

end Cwdaemon
