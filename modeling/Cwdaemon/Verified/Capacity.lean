import Cwdaemon.Verified.Meaning

/-! # When the tone queue is full

libcw's tone queue has a capacity, and a character that does not fit is refused.  The text
loop does not look at the answer of `cw_send_character()`: a character may be missing from
what is keyed, and the reply of a caret is prepared and sent all the same.  All is well as
long as the tones of a text fit into the queue that the text finds.
-/

namespace Cwdaemon

/-- The code that libcw keys: the characters it knows, and their tones, which depend on the
parameters of the generator. -/
structure MorseCode where
  known : UInt8 → Bool
  tones : Generator → UInt8 → List Tone
  silent : known 0xff = false

/-- libcw accepts a character that it knows if the tones fit in the queue, and adds nothing
otherwise. -/
def MorseCode.answer (code : MorseCode) (capacity : Nat) (generator : Generator) (char : UInt8) : Option (List Tone) :=
  let tones := code.tones generator.silent char
  if code.known char = true ∧ generator.toneQueue.length + tones.length ≤ capacity then some tones else none

/-- libcw has this code and a tone queue of this capacity. -/
def World.Sends (world : World) (code : MorseCode) (capacity : Nat) : Prop :=
  ∀ calls generator char, world.sendCharacter calls generator char = code.answer capacity generator char

/-- The characters of a text that are to be sent, up to the caret that ends it.  `half`: the
gap of a `~` is set; `behind`: the character before was played with it, and a caret right
behind that does not end the text. -/
def letters (opened : Bool) : Bool → Bool → Bytes → Bytes
  | _, _, [] => []
  | half, behind, char :: rest =>
    if behind && char = byte '^' then letters opened half false rest
    else
      let half := half && !behind
      if isSpeedSign char then letters opened half false rest
      else if char = byte '~' then letters opened opened false rest
      else if char = byte '^' then []
      else State.played char :: letters opened half half rest

/-- The characters that libcw has accepted. -/
def acceptedIn (log : List Entry) : Bytes :=
  log.filterMap fun entry =>
    match entry.call with
    | .sendCharacter char true => some char
    | _ => none

/-- The character that a command passes to libcw. -/
def Command.char : Command → Option UInt8
  | .send char => some char
  | _ => none

/-- What a command does to the parameters of the generator. -/
def Command.tune (generator : Generator) : Command → Generator
  | .speed wpm => { generator with sendSpeed := wpm }
  | .gap dots => { generator with gap := dots }
  | _ => generator

namespace MorseCode

variable (code : MorseCode)

/-- The characters of commands that libcw knows. -/
def heard (commands : List Command) : Bytes := (commands.filterMap Command.char).filter code.known

/-- How many tones a command asks for. -/
def load (generator : Generator) : Command → Nat
  | .send char => if code.known char = true then (code.tones generator char).length else 0
  | _ => 0

def demand : List Command → Generator → Nat
  | [], _ => 0
  | command :: rest, generator => code.load generator command + demand rest (command.tune generator)

@[simp] theorem heard_nil : code.heard [] = [] := rfl

theorem heard_cons (command : Command) (commands : List Command) :
    code.heard (command :: commands) = code.heard [command] ++ code.heard commands := by
  rw [← List.singleton_append, heard, List.filterMap_append, List.filter_append]
  rfl

theorem heard_append (first second : List Command) : code.heard (first ++ second) = code.heard first ++ code.heard second := by
  rw [heard, List.filterMap_append, List.filter_append]
  rfl

theorem heard_known {char : UInt8} (known : code.known char = true) : code.heard [.send char] = [char] :=
  List.filter_cons_of_pos known

/-- Only a character is heard. -/
theorem heard_send {command : Command} (heard : code.heard [command] ≠ []) :
    ∃ char, command = .send char ∧ code.known char = true := by
  cases command with
  | send char =>
    refine ⟨char, rfl, ?_⟩
    by_contra unknown
    exact heard (List.filter_cons_of_neg unknown)
  | speed | gap | readGap | ptt | replace | reply => exact absurd rfl heard

theorem load_unheard {command : Command} (unheard : code.heard [command] = []) (generator : Generator) :
    code.load generator command = 0 := by
  cases command with
  | send char =>
    refine if_neg fun known => ?_
    rw [code.heard_known known] at unheard
    cases unheard
  | speed | gap | readGap | ptt | replace | reply => rfl

theorem demand_unheard {commands : List Command} (unheard : code.heard commands = []) (generator : Generator) :
    code.demand commands generator = 0 := by
  induction commands generalizing generator with
  | nil => rfl
  | cons command commands inductionHypothesis =>
    rw [heard_cons, List.append_eq_nil_iff] at unheard
    rw [demand, load_unheard code unheard.1, inductionHypothesis unheard.2]

theorem heard_characterCommands (index : Nat) (char : UInt8) :
    code.heard (State.characterCommands index char) = [State.played char].filter code.known := by
  have edits : (if char = byte '*' then [Command.replace index] else []).filterMap Command.char = [] := by split <;> rfl
  rw [heard, State.characterCommands, List.filterMap_append, edits, List.nil_append]
  by_cases silent : State.played char = 0xff
  · rw [silent, List.filter_cons_of_neg (by simp [code.silent])]
    rfl
  · rw [if_pos silent]
    rfl

/-- The text loop passes the characters of the text to libcw. -/
theorem heard_program (opened lookAhead : Bool) (index : Nat) (gap speed : Int) (text : Bytes) :
    code.heard (State.program opened lookAhead index gap speed text) =
      (letters opened (gap = 2) lookAhead text).filter code.known := by
  have reset (lookAhead : Bool) : code.heard (if lookAhead then [.gap 0] else []) = [] := by cases lookAhead <;> rfl
  induction text generalizing lookAhead index gap speed with
  | nil => rw [State.program, reset, letters, List.filter_nil]
  | cons char rest inductionHypothesis =>
    have half : (decide (gap = 2) && !lookAhead) =
        decide ((if lookAhead then State.reportedGap opened 0 else gap) = 2) := by
      cases lookAhead <;> cases opened <;> simp [State.reportedGap]
    have tilde : decide (State.reportedGap opened 2 = 2) = opened := by cases opened <;> rfl
    simp only [State.program, letters, half]
    split
    case isTrue => exact inductionHypothesis _ _ _ _
    case isFalse =>
      generalize (if lookAhead then State.reportedGap opened 0 else gap) = gap
      rw [heard_append, reset, List.nil_append]
      split
      · split
        · exact inductionHypothesis _ _ _ _
        · rw [heard_cons, inductionHypothesis]
          rfl
      · split
        · rw [heard_cons, inductionHypothesis, tilde]
          rfl
        · split
          · rfl
          · rw [heard_append, heard_characterCommands, inductionHypothesis, ← List.filter_append]
            rfl

end MorseCode

namespace State

variable {code : MorseCode} {capacity : Nat} {world : World} {before after state : State}

/-- The characters of a text that are to be sent in this state. -/
def letters (code : MorseCode) (text : Bytes) (state : State) : Bytes :=
  (Cwdaemon.letters state.libcw.generator.isSome (state.gap = 2) false text).filter code.known

theorem heard_programOf (text : Bytes) (state : State) : code.heard (state.programOf text) = state.letters code text :=
  code.heard_program _ _ _ _ _ _

/-! ## Tones in the queue -/

/-- The tones in the queue.  If libcw's thread may answer a client meanwhile, it may add one
tone more than it takes. -/
def charge (answers : Bool) (state : State) : Nat :=
  state.toneQueueLength + if (answers && state.pttFlag.has .echo) = true then 1 else 0

theorem charge_callGenerator (answers : Bool) {call : Call} {change : Generator → Generator} {added : Nat}
    (adds : ∀ generator, (change generator).toneQueue.length ≤ generator.toneQueue.length + added) (state : State) :
    (state.callGenerator call change).charge answers ≤ state.charge answers + added := by
  have queued : (state.callGenerator call change).toneQueueLength ≤ state.toneQueueLength + added := by
    simp only [toneQueueLength, Libcw.toneQueueLength, callGenerator_eq, withLibcw_libcw]
    cases state.libcw.generator with
    | none => simp
    | some generator => exact adds generator
  have flag : (state.callGenerator call change).pttFlag = state.pttFlag := rfl
  unfold charge
  rw [flag]
  omega

theorem charge_answered (state : State) (pending : state.pttFlag.has .echo = true) :
    state.answered.charge true + 1 = state.charge true := by
  have queued : state.answered.toneQueueLength = state.toneQueueLength := by
    unfold answered sendto
    simp only
    split <;> rfl
  simp [charge, queued, answered_pttFlag, pending]

theorem charge_dequeue (state : State) : state.dequeue.charge true ≤ state.charge true := by
  rcases state.dequeue_cases with same | ⟨generator, tone, tones, opened, started, queued, dequeued⟩
  · rw [same]
  have before : state.charge true = (state.taken generator tone tones).charge true + 1 := by
    simp [charge, toneQueueLength, Libcw.toneQueueLength, opened, queued, taken]
    omega
  rw [dequeued, before]
  generalize state.taken generator tone tones = taken
  split
  case isFalse => omega
  rw [toneQueueLowCallback_eq]
  split
  · obtain ⟨devices, log, lowered⟩ := setPttOff_eq taken
    have off : taken.setPttOff.charge true = taken.toneQueueLength := by
      rw [lowered]
      simp [charge, toneQueueLength]
    rw [off]
    unfold charge
    omega
  · split
    case isFalse => omega
    case isTrue pending =>
      have told := charge_answered taken pending
      have silence (state : State) : (state.cwQueueTone 1 0).charge true ≤ state.charge true + 1 :=
        charge_callGenerator true (fun _ => by simp) state
      split
      · have first := silence taken.answered
        have second := silence (taken.answered.cwQueueTone 1 0)
        omega
      · omega

/-- libcw's thread makes room, or nothing. -/
theorem charge_serve {answers : Bool} (quiet : answers = false → Quiet world) (state : State) :
    (state.serve world).charge answers ≤ state.charge answers := by
  cases answers with
  | false =>
    rw [serve, quiet rfl]
    exact Nat.le_refl _
  | true =>
    unfold serve
    generalize world.during state.log.length = count
    induction count generalizing state with
    | zero => exact Nat.le_refl _
    | succ count inductionHypothesis => exact (inductionHypothesis state.dequeue).trans (charge_dequeue state)

/-! ## What libcw accepts -/

theorem acceptedIn_append (first second : List Entry) :
    acceptedIn (first ++ second) = acceptedIn first ++ acceptedIn second := List.filterMap_append

theorem acceptedIn_others {log : List Entry} (others : ∀ entry ∈ log, ∀ char, entry.call ≠ .sendCharacter char true) :
    acceptedIn log = [] := by
  refine List.filterMap_eq_nil_iff.mpr fun entry member => ?_
  split
  · exact absurd (by assumption) (others entry member _)
  · rfl

theorem Adds.accepted (adds : Adds (fun entry => ∀ char, entry.call ≠ .sendCharacter char true) before after) :
    acceptedIn after.log = acceptedIn before.log := by
  obtain ⟨new, log, others⟩ := adds
  rw [log, acceptedIn_append, acceptedIn_others others, List.append_nil]

theorem accepted_aside (adds : Adds Aside before after) : acceptedIn after.log = acceptedIn before.log := by
  refine Adds.accepted (adds.mono fun entry aside char sent => ?_)
  simp [Aside, sent, Call.isAside] at aside

theorem accepted_serve (world : World) (state : State) : acceptedIn (state.serve world).log = acceptedIn state.log :=
  accepted_aside (aside_serve world state)

theorem accepted_callGenerator {call : Call} (other : ∀ char, call ≠ .sendCharacter char true)
    (change : Generator → Generator) (state : State) :
    acceptedIn (state.callGenerator call change).log = acceptedIn state.log :=
  Adds.accepted (.callGenerator change other)

theorem accepted_served {call : State → State} (keeps : ∀ state, acceptedIn (call state).log = acceptedIn state.log)
    (state : State) : acceptedIn (state.served world call).log = acceptedIn state.log :=
  (accepted_serve world _).trans ((keeps _).trans (accepted_serve world state))

/-- A generator with these parameters. -/
theorem generator_of_tuning {generator : Generator} (tuned : state.tuning = some generator) :
    ∃ opened, state.libcw.generator = some opened ∧ opened.silent = generator ∧
      state.toneQueueLength = opened.toneQueue.length := by
  obtain ⟨opened, equal, silent⟩ := Option.map_eq_some_iff.mp tuned
  exact ⟨opened, equal, silent, by rw [toneQueueLength, Libcw.toneQueueLength, equal]⟩

/-- A character that libcw knows is accepted when its tones fit. -/
theorem acceptedTones_eq (sends : world.Sends code capacity) {generator : Generator}
    (tuned : state.tuning = some generator) (char : UInt8) :
    state.acceptedTones world char =
      if code.known char = true ∧ state.toneQueueLength + (code.tones generator char).length ≤ capacity then
        some (code.tones generator char)
      else none := by
  obtain ⟨opened, equal, silent, queued⟩ := generator_of_tuning tuned
  rw [acceptedTones, equal, Option.bind_some, sends, queued, ← silent]
  rfl

/-- Without a generator, and of what libcw does not know, nothing is accepted. -/
theorem acceptedTones_unknown (sends : world.Sends code capacity) {char : UInt8}
    (unknown : code.known char = false) (state : State) : state.acceptedTones world char = none := by
  unfold acceptedTones
  cases state.libcw.generator with
  | none => rfl
  | some generator =>
    rw [Option.bind_some, sends]
    simp [MorseCode.answer, unknown]

theorem accepted_cwSendCharacter (char : UInt8) (state : State) :
    acceptedIn (state.cwSendCharacter world char).log =
      acceptedIn state.log ++ if (state.acceptedTones world char).isSome then [char] else [] := by
  have logged : (state.cwSendCharacter world char).log =
      state.log ++ [⟨.sendCharacter char (state.acceptedTones world char).isSome, state.moment⟩] := rfl
  rw [logged, acceptedIn_append]
  cases (state.acceptedTones world char).isSome <;> rfl

/-! ## Commands -/

theorem tuning_exec (world : World) (command : Command) (state : State) :
    (state.exec world command).tuning = state.tuning.map (command.tune ·) := by
  cases command with
  | speed wpm => exact (exec_speed world wpm state).2
  | gap dots => exact (exec_gap world dots state).2
  | readGap | ptt | send | replace | reply =>
    exact (sameTuning_exec world state (by simp) (by simp)).tuning.trans Option.map_id_apply.symm

theorem charge_setPttOn (answers : Bool) (state : State) : state.setPttOn.charge answers = state.charge answers := by
  unfold setPttOn
  split
  · obtain ⟨log, on⟩ := devicePtt_eq state.globalCwdevice true state
    rw [on]
    simp [charge, toneQueueLength]
  · rfl

section Sending

variable {answers : Bool} (sends : world.Sends code capacity) (quiet : answers = false → Quiet world)

include quiet

theorem charge_served {call : State → State} {added : Nat} (state : State)
    (adds : ((call (state.serve world))).charge answers ≤ (state.serve world).charge answers + added) :
    (state.served world call).charge answers ≤ state.charge answers + added := by
  have first := charge_serve quiet state
  have second := charge_serve quiet (call (state.serve world))
  unfold served
  omega

include sends

/-- What a command adds to the queue. -/
theorem charge_exec {command : Command} (silent : ∀ index, command ≠ .reply index) {generator : Generator}
    (tuned : state.tuning = some generator) :
    (state.exec world command).charge answers ≤ state.charge answers + code.load generator command := by
  have none {change : Generator → Generator} (call : Call) (state : State)
      (same : ∀ generator, (change generator).toneQueue = generator.toneQueue) :
      (state.callGenerator call change).charge answers ≤ state.charge answers + 0 :=
    charge_callGenerator answers (fun generator => by rw [same]; omega) state
  cases command with
  | speed wpm => exact charge_served quiet (state.setMorseSpeed wpm) (none (.setSendSpeed wpm) _ fun _ => rfl)
  | gap dots => exact charge_served quiet state (none (.setGap dots) _ fun _ => rfl)
  | readGap => exact charge_served quiet state (Nat.le_refl _)
  | ptt => exact Nat.le_of_eq (charge_setPttOn answers state)
  | replace => exact Nat.le_refl _
  | reply index => exact absurd rfl (silent index)
  | send char =>
    have tuned : (state.serve world).tuning = some generator := (SameTuning.serve world state).tuning.trans tuned
    refine charge_served quiet state (charge_callGenerator answers (fun opened => ?_) _)
    rw [List.length_append, acceptedTones_eq sends tuned, MorseCode.load]
    refine Nat.add_le_add_left ?_ _
    by_cases known : code.known char = true
    · rw [if_pos known]
      split
      · exact Nat.le_refl _
      · exact Nat.zero_le _
    · simp [known]

omit quiet sends in
theorem accepted_send (world : World) (char : UInt8) (state : State) :
    acceptedIn (state.exec world (.send char)).log = acceptedIn state.log ++
      if ((state.serve world).acceptedTones world char).isSome then [char] else [] := by
  rw [exec, served, accepted_serve, accepted_cwSendCharacter, accepted_serve]

omit quiet sends in
/-- Only a character can be accepted. -/
theorem accepted_exec_other (world : World) {command : Command} (other : ∀ char, command ≠ .send char) (state : State) :
    acceptedIn (state.exec world command).log = acceptedIn state.log := by
  cases command with
  | speed wpm =>
    have set (state : State) : acceptedIn (state.cwSetSendSpeed wpm).log = acceptedIn state.log :=
      accepted_callGenerator (by simp) _ state
    exact accepted_served set (state.setMorseSpeed wpm)
  | gap dots =>
    have set (state : State) : acceptedIn (state.cwSetGap dots).log = acceptedIn state.log :=
      accepted_callGenerator (by simp) _ state
    exact accepted_served set state
  | readGap =>
    have read (state : State) : acceptedIn state.cwGetGap.log = acceptedIn state.log :=
      Adds.accepted (.record (by simp))
    exact accepted_served read state
  | ptt => exact accepted_aside (aside_setPttOn state)
  | send char => exact absurd rfl (other char)
  | replace index => rfl
  | reply index =>
    have prepared (reply : Bytes) (state : State) : acceptedIn (state.prepareReply reply).log = acceptedIn state.log := by
      unfold prepareReply
      split
      · rfl
      · exact Adds.accepted (.record (by simp))
    exact prepared _ _

/-- A command passes its character, if libcw knows it and has room for its tones. -/
theorem accepted_exec {command : Command}
    (room : code.heard [command] ≠ [] →
      ∃ generator, state.tuning = some generator ∧ state.charge answers + code.load generator command ≤ capacity) :
    acceptedIn (state.exec world command).log = acceptedIn state.log ++ code.heard [command] := by
  by_cases passes : ∃ char, command = .send char
  case neg =>
    have other := not_exists.mp passes
    have unheard : code.heard [command] = [] := by
      by_contra heard
      obtain ⟨char, passed, -⟩ := code.heard_send heard
      exact other char passed
    rw [accepted_exec_other world other, unheard, List.append_nil]
  obtain ⟨char, rfl⟩ := passes
  rw [accepted_send]
  congr 1
  cases known : code.known char with
  | false =>
    have unheard : code.heard [.send char] = [] := List.filter_cons_of_neg (by simp [known])
    rw [acceptedTones_unknown sends known, unheard]
    rfl
  | true =>
    have heard := code.heard_known known
    obtain ⟨generator, tuned, fits⟩ := room (by simp [heard])
    have served := charge_serve quiet state
    have fits : (state.serve world).toneQueueLength + (code.tones generator char).length ≤ capacity := by
      simp only [MorseCode.load, if_pos known] at fits
      unfold charge at served fits
      omega
    have accepted : (state.serve world).acceptedTones world char = some (code.tones generator char) :=
      (acceptedTones_eq sends ((SameTuning.serve world state).tuning.trans tuned) char).trans (if_pos ⟨known, fits⟩)
    rw [accepted, heard]
    rfl

theorem accepted_exec_le (command : Command) (state : State) :
    (acceptedIn (state.exec world command).log).length ≤ (acceptedIn state.log).length + (code.heard [command]).length := by
  by_cases heard : code.heard [command] = []
  · have same : acceptedIn (state.exec world command).log = acceptedIn state.log ++ code.heard [command] :=
      accepted_exec sends quiet fun passes => absurd heard passes
    rw [same, List.length_append]
  · obtain ⟨char, rfl, known⟩ := code.heard_send heard
    rw [accepted_send, List.length_append, code.heard_known known]
    split <;> simp

theorem accepted_execAll_le (commands : List Command) (state : State) :
    (acceptedIn (execAll world commands state).log).length ≤ (acceptedIn state.log).length + (code.heard commands).length := by
  induction commands generalizing state with
  | nil => exact Nat.le_refl _
  | cons command commands inductionHypothesis =>
    have first := accepted_exec_le sends quiet command state
    have rest := inductionHypothesis (state.exec world command)
    rw [execAll_cons, code.heard_cons, List.length_append]
    omega

/-- A text whose tones fit is accepted character by character. -/
theorem accepted_execAll {commands : List Command}
    (last : commands.Pairwise fun command _ => ∀ index, command ≠ .reply index)
    (room : code.heard commands ≠ [] →
      ∃ generator, state.tuning = some generator ∧ state.charge answers + code.demand commands generator ≤ capacity) :
    acceptedIn (execAll world commands state).log = acceptedIn state.log ++ code.heard commands := by
  induction commands generalizing state with
  | nil => exact (List.append_nil _).symm
  | cons command commands inductionHypothesis =>
    obtain ⟨ends, last⟩ := List.pairwise_cons.mp last
    have first : acceptedIn (state.exec world command).log = acceptedIn state.log ++ code.heard [command] := by
      refine accepted_exec sends quiet fun heard => ?_
      obtain ⟨generator, tuned, fits⟩ := room (by rw [code.heard_cons]; simp [heard])
      rw [MorseCode.demand] at fits
      exact ⟨generator, tuned, by omega⟩
    have rest : acceptedIn (execAll world commands (state.exec world command)).log =
        acceptedIn (state.exec world command).log ++ code.heard commands := by
      refine inductionHypothesis last fun heard => ?_
      obtain ⟨generator, tuned, fits⟩ := room (by rw [code.heard_cons]; simp [heard])
      -- A reply is the last command, and nothing is passed after it.
      have silent : ∀ index, command ≠ .reply index := by
        cases commands with
        | nil => exact absurd rfl heard
        | cons next => exact ends next (List.mem_cons_self)
      have adds := charge_exec sends quiet silent tuned
      rw [MorseCode.demand] at fits
      exact ⟨command.tune generator, by rw [tuning_exec, tuned]; rfl, by omega⟩
    rw [execAll_cons, rest, first, List.append_assoc, ← code.heard_cons]

end Sending

/-- Without a generator nothing is accepted. -/
theorem accepted_execAll_closed (world : World) (commands : List Command) (closed : state.tuning = none) :
    acceptedIn (execAll world commands state).log = acceptedIn state.log := by
  induction commands generalizing state with
  | nil => rfl
  | cons command commands inductionHypothesis =>
    have next : (state.exec world command).tuning = none := by rw [tuning_exec, closed]; rfl
    rw [execAll_cons, inductionHypothesis next]
    by_cases passes : ∃ char, command = .send char
    · obtain ⟨char, rfl⟩ := passes
      have refused : (state.serve world).libcw.generator = none :=
        Option.map_eq_none_iff.mp ((SameTuning.serve world state).tuning.trans closed)
      rw [accepted_send, acceptedTones, refused]
      exact List.append_nil _
    · exact accepted_exec_other world (not_exists.mp passes) state

section Quiet

variable (sends : world.Sends code capacity) (quiet : Quiet world)

include quiet

theorem serve_quiet (state : State) : state.serve world = state := by rw [serve, quiet]; rfl

include sends

/-- A character is accepted when its tones fit, and they are all that is added to the queue. -/
theorem accepted_send_quiet {char : UInt8} (known : code.known char = true) {generator : Generator}
    (tuned : state.tuning = some generator)
    (accepted : (acceptedIn state.log).length < (acceptedIn (state.exec world (.send char)).log).length) :
    state.toneQueueLength + (code.tones generator char).length ≤ capacity ∧
      (state.exec world (.send char)).toneQueueLength = state.toneQueueLength + (code.tones generator char).length := by
  rw [accepted_send, serve_quiet quiet, acceptedTones_eq sends tuned] at accepted
  have fits : state.toneQueueLength + (code.tones generator char).length ≤ capacity := by
    by_contra full
    simp [full] at accepted
  refine ⟨fits, ?_⟩
  obtain ⟨opened, equal, -, queued⟩ := generator_of_tuning tuned
  have taken : state.acceptedTones world char = some (code.tones generator char) :=
    (acceptedTones_eq sends tuned char).trans (if_pos ⟨known, fits⟩)
  rw [exec, served, serve_quiet quiet, serve_quiet quiet, cwSendCharacter, taken, queued]
  simp [toneQueueLength, Libcw.toneQueueLength, callGenerator_eq, equal]

/-- The other commands are not about tones. -/
theorem exec_quiet {command : Command} (silent : ∀ index, command ≠ .reply index) (unheard : code.heard [command] = [])
    (state : State) : (state.exec world command).toneQueueLength = state.toneQueueLength := by
  have none (call : Call) (change : Generator → Generator) (same : ∀ generator, (change generator).toneQueue = generator.toneQueue)
      (state : State) : (state.callGenerator call change).toneQueueLength = state.toneQueueLength := by
    simp only [toneQueueLength, Libcw.toneQueueLength, callGenerator_eq, withLibcw_libcw]
    cases state.libcw.generator with
    | none => rfl
    | some generator => exact congrArg List.length (same generator)
  cases command with
  | speed wpm =>
    rw [exec, served, serve_quiet quiet, serve_quiet quiet]
    exact none (.setSendSpeed wpm) ({ · with sendSpeed := wpm }) (fun _ => rfl) (state.setMorseSpeed wpm)
  | gap dots =>
    rw [exec, served, serve_quiet quiet, serve_quiet quiet]
    exact none (.setGap dots) ({ · with gap := dots }) (fun _ => rfl) state
  | readGap =>
    rw [exec, served, serve_quiet quiet, serve_quiet quiet]
    rfl
  | ptt => simpa [charge, exec] using charge_setPttOn false state
  | replace => rfl
  | reply index => exact absurd rfl (silent index)
  | send char =>
    have unknown : code.known char = false := by
      by_contra known
      rw [code.heard_known (by simpa using known)] at unheard
      cases unheard
    rw [exec, served, serve_quiet quiet, serve_quiet quiet, cwSendCharacter, acceptedTones_unknown sends unknown]
    exact none _ _ (fun _ => List.append_nil _) state

/-- When all is accepted, all has found room. -/
theorem room_of_accepted {commands : List Command}
    (last : commands.Pairwise fun command _ => ∀ index, command ≠ .reply index) {generator : Generator}
    (tuned : state.tuning = some generator) (heard : code.heard commands ≠ [])
    (accepted : (acceptedIn state.log).length + (code.heard commands).length ≤
      (acceptedIn (execAll world commands state).log).length) :
    state.toneQueueLength + code.demand commands generator ≤ capacity := by
  induction commands generalizing state generator with
  | nil => exact absurd rfl heard
  | cons command commands inductionHypothesis =>
    obtain ⟨ends, last⟩ := List.pairwise_cons.mp last
    have next : (state.exec world command).tuning = some (command.tune generator) := by rw [tuning_exec, tuned]; rfl
    have first := accepted_exec_le sends (fun _ : false = false => quiet) command state
    have rest := accepted_execAll_le sends (fun _ : false = false => quiet) commands (state.exec world command)
    rw [execAll_cons, code.heard_cons, List.length_append] at accepted
    have room := inductionHypothesis last next
    rw [MorseCode.demand]
    by_cases passes : code.heard [command] = []
    · rw [code.heard_cons, passes, List.nil_append] at heard
      have silent : ∀ index, command ≠ .reply index := by
        cases commands with
        | nil => exact absurd rfl heard
        | cons later => exact ends later List.mem_cons_self
      have same := exec_quiet sends quiet silent passes state
      have room := room heard (by omega)
      rw [code.load_unheard passes]
      omega
    · obtain ⟨char, rfl, known⟩ := code.heard_send passes
      have passed : (code.heard [.send char]).length = 1 := by rw [code.heard_known known]; rfl
      obtain ⟨fits, added⟩ := accepted_send_quiet sends quiet known tuned (by omega)
      have load : code.load generator (.send char) = (code.tones generator char).length := if_pos known
      by_cases more : code.heard commands = []
      · rw [code.demand_unheard more, load]
        exact fits
      · have room := room more (by omega)
        omega

end Quiet

/-! ## Texts -/

/-- No command follows a reply. -/
theorem program_last (opened lookAhead : Bool) (index : Nat) (gap speed : Int) (text : Bytes) :
    (program opened lookAhead index gap speed text).Pairwise fun command _ => ∀ index, command ≠ .reply index := by
  have front {first second : List Command} (silent : ∀ command ∈ first, ∀ index, command ≠ .reply index)
      (last : second.Pairwise fun command _ => ∀ index, command ≠ .reply index) :
      (first ++ second).Pairwise fun command _ => ∀ index, command ≠ .reply index := by
    induction first with
    | nil => exact last
    | cons command first inductionHypothesis =>
      obtain ⟨this, silent⟩ := List.forall_mem_cons.mp silent
      exact List.pairwise_cons.mpr ⟨fun _ _ => this, inductionHypothesis silent⟩
  have reset (lookAhead : Bool) : ∀ command ∈ (if lookAhead then [Command.gap 0] else []), ∀ index, command ≠ .reply index := by
    cases lookAhead <;> simp
  have plays (index : Nat) (char : UInt8) : ∀ command ∈ characterCommands index char, ∀ index, command ≠ .reply index := by
    rintro _ member found rfl
    simp [characterCommands] at member
  induction text generalizing lookAhead index gap speed with
  | nil => cases lookAhead <;> simp [program]
  | cons char rest inductionHypothesis =>
    simp only [program]
    split
    · exact inductionHypothesis _ _ _ _
    · refine front (reset lookAhead) ?_
      split
      · split
        · exact inductionHypothesis _ _ _ _
        · exact List.pairwise_cons.mpr ⟨by simp, inductionHypothesis _ _ _ _⟩
      · split
        · exact List.pairwise_cons.mpr ⟨by simp, inductionHypothesis _ _ _ _⟩
        · split
          · exact List.pairwise_singleton _ _
          · exact front (plays index char) (inductionHypothesis _ _ _ _)

theorem programOf_last (text : Bytes) (state : State) :
    (state.programOf text).Pairwise fun command _ => ∀ index, command ≠ .reply index := program_last _ _ _ _ _ _

/-- All characters of a text that is received are accepted. -/
def delivers (code : MorseCode) (label : Label) (state : State) : Bool :=
  match state.status, label.input.action with
  | .running, .text text => acceptedIn (state.step label).log == state.letters code text
  | _, _ => true

/-- The tones of a text that is received fit into the tone queue.  When they fill it, the
callback must not have a client to answer meanwhile. -/
def Fits (code : MorseCode) (capacity : Nat) (label : Label) (state : State) : Prop :=
  ∀ text, state.status = .running → label.input.action = .text text → state.letters code text ≠ [] →
    ∃ generator, state.tuning = some generator ∧
      state.toneQueueLength + code.demand (state.programOf text) generator ≤ capacity ∧
      (state.toneQueueLength + code.demand (state.programOf text) generator = capacity →
        Quiet label.world ∨ state.pttFlag.has .echo = false)

theorem programOf_same (same : SameTuning before after) (text : Bytes) :
    after.programOf text = before.programOf text := by
  simp only [State.programOf, same.gap, same.current, same.opened]

/-- What is accepted in a step with a text is accepted while the text is played. -/
theorem accepted_step {label : Label} {text : Bytes} (wellformed : state.Wellformed) (running : state.status = .running)
    (action : label.input.action = .text text) :
    ∃ queued : State, SameTuning state queued ∧ queued.toneQueueLength = state.toneQueueLength ∧
      queued.pttFlag = state.pttFlag ∧ acceptedIn queued.log = [] ∧
      acceptedIn (state.step label).log = acceptedIn (execAll label.world (queued.programOf text) queued).log := by
  obtain ⟨nulFree, length⟩ := Input.action_text_bounds action
  obtain ⟨-, received⟩ := receiveText_eq label.world text (wellformed.ready label.input).idle nulFree
    (Nat.lt_of_le_of_lt length (by decide))
  obtain ⟨polls, logged, switched⟩ := step_log_eq label running
  obtain ⟨seconds, addr, log, ready, arrived⟩ := ready_eq label.input state
  have unpolled : acceptedIn polls = [] := acceptedIn_others fun entry member char sent => by
    obtain ⟨on, call⟩ := switched entry member
    cases sent.symm.trans call
  have begun : acceptedIn log = [] := acceptedIn_others fun entry member char sent => by
    obtain ⟨client, request, call⟩ := arrived entry member
    cases sent.symm.trans call
  rw [action, act, received, playLoop_eq] at logged
  rw [logged, acceptedIn_append, unpolled, List.append_nil]
  refine ⟨_, ?_, ?_, ?_, ?_, rfl⟩ <;> rw [ready]
  · exact ⟨rfl, rfl, rfl⟩
  · rfl
  · exact begun

/-- A text that fits is accepted character by character. -/
theorem accepted_of_fits {label : Label} {text : Bytes} (wellformed : state.Wellformed)
    (sends : label.world.Sends code capacity) (running : state.status = .running)
    (action : label.input.action = .text text) (fits : state.Fits code capacity label) :
    acceptedIn (state.step label).log = state.letters code text := by
  obtain ⟨queued, same, tones, flag, begun, accepted⟩ := accepted_step wellformed running action
  have letters : code.heard (queued.programOf text) = state.letters code text := by
    rw [programOf_same same, heard_programOf]
  -- A text during which libcw's thread takes no tone needs no room for its answers.
  obtain ⟨answers, quiet, spare⟩ : ∃ answers, (answers = false → Quiet label.world) ∧
      (Quiet label.world → answers = false) := by
    by_cases quiet : Quiet label.world
    · exact ⟨false, fun _ => quiet, fun _ => rfl⟩
    · exact ⟨true, by simp, fun others => absurd others quiet⟩
  have heard := accepted_execAll sends quiet (programOf_last text queued) fun heard => by
    obtain ⟨generator, tuned, room, full⟩ := fits text running action (letters ▸ heard)
    refine ⟨generator, same.tuning.trans tuned, ?_⟩
    rw [charge, tones, flag, programOf_same same]
    by_cases filled : state.toneQueueLength + code.demand (state.programOf text) generator = capacity
    · have unanswered : (answers && state.pttFlag.has .echo) = false := by
        rcases full filled with quiet | settled
        · simp [spare quiet]
        · simp [settled]
      rw [unanswered]
      simpa using room
    · split <;> omega
  rw [accepted, heard, begun, letters, List.nil_append]

/-- A text during which libcw's thread takes no tone is accepted in full only if it fits. -/
theorem fits_of_accepted {label : Label} {text : Bytes} (wellformed : state.Wellformed)
    (sends : label.world.Sends code capacity) (quiet : Quiet label.world) (running : state.status = .running)
    (action : label.input.action = .text text)
    (accepted : acceptedIn (state.step label).log = state.letters code text) : state.Fits code capacity label := by
  intro other _ action' heard
  obtain rfl : text = other := Action.text.inj (action.symm.trans action')
  obtain ⟨queued, same, tones, -, begun, played⟩ := accepted_step wellformed running action
  have letters : code.heard (queued.programOf text) = state.letters code text := by
    rw [programOf_same same, heard_programOf]
  rw [played] at accepted
  cases tuned : state.tuning with
  | none =>
    rw [accepted_execAll_closed label.world _ (same.tuning.trans tuned), begun] at accepted
    exact absurd accepted.symm heard
  | some generator =>
    have room := room_of_accepted sends quiet (programOf_last text queued) (same.tuning.trans tuned) (letters ▸ heard)
      (by rw [begun, letters, accepted, List.length_nil, Nat.zero_add])
    rw [tones, programOf_same same] at room
    exact ⟨generator, rfl, room, fun _ => .inl quiet⟩

end State

/-! ## Runs -/

def Call.prepares : Call → Bool
  | .prepared _ _ => true
  | _ => false

/-- A step of the daemon, and whether all characters of the text were accepted for which a
reply was last prepared. -/
def audit (code : MorseCode) (label : Label) : State × Bool → State × Bool
  | (state, complete) =>
    (state.step label, if (state.step label).log.any (·.call.prepares) then state.delivers code label else complete)

/-- A reply is sent only for a text that is complete, and no character of a text is left out
before one that is accepted. -/
def Honest (code : MorseCode) (label : Label) : State × Bool → Prop
  | (state, complete) =>
    (∀ entry ∈ (state.step label).log, ∀ client reply, entry.call = .sendto client reply → complete = true) ∧
      ∀ text, state.status = .running → label.input.action = .text text →
        acceptedIn (state.step label).log <+: state.letters code text

open State

theorem delivers_of_fits {code : MorseCode} {capacity : Nat} {label : Label} {state : State} (wellformed : state.Wellformed)
    (sends : label.world.Sends code capacity) (fits : state.Fits code capacity label) :
    state.delivers code label = true := by
  unfold State.delivers
  split
  · rename_i text running action
    exact beq_iff_eq.mpr (accepted_of_fits wellformed sends running action fits)
  · rfl

/-- If the tones of every text fit into the tone queue that it finds, every reply stands for
a text that libcw has accepted in full, and nothing is left out of a text.  A text during
which no tone is taken is accepted in full exactly if it fits. -/
theorem reply_means_queued_if_texts_fit {code : MorseCode} {capacity : Nat} {initial : State} (started : Started initial)
    {labels : List Label} (libcw : ∀ label ∈ labels, label.world.Sends code capacity) :
    (Runs.Steps State.step (Fits code capacity) labels initial →
      Runs.Steps (audit code) (Honest code) labels (initial, true)) ∧
    Runs.Steps State.step (fun label state => Quiet label.world →
      (state.delivers code label = true ↔ state.Fits code capacity label)) labels initial := by
  constructor
  · intro fits
    have audited : Runs.Steps (audit code) (fun label audited => audited.1.Fits code capacity label) labels (initial, true) :=
      (Runs.steps_image Prod.fst (fun _ _ => rfl) (Fits code capacity) labels (initial, true)).mpr fits
    refine Runs.steps_of_steps (fun label audited (invariant : audited.1.Wellformed ∧ audited.2 = true) condition => ?_)
      ⟨started.wellformed, rfl⟩ (audited.assuming libcw)
    obtain ⟨state, complete⟩ := audited
    obtain ⟨wellformed, rfl : complete = true⟩ := invariant
    obtain ⟨sends, fits⟩ := condition
    refine ⟨⟨wellformed.step label, ?_⟩, fun _ _ _ _ _ => rfl, fun text running action => ?_⟩
    · simp only [audit, delivers_of_fits wellformed sends fits, ite_self]
    · have whole : acceptedIn (state.step label).log = state.letters code text :=
        accepted_of_fits wellformed sends running action fits
      exact ⟨[], (List.append_nil _).trans whole⟩
  · refine Runs.steps_of_steps (fun label state wellformed sends => ⟨Wellformed.step label state wellformed, fun quiet => ?_⟩)
      started.wellformed (Runs.steps_of_forall libcw initial)
    refine ⟨fun delivers text running action => ?_, delivers_of_fits wellformed sends⟩
    have accepted : acceptedIn (state.step label).log = state.letters code text := by
      simpa [State.delivers, running, action] using delivers
    exact fits_of_accepted wellformed sends quiet running action accepted text running action

/-- A code of two tones a letter. -/
def twoTones : MorseCode where
  known char := byte 'a' ≤ char && char ≤ byte 'z'
  tones generator _ := [⟨50000, generator.frequency⟩, ⟨150000, 0⟩]
  silent := rfl

def World.withCapacity (world : World) (code : MorseCode) (capacity : Nat) : World :=
  { world with sendCharacter := fun _ => code.answer capacity }

theorem sends_withCapacity (world : World) (code : MorseCode) (capacity : Nat) :
    (world.withCapacity code capacity).Sends code capacity := fun _ _ _ => rfl

/-- A queue for three tones. -/
def narrow : World := calm.withCapacity twoTones 3

theorem sends_narrow : narrow.Sends twoTones 3 := sends_withCapacity calm twoTones 3

/-- The second letter of a text does not fit, and its reply is sent when the first one is
played. -/
theorem reply_is_sent_for_half_a_text :
    ¬ ∀ code capacity initial labels, Started initial → (∀ label ∈ labels, label.world.Sends code capacity) →
      (∀ label ∈ labels, ∀ request payload, label.input.action ≠ .request request payload) →
      Runs.Steps (audit code) (Honest code) labels (initial, true) := by
  intro claim
  let text := narrow.receives [byte 'e', byte 'e', byte '^']
  let played : Label := ⟨narrow, .dequeue⟩
  have received : text.input.action = .text [byte 'e', byte 'e', byte '^'] := rfl
  have taken : played.input.action = .dequeue := rfl
  have honest := claim twoTones 3 onSerialPort [text, played] started_onSerialPort
    (by simpa [text, played, World.receives] using sends_narrow) (by simp [received, taken])
  have incomplete : (audit twoTones text (onSerialPort, true)).2 = false := by decide +kernel
  have replied : ∃ entry ∈ ((onSerialPort.step text).step played).log,
      entry.call = .sendto client ([byte 'e', byte 'e'] ++ crlf) := by decide +kernel
  obtain ⟨entry, member, sent⟩ := replied
  have complete : (audit twoTones text (onSerialPort, true)).2 = true := honest.2.1.1 entry member _ _ sent
  rw [incomplete] at complete
  cases complete

/-- A letter and a caret find room in an empty queue. -/
theorem reply_means_queued_for_a_letter :
    Runs.Steps (audit twoTones) (Honest twoTones) [narrow.receives [byte 'e', byte '^'], ⟨narrow, .dequeue⟩]
      (onSerialPort, true) := by
  refine (reply_means_queued_if_texts_fit started_onSerialPort (by simpa [World.receives] using sends_narrow)).1
    ⟨fun text _ action _ => ?_, fun text _ action => ?_, trivial⟩
  · obtain rfl : [byte 'e', byte '^'] = text := Action.text.inj action
    have room : onSerialPort.tuning.any (fun generator => onSerialPort.toneQueueLength +
        twoTones.demand (onSerialPort.programOf [byte 'e', byte '^']) generator < 3) = true := by decide +kernel
    obtain ⟨generator, tuned, fits⟩ := (Option.any_eq_true _ _).mp room
    have fits := of_decide_eq_true fits
    exact ⟨generator, tuned, Nat.le_of_lt fits, fun full => absurd full (Nat.ne_of_lt fits)⟩
  · cases action

end Cwdaemon
