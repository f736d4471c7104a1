import Cwdaemon.Verified.Tuning

/-! # A text as a program

The text loop decides what it does by the text, by libcw's gap and by the current
speed, all of which are known when it starts: libcw's thread changes neither.  So the
loop is a compiler and an interpreter in one.  `program` is the list of commands that
it compiles a text to, and playing the text is executing them in order.
-/

namespace Cwdaemon

/-- A command of the text loop.  `replace` and `reply` are about the request queue, at
an index. -/
inductive Command where
  | speed (wpm : Int)
  | gap (dots : Int)
  | readGap
  | ptt
  | send (char : UInt8)
  | replace (index : Nat)
  | reply (index : Nat)
  deriving DecidableEq, Repr

/-- `+` can stand in a C string. -/
theorem plus_ne_zero : byte '+' ≠ 0 := by decide

namespace State

def exec (world : World) (state : State) (command : Command) : State :=
  match command with
  | .speed wpm => (state.setMorseSpeed wpm).served world (·.cwSetSendSpeed wpm)
  | .gap dots => state.served world (·.cwSetGap dots)
  | .readGap => state.served world cwGetGap
  | .ptt => state.setPttOn
  | .send char => state.served world (·.cwSendCharacter world char)
  | .replace index =>
    { state with requestQueue := state.requestQueue.poke index (byte '+') plus_ne_zero }
  | .reply index =>
    let state := { state with requestQueue := state.requestQueue.cut index }
    state.prepareReply state.requestQueue.bytes

def execAll (world : World) (commands : List Command) (state : State) : State :=
  commands.foldl (exec world) state

/-- The gap that libcw reports when it was last set to `gap`: without a generator it
has forgotten it. -/
def reportedGap (opened : Bool) (gap : Int) : Int := if opened then gap else 0

/-- The commands for a character that is played. -/
def characterCommands (index : Nat) (char : UInt8) : List Command :=
  (if char = byte '*' then [.replace index] else []) ++ .ptt ::
    ((if played char ≠ 0xff then [.send (played char)] else []) ++ [.readGap])

/-- The commands for a text, when libcw has a generator (`opened`), its gap is `gap` and
the current speed is `speed`. -/
def program (opened : Bool) : Bool → Nat → Int → Int → Bytes → List Command
  | lookAhead, _, _, _, [] => if lookAhead then [.gap 0] else []
  | lookAhead, index, gap, speed, char :: rest =>
    if lookAhead && char = byte '^' then program opened false (index + 1) gap speed rest
    else
      let gap := if lookAhead then reportedGap opened 0 else gap
      (if lookAhead then [.gap 0] else []) ++
        if isSpeedSign char then
          let speed := speed + if char = byte '+' then 2 else -2
          if rest.head?.any isSpeedSign then program opened false (index + 1) gap speed rest
          else .speed (clampSpeed speed) :: program opened false (index + 1) gap (clampSpeed speed) rest
        else if char = byte '~' then
          .gap 2 :: program opened false (index + 1) (reportedGap opened 2) speed rest
        else if char = byte '^' then [.reply index]
        else characterCommands index char ++ program opened (gap = 2) (index + 1) gap speed rest

/-- The commands for a text that is read from its start in this state. -/
def programOf (text : Bytes) (state : State) : List Command :=
  program state.libcw.generator.isSome false 0 state.gap state.current.morseSpeed text

/-! ## Replies in a program -/

/-- A program is silent, or its last command is the only reply. -/
theorem program_replies (opened lookAhead : Bool) (index : Nat) (gap speed : Int) (text : Bytes) :
    ∃ commands, (∀ command ∈ commands, ∀ found, command ≠ .reply found) ∧
      (program opened lookAhead index gap speed text = commands ∨
        ∃ found, index ≤ found ∧ found < index + text.length ∧
          program opened lookAhead index gap speed text = commands ++ [.reply found]) := by
  induction text generalizing lookAhead index gap speed with
  | nil => exact ⟨if lookAhead then [.gap 0] else [], by cases lookAhead <;> simp, .inl rfl⟩
  | cons char rest inductionHypothesis =>
    have next (lookAhead : Bool) (gap speed : Int) {front : List Command}
        (silent : ∀ command ∈ front, ∀ found, command ≠ .reply found) :
        ∃ commands, (∀ command ∈ commands, ∀ found, command ≠ .reply found) ∧
          (front ++ program opened lookAhead (index + 1) gap speed rest = commands ∨
            ∃ found, index ≤ found ∧ found < index + (char :: rest).length ∧
              front ++ program opened lookAhead (index + 1) gap speed rest = commands ++ [.reply found]) := by
      obtain ⟨commands, silent', compiled⟩ := inductionHypothesis lookAhead (index + 1) gap speed
      refine ⟨front ++ commands, List.forall_mem_append.mpr ⟨silent, silent'⟩, ?_⟩
      rcases compiled with equal | ⟨found, behind, inside, equal⟩
      · exact .inl (by rw [equal])
      · refine .inr ⟨found, by omega, ?_, by rw [equal, List.append_assoc]⟩
        rw [List.length_cons]
        omega
    have reset : ∀ command ∈ (if lookAhead then [Command.gap 0] else []), ∀ found, command ≠ .reply found := by
      cases lookAhead <;> simp
    simp only [program]
    by_cases skipped : (lookAhead && decide (char = byte '^')) = true
    · rw [if_pos skipped]
      exact next false gap speed (List.forall_mem_nil _)
    · rw [if_neg skipped]
      generalize (if lookAhead then reportedGap opened 0 else gap) = gap
      generalize (if lookAhead then [Command.gap 0] else []) = front at reset
      have behind {command : Command} (silent : ∀ found, command ≠ .reply found) :
          ∀ later ∈ front ++ [command], ∀ found, later ≠ .reply found :=
        List.forall_mem_append.mpr ⟨reset, List.forall_mem_singleton.mpr silent⟩
      split
      case isTrue =>
        split
        case isTrue => exact next false _ _ reset
        case isFalse =>
          rw [List.append_cons]
          exact next false _ _ (behind (by simp))
      case isFalse =>
        split
        case isTrue =>
          rw [List.append_cons]
          exact next false _ _ (behind (by simp))
        case isFalse =>
          split
          case isTrue => exact ⟨front, reset, .inr ⟨index, Nat.le_refl _, by simp, rfl⟩⟩
          case isFalse =>
            rw [← List.append_assoc]
            refine next _ _ _ (List.forall_mem_append.mpr ⟨reset, ?_⟩)
            rintro _ member found rfl
            simp [characterCommands] at member

/-- A caret is found within the text. -/
theorem program_reply_index {opened lookAhead : Bool} {index found : Nat} {gap speed : Int} {text : Bytes}
    (member : .reply found ∈ program opened lookAhead index gap speed text) : found < index + text.length := by
  obtain ⟨commands, silent, compiled | ⟨last, -, inside, compiled⟩⟩ :=
    program_replies opened lookAhead index gap speed text
  · rw [compiled] at member
    exact absurd rfl (silent _ member found)
  · rw [compiled] at member
    rcases List.mem_append.mp member with earlier | final
    · exact absurd rfl (silent _ earlier found)
    · obtain rfl : found = last := by simpa using final
      exact inside

/-! ## What the commands do to the parameters -/

section Commands

variable (world : World)

@[simp] theorem execAll_nil (state : State) : execAll world [] state = state := rfl

@[simp] theorem execAll_cons (command : Command) (commands : List Command) (state : State) :
    execAll world (command :: commands) state = execAll world commands (state.exec world command) := rfl

@[simp] theorem execAll_append (first second : List Command) (state : State) :
    execAll world (first ++ second) state = execAll world second (execAll world first state) :=
  List.foldl_append

/-- A libcw call of the loop does to the parameters what it does without libcw's thread. -/
theorem served_tuning {change : Generator → Generator} {call : State → State} (state : State)
    (current : ∀ state, (call state).current = state.current)
    (changes : ∀ state, (call state).tuning = state.tuning.map change) :
    (state.served world call).current = state.current ∧
      (state.served world call).tuning = state.tuning.map change := by
  have before := SameTuning.serve world state
  have after := SameTuning.serve world (call (state.serve world))
  exact ⟨after.current.trans ((current _).trans before.current),
    after.tuning.trans ((changes _).trans (by rw [before.tuning]))⟩

/-- Setting a parameter commutes with forgetting the tones. -/
theorem callGenerator_tuning (call : Call) (change : Generator → Generator) (state : State)
    (commutes : ∀ generator, (change generator).silent = change generator.silent) :
    (state.callGenerator call change).tuning = state.tuning.map change := by
  simp only [tuning, callGenerator_eq, withLibcw_libcw, Option.map_map]
  congr 1
  exact funext commutes

theorem cwSetSendSpeed_tuning (wpm : Int) (state : State) :
    (state.cwSetSendSpeed wpm).tuning = state.tuning.map ({ · with sendSpeed := wpm }) :=
  callGenerator_tuning _ _ state fun _ => rfl

theorem cwSetGap_tuning (dots : Int) (state : State) :
    (state.cwSetGap dots).tuning = state.tuning.map ({ · with gap := dots }) :=
  callGenerator_tuning _ _ state fun _ => rfl

theorem exec_speed (wpm : Int) (state : State) :
    (state.exec world (.speed wpm)).current = { state.current with morseSpeed := wpm } ∧
      (state.exec world (.speed wpm)).tuning = state.tuning.map ({ · with sendSpeed := wpm }) :=
  served_tuning world (state.setMorseSpeed wpm) (fun _ => rfl) (cwSetSendSpeed_tuning wpm)

theorem exec_gap (dots : Int) (state : State) :
    (state.exec world (.gap dots)).current = state.current ∧
      (state.exec world (.gap dots)).tuning = state.tuning.map ({ · with gap := dots }) :=
  served_tuning world state (fun _ => rfl) (cwSetGap_tuning dots)

/-- The other commands leave the parameters alone. -/
theorem sameTuning_exec {command : Command} (state : State) (quiet : ∀ wpm, command ≠ .speed wpm)
    (level : ∀ dots, command ≠ .gap dots) : SameTuning state (state.exec world command) := by
  have served {call : State → State} (state : State) (same : ∀ state, SameTuning state (call state)) :
      SameTuning state (state.served world call) :=
    ((SameTuning.serve world state).trans (same _)).trans (SameTuning.serve world _)
  cases command with
  | speed wpm => exact absurd rfl (quiet wpm)
  | gap dots => exact absurd rfl (level dots)
  | readGap => exact served state fun _ => ⟨rfl, rfl, rfl⟩
  | ptt => exact .setPttOn state
  | send char => exact served state fun state => .cwSendCharacter world char state
  | replace index => exact ⟨rfl, rfl, rfl⟩
  | reply index =>
    have cut : SameTuning state { state with requestQueue := state.requestQueue.cut index } := ⟨rfl, rfl, rfl⟩
    exact cut.trans (.prepareReply _ _)

theorem sameTuning_execAll {commands : List Command} (state : State)
    (quiet : ∀ command ∈ commands, (∀ wpm, command ≠ .speed wpm) ∧ ∀ dots, command ≠ .gap dots) :
    SameTuning state (execAll world commands state) := by
  induction commands generalizing state with
  | nil => exact .refl state
  | cons command commands inductionHypothesis =>
    obtain ⟨first, rest⟩ := List.forall_mem_cons.mp quiet
    exact (sameTuning_exec world state first.1 first.2).trans (inductionHypothesis _ rest)

theorem sameTuning_characterCommands (index : Nat) (char : UInt8) (state : State) :
    SameTuning state (execAll world (characterCommands index char) state) := by
  refine sameTuning_execAll world state fun command member => ⟨?_, ?_⟩
  all_goals
    rintro _ rfl
    simp [characterCommands] at member

/-! ## What the commands do to the request queue -/

theorem served_serve (state : State) : Served state (state.serve world) := by
  unfold State.serve
  generalize world.during state.log.length = count
  induction count generalizing state with
  | zero => exact .refl state
  | succ count inductionHypothesis => exact (served_dequeue state).trans (inductionHypothesis _)

/-- A libcw call of the loop, with libcw's thread around it, changes no more than the call
and the thread do. -/
theorem served_served {call : State → State} (calls : ∀ state, Served state (call state)) (state : State) :
    Served state (state.served world call) :=
  ((served_serve world state).trans (calls _)).trans (served_serve world _)

/-- What a command makes of the content of the request queue. -/
def edit (bytes : Bytes) : Command → Bytes
  | .replace index => bytes.set index (byte '+')
  | _ => bytes

theorem edit_length (bytes : Bytes) (command : Command) : (edit bytes command).length = bytes.length := by
  cases command with
  | replace index => exact List.length_set
  | speed | gap | readGap | ptt | send | reply => rfl

theorem foldl_edit_length (bytes : Bytes) (commands : List Command) :
    (commands.foldl edit bytes).length = bytes.length := by
  induction commands generalizing bytes with
  | nil => rfl
  | cons command commands inductionHypothesis => exact (inductionHypothesis _).trans (edit_length bytes command)

/-- Only what is in front of an index counts for the edits in front of it. -/
theorem take_foldl_edit (index : Nat) (commands : List Command) (bytes : Bytes) :
    (commands.foldl edit bytes).take index = commands.foldl edit (bytes.take index) := by
  induction commands generalizing bytes with
  | nil => rfl
  | cons command commands inductionHypothesis =>
    rw [List.foldl_cons, List.foldl_cons, inductionHypothesis]
    cases command with
    | replace found => rw [edit, edit, List.take_set]
    | speed | gap | readGap | ptt | send | reply => rfl

/-- What the text loop can change before it comes to a reply. -/
def Spoken (before after : State) : Prop :=
  ∃ current flag queue reply devices generator status log,
    after = { before with
      current := current, pttFlag := flag, requestQueue := queue, replyBuffer := reply, devices := devices
      libcw := ⟨generator, before.libcw.keyingCallback⟩, status := status, log := log }

namespace Spoken

theorem refl (state : State) : Spoken state state := ⟨_, _, _, _, _, _, _, _, rfl⟩

theorem trans {first second third : State} (earlier : Spoken first second) (later : Spoken second third) :
    Spoken first third := by
  obtain ⟨_, _, _, _, _, _, _, _, rfl⟩ := earlier
  obtain ⟨_, _, _, _, _, _, _, _, rfl⟩ := later
  exact ⟨_, _, _, _, _, _, _, _, rfl⟩

theorem ofServed {before after : State} (served : Served before after) : Spoken before after := by
  obtain ⟨_, _, _, _, _, _, rfl⟩ := served
  exact ⟨_, _, _, _, _, _, _, _, rfl⟩

theorem requestAddr {before after : State} (spoken : Spoken before after) : after.requestAddr = before.requestAddr := by
  obtain ⟨_, _, _, _, _, _, _, _, rfl⟩ := spoken
  rfl

end Spoken

theorem spoken_exec {command : Command} (silent : ∀ index, command ≠ .reply index) (state : State) :
    Spoken state (state.exec world command) := by
  cases command with
  | speed wpm =>
    have set : Spoken state (state.setMorseSpeed wpm) := ⟨_, _, _, _, _, _, _, _, rfl⟩
    exact set.trans (.ofServed (served_served world (served_callGenerator _ _) _))
  | gap dots => exact .ofServed (served_served world (served_callGenerator _ _) state)
  | readGap => exact .ofServed (served_served world (fun _ => ⟨_, _, _, _, _, _, rfl⟩) state)
  | ptt =>
    obtain ⟨flag, devices, log, raised⟩ := setPttOn_eq state
    rw [exec, raised]
    exact ⟨_, _, _, _, _, _, _, _, rfl⟩
  | send char => exact .ofServed (served_served world (served_callGenerator _ _) state)
  | replace index => exact ⟨_, _, _, _, _, _, _, _, rfl⟩
  | reply index => exact absurd rfl (silent index)

theorem spoken_execAll {commands : List Command} (silent : ∀ command ∈ commands, ∀ index, command ≠ .reply index)
    (state : State) : Spoken state (execAll world commands state) := by
  induction commands generalizing state with
  | nil => exact .refl state
  | cons command commands inductionHypothesis =>
    obtain ⟨first, rest⟩ := List.forall_mem_cons.mp silent
    exact (spoken_exec world first state).trans (inductionHypothesis rest _)

/-- Until a reply is prepared, the request queue is only edited. -/
theorem exec_requestQueue {command : Command} (silent : ∀ index, command ≠ .reply index) (state : State) :
    (state.exec world command).requestQueue.bytes = edit state.requestQueue.bytes command := by
  have served {call : State → State} (calls : ∀ state, Served state (call state)) (state : State) :
      (state.served world call).requestQueue.bytes = state.requestQueue.bytes :=
    congrArg CString.Buffer.bytes (served_served world calls state).requestQueue
  cases command with
  | speed wpm => exact served (served_callGenerator _ _) (state.setMorseSpeed wpm)
  | gap dots => exact served (served_callGenerator _ _) state
  | readGap => exact served (fun _ => ⟨_, _, _, _, _, _, rfl⟩) state
  | send char => exact served (served_callGenerator _ _) state
  | ptt => exact congrArg CString.Buffer.bytes (setPttOn_requestQueue state)
  | replace index => rfl
  | reply index => exact absurd rfl (silent index)

theorem execAll_requestQueue {commands : List Command}
    (silent : ∀ command ∈ commands, ∀ index, command ≠ .reply index) (state : State) :
    (execAll world commands state).requestQueue.bytes = commands.foldl edit state.requestQueue.bytes := by
  induction commands generalizing state with
  | nil => rfl
  | cons command commands inductionHypothesis =>
    obtain ⟨first, rest⟩ := List.forall_mem_cons.mp silent
    rw [execAll_cons, inductionHypothesis rest, exec_requestQueue world first, List.foldl_cons]

/-- No command but a reply empties the request queue, or fills it. -/
theorem exec_idle {command : Command} (silent : ∀ index, command ≠ .reply index) (state : State) :
    (state.exec world command).requestQueue.bytes = [] ↔ state.requestQueue.bytes = [] := by
  rw [exec_requestQueue world silent state, ← List.length_eq_zero_iff, edit_length, List.length_eq_zero_iff]

theorem execAll_idle {commands : List Command} (silent : ∀ command ∈ commands, ∀ index, command ≠ .reply index)
    (state : State) :
    (execAll world commands state).requestQueue.bytes = [] ↔ state.requestQueue.bytes = [] := by
  rw [execAll_requestQueue world silent state, ← List.length_eq_zero_iff, foldl_edit_length, List.length_eq_zero_iff]

/-- What libcw reports after its gap was set. -/
theorem gap_exec (dots : Int) (state : State) :
    (state.exec world (.gap dots)).gap = reportedGap state.libcw.generator.isSome dots ∧
      (state.exec world (.gap dots)).libcw.generator.isSome = state.libcw.generator.isSome := by
  have set := (exec_gap world dots state).2
  constructor
  · rw [gap_of_tuning (set.trans (cwSetGap_tuning dots state).symm)]
    cases opened : state.libcw.generator <;> simp [State.gap, reportedGap, opened]
  · rw [← tuning_isSome, set, Option.isSome_map, tuning_isSome]

/-! ## The loop executes the program -/

theorem playCharacter_eq (index : Nat) (char : UInt8) (state : State) :
    state.playCharacter world index char = execAll world (characterCommands index char) state := by
  by_cases star : char = byte '*'
  · subst star
    rfl
  · have same : played char = char := if_neg star
    by_cases silent : char = 0xff
    · subst silent
      rfl
    · simp only [playCharacter, if_neg star, characterCommands, same, if_pos silent]
      rfl

/-- The loop, with the speed it has come to.  In the middle of a run of signs this is
not yet the current speed of the executed program. -/
theorem playLoop_setMorseSpeed_eq (text : Bytes) (lookAhead : Bool) (index : Nat) (speed : Int) (state : State)
    (current : speed = state.current.morseSpeed ∨ lookAhead = false ∧ text.head?.any isSpeedSign = true) :
    playLoop world lookAhead index text (state.setMorseSpeed speed) =
      execAll world (program state.libcw.generator.isSome lookAhead index state.gap speed text) state := by
  have same (state : State) {speed : Int} (current : speed = state.current.morseSpeed) :
      state.setMorseSpeed speed = state := by
    rw [current]
    rfl
  induction text generalizing lookAhead index speed state with
  | nil =>
    rw [same state (current.resolve_right (by simp))]
    cases lookAhead <;> rfl
  | cons char rest inductionHypothesis =>
    simp only [playLoop, program]
    split
    case isTrue skipped =>
      have here := current.resolve_right (by simp_all)
      have next := inductionHypothesis false (index + 1) speed state (.inl here)
      exact next
    case isFalse =>
      -- The gap is set back first, at the speed that is current then.
      obtain ⟨after, equal, executed, gap, opened, current'⟩ : ∃ after : State,
          (if lookAhead then (state.setMorseSpeed speed).served world (·.cwSetGap 0)
            else state.setMorseSpeed speed) = after.setMorseSpeed speed ∧
          execAll world (if lookAhead then [.gap 0] else []) state = after ∧
          after.gap = (if lookAhead then reportedGap state.libcw.generator.isSome 0 else state.gap) ∧
          after.libcw.generator.isSome = state.libcw.generator.isSome ∧
          (speed = after.current.morseSpeed ∨ (char :: rest).head?.any isSpeedSign = true) := by
        cases lookAhead with
        | false => exact ⟨state, rfl, rfl, rfl, rfl, current.imp id And.right⟩
        | true =>
          have here := current.resolve_right (by simp)
          obtain ⟨gap, opened⟩ := gap_exec world 0 state
          have kept : speed = (state.exec world (.gap 0)).current.morseSpeed := by
            rw [(exec_gap world 0 state).1, here]
          refine ⟨state.exec world (.gap 0), ?_, rfl, gap, opened, .inl kept⟩
          rw [same state here, same _ kept]
          rfl
      rw [execAll_append, executed, equal, ← gap, ← opened]
      clear equal executed gap opened current
      split
      case isTrue sign =>
        rw [show (after.setMorseSpeed speed).current.morseSpeed = speed from rfl]
        split
        case isTrue more =>
          exact inductionHypothesis false (index + 1) _ after (.inr ⟨rfl, more⟩)
        case isFalse =>
          generalize speed + (if char = byte '+' then 2 else -2) = speed'
          have spoken := exec_speed world (clampSpeed speed') after
          have next := inductionHypothesis false (index + 1) (clampSpeed speed')
            (after.exec world (.speed (clampSpeed speed'))) (.inl (by rw [spoken.1]))
          have gap : (after.exec world (.speed (clampSpeed speed'))).gap = after.gap := by
            rw [gap_of_tuning (spoken.2.trans (cwSetSendSpeed_tuning _ after).symm)]
            cases opened : after.libcw.generator <;> simp [State.gap, opened]
          have opened : (after.exec world (.speed (clampSpeed speed'))).libcw.generator.isSome =
              after.libcw.generator.isSome := by
            rw [← tuning_isSome, spoken.2, Option.isSome_map, tuning_isSome]
          rw [gap, opened, same _ (by rw [spoken.1])] at next
          exact next
      case isFalse sign =>
        have here := current'.resolve_right (by simpa using sign)
        rw [same after here]
        split
        case isTrue tilde =>
          obtain ⟨gap, opened⟩ := gap_exec world 2 after
          have kept : speed = (after.exec world (.gap 2)).current.morseSpeed := by
            rw [(exec_gap world 2 after).1, here]
          have next := inductionHypothesis false (index + 1) speed (after.exec world (.gap 2)) (.inl kept)
          rw [gap, opened, same _ kept] at next
          exact next
        case isFalse =>
          split
          case isTrue caret => rfl
          case isFalse =>
            have played := sameTuning_characterCommands world index char after
            have next := inductionHypothesis (after.gap = 2) (index + 1) speed
              (execAll world (characterCommands index char) after) (.inl (by rw [played.current, here]))
            rw [played.gap, played.opened, same _ (by rw [played.current, here])] at next
            rw [playCharacter_eq, execAll_append, played.gap]
            exact next

/-- Playing a text is executing its program. -/
theorem playLoop_eq (text : Bytes) (state : State) :
    playLoop world false 0 text state = execAll world (state.programOf text) state :=
  playLoop_setMorseSpeed_eq world text false 0 state.current.morseSpeed state (.inl rfl)

end Commands

end State

end Cwdaemon
