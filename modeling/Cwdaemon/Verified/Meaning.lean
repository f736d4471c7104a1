import Cwdaemon.Verified.Alike
import Cwdaemon.Verified.InStep

/-! # What a text means

A text without a caret is read from left to right as a list of tokens, and each token
means a few commands.  The text loop issues these commands and no others, so what a
text does depends on its reading alone: two texts in a row do what one text does, if
no run of signs is cut in two.
-/

namespace Cwdaemon

open CString (Buffer)

/-! ## Tokens -/

/-- A maximal run of `+` and `-`, a `~`, or another byte. -/
inductive Token where
  | speed (plus minus : Nat)
  | halfGap
  | char (char : UInt8)
  deriving DecidableEq, Repr

/-- A sign in front of a text joins the run that the text starts with, if it does. -/
def joinSign (sign : UInt8) : List Token → List Token
  | .speed plus minus :: rest =>
    (if sign = byte '+' then .speed (plus + 1) minus else .speed plus (minus + 1)) :: rest
  | rest => (if sign = byte '+' then .speed 1 0 else .speed 0 1) :: rest

def tokens : Bytes → List Token
  | [] => []
  | char :: rest =>
    if isSpeedSign char then joinSign char (tokens rest)
    else (if char = byte '~' then .halfGap else .char char) :: tokens rest

/-- A byte other than the directives `+`, `-` and `~`. -/
def isPlayed (char : UInt8) : Bool := !isSpeedSign char && char != byte '~'

theorem tokens_played {char : UInt8} (rest : Bytes) (isPlayed : isPlayed char = true) :
    tokens (char :: rest) = .char char :: tokens rest := by
  simp only [Cwdaemon.isPlayed, Bool.and_eq_true, Bool.not_eq_true', bne_iff_ne] at isPlayed
  simp [tokens, isPlayed.1, isPlayed.2]

/-- A text starts with a run exactly if its reading does. -/
theorem tokens_head (text : Bytes) :
    (∃ plus minus rest, tokens text = .speed plus minus :: rest) ↔ text.head?.any isSpeedSign = true := by
  cases text with
  | nil => simp [tokens]
  | cons char rest =>
    simp only [List.head?_cons, Option.any_some]
    constructor
    · rintro ⟨plus, minus, more, read⟩
      by_contra unsigned
      simp only [tokens, if_neg unsigned] at read
      split at read <;> cases read
    · intro sign
      simp only [tokens, if_pos sign]
      unfold joinSign
      split <;> split <;> exact ⟨_, _, _, rfl⟩

theorem joinSign_append (sign : UInt8) {first second : List Token}
    (whole : first = [] → ∀ plus minus rest, second ≠ .speed plus minus :: rest) :
    joinSign sign (first ++ second) = joinSign sign first ++ second := by
  cases first with
  | nil =>
    have unsigned := whole rfl
    cases second with
    | nil => rfl
    | cons token rest =>
      cases token with
      | speed plus minus => exact absurd rfl (unsigned plus minus rest)
      | halfGap | char => rfl
  | cons token rest => cases token <;> rfl

/-- The cut between two texts does not split a run of signs. -/
def Separate (first second : Bytes) : Prop :=
  ¬ (first.getLast?.any isSpeedSign = true ∧ second.head?.any isSpeedSign = true)

theorem tokens_append {first second : Bytes} (separate : Separate first second) :
    tokens (first ++ second) = tokens first ++ tokens second := by
  induction first with
  | nil => rfl
  | cons char rest inductionHypothesis =>
    have later : tokens (rest ++ second) = tokens rest ++ tokens second := by
      cases rest with
      | nil => rfl
      | cons next rest => exact inductionHypothesis (by simpa [Separate] using separate)
    simp only [List.cons_append, tokens, later]
    split
    case isTrue sign =>
      apply joinSign_append
      intro none plus minus more read
      -- Only the empty text has no tokens, so the sign is the last of its text.
      have empty : rest = [] := by
        cases rest with
        | nil => rfl
        | cons next rest =>
          simp only [tokens] at none
          split at none
          · unfold joinSign at none
            split at none <;> cases none
          · cases none
      subst empty
      exact separate ⟨by simpa using sign, (tokens_head second).mp ⟨plus, minus, more, read⟩⟩
    case isFalse => rfl

/-- A maximal run is one token, with the numbers of its signs. -/
theorem tokens_run {run rest : Bytes} (signs : ∀ char ∈ run, isSpeedSign char = true) (some : run ≠ [])
    (maximal : rest.head?.any isSpeedSign = false) :
    tokens (run ++ rest) = .speed (run.count (byte '+')) (run.count (byte '-')) :: tokens rest := by
  induction run with
  | nil => exact absurd rfl some
  | cons char run inductionHypothesis =>
    have sign := signs char (by simp)
    have joined : tokens (run ++ rest) = tokens rest ∧ run = [] ∨
        tokens (run ++ rest) = .speed (run.count (byte '+')) (run.count (byte '-')) :: tokens rest := by
      by_cases last : run = []
      · subst last
        exact .inl ⟨rfl, rfl⟩
      · exact .inr (inductionHypothesis (fun next member => signs next (by simp [member])) last)
    simp only [List.cons_append, tokens, if_pos sign]
    have either : char = byte '+' ∨ char = byte '-' := by simpa [isSpeedSign] using sign
    rcases joined with ⟨read, rfl⟩ | read
    · rw [read]
      have unsigned : ∀ plus minus more, tokens rest ≠ .speed plus minus :: more := by
        intro plus minus more starts
        have := (tokens_head rest).mp ⟨plus, minus, more, starts⟩
        simp [maximal] at this
      have alone : joinSign char ([] ++ tokens rest) = joinSign char [] ++ tokens rest :=
        joinSign_append char fun _ => unsigned
      rw [List.nil_append] at alone
      rw [alone]
      rcases either with rfl | rfl <;> rfl
    · rw [read]
      have distinct : byte '-' ≠ byte '+' := by decide
      rcases either with rfl | rfl
      · simp [joinSign, distinct.symm]
      · simp [joinSign, distinct]

/-! ## Commands -/

/-- What libcw is asked to send for a byte that is played. -/
def sent (char : UInt8) : List Command :=
  if char = 0xff then [] else [.send (State.played char)]

/-- The commands that tokens mean, when libcw has a generator (`opened`), its gap is
`gap` and the current speed is `speed`. -/
def meaning (opened : Bool) : Int → Int → List Token → List Command
  | _, _, [] => []
  | gap, speed, .speed plus minus :: rest =>
    let speed := clampSpeed (speed + 2 * ((plus : Int) - minus))
    .speed speed :: meaning opened gap speed rest
  | _, speed, .halfGap :: rest => .gap 2 :: meaning opened (State.reportedGap opened 2) speed rest
  | gap, speed, .char char :: rest =>
    .ptt :: (sent char ++ .readGap ::
      if gap = 2 then .gap 0 :: meaning opened 0 speed rest else meaning opened gap speed rest)

/-- The gap and the speed after tokens. -/
def settled (opened : Bool) : Int → Int → List Token → Int × Int
  | gap, speed, [] => (gap, speed)
  | gap, speed, .speed plus minus :: rest =>
    settled opened gap (clampSpeed (speed + 2 * ((plus : Int) - minus))) rest
  | _, speed, .halfGap :: rest => settled opened (State.reportedGap opened 2) speed rest
  | gap, speed, .char _ :: rest => settled opened (if gap = 2 then 0 else gap) speed rest

theorem meaning_append (opened : Bool) (gap speed : Int) (first second : List Token) :
    meaning opened gap speed (first ++ second) =
      meaning opened gap speed first ++
        meaning opened (settled opened gap speed first).1 (settled opened gap speed first).2 second := by
  induction first generalizing gap speed with
  | nil => rfl
  | cons token rest inductionHypothesis =>
    cases token with
    | speed plus minus => simp only [List.cons_append, meaning, settled, inductionHypothesis]
    | halfGap => simp only [List.cons_append, meaning, settled, inductionHypothesis]
    | char char =>
      simp only [List.cons_append, meaning, settled, inductionHypothesis, List.append_assoc]
      split <;> rfl

/-- A byte that is played is sent after PTT, and a half gap ends behind it. -/
theorem meaning_char (opened : Bool) (gap speed : Int) (tokens : List Token) (char : UInt8) :
    ∃ back, (back = [] ∨ back = [.gap 0]) ∧ meaning opened gap speed (tokens ++ [.char char]) =
      meaning opened gap speed tokens ++ .ptt :: (sent char ++ .readGap :: back) := by
  rw [meaning_append]
  by_cases half : (settled opened gap speed tokens).1 = 2
  · exact ⟨[.gap 0], .inr rfl, by simp [meaning, half]⟩
  · exact ⟨[], .inl rfl, by simp [meaning, half]⟩

theorem settled_append (opened : Bool) (gap speed : Int) (first second : List Token) :
    settled opened gap speed (first ++ second) =
      settled opened (settled opened gap speed first).1 (settled opened gap speed first).2 second := by
  induction first generalizing gap speed with
  | nil => rfl
  | cons token rest inductionHypothesis => cases token <;> exact inductionHypothesis _ _

/-- The gap is 0 or 2 all the time. -/
theorem settled_gap (opened : Bool) {gap : Int} (speed : Int) (level : gap = 0 ∨ gap = 2) (tokens : List Token) :
    (settled opened gap speed tokens).1 = 0 ∨ (settled opened gap speed tokens).1 = 2 := by
  induction tokens generalizing gap speed with
  | nil => exact level
  | cons token rest inductionHypothesis =>
    cases token with
    | speed => exact inductionHypothesis _ level
    | halfGap => exact inductionHypothesis _ (by cases opened <;> simp [State.reportedGap])
    | char => exact inductionHypothesis _ (by rcases level with rfl | rfl <;> simp)

/-- It is 0 after a byte that is played. -/
theorem settled_char (opened : Bool) {gap : Int} (speed : Int) (level : gap = 0 ∨ gap = 2) (tokens : List Token)
    (char : UInt8) : (settled opened gap speed (tokens ++ [.char char])).1 = 0 := by
  rw [settled_append]
  rcases settled_gap opened speed level tokens with zero | two
  · simp [settled, zero]
  · simp [settled, two]

/-- In the middle of a run a sign changes the speed by 2. -/
theorem meaning_joinSign (opened : Bool) (gap speed : Int) (sign : UInt8) (plus minus : Nat) (rest : List Token) :
    meaning opened gap speed (joinSign sign (.speed plus minus :: rest)) =
      meaning opened gap (speed + if sign = byte '+' then 2 else -2) (.speed plus minus :: rest) := by
  have same (difference : Int) (total : Int) (equal : total = difference) :
      Command.speed (clampSpeed total) :: meaning opened gap (clampSpeed total) rest =
        .speed (clampSpeed difference) :: meaning opened gap (clampSpeed difference) rest := by rw [equal]
  simp only [joinSign]
  split
  · exact same _ _ (by omega)
  · exact same _ _ (by omega)

/-- At the end of a run the speed is clamped and set. -/
theorem meaning_joinSign_last (opened : Bool) (gap speed : Int) (sign : UInt8) {tokens : List Token}
    (last : ∀ plus minus rest, tokens ≠ .speed plus minus :: rest) :
    meaning opened gap speed (joinSign sign tokens) =
      .speed (clampSpeed (speed + if sign = byte '+' then 2 else -2)) ::
        meaning opened gap (clampSpeed (speed + if sign = byte '+' then 2 else -2)) tokens := by
  have alone : joinSign sign ([] ++ tokens) = joinSign sign [] ++ tokens := joinSign_append sign fun _ => last
  rw [List.nil_append] at alone
  rw [alone]
  simp only [joinSign]
  split <;> rfl

theorem meaning_silent (opened : Bool) {found : Nat} (gap speed : Int) (tokens : List Token) :
    .reply found ∉ meaning opened gap speed tokens := by
  induction tokens generalizing gap speed with
  | nil => simp [meaning]
  | cons token rest inductionHypothesis =>
    cases token with
    | speed plus minus => simp [meaning, inductionHypothesis]
    | halfGap => simp [meaning, inductionHypothesis]
    | char char =>
      simp only [meaning, sent, List.mem_cons, List.mem_append, reduceCtorEq, false_or]
      split <;> split <;> simp [inductionHypothesis]

def Command.isReplace : Command → Bool
  | .replace _ => true
  | _ => false

namespace State

theorem characterCommands_sent (index : Nat) (char : UInt8) :
    (characterCommands index char).filter (!·.isReplace) = .ptt :: (sent char ++ [.readGap]) := by
  by_cases star : char = byte '*'
  · subst star
    rfl
  · have same : played char = char := if_neg star
    by_cases silent : char = 0xff
    · subst silent
      rfl
    · simp [characterCommands, sent, star, same, silent, Command.isReplace]

/-- The program of a text without a caret is its meaning, but for the edits of the
request queue. -/
theorem program_meaning (opened lookAhead : Bool) (index : Nat) (gap speed : Int) {text : Bytes}
    (caretFree : byte '^' ∉ text) :
    (program opened lookAhead index gap speed text).filter (!·.isReplace) =
      (if lookAhead then [.gap 0] else []) ++
        meaning opened (if lookAhead then 0 else gap) speed (tokens text) := by
  induction text generalizing lookAhead index gap speed with
  | nil => cases lookAhead <;> rfl
  | cons char rest inductionHypothesis =>
    obtain ⟨uncut, later⟩ : char ≠ byte '^' ∧ byte '^' ∉ rest := by
      simpa [eq_comm] using caretFree
    have next (gap speed : Int) : (program opened false (index + 1) gap speed rest).filter (!·.isReplace) =
        meaning opened gap speed (tokens rest) := inductionHypothesis false (index + 1) gap speed later
    have reset : (if lookAhead then [Command.gap 0] else []).filter (!·.isReplace) =
        if lookAhead then [Command.gap 0] else [] := by cases lookAhead <;> rfl
    have level : (if lookAhead then reportedGap opened 0 else gap) = if lookAhead then 0 else gap := by
      simp [reportedGap]
    simp only [program, uncut, decide_false, Bool.and_false, Bool.false_eq_true, if_false, level,
      List.filter_append, reset]
    generalize (if lookAhead then 0 else gap) = gap
    congr 1
    simp only [tokens]
    split
    case isTrue sign =>
      split
      case isTrue more =>
        obtain ⟨plus, minus, tail, read⟩ := (tokens_head rest).mpr more
        rw [next, read, meaning_joinSign]
      case isFalse last =>
        have unsigned : ∀ plus minus tail, tokens rest ≠ .speed plus minus :: tail := fun plus minus tail read =>
          last ((tokens_head rest).mp ⟨plus, minus, tail, read⟩)
        rw [meaning_joinSign_last opened gap speed char unsigned, ← next]
        rfl
    case isFalse =>
      split
      case isTrue => simp only [List.filter_cons, meaning, next]; rfl
      case isFalse =>
        rw [List.filter_append, inductionHypothesis _ _ _ _ later]
        rw [characterCommands_sent]
        by_cases half : gap = 2
        · simp [meaning, half]
        · simp [meaning, half]

/-! ## Playing a text is executing its meaning -/

section Executing

variable (world : World)

/-- The edits of the request queue do not matter as long as the queue is not emptied. -/
theorem Alike.execAll_edits {first second : State} (alike : Alike .sameBusy first second) {commands : List Command}
    (silent : ∀ command ∈ commands, ∀ index, command ≠ .reply index) :
    Alike .sameBusy (State.execAll world commands first)
      (State.execAll world (commands.filter (!·.isReplace)) second) := by
  induction commands generalizing first second with
  | nil => exact alike
  | cons command commands inductionHypothesis =>
    have rest := fun command member => silent command (List.mem_cons_of_mem _ member)
    by_cases edit : ∃ index, command = .replace index
    · obtain ⟨index, rfl⟩ := edit
      have poked : first.requestQueue.bytes.set index (byte '+') = [] ↔ first.requestQueue.bytes = [] :=
        List.set_eq_nil_iff _ _
      exact inductionHypothesis { alike with requestQueue := poked.trans alike.requestQueue } rest
    · have kept : (!command.isReplace) = true := by
        cases command with
        | replace index => exact absurd ⟨index, rfl⟩ edit
        | speed | gap | readGap | ptt | send | reply => rfl
      rw [List.filter_cons, if_pos kept]
      exact inductionHypothesis (alike.exec world (silent command (by simp))) rest

theorem program_silent (opened lookAhead : Bool) (index : Nat) (gap speed : Int) {text : Bytes}
    (caretFree : byte '^' ∉ text) :
    ∀ command ∈ program opened lookAhead index gap speed text, ∀ found, command ≠ .reply found := by
  rintro _ member found rfl
  have kept : .reply found ∈ (program opened lookAhead index gap speed text).filter (!·.isReplace) :=
    List.mem_filter.mpr ⟨member, rfl⟩
  rw [program_meaning opened lookAhead index gap speed caretFree] at kept
  rcases List.mem_append.mp kept with reset | member
  · cases lookAhead <;> simp at reset
  · exact meaning_silent _ _ _ _ member

/-- The commands that a text means in this state. -/
def commandsOf (text : Bytes) (state : State) : List Command :=
  meaning state.libcw.generator.isSome state.gap state.current.morseSpeed (tokens text)

theorem program_commandsOf {text : Bytes} {state : State} (caretFree : byte '^' ∉ text) :
    (state.programOf text).filter (!·.isReplace) = state.commandsOf text :=
  program_meaning _ false 0 _ _ caretFree

theorem playLoop_commandsOf {text : Bytes} (caretFree : byte '^' ∉ text) (state : State) :
    Alike .sameBusy (playLoop world false 0 text state) (execAll world (state.commandsOf text) state) := by
  rw [playLoop_eq, ← program_commandsOf caretFree]
  exact Alike.execAll_edits world (.refl (fun _ => Iff.rfl) state) (program_silent _ false 0 _ _ caretFree)

/-- After the commands that tokens mean, gap and speed are settled as the tokens say. -/
theorem execAll_meaning {opened : Bool} {gap speed : Int} (tokens : List Token) {state : State}
    (known : state.libcw.generator.isSome = opened ∧ state.gap = gap ∧ state.current.morseSpeed = speed) :
    (execAll world (meaning opened gap speed tokens) state).libcw.generator.isSome = opened ∧
      (execAll world (meaning opened gap speed tokens) state).gap = (settled opened gap speed tokens).1 ∧
      (execAll world (meaning opened gap speed tokens) state).current.morseSpeed =
        (settled opened gap speed tokens).2 := by
  induction tokens generalizing gap speed state with
  | nil => exact known
  | cons token rest inductionHypothesis =>
    obtain ⟨generator, level, current⟩ := known
    cases token with
    | speed plus minus =>
      refine inductionHypothesis ?_
      obtain ⟨set, tuning⟩ := exec_speed world (clampSpeed (speed + 2 * ((plus : Int) - minus))) state
      refine ⟨?_, ?_, by rw [set]⟩
      · rw [← tuning_isSome, tuning, Option.isSome_map, tuning_isSome, generator]
      · rw [← level, gap_of_tuning (tuning.trans (cwSetSendSpeed_tuning _ state).symm)]
        cases opened : state.libcw.generator <;> simp [State.gap, opened]
    | halfGap =>
      refine inductionHypothesis ?_
      obtain ⟨gap, same⟩ := gap_exec world 2 state
      exact ⟨same.trans generator, gap.trans (by rw [generator]), by rw [(exec_gap world 2 state).1, current]⟩
    | char char =>
      have quiet : ∀ command ∈ (.ptt :: (sent char ++ [.readGap]) : List Command),
          (∀ wpm, command ≠ .speed wpm) ∧ ∀ dots, command ≠ .gap dots := by
        unfold sent
        split <;> simp
      have played := sameTuning_execAll world state quiet
      have kept : (execAll world (.ptt :: (sent char ++ [.readGap])) state).libcw.generator.isSome = opened :=
        played.opened.trans generator
      have speaks : (execAll world (.ptt :: (sent char ++ [.readGap])) state).current.morseSpeed = speed := by
        rw [played.current, current]
      have split : meaning opened gap speed (.char char :: rest) = (.ptt :: (sent char ++ [.readGap])) ++
          if gap = 2 then .gap 0 :: meaning opened 0 speed rest else meaning opened gap speed rest := by
        simp [meaning]
      rw [split, execAll_append, settled]
      by_cases half : gap = 2
      · simp only [if_pos half]
        refine inductionHypothesis ?_
        obtain ⟨back, same⟩ := gap_exec world 0 (execAll world (.ptt :: (sent char ++ [.readGap])) state)
        exact ⟨same.trans kept, back.trans (by simp [reportedGap]), by rw [(exec_gap world 0 _).1, speaks]⟩
      · simp only [if_neg half]
        exact inductionHypothesis ⟨kept, played.gap.trans level, speaks⟩

end Executing

end State

/-! ## What libcw is asked -/

/-- What a call asks of libcw for a text. -/
def Call.asks : Call → Option Command
  | .setSendSpeed wpm => some (.speed wpm)
  | .setGap dots => some (.gap dots)
  | .getGap => some .readGap
  | .sendCharacter char _ => some (.send char)
  | _ => none

/-- The calls about PTT, and those of libcw's thread. -/
def Call.isAside : Call → Bool
  | .devicePtt _ _ | .ioctlLines _ _ _ | .dequeued _ | .sendto _ _ => true
  | .queueTone usecs frequency => usecs == 1 && frequency == 0
  | _ => false

def Aside (entry : Entry) : Prop := entry.call.isAside = true

def Command.isAsked : Command → Bool
  | .speed _ | .gap _ | .readGap | .send _ => true
  | .ptt | .replace _ | .reply _ => false

namespace State

/-- libcw was asked for these commands in this order, and for nothing else. -/
def Asks (commands : List Command) (before after : State) : Prop :=
  ∃ new, after.log = before.log ++ new ∧ new.filterMap (·.call.asks) = commands ∧
    ∀ entry ∈ new, entry.call.asks = none → Aside entry

variable {before after : State}

theorem Asks.trans {earlier later : List Command} {first second third : State} (asks : Asks earlier first second)
    (asks' : Asks later second third) : Asks (earlier ++ later) first third := by
  obtain ⟨new, appended, asked, asides⟩ := asks
  obtain ⟨new', appended', asked', asides'⟩ := asks'
  refine ⟨new ++ new', by rw [appended', appended, List.append_assoc], by rw [List.filterMap_append, asked, asked'],
    fun entry member => ?_⟩
  exact (List.mem_append.mp member).elim (asides entry) (asides' entry)

theorem Adds.asks (adds : Adds Aside before after) : Asks [] before after := by
  obtain ⟨new, appended, asides⟩ := adds
  refine ⟨new, appended, List.filterMap_eq_nil_iff.mpr fun entry member => ?_, fun entry member _ => asides entry member⟩
  have aside := asides entry member
  unfold Aside at aside
  cases call : entry.call <;> simp [call, Call.isAside] at aside <;> rfl

theorem asks_record {call : Call} {command : Command} (asked : call.asks = some command) (state : State) :
    Asks [command] state (state.record call) :=
  ⟨[⟨call, state.moment⟩], rfl, by simp [asked], by simp [asked]⟩

theorem asks_callGenerator {call : Call} {command : Command} (asked : call.asks = some command)
    (change : Generator → Generator) (state : State) : Asks [command] state (state.callGenerator call change) :=
  ⟨[⟨call, state.moment⟩], rfl, by simp [asked], by simp [asked]⟩

theorem aside_devicePtt (type : DeviceType) (on : Bool) (state : State) :
    Adds Aside state (state.devicePtt type on) := by
  have recorded : Adds Aside state (state.record (.devicePtt type on)) := .record rfl
  have told := recorded.trans (adds_setDevice type { state.devices type with pttCommand := some on } _)
  cases type with
  | ttys =>
    have lines (mask : BitVec 32) (state : State) : Adds Aside state (state.ttysLines on mask) := by
      unfold ttysLines
      split
      · exact .refl _ _
      · exact .record rfl
    exact told.trans (lines _ _)
  | lp | null => exact told

theorem aside_setPttOn (state : State) : Adds Aside state state.setPttOn := by
  unfold setPttOn
  split
  · exact (aside_devicePtt _ _ state).trans (.of_log_eq rfl)
  · exact .refl _ state

theorem aside_toneQueueLowCallback (state : State) : Adds Aside state state.toneQueueLowCallback := by
  have answers : Adds Aside state state.answered := by
    unfold answered sendto
    simp only
    split
    · exact ⟨_, rfl, by simp [Aside, Call.isAside]⟩
    · exact .of_log_eq rfl
  have silence (state : State) : Adds Aside state (state.cwQueueTone 1 0) := .callGenerator _ rfl
  rw [toneQueueLowCallback_eq]
  split
  · exact (aside_devicePtt _ _ state).trans (.of_log_eq rfl)
  · split
    · split
      · exact (answers.trans (silence _)).trans (silence _)
      · exact answers
    · exact .refl _ state

theorem aside_dequeue (state : State) : Adds Aside state state.dequeue := by
  rcases state.dequeue_cases with same | ⟨generator, tone, tones, -, -, -, dequeued⟩
  · rw [same]
    exact .refl _ state
  · have taken : Adds Aside state (state.taken generator tone tones) :=
      ⟨[⟨.dequeued tone, state.moment⟩], rfl, by simp [Aside, Call.isAside]⟩
    rw [dequeued]
    split
    · exact taken.trans (aside_toneQueueLowCallback _)
    · exact taken

theorem aside_serve (world : World) (state : State) : Adds Aside state (state.serve world) := by
  unfold serve
  generalize world.during state.log.length = count
  induction count generalizing state with
  | zero => exact .refl _ state
  | succ count inductionHypothesis => exact (aside_dequeue state).trans (inductionHypothesis _)

theorem asks_served {command : Command} (world : World) {call : State → State}
    (asks : ∀ state, Asks [command] state (call state)) (state : State) :
    Asks [command] state (state.served world call) :=
  ((aside_serve world state).asks.trans (asks _)).trans (aside_serve world _).asks

theorem asks_exec (world : World) {command : Command} (silent : ∀ index, command ≠ .reply index) (state : State) :
    Asks ([command].filter Command.isAsked) state (state.exec world command) := by
  cases command with
  | speed wpm => exact asks_served world (asks_callGenerator rfl _) (state.setMorseSpeed wpm)
  | gap dots => exact asks_served world (asks_callGenerator rfl _) state
  | readGap => exact asks_served world (asks_record rfl) state
  | ptt => exact (aside_setPttOn state).asks
  | send char =>
    have asks (state : State) : Asks [.send char] state (state.cwSendCharacter world char) :=
      asks_callGenerator rfl _ state
    exact asks_served world asks state
  | replace index => exact (Adds.of_log_eq rfl).asks
  | reply index => exact absurd rfl (silent index)

theorem asks_execAll (world : World) {commands : List Command}
    (silent : ∀ command ∈ commands, ∀ index, command ≠ .reply index) (state : State) :
    Asks (commands.filter Command.isAsked) state (execAll world commands state) := by
  induction commands generalizing state with
  | nil => exact (Adds.refl _ state).asks
  | cons command commands inductionHypothesis =>
    have first := asks_exec world (silent command (by simp)) state
    have rest := inductionHypothesis (fun later member => silent later (by simp [member])) (state.exec world command)
    rw [← List.singleton_append, List.filter_append]
    exact first.trans rest

/-! ## Texts in the request queue -/

def enqueue (text : Bytes) (state : State) : State :=
  { state with requestQueue := state.requestQueue.append text }

/-- A text is put into the request queue and played. -/
def playText (world : World) (text : Bytes) (state : State) : State := (state.enqueue text).playRequest world

/-- The text is played as it reads. -/
structure PlayedAsRead (world : World) (text : Bytes) (state : State) : Prop where
  asks : Asks ((state.commandsOf text).filter Command.isAsked) state (state.playText world text)
  effect : Alike (.sameQueue true True) (state.playText world text)
    (execAll world (state.commandsOf text) (state.enqueue text)).clearRequestQueue
  /-- PTT is asked for before a byte that is played, and the gap is 0 behind it. -/
  enclosed : ∀ front char rest, text = front ++ char :: rest → isPlayed char = true →
    ∃ earlier back later, (back = [] ∨ back = [.gap 0]) ∧
      state.commandsOf text = earlier ++ (.ptt :: (sent char ++ .readGap :: back)) ++ later ∧
      (execAll world (earlier ++ (.ptt :: (sent char ++ .readGap :: back))) (state.enqueue text)).gap = 0
  emptied : (state.playText world text).requestQueue.bytes = []
  /-- Two texts, one after the other, are like one. -/
  divided : ∀ first second, text = first ++ second → Separate first second →
    Alike (.sameQueue true True) ((state.playText world first).playText world second) (state.playText world text)

variable {state : State} {world : World} {text : Bytes}

theorem enqueue_bytes (idle : state.requestQueue.bytes = []) (nulFree : 0 ∉ text)
    (fits : text.length < CWDAEMON_REQUEST_QUEUE_SIZE_MAX) : (state.enqueue text).requestQueue.bytes = text := by
  have appended := state.requestQueue.append_bytes_of_fits nulFree (by rw [idle]; simpa using fits)
  rwa [idle, List.nil_append] at appended

theorem playText_commandsOf (text : Bytes) (idle : state.requestQueue.bytes = []) (nulFree : 0 ∉ text)
    (caretFree : byte '^' ∉ text) (fits : text.length < CWDAEMON_REQUEST_QUEUE_SIZE_MAX) (world : World) :
    state.playText world text = (playLoop world false 0 text (state.enqueue text)).clearRequestQueue ∧
      Alike .sameBusy (playLoop world false 0 text (state.enqueue text))
        (execAll world (state.commandsOf text) (state.enqueue text)) := by
  refine ⟨?_, playLoop_commandsOf world caretFree (state.enqueue text)⟩
  rw [playText, playRequest, enqueue_bytes idle nulFree fits]
  rfl

/-- Once the request queues are emptied, they are the same. -/
theorem Alike.emptied {first second : State} (alike : Alike .sameBusy first second) :
    Alike (.sameQueue true True) first.clearRequestQueue second.clearRequestQueue :=
  { alike with requestQueue := rfl }

theorem commandsOf_silent (text : Bytes) (state : State) :
    ∀ command ∈ state.commandsOf text, ∀ index, command ≠ .reply index := by
  rintro _ member index rfl
  exact meaning_silent _ _ _ _ member

/-- What a text means goes on where the text before has ended. -/
theorem commandsOf_append {first second : Bytes} (separate : Separate first second) {after : State}
    (settles : Alike (.sameQueue true True) after
      (execAll world (state.commandsOf first) (state.enqueue first)).clearRequestQueue) :
    state.commandsOf (first ++ second) = state.commandsOf first ++ after.commandsOf second := by
  have settled := execAll_meaning world (tokens first)
    (And.intro (Eq.refl (state.enqueue first).libcw.generator.isSome) ⟨rfl, rfl⟩)
  have opened : after.libcw.generator.isSome = state.libcw.generator.isSome := by
    rw [settles.libcw]
    exact settled.1
  have gap := settles.gap.trans settled.2.1
  have speed := (congrArg Params.morseSpeed settles.current).trans settled.2.2
  unfold commandsOf
  rw [tokens_append separate, meaning_append, opened, gap, speed]
  rfl

/-- Two texts, one after the other, do what one text does. -/
theorem playText_append (idle : state.requestQueue.bytes = []) {first second : Bytes} (nulFree : 0 ∉ first ++ second)
    (caretFree : byte '^' ∉ first ++ second) (fits : (first ++ second).length < CWDAEMON_REQUEST_QUEUE_SIZE_MAX)
    (separate : Separate first second) (world : World) :
    Alike (.sameQueue true True) ((state.playText world first).playText world second)
      (state.playText world (first ++ second)) := by
  obtain ⟨whole, asWhole⟩ := playText_commandsOf (first ++ second) idle nulFree caretFree fits world
  simp only [List.mem_append, not_or, List.length_append] at nulFree caretFree fits
  obtain ⟨earlier, asEarlier⟩ := playText_commandsOf first idle nulFree.1 caretFree.1 (by omega) world
  have idle' : (state.playText world first).requestQueue.bytes = [] := by
    rw [earlier]
    rfl
  obtain ⟨later, asLater⟩ := playText_commandsOf second idle' nulFree.2 caretFree.2 (by omega) world
  have busyRefl (state : State) : Alike .sameBusy state state := .refl (fun _ => Iff.rfl) state
  have busyTrans {first second third : State} (alike : Alike .sameBusy first second)
      (alike' : Alike .sameBusy second third) : Alike .sameBusy first third :=
    alike.trans (fun _ _ _ => Iff.trans) alike'
  by_cases nothing : second = []
  · -- Playing nothing only empties the queue, which is empty.
    subst nothing
    have again : Alike (.sameQueue true True) ((state.playText world first).playText world [])
        (state.playText world first) := by
      rw [later]
      have same : Alike (.sameQueue true True) (state.playText world first) (state.playText world first) :=
        .refl (fun _ => rfl) _
      exact { same with requestQueue := idle'.symm }
    rwa [List.append_nil]
  · -- The queue is emptied between the texts; apart from that the first one ends as it does in the whole.
    have busy : (state.enqueue (first ++ second)).requestQueue.bytes ≠ [] := by
      rw [enqueue_bytes idle (by simpa using nulFree) (by simpa using fits)]
      simp [nothing]
    have continued : Alike .sameBusy ((state.playText world first).enqueue second)
        (execAll world (state.commandsOf first) (state.enqueue (first ++ second))) := by
      have filled : ((state.playText world first).enqueue second).requestQueue.bytes ≠ [] := by
        rw [enqueue_bytes idle' nulFree.2 (by omega)]
        exact nothing
      by_cases none : first = []
      · subst none
        rw [earlier] at filled ⊢
        exact { busyRefl state with requestQueue := iff_of_false filled busy }
      · have started : Alike .sameBusy (state.enqueue first) (state.enqueue (first ++ second)) := by
          refine { busyRefl state with requestQueue := iff_of_false ?_ busy }
          rw [enqueue_bytes idle nulFree.1 (by omega)]
          exact none
        have ended := busyTrans asEarlier (started.execAll world (commandsOf_silent first state))
        have stays := mt (execAll_idle world (commandsOf_silent first state) _).mp busy
        rw [earlier] at filled ⊢
        exact { ended with requestQueue := iff_of_false filled stays }
    have asEarlier' := asEarlier.emptied
    rw [← earlier] at asEarlier'
    have commands := commandsOf_append separate asEarlier'
    rw [later, whole]
    refine Alike.emptied (busyTrans asLater (busyTrans ?_ (asWhole.symm fun _ _ => Iff.symm)))
    rw [commands, execAll_append]
    exact continued.execAll world (commandsOf_silent second _)

/-- A byte that is played is a token of its own. -/
theorem enclosed_commandsOf (front : Bytes) {char : UInt8} (rest : Bytes) (sounds : isPlayed char = true)
    (level : state.gap = 0 ∨ state.gap = 2) (world : World) :
    ∃ earlier back later, (back = [] ∨ back = [.gap 0]) ∧
      state.commandsOf (front ++ char :: rest) = earlier ++ (.ptt :: (sent char ++ .readGap :: back)) ++ later ∧
      (execAll world (earlier ++ (.ptt :: (sent char ++ .readGap :: back)))
        (state.enqueue (front ++ char :: rest))).gap = 0 := by
  have unsigned : isSpeedSign char = false := by
    simp only [isPlayed, Bool.and_eq_true, Bool.not_eq_true'] at sounds
    exact sounds.1
  have separate : Separate front (char :: rest) := by simp [Separate, unsigned]
  have read : tokens (front ++ char :: rest) = (tokens front ++ [.char char]) ++ tokens rest := by
    rw [tokens_append separate, tokens_played rest sounds, List.append_assoc]
    rfl
  obtain ⟨back, reset, closes⟩ :=
    meaning_char state.libcw.generator.isSome state.gap state.current.morseSpeed (tokens front) char
  have ends : (execAll world (meaning state.libcw.generator.isSome state.gap state.current.morseSpeed
      (tokens front ++ [.char char])) (state.enqueue (front ++ char :: rest))).gap = 0 := by
    have settles := (execAll_meaning world (tokens front ++ [.char char])
      (And.intro (Eq.refl (state.enqueue (front ++ char :: rest)).libcw.generator.isSome) ⟨rfl, rfl⟩)).2.1
    exact settles.trans (settled_char _ _ level _ _)
  rw [closes] at ends
  rw [commandsOf, read, meaning_append, closes]
  exact ⟨_, back, _, reset, rfl, ends⟩

theorem playedAsRead (text : Bytes) (idle : state.requestQueue.bytes = []) (level : state.gap = 0 ∨ state.gap = 2)
    (nulFree : 0 ∉ text) (caretFree : byte '^' ∉ text) (fits : text.length < CWDAEMON_REQUEST_QUEUE_SIZE_MAX)
    (world : World) : PlayedAsRead world text state := by
  obtain ⟨plays, asCommands⟩ := playText_commandsOf text idle nulFree caretFree fits world
  refine ⟨?_, ?_, fun front char rest equal sounds => ?_, ?_, fun first second equal separate => ?_⟩
  · obtain ⟨new, appended, asked, asides⟩ := asks_execAll world
      (program_silent state.libcw.generator.isSome false 0 state.gap state.current.morseSpeed caretFree)
      (state.enqueue text)
    have same : (state.programOf text).filter Command.isAsked = (state.commandsOf text).filter Command.isAsked := by
      rw [← program_commandsOf caretFree, List.filter_filter]
      congr 1
      funext command
      cases command <;> rfl
    refine ⟨new, ?_, asked.trans same, asides⟩
    rw [plays, playLoop_eq]
    exact appended
  · rw [plays]
    exact asCommands.emptied
  · subst equal
    exact enclosed_commandsOf front rest sounds level world
  · rw [plays]
    rfl
  · subst equal
    exact playText_append idle nulFree caretFree fits separate world

end State

open State

/-- In every reachable state, every text without a caret is played as it reads. -/
theorem caret_free_text_is_played_as_read {state : State} (reachable : Reachable state) (world : World) {text : Bytes}
    (nulFree : 0 ∉ text) (caretFree : byte '^' ∉ text) (fits : text.length < CWDAEMON_REQUEST_QUEUE_SIZE_MAX) :
    (state.gap = 0 ∨ state.gap = 2) ∧ PlayedAsRead world text state := by
  have regulated := reachable.regulated
  exact ⟨regulated.gap, playedAsRead text regulated.wellformed.idle regulated.gap nulFree caretFree fits world⟩

/-- Faster by 4, a half gap behind `e`, a `*` that is sent as `+`, a byte that is not sent. -/
theorem caret_free_text_is_played_as_read_on_serial_port :
    (onSerialPort.gap = 0 ∨ onSerialPort.gap = 2) ∧
      PlayedAsRead calm [byte '+', byte '+', byte '~', byte 'e', byte '*', 0xff] onSerialPort :=
  caret_free_text_is_played_as_read ⟨onSerialPort, [], started_onSerialPort, rfl⟩ calm (by decide) (by decide) (by decide)

example : onSerialPort.commandsOf [byte '+', byte '+', byte '~', byte 'e', byte '*', 0xff] =
    [.speed 28, .gap 2, .ptt, .send (byte 'e'), .readGap, .gap 0, .ptt, .send (byte '+'), .readGap, .ptt, .readGap] := by
  decide +kernel

end Cwdaemon
