import Cwdaemon.Verified.Meaning
import Cwdaemon.Verified.ReplyAfterText

/-! # Carets

A caret ends a text and asks for what is in front of it as a reply.  The text loop looks
for a caret in two places, and in one of them it steps over it: behind a byte that is
played with a half gap the caret is no caret, the text goes on and the gap stays 2.
-/

namespace Cwdaemon

open Mailbox (Mail)

/-! ## The last half gap of a text -/

/-- The text ends in a byte that is played with a half gap.  No byte is played between it
and the `~` in front, or from the start, when the gap was 2 before the text. -/
def HalfGapped (opened : Bool) (gap : Int) (text : Bytes) : Prop :=
  ∃ signs char, isPlayed char = true ∧ (∀ sign ∈ signs, isPlayed sign = false) ∧
    (text = signs ++ [char] ∧ gap = 2 ∨ opened = true ∧ ∃ front, text = front ++ byte '~' :: (signs ++ [char]))

variable {opened : Bool} {gap : Int} {char : UInt8} {rest : Bytes}

theorem not_halfGapped_nil : ¬ HalfGapped opened gap [] := by
  rintro ⟨signs, char, -, -, ⟨empty, -⟩ | ⟨-, front, empty⟩⟩ <;> simp at empty

/-- No text has more half gaps than with a gap of 2 at the start. -/
theorem HalfGapped.widest {text : Bytes} (half : HalfGapped opened gap text) :
    HalfGapped true 2 text := by
  obtain ⟨signs, char, sounds, directives, ⟨split, -⟩ | ⟨-, front, split⟩⟩ := half
  · exact ⟨signs, char, sounds, directives, .inl ⟨split, rfl⟩⟩
  · exact ⟨signs, char, sounds, directives, .inr ⟨rfl, front, split⟩⟩

/-- A byte that is played takes the gap back. -/
theorem halfGapped_played (sounds : isPlayed char = true) :
    HalfGapped opened gap (char :: rest) ↔ rest = [] ∧ gap = 2 ∨ HalfGapped opened 0 rest := by
  constructor
  · rintro ⟨signs, last, sounds', directives, ⟨split, half⟩ | ⟨opened, front, split⟩⟩
    · cases signs with
      | nil => exact .inl ⟨(List.cons.inj split).2, half⟩
      | cons sign signs =>
        obtain ⟨rfl, -⟩ := List.cons.inj split
        simp [directives char (by simp)] at sounds
    · cases front with
      | nil =>
        obtain ⟨rfl, -⟩ := List.cons.inj split
        exact absurd sounds (by decide)
      | cons first front =>
        exact .inr ⟨signs, last, sounds', directives, .inr ⟨opened, front, (List.cons.inj split).2⟩⟩
  · rintro (⟨rfl, half⟩ | ⟨signs, last, sounds', directives, ⟨-, zero⟩ | ⟨opened, front, rfl⟩⟩)
    · exact ⟨[], char, sounds, by simp, .inl ⟨rfl, half⟩⟩
    · cases zero
    · exact ⟨signs, last, sounds', directives, .inr ⟨opened, char :: front, rfl⟩⟩

theorem halfGapped_sign (silent : isPlayed char = false) (sign : char ≠ byte '~') :
    HalfGapped opened gap (char :: rest) ↔ HalfGapped opened gap rest := by
  constructor
  · rintro ⟨signs, last, sounds, directives, ⟨split, half⟩ | ⟨opened, front, split⟩⟩
    · cases signs with
      | nil =>
        obtain ⟨rfl, -⟩ := List.cons.inj split
        simp [silent] at sounds
      | cons first signs =>
        obtain ⟨-, later⟩ := List.forall_mem_cons.mp directives
        exact ⟨signs, last, sounds, later, .inl ⟨(List.cons.inj split).2, half⟩⟩
    · cases front with
      | nil => exact absurd (List.cons.inj split).1 sign
      | cons first front => exact ⟨signs, last, sounds, directives, .inr ⟨opened, front, (List.cons.inj split).2⟩⟩
  · rintro ⟨signs, last, sounds, directives, ⟨rfl, half⟩ | ⟨opened, front, rfl⟩⟩
    · exact ⟨char :: signs, last, sounds, List.forall_mem_cons.mpr ⟨silent, directives⟩, .inl ⟨rfl, half⟩⟩
    · exact ⟨signs, last, sounds, directives, .inr ⟨opened, char :: front, rfl⟩⟩

/-- Without a generator there is no gap to be set. -/
theorem halfGapped_tilde (known : gap = 2 → opened = true) :
    HalfGapped opened gap (byte '~' :: rest) ↔ HalfGapped opened (State.reportedGap opened 2) rest := by
  have reported : State.reportedGap opened 2 = 2 ↔ opened = true := by cases opened <;> simp [State.reportedGap]
  constructor
  · rintro ⟨signs, last, sounds, directives, ⟨split, half⟩ | ⟨opened, front, split⟩⟩
    · cases signs with
      | nil =>
        obtain ⟨rfl, -⟩ := List.cons.inj split
        exact absurd sounds (by decide)
      | cons first signs =>
        obtain ⟨-, later⟩ := List.forall_mem_cons.mp directives
        exact ⟨signs, last, sounds, later, .inl ⟨(List.cons.inj split).2, reported.mpr (known half)⟩⟩
    · cases front with
      | nil => exact ⟨signs, last, sounds, directives, .inl ⟨(List.cons.inj split).2, reported.mpr opened⟩⟩
      | cons first front => exact ⟨signs, last, sounds, directives, .inr ⟨opened, front, (List.cons.inj split).2⟩⟩
  · rintro ⟨signs, last, sounds, directives, ⟨rfl, half⟩ | ⟨opened, front, rfl⟩⟩
    · exact ⟨signs, last, sounds, directives, .inr ⟨reported.mp half, [], rfl⟩⟩
    · exact ⟨signs, last, sounds, directives, .inr ⟨opened, byte '~' :: front, rfl⟩⟩

namespace State

/-- The text loop looks ahead when it has read the text. -/
def looksAhead (opened : Bool) : Bool → Int → Bytes → Bool
  | lookAhead, _, [] => lookAhead
  | lookAhead, gap, char :: rest =>
    let gap := if lookAhead then reportedGap opened 0 else gap
    if isSpeedSign char then looksAhead opened false gap rest
    else if char = byte '~' then looksAhead opened false (reportedGap opened 2) rest
    else looksAhead opened (gap = 2) gap rest

theorem looksAhead_iff (lookAhead : Bool) (text : Bytes) (known : gap = 2 → opened = true) :
    looksAhead opened lookAhead gap text = true ↔
      lookAhead = true ∧ text = [] ∨ HalfGapped opened (if lookAhead then 0 else gap) text := by
  induction text generalizing lookAhead gap with
  | nil => simp [looksAhead, not_halfGapped_nil]
  | cons char rest inductionHypothesis =>
    have level : (if lookAhead then reportedGap opened 0 else gap) = if lookAhead then 0 else gap := by
      simp [reportedGap]
    have known' : (if lookAhead then 0 else gap) = 2 → opened = true := by
      split
      · simp
      · exact known
    simp only [looksAhead, level]
    generalize (if lookAhead then 0 else gap) = gap at known'
    by_cases sign : isSpeedSign char = true
    · have unequal : char ≠ byte '~' := by
        rintro rfl
        exact absurd sign (by decide)
      rw [if_pos sign, inductionHypothesis false known', halfGapped_sign (by simp [isPlayed, sign]) unequal]
      simp
    · rw [if_neg sign]
      by_cases tilde : char = byte '~'
      · have opens : reportedGap opened 2 = 2 → opened = true := by cases opened <;> simp [reportedGap]
        rw [if_pos tilde, inductionHypothesis false opens, tilde, halfGapped_tilde known']
        simp
      · have sounds : isPlayed char = true := by simp [isPlayed, sign, tilde]
        rw [if_neg tilde, inductionHypothesis _ known', halfGapped_played sounds]
        by_cases half : gap = 2
        · simp [half, and_comm]
        · -- A gap that is not 2 does not matter behind a byte that is played.
          have same : HalfGapped opened gap rest ↔ HalfGapped opened 0 rest := by
            simp [HalfGapped, half]
          simp [half, same]

theorem looksAhead_start (text : Bytes) (known : gap = 2 → opened = true) :
    looksAhead opened false gap text = true ↔ HalfGapped opened gap text := by
  simpa using looksAhead_iff false text known

/-! ## The program of a text with a caret -/

/-- Up to the caret a text is compiled as if it ended there.  The caret is the reply, or it
is skipped and the text goes on with a half gap. -/
theorem program_caret (opened lookAhead : Bool) (index : Nat) (gap speed : Int) {text : Bytes}
    (caretFree : byte '^' ∉ text) (half : lookAhead = true → gap = 2) :
    ∃ commands gap' speed', (looksAhead opened lookAhead gap text = true → gap' = 2) ∧
      program opened lookAhead index gap speed text =
        commands ++ (if looksAhead opened lookAhead gap text then [.gap 0] else []) ∧
      ∀ rest, program opened lookAhead index gap speed (text ++ byte '^' :: rest) =
        commands ++ if looksAhead opened lookAhead gap text then
          program opened false (index + text.length + 1) gap' speed' rest else [.reply (index + text.length)] := by
  induction text generalizing lookAhead index gap speed with
  | nil =>
    refine ⟨[], gap, speed, half, rfl, fun rest => ?_⟩
    cases lookAhead
    · simp [program, looksAhead, show isSpeedSign (byte '^') = false by decide,
        show byte '^' ≠ byte '~' by decide]
    · simp [program, looksAhead]
  | cons char text inductionHypothesis =>
    obtain ⟨uncut, later⟩ : char ≠ byte '^' ∧ byte '^' ∉ text := by simpa [eq_comm] using caretFree
    have head (rest : Bytes) : (text ++ byte '^' :: rest).head?.any isSpeedSign = text.head?.any isSpeedSign := by
      cases text with
      | nil => rfl
      | cons => rfl
    have shifted : index + (char :: text).length = index + 1 + text.length := by
      rw [List.length_cons]
      omega
    rw [shifted]
    clear half
    generalize looked : looksAhead opened lookAhead gap (char :: text) = skips
    simp only [looksAhead] at looked
    simp only [List.cons_append, program, uncut, decide_false, Bool.and_false, Bool.false_eq_true, if_false, head]
    generalize (if lookAhead then reportedGap opened 0 else gap) = gap at looked
    generalize (if lookAhead then [Command.gap 0] else []) = reset
    -- Every branch compiles the byte to some commands and goes on.
    have next (lookAhead : Bool) (gap speed : Int) (front : List Command) (half : lookAhead = true → gap = 2)
        (looked : looksAhead opened lookAhead gap text = skips) :
        ∃ commands gap' speed', (skips = true → gap' = 2) ∧
          reset ++ (front ++ program opened lookAhead (index + 1) gap speed text) =
            commands ++ (if skips then [.gap 0] else []) ∧
          ∀ rest, reset ++ (front ++ program opened lookAhead (index + 1) gap speed (text ++ byte '^' :: rest)) =
            commands ++ if skips then program opened false (index + 1 + text.length + 1) gap' speed' rest
              else [.reply (index + 1 + text.length)] := by
      obtain ⟨commands, gap', speed', half', alone, split⟩ := inductionHypothesis lookAhead (index + 1) gap speed later half
      rw [looked] at half' alone split
      refine ⟨reset ++ (front ++ commands), gap', speed', half', ?_, fun rest => ?_⟩
      · rw [alone]
        simp only [List.append_assoc]
      · rw [split]
        simp only [List.append_assoc]
    by_cases sign : isSpeedSign char = true
    · simp only [if_pos sign] at looked ⊢
      split
      case isTrue => exact next false _ _ [] (by simp) looked
      case isFalse => exact next false _ _ [_] (by simp) looked
    · simp only [if_neg sign] at looked ⊢
      by_cases tilde : char = byte '~'
      · simp only [if_pos tilde] at looked ⊢
        exact next false _ _ [_] (by simp) looked
      · simp only [if_neg tilde] at looked ⊢
        exact next _ _ _ _ of_decide_eq_true looked

/-- A text does not begin with setting the gap to 0. -/
theorem program_head (opened : Bool) (index : Nat) (gap speed : Int) (text : Bytes) (later : List Command) :
    (program opened false index gap speed text).filter Command.isAsked ≠ .gap 0 :: later := by
  induction text generalizing index speed with
  | nil => simp [program]
  | cons char rest inductionHypothesis =>
    simp only [program, Bool.false_and, Bool.false_eq_true, if_false, List.nil_append]
    split
    case isTrue =>
      split
      case isTrue => exact inductionHypothesis _ _
      case isFalse => simp [List.filter_cons, Command.isAsked]
    case isFalse =>
      split
      case isTrue => simp [List.filter_cons, Command.isAsked]
      case isFalse =>
        split
        case isTrue => simp [Command.isAsked]
        case isFalse =>
          simp only [characterCommands, List.filter_append]
          split <;> split <;> simp [List.filter_cons, Command.isAsked]

theorem opened_of_halfGap {state : State} (half : state.gap = 2) : state.libcw.generator.isSome = true := by
  unfold State.gap at half
  cases opened : state.libcw.generator with
  | none => simp [opened] at half
  | some generator => rfl

/-- A caret behind a byte without a half gap is the last command. -/
theorem program_whole_caret (index : Nat) (speed : Int) {text : Bytes} (caretFree : byte '^' ∉ text)
    (known : gap = 2 → opened = true) (whole : ¬ HalfGapped opened gap text) (rest : Bytes) :
    program opened false index gap speed (text ++ byte '^' :: rest) =
      program opened false index gap speed text ++ [.reply (index + text.length)] := by
  obtain ⟨commands, gap', speed', -, alone, split⟩ := program_caret opened false index gap speed caretFree (by simp)
  have skips := mt (looksAhead_start text known).mp whole
  rw [if_neg skips, List.append_nil] at alone
  rw [split rest, if_neg skips, alone]

/-- Behind a byte with a half gap the text goes on. -/
theorem program_skipped_caret (index : Nat) (speed : Int) {text : Bytes} (caretFree : byte '^' ∉ text)
    (known : gap = 2 → opened = true) (half : HalfGapped opened gap text) :
    ∃ commands speed', program opened false index gap speed text = commands ++ [.gap 0] ∧
      ∀ rest, program opened false index gap speed (text ++ byte '^' :: rest) =
        commands ++ program opened false (index + text.length + 1) 2 speed' rest := by
  obtain ⟨commands, gap', speed', half', alone, split⟩ := program_caret opened false index gap speed caretFree (by simp)
  have skips := (looksAhead_start text known).mpr half
  rw [if_pos skips] at alone
  refine ⟨commands, speed', alone, fun rest => ?_⟩
  rw [split rest, if_pos skips, half' skips]

theorem programOf_caret {state : State} {text : Bytes} (caretFree : byte '^' ∉ text)
    (whole : ¬ HalfGapped state.libcw.generator.isSome state.gap text) (rest : Bytes) :
    state.programOf (text ++ byte '^' :: rest) = state.programOf text ++ [.reply text.length] := by
  rw [programOf, program_whole_caret 0 _ caretFree opened_of_halfGap whole rest, Nat.zero_add]
  rfl

theorem programOf_skipped_caret {state : State} {text : Bytes} (caretFree : byte '^' ∉ text)
    (half : HalfGapped state.libcw.generator.isSome state.gap text) (rest : Bytes) :
    ∃ commands speed, state.programOf text = commands ++ [.gap 0] ∧
      state.programOf (text ++ byte '^' :: rest) =
        commands ++ program state.libcw.generator.isSome false (text.length + 1) 2 speed rest := by
  obtain ⟨commands, speed, alone, goesOn⟩ := program_skipped_caret 0 state.current.morseSpeed caretFree
    opened_of_halfGap half
  rw [Nat.zero_add] at goesOn
  exact ⟨commands, speed, alone, goesOn rest⟩

/-! ## What a text request asks and prepares -/

/-- What libcw is asked while a request is handled. -/
def asked (before after : State) : List Command := (after.log.drop before.log.length).filterMap (·.call.asks)

/-- libcw was asked for these commands, and last a reply to the client was prepared. -/
structure EndsInReply (client : SockaddrIn) (commands : List Command) (reply : Bytes) (before after : State) :
    Prop where
  log : ∃ entries moment, after.log = before.log ++ entries ++ [⟨.prepared client reply, moment⟩] ∧
    entries.filterMap (·.call.asks) = commands ∧ ∀ entry ∈ entries, entry.call.asks = none → Aside entry
  echo : after.pttFlag.has .echo = true
  sender : after.replyAddr = client
  reply : after.replyBuffer.bytes = reply

variable {state before after : State} {request : Bytes} {commands : List Command}

theorem Asks.asked (asks : Asks commands before after) : asked before after = commands := by
  obtain ⟨new, appended, equal, -⟩ := asks
  rw [State.asked, appended, List.drop_left, equal]

theorem EndsInReply.asked {client : SockaddrIn} {reply : Bytes}
    (replies : EndsInReply client commands reply before after) : asked before after = commands := by
  obtain ⟨entries, moment, appended, equal, -⟩ := replies.log
  rw [State.asked, appended, List.append_assoc, List.drop_left, List.filterMap_append, equal]
  exact List.append_nil commands

theorem Asks.endsInReply {client : SockaddrIn} {reply : Bytes} {more : List Command} (asks : Asks commands state before)
    (replies : EndsInReply client more reply before after) : EndsInReply client (commands ++ more) reply state after := by
  obtain ⟨new, appended, equal, asides⟩ := asks
  obtain ⟨entries, moment, appended', equal', asides'⟩ := replies.log
  refine { replies with log := ⟨new ++ entries, moment, ?_, ?_, List.forall_mem_append.mpr ⟨asides, asides'⟩⟩ }
  · rw [appended', appended]
    simp only [List.append_assoc]
  · rw [List.filterMap_append, equal, equal']

theorem exec_reply (world : World) {index : Nat} (short : index ≤ 255) (state : State) :
    EndsInReply state.requestAddr [] (state.requestQueue.bytes.take index) state (state.exec world (.reply index)) ∧
      (state.exec world (.reply index)).gap = state.gap := by
  obtain ⟨reply, bytes, prepared⟩ := prepareReply_eq (state.requestQueue.cut index).nul_free
    ((List.length_take_le _ _).trans short) { state with requestQueue := state.requestQueue.cut index }
  have executed : state.exec world (.reply index) = _ := prepared
  rw [executed]
  exact ⟨⟨⟨[], _, by rw [List.append_nil]; rfl, rfl, List.forall_mem_nil _⟩, by simp, rfl, bytes⟩, rfl⟩

/-- The gap is 0 again behind a byte that is played. -/
theorem gap_program (world : World) {text : Bytes} (caretFree : byte '^' ∉ text) (level : state.gap = 0 ∨ state.gap = 2)
    (last : text.getLast?.any isPlayed = true) : (execAll world (state.programOf text) state).gap = 0 := by
  obtain ⟨front, char, rfl⟩ : ∃ front char, text = front ++ [char] := by
    rcases List.eq_nil_or_concat text with rfl | ⟨front, char, rfl⟩
    · cases last
    · exact ⟨front, char, List.concat_eq_append⟩
  have sounds : isPlayed char = true := by simpa using last
  have separate : Separate front [char] := by
    simp only [isPlayed, Bool.and_eq_true, Bool.not_eq_true'] at sounds
    simp [Separate, sounds.1]
  have read : tokens (front ++ [char]) = tokens front ++ [.char char] := by
    rw [tokens_append separate, tokens_played [] sounds]
    rfl
  rw [← playLoop_eq, (playLoop_commandsOf world caretFree state).gap, commandsOf,
    (execAll_meaning world (tokens (front ++ [char])) ⟨rfl, rfl, rfl⟩).2.1, read]
  exact settled_char _ _ level _ _

section Handling

variable (idle : state.requestQueue.bytes = []) (nulFree : 0 ∉ request)
  (length : request.length ≤ CWDAEMON_REQUEST_SIZE_MAX) (world : World)

include idle nulFree length

/-- Handling a text request is executing its program. -/
theorem receiveText_program : state.receiveText world request = (execAll world (state.programOf request)
    { state with requestQueue := state.requestQueue.append request }).clearRequestQueue := by
  rw [(receiveText_eq world request idle nulFree (Nat.lt_of_le_of_lt length (by decide))).2, playLoop_eq]
  rfl

theorem receiveText_silent (silent : ∀ command ∈ state.programOf request, ∀ index, command ≠ .reply index) :
    Asks ((state.programOf request).filter Command.isAsked) state (state.receiveText world request) := by
  rw [receiveText_program idle nulFree length world]
  exact asks_execAll world silent { state with requestQueue := state.requestQueue.append request }

theorem receiveText_reply {index : Nat} (silent : ∀ command ∈ commands, ∀ index, command ≠ .reply index)
    (compiled : state.programOf request = commands ++ [.reply index]) (inside : index < request.length) :
    EndsInReply state.requestAddr (commands.filter Command.isAsked) ((commands.foldl edit request).take index) state
        (state.receiveText world request) ∧
      (state.receiveText world request).gap =
        (execAll world commands { state with requestQueue := state.requestQueue.append request }).gap := by
  have appended := (receiveText_eq world request idle nulFree (Nat.lt_of_le_of_lt length (by decide))).1
  have short : index ≤ 255 := by
    simp only [CWDAEMON_REQUEST_SIZE_MAX] at length
    omega
  rw [receiveText_program idle nulFree length world, compiled, execAll_append]
  generalize queued : ({ state with requestQueue := state.requestQueue.append request } : State) = first
  have queue := execAll_requestQueue world silent first
  have sender := (spoken_execAll world silent first).requestAddr
  obtain ⟨replies, gap⟩ := exec_reply world short (execAll world commands first)
  have whole := (asks_execAll world silent first).endsInReply replies
  rw [queue, sender, List.append_nil] at whole
  subst queued
  rw [appended] at whole
  exact ⟨{ whole with }, gap⟩

theorem asked_receiveText :
    asked state (state.receiveText world request) = (state.programOf request).filter Command.isAsked := by
  obtain ⟨commands, silent, compiled | ⟨index, -, inside, compiled⟩⟩ :=
    program_replies state.libcw.generator.isSome false 0 state.gap state.current.morseSpeed request
  · exact (receiveText_silent idle nulFree length world (by rw [programOf, compiled]; exact silent)).asked
  · rw [Nat.zero_add] at inside
    obtain ⟨replies, -⟩ := receiveText_reply idle nulFree length world silent compiled inside
    rw [replies.asked, programOf, compiled, List.filter_append]
    exact (List.append_nil _).symm

end Handling

/-! ## Honouring a caret -/

/-- The text in front of a caret is played as it is played alone, then a reply to the
client is prepared, and the gap is 0 behind a byte that was played. -/
structure Honours (world : World) (client : SockaddrIn) (text rest : Bytes) (before : State) : Prop where
  replies : ∃ reply, EndsInReply client (asked before (before.receiveText world text)) reply before
    (before.receiveText world (text ++ byte '^' :: rest))
  gap : text.getLast?.any isPlayed = true → (before.receiveText world (text ++ byte '^' :: rest)).gap = 0

theorem honours_iff (idle : state.requestQueue.bytes = []) (level : state.gap = 0 ∨ state.gap = 2) {text rest : Bytes}
    (caretFree : byte '^' ∉ text) (nulFree : 0 ∉ text ++ byte '^' :: rest)
    (length : (text ++ byte '^' :: rest).length ≤ CWDAEMON_REQUEST_SIZE_MAX) (world : World) :
    Honours world state.requestAddr text rest state ↔
      ¬ HalfGapped state.libcw.generator.isSome state.gap text := by
  have nulFree' : 0 ∉ text := fun member => nulFree (List.mem_append_left _ member)
  have length' : text.length ≤ CWDAEMON_REQUEST_SIZE_MAX := by
    rw [List.length_append] at length
    omega
  have askedAlone := asked_receiveText idle nulFree' length' world
  constructor
  · -- Alone the text sets the gap back, which no text does that goes on.
    intro honours half
    obtain ⟨commands, speed', alone, goesOn⟩ := programOf_skipped_caret caretFree half rest
    obtain ⟨reply, replies⟩ := honours.replies
    have same := replies.asked
    rw [askedAlone, asked_receiveText idle nulFree length world, alone, goesOn, List.filter_append,
      List.filter_append] at same
    exact program_head _ _ _ _ _ [] (List.append_cancel_left same)
  · intro whole
    obtain ⟨replies, gap⟩ := receiveText_reply idle nulFree length world
      (program_silent _ false 0 _ _ caretFree) (programOf_caret caretFree whole rest) (by simp)
    refine ⟨⟨_, askedAlone ▸ replies⟩, fun last => ?_⟩
    rw [gap]
    exact gap_program world caretFree level last

/-! ## The text of the reply -/

/-- The program of a text writes `+` for `*`, and nothing else. -/
theorem foldl_edit_program (opened lookAhead : Bool) (gap speed : Int) {text : Bytes} (caretFree : byte '^' ∉ text)
    (front tail : Bytes) :
    (program opened lookAhead front.length gap speed text).foldl edit (front ++ (text ++ tail)) =
      front ++ (text.map played ++ tail) := by
  induction text generalizing lookAhead gap speed front with
  | nil => cases lookAhead <;> rfl
  | cons char rest inductionHypothesis =>
    obtain ⟨uncut, later⟩ : char ≠ byte '^' ∧ byte '^' ∉ rest := by simpa [eq_comm] using caretFree
    have reset (bytes : Bytes) : (if lookAhead then [Command.gap 0] else []).foldl edit bytes = bytes := by
      cases lookAhead <;> rfl
    have next (lookAhead : Bool) (gap speed : Int) :
        (program opened lookAhead (front.length + 1) gap speed rest).foldl edit
            (front ++ (played char :: rest ++ tail)) =
          front ++ ((char :: rest).map played ++ tail) := by
      have shifted := inductionHypothesis lookAhead gap speed later (front ++ [played char])
      rw [List.length_append, List.length_singleton] at shifted
      simpa using shifted
    have same (unequal : char ≠ byte '*') : played char = char := if_neg unequal
    simp only [program, uncut, decide_false, Bool.and_false, Bool.false_eq_true, if_false, List.foldl_append, reset]
    split
    case isTrue sign =>
      have unstarred : char ≠ byte '*' := by
        rintro rfl
        exact absurd sign (by decide)
      rw [same unstarred] at next
      split
      case isTrue => exact next _ _ _
      case isFalse => exact next _ _ _
    case isFalse =>
      split
      case isTrue tilde =>
        have unstarred : char ≠ byte '*' := by
          rw [tilde]
          decide
        rw [same unstarred] at next
        exact next _ _ _
      case isFalse =>
        have edited : (characterCommands front.length char).foldl edit (front ++ (char :: rest ++ tail)) =
            front ++ (played char :: rest ++ tail) := by
          by_cases star : char = byte '*'
          · subst star
            have poked : (front ++ byte '*' :: (rest ++ tail)).set front.length (byte '+') =
                front ++ byte '+' :: (rest ++ tail) := by simp
            exact poked
          · rw [same star]
            simp only [characterCommands, if_neg star]
            split <;> rfl
        rw [List.foldl_append, edited]
        exact next _ _ _

theorem map_played_eq_iff (text : Bytes) : text.map played = text ↔ byte '*' ∉ text := by
  induction text with
  | nil => simp
  | cons char rest inductionHypothesis =>
    have same : played char = char ↔ byte '*' ≠ char := by
      by_cases star : char = byte '*'
      · subst star
        decide
      · simp [played, star, eq_comm]
    rw [List.map_cons, List.cons.injEq, inductionHypothesis, same, List.mem_cons, not_or]

/-- What is in front of the first caret. -/
theorem split_at_caret (caret : byte '^' ∈ request) :
    ∃ text rest, request = text ++ byte '^' :: rest ∧ byte '^' ∉ text ∧ request.takeWhile (· ≠ byte '^') = text := by
  obtain ⟨text, rest, rfl, caretFree⟩ := List.eq_append_cons_of_mem caret
  refine ⟨text, rest, rfl, caretFree, ?_⟩
  have kept : ∀ char ∈ text, decide (char ≠ byte '^') = true := by
    intro char member
    rw [decide_eq_true_eq]
    rintro rfl
    exact caretFree member
  rw [List.takeWhile_append_of_pos kept]
  simp

theorem mem_program_of_prepared (idle : state.requestQueue.bytes = []) (nulFree : 0 ∉ request)
    (length : request.length ≤ CWDAEMON_REQUEST_SIZE_MAX) (world : World) {entry : Entry}
    (member : entry ∈ (state.receiveText world request).log) (new : entry ∉ state.log) {client : SockaddrIn}
    {reply : Bytes} (prepared : entry.call = .prepared client reply) :
    ∃ index, .reply index ∈ state.programOf request := by
  by_contra none
  have silent : ∀ command ∈ state.programOf request, ∀ index, command ≠ .reply index := by
    rintro _ member index rfl
    exact none ⟨index, member⟩
  obtain ⟨entries, appended, -, asides⟩ := receiveText_silent idle nulFree length world silent
  rw [appended] at member
  have aside := asides entry ((List.mem_append.mp member).resolve_left new) (by rw [prepared]; rfl)
  simp [Aside, prepared, Call.isAside] at aside

/-- The reply is the text in front of the first caret unless it has a `*`, or the caret is
skipped. -/
theorem reply_bytes_iff (idle : state.requestQueue.bytes = []) (nulFree : 0 ∉ request)
    (length : request.length ≤ CWDAEMON_REQUEST_SIZE_MAX) (world : World) {index : Nat}
    (replies : .reply index ∈ state.programOf request) :
    (state.receiveText world request).replyBuffer.bytes = request.takeWhile (· ≠ byte '^') ↔
      byte '*' ∉ request.takeWhile (· ≠ byte '^') ∧
        ¬ HalfGapped state.libcw.generator.isSome state.gap (request.takeWhile (· ≠ byte '^')) := by
  have caret : byte '^' ∈ request := by
    by_contra caretFree
    exact program_silent _ _ _ _ _ caretFree _ replies index rfl
  obtain ⟨text, rest, rfl, caretFree, taken⟩ := split_at_caret caret
  rw [taken]
  have silent := program_silent state.libcw.generator.isSome false 0 state.gap state.current.morseSpeed caretFree
  by_cases half : HalfGapped state.libcw.generator.isSome state.gap text
  · -- The caret is skipped, so the reply, if there is one, is longer.
    refine iff_of_false (fun equal => ?_) fun good => good.2 half
    obtain ⟨commands, speed, alone, goesOn⟩ := programOf_skipped_caret caretFree half rest
    change ∀ command ∈ state.programOf text, _ at silent
    rw [alone] at silent
    obtain ⟨earlier, -⟩ := List.forall_mem_append.mp silent
    obtain ⟨more, later, compiled | ⟨found, behind, inside, compiled⟩⟩ :=
      program_replies state.libcw.generator.isSome false (text.length + 1) 2 speed rest
    · rw [goesOn, compiled] at replies
      exact (List.forall_mem_append.mpr ⟨earlier, later⟩) _ replies index rfl
    · rw [compiled, ← List.append_assoc] at goesOn
      have within : found < (text ++ byte '^' :: rest).length := by
        rw [List.length_append, List.length_cons]
        omega
      obtain ⟨answer, -⟩ := receiveText_reply idle nulFree length world
        (List.forall_mem_append.mpr ⟨earlier, later⟩) goesOn within
      have size := congrArg List.length (answer.reply.symm.trans equal)
      rw [List.length_take, foldl_edit_length] at size
      omega
  · obtain ⟨answer, -⟩ := receiveText_reply idle nulFree length world silent (programOf_caret caretFree half rest)
      (by simp)
    have edits : (state.programOf text).foldl edit (text ++ byte '^' :: rest) = text.map played ++ byte '^' :: rest :=
      foldl_edit_program state.libcw.generator.isSome false state.gap state.current.morseSpeed caretFree [] _
    have reply : ((state.programOf text).foldl edit (text ++ byte '^' :: rest)).take text.length = text.map played := by
      rw [edits]
      exact List.take_left' (List.length_map played)
    have equal : (state.receiveText world (text ++ byte '^' :: rest)).replyBuffer.bytes = text.map played :=
      answer.reply.trans reply
    rw [equal, map_played_eq_iff]
    exact (and_iff_left half).symm

end State

open State

/-! ## Every caret -/

section Requests

variable {state : State} (reachable : Reachable state)

include reachable

/-- In every reachable state a caret is honoured unless a half gap ends in front of it. -/
theorem caret_is_honoured_iff (world : World) {client : SockaddrIn} {bytes text rest : Bytes}
    (request : (Input.datagram client bytes).action = .text (text ++ byte '^' :: rest)) (first : byte '^' ∉ text) :
    Honours world client text rest (state.ready (.datagram client bytes)) ↔
      ¬ HalfGapped state.libcw.generator.isSome state.gap text := by
  have regulated := reachable.regulated
  obtain ⟨nulFree, length⟩ := Input.action_text_bounds request
  obtain ⟨-, _, _, same, arrived⟩ := Input.action_text request
  cases same
  obtain ⟨moment, -, sender⟩ := ready_datagram arrived state
  obtain ⟨seconds, addr, log, ready, -⟩ := ready_eq (.datagram client bytes) state
  rw [ready] at sender ⊢
  generalize before_eq : ({ state with inactivitySeconds := seconds, requestAddr := addr, log := log } : State) = before
    at sender ⊢
  have same : before.requestQueue = state.requestQueue ∧ before.libcw = state.libcw ∧ before.gap = state.gap := by
    rw [← before_eq]
    exact ⟨rfl, rfl, rfl⟩
  obtain ⟨queue, libcw, gap⟩ := same
  have idle : before.requestQueue.bytes = [] := by
    rw [queue]
    exact regulated.wellformed.idle
  have honours := honours_iff idle (gap ▸ regulated.gap) first nulFree length world
  rwa [sender, libcw, gap] at honours

/-- In every reachable state a reply to a text is verbatim unless there is a `*` in front
of the caret, or the first caret was skipped. -/
theorem caret_reply_is_verbatim_iff {label : Label} {request : Bytes} (text : label.input.action = .text request)
    (prepares : Prepares label state) :
    (state.step label).replyBuffer.bytes = request.takeWhile (· ≠ byte '^') ↔
      byte '*' ∉ request.takeWhile (· ≠ byte '^') ∧
        ¬ HalfGapped state.libcw.generator.isSome state.gap (request.takeWhile (· ≠ byte '^')) := by
  have wellformed := reachable.wellformed
  obtain ⟨nulFree, length⟩ := Input.action_text_bounds text
  obtain ⟨entry, member, client, reply, prepared⟩ := prepares
  have running : state.status = .running := by
    by_contra ended
    rw [step_ended label ended] at member
    cases member
  obtain ⟨seconds, addr, log, ready, received⟩ := ready_eq label.input state
  rw [step_eq label running, text, act, ready] at member ⊢
  generalize before_eq : ({ state with inactivitySeconds := seconds, requestAddr := addr, log := log } : State) = before
    at member ⊢
  -- The footswitch, which is polled after the text, prepares nothing.
  obtain ⟨inside, kept⟩ : entry ∈ (before.receiveText label.world request).log ∧
      ((before.receiveText label.world request).finish label.world label.input).replyBuffer =
        (before.receiveText label.world request).replyBuffer := by
    rcases finish_cases label.world label.input (before.receiveText label.world request) with
      same | ⟨port, polls, polled, only⟩
    · rw [same] at member ⊢
      exact ⟨member, rfl⟩
    · rw [polled] at member ⊢
      refine ⟨(List.mem_append.mp member).resolve_right fun polls => ?_, rfl⟩
      obtain ⟨on, call⟩ := only entry polls
      rw [prepared] at call
      cases call
  have new : entry ∉ before.log := by
    rw [← before_eq]
    intro old
    obtain ⟨_, _, call⟩ := received entry old
    rw [prepared] at call
    cases call
  have idle : before.requestQueue.bytes = [] := by
    rw [← before_eq]
    exact wellformed.idle
  obtain ⟨index, replies⟩ := mem_program_of_prepared idle nulFree length label.world inside new prepared
  have verbatim := reply_bytes_iff idle nulFree length label.world replies
  rw [kept, verbatim, ← before_eq]
  rfl

end Requests

/-- `e^w`. -/
theorem caret_is_honoured_behind_a_letter :
    Honours calm client [byte 'e'] [byte 'w'] (onSerialPort.ready (.datagram client [byte 'e', byte '^', byte 'w'])) ↔
      ¬ HalfGapped onSerialPort.libcw.generator.isSome onSerialPort.gap [byte 'e'] :=
  caret_is_honoured_iff ⟨onSerialPort, [], started_onSerialPort, rfl⟩ calm rfl (by decide)

/-- `~e^`: no reply is prepared. -/
theorem caret_behind_half_gap_is_skipped :
    ¬ Honours calm client [byte '~', byte 'e'] []
      (onSerialPort.ready (.datagram client [byte '~', byte 'e', byte '^'])) := by
  rintro ⟨⟨reply, replies⟩, -⟩
  exact absurd replies.echo (by decide +kernel)

/-- A byte 0xff is part of the reply. -/
theorem caret_reply_is_verbatim_with_minus_one :
    (onSerialPort.step (calm.receives [byte 'e', 0xff, byte '^'])).replyBuffer.bytes =
        [byte 'e', 0xff, byte '^'].takeWhile (· ≠ byte '^') ↔
      byte '*' ∉ [byte 'e', 0xff, byte '^'].takeWhile (· ≠ byte '^') ∧
        ¬ HalfGapped onSerialPort.libcw.generator.isSome onSerialPort.gap
          ([byte 'e', 0xff, byte '^'].takeWhile (· ≠ byte '^')) :=
  have prepared : Mail.prepared client [byte 'e', 0xff] ∈
      mails (onSerialPort.step (calm.receives [byte 'e', 0xff, byte '^'])).log := by decide +kernel
  caret_reply_is_verbatim_iff ⟨onSerialPort, [], started_onSerialPort, rfl⟩ rfl (prepares_of_mail prepared)

/-- `a*^` is answered with `a+`. -/
theorem caret_reply_has_plus_for_star :
    Prepares (calm.receives [byte 'a', byte '*', byte '^']) onSerialPort ∧
      (onSerialPort.step (calm.receives [byte 'a', byte '*', byte '^'])).replyBuffer.bytes ≠
        [byte 'a', byte '*', byte '^'].takeWhile (· ≠ byte '^') := by
  have prepared : Mail.prepared client [byte 'a', byte '+'] ∈
      mails (onSerialPort.step (calm.receives [byte 'a', byte '*', byte '^'])).log := by decide +kernel
  exact ⟨prepares_of_mail prepared, by decide +kernel⟩

end Cwdaemon
