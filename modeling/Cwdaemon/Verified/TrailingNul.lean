import Cwdaemon.Verified.Carets
import Cwdaemon.Verified.Footswitch
import Cwdaemon.Verified.NumericRequests
import Mathlib.Data.List.DropRight

/-! # Datagrams with a NUL in them

A request is read as a C string, so what is behind a NUL in a datagram does not count.
CR and LF, however, are removed from the end of the datagram and not of the string: in
front of a NUL they stay in the request.  They are harmless there only if the request
is one that takes no notice of its end.
-/

namespace Cwdaemon

open CString State

namespace State

/-- What a datagram does to the daemon: `cwdaemon_receive()`, without the entry of the log
that tells what has come. -/
def handleDatagram (world : World) (client : SockaddrIn) (datagram : Bytes) (state : State) : State :=
  let state := { state with requestAddr := client }
  match requestOf datagram with
  | none => state
  | some request => state.handleRequest world request

/-- A datagram is handled after its request is logged. -/
theorem receive_handleDatagram (world : World) (client : SockaddrIn) (datagram : Bytes) (state : State) :
    state.receive world client datagram =
      ((requestOf datagram).elim state fun request => state.record (.received client request)).handleDatagram
        world client datagram := by
  unfold receive handleDatagram
  cases requestOf datagram with
  | none => rfl
  | some request => rfl

/-- The state in which a datagram of this sender is handled. -/
def atHand (sender : SockaddrIn) (state : State) : State := { state.countInactivity with requestAddr := sender }

theorem handleDatagram_eq (world : World) (sender : SockaddrIn) (datagram : Bytes) (state : State) :
    state.countInactivity.handleDatagram world sender datagram =
      (requestOf datagram).elim (state.atHand sender) ((state.atHand sender).handleRequest world) := by
  unfold handleDatagram
  cases requestOf datagram with
  | none => rfl
  | some request => rfl

/-- The same state was reached by the same calls. -/
def SameEffect (first second : State) : Prop :=
  { first with log := [] } = { second with log := [] } ∧ shown true first.log = shown true second.log

theorem SameEffect.refl (state : State) : SameEffect state state := ⟨rfl, rfl⟩

end State

/-- In whatever state the daemon is, what is behind the first NUL of a datagram does not
matter. -/
def NulEnds (datagram : Bytes) : Prop :=
  ∀ state, Reachable state → ∀ world client,
    SameEffect (state.countInactivity.handleDatagram world client datagram)
      (state.countInactivity.handleDatagram world client (cstr datagram))

/-! ## Requests that take no notice of their end -/

/-- Whatever the gap is at the start, a caret of the text is honoured. -/
inductive EndsAtCaret : Bytes → Prop
  | honoured {text : Bytes} (rest : Bytes) : byte '^' ∉ text → ¬ HalfGapped true 2 text →
    EndsAtCaret (text ++ byte '^' :: rest)
  | skipped {text rest : Bytes} : byte '^' ∉ text → HalfGapped true 2 text → EndsAtCaret rest →
    EndsAtCaret (text ++ byte '^' :: rest)

/-- The payload is no number, or one that is refused, or it asks to tune for 0 seconds. -/
def EscRequest.Refuses (request : EscRequest) (payload : Bytes) : Prop :=
  ∀ value, Denotes payload value → request.Accepts value → request = .tune ∧ value = 0

/-- With CR and LF behind it the request is handled as it is without. -/
def TakesCrlf (request : Bytes) : Prop :=
  if request.head? ≠ some ASCII_ESC then EndsAtCaret request
  else
    ∀ escape payload, escapeRequest request = some (escape, payload) →
      escape ≠ .cwdevice ∧ escape ≠ .reply ∧ (escape.isNumeric = true → escape.Refuses payload)

theorem TakesCrlf.ne_nil {request : Bytes} (takes : TakesCrlf request) : request ≠ [] := by
  rintro rfl
  rw [TakesCrlf, if_pos (by simp)] at takes
  generalize empty : ([] : Bytes) = text at takes
  cases takes <;> simp at empty

/-! ## What the datagram is read as -/

def isCrlf (char : UInt8) : Bool := char == byte '\n' || char == byte '\r'

theorem isCrlf_iff {char : UInt8} : isCrlf char = true ↔ char = byte '\n' ∨ char = byte '\r' := by simp [isCrlf]

/-- What is removed from the end of a request is CR and LF. -/
theorem stripCrlf_split (request : Bytes) :
    ∃ ending, stripCrlf request ++ ending = request ∧ ∀ char ∈ ending, isCrlf char = true :=
  ⟨request.rtakeWhile isCrlf, List.rdropWhile_append_rtakeWhile, fun _ => List.mem_rtakeWhile_imp⟩

/-- The request in a datagram with a NUL is the string in front of it. -/
theorem requestOf_of_nul {datagram : Bytes} (nul : 0 ∈ datagram)
    (length : datagram.length ≤ CWDAEMON_REQUEST_SIZE_MAX) :
    requestOf datagram = some (cstr datagram) := by
  obtain ⟨text, rest, rfl, nulFree⟩ := List.eq_append_cons_of_mem nul
  obtain ⟨ending, split, crlf⟩ := stripCrlf_split (text ++ 0 :: rest)
  -- The NUL is not CR or LF, so nothing in front of it is removed.
  have kept : 0 ∉ ending := fun member => absurd (crlf 0 member) (by decide)
  obtain ⟨more, stripped⟩ : ∃ more, stripCrlf (text ++ 0 :: rest) = text ++ 0 :: more := by
    rcases List.append_eq_append_iff.mp split with ⟨part, -, removed⟩ | ⟨part, stripped, removed⟩
    · exact absurd (removed ▸ List.mem_append_right part List.mem_cons_self) kept
    · cases part with
      | nil =>
        have whole : ending = 0 :: rest := removed.symm
        simp [whole] at kept
      | cons first more =>
        obtain ⟨rfl, -⟩ := List.cons.inj removed
        exact ⟨more, stripped⟩
  rw [requestOf, List.take_of_length_le length, stripped, cstr_append_nul nulFree, cstr_append_nul nulFree]
  simp

theorem requestOf_of_nul_free {request : Bytes} (nulFree : 0 ∉ request)
    (length : request.length ≤ CWDAEMON_REQUEST_SIZE_MAX) :
    requestOf request = if stripCrlf request = [] then none else some (stripCrlf request) := by
  obtain ⟨ending, split, -⟩ := stripCrlf_split request
  have stripped : 0 ∉ stripCrlf request := fun member => nulFree (split ▸ List.mem_append_left ending member)
  simp only [requestOf, List.take_of_length_le length, cstr_of_nul_free stripped]


/-! ## Numbers -/

/-- Behind CR or LF there is no number. -/
theorem not_denotes_append {payload ending : Bytes} (some : ending ≠ [])
    (crlf : ∀ char ∈ ending, isCrlf char = true) (value : Int) : ¬ Denotes (payload ++ ending) value := by
  rintro ⟨⟨blanks, sign, digits, negative, split, -, -, some', digits', -⟩, -⟩
  have last := congrArg List.getLast? split
  rw [List.getLast?_append_of_ne_nil _ some, ← List.append_assoc, List.getLast?_append_of_ne_nil _ some',
    List.getLast?_eq_getLast_of_ne_nil some, List.getLast?_eq_getLast_of_ne_nil some', Option.some.injEq] at last
  have digit := digits' _ (List.getLast_mem some')
  rw [← last] at digit
  have crlf := crlf _ (List.getLast_mem some)
  generalize ending.getLast some = char at digit crlf
  rcases isCrlf_iff.mp crlf with rfl | rfl
  · exact absurd digit (by decide)
  · exact absurd digit (by decide)

theorem paramsSystem_append {payload ending : Bytes} (crlf : ∀ char ∈ ending, isCrlf char = true) :
    paramsSystem (payload ++ ending) = paramsSystem payload := by
  cases payload with
  | cons => rfl
  | nil =>
    cases ending with
    | nil => rfl
    | cons char rest =>
      rcases isCrlf_iff.mp (crlf char List.mem_cons_self) with rfl | rfl
      · rfl
      · rfl

/-! ## Where requests are told apart -/

/-- The daemon after `~`. -/
def behindTilde : State := onSerialPort.step (calm.receives [byte '~'])

theorem reachable_behindTilde : Reachable behindTilde := ⟨onSerialPort, [_], started_onSerialPort, rfl⟩

/-- The daemon while a client holds PTT. -/
def withManualPtt : State := onSerialPort.step (calm.receivesEscape .pttState [byte '1'])

theorem reachable_withManualPtt : Reachable withManualPtt := ⟨onSerialPort, [_], started_onSerialPort, rfl⟩

/-- A world in which no port can be opened. -/
def portless : World := { calm with openTty := fun _ => none }

/-! ## Escape requests -/

namespace State

variable {request payload ending : Bytes} {state : State}

/-- Tuning for no time is doing nothing. -/
theorem handleEscRequest_refuses (world : World) {escape : EscRequest} (numeric : escape.isNumeric = true)
    (refuses : escape.Refuses payload) : state.handleEscRequest world escape payload = state := by
  obtain ⟨accepts, ignores⟩ := handleEscRequest_numeric world numeric payload state
  by_cases number : ∃ value, Denotes payload value ∧ escape.Accepts value
  · obtain ⟨value, denotes, accepted⟩ := number
    obtain ⟨rfl, rfl⟩ := refuses value denotes accepted
    exact accepts 0 (getLong_iff.mpr denotes) accepted
  · exact ignores fun value parsed accepted => number ⟨value, getLong_iff.mp parsed, accepted⟩

theorem handleEscRequest_crlf (world : World) {escape : EscRequest} (crlf : ∀ char ∈ ending, isCrlf char = true)
    (other : escape ≠ .cwdevice ∧ escape ≠ .reply) (refuses : escape.isNumeric = true → escape.Refuses payload) :
    state.handleEscRequest world escape (payload ++ ending) = state.handleEscRequest world escape payload := by
  by_cases empty : ending = []
  · rw [empty, List.append_nil]
  by_cases numeric : escape.isNumeric = true
  · have refuses' : escape.Refuses (payload ++ ending) :=
      fun value denotes => absurd denotes (not_denotes_append empty crlf value)
    rw [handleEscRequest_refuses world numeric (refuses numeric), handleEscRequest_refuses world numeric refuses']
  · cases escape with
    | soundSystem => simp only [handleEscRequest, escSoundSystem, paramsSystem_append crlf]
    | reset | abort | exit | wordMode | port => rfl
    | cwdevice => exact absurd rfl other.1
    | reply => exact absurd rfl other.2
    | speed | tone | weighting | pttState | ssbWay | tune | txDelay | bandSwitch | volume =>
      exact absurd rfl numeric

theorem handleEscapedRequest_crlf (world : World) (crlf : ∀ char ∈ ending, isCrlf char = true)
    (escaped : request.head? = some ASCII_ESC) (takes : TakesCrlf request) :
    state.handleEscapedRequest world (request ++ ending) = state.handleEscapedRequest world request := by
  rw [TakesCrlf, if_neg (not_not.mpr escaped)] at takes
  match request with
  | [] => cases escaped
  | [first] =>
    -- CR and LF are no codes.
    cases ending with
    | nil => rfl
    | cons char rest =>
      have unknown : EscRequest.ofCode char = none := by
        rcases isCrlf_iff.mp (crlf char List.mem_cons_self) with rfl | rfl
        · rfl
        · rfl
      simp [handleEscapedRequest, escapeRequest, unknown]
  | first :: code :: payload =>
    cases known : EscRequest.ofCode code with
    | none => simp [handleEscapedRequest, escapeRequest, known]
    | some escape =>
      obtain ⟨device, reply, refuses⟩ := takes escape payload (by simp [escapeRequest, known])
      have same : state.handleEscRequest world escape (payload ++ ending) = state.handleEscRequest world escape payload :=
        handleEscRequest_crlf world crlf ⟨device, reply⟩ refuses
      simpa [handleEscapedRequest, escapeRequest, known] using same

/-! ## Texts -/

/-- What is behind the caret that is honoured is not read. -/
theorem program_endsAtCaret (ends : EndsAtCaret request) {opened : Bool} (index : Nat) (gap speed : Int)
    (known : gap = 2 → opened = true) :
    ∃ commands found, (∀ command ∈ commands, ∀ index, command ≠ .reply index) ∧ found < index + request.length ∧
      ∀ tail, program opened false index gap speed (request ++ tail) = commands ++ [.reply found] := by
  have honoured {text : Bytes} (rest : Bytes) (index : Nat) (gap speed : Int) (known : gap = 2 → opened = true)
      (caretFree : byte '^' ∉ text) (whole : ¬ HalfGapped opened gap text) :
      ∃ commands found, (∀ command ∈ commands, ∀ index, command ≠ .reply index) ∧
        found < index + (text ++ byte '^' :: rest).length ∧
        ∀ tail, program opened false index gap speed ((text ++ byte '^' :: rest) ++ tail) =
          commands ++ [.reply found] := by
    refine ⟨_, index + text.length, program_silent opened false index gap speed caretFree, by simp, fun tail => ?_⟩
    rw [List.append_assoc, List.cons_append]
    exact program_whole_caret index speed caretFree known whole (rest ++ tail)
  induction ends generalizing gap index speed with
  | honoured rest caretFree whole =>
    exact honoured rest index gap speed known caretFree (mt HalfGapped.widest whole)
  | @skipped text rest caretFree half ends inductionHypothesis =>
    by_cases half' : HalfGapped opened gap text
    · have generator : opened = true := by
        obtain ⟨-, -, -, -, ⟨-, level⟩ | ⟨generator, -⟩⟩ := half'
        · exact known level
        · exact generator
      obtain ⟨commands, speed', alone, goesOn⟩ := program_skipped_caret index speed caretFree known half'
      obtain ⟨commands', found, silent, inside, split⟩ :=
        inductionHypothesis (index + text.length + 1) 2 speed' fun _ => generator
      have earlier := program_silent opened false index gap speed caretFree
      rw [alone] at earlier
      refine ⟨commands ++ commands', found,
        List.forall_mem_append.mpr ⟨(List.forall_mem_append.mp earlier).1, silent⟩, ?_, fun tail => ?_⟩
      · rw [List.length_append, List.length_cons]
        omega
      · rw [List.append_assoc, List.cons_append, goesOn, split, List.append_assoc]
    · exact honoured rest index gap speed known caretFree half'

/-- What no request changes. -/
def settings (state : State) : Int × Int × Int := (state.networkPort, state.processPriority, state.inactivitySeconds)

theorem Spoken.settings {before after : State} (spoken : Spoken before after) : after.settings = before.settings := by
  obtain ⟨_, _, _, _, _, _, _, _, rfl⟩ := spoken
  rfl

/-- States that are alike while a reply is pending differ in nothing else. -/
theorem Alike.sameEffect {first second : State} (alike : Alike (.sameQueue true True) first second)
    (pending : first.pttFlag.has .echo = true) (settings : first.settings = second.settings) :
    SameEffect first second := by
  refine ⟨?_, alike.calls⟩
  have queue : first.requestQueue = second.requestQueue := Buffer.ext alike.requestQueue
  have devices : first.devices = second.devices := funext alike.devices
  obtain ⟨replyBuffer, replyAddr⟩ := alike.reply pending
  have sender := alike.requestAddr trivial
  obtain ⟨defaults, current, audio, mode, flag, -, -, -, device, -, libcw, status, -⟩ := alike
  obtain ⟨networkPort, processPriority, seconds⟩ : _ ∧ _ ∧ _ := by
    simpa only [State.settings, Prod.mk.injEq] using settings
  cases first
  cases second
  simp only at *
  subst defaults current networkPort processPriority audio mode seconds flag queue replyBuffer sender replyAddr
    device devices libcw status
  rfl

/-- A reply does not depend on what is behind it in the request queue. -/
theorem Alike.sameEffect_reply {first second : State} (alike : Alike .sameBusy first second)
    (settings : first.settings = second.settings) {index : Nat} (short : index ≤ 255)
    (reply : first.requestQueue.bytes.take index = second.requestQueue.bytes.take index) (world : World) :
    SameEffect (first.exec world (.reply index)).clearRequestQueue
      (second.exec world (.reply index)).clearRequestQueue := by
  have again (state : State) : state.exec world (.reply index) =
      State.exec world { state with requestQueue := state.requestQueue.cut index } (.reply index) := by
    have same : (state.requestQueue.cut index).cut index = state.requestQueue.cut index :=
      Buffer.ext (by simp [List.take_take])
    simp only [State.exec, same]
  have cut : Alike (.sameQueue true True) { first with requestQueue := first.requestQueue.cut index }
      { second with requestQueue := second.requestQueue.cut index } := { alike with requestQueue := reply }
  have pending := (exec_reply world short { first with requestQueue := first.requestQueue.cut index }).1.echo
  rw [again first, again second]
  refine (cut.execReply world trivial short).clearRequestQueue.sameEffect pending ?_
  have kept (state : State) : (state.exec world (.reply index)).clearRequestQueue.settings = state.settings := by
    simp only [State.exec, State.prepareReply]
    split <;> rfl
  rw [kept, kept]
  exact settings

/-- A text is played up to the caret, whatever is behind it. -/
theorem receiveText_endsAtCaret (idle : state.requestQueue.bytes = []) (ends : EndsAtCaret request)
    (nulFree : 0 ∉ request ++ ending) (length : (request ++ ending).length ≤ CWDAEMON_REQUEST_SIZE_MAX)
    (world : World) :
    SameEffect (state.receiveText world (request ++ ending)) (state.receiveText world request) := by
  have nulFree' : 0 ∉ request := fun member => nulFree (List.mem_append_left ending member)
  have length' : request.length ≤ CWDAEMON_REQUEST_SIZE_MAX := by
    rw [List.length_append] at length
    omega
  obtain ⟨commands, found, silent, inside, split⟩ := program_endsAtCaret ends 0 state.gap state.current.morseSpeed
    opened_of_halfGap
  rw [Nat.zero_add] at inside
  have compiled := split ending
  have compiled' := split []
  rw [List.append_nil] at compiled'
  rw [receiveText_program idle nulFree length world, receiveText_program idle nulFree' length' world, programOf,
    programOf, compiled, compiled', execAll_append, execAll_append]
  have queued := (receiveText_eq world (request ++ ending) idle nulFree (Nat.lt_of_le_of_lt length (by decide))).1
  have queued' := (receiveText_eq world request idle nulFree' (Nat.lt_of_le_of_lt length' (by decide))).1
  generalize first_eq : ({ state with requestQueue := state.requestQueue.append (request ++ ending) } : State) = first
  generalize second_eq : ({ state with requestQueue := state.requestQueue.append request } : State) = second
  -- Up to the reply the two differ only in the end of the request queue.
  have alike : Alike .sameBusy first second := by
    have busy : request ≠ [] := List.ne_nil_of_length_pos (by omega)
    have same : Alike .sameBusy state state := .refl (fun _ => Iff.rfl) state
    rw [← first_eq, ← second_eq]
    refine { same with requestQueue := ?_ }
    show _ = _ ↔ _ = _
    rw [queued, queued']
    simp [busy]
  have settings : first.settings = second.settings := by
    rw [← first_eq, ← second_eq]
    rfl
  refine (alike.execAll world silent).sameEffect_reply ?_ ?_ ?_ world
  · rw [(spoken_execAll world silent first).settings, (spoken_execAll world silent second).settings, settings]
  · simp only [CWDAEMON_REQUEST_SIZE_MAX] at length'
    omega
  · have edited : first.requestQueue.bytes = request ++ ending := by rw [← first_eq, queued]
    have edited' : second.requestQueue.bytes = request := by rw [← second_eq, queued']
    rw [execAll_requestQueue world silent, execAll_requestQueue world silent, edited, edited', take_foldl_edit,
      take_foldl_edit, List.take_append_of_le_length (Nat.le_of_lt inside)]

/-! ## Texts without such a caret -/

/-- Every byte that is played up to the caret is one question for the gap. -/
theorem reads_program (opened lookAhead : Bool) (index : Nat) (gap speed : Int) {text : Bytes}
    (caretFree : byte '^' ∉ text) :
    (program opened lookAhead index gap speed text).count .readGap = text.countP isPlayed := by
  induction text generalizing lookAhead index gap speed with
  | nil => cases lookAhead <;> rfl
  | cons char rest inductionHypothesis =>
    obtain ⟨uncut, later⟩ : char ≠ byte '^' ∧ byte '^' ∉ rest := by simpa [eq_comm] using caretFree
    have reset : (if lookAhead then [Command.gap 0] else []).count .readGap = 0 := by cases lookAhead <;> rfl
    simp only [program, uncut, decide_false, Bool.and_false, Bool.false_eq_true, if_false, List.count_append, reset,
      Nat.zero_add, List.countP_cons]
    by_cases sign : isSpeedSign char = true
    · have silent : isPlayed char = false := by simp [isPlayed, sign]
      rw [if_pos sign]
      split
      case isTrue => simp [inductionHypothesis _ _ _ _ later, silent]
      case isFalse => simp [inductionHypothesis _ _ _ _ later, silent]
    · rw [if_neg sign]
      by_cases tilde : char = byte '~'
      · have silent : isPlayed char = false := by simp [isPlayed, tilde]
        rw [if_pos tilde]
        simp [inductionHypothesis _ _ _ _ later, silent]
      · have sounds : isPlayed char = true := by simp [isPlayed, sign, tilde]
        have once : (characterCommands index char).count .readGap = 1 := by
          unfold characterCommands
          split <;> split <;> simp
        rw [if_neg tilde, List.count_append, once, inductionHypothesis _ _ _ _ later, if_pos sounds, Nat.add_comm]

/-- A text without a caret that is honoured is read to its end. -/
theorem reads_unended (unended : ¬ EndsAtCaret request) (caretFree : byte '^' ∉ ending) (index : Nat)
    (speed : Int) :
    (program true false index 2 speed (request ++ ending)).count .readGap =
      (request ++ ending).countP fun char => isPlayed char && char != byte '^' := by
  induction size : request.length using Nat.strongRecOn generalizing request index speed with
  | ind length inductionHypothesis =>
    have alone {text : Bytes} (caretFree : byte '^' ∉ text) :
        text.countP (fun char => isPlayed char && char != byte '^') = text.countP isPlayed :=
      List.countP_congr fun char member => by
        have other : char ≠ byte '^' := fun same => caretFree (same ▸ member)
        simp [other]
    by_cases caret : byte '^' ∈ request
    · obtain ⟨text, rest, rfl, caretFree', -⟩ := split_at_caret caret
      by_cases half : HalfGapped true 2 text
      · obtain ⟨commands, speed', compiled, goesOn⟩ := program_skipped_caret index speed caretFree' (fun _ => rfl) half
        have read := reads_program true false index 2 speed caretFree'
        have later := inductionHypothesis rest.length (by simp [← size]; omega)
          (fun ends => unended (.skipped caretFree' half ends)) (index + text.length + 1) speed' rfl
        replace read : commands.count .readGap = text.countP isPlayed := by simpa [compiled] using read
        rw [List.append_assoc, List.cons_append, goesOn, List.count_append, later, read, ← alone caretFree']
        simp
      · exact absurd (.honoured rest caretFree' half) unended
    · have caretFree' : byte '^' ∉ request ++ ending := by simp [caret, caretFree]
      rw [reads_program _ _ _ _ _ caretFree', alone caretFree']

theorem SameEffect.asked {first second : State} (same : SameEffect first second) (before : State) :
    asked before first = asked before second := by
  have calls (after : State) : State.asked before after =
      ((shown true after.log).drop before.log.length).filterMap Call.asks := by
    rw [State.asked, shown, ← List.map_drop, List.filterMap_map]
    rfl
  rw [calls, calls, same.2]

/-- Behind a text that is read to its end CR and LF are played. -/
theorem receiveText_unended (idle : state.requestQueue.bytes = []) (half : state.gap = 2)
    (unended : ¬ EndsAtCaret request) (some : ending ≠ []) (crlf : ∀ char ∈ ending, isCrlf char = true) (nulFree : 0 ∉ request ++ ending)
    (length : (request ++ ending).length ≤ CWDAEMON_REQUEST_SIZE_MAX) (world : World) {after : State}
    (asks : asked state after = (state.programOf request).filter Command.isAsked) :
    ¬ SameEffect (state.receiveText world (request ++ ending)) after := by
  intro same
  have caretFree : byte '^' ∉ ending := fun member => absurd (crlf _ member) (by decide)
  have equal := same.asked state
  rw [asked_receiveText idle nulFree length world, asks] at equal
  have count := congrArg (List.count .readGap) equal
  have read := reads_unended unended caretFree 0 state.current.morseSpeed
  have read' := reads_unended unended (List.not_mem_nil (a := byte '^')) 0 state.current.morseSpeed
  rw [List.append_nil] at read'
  rw [List.count_filter rfl, List.count_filter rfl, programOf, programOf, opened_of_halfGap half, half, read, read',
    List.countP_append, Nat.add_eq_left, List.countP_eq_zero] at count
  obtain ⟨char, member⟩ := List.exists_mem_of_ne_nil _ some
  rcases isCrlf_iff.mp (crlf char member) with rfl | rfl
  · exact count _ member (by decide)
  · exact count _ member (by decide)

/-! ## Escape requests that take their payload to its end -/

theorem not_sameEffect_of_log {first second : State} {new : List Entry} (appended : second.log = first.log ++ new)
    (some : new ≠ []) : ¬ SameEffect first second := by
  intro same
  have lengths := congrArg List.length same.2
  simp only [shown, List.length_map, appended, List.length_append] at lengths
  have positive := List.length_pos_of_ne_nil some
  omega

theorem SameEffect.field {α : Type} {first second : State} (same : SameEffect first second) (field : State → α)
    (unseen : ∀ state, field { state with log := [] } = field state) : field first = field second := by
  rw [← unseen first, ← unseen second, same.1]

/-- A number that is accepted makes a difference in some state, unless it asks to tune for
0 seconds. -/
theorem obey_shows {escape : EscRequest} (numeric : escape.isNumeric = true) {value : Int}
    (accepts : escape.Accepts value) (sense : ¬ (escape = .tune ∧ value = 0)) :
    ∃ state, Reachable state ∧ ¬ SameEffect (state.atHand client) ((state.atHand client).obey calm escape value) := by
  have serial : Reachable onSerialPort := ⟨onSerialPort, [], started_onSerialPort, rfl⟩
  have parallel : Reachable onParallelPort := ⟨onParallelPort, [], started_onParallelPort, rfl⟩
  cases escape with
  | reset | abort | exit | wordMode | cwdevice | port | soundSystem | reply => cases numeric
  | speed | weighting | volume => exact ⟨onSerialPort, serial, not_sameEffect_of_log rfl (List.cons_ne_nil _ _)⟩
  | tone =>
    refine ⟨onSerialPort, serial, ?_⟩
    simp only [obey]
    split
    · exact not_sameEffect_of_log (List.append_assoc _ _ _) (List.cons_ne_nil _ _)
    · exact not_sameEffect_of_log rfl (List.cons_ne_nil _ _)
  | tune =>
    refine ⟨onSerialPort, serial, ?_⟩
    have positive : 0 < value.toNat := by
      simp only [EscRequest.Accepts] at accepts
      simp only [true_and] at sense
      omega
    have flushed : Adds (fun _ => True) (onSerialPort.atHand client) (onSerialPort.atHand client).cwFlushToneQueue :=
      .callGenerator _ trivial
    have raised := flushed.trans ((adds_setPttOn _).mono fun _ _ => trivial)
    obtain ⟨new, appended, -⟩ := raised.trans (adds_queueTuneTones value.toNat _ fun _ => trivial)
    simp only [obey, tune, if_pos positive]
    exact not_sameEffect_of_log ((congrArg (· ++ _) appended).trans (List.append_assoc _ _ _)) (by simp)
  | txDelay =>
    refine ⟨onSerialPort, serial, fun same => ?_⟩
    by_cases off : value = 0
    · subst off
      exact absurd (congrArg List.length same.2) (by decide +kernel)
    · simp only [obey, if_neg off] at same
      have delayed : (onSerialPort.atHand client).current.pttDelayMs = (EscRequest.txDelay.taken value).toNat :=
        same.field (·.current.pttDelayMs) fun _ => rfl
      have undelayed : (onSerialPort.atHand client).current.pttDelayMs = 0 := by decide +kernel
      have top : CWDAEMON_PTT_DELAY_MAX = 50 := rfl
      have bottom : CWDAEMON_PTT_DELAY_MIN = 0 := rfl
      simp only [EscRequest.Accepts] at accepts
      simp only [undelayed, EscRequest.taken, if_true] at delayed
      omega
  | pttState =>
    by_cases off : value = 0
    · subst off
      exact ⟨withManualPtt, reachable_withManualPtt, fun same =>
        absurd (same.field State.pttFlag fun _ => rfl) (by decide +kernel)⟩
    · refine ⟨onSerialPort, serial, fun same => ?_⟩
      have manual := same.field (·.pttFlag.has .manual) fun _ => rfl
      simp only [obey, ne_eq, off, not_false_eq_true, if_true, setPttFlag_pttFlag, PttFlag.has_set, decide_true,
        Bool.true_or] at manual
      exact absurd manual (by decide +kernel)
  | ssbWay => exact ⟨onParallelPort, parallel, not_sameEffect_of_log rfl (List.cons_ne_nil _ _)⟩
  | bandSwitch => exact ⟨onParallelPort, parallel, not_sameEffect_of_log rfl (List.cons_ne_nil _ _)⟩

/-- Without ports every name is a name for the null device. -/
theorem escCwdevice_portless {name : Bytes} (some : name ≠ []) (state : State) :
    (state.escCwdevice portless name).globalCwdevice = .null ∧
      ((state.escCwdevice portless name).devices .null).desc = .some name := by
  have tty : ttyProbeCwdevice portless name = none := by simp [ttyProbeCwdevice, portless]
  have lp : lpProbeCwdevice portless name = none := by simp [lpProbeCwdevice, portless, calm]
  have duplicates : portless.strdup = true := rfl
  obtain ⟨devices, log, freed, -⟩ := deviceFree_eq (state.cwRegisterKeyingCallback none).globalCwdevice
    { state.cwRegisterKeyingCallback none with globalCwdevice := .null }
  simp only [escCwdevice, optionCwdevice, if_neg some, cwdeviceSet, tty, lp, adoptCwdevice, duplicates, if_true, freed]
  exact ⟨rfl, rfl⟩

theorem escCwdevice_shows (some : ending ≠ []) :
    ¬ SameEffect ((onSerialPort.atHand client).escCwdevice portless (payload ++ ending))
      ((onSerialPort.atHand client).escCwdevice portless payload) := by
  intro same
  have longer : payload ++ ending ≠ [] := List.append_ne_nil_of_right_ne_nil payload some
  obtain ⟨null, desc⟩ := escCwdevice_portless longer (onSerialPort.atHand client)
  by_cases empty : payload = []
  · have device := same.field State.globalCwdevice fun _ => rfl
    rw [null, empty] at device
    exact absurd device (by decide +kernel)
  · have name := same.field (fun state => (state.devices .null).desc) fun _ => rfl
    rw [desc, (escCwdevice_portless empty (onSerialPort.atHand client)).2, Option.some.injEq] at name
    exact some (List.append_right_eq_self.mp name)

theorem escReply_shows (some : ending ≠ []) (nulFree : 0 ∉ payload ++ ending)
    (short : (payload ++ ending).length < 255) (state : State) :
    ¬ SameEffect (state.escReply (payload ++ ending)) (state.escReply payload) := by
  intro same
  have copied {payload : Bytes} (nulFree : 0 ∉ payload) (short : payload.length < 255) :
      (state.escReply payload).replyBuffer.bytes = EscRequest.reply.code :: payload := by
    obtain ⟨buffer, bytes, prepared⟩ := prepareReply_eq (reply_nul_free nulFree) short state
    rw [escReply, prepared]
    exact bytes
  rw [List.length_append] at short
  have reply := same.field (·.replyBuffer.bytes) fun _ => rfl
  rw [copied nulFree (by rwa [List.length_append]),
    copied (fun member => nulFree (List.mem_append_left ending member)) (by omega)] at reply
  exact some (List.append_right_eq_self.mp (List.cons.inj reply).2)

theorem atHand_eq (sender : SockaddrIn) (state : State) :
    ∃ seconds, state.atHand sender = { state with inactivitySeconds := seconds, requestAddr := sender } := by
  obtain ⟨seconds, counted⟩ := countInactivity_eq state
  exact ⟨seconds, by rw [atHand, counted]⟩

/-! ## Requests with CR or LF behind them -/

theorem handleRequest_crlf (idle : state.requestQueue.bytes = []) (crlf : ∀ char ∈ ending, isCrlf char = true)
    (takes : TakesCrlf request) (some : request ≠ []) (nulFree : 0 ∉ request ++ ending)
    (length : (request ++ ending).length ≤ CWDAEMON_REQUEST_SIZE_MAX) (world : World) :
    SameEffect (state.handleRequest world (request ++ ending)) (state.handleRequest world request) := by
  simp only [handleRequest, List.head?_append_of_ne_nil _ some]
  split
  case isTrue text =>
    rw [TakesCrlf, if_pos text] at takes
    exact receiveText_endsAtCaret idle takes nulFree length world
  case isFalse escaped =>
    rw [handleEscapedRequest_crlf world crlf (not_not.mp escaped) takes]
    exact .refl _

theorem escapeRequest_eq {escape : EscRequest} (escaped : request.head? = some ASCII_ESC)
    (parsed : escapeRequest request = some (escape, payload)) : request = ASCII_ESC :: escape.code :: payload := by
  match request with
  | [] | [_] => cases parsed
  | first :: code :: rest =>
    obtain ⟨known, found, same⟩ := Option.map_eq_some_iff.mp parsed
    obtain ⟨rfl, rfl⟩ := Prod.mk.inj same
    cases escaped
    rw [EscRequest.code_of_ofCode found]

/-- Behind any other request CR and LF make a difference in some state. -/
theorem handleRequest_shows (crlf : ∀ char ∈ ending, isCrlf char = true) (some : ending ≠ [])
    (notices : ¬ TakesCrlf request) (nulFree : 0 ∉ request ++ ending)
    (length : (request ++ ending).length ≤ CWDAEMON_REQUEST_SIZE_MAX) :
    ∃ state world, Reachable state ∧ ¬ SameEffect ((state.atHand client).handleRequest world (request ++ ending))
      (if request = [] then state.atHand client else (state.atHand client).handleRequest world request) := by
  by_cases escaped : request.head? = .some ASCII_ESC
  · rw [TakesCrlf, if_neg (not_not.mpr escaped)] at notices
    push Not at notices
    obtain ⟨escape, payload, parsed, other⟩ := notices
    obtain rfl := escapeRequest_eq escaped parsed
    have serial : Reachable onSerialPort := ⟨onSerialPort, [], started_onSerialPort, rfl⟩
    simp only [List.cons_append, List.mem_cons, not_or] at nulFree
    simp only [List.cons_append, List.length_cons, CWDAEMON_REQUEST_SIZE_MAX] at length
    simp only [List.cons_append, handleRequest_escape, if_neg (List.cons_ne_nil _ _)]
    by_cases device : escape = .cwdevice
    · rw [device]
      exact ⟨onSerialPort, portless, serial, escCwdevice_shows some⟩
    by_cases reply : escape = .reply
    · rw [reply]
      exact ⟨onSerialPort, calm, serial, escReply_shows some nulFree.2.2 (by omega) _⟩
    obtain ⟨numeric, accepted⟩ := other device reply
    simp only [EscRequest.Refuses] at accepted
    push Not at accepted
    obtain ⟨value, denotes, accepts, sense⟩ := accepted
    obtain ⟨state, reachable, shows⟩ := obey_shows numeric accepts (not_and.mpr sense)
    refine ⟨state, calm, reachable, ?_⟩
    rwa [handleEscRequest_refuses calm numeric fun value denotes => absurd denotes (not_denotes_append some crlf value),
      (handleEscRequest_numeric calm numeric payload (state.atHand client)).1 value (getLong_iff.mpr denotes) accepts]
  · rw [TakesCrlf, if_pos escaped] at notices
    refine ⟨behindTilde, calm, reachable_behindTilde, ?_⟩
    have idle : (behindTilde.atHand client).requestQueue.bytes = [] := by
      obtain ⟨seconds, equal⟩ := atHand_eq client behindTilde
      rw [equal]
      exact reachable_behindTilde.wellformed.idle
    have half : (behindTilde.atHand client).gap = 2 := by decide +kernel
    have text : (behindTilde.atHand client).handleRequest calm (request ++ ending) =
        (behindTilde.atHand client).receiveText calm (request ++ ending) := by
      rw [handleRequest, if_pos]
      cases request with
      | cons => exact escaped
      | nil =>
        cases ending with
        | nil => exact absurd rfl some
        | cons char rest =>
          rintro same
          cases same
          exact absurd (crlf ASCII_ESC List.mem_cons_self) (by decide)
    rw [text]
    refine receiveText_unended idle half notices some crlf nulFree length calm ?_
    split
    case isTrue empty =>
      subst empty
      simp [asked, programOf, program]
    case isFalse =>
      rw [handleRequest, if_pos escaped]
      exact asked_receiveText idle (fun member => nulFree (List.mem_append_left ending member)) (by
        rw [List.length_append] at length
        omega) calm

end State

open State

/-- What is behind the first NUL of a datagram does not matter exactly when no CR or LF is
in front of it, or when the request takes no notice of them. -/
theorem nul_ends_iff {datagram : Bytes} (length : datagram.length ≤ CWDAEMON_REQUEST_SIZE_MAX)
    (first : datagram.head? ≠ some 0) :
    NulEnds datagram ↔
      (0 ∈ datagram → stripCrlf (cstr datagram) = cstr datagram ∨ TakesCrlf (stripCrlf (cstr datagram))) := by
  obtain ⟨ending, split, crlf⟩ := stripCrlf_split (cstr datagram)
  have nulFree := zero_not_mem_cstr datagram
  have short := (cstr_length_le datagram).trans length
  have alone := requestOf_of_nul_free nulFree short
  rw [← split] at nulFree short
  constructor
  · intro ends nul
    by_contra neither
    obtain ⟨changed, notices⟩ := not_or.mp neither
    have some : ending ≠ [] := by
      rintro rfl
      exact changed (by simpa using split)
    obtain ⟨state, world, reachable, shows⟩ := handleRequest_shows crlf some notices nulFree short
    have same := ends state reachable world client
    rw [handleDatagram_eq, handleDatagram_eq, requestOf_of_nul nul length, alone] at same
    rw [split] at shows
    by_cases empty : stripCrlf (cstr datagram) = []
    · rw [if_pos empty] at same shows
      exact shows same
    · rw [if_neg empty] at same shows
      exact shows same
  · intro harmless state reachable world sender
    by_cases nul : 0 ∈ datagram
    · have some : cstr datagram ≠ [] := by
        cases datagram with
        | nil => cases nul
        | cons char rest =>
          have nonzero : char ≠ 0 := by simpa using first
          simp [cstr, nonzero]
      rw [handleDatagram_eq, handleDatagram_eq, requestOf_of_nul nul length, alone]
      rcases harmless nul with unchanged | takes
      · rw [unchanged, if_neg some]
        exact .refl _
      · rw [if_neg takes.ne_nil, Option.elim_some, Option.elim_some]
        obtain ⟨seconds, equal⟩ := atHand_eq sender state
        have idle : (state.atHand sender).requestQueue.bytes = [] := by
          rw [equal]
          exact reachable.wellformed.idle
        have same := handleRequest_crlf idle crlf takes takes.ne_nil nulFree short world
        rwa [split] at same
    · rw [cstr_of_nul_free nul]
      exact .refl _

/-- A letter with the NUL of its string. -/
theorem nul_ends_behind_a_letter : NulEnds [byte 'e', 0] :=
  (nul_ends_iff (by decide) (by decide)).mpr fun _ => .inl (by decide)

/-- `e`, a newline and a NUL: the newline is played. -/
theorem newline_stays_in_front_of_nul :
    ¬ ∀ datagram : Bytes, datagram.length ≤ CWDAEMON_REQUEST_SIZE_MAX → datagram.head? ≠ some 0 →
      NulEnds datagram := by
  intro ends
  have same := ends [byte 'e', byte '\n', 0] (by decide) (by decide) onSerialPort
    ⟨onSerialPort, [], started_onSerialPort, rfl⟩ calm client
  exact absurd (congrArg List.length same.2) (by decide +kernel)

end Cwdaemon
