import Cwdaemon.Daemon.Socket
import Cwdaemon.Verified.TrailingNul

/-! # What is sent and what is received

The string that ends up in `request_buffer` is the request of the datagram.  Exactly which
strings can end up there, and what becomes of an Escape request of a client, follows from
what is removed on the way: the bytes from the 257th on, CR and LF at the end, and what is
behind a NUL.
-/

namespace Cwdaemon

open CString

/-! ## The request buffer -/

/-- What is behind a NUL is not part of a C string, and the first NUL may come before. -/
theorem cstr_append_zero (front rest : Bytes) : cstr (front ++ 0 :: rest) = cstr front := by
  induction front with
  | nil => rfl
  | cons char front inductionHypothesis =>
    simp only [cstr] at inductionHypothesis ⊢
    rw [List.cons_append, List.takeWhile_cons, List.takeWhile_cons, inductionHypothesis]

theorem stripCrlf_concat (front : Bytes) (char : UInt8) :
    stripCrlf (front ++ [char]) = if isCrlf char = true then stripCrlf front else front ++ [char] := by
  have last : stripCrlf (front ++ [char]) =
      (if isCrlf char = true then front.reverse.dropWhile isCrlf else char :: front.reverse).reverse := by
    rw [stripCrlf, List.reverse_append, List.reverse_singleton, List.singleton_append, List.dropWhile_cons]
    rfl
  rw [last]
  split
  · rfl
  · rw [List.reverse_cons, List.reverse_reverse]

/-- The loop leaves the part that is not removed in front, and counts it. -/
theorem removeCrlf_eq {count : Nat} {buffer : Bytes} (inside : count ≤ buffer.length) :
    (removeCrlf count buffer).1 = (stripCrlf (buffer.take count)).length ∧
      (removeCrlf count buffer).2.length = buffer.length ∧
      (removeCrlf count buffer).2.take (removeCrlf count buffer).1 = stripCrlf (buffer.take count) := by
  induction count generalizing buffer with
  | zero => exact ⟨rfl, rfl, rfl⟩
  | succ count inductionHypothesis =>
    have taken : buffer.take (count + 1) = buffer.take count ++ [buffer.getD count 0] := by
      rw [List.take_succ_eq_append_getElem inside, List.getD_eq_getElem?_getD, List.getElem?_eq_getElem inside]
      rfl
    have sign : isCrlf (buffer.getD count 0) = true ↔
        buffer.getD count 0 = byte '\n' ∨ buffer.getD count 0 = byte '\r' := isCrlf_iff
    rw [taken, stripCrlf_concat, removeCrlf]
    simp only [← sign]
    -- The NUL that replaces a CR or LF is behind what the loop still looks at.
    by_cases removed : isCrlf (buffer.getD count 0) = true
    · rw [if_pos removed, if_pos removed]
      have shorter : count ≤ (buffer.set count 0).length := by
        rw [List.length_set]
        exact Nat.le_of_lt inside
      obtain ⟨counted, length, front⟩ := inductionHypothesis shorter
      rw [List.take_set_of_le (Nat.le_refl count)] at counted front
      exact ⟨counted, length.trans List.length_set, front⟩
    · rw [if_neg removed, if_neg removed, ← taken]
      exact ⟨(List.length_take_of_le inside).symm, rfl, rfl⟩

/-- What is in the buffer when a datagram has been received. -/
theorem receiveBuffer_datagram (client : SockaddrIn) (bytes : Bytes) :
    receiveBuffer (.datagram client bytes) =
      match requestOf bytes with
      | none => .nothing
      | some request => .request request := by
  have short : (bytes.take CWDAEMON_REQUEST_SIZE_MAX).length ≤ CWDAEMON_REQUEST_SIZE_MAX := List.length_take_le _ _
  simp only [receiveBuffer, cwdaemonRecvfrom, requestOf]
  generalize bytes.take CWDAEMON_REQUEST_SIZE_MAX = copied at short
  by_cases empty : copied.length = 0
  · obtain rfl := List.eq_nil_of_length_eq_zero empty
    rfl
  rw [if_neg empty]
  generalize filled : copied ++ (List.replicate (CWDAEMON_REQUEST_SIZE_MAX + 1) (0 : UInt8)).drop copied.length = buffer
  have size : buffer.length = CWDAEMON_REQUEST_SIZE_MAX + 1 := by
    rw [← filled, List.length_append, List.length_drop, List.length_replicate]
    omega
  have taken : buffer.take copied.length = copied := by rw [← filled, List.take_left]
  obtain ⟨counted, length, front⟩ := removeCrlf_eq (show copied.length ≤ buffer.length by omega)
  rw [taken] at counted front
  generalize removeCrlf copied.length buffer = loop at counted length front
  obtain ⟨count, cleared⟩ := loop
  simp only at counted length front ⊢
  rw [if_neg (by omega), if_neg (by omega)]
  by_cases nothing : stripCrlf copied = []
  · rw [nothing] at counted
    simp [nothing, counted]
  -- The NUL behind the last character that is left ends the string.
  · have some : 0 < count := by
      rw [counted]
      exact List.length_pos_iff.mpr nothing
    have room : count < cleared.length := by
      obtain ⟨ending, split, -⟩ := stripCrlf_split copied
      have parts := congrArg List.length split
      rw [List.length_append] at parts
      omega
    rw [if_neg (by omega), if_neg nothing, Int.toNat_natCast, List.set_eq_take_append_cons_drop, if_pos room, front,
      cstr_append_zero]

/-! ## Requests -/

/-- A string that the daemon may find in its request buffer.  A CR or LF at its end is one that
was not removed, since a NUL was behind it. -/
structure Request where
  bytes : Bytes
  nulFree : 0 ∉ bytes
  short : bytes.length ≤ CWDAEMON_REQUEST_SIZE_MAX
  ended : bytes.length = CWDAEMON_REQUEST_SIZE_MAX → stripCrlf bytes = bytes

/-- A datagram for a request: with a NUL behind it, if there is room for that. -/
def Request.datagram (request : Request) : Bytes :=
  if request.bytes.length < CWDAEMON_REQUEST_SIZE_MAX then request.bytes ++ [0] else request.bytes

theorem Request.arrives (request : Request) : requestOf request.datagram = some request.bytes := by
  unfold datagram
  split
  case isTrue room =>
    rw [requestOf_of_nul (by simp) (by rw [List.length_append]; exact room), cstr_append_nul request.nulFree]
  case isFalse full =>
    have length : request.bytes.length = CWDAEMON_REQUEST_SIZE_MAX := Nat.le_antisymm request.short (Nat.not_lt.mp full)
    have some : request.bytes ≠ [] := by
      rintro empty
      rw [empty] at length
      cases length
    rw [requestOf_of_nul_free request.nulFree request.short, request.ended length, if_neg some]

theorem stripCrlf_stripCrlf (bytes : Bytes) : stripCrlf (stripCrlf bytes) = stripCrlf bytes :=
  List.rdropWhile_idempotent _ _

/-- A part of a string that is as long as the string is all of it. -/
theorem stripCrlf_eq_of_length {bytes : Bytes} (length : bytes.length ≤ (stripCrlf bytes).length) :
    stripCrlf bytes = bytes := by
  obtain ⟨ending, split, -⟩ := stripCrlf_split bytes
  have parts := congrArg List.length split
  rw [List.length_append] at parts
  have none : ending = [] := List.eq_nil_of_length_eq_zero (by omega)
  rwa [none, List.append_nil] at split

theorem cstr_eq_of_length {bytes : Bytes} (length : bytes.length ≤ (cstr bytes).length) : cstr bytes = bytes :=
  (List.takeWhile_prefix _).eq_of_length_le length

theorem stripCrlf_length_le (bytes : Bytes) : (stripCrlf bytes).length ≤ bytes.length := by
  obtain ⟨ending, split, -⟩ := stripCrlf_split bytes
  have parts := congrArg List.length split
  rw [List.length_append] at parts
  omega

theorem ended_of_arrived {datagram text : Bytes} (arrived : requestOf datagram = some text)
    (full : text.length = CWDAEMON_REQUEST_SIZE_MAX) : stripCrlf text = text := by
  simp only [requestOf] at arrived
  split at arrived
  · cases arrived
  · have short : (datagram.take CWDAEMON_REQUEST_SIZE_MAX).length ≤ CWDAEMON_REQUEST_SIZE_MAX := List.length_take_le _ _
    generalize datagram.take CWDAEMON_REQUEST_SIZE_MAX = copied at arrived short
    cases arrived
    have stripped := stripCrlf_length_le copied
    rw [cstr_eq_of_length (by omega), stripCrlf_stripCrlf]

/-- What arrives is a request. -/
def Request.ofArrived {datagram text : Bytes} (arrived : requestOf datagram = some text) : Request where
  bytes := text
  nulFree := requestOf_nul_free arrived
  short := requestOf_length arrived
  ended := ended_of_arrived arrived

/-- Exactly the requests can end up in the request buffer, and each of them does if it is sent as
its datagram. -/
theorem request_buffer_holds_requests (text : Bytes) :
    (∃ client datagram, receiveBuffer (.datagram client datagram) = .request text) ↔
      ∃ request : Request, request.bytes = text ∧ ∀ client,
        receiveBuffer (.datagram client request.datagram) = .request text := by
  constructor
  · rintro ⟨client, datagram, received⟩
    rw [receiveBuffer_datagram] at received
    cases arrived : requestOf datagram with
    | none => simp [arrived] at received
    | some request =>
      rw [arrived] at received
      cases received
      refine ⟨.ofArrived arrived, rfl, fun client => ?_⟩
      rw [receiveBuffer_datagram, Request.arrives]
      rfl
  · rintro ⟨request, -, arrives⟩
    exact ⟨⟨0, 0⟩, request.datagram, arrives _⟩

/-! ## Escape requests -/

/-- What the daemon gets of the value of an Escape request. -/
def payloadOf (bytes : Bytes) : Bytes := cstr (stripCrlf (bytes.take (CWDAEMON_REQUEST_SIZE_MAX - 2)))

theorem stripCrlf_cons {char : UInt8} (kept : isCrlf char = false) (bytes : Bytes) :
    stripCrlf (char :: bytes) = char :: stripCrlf bytes := by
  have last : stripCrlf (char :: bytes) = ((bytes.reverse ++ [char]).dropWhile isCrlf).reverse := by
    rw [stripCrlf, List.reverse_cons]
    rfl
  have rest : stripCrlf bytes = (bytes.reverse.dropWhile isCrlf).reverse := rfl
  rw [last, rest, List.dropWhile_append]
  split
  case isTrue nothing =>
    rw [List.isEmpty_iff.mp nothing]
    simp [kept]
  case isFalse => rw [List.reverse_append, List.reverse_singleton, List.singleton_append]

theorem cstr_cons {char : UInt8} (nonzero : char ≠ 0) (bytes : Bytes) : cstr (char :: bytes) = char :: cstr bytes :=
  List.takeWhile_cons_of_pos (by simpa using nonzero)

theorem EscRequest.code_kept (request : EscRequest) : isCrlf request.code = false ∧ request.code ≠ 0 := by
  cases request <;> decide

theorem requestOf_escape (request : EscRequest) (bytes : Bytes) :
    requestOf (ASCII_ESC :: request.code :: bytes) = some (ASCII_ESC :: request.code :: payloadOf bytes) := by
  obtain ⟨kept, nonzero⟩ := request.code_kept
  have taken : (ASCII_ESC :: request.code :: bytes).take CWDAEMON_REQUEST_SIZE_MAX =
      ASCII_ESC :: request.code :: bytes.take (CWDAEMON_REQUEST_SIZE_MAX - 2) := rfl
  rw [requestOf, taken, stripCrlf_cons (by decide), stripCrlf_cons kept, cstr_cons (by decide), cstr_cons nonzero]
  rfl

theorem EscRequest.ofCode_code (request : EscRequest) : EscRequest.ofCode request.code = some request := by
  cases request <;> rfl

theorem action_escape (client : SockaddrIn) (request : EscRequest) (bytes : Bytes) :
    (Input.datagram client (ASCII_ESC :: request.code :: bytes)).action = .request request (payloadOf bytes) := by
  have parsed :
      State.escapeRequest (ASCII_ESC :: request.code :: payloadOf bytes) = some (request, payloadOf bytes) := by
    rw [State.escapeRequest, request.ofCode_code]
    rfl
  simp only [Input.action, requestOf_escape, if_neg (by simp : ¬ (ASCII_ESC :: _).head? ≠ some ASCII_ESC), parsed]

theorem payloadOf_eq_iff (bytes : Bytes) :
    payloadOf bytes = bytes ↔
      0 ∉ bytes ∧ bytes.length ≤ CWDAEMON_REQUEST_SIZE_MAX - 2 ∧ stripCrlf bytes = bytes := by
  constructor
  · intro survives
    have cut := cstr_length_le (stripCrlf (bytes.take (CWDAEMON_REQUEST_SIZE_MAX - 2)))
    have stripped := stripCrlf_length_le (bytes.take (CWDAEMON_REQUEST_SIZE_MAX - 2))
    have taken : (bytes.take (CWDAEMON_REQUEST_SIZE_MAX - 2)).length ≤ CWDAEMON_REQUEST_SIZE_MAX - 2 :=
      List.length_take_le _ _
    have length : (payloadOf bytes).length = bytes.length := congrArg List.length survives
    rw [payloadOf] at length
    have short : bytes.length ≤ CWDAEMON_REQUEST_SIZE_MAX - 2 := by omega
    rw [List.take_of_length_le short] at cut length
    refine ⟨?_, short, stripCrlf_eq_of_length (by omega)⟩
    rw [← survives]
    exact zero_not_mem_cstr _
  · rintro ⟨nulFree, short, ended⟩
    rw [payloadOf, List.take_of_length_le short, ended, cstr_of_nul_free nulFree]

theorem payloadOf_terminated {value : Bytes} (nulFree : 0 ∉ value)
    (short : value.length < CWDAEMON_REQUEST_SIZE_MAX - 2) : payloadOf (value ++ [0]) = value := by
  have length : (value ++ [0]).length ≤ CWDAEMON_REQUEST_SIZE_MAX - 2 := by
    rw [List.length_append]
    exact short
  have kept : stripCrlf (value ++ [0]) = value ++ [0] := by
    rw [stripCrlf_concat]
    rfl
  rw [payloadOf, List.take_of_length_le length, kept, cstr_append_nul nulFree]

/-- The Escape request that a client of the test library sends is the one that the daemon
handles.  Its value arrives as it is exactly if there is no NUL in it, no CR or LF at its end,
and it is no longer than the request buffer; with a NUL behind it, it may end in CR and LF. -/
theorem escape_request_arrives_as_sent {code : UInt8} {bytes datagram : Bytes}
    (sent : clientSendEscRequest code bytes = some datagram) (client : SockaddrIn) :
    ∃ request, EscRequest.ofCode code = some request ∧
      (Input.datagram client datagram).action = .request request (payloadOf bytes) ∧
      (payloadOf bytes = bytes ↔
        0 ∉ bytes ∧ bytes.length ≤ CWDAEMON_REQUEST_SIZE_MAX - 2 ∧ stripCrlf bytes = bytes) ∧
      ∀ value, bytes = value ++ [0] → 0 ∉ value → value.length < CWDAEMON_REQUEST_SIZE_MAX - 2 →
        payloadOf bytes = value := by
  unfold clientSendEscRequest at sent
  cases known : EscRequest.ofCode code with
  | none => simp [known] at sent
  | some request =>
    obtain rfl := EscRequest.code_of_ofCode known
    simp only [known] at sent
    split at sent
    · cases sent
    · cases sent
      refine ⟨request, rfl, action_escape client request bytes, payloadOf_eq_iff bytes, ?_⟩
      rintro value rfl nulFree short
      exact payloadOf_terminated nulFree short

/-- A speed, sent as a C string. -/
theorem speed_arrives_as_sent :
    ∃ request, EscRequest.ofCode (byte '2') = some request ∧
      (Input.datagram client [ASCII_ESC, byte '2', byte '3', byte '0', 0]).action =
        .request request (payloadOf [byte '3', byte '0', 0]) ∧
      (payloadOf [byte '3', byte '0', 0] = [byte '3', byte '0', 0] ↔
        0 ∉ [byte '3', byte '0', 0] ∧ [byte '3', byte '0', 0].length ≤ CWDAEMON_REQUEST_SIZE_MAX - 2 ∧
          stripCrlf [byte '3', byte '0', 0] = [byte '3', byte '0', 0]) ∧
      ∀ value, [byte '3', byte '0', 0] = value ++ [0] → 0 ∉ value → value.length < CWDAEMON_REQUEST_SIZE_MAX - 2 →
        payloadOf [byte '3', byte '0', 0] = value :=
  escape_request_arrives_as_sent rfl client

end Cwdaemon
