import Cwdaemon.Verified.KeyerRefinement

/-! # Steps of the daemon

An input is sorted by the action it leads to.  A step is then three things in a row:
the state is made ready for the action, the action is taken, and the iteration of
the main loop is finished.  Only the action can matter to PTT, to libcw or to a
reply, so a property of all runs is proved by cases on `Action`.
-/

namespace Cwdaemon

open CString

/-- What the daemon does about an input. -/
inductive Action where
  | idle
  | request (request : EscRequest) (payload : Bytes)
  | text (request : Bytes)
  | exit
  | dequeue
  | key (on : Bool)

def Input.action (input : Input) : Action :=
  match input with
  | .datagram _ bytes =>
    match requestOf bytes with
    | none => .idle
    | some request =>
      if request.head? ≠ some ASCII_ESC then .text request
      else
        match State.escapeRequest request with
        | none => .idle
        | some (request, payload) => .request request payload
  | .timeout => .idle
  | .receiveError => .exit
  | .dequeue => .dequeue
  | .key on => .key on

namespace State

def act (world : World) (action : Action) (state : State) : State :=
  match action with
  | .idle => state
  | .request request payload => state.handleEscRequest world request payload
  | .text request => state.receiveText world request
  | .exit => state.exitProcess 1
  | .dequeue => state.dequeue
  | .key on => state.keyingevent on

/-- A datagram has come; the request in it, if any, is about to be handled. -/
def arrive (client : SockaddrIn) (bytes : Bytes) (state : State) : State :=
  let state := { state with requestAddr := client }
  match requestOf bytes with
  | none => state
  | some request => state.record (.received client request)

theorem receive_eq (world : World) (client : SockaddrIn) (bytes : Bytes) (state : State) :
    state.receive world client bytes =
      (state.arrive client bytes).act world (Input.datagram client bytes).action := by
  cases arrived : requestOf bytes with
  | none => simp only [receive, arrive, Input.action, arrived, act]
  | some request =>
    -- An Escape request that is not recognised is dropped, as no request at all is.
    by_cases escape : request.head? = some ASCII_ESC
    · cases parsed : escapeRequest request with
      | none =>
        simp only [receive, arrive, Input.action, arrived, act, handleRequest, handleEscapedRequest,
          if_neg (not_not.mpr escape), parsed]
      | some parts =>
        simp only [receive, arrive, Input.action, arrived, act, handleRequest, handleEscapedRequest,
          if_neg (not_not.mpr escape), parsed]
    · simp only [receive, arrive, Input.action, arrived, act, handleRequest, if_pos escape]

/-- The state in which the action of an input is taken. -/
def ready (input : Input) (state : State) : State :=
  let state := { state with log := [] }
  match input with
  | .datagram client bytes => state.countInactivity.arrive client bytes
  | .timeout | .receiveError => state.countInactivity
  | .dequeue | .key _ => state

/-- What an iteration of the main loop does after the action. -/
def finish (world : World) (input : Input) (state : State) : State :=
  match input with
  | .datagram _ _ | .timeout | .receiveError =>
    if state.status = .running then state.pollFootswitch world else state
  | .dequeue | .key _ => state

theorem step_eq (label : Label) {state : State} (running : state.status = .running) :
    state.step label =
      ((state.ready label.input).act label.world label.input.action).finish label.world label.input := by
  obtain ⟨world, input⟩ := label
  simp only [step, if_pos running]
  cases input with
  | datagram client bytes =>
    simp only [handleInput, iterate, receive_eq]
    rfl
  | timeout | receiveError | dequeue | key => rfl

theorem step_ended (label : Label) {state : State} (ended : state.status ≠ .running) :
    state.step label = { state with log := [] } := if_neg ended

/-! ## The states around the action -/

theorem finish_cases (world : World) (input : Input) (state : State) :
    state.finish world input = state ∨
    ∃ port log, state.finish world input =
      state.withDevices (Function.update state.devices .lp port) (state.log ++ log) ∧
      ∀ entry ∈ log, ∃ on, entry.call = .devicePtt .lp on := by
  have polled : state.pollFootswitch world = state ∨
      ∃ port log, state.pollFootswitch world =
        state.withDevices (Function.update state.devices .lp port) (state.log ++ log) ∧
        ∀ entry ∈ log, ∃ on, entry.call = .devicePtt .lp on := by
    unfold pollFootswitch
    split
    · exact .inr ⟨_, [⟨.devicePtt .lp (!world.footswitch), state.moment⟩], rfl, by simp⟩
    · exact .inl rfl
    · exact .inl rfl
  cases input with
  | datagram | timeout | receiveError =>
    simp only [finish]
    split
    · exact polled
    · exact .inl rfl
  | dequeue | key => exact .inl rfl

theorem finish_keyer (world : World) (input : Input) (state : State) :
    (state.finish world input).keyer = state.keyer := by
  rcases finish_cases world input state with same | ⟨port, log, polled, -⟩
  · rw [same]
  · rw [polled]
    simp [keyer, toneQueueLength]

theorem keyer_step {label : Label} {state : State} (running : state.status = .running) :
    (state.step label).keyer = ((state.ready label.input).act label.world label.input.action).keyer := by
  rw [step_eq label running, finish_keyer]

theorem finish_status (world : World) (input : Input) (state : State) :
    (state.finish world input).status = state.status := by
  rcases finish_cases world input state with same | ⟨port, log, polled, -⟩
  · rw [same]
  · rw [polled]
    rfl

theorem countInactivity_eq (state : State) :
    ∃ seconds, state.countInactivity = { state with inactivitySeconds := seconds } := by
  unfold countInactivity
  split <;> exact ⟨_, rfl⟩

/-- The state is made ready by the clock, by the address of the sender and by the log
of what has come. -/
theorem ready_eq (input : Input) (state : State) :
    ∃ seconds addr log,
      state.ready input = { state with inactivitySeconds := seconds, requestAddr := addr, log := log } ∧
      ∀ entry ∈ log, ∃ client request, entry.call = .received client request := by
  obtain ⟨seconds, counted⟩ := countInactivity_eq { state with log := [] }
  cases input with
  | datagram client bytes =>
    simp only [ready, counted, arrive]
    cases requestOf bytes with
    | none => exact ⟨_, _, _, rfl, by simp⟩
    | some request => exact ⟨_, _, _, rfl, by simp⟩
  | timeout | receiveError => exact ⟨_, _, _, counted, by simp⟩
  | dequeue | key => exact ⟨_, _, _, rfl, by simp⟩

/-- What does not look at the clock, the last sender or the log holds of a state when it
holds of the state made ready. -/
theorem ready_iff {property : State → Prop}
    (unseen : ∀ state seconds addr log, property { state with
      inactivitySeconds := seconds, requestAddr := addr, log := log } ↔ property state)
    (input : Input) (state : State) : property (state.ready input) ↔ property state := by
  obtain ⟨seconds, addr, log, equal, -⟩ := ready_eq input state
  rw [equal]
  exact unseen state seconds addr log

theorem ready_toneQueueLength (input : Input) (state : State) :
    (state.ready input).toneQueueLength = state.toneQueueLength := by
  obtain ⟨seconds, addr, log, equal, -⟩ := ready_eq input state
  rw [equal]
  rfl

theorem ready_keyer (input : Input) (state : State) : (state.ready input).keyer = state.keyer := by
  obtain ⟨seconds, addr, log, equal, -⟩ := ready_eq input state
  rw [equal]
  simp [keyer, toneQueueLength]

theorem ready_status (input : Input) (state : State) : (state.ready input).status = state.status := by
  obtain ⟨seconds, addr, log, equal, -⟩ := ready_eq input state
  rw [equal]

/-- A request datagram is logged as received, and its sender is known. -/
theorem ready_datagram {client : SockaddrIn} {bytes request : Bytes} (arrived : requestOf bytes = some request)
    (state : State) :
    ∃ moment, (state.ready (.datagram client bytes)).log = [⟨.received client request, moment⟩] ∧
      (state.ready (.datagram client bytes)).requestAddr = client := by
  obtain ⟨seconds, counted⟩ := countInactivity_eq { state with log := [] }
  simp only [ready, counted, arrive, arrived]
  exact ⟨_, rfl, rfl⟩

/-- Without a request nothing is logged before the action. -/
theorem ready_log_empty (input : Input) (state : State)
    (nothing : ∀ client bytes request, input = .datagram client bytes → requestOf bytes ≠ some request) :
    (state.ready input).log = [] := by
  obtain ⟨seconds, counted⟩ := countInactivity_eq { state with log := [] }
  cases input with
  | datagram client bytes =>
    cases arrived : requestOf bytes with
    | none => simp only [ready, counted, arrive, arrived]
    | some request => exact absurd arrived (nothing client bytes request rfl)
  | timeout | receiveError => simp only [ready, counted]
  | dequeue | key => rfl

end State

/-! ## What an action says about its input -/

theorem requestOf_nul_free {bytes request : Bytes} (arrived : requestOf bytes = some request) :
    0 ∉ request := by
  simp only [requestOf] at arrived
  split at arrived
  · cases arrived
  · cases arrived
    exact zero_not_mem_cstr _

theorem requestOf_length {bytes request : Bytes} (arrived : requestOf bytes = some request) :
    request.length ≤ CWDAEMON_REQUEST_SIZE_MAX := by
  simp only [requestOf] at arrived
  split at arrived
  · cases arrived
  · cases arrived
    have stripped : (stripCrlf (bytes.take CWDAEMON_REQUEST_SIZE_MAX)).length ≤
        (bytes.take CWDAEMON_REQUEST_SIZE_MAX).length := by
      have dropped := (List.dropWhile_suffix (l := (bytes.take CWDAEMON_REQUEST_SIZE_MAX).reverse)
        fun char => char == byte '\n' || char == byte '\r').length_le
      simpa [stripCrlf] using dropped
    have taken : (bytes.take CWDAEMON_REQUEST_SIZE_MAX).length ≤ CWDAEMON_REQUEST_SIZE_MAX :=
      List.length_take_le _ _
    exact (cstr_length_le _).trans (stripped.trans taken)

theorem EscRequest.code_of_ofCode {char : UInt8} {request : EscRequest}
    (known : EscRequest.ofCode char = some request) : request.code = char := by
  have found := List.find?_some known
  simpa using found

theorem Input.action_key {input : Input} {on : Bool} (key : input.action = .key on) : input = .key on := by
  cases input with
  | key other => exact congrArg Input.key (Action.key.inj key)
  | timeout | receiveError | dequeue => cases key
  | datagram client bytes =>
    simp only [Input.action] at key
    split at key
    · cases key
    · split at key
      · cases key
      · split at key <;> cases key

theorem Input.action_text {input : Input} {request : Bytes} (text : input.action = .text request) :
    request.head? ≠ some ASCII_ESC ∧
      ∃ client bytes, input = .datagram client bytes ∧ requestOf bytes = some request := by
  cases input with
  | datagram client bytes =>
    simp only [Input.action] at text
    cases arrived : requestOf bytes with
    | none => simp [arrived] at text
    | some received =>
      simp only [arrived] at text
      split at text
      case isTrue unescaped =>
        cases text
        exact ⟨unescaped, client, bytes, rfl, arrived⟩
      case isFalse =>
        split at text <;> cases text
  | timeout | receiveError | dequeue | key => cases text

/-- An Escape request is the character `<ESC>`, the code and the payload. -/
theorem Input.action_request {input : Input} {request : EscRequest} {payload : Bytes}
    (escape : input.action = .request request payload) :
    ∃ client bytes, input = .datagram client bytes ∧
      requestOf bytes = some (ASCII_ESC :: request.code :: payload) := by
  cases input with
  | datagram client bytes =>
    simp only [Input.action] at escape
    cases arrived : requestOf bytes with
    | none => simp [arrived] at escape
    | some received =>
      simp only [arrived] at escape
      split at escape
      case isTrue => cases escape
      case isFalse escaped =>
        rw [not_not] at escaped
        -- An Escape character without a code behind it is no Escape request.
        match received with
        | [] => cases escape
        | [_] => cases escape
        | first :: code :: rest =>
          cases known : EscRequest.ofCode code with
          | none => simp [State.escapeRequest, known] at escape
          | some parsed =>
            simp only [State.escapeRequest, known, Option.map_some, Action.request.injEq] at escape
            obtain ⟨rfl, rfl⟩ := escape
            simp only [List.head?_cons, Option.some.injEq] at escaped
            exact ⟨client, bytes, rfl, by rw [arrived, escaped, EscRequest.code_of_ofCode known]⟩
  | timeout | receiveError | dequeue | key => cases escape

/-- The payload of an Escape request is a string of less than 255 characters. -/
theorem Input.action_payload {input : Input} {request : EscRequest} {payload : Bytes}
    (escape : input.action = .request request payload) : 0 ∉ payload ∧ payload.length < 255 := by
  obtain ⟨client, bytes, -, arrived⟩ := Input.action_request escape
  have nulFree := requestOf_nul_free arrived
  have length := requestOf_length arrived
  simp only [List.mem_cons, not_or] at nulFree
  simp only [List.length_cons, CWDAEMON_REQUEST_SIZE_MAX] at length
  exact ⟨nulFree.2.2, by omega⟩

/-- A text request is a string of at most 256 characters. -/
theorem Input.action_text_bounds {input : Input} {request : Bytes} (text : input.action = .text request) :
    0 ∉ request ∧ request.length ≤ CWDAEMON_REQUEST_SIZE_MAX := by
  obtain ⟨-, client, bytes, -, arrived⟩ := Input.action_text text
  exact ⟨requestOf_nul_free arrived, requestOf_length arrived⟩

end Cwdaemon
