import Cwdaemon.Verified.Footswitch
import Cwdaemon.Verified.Requests

/-! # The main loop

What happens on the host of the daemon is a run of its steps, in which the datagrams that the
kernel keeps are handled in the order in which they came, each of them once.  And a daemon that
is not keyed soon sleeps: every wait of a second is paid for by an event of libcw's key.
-/

namespace Cwdaemon

open CString

/-! ## The kernel's queue -/

/-- The datagram that an input is. -/
def Input.datagrams : Input → List (SockaddrIn × Bytes)
  | .datagram client bytes => [(client, bytes)]
  | .timeout | .receiveError | .dequeue | .key _ => []

/-- What arrives at the host. -/
def Happening.arrivals : Happening → List (SockaddrIn × Bytes)
  | .arrives client bytes => [(client, bytes)]
  | .iterates _ _ _ | .dequeues _ | .keys _ _ => []

namespace Host

/-- What an iteration of the main loop finds in the socket. -/
def input (select : Select) (broken : Bool) (host : Host) : Input :=
  match select with
  | .error false => .timeout
  | .error true | .descriptors _ =>
    if broken then .receiveError
    else
      match host.pending with
      | [] => .timeout
      | (client, bytes) :: _ => .datagram client bytes

/-- The step of the daemon that a happening leads to. -/
def label (happening : Happening) (host : Host) : Option Label :=
  if host.daemon.status = .running then
    match happening with
    | .arrives _ _ => none
    | .iterates world select broken => some ⟨world, host.input select broken⟩
    | .dequeues world => some ⟨world, .dequeue⟩
    | .keys world on => some ⟨world, .key on⟩
  else none

/-- The steps of the daemon in the course of what happens. -/
def labels : List Happening → Host → List Label
  | [], _ => []
  | happening :: happenings, host => (host.label happening).toList ++ labels happenings (host.step happening)

/-- A reception, with the queue of the kernel. -/
theorem receive_eq (world : World) (broken : Bool) (host : Host) :
    host.receive world broken =
      if broken then { host with daemon := host.daemon.exitProcess 1 }
      else
        match host.pending with
        | [] => host
        | (client, bytes) :: rest => ⟨host.daemon.receive world client bytes, rest⟩ := by
  obtain ⟨daemon, pending⟩ := host
  cases broken with
  | true => rfl
  | false =>
    cases pending with
    | nil => rfl
    | cons first rest =>
      obtain ⟨client, bytes⟩ := first
      have received := receiveBuffer_datagram client bytes
      simp only [receive, recvfrom, Bool.false_eq_true, if_false, received, State.receive]
      cases requestOf bytes <;> rfl

/-- An iteration of the main loop handles what it finds, and the kernel keeps the rest. -/
theorem iterate_refines (world : World) (select : Select) (broken : Bool) (host : Host) :
    (host.iterate world select broken).daemon = host.daemon.handleInput world (host.input select broken) ∧
      host.pending = (host.input select broken).datagrams ++ (host.iterate world select broken).pending := by
  obtain ⟨daemon, pending⟩ := host
  have ends (daemon : State) (pending : List (SockaddrIn × Bytes)) :
      (if daemon.status = .running then (⟨daemon.pollFootswitch world, pending⟩ : Host) else ⟨daemon, pending⟩) =
        ⟨if daemon.status = .running then daemon.pollFootswitch world else daemon, pending⟩ := by split <;> rfl
  -- What else `select()` says makes no difference.
  have receives : select ≠ .error false →
      iterate world select broken ⟨daemon, pending⟩ =
          iterate world (.error true) broken ⟨daemon, pending⟩ ∧
        input select broken ⟨daemon, pending⟩ = input (.error true) broken ⟨daemon, pending⟩ := by
    intro receives
    cases select with
    | descriptors count => exact ⟨rfl, rfl⟩
    | error interrupted =>
      cases interrupted with
      | true => exact ⟨rfl, rfl⟩
      | false => exact absurd rfl receives
  by_cases failed : select = .error false
  · subst failed
    simp only [iterate, ends]
    exact ⟨rfl, rfl⟩
  obtain ⟨same, found⟩ := receives failed
  rw [same, found]
  cases broken with
  | true =>
    simp only [iterate, receive_eq, if_true, ends]
    exact ⟨rfl, rfl⟩
  | false =>
    cases pending with
    | nil =>
      simp only [iterate, receive_eq, Bool.false_eq_true, if_false, ends]
      exact ⟨rfl, rfl⟩
    | cons first rest =>
      simp only [iterate, receive_eq, Bool.false_eq_true, if_false, ends]
      exact ⟨rfl, rfl⟩

/-- The daemon makes the step that the happening leads to. -/
theorem step_refines (happening : Happening) (host : Host) :
    (host.step happening).daemon = Runs.run State.step (host.label happening).toList host.daemon ∧
      host.pending ++ happening.arrivals =
        (host.label happening).toList.flatMap (·.input.datagrams) ++ (host.step happening).pending := by
  by_cases running : host.daemon.status = .running
  case neg => cases happening <;> simp [step, label, running, Happening.arrivals]
  cases happening with
  | arrives client bytes => simp [step, label, running, Happening.arrivals]
  | dequeues world => simp [step, label, running, Happening.arrivals, Input.datagrams]
  | keys world on => simp [step, label, running, Happening.arrivals, Input.datagrams]
  | iterates world select broken =>
    have stepped (label : Label) : host.daemon.step label =
        State.handleInput label.world label.input { host.daemon with log := [] } := if_pos running
    obtain ⟨daemon, kept⟩ := iterate_refines world select broken { host with daemon := { host.daemon with log := [] } }
    simp only [step, label, if_pos running, Option.toList, Runs.run_cons, Runs.run_nil, stepped, Happening.arrivals,
      List.append_nil, List.flatMap_singleton]
    exact ⟨daemon, kept⟩

end Host

/-- Along what happens, the daemon makes these steps. -/
theorem Host.run_daemon (happenings : List Happening) (host : Host) :
    (Runs.run Host.step happenings host).daemon = Runs.run State.step (host.labels happenings) host.daemon := by
  induction happenings generalizing host with
  | nil => rfl
  | cons happening happenings inductionHypothesis =>
    rw [Runs.run_cons, Host.labels, Runs.run_append, ← (host.step_refines happening).1]
    exact inductionHypothesis (host.step happening)

/-- What was in the queue of the kernel or has arrived was handled, or is there. -/
theorem Host.run_pending (happenings : List Happening) (host : Host) :
    host.pending ++ happenings.flatMap Happening.arrivals =
      (host.labels happenings).flatMap (·.input.datagrams) ++ (Runs.run Host.step happenings host).pending := by
  induction happenings generalizing host with
  | nil => exact List.append_nil _
  | cons happening happenings inductionHypothesis =>
    have kept := (host.step_refines happening).2
    have kept' := inductionHypothesis (host.step happening)
    rw [Runs.run_cons, Host.labels, List.flatMap_cons, List.flatMap_append, ← List.append_assoc, kept,
      List.append_assoc, kept', List.append_assoc]

/-- However datagrams arrive while the main loop and libcw's thread go about their work, the
daemon goes through a run of its steps, in which the datagrams are handled in the order in
which they came, and none of them twice: what was not handled is still in the kernel's queue. -/
theorem main_loop_handles_datagrams_in_order (happenings : List Happening) (host : Host) :
    (Runs.run Host.step happenings host).daemon = Runs.run State.step (host.labels happenings) host.daemon ∧
      host.pending ++ happenings.flatMap Happening.arrivals =
        (host.labels happenings).flatMap (·.input.datagrams) ++ (Runs.run Host.step happenings host).pending :=
  ⟨host.run_daemon happenings, host.run_pending happenings⟩

/-! ## From the client to the daemon -/

/-- An Escape request that a client has sent, or that the daemon handles for it. -/
structure Errand where
  client : SockaddrIn
  request : EscRequest
  value : Bytes

/-- The datagram that the client library makes of it, if it does. -/
def Errand.datagram (errand : Errand) : SockaddrIn × Option Bytes :=
  (errand.client, clientSendEscRequest errand.request.code errand.value)

/-- What is left of it when it is handled. -/
def Errand.handled (errand : Errand) : Errand := { errand with value := payloadOf errand.value }

/-- The Escape request in a datagram. -/
def errandOf (datagram : SockaddrIn × Bytes) : Option Errand :=
  match (Input.datagram datagram.1 datagram.2).action with
  | .request request payload => some ⟨datagram.1, request, payload⟩
  | _ => none

/-- A datagram that a client has sent: an Escape request, with the client library, or anything
else. -/
inductive Post where
  | escape (errand : Errand)
  | other (client : SockaddrIn) (bytes : Bytes)

def Post.datagram : Post → SockaddrIn × Option Bytes
  | .escape errand => errand.datagram
  | .other client bytes => (client, some bytes)

/-- The Escape request that the daemon handles for it, if there is one in it. -/
def Post.handled : Post → Option Errand
  | .escape errand => some errand.handled
  | .other client bytes => errandOf (client, bytes)

/-- The Escape requests that the daemon handles. -/
def errandsOf (labels : List Label) : List Errand :=
  (labels.flatMap (·.input.datagrams)).filterMap errandOf

theorem errandOf_datagram {errand : Errand} {datagram : SockaddrIn × Bytes}
    (sent : errand.datagram = (datagram.1, some datagram.2)) : errandOf datagram = some errand.handled := by
  obtain ⟨client, request, value⟩ := errand
  obtain ⟨sender, bytes⟩ := datagram
  simp only [Errand.datagram, clientSendEscRequest, request.ofCode_code, Prod.mk.injEq] at sent
  obtain ⟨rfl, encoded⟩ := sent
  split at encoded
  · cases encoded
  · cases encoded
    rw [errandOf, action_escape]
    rfl

theorem errandOf_post {post : Post} {datagram : SockaddrIn × Bytes}
    (sent : post.datagram = (datagram.1, some datagram.2)) : errandOf datagram = post.handled := by
  cases post with
  | escape errand => exact errandOf_datagram sent
  | other client bytes =>
    obtain ⟨rfl, same⟩ := Prod.mk.inj sent
    cases same
    rfl

theorem filterMap_errandOf {datagrams : List (SockaddrIn × Bytes)} {sent : List Post}
    (encoded : sent.map Post.datagram = datagrams.map fun datagram => (datagram.1, some datagram.2)) :
    datagrams.filterMap errandOf = sent.filterMap Post.handled := by
  induction sent generalizing datagrams with
  | nil =>
    cases datagrams with
    | nil => rfl
    | cons datagram datagrams => cases encoded
  | cons post sent inductionHypothesis =>
    cases datagrams with
    | nil => cases encoded
    | cons datagram datagrams =>
      obtain ⟨here, rest⟩ := List.cons.inj encoded
      rw [List.filterMap_cons, List.filterMap_cons, errandOf_post here, inductionHypothesis rest]

/-- From several clients to the daemon, with any other datagrams in between: of the Escape
requests that clients have sent with the client library, those that the daemon has handled are
the first ones, each of them once, in the order of arrival; the others are on their way in the
kernel's queue. -/
theorem requests_are_handled_as_sent {host : Host} {happenings : List Happening} {sent : List Post}
    (arrived : sent.map Post.datagram =
      (host.pending ++ happenings.flatMap Happening.arrivals).map fun datagram => (datagram.1, some datagram.2)) :
    ∃ done waiting, sent = done ++ waiting ∧
      errandsOf (host.labels happenings) = done.filterMap Post.handled ∧
      waiting.map Post.datagram =
        (Runs.run Host.step happenings host).pending.map fun datagram => (datagram.1, some datagram.2) := by
  rw [host.run_pending happenings, List.map_append] at arrived
  obtain ⟨done, waiting, rfl, handled, left⟩ := List.map_eq_append_iff.mp arrived
  exact ⟨done, waiting, rfl, filterMap_errandOf handled, left⟩

/-- A client asks for a speed, a text comes, another client asks for a tone, and the loop has
come round twice. -/
theorem speed_is_handled_before_tone :
    ∃ done waiting, [.escape ⟨client, .speed, [byte '3', byte '0']⟩, .other client [byte 'e'],
        .escape ⟨otherClient, .tone, [byte '5', byte '0', byte '0']⟩] = done ++ waiting ∧
      errandsOf ((⟨onSerialPort, []⟩ : Host).labels
        [.arrives client [ASCII_ESC, byte '2', byte '3', byte '0'], .arrives client [byte 'e'],
          .arrives otherClient [ASCII_ESC, byte '3', byte '5', byte '0', byte '0'],
          .iterates calm (.descriptors 1) false, .iterates calm (.descriptors 1) false]) =
        done.filterMap Post.handled ∧
      waiting.map Post.datagram =
        (Runs.run Host.step
          [.arrives client [ASCII_ESC, byte '2', byte '3', byte '0'], .arrives client [byte 'e'],
            .arrives otherClient [ASCII_ESC, byte '3', byte '5', byte '0', byte '0'],
            .iterates calm (.descriptors 1) false, .iterates calm (.descriptors 1) false] ⟨onSerialPort, []⟩).pending.map
          fun datagram => (datagram.1, some datagram.2) :=
  requests_are_handled_as_sent rfl

/-- An iteration that asks the socket for a datagram, and gets it if there is one. -/
def Happening.receives : Happening → Bool
  | .iterates _ (.error false) _ => false
  | .iterates _ _ broken => !broken
  | .arrives _ _ | .dequeues _ | .keys _ _ => false

namespace Host

variable {host : Host}

theorem step_ended (happening : Happening) (ended : host.daemon.status ≠ .running) :
    (host.step happening).daemon = host.daemon := by
  cases happening <;> simp [step, ended]

theorem running_of_run {happenings : List Happening}
    (running : (Runs.run step happenings host).daemon.status = .running) : host.daemon.status = .running := by
  by_contra ended
  have stays : (Runs.run step happenings host).daemon.status ≠ .running := by
    clear running
    induction happenings generalizing host with
    | nil => exact ended
    | cons happening happenings inductionHypothesis =>
      exact inductionHypothesis (by rwa [step_ended happening ended])
  exact stays running

theorem input_datagrams (world : World) (select : Select) (broken : Bool) (host : Host) :
    (host.input select broken).datagrams =
      host.pending.take (Happening.iterates world select broken).receives.toNat := by
  obtain ⟨daemon, pending⟩ := host
  cases select with
  | descriptors count => cases broken <;> cases pending <;> rfl
  | error interrupted => cases interrupted <;> cases broken <;> cases pending <;> rfl

/-- While nothing arrives, the kernel's queue is one shorter for every reception. -/
theorem pending_step {happening : Happening} (quiet : happening.arrivals = [])
    (running : host.daemon.status = .running) :
    (host.step happening).pending = host.pending.drop happening.receives.toNat := by
  cases happening with
  | arrives client bytes => cases quiet
  | dequeues world => simp [step, running, Happening.receives]
  | keys world on => simp [step, running, Happening.receives]
  | iterates world select broken =>
    obtain ⟨-, kept⟩ := iterate_refines world select broken { host with daemon := { host.daemon with log := [] } }
    rw [input_datagrams world] at kept
    rw [step, if_pos running]
    -- The queue is what the input took from it, and what is left.
    conv at kept =>
      lhs
      rw [← List.take_append_drop (Happening.iterates world select broken).receives.toNat host.pending]
    exact (List.append_cancel_left kept).symm

end Host

/-- While nothing arrives and the daemon runs on, as many datagrams are handled as there are
receptions. -/
theorem main_loop_serves_the_queue {happenings : List Happening} {host : Host}
    (quiet : ∀ happening ∈ happenings, happening.arrivals = [])
    (running : (Runs.run Host.step happenings host).daemon.status = .running) :
    (Runs.run Host.step happenings host).pending = host.pending.drop (happenings.countP Happening.receives) := by
  induction happenings generalizing host with
  | nil => rfl
  | cons happening happenings inductionHypothesis =>
    obtain ⟨here, rest⟩ := List.forall_mem_cons.mp quiet
    have next : (host.step happening).daemon.status = .running := Host.running_of_run running
    have runs : host.daemon.status = .running := by
      by_contra ended
      exact ended (Host.step_ended happening ended ▸ next)
    rw [Runs.run_cons, inductionHypothesis rest running, Host.pending_step here runs, List.drop_drop, List.countP_cons]
    cases happening.receives <;> simp [Nat.add_comm]

/-- Two datagrams are there, `select()` fails once, and one of the datagrams is handled. -/
theorem main_loop_serves_one_of_two :
    (Runs.run Host.step [.iterates calm (.error false) false, .iterates calm (.descriptors 1) false]
      ⟨onSerialPort, [(client, [byte 'e']), (client, [byte 't'])]⟩).pending = [(client, [byte 't'])] :=
  main_loop_serves_the_queue (by simp [Happening.arrivals]) (by decide +kernel)

/-! ## Waits of a second -/

namespace State

variable {state : State} {label : Label}

theorem exec_settings (world : World) (command : Command) (state : State) :
    (state.exec world command).settings = state.settings := by
  by_cases replies : ∃ index, command = .reply index
  · obtain ⟨index, rfl⟩ := replies
    simp only [exec, prepareReply]
    split <;> rfl
  · exact (spoken_exec world (not_exists.mp replies) state).settings

theorem execAll_settings (world : World) (commands : List Command) (state : State) :
    (execAll world commands state).settings = state.settings := by
  induction commands generalizing state with
  | nil => rfl
  | cons command commands inductionHypothesis =>
    rw [execAll_cons, inductionHypothesis, exec_settings]

theorem receiveText_settings (world : World) (request : Bytes) (state : State) :
    (state.receiveText world request).settings = state.settings := by
  unfold receiveText
  split
  case isFalse => rfl
  case isTrue =>
    have played (state : State) : (state.playRequest world).settings = state.settings := by
      rw [playRequest, playLoop_eq]
      exact execAll_settings world _ state
    exact played _

theorem handleEscRequest_settings (world : World) (request : EscRequest) (payload : Bytes) (state : State) :
    (state.handleEscRequest world request payload).settings = state.settings := by
  by_cases silent : request = .reply
  · subst silent
    simp only [handleEscRequest, escReply, prepareReply]
    split <;> rfl
  · obtain ⟨_, _, _, _, _, _, _, _, _, _, handled⟩ := handled_handleEscRequest world payload state silent
    rw [handled]
    rfl

/-- Only libcw's key has something to do with the time-out. -/
theorem act_settings (world : World) {action : Action} (unkeyed : ∀ on, action ≠ .key on) (state : State) :
    (state.act world action).settings = state.settings := by
  cases action with
  | idle => rfl
  | request request payload => exact handleEscRequest_settings world request payload state
  | text request => exact receiveText_settings world request state
  | exit =>
    obtain ⟨devices, log, ended⟩ := exitProcess_eq 1 state
    rw [act, ended]
    rfl
  | dequeue =>
    obtain ⟨_, _, _, _, _, _, served⟩ := served_dequeue state
    rw [act, served]
    rfl
  | key on => exact absurd rfl (unkeyed on)

theorem finish_settings (world : World) (input : Input) (state : State) :
    (state.finish world input).settings = state.settings := by
  rcases finish_cases world input state with same | ⟨port, polls, polled, -⟩
  · rw [same]
  · rw [polled]
    rfl

/-- How many more iterations of the main loop wait for a second. -/
def patience (state : State) : Nat := (30 - state.inactivitySeconds).toNat

end State

/-- An event of libcw's key. -/
def Input.keys : Input → Bool
  | .key _ => true
  | .datagram _ _ | .timeout | .receiveError | .dequeue => false

/-- An iteration of the main loop that waits for a second at most. -/
def wakes (label : Label) (state : State) : Bool :=
  state.status = .running && label.input.iterates && state.udptime = 1

/-- How many waits of a second there are in a run. -/
def wakesOf : List Label → State → Nat
  | [], _ => 0
  | label :: labels, state => (wakes label state).toNat + wakesOf labels (state.step label)

namespace State

variable {state : State} {label : Label}

theorem step_inactivitySeconds (running : state.status = .running) (unkeyed : ∀ on, label.input.action ≠ .key on) :
    (state.step label).inactivitySeconds = (state.ready label.input).inactivitySeconds := by
  have kept : (state.step label).settings = (state.ready label.input).settings := by
    rw [step_eq label running, finish_settings, act_settings label.world unkeyed]
  exact congrArg (·.2.2) kept

theorem ready_inactivitySeconds (input : Input) (state : State) :
    (state.ready input).inactivitySeconds =
      if input.iterates ∧ state.inactivitySeconds < 30 then state.inactivitySeconds + 1
      else state.inactivitySeconds := by
  have counted (state : State) : state.countInactivity.inactivitySeconds =
      if state.inactivitySeconds < 30 then state.inactivitySeconds + 1 else state.inactivitySeconds := by
    unfold countInactivity
    split <;> rfl
  have arrives (client : SockaddrIn) (bytes : Bytes) (state : State) :
      (state.arrive client bytes).inactivitySeconds = state.inactivitySeconds := by
    unfold arrive
    cases requestOf bytes <;> rfl
  cases input with
  | datagram client bytes => simpa [ready, arrives, Input.iterates] using counted { state with log := [] }
  | timeout | receiveError => simpa [ready, Input.iterates] using counted { state with log := [] }
  | dequeue | key => simp [ready, Input.iterates]

/-- A wait of a second is one less to come, and an event of the key makes up for 30. -/
theorem patience_step (label : Label) (state : State) :
    (wakes label state).toNat + (state.step label).patience ≤ state.patience + 30 * label.input.keys.toNat := by
  by_cases running : state.status = .running
  case neg =>
    have stays : (state.step label).patience = state.patience := by rw [step_ended label running]; rfl
    simp [wakes, running, stays]
  cases keyed : label.input.keys with
  | true =>
    obtain ⟨on, key⟩ : ∃ on, label.input = .key on := by
      cases input : label.input with
      | key on => exact ⟨on, rfl⟩
      | datagram | timeout | receiveError | dequeue => simp [input, Input.keys] at keyed
    have restarts : (state.step label).patience = state.patience ∨ (state.step label).patience = 30 := by
      rw [step_eq label running, key]
      simp only [Input.action, act, ready, finish, keyingevent]
      split
      · exact .inl rfl
      · exact .inr rfl
    have waits : wakes label state = false := by simp [wakes, key, Input.iterates]
    rw [waits]
    simp only [Bool.toNat_false, Bool.toNat_true]
    omega
  | false =>
    have unkeyed : ∀ on, label.input.action ≠ .key on := fun on key => by
      rw [Input.action_key key] at keyed
      cases keyed
    have seconds := step_inactivitySeconds running unkeyed
    rw [ready_inactivitySeconds] at seconds
    simp only [patience, seconds, wakes, running, udptime, decide_true, Bool.true_and]
    cases label.input.iterates with
    | false => simp
    | true =>
      by_cases short : state.inactivitySeconds < 30
      · simp only [short, true_and, if_true, decide_true, Bool.toNat_true, Bool.and_true, Bool.toNat_false]
        omega
      · simp [short]

theorem patience_run (labels : List Label) (state : State) :
    wakesOf labels state + (Runs.run State.step labels state).patience ≤
      state.patience + 30 * labels.countP (·.input.keys) := by
  induction labels generalizing state with
  | nil => simp [wakesOf]
  | cons label labels inductionHypothesis =>
    have first := patience_step label state
    have rest := inductionHypothesis (state.step label)
    have counted : (label :: labels).countP (·.input.keys) =
        labels.countP (·.input.keys) + label.input.keys.toNat := by
      rw [List.countP_cons]
      cases label.input.keys <;> rfl
    rw [wakesOf, Runs.run_cons, counted]
    omega

/-! ## From the start -/

variable {after : State}

theorem argsProcess_inactivitySeconds {world : World} {arg : Arg}
    (processed : state.argsProcess world arg = some after) :
    after.inactivitySeconds = state.inactivitySeconds := by
  rcases argsProcess_cases processed with ⟨name, rfl, selected⟩ | ⟨option, rfl, -, parsed⟩ | ⟨device, option, -⟩
  · obtain ⟨devices, log, rfl, -⟩ := optionCwdevice_selected selected
    rfl
  · obtain ⟨lines, -, rfl | rfl⟩ := ttysOptparse_cases parsed
    · exact (deviceCw_eq .ttys false _).elim fun log keyed => by rw [keyed]; rfl
    · exact (devicePtt_eq .ttys false _).elim fun log lowered => by rw [lowered]; rfl
  · cases arg with
    | cwdevice name => exact absurd rfl (device name)
    | options value => exact absurd rfl (option value)
    | pttdelay value =>
      simp only [argsProcess] at processed
      split at processed
      · cases processed
        rfl
      · cases processed
    | port value | priority value | wpm value | volume value | weighting value | tone value | system value =>
      obtain ⟨number, accepted, rfl⟩ := Option.map_eq_some_iff.mp processed
      rfl

theorem argsProcessAll_inactivitySeconds {args : List (World × Arg)}
    (processed : argsProcessAll args state = some after) :
    after.inactivitySeconds = state.inactivitySeconds := by
  induction args generalizing state with
  | nil =>
    cases processed
    rfl
  | cons arg args inductionHypothesis =>
    obtain ⟨next, first, rest⟩ := Option.bind_eq_some_iff.mp processed
    exact (inductionHypothesis rest).trans (argsProcess_inactivitySeconds first)

end State

open State

/-- A daemon that has just been started waits for a day. -/
theorem Started.patience {state : State} (started : Started state) : state.patience = 0 := by
  obtain ⟨args, world, started⟩ := started
  obtain ⟨configured, all, -, -, rfl⟩ := start_cases started
  obtain ⟨success, libcw, log, equal, -⟩ := resetAlmostAll_eq world configured
  have seconds := argsProcessAll_inactivitySeconds all
  rw [equal]
  have same : ∀ reset : State, reset.inactivitySeconds = initialState.inactivitySeconds → reset.patience = 0 := by
    intro reset equal
    rw [State.patience, equal]
    rfl
  exact same _ seconds

/-- A daemon that is not keyed sleeps: over a whole run from its start there are no more waits
of a second than 30 for each event of libcw's key. -/
theorem waits_of_a_second_are_paid_for {initial : State} (started : Started initial) (labels : List Label) :
    wakesOf labels initial ≤ 30 * labels.countP (·.input.keys) := by
  have bound := patience_run labels initial
  rw [started.patience] at bound
  omega

/-- A letter is keyed, and after 30 seconds the daemon sleeps. -/
theorem daemon_sleeps_after_a_letter :
    wakesOf (⟨calm, .key true⟩ :: List.replicate 40 ⟨calm, .timeout⟩) onSerialPort ≤ 30 :=
  waits_of_a_second_are_paid_for started_onSerialPort _

end Cwdaemon
