import Cwdaemon.Foundations.Runs

/-! # Stop and wait

A client has messages for a server.  It sends one, waits for the answer, and then sends the
next.  Meanwhile the server works at its own pace.  When the server promises an answer for
every message that finds it at rest (`Contract`), the messages are taken in turn: each is
answered once, before the next is sent.  When it promises as well to answer in a bounded
number of its own steps, every message is answered in the end.
-/

namespace StopAndWait

variable {State Delivery Label Message Event : Type}

/-- A server: what it does with a message that is delivered, what it does by itself, and what
the step into a state has emitted.  `isAnswer` is what the client waits for. -/
structure Server (State Delivery Label Message Event : Type) where
  serve : Message → Delivery → State → State
  work : Label → State → State
  emits : State → List Event
  isAnswer : Event → Bool

/-- The server, its client, and what the server has emitted so far. -/
structure System (State Message Event : Type) where
  server : State
  unsent : List Message
  waiting : Bool
  past : List Event

def System.start (state : State) (messages : List Message) : System State Message Event :=
  ⟨state, messages, false, []⟩

inductive Turn (Delivery Label : Type) where
  | send (delivery : Delivery)
  | work (label : Label)

namespace Server

variable (server : Server State Delivery Label Message Event)

/-- The server goes to a state, and the client hears what it emits. -/
def goTo (state : State) (system : System State Message Event) : System State Message Event :=
  { system with
    server := state
    waiting := system.waiting && !(server.emits state).any server.isAnswer
    past := system.past ++ server.emits state }

/-- A client that has nothing to send, or waits for an answer, lets its turn pass. -/
def step (turn : Turn Delivery Label) (system : System State Message Event) : System State Message Event :=
  match turn with
  | .send delivery =>
    match system.waiting, system.unsent with
    | false, message :: rest =>
      server.goTo (server.serve message delivery system.server) { system with unsent := rest, waiting := true }
    | _, _ => system
  | .work label => server.goTo (server.work label system.server) system

/-- What the server promises about messages that are `Proper`, when the turns are
`Permitted`: at rest it takes a message in, emitting `taken`; busy with it, it emits nothing
until it emits `answer` and is at rest again. -/
structure Contract where
  Proper : Message → Prop
  Permitted : Turn Delivery Label → Prop
  Resting : State → Prop
  Busy : Message → State → Prop
  taken : Message → List Event
  answer : Message → List Event
  serves : ∀ {message delivery state}, Proper message → Permitted (.send delivery) → Resting state →
    Busy message (server.serve message delivery state) ∧
      server.emits (server.serve message delivery state) = taken message
  rests : ∀ {label state}, Permitted (.work label) → Resting state →
    Resting (server.work label state) ∧ server.emits (server.work label state) = []
  works : ∀ {message label state}, Permitted (.work label) → Busy message state →
    Busy message (server.work label state) ∧ server.emits (server.work label state) = [] ∨
      Resting (server.work label state) ∧ server.emits (server.work label state) = answer message
  unanswered : ∀ {message}, Proper message → (taken message).any server.isAnswer = false
  answers : ∀ message, (answer message).any server.isAnswer = true

namespace Contract

variable {server} (contract : server.Contract)

/-- All that is emitted on account of a message. -/
def exchange (message : Message) : List Event := contract.taken message ++ contract.answer message

/-- Some messages are answered, in their order, at most one more is being answered, and the
others are unsent. -/
inductive InTurn (messages : List Message) (system : System State Message Event) : Prop
  | resting (answered : List Message) (split : messages = answered ++ system.unsent) (idle : system.waiting = false)
      (rests : contract.Resting system.server) (past : system.past = answered.flatMap contract.exchange)
  | busy (answered : List Message) (current : Message) (split : messages = answered ++ current :: system.unsent)
      (waits : system.waiting = true) (works : contract.Busy current system.server)
      (past : system.past = answered.flatMap contract.exchange ++ contract.taken current)

variable {contract} {messages : List Message} {system : System State Message Event}

theorem InTurn.start {state : State} (rests : contract.Resting state) :
    contract.InTurn messages (.start state messages) := .resting [] rfl rfl rests rfl

theorem InTurn.step {turn : Turn Delivery Label} (proper : ∀ message ∈ messages, contract.Proper message)
    (permitted : contract.Permitted turn) (inTurn : contract.InTurn messages system) :
    contract.InTurn messages (server.step turn system) := by
  obtain ⟨state, unsent, waiting, past⟩ := system
  cases inTurn with
  | resting answered split idle rests past' =>
    cases idle
    cases turn with
    | work label =>
      obtain ⟨still, silent⟩ := contract.rests permitted rests
      refine .resting answered split rfl still ?_
      simp only [Server.step, goTo, silent, List.append_nil]
      exact past'
    | send delivery =>
      -- A client that has nothing left to send lets its turn pass.
      cases unsent with
      | nil => exact .resting answered split rfl rests past'
      | cons message rest =>
        have suits : contract.Proper message := proper message (by simp [split])
        obtain ⟨takes, emitted⟩ := contract.serves suits permitted rests
        refine .busy answered message split ?_ takes ?_
        · simp only [Server.step, goTo, emitted, contract.unanswered suits]
          rfl
        · simp only [Server.step, goTo, emitted]
          exact congrArg (· ++ contract.taken message) past'
  | busy answered current split waits works past' =>
    cases waits
    cases turn with
    -- So does one that waits.
    | send delivery => exact .busy answered current split rfl works past'
    | work label =>
      rcases contract.works permitted works with ⟨still, silent⟩ | ⟨rests, emitted⟩
      · refine .busy answered current split ?_ still ?_
        · simp only [Server.step, goTo, silent]
          rfl
        · simp only [Server.step, goTo, silent, List.append_nil]
          exact past'
      · refine .resting (answered ++ [current]) ?_ ?_ rests ?_
        · rw [split, List.append_assoc]
          rfl
        · simp only [Server.step, goTo, emitted, contract.answers]
          rfl
        · simp only [Server.step, goTo, emitted, List.flatMap_append, List.flatMap_singleton, exchange]
          rw [← List.append_assoc]
          exact congrArg (· ++ contract.answer current) past'

theorem InTurn.run {turns : List (Turn Delivery Label)} (proper : ∀ message ∈ messages, contract.Proper message)
    (permitted : ∀ turn ∈ turns, contract.Permitted turn) (inTurn : contract.InTurn messages system) :
    contract.InTurn messages (Runs.run server.step turns system) := by
  induction turns generalizing system with
  | nil => exact inTurn
  | cons turn turns inductionHypothesis =>
    obtain ⟨here, rest⟩ := List.forall_mem_cons.mp permitted
    exact inductionHypothesis rest (inTurn.step proper here)

variable (contract) in
/-- The messages of a client are answered in turn. -/
theorem inTurn {turns : List (Turn Delivery Label)} {state : State}
    (proper : ∀ message ∈ messages, contract.Proper message) (permitted : ∀ turn ∈ turns, contract.Permitted turn)
    (rests : contract.Resting state) :
    contract.InTurn messages (Runs.run server.step turns (.start state messages)) :=
  (InTurn.start rests).run proper permitted

end Contract

/-! ## Answers in bounded time -/

/-- While the server is busy some of its steps count, and it has an answer after a bounded
number of these. -/
structure Prompt (contract : server.Contract) where
  counts : Label → Bool
  left : State → Nat
  bound : Nat
  begins : ∀ {message delivery state}, contract.Proper message → contract.Permitted (.send delivery) →
    contract.Resting state → left (server.serve message delivery state) ≤ bound
  advances : ∀ {message label state}, contract.Permitted (.work label) → contract.Busy message state →
    contract.Busy message (server.work label state) →
    left (server.work label state) + (counts label).toNat ≤ left state

/-- The client's turn, and some steps of the server. -/
structure Round (Delivery Label : Type) where
  send : Delivery
  works : List Label

def Round.turns (round : Round Delivery Label) : List (Turn Delivery Label) := .send round.send :: round.works.map .work

namespace Prompt

variable {server} {contract : server.Contract} (prompt : server.Prompt contract) {messages : List Message}
  {system : System State Message Event}

/-- The server has been given time enough. -/
def Ample (round : Round Delivery Label) : Prop := prompt.bound < round.works.countP prompt.counts

/-- The client has its answer, or will have it after this number of steps that count. -/
inductive Soon (count : Nat) (system : System State Message Event) : Prop
  | answered (idle : system.waiting = false) (rests : contract.Resting system.server)
  | pending (current : Message) (waits : system.waiting = true) (busy : contract.Busy current system.server)
      (few : prompt.left system.server < count)

variable {prompt}

theorem Soon.work {count : Nat} {label : Label} (permitted : contract.Permitted (.work label))
    (soon : prompt.Soon (count + (prompt.counts label).toNat) system) :
    prompt.Soon count (server.step (.work label) system) := by
  cases soon with
  | answered idle rests =>
    exact .answered (by simp only [Server.step, goTo, idle, Bool.false_and]) (contract.rests permitted rests).1
  | pending current waits busy few =>
    rcases contract.works permitted busy with ⟨still, silent⟩ | ⟨rests, emitted⟩
    · have advances := prompt.advances permitted busy still
      refine .pending current (by simp [Server.step, goTo, silent, waits]) still ?_
      show prompt.left (server.work label system.server) < count
      omega
    · refine .answered ?_ rests
      simp only [Server.step, goTo, emitted, contract.answers, Bool.not_true, Bool.and_false]

/-- The answer is there when enough steps have counted. -/
theorem Soon.works {labels : List Label} (permitted : ∀ label ∈ labels, contract.Permitted (.work label))
    (soon : prompt.Soon (labels.countP prompt.counts) system) :
    prompt.Soon 0 (Runs.run server.step (labels.map .work) system) ∧
      (Runs.run server.step (labels.map .work) system).unsent = system.unsent := by
  induction labels generalizing system with
  | nil => exact ⟨soon, rfl⟩
  | cons label labels inductionHypothesis =>
    obtain ⟨here, rest⟩ := List.forall_mem_cons.mp permitted
    have counted : (label :: labels).countP prompt.counts =
        labels.countP prompt.counts + (prompt.counts label).toNat := by
      rw [List.countP_cons]
      cases prompt.counts label <;> rfl
    rw [counted] at soon
    exact inductionHypothesis rest (soon.work here)

theorem Soon.elim (soon : prompt.Soon 0 system) : system.waiting = false ∧ contract.Resting system.server := by
  cases soon with
  | answered idle rests => exact ⟨idle, rests⟩
  | pending _ _ _ few => exact absurd few (Nat.not_lt_zero _)

/-- A message is sent and answered in a round. -/
theorem answered_of_round {round : Round Delivery Label} (permitted : ∀ turn ∈ round.turns, contract.Permitted turn)
    (proper : ∀ message ∈ system.unsent, contract.Proper message) (ample : prompt.Ample round)
    (idle : system.waiting = false) (rests : contract.Resting system.server) :
    prompt.Soon 0 (Runs.run server.step round.turns system) ∧
      (Runs.run server.step round.turns system).unsent = system.unsent.tail := by
  obtain ⟨here, rest⟩ := List.forall_mem_cons.mp permitted
  have works : ∀ label ∈ round.works, contract.Permitted (.work label) := fun label member =>
    rest (.work label) (List.mem_map_of_mem member)
  -- The first turn is the client's.
  have sends : prompt.Soon (round.works.countP prompt.counts) (server.step (.send round.send) system) ∧
      (server.step (.send round.send) system).unsent = system.unsent.tail := by
    obtain ⟨state, unsent, waiting, past⟩ := system
    cases idle
    cases unsent with
    | nil => exact ⟨.answered rfl rests, rfl⟩
    | cons message later =>
      have suits : contract.Proper message := proper message List.mem_cons_self
      obtain ⟨takes, emitted⟩ := contract.serves suits here rests
      refine ⟨.pending message ?_ takes (Nat.lt_of_le_of_lt (prompt.begins suits here rests) ample), rfl⟩
      simp only [Server.step, goTo, emitted, contract.unanswered suits]
      rfl
  obtain ⟨soon, unsent⟩ := sends.1.works works
  exact ⟨soon, unsent.trans sends.2⟩

/-- As many messages are answered as there are rounds. -/
theorem answered_of_rounds {rounds : List (Round Delivery Label)}
    (permitted : ∀ round ∈ rounds, ∀ turn ∈ round.turns, contract.Permitted turn)
    (proper : ∀ message ∈ system.unsent, contract.Proper message) (ample : ∀ round ∈ rounds, prompt.Ample round)
    (idle : system.waiting = false) (rests : contract.Resting system.server) :
    (Runs.run server.step (rounds.flatMap Round.turns) system).waiting = false ∧
      (Runs.run server.step (rounds.flatMap Round.turns) system).unsent = system.unsent.drop rounds.length := by
  induction rounds generalizing system with
  | nil => exact ⟨idle, rfl⟩
  | cons round rounds inductionHypothesis =>
    obtain ⟨here, rest⟩ := List.forall_mem_cons.mp permitted
    obtain ⟨now, later⟩ := List.forall_mem_cons.mp ample
    obtain ⟨soon, unsent⟩ := answered_of_round here proper now idle rests
    have proper' : ∀ message ∈ (Runs.run server.step round.turns system).unsent, contract.Proper message := by
      rw [unsent]
      exact fun message member => proper message (List.mem_of_mem_tail member)
    obtain ⟨done, dropped⟩ := inductionHypothesis rest proper' later soon.elim.1 soon.elim.2
    rw [List.flatMap_cons, Runs.run_append, List.length_cons, ← List.drop_tail, ← unsent]
    exact ⟨done, dropped⟩

variable (prompt) in
/-- A client that has as many rounds as messages hears all answers. -/
theorem all_answered {rounds : List (Round Delivery Label)} {state : State}
    (permitted : ∀ round ∈ rounds, ∀ turn ∈ round.turns, contract.Permitted turn)
    (proper : ∀ message ∈ messages, contract.Proper message) (ample : ∀ round ∈ rounds, prompt.Ample round)
    (rests : contract.Resting state) (enough : messages.length ≤ rounds.length) :
    (Runs.run server.step (rounds.flatMap Round.turns) (.start state messages)).past =
      messages.flatMap contract.exchange := by
  have all : ∀ turn ∈ rounds.flatMap Round.turns, contract.Permitted turn := fun turn member => by
    obtain ⟨round, mine, inside⟩ := List.mem_flatMap.mp member
    exact permitted round mine turn inside
  have inTurn := contract.inTurn proper all rests
  have unsentProper : ∀ message ∈ (System.start state messages : System State Message Event).unsent,
      contract.Proper message := proper
  obtain ⟨idle, unsent⟩ := answered_of_rounds permitted unsentProper ample rfl rests
  generalize Runs.run server.step (rounds.flatMap Round.turns) (.start state messages) = system at *
  replace unsent : system.unsent = [] := unsent.trans (List.drop_eq_nil_of_le enough)
  cases inTurn with
  | resting answered split _ _ past => rw [past, split, unsent, List.append_nil]
  -- After the last round nobody waits any more.
  | busy answered current split waits => cases idle.symm.trans waits

end Prompt

end Server

end StopAndWait
