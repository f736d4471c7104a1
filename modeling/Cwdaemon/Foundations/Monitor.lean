import Cwdaemon.Foundations.Runs

/-! # Monitors

A monitor reads a history event by event, remembers what it needs to, and allows or
forbids the next event by what it remembers.  When the memory is a view of the state of
a system, whether a run's history is allowed is decided step by step.
-/

structure Monitor (Memory Event : Type) where
  next : Memory → Event → Memory
  Allows : Memory → Event → Prop

namespace Monitor

variable {Memory Event : Type} (monitor : Monitor Memory Event)

/-- What is remembered after a history. -/
def after (events : List Event) (memory : Memory) : Memory := events.foldl monitor.next memory

/-- Every event of a history is allowed when it comes. -/
def Accepts : List Event → Memory → Prop
  | [], _ => True
  | event :: events, memory => monitor.Allows memory event ∧ Accepts events (monitor.next memory event)

@[simp] theorem after_nil (memory : Memory) : monitor.after [] memory = memory := rfl

@[simp] theorem after_cons (event : Event) (events : List Event) (memory : Memory) :
    monitor.after (event :: events) memory = monitor.after events (monitor.next memory event) := rfl

theorem after_append (first second : List Event) (memory : Memory) :
    monitor.after (first ++ second) memory = monitor.after second (monitor.after first memory) := List.foldl_append

theorem accepts_append (first second : List Event) (memory : Memory) :
    monitor.Accepts (first ++ second) memory ↔
      monitor.Accepts first memory ∧ monitor.Accepts second (monitor.after first memory) := by
  induction first generalizing memory with
  | nil => simp [Accepts]
  | cons event events inductionHypothesis =>
    simp only [List.cons_append, Accepts, inductionHypothesis, after_cons, and_assoc]

variable {monitor}

instance decidableAccepts [∀ memory event, Decidable (monitor.Allows memory event)] :
    (events : List Event) → (memory : Memory) → Decidable (monitor.Accepts events memory)
  | [], _ => .isTrue trivial
  | event :: events, memory =>
    have := decidableAccepts events (monitor.next memory event)
    inferInstanceAs (Decidable (_ ∧ _))

/-- Events that leave the memory alone leave it alone together, and are allowed together
exactly if each of them is. -/
theorem still {events : List Event} {memory : Memory} (stays : ∀ event ∈ events, monitor.next memory event = memory) :
    monitor.after events memory = memory ∧
      (monitor.Accepts events memory ↔ ∀ event ∈ events, monitor.Allows memory event) := by
  induction events with
  | nil => simp [Accepts]
  | cons event events inductionHypothesis =>
    obtain ⟨first, rest⟩ := List.forall_mem_cons.mp stays
    obtain ⟨same, accepts⟩ := inductionHypothesis rest
    exact ⟨by rw [after_cons, first, same], by rw [Accepts, first, accepts, List.forall_mem_cons]⟩

/-- A history is accepted if its events are allowed whatever is remembered. -/
theorem accepts_of_allowed {events : List Event} (allowed : ∀ event ∈ events, ∀ memory, monitor.Allows memory event)
    {memory : Memory} : monitor.Accepts events memory := by
  induction events generalizing memory with
  | nil => trivial
  | cons event events inductionHypothesis =>
    obtain ⟨first, rest⟩ := List.forall_mem_cons.mp allowed
    exact ⟨first memory, inductionHypothesis rest⟩

section History

variable {State Label : Type} {step : Label → State → State}

/-- A monitor that remembers a view of the state accepts a run's history exactly if it
accepts what each step emits. -/
theorem accepts_history_iff {emitted : State → List Event} {view : State → Memory} {invariant : State → Prop}
    (preserved : ∀ label state, invariant state → invariant (step label state))
    (tracks : ∀ label state, invariant state →
      monitor.after (emitted (step label state)) (view state) = view (step label state))
    (labels : List Label) {state : State} (initial : invariant state) :
    monitor.Accepts (Runs.history step emitted labels state) (view state) ↔
      Runs.Steps step (fun label state => monitor.Accepts (emitted (step label state)) (view state)) labels state := by
  induction labels generalizing state with
  | nil => exact iff_of_true trivial trivial
  | cons label labels inductionHypothesis =>
    rw [Runs.history, Runs.Steps, accepts_append, tracks label state initial,
      inductionHypothesis (preserved label state initial)]

end History

end Monitor
