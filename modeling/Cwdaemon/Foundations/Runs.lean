import Mathlib.Data.List.Basic

/-! # Runs of a labelled deterministic system

A system is a function `step` from labels and states to states; whatever is not
determined by the state is in the label.  A run is a list of labels.  The rules
below lift what one step preserves to what every run preserves, and turn an exact
condition on one step into an exact condition on a run.
-/

namespace Runs

variable {State Label Event : Type} (step : Label → State → State)

/-- The state a run ends in. -/
def run : List Label → State → State
  | [], state => state
  | label :: labels, state => run labels (step label state)

/-- `property` holds in every state a run passes, the first and the last included. -/
def States (property : State → Prop) : List Label → State → Prop
  | [], state => property state
  | label :: labels, state => property state ∧ States property labels (step label state)

/-- `condition` holds of every step of a run, taken with the state before it. -/
def Steps (condition : Label → State → Prop) : List Label → State → Prop
  | [], _ => True
  | label :: labels, state => condition label state ∧ Steps condition labels (step label state)

/-- What a run emits, when `emitted` is what the step into a state has emitted. -/
def history (emitted : State → List Event) : List Label → State → List Event
  | [], _ => []
  | label :: labels, state => emitted (step label state) ++ history emitted labels (step label state)

/-- `condition` holds of some step of a run. -/
def Once (condition : Label → State → Prop) : List Label → State → Prop
  | [], _ => False
  | label :: labels, state => condition label state ∨ Once condition labels (step label state)

@[simp] theorem run_nil (state : State) : run step [] state = state := rfl

@[simp] theorem run_cons (label : Label) (labels : List Label) (state : State) :
    run step (label :: labels) state = run step labels (step label state) := rfl

variable {step}

theorem run_append (labels labels' : List Label) (state : State) :
    run step (labels ++ labels') state = run step labels' (run step labels state) := by
  induction labels generalizing state with
  | nil => rfl
  | cons label labels inductionHypothesis => exact inductionHypothesis (step label state)

/-- What every step preserves, every run preserves. -/
theorem run_preserves {invariant : State → Prop}
    (preserved : ∀ label state, invariant state → invariant (step label state))
    (labels : List Label) {state : State} (initial : invariant state) :
    invariant (run step labels state) := by
  induction labels generalizing state with
  | nil => exact initial
  | cons label labels inductionHypothesis => exact inductionHypothesis (preserved label state initial)

/-- What the steps that meet a condition preserve holds along every run of such steps. -/
theorem states_of_steps {invariant : State → Prop} {condition : Label → State → Prop}
    (preserved : ∀ label state, invariant state → condition label state → invariant (step label state))
    {labels : List Label} {state : State} (initial : invariant state)
    (meets : Steps step condition labels state) : States step invariant labels state := by
  induction labels generalizing state with
  | nil => exact initial
  | cons label labels inductionHypothesis =>
    obtain ⟨first, rest⟩ := meets
    exact ⟨initial, inductionHypothesis (preserved label state initial first) rest⟩

/-- What the steps that meet a condition preserve, and bring about, comes about along every
run of such steps. -/
theorem steps_of_steps {invariant : State → Prop} {condition effect : Label → State → Prop}
    (preserved : ∀ label state, invariant state → condition label state → invariant (step label state) ∧ effect label state)
    {labels : List Label} {state : State} (initial : invariant state)
    (meets : Steps step condition labels state) : Steps step effect labels state := by
  induction labels generalizing state with
  | nil => trivial
  | cons label labels inductionHypothesis =>
    obtain ⟨first, rest⟩ := meets
    obtain ⟨kept, brought⟩ := preserved label state initial first
    exact ⟨brought, inductionHypothesis kept rest⟩

/-- What every step preserves holds in every state of a run. -/
theorem states_preserves {invariant : State → Prop}
    (preserved : ∀ label state, invariant state → invariant (step label state))
    (labels : List Label) {state : State} (initial : invariant state) : States step invariant labels state := by
  induction labels generalizing state with
  | nil => exact initial
  | cons label labels inductionHypothesis =>
    exact ⟨initial, inductionHypothesis (preserved label state initial)⟩

/-- What holds in every state of a run holds in the first one. -/
theorem States.first {property : State → Prop} {labels : List Label} {state : State}
    (holds : States step property labels state) : property state := by
  cases labels with
  | nil => exact holds
  | cons _ _ => exact holds.1

/-- What holds in every state of a run holds in the last one. -/
theorem States.run {property : State → Prop} {labels : List Label} {state : State}
    (holds : States step property labels state) : property (run step labels state) := by
  induction labels generalizing state with
  | nil => exact holds
  | cons label labels inductionHypothesis => exact inductionHypothesis holds.2

theorem not_once_iff {condition : Label → State → Prop} (labels : List Label) (state : State) :
    ¬ Once step condition labels state ↔ Steps step (fun label state => ¬ condition label state) labels state := by
  induction labels generalizing state with
  | nil => exact iff_of_true id trivial
  | cons label labels inductionHypothesis =>
    simp only [Once, Steps, not_or, inductionHypothesis]

theorem States.mono {weaker stronger : State → Prop} (implies : ∀ state, stronger state → weaker state)
    {labels : List Label} {state : State} (holds : States step stronger labels state) :
    States step weaker labels state := by
  induction labels generalizing state with
  | nil => exact implies state holds
  | cons label labels inductionHypothesis => exact ⟨implies state holds.1, inductionHypothesis holds.2⟩

/-- What is assumed of every label of a run holds of its steps. -/
theorem steps_of_forall {assumption : Label → Prop} {labels : List Label} (assumed : ∀ label ∈ labels, assumption label)
    (state : State) : Steps step (fun label _ => assumption label) labels state := by
  induction labels generalizing state with
  | nil => trivial
  | cons label labels inductionHypothesis =>
    obtain ⟨first, rest⟩ := List.forall_mem_cons.mp assumed
    exact ⟨first, inductionHypothesis rest _⟩

theorem Steps.mono {invariant : State → Prop}
    (preserved : ∀ label state, invariant state → invariant (step label state))
    {weaker stronger : Label → State → Prop}
    (implies : ∀ label state, invariant state → stronger label state → weaker label state)
    {labels : List Label} {state : State} (initial : invariant state)
    (holds : Steps step stronger labels state) : Steps step weaker labels state := by
  induction labels generalizing state with
  | nil => trivial
  | cons label labels inductionHypothesis =>
    exact ⟨implies label state initial holds.1,
      inductionHypothesis (preserved label state initial) holds.2⟩

theorem steps_and (first second : Label → State → Prop) (labels : List Label) (state : State) :
    Steps step (fun label state => first label state ∧ second label state) labels state ↔
      Steps step first labels state ∧ Steps step second labels state := by
  induction labels generalizing state with
  | nil => exact (and_self_iff).symm
  | cons label labels inductionHypothesis =>
    simp only [Steps, inductionHypothesis]
    exact and_and_and_comm

/-- What is assumed of every label of a run can be added to a condition on its steps. -/
theorem Steps.assuming {condition : Label → State → Prop} {assumption : Label → Prop} {labels : List Label}
    {state : State} (assumed : ∀ label ∈ labels, assumption label)
    (meets : Steps step condition labels state) :
    Steps step (fun label state => assumption label ∧ condition label state) labels state :=
  (steps_and _ _ labels state).mpr ⟨steps_of_forall assumed state, meets⟩

/-- Conditions that agree on every step agree on every run. -/
theorem steps_congr {invariant : State → Prop}
    (preserved : ∀ label state, invariant state → invariant (step label state))
    {first second : Label → State → Prop}
    (agree : ∀ label state, invariant state → (first label state ↔ second label state))
    (labels : List Label) {state : State} (initial : invariant state) :
    Steps step first labels state ↔ Steps step second labels state :=
  ⟨Steps.mono preserved (fun label state invariant => (agree label state invariant).mp) initial,
    Steps.mono preserved (fun label state invariant => (agree label state invariant).mpr) initial⟩

/-- A condition on the image of a system is a condition on the system. -/
theorem steps_image {Image : Type} {step' : Label → Image → Image} (image : State → Image)
    (commutes : ∀ label state, image (step label state) = step' label (image state))
    (condition : Label → Image → Prop) (labels : List Label) (state : State) :
    Steps step (fun label state => condition label (image state)) labels state ↔
      Steps step' condition labels (image state) := by
  induction labels generalizing state with
  | nil => rfl
  | cons label labels inductionHypothesis => simp only [Steps, inductionHypothesis, commutes]

/-- When a step keeps a property, and has a wanted effect, exactly if it meets a
condition, then along a run the property holds in every state and every step has the
effect exactly if every step meets the condition; all this for labels that meet an
assumption. -/
theorem states_and_steps_iff_assuming {invariant property : State → Prop} {effect condition : Label → State → Prop}
    {assumption : Label → Prop}
    (preserved : ∀ label state, assumption label → invariant state → invariant (step label state))
    (exact_step : ∀ label state, assumption label → invariant state → property state →
      (property (step label state) ∧ effect label state ↔ condition label state))
    {labels : List Label} (assumed : ∀ label ∈ labels, assumption label) {state : State} (initial : invariant state)
    (holds : property state) :
    States step property labels state ∧ Steps step effect labels state ↔
      Steps step condition labels state := by
  induction labels generalizing state with
  | nil => exact ⟨fun _ => trivial, fun _ => ⟨holds, trivial⟩⟩
  | cons label labels inductionHypothesis =>
    obtain ⟨this, others⟩ := List.forall_mem_cons.mp assumed
    have kept := preserved label state this initial
    constructor
    · rintro ⟨⟨-, later⟩, effective, laterEffects⟩
      -- The property of the next state opens the equivalence for the rest of the run.
      have next : property (step label state) := later.first
      exact ⟨(exact_step label state this initial holds).mp ⟨next, effective⟩,
        (inductionHypothesis others kept next).mp ⟨later, laterEffects⟩⟩
    · rintro ⟨first, rest⟩
      obtain ⟨next, effective⟩ := (exact_step label state this initial holds).mpr first
      obtain ⟨later, laterEffects⟩ := (inductionHypothesis others kept next).mpr rest
      exact ⟨⟨holds, later⟩, effective, laterEffects⟩

theorem states_and_steps_iff {invariant property : State → Prop} {effect condition : Label → State → Prop}
    (preserved : ∀ label state, invariant state → invariant (step label state))
    (exact_step : ∀ label state, invariant state → property state →
      (property (step label state) ∧ effect label state ↔ condition label state))
    (labels : List Label) {state : State} (initial : invariant state) (holds : property state) :
    States step property labels state ∧ Steps step effect labels state ↔
      Steps step condition labels state :=
  states_and_steps_iff_assuming (fun label state _ => preserved label state)
    (fun label state _ => exact_step label state) (fun _ _ => trivial) initial holds

/-- When a step keeps a property exactly if it meets a condition, a run keeps it exactly
if all its steps meet the condition. -/
theorem states_iff {invariant property : State → Prop} {condition : Label → State → Prop}
    (preserved : ∀ label state, invariant state → invariant (step label state))
    (exact_step : ∀ label state, invariant state → property state →
      (property (step label state) ↔ condition label state))
    (labels : List Label) {state : State} (initial : invariant state) (holds : property state) :
    States step property labels state ↔ Steps step condition labels state := by
  induction labels generalizing state with
  | nil => exact iff_of_true holds trivial
  | cons label labels inductionHypothesis =>
    constructor
    · rintro ⟨-, later⟩
      have next : property (step label state) := later.first
      exact ⟨(exact_step label state initial holds).mp next,
        (inductionHypothesis (preserved label state initial) next).mp later⟩
    · rintro ⟨meets, rest⟩
      have next := (exact_step label state initial holds).mpr meets
      exact ⟨holds, (inductionHypothesis (preserved label state initial) next).mpr rest⟩

/-- What every step of a run guarantees of the events it emits holds of all events of
the run. -/
theorem history_of_steps {emitted : State → List Event} {allowed : Event → Prop}
    {condition : Label → State → Prop}
    (guaranteed : ∀ label state, condition label state → ∀ event ∈ emitted (step label state), allowed event)
    {labels : List Label} {state : State} (meets : Steps step condition labels state) :
    ∀ event ∈ history step emitted labels state, allowed event := by
  induction labels generalizing state with
  | nil => exact fun event member => absurd member (List.not_mem_nil)
  | cons label labels inductionHypothesis =>
    intro event member
    rcases List.mem_append.mp member with first | rest
    · exact guaranteed label state meets.1 event first
    · exact inductionHypothesis meets.2 event rest

theorem history_append (emitted : State → List Event) (labels labels' : List Label) (state : State) :
    history step emitted (labels ++ labels') state =
      history step emitted labels state ++ history step emitted labels' (run step labels state) := by
  induction labels generalizing state with
  | nil => rfl
  | cons label labels inductionHypothesis =>
    rw [List.cons_append, history, inductionHypothesis, history, List.append_assoc]
    rfl

/-- Two runs in lock step emit the same. -/
theorem history_lockstep {emitted : State → List Event} {related : State → State → Prop}
    (advance : ∀ label first second, related first second →
      emitted (step label first) = emitted (step label second) ∧ related (step label first) (step label second))
    (labels : List Label) {first second : State} (initial : related first second) :
    history step emitted labels first = history step emitted labels second := by
  induction labels generalizing first second with
  | nil => rfl
  | cons label labels inductionHypothesis =>
    obtain ⟨same, next⟩ := advance label first second initial
    simp only [history, same, inductionHypothesis next]

/-- An invariant of the events so far and the state, kept when a step appends the
events it emits, holds at the end of every run. -/
theorem history_preserves {emitted : State → List Event} {invariant : List Event → State → Prop}
    (preserved : ∀ label state past, invariant past state →
      invariant (past ++ emitted (step label state)) (step label state))
    (labels : List Label) {state : State} {past : List Event} (initial : invariant past state) :
    invariant (past ++ history step emitted labels state) (run step labels state) := by
  induction labels generalizing state past with
  | nil => simpa [history] using initial
  | cons label labels inductionHypothesis =>
    have next := inductionHypothesis (preserved label state past initial)
    simpa [history, List.append_assoc] using next

end Runs
