import Cwdaemon.Foundations.Runs
import Mathlib.Data.List.Infix

/-! # Runs that are cut off

A system that can be interrupted: a step may come to a stop half way, and the system makes
no further one.  What it emits up to then is a prefix of what the undisturbed system emits,
and as long as nothing interrupts it the two cannot be told apart.
-/

/-- A system, what its steps emit, and how much of that is left of a step that is
interrupted; `stop` makes the state in which the system has come to a stop. -/
structure Interruption (State Label Event : Type) where
  step : Label → State → State
  emitted : State → List Event
  cut : Label → List Event → Option (List Event)
  stop : List Event → State → State

namespace Interruption

variable {State Label Event : Type} (system : Interruption State Label Event)

/-- A step, as far as it comes. -/
def attempt (label : Label) (state : State) : State :=
  let after := system.step label state
  match system.cut label (system.emitted after) with
  | none => after
  | some made => system.stop made after

/-- The step is interrupted. -/
def Interrupts (label : Label) (state : State) : Prop :=
  (system.cut label (system.emitted (system.step label state))).isSome = true

instance (label : Label) (state : State) : Decidable (system.Interrupts label state) :=
  inferInstanceAs (Decidable (_ = _))

/-- What is left of a step is its beginning, and a system that has come to a stop makes no
step and emits nothing. -/
structure Lawful (stopped : State → Prop) : Prop where
  cut_prefix : ∀ label events made, system.cut label events = some made → made <+: events
  emitted_stop : ∀ made state, system.emitted (system.stop made state) = made
  stopped_stop : ∀ made state, stopped (system.stop made state)
  stopped_attempt : ∀ label state, stopped state →
    stopped (system.attempt label state) ∧ system.emitted (system.attempt label state) = []

variable {system}

theorem attempt_of_not_interrupts {label : Label} {state : State} (goes : ¬ system.Interrupts label state) :
    system.attempt label state = system.step label state := by
  have uncut : system.cut label (system.emitted (system.step label state)) = none := by
    simpa [Interrupts] using goes
  rw [attempt]
  simp only [uncut]

theorem attempt_of_interrupts {label : Label} {state : State} (interrupts : system.Interrupts label state) :
    ∃ made, system.cut label (system.emitted (system.step label state)) = some made ∧
      system.attempt label state = system.stop made (system.step label state) := by
  obtain ⟨made, cut⟩ := Option.isSome_iff_exists.mp interrupts
  refine ⟨made, cut, ?_⟩
  rw [attempt]
  simp only [cut]

/-- A run in which nothing is interrupted is a run of the undisturbed system. -/
theorem run_of_not_interrupts {labels : List Label} {state : State}
    (goes : Runs.Steps system.attempt (fun label state => ¬ system.Interrupts label state) labels state) :
    Runs.run system.attempt labels state = Runs.run system.step labels state ∧
      Runs.history system.attempt system.emitted labels state =
        Runs.history system.step system.emitted labels state := by
  induction labels generalizing state with
  | nil => exact ⟨rfl, rfl⟩
  | cons label labels inductionHypothesis =>
    obtain ⟨first, rest⟩ := goes
    have same := attempt_of_not_interrupts first
    obtain ⟨run, history⟩ := inductionHypothesis rest
    rw [same] at run history
    exact ⟨by rw [Runs.run_cons, Runs.run_cons, same, run], by rw [Runs.history, Runs.history, same, history]⟩

namespace Lawful

variable {stopped : State → Prop} (lawful : system.Lawful stopped)
include lawful

theorem run_stopped (labels : List Label) {state : State} (stops : stopped state) :
    stopped (Runs.run system.attempt labels state) ∧ Runs.history system.attempt system.emitted labels state = [] := by
  induction labels generalizing state with
  | nil => exact ⟨stops, rfl⟩
  | cons label labels inductionHypothesis =>
    obtain ⟨stays, silent⟩ := lawful.stopped_attempt label state stops
    obtain ⟨ended, nothing⟩ := inductionHypothesis stays
    exact ⟨ended, by rw [Runs.history, silent, nothing, List.append_nil]⟩

/-- What a run emits that may be cut off is the beginning of what the undisturbed run emits. -/
theorem history_prefix (labels : List Label) (state : State) :
    Runs.history system.attempt system.emitted labels state <+: Runs.history system.step system.emitted labels state := by
  induction labels generalizing state with
  | nil => exact List.prefix_rfl
  | cons label labels inductionHypothesis =>
    rw [Runs.history, Runs.history]
    by_cases interrupts : system.Interrupts label state
    · -- Nothing follows what is left of this step.
      obtain ⟨made, cut, stops⟩ := attempt_of_interrupts interrupts
      rw [stops, (lawful.run_stopped labels (lawful.stopped_stop made _)).2, List.append_nil, lawful.emitted_stop]
      exact (lawful.cut_prefix label _ made cut).trans (List.prefix_append _ _)
    · rw [attempt_of_not_interrupts interrupts]
      exact (List.prefix_append_right_inj _).mpr (inductionHypothesis _)

/-- A run that is interrupted somewhere has come to a stop. -/
theorem stopped_of_once {labels : List Label} {state : State}
    (once : Runs.Once system.attempt system.Interrupts labels state) :
    stopped (Runs.run system.attempt labels state) := by
  induction labels generalizing state with
  | nil => exact once.elim
  | cons label labels inductionHypothesis =>
    rcases once with interrupts | later
    · obtain ⟨made, -, stops⟩ := attempt_of_interrupts interrupts
      rw [Runs.run_cons, stops]
      exact (lawful.run_stopped labels (lawful.stopped_stop made _)).1
    · exact inductionHypothesis later

end Lawful

end Interruption
