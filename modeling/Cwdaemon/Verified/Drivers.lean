import Cwdaemon.Daemon.Drivers
import Cwdaemon.Verified.Descriptors
import Cwdaemon.Verified.OpenDevice

/-! # Runs on drivers that fail

A run on drivers that may fail is a run on drivers that do not, cut off at the first
failure: the calls are the same up to there, and without a failure so is the state.  No
driver has a reason to fail while the current cwdevice is open, because the descriptors in
use are those that the probes have opened.
-/

namespace Cwdaemon

open State

/-! ## Cutting off a log -/

theorem cut_prefix {world : World} {index : Nat} {log made : List Entry} (cut : world.cut index log = some made) :
    made <+: log := by
  induction log generalizing index made with
  | nil => cases cut
  | cons entry log inductionHypothesis =>
    rw [World.cut] at cut
    split at cut
    · cases cut
      exact List.nil_prefix
    · obtain ⟨later, before, rfl⟩ := Option.map_eq_some_iff.mp cut
      exact (List.prefix_cons_inj entry).mpr (inductionHypothesis before)

theorem cut_eq_none {world : World} {log : List Entry}
    (done : ∀ entry ∈ log, ∀ index, world.refuses index entry.call = false) (index : Nat) : world.cut index log = none := by
  induction log generalizing index with
  | nil => rfl
  | cons entry log inductionHypothesis =>
    obtain ⟨first, rest⟩ := List.forall_mem_cons.mp done
    rw [World.cut, first index, if_neg Bool.false_ne_true, inductionHypothesis rest, Option.map_none]

/-- A process that has called `exit(1)` makes no more steps. -/
theorem driven_lawful : driven.Lawful fun state => state.status = .exited 1 where
  cut_prefix _ _ _ cut := cut_prefix cut
  emitted_stop _ _ := rfl
  stopped_stop _ _ := rfl
  stopped_attempt label state ended := by
    have silent : state.step label = { state with log := [] } := step_ended label (by simp [ended])
    have goes : ¬ driven.Interrupts label state := by
      simp [Interruption.Interrupts, driven, silent, World.cut]
    rw [Interruption.attempt_of_not_interrupts goes]
    exact ⟨(congrArg State.status silent).trans ended, congrArg State.log silent⟩

theorem attempt_of_not_fails {label : Label} {state : State} (goes : ¬ state.Fails label) :
    state.attempt label = state.step label := Interruption.attempt_of_not_interrupts goes

theorem fails_running {label : Label} {state : State} (fails : state.Fails label) : state.status = .running := by
  by_contra ended
  rw [Fails, Interruption.Interrupts] at fails
  simp [driven, step_ended label ended, World.cut] at fails

theorem attempt_of_fails {label : Label} {state : State} (fails : state.Fails label) :
    (state.attempt label).status = .exited 1 := by
  obtain ⟨made, -, stops⟩ := Interruption.attempt_of_interrupts fails
  rw [attempt, stops]
  rfl

namespace State

variable {state : State} {label : Label}

/-! ## The descriptors in use -/

/-- An open cwdevice goes by a descriptor that a probe has opened. -/
def Connected (state : State) : Prop := state.status = .running → state.device.desc ≠ none → ∀ fd ∈ state.owned, 0 ≤ fd

theorem acquired_nonneg (world : World) (name : Bytes) : ∀ fd ∈ world.acquired name, 0 ≤ fd := by
  intro fd acquired
  unfold World.acquired at acquired
  split at acquired
  · obtain rfl := Multiset.mem_singleton.mp acquired
    exact Int.natCast_nonneg _
  · exact absurd acquired (Multiset.notMem_zero fd)

theorem Connected.works {licence : Licence} {before after : State} (connected : before.Connected)
    (works : Works licence { before with log := [] } after) (replaces : ¬ licence.replaces) (renames : ¬ licence.renames)
    (running : before.status = .running) : after.Connected := by
  intro _ opened
  rw [device, works.globalCwdevice replaces, works.desc renames] at opened
  rw [works.owned replaces]
  exact connected running opened

theorem Connected.step (connected : state.Connected) (linked : state.Linked) : (state.step label).Connected := by
  by_cases running : state.status = .running
  case neg =>
    rw [step_ended label running]
    exact fun live => absurd live running
  by_cases request : ∃ name, label.input.action = .request .cwdevice name
  · obtain ⟨name, action⟩ := request
    rcases optionCwdevice_acquired label.world name (state.unkeyed label) with
      ⟨refused, -, -⟩ | ⟨accepted, fd, adopted, acquired⟩
    · exact connected.works (works_refused running action refused).1 id id running
    · intro _ opened
      -- Only a device whose name was stored has one now.
      have stored : label.world.strdup = true := by
        by_contra unstored
        rw [(step_adopted running action accepted).1, if_neg unstored] at opened
        exact opened rfl
      rw [(step_owned running action stored adopted acquired).2]
      exact acquired_nonneg label.world name
  · by_cases ends : (label.input.action.licence (state.ready label.input)).replaces
    · exact fun live => absurd live (status_of_replaces running ends fun payload action => request ⟨payload, action⟩)
    · have works : Works (label.licence state) { state with log := [] } (state.step label) :=
        .step label (.inr linked) (Licence.Within.refl _)
      exact connected.works works ends (fun ⟨payload, action⟩ => request ⟨payload, action⟩) running

/-! ## No driver has a reason to fail -/

/-- No call names a serial port that was closed, if no such port is in the ledger. -/
theorem onClosedPort_of_accepts {log : List Entry} {ledger : Ledger} (nonneg : ∀ fd ∈ ledger.held, 0 ≤ fd)
    (accepts : ledgerMonitor.Accepts log ledger) : ∀ entry ∈ log, entry.call.onClosedPort = false := by
  induction log generalizing ledger with
  | nil => exact fun entry member => absurd member List.not_mem_nil
  | cons entry log inductionHypothesis =>
    obtain ⟨allowed, rest⟩ := accepts
    have fewer : ∀ fd ∈ (ledgerMonitor.next ledger entry).held, fd ∈ ledger.held := by
      intro fd member
      simp only [ledgerMonitor] at member
      split at member
      · exact member
      · exact Multiset.mem_of_le (Multiset.sub_le_self _ _) member
      · exact member
    have first : entry.call.onClosedPort = false := by
      simp only [ledgerMonitor] at allowed
      unfold Call.onClosedPort
      split
      · rename_i fd on mask call
        rw [call] at allowed
        exact decide_eq_false (Int.not_lt.mpr (nonneg fd allowed))
      · rfl
    exact List.forall_mem_cons.mpr ⟨first, inductionHypothesis (fun fd member => nonneg fd (fewer fd member)) rest⟩

/-- A step that finds memory for the name of a device uses descriptors that are open. -/
theorem accepts_step (running : state.status = .running) (linked : state.Linked)
    (stored : ∀ name, label.input.action = .request .cwdevice name → ¬ Refused label.world name →
      label.world.strdup = true) : ledgerMonitor.Accepts (state.step label).log (state.ledger label state.owned) := by
  by_cases request : ∃ name, label.input.action = .request .cwdevice name
  · obtain ⟨name, action⟩ := request
    rcases optionCwdevice_acquired label.world name (state.unkeyed label) with
      ⟨refused, -, -⟩ | ⟨accepted, fd, adopted, acquired⟩
    · exact (careful_of_works (works_refused running action refused).1 id rfl).2.2.1
    · exact (cwdevice_adopted running action rfl (stored name action accepted) adopted acquired).2
  · have other : ∀ name, label.input.action ≠ .request .cwdevice name := fun name action => request ⟨name, action⟩
    by_cases ends : (label.input.action.licence (state.ready label.input)).replaces
    · obtain ⟨code, exits⟩ := act_of_replaces label.world ends other
      exact (accepts_exit running exits rfl).1
    · exact (careful_of_works (.step label (.inr linked) (Licence.Within.refl _)) ends rfl).2.2.1

/-- So no step uses a port that was closed, as long as the current one is open. -/
theorem step_onClosedPort (linked : state.Linked) (connected : state.Connected) (opened : state.Opened)
    (stored : ∀ name, label.input.action = .request .cwdevice name → ¬ Refused label.world name →
      label.world.strdup = true) : ∀ entry ∈ (state.step label).log, entry.call.onClosedPort = false := by
  by_cases running : state.status = .running
  case neg =>
    rw [step_ended label running]
    exact fun entry member => absurd member List.not_mem_nil
  have nonneg : ∀ fd ∈ (state.ledger label state.owned).held, 0 ≤ fd := by
    intro fd member
    rcases Multiset.mem_add.mp member with probed | owned
    · unfold State.probed at probed
      split at probed
      · exact acquired_nonneg _ _ fd probed
      · exact absurd probed (Multiset.notMem_zero fd)
    · exact connected running (opened running) fd owned
  exact onClosedPort_of_accepts nonneg (accepts_step running linked stored)

/-- A driver that does all that it can be asked does not fail, as long as the port is open. -/
theorem not_fails (linked : state.Linked) (connected : state.Connected) (opened : state.Opened)
    (stored : ∀ name, label.input.action = .request .cwdevice name → ¬ Refused label.world name →
      label.world.strdup = true) (obeys : ∀ index call, label.world.ioctl index call = true) : ¬ state.Fails label := by
  intro fails
  have uncut : label.world.cut 0 (state.step label).log = none := by
    refine cut_eq_none (fun entry member index => ?_) 0
    rw [World.refuses, step_onClosedPort linked connected opened stored entry member, obeys]
    simp
  rw [Fails, Interruption.Interrupts] at fails
  simp [driven, uncut] at fails

end State

theorem argsProcess_connected {world : World} {arg : Arg} {before after : State}
    (processed : before.argsProcess world arg = some after) (nonneg : ∀ fd ∈ before.owned, 0 ≤ fd) :
    ∀ fd ∈ after.owned, 0 ≤ fd := by
  rcases argsProcess_cases processed with ⟨name, -, selected⟩ | ⟨option, -, current, parsed⟩ | ⟨-, -, _, _, _, rfl⟩
  · rcases optionCwdevice_acquired world name before with ⟨-, refused, -⟩ | ⟨-, fd, adopted, acquired⟩
    · cases refused.symm.trans selected
    · obtain ⟨devices, log, equal, -⟩ := adoptCwdevice_eq world (selectedType world name) fd name before
      have outcome := adopted.symm.trans selected
      have stored : world.strdup = true := (congrArg Prod.fst (equal.symm.trans outcome) :)
      have owns := adoptCwdevice_owned stored (selectedType world name) fd name acquired before
      rw [outcome] at owns
      rw [owns]
      exact acquired_nonneg world name
  · have works : Works { Licence.none with rewires := True } before after := .ttysOptparse trivial current parsed
    rw [works.owned id]
    exact nonneg
  · exact nonneg

theorem Started.connected {state : State} (started : Started state) : state.Connected := by
  obtain ⟨args, world, started⟩ := started
  obtain ⟨configured, all, -, -, rfl⟩ := start_cases started
  have nonneg : ∀ fd ∈ configured.owned, 0 ≤ fd :=
    argsProcessAll_relates (fun before after => (∀ fd ∈ before.owned, 0 ≤ fd) → ∀ fd ∈ after.owned, 0 ≤ fd) (fun _ => id)
      (fun earlier later => later ∘ earlier) (fun _ _ _ _ => argsProcess_connected) all
      (fun fd none => absurd none (Multiset.notMem_zero fd))
  have works : Works { Licence.none with renews := True } configured (configured.resetAlmostAll world).2 :=
    .resetAlmostAll trivial world configured
  intro _ _
  show ∀ fd ∈ (configured.resetAlmostAll world).2.owned, 0 ≤ fd
  rw [works.owned id]
  exact nonneg

theorem Reachable.connected {state : State} (reachable : Reachable state) : state.Connected := by
  obtain ⟨initial, labels, started, rfl⟩ := reachable
  have preserved (label : Label) (state : State) (invariant : (state.Wellformed ∧ state.Linked) ∧ state.Connected) :
      ((state.step label).Wellformed ∧ (state.step label).Linked) ∧ (state.step label).Connected :=
    ⟨⟨invariant.1.1.step label, invariant.1.2.step label invariant.1.1⟩, invariant.2.step invariant.1.2⟩
  exact (Runs.run_preserves preserved labels
    ⟨⟨started.wellformed, Reachable.linked ⟨initial, [], started, rfl⟩⟩, started.connected⟩).2

/-! ## Runs -/

/-- Memory for the names of cwdevices, and drivers that do what they are asked. -/
def World.Provides (world : World) : Prop := world.strdup = true ∧ ∀ index call, world.ioctl index call = true

/-- A state from which such a world lets the daemon go on: the current cwdevice is open. -/
structure State.InService (state : State) : Prop where
  wellformed : state.Wellformed
  linked : state.Linked
  connected : state.Connected
  opened : state.Opened

theorem Started.inService {state : State} (started : Started state) : state.InService :=
  ⟨started.wellformed, Reachable.linked ⟨state, [], started, rfl⟩, started.connected, started.opened⟩

theorem State.InService.step {label : Label} {state : State} (inService : state.InService)
    (stored : ∀ name, label.input.action = .request .cwdevice name → ¬ Refused label.world name →
      label.world.strdup = true) : (state.step label).InService := by
  obtain ⟨wellformed, linked, connected, opened⟩ := inService
  exact ⟨wellformed.step label, linked.step label wellformed, connected.step linked,
    opened.step linked fun name _ => stored name⟩

theorem State.InService.attempt {label : Label} {state : State} (inService : state.InService)
    (provides : label.world.Provides) : (state.attempt label).InService ∧ ¬ state.Fails label := by
  have goes := not_fails inService.linked inService.connected inService.opened (fun _ _ _ => provides.1) provides.2
  rw [attempt_of_not_fails goes]
  exact ⟨inService.step fun _ _ _ => provides.1, goes⟩

theorem State.InService.not_once_fails {labels : List Label} {state : State} (inService : state.InService)
    (provides : ∀ label ∈ labels, label.world.Provides) : ¬ Runs.Once State.attempt Fails labels state := by
  rw [Runs.not_once_iff]
  exact Runs.steps_of_steps (fun _ _ inService provides => State.InService.attempt inService provides) inService
    (Runs.steps_of_forall provides state)

theorem run_of_not_once_fails {labels : List Label} {state : State}
    (goes : ¬ Runs.Once State.attempt Fails labels state) :
    Runs.run State.attempt labels state = Runs.run State.step labels state :=
  (Interruption.run_of_not_interrupts ((Runs.not_once_iff labels state).mp goes)).1

/-- A daemon that has ended, for whatever reason, makes no more calls. -/
theorem callsMade_ended (labels : List Label) {state : State} (ended : state.status ≠ .running) :
    callsMade labels state = [] := by
  induction labels generalizing state with
  | nil => rfl
  | cons label labels inductionHypothesis =>
    have silent : state.attempt label = { state with log := [] } :=
      (attempt_of_not_fails fun fails => ended (fails_running fails)).trans (step_ended label ended)
    rw [callsMade, Runs.history, silent, List.nil_append]
    exact inductionHypothesis ended

end Cwdaemon
