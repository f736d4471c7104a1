import Cwdaemon.Verified.Alike
import Cwdaemon.Verified.Drivers
import Cwdaemon.Verified.Safety
import Cwdaemon.Verified.SerialLines

/-! # RESET forgets

A RESET that opens the default sound system leaves a state like the one right after
start-up: what it does not restore (the reply buffer, the addresses, the clock of the
main loop, the devices that are not in use) cannot be observed any more.
-/

namespace Cwdaemon

namespace State

/-- A state as right after start-up, with these defaults and this cwdevice. -/
structure AsStarted (params : Params) (type : DeviceType) (ttyOptions : DeviceType → TtyDriverOptions)
    (state : State) : Prop where
  defaults : state.defaults = params
  current : state.current = params
  hasAudioOutput : state.hasAudioOutput = true
  wordmode : state.wordmode = false
  pttFlag : state.pttFlag = .zero
  idle : state.requestQueue.bytes = []
  globalCwdevice : state.globalCwdevice = type
  options : state.options = ttyOptions
  libcw : state.libcw = ⟨some (freshGenerator params), some type⟩
  status : state.status = .running

/-- Two such states differ in nothing that counts. -/
theorem AsStarted.indistinct {params : Params} {type : DeviceType} {ttyOptions : DeviceType → TtyDriverOptions}
    {first second : State} (started : AsStarted params type ttyOptions first)
    (started' : AsStarted params type ttyOptions second) : Indistinct false first second where
  defaults := started.defaults.trans started'.defaults.symm
  current := started.current.trans started'.current.symm
  hasAudioOutput := started.hasAudioOutput.trans started'.hasAudioOutput.symm
  wordmode := started.wordmode.trans started'.wordmode.symm
  pttFlag := started.pttFlag.trans started'.pttFlag.symm
  requestQueue := started.idle.trans started'.idle.symm
  requestAddr := False.elim
  reply pending := by
    have cleared : first.pttFlag.has .echo = true := pending
    rw [started.pttFlag] at cleared
    simp at cleared
  globalCwdevice := started.globalCwdevice.trans started'.globalCwdevice.symm
  devices type := by
    have options := congrFun (started.options.trans started'.options.symm) type
    exact congrArg (Cwdevice.mk 0 none · none) options
  libcw := started.libcw.trans started'.libcw.symm
  status := started.status.trans started'.status.symm
  calls := rfl

/-! ## Start-up -/

theorem argsProcess_wordmode {world : World} {arg : Arg} {state after : State}
    (processed : state.argsProcess world arg = some after) : after.wordmode = state.wordmode := by
  obtain ⟨_, _, _, _, _, _, rfl⟩ := argsProcess_frame processed
  rfl

theorem argsProcessAll_wordmode {args : List (World × Arg)} {state after : State}
    (processed : argsProcessAll args state = some after) : after.wordmode = state.wordmode :=
  argsProcessAll_relates (fun state after => after.wordmode = state.wordmode) (fun _ => rfl)
    (fun earlier later => later.trans earlier) (fun _ _ _ _ => argsProcess_wordmode) processed

end State

open State

/-- The options that a command line fixes; only the serial port has any. -/
def optionsOf (args : List Arg) : DeviceType → TtyDriverOptions :=
  Function.update initialState.options .ttys (linesOf args)

theorem start_asStarted {args : List (World × Arg)} {world : World} {state : State}
    (started : start args world = some state) :
    AsStarted (defaultsOf (args.map Prod.snd)) state.globalCwdevice (optionsOf (args.map Prod.snd)) state := by
  obtain ⟨defaults, current, libcw, output⟩ := start_defaults started
  have wordmode : state.wordmode = false := by
    obtain ⟨configured, all, -, -, rfl⟩ := start_cases started
    obtain ⟨success, libcw, log, equal, -⟩ := resetAlmostAll_eq world configured
    rw [equal]
    exact argsProcessAll_wordmode all
  obtain ⟨configured, libcw', log, configuring, rfl, -⟩ := start_eq started
  refine ⟨defaults, current.trans defaults, output, wordmode, configuring.flag, rfl, rfl, (start_options started).1, ?_,
    configuring.running⟩
  rw [libcw, defaults]

/-! ## RESET -/

/-- The label is a RESET request for a running daemon, the default sound system can be
opened, and the drivers of the ports do what they are asked. -/
structure Resets (label : Label) (state : State) : Prop where
  running : state.status = .running
  request : ∃ payload, label.input.action = .request .reset payload
  opens : (state.step label).hasAudioOutput = true
  obeys : ∀ index call, label.world.ioctl index call = true

namespace State

theorem escReset_asStarted (world : World) {state : State} (running : state.status = .running)
    (opens : (state.escReset world).hasAudioOutput = true) :
    AsStarted state.defaults state.globalCwdevice state.options (state.escReset world) := by
  have works : Works .all state (state.escReset world) := .escReset trivial trivial world state
  obtain ⟨success, libcw, log, equal, -⟩ := resetAlmostAll_eq world state.clearRequestQueue
  obtain ⟨devices, log', reset⟩ := escReset_resetAlmostAll world state
  have fresh : success = true → _ := fun success =>
    resetAlmostAll_fresh world ((congrArg Prod.fst equal).trans success)
  rw [equal] at reset fresh
  rw [reset] at opens works ⊢
  exact ⟨rfl, rfl, opens, rfl, rfl, rfl, rfl, works.options id, fresh opens, running⟩

/-- Polling the footswitch does not count. -/
theorem AsStarted.finish {params : Params} {type : DeviceType} {ttyOptions : DeviceType → TtyDriverOptions}
    {state : State} (started : AsStarted params type ttyOptions state) (world : World) (input : Input) :
    AsStarted params type ttyOptions (state.finish world input) := by
  have options := (Works.finish world input state).options id
  rcases finish_cases world input state with same | ⟨port, log, polled, -⟩
  · rw [same]
    exact started
  · rw [polled] at options ⊢
    exact { started with options := options.trans started.options }

theorem step_asStarted {label : Label} {state : State} (resets : Resets label state) :
    AsStarted state.defaults state.globalCwdevice state.options (state.step label) := by
  obtain ⟨payload, action⟩ := resets.request
  have opens := resets.opens
  obtain ⟨seconds, addr, log, ready, -⟩ := ready_eq label.input state
  have running : (state.ready label.input).status = .running := by
    rw [ready]
    exact resets.running
  rw [step_eq label resets.running, action] at opens ⊢
  have opened : ((state.ready label.input).escReset label.world).hasAudioOutput = true :=
    (SameTuning.finish label.world label.input _).hasAudioOutput.symm.trans opens
  have reset := (escReset_asStarted label.world running opened).finish label.world label.input
  rw [ready] at reset ⊢
  exact reset

end State

/-- A state that a daemon with these command line values reaches. -/
def ReachableWith (values : List Arg) (state : State) : Prop :=
  ∃ args world initial labels, args.map Prod.snd = values ∧ start args world = some initial ∧
    Runs.run State.step labels initial = state

theorem ReachableWith.reachable {values : List Arg} {state : State} (reachable : ReachableWith values state) :
    Reachable state := by
  obtain ⟨args, world, initial, labels, -, started, run⟩ := reachable
  exact ⟨initial, labels, ⟨args, world, started⟩, run⟩

/-- The defaults and the lines stay those of the command line. -/
theorem ReachableWith.fixed {values : List Arg} {state : State} (reachable : ReachableWith values state) :
    state.defaults = defaultsOf values ∧ state.options = optionsOf values := by
  obtain ⟨args, world, initial, labels, rfl, started, rfl⟩ := reachable
  have preserved (label : Label) (state : State)
      (invariant : state.Wellformed ∧ state.defaults = defaultsOf (args.map Prod.snd) ∧
        state.options = optionsOf (args.map Prod.snd)) :
      (state.step label).Wellformed ∧ (state.step label).defaults = defaultsOf (args.map Prod.snd) ∧
        (state.step label).options = optionsOf (args.map Prod.snd) :=
    ⟨invariant.1.step label, (step_defaults label invariant.1).trans invariant.2.1,
      (step_options label state).trans invariant.2.2⟩
  exact (Runs.run_preserves preserved labels ⟨Started.wellformed ⟨args, world, started⟩,
    (start_defaults started).1, (start_options started).1⟩).2

theorem ReachableWith.inService {values : List Arg} {state : State} (reachable : ReachableWith values state)
    (opened : state.Opened) : state.InService :=
  ⟨reachable.reachable.wellformed, reachable.reachable.linked, reachable.reachable.connected, opened⟩

theorem Resets.unasked {label : Label} {state : State} (resets : Resets label state) (name : Bytes)
    (asked : label.input.action = .request .cwdevice name) (_ : ¬ Refused label.world name) :
    label.world.strdup = true := by
  obtain ⟨payload, action⟩ := resets.request
  rw [action] at asked
  cases asked

/-- A RESET is handled to its end if the cwdevice is open.  On a port that was closed the
first `ioctl()` would be the last. -/
theorem State.InService.completes {label : Label} {state : State} (inService : state.InService)
    (resets : Resets label state) : state.attempt label = state.step label :=
  attempt_of_not_fails
    (not_fails inService.linked inService.connected inService.opened resets.unasked resets.obeys)

/-- There is memory for the names of cwdevices, and a driver does not look at the number of
a descriptor. -/
structure World.Numberless (world : World) : Prop where
  stored : world.strdup = true
  ioctl : ∀ index call, world.ioctl index call = world.ioctl index (call.seen false)

/-- No requests, keying events and callbacks tell the states apart: the daemon makes the
same calls from now on, also where a driver fails, and the PTT line stands the same now.
Descriptor numbers do not count. -/
structure Inseparable (first second : State) : Prop where
  line : first.LineUp ↔ second.LineUp
  calls : ∀ labels : List Label, Runs.history State.step (fun state => shown false state.log) labels first =
    Runs.history State.step (fun state => shown false state.log) labels second
  made : ∀ labels : List Label, (∀ label ∈ labels, label.world.Numberless) →
    shown false (callsMade labels first) = shown false (callsMade labels second)

/-- Logs that show the same are cut off at the same place. -/
theorem cut_shown {world : World} (numberless : world.Numberless) {log log' : List Entry}
    (same : shown false log = shown false log') (opened : ∀ entry ∈ log, entry.call.onClosedPort = false)
    (opened' : ∀ entry ∈ log', entry.call.onClosedPort = false) (index : Nat) :
    (world.cut index log).map (shown false) = (world.cut index log').map (shown false) := by
  induction log generalizing log' index with
  | nil =>
    obtain rfl : log' = [] := List.map_eq_nil_iff.mp same.symm
    rfl
  | cons entry log inductionHypothesis =>
    obtain ⟨entry', log', rfl, call, rest⟩ := List.map_eq_cons_iff.mp same.symm
    obtain ⟨first, later⟩ := List.forall_mem_cons.mp opened
    obtain ⟨first', later'⟩ := List.forall_mem_cons.mp opened'
    have controls (call : Call) : (call.seen false).controls = call.controls := by
      cases call with
      | deviceInit type | deviceFree type => cases type <;> rfl
      | _ => rfl
    have refuses : world.refuses index entry.call = world.refuses index entry'.call := by
      rw [World.refuses, World.refuses, first, first', numberless.ioctl _ entry.call, numberless.ioctl _ entry'.call,
        ← controls entry.call, ← controls entry'.call, call]
    rw [World.cut, World.cut, refuses]
    split
    · rfl
    · have tails := inductionHypothesis rest.symm later later' (index + 1)
      have shows (entry : Entry) (cut : Option (List Entry)) : (cut.map (entry :: ·)).map (shown false) =
          (cut.map (shown false)).map (entry.call.seen false :: ·) := by cases cut <;> rfl
      rw [shows, shows, tails, call]

/-- Indistinct states of daemons whose cwdevice is open stay so, and come equally far. -/
theorem made_of_indistinct {labels : List Label} {first second : State} (indistinct : Indistinct false first second)
    (inService : first.InService) (inService' : second.InService)
    (numberless : ∀ label ∈ labels, label.world.Numberless) :
    shown false (callsMade labels first) = shown false (callsMade labels second) := by
  induction labels generalizing first second with
  | nil => rfl
  | cons label labels inductionHypothesis =>
    obtain ⟨this, others⟩ := List.forall_mem_cons.mp numberless
    obtain ⟨same, next⟩ := indistinct.step label inService.wellformed.idle
    have stored (name : Bytes) (_ : label.input.action = .request .cwdevice name)
        (_ : ¬ Refused label.world name) : label.world.strdup = true := this.stored
    have cuts := cut_shown this same (step_onClosedPort inService.linked inService.connected inService.opened stored)
      (step_onClosedPort inService'.linked inService'.connected inService'.opened stored) 0
    have made (state : State) : shown false (callsMade (label :: labels) state) =
        shown false (state.attempt label).log ++ shown false (callsMade labels (state.attempt label)) := List.map_append
    rw [made, made]
    by_cases fails : first.Fails label
    · -- The other daemon fails with the same call, and neither makes another one.
      have fails' : second.Fails label := by
        have some := (congrArg Option.isSome cuts).symm
        rw [Option.isSome_map, Option.isSome_map] at some
        exact some.trans fails
      obtain ⟨log, cut, stops⟩ := Interruption.attempt_of_interrupts fails
      obtain ⟨log', cut', stops'⟩ := Interruption.attempt_of_interrupts fails'
      have silent (state : State) (ended : state.status = .exited 1) : callsMade labels state = [] :=
        (driven_lawful.run_stopped labels ended).2
      have equal : shown false log = shown false log' := by
        simp only [driven] at cut cut'
        rw [cut, cut', Option.map_some, Option.map_some] at cuts
        exact Option.some.inj cuts
      rw [silent _ (attempt_of_fails fails), silent _ (attempt_of_fails fails'), State.attempt, State.attempt, stops, stops']
      exact congrArg (· ++ []) equal
    · have goes' : ¬ second.Fails label := by
        intro fails'
        have some := congrArg Option.isSome cuts
        rw [Option.isSome_map, Option.isSome_map] at some
        exact fails (some.trans fails')
      rw [attempt_of_not_fails fails, attempt_of_not_fails goes', same, inductionHypothesis next
        (inService.step stored) (inService'.step stored) others]

theorem State.AsStarted.inseparable {params : Params} {type : DeviceType} {ttyOptions : DeviceType → TtyDriverOptions}
    {first second : State} (started : AsStarted params type ttyOptions first)
    (started' : AsStarted params type ttyOptions second) (inService : first.InService)
    (inService' : second.InService) : Inseparable first second where
  line := by
    have down {state : State} (started : AsStarted params type ttyOptions state) (wellformed : state.Wellformed) :
        ¬ state.LineUp := by
      intro up
      have auto := (wellformed.toSound.lineUp up).2.1
      rw [started.pttFlag] at auto
      simp at auto
    exact iff_of_false (down started inService.wellformed) (down started' inService'.wellformed)
  calls := (started.indistinct started').sameCalls inService.wellformed
  made _ := made_of_indistinct (started.indistinct started') inService inService'

end Cwdaemon
