import Cwdaemon.Foundations.Monitor
import Cwdaemon.Verified.Works

/-! # Tones need a generator

A character or a tone may be handed to libcw only when there is a generator that was
created and started, and not stopped or deleted since.  Whether there is one is read off
the calls, from the start of the process on.  A RESET or a SOUND_SYSTEM request that
fails leaves the daemon running without one, and nothing refuses the texts and the
tunings that come then.
-/

namespace Cwdaemon

/-- The call hands something to play to libcw. -/
def Call.sounds : Call → Bool
  | .sendCharacter _ _ | .queueTone _ _ => true
  | _ => false

/-- Tones are asked for only of a started generator. -/
def generatorMonitor : Monitor Output Entry where
  next output entry := output.next entry.call
  Allows output entry := entry.call.sounds = true → output = .started

instance (output : Output) (entry : Entry) : Decidable (generatorMonitor.Allows output entry) :=
  inferInstanceAs (Decidable (_ → _))

/-- The action has something to play. -/
def Action.plays (action : Action) (state : State) : Bool :=
  match action with
  | .text bytes => state.passes bytes
  | .request .tune payload => (paramsTune payload).any (0 < ·)
  | _ => false

namespace State

/-- The step hands nothing to libcw when there is no audio output. -/
def Refuses (label : Label) (state : State) : Prop :=
  state.hasAudioOutput = false → ∀ entry ∈ (state.step label).log, entry.call.sounds = false

/-- A text or a tuning comes when there is no audio output. -/
def Unheard (label : Label) (state : State) : Prop :=
  state.status = .running ∧ state.hasAudioOutput = false ∧ label.input.action.plays state = true

instance (label : Label) (state : State) : Decidable (state.Unheard label) := inferInstanceAs (Decidable (_ ∧ _))

variable {licence : Licence} {before after state : State}

/-! ## Calls and the output -/

/-- The calls of a change account for the output after it. -/
theorem Works.tracked (works : Works licence before after) :
    ∃ new, after.log = before.log ++ new ∧ generatorMonitor.after new before.output = after.output := by
  induction works with
  | refl => exact ⟨[], (List.append_nil _).symm, rfl⟩
  | trans _ _ earlier later =>
    obtain ⟨new, log, output⟩ := earlier
    obtain ⟨new', log', output'⟩ := later
    exact ⟨new ++ new', by rw [log', log, List.append_assoc], by rw [Monitor.after_append, output, output']⟩
  | adjust _ _ _ libcw log => exact ⟨[], by rw [log, List.append_nil], by simp only [State.output, libcw, Monitor.after_nil]⟩
  | call command _ _ state _ output => exact ⟨[⟨command, state.moment⟩], rfl, output.symm⟩
  | played generator tone tones state opened =>
    exact ⟨[⟨.dequeued tone, state.moment⟩], rfl, by simp [generatorMonitor, Output.next, State.output, outputOf, taken, opened]⟩
  | setDevice => exact ⟨[], (List.append_nil _).symm, rfl⟩

theorem Wires.sounds {call : Call} (wires : Wires licence state call) (silent : ¬ licence.sounds) :
    call.sounds = false := by
  cases call <;> first | rfl | exact absurd wires silent

theorem Works.quiet (works : Works licence before after) (silent : ¬ licence.sounds) :
    Adds (fun entry => entry.call.sounds = false) before after := by
  refine works.adds.mono fun entry made => ?_
  rcases made with wires | ⟨tone, played⟩
  · exact wires.sounds silent
  · rw [played]
    rfl

theorem accepts_quiet {log : List Entry} (quiet : ∀ entry ∈ log, entry.call.sounds = false) (output : Output) :
    generatorMonitor.Accepts log output := by
  refine Monitor.accepts_of_allowed fun entry member output sounds => ?_
  rw [quiet entry member] at sounds
  cases sounds

/-- Calls that leave the generator alone are accepted when there is one, or none of them
asks for tones. -/
theorem Works.accepts_iff (works : Works licence before after) (keeps : ¬ licence.renews) {new : List Entry}
    (log : after.log = before.log ++ new) :
    generatorMonitor.Accepts new before.output ↔ before.output = .started ∨ ∀ entry ∈ new, entry.call.sounds = false := by
  obtain ⟨new', log', made⟩ := works.adds
  obtain rfl : new = new' := List.append_cancel_left (log.symm.trans log')
  have stays : ∀ entry ∈ new, generatorMonitor.next before.output entry = before.output := by
    intro entry member
    rcases made entry member with wires | ⟨tone, played⟩
    · exact wires.next keeps _
    · simp only [generatorMonitor, played, Output.next]
  rw [(Monitor.still stays).2]
  by_cases started : before.output = .started
  · simp [generatorMonitor, started]
  · simp [generatorMonitor, started]

/-! ## Output of a running daemon -/

theorem Tuned.hasAudioOutput_iff (tuned : state.Tuned) : state.hasAudioOutput = true ↔ state.output = .started := by
  rw [output_eq_tuning]
  constructor
  · intro available
    obtain ⟨generator, opened, plays⟩ := tuned.audible available
    simp [opened, outputOf, plays.started]
  · intro started
    by_contra unavailable
    have silent := tuned.silent (by simpa using unavailable)
    cases opened : state.tuning with
    | none => simp [opened, outputOf] at started
    | some generator => simp [opened, outputOf, silent generator opened] at started

/-! ## What is played -/

/-- A command that passes a character to libcw calls it. -/
theorem sounds_execAll (world : World) {commands : List Command} (sends : commands.any Command.sends = true)
    (state : State) : ∃ entry ∈ (execAll world commands state).log, entry.call.sounds = true := by
  have works (commands : List Command) (state : State) : Works .all state (execAll world commands state) :=
    .execAll world commands (.inl trivial) (.inl trivial)
  induction commands generalizing state with
  | nil => cases sends
  | cons command commands inductionHypothesis =>
    rcases Bool.or_eq_true_iff.mp sends with first | rest
    · cases command with
      | send char =>
        have sent : Works .all ((state.serve world).cwSendCharacter world char) (execAll world (.send char :: commands) state) :=
          (Works.dequeues _ (.inl trivial)).trans (works commands _)
        refine ⟨_, sent.adds.subset (List.mem_append_right _ (List.mem_singleton_self _)), rfl⟩
      | speed | gap | readGap | ptt | replace | reply => cases first
    · exact inductionHypothesis rest _

/-- A text that passes a character, or a tuning, asks libcw for something. -/
theorem sounds_of_plays {input : Input} (wellformed : state.Wellformed) (world : World)
    (plays : input.action.plays state = true) : ∃ entry ∈ (state.act world input.action).log, entry.call.sounds = true := by
  cases action : input.action with
  | text request =>
    obtain ⟨nulFree, length⟩ := Input.action_text_bounds action
    obtain ⟨-, received⟩ := receiveText_eq world request wellformed.idle nulFree (Nat.lt_of_le_of_lt length (by decide))
    simp only [action, Action.plays] at plays
    simp only [act, received, playLoop_eq]
    exact sounds_execAll world plays _
  | request request payload =>
    cases request with
    | tune =>
      obtain ⟨seconds, valid, positive⟩ : ∃ seconds, paramsTune payload = some seconds ∧ 0 < seconds := by
        simpa [action, Action.plays, Option.any_eq_true] using plays
      have sounds : 0 < seconds.toNat := by omega
      simp only [act, handleEscRequest, escTune, valid, tune, if_pos sounds]
      exact ⟨_, List.mem_append_right _ (List.mem_singleton_self _), rfl⟩
    | reset | speed | tone | abort | exit | wordMode | weighting | cwdevice | port | pttState | ssbWay | txDelay
    | bandSwitch | soundSystem | volume | reply => simp [action, Action.plays] at plays
  | idle | exit | dequeue | key => simp [action, Action.plays] at plays

/-! ## Steps -/

/-- Whatever asks for tones leaves the generator as it is. -/
theorem sounds_keeps {action : Action} (sounds : action.Sounds state) : ¬ (action.licence state).renews := by
  cases action with
  | idle | exit => exact sounds.elim
  | text | dequeue | key => simp [Action.licence]
  | request request payload =>
    cases request with
    | tune => simp [Action.licence]
    | reset | speed | tone | abort | exit | wordMode | weighting | cwdevice | port | pttState | ssbWay | txDelay
    | bandSwitch | soundSystem | volume | reply => exact sounds.elim

/-- Without a started generator libcw's thread asks for nothing. -/
theorem plays_of_sounds {input : Input} (wellformed : state.Wellformed) (silent : state.output ≠ .started)
    (sounds : input.action.Sounds state) : input.action.plays state = true := by
  cases action : input.action with
  | text request =>
    obtain ⟨nulFree, length⟩ := Input.action_text_bounds action
    obtain ⟨queued, -⟩ := receiveText_eq calm request wellformed.idle nulFree (Nat.lt_of_le_of_lt length (by decide))
    rw [action, Action.Sounds, queued] at sounds
    exact sounds.resolve_left silent
  | request request payload =>
    rw [action] at sounds
    cases request with
    | tune => exact sounds
    | reset | speed | tone | abort | exit | wordMode | weighting | cwdevice | port | pttState | ssbWay | txDelay
    | bandSwitch | soundSystem | volume | reply => exact sounds.elim
  | dequeue =>
    rw [action] at sounds
    exact absurd sounds silent
  | idle | exit | key =>
    rw [action] at sounds
    exact sounds.elim

theorem SameTuning.plays (same : SameTuning before after) (action : Action) : action.plays after = action.plays before := by
  cases action with
  | text bytes => simp only [Action.plays, passes, programOf, same.gap, same.current, same.opened]
  | request request payload => cases request <;> rfl
  | idle | exit | dequeue | key => rfl

/-- The calls of a step account for the output after it. -/
theorem tracked_step (linked : state.Linked) (label : Label) :
    generatorMonitor.after (state.step label).log state.output = (state.step label).output := by
  obtain ⟨new, log, output⟩ := (Works.step label (.inr linked) (Licence.Within.refl _)).tracked
  rw [log]
  exact output

theorem accepts_step_iff (regulated : state.Regulated) (linked : state.Linked) (label : Label) :
    generatorMonitor.Accepts (state.step label).log state.output ∧ state.Refuses label ↔ ¬ state.Unheard label := by
  have wellformed := regulated.wellformed.ready label.input
  have same := SameTuning.ready label.input state
  constructor
  · rintro ⟨-, refuses⟩ ⟨running, unavailable, plays⟩
    obtain ⟨entry, member, sounds⟩ := sounds_of_plays wellformed label.world ((same.plays _).trans plays)
    rw [refuses unavailable entry (log_subset_step running member)] at sounds
    cases sounds
  · intro heard
    have works := Works.step label (.inr linked) (Licence.Within.refl _)
    have quiet (silent : ¬ label.input.action.Sounds (state.ready label.input)) :
        ∀ entry ∈ (state.step label).log, entry.call.sounds = false := by
      obtain ⟨new, log, quiet⟩ := works.quiet silent
      rw [log]
      exact quiet
    by_cases running : state.status = .running
    case neg =>
      have stopped : (state.step label).log = [] := by rw [step_ended label running]
      rw [Refuses, stopped]
      exact ⟨trivial, fun _ entry member => absurd member List.not_mem_nil⟩
    have available := (regulated.tuned running).hasAudioOutput_iff
    by_cases started : state.output = .started
    · refine ⟨?_, fun unavailable => ?_⟩
      · by_cases sounds : label.input.action.Sounds (state.ready label.input)
        · exact (works.accepts_iff (sounds_keeps sounds) (List.nil_append _).symm).mpr (.inl started)
        · exact accepts_quiet (quiet sounds) _
      · rw [available.mpr started] at unavailable
        cases unavailable
    · have unavailable : state.hasAudioOutput = false := by simpa using mt available.mp started
      have silent : ¬ label.input.action.Sounds (state.ready label.input) := fun sounds =>
        heard ⟨running, unavailable, (same.plays _).symm.trans (plays_of_sounds wellformed (same.output ▸ started) sounds)⟩
      exact ⟨accepts_quiet (quiet silent) _, fun _ => quiet silent⟩

end State

open State

/-- From the start of the process on, tones are asked for only of a started generator,
and without an audio output nothing is handed to libcw, exactly if no text and no tuning
comes while there is no audio output. -/
theorem tones_need_a_generator_iff {initial : State} (started : Started initial) (labels : List Label) :
    generatorMonitor.Accepts (initial.log ++ calls labels initial) .closed ∧
        Runs.Steps State.step Refuses labels initial ↔
      Runs.Steps State.step (fun label state => ¬ Unheard label state) labels initial := by
  obtain ⟨args, world, started⟩ := started
  have works := Works.start started
  obtain ⟨new, log, output⟩ := works.tracked
  obtain ⟨new', log', quiet⟩ := works.quiet id
  have begun : generatorMonitor.after initial.log .closed = initial.output := by
    rw [log]
    exact output
  have first : generatorMonitor.Accepts initial.log .closed := by
    rw [log']
    exact accepts_quiet quiet _
  have preserved (label : Label) (state : State) (invariant : state.Regulated ∧ state.Linked) :
      (state.step label).Regulated ∧ (state.step label).Linked :=
    ⟨invariant.1.step label, invariant.2.step label invariant.1.wellformed⟩
  have invariant : initial.Regulated ∧ initial.Linked :=
    ⟨start_regulated started, Reachable.linked ⟨initial, [], ⟨args, world, started⟩, rfl⟩⟩
  have history : generatorMonitor.Accepts (calls labels initial) initial.output ↔
      Runs.Steps State.step (fun label state => generatorMonitor.Accepts (state.step label).log state.output) labels initial :=
    Monitor.accepts_history_iff preserved (fun label state invariant => tracked_step invariant.2 label) labels invariant
  rw [Monitor.accepts_append, begun, history, and_iff_right first, ← Runs.steps_and]
  exact Runs.steps_congr preserved (fun label state invariant => accepts_step_iff invariant.1 invariant.2 label) labels invariant

/-- A world in which no sound system can be opened. -/
def deaf : World := { calm with generatorNew := fun _ _ => false }

/-- A reset fails to open the output, and the next text is played all the same. -/
theorem text_is_played_without_generator :
    ¬ ∀ initial labels, Started initial →
      generatorMonitor.Accepts (initial.log ++ calls labels initial) .closed ∧
        Runs.Steps State.step Refuses labels initial := by
  intro claim
  have accepted := (claim onSerialPort [deaf.receivesEscape .reset [], calm.receives [byte 'e']] started_onSerialPort).1
  exact absurd accepted (by decide +kernel)

/-- A reset fails, the key is let go and a tone is set, a second reset succeeds, and a text
is played. -/
theorem tones_need_a_generator_after_second_reset :
    generatorMonitor.Accepts (onSerialPort.log ++ calls [deaf.receivesEscape .reset [], ⟨calm, .key false⟩,
        calm.receivesEscape .tone [byte '9', byte '0', byte '0'], calm.receivesEscape .reset [],
        calm.receives [byte 'e'], ⟨calm, .dequeue⟩] onSerialPort) .closed ∧
      Runs.Steps State.step Refuses [deaf.receivesEscape .reset [], ⟨calm, .key false⟩,
        calm.receivesEscape .tone [byte '9', byte '0', byte '0'], calm.receivesEscape .reset [],
        calm.receives [byte 'e'], ⟨calm, .dequeue⟩] onSerialPort :=
  (tones_need_a_generator_iff started_onSerialPort _).mpr
    ⟨by decide +kernel, by decide +kernel, by decide +kernel, by decide +kernel, by decide +kernel,
      by decide +kernel, trivial⟩

end Cwdaemon
