import Cwdaemon.Verified.Works

/-! # Word mode

In word mode ABORT is ignored, so that a text is played to its end.  Two other requests
do not look at the mode: TUNE flushes the tone queue and SOUND_SYSTEM deletes the generator
that owns it.
-/

namespace Cwdaemon

/-- The call takes tones from the queue that have not been played. -/
def Entry.Removes (entry : Entry) : Prop :=
  (entry.call = .flushToneQueue ∨ entry.call = .generatorDelete) ∧ 0 < entry.moment.toneQueueLength

def Keeps (entry : Entry) : Prop := ¬ entry.Removes

/-- Nothing is lost when there is nothing to lose. -/
theorem Keeps.of_empty {entry : Entry} (empty : entry.moment.toneQueueLength = 0) : Keeps entry :=
  fun removes => absurd removes.2 (by omega)

/-- RESET ends word mode; EXIT, and an error of the socket, end the daemon. -/
def Action.ends : Action → Bool
  | .exit | .request .reset _ | .request .exit _ => true
  | _ => false

/-- A tuning of one second or more, or a change to a known sound system. -/
def Action.interrupts : Action → Bool
  | .request .tune payload => (paramsTune payload).any (0 < ·)
  | .request .soundSystem payload => (paramsSystem payload).isSome
  | _ => false

namespace State

/-! ## Calls that keep the tones -/

theorem Opens.keeps {entry : Entry} (opens : Opens entry) : Keeps entry := by
  unfold Opens at opens
  rintro ⟨flush | delete, -⟩
  · simp [flush] at opens
  · simp [delete] at opens

variable {before after state : State}

theorem Works.keeps {licence : Licence} (works : Works licence before after) (stays : ¬ licence.loses) :
    Adds Keeps before after := by
  obtain ⟨flushes, renews⟩ := not_or.mp stays
  refine works.adds.mono fun entry made => ?_
  rintro ⟨flush | delete, -⟩
  · rw [flush] at made
    exact made.elim flushes (by simp)
  · rw [delete] at made
    exact made.elim renews (by simp)

theorem keeps_tune (world : World) (seconds : Nat) (empty : state.toneQueueLength = 0) :
    Adds Keeps state (state.tune world seconds) := by
  have flushed : Adds Keeps state state.cwFlushToneQueue := .callGenerator _ (.of_empty empty)
  have tuned : Works { Licence.none with sounds := True, raises := True } state.cwFlushToneQueue _ :=
    .tuneTones trivial (.inl trivial) world seconds
  unfold State.tune
  split
  · exact flushed.trans (tuned.keeps (not_or.mpr ⟨id, id⟩))
  · exact .refl _ state

theorem cwGeneratorStop_toneQueueLength (state : State) :
    state.cwGeneratorStop.toneQueueLength = state.toneQueueLength := by
  rw [← length_tones, ← length_tones]
  cases opened : state.libcw.generator with
  | none => simp [tones, cwGeneratorStop, callGenerator_eq, opened]
  | some generator => simp [tones, cwGeneratorStop, callGenerator_eq, opened]

theorem keeps_closeLibcwOutput (empty : state.toneQueueLength = 0) : Adds Keeps state state.closeLibcwOutput := by
  have stops : Adds Keeps state state.cwGeneratorStop := .callGenerator _ (.of_empty empty)
  have deletes : Adds Keeps state.cwGeneratorStop (state.cwGeneratorStop.record .generatorDelete) :=
    .record (.of_empty ((cwGeneratorStop_toneQueueLength state).trans empty))
  exact (stops.trans deletes).trans (.of_log_eq rfl)

theorem openLibcwOutput_empty (world : World) (audioSystem : AudioSystem) (state : State) :
    (state.openLibcwOutput world audioSystem).2.toneQueueLength = 0 := by
  obtain ⟨success, generator, log, equal, opened, failed⟩ := openLibcwOutput_eq world audioSystem state
  have new {started : Bool} (fresh : IsNew audioSystem started generator) :
      (state.withLibcw ⟨generator, state.libcw.keyingCallback⟩ log).toneQueueLength = 0 := by
    rw [show generator = _ from fresh]
    rfl
  rw [equal]
  cases success with
  | true => exact new (opened rfl)
  | false =>
    rcases failed rfl with none | fresh
    · rw [none]
      rfl
    · exact new fresh

theorem keeps_openOrFallBack (world : World) (state : State) : Adds Keeps state (state.openOrFallBack world) := by
  have opens (audioSystem : AudioSystem) (state : State) :
      Adds Keeps state (state.openLibcwOutput world audioSystem).2 :=
    (adds_openLibcwOutput world audioSystem state).mono fun _ => Opens.keeps
  have opened := opens state.current.audioSystem state
  have fallen := (opened.trans (keeps_closeLibcwOutput (openLibcwOutput_empty world _ state))).trans (opens .null _)
  simp only [openOrFallBack]
  split
  · exact opened.trans (.of_log_eq rfl)
  · split
    · exact fallen.trans (.of_log_eq rfl)
    · exact fallen.trans (.of_log_eq rfl)

theorem keeps_escSoundSystem (world : World) (payload : Bytes) (empty : state.toneQueueLength = 0) :
    Adds Keeps state (state.escSoundSystem world payload) := by
  cases valid : paramsSystem payload with
  | none =>
    simp only [escSoundSystem, valid]
    exact .refl _ state
  | some system =>
    have selected : Adds Keeps state { state with current := { state.current with audioSystem := system } } :=
      .of_log_eq rfl
    have opened := (selected.trans (keeps_closeLibcwOutput empty)).trans (keeps_openOrFallBack world _)
    have configured (params : Params) (state : State) : Works .none state (state.configured params) :=
      .configured params state
    have registered (device : Option DeviceType) (state : State) : Works .none state (state.cwRegisterKeyingCallback device) :=
      .cwRegisterKeyingCallback device state
    rw [escSoundSystem_configured valid]
    simp only
    split
    · exact (opened.trans ((configured _ _).keeps (not_or.mpr ⟨id, id⟩))).trans ((registered _ _).keeps (not_or.mpr ⟨id, id⟩))
    · exact opened

/-! ## Steps in word mode -/

/-- The step keeps the tones: what was in the queue, and is added to it, is played in
order or is still in the queue. -/
structure Uninterrupted (label : Label) (state : State) : Prop where
  keeps : ∀ entry ∈ (state.step label).log, ¬ entry.Removes
  conserves : ∃ added, state.tones ++ added = playedTones (state.step label).log ++ (state.step label).tones

/-- A tuning, or a change of the sound system, comes while tones are queued. -/
def Interrupts (label : Label) (state : State) : Prop :=
  state.status = .running ∧ 0 < state.toneQueueLength ∧ label.input.action.interrupts = true

instance (label : Label) (state : State) : Decidable (Interrupts label state) := inferInstanceAs (Decidable (_ ∧ _))

theorem uninterrupted_of_works {licence : Licence} {label : Label}
    (works : Works licence { state with log := [] } (state.step label)) (stays : ¬ licence.loses) :
    Uninterrupted label state := by
  obtain ⟨new, log, keeps⟩ := works.keeps stays
  obtain ⟨new', added, log', tones⟩ := works.conserves stays
  rw [List.nil_append] at log log'
  exact ⟨fun entry member => keeps entry (log ▸ member), added, by rw [log']; exact tones⟩

/-- An action that does nothing. -/
theorem works_of_idle {label : Label} (running : state.status = .running)
    (idle : (state.ready label.input).act label.world label.input.action = state.ready label.input) :
    Works (.polling label.world) { state with log := [] } (state.step label) := by
  rw [step_eq label running, idle]
  exact (Works.ready label.input state).finished label.world label.input

/-- An action that keeps the tones where there are none. -/
theorem uninterrupted_of_empty {label : Label} (running : state.status = .running) (empty : state.toneQueueLength = 0)
    (keeps : Adds Keeps (state.ready label.input) ((state.ready label.input).act label.world label.input.action)) :
    Uninterrupted label state := by
  have finish (state : State) := (Works.finish label.world label.input state).keeps (not_or.mpr ⟨id, id⟩)
  obtain ⟨new, log, kept⟩ := (((Works.ready label.input state).keeps (not_or.mpr ⟨id, id⟩)).trans keeps).trans (finish _)
  have none : state.tones = [] := List.length_eq_zero_iff.mp (state.length_tones.trans empty)
  rw [← step_eq label running, List.nil_append] at log
  exact ⟨fun entry member => kept entry (log ▸ member), _, by rw [none, List.nil_append]⟩

/-- In word mode ABORT does nothing, and without tones in the queue the other requests
have nothing to remove. -/
theorem uninterrupted_of_calm {label : Label} (linked : state.Linked) (word : state.wordmode = true)
    (lasts : label.input.action.ends = false) (calm : ¬ Interrupts label state) : Uninterrupted label state := by
  by_cases loses : (label.input.action.licence (state.ready label.input)).loses
  case neg => exact uninterrupted_of_works (.step label (.inr linked) (Licence.Within.refl _)) loses
  by_cases running : state.status = .running
  case neg =>
    have stopped : Works .none { state with log := [] } (state.step label) := by
      rw [step_ended label running]
      exact .refl _
    exact uninterrupted_of_works stopped (not_or.mpr ⟨id, id⟩)
  have empty (none : ¬ 0 < state.toneQueueLength) : (state.ready label.input).toneQueueLength = 0 := by
    rw [ready_toneQueueLength]
    omega
  have mode : (state.ready label.input).wordmode = true := by
    rw [(Works.ready label.input state).wordmode id]
    exact word
  rcases loses with ⟨payload, action | action⟩ | action | ⟨payload, action | action | action⟩
  · refine uninterrupted_of_works (works_of_idle running ?_) (not_or.mpr ⟨id, id⟩)
    simp only [action, act, handleEscRequest, escAbort, mode, if_true]
  · by_cases busy : 0 < state.toneQueueLength
    · refine uninterrupted_of_works (works_of_idle running ?_) (not_or.mpr ⟨id, id⟩)
      simp only [action, act, handleEscRequest, escTune]
      cases valid : paramsTune payload with
      | none => rfl
      | some seconds =>
        have nothing : ¬ 0 < seconds := fun positive =>
          calm ⟨running, busy, by simp [action, Action.interrupts, valid, positive]⟩
        exact if_neg (by omega)
    · refine uninterrupted_of_empty running (by omega) ?_
      simp only [action, act, handleEscRequest, escTune]
      split
      · exact .refl _ _
      · exact keeps_tune label.world _ (empty busy)
  · simp [action, Action.ends] at lasts
  · simp [action, Action.ends] at lasts
  · by_cases busy : 0 < state.toneQueueLength
    · refine uninterrupted_of_works (works_of_idle running ?_) (not_or.mpr ⟨id, id⟩)
      cases valid : paramsSystem payload with
      | none => simp only [action, act, handleEscRequest, escSoundSystem, valid]
      | some system => exact absurd ⟨running, busy, by simp [action, Action.interrupts, valid]⟩ calm
    · refine uninterrupted_of_empty running (by omega) ?_
      simp only [action, act, handleEscRequest]
      exact keeps_escSoundSystem label.world payload (empty busy)
  · simp [action, Action.ends] at lasts

/-- The flush of a tuning, and the deletion of the generator, come when the tones are
still in the queue. -/
theorem removes_of_interrupts {label : Label} (interrupts : Interrupts label state) :
    ∃ entry ∈ (state.step label).log, entry.Removes := by
  obtain ⟨running, busy, interrupts⟩ := interrupts
  have queued : 0 < (state.ready label.input).toneQueueLength := by
    rw [ready_toneQueueLength]
    exact busy
  have stepped {entry : Entry} (member : entry ∈ ((state.ready label.input).act label.world label.input.action).log) :
      entry ∈ (state.step label).log := by
    obtain ⟨new, log, -⟩ := (Works.finish label.world label.input
      ((state.ready label.input).act label.world label.input.action)).adds
    rw [step_eq label running, log]
    exact List.mem_append_left _ member
  generalize state.ready label.input = ready at queued stepped
  unfold Action.interrupts at interrupts
  split at interrupts
  case h_1 payload action =>
    obtain ⟨seconds, valid, positive⟩ : ∃ seconds, paramsTune payload = some seconds ∧ 0 < seconds := by
      simpa [Option.any_eq_true] using interrupts
    refine ⟨⟨.flushToneQueue, ready.moment⟩, stepped ?_, .inl rfl, queued⟩
    have tuned : Works .all ready.cwFlushToneQueue _ := .tuneTones trivial (.inl trivial) label.world seconds.toNat
    obtain ⟨new, log, -⟩ := tuned.adds
    have sounds : 0 < seconds.toNat := by omega
    simp only [action, act, handleEscRequest, escTune, valid, tune, if_pos sounds, log]
    exact List.mem_append_left _ (List.mem_append_right _ (List.mem_singleton_self _))
  case h_2 payload action =>
    obtain ⟨system, valid⟩ := Option.isSome_iff_exists.mp interrupts
    generalize selected : ({ ready with current := { ready.current with audioSystem := system } } : State) = chosen
    have same : chosen.cwGeneratorStop.toneQueueLength = ready.toneQueueLength := by
      rw [cwGeneratorStop_toneQueueLength, ← selected]
      rfl
    refine ⟨⟨.generatorDelete, chosen.cwGeneratorStop.moment⟩, stepped ?_, .inr rfl, Nat.lt_of_lt_of_eq queued same.symm⟩
    have deleted : ⟨.generatorDelete, chosen.cwGeneratorStop.moment⟩ ∈ chosen.closeLibcwOutput.log :=
      List.mem_append_right _ (List.mem_singleton_self _)
    have opened : Works .all chosen.closeLibcwOutput (chosen.closeLibcwOutput.openOrFallBack label.world) :=
      .openOrFallBack trivial label.world _
    simp only [action, act, handleEscRequest, escSoundSystem_configured valid, selected]
    split
    · obtain ⟨new, log, -⟩ := ((opened.trans (.configured _ _)).trans (.cwRegisterKeyingCallback _ _)).adds
      rw [log]
      exact List.mem_append_left _ deleted
    · obtain ⟨new, log, -⟩ := opened.adds
      rw [log]
      exact List.mem_append_left _ deleted
  case h_3 => cases interrupts

theorem uninterrupted_iff {label : Label} (linked : state.Linked) (word : state.wordmode = true)
    (lasts : label.input.action.ends = false) : Uninterrupted label state ↔ ¬ Interrupts label state := by
  refine ⟨fun uninterrupted interrupts => ?_, uninterrupted_of_calm linked word lasts⟩
  obtain ⟨entry, member, removes⟩ := removes_of_interrupts interrupts
  exact uninterrupted.keeps entry member removes

/-- Word mode lasts until RESET. -/
theorem step_wordmode {label : Label} (linked : state.Linked) (word : state.wordmode = true)
    (lasts : label.input.action.ends = false) : (state.step label).wordmode = true := by
  have works := Works.step label (.inr linked) (Licence.Within.refl _)
  by_cases switches : (label.input.action.licence (state.ready label.input)).switches
  case neg => exact (works.wordmode switches).trans word
  obtain ⟨payload, action | action⟩ := switches
  · simp [action, Action.ends] at lasts
  · by_cases running : state.status = .running
    · rw [step_eq label running, action, (Works.finish label.world label.input _).wordmode id]
      rfl
    · rw [step_ended label running]
      exact word

theorem step_enters_wordmode {label : Label} {payload : Bytes} (running : state.status = .running)
    (enters : label.input.action = .request .wordMode payload) : (state.step label).wordmode = true := by
  rw [step_eq label running, enters, (Works.finish label.world label.input _).wordmode id]
  rfl

end State

open State

/-- After a WORD_MODE request, and until RESET or the end of the daemon, every step keeps the
tones exactly if no tuning and no change of the sound system comes while tones are queued. -/
theorem word_mode_is_uninterruptible_iff {state : State} (reachable : Reachable state)
    (running : state.status = .running) {word : Label} {payload : Bytes}
    (enters : word.input.action = .request .wordMode payload) {labels : List Label}
    (lasts : ∀ label ∈ labels, label.input.action.ends = false) :
    Runs.Steps State.step Uninterrupted labels (state.step word) ↔
      Runs.Steps State.step (fun label state => ¬ Interrupts label state) labels (state.step word) := by
  have mode := step_enters_wordmode running enters
  have wellformed := reachable.wellformed.step word
  have linked := reachable.linked.step word reachable.wellformed
  generalize state.step word = state at mode wellformed linked
  clear running reachable enters
  induction labels generalizing state with
  | nil => exact Iff.rfl
  | cons label labels inductionHypothesis =>
    have first := lasts label (by simp)
    exact and_congr (uninterrupted_iff linked mode first)
      (inductionHypothesis (fun later member => lasts later (by simp [member])) (state.step label)
        (step_wordmode linked mode first) (wellformed.step label) (linked.step label wellformed))

/-- A tuning flushes the tones of a letter. -/
theorem word_mode_is_interrupted_by_tuning :
    ¬ ∀ state word payload labels, Reachable state → state.status = .running →
      word.input.action = .request .wordMode payload → (∀ label ∈ labels, label.input.action.ends = false) →
      Runs.Steps State.step Uninterrupted labels (state.step word) := by
  intro claim
  have keeps := (claim onSerialPort (calm.receivesEscape .wordMode []) []
    [calm.receives [byte 'e'], calm.receivesEscape .tune [byte '1']] ⟨onSerialPort, [], started_onSerialPort, rfl⟩
    (by decide +kernel) rfl (by decide)).2.1.keeps
  have flushed : ∃ entry ∈ (Runs.run State.step [calm.receivesEscape .wordMode [], calm.receives [byte 'e'],
      calm.receivesEscape .tune [byte '1']] onSerialPort).log,
      entry.call = .flushToneQueue ∧ 0 < entry.moment.toneQueueLength := by decide +kernel
  obtain ⟨entry, member, call, busy⟩ := flushed
  exact keeps entry member ⟨.inl call, busy⟩

/-- An ABORT is ignored, and a tuning comes when the letter has been played. -/
theorem word_mode_is_uninterruptible_for_a_letter :
    Runs.Steps State.step Uninterrupted [calm.receives [byte 'e'], calm.receivesEscape .abort [], ⟨calm, .dequeue⟩,
      ⟨calm, .dequeue⟩, calm.receivesEscape .tune [byte '1']] (onSerialPort.step (calm.receivesEscape .wordMode [])) := by
  have calmly : Runs.Steps State.step (fun label state => ¬ Interrupts label state) [calm.receives [byte 'e'],
      calm.receivesEscape .abort [], ⟨calm, .dequeue⟩, ⟨calm, .dequeue⟩, calm.receivesEscape .tune [byte '1']]
      (onSerialPort.step (calm.receivesEscape .wordMode [])) :=
    ⟨by decide +kernel, by decide +kernel, by decide +kernel, by decide +kernel, by decide +kernel, trivial⟩
  exact (word_mode_is_uninterruptible_iff ⟨onSerialPort, [], started_onSerialPort, rfl⟩ (by decide +kernel) rfl
    (by decide)).mpr calmly

end Cwdaemon
