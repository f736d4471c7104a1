import Cwdaemon.Verified.Calls

/-! # The PTT flag never claims a PTT that is off

`cwdaemon_set_ptt_on()` believes the flag.  On a serial port the flag is right as
long as no request sets `PTT_ACTIVE_AUTO` without raising the line, or puts a line
that is down under a flag that is set; then every character that libcw is given goes
out under PTT.
-/

namespace Cwdaemon

namespace State

/-- On a serial port `PTT_ACTIVE_AUTO` means that the device was last told to turn PTT on. -/
def TruthfulFlag (state : State) : Prop :=
  state.status = .running → state.globalCwdevice = .ttys → state.pttFlag.has .auto = true →
    state.device.pttCommand = some true

/-- A character is given to libcw with PTT on, if there is a PTT delay. -/
def WithPtt (entry : Entry) : Prop :=
  ∀ char accepted, entry.call = .sendCharacter char accepted → entry.moment.device = .ttys →
    entry.moment.pttDelayMs ≠ 0 → entry.moment.pttCommand = some true

/-- Every character that is given to libcw in a step. -/
def KeysWithPtt (label : Label) (state : State) : Prop := ∀ entry ∈ (state.step label).log, WithPtt entry

/-- The serial port is selected only when automatic mode is off, and the line is handed
over from manual to automatic mode only where there is a line that automatic mode holds. -/
def TruthfulAction (world : World) (action : Action) (state : State) : Prop :=
  match action with
  | .request .cwdevice payload =>
    ¬ Refused world payload → selectedType world payload = .ttys → state.pttFlag.has .auto = false
  | .request .pttState payload =>
    getLong payload = some 0 → state.pttFlag.has .manual = true → state.pttFlag.has .auto = false →
      1 < state.toneQueueLength → state.globalCwdevice ≠ .ttys
  | _ => True

def KeepsTruth (label : Label) (state : State) : Prop :=
  state.status = .running → TruthfulAction label.world label.input.action state

theorem truthful_iff {state : State} (running : state.status = .running) :
    state.TruthfulFlag ↔ state.keyer.Truthful := by
  simp only [TruthfulFlag, Keyer.Truthful, running, forall_const, keyer, device, decide_eq_true_eq, beq_iff_eq]
  constructor
  · intro truthful serial auto
    have on := truthful serial auto
    rwa [serial] at on
  · intro truthful serial auto
    rw [serial]
    exact truthful serial auto

/-- PTT is on when a character is sent in automatic mode. -/
theorem withPtt_of_truthful {state : State} {char : UInt8} {accepted : Bool} (truthful : state.keyer.Truthful)
    (held : state.Held) : WithPtt ⟨.sendCharacter char accepted, state.moment⟩ := by
  rintro _ _ - serial delayed
  have line := truthful (by simpa [keyer, moment] using serial) (held delayed)
  simp only [moment] at serial
  simpa [keyer, moment, device, serial] using line

theorem withPtt_of_other {entry : Entry} (other : ∀ char accepted, entry.call ≠ .sendCharacter char accepted) :
    WithPtt entry :=
  fun char accepted call => absurd call (other char accepted)

theorem withPtt_of_routine {entry : Entry} (routine : Routine entry) : WithPtt entry := by
  refine withPtt_of_other fun char accepted call => ?_
  simp [Routine, call, Call.isRoutine] at routine

variable {state : State} {world : World}

theorem withPtt_of_serves {entry : Entry} (serves : Serves state entry) : WithPtt entry := by
  cases serves with
  | routine routine => exact withPtt_of_routine routine
  | release | answer | silence => exact withPtt_of_other nofun

theorem withPtt_of_lowers {entry : Entry} (lowers : Lowers entry) : WithPtt entry := by
  rcases lowers with routine | ⟨type, off⟩
  · exact withPtt_of_routine routine
  · exact withPtt_of_other fun _ _ call => by simp [off] at call

theorem withPtt_of_plays {request : Bytes} {entry : Entry} (truthful : state.keyer.Truthful)
    (plays : Plays world request state entry) : WithPtt entry := by
  cases plays with
  | routine routine => exact withPtt_of_routine routine
  | serve _ _ serves => exact withPtt_of_serves serves
  | raise | prepare => exact withPtt_of_other nofun
  | send held => exact withPtt_of_truthful truthful held

theorem withPtt_of_makes {request : EscRequest} {payload : Bytes} {entry : Entry}
    (truthful : state.keyer.Truthful) (makes : Makes payload state request entry) : WithPtt entry := by
  cases makes with
  | routine routine => exact withPtt_of_routine routine
  | resetFrequency | toneFrequency | soundSystemFrequency | tuneTone | raise | force | release | sendBreak
  | prepare => exact withPtt_of_other nofun
  | tuneCharacter after count raised =>
    have flushed : state.keyer.flush.Truthful := truthful
    refine withPtt_of_truthful ?_ fun delayed => ?_
    · rw [raised]
      exact flushed.raise
    · -- PTT was asked for just before, and with a delay this leaves automatic mode on.
      have auto : after.keyer.auto = true := by
        have delayed' : after.keyer.delayed = true := by simpa [keyer] using delayed
        rw [raised] at delayed' ⊢
        simp only [Keyer.queue, Keyer.raise, Keyer.flush] at delayed' ⊢
        grind
      exact auto

/-- What an action calls, it calls with PTT on. -/
theorem adds_withPtt (wellformed : state.Wellformed) (truthful : state.keyer.Truthful) (world : World)
    (input : Input) :
    Adds WithPtt state (state.act world input.action) :=
  adds_act wellformed world input (fun state => state.keyer.Truthful) (fun _ => truthful)
    (fun _ _ _ step sound held => held.read (step.keyer sound.watched)) (fun _ => withPtt_of_routine)
    (fun _ _ _ _ => withPtt_of_makes truthful) (fun _ _ _ held _ => withPtt_of_plays held)
    (fun _ _ => withPtt_of_lowers) fun _ => (adds_dequeue wellformed.watched).mono fun _ => withPtt_of_serves

/-! ## The flag along a run -/

theorem paramsPttOnOff_status (payload : Bytes) (state : State) :
    (state.paramsPttOnOff payload).status = state.status := (Kept.paramsPttOnOff payload state).status

theorem escCwdevice_status (world : World) (payload : Bytes) (state : State) :
    (state.escCwdevice world payload).status = state.status := by
  rcases escCwdevice_cases world payload state with ⟨-, log, equal⟩ | ⟨-, devices, log, equal, -⟩
  · rw [equal]
    rfl
  · rw [equal]
    rfl

/-- The controller's condition on the move, as a condition on the request. -/
theorem escMove_truthful_iff {request : EscRequest} (payload : Bytes) (stays : request ≠ .exit)
    (idle : state.requestQueue.bytes = []) :
    (state.escMove world request payload).Truthful state.keyer ↔
      TruthfulAction world (.request request payload) state := by
  cases request with
  | exit => exact absurd rfl stays
  | cwdevice =>
    simp only [escMove, TruthfulAction]
    split
    case isTrue refused => exact iff_of_true trivial fun accepted => absurd refused accepted
    case isFalse accepted =>
      simp only [Keyer.Move.Truthful, decide_eq_true_eq, accepted, not_false_eq_true, forall_const]
      rfl
  | pttState =>
    simp only [escMove, TruthfulAction]
    cases getLong payload with
    | none => simp [Keyer.Move.Truthful]
    | some lv =>
      by_cases zero : lv = 0
      · simp [zero, Keyer.Move.Truthful, keyer, idle]
      · simp [zero, Keyer.Move.Truthful]
  | abort =>
    simp only [escMove]
    split <;> exact Iff.rfl
  | tune =>
    simp only [escMove]
    split
    · exact Iff.rfl
    · split <;> exact Iff.rfl
  | txDelay =>
    simp only [escMove]
    split <;> exact Iff.rfl
  | soundSystem =>
    simp only [escMove]
    split <;> exact Iff.rfl
  | reset | speed | tone | wordMode | weighting | port | ssbWay | bandSwitch | volume | reply => exact Iff.rfl

theorem truthfulFlag_of_keyer (truthful : state.keyer.Truthful) : state.TruthfulFlag :=
  fun running => (truthful_iff running).mpr truthful running

theorem truthfulFlag_act_iff (wellformed : state.Wellformed) (running : state.status = .running)
    (truthful : state.keyer.Truthful) (input : Input) :
    (state.act world input.action).TruthfulFlag ↔ TruthfulAction world input.action state := by
  cases action : input.action with
  | idle => exact iff_of_true (truthfulFlag_of_keyer truthful) trivial
  | text request =>
    obtain ⟨nulFree, length⟩ := Input.action_text_bounds action
    obtain ⟨after, reads, -, received⟩ := reads_receiveText world request wellformed.idle nulFree
      (Nat.lt_of_le_of_lt length (by decide))
    have read : after.Sound ∧ after.keyer.Truthful := by
      refine reads.preserves (fun before after step (held : before.Sound ∧ before.keyer.Truthful) =>
        ⟨held.1.textStep length nulFree step, held.2.read (step.keyer held.1.watched)⟩) ⟨?_, ?_⟩
      · exact wellformed.toSound.withRequestQueue _
      · exact truthful
    refine iff_of_true ?_ trivial
    rw [State.act, received]
    exact truthfulFlag_of_keyer read.2
  | exit => exact iff_of_true (fun ended => by simp [State.act, exitProcess] at ended) trivial
  | dequeue =>
    refine iff_of_true (truthfulFlag_of_keyer ?_) trivial
    rcases keyer_dequeue wellformed.watched with same | drained
    · rw [State.act, same]
      exact truthful
    · rw [State.act, drained]
      exact truthful.drain
  | key on =>
    refine iff_of_true (truthfulFlag_of_keyer ?_) trivial
    obtain ⟨seconds, log, keyed⟩ := keyingevent_eq on state
    rw [State.act, keyed]
    exact truthful
  | request request payload =>
    have moved := Keyer.truthful_move_iff wellformed.accounted truthful (state.escMove world request payload)
    rw [← keyer_handleEscRequest world request payload wellformed.idle] at moved
    by_cases exits : request = .exit
    · subst exits
      exact iff_of_true (fun ended => by simp [State.act, handleEscRequest, exitProcess] at ended) trivial
    rw [escMove_truthful_iff payload exits wellformed.idle] at moved
    -- A request that ends the daemon is neither of the two that can go wrong.
    by_cases status : (state.handleEscRequest world request payload).status = .running
    · rw [State.act, truthful_iff status]
      exact moved
    · have other : TruthfulAction world (.request request payload) state := by
        cases request with
        | cwdevice => exact absurd ((escCwdevice_status world payload state).trans running) status
        | pttState => exact absurd ((paramsPttOnOff_status payload state).trans running) status
        | reset | speed | tone | abort | exit | wordMode | weighting | port | ssbWay | tune | txDelay
        | bandSwitch | soundSystem | volume | reply => trivial
      exact iff_of_true (fun live => absurd live status) other

theorem truthfulAction_ready (world : World) (action : Action) (input : Input) (state : State) :
    TruthfulAction world action (state.ready input) ↔ TruthfulAction world action state :=
  ready_iff (fun _ _ _ _ => Iff.rfl) input state

theorem truthfulFlag_finish_iff (world : World) (input : Input) (state : State) :
    (state.finish world input).TruthfulFlag ↔ state.TruthfulFlag := by
  have status := finish_status world input state
  by_cases running : state.status = .running
  · rw [truthful_iff running, truthful_iff (status.trans running), finish_keyer]
  · exact iff_of_true (fun live => absurd (status.symm.trans live) running) fun live => absurd live running

theorem truthful_step_iff (label : Label) (state : State) (wellformed : state.Wellformed)
    (truthful : state.TruthfulFlag) :
    (state.step label).TruthfulFlag ∧ KeysWithPtt label state ↔ KeepsTruth label state := by
  by_cases running : state.status = .running
  case neg =>
    refine iff_of_true ⟨fun live => ?_, fun entry member => ?_⟩ fun live => absurd live running
    · rw [step_ended label running] at live
      exact absurd live running
    · rw [step_ended label running] at member
      cases member
  have keyer : (state.ready label.input).keyer.Truthful := by
    rw [ready_keyer]
    exact (truthful_iff running).mp truthful
  -- The characters are a matter of the state before the step, the flag one of the action.
  have keys : KeysWithPtt label state := by
    intro entry member
    rcases step_log running (adds_withPtt (wellformed.ready label.input) keyer label.world label.input) member with
      with_ptt | ⟨client, request, received⟩ | ⟨on, polled⟩
    · exact with_ptt
    · exact withPtt_of_other fun _ _ call => by simp [received] at call
    · exact withPtt_of_other fun _ _ call => by simp [polled] at call
  rw [step_eq label running, truthfulFlag_finish_iff,
    truthfulFlag_act_iff (wellformed.ready label.input) ((ready_status _ _).trans running) keyer label.input,
    truthfulAction_ready]
  exact ⟨fun both _ => both.1, fun keeps => ⟨keeps running, keys⟩⟩

end State

open State

theorem Started.truthfulFlag {state : State} (started : Started state) : state.TruthfulFlag := by
  obtain ⟨args, world, started⟩ := started
  obtain ⟨configured, libcw, log, configuring, rfl, -⟩ := start_eq started
  intro _ _ auto
  simp [configuring.flag] at auto

/-- Along a run the flag is truthful, and every character is keyed with PTT on, exactly
when every step keeps the flag truthful. -/
theorem ptt_flag_is_truthful_iff (labels : List Label) {state : State} (started : Started state) :
    Runs.States State.step TruthfulFlag labels state ∧ Runs.Steps State.step KeysWithPtt labels state ↔
      Runs.Steps State.step KeepsTruth labels state :=
  Runs.states_and_steps_iff Wellformed.step truthful_step_iff labels started.wellformed started.truthfulFlag

instance (state : State) : Decidable state.TruthfulFlag := inferInstanceAs (Decidable (_ → _ → _ → _))

/-- Without a PTT delay, manual PTT is asked for, a character is queued, and manual PTT
is given back while it is played: automatic mode is on and the line is down. -/
theorem ptt_flag_claims_a_line_that_is_down :
    ¬ ∀ labels state, Started state →
      Runs.States State.step TruthfulFlag labels state ∧ Runs.Steps State.step KeysWithPtt labels state := by
  intro claim
  have truthful := (claim [calm.receivesEscape .pttState [byte '1'], calm.receives [byte 'e'],
    calm.receivesEscape .pttState [byte '0']] onSerialPort started_onSerialPort).1.2.2.2
  have lies : ¬ (Runs.run State.step [calm.receivesEscape .pttState [byte '1'], calm.receives [byte 'e'],
    calm.receivesEscape .pttState [byte '0']] onSerialPort).TruthfulFlag := by decide +kernel
  exact lies truthful

/-- A character is keyed with a PTT delay of 9 ms. -/
theorem ptt_flag_is_truthful_when_playing :
    Runs.States State.step TruthfulFlag
        [calm.receivesEscape .txDelay [byte '9'], calm.receives [byte 'e']] onSerialPort ∧
      Runs.Steps State.step KeysWithPtt
        [calm.receivesEscape .txDelay [byte '9'], calm.receives [byte 'e']] onSerialPort :=
  (ptt_flag_is_truthful_iff _ started_onSerialPort).mpr ⟨fun _ => trivial, fun _ => trivial, trivial⟩

end Cwdaemon
