import Cwdaemon.Verified.Safety

/-! # No stuck PTT

An automatic PTT is lowered by a callback that libcw makes when the tone queue runs
low.  So it must not be raised without tones to follow, and the tones must not be
taken away under it.  The controller's `Released` says that a callback is still to
come; `ReleasesPtt` is what an input must not do to it.
-/

namespace Cwdaemon

open CString

/-- libcw plays a character that it accepts as two tones at least. -/
def PlaysTwoTones (world : World) : Prop :=
  ∀ calls generator char tones, world.sendCharacter calls generator char = some tones → 2 ≤ tones.length

/-- libcw accepts a character whenever at most one tone is queued.  Of a fuller queue nothing is
asked: that one runs low again without a character to follow. -/
def Accepts (world : World) (char : UInt8) : Prop :=
  ∀ calls (generator : Generator), generator.toneQueue.length ≤ 1 →
    (world.sendCharacter calls generator char).isSome = true

namespace State

/-! ## What a text plays -/

/-- The bytes that a text plays, when `lookAhead` and the gap of libcw are as they are. -/
def playedBytes : Bool → Int → Bytes → Bytes
  | _, _, [] => []
  | lookAhead, gap, char :: rest =>
    if lookAhead && char = byte '^' then playedBytes false gap rest
    else
      let gap := if lookAhead then 0 else gap
      if isSpeedSign char then playedBytes false gap rest
      else if char = byte '~' then playedBytes false 2 rest
      else if char = byte '^' then []
      else played char :: playedBytes (gap = 2) gap rest

section Undisturbed

variable {world : World} (quiet : Quiet world)
include quiet

theorem served_quiet (call : State → State) (state : State) : state.served world call = call state := by
  have none : ∀ calls, world.during calls = 0 := quiet
  simp only [served, serve, none, dequeues]

theorem playSpeed_quiet (state : State) :
    state.playSpeed world = (state.setMorseSpeed (clampSpeed state.current.morseSpeed)).cwSetSendSpeed
      (clampSpeed state.current.morseSpeed) := by
  rw [playSpeed]
  exact served_quiet quiet _ _

theorem adjusts_playSpeed (state : State) : Adjusts state (state.playSpeed world) := by
  rw [playSpeed_quiet quiet]
  exact (Adjusts.setCurrent state rfl).trans (adjusts_cwSetSendSpeed _ _)

/-- The loop, where it plays nothing, leaves the line alone. -/
theorem playLoop_silent (text : Bytes) (index : Nat) (gap : Int) (state : State)
    (silent : playedBytes false gap text = []) :
    (playLoop world false index text state).keyer.line = state.keyer.line := by
  induction text generalizing index gap state with
  | nil => rfl
  | cons char rest inductionHypothesis =>
    simp only [playedBytes, Bool.false_and, Bool.false_eq_true, if_false] at silent
    simp only [playLoop, Bool.false_and, Bool.false_eq_true, if_false]
    split
    case isTrue sign =>
      rw [if_pos sign] at silent
      have spoken (speed : Int) : Adjusts state (if (rest.head?.any isSpeedSign) = true then
          state.setMorseSpeed speed else (state.setMorseSpeed speed).playSpeed world) := by
        split
        · exact .setCurrent state rfl
        · exact (Adjusts.setCurrent state rfl).trans (adjusts_playSpeed quiet _)
      rw [inductionHypothesis _ _ _ silent, (spoken _).keyer]
    case isFalse sign =>
      rw [if_neg sign] at silent
      split
      case isTrue tilde =>
        rw [if_pos tilde] at silent
        rw [inductionHypothesis _ _ _ silent, served_quiet quiet, (adjusts_cwSetGap 2 state).keyer]
      case isFalse tilde =>
        rw [if_neg tilde] at silent
        split
        case isTrue caret =>
          rw [keyer_prepareReply]
          rfl
        case isFalse caret =>
          rw [if_neg caret] at silent
          cases silent

theorem playCharacter_quiet (index : Nat) (char : UInt8) (state : State) :
    ∃ raised flag devices log queue,
      raised = { state.withDevices devices log with pttFlag := flag, requestQueue := queue } ∧
      state.playCharacter world index char =
        (if played char ≠ 0xff then raised.cwSendCharacter world (played char) else raised).cwGetGap := by
  have replaced : ∃ queue, (if char = byte '*' then
      { state with requestQueue := state.requestQueue.poke index (byte '+') (by decide) } else state) =
        { state with requestQueue := queue } := by
    split
    · exact ⟨_, rfl⟩
    · exact ⟨state.requestQueue, rfl⟩
  obtain ⟨queue, equal⟩ := replaced
  obtain ⟨flag, devices, log, raised⟩ := setPttOn_eq { state with requestQueue := queue }
  refine ⟨_, flag, devices, log, queue, rfl, ?_⟩
  rw [playCharacter, equal, raised]
  simp only [served_quiet quiet]
  rfl

/-- A character that is played keeps the gap, and leaves two tones in the queue of an
open generator if libcw accepts it. -/
theorem playCharacter_tones (two : PlaysTwoTones world) (index : Nat) (char : UInt8) (state : State)
    (opened : state.libcw.generator.isSome = true) :
    (state.playCharacter world index char).gap = state.gap ∧
      (state.playCharacter world index char).libcw.generator.isSome = true ∧
      state.toneQueueLength ≤ (state.playCharacter world index char).toneQueueLength ∧
      (played char ≠ 0xff → Accepts world (played char) →
        2 ≤ (state.playCharacter world index char).toneQueueLength) := by
  obtain ⟨raised, flag, devices, log, queue, rfl, equal⟩ := playCharacter_quiet quiet index char state
  obtain ⟨generator, some_generator⟩ := Option.isSome_iff_exists.mp opened
  rw [equal]
  by_cases silent : played char = 0xff
  · simp [silent, gap, toneQueueLength, cwGetGap, record, opened]
  · simp only [ne_eq, silent, not_false_eq_true, if_true, forall_const]
    simp only [cwGetGap, record, cwSendCharacter, callGenerator, setGenerator, acceptedTones, gap, toneQueueLength,
      Libcw.toneQueueLength, withDevices_libcw, some_generator, Option.map_some, Option.bind_some,
      Option.isSome_some, List.length_append, true_and]
    refine ⟨Nat.le_add_right _ _, fun accepts => ?_⟩
    -- The queue has its two tones, or is so low that the character is accepted.
    rcases Nat.lt_or_ge generator.toneQueue.length 2 with low | full
    · obtain ⟨tones, accepted⟩ := Option.isSome_iff_exists.mp (accepts (state.withDevices devices log).log.length
        generator (Nat.le_of_lt_succ low))
      have enough := two _ _ _ _ accepted
      rw [accepted, Option.getD_some]
      exact Nat.le_trans enough (Nat.le_add_left _ _)
    · exact Nat.le_trans full (Nat.le_add_right _ _)

omit quiet in
theorem cwSetGap_open (gap : Int) {state : State} (opened : state.libcw.generator.isSome = true) :
    (state.cwSetGap gap).gap = gap ∧ (state.cwSetGap gap).libcw.generator.isSome = true ∧
      (state.cwSetGap gap).toneQueueLength = state.toneQueueLength := by
  obtain ⟨generator, some_generator⟩ := Option.isSome_iff_exists.mp opened
  simp [cwSetGap, State.gap, toneQueueLength, Libcw.toneQueueLength, some_generator]

omit quiet in
theorem lookAhead_open (lookAhead : Bool) {state : State} (opened : state.libcw.generator.isSome = true) :
    ∃ after, (if lookAhead = true then state.cwSetGap 0 else state) = after ∧
      after.gap = (if lookAhead = true then 0 else state.gap) ∧
      after.libcw.generator.isSome = true ∧ after.toneQueueLength = state.toneQueueLength := by
  cases lookAhead with
  | false => exact ⟨_, rfl, rfl, opened, rfl⟩
  | true =>
    obtain ⟨gap, opened', tones⟩ := cwSetGap_open 0 opened
    exact ⟨_, rfl, gap, opened', tones⟩

/-- The end of a run of speed signs, as far as the tone queue is concerned. -/
theorem playSpeed_open (speed : Int) (more : Bool) {state : State}
    (opened : state.libcw.generator.isSome = true) :
    ∃ spoken, (if more = true then state.setMorseSpeed speed else (state.setMorseSpeed speed).playSpeed world) =
        spoken ∧
      spoken.gap = state.gap ∧ spoken.libcw.generator.isSome = true ∧
      spoken.toneQueueLength = state.toneQueueLength := by
  obtain ⟨generator, some_generator⟩ := Option.isSome_iff_exists.mp opened
  refine ⟨_, rfl, ?_⟩
  split
  · exact ⟨rfl, opened, rfl⟩
  · rw [playSpeed_quiet quiet]
    simp [gap, toneQueueLength, Libcw.toneQueueLength, some_generator]

/-- The loop leaves two tones in the queue of an open generator when libcw accepts a
character that it plays. -/
theorem playLoop_tones (two : PlaysTwoTones world) (text : Bytes) (lookAhead : Bool) (index : Nat)
    (state : State) (opened : state.libcw.generator.isSome = true) :
    state.toneQueueLength ≤ (playLoop world lookAhead index text state).toneQueueLength ∧
      ((∃ char ∈ playedBytes lookAhead state.gap text, char ≠ 0xff ∧ Accepts world char) →
        2 ≤ (playLoop world lookAhead index text state).toneQueueLength) := by
  induction text generalizing lookAhead index state with
  | nil =>
    refine ⟨?_, by simp [playedBytes]⟩
    cases lookAhead with
    | false => exact Nat.le_refl _
    | true =>
      simp only [playLoop, if_true, served_quiet quiet, (cwSetGap_open 0 opened).2.2]
      exact Nat.le_refl _
  | cons char rest inductionHypothesis =>
    simp only [playLoop, playedBytes, served_quiet quiet]
    split
    case isTrue => exact inductionHypothesis false (index + 1) state opened
    case isFalse =>
      obtain ⟨after, equal, gap, opened', tones⟩ := lookAhead_open lookAhead opened
      rw [equal, ← gap, ← tones]
      split
      case isTrue sign =>
        obtain ⟨spoken, equal', gap', opened'', tones'⟩ := playSpeed_open quiet
          (after.current.morseSpeed + if char = byte '+' then 2 else -2) (rest.head?.any isSpeedSign) opened'
        rw [equal', ← gap', ← tones']
        exact inductionHypothesis false (index + 1) spoken opened''
      case isFalse =>
        split
        case isTrue tilde =>
          obtain ⟨gap', opened'', tones'⟩ := cwSetGap_open 2 opened'
          have next := inductionHypothesis false (index + 1) (after.cwSetGap 2) opened''
          rwa [gap', tones'] at next
        case isFalse =>
          split
          case isTrue caret =>
            -- Behind the caret nothing is played, and the reply leaves the tones alone.
            have kept (request : Bytes) (cut : State) :
                (cut.prepareReply request).toneQueueLength = cut.toneQueueLength := by
              have same := keyer_prepareReply request cut
              exact congrArg Keyer.tones same
            rw [kept]
            exact ⟨Nat.le_refl _, by simp⟩
          case isFalse =>
            obtain ⟨gap', opened'', more, accepted⟩ := playCharacter_tones quiet two index char after opened'
            obtain ⟨rest_more, rest_accepted⟩ := inductionHypothesis
              (decide ((after.playCharacter world index char).gap = 2)) (index + 1)
              (after.playCharacter world index char) opened''
            refine ⟨Nat.le_trans more rest_more, ?_⟩
            -- The accepted character is this one, or one that the rest of the loop plays.
            rintro ⟨heard, member, valid, accepts⟩
            rcases List.mem_cons.mp member with first | later
            · subst first
              exact Nat.le_trans (accepted valid accepts) rest_more
            · rw [← gap'] at later
              exact rest_accepted ⟨heard, later, valid, accepts⟩

end Undisturbed

/-! ## What an input must not do -/

/-- `cwdaemon_set_ptt_on()` would turn PTT of the serial port on. -/
def RaisesPtt (state : State) : Prop :=
  state.globalCwdevice = .ttys ∧ state.current.pttDelayMs ≠ 0 ∧ state.pttFlag.has .auto = false

/-- A text that raises PTT plays a character that libcw accepts, and TUNE queues two
tones, in both cases with a generator to take them; and SOUND_SYSTEM does not come
under an automatic PTT. -/
def ReleasingAction (world : World) (action : Action) (state : State) : Prop :=
  match action with
  | .text request =>
    state.RaisesPtt → state.pttFlag.has .manual = false → state.toneQueueLength ≤ 1 →
      playedBytes false state.gap request ≠ [] →
      state.libcw.generator.isSome = true ∧
        ∃ char ∈ playedBytes false state.gap request, char ≠ 0xff ∧ Accepts world char
  | .request .tune payload =>
    ∀ seconds, paramsTune payload = some seconds → 0 < seconds → state.LineUp ∨ state.RaisesPtt →
      state.pttFlag.has .manual = false →
      state.libcw.generator.isSome = true ∧ (2 ≤ seconds ∨ Accepts world (byte 'e'))
  | .request .soundSystem payload =>
    paramsSystem payload ≠ none → state.LineUp → state.pttFlag.has .manual = true
  | _ => True

def ReleasesPtt (label : Label) (state : State) : Prop :=
  state.status = .running → ReleasingAction label.world label.input.action state

/-- With an empty tone queue PTT of the serial port is on only in manual mode. -/
def NotStuck (state : State) : Prop :=
  state.globalCwdevice = .ttys → state.toneQueueLength = 0 → state.device.pttCommand = some true →
    state.pttFlag.has .manual = true

theorem notStuck_of_released {state : State} (released : state.keyer.Released) : state.NotStuck := by
  intro serial empty up
  by_contra automatic
  have line : state.keyer.line = true := by
    rw [device, serial] at up
    simpa [keyer] using up
  have tones := released line (by simpa [keyer] using automatic)
  simp only [keyer, empty] at tones
  omega

variable {world : World} {state : State}

theorem raisesPtt_of_keyer (serial : state.keyer.serial = true) (delayed : state.keyer.delayed = true)
    (auto : state.keyer.auto = false) : state.RaisesPtt :=
  ⟨by simpa [keyer] using serial, by simpa [keyer] using delayed, auto⟩

theorem releasingAction_ready (world : World) (action : Action) (input : Input) (state : State) :
    ReleasingAction world action (state.ready input) ↔ ReleasingAction world action state :=
  ready_iff (fun _ _ _ _ => Iff.rfl) input state

/-! ## Texts and requests -/

/-- An undisturbed text leaves a callback to come. -/
theorem released_receiveText (wellformed : state.Wellformed) (released : state.keyer.Released)
    (quiet : Quiet world) (two : PlaysTwoTones world) {request : Bytes} (nulFree : 0 ∉ request)
    (length : request.length ≤ CWDAEMON_REQUEST_SIZE_MAX) (releasing : ReleasingAction world (.text request) state) :
    (state.receiveText world request).keyer.Released := by
  obtain ⟨appended, received⟩ := receiveText_eq world request wellformed.idle nulFree
    (Nat.lt_of_le_of_lt length (by decide))
  have queued := wellformed.toSound.withRequestQueue (state.requestQueue.append request)
  have reads := reads_playLoop world request request false []
    { state with requestQueue := state.requestQueue.append request } rfl (by simpa using appended) nofun
  have undisturbed := (reads_undisturbed quiet nulFree length queued reads).2
  have silent := playLoop_silent quiet request 0 state.gap
    { state with requestQueue := state.requestQueue.append request }
  have loud := playLoop_tones quiet two request false 0
    { state with requestQueue := state.requestQueue.append request }
  rw [received]
  generalize playLoop world false 0 request
    { state with requestQueue := state.requestQueue.append request } = after at undisturbed silent loud
  intro up off
  have manual : state.pttFlag.has .manual = false := undisturbed.manual.symm.trans off
  have more : state.toneQueueLength ≤ after.toneQueueLength := undisturbed.tones
  show 2 ≤ after.toneQueueLength
  -- The line was up before, with its tones, or this text has raised it.
  rcases undisturbed.line up with before | ⟨serial, delayed, auto⟩
  · exact Nat.le_trans (released before manual) more
  · by_contra few
    have raises : state.RaisesPtt := raisesPtt_of_keyer serial delayed auto
    have plays : playedBytes false state.gap request ≠ [] := by
      -- A text that plays nothing leaves the line as it was, which is off without automatic mode.
      intro nothing
      have before : state.keyer.line = true := (silent nothing).symm.trans up
      have automatic := (wellformed.accounted before).2.1
      exact absurd (automatic.symm.trans auto) nofun
    obtain ⟨opened, heard⟩ := releasing raises manual (by omega) plays
    exact few ((loud opened).2 heard)

theorem generator_of_keyer {state : State} : state.keyer.generator = state.libcw.generator.isSome := rfl

/-- TUNE queues the tones that it has to. -/
theorem tuneTones_enough (two : PlaysTwoTones world) {seconds : Nat} (positive : 0 < seconds)
    (opened : state.libcw.generator.isSome = true) (enough : 2 ≤ seconds ∨ Accepts world (byte 'e')) :
    2 ≤ state.tuneTones world seconds := by
  unfold tuneTones
  by_cases long : 2 ≤ seconds
  · exact Nat.le_trans long (Nat.le_add_right _ _)
  · have accepts := enough.resolve_left long
    have queues : (state.cwFlushToneQueue.setPttOn.queueTuneTones seconds).keyer.tones ≤ 1 := by
      have flushed : state.keyer.flush.raise.tones = 0 := by
        rw [Keyer.raise, Keyer.flush]
        split <;> rfl
      rw [keyer_queueTuneTones, keyer_setPttOn, keyer_cwFlushToneQueue, Keyer.queue]
      simp only [flushed]
      split <;> omega
    have kept : (state.cwFlushToneQueue.setPttOn.queueTuneTones seconds).libcw.generator.isSome = true := by
      rw [← generator_of_keyer, keyer_queueTuneTones, keyer_setPttOn, keyer_cwFlushToneQueue, Keyer.queue,
        Keyer.raise, Keyer.flush]
      split <;> exact opened
    obtain ⟨generator, some_generator⟩ := Option.isSome_iff_exists.mp kept
    generalize state.cwFlushToneQueue.setPttOn.queueTuneTones seconds = queued at some_generator queues
    -- One tone of a second is all that is queued when the letter is sent.
    have low : generator.toneQueue.length ≤ 1 := by
      simpa [keyer, toneQueueLength, Libcw.toneQueueLength, some_generator] using queues
    obtain ⟨tones, accepted⟩ := Option.isSome_iff_exists.mp (accepts queued.log.length generator low)
    have plays := two _ _ _ _ accepted
    simp only [acceptedTones, some_generator, Option.bind_some, accepted, Option.getD_some]
    exact Nat.le_trans plays (Nat.le_add_left _ _)

theorem released_handleEscRequest (wellformed : state.Wellformed) (released : state.keyer.Released)
    (two : PlaysTwoTones world) {request : EscRequest} {payload : Bytes}
    (releasing : ReleasingAction world (.request request payload) state) :
    (state.handleEscRequest world request payload).keyer.Released := by
  rw [keyer_handleEscRequest world request payload wellformed.idle]
  have text : state.keyer.text = false := by simp [keyer, wellformed.idle]
  refine released.move wellformed.accounted text ?_
  -- Only the moves of TUNE and SOUND_SYSTEM ask for something.
  cases request with
  | tune =>
    simp only [escMove]
    cases valid : paramsTune payload with
    | none => trivial
    | some seconds =>
      simp only
      split
      case isTrue positive =>
        intro up off
        have raised : state.LineUp ∨ state.RaisesPtt := by
          rcases Keyer.line_of_raise up with line | ⟨serial, delayed, auto⟩
          · exact .inl ((lineUp_iff state).mpr line)
          · exact .inr (raisesPtt_of_keyer serial delayed auto)
        obtain ⟨opened, enough⟩ := releasing seconds valid (by omega) raised off
        exact ⟨opened, tuneTones_enough two positive opened (enough.imp (by omega) id)⟩
      case isFalse => trivial
  | soundSystem =>
    simp only [escMove]
    cases valid : paramsSystem payload with
    | none => trivial
    | some system =>
      intro up
      exact releasing (by simp [valid]) ((lineUp_iff state).mpr up)
  | abort =>
    simp only [escMove]
    split <;> trivial
  | cwdevice =>
    simp only [escMove]
    split <;> trivial
  | pttState =>
    simp only [escMove]
    split
    · trivial
    · split <;> trivial
  | txDelay =>
    simp only [escMove]
    split <;> trivial
  | reset | speed | tone | exit | wordMode | weighting | port | ssbWay | bandSwitch | volume | reply => trivial

/-! ## Steps and runs -/

theorem released_act (wellformed : state.Wellformed) (released : state.keyer.Released) (quiet : Quiet world)
    (two : PlaysTwoTones world) {input : Input} (releasing : ReleasingAction world input.action state) :
    (state.act world input.action).keyer.Released := by
  cases action : input.action with
  | idle => exact released
  | request request payload =>
    rw [action] at releasing
    exact released_handleEscRequest wellformed released two releasing
  | text request =>
    rw [action] at releasing
    obtain ⟨nulFree, length⟩ := Input.action_text_bounds action
    exact released_receiveText wellformed released quiet two nulFree length releasing
  | exit =>
    rw [act, keyer_exitProcess]
    exact released.move wellformed.accounted (by simp [keyer, wellformed.idle]) trivial
  | key on =>
    obtain ⟨seconds, log, keyed⟩ := keyingevent_eq on state
    rw [act, keyed]
    exact released
  | dequeue =>
    rcases keyer_dequeue wellformed.watched with same | drained
    · rw [act, same]
      exact released
    · -- Without a generator there is no tone, so the silent tones of an answer are queued.
      have owned : state.keyer.generator = false → state.keyer.tones = 0 := by
        intro closed
        rw [generator_of_keyer, Option.isSome_eq_false_iff, Option.isNone_iff_eq_none] at closed
        simp [keyer, toneQueueLength, Libcw.toneQueueLength, closed]
      rw [act, drained]
      exact released.drain wellformed.accounted (by simp [keyer, wellformed.idle]) owned

theorem released_step (label : Label) (state : State) (invariant : state.Wellformed ∧ state.keyer.Released)
    (meets : (Quiet label.world ∧ PlaysTwoTones label.world) ∧ ReleasesPtt label state) :
    (state.step label).Wellformed ∧ (state.step label).keyer.Released := by
  obtain ⟨wellformed, released⟩ := invariant
  obtain ⟨⟨quiet, two⟩, releases⟩ := meets
  refine ⟨wellformed.step label, ?_⟩
  by_cases running : state.status = .running
  · rw [step_eq label running, finish_keyer]
    rw [← ready_keyer label.input] at released
    exact released_act (wellformed.ready label.input) released quiet two
      ((releasingAction_ready label.world label.input.action label.input state).mpr (releases running))
  · rw [step_ended label running]
    exact released

end State

open State

theorem Started.released {state : State} (started : Started state) : state.keyer.Released := by
  obtain ⟨args, world, started⟩ := started
  obtain ⟨configured, libcw, log, configuring, rfl, -⟩ := start_eq started
  intro up
  exact absurd (by simpa [keyer] using up) configuring.line

/-- In a run whose steps all release PTT, no state has PTT stuck. -/
theorem no_stuck_ptt {labels : List Label} {state : State} (started : Started state)
    (quiet : ∀ label ∈ labels, Quiet label.world) (two : ∀ label ∈ labels, PlaysTwoTones label.world)
    (releases : Runs.Steps State.step ReleasesPtt labels state) :
    Runs.States State.step NotStuck labels state := by
  have assumed : ∀ label ∈ labels, Quiet label.world ∧ PlaysTwoTones label.world :=
    fun label member => ⟨quiet label member, two label member⟩
  have states := Runs.states_of_steps released_step ⟨started.wellformed, started.released⟩
    (releases.assuming assumed)
  exact states.mono fun _ held => notStuck_of_released held.2

instance (state : State) : Decidable state.NotStuck := inferInstanceAs (Decidable (_ → _ → _ → _))

theorem playsTwoTones_calm : PlaysTwoTones calm := by
  intro calls generator char tones accepted
  simp only [calm] at accepted
  split at accepted
  · cases accepted
    exact Nat.le_refl 2
  · cases accepted

/-- With a PTT delay of 9 ms a text of the one byte 0xff is played: PTT is on, and there
is no tone after which it would go off. -/
theorem ptt_stuck_on_rejected_character :
    ¬ ∀ labels state, Started state → (∀ label ∈ labels, Quiet label.world) →
      (∀ label ∈ labels, PlaysTwoTones label.world) → Runs.States State.step NotStuck labels state := by
  intro claim
  have notStuck := (claim [calm.receivesEscape .txDelay [byte '9'], calm.receives [0xff]] onSerialPort
    started_onSerialPort (by simp [World.receivesEscape, World.receives, quiet_calm])
    (by simp [World.receivesEscape, World.receives, playsTwoTones_calm])).2.2
  have stuck : ¬ (Runs.run State.step [calm.receivesEscape .txDelay [byte '9'], calm.receives [0xff]]
    onSerialPort).NotStuck := by decide +kernel
  exact stuck notStuck

/-- A world like the calm one, but with room for three tones in the queue of libcw. -/
def confined : World :=
  { calm with
    sendCharacter := fun calls generator char =>
      if generator.toneQueue.length ≤ 1 then calm.sendCharacter calls generator char else none }

theorem quiet_confined : Quiet confined := fun _ => rfl

theorem playsTwoTones_confined : PlaysTwoTones confined := by
  intro calls generator char tones accepted
  simp only [confined] at accepted
  split at accepted
  · exact playsTwoTones_calm calls generator char tones accepted
  · cases accepted

theorem accepts_confined : Accepts confined (byte 'e') := by
  intro calls generator low
  simp only [confined, if_pos low]
  rfl

/-- With a PTT delay of 9 ms a text of two letters, of which libcw refuses the second, is played
to its end. -/
theorem no_stuck_ptt_after_two_letters :
    Runs.States State.step NotStuck [confined.receivesEscape .txDelay [byte '9'],
      confined.receives [byte 'e', byte 'e'], ⟨confined, .dequeue⟩, ⟨confined, .dequeue⟩] onSerialPort := by
  refine no_stuck_ptt started_onSerialPort (by simp [World.receivesEscape, World.receives, quiet_confined])
    (by simp [World.receivesEscape, World.receives, playsTwoTones_confined])
    ⟨fun _ => trivial, fun _ _ _ _ _ => ?_, fun _ => trivial, fun _ => trivial, trivial⟩
  exact ⟨by decide +kernel, byte 'e', by decide +kernel, by decide, accepts_confined⟩

end Cwdaemon
