import Cwdaemon.Verified.Works

/-! # The footswitch and the other modes of PTT

The PTT line of the parallel port has two controllers.  The handlers of requests and
libcw's thread raise it in automatic and in manual mode; the poll of the footswitch at the
end of an iteration sets it as the switch stands, whatever the mode.  With the switch up
the line follows the commands of the handlers only as long as they never raise it.
-/

namespace Cwdaemon

open CString

/-- Whether a log takes PTT up depends on what was told before only as far as PTT was up. -/
theorem toldAfter_up_iff {type : DeviceType} (log : List Entry) {told told' : Option Bool}
    (same : told = some true ↔ told' = some true) :
    toldAfter type log told = some true ↔ toldAfter type log told' = some true := by
  induction log generalizing told told' with
  | nil => exact same
  | cons entry log inductionHypothesis =>
    have next : entry.call.tells type told = some true ↔ entry.call.tells type told' = some true := by
      unfold Call.tells
      split
      · split
        · exact Iff.rfl
        · exact same
      · split
        · exact Iff.rfl
        · exact same
      · exact same
    exact inductionHypothesis next

/-- An iteration of the main loop. -/
def Input.iterates : Input → Bool
  | .datagram _ _ | .timeout | .receiveError => true
  | .dequeue | .key _ => false

namespace State

/-- The PTT line of the parallel port is up. -/
def PortUp (state : State) : Prop := (state.devices .lp).pttCommand = some true

/-- The state before the footswitch is polled. -/
def acted (label : Label) (state : State) : State :=
  (state.ready label.input).act label.world label.input.action

end State

/-- A step of the daemon, and the last command about the PTT of the parallel port that a
handler or libcw's thread has given. -/
def follow (label : Label) : State × Option Bool → State × Option Bool
  | (state, told) =>
    (state.step label, if state.status = .running then toldAfter .lp (state.acted label).log told else told)

/-- The line is as it was last commanded. -/
def Follows : State × Option Bool → Prop
  | (state, told) => state.PortUp ↔ told = some true

namespace State

/-- Automatic or manual mode holds PTT. -/
def HoldsPort (state : State) : Prop :=
  state.PortUp ∧ (state.pttFlag.has .auto = true ∨ state.pttFlag.has .manual = true)

/-- The poll does not release a PTT that is held. -/
def SparesHeld (label : Label) (state : State) : Prop :=
  state.status = .running → (state.acted label).HoldsPort → (state.step label).PortUp

/-- PTT of the parallel port is raised by a request. -/
def RaisesPort (label : Label) (state : State) : Prop :=
  state.status = .running ∧ state.globalCwdevice = .lp ∧ label.input.action.Raises (state.ready label.input)

/-- A running daemon leaves an iteration with the line down. -/
def Lowered (state : State) : Prop := state.status = .running → ¬ state.PortUp

/-! ## Raising the line -/

/-- PTT of the parallel port is in use, and automatic mode has raised it. -/
structure DrivesPort (state : State) : Prop where
  running : state.status = .running
  current : state.globalCwdevice = .lp
  delayed : state.current.pttDelayMs ≠ 0
  truthful : state.pttFlag.has .auto = true → state.PortUp

variable {before after state : State} {world : World}

namespace DrivesPort

theorem up (drives : state.DrivesPort) (held : state.Held) : state.PortUp := drives.truthful (held drives.delayed)

theorem setPttOn (drives : state.DrivesPort) : state.setPttOn.DrivesPort := by
  unfold State.setPttOn
  split
  · rw [drives.current]
    exact ⟨drives.running, drives.current, drives.delayed, fun _ => rfl⟩
  · exact drives

theorem callGenerator (drives : state.DrivesPort) (call : Call) (change : Generator → Generator) :
    (state.callGenerator call change).DrivesPort := ⟨drives.running, drives.current, drives.delayed, drives.truthful⟩

theorem setPttOff (drives : state.DrivesPort) : state.setPttOff.DrivesPort := by
  obtain ⟨devices, log, lowered⟩ := setPttOff_eq state
  rw [lowered]
  exact ⟨drives.running, drives.current, drives.delayed, fun auto => by simp at auto⟩

theorem answered (drives : state.DrivesPort) (short : state.replyBuffer.bytes.length ≤ 255) :
    state.answered.DrivesPort := by
  rw [answered_eq short]
  refine ⟨drives.running, drives.current, drives.delayed, fun auto => drives.truthful ?_⟩
  simpa using auto

theorem dequeue (drives : state.DrivesPort) (sound : state.Sound) : state.dequeue.DrivesPort := by
  rcases state.dequeue_cases with same | ⟨generator, tone, tones, opened, started, queued, dequeued⟩
  · rw [same]
    exact drives
  have taken : (state.taken generator tone tones).DrivesPort := ⟨drives.running, drives.current, drives.delayed, drives.truthful⟩
  have short : (state.taken generator tone tones).pttFlag.has .echo = true →
      (state.taken generator tone tones).replyBuffer.bytes.length ≤ 255 := sound.short
  rw [dequeued]
  generalize state.taken generator tone tones = state at taken short
  split
  case isFalse => exact taken
  rw [toneQueueLowCallback_eq]
  split
  · exact taken.setPttOff
  · split
    case isTrue pending =>
      have answered := taken.answered (short pending)
      split
      · exact (answered.callGenerator _ _).callGenerator _ _
      · exact answered
    case isFalse => exact taken

theorem textStep {request : Bytes} (length : request.length ≤ CWDAEMON_REQUEST_SIZE_MAX) (nulFree : 0 ∉ request)
    (step : TextStep world request before after) (sound : before.Sound) (drives : before.DrivesPort) :
    after.DrivesPort := by
  cases step with
  | drain => exact drives.dequeue sound
  | speed | sendSpeed | setGap | getGap | replace | send =>
    exact ⟨drives.running, drives.current, drives.delayed, drives.truthful⟩
  | raise => exact drives.setPttOn
  | caret _ front rest split queue =>
    obtain ⟨reply, bytes, prepared⟩ := prepareReply_eq (played_nul_free nulFree split) (played_length length split)
      { before with requestQueue := before.requestQueue.cut front.length }
    rw [prepared]
    refine ⟨drives.running, drives.current, drives.delayed, fun auto => drives.truthful ?_⟩
    simpa using auto

end DrivesPort

/-- PTT of the parallel port is up, and will be polled. -/
def LitPort (state : State) : Prop := state.status = .running ∧ state.globalCwdevice = .lp ∧ state.PortUp

theorem DrivesPort.lit_setPttOn (drives : state.DrivesPort) : state.setPttOn.LitPort :=
  ⟨drives.setPttOn.running, drives.setPttOn.current, drives.setPttOn.up (setPttOn_held state)⟩

theorem LitPort.callGenerator (lit : state.LitPort) (call : Call) (change : Generator → Generator) :
    (state.callGenerator call change).LitPort := lit

theorem LitPort.queueTuneTones (lit : state.LitPort) (seconds : Nat) : (state.queueTuneTones seconds).LitPort := by
  induction seconds generalizing state with
  | zero => exact lit
  | succ seconds inductionHypothesis => exact inductionHypothesis (lit.callGenerator _ _)

theorem DrivesPort.lit_tune (drives : state.DrivesPort) (world : World) {seconds : Nat} (positive : 0 < seconds) :
    (state.tune world seconds).LitPort := by
  rw [State.tune, if_pos positive]
  exact ((drives.callGenerator _ _).lit_setPttOn.queueTuneTones seconds).callGenerator _ _

/-- A text that asks for PTT raises the line. -/
theorem lit_receiveText {request : Bytes} (wellformed : state.Wellformed) (drives : state.DrivesPort) (nulFree : 0 ∉ request)
    (length : request.length ≤ CWDAEMON_REQUEST_SIZE_MAX)
    (asks : state.asksPtt (state.requestQueue.append request).bytes = true) :
    (state.receiveText world request).LitPort := by
  obtain ⟨appended, received⟩ := receiveText_eq world request wellformed.idle nulFree
    (Nat.lt_of_le_of_lt length (by decide))
  rw [appended] at asks
  generalize queued : ({ state with requestQueue := state.requestQueue.append request } : State) = before at received
  have bytes : before.requestQueue.bytes = request := by rw [← queued]; exact appended
  have sound : before.Sound := queued ▸ wellformed.toSound.withRequestQueue _
  have drives : before.DrivesPort := queued ▸ ⟨drives.running, drives.current, drives.delayed, drives.truthful⟩
  have asks : before.asksPtt request = true := by rw [← queued]; exact asks
  have busy : before.requestQueue.bytes ≠ [] := by
    rintro empty
    rw [← bytes, empty] at asks
    cases asks
  -- What holds PTT while the text is read is that it is still in the queue.
  have held : (playLoop world false 0 request before).Held := by
    rw [playLoop_eq]
    exact held_execAll world busy (behind_of_asksPtt asks) (.inl asks)
  have driven := (reads_playLoop world request request false [] before rfl (by simpa using bytes) nofun).preserves
    (fun _ _ step (held : State.Sound _ ∧ State.DrivesPort _) =>
      ⟨held.1.textStep length nulFree step, held.2.textStep length nulFree step held.1⟩) ⟨sound, drives⟩
  rw [received]
  exact ⟨driven.2.running, driven.2.current, driven.2.up held⟩

/-- An action that raises PTT raises the line of the parallel port, if this is the current
cwdevice. -/
theorem lit_of_raises {input : Input} (wellformed : state.Wellformed) (running : state.status = .running)
    (current : state.globalCwdevice = .lp) (raises : input.action.Raises state) :
    (state.act world input.action).LitPort := by
  obtain ⟨lost, asks⟩ := raises
  obtain ⟨delayed, auto⟩ := Classical.not_imp.mp lost
  have drives : state.DrivesPort := ⟨running, current, delayed, fun on => absurd on auto⟩
  cases action : input.action with
  | idle | exit | dequeue | key => simp [action] at asks
  | text request =>
    obtain ⟨nulFree, length⟩ := Input.action_text_bounds action
    simp only [action] at asks
    exact lit_receiveText wellformed drives nulFree length asks
  | request request payload =>
    simp only [action] at asks
    cases request with
    | tune =>
      obtain ⟨seconds, valid, positive⟩ := (Option.any_eq_true _ _).mp asks
      have positive : 0 < seconds.toNat := by
        have positive := of_decide_eq_true positive
        omega
      simp only [act, handleEscRequest, escTune, valid]
      exact drives.lit_tune world positive
    | pttState =>
      obtain ⟨lv, valid, nonzero⟩ := (Option.any_eq_true _ _).mp asks
      simp only [act, handleEscRequest, escPttState, paramsPttOnOff_eq, valid, if_pos (of_decide_eq_true nonzero)]
      exact drives.lit_setPttOn
    | reset | speed | tone | abort | exit | wordMode | weighting | cwdevice | port | ssbWay | txDelay | bandSwitch
    | soundSystem | volume | reply => cases asks

/-! ## Leaving the line alone -/

/-- What is not licensed to replace the cwdevice does not command the PTT of another one. -/
theorem Works.untold {licence : Licence} (works : Works licence before after) (stays : ¬ licence.replaces)
    {type : DeviceType} (other : type ≠ before.globalCwdevice) :
    (after.devices type).pttCommand = (before.devices type).pttCommand := by
  obtain ⟨new, log, told⟩ := works.told type
  obtain ⟨new', log', made⟩ := works.adds
  obtain rfl : new = new' := List.append_cancel_left (log.symm.trans log')
  rw [told]
  clear log log' told
  induction new with
  | nil => rfl
  | cons entry new inductionHypothesis =>
    obtain ⟨first, rest⟩ := List.forall_mem_cons.mp made
    have silent : entry.call.tells type (before.devices type).pttCommand = (before.devices type).pttCommand := by
      rcases first with wires | ⟨tone, played⟩
      · generalize entry.call = call at wires ⊢
        cases call with
        | devicePtt device on =>
          have current : device = before.globalCwdevice := wires.2.resolve_left stays
          exact if_neg (current ▸ other)
        | deviceInit => exact absurd wires stays
        | _ => rfl
      · rw [played]
        rfl
    have next := inductionHypothesis rest
    rw [toldAfter, List.foldl_cons, silent]
    exact next

/-- What raises PTT is a request, and it replaces no cwdevice. -/
theorem raises_keeps {input : Input} (raises : input.action.Raises state) :
    input.iterates = true ∧ ¬ (input.action.licence state).replaces := by
  obtain ⟨-, asks⟩ := raises
  cases input with
  | datagram client bytes =>
    refine ⟨rfl, fun replaces => ?_⟩
    rcases replaces with action | ⟨payload, action | action⟩ <;> simp [action] at asks
  | timeout | receiveError | dequeue | key => exact asks.elim

/-- The poll lowers a line that is up, and leaves the others alone. -/
theorem portUp_finish_iff (up : world.footswitch = true) (input : Input) (state : State) :
    (state.finish world input).PortUp ↔ state.PortUp ∧ ¬ (input.iterates = true ∧ state.LitPort) := by
  have polled : (if state.status = .running then state.pollFootswitch world else state).PortUp ↔
      state.PortUp ∧ ¬ state.LitPort := by
    unfold LitPort
    split
    case isFalse ended => simp [ended]
    case isTrue running =>
      cases current : state.globalCwdevice <;> simp [pollFootswitch, current, running, up, PortUp, State.devicePtt]
  cases input with
  | datagram | timeout | receiveError => simpa [finish, Input.iterates] using polled
  | dequeue | key => simp [finish, Input.iterates]

/-! ## Steps -/

theorem step_acted {label : Label} (running : state.status = .running) :
    state.step label = (state.acted label).finish label.world label.input := step_eq label running

/-- A line that is raised before the poll is raised by a request. -/
theorem lit_acted_iff {label : Label} (wellformed : state.Wellformed) (linked : state.Linked) (lowered : state.Lowered)
    (running : state.status = .running) :
    label.input.iterates = true ∧ (state.acted label).LitPort ↔ RaisesPort label state := by
  have same := sameOutput_ready label.input state
  constructor
  · rintro ⟨-, -, current, up⟩
    have works : Works (label.input.action.licence (state.ready label.input)) (state.ready label.input) (state.acted label) :=
      .act label.world (.inr (linked.sameOutput same)) (Licence.Within.refl _)
    by_cases raises : label.input.action.Raises (state.ready label.input)
    · have still := works.globalCwdevice (raises_keeps raises).2
      exact ⟨running, same.globalCwdevice.symm.trans (still.symm.trans current), raises⟩
    · have before : { state with log := [] }.PortUp := (Works.ready label.input state).up id (works.up raises up)
      exact absurd before (lowered running)
  · rintro ⟨-, current, raises⟩
    exact ⟨(raises_keeps raises).1, lit_of_raises (wellformed.ready label.input)
      ((ready_status label.input state).trans running) (same.globalCwdevice.trans current) raises⟩

theorem Lowered.step {label : Label} (up : label.world.footswitch = true) (wellformed : state.Wellformed)
    (linked : state.Linked) (lowered : state.Lowered) : (state.step label).Lowered := by
  by_cases running : state.status = .running
  case neg =>
    rw [step_ended label running]
    exact fun live => absurd live running
  intro live lit
  rw [step_acted running, finish_status] at live
  rw [step_acted running, portUp_finish_iff up, lit_acted_iff wellformed linked lowered running] at lit
  obtain ⟨lit, unraised⟩ := lit
  have works : Works (label.input.action.licence (state.ready label.input)) (state.ready label.input) (state.acted label) :=
    .act label.world (.inr (linked.sameOutput (sameOutput_ready label.input state))) (Licence.Within.refl _)
  have before (up : (state.ready label.input).PortUp) : False :=
    lowered running (show { state with log := [] }.PortUp from (Works.ready label.input state).up id up)
  by_cases raises : label.input.action.Raises (state.ready label.input)
  · -- The other cwdevices have a line of their own.
    have other : DeviceType.lp ≠ (state.ready label.input).globalCwdevice := fun current =>
      unraised ⟨running, (sameOutput_ready label.input state).globalCwdevice.symm.trans current.symm, raises⟩
    exact before ((works.untold (raises_keeps raises).2 other).symm.trans lit)
  · exact before (works.up raises lit)

theorem follows_step_iff {label : Label} (up : label.world.footswitch = true) (wellformed : state.Wellformed)
    (linked : state.Linked) (lowered : state.Lowered) {told : Option Bool} (follows : Follows (state, told)) :
    Follows (follow label (state, told)) ∧ SparesHeld label state ↔ ¬ RaisesPort label state := by
  by_cases running : state.status = .running
  case neg =>
    refine iff_of_true ⟨?_, fun live => absurd live running⟩ fun raises => running raises.1
    simp only [follow, if_neg running, step_ended label running]
    exact follows
  have works : Works .all { state with log := [] } (state.acted label) :=
    ((Works.ready label.input state).mono (Licence.none_within _)).trans (.act label.world (.inl trivial) (Licence.within_all id))
  obtain ⟨new, log, told'⟩ := works.told .lp
  have commanded : (state.acted label).PortUp ↔ toldAfter .lp (state.acted label).log told = some true := by
    rw [log, PortUp, told', List.nil_append]
    exact toldAfter_up_iff new follows
  have stepped := portUp_finish_iff up label.input (state.acted label)
  rw [← step_acted running, lit_acted_iff wellformed linked lowered running] at stepped
  have lit : RaisesPort label state → (state.acted label).PortUp := fun raises =>
    ((lit_acted_iff wellformed linked lowered running).mpr raises).2.2.2
  simp only [follow, if_pos running, Follows, ← commanded, stepped]
  constructor
  · rintro ⟨follows, -⟩ raises
    exact (follows.mpr (lit raises)).2 raises
  · intro quiet
    exact ⟨⟨And.left, fun up => ⟨up, quiet⟩⟩, fun _ holds => stepped.mpr ⟨holds.1, quiet⟩⟩

end State

open State

theorem Started.lowered {state : State} (started : Started state) : state.Lowered := by
  obtain ⟨args, world, started⟩ := started
  intro _ up
  have before : initialState.PortUp := (Works.start started).up id up
  cases before

/-- With the footswitch up, the PTT line of the parallel port is what handlers and libcw's
thread last commanded, and the poll releases no PTT that is held, exactly if no request
raises the line. -/
theorem footswitch_leaves_ptt_iff {initial : State} (started : Started initial) {labels : List Label}
    (up : ∀ label ∈ labels, label.world.footswitch = true) :
    Runs.States follow Follows labels (initial, toldAfter .lp initial.log none) ∧
        Runs.Steps State.step SparesHeld labels initial ↔
      Runs.Steps State.step (fun label state => ¬ RaisesPort label state) labels initial := by
  have linked : initial.Linked := Reachable.linked ⟨initial, [], started, rfl⟩
  have follows : Follows (initial, toldAfter .lp initial.log none) := by
    obtain ⟨args, world, starts⟩ := started
    obtain ⟨new, log, told⟩ := (Works.start starts).told .lp
    rw [Follows, PortUp, told, log]
    exact Iff.rfl
  have preserved (label : Label) (followed : State × Option Bool) (up : label.world.footswitch = true)
      (invariant : followed.1.Wellformed ∧ followed.1.Linked ∧ followed.1.Lowered) :
      (follow label followed).1.Wellformed ∧ (follow label followed).1.Linked ∧ (follow label followed).1.Lowered :=
    ⟨invariant.1.step label, invariant.2.1.step label invariant.1, invariant.2.2.step up invariant.1 invariant.2.1⟩
  have exact_step (label : Label) (followed : State × Option Bool) (up : label.world.footswitch = true)
      (invariant : followed.1.Wellformed ∧ followed.1.Linked ∧ followed.1.Lowered) (follows : Follows followed) :
      Follows (follow label followed) ∧ SparesHeld label followed.1 ↔ ¬ RaisesPort label followed.1 :=
    follows_step_iff up invariant.1 invariant.2.1 invariant.2.2 follows
  have image (condition : Label → State → Prop) :
      Runs.Steps follow (fun label followed => condition label followed.1) labels (initial, toldAfter .lp initial.log none) ↔
        Runs.Steps State.step condition labels initial :=
    Runs.steps_image Prod.fst (fun _ _ => rfl) condition labels _
  rw [← image, ← image]
  exact Runs.states_and_steps_iff_assuming preserved exact_step up ⟨started.wellformed, linked, started.lowered⟩ follows

/-- A world in which the administrator may open the parallel port. -/
def root : World := { calm with openLp := fun _ => some 4, geteuid := 0 }

/-- The daemon, started on the parallel port. -/
def onParallelPort : State := (start [(root, .cwdevice parport0)] root).get (by decide +kernel)

theorem started_onParallelPort : Started onParallelPort := ⟨_, root, (Option.some_get _).symm⟩

/-- A text is played with a delay of 9 ms: the poll releases PTT while the tones are still
in the queue. -/
theorem poll_releases_automatic_ptt :
    ¬ ∀ initial labels, Started initial → (∀ label ∈ labels, label.world.footswitch = true) →
      Runs.States follow Follows labels (initial, toldAfter .lp initial.log none) ∧
        Runs.Steps State.step SparesHeld labels initial := by
  intro claim
  have follows := (claim onParallelPort [root.receivesEscape .txDelay [byte '9'], root.receives [byte 'e']]
    started_onParallelPort (by simp [World.receives, World.receivesEscape, root, calm])).1.2.2
  exact absurd follows (by unfold Runs.States Follows follow PortUp; decide +kernel)

/-- Without a delay PTT is not used. -/
theorem footswitch_leaves_ptt_without_delay :
    Runs.States follow Follows [root.receives [byte 'e']] (onParallelPort, toldAfter .lp onParallelPort.log none) ∧
      Runs.Steps State.step SparesHeld [root.receives [byte 'e']] onParallelPort := by
  have unused : (onParallelPort.ready (root.receives [byte 'e']).input).Held := by decide +kernel
  exact (footswitch_leaves_ptt_iff started_onParallelPort (by simp [World.receives, root, calm])).mpr
    ⟨fun raises => raises.2.2.1 unused, trivial⟩

end Cwdaemon
