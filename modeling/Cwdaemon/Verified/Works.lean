import Cwdaemon.Verified.Raising

/-! # What the daemon does in one go

Nearly everything the daemon does is a chain of a few kinds of changes: a call is made, a
generator takes tones or a parameter, a device is told something, a tone is played.  What
holds of every such change holds of every operation.  Tones leave the queue by being
played, unless the generator or its queue is renewed; the current cwdevice is used as it
is, and no other one, unless it is replaced; and no line of a cwdevice ever changes its
function.
-/

namespace Cwdaemon

/-- The tones that are played according to a log. -/
def playedTones (log : List Entry) : List Tone :=
  log.filterMap fun entry =>
    match entry.call with
    | .dequeued tone => some tone
    | _ => none

/-- What there is to play tones: no generator, one that is not started, or one that is. -/
inductive Output where
  | closed
  | created
  | started
  deriving DecidableEq

/-- What there is after a call. -/
def Output.next (output : Output) : Call → Output
  | .generatorNew _ success => if success then .created else .closed
  | .generatorStart success => if output = .closed then .closed else if success then .started else .created
  | .generatorStop => if output = .closed then .closed else .created
  | .generatorDelete => .closed
  | _ => output

def outputOf : Option Generator → Output
  | none => .closed
  | some generator => if generator.started then .started else .created

theorem outputOf_map (change : Generator → Generator) (generator : Option Generator)
    (started : ∀ generator, (change generator).started = generator.started) :
    outputOf (generator.map change) = outputOf generator := by
  cases generator with
  | none => rfl
  | some generator => simp [outputOf, started]

theorem outputOf_setStarted (success : Bool) (generator : Option Generator) :
    outputOf (generator.map ({ · with started := success })) =
      if outputOf generator = .closed then .closed else if success then .started else .created := by
  cases generator with
  | none => rfl
  | some generator =>
    have opened : outputOf (some generator) ≠ .closed := by
      simp only [outputOf]
      split <;> simp
    simp only [if_neg opened]
    rfl

/-- The last PTT command of a device, after a call. -/
def Call.tells (call : Call) (type : DeviceType) (told : Option Bool) : Option Bool :=
  match call with
  | .devicePtt other on => if type = other then some on else told
  | .deviceInit other _ => if type = other then none else told
  | _ => told

/-- The last PTT command of a device, after the calls of a log. -/
def toldAfter (type : DeviceType) (log : List Entry) (told : Option Bool) : Option Bool :=
  log.foldl (fun told entry => entry.call.tells type told) told

/-- The command passes a character to libcw. -/
def Command.sends : Command → Bool
  | .send _ => true
  | _ => false

@[simp] theorem playedTones_append (first second : List Entry) :
    playedTones (first ++ second) = playedTones first ++ playedTones second :=
  List.filterMap_append

/-- What a change may do beyond the ordinary: ask for tones, raise PTT, flush the queue,
replace the generator, close the current cwdevice or open another one, give a cwdevice
another name, change between character and word mode, and change what the lines of a serial
port are for. -/
structure Licence where
  sounds : Prop
  raises : Prop
  flushes : Prop
  renews : Prop
  replaces : Prop
  renames : Prop
  switches : Prop
  rewires : Prop

namespace Licence

def none : Licence := ⟨False, False, False, False, False, False, False, False⟩

/-- All that a daemon does once it runs: what a line is for is settled by then. -/
def all : Licence := ⟨True, True, True, True, True, True, True, False⟩

/-- The tones in the queue may be lost. -/
def loses (licence : Licence) : Prop := licence.flushes ∨ licence.renews

structure Within (licence wider : Licence) : Prop where
  sounds : licence.sounds → wider.sounds
  raises : licence.raises → wider.raises
  flushes : licence.flushes → wider.flushes
  renews : licence.renews → wider.renews
  replaces : licence.replaces → wider.replaces
  renames : licence.renames → wider.renames
  switches : licence.switches → wider.switches
  rewires : licence.rewires → wider.rewires

theorem Within.refl (licence : Licence) : licence.Within licence := ⟨id, id, id, id, id, id, id, id⟩

theorem Within.trans {first second third : Licence} (earlier : first.Within second) (later : second.Within third) :
    first.Within third :=
  ⟨later.sounds ∘ earlier.sounds, later.raises ∘ earlier.raises, later.flushes ∘ earlier.flushes,
    later.renews ∘ earlier.renews, later.replaces ∘ earlier.replaces, later.renames ∘ earlier.renames,
    later.switches ∘ earlier.switches, later.rewires ∘ earlier.rewires⟩

theorem Within.loses {licence wider : Licence} (within : licence.Within wider) (loses : licence.loses) : wider.loses :=
  loses.imp within.flushes within.renews

theorem none_within (licence : Licence) : none.Within licence :=
  ⟨False.elim, False.elim, False.elim, False.elim, False.elim, False.elim, False.elim, False.elim⟩

/-- All that the start-up does. -/
def startup : Licence := ⟨False, False, False, True, True, True, False, True⟩

theorem within_all {licence : Licence} (wired : ¬ licence.rewires) : licence.Within all :=
  ⟨fun _ => trivial, fun _ => trivial, fun _ => trivial, fun _ => trivial, fun _ => trivial, fun _ => trivial,
    fun _ => trivial, wired⟩

end Licence

namespace State

/-- The generator of libcw. -/
def output (state : State) : Output := outputOf state.libcw.generator

/-- The text loop passes a character of the text to libcw. -/
def passes (state : State) (text : Bytes) : Bool := (state.programOf text).any Command.sends

theorem output_eq_tuning (state : State) : state.output = outputOf state.tuning := by
  unfold output tuning
  cases state.libcw.generator <;> rfl

theorem SameTuning.output {before after : State} (same : SameTuning before after) : after.output = before.output := by
  rw [output_eq_tuning, output_eq_tuning, same.tuning]

/-- No command of the text loop starts or stops a generator. -/
theorem output_exec (world : World) (command : Command) (state : State) :
    (state.exec world command).output = state.output := by
  cases command with
  | speed wpm => rw [output_eq_tuning, (exec_speed world wpm state).2, outputOf_map _ _ fun _ => by rfl, output_eq_tuning]
  | gap dots => rw [output_eq_tuning, (exec_gap world dots state).2, outputOf_map _ _ fun _ => by rfl, output_eq_tuning]
  | readGap | ptt | send | replace | reply => exact (sameTuning_exec world state (by simp) (by simp)).output

end State

/-- The action asks for tones, or makes libcw's thread play. -/
def Action.Sounds (action : Action) (state : State) : Prop :=
  match action with
  | .text bytes => state.output = .started ∨ state.passes (state.requestQueue.append bytes).bytes = true
  | .request .tune payload => (paramsTune payload).any (0 < ·) = true
  | .dequeue => state.output = .started
  | _ => False

/-- What an action may do beyond the ordinary. -/
def Action.licence (action : Action) (state : State) : Licence where
  sounds := action.Sounds state
  raises := action.Raises state
  flushes := ∃ payload, action = .request .abort payload ∨ action = .request .tune payload
  renews := action = .exit ∨ ∃ payload, action = .request .reset payload ∨
    action = .request .soundSystem payload ∨ action = .request .exit payload
  replaces := action = .exit ∨ ∃ payload, action = .request .cwdevice payload ∨ action = .request .exit payload
  renames := ∃ payload, action = .request .cwdevice payload
  switches := ∃ payload, action = .request .reset payload ∨ action = .request .wordMode payload
  rewires := False

/-- What an iteration of the main loop may do besides: a footswitch that is down raises
PTT. -/
def Licence.polling (world : World) : Licence := { Licence.none with raises := world.footswitch = false }

/-- What a step may do beyond the ordinary. -/
def Label.licence (label : Label) (state : State) : Licence :=
  { label.input.action.licence (state.ready label.input) with
    raises := label.input.action.Raises (state.ready label.input) ∨ label.world.footswitch = false }

theorem Label.action_within_licence (label : Label) (state : State) :
    (label.input.action.licence (state.ready label.input)).Within (label.licence state) :=
  ⟨id, .inl, id, id, id, id, id, id⟩

theorem Label.polling_within_licence (label : Label) (state : State) :
    (Licence.polling label.world).Within (label.licence state) :=
  ⟨False.elim, .inr, False.elim, False.elim, False.elim, False.elim, False.elim, False.elim⟩

namespace State

/-- The tones in the queue. -/
def tones (state : State) : List Tone := (state.libcw.generator.map Generator.toneQueue).getD []

theorem length_tones (state : State) : state.tones.length = state.toneQueueLength := by
  unfold tones toneQueueLength Libcw.toneQueueLength
  cases state.libcw.generator <;> rfl

/-- A call that is not about another device than the current one, opens, closes and raises
none, and neither replaces the generator nor empties its queue, unless it is licensed to. -/
def Wires (licence : Licence) (state : State) (call : Call) : Prop :=
  match call with
  | .dequeued _ => False
  | .deviceInit _ _ | .deviceFree _ _ => licence.replaces
  | .sendCharacter _ _ | .queueTone _ _ => licence.sounds
  | .flushToneQueue => licence.flushes
  | .generatorNew _ _ | .generatorStart _ | .generatorStop | .generatorDelete => licence.renews
  | .devicePtt type on => (on = true → licence.raises) ∧ (licence.replaces ∨ type = state.globalCwdevice)
  | .deviceCw type _ | .deviceSsbway type _ | .deviceSwitchband type _ =>
    licence.replaces ∨ type = state.globalCwdevice
  | .ioctlLines fd _ _ => licence.replaces ∨ (state.globalCwdevice = .ttys ∧ fd = (state.devices .ttys).fd)
  | _ => True

theorem Wires.mono {licence wider : Licence} (within : licence.Within wider) {state : State} {call : Call}
    (wires : Wires licence state call) : Wires wider state call := by
  cases call with
  | dequeued => exact wires.elim
  | deviceInit | deviceFree => exact within.replaces wires
  | sendCharacter | queueTone => exact within.sounds wires
  | flushToneQueue => exact within.flushes wires
  | generatorNew | generatorStart | generatorStop | generatorDelete => exact within.renews wires
  | devicePtt => exact wires.imp (within.raises ∘ ·) (Or.imp_left within.replaces)
  | deviceCw | deviceSsbway | deviceSwitchband | ioctlLines => exact wires.imp_left within.replaces
  | _ => exact trivial

/-- The device that is current before is the one that is current after. -/
theorem Wires.earlier {licence : Licence} {before after : State} {call : Call}
    (same : licence.replaces ∨ after.globalCwdevice = before.globalCwdevice ∧
      (after.devices .ttys).fd = (before.devices .ttys).fd)
    (wires : Wires licence after call) : Wires licence before call := by
  rcases same with replaced | ⟨current, fd⟩
  · cases call with
    | devicePtt => exact ⟨wires.1, .inl replaced⟩
    | deviceCw | deviceSsbway | deviceSwitchband | ioctlLines => exact .inl replaced
    | _ => exact wires
  · cases call with
    | devicePtt => exact ⟨wires.1, wires.2.imp_right (·.trans current)⟩
    | deviceCw | deviceSsbway | deviceSwitchband => exact wires.imp_right (·.trans current)
    | ioctlLines => exact wires.imp_right fun used => ⟨current.symm.trans used.1, used.2.trans fd⟩
    | _ => exact wires

/-- Without a licence to do so the output is not changed. -/
theorem Wires.next {licence : Licence} {state : State} {call : Call} (wires : Wires licence state call)
    (keeps : ¬ licence.renews) (output : Output) : output.next call = output := by
  cases call <;> first | rfl | exact absurd wires keeps

/-- A chain of changes. -/
inductive Works (licence : Licence) : State → State → Prop
  | refl (state : State) : Works licence state state
  | trans {first second third : State} (earlier : Works licence first second) (later : Works licence second third) :
      Works licence first third
  /-- Changes outside the devices, libcw and the log. -/
  | adjust {before after : State} (device : licence.replaces ∨ after.globalCwdevice = before.globalCwdevice)
      (mode : licence.switches ∨ after.wordmode = before.wordmode) (devices : after.devices = before.devices)
      (libcw : after.libcw = before.libcw) (log : after.log = before.log) :
      Works licence before after
  /-- A call, and what it does to libcw and to the devices. -/
  | call (command : Call) (libcw : Libcw) (devices : DeviceType → Cwdevice) (state : State)
      (wires : Wires licence state command) (output : outputOf libcw.generator = state.output.next command)
      (grows : licence.loses ∨ ∃ added, (libcw.generator.map Generator.toneQueue).getD [] = state.tones ++ added)
      (told : ∀ type, (devices type).pttCommand = command.tells type (state.devices type).pttCommand)
      (fd : ∀ type, licence.replaces ∨ (devices type).fd = (state.devices type).fd)
      (desc : ∀ type, (devices type).desc = (state.devices type).desc)
      (ttyOptions : ∀ type, (devices type).ttyOptions = (state.devices type).ttyOptions) :
      Works licence state { state.record command with libcw := libcw, devices := devices }
  | played (generator : Generator) (tone : Tone) (tones : List Tone) (state : State)
      (opened : state.libcw.generator = some generator) (queued : generator.toneQueue = tone :: tones) :
      Works licence state (state.taken generator tone tones)
  /-- Changes of a device without a call, of its descriptor, its name or its lines only if licensed. -/
  | setDevice (type : DeviceType) (device : Cwdevice) (state : State)
      (told : device.pttCommand = (state.devices type).pttCommand)
      (fd : licence.replaces ∨ device.fd = (state.devices type).fd)
      (desc : licence.renames ∨ device.desc = (state.devices type).desc)
      (ttyOptions : licence.rewires ∨ device.ttyOptions = (state.devices type).ttyOptions) :
      Works licence state (state.setDevice type device)

namespace Works

variable {licence : Licence} {before after state : State}

theorem mono {wider : Licence} (works : Works licence before after) (within : licence.Within wider) :
    Works wider before after := by
  induction works with
  | refl state => exact refl state
  | trans _ _ earlier later => exact earlier.trans later
  | adjust device mode devices libcw log =>
    exact adjust (device.imp_left within.replaces) (mode.imp_left within.switches) devices libcw log
  | call command libcw devices state wires output grows told fd desc ttyOptions =>
    exact call command libcw devices state (wires.mono within) output (grows.imp_left within.loses) told
      (fun type => (fd type).imp_left within.replaces) desc ttyOptions
  | played generator tone tones state opened queued => exact played generator tone tones state opened queued
  | setDevice type device state told fd desc ttyOptions =>
    exact setDevice type device state told (fd.imp_left within.replaces) (desc.imp_left within.renames)
      (ttyOptions.imp_left within.rewires)

/-! ## What holds of every chain -/

theorem globalCwdevice (works : Works licence before after) (stays : ¬ licence.replaces) :
    after.globalCwdevice = before.globalCwdevice := by
  induction works with
  | refl | call | played | setDevice => rfl
  | trans _ _ earlier later => exact later.trans earlier
  | adjust device => exact device.resolve_left stays

theorem fd (works : Works licence before after) (stays : ¬ licence.replaces) (type : DeviceType) :
    (after.devices type).fd = (before.devices type).fd := by
  induction works with
  | refl | played => rfl
  | trans _ _ earlier later => exact later.trans earlier
  | adjust _ _ devices => rw [devices]
  | call _ _ _ _ _ _ _ _ fd => exact (fd type).resolve_left stays
  | setDevice other device state _ fd =>
    by_cases same : type = other
    · subst same
      simpa using fd.resolve_left stays
    · simp [same]

theorem desc (works : Works licence before after) (stays : ¬ licence.renames) (type : DeviceType) :
    (after.devices type).desc = (before.devices type).desc := by
  induction works with
  | refl | played => rfl
  | trans _ _ earlier later => exact later.trans earlier
  | adjust _ _ devices => rw [devices]
  | call _ _ _ _ _ _ _ _ _ desc => exact desc type
  | setDevice other device state _ _ desc =>
    by_cases same : type = other
    · subst same
      simpa using desc.resolve_left stays
    · simp [same]

theorem output (works : Works licence before after) (keeps : ¬ licence.renews) : after.output = before.output := by
  induction works with
  | refl | setDevice => rfl
  | trans _ _ earlier later => exact later.trans earlier
  | adjust _ _ _ libcw => simp only [State.output, libcw]
  | call _ _ _ _ wires output => exact output.trans (wires.next keeps _)
  | played generator tone tones state opened => simp [State.output, outputOf, taken, opened]

theorem wordmode (works : Works licence before after) (stays : ¬ licence.switches) :
    after.wordmode = before.wordmode := by
  induction works with
  | refl | call | played | setDevice => rfl
  | trans _ _ earlier later => exact later.trans earlier
  | adjust _ mode => exact mode.resolve_left stays

theorem ttyOptions (works : Works licence before after) (stays : ¬ licence.rewires) (type : DeviceType) :
    (after.devices type).ttyOptions = (before.devices type).ttyOptions := by
  induction works with
  | refl | played => rfl
  | trans _ _ earlier later => exact later.trans earlier
  | adjust _ _ devices => rw [devices]
  | call _ _ _ _ _ _ _ _ _ _ ttyOptions => exact ttyOptions type
  | setDevice other device state _ _ _ ttyOptions =>
    by_cases same : type = other
    · subst same
      simpa using ttyOptions.resolve_left stays
    · simp [same]

theorem wires (works : Works licence before after) {call : Call} (wires : Wires licence after call) :
    Wires licence before call := by
  refine wires.earlier ?_
  by_cases replaced : licence.replaces
  · exact .inl replaced
  · exact .inr ⟨works.globalCwdevice replaced, works.fd replaced .ttys⟩

/-- What is called: the device that is current, by its descriptor. -/
theorem adds (works : Works licence before after) :
    Adds (fun entry => Wires licence before entry.call ∨ ∃ tone, entry.call = .dequeued tone) before after := by
  induction works with
  | refl state => exact .refl _ state
  | trans earlier _ first second =>
    exact first.trans (second.mono fun _ => Or.imp_left earlier.wires)
  | adjust _ _ _ _ log => exact .of_log_eq log
  | call command _ _ state wires => exact (Adds.record (.inl wires)).trans (.of_log_eq rfl)
  | setDevice => exact .of_log_eq rfl
  | played generator tone => exact .record (.inr ⟨tone, rfl⟩)

/-- The tones that were in the queue, and those added, are played in this order or are
still in the queue. -/
theorem conserves (works : Works licence before after) (keeps : ¬ licence.loses) :
    ∃ new added, after.log = before.log ++ new ∧ before.tones ++ added = playedTones new ++ after.tones := by
  induction works with
  | refl state => exact ⟨[], [], by simp, by simp [playedTones]⟩
  | trans _ _ earlier later =>
    obtain ⟨new, added, log, tones⟩ := earlier
    obtain ⟨new', added', log', tones'⟩ := later
    refine ⟨new ++ new', added ++ added', by rw [log', log, List.append_assoc], ?_⟩
    rw [← List.append_assoc, tones, List.append_assoc, tones', playedTones_append, List.append_assoc]
  | adjust _ _ _ libcw log =>
    refine ⟨[], [], by simp [log], ?_⟩
    simp [State.tones, libcw, playedTones]
  | call command libcw _ state wires _ grows =>
    obtain ⟨added, tones⟩ := grows.resolve_left keeps
    refine ⟨[⟨command, state.moment⟩], added, rfl, ?_⟩
    have silent : playedTones [⟨command, state.moment⟩] = [] := by
      cases command <;> first | rfl | exact wires.elim
    rw [silent, List.nil_append, ← tones]
    rfl
  | played generator tone tones state opened queued =>
    exact ⟨[⟨.dequeued tone, state.moment⟩], [], rfl, by simp [playedTones, State.tones, opened, queued, taken]⟩
  | setDevice => exact ⟨[], [], by simp, by simp [playedTones, State.tones]⟩

/-- The PTT commands are accounted for in the log. -/
theorem told (works : Works licence before after) (type : DeviceType) :
    ∃ new, after.log = before.log ++ new ∧
      (after.devices type).pttCommand = toldAfter type new (before.devices type).pttCommand := by
  induction works with
  | refl => exact ⟨[], (List.append_nil _).symm, rfl⟩
  | trans _ _ earlier later =>
    obtain ⟨new, log, told⟩ := earlier
    obtain ⟨new', log', told'⟩ := later
    refine ⟨new ++ new', by rw [log', log, List.append_assoc], ?_⟩
    rw [told', told, toldAfter, toldAfter, toldAfter, List.foldl_append]
  | adjust _ _ devices _ log => exact ⟨[], by rw [log, List.append_nil], by rw [devices]; rfl⟩
  | call command _ _ state _ _ _ told => exact ⟨[⟨command, state.moment⟩], rfl, told type⟩
  | played _ tone _ state => exact ⟨[⟨.dequeued tone, state.moment⟩], rfl, rfl⟩
  | setDevice other device state told =>
    refine ⟨[], (List.append_nil _).symm, ?_⟩
    by_cases same : type = other
    · subst same
      simpa [toldAfter] using told
    · simp [toldAfter, same]

/-- Without a licence to raise PTT it is not raised. -/
theorem up (works : Works licence before after) (silent : ¬ licence.raises) {type : DeviceType}
    (up : (after.devices type).pttCommand = some true) : (before.devices type).pttCommand = some true := by
  induction works with
  | refl | played => exact up
  | trans _ _ earlier later => exact earlier (later up)
  | adjust _ _ devices => rwa [devices] at up
  | call command _ _ state wires _ _ told =>
    rw [told] at up
    cases command with
    | devicePtt other on =>
      simp only [Call.tells] at up
      split at up
      · exact absurd (wires.1 (by simpa using up)) silent
      · exact up
    | deviceInit other =>
      simp only [Call.tells] at up
      split at up
      · cases up
      · exact up
    | _ => exact up
  | setDevice other device state told =>
    by_cases same : type = other
    · subst same
      simpa [told] using up
    · simpa [same] using up

/-! ## Calls of libcw -/

/-- A call that neither libcw nor a device does anything about. -/
theorem record (command : Call) (state : State) (wires : Wires licence state command)
    (same : state.output.next command = state.output) (untold : ∀ type told, command.tells type told = told) :
    Works licence state (state.record command) :=
  call command state.libcw state.devices state wires same.symm (.inr ⟨[], (List.append_nil _).symm⟩)
    (fun type => (untold type _).symm) (fun _ => .inr rfl) (fun _ => rfl) fun _ => rfl

/-- A call that libcw alone does something about. -/
theorem callLibcw (command : Call) (libcw : Libcw) (state : State) (wires : Wires licence state command)
    (output : outputOf libcw.generator = state.output.next command)
    (grows : licence.loses ∨ ∃ added, (libcw.generator.map Generator.toneQueue).getD [] = state.tones ++ added)
    (untold : ∀ type told, command.tells type told = told) :
    Works licence state { state.record command with libcw := libcw } :=
  call command libcw state.devices state wires output grows (fun type => (untold type _).symm)
    (fun _ => .inr rfl) (fun _ => rfl) fun _ => rfl

theorem callGenerator (command : Call) (change : Generator → Generator) (state : State)
    (wires : Wires licence state command) (untold : ∀ type told, command.tells type told = told)
    (output : ∀ generator, outputOf (Option.map change generator) = (outputOf generator).next command)
    (grows : licence.loses ∨ ∀ generator, ∃ added, (change generator).toneQueue = generator.toneQueue ++ added) :
    Works licence state (state.callGenerator command change) := by
  refine callLibcw command _ state wires (output _) (grows.imp_right fun grows => ?_) untold
  cases opened : state.libcw.generator with
  | none => exact ⟨[], by simp [State.tones, opened]⟩
  | some generator =>
    obtain ⟨added, queued⟩ := grows generator
    exact ⟨added, by simp [State.tones, opened, queued]⟩

/-- A call that leaves the generator started or not, and its queue as it was. -/
theorem setsParameter (command : Call) (change : Generator → Generator) (state : State)
    (wires : Wires licence state command) (untold : ∀ type told, command.tells type told = told)
    (same : ∀ output : Output, output.next command = output)
    (kept : ∀ generator, (change generator).started = generator.started ∧
      (change generator).toneQueue = generator.toneQueue) :
    Works licence state (state.callGenerator command change) :=
  callGenerator command change state wires untold
    (fun generator => (outputOf_map change generator fun generator => (kept generator).1).trans (same _).symm)
    (.inr fun generator => ⟨[], by rw [(kept generator).2, List.append_nil]⟩)

theorem cwRegisterToneQueueLowCallback (level : Nat) (state : State) :
    Works licence state (state.cwRegisterToneQueueLowCallback level) := setsParameter _ _ state trivial (fun _ _ => rfl) (fun _ => rfl) fun _ => ⟨rfl, rfl⟩

theorem cwSetSendSpeed (wpm : Int) (state : State) : Works licence state (state.cwSetSendSpeed wpm) :=
  setsParameter _ _ state trivial (fun _ _ => rfl) (fun _ => rfl) fun _ => ⟨rfl, rfl⟩

theorem cwSetFrequency (frequency : Int) (state : State) : Works licence state (state.cwSetFrequency frequency) :=
  setsParameter _ _ state trivial (fun _ _ => rfl) (fun _ => rfl) fun _ => ⟨rfl, rfl⟩

theorem cwSetVolume (volume : Int) (state : State) : Works licence state (state.cwSetVolume volume) :=
  setsParameter _ _ state trivial (fun _ _ => rfl) (fun _ => rfl) fun _ => ⟨rfl, rfl⟩

theorem cwSetGap (dots : Int) (state : State) : Works licence state (state.cwSetGap dots) :=
  setsParameter _ _ state trivial (fun _ _ => rfl) (fun _ => rfl) fun _ => ⟨rfl, rfl⟩

theorem cwSetWeighting (weighting : Int) (state : State) : Works licence state (state.cwSetWeighting weighting) :=
  setsParameter _ _ state trivial (fun _ _ => rfl) (fun _ => rfl) fun _ => ⟨rfl, rfl⟩

theorem cwQueueTone (sounds : licence.sounds) (usecs : Nat) (frequency : Int) (state : State) :
    Works licence state (state.cwQueueTone usecs frequency) :=
  callGenerator _ _ state sounds (fun _ _ => rfl) (fun generator => outputOf_map _ generator fun _ => rfl) (.inr fun _ => ⟨_, rfl⟩)

theorem cwSendCharacter (sounds : licence.sounds) (world : World) (char : UInt8) (state : State) :
    Works licence state (state.cwSendCharacter world char) :=
  callGenerator _ _ state sounds (fun _ _ => rfl) (fun generator => outputOf_map _ generator fun _ => rfl) (.inr fun _ => ⟨_, rfl⟩)

theorem cwFlushToneQueue (flushed : licence.flushes) (state : State) : Works licence state state.cwFlushToneQueue :=
  callGenerator _ _ state flushed (fun _ _ => rfl) (fun generator => outputOf_map _ generator fun _ => rfl) (.inl (.inl flushed))

/-! ## Devices -/

theorem ttysLines (on : Bool) (mask : BitVec 32) (current : licence.replaces ∨ state.globalCwdevice = .ttys) :
    Works licence state (state.ttysLines on mask) := by
  unfold State.ttysLines
  split
  · exact refl state
  · exact record _ state (current.imp_right fun current => ⟨current, rfl⟩) rfl fun _ _ => rfl

theorem deviceCw (type : DeviceType) (on : Bool) (current : licence.replaces ∨ type = state.globalCwdevice) :
    Works licence state (state.deviceCw type on) := by
  have recorded : Works licence state (state.record (.deviceCw type on)) := record _ state current rfl fun _ _ => rfl
  cases type with
  | ttys => exact recorded.trans (ttysLines on _ (current.imp_right Eq.symm))
  | lp | null => exact recorded

theorem devicePtt (type : DeviceType) (on : Bool) (current : licence.replaces ∨ type = state.globalCwdevice)
    (raises : on = true → licence.raises) : Works licence state (state.devicePtt type on) := by
  have told (other : DeviceType) : Function.update state.devices type { state.devices type with pttCommand := some on } other =
      { state.devices other with pttCommand := (Call.devicePtt type on).tells other (state.devices other).pttCommand } := by
    by_cases same : other = type
    · subst same
      simp [Call.tells]
    · simp [Call.tells, same]
  have commanded : Works licence state ((state.record (.devicePtt type on)).setDevice type
      { state.devices type with pttCommand := some on }) :=
    call (.devicePtt type on) state.libcw _ state ⟨raises, current⟩ rfl (.inr ⟨[], (List.append_nil _).symm⟩)
      (fun other => (congrArg Cwdevice.pttCommand (told other) :))
      (fun other => .inr (congrArg Cwdevice.fd (told other) :)) (fun other => (congrArg Cwdevice.desc (told other) :))
      fun other => (congrArg Cwdevice.ttyOptions (told other) :)
  cases type with
  | ttys => exact commanded.trans (ttysLines on _ (current.imp_right Eq.symm))
  | lp | null => exact commanded

theorem deviceResetPinsState (type : DeviceType) (current : licence.replaces ∨ type = state.globalCwdevice) :
    Works licence state (state.deviceResetPinsState type) := by
  have keyed : Works licence state (state.deviceCw type false) := deviceCw type false current
  have still : licence.replaces ∨ type = (state.deviceCw type false).globalCwdevice := by
    obtain ⟨log, equal⟩ := deviceCw_eq type false state
    rw [equal]
    exact current
  have off := keyed.trans (devicePtt type false still (by simp))
  cases type with
  | ttys => exact off
  | lp =>
    have soundcard := off.trans (record (.deviceSsbway .lp false) _ still rfl fun _ _ => rfl)
    exact soundcard.trans (record (.deviceSwitchband .lp 0#8) _ still rfl fun _ _ => rfl)
  | null => exact refl state

theorem setPttOn (raises : licence.raises ∨ state.Held) : Works licence state state.setPttOn := by
  unfold State.setPttOn
  split
  case isTrue unset =>
    have raises := raises.resolve_right fun held => by simp [held unset.1] at unset
    exact (devicePtt _ true (.inr rfl) fun _ => raises).trans (adjust (.inr rfl) (.inr rfl) rfl rfl rfl)
  case isFalse => exact refl state

theorem setPttOff (state : State) : Works licence state state.setPttOff :=
  (devicePtt _ false (.inr rfl) (by simp)).trans (adjust (.inr rfl) (.inr rfl) rfl rfl rfl)

theorem deviceFree (replaced : licence.replaces) (type : DeviceType) (state : State) :
    Works licence state (state.deviceFree type) := by
  have reset : Works licence state (state.deviceResetPinsState type) := deviceResetPinsState type (.inl replaced)
  cases type with
  | ttys =>
    have closed := reset.trans (record (.deviceFree .ttys ((state.deviceResetPinsState .ttys).devices .ttys).fd) _ replaced rfl
      fun _ _ => rfl)
    exact closed.trans (setDevice .ttys _ _ rfl (.inl replaced) (.inr rfl) (.inr rfl))
  | lp => exact reset.trans (record (.deviceFree .lp _) _ replaced rfl fun _ _ => rfl)
  | null => exact refl state

theorem deviceInit (replaced : licence.replaces) (type : DeviceType) (fd : Int) (state : State) :
    Works licence state (state.deviceInit type fd) := by
  have opened : Works licence state ((state.record (.deviceInit type fd)).setDevice type
      { state.devices type with fd := fd, pttCommand := none }) := by
    refine call (.deviceInit type fd) state.libcw _ state replaced rfl (.inr ⟨[], (List.append_nil _).symm⟩)
      (fun other => ?_) (fun _ => .inl replaced) (fun other => ?_) fun other => ?_
    all_goals
      by_cases same : other = type
      · subst same
        simp [Call.tells]
      · simp [Call.tells, same]
  cases type with
  | ttys => exact opened.trans (deviceResetPinsState .ttys (.inl replaced))
  | lp => exact opened.trans (deviceResetPinsState .lp (.inl replaced))
  | null => exact opened

theorem setDesc (renamed : licence.renames) (type : DeviceType) (desc : Option Bytes) (state : State) :
    Works licence state (state.setDesc type desc) := setDevice type _ state rfl (.inr rfl) (.inl renamed) (.inr rfl)

theorem adoptCwdevice (replaced : licence.replaces) (renamed : licence.renames) (world : World) (type : DeviceType) (fd : Int) (desc : Bytes)
    (state : State) : Works licence state (state.adoptCwdevice world type fd desc).2 := by
  have selected : Works licence state { state with globalCwdevice := type } :=
    adjust (.inl replaced) (.inr rfl) rfl rfl rfl
  have closed := ((selected.trans (deviceFree replaced state.globalCwdevice _)).trans
    (setDesc renamed state.globalCwdevice none _)).trans (setDesc renamed type none _)
  unfold State.adoptCwdevice
  simp only
  split
  · exact (closed.trans (setDesc renamed type (some desc) _)).trans (deviceInit replaced type fd _)
  · exact closed

theorem optionCwdevice (replaced : licence.replaces) (renamed : licence.renames) (world : World) (name : Bytes)
    (state : State) :
    Works licence state (state.optionCwdevice world name).2 := by
  rcases optionCwdevice_cases world name state with ⟨-, refused⟩ | ⟨-, fd, adopted⟩
  · rw [refused]
    exact refl state
  · rw [adopted]
    exact adoptCwdevice replaced renamed world _ fd name state

/-! ## Replies and libcw's thread -/

theorem prepareReply (request : Bytes) (state : State) : Works licence state (state.prepareReply request) := by
  have addressed : Works licence state { state.setPttFlag (state.pttFlag.set .echo) with replyAddr := state.requestAddr } :=
    adjust (.inr rfl) (.inr rfl) rfl rfl rfl
  unfold State.prepareReply
  simp only
  split
  · exact adjust (.inr rfl) (.inr rfl) rfl rfl rfl
  · exact (addressed.trans (record (.prepared _ _) _ trivial rfl fun _ _ => rfl)).trans (adjust (.inr rfl) (.inr rfl) rfl rfl rfl)

theorem sendto (reply : Bytes) (state : State) : Works licence state (state.sendto reply) := by
  unfold State.sendto
  split
  · exact record (.sendto _ _) state trivial rfl fun _ _ => rfl
  · exact adjust (.inr rfl) (.inr rfl) rfl rfl rfl

theorem answered (state : State) : Works licence state state.answered := by
  have settled : Works licence state { state.setPttFlag (state.pttFlag.unset .echo) with
      replyBuffer := state.replyBuffer.append crlf } := adjust (.inr rfl) (.inr rfl) rfl rfl rfl
  exact settled.trans (sendto _ _)

theorem toneQueueLowCallback (sounds : licence.sounds) (state : State) :
    Works licence state state.toneQueueLowCallback := by
  rw [toneQueueLowCallback_eq]
  split
  · exact setPttOff state
  · split
    · split
      · exact ((answered state).trans (cwQueueTone sounds 1 0 _)).trans (cwQueueTone sounds 1 0 _)
      · exact answered state
    · exact refl state

/-- A generator that is not started plays nothing. -/
theorem dequeue (sounds : licence.sounds ∨ state.output ≠ .started) : Works licence state state.dequeue := by
  rcases state.dequeue_cases with same | ⟨generator, tone, tones, opened, started, queued, dequeued⟩
  · rw [same]
    exact refl state
  · have taken : Works licence state (state.taken generator tone tones) :=
      played generator tone tones state opened queued
    have sounds := sounds.resolve_right fun silent => silent (by simp [State.output, outputOf, opened, started])
    rw [dequeued]
    split
    · exact taken.trans (toneQueueLowCallback sounds _)
    · exact taken

theorem dequeues (count : Nat) (sounds : licence.sounds ∨ state.output ≠ .started) :
    Works licence state (state.dequeues count) := by
  induction count generalizing state with
  | zero => exact refl state
  | succ count inductionHypothesis =>
    have later : licence.sounds ∨ state.dequeue.output ≠ .started := by
      rw [(SameTuning.dequeue state).output]
      exact sounds
    exact (dequeue sounds).trans (inductionHypothesis later)

/-! ## Texts -/

/-- A call of the text loop, with what libcw's thread does around it. -/
theorem served {world : World} {call : State → State} (sounds : licence.sounds ∨ state.output ≠ .started)
    (same : (call (state.serve world)).output = (state.serve world).output)
    (calls : ∀ state, Works licence state (call state)) : Works licence state (state.served world call) := by
  have later : licence.sounds ∨ (call (state.serve world)).output ≠ .started := by
    rw [same, (SameTuning.serve world state).output]
    exact sounds
  exact ((dequeues _ sounds).trans (calls _)).trans (dequeues _ later)

theorem exec (world : World) (command : Command)
    (sounds : licence.sounds ∨ state.output ≠ .started ∧ command.sends = false)
    (raises : command.asksPtt = true → licence.raises ∨ state.Held) :
    Works licence state (state.exec world command) := by
  have silent := sounds.imp_right And.left
  cases command with
  | speed wpm =>
    have set : Works licence state (state.setMorseSpeed wpm) := adjust (.inr rfl) (.inr rfl) rfl rfl rfl
    exact set.trans (served silent (outputOf_map _ _ fun _ => by rfl) fun state => cwSetSendSpeed wpm state)
  | gap dots => exact served silent (outputOf_map _ _ fun _ => by rfl) fun state => cwSetGap dots state
  | readGap => exact served silent rfl fun state => record .getGap state trivial rfl fun _ _ => rfl
  | ptt => exact setPttOn (raises rfl)
  | send char =>
    have sounds : licence.sounds := sounds.resolve_right (by simp [Command.sends])
    exact served silent (outputOf_map _ _ fun _ => by rfl) fun state => cwSendCharacter sounds world char state
  | replace index => exact adjust (.inr rfl) (.inr rfl) rfl rfl rfl
  | reply index =>
    have cut : Works licence state { state with requestQueue := state.requestQueue.cut index } :=
      adjust (.inr rfl) (.inr rfl) rfl rfl rfl
    exact cut.trans (prepareReply _ _)

theorem execAll (world : World) (commands : List Command)
    (sounds : licence.sounds ∨ state.output ≠ .started ∧ commands.any Command.sends = false)
    (raises : licence.raises ∨ commands.any Command.asksPtt = false ∨
      state.requestQueue.bytes ≠ [] ∧ (∀ command ∈ commands, command.Behind) ∧ state.Held) :
    Works licence state (State.execAll world commands state) := by
  induction commands generalizing state with
  | nil => exact refl state
  | cons command commands inductionHypothesis =>
    simp only [List.any_cons, Bool.or_eq_false_iff, List.forall_mem_cons] at sounds raises
    have raised (asked : command.asksPtt = true) : licence.raises ∨ state.Held := by
      rcases raises with raises | ⟨unasked, -⟩ | ⟨-, -, held⟩
      · exact .inl raises
      · rw [asked] at unasked
        cases unasked
      · exact .inr held
    have first := exec world command (sounds.imp_right fun silent => ⟨silent.1, silent.2.1⟩) raised
    have later : licence.sounds ∨ (state.exec world command).output ≠ .started ∧
        commands.any Command.sends = false := by
      rw [output_exec]
      exact sounds.imp_right fun silent => ⟨silent.1, silent.2.2⟩
    refine first.trans (inductionHypothesis later ?_)
    rcases raises with raises | ⟨-, unasked⟩ | ⟨busy, ⟨behind, rest⟩, held⟩
    · exact .inl raises
    · exact .inr (.inl unasked)
    · exact .inr (.inr ⟨busy_exec world busy behind, rest, held_exec world busy (.inr held)⟩)

theorem receiveText (world : World) (request : Bytes)
    (sounds : (Action.text request).Sounds state → licence.sounds)
    (raises : (Action.text request).Raises state → licence.raises) :
    Works licence state (state.receiveText world request) := by
  unfold State.receiveText
  split
  · have queued : Works licence state { state with requestQueue := state.requestQueue.append request } :=
      adjust (.inr rfl) (.inr rfl) rfl rfl rfl
    have silent : licence.sounds ∨ state.output ≠ .started ∧
        state.passes (state.requestQueue.append request).bytes = false := by
      by_cases loud : (Action.text request).Sounds state
      · exact .inl (sounds loud)
      · simp only [Action.Sounds, not_or, Bool.not_eq_true] at loud
        exact .inr loud
    have unraised : licence.raises ∨ state.asksPtt (state.requestQueue.append request).bytes = false ∨
        (state.requestQueue.append request).bytes ≠ [] ∧
          (∀ command ∈ state.programOf (state.requestQueue.append request).bytes, command.Behind) ∧ state.Held := by
      cases asks : state.asksPtt (state.requestQueue.append request).bytes with
      | false => exact .inr (.inl rfl)
      | true =>
        by_cases held : state.Held
        · refine .inr (.inr ⟨fun nothing => ?_, behind_of_asksPtt asks, held⟩)
          rw [nothing] at asks
          cases asks
        · exact .inl (raises ⟨held, asks⟩)
    unfold playRequest
    rw [playLoop_eq]
    exact (queued.trans (execAll world _ silent unraised)).trans (adjust (.inr rfl) (.inr rfl) rfl rfl rfl)
  · exact refl state

/-! ## libcw output -/

theorem closeLibcwOutput (renewed : licence.renews) (state : State) : Works licence state state.closeLibcwOutput := by
  have stopped : Works licence state state.cwGeneratorStop :=
    callGenerator .generatorStop _ state renewed (fun _ _ => rfl) (outputOf_setStarted false) (.inl (.inr renewed))
  exact stopped.trans (callLibcw .generatorDelete ⟨none, none⟩ _ renewed rfl (.inl (.inr renewed)) fun _ _ => rfl)

theorem cwRegisterKeyingCallback (device : Option DeviceType) (state : State) :
    Works licence state (state.cwRegisterKeyingCallback device) :=
  callLibcw (.registerKeyingCallback device) _ state trivial rfl (.inr ⟨[], (List.append_nil _).symm⟩) fun _ _ => rfl

theorem cwGeneratorNew (renewed : licence.renews) (world : World) (audioSystem : AudioSystem) (state : State) :
    Works licence state (state.cwGeneratorNew world audioSystem).2 := by
  refine callLibcw (.generatorNew audioSystem _) _ state renewed ?_ (.inl (.inr renewed)) fun _ _ => rfl
  simp only [Output.next]
  split <;> rfl

theorem retryOss (renewed : licence.renews) (world : World) (attempts : Nat) (state : State) :
    Works licence state (state.retryOss world attempts).2 := by
  induction attempts generalizing state with
  | zero => exact refl state
  | succ attempts inductionHypothesis =>
    simp only [State.retryOss]
    split
    · exact cwGeneratorNew renewed world .oss state
    · exact (cwGeneratorNew renewed world .oss state).trans (inductionHypothesis _)

theorem openLibcwOutput (renewed : licence.renews) (world : World) (audioSystem : AudioSystem) (state : State) :
    Works licence state (state.openLibcwOutput world audioSystem).2 := by
  have started (state : State) : Works licence state (state.cwGeneratorStart world).2 :=
    callGenerator (.generatorStart _) _ state renewed (fun _ _ => rfl) (outputOf_setStarted _) (.inl (.inr renewed))
  have created : Works licence state (state.cwGeneratorNew world audioSystem).2 :=
    cwGeneratorNew renewed world audioSystem state
  have retried := created.trans (retryOss renewed world 5 _)
  simp only [State.openLibcwOutput]
  by_cases retry : audioSystem = .oss ∧ (state.cwGeneratorNew world audioSystem).1 = false
  · simp only [if_pos retry]
    split
    · exact retried.trans (started _)
    · exact retried
  · simp only [if_neg retry]
    split
    · exact created.trans (started _)
    · exact created

theorem configured (params : Params) (state : State) : Works licence state (state.configured params) := by
  have registered : Works licence state (state.cwRegisterToneQueueLowCallback tqLowWatermark) :=
    cwRegisterToneQueueLowCallback _ state
  have tuned := (registered.trans (cwSetFrequency params.morseTone _)).trans (cwSetSendSpeed params.morseSpeed _)
  exact ((tuned.trans (cwSetVolume params.morseVolume _)).trans (cwSetGap 0 _)).trans (cwSetWeighting _ _)

theorem resetAlmostAll (renewed : licence.renews) (world : World) (state : State) :
    Works licence state (state.resetAlmostAll world).2 := by
  have current : Works licence state { state with current := state.defaults } := adjust (.inr rfl) (.inr rfl) rfl rfl rfl
  have opened := (current.trans (closeLibcwOutput renewed _)).trans (openLibcwOutput renewed world
    ({ state with current := state.defaults } : State).closeLibcwOutput.defaults.audioSystem _)
  simp only [State.resetAlmostAll, resetLibcwOutput_configured]
  generalize State.openLibcwOutput world _ _ = output at opened ⊢
  obtain ⟨success, after⟩ := output
  have available (state : State) (success : Bool) : Works licence state (state.setHasAudioOutput success) :=
    adjust (.inr rfl) (.inr rfl) rfl rfl rfl
  cases success with
  | true =>
    have set := (opened.trans (configured after.defaults after)).trans (available _ true)
    simp only [if_true]
    exact set.trans (cwRegisterKeyingCallback _ _)
  | false => exact opened.trans (available _ false)

theorem openOrFallBack (renewed : licence.renews) (world : World) (state : State) :
    Works licence state (state.openOrFallBack world) := by
  have opened : Works licence state (state.openLibcwOutput world state.current.audioSystem).2 :=
    openLibcwOutput renewed world state.current.audioSystem state
  have fallen := (opened.trans (closeLibcwOutput renewed _)).trans (openLibcwOutput renewed world .null _)
  simp only [State.openOrFallBack]
  split
  · exact opened.trans (adjust (.inr rfl) (.inr rfl) rfl rfl rfl)
  · split
    · exact fallen.trans (adjust (.inr rfl) (.inr rfl) rfl rfl rfl)
    · exact fallen.trans (adjust (.inr rfl) (.inr rfl) rfl rfl rfl)

/-! ## Requests -/

theorem escReset (renewed : licence.renews) (switched : licence.switches) (world : World) (state : State) :
    Works licence state (state.escReset world) := by
  have cleared : Works licence state state.clearRequestQueue := adjust (.inr rfl) (.inr rfl) rfl rfl rfl
  have reset := cleared.trans (resetAlmostAll renewed world _)
  simp only [State.escReset]
  generalize (State.resetAlmostAll world state.clearRequestQueue).2 = after at reset ⊢
  have character : Works licence after { after with wordmode := false } :=
    adjust (.inr rfl) (.inl switched) rfl rfl rfl
  exact ((reset.trans character).trans (deviceResetPinsState _ (.inr rfl))).trans (adjust (.inr rfl) (.inr rfl) rfl rfl rfl)

theorem escSoundSystem (renewed : licence.renews) (world : World) (payload : Bytes) (state : State) :
    Works licence state (state.escSoundSystem world payload) := by
  cases valid : paramsSystem payload with
  | none =>
    simp only [State.escSoundSystem, valid]
    exact refl state
  | some system =>
    have selected : Works licence state { state with current := { state.current with audioSystem := system } } :=
      adjust (.inr rfl) (.inr rfl) rfl rfl rfl
    have opened := (selected.trans (closeLibcwOutput renewed _)).trans (openOrFallBack renewed world _)
    rw [escSoundSystem_configured valid]
    simp only
    split
    · exact (opened.trans (configured _ _)).trans (cwRegisterKeyingCallback _ _)
    · exact opened

theorem escTone (payload : Bytes) (state : State) : Works licence state (state.escTone payload) := by
  simp only [State.escTone]
  split
  · exact refl state
  · rename_i tone _
    have stored : Works licence state { state with current := { state.current with morseTone := tone } } :=
      adjust (.inr rfl) (.inr rfl) rfl rfl rfl
    split
    · exact (stored.trans (cwSetFrequency tone _)).trans (cwSetVolume _ _)
    · exact stored.trans (cwSetVolume 0 _)

theorem escAbort (flushed : licence.flushes) (state : State) : Works licence state state.escAbort := by
  have broken : Works licence state (if state.pttFlag.has .echo then state.sendto breakReply else state) := by
    split
    · exact sendto _ state
    · exact refl state
  generalize told : (if state.pttFlag.has .echo then state.sendto breakReply else state) = after at broken
  have cleared : Works licence after after.clearRequestQueue := adjust (.inr rfl) (.inr rfl) rfl rfl rfl
  have flushed := (cleared.trans (cwFlushToneQueue flushed _)).trans (record .waitForToneQueue _ trivial rfl fun _ _ => rfl)
  simp only [State.escAbort, told]
  split
  · exact refl state
  · split
    · exact ((broken.trans flushed).trans (setPttOff _)).trans (adjust (.inr rfl) (.inr rfl) rfl rfl rfl)
    · exact (broken.trans flushed).trans (adjust (.inr rfl) (.inr rfl) rfl rfl rfl)

/-- What follows the flush of a tuning. -/
theorem tuneTones (sounds : licence.sounds) (raises : licence.raises ∨ state.Held) (world : World) (seconds : Nat) :
    Works licence state ((state.setPttOn.queueTuneTones seconds).cwSendCharacter world (byte 'e')) := by
  have queued (seconds : Nat) (state : State) : Works licence state (state.queueTuneTones seconds) := by
    induction seconds generalizing state with
    | zero => exact refl state
    | succ seconds inductionHypothesis => exact (cwQueueTone sounds _ _ state).trans (inductionHypothesis _)
  exact ((setPttOn raises).trans (queued seconds _)).trans (cwSendCharacter sounds world (byte 'e') _)

theorem tune (flushed : licence.flushes) (world : World) (seconds : Nat) (sounds : 0 < seconds → licence.sounds)
    (raises : 0 < seconds → licence.raises ∨ state.Held) : Works licence state (state.tune world seconds) := by
  unfold State.tune
  split
  · rename_i positive
    have raises : licence.raises ∨ state.cwFlushToneQueue.Held := raises positive
    exact (cwFlushToneQueue flushed state).trans (tuneTones (sounds positive) raises world seconds)
  · exact refl state

theorem paramsPttOnOff (payload : Bytes) (raises : (getLong payload).any (· ≠ 0) = true → licence.raises ∨ state.Held) :
    Works licence state (state.paramsPttOnOff payload) := by
  rw [paramsPttOnOff_eq]
  split
  · exact refl state
  · rename_i lv valid
    split
    case isTrue positive =>
      have raises := raises (by simpa [valid] using positive)
      exact (setPttOn raises).trans (adjust (.inr rfl) (.inr rfl) rfl rfl rfl)
    · split
      · split
        · have released : Works licence state (state.setPttFlag (state.pttFlag.unset .manual)) := adjust (.inr rfl) (.inr rfl) rfl rfl rfl
          exact released.trans (setPttOff _)
        · exact adjust (.inr rfl) (.inr rfl) rfl rfl rfl
      · exact refl state

theorem escCwdevice (replaced : licence.replaces) (renamed : licence.renames) (world : World) (payload : Bytes)
    (state : State) :
    Works licence state (state.escCwdevice world payload) := by
  have silenced : Works licence state (state.cwRegisterKeyingCallback none) := cwRegisterKeyingCallback none state
  have selected := silenced.trans (optionCwdevice replaced renamed world payload _)
  simp only [State.escCwdevice]
  split
  · exact selected.trans (cwRegisterKeyingCallback _ _)
  · exact selected

theorem exitProcess (renewed : licence.renews) (replaced : licence.replaces) (code : Int) (state : State) :
    Works licence state (state.exitProcess code) := by
  have closed : Works licence state state.closeLibcwOutput := closeLibcwOutput renewed state
  exact (closed.trans (deviceFree replaced _ _)).trans (adjust (.inr rfl) (.inr rfl) rfl rfl rfl)

theorem handleEscRequest (world : World) {request : EscRequest} (payload : Bytes) (state : State)
    (within : ((Action.request request payload).licence state).Within licence) :
    Works licence state (state.handleEscRequest world request payload) := by
  have raises (asks : ¬ state.Held → (Action.request request payload).Raises state) : licence.raises ∨ state.Held :=
    (Decidable.em state.Held).symm.imp_left fun lost => within.raises (asks lost)
  have adjusted (params : Params) : Works licence state { state with current := params } := adjust (.inr rfl) (.inr rfl) rfl rfl rfl
  cases request with
  | reset => exact escReset (within.renews (by simp [Action.licence])) (within.switches (by simp [Action.licence])) world state
  | speed =>
    simp only [State.handleEscRequest, escSpeed]
    split
    · exact refl state
    · exact (adjusted _).trans (cwSetSendSpeed _ _)
  | tone => exact escTone payload state
  | abort => exact escAbort (within.flushes (by simp [Action.licence])) state
  | exit => exact exitProcess (within.renews (by simp [Action.licence])) (within.replaces (by simp [Action.licence])) 0 state
  | wordMode => exact adjust (.inr rfl) (.inl (within.switches (by simp [Action.licence]))) rfl rfl rfl
  | weighting =>
    simp only [State.handleEscRequest, escWeighting]
    split
    · exact refl state
    · exact (adjusted _).trans (cwSetWeighting _ _)
  | cwdevice =>
    exact escCwdevice (within.replaces (by simp [Action.licence])) (within.renames (by simp [Action.licence])) world
      payload state
  | port => exact refl state
  | pttState => exact paramsPttOnOff payload fun asks => raises fun lost => ⟨lost, asks⟩
  | ssbWay =>
    simp only [State.handleEscRequest, escSsbWay]
    split
    · exact refl state
    · split
      case h_1 current => exact record (.deviceSsbway .lp _) state (.inr current.symm) rfl fun _ _ => rfl
      case h_2 => exact refl state
      case h_3 => exact refl state
  | tune =>
    simp only [State.handleEscRequest, escTune]
    split
    · exact refl state
    · rename_i seconds valid
      have asks (positive : 0 < seconds.toNat) : (paramsTune payload).any (0 < ·) = true := by
        rw [valid, Option.any_some, decide_eq_true_eq]
        omega
      exact tune (within.flushes (by simp [Action.licence])) world _ (within.sounds ∘ asks)
        fun positive => raises fun lost => ⟨lost, asks positive⟩
  | txDelay =>
    have delayed (delayMs : Nat) : Works licence state (state.setPttDelayMs delayMs) := adjust (.inr rfl) (.inr rfl) rfl rfl rfl
    simp only [State.handleEscRequest, escTxDelay]
    split
    · exact (delayed _).trans (setPttOff _)
    · exact delayed _
  | bandSwitch =>
    simp only [State.handleEscRequest, escBandSwitch, switchBand]
    split
    · exact refl state
    · split
      · split
        case h_1 current => exact record (.deviceSwitchband .lp _) state (.inr current.symm) rfl fun _ _ => rfl
        case h_2 => exact refl state
        case h_3 => exact refl state
      · exact refl state
  | soundSystem => exact escSoundSystem (within.renews (by simp [Action.licence])) world payload state
  | volume =>
    simp only [State.handleEscRequest, escVolume]
    split
    · exact refl state
    · exact (adjusted _).trans (cwSetVolume _ _)
  | reply => exact prepareReply _ state

/-! ## Start-up -/

theorem ttysOptparse (wired : licence.rewires) {option : Bytes} (current : before.globalCwdevice = .ttys)
    (parsed : before.ttysOptparse option = some after) : Works licence before after := by
  have assigned (lines : TtyDriverOptions) :
      Works licence before (before.setDevice .ttys { before.devices .ttys with ttyOptions := lines }) :=
    setDevice .ttys _ before rfl (.inr rfl) (.inr rfl) (.inl wired)
  obtain ⟨lines, -, rfl | rfl⟩ := ttysOptparse_cases parsed
  · exact (assigned _).trans (deviceCw .ttys false (.inr current.symm))
  · exact (assigned _).trans (devicePtt .ttys false (.inr current.symm) (by simp))

theorem argsProcess (replaced : licence.replaces) (renamed : licence.renames) (wired : licence.rewires) {world : World} {arg : Arg}
    (processed : before.argsProcess world arg = some after) : Works licence before after := by
  rcases argsProcess_cases processed with ⟨name, -, selected⟩ | ⟨option, -, current, parsed⟩ | ⟨-, -, _, _, _, rfl⟩
  · have works : Works licence before (before.optionCwdevice world name).2 := optionCwdevice replaced renamed world name before
    rwa [selected] at works
  · exact ttysOptparse wired current parsed
  · exact adjust (.inr rfl) (.inr rfl) rfl rfl rfl

theorem argsProcessAll (replaced : licence.replaces) (renamed : licence.renames) (wired : licence.rewires) {args : List (World × Arg)}
    (processed : State.argsProcessAll args before = some after) : Works licence before after :=
  argsProcessAll_relates (Works licence) refl trans (fun _ _ _ _ => argsProcess replaced renamed wired) processed

theorem start {args : List (World × Arg)} {world : World} (started : Cwdaemon.start args world = some state) :
    Works .startup initialState state := by
  obtain ⟨configured, all, -, -, rfl⟩ := start_cases started
  have args : Works .startup initialState configured := argsProcessAll trivial trivial trivial all
  have reset : Works .startup configured (configured.resetAlmostAll world).2 := resetAlmostAll trivial world configured
  exact (args.trans reset).trans (adjust (.inr rfl) (.inr rfl) rfl rfl rfl)

end Works

/-! ## The keyed device -/

/-- libcw keys the current device or none. -/
def Linked (state : State) : Prop :=
  state.libcw.keyingCallback = none ∨ state.libcw.keyingCallback = some state.globalCwdevice

variable {before after state : State}

theorem Linked.sameOutput (linked : before.Linked) (same : SameOutput before after) : after.Linked := by
  unfold Linked
  rw [same.keyingCallback, same.globalCwdevice]
  exact linked

theorem linked_cwRegisterKeyingCallback {device : DeviceType} (current : device = state.globalCwdevice) :
    (state.cwRegisterKeyingCallback (some device)).Linked := .inr (congrArg some current)

theorem openLibcwOutput_callback (world : World) (audioSystem : AudioSystem) (state : State) :
    (state.openLibcwOutput world audioSystem).2.libcw.keyingCallback = state.libcw.keyingCallback := by
  obtain ⟨success, generator, log, equal, -⟩ := openLibcwOutput_eq world audioSystem state
  rw [equal]
  rfl

/-- Closing the output takes the callback away. -/
theorem closeLibcwOutput_callback (state : State) : state.closeLibcwOutput.libcw.keyingCallback = none := by
  obtain ⟨log, closed⟩ := state.closeLibcwOutput_eq
  rw [closed]
  rfl

theorem linked_resetAlmostAll (world : World) (state : State) : (state.resetAlmostAll world).2.Linked := by
  have closed := closeLibcwOutput_callback { state with current := state.defaults }
  have opened := openLibcwOutput_callback world
    ({ state with current := state.defaults } : State).closeLibcwOutput.defaults.audioSystem
    ({ state with current := state.defaults } : State).closeLibcwOutput
  simp only [resetAlmostAll, resetLibcwOutput_configured]
  generalize State.openLibcwOutput world _ _ = output at opened ⊢
  obtain ⟨success, after⟩ := output
  cases success with
  | true => exact linked_cwRegisterKeyingCallback rfl
  | false => exact .inl (opened.trans closed)

theorem linked_escSoundSystem (linked : state.Linked) (world : World) (payload : Bytes) :
    (state.escSoundSystem world payload).Linked := by
  cases valid : paramsSystem payload with
  | none =>
    simp only [escSoundSystem, valid]
    exact linked
  | some system =>
    have none (state : State) (unkeyed : state.libcw.keyingCallback = none) :
        (state.openOrFallBack world).libcw.keyingCallback = none := by
      have opened := openLibcwOutput_callback world state.current.audioSystem state
      have fallen := openLibcwOutput_callback world .null
        (state.openLibcwOutput world state.current.audioSystem).2.closeLibcwOutput
      simp only [openOrFallBack]
      split
      · exact opened.trans unkeyed
      · split
        · exact fallen.trans (closeLibcwOutput_callback _)
        · exact fallen.trans (closeLibcwOutput_callback _)
    rw [escSoundSystem_configured valid]
    simp only
    split
    · have set (state : State) : Works .none state (state.configured state.current) := .configured _ state
      exact linked_cwRegisterKeyingCallback ((set _).globalCwdevice id).symm
    · exact .inl (none _ (closeLibcwOutput_callback _))

theorem linked_escCwdevice (world : World) (payload : Bytes) (state : State) :
    (state.escCwdevice world payload).Linked := by
  rcases escCwdevice_cases world payload state with ⟨-, log, equal⟩ | ⟨-, devices, log, equal, -⟩
  · rw [equal]
    exact .inl rfl
  · rw [equal]
    cases stored : world.strdup with
    | true => exact .inr rfl
    | false => exact .inl rfl

theorem Linked.act (linked : state.Linked) (wellformed : state.Wellformed) (world : World) (input : Input) :
    (state.act world input.action).Linked := by
  have exits (code : Int) : (state.exitProcess code).Linked := by
    obtain ⟨devices, log, ended⟩ := exitProcess_eq code state
    rw [ended]
    exact .inl rfl
  cases action : input.action with
  | idle => exact linked
  | text request =>
    obtain ⟨nulFree, length⟩ := Input.action_text_bounds action
    exact linked.sameOutput (.receiveText wellformed world nulFree length)
  | dequeue => exact linked.sameOutput (.served (served_dequeue state))
  | key on => exact linked.sameOutput (sameOutput_keyingevent on state)
  | exit => exact exits 1
  | request request payload =>
    by_cases staying : request ≠ .reset ∧ request ≠ .exit ∧ request ≠ .cwdevice ∧ request ≠ .soundSystem
    · exact linked.sameOutput (sameOutput_handleEscRequest world payload state staying)
    cases request with
    | reset =>
      have reset := linked_resetAlmostAll world state.clearRequestQueue
      obtain ⟨devices, log, equal⟩ := escReset_resetAlmostAll world state
      simp only [State.act, handleEscRequest, equal]
      exact reset
    | soundSystem => exact linked_escSoundSystem linked world payload
    | cwdevice => exact linked_escCwdevice world payload state
    | exit => exact exits 0
    | speed | tone | abort | wordMode | weighting | port | pttState | ssbWay | tune | txDelay | bandSwitch | volume
    | reply => exact absurd (by simp) staying

theorem Linked.step (label : Label) (linked : state.Linked) (wellformed : state.Wellformed) :
    (state.step label).Linked := by
  by_cases running : state.status = .running
  · have ready := linked.sameOutput (sameOutput_ready label.input state)
    rw [step_eq label running]
    exact (ready.act (wellformed.ready label.input) label.world label.input).sameOutput
      (sameOutput_finish label.world label.input _)
  · rw [step_ended label running]
    exact linked

/-! ## Steps -/

theorem Works.ready (input : Input) (state : State) : Works .none { state with log := [] } (state.ready input) := by
  obtain ⟨seconds, counted⟩ := countInactivity_eq { state with log := [] }
  cases input with
  | datagram client bytes =>
    have waited : Works .none { state with log := [] } { state with inactivitySeconds := seconds, log := [] } :=
      adjust (.inr rfl) (.inr rfl) rfl rfl rfl
    have addressed : Works .none { state with log := [] }
        { state with inactivitySeconds := seconds, requestAddr := client, log := [] } :=
      waited.trans (adjust (.inr rfl) (.inr rfl) rfl rfl rfl)
    simp only [State.ready, counted, arrive]
    cases requestOf bytes with
    | none => exact addressed
    | some request => exact addressed.trans (record _ _ trivial rfl fun _ _ => rfl)
  | timeout | receiveError =>
    simp only [State.ready, counted]
    exact adjust (.inr rfl) (.inr rfl) rfl rfl rfl
  | dequeue | key => exact refl _

theorem Works.finish (world : World) (input : Input) (state : State) :
    Works (.polling world) state (state.finish world input) := by
  have polled : Works (.polling world) state (state.pollFootswitch world) := by
    unfold pollFootswitch
    split
    case h_1 current => exact devicePtt .lp (!world.footswitch) (.inr current.symm) (by simp [Licence.polling])
    case h_2 => exact refl state
    case h_3 => exact refl state
  cases input with
  | datagram | timeout | receiveError =>
    simp only [State.finish]
    split
    · exact polled
    · exact refl state
  | dequeue | key => exact refl state

theorem Works.finished (works : Works .none before after) (world : World) (input : Input) :
    Works (.polling world) before (after.finish world input) :=
  (works.mono (Licence.none_within _)).trans (.finish world input after)

theorem Works.keyingevent {licence : Licence} (on : Bool) (linked : licence.replaces ∨ state.Linked) :
    Works licence state (state.keyingevent on) := by
  unfold State.keyingevent
  split
  · exact refl state
  · rename_i device keyed
    have current : licence.replaces ∨ device = state.globalCwdevice := by
      refine linked.imp_right fun linked => ?_
      rcases linked with none | current
      · rw [none] at keyed
        cases keyed
      · exact Option.some.inj (keyed.symm.trans current)
    exact (deviceCw device on current).trans (adjust (.inr rfl) (.inr rfl) rfl rfl rfl)

theorem Works.act {licence : Licence} (world : World) {action : Action} (linked : licence.replaces ∨ state.Linked)
    (within : (action.licence state).Within licence) : Works licence state (state.act world action) := by
  cases action with
  | idle => exact refl state
  | request request payload => exact handleEscRequest world payload state within
  | text request => exact receiveText world request within.sounds within.raises
  | exit => exact exitProcess (within.renews (.inl rfl)) (within.replaces (.inl rfl)) 1 state
  | dequeue =>
    by_cases started : state.output = .started
    · exact dequeue (.inl (within.sounds started))
    · exact dequeue (.inr started)
  | key on => exact keyingevent on linked

/-- What closes the current cwdevice for no other one ends the daemon. -/
theorem act_of_replaces (world : World) {action : Action} (replaces : (action.licence state).replaces)
    (other : ∀ payload, action ≠ .request .cwdevice payload) : ∃ code, state.act world action = state.exitProcess code := by
  rcases replaces with rfl | ⟨payload, rfl | rfl⟩
  · exact ⟨1, rfl⟩
  · exact absurd rfl (other payload)
  · exact ⟨0, rfl⟩

/-- A step does no more than its action is licensed to. -/
theorem Works.step {licence : Licence} (label : Label) (linked : licence.replaces ∨ state.Linked)
    (within : (label.licence state).Within licence) : Works licence { state with log := [] } (state.step label) := by
  by_cases running : state.status = .running
  · have ready := (Works.ready label.input state).mono (Licence.none_within licence)
    have linked' : licence.replaces ∨ (state.ready label.input).Linked :=
      linked.imp_right fun linked => linked.sameOutput (sameOutput_ready label.input state)
    rw [step_eq label running]
    have acts := act label.world linked' ((label.action_within_licence state).trans within)
    exact (ready.trans acts).trans ((Works.finish label.world label.input _).mono ((label.polling_within_licence state).trans within))
  · rw [step_ended label running]
    exact refl _

end State

theorem Reachable.linked {state : State} (reachable : Reachable state) : state.Linked := by
  obtain ⟨initial, labels, ⟨args, world, started⟩, rfl⟩ := reachable
  have linked : initial.Linked := .inr (by rw [(start_defaults started).2.2.1])
  have preserved (label : Label) (state : State) (invariant : state.Wellformed ∧ state.Linked) :
      (state.step label).Wellformed ∧ (state.step label).Linked :=
    ⟨invariant.1.step label, invariant.2.step label invariant.1⟩
  exact (Runs.run_preserves preserved labels ⟨Started.wellformed ⟨args, world, started⟩, linked⟩).2

end Cwdaemon
