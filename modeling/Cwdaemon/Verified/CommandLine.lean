import Cwdaemon.Foundations.Commuting
import Cwdaemon.Daemon.CommandLine
import Cwdaemon.Verified.Startup

/-! # What a command line does

Options for different things may be given in any order, and of the options that set one
thing the last one decides.  A process that reaches its main loop is a started daemon.
-/

namespace Cwdaemon

open CString Commuting

/-! ## Parts of the setup -/

/-- A variable that options set. -/
inductive Setting where
  | networkPort
  | processPriority
  | morseSpeed
  | pttDelay
  | morseVolume
  | weighting
  | morseTone
  | audioSystem
  | forking
  | logThreshold
  | libcwDebugFlags
  | debugFilePath
  deriving DecidableEq, Repr

def Setting.Value : Setting → Type
  | networkPort | processPriority | morseSpeed | morseVolume | weighting | morseTone => Int
  | pttDelay | logThreshold => Nat
  | audioSystem => AudioSystem
  | forking => Bool
  | libcwDebugFlags => BitVec 32
  | debugFilePath => Option Bytes

namespace Setup

def modifyDefaults (change : Params → Params) (setup : Setup) : Setup :=
  { setup with daemon := setup.daemon.setDefaults (change setup.daemon.defaults) }

def modify : (setting : Setting) → (setting.Value → setting.Value) → Setup → Setup
  | .networkPort, change, setup =>
    { setup with daemon := { setup.daemon with networkPort := change setup.daemon.networkPort } }
  | .processPriority, change, setup =>
    { setup with daemon := { setup.daemon with processPriority := change setup.daemon.processPriority } }
  | .morseSpeed, change, setup =>
    setup.modifyDefaults fun defaults => { defaults with morseSpeed := change defaults.morseSpeed }
  | .pttDelay, change, setup =>
    setup.modifyDefaults fun defaults => { defaults with pttDelayMs := change defaults.pttDelayMs }
  | .morseVolume, change, setup =>
    setup.modifyDefaults fun defaults => { defaults with morseVolume := change defaults.morseVolume }
  | .weighting, change, setup =>
    setup.modifyDefaults fun defaults => { defaults with weighting := change defaults.weighting }
  | .morseTone, change, setup =>
    setup.modifyDefaults fun defaults => { defaults with morseTone := change defaults.morseTone }
  | .audioSystem, change, setup =>
    setup.modifyDefaults fun defaults => { defaults with audioSystem := change defaults.audioSystem }
  | .forking, change, setup => { setup with forking := change setup.forking }
  | .logThreshold, change, setup => { setup with logThreshold := change setup.logThreshold }
  | .libcwDebugFlags, change, setup => { setup with libcwDebugFlags := change setup.libcwDebugFlags }
  | .debugFilePath, change, setup => { setup with debugFilePath := change setup.debugFilePath }

theorem modify_comm {first second : Setting} (different : first ≠ second) (change : first.Value → first.Value)
    (change' : second.Value → second.Value) (setup : Setup) :
    (setup.modify first change).modify second change' = (setup.modify second change').modify first change := by
  cases first <;> cases second <;> first | rfl | exact absurd rfl different

theorem modify_modify (setting : Setting) (change change' : setting.Value → setting.Value) (setup : Setup) :
    (setup.modify setting change).modify setting change' = setup.modify setting (change' ∘ change) := by
  cases setting <;> rfl

end Setup

namespace State

/-! ## Devices and settings -/

/-- The variables of the daemon that options for a cwdevice do not touch. -/
def withSettings (defaults : Params) (networkPort processPriority : Int) (state : State) : State :=
  { state with defaults := defaults, networkPort := networkPort, processPriority := processPriority }

variable (defaults : Params) (networkPort processPriority : Int) (state : State)

@[simp] theorem withSettings_devices :
    (state.withSettings defaults networkPort processPriority).devices = state.devices := rfl

@[simp] theorem withSettings_globalCwdevice :
    (state.withSettings defaults networkPort processPriority).globalCwdevice = state.globalCwdevice := rfl

@[simp] theorem record_withSettings (call : Call) :
    (state.withSettings defaults networkPort processPriority).record call =
      (state.record call).withSettings defaults networkPort processPriority := rfl

@[simp] theorem setDevice_withSettings (type : DeviceType) (device : Cwdevice) :
    (state.withSettings defaults networkPort processPriority).setDevice type device =
      (state.setDevice type device).withSettings defaults networkPort processPriority := rfl

@[simp] theorem ttysLines_withSettings (on : Bool) (mask : BitVec 32) :
    (state.withSettings defaults networkPort processPriority).ttysLines on mask =
      (state.ttysLines on mask).withSettings defaults networkPort processPriority := by
  unfold ttysLines
  split <;> rfl

@[simp] theorem deviceCw_withSettings (type : DeviceType) (on : Bool) :
    (state.withSettings defaults networkPort processPriority).deviceCw type on =
      (state.deviceCw type on).withSettings defaults networkPort processPriority := by
  cases type <;> simp [deviceCw]

@[simp] theorem devicePtt_withSettings (type : DeviceType) (on : Bool) :
    (state.withSettings defaults networkPort processPriority).devicePtt type on =
      (state.devicePtt type on).withSettings defaults networkPort processPriority := by
  cases type <;> simp [devicePtt]

@[simp] theorem deviceResetPinsState_withSettings (type : DeviceType) :
    (state.withSettings defaults networkPort processPriority).deviceResetPinsState type =
      (state.deviceResetPinsState type).withSettings defaults networkPort processPriority := by
  cases type <;> simp [deviceResetPinsState]

@[simp] theorem deviceFree_withSettings (type : DeviceType) :
    (state.withSettings defaults networkPort processPriority).deviceFree type =
      (state.deviceFree type).withSettings defaults networkPort processPriority := by
  cases type <;> simp [deviceFree]

@[simp] theorem deviceInit_withSettings (type : DeviceType) (fd : Int) :
    (state.withSettings defaults networkPort processPriority).deviceInit type fd =
      (state.deviceInit type fd).withSettings defaults networkPort processPriority := by
  cases type <;> simp [deviceInit]

@[simp] theorem setDesc_withSettings (type : DeviceType) (desc : Option Bytes) :
    (state.withSettings defaults networkPort processPriority).setDesc type desc =
      (state.setDesc type desc).withSettings defaults networkPort processPriority := rfl

theorem adoptCwdevice_withSettings (world : World) (type : DeviceType) (fd : Int) (desc : Bytes) :
    (state.withSettings defaults networkPort processPriority).adoptCwdevice world type fd desc =
      ((state.adoptCwdevice world type fd desc).1,
        (state.adoptCwdevice world type fd desc).2.withSettings defaults networkPort processPriority) := by
  have selected : { state.withSettings defaults networkPort processPriority with globalCwdevice := type } =
      { state with globalCwdevice := type }.withSettings defaults networkPort processPriority := rfl
  have closed := congrArg (deviceFree state.globalCwdevice) selected
  rw [deviceFree_withSettings] at closed
  simp only [adoptCwdevice, withSettings_globalCwdevice, closed, setDesc_withSettings, deviceInit_withSettings]
  split <;> rfl

theorem optionCwdevice_withSettings (world : World) (name : Bytes) :
    (state.withSettings defaults networkPort processPriority).optionCwdevice world name =
      ((state.optionCwdevice world name).1,
        (state.optionCwdevice world name).2.withSettings defaults networkPort processPriority) := by
  unfold optionCwdevice cwdeviceSet
  split
  · rfl
  · split
    · exact adoptCwdevice_withSettings ..
    · split
      · split
        · rfl
        · exact adoptCwdevice_withSettings ..
      · exact adoptCwdevice_withSettings ..

theorem paramsOptions_withSettings (option : Bytes) :
    (state.withSettings defaults networkPort processPriority).paramsOptions option =
      (state.paramsOptions option).map (·.withSettings defaults networkPort processPriority) := by
  unfold paramsOptions
  rw [withSettings_globalCwdevice]
  split
  case h_1 =>
    simp only [ttysOptparse, withSettings_devices]
    rcases optparse option (state.devices .ttys).ttyOptions with ⟨_ | _, dropt⟩
    · rfl
    · simp only
      split <;> simp
  case h_2 | h_3 => rfl

/-- The step does not touch these variables, and does not depend on them. -/
def IgnoresSettings (step : State → Option State) : Prop :=
  ∀ defaults networkPort processPriority state,
    step (state.withSettings defaults networkPort processPriority) =
      (step state).map (·.withSettings defaults networkPort processPriority)

theorem IgnoresSettings.keeps {step : State → Option State} (ignores : IgnoresSettings step) {state after : State}
    (stepped : step state = some after) :
    after = after.withSettings state.defaults state.networkPort state.processPriority := by
  have same := ignores state.defaults state.networkPort state.processPriority state
  rw [stepped] at same
  exact Option.some.inj (stepped.symm.trans same)

end State

open State

/-! ## Kinds of options -/

inductive OptionKind where
  | cwdevice
  | setting (setting : Setting)
  | information
  deriving DecidableEq, Repr

def CommandLineOption.kind : CommandLineOption → OptionKind
  | .configure (.cwdevice _) | .configure (.options _) => .cwdevice
  | .configure (.port _) => .setting .networkPort
  | .configure (.priority _) => .setting .processPriority
  | .configure (.wpm _) => .setting .morseSpeed
  | .configure (.pttdelay _) => .setting .pttDelay
  | .configure (.volume _) => .setting .morseVolume
  | .configure (.weighting _) => .setting .weighting
  | .configure (.tone _) => .setting .morseTone
  | .configure (.system _) => .setting .audioSystem
  | .nofork => .setting .forking
  | .incVerbosity | .verbosity _ => .setting .logThreshold
  | .libcwflags _ => .setting .libcwDebugFlags
  | .debugfile _ => .setting .debugFilePath
  | .version | .help => .information

section

variable {world : World} {option : CommandLineOption} {setting : Setting}

theorem toOption_orFailure {Value : Type} (value : Option Value) : (orFailure value).toOption = value := by
  cases value <;> rfl

/-- Only an accepted PTT delay is stored, and it does not depend on the one before. -/
theorem paramsPttdelay_eq (delayMs : Nat) (value : Bytes) :
    paramsPttdelay delayMs value =
      ((paramsPttdelay 0 value).1, if (paramsPttdelay 0 value).1 = 0 then delayMs else (paramsPttdelay 0 value).2) := by
  unfold paramsPttdelay
  split
  · rfl
  · split
    · rfl
    · split <;> rfl

theorem configure_assigns {arg : Arg} {accepted : Option setting.Value} {store : setting.Value → State → State}
    (processed : ∀ state : State, state.argsProcess world arg = accepted.map (store · state))
    (silent : ∀ value (state : State), (store value state).log = state.log)
    (stored : ∀ value (setup : Setup),
      { setup with daemon := store value setup.daemon } = setup.modify setting fun _ => value) :
    ∃ accepted : Option setting.Value, ∀ setup : Setup, (setup.argsProcess world (.configure arg)).toOption =
      accepted.map fun value => setup.modify setting fun _ => value := by
  refine ⟨accepted, fun setup => ?_⟩
  -- No driver is asked for anything.
  have attempted : setup.daemon.argsAttempt world arg = accepted.map (store · setup.daemon) := by
    unfold argsAttempt
    rw [processed]
    cases accepted with
    | none => rfl
    | some value => simp [silent, World.cut]
  rw [Setup.argsProcess, toOption_orFailure, attempted, Option.map_map]
  exact congrArg (accepted.map ·) (funext fun value => stored value setup)

/-- An option for a setting checks its value and stores it. -/
theorem argsProcess_assigns (world : World) (kind : option.kind = .setting setting)
    (absolute : option ≠ .incVerbosity) :
    ∃ accepted : Option setting.Value, ∀ setup : Setup,
      (setup.argsProcess world option).toOption = accepted.map fun value => setup.modify setting fun _ => value := by
  cases option with
  | configure arg =>
    cases arg <;> cases kind
    case port.refl value => exact configure_assigns (fun _ => rfl) (fun _ _ => rfl) fun _ _ => rfl
    case priority.refl value => exact configure_assigns (fun _ => rfl) (fun _ _ => rfl) fun _ _ => rfl
    case wpm.refl value => exact configure_assigns (fun _ => rfl) (fun _ _ => rfl) fun _ _ => rfl
    case pttdelay.refl value =>
      have processed (state : State) : state.argsProcess world (.pttdelay value) =
          (if (paramsPttdelay 0 value).1 = 1 then some (paramsPttdelay 0 value).2 else none).map fun delayMs =>
            state.setDefaults { state.defaults with pttDelayMs := delayMs } := by
        rw [State.argsProcess, paramsPttdelay_eq]
        by_cases accepted : (paramsPttdelay 0 value).1 = 1
        · simp [accepted]
        · simp [accepted]
      exact configure_assigns processed (fun _ _ => rfl) fun _ _ => rfl
    case volume.refl value => exact configure_assigns (fun _ => rfl) (fun _ _ => rfl) fun _ _ => rfl
    case weighting.refl value => exact configure_assigns (fun _ => rfl) (fun _ _ => rfl) fun _ _ => rfl
    case tone.refl value => exact configure_assigns (fun _ => rfl) (fun _ _ => rfl) fun _ _ => rfl
    case system.refl value => exact configure_assigns (fun _ => rfl) (fun _ _ => rfl) fun _ _ => rfl
  | nofork =>
    cases kind
    exact ⟨some false, fun _ => rfl⟩
  | version | help => cases kind
  | incVerbosity => exact absurd rfl absolute
  | verbosity value =>
    cases kind
    exact ⟨optionSetVerbosity value, fun setup => toOption_orFailure _⟩
  | libcwflags value =>
    cases kind
    exact ⟨optionLibcwflags value, fun setup => toOption_orFailure _⟩
  | debugfile value =>
    cases kind
    refine ⟨(paramsDebugfile world value).map some, fun setup => ?_⟩
    rw [Setup.argsProcess, toOption_orFailure]
    cases paramsDebugfile world value <;> rfl

theorem argsProcess_setting (world : World) (kind : option.kind = .setting setting) :
    ∃ change : Option (setting.Value → setting.Value), ∀ setup : Setup,
      (setup.argsProcess world option).toOption = change.map (setup.modify setting ·) := by
  by_cases absolute : option = .incVerbosity
  · subst absolute
    cases kind
    exact ⟨some optionIncVerbosity, fun _ => rfl⟩
  · obtain ⟨accepted, assigned⟩ := argsProcess_assigns world kind absolute
    refine ⟨accepted.map fun value _ => value, fun setup => ?_⟩
    rw [assigned, Option.map_map]
    rfl

theorem argsProcess_information (kind : option.kind = .information) (setup : Setup) :
    (setup.argsProcess world option).toOption = none := by
  cases option with
  | configure arg => cases arg <;> cases kind
  | version | help => rfl
  | nofork | incVerbosity | verbosity | libcwflags | debugfile => cases kind

/-- An option for a cwdevice acts on the daemon's cwdevices alone. -/
theorem argsProcess_cwdevice (world : World) (kind : option.kind = .cwdevice) :
    ∃ step, IgnoresSettings step ∧ ∀ setup : Setup,
      (setup.argsProcess world option).toOption =
        (step setup.daemon).map fun daemon => { setup with daemon := daemon } := by
  cases option with
  | configure arg =>
    have ignores : IgnoresSettings (·.argsProcess world arg) := by
      intro defaults networkPort processPriority state
      cases arg <;> cases kind
      case cwdevice.refl name =>
        simp only [State.argsProcess, optionCwdevice_withSettings]
        split <;> rfl
      case options.refl option => exact paramsOptions_withSettings ..
    refine ⟨(·.argsAttempt world arg), fun defaults networkPort processPriority state => ?_, fun setup =>
      toOption_orFailure _⟩
    have processed := ignores defaults networkPort processPriority state
    simp only [argsAttempt] at processed ⊢
    rw [processed, Option.filter_map]
    rfl
  | nofork | version | help | incVerbosity | verbosity | libcwflags | debugfile => cases kind

/-- Such a step can be taken before a setting is changed, or after. -/
theorem modify_step {step : State → Option State} (ignores : IgnoresSettings step) (setting : Setting)
    (change : setting.Value → setting.Value) (setup : Setup) :
    ((step (setup.modify setting change).daemon).map fun daemon =>
        { setup.modify setting change with daemon := daemon }) =
      (step setup.daemon).map fun daemon => { setup with daemon := daemon }.modify setting change := by
  have changed : (setup.modify setting change).daemon = setup.daemon.withSettings
      (setup.modify setting change).daemon.defaults (setup.modify setting change).daemon.networkPort
      (setup.modify setting change).daemon.processPriority := by
    cases setting <;> rfl
  rw [changed, ignores]
  cases stepped : step setup.daemon with
  | none => rfl
  | some after =>
    rw [ignores.keeps stepped]
    cases setting <;> rfl

end

/-! ## The order of options -/

/-- An option and the world at its time. -/
abbrev TimedOption := World × CommandLineOption

def TimedOption.kind (option : TimedOption) : OptionKind := option.2.kind

/-- What an option does to the setup, when it is accepted. -/
def Setup.accept (setup : Setup) (option : TimedOption) : Option Setup :=
  (setup.argsProcess option.1 option.2).toOption

theorem accept_information {option : TimedOption} (information : option.kind = .information) (setup : Setup) :
    setup.accept option = none := argsProcess_information information setup

/-- An option for something else can be processed before a setting is changed, or after. -/
theorem accept_modify {option : TimedOption} {setting : Setting} (other : option.kind ≠ .setting setting)
    (change : setting.Value → setting.Value) (setup : Setup) :
    (setup.modify setting change).accept option = (setup.accept option).map (·.modify setting change) := by
  cases kind : option.kind with
  | information => rw [accept_information kind, accept_information kind, Option.map_none]
  | cwdevice =>
    obtain ⟨step, ignores, stepped⟩ := argsProcess_cwdevice option.1 kind
    simp only [Setup.accept, stepped, Option.map_map]
    exact modify_step ignores setting change setup
  | setting setting' =>
    obtain ⟨change', changed⟩ := argsProcess_setting option.1 kind
    simp only [Setup.accept, changed, Option.map_map]
    refine congrArg (change'.map ·) (funext fun change' => ?_)
    exact setup.modify_comm (fun same => other (by rw [kind, same])) change change'

theorem commute_information {first second : TimedOption} (information : first.kind = .information) :
    Commute Setup.accept first second := by
  intro setup
  rw [accept_information information]
  cases setup.accept second with
  | none => rfl
  | some after => exact (accept_information information after).symm

theorem commute_setting {first second : TimedOption} {setting : Setting} (kind : second.kind = .setting setting)
    (other : first.kind ≠ .setting setting) : Commute Setup.accept first second := by
  obtain ⟨change, changed⟩ := argsProcess_setting second.1 kind
  have accepted (setup : Setup) : setup.accept second = change.map (setup.modify setting ·) := changed setup
  intro setup
  rw [accepted]
  cases change with
  | none => cases setup.accept first <;> simp [accepted]
  | some change =>
    rw [Option.map_some, Option.bind_some, accept_modify other, Option.map_eq_bind]
    exact congrArg ((setup.accept first).bind ·) (funext accepted)

theorem accept_byKind : ByKind Setup.accept TimedOption.kind := by
  intro first second different
  cases kind : second.kind with
  | setting setting => exact commute_setting kind (kind ▸ different)
  | information => exact (commute_information kind).symm
  | cwdevice =>
    cases kind' : first.kind with
    | setting setting => exact (commute_setting kind' (kind' ▸ different.symm)).symm
    | information => exact commute_information kind'
    | cwdevice => exact absurd (kind'.trans kind.symm) different

/-! ## A setting that is set again -/

namespace Setup

/-- The setups do not differ once the setting has this value. -/
def AgreeUpTo (setting : Setting) (value : setting.Value) (setup setup' : Setup) : Prop :=
  (setup.modify setting fun _ => value) = setup'.modify setting fun _ => value

end Setup

open Setup

variable {option : TimedOption} {setting : Setting} {value : setting.Value}

theorem agreeUpTo_of_accept (kind : option.kind = .setting setting) {setup after : Setup}
    (accepted : setup.accept option = some after) : AgreeUpTo setting value after setup := by
  obtain ⟨change, changed⟩ := argsProcess_setting option.1 kind
  rw [Setup.accept, changed, Option.map_eq_some_iff] at accepted
  obtain ⟨change, -, rfl⟩ := accepted
  exact setup.modify_modify ..

theorem preserves_agreeUpTo (option : TimedOption) :
    Preserves Setup.accept (AgreeUpTo setting value) option := by
  intro setup setup' after agree accepted
  by_cases kind : option.kind = .setting setting
  · obtain ⟨change, changed⟩ := argsProcess_setting option.1 kind
    simp only [Setup.accept, changed, Option.map_eq_some_iff] at accepted ⊢
    obtain ⟨change, found, rfl⟩ := accepted
    refine ⟨_, ⟨change, found, rfl⟩, ?_⟩
    unfold AgreeUpTo
    rw [modify_modify, modify_modify]
    exact agree
  · -- The value is stored before the option is processed, and there the setups are the same.
    have commuted := accept_modify kind (fun _ => value) setup
    have commuted' := accept_modify kind (fun _ => value) setup'
    rw [← agree, commuted, accepted, Option.map_some] at commuted'
    obtain ⟨after', accepted', same⟩ := Option.map_eq_some_iff.mp commuted'.symm
    exact ⟨after', accepted', same.symm⟩

theorem equates_agreeUpTo
    (stores : ∀ setup : Setup, setup.accept option = some (setup.modify setting fun _ => value)) :
    Equates Setup.accept (AgreeUpTo setting value) option := by
  intro setup setup' after agree accepted
  rw [stores] at accepted ⊢
  exact (congrArg some agree).symm.trans accepted

/-! ## The way to the main loop -/

theorem toOption_argsParse (commandLine : CommandLine) (setup : Setup) :
    (setup.argsParse commandLine).toOption =
      (commandLine.options.foldlM Setup.accept setup).bind fun setup =>
        if commandLine.tokens ≠ [] then none
        else if setup.daemon.globalCwdevice = .ttys ∧ setup.daemon.ttysOptvalidate = false then none
        else some setup := by
  have processed := toOption_foldlM (fun setup (option : TimedOption) => setup.argsProcess option.1 option.2)
    commandLine.options setup
  unfold Setup.argsParse Setup.argsProcessLong
  cases outcome : commandLine.options.foldlM
      (fun setup (option : TimedOption) => setup.argsProcess option.1 option.2) setup with
  | error status =>
    rw [outcome] at processed
    rw [show commandLine.options.foldlM Setup.accept setup = none from processed.symm]
    rfl
  | ok after =>
    rw [outcome] at processed
    rw [show commandLine.options.foldlM Setup.accept setup = some after from processed.symm, Option.bind_some]
    by_cases left : commandLine.tokens ≠ []
    · simp [left, Except.toOption]
    · by_cases invalid : after.daemon.globalCwdevice = .ttys ∧ after.daemon.ttysOptvalidate = false
      · simp [left, invalid, Except.toOption]
      · simp [left, invalid, Except.toOption]

theorem argsParse_ok_iff {commandLine : CommandLine} {setup after : Setup} :
    setup.argsParse commandLine = .ok after ↔
      commandLine.options.foldlM Setup.accept setup = some after ∧ commandLine.tokens = [] ∧
        (after.daemon.globalCwdevice = .ttys → after.daemon.ttysOptvalidate = true) := by
  have parsed := toOption_argsParse commandLine setup
  have accepted : setup.argsParse commandLine = .ok after ↔ (setup.argsParse commandLine).toOption = some after := by
    cases setup.argsParse commandLine <;> simp [Except.toOption]
  rw [accepted, parsed, Option.bind_eq_some_iff]
  constructor
  · rintro ⟨final, processed, checked⟩
    split at checked
    · cases checked
    case isFalse none =>
      split at checked
      · cases checked
      case isFalse valid =>
        cases checked
        exact ⟨processed, not_not.mp none, fun serial => by simpa [serial] using valid⟩
  · rintro ⟨processed, none, valid⟩
    refine ⟨after, processed, ?_⟩
    rw [if_neg (not_not.mpr none), if_neg fun invalid => by simp [valid invalid.1] at invalid]

/-- What it takes to reach the main loop. -/
theorem launch_cases {commandLine : CommandLine} {world : World} {system : System} {launched : Launched}
    (success : launch commandLine world system = .ok launched) :
    ∃ setup, initialSetup.argsParse commandLine = .ok setup ∧
      debugOpen system.fopen setup.forking setup.debugFilePath = .ok launched.debugOutput ∧
      (setup.forking = true → system.fork = .child) ∧ (setup.daemon.resetAlmostAll world).1 = true ∧
      launched.setup = { setup with daemon := (setup.daemon.resetAlmostAll world).2.clearRequestQueue } ∧
      launched.libcwDebugging =
        if setup.libcwDebugFlags ≠ 0#32 then some (setup.libcwDebugFlags, setLibcwDebugging setup.logThreshold)
        else none := by
  unfold launch at success
  split at success
  · cases success
  split at success
  · cases success
  case h_2 setup parsed =>
    split at success
    · cases success
    case h_2 output opened =>
      have child (failed : ¬ (setup.forking = true ∧ system.fork = .failed))
          (parent : ¬ (setup.forking = true ∧ system.fork = .parent)) (forks : setup.forking = true) :
          system.fork = .child := by
        cases forked : system.fork with
        | failed => exact absurd ⟨forks, forked⟩ failed
        | parent => exact absurd ⟨forks, forked⟩ parent
        | child => rfl
      split at success
      · cases success
      case isFalse failed =>
        split at success
        · cases success
        case isFalse parent =>
          -- Detaching, the socket and the priority can fail before the output of libcw is opened.
          split at success
          · cases success
          split at success
          · cases success
          split at success
          · cases success
          simp only at success
          split at success
          case isTrue available =>
            cases success
            exact ⟨setup, parsed, opened, child failed parent, available, rfl, rfl⟩
          case isFalse => cases success

/-- The process does not look at the command line again. -/
theorem launch_congr {left right : CommandLine} (world : World) (system : System)
    (same : (initialSetup.argsParse left).toOption = (initialSetup.argsParse right).toOption) :
    (launch left world system).toOption = (launch right world system).toOption := by
  unfold launch
  split
  case isTrue => rfl
  cases parsed : initialSetup.argsParse left with
  | error status =>
    cases parsed' : initialSetup.argsParse right with
    | error status' => rfl
    | ok setup' => simp [parsed, parsed', Except.toOption] at same
  | ok setup =>
    cases parsed' : initialSetup.argsParse right with
    | error status' => simp [parsed, parsed', Except.toOption] at same
    | ok setup' =>
      rw [parsed, parsed'] at same
      cases same
      rfl

/-- Options of different kinds can be given in any order: two command lines with the same
options of each kind in the same order, and the same other tokens, bring the daemon into its
main loop in the same state, or neither of them does. -/
theorem order_of_kinds_is_free {left right : CommandLine}
    (same : ∀ kind, ofKind TimedOption.kind kind left.options = ofKind TimedOption.kind kind right.options)
    (tokens : left.tokens = right.tokens) (world : World) (system : System) :
    (launch left world system).toOption = (launch right world system).toOption := by
  apply launch_congr
  rw [toOption_argsParse, toOption_argsParse, accept_byKind.foldlM_eq same, tokens]

/-- A system that refuses nothing. -/
def obliging : System := ⟨true, fun _ => true, .child, true, fun _ => true, fun _ => true⟩

def speedOption (value : Bytes) : TimedOption := (calm, .configure (.wpm value))

def serialPortOption : TimedOption := (calm, .configure (.cwdevice ttyS0))

/-- Speed, cwdevice and foreground, in two orders. -/
theorem speed_before_or_after_cwdevice :
    (launch ⟨[speedOption [byte '3', byte '0'], serialPortOption, (calm, .nofork)], []⟩ calm obliging).toOption =
      (launch ⟨[(calm, .nofork), serialPortOption, speedOption [byte '3', byte '0']], []⟩ calm obliging).toOption := by
  refine order_of_kinds_is_free (fun kind => ?_) rfl calm obliging
  cases kind with
  | cwdevice | information => rfl
  | setting setting => cases setting <;> rfl

/-- An option for a setting can be left out of a command line that is accepted when a later
one stores a value in it, whatever stands between the two and behind them. -/
theorem later_option_supersedes {before between after : List TimedOption} {tokens : List Bytes}
    {option later : TimedOption} {setting : Setting} (kind : option.kind = .setting setting)
    (kind' : later.kind = .setting setting) (absolute : later.2 ≠ .incVerbosity) {world : World} {system : System}
    {launched : Launched}
    (accepted : launch ⟨before ++ option :: (between ++ later :: after), tokens⟩ world system = .ok launched) :
    launch ⟨before ++ (between ++ later :: after), tokens⟩ world system = .ok launched := by
  obtain ⟨setup, parsed, -⟩ := launch_cases accepted
  obtain ⟨processed, none, valid⟩ := argsParse_ok_iff.mp parsed
  have dropped : (before ++ (between ++ later :: after)).foldlM Setup.accept initialSetup = some setup := by
    obtain ⟨stored, assigned⟩ := argsProcess_assigns later.1 kind' absolute
    have member : later ∈ before ++ option :: (between ++ later :: after) := by simp
    obtain ⟨_, _, stores⟩ := accepted_of_mem member processed
    obtain ⟨value, rfl, -⟩ := Option.map_eq_some_iff.mp ((assigned _).symm.trans stores)
    exact foldlM_superseded (agreeUpTo_of_accept kind) (fun other _ => preserves_agreeUpTo other)
      (equates_agreeUpTo assigned) processed
  have parsed' : initialSetup.argsParse ⟨before ++ (between ++ later :: after), tokens⟩ = .ok setup :=
    argsParse_ok_iff.mpr ⟨dropped, none, valid⟩
  have same := launch_congr world system (congrArg Except.toOption (parsed.trans parsed'.symm))
  rw [accepted] at same
  cases launch' : launch ⟨before ++ (between ++ later :: after), tokens⟩ world system with
  | error status => simp [launch', Except.toOption] at same
  | ok launched' =>
    rw [launch'] at same
    cases same
    rfl

def verbosityOption (value : Bytes) : TimedOption := (calm, .verbosity value)

def threeVerbosities : CommandLine := ⟨[verbosityOption [byte 'e'], (calm, .incVerbosity), verbosityOption [byte 'd']], []⟩

/-- The verbosity is set, raised and set again: the first option is left out. -/
theorem second_verbosity_supersedes :
    ∃ launched, launch threeVerbosities calm obliging = .ok launched ∧
      launch ⟨[(calm, .incVerbosity), verbosityOption [byte 'd']], []⟩ calm obliging = .ok launched := by
  have starts : (launch threeVerbosities calm obliging).isOk = true := by decide +kernel
  have storesAValue : CommandLineOption.verbosity [byte 'd'] ≠ .incVerbosity := fun same => by cases same
  cases accepted : launch threeVerbosities calm obliging with
  | error status => simp [accepted, Except.isOk, Except.toBool] at starts
  | ok launched =>
    exact ⟨launched, rfl, @later_option_supersedes [] [(calm, .incVerbosity)] [] [] (verbosityOption [byte 'e'])
      (verbosityOption [byte 'd']) .logThreshold rfl rfl storesAValue _ _ _ accepted⟩

/-! ## The daemon that is started -/

/-- The options that `start` knows. -/
def CommandLine.args (commandLine : CommandLine) : List (World × Arg) :=
  commandLine.options.filterMap fun option =>
    match option.2 with
    | .configure arg => some (option.1, arg)
    | _ => none

/-- What `main()` relies on when it enters its main loop. -/
structure Launched.Consistent (launched : Launched) : Prop where
  output : launched.setup.forking = true → launched.debugOutput ≠ .stdout ∧ launched.debugOutput ≠ .stderr
  threshold : LOG_CRIT ≤ launched.setup.logThreshold ∧ launched.setup.logThreshold ≤ LOG_DEBUG
  debugging : launched.libcwDebugging = none ↔ launched.setup.libcwDebugFlags = 0#32
  silence : ∀ flags level, launched.libcwDebugging = some (flags, level) →
    flags = launched.setup.libcwDebugFlags ∧ (level = .none ↔ launched.setup.logThreshold = LOG_CRIT)

theorem argsProcessAll_of_accept {options : List TimedOption} {setup after : Setup}
    (processed : options.foldlM Setup.accept setup = some after) :
    argsProcessAll (CommandLine.args ⟨options, []⟩) setup.daemon = some after.daemon := by
  induction options generalizing setup with
  | nil =>
    cases processed
    rfl
  | cons option options inductionHypothesis =>
    rw [foldlM_cons, Option.bind_eq_some_iff] at processed
    obtain ⟨next, accepted, processed⟩ := processed
    have rest := inductionHypothesis processed
    obtain ⟨world, option⟩ := option
    cases option with
    | configure arg =>
      simp only [Setup.accept, Setup.argsProcess, toOption_orFailure, Option.map_eq_some_iff] at accepted
      obtain ⟨daemon, attempted, rfl⟩ := accepted
      have accepted := (Option.filter_eq_some_iff.mp attempted).1
      simp only [CommandLine.args, List.filterMap_cons, argsProcessAll, accepted] at rest ⊢
      exact rest
    -- The other options do not touch the state of the daemon.
    | nofork | incVerbosity =>
      cases accepted
      exact rest
    | version | help => cases accepted
    | verbosity value | libcwflags value | debugfile value =>
      simp only [Setup.accept, Setup.argsProcess, toOption_orFailure, Option.map_eq_some_iff] at accepted
      obtain ⟨stored, -, rfl⟩ := accepted
      exact rest

theorem optionSetVerbosity_bounds {value : Bytes} {threshold : Nat} (set : optionSetVerbosity value = some threshold) :
    LOG_CRIT ≤ threshold ∧ threshold ≤ LOG_DEBUG := by
  unfold optionSetVerbosity at set
  split at set
  · cases set
  · simp only at set
    split_ifs at set <;> cases set <;> decide

theorem accept_threshold {option : TimedOption} {setup after : Setup} (accepted : setup.accept option = some after)
    (bounds : LOG_CRIT ≤ setup.logThreshold ∧ setup.logThreshold ≤ LOG_DEBUG) :
    LOG_CRIT ≤ after.logThreshold ∧ after.logThreshold ≤ LOG_DEBUG := by
  obtain ⟨world, option⟩ := option
  cases option with
  | configure arg | libcwflags value | debugfile value =>
    simp only [Setup.accept, Setup.argsProcess, toOption_orFailure, Option.map_eq_some_iff] at accepted
    obtain ⟨stored, -, rfl⟩ := accepted
    exact bounds
  | verbosity value =>
    simp only [Setup.accept, Setup.argsProcess, toOption_orFailure, Option.map_eq_some_iff] at accepted
    obtain ⟨threshold, set, rfl⟩ := accepted
    exact optionSetVerbosity_bounds set
  | incVerbosity =>
    cases accepted
    simp only [optionIncVerbosity]
    split <;> omega
  | nofork =>
    cases accepted
    exact bounds
  | version | help => cases accepted

theorem accept_all_threshold {options : List TimedOption} {setup after : Setup}
    (processed : options.foldlM Setup.accept setup = some after)
    (bounds : LOG_CRIT ≤ setup.logThreshold ∧ setup.logThreshold ≤ LOG_DEBUG) :
    LOG_CRIT ≤ after.logThreshold ∧ after.logThreshold ≤ LOG_DEBUG := by
  induction options generalizing setup with
  | nil =>
    cases processed
    exact bounds
  | cons option options inductionHypothesis =>
    rw [foldlM_cons, Option.bind_eq_some_iff] at processed
    obtain ⟨next, accepted, processed⟩ := processed
    exact inductionHypothesis processed (accept_threshold accepted bounds)

theorem debugOpen_forking {fopen : Bytes → Bool} {path : Option Bytes} {output : DebugOutput}
    (opened : debugOpen fopen true path = .ok output) : output ≠ .stdout ∧ output ≠ .stderr := by
  unfold debugOpen at opened
  split at opened
  · cases opened
  case isFalse free =>
    cases path with
    | none =>
      cases opened
      exact ⟨nofun, nofun⟩
    | some path =>
      simp only [true_and, not_or, Option.some.injEq] at free
      simp only [free.1, free.2, if_false] at opened
      split at opened
      · cases opened
        exact ⟨nofun, nofun⟩
      · cases opened

theorem setLibcwDebugging_none_iff {threshold : Nat} (bounds : LOG_CRIT ≤ threshold ∧ threshold ≤ LOG_DEBUG) :
    setLibcwDebugging threshold = .none ↔ threshold = LOG_CRIT := by
  obtain ⟨low, high⟩ := bounds
  have levels : threshold = LOG_CRIT ∨ threshold = LOG_ERR ∨ threshold = LOG_WARNING ∨ threshold = LOG_NOTICE ∨
      threshold = LOG_INFO ∨ threshold = LOG_DEBUG := by
    simp only [LOG_CRIT, LOG_ERR, LOG_WARNING, LOG_NOTICE, LOG_INFO, LOG_DEBUG] at low high ⊢
    omega
  rcases levels with rfl | rfl | rfl | rfl | rfl | rfl <;> decide

/-- Neither assertion of `cwdaemon_debug_open()` fails. -/
theorem debugOpen_error {fopen : Bytes → Bool} {forking : Bool} {path : Option Bytes} {status : Status}
    (refused : debugOpen fopen forking path = .error status) : status = .exited EXIT_FAILURE := by
  unfold debugOpen at refused
  split at refused
  · cases refused
    rfl
  case isFalse free =>
    cases path with
    | none => cases forking <;> cases refused
    | some path =>
      simp only [Option.some.injEq] at free
      cases forking with
      | false =>
        simp only [Bool.false_eq_true, if_false] at refused
        split_ifs at refused
        all_goals cases refused
        rfl
      | true =>
        simp only [true_and, not_or] at free
        simp only [free.1, free.2, if_false] at refused
        split at refused
        · cases refused
        · cases refused
          rfl

theorem argsProcess_error {world : World} {option : CommandLineOption} {setup : Setup} {status : Status}
    (refused : setup.argsProcess world option = .error status) :
    status = .exited EXIT_FAILURE ∨ option.kind = .information ∧ status = .exited EXIT_SUCCESS := by
  have failure {Value : Type} {value : Option Value} (refused : orFailure value = .error status) :
      status = .exited EXIT_FAILURE := by
    cases value with
    | none =>
      cases refused
      rfl
    | some value => cases refused
  cases option with
  | configure arg => exact .inl (failure refused)
  | verbosity value => exact .inl (failure refused)
  | libcwflags value => exact .inl (failure refused)
  | debugfile value => exact .inl (failure refused)
  | version | help =>
    cases refused
    exact .inr ⟨rfl, rfl⟩
  | nofork | incVerbosity => cases refused

theorem argsParse_error {commandLine : CommandLine} {setup : Setup} {status : Status}
    (refused : setup.argsParse commandLine = .error status) :
    status = .exited EXIT_FAILURE ∨
      (∃ option ∈ commandLine.options, option.2.kind = .information) ∧ status = .exited EXIT_SUCCESS := by
  unfold Setup.argsParse Setup.argsProcessLong at refused
  cases outcome : commandLine.options.foldlM
      (fun setup (option : TimedOption) => setup.argsProcess option.1 option.2) setup with
  | error status' =>
    rw [outcome] at refused
    cases refused
    obtain ⟨option, member, before, refused⟩ := exists_of_foldlM_error outcome
    exact (argsProcess_error refused).imp id fun ⟨kind, exits⟩ => ⟨⟨option, member, kind⟩, exits⟩
  | ok after =>
    rw [outcome] at refused
    by_cases left : commandLine.tokens = []
    · simp only [left, ne_eq, not_true, if_false] at refused
      split at refused
      · cases refused
        exact .inl rfl
      · cases refused
    · simp only [left, ne_eq, not_false_iff, if_true] at refused
      cases refused
      exact .inl rfl

theorem accept_forking {option : TimedOption} {setup after : Setup} (accepted : setup.accept option = some after)
    (forks : after.forking = true) : setup.forking = true ∧ option.2 ≠ .nofork := by
  obtain ⟨world, option⟩ := option
  cases option with
  | configure arg | verbosity value | libcwflags value | debugfile value =>
    simp only [Setup.accept, Setup.argsProcess, toOption_orFailure, Option.map_eq_some_iff] at accepted
    obtain ⟨stored, -, rfl⟩ := accepted
    exact ⟨forks, by simp⟩
  | incVerbosity =>
    cases accepted
    exact ⟨forks, by simp⟩
  | nofork =>
    cases accepted
    cases forks
  | version | help => cases accepted

theorem accept_all_forking {options : List TimedOption} {setup after : Setup}
    (processed : options.foldlM Setup.accept setup = some after) (forks : after.forking = true) :
    setup.forking = true ∧ ∀ option ∈ options, option.2 ≠ .nofork := by
  induction options generalizing setup with
  | nil =>
    cases processed
    exact ⟨forks, by simp⟩
  | cons option options inductionHypothesis =>
    rw [foldlM_cons, Option.bind_eq_some_iff] at processed
    obtain ⟨next, accepted, processed⟩ := processed
    obtain ⟨forksOn, rest⟩ := inductionHypothesis processed
    obtain ⟨forksHere, here⟩ := accept_forking accepted forksOn
    exact ⟨forksHere, List.forall_mem_cons.mpr ⟨here, rest⟩⟩

theorem launch_error {commandLine : CommandLine} {world : World} {system : System} {status : Status}
    (refused : launch commandLine world system = .error status) :
    status = .exited EXIT_FAILURE ∨ status = .exited EXIT_SUCCESS ∧
      ((∃ option ∈ commandLine.options, option.2.kind = .information) ∨
        system.fork = .parent ∧ ∀ option ∈ commandLine.options, option.2 ≠ .nofork) := by
  unfold launch at refused
  split at refused
  · cases refused
    exact .inl rfl
  split at refused
  case h_1 status' refused' =>
    cases refused
    exact (argsParse_error refused').imp id fun ⟨asked, exits⟩ => ⟨exits, .inl asked⟩
  case h_2 setup parsed =>
    split at refused
    case h_1 status' refused' =>
      cases refused
      exact .inl (debugOpen_error refused')
    case h_2 output opened =>
      simp only at refused
      by_cases parent : setup.forking = true ∧ system.fork = .parent
      · obtain ⟨processed, -, -⟩ := argsParse_ok_iff.mp parsed
        have forked : system.fork ≠ .failed := by simp [parent.2]
        rw [if_neg fun failed => forked failed.2, if_pos parent] at refused
        cases refused
        exact .inr ⟨rfl, .inr ⟨parent.2, (accept_all_forking processed parent.1).2⟩⟩
      · -- All else that `main()` checks itself ends in the same exit.
        left
        rw [if_neg parent] at refused
        split_ifs at refused <;> cases refused <;> rfl

/-- Whatever the command line and the world, the process exits with a proper code, which is
that of success only after a call for help or for the version and in the parent of the
daemon; or a started daemon enters the main loop, which does not write its debug output to a
terminal that it has left, and where libcw is to be debugged lets it be silent exactly when
it is silent itself. -/
theorem launch_exits_or_starts (commandLine : CommandLine) (world : World) (system : System) :
    match launch commandLine world system with
    | .ok launched =>
      start commandLine.args world = some launched.setup.daemon ∧
        (launched.setup.forking = true → system.fork = .child) ∧ launched.Consistent
    | .error status =>
      status = .exited EXIT_FAILURE ∨ status = .exited EXIT_SUCCESS ∧
        ((∃ option ∈ commandLine.options, option.2.kind = .information) ∨
          system.fork = .parent ∧ ∀ option ∈ commandLine.options, option.2 ≠ .nofork) := by
  cases outcome : launch commandLine world system with
  | error status => exact launch_error outcome
  | ok launched =>
    obtain ⟨setup, parsed, opened, child, available, configured, debugging⟩ := launch_cases outcome
    obtain ⟨processed, -, valid⟩ := argsParse_ok_iff.mp parsed
    have bounds := accept_all_threshold processed (show LOG_CRIT ≤ LOG_WARNING ∧ LOG_WARNING ≤ LOG_DEBUG by decide)
    have forking : launched.setup.forking = setup.forking := by rw [configured]
    have threshold : launched.setup.logThreshold = setup.logThreshold := by rw [configured]
    have flags : launched.setup.libcwDebugFlags = setup.libcwDebugFlags := by rw [configured]
    rw [← forking] at opened child
    rw [← threshold] at bounds debugging
    rw [← flags] at debugging
    refine ⟨?_, child, fun forks => debugOpen_forking (forks ▸ opened), bounds, ?_, fun flags level leveled => ?_⟩
    · have accepted : argsProcessAll commandLine.args initialState = some setup.daemon :=
        argsProcessAll_of_accept processed
      have parsed' : initialState.argsParse commandLine.args = some setup.daemon := by
        rw [State.argsParse, accepted, Option.bind_some, if_neg fun invalid => by simp [valid invalid.1] at invalid]
      rw [start, parsed', Option.bind_some, configured]
      simp only [available, if_true]
    · rw [debugging]
      by_cases asked : launched.setup.libcwDebugFlags = 0#32 <;> simp [asked]
    · rw [debugging] at leveled
      split at leveled
      · cases leveled
        exact ⟨rfl, setLibcwDebugging_none_iff bounds⟩
      · cases leveled

end Cwdaemon
