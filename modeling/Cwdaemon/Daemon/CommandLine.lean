import Cwdaemon.Daemon.Drivers

/-! # The command line and `main()`

The whole command line, and `main()` as far as the main loop.  `start` has only what the
state of the daemon depends on; here are also the options for the process and for its
debug output, and all that can make the process exit before its main loop.
-/

namespace Cwdaemon

open CString

def EXIT_SUCCESS : Int := 0
def EXIT_FAILURE : Int := 1

/-! ## Options for debugging -/

def LOG_CRIT : Nat := 2
def LOG_ERR : Nat := 3
def LOG_WARNING : Nat := 4
def LOG_NOTICE : Nat := 5
def LOG_INFO : Nat := 6
def LOG_DEBUG : Nat := 7
def CWDAEMON_LOG_THRESHOLD_DEFAULT : Nat := LOG_WARNING

/-- `cwdaemon_option_inc_verbosity()`. -/
def optionIncVerbosity (threshold : Nat) : Nat := if threshold < LOG_DEBUG then threshold + 1 else threshold

/-- `cwdaemon_option_set_verbosity()`, which looks at the first character only. -/
def optionSetVerbosity (optValue : Bytes) : Option Nat :=
  match optValue with
  | [] => none
  | first :: _ =>
    let c := tolower first
    if c = byte 'n' then some LOG_CRIT
    else if c = byte 'e' then some LOG_ERR
    else if c = byte 'w' then some LOG_WARNING
    else if c = byte 'i' then some LOG_INFO
    else if c = byte 'd' then some LOG_DEBUG
    else none

/-- `cwdaemon_option_libcwflags()`. -/
def optionLibcwflags (optValue : Bytes) : Option (BitVec 32) := (getLong optValue).map (BitVec.ofInt 32)

def syslogName : Bytes := [byte 's', byte 'y', byte 's', byte 'l', byte 'o', byte 'g']
def stdoutName : Bytes := [byte 's', byte 't', byte 'd', byte 'o', byte 'u', byte 't']
def stderrName : Bytes := [byte 's', byte 't', byte 'd', byte 'e', byte 'r', byte 'r']

/-- `cwdaemon_params_debugfile()`. -/
def paramsDebugfile (world : World) (optarg : Bytes) : Option Bytes :=
  if optarg = syslogName then none else if world.strdup then some optarg else none

/-! ## Options -/

/-- An option, as `getopt_long()` delivers it; what it does not know it delivers as a call
for help. -/
inductive CommandLineOption where
  | configure (arg : Arg)
  | nofork
  | version
  | help
  | incVerbosity
  | verbosity (value : Bytes)
  | libcwflags (value : Bytes)
  | debugfile (value : Bytes)

/-- The options, each with the world at its time, and what `getopt_long()` leaves over. -/
structure CommandLine where
  options : List (World × CommandLineOption)
  tokens : List Bytes

/-- What the options change: the state of the daemon, and the variables of the process. -/
structure Setup where
  daemon : State
  forking : Bool
  logThreshold : Nat
  libcwDebugFlags : BitVec 32
  debugFilePath : Option Bytes

def initialSetup : Setup where
  daemon := initialState
  forking := true
  logThreshold := CWDAEMON_LOG_THRESHOLD_DEFAULT
  libcwDebugFlags := 0#32
  debugFilePath := none

/-- A refused value makes the process exit. -/
def orFailure {Value : Type} : Option Value → Except Status Value
  | none => .error (.exited EXIT_FAILURE)
  | some value => .ok value

/-- An option for the daemon, as far as the drivers of the ports let it come: where an
`ioctl()` fails, a method of the port exits. -/
def State.argsAttempt (world : World) (arg : Arg) (state : State) : Option State :=
  (state.argsProcess world arg).filter fun after => (world.cut 0 (after.log.drop state.log.length)).isNone

namespace Setup

/-- One option of `cwdaemon_args_process_long()` or `cwdaemon_args_process_short()`. -/
def argsProcess (world : World) (option : CommandLineOption) (setup : Setup) : Except Status Setup :=
  match option with
  | .configure arg => orFailure ((setup.daemon.argsAttempt world arg).map fun daemon => { setup with daemon := daemon })
  | .nofork => .ok { setup with forking := false }
  | .version => .error (.exited EXIT_SUCCESS)
  | .help => .error (.exited EXIT_SUCCESS)
  | .incVerbosity => .ok { setup with logThreshold := optionIncVerbosity setup.logThreshold }
  | .verbosity value =>
    orFailure ((optionSetVerbosity value).map fun threshold => { setup with logThreshold := threshold })
  | .libcwflags value => orFailure ((optionLibcwflags value).map fun flags => { setup with libcwDebugFlags := flags })
  | .debugfile value =>
    orFailure ((paramsDebugfile world value).map fun path => { setup with debugFilePath := some path })

/-- `cwdaemon_args_process_long()`. -/
def argsProcessLong (commandLine : CommandLine) (setup : Setup) : Except Status Setup :=
  match commandLine.options.foldlM (fun setup option => setup.argsProcess option.1 option.2) setup with
  | .error status => .error status
  | .ok setup => if commandLine.tokens ≠ [] then .error (.exited EXIT_FAILURE) else .ok setup

/-- `cwdaemon_args_parse()`. -/
def argsParse (commandLine : CommandLine) (setup : Setup) : Except Status Setup :=
  match setup.argsProcessLong commandLine with
  | .error status => .error status
  | .ok setup =>
    if setup.daemon.globalCwdevice = .ttys ∧ setup.daemon.ttysOptvalidate = false then .error (.exited EXIT_FAILURE)
    else .ok setup

end Setup

/-! ## `main()` -/

/-- Where `cwdaemon_debug_f` leads to. -/
inductive DebugOutput where
  | none
  | stdout
  | stderr
  | file (path : Bytes)
  deriving DecidableEq, Repr

/-- `cwdaemon_debug_open()`. -/
def debugOpen (fopen : Bytes → Bool) (forking : Bool) (path : Option Bytes) : Except Status DebugOutput :=
  if forking ∧ (path = some stdoutName ∨ path = some stderrName) then .error (.exited EXIT_FAILURE)
  else
    match path with
    | none => if forking then .ok .none else .ok .stdout
    | some path =>
      if path = stdoutName then if forking then .error .assertionFailed else .ok .stdout
      else if path = stderrName then if forking then .error .assertionFailed else .ok .stderr
      else if fopen path then .ok (.file path)
      else .error (.exited EXIT_FAILURE)

/-- The levels of libcw's debug object (`CW_DEBUG_*`). -/
inductive CwDebugLevel where
  | none
  | error
  | warning
  | info
  | debug
  deriving DecidableEq, Repr

/-- The level that `set_libcw_debugging()` sets. -/
def setLibcwDebugging (logThreshold : Nat) : CwDebugLevel :=
  if logThreshold = LOG_ERR then .error
  else if logThreshold = LOG_WARNING ∨ logThreshold = LOG_NOTICE then .warning
  else if logThreshold = LOG_INFO then .info
  else if logThreshold = LOG_DEBUG then .debug
  else .none

/-- What `fork()` returns: -1, or in the parent the process id of the child, or 0 in the
child. -/
inductive Fork where
  | failed
  | parent
  | child
  deriving DecidableEq, Repr

/-- What the system answers to `main()`: whether `cwdaemon_cwdevices_init()`, `fopen()`, the
steps from `setsid()` to the last `dup2()`, `cwdaemon_initialize_socket()` and `setpriority()`
succeed. -/
structure System where
  cwdevicesInit : Bool
  fopen : Bytes → Bool
  fork : Fork
  detach : Bool
  initializeSocket : Int → Bool
  setpriority : Int → Bool

/-- The process that enters the main loop. -/
structure Launched where
  setup : Setup
  debugOutput : DebugOutput
  libcwDebugging : Option (BitVec 32 × CwDebugLevel)

/-- `main()` as far as the main loop. -/
def launch (commandLine : CommandLine) (world : World) (system : System) : Except Status Launched :=
  if system.cwdevicesInit = false then .error (.exited EXIT_FAILURE)
  else
    match initialSetup.argsParse commandLine with
    | .error status => .error status
    | .ok setup =>
      match debugOpen system.fopen setup.forking setup.debugFilePath with
      | .error status => .error status
      | .ok output =>
        if setup.forking ∧ system.fork = .failed then .error (.exited EXIT_FAILURE)
        else if setup.forking ∧ system.fork = .parent then .error (.exited EXIT_SUCCESS)
        else if setup.forking ∧ system.detach = false then .error (.exited EXIT_FAILURE)
        else if system.initializeSocket setup.daemon.networkPort = false then .error (.exited EXIT_FAILURE)
        else if setup.daemon.processPriority ≠ 0 ∧ system.setpriority setup.daemon.processPriority = false then
          .error (.exited EXIT_FAILURE)
        else
          let (success, daemon) := setup.daemon.resetAlmostAll world
          if success then
            .ok {
              setup := { setup with daemon := daemon.clearRequestQueue }
              debugOutput := output
              libcwDebugging :=
                if setup.libcwDebugFlags ≠ 0#32 then some (setup.libcwDebugFlags, setLibcwDebugging setup.logThreshold)
                else none }
          else .error (.exited EXIT_FAILURE)

end Cwdaemon
