import Cwdaemon.Verified.LibcwOutput

/-! # What the operations on the cwdevices leave alone

The cwdevices change in the PTT command they remember; which pins were told so is in the
log.  A device that is closed or opened is left with its PTT off, except the null device,
which remembers nothing.
-/

namespace Cwdaemon

namespace State

variable (world : World)

/-! ## Pins -/

/-- The state with other cwdevices and another log. -/
@[simps] def withDevices (devices : DeviceType → Cwdevice) (log : List Entry) (state : State) : State :=
  { state with devices := devices, log := log }

@[simp] theorem withDevices_withDevices (first second : DeviceType → Cwdevice) (before after : List Entry)
    (state : State) :
    (state.withDevices first before).withDevices second after = state.withDevices second after := rfl

theorem ttysLines_eq (on : Bool) (mask : BitVec 32) (state : State) :
    ∃ log, state.ttysLines on mask = state.withDevices state.devices log := by
  unfold ttysLines
  split <;> exact ⟨_, rfl⟩

theorem deviceCw_eq (type : DeviceType) (on : Bool) (state : State) :
    ∃ log, state.deviceCw type on = state.withDevices state.devices log := by
  cases type with
  | ttys =>
    obtain ⟨log, equal⟩ := ttysLines_eq on (state.devices .ttys).ttyOptions.key
      (state.record (.deviceCw .ttys on))
    exact ⟨log, equal⟩
  | lp | null => exact ⟨_, rfl⟩

theorem devicePtt_eq (type : DeviceType) (on : Bool) (state : State) :
    ∃ log, state.devicePtt type on =
      state.withDevices
        (Function.update state.devices type { state.devices type with pttCommand := some on }) log := by
  cases type with
  | ttys =>
    simp only [devicePtt]
    obtain ⟨log, equal⟩ := ttysLines_eq on
      (((state.record (.devicePtt .ttys on)).setDevice .ttys
        { state.devices .ttys with pttCommand := some on }).devices .ttys).ttyOptions.ptt
      ((state.record (.devicePtt .ttys on)).setDevice .ttys
        { state.devices .ttys with pttCommand := some on })
    exact ⟨log, equal⟩
  | lp | null => exact ⟨_, rfl⟩

/-- The PTT command that a device is left with by `reset_pins_state`. -/
def afterReset : DeviceType → Option Bool → Option Bool
  | .null, command => command
  | .ttys, _ => some false
  | .lp, _ => some false

theorem deviceResetPinsState_eq (type : DeviceType) (state : State) :
    ∃ log, state.deviceResetPinsState type =
      state.withDevices (Function.update state.devices type
        { state.devices type with pttCommand := afterReset type (state.devices type).pttCommand }) log := by
  obtain ⟨keyLog, key⟩ := deviceCw_eq type false state
  obtain ⟨log, ptt⟩ := devicePtt_eq type false (state.withDevices state.devices keyLog)
  cases type with
  | ttys => exact ⟨log, by rw [deviceResetPinsState, key, ptt]; rfl⟩
  | lp => exact ⟨_, by rw [deviceResetPinsState, key, ptt]; rfl⟩
  | null =>
    refine ⟨state.log, ?_⟩
    have same : { state.devices .null with
        pttCommand := afterReset .null (state.devices .null).pttCommand } = state.devices .null := rfl
    rw [same, Function.update_eq_self]
    rfl

/-! ## Closing and opening -/

/-- What closing a device does to the PTT commands. -/
def freed (type : DeviceType) (devices : DeviceType → Cwdevice) (other : DeviceType) : Option Bool :=
  if other = type then afterReset type (devices other).pttCommand else (devices other).pttCommand

theorem deviceFree_eq (type : DeviceType) (state : State) :
    ∃ devices log, state.deviceFree type = state.withDevices devices log ∧
      ∀ other, (devices other).pttCommand = freed type state.devices other := by
  obtain ⟨log, reset⟩ := deviceResetPinsState_eq type state
  cases type with
  | ttys =>
    refine ⟨_, _, by rw [deviceFree, reset]; rfl, fun other => ?_⟩
    cases other <;> rfl
  | lp =>
    refine ⟨_, _, by rw [deviceFree, reset]; rfl, fun other => ?_⟩
    cases other <;> rfl
  | null => exact ⟨state.devices, state.log, rfl, fun other => by cases other <;> rfl⟩

theorem deviceInit_eq (type : DeviceType) (fd : Int) (state : State) :
    ∃ devices log, state.deviceInit type fd = state.withDevices devices log ∧
      ∀ other, (devices other).pttCommand =
        if other = type then afterReset type none else (state.devices other).pttCommand := by
  obtain ⟨log, reset⟩ := deviceResetPinsState_eq type ((state.record (.deviceInit type fd)).setDevice type
    { state.devices type with fd := fd, pttCommand := none })
  cases type with
  | ttys =>
    refine ⟨_, log, reset, fun other => ?_⟩
    cases other <;> rfl
  | lp =>
    refine ⟨_, log, reset, fun other => ?_⟩
    cases other <;> rfl
  | null => exact ⟨_, _, rfl, fun other => by cases other <;> rfl⟩

theorem setDesc_eq (type : DeviceType) (desc : Option Bytes) (state : State) :
    ∃ devices, state.setDesc type desc = state.withDevices devices state.log ∧
      ∀ other, (devices other).pttCommand = (state.devices other).pttCommand := by
  refine ⟨_, rfl, fun other => ?_⟩
  by_cases same : other = type
  · subst same; simp
  · simp [Function.update_of_ne same]

/-- A RESET leaves the parameters at their defaults, the PTT flag and the request
queue empty, and the pins of the current cwdevice off. -/
theorem escReset_eq (state : State) :
    ∃ success libcw devices log,
      state.escReset world =
        { state.withLibcw libcw log with
          current := state.defaults, hasAudioOutput := success, wordmode := false, pttFlag := .zero,
          requestQueue := state.requestQueue.clear, devices := devices } ∧
      (success = true → Ready libcw ∧ libcw.keyingCallback = some state.globalCwdevice) ∧
      (success = false → Unready libcw) ∧
      ∀ other, (devices other).pttCommand = freed state.globalCwdevice state.devices other := by
  obtain ⟨success, libcw, log, equal, ready, unready⟩ := resetAlmostAll_eq world state.clearRequestQueue
  obtain ⟨resetLog, reset⟩ := deviceResetPinsState_eq state.globalCwdevice
    { withLibcw libcw log state.clearRequestQueue with
      current := state.defaults, hasAudioOutput := success, wordmode := false }
  simp only [escReset, equal]
  refine ⟨success, libcw, _, resetLog, congrArg (setPttFlag .zero) reset, ready, unready, fun other => ?_⟩
  by_cases same : other = state.globalCwdevice
  · subst same; simp [freed]
  · simp [freed, same]

/-! ## Replacing the current device -/

/-- Putting a new device in the place of the current one: the old one is closed, and
the new one, unless its name cannot be stored, is initialised. -/
theorem adoptCwdevice_eq (type : DeviceType) (fd : Int) (desc : Bytes) (state : State) :
    ∃ devices log,
      state.adoptCwdevice world type fd desc =
        (world.strdup, { state.withDevices devices log with globalCwdevice := type }) ∧
      ∀ other, (devices other).pttCommand =
        if other = type ∧ world.strdup = true then afterReset type none
        else freed state.globalCwdevice state.devices other := by
  obtain ⟨devices₁, log₁, closed, commands₁⟩ := deviceFree_eq state.globalCwdevice
    { state with globalCwdevice := type }
  obtain ⟨devices₂, unnamed, commands₂⟩ := setDesc_eq state.globalCwdevice none
    (withDevices devices₁ log₁ { state with globalCwdevice := type })
  obtain ⟨devices₃, cleared, commands₃⟩ := setDesc_eq type none
    (withDevices devices₂ log₁ { state with globalCwdevice := type })
  simp only [withDevices_withDevices, withDevices_log, withDevices_devices] at unnamed cleared commands₂ commands₃
  simp only [adoptCwdevice, closed, unnamed, cleared]
  cases stored : world.strdup with
  | false => exact ⟨devices₃, log₁, rfl, fun other => by simp [commands₃, commands₂, commands₁]⟩
  | true =>
    obtain ⟨devices₄, named, commands₄⟩ := setDesc_eq type (some desc)
      (withDevices devices₃ log₁ { state with globalCwdevice := type })
    obtain ⟨devices₅, log₅, initialised, commands₅⟩ := deviceInit_eq type fd
      (withDevices devices₄ log₁ { state with globalCwdevice := type })
    simp only [withDevices_withDevices, withDevices_log, withDevices_devices] at named initialised commands₄ commands₅
    simp only [if_true, named, initialised]
    refine ⟨devices₅, log₅, rfl, fun other => ?_⟩
    simp only [commands₅, commands₄, commands₃, commands₂, commands₁, and_true]

/-- A device name is refused when it is empty, or when it names a parallel port (and
no serial port) and the daemon does not run as root. -/
def Refused (name : Bytes) : Prop :=
  name = [] ∨ (ttyProbeCwdevice world name = none ∧ lpProbeCwdevice world name ≠ none ∧ world.geteuid ≠ 0)

instance (name : Bytes) : Decidable (Refused world name) := inferInstanceAs (Decidable (_ ∨ _))

/-- The type of device that a name selects when it is not refused. -/
def selectedType (name : Bytes) : DeviceType :=
  if (ttyProbeCwdevice world name).isSome then .ttys
  else if (lpProbeCwdevice world name).isSome then .lp
  else .null

/-- A refused name changes nothing; any other name is adopted. -/
theorem optionCwdevice_cases (name : Bytes) (state : State) :
    (Refused world name ∧ state.optionCwdevice world name = (false, state)) ∨
    (¬ Refused world name ∧ ∃ fd, state.optionCwdevice world name =
      state.adoptCwdevice world (selectedType world name) fd name) := by
  unfold optionCwdevice cwdeviceSet Refused selectedType
  by_cases empty : name = []
  · exact .inl ⟨.inl empty, by simp [empty]⟩
  · cases serial : ttyProbeCwdevice world name with
    | some fd => exact .inr ⟨by simp [empty], fd, by simp [empty]⟩
    | none =>
      cases parallel : lpProbeCwdevice world name with
      | none => exact .inr ⟨by simp [empty], _, by simp [empty]; rfl⟩
      | some fd =>
        by_cases root : world.geteuid = 0
        · exact .inr ⟨by simp [empty, root], fd, by simp [empty, root]⟩
        · exact .inl ⟨.inr ⟨rfl, by simp, root⟩, by simp [empty, root]⟩

theorem optionCwdevice_fails_iff (name : Bytes) (state : State) :
    (state.optionCwdevice world name).1 = false ↔ Refused world name ∨ world.strdup = false := by
  rcases optionCwdevice_cases world name state with ⟨refused, unchanged⟩ | ⟨accepted, fd, adopted⟩
  · simp [unchanged, refused]
  · obtain ⟨devices, log, equal, -⟩ := adoptCwdevice_eq world (selectedType world name) fd name state
    simp [adopted, equal, accepted]

/-- A CWDEVICE request first takes the keying callback away.  It is registered again,
for the device that is then the current one, only when the device was accepted. -/
theorem escCwdevice_cases (payload : Bytes) (state : State) :
    (Refused world payload ∧
      ∃ log, state.escCwdevice world payload = state.withLibcw ⟨state.libcw.generator, none⟩ log) ∨
    (¬ Refused world payload ∧ ∃ devices log,
      state.escCwdevice world payload =
        { state.withDevices devices log with
          globalCwdevice := selectedType world payload
          libcw := ⟨state.libcw.generator,
            if world.strdup then some (selectedType world payload) else none⟩ } ∧
      ∀ other, (devices other).pttCommand =
        if other = selectedType world payload ∧ world.strdup = true then
          afterReset (selectedType world payload) none
        else freed state.globalCwdevice state.devices other) := by
  obtain ⟨silenced, unkeyed⟩ : ∃ log, state.cwRegisterKeyingCallback none =
      state.withLibcw ⟨state.libcw.generator, none⟩ log := ⟨_, rfl⟩
  simp only [escCwdevice, unkeyed]
  rcases optionCwdevice_cases world payload (state.withLibcw ⟨state.libcw.generator, none⟩ silenced) with
    ⟨refused, unchanged⟩ | ⟨accepted, fd, adopted⟩
  · refine .inl ⟨refused, silenced, ?_⟩
    simp only [unchanged, Bool.false_eq_true, if_false]
  · obtain ⟨devices, log, equal, commands⟩ := adoptCwdevice_eq world (selectedType world payload) fd payload
      (state.withLibcw ⟨state.libcw.generator, none⟩ silenced)
    simp only [adopted, equal]
    -- The name is stored, and the new device is keyed, or it cannot be.
    cases stored : world.strdup with
    | true =>
      rw [stored] at commands
      exact .inr ⟨accepted, devices, _, rfl, commands⟩
    | false =>
      rw [stored] at commands
      exact .inr ⟨accepted, devices, log, rfl, commands⟩

end State

end Cwdaemon
