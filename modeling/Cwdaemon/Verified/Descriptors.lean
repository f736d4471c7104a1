import Cwdaemon.Foundations.Monitor
import Cwdaemon.Verified.Works
import Mathlib.Data.Multiset.AddSub

/-! # Who owns a descriptor

A probe opens the device a CWDEVICE request names before the old device is closed.  What
is open is a ledger apart from the state: a probe adds a descriptor to it, closing a device
takes one away, and a device may be used, closed or put into service only while its
descriptor is there.  The ledger should hold what the current cwdevice goes by, and
nothing else.
-/

namespace Cwdaemon

/-- The open descriptors of cwdevices, and the one that the parallel port goes by. -/
structure Ledger where
  held : Multiset Int
  lp : Int
  deriving DecidableEq

def Ledger.without (ledger : Ledger) (closed : Multiset Int) : Ledger := { ledger with held := ledger.held - closed }

/-- The calls of a parallel port name no descriptor: they go to the one it was last put
into service with. -/
def ledgerMonitor : Monitor Ledger Entry where
  next ledger entry :=
    match entry.call with
    | .deviceInit .lp fd => { ledger with lp := fd }
    | .deviceFree _ fd => ledger.without {fd}
    | _ => ledger
  Allows ledger entry :=
    match entry.call with
    | .deviceInit .ttys fd | .deviceInit .lp fd | .deviceFree _ fd | .ioctlLines fd _ _ => fd ∈ ledger.held
    | .deviceCw .lp _ | .devicePtt .lp _ | .deviceSsbway .lp _ | .deviceSwitchband .lp _ => ledger.lp ∈ ledger.held
    | _ => True

/-- The descriptor that the probes for a name open, and leave open. -/
def World.opens (world : World) (name : Bytes) : Option Nat :=
  if name = [] then none else (ttyProbeCwdevice world name).or (lpProbeCwdevice world name)

def World.acquired (world : World) (name : Bytes) : Multiset Int :=
  match world.opens name with
  | some fd => {(fd : Int)}
  | none => 0

namespace State

/-- The descriptor of a serial or a parallel port. -/
def descriptors (type : DeviceType) (state : State) : Multiset Int :=
  match type with
  | .ttys | .lp => {(state.devices type).fd}
  | .null => 0

/-- The descriptor that the current cwdevice goes by. -/
def owned (state : State) : Multiset Int := state.descriptors state.globalCwdevice

/-- What a probe adds to the open descriptors in a step. -/
def probed (label : Label) (state : State) : Multiset Int :=
  match state.status, label.input.action with
  | .running, .request .cwdevice name => label.world.acquired name
  | _, _ => 0

/-- The ledger when the handling of an input begins. -/
def ledger (label : Label) (held : Multiset Int) (state : State) : Ledger :=
  ⟨state.probed label + held, (state.devices .lp).fd⟩

end State

/-- A step of the daemon and of the descriptors that are open beside it. -/
def account (label : Label) : State × Multiset Int → State × Multiset Int
  | (state, held) =>
    (state.step label, (ledgerMonitor.after (state.step label).log (state.ledger label held)).held)

/-- What is open is what the current cwdevice of a running daemon owns. -/
def Balanced : State × Multiset Int → Prop
  | (state, held) => state.status = .running → held = state.owned

/-- The call opens a device for use, or closes one. -/
def Call.replaces : Call → Bool
  | .deviceInit _ _ | .deviceFree _ _ => true
  | _ => false

/-- No descriptor is used or closed that is not open, and a CWDEVICE request that reports
failure leaves the current cwdevice, and its descriptor, alone. -/
def Careful (label : Label) : State × Multiset Int → Prop
  | (state, held) =>
    ledgerMonitor.Accepts (state.step label).log (state.ledger label held) ∧
    ∀ name, state.status = .running → label.input.action = .request .cwdevice name →
      (state.optionCwdevice label.world name).1 = false →
        (state.step label).globalCwdevice = state.globalCwdevice ∧ (state.step label).owned = state.owned ∧
          ∀ entry ∈ (state.step label).log, entry.call.replaces = false

namespace State

/-- A CWDEVICE request that fails has nothing to close: its name is empty, or both the old
and the new device are null. -/
def Spares (label : Label) (state : State) : Prop :=
  ∀ name, state.status = .running → label.input.action = .request .cwdevice name →
    name = [] ∨ ¬ Refused label.world name ∧
      (label.world.strdup = true ∨ state.globalCwdevice = .null ∧ selectedType label.world name = .null)

/-! ## Logs and the ledger -/

/-- The log grew by calls that the ledger allows, and these turn it into another one. -/
def Leads (ledger ledger' : Ledger) (before after : State) : Prop :=
  ∃ new, after.log = before.log ++ new ∧ ledgerMonitor.Accepts new ledger ∧ ledgerMonitor.after new ledger = ledger'

/-- The device goes by an open descriptor, or needs none. -/
def Open (ledger : Ledger) (type : DeviceType) (state : State) : Prop :=
  match type with
  | .ttys => (state.devices .ttys).fd ∈ ledger.held
  | .lp => ledger.lp ∈ ledger.held
  | .null => True

namespace Leads

variable {ledger ledger' ledger'' : Ledger} {before after state : State}

theorem of_log_eq (same : after.log = before.log) : Leads ledger ledger before after :=
  ⟨[], by rw [same, List.append_nil], trivial, rfl⟩

theorem trans {first second third : State} (earlier : Leads ledger ledger' first second)
    (later : Leads ledger' ledger'' second third) : Leads ledger ledger'' first third := by
  obtain ⟨new, log, accepts, turns⟩ := earlier
  obtain ⟨new', log', accepts', turns'⟩ := later
  refine ⟨new ++ new', by rw [log', log, List.append_assoc], ?_, ?_⟩
  · rw [Monitor.accepts_append, turns]
    exact ⟨accepts, accepts'⟩
  · rw [Monitor.after_append, turns, turns']

theorem record (call : Call) (state : State) (allowed : ledgerMonitor.Allows ledger ⟨call, state.moment⟩) :
    Leads ledger (ledgerMonitor.next ledger ⟨call, state.moment⟩) state (state.record call) :=
  ⟨[⟨call, state.moment⟩], rfl, ⟨allowed, trivial⟩, rfl⟩

theorem turned (leads : Leads ledger ledger' before after) (same : ledger' = ledger'') :
    Leads ledger ledger'' before after := same ▸ leads

/-- Whatever is not licensed to replace the device uses the one that is current. -/
theorem of_works {licence : Licence} (works : Works licence before after) (stays : ¬ licence.replaces)
    (opened : before.Open ledger before.globalCwdevice) : Leads ledger ledger before after := by
  obtain ⟨new, log, made⟩ := works.adds
  have known : ∀ entry ∈ new, ledgerMonitor.next ledger entry = ledger ∧ ledgerMonitor.Allows ledger entry := by
    intro entry member
    rcases made entry member with wires | ⟨tone, played⟩
    · unfold Wires at wires
      simp only [ledgerMonitor]
      generalize entry.call = call at wires ⊢
      cases call with
      | deviceInit | deviceFree => exact absurd wires stays
      | deviceCw type | deviceSsbway type | deviceSwitchband type =>
        rw [← wires.resolve_left stays] at opened
        cases type <;> first | exact ⟨rfl, opened⟩ | exact ⟨rfl, trivial⟩
      | devicePtt type =>
        rw [← wires.2.resolve_left stays] at opened
        cases type <;> first | exact ⟨rfl, opened⟩ | exact ⟨rfl, trivial⟩
      | ioctlLines fd =>
        obtain ⟨current, rfl⟩ := wires.resolve_left stays
        rw [current] at opened
        exact ⟨rfl, opened⟩
      | _ => exact ⟨rfl, trivial⟩
    · simp only [ledgerMonitor, played]
      exact ⟨trivial, trivial⟩
  obtain ⟨turns, accepts⟩ := Monitor.still fun entry member => (known entry member).1
  exact ⟨new, log, accepts.mpr fun entry member => (known entry member).2, turns⟩

end Leads

section Devices

variable {ledger : Ledger} {state : State}

theorem leads_ttysLines (on : Bool) (mask : BitVec 32) (opened : state.Open ledger .ttys) :
    Leads ledger ledger state (state.ttysLines on mask) := by
  unfold ttysLines
  split
  · exact .of_log_eq rfl
  · exact .record (.ioctlLines _ on mask) state opened

theorem leads_deviceCw (type : DeviceType) (on : Bool) (opened : state.Open ledger type) :
    Leads ledger ledger state (state.deviceCw type on) := by
  cases type with
  | ttys => exact (Leads.record (.deviceCw .ttys on) state trivial).trans (leads_ttysLines on _ opened)
  | lp => exact .record (.deviceCw .lp on) state opened
  | null => exact .record (.deviceCw .null on) state trivial

theorem leads_devicePtt (type : DeviceType) (on : Bool) (opened : state.Open ledger type) :
    Leads ledger ledger state (state.devicePtt type on) := by
  have told (state : State) : Leads ledger ledger state
      (state.setDevice type { state.devices type with pttCommand := some on }) := .of_log_eq rfl
  cases type with
  | ttys =>
    exact ((Leads.record (.devicePtt .ttys on) state trivial).trans (told _)).trans (leads_ttysLines on _ opened)
  | lp => exact (Leads.record (.devicePtt .lp on) state opened).trans (told _)
  | null => exact (Leads.record (.devicePtt .null on) state trivial).trans (told _)

theorem leads_deviceResetPinsState (type : DeviceType) (opened : state.Open ledger type) :
    Leads ledger ledger state (state.deviceResetPinsState type) := by
  have keyed : Leads ledger ledger state (state.deviceCw type false) := leads_deviceCw type false opened
  have still : (state.deviceCw type false).Open ledger type := by
    obtain ⟨log, equal⟩ := deviceCw_eq type false state
    rw [equal]
    exact opened
  have off := keyed.trans (leads_devicePtt type false still)
  cases type with
  | ttys => exact off
  | lp =>
    have soundcard := off.trans (.record (.deviceSsbway .lp false) _ opened)
    exact soundcard.trans (.record (.deviceSwitchband .lp 0#8) _ opened)
  | null => exact .of_log_eq rfl

/-- Closing a device takes its descriptor, and no other, out of the ledger. -/
theorem leads_deviceFree (type : DeviceType) (opened : state.Open ledger type)
    (port : ledger.lp = (state.devices .lp).fd) :
    Leads ledger (ledger.without (state.descriptors type)) state (state.deviceFree type) := by
  have reset : Leads ledger ledger state (state.deviceResetPinsState type) := leads_deviceResetPinsState type opened
  obtain ⟨log, pins⟩ := deviceResetPinsState_eq type state
  cases type with
  | ttys =>
    have same : ((state.deviceResetPinsState .ttys).devices .ttys).fd = (state.devices .ttys).fd := by
      rw [pins]
      rfl
    have closed := reset.trans (.record (.deviceFree .ttys ((state.deviceResetPinsState .ttys).devices .ttys).fd) _
      (same ▸ opened))
    have logged : (state.deviceFree .ttys).log = ((state.deviceResetPinsState .ttys).record
        (.deviceFree .ttys ((state.deviceResetPinsState .ttys).devices .ttys).fd)).log := rfl
    have turns : (ledger.without {((state.deviceResetPinsState .ttys).devices .ttys).fd}) =
        ledger.without (state.descriptors .ttys) := by
      rw [same]
      rfl
    exact (closed.turned turns).trans (.of_log_eq logged)
  | lp =>
    have same : ((state.deviceResetPinsState .lp).devices .lp).fd = (state.devices .lp).fd := by
      rw [pins]
      rfl
    have closed := reset.trans (.record (.deviceFree .lp ((state.deviceResetPinsState .lp).devices .lp).fd) _
      (same.trans port.symm ▸ opened))
    have turns : (ledger.without {((state.deviceResetPinsState .lp).devices .lp).fd}) =
        ledger.without (state.descriptors .lp) := by
      rw [same]
      rfl
    exact closed.turned turns
  | null =>
    simp only [descriptors, Ledger.without, Multiset.sub_zero]
    exact .of_log_eq rfl

/-- A device is put into service with an open descriptor. -/
theorem leads_deviceInit (type : DeviceType) (fd : Int) (opened : type = .null ∨ fd ∈ ledger.held) :
    Leads ledger { ledger with lp := if type = .lp then fd else ledger.lp } state (state.deviceInit type fd) := by
  cases type with
  | ttys =>
    have opened := opened.resolve_left (by simp)
    have started : Leads ledger ledger state ((state.record (.deviceInit .ttys fd)).setDevice .ttys
        { state.devices .ttys with fd := fd, pttCommand := none }) :=
      (Leads.record (.deviceInit .ttys fd) state opened).trans (.of_log_eq rfl)
    exact started.trans (leads_deviceResetPinsState .ttys opened)
  | lp =>
    have opened := opened.resolve_left (by simp)
    have started : Leads ledger { ledger with lp := fd } state ((state.record (.deviceInit .lp fd)).setDevice .lp
        { state.devices .lp with fd := fd, pttCommand := none }) :=
      (Leads.record (.deviceInit .lp fd) state opened).trans (.of_log_eq rfl)
    exact started.trans (leads_deviceResetPinsState .lp opened)
  | null => exact (Leads.record (.deviceInit .null fd) state trivial).trans (.of_log_eq rfl)

end Devices

/-! ## Replacing the current device -/

variable {state : State}

/-- The descriptor that a name opens is that of the device it selects, unless the name is
refused. -/
theorem optionCwdevice_acquired (world : World) (name : Bytes) (state : State) :
    (Refused world name ∧ state.optionCwdevice world name = (false, state) ∧
      (name = [] ∧ world.acquired name = 0 ∨ name ≠ [] ∧ ∃ fd : Int, world.acquired name = {fd})) ∨
    (¬ Refused world name ∧ ∃ fd : Int,
      state.optionCwdevice world name = state.adoptCwdevice world (selectedType world name) fd name ∧
      (selectedType world name = .null ∧ world.acquired name = 0 ∨
        selectedType world name ≠ .null ∧ world.acquired name = {fd})) := by
  by_cases empty : name = []
  · refine .inl ⟨.inl empty, by simp [optionCwdevice, empty], .inl ⟨empty, ?_⟩⟩
    simp [World.acquired, World.opens, empty]
  · cases serial : ttyProbeCwdevice world name with
    | some fd =>
      refine .inr ⟨by simp [Refused, empty, serial], fd, ?_, .inr ?_⟩
      · simp [optionCwdevice, cwdeviceSet, selectedType, empty, serial]
      · simp [World.acquired, World.opens, selectedType, empty, serial]
    | none =>
      cases parallel : lpProbeCwdevice world name with
      | some fd =>
        have acquired : world.acquired name = {(fd : Int)} := by
          simp [World.acquired, World.opens, empty, serial, parallel]
        by_cases root : world.geteuid = 0
        · refine .inr ⟨by simp [Refused, empty, root], fd, ?_, .inr ⟨by simp [selectedType, serial, parallel], acquired⟩⟩
          simp [optionCwdevice, cwdeviceSet, selectedType, empty, serial, parallel, root]
        · refine .inl ⟨.inr ⟨serial, by simp [parallel], root⟩, ?_, .inr ⟨empty, fd, acquired⟩⟩
          simp [optionCwdevice, cwdeviceSet, empty, serial, parallel, root]
      | none =>
        refine .inr ⟨by simp [Refused, empty, parallel], nullProbeCwdevice name, ?_, .inl ?_⟩
        · simp [optionCwdevice, cwdeviceSet, selectedType, empty, serial, parallel]
        · simp [World.acquired, World.opens, selectedType, empty, serial, parallel]

theorem deviceInit_descriptors (type : DeviceType) (fd : Int) (state : State) :
    (state.deviceInit type fd).descriptors type = match type with | .ttys | .lp => {fd} | .null => 0 := by
  cases type with
  | ttys =>
    obtain ⟨log, pins⟩ := deviceResetPinsState_eq .ttys ((state.record (.deviceInit .ttys fd)).setDevice .ttys
      { state.devices .ttys with fd := fd, pttCommand := none })
    rw [show state.deviceInit .ttys fd = _ from pins]
    rfl
  | lp =>
    obtain ⟨log, pins⟩ := deviceResetPinsState_eq .lp ((state.record (.deviceInit .lp fd)).setDevice .lp
      { state.devices .lp with fd := fd, pttCommand := none })
    rw [show state.deviceInit .lp fd = _ from pins]
    rfl
  | null => rfl

/-- The new device takes what the probe has opened. -/
theorem adoptCwdevice_owned {world : World} (stored : world.strdup = true) (type : DeviceType) (fd : Int) (desc : Bytes)
    {new : Multiset Int} (acquired : type = .null ∧ new = 0 ∨ type ≠ .null ∧ new = {fd}) (state : State) :
    (state.adoptCwdevice world type fd desc).2.owned = new := by
  have current : (state.adoptCwdevice world type fd desc).2.globalCwdevice = type := by
    obtain ⟨devices, log, equal, -⟩ := adoptCwdevice_eq world type fd desc state
    rw [equal]
  rw [owned, current]
  simp only [adoptCwdevice, stored, if_true]
  rw [deviceInit_descriptors]
  rcases acquired with ⟨rfl, rfl⟩ | ⟨port, rfl⟩
  · rfl
  · cases type <;> first | rfl | exact absurd rfl port

/-- The old device gives its descriptor up, and the new one takes what the probe has
opened. -/
theorem leads_adoptCwdevice {world : World} (stored : world.strdup = true) (type : DeviceType) (fd : Int) (desc : Bytes)
    {new : Multiset Int} (acquired : type = .null ∧ new = 0 ∨ type ≠ .null ∧ new = {fd}) {ledger : Ledger}
    (held : ledger.held = new + state.owned) (port : ledger.lp = (state.devices .lp).fd) :
    Leads ledger ⟨new, if type = .lp then fd else ledger.lp⟩ state (state.adoptCwdevice world type fd desc).2 := by
  have opened : Open ledger state.globalCwdevice { state with globalCwdevice := type } := by
    unfold Open
    cases current : state.globalCwdevice with
    | ttys => simp [held, owned, descriptors, current]
    | lp => simp [held, port, owned, descriptors, current]
    | null => trivial
  have closed : Leads ledger ⟨new, ledger.lp⟩ state
      (deviceFree state.globalCwdevice { state with globalCwdevice := type }) := by
    have rest : ledger.held - state.owned = new := by rw [held, Multiset.add_sub_cancel_right]
    exact (leads_deviceFree state.globalCwdevice opened port).turned (congrArg (Ledger.mk · ledger.lp) rest)
  have named (state : State) (type : DeviceType) (desc : Option Bytes) (ledger : Ledger) :
      Leads ledger ledger state (state.setDesc type desc) := .of_log_eq rfl
  have ready := ((closed.trans (named _ state.globalCwdevice none _)).trans (named _ type none _)).trans
    (named _ type (some desc) _)
  simp only [adoptCwdevice, stored, if_true]
  refine ready.trans (leads_deviceInit type fd (acquired.imp And.left ?_))
  rintro ⟨-, rfl⟩
  exact Multiset.mem_singleton_self fd

/-! ## Steps -/

theorem Works.owned {licence : Licence} {before after : State} (works : Works licence before after)
    (stays : ¬ licence.replaces) : after.owned = before.owned := by
  unfold State.owned descriptors
  rw [works.globalCwdevice stays]
  split
  · rw [works.fd stays]
  · rw [works.fd stays]
  · rfl

theorem open_owned {ledger : Ledger} (owns : ∀ fd ∈ state.owned, fd ∈ ledger.held)
    (port : state.globalCwdevice = .lp → ledger.lp = (state.devices .lp).fd) : state.Open ledger state.globalCwdevice := by
  unfold owned descriptors at owns
  unfold Open
  cases current : state.globalCwdevice with
  | ttys => exact owns _ (by simp [current])
  | lp => exact port current ▸ owns _ (by simp [current])
  | null => trivial

theorem open_of_works {licence : Licence} {ledger : Ledger} {before after : State} (works : Works licence before after)
    (stays : ¬ licence.replaces) :
    before.Open ledger before.globalCwdevice ↔ after.Open ledger after.globalCwdevice := by
  unfold Open
  rw [works.globalCwdevice stays, works.fd stays]

theorem open_ledger (label : Label) {held : Multiset Int} (balanced : held = state.owned) :
    state.Open (state.ledger label held) state.globalCwdevice :=
  open_owned (fun _ owns => Multiset.mem_add.mpr (.inr (balanced ▸ owns))) fun _ => rfl

/-- A step that uses the current device as it is opens and closes nothing. -/
theorem careful_of_works {licence : Licence} {label : Label} {held : Multiset Int}
    (works : Works licence { state with log := [] } (state.step label)) (stays : ¬ licence.replaces)
    (balanced : held = state.owned) :
    (account label (state, held)).2 = state.probed label + held ∧ (state.step label).owned = state.owned ∧
      Careful label (state, held) := by
  have leads : Leads (state.ledger label held) (state.ledger label held) { state with log := [] } (state.step label) :=
    .of_works works stays (open_ledger label balanced)
  obtain ⟨new, log, accepts, turns⟩ := leads
  have same : (state.step label).owned = state.owned := works.owned stays
  rw [List.nil_append] at log
  refine ⟨?_, same, ?_, fun name _ _ _ => ⟨works.globalCwdevice stays, same, fun entry member => ?_⟩⟩
  · simp only [account, log, turns]
    rfl
  · rw [log]
    exact accepts
  · obtain ⟨new', log', made⟩ := works.adds
    rw [log', List.nil_append] at member
    rcases made entry member with wires | ⟨tone, played⟩
    · generalize entry.call = call at wires ⊢
      cases call <;> first | rfl | exact absurd wires stays
    · rw [played]
      rfl

/-- So a step that probes for no device keeps the balance. -/
theorem balanced_of_works {licence : Licence} {label : Label} {held : Multiset Int}
    (works : Works licence { state with log := [] } (state.step label)) (stays : ¬ licence.replaces)
    (balanced : held = state.owned) (unprobed : state.probed label = 0) :
    Balanced (account label (state, held)) ∧ Careful label (state, held) := by
  obtain ⟨kept, same, careful⟩ := careful_of_works works stays balanced
  exact ⟨fun _ => kept.trans (by rw [unprobed, Multiset.zero_add, same, balanced]), careful⟩

/-- An exit closes the device that is in use. -/
theorem accepts_exit {label : Label} {held : Multiset Int} (running : state.status = .running) {code : Int}
    (exits : (state.ready label.input).act label.world label.input.action = (state.ready label.input).exitProcess code)
    (balanced : held = state.owned) :
    ledgerMonitor.Accepts (state.step label).log (state.ledger label held) ∧ (state.step label).status ≠ .running := by
  have ready := Works.ready label.input state
  have opened := open_ledger label balanced
  have begun : Leads (state.ledger label held) (state.ledger label held) { state with log := [] } (state.ready label.input) :=
    .of_works ready id opened
  have closes : Works { Licence.none with renews := True } (state.ready label.input) (state.ready label.input).closeLibcwOutput :=
    .closeLibcwOutput trivial _
  have silenced := begun.trans (.of_works closes id ((open_of_works ready id).mp opened))
  have closed := silenced.trans (leads_deviceFree _
    ((open_of_works closes id).mp ((open_of_works ready id).mp opened)) ((closes.fd id .lp).trans (ready.fd id .lp)).symm)
  have ended : (state.step label).status = .exited code := by
    rw [step_eq label running, exits, finish_status]
    rfl
  -- A process that has ended polls no footswitch.
  have unpolled (after : State) (stopped : after.status ≠ .running) : after.finish label.world label.input = after := by
    unfold finish
    cases label.input <;> simp [stopped]
  obtain ⟨new, log, accepts, -⟩ := closed
  refine ⟨?_, by simp [ended]⟩
  rw [step_eq label running, exits, unpolled _ (by simp [exitProcess])]
  rw [List.nil_append] at log
  rw [show ((state.ready label.input).exitProcess code).log = new from log]
  exact accepts

/-! ## CWDEVICE requests -/

/-- A port that is replaced is closed, whether or not there will be another one. -/
theorem adoptCwdevice_closes (world : World) (type : DeviceType) (fd : Int) (desc : Bytes)
    (port : state.globalCwdevice ≠ .null) :
    ∃ entry ∈ (state.adoptCwdevice world type fd desc).2.log, entry.call.replaces = true := by
  have closed : ∃ entry ∈ (deviceFree state.globalCwdevice { state with globalCwdevice := type }).log,
      entry.call.replaces = true := by
    cases current : state.globalCwdevice with
    | ttys => exact ⟨_, List.mem_append_right _ (List.mem_singleton_self _), rfl⟩
    | lp => exact ⟨_, List.mem_append_right _ (List.mem_singleton_self _), rfl⟩
    | null => exact absurd current port
  obtain ⟨entry, member, replaces⟩ := closed
  refine ⟨entry, ?_, replaces⟩
  have named : Works .all _ _ := .deviceInit trivial type fd
    ((((deviceFree state.globalCwdevice { state with globalCwdevice := type }).setDesc state.globalCwdevice none).setDesc
      type none).setDesc type (some desc))
  unfold adoptCwdevice
  simp only
  split
  · exact named.adds.subset member
  · exact member

/-- A null device that takes the place of a null device, under a name that cannot be
stored, closes nothing and opens nothing. -/
theorem works_adoptCwdevice_null {licence : Licence} (renamed : licence.renames) {world : World}
    (unstored : world.strdup = false) (fd : Int) (desc : Bytes) (current : state.globalCwdevice = .null) :
    Works licence state (state.adoptCwdevice world .null fd desc).2 := by
  have selected : Works licence state { state with globalCwdevice := .null } :=
    .adjust (.inr current.symm) (.inr rfl) rfl rfl rfl
  unfold adoptCwdevice
  simp only [current, unstored, deviceFree]
  exact (selected.trans (.setDesc renamed .null none _)).trans (.setDesc renamed .null none _)

/-- The state in which a CWDEVICE request probes for a device. -/
def unkeyed (label : Label) (state : State) : State := (state.ready label.input).cwRegisterKeyingCallback none

theorem works_unkeyed (label : Label) (state : State) : Works .none { state with log := [] } (state.unkeyed label) :=
  (Works.ready label.input state).trans (.cwRegisterKeyingCallback none _)

section Cwdevice

variable {label : Label} {held : Multiset Int} {name : Bytes}

theorem step_unkeyed (running : state.status = .running) (action : label.input.action = .request .cwdevice name) :
    state.step label = (if ((state.unkeyed label).optionCwdevice label.world name).1 then
      ((state.unkeyed label).optionCwdevice label.world name).2.cwRegisterKeyingCallback
        (some ((state.unkeyed label).optionCwdevice label.world name).2.globalCwdevice)
      else ((state.unkeyed label).optionCwdevice label.world name).2).finish label.world label.input := by
  rw [step_eq label running, action]
  rfl

/-- What the probe for a refused name has opened stays open. -/
theorem cwdevice_refused_iff (running : state.status = .running)
    (action : label.input.action = .request .cwdevice name) (balanced : held = state.owned)
    (unchanged : (state.unkeyed label).optionCwdevice label.world name = (false, state.unkeyed label)) :
    Balanced (account label (state, held)) ∧ Careful label (state, held) ↔ label.world.acquired name = 0 := by
  have probed : state.probed label = label.world.acquired name := by simp only [State.probed, running, action]
  have stepped := step_unkeyed running action
  simp only [unchanged, Bool.false_eq_true, if_false] at stepped
  have stays : Works (.polling label.world) { state with log := [] } (state.step label) :=
    stepped ▸ (works_unkeyed label state).finished label.world label.input
  obtain ⟨kept, same, careful⟩ := careful_of_works stays id balanced
  refine ⟨fun ⟨balances, _⟩ => ?_, fun unopened => balanced_of_works stays id balanced (probed.trans unopened)⟩
  have live : (state.step label).status = .running := by
    rw [stepped, finish_status]
    exact (ready_status label.input state).trans running
  have excess : state.probed label + held = (state.step label).owned := kept.symm.trans (balances live)
  rw [probed, same, balanced] at excess
  have count := congrArg Multiset.card excess
  rw [Multiset.card_add] at count
  exact Multiset.card_eq_zero.mp (by omega)

/-- A name that is stored is adopted, and its descriptor is the one that is owned then. -/
theorem step_owned (running : state.status = .running) (action : label.input.action = .request .cwdevice name)
    (stored : label.world.strdup = true) {type : DeviceType} {fd : Int}
    (adopted : (state.unkeyed label).optionCwdevice label.world name =
      (state.unkeyed label).adoptCwdevice label.world type fd name)
    (acquired : type = .null ∧ label.world.acquired name = 0 ∨ type ≠ .null ∧ label.world.acquired name = {fd}) :
    Works (.polling label.world) ((state.unkeyed label).adoptCwdevice label.world type fd name).2 (state.step label) ∧
      (state.step label).owned = label.world.acquired name := by
  obtain ⟨devices, log, equal, -⟩ := adoptCwdevice_eq label.world type fd name (state.unkeyed label)
  have success : ((state.unkeyed label).adoptCwdevice label.world type fd name).1 = true := by rw [equal, stored]
  have owns := adoptCwdevice_owned stored type fd name acquired (state.unkeyed label)
  have stepped := step_unkeyed running action
  simp only [adopted, success, if_true] at stepped
  generalize ((state.unkeyed label).adoptCwdevice label.world type fd name).2 = after at owns stepped ⊢
  have rest : Works (.polling label.world) after (state.step label) :=
    stepped ▸ (Works.cwRegisterKeyingCallback _ after).finished label.world label.input
  exact ⟨rest, (rest.owned id).trans owns⟩

/-- The descriptors change hands then. -/
theorem cwdevice_adopted (running : state.status = .running)
    (action : label.input.action = .request .cwdevice name) (balanced : held = state.owned)
    (stored : label.world.strdup = true) {type : DeviceType} {fd : Int}
    (adopted : (state.unkeyed label).optionCwdevice label.world name =
      (state.unkeyed label).adoptCwdevice label.world type fd name)
    (acquired : type = .null ∧ label.world.acquired name = 0 ∨ type ≠ .null ∧ label.world.acquired name = {fd}) :
    Balanced (account label (state, held)) ∧ ledgerMonitor.Accepts (state.step label).log (state.ledger label held) := by
  have probed : state.probed label = label.world.acquired name := by simp only [State.probed, running, action]
  have works := works_unkeyed label state
  have begun : Leads (state.ledger label held) (state.ledger label held) { state with log := [] } (state.unkeyed label) :=
    .of_works works id (open_ledger label balanced)
  have owned : (state.ledger label held).held = label.world.acquired name + (state.unkeyed label).owned := by
    rw [works.owned id, ← probed]
    exact congrArg (state.probed label + ·) balanced
  have adopts := leads_adoptCwdevice stored type fd name acquired owned (works.fd id .lp).symm
  have owns := adoptCwdevice_owned stored type fd name acquired (state.unkeyed label)
  have current : ((state.unkeyed label).adoptCwdevice label.world type fd name).2.globalCwdevice = type := by
    obtain ⟨devices, log, equal, -⟩ := adoptCwdevice_eq label.world type fd name (state.unkeyed label)
    rw [equal]
  obtain ⟨rest, owned'⟩ := step_owned running action stored adopted acquired
  generalize ((state.unkeyed label).adoptCwdevice label.world type fd name).2 = after at adopts owns current rest
  -- The parallel port, if it is the new device, goes by the descriptor that is open now.
  have opened : after.Open ⟨label.world.acquired name, if type = .lp then fd else (state.ledger label held).lp⟩
      after.globalCwdevice := by
    refine open_owned (fun fd member => owns ▸ member) fun port => ?_
    have parallel : type = .lp := current.symm.trans port
    have only : after.owned = {(after.devices .lp).fd} := by simp only [State.owned, descriptors, port]
    rw [if_pos parallel]
    rcases acquired with ⟨null, -⟩ | ⟨-, singleton⟩
    · rw [parallel] at null
      cases null
    · exact Multiset.singleton_inj.mp (singleton.symm.trans (owns.symm.trans only))
  obtain ⟨new, log, accepts, turns⟩ := (begun.trans adopts).trans (.of_works rest id opened)
  rw [List.nil_append] at log
  refine ⟨fun _ => ?_, log ▸ accepts⟩
  rw [owned']
  exact congrArg Ledger.held ((congrArg (ledgerMonitor.after · (state.ledger label held)) log).trans turns)

/-- A name that cannot be stored is adopted by halves, but for a null device in the place of
a null device. -/
theorem cwdevice_unstored_iff (running : state.status = .running)
    (action : label.input.action = .request .cwdevice name) (balanced : held = state.owned)
    (unstored : label.world.strdup = false) {fd : Int}
    (adopted : (state.unkeyed label).optionCwdevice label.world name =
      (state.unkeyed label).adoptCwdevice label.world (selectedType label.world name) fd name)
    (null : selectedType label.world name = .null → label.world.acquired name = 0) :
    Balanced (account label (state, held)) ∧ Careful label (state, held) ↔
      state.globalCwdevice = .null ∧ selectedType label.world name = .null := by
  have works := works_unkeyed label state
  obtain ⟨devices, log, equal, -⟩ := adoptCwdevice_eq label.world (selectedType label.world name) fd name (state.unkeyed label)
  have failure : ((state.unkeyed label).adoptCwdevice label.world (selectedType label.world name) fd name).1 = false := by
    rw [equal, unstored]
  have stepped := step_unkeyed running action
  simp only [adopted, failure, Bool.false_eq_true, if_false] at stepped
  constructor
  · rintro ⟨-, -, alone⟩
    obtain ⟨device, -, closes⟩ := alone name running action ((optionCwdevice_fails_iff _ _ _).mpr (.inr unstored))
    have current : state.globalCwdevice = .null := by
      by_contra port
      have before : (state.unkeyed label).globalCwdevice ≠ .null := works.globalCwdevice id ▸ port
      obtain ⟨entry, member, replaces⟩ := adoptCwdevice_closes label.world (selectedType label.world name) fd name before
      have finish := Works.finish label.world label.input
        ((state.unkeyed label).adoptCwdevice label.world (selectedType label.world name) fd name).2
      rw [closes entry (stepped ▸ finish.adds.subset member)] at replaces
      cases replaces
    have selected : (state.step label).globalCwdevice = selectedType label.world name := by
      rw [stepped, (Works.finish label.world label.input _).globalCwdevice id, equal]
    exact ⟨current, selected.symm.trans (device.trans current)⟩
  · rintro ⟨current, selected⟩
    rw [selected] at stepped
    have adopts : Works { Licence.polling label.world with renames := True } _ _ :=
      works_adoptCwdevice_null trivial unstored fd name ((works.globalCwdevice id).trans current)
    have polls : Works { Licence.polling label.world with renames := True } _ _ :=
      (Works.finish label.world label.input ((state.unkeyed label).adoptCwdevice label.world .null fd name).2).mono
        ⟨id, id, id, id, id, False.elim, id, id⟩
    have stays : Works { Licence.polling label.world with renames := True } { state with log := [] } (state.step label) :=
      stepped ▸ ((works.mono (Licence.none_within _)).trans adopts).trans polls
    exact balanced_of_works stays id balanced (by simpa only [State.probed, running, action] using null selected)

end Cwdevice

/-! ## Any step -/

theorem account_iff (label : Label) (linked : state.Linked) {held : Multiset Int} (balances : Balanced (state, held)) :
    Balanced (account label (state, held)) ∧ Careful label (state, held) ↔ state.Spares label := by
  by_cases running : state.status = .running
  case neg =>
    have stopped : state.step label = { state with log := [] } := step_ended label running
    refine iff_of_true ⟨fun live => ?_, ?_, fun _ live => absurd live running⟩ fun _ live => absurd live running
    · rw [stopped] at live
      exact absurd live running
    · rw [stopped]
      trivial
  have balanced : held = state.owned := balances running
  by_cases request : ∃ name, label.input.action = .request .cwdevice name
  · obtain ⟨name, action⟩ := request
    have only : state.Spares label ↔ name = [] ∨ ¬ Refused label.world name ∧
        (label.world.strdup = true ∨ state.globalCwdevice = .null ∧ selectedType label.world name = .null) := by
      refine ⟨fun spares => spares name running action, fun spares other _ action' => ?_⟩
      obtain rfl : name = other := by simpa [action] using action'
      exact spares
    rw [only]
    rcases optionCwdevice_acquired label.world name (state.unkeyed label) with
      ⟨refused, unchanged, opened⟩ | ⟨accepted, fd, adopted, acquired⟩
    · rw [cwdevice_refused_iff running action balanced unchanged]
      rcases opened with ⟨empty, unopened⟩ | ⟨named, fd, opened⟩
      · exact iff_of_true unopened (.inl empty)
      · simp [opened, named, refused]
    · have named : name ≠ [] := fun empty => accepted (.inl empty)
      cases stored : label.world.strdup with
      | true =>
        obtain ⟨balances, accepts⟩ := cwdevice_adopted running action balanced stored adopted acquired
        refine iff_of_true ⟨balances, accepts, fun other _ action' fails => ?_⟩ (.inr ⟨accepted, .inl rfl⟩)
        obtain rfl : name = other := by simpa [action] using action'
        exact absurd ((optionCwdevice_fails_iff _ _ _).mp fails) (by simp [accepted, stored])
      | false =>
        rw [cwdevice_unstored_iff running action balanced stored adopted
          fun null => (acquired.resolve_right fun port => port.1 null).2]
        simp [named, accepted]
  · have other (name : Bytes) : label.input.action ≠ .request .cwdevice name := fun action => request ⟨name, action⟩
    have unprobed : state.probed label = 0 := by
      unfold State.probed
      split
      · exact absurd (by assumption) (other _)
      · rfl
    have spares : state.Spares label := fun name _ action => absurd action (other name)
    refine iff_of_true ?_ spares
    by_cases replaces : (label.input.action.licence (state.ready label.input)).replaces
    · obtain ⟨code, exits⟩ := act_of_replaces label.world replaces other
      obtain ⟨accepts, ended⟩ := accepts_exit running exits balanced
      exact ⟨fun live => absurd live ended, accepts, fun name _ action => absurd action (other name)⟩
    · exact balanced_of_works (.step label (.inr linked) (Licence.Within.refl _)) replaces balanced unprobed

end State

open State

/-- Along a run the open descriptors are those that the current cwdevice owns, none is used
or closed that is not open, and a CWDEVICE request that fails changes nothing, exactly if no
CWDEVICE request names a port that is refused and each finds memory for its name. -/
theorem descriptors_are_owned_once_iff {initial : State} (started : Started initial) (labels : List Label) :
    Runs.States account Balanced labels (initial, initial.owned) ∧
        Runs.Steps account Careful labels (initial, initial.owned) ↔
      Runs.Steps State.step Spares labels initial := by
  have preserved (label : Label) (accounted : State × Multiset Int)
      (invariant : accounted.1.Wellformed ∧ accounted.1.Linked) :
      (account label accounted).1.Wellformed ∧ (account label accounted).1.Linked :=
    ⟨invariant.1.step label, invariant.2.step label invariant.1⟩
  have exact_step (label : Label) (accounted : State × Multiset Int)
      (invariant : accounted.1.Wellformed ∧ accounted.1.Linked) (balances : Balanced accounted) :
      Balanced (account label accounted) ∧ Careful label accounted ↔ accounted.1.Spares label :=
    account_iff label invariant.2 balances
  have linked : initial.Linked := Reachable.linked ⟨initial, [], started, rfl⟩
  rw [Runs.states_and_steps_iff preserved exact_step labels ⟨started.wellformed, linked⟩ fun _ => rfl]
  exact Runs.steps_image Prod.fst (fun _ _ => rfl) Spares labels (initial, initial.owned)

/-- A world in which an ordinary user may open the parallel port. -/
def permissive : World := { calm with openLp := fun _ => some 4 }

/-- The parallel port is refused to an ordinary user, and left open. -/
theorem refused_port_stays_open :
    ¬ ∀ initial labels, Started initial →
      Runs.States account Balanced labels (initial, initial.owned) ∧
        Runs.Steps account Careful labels (initial, initial.owned) := by
  intro claim
  have balances := (claim onSerialPort [permissive.receivesEscape .cwdevice parport0] started_onSerialPort).1.2
  exact absurd (balances (by decide +kernel)) (by decide +kernel)

/-- The null device and the serial port are selected in turn, and the serial port again. -/
theorem descriptors_are_owned_once_for_selections :
    Runs.States account Balanced [calm.receivesEscape .cwdevice nullName, calm.receivesEscape .cwdevice ttyS0,
        calm.receives [byte 'e'], calm.receivesEscape .cwdevice ttyS0] (onSerialPort, onSerialPort.owned) ∧
      Runs.Steps account Careful [calm.receivesEscape .cwdevice nullName, calm.receivesEscape .cwdevice ttyS0,
        calm.receives [byte 'e'], calm.receivesEscape .cwdevice ttyS0] (onSerialPort, onSerialPort.owned) := by
  have spares {name : Bytes} (asked : (calm.receivesEscape .cwdevice name).input.action = .request .cwdevice name)
      (known : ¬ Refused calm name) (state : State) : state.Spares (calm.receivesEscape .cwdevice name) := by
    intro other _ action
    obtain rfl : name = other := by simpa [asked] using action
    exact .inr ⟨known, .inl rfl⟩
  have text (state : State) : state.Spares (calm.receives [byte 'e']) := by
    intro name _ action
    have played : Action.text [byte 'e'] = .request .cwdevice name := action
    cases played
  exact (descriptors_are_owned_once_iff started_onSerialPort _).mpr
    ⟨spares rfl (by decide +kernel) _, spares rfl (by decide +kernel) _, text _, spares rfl (by decide +kernel) _, trivial⟩

end Cwdaemon
