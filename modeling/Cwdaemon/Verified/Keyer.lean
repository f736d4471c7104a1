import Mathlib.Data.Bool.Basic

/-! # The PTT controller, abstractly

What the daemon is for, as far as PTT is concerned: a text raises the line of the
transmitter, the line stays up while there are tones to play, and when libcw runs
low on tones the controller lowers it, unless the line is held by hand or a reply
is still owed.  A `Keyer` has just enough state to say that: no buffers, no
devices, no generator, and a queue that is only counted.

`Accounted`, `Truthful` and `Released` are the three promises about the line.
`Accounted` is kept by every move.  The other two are kept by a move exactly when
`Move.Truthful` or `Move.Released` holds of it, and these conditions are where
the daemon goes wrong.
-/

namespace Cwdaemon

/-- The state of the controller: whether the keying device is a serial port, the PTT
line of the serial port, the three reasons for PTT, whether PTT is in use at all
(a non-zero delay), whether a text is being read, whether there is a generator,
and the number of tones in its queue. -/
structure Keyer where
  serial : Bool
  line : Bool
  auto : Bool
  manual : Bool
  echo : Bool
  delayed : Bool
  text : Bool
  generator : Bool
  tones : Nat
  deriving DecidableEq, Repr

namespace Keyer

/-! ## Moves -/

/-- Turn PTT on for something to be keyed. -/
def raise (keyer : Keyer) : Keyer :=
  if keyer.delayed && !keyer.auto then
    { keyer with line := keyer.line || keyer.serial, auto := true }
  else keyer

/-- Turn PTT off, whatever the reason it was on. -/
def lower (keyer : Keyer) : Keyer :=
  { keyer with line := keyer.line && !keyer.serial, auto := false, manual := false, echo := false }

def queue (count : Nat) (keyer : Keyer) : Keyer :=
  { keyer with tones := keyer.tones + if keyer.generator then count else 0 }

def flush (keyer : Keyer) : Keyer := { keyer with tones := 0 }

/-- The queue has run low. -/
def low (keyer : Keyer) : Keyer :=
  if keyer.auto && !keyer.manual && !keyer.echo && !keyer.text && decide (keyer.tones ≤ 1) then
    keyer.lower
  else if keyer.echo then
    if keyer.auto && !keyer.manual then { keyer with echo := false }.queue 2
    else { keyer with echo := false }
  else keyer

/-- A tone is taken from the queue. -/
def drain (keyer : Keyer) : Keyer :=
  match keyer.tones with
  | 0 => keyer
  | tones + 1 =>
    let taken := { keyer with tones := tones }
    if tones = 1 then taken.low else taken

/-- The requests, as the controller sees them. -/
inductive Move where
  | keep
  | press
  | release
  | delay (on : Bool)
  | tune (count : Nat)
  | abort
  | reset (delayed generator : Bool)
  | renew (generator : Bool)
  | select (serial initialised : Bool)
  | arm
  | exit

def move : Move → Keyer → Keyer
  | .keep, keyer => keyer
  | .press, keyer => { keyer.raise with manual := true }
  | .release, keyer =>
    if keyer.manual then
      if !keyer.text && decide (keyer.tones ≤ 1) then keyer.lower
      else { keyer with manual := false, auto := true }
    else keyer
  | .delay on, keyer => if on then { keyer with delayed := true } else { keyer.lower with delayed := false }
  | .tune count, keyer => keyer.flush.raise.queue count
  | .abort, keyer =>
    if keyer.auto || keyer.manual || keyer.echo then { keyer.flush.lower with text := false }
    else { keyer.flush with text := false }
  | .reset delayed generator, keyer =>
    { keyer.flush.lower with text := false, delayed := delayed, generator := generator }
  | .renew generator, keyer => { keyer.flush with generator := generator }
  | .select serial initialised, keyer =>
    { keyer with
      serial := serial
      line := keyer.line && !keyer.serial && !(serial && initialised) }
  | .arm, keyer => { keyer with echo := true }
  | .exit, keyer =>
    { keyer with line := keyer.line && !keyer.serial, generator := false, tones := 0 }

/-- What happens while a text is being read: PTT is raised and tones are queued, tones
are taken from the queue of the busy controller if it is interrupted, and in the end a
reply may be armed. -/
inductive Read (interrupted : Prop) : Keyer → Keyer → Prop
  | keep (keyer : Keyer) : Read interrupted keyer keyer
  | raise (keyer : Keyer) : Read interrupted keyer keyer.raise
  | queue (count : Nat) (keyer : Keyer) : Read interrupted keyer (keyer.queue count)
  | drain (keyer : Keyer) (busy : keyer.text = true) (drains : interrupted) : Read interrupted keyer keyer.drain
  | arm (text : Bool) (keyer : Keyer) : Read interrupted keyer { keyer with text := text, echo := true }

@[simp] theorem queue_zero (keyer : Keyer) : keyer.queue 0 = keyer := by simp [queue]

@[simp] theorem queue_queue (first second : Nat) (keyer : Keyer) :
    (keyer.queue first).queue second = keyer.queue (first + second) := by
  cases opened : keyer.generator <;> simp [queue, opened, Nat.add_assoc]

/-- What survives a PTT that is put off, and does not look at the owed reply or at the
number of tones, survives the taking of a tone. -/
theorem drain_preserves {invariant : Keyer → Prop}
    (lowered : ∀ keyer, invariant keyer → invariant keyer.lower)
    (unseen : ∀ keyer echo tones, invariant keyer → invariant { keyer with echo := echo, tones := tones })
    {keyer : Keyer} (holds : invariant keyer) : invariant keyer.drain := by
  have low (taken : Keyer) (holds : invariant taken) : invariant taken.low := by
    unfold low
    split
    · exact lowered taken holds
    · split
      · split
        · exact unseen taken false _ holds
        · exact unseen taken false taken.tones holds
      · exact holds
  unfold drain
  split
  case h_1 => exact holds
  case h_2 tones _ =>
    have taken := unseen keyer keyer.echo tones holds
    dsimp only
    split
    · exact low _ taken
    · exact taken

/-! ## PTT is on only when it is accounted for -/

/-- The line is up only on the keying device, in automatic mode, with PTT in use. -/
def Accounted (keyer : Keyer) : Prop :=
  keyer.line = true → keyer.serial = true ∧ keyer.auto = true ∧ keyer.delayed = true

theorem Accounted.raise {keyer : Keyer} (accounted : keyer.Accounted) : keyer.raise.Accounted := by
  simp only [Accounted, Keyer.raise] at *
  grind

theorem accounted_lower {keyer : Keyer} (accounted : keyer.Accounted) : keyer.lower.line = false := by
  simp only [Accounted, lower] at *
  grind

theorem Accounted.lower {keyer : Keyer} (accounted : keyer.Accounted) : keyer.lower.Accounted := by
  intro on
  rw [accounted_lower accounted] at on
  cases on

theorem Accounted.queue {keyer : Keyer} (accounted : keyer.Accounted) (count : Nat) :
    (keyer.queue count).Accounted := accounted

theorem Accounted.move {keyer : Keyer} (accounted : keyer.Accounted) (move : Move) :
    (keyer.move move).Accounted := by
  have lowered := accounted_lower accounted
  cases move with
  | press => exact Accounted.raise accounted
  | tune count =>
    have flushed : keyer.flush.Accounted := accounted
    exact flushed.raise
  | _ =>
    -- No other move raises the line, and those that give up automatic mode or the delay lower it.
    simp only [Accounted, Keyer.move, flush, Keyer.lower] at *
    grind

theorem raise_line {keyer : Keyer} (up : keyer.line = true) : keyer.raise.line = true := by
  unfold raise
  split
  · simp [up]
  · exact up

theorem line_of_raise {keyer : Keyer} (up : keyer.raise.line = true) :
    keyer.line = true ∨ keyer.serial = true ∧ keyer.delayed = true ∧ keyer.auto = false := by
  unfold raise at up
  split at up
  case isTrue raises =>
    simp only [Bool.or_eq_true] at up
    simp only [Bool.and_eq_true, Bool.not_eq_true'] at raises
    exact up.imp id fun serial => ⟨serial, raises.1, raises.2⟩
  case isFalse => exact .inl up

/-- Nothing that happens while a text is being read lowers the line. -/
theorem Read.line {interrupted : Prop} {before after : Keyer} (read : Read interrupted before after)
    (up : before.line = true) : after.line = true := by
  cases read with
  | keep | queue | arm => exact up
  | raise => exact raise_line up
  | drain _ busy =>
    -- The callback may run, but it does not lower the line of a busy controller.
    unfold Keyer.drain
    split
    · exact up
    · split
      · simp only [Keyer.low, busy]
        grind [Keyer.queue]
      · exact up

/-! ## The flag never claims a PTT that is off -/

/-- On a serial port, automatic mode means that the line is up. -/
def Truthful (keyer : Keyer) : Prop :=
  keyer.serial = true → keyer.auto = true → keyer.line = true

/-- A device is selected only when no automatic mode is left over from another one,
and the line is handed from the hand to automatic mode only when it is up. -/
def Move.Truthful : Move → Keyer → Prop
  | .select serial _, keyer => serial = true → keyer.auto = false
  | .release, keyer =>
    keyer.manual = true → keyer.auto = false → (keyer.text = true ∨ 1 < keyer.tones) →
      keyer.serial = false
  | .exit, keyer => keyer.serial = true → keyer.auto = false
  | _, _ => True

theorem Truthful.raise {keyer : Keyer} (truthful : keyer.Truthful) : keyer.raise.Truthful := by
  simp only [Truthful, Keyer.raise] at *
  grind

theorem Truthful.drain {keyer : Keyer} (truthful : keyer.Truthful) : keyer.drain.Truthful :=
  -- Where PTT was put off, automatic mode is gone with the line.
  drain_preserves (fun _ _ _ auto => absurd auto Bool.false_ne_true) (fun _ _ _ truthful => truthful) truthful

theorem Truthful.read {interrupted : Prop} {before after : Keyer} (truthful : before.Truthful)
    (read : Read interrupted before after) : after.Truthful := by
  cases read with
  | keep => exact truthful
  | raise => exact truthful.raise
  | queue count => exact truthful
  | drain => exact truthful.drain
  | arm => exact truthful

theorem truthful_move_iff {keyer : Keyer} (accounted : keyer.Accounted) (truthful : keyer.Truthful)
    (move : Move) : (keyer.move move).Truthful ↔ move.Truthful keyer := by
  cases move with
  | press => exact iff_of_true (Truthful.raise truthful) trivial
  | tune count =>
    have flushed : keyer.flush.Truthful := truthful
    exact iff_of_true flushed.raise trivial
  | _ =>
    simp only [Truthful, Accounted, Move.Truthful, Keyer.move, flush, Keyer.lower] at *
    grind

/-! ## No stuck PTT -/

/-- An undisturbed text takes no tone from the queue, does not touch manual mode, forgets
no reply, and puts the line up only where PTT is in use and automatic mode was off. -/
structure Undisturbed (before after : Keyer) : Prop where
  serial : after.serial = before.serial
  delayed : after.delayed = before.delayed
  manual : after.manual = before.manual
  tones : before.tones ≤ after.tones
  auto : before.auto = true → after.auto = true
  echo : before.echo = true → after.echo = true
  line : after.line = true → before.line = true ∨
    before.serial = true ∧ before.delayed = true ∧ before.auto = false

theorem Undisturbed.refl (keyer : Keyer) : Undisturbed keyer keyer :=
  ⟨rfl, rfl, rfl, Nat.le_refl _, id, id, .inl⟩

theorem Undisturbed.read {first before after : Keyer} (undisturbed : Undisturbed first before)
    (read : Read False before after) : Undisturbed first after := by
  cases read with
  | keep => exact undisturbed
  | arm => exact ⟨undisturbed.serial, undisturbed.delayed, undisturbed.manual, undisturbed.tones,
      undisturbed.auto, fun _ => rfl, undisturbed.line⟩
  | queue count => exact ⟨undisturbed.serial, undisturbed.delayed, undisturbed.manual,
      Nat.le_trans undisturbed.tones (Nat.le_add_right _ _), undisturbed.auto, undisturbed.echo, undisturbed.line⟩
  | drain _ _ drains => exact drains.elim
  | raise =>
    -- PTT may have been raised before: then automatic mode is on and the line was up already.
    obtain ⟨serial, delayed, manual, tones, auto, echo, line⟩ := undisturbed
    have raised (up : before.raise.line = true) : first.line = true ∨
        first.serial = true ∧ first.delayed = true ∧ first.auto = false := by
      rcases line_of_raise up with before | ⟨serial', delayed', auto'⟩
      · exact line before
      · grind
    unfold raise at raised ⊢
    split
    case isTrue raises =>
      rw [if_pos raises] at raised
      exact ⟨serial, delayed, manual, tones, fun _ => rfl, echo, raised⟩
    case isFalse => exact ⟨serial, delayed, manual, tones, auto, echo, line⟩

/-- A line that is up in automatic mode alone has a callback still to come. -/
def Released (keyer : Keyer) : Prop :=
  keyer.line = true → keyer.manual = false → 2 ≤ keyer.tones

/-- A move that empties the queue under an automatic PTT, or that raises an automatic
PTT, puts at least two tones in the queue. -/
def Move.Released : Move → Keyer → Prop
  | .tune count, keyer =>
    keyer.flush.raise.line = true → keyer.manual = false → keyer.generator = true ∧ 2 ≤ count
  | .renew _, keyer => keyer.line = true → keyer.manual = true
  | _, _ => True

theorem Released.drain {keyer : Keyer} (accounted : keyer.Accounted) (released : keyer.Released)
    (idle : keyer.text = false) (owned : keyer.generator = false → keyer.tones = 0) :
    keyer.drain.Released := by
  rcases keyer with ⟨serial, line, auto, manual, echo, delayed, text, generator, tones⟩
  simp only [Accounted, Released] at *
  match tones with
  | 0 => exact released
  | 1 => intro on off; exact absurd (released on off) (by decide)
  | 2 =>
    -- One tone is left and the callback runs: it lowers the line, or answers and queues two more.
    simp only [Keyer.drain, Keyer.low, Keyer.lower, Keyer.queue]
    grind
  | count + 3 =>
    -- No callback yet, and at least two tones are left.
    simp only [Keyer.drain]
    grind

theorem Released.move {keyer : Keyer} (accounted : keyer.Accounted) (released : keyer.Released)
    (idle : keyer.text = false) {move : Move} (allowed : move.Released keyer) :
    (keyer.move move).Released := by
  cases move with
  | tune count =>
    intro on off
    have flushed : keyer.flush.raise.manual = keyer.manual := by
      simp only [Keyer.raise]
      split <;> rfl
    have kept : keyer.flush.raise.generator = keyer.generator := by
      simp only [Keyer.raise]
      split <;> rfl
    obtain ⟨generator, enough⟩ := allowed on (flushed ▸ off)
    -- The queue was emptied, so that the tones are those of the tuning.
    simp only [Keyer.move, Keyer.queue, kept, generator, if_true]
    omega
  | _ =>
    simp only [Accounted, Released, Move.Released, Keyer.move, Keyer.flush, Keyer.raise,
      Keyer.lower] at *
    grind

/-! ## The tone queue -/

@[simp] theorem raise_tones (keyer : Keyer) : keyer.raise.tones = keyer.tones := by
  unfold raise
  split <;> rfl

/-- Of the moves only a tuning puts tones in the queue. -/
theorem tones_move_le (keyer : Keyer) {move : Move} (untuned : ∀ count, move ≠ .tune count) :
    (keyer.move move).tones ≤ keyer.tones := by
  cases move with
  | tune count => exact absurd rfl (untuned count)
  | keep | select | arm => exact Nat.le_refl _
  | press => exact Nat.le_of_eq (raise_tones keyer)
  | reset | renew | exit => exact Nat.zero_le _
  | abort | delay | release =>
    simp only [Keyer.move, flush, Keyer.lower]
    grind

/-- A tone taken from a queue of one at most brings no callback. -/
theorem drain_few {keyer : Keyer} (few : keyer.tones ≤ 1) : keyer.drain = { keyer with tones := 0 } := by
  unfold drain
  split
  case h_1 empty => simp [← empty]
  case h_2 tones one =>
    have last : tones = 0 := by omega
    simp [last]

/-! ## The reply that is owed -/

/-- A move that leaves a reply owed: it neither puts PTT off nor aborts. -/
def Move.Owes : Move → Keyer → Prop
  | .release, keyer => keyer.manual = true → keyer.text = true ∨ 1 < keyer.tones
  | .delay on, _ => on = true
  | .abort, _ => False
  | .reset _ _, _ => False
  | _, _ => True

@[simp] theorem raise_echo (keyer : Keyer) : keyer.raise.echo = keyer.echo := by
  unfold raise
  split <;> rfl

theorem owes_move_iff {keyer : Keyer} (owed : keyer.echo = true) (move : Move) :
    (keyer.move move).echo = true ↔ move.Owes keyer := by
  cases move with
  | keep | renew | select | exit => exact iff_of_true owed trivial
  | arm => exact iff_of_true rfl trivial
  | press => exact iff_of_true ((raise_echo keyer).trans owed) trivial
  | tune => exact iff_of_true ((raise_echo keyer.flush).trans owed) trivial
  | reset => exact iff_of_false Bool.false_ne_true id
  | abort => simp [Keyer.move, Move.Owes, owed, Keyer.lower]
  | delay on => cases on <;> simp [Keyer.move, Move.Owes, owed, Keyer.lower]
  | release =>
    simp only [Keyer.move, Move.Owes, Keyer.lower]
    grind

/-- Only arming makes a reply owed. -/
theorem echo_of_move {keyer : Keyer} {move : Move} (unarmed : move ≠ .arm)
    (owed : (keyer.move move).echo = true) : keyer.echo = true := by
  cases move with
  | arm => exact absurd rfl unarmed
  | keep | renew | select | exit => exact owed
  | press => exact (raise_echo keyer).symm.trans owed
  | tune => exact (raise_echo keyer.flush).symm.trans owed
  | reset => exact absurd owed Bool.false_ne_true
  | abort | delay | release =>
    simp only [Keyer.move, flush, Keyer.lower] at owed
    grind

end Keyer

end Cwdaemon
