import Cwdaemon.Daemon.Sleep
import Cwdaemon.Verified.InStep

/-! # How long a sleep is

What was slept and what remains always add up to the request, however often a signal
comes between.  Only the conversion from milliseconds can go wrong: its product is
taken modulo 2^32.
-/

namespace Cwdaemon

namespace Timespec

theorem valid_ofNanosecs {nanosecs : Int} (positive : 0 ≤ nanosecs) : (ofNanosecs nanosecs).Valid := by
  simp only [Valid, ofNanosecs, CWDAEMON_NANOSECS_PER_SEC]
  omega

theorem nanosecs_ofNanosecs (nanosecs : Int) : (ofNanosecs nanosecs).nanosecs = nanosecs := by
  simp only [Timespec.nanosecs, ofNanosecs, CWDAEMON_NANOSECS_PER_SEC]
  omega

end Timespec

/-- What can become of a request that is not refused.  A signal loses none of it. -/
theorem nanosleep_cases {req : Timespec} (valid : req.Valid) (wakeup : Wakeup) :
    nanosleep req wakeup = .elapsed ∨
    (∃ slept remaining, nanosleep req wakeup = .interrupted slept remaining ∧ remaining.Valid ∧
      slept + remaining.nanosecs = req.nanosecs) ∨
    wakeup = .error ∧ nanosleep req wakeup = .failed := by
  simp only [nanosleep, not_not.mpr valid, if_false]
  cases wakeup with
  | error => exact .inr (.inr ⟨rfl, rfl⟩)
  | signal slept =>
    by_cases early : (slept : Int) < req.nanosecs
    · refine .inr (.inl ⟨slept, _, if_pos early, Timespec.valid_ofNanosecs (by omega), ?_⟩)
      rw [Timespec.nanosecs_ofNanosecs]
      omega
    · exact .inl (if_neg early)

/-- A sleep that returns 0 was as long as it was asked to be, and it does return 0 when
only signals disturb it; `nanosleep()` was asked for nothing that it refuses. -/
structure Slept.Lasts (slept : Slept) (wakeups : List Wakeup) (nanosecs : Int) : Prop where
  exactly : slept.retv = 0 → slept.nanosecs = nanosecs
  succeeds : .error ∉ wakeups → slept.retv = 0
  valid : ∀ request ∈ slept.requests, request.Valid

theorem sleepLoop_lasts (wakeups : List Wakeup) {remaining : Timespec} (valid : remaining.Valid) :
    (sleepLoop wakeups remaining).Lasts wakeups remaining.nanosecs := by
  induction wakeups generalizing remaining with
  | nil =>
    rw [sleepLoop, if_pos valid]
    exact ⟨fun _ => rfl, fun _ => rfl, by simpa using valid⟩
  | cons wakeup wakeups inductionHypothesis =>
    rcases nanosleep_cases valid wakeup with elapsed | ⟨slept, rest, interrupted, valid', total⟩ | ⟨rfl, failed⟩
    · simp only [sleepLoop, elapsed]
      exact ⟨fun _ => rfl, fun _ => rfl, by simpa using valid⟩
    · simp only [sleepLoop, interrupted]
      -- The rest of the request is slept by what follows.
      have later := inductionHypothesis valid'
      constructor
      · intro completed
        have exactly := later.exactly completed
        show slept + (sleepLoop wakeups rest).nanosecs = remaining.nanosecs
        omega
      · intro signals
        exact later.succeeds fun member => signals (List.mem_cons_of_mem _ member)
      · exact List.forall_mem_cons.mpr ⟨valid, later.valid⟩
    · simp only [sleepLoop, failed]
      exact ⟨by simp, by simp, by simpa using valid⟩

/-! ## The three functions -/

theorem microsleepNonintr_lasts (usecs : UInt32) (wakeups : List Wakeup) :
    (microsleepNonintr usecs wakeups).Lasts wakeups (usecs.toNat * 1000) := by
  have split := Nat.div_add_mod usecs.toNat CWDAEMON_MICROSECS_PER_SEC
  have bound := Nat.mod_lt usecs.toNat (show 0 < CWDAEMON_MICROSECS_PER_SEC by decide)
  unfold microsleepNonintr
  generalize usecs.toNat / CWDAEMON_MICROSECS_PER_SEC = seconds at split
  generalize usecs.toNat % CWDAEMON_MICROSECS_PER_SEC = micros at split bound
  simp only [CWDAEMON_MICROSECS_PER_SEC] at split bound
  have valid : Timespec.Valid ⟨seconds, (micros * CWDAEMON_NANOSECS_PER_MICROSEC : Nat)⟩ := by
    simp only [Timespec.Valid, CWDAEMON_NANOSECS_PER_MICROSEC, CWDAEMON_NANOSECS_PER_SEC]
    omega
  have same : Timespec.nanosecs ⟨seconds, (micros * CWDAEMON_NANOSECS_PER_MICROSEC : Nat)⟩ =
      usecs.toNat * 1000 := by
    simp only [Timespec.nanosecs, CWDAEMON_NANOSECS_PER_MICROSEC, CWDAEMON_NANOSECS_PER_SEC]
    omega
  rw [← same]
  exact sleepLoop_lasts wakeups valid

theorem sleepNonintr_lasts (secs : UInt32) (wakeups : List Wakeup) :
    (sleepNonintr secs wakeups).Lasts wakeups (secs.toNat * 1000000000) := by
  have valid : Timespec.Valid ⟨secs.toNat, 0⟩ := by
    simp only [Timespec.Valid, CWDAEMON_NANOSECS_PER_SEC]
    omega
  have same : Timespec.nanosecs ⟨secs.toNat, 0⟩ = secs.toNat * 1000000000 := by
    simp only [Timespec.nanosecs, CWDAEMON_NANOSECS_PER_SEC]
    omega
  rw [← same]
  exact sleepLoop_lasts wakeups valid

/-- The milliseconds are converted without loss as long as the product fits 32 bits. -/
theorem millisleepNonintr_lasts_iff (millisecs : UInt32) :
    (∀ wakeups, (millisleepNonintr millisecs wakeups).Lasts wakeups (millisecs.toNat * 1000000)) ↔
      millisecs.toNat * 1000 < UInt32.size := by
  have product : (millisecs * CWDAEMON_MICROSECS_PER_MILLISEC).toNat = millisecs.toNat * 1000 % UInt32.size :=
    UInt32.toNat_mul _ _
  have micros := microsleepNonintr_lasts (millisecs * CWDAEMON_MICROSECS_PER_MILLISEC)
  rw [product] at micros
  simp only [UInt32.size] at micros ⊢
  constructor
  · intro lasts
    -- An undisturbed sleep is successful, and so long as both sides say.
    have undisturbed := (micros []).succeeds List.not_mem_nil
    have asked := (lasts []).exactly undisturbed
    have slept := (micros []).exactly undisturbed
    have same : (millisleepNonintr millisecs []).nanosecs =
        (microsleepNonintr (millisecs * CWDAEMON_MICROSECS_PER_MILLISEC) []).nanosecs := rfl
    omega
  · intro fits wakeups
    have lasts := micros wakeups
    rw [Nat.mod_eq_of_lt fits] at lasts
    have total : ((millisecs.toNat * 1000 : Nat) : Int) * 1000 = millisecs.toNat * 1000000 := by omega
    rwa [total] at lasts

/-- Sleeps that are asked for in microseconds or in seconds last as long as asked, and one
in milliseconds does exactly if these can be counted as microseconds in 32 bits. -/
theorem sleeps_last_as_asked_iff (usecs millisecs secs : UInt32) :
    (∀ wakeups, (microsleepNonintr usecs wakeups).Lasts wakeups (usecs.toNat * 1000)) ∧
    (∀ wakeups, (sleepNonintr secs wakeups).Lasts wakeups (secs.toNat * 1000000000)) ∧
    ((∀ wakeups, (millisleepNonintr millisecs wakeups).Lasts wakeups (millisecs.toNat * 1000000)) ↔
      millisecs.toNat * 1000 < UInt32.size) :=
  ⟨microsleepNonintr_lasts usecs, sleepNonintr_lasts secs, millisleepNonintr_lasts_iff millisecs⟩

/-- A sleep of 4294968 milliseconds, about 72 minutes, is over after 704 microseconds. -/
theorem sleep_of_72_minutes_is_cut_short :
    ¬ ∀ (value : UInt32) (wakeups : List Wakeup),
      (microsleepNonintr value wakeups).Lasts wakeups (value.toNat * 1000) ∧
      (millisleepNonintr value wakeups).Lasts wakeups (value.toNat * 1000000) ∧
      (sleepNonintr value wakeups).Lasts wakeups (value.toNat * 1000000000) := by
  intro lasts
  have slept : (millisleepNonintr 4294968 []).nanosecs = 704000 := by decide
  have asked := (lasts 4294968 []).2.1.exactly (by decide)
  rw [slept] at asked
  exact absurd asked (by decide)

/-- The pause of `cwdaemon_set_ptt_on()`, of at most 50 milliseconds, is as long as the
PTT delay. -/
theorem ptt_delay_is_slept {state : State} (reachable : Reachable state) (wakeups : List Wakeup) :
    (millisleepNonintr (.ofNat state.current.pttDelayMs) wakeups).Lasts wakeups
      (state.current.pttDelayMs * 1000000) := by
  have bound := reachable.regulated.inRange.pttDelayMs.2
  simp only [CWDAEMON_PTT_DELAY_MAX] at bound
  have same : (UInt32.ofNat state.current.pttDelayMs).toNat = state.current.pttDelayMs :=
    UInt32.toNat_ofNat_of_lt' (by rw [UInt32.size]; omega)
  have lasts := (millisleepNonintr_lasts_iff (.ofNat state.current.pttDelayMs)).mpr (by rw [UInt32.size]; omega) wakeups
  rwa [same] at lasts

end Cwdaemon
