import Cwdaemon.Daemon.Ptt

/-! # Sleeping

`sleep.c`.  A signal ends a `nanosleep()` early, and what is left of the request is
then reported to the caller.  Which calls end early is not up to the daemon: it is a
list of `Wakeup`s, one for each call, and behind its end no call is disturbed.
-/

namespace Cwdaemon

def CWDAEMON_MICROSECS_PER_MILLISEC : UInt32 := 1000
def CWDAEMON_NANOSECS_PER_MICROSEC : Nat := 1000
def CWDAEMON_NANOSECS_PER_SEC : Int := 1000000000

/-- `struct timespec`. -/
structure Timespec where
  tvSec : Int
  tvNsec : Int
  deriving DecidableEq, Repr

namespace Timespec

/-- What `nanosleep()` takes; anything else is refused as `EINVAL`. -/
def Valid (time : Timespec) : Prop :=
  0 ≤ time.tvSec ∧ 0 ≤ time.tvNsec ∧ time.tvNsec < CWDAEMON_NANOSECS_PER_SEC

instance (time : Timespec) : Decidable time.Valid := inferInstanceAs (Decidable (_ ∧ _))

def nanosecs (time : Timespec) : Int := time.tvSec * CWDAEMON_NANOSECS_PER_SEC + time.tvNsec

/-- A time as it is reported in `*remaining`. -/
def ofNanosecs (nanosecs : Int) : Timespec :=
  ⟨nanosecs / CWDAEMON_NANOSECS_PER_SEC, nanosecs % CWDAEMON_NANOSECS_PER_SEC⟩

end Timespec

/-- What ends a call of `nanosleep()` early: a signal after so many nanoseconds
(`EINTR`), or another error. -/
inductive Wakeup where
  | signal (nanosecs : Nat)
  | error
  deriving DecidableEq, Repr

/-- What becomes of a call of `nanosleep()`. -/
inductive Nanosleep where
  | elapsed
  | interrupted (slept : Int) (remaining : Timespec)
  | failed
  deriving DecidableEq, Repr

/-- `nanosleep(&req, &remaining)`. -/
def nanosleep (req : Timespec) (wakeup : Wakeup) : Nanosleep :=
  if ¬ req.Valid then .failed
  else
    match wakeup with
    | .signal slept =>
      -- A signal that comes when the time has elapsed does not end the call.
      if slept < req.nanosecs then .interrupted slept (.ofNanosecs (req.nanosecs - slept)) else .elapsed
    | .error => .failed

/-- What a sleep returns, what it has asked of `nanosleep()`, and how long it was. -/
structure Slept where
  retv : Int
  requests : List Timespec
  nanosecs : Int
  deriving DecidableEq, Repr

/-- The loop of `microsleep_nonintr()` and of `sleep_nonintr()`. -/
def sleepLoop : List Wakeup → Timespec → Slept
  | [], remaining =>
    if remaining.Valid then ⟨0, [remaining], remaining.nanosecs⟩ else ⟨-1, [remaining], 0⟩
  | wakeup :: wakeups, remaining =>
    match nanosleep remaining wakeup with
    | .elapsed => ⟨0, [remaining], remaining.nanosecs⟩
    | .interrupted slept rest =>
      let later := sleepLoop wakeups rest
      ⟨later.retv, remaining :: later.requests, slept + later.nanosecs⟩
    | .failed => ⟨-1, [remaining], 0⟩

/-- `microsleep_nonintr()`. -/
def microsleepNonintr (usecs : UInt32) (wakeups : List Wakeup) : Slept :=
  let seconds := usecs.toNat / CWDAEMON_MICROSECS_PER_SEC
  let micros := usecs.toNat % CWDAEMON_MICROSECS_PER_SEC
  sleepLoop wakeups ⟨seconds, (micros * CWDAEMON_NANOSECS_PER_MICROSEC : Nat)⟩

/-- `millisleep_nonintr()`; the product is an `unsigned int`. -/
def millisleepNonintr (millisecs : UInt32) (wakeups : List Wakeup) : Slept :=
  microsleepNonintr (millisecs * CWDAEMON_MICROSECS_PER_MILLISEC) wakeups

/-- `sleep_nonintr()`. -/
def sleepNonintr (secs : UInt32) (wakeups : List Wakeup) : Slept := sleepLoop wakeups ⟨secs.toNat, 0⟩

end Cwdaemon
