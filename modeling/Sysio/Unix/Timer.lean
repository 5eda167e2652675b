import Mathlib.Algebra.Order.Ring.Int
import Mathlib.Data.List.Induction

/-!
# The timers of `unix/timer.c`

A timer is a `timerfd` of the kernel, given by the nanoseconds until it expires, with what the
library keeps about it. `TimerLife` says what a user of the library knows: whether the timer runs,
and since when. The library does not know it that well: a timer that is stopped stays active, and
one that expires within a millisecond has timed out (`timerHolds_iff`).
-/

namespace Sysio.Unix

/-- A `timerfd`: nothing is left when it has expired or is disarmed. -/
structure TimerFd where
  remaining : ℕ
  period : ℕ
deriving DecidableEq, Repr

/-- Time passes; a timer with a period starts again when it expires. -/
def TimerFd.elapse (fd : TimerFd) (ns : ℕ) : TimerFd :=
  if ns < fd.remaining then { fd with remaining := fd.remaining - ns }
  else if fd.remaining = 0 ∨ fd.period = 0 then { fd with remaining := 0 }
  else { fd with remaining := fd.period - (ns - fd.remaining) % fd.period }

/-- A timer of the library; its interval is in milliseconds. -/
structure XTimer where
  fd : TimerFd
  interval : ℕ
  isSingleshot : Bool
  isActive : Bool
deriving DecidableEq, Repr

/-- A timer that was created: single shot, without an interval. -/
def xTimerNew : XTimer := ⟨⟨0, 0⟩, 0, true, false⟩

/-- The library takes the timer for active. -/
def bTimerIsActive (tm : XTimer) : Bool := tm.isActive

/-- The interval, from the next start on. -/
def vTimerSetInterval (tm : XTimer) (ms : ℕ) : XTimer := { tm with interval := ms }

/-- Whether it runs once, from the next start on. -/
def vTimerSetSingleShot (tm : XTimer) (singleShot : Bool) : XTimer :=
  { tm with isSingleshot := singleShot }

/-- `timerfd_settime` succeeds. -/
def timerfdSettime (tm : XTimer) (value interval : ℕ) : ℤ × XTimer :=
  (0, { tm with fd := ⟨value, interval⟩ })

/-- The `timerfd` is disarmed, and the flag is set from the result. -/
def iTimerStop (tm : XTimer) : ℤ × XTimer :=
  if tm.isActive then
    let (ret, tm) := timerfdSettime tm 0 0
    (ret, { tm with isActive := ret == 0 })
  else (0, tm)

/-- A timer that runs is stopped first. -/
def iTimerStart (tm : XTimer) : ℤ × XTimer :=
  let (ret, tm) := iTimerStop tm
  if ret = 0 then
    let sec := tm.interval / 1000
    let nsec := tm.interval % 1000 * 1000000
    let value := sec * 1000000000 + nsec
    let (ret, tm) := timerfdSettime tm value (if tm.isSingleshot then 0 else value)
    (ret, { tm with isActive := ret == 0 })
  else (ret, tm)

/-- The milliseconds that are left, without their fraction, or -1. -/
def lTimerRemainingTime (tm : XTimer) : ℤ :=
  if tm.isActive then
    let sec := tm.fd.remaining / 1000000000
    let nsec := tm.fd.remaining % 1000000000
    (sec * 1000 + nsec / 1000000 : ℕ)
  else -1

/-- Less than a millisecond is left. -/
def bTimerIsTimeout (tm : XTimer) : Bool := lTimerRemainingTime tm == 0

/-- A call on a timer, or time that passes. -/
inductive TimerStep where
  | setInterval (ms : ℕ)
  | setSingleShot (singleShot : Bool)
  | start
  | stop
  | elapse (ns : ℕ)
deriving DecidableEq, Repr

/-- What a step makes of the timer. -/
def XTimer.step (tm : XTimer) : TimerStep → XTimer
  | .setInterval ms => vTimerSetInterval tm ms
  | .setSingleShot singleShot => vTimerSetSingleShot tm singleShot
  | .start => (iTimerStart tm).2
  | .stop => (iTimerStop tm).2
  | .elapse ns => { tm with fd := tm.fd.elapse ns }

/-! ### What a user knows -/

/-- Whether a timer runs, and for how long it has with which settings. -/
inductive TimerPhase where
  | neverStarted
  | stopped
  | running (ms : ℕ) (singleShot : Bool) (elapsed : ℕ)
deriving DecidableEq, Repr

/-- What a user knows of a timer. -/
structure TimerLife where
  interval : ℕ
  singleShot : Bool
  phase : TimerPhase
deriving DecidableEq, Repr

/-- Nothing has been called. -/
def timerLifeNew : TimerLife := ⟨0, true, .neverStarted⟩

/-- A timer that was never started is not stopped either. -/
def TimerPhase.stop : TimerPhase → TimerPhase
  | neverStarted => neverStarted
  | _ => stopped

/-- Time counts for a timer that runs. -/
def TimerPhase.elapse (ns : ℕ) : TimerPhase → TimerPhase
  | running ms singleShot elapsed => running ms singleShot (elapsed + ns)
  | phase => phase

/-- The timer runs. -/
def TimerPhase.IsRunning : TimerPhase → Prop
  | running _ _ _ => True
  | _ => False

/-- What a user knows after a step. -/
def TimerLife.step (life : TimerLife) : TimerStep → TimerLife
  | .setInterval ms => { life with interval := ms }
  | .setSingleShot singleShot => { life with singleShot := singleShot }
  | .start => { life with phase := .running life.interval life.singleShot 0 }
  | .stop => { life with phase := life.phase.stop }
  | .elapse ns => { life with phase := life.phase.elapse ns }

/-- The timer after a sequence of steps. -/
def timerAfter (steps : List TimerStep) : XTimer := steps.foldl XTimer.step xTimerNew

/-- What a user knows after a sequence of steps. -/
def timerLife (steps : List TimerStep) : TimerLife := steps.foldl TimerLife.step timerLifeNew

/-- The timer tells a user what the user knows. -/
structure TimerHolds (tm : XTimer) (phase : TimerPhase) : Prop where
  active : bTimerIsActive tm = true ↔ phase.IsRunning
  idle : ¬ phase.IsRunning → lTimerRemainingTime tm = -1 ∧ bTimerIsTimeout tm = false
  timeout : ∀ ms elapsed, phase = .running ms true elapsed →
    (bTimerIsTimeout tm = true ↔ ms * 1000000 ≤ elapsed)

/-- A timer that has been started once has been started again since it was last stopped, if it was,
and one that runs once has expired or does not expire within a millisecond. -/
def TimerPhase.IsTold : TimerPhase → Prop
  | neverStarted => True
  | stopped => False
  | running ms singleShot elapsed =>
      singleShot = true → ms * 1000000 ≤ elapsed ∨ elapsed + 1000000 ≤ ms * 1000000

/-! ### The invariant -/

/-- What the structure and the `timerfd` hold in each phase. -/
def TimerPhase.Models (tm : XTimer) : TimerPhase → Prop
  | neverStarted => tm.isActive = false
  | stopped => tm.isActive = true ∧ tm.fd.remaining = 0
  | running ms singleShot elapsed => tm.isActive = true ∧
      (singleShot = true → tm.fd.period = 0 ∧ tm.fd.remaining = ms * 1000000 - elapsed)

/-- The invariant: the timer has the settings and the phase that a user knows. -/
structure TimerLife.Models (life : TimerLife) (tm : XTimer) : Prop where
  interval : tm.interval = life.interval
  singleShot : tm.isSingleshot = life.singleShot
  phase : life.phase.Models tm

/-- A timer that is stopped is disarmed, and stays as active as it was. -/
theorem iTimerStop_eq (tm : XTimer) :
    iTimerStop tm = (0, if tm.isActive then { tm with fd := ⟨0, 0⟩ } else tm) := by
  rcases tm with ⟨fd, interval, isSingleshot, isActive⟩
  cases isActive with
  | true => rfl
  | false => rfl

/-- A start arms the timer with its interval, and makes it active. -/
theorem iTimerStart_eq (tm : XTimer) :
    iTimerStart tm = (0, { tm with
      fd := ⟨tm.interval * 1000000, if tm.isSingleshot then 0 else tm.interval * 1000000⟩
      isActive := true }) := by
  have nanoseconds : tm.interval / 1000 * 1000000000 + tm.interval % 1000 * 1000000 =
      tm.interval * 1000000 := by
    omega
  rcases tm with ⟨fd, interval, isSingleshot, isActive⟩
  simp only at nanoseconds
  cases isActive with
  | true => simp [iTimerStart, iTimerStop, timerfdSettime, nanoseconds]
  | false => simp [iTimerStart, iTimerStop, timerfdSettime, nanoseconds]

/-- Time passes for the `timerfd` as it does for a user. -/
theorem TimerPhase.Models.elapse {tm : XTimer} {phase : TimerPhase} (models : phase.Models tm)
    (ns : ℕ) : (phase.elapse ns).Models { tm with fd := tm.fd.elapse ns } := by
  cases phase with
  | neverStarted => exact models
  | stopped =>
      rcases models with ⟨active, disarmed⟩
      refine ⟨active, ?_⟩
      simp [TimerFd.elapse, disarmed]
  | running ms singleShot elapsed =>
      rcases models with ⟨active, armed⟩
      refine ⟨active, ?_⟩
      intro once
      rcases armed once with ⟨noPeriod, left⟩
      change (tm.fd.elapse ns).period = 0 ∧
        (tm.fd.elapse ns).remaining = ms * 1000000 - (elapsed + ns)
      unfold TimerFd.elapse
      by_cases before : ns < tm.fd.remaining
      · rw [if_pos before]
        refine ⟨noPeriod, ?_⟩
        change tm.fd.remaining - ns = _
        omega
      · rw [if_neg before, if_pos (Or.inr noPeriod)]
        refine ⟨noPeriod, ?_⟩
        change 0 = _
        omega

/-- Every step keeps the invariant. -/
theorem timerLife_step {life : TimerLife} {tm : XTimer} (models : life.Models tm)
    (step : TimerStep) : (life.step step).Models (tm.step step) := by
  rcases models with ⟨interval, singleShot, phase⟩
  cases step with
  | setInterval ms =>
      refine ⟨rfl, singleShot, ?_⟩
      rcases life with ⟨_, _, _ | _ | _⟩
      · exact phase
      · exact phase
      · exact phase
  | setSingleShot once =>
      refine ⟨interval, rfl, ?_⟩
      rcases life with ⟨_, _, _ | _ | _⟩
      · exact phase
      · exact phase
      · exact phase
  | start =>
      rw [XTimer.step, iTimerStart_eq]
      refine ⟨interval, singleShot, rfl, ?_⟩
      intro once
      change (if tm.isSingleshot then 0 else tm.interval * 1000000) = 0 ∧
        tm.interval * 1000000 = life.interval * 1000000 - 0
      rw [singleShot, if_pos once, interval]
      exact ⟨rfl, rfl⟩
  | stop =>
      rw [XTimer.step, iTimerStop_eq]
      rcases life with ⟨_, _, _ | _ | _⟩
      · have idle : tm.isActive = false := phase
        rw [idle, if_neg Bool.false_ne_true]
        exact ⟨interval, singleShot, idle⟩
      · rw [phase.1, if_pos rfl]
        exact ⟨interval, singleShot, rfl, rfl⟩
      · rw [phase.1, if_pos rfl]
        exact ⟨interval, singleShot, rfl, rfl⟩
  | elapse ns => exact ⟨interval, singleShot, phase.elapse ns⟩

/-- The invariant holds after every sequence of steps. -/
theorem timerLife_models (steps : List TimerStep) :
    (timerLife steps).Models (timerAfter steps) := by
  induction steps using List.reverseRecOn with
  | nil => exact ⟨rfl, rfl, rfl⟩
  | append_singleton steps step models =>
      rw [timerLife, timerAfter, List.foldl_append, List.foldl_append]
      exact timerLife_step models step

/-! ### What the timer tells -/

/-- The nanoseconds that are left, as milliseconds. -/
theorem lTimerRemainingTime_of_active {tm : XTimer} (active : tm.isActive = true) :
    lTimerRemainingTime tm = (tm.fd.remaining / 1000000 : ℕ) := by
  rw [lTimerRemainingTime, if_pos active]
  have milliseconds : tm.fd.remaining / 1000000000 * 1000 +
      tm.fd.remaining % 1000000000 / 1000000 = tm.fd.remaining / 1000000 := by
    omega
  exact congrArg _ milliseconds

/-- A timer has timed out within its last millisecond. -/
theorem bTimerIsTimeout_of_active {tm : XTimer} (active : tm.isActive = true) :
    bTimerIsTimeout tm = true ↔ tm.fd.remaining < 1000000 := by
  rw [bTimerIsTimeout, lTimerRemainingTime_of_active active, beq_iff_eq]
  omega

theorem lTimerRemainingTime_of_idle {tm : XTimer} (idle : tm.isActive = false) :
    lTimerRemainingTime tm = -1 := by
  rw [lTimerRemainingTime, idle, if_neg Bool.false_ne_true]

/-- Under the invariant a phase is told just if it is one of those that can be. -/
theorem TimerPhase.Models.holds_iff {tm : XTimer} {phase : TimerPhase}
    (models : phase.Models tm) : TimerHolds tm phase ↔ phase.IsTold := by
  cases phase with
  | neverStarted =>
      have idle : tm.isActive = false := models
      refine iff_of_true ⟨?_, ?_, ?_⟩ trivial
      · rw [bTimerIsActive, idle]
        exact iff_of_false Bool.false_ne_true id
      · intro _
        rw [bTimerIsTimeout, lTimerRemainingTime_of_idle idle]
        exact ⟨rfl, rfl⟩
      · intro ms elapsed impossible
        cases impossible
  | stopped =>
      refine iff_of_false ?_ id
      intro holds
      exact holds.active.mp models.1
  | running ms singleShot elapsed =>
      rcases models with ⟨active, armed⟩
      constructor
      · intro holds once
        have told := holds.timeout ms elapsed (by rw [once])
        rw [bTimerIsTimeout_of_active active, (armed once).2] at told
        omega
      · intro told
        refine ⟨iff_of_true active trivial, fun idle => (idle trivial).elim, ?_⟩
        intro ms' elapsed' same
        cases same
        have left := told rfl
        rw [bTimerIsTimeout_of_active active, (armed rfl).2]
        omega

/-- After every sequence of steps. -/
theorem timerHolds_iff (steps : List TimerStep) :
    TimerHolds (timerAfter steps) (timerLife steps).phase ↔ (timerLife steps).phase.IsTold :=
  (timerLife_models steps).phase.holds_iff

/-- Started and stopped: the timer is still active. -/
theorem not_timerHolds_stopped :
    ¬ ∀ steps, TimerHolds (timerAfter steps) (timerLife steps).phase := by
  intro always
  have holds := always [.setInterval 50, .start, .stop]
  have active : bTimerIsActive (timerAfter [.setInterval 50, .start, .stop]) = true := rfl
  exact holds.active.mp active

end Sysio.Unix
