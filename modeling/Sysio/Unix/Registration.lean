import Mathlib.Algebra.Order.Ring.Int
import Mathlib.Logic.Function.Basic

/-!
# The callbacks of `unix/timer.c`

A timer with a callback is registered in an `epoll` set. A timer is known by its descriptor, and
the set is the map from the descriptors in it to what was given with them. `iTimerSetCallback`
takes the timer out of the set first; it goes on only if the timer was not in it, so a timer that
is registered leaves the set when it is registered again.
-/

namespace Sysio.Unix

/-- The callback of a timer, if it has one, and its argument. -/
structure TimerCallback where
  callback : Option ℕ
  udata : ℕ
deriving DecidableEq, Repr

/-- The timers and the `epoll` set, which gives for a descriptor the timer entered with it. -/
structure TimerRegistry where
  /-- `ctx.epfd` is set. -/
  created : Bool
  timers : ℕ → TimerCallback
  epoll : ℕ → Option ℕ

/-- No set, and no callback. -/
def timerRegistryNew : TimerRegistry := ⟨false, fun _ => ⟨none, 0⟩, fun _ => none⟩

/-- The set with another entry for a descriptor. -/
def TimerRegistry.enter (reg : TimerRegistry) (fd : ℕ) (entry : Option ℕ) : TimerRegistry :=
  { reg with epoll := Function.update reg.epoll fd entry }

/-- The registry with another callback for a timer. -/
def TimerRegistry.store (reg : TimerRegistry) (tm : ℕ) (given : TimerCallback) : TimerRegistry :=
  { reg with timers := Function.update reg.timers tm given }

section Updates

variable {reg : TimerRegistry} {fd other : ℕ} {entry : Option ℕ} {given : TimerCallback}

@[simp]
theorem enter_epoll_self : (reg.enter fd entry).epoll fd = entry := Function.update_self ..

theorem enter_epoll_of_ne (differs : other ≠ fd) :
    (reg.enter fd entry).epoll other = reg.epoll other := Function.update_of_ne differs ..

@[simp]
theorem enter_timers : (reg.enter fd entry).timers = reg.timers := rfl

@[simp]
theorem store_timers_self : (reg.store fd given).timers fd = given := Function.update_self ..

theorem store_timers_of_ne (differs : other ≠ fd) :
    (reg.store fd given).timers other = reg.timers other := Function.update_of_ne differs ..

@[simp]
theorem store_epoll : (reg.store fd given).epoll = reg.epoll := rfl

end Updates

/-- What `epoll_create` and `pthread_create` would return. -/
structure ThreadAnswer where
  epollCreate : ℤ
  pthreadCreate : ℤ
deriving DecidableEq, Repr

/-- What `epoll_ctl` returns, and `errno`. -/
inductive EpollCtl where
  | done
  | noEntry
  | exists
deriving DecidableEq, Repr

/-- The result as an `int`. -/
def EpollCtl.ret : EpollCtl → ℤ
  | done => 0
  | _ => -1

/-- Take a descriptor out of the set, if it is in it. -/
def epollCtlDel (reg : TimerRegistry) (fd : ℕ) : EpollCtl × TimerRegistry :=
  if (reg.epoll fd).isSome then
    (.done, reg.enter fd none)
  else (.noEntry, reg)

/-- Enter a descriptor in the set, if it is not in it. -/
def epollCtlAdd (reg : TimerRegistry) (fd tm : ℕ) : EpollCtl × TimerRegistry :=
  if (reg.epoll fd).isSome then (.exists, reg)
  else (.done, reg.enter fd (some tm))

/-- The set is created with the first callback, and stays if there is no thread for it. -/
def iCreateThread (answer : ThreadAnswer) (reg : TimerRegistry) : ℤ × TimerRegistry :=
  if reg.created then (0, reg)
  else if 0 ≤ answer.epollCreate then (answer.pthreadCreate, { reg with created := true })
  else (answer.epollCreate, reg)

/-- The callback is stored between the two requests to `epoll`. -/
def iTimerSetCallback (answer : ThreadAnswer) (tm : ℕ) (callback : Option ℕ) (udata : ℕ)
    (reg : TimerRegistry) : ℤ × TimerRegistry :=
  let (ret, reg) := iCreateThread answer reg
  if ret = 0 then
    let (deleted, reg) := epollCtlDel reg tm
    if deleted = .noEntry then
      let (added, reg) := epollCtlAdd (reg.store tm ⟨callback, udata⟩) tm tm
      (added.ret, reg)
    else (deleted.ret, reg)
  else (ret, reg)

/-- The callback goes with the entry of the timer. -/
def iTimerUnsetCallback (tm : ℕ) (reg : TimerRegistry) : ℤ × TimerRegistry :=
  if reg.created then
    let (deleted, reg) := epollCtlDel reg tm
    if deleted = .done then
      (deleted.ret, reg.store tm ⟨none, 0⟩)
    else (deleted.ret, reg)
  else (0, reg)

/-- A call that gives or takes a callback. -/
inductive RegistrationStep where
  | setCallback (answer : ThreadAnswer) (tm : ℕ) (callback : Option ℕ) (udata : ℕ)
  | unsetCallback (tm : ℕ)
deriving DecidableEq, Repr

/-- What a call returns, and the registry behind it. -/
def RegistrationStep.run (reg : TimerRegistry) : RegistrationStep → ℤ × TimerRegistry
  | setCallback answer tm callback udata => iTimerSetCallback answer tm callback udata reg
  | unsetCallback tm => iTimerUnsetCallback tm reg

/-- In every state: a timer is registered exactly when it has a callback. -/
def TimerRegistry.IsConsistent (reg : TimerRegistry) : Prop :=
  ∀ tm, reg.epoll tm = some tm ↔ (reg.timers tm).callback ≠ none

/-- What a step that returns 0 has done. -/
def RegistrationStep.IsDone (after : TimerRegistry) : RegistrationStep → Prop
  | setCallback _ tm callback udata =>
      after.epoll tm = some tm ∧ after.timers tm = ⟨callback, udata⟩
  | unsetCallback tm => after.epoll tm ≠ some tm ∧ (after.timers tm).callback = none

/-- Every step does what it tells, and leaves the registry consistent. -/
def RegistrationsHold : List RegistrationStep → TimerRegistry → Prop
  | [], _ => True
  | step :: rest, reg =>
      ((step.run reg).1 = 0 → step.IsDone (step.run reg).2) ∧ (step.run reg).2.IsConsistent ∧
        RegistrationsHold rest (step.run reg).2

/-- A callback is given, to a timer that has none, unless the thread cannot be created. -/
def RegistrationStep.IsFresh (reg : TimerRegistry) : RegistrationStep → Prop
  | setCallback answer tm callback _ =>
      (iCreateThread answer reg).1 = 0 → (reg.timers tm).callback = none ∧ callback ≠ none
  | unsetCallback _ => True

/-- Each call of a sequence is fresh where it is made. -/
def RegistrationsFresh : List RegistrationStep → TimerRegistry → Prop
  | [], _ => True
  | step :: rest, reg => step.IsFresh reg ∧ RegistrationsFresh rest (step.run reg).2

/-! ### The invariant -/

/-- The set holds nothing but timers, with their callback, and nothing before it is created. -/
structure TimerRegistry.Valid (reg : TimerRegistry) : Prop where
  own : ∀ fd tm, reg.epoll fd = some tm → tm = fd
  consistent : reg.IsConsistent
  empty : reg.created = false → ∀ fd, reg.epoll fd = none

theorem valid_new : timerRegistryNew.Valid := by
  refine ⟨?_, ?_, fun _ _ => rfl⟩
  · intro fd tm found
    cases found
  · intro tm
    exact iff_of_false (fun found => by cases found) (fun given => given rfl)

section Steps

variable {reg : TimerRegistry} {answer : ThreadAnswer}

theorem iCreateThread_timers : (iCreateThread answer reg).2.timers = reg.timers := by
  unfold iCreateThread
  split
  · rfl
  · split
    · rfl
    · rfl

theorem iCreateThread_epoll : (iCreateThread answer reg).2.epoll = reg.epoll := by
  unfold iCreateThread
  split
  · rfl
  · split
    · rfl
    · rfl

theorem TimerRegistry.Valid.createThread (valid : reg.Valid) :
    (iCreateThread answer reg).2.Valid := by
  refine ⟨?_, ?_, ?_⟩
  · rw [iCreateThread_epoll]
    exact valid.own
  · intro tm
    rw [iCreateThread_epoll, iCreateThread_timers]
    exact valid.consistent tm
  · rw [iCreateThread_epoll]
    intro missing
    apply valid.empty
    unfold iCreateThread at missing
    split at missing
    · exact missing
    · rename_i notCreated
      exact Bool.eq_false_of_not_eq_true notCreated

/-- There is a set if 0 is returned. -/
theorem iCreateThread_created (runs : (iCreateThread answer reg).1 = 0) :
    (iCreateThread answer reg).2.created = true := by
  unfold iCreateThread at runs ⊢
  split
  · assumption
  · split
    · rfl
    · rename_i failed
      rw [if_neg (by assumption), if_neg failed] at runs
      omega

/-- A timer without a callback is not in the set. -/
theorem TimerRegistry.Valid.unregistered (valid : reg.Valid) {tm : ℕ}
    (without : (reg.timers tm).callback = none) : reg.epoll tm = none := by
  cases found : reg.epoll tm with
  | none => rfl
  | some other =>
      have same := valid.own tm other found
      subst same
      exact ((valid.consistent other).mp found without).elim

theorem iTimerSetCallback_of_failed {tm : ℕ} {callback : Option ℕ} {udata : ℕ}
    (fails : (iCreateThread answer reg).1 ≠ 0) :
    iTimerSetCallback answer tm callback udata reg = iCreateThread answer reg :=
  if_neg fails

/-- A timer that is not in the set is entered, with its callback. -/
theorem iTimerSetCallback_of_absent {tm : ℕ} {callback : Option ℕ} {udata : ℕ}
    (runs : (iCreateThread answer reg).1 = 0)
    (absent : (iCreateThread answer reg).2.epoll tm = none) :
    iTimerSetCallback answer tm callback udata reg =
      (0, ((iCreateThread answer reg).2.store tm ⟨callback, udata⟩).enter tm (some tm)) := by
  unfold iTimerSetCallback
  rcases created : iCreateThread answer reg with ⟨ret, next⟩
  rw [created] at runs absent
  change ret = 0 at runs
  change next.epoll tm = none at absent
  simp only [runs, if_true, epollCtlDel, absent, Option.isSome_none, Bool.false_eq_true, if_false,
    epollCtlAdd, store_epoll, EpollCtl.ret]

/-- A timer that is in the set leaves it, and keeps its callback. -/
theorem iTimerSetCallback_of_present {tm : ℕ} {callback : Option ℕ} {udata : ℕ} {found : ℕ}
    (runs : (iCreateThread answer reg).1 = 0)
    (present : (iCreateThread answer reg).2.epoll tm = some found) :
    iTimerSetCallback answer tm callback udata reg =
      (0, (iCreateThread answer reg).2.enter tm none) := by
  unfold iTimerSetCallback
  rcases created : iCreateThread answer reg with ⟨ret, next⟩
  rw [created] at runs present
  change ret = 0 at runs
  change next.epoll tm = some found at present
  simp only [runs, if_true, epollCtlDel, present, Option.isSome_some, EpollCtl.ret,
    reduceCtorEq, if_false]

theorem iTimerUnsetCallback_of_absent {tm : ℕ} (created : reg.created = true)
    (absent : reg.epoll tm = none) : iTimerUnsetCallback tm reg = (-1, reg) := by
  simp only [iTimerUnsetCallback, created, if_true, epollCtlDel, absent, Option.isSome_none,
    Bool.false_eq_true, if_false, EpollCtl.ret, reduceCtorEq]

theorem iTimerUnsetCallback_of_present {tm found : ℕ} (created : reg.created = true)
    (present : reg.epoll tm = some found) :
    iTimerUnsetCallback tm reg = (0, (reg.enter tm none).store tm ⟨none, 0⟩) := by
  simp only [iTimerUnsetCallback, created, if_true, epollCtlDel, present, Option.isSome_some,
    EpollCtl.ret]

/-- A step that is not fresh breaks what it tells or the consistency. -/
theorem RegistrationStep.fresh_of_holds (valid : reg.Valid) {step : RegistrationStep}
    (done : (step.run reg).1 = 0 → step.IsDone (step.run reg).2)
    (consistent : (step.run reg).2.IsConsistent) : step.IsFresh reg := by
  cases step with
  | unsetCallback tm => trivial
  | setCallback answer tm callback udata =>
      intro runs
      have next : (iCreateThread answer reg).2.Valid := valid.createThread
      cases found : (iCreateThread answer reg).2.epoll tm with
      | some other =>
          rw [run, iTimerSetCallback_of_present runs found] at done
          have registered := (done rfl).1
          rw [enter_epoll_self] at registered
          cases registered
      | none =>
          rw [run, iTimerSetCallback_of_absent runs found] at consistent
          constructor
          · by_contra given
            have registered := (next.consistent tm).mpr (by rwa [iCreateThread_timers])
            rw [found] at registered
            cases registered
          · have given := (consistent tm).mp enter_epoll_self
            rwa [enter_timers, store_timers_self] at given

/-- Storing a callback and entering the timer go together. -/
theorem TimerRegistry.Valid.set (valid : reg.Valid) (created : reg.created = true) {tm udata : ℕ}
    {callback : Option ℕ} (given : callback ≠ none) :
    ((reg.store tm ⟨callback, udata⟩).enter tm (some tm)).Valid := by
  refine ⟨?_, ?_, fun missing => (Bool.false_ne_true (missing.symm.trans created)).elim⟩
  · intro fd other found
    by_cases same : fd = tm
    · subst same
      rw [enter_epoll_self] at found
      exact (Option.some.inj found).symm
    · rw [enter_epoll_of_ne same] at found
      exact valid.own fd other found
  · intro other
    by_cases same : other = tm
    · subst same
      rw [enter_epoll_self, enter_timers, store_timers_self]
      exact iff_of_true rfl given
    · rw [enter_epoll_of_ne same, enter_timers, store_timers_of_ne same]
      exact valid.consistent other

/-- So do taking both away. -/
theorem TimerRegistry.Valid.unset (valid : reg.Valid) (created : reg.created = true) {tm : ℕ} :
    ((reg.enter tm none).store tm ⟨none, 0⟩).Valid := by
  refine ⟨?_, ?_, fun missing => (Bool.false_ne_true (missing.symm.trans created)).elim⟩
  · intro fd other found
    rw [store_epoll] at found
    by_cases same : fd = tm
    · subst same
      rw [enter_epoll_self] at found
      cases found
    · rw [enter_epoll_of_ne same] at found
      exact valid.own fd other found
  · intro other
    rw [store_epoll]
    by_cases same : other = tm
    · subst same
      rw [enter_epoll_self, store_timers_self]
      exact iff_of_false nofun (fun given => given rfl)
    · rw [enter_epoll_of_ne same, store_timers_of_ne same]
      exact valid.consistent other

/-- A fresh step does what it tells, and keeps the invariant. -/
theorem RegistrationStep.run_of_fresh (valid : reg.Valid) {step : RegistrationStep}
    (fresh : step.IsFresh reg) :
    ((step.run reg).1 = 0 → step.IsDone (step.run reg).2) ∧ (step.run reg).2.Valid := by
  cases step with
  | setCallback answer tm callback udata =>
      have next : (iCreateThread answer reg).2.Valid := valid.createThread
      by_cases runs : (iCreateThread answer reg).1 = 0
      · rcases fresh runs with ⟨without, given⟩
        have absent : (iCreateThread answer reg).2.epoll tm = none := by
          apply next.unregistered
          rwa [iCreateThread_timers]
        rw [run, iTimerSetCallback_of_absent runs absent]
        refine ⟨fun _ => ⟨enter_epoll_self, store_timers_self⟩, ?_⟩
        exact next.set (iCreateThread_created runs) given
      · rw [run, iTimerSetCallback_of_failed runs]
        exact ⟨fun succeeded => (runs succeeded).elim, next⟩
  | unsetCallback tm =>
      rw [run]
      by_cases created : reg.created = true
      · cases found : reg.epoll tm with
        | none =>
            rw [iTimerUnsetCallback_of_absent created found]
            refine ⟨?_, valid⟩
            intro failed
            have negative : (-1 : ℤ) = 0 := failed
            omega
        | some other =>
            rw [iTimerUnsetCallback_of_present created found]
            refine ⟨fun _ => ⟨?_, ?_⟩, valid.unset created⟩
            · rw [store_epoll, enter_epoll_self]
              exact nofun
            · rw [store_timers_self]
      · have missing : reg.created = false := Bool.eq_false_of_not_eq_true created
        have unset : iTimerUnsetCallback tm reg = (0, reg) := by
          rw [iTimerUnsetCallback, missing, if_neg Bool.false_ne_true]
        rw [unset]
        have absent := valid.empty missing tm
        have unregistered : reg.epoll tm ≠ some tm := by
          rw [absent]
          exact nofun
        refine ⟨fun _ => ⟨unregistered, ?_⟩, valid⟩
        by_contra given
        exact unregistered ((valid.consistent tm).mpr given)

end Steps

theorem registrationsHold_iff_of_valid (steps : List RegistrationStep) {reg : TimerRegistry}
    (valid : reg.Valid) : RegistrationsHold steps reg ↔ RegistrationsFresh steps reg := by
  induction steps generalizing reg with
  | nil => exact Iff.rfl
  | cons step rest ih =>
      constructor
      · rintro ⟨done, consistent, holds⟩
        have fresh := step.fresh_of_holds valid done consistent
        exact ⟨fresh, (ih (step.run_of_fresh valid fresh).2).mp holds⟩
      · rintro ⟨fresh, later⟩
        rcases step.run_of_fresh valid fresh with ⟨done, next⟩
        exact ⟨done, next.consistent, (ih next).mpr later⟩

/-- Registrations are right just if a callback is given only to timers that have none. -/
theorem registrationsHold_iff (steps : List RegistrationStep) :
    RegistrationsHold steps timerRegistryNew ↔ RegistrationsFresh steps timerRegistryNew :=
  registrationsHold_iff_of_valid steps valid_new

/-- A timer is given a callback, and then another one. -/
theorem not_registrationsHold_twice :
    ¬ ∀ steps, RegistrationsHold steps timerRegistryNew := by
  intro always
  have holds := always [.setCallback ⟨3, 0⟩ 4 (some 1) 0, .setCallback ⟨3, 0⟩ 4 (some 2) 0]
  have returned : (iTimerSetCallback ⟨3, 0⟩ 4 (some 2) 0
      (iTimerSetCallback ⟨3, 0⟩ 4 (some 1) 0 timerRegistryNew).2).1 = 0 := by decide
  have registered := (holds.2.2.1 returned).1
  have missing : (iTimerSetCallback ⟨3, 0⟩ 4 (some 2) 0
      (iTimerSetCallback ⟨3, 0⟩ 4 (some 1) 0 timerRegistryNew).2).2.epoll 4 = none := by decide
  exact absurd (registered.symm.trans missing) nofun

end Sysio.Unix
