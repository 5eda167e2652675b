import Mathlib.Algebra.Order.Ring.Int
import Mathlib.Data.List.Nodup

/-!
# The thread of `unix/timer.c`

`pvThread` waits for timers that have expired, reads each of them, and calls its callback as often
as it has expired. What the loop does is recorded: the entries of the event array that it looks at,
the timers that it reads, the callbacks that it calls. The array is not cleared between two waits,
and what is in it before the first one is anything.

The bound of the loop is the variable that also takes the result of each `read`, and a `read`
returns 8: after the first one the loop goes over 8 entries, however many the batch has
(`dispatchesHold_iff`).
-/

namespace Sysio.Unix

/-- What the loop of the thread does. -/
inductive DispatchEvent where
  | looked (i : ℕ)
  | read (tm : ℕ)
  | called (tm : ℕ)
deriving DecidableEq, Repr

/-- The length of the event array. -/
def maxEvents : ℕ := 20

/-- What one `epoll_wait` reports, and what the `read` at each turn of the loop returns: its
result, and the number of expirations that it stores. -/
structure TimerBatch where
  timers : List ℕ
  answer : ℕ → ℤ × ℕ

/-- Between 1 and 20 distinct timers have expired, each at least once. -/
structure TimerBatch.Valid (batch : TimerBatch) : Prop where
  reports : batch.timers ≠ []
  bounded : batch.timers.length ≤ maxEvents
  distinct : batch.timers.Nodup
  expired : ∀ i < batch.timers.length, (batch.answer i).1 = 8 ∧ 0 < (batch.answer i).2

/-- What is done for an entry: a `read`, and the callback as often as the timer has expired. -/
def dispatchTimer (callback : ℕ → Bool) (answer : ℤ × ℕ) (tm : ℕ) : List DispatchEvent :=
  .read tm ::
    if answer.1 = 8 ∧ 0 < answer.2 ∧ callback tm then List.replicate answer.2 (.called tm) else []

/-- The loop from entry `i` on; the bound is `ret`, and `NULL` is not a timer. -/
def dispatchFrom (callback : ℕ → Bool) (answer : ℕ → ℤ × ℕ) :
    List (Option ℕ) → ℕ → ℤ → List DispatchEvent
  | [], _, _ => []
  | entry :: rest, i, ret =>
      if i < ret then
        .looked i :: (entry.elim (dispatchFrom callback answer rest (i + 1) ret) fun tm =>
          dispatchTimer callback (answer i) tm ++
            dispatchFrom callback answer rest (i + 1) (answer i).1)
      else []

/-- The event array after a wait. -/
def fillEvents (ev : List (Option ℕ)) (batch : TimerBatch) : List (Option ℕ) :=
  batch.timers.map some ++ ev.drop batch.timers.length

/-- One turn of `pvThread`. -/
def dispatchBatch (callback : ℕ → Bool) (ev : List (Option ℕ)) (batch : TimerBatch) :
    List DispatchEvent :=
  dispatchFrom callback batch.answer (fillEvents ev batch) 0 batch.timers.length

/-- What a turn of `pvThread` should do. -/
structure DispatchHolds (callback : ℕ → Bool) (batch : TimerBatch) (trace : List DispatchEvent) :
    Prop where
  reads : ∀ tm, trace.count (.read tm) = if tm ∈ batch.timers then 1 else 0
  calls : ∀ i (inside : i < batch.timers.length), trace.count (.called batch.timers[i]) =
    if callback batch.timers[i] then (batch.answer i).2 else 0
  noOtherCall : ∀ tm ∉ batch.timers, trace.count (.called tm) = 0
  looks : ∀ i, .looked i ∈ trace → i < batch.timers.length

/-- Every turn does, from what the turns before have left in the array. -/
def DispatchesHold (callback : ℕ → Bool) : List (Option ℕ) → List TimerBatch → Prop
  | _, [] => True
  | ev, batch :: later =>
      DispatchHolds callback batch (dispatchBatch callback ev batch) ∧
        DispatchesHold callback (fillEvents ev batch) later

section Loop

variable {callback : ℕ → Bool} {answer : ℕ → ℤ × ℕ} {timers : List ℕ} {stale : List (Option ℕ)}

/-- The bound of the loop has been reached. -/
theorem dispatchFrom_stopped {entries : List (Option ℕ)} {i : ℕ} {ret : ℤ} (passed : ret ≤ i) :
    dispatchFrom callback answer entries i ret = [] := by
  cases entries with
  | nil => rfl
  | cons entry rest => exact if_neg (by omega)

/-- A turn of the loop, and the bound that its `read` leaves. -/
theorem dispatchFrom_timer {tm : ℕ} {rest : List (Option ℕ)} {i : ℕ} {ret : ℤ} (goesOn : i < ret) :
    dispatchFrom callback answer (some tm :: rest) i ret =
      .looked i :: (dispatchTimer callback (answer i) tm ++
        dispatchFrom callback answer rest (i + 1) (answer i).1) :=
  if_pos goesOn

/-- As long as the entries are timers of the batch and fewer than 8, they are all served. -/
def served (callback : ℕ → Bool) (answer : ℕ → ℤ × ℕ) : List ℕ → ℕ → List DispatchEvent
  | [], _ => []
  | tm :: rest, i =>
      .looked i :: (dispatchTimer callback (answer i) tm ++ served callback answer rest (i + 1))

/-- The loop with the bound 8 over the last entries of a batch. -/
theorem dispatchFrom_eight (i : ℕ)
    (eight : ∀ k < timers.length, (answer (i + k)).1 = 8) :
    dispatchFrom callback answer (timers.map some ++ stale) i 8 =
      served callback answer (timers.take (8 - i)) i ++
        dispatchFrom callback answer stale (i + timers.length) 8 := by
  induction timers generalizing i with
  | nil =>
      rw [List.take_nil]
      rfl
  | cons tm rest ih =>
      by_cases inside : i < 8
      · rw [List.map_cons, List.cons_append, dispatchFrom_timer (by omega)]
        have first : (answer i).1 = 8 := eight 0 (by simp)
        have count : 8 - i = (8 - (i + 1)) + 1 := by omega
        rw [first, ih (i + 1) ?_, count, List.take_succ_cons]
        · have place : i + 1 + rest.length = i + (tm :: rest).length := by
            rw [List.length_cons]
            omega
          rw [place]
          simp [served]
        · intro k short
          have place : i + 1 + k = i + (k + 1) := by omega
          rw [place]
          exact eight (k + 1) (by simpa using short)
      · rw [dispatchFrom_stopped (by omega), dispatchFrom_stopped (by omega)]
        have none : 8 - i = 0 := by omega
        rw [none, List.take_zero]
        rfl

theorem count_read_dispatchTimer (given : ℤ × ℕ) (tm other : ℕ) :
    (dispatchTimer callback given tm).count (.read other) = if tm = other then 1 else 0 := by
  have calls : ∀ count, DispatchEvent.read other ∉ List.replicate count (.called tm) := by
    intro count found
    cases List.eq_of_mem_replicate found
  have rest : List.count (DispatchEvent.read other)
      (if given.1 = 8 ∧ 0 < given.2 ∧ callback tm = true then
        List.replicate given.2 (.called tm) else []) = 0 := by
    split
    · exact List.count_eq_zero_of_not_mem (calls given.2)
    · rfl
  rw [dispatchTimer, List.count_cons, rest]
  simp

/-- The callback is called as often as the timer has expired. -/
theorem count_called_dispatchTimer {given : ℤ × ℕ} (isRead : given.1 = 8 ∧ 0 < given.2)
    (tm other : ℕ) : (dispatchTimer callback given tm).count (.called other) =
      if tm = other ∧ callback tm = true then given.2 else 0 := by
  rw [dispatchTimer, List.count_cons]
  by_cases set : callback tm = true
  · rw [if_pos ⟨isRead.1, isRead.2, set⟩, List.count_replicate]
    simp [set]
  · rw [if_neg (fun taken => set taken.2.2)]
    simp [set]

theorem mem_looked_dispatchTimer {given : ℤ × ℕ} {tm j : ℕ} :
    DispatchEvent.looked j ∉ dispatchTimer callback given tm := by
  rw [dispatchTimer]
  split <;> simp

theorem count_read_served (i tm : ℕ) :
    (served callback answer timers i).count (.read tm) = timers.count tm := by
  induction timers generalizing i with
  | nil => rfl
  | cons first rest ih =>
      rw [served, List.count_cons, List.count_append, count_read_dispatchTimer, ih, List.count_cons]
      simp only [beq_iff_eq, reduceCtorEq, if_false]
      omega

theorem count_called_served_of_notMem {i tm : ℕ} (absent : tm ∉ timers) :
    (served callback answer timers i).count (.called tm) = 0 := by
  induction timers generalizing i with
  | nil => rfl
  | cons first rest ih =>
      simp only [List.mem_cons, not_or] at absent
      have other : DispatchEvent.called tm ∉ dispatchTimer callback (answer i) first := by
        rw [dispatchTimer]
        split <;> simp [absent.1]
      rw [served, List.count_cons, List.count_append, ih absent.2,
        List.count_eq_zero_of_not_mem other]
      rfl

/-- In a batch that is gone through, each timer is called as often as it has expired. -/
theorem count_called_served (distinct : timers.Nodup) {i : ℕ}
    (isRead : ∀ k < timers.length, (answer (i + k)).1 = 8 ∧ 0 < (answer (i + k)).2)
    {k : ℕ} (inside : k < timers.length) :
    (served callback answer timers i).count (.called timers[k]) =
      if callback timers[k] then (answer (i + k)).2 else 0 := by
  induction timers generalizing i k with
  | nil => cases inside
  | cons first rest ih =>
      rcases List.nodup_cons.mp distinct with ⟨absent, restDistinct⟩
      have firstRead : (answer i).1 = 8 ∧ 0 < (answer i).2 := isRead 0 (by simp)
      rw [served, List.count_cons, List.count_append, count_called_dispatchTimer firstRead]
      cases k with
      | zero =>
          rw [List.getElem_cons_zero, count_called_served_of_notMem absent]
          simp
      | succ k =>
          have short : k < rest.length := by simpa using inside
          have differs : first ≠ rest[k] := by
            intro same
            exact absent (same ▸ List.getElem_mem short)
          have place : ∀ k, i + 1 + k = i + (k + 1) := by omega
          rw [List.getElem_cons_succ, ih restDistinct ?_ short, place]
          · simp [differs]
          · intro k shorter
            rw [place]
            exact isRead (k + 1) (by simpa using shorter)

theorem looked_of_mem_served {i j : ℕ}
    (found : DispatchEvent.looked j ∈ served callback answer timers i) :
    j < i + timers.length := by
  induction timers generalizing i with
  | nil => cases found
  | cons first rest ih =>
      rw [List.length_cons]
      rw [served, List.mem_cons, List.mem_append] at found
      rcases found with same | found | found
      · cases same
        omega
      · exact (mem_looked_dispatchTimer found).elim
      · have later := ih found
        omega

end Loop

section Batches

variable {callback : ℕ → Bool} {ev : List (Option ℕ)} {batch : TimerBatch}

/-- What one turn does: the first 8 timers of the batch, then the array up to its entry 8. -/
theorem dispatchBatch_eq (valid : batch.Valid) : dispatchBatch callback ev batch =
    served callback batch.answer (batch.timers.take 8) 0 ++
      dispatchFrom callback batch.answer (ev.drop batch.timers.length) batch.timers.length 8 := by
  have bound : dispatchBatch callback ev batch =
      dispatchFrom callback batch.answer (fillEvents ev batch) 0 8 := by
    unfold dispatchBatch fillEvents
    cases reported : batch.timers with
    | nil => exact (valid.reports reported).elim
    | cons tm rest =>
        rw [List.map_cons, List.cons_append, dispatchFrom_timer (by simp),
          dispatchFrom_timer (by decide)]
  rw [bound, fillEvents, dispatchFrom_eight 0, Nat.zero_add]
  intro k inside
  rw [Nat.zero_add]
  exact (valid.expired k inside).1

/-- A batch of eight timers is gone through. -/
theorem dispatchHolds_of_eight (valid : batch.Valid) (eight : batch.timers.length = 8) :
    DispatchHolds callback batch (dispatchBatch callback ev batch) := by
  have trace : dispatchBatch callback ev batch = served callback batch.answer batch.timers 0 := by
    rw [dispatchBatch_eq valid, dispatchFrom_stopped (by omega), List.append_nil,
      List.take_of_length_le (by omega)]
  rw [trace]
  refine ⟨?_, ?_, ?_, ?_⟩
  · intro tm
    rw [count_read_served]
    split
    · exact List.count_eq_one_of_mem valid.distinct (by assumption)
    · exact List.count_eq_zero_of_not_mem (by assumption)
  · intro i inside
    rw [count_called_served valid.distinct ?_ inside, Nat.zero_add]
    intro k short
    rw [Nat.zero_add]
    exact valid.expired k short
  · intro tm absent
    exact count_called_served_of_notMem absent
  · intro i found
    simpa using looked_of_mem_served found

/-- Only 8 of more timers are read; after fewer, the loop goes on with what is in the array. -/
theorem eight_of_dispatchHolds (valid : batch.Valid) (full : ev.length = maxEvents)
    (holds : DispatchHolds callback batch (dispatchBatch callback ev batch)) :
    batch.timers.length = 8 := by
  have trace : dispatchBatch callback ev batch = _ := dispatchBatch_eq valid
  rw [trace] at holds
  rcases Nat.lt_trichotomy batch.timers.length 8 with fewer | eight | more
  · have stale : ∃ entry rest, ev.drop batch.timers.length = entry :: rest := by
      apply List.exists_cons_of_length_pos
      rw [List.length_drop, full, maxEvents]
      omega
    rcases stale with ⟨entry, rest, isStale⟩
    have looks := holds.looks batch.timers.length
    rw [isStale, dispatchFrom, if_pos (by omega)] at looks
    have beyond := looks (List.mem_append_right _ List.mem_cons_self)
    omega
  · exact eight
  · have reads := holds.reads batch.timers[8]
    rw [dispatchFrom_stopped (by omega), List.append_nil, count_read_served,
      if_pos (List.getElem_mem more)] at reads
    have found := List.count_pos_iff.mp (reads ▸ Nat.one_pos)
    rcases List.mem_take_iff_getElem.mp found with ⟨i, inside, same⟩
    have index := (List.Nodup.getElem_inj_iff valid.distinct).mp same
    omega

theorem length_fillEvents (valid : batch.Valid) (full : ev.length = maxEvents) :
    (fillEvents ev batch).length = maxEvents := by
  have bounded := valid.bounded
  rw [fillEvents, List.length_append, List.length_map, List.length_drop, full]
  omega

/-- The loop does what it is for just on batches of eight timers. -/
theorem dispatchesHold_iff {batches : List TimerBatch} (valid : ∀ batch ∈ batches, batch.Valid)
    (full : ev.length = maxEvents) :
    DispatchesHold callback ev batches ↔ ∀ batch ∈ batches, batch.timers.length = 8 := by
  induction batches generalizing ev with
  | nil => exact iff_of_true trivial nofun
  | cons batch later ih =>
      rcases List.forall_mem_cons.mp valid with ⟨first, rest⟩
      rw [List.forall_mem_cons, DispatchesHold, ih rest (length_fillEvents first full)]
      constructor
      · rintro ⟨holds, others⟩
        exact ⟨eight_of_dispatchHolds first full holds, others⟩
      · rintro ⟨eight, others⟩
        exact ⟨dispatchHolds_of_eight first eight, others⟩

end Batches

/-- Each of some timers has expired once. -/
def expiredOnce (timers : List ℕ) : TimerBatch := ⟨timers, fun _ => (8, 1)⟩

theorem valid_expiredOnce {timers : List ℕ} (reports : timers ≠ [])
    (bounded : timers.length ≤ maxEvents) (distinct : timers.Nodup) :
    (expiredOnce timers).Valid :=
  ⟨reports, bounded, distinct, fun _ _ => ⟨rfl, Nat.one_pos⟩⟩

theorem dispatchesHold_eightTimers :
    DispatchesHold (fun _ => true) (List.replicate maxEvents none)
      [expiredOnce (List.range 8), expiredOnce (List.range 8)] := by
  have valid : (expiredOnce (List.range 8)).Valid :=
    valid_expiredOnce (by decide) (by decide) List.nodup_range
  apply (dispatchesHold_iff ?_ List.length_replicate).mpr
  · exact List.forall_mem_cons.mpr ⟨rfl, List.forall_mem_singleton.mpr rfl⟩
  · exact List.forall_mem_cons.mpr ⟨valid, List.forall_mem_singleton.mpr valid⟩

/-- A single timer has expired: the entry behind it is looked at. -/
theorem not_dispatchesHold_oneTimer :
    ¬ ∀ (callback : ℕ → Bool) (ev : List (Option ℕ)) (batches : List TimerBatch),
      (∀ batch ∈ batches, batch.Valid) → ev.length = maxEvents →
        DispatchesHold callback ev batches := by
  intro always
  have valid : (expiredOnce [4]).Valid :=
    valid_expiredOnce (by decide) (by decide) (List.nodup_singleton 4)
  have holds := always (fun _ => true) (List.replicate maxEvents none) [expiredOnce [4]]
    (List.forall_mem_singleton.mpr valid) List.length_replicate
  have looked : DispatchEvent.looked 1 ∈ dispatchBatch (fun _ => true)
      (List.replicate maxEvents none) (expiredOnce [4]) := by
    decide
  have inside := holds.1.looks 1 looked
  exact absurd inside (by decide)

end Sysio.Unix
