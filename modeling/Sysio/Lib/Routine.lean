import Mathlib.Algebra.Order.Ring.Int

/-!
# Routines

A C function over a state `σ` that may return before its last statement, and the ways such
functions are put together: a call, whose early return is its result (`called`), a call whose
negative result is returned at once (`tryInt`), and loops that end at a condition or when a timer
has expired. A timer is given by how often it is still found running, a loop without one by how
many turns it may take: a loop that goes on is `stuck`.

`Ensures` is the Hoare triple of a routine, with what holds after its last statement and what
holds when it has ended early; there is one rule for each way of putting routines together.
-/

/-- How a routine is left from within. -/
inductive Stop where
  | returned (r : ℤ)
  | stuck
deriving DecidableEq, Repr

/-- A routine with a state, which may be left from within. -/
def Routine (σ α : Type) : Type := σ → Except Stop α × σ

namespace Routine

variable {σ α β : Type}

/-- What follows a routine that ends with a value. -/
def andThen (m : Routine σ α) (f : α → Routine σ β) : Routine σ β := fun s =>
  match m s with
  | (.ok a, next) => f a next
  | (.error stop, next) => (.error stop, next)

instance : Monad (Routine σ) where
  pure a := fun s => (.ok a, s)
  bind := andThen

/-- Nothing but the end of a function. -/
def ended (outcome : Except Stop α) : Routine σ α := fun s => (outcome, s)

/-- `return r` in the middle of a function. -/
def returns (r : ℤ) : Routine σ α := ended (.error (.returned r))

/-- A loop that never ends. -/
def stuck : Routine σ α := ended (.error .stuck)

/-- A function that returns an `int`. -/
def called (body : Routine σ ℤ) : Routine σ ℤ := fun s =>
  match body s with
  | (.error (.returned r), next) => (.ok r, next)
  | (.error .stuck, next) => (.error .stuck, next)
  | (.ok r, next) => (.ok r, next)

/-- A function that returns nothing. -/
def voided (body : Routine σ Unit) : Routine σ Unit := fun s =>
  match body s with
  | (.error (.returned _), next) => (.ok (), next)
  | (.error .stuck, next) => (.error .stuck, next)
  | (.ok _, next) => (.ok (), next)

/-- A call whose negative result is answered by returning `value r`. -/
def tryIntVal (call : Routine σ ℤ) (value : ℤ → ℤ) : Routine σ ℤ := do
  let r ← call
  if r < 0 then returns (value r) else pure r

/-- A call whose negative result is returned. -/
def tryInt (call : Routine σ ℤ) : Routine σ Unit := do
  let _ ← tryIntVal call id
  pure ()

/-- A body that is run under a condition. -/
def whenever (condition : Bool) (body : Routine σ Unit) : Routine σ Unit :=
  if condition then body else pure ()

/-- `do body while (again && ! timeout)`; the timer is found running `turns` times. -/
def whileRunning (turns : ℕ) (body : Routine σ α) (again : α → Bool) : Routine σ α :=
  turns.rec body fun _ later => do
    let a ← body
    if again a then later else pure a

/-- `do body while (again)`, for at most `turns` turns. -/
def whileAgain (turns : ℕ) (body : Routine σ α) (again : α → Bool) : Routine σ α :=
  turns.rec stuck fun _ later => do
    let a ← body
    if again a then later else pure a

/-- `while (turns-- && again) body`, for a body that computes a variable from itself. -/
def whileDo (turns : ℕ) (again : α → Bool) (body : α → Routine σ α) : α → Routine σ α :=
  turns.rec pure fun _ later a => if again a then body a >>= later else pure a

theorem bind_of_ok {m : Routine σ α} {s next : σ} {a : α} (runs : m s = (.ok a, next))
    (f : α → Routine σ β) : (m >>= f) s = f a next := by
  change andThen m f s = f a next
  rw [andThen, runs]

theorem bind_of_error {m : Routine σ α} {s next : σ} {stop : Stop}
    (runs : m s = (.error stop, next)) (f : α → Routine σ β) :
    (m >>= f) s = (.error stop, next) := by
  change andThen m f s = (.error stop, next)
  rw [andThen, runs]

theorem bind_bind (m : Routine σ α) (f : α → Routine σ β) {γ : Type} (g : β → Routine σ γ) :
    m >>= f >>= g = m >>= fun a => f a >>= g := by
  funext s
  rcases runs : m s with ⟨stop | a, next⟩
  · rw [bind_of_error (bind_of_error runs f) g, bind_of_error runs]
  · rw [bind_of_ok runs]
    change andThen (andThen m f) g s = andThen (f a) g next
    rw [andThen, andThen, andThen, runs]

theorem called_of_ok {body : Routine σ ℤ} {s next : σ} {r : ℤ} (runs : body s = (.ok r, next)) :
    called body s = (.ok r, next) := by
  rw [called, runs]

theorem called_of_returned {body : Routine σ ℤ} {s next : σ} {r : ℤ}
    (runs : body s = (.error (.returned r), next)) : called body s = (.ok r, next) := by
  rw [called, runs]

theorem called_of_stuck {body : Routine σ ℤ} {s next : σ}
    (runs : body s = (.error .stuck, next)) : called body s = (.error .stuck, next) := by
  rw [called, runs]

theorem called_bind_of_ok {m : Routine σ α} {f : α → Routine σ ℤ} {s next : σ} {a : α}
    (runs : m s = (.ok a, next)) : called (m >>= f) s = called (f a) next := by
  rw [called, bind_of_ok runs]
  rfl

theorem called_bind_of_returned {m : Routine σ α} {f : α → Routine σ ℤ} {s next : σ} {r : ℤ}
    (runs : m s = (.error (.returned r), next)) : called (m >>= f) s = (.ok r, next) := by
  rw [called, bind_of_error runs]

/-- From a state where `before` holds, `m` ends with `after` and its result, or early with
`early`. -/
def Ensures (before : σ → Prop) (m : Routine σ α) (after : α → σ → Prop)
    (early : Stop → σ → Prop) : Prop :=
  ∀ s, before s →
    (∃ a next, m s = (.ok a, next) ∧ after a next) ∨
      ∃ stop next, m s = (.error stop, next) ∧ early stop next

theorem Ensures.weaken {before before' : σ → Prop} {m : Routine σ α} {after after' : α → σ → Prop}
    {early early' : Stop → σ → Prop} (ensures : Ensures before m after early)
    (start : ∀ s, before' s → before s) (finish : ∀ a s, after a s → after' a s)
    (stops : ∀ stop s, early stop s → early' stop s) : Ensures before' m after' early' := by
  intro s holds
  rcases ensures s (start s holds) with ⟨a, next, runs, reached⟩ | ⟨stop, next, runs, reached⟩
  · exact Or.inl ⟨a, next, runs, finish a next reached⟩
  · exact Or.inr ⟨stop, next, runs, stops stop next reached⟩

/-- `m` always gets to its end. -/
abbrev Finishes (before : σ → Prop) (m : Routine σ α) (after : α → σ → Prop) : Prop :=
  Ensures before m after fun _ _ => False

theorem Finishes.ensures {before : σ → Prop} {m : Routine σ α} {after : α → σ → Prop}
    {early : Stop → σ → Prop} (finishes : Finishes before m after) :
    Ensures before m after early := by
  apply finishes.weaken
  · intro s start
    exact start
  · intro a s reached
    exact reached
  · intro stop s impossible
    exact impossible.elim

theorem Finishes.run {before : σ → Prop} {m : Routine σ α} {after : α → σ → Prop} {s : σ}
    (finishes : Finishes before m after) (start : before s) :
    ∃ a next, m s = (.ok a, next) ∧ after a next :=
  (finishes s start).resolve_right fun ⟨_, _, _, impossible⟩ => impossible

/-- From one state, what is reached is what is run to. -/
theorem Ensures.ran {before : σ → Prop} {m : Routine σ α} {after : α → σ → Prop}
    {early : Stop → σ → Prop} {s : σ} (ensures : Ensures before m after early) (start : before s) :
    Ensures (· = s) m (fun a next => next = (m s).2 ∧ after a next) early := by
  rintro _ rfl
  rcases ensures _ start with ⟨a, next, runs, reached⟩ | ⟨stop, next, runs, reached⟩
  · exact Or.inl ⟨a, next, runs, by rw [runs], reached⟩
  · exact Or.inr ⟨stop, next, runs, reached⟩

section Rules

variable {before : σ → Prop} {after : α → σ → Prop} {early : Stop → σ → Prop}

theorem ensures_pure {a : α} (holds : ∀ s, before s → after a s) :
    Ensures before (pure a) after early := by
  intro s start
  exact Or.inl ⟨a, s, rfl, holds s start⟩

theorem ensures_returns {r : ℤ} (holds : ∀ s, before s → early (.returned r) s) :
    Ensures before (returns r) after early := by
  intro s start
  exact Or.inr ⟨.returned r, s, rfl, holds s start⟩

theorem ensures_stuck (holds : ∀ s, before s → early .stuck s) :
    Ensures before stuck after early := by
  intro s start
  exact Or.inr ⟨.stuck, s, rfl, holds s start⟩

theorem ensures_bind {m : Routine σ β} {f : β → Routine σ α} (middle : β → σ → Prop)
    (first : Ensures before m middle early)
    (second : ∀ b, Ensures (middle b) (f b) after early) :
    Ensures before (m >>= f) after early := by
  intro s start
  rcases first s start with ⟨b, next, runs, reached⟩ | ⟨stop, next, runs, reached⟩
  · rw [bind_of_ok runs]
    exact second b next reached
  · exact Or.inr ⟨stop, next, bind_of_error runs f, reached⟩

/-- A part whose result is known. -/
theorem ensures_bind_value {m : Routine σ β} {f : β → Routine σ α} {b : β} {middle : σ → Prop}
    (first : Ensures before m (fun b' s => b' = b ∧ middle s) early)
    (second : Ensures middle (f b) after early) : Ensures before (m >>= f) after early := by
  apply ensures_bind _ first
  rintro b' s ⟨rfl, reached⟩
  exact second s reached

theorem ensures_called {body : Routine σ ℤ} {after : ℤ → σ → Prop}
    (ensures : Ensures before body after fun stop s => ∀ r, stop = .returned r → after r s) :
    Ensures before (called body) after fun stop _ => stop = .stuck := by
  intro s start
  rcases ensures s start with ⟨r, next, runs, reached⟩ | ⟨stop, next, runs, reached⟩
  · exact Or.inl ⟨r, next, called_of_ok runs, reached⟩
  · cases stop with
    | returned r => exact Or.inl ⟨r, next, called_of_returned runs, reached r rfl⟩
    | stuck => exact Or.inr ⟨.stuck, next, called_of_stuck runs, rfl⟩

theorem finishes_called {body : Routine σ ℤ} {after : ℤ → σ → Prop}
    (ensures : Ensures before body after fun stop s => ∃ r, stop = .returned r ∧ after r s) :
    Finishes before (called body) after := by
  intro s start
  left
  rcases ensures s start with ⟨r, next, runs, reached⟩ | ⟨stop, next, runs, r, rfl, reached⟩
  · exact ⟨r, next, called_of_ok runs, reached⟩
  · exact ⟨r, next, called_of_returned runs, reached⟩

theorem finishes_voided {body : Routine σ Unit} {after : Unit → σ → Prop}
    (ensures : Ensures before body after fun stop s => ∃ r, stop = .returned r ∧ after () s) :
    Finishes before (voided body) after := by
  intro s start
  left
  unfold voided
  rcases ensures s start with ⟨_, next, runs, reached⟩ | ⟨stop, next, runs, r, rfl, reached⟩
  · exact ⟨(), next, by rw [runs], reached⟩
  · exact ⟨(), next, by rw [runs], reached⟩

theorem ensures_tryIntVal {call : Routine σ ℤ} {value : ℤ → ℤ} {after : ℤ → σ → Prop}
    (middle : ℤ → σ → Prop) (calls : Ensures before call middle early)
    (goesOn : ∀ r s, middle r s → 0 ≤ r → after r s)
    (fails : ∀ r s, middle r s → r < 0 → early (.returned (value r)) s) :
    Ensures before (tryIntVal call value) after early := by
  apply ensures_bind middle calls
  intro r
  by_cases negative : r < 0
  · rw [if_pos negative]
    exact ensures_returns fun s reached => fails r s reached negative
  · rw [if_neg negative]
    exact ensures_pure fun s reached => goesOn r s reached (by omega)

theorem ensures_tryInt {call : Routine σ ℤ} {after : Unit → σ → Prop} (middle : ℤ → σ → Prop)
    (calls : Ensures before call middle early) (goesOn : ∀ r s, middle r s → 0 ≤ r → after () s)
    (fails : ∀ r s, middle r s → r < 0 → early (.returned r) s) :
    Ensures before (tryInt call) after early := by
  apply ensures_bind fun _ => after ()
  · exact ensures_tryIntVal middle calls goesOn fails
  · intro r
    exact ensures_pure fun s reached => reached

theorem ensures_whenever {condition : Bool} {body : Routine σ Unit} {after : Unit → σ → Prop}
    (taken : condition = true → Ensures before body after early)
    (passed : condition = false → ∀ s, before s → after () s) :
    Ensures before (whenever condition body) after early := by
  cases condition with
  | true => exact taken rfl
  | false => exact ensures_pure (passed rfl)

/-- A turn, and what comes after it if the loop goes on. -/
theorem ensures_goOn {body later : Routine σ α} {again : α → Bool}
    (turn : Ensures before body (fun a s => after a s ∧ (again a = true → before s)) early)
    (rest : Ensures before later after early) :
    Ensures before (body >>= fun a => if again a then later else pure a) after early := by
  refine ensures_bind _ turn ?_
  intro a
  by_cases goesOn : again a = true
  · rw [if_pos goesOn]
    exact rest.weaken (fun _ reached => reached.2 goesOn) (fun _ _ => id) fun _ _ => id
  · rw [if_neg goesOn]
    exact ensures_pure fun s reached => reached.1

/-- What every turn keeps, the loop keeps. -/
theorem ensures_whileRunning {body : Routine σ α} {again : α → Bool}
    (turn : Ensures before body (fun a s => after a s ∧ (again a = true → before s)) early)
    (turns : ℕ) : Ensures before (whileRunning turns body again) after early := by
  induction turns with
  | zero => exact turn.weaken (fun _ => id) (fun _ _ reached => reached.1) fun _ _ => id
  | succ turns later => exact ensures_goOn turn later

theorem ensures_whileAgain {body : Routine σ α} {again : α → Bool}
    (turn : Ensures before body (fun a s => after a s ∧ (again a = true → before s)) early)
    (isStuck : ∀ s, before s → early .stuck s)
    (turns : ℕ) : Ensures before (whileAgain turns body again) after early := by
  induction turns with
  | zero => exact ensures_stuck isStuck
  | succ turns later => exact ensures_goOn turn later

/-- What a turn takes from one count to the next holds when the loop ends, after all of its turns
or with a result at which it stops. -/
theorem ensures_whileDo {body : α → Routine σ α} {again : α → Bool} {holds : ℕ → α → σ → Prop}
    (turn : ∀ n a, again a = true → Ensures (holds n a) (body a) (holds (n + 1)) early)
    (turns n : ℕ) (a : α) : Ensures (holds n a) (whileDo turns again body a)
      (fun b s => ∃ count, holds count b s ∧ (count = n + turns ∨ again b = false)) early := by
  induction turns generalizing n a with
  | zero => exact ensures_pure fun s reached => ⟨n, reached, .inl rfl⟩
  | succ turns later =>
      change Ensures (holds n a)
        (if again a then body a >>= whileDo turns again body else pure a) _ early
      by_cases goesOn : again a = true
      · rw [if_pos goesOn]
        apply ensures_bind _ (turn n a goesOn)
        intro b
        apply (later (n + 1) b).weaken (fun _ => id)
        · rintro c s ⟨count, reached, isCount | stops⟩
          · exact ⟨count, reached, .inl (by omega)⟩
          · exact ⟨count, reached, .inr stops⟩
        · exact fun _ _ => id
      · rw [if_neg goesOn]
        exact ensures_pure fun s reached => ⟨n, reached, .inr (Bool.eq_false_of_not_eq_true goesOn)⟩

end Rules

/-- Whatever the outcome. -/
def Keeps (invariant : σ → Prop) (m : Routine σ α) : Prop := ∀ s, invariant s → invariant (m s).2

section Keeps

variable {invariant : σ → Prop}

theorem Keeps.ensures {m : Routine σ α} (keeps : Keeps invariant m) :
    Ensures invariant m (fun _ => invariant) fun _ => invariant := by
  intro s holds
  have kept := keeps s holds
  rcases ran : m s with ⟨outcome, next⟩
  rw [ran] at kept
  cases outcome with
  | ok a => exact Or.inl ⟨a, next, rfl, kept⟩
  | error stop => exact Or.inr ⟨stop, next, rfl, kept⟩

theorem Ensures.keeps {m : Routine σ α}
    (ensures : Ensures invariant m (fun _ => invariant) fun _ => invariant) :
    Keeps invariant m := by
  intro s holds
  rcases ensures s holds with ⟨a, next, runs, kept⟩ | ⟨stop, next, runs, kept⟩
  · rw [runs]
    exact kept
  · rw [runs]
    exact kept

/-- A function ends with a result, or not at all. -/
theorem Keeps.called_ensures {body : Routine σ ℤ} (keeps : Keeps invariant (Routine.called body)) :
    Ensures invariant (Routine.called body) (fun _ => invariant) fun stop _ => stop = .stuck := by
  intro s holds
  have kept := keeps s holds
  rcases ran : body s with ⟨stop | r, next⟩
  · cases stop with
    | returned r =>
        rw [called_of_returned ran] at kept ⊢
        exact Or.inl ⟨r, next, rfl, kept⟩
    | stuck =>
        rw [called_of_stuck ran]
        exact Or.inr ⟨.stuck, next, rfl, rfl⟩
  · rw [called_of_ok ran] at kept ⊢
    exact Or.inl ⟨r, next, rfl, kept⟩

theorem keeps_ended (outcome : Except Stop α) :
    Keeps invariant (ended outcome : Routine σ α) := by
  intro s holds
  exact holds

theorem Keeps.bind {m : Routine σ α} {f : α → Routine σ β} (first : Keeps invariant m)
    (second : ∀ a, Keeps invariant (f a)) : Keeps invariant (m >>= f) := by
  apply Ensures.keeps
  apply ensures_bind _ first.ensures
  intro a
  exact (second a).ensures

theorem Keeps.called {body : Routine σ ℤ} (keeps : Keeps invariant body) :
    Keeps invariant (called body) := by
  intro s holds
  have kept := keeps s holds
  rcases ran : body s with ⟨_ | _ , next⟩
  · rename_i stop
    rw [ran] at kept
    cases stop with
    | returned r =>
        rw [called_of_returned ran]
        exact kept
    | stuck =>
        rw [called_of_stuck ran]
        exact kept
  · rw [ran] at kept
    rw [called_of_ok ran]
    exact kept

theorem Keeps.voided {body : Routine σ Unit} (keeps : Keeps invariant body) :
    Keeps invariant (voided body) := by
  intro s holds
  have kept := keeps s holds
  unfold Routine.voided
  rcases ran : body s with ⟨_ | _ , next⟩
  · rename_i stop
    rw [ran] at kept
    cases stop with
    | returned r => exact kept
    | stuck => exact kept
  · rw [ran] at kept
    exact kept

end Keeps

end Routine
