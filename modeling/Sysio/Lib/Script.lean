import Sysio.Lib.Routine

/-!
# Scripts

A script is a routine that may be held between two of its operations: an operation, and what is
left to do for each reply to it. While it is held, others may change the state. `Script.run` makes
a routine of it whose operations follow one another at once.

A script is judged by what each of its operations does to a view of the state: `Script.Leads` says
that it ends with the condition asked for if nothing else changes the view, and is kept from one
operation to the next.
-/

/-- The end of a routine, or an operation and what follows each reply to it. -/
inductive Script (Op : Type) (Reply : Op → Type) (α : Type) where
  | ended (outcome : Except Stop α)
  | next (op : Op) (rest : Reply op → Script Op Reply α)

namespace Script

variable {Op : Type} {Reply : Op → Type} {α β σ : Type}

/-- Nothing is left to do. -/
def isEnded : Script Op Reply α → Bool
  | ended _ => true
  | next _ _ => false

/-- What follows a script that ends with a value. -/
def andThen (s : Script Op Reply α) (f : α → Script Op Reply β) : Script Op Reply β :=
  match s with
  | ended (.ok a) => f a
  | ended (.error stop) => ended (.error stop)
  | next op rest => next op fun reply => (rest reply).andThen f

instance : Monad (Script Op Reply) where
  pure a := ended (.ok a)
  bind := andThen

/-- A single operation. -/
def perform (op : Op) : Script Op Reply (Reply op) := next op fun reply => ended (.ok reply)

/-- Leave the function from within. -/
def returns (r : ℤ) : Script Op Reply α := ended (.error (.returned r))

/-- A function, given what it makes of the end of its body. -/
def through (finish : Except Stop α → Except Stop β) : Script Op Reply α → Script Op Reply β
  | ended outcome => ended (finish outcome)
  | next op rest => next op fun reply => (rest reply).through finish

/-- A function: what it is left with is its result. -/
def called : Script Op Reply ℤ → Script Op Reply ℤ := through fun
  | .error (.returned r) => .ok r
  | outcome => outcome

/-- A function without a result. -/
def voided : Script Op Reply Unit → Script Op Reply Unit := through fun
  | .error (.returned _) => .ok ()
  | outcome => outcome

/-- Leave the function with a negative result. -/
def tryInt (call : Script Op Reply ℤ) : Script Op Reply Unit := do
  let r ← call
  if r < 0 then returns r else pure ()

/-- A body that is run under a condition. -/
def whenever (condition : Bool) (body : Script Op Reply Unit) : Script Op Reply Unit :=
  if condition then body else pure ()

/-- A body that is run until it is enough, a number of times more at most. -/
def whileRunning (turns : ℕ) (body : Script Op Reply α) (again : α → Bool) : Script Op Reply α :=
  turns.rec body fun _ later => do
    let a ← body
    if again a then later else pure a

/-! ### Running -/

/-- What the operations reply, and what they make of the state. -/
abbrev Handler (Op : Type) (Reply : Op → Type) (σ : Type) : Type := (op : Op) → σ → Reply op × σ

variable (handler : Handler Op Reply σ)

/-- The operations of a script at once. -/
def run : Script Op Reply α → Routine σ α
  | ended outcome => Routine.ended outcome
  | next op rest => fun s => (rest (handler op s).1).run (handler op s).2

/-- One operation, if there is one left. -/
def advance : Script Op Reply α → σ → Script Op Reply α × σ
  | ended outcome, s => (ended outcome, s)
  | next op rest, s => (rest (handler op s).1, (handler op s).2)

variable {handler}

theorem run_next (op : Op) (rest : Reply op → Script Op Reply α) (s : σ) :
    (next op rest).run handler s = (rest (handler op s).1).run handler (handler op s).2 := rfl

theorem run_advance (script : Script Op Reply α) (s : σ) :
    (script.advance handler s).1.run handler (script.advance handler s).2 =
      script.run handler s := by
  cases script with
  | ended outcome => rfl
  | next op rest => rfl

theorem run_andThen (script : Script Op Reply α) (f : α → Script Op Reply β) :
    (script >>= f).run handler = script.run handler >>= fun a => (f a).run handler := by
  induction script with
  | ended outcome =>
      cases outcome with
      | ok a => rfl
      | error stop => rfl
  | next op rest ih =>
      funext s
      exact congrFun (ih (handler op s).1) (handler op s).2

theorem run_called (body : Script Op Reply ℤ) :
    body.called.run handler = Routine.called (body.run handler) := by
  induction body with
  | ended outcome =>
      funext s
      rcases outcome with (r | _) | r <;> rfl
  | next op rest ih =>
      funext s
      exact congrFun (ih (handler op s).1) (handler op s).2

theorem run_voided (body : Script Op Reply Unit) :
    body.voided.run handler = Routine.voided (body.run handler) := by
  induction body with
  | ended outcome =>
      funext s
      rcases outcome with (r | _) | r <;> rfl
  | next op rest ih =>
      funext s
      exact congrFun (ih (handler op s).1) (handler op s).2

/-! ### What is left of a script -/

/-- Every operation that may come. -/
def All (allowed : Op → Prop) : Script Op Reply α → Prop
  | ended _ => True
  | next op rest => allowed op ∧ ∀ reply, (rest reply).All allowed

/-- What is left of a script after some of its operations, whatever their replies were. -/
inductive LeftOf (script : Script Op Reply α) : Script Op Reply α → Prop where
  | whole : LeftOf script script
  | next {op : Op} {rest : Reply op → Script Op Reply α} (reply : Reply op)
      (before : LeftOf script (.next op rest)) : LeftOf script (rest reply)

theorem LeftOf.advance {script left : Script Op Reply α} (leftOf : LeftOf script left) (s : σ) :
    LeftOf script (left.advance handler s).1 := by
  cases left with
  | ended outcome => exact leftOf
  | next op rest => exact leftOf.next _

section All

variable {allowed : Op → Prop}

theorem All.leftOf {script left : Script Op Reply α} (all : script.All allowed)
    (leftOf : LeftOf script left) : left.All allowed := by
  induction leftOf with
  | whole => exact all
  | next reply _ ih => exact ih.2 reply

theorem all_pure (a : α) : (pure a : Script Op Reply α).All allowed := trivial

theorem all_perform {op : Op} (isAllowed : allowed op) :
    (perform op : Script Op Reply (Reply op)).All allowed := ⟨isAllowed, fun _ => trivial⟩

theorem all_bind {script : Script Op Reply α} {f : α → Script Op Reply β}
    (first : script.All allowed) (second : ∀ a, (f a).All allowed) :
    (script >>= f).All allowed := by
  induction script with
  | ended outcome =>
      cases outcome with
      | ok a => exact second a
      | error stop => trivial
  | next op rest ih => exact ⟨first.1, fun reply => ih reply (first.2 reply)⟩

theorem all_through {script : Script Op Reply α} {finish : Except Stop α → Except Stop β}
    (all : script.All allowed) : (script.through finish).All allowed := by
  induction script with
  | ended outcome => trivial
  | next op rest ih => exact ⟨all.1, fun reply => ih reply (all.2 reply)⟩

theorem all_tryInt {call : Script Op Reply ℤ} (all : call.All allowed) :
    (tryInt call).All allowed := by
  apply all_bind all
  intro r
  by_cases negative : r < 0
  · rw [if_pos negative]
    trivial
  · rw [if_neg negative]
    trivial

theorem all_whenever {condition : Bool} {body : Script Op Reply Unit} (all : body.All allowed) :
    (whenever condition body).All allowed := by
  cases condition with
  | true => exact all
  | false => trivial

theorem all_whileRunning {turns : ℕ} {body : Script Op Reply α} {again : α → Bool}
    (all : body.All allowed) : (whileRunning turns body again).All allowed := by
  induction turns with
  | zero => exact all
  | succ turns ih =>
      apply all_bind all
      intro a
      by_cases goesOn : again a = true
      · rw [if_pos goesOn]
        exact ih
      · rw [if_neg goesOn]
        trivial

end All

/-! ### Where a script leads -/

/-- For each operation, when a condition will hold of its reply and of the view after it. -/
abbrev Spec (Op : Type) (Reply : Op → Type) (ν : Type) : Type :=
  (op : Op) → (Reply op → ν → Prop) → ν → Prop

/-- A weaker condition holds as well. -/
def Spec.Monotone {ν : Type} (spec : Spec Op Reply ν) : Prop :=
  ∀ op (holds holds' : Reply op → ν → Prop), (∀ reply v, holds reply v → holds' reply v) →
    ∀ v, spec op holds v → spec op holds' v

/-- Where nothing is asked for, any operation will do. -/
def Spec.Total {ν : Type} (spec : Spec Op Reply ν) : Prop := ∀ op v, spec op (fun _ _ => True) v

/-- The script ends with `post`, if nothing but its operations changes the view. -/
def Leads {ν : Type} (spec : Spec Op Reply ν) (post : Except Stop α → ν → Prop) :
    Script Op Reply α → ν → Prop
  | ended outcome, v => post outcome v
  | next op rest, v => spec op (fun reply => (rest reply).Leads spec post) v

section Leads

variable {ν : Type} {spec : Spec Op Reply ν}

theorem Leads.weaken (monotone : spec.Monotone) {post post' : Except Stop α → ν → Prop}
    (follows : ∀ outcome v, post outcome v → post' outcome v) {script : Script Op Reply α} {v : ν}
    (leads : script.Leads spec post v) : script.Leads spec post' v := by
  induction script generalizing v with
  | ended outcome => exact follows outcome v leads
  | next op rest ih => exact monotone op _ _ (fun reply v => ih reply) v leads

theorem leads_of_total (total : spec.Total) (monotone : spec.Monotone)
    {post : Except Stop α → ν → Prop} (holds : ∀ outcome v, post outcome v)
    (script : Script Op Reply α) (v : ν) : script.Leads spec post v := by
  induction script generalizing v with
  | ended outcome => exact holds outcome v
  | next op rest ih => exact monotone op _ _ (fun reply v _ => ih reply v) v (total op v)

theorem leads_bind {post : Except Stop β → ν → Prop} (script : Script Op Reply α)
    (f : α → Script Op Reply β) :
    (script >>= f).Leads spec post = script.Leads spec fun outcome => match outcome with
      | .ok a => (f a).Leads spec post
      | .error stop => post (.error stop) := by
  induction script with
  | ended outcome =>
      cases outcome with
      | ok a => rfl
      | error stop => rfl
  | next op rest ih => exact congrArg (spec op) (funext ih)

theorem leads_through {post : Except Stop β → ν → Prop} (script : Script Op Reply α)
    (finish : Except Stop α → Except Stop β) :
    (script.through finish).Leads spec post =
      script.Leads spec fun outcome => post (finish outcome) := by
  induction script with
  | ended outcome => rfl
  | next op rest ih => exact congrArg (spec op) (funext ih)

/-- An operation of the state is what the specification says of the view. -/
def Spec.Sound (spec : Spec Op Reply ν) (handler : Handler Op Reply σ) (view : σ → ν)
    (allowed : Op → Prop) : Prop :=
  ∀ op, allowed op → ∀ (holds : Reply op → ν → Prop) s, spec op holds (view s) →
    holds (handler op s).1 (view (handler op s).2)

variable {view : σ → ν} {allowed : Op → Prop}

theorem Leads.advance (sound : spec.Sound handler view allowed)
    {post : Except Stop α → ν → Prop} {script : Script Op Reply α} {s : σ}
    (all : script.All allowed) (leads : script.Leads spec post (view s)) :
    (script.advance handler s).1.Leads spec post (view (script.advance handler s).2) := by
  cases script with
  | ended outcome => exact leads
  | next op rest => exact sound op all.1 _ s leads

theorem All.advance {script : Script Op Reply α} {s : σ} (all : script.All allowed) :
    (script.advance handler s).1.All allowed := by
  cases script with
  | ended outcome => trivial
  | next op rest => exact all.2 _

theorem Leads.run (sound : spec.Sound handler view allowed)
    {post : Except Stop α → ν → Prop} {script : Script Op Reply α} {s : σ}
    (all : script.All allowed) (leads : script.Leads spec post (view s)) :
    post (script.run handler s).1 (view (script.run handler s).2) := by
  induction script generalizing s with
  | ended outcome => exact leads
  | next op rest ih => exact ih _ (all.2 _) (sound op all.1 _ s leads)

/-- What every operation keeps, the script keeps. -/
theorem All.keeps {invariant : σ → Prop}
    (keeps : ∀ op, allowed op → ∀ s, invariant s → invariant (handler op s).2)
    {script : Script Op Reply α} (all : script.All allowed) :
    Routine.Keeps invariant (script.run handler) := by
  induction script with
  | ended outcome => exact fun _ holds => holds
  | next op rest ih => exact fun s holds => ih _ (all.2 _) _ (keeps op all.1 s holds)

end Leads

/-! ### Triples -/

/-- From a view where `before` holds, the script leads to `after` and its result, or ends early with
`early`. -/
def Ensures {ν : Type} (spec : Spec Op Reply ν) (before : ν → Prop) (script : Script Op Reply α)
    (after : α → ν → Prop) (early : Stop → ν → Prop) : Prop :=
  ∀ v, before v → script.Leads spec (fun outcome => match outcome with
    | .ok a => after a
    | .error stop => early stop) v

section Triples

variable {ν : Type} {spec : Spec Op Reply ν} {before : ν → Prop} {after : α → ν → Prop}
  {early : Stop → ν → Prop}

theorem Ensures.weaken (monotone : spec.Monotone) {before' : ν → Prop} {after' : α → ν → Prop}
    {early' : Stop → ν → Prop} {script : Script Op Reply α}
    (ensures : Ensures spec before script after early) (start : ∀ v, before' v → before v)
    (finish : ∀ a v, after a v → after' a v) (stops : ∀ stop v, early stop v → early' stop v) :
    Ensures spec before' script after' early' := by
  intro v holds
  apply (ensures v (start v holds)).weaken monotone
  rintro (stop | a) v reached
  · exact stops stop v reached
  · exact finish a v reached

theorem ensures_pure {a : α} (holds : ∀ v, before v → after a v) :
    Ensures spec before (pure a) after early := holds

theorem ensures_returns {r : ℤ} (holds : ∀ v, before v → early (.returned r) v) :
    Ensures spec before (returns r) after early := holds

theorem ensures_bind {script : Script Op Reply β} {f : β → Script Op Reply α}
    (monotone : spec.Monotone) (middle : β → ν → Prop)
    (first : Ensures spec before script middle early)
    (second : ∀ b, Ensures spec (middle b) (f b) after early) :
    Ensures spec before (script >>= f) after early := by
  intro v holds
  rw [leads_bind]
  apply (first v holds).weaken monotone
  rintro (stop | b) v reached
  · exact reached
  · exact second b v reached

theorem ensures_called {body : Script Op Reply ℤ} {after : ℤ → ν → Prop}
    (monotone : spec.Monotone)
    (ensures : Ensures spec before body after fun stop v => ∃ r, stop = .returned r ∧ after r v) :
    Ensures spec before body.called after early := by
  intro v holds
  rw [called, leads_through]
  apply (ensures v holds).weaken monotone
  rintro ((r | _) | r) v reached
  · rcases reached with ⟨r', isReturn, reached⟩
    cases isReturn
    exact reached
  · rcases reached with ⟨r', isReturn, -⟩
    cases isReturn
  · exact reached

theorem ensures_voided {body : Script Op Reply Unit} {after : Unit → ν → Prop}
    (monotone : spec.Monotone)
    (ensures : Ensures spec before body after fun stop v => ∃ r, stop = .returned r ∧ after () v) :
    Ensures spec before body.voided after early := by
  intro v holds
  rw [voided, leads_through]
  apply (ensures v holds).weaken monotone
  rintro ((r | _) | r) v reached
  · rcases reached with ⟨r', isReturn, reached⟩
    exact reached
  · rcases reached with ⟨r', isReturn, -⟩
    cases isReturn
  · exact reached

theorem ensures_tryInt {call : Script Op Reply ℤ} {after : Unit → ν → Prop}
    (monotone : spec.Monotone) (middle : ℤ → ν → Prop)
    (calls : Ensures spec before call middle early)
    (goesOn : ∀ r v, middle r v → 0 ≤ r → after () v)
    (fails : ∀ r v, middle r v → r < 0 → early (.returned r) v) :
    Ensures spec before (tryInt call) after early := by
  apply ensures_bind monotone middle calls
  intro r
  by_cases negative : r < 0
  · rw [if_pos negative]
    exact ensures_returns fun v reached => fails r v reached negative
  · rw [if_neg negative]
    exact ensures_pure fun v reached => goesOn r v reached (by omega)

theorem ensures_whenever {condition : Bool} {body : Script Op Reply Unit} {after : Unit → ν → Prop}
    (taken : condition = true → Ensures spec before body after early)
    (passed : condition = false → ∀ v, before v → after () v) :
    Ensures spec before (whenever condition body) after early := by
  cases condition with
  | true => exact taken rfl
  | false => exact ensures_pure (passed rfl)

/-- What every turn keeps, the loop keeps. -/
theorem ensures_whileRunning {body : Script Op Reply α} {again : α → Bool}
    (monotone : spec.Monotone)
    (turn : Ensures spec before body (fun a v => after a v ∧ (again a = true → before v)) early)
    (turns : ℕ) : Ensures spec before (whileRunning turns body again) after early := by
  induction turns with
  | zero => exact turn.weaken monotone (fun _ => id) (fun _ _ => And.left) fun _ _ => id
  | succ turns later =>
      apply ensures_bind monotone _ turn
      intro a
      by_cases goesOn : again a = true
      · rw [if_pos goesOn]
        exact later.weaken monotone (fun _ reached => reached.2 goesOn) (fun _ _ => id)
          fun _ _ => id
      · rw [if_neg goesOn]
        exact ensures_pure fun v reached => reached.1

end Triples

end Script
