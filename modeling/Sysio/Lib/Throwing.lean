import Mathlib.Data.List.Basic

/-!
# Functions that throw

A C++ function over a state `σ` as a program of `EStateM`: an exception ends it, and what has been
changed before stays changed. `Ensures` is the triple of such a program, with what holds after its
result and what holds where an exception has left it; there is one rule for each way of putting
programs together. What is kept by every element of a loop is kept by the loop.
-/

namespace Throwing

variable {ε σ α β ι : Type}

/-- A value that is computed from the state, or an exception. -/
def reads (value : σ → Except ε α) : EStateM ε σ α := fun s =>
  match value s with
  | .ok a => .ok a s
  | .error e => .error e s

/-- A change of the state as a whole, or an exception that leaves it. -/
def writes (change : σ → Except ε σ) : EStateM ε σ Unit := fun s =>
  match change s with
  | .ok next => .ok () next
  | .error e => .error e s

/-- A body that is run under a condition. -/
def whenever (condition : Bool) (body : EStateM ε σ Unit) : EStateM ε σ Unit :=
  if condition then body else pure ()

theorem whenever_of_true {condition : Bool} {body : EStateM ε σ Unit} (holds : condition = true) :
    whenever condition body = body :=
  if_pos holds

/-- `for (i : list) body (i);`. -/
def forEach (body : ι → EStateM ε σ Unit) : List ι → EStateM ε σ Unit
  | [] => pure ()
  | i :: list => do
      body i
      forEach body list

/-- `for (i : list) if (!body (i)) return false;` and `true` at its end. -/
def allOf (body : ι → EStateM ε σ Bool) : List ι → EStateM ε σ Bool
  | [] => pure true
  | i :: list => do
      let done ← body i
      if done then allOf body list else pure false

/-- From a state where `before` holds, `m` ends with `after` and its result, or throws with
`thrown`. -/
def Ensures (before : σ → Prop) (m : EStateM ε σ α) (after : α → σ → Prop)
    (thrown : ε → σ → Prop) : Prop :=
  ∀ s, before s →
    match m s with
    | .ok a next => after a next
    | .error e next => thrown e next

/-- Nothing is thrown. -/
abbrev Finishes (before : σ → Prop) (m : EStateM ε σ α) (after : α → σ → Prop) : Prop :=
  Ensures before m after fun _ _ => False

/-- However `m` ends. -/
abbrev Keeps (kept : σ → Prop) (m : EStateM ε σ α) : Prop :=
  Ensures kept m (fun _ => kept) fun _ => kept

section Rules

variable {before : σ → Prop} {after : α → σ → Prop} {thrown : ε → σ → Prop}

theorem Ensures.weaken {before' : σ → Prop} {after' : α → σ → Prop} {thrown' : ε → σ → Prop}
    {m : EStateM ε σ α} (ensures : Ensures before m after thrown)
    (start : ∀ s, before' s → before s) (finish : ∀ a s, after a s → after' a s)
    (throws : ∀ e s, thrown e s → thrown' e s) : Ensures before' m after' thrown' := by
  intro s holds
  have reached := ensures s (start s holds)
  cases run : m s with
  | ok a next =>
      rw [run] at reached
      exact finish a next reached
  | error e next =>
      rw [run] at reached
      exact throws e next reached

theorem Finishes.ensures {m : EStateM ε σ α} (finishes : Finishes before m after) :
    Ensures before m after thrown :=
  finishes.weaken (fun _ start => start) (fun _ _ reached => reached)
    (fun _ _ impossible => impossible.elim)

theorem ensures_pure {a : α} (holds : ∀ s, before s → after a s) :
    Ensures before (pure a) after thrown := by
  intro s start
  exact holds s start

theorem ensures_throw {e : ε} (holds : ∀ s, before s → thrown e s) :
    Ensures before (throw e) after thrown := by
  intro s start
  exact holds s start

theorem ensures_bind {m : EStateM ε σ β} {f : β → EStateM ε σ α} (middle : β → σ → Prop)
    (first : Ensures before m middle thrown)
    (second : ∀ b, Ensures (middle b) (f b) after thrown) :
    Ensures before (m >>= f) after thrown := by
  intro s start
  have reached := first s start
  change match EStateM.bind m f s with
    | .ok a next => after a next
    | .error e next => thrown e next
  rw [EStateM.bind]
  cases run : m s with
  | ok b next =>
      rw [run] at reached
      exact second b next reached
  | error e next =>
      rw [run] at reached
      exact reached

theorem ensures_get {after : σ → σ → Prop} (holds : ∀ s, before s → after s s) :
    Ensures before (get : EStateM ε σ σ) after thrown := by
  intro s start
  exact holds s start

theorem ensures_modify {after : PUnit → σ → Prop} {change : σ → σ}
    (holds : ∀ s, before s → after ⟨⟩ (change s)) :
    Ensures before (modify change : EStateM ε σ PUnit) after thrown := by
  intro s start
  exact holds s start

theorem ensures_reads {value : σ → Except ε α}
    (holds : ∀ s a, before s → value s = .ok a → after a s)
    (throws : ∀ s e, before s → value s = .error e → thrown e s) :
    Ensures before (reads value) after thrown := by
  intro s start
  rw [reads]
  cases isValue : value s with
  | ok a => exact holds s a start isValue
  | error e => exact throws s e start isValue

theorem ensures_writes {after : Unit → σ → Prop} {change : σ → Except ε σ}
    (holds : ∀ s next, before s → change s = .ok next → after () next)
    (throws : ∀ s e, before s → change s = .error e → thrown e s) :
    Ensures before (writes change) after thrown := by
  intro s start
  rw [writes]
  cases changed : change s with
  | ok next => exact holds s next start changed
  | error e => exact throws s e start changed

theorem ensures_ite {condition : Prop} [Decidable condition] {m m' : EStateM ε σ α}
    (yes : condition → Ensures before m after thrown)
    (no : ¬condition → Ensures before m' after thrown) :
    Ensures before (if condition then m else m') after thrown := by
  by_cases holds : condition
  · rw [if_pos holds]
    exact yes holds
  · rw [if_neg holds]
    exact no holds

theorem ensures_whenever {condition : Bool} {body : EStateM ε σ Unit} {after : Unit → σ → Prop}
    (yes : condition = true → Ensures before body after thrown)
    (no : condition = false → ∀ s, before s → after () s) :
    Ensures before (whenever condition body) after thrown := by
  cases condition with
  | true => exact yes rfl
  | false => exact ensures_pure (no rfl)

/-- What is known before `m`, whatever the state. -/
theorem ensures_of_fact {m : EStateM ε σ α} (fact : Prop) (known : ∀ s, before s → fact)
    (ensures : fact → Ensures before m after thrown) : Ensures before m after thrown := by
  intro s start
  exact ensures (known s start) s start

theorem ensures_of_each {m : EStateM ε σ α}
    (ensures : ∀ s, before s → Ensures (· = s) m after thrown) : Ensures before m after thrown := by
  intro s start
  exact ensures s start s rfl

theorem ensures_exists {κ : Type} {each : κ → σ → Prop} {m : EStateM ε σ α}
    (ensures : ∀ k, Ensures (each k) m after thrown) :
    Ensures (fun s => ∃ k, each k s) m after thrown := by
  rintro s ⟨k, start⟩
  exact ensures k s start

/-- A loop, with what holds after the first of its turns. -/
theorem ensures_forEach {body : ι → EStateM ε σ Unit} {list : List ι} (inv : List ι → σ → Prop)
    (turn : ∀ done i rest, list = done ++ i :: rest →
      Ensures (inv done) (body i) (fun _ => inv (done ++ [i])) thrown) :
    Ensures (inv []) (forEach body list) (fun _ => inv list) thrown := by
  suffices all : ∀ rest done, list = done ++ rest →
      Ensures (inv done) (forEach body rest) (fun _ => inv list) thrown by
    exact all list [] rfl
  intro rest
  induction rest with
  | nil =>
      intro done split
      rw [List.append_nil] at split
      subst split
      exact ensures_pure fun s reached => reached
  | cons i rest ih =>
      intro done split
      apply ensures_bind (fun _ => inv (done ++ [i])) (turn done i rest split)
      intro _
      apply ih
      rw [split, List.append_assoc, List.singleton_append]

theorem keeps_forEach {body : ι → EStateM ε σ Unit} {list : List ι} {kept : σ → Prop}
    (turn : ∀ i ∈ list, Keeps kept (body i)) : Keeps kept (forEach body list) := by
  apply ensures_forEach fun _ => kept
  intro done i rest split
  apply turn
  rw [split]
  exact List.mem_append_right _ List.mem_cons_self

theorem keeps_pure {kept : σ → Prop} {a : α} : Keeps kept (pure a : EStateM ε σ α) :=
  ensures_pure fun _ held => held

theorem keeps_bind {kept : σ → Prop} {m : EStateM ε σ β} {f : β → EStateM ε σ α}
    (first : Keeps kept m) (second : ∀ b, Keeps kept (f b)) : Keeps kept (m >>= f) :=
  ensures_bind _ first second

theorem keeps_get {kept : σ → Prop} : Keeps kept (get : EStateM ε σ σ) :=
  ensures_get fun _ held => held

theorem keeps_ite {condition : Prop} [Decidable condition] {kept : σ → Prop}
    {m m' : EStateM ε σ α} (yes : Keeps kept m) (no : Keeps kept m') :
    Keeps kept (if condition then m else m') :=
  ensures_ite (fun _ => yes) fun _ => no

theorem keeps_whenever {condition : Bool} {kept : σ → Prop} {body : EStateM ε σ Unit}
    (yes : Keeps kept body) : Keeps kept (whenever condition body) :=
  ensures_whenever (fun _ => yes) fun _ _ held => held

theorem keeps_allOf {body : ι → EStateM ε σ Bool} {list : List ι} {kept : σ → Prop}
    (turn : ∀ i, Keeps kept (body i)) : Keeps kept (allOf body list) := by
  induction list with
  | nil => exact keeps_pure
  | cons i rest ih =>
      apply keeps_bind (turn i)
      exact fun went => keeps_ite ih keeps_pure

/-- The loop that stops at a failure: `inv` for what has succeeded, `failed` where it stops. -/
theorem ensures_allOf {body : ι → EStateM ε σ Bool} {list : List ι} (inv : List ι → σ → Prop)
    (failed : σ → Prop)
    (turn : ∀ done i rest, list = done ++ i :: rest → Ensures (inv done) (body i)
      (fun went s => if went then inv (done ++ [i]) s else failed s) thrown) :
    Ensures (inv []) (allOf body list) (fun went s => if went then inv list s else failed s)
      thrown := by
  suffices all : ∀ rest done, list = done ++ rest → Ensures (inv done) (allOf body rest)
      (fun went s => if went then inv list s else failed s) thrown by
    exact all list [] rfl
  intro rest
  induction rest with
  | nil =>
      intro done split
      rw [List.append_nil] at split
      subst split
      exact ensures_pure fun s reached => reached
  | cons i rest ih =>
      intro done split
      apply ensures_bind _ (turn done i rest split)
      intro went
      cases went with
      | true => exact ih (done ++ [i]) (by rw [split, List.append_assoc, List.singleton_append])
      | false => exact ensures_pure fun s reached => reached

end Rules

theorem Finishes.run {before : σ → Prop} {after : α → σ → Prop} {m : EStateM ε σ α}
    (finishes : Finishes before m after) {s : σ} (start : before s) :
    ∃ a next, m s = .ok a next ∧ after a next := by
  have reached := finishes s start
  cases run : m s with
  | ok a next =>
      rw [run] at reached
      exact ⟨a, next, rfl, reached⟩
  | error e next =>
      rw [run] at reached
      exact reached.elim

/-! ### Runs -/

/-- The state after `m`, whether it has thrown or not. -/
def endOf (m : EStateM ε σ α) (s : σ) : σ :=
  match m s with
  | .ok _ next => next
  | .error _ next => next

theorem endOf_reads_bind_of_ok {value : σ → Except ε α} {f : α → EStateM ε σ β} {s : σ} {a : α}
    (isValue : value s = .ok a) : endOf (reads value >>= f) s = endOf (f a) s := by
  change (match EStateM.bind (reads value) f s with
    | .ok _ next => next
    | .error _ next => next) = _
  rw [EStateM.bind, reads, isValue]
  rfl

theorem endOf_reads_bind_of_error {value : σ → Except ε α} {f : α → EStateM ε σ β} {s : σ} {e : ε}
    (isError : value s = .error e) : endOf (reads value >>= f) s = s := by
  change (match EStateM.bind (reads value) f s with
    | .ok _ next => next
    | .error _ next => next) = _
  rw [EStateM.bind, reads, isError]

theorem Ensures.endOf {before kept : σ → Prop} {m : EStateM ε σ α}
    (ensures : Ensures before m (fun _ => kept) fun _ => kept) {s : σ} (start : before s) :
    kept (endOf m s) := by
  have reached := ensures s start
  rw [Throwing.endOf]
  cases run : m s with
  | ok a next =>
      rw [run] at reached
      exact reached
  | error e next =>
      rw [run] at reached
      exact reached

end Throwing
