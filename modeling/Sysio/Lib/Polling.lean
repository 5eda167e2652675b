import Mathlib.Data.List.ReduceOption
import Mathlib.Logic.Function.Iterate

/-!
# Polled byte streams

A non-blocking reader is called again and again; each call takes what is
available and returns. What the environment does is a *script*: `some input` is
an input that a read returns, `none` a read that finds nothing. One call is
`drain`: it reads until nothing is available or until the step it runs for every
input asks to stop.

The point of the file is that the script's gaps do not matter: one call leaves
the state of feeding a prefix of the inputs one by one (`exists_prefix_drain`),
what holds of every call holds of any number of calls (`exists_prefix_calls`),
and enough calls read everything (`blocked_or_length_calls_le`).
-/

namespace Polling

universe u v

variable {State : Type u} {Input : Type v}

/-- One call of a non-blocking reader: the state it leaves and the unread script. -/
def drain (step : State → Input → State × Bool) :
    State → List (Option Input) → State × List (Option Input)
  | state, [] => (state, [])
  | state, none :: rest => (state, rest)
  | state, some input :: rest =>
      if (step state input).2 then ((step state input).1, rest)
      else drain step (step state input).1 rest

/-- The state after inputs fed one by one, whether or not a step asks to stop. -/
def feed (step : State → Input → State × Bool) (state : State) (inputs : List Input) : State :=
  inputs.foldl (fun current input => (step current input).1) state

@[simp]
theorem feed_nil (step : State → Input → State × Bool) (state : State) :
    feed step state [] = state := rfl

@[simp]
theorem feed_cons (step : State → Input → State × Bool) (state : State) (input : Input)
    (rest : List Input) :
    feed step state (input :: rest) = feed step (step state input).1 rest := rfl

/-- A call consumes a prefix of the inputs and leaves the state of feeding that prefix;
every input it read but the last one did not ask to stop. -/
theorem exists_prefix_drain (step : State → Input → State × Bool) (state : State)
    (script : List (Option Input)) :
    ∃ consumed, script.reduceOption = consumed ++ (drain step state script).2.reduceOption ∧
      (drain step state script).1 = feed step state consumed ∧
      ∀ before input after, consumed = before ++ input :: after → after ≠ [] →
        (step (feed step state before) input).2 = false := by
  induction script generalizing state with
  | nil => exact ⟨[], by simp [drain]⟩
  | cons read rest ih =>
      cases read with
      | none => exact ⟨[], by simp [drain]⟩
      | some input =>
          by_cases stops : (step state input).2 = true
          · refine ⟨[input], by simp [drain, stops], by simp [drain, stops], ?_⟩
            intro before next after split afterNe
            rcases before with _ | ⟨head, before⟩ <;> simp_all
          · rcases ih (step state input).1 with ⟨consumed, inputs, reached, quiet⟩
            refine ⟨input :: consumed, ?_, ?_, ?_⟩
            · simpa [drain, stops] using inputs
            · simpa [drain, stops] using reached
            · intro before next after split afterNe
              rcases before with _ | ⟨head, before⟩
              · simp only [List.nil_append, List.cons.injEq] at split
                simpa [← split.1] using stops
              · simp only [List.cons_append, List.cons.injEq] at split
                rw [← split.1, feed_cons]
                exact quiet before next after split.2 afterNe

/-- What every step keeps, a call keeps. -/
theorem drain_invariant {step : State → Input → State × Bool} {invariant : State → Prop}
    (keeps : ∀ state input, invariant state → invariant (step state input).1) {state : State}
    (holds : invariant state) (script : List (Option Input)) :
    invariant (drain step state script).1 := by
  induction script generalizing state with
  | nil => exact holds
  | cons read rest ih =>
      cases read with
      | none => exact holds
      | some input =>
          rw [drain]
          split_ifs
          · exact keeps state input holds
          · exact ih (keeps state input holds)

theorem length_drain_lt (step : State → Input → State × Bool) (state : State)
    {script : List (Option Input)} (nonempty : script ≠ []) :
    (drain step state script).2.length < script.length := by
  induction script generalizing state with
  | nil => exact absurd rfl nonempty
  | cons read rest ih =>
      cases read with
      | none => simp [drain]
      | some input =>
          by_cases stops : (step state input).2 = true
          · simp [drain, stops]
          · by_cases restNil : rest = []
            · simp [drain, stops, restNil]
            · have := ih (step state input).1 restNil
              simp only [drain, stops, List.length_cons]
              simp only [Bool.false_eq_true, if_false]
              omega

/-- `reached` is the state after `inputs`, none of which asked to stop. -/
inductive Passes (step : State → Input → State × Bool) : State → List Input → State → Prop where
  | nil (state : State) : Passes step state [] state
  | cons {state reached : State} {input : Input} {rest : List Input}
      (goesOn : (step state input).2 = false)
      (later : Passes step (step state input).1 rest reached) :
      Passes step state (input :: rest) reached

theorem Passes.append {step : State → Input → State × Bool} {first second third : State}
    {before after : List Input} (left : Passes step first before second)
    (right : Passes step second after third) : Passes step first (before ++ after) third := by
  induction left with
  | nil => exact right
  | cons goesOn _ ih => exact Passes.cons goesOn (ih right)

/-- A call on a message that only its last input ends: it reads the whole message, or it
leaves a state that passes over the rest of it. -/
theorem drain_of_passes {step : State → Input → State × Bool} {state mid : State}
    {message : List Input} {last : Input} (body : Passes step state message mid)
    (stops : (step mid last).2 = true) {script : List (Option Input)}
    (inputs : script.reduceOption = message ++ [last]) :
    ((drain step state script).2.reduceOption = [] ∧
        (drain step state script).1 = (step mid last).1) ∨
      ∃ done rest, (drain step state script).2.reduceOption = rest ++ [last] ∧
        Passes step state done (drain step state script).1 ∧
        Passes step (drain step state script).1 rest mid := by
  induction script generalizing state message with
  | nil => simp at inputs
  | cons read rest ih =>
      cases read with
      | none => exact Or.inr ⟨[], message, inputs, Passes.nil state, body⟩
      | some input =>
          rw [List.reduceOption_cons_of_some] at inputs
          cases body with
          | nil =>
              rw [List.nil_append, List.cons.injEq] at inputs
              left
              simp [drain, inputs.1, stops, inputs.2]
          | cons goesOn later =>
              rw [List.cons_append, List.cons.injEq] at inputs
              rw [← inputs.1] at goesOn later
              have unfolded : drain step state (some input :: rest) =
                  drain step (step state input).1 rest := by
                simp [drain, goesOn]
              rw [unfolded]
              rcases ih later inputs.2 with ended | ⟨done, unread, left, passed, remains⟩
              · exact Or.inl ended
              · exact Or.inr ⟨input :: done, unread, left, Passes.cons goesOn passed, remains⟩

/-- A call passes over some inputs, and then finds nothing or reads an input that stops it. -/
theorem exists_passes_drain (step : State → Input → State × Bool) (state : State)
    (script : List (Option Input)) :
    ∃ passed mid, Passes step state passed mid ∧
      ((script.reduceOption = passed ++ (drain step state script).2.reduceOption ∧
          (drain step state script).1 = mid) ∨
        ∃ last, (step mid last).2 = true ∧
          script.reduceOption = passed ++ last :: (drain step state script).2.reduceOption ∧
          (drain step state script).1 = (step mid last).1) := by
  induction script generalizing state with
  | nil => exact ⟨[], state, Passes.nil state, Or.inl ⟨rfl, rfl⟩⟩
  | cons read rest ih =>
      cases read with
      | none => exact ⟨[], state, Passes.nil state, Or.inl ⟨rfl, rfl⟩⟩
      | some input =>
          by_cases stops : (step state input).2 = true
          · exact ⟨[], state, Passes.nil state, Or.inr ⟨input, stops, by simp [drain, stops]⟩⟩
          · have unfolded : drain step state (some input :: rest) =
                drain step (step state input).1 rest := by
              simp [drain, stops]
            have goesOn : (step state input).2 = false := by simpa using stops
            rw [unfolded, List.reduceOption_cons_of_some]
            rcases ih (step state input).1 with
              ⟨passed, mid, passes, ⟨inputs, reached⟩ | ⟨last, ends, inputs, reached⟩⟩
            · exact ⟨input :: passed, mid, Passes.cons goesOn passes,
                Or.inl ⟨congrArg (input :: ·) inputs, reached⟩⟩
            · exact ⟨input :: passed, mid, Passes.cons goesOn passes,
                Or.inr ⟨last, ends, congrArg (input :: ·) inputs, reached⟩⟩

section Calls

variable (call : State → List (Option Input) → State × List (Option Input))

/-- The state after so many calls, and what is left of the script. -/
def calls (count : ℕ) (state : State) (script : List (Option Input)) :
    State × List (Option Input) :=
  (fun current => call current.1 current.2)^[count] (state, script)

@[simp]
theorem calls_zero (state : State) (script : List (Option Input)) :
    calls call 0 state script = (state, script) := rfl

theorem calls_succ (count : ℕ) (state : State) (script : List (Option Input)) :
    calls call (count + 1) state script =
      call (calls call count state script).1 (calls call count state script).2 := by
  simp [calls, Function.iterate_succ_apply']

variable {call} {state : State}

/-- The run rule for calls: if each call consumes a prefix of the inputs and keeps the
relation between the inputs consumed so far and the state, any number of calls does. -/
theorem exists_prefix_calls {script : List (Option Input)}
    (reached : List Input → State → Prop) (init : reached [] state)
    (step : ∀ consumed current rest, reached consumed current →
      script.reduceOption = consumed ++ rest.reduceOption →
      ∃ more, rest.reduceOption = more ++ (call current rest).2.reduceOption ∧
        reached (consumed ++ more) (call current rest).1)
    (count : ℕ) :
    ∃ consumed, script.reduceOption =
        consumed ++ (calls call count state script).2.reduceOption ∧
      reached consumed (calls call count state script).1 := by
  induction count with
  | zero => exact ⟨[], by simp, init⟩
  | succ count ih =>
      rcases ih with ⟨consumed, inputs, here⟩
      rcases step consumed _ _ here inputs with ⟨more, moreInputs, there⟩
      rw [calls_succ]
      exact ⟨consumed ++ more, by rw [inputs, moreInputs, List.append_assoc], there⟩

/-- What every call keeps, any number of calls keeps. -/
theorem calls_invariant {invariant : State → Prop}
    (keeps : ∀ current rest, invariant current → invariant (call current rest).1)
    (holds : invariant state) (script : List (Option Input)) (count : ℕ) :
    invariant (calls call count state script).1 := by
  induction count with
  | zero => exact holds
  | succ count ih =>
      rw [calls_succ]
      exact keeps _ _ ih

variable (call) (state) in
/-- Enough calls read the whole script, unless they come to a state in which a call no longer
reads. -/
theorem blocked_or_length_calls_le (script : List (Option Input)) (blocked : State → Prop)
    (stays : ∀ current rest, blocked current → blocked (call current rest).1)
    (shortens : ∀ current rest, ¬blocked current → rest ≠ [] →
      (call current rest).2.length < rest.length)
    (atEnd : ∀ current, (call current []).2 = []) (count : ℕ) :
    blocked (calls call count state script).1 ∨
      (calls call count state script).2.length ≤ script.length - count := by
  induction count with
  | zero => exact Or.inr (by simp)
  | succ count ih =>
      rw [calls_succ]
      rcases ih with isBlocked | short
      · exact Or.inl (stays _ _ isBlocked)
      · by_cases isBlocked : blocked (calls call count state script).1
        · exact Or.inl (stays _ _ isBlocked)
        · right
          by_cases done : (calls call count state script).2 = []
          · rw [done, atEnd]
            simp
          · have := shortens _ _ isBlocked done
            omega

end Calls

end Polling
