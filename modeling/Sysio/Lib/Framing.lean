import Sysio.Lib.Polling

/-!
# Messages on a polled line

A writer puts messages on a line, with noise between them, and a non-blocking reader takes the bytes
off it a few at a time. A `Framing` says how a message is written and what the reader does with it
alone: it stops at the last byte and not before. Then it finds every message of a line, in order:
`Follows` says where the reader is on its line, and writing (`Follows.noise`, `Follows.message`),
reading (`Follows.drain`) and starting afresh (`Line.follows`) keep it so.
-/

namespace Polling

universe u v w

variable {State : Type u} {Input : Type v} {Message : Type w}

section Drain

variable {step : State → Input → State × Bool} {state mid : State} {body after beyond : List Input}
  {last : Input}

/-- What every step keeps that does not stop, inputs passed over keep. -/
theorem Passes.keeps {invariant : State → Prop}
    (keeps : ∀ state input, invariant state → (step state input).2 = false →
      invariant (step state input).1)
    (passes : Passes step state body mid) (holds : invariant state) : invariant mid := by
  induction passes with
  | nil state => exact holds
  | cons goesOn _ ih => exact ih (keeps _ _ holds goesOn)

/-- A call on the first part of some inputs that it passes over. -/
theorem exists_passes_of_drain (passes : Passes step state body mid)
    {script : List (Option Input)} (inputs : script.reduceOption ++ beyond = body) :
    ∃ done, Passes step state done (drain step state script).1 ∧
      Passes step (drain step state script).1
        ((drain step state script).2.reduceOption ++ beyond) mid := by
  induction script generalizing state body with
  | nil =>
      rw [drain, inputs]
      exact ⟨[], .nil state, passes⟩
  | cons read rest ih =>
      cases read with
      | none =>
          rw [drain]
          rw [List.reduceOption_cons_of_none] at inputs
          rw [inputs]
          exact ⟨[], .nil state, passes⟩
      | some input =>
          rw [List.reduceOption_cons_of_some, List.cons_append] at inputs
          rw [← inputs] at passes
          cases passes with
          | cons goesOn later =>
              rw [drain, goesOn, if_neg Bool.false_ne_true]
              rcases ih later rfl with ⟨done, passed, remains⟩
              exact ⟨input :: done, .cons goesOn passed, remains⟩

/-- A call on the first part of a line, of which `last` ends a message: it stops there, or it
is on the way to it. -/
theorem drain_of_passes_append (passes : Passes step state body mid)
    (stops : (step mid last).2 = true) {script : List (Option Input)}
    (inputs : script.reduceOption ++ beyond = body ++ last :: after) :
    ((drain step state script).1 = (step mid last).1 ∧
        (drain step state script).2.reduceOption ++ beyond = after) ∨
      ∃ done rest, Passes step state done (drain step state script).1 ∧
        Passes step (drain step state script).1 rest mid ∧
        (drain step state script).2.reduceOption ++ beyond = rest ++ last :: after := by
  induction script generalizing state body with
  | nil => exact .inr ⟨[], body, .nil state, passes, inputs⟩
  | cons read rest ih =>
      cases read with
      | none => exact .inr ⟨[], body, .nil state, passes, inputs⟩
      | some input =>
          rw [List.reduceOption_cons_of_some, List.cons_append] at inputs
          cases passes with
          | nil =>
              rw [List.nil_append, List.cons.injEq] at inputs
              rw [inputs.1, drain, stops, if_pos rfl]
              exact .inl ⟨rfl, inputs.2⟩
          | cons goesOn later =>
              rw [List.cons_append, List.cons.injEq] at inputs
              rw [inputs.1, drain, goesOn, if_neg Bool.false_ne_true]
              rcases ih later inputs.2 with stopped | ⟨done, rest, passed, remains, left⟩
              · exact .inl stopped
              · exact .inr ⟨_ :: done, rest, .cons goesOn passed, remains, left⟩

/-- A call that finds all of the line stops at the end of the message. -/
theorem drain_map_some (passes : Passes step state body mid) (stops : (step mid last).2 = true) :
    drain step state ((body ++ last :: after).map some) =
      ((step mid last).1, after.map some) := by
  induction passes with
  | nil state =>
      rw [List.nil_append, List.map_cons, drain, stops, if_pos rfl]
  | cons goesOn _ ih =>
      rw [List.cons_append, List.map_cons, drain, goesOn, if_neg Bool.false_ne_true]
      exact ih stops

/-- A reader that has more to its state than the steps look at. -/
theorem drain_map {View : Type u} {look : View → State} {wide : View → Input → View × Bool}
    (same : ∀ view input, step (look view) input =
      (look (wide view input).1, (wide view input).2))
    (view : View) (script : List (Option Input)) :
    drain step (look view) script =
      (look (drain wide view script).1, (drain wide view script).2) := by
  induction script generalizing view with
  | nil => rfl
  | cons read rest ih =>
      cases read with
      | none => rfl
      | some input =>
          rw [drain, drain, same]
          dsimp only
          split_ifs
          · rfl
          · exact ih _

end Drain

theorem reduceOption_map_some (line : List Input) : (line.map some).reduceOption = line := by
  rw [List.reduceOption, List.filterMap_map]
  exact List.filterMap_some

/-- How messages stand on a line, and what the reader makes of each. -/
structure Framing (State : Type u) (Input : Type v) (Message : Type w) where
  step : State → Input → State × Bool
  wire : Message → List Input
  /-- The reader takes what comes. -/
  Open : State → Prop
  /-- The reader has read this noise since it was last without a message. -/
  Idle : List Input → State → Prop
  /-- What may follow some noise. -/
  Quiet : List Input → List Input → Prop
  Holds : Message → State → Prop
  stays (state : State) (input : Input) : Open state → (step state input).2 = false →
    Open (step state input).1
  isOpen {noise : List Input} {state : State} : Idle noise state → Open state
  passes {noise more : List Input} {state : State} : Idle noise state → Quiet noise more →
    ∃ mid, Passes step state more mid ∧ Idle (noise ++ more) mid
  completes (m : Message) {noise : List Input} {state : State} : Idle noise state →
    ∃ body mid last, wire m = body ++ [last] ∧ Passes step state body mid ∧
      (step mid last).2 = true ∧ Holds m (step mid last).1

namespace Framing

variable (F : Framing State Input Message)

/-- What has been written: the messages, and the noise behind the last of them. -/
inductive Line : List Input → List Message → List Input → Prop where
  | nil : Line [] [] []
  | noise {line trail : List Input} {messages : List Message} (written : Line line messages trail)
      {more : List Input} (quiet : F.Quiet trail more) :
      Line (line ++ more) messages (trail ++ more)
  | message {line trail : List Input} {messages : List Message}
      (written : Line line messages trail) (m : Message) :
      Line (line ++ F.wire m) (messages ++ [m]) []

/-- Of what is not read yet, the reader still has to find these messages. -/
inductive Follows (state : State) : List Input → List Message → List Input → Prop where
  | idle {unread trail : List Input} {mid : State} (isOpen : F.Open state)
      (passes : Passes F.step state unread mid) (isIdle : F.Idle trail mid) :
      Follows state unread [] trail
  | inside {body after trail : List Input} {mid : State} {last : Input} {m : Message}
      {later : List Message} (isOpen : F.Open state) (passes : Passes F.step state body mid)
      (stops : (F.step mid last).2 = true) (holds : F.Holds m (F.step mid last).1)
      (written : F.Line after later trail) :
      Follows state (body ++ last :: after) (m :: later) trail

variable {F} {state : State} {unread trail : List Input} {messages : List Message}

theorem Follows.isOpen (follows : F.Follows state unread messages trail) : F.Open state := by
  cases follows with
  | idle isOpen => exact isOpen
  | inside isOpen => exact isOpen

theorem Follows.noise (follows : F.Follows state unread messages trail) {more : List Input}
    (quiet : F.Quiet trail more) : F.Follows state (unread ++ more) messages (trail ++ more) := by
  cases follows with
  | idle isOpen passes isIdle =>
      rcases F.passes isIdle quiet with ⟨mid, further, isIdle⟩
      exact .idle isOpen (passes.append further) isIdle
  | inside isOpen passes stops holds written =>
      rw [List.append_assoc, List.cons_append]
      exact .inside isOpen passes stops holds (written.noise quiet)

theorem Follows.message (follows : F.Follows state unread messages trail) (m : Message) :
    F.Follows state (unread ++ F.wire m) (messages ++ [m]) [] := by
  cases follows with
  | idle isOpen passes isIdle =>
      rcases F.completes m isIdle with ⟨body, mid, last, wire, further, stops, holds⟩
      rw [wire, ← List.append_assoc]
      exact .inside isOpen (passes.append further) stops holds .nil
  | inside isOpen passes stops holds written =>
      rw [List.append_assoc, List.cons_append]
      exact .inside isOpen passes stops holds (written.message m)

theorem Line.follows (written : F.Line unread messages trail) (isIdle : F.Idle [] state) :
    F.Follows state unread messages trail := by
  induction written with
  | nil => exact .idle (F.isOpen isIdle) (.nil state) isIdle
  | noise _ quiet ih => exact ih.noise quiet
  | message _ m ih => exact ih.message m

/-- The reader holds the first message, and the rest of the line is not read. -/
def Reported (F : Framing State Input Message) (state : State) (unread : List Input)
    (messages : List Message) (trail : List Input) : Prop :=
  ∃ m later, messages = m :: later ∧ F.Holds m state ∧ F.Line unread later trail

theorem Follows.drain (follows : F.Follows state unread messages trail)
    {script : List (Option Input)} {beyond : List Input}
    (inputs : script.reduceOption ++ beyond = unread) :
    let read := drain F.step state script
    F.Reported read.1 (read.2.reduceOption ++ beyond) messages trail ∨
      F.Follows read.1 (read.2.reduceOption ++ beyond) messages trail := by
  cases follows with
  | idle isOpen passes isIdle =>
      rcases exists_passes_of_drain passes inputs with ⟨done, passed, remains⟩
      exact .inr (.idle (passed.keeps F.stays isOpen) remains isIdle)
  | inside isOpen passes stops holds written =>
      rcases drain_of_passes_append passes stops inputs with
        ⟨reached, left⟩ | ⟨done, rest, passed, remains, left⟩
      · refine .inl ⟨_, _, rfl, ?_, ?_⟩
        · rw [reached]
          exact holds
        · rw [left]
          exact written
      · dsimp only
        rw [left]
        exact .inr (.inside (passed.keeps F.stays isOpen) remains stops holds written)

/-- With all of the line at hand, the reader comes to the first message. -/
theorem Follows.drain_all (follows : F.Follows state unread messages trail)
    (some_ : messages ≠ []) :
    let read := Polling.drain F.step state (unread.map some)
    F.Reported read.1 read.2.reduceOption messages trail := by
  cases follows with
  | idle isOpen passes isIdle => exact absurd rfl some_
  | inside isOpen passes stops holds written =>
      dsimp only
      rw [drain_map_some passes stops, reduceOption_map_some]
      exact ⟨_, _, rfl, holds, written⟩

end Framing

end Polling
