import Mathlib.Data.List.Basic

/-!
# Runs of calls and refinement

A component is used by calls on its state, each with a reply; a call may also fail to return,
and a run is then given up there. What the component is for is an abstract state and a total
function on it. A caller keeps its promises when every call it makes is allowed in the abstract
state that the earlier ones have led to. When each allowed call returns with the reply of the
abstract one and keeps a relation between the two states, so does every run (`run_refines`).
What each call keeps when it returns, every run keeps (`run_keeps`).
-/

namespace Refinement

universe u

variable {State Abstract Call Reply Fault : Type u}

/-- The replies of a sequence of calls, up to a fault. -/
def run (call : State → Call → Except Fault (State × Reply)) :
    State → List Call → Except Fault (State × List Reply)
  | state, [] => .ok (state, [])
  | state, made :: rest => do
      let done ← call state made
      let after ← run call done.1 rest
      return (after.1, done.2 :: after.2)

/-- The replies of the specification. -/
def abstractRun (spec : Abstract → Call → Abstract × Reply) :
    Abstract → List Call → Abstract × List Reply
  | abstract, [] => (abstract, [])
  | abstract, made :: rest =>
      ((abstractRun spec (spec abstract made).1 rest).1,
        (spec abstract made).2 :: (abstractRun spec (spec abstract made).1 rest).2)

/-- Each call of a sequence is allowed where it is made. -/
def Allowed (spec : Abstract → Call → Abstract × Reply) (allowed : Abstract → Call → Prop) :
    Abstract → List Call → Prop
  | _, [] => True
  | abstract, made :: rest =>
      allowed abstract made ∧ Allowed spec allowed (spec abstract made).1 rest

theorem exists_of_bind_eq_ok {Value Result : Type u} {first : Except Fault Value}
    {next : Value → Except Fault Result} {result : Result}
    (returned : first >>= next = .ok result) :
    ∃ value, first = .ok value ∧ next value = .ok result := by
  cases first with
  | error fault => cases returned
  | ok value => exact ⟨value, rfl, returned⟩

theorem run_refines {call : State → Call → Except Fault (State × Reply)}
    {spec : Abstract → Call → Abstract × Reply} {allowed : Abstract → Call → Prop}
    {related : State → Abstract → Prop}
    (step : ∀ state abstract made, related state abstract → allowed abstract made →
      ∃ after, call state made = .ok (after, (spec abstract made).2) ∧
        related after (spec abstract made).1)
    {state : State} {abstract : Abstract} (start : related state abstract)
    {made : List Call} (promised : Allowed spec allowed abstract made) :
    ∃ after, run call state made = .ok (after, (abstractRun spec abstract made).2) ∧
      related after (abstractRun spec abstract made).1 := by
  induction made generalizing state abstract with
  | nil => exact ⟨state, rfl, start⟩
  | cons next rest ih =>
      rcases step state abstract next start promised.1 with ⟨middle, called, kept⟩
      rcases ih kept promised.2 with ⟨after, continued, related⟩
      refine ⟨after, ?_, related⟩
      rw [run, called]
      change (run call middle rest >>= fun after => _) = _
      rw [continued]
      rfl

theorem run_cons_eq_ok {call : State → Call → Except Fault (State × Reply)} {state after : State}
    {made : Call} {rest : List Call} {replies : List Reply}
    (ran : run call state (made :: rest) = .ok (after, replies)) :
    ∃ middle reply later, call state made = .ok (middle, reply) ∧
      run call middle rest = .ok (after, later) := by
  rw [run] at ran
  rcases exists_of_bind_eq_ok ran with ⟨⟨middle, reply⟩, called, ran⟩
  rcases exists_of_bind_eq_ok ran with ⟨⟨last, later⟩, continued, returned⟩
  cases returned
  exact ⟨middle, reply, later, called, continued⟩

theorem run_keeps {call : State → Call → Except Fault (State × Reply)} {kept : State → Prop}
    (step : ∀ state made after reply, kept state → call state made = .ok (after, reply) →
      kept after)
    {state after : State} (start : kept state) {made : List Call} {replies : List Reply}
    (ran : run call state made = .ok (after, replies)) : kept after := by
  induction made generalizing state replies with
  | nil =>
      cases ran
      exact start
  | cons next rest ih =>
      rcases run_cons_eq_ok ran with ⟨middle, reply, later, called, continued⟩
      exact ih (step state next middle reply start called) continued

end Refinement
