import Mathlib.Data.Bool.Basic
import Mathlib.Logic.Function.Basic

/-!
# Two stations

Each of two stations acts on what is on its line and writes to the line of the other. What a station
has sent is a history, which the events that are fair extend. `Keeps` is what one event has to keep
of a relation between a station, its line and what the other has sent; then any interleaving of the
events of both keeps it (`run_keeps`).
-/

namespace Stations

universe u v w x y

variable {State : Type u} {Input : Type v} {Event : Type w} {History : Type x} {Error : Type y}

/-- The state of one end, and what is on the line to it. -/
structure Station (State : Type u) (Input : Type v) where
  state : State
  /-- What is on the line to this station and not read yet. -/
  flight : List Input

/-- What the other end has written is on the line. -/
def Station.hears (station : Station State Input) (written : List Input) : Station State Input :=
  { station with flight := station.flight ++ written }

section Run

-- What an event does at its station: the station after it, and what it has written.
variable (act : Station State Input → Event → Except Error (Station State Input × List Input))

/-- An event at one of the ends: the other one hears what is written. -/
def event (stations : Bool → Station State Input) (side : Bool) (e : Event) :
    Except Error (Bool → Station State Input) :=
  match act (stations side) e with
  | .ok (station, written) =>
      .ok (Function.update (Function.update stations side station) (!side)
        ((stations !side).hears written))
  | .error error => .error error

/-- Events of both stations, in any interleaving. -/
def run : (Bool → Station State Input) → List (Bool × Event) →
    Except Error (Bool → Station State Input)
  | stations, [] => .ok stations
  | stations, (side, e) :: rest =>
      match event act stations side e with
      | .ok next => run next rest
      | .error error => .error error

/-- The events at one of the ends. -/
def eventsOf (side : Bool) (events : List (Bool × Event)) : List Event :=
  events.filterMap fun e => if e.1 = side then some e.2 else none

variable (Attends : Station State Input → History → Prop)
  (Extends : History → Event → History → Prop)

/-- Events of one station, and what it has sent before and after them. -/
inductive Fair : History → List Event → History → Prop where
  | nil (sent : History) : Fair sent [] sent
  | cons {sent sent' sent'' : History} {e : Event} {rest : List Event}
      (here : Extends sent e sent') (later : Fair sent' rest sent'') : Fair sent (e :: rest) sent''

/-- No event fails, an event keeps the relation at its own station, and what it writes keeps it at
the other. -/
structure Keeps : Prop where
  acts {station : Station State Input} {heard sent sent' : History} {e : Event} :
    Attends station heard → Extends sent e sent' →
      ∃ next written, act station e = .ok (next, written) ∧ Attends next heard ∧
        ∀ other, Attends other sent → Attends (other.hears written) sent'

/-- Each station attends to what the other has sent. -/
def Linked (stations : Bool → Station State Input) (sent : Bool → History) : Prop :=
  ∀ side, Attends (stations side) (sent !side)

variable {act Attends Extends} {stations : Bool → Station State Input} {sent sent' : Bool → History}
  {side : Bool} {e : Event}

theorem eq_of_fair_nil {before after : History} (fair : Fair Extends before [] after) :
    before = after := by
  cases fair
  rfl

theorem exists_of_fair_cons {before after : History} {rest : List Event}
    (fair : Fair Extends before (e :: rest) after) :
    ∃ middle, Extends before e middle ∧ Fair Extends middle rest after := by
  cases fair with
  | cons here later => exact ⟨_, here, later⟩

theorem event_eq {station : Station State Input} {written : List Input}
    (acts : act (stations side) e = .ok (station, written)) :
    event act stations side e = .ok (Function.update (Function.update stations side station)
      (!side) ((stations !side).hears written)) := by
  rw [event, acts]

theorem event_eq_of_silent {station : Station State Input}
    (acts : act (stations side) e = .ok (station, [])) :
    event act stations side e = .ok (Function.update stations side station) := by
  have apart : side ≠ !side := (Bool.not_ne_self side).symm
  have nothing : (stations !side).hears [] = stations !side := by
    rw [Station.hears, List.append_nil]
  rw [event_eq acts, nothing, Function.update_comm apart, Function.update_eq_self]

theorem run_cons_of_silent {station : Station State Input}
    (acts : act (stations side) e = .ok (station, [])) (rest : List (Bool × Event)) :
    run act stations ((side, e) :: rest) =
      run act (Function.update stations side station) rest := by
  rw [run, event_eq_of_silent acts]

/-- The step lemma. -/
theorem event_keeps (keeps : Keeps act Attends Extends) (linked : Linked Attends stations sent)
    {after : History} (fair : Extends (sent side) e after) :
    ∃ next, event act stations side e = .ok next ∧
      Linked Attends next (Function.update sent side after) := by
  have apart : (!side) ≠ side := Bool.not_ne_self side
  rcases keeps.acts (linked side) fair with ⟨station, written, acts, here, there⟩
  refine ⟨_, event_eq acts, fun s => ?_⟩
  rcases Bool.eq_or_eq_not s side with rfl | rfl
  · rw [Function.update_of_ne apart.symm, Function.update_self, Function.update_of_ne apart]
    exact here
  · rw [Function.update_self, Bool.not_not, Function.update_self]
    apply there
    have attends := linked (!side)
    rw [Bool.not_not] at attends
    exact attends

/-- The run lemma. -/
theorem run_keeps (keeps : Keeps act Attends Extends) (linked : Linked Attends stations sent)
    {events : List (Bool × Event)}
    (fair : ∀ side, Fair Extends (sent side) (eventsOf side events) (sent' side)) :
    ∃ after, run act stations events = .ok after ∧ Linked Attends after sent' := by
  induction events generalizing stations sent with
  | nil =>
      have same : sent = sent' := funext fun side => eq_of_fair_nil (fair side)
      exact ⟨stations, rfl, same ▸ linked⟩
  | cons tagged events ih =>
      rcases tagged with ⟨side, e⟩
      have apart : (!side) ≠ side := Bool.not_ne_self side
      have own : eventsOf side ((side, e) :: events) = e :: eventsOf side events :=
        List.filterMap_cons_some (if_pos rfl)
      have other : eventsOf (!side) ((side, e) :: events) = eventsOf (!side) events :=
        List.filterMap_cons_none (if_neg apart.symm)
      have fairHere := fair side
      rw [own] at fairHere
      rcases exists_of_fair_cons fairHere with ⟨middle, here, later⟩
      rcases event_keeps keeps linked here with ⟨next, done, linkedNext⟩
      have fairRest : ∀ s, Fair Extends (Function.update sent side middle s)
          (eventsOf s events) (sent' s) := by
        intro s
        rcases Bool.eq_or_eq_not s side with rfl | rfl
        · rw [Function.update_self]
          exact later
        · rw [Function.update_of_ne apart, ← other]
          exact fair (!side)
      rcases ih linkedNext fairRest with ⟨after, ran, linkedAfter⟩
      refine ⟨after, ?_, linkedAfter⟩
      rw [run, done]
      exact ran

end Run

end Stations
