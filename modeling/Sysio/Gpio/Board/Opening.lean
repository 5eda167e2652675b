import Sysio.Gpio.Board.Keeping

/-!
# Opening and closing a pin

Opening a pin writes the mode and the pull resistor that it has been given before, closing it
releases it. With a pin that is not of the type GPIO nothing is done at all.
-/

namespace Sysio.Board

open Throwing

section OpenClose

variable {Regs : Type} {dev : Device Regs} {inside : ℕ → Prop} {view : Regs → ℕ → PinView}
  {pin : Pin} {start : GpioState Regs} {first : PinView} {guarded : Prop}
  {isopen : Bool} (refines : dev.Refines inside view) (isGpio : pin.isGpio = true)
  (isInside : inside pin.mcuNumber)

include refines isGpio isInside

theorem openPin_keeps (isOpen : dev.isOpen start.regs = true) :
    Ensures (On dev inside view pin start (PinKept first guarded isopen)) (pin.openPin dev)
      (fun _ => On dev inside view pin start (PinKept first guarded true))
      (fun _ => On dev inside view pin start (PinKept first guarded true)) := by
  apply ensures_bind _ ensures_getState
  intro state
  apply ensures_of_fact (state.isopen = isopen)
  · rintro s ⟨-, rfl, kept⟩
    exact kept.isopen
  rintro rfl
  apply ensures_bind (fun _ => On dev inside view pin start (PinKept first guarded true))
  · apply ensures_whenever
    · intro _
      apply ensures_bind (fun _ => On dev inside view pin start (PinKept first guarded true))
      · apply ensures_change
        rintro st now ⟨-, kept⟩
        exact ⟨rfl, kept.mode, kept.pull, kept.level⟩
      intro _
      rw [whenever_of_true isGpio]
      apply ensures_bind (fun _ => On dev inside view pin start (PinKept first guarded true))
      · apply ensures_ite
        · intro _
          exact writeMode_keeps refines isGpio isInside isOpen
        · intro _
          exact readMode_keeps refines isInside isOpen
      · intro _
        apply ensures_ite
        · intro _
          exact writePull_keeps refines isGpio isInside isOpen
        · intro _
          exact readPull_keeps refines isInside isOpen
    · rintro wasOpen s ⟨around, -, kept⟩
      have open_ : state.isopen = true := by simpa using wasOpen
      exact ⟨around, open_ ▸ kept⟩
  intro _
  apply ensures_bind _ ensures_getState
  intro state
  apply ensures_pure
  rintro s ⟨around, -, kept⟩
  exact ⟨around, kept⟩

theorem close_restores (opened : isopen = true → dev.isOpen start.regs = true)
    (seen : ∃ regs, first = view regs pin.mcuNumber) :
    Finishes (On dev inside view pin start fun st now => PinKept first guarded isopen st now ∧
        (isopen = true ∨ (start.roc = true → st.Unheld)))
      (pin.close dev)
      (fun _ => On dev inside view pin start fun st now => PinKept first guarded false st now ∧
        (start.roc = true → st.Unheld)) := by
  apply ensures_bind _ ensures_getState
  intro state
  apply ensures_of_fact (state.isopen = isopen)
  · rintro s ⟨-, rfl, kept, -⟩
    exact kept.isopen
  rintro rfl
  apply ensures_whenever
  · intro open_
    rw [whenever_of_true isGpio]
    apply ensures_bind (fun _ => On dev inside view pin start fun st now =>
      PinKept first guarded true st now ∧ (start.roc = true → st.Unheld))
    · apply ensures_bind (fun gpio s => gpio.roc = start.roc ∧
        On dev inside view pin start (PinKept first guarded true) s)
      · apply ensures_get
        rintro s ⟨around, -, kept, -⟩
        rw [open_] at kept
        exact ⟨around.roc, around, kept⟩
      intro gpio
      apply ensures_of_fact _ fun s reached => reached.1
      intro isRoc
      rw [isRoc]
      apply ensures_whenever
      · intro _
        apply (release_restores refines isGpio isInside (fun _ => opened open_) seen).weaken
        · exact fun s reached => reached.2
        · rintro _ s ⟨around, kept, unheld⟩
          exact ⟨around, kept, fun _ => unheld rfl⟩
        · exact fun _ _ impossible => impossible
      · rintro keeps s ⟨-, around, kept⟩
        refine ⟨around, kept, fun releases => ?_⟩
        rw [keeps] at releases
        cases releases
    intro _
    apply ensures_change
    rintro st now ⟨kept, unheld⟩
    exact ⟨⟨rfl, kept.mode, kept.pull, kept.level⟩, unheld⟩
  · rintro shut s ⟨around, -, kept, openOr⟩
    rw [shut] at kept openOr
    exact ⟨around, kept, openOr.resolve_left Bool.false_ne_true⟩

end OpenClose

/-! ### Pins of other types -/

section Other

variable {Regs : Type} {dev : Device Regs} {inside : ℕ → Prop} {view : Regs → ℕ → PinView}
  {pin : Pin} {start : GpioState Regs} (other : pin.isGpio = false)

theorem keeps_getState_bind {α : Type} {f : PinState → GpioM Regs α}
    (keeps : ∀ state, Keeps (On dev inside view pin start fun _ _ => True) (f state)) :
    Keeps (On dev inside view pin start fun _ _ => True) (getState pin >>= f) := by
  apply ensures_bind (fun _ => On dev inside view pin start fun _ _ => True)
  · rintro s ⟨around, -⟩
    exact ⟨around, trivial⟩
  · exact keeps

theorem keeps_change {next : PinState → PinState} :
    Keeps (On dev inside view pin start fun _ _ => True) (change pin next) :=
  ensures_change fun _ _ _ => trivial

include other

/-- Nothing is done with a pin that is not of the type GPIO. -/
theorem keeps_whenever_other {condition : Bool} {body : GpioM Regs Unit} :
    Keeps (On dev inside view pin start fun _ _ => True)
      (whenever (condition && pin.isGpio) body) := by
  rw [other, Bool.and_false]
  exact ensures_pure fun _ reached => reached

theorem run_other (call : PinCall) :
    Keeps (On dev inside view pin start fun _ _ => True) (call.run dev pin) := by
  have skip : ∀ body : GpioM Regs Unit, Keeps (On dev inside view pin start fun _ _ => True)
      (whenever pin.isGpio body) := by
    intro body
    rw [other]
    exact ensures_pure fun _ reached => reached
  have ends : ∀ {α : Type} {m : GpioM Regs α},
      Keeps (On dev inside view pin start fun _ _ => True) m →
      Keeps (On dev inside view pin start fun _ _ => True) (do
        let _ ← m
        pure ()) := by
    intro α m keeps
    apply ensures_bind _ keeps
    exact fun _ => ensures_pure fun _ reached => reached
  have got : ∀ {α : Type} (body : GpioM Regs Unit) (value : PinState → α),
      Keeps (On dev inside view pin start fun _ _ => True) (do
        let state ← getState pin
        whenever (state.isopen && pin.isGpio) body
        let state ← getState pin
        pure (value state)) := by
    intro α body value
    apply keeps_getState_bind
    intro state
    apply ensures_bind _ (keeps_whenever_other other)
    intro _
    apply keeps_getState_bind
    exact fun _ => ensures_pure fun _ reached => reached
  cases call with
  | mode => exact ends (got _ _)
  | setMode m => exact skip _
  | pull => exact ends (got _ _)
  | setPull p => exact skip _
  | write value => exact keeps_getState_bind fun _ => keeps_whenever_other other
  | toggle => exact keeps_getState_bind fun _ => keeps_whenever_other other
  | read =>
      apply ends
      apply keeps_getState_bind
      intro state
      rw [other, Bool.and_false]
      exact ensures_throw fun _ reached => reached
  | release => exact keeps_getState_bind fun _ => keeps_whenever_other other

theorem openPin_other :
    Keeps (On dev inside view pin start fun _ _ => True) (pin.openPin dev) := by
  apply keeps_getState_bind
  intro state
  apply ensures_bind (fun _ => On dev inside view pin start fun _ _ => True)
  · apply ensures_whenever
    · intro _
      apply ensures_bind _ keeps_change
      intro _
      rw [other]
      exact ensures_pure fun _ reached => reached
    · exact fun _ _ reached => reached
  intro _
  apply keeps_getState_bind
  exact fun _ => ensures_pure fun _ reached => reached

theorem close_other {thrown : GpioThrow → GpioState Regs → Prop} :
    Ensures (On dev inside view pin start fun _ _ => True) (pin.close dev)
      (fun _ => On dev inside view pin start fun _ _ => True) thrown := by
  apply ensures_bind (fun _ => On dev inside view pin start fun _ _ => True)
  · rintro s ⟨around, -⟩
    exact ⟨around, trivial⟩
  intro state
  apply ensures_whenever
  · intro _
    apply ensures_bind (fun _ => On dev inside view pin start fun _ _ => True)
    · rw [other]
      exact ensures_pure fun _ reached => reached
    · exact fun _ => ensures_change fun _ _ _ => trivial
  · exact fun _ _ reached => reached

end Other

end Sysio.Board
