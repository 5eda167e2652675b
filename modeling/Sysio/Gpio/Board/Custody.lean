import Sysio.Gpio.Board.Pin

/-!
# What is kept of a pin

Of every pin its first mode, its first pull resistor and, for an output, its first level are either
kept or still in the device: whatever is done with the pins, and also where a call has thrown. So
closing the GPIO leads back to them.
-/

namespace Sysio.Board

open Throwing

/-- The mode and the pull resistor of a pin are kept or still there, and so is the level of an
output unless it is not `guarded` from being written before. -/
structure PinKept (first : PinView) (guarded : Prop) (isopen : Bool) (state : PinState)
    (now : PinView) : Prop where
  isopen : state.isopen = isopen
  mode : (if state.holdMode = .modeUnknown then now.mode else state.holdMode) = first.mode
  pull : first.pull ≠ .pullUnknown →
    (if state.holdPull = .pullUnknown then now.pull else state.holdPull) = first.pull
  level : guarded → first.mode = .modeOutput →
    (if state.holdMode = .modeUnknown then now.level else state.holdState) = first.level

/-- The same, where a level may be written. -/
def PinWritable (first : PinView) (guarded : Prop) (isopen : Bool) (state : PinState)
    (now : PinView) : Prop :=
  PinKept first guarded isopen state now ∧
    (guarded → isopen = true → state.holdMode ≠ .modeUnknown)

/-- Nothing is kept. -/
def PinState.Unheld (state : PinState) : Prop :=
  state.holdMode = .modeUnknown ∧ state.holdPull = .pullUnknown

/-- The pin after its mode has been kept. -/
def PinState.heldMode (state : PinState) (now : PinView) : PinState :=
  if state.holdMode = .modeUnknown then
    { state with
      holdMode := now.mode
      holdState := if now.mode = .modeOutput then now.level else state.holdState }
  else state

/-- The pin after its pull resistor has been kept. -/
def PinState.heldPull (state : PinState) (now : PinView) : PinState :=
  if state.holdPull = .pullUnknown then { state with holdPull := now.pull } else state

namespace PinKept

variable {first now next : PinView} {guarded : Prop} {isopen : Bool} {state : PinState}

/-- Nothing of it depends on the mode and the pull resistor that have been asked for. -/
theorem change (kept : PinKept first guarded isopen state now) (m : PinMode) (p : PinPull) :
    PinKept first guarded isopen { state with mode := m, pull := p } now :=
  ⟨kept.isopen, kept.mode, kept.pull, kept.level⟩

theorem heldMode (kept : PinKept first guarded isopen state now) :
    PinKept first guarded isopen (state.heldMode now) now := by
  rw [PinState.heldMode]
  by_cases unheld : state.holdMode = .modeUnknown
  · have isMode := kept.mode
    rw [if_pos unheld] at isMode
    rw [if_pos unheld]
    refine ⟨kept.isopen, ?_, kept.pull, ?_⟩
    · dsimp only
      split
      · exact isMode
      · exact isMode
    · intro guard output
      have isLevel := kept.level guard output
      rw [if_pos unheld] at isLevel
      dsimp only
      rw [if_pos (isMode.trans output), if_neg (by rw [isMode, output]; decide)]
      exact isLevel
  · rw [if_neg unheld]
    exact kept

theorem heldPull (kept : PinKept first guarded isopen state now) :
    PinKept first guarded isopen (state.heldPull now) now := by
  rw [PinState.heldPull]
  by_cases unheld : state.holdPull = .pullUnknown
  · rw [if_pos unheld]
    refine ⟨kept.isopen, kept.mode, ?_, kept.level⟩
    intro readable
    have isPull := kept.pull readable
    rw [if_pos unheld] at isPull
    dsimp only
    split
    · exact isPull
    · exact isPull
  · rw [if_neg unheld]
    exact kept

/-- The device changes while the mode is kept. -/
theorem remode (kept : PinKept first guarded isopen state now)
    (held : state.holdMode ≠ .modeUnknown) (samePull : next.pull = now.pull) :
    PinKept first guarded isopen state next := by
  refine ⟨kept.isopen, ?_, ?_, ?_⟩
  · have isMode := kept.mode
    rw [if_neg held] at isMode ⊢
    exact isMode
  · rw [samePull]
    exact kept.pull
  · intro guard output
    have isLevel := kept.level guard output
    rw [if_neg held] at isLevel ⊢
    exact isLevel

theorem repull (kept : PinKept first guarded isopen state now)
    (held : first.pull ≠ .pullUnknown → state.holdPull ≠ .pullUnknown)
    (sameMode : next.mode = now.mode) (sameLevel : next.level = now.level) :
    PinKept first guarded isopen state next := by
  refine ⟨kept.isopen, ?_, ?_, ?_⟩
  · rw [sameMode]
    exact kept.mode
  · intro readable
    have isPull := kept.pull readable
    rw [if_neg (held readable)] at isPull ⊢
    exact isPull
  · rw [sameLevel]
    exact kept.level

theorem relevel (kept : PinKept first guarded isopen state now)
    (held : guarded → state.holdMode ≠ .modeUnknown)
    (sameMode : next.mode = now.mode) (samePull : next.pull = now.pull) :
    PinKept first guarded isopen state next := by
  refine ⟨kept.isopen, ?_, ?_, ?_⟩
  · rw [sameMode]
    exact kept.mode
  · rw [samePull]
    exact kept.pull
  · intro guard output
    have isLevel := kept.level guard output
    rw [if_neg (held guard)] at isLevel ⊢
    exact isLevel

/-- A pull resistor that is still not kept after `holdPull` could not be read. -/
theorem holdPull_heldPull (kept : PinKept first guarded isopen state now)
    (readable : first.pull ≠ .pullUnknown) : (state.heldPull now).holdPull ≠ .pullUnknown := by
  have isPull := kept.pull readable
  rw [PinState.heldPull]
  by_cases unheld : state.holdPull = .pullUnknown
  · rw [if_pos unheld] at isPull ⊢
    dsimp only
    rw [isPull]
    exact readable
  · rw [if_neg unheld]
    exact unheld

end PinKept

theorem holdMode_heldMode {state : PinState} {now : PinView} (known : now.mode ≠ .modeUnknown) :
    (state.heldMode now).holdMode ≠ .modeUnknown := by
  rw [PinState.heldMode]
  split
  · exact known
  · assumption

theorem heldMode_of_held {state : PinState} {now : PinView}
    (held : state.holdMode ≠ .modeUnknown) : state.heldMode now = state :=
  if_neg held

theorem heldPull_of_held {state : PinState} {now : PinView}
    (held : state.holdPull ≠ .pullUnknown) : state.heldPull now = state :=
  if_neg held

/-! ### One pin -/

/-- Nothing but this pin has changed. -/
structure Around {Regs : Type} (dev : Device Regs) (inside : ℕ → Prop) (view : Regs → ℕ → PinView)
    (pin : Pin) (before after : GpioState Regs) : Prop where
  pins : ∀ p, p ≠ pin → after.pin p = before.pin p
  views : ∀ g, inside g → (pin.isGpio = true → g ≠ pin.mcuNumber) →
    view after.regs g = view before.regs g
  device : dev.isOpen after.regs = dev.isOpen before.regs
  connector : after.connectorIsOpen = before.connectorIsOpen
  isopen : after.isopen = before.isopen
  roc : after.roc = before.roc
  numbering : after.numbering = before.numbering
  pinMap : after.pinMap = before.pinMap

/-- Nothing but this pin has changed, of which `holds` is known. -/
def On {Regs : Type} (dev : Device Regs) (inside : ℕ → Prop) (view : Regs → ℕ → PinView)
    (pin : Pin) (before : GpioState Regs) (holds : PinState → PinView → Prop)
    (after : GpioState Regs) : Prop :=
  Around dev inside view pin before after ∧ holds (after.pin pin) (view after.regs pin.mcuNumber)

section OnePin

variable {Regs : Type} {dev : Device Regs} {inside : ℕ → Prop} {view : Regs → ℕ → PinView}
  {pin : Pin} {start : GpioState Regs} {holds : PinState → PinView → Prop}

theorem around_refl : Around dev inside view pin start start :=
  ⟨fun _ _ => rfl, fun _ _ _ => rfl, rfl, rfl, rfl, rfl, rfl, rfl⟩

theorem Around.setPin {s : GpioState Regs} {state : PinState}
    (around : Around dev inside view pin start s) :
    Around dev inside view pin start (s.setPin pin state) where
  pins p other := (Function.update_of_ne other ..).trans (around.pins p other)
  views := around.views
  device := around.device
  connector := around.connector
  isopen := around.isopen
  roc := around.roc
  numbering := around.numbering
  pinMap := around.pinMap

theorem Around.setRegs {s : GpioState Regs} {regs : Regs}
    (around : Around dev inside view pin start s) (isGpio : pin.isGpio = true)
    (isOpen : dev.isOpen start.regs = true) (stays : dev.isOpen regs = true)
    (others : OthersSame inside (view s.regs) (view regs) pin.mcuNumber) :
    Around dev inside view pin start (s.setRegs regs) where
  pins := around.pins
  views g isInside other :=
    (others g isInside (other isGpio)).trans (around.views g isInside other)
  device := stays.trans isOpen.symm
  connector := around.connector
  isopen := around.isopen
  roc := around.roc
  numbering := around.numbering
  pinMap := around.pinMap

theorem ensures_getState {thrown : GpioThrow → GpioState Regs → Prop} :
    Ensures (On dev inside view pin start holds) (getState pin)
      (fun state => On dev inside view pin start fun st now => st = state ∧ holds st now)
      thrown := by
  rintro s ⟨around, held⟩
  exact ⟨around, rfl, held⟩

theorem ensures_change {next : PinState → PinState} {then_ : PinState → PinView → Prop}
    {thrown : GpioThrow → GpioState Regs → Prop}
    (step : ∀ st now, holds st now → then_ (next st) now) :
    Ensures (On dev inside view pin start holds) (change pin next)
      (fun _ => On dev inside view pin start then_) thrown := by
  rintro s ⟨around, held⟩
  refine ⟨around.setPin, ?_⟩
  change then_ (Function.update s.pin pin (next (s.pin pin)) pin) _
  rw [Function.update_self]
  exact step _ _ held

/-- A function of the device that returns something of the pin. -/
theorem ensures_ask {α : Type} (part : PinView → α) {value : Regs → Except GpioThrow α}
    {thrown : GpioThrow → GpioState Regs → Prop} (isOpen : dev.isOpen start.regs = true)
    (answers : ∀ regs, dev.isOpen regs = true →
      value regs = .ok (part (view regs pin.mcuNumber))) :
    Ensures (On dev inside view pin start holds) (ask value)
      (fun a => On dev inside view pin start fun st now => a = part now ∧ holds st now)
      thrown := by
  apply ensures_reads
  · rintro s a ⟨around, held⟩ isValue
    rw [answers s.regs (around.device.trans isOpen)] at isValue
    cases isValue
    exact ⟨around, rfl, held⟩
  · rintro s e ⟨around, held⟩ isError
    rw [answers s.regs (around.device.trans isOpen)] at isError
    cases isError

/-- A function of the device that changes something of the pin. -/
theorem ensures_tell {next : Regs → Except GpioThrow Regs} {then_ : PinState → PinView → Prop}
    (throws : GpioThrow → Prop) (isGpio : pin.isGpio = true)
    (isOpen : dev.isOpen start.regs = true)
    (step : ∀ regs after, dev.isOpen regs = true → next regs = .ok after →
      dev.isOpen after = true ∧ OthersSame inside (view regs) (view after) pin.mcuNumber ∧
        ∀ st, holds st (view regs pin.mcuNumber) → then_ st (view after pin.mcuNumber))
    (error : ∀ regs e, dev.isOpen regs = true → next regs = .error e → throws e) :
    Ensures (On dev inside view pin start holds) (tell next)
      (fun _ => On dev inside view pin start then_)
      (fun e s => throws e ∧ On dev inside view pin start holds s) := by
  apply ensures_writes
  · rintro s after ⟨around, held⟩ changed
    cases told : next s.regs with
    | error e =>
        rw [told] at changed
        cases changed
    | ok regs =>
        rw [told] at changed
        cases changed
        rcases step s.regs regs (around.device.trans isOpen) told with ⟨stays, others, reached⟩
        exact ⟨around.setRegs isGpio isOpen stays others, reached _ held⟩
  · rintro s e ⟨around, held⟩ changed
    cases told : next s.regs with
    | error e' =>
        rw [told] at changed
        cases changed
        exact ⟨error s.regs _ (around.device.trans isOpen) told, around, held⟩
    | ok regs =>
        rw [told] at changed
        cases changed

/-- A function of the device that always changes the pin, and in which way. -/
theorem ensures_told {next : Regs → Except GpioThrow Regs} {way : PinView → PinView → Prop}
    {thrown : GpioThrow → GpioState Regs → Prop} (isGpio : pin.isGpio = true)
    (isOpen : dev.isOpen start.regs = true)
    (step : ∀ regs, dev.isOpen regs = true → ∃ after, next regs = .ok after ∧
      dev.isOpen after = true ∧ OthersSame inside (view regs) (view after) pin.mcuNumber ∧
      way (view regs pin.mcuNumber) (view after pin.mcuNumber)) :
    Ensures (On dev inside view pin start holds) (tell next)
      (fun _ => On dev inside view pin start fun st now =>
        ∃ before, holds st before ∧ way before now) thrown := by
  apply Finishes.ensures
  apply (ensures_tell (fun _ => False) isGpio isOpen _ _).weaken
  · exact fun _ held => held
  · exact fun _ _ reached => reached
  · exact fun _ _ impossible => impossible.1
  · intro regs after opened told
    rcases step regs opened with ⟨after', told', stays, others, changed⟩
    cases told.symm.trans told'
    exact ⟨stays, others, fun st held => ⟨_, held, changed⟩⟩
  · intro regs e opened told
    rcases step regs opened with ⟨after, told', -⟩
    cases told.symm.trans told'

end OnePin

/-! ### The functions of a pin -/

section Functions

variable {Regs : Type} {dev : Device Regs} {inside : ℕ → Prop} {view : Regs → ℕ → PinView}
  {pin : Pin} {start : GpioState Regs} {holds : PinState → PinView → Prop}
  (refines : dev.Refines inside view) (isGpio : pin.isGpio = true)
  (isInside : inside pin.mcuNumber) (isOpen : dev.isOpen start.regs = true)

include refines isInside isOpen in
theorem ensures_holdMode {thrown : GpioThrow → GpioState Regs → Prop} :
    Ensures (On dev inside view pin start holds) (pin.holdMode dev)
      (fun _ => On dev inside view pin start fun st now => st.holdMode ≠ .modeUnknown ∧
        ∃ before, holds before now ∧ st = before.heldMode now) thrown := by
  suffices kept : Ensures (On dev inside view pin start holds) (pin.holdMode dev)
      (fun _ => On dev inside view pin start fun st now =>
        ∃ before, holds before now ∧ st = before.heldMode now) thrown by
    apply kept.weaken (fun _ held => held)
    · rintro _ s ⟨around, before, held, isState⟩
      refine ⟨around, ?_, before, held, isState⟩
      rw [isState]
      exact holdMode_heldMode (refines.known _ _ isInside)
    · exact fun _ _ thrown => thrown
  apply ensures_bind _ ensures_getState
  intro state
  apply ensures_whenever
  · intro unheld
    apply ensures_bind _ (ensures_ask PinView.mode isOpen fun regs opened =>
      refines.mode opened isInside)
    intro m
    apply ensures_bind (fun _ => On dev inside view pin start fun st now =>
      st = { state with holdMode := m } ∧ m = now.mode ∧ holds state now)
    · apply ensures_change
      rintro st now ⟨isMode, rfl, held⟩
      exact ⟨rfl, isMode, held⟩
    intro _
    apply ensures_whenever
    · intro output
      apply ensures_bind _ (ensures_ask PinView.level isOpen fun regs opened =>
        refines.read opened isInside)
      intro v
      apply ensures_change
      rintro st now ⟨isLevel, rfl, rfl, held⟩
      refine ⟨state, held, ?_⟩
      rw [PinState.heldMode, if_pos (of_decide_eq_true unheld),
        if_pos (of_decide_eq_true output), isLevel]
    · rintro input s ⟨around, isState, isMode, held⟩
      refine ⟨around, state, held, ?_⟩
      rw [isState, PinState.heldMode, if_pos (of_decide_eq_true unheld), ← isMode,
        if_neg (of_decide_eq_false input)]
  · rintro isHeld s ⟨around, isState, held⟩
    refine ⟨around, state, isState ▸ held, ?_⟩
    rw [isState, heldMode_of_held (of_decide_eq_false isHeld)]

include refines isInside isOpen in
theorem ensures_holdPull {thrown : GpioThrow → GpioState Regs → Prop} :
    Ensures (On dev inside view pin start holds) (pin.holdPull dev)
      (fun _ => On dev inside view pin start fun st now =>
        ∃ before, holds before now ∧ st = before.heldPull now) thrown := by
  apply ensures_bind _ ensures_getState
  intro state
  apply ensures_whenever
  · intro unheld
    apply ensures_bind _ (ensures_ask PinView.pull isOpen fun regs opened =>
      refines.pull opened isInside)
    intro p
    apply ensures_change
    rintro st now ⟨isPull, rfl, held⟩
    refine ⟨st, held, ?_⟩
    rw [PinState.heldPull, if_pos (of_decide_eq_true unheld), isPull]
  · rintro isHeld s ⟨around, isState, held⟩
    refine ⟨around, state, isState ▸ held, ?_⟩
    rw [isState, heldPull_of_held (of_decide_eq_false isHeld)]

include refines isGpio isInside isOpen

theorem ensures_setMode {m : PinMode} :
    Ensures (On dev inside view pin start holds) (tell (dev.setMode pin.mcuNumber m))
      (fun _ => On dev inside view pin start fun st now => ∃ before, holds st before ∧
        now.pull = before.pull ∧
        ((∃ regs, m = (view regs pin.mcuNumber).mode) → now.mode = m))
      (fun _ s => (¬∃ regs, m = (view regs pin.mcuNumber).mode) ∧
        On dev inside view pin start holds s) := by
  apply ensures_tell _ isGpio isOpen
  · intro regs after opened told
    rcases refines.setMode opened isInside told with ⟨stays, others, samePull⟩
    refine ⟨stays, others, fun st held => ⟨_, held, samePull, ?_⟩⟩
    rintro ⟨first, rfl⟩
    rcases refines.setModeBack first opened isInside with ⟨next, toldBack, isMode⟩
    cases told.symm.trans toldBack
    exact isMode
  · rintro regs e opened told ⟨first, rfl⟩
    rcases refines.setModeBack first opened isInside with ⟨next, toldBack, -⟩
    cases told.symm.trans toldBack

theorem ensures_setPull {p : PinPull} {thrown : GpioThrow → GpioState Regs → Prop} :
    Ensures (On dev inside view pin start holds) (tell (dev.setPull pin.mcuNumber p))
      (fun _ => On dev inside view pin start fun st now => ∃ before, holds st before ∧
        now.mode = before.mode ∧ now.level = before.level ∧
        (dev.hasPullRead = true → now.pull = if p = .pullUnknown then before.pull else p))
      thrown :=
  ensures_told isGpio isOpen fun _ opened => refines.setPull p opened isInside

theorem ensures_write {v : Bool} {thrown : GpioThrow → GpioState Regs → Prop} :
    Ensures (On dev inside view pin start holds) (tell (dev.write pin.mcuNumber v))
      (fun _ => On dev inside view pin start fun st now => ∃ before, holds st before ∧
        now.mode = before.mode ∧ now.pull = before.pull ∧
        (before.mode = .modeOutput → now.level = v))
      thrown :=
  ensures_told isGpio isOpen fun _ opened => refines.write v opened isInside

theorem ensures_toggle (hasToggle : dev.hasToggle = true)
    {thrown : GpioThrow → GpioState Regs → Prop} :
    Ensures (On dev inside view pin start holds) (tell (dev.toggle pin.mcuNumber))
      (fun _ => On dev inside view pin start fun st now => ∃ before, holds st before ∧
        now.mode = before.mode ∧ now.pull = before.pull ∧
        (before.mode = .modeOutput → now.level = !before.level))
      thrown :=
  ensures_told isGpio isOpen fun _ opened => refines.toggle hasToggle opened isInside

end Functions

end Sysio.Board
