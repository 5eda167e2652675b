import Sysio.Gpio.Board.Custody

/-!
# Every function of a pin keeps what it was

One function after the other, on a pin of the type GPIO: what is kept of the pin, or still there,
is the same afterwards. `Pin.release` puts it back.
-/

namespace Sysio.Board

open Throwing

section Functions

variable {Regs : Type} {dev : Device Regs} {inside : ℕ → Prop} {view : Regs → ℕ → PinView}
  {pin : Pin} {start : GpioState Regs} {first : PinView} {guarded : Prop}
  {isopen : Bool}

theorem ensures_weaken_on {α : Type} {m : GpioM Regs α}
    {holds holds' : PinState → PinView → Prop} {after : α → GpioState Regs → Prop}
    {thrown : GpioThrow → GpioState Regs → Prop}
    (ensures : Ensures (On dev inside view pin start holds) m after thrown)
    (weaker : ∀ st now, holds' st now → holds st now) :
    Ensures (On dev inside view pin start holds') m after thrown := by
  apply ensures.weaken
  · rintro s ⟨around, held⟩
    exact ⟨around, weaker _ _ held⟩
  · exact fun _ _ reached => reached
  · exact fun _ _ reached => reached

theorem ensures_on {α : Type} {m : GpioM Regs α} {before : GpioState Regs → Prop}
    {holds holds' : α → PinState → PinView → Prop} {thrown : GpioThrow → GpioState Regs → Prop}
    (ensures : Ensures before m (fun a => On dev inside view pin start (holds a)) thrown)
    (weaker : ∀ a st regs, holds a st (view regs pin.mcuNumber) →
      holds' a st (view regs pin.mcuNumber)) :
    Ensures before m (fun a => On dev inside view pin start (holds' a)) thrown := by
  apply ensures.weaken
  · exact fun _ start => start
  · rintro a s ⟨around, held⟩
    exact ⟨around, weaker _ _ _ held⟩
  · exact fun _ _ reached => reached

variable (refines : dev.Refines inside view) (isGpio : pin.isGpio = true)
  (isInside : inside pin.mcuNumber) (isOpen : dev.isOpen start.regs = true)

include refines isGpio isInside isOpen

theorem writeMode_keeps :
    Keeps (On dev inside view pin start (PinKept first guarded isopen)) (pin.writeMode dev) := by
  apply ensures_bind (fun _ => On dev inside view pin start fun st now =>
    PinKept first guarded isopen st now ∧ st.holdMode ≠ .modeUnknown)
  · apply ensures_on (ensures_holdMode refines isInside isOpen)
    rintro _ st regs ⟨held, before, kept, rfl⟩
    exact ⟨kept.heldMode, held⟩
  intro _
  apply ensures_bind _ ensures_getState
  intro state
  apply (ensures_setMode refines isGpio isInside isOpen).weaken
  · exact fun _ reached => reached
  · rintro _ s ⟨around, before, ⟨-, kept, held⟩, samePull, -⟩
    exact ⟨around, kept.remode held samePull⟩
  · rintro _ s ⟨-, around, -, kept, -⟩
    exact ⟨around, kept⟩

theorem writePull_keeps :
    Keeps (On dev inside view pin start (PinKept first guarded isopen)) (pin.writePull dev) := by
  apply ensures_bind (fun _ => On dev inside view pin start fun st now =>
    PinKept first guarded isopen st now ∧
      (first.pull ≠ .pullUnknown → st.holdPull ≠ .pullUnknown))
  · apply ensures_on (ensures_holdPull refines isInside isOpen)
    rintro _ st regs ⟨before, kept, rfl⟩
    exact ⟨kept.heldPull, kept.holdPull_heldPull⟩
  intro _
  apply ensures_bind _ ensures_getState
  intro state
  apply ensures_on (ensures_setPull refines isGpio isInside isOpen)
  rintro _ st regs ⟨before, ⟨-, kept, held⟩, sameMode, sameLevel, -⟩
  exact kept.repull held sameMode sameLevel

omit isGpio in
theorem readMode_keeps :
    Keeps (On dev inside view pin start (PinKept first guarded isopen)) (pin.readMode dev) := by
  apply ensures_bind _ (ensures_ask PinView.mode isOpen fun regs opened =>
    refines.mode opened isInside)
  intro m
  apply ensures_change
  rintro st now ⟨-, kept⟩
  exact kept.change m st.pull

omit isGpio in
theorem readPull_keeps :
    Keeps (On dev inside view pin start (PinKept first guarded isopen)) (pin.readPull dev) := by
  apply ensures_ite
  · intro _
    apply ensures_bind _ (ensures_ask PinView.pull isOpen fun regs opened =>
      refines.pull opened isInside)
    intro p
    apply ensures_change
    rintro st now ⟨-, kept⟩
    exact kept.change st.mode p
  · intro _
    apply ensures_change
    intro st now kept
    exact kept.change st.mode .pullUnknown

/-- A level is written while the mode of a guarded pin is kept. -/
theorem tellWrite_keeps {v : Bool} :
    Ensures (On dev inside view pin start (PinWritable first guarded true))
      (tell (dev.write pin.mcuNumber v))
      (fun _ => On dev inside view pin start (PinKept first guarded true))
      fun _ => On dev inside view pin start (PinKept first guarded true) := by
  apply ensures_on (ensures_write refines isGpio isInside isOpen)
  rintro _ st regs ⟨before, ⟨kept, held⟩, sameMode, samePull, -⟩
  exact kept.relevel (fun guard => held guard rfl) sameMode samePull

theorem tellToggle_keeps (hasToggle : dev.hasToggle = true) :
    Ensures (On dev inside view pin start (PinWritable first guarded true))
      (tell (dev.toggle pin.mcuNumber))
      (fun _ => On dev inside view pin start (PinKept first guarded true))
      fun _ => On dev inside view pin start (PinKept first guarded true) := by
  apply ensures_on (ensures_toggle refines isGpio isInside isOpen hasToggle)
  rintro _ st regs ⟨before, ⟨kept, held⟩, sameMode, samePull, -⟩
  exact kept.relevel (fun guard => held guard rfl) sameMode samePull

end Functions

/-! ### Calls -/

section Calls

variable {Regs : Type} {dev : Device Regs} {inside : ℕ → Prop} {view : Regs → ℕ → PinView}
  {pin : Pin} {start : GpioState Regs} {first : PinView} {guarded : Prop}
  {isopen : Bool} (refines : dev.Refines inside view) (isGpio : pin.isGpio = true)
  (isInside : inside pin.mcuNumber) (opened : isopen = true → dev.isOpen start.regs = true)

include refines isGpio isInside opened

omit refines isGpio isInside in
/-- What is done with an open pin. -/
theorem ensures_whenOpen {state : PinState} {body : GpioM Regs Unit}
    {holds : PinState → PinView → Prop}
    (kept : ∀ st now, holds st now → PinKept first guarded isopen st now)
    (ensures : isopen = true → dev.isOpen start.regs = true →
      Ensures (On dev inside view pin start holds) body
        (fun _ => On dev inside view pin start (PinKept first guarded isopen))
        fun _ => On dev inside view pin start (PinKept first guarded isopen)) :
    Ensures (On dev inside view pin start fun st now => st = state ∧ holds st now)
      (whenever (state.isopen && pin.isGpio) body)
      (fun _ => On dev inside view pin start (PinKept first guarded isopen))
      fun _ => On dev inside view pin start (PinKept first guarded isopen) := by
  apply ensures_whenever
  · intro both
    apply ensures_of_fact (isopen = true)
    · rintro s ⟨-, rfl, held⟩
      rw [← (kept _ _ held).isopen]
      exact (Bool.and_eq_true_iff.mp both).1
    · intro isOpen
      exact ensures_weaken_on (ensures isOpen (opened isOpen)) fun _ _ reached => reached.2
  · rintro - s ⟨around, -, held⟩
    exact ⟨around, kept _ _ held⟩

omit isGpio in
theorem mode_keeps :
    Keeps (On dev inside view pin start (PinKept first guarded isopen)) (pin.mode dev) := by
  apply ensures_bind _ ensures_getState
  intro state
  apply ensures_bind (fun _ => On dev inside view pin start (PinKept first guarded isopen))
  · apply ensures_whenOpen opened (fun _ _ kept => kept)
    intro _ isOpen
    exact readMode_keeps refines isInside isOpen
  intro _
  apply ensures_bind _ ensures_getState
  intro state
  apply ensures_pure
  rintro s ⟨around, -, kept⟩
  exact ⟨around, kept⟩

omit isGpio in
theorem pull_keeps :
    Keeps (On dev inside view pin start (PinKept first guarded isopen)) (pin.pull dev) := by
  apply ensures_bind _ ensures_getState
  intro state
  apply ensures_bind (fun _ => On dev inside view pin start (PinKept first guarded isopen))
  · apply ensures_whenOpen opened (fun _ _ kept => kept)
    intro _ isOpen
    exact readPull_keeps refines isInside isOpen
  intro _
  apply ensures_bind _ ensures_getState
  intro state
  apply ensures_pure
  rintro s ⟨around, -, kept⟩
  exact ⟨around, kept⟩

theorem setMode_keeps {m : PinMode} :
    Keeps (On dev inside view pin start (PinKept first guarded isopen)) (pin.setMode dev m) := by
  apply ensures_whenever
  · intro _
    apply ensures_bind (fun _ => On dev inside view pin start (PinKept first guarded isopen))
    · apply ensures_change
      intro st now kept
      exact kept.change m st.pull
    intro _
    apply ensures_bind _ ensures_getState
    intro state
    have whole : state.isopen = (state.isopen && pin.isGpio) := by rw [isGpio, Bool.and_true]
    rw [whole]
    apply ensures_whenOpen opened (fun _ _ kept => kept)
    intro _ isOpen
    exact writeMode_keeps refines isGpio isInside isOpen
  · exact fun _ _ kept => kept

theorem setPull_keeps {p : PinPull} :
    Keeps (On dev inside view pin start (PinKept first guarded isopen)) (pin.setPull dev p) := by
  apply ensures_whenever
  · intro _
    apply ensures_bind (fun _ => On dev inside view pin start (PinKept first guarded isopen))
    · apply ensures_change
      intro st now kept
      exact kept.change st.mode p
    intro _
    apply ensures_bind _ ensures_getState
    intro state
    have whole : state.isopen = (state.isopen && pin.isGpio) := by rw [isGpio, Bool.and_true]
    rw [whole]
    apply ensures_whenOpen opened (fun _ _ kept => kept)
    intro _ isOpen
    exact writePull_keeps refines isGpio isInside isOpen
  · exact fun _ _ kept => kept

theorem write_keeps {v : Bool} :
    Ensures (On dev inside view pin start (PinWritable first guarded isopen))
      (pin.write dev v)
      (fun _ => On dev inside view pin start (PinKept first guarded isopen))
      fun _ => On dev inside view pin start (PinKept first guarded isopen) := by
  apply ensures_bind _ ensures_getState
  intro state
  apply ensures_whenOpen opened (fun _ _ held => held.1)
  rintro rfl isOpen
  exact tellWrite_keeps refines isGpio isInside isOpen

omit isGpio in
theorem read_keeps {holds : PinState → PinView → Prop}
    (kept : ∀ st now, holds st now → PinKept first guarded isopen st now) :
    Ensures (On dev inside view pin start holds) (pin.read dev)
      (fun v => On dev inside view pin start fun st now => v = now.level ∧ holds st now)
      fun _ => On dev inside view pin start holds := by
  apply ensures_bind _ ensures_getState
  intro state
  apply ensures_ite
  · intro both
    apply ensures_of_fact (isopen = true)
    · rintro s ⟨-, rfl, held⟩
      rw [← (kept _ _ held).isopen]
      exact (Bool.and_eq_true_iff.mp both).1
    · intro isOpen
      apply ensures_weaken_on (ensures_ask PinView.level (opened isOpen) fun regs device =>
        refines.read device isInside)
      exact fun _ _ reached => reached.2
  · intro _
    apply ensures_throw
    rintro s ⟨around, -, held⟩
    exact ⟨around, held⟩

theorem toggle_keeps :
    Ensures (On dev inside view pin start (PinWritable first guarded isopen))
      (pin.toggle dev)
      (fun _ => On dev inside view pin start (PinKept first guarded isopen))
      fun _ => On dev inside view pin start (PinKept first guarded isopen) := by
  apply ensures_bind _ ensures_getState
  intro state
  apply ensures_whenOpen opened (fun _ _ held => held.1)
  rintro rfl isOpen
  apply ensures_ite
  · exact tellToggle_keeps refines isGpio isInside isOpen
  · intro _
    have writable : ∀ st now, PinWritable first guarded true st now →
        PinKept first guarded true st now := fun _ _ held => held.1
    apply ensures_bind (fun _ => On dev inside view pin start (PinWritable first guarded true))
    · apply (read_keeps refines isInside opened writable).weaken
      · exact fun _ held => held
      · rintro v s ⟨around, -, held⟩
        exact ⟨around, held⟩
      · rintro e s ⟨around, kept, -⟩
        exact ⟨around, kept⟩
    · intro v
      exact write_keeps refines isGpio isInside opened

end Calls

/-! ### Releasing a pin -/

section Release

variable {Regs : Type} {dev : Device Regs} {inside : ℕ → Prop} {view : Regs → ℕ → PinView}
  {pin : Pin} {start : GpioState Regs} {first : PinView} {guarded : Prop}
  {holds : PinState → PinView → Prop} {state : PinState} (refines : dev.Refines inside view)
  (isGpio : pin.isGpio = true) (isInside : inside pin.mcuNumber)
  (isOpen : dev.isOpen start.regs = true)

include refines isGpio isInside isOpen

/-- A mode that the device has shown is written while the mode of the pin is kept. -/
theorem writeMode_back (held : ∀ st now, holds st now → st.holdMode ≠ .modeUnknown ∧
      ∃ regs, st.mode = (view regs pin.mcuNumber).mode) :
    Finishes (On dev inside view pin start holds) (pin.writeMode dev)
      (fun _ => On dev inside view pin start fun st now =>
        ∃ before, holds st before ∧ now.pull = before.pull ∧ now.mode = st.mode) := by
  apply ensures_bind (fun _ => On dev inside view pin start holds)
  · apply ensures_on (ensures_holdMode refines isInside isOpen)
    rintro _ st regs ⟨-, before, reached, rfl⟩
    rw [heldMode_of_held (held _ _ reached).1]
    exact reached
  intro _
  apply ensures_bind _ ensures_getState
  intro state
  apply (ensures_setMode refines isGpio isInside isOpen).weaken
  · exact fun _ reached => reached
  · rintro _ s ⟨around, before, ⟨same, reached⟩, samePull, isMode⟩
    refine ⟨around, before, reached, samePull, ?_⟩
    rw [same] at reached ⊢
    exact isMode (held _ _ reached).2
  · rintro _ s ⟨unseen, around, same, reached⟩
    rw [same] at reached
    exact unseen (held _ _ reached).2

theorem writePull_back (held : ∀ st now, holds st now → st.holdPull ≠ .pullUnknown) :
    Finishes (On dev inside view pin start holds) (pin.writePull dev)
      (fun _ => On dev inside view pin start fun st now => ∃ before, holds st before ∧
        now.mode = before.mode ∧ now.level = before.level ∧
        (dev.hasPullRead = true →
          now.pull = if st.pull = .pullUnknown then before.pull else st.pull)) := by
  apply ensures_bind (fun _ => On dev inside view pin start holds)
  · apply ensures_on (ensures_holdPull refines isInside isOpen)
    rintro _ st regs ⟨before, reached, rfl⟩
    rw [heldPull_of_held (held _ _ reached)]
    exact reached
  intro _
  apply ensures_bind _ ensures_getState
  intro state
  apply ensures_on (ensures_setPull refines isGpio isInside isOpen)
  rintro _ st regs ⟨before, ⟨rfl, reached⟩, sameMode, sameLevel, isPull⟩
  exact ⟨before, reached, sameMode, sameLevel, isPull⟩

theorem setMode_back {m : PinMode} (open_ : state.isopen = true)
    (held : state.holdMode ≠ .modeUnknown) (seen : ∃ regs, m = (view regs pin.mcuNumber).mode) :
    Finishes (On dev inside view pin start fun st now => st = state ∧
        PinKept first guarded true st now)
      (pin.setMode dev m)
      (fun _ => On dev inside view pin start fun st now => st = { state with mode := m } ∧
        PinKept first guarded true st now ∧ now.mode = m) := by
  rw [Pin.setMode, whenever_of_true isGpio]
  apply ensures_bind (fun _ => On dev inside view pin start fun st now =>
    st = { state with mode := m } ∧ PinKept first guarded true st now)
  · apply ensures_change
    rintro st now ⟨rfl, kept⟩
    exact ⟨rfl, kept.change m st.pull⟩
  intro _
  apply ensures_bind _ ensures_getState
  intro state'
  apply ensures_of_fact (state' = { state with mode := m })
  · rintro s ⟨-, rfl, isState, -⟩
    exact isState
  rintro rfl
  dsimp only
  rw [whenever_of_true open_]
  have shown : ∀ (st : PinState) (now : PinView), (st = { state with mode := m } ∧
      st = { state with mode := m } ∧ PinKept first guarded true st now) →
      st.holdMode ≠ .modeUnknown ∧ ∃ regs, st.mode = (view regs pin.mcuNumber).mode := by
    rintro st now ⟨rfl, -⟩
    exact ⟨held, seen⟩
  apply ensures_on (writeMode_back refines isGpio isInside isOpen shown)
  rintro _ st regs ⟨before, ⟨rfl, -, kept⟩, samePull, isMode⟩
  exact ⟨rfl, kept.remode held samePull, isMode⟩

theorem setPull_back {p : PinPull} (open_ : state.isopen = true)
    (held : state.holdPull ≠ .pullUnknown) (known : p ≠ .pullUnknown) :
    Finishes (On dev inside view pin start fun st now => st = state ∧
        PinKept first guarded true st now)
      (pin.setPull dev p)
      (fun _ => On dev inside view pin start fun st now => st = { state with pull := p } ∧
        PinKept first guarded true st now ∧ (dev.hasPullRead = true → now.pull = p)) := by
  rw [Pin.setPull, whenever_of_true isGpio]
  apply ensures_bind (fun _ => On dev inside view pin start fun st now =>
    st = { state with pull := p } ∧ PinKept first guarded true st now)
  · apply ensures_change
    rintro st now ⟨rfl, kept⟩
    exact ⟨rfl, kept.change st.mode p⟩
  intro _
  apply ensures_bind _ ensures_getState
  intro state'
  apply ensures_of_fact (state' = { state with pull := p })
  · rintro s ⟨-, rfl, isState, -⟩
    exact isState
  rintro rfl
  dsimp only
  rw [whenever_of_true open_]
  have shown : ∀ (st : PinState) (now : PinView), (st = { state with pull := p } ∧
      st = { state with pull := p } ∧ PinKept first guarded true st now) →
      st.holdPull ≠ .pullUnknown := by
    rintro st now ⟨rfl, -⟩
    exact held
  apply ensures_on (writePull_back refines isGpio isInside isOpen shown)
  rintro _ st regs ⟨before, ⟨rfl, -, kept⟩, sameMode, sameLevel, isPull⟩
  refine ⟨rfl, kept.repull (fun _ => held) sameMode sameLevel, fun readable => ?_⟩
  rw [isPull readable, if_neg known]

/-- The first part of `Pin.release`. -/
theorem restoreMode (open_ : state.isopen = true) (held : state.holdMode ≠ .modeUnknown)
    (seen : ∃ regs, first.mode = (view regs pin.mcuNumber).mode) :
    Finishes (On dev inside view pin start fun st now => st = state ∧
        PinKept first guarded true st now)
      (do
        pin.setMode dev state.holdMode
        whenever (decide (state.holdMode = .modeOutput)) (pin.write dev state.holdState)
        change pin fun state => { state with holdMode := .modeUnknown })
      (fun _ => On dev inside view pin start fun st now => PinKept first guarded true st now ∧
        st.holdMode = .modeUnknown ∧ st.holdPull = state.holdPull) := by
  apply ensures_of_fact (state.holdMode = first.mode)
  · rintro s ⟨-, rfl, kept⟩
    have isMode := kept.mode
    rw [if_neg held] at isMode
    exact isMode
  intro isFirst
  apply ensures_bind _ (setMode_back refines isGpio isInside isOpen open_ held (isFirst ▸ seen))
  intro _
  apply ensures_bind (fun _ => On dev inside view pin start fun st now =>
    st = { state with mode := state.holdMode } ∧ PinKept first guarded true st now ∧
      now.mode = first.mode ∧ (first.mode = .modeOutput → now.level = state.holdState))
  · apply ensures_whenever
    · intro output
      apply ensures_bind _ ensures_getState
      intro state'
      apply ensures_of_fact (state' = { state with mode := state.holdMode })
      · rintro s ⟨-, rfl, isState, -⟩
        exact isState
      rintro rfl
      dsimp only
      rw [whenever_of_true (Bool.and_eq_true_iff.mpr ⟨open_, isGpio⟩)]
      apply ensures_on (ensures_write refines isGpio isInside isOpen)
      rintro _ st regs ⟨before, ⟨-, rfl, kept, isMode⟩, sameMode, samePull, isLevel⟩
      refine ⟨rfl, kept.relevel (fun _ => held) sameMode samePull,
        sameMode.trans (isMode.trans isFirst), fun _ => isLevel ?_⟩
      exact isMode.trans (of_decide_eq_true output)
    · rintro other s ⟨around, isState, kept, isMode⟩
      refine ⟨around, isState, kept, isMode.trans isFirst, fun output => ?_⟩
      exact absurd (isFirst.trans output) (of_decide_eq_false other)
  intro _
  apply ensures_change
  rintro st now ⟨rfl, kept, isMode, isLevel⟩
  refine ⟨⟨kept.isopen, isMode, kept.pull, fun guard output => ?_⟩, rfl, rfl⟩
  have first_ := kept.level guard output
  rw [if_neg held] at first_
  exact (isLevel output).trans first_

/-- The second part of `Pin.release`. -/
theorem restorePull {p : PinPull} (known : p ≠ .pullUnknown)
    (readable : first.pull ≠ .pullUnknown → dev.hasPullRead = true) :
    Finishes (On dev inside view pin start fun st now => PinKept first guarded true st now ∧
        st.holdMode = .modeUnknown ∧ st.holdPull = p)
      (do
        pin.setPull dev p
        change pin fun state => { state with holdPull := .pullUnknown })
      (fun _ => On dev inside view pin start fun st now => PinKept first guarded true st now ∧
        st.holdMode = .modeUnknown ∧ st.holdPull = .pullUnknown) := by
  suffices each : ∀ state : PinState, Finishes (fun s => (state.isopen = true ∧
      state.holdMode = .modeUnknown ∧ state.holdPull = p) ∧
        On dev inside view pin start (fun st now => st = state ∧
          PinKept first guarded true st now) s) _ _ by
    apply (ensures_exists each).weaken
    · rintro s ⟨around, kept, unheldMode, isPull⟩
      exact ⟨_, ⟨kept.isopen, unheldMode, isPull⟩, around, rfl, kept⟩
    · exact fun _ _ reached => reached
    · exact fun _ _ reached => reached
  intro state
  apply ensures_of_fact _ fun s reached => reached.1
  rintro ⟨open_, unheldMode, rfl⟩
  apply ensures_bind (fun _ => On dev inside view pin start fun st now =>
    st = { state with pull := state.holdPull } ∧ PinKept first guarded true st now ∧
      (dev.hasPullRead = true → now.pull = state.holdPull))
  · apply (setPull_back refines isGpio isInside isOpen open_ known known).weaken
    · exact fun _ reached => reached.2
    · exact fun _ _ reached => reached
    · exact fun _ _ reached => reached
  intro _
  apply ensures_change
  rintro st now ⟨rfl, kept, isPull⟩
  refine ⟨⟨kept.isopen, kept.mode, fun shown => ?_, kept.level⟩, unheldMode, rfl⟩
  have first_ := kept.pull shown
  rw [if_neg known] at first_
  exact (isPull (readable shown)).trans first_

end Release

section Whole

variable {Regs : Type} {dev : Device Regs} {inside : ℕ → Prop} {view : Regs → ℕ → PinView}
  {pin : Pin} {start : GpioState Regs} {first : PinView} {guarded : Prop}
  {isopen : Bool} (refines : dev.Refines inside view) (isGpio : pin.isGpio = true)
  (isInside : inside pin.mcuNumber) (opened : isopen = true → dev.isOpen start.regs = true)

include refines isGpio isInside opened

theorem release_restores (seen : ∃ regs, first = view regs pin.mcuNumber) :
    Finishes (On dev inside view pin start (PinKept first guarded isopen)) (pin.release dev)
      (fun _ => On dev inside view pin start fun st now => PinKept first guarded isopen st now ∧
        (isopen = true → st.Unheld)) := by
  apply ensures_bind _ ensures_getState
  intro state
  apply ensures_of_fact (state.isopen = isopen)
  · rintro s ⟨-, rfl, kept⟩
    exact kept.isopen
  rintro rfl
  apply ensures_whenever
  · intro both
    have open_ := (Bool.and_eq_true_iff.mp both).1
    have isOpen := opened open_
    rw [open_]
    apply ensures_bind (fun _ => On dev inside view pin start fun st now =>
      PinKept first guarded true st now ∧ st.holdMode = .modeUnknown ∧
        st.holdPull = state.holdPull)
    · apply ensures_whenever
      · intro held
        apply restoreMode refines isGpio isInside isOpen open_ (of_decide_eq_true held)
        rcases seen with ⟨regs, rfl⟩
        exact ⟨regs, rfl⟩
      · rintro unheld s ⟨around, rfl, kept⟩
        exact ⟨around, kept, not_not.mp (of_decide_eq_false unheld), rfl⟩
    intro _
    apply ensures_whenever
    · intro held
      apply (restorePull refines isGpio isInside isOpen (of_decide_eq_true held) ?_).weaken
      · exact fun _ reached => reached
      · rintro _ s ⟨around, kept, unheld⟩
        exact ⟨around, kept, fun _ => unheld⟩
      · exact fun _ _ reached => reached
      · intro known
        by_contra unreadable
        rcases seen with ⟨regs, rfl⟩
        exact known (refines.unreadable (Bool.eq_false_iff.mpr unreadable) regs _)
    · rintro unheld s ⟨around, kept, unheldMode, isPull⟩
      have none_ := isPull.trans (not_not.mp (of_decide_eq_false unheld))
      exact ⟨around, kept, fun _ => ⟨unheldMode, none_⟩⟩
  · rintro shut s ⟨around, -, kept⟩
    refine ⟨around, kept, fun open_ => ?_⟩
    rw [open_, isGpio] at shut
    cases shut

end Whole

end Sysio.Board
