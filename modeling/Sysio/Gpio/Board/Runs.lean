import Sysio.Gpio.Board.Sound

/-!
# Runs of a GPIO

Whatever the program calls, of which each call may throw: what is kept of the pins keeps leading
back to what they were when the GPIO was constructed, and closing the GPIO leads there.
-/

namespace Sysio.Board

open Throwing

/-! ### Closing -/

/-- The pin is closed, and released where this is asked for. -/
def Shut {Regs : Type} (roc : Bool) (gpio : GpioState Regs) (pin : Pin) : Prop :=
  pin.isGpio = true →
    (gpio.pin pin).isopen = false ∧ (roc = true → (gpio.pin pin).Unheld)

/-- While the pins are closed: those that are not have still to be released. -/
structure Closing {Regs : Type} (dev : Device Regs) (inside : ℕ → Prop)
    (view : Regs → ℕ → PinView) (connector : List Connector)
    (origin : Regs) (guarded : Pin → Prop) (roc : Bool) (gpio : GpioState Regs) : Prop where
  custody : Custody dev inside view connector origin guarded gpio
  sameRoc : gpio.roc = roc
  ready : ∀ pin ∈ Gpio.pins connector, pin.isGpio = true → (gpio.pin pin).isopen = true ∨
    (roc = true → (gpio.pin pin).Unheld)

/-- The loop over the connectors: those behind are still open. -/
structure ClosingConnectors {Regs : Type} (dev : Device Regs) (inside : ℕ → Prop)
    (view : Regs → ℕ → PinView)
    (connector : List Connector) (origin : Regs) (guarded : Pin → Prop) (roc : Bool)
    (done : List Connector) (gpio : GpioState Regs) : Prop where
  closing : Closing dev inside view connector origin guarded roc gpio
  shut : ∀ pin ∈ Gpio.pins done, Shut roc gpio pin
  closed : ∀ c ∈ done, gpio.connectorIsOpen c.number = false
  open_ : ∀ c ∈ connector, c.number ∉ done.map Connector.number →
    gpio.connectorIsOpen c.number = true

section Closing

variable {Regs : Type} {dev : Device Regs} {inside : ℕ → Prop} {view : Regs → ℕ → PinView}
  {connector : List Connector} {origin : Regs} {guarded : Pin → Prop}
  (refines : dev.Refines inside view) (described : Described connector inside)

include refines described

theorem closePin_closing {pin : Pin} {roc : Bool} {connectorIsOpen : ℤ → Bool} {shut : List Pin}
    (isPin : pin ∈ Gpio.pins connector) :
    Finishes (fun gpio => Closing dev inside view connector origin guarded roc gpio ∧
        gpio.connectorIsOpen = connectorIsOpen ∧ ∀ p ∈ shut, Shut roc gpio p)
      (pin.close dev)
      (fun _ gpio => Closing dev inside view connector origin guarded roc gpio ∧
        gpio.connectorIsOpen = connectorIsOpen ∧ ∀ p ∈ shut ++ [pin], Shut roc gpio p) := by
  apply ensures_of_each
  rintro start ⟨⟨custody, rfl, pins⟩, rfl, areShut⟩
  -- what is done with one pin leaves the others closed
  have others : ∀ s, Around dev inside view pin start s → Shut start.roc s pin →
      ∀ p ∈ shut ++ [pin], Shut start.roc s p := by
    intro s around isShut p isIn
    by_cases same : p = pin
    · exact same ▸ isShut
    · rcases List.mem_append.mp isIn with isIn | isLast
      · rw [Shut, around.pins p same]
        exact areShut p isIn
      · exact absurd (List.mem_singleton.mp isLast) same
  have othersToo : ∀ s, Around dev inside view pin start s → Shut start.roc s pin →
      ∀ p ∈ Gpio.pins connector, p.isGpio = true → (s.pin p).isopen = true ∨
        (start.roc = true → (s.pin p).Unheld) := by
    intro s around isShut p isIn isGpio
    by_cases same : p = pin
    · subst same
      exact .inr (isShut isGpio).2
    · rw [around.pins p same]
      exact pins p isIn isGpio
  cases isGpio : pin.isGpio with
  | false =>
      have no : pin.isGpio = true → False := fun yes => Bool.false_ne_true (isGpio.symm.trans yes)
      apply (close_other isGpio).weaken
      · rintro s rfl
        exact ⟨around_refl, trivial⟩
      · rintro _ s ⟨around, -⟩
        have isShut : Shut start.roc s pin := fun yes => (no yes).elim
        exact ⟨⟨custody.around described isPin around (fun yes => (no yes).elim)
          fun yes => (no yes).elim, around.roc, othersToo s around isShut⟩, around.connector,
          others s around isShut⟩
      · exact fun _ _ impossible => impossible
  | true =>
      have isInside := described.inside pin isPin isGpio
      apply (close_restores refines isGpio isInside (custody.device pin isPin isGpio)
        ⟨origin, rfl⟩).weaken
      · rintro s rfl
        exact ⟨around_refl, custody.kept pin isPin isGpio, pins pin isPin isGpio⟩
      · rintro _ s ⟨around, kept, unheld⟩
        have isShut : Shut start.roc s pin := fun _ => ⟨kept.isopen, unheld⟩
        refine ⟨⟨custody.around described isPin around ?_ ?_, around.roc,
          othersToo s around isShut⟩, around.connector, others s around isShut⟩
        · exact fun _ => kept.isopen.symm ▸ kept
        · intro _ open_
          rw [kept.isopen] at open_
          cases open_
      · exact fun _ _ impossible => impossible

theorem closeConnector_closing {c : Connector} {roc : Bool} {done : List Connector}
    (isConn : c ∈ connector) (isNew : c.number ∉ done.map Connector.number) :
    Finishes (ClosingConnectors dev inside view connector origin guarded roc done) (c.close dev)
      (fun _ => ClosingConnectors dev inside view connector origin guarded roc (done ++ [c])) := by
  apply ensures_of_each
  rintro start ⟨closing, shut, closed, areOpen⟩
  apply ensures_bind (fun gpio s => gpio = start ∧ s = start)
  · apply ensures_get
    exact fun s isStart => ⟨isStart, isStart⟩
  intro gpio
  apply ensures_of_fact _ fun s reached => reached.1
  rintro rfl
  rw [whenever_of_true (areOpen c isConn isNew)]
  apply ensures_bind (fun _ s => Closing dev inside view connector origin guarded roc s ∧
    s.connectorIsOpen = gpio.connectorIsOpen ∧ ∀ p ∈ Gpio.pins done ++ c.pin, Shut roc s p)
  · apply (ensures_forEach (fun pins s =>
      Closing dev inside view connector origin guarded roc s ∧
      s.connectorIsOpen = gpio.connectorIsOpen ∧
        ∀ p ∈ Gpio.pins done ++ pins, Shut roc s p) _).weaken
    · rintro s ⟨-, rfl⟩
      refine ⟨closing, rfl, ?_⟩
      rw [List.append_nil]
      exact shut
    · exact fun _ _ reached => reached
    · exact fun _ _ impossible => impossible
    · intro pins pin rest split
      rw [← List.append_assoc]
      apply closePin_closing refines described
      apply mem_pins isConn
      rw [split]
      exact List.mem_append_right _ List.mem_cons_self
  intro _
  apply ensures_modify
  rintro s ⟨closing', same, shut'⟩
  refine ⟨⟨⟨closing'.custody.kept, closing'.custody.device, closing'.custody.listed,
    closing'.custody.others⟩, closing'.sameRoc, closing'.ready⟩, ?_, ?_, ?_⟩
  · rw [Gpio.pins, List.flatMap_append, List.flatMap_singleton]
    exact shut'
  · intro c' isIn
    change Function.update s.connectorIsOpen c.number false c'.number = false
    by_cases sameNumber : c'.number = c.number
    · rw [sameNumber, Function.update_self]
    · rw [Function.update_of_ne sameNumber, same]
      rcases List.mem_append.mp isIn with isIn | isLast
      · exact closed c' isIn
      · exact absurd (congrArg Connector.number (List.mem_singleton.mp isLast)) sameNumber
  · intro c' isConn' isNew'
    rw [List.map_append, List.mem_append, not_or] at isNew'
    change Function.update s.connectorIsOpen c.number false c'.number = true
    rw [Function.update_of_ne, same]
    · exact areOpen c' isConn' isNew'.1
    · exact fun sameNumber => isNew'.2 (List.mem_singleton.mpr sameNumber)

theorem closeGpio_restores {roc : Bool} :
    Finishes (fun gpio => Sound dev inside view connector origin guarded gpio ∧ gpio.isopen = true ∧
        gpio.roc = roc)
      (Gpio.close dev connector)
      (fun _ gpio => Sound dev inside view connector origin guarded gpio ∧
        ∀ pin ∈ Gpio.pins connector, Shut roc gpio pin) := by
  apply ensures_of_each
  rintro start ⟨⟨custody, opened⟩, isOpen, rfl⟩
  apply ensures_bind (fun gpio s => gpio = start ∧ s = start)
  · apply ensures_get
    exact fun s isStart => ⟨isStart, isStart⟩
  intro gpio
  apply ensures_of_fact _ fun s reached => reached.1
  rintro rfl
  rw [whenever_of_true isOpen]
  apply ensures_bind (fun _ => ClosingConnectors dev inside view connector origin guarded gpio.roc
    connector)
  · apply (ensures_forEach
      (ClosingConnectors dev inside view connector origin guarded gpio.roc) _).weaken
    · rintro s ⟨-, rfl⟩
      refine ⟨⟨custody, rfl, fun pin isPin isGpio => .inl ?_⟩, ?_, ?_, ?_⟩
      · rcases List.mem_flatMap.mp isPin with ⟨c, isConn, isIn⟩
        exact opened.pins c isConn (opened.connectors isOpen c isConn) pin isIn isGpio
      · exact fun pin none_ => absurd none_ List.not_mem_nil
      · exact fun c none_ => absurd none_ List.not_mem_nil
      · exact fun c isConn _ => opened.connectors isOpen c isConn
    · exact fun _ _ reached => reached
    · exact fun _ _ impossible => impossible
    · intro done c rest split
      apply closeConnector_closing refines described
      · rw [split]
        exact List.mem_append_right _ List.mem_cons_self
      · have distinct := described.numbers
        rw [split, List.map_append, List.map_cons] at distinct
        intro again
        exact (List.nodup_append.mp distinct).2.2 _ again _ List.mem_cons_self rfl
  intro _
  apply ensures_bind (fun _ s => Custody dev inside view connector origin guarded s ∧
    (∀ pin ∈ Gpio.pins connector, Shut gpio.roc s pin) ∧
    ∀ c ∈ connector, s.connectorIsOpen c.number = false)
  · apply ensures_writes
    · rintro s next ⟨⟨custody', -, -⟩, shut, closed, -⟩ changed
      cases changed
      refine ⟨⟨?_, ?_, custody'.listed, ?_⟩, shut, closed⟩
      · change ∀ pin : Pin, _ → _ → PinKept _ _ _ _ (view (dev.close s.regs) pin.mcuNumber)
        rw [refines.closed]
        exact custody'.kept
      · intro pin isPin isGpio open_
        exact (Bool.false_ne_true ((shut pin isPin isGpio).1.symm.trans open_)).elim
      · change ∀ g, _ → _ → view (dev.close s.regs) g = _
        rw [refines.closed]
        exact custody'.others
    · intro s e _ changed
      cases changed
  intro _
  apply ensures_modify
  rintro s ⟨custody', shut, closed⟩
  refine ⟨⟨⟨custody'.kept, custody'.device, custody'.listed, custody'.others⟩, ?_, ?_⟩, shut⟩
  · intro c isConn open_
    exact (Bool.false_ne_true ((closed c isConn).symm.trans open_)).elim
  · intro open_
    cases open_

/-! ### Runs -/

omit refines described in
theorem addPin_sound {nb : Numbering} {pin : Pin} (isPin : pin ∈ Gpio.pins connector) :
    Keeps (Sound dev inside view connector origin guarded) (Gpio.addPin nb pin) := by
  apply ensures_whenever
  · intro _
    apply ensures_bind (fun _ => Sound dev inside view connector origin guarded)
    · exact ensures_reads (fun s num sound _ => sound) fun s e sound _ => sound
    intro num
    apply ensures_modify
    rintro s ⟨custody, opened⟩
    refine ⟨⟨custody.kept, custody.device, ?_, custody.others⟩, opened.pins, opened.connectors⟩
    intro entry isIn
    rcases List.mem_cons.mp isIn with rfl | isIn
    · exact isPin
    · exact custody.listed entry (List.mem_filter.mp isIn).1
  · exact fun _ _ sound => sound

omit refines described in
theorem setNumbering_sound {nb : Numbering} :
    Keeps (Sound dev inside view connector origin guarded) (Gpio.setNumbering connector nb) := by
  apply ensures_bind (fun _ => Sound dev inside view connector origin guarded)
  · exact ensures_get fun _ sound => sound
  intro gpio
  apply ensures_whenever
  · intro _
    apply ensures_bind (fun _ => Sound dev inside view connector origin guarded)
    · apply ensures_modify
      rintro s ⟨custody, opened⟩
      exact ⟨⟨custody.kept, custody.device, fun _ none_ => absurd none_ List.not_mem_nil,
        custody.others⟩, opened.pins, opened.connectors⟩
    intro _
    apply ensures_bind (fun _ => Sound dev inside view connector origin guarded)
    · exact keeps_forEach fun pin isPin => addPin_sound isPin
    intro _
    apply ensures_modify
    rintro s ⟨custody, opened⟩
    exact ⟨⟨custody.kept, custody.device, custody.listed, custody.others⟩, opened.pins,
      opened.connectors⟩
  · exact fun _ _ sound => sound

end Closing

/-- The level of this pin is written. -/
def GpioCall.Writes {Regs : Type} (pin : Pin) (gpio : GpioState Regs) : GpioCall → Prop
  | .onPin p call => p = pin ∧ call.Writes
  | .onNumber number call => Gpio.pin number gpio = .ok pin ∧ call.Writes
  | _ => False

/-- While the pin is open, its level is written only after its mode has been set. -/
def WritesHeld {Regs : Type} (dev : Device Regs) (connector : List Connector) (pin : Pin) :
    GpioState Regs → List GpioCall → Prop
  | _, [] => True
  | gpio, call :: calls =>
      (call.Writes pin gpio → (gpio.pin pin).isopen = true →
        (gpio.pin pin).holdMode ≠ .modeUnknown) ∧
      WritesHeld dev connector pin (endOf (call.run dev connector) gpio) calls

theorem pin_mem {Regs : Type} {connector : List Connector} {number : ℤ} {gpio : GpioState Regs}
    {pin : Pin} (listed : ∀ entry ∈ gpio.pinMap, entry.2 ∈ Gpio.pins connector)
    (found : Gpio.pin number gpio = .ok pin) : pin ∈ Gpio.pins connector := by
  rw [Gpio.pin] at found
  cases isEntry : gpio.pinMap.lookup number with
  | none =>
      rw [isEntry] at found
      cases found
  | some pin' =>
      rw [isEntry] at found
      cases found
      rcases List.lookup_eq_some_iff.mp isEntry with ⟨before, after, split, -⟩
      apply listed (number, pin)
      rw [split]
      exact List.mem_append_right _ List.mem_cons_self

section Runs

variable {Regs : Type} {dev : Device Regs} {inside : ℕ → Prop} {view : Regs → ℕ → PinView}
  {connector : List Connector} {origin : Regs} {guarded : Pin → Prop}

theorem initial_sound {regs : Regs} :
    Sound dev inside view connector regs guarded (Gpio.initial regs) where
  custody := ⟨fun _ _ _ => ⟨rfl, rfl, fun _ => rfl, fun _ _ => rfl⟩,
    fun _ _ _ open_ => (Bool.false_ne_true open_).elim,
    fun _ none_ => absurd none_ List.not_mem_nil, fun _ _ _ => rfl⟩
  opened := ⟨fun _ _ open_ => (Bool.false_ne_true open_).elim,
    fun open_ => (Bool.false_ne_true open_).elim⟩

theorem new_sound {regs : Regs} :
    Sound dev inside view connector regs guarded (Gpio.new connector regs) :=
  setNumbering_sound.endOf initial_sound

variable (refines : dev.Refines inside view) (described : Described connector inside)

include refines described

theorem GpioCall.run_sound {gpio : GpioState Regs} (call : GpioCall)
    (sound : Sound dev inside view connector origin guarded gpio)
    (held : ∀ pin, guarded pin → call.Writes pin gpio → (gpio.pin pin).isopen = true →
      (gpio.pin pin).holdMode ≠ .modeUnknown) :
    Sound dev inside view connector origin guarded (endOf (call.run dev connector) gpio) := by
  cases call with
  | openGpio maps =>
      have keeps : Keeps (Sound dev inside view connector origin guarded)
          ((GpioCall.openGpio maps).run dev connector) := by
        apply ensures_bind _ (openGpio_sound refines described)
        exact fun _ => ensures_pure fun _ sound => sound
      exact keeps.endOf sound
  | close =>
      cases isOpen : gpio.isopen with
      | true =>
          rcases (closeGpio_restores refines described).run ⟨sound, isOpen, rfl⟩ with
            ⟨_, closed, ran, reached, -⟩
          change Sound _ _ _ _ _ _ (endOf (Gpio.close dev connector) gpio)
          rw [endOf, ran]
          exact reached
      | false =>
          change Sound _ _ _ _ _ _ (endOf (whenever gpio.isopen _) gpio)
          rw [isOpen]
          exact sound
  | setReleaseOnClose enable =>
      exact ⟨⟨sound.custody.kept, sound.custody.device, sound.custody.listed,
        sound.custody.others⟩, sound.opened.pins, sound.opened.connectors⟩
  | setNumbering nb => exact setNumbering_sound.endOf sound
  | onPin pin call =>
      by_cases isPin : pin ∈ Gpio.pins connector
      · rw [GpioCall.run, whenever_of_true (decide_eq_true isPin)]
        exact call.run_sound refines described sound isPin
          fun writes guard => held pin guard ⟨rfl, writes⟩
      · rw [GpioCall.run, decide_eq_false isPin]
        exact sound
  | onNumber number call =>
      rw [GpioCall.run]
      cases found : Gpio.pin number gpio with
      | error e =>
          rw [endOf_reads_bind_of_error found]
          exact sound
      | ok pin =>
          rw [endOf_reads_bind_of_ok found]
          exact call.run_sound refines described sound (pin_mem sound.custody.listed found)
            fun writes guard => held pin guard ⟨found, writes⟩

theorem run_sound {gpio : GpioState Regs} (calls : List GpioCall)
    (sound : Sound dev inside view connector origin guarded gpio)
    (held : ∀ pin, guarded pin → WritesHeld dev connector pin gpio calls) :
    Sound dev inside view connector origin guarded (gpio.run dev connector calls) := by
  induction calls generalizing gpio with
  | nil => exact sound
  | cons call calls ih =>
      apply ih (call.run_sound refines described sound fun pin guard => (held pin guard).1)
      exact fun pin guard => (held pin guard).2

/-- After whatever calls, closing leads back to what the pins of the type GPIO were. The other pins
of the device have never changed. -/
theorem close_restores_all {regs : Regs} {calls : List GpioCall}
    (isOpen : (Gpio.session dev connector regs calls).isopen = true)
    (releases : (Gpio.session dev connector regs calls).roc = true) :
    ∃ closed, Gpio.close dev connector (Gpio.session dev connector regs calls) =
        .ok () closed ∧
      (∀ g, inside g → (∀ pin ∈ Gpio.pins connector, pin.isGpio = true → pin.mcuNumber ≠ g) →
        view closed.regs g = view regs g) ∧
      ∀ pin ∈ Gpio.pins connector, pin.isGpio = true →
        (view closed.regs pin.mcuNumber).mode = (view regs pin.mcuNumber).mode ∧
        ((view regs pin.mcuNumber).pull ≠ .pullUnknown →
          (view closed.regs pin.mcuNumber).pull = (view regs pin.mcuNumber).pull) ∧
        (WritesHeld dev connector pin (Gpio.new connector regs) calls →
          (view regs pin.mcuNumber).mode = .modeOutput →
          (view closed.regs pin.mcuNumber).level = (view regs pin.mcuNumber).level) := by
  have sound : Sound dev inside view connector regs
      (fun pin => WritesHeld dev connector pin (Gpio.new connector regs) calls)
      (Gpio.session dev connector regs calls) :=
    run_sound refines described calls new_sound fun _ guard => guard
  rcases (closeGpio_restores refines described).run ⟨sound, isOpen, releases⟩ with
    ⟨_, closed, ran, ⟨custody, -⟩, shut⟩
  refine ⟨closed, ran, custody.others, fun pin isPin isGpio => ?_⟩
  have kept := custody.kept pin isPin isGpio
  rcases (shut pin isPin isGpio).2 rfl with ⟨unheldMode, unheldPull⟩
  refine ⟨?_, ?_, ?_⟩
  · have isMode := kept.mode
    rw [if_pos unheldMode] at isMode
    exact isMode
  · intro known
    have isPull := kept.pull known
    rw [if_pos unheldPull] at isPull
    exact isPull
  · intro guard output
    have isLevel := kept.level guard output
    rw [if_pos unheldMode] at isLevel
    exact isLevel

end Runs

end Sysio.Board
