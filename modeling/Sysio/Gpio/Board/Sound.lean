import Sysio.Gpio.Board.Opening
import Mathlib.Data.List.Nodup

/-!
# Custody over all pins

What is kept of the pins of a board leads back to what they were at first. Every call of a pin
keeps that, whether it throws or not, and so does opening the GPIO.
-/

namespace Sysio.Board

open Throwing

/-- The pins of the type GPIO are pins of the device, each once, and no number is that of two
connectors. -/
structure Described (connector : List Connector) (inside : ℕ → Prop) : Prop where
  inside : ∀ pin ∈ Gpio.pins connector, pin.isGpio = true → inside pin.mcuNumber
  apart : ∀ pin ∈ Gpio.pins connector, ∀ pin' ∈ Gpio.pins connector, pin.isGpio = true →
    pin'.isGpio = true → pin.mcuNumber = pin'.mcuNumber → pin = pin'
  numbers : (connector.map Connector.number).Nodup

/-- What is kept of the pins leads back to what they were with the registers `origin`, and the
device has no others that have changed. -/
structure Custody {Regs : Type} (dev : Device Regs) (inside : ℕ → Prop)
    (view : Regs → ℕ → PinView) (connector : List Connector) (origin : Regs)
    (guarded : Pin → Prop) (gpio : GpioState Regs) : Prop where
  kept : ∀ pin ∈ Gpio.pins connector, pin.isGpio = true →
    PinKept (view origin pin.mcuNumber) (guarded pin) (gpio.pin pin).isopen (gpio.pin pin)
      (view gpio.regs pin.mcuNumber)
  device : ∀ pin ∈ Gpio.pins connector, pin.isGpio = true → (gpio.pin pin).isopen = true →
    dev.isOpen gpio.regs = true
  listed : ∀ entry ∈ gpio.pinMap, entry.2 ∈ Gpio.pins connector
  others : ∀ g, inside g →
    (∀ pin ∈ Gpio.pins connector, pin.isGpio = true → pin.mcuNumber ≠ g) →
    view gpio.regs g = view origin g

/-- What is open has all of its parts open. -/
structure Opened {Regs : Type} (connector : List Connector) (gpio : GpioState Regs) : Prop where
  pins : ∀ c ∈ connector, gpio.connectorIsOpen c.number = true → ∀ pin ∈ c.pin,
    pin.isGpio = true → (gpio.pin pin).isopen = true
  connectors : gpio.isopen = true → ∀ c ∈ connector, gpio.connectorIsOpen c.number = true

theorem mem_pins {connector : List Connector} {c : Connector} {pin : Pin} (isConn : c ∈ connector)
    (isPin : pin ∈ c.pin) : pin ∈ Gpio.pins connector :=
  List.mem_flatMap.mpr ⟨c, isConn, isPin⟩

section OnePin

variable {Regs : Type} {dev : Device Regs} {inside : ℕ → Prop} {view : Regs → ℕ → PinView}
  {connector : List Connector} {origin : Regs} {guarded : Pin → Prop} {pin : Pin}
  {start s : GpioState Regs}

theorem Custody.around (custody : Custody dev inside view connector origin guarded start)
    (described : Described connector inside) (isPin : pin ∈ Gpio.pins connector)
    (around : Around dev inside view pin start s)
    (own : pin.isGpio = true → PinKept (view origin pin.mcuNumber) (guarded pin) (s.pin pin).isopen
      (s.pin pin) (view s.regs pin.mcuNumber))
    (ownDevice : pin.isGpio = true → (s.pin pin).isopen = true → dev.isOpen start.regs = true) :
    Custody dev inside view connector origin guarded s where
  kept p isPin' isGpio := by
    by_cases same : p = pin
    · subst same
      exact own isGpio
    · have others : view s.regs p.mcuNumber = view start.regs p.mcuNumber := by
        apply around.views _ (described.inside p isPin' isGpio)
        intro isGpio' sameNumber
        exact same (described.apart p isPin' pin isPin isGpio isGpio' sameNumber)
      rw [around.pins p same, others]
      exact custody.kept p isPin' isGpio
  device p isPin' isGpio open_ := by
    rw [around.device]
    by_cases same : p = pin
    · subst same
      exact ownDevice isGpio open_
    · rw [around.pins p same] at open_
      exact custody.device p isPin' isGpio open_
  listed := around.pinMap ▸ custody.listed
  others g isInside' unlisted := by
    rw [around.views g isInside' fun isGpio same => unlisted pin isPin isGpio same.symm]
    exact custody.others g isInside' unlisted

theorem Opened.around (opened : Opened connector start)
    (around : Around dev inside view pin start s)
    (own : pin.isGpio = true → (start.pin pin).isopen = true → (s.pin pin).isopen = true) :
    Opened connector s where
  pins c isConn isOpen p isPin isGpio := by
    have wasOpen := opened.pins c isConn (around.connector ▸ isOpen) p isPin isGpio
    by_cases same : p = pin
    · subst same
      exact own isGpio wasOpen
    · rw [around.pins p same]
      exact wasOpen
  connectors isOpen := by
    rw [around.connector]
    exact opened.connectors (around.isopen ▸ isOpen)

theorem Opened.setOpen (opened : Opened connector s) (described : Described connector inside)
    {c : Connector} (isConn : c ∈ connector)
    (pinsOpen : ∀ pin ∈ c.pin, pin.isGpio = true → (s.pin pin).isopen = true) :
    Opened connector
      { s with connectorIsOpen := Function.update s.connectorIsOpen c.number true } where
  pins c' isConn' isOpen := by
    by_cases same : c'.number = c.number
    · cases List.inj_on_of_nodup_map described.numbers isConn' isConn same
      exact pinsOpen
    · exact opened.pins c' isConn' ((Function.update_of_ne same ..).symm.trans isOpen)
  connectors isOpen c' isConn' := by
    by_cases same : c'.number = c.number
    · exact same ▸ Function.update_self ..
    · exact (Function.update_of_ne same ..).trans (opened.connectors isOpen c' isConn')

/-- A function of a pin of the type GPIO, from a state with custody. -/
theorem Custody.on_kept (custody : Custody dev inside view connector origin guarded start)
    (described : Described connector inside) (isPin : pin ∈ Gpio.pins connector)
    (isGpio : pin.isGpio = true)
    (on : On dev inside view pin start (PinKept (view origin pin.mcuNumber) (guarded pin)
      (start.pin pin).isopen) s) :
    Custody dev inside view connector origin guarded s := by
  rcases on with ⟨around, kept⟩
  apply custody.around described isPin around
  · exact fun _ => kept.isopen.symm ▸ kept
  · intro _ open_
    exact custody.device pin isPin isGpio (kept.isopen ▸ open_)

theorem Opened.on_kept (opened : Opened connector start) {kept : PinView} {guard : Prop}
    (on : On dev inside view pin start (PinKept kept guard (start.pin pin).isopen) s) :
    Opened connector s :=
  opened.around on.1 fun _ open_ => on.2.isopen.trans open_

end OnePin

/-! ### Calls of a pin -/

/-- The level of the pin is written. -/
def PinCall.Writes : PinCall → Prop
  | .write _ => True
  | .toggle => True
  | _ => False

/-- The state as the calls of the program leave it. -/
structure Sound {Regs : Type} (dev : Device Regs) (inside : ℕ → Prop)
    (view : Regs → ℕ → PinView) (connector : List Connector) (origin : Regs)
    (guarded : Pin → Prop) (gpio : GpioState Regs) : Prop where
  custody : Custody dev inside view connector origin guarded gpio
  opened : Opened connector gpio

section Calls

variable {Regs : Type} {dev : Device Regs} {inside : ℕ → Prop} {view : Regs → ℕ → PinView}
  {connector : List Connector} {origin : Regs} {guarded : Pin → Prop}
  (refines : dev.Refines inside view)

include refines

theorem run_kept {pin : Pin} {start : GpioState Regs} {guard : Prop} {isopen : Bool}
    (isGpio : pin.isGpio = true) (isInside : inside pin.mcuNumber)
    (device : isopen = true → dev.isOpen start.regs = true) (call : PinCall) :
    Ensures (On dev inside view pin start fun st now =>
        PinKept (view origin pin.mcuNumber) guard isopen st now ∧
          (call.Writes → guard → isopen = true → st.holdMode ≠ .modeUnknown))
      (call.run dev pin)
      (fun _ => On dev inside view pin start
        (PinKept (view origin pin.mcuNumber) guard isopen))
      fun _ => On dev inside view pin start
        (PinKept (view origin pin.mcuNumber) guard isopen) := by
  have ends : ∀ {α : Type} {m : GpioM Regs α} {before kept : GpioState Regs → Prop},
      Ensures before m (fun _ => kept) (fun _ => kept) →
      Ensures before (do
        let _ ← m
        pure ()) (fun _ => kept) (fun _ => kept) := by
    intro α m before kept ensures
    apply ensures_bind _ ensures
    exact fun _ => ensures_pure fun _ reached => reached
  cases call with
  | mode =>
      exact ensures_weaken_on (ends (mode_keeps refines isInside device)) fun _ _ held => held.1
  | setMode m =>
      exact ensures_weaken_on (setMode_keeps refines isGpio isInside device) fun _ _ held => held.1
  | pull =>
      exact ensures_weaken_on (ends (pull_keeps refines isInside device)) fun _ _ held => held.1
  | setPull p =>
      exact ensures_weaken_on (setPull_keeps refines isGpio isInside device) fun _ _ held => held.1
  | write value =>
      apply ensures_weaken_on (write_keeps refines isGpio isInside device)
      exact fun _ _ held => ⟨held.1, held.2 trivial⟩
  | toggle =>
      apply ensures_weaken_on (toggle_keeps refines isGpio isInside device)
      exact fun _ _ held => ⟨held.1, held.2 trivial⟩
  | read =>
      apply ends
      apply ensures_weaken_on _ fun _ _ held => held.1
      apply (read_keeps refines isInside device fun _ _ kept => kept).weaken
      · exact fun _ kept => kept
      · rintro v s ⟨around, -, kept⟩
        exact ⟨around, kept⟩
      · exact fun _ _ kept => kept
  | release =>
      apply ensures_weaken_on _ fun _ _ held => held.1
      apply (release_restores refines isGpio isInside device ⟨origin, rfl⟩).weaken
      · exact fun _ kept => kept
      · rintro _ s ⟨around, kept, -⟩
        exact ⟨around, kept⟩
      · exact fun _ _ impossible => impossible.elim

variable (described : Described connector inside)

include described

theorem PinCall.run_sound {start : GpioState Regs} {pin : Pin} (call : PinCall)
    (sound : Sound dev inside view connector origin guarded start)
    (isPin : pin ∈ Gpio.pins connector)
    (held : call.Writes → guarded pin → (start.pin pin).isopen = true →
      (start.pin pin).holdMode ≠ .modeUnknown) :
    Sound dev inside view connector origin guarded (endOf (call.run dev pin) start) := by
  rcases sound with ⟨custody, opened⟩
  cases isGpio : pin.isGpio with
  | false =>
      have on : On dev inside view pin start (fun _ _ => True) (endOf (call.run dev pin) start) :=
        (run_other isGpio call).endOf ⟨around_refl, trivial⟩
      have no : pin.isGpio = true → False := fun yes => Bool.false_ne_true (isGpio.symm.trans yes)
      exact ⟨custody.around described isPin on.1 (fun yes => (no yes).elim)
        fun yes => (no yes).elim, opened.around on.1 fun yes => (no yes).elim⟩
  | true =>
      have isInside := described.inside pin isPin isGpio
      have device := custody.device pin isPin isGpio
      have kept := custody.kept pin isPin isGpio
      suffices on : On dev inside view pin start (PinKept (view origin pin.mcuNumber) (guarded pin)
          (start.pin pin).isopen) (endOf (call.run dev pin) start) from
        ⟨custody.on_kept described isPin isGpio on, opened.on_kept on⟩
      exact (run_kept refines isGpio isInside device call).endOf ⟨around_refl, kept, held⟩

/-! ### Opening -/

theorem openPin_sound {pin : Pin} {isOpen : List Pin} {connectorIsOpen : ℤ → Bool}
    (isPin : pin ∈ Gpio.pins connector) :
    Ensures (fun gpio => Sound dev inside view connector origin guarded gpio ∧
        dev.isOpen gpio.regs = true ∧ gpio.connectorIsOpen = connectorIsOpen ∧
        ∀ p ∈ isOpen, p.isGpio = true → (gpio.pin p).isopen = true)
      (pin.openPin dev)
      (fun _ gpio => Sound dev inside view connector origin guarded gpio ∧
        dev.isOpen gpio.regs = true ∧ gpio.connectorIsOpen = connectorIsOpen ∧
        ∀ p ∈ isOpen ++ [pin], p.isGpio = true → (gpio.pin p).isopen = true)
      (fun _ gpio => Sound dev inside view connector origin guarded gpio) := by
  apply ensures_of_each
  rintro start ⟨⟨custody, opened⟩, device, rfl, areOpen⟩
  cases isGpio : pin.isGpio with
  | false =>
      have no : pin.isGpio = true → False := fun yes => Bool.false_ne_true (isGpio.symm.trans yes)
      have sound : ∀ s, On dev inside view pin start (fun _ _ => True) s →
          Sound dev inside view connector origin guarded s := fun s on =>
        ⟨custody.around described isPin on.1 (fun yes => (no yes).elim) fun yes => (no yes).elim,
          opened.around on.1 fun yes => (no yes).elim⟩
      apply (openPin_other isGpio).weaken
      · rintro s rfl
        exact ⟨around_refl, trivial⟩
      · rintro went s on
        refine ⟨sound s on, on.1.device.trans device, on.1.connector, fun p isIn isGpio' => ?_⟩
        rcases List.mem_append.mp isIn with isIn | isLast
        · rw [on.1.pins p]
          · exact areOpen p isIn isGpio'
          · rintro rfl
            exact no isGpio'
        · rw [List.mem_singleton.mp isLast] at isGpio'
          exact (no isGpio').elim
      · exact fun _ s on => sound s on
  | true =>
      have isInside := described.inside pin isPin isGpio
      have sound : ∀ s, On dev inside view pin start (PinKept (view origin pin.mcuNumber)
          (guarded pin) true) s → Sound dev inside view connector origin guarded s := fun s on =>
        ⟨custody.around described isPin on.1 (fun _ => on.2.isopen.symm ▸ on.2) fun _ _ => device,
          opened.around on.1 fun _ _ => on.2.isopen⟩
      apply (openPin_keeps refines isGpio isInside device).weaken
      · rintro s rfl
        exact ⟨around_refl, custody.kept pin isPin isGpio⟩
      · rintro went s on
        refine ⟨sound s on, on.1.device.trans device, on.1.connector, fun p isIn isGpio' => ?_⟩
        by_cases same : p = pin
        · subst same
          exact on.2.isopen
        · rcases List.mem_append.mp isIn with isIn | isLast
          · rw [on.1.pins p same]
            exact areOpen p isIn isGpio'
          · exact absurd (List.mem_singleton.mp isLast) same
      · exact fun _ s on => sound s on

theorem openConnector_sound {c : Connector} {isOpen : List Connector} (isConn : c ∈ connector) :
    Ensures (fun gpio => Sound dev inside view connector origin guarded gpio ∧
        dev.isOpen gpio.regs = true ∧ ∀ c ∈ isOpen, gpio.connectorIsOpen c.number = true)
      (c.openConnector dev)
      (fun went gpio => if went then Sound dev inside view connector origin guarded gpio ∧
          dev.isOpen gpio.regs = true ∧
          ∀ c' ∈ isOpen ++ [c], gpio.connectorIsOpen c'.number = true
        else Sound dev inside view connector origin guarded gpio)
      (fun _ gpio => Sound dev inside view connector origin guarded gpio) := by
  apply ensures_bind (fun gpio s => gpio = s ∧ Sound dev inside view connector origin guarded s ∧
    dev.isOpen s.regs = true ∧ ∀ c ∈ isOpen, s.connectorIsOpen c.number = true)
  · apply ensures_get
    exact fun s start => ⟨rfl, start⟩
  intro gpio
  apply ensures_of_fact (∀ c ∈ isOpen, gpio.connectorIsOpen c.number = true)
  · rintro s ⟨rfl, -, -, areOpen⟩
    exact areOpen
  intro areOpen
  apply ensures_ite
  · intro wasOpen
    apply ensures_pure
    rintro s ⟨rfl, sound, device, -⟩
    refine ⟨sound, device, fun c' isIn => ?_⟩
    rcases List.mem_append.mp isIn with isIn | isLast
    · exact areOpen c' isIn
    · cases List.mem_singleton.mp isLast
      exact wasOpen
  · intro _
    apply ensures_bind (fun went s => if went then
        Sound dev inside view connector origin guarded s ∧ dev.isOpen s.regs = true ∧
        s.connectorIsOpen = gpio.connectorIsOpen ∧
        ∀ p ∈ c.pin, p.isGpio = true → (s.pin p).isopen = true
      else Sound dev inside view connector origin guarded s)
    · apply (ensures_allOf (fun done s => Sound dev inside view connector origin guarded s ∧
          dev.isOpen s.regs = true ∧ s.connectorIsOpen = gpio.connectorIsOpen ∧
          ∀ p ∈ done, p.isGpio = true → (s.pin p).isopen = true) _ _).weaken
      · rintro s ⟨rfl, sound, device, -⟩
        exact ⟨sound, device, rfl, fun p none_ => absurd none_ List.not_mem_nil⟩
      · exact fun _ _ reached => reached
      · exact fun _ _ reached => reached
      · intro done pin rest split
        have isIn : pin ∈ c.pin := by
          rw [split]
          exact List.mem_append_right _ List.mem_cons_self
        apply (openPin_sound refines described (mem_pins isConn isIn)).weaken
        · exact fun _ start => start
        · intro went s reached
          cases went with
          | true => exact reached
          | false => exact reached.1
        · exact fun _ _ reached => reached
    intro went
    cases went with
    | false => exact ensures_bind _ (ensures_pure fun _ reached => reached) fun _ =>
        ensures_pure fun _ reached => reached
    | true =>
        apply ensures_bind (fun _ s => Sound dev inside view connector origin guarded s ∧
          dev.isOpen s.regs = true ∧ ∀ c' ∈ isOpen ++ [c], s.connectorIsOpen c'.number = true)
        · apply ensures_modify
          rintro s ⟨sound, device, same, pinsOpen⟩
          refine ⟨⟨⟨sound.custody.kept, sound.custody.device, sound.custody.listed,
            sound.custody.others⟩,
            sound.opened.setOpen described isConn pinsOpen⟩, device, fun c' isIn => ?_⟩
          dsimp only
          rcases List.mem_append.mp isIn with isIn | isLast
          · by_cases sameNumber : c'.number = c.number
            · rw [sameNumber, Function.update_self]
            · rw [Function.update_of_ne sameNumber, same]
              exact areOpen c' isIn
          · cases List.mem_singleton.mp isLast
            exact Function.update_self ..
        · exact fun _ => ensures_pure fun _ reached => reached

theorem openGpio_sound {maps : Bool} :
    Keeps (Sound dev inside view connector origin guarded) (Gpio.openGpio dev connector maps) := by
  apply ensures_bind (fun _ => Sound dev inside view connector origin guarded)
  · exact ensures_get fun _ sound => sound
  intro gpio
  apply ensures_ite
  · exact fun _ => ensures_pure fun _ sound => sound
  intro _
  apply ensures_bind (fun _ s => Sound dev inside view connector origin guarded s ∧
    dev.isOpen s.regs = true ∧ ∀ c ∈ ([] : List Connector), s.connectorIsOpen c.number = true)
  · apply ensures_writes
    · intro s next sound changed
      cases told : dev.openDevice maps s.regs with
      | error e =>
          rw [told] at changed
          cases changed
      | ok regs =>
          rw [told] at changed
          cases changed
          rcases refines.opened told with ⟨isOpen, same⟩
          refine ⟨⟨⟨?_, fun _ _ _ _ => isOpen, sound.custody.listed, ?_⟩, sound.opened.pins,
            sound.opened.connectors⟩, isOpen, fun c none_ => absurd none_ List.not_mem_nil⟩
          · change ∀ pin : Pin, _ → _ → PinKept _ _ _ _ (view regs pin.mcuNumber)
            rw [same]
            exact sound.custody.kept
          · change ∀ g, _ → _ → view regs g = _
            rw [same]
            exact sound.custody.others
    · intro s e sound _
      exact sound
  intro _
  apply ensures_bind (fun went s => if went then Sound dev inside view connector origin guarded s ∧
      dev.isOpen s.regs = true ∧ ∀ c ∈ connector, s.connectorIsOpen c.number = true
    else Sound dev inside view connector origin guarded s)
  · apply ensures_allOf (fun done s => Sound dev inside view connector origin guarded s ∧
      dev.isOpen s.regs = true ∧ ∀ c : Connector, c ∈ done → s.connectorIsOpen c.number = true)
    intro done c rest split
    apply openConnector_sound refines described
    rw [split]
    exact List.mem_append_right _ List.mem_cons_self
  intro went
  cases went with
  | false => exact ensures_bind _ (ensures_pure fun _ sound => sound) fun _ =>
      ensures_pure fun _ sound => sound
  | true =>
      apply ensures_bind (fun _ => Sound dev inside view connector origin guarded)
      · apply ensures_modify
        rintro s ⟨⟨custody, opened⟩, -, areOpen⟩
        exact ⟨⟨custody.kept, custody.device, custody.listed, custody.others⟩, opened.pins,
          fun _ => areOpen⟩
      · exact fun _ => ensures_pure fun _ sound => sound

end Calls

end Sysio.Board
