import Sysio.Gpio.Board.Descriptors

/-!
# Finding pins by their numbers

`Gpio::setNumbering` empties the map of the pins before it asks the pins for their numbers, and
keeps the new numbering only at its end. So a numbering that no pin has leaves no pin to be found,
and to set the old numbering again does not bring them back. Whatever else is called leaves the
map, on any device.
-/

namespace Sysio.Board

open Throwing

/-! ### Calls that leave the map -/

/-- The numbering and the map are these. -/
def SameNumbers {Regs : Type} (nb : Numbering) (map : List (ℤ × Pin)) (gpio : GpioState Regs) :
    Prop :=
  gpio.numbering = nb ∧ gpio.pinMap = map

section Same

variable {Regs : Type} {dev : Device Regs} {nb : Numbering} {map : List (ℤ × Pin)} {pin : Pin}

theorem ask_same {α : Type} {value : Regs → Except GpioThrow α} :
    Keeps (SameNumbers nb map) (ask value) :=
  ensures_reads (fun _ _ same _ => same) fun _ _ same _ => same

theorem tell_same {next : Regs → Except GpioThrow Regs} :
    Keeps (SameNumbers nb map) (tell next) := by
  apply ensures_writes
  · intro s after same changed
    cases told : next s.regs with
    | error e =>
        rw [told] at changed
        cases changed
    | ok regs =>
        rw [told] at changed
        cases changed
        exact same
  · exact fun _ _ same _ => same

theorem getState_same : Keeps (SameNumbers nb map : GpioState Regs → Prop) (getState pin) :=
  fun _ same => same

theorem change_same {next : PinState → PinState} :
    Keeps (SameNumbers nb map : GpioState Regs → Prop) (change pin next) :=
  fun _ same => same

theorem holdMode_same : Keeps (SameNumbers nb map) (pin.holdMode dev) := by
  apply keeps_bind getState_same
  intro state
  apply keeps_whenever
  apply keeps_bind ask_same
  intro m
  apply keeps_bind change_same
  intro _
  exact keeps_whenever (keeps_bind ask_same fun _ => change_same)

theorem holdPull_same : Keeps (SameNumbers nb map) (pin.holdPull dev) := by
  apply keeps_bind getState_same
  intro state
  exact keeps_whenever (keeps_bind ask_same fun _ => change_same)

theorem writeMode_same : Keeps (SameNumbers nb map) (pin.writeMode dev) := by
  apply keeps_bind holdMode_same
  intro _
  exact keeps_bind getState_same fun _ => tell_same

theorem writePull_same : Keeps (SameNumbers nb map) (pin.writePull dev) := by
  apply keeps_bind holdPull_same
  intro _
  exact keeps_bind getState_same fun _ => tell_same

theorem readMode_same : Keeps (SameNumbers nb map) (pin.readMode dev) :=
  keeps_bind ask_same fun _ => change_same

theorem readPull_same : Keeps (SameNumbers nb map) (pin.readPull dev) :=
  keeps_ite (keeps_bind ask_same fun _ => change_same) change_same

theorem mode_same : Keeps (SameNumbers nb map) (pin.mode dev) := by
  apply keeps_bind getState_same
  intro state
  apply keeps_bind (keeps_whenever readMode_same)
  intro _
  exact keeps_bind getState_same fun _ => keeps_pure

theorem setMode_same {m : PinMode} : Keeps (SameNumbers nb map) (pin.setMode dev m) := by
  apply keeps_whenever
  apply keeps_bind change_same
  intro _
  exact keeps_bind getState_same fun _ => keeps_whenever writeMode_same

theorem pull_same : Keeps (SameNumbers nb map) (pin.pull dev) := by
  apply keeps_bind getState_same
  intro state
  apply keeps_bind (keeps_whenever readPull_same)
  intro _
  exact keeps_bind getState_same fun _ => keeps_pure

theorem setPull_same {p : PinPull} : Keeps (SameNumbers nb map) (pin.setPull dev p) := by
  apply keeps_whenever
  apply keeps_bind change_same
  intro _
  exact keeps_bind getState_same fun _ => keeps_whenever writePull_same

theorem write_same {v : Bool} : Keeps (SameNumbers nb map) (pin.write dev v) :=
  keeps_bind getState_same fun _ => keeps_whenever tell_same

theorem read_same : Keeps (SameNumbers nb map) (pin.read dev) := by
  apply keeps_bind getState_same
  intro state
  exact keeps_ite ask_same (ensures_throw fun _ same => same)

theorem toggle_same : Keeps (SameNumbers nb map) (pin.toggle dev) := by
  apply keeps_bind getState_same
  intro state
  apply keeps_whenever
  exact keeps_ite tell_same (keeps_bind read_same fun _ => write_same)

theorem release_same : Keeps (SameNumbers nb map) (pin.release dev) := by
  apply keeps_bind getState_same
  intro state
  apply keeps_whenever
  apply keeps_bind
  · apply keeps_whenever
    apply keeps_bind setMode_same
    intro _
    exact keeps_bind (keeps_whenever write_same) fun _ => change_same
  · intro _
    exact keeps_whenever (keeps_bind setPull_same fun _ => change_same)

theorem openPin_same : Keeps (SameNumbers nb map) (pin.openPin dev) := by
  apply keeps_bind getState_same
  intro state
  apply keeps_bind
  · apply keeps_whenever
    apply keeps_bind change_same
    intro _
    apply keeps_whenever
    apply keeps_bind (keeps_ite writeMode_same readMode_same)
    exact fun _ => keeps_ite writePull_same readPull_same
  · intro _
    exact keeps_bind getState_same fun _ => keeps_pure

theorem closePin_same : Keeps (SameNumbers nb map) (pin.close dev) := by
  apply keeps_bind getState_same
  intro state
  apply keeps_whenever
  apply keeps_bind
  · exact keeps_whenever (keeps_bind keeps_get fun _ => keeps_whenever release_same)
  · exact fun _ => change_same

theorem setOpen_same {c : Connector} {isopen : Bool} :
    Keeps (SameNumbers nb map : GpioState Regs → Prop) (c.setOpen isopen) :=
  ensures_modify fun _ same => same

theorem openConnector_same {c : Connector} :
    Keeps (SameNumbers nb map) (c.openConnector dev) := by
  apply keeps_bind keeps_get
  intro gpio
  apply keeps_ite keeps_pure
  apply keeps_bind (keeps_allOf fun _ => openPin_same)
  intro went
  exact keeps_bind (keeps_whenever setOpen_same) fun _ => keeps_pure

theorem closeConnector_same {c : Connector} : Keeps (SameNumbers nb map) (c.close dev) := by
  apply keeps_bind keeps_get
  intro gpio
  apply keeps_whenever
  exact keeps_bind (keeps_forEach fun _ _ => closePin_same) fun _ => setOpen_same

theorem openGpio_same {connector : List Connector} {maps : Bool} :
    Keeps (SameNumbers nb map) (Gpio.openGpio dev connector maps) := by
  apply keeps_bind keeps_get
  intro gpio
  apply keeps_ite keeps_pure
  apply keeps_bind tell_same
  intro _
  apply keeps_bind (keeps_allOf fun _ => openConnector_same)
  intro went
  exact keeps_bind (keeps_whenever (ensures_modify fun _ same => same)) fun _ => keeps_pure

theorem closeGpio_same {connector : List Connector} :
    Keeps (SameNumbers nb map) (Gpio.close dev connector) := by
  apply keeps_bind keeps_get
  intro gpio
  apply keeps_whenever
  apply keeps_bind (keeps_forEach fun _ _ => closeConnector_same)
  intro _
  exact keeps_bind tell_same fun _ => ensures_modify fun _ same => same

theorem PinCall.run_same (call : PinCall) : Keeps (SameNumbers nb map) (call.run dev pin) := by
  cases call with
  | mode => exact keeps_bind mode_same fun _ => keeps_pure
  | setMode m => exact setMode_same
  | pull => exact keeps_bind pull_same fun _ => keeps_pure
  | setPull p => exact setPull_same
  | write value => exact write_same
  | toggle => exact toggle_same
  | read => exact keeps_bind read_same fun _ => keeps_pure
  | release => exact release_same

end Same

/-! ### The map for a numbering -/

section Map

variable {num key : ℤ} {p pin : Pin} {map : List (ℤ × Pin)}

theorem lookup_filter_of_ne (other : key ≠ num) :
    (map.filter (·.1 ≠ num)).lookup key = map.lookup key := by
  induction map with
  | nil => rfl
  | cons entry map ih =>
      by_cases removed : entry.1 = num
      · have isOther : (key == entry.1) = false := beq_eq_false_iff_ne.mpr (removed ▸ other)
        rw [List.filter_cons_of_neg (by rw [removed]; simp), ih, List.lookup_cons, isOther]
      · rw [List.filter_cons_of_pos (by simp [removed]), List.lookup_cons, List.lookup_cons, ih]

theorem lookup_assign :
    (Gpio.assign map num pin).lookup key = if key = num then some pin else map.lookup key := by
  rw [Gpio.assign, List.lookup_cons]
  by_cases same : key = num
  · rw [if_pos same, beq_iff_eq.mpr same]
  · rw [if_neg same, beq_eq_false_iff_ne.mpr same]
    exact lookup_filter_of_ne same

theorem number_of_known {nb : Numbering} (known : nb ≠ .numberingUnknown) :
    ∃ num, pin.number nb = .ok num := by
  cases nb with
  | numberingLogical => exact ⟨_, rfl⟩
  | numberingMcu => exact ⟨_, rfl⟩
  | numberingSystem => exact ⟨_, rfl⟩
  | numberingUnknown => exact absurd rfl known

end Map

/-- No two pins have a number in common. -/
def Distinct (connector : List Connector) : Prop :=
  ∀ nb num, ∀ p ∈ Gpio.pins connector, ∀ p' ∈ Gpio.pins connector, p.isGpio = true →
    p'.isGpio = true → p.number nb = .ok num → p'.number nb = .ok num → p = p'

/-- Of these pins, those of the type GPIO are found by their numbers, and no others. -/
def Finds {Regs : Type} (nb : Numbering) (pins : List Pin) (gpio : GpioState Regs) : Prop :=
  ∀ num p, gpio.pinMap.lookup num = some p ↔
    p ∈ pins ∧ p.isGpio = true ∧ p.number nb = .ok num

section Numbers

variable {Regs : Type} {connector : List Connector} {nb old : Numbering}

theorem addPin_finds {done rest : List Pin} {pin : Pin} (distinct : Distinct connector)
    (known : nb ≠ .numberingUnknown) (split : Gpio.pins connector = done ++ pin :: rest) :
    Finishes (fun gpio : GpioState Regs => Finds nb done gpio) (Gpio.addPin nb pin)
      (fun _ => Finds nb (done ++ [pin])) := by
  have isPin : pin ∈ Gpio.pins connector := by
    rw [split]
    exact List.mem_append_right _ List.mem_cons_self
  have arePins : ∀ p ∈ done, p ∈ Gpio.pins connector := by
    intro p isDone
    rw [split]
    exact List.mem_append_left _ isDone
  obtain ⟨num, isNumber⟩ : ∃ num, pin.number nb = .ok num := number_of_known known
  apply ensures_whenever
  · intro isGpio
    apply ensures_bind (fun num' gpio => num' = num ∧ Finds nb done gpio)
    · apply ensures_reads
      · rintro s num' finds found
        cases isNumber.symm.trans found
        exact ⟨rfl, finds⟩
      · rintro s e - thrown
        cases isNumber.symm.trans thrown
    intro num'
    apply ensures_modify
    rintro s ⟨rfl, finds⟩ key p
    change (Gpio.assign s.pinMap num' pin).lookup key = some p ↔ _
    rw [lookup_assign]
    by_cases same : key = num'
    · subst same
      rw [if_pos rfl]
      constructor
      · rintro ⟨⟩
        exact ⟨List.mem_append_right _ List.mem_cons_self, isGpio, isNumber⟩
      · rintro ⟨isIn, isGpio', found⟩
        rcases List.mem_append.mp isIn with isDone | isLast
        · rw [distinct nb key p (arePins p isDone) pin isPin isGpio' isGpio found isNumber]
        · rw [List.mem_singleton.mp isLast]
    · rw [if_neg same, finds key p]
      constructor
      · rintro ⟨isDone, found⟩
        exact ⟨List.mem_append_left _ isDone, found⟩
      · rintro ⟨isIn, isGpio', found⟩
        rcases List.mem_append.mp isIn with isDone | isLast
        · exact ⟨isDone, isGpio', found⟩
        · rw [List.mem_singleton.mp isLast] at found
          cases isNumber.symm.trans found
          exact absurd rfl same
  · intro other s finds key p
    rw [finds key p]
    constructor
    · rintro ⟨isDone, found⟩
      exact ⟨List.mem_append_left _ isDone, found⟩
    · rintro ⟨isIn, isGpio, found⟩
      rcases List.mem_append.mp isIn with isDone | isLast
      · exact ⟨isDone, isGpio, found⟩
      · rw [List.mem_singleton.mp isLast] at isGpio
        exact (Bool.false_ne_true (other.symm.trans isGpio)).elim

theorem setNumbering_finds (distinct : Distinct connector) (known : nb ≠ .numberingUnknown)
    (changes : nb ≠ old) :
    Finishes (fun gpio : GpioState Regs => gpio.numbering = old) (Gpio.setNumbering connector nb)
      (fun _ gpio => gpio.numbering = nb ∧ Finds nb (Gpio.pins connector) gpio) := by
  apply ensures_bind (fun gpio _ => gpio.numbering = old)
  · exact ensures_get fun _ isOld => isOld
  intro gpio
  apply ensures_of_fact (gpio.numbering = old) fun _ isOld => isOld
  rintro isOld
  rw [whenever_of_true (decide_eq_true (isOld ▸ changes))]
  apply ensures_bind (fun _ => Finds nb [])
  · apply ensures_modify
    intro s _ key p
    constructor
    · intro found
      cases found
    · exact fun found => absurd found.1 List.not_mem_nil
  intro _
  apply ensures_bind (fun _ => Finds nb (Gpio.pins connector))
  · apply ensures_forEach (Finds nb)
    exact fun done pin rest split => addPin_finds distinct known split
  intro _
  exact ensures_modify fun _ finds => ⟨rfl, finds⟩

/-- A numbering that no pin has is refused after the map has been emptied. -/
theorem setNumbering_unknown (some_ : ∃ pin ∈ Gpio.pins connector, pin.isGpio = true)
    (changes : old ≠ .numberingUnknown) :
    Ensures (fun gpio : GpioState Regs => gpio.numbering = old)
      (Gpio.setNumbering connector .numberingUnknown) (fun _ _ => False)
      (fun e gpio => e = .invalidArgument ∧ gpio.numbering = old ∧ gpio.pinMap = []) := by
  apply ensures_bind (fun gpio s => gpio.numbering = old ∧ s.numbering = old)
  · exact ensures_get fun _ isOld => ⟨isOld, isOld⟩
  intro gpio
  apply ensures_of_fact (gpio.numbering = old) fun _ isOld => isOld.1
  rintro isOld
  rw [whenever_of_true (decide_eq_true (isOld ▸ changes.symm))]
  apply ensures_bind (fun _ => SameNumbers old [])
  · exact ensures_modify fun _ isOld => ⟨isOld.2, rfl⟩
  intro _
  apply ensures_bind (fun _ _ => False)
  · rcases some_ with ⟨pin, isPin, isGpio⟩
    -- the loop ends at the first pin of the type GPIO
    apply (ensures_forEach (fun done s => SameNumbers old [] s ∧ pin ∉ done) _).weaken
    · exact fun s same => ⟨same, List.not_mem_nil⟩
    · exact fun _ _ finished => finished.2 isPin
    · exact fun _ _ thrown => thrown
    · intro done p rest _
      apply ensures_whenever
      · intro _
        apply ensures_bind (fun _ _ => False)
        · apply ensures_reads
          · rintro s num _ found
            cases found
          · rintro s e ⟨same, -⟩ thrown
            cases thrown
            exact ⟨rfl, same⟩
        · exact fun _ => ensures_modify fun _ impossible => impossible.elim
      · rintro other s ⟨same, notYet⟩
        refine ⟨same, fun isIn => ?_⟩
        rcases List.mem_append.mp isIn with isDone | isLast
        · exact notYet isDone
        · rw [List.mem_singleton.mp isLast] at isGpio
          exact Bool.false_ne_true (other.symm.trans isGpio)
  · exact fun _ => ensures_modify fun _ impossible => impossible.elim

end Numbers

/-! ### Runs -/

/-- What the calls make of the numbering, and whether the pins have been `lost`. -/
structure Numbered where
  numbering : Numbering
  lost : Bool
deriving DecidableEq, Repr

/-- Only `setNumbering` changes the numbering. -/
def Numbered.next (numbered : Numbered) : GpioCall → Numbered
  | .setNumbering nb =>
      if nb = numbered.numbering then numbered
      else if nb = .numberingUnknown then { numbered with lost := true }
      else ⟨nb, false⟩
  | _ => numbered

/-- The map has the pins under their numbers, or is empty. -/
structure Numbers {Regs : Type} (connector : List Connector) (numbered : Numbered)
    (gpio : GpioState Regs) : Prop where
  known : numbered.numbering ≠ .numberingUnknown
  numbering : gpio.numbering = numbered.numbering
  pinMap : if numbered.lost then gpio.pinMap = []
    else Finds numbered.numbering (Gpio.pins connector) gpio

section Runs

variable {Regs : Type} {dev : Device Regs} {connector : List Connector} {numbered : Numbered}
  {gpio : GpioState Regs}

theorem Numbers.of_same {s : GpioState Regs} (numbers : Numbers connector numbered gpio)
    (same : SameNumbers gpio.numbering gpio.pinMap s) : Numbers connector numbered s where
  known := numbers.known
  numbering := same.1.trans numbers.numbering
  pinMap := by
    have isMap := numbers.pinMap
    rw [Finds] at isMap ⊢
    rw [same.2]
    exact isMap

theorem Numbers.pin_eq_ok (numbers : Numbers connector numbered gpio) (number : ℤ) (p : Pin) :
    Gpio.pin number gpio = .ok p ↔ numbered.lost = false ∧ p ∈ Gpio.pins connector ∧
      p.isGpio = true ∧ p.number numbered.numbering = .ok number := by
  have isMap := numbers.pinMap
  have found : Gpio.pin number gpio = .ok p ↔ gpio.pinMap.lookup number = some p := by
    rw [Gpio.pin]
    cases gpio.pinMap.lookup number with
    | none => exact ⟨fun isPin => (by cases isPin), fun isPin => (by cases isPin)⟩
    | some p' =>
        constructor
        · rintro ⟨⟩
          rfl
        · rintro ⟨⟩
          rfl
  rw [found]
  cases isLost : numbered.lost with
  | true =>
      rw [isLost, if_pos rfl] at isMap
      rw [isMap]
      exact ⟨fun isPin => (by cases isPin), fun isPin => (by cases isPin.1)⟩
  | false =>
      rw [isLost, if_neg Bool.false_ne_true] at isMap
      rw [isMap number p]
      exact ⟨fun isPin => ⟨rfl, isPin⟩, And.right⟩

theorem Numbers.setNumbering (numbers : Numbers connector numbered gpio)
    (distinct : Distinct connector) (some_ : ∃ pin ∈ Gpio.pins connector, pin.isGpio = true)
    (nb : Numbering) : Numbers connector (numbered.next (.setNumbering nb))
      (endOf (Gpio.setNumbering connector nb) gpio) := by
  rw [Numbered.next]
  by_cases same : nb = numbered.numbering
  · rw [if_pos same]
    have skipped : endOf (Gpio.setNumbering connector nb) gpio = gpio := by
      change endOf (whenever (decide (nb ≠ gpio.numbering)) _) gpio = gpio
      rw [numbers.numbering, decide_eq_false (not_not_intro same)]
      rfl
    rw [skipped]
    exact numbers
  · rw [if_neg same]
    by_cases unknown : nb = .numberingUnknown
    · subst unknown
      rw [if_pos rfl]
      have emptied : Ensures (fun s : GpioState Regs => s.numbering = numbered.numbering)
          (Gpio.setNumbering connector .numberingUnknown)
          (fun _ => SameNumbers numbered.numbering []) fun _ =>
            SameNumbers numbered.numbering [] := by
        apply (setNumbering_unknown some_ numbers.known).weaken
        · exact fun _ isOld => isOld
        · exact fun _ _ impossible => impossible.elim
        · exact fun _ _ thrown => thrown.2
      rcases emptied.endOf numbers.numbering with ⟨isOld, isEmpty⟩
      exact ⟨numbers.known, isOld, isEmpty⟩
    · rw [if_neg unknown]
      rcases (setNumbering_finds distinct unknown same).run numbers.numbering with
        ⟨_, next, ran, isNew, finds⟩
      rw [endOf, ran]
      exact ⟨unknown, isNew, finds⟩

theorem Numbers.call (numbers : Numbers connector numbered gpio)
    (distinct : Distinct connector) (some_ : ∃ pin ∈ Gpio.pins connector, pin.isGpio = true)
    (call : GpioCall) : Numbers connector (numbered.next call)
      (endOf (call.run dev connector) gpio) := by
  suffices same : (∀ nb, call ≠ .setNumbering nb) →
      Keeps (SameNumbers gpio.numbering gpio.pinMap) (call.run dev connector) by
    by_cases numbering : ∃ nb, call = .setNumbering nb
    · rcases numbering with ⟨nb, rfl⟩
      exact numbers.setNumbering distinct some_ nb
    · have other : ∀ nb, call ≠ .setNumbering nb := fun nb isCall => numbering ⟨nb, isCall⟩
      have stays : numbered.next call = numbered := by
        cases call with
        | setNumbering nb => exact absurd rfl (other nb)
        | openGpio | close | setReleaseOnClose | onPin | onNumber => rfl
      rw [stays]
      exact numbers.of_same ((same other).endOf ⟨rfl, rfl⟩)
  intro other
  cases call with
  | openGpio maps => exact keeps_bind openGpio_same fun _ => keeps_pure
  | close => exact closeGpio_same
  | setReleaseOnClose enable => exact ensures_modify fun _ same => same
  | setNumbering nb => exact absurd rfl (other nb)
  | onPin pin call => exact keeps_whenever call.run_same
  | onNumber number call =>
      apply keeps_bind _ fun pin => call.run_same
      exact ensures_reads (fun _ _ same _ => same) fun _ _ same _ => same

theorem new_numbers {regs : Regs} (distinct : Distinct connector) :
    Numbers connector ⟨.numberingLogical, false⟩ (Gpio.new connector regs) := by
  have changes : Numbering.numberingLogical ≠ .numberingUnknown := by decide
  rcases (setNumbering_finds distinct changes changes).run (s := Gpio.initial regs) rfl with
    ⟨_, next, ran, isNew, finds⟩
  rw [Gpio.new, endOf, ran]
  exact ⟨changes, isNew, finds⟩

theorem run_numbers {regs : Regs} (distinct : Distinct connector)
    (some_ : ∃ pin ∈ Gpio.pins connector, pin.isGpio = true) (calls : List GpioCall) :
    Numbers connector (calls.foldl Numbered.next ⟨.numberingLogical, false⟩)
      (Gpio.session dev connector regs calls) := by
  suffices all : ∀ numbered (gpio : GpioState Regs), Numbers connector numbered gpio →
      Numbers connector (calls.foldl Numbered.next numbered) (gpio.run dev connector calls) from
    all _ _ (new_numbers distinct)
  induction calls with
  | nil => exact fun _ _ numbers => numbers
  | cons call calls ih =>
      intro numbered gpio numbers
      exact ih _ _ (numbers.call distinct some_ call)

end Runs

/-! ### The boards -/

theorem distinct_of_nodup {connector : List Connector}
    (nodup : ∀ part ∈ [PinNumber.logical, PinNumber.mcu, PinNumber.system],
      (((Gpio.pins connector).filter Pin.isGpio).map fun p => part p.descriptor.num).Nodup) :
    Distinct connector := by
  intro nb num p isPin p' isPin' isGpio isGpio' isNumber isNumber'
  have apart : ∀ part ∈ [PinNumber.logical, PinNumber.mcu, PinNumber.system],
      part p.descriptor.num = num → part p'.descriptor.num = num → p = p' := by
    intro part isPart same same'
    exact List.inj_on_of_nodup_map (nodup part isPart) (List.mem_filter.mpr ⟨isPin, isGpio⟩)
      (List.mem_filter.mpr ⟨isPin', isGpio'⟩) (same.trans same'.symm)
  cases nb with
  | numberingLogical =>
      exact apart _ (by simp) (Except.ok.inj isNumber) (Except.ok.inj isNumber')
  | numberingMcu =>
      exact apart _ (by simp) (Except.ok.inj isNumber) (Except.ok.inj isNumber')
  | numberingSystem =>
      exact apart _ (by simp) (Except.ok.inj isNumber) (Except.ok.inj isNumber')
  | numberingUnknown => cases isNumber

theorem boards_distinct (board : RpiBoard ⊕ NanoPiBoard) :
    Distinct (Gpio.connectors (descriptorOf board)) := by
  apply distinct_of_nodup
  rcases board with board | board
  · cases board <;> decide +kernel
  · cases board <;> decide +kernel

theorem boards_some (board : RpiBoard ⊕ NanoPiBoard) :
    ∃ pin ∈ Gpio.pins (Gpio.connectors (descriptorOf board)), pin.isGpio = true := by
  rcases board with board | board
  · cases board <;> decide +kernel
  · cases board <;> decide +kernel

/-- After whatever calls, on whatever device: a number finds the pin of the type GPIO with that
number, unless the pins have been lost. -/
theorem pin_found {Regs : Type} (dev : Device Regs) (board : RpiBoard ⊕ NanoPiBoard) (regs : Regs)
    (calls : List GpioCall) (number : ℤ) (p : Pin) :
    let connector := Gpio.connectors (descriptorOf board)
    let numbered := calls.foldl Numbered.next ⟨.numberingLogical, false⟩
    Gpio.pin number (Gpio.session dev connector regs calls) = .ok p ↔
      numbered.lost = false ∧ p ∈ Gpio.pins connector ∧ p.isGpio = true ∧
        p.number numbered.numbering = .ok number :=
  (run_numbers (boards_distinct board) (boards_some board) calls).pin_eq_ok number p

end Sysio.Board
