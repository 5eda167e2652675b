import Sysio.I2c.Tlc59116
import Sysio.Lib.Fields

/-!
# The LEDs of an open device

Every write changes a register in the copy and in the chip alike. What a pin shows is its field of
LEDOUT and its PWM register, and an operation on a LED changes what its pins show and no other
pin's.
-/

namespace Sysio.I2c.Tlc59116

/-! ### Sound devices -/

/-- Without faults, and with a chip of its own for each controller, as its copy has it. -/
structure Sound (d : Tlc59116) : Prop where
  named : ∀ i < d.nofCtrl, (d.ctrl i).config.i2cBus ≠ ""
  apart : ∀ i < d.nofCtrl, ∀ j < d.nofCtrl, (d.ctrl i).config = (d.ctrl j).config → i = j
  noFaults : ∀ n, d.transfers ≤ n → d.faults n = false
  copied : ∀ i < d.nofCtrl, ∀ r ≤ iref, (d.ctrl i).regs r = d.chip i r

/-- A register with this value, in the copy and in the chip. -/
def put (d : Tlc59116) (i r : ℕ) (value : BitVec 8) : Tlc59116 :=
  (d.setReg i r value).setChip (d.ctrl i).config (Function.update (d.chip i) r value)

section Writing

variable {d : Tlc59116} {i j r : ℕ} {value : BitVec 8}

theorem Sound.ready (sound : Sound d) (inside : i < d.nofCtrl) :
    ¬d.Fails (d.ctrl i).config.i2cBus := by
  rintro (unnamed | faulty)
  · exact sound.named i inside unnamed
  · rw [sound.noFaults _ (le_refl _)] at faulty
    exact Bool.false_ne_true faulty

theorem Sound.tick (sound : Sound d) : Sound d.tick where
  named := sound.named
  apart := sound.apart
  noFaults n later := sound.noFaults n (Nat.le_of_succ_le later)
  copied := sound.copied

theorem setReg_ctrl : (d.setReg i r value).ctrl j =
    if j = i then ⟨(d.ctrl i).config, Function.update (d.ctrl i).regs r value⟩ else d.ctrl j :=
  Function.update_apply ..

theorem config_setReg : ((d.setReg i r value).ctrl j).config = (d.ctrl j).config := by
  rw [setReg_ctrl]
  by_cases here : j = i
  · rw [if_pos here, here]
  · rw [if_neg here]

theorem put_ctrl : (d.put i r value).ctrl j =
    if j = i then ⟨(d.ctrl i).config, Function.update (d.ctrl i).regs r value⟩ else d.ctrl j :=
  setReg_ctrl

theorem config_put : ((d.put i r value).ctrl j).config = (d.ctrl j).config :=
  config_setReg

theorem setChip_chips {config : XTlc59116Config} {chip : Registers} {bus : String} {addr : ℕ} :
    (d.setChip config chip).chips bus addr =
      if (⟨bus, addr⟩ : XTlc59116Config) = config then chip else d.chips bus addr := by
  change Function.update d.chips config.i2cBus _ bus addr = _
  by_cases sameBus : bus = config.i2cBus
  · subst sameBus
    rw [Function.update_self]
    by_cases sameAddr : addr = config.i2cAddr
    · subst sameAddr
      rw [Function.update_self, if_pos rfl]
    · rw [Function.update_of_ne sameAddr, if_neg]
      intro same
      exact sameAddr (congrArg XTlc59116Config.i2cAddr same)
  · rw [Function.update_of_ne sameBus, if_neg]
    intro same
    exact sameBus (congrArg XTlc59116Config.i2cBus same)

theorem chip_put (sound : Sound d) (inside : i < d.nofCtrl) (inside' : j < d.nofCtrl) :
    (d.put i r value).chip j =
      if j = i then Function.update (d.chip i) r value else d.chip j := by
  rw [chip, config_put, put, setChip_chips]
  change (if (d.ctrl j).config = (d.ctrl i).config then _ else d.chip j) = _
  by_cases here : j = i
  · rw [if_pos (here ▸ rfl), if_pos here]
  · rw [if_neg fun same => here (sound.apart j inside' i inside same), if_neg here]

theorem chip_put_self : (d.put i r value).chip i = Function.update (d.chip i) r value := by
  rw [chip, config_put, put, setChip_chips, if_pos rfl]

theorem setChip_setChip {config : XTlc59116Config} {chip chip' : Registers} :
    (d.setChip config chip).setChip config chip' = d.setChip config chip' := by
  rw [setChip, setChip]
  simp only [Function.update_self, Function.update_idem]
  rfl

theorem Sound.put (sound : Sound d) (inside : i < d.nofCtrl) : Sound (d.put i r value) where
  named j inside' := by
    rw [config_put]
    exact sound.named j inside'
  apart j inside' k inside'' := by
    rw [config_put, config_put]
    exact sound.apart j inside' k inside''
  noFaults := sound.noFaults
  copied j inside' s low := by
    rw [put_ctrl, chip_put sound inside inside']
    by_cases here : j = i
    · subst here
      rw [if_pos rfl, if_pos rfl]
      by_cases there : s = r
      · subst there
        change Function.update (d.ctrl j).regs s value s = _
        rw [Function.update_self, Function.update_self]
      · exact (Function.update_of_ne there ..).trans
          ((sound.copied j inside' s low).trans (Function.update_of_ne there ..).symm)
    · rw [if_neg here, if_neg here]
      exact sound.copied j inside' s low

theorem firstRegister_ofNat (low : r ≤ iref) : firstRegister (BitVec.ofNat 8 r) = r := by
  have all : ∀ r ≤ 0x1C, firstRegister (BitVec.ofNat 8 r) = r := by decide
  exact all r low

/-- One register is written as its copy has it. -/
theorem write_put (ready : ¬d.Fails (d.ctrl i).config.i2cBus) (low : r ≤ iref) :
    iWriteRegBlock i r r (d.setReg i r value) = (0, (d.put i r value).tick) := by
  have ready' : ¬(d.setReg i r value).Fails ((d.setReg i r value).ctrl i).config.i2cBus := by
    rw [config_setReg]
    exact ready
  have control : controlByte r r = BitVec.ofNat 8 r := by
    rw [controlByte, if_neg (lt_irrefl r)]
    exact BitVec.or_zero
  have single : r - r + 1 = 1 := by omega
  have copy : ((d.setReg i r value).ctrl i).regs r = value := by
    rw [setReg_ctrl, if_pos rfl]
    exact Function.update_self ..
  have writable : ¬(r = eflag1 ∨ r = eflag2) := by
    rintro (rfl | rfl)
    · exact absurd low (by decide)
    · exact absurd low (by decide)
  have sameChip : (d.setReg i r value).chip i = d.chip i := by
    rw [chip, config_setReg]
    rfl
  rw [iWriteRegBlock, if_neg ready']
  simp only [control, single, firstRegister_ofNat low, List.range_one, List.map_cons, List.map_nil,
    Nat.add_zero, copy, storeBlock, if_neg writable, sameChip, config_setReg]
  rfl

/-- The two registers of the blinking are written in one block. -/
theorem write_group (sound : Sound d) (inside : i < d.nofCtrl) {value' : BitVec 8} :
    iWriteRegBlock i grppwm grpfreq ((d.setReg i grppwm value).setReg i grpfreq value') =
      (0, ((d.put i grppwm value).put i grpfreq value').tick) := by
  have ready : ¬((d.setReg i grppwm value).setReg i grpfreq value').Fails
      (((d.setReg i grppwm value).setReg i grpfreq value').ctrl i).config.i2cBus := by
    rw [config_setReg, config_setReg]
    exact sound.ready inside
  have copies : (((d.setReg i grppwm value).setReg i grpfreq value').ctrl i).regs =
      Function.update (Function.update (d.ctrl i).regs grppwm value) grpfreq value' := by
    rw [setReg_ctrl, if_pos rfl, setReg_ctrl, if_pos rfl]
  have values : (List.range (grpfreq - grppwm + 1)).map (fun k =>
      (((d.setReg i grppwm value).setReg i grpfreq value').ctrl i).regs (grppwm + k)) =
        [value, value'] := by
    rw [copies]
    rfl
  have sameChip : ((d.setReg i grppwm value).setReg i grpfreq value').chip i = d.chip i := by
    rw [chip, config_setReg, config_setReg]
    rfl
  have stored : storeBlock (controlByte grppwm grpfreq)
      (firstRegister (controlByte grppwm grpfreq)) [value, value'] (d.chip i) =
        Function.update (Function.update (d.chip i) grppwm value) grpfreq value' := rfl
  rw [iWriteRegBlock, if_neg ready]
  simp only [values, sameChip, stored, config_setReg]
  change _ = (0, (((((d.setReg i grppwm value).setReg i grpfreq value').setChip (d.ctrl i).config
    (Function.update (d.chip i) grppwm value)).setChip ((d.put i grppwm value).ctrl i).config
    (Function.update ((d.put i grppwm value).chip i) grpfreq value')).tick))
  rw [config_put, chip_put_self, setChip_setChip]

end Writing

/-! ### What the pins show -/

/-- The field of LEDOUT of a pin. -/
def ledout (d : Tlc59116) (pin : XTlc59116Pin) : BitVec 2 :=
  getField (d.chip pin.ctrl (ledout0 + pin.out / 4)) 2 (pin.out % 4)

/-- The PWM register of a pin. -/
def pwm (d : Tlc59116) (pin : XTlc59116Pin) : BitVec 8 := d.chip pin.ctrl (pwm0 + pin.out)

/-- The controller and the output exist. -/
def OnBoard (d : Tlc59116) (pin : XTlc59116Pin) : Prop := pin.ctrl < d.nofCtrl ∧ pin.out < 16

/-- A sound device after which the pins show this. -/
structure After (d d' : Tlc59116) (mode : XTlc59116Pin → BitVec 2)
    (duty : XTlc59116Pin → BitVec 8) : Prop where
  sound : Sound d'
  leds : d'.leds = d.leds
  nofCtrl : d'.nofCtrl = d.nofCtrl
  config : ∀ i, (d'.ctrl i).config = (d.ctrl i).config
  ledout : ∀ pin, d.OnBoard pin → d'.ledout pin = mode pin
  pwm : ∀ pin, d.OnBoard pin → d'.pwm pin = duty pin

/-- The pins show what they did. -/
def Quiet (d d' : Tlc59116) : Prop := After d d' d.ledout d.pwm

section Showing

variable {d d' d'' : Tlc59116} {i r : ℕ} {value : BitVec 8} {pin : XTlc59116Pin}

theorem Sound.quiet (sound : Sound d) : Quiet d d :=
  ⟨sound, rfl, rfl, fun _ => rfl, fun _ _ => rfl, fun _ _ => rfl⟩

theorem After.onBoard {mode : XTlc59116Pin → BitVec 2} {duty : XTlc59116Pin → BitVec 8}
    (after : After d d' mode duty) (onBoard : d.OnBoard pin) : d'.OnBoard pin :=
  ⟨after.nofCtrl ▸ onBoard.1, onBoard.2⟩

theorem Quiet.trans (quiet : Quiet d d') (quiet' : Quiet d' d'') : Quiet d d'' where
  sound := quiet'.sound
  leds := quiet'.leds.trans quiet.leds
  nofCtrl := quiet'.nofCtrl.trans quiet.nofCtrl
  config i := (quiet'.config i).trans (quiet.config i)
  ledout pin onBoard :=
    (quiet'.ledout pin (quiet.onBoard onBoard)).trans (quiet.ledout pin onBoard)
  pwm pin onBoard := (quiet'.pwm pin (quiet.onBoard onBoard)).trans (quiet.pwm pin onBoard)

/-- The registers that no pin shows. -/
def Apart (r : ℕ) : Prop := r < pwm0 ∨ pwm0 + 16 ≤ r ∧ r < ledout0 ∨ ledout0 + 4 ≤ r

/-- A register that no pin shows is written. -/
theorem quiet_put (sound : Sound d) (inside : i < d.nofCtrl) (hidden : Apart r) :
    Quiet d (d.put i r value) := by
  have same : ∀ j < d.nofCtrl, ∀ s, ¬Apart s → (d.put i r value).chip j s = d.chip j s := by
    intro j inside' s shown
    rw [chip_put sound inside inside']
    by_cases here : j = i
    · subst here
      rw [if_pos rfl, Function.update_of_ne]
      rintro rfl
      exact shown hidden
    · rw [if_neg here]
  refine ⟨sound.put inside, rfl, rfl, fun j => config_put, ?_, ?_⟩
  · intro pin onBoard
    have shown : ¬Apart (ledout0 + pin.out / 4) := by
      have below := onBoard.2
      rw [Apart, pwm0, ledout0]
      omega
    rw [ledout, same _ onBoard.1 _ shown, ledout]
  · intro pin onBoard
    have shown : ¬Apart (pwm0 + pin.out) := by
      have below := onBoard.2
      rw [Apart, pwm0, ledout0]
      omega
    rw [pwm, same _ onBoard.1 _ shown, pwm]

theorem After.tick {mode : XTlc59116Pin → BitVec 2} {duty : XTlc59116Pin → BitVec 8}
    (after : After d d' mode duty) : After d d'.tick mode duty :=
  ⟨after.sound.tick, after.leds, after.nofCtrl, after.config, after.ledout, after.pwm⟩

/-- A write of a register that no pin shows. -/
theorem write_quiet (sound : Sound d) (inside : i < d.nofCtrl) (low : r ≤ iref) (hidden : Apart r) :
    ∃ d', iWriteRegBlock i r r (d.setReg i r value) = (0, d') ∧ Quiet d d' :=
  ⟨_, write_put (sound.ready inside) low, (quiet_put sound inside hidden).tick⟩

theorem setPinMode_eq {word : BitVec 8} {out : ℕ} (mode : ELedRgbMode) :
    word &&& ~~~(3#8 <<< (out % 4 * 2)) ||| mode.code <<< (out % 4 * 2) =
      setField word 2 (out % 4) (mode.code.setWidth 2) := by
  have mask : (BitVec.allOnes 2).setWidth 8 = 3#8 := by decide
  have code : (mode.code.setWidth 2).setWidth 8 = mode.code := by
    cases mode <;> decide
  rw [setField, clearField, mask, code, Nat.mul_comm 2]

/-- The mode of a pin. -/
theorem after_setPinMode (sound : Sound d) (onBoard : d.OnBoard pin) (mode : ELedRgbMode) :
    ∃ d', iSetPinMode pin.ctrl pin.out mode d = (0, d') ∧
      After d d' (Function.update d.ledout pin (mode.code.setWidth 2)) d.pwm := by
  rcases onBoard with ⟨inside, below⟩
  have low : ledout0 + pin.out / 4 ≤ iref := by
    rw [ledout0, iref]
    omega
  have word : (d.ctrl pin.ctrl).regs (ledout0 + pin.out / 4) =
      d.chip pin.ctrl (ledout0 + pin.out / 4) := sound.copied _ inside _ low
  refine ⟨_, write_put (sound.ready inside) low, After.tick ⟨sound.put inside, rfl, rfl,
    fun _ => config_put, ?_, ?_⟩⟩
  · intro pin' onBoard'
    rw [setPinMode_eq, word, ledout, chip_put sound inside onBoard'.1, Function.update_apply]
    by_cases here : pin'.ctrl = pin.ctrl
    · rw [if_pos here]
      by_cases there : pin'.out / 4 = pin.out / 4
      · rw [there, Function.update_self]
        by_cases same : pin' = pin
        · subst same
          rw [if_pos rfl]
          exact getField_setField (by omega)
        · rw [if_neg same, getField_setField_of_ne, ledout, here, there]
          intro sameField
          apply same
          rcases pin with ⟨out, ctrl⟩
          rcases pin' with ⟨out', ctrl'⟩
          have sameOut : out' = out := by
            change out' / 4 = out / 4 at there
            change out % 4 = out' % 4 at sameField
            omega
          rw [sameOut, show ctrl' = ctrl from here]
      · rw [Function.update_of_ne (by omega), if_neg, ledout, here]
        rintro rfl
        exact there rfl
    · rw [if_neg here, if_neg, ledout]
      rintro rfl
      exact here rfl
  · intro pin' onBoard'
    rw [pwm, chip_put sound inside onBoard'.1]
    by_cases here : pin'.ctrl = pin.ctrl
    · have other : pwm0 + pin'.out ≠ ledout0 + pin.out / 4 := by
        have below' := onBoard'.2
        rw [pwm0, ledout0]
        omega
      rw [if_pos here, Function.update_of_ne other, pwm, here]
    · rw [if_neg here, pwm]

/-- The duty cycle of a pin. -/
theorem after_setPinPwm (sound : Sound d) (onBoard : d.OnBoard pin) (dcycle : BitVec 8) :
    ∃ d', iSetPinPwm pin.ctrl pin.out dcycle d = (0, d') ∧
      After d d' d.ledout (Function.update d.pwm pin dcycle) := by
  rcases onBoard with ⟨inside, below⟩
  have low : pwm0 + pin.out ≤ iref := by
    rw [pwm0, iref]
    omega
  refine ⟨_, write_put (sound.ready inside) low, After.tick ⟨sound.put inside, rfl, rfl,
    fun _ => config_put, ?_, ?_⟩⟩
  · intro pin' onBoard'
    rw [ledout, chip_put sound inside onBoard'.1]
    by_cases here : pin'.ctrl = pin.ctrl
    · have other : ledout0 + pin'.out / 4 ≠ pwm0 + pin.out := by
        rw [pwm0, ledout0]
        omega
      rw [if_pos here, Function.update_of_ne other, ledout, here]
    · rw [if_neg here, ledout]
  · intro pin' onBoard'
    rw [pwm, chip_put sound inside onBoard'.1, Function.update_apply]
    by_cases here : pin'.ctrl = pin.ctrl
    · rw [if_pos here, Function.update_apply]
      by_cases there : pin'.out = pin.out
      · have same : pin' = pin := by
          rcases pin with ⟨out, ctrl⟩
          rcases pin' with ⟨out', ctrl'⟩
          rw [show out' = out from there, show ctrl' = ctrl from here]
        rw [if_pos (by rw [there]), if_pos same]
      · rw [if_neg (by omega), if_neg fun same => there (congrArg XTlc59116Pin.out same), pwm, here]
    · rw [if_neg here, if_neg fun same => here (congrArg XTlc59116Pin.ctrl same), pwm]

end Showing

/-! ### The operations -/

section Operations

variable {d d' : Tlc59116} {mode : XTlc59116Pin → BitVec 2} {duty : XTlc59116Pin → BitVec 8}
  {pin : XTlc59116Pin}

theorem After.setPinMode (after : After d d' mode duty) (onBoard : d.OnBoard pin)
    (value : ELedRgbMode) :
    ∃ d'', iSetPinMode pin.ctrl pin.out value d' = (0, d'') ∧
      After d d'' (Function.update mode pin (value.code.setWidth 2)) duty := by
  rcases after_setPinMode after.sound (after.onBoard onBoard) value with ⟨d'', written, after'⟩
  refine ⟨d'', written, after'.sound, after'.leds.trans after.leds,
    after'.nofCtrl.trans after.nofCtrl, fun i => (after'.config i).trans (after.config i), ?_, ?_⟩
  · intro pin' onBoard'
    rw [after'.ledout pin' (after.onBoard onBoard'), Function.update_apply, Function.update_apply,
      after.ledout pin' onBoard']
  · intro pin' onBoard'
    rw [after'.pwm pin' (after.onBoard onBoard'), after.pwm pin' onBoard']

theorem After.setPinPwm (after : After d d' mode duty) (onBoard : d.OnBoard pin)
    (dcycle : BitVec 8) :
    ∃ d'', iSetPinPwm pin.ctrl pin.out dcycle d' = (0, d'') ∧
      After d d'' mode (Function.update duty pin dcycle) := by
  rcases after_setPinPwm after.sound (after.onBoard onBoard) dcycle with ⟨d'', written, after'⟩
  refine ⟨d'', written, after'.sound, after'.leds.trans after.leds,
    after'.nofCtrl.trans after.nofCtrl, fun i => (after'.config i).trans (after.config i), ?_, ?_⟩
  · intro pin' onBoard'
    rw [after'.ledout pin' (after.onBoard onBoard'), after.ledout pin' onBoard']
  · intro pin' onBoard'
    rw [after'.pwm pin' (after.onBoard onBoard'), Function.update_apply, Function.update_apply,
      after.pwm pin' onBoard']

variable {led : XTlc59116Led}

theorem after_setLedMode (sound : Sound d) (onBoard : ∀ pin ∈ led.pins, d.OnBoard pin)
    (value : ELedRgbMode) :
    ∃ d', setLedMode led value d = (0, d') ∧ After d d'
      (fun pin => if pin ∈ led.pins then value.code.setWidth 2 else d.ledout pin) d.pwm := by
  rcases Sound.quiet sound |>.setPinMode (onBoard led.red (by simp [XTlc59116Led.pins])) value with
    ⟨first, isFirst, afterFirst⟩
  rcases afterFirst.setPinMode (onBoard led.green (by simp [XTlc59116Led.pins])) value with
    ⟨second, isSecond, afterSecond⟩
  rcases afterSecond.setPinMode (onBoard led.blue (by simp [XTlc59116Led.pins])) value with
    ⟨third, isThird, afterThird⟩
  refine ⟨third, ?_, afterThird.sound, afterThird.leds, afterThird.nofCtrl, afterThird.config, ?_,
    afterThird.pwm⟩
  · simp only [setLedMode, isFirst, if_true, isSecond, isThird]
  · intro pin isPin
    rw [afterThird.ledout pin isPin]
    simp only [Function.update_apply, XTlc59116Led.pins, List.mem_cons, List.not_mem_nil, or_false]
    by_cases isRed : pin = led.red
    · simp [isRed]
    · by_cases isGreen : pin = led.green
      · simp [isGreen]
      · simp [isRed, isGreen]

theorem after_setLedColor (sound : Sound d) (onBoard : ∀ pin ∈ led.pins, d.OnBoard pin)
    (color : XRgbColor) :
    ∃ d', setLedColor led color d = (0, d') ∧ After d d' d.ledout
      (Function.update (Function.update (Function.update d.pwm led.red color.ucRed)
        led.green color.ucGreen) led.blue color.ucBlue) := by
  rcases Sound.quiet sound |>.setPinPwm (onBoard led.red (by simp [XTlc59116Led.pins]))
    color.ucRed with ⟨first, isFirst, afterFirst⟩
  rcases afterFirst.setPinPwm (onBoard led.green (by simp [XTlc59116Led.pins])) color.ucGreen with
    ⟨second, isSecond, afterSecond⟩
  rcases afterSecond.setPinPwm (onBoard led.blue (by simp [XTlc59116Led.pins])) color.ucBlue with
    ⟨third, isThird, afterThird⟩
  refine ⟨third, ?_, afterThird⟩
  simp only [setLedColor, isFirst, if_true, isSecond, isThird]

/-- Two writes of registers that no pin shows, one after the other. -/
theorem dimCtrl_quiet (dimming : ℕ) (sound : Sound d) {ctl : ℕ} (inside : ctl < d.nofCtrl) :
    ∃ d', dimCtrl dimming ctl d = (0, d') ∧ Quiet d d' := by
  rcases @write_quiet d ctl grppwm (BitVec.ofNat 8 dimming) sound inside (by decide)
    (by unfold Apart; decide) with ⟨first, isFirst, quiet⟩
  rcases @write_quiet first ctl mode2 ((first.ctrl ctl).regs mode2 &&& ~~~dmblnk) quiet.sound
    (quiet.nofCtrl ▸ inside) (by decide) (by unfold Apart; decide) with ⟨second, isSecond, quiet'⟩
  refine ⟨second, ?_, quiet.trans quiet'⟩
  simp only [dimCtrl, isFirst, ne_eq, not_true_eq_false, if_false, isSecond]

theorem blinkCtrl_quiet (period : ℤ) (dcycle : ℕ) (sound : Sound d) {ctl : ℕ}
    (inside : ctl < d.nofCtrl) : ∃ d', blinkCtrl period dcycle ctl d = (0, d') ∧ Quiet d d' := by
  have hiddenPwm : Apart grppwm := by unfold Apart; decide
  have hiddenFreq : Apart grpfreq := by unfold Apart; decide
  have quiet : ∀ value value', Quiet d ((d.put ctl grppwm value).put ctl grpfreq value').tick := by
    intro value value'
    have first : Quiet d (d.put ctl grppwm value) := quiet_put sound inside hiddenPwm
    exact (first.trans (quiet_put first.sound inside hiddenFreq)).tick
  rcases @write_quiet _ ctl mode2 _ (quiet (BitVec.ofNat 8 dcycle) _).sound inside (by decide)
    (by unfold Apart; decide) with ⟨second, isSecond, quiet'⟩
  refine ⟨second, ?_, (quiet _ _).trans quiet'⟩
  simp only [blinkCtrl, write_group sound inside, ne_eq, not_true_eq_false, if_false]
  exact isSecond

theorem ctrlLoop_quiet {write : ℕ → Tlc59116 → ℤ × Tlc59116}
    (quietWrite : ∀ {d : Tlc59116}, Sound d → ∀ {ctl : ℕ}, ctl < d.nofCtrl →
      ∃ d', write ctl d = (0, d') ∧ Quiet d d')
    (pins : List XTlc59116Pin) (i : ℕ) (c : ℕ → ℤ) (ret : ℤ) (sound : Sound d)
    (inside : ∀ pin ∈ pins, pin.ctrl < d.nofCtrl) :
    Quiet d (ctrlLoop write pins i c ret d).2 := by
  induction pins generalizing i c ret d with
  | nil => exact sound.quiet
  | cons pin pins ih =>
      have later : ∀ pin ∈ pins, pin.ctrl < d.nofCtrl := fun pin isPin =>
        inside pin (List.mem_cons_of_mem _ isPin)
      rw [ctrlLoop]
      by_cases fresh : (pin.ctrl : ℤ) ≠ c 0 ∧ (pin.ctrl : ℤ) ≠ c 1
      · rcases quietWrite sound (inside pin (List.mem_cons_self ..)) with ⟨d', isWritten, quiet⟩
        rw [if_pos fresh, isWritten]
        exact quiet.trans (ih (i + 1) _ 0 quiet.sound (quiet.nofCtrl ▸ later))
      · rw [if_neg fresh]
        exact ih (i + 1) c ret sound later

/-- What is copied of the error flags. -/
theorem quiet_setRegs (sound : Sound d) {i : ℕ} {regs : Registers}
    (same : ∀ r ≤ iref, regs r = (d.ctrl i).regs r) : Quiet d (d.setRegs i regs) := by
  have sameCtrl : ∀ j, (d.setRegs i regs).ctrl j =
      if j = i then ⟨(d.ctrl i).config, regs⟩ else d.ctrl j := fun j => Function.update_apply ..
  have sameConfig : ∀ j, ((d.setRegs i regs).ctrl j).config = (d.ctrl j).config := by
    intro j
    rw [sameCtrl]
    by_cases here : j = i
    · rw [if_pos here, here]
    · rw [if_neg here]
  have sameChip : ∀ j, (d.setRegs i regs).chip j = d.chip j := by
    intro j
    rw [chip, sameConfig]
    rfl
  refine ⟨⟨fun j inside => ?_, fun j inside k inside' => ?_, sound.noFaults,
      fun j inside r low => ?_⟩, rfl, rfl, sameConfig, fun pin _ => ?_, fun pin _ => ?_⟩
  · rw [sameConfig]
    exact sound.named j inside
  · rw [sameConfig, sameConfig]
    exact sound.apart j inside k inside'
  · rw [sameChip, ← sound.copied j inside r low, sameCtrl]
    by_cases here : j = i
    · subst here
      rw [if_pos rfl]
      exact same r low
    · rw [if_neg here]
  · rw [ledout, sameChip, ledout]
  · rw [pwm, sameChip, pwm]

/-- The error flags are read, and nothing else changes. -/
theorem read_quiet (sound : Sound d) {i r : ℕ} (inside : i < d.nofCtrl) (flags : iref < r) :
    ∃ d', iReadRegBlock i r r d = (0, d') ∧ Quiet d d' := by
  have single : r - r + 1 = 1 := by omega
  refine ⟨_, if_neg (sound.ready inside), After.tick (quiet_setRegs sound fun s low => ?_)⟩
  rw [single]
  exact Function.update_of_ne (by omega) ..

theorem errorLoop_quiet (pins : List XTlc59116Pin) (ret : ℤ) (sound : Sound d)
    (onBoard : ∀ pin ∈ pins, d.OnBoard pin) : Quiet d (errorLoop pins ret d).2 := by
  induction pins generalizing ret d with
  | nil => exact sound.quiet
  | cons pin pins ih =>
      have flags : iref < eflag1 + pin.out / 8 := by
        rw [iref, eflag1]
        omega
      rcases read_quiet sound (onBoard pin (List.mem_cons_self ..)).1 flags with
        ⟨d', isRead, quiet⟩
      have later : ∀ pin ∈ pins, d'.OnBoard pin := fun pin isPin =>
        quiet.onBoard (onBoard pin (List.mem_cons_of_mem _ isPin))
      simp only [errorLoop, isRead, ne_eq, not_true_eq_false, if_false]
      split
      · exact quiet.trans (ih 1 quiet.sound later)
      · exact quiet.trans (ih ret quiet.sound later)

theorem clearLoop_quiet (ctrls : List ℕ) (ret : ℤ) (sound : Sound d)
    (inside : ∀ i ∈ ctrls, i < d.nofCtrl) : Quiet d (clearLoop ctrls ret d).2 := by
  induction ctrls generalizing ret d with
  | nil => exact sound.quiet
  | cons i ctrls ih =>
      have hidden : Apart mode2 := by unfold Apart; decide
      rcases @write_quiet d i mode2 ((d.ctrl i).regs mode2 ||| efclr) sound
        (inside i (List.mem_cons_self ..)) (by decide) hidden with ⟨first, isFirst, quiet⟩
      rcases @write_quiet first i mode2 ((first.ctrl i).regs mode2 &&& ~~~efclr) quiet.sound
        (quiet.nofCtrl ▸ inside i (List.mem_cons_self ..)) (by decide) hidden with
        ⟨second, isSecond, quiet'⟩
      simp only [clearLoop, isFirst, ne_eq, not_true_eq_false, if_false, isSecond]
      have both : Quiet d second := quiet.trans quiet'
      exact both.trans (ih 0 both.sound fun j isCtrl =>
        both.nofCtrl ▸ inside j (List.mem_cons_of_mem _ isCtrl))

theorem setGain_quiet (ctl gain : ℤ) (sound : Sound d) : Quiet d (iSetGain ctl gain d).2 := by
  rw [iSetGain]
  by_cases known : 0 ≤ ctl ∧ ctl < d.nofCtrl
  · rcases @write_quiet d ctl.toNat iref (BitVec.ofInt 8 gain) sound (by omega) (le_refl _)
      (by unfold Apart; decide) with ⟨d', isWritten, quiet⟩
    rw [if_pos known, isWritten]
    exact quiet
  · rw [if_neg known]
    exact sound.quiet

/-- The error flags of a chip change. -/
theorem flags_quiet (sound : Sound d) (bus : String) (addr : ℕ) (errors1 errors2 : BitVec 8) :
    Quiet d (d.setChip ⟨bus, addr⟩
      (Function.update (Function.update (d.chips bus addr) eflag1 errors1) eflag2 errors2)) := by
  have same : ∀ j, ∀ r ≤ iref, (d.setChip ⟨bus, addr⟩ (Function.update
      (Function.update (d.chips bus addr) eflag1 errors1) eflag2 errors2)).chip j r =
        d.chip j r := by
    intro j r low
    have notFlag : r ≠ eflag1 ∧ r ≠ eflag2 := by
      rw [iref] at low
      rw [eflag1, eflag2]
      omega
    change Tlc59116.chips _ (d.ctrl j).config.i2cBus (d.ctrl j).config.i2cAddr r = _
    rw [setChip_chips]
    by_cases here : (d.ctrl j).config = ⟨bus, addr⟩
    · rw [if_pos here, Function.update_of_ne notFlag.2, Function.update_of_ne notFlag.1, chip, here]
    · rw [if_neg here, chip]
  refine ⟨⟨sound.named, sound.apart, sound.noFaults, fun j inside r low => ?_⟩, rfl, rfl,
    fun _ => rfl, fun pin onBoard => ?_, fun pin onBoard => ?_⟩
  · rw [same j r low]
    exact sound.copied j inside r low
  · have low : ledout0 + pin.out / 4 ≤ iref := by
      have below := onBoard.2
      rw [ledout0, iref]
      omega
    rw [ledout, same _ _ low, ledout]
  · have low : pwm0 + pin.out ≤ iref := by
      have below := onBoard.2
      rw [pwm0, iref]
      omega
    rw [pwm, same _ _ low, pwm]

end Operations

end Sysio.I2c.Tlc59116
