import Mathlib.Data.List.Nodup
import Mathlib.Data.Nat.Find
import Sysio.I2c.Leds

/-!
# Runs of a device with LEDs

Each LED shows its last mode and color, whatever is done with the others. The copies have to be
those of the chips when the device has been opened, and this holds when no two controllers are on
one bus: each controller that is opened resets the chips of its bus again.
-/

namespace Sysio.I2c.Tlc59116

/-! ### Runs -/

/-- A LED, its last mode and its last color. -/
structure Led where
  pins : XTlc59116Led
  mode : ELedRgbMode
  color : Option XRgbColor

/-- The LEDs after an operation. -/
def LedCall.apply (call : LedCall) (leds : List Led) : List Led :=
  match call with
  | addLed mode pins => leds ++ [⟨pins, mode, none⟩]
  | setMode index mode => leds.modify index fun led => { led with mode := mode }
  | setColor index color => leds.modify index fun led => { led with color := some color }
  | _ => leds

/-- New LEDs have outputs of the controllers that no LED has, and the LEDs of the other operations
exist. -/
def LedCall.Fits (call : LedCall) (nofCtrl : ℕ) (leds : List Led) : Prop :=
  match call with
  | addLed _ pins =>
      (∀ pin ∈ pins.pins, pin.ctrl < nofCtrl ∧ pin.out < 16) ∧ pins.pins.Nodup ∧
        ∀ led ∈ leds, ∀ pin ∈ led.pins.pins, pin ∉ pins.pins
  | setMode index _ => index < leds.length
  | setColor index _ => index < leds.length
  | setDimmer index _ => index < leds.length
  | setBlinker index _ _ => index < leds.length
  | getError index => index < leds.length
  | clrError => True
  | setGain _ _ => True
  | flags _ _ _ _ => True

/-- Each call of a sequence fits where it is made. -/
def FitAll (nofCtrl : ℕ) : List Led → List LedCall → Prop
  | _, [] => True
  | leds, call :: calls => call.Fits nofCtrl leds ∧ FitAll nofCtrl (call.apply leds) calls

/-- The LEDs after a sequence of calls. -/
def applyAll (leds : List Led) (calls : List LedCall) : List Led :=
  calls.foldl (fun leds call => call.apply leds) leds

/-- The LED shows its mode and its color; what it has of color at first is that of the opening. -/
structure Led.Shown (led : Led) (opened d : Tlc59116) : Prop where
  mode : ∀ pin ∈ led.pins.pins, d.ledout pin = led.mode.code.setWidth 2
  red : d.pwm led.pins.red = (led.color.map XRgbColor.ucRed).getD (opened.pwm led.pins.red)
  green : d.pwm led.pins.green =
    (led.color.map XRgbColor.ucGreen).getD (opened.pwm led.pins.green)
  blue : d.pwm led.pins.blue = (led.color.map XRgbColor.ucBlue).getD (opened.pwm led.pins.blue)

/-- After the opening `opened`, with these LEDs. -/
structure Shows (opened : Tlc59116) (leds : List Led) (d : Tlc59116) : Prop where
  sound : Sound d
  nofCtrl : d.nofCtrl = opened.nofCtrl
  pins : d.leds = leds.map Led.pins
  onBoard : ∀ led ∈ leds, ∀ pin ∈ led.pins.pins, opened.OnBoard pin
  distinct : ∀ led ∈ leds, led.pins.pins.Nodup
  apart : ∀ (i j : ℕ) (led led' : Led), leds[i]? = some led → leds[j]? = some led' →
    ∀ pin ∈ led.pins.pins, pin ∈ led'.pins.pins → i = j
  shown : ∀ led ∈ leds, led.Shown opened d
  others : ∀ pin, opened.OnBoard pin → (∀ led ∈ leds, pin ∉ led.pins.pins) →
    d.ledout pin = opened.ledout pin ∧ d.pwm pin = opened.pwm pin

section Steps

variable {opened d d' : Tlc59116} {leds : List Led} {led : Led} {index : ℕ}

theorem mem_pins {led : XTlc59116Led} :
    led.red ∈ led.pins ∧ led.green ∈ led.pins ∧ led.blue ∈ led.pins := by
  simp [XTlc59116Led.pins]

theorem Led.Shown.of_eq (shown : led.Shown opened d)
    (sameMode : ∀ pin ∈ led.pins.pins, d'.ledout pin = d.ledout pin)
    (sameDuty : ∀ pin ∈ led.pins.pins, d'.pwm pin = d.pwm pin) : led.Shown opened d' where
  mode pin isPin := (sameMode pin isPin).trans (shown.mode pin isPin)
  red := (sameDuty _ mem_pins.1).trans shown.red
  green := (sameDuty _ mem_pins.2.1).trans shown.green
  blue := (sameDuty _ mem_pins.2.2).trans shown.blue

theorem Shows.onBoard' (board : Shows opened leds d) {pin : XTlc59116Pin}
    (onBoard : opened.OnBoard pin) : d.OnBoard pin :=
  ⟨board.nofCtrl.symm ▸ onBoard.1, onBoard.2⟩

theorem Shows.quiet (board : Shows opened leds d) (quiet : Quiet d d') : Shows opened leds d' where
  sound := quiet.sound
  nofCtrl := quiet.nofCtrl.trans board.nofCtrl
  pins := quiet.leds.trans board.pins
  onBoard := board.onBoard
  distinct := board.distinct
  apart := board.apart
  shown led isLed := (board.shown led isLed).of_eq
    (fun pin isPin => quiet.ledout pin (board.onBoard' (board.onBoard led isLed pin isPin)))
    (fun pin isPin => quiet.pwm pin (board.onBoard' (board.onBoard led isLed pin isPin)))
  others pin onBoard free := by
    rw [quiet.ledout pin (board.onBoard' onBoard), quiet.pwm pin (board.onBoard' onBoard)]
    exact board.others pin onBoard free

theorem mem_modify {change : Led → Led} {led' : Led} (isLed : led' ∈ leds.modify index change) :
    ∃ j led, leds[j]? = some led ∧ led' = if index = j then change led else led := by
  rcases List.mem_iff_getElem?.mp isLed with ⟨j, isAt⟩
  rw [List.getElem?_modify, Option.map_eq_map, Option.map_eq_some_iff] at isAt
  rcases isAt with ⟨led, found, rfl⟩
  exact ⟨j, led, found, rfl⟩

/-- One LED changes and keeps its pins, and no other pin changes. -/
theorem Shows.modify (board : Shows opened leds d) (change : Led → Led)
    (samePins : ∀ led, (change led).pins = led.pins) (sound : Sound d')
    (sameLeds : d'.leds = d.leds)
    (sameCtrl : d'.nofCtrl = d.nofCtrl) (found : leds[index]? = some led)
    (shown : (change led).Shown opened d')
    (frame : ∀ pin, d.OnBoard pin → pin ∉ led.pins.pins →
      d'.ledout pin = d.ledout pin ∧ d'.pwm pin = d.pwm pin) :
    Shows opened (leds.modify index change) d' := by
  have samePins' : ∀ j (led : Led), (if index = j then change led else led).pins = led.pins := by
    intro j led
    by_cases here : index = j
    · rw [if_pos here, samePins]
    · rw [if_neg here]
  refine ⟨sound, sameCtrl.trans board.nofCtrl, ?_, ?_, ?_, ?_, ?_, ?_⟩
  · rw [sameLeds, board.pins]
    apply List.ext_getElem?
    intro j
    rw [List.getElem?_map, List.getElem?_map, List.getElem?_modify]
    cases leds[j]? with
    | none => rfl
    | some led => exact congrArg some (samePins' j led).symm
  · intro led' isLed
    rcases mem_modify isLed with ⟨j, led, isAt, rfl⟩
    rw [samePins']
    exact board.onBoard led (List.mem_of_getElem? isAt)
  · intro led' isLed
    rcases mem_modify isLed with ⟨j, led, isAt, rfl⟩
    rw [samePins']
    exact board.distinct led (List.mem_of_getElem? isAt)
  · intro i j first second isFirst isSecond pin
    rw [List.getElem?_modify, Option.map_eq_map, Option.map_eq_some_iff] at isFirst isSecond
    rcases isFirst with ⟨first, isFirst, rfl⟩
    rcases isSecond with ⟨second, isSecond, rfl⟩
    rw [samePins', samePins']
    exact board.apart i j first second isFirst isSecond pin
  · intro led' isLed
    rcases mem_modify isLed with ⟨j, other, isAt, rfl⟩
    by_cases here : index = j
    · subst here
      rw [isAt] at found
      injection found with same
      rw [if_pos rfl, same]
      exact shown
    · rw [if_neg here]
      have isOther := List.mem_of_getElem? isAt
      have free : ∀ pin ∈ other.pins.pins, d.OnBoard pin ∧ pin ∉ led.pins.pins := by
        intro pin isPin
        exact ⟨board.onBoard' (board.onBoard other isOther pin isPin), fun isPin' =>
          here (board.apart index j led other found isAt pin isPin' isPin)⟩
      exact (board.shown other isOther).of_eq
        (fun pin isPin => (frame pin (free pin isPin).1 (free pin isPin).2).1)
        (fun pin isPin => (frame pin (free pin isPin).1 (free pin isPin).2).2)
  · intro pin onBoard free
    have freeBefore : ∀ led ∈ leds, pin ∉ led.pins.pins := by
      intro led isLed isPin
      rcases List.mem_iff_getElem?.mp isLed with ⟨j, isAt⟩
      refine free (if index = j then change led else led) ?_ (samePins' j led ▸ isPin)
      apply List.mem_iff_getElem?.mpr
      exact ⟨j, by rw [List.getElem?_modify, isAt]; rfl⟩
    have same := frame pin (board.onBoard' onBoard) (freeBefore led (List.mem_of_getElem? found))
    rw [same.1, same.2]
    exact board.others pin onBoard freeBefore

theorem Shows.found (board : Shows opened leds d) (inside : index < leds.length) :
    ∃ led, leds[index]? = some led ∧ d.leds[index]? = some led.pins ∧
      ∀ pin ∈ led.pins.pins, d.OnBoard pin := by
  have isLed := List.getElem?_eq_getElem inside
  refine ⟨leds[index], isLed, ?_, ?_⟩
  · rw [board.pins, List.getElem?_map, isLed]
    rfl
  · intro pin isPin
    exact board.onBoard' (board.onBoard _ (List.mem_of_getElem? isLed) pin isPin)

theorem shows_setMode (board : Shows opened leds d) (inside : index < leds.length)
    (mode : ELedRgbMode) : ∃ d', (iSetMode index mode d).map Prod.snd = some d' ∧
      Shows opened (leds.modify index fun led => { led with mode := mode }) d' := by
  rcases board.found inside with ⟨led, isLed, isPins, onBoard⟩
  rcases after_setLedMode board.sound onBoard mode with ⟨d', isSet, after⟩
  refine ⟨d', by rw [iSetMode, isPins, Option.map_some, isSet]; rfl, ?_⟩
  have before := board.shown led (List.mem_of_getElem? isLed)
  apply board.modify (fun led => { led with mode := mode }) (fun _ => rfl) after.sound after.leds
    after.nofCtrl isLed
  · refine ⟨fun pin isPin => ?_, ?_, ?_, ?_⟩
    · rw [after.ledout pin (onBoard pin isPin), if_pos isPin]
    · exact (after.pwm _ (onBoard _ mem_pins.1)).trans before.red
    · exact (after.pwm _ (onBoard _ mem_pins.2.1)).trans before.green
    · exact (after.pwm _ (onBoard _ mem_pins.2.2)).trans before.blue
  · intro pin isOnBoard free
    rw [after.ledout pin isOnBoard, if_neg free]
    exact ⟨rfl, after.pwm pin isOnBoard⟩

theorem pins_apart {led : XTlc59116Led} (distinct : led.pins.Nodup) :
    led.red ≠ led.green ∧ led.red ≠ led.blue ∧ led.green ≠ led.blue := by
  simpa [XTlc59116Led.pins, and_assoc] using distinct

theorem shows_setColor (board : Shows opened leds d) (inside : index < leds.length)
    (color : XRgbColor) : ∃ d', (iSetColor index color d).map Prod.snd = some d' ∧
      Shows opened (leds.modify index fun led => { led with color := some color }) d' := by
  rcases board.found inside with ⟨led, isLed, isPins, onBoard⟩
  rcases after_setLedColor board.sound onBoard color with ⟨d', isSet, after⟩
  refine ⟨d', by rw [iSetColor, isPins, Option.map_some, isSet]; rfl, ?_⟩
  have before := board.shown led (List.mem_of_getElem? isLed)
  rcases pins_apart (board.distinct led (List.mem_of_getElem? isLed)) with
    ⟨redGreen, redBlue, greenBlue⟩
  apply board.modify (fun led => { led with color := some color }) (fun _ => rfl) after.sound
    after.leds after.nofCtrl isLed
  · refine ⟨fun pin isPin => ?_, ?_, ?_, ?_⟩
    · exact (after.ledout pin (onBoard pin isPin)).trans (before.mode pin isPin)
    · rw [after.pwm _ (onBoard _ mem_pins.1), Function.update_of_ne redBlue,
        Function.update_of_ne redGreen, Function.update_self]
      rfl
    · rw [after.pwm _ (onBoard _ mem_pins.2.1), Function.update_of_ne greenBlue,
        Function.update_self]
      rfl
    · rw [after.pwm _ (onBoard _ mem_pins.2.2), Function.update_self]
      rfl
  · intro pin isOnBoard free
    have others : pin ≠ led.pins.red ∧ pin ≠ led.pins.green ∧ pin ≠ led.pins.blue := by
      simpa [XTlc59116Led.pins] using free
    rw [after.pwm pin isOnBoard, Function.update_of_ne others.2.2, Function.update_of_ne others.2.1,
      Function.update_of_ne others.1]
    exact ⟨after.ledout pin isOnBoard, rfl⟩

theorem getElem?_appended {new : Led} {i : ℕ} (isAt : (leds ++ [new])[i]? = some led) :
    leds[i]? = some led ∨ i = leds.length ∧ led = new := by
  rcases Nat.lt_or_ge i leds.length with before | beyond
  · rw [List.getElem?_append_left before] at isAt
    exact Or.inl isAt
  · rw [List.getElem?_append_right beyond, List.getElem?_singleton] at isAt
    by_cases last : i - leds.length = 0
    · rw [if_pos last] at isAt
      injection isAt with same
      exact Or.inr ⟨by omega, same.symm⟩
    · rw [if_neg last] at isAt
      exact absurd isAt (by simp)

/-- A LED is added with pins that no other has. -/
theorem Shows.append (board : Shows opened leds d) {pins : XTlc59116Led} {mode : ELedRgbMode}
    (onBoard : ∀ pin ∈ pins.pins, opened.OnBoard pin) (distinct : pins.pins.Nodup)
    (free : ∀ led ∈ leds, ∀ pin ∈ led.pins.pins, pin ∉ pins.pins) (sound : Sound d')
    (sameLeds : d'.leds = d.leds ++ [pins]) (sameCtrl : d'.nofCtrl = d.nofCtrl)
    (isMode : ∀ pin, d.OnBoard pin → d'.ledout pin =
      if pin ∈ pins.pins then mode.code.setWidth 2 else d.ledout pin)
    (isDuty : ∀ pin, d.OnBoard pin → d'.pwm pin = d.pwm pin) :
    Shows opened (leds ++ [⟨pins, mode, none⟩]) d' := by
  have freePins : ∀ pin ∈ pins.pins, ∀ led ∈ leds, pin ∉ led.pins.pins :=
    fun pin isNew led isLed isOld => free led isLed pin isOld isNew
  have isOpened : ∀ pin ∈ pins.pins, d'.pwm pin = opened.pwm pin := by
    intro pin isPin
    rw [isDuty pin (board.onBoard' (onBoard pin isPin))]
    exact (board.others pin (onBoard pin isPin) (freePins pin isPin)).2
  refine ⟨sound, sameCtrl.trans board.nofCtrl, ?_, ?_, ?_, ?_, ?_, ?_⟩
  · rw [sameLeds, board.pins, List.map_append]
    rfl
  · intro led isLed
    rcases List.mem_append.mp isLed with old | isNew
    · exact board.onBoard led old
    · rw [List.mem_singleton.mp isNew]
      exact onBoard
  · intro led isLed
    rcases List.mem_append.mp isLed with old | isNew
    · exact board.distinct led old
    · rw [List.mem_singleton.mp isNew]
      exact distinct
  · intro i j led led' isAt isAt' pin isPin isPin'
    rcases getElem?_appended isAt with old | ⟨last, rfl⟩
    · rcases getElem?_appended isAt' with old' | ⟨last', rfl⟩
      · exact board.apart i j led led' old old' pin isPin isPin'
      · exact absurd isPin' (free led (List.mem_of_getElem? old) pin isPin)
    · rcases getElem?_appended isAt' with old' | ⟨last', rfl⟩
      · exact absurd isPin (free led' (List.mem_of_getElem? old') pin isPin')
      · omega
  · intro led isLed
    rcases List.mem_append.mp isLed with old | isNew
    · apply (board.shown led old).of_eq
      · intro pin isPin
        rw [isMode pin (board.onBoard' (board.onBoard led old pin isPin)),
          if_neg (free led old pin isPin)]
      · intro pin isPin
        exact isDuty pin (board.onBoard' (board.onBoard led old pin isPin))
    · rw [List.mem_singleton.mp isNew]
      refine ⟨fun pin isPin => ?_, isOpened _ mem_pins.1, isOpened _ mem_pins.2.1,
        isOpened _ mem_pins.2.2⟩
      rw [isMode pin (board.onBoard' (onBoard pin isPin)), if_pos isPin]
  · intro pin isOnBoard unused
    have old : ∀ led ∈ leds, pin ∉ led.pins.pins := fun led isLed =>
      unused led (List.mem_append_left _ isLed)
    have notNew : pin ∉ pins.pins := unused _ (List.mem_append_right _ (List.mem_singleton_self _))
    rw [isMode pin (board.onBoard' isOnBoard), isDuty pin (board.onBoard' isOnBoard),
      if_neg notNew]
    exact board.others pin isOnBoard old

theorem shows_addLed (board : Shows opened leds d) {mode : ELedRgbMode} {pins : XTlc59116Led}
    (fits : (LedCall.addLed mode pins).Fits opened.nofCtrl leds) :
    ∃ d', (iAddLed mode pins d).map Prod.snd = some d' ∧
      Shows opened (leds ++ [⟨pins, mode, none⟩]) d' := by
  rcases fits with ⟨onBoard, distinct, free⟩
  have onBoard' : ∀ pin ∈ pins.pins, d.OnBoard pin := fun pin isPin =>
    board.onBoard' (onBoard pin isPin)
  have accepted : (pins.red.ctrl < d.nofCtrl ∧ pins.green.ctrl < d.nofCtrl ∧
      pins.blue.ctrl < d.nofCtrl) ∧ pins.red.out < 16 ∧ pins.green.out < 16 ∧
      pins.blue.out < 16 :=
    ⟨⟨(onBoard' _ mem_pins.1).1, (onBoard' _ mem_pins.2.1).1, (onBoard' _ mem_pins.2.2).1⟩,
      (onBoard' _ mem_pins.1).2, (onBoard' _ mem_pins.2.1).2, (onBoard' _ mem_pins.2.2).2⟩
  have sound : Sound { d with leds := d.leds ++ [pins] } :=
    ⟨board.sound.named, board.sound.apart, board.sound.noFaults, board.sound.copied⟩
  rcases after_setLedMode sound onBoard' mode with ⟨d', isSet, after⟩
  have last : (d.leds ++ [pins])[(d.leds ++ [pins]).length - 1]? = some pins := by simp
  refine ⟨d', ?_, board.append onBoard distinct free after.sound after.leds after.nofCtrl
    after.ledout after.pwm⟩
  rw [iAddLed, if_pos accepted]
  simp only [iSetMode, last, Option.map_some, isSet, if_true]

/-- Every operation leaves the LEDs with their modes and colors. -/
theorem shows_call (board : Shows opened leds d) {call : LedCall}
    (fits : call.Fits opened.nofCtrl leds) :
    ∃ d', call.run d = some d' ∧ Shows opened (call.apply leds) d' := by
  have inside : ∀ led ∈ leds, ∀ pin ∈ led.pins.pins, pin.ctrl < d.nofCtrl :=
    fun led isLed pin isPin => (board.onBoard' (board.onBoard led isLed pin isPin)).1
  cases call with
  | addLed mode pins => exact shows_addLed board fits
  | setMode index mode => exact shows_setMode board fits mode
  | setColor index color => exact shows_setColor board fits color
  | setDimmer index dimming =>
      rcases board.found fits with ⟨led, isLed, isPins, _⟩
      by_cases positive : 0 ≤ dimming
      · refine ⟨_, by rw [LedCall.run, iSetDimmer, if_pos positive, isPins]; rfl, ?_⟩
        exact board.quiet (ctrlLoop_quiet (dimCtrl_quiet _) _ _ _ _ board.sound
          (inside led (List.mem_of_getElem? isLed)))
      · exact ⟨d, by rw [LedCall.run, iSetDimmer, if_neg positive]; rfl, board⟩
  | setBlinker index period dcycle =>
      rcases board.found fits with ⟨led, isLed, isPins, _⟩
      by_cases positive : 0 ≤ period ∧ 0 ≤ dcycle
      · refine ⟨_, by rw [LedCall.run, iSetBlinker, if_pos positive, isPins]; rfl, ?_⟩
        exact board.quiet (ctrlLoop_quiet (blinkCtrl_quiet period _) _ _ _ _ board.sound
          (inside led (List.mem_of_getElem? isLed)))
      · exact ⟨d, by rw [LedCall.run, iSetBlinker, if_neg positive]; rfl, board⟩
  | getError index =>
      rcases board.found fits with ⟨led, isLed, isPins, onBoard⟩
      refine ⟨_, by rw [LedCall.run, iGetError, isPins]; rfl, ?_⟩
      exact board.quiet (errorLoop_quiet _ _ board.sound onBoard)
  | clrError =>
      exact ⟨_, rfl, board.quiet (clearLoop_quiet _ _ board.sound fun _ => List.mem_range.mp)⟩
  | setGain ctl gain => exact ⟨_, rfl, board.quiet (setGain_quiet ctl gain board.sound)⟩
  | flags bus addr errors1 errors2 =>
      exact ⟨_, rfl, board.quiet (flags_quiet board.sound bus addr errors1 errors2)⟩

theorem shows_run {calls : List LedCall} (board : Shows opened leds d)
    (fits : FitAll opened.nofCtrl leds calls) :
    ∃ d', run calls d = some d' ∧ Shows opened (applyAll leds calls) d' := by
  induction calls generalizing leds d with
  | nil => exact ⟨d, rfl, board⟩
  | cons call calls ih =>
      rcases shows_call board fits.1 with ⟨d', isRun, board'⟩
      rcases ih board' fits.2 with ⟨d'', isRun', board''⟩
      exact ⟨d'', by rw [run, isRun]; exact isRun', board''⟩

/-- No LED yet. -/
theorem Sound.shows (sound : Sound d) (noLeds : d.leds = []) : Shows d [] d where
  sound := sound
  nofCtrl := rfl
  pins := noLeds
  onBoard _ isLed := nomatch isLed
  distinct _ isLed := nomatch isLed
  apart _ _ _ _ isAt := nomatch isAt
  shown _ isLed := nomatch isLed
  others _ _ _ := ⟨rfl, rfl⟩

end Steps

/-! ### The opening -/

/-- The registers after a reset and the start of the oscillator. -/
def startedRegs (powerUp : Registers) : Registers :=
  Function.update powerUp mode1 (powerUp mode1 &&& ~~~osc)

section Opening

variable {d d' : Tlc59116} {config : XTlc59116Config} {configs done : List XTlc59116Config}

theorem fillRegs_loadBlock {control : BitVec 8} (increments : control.getLsbD 7 = true)
    (chip : Registers) (reg n : ℕ) (regs : Registers) (s : ℕ) :
    fillRegs reg (loadBlock control chip reg n) regs s =
      if reg ≤ s ∧ s < reg + n then chip s else regs s := by
  induction n generalizing reg regs with
  | zero => rw [if_neg (by omega)]; rfl
  | succ n ih =>
      have next : nextRegister control reg = reg + 1 := if_pos increments
      rw [loadBlock, fillRegs, next, ih (reg + 1)]
      by_cases here : s = reg
      · subst here
        rw [if_neg (by omega), if_pos (by omega)]
        exact Function.update_self ..
      · rw [Function.update_of_ne here]
        by_cases inside : reg + 1 ≤ s ∧ s < reg + 1 + n
        · rw [if_pos inside, if_pos (by omega)]
        · rw [if_neg inside, if_neg (by omega)]

/-- A controller has been opened: the chips of its bus are reset, and its own is started. -/
structure Opened (config : XTlc59116Config) (d d' : Tlc59116) : Prop where
  named : config.i2cBus ≠ ""
  nofCtrl : d'.nofCtrl = d.nofCtrl + 1
  config_ : (d'.ctrl d.nofCtrl).config = config
  regs : ∀ r < regBlockSize, (d'.ctrl d.nofCtrl).regs r = startedRegs d.powerUp r
  others : ∀ j, j ≠ d.nofCtrl → d'.ctrl j = d.ctrl j
  chips : ∀ bus addr, d'.chips bus addr =
    if bus = config.i2cBus then
      if addr = config.i2cAddr then startedRegs d.powerUp else d.powerUp
    else d.chips bus addr
  powerUp : d'.powerUp = d.powerUp
  leds : d'.leds = d.leds

theorem failed_ne (d : Tlc59116) : ((-1 : ℤ), d).1 ≠ 0 := by
  change (-1 : ℤ) ≠ 0
  decide

theorem swReset_of_zero {bus : String} (succeeds : (iSwReset bus d).1 = 0) :
    iSwReset bus d =
      (0, { d with chips := Function.update d.chips bus fun _ => d.powerUp }.tick) := by
  rw [iSwReset] at succeeds ⊢
  split_ifs at succeeds ⊢ with fails
  · exact absurd succeeds (failed_ne _)
  · rfl

theorem checkCtrlPresence_of_zero (succeeds : (iCheckCtrlPresence config d).1 = 0) :
    iCheckCtrlPresence config d = (0, d.tick) ∧ config.i2cBus ≠ "" := by
  rw [iCheckCtrlPresence] at succeeds ⊢
  split_ifs at succeeds ⊢ with fails answers
  · exact absurd succeeds (failed_ne _)
  · exact ⟨rfl, fun unnamed => fails (Or.inl unnamed)⟩
  · exact absurd succeeds (failed_ne _)

theorem readRegBlock_of_zero {i first last : ℕ} (succeeds : (iReadRegBlock i first last d).1 = 0) :
    iReadRegBlock i first last d = (0, (d.setRegs i (fillRegs first
      (loadBlock (controlByte first last) (d.chip i) (firstRegister (controlByte first last))
        (last - first + 1)) (d.ctrl i).regs)).tick) := by
  rw [iReadRegBlock] at succeeds ⊢
  split_ifs at succeeds ⊢ with fails
  · exact absurd succeeds (failed_ne _)
  · rfl

theorem writeRegBlock_of_zero {i r : ℕ} {value : BitVec 8} (low : r ≤ iref)
    (succeeds : (iWriteRegBlock i r r (d.setReg i r value)).1 = 0) :
    iWriteRegBlock i r r (d.setReg i r value) = (0, (d.put i r value).tick) := by
  apply write_put _ low
  intro fails
  rw [← @config_setReg d i i r value] at fails
  rw [iWriteRegBlock] at succeeds
  split_ifs at succeeds with notReady
  · exact absurd succeeds (failed_ne _)
  · exact notReady fails

/-- The copy of the next controller is that of a chip after its reset. -/
structure Filled (config : XTlc59116Config) (d filled : Tlc59116) : Prop where
  config_ : (filled.ctrl d.nofCtrl).config = config
  regs : ∀ r < regBlockSize, (filled.ctrl d.nofCtrl).regs r = d.powerUp r
  others : ∀ j, j ≠ d.nofCtrl → filled.ctrl j = d.ctrl j
  chips : filled.chips = Function.update d.chips config.i2cBus fun _ => d.powerUp
  powerUp : filled.powerUp = d.powerUp
  leds : filled.leds = d.leds

/-- The controller is opened once its oscillator is started. -/
theorem Filled.opened {filled : Tlc59116} (named : config.i2cBus ≠ "")
    (isFilled : Filled config d filled) :
    Opened config d { tick (filled.put d.nofCtrl mode1
      ((filled.ctrl d.nofCtrl).regs mode1 &&& ~~~osc)) with nofCtrl := d.nofCtrl + 1 } := by
  have chip_eq : filled.chip d.nofCtrl = d.powerUp := by
    rw [chip, isFilled.config_, isFilled.chips, Function.update_self]
  refine ⟨named, rfl, ?_, ?_, ?_, ?_, isFilled.powerUp, isFilled.leds⟩
  · exact config_put.trans isFilled.config_
  · intro r inside
    have isCtrl := @put_ctrl filled d.nofCtrl d.nofCtrl mode1
      ((filled.ctrl d.nofCtrl).regs mode1 &&& ~~~osc)
    rw [if_pos rfl] at isCtrl
    refine (congrArg (fun ctrl => XTlc59116Ctrl.regs ctrl r) isCtrl).trans ?_
    change Function.update _ mode1 _ r = _
    rw [isFilled.regs mode1 (by decide), startedRegs, Function.update_apply,
      Function.update_apply, isFilled.regs r inside]
  · intro j other
    exact (put_ctrl.trans (if_neg other)).trans (isFilled.others j other)
  · intro bus addr
    refine (setChip_chips (d := filled.setReg d.nofCtrl mode1 _)).trans ?_
    rw [isFilled.config_, chip_eq, isFilled.regs mode1 (by decide)]
    change (if _ then startedRegs d.powerUp else filled.chips bus addr) = _
    rw [isFilled.chips]
    by_cases sameBus : bus = config.i2cBus
    · subst sameBus
      rw [Function.update_self, if_pos rfl]
      by_cases sameAddr : addr = config.i2cAddr
      · subst sameAddr
        rw [if_pos rfl, if_pos rfl]
      · rw [if_neg sameAddr, if_neg fun same => sameAddr (congrArg XTlc59116Config.i2cAddr same)]
    · rw [Function.update_of_ne sameBus, if_neg sameBus,
        if_neg fun same => sameBus (congrArg XTlc59116Config.i2cBus same)]

theorem opened_openLoop (succeeds : (openLoop (config :: configs) d).1 = 0) :
    ∃ d', openLoop (config :: configs) d = openLoop configs d' ∧ Opened config d d' := by
  rw [openLoop] at succeeds ⊢
  by_cases unnamed : config.i2cBus = ""
  · have absent : (iCheckCtrlPresence config d).1 ≠ 0 := fun present =>
      (checkCtrlPresence_of_zero present).2 unnamed
    simp [unnamed, absent] at succeeds
  simp only [ne_eq, unnamed, not_false_eq_true, if_true] at succeeds ⊢
  by_cases reset : (iSwReset config.i2cBus d).1 = 0
  swap
  · simp [reset] at succeeds
  simp only [swReset_of_zero reset, not_true_eq_false, if_false] at succeeds ⊢
  by_cases present : (iCheckCtrlPresence config (tick { d with
      chips := Function.update d.chips config.i2cBus fun _ => d.powerUp })).1 = 0
  swap
  · simp [present] at succeeds
  simp only [(checkCtrlPresence_of_zero present).1, not_true_eq_false, if_false] at succeeds ⊢
  generalize isCopied : ({ (tick (tick { d with
    chips := Function.update d.chips config.i2cBus fun _ => d.powerUp })) with
      ctrl := Function.update (tick (tick { d with
        chips := Function.update d.chips config.i2cBus fun _ => d.powerUp })).ctrl d.nofCtrl
        { (tick (tick { d with
          chips := Function.update d.chips config.i2cBus fun _ => d.powerUp })).ctrl d.nofCtrl with
            config := config } } : Tlc59116) = copied at succeeds ⊢
  have copiedCtrl : ∀ j, copied.ctrl j =
      if j = d.nofCtrl then ⟨config, (d.ctrl d.nofCtrl).regs⟩ else d.ctrl j := by
    intro j
    rw [← isCopied]
    exact Function.update_apply ..
  have copiedChips : copied.chips =
      Function.update d.chips config.i2cBus fun _ => d.powerUp := by rw [← isCopied]; rfl
  have copiedChip : copied.chip d.nofCtrl = d.powerUp := by
    rw [chip, copiedCtrl, if_pos rfl, copiedChips, Function.update_self]
  by_cases isRead : (iReadRegBlock d.nofCtrl mode1 eflag2 copied).1 = 0
  swap
  · simp [isRead] at succeeds
  simp only [readRegBlock_of_zero isRead, not_true_eq_false, if_false] at succeeds ⊢
  generalize isFilled : tick (copied.setRegs d.nofCtrl _) = filled at succeeds ⊢
  by_cases isStarted : (iWriteRegBlock d.nofCtrl mode1 mode1 (filled.setReg d.nofCtrl mode1
      ((filled.ctrl d.nofCtrl).regs mode1 &&& ~~~osc))).1 = 0
  swap
  · simp [isStarted] at succeeds
  simp only [writeRegBlock_of_zero (by decide) isStarted, not_true_eq_false, if_false]
  refine ⟨_, rfl, Filled.opened unnamed ⟨?_, ?_, ?_, ?_, ?_, ?_⟩⟩
  · rw [← isFilled]
    change (Function.update copied.ctrl d.nofCtrl _ d.nofCtrl).config = config
    rw [Function.update_self]
    exact congrArg XTlc59116Ctrl.config ((copiedCtrl d.nofCtrl).trans (if_pos rfl))
  · intro r inside
    rw [← isFilled, copiedChip]
    change (Function.update copied.ctrl d.nofCtrl _ d.nofCtrl).regs r = _
    rw [Function.update_self]
    change fillRegs mode1 (loadBlock (controlByte mode1 eflag2) d.powerUp mode1 31) _ r = _
    rw [fillRegs_loadBlock (by decide), if_pos ⟨Nat.zero_le r, inside⟩]
  · intro j other
    rw [← isFilled]
    exact (Function.update_of_ne other ..).trans ((copiedCtrl j).trans (if_neg other))
  · rw [← isFilled, ← isCopied]
    rfl
  · rw [← isFilled, ← isCopied]
    rfl
  · rw [← isFilled, ← isCopied]
    rfl

/-- The controllers of the list `done` have been opened. -/
structure Opening (done : List XTlc59116Config) (d : Tlc59116) : Prop where
  nofCtrl : d.nofCtrl = done.length
  leds : d.leds = []
  named : ∀ config ∈ done, config.i2cBus ≠ ""
  configs : ∀ (i : ℕ) (config : XTlc59116Config), done[i]? = some config →
    (d.ctrl i).config = config
  regs : ∀ i < done.length, ∀ r < regBlockSize, (d.ctrl i).regs r = startedRegs d.powerUp r
  -- the last controller of a bus: the others have been reset after they were started
  chips : ∀ (i : ℕ) (config : XTlc59116Config), done[i]? = some config →
    (∀ (j : ℕ) (later : XTlc59116Config), i < j → done[j]? = some later →
      later.i2cBus ≠ config.i2cBus) →
    ∀ addr, d.chips config.i2cBus addr =
      if addr = config.i2cAddr then startedRegs d.powerUp else d.powerUp

theorem Opening.step (opening : Opening done d) (opened : Opened config d d') :
    Opening (done ++ [config]) d' := by
  have atEnd : ∀ {i : ℕ} {other : XTlc59116Config}, (done ++ [config])[i]? = some other →
      done[i]? = some other ∧ i < done.length ∨ i = done.length ∧ other = config := by
    intro i other isAt
    rcases Nat.lt_or_ge i done.length with before | beyond
    · rw [List.getElem?_append_left before] at isAt
      exact Or.inl ⟨isAt, before⟩
    · rw [List.getElem?_append_right beyond, List.getElem?_singleton] at isAt
      by_cases last : i - done.length = 0
      · rw [if_pos last] at isAt
        injection isAt with same
        exact Or.inr ⟨by omega, same.symm⟩
      · rw [if_neg last] at isAt
        exact absurd isAt (by simp)
  refine ⟨?_, opened.leds.trans opening.leds, ?_, ?_, ?_, ?_⟩
  · rw [opened.nofCtrl, opening.nofCtrl, List.length_append, List.length_singleton]
  · intro other isConfig
    rcases List.mem_append.mp isConfig with before | last
    · exact opening.named other before
    · rw [List.mem_singleton.mp last]
      exact opened.named
  · intro i other isAt
    rcases atEnd isAt with ⟨isAt', before⟩ | ⟨rfl, rfl⟩
    · rw [opened.others i (by rw [opening.nofCtrl]; omega)]
      exact opening.configs i other isAt'
    · rw [← opening.nofCtrl]
      exact opened.config_
  · intro i inside r isReg
    rw [opened.powerUp]
    rw [List.length_append, List.length_singleton] at inside
    by_cases last : i = done.length
    · subst last
      rw [← opening.nofCtrl]
      exact opened.regs r isReg
    · rw [opened.others i (by rw [opening.nofCtrl]; exact last)]
      exact opening.regs i (by omega) r isReg
  · intro i other isAt isLast addr
    rw [opened.powerUp, opened.chips]
    rcases atEnd isAt with ⟨isAt', before⟩ | ⟨rfl, rfl⟩
    · have otherBus : other.i2cBus ≠ config.i2cBus := by
        have atLast : (done ++ [config])[done.length]? = some config := by simp
        exact fun same => isLast done.length config before atLast same.symm
      rw [if_neg otherBus]
      refine opening.chips i other isAt' (fun j later after isLater => ?_) addr
      have inside : j < done.length := (List.getElem?_eq_some_iff.mp isLater).1
      exact isLast j later after (by rw [List.getElem?_append_left inside]; exact isLater)
    · rw [if_pos rfl]

theorem opening_openLoop (opening : Opening done d)
    (succeeds : (openLoop configs d).1 = 0) :
    Opening (done ++ configs) (openLoop configs d).2 ∧
      (openLoop configs d).2.powerUp = d.powerUp := by
  induction configs generalizing done d with
  | nil => exact ⟨by rw [List.append_nil]; exact opening, rfl⟩
  | cons config configs ih =>
      rcases opened_openLoop succeeds with ⟨d', isOpen, opened⟩
      rw [isOpen] at succeeds ⊢
      rw [List.append_cons]
      rcases ih (opening.step opened) succeeds with ⟨opening', samePowerUp⟩
      exact ⟨opening', samePowerUp.trans opened.powerUp⟩

theorem opening_iOpen {opened : Tlc59116} (opens : iOpen configs d = (0, opened)) :
    Opening configs opened ∧ opened.powerUp = d.powerUp := by
  rw [iOpen] at opens
  split_ifs at opens with some_
  · have empty : Opening [] { d with
        ctrl := fun _ => ⟨⟨"", 0⟩, fun _ => 0⟩, nofCtrl := 0, leds := [] } :=
      ⟨rfl, rfl, fun _ isConfig => (nomatch isConfig), fun _ _ isAt => (nomatch isAt),
        fun _ inside => (nomatch inside), fun _ _ isAt => (nomatch isAt)⟩
    have opening := @opening_openLoop _ configs [] empty (by rw [opens])
    rw [opens, List.nil_append] at opening
    exact opening
  · injection opens with isMinus
    exact absurd isMinus (by decide)

/-- With a bus for each controller, the copies are those of the chips. -/
theorem Opening.sound (opening : Opening configs d)
    (distinct : (configs.map XTlc59116Config.i2cBus).Nodup)
    (noFaults : ∀ n, d.transfers ≤ n → d.faults n = false) : Sound d := by
  have isAt : ∀ i < d.nofCtrl, ∃ config, configs[i]? = some config := fun i inside =>
    ⟨_, List.getElem?_eq_getElem (opening.nofCtrl ▸ inside)⟩
  have same : ∀ (i j : ℕ) (config config' : XTlc59116Config), configs[i]? = some config →
      configs[j]? = some config' → config.i2cBus = config'.i2cBus → i = j := by
    intro i j config config' first second sameBus
    have inside := (List.getElem?_eq_some_iff.mp first).1
    apply (List.getElem?_inj (by rw [List.length_map]; exact inside) distinct).mp
    rw [List.getElem?_map, List.getElem?_map, first, second, Option.map_some, Option.map_some,
      sameBus]
  refine ⟨fun i inside => ?_, fun i inside j inside' sameConfig => ?_, noFaults,
    fun i inside r low => ?_⟩
  · rcases isAt i inside with ⟨config, isConfig⟩
    rw [opening.configs i config isConfig]
    exact opening.named config (List.mem_of_getElem? isConfig)
  · rcases isAt i inside with ⟨config, isConfig⟩
    rcases isAt j inside' with ⟨config', isConfig'⟩
    rw [opening.configs i config isConfig, opening.configs j config' isConfig'] at sameConfig
    exact same i j config config' isConfig isConfig' (congrArg _ sameConfig)
  · rcases isAt i inside with ⟨config, isConfig⟩
    have chips := opening.chips i config isConfig fun j later after isLater sameBus =>
      absurd (same j i later config isLater isConfig sameBus) (by omega)
    have isReg : r < regBlockSize := by
      rw [iref] at low
      change r < 31
      omega
    rw [opening.regs i (opening.nofCtrl ▸ inside) r isReg, chip,
      opening.configs i config isConfig, chips, if_pos rfl]

/-- The last controller of a bus. -/
theorem exists_last {j : ℕ} (isAt : configs[j]? = some config) :
    ∃ k last, configs[k]? = some last ∧ last.i2cBus = config.i2cBus ∧ j ≤ k ∧
      ∀ (l : ℕ) (later : XTlc59116Config), k < l → configs[l]? = some later →
        later.i2cBus ≠ last.i2cBus := by
  classical
  let OnBus : ℕ → Prop := fun k => ∃ last, configs[k]? = some last ∧ last.i2cBus = config.i2cBus
  have inside : ∀ {k : ℕ}, OnBus k → k ≤ configs.length := fun ⟨_, isAt, _⟩ =>
    (List.getElem?_eq_some_iff.mp isAt).1.le
  have onBus : OnBus j := ⟨config, isAt, rfl⟩
  rcases Nat.findGreatest_spec (inside onBus) onBus with ⟨last, isLast, sameBus⟩
  refine ⟨_, last, isLast, sameBus, Nat.le_findGreatest (inside onBus) onBus, ?_⟩
  intro l later after isLater again
  have onBus' : OnBus l := ⟨later, isLater, again.trans sameBus⟩
  exact Nat.findGreatest_is_greatest after (inside onBus') onBus'

end Opening

/-- Each LED shows its mode and color, the other outputs have the mode of the opening, and the
copies are those of the chips but for the error flags. -/
structure Independent (opened : Tlc59116) (leds : List Led) (d : Tlc59116) : Prop where
  shown : ∀ led ∈ leds, led.Shown opened d
  others : ∀ pin, opened.OnBoard pin → (∀ led ∈ leds, pin ∉ led.pins.pins) →
    d.ledout pin = opened.ledout pin
  copies : ∀ i < opened.nofCtrl, ∀ r < regBlockSize, r ≠ eflag1 → r ≠ eflag2 →
    (d.ctrl i).regs r = d.chip i r

theorem Shows.independent {opened d : Tlc59116} {leds : List Led} (board : Shows opened leds d) :
    Independent opened leds d where
  shown := board.shown
  others pin onBoard free := (board.others pin onBoard free).1
  copies i inside r isReg notFirst notSecond := by
    apply board.sound.copied i (board.nofCtrl ▸ inside)
    change r < 31 at isReg
    rw [eflag1] at notFirst
    rw [eflag2] at notSecond
    rw [iref]
    omega

/-- A chip that is shared: the copy of the one controller does not follow the other. -/
theorem not_copies_of_shared {opened : Tlc59116} {i k : ℕ} (inside : i < opened.nofCtrl)
    (other : k ≠ i) (same : (opened.ctrl k).config = (opened.ctrl i).config)
    (ready : ¬opened.Fails (opened.ctrl i).config.i2cBus) :
    ∃ gain d, run [.setGain i gain] opened = some d ∧ (d.ctrl k).regs iref ≠ d.chip k iref := by
  let value := (opened.ctrl k).regs iref + 1
  have gain : BitVec.ofInt 8 (value.toNat : ℤ) = value := by
    rw [BitVec.ofInt_natCast, BitVec.ofNat_toNat, BitVec.setWidth_eq]
  have known : 0 ≤ (i : ℤ) ∧ (i : ℤ) < opened.nofCtrl := by omega
  have written : iSetGain i value.toNat opened = (0, (opened.put i iref value).tick) := by
    rw [iSetGain, if_pos known, gain]
    exact write_put ready (le_refl _)
  refine ⟨value.toNat, (opened.put i iref value).tick, ?_, ?_⟩
  · change (some (iSetGain i value.toNat opened).2).bind _ = _
    rw [written]
    rfl
  · have isChip : (opened.put i iref value).tick.chip k iref = value := by
      change (opened.put i iref value).chip k iref = value
      rw [chip, config_put, same, put, setChip_chips, if_pos rfl, Function.update_self]
    have isCopy : ((opened.put i iref value).tick.ctrl k).regs iref =
        (opened.ctrl k).regs iref := by
      change ((opened.put i iref value).ctrl k).regs iref = _
      rw [put_ctrl, if_neg other]
    rw [isChip, isCopy]
    change (opened.ctrl k).regs iref ≠ (opened.ctrl k).regs iref + 1
    generalize (opened.ctrl k).regs iref = word
    revert word
    decide

/-- In every run the LEDs are independent, exactly when no two controllers are on one bus. -/
theorem independent_iff {configs : List XTlc59116Config} {d opened : Tlc59116}
    (opens : iOpen configs d = (0, opened)) (stopped : d.powerUp mode1 &&& osc ≠ 0)
    (noFaults : ∀ n, opened.transfers ≤ n → opened.faults n = false) :
    (∀ calls, FitAll opened.nofCtrl [] calls →
      ∃ d, run calls opened = some d ∧ Independent opened (applyAll [] calls) d) ↔
      (configs.map XTlc59116Config.i2cBus).Nodup := by
  rcases opening_iOpen opens with ⟨opening, samePowerUp⟩
  constructor
  · intro independent
    rw [List.nodup_iff_getElem?_ne_getElem?]
    intro i j before inside sameBus
    rw [List.length_map] at inside
    rw [List.getElem?_map, List.getElem?_map, List.getElem?_eq_getElem (by omega),
      List.getElem?_eq_getElem inside] at sameBus
    injection sameBus with sameBus
    have isAt : configs[i]? = some configs[i] := List.getElem?_eq_getElem (by omega)
    rcases exists_last (List.getElem?_eq_getElem inside) with
      ⟨k, last, isLast, sameBus', after, noLater⟩
    have insideLast : k < configs.length := (List.getElem?_eq_some_iff.mp isLast).1
    have insideFirst : i < opened.nofCtrl := by rw [opening.nofCtrl]; omega
    by_cases sameAddr : configs[i].i2cAddr = last.i2cAddr
    · have sameConfig : configs[i] = last := by
        rw [← sameBus] at sameBus'
        rcases isSame : configs[i] with ⟨bus, addr⟩
        rcases last with ⟨bus', addr'⟩
        rw [isSame] at sameBus' sameAddr
        rw [show bus' = bus from sameBus', show addr = addr' from sameAddr]
      have shared : (opened.ctrl k).config = (opened.ctrl i).config := by
        rw [opening.configs k last isLast, opening.configs i _ isAt, sameConfig]
      have ready : ¬opened.Fails (opened.ctrl i).config.i2cBus := by
        rintro (unnamed | faulty)
        · rw [opening.configs i _ isAt] at unnamed
          exact opening.named _ (List.getElem_mem _) unnamed
        · rw [noFaults _ (le_refl _)] at faulty
          exact Bool.false_ne_true faulty
      rcases not_copies_of_shared insideFirst (by omega) shared ready with
        ⟨gain, d', isRun, differs⟩
      rcases independent [.setGain i gain] ⟨trivial, trivial⟩ with ⟨d'', isRun', holds⟩
      rw [isRun] at isRun'
      injection isRun' with same
      subst same
      have insideLast' : k < opened.nofCtrl := by rw [opening.nofCtrl]; omega
      exact differs (holds.copies k insideLast' iref (by decide) (by decide) (by decide))
    · rcases independent [] trivial with ⟨d', isRun, holds⟩
      injection isRun with same
      subst same
      have copied := holds.copies i insideFirst mode1 (by decide) (by decide) (by decide)
      have chips := opening.chips k last isLast noLater configs[i].i2cAddr
      rw [opening.regs i (by omega) mode1 (by decide), chip, opening.configs i _ isAt, sameBus,
        ← sameBus', chips, if_neg sameAddr, startedRegs, Function.update_self,
        samePowerUp] at copied
      revert stopped copied
      generalize d.powerUp mode1 = word
      revert word
      decide
  · intro distinct calls fits
    rcases shows_run ((opening.sound distinct noFaults).shows opening.leds) fits with
      ⟨d', isRun, board⟩
    exact ⟨d', isRun, board.independent⟩

/-- Chips that have been powered up, and no driver yet. -/
def powered : Tlc59116 where
  ctrl _ := ⟨⟨"", 0⟩, fun _ => 0⟩
  nofCtrl := 0
  leds := []
  chips _ _ r := if r = mode1 then 0x11 else if r = subadr1 then 0xD2 else 0
  powerUp r := if r = mode1 then 0x11 else if r = subadr1 then 0xD2 else 0
  faults _ := false
  transfers := 0

/-- The oscillator of the first of two controllers of a bus is stopped by the reset before the
second, and its copy says that it runs. -/
theorem not_independent_shared :
    (iOpen [⟨"/dev/i2c-1", 0x60⟩, ⟨"/dev/i2c-1", 0x62⟩] powered).1 = 0 ∧
      ¬Independent (iOpen [⟨"/dev/i2c-1", 0x60⟩, ⟨"/dev/i2c-1", 0x62⟩] powered).2 []
        (iOpen [⟨"/dev/i2c-1", 0x60⟩, ⟨"/dev/i2c-1", 0x62⟩] powered).2 := by
  refine ⟨by decide +kernel, fun independent => ?_⟩
  have differs :
      ((iOpen [⟨"/dev/i2c-1", 0x60⟩, ⟨"/dev/i2c-1", 0x62⟩] powered).2.ctrl 0).regs mode1 ≠
      (iOpen [⟨"/dev/i2c-1", 0x60⟩, ⟨"/dev/i2c-1", 0x62⟩] powered).2.chip 0 mode1 := by
    decide +kernel
  exact differs (independent.copies 0 (by decide +kernel) mode1 (by decide) (by decide) (by decide))

/-- Two LEDs, the first with outputs of both controllers. -/
def apartCalls : List LedCall :=
  [.addLed .pwm ⟨⟨0, 0⟩, ⟨0, 1⟩, ⟨5, 1⟩⟩, .addLed .on ⟨⟨1, 0⟩, ⟨2, 0⟩, ⟨15, 0⟩⟩,
    .setColor 0 ⟨255, 0, 16⟩, .setMode 1 .full, .setDimmer 0 50, .setColor 1 ⟨1, 2, 3⟩,
    .setMode 0 .off]

theorem independent_apart :
    ∃ d, run apartCalls (iOpen [⟨"/dev/i2c-0", 0x60⟩, ⟨"/dev/i2c-1", 0x60⟩] powered).2 = some d ∧
      Independent (iOpen [⟨"/dev/i2c-0", 0x60⟩, ⟨"/dev/i2c-1", 0x60⟩] powered).2
        (applyAll [] apartCalls) d := by
  have opens : iOpen [⟨"/dev/i2c-0", 0x60⟩, ⟨"/dev/i2c-1", 0x60⟩] powered =
      (0, (iOpen [⟨"/dev/i2c-0", 0x60⟩, ⟨"/dev/i2c-1", 0x60⟩] powered).2) :=
    Prod.ext (by decide +kernel) rfl
  have noFaults : (iOpen [⟨"/dev/i2c-0", 0x60⟩, ⟨"/dev/i2c-1", 0x60⟩] powered).2.faults =
      fun _ => false := by rfl
  have two : (iOpen [⟨"/dev/i2c-0", 0x60⟩, ⟨"/dev/i2c-1", 0x60⟩] powered).2.nofCtrl = 2 := by
    decide +kernel
  apply (independent_iff opens (by decide) (fun n _ => by rw [noFaults])).mpr (by decide)
  rw [two]
  simp [apartCalls, FitAll, LedCall.Fits, LedCall.apply, XTlc59116Led.pins]

end Sysio.I2c.Tlc59116
