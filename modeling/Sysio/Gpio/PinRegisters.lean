import Sysio.Lib.Refinement
import Sysio.Gpio.Outputs
import Sysio.Gpio.Release
import Sysio.Gpio.Board.Bcm2835

/-!
# The registers behind the pins

`GpioWorld` keeps the modes and the levels of the pins of the microcontroller; `arch/arm/nanopi` and
`arch/arm/rpi` have them in registers. Whatever `gpio/gpio.c` asks of its pins for an output port,
the registers answer as the modes and levels do, pins of other modes being neither read nor written.
-/

namespace Sysio.Gpio

open Refinement

/-- What is asked of a pin of the microcontroller. -/
inductive ArchCall where
  | getMode (g : ℕ)
  | setOutput (g : ℕ)
  | write (g : ℕ) (bValue : Bool)
  | toggle (g : ℕ)
  | read (g : ℕ)

/-- What `GpioWorld` makes of it. -/
def archSpec (w : GpioWorld) : ArchCall → GpioWorld × ℤ
  | .getMode g => (w, w.mode g)
  | .setOutput g => (iArchGpioSetMode g eModeOutput w).swap
  | .write g bValue => (iArchGpioWrite g bValue w).swap
  | .toggle g => (iArchGpioToggle g w).swap
  | .read g => (w, iArchGpioRead g w)

/-- The pins are on the board, and levels are those of outputs. -/
def ArchAllowed (size : ℕ) (w : GpioWorld) : ArchCall → Prop
  | .getMode g | .setOutput g => g < size
  | .write g _ | .toggle g | .read g => g < size ∧ w.mode g = eModeOutput

/-- The registers have the modes and the levels. -/
def ShowsPins (size : ℕ) (mode : ℕ → ℤ) (level : ℕ → Bool) (w : GpioWorld) : Prop :=
  ∀ g < size, w.mode g = mode g ∧ w.level g = level g

section Shows

variable {size g : ℕ} {mode mode' : ℕ → ℤ} {level level' : ℕ → Bool} {w : GpioWorld}

theorem ShowsPins.setMode {eMode : ℤ} (shows_ : ShowsPins size mode level w)
    (modes : ∀ g' < size, mode' g' = if g' = g then eMode else mode g')
    (levels : ∀ g' < size, level' g' = level g') :
    ShowsPins size mode' level' (iArchGpioSetMode g eMode w).2 := by
  intro g' inside
  rcases shows_ g' inside with ⟨isMode, isLevel⟩
  refine ⟨?_, isLevel.trans (levels g' inside).symm⟩
  change Function.update w.mode g eMode g' = mode' g'
  rw [modes g' inside, Function.update_apply, isMode]
  exact if_congr Int.ofNat_inj rfl rfl

theorem ShowsPins.setLevel {v : Bool} (shows_ : ShowsPins size mode level w)
    (modes : ∀ g' < size, mode' g' = mode g')
    (levels : ∀ g' < size, level' g' = if g' = g then v else level g') :
    ShowsPins size mode' level' { w with level := Function.update w.level g v } := by
  intro g' inside
  rcases shows_ g' inside with ⟨isMode, isLevel⟩
  refine ⟨isMode.trans (modes g' inside).symm, ?_⟩
  change Function.update w.level g v g' = level' g'
  rw [levels g' inside, Function.update_apply, isLevel]
  exact if_congr Int.ofNat_inj rfl rfl

end Shows

/-! ### The NanoPi -/

namespace NanoPi

/-- The register of the levels is written. -/
def XGpio.setDat (gp : XGpio) (b : ℕ) (word : BitVec 32) : XGpio :=
  { gp with bank := Function.update gp.bank b { gp.bank b with dat := word } }

/-- The bit of the pin is set or cleared in the register read before. -/
def iArchGpioWrite (g : ℕ) (bValue : Bool) (gp : XGpio) : ℤ × XGpio :=
  match pxGetPinBank g with
  | some (b, f) =>
      (0, gp.setDat b (if bValue then (gp.bank b).dat ||| 1#32 <<< f
        else (gp.bank b).dat &&& ~~~(1#32 <<< f)))
  | none => (-1, gp)

/-- The bit of the pin. -/
def iArchGpioRead (g : ℕ) (gp : XGpio) : ℤ :=
  match pxGetPinBank g with
  | some (b, f) => (decide ((gp.bank b).dat &&& 1#32 <<< f ≠ 0)).toInt
  | none => -1

/-- The bit of the pin is flipped. -/
def iArchGpioToggle (g : ℕ) (gp : XGpio) : ℤ × XGpio :=
  match pxGetPinBank g with
  | some (b, f) => (0, gp.setDat b ((gp.bank b).dat ^^^ 1#32 <<< f))
  | none => (-1, gp)

/-- What the registers make of a call. -/
def archCall (gp : XGpio) : ArchCall → Except Empty (XGpio × ℤ)
  | .getMode g => .ok (gp, eArchGpioGetMode g gp)
  | .setOutput g => .ok (iArchGpioSetMode g eModeOutput gp).swap
  | .write g bValue => .ok (iArchGpioWrite g bValue gp).swap
  | .toggle g => .ok (iArchGpioToggle g gp).swap
  | .read g => .ok (gp, iArchGpioRead g gp)

/-- The bit of the pin in the DAT register of its bank. -/
def XGpio.datLevel (gp : XGpio) (g : ℕ) : Bool :=
  (pxGetPinBank g).elim false fun pin => (gp.bank pin.1).dat.getLsbD pin.2

/-- The registers of the NanoPi show these pins. -/
def Shows (gp : XGpio) (w : GpioWorld) : Prop :=
  ShowsPins gpioSize (fun g => eArchGpioGetMode g gp) gp.datLevel w

section Pins

variable {gp : XGpio} {g g' b f : ℕ}

theorem bit_lt (inside : g < gpioSize) (found : pxGetPinBank g = some (b, f)) : f < 32 := by
  have all : ∀ g < 106, ∀ pin ∈ pxGetPinBank g, pin.2 < 32 := by decide +kernel
  exact all g inside (b, f) found

theorem datLevel_eq (found : pxGetPinBank g = some (b, f)) :
    gp.datLevel g = (gp.bank b).dat.getLsbD f := by
  rw [XGpio.datLevel, found]
  rfl

theorem bank_setDat {word : BitVec 32} (b' : ℕ) : (gp.setDat b word).bank b' =
    { gp.bank b' with dat := if b' = b then word else (gp.bank b').dat } := by
  change Function.update gp.bank b _ b' = _
  by_cases here : b' = b
  · subst here
    rw [if_pos rfl, Function.update_self]
  · rw [if_neg here, Function.update_of_ne here]

theorem getMode_setDat {word : BitVec 32} :
    eArchGpioGetMode g' (gp.setDat b word) = eArchGpioGetMode g' gp := by
  rw [eArchGpioGetMode, eArchGpioGetMode]
  cases pxGetPinBank g' with
  | none => rfl
  | some pin =>
      dsimp only
      rw [bank_setDat]

/-- A word that differs in the bit of one pin changes the level of this pin. -/
theorem datLevel_setDat (inside : g < gpioSize) (found : pxGetPinBank g = some (b, f))
    {word : BitVec 32} {v : Bool}
    (bits : ∀ i < 32, word.getLsbD i = if i = f then v else (gp.bank b).dat.getLsbD i)
    (inside' : g' < gpioSize) :
    (gp.setDat b word).datLevel g' = if g' = g then v else gp.datLevel g' := by
  rcases exists_pinBank inside' with ⟨b', f', found'⟩
  rw [datLevel_eq found', datLevel_eq found', bank_setDat]
  by_cases here : b' = b
  · subst here
    have same : f' = f ↔ g' = g := by
      constructor
      · rintro rfl
        exact pinBank_injective inside' inside (found'.trans found.symm)
      · rintro rfl
        rw [found] at found'
        cases found'
        rfl
    rw [if_pos rfl, bits f' (bit_lt inside' found')]
    exact if_congr same rfl rfl
  · have other : g' ≠ g := by
      rintro rfl
      rw [found] at found'
      cases found'
      exact here rfl
    rw [if_neg here, if_neg other]

/-- The mode that is read has the lower three bits of the field. -/
theorem getMode_eq_field (found : pxGetPinBank g = some (b, f)) : eArchGpioGetMode g gp =
    ((gp.cfgField b (f / 8) (f % 8)).toNat % 8 : ℕ) := by
  have index : (f - f / 8 * 8) * 4 = 4 * (f % 8) := by omega
  have isField : (gp.cfgField b (f / 8) (f % 8)).toNat =
      (((gp.bank b).cfg (f / 8)).toNat >>> (4 * (f % 8))) % 16 := BitVec.extractLsb'_toNat ..
  rw [eArchGpioGetMode, found]
  simp only [index]
  rw [BitVec.toNat_and, BitVec.toNat_ushiftRight, isField]
  change ((_ &&& 2 ^ 3 - 1 : ℕ) : ℤ) = _
  rw [Nat.and_two_pow_sub_one_eq_mod]
  omega

theorem getMode_withMode (inside : g < gpioSize) (found : pxGetPinBank g = some (b, f))
    (inside' : g' < gpioSize) : eArchGpioGetMode g' (gp.withMode b f 1) =
      if g' = g then eModeOutput else eArchGpioGetMode g' gp := by
  by_cases same : g' = g
  · subst same
    rw [if_pos rfl, getMode_eq_field found, cfgField_withMode]
    rfl
  · rcases exists_pinBank inside' with ⟨b', f', found'⟩
    have spared : ¬IsCfgField g b' (f' / 8) (f' % 8) := fun isField =>
      same (cfgField_unique inside' inside ⟨f', found', rfl, rfl⟩ isField)
    rw [if_neg same, getMode_eq_field found', getMode_eq_field found',
      (onlyCfg_withMode found).cfg b' _ _ spared]

end Pins

/-- The step lemma. -/
theorem archCall_refines {gp : XGpio} {w : GpioWorld} {call : ArchCall} (shows_ : Shows gp w)
    (allowed : ArchAllowed gpioSize w call) :
    ∃ after, archCall gp call = .ok (after, (archSpec w call).2) ∧
      Shows after (archSpec w call).1 := by
  cases call with
  | getMode g =>
      refine ⟨gp, ?_, shows_⟩
      rw [archSpec, (shows_ g allowed).1]
      rfl
  | setOutput g =>
      rcases exists_pinBank allowed with ⟨b, f, found⟩
      rcases @setMode_cases gp g b f found eModeOutput with
        ⟨value, -, -, isValue, runs⟩ | ⟨refused, -⟩
      · cases isValue (by decide) (by decide)
        refine ⟨(gp.withMode b f 1).keepMode g eModeOutput, ?_, shows_.setMode ?_ ?_⟩
        · rw [archCall, runs]
          rfl
        · exact fun g' inside' => getMode_withMode allowed found inside'
        · intro g' inside'
          rcases exists_pinBank inside' with ⟨b', f', found'⟩
          rw [datLevel_eq found', datLevel_eq found']
          exact congrArg (·.getLsbD f') ((onlyCfg_withMode found).dat b')
      · exact absurd ⟨by decide, by decide⟩ refused
  | write g bValue =>
      rcases exists_pinBank allowed.1 with ⟨b, f, found⟩
      have runs : iArchGpioWrite g bValue gp =
          (0, gp.setDat b (putBit (gp.bank b).dat f bValue)) := by
        rw [iArchGpioWrite, found]
        rfl
      refine ⟨gp.setDat b (putBit (gp.bank b).dat f bValue), ?_, shows_.setLevel ?_ ?_⟩
      · rw [archCall, runs]
        rfl
      · exact fun g' _ => getMode_setDat
      · exact fun g' => datLevel_setDat allowed.1 found fun i inside => getLsbD_putBit inside
  | toggle g =>
      rcases exists_pinBank allowed.1 with ⟨b, f, found⟩
      have runs : iArchGpioToggle g gp = (0, gp.setDat b ((gp.bank b).dat ^^^ 1#32 <<< f)) := by
        rw [iArchGpioToggle, found]
      refine ⟨gp.setDat b ((gp.bank b).dat ^^^ 1#32 <<< f), ?_, shows_.setLevel ?_ ?_⟩
      · rw [archCall, runs]
        rfl
      · exact fun g' _ => getMode_setDat
      · have isLevel : w.level g = (gp.bank b).dat.getLsbD f :=
          (shows_ g allowed.1).2.trans (datLevel_eq found)
        intro g'
        rw [isLevel]
        apply datLevel_setDat allowed.1 found
        intro i inside
        rw [getLsbD_flip inside]
        by_cases same : i = f
        · simp [same]
        · simp [same]
  | read g =>
      rcases exists_pinBank allowed.1 with ⟨b, f, found⟩
      refine ⟨gp, ?_, shows_⟩
      rw [archCall, iArchGpioRead, found, archSpec, Sysio.Gpio.iArchGpioRead,
        (shows_ g allowed.1).2, datLevel_eq found]
      dsimp only
      rw [decide_and_bit]

theorem archRun_refines {gp : XGpio} {w : GpioWorld} (shows_ : Shows gp w) {calls : List ArchCall}
    (allowed : Allowed archSpec (ArchAllowed gpioSize) w calls) :
    ∃ after, run archCall gp calls = .ok (after, (abstractRun archSpec w calls).2) ∧
      Shows after (abstractRun archSpec w calls).1 :=
  @run_refines _ _ _ _ _ archCall archSpec (ArchAllowed gpioSize) Shows
    (fun _ _ _ => archCall_refines) gp w shows_ calls allowed

end NanoPi

/-! ### The Raspberry Pi -/

namespace Rpi

open Board Board.Bcm2835

/-- The pins of the BCM2835. -/
def gpioSize : ℕ := 54

/-- The three bits of the function of a pin. -/
def eArchGpioGetMode (g : ℕ) (io : Bcm2835) : ℤ :=
  (io.readReg (gfpsel0 + g / 10) >>> (g % 10 * 3) &&& 7).toNat

/-- `GPIO_INP` and `GPIO_OUT`, the case `eModeOutput` of `iArchGpioSetMode`. -/
def setOutput (g : ℕ) (io : Bcm2835) : ℤ × Bcm2835 :=
  let input := io.writeReg (gfpsel0 + g / 10)
    (io.readReg (gfpsel0 + g / 10) &&& ~~~(7#32 <<< (g % 10 * 3)))
  (0, input.writeReg (gfpsel0 + g / 10)
    (input.readReg (gfpsel0 + g / 10) ||| 1#32 <<< (g % 10 * 3)))

/-- A bit is written to the register that sets the pins, or to the one that clears them. -/
def iArchGpioWrite (g : ℕ) (bValue : Bool) (io : Bcm2835) : ℤ × Bcm2835 :=
  let puReg := if bValue then gpset0 else gpclr0
  (0, if 31 < g then io.writeReg (puReg + 1) (1#32 <<< (g - 32))
    else io.writeReg puReg (1#32 <<< g))

/-- The bit of the pin in the register of the levels. -/
def iArchGpioRead (g : ℕ) (io : Bcm2835) : ℤ :=
  (if 31 < g then decide (io.readReg (gplev0 + 1) &&& 1#32 <<< (g - 32) ≠ 0)
    else decide (io.readReg gplev0 &&& 1#32 <<< g ≠ 0)).toInt

/-- What is read is written back the other way. -/
def iArchGpioToggle (g : ℕ) (io : Bcm2835) : ℤ × Bcm2835 :=
  if iArchGpioRead g io < 0 then (-1, io)
  else if iArchGpioRead g io ≠ 0 then iArchGpioWrite g false io
  else iArchGpioWrite g true io

/-- What the registers make of a call. -/
def archCall (io : Bcm2835) : ArchCall → Except Empty (Bcm2835 × ℤ)
  | .getMode g => .ok (io, eArchGpioGetMode g io)
  | .setOutput g => .ok (setOutput g io).swap
  | .write g bValue => .ok (iArchGpioWrite g bValue io).swap
  | .toggle g => .ok (iArchGpioToggle g io).swap
  | .read g => .ok (io, iArchGpioRead g io)

/-- The level of a pin is the one that has been set for it: it is at the pin only of an output. -/
def Shows (io : Bcm2835) (w : GpioWorld) : Prop :=
  io.isopen = true ∧ ShowsPins gpioSize (fun g => (io.function g).toNat)
    (fun g => (io.out (g / 32)).getLsbD (g % 32)) w

section Pins

variable {io : Bcm2835} {g : ℕ}

theorem getMode_eq (inside : Inside g) :
    eArchGpioGetMode g io = ((io.function g).toNat : ℕ) := by
  have mask : (7 : BitVec 32) = (BitVec.allOnes 3).setWidth 32 := by decide
  have isNat : ((io.function g).setWidth 32).toNat = (io.function g).toNat :=
    BitVec.toNat_setWidth_of_le (by decide)
  rw [eArchGpioGetMode, readReg_gfpsel inside, Nat.mul_comm, mask, shiftRight_and_eq_getField,
    ← isNat]
  rfl

theorem setOutput_eq (inside : Inside g) : setOutput g io = (0, io.withFunction g 1) := by
  have mask : 7#32 = (BitVec.allOnes 3).setWidth 32 := by decide
  have one_ : 1#32 = (1#3).setWidth 32 := by decide
  rw [setOutput, readReg_gfpsel inside, writeReg_gfpsel inside, readReg_gfpsel inside,
    writeReg_gfpsel inside, withFunction, setField, clearField, mask, Nat.mul_comm]
  dsimp only
  rw [Function.update_self, Function.update_idem]
  rfl

theorem write_eq (isOpen : io.isopen = true) (inside : Inside g) (v : Bool) :
    iArchGpioWrite g v io = (0, io.withOut g v) := by
  have written := Bcm2835.write_eq isOpen inside v
  rw [Bcm2835.write, mapped_of_isopen isOpen] at written
  exact congrArg (0, ·) (Except.ok.inj written)

theorem read_eq (isOpen : io.isopen = true) (inside : Inside g) :
    iArchGpioRead g io = (io.level g).toInt := by
  have read_ := Bcm2835.read_eq isOpen inside
  rw [Bcm2835.read, mapped_of_isopen isOpen] at read_
  exact congrArg Bool.toInt (Except.ok.inj read_)

theorem toggle_eq (isOpen : io.isopen = true) (inside : Inside g) :
    iArchGpioToggle g io = (0, io.withOut g (!io.level g)) := by
  rw [iArchGpioToggle, read_eq isOpen inside]
  cases io.level g with
  | true => exact write_eq isOpen inside false
  | false => exact write_eq isOpen inside true

end Pins

/-- The step lemma. -/
theorem archCall_refines {io : Bcm2835} {w : GpioWorld} {call : ArchCall} (shows_ : Shows io w)
    (allowed : ArchAllowed gpioSize w call) :
    ∃ after, archCall io call = .ok (after, (archSpec w call).2) ∧
      Shows after (archSpec w call).1 := by
  rcases shows_ with ⟨isOpen, shows_⟩
  have isLevel : ∀ g < gpioSize, w.mode g = eModeOutput → w.level g = io.level g := by
    intro g inside isOutput
    rw [(shows_ g inside).1] at isOutput
    have isOne : io.function g = 1 := BitVec.eq_of_toNat_eq (Int.ofNat_inj.mp isOutput)
    rw [(shows_ g inside).2, level, if_pos isOne]
  cases call with
  | getMode g =>
      refine ⟨io, ?_, isOpen, shows_⟩
      rw [archCall, getMode_eq allowed, archSpec, (shows_ g allowed).1]
  | setOutput g =>
      refine ⟨io.withFunction g 1, ?_, isOpen, shows_.setMode ?_ fun _ _ => rfl⟩
      · rw [archCall, setOutput_eq allowed]
        rfl
      · intro g' _
        by_cases same : g' = g
        · rw [if_pos same, same, function_withFunction]
          rfl
        · rw [if_neg same, function_withFunction_of_ne same]
  | write g bValue =>
      refine ⟨io.withOut g bValue, ?_, isOpen, shows_.setLevel (fun _ _ => rfl) ?_⟩
      · rw [archCall, write_eq isOpen allowed.1]
        rfl
      · exact fun _ _ => getLsbD_withOut
  | toggle g =>
      refine ⟨io.withOut g (!io.level g), ?_, isOpen, ?_⟩
      · rw [archCall, toggle_eq isOpen allowed.1]
        rfl
      · change ShowsPins gpioSize _ _ { w with level := Function.update w.level g (!w.level g) }
        rw [isLevel g allowed.1 allowed.2]
        exact shows_.setLevel (fun _ _ => rfl) fun _ _ => getLsbD_withOut
  | read g =>
      refine ⟨io, ?_, isOpen, shows_⟩
      rw [archCall, read_eq isOpen allowed.1, archSpec, Sysio.Gpio.iArchGpioRead,
        isLevel g allowed.1 allowed.2]

theorem archRun_refines {io : Bcm2835} {w : GpioWorld} (shows_ : Shows io w)
    {calls : List ArchCall} (allowed : Allowed archSpec (ArchAllowed gpioSize) w calls) :
    ∃ after, run archCall io calls = .ok (after, (abstractRun archSpec w calls).2) ∧
      Shows after (abstractRun archSpec w calls).1 :=
  @run_refines _ _ _ _ _ archCall archSpec (ArchAllowed gpioSize) Shows
    (fun _ _ _ => archCall_refines) io w shows_ calls allowed

end Rpi

end Sysio.Gpio
