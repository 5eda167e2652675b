import Mathlib.Data.List.Basic

/-!
# The devices of `gpio/gpiodevice.cpp`

What a pin can be asked for and told through its device, on registers of any kind. A device that
does what it is for keeps its pins apart: each has a mode, a pull resistor and a level of its own,
and `Refines` says of the operations that they work on those of their pin.
-/

namespace Sysio.Board

/-- The modes of a pin. -/
inductive PinMode where
  | modeInput
  | modeOutput
  | modeDisabled
  | modePwm
  | modeAlt0
  | modeAlt1
  | modeAlt2
  | modeAlt3
  | modeAlt4
  | modeAlt5
  | modeAlt6
  | modeAlt7
  | modeAlt8
  | modeAlt9
  | modeUnknown
deriving DecidableEq, Repr

/-- The pull resistors of a pin. -/
inductive PinPull where
  | pullOff
  | pullDown
  | pullUp
  | pullUnknown
deriving DecidableEq, Repr

/-- The exceptions; `undefined` is the behaviour of a function that ends without a result, or of
an access to registers that are not mapped. -/
inductive GpioThrow where
  | invalidArgument
  | outOfRange
  | systemError
  | undefined
deriving DecidableEq, Repr

/-- The virtual functions of a device, for a pin by its number for the microcontroller. Whether
the registers can be mapped is told to `openDevice`. -/
structure Device (Regs : Type) where
  hasPullRead : Bool
  hasToggle : Bool
  isOpen : Regs → Bool
  openDevice : Bool → Regs → Except GpioThrow Regs
  close : Regs → Regs
  mode : ℕ → Regs → Except GpioThrow PinMode
  setMode : ℕ → PinMode → Regs → Except GpioThrow Regs
  pull : ℕ → Regs → Except GpioThrow PinPull
  setPull : ℕ → PinPull → Regs → Except GpioThrow Regs
  write : ℕ → Bool → Regs → Except GpioThrow Regs
  read : ℕ → Regs → Except GpioThrow Bool
  toggle : ℕ → Regs → Except GpioThrow Regs

/-! ### Pins apart -/

/-- What a pin is, as far as its device can tell. -/
structure PinView where
  mode : PinMode
  pull : PinPull
  level : Bool
deriving DecidableEq, Repr

/-- The pins other than this one are as they were. -/
def OthersSame (inside : ℕ → Prop) (before after : ℕ → PinView) (g : ℕ) : Prop :=
  ∀ g', inside g' → g' ≠ g → after g' = before g'

/-- The device, opened, works on the pins one by one. What has been read as the mode of a pin can
be set, and is read again; a level that is written is that of an output. -/
structure Device.Refines {Regs : Type} (dev : Device Regs) (inside : ℕ → Prop)
    (view : Regs → ℕ → PinView) : Prop where
  opened : ∀ {maps regs next}, dev.openDevice maps regs = .ok next →
    dev.isOpen next = true ∧ view next = view regs
  closed : ∀ regs, view (dev.close regs) = view regs
  known : ∀ regs g, inside g → (view regs g).mode ≠ .modeUnknown
  unreadable : dev.hasPullRead = false → ∀ regs g, (view regs g).pull = .pullUnknown
  mode : ∀ {regs g}, dev.isOpen regs = true → inside g →
    dev.mode g regs = .ok (view regs g).mode
  setMode : ∀ {regs g m next}, dev.isOpen regs = true → inside g →
    dev.setMode g m regs = .ok next → dev.isOpen next = true ∧
      OthersSame inside (view regs) (view next) g ∧ (view next g).pull = (view regs g).pull
  setModeBack : ∀ {regs g} before, dev.isOpen regs = true → inside g →
    ∃ next, dev.setMode g (view before g).mode regs = .ok next ∧
      (view next g).mode = (view before g).mode
  pull : ∀ {regs g}, dev.isOpen regs = true → inside g →
    dev.pull g regs = .ok (view regs g).pull
  setPull : ∀ {regs g} p, dev.isOpen regs = true → inside g →
    ∃ next, dev.setPull g p regs = .ok next ∧ dev.isOpen next = true ∧
      OthersSame inside (view regs) (view next) g ∧ (view next g).mode = (view regs g).mode ∧
      (view next g).level = (view regs g).level ∧
      (dev.hasPullRead = true →
        (view next g).pull = if p = .pullUnknown then (view regs g).pull else p)
  write : ∀ {regs g} v, dev.isOpen regs = true → inside g →
    ∃ next, dev.write g v regs = .ok next ∧ dev.isOpen next = true ∧
      OthersSame inside (view regs) (view next) g ∧ (view next g).mode = (view regs g).mode ∧
      (view next g).pull = (view regs g).pull ∧
      ((view regs g).mode = .modeOutput → (view next g).level = v)
  read : ∀ {regs g}, dev.isOpen regs = true → inside g →
    dev.read g regs = .ok (view regs g).level
  toggle : ∀ {regs g}, dev.hasToggle = true → dev.isOpen regs = true → inside g →
    ∃ next, dev.toggle g regs = .ok next ∧ dev.isOpen next = true ∧
      OthersSame inside (view regs) (view next) g ∧ (view next g).mode = (view regs g).mode ∧
      (view next g).pull = (view regs g).pull ∧
      ((view regs g).mode = .modeOutput → (view next g).level = !(view regs g).level)

end Sysio.Board
