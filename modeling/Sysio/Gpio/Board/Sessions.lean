import Sysio.Gpio.Board.Descriptors

/-!
# Sessions on the boards

From the constructor on, whatever calls are made and whichever of them throw: where the GPIO is
open and releases on close, closing it leads back to the registers it was constructed with, as far
as they say what the pins are.
-/

namespace Sysio.Board

/-! ### The boards with the BCM2835 -/

namespace Bcm2835

theorem shown_injective {g : ℕ} {f f' : BitVec 3} (same : shown g f = shown g f') : f = f' := by
  have codes := code_shown (g := g) f
  rw [same, code_shown] at codes
  exact (Except.ok.inj codes).symm

theorem shown_one {g : ℕ} : shown g 1 = .modeOutput := by
  have noPwm : ¬(decode 1 = .modeAlt0 ∧ (g = 12 ∨ g = 13) ∨
      decode 1 = .modeAlt5 ∧ (g = 18 ∨ g = 19)) := by
    rintro (⟨isAlt, -⟩ | ⟨isAlt, -⟩)
    · exact absurd isAlt (by decide)
    · exact absurd isAlt (by decide)
  rw [shown, if_neg noPwm]
  decide

/-- Every pin of the microcontroller has its function again, also those on no connector. An output
has its level again where this has not been written while its mode was not kept. -/
theorem rpi_session_restores (board : RpiBoard) (regs : Bcm2835) (calls : List GpioCall)
    (isOpen : (Gpio.session device (Gpio.connectors board.descriptor) regs calls).isopen = true)
    (releases : (Gpio.session device (Gpio.connectors board.descriptor) regs calls).roc = true) :
    ∃ closed, Gpio.close device (Gpio.connectors board.descriptor)
        (Gpio.session device (Gpio.connectors board.descriptor) regs calls) = .ok () closed ∧
      (∀ g, Inside g → closed.regs.function g = regs.function g) ∧
      ∀ pin ∈ Gpio.pins (Gpio.connectors board.descriptor), pin.isGpio = true →
        WritesHeld device (Gpio.connectors board.descriptor) pin
          (Gpio.new (Gpio.connectors board.descriptor) regs) calls →
        regs.function pin.mcuNumber = 1 →
        closed.regs.level pin.mcuNumber = regs.level pin.mcuNumber := by
  rcases close_restores_all device_refines (rpi_described board) isOpen releases with
    ⟨closed, ran, others, restored⟩
  refine ⟨closed, ran, fun g isInside => ?_, fun pin isPin isGpio guard isOutput => ?_⟩
  · by_cases listed : ∃ pin ∈ Gpio.pins (Gpio.connectors board.descriptor),
        pin.isGpio = true ∧ pin.mcuNumber = g
    · rcases listed with ⟨pin, isPin, isGpio, rfl⟩
      exact shown_injective (restored pin isPin isGpio).1
    · have same : closed.regs.view g = regs.view g := by
        apply others g isInside
        exact fun pin isPin isGpio isNumber => listed ⟨pin, isPin, isGpio, isNumber⟩
      exact shown_injective (congrArg PinView.mode same)
  · apply (restored pin isPin isGpio).2.2 guard
    rw [view, isOutput]
    exact shown_one (g := pin.mcuNumber)

/-- All pins are inputs, except for the pin 17. -/
def pin17 : Bcm2835 :=
  ⟨false, fun offset => if offset = 1 then 1#32 <<< 21 else 0, fun _ => 0, fun _ => 0, 0,
    fun _ => 0⟩

theorem rpi_session_restores_pin17 :
    ∃ closed, Gpio.close device (Gpio.connectors RpiBoard.rpiRev1.descriptor)
        (Gpio.session device (Gpio.connectors RpiBoard.rpiRev1.descriptor) pin17
          [.openGpio true, .onNumber 0 (.setMode .modeInput), .onNumber 1 (.setMode .modePwm)]) =
        .ok () closed ∧
      (∀ g, Inside g → closed.regs.function g = pin17.function g) ∧
      ∀ pin ∈ Gpio.pins (Gpio.connectors RpiBoard.rpiRev1.descriptor), pin.isGpio = true →
        WritesHeld device (Gpio.connectors RpiBoard.rpiRev1.descriptor) pin
          (Gpio.new (Gpio.connectors RpiBoard.rpiRev1.descriptor) pin17)
          [.openGpio true, .onNumber 0 (.setMode .modeInput), .onNumber 1 (.setMode .modePwm)] →
        pin17.function pin.mcuNumber = 1 →
        closed.regs.level pin.mcuNumber = pin17.level pin.mcuNumber :=
  rpi_session_restores .rpiRev1 pin17
    [.openGpio true, .onNumber 0 (.setMode .modeInput), .onNumber 1 (.setMode .modePwm)]
    (by decide +kernel) (by decide +kernel)

end Bcm2835

/-! ### The boards with the H3 -/

namespace DeviceNanoPi

theorem shown_injective {g : ℕ} {f f' : BitVec 3} (same : shown g f = shown g f') : f = f' := by
  have codes := code_shown (g := g) f
  have widen : ∀ f f' : BitVec 3, f'.setWidth 4 = f.setWidth 4 → f = f' := by decide
  rw [same, code_shown] at codes
  exact widen f f' (Except.ok.inj codes)

theorem shownPull_injective {v v' : BitVec 2} (known : shownPull v' ≠ .pullUnknown)
    (same : shownPull v = shownPull v') : v = v' := by
  revert v v'
  decide

theorem shown_one {g : ℕ} : shown g 1 = .modeOutput := by
  have noPwm : ¬(decode 1 = .modeAlt3 ∧ (g = 5 ∨ g = 6) ∨ decode 1 = .modeAlt2 ∧ g = 104) := by
    rintro (⟨isAlt, -⟩ | ⟨isAlt, -⟩)
    · exact absurd isAlt (by decide)
    · exact absurd isAlt (by decide)
  rw [shown, if_neg noPwm]
  decide

/-- The highest bit of a field of the modes is none of its function, and 3 is reserved among the
pull resistors: it cannot be kept. -/
theorem nanoPi_session_restores (board : NanoPiBoard) (regs : DeviceNanoPi) (calls : List GpioCall)
    (isOpen : (Gpio.session device (Gpio.connectors board.descriptor) regs calls).isopen = true)
    (releases : (Gpio.session device (Gpio.connectors board.descriptor) regs calls).roc = true) :
    ∃ closed, Gpio.close device (Gpio.connectors board.descriptor)
        (Gpio.session device (Gpio.connectors board.descriptor) regs calls) = .ok () closed ∧
      (∀ g, Inside g →
        (closed.regs.field (place g)).setWidth 3 = (regs.field (place g)).setWidth 3 ∧
        (regs.resistor (place g) ≠ 3 →
          closed.regs.resistor (place g) = regs.resistor (place g))) ∧
      ∀ pin ∈ Gpio.pins (Gpio.connectors board.descriptor), pin.isGpio = true →
        WritesHeld device (Gpio.connectors board.descriptor) pin
          (Gpio.new (Gpio.connectors board.descriptor) regs) calls →
        (regs.field (place pin.mcuNumber)).setWidth 3 = 1#3 →
        closed.regs.level (place pin.mcuNumber) = regs.level (place pin.mcuNumber) := by
  have readable : ∀ v : BitVec 2, v ≠ 3 → shownPull v ≠ .pullUnknown := by decide
  rcases close_restores_all device_refines (nanoPi_described board) isOpen releases with
    ⟨closed, ran, others, restored⟩
  refine ⟨closed, ran, fun g isInside => ?_, fun pin isPin isGpio guard isOutput => ?_⟩
  · by_cases listed : ∃ pin ∈ Gpio.pins (Gpio.connectors board.descriptor),
        pin.isGpio = true ∧ pin.mcuNumber = g
    · rcases listed with ⟨pin, isPin, isGpio, rfl⟩
      rcases restored pin isPin isGpio with ⟨sameMode, samePull, -⟩
      refine ⟨shown_injective sameMode, fun known => ?_⟩
      exact shownPull_injective (readable _ known) (samePull (readable _ known))
    · have same : closed.regs.view g = regs.view g := by
        apply others g isInside
        exact fun pin isPin isGpio isNumber => listed ⟨pin, isPin, isGpio, isNumber⟩
      refine ⟨shown_injective (congrArg PinView.mode same), fun known => ?_⟩
      exact shownPull_injective (readable _ known) (congrArg PinView.pull same)
  · apply (restored pin isPin isGpio).2.2 guard
    rw [view, isOutput]
    exact shown_one (g := pin.mcuNumber)

/-- All pins are inputs, and their pull resistors are up. -/
def pulledUp : DeviceNanoPi :=
  ⟨false, fun _ => ⟨fun _ => 0, 0, fun _ => 0, fun _ => 0x55555555⟩⟩

theorem nanoPi_session_restores_pulledUp :
    ∃ closed, Gpio.close device (Gpio.connectors NanoPiBoard.nanoPiNeo.descriptor)
        (Gpio.session device (Gpio.connectors NanoPiBoard.nanoPiNeo.descriptor) pulledUp
          [.openGpio true, .onNumber 0 (.setMode .modeOutput), .onNumber 0 (.setPull .pullOff)]) =
        .ok () closed ∧
      (∀ g, Inside g →
        (closed.regs.field (place g)).setWidth 3 = (pulledUp.field (place g)).setWidth 3 ∧
        (pulledUp.resistor (place g) ≠ 3 →
          closed.regs.resistor (place g) = pulledUp.resistor (place g))) ∧
      ∀ pin ∈ Gpio.pins (Gpio.connectors NanoPiBoard.nanoPiNeo.descriptor), pin.isGpio = true →
        WritesHeld device (Gpio.connectors NanoPiBoard.nanoPiNeo.descriptor) pin
          (Gpio.new (Gpio.connectors NanoPiBoard.nanoPiNeo.descriptor) pulledUp)
          [.openGpio true, .onNumber 0 (.setMode .modeOutput), .onNumber 0 (.setPull .pullOff)] →
        (pulledUp.field (place pin.mcuNumber)).setWidth 3 = 1#3 →
        closed.regs.level (place pin.mcuNumber) = pulledUp.level (place pin.mcuNumber) :=
  nanoPi_session_restores .nanoPiNeo pulledUp
    [.openGpio true, .onNumber 0 (.setMode .modeOutput), .onNumber 0 (.setPull .pullOff)]
    (by decide +kernel) (by decide +kernel)

end DeviceNanoPi

end Sysio.Board
