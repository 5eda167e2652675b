import Sysio.Gpio.Board.Runs
import Sysio.Gpio.Board.Bcm2835
import Sysio.Gpio.Board.NanoPiDevice
import Mathlib.Data.Int.Order.Basic

/-!
# The boards

The descriptors of the boards, of which the names of the pins are left out, and the connectors that
are made of them. A map is a list in the order of its keys. On every board the pins of the type
GPIO are apart, so that a session on it leaves them as they were.
-/

namespace Sysio.Board

open Throwing

/-- What is known of a connector of the board. -/
structure ConnectorDescriptor where
  number : ℤ
  rows : ℤ
  columns : ℤ
  pinNumber : ℤ → ℤ → ℤ → ℤ
  pin : List PinDescriptor

/-- The number of a pin, row after row. -/
def dilConnector (row column columns : ℤ) : ℤ := (row - 1) * columns + column

/-- The number of a pin in a single row. -/
def silConnector (row _column _columns : ℤ) : ℤ := row

section Maps

variable {α : Type}

/-- `map[key] = value`. -/
def mapAssign (key : α → ℤ) (value : α) : List α → List α
  | [] => [value]
  | entry :: map =>
      if key value < key entry then value :: entry :: map
      else if key value = key entry then value :: map
      else entry :: mapAssign key value map

end Maps

/-- The constructor. -/
def Connector.new (desc : ConnectorDescriptor) : Connector :=
  ⟨desc.number, desc.pin.foldl (fun map pin => mapAssign Pin.physicalNumber
    ⟨desc.number, desc.pinNumber pin.num.row pin.num.column desc.columns, pin⟩ map) []⟩

/-- The connectors that the constructor of a GPIO makes. -/
def Gpio.connectors (desc : List ConnectorDescriptor) : List Connector :=
  desc.foldl (fun map conn => mapAssign Connector.number (Connector.new conn) map) []

/-! ### The descriptors -/

/-- A GPIO with its three numbers, at a place. -/
def gpio (logical mcu system row column : ℤ) : PinDescriptor :=
  ⟨.typeGpio, ⟨logical, mcu, system, row, column⟩⟩

/-- Any other pin, at a place. -/
def other (type : PinType) (row column : ℤ) : PinDescriptor := ⟨type, ⟨-1, -1, -1, row, column⟩⟩

/-- The connectors of the NanoPi Neo. -/
def nanoPiNeo : List ConnectorDescriptor :=
  [⟨1, 12, 2, dilConnector, [other .typePower 1 1, other .typePower 1 2, gpio 8 12 12 2 1,
     other .typePower 2 2, gpio 9 11 11 3 1, other .typePower 3 2, gpio 7 91 203 4 1,
     gpio 15 86 198 4 2, other .typePower 5 1, gpio 16 87 199 5 2, gpio 0 0 0 6 1, gpio 1 6 6 6 2,
     gpio 2 2 2 7 1, other .typePower 7 2, gpio 3 3 3 8 1, gpio 4 88 200 8 2, other .typePower 9 1,
     gpio 5 89 201 9 2, gpio 12 22 64 10 1, other .typePower 10 2, gpio 13 23 65 11 1,
     gpio 6 1 1 11 2, gpio 14 24 66 12 1, gpio 10 25 67 12 2]⟩,
   ⟨2, 4, 1, silConnector, [other .typePower 1 1, other .typePower 2 1, gpio 17 4 4 3 1,
     gpio 18 5 5 4 1]⟩,
   ⟨3, 2, 1, silConnector, [gpio 19 10 10 1 1, gpio 32 104 362 2 1]⟩,
   ⟨4, 12, 1, silConnector, [other .typePower 1 1, other .typeUsb 2 1, other .typeUsb 3 1,
     other .typeUsb 4 1, other .typeUsb 5 1, gpio 20 105 363 6 1, gpio 11 17 17 7 1,
     gpio 31 18 18 8 1, gpio 30 19 19 9 1, gpio 21 20 20 10 1, gpio 22 21 21 11 1,
     other .typePower 12 1]⟩]

/-- The connectors of the NanoPi M1. -/
def nanoPiM1 : List ConnectorDescriptor :=
  [⟨1, 20, 2, dilConnector, [other .typePower 1 1, other .typePower 1 2, gpio 8 12 12 2 1,
     other .typePower 2 2, gpio 9 11 11 3 1, other .typePower 3 2, gpio 7 91 203 4 1,
     gpio 15 86 198 4 2, other .typePower 5 1, gpio 16 87 199 5 2, gpio 0 0 0 6 1, gpio 1 6 6 6 2,
     gpio 2 2 2 7 1, other .typePower 7 2, gpio 3 3 3 8 1, gpio 4 88 200 8 2, other .typePower 9 1,
     gpio 5 89 201 9 2, gpio 12 22 64 10 1, other .typePower 10 2, gpio 13 23 65 11 1,
     gpio 6 1 1 11 2, gpio 14 24 66 12 1, gpio 10 25 67 12 2, other .typePower 13 1,
     gpio 11 17 17 13 2, gpio 30 19 19 14 1, gpio 31 18 18 14 2, gpio 21 20 20 15 1,
     other .typePower 15 2, gpio 22 21 21 16 1, gpio 26 7 7 16 2, gpio 23 8 8 17 1,
     other .typePower 17 2, gpio 24 16 16 18 1, gpio 27 13 13 18 2, gpio 25 9 9 19 1,
     gpio 28 15 15 19 2, other .typePower 20 1, gpio 29 14 14 20 2]⟩,
   ⟨2, 4, 1, silConnector, [other .typePower 1 1, other .typePower 2 1, gpio 17 4 4 3 1,
     gpio 18 5 5 4 1]⟩,
   ⟨3, 2, 1, silConnector, [gpio 19 10 10 1 1, gpio 32 104 362 2 1, gpio 33 97 355 3 1,
     gpio 20 105 363 4 1]⟩]

/-- The connectors of the NanoPi M1 Plus. -/
def nanoPiM1Plus : List ConnectorDescriptor :=
  [⟨1, 20, 2, dilConnector, [other .typePower 1 1, other .typePower 1 2, gpio 8 12 12 2 1,
     other .typePower 2 2, gpio 9 11 11 3 1, other .typePower 3 2, gpio 7 91 203 4 1,
     gpio 15 86 198 4 2, other .typePower 5 1, gpio 16 87 199 5 2, gpio 0 0 0 6 1, gpio 1 6 6 6 2,
     gpio 2 2 2 7 1, other .typePower 7 2, gpio 3 3 3 8 1, gpio 4 88 200 8 2, other .typePower 9 1,
     gpio 5 89 201 9 2, gpio 12 22 64 10 1, other .typePower 10 2, gpio 13 23 65 11 1,
     gpio 6 1 1 11 2, gpio 14 24 66 12 1, gpio 10 25 67 12 2, other .typePower 13 1,
     gpio 11 17 17 13 2, gpio 30 19 19 14 1, gpio 31 18 18 14 2, gpio 21 20 20 15 1,
     other .typePower 15 2, gpio 22 21 21 16 1, other .typeNotConnected 16 2,
     other .typeNotConnected 17 1, other .typePower 17 2, other .typeNotConnected 18 1,
     other .typeNotConnected 18 2, gpio 25 9 9 19 1, other .typeNotConnected 19 2,
     other .typePower 20 1, other .typeNotConnected 20 2]⟩,
   ⟨2, 4, 1, silConnector, [other .typePower 1 1, other .typePower 2 1, gpio 17 4 4 3 1,
     gpio 18 5 5 4 1]⟩,
   ⟨3, 2, 1, silConnector, [gpio 19 10 10 1 1, gpio 32 104 362 2 1, gpio 33 97 355 3 1,
     gpio 20 105 363 4 1]⟩]

/-- The connectors of the first Raspberry Pi. -/
def rpiRev1 : List ConnectorDescriptor :=
  [⟨1, 13, 2, dilConnector, [other .typePower 1 1, other .typePower 1 2, gpio 8 0 0 2 1,
     other .typePower 2 2, gpio 9 1 1 3 1, other .typePower 3 2, gpio 7 4 4 4 1, gpio 15 14 14 4 2,
     other .typePower 5 1, gpio 16 15 15 5 2, gpio 0 17 17 6 1, gpio 1 18 18 6 2, gpio 2 21 21 7 1,
     other .typePower 7 2, gpio 3 22 22 8 1, gpio 4 23 23 8 2, other .typePower 9 1,
     gpio 5 24 24 9 2, gpio 12 10 10 10 1, other .typePower 10 2, gpio 13 9 9 11 1,
     gpio 6 25 25 11 2, gpio 14 11 11 12 1, gpio 10 8 8 12 2, other .typePower 13 1,
     gpio 11 7 7 13 2]⟩]

/-- The connectors of the second revision. -/
def rpiRev2 : List ConnectorDescriptor :=
  [⟨1, 23, 2, dilConnector, [other .typePower 1 1, other .typePower 1 2, gpio 8 2 2 2 1,
     other .typePower 2 2, gpio 9 3 3 3 1, other .typePower 3 2, gpio 7 4 4 4 1, gpio 15 14 14 4 2,
     other .typePower 5 1, gpio 16 15 15 5 2, gpio 0 17 17 6 1, gpio 1 18 18 6 2, gpio 2 27 27 7 1,
     other .typePower 7 2, gpio 3 22 22 8 1, gpio 4 23 23 8 2, other .typePower 9 1,
     gpio 5 24 24 9 2, gpio 12 10 10 10 1, other .typePower 10 2, gpio 13 9 9 11 1,
     gpio 6 25 25 11 2, gpio 14 11 11 12 1, gpio 10 8 8 12 2, other .typePower 13 1,
     gpio 11 7 7 13 2]⟩,
   ⟨2, 4, 2, dilConnector, [other .typePower 1 1, other .typePower 1 2, gpio 17 28 28 2 1,
     gpio 18 29 29 2 2, gpio 19 30 30 3 1, gpio 20 31 31 3 2, other .typePower 4 1,
     other .typePower 4 2]⟩]

/-- The connectors of the boards with 40 pins. -/
def rpiRev3 : List ConnectorDescriptor :=
  [⟨1, 20, 2, dilConnector, [other .typePower 1 1, other .typePower 1 2, gpio 8 2 2 2 1,
     other .typePower 2 2, gpio 9 3 3 3 1, other .typePower 3 2, gpio 7 4 4 4 1, gpio 15 14 14 4 2,
     other .typePower 5 1, gpio 16 15 15 5 2, gpio 0 17 17 6 1, gpio 1 18 18 6 2, gpio 2 27 27 7 1,
     other .typePower 7 2, gpio 3 22 22 8 1, gpio 4 23 23 8 2, other .typePower 9 1,
     gpio 5 24 24 9 2, gpio 12 10 10 10 1, other .typePower 10 2, gpio 13 9 9 11 1,
     gpio 6 25 25 11 2, gpio 14 11 11 12 1, gpio 10 8 8 12 2, other .typePower 13 1,
     gpio 11 7 7 13 2, gpio 30 0 0 14 1, gpio 31 1 1 14 2, gpio 21 5 5 15 1, other .typePower 15 2,
     gpio 22 6 6 16 1, gpio 26 12 12 16 2, gpio 23 13 13 17 1, other .typePower 17 2,
     gpio 24 19 19 18 1, gpio 27 16 16 18 2, gpio 25 26 26 19 1, gpio 28 20 20 19 2,
     other .typePower 20 1, gpio 29 21 21 20 2]⟩]

/-! ### The pins are apart -/

theorem described_of_nodup {connector : List Connector} {inside : ℕ → Prop}
    (pins : ∀ pin ∈ Gpio.pins connector, pin.isGpio = true → inside pin.mcuNumber)
    (apart : (((Gpio.pins connector).filter Pin.isGpio).map Pin.mcuNumber).Nodup)
    (numbers : (connector.map Connector.number).Nodup) : Described connector inside where
  inside := pins
  apart _ isPin _ isPin' isGpio isGpio' same :=
    List.inj_on_of_nodup_map apart (List.mem_filter.mpr ⟨isPin, isGpio⟩)
      (List.mem_filter.mpr ⟨isPin', isGpio'⟩) same
  numbers := numbers

/-- The boards with the BCM2835. -/
inductive RpiBoard where
  | rpiRev1
  | rpiRev2
  | rpiRev3
deriving DecidableEq, Repr

/-- The connectors of a Raspberry Pi. -/
def RpiBoard.descriptor : RpiBoard → List ConnectorDescriptor
  | .rpiRev1 => Board.rpiRev1
  | .rpiRev2 => Board.rpiRev2
  | .rpiRev3 => Board.rpiRev3

/-- The boards with the H3. -/
inductive NanoPiBoard where
  | nanoPiNeo
  | nanoPiM1
  | nanoPiM1Plus
deriving DecidableEq, Repr

/-- The connectors of a NanoPi. -/
def NanoPiBoard.descriptor : NanoPiBoard → List ConnectorDescriptor
  | .nanoPiNeo => Board.nanoPiNeo
  | .nanoPiM1 => Board.nanoPiM1
  | .nanoPiM1Plus => Board.nanoPiM1Plus

/-- The descriptor of a board, of either family. -/
def descriptorOf : RpiBoard ⊕ NanoPiBoard → List ConnectorDescriptor :=
  Sum.elim RpiBoard.descriptor NanoPiBoard.descriptor

theorem rpi_described (board : RpiBoard) :
    Described (Gpio.connectors board.descriptor) Bcm2835.Inside := by
  have pins : ∀ pin ∈ Gpio.pins (Gpio.connectors board.descriptor), pin.isGpio = true →
      pin.mcuNumber < 54 := by
    cases board <;> decide +kernel
  apply described_of_nodup pins
  · cases board <;> decide +kernel
  · cases board <;> decide +kernel

theorem nanoPi_described (board : NanoPiBoard) :
    Described (Gpio.connectors board.descriptor) DeviceNanoPi.Inside := by
  have pins : ∀ pin ∈ Gpio.pins (Gpio.connectors board.descriptor), pin.isGpio = true →
      pin.mcuNumber < Gpio.NanoPi.gpioSize := by
    cases board <;> decide +kernel
  apply described_of_nodup pins
  · cases board <;> decide +kernel
  · cases board <;> decide +kernel

end Sysio.Board
