import Sysio.Gpio.Board.Sessions
import Sysio.Lib.Refinement

/-!
# Outputs as Boolean variables

Open outputs are written, toggled and read as if each were a Boolean variable of its own, on any
device that keeps its pins apart: whether the device toggles a pin or the pin is read and written
makes no difference.
-/

namespace Sysio.Board

open Throwing Refinement

/-- What is done to the level of a pin. -/
inductive LevelCall where
  | write (value : Bool)
  | toggle
  | read
deriving DecidableEq, Repr

/-- What a program makes with a pin, with what has been read. -/
def LevelCall.run {Regs : Type} (dev : Device Regs) (pin : Pin) :
    LevelCall → GpioM Regs (Option Bool)
  | .write value => do
      pin.write dev value
      pure none
  | .toggle => do
      pin.toggle dev
      pure none
  | .read => do
      let v ← pin.read dev
      pure (some v)

/-- A call on a pin as a step of a run. -/
def levelCall {Regs : Type} (dev : Device Regs) (gpio : GpioState Regs) (made : Pin × LevelCall) :
    Except GpioThrow (GpioState Regs × Option Bool) :=
  match made.2.run dev made.1 gpio with
  | .ok reply after => .ok (after, reply)
  | .error e _ => .error e

/-- A Boolean variable: its next value, and what is read. -/
def LevelCall.next (level : Bool) : LevelCall → Bool × Option Bool
  | .write value => (value, none)
  | .toggle => (!level, none)
  | .read => (level, some level)

/-- A variable for each pin. -/
def assigned (level : Pin → Bool) (made : Pin × LevelCall) : (Pin → Bool) × Option Bool :=
  (Function.update level made.1 (made.2.next (level made.1)).1, (made.2.next (level made.1)).2)

/-- An open output with this level. -/
structure Driven (level : Bool) (state : PinState) (now : PinView) : Prop where
  isopen : state.isopen = true
  mode : now.mode = .modeOutput
  level : now.level = level

section Driven

variable {Regs : Type} {dev : Device Regs} {inside : ℕ → Prop} {view : Regs → ℕ → PinView}
  {pin : Pin} {start : GpioState Regs} {level : Bool} (refines : dev.Refines inside view)
  (isGpio : pin.isGpio = true) (isInside : inside pin.mcuNumber)
  (isOpen : dev.isOpen start.regs = true)

include isGpio in
theorem driven_whenOpen {body : GpioM Regs Unit} {after : Unit → GpioState Regs → Prop}
    (finishes : Finishes (On dev inside view pin start (Driven level)) body after) :
    Finishes (On dev inside view pin start (Driven level))
      (do
        let state ← getState pin
        whenever (state.isopen && pin.isGpio) body) after := by
  apply ensures_bind _ ensures_getState
  intro state
  apply ensures_of_fact (state.isopen = true)
  · rintro s ⟨-, isState, driven⟩
    exact isState ▸ driven.isopen
  intro open_
  rw [open_, isGpio]
  apply finishes.weaken
  · rintro s ⟨around, -, driven⟩
    exact ⟨around, driven⟩
  · exact fun _ _ reached => reached
  · exact fun _ _ impossible => impossible

include refines isGpio isInside isOpen

theorem write_drives (v : Bool) :
    Finishes (On dev inside view pin start (Driven level)) (pin.write dev v)
      (fun _ => On dev inside view pin start (Driven v)) := by
  apply driven_whenOpen isGpio
  apply (ensures_write refines isGpio isInside isOpen).weaken
  · exact fun _ held => held
  · rintro _ s ⟨around, before, driven, sameMode, -, isLevel⟩
    exact ⟨around, driven.isopen, sameMode.trans driven.mode, isLevel driven.mode⟩
  · exact fun _ _ impossible => impossible

theorem read_driven :
    Finishes (On dev inside view pin start (Driven level)) (pin.read dev)
      (fun v s => v = level ∧ On dev inside view pin start (Driven level) s) := by
  apply ensures_bind _ ensures_getState
  intro state
  apply ensures_of_fact (state.isopen = true)
  · rintro s ⟨-, isState, driven⟩
    exact isState ▸ driven.isopen
  intro open_
  rw [open_, isGpio]
  apply (ensures_ask PinView.level isOpen fun regs device => refines.read device isInside).weaken
  · exact fun _ held => held
  · rintro v s ⟨around, isLevel, -, driven⟩
    exact ⟨isLevel.trans driven.level, around, driven⟩
  · exact fun _ _ impossible => impossible

theorem toggle_drives :
    Finishes (On dev inside view pin start (Driven level)) (pin.toggle dev)
      (fun _ => On dev inside view pin start (Driven !level)) := by
  apply driven_whenOpen isGpio
  apply ensures_ite
  · intro hasToggle
    apply (ensures_toggle refines isGpio isInside isOpen hasToggle).weaken
    · exact fun _ held => held
    · rintro _ s ⟨around, before, driven, sameMode, -, isLevel⟩
      refine ⟨around, driven.isopen, sameMode.trans driven.mode, ?_⟩
      rw [isLevel driven.mode, driven.level]
    · exact fun _ _ impossible => impossible
  · intro _
    apply ensures_bind _ (read_driven refines isGpio isInside isOpen)
    intro v
    apply ensures_of_fact (v = level) fun _ held => held.1
    rintro rfl
    apply (write_drives refines isGpio isInside isOpen !v).weaken
    · exact fun _ held => held.2
    · exact fun _ _ reached => reached
    · exact fun _ _ impossible => impossible

theorem levelCall_drives (call : LevelCall) :
    Finishes (On dev inside view pin start (Driven level)) (call.run dev pin)
      (fun reply s => reply = (call.next level).2 ∧
        On dev inside view pin start (Driven (call.next level).1) s) := by
  cases call with
  | write value =>
      apply ensures_bind _ (write_drives refines isGpio isInside isOpen value)
      exact fun _ => ensures_pure fun _ on => ⟨rfl, on⟩
  | toggle =>
      apply ensures_bind _ (toggle_drives refines isGpio isInside isOpen)
      exact fun _ => ensures_pure fun _ on => ⟨rfl, on⟩
  | read =>
      apply ensures_bind _ (read_driven refines isGpio isInside isOpen)
      exact fun v => ensures_pure fun _ read => ⟨congrArg some read.1, read.2⟩

end Driven

/-! ### Runs -/

/-- The outputs are pins of the device, each once. -/
structure Outputs (inside : ℕ → Prop) (outputs : List Pin) : Prop where
  isGpio : ∀ pin ∈ outputs, pin.isGpio = true
  inside : ∀ pin ∈ outputs, inside pin.mcuNumber
  apart : ∀ pin ∈ outputs, ∀ pin' ∈ outputs, pin.mcuNumber = pin'.mcuNumber → pin = pin'

/-- The outputs are open and show the variables. -/
structure Shows {Regs : Type} (dev : Device Regs) (view : Regs → ℕ → PinView)
    (outputs : List Pin) (gpio : GpioState Regs) (level : Pin → Bool) : Prop where
  isOpen : dev.isOpen gpio.regs = true
  driven : ∀ pin ∈ outputs, Driven (level pin) (gpio.pin pin) (view gpio.regs pin.mcuNumber)

section Runs

variable {Regs : Type} {dev : Device Regs} {inside : ℕ → Prop} {view : Regs → ℕ → PinView}
  {outputs : List Pin} (refines : dev.Refines inside view) (isOutputs : Outputs inside outputs)

omit refines isOutputs in
theorem allowed_of_forall {level : Pin → Bool} {made : List (Pin × LevelCall)}
    (areOutputs : ∀ call ∈ made, call.1 ∈ outputs) :
    Allowed assigned (fun _ call => call.1 ∈ outputs) level made := by
  induction made generalizing level with
  | nil => trivial
  | cons call made ih =>
      exact ⟨areOutputs call List.mem_cons_self,
        ih fun call' isIn => areOutputs call' (List.mem_cons_of_mem _ isIn)⟩

include refines isOutputs

theorem levelCall_refines (gpio : GpioState Regs) (level : Pin → Bool) (made : Pin × LevelCall)
    (shows : Shows dev view outputs gpio level) (isOutput : made.1 ∈ outputs) :
    ∃ after, levelCall dev gpio made = .ok (after, (assigned level made).2) ∧
      Shows dev view outputs after (assigned level made).1 := by
  rcases made with ⟨pin, call⟩
  have isGpio := isOutputs.isGpio pin isOutput
  have isInside := isOutputs.inside pin isOutput
  rcases (levelCall_drives refines isGpio isInside shows.isOpen call).run
    ⟨around_refl, shows.driven pin isOutput⟩ with ⟨reply, after, ran, isReply, around, driven⟩
  refine ⟨after, ?_, around.device.trans shows.isOpen, fun p isIn => ?_⟩
  · rw [levelCall, ran, isReply]
    rfl
  · change Driven (Function.update level pin (call.next (level pin)).1 p) _ _
    by_cases same : p = pin
    · subst same
      rw [Function.update_self]
      exact driven
    · have apart : p.mcuNumber ≠ pin.mcuNumber := fun sameNumber =>
        same (isOutputs.apart p isIn pin isOutput sameNumber)
      rw [around.pins p same, around.views _ (isOutputs.inside p isIn) fun _ => apart,
        Function.update_of_ne same]
      exact shows.driven p isIn

/-- Outputs are variables. -/
theorem levels_refine {gpio : GpioState Regs} {level : Pin → Bool}
    (shows : Shows dev view outputs gpio level) {made : List (Pin × LevelCall)}
    (areOutputs : ∀ call ∈ made, call.1 ∈ outputs) :
    ∃ after, Refinement.run (levelCall dev) gpio made =
        .ok (after, (abstractRun assigned level made).2) ∧
      Shows dev view outputs after (abstractRun assigned level made).1 := by
  apply run_refines (levelCall_refines refines isOutputs) shows
  exact allowed_of_forall areOutputs

end Runs

/-! ### The boards -/

/-- The registers of a board. -/
def RegsOf : RpiBoard ⊕ NanoPiBoard → Type
  | .inl _ => Bcm2835
  | .inr _ => DeviceNanoPi

/-- The device of a board. -/
def deviceOf : (board : RpiBoard ⊕ NanoPiBoard) → Device (RegsOf board)
  | .inl _ => Bcm2835.device
  | .inr _ => DeviceNanoPi.device

/-- The pins of its peripheral. -/
def insideOf : RpiBoard ⊕ NanoPiBoard → ℕ → Prop
  | .inl _ => Bcm2835.Inside
  | .inr _ => DeviceNanoPi.Inside

/-- What is seen of its pins. -/
def viewOf : (board : RpiBoard ⊕ NanoPiBoard) → RegsOf board → ℕ → PinView
  | .inl _ => Bcm2835.view
  | .inr _ => DeviceNanoPi.view

theorem boards_refine (board : RpiBoard ⊕ NanoPiBoard) :
    (deviceOf board).Refines (insideOf board) (viewOf board) :=
  match board with
  | .inl _ => Bcm2835.device_refines
  | .inr _ => DeviceNanoPi.device_refines

theorem boards_described (board : RpiBoard ⊕ NanoPiBoard) :
    Described (Gpio.connectors (descriptorOf board)) (insideOf board) :=
  match board with
  | .inl rpi => rpi_described rpi
  | .inr nanoPi => nanoPi_described nanoPi

/-- On every board the open outputs are Boolean variables, for any sequence of calls of them. -/
theorem outputs_are_variables (board : RpiBoard ⊕ NanoPiBoard) {gpio : GpioState (RegsOf board)}
    {level : Pin → Bool} {outputs : List Pin}
    (arePins : ∀ pin ∈ outputs, pin ∈ Gpio.pins (Gpio.connectors (descriptorOf board)) ∧
      pin.isGpio = true)
    (shows : Shows (deviceOf board) (viewOf board) outputs gpio level)
    {made : List (Pin × LevelCall)} (areOutputs : ∀ call ∈ made, call.1 ∈ outputs) :
    ∃ after, Refinement.run (levelCall (deviceOf board)) gpio made =
        .ok (after, (abstractRun assigned level made).2) ∧
      Shows (deviceOf board) (viewOf board) outputs after (abstractRun assigned level made).1 := by
  have described := boards_described board
  apply levels_refine (boards_refine board) _ shows areOutputs
  refine ⟨fun pin isIn => (arePins pin isIn).2, fun pin isIn => ?_,
    fun pin isIn pin' isIn' same => ?_⟩
  · exact described.inside pin (arePins pin isIn).1 (arePins pin isIn).2
  · exact described.apart pin (arePins pin isIn).1 pin' (arePins pin' isIn').1
      (arePins pin isIn).2 (arePins pin' isIn').2 same

/-- Two pins of the first connector. -/
def twoOutputs : List Pin :=
  [⟨1, 11, gpio 0 0 0 6 1⟩, ⟨1, 13, gpio 2 2 2 7 1⟩]

/-- Two outputs of a NanoPi Neo. -/
def opened : GpioState DeviceNanoPi :=
  Gpio.session DeviceNanoPi.device (Gpio.connectors nanoPiNeo) DeviceNanoPi.pulledUp
    [.openGpio true, .onNumber 0 (.setMode .modeOutput), .onNumber 2 (.setMode .modeOutput)]

theorem twoOutputs_are_variables :
    ∃ after, Refinement.run (levelCall DeviceNanoPi.device) opened
        (twoOutputs.flatMap fun pin => [(pin, .toggle), (pin, .read)]) =
        .ok (after, [none, some true, none, some true]) ∧
      Shows DeviceNanoPi.device DeviceNanoPi.view twoOutputs after
        (abstractRun assigned (fun _ => false)
          (twoOutputs.flatMap fun pin => [(pin, .toggle), (pin, .read)])).1 := by
  have shows : Shows DeviceNanoPi.device DeviceNanoPi.view twoOutputs opened fun _ => false := by
    refine ⟨by decide +kernel, fun pin isOutput => ⟨?_, ?_, ?_⟩⟩
    · revert pin
      decide +kernel
    · revert pin
      decide +kernel
    · revert pin
      decide +kernel
  exact outputs_are_variables (.inr .nanoPiNeo) (by decide +kernel) shows (by decide +kernel)

end Sysio.Board
