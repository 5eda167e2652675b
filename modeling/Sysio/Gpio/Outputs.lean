import Sysio.Gpio.Numbering
import Mathlib.Data.List.Nodup
import Mathlib.Logic.Function.Basic

/-!
# The output port of `gpio/doutput.c`

A port writes all of its pins at once by a mask with the bit `1 << num` for the pin number `num`.
The mask is an `int`, extended to 64 bits by `iGpioWriteAll` and `iGpioToggleAll` of
`gpio/gpio.c`, which look at the pins one after the other. Of the part that is specific to the
board, the modes and the levels of the pins are kept; `Sysio.Gpio.PinRegisters` leads them back to
the registers of the boards.
-/

namespace Sysio.Gpio

def eModeOutput : ℤ := 1

/-- The modes and levels are those of the pins of the microcontroller. -/
structure GpioWorld where
  gp : XGpio
  isOpen : Bool
  mode : ℤ → ℤ
  level : ℤ → Bool

/-! ### The pins -/

/-- The mode of a pin of the microcontroller. -/
def iArchGpioSetMode (g eMode : ℤ) (w : GpioWorld) : ℤ × GpioWorld :=
  (0, { w with mode := Function.update w.mode g eMode })

/-- Its level. -/
def iArchGpioWrite (g : ℤ) (bValue : Bool) (w : GpioWorld) : ℤ × GpioWorld :=
  (0, { w with level := Function.update w.level g bValue })

/-- The other level. -/
def iArchGpioToggle (g : ℤ) (w : GpioWorld) : ℤ × GpioWorld :=
  (0, { w with level := Function.update w.level g (!w.level g) })

/-- Its level as an `int`. -/
def iArchGpioRead (g : ℤ) (w : GpioWorld) : ℤ := (w.level g).toInt

/-- The mode of a pin by its number. -/
def iGpioSetMode (p eMode : ℤ) (w : GpioWorld) : ℤ × GpioWorld :=
  let g := iGpioMcuPin p w.gp
  if 0 ≤ g then iArchGpioSetMode g eMode w else (-1, w)

/-- The mode of a pin, or -1. -/
def eGpioGetMode (p : ℤ) (w : GpioWorld) : ℤ :=
  let g := iGpioMcuPin p w.gp
  if 0 ≤ g then w.mode g else -1

/-- The level of a pin by its number. -/
def iGpioWrite (bValue : Bool) (p : ℤ) (w : GpioWorld) : ℤ × GpioWorld :=
  let g := iGpioMcuPin p w.gp
  if 0 ≤ g then iArchGpioWrite g bValue w else (-1, w)

/-- The other level of a pin by its number. -/
def iGpioToggle (p : ℤ) (w : GpioWorld) : ℤ × GpioWorld :=
  let g := iGpioMcuPin p w.gp
  if 0 ≤ g then iArchGpioToggle g w else (-1, w)

/-- The level of a pin, or -1. -/
def iGpioRead (p : ℤ) (w : GpioWorld) : ℤ :=
  let g := iGpioMcuPin p w.gp
  if 0 ≤ g then iArchGpioRead g w else -1

/-! ### All pins of a mask -/

/-- The number at which the loops over the pins end. -/
def XGpio.scanned (gp : XGpio) : ℕ :=
  match gp.list with
  | some list => (list.size + if gp.numbering = .eNumberingPhysical then 1 else 0).toNat
  | none => 0

/-- The loop of `iGpioWriteAll` and `iGpioToggleAll`, from the pin `p` on. -/
def gpioMaskLoop (act : ℤ → GpioWorld → ℤ × GpioWorld) :
    ℕ → ℕ → BitVec 64 → GpioWorld → ℤ × GpioWorld
  | 0, _, _, w => (0, w)
  | left + 1, p, iMask, w =>
      if iMask = 0 then (0, w)
      else if bGpioIsValid p w.gp ∧ iMask.getLsbD 0 ∧ eGpioGetMode p w = eModeOutput then
        let ret := act p w
        if ret.1 ≠ 0 then ret
        else gpioMaskLoop act left (p + 1) (iMask.sshiftRight 1) ret.2
      else gpioMaskLoop act left (p + 1) (iMask.sshiftRight 1) w

/-- All outputs of the mask get the level. -/
def iGpioWriteAll (iMask : BitVec 64) (bValue : Bool) (w : GpioWorld) : ℤ × GpioWorld :=
  if w.isOpen then gpioMaskLoop (iGpioWrite bValue) w.gp.scanned 0 iMask w else (-1, w)

/-- All outputs of the mask get their other level. -/
def iGpioToggleAll (iMask : BitVec 64) (w : GpioWorld) : ℤ × GpioWorld :=
  if w.isOpen then gpioMaskLoop iGpioToggle w.gp.scanned 0 iMask w else (-1, w)

/-! ### The port -/

/-- A pin of the port, and the level at which it is active. -/
structure XDout where
  num : ℤ
  act : Bool
deriving DecidableEq, Repr

/-- The pins of a port; those active high are in `setMask`, the others in `clrMask`. -/
structure XDoutPort where
  pins : List XDout
  setMask : BitVec 32
  clrMask : BitVec 32

/-- All pins are made active. -/
def iDoutSetAll (port : XDoutPort) (w : GpioWorld) : ℤ × GpioWorld :=
  let set := iGpioWriteAll (port.setMask.signExtend 64) true w
  if set.1 = 0 then iGpioWriteAll (port.clrMask.signExtend 64) false set.2 else (-1, set.2)

/-- No pin is left active. -/
def iDoutClearAll (port : XDoutPort) (w : GpioWorld) : ℤ × GpioWorld :=
  let clear := iGpioWriteAll (port.setMask.signExtend 64) false w
  if clear.1 = 0 then iGpioWriteAll (port.clrMask.signExtend 64) true clear.2 else (-1, clear.2)

/-- All pins get their other level. -/
def iDoutToggleAll (port : XDoutPort) (w : GpioWorld) : ℤ × GpioWorld :=
  iGpioToggleAll ((port.clrMask ||| port.setMask).signExtend 64) w

/-- The pin is active. -/
def iDoutRead (pin : XDout) (w : GpioWorld) : Bool :=
  decide (iGpioRead pin.num w = pin.act.toInt)

/-- The loop of `iDoutReadAll` from the pin `i` on. -/
def doutReadFrom (w : GpioWorld) : ℕ → BitVec 32 → List XDout → BitVec 32
  | _, mask, [] => mask
  | i, mask, pin :: pins =>
      doutReadFrom w (i + 1) (if iDoutRead pin w then mask ||| 1#32 <<< i else mask) pins

/-- A bit for each pin that is active. -/
def iDoutReadAll (port : XDoutPort) (w : GpioWorld) : ℤ := (doutReadFrom w 0 0 port.pins).toInt

/-- `1 << num` is undefined for a number that is negative or not below the width of an `int`. -/
def shiftedOne (num : ℤ) : Option (BitVec 32) :=
  if 0 ≤ num ∧ num < 32 then some (1#32 <<< num.toNat) else none

/-- How opening a port ends. -/
inductive DoutOpened where
  | opened (port : XDoutPort) (w : GpioWorld)
  | refused
  | undefined

/-- The loop of `xDoutOpen`; `port` has the pins and the masks of those before. -/
def doutOpenFrom (port : XDoutPort) : List XDout → GpioWorld → DoutOpened
  | [], w =>
      let cleared := iDoutClearAll port w
      if cleared.1 = 0 then .opened port cleared.2 else .refused
  | pin :: pins, w =>
      let set := iGpioSetMode pin.num eModeOutput w
      if set.1 ≠ 0 then .refused
      else
        match shiftedOne pin.num with
        | some bit =>
            doutOpenFrom
              (if pin.act then { port with setMask := port.setMask ||| bit }
                else { port with clrMask := port.clrMask ||| bit }) pins set.2
        | none => .undefined

/-- `w` is the GPIO as `xGpioOpen` has returned it. -/
def xDoutOpen (pins : List XDout) (w : GpioWorld) : DoutOpened :=
  if pins = [] then .refused else doutOpenFrom ⟨pins, 0, 0⟩ pins w

/-! ### The bits of the masks -/

/-- The bit that the loops find at the pin `p`. -/
def maskBit (iMask : BitVec 64) (p : ℕ) : Bool := (iMask.sshiftRight p).getLsbD 0

/-- From the pin 31 on they find the sign of the `int`. -/
theorem maskBit_signExtend {mask : BitVec 32} {p : ℕ} :
    maskBit (mask.signExtend 64) p = mask.getLsbD (min p 31) := by
  have isSign : mask.msb = mask.getLsbD 31 := BitVec.msb_eq_getLsbD_last mask
  rw [maskBit, BitVec.getLsbD_sshiftRight, Nat.add_zero, BitVec.msb_signExtend,
    BitVec.getLsbD_signExtend]
  by_cases small : p < 32
  · have isSelf : min p 31 = p := by omega
    have inside : p < 64 := by omega
    simp [small, inside, isSelf]
  · have isLast : min p 31 = 31 := by omega
    by_cases inside : p < 64
    · simp [small, inside, isLast, isSign]
    · simp [inside, isLast, isSign]

theorem maskBit_of_zero {iMask : BitVec 64} {p q : ℕ} (later : p ≤ q)
    (zero : iMask.sshiftRight p = 0) : maskBit iMask q = false := by
  have split : q = p + (q - p) := by omega
  rw [maskBit, split, BitVec.sshiftRight_add, zero]
  change ((0#64).sshiftRight (q - p)).getLsbD 0 = false
  rw [BitVec.zero_sshiftRight, BitVec.getLsbD_zero]

/-- The bit of a pin number is in the mask that is built from others. -/
theorem getLsbD_or_bit {mask : BitVec 32} {num i : ℕ} (inside : num < 32) :
    (mask ||| 1#32 <<< num).getLsbD i = true ↔ mask.getLsbD i = true ∨ i = num := by
  rw [BitVec.getLsbD_or, BitVec.getLsbD_shiftLeft, BitVec.getLsbD_one]
  by_cases same : i = num
  · simp [same, inside]
  · have other : ¬(¬i < num ∧ i - num = 0) := by omega
    simp only [same, or_false]
    simp
    omega

/-! ### What the loops do -/

/-- The pins of the list, none of which has two numbers. -/
structure XGpio.WellListed (gp : XGpio) : Prop where
  lists : ∃ list, gp.list = some list ∧ 0 ≤ list.first ∧ list.last < list.size
  oneToOne : ∀ p q : ℕ, p < gp.scanned → q < gp.scanned → bGpioIsValid p gp = true →
    iGpioMcuPin p gp = iGpioMcuPin q gp → p = q

theorem XGpio.WellListed.scans {gp : XGpio} (well : gp.WellListed) {p : ℤ}
    (valid : bGpioIsValid p gp = true) (low : p ≤ 100) : 0 ≤ p ∧ p.toNat < gp.scanned := by
  rcases well.lists with ⟨list, isList, first, last⟩
  have isPin := of_decide_eq_true valid
  rw [iGpioMcuPin, isList] at isPin
  rw [XGpio.scanned, isList]
  by_cases physical : gp.numbering = .eNumberingPhysical
  · simp only [if_pos physical, if_neg (Int.not_lt.mpr low)] at isPin ⊢
    have within : ¬(p - 1 < list.first ∨ list.last < p - 1) := fun beyond => by
      rw [entry_of_beyond beyond] at isPin
      exact absurd isPin (by decide)
    omega
  · simp only [if_neg physical] at isPin ⊢
    have within : ¬(p < list.first ∨ list.last < p) := fun beyond => by
      rw [entry_of_beyond beyond] at isPin
      exact absurd isPin (by decide)
    omega

/-- The loops act on this pin. -/
def GpioWorld.Touches (w : GpioWorld) (iMask : BitVec 64) (q : ℕ) : Prop :=
  bGpioIsValid q w.gp = true ∧ maskBit iMask q = true ∧ eGpioGetMode q w = eModeOutput

/-- Only levels have changed: those of the pins acted on, by `f`. -/
def GpioWorld.Changed (w : GpioWorld) (f : Bool → Bool) (Acted : ℕ → Prop) (w' : GpioWorld) :
    Prop :=
  ∃ level, w' = { w with level := level } ∧
    (∀ q, Acted q → level (iGpioMcuPin q w.gp) = f (w.level (iGpioMcuPin q w.gp))) ∧
    ∀ g, (∀ q, Acted q → iGpioMcuPin q w.gp ≠ g) → level g = w.level g

/-- The level of one pin is changed. -/
def GpioWorld.alter (w : GpioWorld) (f : Bool → Bool) (g : ℤ) : GpioWorld :=
  { w with level := Function.update w.level g (f (w.level g)) }

/-- A function that changes the level of its pin by `f`. -/
def ChangesBy (f : Bool → Bool) (act : ℤ → GpioWorld → ℤ × GpioWorld) : Prop :=
  ∀ p w, bGpioIsValid p w.gp = true → act p w = (0, w.alter f (iGpioMcuPin p w.gp))

theorem write_changesBy (bValue : Bool) : ChangesBy (fun _ => bValue) (iGpioWrite bValue) := by
  intro p w valid
  exact if_pos (of_decide_eq_true valid)

theorem toggle_changesBy : ChangesBy (!·) iGpioToggle := by
  intro p w valid
  exact if_pos (of_decide_eq_true valid)

theorem changed_maskLoop {f : Bool → Bool} {act : ℤ → GpioWorld → ℤ × GpioWorld}
    (changes : ChangesBy f act) (iMask : BitVec 64) (left p : ℕ) {w : GpioWorld}
    (well : w.gp.WellListed) (fits : p + left ≤ w.gp.scanned) :
    ∃ w', gpioMaskLoop act left p (iMask.sshiftRight p) w = (0, w') ∧
      w.Changed f (fun q => p ≤ q ∧ q < p + left ∧ w.Touches iMask q) w' := by
  induction left generalizing p w with
  | zero =>
      refine ⟨w, rfl, w.level, rfl, fun q acted => ?_, fun g _ => rfl⟩
      omega
  | succ left later =>
      rw [gpioMaskLoop]
      by_cases zero : iMask.sshiftRight p = 0
      · rw [if_pos zero]
        refine ⟨w, rfl, w.level, rfl, ?_, fun g _ => rfl⟩
        rintro q ⟨from_, -, -, bit, -⟩
        rw [maskBit_of_zero from_ zero] at bit
        cases bit
      · rw [if_neg zero, ← BitVec.sshiftRight_add]
        by_cases touches : bGpioIsValid p w.gp ∧ (iMask.sshiftRight p).getLsbD 0 ∧
            eGpioGetMode p w = eModeOutput
        · rw [if_pos touches, changes p w touches.1]
          have fits' : p + 1 + left ≤ w.gp.scanned := by omega
          have altered : (w.alter f (iGpioMcuPin p w.gp)).gp.WellListed := well
          rcases later (p + 1) altered fits' with ⟨w', runs, level, rfl, acted, spared⟩
          refine ⟨_, runs, level, rfl, ?_, ?_⟩
          · rintro q ⟨from_, below, touched⟩
            rcases Nat.lt_or_eq_of_le from_ with after | rfl
            · have other : iGpioMcuPin q w.gp ≠ iGpioMcuPin p w.gp := fun same => by
                have isSame := well.oneToOne q p (by omega) (by omega) touched.1 same
                omega
              have changed := acted q ⟨after, by omega, touched⟩
              change level (iGpioMcuPin q w.gp) =
                f (Function.update w.level _ _ (iGpioMcuPin q w.gp)) at changed
              rwa [Function.update_of_ne other] at changed
            · have once : ∀ q, p + 1 ≤ q ∧ q < p + 1 + left ∧
                  w.Touches iMask q → iGpioMcuPin q w.gp ≠ iGpioMcuPin p w.gp := by
                rintro q ⟨after, below', touched'⟩ same
                have isSame := well.oneToOne q p (by omega) (by omega) touched'.1 same
                omega
              have kept := spared (iGpioMcuPin p w.gp) once
              change level (iGpioMcuPin p w.gp) = Function.update w.level _ _ _ at kept
              rw [kept, Function.update_self]
          · intro g others
            have kept := spared g fun q inside => others q ⟨by omega, by omega, inside.2.2⟩
            change level g = Function.update w.level _ _ g at kept
            have notHere := others p ⟨le_refl p, by omega, touches⟩
            rw [kept, Function.update_of_ne (Ne.symm notHere)]
        · rw [if_neg touches]
          rcases later (p + 1) well (by omega) with ⟨w', runs, level, rfl, acted, spared⟩
          refine ⟨_, runs, level, rfl, ?_, ?_⟩
          · rintro q ⟨from_, below, touched⟩
            rcases Nat.lt_or_eq_of_le from_ with after | rfl
            · exact acted q ⟨after, by omega, touched⟩
            · exact absurd touched touches
          · intro g others
            exact spared g fun q inside => others q ⟨by omega, by omega, inside.2.2⟩

theorem changed_maskLoop_scanned {f : Bool → Bool} {act : ℤ → GpioWorld → ℤ × GpioWorld}
    (changes : ChangesBy f act) (iMask : BitVec 64) {w : GpioWorld} (well : w.gp.WellListed) :
    ∃ w', gpioMaskLoop act w.gp.scanned 0 iMask w = (0, w') ∧
      w.Changed f (fun q => q < w.gp.scanned ∧ w.Touches iMask q) w' := by
  rcases changed_maskLoop changes iMask w.gp.scanned 0 well (by omega)
    with ⟨w', runs, level, rfl, acted, spared⟩
  rw [BitVec.sshiftRight_zero] at runs
  refine ⟨_, runs, level, rfl, ?_, ?_⟩
  · exact fun q inside => acted q ⟨Nat.zero_le q, by omega, inside.2⟩
  · exact fun g others => spared g fun q inside => others q ⟨by omega, inside.2.2⟩

theorem changed_writeAll (iMask : BitVec 64) (bValue : Bool) {w : GpioWorld}
    (well : w.gp.WellListed) (isOpen : w.isOpen = true) :
    ∃ w', iGpioWriteAll iMask bValue w = (0, w') ∧
      w.Changed (fun _ => bValue) (fun q => q < w.gp.scanned ∧ w.Touches iMask q) w' := by
  rcases changed_maskLoop_scanned (write_changesBy bValue) iMask well with ⟨w', runs, changed⟩
  exact ⟨w', (if_pos isOpen).trans runs, changed⟩

theorem changed_toggleAll (iMask : BitVec 64) {w : GpioWorld} (well : w.gp.WellListed)
    (isOpen : w.isOpen = true) :
    ∃ w', iGpioToggleAll iMask w = (0, w') ∧
      w.Changed (!·) (fun q => q < w.gp.scanned ∧ w.Touches iMask q) w' := by
  rcases changed_maskLoop_scanned toggle_changesBy iMask well with ⟨w', runs, changed⟩
  exact ⟨w', (if_pos isOpen).trans runs, changed⟩

/-! ### The masks of a port -/

/-- The mask of the pins that are active at this level. -/
def XDoutPort.mask (port : XDoutPort) (act : Bool) : BitVec 32 :=
  if act then port.setMask else port.clrMask

/-- The masks have the bits of these pins. -/
def XDoutPort.Masks (port : XDoutPort) (pins : List XDout) : Prop :=
  ∀ act i, (port.mask act).getLsbD i = true ↔ ∃ pin ∈ pins, pin.act = act ∧ pin.num = i

/-- What a pin has to be for a port. -/
structure XDout.Usable (pin : XDout) (gp : XGpio) : Prop where
  valid : bGpioIsValid pin.num gp = true
  low : pin.num ≤ 31

theorem XDout.Usable.number {pin : XDout} {gp : XGpio} (usable : pin.Usable gp)
    (well : gp.WellListed) : (pin.num.toNat : ℤ) = pin.num ∧ pin.num.toNat < gp.scanned ∧
      pin.num.toNat < 32 := by
  have low := usable.low
  rcases well.scans usable.valid (by omega) with ⟨positive, scanned⟩
  exact ⟨by omega, scanned, by omega⟩

section Opening

variable {gp : XGpio} (well : gp.WellListed)

include well

theorem shiftedOne_of_usable {pin : XDout} (usable : pin.Usable gp) :
    shiftedOne pin.num = some (1#32 <<< pin.num.toNat) := by
  have number := usable.number well
  rw [shiftedOne, if_pos (by omega)]

/-- The port with the bit of one more pin. -/
def XDoutPort.withPin (port : XDoutPort) (pin : XDout) : XDoutPort :=
  if pin.act then { port with setMask := port.setMask ||| 1#32 <<< pin.num.toNat }
  else { port with clrMask := port.clrMask ||| 1#32 <<< pin.num.toNat }

theorem XDoutPort.Masks.withPin {port : XDoutPort} {before : List XDout} {pin : XDout}
    (masks : port.Masks before) (usable : pin.Usable gp) :
    (port.withPin pin).Masks (before ++ [pin]) := by
  have number := usable.number well
  intro act i
  have isIn : (∃ other ∈ before ++ [pin], other.act = act ∧ other.num = i) ↔
      (port.mask act).getLsbD i = true ∨ (pin.act = act ∧ i = pin.num.toNat) := by
    rw [masks act i]
    constructor
    · rintro ⟨other, among, isAct, isNum⟩
      rcases List.mem_append.mp among with earlier | last
      · exact .inl ⟨other, earlier, isAct, isNum⟩
      · rw [List.mem_singleton.mp last] at isAct isNum
        exact .inr ⟨isAct, by omega⟩
    · rintro (⟨other, earlier, isAct, isNum⟩ | ⟨isAct, isNum⟩)
      · exact ⟨other, List.mem_append_left _ earlier, isAct, isNum⟩
      · exact ⟨pin, List.mem_append_right _ (List.mem_singleton.mpr rfl), isAct, by omega⟩
  rw [isIn, XDoutPort.withPin]
  rcases pin with ⟨num, pinAct⟩
  cases pinAct with
  | true =>
      cases act with
      | true => exact (getLsbD_or_bit number.2.2).trans (or_congr_right (and_iff_right rfl).symm)
      | false => exact (or_iff_left (fun absurd_ => nomatch absurd_.1)).symm
  | false =>
      cases act with
      | true => exact (or_iff_left (fun absurd_ => nomatch absurd_.1)).symm
      | false => exact (getLsbD_or_bit number.2.2).trans (or_congr_right (and_iff_right rfl).symm)

end Opening

theorem setMode_of_valid {p : ℤ} {w : GpioWorld} (valid : bGpioIsValid p w.gp = true) :
    iGpioSetMode p eModeOutput w =
      (0, { w with mode := Function.update w.mode (iGpioMcuPin p w.gp) eModeOutput }) :=
  if_pos (of_decide_eq_true valid)

theorem clearAll_returns {port : XDoutPort} {w : GpioWorld} (well : w.gp.WellListed)
    (isOpen : w.isOpen = true) : (iDoutClearAll port w).1 = 0 := by
  rcases changed_writeAll (port.setMask.signExtend 64) false well isOpen with
    ⟨w', runs, level, rfl, -⟩
  have moved : ({ w with level := level } : GpioWorld).gp.WellListed := well
  rcases changed_writeAll (port.clrMask.signExtend 64) true moved isOpen with ⟨w', runs', -⟩
  rw [iDoutClearAll, runs]
  simp only [if_true]
  rw [runs']

/-- A port of usable pins is opened. -/
theorem exists_opened {pins before : List XDout} {port : XDoutPort} {w : GpioWorld}
    (well : w.gp.WellListed) (isOpen : w.isOpen = true)
    (usable : ∀ pin ∈ pins, pin.Usable w.gp) (masks : port.Masks before) :
    ∃ port' w', doutOpenFrom port pins w = .opened port' w' ∧ port'.pins = port.pins ∧
      port'.Masks (before ++ pins) := by
  induction pins generalizing port before w with
  | nil =>
      refine ⟨port, (iDoutClearAll port w).2, ?_, rfl, ?_⟩
      · exact if_pos (clearAll_returns well isOpen)
      · rwa [List.append_nil]
  | cons pin pins later =>
      have first := usable pin (List.mem_cons_self ..)
      have others : ∀ other ∈ pins, other.Usable w.gp :=
        fun other among => usable other (List.mem_cons_of_mem _ among)
      let set : GpioWorld :=
        { w with mode := Function.update w.mode (iGpioMcuPin pin.num w.gp) eModeOutput }
      have isWell : set.gp.WellListed := well
      rcases later isWell isOpen others (masks.withPin well first) with
        ⟨port', w', runs, isPins, isMasks⟩
      refine ⟨port', w', ?_, ?_, ?_⟩
      · rw [doutOpenFrom, setMode_of_valid first.valid, shiftedOne_of_usable well first]
        exact runs
      · rw [isPins, XDoutPort.withPin]
        split <;> rfl
      · rwa [List.append_assoc] at isMasks

/-- The number of each pin of a port that is opened is a bit of an `int`. -/
theorem num_of_opened {pins : List XDout} {port port' : XDoutPort} {w w' : GpioWorld}
    (opened : doutOpenFrom port pins w = .opened port' w') :
    ∀ pin ∈ pins, pin.num < 32 := by
  induction pins generalizing port w with
  | nil => exact fun _ among => absurd among List.not_mem_nil
  | cons pin pins later =>
      rw [doutOpenFrom] at opened
      split at opened
      · cases opened
      · rename_i set
        rcases isBit : shiftedOne pin.num with _ | bit
        · rw [isBit] at opened
          cases opened
        · rw [isBit] at opened
          intro other among
          rcases List.mem_cons.mp among with rfl | isLater
          · rw [shiftedOne] at isBit
            split at isBit
            · rename_i inside
              exact inside.2
            · cases isBit
          · exact later opened other isLater

/-! ### All pins of a port -/

/-- No pin above 31 is written with the sign of a mask. -/
def SignFree (pins : List XDout) (w : GpioWorld) : Prop :=
  (∀ pin ∈ pins, pin.num ≤ 31) ∧ ((∃ pin ∈ pins, pin.num = 31) →
    ∀ p : ℕ, 31 < p → p < w.gp.scanned → bGpioIsValid p w.gp = true →
      eGpioGetMode p w ≠ eModeOutput)

/-- Different pins of the GPIO, all of them outputs. -/
structure OutputPins (pins : List XDout) (w : GpioWorld) : Prop where
  well : w.gp.WellListed
  isOpen : w.isOpen = true
  valid : ∀ pin ∈ pins, bGpioIsValid pin.num w.gp = true
  outputs : ∀ pin ∈ pins, eGpioGetMode pin.num w = eModeOutput
  distinct : (pins.map XDout.num).Nodup

/-- The level of a pin of the port. -/
def GpioWorld.pinLevel (w : GpioWorld) (pin : XDout) : Bool := w.level (iGpioMcuPin pin.num w.gp)

/-- Nothing but the levels of some of these pins has changed. -/
def GpioWorld.Spares (w : GpioWorld) (pins : List XDout) (w' : GpioWorld) : Prop :=
  ∃ level, w' = { w with level := level } ∧
    ∀ g, (∀ pin ∈ pins, iGpioMcuPin pin.num w.gp ≠ g) → level g = w.level g

section Port

variable {pins : List XDout} {port : XDoutPort} {w : GpioWorld}

theorem OutputPins.usable (outputs : OutputPins pins w) (free : SignFree pins w) {pin : XDout}
    (among : pin ∈ pins) : pin.Usable w.gp :=
  ⟨outputs.valid pin among, free.1 pin among⟩

/-- A level elsewhere makes no difference. -/
theorem OutputPins.moved (outputs : OutputPins pins w) (level : ℤ → Bool) :
    OutputPins pins { w with level := level } :=
  ⟨outputs.well, outputs.isOpen, outputs.valid, outputs.outputs, outputs.distinct⟩

theorem OutputPins.pin_ne (outputs : OutputPins pins w) (free : SignFree pins w)
    {pin other : XDout} (among : pin ∈ pins) (amongToo : other ∈ pins) (different : pin ≠ other) :
    iGpioMcuPin pin.num w.gp ≠ iGpioMcuPin other.num w.gp := by
  intro same
  have number := (outputs.usable free among).number outputs.well
  have number' := (outputs.usable free amongToo).number outputs.well
  have valid : bGpioIsValid pin.num.toNat w.gp = true := by
    rw [number.1]
    exact outputs.valid pin among
  have isSame : pin.num.toNat = other.num.toNat := by
    apply outputs.well.oneToOne _ _ number.2.1 number'.2.1 valid
    rw [number.1, number'.1]
    exact same
  apply different
  apply List.inj_on_of_nodup_map outputs.distinct among amongToo
  omega

/-- The pins that the loops act on are those of the mask. -/
theorem touches_iff (outputs : OutputPins pins w) (free : SignFree pins w)
    {mask : BitVec 32} {Chosen : XDout → Prop}
    (isMask : ∀ i, mask.getLsbD i = true ↔ ∃ pin ∈ pins, Chosen pin ∧ pin.num = i) (q : ℕ) :
    (q < w.gp.scanned ∧ w.Touches (mask.signExtend 64) q) ↔
      ∃ pin ∈ pins, Chosen pin ∧ pin.num = q := by
  constructor
  · rintro ⟨scanned, valid, bit, output⟩
    rw [maskBit_signExtend, isMask] at bit
    rcases bit with ⟨pin, among, chosen, isNum⟩
    by_cases small : q ≤ 31
    · rw [Nat.min_eq_left small] at isNum
      exact ⟨pin, among, chosen, isNum⟩
    · rw [Nat.min_eq_right (by omega)] at isNum
      exact absurd output (free.2 ⟨pin, among, isNum⟩ q (by omega) scanned valid)
  · rintro ⟨pin, among, chosen, isNum⟩
    have number := (outputs.usable free among).number outputs.well
    have isNat : pin.num.toNat = q := by omega
    rw [← isNat, GpioWorld.Touches, number.1]
    refine ⟨number.2.1, outputs.valid pin among, ?_, outputs.outputs pin among⟩
    rw [maskBit_signExtend, Nat.min_eq_left (by omega), isMask]
    exact ⟨pin, among, chosen, number.1.symm⟩

/-- The chosen pins change by `f`, and no others. -/
theorem changes_pins (outputs : OutputPins pins w) (free : SignFree pins w)
    {mask : BitVec 32} {Chosen : XDout → Prop}
    (isMask : ∀ i, mask.getLsbD i = true ↔ ∃ pin ∈ pins, Chosen pin ∧ pin.num = i)
    {f : Bool → Bool} {w' : GpioWorld}
    (changed : w.Changed f
      (fun q => q < w.gp.scanned ∧ w.Touches (mask.signExtend 64) q) w') :
    w.Spares pins w' ∧ (∀ pin ∈ pins, Chosen pin → w'.pinLevel pin = f (w.pinLevel pin)) ∧
      ∀ pin ∈ pins, ¬Chosen pin → w'.pinLevel pin = w.pinLevel pin := by
  rcases changed with ⟨level, rfl, acted, spared⟩
  have touches := touches_iff outputs free isMask
  refine ⟨⟨level, rfl, ?_⟩, ?_, ?_⟩
  · intro g others
    apply spared g
    intro q touched
    rcases (touches q).mp touched with ⟨pin, among, -, isNum⟩
    rw [← isNum]
    exact others pin among
  · intro pin among chosen
    have number := (outputs.usable free among).number outputs.well
    have reached := acted pin.num.toNat ((touches _).mpr ⟨pin, among, chosen, number.1.symm⟩)
    rwa [number.1] at reached
  · intro pin among unchosen
    apply spared
    intro q touched
    rcases (touches q).mp touched with ⟨other, amongToo, chosen, isNum⟩
    rw [← isNum]
    apply outputs.pin_ne free amongToo among
    rintro rfl
    exact unchosen chosen

/-- `iDoutSetAll` and `iDoutClearAll`: the pins active at the high level get `bValue`. -/
def doutWriteAll (bValue : Bool) (port : XDoutPort) (w : GpioWorld) : ℤ × GpioWorld :=
  let set := iGpioWriteAll (port.setMask.signExtend 64) bValue w
  if set.1 = 0 then iGpioWriteAll (port.clrMask.signExtend 64) (!bValue) set.2 else (-1, set.2)

theorem writeAll_pins (outputs : OutputPins pins w) (free : SignFree pins w)
    (masks : port.Masks pins) (bValue : Bool) :
    ∃ w', doutWriteAll bValue port w = (0, w') ∧ w.Spares pins w' ∧
      ∀ pin ∈ pins, w'.pinLevel pin = if pin.act then bValue else !bValue := by
  rcases changed_writeAll (port.setMask.signExtend 64) bValue outputs.well
    outputs.isOpen with ⟨w₁, runs, changed⟩
  rcases changes_pins outputs free (masks true) changed with ⟨⟨level₁, rfl, spared⟩, set, kept⟩
  have outputs' := outputs.moved level₁
  rcases changed_writeAll (port.clrMask.signExtend 64) (!bValue) outputs'.well
    outputs'.isOpen with ⟨w₂, runs', changed'⟩
  rcases changes_pins outputs' free (masks false) changed' with
    ⟨⟨level₂, rfl, spared'⟩, set', kept'⟩
  refine ⟨_, ?_, ⟨level₂, rfl, ?_⟩, ?_⟩
  · rw [doutWriteAll, runs]
    exact runs'
  · intro g others
    exact (spared' g others).trans (spared g others)
  · intro pin among
    rcases isAct : pin.act with _ | _
    · exact set' pin among isAct
    · rw [kept' pin among (by rw [isAct]; decide)]
      exact set pin among isAct

theorem toggleAll_pins (outputs : OutputPins pins w) (free : SignFree pins w)
    (masks : port.Masks pins) :
    ∃ w', iDoutToggleAll port w = (0, w') ∧ w.Spares pins w' ∧
      ∀ pin ∈ pins, w'.pinLevel pin = !w.pinLevel pin := by
  have isMask : ∀ i, (port.clrMask ||| port.setMask).getLsbD i = true ↔
      ∃ pin ∈ pins, True ∧ pin.num = i := by
    intro i
    rw [BitVec.getLsbD_or, Bool.or_eq_true]
    apply (or_congr (masks false i) (masks true i)).trans
    constructor
    · rintro (⟨pin, among, -, isNum⟩ | ⟨pin, among, -, isNum⟩)
      · exact ⟨pin, among, trivial, isNum⟩
      · exact ⟨pin, among, trivial, isNum⟩
    · rintro ⟨pin, among, -, isNum⟩
      rcases isAct : pin.act with _ | _
      · exact .inl ⟨pin, among, isAct, isNum⟩
      · exact .inr ⟨pin, among, isAct, isNum⟩
  rcases changed_toggleAll ((port.clrMask ||| port.setMask).signExtend 64) outputs.well
    outputs.isOpen with ⟨w', runs, changed⟩
  rcases changes_pins outputs free isMask changed with ⟨spares, toggled, -⟩
  exact ⟨w', runs, spares, fun pin among => toggled pin among trivial⟩

end Port

/-! ### The state of a port -/

/-- The number with these bits, the lowest one first. -/
def bitsValue : List Bool → ℕ
  | [] => 0
  | bit :: bits => bit.toNat + 2 * bitsValue bits

theorem bitsValue_lt (bits : List Bool) : bitsValue bits < 2 ^ bits.length := by
  induction bits with
  | nil => exact Nat.one_pos
  | cons bit bits later =>
      rw [bitsValue, List.length_cons, pow_succ]
      have small : bit.toNat ≤ 1 := Bool.toNat_le bit
      omega

theorem bitsValue_replicate_false (n : ℕ) : bitsValue (List.replicate n false) = 0 := by
  induction n with
  | zero => rfl
  | succ n later => rw [List.replicate_succ, bitsValue, later, Bool.toNat_false]

theorem bitsValue_not (bits : List Bool) :
    bitsValue (bits.map (!·)) + bitsValue bits = 2 ^ bits.length - 1 := by
  induction bits with
  | nil => rfl
  | cons bit bits later =>
      have positive : 0 < 2 ^ bits.length := Nat.two_pow_pos _
      rw [List.map_cons, bitsValue, bitsValue, List.length_cons, pow_succ]
      cases bit with
      | false =>
          rw [Bool.not_false, Bool.toNat_true, Bool.toNat_false]
          omega
      | true =>
          rw [Bool.not_true, Bool.toNat_true, Bool.toNat_false]
          omega

theorem toNat_or_bit {mask : BitVec 32} {i : ℕ} (small : mask.toNat < 2 ^ i) (inside : i < 32) :
    (mask ||| 1#32 <<< i).toNat = mask.toNat + 2 ^ i := by
  have below : 2 ^ i < 2 ^ 32 := Nat.pow_lt_pow_right (by decide) inside
  have isBit : (1#32 <<< i).toNat = 2 ^ i * 1 := by
    rw [BitVec.toNat_shiftLeft, BitVec.toNat_ofNat, Nat.shiftLeft_eq,
      Nat.one_mod_two_pow (by decide), Nat.one_mul, Nat.mod_eq_of_lt below, Nat.mul_one]
  rw [BitVec.toNat_or, isBit, Nat.or_comm, ← Nat.two_pow_add_eq_or_of_lt small]
  omega

theorem toNat_doutReadFrom {w : GpioWorld} {pins : List XDout} {i : ℕ} {mask : BitVec 32}
    (small : mask.toNat < 2 ^ i) (fits : i + pins.length ≤ 32) :
    (doutReadFrom w i mask pins).toNat =
      mask.toNat + 2 ^ i * bitsValue (pins.map fun pin => iDoutRead pin w) := by
  induction pins generalizing i mask with
  | nil => exact (Nat.add_zero _).symm
  | cons pin pins later =>
      rw [List.length_cons] at fits
      have isValue : ∀ next : BitVec 32,
          next.toNat = mask.toNat + 2 ^ i * (iDoutRead pin w).toNat →
          (doutReadFrom w (i + 1) next pins).toNat =
            mask.toNat + 2 ^ i * bitsValue ((pin :: pins).map fun pin => iDoutRead pin w) := by
        intro next isNext
        have below : (iDoutRead pin w).toNat ≤ 1 := Bool.toNat_le _
        have isSmall : next.toNat < 2 ^ (i + 1) := by
          have scaled : 2 ^ i * (iDoutRead pin w).toNat ≤ 2 ^ i * 1 := Nat.mul_le_mul_left _ below
          rw [isNext, pow_succ]
          omega
        rw [later isSmall (by omega), isNext, List.map_cons, bitsValue, pow_succ, mul_add,
          ← mul_assoc, Nat.add_assoc]
      rw [doutReadFrom]
      cases isRead : iDoutRead pin w with
      | false =>
          rw [if_neg Bool.false_ne_true, ← isValue mask]
          rw [isRead, Bool.toNat_false, Nat.mul_zero, Nat.add_zero]
      | true =>
          rw [if_pos rfl, ← isValue]
          rw [isRead, Bool.toNat_true, Nat.mul_one]
          exact toNat_or_bit small (by omega)

theorem iDoutReadAll_eq {port : XDoutPort} {w : GpioWorld} (fits : port.pins.length ≤ 31) :
    iDoutReadAll port w = bitsValue (port.pins.map fun pin => iDoutRead pin w) := by
  have isNat := @toNat_doutReadFrom w port.pins 0 0 Nat.one_pos (by omega)
  have below := bitsValue_lt (port.pins.map fun pin => iDoutRead pin w)
  rw [List.length_map] at below
  have few : 2 ^ port.pins.length ≤ 2 ^ 31 := Nat.pow_le_pow_right (by decide) fits
  change (doutReadFrom w 0 0 port.pins).toNat = 0 + 1 * _ at isNat
  rw [Nat.zero_add, Nat.one_mul] at isNat
  rw [iDoutReadAll, BitVec.toInt_eq_toNat_of_lt, isNat]
  rw [isNat]
  omega

theorem iDoutRead_eq {pin : XDout} {w : GpioWorld} (valid : bGpioIsValid pin.num w.gp = true) :
    iDoutRead pin w = (w.pinLevel pin == pin.act) := by
  have reads : iGpioRead pin.num w = (w.pinLevel pin).toInt := if_pos (of_decide_eq_true valid)
  rw [iDoutRead, reads]
  cases w.pinLevel pin <;> cases pin.act <;> decide

/-! ### What a port is for -/

/-- The operations on all pins, and what is read after each of them. -/
structure PortRight (pins : List XDout) (port : XDoutPort) (w : GpioWorld) : Prop where
  sets : ∃ w', iDoutSetAll port w = (0, w') ∧ w.Spares pins w' ∧
    (∀ pin ∈ pins, w'.pinLevel pin = pin.act) ∧
    (pins.length ≤ 31 → iDoutReadAll port w' = 2 ^ pins.length - 1)
  clears : ∃ w', iDoutClearAll port w = (0, w') ∧ w.Spares pins w' ∧
    (∀ pin ∈ pins, w'.pinLevel pin = !pin.act) ∧ (pins.length ≤ 31 → iDoutReadAll port w' = 0)
  toggles : ∃ w', iDoutToggleAll port w = (0, w') ∧ w.Spares pins w' ∧
    (∀ pin ∈ pins, w'.pinLevel pin = !w.pinLevel pin) ∧
    (pins.length ≤ 31 → iDoutReadAll port w' = 2 ^ pins.length - 1 - iDoutReadAll port w)

section PortRight

variable {pins : List XDout} {port : XDoutPort} {w : GpioWorld}

/-- What is read of the pins of an output port. -/
theorem readAll_of_pins (isPins : port.pins = pins) {w' : GpioWorld} (outputs : OutputPins pins w')
    (few : pins.length ≤ 31) {active : XDout → Bool}
    (isActive : ∀ pin ∈ pins, (w'.pinLevel pin == pin.act) = active pin) :
    iDoutReadAll port w' = bitsValue (pins.map active) := by
  rw [iDoutReadAll_eq (isPins ▸ few), isPins]
  congr 2
  apply List.map_congr_left
  intro pin among
  rw [iDoutRead_eq (outputs.valid pin among), isActive pin among]

theorem portRight_of_signFree (outputs : OutputPins pins w) (free : SignFree pins w)
    (isPins : port.pins = pins) (masks : port.Masks pins) : PortRight pins port w := by
  have ones : ((bitsValue (List.replicate pins.length true) : ℕ) : ℤ) = 2 ^ pins.length - 1 := by
    have complement := bitsValue_not (List.replicate pins.length false)
    have positive : 0 < 2 ^ pins.length := Nat.two_pow_pos _
    rw [List.map_replicate, Bool.not_false, bitsValue_replicate_false, List.length_replicate,
      Nat.add_zero] at complement
    rw [complement]
    push_cast [Nat.one_le_two_pow]
    rfl
  constructor
  · rcases writeAll_pins outputs free masks true with ⟨w', runs, ⟨level, rfl, spared⟩, levels⟩
    have isLevel : ∀ pin ∈ pins, GpioWorld.pinLevel { w with level := level } pin = pin.act := by
      intro pin among
      rw [levels pin among]
      cases pin.act <;> rfl
    refine ⟨_, runs, ⟨level, rfl, spared⟩, isLevel, fun few => ?_⟩
    have isActive : ∀ pin ∈ pins,
        (GpioWorld.pinLevel { w with level := level } pin == pin.act) = true := by
      intro pin among
      rw [isLevel pin among, beq_self_eq_true]
    rw [readAll_of_pins isPins (outputs.moved level) few isActive, List.map_const', ones]
  · rcases writeAll_pins outputs free masks false with ⟨w', runs, ⟨level, rfl, spared⟩, levels⟩
    have isLevel : ∀ pin ∈ pins, GpioWorld.pinLevel { w with level := level } pin = !pin.act := by
      intro pin among
      rw [levels pin among]
      cases pin.act <;> rfl
    refine ⟨_, runs, ⟨level, rfl, spared⟩, isLevel, fun few => ?_⟩
    have isActive : ∀ pin ∈ pins,
        (GpioWorld.pinLevel { w with level := level } pin == pin.act) = false := by
      intro pin among
      rw [isLevel pin among]
      cases pin.act <;> rfl
    rw [readAll_of_pins isPins (outputs.moved level) few isActive, List.map_const',
      bitsValue_replicate_false]
    rfl
  · rcases toggleAll_pins outputs free masks with ⟨w', runs, ⟨level, rfl, spared⟩, toggled⟩
    refine ⟨_, runs, ⟨level, rfl, spared⟩, toggled, fun few => ?_⟩
    have isActive : ∀ pin ∈ pins,
        (GpioWorld.pinLevel { w with level := level } pin == pin.act) =
          !(w.pinLevel pin == pin.act) := by
      intro pin among
      rw [toggled pin among]
      cases w.pinLevel pin <;> cases pin.act <;> rfl
    have complement := bitsValue_not (pins.map fun pin => w.pinLevel pin == pin.act)
    have asInt : ((2 ^ pins.length - 1 : ℕ) : ℤ) = 2 ^ pins.length - 1 := by
      push_cast [Nat.one_le_two_pow]
      rfl
    rw [List.map_map, List.length_map] at complement
    rw [readAll_of_pins isPins outputs few (fun pin _ => rfl),
      readAll_of_pins isPins (outputs.moved level) few isActive, ← asInt, ← complement]
    push_cast
    exact (add_sub_cancel_right _ _).symm

end PortRight

/-- A pin above 31 that is an output would be toggled with the pin 31. -/
theorem signFree_of_toggles {pins : List XDout} {port : XDoutPort} {w w' : GpioWorld}
    (outputs : OutputPins pins w) (low : ∀ pin ∈ pins, pin.num ≤ 31) (masks : port.Masks pins)
    (runs : iDoutToggleAll port w = (0, w')) (spares : w.Spares pins w') : SignFree pins w := by
  refine ⟨low, ?_⟩
  rintro ⟨pin, among, isLast⟩ q above scanned valid output
  rcases changed_toggleAll ((port.clrMask ||| port.setMask).signExtend 64) outputs.well
    outputs.isOpen with ⟨w'', runs', level, rfl, toggled, -⟩
  have bit : maskBit ((port.clrMask ||| port.setMask).signExtend 64) q = true := by
    rw [maskBit_signExtend, Nat.min_eq_right (by omega), BitVec.getLsbD_or, Bool.or_eq_true]
    rcases isAct : pin.act with _ | _
    · exact .inl ((masks false 31).mpr ⟨pin, among, isAct, isLast⟩)
    · exact .inr ((masks true 31).mpr ⟨pin, among, isAct, isLast⟩)
  have changed := toggled q ⟨scanned, valid, bit, output⟩
  have isSame := congrArg Prod.snd (runs'.symm.trans runs)
  rcases spares with ⟨level', rfl, kept⟩
  have sameLevel : level = level' := congrArg GpioWorld.level isSame
  have others : ∀ other ∈ pins, iGpioMcuPin other.num w.gp ≠ iGpioMcuPin q w.gp := by
    intro other amongToo same
    have usable : other.Usable w.gp := ⟨outputs.valid other amongToo, low other amongToo⟩
    have number := usable.number outputs.well
    rw [← number.1] at same
    have isNumber := outputs.well.oneToOne _ _ number.2.1 scanned
      (by rw [number.1]; exact usable.valid) same
    omega
  rw [sameLevel, kept _ others] at changed
  exact absurd changed.symm (Bool.not_ne_self _)

theorem masks_none {pins : List XDout} : XDoutPort.Masks ⟨pins, 0, 0⟩ [] := by
  intro act i
  apply iff_of_false
  · cases act <;> exact Bool.eq_false_iff.mp (BitVec.getLsbD_zero)
  · rintro ⟨pin, among, -⟩
    exact absurd among List.not_mem_nil

section Opened

variable {pins : List XDout} (nonempty : pins ≠ []) {w₀ w : GpioWorld}
  (isOpen : w₀.isOpen = true) (same : w.gp = w₀.gp) (outputs : OutputPins pins w)

include nonempty isOpen same outputs

theorem opened_of_low (low : ∀ pin ∈ pins, pin.num ≤ 31) :
    ∃ port w₁, xDoutOpen pins w₀ = .opened port w₁ ∧ port.pins = pins ∧ port.Masks pins := by
  rw [xDoutOpen, if_neg nonempty]
  apply exists_opened (same ▸ outputs.well) isOpen _ masks_none
  intro pin among
  rw [← same]
  exact ⟨outputs.valid pin among, low pin among⟩

theorem signFree_of_portRight {port : XDoutPort} {w₁ : GpioWorld}
    (opened : xDoutOpen pins w₀ = .opened port w₁) (right : PortRight pins port w) :
    SignFree pins w := by
  have opens : xDoutOpen pins w₀ = doutOpenFrom ⟨pins, 0, 0⟩ pins w₀ := if_neg nonempty
  have low : ∀ pin ∈ pins, pin.num ≤ 31 := by
    intro pin among
    exact Int.le_of_lt_add_one (num_of_opened (opens.symm.trans opened) pin among)
  rcases opened_of_low nonempty isOpen same outputs low with ⟨port', w₁', opened', -, masks⟩
  rw [opened] at opened'
  cases opened'
  rcases right.toggles with ⟨w', runs, spares, -⟩
  exact signFree_of_toggles outputs low masks runs spares

/-- The operations on all pins of a port do what they are for if no number is above 31, and
with the number 31 if no pin above it is an output. -/
theorem portRight_iff :
    (∃ port w₁, xDoutOpen pins w₀ = .opened port w₁ ∧ PortRight pins port w) ↔
      SignFree pins w := by
  constructor
  · rintro ⟨port, w₁, opened, right⟩
    exact signFree_of_portRight nonempty isOpen same outputs opened right
  · intro free
    rcases opened_of_low nonempty isOpen same outputs free.1 with
      ⟨port, w₁, opened, isPins, masks⟩
    exact ⟨port, w₁, opened, portRight_of_signFree outputs free isPins masks⟩

end Opened

/-! ### The boards -/

/-- What `WellListed` says of the list of every board. -/
theorem XBoard.wellListed (board : XBoard) (eNum : EGpioNumbering) :
    (board.numbered eNum).WellListed := by
  rcases pinList_wellFormed board eNum with ⟨low, -, fits, high, -, -, distinct⟩
  refine ⟨⟨_, rfl, low, fits⟩, fun p q scanned scanned' valid same => ?_⟩
  replace valid : 0 ≤ iGpioMcuPin p (board.numbered eNum) := of_decide_eq_true valid
  by_cases physical : eNum = .eNumberingPhysical
  · have few : (board.numbered .eNumberingPhysical).scanned ≤ 100 := by
      cases board <;> decide
    subst physical
    rw [mcuPin_first rfl rfl (by omega)] at valid same
    rw [mcuPin_first rfl rfl (by omega)] at same
    have isIndex := index_of_entry low high distinct valid same
    omega
  · have isEntry : ∀ n, iGpioMcuPin n (board.numbered eNum) = (board.pinList eNum).entry n := by
      intro n
      exact if_neg physical
    rw [isEntry] at valid same
    rw [isEntry] at same
    have isIndex := index_of_entry low high distinct valid same
    omega

/-- All pins are outputs, at the low level. -/
def XBoard.outputs (board : XBoard) (eNum : EGpioNumbering) : GpioWorld :=
  ⟨board.numbered eNum, true, fun _ => eModeOutput, fun _ => false⟩

theorem portRight_rpiRev1 : ∃ port w₁,
    xDoutOpen [⟨0, true⟩, ⟨1, false⟩] (XBoard.rpiRev1.outputs .eNumberingLogical) =
      .opened port w₁ ∧
    PortRight [⟨0, true⟩, ⟨1, false⟩] port (XBoard.rpiRev1.outputs .eNumberingLogical) := by
  have outputs : OutputPins [⟨0, true⟩, ⟨1, false⟩]
      (XBoard.rpiRev1.outputs .eNumberingLogical) :=
    ⟨XBoard.wellListed _ _, rfl, by decide, by decide, by decide⟩
  refine (portRight_iff (by decide) rfl rfl outputs).mpr ⟨by decide, ?_⟩
  intro isLast
  exact absurd isLast (by decide)

/-- The pin 32 of the connector is toggled with the pin 31. -/
theorem not_portRight_rpiRev3 :
    (iGpioToggleAll ((1#32 <<< 31).signExtend 64)
        (XBoard.rpiRev3.outputs .eNumberingPhysical)).2.level 12 = true ∧
      ¬∃ port w₁,
        xDoutOpen [⟨31, true⟩] (XBoard.rpiRev3.outputs .eNumberingPhysical) = .opened port w₁ ∧
        PortRight [⟨31, true⟩] port (XBoard.rpiRev3.outputs .eNumberingPhysical) := by
  refine ⟨by decide +kernel, ?_⟩
  rintro ⟨port, w₁, opened, right⟩
  have outputs : OutputPins [⟨31, true⟩] (XBoard.rpiRev3.outputs .eNumberingPhysical) :=
    ⟨XBoard.wellListed _ _, rfl, by decide, by decide, by decide⟩
  have free := signFree_of_portRight (by decide) rfl rfl outputs opened right
  exact free.2 (by decide) 32 (by decide) (by decide) (by decide) (by decide)

end Sysio.Gpio
