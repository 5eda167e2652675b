import Sysio.Gpio.NanoPi

/-!
# Releasing the pins of the NanoPi

No two pins share a field, and an operation changes no field but those of its pin. What is kept of
a pin is its mode and its pull resistor at the opening, so that a release leads back to them,
whatever has been done before.
-/

namespace Sysio.Gpio.NanoPi

/-! ### The fields of a pin -/

theorem exists_pinBank {g : ℕ} (inside : g < gpioSize) : ∃ b f, pxGetPinBank g = some (b, f) := by
  have all : ∀ g < 106, (pxGetPinBank g).isSome = true := by decide +kernel
  rcases Option.isSome_iff_exists.mp (all g inside) with ⟨⟨b, f⟩, found⟩
  exact ⟨b, f, found⟩

/-- The place of the pin when the banks follow one another. -/
def pinPlace (g : ℕ) : ℕ := (pxGetPinBank g).elim 0 fun pin => 32 * pin.1 + pin.2

/-- The pins are in the order of their places. -/
theorem pinPlace_lt {g g' : ℕ} (before : g < g') (inside : g' < gpioSize) :
    pinPlace g < pinPlace g' := by
  have next : ∀ g < 105, pinPlace g < pinPlace (g + 1) := by decide +kernel
  induction g', before using Nat.le_induction with
  | base => exact next g (Nat.lt_of_succ_lt_succ inside)
  | succ g' _ ih =>
      exact Nat.lt_trans (ih (Nat.lt_of_succ_lt inside)) (next g' (Nat.lt_of_succ_lt_succ inside))

theorem pinBank_injective {g g' : ℕ} (inside : g < gpioSize) (inside' : g' < gpioSize)
    (same : pxGetPinBank g = pxGetPinBank g') : g = g' := by
  have place : pinPlace g = pinPlace g' := by rw [pinPlace, same, pinPlace]
  rcases Nat.lt_trichotomy g g' with before | isSame | behind
  · exact absurd place (Nat.ne_of_lt (pinPlace_lt before inside'))
  · exact isSame
  · exact absurd place (Nat.ne_of_gt (pinPlace_lt behind inside))

/-- The field of a CFG register that has the mode of the pin. -/
def IsCfgField (g b r j : ℕ) : Prop :=
  ∃ f, pxGetPinBank g = some (b, f) ∧ r = f / 8 ∧ j = f % 8

/-- The field of a PUL register that has the pull resistor of the pin. -/
def IsPulField (g b r j : ℕ) : Prop :=
  ∃ f, pxGetPinBank g = some (b, f) ∧ r = f / 16 ∧ j = f % 16

theorem cfgField_unique {g g' b r j : ℕ} (inside : g < gpioSize) (inside' : g' < gpioSize)
    (isField : IsCfgField g b r j) (isField' : IsCfgField g' b r j) : g = g' := by
  rcases isField with ⟨f, found, isReg, isIndex⟩
  rcases isField' with ⟨f', found', isReg', isIndex'⟩
  have same : f = f' := by omega
  exact pinBank_injective inside inside' (found.trans (same ▸ found'.symm))

theorem pulField_unique {g g' b r j : ℕ} (inside : g < gpioSize) (inside' : g' < gpioSize)
    (isField : IsPulField g b r j) (isField' : IsPulField g' b r j) : g = g' := by
  rcases isField with ⟨f, found, isReg, isIndex⟩
  rcases isField' with ⟨f', found', isReg', isIndex'⟩
  have same : f = f' := by omega
  exact pinBank_injective inside inside' (found.trans (same ▸ found'.symm))

/-- The field of the mode with this number in a register. -/
def XGpio.cfgField (gp : XGpio) (b r j : ℕ) : BitVec 4 := getField ((gp.bank b).cfg r) 4 j

/-- The field of the pull resistor with this number in a register. -/
def XGpio.pulField (gp : XGpio) (b r j : ℕ) : BitVec 2 := getField ((gp.bank b).pul r) 2 j

/-- Only the mode of this pin has changed in the registers. -/
structure OnlyCfg (g : ℕ) (gp gp' : XGpio) : Prop where
  cfg : ∀ b r j, ¬IsCfgField g b r j → gp'.cfgField b r j = gp.cfgField b r j
  pul : ∀ b, (gp'.bank b).pul = (gp.bank b).pul
  dat : ∀ b, (gp'.bank b).dat = (gp.bank b).dat
  drv : ∀ b, (gp'.bank b).drv = (gp.bank b).drv

/-- Only the pull resistor of this pin has changed in the registers. -/
structure OnlyPul (g : ℕ) (gp gp' : XGpio) : Prop where
  cfg : ∀ b, (gp'.bank b).cfg = (gp.bank b).cfg
  pul : ∀ b r j, ¬IsPulField g b r j → gp'.pulField b r j = gp.pulField b r j
  dat : ∀ b, (gp'.bank b).dat = (gp.bank b).dat
  drv : ∀ b, (gp'.bank b).drv = (gp.bank b).drv

/-- Only the two fields of this pin have changed in the registers. -/
structure OnlyPin (g : ℕ) (gp gp' : XGpio) : Prop where
  cfg : ∀ b r j, ¬IsCfgField g b r j → gp'.cfgField b r j = gp.cfgField b r j
  pul : ∀ b r j, ¬IsPulField g b r j → gp'.pulField b r j = gp.pulField b r j
  dat : ∀ b, (gp'.bank b).dat = (gp.bank b).dat
  drv : ∀ b, (gp'.bank b).drv = (gp.bank b).drv

theorem OnlyCfg.onlyPin {g : ℕ} {gp gp' : XGpio} (only : OnlyCfg g gp gp') : OnlyPin g gp gp' :=
  ⟨only.cfg, fun b r j _ => by rw [XGpio.pulField, only.pul b, XGpio.pulField], only.dat, only.drv⟩

theorem OnlyPul.onlyPin {g : ℕ} {gp gp' : XGpio} (only : OnlyPul g gp gp') : OnlyPin g gp gp' :=
  ⟨fun b r j _ => by rw [XGpio.cfgField, only.cfg b, XGpio.cfgField], only.pul, only.dat, only.drv⟩

theorem onlyPin_refl (g : ℕ) (gp : XGpio) : OnlyPin g gp gp :=
  ⟨fun _ _ _ _ => rfl, fun _ _ _ _ => rfl, fun _ => rfl, fun _ => rfl⟩

theorem OnlyPin.trans {g : ℕ} {gp gp' gp'' : XGpio} (first : OnlyPin g gp gp')
    (second : OnlyPin g gp' gp'') : OnlyPin g gp gp'' where
  cfg b r j other := (second.cfg b r j other).trans (first.cfg b r j other)
  pul b r j other := (second.pul b r j other).trans (first.pul b r j other)
  dat b := (second.dat b).trans (first.dat b)
  drv b := (second.drv b).trans (first.drv b)

/-! ### Writing a field -/

section Writing

variable {gp : XGpio} {g b f : ℕ}

theorem bank_setCfg {r : ℕ} {word : BitVec 32} (b' : ℕ) : ((gp.setCfg b r word).bank b') =
    { gp.bank b' with
      cfg := if b' = b then Function.update (gp.bank b').cfg r word else (gp.bank b').cfg } := by
  change Function.update gp.bank b _ b' = _
  by_cases here : b' = b
  · subst here
    rw [if_pos rfl, Function.update_self]
  · rw [if_neg here, Function.update_of_ne here]

theorem bank_setPul {r : ℕ} {word : BitVec 32} (b' : ℕ) : ((gp.setPul b r word).bank b') =
    { gp.bank b' with
      pul := if b' = b then Function.update (gp.bank b').pul r word else (gp.bank b').pul } := by
  change Function.update gp.bank b _ b' = _
  by_cases here : b' = b
  · subst here
    rw [if_pos rfl, Function.update_self]
  · rw [if_neg here, Function.update_of_ne here]

/-- The register with the mode of the pin `f` of the bank. -/
def XGpio.withMode (gp : XGpio) (b f : ℕ) (value : BitVec 4) : XGpio :=
  gp.setCfg b (f / 8) (setField ((gp.bank b).cfg (f / 8)) 4 (f % 8) value)

/-- The register with the pull resistor of the pin `f` of the bank. -/
def XGpio.withPull (gp : XGpio) (b f : ℕ) (value : BitVec 2) : XGpio :=
  gp.setPul b (f / 16) (setField ((gp.bank b).pul (f / 16)) 2 (f % 16) value)

theorem cfgField_withMode {value : BitVec 4} :
    (gp.withMode b f value).cfgField b (f / 8) (f % 8) = value := by
  rw [XGpio.cfgField, XGpio.withMode, bank_setCfg]
  simp only [if_true, Function.update_self]
  exact getField_setField (by omega)

theorem pulField_withPull {value : BitVec 2} :
    (gp.withPull b f value).pulField b (f / 16) (f % 16) = value := by
  rw [XGpio.pulField, XGpio.withPull, bank_setPul]
  simp only [if_true, Function.update_self]
  exact getField_setField (by omega)

theorem onlyCfg_withMode (found : pxGetPinBank g = some (b, f)) {value : BitVec 4} :
    OnlyCfg g gp (gp.withMode b f value) where
  cfg b' r j other := by
    rw [XGpio.cfgField, XGpio.withMode, bank_setCfg, XGpio.cfgField]
    by_cases here : b' = b
    · subst here
      rw [if_pos rfl]
      dsimp only
      by_cases there : r = f / 8
      · subst there
        rw [Function.update_self]
        apply getField_setField_of_ne
        rintro rfl
        exact other ⟨f, found, rfl, rfl⟩
      · rw [Function.update_of_ne there]
    · rw [if_neg here]
  pul b' := by rw [XGpio.withMode, bank_setCfg]
  dat b' := by rw [XGpio.withMode, bank_setCfg]
  drv b' := by rw [XGpio.withMode, bank_setCfg]

theorem onlyPul_withPull (found : pxGetPinBank g = some (b, f)) {value : BitVec 2} :
    OnlyPul g gp (gp.withPull b f value) where
  cfg b' := by rw [XGpio.withPull, bank_setPul]
  pul b' r j other := by
    rw [XGpio.pulField, XGpio.withPull, bank_setPul, XGpio.pulField]
    by_cases here : b' = b
    · subst here
      rw [if_pos rfl]
      dsimp only
      by_cases there : r = f / 16
      · subst there
        rw [Function.update_self]
        apply getField_setField_of_ne
        rintro rfl
        exact other ⟨f, found, rfl, rfl⟩
      · rw [Function.update_of_ne there]
    · rw [if_neg here]
  dat b' := by rw [XGpio.withPull, bank_setPul]
  drv b' := by rw [XGpio.withPull, bank_setPul]

end Writing

/-! ### What the operations write -/

section Operations

variable {gp : XGpio} {g b f : ℕ}

/-- The value written for a mode, and kept of it. -/
theorem mode_bits {value : ℤ} (positive : 0 ≤ value) (small : value ≤ 7) :
    BitVec.ofInt 32 value = (BitVec.ofInt 4 value).setWidth 32 := by
  have cases_ : value = 0 ∨ value = 1 ∨ value = 2 ∨ value = 3 ∨ value = 4 ∨ value = 5 ∨
      value = 6 ∨ value = 7 := by omega
  rcases cases_ with rfl | rfl | rfl | rfl | rfl | rfl | rfl | rfl <;> decide

/-- The field that is written for a pull resistor. -/
def pullCode (ePull : ℤ) : BitVec 2 := if ePull = 0 then 0 else BitVec.ofInt 2 ePull ^^^ 3

/-- A mode is accepted and written, or nothing is changed. -/
theorem setMode_cases (found : pxGetPinBank g = some (b, f)) (eMode : ℤ) :
    (∃ value : ℤ, 0 ≤ value ∧ value ≤ 7 ∧ (0 ≤ eMode → eMode ≤ 7 → value = eMode) ∧
      iArchGpioSetMode g eMode gp =
        (0, (gp.withMode b f (BitVec.ofInt 4 value)).keepMode g value)) ∨
      (¬(0 ≤ eMode ∧ eMode ≤ 7) ∧ iArchGpioSetMode g eMode gp = (-1, gp)) := by
  have index : (f - f / 8 * 8) * 4 = 4 * (f % 8) := by omega
  have mask : 0b1111#32 = (BitVec.allOnes 4).setWidth 32 := by decide
  have written : ∀ value : ℤ, 0 ≤ value → value ≤ 7 →
      gp.setCfg b (f / 8) ((gp.bank b).cfg (f / 8) &&& ~~~(0b1111#32 <<< (4 * (f % 8))) |||
        BitVec.ofInt 32 value <<< (4 * (f % 8))) = gp.withMode b f (BitVec.ofInt 4 value) := by
    intro value positive small
    rw [mode_bits positive small, mask]
    rfl
  rw [iArchGpioSetMode, found]
  simp only [index]
  by_cases input : eMode = eModeInput
  · left
    have cleared : ∀ word : BitVec 32, word ||| BitVec.ofInt 32 0 <<< (4 * (f % 8)) = word := by
      intro word
      have zero : BitVec.ofInt 32 0 = 0#32 := by decide
      rw [zero, BitVec.zero_shiftLeft, BitVec.or_zero]
    refine ⟨0, le_refl 0, by decide, fun _ _ => input.symm, ?_⟩
    rw [if_pos input, ← written 0 (le_refl 0) (by decide), cleared, input]
    rfl
  · rw [if_neg input]
    by_cases accepted : 1 ≤ eMode ∧ eMode ≤ eModeDisabled
    · left
      refine ⟨eMode, by omega, accepted.2, fun _ _ => rfl, ?_⟩
      rw [if_pos accepted, written eMode (by omega) accepted.2]
    · rw [if_neg accepted]
      have other : ¬(0 ≤ eMode ∧ eMode ≤ 7) := by
        rw [eModeInput] at input
        rw [eModeDisabled] at accepted
        omega
      by_cases pwm : eMode = eModePwm ∧ bIsPwmPin g = true
      · left
        refine ⟨eModeFunc3, by decide, by decide,
          fun positive small => absurd ⟨positive, small⟩ other, ?_⟩
        rw [if_pos pwm.1, if_pos pwm.2, written eModeFunc3 (by decide) (by decide)]
      · right
        refine ⟨other, ?_⟩
        by_cases isPwm : eMode = eModePwm
        · rw [if_pos isPwm, if_neg fun isPin => pwm ⟨isPwm, isPin⟩]
        · rw [if_neg isPwm]

/-- The GPIO with the pull resistor of a pin kept. -/
def XGpio.keepPull (gp : XGpio) (g : ℕ) (ePull : ℤ) : XGpio :=
  { gp with
    pinpullRelease :=
      if gp.pinpullRelease g = -1 then Function.update gp.pinpullRelease g (gp.pinpull g)
      else gp.pinpullRelease
    pinpull := Function.update gp.pinpull g ePull }

theorem setPull_eq (found : pxGetPinBank g = some (b, f)) {ePull : ℤ} (positive : 0 ≤ ePull)
    (small : ePull ≤ 2) : iArchGpioSetPull g ePull gp =
      (0, (gp.keepPull g ePull).withPull b f (pullCode ePull)) := by
  have index : (f - f / 16 * 16) * 2 = 2 * (f % 16) := by omega
  have mask : 0b11#32 = (BitVec.allOnes 2).setWidth 32 := by decide
  have code : (if ePull ≠ 0 then BitVec.ofInt 32 ePull ^^^ 3 else BitVec.ofInt 32 ePull) =
      (pullCode ePull).setWidth 32 := by
    have cases_ : ePull = 0 ∨ ePull = 1 ∨ ePull = 2 := by omega
    rcases cases_ with rfl | rfl | rfl <;> decide
  rw [iArchGpioSetPull, found]
  simp only [index]
  rw [code, mask]
  rfl

/-- The mode that is read is the field, if its highest bit is clear. -/
theorem getMode_eq (found : pxGetPinBank g = some (b, f))
    (clear : (gp.cfgField b (f / 8) (f % 8)).getLsbD 3 = false) :
    0 ≤ eArchGpioGetMode g gp ∧ eArchGpioGetMode g gp ≤ 7 ∧
      BitVec.ofInt 4 (eArchGpioGetMode g gp) = gp.cfgField b (f / 8) (f % 8) := by
  have index : (f - f / 8 * 8) * 4 = 4 * (f % 8) := by omega
  have isMode : eArchGpioGetMode g gp = ((gp.cfgField b (f / 8) (f % 8)).toNat : ℤ) ∧
      (gp.cfgField b (f / 8) (f % 8)).toNat ≤ 7 := by
    have isBit : ((gp.cfgField b (f / 8) (f % 8)).toNat).testBit 3 = false := clear
    rw [Nat.testBit_eq_decide_div_mod_eq, decide_eq_false_iff_not] at isBit
    have below : (gp.cfgField b (f / 8) (f % 8)).toNat < 16 := BitVec.isLt _
    have isField : (gp.cfgField b (f / 8) (f % 8)).toNat =
        (((gp.bank b).cfg (f / 8)).toNat >>> (4 * (f % 8))) % 16 := BitVec.extractLsb'_toNat ..
    refine ⟨?_, by omega⟩
    rw [eArchGpioGetMode, found]
    simp only [index]
    rw [BitVec.toNat_and, BitVec.toNat_ushiftRight]
    change ((_ &&& 2 ^ 3 - 1 : ℕ) : ℤ) = _
    rw [Nat.and_two_pow_sub_one_eq_mod]
    omega
  rw [isMode.1]
  refine ⟨Int.natCast_nonneg _, by omega, ?_⟩
  rw [BitVec.ofInt_natCast, BitVec.ofNat_toNat, BitVec.setWidth_eq]

/-- The pull resistor that is read is written as the field, if this is not 3. -/
theorem getPull_eq (found : pxGetPinBank g = some (b, f))
    (coded : gp.pulField b (f / 16) (f % 16) ≠ 3) :
    0 ≤ eArchGpioGetPull g gp ∧ eArchGpioGetPull g gp ≤ 2 ∧
      pullCode (eArchGpioGetPull g gp) = gp.pulField b (f / 16) (f % 16) := by
  have index : (f - f / 16 * 16) * 2 = 2 * (f % 16) := by omega
  have isField : (gp.bank b).pul (f / 16) >>> (2 * (f % 16)) &&& 3 =
      (gp.pulField b (f / 16) (f % 16)).setWidth 32 := by
    apply BitVec.eq_of_toNat_eq
    have isNat : (gp.pulField b (f / 16) (f % 16)).toNat =
        (((gp.bank b).pul (f / 16)).toNat >>> (2 * (f % 16))) % 4 := BitVec.extractLsb'_toNat ..
    rw [BitVec.toNat_and, BitVec.toNat_ushiftRight, BitVec.toNat_setWidth, isNat]
    change (_ &&& 2 ^ 2 - 1 : ℕ) = _
    rw [Nat.and_two_pow_sub_one_eq_mod]
    omega
  rw [eArchGpioGetPull, found]
  simp only [index]
  rw [isField]
  revert coded
  generalize gp.pulField b (f / 16) (f % 16) = value
  revert value
  decide

end Operations

/-! ### What an operation leaves alone -/

/-- Only this pin is concerned, in the registers and in what is kept of the pins. -/
structure Touches (g : ℕ) (gp gp' : XGpio) : Prop where
  onlyPin : OnlyPin g gp gp'
  pinmode : ∀ g', g' ≠ g → gp'.pinmode g' = gp.pinmode g'
  pinmodeRelease : ∀ g', g' ≠ g → gp'.pinmodeRelease g' = gp.pinmodeRelease g'
  pinpull : ∀ g', g' ≠ g → gp'.pinpull g' = gp.pinpull g'
  pinpullRelease : ∀ g', g' ≠ g → gp'.pinpullRelease g' = gp.pinpullRelease g'
  isOpen : gp'.isOpen = gp.isOpen
  link : gp'.link = gp.link
  roc : gp'.roc = gp.roc

theorem touches_refl (g : ℕ) (gp : XGpio) : Touches g gp gp :=
  ⟨onlyPin_refl g gp, fun _ _ => rfl, fun _ _ => rfl, fun _ _ => rfl, fun _ _ => rfl, rfl, rfl,
    rfl⟩

theorem Touches.trans {g : ℕ} {gp gp' gp'' : XGpio} (first : Touches g gp gp')
    (second : Touches g gp' gp'') : Touches g gp gp'' where
  onlyPin := first.onlyPin.trans second.onlyPin
  pinmode g' other := (second.pinmode g' other).trans (first.pinmode g' other)
  pinmodeRelease g' other := (second.pinmodeRelease g' other).trans (first.pinmodeRelease g' other)
  pinpull g' other := (second.pinpull g' other).trans (first.pinpull g' other)
  pinpullRelease g' other := (second.pinpullRelease g' other).trans (first.pinpullRelease g' other)
  isOpen := second.isOpen.trans first.isOpen
  link := second.link.trans first.link
  roc := second.roc.trans first.roc

section Frames

variable {gp : XGpio} {g b f : ℕ}

theorem update_kept {kept : ℕ → ℤ} {now value : ℤ} {g' : ℕ} (other : g' ≠ g) :
    (if now = -1 then Function.update kept g value else kept) g' = kept g' := by
  by_cases first : now = -1
  · rw [if_pos first, Function.update_of_ne other]
  · rw [if_neg first]

theorem touches_setMode (found : pxGetPinBank g = some (b, f)) (eMode : ℤ) :
    OnlyCfg g gp (iArchGpioSetMode g eMode gp).2 ∧
      Touches g gp (iArchGpioSetMode g eMode gp).2 := by
  rcases @setMode_cases gp g b f found eMode with ⟨value, _, _, _, written⟩ | ⟨_, rejected⟩
  · rw [written]
    have only : OnlyCfg g gp ((gp.withMode b f (BitVec.ofInt 4 value)).keepMode g value) :=
      let written := onlyCfg_withMode found
      ⟨written.cfg, written.pul, written.dat, written.drv⟩
    exact ⟨only, only.onlyPin, fun _ other => Function.update_of_ne other _ _,
      fun _ other => update_kept other, fun _ _ => rfl, fun _ _ => rfl, rfl, rfl, rfl⟩
  · rw [rejected]
    exact ⟨⟨fun _ _ _ _ => rfl, fun _ => rfl, fun _ => rfl, fun _ => rfl⟩, touches_refl g gp⟩

theorem touches_setPull (found : pxGetPinBank g = some (b, f)) {ePull : ℤ} (positive : 0 ≤ ePull)
    (small : ePull ≤ 2) :
    OnlyPul g gp (iArchGpioSetPull g ePull gp).2 ∧
      Touches g gp (iArchGpioSetPull g ePull gp).2 := by
  rw [setPull_eq found positive small]
  have only : OnlyPul g gp ((gp.keepPull g ePull).withPull b f (pullCode ePull)) :=
    let written := @onlyPul_withPull (gp.keepPull g ePull) g b f found _
    ⟨written.cfg, written.pul, written.dat, written.drv⟩
  exact ⟨only, only.onlyPin, fun _ _ => rfl, fun _ _ => rfl,
    fun _ other => Function.update_of_ne other _ _, fun _ other => update_kept other, rfl, rfl,
    rfl⟩

theorem touches_forgetMode :
    Touches g gp { gp with pinmodeRelease := Function.update gp.pinmodeRelease g (-1) } :=
  ⟨⟨fun _ _ _ _ => rfl, fun _ _ _ _ => rfl, fun _ => rfl, fun _ => rfl⟩, fun _ _ => rfl,
    fun _ other => Function.update_of_ne other _ _, fun _ _ => rfl, fun _ _ => rfl, rfl, rfl, rfl⟩

theorem touches_forgetPull :
    Touches g gp { gp with pinpullRelease := Function.update gp.pinpullRelease g (-1) } :=
  ⟨⟨fun _ _ _ _ => rfl, fun _ _ _ _ => rfl, fun _ => rfl, fun _ => rfl⟩, fun _ _ => rfl,
    fun _ _ => rfl, fun _ _ => rfl, fun _ other => Function.update_of_ne other _ _, rfl, rfl, rfl⟩

end Frames

/-! ### What is kept of a pin -/

/-- The mode of the pin is what it was in the registers `first`. -/
def SameMode (first gp : XGpio) (g : ℕ) : Prop :=
  ∀ b r j, IsCfgField g b r j → gp.cfgField b r j = first.cfgField b r j

/-- The pull resistor of the pin is what it was in the registers `first`. -/
def SamePull (first gp : XGpio) (g : ℕ) : Prop :=
  ∀ b r j, IsPulField g b r j → gp.pulField b r j = first.pulField b r j

/-- What is kept of the mode of a pin is its mode in `first`. -/
def ModeKept (first gp : XGpio) (g : ℕ) : Prop :=
  (gp.pinmodeRelease g = -1 ∧ gp.pinmode g = eArchGpioGetMode g first ∧ SameMode first gp g) ∨
    gp.pinmodeRelease g = eArchGpioGetMode g first

/-- What is kept of the pull resistor of a pin is that in `first`. -/
def PullKept (first gp : XGpio) (g : ℕ) : Prop :=
  (gp.pinpullRelease g = -1 ∧ gp.pinpull g = eArchGpioGetPull g first ∧ SamePull first gp g) ∨
    gp.pinpullRelease g = eArchGpioGetPull g first

/-- The registers have no mode and no pull resistor that cannot be written back. -/
structure Restorable (first : XGpio) : Prop where
  clear : ∀ b r j, (first.cfgField b r j).getLsbD 3 = false
  coded : ∀ b r j, first.pulField b r j ≠ 3

section Keeping

variable {first gp gp' : XGpio} {g g' b f : ℕ}

theorem pinBank_unique (found : pxGetPinBank g = some (b, f)) {b' f' : ℕ}
    (found' : pxGetPinBank g = some (b', f')) : b' = b ∧ f' = f :=
  Prod.mk.inj (Option.some.inj (found'.symm.trans found))

theorem isCfgField_iff (found : pxGetPinBank g = some (b, f)) {b' r j : ℕ} :
    IsCfgField g b' r j ↔ b' = b ∧ r = f / 8 ∧ j = f % 8 := by
  constructor
  · rintro ⟨f', found', isReg, isIndex⟩
    rcases pinBank_unique found found' with ⟨sameBank, rfl⟩
    exact ⟨sameBank, isReg, isIndex⟩
  · rintro ⟨rfl, isReg, isIndex⟩
    exact ⟨f, found, isReg, isIndex⟩

theorem isPulField_iff (found : pxGetPinBank g = some (b, f)) {b' r j : ℕ} :
    IsPulField g b' r j ↔ b' = b ∧ r = f / 16 ∧ j = f % 16 := by
  constructor
  · rintro ⟨f', found', isReg, isIndex⟩
    rcases pinBank_unique found found' with ⟨sameBank, rfl⟩
    exact ⟨sameBank, isReg, isIndex⟩
  · rintro ⟨rfl, isReg, isIndex⟩
    exact ⟨f, found, isReg, isIndex⟩

theorem ModeKept.of_pul (kept : ModeKept first gp g)
    (same : ∀ b, (gp'.bank b).cfg = (gp.bank b).cfg)
    (samePinmode : gp'.pinmode g = gp.pinmode g)
    (sameRelease : gp'.pinmodeRelease g = gp.pinmodeRelease g) : ModeKept first gp' g := by
  rcases kept with ⟨unchanged, isMode, sameMode⟩ | isKept
  · refine Or.inl ⟨sameRelease.trans unchanged, samePinmode.trans isMode, ?_⟩
    intro b r j isField
    rw [XGpio.cfgField, same b]
    exact sameMode b r j isField
  · exact Or.inr (sameRelease.trans isKept)

theorem PullKept.of_cfg (kept : PullKept first gp g)
    (same : ∀ b, (gp'.bank b).pul = (gp.bank b).pul)
    (samePinpull : gp'.pinpull g = gp.pinpull g)
    (sameRelease : gp'.pinpullRelease g = gp.pinpullRelease g) : PullKept first gp' g := by
  rcases kept with ⟨unchanged, isPull, samePull⟩ | isKept
  · refine Or.inl ⟨sameRelease.trans unchanged, samePinpull.trans isPull, ?_⟩
    intro b r j isField
    rw [XGpio.pulField, same b]
    exact samePull b r j isField
  · exact Or.inr (sameRelease.trans isKept)

/-- An operation on another pin. -/
theorem ModeKept.of_touches (inside : g < gpioSize) (inside' : g' < gpioSize) (other : g' ≠ g)
    (kept : ModeKept first gp g') (touches : Touches g gp gp') : ModeKept first gp' g' := by
  rcases kept with ⟨unchanged, isMode, sameMode⟩ | isKept
  · refine Or.inl ⟨(touches.pinmodeRelease g' other).trans unchanged,
      (touches.pinmode g' other).trans isMode, ?_⟩
    intro b r j isField
    rw [touches.onlyPin.cfg b r j fun isField' => other (cfgField_unique inside' inside isField
      isField')]
    exact sameMode b r j isField
  · exact Or.inr ((touches.pinmodeRelease g' other).trans isKept)

theorem PullKept.of_touches (inside : g < gpioSize) (inside' : g' < gpioSize) (other : g' ≠ g)
    (kept : PullKept first gp g') (touches : Touches g gp gp') : PullKept first gp' g' := by
  rcases kept with ⟨unchanged, isPull, samePull⟩ | isKept
  · refine Or.inl ⟨(touches.pinpullRelease g' other).trans unchanged,
      (touches.pinpull g' other).trans isPull, ?_⟩
    intro b r j isField
    rw [touches.onlyPin.pul b r j fun isField' => other (pulField_unique inside' inside isField
      isField')]
    exact samePull b r j isField
  · exact Or.inr ((touches.pinpullRelease g' other).trans isKept)

theorem ModeKept.setMode (found : pxGetPinBank g = some (b, f))
    (positive : 0 ≤ eArchGpioGetMode g first) (kept : ModeKept first gp g) (eMode : ℤ) :
    ModeKept first (iArchGpioSetMode g eMode gp).2 g := by
  rcases @setMode_cases gp g b f found eMode with ⟨value, _, _, _, written⟩ | ⟨_, rejected⟩
  · rw [written]
    right
    have release : ((gp.withMode b f (BitVec.ofInt 4 value)).keepMode g value).pinmodeRelease =
        if gp.pinmodeRelease g = -1 then Function.update gp.pinmodeRelease g (gp.pinmode g)
        else gp.pinmodeRelease := rfl
    rw [release]
    rcases kept with ⟨unchanged, isMode, _⟩ | isKept
    · rw [if_pos unchanged, Function.update_self]
      exact isMode
    · rw [if_neg (by omega)]
      exact isKept
  · rw [rejected]
    exact kept

theorem PullKept.setPull (found : pxGetPinBank g = some (b, f))
    (unsigned : 0 ≤ eArchGpioGetPull g first) (kept : PullKept first gp g) {ePull : ℤ}
    (positive : 0 ≤ ePull) (small : ePull ≤ 2) :
    PullKept first (iArchGpioSetPull g ePull gp).2 g := by
  rw [setPull_eq found positive small]
  right
  have release : ((gp.keepPull g ePull).withPull b f (pullCode ePull)).pinpullRelease =
      if gp.pinpullRelease g = -1 then Function.update gp.pinpullRelease g (gp.pinpull g)
      else gp.pinpullRelease := rfl
  rw [release]
  rcases kept with ⟨unchanged, isPull, _⟩ | isKept
  · rw [if_pos unchanged, Function.update_self]
    exact isPull
  · rw [if_neg (by omega)]
    exact isKept

/-- The first part of a release. -/
def releaseMode (g : ℕ) (gp : XGpio) : ℤ × XGpio :=
  if gp.pinmodeRelease g ≠ -1 then
    let set := iArchGpioSetMode g (gp.pinmodeRelease g) gp
    (set.1, { set.2 with pinmodeRelease := Function.update set.2.pinmodeRelease g (-1) })
  else (0, gp)

/-- The second part. -/
def releasePull (g : ℕ) (gp : XGpio) : ℤ × XGpio :=
  if gp.pinpullRelease g ≠ -1 then
    let set := iArchGpioSetPull g (gp.pinpullRelease g) gp
    (set.1, { set.2 with pinpullRelease := Function.update set.2.pinpullRelease g (-1) })
  else (0, gp)

/-- The mode is written back, and kept again. -/
theorem releaseMode_restores (restorable : Restorable first) (found : pxGetPinBank g = some (b, f))
    (kept : ModeKept first gp g) :
    (releaseMode g gp).1 = 0 ∧ SameMode first (releaseMode g gp).2 g ∧
      ModeKept first (releaseMode g gp).2 g ∧ OnlyCfg g gp (releaseMode g gp).2 ∧
      Touches g gp (releaseMode g gp).2 ∧ (releaseMode g gp).2.pinpull = gp.pinpull ∧
      (releaseMode g gp).2.pinpullRelease = gp.pinpullRelease := by
  rcases getMode_eq found (restorable.clear b (f / 8) (f % 8)) with ⟨positive, small, isField⟩
  by_cases unchanged : gp.pinmodeRelease g = -1
  · rcases kept with ⟨_, isMode, sameMode⟩ | isKept
    · rw [releaseMode, if_neg (not_not.mpr unchanged)]
      exact ⟨rfl, sameMode, Or.inl ⟨unchanged, isMode, sameMode⟩,
        ⟨fun _ _ _ _ => rfl, fun _ => rfl, fun _ => rfl, fun _ => rfl⟩, touches_refl g gp, rfl,
        rfl⟩
    · omega
  · have isKept : gp.pinmodeRelease g = eArchGpioGetMode g first := by
      rcases kept with ⟨release, _⟩ | isKept
      · exact absurd release unchanged
      · exact isKept
    have frame := @touches_setMode gp g b f found (gp.pinmodeRelease g)
    rcases @setMode_cases gp g b f found (gp.pinmodeRelease g) with
      ⟨value, _, _, same, written⟩ | ⟨rejected, _⟩
    · have isValue : value = eArchGpioGetMode g first :=
        (same (isKept ▸ positive) (isKept ▸ small)).trans isKept
      rw [releaseMode, if_pos unchanged]
      rw [written] at frame
      simp only [written]
      have sameMode : SameMode first
          ((gp.withMode b f (BitVec.ofInt 4 value)).keepMode g value) g := by
        intro b' r j isField'
        rcases (isCfgField_iff found).mp isField' with ⟨rfl, rfl, rfl⟩
        rw [← isField, ← isValue]
        exact cfgField_withMode
      refine ⟨trivial, sameMode, Or.inl ⟨Function.update_self .., ?_, sameMode⟩,
        ⟨frame.1.cfg, frame.1.pul, frame.1.dat, frame.1.drv⟩,
        frame.2.trans touches_forgetMode, rfl, rfl⟩
      change Function.update gp.pinmode g value g = _
      rw [Function.update_self, isValue]
    · rw [isKept] at rejected
      exact absurd ⟨positive, small⟩ rejected

theorem releasePull_restores (restorable : Restorable first) (found : pxGetPinBank g = some (b, f))
    (kept : PullKept first gp g) :
    SamePull first (releasePull g gp).2 g ∧ PullKept first (releasePull g gp).2 g ∧
      OnlyPul g gp (releasePull g gp).2 ∧ Touches g gp (releasePull g gp).2 ∧
      (releasePull g gp).2.pinmode = gp.pinmode ∧
      (releasePull g gp).2.pinmodeRelease = gp.pinmodeRelease := by
  rcases getPull_eq found (restorable.coded b (f / 16) (f % 16)) with ⟨positive, small, isField⟩
  by_cases unchanged : gp.pinpullRelease g = -1
  · rcases kept with ⟨_, isPull, samePull⟩ | isKept
    · rw [releasePull, if_neg (not_not.mpr unchanged)]
      exact ⟨samePull, Or.inl ⟨unchanged, isPull, samePull⟩,
        ⟨fun _ => rfl, fun _ _ _ _ => rfl, fun _ => rfl, fun _ => rfl⟩, touches_refl g gp, rfl,
        rfl⟩
    · omega
  · have isKept : gp.pinpullRelease g = eArchGpioGetPull g first := by
      rcases kept with ⟨release, _⟩ | isKept
      · exact absurd release unchanged
      · exact isKept
    have frame := @touches_setPull gp g b f found _ (isKept ▸ positive) (isKept ▸ small)
    rw [releasePull, if_pos unchanged]
    rw [setPull_eq found (isKept ▸ positive) (isKept ▸ small)] at frame
    simp only [setPull_eq found (isKept ▸ positive) (isKept ▸ small)]
    have samePull : SamePull first ((gp.keepPull g (gp.pinpullRelease g)).withPull b f
        (pullCode (gp.pinpullRelease g))) g := by
      intro b' r j isField'
      rcases (isPulField_iff found).mp isField' with ⟨rfl, rfl, rfl⟩
      rw [← isField, isKept]
      exact pulField_withPull
    refine ⟨samePull, Or.inl ⟨Function.update_self .., ?_, samePull⟩,
      ⟨frame.1.cfg, frame.1.pul, frame.1.dat, frame.1.drv⟩,
      frame.2.trans touches_forgetPull, rfl, rfl⟩
    change Function.update gp.pinpull g (gp.pinpullRelease g) g = _
    rw [Function.update_self, isKept]

theorem release_eq (accepted : (releaseMode g gp).1 = 0) :
    (iArchGpioRelease g gp).2 = (releasePull g (releaseMode g gp).2).2 := by
  by_cases changed : (releaseMode g gp).2.pinpullRelease g ≠ -1
  · rw [releasePull, if_pos changed]
    exact congrArg Prod.snd (if_pos ⟨accepted, changed⟩)
  · have unchanged : iArchGpioRelease g gp = releaseMode g gp := if_neg fun both => changed both.2
    rw [unchanged, releasePull, if_neg changed]

/-- A release writes back both fields. -/
theorem release_restores (restorable : Restorable first) (found : pxGetPinBank g = some (b, f))
    (modeKept : ModeKept first gp g) (pullKept : PullKept first gp g) :
    (SameMode first (iArchGpioRelease g gp).2 g ∧ SamePull first (iArchGpioRelease g gp).2 g) ∧
      ModeKept first (iArchGpioRelease g gp).2 g ∧ PullKept first (iArchGpioRelease g gp).2 g ∧
      Touches g gp (iArchGpioRelease g gp).2 := by
  rcases releaseMode_restores restorable found modeKept with
    ⟨accepted, sameMode, modeKept', onlyCfg, touchesMode, samePinpull, sameRelease⟩
  have pullKept' : PullKept first (releaseMode g gp).2 g :=
    pullKept.of_cfg onlyCfg.pul (congrFun samePinpull g) (congrFun sameRelease g)
  rcases releasePull_restores restorable found pullKept' with
    ⟨samePull, pullKept'', onlyPul, touchesPull, samePinmode, sameModeRelease⟩
  rw [release_eq accepted]
  refine ⟨⟨?_, samePull⟩, modeKept'.of_pul onlyPul.cfg (congrFun samePinmode g)
    (congrFun sameModeRelease g), pullKept'', touchesMode.trans touchesPull⟩
  intro b' r j isField
  rw [XGpio.cfgField, onlyPul.cfg b']
  exact sameMode b' r j isField

end Keeping

/-! ### Runs -/

/-- What is kept of the pins leads back to the registers `first`. -/
def Kept (first gp : XGpio) : Prop :=
  ∀ g < gpioSize, ModeKept first gp g ∧ PullKept first gp g

/-- What an operation may change in the registers. -/
def GpioCall.Only (call : GpioCall) (gp gp' : XGpio) : Prop :=
  match call with
  | setMode g _ => OnlyCfg g gp gp'
  | setPull g _ => OnlyPul g gp gp'
  | release g => OnlyPin g gp gp'

section Runs

variable {first gp : XGpio}

theorem Kept.of_touches {gp' : XGpio} {g : ℕ} (kept : Kept first gp) (inside : g < gpioSize)
    (touches : Touches g gp gp') (modeKept : ModeKept first gp' g)
    (pullKept : PullKept first gp' g) : Kept first gp' := by
  intro g' inside'
  by_cases here : g' = g
  · subst here
    exact ⟨modeKept, pullKept⟩
  · rcases kept g' inside' with ⟨modeKept', pullKept'⟩
    exact ⟨modeKept'.of_touches inside inside' here touches,
      pullKept'.of_touches inside inside' here touches⟩

theorem kept_call (restorable : Restorable first) (kept : Kept first gp) {call : GpioCall}
    (fits : call.Fits) : call.Only gp (call.run gp) ∧ Kept first (call.run gp) ∧
      Touches call.pin gp (call.run gp) := by
  cases call with
  | setMode g eMode =>
      rcases exists_pinBank fits with ⟨b, f, found⟩
      rcases kept g fits with ⟨modeKept, pullKept⟩
      rcases @touches_setMode gp g b f found eMode with ⟨only, touches⟩
      have positive := (getMode_eq found (restorable.clear b (f / 8) (f % 8))).1
      have sameKept : (iArchGpioSetMode g eMode gp).2.pinpull = gp.pinpull ∧
          (iArchGpioSetMode g eMode gp).2.pinpullRelease = gp.pinpullRelease := by
        rcases @setMode_cases gp g b f found eMode with ⟨value, _, _, _, written⟩ | ⟨_, rejected⟩
        · rw [written]
          exact ⟨rfl, rfl⟩
        · rw [rejected]
          exact ⟨rfl, rfl⟩
      exact ⟨only, kept.of_touches fits touches (modeKept.setMode found positive eMode)
        (pullKept.of_cfg only.pul (congrFun sameKept.1 g) (congrFun sameKept.2 g)), touches⟩
  | setPull g ePull =>
      rcases fits with ⟨inside, positive, small⟩
      rcases exists_pinBank inside with ⟨b, f, found⟩
      rcases kept g inside with ⟨modeKept, pullKept⟩
      rcases @touches_setPull gp g b f found _ positive small with ⟨only, touches⟩
      have unsigned := (getPull_eq found (restorable.coded b (f / 16) (f % 16))).1
      have sameKept : (iArchGpioSetPull g ePull gp).2.pinmode = gp.pinmode ∧
          (iArchGpioSetPull g ePull gp).2.pinmodeRelease = gp.pinmodeRelease := by
        rw [setPull_eq found positive small]
        exact ⟨rfl, rfl⟩
      exact ⟨only, kept.of_touches inside touches
        (modeKept.of_pul only.cfg (congrFun sameKept.1 g) (congrFun sameKept.2 g))
        (pullKept.setPull found unsigned positive small), touches⟩
  | release g =>
      rcases exists_pinBank fits with ⟨b, f, found⟩
      rcases kept g fits with ⟨modeKept, pullKept⟩
      rcases release_restores restorable found modeKept pullKept with
        ⟨_, modeKept', pullKept', touches⟩
      exact ⟨touches.onlyPin, kept.of_touches fits touches modeKept' pullKept', touches⟩

/-- The pins as they are at the opening. -/
theorem kept_open (closed : gp.isOpen = false) : Kept gp (xGpioOpen gp) := by
  have opened : ¬gp.isOpen = true := by rw [closed]; decide
  intro g inside
  rw [xGpioOpen, if_neg opened]
  exact ⟨Or.inl ⟨if_pos inside, if_pos inside, fun _ _ _ _ => rfl⟩,
    Or.inl ⟨if_pos inside, if_pos inside, fun _ _ _ _ => rfl⟩⟩

/-- The GPIO is open once, and its pins are released when it is closed. -/
def Opened (gp : XGpio) : Prop := gp.isOpen = true ∧ gp.link = 1 ∧ gp.roc = true

theorem opened_open (closed : gp.isOpen = false) : Opened (xGpioOpen gp) := by
  have opened : ¬gp.isOpen = true := by rw [closed]; decide
  rw [xGpioOpen, if_neg opened]
  exact ⟨rfl, rfl, rfl⟩

theorem kept_run (restorable : Restorable first) {calls : List GpioCall}
    (fits : ∀ call ∈ calls, call.Fits) (kept : Kept first gp) (opened : Opened gp) :
    Kept first (gp.run calls) ∧ Opened (gp.run calls) := by
  induction calls generalizing gp with
  | nil => exact ⟨kept, opened⟩
  | cons call calls ih =>
      rcases kept_call restorable kept (fits call (List.mem_cons_self ..)) with ⟨_, kept', touches⟩
      rcases opened with ⟨isOpen, isLink, isRoc⟩
      exact ih (fun later isLater => fits later (List.mem_cons_of_mem _ isLater)) kept'
        ⟨touches.isOpen.trans isOpen, touches.link.trans isLink, touches.roc.trans isRoc⟩

/-- The loop of `iGpioClose` over the pins. -/
theorem restored_releases (restorable : Restorable first) (pins : List ℕ)
    (inside : ∀ g ∈ pins, g < gpioSize) (distinct : pins.Nodup) (kept : Kept first gp) :
    (∀ g ∈ pins, SameMode first (pins.foldl (fun gp g => (iArchGpioRelease g gp).2) gp) g ∧
      SamePull first (pins.foldl (fun gp g => (iArchGpioRelease g gp).2) gp) g) ∧
      ∀ g < gpioSize, g ∉ pins → SameMode first gp g → SamePull first gp g →
        SameMode first (pins.foldl (fun gp g => (iArchGpioRelease g gp).2) gp) g ∧
          SamePull first (pins.foldl (fun gp g => (iArchGpioRelease g gp).2) gp) g := by
  induction pins generalizing gp with
  | nil => exact ⟨fun _ isPin => (nomatch isPin), fun _ _ _ mode pull => ⟨mode, pull⟩⟩
  | cons pin pins ih =>
      have pinInside := inside pin (List.mem_cons_self ..)
      rcases exists_pinBank pinInside with ⟨b, f, found⟩
      rcases kept pin pinInside with ⟨modeKept, pullKept⟩
      rcases release_restores restorable found modeKept pullKept with
        ⟨⟨sameMode, samePull⟩, modeKept', pullKept', touches⟩
      rcases List.nodup_cons.mp distinct with ⟨fresh, distinct'⟩
      rcases ih (fun g isPin => inside g (List.mem_cons_of_mem _ isPin)) distinct'
        (kept.of_touches pinInside touches modeKept' pullKept') with ⟨restored, stays⟩
      constructor
      · intro g isPin
        rcases List.mem_cons.mp isPin with rfl | later
        · exact stays g pinInside fresh sameMode samePull
        · exact restored g later
      · intro g isInside absent mode pull
        rw [List.mem_cons, not_or] at absent
        refine stays g isInside absent.2 ?_ ?_
        · intro b' r j isField
          rw [touches.onlyPin.cfg b' r j fun isField' =>
            absent.1 (cfgField_unique isInside pinInside isField isField')]
          exact mode b' r j isField
        · intro b' r j isField
          rw [touches.onlyPin.pul b' r j fun isField' =>
            absent.1 (pulField_unique isInside pinInside isField isField')]
          exact pull b' r j isField

end Runs

/-- The closing of a GPIO that is open once. -/
theorem restored_close {first gp : XGpio} (restorable : Restorable first) (kept : Kept first gp)
    (opened : Opened gp) {g : ℕ} (inside : g < gpioSize) :
    SameMode first (iGpioClose gp) g ∧ SamePull first (iGpioClose gp) g := by
  rcases opened with ⟨isOpen, isLink, isRoc⟩
  have last : gp.link - 1 ≤ 0 := by omega
  have closes : (iGpioClose gp).bank =
      ((List.range gpioSize).foldl (fun gp g => (iArchGpioRelease g gp).2) gp).bank := by
    simp only [iGpioClose, isOpen, last, isRoc, if_true]
  have restored := (restored_releases restorable (List.range gpioSize)
    (fun _ => List.mem_range.mp) List.nodup_range kept).1 g (List.mem_range.mpr inside)
  constructor
  · intro b r j isField
    rw [XGpio.cfgField, closes]
    exact restored.1 b r j isField
  · intro b r j isField
    rw [XGpio.pulField, closes]
    exact restored.2 b r j isField

/-- Every operation changes the fields of its pin only, which no other pin has, and a release and
the closing lead back to the fields at the opening. -/
theorem fields_restored {gp : XGpio} (closed : gp.isOpen = false)
    (clear : ∀ b r j, (gp.cfgField b r j).getLsbD 3 = false)
    (coded : ∀ b r j, gp.pulField b r j = 0 ∨ gp.pulField b r j = 1 ∨ gp.pulField b r j = 2)
    {calls : List GpioCall} (fits : ∀ call ∈ calls, call.Fits) :
    (∀ before call after, calls = before ++ call :: after →
      call.Only ((xGpioOpen gp).run before) (call.run ((xGpioOpen gp).run before))) ∧
      (∀ g < gpioSize, ∀ g' < gpioSize, g ≠ g' → ∀ b r j,
        ¬(IsCfgField g b r j ∧ IsCfgField g' b r j) ∧
          ¬(IsPulField g b r j ∧ IsPulField g' b r j)) ∧
      (∀ before g after, calls = before ++ .release g :: after →
        SameMode gp ((xGpioOpen gp).run (before ++ [.release g])) g ∧
          SamePull gp ((xGpioOpen gp).run (before ++ [.release g])) g) ∧
      ∀ g < gpioSize, SameMode gp (iGpioClose ((xGpioOpen gp).run calls)) g ∧
        SamePull gp (iGpioClose ((xGpioOpen gp).run calls)) g := by
  have restorable : Restorable gp := by
    refine ⟨clear, fun b r j isThree => ?_⟩
    have codes := coded b r j
    rw [isThree] at codes
    revert codes
    decide
  have kept : ∀ {now : List GpioCall}, (∀ call ∈ now, call.Fits) →
      Kept gp ((xGpioOpen gp).run now) ∧ Opened ((xGpioOpen gp).run now) := fun fits =>
    kept_run restorable fits (kept_open closed) (opened_open closed)
  refine ⟨?_, ?_, ?_, ?_⟩
  · rintro before call after rfl
    have fitsBefore : ∀ call ∈ before, call.Fits := fun call isBefore =>
      fits call (List.mem_append_left _ isBefore)
    exact (kept_call restorable (kept fitsBefore).1 (fits call (by simp))).1
  · intro g inside g' inside' other b r j
    exact ⟨fun both => other (cfgField_unique inside inside' both.1 both.2),
      fun both => other (pulField_unique inside inside' both.1 both.2)⟩
  · rintro before g after rfl
    have fitsBefore : ∀ call ∈ before, call.Fits := fun call isBefore =>
      fits call (List.mem_append_left _ isBefore)
    have inside : g < gpioSize := fits (.release g) (by simp)
    rcases exists_pinBank inside with ⟨b, f, found⟩
    rcases (kept fitsBefore).1 g inside with ⟨modeKept, pullKept⟩
    rw [XGpio.run, List.foldl_append]
    exact (release_restores restorable found modeKept pullKept).1
  · intro g inside
    rcases kept fits with ⟨kept', opened⟩
    exact restored_close restorable kept' opened inside

theorem clear_of_low {word : BitVec 32} (low : ∀ j < 8, (getField word 4 j).getLsbD 3 = false)
    (j : ℕ) : (getField word 4 j).getLsbD 3 = false := by
  by_cases inside : j < 8
  · exact low j inside
  · rw [getLsbD_getField, BitVec.getLsbD_of_ge word _ (by omega), Bool.and_false]

theorem coded_of_low {word : BitVec 32} (low : ∀ j < 16, getField word 2 j ≠ 3) (j : ℕ) :
    getField word 2 j = 0 ∨ getField word 2 j = 1 ∨ getField word 2 j = 2 := by
  have codes : ∀ field : BitVec 2, field ≠ 3 → field = 0 ∨ field = 1 ∨ field = 2 := by decide
  by_cases inside : j < 16
  · exact codes _ (low j inside)
  · left
    apply BitVec.eq_of_getLsbD_eq
    intro i _
    rw [getLsbD_getField, BitVec.getLsbD_of_ge word _ (by omega), Bool.and_false]
    exact BitVec.getLsbD_zero.symm

/-- A closed GPIO with pins that are disabled, inputs, outputs and functions. -/
def closedGpio : XGpio where
  bank _ := ⟨fun _ => 0x77231077, 5, fun _ => 0x55555555, fun _ => 0x00009540⟩
  isOpen := false
  pinmode _ := 0
  pinmodeRelease _ := 0
  pinpull _ := 0
  pinpullRelease _ := 0
  link := 0
  roc := false

/-- The pin 6 is closed as a PWM with a pull resistor, and the pin 12 released in between. -/
theorem fields_restored_closedGpio :
    let calls := [.setMode 6 1, .setMode 12 3, .setPull 12 2, .setMode 6 0x8002, .release 12,
      .setPull 6 1]
    SameMode closedGpio (iGpioClose ((xGpioOpen closedGpio).run calls)) 6 ∧
      SamePull closedGpio (iGpioClose ((xGpioOpen closedGpio).run calls)) 6 := by
  intro calls
  have clear : ∀ b r j, (closedGpio.cfgField b r j).getLsbD 3 = false :=
    fun _ _ => @clear_of_low 0x77231077 (by decide)
  have coded : ∀ b r j, closedGpio.pulField b r j = 0 ∨ closedGpio.pulField b r j = 1 ∨
      closedGpio.pulField b r j = 2 := fun _ _ => @coded_of_low 0x00009540 (by decide)
  have fits : ∀ call ∈ calls, call.Fits := by simp [calls, GpioCall.Fits, gpioSize]
  exact (fields_restored rfl clear coded fits).2.2.2 6 (by decide)

end Sysio.Gpio.NanoPi
