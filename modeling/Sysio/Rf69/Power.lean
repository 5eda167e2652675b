import Sysio.Rf69.Opening

/-!
# The level of the amplifier

The register has half of the level if high power was on when it was set, and `iRf69PowerLevel`
doubles what the register has if high power is on when it is read. `iRf69SetHighPower` leaves the
level in the register as it is: a level is read as it was set only if high power is as it was
then.
-/

namespace Sysio.Rf69

open Routine

/-- The calls that set the amplifier, to a level that it may have. -/
def Rf69Call.SetsPower : Rf69Call → Prop
  | .iRf69SetHighPower _ => True
  | .iRf69SetPowerLevel level => 0 ≤ level ∧ level ≤ 31
  | _ => False

/-- Whether high power is on, the last level that has been set, and whether it was on then. -/
structure PowerSetting where
  isOn : Bool
  level : ℤ
  wasOn : Bool

/-- `iRf69Open` sets a level as well. -/
def PowerSetting.opened : PowerSetting := ⟨false, rf69DefaultPower, false⟩

/-- What a call that succeeds sets. -/
def PowerSetting.next (setting : PowerSetting) : Rf69Call → PowerSetting
  | .iRf69SetHighPower bOn => { setting with isOn := bOn }
  | .iRf69SetPowerLevel level => ⟨setting.isOn, level, setting.isOn⟩
  | _ => setting

/-- The level to be read. -/
def PowerSetting.expected (setting : PowerSetting) : ℤ :=
  if setting.isOn then setting.level - setting.level % 2 else setting.level

/-- The level in the register. -/
def PowerSetting.stored (setting : PowerSetting) : ℤ :=
  if setting.wasOn then setting.level / 2 else setting.level

/-- The amplifiers that are selected. -/
def paSelection (isOn : Bool) : UInt8 :=
  if isOn then rfPalevelPa1On ||| rfPalevelPa2On else rfPalevelPa0On

/-- What is read next is the register of the level. -/
def Rf69World.tellingPalevel (initial : UInt8 → UInt8) (w : Rf69World) : Rf69World :=
  w.telling fun _ => w.registers initial regPalevel

/-- One call after the other. -/
def Rf69World.powerRun (w : Rf69World) (initial : UInt8 → UInt8) (calls : List Rf69Call) :
    Rf69World :=
  calls.foldl (fun w call => (call.run (w.tellingPalevel initial)).2) w

/-- The level is read as it is expected, and the amplifiers are selected. -/
def PowerRight (initial : UInt8 → UInt8) (setting : PowerSetting) (w : Rf69World) : Prop :=
  (∃ r next, iRf69PowerLevel quiet (w.tellingPalevel initial) = (.ok r, next) ∧
    0 ≤ r ∧ r ≤ 31 ∧ r = setting.expected) ∧
  w.registers initial regPalevel &&& 0xE0 = paSelection setting.isOn

/-- The driver and the register are as the calls have left them. -/
structure Powered (initial : UInt8 → UInt8) (setting : PowerSetting) (w : Rf69World) : Prop where
  works : ∀ i, 0 ≤ (w.env i).fault
  isOn : w.rf.isRfm69hw = setting.isOn
  level : 0 ≤ setting.level ∧ setting.level ≤ 31
  cached : w.rf.powerLevel = UInt8.ofInt setting.stored
  register : w.registers initial regPalevel =
    paSelection setting.isOn ||| UInt8.ofInt setting.stored

variable {initial : UInt8 → UInt8} {setting : PowerSetting} {w : Rf69World}

/-! ### The byte of the register -/

/-- The selection of the amplifiers and the level share a register. -/
theorem level_bits (isOn : Bool) : ∀ level < 32,
    (paSelection isOn ||| UInt8.ofInt (level : ℕ)) &&& 0x1F = UInt8.ofInt (level : ℕ) ∧
      (paSelection isOn ||| UInt8.ofInt (level : ℕ)) &&& 0xE0 = paSelection isOn ∧
      (UInt8.ofInt (level : ℕ)).toNat = level ∧
      (UInt8.ofInt (level : ℕ) * 2).toNat = 2 * level := by
  cases isOn <;> decide

theorem Powered.stored_lt (powered : Powered initial setting w) :
    ∃ level : ℕ, level < 32 ∧ setting.stored = level := by
  have bounds := powered.level
  refine ⟨setting.stored.toNat, ?_, ?_⟩
  all_goals
    rw [PowerSetting.stored]
    split <;> omega

/-- What `iRf69SetPowerLevel` stores is what the setting says. -/
theorem storedLevel_eq {rf : XRf69} {level : ℤ} (isOn : rf.isRfm69hw = setting.isOn)
    (bounds : 0 ≤ level ∧ level ≤ 31) :
    rf.storedLevel level =
      UInt8.ofInt (setting.next (.iRf69SetPowerLevel level)).stored := by
  rw [XRf69.storedLevel, PowerSetting.next, PowerSetting.stored, isOn, min_eq_left bounds.2,
    Int.tdiv_eq_ediv_of_nonneg bounds.1]

theorem steady_tellingPalevel : Steady (w.tellingPalevel initial).env initial w.rf
    (w.registers initial) (w.tellingPalevel initial) := ⟨rfl, rfl, rfl⟩

theorem Powered.told (powered : Powered initial setting w) :
    ∀ i, 0 ≤ ((w.tellingPalevel initial).env i).fault := powered.works

/-! ### The calls -/

/-- High power is switched, and the level in the register stays. -/
theorem Powered.setHighPower (bOn : Bool) (powered : Powered initial setting w) :
    Powered initial (setting.next (.iRf69SetHighPower bOn))
      (iRf69SetHighPower quiet bOn (w.tellingPalevel initial)).2 := by
  rcases (steady_setHighPower powered.told).run steady_tellingPalevel with
    ⟨r, next, runs, -, i, isEnv, isRf, isRegisters⟩
  rcases powered.stored_lt with ⟨level, lt, isLevel⟩
  rw [runs]
  refine ⟨?_, ?_, powered.level, ?_, ?_⟩
  · rw [isEnv]
    exact powered.works
  · rw [isRf]
    rfl
  · rw [isRf]
    exact powered.cached
  · have written : w.rf.palevel bOn (w.registers initial regPalevel) =
        paSelection bOn ||| UInt8.ofInt setting.stored := by
      cases bOn with
      | true =>
          rw [powered.register, isLevel]
          have bits := (level_bits setting.isOn level lt).1
          change (_ &&& _ ||| _ ||| _ : UInt8) = _
          rw [bits, UInt8.or_assoc, UInt8.or_comm]
          rfl
      | false =>
          rw [← powered.cached]
          rfl
    rw [isRegisters, Function.update_self]
    exact written

/-- A level is set, and the selection stays. -/
theorem Powered.setPowerLevel {level : ℤ} (bounds : 0 ≤ level ∧ level ≤ 31)
    (powered : Powered initial setting w) :
    Powered initial (setting.next (.iRf69SetPowerLevel level))
      (iRf69SetPowerLevel quiet level (w.tellingPalevel initial)).2 := by
  rcases (told_setPowerLevel powered.told).run ⟨steady_tellingPalevel, rfl⟩ with
    ⟨r, next, runs, -, isEnv, isRf, isRegisters⟩
  rcases powered.stored_lt with ⟨old, lt, isOld⟩
  rw [runs]
  refine ⟨?_, ?_, bounds, ?_, ?_⟩
  · rw [isEnv]
    exact powered.works
  · rw [isRf]
    exact powered.isOn
  · rw [isRf]
    exact storedLevel_eq powered.isOn bounds
  · have selected : w.registers initial regPalevel &&& 0xE0 = paSelection setting.isOn := by
      rw [powered.register, isOld]
      exact (level_bits setting.isOn old lt).2.1
    rw [isRegisters, Function.update_self, storedLevel_eq powered.isOn bounds]
    exact congrArg (· ||| _) selected

/-- A call keeps the invariant. -/
theorem Powered.next {call : Rf69Call} (sets : call.SetsPower)
    (powered : Powered initial setting w) :
    Powered initial (setting.next call) (call.run (w.tellingPalevel initial)).2 := by
  cases call with
  | iRf69SetHighPower bOn => exact powered.setHighPower bOn
  | iRf69SetPowerLevel level => exact powered.setPowerLevel sets
  | _ => exact sets.elim

/-- So does a run. -/
theorem powered_run {calls : List Rf69Call} (sets : ∀ call ∈ calls, call.SetsPower)
    (powered : Powered initial setting w) :
    Powered initial (calls.foldl PowerSetting.next setting) (w.powerRun initial calls) := by
  induction calls generalizing setting w with
  | nil => exact powered
  | cons call calls ih =>
      apply ih fun later among => sets later (List.mem_cons_of_mem _ among)
      exact powered.next (sets call (List.mem_cons_self ..))

/-! ### Reading -/

theorem told_powerLevel {env : ℕ → Rf69Answer} {rf : XRf69} {registers : UInt8 → UInt8}
    {clock : ℕ} (works : ∀ i, 0 ≤ (env i).fault) :
    Finishes (fun w => Steady env initial rf registers w ∧ w.clock = clock)
      (iRf69PowerLevel quiet) fun r _ =>
        r = ((if rf.isRfm69hw then ((env clock).value &&& 0x1F) * 2
          else (env clock).value &&& 0x1F).toNat : ℤ) := by
  apply ensures_bind _ (told_readByte works)
  rintro b w ⟨isValue, steady, -⟩
  rw [isValue (by decide) (by decide)]
  refine ensures_bind_value steady_access ?_ w steady
  exact ensures_pure fun _ _ => rfl

/-- The level is read as expected just if high power has not been switched since it was set. -/
theorem Powered.right_iff (powered : Powered initial setting w) :
    PowerRight initial setting w ↔ setting.isOn = setting.wasOn ∨ setting.level = 0 := by
  rcases (told_powerLevel powered.told).run ⟨steady_tellingPalevel, rfl⟩ with
    ⟨r, next, runs, isRead⟩
  rcases powered.stored_lt with ⟨level, lt, isLevel⟩
  rcases level_bits setting.isOn level lt with ⟨low, high, once, twice⟩
  have value : ((w.tellingPalevel initial).env (w.tellingPalevel initial).clock).value =
      paSelection setting.isOn ||| UInt8.ofInt (level : ℕ) := by
    rw [← isLevel, ← powered.register]
    rfl
  have selected : w.registers initial regPalevel &&& 0xE0 = paSelection setting.isOn := by
    rw [powered.register, isLevel]
    exact high
  have isRead : r = if setting.isOn then 2 * setting.stored else setting.stored := by
    rw [isRead, powered.isOn, value, low, isLevel]
    split
    · rw [twice]
      exact Int.natCast_mul 2 level
    · rw [once]
  have same : PowerRight initial setting w ↔ 0 ≤ r ∧ r ≤ 31 ∧ r = setting.expected := by
    constructor
    · rintro ⟨⟨r', next', runs', right⟩, -⟩
      rw [runs] at runs'
      cases runs'
      exact right
    · exact fun right => ⟨⟨r, next, runs, right⟩, selected⟩
  have bounds := powered.level
  rw [same, isRead, PowerSetting.expected, PowerSetting.stored]
  cases setting.isOn <;> cases setting.wasOn <;> simp <;> omega

/-! ### From the opening on -/

section

variable {eBand : ERf69Band} {ucNodeId ucNetId : UInt8} {calls : List Rf69Call}

/-- The invariant holds when the driver is open. -/
theorem powered_opened (works : ∀ i, 0 ≤ (w.env i).fault) (isLevel : w.rf.powerLevel ≤ 31)
    (opens : (iRf69Open quiet eBand ucNodeId ucNetId w.recorded).1 = .ok 0)
    (tells : w.TellsPalevel initial eBand ucNodeId ucNetId) :
    Powered initial .opened (w.opened eBand ucNodeId ucNetId) := by
  rcases steady_opened works opens with ⟨registers, ⟨isEnv, isRf, isRegisters⟩, -, isPalevel⟩
  have selected : (rfPalevelPa0On ||| w.rf.powerLevel) &&& 0xE0 = rfPalevelPa0On := by
    have bits : ∀ level < 32, (rfPalevelPa0On ||| UInt8.ofNat level) &&& 0xE0 = rfPalevelPa0On := by
      decide
    have level := bits w.rf.powerLevel.toNat (Nat.lt_succ_of_le isLevel)
    rwa [UInt8.ofNat_toNat] at level
  refine ⟨?_, ?_, by decide, ?_, ?_⟩
  · rw [isEnv]
    exact works
  · rw [isRf]
    rfl
  · rw [isRf]
    rfl
  · rw [isRegisters, isPalevel tells, selected]
    rfl

/-- The level is read as it has been set if and only if high power is as it was then, or the level
is zero. -/
theorem powerRight_iff (works : ∀ i, 0 ≤ (w.env i).fault) (isLevel : w.rf.powerLevel ≤ 31)
    (opens : (iRf69Open quiet eBand ucNodeId ucNetId w.recorded).1 = .ok 0)
    (tells : w.TellsPalevel initial eBand ucNodeId ucNetId)
    (sets : ∀ call ∈ calls, call.SetsPower) :
    PowerRight initial (calls.foldl PowerSetting.next .opened)
        ((w.opened eBand ucNodeId ucNetId).powerRun initial calls) ↔
      (calls.foldl PowerSetting.next .opened).isOn =
          (calls.foldl PowerSetting.next .opened).wasOn ∨
        (calls.foldl PowerSetting.next .opened).level = 0 :=
  (powered_run sets (powered_opened works isLevel opens tells)).right_iff

end

/-- High power is switched on before the level is set. -/
theorem powerRight_highFirst :
    PowerRight (fun _ => 0) ⟨true, 31, true⟩ ((newNode.opened .band868Mhz 1 100).powerRun
      (fun _ => 0) [.iRf69SetHighPower true, .iRf69SetPowerLevel 31]) := by
  have right := @powerRight_iff (fun _ => 0) newNode .band868Mhz 1 100
    [.iRf69SetHighPower true, .iRf69SetPowerLevel 31] (fun _ => le_refl 0) (by decide)
    (by decide +kernel) (by decide +kernel) (by simp [Rf69Call.SetsPower])
  exact right.mpr (.inl rfl)

/-- High power is switched on after the opening, which sets the level 18. -/
theorem not_powerRight_opened :
    (iRf69Open quiet .band868Mhz 1 100 newNode.recorded).1 = .ok 0 ∧
      newNode.TellsPalevel (fun _ => 0) .band868Mhz 1 100 ∧
      ¬PowerRight (fun _ => 0) ⟨true, 18, false⟩ ((newNode.opened .band868Mhz 1 100).powerRun
        (fun _ => 0) [.iRf69SetHighPower true]) := by
  have isRead : (iRf69PowerLevel quiet (((newNode.opened .band868Mhz 1 100).powerRun (fun _ => 0)
      [.iRf69SetHighPower true]).tellingPalevel fun _ => 0)).1 = .ok 36 := by
    decide +kernel
  refine ⟨by decide +kernel, by decide +kernel, ?_⟩
  rintro ⟨⟨r, next, runs, -, le, -⟩, -⟩
  rw [runs] at isRead
  cases isRead
  exact absurd le (by decide)

end Sysio.Rf69
