import Sysio.Rf69.Opening

/-!
# The amplifier

The two registers of the amplifier are written on the way to `Tx` and to `Rx`, and only while high
power is on. They fit the mode as long as high power is not switched in `Tx`, and is on again before
a mode is entered that would find them as they were left. They are looked at between the operations
and, while one is under way, each time that it has changed the mode: a frame is sent in `Tx` only
inside an operation.
-/

namespace Sysio.Rf69

open Routine

/-- What the registers of the amplifier should hold in these two modes. -/
def XRf69.IsAmplified (rf : XRf69) (registers : UInt8 → UInt8) : Prop :=
  (rf.mode = .rx → testpa registers = normalTestpa) ∧
    (rf.mode = .tx → (testpa registers = boostTestpa ↔ rf.isRfm69hw = true))

instance (rf : XRf69) (registers : UInt8 → UInt8) : Decidable (rf.IsAmplified registers) :=
  inferInstanceAs (Decidable (_ ∧ _))

/-- Each time that the mode was changed, an operation under way or not. -/
def ChangedRight (initial : UInt8 → UInt8) (changes : List (XRf69 × List Rf69Entry)) : Prop :=
  ∀ change ∈ changes,
    change.1.IsAmplified (change.2.foldl (fun registers entry => entry.store registers) initial)

instance (initial : UInt8 → UInt8) (changes : List (XRf69 × List Rf69Entry)) :
    Decidable (ChangedRight initial changes) :=
  inferInstanceAs (Decidable (∀ change ∈ changes, _))

/-- The amplifier is right, and was whenever the mode had been changed. -/
def AmplifierRight (initial : UInt8 → UInt8) (w : Rf69World) : Prop :=
  w.rf.IsAmplified (w.registers initial) ∧ ChangedRight initial w.changes

instance (initial : UInt8 → UInt8) (w : Rf69World) : Decidable (AmplifierRight initial w) :=
  inferInstanceAs (Decidable (_ ∧ _))

/-- The same world, with no change of mode recorded yet. -/
def Rf69World.watched (w : Rf69World) : Rf69World := { w with changes := [] }

/-- High power is not switched in `Tx`, and neither `Rx` nor `Tx` is entered with the amplifier
still at its high power when high power is off. -/
def Rf69Step.Fits (initial : UInt8 → UInt8) (w : Rf69World) : Rf69Step → Prop
  | operation (.iRf69SetHighPower bOn) => bOn = w.rf.isRfm69hw ∨ w.rf.mode ≠ .tx
  | operation call => call.enters = true →
      w.rf.isRfm69hw = true ∨ testpa (w.registers initial) ≠ boostTestpa
  | interrupt => True

/-- Every step of a run fits where it is taken. -/
def Fit (initial : UInt8 → UInt8) : Rf69World → List Rf69Step → Prop
  | _, [] => True
  | w, step :: steps => step.Fits initial w ∧ Fit initial (step.next w) steps

/-! ### Two invariants -/

/-- No transfer fails, the driver is open, and its mode, high power and the registers are related
so. -/
structure Amplifies (related : ERf69Mode → Bool → UInt8 × UInt8 → Prop) (initial : UInt8 → UInt8)
    (w : Rf69World) : Prop where
  works : ∀ i, 0 ≤ (w.env i).fault
  isOpen : w.rf.isOpen = true
  changed : ChangedRight initial w.changes
  related : related w.rf.mode w.rf.isRfm69hw (testpa (w.registers initial))

/-- The registers are as the last change of mode left them, and high power is as it was then. -/
def Agreeing (mode : ERf69Mode) (isRfm69hw : Bool) (levels : UInt8 × UInt8) : Prop :=
  (levels = normalTestpa ∧ (mode = .tx → isRfm69hw = false)) ∨
    (levels = boostTestpa ∧ isRfm69hw = true ∧ mode ≠ .rx)

/-- High power has been switched off since, outside of the modes that use the amplifier. -/
def LeftOver (mode : ERf69Mode) (isRfm69hw : Bool) (levels : UInt8 × UInt8) : Prop :=
  levels = boostTestpa ∧ isRfm69hw = false ∧ mode ≠ .rx ∧ mode ≠ .tx

section

variable {related : ERf69Mode → Bool → UInt8 × UInt8 → Prop} {initial registers : UInt8 → UInt8}
  {rf : XRf69} {newMode : ERf69Mode} {w : Rf69World}

/-- The amplifier agrees behind every change of mode. -/
theorem Agreeing.amplified (agreeing : Agreeing rf.mode rf.isRfm69hw (testpa registers)) :
    Agreeing newMode rf.isRfm69hw (testpa (rf.amplified newMode registers)) := by
  rw [XRf69.amplified]
  by_cases changes : rf.isRfm69hw = true ∧ newMode ≠ rf.mode
  · rw [if_pos changes]
    have others (notTx : newMode ≠ .tx) (notRx : newMode ≠ .rx) :
        Agreeing newMode rf.isRfm69hw (testpa registers) := by
      rcases agreeing with ⟨isNormal, -⟩ | ⟨isBoost, isOn, -⟩
      · exact .inl ⟨isNormal, fun isTx => absurd isTx notTx⟩
      · exact .inr ⟨isBoost, isOn, notRx⟩
    cases newMode with
    | tx =>
        rw [if_pos rfl, testpa_setTestpa]
        exact .inr ⟨rfl, changes.1, by decide⟩
    | rx =>
        rw [if_neg (by decide), if_pos rfl, testpa_setTestpa]
        exact .inl ⟨rfl, fun isTx => absurd isTx (by decide)⟩
    | synth => exact others (by decide) (by decide)
    | standby => exact others (by decide) (by decide)
    | sleep => exact others (by decide) (by decide)
  · rw [if_neg changes]
    have same (isOn : rf.isRfm69hw = true) : newMode = rf.mode := by
      by_contra isOther
      exact changes ⟨isOn, isOther⟩
    rcases agreeing with ⟨isNormal, isOff⟩ | ⟨isBoost, isOn, notRx⟩
    · refine .inl ⟨isNormal, fun isTx => ?_⟩
      rw [Bool.eq_false_iff]
      intro isOn
      rw [isOff ((same isOn).symm.trans isTx)] at isOn
      cases isOn
    · rw [← same isOn] at notRx
      exact .inr ⟨isBoost, isOn, notRx⟩

/-- What is left over stays so outside of Rx and Tx. -/
theorem LeftOver.amplified (notRx : newMode ≠ .rx) (notTx : newMode ≠ .tx)
    (leftOver : LeftOver rf.mode rf.isRfm69hw (testpa registers)) :
    LeftOver newMode rf.isRfm69hw (testpa (rf.amplified newMode registers)) := by
  rw [amplified_of_ne notTx notRx]
  exact ⟨leftOver.1, leftOver.2.1, notRx, notTx⟩

theorem Agreeing.isAmplified (agreeing : Agreeing rf.mode rf.isRfm69hw (testpa registers)) :
    rf.IsAmplified registers := by
  rcases agreeing with ⟨isNormal, isOff⟩ | ⟨isBoost, isOn, notRx⟩
  · refine ⟨fun _ => isNormal, fun isTx => ?_⟩
    rw [isNormal, isOff isTx]
    decide
  · exact ⟨fun isRx => absurd isRx notRx, fun _ => ⟨fun _ => isOn, fun _ => isBoost⟩⟩

theorem LeftOver.isAmplified (leftOver : LeftOver rf.mode rf.isRfm69hw (testpa registers)) :
    rf.IsAmplified registers := by
  rcases leftOver with ⟨-, -, notRx, notTx⟩
  exact ⟨fun isRx => absurd isRx notRx, fun isTx => absurd isTx notTx⟩

theorem amplifies_frame : Rf69Frame (Amplifies related initial) where
  nextAnswer _ _ holds := ⟨holds.works, holds.isOpen, holds.changed, holds.related⟩
  muted _ _ holds := ⟨holds.works, holds.isOpen, holds.changed, holds.related⟩
  fails _ _ plain _ holds :=
    ⟨holds.works, holds.isOpen, holds.changed, by rw [testpa_asked plain]; exact holds.related⟩
  serves _ _ plain _ holds :=
    ⟨holds.works, holds.isOpen, holds.changed,
      (congrArg _ (testpa_asked plain)).mpr holds.related⟩

theorem store_of_others {transfer : Rf69Transfer} (failed heard : Bool)
    (others : ∀ reg data, transfer ≠ .writeReg reg data) :
    (⟨transfer, failed, heard⟩ : Rf69Entry).store registers = registers := by
  cases transfer with
  | writeReg reg data => exact absurd rfl (others reg data)
  | readReg reg => rfl
  | readBlock reg len => rfl
  | writeBlock reg data => rfl

/-- What a function leaves of the amplifier, `iRf69SetMode` apart. -/
theorem amplifies_rules : Rf69StoreRules (Kept (Amplifies related initial)) where
  toRf69Rules := amplifies_frame.rules
  block others := by
    apply Ensures.keeps
    apply ensures_transact
    · intro w holds _
      refine ⟨holds.works, holds.isOpen, holds.changed, ?_⟩
      rw [registers_asked, store_of_others _ _ others]
      exact holds.related
    · intro w holds served
      refine ⟨holds.works, holds.isOpen, holds.changed, ?_⟩
      rw [registers_served served, store_of_others _ _ others]
      exact holds.related
  store := by
    intro write keeps w holds
    rcases keeps w.rf with ⟨sameMode, sameOpen, sameHigh⟩
    refine ⟨holds.works, sameOpen.trans holds.isOpen, holds.changed, ?_⟩
    change related (write w.rf).mode (write w.rf).isRfm69hw (testpa (w.registers initial))
    rw [sameMode, sameHigh]
    exact holds.related

/-- What is known of the driver and of the registers after an operation. -/
theorem Amplifies.reached {related' : ERf69Mode → Bool → UInt8 × UInt8 → Prop} {next : Rf69World}
    (holds : Amplifies related initial w) (steady : Steady w.env initial rf registers next)
    (isOpen : rf.isOpen = true) (changed : ChangedRight initial next.changes)
    (isRelated : related' rf.mode rf.isRfm69hw (testpa registers)) :
    Amplifies related' initial next := by
  rcases steady with ⟨isEnv, rfl, rfl⟩
  refine ⟨?_, isOpen, changed, isRelated⟩
  rw [isEnv]
  exact holds.works

/-! ### The changes of mode -/

/-- The changes of mode are those of the list, or the one just made. -/
def ChangedOnce (changes : List (XRf69 × List Rf69Entry)) (w : Rf69World) : Prop :=
  ∀ change ∈ w.changes, change ∈ changes ∨ change = (w.rf, w.spi)

theorem unchanged_frame {changes : List (XRf69 × List Rf69Entry)} :
    Rf69Frame fun w => w.changes = changes where
  nextAnswer _ _ same := same
  muted _ _ same := same
  fails _ _ _ _ same := same
  serves _ _ _ _ same := same

theorem unchanged_rules {changes : List (XRf69 × List Rf69Entry)} :
    Rf69StoreRules (Kept fun w => w.changes = changes) where
  toRf69Rules := unchanged_frame.rules
  block _ := by
    apply Ensures.keeps
    apply ensures_transact
    · exact fun _ same _ => same
    · exact fun _ same _ => same
  store _ := fun _ same => same

theorem changedOnce_change {changes : List (XRf69 × List Rf69Entry)} (newMode : ERf69Mode) :
    Rf69ModeChange quiet newMode (fun w => w.changes = changes) (fun w => w.changes = changes)
      (fun w => w.changes = changes) (ChangedOnce changes) fun w => w.changes = changes where
  frame := unchanged_frame
  frameSwitched := unchanged_frame
  pauses := ensures_quiet
  pausesSwitched := ensures_quiet
  opmodeFails _ _ _ same := same
  opmodeServed _ _ same := same
  testpaFails _ _ _ _ _ same := same
  testpaServed _ _ _ _ same := same
  stores _ same := same
  skips _ same _ := same
  notes := by
    intro w same change among
    rcases List.mem_append.mp among with early | last
    · exact .inl (same ▸ early)
    · exact .inr (List.mem_singleton.mp last)

theorem ChangedRight.once {changes : List (XRf69 × List Rf69Entry)}
    (changed : ChangedRight initial changes) (once : ChangedOnce changes w)
    (fits : w.rf.IsAmplified (w.registers initial)) : ChangedRight initial w.changes := by
  intro change among
  rcases once change among with early | rfl
  · exact changed change early
  · exact fits

/-- A change of mode that is right keeps the invariant, and all changes so far right. -/
theorem keeps_amplified
    (fits : ∀ (rf : XRf69) (registers : UInt8 → UInt8),
      related rf.mode rf.isRfm69hw (testpa registers) → rf.IsAmplified registers)
    (follows : ∀ (rf : XRf69) (registers : UInt8 → UInt8),
      related rf.mode rf.isRfm69hw (testpa registers) →
      related newMode rf.isRfm69hw (testpa (rf.amplified newMode registers))) :
    Keeps (Amplifies related initial) (iRf69SetMode quiet newMode) := by
  intro w holds
  rcases (@steady_setMode _ initial _ _ holds.works newMode).run ⟨rfl, rfl, rfl⟩ with
    ⟨r, next, runs, -, steady⟩
  have isRelated := follows _ _ holds.related
  have amplified : next.rf.IsAmplified (next.registers initial) := by
    rw [steady.2.1, steady.2.2]
    exact fits _ _ isRelated
  have once : ChangedOnce w.changes next := by
    rcases (changedOnce_change newMode).setMode.run (s := w) rfl with
      ⟨r', next', runs', reached⟩
    rw [runs] at runs'
    cases runs'
    rcases reached with ⟨-, once⟩ | ⟨-, same⟩
    · exact once
    · exact fun change among => .inl (same ▸ among)
  rw [runs]
  exact holds.reached steady holds.isOpen (holds.changed.once once amplified) isRelated

/-- High power is switched, and the registers of the amplifier are left as they are. -/
theorem Amplifies.setHighPower {related' : ERf69Mode → Bool → UInt8 × UInt8 → Prop} {bOn : Bool}
    (holds : Amplifies related initial w)
    (isRelated : related' w.rf.mode bOn (testpa (w.registers initial))) :
    Amplifies related' initial (iRf69SetHighPower quiet bOn w).2 := by
  rcases (@steady_setHighPower _ initial _ _ holds.works bOn).run ⟨rfl, rfl, rfl⟩ with
    ⟨r, next, runs, -, i, steady⟩
  have rules := @unchanged_rules w.changes
  have same : (iRf69SetHighPower quiet bOn w).2.changes = w.changes :=
    rules.setHighPower rules.noPause (Keeps.bind (keeps_ended (.ok ())) fun _ _ same => same) w rfl
  rw [runs] at same ⊢
  apply holds.reached steady holds.isOpen (same ▸ holds.changed)
  rw [testpa_update (by decide) (by decide), testpa_update (by decide) (by decide)]
  exact isRelated

end

/-! ### Every step -/

section

variable {initial : UInt8 → UInt8} {w : Rf69World} {call : Rf69Call}

theorem agreeing_rules : Rf69DriverRules (Kept (Amplifies Agreeing initial)) where
  toRf69StoreRules := amplifies_rules
  setMode := keeps_amplified (fun _ _ => Agreeing.isAmplified) fun _ _ => Agreeing.amplified
  note := fun _ holds => ⟨holds.works, holds.isOpen, holds.changed, holds.related⟩
  voided _ _ keeps := Keeps.voided keeps
  arrival := fun _ holds => ⟨holds.works, holds.isOpen, holds.changed, holds.related⟩
  restoring keeps keepsMode := Keeps.bind keeps fun r =>
    Keeps.bind (amplifies_rules.update amplifies_rules.noPause keepsMode) fun _ =>
      keeps_ended (.ok r)

theorem keeps_leftOver_setMode {newMode : ERf69Mode} (notRx : newMode ≠ .rx)
    (notTx : newMode ≠ .tx) : Keeps (Amplifies LeftOver initial) (iRf69SetMode quiet newMode) :=
  keeps_amplified (fun _ _ => LeftOver.isAmplified) fun _ _ => LeftOver.amplified notRx notTx

/-- The mode that is left and entered again is not one of these two. -/
theorem keeps_leftOver_setFrequency {freq : ℤ} :
    Keeps (Amplifies LeftOver initial) (iRf69SetFrequency quiet freq) := by
  have rules := @amplifies_rules LeftOver initial
  apply Keeps.called
  apply Ensures.keeps
  apply ensures_bind fun mode w => Amplifies LeftOver initial w ∧ mode ≠ .rx ∧ mode ≠ .tx
  · exact ensures_access ensures_quiet fun w holds => ⟨holds, holds.related.2.2⟩
  · rintro mode w ⟨holds, notRx, notTx⟩
    rw [decide_eq_false notRx, decide_eq_false notTx]
    refine Keeps.ensures ?_ w holds
    apply Keeps.bind
    · exact keeps_ended (.ok ())
    · intro _
      apply Keeps.bind (rules.tryInt (rules.setFrequencyRegs rules.noPause))
      intro _
      apply Keeps.bind
      · exact keeps_ended (.ok ())
      · intro _
        exact keeps_leftOver_setMode notRx notTx

/-- The interrupt routine has nothing to do. -/
theorem keeps_leftOver_interrupt : Keeps (Amplifies LeftOver initial) interrupt := by
  have answers : Keeps (Amplifies LeftOver initial) (nextAnswer .frame) := fun w =>
    amplifies_frame.nextAnswer w _
  apply Keeps.bind answers
  intro answer
  apply Keeps.bind
  · exact fun _ holds => ⟨holds.works, holds.isOpen, holds.changed, holds.related⟩
  · intro _
    apply keeps_muted amplifies_frame.muted
    apply Keeps.voided
    apply Ensures.keeps
    apply ensures_bind fun mode w => Amplifies LeftOver initial w ∧ mode ≠ .rx
    · exact ensures_access ensures_quiet fun w holds => ⟨holds, holds.related.2.2.1⟩
    · intro mode
      apply ensures_whenever
      · intro receives w holds
        exact absurd (of_decide_eq_true receives) holds.2
      · exact fun _ _ holds => holds.1

/-- Where the amplifier agrees, every operation but one keeps it. -/
theorem keeps_agreeing_call (notSet : ∀ bOn, call ≠ .iRf69SetHighPower bOn) :
    Keeps (Amplifies Agreeing initial) call.run := by
  have keeps : Kept (Amplifies Agreeing initial) (Reported call.IsError) call.run := by
    apply agreeing_rules.call
    · rintro eBand ucNodeId ucNetId rfl
      exact keeps_open fun _ holds => holds.isOpen
    · intro bOn isSet
      exact absurd isSet (notSet bOn)
  exact keeps

/-- Where it is left over, the operations that rest keep it. -/
theorem keeps_leftOver_call (rests : call.enters = false)
    (notSet : ∀ bOn, call ≠ .iRf69SetHighPower bOn) :
    Keeps (Amplifies LeftOver initial) call.run := by
  have rules := @amplifies_rules LeftOver initial
  have keeps : Kept (Amplifies LeftOver initial) (Reported call.IsError) call.run := by
    apply rules.resting rests
    · exact fun newMode => keeps_leftOver_setMode
    · rintro eBand ucNodeId ucNetId rfl
      exact keeps_open fun _ holds => holds.isOpen
    · intro bOn isSet
      exact absurd isSet (notSet bOn)
    · exact fun freq => keeps_leftOver_setFrequency
  exact keeps

/-- The registers fit the mode, or will if high power is switched on again. -/
def Settled (initial : UInt8 → UInt8) (w : Rf69World) : Prop :=
  Amplifies Agreeing initial w ∨ Amplifies LeftOver initial w

/-- Outside of Tx high power is switched, and the registers are left over at most. -/
theorem Settled.setHighPower {bOn : Bool} (settled : Settled initial w)
    (outside : bOn = w.rf.isRfm69hw ∨ w.rf.mode ≠ .tx) :
    Settled initial (iRf69SetHighPower quiet bOn w).2 := by
  rcases settled with holds | holds
  · rcases holds.related with ⟨isNormal, isOff⟩ | ⟨isBoost, isOn, notRx⟩
    · left
      apply holds.setHighPower
      refine .inl ⟨isNormal, fun isTx => ?_⟩
      rcases outside with rfl | notTx
      · exact isOff isTx
      · exact absurd isTx notTx
    · cases bOn with
      | true =>
          left
          apply holds.setHighPower
          exact .inr ⟨isBoost, rfl, notRx⟩
      | false =>
          right
          apply holds.setHighPower
          have notTx : w.rf.mode ≠ .tx := by
            rcases outside with isSame | notTx
            · rw [isOn] at isSame
              cases isSame
            · exact notTx
          exact ⟨isBoost, rfl, notRx, notTx⟩
  · rcases holds.related with ⟨isBoost, isOff, notRx, notTx⟩
    cases bOn with
    | true =>
        left
        apply holds.setHighPower
        exact .inr ⟨isBoost, rfl, notRx⟩
    | false =>
        right
        apply holds.setHighPower
        exact ⟨isBoost, rfl, notRx, notTx⟩

/-- An operation that fits keeps the invariant. -/
theorem Settled.operation (settled : Settled initial w)
    (notSet : ∀ bOn, call ≠ .iRf69SetHighPower bOn)
    (spares : call.enters = true →
      w.rf.isRfm69hw = true ∨ testpa (w.registers initial) ≠ boostTestpa) :
    Settled initial (call.run w).2 := by
  rcases settled with holds | holds
  · exact .inl (keeps_agreeing_call notSet w holds)
  · right
    apply keeps_leftOver_call _ notSet w holds
    rw [Bool.eq_false_iff]
    intro enters
    rcases spares enters with isOn | notBoost
    · rw [holds.related.2.1] at isOn
      cases isOn
    · exact notBoost holds.related.1

/-- A step that fits keeps the invariant. -/
theorem Settled.next {step : Rf69Step} (settled : Settled initial w) (fits : step.Fits initial w) :
    Settled initial (step.next w) := by
  cases step with
  | interrupt =>
      rcases settled with holds | holds
      · exact .inl (agreeing_rules.interrupt w holds)
      · exact .inr (keeps_leftOver_interrupt w holds)
  | operation call =>
      cases call with
      | iRf69SetHighPower bOn => exact settled.setHighPower fits
      | _ => exact settled.operation nofun fits

/-- So does a run that fits. -/
theorem settled_run {steps : List Rf69Step} (settled : Settled initial w)
    (fit : Fit initial w steps) : Settled initial (w.run steps) := by
  induction steps generalizing w with
  | nil => exact settled
  | cons step steps ih => exact ih (settled.next fit.1) fit.2

/-- The invariant has the amplifier right. -/
theorem Settled.right (settled : Settled initial w) : AmplifierRight initial w := by
  rcases settled with holds | holds
  · exact ⟨holds.related.isAmplified, holds.changed⟩
  · exact ⟨holds.related.isAmplified, holds.changed⟩

/-! ### From the opening on -/

variable {eBand : ERf69Band} {ucNodeId ucNetId : UInt8} {steps : List Rf69Step}

/-- The invariant holds when the driver is open. -/
theorem settled_opened (works : ∀ i, 0 ≤ (w.env i).fault) (isNormal : testpa initial = normalTestpa)
    (opens : (iRf69Open quiet eBand ucNodeId ucNetId w.recorded).1 = .ok 0) :
    Settled initial (w.opened eBand ucNodeId ucNetId).watched := by
  rcases steady_opened works opens with ⟨registers, ⟨isEnv, isRf, isRegisters⟩, isTestpa, -⟩
  refine .inl ⟨?_, ?_, fun _ none => absurd none List.not_mem_nil, ?_⟩
  · intro i
    change 0 ≤ ((w.opened eBand ucNodeId ucNetId).env i).fault
    rw [isEnv]
    exact works i
  · change (w.opened eBand ucNodeId ucNetId).rf.isOpen = true
    rw [isRf]
    rfl
  · change Agreeing (w.opened eBand ucNodeId ucNetId).rf.mode
      (w.opened eBand ucNodeId ucNetId).rf.isRfm69hw
      (testpa ((w.opened eBand ucNodeId ucNetId).registers initial))
    rw [isRf, isRegisters]
    exact .inl ⟨isTestpa.trans isNormal, fun _ => rfl⟩

/-- The amplifier is right in every run whose steps fit, whenever the mode has been changed. -/
theorem amplifierRight_run (works : ∀ i, 0 ≤ (w.env i).fault)
    (isNormal : testpa initial = normalTestpa)
    (opens : (iRf69Open quiet eBand ucNodeId ucNetId w.recorded).1 = .ok 0)
    (fit : Fit initial (w.opened eBand ucNodeId ucNetId).watched steps) :
    AmplifierRight initial ((w.opened eBand ucNodeId ucNetId).watched.run steps) :=
  (settled_run (settled_opened works isNormal opens) fit).right

end

/-- The registers as they are after a reset. -/
def resetRegisters (reg : UInt8) : UInt8 :=
  if reg = regTestpa1 then 0x55 else if reg = regTestpa2 then 0x70 else 0

/-- High power is switched on before a frame is sent and off in `Rx`, and another is sent. -/
def sendTwice : List Rf69Step :=
  [.operation (.iRf69SetHighPower true), .operation (.iRf69SendFrame 2 [10] true false),
    .operation (.iRf69SetMode .rx), .interrupt, .operation (.iRf69SetHighPower false),
    .operation (.iRf69SendFrame 2 [10] true false)]

theorem fit_sendTwice :
    Fit resetRegisters (newNode.opened .band868Mhz 1 100).watched sendTwice := by
  have offInRx : ((newNode.opened .band868Mhz 1 100).watched.run (sendTwice.take 4)).rf.mode ≠
      .tx := by decide +kernel
  have isNormal : testpa (((newNode.opened .band868Mhz 1 100).watched.run
      (sendTwice.take 5)).registers resetRegisters) ≠ boostTestpa := by decide +kernel
  exact ⟨.inr (by decide +kernel), fun _ => .inl (by decide +kernel),
    fun _ => .inl (by decide +kernel), trivial, .inr offInRx, fun _ => .inr isNormal, trivial⟩

/-- Both frames are sent in `Tx`. -/
theorem amplifierRight_transmits :
    (((newNode.opened .band868Mhz 1 100).watched.run sendTwice).changes.countP
        fun change => change.1.mode = .tx) = 2 ∧
      AmplifierRight resetRegisters
        ((newNode.opened .band868Mhz 1 100).watched.run sendTwice) :=
  ⟨by decide +kernel,
    amplifierRight_run (fun _ => le_refl 0) (by decide) (by decide +kernel) fit_sendTwice⟩

/-- High power is switched on in `Tx`; it is switched off after `Tx`, and `Rx` is entered. -/
theorem not_amplifierRight :
    (iRf69Open quiet .band868Mhz 1 100 newNode.recorded).1 = .ok 0 ∧
      testpa resetRegisters = normalTestpa ∧
      ¬AmplifierRight resetRegisters ((newNode.opened .band868Mhz 1 100).watched.run
        [.operation (.iRf69SetMode .tx), .operation (.iRf69SetHighPower true)]) ∧
      ¬AmplifierRight resetRegisters ((newNode.opened .band868Mhz 1 100).watched.run
        [.operation (.iRf69SetHighPower true), .operation (.iRf69SetMode .tx),
          .operation (.iRf69SetMode .standby), .operation (.iRf69SetHighPower false),
          .operation (.iRf69SetMode .rx)]) := by
  decide +kernel

end Sysio.Rf69
