import Mathlib.Logic.Function.Basic
import Sysio.Gpio.BlyssFields

/-!
# Blyss frames as records

A run of setters and sends on frames with one transmitter, and the records that the frames stand
for. Each step changes one field of a record; the last channel is not taken by its setter.
-/

namespace Sysio.Gpio

/-- What a frame stands for. -/
structure BlyssRecord where
  globalChannel : BitVec 4
  address : BitVec 16
  channel : Fin 9
  state : Bool
  rollingCode : BitVec 8
  token : BitVec 8
  sent : Bool
deriving DecidableEq, Repr

/-- Every getter of the frame returns the value of the record. -/
structure IsShown (f : XBlyssFrame) (record : BlyssRecord) : Prop where
  flag : f.byte 0 = 0xFE
  globalChannel : ucBlyssFrameGlobalChannel f = record.globalChannel.setWidth 8
  address : usBlyssFrameAddress f = record.address
  channel : ucBlyssFrameChannel f = BitVec.ofNat 8 record.channel
  state : bBlyssFrameState f = record.state
  rollingCode : ucRollingCode f = record.rollingCode
  token : ucToken f = record.token
  valid : record.sent = true → bBlyssFrameIsValid f = true

/-- The frames, and the transmitter with its output. -/
structure BlyssWorld where
  b : XBlyss
  frames : ℕ → XBlyssFrame
  line : Line

/-- The records, how many sends there have been, and the token of the first. -/
structure BlyssRecords where
  records : ℕ → BlyssRecord
  sends : ℕ
  first : BitVec 8

/-- A call on one of the frames. -/
inductive BlyssStep where
  | setTxId (f : ℕ) (id : TxId)
  | setGlobalChannel (f : ℕ) (globalChannel : BitVec 8)
  | setAddress (f : ℕ) (addr : BitVec 16)
  | setChannel (f : ℕ) (channel : Fin 9)
  | setState (f : ℕ) (state : Bool)
  | send (f : ℕ) (repeats : BitVec 8)
deriving DecidableEq, Repr

/-- One frame is changed. -/
def BlyssWorld.change (world : BlyssWorld) (f : ℕ) (set : XBlyssFrame → XBlyssFrame) :
    BlyssWorld :=
  { world with frames := Function.update world.frames f (set (world.frames f)) }

/-- What `iBlyssSend` leaves. -/
def BlyssWorld.sent (world : BlyssWorld) (f : ℕ) (sent : BlyssSent) : BlyssWorld where
  b := sent.b
  frames := Function.update world.frames f sent.f
  line := sent.line

/-- The world after a step. -/
def BlyssStep.run (world : BlyssWorld) : BlyssStep → BlyssWorld
  | setTxId f id => world.change f (vBlyssFrameSetTxId id)
  | setGlobalChannel f globalChannel =>
      world.change f (vBlyssFrameSetGlobalChannel globalChannel)
  | setAddress f addr => world.change f (vBlyssFrameSetAddress addr)
  | setChannel f channel => world.change f (vBlyssFrameSetChannel (BitVec.ofNat 8 channel))
  | setState f state => world.change f (vBlyssFrameSetState state)
  | send f repeats => world.sent f (iBlyssSend world.b (world.frames f) repeats world.line)

/-- One record is changed. -/
def BlyssRecords.change (records : BlyssRecords) (f : ℕ) (set : BlyssRecord → BlyssRecord) :
    BlyssRecords :=
  { records with records := Function.update records.records f (set (records.records f)) }

/-- The rolling code and the token of the sends, from 0 on. -/
def BlyssRecords.nextCode (records : BlyssRecords) : BitVec 8 := barrel.getD (records.sends % 5) 0

/-- The token of the next send. -/
def BlyssRecords.nextToken (records : BlyssRecords) : BitVec 8 :=
  records.first + 10 * BitVec.ofNat 8 records.sends

/-- What a step is for. -/
def BlyssStep.meaning (records : BlyssRecords) : BlyssStep → BlyssRecords
  | setTxId f id => records.change f fun record =>
      { record with globalChannel := id.globalChannel.setWidth 4, address := id.high ++ id.low }
  | setGlobalChannel f globalChannel => records.change f fun record =>
      { record with globalChannel := globalChannel.setWidth 4 }
  | setAddress f addr => records.change f fun record => { record with address := addr }
  | setChannel f channel => records.change f fun record => { record with channel := channel }
  | setState f state => records.change f fun record => { record with state := state }
  | send f _ =>
      { records.change f fun record =>
          { record with
            rollingCode := records.nextCode
            token := records.nextToken
            sent := true } with
        sends := records.sends + 1 }

/-- Every frame shows its record. -/
def AllShown (world : BlyssWorld) (records : BlyssRecords) : Prop :=
  ∀ f, IsShown (world.frames f) (records.records f)

/-- From the start on and after every step, every frame shows its record. -/
def BlyssHolds : List BlyssStep → BlyssWorld → BlyssRecords → Prop
  | [], world, records => AllShown world records
  | step :: rest, world, records =>
      AllShown world records ∧ BlyssHolds rest (step.run world) (step.meaning records)

/-- The documented channel that the setter leaves out. -/
def BlyssStep.SetsLastChannel : BlyssStep → Prop
  | setChannel _ channel => channel = 8
  | _ => False

/-- The controller and its frames when they have been created. -/
def blyssStart (ids : ℕ → TxId) (token : BitVec 8) (line : Line) : BlyssWorld where
  b := ⟨true, token, 0⟩
  frames f := xBlyssFrameNew (ids f)
  line := line

/-- The records of these frames. -/
def blyssRecordsNew (ids : ℕ → TxId) (token : BitVec 8) : BlyssRecords where
  records f :=
    ⟨(ids f).globalChannel.setWidth 4, (ids f).high ++ (ids f).low, 0, true, 0, 0, false⟩
  sends := 0
  first := token

/-! ### The codes of a record -/

namespace BlyssRecord

/-- The bits of a field. -/
def code (record : BlyssRecord) : BlyssField → BitVec 16
  | .flag => blyssFlag
  | .globalChannel => record.globalChannel.setWidth 16
  | .address => record.address
  | .channel => (channels.getD record.channel 0).setWidth 16
  | .state => if record.state then 0 else 1
  | .rollingCode => record.rollingCode.setWidth 16
  | .token => record.token.setWidth 16

end BlyssRecord

/-- The fields of the frame are the codes of the record. -/
def IsCoded (f : XBlyssFrame) (record : BlyssRecord) : Prop :=
  ∀ field : BlyssField, field.get f = record.code field

section Codes

variable {f : XBlyssFrame} {record changed : BlyssRecord} {field : BlyssField}
  {value : BitVec 16}

theorem channel_narrow : ∀ channel : Fin 9, (channels.getD channel 0).toNat < 2 ^ 4 := by decide

/-- A code has no more bits than its field. -/
theorem BlyssRecord.code_narrow (record : BlyssRecord) (field : BlyssField) (j : ℕ)
    (upper : field.len ≤ j) : (record.code field).getLsbD j = false := by
  have of_lt : ∀ {w : ℕ} (value : BitVec w), value.toNat < 2 ^ field.len →
      (value.setWidth 16).getLsbD j = false := by
    intro w value below
    rw [BitVec.getLsbD_setWidth]
    have bit : value.getLsbD j = false :=
      Nat.testBit_lt_two_pow (lt_of_lt_of_le below (Nat.pow_le_pow_right (by decide) upper))
    rw [bit, Bool.and_false]
  cases field with
  | flag => exact of_lt (0xFE : BitVec 8) (by decide)
  | globalChannel => exact of_lt record.globalChannel record.globalChannel.isLt
  | address => exact BitVec.getLsbD_of_ge _ _ upper
  | channel => exact of_lt _ (channel_narrow record.channel)
  | state =>
      rw [code]
      cases record.state
      · exact of_lt (1 : BitVec 4) (by decide)
      · exact of_lt (0 : BitVec 4) (by decide)
  | rollingCode => exact of_lt record.rollingCode record.rollingCode.isLt
  | token => exact of_lt record.token record.token.isLt

/-- A field is set: the codes of the others are as before. -/
theorem IsCoded.set (coded : IsCoded f record) (fits : field.Fits value)
    (same : ∀ j < field.len, value.getLsbD j = (changed.code field).getLsbD j)
    (others : ∀ other, other ≠ field → changed.code other = record.code other) :
    IsCoded (field.set value f) changed := by
  intro other
  by_cases here : other = field
  · subst here
    apply BitVec.eq_of_getLsbD_eq
    intro j _
    rw [BlyssField.get_set_self fits]
    by_cases below : j < other.len
    · rw [decide_eq_true below, Bool.true_and, same j below]
    · rw [decide_eq_false below, Bool.false_and, changed.code_narrow other j (Nat.not_lt.mp below)]
  · rw [BlyssField.get_set_of_ne fits here, others other here, coded other]

theorem IsCoded.set_code (coded : IsCoded f record)
    (others : ∀ other, other ≠ field → changed.code other = record.code other) :
    IsCoded (field.set (changed.code field) f) changed :=
  coded.set (.inr (changed.code_narrow field)) (fun _ _ => rfl) others

/-! ### The setters -/

theorem IsCoded.setGlobalChannel (coded : IsCoded f record) (globalChannel : BitVec 8) :
    IsCoded (vBlyssFrameSetGlobalChannel globalChannel f)
      { record with globalChannel := globalChannel.setWidth 4 } := by
  have setter : vBlyssFrameSetGlobalChannel globalChannel f =
      BlyssField.globalChannel.set (globalChannel.setWidth 16) f := rfl
  rw [setter]
  refine coded.set (.inl rfl) ?_ ?_
  · intro j below
    change (globalChannel.setWidth 16).getLsbD j =
      ((globalChannel.setWidth 4).setWidth 16).getLsbD j
    have small : j < 4 := below
    simp [BitVec.getLsbD_setWidth, small]
  · intro other differs
    cases other <;> first | rfl | exact absurd rfl differs

theorem IsCoded.setAddress (coded : IsCoded f record) (addr : BitVec 16) :
    IsCoded (vBlyssFrameSetAddress addr f) { record with address := addr } := by
  let changed : BlyssRecord := { record with address := addr }
  have setter : vBlyssFrameSetAddress addr f =
      BlyssField.address.set (changed.code .address) f := rfl
  rw [setter]
  apply coded.set_code
  intro other differs
  cases other <;> first | rfl | exact absurd rfl differs

theorem append_eq (high low : BitVec 8) :
    high.setWidth 16 <<< 8 ||| low.setWidth 16 = high ++ low := by
  apply BitVec.eq_of_getLsbD_eq
  intro j below
  rw [BitVec.getLsbD_or, BitVec.getLsbD_shiftLeft, BitVec.getLsbD_setWidth,
    BitVec.getLsbD_setWidth, BitVec.getLsbD_append]
  by_cases small : j < 8
  · simp [small, below]
  · have none : low.getLsbD j = false := BitVec.getLsbD_of_ge low j (by omega)
    simp [small, below, none, show j - 8 < 16 by omega]

theorem IsCoded.setTxId (coded : IsCoded f record) (id : TxId) :
    IsCoded (vBlyssFrameSetTxId id f)
      { record with
        globalChannel := id.globalChannel.setWidth 4, address := id.high ++ id.low } := by
  rw [vBlyssFrameSetTxId, append_eq]
  exact (coded.setGlobalChannel id.globalChannel).setAddress (id.high ++ id.low)

theorem vBlyssFrameSetChannel_inside : ∀ channel : Fin 9, channel ≠ 8 →
    (BitVec.ofNat 8 channel).toNat < channels.length - 1 ∧
      (BitVec.ofNat 8 channel).toNat = channel := by decide

theorem IsCoded.setChannel (coded : IsCoded f record) {channel : Fin 9} (inside : channel ≠ 8) :
    IsCoded (vBlyssFrameSetChannel (BitVec.ofNat 8 channel) f)
      { record with channel := channel } := by
  rcases vBlyssFrameSetChannel_inside channel inside with ⟨below, same⟩
  let changed : BlyssRecord := { record with channel := channel }
  have setter : vBlyssFrameSetChannel (BitVec.ofNat 8 channel) f =
      BlyssField.channel.set (changed.code .channel) f := by
    rw [vBlyssFrameSetChannel, if_pos below, same]
    rfl
  rw [setter]
  apply coded.set_code
  intro other differs
  cases other <;> first | rfl | exact absurd rfl differs

/-- The last channel is the one the setter leaves. -/
theorem vBlyssFrameSetChannel_last : vBlyssFrameSetChannel (BitVec.ofNat 8 (8 : Fin 9)) f = f :=
  if_neg (by decide)

theorem IsCoded.setState (coded : IsCoded f record) (state : Bool) :
    IsCoded (vBlyssFrameSetState state f) { record with state := state } := by
  let changed : BlyssRecord := { record with state := state }
  have setter : vBlyssFrameSetState state f = BlyssField.state.set (changed.code .state) f := rfl
  rw [setter]
  apply coded.set_code
  intro other differs
  cases other <;> first | rfl | exact absurd rfl differs

theorem IsCoded.setRollingCode (coded : IsCoded f record) (b : XBlyss) :
    IsCoded (vSetRollingCode b f).2
      { record with rollingCode := barrel.getD b.rollIdx 0, sent := true } := by
  let changed : BlyssRecord := { record with rollingCode := barrel.getD b.rollIdx 0, sent := true }
  have setter : (vSetRollingCode b f).2 =
      BlyssField.rollingCode.set (changed.code .rollingCode) f := rfl
  rw [setter]
  apply coded.set_code
  intro other differs
  cases other <;> first | rfl | exact absurd rfl differs

theorem IsCoded.setToken (coded : IsCoded f record) (b : XBlyss) :
    IsCoded (vSetToken b f).2 { record with token := b.lastToken } := by
  let changed : BlyssRecord := { record with token := b.lastToken }
  have setter : (vSetToken b f).2 = BlyssField.token.set (changed.code .token) f := rfl
  rw [setter]
  apply coded.set_code
  intro other differs
  cases other <;> first | rfl | exact absurd rfl differs

/-- The codes of a new frame, whose bytes are 0 but for the flag. -/
theorem isCoded_new (id : TxId) : IsCoded (xBlyssFrameNew id)
    ⟨id.globalChannel.setWidth 4, id.high ++ id.low, 0, true, 0, 0, false⟩ := by
  have blank : ∀ field : BlyssField, field.get ⟨Vector.replicate 7 0⟩ = 0 := by
    intro field
    cases field <;> decide
  have flagged : IsCoded (vSetFlag ⟨Vector.replicate 7 0⟩) ⟨0, 0, 0, true, 0, 0, false⟩ := by
    intro field
    by_cases here : field = .flag
    · subst here
      decide
    · have fits : BlyssField.flag.Fits blyssFlag :=
        .inr (BlyssRecord.code_narrow ⟨0, 0, 0, true, 0, 0, false⟩ .flag)
      have same : field.get (vSetFlag ⟨Vector.replicate 7 0⟩) =
          field.get ⟨Vector.replicate 7 0⟩ := BlyssField.get_set_of_ne fits here
      rw [same, blank field]
      cases field <;> first | rfl | exact absurd rfl here
  exact flagged.setTxId id

/-! ### The getters -/

theorem ucDecodeChannel_channels : ∀ channel : Fin 9,
    ucDecodeChannel (((channels.getD channel 0).setWidth 16).setWidth 8) =
      BitVec.ofNat 8 channel := by decide

theorem IsCoded.isShown (coded : IsCoded f record)
    (valid : record.sent = true → record.rollingCode ∈ barrel) : IsShown f record := by
  have narrow : ∀ {w : ℕ} (value : BitVec w), w ≤ 8 →
      (value.setWidth 16).setWidth 8 = value.setWidth 8 := by
    intro w value small
    rw [BitVec.setWidth_setWidth_of_le _ (by decide)]
  have flag : f.byte 0 = 0xFE := by
    have read : (0#16 ||| (f.byte 0).setWidth 16 <<< 0) = blyssFlag := coded .flag
    rw [BitVec.zero_or, BitVec.shiftLeft_zero] at read
    have narrowed := congrArg (fun value => value.setWidth 8) read
    rw [BitVec.setWidth_setWidth_of_le _ (by decide), BitVec.setWidth_eq] at narrowed
    exact narrowed
  have code : ucRollingCode f = record.rollingCode := by
    have read : usGetBits blyssIdxRoll 8 f = record.rollingCode.setWidth 16 := coded .rollingCode
    rw [ucRollingCode, read, narrow _ le_rfl, BitVec.setWidth_eq]
  constructor
  case flag => exact flag
  case globalChannel =>
    have read : usGetBits blyssIdxGchan 4 f = record.globalChannel.setWidth 16 :=
      coded .globalChannel
    rw [ucBlyssFrameGlobalChannel, read, narrow _ (by decide)]
  case address => exact coded .address
  case channel =>
    have read : usGetBits blyssIdxChan 4 f = (channels.getD record.channel 0).setWidth 16 :=
      coded .channel
    rw [ucBlyssFrameChannel, read, ucDecodeChannel_channels]
  case state =>
    have read : usGetBits blyssIdxState 4 f = if record.state then 0 else 1 := coded .state
    rw [bBlyssFrameState, read]
    cases record.state <;> decide
  case rollingCode => exact code
  case token =>
    have read : usGetBits blyssIdxToken 8 f = record.token.setWidth 16 := coded .token
    rw [ucToken, read, narrow _ le_rfl, BitVec.setWidth_eq]
  case valid =>
    intro sent
    rw [bBlyssFrameIsValid, flag, if_pos (by decide), code, bIsValidRollingCode, List.any_eq_true]
    exact ⟨record.rollingCode, valid sent, decide_eq_true rfl⟩

end Codes

/-! ### A run -/

/-- The frames are coded, and the transmitter has made so many sends. -/
structure BlyssWorld.Follows (world : BlyssWorld) (records : BlyssRecords) : Prop where
  coded : ∀ f, IsCoded (world.frames f) (records.records f)
  valid : ∀ f, (records.records f).sent = true → (records.records f).rollingCode ∈ barrel
  channel : ∀ f, (records.records f).channel ≠ 8
  out : world.b.out = true
  rollIdx : world.b.rollIdx = records.sends % 5
  lastToken : world.b.lastToken = records.nextToken

namespace BlyssWorld.Follows

variable {world : BlyssWorld} {records : BlyssRecords}

theorem allShown (follows : world.Follows records) : AllShown world records :=
  fun f => (follows.coded f).isShown (follows.valid f)

/-- A setter keeps what the transmitter has done. -/
theorem change (follows : world.Follows records) (f : ℕ) {set : XBlyssFrame → XBlyssFrame}
    {record : BlyssRecord → BlyssRecord}
    (coded : IsCoded (set (world.frames f)) (record (records.records f)))
    (same : (record (records.records f)).sent = (records.records f).sent ∧
      (record (records.records f)).rollingCode = (records.records f).rollingCode)
    (channel : (record (records.records f)).channel ≠ 8) :
    (world.change f set).Follows (records.change f record) := by
  refine ⟨fun other => ?_, fun other => ?_, fun other => ?_, follows.out, follows.rollIdx,
    follows.lastToken⟩
  · change IsCoded (Function.update world.frames f (set (world.frames f)) other)
      (Function.update records.records f (record (records.records f)) other)
    by_cases here : other = f
    · rw [here, Function.update_self, Function.update_self]
      exact coded
    · rw [Function.update_of_ne here, Function.update_of_ne here]
      exact follows.coded other
  · change (Function.update records.records f (record (records.records f)) other).sent = true →
      (Function.update records.records f (record (records.records f)) other).rollingCode ∈ barrel
    by_cases here : other = f
    · rw [here, Function.update_self, same.1, same.2]
      exact follows.valid f
    · rw [Function.update_of_ne here]
      exact follows.valid other
  · change (Function.update records.records f (record (records.records f)) other).channel ≠ 8
    by_cases here : other = f
    · rw [here, Function.update_self]
      exact channel
    · rw [Function.update_of_ne here]
      exact follows.channel other

theorem barrel_mem : ∀ n < 5, barrel.getD n 0 ∈ barrel := by decide

theorem barrel_next : ∀ n < 5, (if barrel.length ≤ n + 1 then 0 else n + 1) = (n + 1) % 5 := by
  decide

/-- A send puts the next code and token in its frame, whatever the output does. -/
theorem send (follows : world.Follows records) (f : ℕ) (repeats : BitVec 8) :
    ((BlyssStep.send f repeats).run world).Follows
      ((BlyssStep.send f repeats).meaning records) := by
  have index : records.sends % 5 < 5 := Nat.mod_lt _ (by decide)
  have sent : iBlyssSend world.b (world.frames f) repeats world.line =
      let first := vSetRollingCode world.b (world.frames f)
      let second := vSetToken first.1 first.2
      let line := sendFrames second.2 repeats.toNat world.line
      ⟨line.1, second.1, second.2, line.2⟩ := if_pos follows.out
  have coded := ((follows.coded f).setRollingCode world.b).setToken
    (vSetRollingCode world.b (world.frames f)).1
  refine ⟨fun other => ?_, fun other => ?_, fun other => ?_, ?_, ?_, ?_⟩
  · change IsCoded (Function.update world.frames f _ other)
      (Function.update records.records f _ other)
    by_cases here : other = f
    · rw [here, Function.update_self, Function.update_self, sent]
      have code : barrel.getD world.b.rollIdx 0 = records.nextCode := by
        rw [follows.rollIdx]
        rfl
      have token : (vSetRollingCode world.b (world.frames f)).1.lastToken = records.nextToken :=
        follows.lastToken
      rw [code, token] at coded
      exact coded
    · rw [Function.update_of_ne here, Function.update_of_ne here]
      exact follows.coded other
  · change (Function.update records.records f _ other).sent = true →
      (Function.update records.records f _ other).rollingCode ∈ barrel
    by_cases here : other = f
    · rw [here, Function.update_self]
      exact fun _ => barrel_mem _ index
    · rw [Function.update_of_ne here]
      exact follows.valid other
  · change (Function.update records.records f _ other).channel ≠ 8
    by_cases here : other = f
    · rw [here, Function.update_self]
      exact follows.channel f
    · rw [Function.update_of_ne here]
      exact follows.channel other
  · change (iBlyssSend world.b (world.frames f) repeats world.line).b.out = true
    rw [sent]
    exact follows.out
  · change (iBlyssSend world.b (world.frames f) repeats world.line).b.rollIdx =
      (records.sends + 1) % 5
    rw [sent]
    change (if barrel.length ≤ world.b.rollIdx + 1 then 0 else world.b.rollIdx + 1) = _
    rw [follows.rollIdx, barrel_next _ index, Nat.mod_add_mod]
  · change (iBlyssSend world.b (world.frames f) repeats world.line).b.lastToken =
      records.first + 10 * BitVec.ofNat 8 (records.sends + 1)
    rw [sent]
    change world.b.lastToken + 10 = _
    rw [follows.lastToken, BlyssRecords.nextToken, BitVec.ofNat_add, BitVec.mul_add,
      BitVec.add_assoc]
    rfl

/-- A step that does not set the last channel makes the frames follow the records. -/
theorem step (follows : world.Follows records) {step : BlyssStep}
    (inside : ¬ step.SetsLastChannel) : (step.run world).Follows (step.meaning records) := by
  cases step with
  | setTxId f id =>
      rw [BlyssStep.run, BlyssStep.meaning]
      exact follows.change f ((follows.coded f).setTxId id) ⟨rfl, rfl⟩ (follows.channel f)
  | setGlobalChannel f globalChannel =>
      rw [BlyssStep.run, BlyssStep.meaning]
      exact follows.change f ((follows.coded f).setGlobalChannel globalChannel) ⟨rfl, rfl⟩
        (follows.channel f)
  | setAddress f addr =>
      rw [BlyssStep.run, BlyssStep.meaning]
      exact follows.change f ((follows.coded f).setAddress addr) ⟨rfl, rfl⟩ (follows.channel f)
  | setChannel f channel =>
      rw [BlyssStep.run, BlyssStep.meaning]
      exact follows.change f ((follows.coded f).setChannel inside) ⟨rfl, rfl⟩ inside
  | setState f state =>
      rw [BlyssStep.run, BlyssStep.meaning]
      exact follows.change f ((follows.coded f).setState state) ⟨rfl, rfl⟩ (follows.channel f)
  | send f repeats => exact follows.send f repeats

/-- After the last channel is set, the frame shows the channel it had. -/
theorem not_allShown_last (follows : world.Follows records) {step : BlyssStep}
    (last : step.SetsLastChannel) : ¬ AllShown (step.run world) (step.meaning records) := by
  cases step with
  | setChannel f channel =>
      intro shown
      have after : ucBlyssFrameChannel (Function.update world.frames f
          (vBlyssFrameSetChannel (BitVec.ofNat 8 channel) (world.frames f)) f) =
          BitVec.ofNat 8 (Function.update records.records f
            { records.records f with channel := channel } f).channel := (shown f).channel
      have before := (follows.allShown f).channel
      rw [Function.update_self, Function.update_self, show channel = 8 from last,
        vBlyssFrameSetChannel_last, before] at after
      have different : ∀ channel : Fin 9, channel ≠ 8 →
          BitVec.ofNat 8 channel ≠ BitVec.ofNat 8 (8 : Fin 9) := by decide
      exact different _ (follows.channel f) after
  | setTxId f id => exact last.elim
  | setGlobalChannel f globalChannel => exact last.elim
  | setAddress f addr => exact last.elim
  | setState f state => exact last.elim
  | send f repeats => exact last.elim

theorem blyssHolds_shown {steps : List BlyssStep} (holds : BlyssHolds steps world records) :
    AllShown world records := by
  cases steps with
  | nil => exact holds
  | cons step rest => exact holds.1

theorem blyssHolds_iff_of_follows (steps : List BlyssStep) (follows : world.Follows records) :
    BlyssHolds steps world records ↔ ∀ step ∈ steps, ¬ step.SetsLastChannel := by
  induction steps generalizing world records with
  | nil => exact iff_of_true follows.allShown fun step member => by cases member
  | cons step rest hypothesis =>
      rw [BlyssHolds, List.forall_mem_cons]
      by_cases last : step.SetsLastChannel
      · refine iff_of_false (fun holds => ?_) fun inside => inside.1 last
        exact follows.not_allShown_last last (blyssHolds_shown holds.2)
      · rw [hypothesis (follows.step last)]
        exact and_congr_left' (iff_of_true follows.allShown last)

end BlyssWorld.Follows

theorem blyssStart_follows (ids : ℕ → TxId) (token : BitVec 8) (line : Line) :
    (blyssStart ids token line).Follows (blyssRecordsNew ids token) := by
  refine ⟨fun f => isCoded_new (ids f), fun f sent => ?_, fun f => ?_, rfl, rfl, ?_⟩
  · cases sent
  · exact (by decide : (0 : Fin 9) ≠ 8)
  · change token = token + 10 * BitVec.ofNat 8 0
    rw [BitVec.ofNat_eq_ofNat, BitVec.mul_zero, BitVec.add_zero]

/-- Frames made by `xBlyssFrameNew` show the record of what was set exactly in the runs that do
not set the channel 8. -/
theorem blyssHolds_iff (ids : ℕ → TxId) (token : BitVec 8) (line : Line)
    (steps : List BlyssStep) :
    BlyssHolds steps (blyssStart ids token line) (blyssRecordsNew ids token) ↔
      ∀ step ∈ steps, ¬ step.SetsLastChannel :=
  (blyssStart_follows ids token line).blyssHolds_iff_of_follows steps

/-- Channel 3 is set, then channel 8: the frame still shows 3. -/
theorem not_blyssHolds_lastChannel :
    ¬ BlyssHolds [.setChannel 0 3, .setChannel 0 8]
      (blyssStart (fun _ => ⟨5, 8, 0x24⟩) 0xE9 ⟨fun _ => 0, 0, false, []⟩)
      (blyssRecordsNew (fun _ => ⟨5, 8, 0x24⟩) 0xE9) := by
  rintro ⟨-, -, holds⟩
  exact absurd (holds 0).channel (by decide)

end Sysio.Gpio
