import Sysio.I2c.RoundTrip

/-!
# A memory as an array

An application writes to a memory and reads it, in any order, on a bus where the memory is not
always ready in time. With two bytes of offset, and as long as no write leaves its page, the memory
is an array of bytes: a call does to it what it says, or it is refused and changes nothing.
-/

namespace Sysio.I2c

/-! ### Calls -/

/-- A call on the memory. -/
inductive MemCall where
  /-- `iI2cMemWrite`, with the byte behind the page buffer. -/
  | write (offset : BitVec 32) (buffer : List UInt8) (beyond : UInt8)
  | read (offset : BitVec 32) (size : ℕ)

/-- What a call returns, and what it puts in the buffer of a read. -/
structure MemReply where
  ret : ℤ
  buffer : List UInt8

/-- The reply of a call; none if the code goes beyond its buffer. -/
def memCall (m : XI2cMem) (bus : I2cBus) : MemCall → Option (MemReply × XI2cMem × I2cBus)
  | .write offset buffer beyond =>
      (iI2cMemWrite m offset buffer beyond bus).map fun done => (⟨done.1, []⟩, done.2)
  | .read offset size =>
      let done := iI2cMemRead m offset size bus
      some (⟨done.ret, done.buffer⟩, done.m, done.bus)

/-- The replies of a sequence of calls. -/
def memCalls : List MemCall → XI2cMem → I2cBus → Option (List MemReply × XI2cMem × I2cBus)
  | [], m, bus => some ([], m, bus)
  | call :: rest, m, bus =>
      match memCall m bus call with
      | none => none
      | some (reply, m, bus) =>
          (memCalls rest m bus).map fun later => (reply :: later.1, later.2)

namespace MemCall

/-- The call stays in the memory, and a write in its page. -/
def Inside (config : I2cMemConfig) : MemCall → Prop
  | .write offset buffer _ => offset.toNat < 2 ^ config.sizeLog ∧
      offset.toNat % config.pageSize + buffer.length ≤ config.pageSize
  | .read offset size => offset.toNat < 2 ^ config.sizeLog ∧
      offset.toNat + size ≤ 2 ^ config.sizeLog ∧ size < 2 ^ 16

instance (config : I2cMemConfig) : DecidablePred (Inside config)
  | .write _ _ _ => inferInstanceAs (Decidable (_ ∧ _))
  | .read _ _ => inferInstanceAs (Decidable (_ ∧ _ ∧ _))

/-! ### The array -/

/-- The array after the call, and the reply. -/
def onArray (content : ℕ → UInt8) : MemCall → MemReply × (ℕ → UInt8)
  | .write offset buffer _ =>
      (⟨0, []⟩, fun a =>
        if offset.toNat ≤ a ∧ a < offset.toNat + buffer.length then
          buffer.getD (a - offset.toNat) 0
        else content a)
  | .read offset size =>
      (⟨size, (List.range size).map fun i => content (offset.toNat + i)⟩, content)

end MemCall

/-- Calls on an array, of which some may be refused while the memory is busy. -/
inductive ArrayRuns (busy : Prop) :
    (ℕ → UInt8) → List MemCall → List MemReply → (ℕ → UInt8) → Prop where
  | nil (content : ℕ → UInt8) : ArrayRuns busy content [] [] content
  | done {content last : ℕ → UInt8} {call : MemCall} {rest : List MemCall}
      {replies : List MemReply}
      (later : ArrayRuns busy (call.onArray content).2 rest replies last) :
      ArrayRuns busy content (call :: rest) ((call.onArray content).1 :: replies) last
  | refused {content last : ℕ → UInt8} {call : MemCall} {rest : List MemCall}
      {replies : List MemReply} (isBusy : busy)
      (later : ArrayRuns busy content rest replies last) :
      ArrayRuns busy content (call :: rest) (⟨-1, []⟩ :: replies) last

/-! ### A memory that is not ready in time -/

theorem rdwrTries_of_busy {msgs : List I2cMsg} {eeprom : Eeprom} {notReady ioTry : ℕ}
    (busy : i2cmemTryMax < ioTry + notReady) (trying : ioTry ≤ i2cmemTryMax) :
    rdwrTries msgs eeprom notReady ioTry = none := by
  induction notReady generalizing ioTry with
  | zero => omega
  | succ notReady ih =>
      rw [rdwrTries]
      split_ifs
      · rfl
      · exact ih (by omega) (by omega)

theorem I2cBus.rdwr_of_busy {msgs : List I2cMsg} {bus : I2cBus}
    (busy : i2cmemTryMax < bus.notReady bus.transfers) :
    bus.rdwr msgs = (none, { bus with transfers := bus.transfers + 1 }) := by
  rw [I2cBus.rdwr, rdwrTries_of_busy (by omega) (Nat.zero_le _)]
  rfl

namespace I2cMemConfig

variable {config : I2cMemConfig} {offset : BitVec 32} {notReady : ℕ → ℕ} {transfers : ℕ}

theorem iI2cMemWrite_of_busy {beyond : UInt8} {buffer : List UInt8} (rest : buffer ≠ [])
    (old data : List UInt8) (eeprom : Eeprom) (busy : i2cmemTryMax < notReady transfers) :
    iI2cMemWrite (config.mem old data) offset buffer beyond ⟨eeprom, notReady, transfers⟩ =
      some (-1, config.mem (config.offsetBytes offset) (config.filled buffer data),
        ⟨eeprom, notReady, transfers + 1⟩) := by
  obtain ⟨turns, length⟩ := Nat.exists_eq_succ_of_ne_zero (mt List.length_eq_zero_iff.mp rest)
  rw [iI2cMemWrite_eq, length, memWriteLoop, if_neg rest]
  dsimp only
  rw [I2cBus.rdwr_of_busy busy, if_pos rfl]
  rfl

theorem iI2cMemRead_of_busy (size : ℕ) (old data : List UInt8) (eeprom : Eeprom)
    (busy : i2cmemTryMax < notReady transfers) :
    iI2cMemRead (config.mem old data) offset size ⟨eeprom, notReady, transfers⟩ =
      ⟨-1, [], config.mem (config.offsetBytes offset) data,
        ⟨eeprom, notReady, transfers + 1⟩⟩ := by
  rw [iI2cMemRead, prviSetOffset_eq]
  dsimp only
  rw [I2cBus.rdwr_of_busy busy]
  rfl

/-! ### The memory and the array -/

/-- An open memory on a bus, and its content. -/
def Shows (config : I2cMemConfig) (notReady : ℕ → ℕ) (m : XI2cMem) (bus : I2cBus)
    (content : ℕ → UInt8) : Prop :=
  ∃ old data place transfers, m = config.mem old data ∧ data.length = config.pageSize ∧
    bus = ⟨config.eeprom content place, notReady, transfers⟩

variable {m : XI2cMem} {bus : I2cBus} {content : ℕ → UInt8}

/-- The call is done as on the array, or it is refused. -/
def Does (config : I2cMemConfig) (notReady : ℕ → ℕ) (m : XI2cMem) (bus : I2cBus)
    (content : ℕ → UInt8) (call : MemCall) : Prop :=
  ∃ reply m' bus', memCall m bus call = some (reply, m', bus') ∧
    (reply = (call.onArray content).1 ∧
        config.Shows notReady m' bus' (call.onArray content).2 ∨
      (∃ i, i2cmemTryMax < notReady i) ∧ reply = ⟨-1, []⟩ ∧
        config.Shows notReady m' bus' content)

theorem does_write (wide : config.addr16 = true) {buffer : List UInt8} {beyond : UInt8}
    (inside : (MemCall.write offset buffer beyond).Inside config)
    (shows_ : config.Shows notReady m bus content) :
    config.Does notReady m bus content (.write offset buffer beyond) := by
  rcases shows_ with ⟨old, data, place, transfers, rfl, full, rfl⟩
  rcases inside with ⟨below, fits⟩
  by_cases nothing : buffer = []
  · subst nothing
    have same : (MemCall.onArray content (.write offset [] beyond)).2 = content :=
      funext fun a => if_neg (by rw [List.length_nil]; omega)
    refine ⟨⟨0, []⟩, config.mem (config.offsetBytes offset) data,
      ⟨config.eeprom content place, notReady, transfers⟩, ?_, .inl ⟨rfl, ?_⟩⟩
    · rw [memCall, iI2cMemWrite_eq old data, memWriteLoop_nil]
      rfl
    · rw [same]
      exact ⟨_, data, place, transfers, rfl, full, rfl⟩
  by_cases busy : i2cmemTryMax < notReady transfers
  · refine ⟨⟨-1, []⟩, config.mem (config.offsetBytes offset) (config.filled buffer data),
      ⟨config.eeprom content place, notReady, transfers + 1⟩, ?_,
      .inr ⟨⟨transfers, busy⟩, rfl, ?_⟩⟩
    · rw [memCall, iI2cMemWrite_of_busy nothing old data _ busy]
      rfl
    · exact ⟨_, _, place, _, rfl, filled_length full, rfl⟩
  · have longer : (buffer ++ data.drop buffer.length).length = config.pageSize := by
      rw [List.length_append, List.length_drop, full]
      omega
    refine ⟨⟨0, []⟩, config.mem (config.offsetBytes offset) (buffer ++ data.drop buffer.length),
      ⟨config.eeprom (MemCall.onArray content (.write offset buffer beyond)).2 offset.toNat,
        notReady, transfers + 1⟩, ?_, .inl ⟨rfl, ?_⟩⟩
    · rw [memCall, iI2cMemWrite_inPage below wide (not_lt.mp busy) nothing fits]
      rfl
    · exact ⟨_, _, _, _, rfl, longer, rfl⟩

theorem does_read (wide : config.addr16 = true) {size : ℕ}
    (inside : (MemCall.read offset size).Inside config)
    (shows_ : config.Shows notReady m bus content) :
    config.Does notReady m bus content (.read offset size) := by
  rcases shows_ with ⟨old, data, place, transfers, rfl, full, rfl⟩
  by_cases busy : i2cmemTryMax < notReady transfers
  · refine ⟨⟨-1, []⟩, config.mem (config.offsetBytes offset) data,
      ⟨config.eeprom content place, notReady, transfers + 1⟩, ?_,
      .inr ⟨⟨transfers, busy⟩, rfl, ?_⟩⟩
    · rw [memCall, iI2cMemRead_of_busy size old data _ busy]
    · exact ⟨_, _, place, _, rfl, full, rfl⟩
  · refine ⟨_, config.mem (config.offsetBytes offset) data,
      ⟨config.eeprom content offset.toNat, notReady, transfers + 1⟩, ?_, .inl ⟨rfl, ?_⟩⟩
    · rw [memCall, iI2cMemRead_wide inside.1 wide (not_lt.mp busy)]
      rfl
    · exact ⟨_, _, _, _, rfl, full, rfl⟩

/-- The step lemma. -/
theorem does_of_inside (wide : config.addr16 = true) {call : MemCall}
    (inside : call.Inside config) (shows_ : config.Shows notReady m bus content) :
    config.Does notReady m bus content call := by
  cases call with
  | write offset buffer beyond => exact does_write wide inside shows_
  | read offset size => exact does_read wide inside shows_

/-- The run lemma. -/
theorem arrayRuns_memCalls (wide : config.addr16 = true) {calls : List MemCall}
    (inside : ∀ call ∈ calls, call.Inside config)
    (shows_ : config.Shows notReady m bus content) :
    ∃ replies m' bus', memCalls calls m bus = some (replies, m', bus') ∧
      ArrayRuns (∃ i, i2cmemTryMax < notReady i) content calls replies
        bus'.eeprom.content := by
  induction calls generalizing m bus content with
  | nil =>
      rcases shows_ with ⟨old, data, place, transfers, rfl, -, rfl⟩
      exact ⟨[], _, _, rfl, .nil content⟩
  | cons call rest ih =>
      have later : ∀ call ∈ rest, call.Inside config :=
        fun other isIn => inside other (List.mem_cons_of_mem call isIn)
      rcases does_of_inside wide (inside call List.mem_cons_self) shows_ with
        ⟨reply, m', bus', here, ⟨rfl, shown⟩ | ⟨busy, rfl, shown⟩⟩
      · rcases ih later shown with ⟨replies, last, lastBus, ran, runs⟩
        refine ⟨_, last, lastBus, ?_, .done runs⟩
        rw [memCalls, here]
        dsimp only
        rw [ran]
        rfl
      · rcases ih later shown with ⟨replies, last, lastBus, ran, runs⟩
        refine ⟨_, last, lastBus, ?_, .refused busy runs⟩
        rw [memCalls, here]
        dsimp only
        rw [ran]
        rfl

end I2cMemConfig

/-- Any calls: what the code does with the memory is what they do to an array. -/
theorem memory_refines_array {config : I2cMemConfig} (wide : config.addr16 = true)
    {calls : List MemCall} (inside : ∀ call ∈ calls, call.Inside config) {old data : List UInt8}
    (full : data.length = config.pageSize) (content : ℕ → UInt8) (place : ℕ) (notReady : ℕ → ℕ)
    (transfers : ℕ) :
    ∃ replies m bus,
      memCalls calls (config.mem old data)
          ⟨config.eeprom content place, notReady, transfers⟩ = some (replies, m, bus) ∧
        ArrayRuns (∃ i, i2cmemTryMax < notReady i) content calls replies bus.eeprom.content := by
  exact I2cMemConfig.arrayRuns_memCalls wide inside ⟨old, data, place, transfers, rfl, full, rfl⟩

/-- Writes in two pages and a read across them, while the memory is less and less ready. -/
theorem memory_refines_array_twoPages :
    ∃ replies m bus,
      memCalls [.write 30 [1, 2] 0, .write 32 [3] 0, .read 31 2, .write 0 [] 0]
          (memory4096.mem [] (List.replicate 32 0))
          ⟨memory4096.eeprom (fun _ => 0xFF) 0, fun i => 4 * i, 0⟩ = some (replies, m, bus) ∧
        ArrayRuns (∃ i, i2cmemTryMax < 4 * i) (fun _ => 0xFF)
          [.write 30 [1, 2] 0, .write 32 [3] 0, .read 31 2, .write 0 [] 0] replies
          bus.eeprom.content :=
  memory_refines_array rfl (by decide) List.length_replicate _ _ _ _

end Sysio.I2c
