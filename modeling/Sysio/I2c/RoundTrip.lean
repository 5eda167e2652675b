import Sysio.I2c.Transfers

/-!
# Writing to an I2C memory and reading it again

A write sets the offset once, for the first page, and each message is two bytes longer than its
data, whatever the size of the offset. So a write does what it is for only where the offset has
two bytes and everything fits in the page of the offset.
-/

namespace Sysio.I2c

namespace I2cMemConfig

/-! ### One turn of the loop -/

section Turn

variable (config : I2cMemConfig)

/-- The page buffer of a turn. -/
def filled (remaining data : List UInt8) : List UInt8 :=
  remaining.take (min config.pageSize remaining.length) ++
    data.drop (min config.pageSize remaining.length)

/-- What a turn sends behind the offset. -/
def sent (remaining data : List UInt8) (beyond : UInt8) : List UInt8 :=
  (config.filled remaining data ++ [beyond]).take
    (min config.pageSize remaining.length + 2 - config.offsetLength)

end Turn

variable {config : I2cMemConfig} {offset : BitVec 32}

theorem filled_length {remaining data : List UInt8} (full : data.length = config.pageSize) :
    (config.filled remaining data).length = config.pageSize := by
  rw [filled, List.length_append, List.length_take, List.length_drop, full]
  omega

theorem offsetLength_le : config.offsetLength ≤ 2 := by
  rw [offsetLength]
  split <;> decide

theorem take_offset (bytes : List UInt8) {count : ℕ} (two : 2 ≤ count) :
    (config.offsetBytes offset ++ bytes).take count =
      config.offsetBytes offset ++ bytes.take (count - config.offsetLength) := by
  have le := @offsetLength_le config
  have length := @offsetBytes_length config offset
  rw [List.take_append, List.take_of_length_le (by omega), length]

section Loop

variable {beyond : UInt8} {notReady : ℕ → ℕ}

theorem memWriteLoop_nil {addr : BitVec 16} (turns : ℕ) (m : XI2cMem) (bus : I2cBus) :
    memWriteLoop addr beyond turns [] m bus = some (0, m, bus) := by
  cases turns <;> rfl

theorem memWriteLoop_of_rdwr {addr : BitVec 16} {turns : ℕ} {remaining got : List UInt8}
    {m : XI2cMem} {bus bus' : I2cBus} (rest : remaining ≠ [])
    (rdwr : bus.rdwr [.write addr ((m.offset ++
      (remaining.take (min m.pageSize remaining.length) ++
        m.data.drop (min m.pageSize remaining.length)) ++ [beyond]).take
      (min m.pageSize remaining.length + 2))] = (some got, bus')) :
    memWriteLoop addr beyond (turns + 1) remaining m bus =
      memWriteLoop addr beyond turns (remaining.drop (min m.pageSize remaining.length))
        { m with data := remaining.take (min m.pageSize remaining.length) ++
            m.data.drop (min m.pageSize remaining.length) } bus' := by
  rw [memWriteLoop, if_neg rest]
  dsimp only
  rw [rdwr, if_neg (by simp)]

theorem memWriteLoop_step (below : offset.toNat < 2 ^ config.sizeLog)
    {transfers : ℕ} (ready : notReady transfers ≤ i2cmemTryMax) {remaining : List UInt8}
    (rest : remaining ≠ []) (turns : ℕ) (data : List UInt8) (content : ℕ → UInt8) (place : ℕ) :
    memWriteLoop (config.addr offset) beyond (turns + 1) remaining
        (config.mem (config.offsetBytes offset) data)
        ⟨config.eeprom content place, notReady, transfers⟩ =
      memWriteLoop (config.addr offset) beyond turns
        (remaining.drop (min config.pageSize remaining.length))
        (config.mem (config.offsetBytes offset) (config.filled remaining data))
        ⟨config.eeprom (config.written content offset.toNat (config.sent remaining data beyond))
          offset.toNat, notReady, transfers + 1⟩ := by
  rcases @message_write config offset content place (config.sent remaining data beyond) with
    ⟨first, reached, message⟩
  rw [reached below] at message
  have transferred : (config.eeprom content place).transfer
      [.write (config.addr offset)
        (config.offsetBytes offset ++ config.sent remaining data beyond)] =
      some ([], config.eeprom (config.written content offset.toNat
        (config.sent remaining data beyond)) offset.toNat) := by
    rw [Eeprom.transfer, message]
    rfl
  have buf : (config.offsetBytes offset ++ config.filled remaining data ++ [beyond]).take
      (min config.pageSize remaining.length + 2) =
      config.offsetBytes offset ++ config.sent remaining data beyond := by
    rw [List.append_assoc, take_offset _ (by omega), sent]
  have done := @I2cBus.rdwr_of_ready _
    ⟨config.eeprom content place, notReady, transfers⟩ _ _ ready transferred
  rw [← buf] at done
  exact memWriteLoop_of_rdwr rest done

/-- What each turn keeps, the end of the loop has. -/
theorem memWriteLoop_run {Inv : List UInt8 → List UInt8 → (ℕ → UInt8) → Prop}
    (below : offset.toNat < 2 ^ config.sizeLog) (ready : ∀ i, notReady i ≤ i2cmemTryMax)
    (keeps : ∀ remaining data content, remaining ≠ [] → data.length = config.pageSize →
      Inv remaining data content →
        Inv (remaining.drop (min config.pageSize remaining.length))
          (config.filled remaining data)
          (config.written content offset.toNat (config.sent remaining data beyond)))
    {turns : ℕ} {remaining data : List UInt8} {content : ℕ → UInt8} (place transfers : ℕ)
    (enough : remaining.length ≤ turns) (full : data.length = config.pageSize)
    (holds : Inv remaining data content) :
    ∃ m content' place' transfers' data',
      memWriteLoop (config.addr offset) beyond turns remaining
          (config.mem (config.offsetBytes offset) data)
          ⟨config.eeprom content place, notReady, transfers⟩ =
        some (0, m, ⟨config.eeprom content' place', notReady, transfers'⟩) ∧
      Inv [] data' content' := by
  induction turns generalizing remaining data content place transfers with
  | zero =>
      have nothing := List.eq_nil_of_length_eq_zero (Nat.le_zero.mp enough)
      subst nothing
      exact ⟨_, _, _, _, _, memWriteLoop_nil 0 _ _, holds⟩
  | succ turns ih =>
      by_cases nothing : remaining = []
      · subst nothing
        exact ⟨_, _, _, _, _, memWriteLoop_nil _ _ _, holds⟩
      · have some_ := List.length_pos_iff.mpr nothing
        have page := @pageSize_pos config
        rw [memWriteLoop_step below (ready transfers) nothing]
        refine ih _ _ ?_ (filled_length full) (keeps _ _ _ nothing full holds)
        rw [List.length_drop]
        omega

end Loop

/-! ### A write in one turn, and a read -/

section Calls

variable {beyond : UInt8} {notReady : ℕ → ℕ}

theorem iI2cMemWrite_eq (old data buffer : List UInt8) (bus : I2cBus) :
    iI2cMemWrite (config.mem old data) offset buffer beyond bus =
      memWriteLoop (config.addr offset) beyond buffer.length buffer
        (config.mem (config.offsetBytes offset) data) bus := by
  rw [iI2cMemWrite, prviSetOffset_eq]
  rfl

/-- A buffer that is not longer than a page is one message, wherever it begins. -/
theorem iI2cMemWrite_oneTurn (below : offset.toNat < 2 ^ config.sizeLog)
    {transfers : ℕ} (ready : notReady transfers ≤ i2cmemTryMax) {buffer : List UInt8}
    (rest : buffer ≠ []) (fits : buffer.length ≤ config.pageSize) (old data : List UInt8)
    (content : ℕ → UInt8) (place : ℕ) :
    iI2cMemWrite (config.mem old data) offset buffer beyond
        ⟨config.eeprom content place, notReady, transfers⟩ =
      some (0, config.mem (config.offsetBytes offset) (buffer ++ data.drop buffer.length),
        ⟨config.eeprom (config.written content offset.toNat
            ((buffer ++ data.drop buffer.length ++ [beyond]).take
              (buffer.length + 2 - config.offsetLength)))
          offset.toNat, notReady, transfers + 1⟩) := by
  have turn : buffer.length = (buffer.length - 1) + 1 := by
    have some_ := List.length_pos_iff.mpr rest
    omega
  have filled : config.filled buffer data = buffer ++ data.drop buffer.length := by
    rw [I2cMemConfig.filled, Nat.min_eq_right fits, List.take_length]
  have sent : config.sent buffer data beyond =
      (buffer ++ data.drop buffer.length ++ [beyond]).take
        (buffer.length + 2 - config.offsetLength) := by
    rw [I2cMemConfig.sent, filled, Nat.min_eq_right fits]
  have step := @memWriteLoop_step config offset beyond notReady below transfers ready buffer
    rest (buffer.length - 1) data content place
  rw [← turn, Nat.min_eq_right fits, List.drop_length, memWriteLoop_nil, filled, sent] at step
  rw [iI2cMemWrite_eq, step]

theorem iI2cMemRead_of_rdwr {m m' : XI2cMem} {addr : BitVec 32} {size : ℕ} {got : List UInt8}
    {bus bus' : I2cBus} (set : prviSetOffset m offset = (addr, m'))
    (rdwr : bus.rdwr [.write (addr.setWidth 16) ((m'.offset ++ m'.data).take 2),
      .read (addr.setWidth 16) size] = (some got, bus')) :
    iI2cMemRead m offset size bus = ⟨size, got, m', bus'⟩ := by
  rw [iI2cMemRead, set]
  dsimp only
  rw [rdwr]
  rfl

/-- A read returns the content behind the offset, after the bytes that are sent with it. -/
theorem iI2cMemRead_eq {transfers : ℕ} (ready : notReady transfers ≤ i2cmemTryMax)
    (old data : List UInt8) (content : ℕ → UInt8) (place size : ℕ) :
    ∃ first, (offset.toNat < 2 ^ config.sizeLog → first = offset.toNat) ∧
      iI2cMemRead (config.mem old data) offset size
          ⟨config.eeprom content place, notReady, transfers⟩ =
        ⟨size, (List.range size).map fun i =>
            config.written content first (data.take (2 - config.offsetLength)) (first + i),
          config.mem (config.offsetBytes offset) data,
          ⟨config.eeprom (config.written content first (data.take (2 - config.offsetLength)))
            first, notReady, transfers + 1⟩⟩ := by
  rcases @message_write config offset content place (data.take (2 - config.offsetLength)) with
    ⟨first, reached, message⟩
  refine ⟨first, reached, ?_⟩
  have transferred : (config.eeprom content place).transfer
      [.write (config.addr offset)
        (config.offsetBytes offset ++ data.take (2 - config.offsetLength)),
        .read (config.addr offset) size] =
      some ((List.range size).map fun i =>
          config.written content first (data.take (2 - config.offsetLength)) (first + i),
        config.eeprom (config.written content first (data.take (2 - config.offsetLength)))
          first) := by
    rw [Eeprom.transfer, message, Option.bind_some, Eeprom.transfer, Eeprom.message,
      if_pos (selected offset _ first)]
    change some ([] ++ (_ ++ []), _) = _
    rw [List.append_nil]
    rfl
  have done := @I2cBus.rdwr_of_ready _
    ⟨config.eeprom content place, notReady, transfers⟩ _ _ ready transferred
  have buf : (config.offsetBytes offset ++ data).take 2 =
      config.offsetBytes offset ++ data.take (2 - config.offsetLength) :=
    take_offset data (Nat.le_refl 2)
  rw [← buf] at done
  exact iI2cMemRead_of_rdwr (prviSetOffset_eq old data) done

/-- With two bytes of offset, what fits in its page is stored from the offset on. -/
theorem iI2cMemWrite_inPage (below : offset.toNat < 2 ^ config.sizeLog)
    (wide : config.addr16 = true) {transfers : ℕ} (ready : notReady transfers ≤ i2cmemTryMax)
    {buffer : List UInt8} (rest : buffer ≠ [])
    (fits : offset.toNat % config.pageSize + buffer.length ≤ config.pageSize)
    (old data : List UInt8) (content : ℕ → UInt8) (place : ℕ) :
    iI2cMemWrite (config.mem old data) offset buffer beyond
        ⟨config.eeprom content place, notReady, transfers⟩ =
      some (0, config.mem (config.offsetBytes offset) (buffer ++ data.drop buffer.length),
        ⟨config.eeprom (fun a =>
            if offset.toNat ≤ a ∧ a < offset.toNat + buffer.length then
              buffer.getD (a - offset.toNat) 0
            else content a)
          offset.toNat, notReady, transfers + 1⟩) := by
  have two : config.offsetLength = 2 := by rw [I2cMemConfig.offsetLength, if_pos wide]
  have sent : (buffer ++ data.drop buffer.length ++ [beyond]).take
      (buffer.length + 2 - config.offsetLength) = buffer := by
    rw [two, List.append_assoc, Nat.add_sub_cancel, List.take_left]
  rw [iI2cMemWrite_oneTurn below ready rest (by omega), sent]
  have stored := funext (@Eeprom.store_of_le (config.eeprom content 0) offset.toNat buffer fits)
  exact congrArg (fun content' => some (0, _, (⟨config.eeprom content' _, _, _⟩ : I2cBus))) stored

/-- With two bytes of offset, a read changes no byte. -/
theorem iI2cMemRead_wide (below : offset.toNat < 2 ^ config.sizeLog)
    (wide : config.addr16 = true) {transfers : ℕ} (ready : notReady transfers ≤ i2cmemTryMax)
    (old data : List UInt8) (content : ℕ → UInt8) (place size : ℕ) :
    iI2cMemRead (config.mem old data) offset size
        ⟨config.eeprom content place, notReady, transfers⟩ =
      ⟨size, (List.range size).map fun i => content (offset.toNat + i),
        config.mem (config.offsetBytes offset) data,
        ⟨config.eeprom content offset.toNat, notReady, transfers + 1⟩⟩ := by
  have two : config.offsetLength = 2 := by rw [I2cMemConfig.offsetLength, if_pos wide]
  rcases @iI2cMemRead_eq config offset notReady transfers ready old data content place size with
    ⟨first, reached, read⟩
  have kept : config.written content first (data.take (2 - config.offsetLength)) = content := by
    rw [two]
    rfl
  rw [kept, reached below] at read
  exact read

end Calls

end I2cMemConfig

/-! ### The round trip -/

/-- A write of so many bytes at the offset puts them there, changes no other byte, and a read
returns them. -/
def WritesThenReads (config : I2cMemConfig) (offset : BitVec 32) (size : ℕ) : Prop :=
  ∀ (old data buffer : List UInt8) (beyond : UInt8) (content : ℕ → UInt8) (place : ℕ)
    (notReady : ℕ → ℕ) (transfers : ℕ),
    data.length = config.pageSize → buffer.length = size →
    (∀ i, notReady i ≤ i2cmemTryMax) →
    ∃ m bus,
      iI2cMemWrite (config.mem old data) offset buffer beyond
          ⟨config.eeprom content place, notReady, transfers⟩ = some (0, m, bus) ∧
      (∀ a < 2 ^ config.sizeLog, bus.eeprom.content a =
        if offset.toNat ≤ a ∧ a < offset.toNat + size then buffer.getD (a - offset.toNat) 0
        else content a) ∧
      (iI2cMemRead m offset size bus).ret = size ∧
      (iI2cMemRead m offset size bus).buffer = buffer

section RoundTrip

variable {config : I2cMemConfig} {offset : BitVec 32} {size : ℕ}

theorem writesThenReads_zero : WritesThenReads config offset 0 := by
  intro old data buffer beyond content place notReady transfers _ length ready
  have nothing := List.eq_nil_of_length_eq_zero length
  subst nothing
  rcases @I2cMemConfig.iI2cMemRead_eq config offset notReady transfers (ready transfers)
    (config.offsetBytes offset) data content place 0 with ⟨_, _, read⟩
  refine ⟨_, _, I2cMemConfig.iI2cMemWrite_eq old data [] _, fun a _ => ?_,
    congrArg I2cMemRead.ret read, congrArg I2cMemRead.buffer read⟩
  rw [if_neg (by omega)]
  rfl

/-- With two bytes of offset, what fits in its page is written as it is meant. -/
theorem writesThenReads_of_le (below : offset.toNat < 2 ^ config.sizeLog)
    (wide : config.addr16 = true) (positive : 0 < size)
    (fits : offset.toNat % config.pageSize + size ≤ config.pageSize) :
    WritesThenReads config offset size := by
  intro old data buffer beyond content place notReady transfers _ length ready
  have rest : buffer ≠ [] := List.length_pos_iff.mp (by omega)
  have write := @I2cMemConfig.iI2cMemWrite_inPage config offset beyond notReady below wide
    transfers (ready transfers) buffer rest (by rw [length]; exact fits) old data content place
  rw [length] at write
  have read := @I2cMemConfig.iI2cMemRead_wide config offset notReady below wide (transfers + 1)
    (ready (transfers + 1)) (config.offsetBytes offset) (buffer ++ data.drop size)
    (fun a => if offset.toNat ≤ a ∧ a < offset.toNat + size then buffer.getD (a - offset.toNat) 0
      else content a) offset.toNat size
  refine ⟨_, _, write, fun a _ => rfl, congrArg I2cMemRead.ret read,
    (congrArg I2cMemRead.buffer read).trans ?_⟩
  apply List.ext_getElem
  · rw [List.length_map, List.length_range, length]
  · intro i _ inside
    rw [List.getElem_map, List.getElem_range, if_pos (by omega), Nat.add_sub_cancel_left,
      List.getD_eq_getElem _ _ inside]

theorem WritesThenReads.content_eq (holds : WritesThenReads config offset size)
    {data buffer : List UInt8} {beyond : UInt8} {content : ℕ → UInt8} {m : XI2cMem}
    {bus : I2cBus} (full : data.length = config.pageSize) (length : buffer.length = size)
    (write : iI2cMemWrite (config.mem [] data) offset buffer beyond
      ⟨config.eeprom content 0, fun _ => 0, 0⟩ = some (0, m, bus)) {a : ℕ}
    (inside : a < 2 ^ config.sizeLog) :
    bus.eeprom.content a =
      if offset.toNat ≤ a ∧ a < offset.toNat + size then buffer.getD (a - offset.toNat) 0
      else content a := by
  rcases holds [] data buffer beyond content 0 (fun _ => 0) 0 full length
    (fun _ => Nat.zero_le _) with ⟨m', bus', same, kept, -⟩
  rw [write] at same
  cases same
  exact kept a inside

/-- With one byte of offset, the byte behind the buffer is stored too. -/
theorem not_writesThenReads_narrow (below : offset.toNat < 2 ^ config.sizeLog)
    (narrow : ¬config.addr16 = true) (positive : 0 < size) (fits : size ≤ config.pageSize) :
    ¬WritesThenReads config offset size := by
  intro holds
  have one : config.offsetLength = 1 := by rw [I2cMemConfig.offsetLength, if_neg narrow]
  have length : (List.replicate size (0 : UInt8)).length = size := List.length_replicate
  have rest : List.replicate size (0 : UInt8) ≠ [] := List.length_pos_iff.mp (by omega)
  -- The memory and the buffer are zeros, what is left in the page buffer and behind it is not.
  have next : (List.replicate (config.pageSize - size) (1 : UInt8) ++ [1]).take 1 = [1] := by
    cases config.pageSize - size <;> rfl
  have sent : (List.replicate size (0 : UInt8) ++
      (List.replicate config.pageSize 1).drop (List.replicate size (0 : UInt8)).length ++
        [1]).take ((List.replicate size (0 : UInt8)).length + 2 - config.offsetLength) =
      List.replicate size 0 ++ [1] := by
    rw [one, length, List.drop_replicate, List.append_assoc, List.take_append, length,
      List.take_of_length_le (by omega), show size + 2 - 1 - size = 1 by omega, next]
  have write := @I2cMemConfig.iI2cMemWrite_oneTurn config offset 1 (fun _ => 0) below 0
    (Nat.zero_le _) (List.replicate size 0) rest (by omega) [] (List.replicate config.pageSize 1)
    (fun _ => 0) 0
  have kept := holds.content_eq List.length_replicate length write
    (@Eeprom.pageAddress_lt (config.eeprom (fun _ => 0) 0) offset.toNat size _
      config.pageSize_dvd below)
  rw [List.getD_eq_getElem?_getD, List.getElem?_getD_replicate_default_eq, ite_self, sent] at kept
  have changed : config.written (fun _ => 0) offset.toNat (List.replicate size 0 ++ [1])
      ((config.eeprom (fun _ => 0) 0).pageAddress offset.toNat size) = 1 := by
    rw [I2cMemConfig.written, Eeprom.store_snoc, length, Function.update_self]
  exact absurd (changed.symm.trans kept) (by decide)

/-- What does not fit in its page goes on at the start of the page. -/
theorem not_writesThenReads_crossing (below : offset.toNat < 2 ^ config.sizeLog)
    (fits : size ≤ config.pageSize)
    (crosses : config.pageSize < offset.toNat % config.pageSize + size) :
    ¬WritesThenReads config offset size := by
  intro holds
  have remainder := Nat.mod_lt offset.toNat (@I2cMemConfig.pageSize_pos config)
  have length : (List.replicate size (1 : UInt8)).length = size := List.length_replicate
  have rest : List.replicate size (1 : UInt8) ≠ [] := List.length_pos_iff.mp (by omega)
  have write := @I2cMemConfig.iI2cMemWrite_oneTurn config offset 1 (fun _ => 0) below 0
    (Nat.zero_le _) (List.replicate size 1) rest (by omega) [] (List.replicate config.pageSize 1)
    (fun _ => 0) 0
  have place : (config.eeprom (fun _ => 0) 0).pageAddress offset.toNat
      (config.pageSize - offset.toNat % config.pageSize) =
      offset.toNat / config.pageSize * config.pageSize := by
    change _ + (offset.toNat % config.pageSize +
      (config.pageSize - offset.toNat % config.pageSize)) % config.pageSize = _
    rw [Nat.add_sub_cancel' (Nat.le_of_lt remainder), Nat.mod_self, Nat.add_zero]
    rfl
  have before : offset.toNat / config.pageSize * config.pageSize < offset.toNat := by
    have split := Nat.div_add_mod' offset.toNat config.pageSize
    omega
  have kept := holds.content_eq List.length_replicate length write
    (Nat.lt_trans before below)
  rw [if_neg (by omega)] at kept
  have changed : ∀ bytes : List UInt8, (∀ byte ∈ bytes, byte = 1) →
      config.pageSize - offset.toNat % config.pageSize < bytes.length →
      config.written (fun _ => 0) offset.toNat bytes
        (offset.toNat / config.pageSize * config.pageSize) = 1 := by
    intro bytes ones inside
    rw [← place]
    exact Eeprom.store_of_all ones inside
  refine absurd ((changed _ ?_ ?_).symm.trans kept) (by decide)
  · intro byte sent
    have among := List.mem_of_mem_take sent
    rw [List.drop_replicate, List.append_assoc, List.mem_append, List.mem_append,
      List.mem_replicate, List.mem_replicate, List.mem_singleton] at among
    rcases among with ⟨-, one⟩ | ⟨-, one⟩ | one <;> exact one
  · have two := @I2cMemConfig.offsetLength_le config
    rw [List.length_take, List.length_append, List.length_append, length]
    change _ < min _ (size + _ + 1)
    omega

theorem mem_tail_of_mem_drop {bytes : List UInt8} {count : ℕ} {byte : UInt8}
    (positive : 0 < count) (among : byte ∈ bytes.drop count) : byte ∈ bytes.tail := by
  rw [← Nat.sub_add_cancel positive, ← List.drop_tail] at among
  exact List.mem_of_mem_drop among

/-- The first turn sends the only byte that is not zero, the others bring zeros to its place. -/
def LaterZeros (offset : ℕ) (buffer remaining data : List UInt8) (content : ℕ → UInt8) : Prop :=
  (∀ byte ∈ data.tail, byte = 0) ∧
    (remaining = buffer ∨
      (∀ byte ∈ remaining, byte = 0) ∧ (remaining = [] → content offset = 0))

theorem laterZeros_turn {rest remaining data : List UInt8} {content : ℕ → UInt8}
    (long : config.pageSize ≤ rest.length) (zeros : ∀ byte ∈ rest, byte = 0)
    (some_ : remaining ≠ [])
    (holds : LaterZeros offset.toNat (1 :: rest) remaining data content) :
    LaterZeros offset.toNat (1 :: rest)
      (remaining.drop (min config.pageSize remaining.length)) (config.filled remaining data)
      (config.written content offset.toNat (config.sent remaining data 0)) := by
  have page := @I2cMemConfig.pageSize_pos config
  have positive : 0 < min config.pageSize remaining.length :=
    Nat.lt_min.mpr ⟨page, List.length_pos_iff.mpr some_⟩
  rcases holds with ⟨dataZeros, rfl | ⟨remainingZeros, -⟩⟩
  · have whole : min config.pageSize (1 :: rest).length = (config.pageSize - 1) + 1 := by
      rw [List.length_cons]
      omega
    rw [I2cMemConfig.filled, whole, List.take_succ_cons, List.drop_succ_cons]
    refine ⟨fun byte among => ?_, .inr ⟨fun byte among => ?_, fun nothing => ?_⟩⟩
    · rcases List.mem_append.mp among with sent | kept
      · exact zeros byte (List.mem_of_mem_take sent)
      · exact dataZeros byte (mem_tail_of_mem_drop (Nat.succ_pos _) kept)
    · exact zeros byte (List.mem_of_mem_drop among)
    · rw [List.drop_eq_nil_iff] at nothing
      omega
  · have filledZeros : ∀ byte ∈ config.filled remaining data, byte = 0 := by
      intro byte among
      rcases List.mem_append.mp among with sent | kept
      · exact remainingZeros byte (List.mem_of_mem_take sent)
      · exact dataZeros byte (mem_tail_of_mem_drop positive kept)
    refine ⟨fun byte among => filledZeros byte (List.mem_of_mem_tail among),
      .inr ⟨fun byte among => remainingZeros byte (List.mem_of_mem_drop among), fun _ => ?_⟩⟩
    have sentZeros : ∀ byte ∈ config.sent remaining data 0, byte = 0 := by
      intro byte among
      rcases List.mem_append.mp (List.mem_of_mem_take among) with filled | last
      · exact filledZeros byte filled
      · exact List.mem_singleton.mp last
    have sentLength : 0 < (config.sent remaining data 0).length := by
      have two := @I2cMemConfig.offsetLength_le config
      rw [I2cMemConfig.sent, List.length_take, List.length_append, List.length_singleton]
      omega
    have place : (config.eeprom content 0).pageAddress offset.toNat 0 = offset.toNat :=
      Eeprom.pageAddress_of_lt (Nat.mod_lt _ page)
    have stored := @Eeprom.store_of_all (config.eeprom content 0) offset.toNat _ 0 0
      sentZeros sentLength
    rw [place] at stored
    exact stored

/-- The pages behind the first one are written over it. -/
theorem not_writesThenReads_long (below : offset.toNat < 2 ^ config.sizeLog)
    (long : config.pageSize < size) : ¬WritesThenReads config offset size := by
  intro holds
  have zeros : ∀ byte ∈ List.replicate (size - 1) (0 : UInt8), byte = 0 :=
    fun _ => List.eq_of_mem_replicate
  have length : (1 :: List.replicate (size - 1) (0 : UInt8)).length = size := by
    rw [List.length_cons, List.length_replicate]
    omega
  have full : (List.replicate config.pageSize (0 : UInt8)).length = config.pageSize :=
    List.length_replicate
  have holdsFirst : LaterZeros offset.toNat (1 :: List.replicate (size - 1) 0)
      (1 :: List.replicate (size - 1) 0) (List.replicate config.pageSize 0) fun _ => 0 :=
    ⟨fun _ among => List.eq_of_mem_replicate (List.mem_of_mem_tail among), .inl rfl⟩
  rcases @I2cMemConfig.memWriteLoop_run config offset 0 (fun _ => 0) _ below
    (fun _ => Nat.zero_le _)
    (fun remaining data content some_ _ => laterZeros_turn
      (by rw [List.length_replicate]; omega) zeros some_)
    _ _ _ _ 0 0 (Nat.le_refl _) full holdsFirst with
    ⟨m, content, place, transfers, data, write, _, ended⟩
  rw [← I2cMemConfig.iI2cMemWrite_eq []] at write
  have kept := holds.content_eq full length write below
  have over_ : content offset.toNat = 0 := by
    rcases ended with same | ⟨-, zero⟩
    · cases same
    · exact zero rfl
  rw [if_pos (by omega), Nat.sub_self, List.getD_cons_zero] at kept
  exact absurd (over_.symm.trans kept) (by decide)

theorem writesThenReads_iff (inside : offset.toNat + size ≤ 2 ^ config.sizeLog) :
    WritesThenReads config offset size ↔
      size = 0 ∨ config.addr16 = true ∧
        offset.toNat % config.pageSize + size ≤ config.pageSize := by
  rcases Nat.eq_zero_or_pos size with rfl | positive
  · exact iff_of_true writesThenReads_zero (.inl rfl)
  · have below : offset.toNat < 2 ^ config.sizeLog := by omega
    constructor
    · intro holds
      have fits : size ≤ config.pageSize :=
        Nat.le_of_not_lt fun long => not_writesThenReads_long below long holds
      refine .inr ⟨?_, Nat.le_of_not_lt fun crosses =>
        not_writesThenReads_crossing below fits crosses holds⟩
      by_contra narrow
      exact not_writesThenReads_narrow below narrow positive fits holds
    · rintro (zero | ⟨wide, fits⟩)
      · omega
      · exact writesThenReads_of_le below wide positive fits

end RoundTrip

/-- 4096 bytes in pages of 32, with two bytes of offset. -/
def memory4096 : I2cMemConfig where
  i2caddr := 0x50
  addr16 := true
  sizeLog := 12
  pageSize := 32
  sizeLog_le := by decide
  pageSize_dvd := by decide
  pageSize_lt := by decide
  blockBits_clear := by decide

/-- 2048 bytes in pages of 16, with one byte of offset and three bits in the address. -/
def memory2048 : I2cMemConfig where
  i2caddr := 0x50
  addr16 := false
  sizeLog := 11
  pageSize := 16
  sizeLog_le := by decide
  pageSize_dvd := by decide
  pageSize_lt := by decide
  blockBits_clear := by decide

theorem writesThenReads_secondPage : WritesThenReads memory4096 32 32 :=
  (writesThenReads_iff (by decide)).mpr (.inr ⟨rfl, by decide⟩)

/-- A page and one byte; one byte with one byte of offset. -/
theorem not_writesThenReads_twoPages :
    ¬WritesThenReads memory4096 0 33 ∧ ¬WritesThenReads memory2048 0 1 :=
  ⟨not_writesThenReads_long (by decide) (by decide),
    not_writesThenReads_narrow (by decide) (by decide) (by decide) (by decide)⟩

end Sysio.I2c
