import Mathlib.Data.List.GetD
import Mathlib.Data.List.Induction
import Mathlib.Tactic.Ring
import Sysio.I2c.Memory
import Sysio.Lib.Bits

/-!
# Transfers with a memory that is open

What one write stores round its page, what the tries of a transfer come to when the memory is
ready in time, and which offset the device reads in the address and the bytes of `prviSetOffset`.
-/

namespace Sysio.I2c

namespace Eeprom

/-! ### A write round the page -/

section Page

variable {eeprom : Eeprom} {first : ℕ}

theorem store_nil : eeprom.store first [] = eeprom.content :=
  rfl

theorem store_snoc (bytes : List UInt8) (byte : UInt8) :
    eeprom.store first (bytes ++ [byte]) =
      Function.update (eeprom.store first bytes)
        (eeprom.pageAddress first bytes.length) byte := by
  simp [store, List.zipIdx_append]

/-- A byte of the memory is one of those written to its address, or is not written. -/
theorem store_cases (bytes : List UInt8) (a : ℕ) :
    (eeprom.store first bytes a ∈ bytes ∧
        ∃ i < bytes.length, eeprom.pageAddress first i = a) ∨
      (eeprom.store first bytes a = eeprom.content a ∧
        ∀ i < bytes.length, eeprom.pageAddress first i ≠ a) := by
  induction bytes using List.reverseRecOn with
  | nil => exact .inr ⟨rfl, fun i inside => absurd inside (Nat.not_lt_zero i)⟩
  | append_singleton bytes byte ih =>
      rw [store_snoc]
      by_cases last : eeprom.pageAddress first bytes.length = a
      · left
        subst last
        exact ⟨by simp, bytes.length, by simp, rfl⟩
      · rw [Function.update_of_ne (Ne.symm last)]
        rcases ih with ⟨written, i, inside, same⟩ | ⟨kept, outside⟩
        · exact .inl ⟨List.mem_append_left _ written, i, by simp; omega, same⟩
        · refine .inr ⟨kept, fun i inside => ?_⟩
          rcases Nat.lt_succ_iff_lt_or_eq.mp (by simpa using inside) with before | rfl
          · exact outside i before
          · exact last

theorem store_of_all {bytes : List UInt8} {value : UInt8} {i : ℕ}
    (all : ∀ byte ∈ bytes, byte = value) (inside : i < bytes.length) :
    eeprom.store first bytes (eeprom.pageAddress first i) = value := by
  rcases store_cases bytes (eeprom.pageAddress first i) with ⟨written, -⟩ | ⟨-, outside⟩
  · exact all _ written
  · exact absurd rfl (outside i inside)

theorem pageAddress_of_lt {i : ℕ} (inside : first % eeprom.pageSize + i < eeprom.pageSize) :
    eeprom.pageAddress first i = first + i := by
  rw [pageAddress, Nat.mod_eq_of_lt inside, ← Nat.add_assoc, Nat.div_add_mod']

/-- In a memory of whole pages a write stays in it. -/
theorem pageAddress_lt {i total : ℕ} (divides : eeprom.pageSize ∣ total) (below : first < total) :
    eeprom.pageAddress first i < total := by
  rcases divides with ⟨pages, rfl⟩
  have positive : 0 < eeprom.pageSize := Nat.pos_of_mul_pos_right (Nat.zero_lt_of_lt below)
  have page : first / eeprom.pageSize < pages := Nat.div_lt_of_lt_mul below
  have place : (first % eeprom.pageSize + i) % eeprom.pageSize < eeprom.pageSize :=
    Nat.mod_lt _ positive
  calc eeprom.pageAddress first i
      < first / eeprom.pageSize * eeprom.pageSize + eeprom.pageSize :=
        Nat.add_lt_add_left place _
    _ = (first / eeprom.pageSize + 1) * eeprom.pageSize := (Nat.succ_mul _ _).symm
    _ ≤ pages * eeprom.pageSize := Nat.mul_le_mul_right _ page
    _ = eeprom.pageSize * pages := Nat.mul_comm _ _

/-- Inside the page the bytes are stored one behind the other. -/
theorem store_of_le {bytes : List UInt8}
    (inside : first % eeprom.pageSize + bytes.length ≤ eeprom.pageSize) (a : ℕ) :
    eeprom.store first bytes a =
      if first ≤ a ∧ a < first + bytes.length then bytes.getD (a - first) 0
      else eeprom.content a := by
  induction bytes using List.reverseRecOn with
  | nil => rw [if_neg (by simp), store_nil]
  | append_singleton bytes byte ih =>
      have longer : (bytes ++ [byte]).length = bytes.length + 1 := by simp
      rw [longer] at inside ⊢
      rw [store_snoc, pageAddress_of_lt (by omega)]
      by_cases last : a = first + bytes.length
      · subst last
        rw [Function.update_self, if_pos (by omega), Nat.add_sub_cancel_left]
        simp
      · rw [Function.update_of_ne last, ih (by omega)]
        by_cases window : first ≤ a ∧ a < first + bytes.length
        · rw [if_pos window, if_pos (by omega), List.getD_append _ _ _ _ (by omega)]
        · rw [if_neg window, if_neg (by omega)]

end Page

end Eeprom

/-! ### Tries -/

theorem rdwrTries_of_ready {msgs : List I2cMsg} {eeprom : Eeprom} {notReady ioTry : ℕ}
    (ready : ioTry + notReady ≤ i2cmemTryMax) :
    rdwrTries msgs eeprom notReady ioTry = eeprom.transfer msgs := by
  induction notReady generalizing ioTry with
  | zero => rfl
  | succ notReady ih => rw [rdwrTries, if_neg (by omega), ih (by omega)]

theorem I2cBus.rdwr_of_ready {msgs : List I2cMsg} {bus : I2cBus} {got : List UInt8}
    {eeprom : Eeprom} (ready : bus.notReady bus.transfers ≤ i2cmemTryMax)
    (transferred : bus.eeprom.transfer msgs = some (got, eeprom)) :
    bus.rdwr msgs =
      (some got, { bus with eeprom := eeprom, transfers := bus.transfers + 1 }) := by
  rw [I2cBus.rdwr, rdwrTries_of_ready (by omega), transferred]
  rfl

/-! ### A memory that is open -/

/-- What a memory is opened with, as far as it fits. -/
structure I2cMemConfig where
  i2caddr : BitVec 32
  addr16 : Bool
  /-- `mem_size` is this power of two. -/
  sizeLog : ℕ
  pageSize : ℕ
  sizeLog_le : sizeLog ≤ (if addr16 then 16 else 8) + 3
  pageSize_dvd : pageSize ∣ 2 ^ sizeLog
  pageSize_lt : pageSize < 2 ^ 16
  blockBits_clear :
    i2caddr &&& ((BitVec.ofNat 32 (2 ^ sizeLog) - 1) >>> if addr16 then 16 else 8) = 0

namespace I2cMemConfig

/-- The bits of an offset. -/
def offsetSize (config : I2cMemConfig) : ℕ := if config.addr16 then 16 else 8

/-- The size of the memory. -/
def memSize (config : I2cMemConfig) : BitVec 32 := .ofNat 32 (2 ^ config.sizeLog)

/-- The number of bytes of an offset. -/
def offsetLength (config : I2cMemConfig) : ℕ := if config.addr16 then 2 else 1

/-- The bits of the address that belong to the offset. -/
def blockMask (config : I2cMemConfig) : BitVec 32 := (config.memSize - 1) >>> config.offsetSize

/-- The structure of the memory. -/
def mem (config : I2cMemConfig) (offset data : List UInt8) : XI2cMem :=
  ⟨config.i2caddr, config.memSize, config.pageSize, config.addr16, offset, data⟩

/-- The device that fits. -/
def eeprom (config : I2cMemConfig) (content : ℕ → UInt8) (place : ℕ) : Eeprom :=
  ⟨config.i2caddr.setWidth 16, config.blockMask.setWidth 16, config.offsetLength, config.pageSize,
    content, place⟩

variable {config : I2cMemConfig} {offset : BitVec 32}

theorem pageSize_pos : 0 < config.pageSize :=
  Nat.pos_of_dvd_of_pos config.pageSize_dvd (Nat.two_pow_pos _)

theorem memSize_toNat : config.memSize.toNat = 2 ^ config.sizeLog := by
  have log_le := config.sizeLog_le
  have lt : 2 ^ config.sizeLog < 2 ^ 32 :=
    Nat.pow_lt_pow_right (by decide) (by split at log_le <;> omega)
  rw [memSize, BitVec.toNat_ofNat, Nat.mod_eq_of_lt lt]

theorem fullMask_toNat : (config.memSize - 1).toNat = 2 ^ config.sizeLog - 1 := by
  have positive : 0 < 2 ^ config.sizeLog := Nat.two_pow_pos _
  have lt := config.memSize.isLt
  rw [memSize_toNat] at lt
  rw [BitVec.toNat_sub, memSize_toNat]
  change (2 ^ 32 - 1 + 2 ^ config.sizeLog) % 2 ^ 32 = _
  omega

theorem i2caddr_and_blockMask : config.i2caddr &&& config.blockMask = 0 :=
  config.blockBits_clear

/-- The upper bits of an offset, as they are put in the address. -/
def block (config : I2cMemConfig) (offset : BitVec 32) : BitVec 32 :=
  (offset &&& (config.memSize - 1)) >>> config.offsetSize

theorem block_toNat :
    (config.block offset).toNat = offset.toNat % 2 ^ config.sizeLog / 2 ^ config.offsetSize := by
  rw [block, BitVec.toNat_ushiftRight, BitVec.toNat_and, fullMask_toNat,
    Nat.and_two_pow_sub_one_eq_mod, Nat.shiftRight_eq_div_pow]

theorem block_lt : (config.block offset).toNat < 8 := by
  have below : offset.toNat % 2 ^ config.sizeLog < 2 ^ config.sizeLog :=
    Nat.mod_lt _ (Nat.two_pow_pos _)
  have bound : 2 ^ config.sizeLog ≤ 2 ^ config.offsetSize * 8 := by
    rw [show 8 = 2 ^ 3 from rfl, ← Nat.pow_add]
    exact Nat.pow_le_pow_right (by decide) config.sizeLog_le
  rw [block_toNat]
  exact Nat.div_lt_of_lt_mul (by omega)

theorem block_and_blockMask : config.block offset &&& config.blockMask = config.block offset := by
  rw [block, blockMask, ← BitVec.ushiftRight_and_distrib, BitVec.and_assoc, BitVec.and_self]

theorem prviSetOffset_addr (old data : List UInt8) :
    (prviSetOffset (config.mem old data) offset).1 = config.i2caddr ||| config.block offset := by
  have msb : ((config.block offset).setWidth 8).setWidth 32 = config.block offset := by
    apply BitVec.eq_of_toNat_eq
    have lt := @block_lt config offset
    rw [BitVec.toNat_setWidth, BitVec.toNat_setWidth]
    omega
  change (if (config.block offset).setWidth 8 ≠ 0 then
      config.i2caddr &&& ~~~config.blockMask ||| ((config.block offset).setWidth 8).setWidth 32
    else config.i2caddr) = _
  rw [msb, and_not_of_and_eq_zero i2caddr_and_blockMask]
  by_cases zero : (config.block offset).setWidth 8 = 0
  · rw [zero] at msb
    rw [if_neg (not_not_intro zero), ← msb]
    exact BitVec.or_zero.symm
  · rw [if_pos zero]

/-- The address of the messages for an offset. -/
def addr (config : I2cMemConfig) (offset : BitVec 32) : BitVec 16 :=
  (config.i2caddr ||| config.block offset).setWidth 16

/-- The bytes in front of the data for an offset. -/
def offsetBytes (config : I2cMemConfig) (offset : BitVec 32) : List UInt8 :=
  (prviSetOffset (config.mem [] []) offset).2.offset

theorem prviSetOffset_eq (old data : List UInt8) :
    prviSetOffset (config.mem old data) offset =
      (config.i2caddr ||| config.block offset, config.mem (config.offsetBytes offset) data) :=
  Prod.ext (prviSetOffset_addr old data) rfl

theorem selected (offset : BitVec 32) (content : ℕ → UInt8) (place : ℕ) :
    (config.eeprom content place).Selected (config.addr offset) := by
  have base : (config.i2caddr ||| config.block offset) &&& ~~~config.blockMask =
      config.i2caddr := by
    rw [BitVec.and_or_distrib_right, and_not_of_and_eq_zero i2caddr_and_blockMask,
      and_not_of_and_eq_self block_and_blockMask]
    exact BitVec.or_zero
  change (config.i2caddr ||| config.block offset).setWidth 16 &&&
    ~~~config.blockMask.setWidth 16 = config.i2caddr.setWidth 16
  rw [← BitVec.setWidth_not (by decide), ← BitVec.setWidth_and, base]

theorem addr_and_blockMask (offset : BitVec 32) :
    (config.addr offset &&& config.blockMask.setWidth 16).toNat =
      offset.toNat % 2 ^ config.sizeLog / 2 ^ config.offsetSize := by
  have lt := @block_lt config offset
  rw [addr, ← BitVec.setWidth_and, BitVec.and_or_distrib_right, i2caddr_and_blockMask,
    block_and_blockMask,
    show 0 ||| config.block offset = config.block offset from BitVec.zero_or,
    BitVec.toNat_setWidth, Nat.mod_eq_of_lt (by omega), block_toNat]

theorem offsetBytes_length : (config.offsetBytes offset).length = config.offsetLength := by
  rw [offsetLength]
  change (if config.addr16 then _ else _ : List UInt8).length = _
  split <;> rfl

/-- The bytes are the lower part of the offset, the most significant one first. -/
theorem offsetBytes_value :
    (config.offsetBytes offset).foldl (fun value byte => value * 256 + byte.toNat) 0 =
      offset.toNat % 2 ^ config.offsetSize := by
  simp only [offsetBytes, prviSetOffset, mem, offsetSize]
  by_cases wide : config.addr16 = true
  · have low : (offset &&& (0xFFFF : BitVec 32)).toNat = offset.toNat % 2 ^ 16 := by
      rw [BitVec.toNat_and]
      exact Nat.and_two_pow_sub_one_eq_mod _ 16
    simp only [wide, if_true, List.foldl_cons, List.foldl_nil, UInt8.toNat_ofBitVec,
      BitVec.toNat_setWidth, BitVec.toNat_ushiftRight, low, Nat.shiftRight_eq_div_pow]
    omega
  · have low : (offset &&& (0xFF : BitVec 32)).toNat = offset.toNat % 2 ^ 8 := by
      rw [BitVec.toNat_and]
      exact Nat.and_two_pow_sub_one_eq_mod _ 8
    simp only [wide, Bool.false_eq_true, if_false, List.foldl_cons, List.foldl_nil,
      UInt8.toNat_ofBitVec, BitVec.toNat_setWidth, low]
    omega

theorem start_eq {content : ℕ → UInt8} {place : ℕ} (rest : List UInt8)
    (below : offset.toNat < 2 ^ config.sizeLog) :
    (config.eeprom content place).start (config.addr offset)
      (config.offsetBytes offset ++ rest) = offset.toNat := by
  have taken : (config.offsetBytes offset ++ rest).take config.offsetLength =
      config.offsetBytes offset := by
    rw [← @offsetBytes_length config offset, List.take_left]
  have weight : 256 ^ config.offsetLength = 2 ^ config.offsetSize := by
    rw [offsetSize, offsetLength]
    split <;> rfl
  change (config.addr offset &&& config.blockMask.setWidth 16).toNat *
      256 ^ config.offsetLength +
    ((config.offsetBytes offset ++ rest).take config.offsetLength).foldl _ 0 = _
  rw [taken, offsetBytes_value, weight, addr_and_blockMask, Nat.mod_eq_of_lt below]
  exact Nat.div_add_mod' _ _

/-- The content after these bytes were written behind an offset. -/
def written (config : I2cMemConfig) (content : ℕ → UInt8) (first : ℕ) (bytes : List UInt8) :
    ℕ → UInt8 :=
  (config.eeprom content 0).store first bytes

theorem message_write {content : ℕ → UInt8} {place : ℕ} (bytes : List UInt8) :
    ∃ first, (offset.toNat < 2 ^ config.sizeLog → first = offset.toNat) ∧
      (config.eeprom content place).message
          (.write (config.addr offset) (config.offsetBytes offset ++ bytes)) =
        some ([], config.eeprom (config.written content first bytes) first) := by
  refine ⟨(config.eeprom content place).start (config.addr offset)
    (config.offsetBytes offset ++ bytes), start_eq bytes, ?_⟩
  have long : (config.eeprom content place).offsetBytes ≤
      (config.offsetBytes offset ++ bytes).length := by
    rw [List.length_append, offsetBytes_length]
    exact Nat.le_add_right _ _
  have rest : (config.offsetBytes offset ++ bytes).drop config.offsetLength = bytes := by
    rw [← @offsetBytes_length config offset, List.drop_left]
  rw [Eeprom.message, if_pos ⟨selected offset content place, long⟩]
  change some ([], config.eeprom (config.written content _
    ((config.offsetBytes offset ++ bytes).drop config.offsetLength)) _) = _
  rw [rest]

end I2cMemConfig

end Sysio.I2c
