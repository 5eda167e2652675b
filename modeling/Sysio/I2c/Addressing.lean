import Sysio.I2c.Transfers

/-!
# The addresses of an I2C memory

An offset inside the memory can be told from the device address and the offset bytes that
`prviSetOffset` makes of it, whatever the memory was opened with as far as the bits above the
offset bytes are free in its address.
-/

namespace Sysio.I2c

/-- The bits of an offset that are sent behind the address. -/
def XI2cMem.offsetSize (m : XI2cMem) : ℕ := if m.addr16 then 16 else 8

/-- The first byte is the most significant one. -/
def bigEndian (bytes : List UInt8) : ℕ :=
  bytes.foldl (fun value byte => value * 256 + byte.toNat) 0

variable {m : XI2cMem} {sizeLog : ℕ} {offset : BitVec 32}

/-- The memory as it is opened, whatever its page size. -/
theorem exists_config (size : m.memSize.toNat = 2 ^ sizeLog)
    (sizeLog_le : sizeLog ≤ m.offsetSize + 3)
    (clear : ∀ i < sizeLog - m.offsetSize, m.i2caddr.getLsbD i = false) :
    ∃ config : I2cMemConfig, config.sizeLog = sizeLog ∧ config.offsetSize = m.offsetSize ∧
      { m with pageSize := 1 } = config.mem m.offset m.data := by
  have memSize : BitVec.ofNat 32 (2 ^ sizeLog) = m.memSize := by
    rw [← size, BitVec.ofNat_toNat, BitVec.setWidth_eq]
  have blockBits : m.i2caddr &&& ((BitVec.ofNat 32 (2 ^ sizeLog) - 1) >>> m.offsetSize) = 0 := by
    apply BitVec.eq_of_getLsbD_eq
    intro i inside
    have mask : (BitVec.ofNat 32 (2 ^ sizeLog) - 1).toNat = 2 ^ sizeLog - 1 := by
      have positive : 0 < 2 ^ sizeLog := Nat.two_pow_pos _
      have lt := m.memSize.isLt
      rw [memSize, BitVec.toNat_sub, size]
      rw [size] at lt
      change (2 ^ 32 - 1 + 2 ^ sizeLog) % 2 ^ 32 = _
      omega
    rw [BitVec.getLsbD_and, BitVec.getLsbD_ushiftRight, BitVec.getLsbD, BitVec.getLsbD, mask,
      Nat.testBit_two_pow_sub_one]
    by_cases low : i < sizeLog - m.offsetSize
    · have unset := clear i low
      rw [BitVec.getLsbD] at unset
      simp [unset]
    · have above : ¬m.offsetSize + i < sizeLog := by omega
      simp [above]
  exact ⟨⟨m.i2caddr, m.addr16, sizeLog, 1, sizeLog_le, one_dvd _, by decide, blockBits⟩, rfl, rfl,
    by rw [I2cMemConfig.mem, I2cMemConfig.memSize, memSize]⟩

/-- The bits of the block are added below the sign. -/
theorem toInt_or_sub {base block : BitVec 32} (disjoint : base &&& block = 0)
    (small : block.toNat < 8) : (base ||| block).toInt - base.toInt = block.toNat := by
  have sum : (base ||| block).toNat = base.toNat + block.toNat := by
    rw [← BitVec.add_eq_or_of_and_eq_zero _ _ disjoint,
      BitVec.toNat_add_of_and_eq_zero disjoint]
  have unsigned : block.msb = false := BitVec.msb_eq_false_iff_two_mul_lt.mpr (by omega)
  rw [BitVec.toInt_eq_msb_cond, BitVec.toInt_eq_msb_cond, BitVec.msb_or, unsigned,
    Bool.or_false, sum]
  split <;> omega

/-- What an offset is made of. -/
theorem prviSetOffset_inverted (size : m.memSize.toNat = 2 ^ sizeLog)
    (sizeLog_le : sizeLog ≤ m.offsetSize + 3)
    (clear : ∀ i < sizeLog - m.offsetSize, m.i2caddr.getLsbD i = false)
    (inside : offset.toNat < m.memSize.toNat) :
    (offset.toNat : ℤ) = ((prviSetOffset m offset).1.toInt - m.i2caddr.toInt) * 2 ^ m.offsetSize +
      bigEndian (prviSetOffset m offset).2.offset := by
  rcases exists_config size sizeLog_le clear with ⟨config, isLog, isSize, isMem⟩
  have base : m.i2caddr = config.i2caddr := congrArg XI2cMem.i2caddr isMem
  have addr : (prviSetOffset m offset).1 = config.i2caddr ||| config.block offset := by
    rw [← I2cMemConfig.prviSetOffset_addr m.offset m.data, ← isMem]
    rfl
  have bytes : (prviSetOffset m offset).2.offset = config.offsetBytes offset := by
    have same := congrArg (fun m => (prviSetOffset m offset).2.offset) isMem
    rwa [I2cMemConfig.prviSetOffset_eq] at same
  have disjoint : config.i2caddr &&& config.block offset = 0 := by
    rw [← I2cMemConfig.block_and_blockMask, BitVec.and_comm (config.block offset),
      ← BitVec.and_assoc, I2cMemConfig.i2caddr_and_blockMask]
    exact BitVec.zero_and
  rw [size, ← isLog] at inside
  rw [addr, base, toInt_or_sub disjoint I2cMemConfig.block_lt, bytes, bigEndian,
    I2cMemConfig.offsetBytes_value, I2cMemConfig.block_toNat, Nat.mod_eq_of_lt inside, isSize]
  exact_mod_cast (Nat.div_add_mod' offset.toNat (2 ^ m.offsetSize)).symm

/-- The address and the offset bytes determine the offset, and no two offsets of a memory share
them. -/
theorem prviSetOffset_determines (m : XI2cMem) (sizeLog : ℕ)
    (size : m.memSize.toNat = 2 ^ sizeLog) (sizeLog_le : sizeLog ≤ m.offsetSize + 3)
    (clear : ∀ i < sizeLog - m.offsetSize, m.i2caddr.getLsbD i = false) :
    (∀ offset, offset.toNat < m.memSize.toNat →
      (offset.toNat : ℤ) =
        ((prviSetOffset m offset).1.toInt - m.i2caddr.toInt) * 2 ^ m.offsetSize +
          bigEndian (prviSetOffset m offset).2.offset) ∧
      ∀ offset other, offset.toNat < m.memSize.toNat → other.toNat < m.memSize.toNat →
        (prviSetOffset m offset).1 = (prviSetOffset m other).1 →
        (prviSetOffset m offset).2.offset = (prviSetOffset m other).2.offset → offset = other := by
  have inverted (offset : BitVec 32) (inside : offset.toNat < m.memSize.toNat) :=
    prviSetOffset_inverted size sizeLog_le clear inside
  refine ⟨inverted, fun offset other inside inside' sameAddr sameBytes => ?_⟩
  have value := inverted offset inside
  rw [sameAddr, sameBytes, ← inverted other inside'] at value
  exact BitVec.eq_of_toNat_eq (Int.ofNat.inj value)

/-- Sixteen bits of offset and three bits of the address. -/
theorem prviSetOffset_determines_512k :
    (0x51234 : ℤ) =
      ((prviSetOffset ⟨0x50, 0x80000, 256, true, [], []⟩ 0x51234).1.toInt - 0x50) * 2 ^ 16 +
        bigEndian (prviSetOffset ⟨0x50, 0x80000, 256, true, [], []⟩ 0x51234).2.offset :=
  (prviSetOffset_determines ⟨0x50, 0x80000, 256, true, [], []⟩ 19 rfl (by decide)
    (by decide)).1 0x51234 (by decide)

end Sysio.I2c
