import Sysio.Lib.Layout
import Sysio.Lib.Memory

/-!
# The serial port of a ChipIo

One pass of `pvSerialThread` through the part that receives: while the interrupt line stays active,
blocks of bytes are read one behind the other into a buffer, which is written to the
pseudo-terminal then. What the pin, the registers and the pseudo-terminal answer is given in
advance; when the answers for the loop are used up there is nothing more to read.

Each block alone fits into the buffer, all blocks of a pass need not, and what `write` returns is
compared with the size of the last block.
-/

namespace Sysio.ChipIo

open Layout

def i2cBlockMax : ℕ := 32
def eStatusBusy : ℕ := 0x80

/-- Whether there is a pin for interrupts. -/
structure XChipIoSerial where
  irq : Bool

/-- What one turn of the loop finds: the pin, the count of bytes, and a block or an error. -/
structure SerialTurn where
  irq : ℤ
  available : ℤ
  block : Option (List UInt8)
deriving DecidableEq, Repr

structure SerialAnswers where
  irq : ℤ
  status : ℤ
  turns : List SerialTurn
  written : ℤ

structure SerialState where
  buffer : List UInt8
  p : ℕ
  iBytesRead : ℕ
  iRet : ℤ

/-- What is written to the pseudo-terminal, and whether an error is reported. -/
structure SerialPass where
  writes : List (List UInt8)
  isError : Bool
deriving DecidableEq, Repr

def bIrqIsSet (port : XChipIoSerial) (pin : ℤ) : Bool :=
  if port.irq then if 0 ≤ pin then pin ≠ 0 else false else true

def iChipIsBusy (status : ℤ) : Bool :=
  if 0 ≤ status then status.toNat &&& eStatusBusy ≠ 0 else true

/-- The bytes of the block; there are at most as many of them as are asked for. -/
def SerialTurn.bytes (turn : SerialTurn) : List UInt8 :=
  (turn.block.getD []).take (min i2cBlockMax turn.available.toNat)

/-- The result of `iChipIoReadRegBlock`. -/
def SerialTurn.ret (turn : SerialTurn) : ℤ :=
  if turn.block.isSome then turn.bytes.length else -1

/-- The block is stored at `p`. -/
def SerialState.receive (s : SerialState) (turn : SerialTurn) : Except Fault SerialState :=
  match store s.buffer s.p turn.bytes with
  | none => .error .outOfBounds
  | some buffer =>
      if 0 < turn.ret then
        .ok ⟨buffer, s.p + turn.ret.toNat, s.iBytesRead + turn.ret.toNat, turn.ret⟩
      else .ok { s with buffer := buffer, iRet := turn.ret }

def serialLoop (port : XChipIoSerial) : List SerialTurn → SerialState → Except Fault SerialState
  | [], s => .ok s
  | turn :: turns, s =>
      if bIrqIsSet port turn.irq then
        if turn.available ≤ 0 then .ok s
        else (s.receive turn).bind (serialLoop port turns)
      else .ok s

def serialWrite (written : ℤ) (s : SerialState) : SerialPass :=
  if 0 < s.iBytesRead then ⟨[s.buffer.take s.iBytesRead], written ≠ s.iRet⟩ else ⟨[], false⟩

/-- The part of `pvSerialThread` that receives, with what the buffer and `iRet` have before. -/
def serialPass (port : XChipIoSerial) (answers : SerialAnswers) (buffer : Vector UInt8 i2cBlockMax)
    (iRet : ℤ) : Except Fault SerialPass :=
  if bIrqIsSet port answers.irq ∧ iChipIsBusy answers.status = false then
    (serialLoop port answers.turns ⟨buffer.toList, 0, 0, iRet⟩).map (serialWrite answers.written)
  else .ok ⟨[], false⟩

/-! ### What is received -/

/-- The turn reads a block. -/
def SerialTurn.reads (port : XChipIoSerial) (turn : SerialTurn) : Bool :=
  bIrqIsSet port turn.irq && decide (0 < turn.available)

/-- The turns of the loop that are made and read a block. -/
def SerialAnswers.met (answers : SerialAnswers) (port : XChipIoSerial) : List SerialTurn :=
  if bIrqIsSet port answers.irq ∧ iChipIsBusy answers.status = false then
    answers.turns.takeWhile (SerialTurn.reads port)
  else []

def SerialAnswers.received (answers : SerialAnswers) (port : XChipIoSerial) : List UInt8 :=
  (answers.met port).flatMap SerialTurn.bytes

/-- The result of the last block that is read. -/
def SerialAnswers.lastRet (answers : SerialAnswers) (port : XChipIoSerial) (iRet : ℤ) : ℤ :=
  ((answers.met port).map SerialTurn.ret).getLastD iRet

/-- The pass stays inside the buffer, what it has received is written, and an error is reported
if and only if less of it has been accepted. -/
def SerialRight (port : XChipIoSerial) (answers : SerialAnswers)
    (buffer : Vector UInt8 i2cBlockMax) (iRet : ℤ) : Prop :=
  ∃ pass, serialPass port answers buffer iRet = .ok pass ∧
    pass.writes.flatten = answers.received port ∧
    (pass.isError = true ↔ answers.received port ≠ [] ∧
      answers.written < (answers.received port).length)

variable {port : XChipIoSerial} {answers : SerialAnswers} {turn : SerialTurn}
  {turns : List SerialTurn} {s : SerialState} {got : List UInt8}

/-- What has been received is at the start of the buffer, and `p` is behind it. -/
structure SerialState.Has (s : SerialState) (got : List UInt8) : Prop where
  length : s.buffer.length = i2cBlockMax
  pointer : s.p = got.length
  count : s.iBytesRead = got.length
  stored : s.buffer.take got.length = got

theorem SerialTurn.toNat_ret (turn : SerialTurn) : turn.ret.toNat = turn.bytes.length := by
  rw [SerialTurn.ret]
  cases isBlock : turn.block with
  | none => simp [SerialTurn.bytes, isBlock]
  | some bytes => simp

theorem SerialTurn.bytes_of_ret (nothing : ¬0 < turn.ret) : turn.bytes = [] := by
  have length := turn.toNat_ret
  rw [Int.toNat_of_nonpos (Int.not_lt.mp nothing)] at length
  exact List.eq_nil_of_length_eq_zero length.symm

/-- A block that fits is stored behind the others. -/
theorem SerialState.Has.receive (has : s.Has got)
    (fits : got.length + turn.bytes.length ≤ i2cBlockMax) :
    ∃ next, s.receive turn = .ok next ∧ next.Has (got ++ turn.bytes) ∧ next.iRet = turn.ret := by
  have inside : s.p + turn.bytes.length ≤ s.buffer.length := by
    rw [has.pointer, has.length]
    exact fits
  rw [SerialState.receive, store_eq inside, has.pointer, has.stored]
  dsimp only
  have stored : (got ++ turn.bytes ++ s.buffer.drop (got.length + turn.bytes.length)).length =
      i2cBlockMax := by
    rw [List.length_append, List.length_append, List.length_drop, has.length]
    exact Nat.add_sub_cancel' fits
  have taken : (got ++ turn.bytes ++ s.buffer.drop (got.length + turn.bytes.length)).take
      (got ++ turn.bytes).length = got ++ turn.bytes := List.take_left
  split
  · refine ⟨_, rfl, ⟨stored, ?_, ?_, taken⟩, rfl⟩
    · rw [turn.toNat_ret, List.length_append]
    · rw [turn.toNat_ret, List.length_append, has.count]
  · rename_i nothing
    have empty := turn.bytes_of_ret nothing
    refine ⟨_, rfl, ⟨stored, ?_, ?_, taken⟩, rfl⟩
    · rw [empty, List.append_nil]
    · rw [empty, List.append_nil]
      exact has.count

theorem SerialState.Has.overrun (has : s.Has got)
    (beyond : ¬got.length + turn.bytes.length ≤ i2cBlockMax) :
    s.receive turn = .error .outOfBounds := by
  have outside : ¬s.p + turn.bytes.length ≤ s.buffer.length := by
    rw [has.pointer, has.length]
    exact beyond
  rw [SerialState.receive, store, if_neg outside]

theorem serialLoop_cons (port : XChipIoSerial) (turn : SerialTurn) (turns : List SerialTurn)
    (s : SerialState) :
    serialLoop port (turn :: turns) s =
      if turn.reads port then (s.receive turn).bind (serialLoop port turns) else .ok s := by
  rw [serialLoop, SerialTurn.reads]
  cases bIrqIsSet port turn.irq with
  | false => rfl
  | true =>
      by_cases nothing : turn.available ≤ 0
      · simp [nothing]
      · simp [nothing, Int.not_le.mp nothing]

/-- The loop collects the blocks, as long as they fit together. -/
theorem SerialState.Has.loop (has : s.Has got)
    (fits : (got ++ (turns.takeWhile (SerialTurn.reads port)).flatMap SerialTurn.bytes).length ≤
      i2cBlockMax) :
    ∃ last, serialLoop port turns s = .ok last ∧
      last.Has (got ++ (turns.takeWhile (SerialTurn.reads port)).flatMap SerialTurn.bytes) ∧
      last.iRet = ((turns.takeWhile (SerialTurn.reads port)).map SerialTurn.ret).getLastD
        s.iRet := by
  induction turns generalizing s got with
  | nil =>
      refine ⟨s, rfl, ?_, rfl⟩
      rw [List.takeWhile_nil, List.flatMap_nil, List.append_nil]
      exact has
  | cons turn turns ih =>
      rw [serialLoop_cons]
      cases reads : turn.reads port with
      | false =>
          rw [List.takeWhile_cons_of_neg (by rw [reads]; exact Bool.false_ne_true)]
          refine ⟨s, rfl, ?_, rfl⟩
          rw [List.flatMap_nil, List.append_nil]
          exact has
      | true =>
          rw [List.takeWhile_cons_of_pos reads] at fits ⊢
          rw [List.flatMap_cons, ← List.append_assoc] at fits ⊢
          have fitsFirst : got.length + turn.bytes.length ≤ i2cBlockMax := by
            rw [List.length_append, List.length_append] at fits
            exact Nat.le_trans (Nat.le_add_right _ _) fits
          rcases has.receive fitsFirst with ⟨next, receives, hasNext, isRet⟩
          rcases ih hasNext fits with ⟨last, runs, hasLast, isLast⟩
          refine ⟨last, ?_, hasLast, ?_⟩
          · rw [receives]
            exact runs
          · rw [isLast, isRet, List.map_cons, List.getLastD_cons]

theorem SerialState.Has.loop_overrun (has : s.Has got) (room : got.length ≤ i2cBlockMax)
    (beyond : ¬(got ++ (turns.takeWhile (SerialTurn.reads port)).flatMap
      SerialTurn.bytes).length ≤ i2cBlockMax) :
    serialLoop port turns s = .error .outOfBounds := by
  induction turns generalizing s got with
  | nil =>
      rw [List.takeWhile_nil, List.flatMap_nil, List.append_nil] at beyond
      exact absurd room beyond
  | cons turn turns ih =>
      rw [serialLoop_cons]
      cases reads : turn.reads port with
      | false =>
          rw [List.takeWhile_cons_of_neg (by rw [reads]; exact Bool.false_ne_true),
            List.flatMap_nil, List.append_nil] at beyond
          exact absurd room beyond
      | true =>
          rw [List.takeWhile_cons_of_pos reads, List.flatMap_cons, ← List.append_assoc] at beyond
          by_cases fits : got.length + turn.bytes.length ≤ i2cBlockMax
          · rcases has.receive fits with ⟨next, receives, hasNext, -⟩
            have roomNext : (got ++ turn.bytes).length ≤ i2cBlockMax := by
              rw [List.length_append]
              exact fits
            rw [if_pos rfl, receives]
            exact ih hasNext roomNext beyond
          · rw [if_pos rfl, has.overrun fits]
            rfl

theorem has_start (buffer : Vector UInt8 i2cBlockMax) (iRet : ℤ) :
    SerialState.Has ⟨buffer.toList, 0, 0, iRet⟩ [] :=
  ⟨Vector.length_toList, rfl, rfl, rfl⟩

/-- What is written after the loop, and what is reported. -/
theorem SerialState.Has.write (has : s.Has got) (written : ℤ) :
    (serialWrite written s).writes.flatten = got ∧
      ((serialWrite written s).isError = true ↔ got ≠ [] ∧ written ≠ s.iRet) := by
  rw [serialWrite, has.count, has.stored]
  cases got with
  | nil => simp
  | cons byte got => simp

theorem serialPass_of_fits (runs : bIrqIsSet port answers.irq ∧ iChipIsBusy answers.status = false)
    (fits : (answers.received port).length ≤ i2cBlockMax) (buffer : Vector UInt8 i2cBlockMax)
    (iRet : ℤ) :
    ∃ pass, serialPass port answers buffer iRet = .ok pass ∧
      pass.writes.flatten = answers.received port ∧
      (pass.isError = true ↔
        answers.received port ≠ [] ∧ answers.written ≠ answers.lastRet port iRet) := by
  have isMet : answers.met port = answers.turns.takeWhile (SerialTurn.reads port) := if_pos runs
  rw [SerialAnswers.received, isMet] at fits
  rcases (has_start buffer iRet).loop fits with ⟨last, ends, has, isRet⟩
  rw [SerialAnswers.received, SerialAnswers.lastRet, isMet, ← isRet]
  have writes := has.write answers.written
  refine ⟨serialWrite answers.written last, ?_, writes⟩
  rw [serialPass, if_pos runs, ends]
  rfl

theorem serialPass_of_beyond
    (runs : bIrqIsSet port answers.irq ∧ iChipIsBusy answers.status = false)
    (beyond : ¬(answers.received port).length ≤ i2cBlockMax) (buffer : Vector UInt8 i2cBlockMax)
    (iRet : ℤ) : serialPass port answers buffer iRet = .error .outOfBounds := by
  have isMet : answers.met port = answers.turns.takeWhile (SerialTurn.reads port) := if_pos runs
  rw [SerialAnswers.received, isMet] at beyond
  rw [serialPass, if_pos runs, (has_start buffer iRet).loop_overrun (Nat.zero_le _) beyond]
  rfl

/-- A pass is right if and only if all of its blocks fit into the buffer and, if there are any
bytes, the last block is as large as what was accepted just when everything was. -/
theorem serialRight_iff (port : XChipIoSerial) (answers : SerialAnswers)
    (buffer : Vector UInt8 i2cBlockMax) (iRet : ℤ) :
    SerialRight port answers buffer iRet ↔
      (answers.received port).length ≤ i2cBlockMax ∧
        (answers.received port = [] ∨
          (answers.written = answers.lastRet port iRet ↔
            ((answers.received port).length : ℤ) ≤ answers.written)) := by
  by_cases runs : bIrqIsSet port answers.irq ∧ iChipIsBusy answers.status = false
  · by_cases fits : (answers.received port).length ≤ i2cBlockMax
    · rcases serialPass_of_fits runs fits buffer iRet with ⟨pass, ends, writes, reports⟩
      have same : SerialRight port answers buffer iRet ↔ (pass.isError = true ↔
          answers.received port ≠ [] ∧ answers.written < (answers.received port).length) := by
        constructor
        · rintro ⟨pass', ends', -, right⟩
          rw [ends] at ends'
          cases ends'
          exact right
        · exact fun right => ⟨pass, ends, writes, right⟩
      rw [same, reports]
      by_cases empty : answers.received port = []
      · simp [empty]
      · simp only [ne_eq, empty, not_false_eq_true, true_and, false_or, fits]
        rw [← not_le, not_iff_not]
    · have overruns := serialPass_of_beyond runs fits buffer iRet
      constructor
      · rintro ⟨pass, ends, -⟩
        rw [overruns] at ends
        cases ends
      · exact fun right => absurd right.1 fits
  · have isMet : answers.met port = [] := if_neg runs
    have empty : answers.received port = [] := by
      rw [SerialAnswers.received, isMet]
      rfl
    have ends : serialPass port answers buffer iRet = .ok ⟨[], false⟩ := if_neg runs
    have right : SerialRight port answers buffer iRet := by
      refine ⟨_, ends, empty.symm, ?_⟩
      rw [empty]
      simp
    refine iff_of_true right ⟨?_, .inl empty⟩
    rw [empty]
    exact Nat.zero_le _

/-- These blocks, read without a pin from a port that is not busy. -/
def blocksThenWritten (blocks : List (List UInt8)) (written : ℤ) : SerialAnswers :=
  ⟨0, 0, blocks.map fun block => ⟨0, block.length, some block⟩, written⟩

/-- A block that does not fit behind the first, and two that do: all of their bytes are accepted,
and an error is reported. -/
theorem not_serialRight_twoBlocks :
    ¬SerialRight ⟨false⟩ (blocksThenWritten [List.replicate 32 1, [2]] 33) (.replicate _ 0) 0 ∧
      ¬SerialRight ⟨false⟩ (blocksThenWritten [[1], [2]] 2) (.replicate _ 0) 0 := by
  have overruns : serialPass ⟨false⟩ (blocksThenWritten [List.replicate 32 1, [2]] 33)
      (.replicate _ 0) 0 = .error .outOfBounds := by decide +kernel
  have reports : serialPass ⟨false⟩ (blocksThenWritten [[1], [2]] 2) (.replicate _ 0) 0 =
      .ok ⟨[[1, 2]], true⟩ := by decide +kernel
  constructor
  · rintro ⟨pass, ends, -⟩
    rw [overruns] at ends
    cases ends
  · rintro ⟨pass, ends, -, right⟩
    rw [reports] at ends
    cases ends
    exact absurd (right.mp rfl).2 (by decide +kernel)

end Sysio.ChipIo
