import Sysio.Rf69.Frames

/-!
# Received data as a string

`sRf69Data` gives out the buffer into which `vRf69Isr` has read a frame. The zero byte behind the
data is written only for 1 to 60 bytes of them: without data nothing is written at all, and the
longest frames leave room for the byte but are taken to fill the buffer.
-/

namespace Sysio.Rf69

open Routine

variable {rf : XRf69} {w : Rf69World} {payload : List UInt8} {b dest sender ctl : UInt8}

/-- The buffer has these data and a zero byte behind them. -/
def Terminated (bytes : List UInt8) (rf : XRf69) : Prop :=
  rf.dataLen.toNat < rfFifoSize ∧ rf.data.toList[rf.dataLen.toNat]? = some 0 ∧
    rf.data.toList.take rf.dataLen.toNat = bytes

theorem dataLength_le (header : 3 ≤ b) : dataLength b ≤ 63 := by
  rw [dataLength_eq header]
  omega

theorem storedData_end {n : ℕ} {bytes : List UInt8} (length : bytes.length = n) (room : n ≤ 63) :
    (rf.storedData n bytes).toList[n]? = some 0 ↔
      (1 ≤ n ∧ n ≤ 60) ∨ rf.data.toList[n]? = some 0 := by
  have inside : n < rfFifoSize := Nat.lt_of_le_of_lt room (by decide)
  have known : ∀ data : Vector UInt8 rfFifoSize, data.toList[n]? = some data[n] := by
    intro data
    rw [Vector.getElem?_toList, Vector.getElem?_eq_getElem inside]
  rw [XRf69.storedData]
  split
  · rename_i some_
    split
    · rename_i short
      have short : n ≤ 60 := Nat.le_of_lt_succ short
      rw [Vector.toList_setIfInBounds, List.getElem?_set_self (by simpa using inside)]
      exact iff_of_true rfl (.inl ⟨some_, short⟩)
    · rename_i long
      have long : ¬n ≤ 60 := fun short => long (Nat.lt_succ_of_le short)
      rw [known, known, Vector.getElem_fill_of_le _ inside (Nat.le_of_eq length)]
      exact ⟨.inr, fun either => either.resolve_left fun short => long short.2⟩
  · rename_i none_
    exact ⟨.inr, fun either => either.resolve_left fun short => none_ short.1⟩

theorem Taken.ends_iff {rf' : XRf69} (header : 3 ≤ b)
    (taken : Taken rf ⟨b, dest, sender, ctl⟩ payload rf') :
    Terminated (dataBytes b payload) rf' ↔
      (1 ≤ dataLength b ∧ dataLength b ≤ 60) ∨ rf.data.toList[dataLength b]? = some 0 := by
  rcases taken with ⟨-, -, isLength, isData⟩
  have length := dataBytes_length b payload
  have room := dataLength_le header
  have isLength : rf'.dataLen.toNat = dataLength b := congrArg UInt8.toNat isLength
  rw [Terminated, isLength, isData, ← storedData_end length room]
  constructor
  · exact fun terminated => terminated.2.1
  · refine fun isEnd => ⟨Nat.lt_of_le_of_lt room (by decide), isEnd, ?_⟩
    exact take_storedData length (Nat.le_trans room (by decide))

/-- A zero byte ends the data of a frame that has been accepted if and only if there are 1 to 60 of
them, or it was there before. -/
theorem terminated_iff (serves : ∀ i, 0 ≤ (w.env i).fault)
    (ready : (w.env w.clock).value &&& rfIrqflags2Payloadready ≠ 0) (receives : w.rf.mode = .rx)
    (presented : w.chip.rxFifo = b :: dest :: sender :: ctl :: payload)
    (accepted : 0 < (vRf69Isr w).2.rf.hdr.payloadLen) :
    Terminated (dataBytes b payload) (vRf69Isr w).2.rf ↔
      (1 ≤ dataLength b ∧ dataLength b ≤ 60) ∨ w.rf.data.toList[dataLength b]? = some 0 := by
  have hasFrame : HasFrame w.rf (b :: dest :: sender :: ctl :: payload) w :=
    ⟨⟨serves, rfl, presented⟩, ready⟩
  rcases (finishes_isr receives).run hasFrame with ⟨_, after, runs, reached⟩
  rw [runs] at accepted ⊢
  rcases reached with ⟨header, -, rf', fifo', taken, healthy⟩ | ⟨-, zero⟩
  · rw [healthy.2.1]
    exact taken.ends_iff header
  · rw [zero] at accepted
    exact absurd accepted (by decide)

/-- A node that has received something before, and these bytes now. -/
def usedNode (fifo : List UInt8) : Rf69World :=
  { readyNode 2 .rx fifo with
    rf := { (readyNode 2 .rx fifo).rf with data := .replicate 66 65 } }

theorem terminated_twoBytes :
    Terminated [10, 20] (vRf69Isr (usedNode [5, 2, 1, rf69AckReq, 10, 20])).2.rf :=
  (@terminated_iff (usedNode [5, 2, 1, rf69AckReq, 10, 20]) [10, 20] 5 2 1 rf69AckReq
    (fun _ => le_refl 0) (by decide) rfl rfl (by decide +kernel)).mpr (.inl (by decide))

/-- A frame without data, and one with the most of them: what was in the buffer before follows. -/
theorem not_terminated_limits :
    0 < (vRf69Isr (usedNode [3, 2, 1, rf69AckReq])).2.rf.hdr.payloadLen ∧
      ¬Terminated [] (vRf69Isr (usedNode [3, 2, 1, rf69AckReq])).2.rf ∧
      0 < (vRf69Isr (usedNode ([64, 2, 1, rf69AckReq] ++
        List.replicate 61 10))).2.rf.hdr.payloadLen ∧
      ¬Terminated (List.replicate 61 10)
        (vRf69Isr (usedNode ([64, 2, 1, rf69AckReq] ++ List.replicate 61 10))).2.rf := by
  unfold Terminated
  decide +kernel

end Sysio.Rf69
