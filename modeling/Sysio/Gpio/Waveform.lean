import Sysio.Gpio.BlyssFields

/-!
# The waveform of a Blyss frame

A frame is played on the line as a header, two intervals for each of its 52 bits, and a footer.
The loops play the intervals one after the other until a write fails.
-/

namespace Sysio.Gpio

/-- A low interval and a high one: the low one is the shorter for a 1. -/
def bitIntervals (bit : Bool) : List Interval :=
  [⟨false, if bit then t1 else t2⟩, ⟨true, if bit then t2 else t1⟩]

/-- The interval before a frame. -/
def header : Interval := ⟨true, headerTime⟩

/-- The interval behind a frame. -/
def footer : Interval := ⟨false, footerTime⟩

/-- The bits that are sent, most significant bit of each byte first. -/
def XBlyssFrame.bits (f : XBlyssFrame) : List Bool := (List.range blyssNofBits).map f.bit

/-- The intervals of a frame. -/
def frameIntervals (bits : List Bool) : List Interval :=
  header :: (bits.flatMap bitIntervals ++ [footer])

/-- The intervals of a frame that is sent several times. -/
def XBlyssFrame.waveform (f : XBlyssFrame) (repeats : ℕ) : List Interval :=
  (List.replicate repeats (frameIntervals f.bits)).flatten

/-- The bits of so many pairs of intervals. -/
def recoverBits : ℕ → List Interval → List Bool
  | 0, _ => []
  | n + 1, low :: _ :: rest => decide (low.micros = t1) :: recoverBits n rest
  | _ + 1, _ => []

/-- The bits of a frame, from its intervals. -/
def recoverFrame (intervals : List Interval) : List Bool :=
  recoverBits blyssNofBits intervals.tail

/-! ### Intervals on a line -/

namespace Line

/-- Each interval is a write and a delay; the first write that fails is the last. -/
def play : List Interval → Line → ℤ × Line
  | [], line => (0, line)
  | interval :: rest, line =>
      if line.answers line.writes = 0 then
        play rest ((line.write interval.level).2.delay interval.micros)
      else (-1, (line.write interval.level).2)

variable {line : Line} {intervals first second : List Interval} {k : ℕ}

/-- What the source does after a step that may fail. -/
theorem play_append (first second : List Interval) (line : Line) :
    line.play (first ++ second) =
      if (line.play first).1 ≠ 0 then (-1, (line.play first).2)
      else (line.play first).2.play second := by
  induction first generalizing line with
  | nil => rfl
  | cons interval rest hypothesis =>
      rw [List.cons_append, play, play]
      by_cases works : line.answers line.writes = 0
      · rw [if_pos works, if_pos works, hypothesis]
      · rw [if_neg works, if_neg works, if_pos (show (-1 : ℤ) ≠ 0 by decide)]

theorem write_delay_emitted {interval : Interval} (works : line.answers line.writes = 0) :
    ((line.write interval.level).2.delay interval.micros).emitted =
      line.emitted ++ [interval] := by
  change line.emitted ++ [⟨if line.answers line.writes = 0 then interval.level else line.level,
    interval.micros⟩] = _
  rw [if_pos works]

theorem play_works (works : ∀ i < intervals.length, line.answers (line.writes + i) = 0) :
    (line.play intervals).1 = 0 ∧
      (line.play intervals).2.emitted = line.emitted ++ intervals := by
  induction intervals generalizing line with
  | nil => exact ⟨rfl, (List.append_nil _).symm⟩
  | cons interval rest hypothesis =>
      have now : line.answers line.writes = 0 := works 0 (Nat.succ_pos _)
      have later : ∀ i < rest.length, line.answers (line.writes + 1 + i) = 0 := by
        intro i below
        rw [Nat.add_assoc, Nat.add_comm 1 i]
        exact works (i + 1) (Nat.succ_lt_succ below)
      rw [play, if_pos now]
      rcases @hypothesis ((line.write interval.level).2.delay interval.micros) later with
        ⟨ret, emitted⟩
      refine ⟨ret, ?_⟩
      rw [emitted, write_delay_emitted now, List.append_assoc, List.singleton_append]

/-- Nothing is emitted from the write that fails on. -/
theorem play_fails (inside : k < intervals.length) (fails : line.answers (line.writes + k) ≠ 0)
    (works : ∀ i < k, line.answers (line.writes + i) = 0) :
    (line.play intervals).1 = -1 ∧
      (line.play intervals).2.emitted = line.emitted ++ intervals.take k := by
  induction intervals generalizing line k with
  | nil => exact absurd inside (Nat.not_lt_zero k)
  | cons interval rest hypothesis =>
      rw [play]
      cases k with
      | zero =>
          have now : line.answers line.writes ≠ 0 := fails
          rw [if_neg now]
          exact ⟨rfl, (List.append_nil _).symm⟩
      | succ k =>
          have now : line.answers line.writes = 0 := works 0 (Nat.succ_pos _)
          have later : ∀ i < k, line.answers (line.writes + 1 + i) = 0 := by
            intro i below
            rw [Nat.add_assoc, Nat.add_comm 1 i]
            exact works (i + 1) (Nat.succ_lt_succ below)
          have then_fails : line.answers (line.writes + 1 + k) ≠ 0 := by
            rw [Nat.add_assoc, Nat.add_comm 1 k]
            exact fails
          rw [if_pos now]
          rcases @hypothesis ((line.write interval.level).2.delay interval.micros) k
            (Nat.lt_of_succ_lt_succ inside) then_fails later with ⟨ret, emitted⟩
          refine ⟨ret, ?_⟩
          rw [emitted, write_delay_emitted now, List.append_assoc, List.take_succ_cons,
            List.singleton_append]

end Line

/-! ### The loops -/

section Loops

variable {f : XBlyssFrame} {byte mask : BitVec 8} {i : ℕ}

theorem iSendHeader_eq (line : Line) : iSendHeader line = line.play [header] := rfl

theorem iSendBit_eq (bit : Bool) (line : Line) :
    iSendBit bit line = line.play (bitIntervals bit) := rfl

/-- The mask before the turn of bit `i`: 0 at the first bit of a byte, which is loaded then. -/
def Loaded (f : XBlyssFrame) (i : ℕ) (byte mask : BitVec 8) : Prop :=
  (i % 8 = 0 ∧ mask = 0) ∨ (i % 8 ≠ 0 ∧ mask = 1#8 <<< (7 - i % 8) ∧ byte = f.byte (i / 8))

theorem mask_ne_zero : ∀ r < 8, 1#8 <<< (7 - r) ≠ 0 := by decide

theorem mask_next : ∀ r < 7, (1#8 <<< (7 - r)) >>> 1 = 1#8 <<< (7 - (r + 1)) := by decide

theorem Loaded.byte_eq (loaded : Loaded f i byte mask) :
    (if mask = 0 then f.byte (i / 8) else byte) = f.byte (i / 8) := by
  rcases loaded with ⟨-, empty⟩ | ⟨-, -, same⟩
  · rw [if_pos empty]
  · rw [same, ite_self]

theorem Loaded.mask_eq (loaded : Loaded f i byte mask) :
    (if mask = 0 then 0x80 else mask) = 1#8 <<< (7 - i % 8) := by
  rcases loaded with ⟨first, empty⟩ | ⟨-, shifted, -⟩
  · rw [if_pos empty, first]
    rfl
  · rw [shifted, if_neg (mask_ne_zero _ (Nat.mod_lt _ (by decide)))]

theorem Loaded.next : Loaded f (i + 1) (f.byte (i / 8)) ((1#8 <<< (7 - i % 8)) >>> 1) := by
  by_cases last : i % 8 = 7
  · left
    rw [last]
    exact ⟨by omega, rfl⟩
  · have below : i % 8 < 7 := by omega
    have rest : (i + 1) % 8 = i % 8 + 1 := by omega
    have byte : (i + 1) / 8 = i / 8 := by omega
    right
    rw [mask_next _ below, rest, byte]
    exact ⟨Nat.succ_ne_zero _, rfl, rfl⟩

/-- The loop plays the bits that are left, and the footer. -/
theorem sendBits_eq (left : ℕ) (line : Line) (inside : left ≤ blyssNofBits)
    (loaded : Loaded f (blyssNofBits - left) byte mask) :
    sendBits f left byte mask line =
      line.play ((List.range' (blyssNofBits - left) left).flatMap
        (fun i => bitIntervals (f.bit i)) ++ [footer]) := by
  induction left generalizing byte mask line with
  | zero => rfl
  | succ left hypothesis =>
      have index : blyssNofBits - left = blyssNofBits - (left + 1) + 1 := by omega
      have next := Loaded.next (f := f) (i := blyssNofBits - (left + 1))
      rw [← index] at next
      have bit : decide (f.byte ((blyssNofBits - (left + 1)) / 8) &&&
          1#8 <<< (7 - (blyssNofBits - (left + 1)) % 8) ≠ 0) =
            f.bit (blyssNofBits - (left + 1)) := by
        rw [Bool.eq_iff_iff, decide_eq_true_eq, and_bit_ne_zero_iff, XBlyssFrame.bit]
      rw [sendBits]
      simp only [loaded.byte_eq, loaded.mask_eq, bit, iSendBit_eq]
      rw [List.range'_succ, List.flatMap_cons, List.append_assoc, Line.play_append, ← index]
      split
      · rfl
      · exact hypothesis _ (by omega) next

theorem range'_zero_flatMap (f : XBlyssFrame) :
    (List.range' 0 blyssNofBits).flatMap (fun i => bitIntervals (f.bit i)) =
      f.bits.flatMap bitIntervals := by
  rw [XBlyssFrame.bits, List.flatMap_map, List.range_eq_range']

theorem iSendFrame_eq (f : XBlyssFrame) (line : Line) :
    iSendFrame f line = line.play (frameIntervals f.bits) := by
  have start : Loaded f (blyssNofBits - blyssNofBits) 0 0 := .inl ⟨rfl, rfl⟩
  have played : line.play (frameIntervals f.bits) =
      line.play ([header] ++ (f.bits.flatMap bitIntervals ++ [footer])) := rfl
  rw [played, Line.play_append, iSendFrame, iSendHeader_eq]
  simp only
  split
  · rfl
  · rw [sendBits_eq _ _ le_rfl start, Nat.sub_self, range'_zero_flatMap]

theorem sendFrames_eq (f : XBlyssFrame) (repeats : ℕ) (line : Line) :
    sendFrames f repeats line = line.play (f.waveform repeats) := by
  induction repeats generalizing line with
  | zero => rfl
  | succ left hypothesis =>
      rw [XBlyssFrame.waveform, List.replicate_succ, List.flatten_cons, Line.play_append,
        sendFrames, iSendFrame_eq]
      simp only
      split
      · rfl
      · exact hypothesis _

end Loops

/-! ### The bits of a waveform -/

theorem recoverBits_flatMap (bits : List Bool) (rest : List Interval) :
    recoverBits bits.length (bits.flatMap bitIntervals ++ rest) = bits := by
  induction bits with
  | nil => rfl
  | cons bit bits hypothesis =>
      rw [List.flatMap_cons, List.append_assoc, List.length_cons]
      change decide ((if bit then t1 else t2) = t1) ::
        recoverBits bits.length (bits.flatMap bitIntervals ++ rest) = _
      rw [hypothesis]
      cases bit <;> rfl

/-- A waveform of one frame or more tells the bits. -/
theorem recoverFrame_waveform (f : XBlyssFrame) {repeats : ℕ} (some : 1 ≤ repeats) :
    recoverFrame (f.waveform repeats) = f.bits := by
  rcases Nat.exists_eq_succ_of_ne_zero (Nat.one_le_iff_ne_zero.mp some) with ⟨left, rfl⟩
  have count : f.bits.length = blyssNofBits := by
    rw [XBlyssFrame.bits, List.length_map, List.length_range]
  rw [XBlyssFrame.waveform, List.replicate_succ, List.flatten_cons, recoverFrame, frameIntervals,
    List.cons_append, List.tail_cons, List.append_assoc, ← count]
  exact recoverBits_flatMap f.bits _

theorem waveform_inj {f other : XBlyssFrame} {repeats : ℕ} (some : 1 ≤ repeats) :
    f.waveform repeats = other.waveform repeats ↔ f.bits = other.bits := by
  constructor
  · intro same
    rw [← recoverFrame_waveform f some, same, recoverFrame_waveform other some]
  · intro same
    rw [XBlyssFrame.waveform, XBlyssFrame.waveform, same]

/-- The waveform of a send is that of the frame as it is sent, with its code and token. A failed
write ends it. The bits are recovered from it if the frame is sent at all. -/
theorem iBlyssSend_waveform (token : BitVec 8) (rollIdx : ℕ) (f : XBlyssFrame)
    (repeats : BitVec 8) (line : Line) :
    let sent := iBlyssSend ⟨true, token, rollIdx⟩ f repeats line
    let wave := sent.f.waveform repeats.toNat
    ((∀ i, line.answers i = 0) → sent.ret = 0 ∧ sent.line.emitted = line.emitted ++ wave) ∧
      (∀ k < wave.length, line.answers (line.writes + k) ≠ 0 →
        (∀ i < k, line.answers (line.writes + i) = 0) →
          sent.ret = -1 ∧ sent.line.emitted = line.emitted ++ wave.take k) ∧
      (1 ≤ repeats.toNat → recoverFrame wave = sent.f.bits ∧
        ∀ other : XBlyssFrame, wave = other.waveform repeats.toNat ↔ sent.f.bits = other.bits) := by
  intro sent wave
  have played : (sent.ret, sent.line) = line.play wave := (sendFrames_eq sent.f repeats.toNat line)
  have ret : sent.ret = (line.play wave).1 := congrArg Prod.fst played
  have emitted : sent.line.emitted = (line.play wave).2.emitted :=
    congrArg (fun result => result.2.emitted) played
  rw [ret, emitted]
  refine ⟨fun works => Line.play_works fun i _ => works _, ?_, ?_⟩
  · intro k inside fails works
    exact Line.play_fails inside fails works
  · intro some
    exact ⟨recoverFrame_waveform sent.f some, fun other => waveform_inj some⟩

/-- Without a repetition nothing is sent, whatever the frame. -/
theorem not_waveform_inj_noRepeat :
    let line : Line := ⟨fun _ => 0, 0, false, []⟩
    let sent := iBlyssSend ⟨true, 0, 0⟩ (xBlyssFrameNew ⟨5, 8, 0x24⟩) 0 line
    let other := iBlyssSend ⟨true, 0, 0⟩ (xBlyssFrameNew ⟨6, 8, 0x24⟩) 0 line
    ¬ (sent.line.emitted = other.line.emitted ↔ sent.f.bits = other.f.bits) := by
  decide

end Sysio.Gpio
