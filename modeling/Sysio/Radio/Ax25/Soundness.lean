import Sysio.Radio.Ax25.Receive

/-!
# When the AX.25 receiver reports only frames

A reset or an overrun stops the storing of a segment but leaves what was stored, and the
flag that comes next tests just that. So the receiver reports the right segments as long
as no flag closes a cut segment whose stored part passes for a frame
(`NoCutFrame`), and exactly then (`reportsFrames_iff_noCutFrame`).
-/

namespace Sysio.Radio

/-- The bytes that `count` polls have read. -/
def ax25ReadBytes (count : ℕ) (p : XAx25) (script : List (Option UInt8)) : List UInt8 :=
  (scriptBytes script).take
    ((scriptBytes script).length - (scriptBytes (ax25Polls count p script).2).length)

/-- The receiver that has read `line` reports a frame if and only if one was closed, reports
it at the flag that closes it, and then holds its bytes. -/
def ReportsFrames (line : List UInt8) (p : XAx25) : Prop :=
  (p.frmRecv = true ↔
    ∃ upTo segment, upTo <+: line ∧ ClosesSegment upTo segment ∧ IsFrame segment) ∧
  (p.frmRecv = true →
    ∃ segment, ClosesSegment line segment ∧ IsFrame segment ∧
      p.buf.toList.take p.len = octets segment)

/-- No flag of the line closes a segment that was cut by a reset or by an overrun after
bytes that make a frame on their own. -/
def NoCutFrame (line : List UInt8) : Prop :=
  ∀ upTo segment, upTo <+: line → ClosesSegment upTo segment → IsCut segment →
    ¬KeptIsFrame segment

theorem keptIsFrame_iff_of_not_isCut {segment : List HdlcSymbol} (whole : ¬IsCut segment) :
    KeptIsFrame segment ↔ IsFrame segment := by
  rw [KeptIsFrame, keptOctets_of_not_isCut whole]
  simp only [IsCut, not_or, not_lt] at whole
  simp [IsFrame, whole.1, whole.2]

theorem not_isCut_of_isFrame {segment : List HdlcSymbol} (frame : IsFrame segment) :
    ¬IsCut segment := by
  rintro (aborted | long)
  · exact frame.1 aborted
  · exact absurd frame.2.2.1 (by omega)

theorem closesSegment_unique {line : List UInt8} {left right : List HdlcSymbol}
    (closesLeft : ClosesSegment line left) (closesRight : ClosesSegment line right) :
    left = right := by
  rcases closesLeft with ⟨before, rfl, _, foundLeft⟩
  rcases closesRight with ⟨other, same, _, foundRight⟩
  rw [← List.append_cancel_right same] at foundRight
  exact Option.some.inj (foundLeft.symm.trans foundRight)

/-- A frame waits after the bytes of `line` only if the last of them is a flag closing a
segment whose stored part passes the test. -/
theorem exists_closesSegment_of_frmRecv {fd : ℤ} {line : List UInt8} {p : XAx25}
    (read : Ax25Read (ax25Opened fd) line p) (waiting : p.frmRecv = true) :
    ∃ segment, ClosesSegment line segment ∧ KeptIsFrame segment ∧
      p.buf.toList.take p.len = keptOctets segment := by
  rcases read with ⟨rfl, quiet⟩
  rcases List.eq_nil_or_concat line with rfl | ⟨before, c, rfl⟩
  · simp [ax25Opened, iAx25Clear] at waiting
  rw [List.concat_eq_append] at waiting quiet ⊢
  have reading := ax25Reading_of_read ⟨rfl, fun left d right split =>
    quiet left d (right ++ [c]) (by simp [split])⟩ (quiet before c [] rfl)
  rw [List.foldl_append] at waiting ⊢
  generalize before.foldl ax25PollByte (ax25Opened fd) = q at reading waiting ⊢
  have isFlag : q.escape = false ∧ c = hdlcFlag := by
    rw [← hdlcSymbol_eq_flag]
    by_contra notFlag
    rw [List.foldl_cons, List.foldl_nil, frmRecv_pollByte_of_ne_flag notFlag,
      reading.frmRecv] at waiting
    exact absurd waiting (by simp)
  rcases isFlag with ⟨unescaped, rfl⟩
  have pending : hdlcPending false before = false := by rw [← reading.escape, unescaped]
  rcases (frmRecv_flag reading pending).mp waiting with ⟨segment, found, kept⟩
  have here := reading.segment segment found
  refine ⟨segment, ⟨before, rfl, pending, found⟩, kept, ?_⟩
  have accepted : q.len ≥ ax25MinFrameLen ∧ q.crcIn = ax25CrcCorrect := by
    rw [here.len, here.crcIn]
    exact kept
  simpa [ax25PollByte_accepted unescaped accepted] using here.buf

theorem eq_of_closesSegment {fd : ℤ} {line upTo : List UInt8} {p : XAx25}
    {segment : List HdlcSymbol} (read : Ax25Read (ax25Opened fd) line p) (early : upTo <+: line)
    (closes : ClosesSegment upTo segment) (kept : KeptIsFrame segment) :
    upTo = line ∧ p.frmRecv = true := by
  rcases read with ⟨rfl, quiet⟩
  rcases early with ⟨later, rfl⟩
  rcases closes with ⟨before, rfl, pending, found⟩
  have soFar : Ax25Read (ax25Opened fd) before (before.foldl ax25PollByte (ax25Opened fd)) :=
    ⟨rfl, fun left d right split => quiet left d (right ++ hdlcFlag :: later) (by simp [split])⟩
  have reading := ax25Reading_of_read soFar (quiet before hdlcFlag later (by simp))
  have waiting := (frmRecv_flag reading pending).mpr ⟨segment, found, kept⟩
  rcases later with _ | ⟨c, later⟩
  · simpa using waiting
  · have := quiet (before ++ [hdlcFlag]) c later rfl
    rw [List.foldl_append] at this
    exact absurd (this.symm.trans waiting) (by simp)

theorem reportsFrames_iff_of_read {fd : ℤ} {line : List UInt8} {p : XAx25}
    (read : Ax25Read (ax25Opened fd) line p) :
    ReportsFrames line p ↔ NoCutFrame line := by
  constructor
  · rintro ⟨_, reported⟩ upTo segment early closes cut kept
    rcases eq_of_closesSegment read early closes kept with ⟨rfl, waiting⟩
    rcases reported waiting with ⟨other, otherCloses, frame, _⟩
    rw [closesSegment_unique closes otherCloses] at cut
    exact not_isCut_of_isFrame frame cut
  · intro noCut
    have frame_of_waiting : p.frmRecv = true → ∃ segment, ClosesSegment line segment ∧
        IsFrame segment ∧ p.buf.toList.take p.len = octets segment := by
      intro waiting
      rcases exists_closesSegment_of_frmRecv read waiting with ⟨segment, closes, kept, stored⟩
      have whole : ¬IsCut segment := fun cut =>
        noCut line segment (List.prefix_rfl) closes cut kept
      refine ⟨segment, closes, (keptIsFrame_iff_of_not_isCut whole).mp kept, ?_⟩
      rw [stored, keptOctets_of_not_isCut whole]
    refine ⟨⟨?_, ?_⟩, frame_of_waiting⟩
    · intro waiting
      rcases frame_of_waiting waiting with ⟨segment, closes, frame, _⟩
      exact ⟨line, segment, List.prefix_rfl, closes, frame⟩
    · rintro ⟨upTo, segment, early, closes, frame⟩
      have kept := (keptIsFrame_iff_of_not_isCut (not_isCut_of_isFrame frame)).mpr frame
      exact (eq_of_closesSegment read early closes kept).2

theorem ax25Read_readBytes (count : ℕ) (p : XAx25) (script : List (Option UInt8)) :
    Ax25Read p (ax25ReadBytes count p script) (ax25Polls count p script).1 := by
  rcases ax25Read_polls count p script with ⟨line, bytes, read⟩
  have same : ax25ReadBytes count p script = line := by
    rw [ax25ReadBytes, bytes, List.length_append, Nat.add_sub_cancel, List.take_left]
  rwa [same]

/-- However the line is polled, the receiver reports exactly the frames that were closed if
and only if no flag closed a cut segment that starts like a frame. -/
theorem reportsFrames_iff_noCutFrame (fd : ℤ) (count : ℕ) (script : List (Option UInt8)) :
    ReportsFrames (ax25ReadBytes count (ax25Opened fd) script)
        (ax25Polls count (ax25Opened fd) script).1 ↔
      NoCutFrame (ax25ReadBytes count (ax25Opened fd) script) :=
  reportsFrames_iff_of_read (ax25Read_readBytes count (ax25Opened fd) script)

/-- A frame from A to B, aborted by a reset just before its closing flag. -/
def ax25AbortedLine : List UInt8 :=
  [0x7E, 0x84, 0x40, 0x40, 0x40, 0x40, 0x40, 0x60, 0x82, 0x40, 0x40, 0x40, 0x40, 0x40, 0x61,
    0x03, 0xF0, 0x11, 0xD5, 0x7F, 0x7E]

/-- The aborted frame is reported. -/
theorem not_reportsFrames_abortedLine :
    ¬ReportsFrames (ax25ReadBytes 1 (ax25Opened 3) (ax25AbortedLine.map some))
        (ax25Polls 1 (ax25Opened 3) (ax25AbortedLine.map some)).1 := by
  rintro ⟨_, reported⟩
  have waiting : (ax25Polls 1 (ax25Opened 3) (ax25AbortedLine.map some)).1.frmRecv = true := by
    decide +kernel
  have bytes : ax25ReadBytes 1 (ax25Opened 3) (ax25AbortedLine.map some) = ax25AbortedLine := by
    decide +kernel
  rcases reported waiting with ⟨segment, closes, frame, _⟩
  rw [bytes] at closes
  rcases closes with ⟨before, split, _, found⟩
  have before_eq : before = ax25AbortedLine.dropLast := by rw [split, List.dropLast_concat]
  have aborted : ∀ segment, sinceFlag (hdlcSymbols false ax25AbortedLine.dropLast) = some segment →
      HdlcSymbol.reset ∈ segment := by
    have found : sinceFlag (hdlcSymbols false ax25AbortedLine.dropLast) =
        some (((ax25AbortedLine.drop 1).take 18).map .octet ++ [.reset]) := by decide +kernel
    rintro segment same
    rw [found, Option.some.injEq] at same
    rw [← same]
    simp
  exact frame.1 (aborted segment (before_eq ▸ found))

end Sysio.Radio
