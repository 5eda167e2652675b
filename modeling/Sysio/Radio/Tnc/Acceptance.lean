import Sysio.Radio.Tnc.Grammar
import Sysio.Radio.Tnc.RoundTrip

/-!
# What the receiver accepts

`TncReading` relates the registers of the controller to the phase of the grammar that the line
has come to. A byte keeps the relation or overruns the receive buffer (`TncReading.pollByte`),
hence so does a poll, wherever it ends, and so do any number of polls.

The receiver passes over bytes that are no part of a message, drops the last digit of a text
with an odd number of them, and fills up a CRC that stops short; it also stores a text that has no
room. It keeps to the format as long as none of this is met, and only then
(`tncGrammatical_iff`).
-/

namespace Sysio.Radio

variable {size : ℕ}

/-- The registers hold the text `digits` and its CRC. -/
structure TncDecoded (digits : List UInt8) (p : XTnc size) : Prop where
  crcRx : p.crcRx = usCrcCcitt crcCcittInitVal digits
  len : p.len = digits.length / 2
  rxbuf : p.rxbuf.toList.take p.len = tncDecode digits

/-- The controller has followed a line to the phase. -/
inductive TncReading : TncPhase → XTnc size → Prop where
  | idle {p : XTnc size} (soh : p.state ≠ tncSoh) (stx : p.state ≠ tncStx)
      (etx : p.state ≠ tncEtx) : TncReading .idle p
  | begun {p : XTnc size} (state : p.state = tncSoh) (decoded : TncDecoded [] p) :
      TncReading .begun p
  | text {digits : List UInt8} {p : XTnc size} (state : p.state = tncStx)
      (decoded : TncDecoded digits p) (parity : p.cnt.toNat % 2 = digits.length % 2)
      (high : ∀ before c, digits = before ++ [c] → before.length % 2 = 0 →
        p.msb = htoi c <<< 4) : TncReading (.text digits) p
  | crc {digits received : List UInt8} {p : XTnc size} (state : p.state = tncEtx)
      (decoded : TncDecoded digits p) (short : received.length ≤ 4)
      (cnt : p.cnt = UInt8.ofNat (4 * received.length))
      (crcTx : p.crcTx = tncNumber (tncPadded received)) : TncReading (.crc digits received) p

theorem and_one_eq_zero_iff (cnt : UInt8) : cnt &&& 1 = 0 ↔ cnt.toNat % 2 = 0 := by
  revert cnt
  decide +kernel

theorem toNat_add_one_mod_two (cnt : UInt8) : (cnt + 1).toNat % 2 = (cnt.toNat + 1) % 2 := by
  rw [UInt8.toNat_add]
  change (cnt.toNat + 1) % 256 % 2 = _
  omega

theorem tncDecode_first {digits : List UInt8} (even : digits.length % 2 = 0) (c : UInt8) :
    tncDecode (digits ++ [c]) = tncDecode digits := by
  rw [tncDecode_append even]
  simp [tncDecode]

theorem tncDecode_second {digits : List UInt8} (even : digits.length % 2 = 0) (c d : UInt8) :
    tncDecode (digits ++ [c] ++ [d]) = tncDecode digits ++ [htoi c <<< 4 + htoi d] := by
  rw [List.append_assoc, tncDecode_append even]
  rfl

section Digits

variable {digits received : List UInt8} {p : XTnc size} (c : UInt8)

/-- The first digit of a pair waits for the second. -/
theorem tncReading_first (state : p.state = tncStx) (decoded : TncDecoded digits p)
    (parity : p.cnt.toNat % 2 = digits.length % 2) (even : digits.length % 2 = 0) :
    ∃ q, tncPollDigit p c = .ok q ∧ q.state = tncStx ∧
      TncReading (.text (digits ++ [c])) q := by
  have first : p.cnt &&& 1 = 0 := (and_one_eq_zero_iff p.cnt).mpr (parity.trans even)
  let q : XTnc size :=
    { p with crcRx := usCrcCcittUpdate c p.crcRx, cnt := p.cnt + 1, msb := htoi c <<< 4 }
  have read : tncPollDigit p c = .ok q := by simp [tncPollDigit, state, first, q]
  refine ⟨q, read, state, .text state ⟨?_, ?_, ?_⟩ ?_ ?_⟩
  · simp [q, decoded.crcRx, usCrcCcitt_append]
  · simp only [q, decoded.len, List.length_append, List.length_singleton]
    omega
  · rw [tncDecode_first even]
    exact decoded.rxbuf
  · simp only [q, toNat_add_one_mod_two, List.length_append, List.length_singleton]
    omega
  · intro before d split _
    rcases List.append_inj' split rfl with ⟨_, last⟩
    simp [q, List.cons.inj last]

/-- The second digit of a pair is stored with the first, if there is room. -/
theorem tncReading_second (state : p.state = tncStx) (decoded : TncDecoded digits p)
    (parity : p.cnt.toNat % 2 = digits.length % 2)
    (high : ∀ before c, digits = before ++ [c] → before.length % 2 = 0 → p.msb = htoi c <<< 4)
    (odd : digits.length % 2 = 1) :
    (p.len < size ∧ ∃ q, tncPollDigit p c = .ok q ∧ q.state = tncStx ∧
        TncReading (.text (digits ++ [c])) q) ∨
      (¬p.len < size ∧ tncPollDigit p c = .error .outOfBounds) := by
  have second : p.cnt &&& 1 ≠ 0 := by
    rw [Ne, and_one_eq_zero_iff]
    omega
  by_cases room : p.len < size
  · left
    rcases List.eq_nil_or_concat digits with rfl | ⟨before, d, rfl⟩
    · simp at odd
    rw [List.concat_eq_append] at *
    have even : before.length % 2 = 0 := by
      simp only [List.length_append, List.length_singleton] at odd
      omega
    let q : XTnc size := { p with
      crcRx := usCrcCcittUpdate c p.crcRx, cnt := p.cnt + 1
      rxbuf := p.rxbuf.set p.len (p.msb + htoi c), len := p.len + 1 }
    have read : tncPollDigit p c = .ok q := by simp [tncPollDigit, state, second, room, q]
    refine ⟨room, q, read, state, .text state ⟨?_, ?_, ?_⟩ ?_ ?_⟩
    · simp [q, decoded.crcRx, usCrcCcitt_append]
    · simp only [q, decoded.len, List.length_append, List.length_singleton]
      omega
    · have stored := Vector.take_set_succ p.rxbuf p.len room (p.msb + htoi c)
      rw [decoded.rxbuf, tncDecode_first even] at stored
      rw [tncDecode_second even, ← high before d rfl even]
      exact stored
    · simp only [q, toNat_add_one_mod_two, List.length_append, List.length_singleton] at parity ⊢
      omega
    · intro start d split evenStart
      have length := congrArg List.length split
      simp only [List.length_append, List.length_singleton] at length
      omega
  · exact Or.inr ⟨room, by simp [tncPollDigit, state, second, room]⟩

/-- A digit of the CRC is added in its place, unless there were four. -/
theorem tncReading_crcDigit (state : p.state = tncEtx) (decoded : TncDecoded digits p)
    (short : received.length ≤ 4) (cnt : p.cnt = UInt8.ofNat (4 * received.length))
    (crcTx : p.crcTx = tncNumber (tncPadded received)) :
    ∃ q, tncPollDigit p c = .ok q ∧ q.state ≠ tncEot ∧
      TncReading (if received.length < 4 then .crc digits (received ++ [c]) else .idle) q := by
  have inCrc : tncEtx ≠ tncStx := by decide
  by_cases room : received.length < 4
  · have low : p.cnt ≤ 12 ∧ p.cnt + 4 = UInt8.ofNat (4 * (received.length + 1)) := by
      rw [cnt]
      generalize received.length = n at room
      interval_cases n <;> decide
    let q : XTnc size := { p with
      crcTx := p.crcTx + (htoi c).toUInt16 <<< (12 - p.cnt).toUInt16, cnt := p.cnt + 4 }
    have read : tncPollDigit p c = .ok q := by
      simp [tncPollDigit, state, inCrc, low.1, q]
    rw [if_pos room]
    refine ⟨q, read, ?_, .crc state ⟨decoded.crcRx, decoded.len, decoded.rxbuf⟩ ?_ ?_ ?_⟩
    · change p.state ≠ tncEot
      rw [state]
      decide
    · simp only [List.length_append, List.length_singleton]
      omega
    · simpa [q] using low.2
    · rw [tncNumber_concat c room, ← crcTx, ← cnt]
  · have full : received.length = 4 := by omega
    have high : ¬p.cnt ≤ 12 := by
      rw [cnt, full]
      decide
    have read : tncPollDigit p c = .ok { p with state := tncIllegalMsg } := by
      simp [tncPollDigit, state, inCrc, high]
    rw [if_neg room]
    have illegal : tncIllegalMsg ≠ tncEot ∧ tncIllegalMsg ≠ tncSoh ∧ tncIllegalMsg ≠ tncStx ∧
        tncIllegalMsg ≠ tncEtx := by decide
    exact ⟨_, read, illegal.1, .idle illegal.2.1 illegal.2.2.1 illegal.2.2.2⟩

end Digits

section Step

variable {phase : TncPhase} {line : List UInt8} {p : XTnc size}

theorem TncReading.outside {q : XTnc size} (state : q.state = 0) : TncReading .idle q := by
  have zero : (0 : ℤ) ≠ tncSoh ∧ (0 : ℤ) ≠ tncStx ∧ (0 : ℤ) ≠ tncEtx := by decide
  refine .idle ?_ ?_ ?_ <;> rw [state]
  · exact zero.1
  · exact zero.2.1
  · exact zero.2.2

theorem TncDecoded.len_le {digits : List UInt8} (decoded : TncDecoded digits p) :
    digits.length / 2 ≤ size := by
  have length := congrArg List.length decoded.rxbuf
  rw [length_tncDecode, List.length_take, Vector.length_toList, decoded.len] at length
  omega

/-- A digit: it is followed, or it completes a pair for which there is no room. -/
theorem TncReading.pollDigit (reading : TncReading phase p) {c : UInt8}
    (digit : CChar.isxdigit c = true) :
    ((phase.hear c).Fits size ∧ ∃ q, tncPollDigit p c = .ok q ∧ q.state ≠ tncEot ∧
        TncReading (phase.hear c) q) ∨
      (¬(phase.hear c).Fits size ∧ tncPollDigit p c = .error .outOfBounds) := by
  have zero : (0 : ℤ) ≠ tncEot := by decide
  have inText : tncStx ≠ tncEot := by decide
  rw [TncPhase.hear_digit phase digit]
  cases reading with
  | idle soh stx etx =>
      exact Or.inl ⟨trivial, _, by simp [tncPollDigit, stx, etx]; rfl, zero, .outside rfl⟩
  | begun state decoded =>
      have other : tncSoh ≠ tncStx ∧ tncSoh ≠ tncEtx := by decide
      exact Or.inl ⟨trivial, _, by simp [tncPollDigit, state, other]; rfl, zero, .outside rfl⟩
  | @text digits _ state decoded parity high =>
      have bound := decoded.len_le
      have fits : (TncPhase.text (digits ++ [c])).Fits size ↔ (digits.length + 1) / 2 ≤ size := by
        simp [TncPhase.Fits]
      rw [fits]
      rcases Nat.mod_two_eq_zero_or_one digits.length with even | odd
      · rcases tncReading_first c state decoded parity even with ⟨q, read, stateAfter, readingAfter⟩
        refine Or.inl ⟨by omega, q, read, ?_, readingAfter⟩
        rwa [stateAfter]
      · have len := decoded.len
        rcases tncReading_second c state decoded parity high odd with
          ⟨room, q, read, stateAfter, readingAfter⟩ | ⟨full, overrun⟩
        · refine Or.inl ⟨by omega, q, read, ?_, readingAfter⟩
          rwa [stateAfter]
        · exact Or.inr ⟨by omega, overrun⟩
  | @crc digits received _ state decoded short cnt crcTx =>
      refine Or.inl ⟨?_, tncReading_crcDigit c state decoded short cnt crcTx⟩
      change TncPhase.Fits size
        (if received.length < 4 then TncPhase.crc digits (received ++ [c]) else .idle)
      split_ifs <;> trivial

theorem tncPollByte_stx (p : XTnc size) :
    tncPollByte p 2 =
      if p.state = tncSoh then .ok ({ p with cnt := 0, state := tncStx }, false)
      else .ok ({ p with state := 0 }, false) := rfl

theorem tncPollByte_etx (p : XTnc size) :
    tncPollByte p 3 =
      if p.state = tncStx then .ok ({ p with cnt := 0, crcTx := 0, state := tncEtx }, false)
      else .ok ({ p with state := 0 }, false) := rfl

theorem tncPollByte_eot (p : XTnc size) :
    tncPollByte p 4 =
      if p.state = tncEtx then
        if p.crcRx ≠ p.crcTx then .ok ({ p with state := tncCrcError }, true)
        else .ok ({ p with state := tncEot }, false)
      else .ok ({ p with state := 0 }, false) := rfl

theorem ne_control_of_not_hears {c : UInt8} (unheard : tncHears c = false) :
    (c.toNat : ℤ) ≠ tncSoh ∧ (c.toNat : ℤ) ≠ tncStx ∧ (c.toNat : ℤ) ≠ tncEtx ∧
      (c.toNat : ℤ) ≠ tncEot := by
  revert c
  decide +kernel

theorem TncReading.state_ne (reading : TncReading phase p) :
    (phase ≠ .begun → p.state ≠ tncSoh) ∧ ((∀ digits, phase ≠ .text digits) → p.state ≠ tncStx) ∧
      ((∀ digits received, phase ≠ .crc digits received) → p.state ≠ tncEtx) := by
  have sohStx : tncSoh ≠ tncStx := by decide
  have sohEtx : tncSoh ≠ tncEtx := by decide
  have stxEtx : tncStx ≠ tncEtx := by decide
  cases reading with
  | idle soh stx etx => exact ⟨fun _ => soh, fun _ => stx, fun _ => etx⟩
  | begun state => simp [state, sohStx, sohEtx]
  | text state => simp [state, sohStx.symm, stxEtx]
  | crc state => simp [state, sohEtx.symm, stxEtx.symm]

/-- A control character that ends no message, or a byte that is passed over. -/
theorem TncReading.pollControl (reading : TncReading phase p) (notEot : p.state ≠ tncEot)
    {c : UInt8} (digit : ¬CChar.isxdigit c = true) (other : c ≠ 4) :
    (phase.hear c).Fits size ∧ ∃ q, tncPollByte p c = .ok (q, false) ∧ q.state ≠ tncEot ∧
      TncReading (phase.hear c) q := by
  have zero : (0 : ℤ) ≠ tncEot := by decide
  by_cases soh : c = 1
  · subst soh
    have begun : tncSoh ≠ tncEot := by decide
    exact ⟨trivial, _, rfl, begun, .begun rfl ⟨rfl, rfl, by simp [tncDecode]⟩⟩
  by_cases stx : c = 2
  · subst stx
    rw [tncPollByte_stx]
    by_cases begun : phase = .begun
    · subst begun
      cases reading with
      | begun state decoded =>
          have inText : tncStx ≠ tncEot := by decide
          rw [if_pos state]
          refine ⟨Nat.zero_le _, _, rfl, inText,
            .text rfl ⟨decoded.crcRx, decoded.len, decoded.rxbuf⟩ rfl ?_⟩
          intro before d split
          simp at split
    · have left : phase.hear 2 = .idle := by
        cases phase <;> first | rfl | exact absurd rfl begun
      rw [if_neg (reading.state_ne.1 begun), left]
      exact ⟨trivial, _, rfl, zero, .outside rfl⟩
  by_cases etx : c = 3
  · subst etx
    rw [tncPollByte_etx]
    by_cases inText : ∃ digits, phase = .text digits
    · rcases inText with ⟨digits, rfl⟩
      cases reading with
      | text state decoded =>
          have inCrc : tncEtx ≠ tncEot := by decide
          have noDigits : (0 : UInt16) = tncNumber (tncPadded []) := by decide
          rw [if_pos state]
          refine ⟨trivial, _, rfl, inCrc,
            .crc rfl ⟨decoded.crcRx, decoded.len, decoded.rxbuf⟩ (by simp) rfl noDigits⟩
    · rw [not_exists] at inText
      have left : phase.hear 3 = .idle := by
        cases phase with
        | text digits => exact absurd rfl (inText digits)
        | _ => rfl
      rw [if_neg (reading.state_ne.2.1 inText), left]
      exact ⟨trivial, _, rfl, zero, .outside rfl⟩
  · have unheard : tncHears c = false := by simp [tncHears, soh, stx, etx, other, digit]
    rcases ne_control_of_not_hears unheard with ⟨notSoh, notStx, notEtx, notEnd⟩
    have passed : tncPollByte p c = .ok (p, false) := by
      simp [tncPollByte, notSoh, notStx, notEtx, notEnd, digit]
    rw [TncPhase.hear_of_not_hears phase unheard]
    refine ⟨?_, p, passed, notEot, reading⟩
    cases reading with
    | text state decoded => exact decoded.len_le
    | _ => trivial

/-- `EOT`: the message is reported if its CRC is right. -/
theorem TncReading.pollEot (reading : TncReading phase p) :
    ∃ q returns, tncPollByte p 4 = .ok (q, returns) ∧ TncReading .idle q ∧
      (q.state = tncEot ↔ ∃ digits received, phase = .crc digits received ∧
        tncNumber (tncPadded received) = usCrcCcitt crcCcittInitVal digits) ∧
      ∀ digits received, phase = .crc digits received → TncDecoded digits q := by
  have zero : (0 : ℤ) ≠ tncEot := by decide
  rw [tncPollByte_eot]
  by_cases inCrc : ∃ digits received, phase = .crc digits received
  · rcases inCrc with ⟨digits, received, rfl⟩
    cases reading with
    | crc state decoded short cnt crcTx =>
        have crcError : tncCrcError ≠ tncSoh ∧ tncCrcError ≠ tncStx ∧ tncCrcError ≠ tncEtx ∧
            tncCrcError ≠ tncEot := by decide
        have eot : tncEot ≠ tncSoh ∧ tncEot ≠ tncStx ∧ tncEot ≠ tncEtx := by decide
        rw [if_pos state]
        by_cases checked : p.crcRx = p.crcTx
        · rw [if_neg (not_not.mpr checked)]
          refine ⟨_, _, rfl, .idle eot.1 eot.2.1 eot.2.2, ?_, ?_⟩
          · rw [decoded.crcRx, crcTx] at checked
            exact iff_of_true rfl ⟨digits, received, rfl, checked.symm⟩
          · rintro _ _ ⟨⟩
            exact ⟨decoded.crcRx, decoded.len, decoded.rxbuf⟩
        · rw [if_pos checked]
          refine ⟨_, _, rfl, .idle crcError.1 crcError.2.1 crcError.2.2.1, ?_, ?_⟩
          · refine iff_of_false crcError.2.2.2 ?_
            rintro ⟨_, _, ⟨⟩, right⟩
            rw [decoded.crcRx, crcTx] at checked
            exact checked right.symm
          · rintro _ _ ⟨⟩
            exact ⟨decoded.crcRx, decoded.len, decoded.rxbuf⟩
  · have elsewhere : ∀ digits received, phase ≠ .crc digits received := by simpa using inCrc
    rw [if_neg (reading.state_ne.2.2 elsewhere)]
    refine ⟨_, _, rfl, .outside rfl, iff_of_false zero ?_, ?_⟩
    · rintro ⟨digits, received, phase_eq, _⟩
      exact elsewhere digits received phase_eq
    · intro digits received phase_eq
      exact absurd phase_eq (elsewhere digits received)

/-- A byte: it is followed, and is the last of a message that is accepted if and only if it is
reported, or it overruns the buffer. -/
theorem TncReading.pollByte (reading : TncReading (tncPhase line) p) (notEot : p.state ≠ tncEot)
    (c : UInt8) :
    ((tncPhase (line ++ [c])).Fits size ∧ ∃ q returns, tncPollByte p c = .ok (q, returns) ∧
        TncReading (tncPhase (line ++ [c])) q ∧
        (q.state = tncEot ↔ ∃ digits, TncAccepts (line ++ [c]) digits) ∧
        ∀ digits, TncAccepts (line ++ [c]) digits → TncDecoded digits q) ∨
      (¬(tncPhase (line ++ [c])).Fits size ∧ tncPollByte p c = .error .outOfBounds) := by
  rw [tncPhase_concat]
  by_cases eot : c = 4
  · subst eot
    rcases reading.pollEot with ⟨q, returns, read, outside, reported, decoded⟩
    refine Or.inl ⟨trivial, q, returns, read, outside, ?_, ?_⟩
    · rw [reported]
      constructor
      · rintro ⟨digits, received, phase, checked⟩
        exact ⟨digits, line, received, rfl, phase, checked⟩
      · rintro ⟨digits, before, received, same, phase, checked⟩
        rw [← List.append_cancel_right same] at phase
        exact ⟨digits, received, phase, checked⟩
    · rintro digits ⟨before, received, same, phase, _⟩
      rw [← List.append_cancel_right same] at phase
      exact decoded digits received phase
  · have notAccepted (digits : List UInt8) : ¬TncAccepts (line ++ [c]) digits := by
      rintro ⟨before, received, same, _⟩
      exact eot (by simpa using (List.append_inj' same rfl).2)
    by_cases digit : CChar.isxdigit c = true
    · rw [tncPollByte_digit p digit]
      rcases reading.pollDigit digit with ⟨fits, q, read, goesOn, readingAfter⟩ | ⟨full, overrun⟩
      · refine Or.inl ⟨fits, q, false, by rw [read]; rfl, readingAfter, ?_, ?_⟩
        · simp [goesOn, notAccepted]
        · exact fun digits accepted => absurd accepted (notAccepted digits)
      · exact Or.inr ⟨full, by rw [overrun]; rfl⟩
    · rcases reading.pollControl notEot digit eot with ⟨fits, q, read, goesOn, readingAfter⟩
      refine Or.inl ⟨fits, q, false, read, readingAfter, ?_, ?_⟩
      · simp [goesOn, notAccepted]
      · exact fun digits accepted => absurd accepted (notAccepted digits)

end Step

/-! ### Polls -/

/-- Every message accepted along the line was reported, and its text had room. -/
structure TncFollowed (size : ℕ) (reported : List UInt8 → Prop) (line : List UInt8) : Prop where
  fits : ∀ upTo, upTo <+: line → (tncPhase upTo).Fits size
  accepted : ∀ upTo digits, upTo <+: line → TncAccepts upTo digits → reported upTo

section Followed

variable {reported later : List UInt8 → Prop} {done line : List UInt8}

theorem TncFollowed.nil : TncFollowed size reported [] := by
  constructor
  · intro upTo isPrefix
    rw [List.prefix_nil.mp isPrefix]
    trivial
  · rintro upTo digits isPrefix ⟨before, received, rfl, _⟩
    simp at isPrefix

theorem TncFollowed.mono (followed : TncFollowed size reported line)
    (weaker : ∀ upTo, reported upTo → later upTo) : TncFollowed size later line :=
  ⟨followed.fits, fun upTo digits isPrefix accepts =>
    weaker upTo (followed.accepted upTo digits isPrefix accepts)⟩

theorem TncFollowed.concat (followed : TncFollowed size reported line) {c : UInt8}
    (fits : (tncPhase (line ++ [c])).Fits size)
    (last : ∀ digits, TncAccepts (line ++ [c]) digits → reported (line ++ [c])) :
    TncFollowed size reported (line ++ [c]) := by
  constructor
  · intro upTo isPrefix
    rcases List.prefix_concat_iff.mp isPrefix with rfl | earlier
    · exact fits
    · exact followed.fits upTo earlier
  · intro upTo digits isPrefix accepts
    rcases List.prefix_concat_iff.mp isPrefix with rfl | earlier
    · exact last digits accepts
    · exact followed.accepted upTo digits earlier accepts

/-- While no byte stops the reader, no message ends. -/
theorem TncReading.passes {p : XTnc size} {reached : Except Fault (XTnc size)}
    (reading : TncReading (tncPhase done) p) (notEot : p.state ≠ tncEot)
    (followed : TncFollowed size reported done)
    (passes : Polling.Passes tncPollStep (.ok p) (line.map .byte) reached) :
    ∃ q, reached = .ok q ∧ q.fin = p.fin ∧ q.state ≠ tncEot ∧
      TncReading (tncPhase (done ++ line)) q ∧ TncFollowed size reported (done ++ line) ∧
      (line ≠ [] → ∀ digits, ¬TncAccepts (done ++ line) digits) := by
  induction line generalizing done p with
  | nil =>
      cases passes
      exact ⟨p, rfl, rfl, notEot, by simpa using reading, by simpa using followed, by simp⟩
  | cons c rest ih =>
      rcases passes with _ | ⟨goesOn, later⟩
      rcases reading.pollByte notEot c with
        ⟨fits, q, returns, read, readingAfter, stops, _⟩ | ⟨_, overrun⟩
      · simp only [tncPollStep, read, Bool.or_eq_false_iff, beq_eq_false_iff_ne] at goesOn later
        have goesOnAfter : ∀ digits, ¬TncAccepts (done ++ [c]) digits := by
          intro digits accepts
          exact goesOn.2 (stops.mpr ⟨digits, accepts⟩)
        have followedAfter := followed.concat fits
          fun digits accepts => absurd accepts (goesOnAfter digits)
        rcases ih readingAfter goesOn.2 followedAfter later with
          ⟨r, reached_eq, fin, notEotLast, readingLast, followedLast, notLast⟩
        rw [List.append_assoc] at readingLast followedLast notLast
        refine ⟨r, reached_eq, fin.trans (fds_pollByte read).1, notEotLast, readingLast,
          followedLast, ?_⟩
        intro _
        by_cases restNil : rest = []
        · subst restNil
          exact goesOnAfter
        · exact notLast restNil
      · simp [tncPollStep, overrun] at goesOn

theorem TncReading.entry {phase : TncPhase} {p : XTnc size} (reading : TncReading phase p) :
    TncReading phase (tncPollEntry p) := by
  by_cases reported : p.state = tncEot
  · have forgotten : tncPollEntry p = { p with state := 0 } := if_pos reported
    have eot : tncEot ≠ tncSoh ∧ tncEot ≠ tncStx ∧ tncEot ≠ tncEtx := by decide
    rw [forgotten]
    cases reading with
    | idle => exact .outside rfl
    | begun state => exact absurd (reported.symm.trans state) eot.1
    | text state => exact absurd (reported.symm.trans state) eot.2.1
    | crc state => exact absurd (reported.symm.trans state) eot.2.2
  · rwa [pollEntry_of_ne reported]

/-- One call reads `line`, at the end of which it reports a message if one ends there. -/
structure TncPolled (done line : List UInt8) (reported : List UInt8 → Prop) (p q : XTnc size) :
    Prop where
  fin_eq : q.fin = p.fin
  reading : TncReading (tncPhase (done ++ line)) q
  eot : q.state = tncEot ↔ line ≠ [] ∧ ∃ digits, TncAccepts (done ++ line) digits
  decoded : q.state = tncEot → ∀ digits, TncAccepts (done ++ line) digits → TncDecoded digits q
  followed : TncFollowed size (fun upTo => reported upTo ∨ q.state = tncEot ∧ upTo = done ++ line)
    (done ++ line)

theorem tncPolled_iTncPoll {p : XTnc size} (valid : ¬p.fin < 0)
    (reading : TncReading (tncPhase done) (tncPollEntry p))
    (followed : TncFollowed size reported done) {script : List (Option TncRead)}
    {bytes : List UInt8} (inputs : script.reduceOption = bytes.map .byte) :
    ∃ line left, bytes = line ++ left ∧ (iTncPoll p script).2.reduceOption = left.map .byte ∧
      ((∃ q, (iTncPoll p script).1 = .ok (q.state, q) ∧ TncPolled done line reported p q) ∨
        ∃ fault, (iTncPoll p script).1 = .error fault ∧ ¬(tncPhase (done ++ line)).Fits size) := by
  rw [iTncPoll_eq valid]
  dsimp only
  rcases Polling.exists_passes_drain tncPollStep (.ok (tncPollEntry p)) script with
    ⟨passed, mid, passes, ⟨consumed, reached⟩ | ⟨last, stops, consumed, reached⟩⟩
  · rw [inputs] at consumed
    rcases List.map_eq_append_iff.mp consumed with ⟨line, left, rfl, rfl, unread⟩
    rcases reading.passes (state_pollEntry p) followed passes with
      ⟨q, rfl, fin, notEot, readingAfter, followedAfter, notLast⟩
    refine ⟨line, left, rfl, unread.symm, Or.inl ⟨q, by rw [reached]; rfl, ?_⟩⟩
    refine ⟨fin.trans (fin_pollEntry p), readingAfter, iff_of_false notEot ?_,
      fun isEot => absurd isEot notEot, followedAfter.mono fun _ => Or.inl⟩
    rintro ⟨lineNe, digits, accepts⟩
    exact notLast lineNe digits accepts
  · rw [inputs] at consumed
    rcases List.map_eq_append_iff.mp consumed with ⟨line, rest, rfl, rfl, restEq⟩
    rcases List.map_eq_cons_iff.mp restEq with ⟨c, left, rfl, rfl, unread⟩
    rcases reading.passes (state_pollEntry p) followed passes with
      ⟨q, rfl, fin, notEot, readingBefore, followedBefore, _⟩
    refine ⟨line ++ [c], left, by simp, unread.symm, ?_⟩
    rw [← List.append_assoc]
    rcases readingBefore.pollByte notEot c with
      ⟨fits, r, returns, read, readingAfter, eot, decoded⟩ | ⟨full, overrun⟩
    · refine Or.inl ⟨r, by rw [reached]; simp [tncPollStep, read, Except.map], ?_⟩
      refine ⟨(fds_pollByte read).1.trans (fin.trans (fin_pollEntry p)), ?_, ?_, ?_, ?_⟩
      · rwa [← List.append_assoc]
      · simpa [← List.append_assoc] using eot
      · intro _
        rwa [← List.append_assoc]
      · rw [← List.append_assoc]
        refine (followedBefore.mono fun _ => Or.inl).concat fits ?_
        intro digits accepts
        exact Or.inr ⟨eot.mpr ⟨digits, accepts⟩, rfl⟩
    · exact Or.inr ⟨.outOfBounds, by rw [reached]; simp [tncPollStep, overrun, Except.map], full⟩

end Followed

/-! ### Runs -/

/-- The reads of a line of bytes: `none` for a read that finds nothing. -/
def tncReads (script : List (Option UInt8)) : List (Option TncRead) :=
  script.map (Option.map .byte)

/-- The bytes read by `count` polls. -/
def tncReadBytes (count : ℕ) (p : XTnc size) (script : List (Option UInt8)) : List UInt8 :=
  script.reduceOption.take
    (script.reduceOption.length - (tncPolls count p (tncReads script)).2.reduceOption.length)

/-- Every poll goes well, returns `TNC_EOT` if and only if it reads the end of a message of the
format, and then leaves its text in the receive buffer. -/
def TncGrammatical (p : XTnc size) (script : List (Option UInt8)) : Prop :=
  ∀ count, ∃ q code r, (tncPolls count p (tncReads script)).1 = .ok q ∧
    (iTncPoll q (tncPolls count p (tncReads script)).2).1 = .ok (code, r) ∧
    (code = tncEot ↔ tncReadBytes (count + 1) p script ≠ tncReadBytes count p script ∧
      ∃ text, TncSends (tncReadBytes (count + 1) p script) text) ∧
    ∀ text, code = tncEot → TncSends (tncReadBytes (count + 1) p script) text →
      r.len = text.length ∧ r.rxbuf.toList.take r.len = text

/-- After `count` polls the next one reports the message that the bytes `line` end with. -/
def TncReports (p : XTnc size) (script : List (Option UInt8)) (count : ℕ) (line : List UInt8) :
    Prop :=
  ∃ q r, (tncPolls count p (tncReads script)).1 = .ok q ∧
    (iTncPoll q (tncPolls count p (tncReads script)).2).1 = .ok (tncEot, r) ∧
    tncReadBytes (count + 1) p script = line

section Runs

variable {p : XTnc size} {script : List (Option UInt8)}

theorem reduceOption_tncReads (script : List (Option UInt8)) :
    (tncReads script).reduceOption = script.reduceOption.map .byte :=
  List.reduceOption_map

theorem tncReadBytes_eq {count : ℕ} {line left : List UInt8}
    (bytes : script.reduceOption = line ++ left)
    (unread : (tncPolls count p (tncReads script)).2.reduceOption = left.map .byte) :
    tncReadBytes count p script = line := by
  rw [tncReadBytes, unread, bytes, List.length_map, List.length_append, Nat.add_sub_cancel,
    List.take_left]

theorem tncPolls_succ {count : ℕ} {q : XTnc size}
    (reached : (tncPolls count p (tncReads script)).1 = .ok q) :
    tncPolls (count + 1) p (tncReads script) =
      ((iTncPoll q (tncPolls count p (tncReads script)).2).1.map Prod.snd,
        (iTncPoll q (tncPolls count p (tncReads script)).2).2) := by
  rw [tncPolls] at reached
  rw [tncPolls, Polling.calls_succ, reached]
  rfl

/-- The polls have read `line` and reported the messages that are accepted along it. -/
structure TncRan (p : XTnc size) (script : List (Option UInt8)) (count : ℕ) (line left : List UInt8)
    (q : XTnc size) : Prop where
  reached : (tncPolls count p (tncReads script)).1 = .ok q
  unread : (tncPolls count p (tncReads script)).2.reduceOption = left.map .byte
  bytes : script.reduceOption = line ++ left
  fin_eq : q.fin = p.fin
  reading : TncReading (tncPhase line) (tncPollEntry q)
  followed : TncFollowed size (fun upTo => ∃ earlier, earlier < count ∧
    TncReports p script earlier upTo) line

/-- A text came for which the buffer has no room. -/
def TncOverran (p : XTnc size) (script : List (Option UInt8)) (count : ℕ) : Prop :=
  ∃ fault upTo, (tncPolls count p (tncReads script)).1 = .error fault ∧
    upTo <+: script.reduceOption ∧ ¬(tncPhase upTo).Fits size

theorem TncRan.poll {count : ℕ} {line left : List UInt8} {q : XTnc size}
    (ran : TncRan p script count line left q) (valid : ¬p.fin < 0) :
    (∃ more rest r, left = more ++ rest ∧
        (iTncPoll q (tncPolls count p (tncReads script)).2).1 = .ok (r.state, r) ∧
        TncPolled line more (fun upTo => ∃ earlier, earlier < count ∧
          TncReports p script earlier upTo) q r ∧
        TncRan p script (count + 1) (line ++ more) rest r) ∨
      TncOverran p script (count + 1) := by
  have listening : ¬q.fin < 0 := by rwa [ran.fin_eq]
  rcases tncPolled_iTncPoll listening ran.reading ran.followed ran.unread with
    ⟨more, rest, rfl, unread, ⟨r, polled, one⟩ | ⟨fault, failed, full⟩⟩
  · have next := tncPolls_succ ran.reached
    have bytes : script.reduceOption = (line ++ more) ++ rest := by
      rw [ran.bytes, List.append_assoc]
    have unreadNext : (tncPolls (count + 1) p (tncReads script)).2.reduceOption =
        rest.map .byte := by
      rw [next]
      exact unread
    refine Or.inl ⟨more, rest, r, rfl, polled, one, ?_, unreadNext, bytes,
      one.fin_eq.trans ran.fin_eq, one.reading.entry, ?_⟩
    · rw [next, polled]
      rfl
    · refine one.followed.mono ?_
      rintro upTo (⟨earlier, before, reports⟩ | ⟨eot, rfl⟩)
      · exact ⟨earlier, by omega, reports⟩
      · rw [eot] at polled
        exact ⟨count, by omega, q, r, ran.reached, polled, tncReadBytes_eq bytes unreadNext⟩
  · refine Or.inr ⟨fault, line ++ more, ?_, ?_, full⟩
    · rw [tncPolls_succ ran.reached, failed]
      rfl
    · rw [ran.bytes, ← List.append_assoc]
      exact List.prefix_append ..

theorem TncOverran.succ {count : ℕ} (overran : TncOverran p script count) :
    TncOverran p script (count + 1) := by
  rcases overran with ⟨fault, upTo, failed, isPrefix, full⟩
  refine ⟨fault, upTo, ?_, isPrefix, full⟩
  rw [tncPolls] at failed
  rw [tncPolls, Polling.calls_succ, failed]
  rfl

theorem exists_ran (valid : ¬p.fin < 0) (outside : p.state = 0) (count : ℕ) :
    (∃ line left q, TncRan p script count line left q) ∨ TncOverran p script count := by
  induction count with
  | zero =>
      have idle : TncReading (tncPhase []) p := .outside outside
      exact Or.inl ⟨[], script.reduceOption, p, rfl, reduceOption_tncReads script, rfl, rfl,
        idle.entry, .nil⟩
  | succ count ih =>
      rcases ih with ⟨line, left, q, ran⟩ | overran
      · rcases ran.poll valid with ⟨more, rest, r, _, _, _, next⟩ | overran
        · exact Or.inl ⟨_, rest, r, next⟩
        · exact Or.inr overran
      · exact Or.inr overran.succ

theorem left_eq_nil (valid : ¬p.fin < 0) {line left : List UInt8} {q : XTnc size}
    (ran : TncRan p script script.length line left q) : left = [] := by
  let blocked (current : Except Fault (XTnc size)) : Prop := ∀ q, current = .ok q → q.fin < 0
  have stays (current : Except Fault (XTnc size)) (rest : List (Option TncRead))
      (isBlocked : blocked current) : blocked (tncCall current rest).1 := by
    cases current with
    | error fault => exact isBlocked
    | ok q =>
        have closed : (tncPollEntry q).fin < 0 := by
          rw [fin_pollEntry]
          exact isBlocked q rfl
        intro r called
        simp only [tncCall, iTncPoll, closed, if_true, Except.map, Except.ok.injEq] at called
        rw [← called]
        exact closed
  have shortens (current : Except Fault (XTnc size)) (rest : List (Option TncRead))
      (running : ¬blocked current) (restNe : rest ≠ []) :
      (tncCall current rest).2.length < rest.length := by
    cases current with
    | error fault => exact absurd (fun q isOk => by simp at isOk) running
    | ok q =>
        have opened : ¬(tncPollEntry q).fin < 0 := by
          rw [fin_pollEntry]
          intro closed
          refine running ?_
          rintro _ ⟨⟩
          exact closed
        simp only [tncCall, iTncPoll, opened, if_false]
        exact Polling.length_drain_lt _ _ restNe
  have atEnd (current : Except Fault (XTnc size)) : (tncCall current []).2 = [] := by
    cases current with
    | error fault => rfl
    | ok q =>
        simp only [tncCall, iTncPoll]
        split_ifs <;> rfl
  rcases Polling.blocked_or_length_calls_le tncCall (.ok p) (tncReads script) blocked stays shortens
    atEnd script.length with isBlocked | short
  · have closed := isBlocked q ran.reached
    rw [ran.fin_eq] at closed
    exact absurd closed valid
  · have nothing : (tncPolls script.length p (tncReads script)).2 = [] := by
      rw [tncReads, List.length_map, Nat.sub_self] at short
      exact List.length_eq_zero_iff.mp (Nat.le_zero.mp short)
    have unread := ran.unread
    rw [nothing] at unread
    simpa using unread.symm

theorem exact_of_grammatical (valid : ¬p.fin < 0) (outside : p.state = 0)
    (grammatical : TncGrammatical p script) :
    TncExact script.reduceOption ∧ TncRoom size script.reduceOption := by
  rw [tncExact_iff, tncRoom_iff]
  rcases exists_ran valid outside script.length with ⟨line, left, q, ran⟩ | ⟨_, _, failed, _⟩
  · have whole : script.reduceOption = line := by
      rw [ran.bytes, left_eq_nil valid ran, List.append_nil]
    rw [whole]
    refine ⟨?_, ran.followed.fits⟩
    intro upTo digits isPrefix accepts
    rcases ran.followed.accepted upTo digits isPrefix accepts with
      ⟨earlier, _, q, r, reached, polled, rfl⟩
    rcases grammatical earlier with ⟨_, code, _, reachedToo, polledToo, reports, _⟩
    cases reached.symm.trans reachedToo
    cases polled.symm.trans polledToo
    rcases reports.mp rfl with ⟨_, text, sends⟩
    rcases exists_accepts_of_sends sends with ⟨sent, acceptsSent, _, decoded⟩
    rw [digits_eq_of_accepts accepts acceptsSent, decoded]
    exact sends
  · rcases grammatical script.length with ⟨q, _, _, reached, _⟩
    rw [failed] at reached
    cases reached

theorem grammatical_of_exact (valid : ¬p.fin < 0) (outside : p.state = 0)
    (exactness : TncExact script.reduceOption) (room : TncRoom size script.reduceOption) :
    TncGrammatical p script := by
  rw [tncExact_iff] at exactness
  rw [tncRoom_iff] at room
  intro count
  rcases exists_ran valid outside count with ⟨line, left, q, ran⟩ | ⟨_, upTo, _, isPrefix, full⟩
  · rcases ran.poll valid with
      ⟨more, rest, r, rfl, polled, one, next⟩ | ⟨_, upTo, _, isPrefix, full⟩
    · refine ⟨q, r.state, r, ran.reached, polled, ?_⟩
      rw [tncReadBytes_eq ran.bytes ran.unread, tncReadBytes_eq next.bytes next.unread]
      have isPrefix : line ++ more <+: script.reduceOption := by
        rw [next.bytes]
        exact List.prefix_append ..
      have accepts_iff : (∃ digits, TncAccepts (line ++ more) digits) ↔
          ∃ text, TncSends (line ++ more) text := by
        constructor
        · rintro ⟨digits, accepts⟩
          exact ⟨_, exactness _ digits isPrefix accepts⟩
        · rintro ⟨text, sends⟩
          rcases exists_accepts_of_sends sends with ⟨digits, accepts, _⟩
          exact ⟨digits, accepts⟩
      refine ⟨?_, ?_⟩
      · rw [one.eot, accepts_iff]
        simp
      · intro text eot sends
        rcases exists_accepts_of_sends sends with ⟨digits, accepts, _, rfl⟩
        have decoded := one.decoded eot digits accepts
        exact ⟨by rw [decoded.len, length_tncDecode], decoded.rxbuf⟩
    · exact absurd (room upTo isPrefix) full
  · exact absurd (room upTo isPrefix) full

/-- The receiver accepts exactly its grammar if and only if no message comes that it accepts
without being of the format, and no text for which it has no room. -/
theorem tncGrammatical_iff (valid : 0 ≤ p.fin) (outside : p.state = 0)
    (script : List (Option UInt8)) :
    TncGrammatical p script ↔
      TncExact script.reduceOption ∧ TncRoom size script.reduceOption := by
  have listening : ¬p.fin < 0 := not_lt.mpr valid
  constructor
  · intro grammatical
    exact exact_of_grammatical listening outside grammatical
  · rintro ⟨exactness, room⟩
    exact grammatical_of_exact listening outside exactness room

/-- A message that is not at its end yet, read in three polls. -/
theorem tncGrammatical_iff_two :
    TncGrammatical (⟨3, -1, Vector.replicate 2 0, 0, 0, 0, 0, 0, 0⟩ : XTnc 2)
        [some 1, some 2, some 0x41, none, some 0x39, some 3, none, some 0x30] ↔
      TncExact [1, 2, 0x41, 0x39, 3, 0x30] ∧ TncRoom 2 [1, 2, 0x41, 0x39, 3, 0x30] :=
  tncGrammatical_iff (by decide) rfl
    [some 1, some 2, some 0x41, none, some 0x39, some 3, none, some 0x30]

/-- An empty text with a blank behind it is accepted. -/
theorem not_tncGrammatical_blank :
    ¬TncGrammatical (⟨3, -1, Vector.replicate 2 0, 0, 0, 0, 0, 0, 0⟩ : XTnc 2)
      [some 1, some 2, some 0x20, some 3, some 0x46, some 0x46, some 0x46, some 0x46, some 4] := by
  intro grammatical
  have listening : ¬(3 : ℤ) < 0 := by decide
  have exactness := (exact_of_grammatical listening rfl grammatical).1
  have blank := exactness [] [2, 0x20, 3, 0x46, 0x46, 0x46, 0x46] [] [0x46, 0x46, 0x46, 0x46]
    (List.prefix_refl _) (by decide) (by decide) (by decide) (by decide) (by decide) (by decide)
  exact absurd blank.1 (by decide)

end Runs

end Sysio.Radio
