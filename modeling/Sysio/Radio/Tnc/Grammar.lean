import Sysio.Radio.Tnc.Controller

/-!
# The grammar of a message

`TncSends` is the format of `tnc.h`: `SOH STX <text> ETX <crc> EOT`, the text and its CRC in
hexadecimal digits. The receiver is laxer, since it passes over every other byte. What it knows
of a message behind some bytes is a `TncPhase`, and `tncPhase_eq_iff` says which lines lead to
which phase.
-/

namespace Sysio.Radio

/-- All of them are hexadecimal digits. -/
def TncHex (digits : List UInt8) : Prop := ∀ c ∈ digits, CChar.isxdigit c = true

instance : DecidablePred TncHex := fun digits =>
  List.decidableBAll (fun c => CChar.isxdigit c = true) digits

/-- The bytes that two digits each stand for, a last digit without its second left out. -/
def tncDecode : List UInt8 → List UInt8
  | high :: low :: rest => (htoi high <<< 4 + htoi low) :: tncDecode rest
  | _ => []

/-- The number that the digits stand for. -/
def tncNumber (digits : List UInt8) : UInt16 :=
  digits.foldl (fun number c => number * 16 + (htoi c).toUInt16) 0

/-- The line ends with a message for `text`. -/
def TncSends (line text : List UInt8) : Prop :=
  ∃ before digits received, line = before ++ 1 :: 2 :: digits ++ 3 :: received ++ [4] ∧
    TncHex digits ∧ TncHex received ∧ digits.length % 2 = 0 ∧ received.length = 4 ∧
    tncNumber received = usCrcCcitt crcCcittInitVal digits ∧ tncDecode digits = text

/-- The bytes that the receiver does not pass over. -/
def tncHears (c : UInt8) : Bool :=
  c == 1 || c == 2 || c == 3 || c == 4 || CChar.isxdigit c

/-- Of the bytes since the last `SOH`, the receiver hears `heard`. -/
def TncFollows (line heard : List UInt8) : Prop :=
  ∃ before body, line = before ++ 1 :: body ∧ 1 ∉ body ∧ body.filter tncHears = heard

/-- Digits of a CRC that stops short are taken for its first ones. -/
def tncPadded (received : List UInt8) : List UInt8 :=
  received ++ List.replicate (4 - received.length) 0x30

/-- How far a message has come. -/
inductive TncPhase where
  /-- Outside any message. -/
  | idle
  /-- Behind `SOH`. -/
  | begun
  | text (digits : List UInt8)
  | crc (digits received : List UInt8)

namespace TncPhase

/-- The phase behind one more byte. -/
def hear (phase : TncPhase) (c : UInt8) : TncPhase :=
  if c = 1 then .begun
  else if c = 2 then
    match phase with
    | .begun => .text []
    | _ => .idle
  else if c = 3 then
    match phase with
    | .text digits => .crc digits []
    | _ => .idle
  else if c = 4 then .idle
  else if CChar.isxdigit c then
    match phase with
    | .text digits => .text (digits ++ [c])
    | .crc digits received => if received.length < 4 then .crc digits (received ++ [c]) else .idle
    | _ => .idle
  else phase

/-- What is heard behind the `SOH` that leads to the phase. -/
def spelled : TncPhase → List UInt8
  | .idle => []
  | .begun => []
  | .text digits => 2 :: digits
  | .crc digits received => 2 :: digits ++ 3 :: received

/-- The phase is inside a message, whose digits are digits. -/
def Started : TncPhase → Prop
  | .idle => False
  | .begun => True
  | .text digits => TncHex digits
  | .crc digits received => TncHex digits ∧ TncHex received ∧ received.length ≤ 4

/-- The pairs of digits of the text fit in `size` bytes. -/
def Fits (size : ℕ) : TncPhase → Prop
  | .text digits => digits.length / 2 ≤ size
  | _ => True

end TncPhase

/-- The phase behind a line. -/
def tncPhase (line : List UInt8) : TncPhase := line.foldl TncPhase.hear .idle

/-- The line ends with an `EOT` that finds the CRC of `digits` right. -/
def TncAccepts (line digits : List UInt8) : Prop :=
  ∃ before received, line = before ++ [4] ∧ tncPhase before = .crc digits received ∧
    tncNumber (tncPadded received) = usCrcCcitt crcCcittInitVal digits

@[simp]
theorem tncPhase_concat (line : List UInt8) (c : UInt8) :
    tncPhase (line ++ [c]) = (tncPhase line).hear c := by
  simp [tncPhase]

theorem tncHex_concat {digits : List UInt8} {c : UInt8} (hex : TncHex digits)
    (digit : CChar.isxdigit c = true) : TncHex (digits ++ [c]) := by
  intro d d_mem
  rcases List.mem_append.mp d_mem with inDigits | last
  · exact hex d inDigits
  · rw [List.mem_singleton.mp last]
    exact digit

theorem ne_control_of_isxdigit {c : UInt8} (digit : CChar.isxdigit c = true) :
    c ≠ 1 ∧ c ≠ 2 ∧ c ≠ 3 ∧ c ≠ 4 := by
  revert c
  decide +kernel

/-! ### The phases and what is heard -/

namespace TncPhase

@[simp]
theorem hear_soh (phase : TncPhase) : phase.hear 1 = .begun := rfl

theorem hear_digit (phase : TncPhase) {c : UInt8} (digit : CChar.isxdigit c = true) :
    phase.hear c =
      match phase with
      | .text digits => .text (digits ++ [c])
      | .crc digits received =>
          if received.length < 4 then .crc digits (received ++ [c]) else .idle
      | _ => .idle := by
  rcases ne_control_of_isxdigit digit with ⟨soh, stx, etx, eot⟩
  simp [hear, soh, stx, etx, eot, digit]

theorem hear_of_not_hears (phase : TncPhase) {c : UInt8} (unheard : tncHears c = false) :
    phase.hear c = phase := by
  simp only [tncHears, Bool.or_eq_false_iff, beq_eq_false_iff_ne] at unheard
  rcases unheard with ⟨⟨⟨⟨soh, stx⟩, etx⟩, eot⟩, digit⟩
  simp [hear, soh, stx, etx, eot, digit]

/-- A byte other than `SOH` that does not end the message belongs to it. -/
theorem hear_goesOn {phase : TncPhase} {c : UInt8} (notSoh : c ≠ 1)
    (goesOn : phase.hear c ≠ .idle) :
    phase ≠ .idle ∧ (phase.Started → (phase.hear c).Started) ∧
      (phase.hear c).spelled = phase.spelled ++ [c].filter tncHears := by
  by_cases unheard : tncHears c = false
  · rw [hear_of_not_hears phase unheard] at goesOn ⊢
    exact ⟨goesOn, id, by simp [unheard]⟩
  have heard : [c].filter tncHears = [c] := by simpa using unheard
  rw [heard]
  by_cases digit : CChar.isxdigit c = true
  · rw [hear_digit phase digit] at goesOn ⊢
    cases phase with
    | idle => exact absurd rfl goesOn
    | begun => exact absurd rfl goesOn
    | text digits => exact ⟨by simp, fun hex => tncHex_concat hex digit, rfl⟩
    | crc digits received =>
        by_cases room : received.length < 4
        · simp only [room, if_true]
          refine ⟨by simp, ?_, by simp [spelled]⟩
          rintro ⟨hexDigits, hexReceived, _⟩
          refine ⟨hexDigits, tncHex_concat hexReceived digit, ?_⟩
          simp only [List.length_append, List.length_singleton]
          omega
        · simp [room] at goesOn
  · have control : c = 2 ∨ c = 3 ∨ c = 4 := by
      by_contra other
      simp only [not_or] at other
      exact unheard (by simp [tncHears, digit, notSoh, other])
    rcases control with rfl | rfl | rfl
    · cases phase with
      | begun => exact ⟨by simp, fun _ c c_mem => by simp at c_mem, rfl⟩
      | _ => exact absurd rfl goesOn
    · cases phase with
      | text digits =>
          refine ⟨by simp, ?_, rfl⟩
          intro hex
          exact ⟨hex, fun c c_mem => by simp at c_mem, by simp⟩
      | _ => exact absurd rfl goesOn
    · exact absurd rfl goesOn

theorem foldl_text {rest : List UInt8} (hex : TncHex rest) (digits : List UInt8) :
    rest.foldl hear (.text digits) = .text (digits ++ rest) := by
  induction rest generalizing digits with
  | nil => simp
  | cons c rest ih =>
      have digit := hex c (by simp)
      have later : TncHex rest := fun d d_mem => hex d (by simp [d_mem])
      rw [List.foldl_cons, hear_digit _ digit, ih later, List.append_assoc]
      rfl

theorem foldl_crc {rest : List UInt8} (hex : TncHex rest) (digits received : List UInt8)
    (room : received.length + rest.length ≤ 4) :
    rest.foldl hear (.crc digits received) = .crc digits (received ++ rest) := by
  induction rest generalizing received with
  | nil => simp
  | cons c rest ih =>
      have digit := hex c (by simp)
      have later : TncHex rest := fun d d_mem => hex d (by simp [d_mem])
      rw [List.length_cons] at room
      have here : received.length < 4 := by omega
      have roomLater : (received ++ [c]).length + rest.length ≤ 4 := by
        simp only [List.length_append, List.length_singleton]
        omega
      rw [List.foldl_cons, hear_digit _ digit]
      simp only [here, if_true]
      rw [ih later _ roomLater, List.append_assoc]
      rfl

/-- What a phase spells leads to it. -/
theorem foldl_spelled {phase : TncPhase} (started : phase.Started) :
    phase.spelled.foldl hear .begun = phase := by
  have stx : TncPhase.begun.hear 2 = .text [] := rfl
  have etx (digits : List UInt8) : (TncPhase.text digits).hear 3 = .crc digits [] := rfl
  cases phase with
  | idle => exact absurd started id
  | begun => rfl
  | text digits => rw [spelled, List.foldl_cons, stx, foldl_text started, List.nil_append]
  | crc digits received =>
      rcases started with ⟨hexDigits, hexReceived, room⟩
      rw [spelled, List.cons_append, List.foldl_cons, stx, List.foldl_append,
        foldl_text hexDigits, List.nil_append, List.foldl_cons, etx,
        foldl_crc hexReceived _ _ (by simpa using room), List.nil_append]

theorem foldl_filter (phase : TncPhase) (line : List UInt8) :
    (line.filter tncHears).foldl hear phase = line.foldl hear phase := by
  induction line generalizing phase with
  | nil => rfl
  | cons c rest ih =>
      by_cases unheard : tncHears c = false
      · simp [unheard, ih, hear_of_not_hears phase unheard]
      · simp [unheard, ih]

end TncPhase

theorem started_tncPhase {line : List UInt8} (started : tncPhase line ≠ .idle) :
    (tncPhase line).Started ∧ TncFollows line (tncPhase line).spelled := by
  induction line using List.reverseRecOn with
  | nil => exact absurd rfl started
  | append_singleton line c ih =>
      rw [tncPhase_concat] at started ⊢
      by_cases soh : c = 1
      · subst soh
        exact ⟨trivial, line, [], rfl, by simp, rfl⟩
      · rcases TncPhase.hear_goesOn soh started with ⟨before, keeps, spelled⟩
        rcases ih before with ⟨startedBefore, start, body, line_eq, noSoh, heard⟩
        refine ⟨keeps startedBefore, start, body ++ [c], by simp [line_eq], ?_, ?_⟩
        · simpa [noSoh] using Ne.symm soh
        · rw [List.filter_append, heard, spelled]

theorem tncPhase_eq_iff {line : List UInt8} {phase : TncPhase} (started : phase.Started) :
    tncPhase line = phase ↔ TncFollows line phase.spelled := by
  constructor
  · rintro rfl
    refine (started_tncPhase ?_).2
    intro outside
    rw [outside] at started
    exact started
  · rintro ⟨before, body, rfl, _, heard⟩
    rw [tncPhase, List.foldl_append, List.foldl_cons, TncPhase.hear_soh,
      ← TncPhase.foldl_filter, heard]
    exact TncPhase.foldl_spelled started

/-! ### The digits -/

theorem tncDecode_append {digits : List UInt8} (even : digits.length % 2 = 0)
    (rest : List UInt8) : tncDecode (digits ++ rest) = tncDecode digits ++ tncDecode rest := by
  induction digits using tncDecode.induct with
  | case1 high low digits ih =>
      have evenLater : digits.length % 2 = 0 := by
        simp only [List.length_cons] at even
        omega
      simp [tncDecode, ih evenLater]
  | case2 digits notPair =>
      cases digits with
      | nil => rfl
      | cons c digits =>
          cases digits with
          | nil => simp at even
          | cons d digits => exact absurd rfl (notPair c d digits)

theorem length_tncDecode (digits : List UInt8) :
    (tncDecode digits).length = digits.length / 2 := by
  induction digits using tncDecode.induct with
  | case1 high low digits ih =>
      simp only [tncDecode, List.length_cons, ih]
      omega
  | case2 digits notPair =>
      cases digits with
      | nil => rfl
      | cons c digits =>
          cases digits with
          | nil => simp [tncDecode]
          | cons d digits => exact absurd rfl (notPair c d digits)

theorem shiftLeft_nibbles (n : UInt16) :
    n <<< 12 = n * 16 * 16 * 16 ∧ n <<< 8 = n * 16 * 16 ∧ n <<< 4 = n * 16 ∧ n <<< 0 = n := by
  refine ⟨?_, ?_, ?_, ?_⟩ <;> apply UInt16.toNat.inj <;> simp [Nat.shiftLeft_eq] <;> omega

/-- A further digit takes the place of a zero. -/
theorem tncNumber_concat {received : List UInt8} (c : UInt8) (room : received.length < 4) :
    tncNumber (tncPadded (received ++ [c])) =
      tncNumber (tncPadded received) +
        (htoi c).toUInt16 <<< (12 - UInt8.ofNat (4 * received.length)).toUInt16 := by
  have zero : (htoi 0x30).toUInt16 = 0 := by decide
  rcases shiftLeft_nibbles (htoi c).toUInt16 with ⟨first, second, third, fourth⟩
  rcases received with _ | ⟨d0, _ | ⟨d1, _ | ⟨d2, _ | ⟨d3, rest⟩⟩⟩⟩
  · simp [tncPadded, tncNumber, zero, List.replicate_succ, first]
  · simp [tncPadded, tncNumber, zero, List.replicate_succ, second]
    grind
  · simp [tncPadded, tncNumber, zero, List.replicate_succ, third]
    grind
  · simp [tncPadded, tncNumber, zero, List.replicate_succ, fourth]
  · simp only [List.length_cons] at room
    omega

theorem tncPadded_of_length {received : List UInt8} (whole : received.length = 4) :
    tncPadded received = received := by
  simp [tncPadded, whole]

/-! ### Exact messages -/

/-- In a message that is accepted every byte is heard, the digits of the text are even in
number, and the CRC has its four digits. -/
def TncExact (line : List UInt8) : Prop :=
  ∀ before body digits received, before ++ 1 :: body ++ [4] <+: line → 1 ∉ body →
    body.filter tncHears = 2 :: digits ++ 3 :: received →
    TncHex digits → TncHex received → received.length ≤ 4 →
    tncNumber (tncPadded received) = usCrcCcitt crcCcittInitVal digits →
    body = 2 :: digits ++ 3 :: received ∧ digits.length % 2 = 0 ∧ received.length = 4

/-- No text has more pairs of digits than a buffer of `size` bytes has room for. -/
def TncRoom (size : ℕ) (line : List UInt8) : Prop :=
  ∀ before body digits, before ++ 1 :: body <+: line → 1 ∉ body →
    body.filter tncHears = 2 :: digits → TncHex digits → digits.length / 2 ≤ size

theorem eq_of_lastSoh {before start body rest : List UInt8}
    (same : before ++ 1 :: body = start ++ 1 :: rest) (noSohBody : 1 ∉ body)
    (noSohRest : 1 ∉ rest) : body = rest := by
  rcases List.append_eq_append_iff.mp same with ⟨between, _, parts⟩ | ⟨between, _, parts⟩
  · cases between with
    | nil => exact (List.cons.inj parts).2
    | cons c between =>
        rw [List.cons_append, List.cons.injEq] at parts
        exact absurd (by simp [parts.2]) noSohBody
  · cases between with
    | nil => exact (List.cons.inj parts).2.symm
    | cons c between =>
        rw [List.cons_append, List.cons.injEq] at parts
        exact absurd (by simp [parts.2]) noSohRest

section Message

variable {line digits received text : List UInt8}

theorem forall_hears_message (hexDigits : TncHex digits) (hexReceived : TncHex received) :
    ∀ c ∈ 2 :: digits ++ 3 :: received, tncHears c = true ∧ c ≠ 1 := by
  have hexHeard {c : UInt8} (digit : CChar.isxdigit c = true) : tncHears c = true ∧ c ≠ 1 :=
    ⟨by simp [tncHears, digit], (ne_control_of_isxdigit digit).1⟩
  intro c c_mem
  simp only [List.mem_append, List.mem_cons] at c_mem
  rcases c_mem with (rfl | inDigits) | rfl | inReceived
  · decide
  · exact hexHeard (hexDigits c inDigits)
  · decide
  · exact hexHeard (hexReceived c inReceived)

theorem filter_message (hexDigits : TncHex digits) (hexReceived : TncHex received) :
    (2 :: digits ++ 3 :: received).filter tncHears = 2 :: digits ++ 3 :: received :=
  List.filter_eq_self.mpr fun c c_mem => (forall_hears_message hexDigits hexReceived c c_mem).1

theorem not_mem_message (hexDigits : TncHex digits) (hexReceived : TncHex received) :
    1 ∉ 2 :: digits ++ 3 :: received := by
  intro soh
  exact (forall_hears_message hexDigits hexReceived 1 soh).2 rfl

/-- A message of the format is accepted. -/
theorem exists_accepts_of_sends (sends : TncSends line text) :
    ∃ digits, TncAccepts line digits ∧ digits.length % 2 = 0 ∧ tncDecode digits = text := by
  rcases sends with ⟨before, digits, received, rfl, hexDigits, hexReceived, even, whole, checked,
    decoded⟩
  have started : (TncPhase.crc digits received).Started := ⟨hexDigits, hexReceived, whole.le⟩
  have phase : tncPhase (before ++ 1 :: 2 :: digits ++ 3 :: received) = .crc digits received :=
    (tncPhase_eq_iff started).mpr ⟨before, 2 :: digits ++ 3 :: received, by simp,
      not_mem_message hexDigits hexReceived, filter_message hexDigits hexReceived⟩
  refine ⟨digits, ⟨_, received, rfl, phase, ?_⟩, even, decoded⟩
  rwa [tncPadded_of_length whole]

theorem digits_eq_of_accepts {other : List UInt8} (accepts : TncAccepts line digits)
    (acceptsOther : TncAccepts line other) : digits = other := by
  rcases accepts with ⟨before, received, rfl, phase, _⟩
  rcases acceptsOther with ⟨start, receivedOther, same, phaseOther, _⟩
  rw [List.append_cancel_right same, phaseOther] at phase
  exact (TncPhase.crc.inj phase).1.symm

/-- The exact lines are those in which every message that is accepted is of the format. -/
theorem tncExact_iff :
    TncExact line ↔ ∀ upTo digits, upTo <+: line → TncAccepts upTo digits →
      TncSends upTo (tncDecode digits) := by
  constructor
  · rintro exactness _ digits isPrefix ⟨before, received, rfl, phase, checked⟩
    have outside : tncPhase before ≠ .idle := by simp [phase]
    rcases started_tncPhase outside with ⟨started, follows⟩
    rw [phase] at started follows
    rcases started with ⟨hexDigits, hexReceived, short⟩
    rcases follows with ⟨start, body, rfl, noSoh, heard⟩
    rcases exactness start body digits received isPrefix noSoh heard hexDigits hexReceived short
      checked with ⟨body_eq, even, whole⟩
    rw [tncPadded_of_length whole] at checked
    exact ⟨start, digits, received, by simp [body_eq], hexDigits, hexReceived, even, whole,
      checked, rfl⟩
  · intro sends before body digits received isPrefix noSoh heard hexDigits hexReceived short
      checked
    have started : (TncPhase.crc digits received).Started := ⟨hexDigits, hexReceived, short⟩
    have phase : tncPhase (before ++ 1 :: body) = .crc digits received :=
      (tncPhase_eq_iff started).mpr ⟨before, body, rfl, noSoh, heard⟩
    rcases sends _ digits isPrefix ⟨_, received, rfl, phase, checked⟩ with
      ⟨start, sent, sentCrc, line_eq, hexSent, hexCrc, even, whole, _, _⟩
    have same : before ++ 1 :: body = start ++ 1 :: (2 :: sent ++ 3 :: sentCrc) := by
      simpa using List.append_cancel_right line_eq
    have body_eq := eq_of_lastSoh same noSoh (not_mem_message hexSent hexCrc)
    rw [body_eq, filter_message hexSent hexCrc] at heard
    have startedSent : (TncPhase.crc sent sentCrc).Started := ⟨hexSent, hexCrc, whole.le⟩
    have samePhase : TncPhase.crc sent sentCrc = .crc digits received := by
      rw [← TncPhase.foldl_spelled startedSent, ← TncPhase.foldl_spelled started,
        TncPhase.spelled, TncPhase.spelled, heard]
    rcases TncPhase.crc.inj samePhase with ⟨rfl, rfl⟩
    exact ⟨body_eq, even, whole⟩

end Message

theorem tncRoom_iff {size : ℕ} {line : List UInt8} :
    TncRoom size line ↔ ∀ upTo, upTo <+: line → (tncPhase upTo).Fits size := by
  constructor
  · intro room upTo isPrefix
    cases phase : tncPhase upTo with
    | text digits =>
        have outside : tncPhase upTo ≠ .idle := by simp [phase]
        rcases started_tncPhase outside with ⟨started, follows⟩
        rw [phase] at started follows
        rcases follows with ⟨before, body, rfl, noSoh, heard⟩
        exact room before body digits isPrefix noSoh heard started
    | _ => trivial
  · intro fits before body digits isPrefix noSoh heard hex
    have started : (TncPhase.text digits).Started := hex
    have phase : tncPhase (before ++ 1 :: body) = .text digits :=
      (tncPhase_eq_iff started).mpr ⟨before, body, rfl, noSoh, heard⟩
    have fitsHere := fits _ isPrefix
    rw [phase] at fitsHere
    exact fitsHere

end Sysio.Radio
