import Mathlib.Tactic.Ring
import Sysio.Radio.Tnc.Controller

/-!
# A message written is the message polled

`tncLine b` is the line of a message `b`. The writer emits it in at most `2 * n + 10` turns,
which is what `Emits` says, chained backwards from the last turn. The reader passes over it
from any state, `TncText` being what it knows in the middle of the text, and stops at its last
byte; that polls may end anywhere in between is the matter of `Polling.drain_of_passes`.
-/

namespace Sysio.Radio

/-- The two digits of each byte. -/
def tncDigits (b : List UInt8) : List UInt8 := b.flatMap CChar.print02X

@[simp]
theorem tncDigits_cons (c : UInt8) (rest : List UInt8) :
    tncDigits (c :: rest) = CChar.print02X c ++ tncDigits rest := by
  simp [tncDigits]

/-- The end of a message whose digits leave the register at `crc`. -/
def tncTrailer (crc : UInt16) : List UInt8 := 3 :: CChar.print04X crc

/-- The message without its `TNC_EOT`. -/
def tncMessage (b : List UInt8) : List UInt8 :=
  1 :: 2 :: tncDigits b ++ tncTrailer (usCrcCcitt crcCcittInitVal (tncDigits b))

/-- The message as it is sent. -/
def tncLine (b : List UInt8) : List UInt8 := tncMessage b ++ [4]

theorem and_one_of_and_one_eq_zero {cnt : UInt8} (even : cnt &&& 1 = 0) :
    (cnt + 1) &&& 1 ≠ 0 ∧ (cnt + 1 + 1) &&& 1 = 0 := by
  revert cnt
  decide +kernel

/-! ### The writer -/

/-- From `w`, the loop ends in `turns` turns at most, whatever short writes it meets, with
`out` written and the value `index` returned. -/
def Emits (b : List UInt8) (turns : ℕ) (w : TncWriter) (out : List UInt8) (index : ℕ) : Prop :=
  ∀ fuel writes line, turns ≤ fuel → (∀ i ∈ writes, 0 ≤ i) →
    tncWriteLoop b fuel w writes line = some (some index, line ++ out)

theorem tncPutc_of_noError (c : UInt8) (line : List UInt8) {writes : List ℤ}
    (noError : ∀ i ∈ writes, 0 ≤ i) :
    ∃ left, (∀ i ∈ left, 0 ≤ i) ∧ tncPutc c line writes = (left, some (line ++ [c])) := by
  induction writes with
  | nil => exact ⟨[], by simp, rfl⟩
  | cons i rest ih =>
      have here : ¬i < 0 := by
        have := noError i (by simp)
        omega
      have later : ∀ j ∈ rest, 0 ≤ j := fun j j_mem => noError j (by simp [j_mem])
      by_cases again : i = 0
      · rcases ih later with ⟨left, leftNoError, written⟩
        exact ⟨left, leftNoError, by simp [tncPutc, again, written]⟩
      · exact ⟨rest, later, by simp [tncPutc, here, again]⟩

section Emits

variable {b : List UInt8} {turns : ℕ} {w next : TncWriter} {out : List UInt8} {index : ℕ}

theorem Emits.done (ended : w.state = tncEot) : Emits b 1 w [] w.index := by
  intro fuel writes line enough _
  obtain ⟨fuel, rfl⟩ := Nat.exists_eq_add_of_le' enough
  simp [tncWriteLoop, ended]

theorem Emits.put {c : UInt8} (later : Emits b turns next out index) (running : w.state ≠ tncEot)
    (step : tncWriteStep b w = (next, some c)) : Emits b (turns + 1) w (c :: out) index := by
  intro fuel writes line enough noError
  obtain ⟨fuel, rfl⟩ := Nat.exists_eq_succ_of_ne_zero (by omega : fuel ≠ 0)
  rcases tncPutc_of_noError c line noError with ⟨left, leftNoError, written⟩
  have rest := later fuel left (line ++ [c]) (by omega) leftNoError
  simp [tncWriteLoop, running, step, written, rest]

theorem Emits.skip (later : Emits b turns next out index) (running : w.state ≠ tncEot)
    (step : tncWriteStep b w = (next, none)) : Emits b (turns + 1) w out index := by
  intro fuel writes line enough noError
  obtain ⟨fuel, rfl⟩ := Nat.exists_eq_succ_of_ne_zero (by omega : fuel ≠ 0)
  simp [tncWriteLoop, running, step, later fuel writes line (by omega) noError]

theorem emits_trailer (cnt : UInt8) (str : List UInt8) (crc : UInt16) :
    Emits b 7 ⟨tncEtx, cnt, index, str, crc⟩ (tncTrailer crc ++ [4]) index := by
  have inCrc : tncCrc ≠ tncEot := by decide
  have inEtx : tncEtx ≠ tncEot := by decide
  have ended : Emits b 1 ⟨tncEot, 4, index, CChar.print04X crc, crc⟩ [] index := Emits.done rfl
  have eot := ended.put (w := ⟨tncCrc, 4, index, CChar.print04X crc, crc⟩) inCrc rfl
  have digit3 := eot.put (w := ⟨tncCrc, 3, index, CChar.print04X crc, crc⟩) inCrc rfl
  have digit2 := digit3.put (w := ⟨tncCrc, 2, index, CChar.print04X crc, crc⟩) inCrc rfl
  have digit1 := digit2.put (w := ⟨tncCrc, 1, index, CChar.print04X crc, crc⟩) inCrc rfl
  have digit0 := digit1.put (w := ⟨tncCrc, 0, index, CChar.print04X crc, crc⟩) inCrc rfl
  exact digit0.put (w := ⟨tncEtx, cnt, index, str, crc⟩) inEtx rfl

/-- The text from `index` on: by induction on what is left of the payload. -/
theorem emits_text (rest : List UInt8) (cnt : UInt8) (index : ℕ) (str : List UInt8) (crc : UInt16)
    (even : cnt &&& 1 = 0) (left : b.drop index = rest) (restNe : rest ≠ []) :
    Emits b (2 * rest.length + 7) ⟨tncTxt, cnt, index, str, crc⟩
      (tncDigits rest ++ (tncTrailer (usCrcCcitt crc (tncDigits rest)) ++ [4])) b.length := by
  induction rest generalizing cnt index str crc with
  | nil => exact absurd rfl restNe
  | cons c rest ih =>
      rcases and_one_of_and_one_eq_zero even with ⟨odd, evenAgain⟩
      have length : b.length - index = rest.length + 1 := by
        rw [← List.length_drop, left, List.length_cons]
      have payload : b.length ≠ 0 := by omega
      have here : b[index]? = some c := by
        rw [← Nat.add_zero index, ← List.getElem?_drop, left]
        rfl
      have behind : b.drop (index + 1) = rest := by
        rw [← List.drop_drop, left]
        rfl
      let high := (CChar.print02X c).getD 0 0
      let low := (CChar.print02X c).getD 1 0
      let crcHigh := usCrcCcittUpdate high crc
      let crcLow := usCrcCcittUpdate low crcHigh
      have later : Emits b (2 * rest.length + 7)
          ⟨if index + 1 ≥ b.length then tncEtx else tncTxt, cnt + 1 + 1, index + 1,
            CChar.print02X c, crcLow⟩
          (tncDigits rest ++ (tncTrailer (usCrcCcitt crcLow (tncDigits rest)) ++ [4]))
          b.length := by
        cases rest with
        | nil =>
            have last : index + 1 = b.length := by
              simp only [List.length_nil] at length
              omega
            rw [if_pos (by omega), last]
            exact emits_trailer _ _ _
        | cons d rest =>
            rw [if_neg (by simp only [List.length_cons] at length; omega)]
            exact ih (cnt + 1 + 1) (index + 1) _ crcLow evenAgain behind (by simp)
      have inText : tncTxt ≠ tncEot := by decide
      have lowPut := later.put (c := low)
        (w := ⟨tncTxt, cnt + 1, index, CChar.print02X c, crcHigh⟩) inText
        (by simp [tncWriteStep, tncTxt, tncSoh, tncStx, payload, odd, low, crcLow])
      have highPut := lowPut.put (c := high) (w := ⟨tncTxt, cnt, index, str, crc⟩) inText
        (by simp [tncWriteStep, tncTxt, tncSoh, tncStx, payload, even, here, crcHigh, high])
      exact highPut

theorem emits_line (b : List UInt8) :
    Emits b (2 * b.length + 10) ⟨tncSoh, 0, 0, [], crcCcittInitVal⟩ (tncLine b) b.length := by
  have text : Emits b (2 * b.length + 8) ⟨tncTxt, 0, 0, [], crcCcittInitVal⟩
      (tncDigits b ++ (tncTrailer (usCrcCcitt crcCcittInitVal (tncDigits b)) ++ [4])) b.length := by
    cases b with
    | nil =>
        exact (emits_trailer 0 [] crcCcittInitVal).skip (w := ⟨tncTxt, 0, 0, [], crcCcittInitVal⟩)
          (by decide) rfl
    | cons c rest =>
        intro fuel writes line enough
        exact emits_text (c :: rest) 0 0 [] crcCcittInitVal rfl rfl (by simp) fuel writes line
          (by omega)
  have stx := text.put (w := ⟨tncStx, 0, 0, [], crcCcittInitVal⟩) (by decide) rfl
  have soh := stx.put (w := ⟨tncSoh, 0, 0, [], crcCcittInitVal⟩) (by decide) rfl
  simpa [tncLine, tncMessage] using soh

end Emits

/-- A payload is written as its line, and its length is returned. -/
theorem iTncWrite_eq {size : ℕ} {p : XTnc size} (opened : ¬p.fout < 0) (b : List UInt8)
    {writes : List ℤ} (noError : ∀ i ∈ writes, 0 ≤ i) :
    iTncWrite p b writes = some ((b.length : ℤ), p, tncLine b) := by
  simp [iTncWrite, opened, emits_line b _ writes [] le_rfl noError]

/-! ### The reader -/

theorem htoi_upperXDigit {n : UInt8} (small : n < 16) : htoi (CChar.upperXDigit n) = n := by
  revert n
  decide +kernel

theorem nibbles_lt (c : UInt8) : c >>> 4 < 16 ∧ c &&& 0x0F < 16 := by
  revert c
  decide +kernel

theorem nibbles_sum (c : UInt8) : (c >>> 4) <<< 4 + (c &&& 0x0F) = c := by
  revert c
  decide +kernel

theorem not_control_of_isxdigit {c : UInt8} (digit : CChar.isxdigit c = true) :
    (c.toNat : ℤ) ≠ tncSoh ∧ (c.toNat : ℤ) ≠ tncStx ∧ (c.toNat : ℤ) ≠ tncEtx ∧
      (c.toNat : ℤ) ≠ tncEot := by
  revert c
  decide +kernel

section Reader

variable {size : ℕ}

/-- `q` is `p` after the bytes `line`, which do not end a message. -/
def TncPasses (p : XTnc size) (line : List UInt8) (q : XTnc size) : Prop :=
  Polling.Passes tncPollStep (.ok p) (line.map .byte) (.ok q)

theorem TncPasses.append {p q r : XTnc size} {before after : List UInt8}
    (first : TncPasses p before q) (second : TncPasses q after r) :
    TncPasses p (before ++ after) r := by
  rw [TncPasses, List.map_append]
  exact Polling.Passes.append first second

theorem TncPasses.byte {p q : XTnc size} {c : UInt8}
    (read : tncPollByte p c = .ok (q, false)) (notEot : q.state ≠ tncEot) :
    TncPasses p [c] q := by
  have step : tncPollStep (.ok p) (.byte c) = (.ok q, false) := by
    simp [tncPollStep, read, notEot]
  refine Polling.Passes.cons (by rw [step]) ?_
  rw [step]
  exact Polling.Passes.nil _

theorem tncPollByte_digit (p : XTnc size) {c : UInt8} (digit : CChar.isxdigit c = true) :
    tncPollByte p c = (tncPollDigit p c).map fun p => (p, false) := by
  rcases not_control_of_isxdigit digit with ⟨soh, stx, etx, eot⟩
  simp [tncPollByte, soh, stx, etx, eot, digit]

/-- The reader in the middle of the text, after the payload bytes `done`. -/
structure TncText (fin : ℤ) (done : List UInt8) (p : XTnc size) : Prop where
  fin_eq : p.fin = fin
  state : p.state = tncStx
  even : p.cnt &&& 1 = 0
  len : p.len = done.length
  rxbuf : p.rxbuf.toList.take p.len = done
  crcRx : p.crcRx = usCrcCcitt crcCcittInitVal (tncDigits done)

theorem tncText_digits {fin : ℤ} {done : List UInt8} {p : XTnc size} (text : TncText fin done p)
    (c : UInt8) (room : done.length < size) :
    ∃ q, TncPasses p (CChar.print02X c) q ∧ TncText fin (done ++ [c]) q := by
  rcases nibbles_lt c with ⟨highLt, lowLt⟩
  rcases and_one_of_and_one_eq_zero text.even with ⟨odd, even⟩
  have fits : p.len < size := by rw [text.len]; exact room
  let high := CChar.upperXDigit (c >>> 4)
  let low := CChar.upperXDigit (c &&& 0x0F)
  let mid : XTnc size := { p with
    crcRx := usCrcCcittUpdate high p.crcRx, cnt := p.cnt + 1, msb := (c >>> 4) <<< 4 }
  let last : XTnc size := { mid with
    crcRx := usCrcCcittUpdate low mid.crcRx, cnt := mid.cnt + 1
    rxbuf := p.rxbuf.set p.len c, len := p.len + 1 }
  have inText : p.state ≠ tncEot := by
    rw [text.state]
    decide
  have readHigh : tncPollByte p high = .ok (mid, false) := by
    rw [tncPollByte_digit p (CChar.isxdigit_upperXDigit highLt)]
    simp [tncPollDigit, text.state, text.even, Except.map, mid, high, htoi_upperXDigit highLt]
  have readLow : tncPollByte mid low = .ok (last, false) := by
    rw [tncPollByte_digit mid (CChar.isxdigit_upperXDigit lowLt)]
    simp [tncPollDigit, text.state, odd, fits, Except.map, mid, last, low,
      htoi_upperXDigit lowLt, nibbles_sum]
  refine ⟨last, (TncPasses.byte readHigh inText).append (TncPasses.byte readLow inText), ?_⟩
  refine ⟨text.fin_eq, text.state, even, ?_, ?_, ?_⟩
  · simp [last, text.len]
  · have stored := Vector.take_set_succ p.rxbuf p.len fits c
    rw [text.rxbuf] at stored
    exact stored
  · simp [last, mid, text.crcRx, tncDigits, usCrcCcitt_append, CChar.print02X, high, low]

theorem tncText_payload {fin : ℤ} {done : List UInt8} {p : XTnc size} (text : TncText fin done p)
    (rest : List UInt8) (room : done.length + rest.length ≤ size) :
    ∃ q, TncPasses p (tncDigits rest) q ∧ TncText fin (done ++ rest) q := by
  induction rest generalizing done p with
  | nil => exact ⟨p, Polling.Passes.nil _, by simpa using text⟩
  | cons c rest ih =>
      rw [List.length_cons] at room
      rcases tncText_digits text c (by omega) with ⟨mid, first, textMid⟩
      rcases ih textMid (by simp only [List.length_append, List.length_singleton]; omega)
        with ⟨q, later, textEnd⟩
      rw [tncDigits_cons]
      exact ⟨q, first.append later, by simpa using textEnd⟩

/-- The reader behind some digits of the CRC, which add up to `crcTx`. -/
def tncInCrc (p : XTnc size) (crcTx : UInt16) (cnt : UInt8) : XTnc size :=
  { p with state := tncEtx, crcTx, cnt }

theorem tncPasses_crcDigit (p : XTnc size) (crcTx shift : UInt16) {n cnt next : UInt8}
    (small : n < 16) (room : cnt ≤ 12) (shift_eq : (12 - cnt).toUInt16 = shift)
    (next_eq : cnt + 4 = next) :
    TncPasses (tncInCrc p crcTx cnt) [CChar.upperXDigit n]
      (tncInCrc p (crcTx + n.toUInt16 <<< shift) next) := by
  have notEot : tncEtx ≠ tncEot := by decide
  refine TncPasses.byte ?_ notEot
  rw [tncPollByte_digit _ (CChar.isxdigit_upperXDigit small)]
  simp [tncPollDigit, tncInCrc, tncEtx, tncStx, room, Except.map, htoi_upperXDigit small,
    shift_eq, next_eq]

theorem crcDigits_sum (crc : UInt16) :
    (0 : UInt16) + ((crc >>> 8).toUInt8 >>> 4).toUInt16 <<< (12 : UInt16) +
        ((crc >>> 8).toUInt8 &&& 0x0F).toUInt16 <<< (8 : UInt16) +
        (crc.toUInt8 >>> 4).toUInt16 <<< (4 : UInt16) +
        (crc.toUInt8 &&& 0x0F).toUInt16 <<< (0 : UInt16) = crc := by
  apply UInt16.toNat.inj
  have lt := crc.toNat_lt
  have low (n : ℕ) : n &&& 15 = n % 16 := Nat.and_two_pow_sub_one_eq_mod n 4
  simp only [UInt16.toNat_add, UInt16.toNat_shiftLeft, UInt8.toNat_toUInt16, UInt8.toNat_shiftRight,
    UInt8.toNat_and, UInt16.toNat_toUInt8, UInt16.toNat_shiftRight, Nat.shiftLeft_eq,
    Nat.shiftRight_eq_div_pow, UInt8.reduceToNat, UInt16.reduceToNat, Nat.reduceMod,
    Nat.reducePow, low]
  omega

theorem tncPasses_trailer {p : XTnc size} (inText : p.state = tncStx) (crc : UInt16) :
    TncPasses p (tncTrailer crc) (tncInCrc p crc 16) := by
  rcases nibbles_lt (crc >>> 8).toUInt8 with ⟨highHigh, highLow⟩
  rcases nibbles_lt crc.toUInt8 with ⟨lowHigh, lowLow⟩
  have notEot : tncEtx ≠ tncEot := by decide
  have etx : TncPasses p [3] (tncInCrc p 0 0) := by
    refine TncPasses.byte ?_ notEot
    simp [tncPollByte, tncSoh, tncStx, tncEtx, inText, tncInCrc]
  have four : (0 : UInt8) + 4 = 4 := rfl
  have eight : (4 : UInt8) + 4 = 8 := rfl
  have twelve : (8 : UInt8) + 4 = 12 := rfl
  have sixteen : (12 : UInt8) + 4 = 16 := rfl
  have digit0 := etx.append (tncPasses_crcDigit p 0 12 highHigh (by decide) rfl four)
  have digit1 := digit0.append (tncPasses_crcDigit p _ 8 highLow (by decide) rfl eight)
  have digit2 := digit1.append (tncPasses_crcDigit p _ 4 lowHigh (by decide) rfl twelve)
  have digit3 := digit2.append (tncPasses_crcDigit p _ 0 lowLow (by decide) rfl sixteen)
  rw [crcDigits_sum] at digit3
  exact digit3

/-- The message without its last byte, from any state. -/
theorem tncPasses_message (p : XTnc size) (b : List UInt8) (room : b.length ≤ size) :
    ∃ q, TncPasses p (tncMessage b) q ∧ q.fin = p.fin ∧ q.state = tncEtx ∧ q.crcRx = q.crcTx ∧
      q.len = b.length ∧ q.rxbuf.toList.take q.len = b := by
  let soh : XTnc size := { p with crcRx := crcCcittInitVal, state := tncSoh, len := 0 }
  let stx : XTnc size := { soh with cnt := 0, state := tncStx }
  have first : TncPasses p [1] soh := by
    have running : tncSoh ≠ tncEot := by decide
    exact TncPasses.byte (by simp [tncPollByte, tncSoh, soh]) running
  have second : TncPasses soh [2] stx := by
    have running : tncStx ≠ tncEot := by decide
    exact TncPasses.byte (by simp [tncPollByte, tncSoh, tncStx, soh, stx]) running
  have start : TncText p.fin [] stx := by
    have even : (0 : UInt8) &&& 1 = 0 := by decide
    exact ⟨rfl, rfl, even, rfl, rfl, rfl⟩
  rcases tncText_payload start b (by simpa using room) with ⟨text, digits, inText⟩
  rw [List.nil_append] at inText
  have trailer := tncPasses_trailer inText.state (usCrcCcitt crcCcittInitVal (tncDigits b))
  refine ⟨tncInCrc text (usCrcCcitt crcCcittInitVal (tncDigits b)) 16, ?_, inText.fin_eq, rfl,
    inText.crcRx, inText.len, inText.rxbuf⟩
  exact first.append (second.append (digits.append trailer))

theorem tncPollStep_eot {p : XTnc size} (inCrc : p.state = tncEtx) (checked : p.crcRx = p.crcTx) :
    tncPollStep (.ok p) (.byte 4) = (.ok { p with state := tncEot }, true) := by
  simp [tncPollStep, tncPollByte, inCrc, checked, tncSoh, tncStx, tncEtx, tncEot]

theorem fds_pollDigit {p q : XTnc size} {c : UInt8} (read : tncPollDigit p c = .ok q) :
    q.fin = p.fin ∧ q.fout = p.fout := by
  simp only [tncPollDigit] at read
  split_ifs at read <;> cases read <;> exact ⟨rfl, rfl⟩

theorem fds_pollByte {p q : XTnc size} {c : UInt8} {returns : Bool}
    (read : tncPollByte p c = .ok (q, returns)) : q.fin = p.fin ∧ q.fout = p.fout := by
  by_cases digit : CChar.isxdigit c = true
  · rw [tncPollByte_digit p digit] at read
    cases stored : tncPollDigit p c with
    | error fault => simp [stored, Except.map] at read
    | ok r =>
        simp only [stored, Except.map, Except.ok.injEq, Prod.mk.injEq] at read
        rw [← read.1]
        exact fds_pollDigit stored
  · simp only [tncPollByte, if_neg digit] at read
    split_ifs at read <;> cases read <;> exact ⟨rfl, rfl⟩

theorem exists_ok_of_passes {start reached : Except Fault (XTnc size)} {reads : List TncRead}
    (passes : Polling.Passes tncPollStep start reads reached) {p : XTnc size}
    (start_eq : start = .ok p) (notEot : p.state ≠ tncEot) :
    ∃ q, reached = .ok q ∧ q.fin = p.fin ∧ q.state ≠ tncEot := by
  induction passes generalizing p with
  | nil => exact ⟨p, start_eq, rfl, notEot⟩
  | @cons state _ input _ goesOn _ ih =>
      subst start_eq
      cases input with
      | ioError => simp [tncPollStep] at goesOn
      | byte c =>
          cases read : tncPollByte p c with
          | error fault => simp [tncPollStep, read] at goesOn
          | ok result =>
              rcases result with ⟨q, returns⟩
              simp only [tncPollStep, read, Bool.or_eq_false_iff, beq_eq_false_iff_ne] at goesOn
              rcases ih (p := q) (by simp [tncPollStep, read]) goesOn.2 with
                ⟨r, reached_eq, fin, later⟩
              exact ⟨r, reached_eq, fin.trans (fds_pollByte read).1, later⟩

end Reader

/-! ### The round trip -/

section Polls

variable {size : ℕ}

/-- One poll of a run, which a fault ends. -/
def tncCall (p : Except Fault (XTnc size)) (script : List (Option TncRead)) :
    Except Fault (XTnc size) × List (Option TncRead) :=
  match p with
  | .error fault => (.error fault, script)
  | .ok p =>
      let (result, script) := iTncPoll p script
      (result.map Prod.snd, script)

/-- The controller and the reads not made after `count` calls of `iTncPoll`. -/
def tncPolls (count : ℕ) (p : XTnc size) (script : List (Option TncRead)) :
    Except Fault (XTnc size) × List (Option TncRead) :=
  Polling.calls tncCall count (.ok p) script

theorem state_pollEntry (p : XTnc size) : (tncPollEntry p).state ≠ tncEot := by
  simp only [tncPollEntry]
  split_ifs with reported
  · change (0 : ℤ) ≠ tncEot
    decide
  · exact reported

theorem fin_pollEntry (p : XTnc size) : (tncPollEntry p).fin = p.fin := by
  simp only [tncPollEntry]
  split_ifs <;> rfl

theorem pollEntry_of_ne {p : XTnc size} (notEot : p.state ≠ tncEot) : tncPollEntry p = p :=
  if_neg notEot

/-- A poll with an open input is the loop of its reads. -/
theorem iTncPoll_eq {p : XTnc size} (valid : ¬p.fin < 0) (script : List (Option TncRead)) :
    iTncPoll p script =
      ((Polling.drain tncPollStep (.ok (tncPollEntry p)) script).1.map fun p => (p.state, p),
        (Polling.drain tncPollStep (.ok (tncPollEntry p)) script).2) := by
  have opened : ¬(tncPollEntry p).fin < 0 := by rwa [fin_pollEntry]
  simp [iTncPoll, opened]

/-- What is still to be read of the message after which the reader is in the state `last`. -/
def TncExpects (last : XTnc size) (p : XTnc size) (script : List (Option TncRead)) : Prop :=
  ∃ rest, script.reduceOption = rest ++ [.byte 4] ∧
    Polling.Passes tncPollStep (.ok (tncPollEntry p)) rest (.ok last)

/-- One call: it reads the rest of the message and reports it, or it reports nothing. -/
theorem iTncPoll_of_expects {p last : XTnc size} {script : List (Option TncRead)}
    (valid : ¬p.fin < 0) (inCrc : last.state = tncEtx) (checked : last.crcRx = last.crcTx)
    (expects : TncExpects last p script) :
    ((iTncPoll p script).2.reduceOption = [] ∧
        (iTncPoll p script).1 = .ok (tncEot, { last with state := tncEot })) ∨
      ∃ q, (iTncPoll p script).1 = .ok (q.state, q) ∧ q.state ≠ tncEot ∧ q.fin = p.fin ∧
        (iTncPoll p script).2.length < script.length ∧ TncExpects last q (iTncPoll p script).2 := by
  rcases expects with ⟨rest, inputs, body⟩
  have eot := tncPollStep_eot inCrc checked
  have scriptNe : script ≠ [] := by
    rintro rfl
    simp at inputs
  have shorter := Polling.length_drain_lt tncPollStep (.ok (tncPollEntry p)) scriptNe
  rw [iTncPoll_eq valid]
  dsimp only
  rcases Polling.drain_of_passes body (by rw [eot]) inputs with
    ⟨ended, reached⟩ | ⟨done, unread, left, passed, remains⟩
  · refine Or.inl ⟨ended, ?_⟩
    simp [reached, eot, Except.map]
  · right
    rcases exists_ok_of_passes passed rfl (state_pollEntry p) with ⟨q, reached, fin, notEot⟩
    refine ⟨q, by simp [reached, Except.map], notEot, fin.trans (fin_pollEntry p), shorter,
      unread, left, ?_⟩
    rw [pollEntry_of_ne notEot, ← reached]
    exact remains

theorem tncCall_of_read {script : List (Option TncRead)} (read : script.reduceOption = [])
    (p : Except Fault (XTnc size)) : (tncCall p script).2.reduceOption = [] := by
  cases p with
  | error fault => exact read
  | ok p =>
      simp only [tncCall, iTncPoll]
      split_ifs
      · exact read
      · rcases Polling.exists_prefix_drain tncPollStep (.ok (tncPollEntry p)) script with
          ⟨consumed, inputs, _⟩
        exact (List.append_eq_nil_iff.mp (inputs.symm.trans read)).2

/-- Any number of calls: the message was read, or it is expected still and the calls have used
up the script. -/
theorem tncPolls_of_expects {p last : XTnc size} {script : List (Option TncRead)}
    (valid : ¬p.fin < 0) (inCrc : last.state = tncEtx) (checked : last.crcRx = last.crcTx)
    (expects : TncExpects last p script) (count : ℕ) :
    (tncPolls count p script).2.reduceOption = [] ∨
      ∃ q, (tncPolls count p script).1 = .ok q ∧ q.fin = p.fin ∧
        (tncPolls count p script).2.length + count ≤ script.length ∧
        TncExpects last q (tncPolls count p script).2 := by
  induction count with
  | zero => exact Or.inr ⟨p, rfl, rfl, le_rfl, expects⟩
  | succ count ih =>
      rw [tncPolls, Polling.calls_succ]
      rw [tncPolls] at ih
      rcases ih with ended | ⟨q, here, fin, used, expectsHere⟩
      · exact Or.inl (tncCall_of_read ended _)
      · rw [here]
        rcases iTncPoll_of_expects (by rwa [fin]) inCrc checked expectsHere with
          ⟨ended, _⟩ | ⟨r, reached, _, finAgain, shorter, expectsThere⟩
        · exact Or.inl ended
        · refine Or.inr ⟨r, ?_, finAgain.trans fin, ?_, expectsThere⟩
          · simp [tncCall, reached, Except.map]
          · simp only [tncCall]
            omega

/-- Of successive polls of `script`, the one that reads the last byte, and no earlier one,
returns `TNC_EOT`, and then the receive buffer starts with `b`. -/
def TncReceives (p : XTnc size) (script : List (Option TncRead)) (b : List UInt8) : Prop :=
  (∃ count, (tncPolls count p script).2.reduceOption = []) ∧
    ∀ count, (tncPolls count p script).2.reduceOption ≠ [] →
      ∃ q, (tncPolls count p script).1 = .ok q ∧
        ∃ code r, (iTncPoll q (tncPolls count p script).2).1 = .ok (code, r) ∧
          (code = tncEot ↔ (iTncPoll q (tncPolls count p script).2).2.reduceOption = []) ∧
          (code = tncEot → r.len = b.length ∧ r.rxbuf.toList.take b.length = b)

end Polls

end Sysio.Radio
