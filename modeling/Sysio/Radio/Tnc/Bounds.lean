import Sysio.Radio.Tnc.Acceptance

/-!
# The receive buffer of the controller

`xTncNew` is given the size of the receive buffer, and `iTncPoll` never looks at it again. Nothing
is written behind the buffer, and messages that fit are received, as long as the line has no text
longer than the buffer (`tncSafe_iff`); such a text is not rejected, it is written on.
-/

namespace Sysio.Radio

variable {size : ℕ}

/-- A controller behind `iTncClear`; `rxbuf` is what `malloc` returned. -/
def xTncNew (rxbuf : Vector UInt8 size) : XTnc size where
  fin := -1
  fout := -1
  rxbuf := rxbuf
  len := 0
  crcRx := crcCcittInitVal
  crcTx := 0
  state := 0
  cnt := 0
  msb := 0

/-- `fd` is the descriptor that `prvxOpenFile` returns, -1 if it is not open for reading. -/
def iTncSetFdin (p : XTnc size) (fd : ℤ) : XTnc size := { p with fin := fd, state := 0 }

/-- The `count`-th poll leaves the controller `r`, its result is `code`, and what was read up to
its end is `line`. -/
def TncPollGives (p : XTnc size) (script : List (Option UInt8)) (count : ℕ) (line : List UInt8)
    (code : ℤ) (r : XTnc size) : Prop :=
  ∃ q, (tncPolls count p (tncReads script)).1 = .ok q ∧
    (iTncPoll q (tncPolls count p (tncReads script)).2).1 = .ok (code, r) ∧
    tncReadBytes (count + 1) p script = line

/-- Bytes are stored inside the buffer, a message longer than the buffer makes a poll return an
error, and a message that fits is received. -/
structure TncSafe (p : XTnc size) (script : List (Option UInt8)) : Prop where
  stored : ∀ count, ∃ q, (tncPolls count p (tncReads script)).1 = .ok q ∧ q.len ≤ size
  rejected : ∀ before message text, before ++ 1 :: message <+: script.reduceOption →
    1 ∉ message → TncSends (before ++ 1 :: message) text → size < text.length →
      ∃ count line code r, TncPollGives p script count line code r ∧ code < 0 ∧
        before.length < line.length ∧ line <+: before ++ 1 :: message
  received : ∀ line text, line <+: script.reduceOption → TncSends line text →
    text.length ≤ size → ∃ count r, TncPollGives p script count line tncEot r ∧
      r.len = text.length ∧ r.rxbuf.toList.take r.len = text

/-! ### The length -/

theorem len_pollDigit {p q : XTnc size} {c : UInt8} (read : tncPollDigit p c = .ok q)
    (inside : p.len ≤ size) : q.len ≤ size := by
  simp only [tncPollDigit] at read
  split_ifs at read with _ _ room
  all_goals cases read
  · exact room
  all_goals exact inside

theorem len_pollByte {p q : XTnc size} {c : UInt8} {returns : Bool}
    (read : tncPollByte p c = .ok (q, returns)) (inside : p.len ≤ size) : q.len ≤ size := by
  by_cases digit : CChar.isxdigit c = true
  · rw [tncPollByte_digit p digit] at read
    rcases digitRead : tncPollDigit p c with fault | r
    · rw [digitRead] at read
      cases read
    · simp only [digitRead, Except.map, Except.ok.injEq, Prod.mk.injEq] at read
      rcases read with ⟨rfl, rfl⟩
      exact len_pollDigit digitRead inside
  · rw [tncPollByte] at read
    split_ifs at read
    all_goals first
      | contradiction
      | cases read
    · exact Nat.zero_le size
    all_goals exact inside

/-- As far as the controller still runs, its length is that of a part of the buffer. -/
def TncInside (current : Except Fault (XTnc size)) : Prop := ∀ q, current = .ok q → q.len ≤ size

theorem inside_pollStep (current : Except Fault (XTnc size)) (read : TncRead)
    (inside : TncInside current) : TncInside (tncPollStep current read).1 := by
  intro q reached
  cases current with
  | error fault => cases reached
  | ok p =>
      cases read with
      | ioError =>
          cases reached
          exact inside p rfl
      | byte c =>
          rcases byteRead : tncPollByte p c with fault | ⟨r, returns⟩
          · simp only [tncPollStep, byteRead] at reached
            cases reached
          · simp only [tncPollStep, byteRead] at reached
            cases reached
            exact len_pollByte byteRead (inside p rfl)

theorem len_pollEntry (p : XTnc size) : (tncPollEntry p).len = p.len := by
  simp only [tncPollEntry]
  split_ifs <;> rfl

theorem inside_call (current : Except Fault (XTnc size)) (script : List (Option TncRead))
    (inside : TncInside current) : TncInside (tncCall current script).1 := by
  cases current with
  | error fault => exact inside
  | ok p =>
      have entry : TncInside (.ok (tncPollEntry p)) := by
        rintro q ⟨⟩
        rw [len_pollEntry]
        exact inside p rfl
      intro q reached
      simp only [tncCall, iTncPoll] at reached
      split_ifs at reached
      · cases reached
        exact entry (tncPollEntry p) rfl
      · have drained := Polling.drain_invariant inside_pollStep entry script
        rcases last : (Polling.drain tncPollStep (.ok (tncPollEntry p)) script).1 with fault | r
        · rw [last] at reached
          cases reached
        · rw [last] at reached
          cases reached
          exact drained _ last

theorem inside_polls {p : XTnc size} (inside : p.len ≤ size) (script : List (Option TncRead))
    (count : ℕ) : TncInside (tncPolls count p script).1 := by
  apply Polling.calls_invariant inside_call
  rintro q ⟨⟩
  exact inside

/-! ### The condition -/

section

variable {p : XTnc size} {script : List (Option UInt8)}

theorem room_of_safe (valid : ¬p.fin < 0) (outside : p.state = 0) (safe : TncSafe p script) :
    TncRoom size script.reduceOption := by
  rw [tncRoom_iff]
  rcases exists_ran valid outside script.length with ⟨line, left, q, ran⟩ | ⟨_, _, failed, _⟩
  · have whole : script.reduceOption = line := by
      rw [ran.bytes, left_eq_nil valid ran, List.append_nil]
    rw [whole]
    exact ran.followed.fits
  · rcases safe.stored script.length with ⟨q, reached, _⟩
    rw [failed] at reached
    cases reached

/-- With room for every text, a message is reported with its text in the buffer. -/
theorem exists_received_of_room (valid : ¬p.fin < 0) (outside : p.state = 0)
    (room : TncRoom size script.reduceOption) {line text : List UInt8}
    (isPrefix : line <+: script.reduceOption) (sends : TncSends line text) :
    ∃ count r, TncPollGives p script count line tncEot r ∧
      r.len = text.length ∧ r.rxbuf.toList.take r.len = text := by
  rw [tncRoom_iff] at room
  rcases exists_accepts_of_sends sends with ⟨digits, accepts, _, rfl⟩
  rcases exists_ran valid outside script.length with
    ⟨all, left, q, ran⟩ | ⟨_, upTo, _, isPrefixToo, full⟩
  · have whole : script.reduceOption = all := by
      rw [ran.bytes, left_eq_nil valid ran, List.append_nil]
    rw [whole] at isPrefix
    rcases ran.followed.accepted line digits isPrefix accepts with
      ⟨count, _, before, r, reached, polled, read⟩
    rcases exists_ran valid outside count with ⟨done, unread, here, ranHere⟩ | ⟨_, _, failed, _⟩
    · cases reached.symm.trans ranHere.reached
      rcases ranHere.poll valid with
        ⟨more, rest, s, rfl, polledToo, one, next⟩ | ⟨_, upTo, _, isPrefixToo, full⟩
      · rw [polled, Except.ok.injEq, Prod.mk.injEq] at polledToo
        rcases polledToo with ⟨eot, rfl⟩
        have line_eq := tncReadBytes_eq next.bytes next.unread
        rw [read] at line_eq
        subst line_eq
        have decoded := one.decoded eot.symm digits accepts
        refine ⟨count, r, ⟨before, reached, polled, read⟩, ?_, decoded.rxbuf⟩
        rw [decoded.len, length_tncDecode]
      · exact absurd (room upTo isPrefixToo) full
    · rw [failed] at reached
      cases reached
  · exact absurd (room upTo isPrefixToo) full

/-- A text that is sent on a line with room for every text fits in the buffer. -/
theorem length_le_of_room (room : TncRoom size script.reduceOption) {line text : List UInt8}
    (isPrefix : line <+: script.reduceOption) (sends : TncSends line text) :
    text.length ≤ size := by
  rcases sends with ⟨before, digits, received, rfl, hexDigits, hexReceived, _, _, _, rfl⟩
  rw [length_tncDecode]
  have beginning : before ++ 1 :: 2 :: digits <+: script.reduceOption := by
    refine List.IsPrefix.trans ⟨3 :: received ++ [4], ?_⟩ isPrefix
    simp
  have heard : (2 :: digits).filter tncHears = 2 :: digits := by
    apply List.filter_eq_self.mpr
    intro c c_mem
    exact (forall_hears_message hexDigits hexReceived c (List.mem_append_left _ c_mem)).1
  refine room before (2 :: digits) digits beginning ?_ heard hexDigits
  intro soh
  exact not_mem_message hexDigits hexReceived (List.mem_append_left _ soh)

/-- The receive buffer is kept to, and messages are received or rejected, if and only if the line
has no text for which there is no room. -/
theorem tncSafe_iff (rxbuf : Vector UInt8 size) {fd : ℤ} (valid : 0 ≤ fd)
    (script : List (Option UInt8)) :
    TncSafe (iTncSetFdin (xTncNew rxbuf) fd) script ↔ TncRoom size script.reduceOption := by
  have listening : ¬(iTncSetFdin (xTncNew rxbuf) fd).fin < 0 := not_lt.mpr valid
  constructor
  · exact room_of_safe listening rfl
  · intro room
    constructor
    · intro count
      have inside := @inside_polls _ (iTncSetFdin (xTncNew rxbuf) fd) (Nat.zero_le size)
        (tncReads script) count
      rcases exists_ran listening rfl count with ⟨_, _, q, ran⟩ | ⟨_, upTo, _, isPrefix, full⟩
      · exact ⟨q, ran.reached, inside q ran.reached⟩
      · rw [tncRoom_iff] at room
        exact absurd (room upTo isPrefix) full
    · intro before message text isPrefix _ sends long
      have short := length_le_of_room room isPrefix sends
      omega
    · intro line text isPrefix sends _
      exact exists_received_of_room listening rfl room isPrefix sends

/-- A message of two bytes, read in three polls, and a buffer of two bytes. -/
theorem tncSafe_iff_two :
    TncSafe (iTncSetFdin (xTncNew (Vector.replicate 2 0)) 3)
        [some 1, some 2, some 0x41, none, some 0x39, some 3, none, some 0x30] ↔
      TncRoom 2 [1, 2, 0x41, 0x39, 3, 0x30] :=
  tncSafe_iff (Vector.replicate 2 0) (by decide)
    [some 1, some 2, some 0x41, none, some 0x39, some 3, none, some 0x30]

/-- Two bytes of text in a buffer of one byte: the second is written behind it. -/
theorem not_tncSafe_two :
    ¬TncSafe (iTncSetFdin (xTncNew (Vector.replicate 1 0)) 3)
      [some 1, some 2, some 0x34, some 0x31, some 0x34, some 0x32] := by
  intro safe
  rcases safe.stored 1 with ⟨q, reached, _⟩
  have faults : ((tncPolls 1 (iTncSetFdin (xTncNew (Vector.replicate 1 0)) 3)
      (tncReads [some 1, some 2, some 0x34, some 0x31, some 0x34, some 0x32])).1.map
        XTnc.len) = .error .outOfBounds := by decide +kernel
  rw [reached] at faults
  cases faults

end

end Sysio.Radio
