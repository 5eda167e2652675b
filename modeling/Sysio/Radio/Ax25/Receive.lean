import Sysio.Radio.Ax25.Link
import Sysio.Radio.Ax25.Transmit

/-!
# What `bAx25Poll` reports

The line is read as a sequence of HDLC symbols: flags, resets and octets, an escape making
the next byte an octet. Between two flags stands a segment, and a segment is a frame when
it holds no reset, has an admissible length and the right CRC residue.

The controller does not keep the segment. It keeps the octets that came before the first
reset and that fitted into the buffer, and it looks only at these when a flag arrives.
`Ax25Reading` relates the controller to the bytes read so far in these terms;
`ax25Reading_pollByte` is the step lemma and `ax25Reading_calls` the run lemma.
-/

namespace Sysio.Radio

/-- What a byte of the line stands for once escapes are resolved. -/
inductive HdlcSymbol where
  | flag
  | reset
  | octet (c : UInt8)
deriving DecidableEq, Repr

/-- The symbol a byte stands for, `none` for an escape. -/
def hdlcSymbol (escaped : Bool) (c : UInt8) : Option HdlcSymbol :=
  if escaped then some (.octet c)
  else if c = hdlcFlag then some .flag
  else if c = hdlcReset then some .reset
  else if c = ax25Esc then none
  else some (.octet c)

/-- The line ends with an escape that waits for its byte. -/
def hdlcPending (escaped : Bool) (line : List UInt8) : Bool :=
  line.foldl (fun escaped c => !escaped && c == ax25Esc) escaped

/-- The symbols of a line that starts behind an escape or not. -/
def hdlcSymbols (escaped : Bool) : List UInt8 → List HdlcSymbol
  | [] => []
  | c :: rest => (hdlcSymbol escaped c).toList ++ hdlcSymbols (!escaped && c == ax25Esc) rest

/-- What follows the last flag, if there is a flag. -/
def sinceFlag : List HdlcSymbol → Option (List HdlcSymbol)
  | [] => none
  | s :: rest =>
      match sinceFlag rest with
      | some segment => some segment
      | none => if s = .flag then some rest else none

/-- The bytes of the octets of a segment. -/
def octets (segment : List HdlcSymbol) : List UInt8 :=
  segment.filterMap fun s => match s with
    | .octet c => some c
    | _ => none

/-- The bytes of a segment that the controller stores. -/
def keptOctets (segment : List HdlcSymbol) : List UInt8 :=
  (octets (segment.takeWhile (· ≠ .reset))).take ax25FrameBufLen

/-- The segment is complete and undamaged. -/
def IsFrame (segment : List HdlcSymbol) : Prop :=
  .reset ∉ segment ∧ ax25MinFrameLen ≤ (octets segment).length ∧
    (octets segment).length ≤ ax25FrameBufLen ∧
    usCrcCcitt crcCcittInitVal (octets segment) = ax25CrcCorrect

/-- The test that the controller makes on the bytes it has stored. -/
def KeptIsFrame (segment : List HdlcSymbol) : Prop :=
  ax25MinFrameLen ≤ (keptOctets segment).length ∧
    usCrcCcitt crcCcittInitVal (keptOctets segment) = ax25CrcCorrect

/-- The segment was cut short by a reset or does not fit into the buffer. -/
def IsCut (segment : List HdlcSymbol) : Prop :=
  .reset ∈ segment ∨ ax25FrameBufLen < (octets segment).length

/-- `line` ends with an unescaped flag that closes `segment`. -/
def ClosesSegment (line : List UInt8) (segment : List HdlcSymbol) : Prop :=
  ∃ before, line = before ++ [hdlcFlag] ∧ hdlcPending false before = false ∧
    sinceFlag (hdlcSymbols false before) = some segment

/-! ### Symbols, segments and the stored bytes, one byte more -/

theorem hdlcSymbol_eq_none {escaped : Bool} {c : UInt8} :
    hdlcSymbol escaped c = none ↔ escaped = false ∧ c = ax25Esc := by
  cases escaped <;> revert c <;> decide +kernel

theorem hdlcSymbol_eq_flag {escaped : Bool} {c : UInt8} :
    hdlcSymbol escaped c = some .flag ↔ escaped = false ∧ c = hdlcFlag := by
  cases escaped <;> revert c <;> decide +kernel

theorem hdlcSymbol_eq_reset {escaped : Bool} {c : UInt8} :
    hdlcSymbol escaped c = some .reset ↔ escaped = false ∧ c = hdlcReset := by
  cases escaped <;> revert c <;> decide +kernel

theorem eq_of_hdlcSymbol_eq_octet {escaped : Bool} {c d : UInt8}
    (symbol : hdlcSymbol escaped c = some (.octet d)) : d = c := by
  revert symbol
  simp only [hdlcSymbol]
  split_ifs <;> simp [eq_comm]

theorem hdlcPending_append (escaped : Bool) (before : List UInt8) (c : UInt8) :
    hdlcPending escaped (before ++ [c]) = (!hdlcPending escaped before && c == ax25Esc) := by
  simp [hdlcPending]

theorem hdlcSymbols_append (escaped : Bool) (before : List UInt8) (c : UInt8) :
    hdlcSymbols escaped (before ++ [c]) =
      hdlcSymbols escaped before ++ (hdlcSymbol (hdlcPending escaped before) c).toList := by
  induction before generalizing escaped with
  | nil => simp [hdlcSymbols, hdlcPending]
  | cons d rest ih => simp [hdlcSymbols, ih, hdlcPending]

theorem sinceFlag_append_flag (symbols : List HdlcSymbol) :
    sinceFlag (symbols ++ [.flag]) = some [] := by
  induction symbols with
  | nil => rfl
  | cons s rest ih => simp [sinceFlag, ih]

theorem sinceFlag_append_of_ne {s : HdlcSymbol} (notFlag : s ≠ .flag)
    (symbols : List HdlcSymbol) :
    sinceFlag (symbols ++ [s]) = (sinceFlag symbols).map (· ++ [s]) := by
  induction symbols with
  | nil => simp [sinceFlag, notFlag]
  | cons first rest ih =>
      simp only [List.cons_append, sinceFlag, ih]
      cases sinceFlag rest with
      | some segment => rfl
      | none => by_cases isFlag : first = .flag <;> simp [isFlag]

@[simp]
theorem octets_append_octet (segment : List HdlcSymbol) (c : UInt8) :
    octets (segment ++ [.octet c]) = octets segment ++ [c] := by
  simp [octets]

theorem takeWhile_append_of_reset_mem {segment : List HdlcSymbol} (aborted : .reset ∈ segment)
    (s : HdlcSymbol) :
    (segment ++ [s]).takeWhile (· ≠ .reset) = segment.takeWhile (· ≠ .reset) := by
  induction segment with
  | nil => simp at aborted
  | cons first rest ih =>
      by_cases isReset : first = .reset
      · simp [isReset]
      · have later : .reset ∈ rest := by
          rcases List.mem_cons.mp aborted with here | later
          · exact absurd here.symm isReset
          · exact later
        simpa [isReset] using ih later

theorem takeWhile_of_reset_notMem {segment : List HdlcSymbol} (intact : .reset ∉ segment) :
    segment.takeWhile (· ≠ .reset) = segment := by
  apply List.takeWhile_eq_self_iff.mpr
  intro s s_mem
  simp only [ne_eq, decide_not, Bool.not_eq_true', decide_eq_false_iff_not]
  rintro rfl
  exact intact s_mem

theorem keptOctets_append_reset (segment : List HdlcSymbol) :
    keptOctets (segment ++ [.reset]) = keptOctets segment := by
  by_cases aborted : .reset ∈ segment
  · rw [keptOctets, takeWhile_append_of_reset_mem aborted, keptOctets]
  · have intact := takeWhile_of_reset_notMem aborted
    rw [keptOctets, List.takeWhile_append_of_pos (by
      intro s s_mem
      simp only [ne_eq, decide_not, Bool.not_eq_true', decide_eq_false_iff_not]
      rintro rfl
      exact aborted s_mem), keptOctets, intact]
    simp

theorem keptOctets_of_not_isCut {segment : List HdlcSymbol} (whole : ¬IsCut segment) :
    keptOctets segment = octets segment := by
  simp only [IsCut, not_or, not_lt] at whole
  rw [keptOctets, takeWhile_of_reset_notMem whole.1, List.take_of_length_le whole.2]

theorem keptOctets_append_octet {segment : List HdlcSymbol} (intact : .reset ∉ segment)
    (room : (octets segment).length < ax25FrameBufLen) (c : UInt8) :
    keptOctets (segment ++ [.octet c]) = keptOctets segment ++ [c] := by
  rw [keptOctets_of_not_isCut, keptOctets_of_not_isCut, octets_append_octet]
  · simp only [IsCut, not_or, not_lt]
    exact ⟨intact, room.le⟩
  · simp only [IsCut, octets_append_octet, not_or, not_lt, List.length_append,
      List.length_singleton]
    exact ⟨by simpa using intact, room⟩

/-- Once a segment is cut or the buffer is full, nothing more of it is stored. -/
theorem keptOctets_append_of_full {segment : List HdlcSymbol}
    (full : .reset ∈ segment ∨ ax25FrameBufLen ≤ (octets segment).length) (c : UInt8) :
    keptOctets (segment ++ [.octet c]) = keptOctets segment := by
  by_cases aborted : .reset ∈ segment
  · rw [keptOctets, takeWhile_append_of_reset_mem aborted, keptOctets]
  · have long := full.resolve_left aborted
    have intact' : .reset ∉ segment ++ [.octet c] := by simpa using aborted
    rw [keptOctets, takeWhile_of_reset_notMem intact', keptOctets,
      takeWhile_of_reset_notMem aborted, octets_append_octet, List.take_append_of_le_length long]

/-! ### The controller -/

theorem isControl_eq_false {p : XAx25} {c : UInt8}
    (isOctet : hdlcSymbol p.escape c = some (.octet c)) :
    (!p.escape && c == hdlcFlag) = false ∧ (!p.escape && c == hdlcReset) = false ∧
      (!p.escape && c == ax25Esc) = false := by
  revert isOctet
  cases p.escape <;> revert c <;> decide +kernel

theorem ax25PollByte_stored {p : XAx25} {c : UInt8}
    (isOctet : hdlcSymbol p.escape c = some (.octet c)) (sync : p.sync = true)
    (room : p.len < ax25FrameBufLen) :
    ax25PollByte p c =
      { p with
        buf := p.buf.set p.len c
        len := p.len + 1
        crcIn := usCrcCcittUpdate c p.crcIn
        escape := false } := by
  rcases isControl_eq_false isOctet with ⟨notFlag, notReset, notEsc⟩
  simp [ax25PollByte, notFlag, notReset, notEsc, sync, room]

theorem ax25PollByte_overrun {p : XAx25} {c : UInt8}
    (isOctet : hdlcSymbol p.escape c = some (.octet c)) (sync : p.sync = true)
    (full : ¬p.len < ax25FrameBufLen) :
    ax25PollByte p c = { p with sync := false, escape := false } := by
  rcases isControl_eq_false isOctet with ⟨notFlag, notReset, notEsc⟩
  simp [ax25PollByte, notFlag, notReset, notEsc, sync, full]

theorem ax25PollByte_ignored {p : XAx25} {c : UInt8}
    (isOctet : hdlcSymbol p.escape c = some (.octet c)) (idle : p.sync = false) :
    ax25PollByte p c = { p with escape := false } := by
  rcases isControl_eq_false isOctet with ⟨notFlag, notReset, notEsc⟩
  simp [ax25PollByte, notFlag, notReset, notEsc, idle]

theorem ax25PollByte_accepted {p : XAx25} (unescaped : p.escape = false)
    (accepted : p.len ≥ ax25MinFrameLen ∧ p.crcIn = ax25CrcCorrect) :
    ax25PollByte p hdlcFlag = { p with frmRecv := true } := by
  simp [ax25PollByte, unescaped, accepted]

theorem ax25PollByte_opened {p : XAx25} (unescaped : p.escape = false)
    (refused : ¬(p.len ≥ ax25MinFrameLen ∧ p.crcIn = ax25CrcCorrect)) :
    ax25PollByte p hdlcFlag = { p with sync := true, crcIn := crcCcittInitVal, len := 0 } := by
  simp [ax25PollByte, unescaped, refused]

theorem ax25PollByte_reset {p : XAx25} (unescaped : p.escape = false) :
    ax25PollByte p hdlcReset = { p with sync := false } := by
  simp [ax25PollByte, unescaped, hdlcReset, hdlcFlag]

theorem ax25PollByte_escape {p : XAx25} (unescaped : p.escape = false) :
    ax25PollByte p ax25Esc = { p with escape := true } := by
  simp [ax25PollByte, unescaped, ax25Esc, hdlcReset, hdlcFlag]

theorem frmRecv_pollByte_of_ne_flag {p : XAx25} {c : UInt8}
    (notFlag : hdlcSymbol p.escape c ≠ some .flag) :
    (ax25PollByte p c).frmRecv = p.frmRecv := by
  have noFlag : (!p.escape && c == hdlcFlag) = false := by
    rw [ne_eq, hdlcSymbol_eq_flag, not_and] at notFlag
    cases escape : p.escape <;> simp_all
  simp only [ax25PollByte, noFlag, Bool.false_eq_true, if_false]
  split_ifs <;> rfl

/-- The segment under reception, as the controller sees it. -/
structure Ax25Segment (p : XAx25) (segment : List HdlcSymbol) : Prop where
  sync : p.sync = true ↔ ¬IsCut segment
  len : p.len = (keptOctets segment).length
  crcIn : p.crcIn = usCrcCcitt crcCcittInitVal (keptOctets segment)
  buf : p.buf.toList.take p.len = keptOctets segment

/-- The controller after the bytes `line`, none of which closed a frame. -/
structure Ax25Reading (line : List UInt8) (p : XAx25) : Prop where
  frmRecv : p.frmRecv = false
  escape : p.escape = hdlcPending false line
  segment : ∀ segment, sinceFlag (hdlcSymbols false line) = some segment → Ax25Segment p segment
  noSegment : sinceFlag (hdlcSymbols false line) = none → p.sync = false ∧ p.len = 0

theorem ax25Segment_flag {p : XAx25} :
    Ax25Segment { p with sync := true, crcIn := crcCcittInitVal, len := 0 } [] where
  sync := by simp [IsCut, octets]
  len := rfl
  crcIn := rfl
  buf := by simp [keptOctets, octets]

theorem ax25Segment_octet {p : XAx25} {segment : List HdlcSymbol} {c : UInt8}
    (reading : Ax25Segment p segment) (isOctet : hdlcSymbol p.escape c = some (.octet c)) :
    Ax25Segment (ax25PollByte p c) (segment ++ [.octet c]) := by
  rcases reading with ⟨sync, len, crcIn, buf⟩
  by_cases cut : IsCut segment
  · have idle : p.sync = false := by simpa [cut] using sync
    have full : .reset ∈ segment ∨ ax25FrameBufLen ≤ (octets segment).length :=
      cut.imp_right le_of_lt
    have stillCut : IsCut (segment ++ [.octet c]) := by
      rcases cut with aborted | long
      · exact Or.inl (by simp [aborted])
      · exact Or.inr (by simp; omega)
    rw [ax25PollByte_ignored isOctet idle]
    rw [← keptOctets_append_of_full full c] at len crcIn buf
    exact ⟨by simp [idle, stillCut], len, crcIn, buf⟩
  · have active : p.sync = true := sync.mpr cut
    have whole := keptOctets_of_not_isCut cut
    simp only [IsCut, not_or, not_lt] at cut
    by_cases room : (octets segment).length < ax25FrameBufLen
    · have stored := keptOctets_append_octet cut.1 room c
      have fits : p.len < ax25FrameBufLen := by rw [len, whole]; exact room
      have stillWhole : ¬IsCut (segment ++ [.octet c]) := by
        simp only [IsCut, octets_append_octet, not_or, not_lt, List.length_append,
          List.length_singleton]
        exact ⟨by simpa using cut.1, room⟩
      rw [ax25PollByte_stored isOctet active fits]
      refine ⟨by simp [active, stillWhole], ?_, ?_, ?_⟩
      · simp [stored, len]
      · simp [stored, crcIn, usCrcCcitt_append]
      · rw [stored, ← buf]
        exact Vector.take_set_succ p.buf p.len fits c
    · have full : ax25FrameBufLen ≤ (octets segment).length := not_lt.mp room
      have noRoom : ¬p.len < ax25FrameBufLen := by rw [len, whole]; exact room
      have nowCut : IsCut (segment ++ [.octet c]) := Or.inr (by simp; omega)
      rw [ax25PollByte_overrun isOctet active noRoom]
      rw [← keptOctets_append_of_full (Or.inr full) c] at len crcIn buf
      exact ⟨by simp [nowCut], len, crcIn, buf⟩

theorem ax25Segment_reset {p : XAx25} {segment : List HdlcSymbol}
    (reading : Ax25Segment p segment) :
    Ax25Segment { p with sync := false } (segment ++ [.reset]) := by
  rcases reading with ⟨sync, len, crcIn, buf⟩
  have cut : IsCut (segment ++ [.reset]) := Or.inl (by simp)
  rw [← keptOctets_append_reset segment] at len crcIn buf
  exact ⟨by simp [cut], len, crcIn, buf⟩

/-- The controller's test, in the words of the line: what it has stored passes for a frame. -/
theorem frmRecv_flag {line : List UInt8} {p : XAx25} (reading : Ax25Reading line p)
    (unescaped : hdlcPending false line = false) :
    (ax25PollByte p hdlcFlag).frmRecv = true ↔
      ∃ segment, sinceFlag (hdlcSymbols false line) = some segment ∧ KeptIsFrame segment := by
  have escape : p.escape = false := by rw [reading.escape, unescaped]
  by_cases accepted : p.len ≥ ax25MinFrameLen ∧ p.crcIn = ax25CrcCorrect
  · rw [ax25PollByte_accepted escape accepted]
    cases found : sinceFlag (hdlcSymbols false line) with
    | none =>
        have empty := (reading.noSegment found).2
        simp [empty, ax25MinFrameLen] at accepted
    | some segment =>
        have here := reading.segment segment found
        rw [here.len, here.crcIn] at accepted
        simpa [KeptIsFrame] using accepted
  · rw [ax25PollByte_opened escape accepted]
    simp only [reading.frmRecv, Bool.false_eq_true, false_iff, not_exists, not_and]
    intro segment found kept
    have here := reading.segment segment found
    rw [KeptIsFrame, ← here.len, ← here.crcIn] at kept
    exact accepted kept

theorem ax25Reading_symbol {line : List UInt8} {p q : XAx25} (reading : Ax25Reading line p)
    {c : UInt8} {s : HdlcSymbol} (symbol : hdlcSymbol p.escape c = some s) (notFlag : s ≠ .flag)
    (frmRecv : q.frmRecv = false) (escape : q.escape = hdlcPending false (line ++ [c]))
    (segment : ∀ segment, Ax25Segment p segment → Ax25Segment q (segment ++ [s]))
    (idle : p.sync = false → p.len = 0 → q.sync = false ∧ q.len = 0) :
    Ax25Reading (line ++ [c]) q := by
  have symbols : hdlcSymbols false (line ++ [c]) = hdlcSymbols false line ++ [s] := by
    rw [hdlcSymbols_append, ← reading.escape, symbol]
    rfl
  refine ⟨frmRecv, escape, ?_, ?_⟩
  · intro extended found
    rw [symbols, sinceFlag_append_of_ne notFlag] at found
    rcases Option.map_eq_some_iff.mp found with ⟨before, foundBefore, rfl⟩
    exact segment before (reading.segment before foundBefore)
  · intro found
    rw [symbols, sinceFlag_append_of_ne notFlag, Option.map_eq_none_iff] at found
    exact idle (reading.noSegment found).1 (reading.noSegment found).2

/-- One byte more, unless it closes a frame. -/
theorem ax25Reading_pollByte {line : List UInt8} {p : XAx25} (reading : Ax25Reading line p)
    (c : UInt8) (stillOpen : (ax25PollByte p c).frmRecv = false) :
    Ax25Reading (line ++ [c]) (ax25PollByte p c) := by
  have pending := hdlcPending_append false line c
  rw [← reading.escape] at pending
  cases symbol : hdlcSymbol p.escape c with
  | none =>
      rcases hdlcSymbol_eq_none.mp symbol with ⟨unescaped, rfl⟩
      have symbols : hdlcSymbols false (line ++ [ax25Esc]) = hdlcSymbols false line := by
        rw [hdlcSymbols_append, ← reading.escape, symbol]
        simp
      rw [ax25PollByte_escape unescaped]
      refine ⟨reading.frmRecv, by rw [pending, unescaped]; rfl, ?_, ?_⟩
      · intro segment found
        rw [symbols] at found
        rcases reading.segment segment found with ⟨sync, len, crcIn, buf⟩
        exact ⟨sync, len, crcIn, buf⟩
      · intro found
        rw [symbols] at found
        exact reading.noSegment found
  | some s =>
      cases s with
      | flag =>
          rcases hdlcSymbol_eq_flag.mp symbol with ⟨unescaped, rfl⟩
          have refused : ¬(p.len ≥ ax25MinFrameLen ∧ p.crcIn = ax25CrcCorrect) := by
            intro accepted
            rw [ax25PollByte_accepted unescaped accepted] at stillOpen
            simp at stillOpen
          have opened : sinceFlag (hdlcSymbols false (line ++ [hdlcFlag])) = some [] := by
            rw [hdlcSymbols_append, ← reading.escape, symbol]
            exact sinceFlag_append_flag _
          rw [ax25PollByte_opened unescaped refused]
          refine ⟨reading.frmRecv, by rw [pending, unescaped]; rfl, ?_, ?_⟩
          · intro segment found
            rw [opened, Option.some.injEq] at found
            exact found ▸ ax25Segment_flag
          · intro found
            rw [opened] at found
            exact absurd found (by simp)
      | reset =>
          rcases hdlcSymbol_eq_reset.mp symbol with ⟨unescaped, rfl⟩
          rw [ax25PollByte_reset unescaped]
          exact ax25Reading_symbol reading symbol (by simp) reading.frmRecv
            (by rw [pending, unescaped]; rfl)
            (fun segment => ax25Segment_reset) (fun idle len => ⟨rfl, len⟩)
      | octet d =>
          have same := eq_of_hdlcSymbol_eq_octet symbol
          subst same
          have pendingNow : hdlcPending false (line ++ [d]) = false := by
            rw [pending]
            exact (isControl_eq_false symbol).2.2
          have unchanged : (ax25PollByte p d).escape = false := by
            by_cases active : p.sync = true
            · by_cases room : p.len < ax25FrameBufLen
              · rw [ax25PollByte_stored symbol active room]
              · rw [ax25PollByte_overrun symbol active room]
            · rw [ax25PollByte_ignored symbol (by simpa using active)]
          refine ax25Reading_symbol reading symbol (by simp) stillOpen
            (by rw [unchanged, pendingNow]) (fun segment here => ax25Segment_octet here symbol) ?_
          intro idle len
          rw [ax25PollByte_ignored symbol idle]
          exact ⟨idle, len⟩

/-- A controller that reads from `fd`. -/
def ax25Opened (fd : ℤ) : XAx25 := { iAx25Clear with fin := fd }

theorem ax25Reading_opened (fd : ℤ) : Ax25Reading [] (ax25Opened fd) where
  frmRecv := rfl
  escape := rfl
  segment := by intro segment found; simp [hdlcSymbols, sinceFlag] at found
  noSegment := by intro _; exact ⟨rfl, rfl⟩

/-! ### Runs of polls -/

/-- The bytes of the reads, those that find nothing left out. -/
abbrev scriptBytes (script : List (Option UInt8)) : List UInt8 := script.reduceOption

/-- The controller and the reads not made after `count` polls. -/
def ax25Polls (count : ℕ) (p : XAx25) (script : List (Option UInt8)) :
    XAx25 × List (Option UInt8) :=
  Polling.calls (fun p script => (bAx25Poll p script).2) count p script

/-- `q` is `p` after the bytes `line`, read while no frame was waiting. -/
def Ax25Read (p : XAx25) (line : List UInt8) (q : XAx25) : Prop :=
  q = line.foldl ax25PollByte p ∧
    ∀ before c after, line = before ++ c :: after →
      (before.foldl ax25PollByte p).frmRecv = false

theorem fin_foldl_pollByte (line : List UInt8) (p : XAx25) :
    (line.foldl ax25PollByte p).fin = p.fin := by
  induction line generalizing p with
  | nil => rfl
  | cons c rest ih =>
      rw [List.foldl_cons, ih]
      simp only [ax25PollByte]
      split_ifs <;> rfl

theorem Ax25Read.append {p q r : XAx25} {before after : List UInt8}
    (first : Ax25Read p before q) (second : Ax25Read q after r) :
    Ax25Read p (before ++ after) r := by
  rcases first with ⟨rfl, quietBefore⟩
  rcases second with ⟨rfl, quietAfter⟩
  refine ⟨(List.foldl_append ..).symm, ?_⟩
  intro left c right split
  rcases List.append_eq_append_iff.mp split with ⟨more, leftEq, afterEq⟩ | ⟨more, beforeEq, restEq⟩
  · rw [leftEq, List.foldl_append]
    exact quietAfter more c right afterEq
  · rcases more with _ | ⟨d, more⟩
    · rw [List.append_nil] at beforeEq
      rw [List.nil_append] at restEq
      simpa [beforeEq] using quietAfter [] c right restEq.symm
    · simp only [List.cons_append, List.cons.injEq] at restEq
      rcases restEq with ⟨rfl, _⟩
      exact quietBefore left c more beforeEq

theorem ax25Read_poll (p : XAx25) (script : List (Option UInt8)) :
    ∃ line, scriptBytes script = line ++ scriptBytes (bAx25Poll p script).2.2 ∧
      Ax25Read p line (bAx25Poll p script).2.1 := by
  by_cases closed : p.fin = 0
  · exact ⟨[], by simp [bAx25Poll, closed], by simp [bAx25Poll, closed], by simp⟩
  by_cases waiting : p.frmRecv = true
  · exact ⟨[], by simp [bAx25Poll, closed, waiting], by simp [bAx25Poll, closed, waiting], by simp⟩
  rcases Polling.exists_prefix_drain ax25PollStep p script with ⟨line, bytes, reached, quiet⟩
  have poll : (bAx25Poll p script).2 = Polling.drain ax25PollStep p script := by
    simp [bAx25Poll, closed, waiting]
  rw [poll]
  refine ⟨line, bytes, reached, ?_⟩
  intro before c after split
  rcases List.eq_nil_or_concat before with rfl | ⟨earlier, d, rfl⟩
  · simpa using waiting
  · have notStopped := quiet earlier d (c :: after) (by simp [split]) (by simp)
    rw [List.concat_eq_append, List.foldl_append]
    exact notStopped

theorem ax25Read_polls (count : ℕ) (p : XAx25) (script : List (Option UInt8)) :
    ∃ line, scriptBytes script = line ++ scriptBytes (ax25Polls count p script).2 ∧
      Ax25Read p line (ax25Polls count p script).1 := by
  refine Polling.exists_prefix_calls (Ax25Read p) ⟨rfl, by simp⟩ ?_ count
  intro consumed q rest read _
  rcases ax25Read_poll q rest with ⟨line, bytes, more⟩
  exact ⟨line, bytes, read.append more⟩

/-- As long as no frame is reported, the controller follows the line. -/
theorem ax25Reading_of_read {fd : ℤ} {line : List UInt8} {p : XAx25}
    (read : Ax25Read (ax25Opened fd) line p) (open_ : p.frmRecv = false) :
    Ax25Reading line p := by
  rcases read with ⟨rfl, quiet⟩
  induction line using List.reverseRecOn with
  | nil => exact ax25Reading_opened fd
  | append_singleton before c ih =>
      have here := ih (fun left d right split => quiet left d (right ++ [c]) (by simp [split]))
        (quiet before c [] rfl)
      rw [List.foldl_append] at open_ ⊢
      exact ax25Reading_pollByte here c open_

end Sysio.Radio
