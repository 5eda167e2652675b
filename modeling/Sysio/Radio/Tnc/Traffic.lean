import Sysio.Lib.Framing
import Sysio.Lib.Stations
import Sysio.Radio.Tnc.Bounds

/-!
# Two terminal node controllers

Two controllers are at the ends of a line, each writing messages and polling for those of the other,
in any interleaving. A poll finds as many of the bytes on the line as have come so far, and the
application takes the message when the poll returns `TNC_EOT`. Writes may be short, and there may be
bytes between the messages that something else has written. The outputs are no terminals (those of
`radio/test/tnc/pipe` are pipes): `tcflush` discards nothing there.

No poll writes behind the receive buffer, and each station receives the messages that the other has
written, once each and in their order.
-/

namespace Sysio.Radio

open Polling Stations

/-! ### The stations -/

/-- A controller with the size of its receive buffer, and the messages that its application has
received. -/
structure TncEnd where
  size : ℕ
  p : XTnc size
  messages : List (List UInt8)

/-- A controller at its end of the line. -/
abbrev TncStation := Station TncEnd TncRead

/-- What happens at a station. -/
inductive TncEvent where
  /-- `iTncWrite`, with the results of its calls of `write`. -/
  | write (b : List UInt8) (writes : List ℤ)
  /-- Something else writes these bytes to the output of this station. -/
  | noise (bytes : List UInt8)
  | poll (count : ℕ)

namespace TncStation

/-- The failure is `none` for a loop of `iTncWrite` that needs more turns than it is given. -/
def write (station : TncStation) (b : List UInt8) (writes : List ℤ) :
    Except (Option Fault) (TncStation × List TncRead) :=
  match iTncWrite station.state.p b writes with
  | some (_, p, line) => .ok ({ station with state.p := p }, line.map .byte)
  | none => .error none

/-- `iTncPoll` finds `count` bytes on the line, or all if there are fewer. -/
def poll (station : TncStation) (count : ℕ) : Except (Option Fault) (TncStation) :=
  let polled := iTncPoll station.state.p ((station.flight.take count).map some)
  match polled.1 with
  | .ok (code, p) =>
      let messages := station.state.messages
      .ok {
        state := ⟨station.state.size, p,
          if code = tncEot then messages ++ [p.rxbuf.toList.take p.len] else messages⟩
        flight := polled.2.reduceOption ++ station.flight.drop count }
  | .error fault => .error (some fault)

end TncStation

/-- What an event makes of a station, and what it puts on the line. -/
def tncAct (station : TncStation) :
    TncEvent → Except (Option Fault) (TncStation × List TncRead)
  | .write b writes => station.write b writes
  | .noise bytes => .ok (station, bytes.map .byte)
  | .poll count => (station.poll count).map (·, [])

/-- Both stations before anything is written, each with its descriptors and its buffer. -/
def tncStations {size : Bool → ℕ} (fin fout : Bool → ℤ)
    (rxbuf : (side : Bool) → Vector UInt8 (size side)) (side : Bool) : TncStation where
  state := ⟨size side,
    { iTncSetFdin (xTncNew (rxbuf side)) (fin side) with fout := fout side }, []⟩
  flight := []

variable {size : ℕ}

/-! ### Messages on a line -/

namespace TncPhase

/-- The digits of the CRC are being received. -/
def InCrc : TncPhase → Prop
  | .crc _ _ => True
  | _ => False

instance : DecidablePred InCrc
  | .crc _ _ => isTrue trivial
  | .idle | .begun | .text _ => isFalse id

instance : DecidablePred (Fits size)
  | .text digits => inferInstanceAs (Decidable (digits.length / 2 ≤ size))
  | .idle | .begun | .crc _ _ => isTrue trivial

/-- Behind a line that has come to the phase, noise that neither ends what may be a message nor has
a text for which there is no room. -/
def Quiet (size : ℕ) (phase : TncPhase) : List UInt8 → Prop
  | [] => True
  | c :: rest => ¬(c = 4 ∧ phase.InCrc) ∧ (phase.hear c).Fits size ∧ (phase.hear c).Quiet size rest

instance quietDecidable (phase : TncPhase) : DecidablePred (phase.Quiet size)
  | [] => isTrue trivial
  | c :: rest =>
      have := quietDecidable (phase.hear c) rest
      inferInstanceAs (Decidable (_ ∧ _ ∧ _))

end TncPhase

section Noise

variable {phase : TncPhase} {noise more : List UInt8} {p q : XTnc size} {c : UInt8}

/-- Only an `EOT` behind a CRC makes a poll return at once. -/
theorem TncReading.inCrc_of_returns (reading : TncReading phase p) (notEot : p.state ≠ tncEot)
    (read : tncPollByte p c = .ok (q, true)) : c = 4 ∧ phase.InCrc := by
  by_cases eot : c = 4
  · refine ⟨eot, ?_⟩
    rw [eot, tncPollByte_eot] at read
    by_cases state : p.state = tncEtx
    · by_contra elsewhere
      apply reading.state_ne.2.2 _ state
      rintro digits received rfl
      exact elsewhere trivial
    · rw [if_neg state] at read
      cases read
  · by_cases digit : CChar.isxdigit c = true
    · rw [tncPollByte_digit p digit] at read
      cases stored : tncPollDigit p c with
      | error fault => simp [stored, Except.map] at read
      | ok r => simp [stored, Except.map] at read
    · rcases reading.pollControl notEot digit eot with ⟨-, r, passed, -⟩
      rw [passed] at read
      cases read

theorem TncReading.passes_of_quiet (reading : TncReading (tncPhase noise) p)
    (notEot : p.state ≠ tncEot) (quiet : (tncPhase noise).Quiet size more) :
    ∃ q, TncPasses p more q ∧ q.state ≠ tncEot ∧ TncReading (tncPhase (noise ++ more)) q := by
  induction more generalizing noise p with
  | nil =>
      rw [List.append_nil]
      exact ⟨p, .nil _, notEot, reading⟩
  | cons c rest ih =>
      rcases quiet with ⟨notEnd, fits, quiet⟩
      rw [← tncPhase_concat] at fits quiet
      rcases reading.pollByte notEot c with
        ⟨-, q, returns, read, readingAfter, stops, -⟩ | ⟨full, -⟩
      · have goesOn : returns = false := by
          rw [← Bool.not_eq_true]
          rintro rfl
          exact notEnd (reading.inCrc_of_returns notEot read)
        have notEotAfter : q.state ≠ tncEot := by
          intro isEot
          rcases stops.mp isEot with ⟨digits, before, received, split, behind, -⟩
          rcases List.append_inj' split rfl with ⟨rfl, isEnd⟩
          apply notEnd
          rw [behind]
          exact ⟨List.head_eq_of_cons_eq isEnd, trivial⟩
        rcases ih readingAfter notEotAfter quiet with ⟨last, passes, notEotLast, readingLast⟩
        rw [List.append_assoc] at readingLast
        rw [goesOn] at read
        exact ⟨last, (TncPasses.byte read notEotAfter).append passes, notEotLast, readingLast⟩
      · exact absurd fits full

end Noise

/-- The receiver has read nothing but noise since it was last outside any message. -/
def TncIdle (noise : List TncRead) (state : Except Fault (XTnc size)) : Prop :=
  ∃ p bytes, state = .ok p ∧ noise = bytes.map .byte ∧ p.state ≠ tncEot ∧
    TncReading (tncPhase bytes) p

theorem tncIdle_nil {p : XTnc size} (outside : p.state = 0) : TncIdle [] (.ok p) := by
  refine ⟨p, [], rfl, rfl, ?_, .outside outside⟩
  rw [outside]
  decide

/-- Messages that fit in the receive buffer. -/
def tncFraming (size : ℕ) :
    Framing (Except Fault (XTnc size)) TncRead {b : List UInt8 // b.length ≤ size} where
  step := tncPollStep
  wire b := (tncLine b.1).map .byte
  Open state := ∃ p, state = .ok p ∧ p.state ≠ tncEot
  Idle := TncIdle
  Quiet noise more := ∃ bytes added, noise = bytes.map TncRead.byte ∧
    more = added.map TncRead.byte ∧ (tncPhase bytes).Quiet size added
  Holds b state := ∃ p, state = .ok p ∧ p.state = tncEot ∧ p.rxbuf.toList.take p.len = b.1
  stays state input isOpen goesOn := by
    rcases isOpen with ⟨p, rfl, notEot⟩
    rcases exists_ok_of_passes (.cons goesOn (.nil _)) rfl notEot with ⟨q, reached, -, notEotAfter⟩
    exact ⟨q, reached, notEotAfter⟩
  isOpen idle := by
    rcases idle with ⟨p, bytes, reached, -, notEot, -⟩
    exact ⟨p, reached, notEot⟩
  passes idle quiet := by
    rcases idle with ⟨p, bytes, rfl, rfl, notEot, reading⟩
    rcases quiet with ⟨same, added, bytes_eq, rfl, quiet⟩
    have byte_injective : Function.Injective TncRead.byte := fun c d => TncRead.byte.inj
    rw [← byte_injective.list_map bytes_eq] at quiet
    rcases reading.passes_of_quiet notEot quiet with ⟨q, passes, notEotAfter, readingAfter⟩
    exact ⟨_, passes, q, bytes ++ added, rfl, List.map_append.symm, notEotAfter, readingAfter⟩
  completes b noise state idle := by
    rcases idle with ⟨p, bytes, rfl, -, -, -⟩
    rcases tncPasses_message p b.1 b.2 with ⟨q, passes, -, inCrc, checked, -, rxbuf⟩
    have eot := tncPollStep_eot inCrc checked
    have wire : (tncLine b.1).map TncRead.byte = (tncMessage b.1).map .byte ++ [.byte 4] :=
      List.map_append
    refine ⟨_, _, .byte 4, wire, passes, ?_, ?_⟩ <;> rw [eot]
    exact ⟨_, rfl, rfl, rxbuf⟩

/-! ### What is sent -/

/-- What a station has sent to a receive buffer of this size: the messages, and what is on the line
behind the last of them. -/
structure TncSent where
  size : ℕ
  messages : List (List UInt8)
  noise : List UInt8

/-- The messages fit in the receive buffer of the other station and no `write` fails. -/
inductive TncExtends (sent : TncSent) : TncEvent → TncSent → Prop where
  | message {b : List UInt8} {writes : List ℤ} (room : b.length ≤ sent.size)
      (noError : ∀ i ∈ writes, 0 ≤ i) :
      TncExtends sent (.write b writes) ⟨sent.size, sent.messages ++ [b], []⟩
  | noise {bytes : List UInt8} (quiet : (tncPhase sent.noise).Quiet sent.size bytes) :
      TncExtends sent (.noise bytes) ⟨sent.size, sent.messages, sent.noise ++ bytes⟩
  | poll (count : ℕ) : TncExtends sent (.poll count) sent

/-! ### What every event keeps -/

/-- The station has received what it has been sent, apart from what is on the line. -/
structure TncAttends (station : TncStation) (heard : TncSent) : Prop where
  sized : station.state.size = heard.size
  opened : 0 ≤ station.state.p.fin ∧ 0 ≤ station.state.p.fout
  inOrder : ∃ pending : List {b : List UInt8 // b.length ≤ station.state.size},
    station.state.messages ++ pending.map Subtype.val = heard.messages ∧
      (tncFraming station.state.size).Follows (.ok (tncPollEntry station.state.p)) station.flight
        pending (heard.noise.map .byte)

section Station

variable {station : TncStation} {heard : TncSent}

theorem TncAttends.noise (attends : TncAttends station heard) {bytes : List UInt8}
    (quiet : (tncPhase heard.noise).Quiet heard.size bytes) :
    TncAttends (station.hears (bytes.map .byte))
      ⟨heard.size, heard.messages, heard.noise ++ bytes⟩ := by
  rcases attends with ⟨sized, opened, pending, inOrder, follows⟩
  refine ⟨sized, opened, pending, inOrder, ?_⟩
  rw [List.map_append]
  rw [← sized] at quiet
  exact follows.noise ⟨_, _, rfl, rfl, quiet⟩

theorem TncAttends.message (attends : TncAttends station heard) {b : List UInt8}
    (room : b.length ≤ heard.size) :
    TncAttends (station.hears ((tncLine b).map .byte))
      ⟨heard.size, heard.messages ++ [b], []⟩ := by
  rcases attends with ⟨sized, opened, pending, inOrder, follows⟩
  rw [← sized] at room
  refine ⟨sized, opened, pending ++ [⟨b, room⟩], ?_, ?_⟩
  · let last : {b : List UInt8 // b.length ≤ station.state.size} := ⟨b, room⟩
    change station.state.messages ++ (pending ++ [last]).map Subtype.val = heard.messages ++ [b]
    rw [List.map_append, ← List.append_assoc]
    exact congrArg (· ++ [b]) inOrder
  · exact follows.message ⟨b, room⟩

theorem fout_pollEntry (p : XTnc size) : (tncPollEntry p).fout = p.fout := by
  rw [tncPollEntry]
  split_ifs <;> rfl

theorem fds_drain {p q : XTnc size} {script : List (Option TncRead)}
    (reached : (drain tncPollStep (.ok p) script).1 = .ok q) :
    q.fin = p.fin ∧ q.fout = p.fout := by
  let same : Except Fault (XTnc size) → Prop :=
    fun state => ∀ q, state = .ok q → q.fin = p.fin ∧ q.fout = p.fout
  have keeps : ∀ state input, same state → same (tncPollStep state input).1 := by
    rintro (fault | r) (c | _) isSame q after
    · cases after
    · cases after
    · cases read : tncPollByte r c with
      | error fault => simp [tncPollStep, read] at after
      | ok result =>
          rcases result with ⟨t, returns⟩
          simp only [tncPollStep, read, Except.ok.injEq] at after
          rcases fds_pollByte read with ⟨fin, fout⟩
          rw [← after, fin, fout]
          exact isSame r rfl
    · cases after
      exact isSame r rfl
  have start : same (.ok p) := by
    rintro q ⟨⟩
    exact ⟨rfl, rfl⟩
  exact drain_invariant keeps start script q reached

/-- The station behind a poll that leaves the controller `q` and `left` of its reads. -/
def TncStation.behind (station : TncStation) (count : ℕ) (q : XTnc station.state.size)
    (left : List (Option TncRead)) : TncStation where
  state.size := station.state.size
  state.p := q
  state.messages := if q.state = tncEot then
      station.state.messages ++ [q.rxbuf.toList.take q.len]
    else station.state.messages
  flight := left.reduceOption ++ station.flight.drop count

theorem TncStation.poll_eq (valid : 0 ≤ station.state.p.fin) {count : ℕ}
    {q : XTnc station.state.size} {left : List (Option TncRead)}
    (read : drain tncPollStep (.ok (tncPollEntry station.state.p))
      ((station.flight.take count).map some) = (.ok q, left)) :
    station.poll count = .ok (station.behind count q left) := by
  rw [poll, iTncPoll_eq (not_lt.mpr valid), read]
  rfl

theorem TncStation.exists_of_poll (valid : 0 ≤ station.state.p.fin) {count : ℕ}
    {next : TncStation} (polled : station.poll count = .ok next) :
    ∃ q left, drain tncPollStep (.ok (tncPollEntry station.state.p))
        ((station.flight.take count).map some) = (.ok q, left) ∧
      next = station.behind count q left := by
  rcases reached : drain tncPollStep (.ok (tncPollEntry station.state.p))
    ((station.flight.take count).map some) with ⟨result, left⟩
  cases result with
  | error fault =>
      rw [poll, iTncPoll_eq (not_lt.mpr valid), reached] at polled
      cases polled
  | ok q => exact ⟨q, left, rfl, Except.ok.inj (polled.symm.trans (poll_eq valid reached))⟩

theorem TncStation.length_messages_behind (count : ℕ) (q : XTnc station.state.size)
    (left : List (Option TncRead)) :
    (station.behind count q left).state.messages.length =
      station.state.messages.length + if q.state = tncEot then 1 else 0 := by
  rw [behind]
  dsimp only
  split_ifs
  · rw [List.length_append, List.length_singleton]
  · rfl

theorem TncAttends.polls (attends : TncAttends station heard) (count : ℕ) :
    ∃ next, station.poll count = .ok next ∧ TncAttends next heard := by
  rcases attends with ⟨sized, opened, pending, inOrder, follows⟩
  have split : ((station.flight.take count).map some).reduceOption ++ station.flight.drop count =
      station.flight := by
    rw [reduceOption_map_some, List.take_append_drop]
  have step : (tncFraming station.state.size).step = tncPollStep := rfl
  have read := follows.drain split
  rw [step] at read
  rcases reached : drain tncPollStep (.ok (tncPollEntry station.state.p))
    ((station.flight.take count).map some) with ⟨result, left⟩
  rw [reached] at read
  have openedAfter : ∀ q, result = .ok q → 0 ≤ q.fin ∧ 0 ≤ q.fout := by
    rintro q rfl
    rcases fds_drain (congrArg Prod.fst reached) with ⟨fin, fout⟩
    rw [fin, fout, fin_pollEntry, fout_pollEntry]
    exact opened
  rcases read with ⟨m, later, rfl, ⟨q, rfl, eot, stored⟩, written⟩ | further
  · refine ⟨_, TncStation.poll_eq opened.1 reached, sized, openedAfter q rfl, later, ?_, ?_⟩
    · change (if q.state = tncEot then _ else _) ++ later.map Subtype.val = heard.messages
      rw [if_pos eot, stored, List.append_assoc]
      exact inOrder
    · have forgotten : tncPollEntry q = { q with state := 0 } := if_pos eot
      change (tncFraming station.state.size).Follows (.ok (tncPollEntry q))
        (left.reduceOption ++ station.flight.drop count) later (heard.noise.map .byte)
      rw [forgotten]
      exact written.follows (tncIdle_nil rfl)
  · rcases further.isOpen with ⟨q, rfl, notEot⟩
    refine ⟨_, TncStation.poll_eq opened.1 reached, sized, openedAfter q rfl, pending, ?_, ?_⟩
    · change (if q.state = tncEot then _ else _) ++ pending.map Subtype.val = heard.messages
      rw [if_neg notEot]
      exact inOrder
    · change (tncFraming station.state.size).Follows (.ok (tncPollEntry q))
        (left.reduceOption ++ station.flight.drop count) pending (heard.noise.map .byte)
      rw [pollEntry_of_ne notEot]
      exact further

/-- The step lemma. -/
theorem tncKeeps : Keeps tncAct TncAttends TncExtends where
  acts {station heard sent sent' event} attends extends_ := by
    cases extends_ with
    | @message b writes room noError =>
        have written : TncStation.write station b writes =
            .ok (station, (tncLine b).map .byte) := by
          rw [TncStation.write, iTncWrite_eq (not_lt.mpr attends.opened.2) b noError]
        exact ⟨_, _, written, attends, fun other hears => hears.message room⟩
    | noise quiet => exact ⟨_, _, rfl, attends, fun other hears => hears.noise quiet⟩
    | poll count =>
        rcases attends.polls count with ⟨next, polled, attendsNext⟩
        refine ⟨next, [], ?_, attendsNext, fun other hears => ?_⟩
        · rw [tncAct, polled]
          rfl
        · rw [Station.hears, List.append_nil]
          exact hears

/-! ### The application's loop -/

theorem TncAttends.isPrefix (attends : TncAttends station heard) :
    station.state.messages <+: heard.messages := by
  rcases attends with ⟨-, -, pending, inOrder, -⟩
  exact ⟨pending.map Subtype.val, inOrder⟩

/-- One turn of the loop: with all of the line at hand, a message that is on its way is received. -/
theorem TncAttends.turn (attends : TncAttends station heard) {count : ℕ}
    (enough : station.flight.length ≤ count) :
    ∃ next, station.poll count = .ok next ∧ TncAttends next heard ∧ next.flight.length ≤ count ∧
      (heard.messages.length ≤ next.state.messages.length ∨
        next.state.messages.length = station.state.messages.length + 1) := by
  rcases attends.polls count with ⟨next, polled, attendsNext⟩
  refine ⟨next, polled, attendsNext, ?_⟩
  rcases attends with ⟨-, opened, pending, inOrder, follows⟩
  rcases TncStation.exists_of_poll opened.1 polled with ⟨q, left, reached, rfl⟩
  rw [List.take_of_length_le enough] at reached
  rw [TncStation.length_messages_behind]
  constructor
  · rcases exists_prefix_drain tncPollStep (.ok (tncPollEntry station.state.p))
      (station.flight.map some) with ⟨consumed, inputs, -⟩
    rw [reached, reduceOption_map_some] at inputs
    have lengths := congrArg List.length inputs
    rw [List.length_append] at lengths
    rw [TncStation.behind, List.drop_of_length_le enough, List.append_nil]
    dsimp only at lengths ⊢
    omega
  · by_cases none_ : pending = []
    · left
      rw [none_] at inOrder
      rw [← inOrder, List.length_append]
      exact Nat.le_add_right _ _
    · right
      have read := follows.drain_all none_
      have step : (tncFraming station.state.size).step = tncPollStep := rfl
      rw [step, reached] at read
      rcases read with ⟨m, later, -, ⟨r, same, eot, -⟩, -⟩
      rw [Except.ok.inj same, if_pos eot]

end Station

theorem run_polls {stations : Bool → TncStation} {side : Bool} {heard : TncSent}
    {count turns : ℕ} (attends : TncAttends (stations side) heard)
    (enough : (stations side).flight.length ≤ count)
    (all : heard.messages.length ≤ (stations side).state.messages.length + turns) :
    ∃ last, run tncAct stations (List.replicate turns (side, .poll count)) = .ok last ∧
      (last side).state.messages = heard.messages := by
  induction turns generalizing stations with
  | zero => exact ⟨stations, rfl, attends.isPrefix.eq_of_length_le all⟩
  | succ turns ih =>
      rcases attends.turn enough with ⟨next, polled, attendsNext, short, more⟩
      have isPolled : tncAct (stations side) (.poll count) = .ok (next, []) := by
        rw [tncAct, polled]
        rfl
      have now : Function.update stations side next side = next := Function.update_self ..
      have attends' : TncAttends (Function.update stations side next side) heard := by
        rw [now]
        exact attendsNext
      rcases ih attends' (by rw [now]; exact short) (by rw [now]; omega) with ⟨last, ran, messages⟩
      refine ⟨last, ?_, messages⟩
      rw [List.replicate_succ, run_cons_of_silent isPolled]
      exact ran

/-! ### Any interleaving -/

theorem tncLinked_stations {size : Bool → ℕ} {fin fout : Bool → ℤ}
    (opened : ∀ side, 0 ≤ fin side ∧ 0 ≤ fout side)
    (rxbuf : (side : Bool) → Vector UInt8 (size side)) :
    Linked TncAttends (tncStations fin fout rxbuf) fun side => ⟨size !side, [], []⟩ := by
  intro side
  refine ⟨?_, opened side, [], rfl, Framing.Line.nil.follows (tncIdle_nil rfl)⟩
  exact congrArg size (Bool.not_not side).symm

/-- Each station has received the first messages that the other has written, and polls find the rest
of them. -/
theorem tncTraffic_inOrder {size : Bool → ℕ} {fin fout : Bool → ℤ}
    (opened : ∀ side, 0 ≤ fin side ∧ 0 ≤ fout side)
    (rxbuf : (side : Bool) → Vector UInt8 (size side)) {events : List (Bool × TncEvent)}
    {sent : Bool → TncSent}
    (fair : ∀ side, Fair TncExtends ⟨size !side, [], []⟩ (eventsOf side events) (sent side)) :
    ∃ after, run tncAct (tncStations fin fout rxbuf) events = .ok after ∧
      ∀ side, let messages := (sent !side).messages
        (after side).state.messages <+: messages ∧
          ∀ count turns, (after side).flight.length ≤ count →
            messages.length ≤ (after side).state.messages.length + turns →
            ∃ last, run tncAct after (List.replicate turns (side, .poll count)) = .ok last ∧
              (last side).state.messages = messages := by
  rcases run_keeps tncKeeps (tncLinked_stations opened rxbuf) fair with ⟨after, ran, linked⟩
  refine ⟨after, ran, fun side => ⟨?_, fun count turns enough all => ?_⟩⟩
  · exact (linked side).isPrefix
  · exact run_polls (linked side) enough all

/-- One station writes two messages, and the other answers while they are on their way. -/
def tncAnswered : List (Bool × TncEvent) :=
  [(true, .noise [0x01, 0x02, 0x33, 0x55]),
    (true, .write [0x48, 0x69] [1, 0, 1]),
    (true, .write [] []),
    (false, .poll 9),
    (false, .write [0xFF] []),
    (false, .poll 100),
    (true, .poll 2)]

theorem tncTraffic_inOrder_answered :
    ∃ after, run tncAct (tncStations (fun _ => 3) (fun _ => 4) fun side =>
        Vector.replicate (if side then 1 else 2) 0) tncAnswered = .ok after ∧
      ∀ side, let messages := if !side then [[0x48, 0x69], []] else [[0xFF]]
        (after side).state.messages <+: messages ∧
          ∀ count turns, (after side).flight.length ≤ count →
            messages.length ≤ (after side).state.messages.length + turns →
            ∃ last, run tncAct after (List.replicate turns (side, .poll count)) = .ok last ∧
              (last side).state.messages = messages := by
  have quiet : (tncPhase []).Quiet 2 [0x01, 0x02, 0x33, 0x55] := by decide
  have fair : ∀ side, Fair TncExtends ⟨if !side then 1 else 2, [], []⟩
      (eventsOf side tncAnswered) ⟨if !side then 1 else 2,
        if side then [[0x48, 0x69], []] else [[0xFF]], []⟩ := by
    rw [Bool.forall_bool]
    constructor
    · exact .cons (.poll 9) (.cons (.message (by decide) (by decide)) (.cons (.poll 100) (.nil _)))
    · exact .cons (.noise quiet) (.cons (.message (by decide) (by decide))
        (.cons (.message (by decide) (by decide)) (.cons (.poll 2) (.nil _))))
  exact tncTraffic_inOrder (by decide) (fun side => Vector.replicate (if side then 1 else 2) 0) fair

end Sysio.Radio
