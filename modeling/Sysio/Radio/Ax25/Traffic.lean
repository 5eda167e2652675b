import Sysio.Lib.Framing
import Sysio.Lib.Stations
import Sysio.Radio.Ax25.RoundTrip

/-!
# Two stations

Two controllers are at the ends of a line, each sending frames and reading those of the other, in
any interleaving, as the application loops do: `bAx25Poll`, and `iAx25Read` when it reports a frame.
A poll finds as many of the bytes on the line as have come so far. A frame with a callsign that may
not be sent is refused half way, which leaves bytes on the line, and there may be noise.

No controller faults, and each station reads the frames that the other has sent, once each and in
their order.
-/

namespace Sysio.Radio

open Polling Stations

/-! ### The stations -/

/-- A controller and what its application has. -/
structure Ax25End where
  p : XAx25
  /-- The object that frames are read into. -/
  frame : XAx25Frame
  /-- The frames that were read. -/
  frames : List XAx25Frame

/-- A controller at its end of the line. -/
abbrev Ax25Station := Station Ax25End UInt8

namespace Ax25Station

/-- `iAx25Send`, with what it writes. -/
def send (station : Ax25Station) (f : XAx25Frame) : Ax25Station × List UInt8 :=
  let sent := (iAx25Send station.state.p f).2
  ({ station with state.p := sent.p }, sent.line)

/-- `bAx25Poll` finds `count` bytes on the line, or all if there are fewer. -/
def poll (station : Ax25Station) (count : ℕ) : Ax25Station :=
  let polled := (bAx25Poll station.state.p ((station.flight.take count).map some)).2
  { state.p := polled.1
    state.frame := station.state.frame
    state.frames := station.state.frames
    flight := scriptBytes polled.2 ++ station.flight.drop count }

/-- `iAx25Read` into the object of the application. -/
def read (station : Ax25Station) : Except Fault Ax25Station :=
  match iAx25Read station.state.p station.state.frame with
  | .ok (code, p, frame) =>
      let frames := station.state.frames
      .ok { station with
        state := ⟨p, frame, if code = .success then frames ++ [frame] else frames⟩ }
  | .error fault => .error fault

end Ax25Station

/-- What happens at a station. -/
inductive Ax25Event where
  | send (f : XAx25Frame)
  /-- The line takes these bytes for bytes of this station. -/
  | noise (bytes : List UInt8)
  | poll (count : ℕ)
  | read

/-- What an event makes of a station, and what it puts on the line. -/
def ax25Act (station : Ax25Station) : Ax25Event → Except Fault (Ax25Station × List UInt8)
  | .send f => .ok (station.send f)
  | .noise bytes => .ok (station, bytes)
  | .poll count => .ok (station.poll count, [])
  | .read => station.read.map (·, [])

/-- Both stations, each with its descriptors, before anything is sent. -/
def ax25Stations (fin fout : Bool → ℤ) (frame : Bool → XAx25Frame) (side : Bool) : Ax25Station where
  state := ⟨{ iAx25Clear with fin := fin side, fout := fout side }, frame side, []⟩
  flight := []

/-! ### What is written for a frame that is refused -/

/-- The frame without its repeater. -/
def ax25Direct : XAx25Frame :=
  { ax25Repeated with repeaters := [], repeaters_le := Nat.zero_le _ }

theorem valid_ax25Direct : ax25Direct.Valid where
  dst := ⟨by decide +kernel, by decide⟩
  src := ⟨by decide +kernel, by decide⟩
  repeaters n isIn := absurd isIn List.not_mem_nil
  dstFlag := rfl
  srcFlag := rfl
  ctrl := rfl
  pid := rfl
  infoLen_le := by decide

/-- The same with a hyphen in the callsign of its source. -/
def ax25Refused : XAx25Frame :=
  { ax25Direct with src := ⟨⟨[0x62, 0x2D], by decide, by decide +kernel⟩, 15, false⟩ }

instance (n : XAx25Node) : Decidable n.Sendable :=
  inferInstanceAs (Decidable (∀ c ∈ n.callsign.chars, (CChar.isalnum c || c == 0x20) = true))

instance (f : XAx25Frame) : Decidable f.Sendable :=
  inferInstanceAs (Decidable (f.dst.Sendable ∧ f.src.Sendable ∧ ∀ n ∈ f.repeaters, n.Sendable))

/-- The addresses of the repeaters, each with whether it is the last. -/
def repeaterAddresses : List XAx25Node → List (XAx25Node × Bool)
  | [] => []
  | n :: rest => (n, rest.isEmpty) :: repeaterAddresses rest

/-- The addresses of the frame, each with whether it is the last. -/
def XAx25Frame.addresses (f : XAx25Frame) : List (XAx25Node × Bool) :=
  (f.dst, false) :: (f.src, f.repeaters.isEmpty) :: repeaterAddresses f.repeaters

/-- The bytes of the addresses up to the first character that may not be sent. -/
def addressBytes : List (XAx25Node × Bool) → List UInt8
  | [] => []
  | (n, last) :: rest =>
      if n.Sendable then n.bytes last ++ addressBytes rest
      else (n.callsign.chars.takeWhile fun c => CChar.isalnum c || c == 0x20).map
        fun c => CChar.toupper c <<< 1

/-- The sender after some bytes and a `prviSetError (p, AX25_ILLEGAL_CALLSIGN)`. -/
def Ax25Tx.refused (tx : Ax25Tx) (bytes : List UInt8) : Ax25Tx :=
  ⟨{ tx.p with crcOut := usCrcCcitt tx.p.crcOut bytes, error := .illegalCallsign },
    tx.line ++ escapeBytes bytes⟩

theorem Ax25Tx.sent_refused (tx : Ax25Tx) (before after : List UInt8) :
    (tx.sent before).refused after = tx.refused (before ++ after) := by
  simp [refused, sent, usCrcCcitt_append]

theorem ax25PutCall_refused (tx : Ax25Tx) {chars : List UInt8}
    (illegal : ¬∀ c ∈ chars, (CChar.isalnum c || c == 0x20) = true) :
    ax25PutCall tx chars = (false, tx.put ((chars.takeWhile fun c =>
      CChar.isalnum c || c == 0x20).map fun c => CChar.toupper c <<< 1)) := by
  induction chars generalizing tx with
  | nil => exact absurd (fun c isIn => absurd isIn List.not_mem_nil) illegal
  | cons c rest ih =>
      rw [ax25PutCall, List.takeWhile_cons]
      cases legal : CChar.isalnum c || c == 0x20 with
      | false => simp [Ax25Tx.put]
      | true =>
          have later : ¬∀ c ∈ rest, (CChar.isalnum c || c == 0x20) = true := by
            intro all
            apply illegal
            intro d isIn
            rcases List.mem_cons.mp isIn with rfl | isIn
            · exact legal
            · exact all d isIn
          rw [ih _ later, prvvPutChar_eq, Ax25Tx.put_put]
          rfl

theorem prviSendCall_refused (tx : Ax25Tx) {n : XAx25Node} (illegal : ¬n.Sendable) (last : Bool)
    (rest : List (XAx25Node × Bool)) :
    prviSendCall tx n last = (.illegalCallsign, tx.refused (addressBytes ((n, last) :: rest))) := by
  rw [prviSendCall, ax25PutCall_refused tx illegal, addressBytes, if_neg illegal]
  rfl

theorem ax25SendRepeaters_refused (tx : Ax25Tx) {repeaters : List XAx25Node}
    (illegal : ¬∀ n ∈ repeaters, n.Sendable) :
    ax25SendRepeaters tx repeaters =
      (.illegalCallsign, tx.refused (addressBytes (repeaterAddresses repeaters))) := by
  induction repeaters generalizing tx with
  | nil => exact absurd (fun n isIn => absurd isIn List.not_mem_nil) illegal
  | cons n rest ih =>
      rw [ax25SendRepeaters, repeaterAddresses]
      by_cases legal : n.Sendable
      · have later : ¬∀ n ∈ rest, n.Sendable := by
          intro all
          apply illegal
          intro m isIn
          rcases List.mem_cons.mp isIn with rfl | isIn
          · exact legal
          · exact all m isIn
        rw [prviSendCall_eq _ legal]
        dsimp only
        rw [ih _ later, Ax25Tx.sent_refused, addressBytes, if_pos legal]
      · rw [prviSendCall_refused _ legal]

/-- A frame that may not be sent leaves a flag and the addresses up to there. -/
theorem iAx25Send_refused {p : XAx25} {f : XAx25Frame} (opened : p.fout ≠ 0)
    (illegal : ¬f.Sendable) :
    iAx25Send p f = (.illegalCallsign,
      ⟨{ p with
          crcOut := usCrcCcitt crcCcittInitVal (addressBytes f.addresses)
          error := .illegalCallsign },
        hdlcFlag :: escapeBytes (addressBytes f.addresses)⟩) := by
  rw [iAx25Send, if_neg opened, XAx25Frame.addresses]
  dsimp only
  by_cases dst : f.dst.Sendable
  · have rest (last : Bool) (others : List (XAx25Node × Bool)) :
        addressBytes ((f.dst, last) :: others) = f.dst.bytes last ++ addressBytes others := by
      rw [addressBytes, if_pos dst]
    rw [prviSendCall_eq _ dst, rest]
    dsimp only
    by_cases src : f.src.Sendable
    · rw [prviSendCall_eq _ src]
      dsimp only
      have repeaters : ¬∀ n ∈ f.repeaters, n.Sendable := fun all => illegal ⟨dst, src, all⟩
      rw [ax25SendRepeaters_refused _ repeaters, Ax25Tx.sent_refused, Ax25Tx.sent_refused,
        addressBytes, if_pos src]
      rfl
    · rw [prviSendCall_refused _ src _ (repeaterAddresses f.repeaters), Ax25Tx.sent_refused]
      rfl
  · rw [prviSendCall_refused _ dst]
    rfl

/-- What a station with an open output writes for a frame. -/
def XAx25Frame.line (f : XAx25Frame) : List UInt8 :=
  if f.Sendable then hdlcLine (withCrc f.bytes)
  else hdlcFlag :: escapeBytes (addressBytes f.addresses)

/-- What the receiving side of a controller looks at. -/
def XAx25.listener (p : XAx25) : XAx25 := { p with crcOut := 0, error := .success }

theorem iAx25Send_writes {p : XAx25} (opened : p.fout ≠ 0) (f : XAx25Frame) :
    (iAx25Send p f).2.line = f.line ∧ (iAx25Send p f).2.p.listener = p.listener ∧
      (iAx25Send p f).2.p.fin = p.fin ∧ (iAx25Send p f).2.p.fout = p.fout := by
  rw [XAx25Frame.line]
  by_cases legal : f.Sendable
  · rw [iAx25Send_eq opened legal, if_pos legal]
    exact ⟨rfl, rfl, rfl, rfl⟩
  · rw [iAx25Send_refused opened legal, if_neg legal]
    exact ⟨rfl, rfl, rfl, rfl⟩

/-! ### Frames on a line -/

/-- No flag of the line closes what passes for a frame. -/
def NoFrame (line : List UInt8) : Prop :=
  ∀ before after segment, line = before ++ hdlcFlag :: after → hdlcPending false before = false →
    sinceFlag (hdlcSymbols false before) = some segment → ¬KeptIsFrame segment

/-- Bytes that are not taken for a frame, not even with the first flag of a frame behind them. -/
def HdlcQuiet (noise : List UInt8) : Prop :=
  hdlcPending false noise = false ∧ NoFrame (noise ++ [hdlcFlag])

theorem noFrame_iff {bytes : List UInt8} :
    NoFrame bytes ↔ ∀ k < bytes.length, bytes[k]? = some hdlcFlag →
      hdlcPending false (bytes.take k) = false →
      ∀ segment ∈ sinceFlag (hdlcSymbols false (bytes.take k)), ¬KeptIsFrame segment := by
  constructor
  · intro noFrame k inside isFlag pending segment found
    refine noFrame (bytes.take k) (bytes.drop (k + 1)) segment ?_ pending found
    rw [List.getElem?_eq_getElem inside, Option.some.injEq] at isFlag
    rw [← isFlag, ← List.drop_eq_getElem_cons inside, List.take_append_drop]
  · intro noFrame before after segment split pending found
    have isFlag : bytes[before.length]? = some hdlcFlag := by
      rw [split, List.getElem?_append_right le_rfl, Nat.sub_self]
      rfl
    have here : bytes.take before.length = before := by
      rw [split, List.take_left]
    have inside : before.length < bytes.length := by
      rw [split, List.length_append, List.length_cons]
      omega
    apply noFrame before.length inside isFlag <;> rw [here]
    · exact pending
    · exact found

instance (segment : List HdlcSymbol) : Decidable (KeptIsFrame segment) :=
  inferInstanceAs (Decidable (ax25MinFrameLen ≤ (keptOctets segment).length ∧
    usCrcCcitt crcCcittInitVal (keptOctets segment) = ax25CrcCorrect))

instance (noise : List UInt8) : Decidable (HdlcQuiet noise) :=
  decidable_of_iff _ (and_congr_right' noFrame_iff.symm)

/-- The receiver has read nothing but noise since it was last ready. -/
structure Ax25Idle (noise : List UInt8) (p : XAx25) : Prop where
  opened : p.fin ≠ 0
  quiet : HdlcQuiet noise
  reading : Ax25Reading noise p

theorem NoFrame.left {line more : List UInt8} (noFrame : NoFrame (line ++ more)) :
    NoFrame line := by
  intro before after segment split
  apply noFrame before (after ++ more)
  rw [split, List.append_assoc, List.cons_append]

theorem hdlcQuiet_nil : HdlcQuiet [] := by
  refine ⟨rfl, fun before after segment split pending found => ?_⟩
  cases before with
  | nil => cases found
  | cons c before => cases before <;> cases split

theorem frmRecv_flag_of_noFrame {line : List UInt8} {p : XAx25} (reading : Ax25Reading line p)
    (pending : hdlcPending false line = false) (noFrame : NoFrame (line ++ [hdlcFlag])) :
    (ax25PollByte p hdlcFlag).frmRecv = false := by
  rw [← Bool.not_eq_true]
  intro reported
  rcases (frmRecv_flag reading pending).mp reported with ⟨segment, found, isFrame⟩
  exact noFrame line [] segment rfl pending found isFrame

theorem frmRecv_of_noFrame {line : List UInt8} {p : XAx25} (reading : Ax25Reading line p)
    {c : UInt8} (noFrame : NoFrame (line ++ [c])) : (ax25PollByte p c).frmRecv = false := by
  by_cases isFlag : hdlcSymbol p.escape c = some .flag
  · rcases hdlcSymbol_eq_flag.mp isFlag with ⟨unescaped, rfl⟩
    exact frmRecv_flag_of_noFrame reading (reading.escape.symm.trans unescaped) noFrame
  · rw [frmRecv_pollByte_of_ne_flag isFlag]
    exact reading.frmRecv

/-- Noise is passed over, whatever of it has been read already. -/
theorem passes_of_noFrame {line more : List UInt8} {p : XAx25} (reading : Ax25Reading line p)
    (noFrame : NoFrame (line ++ more)) :
    Passes ax25PollStep p more (more.foldl ax25PollByte p) ∧
      Ax25Reading (line ++ more) (more.foldl ax25PollByte p) := by
  induction more generalizing line p with
  | nil =>
      rw [List.append_nil]
      exact ⟨.nil p, reading⟩
  | cons c rest ih =>
      rw [List.append_cons] at noFrame ⊢
      have goesOn := frmRecv_of_noFrame reading noFrame.left
      rcases ih (ax25Reading_pollByte reading c goesOn) noFrame with ⟨passes, further⟩
      exact ⟨.cons goesOn passes, further⟩

theorem passes_of_quiet {bytes : List UInt8} {p : XAx25}
    (quiet : ∀ before after, bytes = before ++ after →
      (before.foldl ax25PollByte p).frmRecv = false) :
    Passes ax25PollStep p bytes (bytes.foldl ax25PollByte p) := by
  induction bytes generalizing p with
  | nil => exact .nil p
  | cons c rest ih =>
      refine .cons (quiet [c] rest rfl) (ih fun before after split => ?_)
      exact quiet (c :: before) after (congrArg (c :: ·) split)

theorem Ax25Idle.listening {noise : List UInt8} {p : XAx25} (idle : Ax25Idle noise p) :
    Ax25Listening p where
  opened := idle.opened
  escape := idle.reading.escape.trans idle.quiet.1
  frmRecv := idle.reading.frmRecv
  refused accepted := by
    have refused := frmRecv_flag_of_noFrame idle.reading idle.quiet.1 idle.quiet.2
    rw [ax25PollByte_accepted (idle.reading.escape.trans idle.quiet.1) accepted] at refused
    cases refused

/-- Frames that are received as they are sent, between flags. -/
def ax25Framing : Framing XAx25 UInt8 {f : XAx25Frame // f.Carried} where
  step := ax25PollStep
  wire m := hdlcLine (withCrc m.1.bytes)
  Open p := p.frmRecv = false
  Idle := Ax25Idle
  Quiet noise more := HdlcQuiet (noise ++ more)
  Holds m := Ax25Holds (withCrc m.1.bytes)
  stays _ _ _ goesOn := goesOn
  isOpen idle := idle.reading.frmRecv
  passes idle quiet := by
    rcases passes_of_noFrame idle.reading quiet.2.left with ⟨passes, reading⟩
    exact ⟨_, passes, (fin_foldl_pollByte _ _).trans_ne idle.opened, quiet, reading⟩
  completes m noise p idle := by
    have listening := idle.listening
    rcases ax25Holds_hdlcLine listening m.1.min_le_length_withCrc m.2.fits
      (usCrcCcitt_withCrc m.1.bytes) with ⟨holds, -⟩
    rw [hdlcLine, List.foldl_append] at holds
    exact ⟨_, _, hdlcFlag, rfl, passes_of_quiet (ax25Reading_payload _ listening).2,
      holds.frmRecv, holds⟩

/-! ### What is sent -/

/-- What a station has sent: the frames, and what is on the line behind the last of them. -/
structure Ax25Sent where
  frames : List XAx25Frame
  noise : List UInt8

/-- The frames that a station sends whole are valid, and what is on the line besides them is no
frame. -/
inductive Ax25Extends (sent : Ax25Sent) : Ax25Event → Ax25Sent → Prop where
  | frame {f : XAx25Frame} (valid : f.Valid) :
      Ax25Extends sent (.send f) ⟨sent.frames ++ [f], []⟩
  | refused {f : XAx25Frame} (illegal : ¬f.Sendable) (quiet : HdlcQuiet (sent.noise ++ f.line)) :
      Ax25Extends sent (.send f) ⟨sent.frames, sent.noise ++ f.line⟩
  | noise {bytes : List UInt8} (quiet : HdlcQuiet (sent.noise ++ bytes)) :
      Ax25Extends sent (.noise bytes) ⟨sent.frames, sent.noise ++ bytes⟩
  | poll (count : ℕ) : Ax25Extends sent (.poll count) sent
  | read : Ax25Extends sent .read sent

/-! ### What every event keeps -/

/-- The frames as they are read. -/
def readAs (messages : List {f : XAx25Frame // f.Carried}) : List XAx25Frame :=
  messages.map fun m => m.1.upper

theorem readAs_append (before after : List {f : XAx25Frame // f.Carried}) :
    readAs (before ++ after) = readAs before ++ readAs after := List.map_append

/-- The station has read what it has been sent, apart from what is on the line or waits in the
controller. -/
structure Ax25Attends (station : Ax25Station) (heard : Ax25Sent) : Prop where
  opened : station.state.p.fin ≠ 0 ∧ station.state.p.fout ≠ 0
  inOrder : ∃ pending,
    station.state.frames ++ readAs pending = heard.frames.map XAx25Frame.upper ∧
      (ax25Framing.Follows station.state.p.listener station.flight pending heard.noise ∨
        ax25Framing.Reported station.state.p.listener station.flight pending heard.noise)

section Station

variable {station : Ax25Station} {heard : Ax25Sent}

theorem pollStep_listener (p : XAx25) (c : UInt8) :
    ax25PollStep p.listener c = ((ax25PollStep p c).1.listener, (ax25PollStep p c).2) := by
  rw [ax25PollStep, ax25PollStep, ax25PollByte, ax25PollByte, XAx25.listener]
  dsimp only
  split_ifs <;> rfl

theorem fds_bAx25Poll (p : XAx25) (script : List (Option UInt8)) :
    (bAx25Poll p script).2.1.fin = p.fin ∧ (bAx25Poll p script).2.1.fout = p.fout := by
  rw [bAx25Poll]
  split_ifs
  · exact ⟨rfl, rfl⟩
  · exact ⟨rfl, rfl⟩
  · let same : XAx25 → Prop := fun q => q.fin = p.fin ∧ q.fout = p.fout
    have keeps : ∀ q c, same q → same (ax25PollStep q c).1 := by
      intro q c isSame
      rw [ax25PollStep, ax25PollByte]
      dsimp only
      split_ifs <;> exact isSame
    exact drain_invariant keeps ⟨rfl, rfl⟩ script

theorem Ax25Attends.noise (attends : Ax25Attends station heard) {more : List UInt8}
    (quiet : HdlcQuiet (heard.noise ++ more)) :
    Ax25Attends (station.hears more) ⟨heard.frames, heard.noise ++ more⟩ := by
  rcases attends with ⟨opened, pending, inOrder, follows | ⟨m, later, isPending, holds, written⟩⟩
  · exact ⟨opened, pending, inOrder, .inl (follows.noise quiet)⟩
  · exact ⟨opened, pending, inOrder, .inr ⟨m, later, isPending, holds, written.noise quiet⟩⟩

theorem Ax25Attends.frame (attends : Ax25Attends station heard) {f : XAx25Frame}
    (valid : f.Valid) :
    Ax25Attends (station.hears (hdlcLine (withCrc f.bytes))) ⟨heard.frames ++ [f], []⟩ := by
  rcases attends with ⟨opened, pending, inOrder, waiting⟩
  let m : {f : XAx25Frame // f.Carried} := ⟨f, valid.carried⟩
  refine ⟨opened, pending ++ [m], ?_, ?_⟩
  · rw [readAs_append, ← List.append_assoc, List.map_append]
    exact congrArg (· ++ [f.upper]) inOrder
  · rcases waiting with follows | ⟨first, later, isPending, holds, written⟩
    · exact .inl (follows.message m)
    · exact .inr ⟨first, later ++ [m], congrArg (· ++ [m]) isPending, holds, written.message m⟩

theorem Ax25Attends.sends (attends : Ax25Attends station heard) (f : XAx25Frame) :
    Ax25Attends (station.send f).1 heard := by
  rcases attends with ⟨opened, pending, inOrder, waiting⟩
  rcases iAx25Send_writes opened.2 f with ⟨-, same, fin, fout⟩
  refine ⟨?_, pending, inOrder, ?_⟩
  · rw [Ax25Station.send]
    dsimp only
    rw [fin, fout]
    exact opened
  · rw [Ax25Station.send]
    dsimp only
    rw [same]
    exact waiting

theorem scriptBytes_flight (station : Ax25Station) (count : ℕ) :
    scriptBytes ((station.flight.take count).map some) ++ station.flight.drop count =
      station.flight := by
  rw [scriptBytes, reduceOption_map_some, List.take_append_drop]

theorem Ax25Attends.polls (attends : Ax25Attends station heard) (count : ℕ) :
    Ax25Attends (station.poll count) heard := by
  rcases attends with ⟨opened, pending, inOrder, waiting⟩
  refine ⟨?_, pending, inOrder, ?_⟩
  · rw [Ax25Station.poll]
    dsimp only
    rw [(fds_bAx25Poll _ _).1, (fds_bAx25Poll _ _).2]
    exact opened
  rcases waiting with follows | reported
  · have open_ : station.state.p.frmRecv = false := follows.isOpen
    have polled : (bAx25Poll station.state.p ((station.flight.take count).map some)).2 =
        drain ax25PollStep station.state.p ((station.flight.take count).map some) := by
      rw [bAx25Poll, if_neg opened.1, open_, if_neg Bool.false_ne_true]
    have drained := follows.drain (scriptBytes_flight station count)
    have step : ax25Framing.step = ax25PollStep := rfl
    rw [step, drain_map pollStep_listener] at drained
    rw [Ax25Station.poll]
    dsimp only
    rw [polled]
    exact drained.symm
  · have waits : station.state.p.frmRecv = true := by
      rcases reported with ⟨m, later, -, holds, -⟩
      exact holds.frmRecv
    have polled : (bAx25Poll station.state.p ((station.flight.take count).map some)).2 =
        (station.state.p, (station.flight.take count).map some) := by
      rw [bAx25Poll, if_neg opened.1, waits, if_pos rfl]
    right
    rw [Ax25Station.poll]
    dsimp only
    rw [polled]
    dsimp only
    rw [scriptBytes_flight]
    exact reported

theorem Ax25Attends.reads (attends : Ax25Attends station heard) :
    ∃ next, station.read = .ok next ∧ Ax25Attends next heard ∧ next.flight = station.flight ∧
      next.state.frames.length =
        station.state.frames.length + if station.state.p.frmRecv then 1 else 0 := by
  rcases attends with ⟨opened, pending, inOrder, follows | reported⟩
  · have open_ : station.state.p.frmRecv = false := follows.isOpen
    refine ⟨station, ?_, ⟨opened, pending, inOrder, .inl follows⟩, rfl, ?_⟩
    · rw [Ax25Station.read, iAx25Read, open_]
      rfl
    · rw [open_]
      rfl
  · rcases reported with ⟨m, later, isPending, holds, written⟩
    have waits : station.state.p.frmRecv = true := holds.frmRecv
    let p : XAx25 := { station.state.p with error := .success }
    have here : Ax25Holds (withCrc m.1.bytes) p := ⟨holds.frmRecv, holds.len, holds.buf⟩
    refine ⟨{ station with
        state := ⟨ax25Ready p, m.1.upper, station.state.frames ++ [m.1.upper]⟩ },
      ?_, ⟨opened, later, ?_, .inl ?_⟩, rfl, ?_⟩
    · rw [Ax25Station.read, iAx25Read_reported waits, prviDecode_of_holds m.2 here]
      rfl
    · rw [isPending] at inOrder
      rw [List.append_assoc]
      exact inOrder
    · apply written.follows
      refine ⟨opened.1, hdlcQuiet_nil, rfl, rfl, ?_, fun _ => ⟨rfl, rfl⟩⟩
      intro segment found
      cases found
    · rw [List.length_append, List.length_singleton, if_pos waits]

/-- The step lemma. -/
theorem ax25Keeps : Keeps ax25Act Ax25Attends Ax25Extends where
  acts {station heard sent sent' event} attends extends_ := by
    cases extends_ with
    | @frame f valid =>
        refine ⟨_, _, rfl, attends.sends f, fun other hears => ?_⟩
        have line : (iAx25Send station.state.p f).2.line = f.line :=
          (iAx25Send_writes attends.opened.2 f).1
        have written : f.line = hdlcLine (withCrc f.bytes) := if_pos valid.sendable
        rw [line, written]
        exact hears.frame valid
    | @refused f illegal quiet =>
        refine ⟨_, _, rfl, attends.sends f, fun other hears => ?_⟩
        have line : (iAx25Send station.state.p f).2.line = f.line :=
          (iAx25Send_writes attends.opened.2 f).1
        rw [line]
        exact hears.noise quiet
    | noise quiet => exact ⟨_, _, rfl, attends, fun other hears => hears.noise quiet⟩
    | poll count =>
        refine ⟨_, _, rfl, attends.polls count, fun other hears => ?_⟩
        rw [Station.hears, List.append_nil]
        exact hears
    | read =>
        rcases attends.reads with ⟨next, read, attendsNext, -⟩
        refine ⟨next, [], ?_, attendsNext, fun other hears => ?_⟩
        · rw [ax25Act, read]
          rfl
        · rw [Station.hears, List.append_nil]
          exact hears

/-! ### The application's loop -/

theorem Ax25Attends.isPrefix (attends : Ax25Attends station heard) :
    station.state.frames <+: heard.frames.map XAx25Frame.upper := by
  rcases attends with ⟨-, pending, inOrder, -⟩
  exact ⟨readAs pending, inOrder⟩

theorem Ax25Attends.frames_eq (attends : Ax25Attends station heard)
    (all : heard.frames.length ≤ station.state.frames.length) :
    station.state.frames = heard.frames.map XAx25Frame.upper := by
  apply attends.isPrefix.eq_of_length_le
  rw [List.length_map]
  exact all

theorem length_poll_le (station : Ax25Station) (count : ℕ) :
    (station.poll count).flight.length ≤ station.flight.length := by
  have whole := congrArg List.length (scriptBytes_flight station count)
  rcases ax25Read_poll station.state.p ((station.flight.take count).map some) with
    ⟨line, split, -⟩
  have parts := congrArg List.length split
  rw [List.length_append] at whole parts
  rw [Ax25Station.poll, List.length_append]
  omega

/-- With all of the line at hand, a frame that is on its way is reported. -/
theorem Ax25Attends.frmRecv_poll (attends : Ax25Attends station heard) {count : ℕ}
    (enough : station.flight.length ≤ count)
    (missing : station.state.frames.length < heard.frames.length) :
    (station.poll count).state.p.frmRecv = true := by
  rcases attends with ⟨opened, pending, inOrder, waiting⟩
  have some_ : pending ≠ [] := by
    rintro rfl
    have lengths := congrArg List.length inOrder
    rw [List.length_append, readAs, List.length_map, List.length_map] at lengths
    exact absurd lengths (by rw [List.length_nil]; omega)
  rw [Ax25Station.poll, List.take_of_length_le enough]
  dsimp only
  rcases waiting with follows | ⟨m, later, -, holds, -⟩
  · have open_ : station.state.p.frmRecv = false := follows.isOpen
    have drained := follows.drain_all some_
    have step : ax25Framing.step = ax25PollStep := rfl
    rw [step, drain_map pollStep_listener] at drained
    rcases drained with ⟨m, later, -, holds, -⟩
    rw [bAx25Poll, if_neg opened.1, open_, if_neg Bool.false_ne_true]
    exact holds.frmRecv
  · have waits : station.state.p.frmRecv = true := holds.frmRecv
    rw [bAx25Poll, if_neg opened.1, waits, if_pos rfl]
    exact waits

/-- One turn of the loop. -/
theorem Ax25Attends.turn (attends : Ax25Attends station heard) {count : ℕ}
    (enough : station.flight.length ≤ count) :
    ∃ next, (station.poll count).read = .ok next ∧ Ax25Attends next heard ∧
      next.flight.length ≤ count ∧
      (station.state.frames.length < heard.frames.length →
        next.state.frames.length = station.state.frames.length + 1) ∧
      station.state.frames.length ≤ next.state.frames.length := by
  rcases (attends.polls count).reads with ⟨next, read, attendsNext, flight, frames⟩
  have same : (station.poll count).state.frames = station.state.frames := rfl
  rw [same] at frames
  refine ⟨next, read, attendsNext, ?_, fun missing => ?_, ?_⟩
  · rw [flight]
    exact (length_poll_le station count).trans enough
  · rw [frames, if_pos (attends.frmRecv_poll enough missing)]
  · rw [frames]
    exact Nat.le_add_right _ _

end Station

/-- Turns of the loop at one station, each with `count` bytes at hand. -/
def catchUp (side : Bool) (count : ℕ) : ℕ → List (Bool × Ax25Event)
  | 0 => []
  | turns + 1 => (side, .poll count) :: (side, .read) :: catchUp side count turns

theorem run_catchUp {stations : Bool → Ax25Station} {side : Bool} {heard : Ax25Sent}
    {count turns : ℕ} (attends : Ax25Attends (stations side) heard)
    (enough : (stations side).flight.length ≤ count)
    (all : heard.frames.length ≤ (stations side).state.frames.length + turns) :
    ∃ last, run ax25Act stations (catchUp side count turns) = .ok last ∧
      (last side).state.frames = heard.frames.map XAx25Frame.upper := by
  induction turns generalizing stations with
  | zero => exact ⟨stations, rfl, attends.frames_eq all⟩
  | succ turns ih =>
      rcases attends.turn enough with ⟨next, read, attendsNext, short, more, notLess⟩
      let polled := Function.update stations side ((stations side).poll count)
      have isPolled : ax25Act (stations side) (.poll count) =
          .ok ((stations side).poll count, []) := rfl
      have isRead : ax25Act (polled side) .read = .ok (next, []) := by
        have here : polled side = (stations side).poll count := Function.update_self ..
        rw [here, ax25Act, read]
        rfl
      have now : Function.update polled side next side = next := Function.update_self ..
      have attends' : Ax25Attends (Function.update polled side next side) heard := by
        rw [now]
        exact attendsNext
      rcases ih attends' (by rw [now]; exact short) (by rw [now]; omega) with ⟨last, ran, frames⟩
      refine ⟨last, ?_, frames⟩
      rw [catchUp, run_cons_of_silent isPolled, run_cons_of_silent isRead]
      exact ran

/-! ### Any interleaving -/

theorem ax25Linked_stations {fin fout : Bool → ℤ} (opened : ∀ side, fin side ≠ 0 ∧ fout side ≠ 0)
    (frame : Bool → XAx25Frame) :
    Linked Ax25Attends (ax25Stations fin fout frame) fun _ => ⟨[], []⟩ := by
  intro side
  refine ⟨opened side, [], rfl, .inl (Framing.Line.nil.follows ?_)⟩
  refine ⟨(opened side).1, hdlcQuiet_nil, rfl, rfl, ?_, fun _ => ⟨rfl, rfl⟩⟩
  intro segment found
  cases found

/-- Each station has read the first frames that the other has sent, and turns of its loop find the
rest of them. -/
theorem ax25Traffic_inOrder {fin fout : Bool → ℤ}
    (opened : ∀ side, fin side ≠ 0 ∧ fout side ≠ 0) (frame : Bool → XAx25Frame)
    {events : List (Bool × Ax25Event)} {sent : Bool → Ax25Sent}
    (fair : ∀ side, Fair Ax25Extends ⟨[], []⟩ (eventsOf side events) (sent side)) :
    ∃ after, run ax25Act (ax25Stations fin fout frame) events = .ok after ∧
      ∀ side, let frames := (sent !side).frames.map XAx25Frame.upper
        (after side).state.frames <+: frames ∧
          ∀ count turns, (after side).flight.length ≤ count →
            frames.length ≤ (after side).state.frames.length + turns →
            ∃ last, run ax25Act after (catchUp side count turns) = .ok last ∧
              (last side).state.frames = frames := by
  rcases run_keeps ax25Keeps (ax25Linked_stations opened frame) fair with ⟨after, ran, linked⟩
  refine ⟨after, ran, fun side => ⟨?_, fun count turns enough all => ?_⟩⟩
  · exact (linked side).isPrefix
  · rw [List.length_map] at all
    exact run_catchUp (linked side) enough all

/-- Two stations on a noisy line: one sends a frame that is refused, and then a frame; the other
answers while that is on its way. -/
def ax25Answered : List (Bool × Ax25Event) :=
  [(true, .noise [0x55, 0x1B, 0x7E]),
    (true, .send ax25Refused),
    (true, .send ax25Direct),
    (false, .poll 7),
    (false, .send ax25Direct),
    (false, .poll 100),
    (true, .poll 2),
    (false, .read)]

theorem ax25Traffic_inOrder_answered :
    ∃ after, run ax25Act (ax25Stations (fun _ => 3) (fun _ => 4) fun _ => ax25Direct)
        ax25Answered = .ok after ∧
      ∀ side, let frames := [ax25Direct].map XAx25Frame.upper
        (after side).state.frames <+: frames ∧
          ∀ count turns, (after side).flight.length ≤ count →
            frames.length ≤ (after side).state.frames.length + turns →
            ∃ last, run ax25Act after (catchUp side count turns) = .ok last ∧
              (last side).state.frames = frames := by
  have quiet : HdlcQuiet [0x55, 0x1B, 0x7E] ∧
      HdlcQuiet ([0x55, 0x1B, 0x7E] ++ ax25Refused.line) := by decide +kernel
  have illegal : ¬ax25Refused.Sendable := by decide +kernel
  have fair : ∀ side,
      Fair Ax25Extends ⟨[], []⟩ (eventsOf side ax25Answered) ⟨[ax25Direct], []⟩ := by
    rw [Bool.forall_bool]
    constructor
    · exact .cons (.poll 7) (.cons (.frame valid_ax25Direct) (.cons (.poll 100)
        (.cons .read (.nil _))))
    · exact .cons (.noise quiet.1) (.cons (.refused illegal quiet.2)
        (.cons (.frame valid_ax25Direct) (.cons (.poll 2) (.nil _))))
  exact ax25Traffic_inOrder (by decide) (fun _ => ax25Direct) fair

end Sysio.Radio
