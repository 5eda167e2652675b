import Sysio.XBee.SendReceive
import Sysio.Lib.Refinement
import Mathlib.Data.List.Forall2

/-!
# A link

One side makes calls of the send functions, one after the other, of which some are refused, find no
memory or fail to write. What the line takes of them, with noise in between that holds no start
byte, reaches the other side in chunks of any size: its receiver hands over the packets that were
sent, in their order, and no others. The frame ids that the sender counts stay apart over 255
packets.
-/

namespace Sysio.XBee

/-- A call of a send function, and what is on the line before it from elsewhere. -/
structure XBeeTurn where
  noise : List UInt8
  env : XBeeSendEnv
  request : XBeeRequest

/-- The calls, which share the counter of the frame ids. -/
def xbeeTurns : UInt8 → List XBeeTurn → Except Fault (List XBeeSent)
  | _, [] => .ok []
  | frameId, turn :: turns => do
      let sent ← xbeeRequest turn.env frameId turn.request
      let later ← xbeeTurns sent.frameId turns
      return sent :: later

/-- What the line has taken of the packet. -/
def XBeeSent.line (sent : XBeeSent) : List UInt8 :=
  (takenPlaces sent.calls).filterMap fun place => (sent.packet.getD [])[place]?

/-- All that is on the line. -/
def xbeeWire : List XBeeTurn → List XBeeSent → List UInt8
  | turn :: turns, sent :: later => turn.noise ++ sent.line ++ xbeeWire turns later
  | _, _ => []

/-- The noise is none that starts a packet, the request has a frame that fits or is refused for
its arguments, and the first `write` does not stop in the middle. -/
structure XBeeTurn.Fair (turn : XBeeTurn) : Prop where
  noise : xbeePktStart ∉ turn.noise
  request : turn.request.NullArgument ∨ turn.request.Sendable
  whole : ¬FirstPartial turn.env.writes turn.request.total

/-- The call is refused and the line has taken nothing, or the line has taken one frame that has
what was asked for in it. -/
inductive Carries (turn : XBeeTurn) (sent : XBeeSent) : Prop where
  | refused (negative : sent.code < 0) (nothing : sent.line = [])
  | carried (frame : XBeeFrame) (packet : sent.packet = some frame.bytes)
      (line : sent.line = frame.bytes) (code : sent.code = sent.frameId.toNat)
      (notZero : sent.frameId ≠ 0)
      (holds : frame.Holds turn.request.total (turn.request.contents sent.frameId))
      (readsBack : ReadsBack (fun apply => if apply ≠ 0 then 2 else 0) sent.frameId frame.bytes
        turn.request)

/-- The packet, as the receiver hands it over. -/
def XBeeSent.arrival (sent : XBeeSent) : Option (List UInt8 × UInt8) :=
  if sent.code < 0 then none
  else sent.packet.map fun pkt => (pkt, UInt8.ofNat pkt.length)

/-! ### The sender -/

theorem frameId_xbeeSend {env : XBeeSendEnv} {frameId : UInt8} {build : XBeeBuild}
    {sent : XBeeSent} (sends : xbeeSend env frameId build = .ok sent) :
    sent.frameId = if sent.packet.isSome then ucXBeeNextFrameId frameId else frameId := by
  rw [xbeeSend] at sends
  split at sends
  · cases sends
    rfl
  · rcases Refinement.exists_of_bind_eq_ok sends with ⟨pkt, -, returned⟩
    dsimp only at returned
    split at returned
    · cases returned
      rfl
    · cases returned
      rfl

theorem frameId_xbeeRequest {env : XBeeSendEnv} {frameId : UInt8} {request : XBeeRequest}
    {sent : XBeeSent} (sends : xbeeRequest env frameId request = .ok sent) :
    sent.frameId = if sent.packet.isSome then ucXBeeNextFrameId frameId else frameId := by
  rcases xbeeRequest_cases env frameId request with ⟨-, refused⟩ | ⟨-, build, same, -⟩
  · cases refused.symm.trans sends
    rfl
  · exact frameId_xbeeSend (same.symm.trans sends)

theorem filterMap_range (pkt : List UInt8) :
    (List.range pkt.length).filterMap (fun place => pkt[place]?) = pkt := by
  induction pkt with
  | nil => rfl
  | cons c pkt ih =>
      rw [List.length_cons, List.range_succ_eq_map, List.filterMap_cons, List.filterMap_map]
      exact congrArg (c :: ·) ih

/-- The line takes all of the packet, or nothing. -/
theorem line_of_whole {sent : XBeeSent} {writes : List XBeeWrite} {pkt : List UInt8}
    (packet : sent.packet = some pkt) (some_ : pkt.length ≠ 0)
    (whole : ¬FirstPartial writes pkt.length)
    (calls : sent.calls = (xbeeOutLoop writes 0 pkt.length).1) :
    (¬WriteFails writes pkt.length → sent.line = pkt) ∧
      (WriteFails writes pkt.length → sent.line = []) := by
  have code := code_xbeeOutLoop writes 0 pkt.length
  rcases xbeeOutLoop_of_not_firstPartial 0 some_ whole with loop | loop
  · rw [loop] at code calls
    constructor
    · intro _
      rw [XBeeSent.line, calls, packet, takenPlaces_cons, takenPlaces_nil, List.append_nil,
        ← List.range_eq_range']
      exact filterMap_range pkt
    · intro fails
      rcases code with ⟨-, succeeds⟩ | ⟨failed, -⟩
      · exact absurd fails succeeds
      · cases failed
  · rw [loop] at code calls
    constructor
    · intro succeeds
      rcases code with ⟨succeeded, -⟩ | ⟨-, fails⟩
      · cases succeeded
      · exact absurd fails succeeds
    · intro _
      rw [XBeeSent.line, calls]
      rfl

theorem carries_of_fair {turn : XBeeTurn} (fair : turn.Fair) (frameId : UInt8) :
    ∃ sent, xbeeRequest turn.env frameId turn.request = .ok sent ∧ Carries turn sent := by
  rcases xbeeRequest_cases turn.env frameId turn.request with
    ⟨-, refused⟩ | ⟨notNull, build, same, shaped, -⟩
  · have negative : -einval < 0 := by decide
    exact ⟨_, refused, .refused negative rfl⟩
  have sendable := fair.request.resolve_left notNull
  rcases allocated : turn.env.malloc with _ | memory
  · have negative : -enomem < 0 := by decide
    rw [xbeeSend_of_no_memory allocated] at same
    exact ⟨_, same, .refused negative rfl⟩
  rcases exists_xbeeSend shaped allocated sendable.1.2 frameId with
    ⟨sent, frame, sends, holds, packet, calls, outcome⟩
  refine ⟨sent, same.trans sends, ?_⟩
  have id : sent.frameId = ucXBeeNextFrameId frameId := by
    rw [frameId_xbeeSend sends, packet]
    rfl
  have length : frame.bytes.length = turn.request.total := by
    rw [frame.length_bytes, holds.length]
  have some_ : frame.bytes.length ≠ 0 := by
    rw [frame.length_bytes]
    exact Nat.succ_ne_zero _
  have line := line_of_whole packet some_ (length ▸ fair.whole) (length ▸ calls)
  rw [length] at line
  rcases outcome with ⟨succeeds, code, -⟩ | ⟨fails, code, -⟩
  · refine .carried frame packet (line.1 succeeds) (id ▸ code) (id ▸ ucXBeeNextFrameId_ne_zero _)
      (id ▸ holds) ?_
    exact id ▸ readsBack_of_holds sendable holds
  · exact .refused (by rw [code]; decide) (line.2 fails)

theorem exists_xbeeTurns {turns : List XBeeTurn} (fair : ∀ turn ∈ turns, turn.Fair)
    (frameId : UInt8) :
    ∃ sents, xbeeTurns frameId turns = .ok sents ∧ List.Forall₂ Carries turns sents := by
  induction turns generalizing frameId with
  | nil => exact ⟨[], rfl, .nil⟩
  | cons turn turns ih =>
      rcases carries_of_fair (fair turn List.mem_cons_self) frameId with ⟨sent, sends, carries⟩
      rcases ih (fun turn' isIn => fair turn' (List.mem_cons_of_mem _ isIn)) sent.frameId with
        ⟨later, continues, rest⟩
      refine ⟨sent :: later, ?_, .cons carries rest⟩
      rw [xbeeTurns, sends]
      change (xbeeTurns sent.frameId turns >>= fun later => _) = _
      rw [continues]
      rfl

/-! ### The receiver -/

section Receiver

variable {env : XBeeEnv} {xbee : XXBee} {count : ℕ}

theorem foldlM_of_noise (hunting : Hunting xbee count) {noise : List UInt8}
    (quiet : xbeePktStart ∉ noise) : noise.foldlM (xbeeByte env) xbee = .ok xbee := by
  have nothing : noise.dropWhile (· ≠ xbeePktStart) = [] := by
    rw [List.dropWhile_eq_nil_iff]
    intro c isIn
    exact decide_eq_true fun start => quiet (start ▸ isIn)
  rw [foldlM_noise hunting, nothing]
  rfl

theorem exists_foldlM_turn (hunting : Hunting xbee count) (memory : ∀ n, env.alloc n = true)
    {turn : XBeeTurn} (fair : turn.Fair) {sent : XBeeSent} (carries : Carries turn sent) :
    ∃ next count', (turn.noise ++ sent.line).foldlM (xbeeByte env) xbee = .ok next ∧
      Hunting next count' ∧ next.delivered = xbee.delivered ++ sent.arrival.toList := by
  rw [List.foldlM_append, foldlM_of_noise hunting fair.noise]
  cases carries with
  | refused negative nothing =>
      refine ⟨xbee, count, ?_, hunting, ?_⟩
      · rw [nothing]
        rfl
      · rw [XBeeSent.arrival, if_pos negative]
        exact (List.append_nil _).symm
  | carried frame packet line code notZero holds readsBack =>
      have notNull : ¬turn.request.NullArgument := by
        intro isNull
        cases request : turn.request with
        | zbSend data len addr64 addr16 opt radius =>
            rw [request] at isNull readsBack
            rcases isNull with rfl | rfl | rfl
            · exact readsBack
            · cases data <;> exact readsBack
            · cases data <;> cases addr64 <;> exact readsBack
        | sendAt | sendRemoteAt | send64 | send16 =>
            rw [request] at isNull
            exact isNull
      have fits := (fair.request.resolve_left notNull).1.2
      have length := holds.length
      have max : xbeeMaxDataLen = 251 := rfl
      have short : xbeeAnnounced frame.high frame.low ≤ xbeeMaxDataLen := by
        rw [← holds.announced]
        omega
      rcases exists_foldlM_frame env hunting short (memory count) holds.announced with
        ⟨next, read, huntingNext, delivered⟩
      refine ⟨next, count + 1, ?_, huntingNext, ?_⟩
      · rw [line]
        exact read
      · have accepted : ¬sent.code < 0 := by
          rw [code]
          omega
        rw [delivered, XBeeEvent.delivery, if_pos holds.checks, XBeeSent.arrival,
          if_neg accepted, packet]
        rfl

theorem exists_foldlM_wire (hunting : Hunting xbee count) (memory : ∀ n, env.alloc n = true)
    {turns : List XBeeTurn} (fair : ∀ turn ∈ turns, turn.Fair) {sents : List XBeeSent}
    (carried : List.Forall₂ Carries turns sents) :
    ∃ next, (xbeeWire turns sents).foldlM (xbeeByte env) xbee = .ok next ∧
      next.delivered = xbee.delivered ++ sents.filterMap XBeeSent.arrival := by
  induction carried generalizing xbee count with
  | nil => exact ⟨xbee, rfl, (List.append_nil _).symm⟩
  | @cons turn sent turns later carries _ ih =>
      rcases exists_foldlM_turn hunting memory (fair turn List.mem_cons_self) carries with
        ⟨mid, count', read, huntingMid, deliveredMid⟩
      rcases ih huntingMid (fun turn' isIn => fair turn' (List.mem_cons_of_mem _ isIn)) with
        ⟨next, continues, delivered⟩
      refine ⟨next, ?_, ?_⟩
      · rw [xbeeWire, List.foldlM_append, read]
        exact continues
      · rw [delivered, deliveredMid, List.append_assoc]
        congr 1
        cases arrives : sent.arrival with
        | none => rw [List.filterMap_cons_none arrives]; rfl
        | some arrival => rw [List.filterMap_cons_some arrives]; rfl

end Receiver

/-- Three calls: the second finds no memory, and the line fails the third. -/
def threeTurns : List XBeeTurn :=
  [⟨[0x00, 0x55], ⟨some fun _ => 0, []⟩, .send16 (fun place => UInt8.ofNat place) 3 (fun _ => 1) 0⟩,
    ⟨[], ⟨none, []⟩, .sendAt (fun _ => 0x44) none 0⟩,
    ⟨[0x7D], ⟨some fun _ => 0, [.fails]⟩, .sendAt (fun _ => 0x44) none 0⟩]

/-- The frame ids of the packets that the calls have filled in. -/
def frameIds (sents : List XBeeSent) : List UInt8 :=
  sents.filterMap fun sent => if sent.packet.isSome then some sent.frameId else none

theorem toNat_ucXBeeNextFrameId {frameId : UInt8} (notZero : frameId ≠ 0) :
    (ucXBeeNextFrameId frameId).toNat = frameId.toNat % 255 + 1 := by
  revert frameId
  decide +kernel

theorem toNat_iterate (frameId : UInt8) (notZero : frameId ≠ 0) (k : ℕ) :
    (ucXBeeNextFrameId^[k] frameId).toNat = (frameId.toNat - 1 + k) % 255 + 1 := by
  have positive : frameId.toNat ≠ 0 := fun zero => notZero (UInt8.toNat_inj.mp zero)
  have small := frameId.toNat_lt
  induction k with
  | zero =>
      rw [Function.iterate_zero_apply]
      omega
  | succ k ih =>
      have some_ : ucXBeeNextFrameId^[k] frameId ≠ 0 := by
        intro zero
        rw [zero] at ih
        exact absurd ih (Nat.succ_ne_zero _).symm
      rw [Function.iterate_succ_apply', toNat_ucXBeeNextFrameId some_, ih]
      omega

theorem frameIds_eq {frameId : UInt8} {turns : List XBeeTurn} {sents : List XBeeSent}
    (sends : xbeeTurns frameId turns = .ok sents) :
    frameIds sents = (List.range (frameIds sents).length).map
      fun k => ucXBeeNextFrameId^[k] (ucXBeeNextFrameId frameId) := by
  induction turns generalizing frameId sents with
  | nil =>
      cases sends
      rfl
  | cons turn turns ih =>
      rcases Refinement.exists_of_bind_eq_ok sends with ⟨sent, sent_eq, continues⟩
      rcases Refinement.exists_of_bind_eq_ok continues with ⟨later, rest, returned⟩
      cases returned
      have id := frameId_xbeeRequest sent_eq
      have tail := ih rest
      by_cases filled : sent.packet.isSome = true
      · rw [if_pos filled] at id
        have here : frameIds (sent :: later) = sent.frameId :: frameIds later :=
          List.filterMap_cons_some (if_pos filled)
        rw [here, List.length_cons, List.range_succ_eq_map, List.map_cons, List.map_map, tail,
          List.length_map, List.length_range, id]
        rfl
      · rw [if_neg filled] at id
        have here : frameIds (sent :: later) = frameIds later :=
          List.filterMap_cons_none (if_neg filled)
        rw [here, tail, id, List.length_map, List.length_range]

/-- Of 255 packets in a row, refused calls in between or not, no two have one frame id, and none
has the frame id 0. -/
theorem frameIds_apart {frameId : UInt8} {turns : List XBeeTurn} {sents : List XBeeSent}
    (sends : xbeeTurns frameId turns = .ok sents) {window : List UInt8}
    (inside : window <:+: frameIds sents) (short : window.length ≤ 255) :
    window.Nodup ∧ 0 ∉ window := by
  rcases inside with ⟨before, after, split⟩
  have first := ucXBeeNextFrameId_ne_zero frameId
  have ids := frameIds_eq sends
  have place : ∀ k (isIn : k < window.length), window[k] =
      ucXBeeNextFrameId^[before.length + k] (ucXBeeNextFrameId frameId) := by
    intro k isIn
    have length := congrArg List.length split
    rw [List.length_append, List.length_append] at length
    have found : (frameIds sents)[before.length + k]? = some window[k] := by
      rw [← split, List.append_assoc, List.getElem?_append_right (Nat.le_add_right _ _),
        Nat.add_sub_cancel_left, List.getElem?_append_left isIn, List.getElem?_eq_getElem isIn]
    rw [ids, List.getElem?_map, List.getElem?_range (by omega)] at found
    exact (Option.some.inj found).symm
  constructor
  · rw [List.nodup_iff_injective_getElem]
    rintro ⟨i, isIn⟩ ⟨j, isIn'⟩ same
    have places := congrArg UInt8.toNat same
    dsimp only at places
    rw [place i isIn, place j isIn', toNat_iterate _ first, toNat_iterate _ first] at places
    apply Fin.ext
    dsimp only
    omega
  · intro zero
    rcases List.getElem_of_mem zero with ⟨k, isIn, isZero⟩
    have value := congrArg UInt8.toNat (place k isIn)
    rw [isZero, toNat_iterate _ first] at value
    exact absurd value (Nat.succ_ne_zero _).symm

/-- The counter goes over its end, where it leaves out 0. -/
theorem frameIds_apart_threeTurns :
    ∃ sents, xbeeTurns 0xFE threeTurns = .ok sents ∧ frameIds sents = [0xFF, 0x01] ∧
      (frameIds sents).Nodup ∧ 0 ∉ frameIds sents := by
  have ran : ∃ sents, xbeeTurns 0xFE threeTurns = .ok sents ∧ frameIds sents = [0xFF, 0x01] :=
    ⟨_, rfl, by decide +kernel⟩
  rcases ran with ⟨sents, sends, ids⟩
  refine ⟨sents, sends, ids, frameIds_apart sends List.infix_rfl ?_⟩
  rw [ids]
  decide

end Sysio.XBee
