import Mathlib.Data.UInt
import Sysio.XBee.Bytewise

/-!
# The frames of a stream

A reference parser for a whole stream of bytes. It cuts the stream into frames and refused
headers: the length that a header announces is compared as it stands, a refused header is
skipped, and the parser goes on behind it.
-/

namespace Sysio.XBee

/-- A frame as the module sends it: both bytes of its length, its payload and its checksum. -/
structure XBeeFrame where
  high : UInt8
  low : UInt8
  payload : List UInt8
  checksum : UInt8
deriving DecidableEq, Repr

namespace XBeeFrame

/-- The bytes of a frame on the line. -/
def bytes (frame : XBeeFrame) : List UInt8 :=
  xbeePktStart :: frame.high :: frame.low :: (frame.payload ++ [frame.checksum])

/-- The checksum is right. -/
def Checks (frame : XBeeFrame) : Prop := frame.checksum = 0xFF - frame.payload.sum

instance (frame : XBeeFrame) : Decidable frame.Checks := inferInstanceAs (Decidable (_ = _))

end XBeeFrame

/-- The length that a header announces. -/
def xbeeAnnounced (high low : UInt8) : ℕ := high.toNat * 256 + low.toNat

/-- What a stream starts with: a header that is refused, for its length or because the
allocation it asks for fails, a frame, or bytes that are neither yet. -/
inductive XBeeToken where
  | tooLong (rest : List UInt8)
  | noMemory (rest : List UInt8)
  | frame (frame : XBeeFrame) (rest : List UInt8)
  | incomplete (pending : List UInt8)

/-- What a stream starts with, noise left out; `allocated` tells whether the allocation succeeds. -/
def xbeeToken (allocated : Bool) (stream : List UInt8) : XBeeToken :=
  match stream.dropWhile (· ≠ xbeePktStart) with
  | _ :: high :: low :: rest =>
      if xbeeAnnounced high low > xbeeMaxDataLen then .tooLong rest
      else if !allocated then .noMemory rest
      else
        match rest.drop (xbeeAnnounced high low) with
        | checksum :: later =>
            .frame ⟨high, low, rest.take (xbeeAnnounced high low), checksum⟩ later
        | [] => .incomplete (xbeePktStart :: high :: low :: rest)
  | pending => .incomplete pending

/-- What a stream holds for the receiver: a refused header or a whole frame. -/
inductive XBeeEvent where
  | refused
  | frame (frame : XBeeFrame)
deriving DecidableEq, Repr

/-- The events of a stream, and the bytes of the frame that it ends in the middle of. -/
structure XBeeParse where
  events : List XBeeEvent
  pending : List UInt8
deriving DecidableEq, Repr

/-- An event before those of the rest. -/
def XBeeParse.after (event : XBeeEvent) (parse : XBeeParse) : XBeeParse :=
  { parse with events := event :: parse.events }

/-- What a token says of the stream, noise left out. -/
def XBeeToken.Describes (allocated : Bool) (found : List UInt8) : XBeeToken → Prop
  | .tooLong rest => ∃ high low, found = xbeePktStart :: high :: low :: rest ∧
      xbeeMaxDataLen < xbeeAnnounced high low
  | .noMemory rest => ∃ high low, found = xbeePktStart :: high :: low :: rest ∧
      xbeeAnnounced high low ≤ xbeeMaxDataLen ∧ allocated = false
  | .frame packet rest => found = packet.bytes ++ rest ∧
      xbeeAnnounced packet.high packet.low ≤ xbeeMaxDataLen ∧ allocated = true ∧
      packet.payload.length = xbeeAnnounced packet.high packet.low
  | .incomplete pending => found = pending ∧ (pending.length < 3 ∨
      ∃ high low rest, pending = xbeePktStart :: high :: low :: rest ∧ allocated = true ∧
        xbeeAnnounced high low ≤ xbeeMaxDataLen ∧ rest.length ≤ xbeeAnnounced high low)

theorem eq_start_of_dropWhile {stream rest : List UInt8} {c : UInt8}
    (found : stream.dropWhile (· ≠ xbeePktStart) = c :: rest) : c = xbeePktStart := by
  have head := List.head?_dropWhile_not (· ≠ xbeePktStart) stream
  rw [found] at head
  simpa using head

theorem describes_xbeeToken (allocated : Bool) (stream : List UInt8) :
    (xbeeToken allocated stream).Describes allocated
      (stream.dropWhile (· ≠ xbeePktStart)) := by
  rw [xbeeToken]
  split
  · rename_i start high low rest found
    rw [eq_start_of_dropWhile found] at found
    split_ifs with long failed
    · exact ⟨high, low, found, long⟩
    · exact ⟨high, low, found, not_lt.mp long, by simpa using failed⟩
    · have short := not_lt.mp long
      have asked : allocated = true := by simpa using failed
      split
      · rename_i checksum later left
        have enough : xbeeAnnounced high low < rest.length := by
          have length := congrArg List.length left
          simp only [List.length_drop, List.length_cons] at length
          omega
        refine ⟨?_, short, asked, by simp [enough.le]⟩
        rw [found, XBeeFrame.bytes, ← List.take_append_drop (xbeeAnnounced high low) rest, left]
        simp [enough.le]
      · rename_i left
        exact ⟨found, Or.inr ⟨high, low, rest, rfl, asked, short, List.drop_eq_nil_iff.mp left⟩⟩
  · rename_i short
    refine ⟨rfl, Or.inl ?_⟩
    rcases found : stream.dropWhile (· ≠ xbeePktStart) with _ | ⟨a, _ | ⟨b, _ | ⟨c, rest⟩⟩⟩
    · simp
    · simp
    · simp
    · exact absurd found (short a b c rest)

/-- The stream behind a token. -/
def XBeeToken.rest : XBeeToken → List UInt8
  | .tooLong rest => rest
  | .noMemory rest => rest
  | .frame _ rest => rest
  | .incomplete _ => []

theorem length_rest_lt {allocated : Bool} {stream : List UInt8} {token : XBeeToken}
    (token_eq : xbeeToken allocated stream = token)
    (found : ∀ pending, token ≠ .incomplete pending) : token.rest.length < stream.length := by
  have shorter : (stream.dropWhile (· ≠ xbeePktStart)).length ≤ stream.length :=
    (List.dropWhile_suffix _).length_le
  have describes := describes_xbeeToken allocated stream
  rw [token_eq] at describes
  cases token with
  | tooLong rest =>
      rcases describes with ⟨high, low, bytes, _⟩
      rw [bytes] at shorter
      exact (by simp only [List.length_cons] at shorter; omega : rest.length < stream.length)
  | noMemory rest =>
      rcases describes with ⟨high, low, bytes, _⟩
      rw [bytes] at shorter
      exact (by simp only [List.length_cons] at shorter; omega : rest.length < stream.length)
  | frame packet rest =>
      rw [describes.1, XBeeFrame.bytes] at shorter
      simp only [List.cons_append, List.length_cons, List.length_append] at shorter
      have less : rest.length < stream.length := by omega
      exact less
  | incomplete pending => exact absurd rfl (found pending)

/-- The reference parser: `alloc` gives the outcome of each allocation, of which `count` were
made before. -/
def xbeeParse (alloc : ℕ → Bool) (count : ℕ) (stream : List UInt8) : XBeeParse :=
  match token : xbeeToken (alloc count) stream with
  | .tooLong rest => (xbeeParse alloc count rest).after .refused
  | .noMemory rest => (xbeeParse alloc (count + 1) rest).after .refused
  | .frame frame rest => (xbeeParse alloc (count + 1) rest).after (.frame frame)
  | .incomplete pending => ⟨[], pending⟩
termination_by stream.length
decreasing_by all_goals exact length_rest_lt token (by simp)

theorem length_pending_le (alloc : ℕ → Bool) (count : ℕ) (stream : List UInt8) :
    (xbeeParse alloc count stream).pending.length ≤ stream.length := by
  fun_induction xbeeParse alloc count stream with
  | case1 count stream rest token ih => exact ih.trans (length_rest_lt token (by simp)).le
  | case2 count stream rest token ih => exact ih.trans (length_rest_lt token (by simp)).le
  | case3 count stream packet rest token ih => exact ih.trans (length_rest_lt token (by simp)).le
  | case4 count stream pending token =>
      have describes := describes_xbeeToken (alloc count) stream
      rw [token] at describes
      rw [← describes.1]
      exact (List.dropWhile_suffix _).length_le

/-- A frame whose checksum is right is handed over, with its length. -/
def XBeeEvent.delivery : XBeeEvent → List (List UInt8 × UInt8)
  | .refused => []
  | .frame packet =>
      if packet.Checks then [(packet.bytes, UInt8.ofNat packet.bytes.length)] else []

/-- The packets to hand over, each with its length. -/
def XBeeParse.deliveries (parse : XBeeParse) : List (List UInt8 × UInt8) :=
  parse.events.flatMap XBeeEvent.delivery

end Sysio.XBee
