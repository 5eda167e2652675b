import Sysio.XBee.Send

/-!
# What the serial line takes of a packet

A `write` may take fewer bytes than it is given. `iXBeeOut` then goes on at the structure of that
number, where it should be the byte, and forgets how much earlier writes have taken. So the
packet is passed on as it is only if the first `write` takes all of it, or fails
(`passesInOrder_iff`).
-/

namespace Sysio.XBee

open Layout

/-- A `write` fails before `len` bytes are taken. -/
def WriteFails : List XBeeWrite → ℕ → Prop
  | [], _ => False
  | .fails :: _, len => len ≠ 0
  | .takes more :: writes, len => WriteFails writes (len - min (more + 1) len)

/-- The first `write` takes some of the `len` bytes, but not all. -/
def FirstPartial : List XBeeWrite → ℕ → Prop
  | .takes more :: _, len => more + 1 < len
  | _, _ => False

instance (writes : List XBeeWrite) (len : ℕ) : Decidable (FirstPartial writes len) :=
  match writes with
  | .takes more :: _ => inferInstanceAs (Decidable (more + 1 < len))
  | .fails :: _ => inferInstanceAs (Decidable False)
  | [] => inferInstanceAs (Decidable False)

@[simp]
theorem takenPlaces_nil : takenPlaces [] = [] := rfl

@[simp]
theorem takenPlaces_cons (call : XBeeWriteCall) (calls : List XBeeWriteCall) :
    takenPlaces (call :: calls) = List.range' call.place call.taken ++ takenPlaces calls := rfl

@[simp]
theorem size_xXBeePkt : size xXBeePkt = 4 := rfl

section

variable (writes : List XBeeWrite) (place len : ℕ)

theorem not_writeFails_zero : ¬WriteFails writes 0 := by
  induction writes with
  | nil => exact id
  | cons write writes ih =>
      cases write with
      | fails => exact fun fails => fails rfl
      | takes more =>
          intro fails
          rw [WriteFails, Nat.zero_sub] at fails
          exact ih fails

@[simp]
theorem xbeeOutLoop_zero : xbeeOutLoop writes place 0 = ([], 0) := by
  cases writes <;> rfl

/-- The loop reports an error exactly when a `write` fails. -/
theorem code_xbeeOutLoop :
    (xbeeOutLoop writes place len).2 = 0 ∧ ¬WriteFails writes len ∨
      (xbeeOutLoop writes place len).2 = -1 ∧ WriteFails writes len := by
  induction writes generalizing place len with
  | nil =>
      refine .inl ⟨?_, id⟩
      rw [xbeeOutLoop]
      split <;> rfl
  | cons write writes ih =>
      by_cases empty : len = 0
      · subst empty
        exact .inl ⟨rfl, not_writeFails_zero _⟩
      · cases write with
        | fails =>
            refine .inr ⟨?_, empty⟩
            rw [xbeeOutLoop, if_neg empty]
        | takes more =>
            rw [xbeeOutLoop, if_neg empty]
            exact ih _ _

/-- What the loop does first; a `write` that takes nothing is its last. -/
theorem exists_xbeeOutLoop_calls (some : len ≠ 0) :
    ∃ taken tail, (xbeeOutLoop writes place len).1 = ⟨place * 4, len, taken⟩ :: tail ∧
      (taken = 0 → tail = []) := by
  rcases writes with _ | ⟨write, writes⟩
  · refine ⟨len, [], ?_, fun _ => rfl⟩
    rw [xbeeOutLoop, if_neg some]
    rfl
  · cases write with
    | fails =>
        refine ⟨0, [], ?_, fun _ => rfl⟩
        rw [xbeeOutLoop, if_neg some]
        rfl
    | takes more =>
        refine ⟨min (more + 1) len, (xbeeOutLoop writes (min (more + 1) len)
          (len - min (more + 1) len)).1, ?_, fun none => absurd none (by omega)⟩
        rw [xbeeOutLoop, if_neg some]
        rfl

variable {writes len}

/-- A first `write` that is not partial is the only one. -/
theorem xbeeOutLoop_of_not_firstPartial (some : len ≠ 0) (notPartial : ¬FirstPartial writes len) :
    xbeeOutLoop writes place len = ([⟨place * 4, len, len⟩], 0) ∨
      xbeeOutLoop writes place len = ([⟨place * 4, len, 0⟩], -1) := by
  rcases writes with _ | ⟨write, writes⟩
  · left
    rw [xbeeOutLoop, if_neg some]
    rfl
  · cases write with
    | fails =>
        right
        rw [xbeeOutLoop, if_neg some]
        rfl
    | takes more =>
        left
        have whole : min (more + 1) len = len := Nat.min_eq_right (Nat.not_lt.mp notPartial)
        rw [xbeeOutLoop, if_neg some]
        simp only [whole, Nat.sub_self, xbeeOutLoop_zero, size_xXBeePkt]

/-- Behind a partial first `write` comes one that starts at the wrong byte. -/
theorem exists_calls_of_firstPartial (partially : FirstPartial writes len) :
    ∃ taken more tail, 0 < taken ∧ taken < len ∧
      (xbeeOutLoop writes place len).1 =
        ⟨place * 4, len, taken⟩ :: ⟨taken * 4, len - taken, more⟩ :: tail ∧
      (more = 0 → tail = []) := by
  rcases writes with _ | ⟨write, writes⟩
  · exact absurd partially id
  · cases write with
    | fails => exact absurd partially id
    | takes more =>
        have less : more + 1 < len := partially
        have taken : min (more + 1) len = more + 1 := Nat.min_eq_left less.le
        rcases exists_xbeeOutLoop_calls writes (more + 1) (len - (more + 1)) (by omega) with
          ⟨next, tail, calls, last⟩
        refine ⟨more + 1, next, tail, Nat.succ_pos more, less, ?_, last⟩
        rw [xbeeOutLoop, if_neg (by omega)]
        simp only [taken, calls, size_xXBeePkt]

/-- After a partial first `write`, the line has not taken the bytes in their order. -/
theorem takenPlaces_ne_range (partially : FirstPartial writes len) :
    takenPlaces (xbeeOutLoop writes 0 len).1 ≠ List.range len := by
  rcases exists_calls_of_firstPartial 0 partially with
    ⟨taken, more, tail, positive, less, calls, last⟩
  intro inOrder
  have read := congrArg (fun places => places[taken]?) inOrder
  simp only [calls, takenPlaces_cons] at read
  rw [List.getElem?_append_right (by simp), List.getElem?_range less] at read
  rcases more with _ | more
  · simp [last rfl] at read
  · rw [List.getElem?_append_left (by simp)] at read
    simp at read
    omega

end

/-! ### The bytes of a packet -/

/-- The bytes that `iXBeeOut` passes on are, one after the other, the first of the packet, and
all of them exactly when it returns 0; it reads no others. -/
structure PassesInOrder (writes : List XBeeWrite) (pkt : Buffer) (len : UInt8) : Prop where
  inOrder : (takenPlaces (iXBeeOut writes len).calls).map pkt <+: memcpy pkt len.toNat
  whole : (takenPlaces (iXBeeOut writes len).calls).map pkt = memcpy pkt len.toNat ↔
    (iXBeeOut writes len).code = 0
  inside : ∀ call ∈ (iXBeeOut writes len).calls, call.place + call.given ≤ len.toNat

theorem memcpy_eq_range' (pkt : Buffer) (len : ℕ) :
    (List.range' 0 len).map pkt = memcpy pkt len := by
  rw [memcpy, List.range_eq_range']

theorem passesInOrder_of_not_firstPartial {writes : List XBeeWrite} (pkt : Buffer) {len : UInt8}
    (notPartial : ¬FirstPartial writes len.toNat) : PassesInOrder writes pkt len := by
  by_cases empty : len.toNat = 0
  · constructor <;> simp [iXBeeOut, empty, memcpy]
  · rcases xbeeOutLoop_of_not_firstPartial 0 empty notPartial with loop | loop
    · constructor <;> simp [iXBeeOut, loop, memcpy_eq_range']
    · constructor
      · simp [iXBeeOut, loop]
      · simp [iXBeeOut, loop, memcpy, empty]
      · simp [iXBeeOut, loop]

theorem not_passesInOrder_of_firstPartial {writes : List XBeeWrite} {pkt : Buffer} {len : UInt8}
    (partially : FirstPartial writes len.toNat) : ¬PassesInOrder writes pkt len := by
  intro passes
  rcases exists_calls_of_firstPartial 0 partially with
    ⟨taken, more, tail, positive, less, calls, _⟩
  have inside := passes.inside ⟨taken * 4, len.toNat - taken, more⟩ (by simp [iXBeeOut, calls])
  simp only at inside
  omega

/-- Exactly when the first `write` fails or takes everything, the packet is passed on in order. -/
theorem passesInOrder_iff (writes : List XBeeWrite) (pkt : Buffer) (len : UInt8) :
    PassesInOrder writes pkt len ↔ ¬FirstPartial writes len.toNat :=
  ⟨fun passes partially => not_passesInOrder_of_firstPartial partially passes,
    passesInOrder_of_not_firstPartial pkt⟩

/-- A packet of nine bytes, of which the first `write` takes five. -/
theorem not_passesInOrder_five : ¬PassesInOrder [.takes 4] (fun place => UInt8.ofNat place) 9 :=
  not_passesInOrder_of_firstPartial (by decide)

end Sysio.XBee
