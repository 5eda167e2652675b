import Mathlib.Data.List.TakeWhile
import Sysio.Lib.Refinement
import Sysio.XBee.Reception

/-!
# Who owns a received packet

A byte allocates a packet, stores into the one under reception, hands it over, or drops it when
its checksum is wrong (`LedgerStep`). Whatever was handed over is left alone from then on. A
packet that is dropped is not freed, so that each packet has exactly one owner in a run if and
only if the frames of its stream check (`ownsPackets_iff`).
-/

namespace Sysio.XBee

open Refinement

/-- What a byte does to the packets. -/
inductive LedgerStep (env : XBeeEnv) (xbee next : XXBee) : Prop where
  | waits (early : xbee.bytesRcvd.toNat < 2)
      (later : next.bytesRcvd.toNat ≤ xbee.bytesRcvd.toNat + 1) (heap : next.heap = xbee.heap)
  | allocates (bytes : List UInt8) (two : xbee.bytesRcvd = 2) (three : next.bytesRcvd = 3)
      (packet : next.packet = some xbee.heap.length)
      (heap : next.heap = xbee.heap ++ [⟨bytes, .receiver⟩])
  | stores (index : ℕ) (old bytes : List UInt8) (behind : 3 ≤ xbee.bytesRcvd)
      (pointer : xbee.packet = some index) (block : xbee.heap[index]? = some ⟨old, .receiver⟩)
      (rcvd : next.bytesRcvd = xbee.bytesRcvd + 1) (packet : next.packet = some index)
      (delivered : next.delivered = xbee.delivered)
      (heap : next.heap = xbee.heap.set index ⟨bytes, .receiver⟩)
  | drops (index : ℕ) (old bytes : List UInt8) (behind : 3 ≤ xbee.bytesRcvd)
      (pointer : xbee.packet = some index) (block : xbee.heap[index]? = some ⟨old, .receiver⟩)
      (rcvd : next.bytesRcvd = 0) (delivered : next.delivered = xbee.delivered)
      (heap : next.heap = xbee.heap.set index ⟨bytes, .receiver⟩)
  | settles (index : ℕ) (old bytes : List UInt8) (behind : 3 ≤ xbee.bytesRcvd)
      (pointer : xbee.packet = some index) (block : xbee.heap[index]? = some ⟨old, .receiver⟩)
      (rcvd : next.bytesRcvd = 0)
      (delivered : next.delivered.length = xbee.delivered.length + 1)
      (heap : next.heap = xbee.heap.set index
        ⟨bytes, if env.taken xbee.delivered.length then .callback else .freed⟩)

section

variable {env : XBeeEnv} {xbee next : XXBee} {c : UInt8}

theorem exists_block {index : ℕ} {bytes : List UInt8} (found : xbee.block = .ok (index, bytes)) :
    xbee.packet = some index ∧ xbee.heap[index]? = some ⟨bytes, .receiver⟩ := by
  simp only [XXBee.block] at found
  split at found
  · cases found
  · rename_i pointer
    split at found
    · rename_i block
      cases found
      exact ⟨pointer, block⟩
    · cases found

theorem exists_storePkt_block (stored : xbee.storePkt c = .ok next) :
    ∃ index old bytes, xbee.packet = some index ∧ xbee.heap[index]? = some ⟨old, .receiver⟩ ∧
      next.bytesRcvd = xbee.bytesRcvd + 1 ∧ next.packet = some index ∧
      next.heap = xbee.heap.set index ⟨bytes, .receiver⟩ ∧ next.delivered = xbee.delivered := by
  simp only [XXBee.storePkt] at stored
  split at stored
  · cases stored
  · rename_i index bytes found
    rcases exists_block found with ⟨pointer, block⟩
    split_ifs at stored
    cases stored
    exact ⟨index, bytes, _, pointer, block, rfl, pointer, rfl, rfl⟩

theorem xbeeCheck_heap (checked : xbeeCheck env xbee = .ok next) {index : ℕ} {bytes : List UInt8}
    (pointer : xbee.packet = some index) (block : xbee.heap[index]? = some ⟨bytes, .receiver⟩) :
    next.bytesRcvd = 0 ∧ (next.delivered = xbee.delivered ∧ next.heap = xbee.heap ∨
      next.delivered.length = xbee.delivered.length + 1 ∧ next.heap = xbee.heap.set index
        ⟨bytes, if env.taken xbee.delivered.length then .callback else .freed⟩) := by
  have found : xbee.block = .ok (index, bytes) := by
    simp only [XXBee.block, pointer, block]
  simp only [xbeeCheck, found] at checked
  split at checked
  · cases checked
  · rename_i crc sum
    by_cases inside : xbee.bytesRcvd.toNat - 1 < bytes.length
    · by_cases right : crc = bytes.getD (xbee.bytesRcvd.toNat - 1) 0
      · rw [if_pos inside, if_neg (not_not.mpr right)] at checked
        cases checked
        exact ⟨rfl, .inr ⟨List.length_append, rfl⟩⟩
      · rw [if_pos inside, if_pos right] at checked
        cases checked
        exact ⟨rfl, .inl ⟨rfl, rfl⟩⟩
    · rw [if_neg inside] at checked
      cases checked

theorem ledgerStep_xbeeByte (read : xbeeByte env xbee c = .ok next) :
    LedgerStep env xbee next := by
  rw [xbeeByte] at read
  split_ifs at read with is0 noise is1 is2
  · cases read
    exact .waits (by rw [is0]; decide) (Nat.le_succ _) rfl
  · cases read
    exact .waits (by rw [is0]; decide) (by simp [XXBee.storeHdr, is0]) rfl
  · cases read
    exact .waits (by rw [is1]; decide) (by simp [XXBee.storeHdr, is1]) rfl
  · cases header : xbeeHeader env (xbee.storeHdr c) with
    | mk mid accepted =>
        cases accepted with
        | false =>
            simp only [header] at read
            cases read
        | true =>
            simp only [header] at read
            cases read
            have rcvd := (xbeeHeader_accepted header).2.1
            have three : next.bytesRcvd = 3 := by
              rw [rcvd, XXBee.storeHdr, is2]
              rfl
            simp only [xbeeHeader] at header
            split_ifs at header <;> cases header
            exact .allocates _ is2 three rfl rfl
  · have behind := behindHeader_iff.mpr ⟨is0, is1, is2⟩
    cases stored : { xbee with bytesLeft := xbee.bytesLeft - 1 }.storePkt c with
    | error fault =>
        rw [stored] at read
        cases read
    | ok mid =>
        rcases exists_storePkt_block stored with
          ⟨index, old, bytes, pointer, block, rcvd, packet, heap, delivered⟩
        rw [stored] at read
        simp only at read
        split_ifs at read with more
        · cases read
          exact .stores index old bytes behind pointer block rcvd packet delivered heap
        · have inside : index < xbee.heap.length := (List.getElem?_eq_some_iff.mp block).1
          have here : mid.heap[index]? = some ⟨bytes, .receiver⟩ := by
            rw [heap, List.getElem?_set_self inside]
          rcases xbeeCheck_heap read packet here with ⟨zero, ⟨same, kept⟩ | ⟨longer, given⟩⟩
          · exact .drops index old bytes behind pointer block zero (same.trans delivered)
              (kept.trans heap)
          · refine .settles index old bytes behind pointer block zero ?_ ?_
            · rw [← delivered]
              exact longer
            · simp only [given, heap, List.set_set, delivered]

end

/-! ### Packets that are accounted for -/

/-- Each packet was freed, was taken by a callback, or is the one under reception. -/
def XXBee.Accounted (xbee : XXBee) : Prop :=
  ∀ (index : ℕ) (block : XBeeBlock), xbee.heap[index]? = some block →
    block.owner = .freed ∨ block.owner = .callback ∨
      block.owner = .receiver ∧ xbee.packet = some index ∧ 3 ≤ xbee.bytesRcvd

/-- What the receiver has given away in one state is the same in the other. -/
def XXBee.Keeps (xbee next : XXBee) : Prop :=
  ∀ (index : ℕ) (block : XBeeBlock), xbee.heap[index]? = some block →
    block.owner ≠ .receiver → next.heap[index]? = some block

/-- The receiver owns no block. -/
def Settled (heap : List XBeeBlock) : Prop := ∀ block ∈ heap, block.owner ≠ .receiver

/-- The last packet is under reception, the others are those before. -/
structure Building (xbee : XXBee) (before : List XBeeBlock) : Prop where
  behind : 3 ≤ xbee.bytesRcvd
  packet : xbee.packet = some before.length
  heap : ∃ bytes, xbee.heap = before ++ [⟨bytes, .receiver⟩]

theorem Settled.released {heap : List XBeeBlock} (settled : Settled heap) {index : ℕ}
    {block : XBeeBlock} (found : heap[index]? = some block) :
    block.owner = .freed ∨ block.owner = .callback := by
  have other := settled block (List.mem_of_getElem? found)
  cases owner : block.owner with
  | freed => exact .inl rfl
  | callback => exact .inr rfl
  | receiver => exact absurd owner other

theorem accounted_of_settled {xbee : XXBee} (settled : Settled xbee.heap) : xbee.Accounted :=
  fun _ _ found => (settled.released found).imp id .inl

theorem Building.accounted {xbee : XXBee} {before : List XBeeBlock}
    (building : Building xbee before) (settled : Settled before) : xbee.Accounted := by
  intro index block found
  rcases building.heap with ⟨bytes, heap⟩
  rw [heap] at found
  by_cases early : index < before.length
  · rw [List.getElem?_append_left early] at found
    exact (settled.released found).imp id .inl
  · have last : index = before.length := by
      have inside := (List.getElem?_eq_some_iff.mp found).1
      rw [List.length_append, List.length_singleton] at inside
      omega
    rw [last, List.getElem?_concat_length] at found
    cases found
    exact .inr (.inr ⟨rfl, by rw [last]; exact building.packet, building.behind⟩)

theorem not_accounted_of_hunting {xbee : XXBee} (zero : xbee.bytesRcvd = 0)
    {block : XBeeBlock} (blockMem : block ∈ xbee.heap) (lost : block.owner = .receiver) :
    ¬xbee.Accounted := by
  intro accounted
  rcases List.mem_iff_getElem?.mp blockMem with ⟨index, found⟩
  rcases accounted index block found with freed | callback | ⟨-, -, behind⟩
  · rw [lost] at freed
    cases freed
  · rw [lost] at callback
    cases callback
  · rw [zero] at behind
    exact absurd behind (by decide)

namespace LedgerStep

variable {env : XBeeEnv} {xbee next : XXBee} {before : List XBeeBlock}

theorem keeps (step : LedgerStep env xbee next) : xbee.Keeps next := by
  have others {place : ℕ} {old block' : XBeeBlock} (owned : old.owner = .receiver)
      (block : xbee.heap[place]? = some old) (heap : next.heap = xbee.heap.set place block') :
      xbee.Keeps next := by
    intro index given found other
    have apart : place ≠ index := by
      intro same
      rw [← same, block] at found
      cases found
      exact other owned
    rw [heap, List.getElem?_set_ne apart, found]
  cases step with
  | waits early later heap =>
      intro index given found _
      rw [heap, found]
  | allocates bytes two three packet heap =>
      intro index given found _
      rw [heap, List.getElem?_append_left (List.getElem?_eq_some_iff.mp found).1, found]
  | stores index old bytes behind pointer block rcvd packet delivered heap =>
      exact others rfl block heap
  | drops index old bytes behind pointer block rcvd delivered heap => exact others rfl block heap
  | settles index old bytes behind pointer block rcvd delivered heap => exact others rfl block heap

theorem heap_of_early (step : LedgerStep env xbee next) (early : xbee.bytesRcvd.toNat < 2) :
    next.heap = xbee.heap ∧ next.bytesRcvd.toNat ≤ xbee.bytesRcvd.toNat + 1 := by
  have notBehind : ¬3 ≤ xbee.bytesRcvd := by
    rw [UInt8.le_iff_toNat_le]
    change ¬3 ≤ xbee.bytesRcvd.toNat
    omega
  cases step with
  | waits _ later heap => exact ⟨heap, later⟩
  | allocates bytes two three packet heap =>
      rw [two] at early
      exact absurd early (by decide)
  | stores index old bytes behind pointer block rcvd packet delivered heap =>
      exact absurd behind notBehind
  | drops index old bytes behind pointer block rcvd delivered heap => exact absurd behind notBehind
  | settles index old bytes behind pointer block rcvd delivered heap =>
      exact absurd behind notBehind

theorem building_of_two (step : LedgerStep env xbee next) (two : xbee.bytesRcvd = 2) :
    Building next xbee.heap := by
  have notBehind : ¬(3 : UInt8) ≤ 2 := by decide
  cases step with
  | waits early later heap =>
      rw [two] at early
      exact absurd early (by decide)
  | allocates bytes two three packet heap =>
      exact ⟨by rw [three]; exact UInt8.le_refl 3, packet, bytes, heap⟩
  | stores index old bytes behind pointer block rcvd packet delivered heap =>
      exact absurd (two ▸ behind) notBehind
  | drops index old bytes behind pointer block rcvd delivered heap =>
      exact absurd (two ▸ behind) notBehind
  | settles index old bytes behind pointer block rcvd delivered heap =>
      exact absurd (two ▸ behind) notBehind

/-- A packet under reception stays the last one, until it is complete. -/
theorem of_building (step : LedgerStep env xbee next) (building : Building xbee before) :
    next.bytesRcvd ≠ 0 ∧ Building next before ∨
      next.bytesRcvd = 0 ∧ ∃ block, next.heap = before ++ [block] ∧
        (block.owner = .receiver ↔ next.delivered = xbee.delivered) := by
  rcases building with ⟨behind, packet, heapBytes, heap⟩
  have replaced (block : XBeeBlock) :
      xbee.heap.set before.length block = before ++ [block] := by
    rw [heap, List.set_append_right _ _ (Nat.le_refl _), Nat.sub_self]
    rfl
  have grows : ∀ rcvd : UInt8, 3 ≤ rcvd → rcvd + 1 = 0 ∨ 3 ≤ rcvd + 1 ∧ rcvd + 1 ≠ 0 := by
    decide +kernel
  have same {index : ℕ} (pointer : xbee.packet = some index) : index = before.length :=
    Option.some.inj (pointer.symm.trans packet)
  cases step with
  | waits early later heap' =>
      have three := UInt8.le_iff_toNat_le.mp behind
      simp only [UInt8.reduceToNat] at three
      omega
  | allocates bytes two three packet' heap' =>
      rw [two] at behind
      exact absurd behind (by decide)
  | stores index old bytes behind' pointer block rcvd packet' delivered heap' =>
      rw [same pointer, replaced] at heap'
      rcases grows _ behind with wraps | ⟨more, notZero⟩
      · exact .inr ⟨rcvd.trans wraps, _, heap', fun _ => delivered, fun _ => rfl⟩
      · exact .inl ⟨rcvd ▸ notZero, rcvd ▸ more, packet'.trans (congrArg some (same pointer)),
          bytes, heap'⟩
  | drops index old bytes behind' pointer block rcvd delivered heap' =>
      rw [same pointer, replaced] at heap'
      exact .inr ⟨rcvd, _, heap', fun _ => delivered, fun _ => rfl⟩
  | settles index old bytes behind' pointer block rcvd delivered heap' =>
      rw [same pointer, replaced] at heap'
      refine .inr ⟨rcvd, _, heap', fun owned => ?_, fun still => ?_⟩
      · simp only at owned
        split at owned <;> cases owned
      · rw [still] at delivered
        omega

end LedgerStep

/-! ### Frames -/

section

variable {env : XBeeEnv} {xbee next : XXBee} {count : ℕ}

theorem keeps_foldlM (bytes : List UInt8) (read : bytes.foldlM (xbeeByte env) xbee = .ok next) :
    xbee.Keeps next := by
  induction bytes generalizing xbee with
  | nil =>
      cases read
      exact fun index block found _ => found
  | cons c bytes ih =>
      rw [List.foldlM_cons] at read
      rcases exists_of_bind_eq_ok read with ⟨mid, byte, later⟩
      intro index block found other
      exact ih later index block ((ledgerStep_xbeeByte byte).keeps index block found other) other

theorem xbeeByte_of_foldlM {c : UInt8} (read : [c].foldlM (xbeeByte env) xbee = .ok next) :
    xbeeByte env xbee c = .ok next := by
  rw [List.foldlM_cons] at read
  rcases exists_of_bind_eq_ok read with ⟨last, byte, done⟩
  cases done
  exact byte

theorem heap_foldlM_early (bytes : List UInt8) (early : xbee.bytesRcvd.toNat + bytes.length ≤ 2)
    (read : bytes.foldlM (xbeeByte env) xbee = .ok next) : next.heap = xbee.heap := by
  induction bytes generalizing xbee with
  | nil =>
      cases read
      rfl
  | cons c bytes ih =>
      rw [List.length_cons] at early
      rw [List.foldlM_cons] at read
      rcases exists_of_bind_eq_ok read with ⟨mid, byte, later⟩
      rcases (ledgerStep_xbeeByte byte).heap_of_early (by omega) with ⟨heap, rcvd⟩
      exact (ih (by omega) later).trans heap

theorem building_header (hunting : Hunting xbee count) {high low : UInt8}
    (read : [xbeePktStart, high, low].foldlM (xbeeByte env) xbee = .ok next) :
    Building next xbee.heap := by
  rcases exists_foldlM_header env hunting high with ⟨mid, header, two, -, -, heap, -, -⟩
  have split : [xbeePktStart, high, low] = [xbeePktStart, high] ++ [low] := rfl
  rw [split, List.foldlM_append, header] at read
  rw [← heap]
  exact (ledgerStep_xbeeByte (xbeeByte_of_foldlM read)).building_of_two two

theorem building_foldlM {total : ℕ} {packet : List UInt8} {before : List XBeeBlock}
    (receiving : Receiving xbee count total packet) (building : Building xbee before)
    (bytes : List UInt8) (more : packet.length + bytes.length < total)
    (read : bytes.foldlM (xbeeByte env) xbee = .ok next) : Building next before := by
  induction bytes generalizing xbee packet with
  | nil =>
      cases read
      exact building
  | cons c bytes ih =>
      rw [List.length_cons] at more
      rw [List.foldlM_cons] at read
      rcases exists_receiving_byte env receiving (by omega) c with ⟨mid, byte, later, -⟩
      rw [byte] at read
      have notZero : mid.bytesRcvd ≠ 0 := by
        intro zero
        have rcvd := later.bytesRcvd
        rw [zero, List.length_append, List.length_singleton] at rcvd
        simp at rcvd
      rcases (ledgerStep_xbeeByte byte).of_building building with ⟨-, still⟩ | ⟨zero, -⟩
      · exact ih later still
          (by simp only [List.length_append, List.length_singleton]; omega) read
      · exact absurd zero notZero

variable (env) in
/-- A frame leaves one more packet, which the receiver has given away if the frame checks. -/
theorem exists_foldlM_frame_heap (hunting : Hunting xbee count) {packet : XBeeFrame}
    (short : xbeeAnnounced packet.high packet.low ≤ xbeeMaxDataLen)
    (allocated : env.alloc count = true)
    (whole : packet.payload.length = xbeeAnnounced packet.high packet.low) :
    ∃ next block, packet.bytes.foldlM (xbeeByte env) xbee = .ok next ∧ Hunting next (count + 1) ∧
      next.heap = xbee.heap ++ [block] ∧ (block.owner = .receiver ↔ ¬packet.Checks) := by
  rcases exists_foldlM_frame env hunting short allocated whole with
    ⟨next, read, huntingNext, delivered⟩
  have max : xbeeMaxDataLen = 251 := rfl
  have low : packet.low.toNat = packet.payload.length := by
    rw [whole, xbeeAnnounced] at *
    omega
  rcases exists_receiving env hunting packet.high (by omega : packet.low.toNat ≤ xbeeMaxDataLen)
    allocated with ⟨behind, header, receiving, kept⟩
  have more : [xbeePktStart, packet.high, packet.low].length + packet.payload.length <
      packet.low.toNat + 4 := by
    simp only [List.length_cons, List.length_nil]
    omega
  rcases exists_receiving_foldlM env receiving packet.payload more with ⟨mid, payload, -, keptMid⟩
  have building := building_foldlM receiving (building_header hunting header) packet.payload more
    payload
  have bytes : packet.bytes = [xbeePktStart, packet.high, packet.low] ++ packet.payload ++
      [packet.checksum] := rfl
  have last : xbeeByte env mid packet.checksum = .ok next := by
    rw [bytes, List.foldlM_append, List.foldlM_append, header] at read
    change (packet.payload.foldlM (xbeeByte env) behind >>= _) = _ at read
    rw [payload] at read
    exact xbeeByte_of_foldlM read
  rcases (ledgerStep_xbeeByte last).of_building building with ⟨notZero, -⟩ | ⟨-, block, heap, lost⟩
  · exact absurd huntingNext.bytesRcvd notZero
  · refine ⟨next, block, read, huntingNext, heap, lost.trans ?_⟩
    rw [keptMid, kept, delivered, List.append_right_eq_self, XBeeEvent.delivery]
    split
    · rename_i checks
      exact ⟨fun none => absurd none (List.cons_ne_nil _ _), fun bad => absurd checks bad⟩
    · rename_i bad
      exact ⟨fun _ => bad, fun _ => rfl⟩

end

/-! ### Streams -/

section

variable {env : XBeeEnv} {xbee : XXBee} {count : ℕ}

theorem settled_append {heap : List XBeeBlock} {block : XBeeBlock} (settled : Settled heap)
    (given : block.owner ≠ .receiver) : Settled (heap ++ [block]) := by
  intro other otherMem
  rcases List.mem_append.mp otherMem with early | last
  · exact settled other early
  · rw [List.mem_singleton.mp last]
    exact given

theorem exists_accounted_incomplete (hunting : Hunting xbee count) (settled : Settled xbee.heap)
    {pending : List UInt8}
    (describes : (XBeeToken.incomplete pending).Describes (env.alloc count) pending)
    (start : ∀ c rest, pending = c :: rest → c = xbeePktStart) :
    ∃ next, pending.foldlM (xbeeByte env) xbee = .ok next ∧ next.Accounted := by
  rcases bytesRcvd_incomplete hunting describes start with ⟨next, read, -, -⟩
  refine ⟨next, read, ?_⟩
  rcases describes.2 with short | ⟨high, low, rest, rfl, allocated, fits, more⟩
  · refine accounted_of_settled ?_
    rw [heap_foldlM_early pending (by rw [hunting.bytesRcvd]; simp only [UInt8.reduceToNat]; omega)
      read]
    exact settled
  · have max : xbeeMaxDataLen = 251 := rfl
    have low_eq : low.toNat = xbeeAnnounced high low := by
      rw [xbeeAnnounced] at *
      omega
    rcases exists_receiving env hunting high (by omega : low.toNat ≤ xbeeMaxDataLen) allocated with
      ⟨behind, header, receiving, -⟩
    have split : xbeePktStart :: high :: low :: rest = [xbeePktStart, high, low] ++ rest := rfl
    rw [split, List.foldlM_append, header] at read
    have building := building_foldlM receiving (building_header hunting header) rest
      (by simp only [List.length_cons, List.length_nil]; omega) read
    exact building.accounted settled

/-- While every frame checks, every packet is accounted for. -/
theorem exists_accounted (hunting : Hunting xbee count) (settled : Settled xbee.heap)
    {stream : List UInt8} (accepted : .refused ∉ (xbeeParse env.alloc count stream).events)
    (checks : ∀ frame, .frame frame ∈ (xbeeParse env.alloc count stream).events → frame.Checks) :
    ∃ next, stream.foldlM (xbeeByte env) xbee = .ok next ∧ next.Accounted := by
  fun_induction xbeeParse env.alloc count stream generalizing xbee with
  | case1 count stream rest token ih => simp [XBeeParse.after] at accepted
  | case2 count stream rest token ih => simp [XBeeParse.after] at accepted
  | case3 count stream packet rest token ih =>
      have describes := describes_xbeeToken (env.alloc count) stream
      rw [token] at describes
      rcases describes with ⟨found, short, allocated, whole⟩
      rcases exists_foldlM_frame_heap env hunting short allocated whole with
        ⟨mid, block, read, huntingMid, heap, lost⟩
      have right : packet.Checks := checks packet (by simp [XBeeParse.after])
      have settledMid : Settled mid.heap := by
        rw [heap]
        exact settled_append settled fun owned => lost.mp owned right
      rcases ih huntingMid settledMid
        (fun refused => accepted (by simp [XBeeParse.after, refused]))
        (fun frame frameMem => checks frame (by simp [XBeeParse.after, frameMem])) with
        ⟨next, later, accounted⟩
      refine ⟨next, ?_, accounted⟩
      rw [foldlM_noise hunting, found, List.foldlM_append, read]
      exact later
  | case4 count stream pending token =>
      have describes := describes_xbeeToken (env.alloc count) stream
      rw [token] at describes
      have found := describes.1
      rw [found] at describes
      rcases exists_accounted_incomplete hunting settled describes
        (fun c rest split => eq_start_of_dropWhile (found.trans split)) with
        ⟨next, read, accounted⟩
      refine ⟨next, ?_, accounted⟩
      rw [foldlM_noise hunting, found]
      exact read

theorem foldlM_takeWhile (hunting : Hunting xbee count) (stream : List UInt8) :
    (stream.takeWhile (· ≠ xbeePktStart)).foldlM (xbeeByte env) xbee = .ok xbee := by
  have noise : (stream.takeWhile (· ≠ xbeePktStart)).dropWhile (· ≠ xbeePktStart) = [] :=
    List.dropWhile_eq_nil_iff.mpr fun c cMem =>
      @List.mem_takeWhile_imp _ (· ≠ xbeePktStart) stream c cMem
  rw [foldlM_noise hunting, noise]
  rfl

/-- The receiver is between two frames before each frame that no refused header precedes. -/
theorem exists_hunting_before (hunting : Hunting xbee count) {stream : List UInt8}
    {packet : XBeeFrame} (packetMem : .frame packet ∈
      (xbeeParse env.alloc count stream).events.takeWhile (· ≠ .refused)) :
    ∃ bytes mid later, bytes ++ packet.bytes <+: stream ∧
      bytes.foldlM (xbeeByte env) xbee = .ok mid ∧ Hunting mid later ∧
      xbeeAnnounced packet.high packet.low ≤ xbeeMaxDataLen ∧ env.alloc later = true ∧
      packet.payload.length = xbeeAnnounced packet.high packet.low := by
  fun_induction xbeeParse env.alloc count stream generalizing xbee with
  | case1 count stream rest token ih => simp [XBeeParse.after] at packetMem
  | case2 count stream rest token ih => simp [XBeeParse.after] at packetMem
  | case3 count stream first rest token ih =>
      have describes := describes_xbeeToken (env.alloc count) stream
      rw [token] at describes
      rcases describes with ⟨found, short, allocated, whole⟩
      have cut : stream.takeWhile (· ≠ xbeePktStart) ++ (first.bytes ++ rest) = stream := by
        rw [← found]
        exact List.takeWhile_append_dropWhile
      have noise : (stream.takeWhile (· ≠ xbeePktStart)).foldlM (xbeeByte env) xbee = .ok xbee :=
        foldlM_takeWhile hunting stream
      rw [XBeeParse.after, List.takeWhile_cons_of_pos (by simp)] at packetMem
      rcases List.mem_cons.mp packetMem with same | later
      · cases same
        refine ⟨stream.takeWhile (· ≠ xbeePktStart), xbee, count, ?_, noise, hunting, short,
          allocated, whole⟩
        exact ⟨rest, by rw [List.append_assoc, cut]⟩
      · rcases exists_foldlM_frame env hunting short allocated whole with
          ⟨next, read, huntingNext, -⟩
        rcases ih huntingNext later with ⟨bytes, mid, laterCount, cutLater, readLater, huntingMid,
          facts⟩
        refine ⟨stream.takeWhile (· ≠ xbeePktStart) ++ (first.bytes ++ bytes), mid, laterCount, ?_,
          ?_, huntingMid, facts⟩
        · have longer := (List.prefix_append_right_inj (stream.takeWhile (· ≠ xbeePktStart))).mpr
            ((List.prefix_append_right_inj first.bytes).mpr cutLater)
          rw [cut] at longer
          rw [List.append_assoc, List.append_assoc]
          exact longer
        · rw [List.foldlM_append, noise]
          change (first.bytes ++ bytes).foldlM (xbeeByte env) xbee = _
          rw [List.foldlM_append, read]
          exact readLater
  | case4 count stream pending token => simp at packetMem

theorem takeWhile_of_accepted {events : List XBeeEvent} (accepted : .refused ∉ events) :
    events.takeWhile (· ≠ .refused) = events :=
  List.takeWhile_eq_self_iff.mpr fun event eventMem =>
    decide_eq_true fun refused : event = .refused => accepted (refused ▸ eventMem)

/-- Behind a frame that does not check, its packet is lost. -/
theorem exists_not_accounted (hunting : Hunting xbee count) {stream : List UInt8}
    (accepted : .refused ∉ (xbeeParse env.alloc count stream).events) {bad : XBeeFrame}
    (badMem : .frame bad ∈ (xbeeParse env.alloc count stream).events) (wrong : ¬bad.Checks) :
    ∃ bytes next, bytes <+: stream ∧ bytes.foldlM (xbeeByte env) xbee = .ok next ∧
      ¬next.Accounted := by
  rw [← takeWhile_of_accepted accepted] at badMem
  rcases exists_hunting_before hunting badMem with
    ⟨bytes, mid, later, cut, read, huntingMid, short, allocated, whole⟩
  rcases exists_foldlM_frame_heap env huntingMid short allocated whole with
    ⟨next, block, frame, huntingNext, heap, lost⟩
  refine ⟨bytes ++ bad.bytes, next, cut, ?_, ?_⟩
  · rw [List.foldlM_append, read]
    exact frame
  · refine not_accounted_of_hunting huntingNext.bytesRcvd ?_ (lost.mpr wrong)
    rw [heap]
    exact List.mem_append_right _ List.mem_cons_self

end

/-! ### Prefixes of a stream -/

/-- A token of a longer stream. -/
def XBeeToken.append (more : List UInt8) : XBeeToken → XBeeToken
  | .tooLong rest => .tooLong (rest ++ more)
  | .noMemory rest => .noMemory (rest ++ more)
  | .frame packet rest => .frame packet (rest ++ more)
  | .incomplete pending => .incomplete pending

/-- What comes later does not change a token that is complete. -/
theorem xbeeToken_append {allocated : Bool} {stream : List UInt8}
    (complete : ∀ pending, xbeeToken allocated stream ≠ .incomplete pending) (more : List UInt8) :
    xbeeToken allocated (stream ++ more) = (xbeeToken allocated stream).append more := by
  rcases found : stream.dropWhile (· ≠ xbeePktStart) with _ | ⟨first, _ | ⟨high, _ | ⟨low, rest⟩⟩⟩
  · exact absurd (by simp only [xbeeToken, found]) (complete [])
  · exact absurd (by simp only [xbeeToken, found]) (complete [first])
  · exact absurd (by simp only [xbeeToken, found]) (complete [first, high])
  have longer : (stream ++ more).dropWhile (· ≠ xbeePktStart) =
      first :: high :: low :: (rest ++ more) := by
    rw [List.dropWhile_append, found]
    rfl
  by_cases long : xbeeAnnounced high low > xbeeMaxDataLen
  · simp only [xbeeToken, found, longer, if_pos long, XBeeToken.append]
  cases allocated with
  | false =>
      simp only [xbeeToken, found, longer, if_neg long, Bool.not_false, if_true,
        XBeeToken.append]
  | true =>
      cases left : rest.drop (xbeeAnnounced high low) with
      | nil =>
          have cut : xbeeToken true stream =
              .incomplete (xbeePktStart :: high :: low :: rest) := by
            simp only [xbeeToken, found, if_neg long, Bool.not_true, Bool.false_eq_true, if_false,
              left]
          exact absurd cut (complete _)
      | cons checksum later =>
          have enough : xbeeAnnounced high low ≤ rest.length := by
            have length := congrArg List.length left
            rw [List.length_drop, List.length_cons] at length
            omega
          have left' : (rest ++ more).drop (xbeeAnnounced high low) =
              checksum :: (later ++ more) := by
            rw [List.drop_append_of_le_length enough, left]
            rfl
          simp only [xbeeToken, found, longer, if_neg long, Bool.not_true, Bool.false_eq_true,
            if_false, left, left', XBeeToken.append, List.take_append_of_le_length enough]

section

variable {alloc : ℕ → Bool} {count : ℕ} {stream rest : List UInt8}

theorem xbeeParse_tooLong (token : xbeeToken (alloc count) stream = .tooLong rest) :
    xbeeParse alloc count stream = (xbeeParse alloc count rest).after .refused := by
  rw [xbeeParse]
  split <;> simp_all

theorem xbeeParse_noMemory (token : xbeeToken (alloc count) stream = .noMemory rest) :
    xbeeParse alloc count stream = (xbeeParse alloc (count + 1) rest).after .refused := by
  rw [xbeeParse]
  split <;> simp_all

theorem xbeeParse_frame {packet : XBeeFrame}
    (token : xbeeToken (alloc count) stream = .frame packet rest) :
    xbeeParse alloc count stream = (xbeeParse alloc (count + 1) rest).after (.frame packet) := by
  rw [xbeeParse]
  split <;> simp_all

end

theorem events_prefix (alloc : ℕ → Bool) (count : ℕ) (stream more : List UInt8) :
    (xbeeParse alloc count stream).events <+: (xbeeParse alloc count (stream ++ more)).events := by
  fun_induction xbeeParse alloc count stream with
  | case1 count stream rest token ih =>
      have same := xbeeToken_append (by rw [token]; simp) more
      rw [token] at same
      rw [xbeeParse_tooLong same]
      exact (List.prefix_cons_inj _).mpr ih
  | case2 count stream rest token ih =>
      have same := xbeeToken_append (by rw [token]; simp) more
      rw [token] at same
      rw [xbeeParse_noMemory same]
      exact (List.prefix_cons_inj _).mpr ih
  | case3 count stream packet rest token ih =>
      have same := xbeeToken_append (by rw [token]; simp) more
      rw [token] at same
      rw [xbeeParse_frame same]
      exact (List.prefix_cons_inj _).mpr ih
  | case4 count stream pending token => exact List.nil_prefix

/-! ### Runs -/

/-- However the stream is cut, and wherever it is stopped, every packet has exactly one owner;
and what the receiver has given away once, it leaves alone. -/
structure OwnsPackets (env : XBeeEnv) (chunks : List XBeeChunk) : Prop where
  accounted : ∀ calls, xbeeStream calls <+: xbeeStream chunks →
    ∃ xbee, xbeeRun env xbeeOpened calls = .ok xbee ∧ xbee.Accounted
  keeps : ∀ calls more xbee next, xbeeStream (calls ++ more) <+: xbeeStream chunks →
    xbeeRun env xbeeOpened calls = .ok xbee → xbeeRun env xbee more = .ok next → xbee.Keeps next

section

variable {env : XBeeEnv} {chunks : List XBeeChunk}

theorem keeps_xbeeRun {calls more : List XBeeChunk} {xbee next : XXBee}
    (run : xbeeRun env xbeeOpened calls = .ok xbee) (later : xbeeRun env xbee more = .ok next) :
    xbee.Keeps next := by
  have whole : xbeeRun env xbeeOpened (calls ++ more) = .ok next := by
    rw [xbeeRun, List.foldlM_append, ← xbeeRun, run]
    exact later
  have bytes := xbeeRun_eq_ok_iff.mp whole
  rw [xbeeStream, List.flatMap_append, List.foldlM_append, ← xbeeStream, ← xbeeStream,
    xbeeRun_eq_ok_iff.mp run] at bytes
  exact keeps_foldlM _ bytes

theorem settled_opened : Settled xbeeOpened.heap :=
  fun _ blockMem => absurd blockMem List.not_mem_nil

theorem ownsPackets_of_checks
    (accepted : .refused ∉ (xbeeParse env.alloc 0 (xbeeStream chunks)).events)
    (checks : ∀ frame, .frame frame ∈ (xbeeParse env.alloc 0 (xbeeStream chunks)).events →
      frame.Checks) : OwnsPackets env chunks where
  accounted calls cut := by
    rcases cut with ⟨rest, whole⟩
    have early := events_prefix env.alloc 0 (xbeeStream calls) rest
    rw [whole] at early
    rcases exists_accounted hunting_opened settled_opened
      (fun refused => accepted (early.subset refused))
      (fun frame frameMem => checks frame (early.subset frameMem)) with ⟨xbee, read, accounted⟩
    exact ⟨xbee, xbeeRun_eq_ok_iff.mpr read, accounted⟩
  keeps _ _ _ _ _ run later := keeps_xbeeRun run later

/-- A chunk for each byte. -/
def bytewise (bytes : List UInt8) : List XBeeChunk :=
  bytes.map fun c => ⟨[c], Nat.one_lt_succ_succ 254⟩

theorem xbeeStream_bytewise (bytes : List UInt8) : xbeeStream (bytewise bytes) = bytes := by
  rw [xbeeStream, bytewise, List.flatMap_map]
  exact List.flatMap_singleton' bytes

theorem not_ownsPackets_of_bad
    (accepted : .refused ∉ (xbeeParse env.alloc 0 (xbeeStream chunks)).events) {bad : XBeeFrame}
    (badMem : .frame bad ∈ (xbeeParse env.alloc 0 (xbeeStream chunks)).events)
    (wrong : ¬bad.Checks) : ¬OwnsPackets env chunks := by
  intro owns
  rcases exists_not_accounted hunting_opened accepted badMem wrong with
    ⟨bytes, next, cut, read, lost⟩
  rw [← xbeeStream_bytewise bytes] at cut read
  rcases owns.accounted (bytewise bytes) cut with ⟨xbee, run, accounted⟩
  rw [xbeeRun_eq_ok_iff, read] at run
  cases run
  exact lost accounted

end

/-- As long as no header is refused, the packets of a run are owned exactly when every frame of
the stream checks. -/
theorem ownsPackets_iff {env : XBeeEnv} {chunks : List XBeeChunk}
    (accepted : .refused ∉ (xbeeParse env.alloc 0 (xbeeStream chunks)).events) :
    OwnsPackets env chunks ↔
      ∀ frame, .frame frame ∈ (xbeeParse env.alloc 0 (xbeeStream chunks)).events →
        frame.Checks := by
  refine ⟨fun owns frame frameMem => ?_, ownsPackets_of_checks accepted⟩
  by_contra wrong
  exact not_ownsPackets_of_bad accepted frameMem wrong owns

/-- A frame that a callback refuses, cut in its middle. -/
theorem ownsPackets_refused :
    OwnsPackets ⟨fun _ => true, fun _ => false⟩
      [⟨[0x00, 0x7E, 0x00, 0x02], by decide⟩, ⟨[0x23, 0x11, 0xCB], by decide⟩] := by
  have events : (xbeeParse (fun _ => true) 0 (xbeeStream
      [⟨[0x00, 0x7E, 0x00, 0x02], by decide⟩, ⟨[0x23, 0x11, 0xCB], by decide⟩])).events =
        [.frame ⟨0, 2, [0x23, 0x11], 0xCB⟩] := by decide +kernel
  refine (ownsPackets_iff (by decide +kernel)).mpr fun frame frameMem => ?_
  rw [events] at frameMem
  cases List.mem_singleton.mp frameMem
  decide +kernel

/-- A frame of one byte with a wrong checksum. -/
theorem not_ownsPackets_wrong :
    ¬OwnsPackets ⟨fun _ => true, fun _ => true⟩
      [⟨[0x7E, 0x00, 0x01, 0x41, 0x00], by decide⟩] :=
  @not_ownsPackets_of_bad _ _ (by decide +kernel) ⟨0, 1, [0x41], 0x00⟩ (by decide +kernel)
    (by decide +kernel)

end Sysio.XBee
