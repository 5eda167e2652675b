import Mathlib.Data.List.GetD
import Sysio.XBee.Frames

/-!
# What the receiver hands over

`Hunting` and `Receiving` describe the receiver between two frames and behind a header. As long
as no header is refused, it hands over the frames that the reference parser finds
(`foldlM_of_accepted`); once one was refused, it faults or is not where the parser is
(`bytesRcvd_ne_of_refused`).
-/

namespace Sysio.XBee

/-- The receiver waits for a start delimiter, `count` packets having been asked for. -/
structure Hunting (xbee : XXBee) (count : ℕ) : Prop where
  bytesRcvd : xbee.bytesRcvd = 0
  allocs : xbee.allocs = count
  hdrData : xbee.hdrData.length = 3

/-- The receiver after the bytes `packet` of a packet of `total` bytes. -/
structure Receiving (xbee : XXBee) (count total : ℕ) (packet : List UInt8) : Prop where
  bytesRcvd : xbee.bytesRcvd.toNat = packet.length
  bytesLeft : packet.length + xbee.bytesLeft.toNat = total
  total_le : total ≤ 255
  behind : 3 ≤ packet.length
  missing : packet.length < total
  allocs : xbee.allocs = count
  hdrData : xbee.hdrData.length = 3
  block : ∃ index bytes, xbee.packet = some index ∧
    xbee.heap[index]? = some ⟨bytes, .receiver⟩ ∧ bytes.length = total ∧
    bytes.take packet.length = packet

section

variable {env : XBeeEnv} {xbee : XXBee} {count : ℕ}

theorem hunting_opened : Hunting xbeeOpened 0 := ⟨rfl, rfl, rfl⟩

theorem foldlM_noise (hunting : Hunting xbee count) (stream : List UInt8) :
    stream.foldlM (xbeeByte env) xbee =
      (stream.dropWhile (· ≠ xbeePktStart)).foldlM (xbeeByte env) xbee := by
  induction stream with
  | nil => rfl
  | cons c stream ih =>
      by_cases start : c = xbeePktStart
      · simp [start]
      · have skipped : xbeeByte env xbee c = .ok xbee := by
          rw [xbeeByte, if_pos hunting.bytesRcvd, if_pos start]
        rw [List.foldlM_cons, skipped, List.dropWhile_cons_of_pos (by simpa using start)]
        exact ih

variable (env) in
theorem exists_foldlM_header (hunting : Hunting xbee count) (high : UInt8) :
    ∃ next, [xbeePktStart, high].foldlM (xbeeByte env) xbee = .ok next ∧ next.bytesRcvd = 2 ∧
      next.allocs = count ∧ next.packet = xbee.packet ∧ next.heap = xbee.heap ∧
      next.delivered = xbee.delivered ∧ ∃ last, next.hdrData = [xbeePktStart, high, last] := by
  rcases hdr : xbee.hdrData with _ | ⟨first, _ | ⟨second, _ | ⟨third, _ | more⟩⟩⟩
  all_goals have three := hunting.hdrData; rw [hdr] at three; simp at three
  let mid := xbee.storeHdr xbeePktStart
  have one : mid.bytesRcvd = 1 := by simp [mid, XXBee.storeHdr, hunting.bytesRcvd]
  have read0 : xbeeByte env xbee xbeePktStart = .ok mid := by
    rw [xbeeByte, if_pos hunting.bytesRcvd, if_neg (by simp)]
  have read1 : xbeeByte env mid high = .ok (mid.storeHdr high) := by
    rw [xbeeByte, one, if_neg (by decide), if_pos rfl]
  refine ⟨mid.storeHdr high, ?_, ?_, hunting.allocs, rfl, rfl, rfl, third, ?_⟩
  · rw [List.foldlM_cons, read0]
    change [high].foldlM (xbeeByte env) mid = _
    rw [List.foldlM_cons, read1]
    rfl
  · simp [XXBee.storeHdr, one]
  · simp [XXBee.storeHdr, mid, hunting.bytesRcvd, hdr]

theorem ofNat_xbeeAnnounced (high low : UInt8) : UInt8.ofNat (xbeeAnnounced high low) = low := by
  apply UInt8.toNat_inj.mp
  have := low.toNat_lt
  simp only [xbeeAnnounced, UInt8.toNat_ofNat']
  omega

variable (env) in
theorem xbeeByte_header (xbee : XXBee) (two : xbee.bytesRcvd = 2) (low : UInt8) {high last : UInt8}
    (hdr : xbee.hdrData = [xbeePktStart, high, last]) :
    (xbee.storeHdr low).hdrData = [xbeePktStart, high, low] ∧
      (xbee.storeHdr low).bytesRcvd = 3 ∧
      xbeeByte env xbee low =
        if (xbeeHeader env (xbee.storeHdr low)).2 then
          .ok (xbeeHeader env (xbee.storeHdr low)).1
        else .error .outOfBounds := by
  refine ⟨by simp [XXBee.storeHdr, two, hdr], by simp [XXBee.storeHdr, two], ?_⟩
  rw [xbeeByte, two, if_neg (by decide), if_neg (by decide), if_pos rfl]
  rcases xbeeHeader env (xbee.storeHdr low) with ⟨next, _ | _⟩ <;> rfl

variable (env) in
theorem exists_receiving (hunting : Hunting xbee count) (high : UInt8) {low : UInt8}
    (short : low.toNat ≤ xbeeMaxDataLen) (allocated : env.alloc count = true) :
    ∃ next, [xbeePktStart, high, low].foldlM (xbeeByte env) xbee = .ok next ∧
      Receiving next (count + 1) (low.toNat + 4) [xbeePktStart, high, low] ∧
      next.delivered = xbee.delivered := by
  rcases exists_foldlM_header env hunting high with
    ⟨mid, read, two, allocs, -, heap, delivered, last, hdr⟩
  rcases xbeeByte_header env mid two low hdr with ⟨hdrLow, three, byte⟩
  have announced : UInt8.ofNat (xbeeDataLen [xbeePktStart, high, low]) = low :=
    ofNat_xbeeAnnounced high low
  have asked : env.alloc (mid.storeHdr low).allocs = true := by
    rw [← allocated, ← allocs]
    rfl
  let next : XXBee := { mid.storeHdr low with
    bytesLeft := low + 1
    packet := some mid.heap.length
    heap := mid.heap ++ [⟨[xbeePktStart, high, low] ++ List.replicate (low.toNat + 4 - 3) 0,
      .receiver⟩]
    allocs := mid.allocs + 1 }
  have header : xbeeHeader env (mid.storeHdr low) = (next, true) := by
    simp only [xbeeHeader, hdrLow, announced, if_neg (not_lt.mpr short), asked, Bool.not_true,
      Bool.false_eq_true, if_false, next]
    rfl
  rw [header] at byte
  have max : xbeeMaxDataLen = 251 := rfl
  have left : next.bytesLeft.toNat = low.toNat + 1 := by
    change (low + 1).toNat = _
    rw [UInt8.toNat_add]
    exact Nat.mod_eq_of_lt (by simp only [UInt8.reduceToNat]; omega)
  refine ⟨next, ?_, ?_, delivered⟩
  · have split : [xbeePktStart, high, low] = [xbeePktStart, high] ++ [low] := rfl
    rw [split, List.foldlM_append, read]
    change [low].foldlM (xbeeByte env) mid = _
    rw [List.foldlM_cons, byte]
    rfl
  · exact
      { bytesRcvd := congrArg UInt8.toNat three
        bytesLeft := by rw [left]; simp only [List.length_cons, List.length_nil]; omega
        total_le := by omega
        behind := le_rfl
        missing := by simp only [List.length_cons, List.length_nil]; omega
        allocs := by rw [← allocs]
        hdrData := congrArg List.length hdrLow
        block := ⟨mid.heap.length,
          [xbeePktStart, high, low] ++ List.replicate (low.toNat + 4 - 3) 0, rfl, by simp [next],
          by simp, by simp⟩ }

theorem foldlM_refused (hunting : Hunting xbee count) (high : UInt8) {low : UInt8}
    (refused : low.toNat > xbeeMaxDataLen ∨ env.alloc count = false) :
    [xbeePktStart, high, low].foldlM (xbeeByte env) xbee = .error .outOfBounds := by
  rcases exists_foldlM_header env hunting high with
    ⟨mid, read, two, allocs, -, -, -, last, hdr⟩
  rcases xbeeByte_header env mid two low hdr with ⟨hdrLow, three, byte⟩
  have announced : UInt8.ofNat (xbeeDataLen [xbeePktStart, high, low]) = low :=
    ofNat_xbeeAnnounced high low
  have header : (xbeeHeader env (mid.storeHdr low)).2 = false := by
    rcases refused with long | failed
    · simp only [xbeeHeader, hdrLow, announced, if_pos long]
    · have asked : env.alloc (mid.storeHdr low).allocs = false := by
        rw [← failed, ← allocs]
        rfl
      simp only [xbeeHeader, asked, Bool.not_false, if_true]
      split_ifs <;> rfl
  rw [header, if_neg Bool.false_ne_true] at byte
  have split : [xbeePktStart, high, low] = [xbeePktStart, high] ++ [low] := rfl
  rw [split, List.foldlM_append, read]
  change [low].foldlM (xbeeByte env) mid = _
  rw [List.foldlM_cons, byte]
  rfl

theorem exists_storePkt {total : ℕ} {packet : List UInt8}
    (receiving : Receiving xbee count total packet) (c : UInt8) :
    ∃ next index bytes, { xbee with bytesLeft := xbee.bytesLeft - 1 }.storePkt c = .ok next ∧
      next.bytesRcvd.toNat = packet.length + 1 ∧
      packet.length + 1 + next.bytesLeft.toNat = total ∧
      next.allocs = count ∧ next.hdrData.length = 3 ∧ next.delivered = xbee.delivered ∧
      next.packet = some index ∧ next.heap[index]? = some ⟨bytes, .receiver⟩ ∧
      bytes.length = total ∧ bytes.take (packet.length + 1) = packet ++ [c] := by
  rcases receiving with ⟨rcvd, left, total_le, behind, missing, allocs, hdrData,
    index, bytes, pointer, block, length, taken⟩
  have leftNe : xbee.bytesLeft ≠ 0 := by
    intro is
    simp [is] at left
    omega
  have small : xbee.bytesRcvd.toNat + xbee.bytesLeft.toNat ≤ 255 := by omega
  rcases count_storePkt leftNe small with ⟨rcvdNext, leftNext⟩
  have found : { xbee with bytesLeft := xbee.bytesLeft - 1 }.block = .ok (index, bytes) := by
    simp [XXBee.block, pointer, block]
  have room : xbee.bytesRcvd.toNat < bytes.length := by omega
  have index_lt : index < xbee.heap.length := (List.getElem?_eq_some_iff.mp block).1
  have stored : { xbee with bytesLeft := xbee.bytesLeft - 1 }.storePkt c = .ok { xbee with
      bytesLeft := xbee.bytesLeft - 1
      bytesRcvd := xbee.bytesRcvd + 1
      heap := xbee.heap.set index ⟨bytes.set xbee.bytesRcvd.toNat c, .receiver⟩ } := by
    simp only [XXBee.storePkt, found, if_pos room]
  refine ⟨_, index, bytes.set packet.length c, stored, by rw [rcvdNext, rcvd], ?_, allocs, hdrData,
    rfl, pointer, ?_, by simp [length], ?_⟩
  · rw [leftNext]
    omega
  · simp [index_lt, rcvd]
  · rw [List.take_add_one, List.take_set_of_le le_rfl, taken]
    simp [length, missing]

variable (env) in
theorem exists_receiving_byte {total : ℕ} {packet : List UInt8}
    (receiving : Receiving xbee count total packet) (more : packet.length + 1 < total)
    (c : UInt8) :
    ∃ next, xbeeByte env xbee c = .ok next ∧ Receiving next count total (packet ++ [c]) ∧
      next.delivered = xbee.delivered := by
  rcases exists_storePkt receiving c with ⟨next, index, bytes, stored, rcvd, left, allocs, hdrData,
    delivered, pointer, block, length, taken⟩
  have behind : 3 ≤ xbee.bytesRcvd := by
    rw [UInt8.le_iff_toNat_le, receiving.bytesRcvd]
    exact receiving.behind
  rcases behindHeader_iff.mp behind with ⟨notZero, notOne, notTwo⟩
  have leftNe : next.bytesLeft ≠ 0 := by
    intro is
    simp [is] at left
    omega
  refine ⟨next, ?_, ?_, delivered⟩
  · rw [xbeeByte, if_neg notZero, if_neg notOne, if_neg notTwo, stored]
    simp only [if_pos leftNe]
  · exact
      { bytesRcvd := by simp [rcvd]
        bytesLeft := by simp [left]
        total_le := receiving.total_le
        behind := by have := receiving.behind; simp; omega
        missing := by simpa using more
        allocs, hdrData
        block := ⟨index, bytes, pointer, block, length, by simpa using taken⟩ }

variable (env) in
theorem exists_receiving_foldlM {total : ℕ} {packet : List UInt8}
    (receiving : Receiving xbee count total packet) (bytes : List UInt8)
    (more : packet.length + bytes.length < total) :
    ∃ next, bytes.foldlM (xbeeByte env) xbee = .ok next ∧
      Receiving next count total (packet ++ bytes) ∧ next.delivered = xbee.delivered := by
  induction bytes generalizing xbee packet with
  | nil => exact ⟨xbee, rfl, by simpa using receiving, rfl⟩
  | cons c bytes ih =>
      rw [List.length_cons] at more
      rcases exists_receiving_byte env receiving (by omega) c with
        ⟨mid, read, receivingMid, kept⟩
      rcases ih receivingMid (by simp only [List.length_append, List.length_singleton]; omega) with
        ⟨next, later, receivingNext, keptNext⟩
      refine ⟨next, ?_, by simpa using receivingNext, keptNext.trans kept⟩
      rw [List.foldlM_cons, read]
      exact later

variable (env) in
/-- The last byte of a packet leaves it to the check. -/
theorem exists_complete {total : ℕ} {packet : List UInt8}
    (receiving : Receiving xbee count total packet) (last : packet.length + 1 = total) (c : UInt8) :
    ∃ next index, xbeeByte env xbee c = xbeeCheck env next ∧
      next.block = .ok (index, packet ++ [c]) ∧ next.bytesRcvd.toNat = packet.length + 1 ∧
      next.allocs = count ∧ next.hdrData.length = 3 ∧ next.delivered = xbee.delivered := by
  rcases exists_storePkt receiving c with ⟨next, index, bytes, stored, rcvd, left, allocs, hdrData,
    delivered, pointer, block, length, taken⟩
  have behind : 3 ≤ xbee.bytesRcvd := by
    rw [UInt8.le_iff_toNat_le, receiving.bytesRcvd]
    exact receiving.behind
  rcases behindHeader_iff.mp behind with ⟨notZero, notOne, notTwo⟩
  have complete : next.bytesLeft = 0 := UInt8.toNat_inj.mp (by simp only [UInt8.reduceToNat]; omega)
  have whole : bytes = packet ++ [c] := by
    rw [← taken, last, ← length, List.take_length]
  subst whole
  refine ⟨{ next with bytesLeft := next.bytesLeft - 1 }, index, ?_, ?_, rcvd, allocs, hdrData,
    delivered⟩
  · rw [xbeeByte, if_neg notZero, if_neg notOne, if_neg notTwo, stored]
    simp [complete]
  · simp [XXBee.block, pointer, block]

variable (env) in
theorem xbeeByte_complete {total : ℕ} {packet : List UInt8}
    (receiving : Receiving xbee count total packet) (last : packet.length + 1 = total) (c : UInt8) :
    match ucXBeeCrc (packet ++ [c]) with
    | .error fault => xbeeByte env xbee c = .error fault
    | .ok crc => ∃ next, xbeeByte env xbee c = .ok next ∧ Hunting next count ∧
        next.delivered = xbee.delivered ++
          if crc = c then [(packet ++ [c], UInt8.ofNat total)] else [] := by
  rcases exists_complete env receiving last c with
    ⟨next, index, byte, found, rcvd, allocs, hdrData, delivered⟩
  have lastByte : (packet ++ [c]).getD (next.bytesRcvd.toNat - 1) 0 = c := by
    simp [rcvd]
  have inside : next.bytesRcvd.toNat - 1 < (packet ++ [c]).length := by
    simp [rcvd]
  rw [byte]
  cases crc : ucXBeeCrc (packet ++ [c]) with
  | error fault => simp only [xbeeCheck, found, crc]
  | ok value =>
      simp only [xbeeCheck, found, crc, inside, if_true, lastByte]
      by_cases matching : value = c
      · simp only [matching, ne_eq, not_true_eq_false, if_false, if_true]
        refine ⟨_, rfl, ⟨rfl, allocs, hdrData⟩, ?_⟩
        have size : next.bytesRcvd = UInt8.ofNat total := by
          rw [← last, ← rcvd, UInt8.ofNat_toNat]
        simp [delivered, size]
      · simp only [matching, ne_eq, not_false_eq_true, if_true, if_false, List.append_nil]
        exact ⟨_, rfl, ⟨rfl, allocs, hdrData⟩, delivered⟩

/-! ### Whole frames -/

theorem complement_eq (x : UInt8) : ~~~x = 0xFF - x := by
  revert x
  decide +kernel

theorem ucXBeeCrc_frame {packet : XBeeFrame}
    (whole : packet.payload.length = xbeeAnnounced packet.high packet.low) :
    ucXBeeCrc packet.bytes = .ok (0xFF - packet.payload.sum) := by
  have announced : xbeeDataLen packet.bytes = packet.payload.length := whole.symm
  have fits : 3 + packet.payload.length ≤ packet.bytes.length := by
    simp only [XBeeFrame.bytes, List.length_cons, List.length_append, List.length_nil]
    omega
  have payload : (packet.bytes.drop 3).take packet.payload.length = packet.payload :=
    List.take_left' rfl
  rw [ucXBeeCrc, announced, if_pos fits, payload, ← complement_eq, List.sum_eq_foldl]

variable (env) in
/-- All but the last byte of a frame whose header is accepted. -/
theorem exists_receiving_frame (hunting : Hunting xbee count) {packet : XBeeFrame}
    (short : xbeeAnnounced packet.high packet.low ≤ xbeeMaxDataLen)
    (allocated : env.alloc count = true)
    (whole : packet.payload.length = xbeeAnnounced packet.high packet.low) :
    ∃ next, ([xbeePktStart, packet.high, packet.low] ++ packet.payload).foldlM (xbeeByte env) xbee =
        .ok next ∧
      Receiving next (count + 1) packet.bytes.length
        ([xbeePktStart, packet.high, packet.low] ++ packet.payload) ∧
      next.delivered = xbee.delivered := by
  have max : xbeeMaxDataLen = 251 := rfl
  have low : packet.low.toNat = packet.payload.length := by
    rw [whole, xbeeAnnounced] at *
    omega
  have fits : packet.low.toNat ≤ xbeeMaxDataLen := by omega
  rcases exists_receiving env hunting packet.high fits allocated with
    ⟨behind, header, receiving, kept⟩
  rcases exists_receiving_foldlM env receiving packet.payload
    (by simp only [List.length_cons, List.length_nil]; omega) with ⟨next, payload, almost, keptNext⟩
  have size : packet.low.toNat + 4 = packet.bytes.length := by
    simp only [XBeeFrame.bytes, List.length_cons, List.length_append, List.length_nil]
    omega
  refine ⟨next, ?_, size ▸ almost, keptNext.trans kept⟩
  rw [List.foldlM_append, header]
  exact payload

variable (env) in
/-- A frame whose header is accepted is handed over if it checks. -/
theorem exists_foldlM_frame (hunting : Hunting xbee count) {packet : XBeeFrame}
    (short : xbeeAnnounced packet.high packet.low ≤ xbeeMaxDataLen)
    (allocated : env.alloc count = true)
    (whole : packet.payload.length = xbeeAnnounced packet.high packet.low) :
    ∃ next, packet.bytes.foldlM (xbeeByte env) xbee = .ok next ∧ Hunting next (count + 1) ∧
      next.delivered = xbee.delivered ++ (XBeeEvent.frame packet).delivery := by
  rcases exists_receiving_frame env hunting short allocated whole with ⟨mid, read, almost, kept⟩
  have bytes : [xbeePktStart, packet.high, packet.low] ++ packet.payload ++ [packet.checksum] =
      packet.bytes := rfl
  have complete := xbeeByte_complete env almost
    (by simp [XBeeFrame.bytes]) packet.checksum
  rw [bytes, ucXBeeCrc_frame whole] at complete
  rcases complete with ⟨next, last, huntingNext, delivered⟩
  refine ⟨next, ?_, huntingNext, ?_⟩
  · rw [← bytes, List.foldlM_append, read]
    change [packet.checksum].foldlM (xbeeByte env) mid = _
    rw [List.foldlM_cons, last]
    rfl
  · have same : 0xFF - packet.payload.sum = packet.checksum ↔ packet.Checks := eq_comm
    rw [delivered, kept]
    by_cases checks : packet.Checks
    · simp [XBeeEvent.delivery, checks, same.mpr checks]
    · simp [XBeeEvent.delivery, checks, mt same.mp checks]

theorem xbeeDataLen_append {packet : List UInt8} (behind : 3 ≤ packet.length)
    (more : List UInt8) : xbeeDataLen (packet ++ more) = xbeeDataLen packet := by
  rw [xbeeDataLen, xbeeDataLen, List.getD_append _ _ _ _ (by omega),
    List.getD_append _ _ _ _ (by omega)]

/-- A header whose length is only small once narrowed: the receiver collects bytes, and faults
when it has as many as it waits for. -/
theorem bytesRcvd_overlong {total : ℕ} {packet rest : List UInt8} {next : XXBee}
    (receiving : Receiving xbee count total packet) (overlong : total < 3 + xbeeDataLen packet)
    (read : rest.foldlM (xbeeByte env) xbee = .ok next) :
    next.bytesRcvd.toNat = packet.length + rest.length ∧ next.delivered = xbee.delivered := by
  induction rest generalizing xbee packet with
  | nil =>
      cases read
      exact ⟨receiving.bytesRcvd, rfl⟩
  | cons c rest ih =>
      rw [List.foldlM_cons] at read
      have announced := xbeeDataLen_append receiving.behind [c]
      by_cases more : packet.length + 1 < total
      · rcases exists_receiving_byte env receiving more c with ⟨mid, byte, later, kept⟩
        rw [byte] at read
        rcases ih later (by rw [announced]; exact overlong) read with ⟨rcvd, delivered⟩
        refine ⟨?_, delivered.trans kept⟩
        rw [rcvd]
        simp only [List.length_append, List.length_cons, List.length_nil]
        omega
      · have last : packet.length + 1 = total := by
          have := receiving.missing
          omega
        have complete := xbeeByte_complete env receiving last c
        have outside : ucXBeeCrc (packet ++ [c]) = .error .outOfBounds := by
          rw [ucXBeeCrc, announced, if_neg]
          simp only [List.length_append, List.length_singleton]
          omega
        rw [outside] at complete
        simp [complete, bind, Except.bind] at read

/-! ### Whole streams -/

theorem bytesRcvd_incomplete (hunting : Hunting xbee count) {pending : List UInt8}
    (describes : (XBeeToken.incomplete pending).Describes (env.alloc count) pending)
    (start : ∀ c rest, pending = c :: rest → c = xbeePktStart) :
    ∃ next, pending.foldlM (xbeeByte env) xbee = .ok next ∧ next.delivered = xbee.delivered ∧
      next.bytesRcvd.toNat = pending.length := by
  rcases describes.2 with short | ⟨high, low, rest, rfl, allocated, fits, more⟩
  · rcases pending with _ | ⟨first, _ | ⟨second, _ | ⟨third, rest⟩⟩⟩
    · exact ⟨xbee, rfl, rfl, by simp [hunting.bytesRcvd]⟩
    · have isStart := start first [] rfl
      subst isStart
      refine ⟨xbee.storeHdr xbeePktStart, ?_, rfl, by simp [XXBee.storeHdr, hunting.bytesRcvd]⟩
      rw [List.foldlM_cons, xbeeByte, if_pos hunting.bytesRcvd, if_neg (by simp)]
      rfl
    · have isStart := start first [second] rfl
      subst isStart
      rcases exists_foldlM_header env hunting second with
        ⟨next, read, two, -, -, -, delivered, -⟩
      exact ⟨next, read, delivered, by simp [two]⟩
    · simp only [List.length_cons] at short
      omega
  · have max : xbeeMaxDataLen = 251 := rfl
    have low_eq : low.toNat = xbeeAnnounced high low := by
      rw [xbeeAnnounced] at *
      omega
    rcases exists_receiving env hunting high (by omega : low.toNat ≤ xbeeMaxDataLen) allocated with
      ⟨behind, header, receiving, kept⟩
    rcases exists_receiving_foldlM env receiving rest
      (by simp only [List.length_cons, List.length_nil]; omega) with ⟨next, read, later, keptNext⟩
    refine ⟨next, ?_, keptNext.trans kept, by simpa using later.bytesRcvd⟩
    have split : xbeePktStart :: high :: low :: rest = [xbeePktStart, high, low] ++ rest := rfl
    rw [split, List.foldlM_append, header]
    exact read

section Tokens

variable {stream rest : List UInt8} {next : XXBee}

/-- The receiver takes a header for one that is accepted if its length is small once narrowed. -/
theorem bytesRcvd_tooLong (hunting : Hunting xbee count)
    (token : xbeeToken (env.alloc count) stream = .tooLong rest)
    (read : stream.foldlM (xbeeByte env) xbee = .ok next) :
    next.bytesRcvd.toNat = 3 + rest.length ∧ next.delivered = xbee.delivered := by
  have describes := describes_xbeeToken (env.alloc count) stream
  rw [token] at describes
  rcases describes with ⟨high, low, found, long⟩
  have split : xbeePktStart :: high :: low :: rest = [xbeePktStart, high, low] ++ rest := rfl
  rw [foldlM_noise hunting, found, split, List.foldlM_append] at read
  by_cases accepted : low.toNat ≤ xbeeMaxDataLen ∧ env.alloc count = true
  · rcases exists_receiving env hunting high accepted.1 accepted.2 with
      ⟨behind, header, receiving, kept⟩
    rw [header] at read
    have overlong : low.toNat + 4 < 3 + xbeeDataLen [xbeePktStart, high, low] := by
      have announced : xbeeDataLen [xbeePktStart, high, low] = xbeeAnnounced high low := rfl
      have max : xbeeMaxDataLen = 251 := rfl
      rw [announced]
      rw [xbeeAnnounced] at *
      omega
    rcases bytesRcvd_overlong receiving overlong read with ⟨rcvd, delivered⟩
    exact ⟨rcvd, delivered.trans kept⟩
  · have either : low.toNat > xbeeMaxDataLen ∨ env.alloc count = false := by
      rcases not_and_or.mp accepted with tooLong | failed
      · exact Or.inl (not_le.mp tooLong)
      · exact Or.inr (by simpa using failed)
    rw [foldlM_refused hunting high either] at read
    cases read

theorem foldlM_noMemory (hunting : Hunting xbee count)
    (token : xbeeToken (env.alloc count) stream = .noMemory rest) :
    stream.foldlM (xbeeByte env) xbee = .error .outOfBounds := by
  have describes := describes_xbeeToken (env.alloc count) stream
  rw [token] at describes
  rcases describes with ⟨high, low, found, -, failed⟩
  have split : xbeePktStart :: high :: low :: rest = [xbeePktStart, high, low] ++ rest := rfl
  rw [foldlM_noise hunting, found, split, List.foldlM_append,
    foldlM_refused hunting high (Or.inr failed)]
  rfl

theorem exists_foldlM_frameToken (hunting : Hunting xbee count) {packet : XBeeFrame}
    (token : xbeeToken (env.alloc count) stream = .frame packet rest) :
    ∃ mid, stream.foldlM (xbeeByte env) xbee = rest.foldlM (xbeeByte env) mid ∧
      Hunting mid (count + 1) ∧
      mid.delivered = xbee.delivered ++ (XBeeEvent.frame packet).delivery := by
  have describes := describes_xbeeToken (env.alloc count) stream
  rw [token] at describes
  rcases describes with ⟨found, short, allocated, whole⟩
  rcases exists_foldlM_frame env hunting short allocated whole with
    ⟨mid, read, huntingMid, delivered⟩
  refine ⟨mid, ?_, huntingMid, delivered⟩
  rw [foldlM_noise hunting, found, List.foldlM_append, read]
  rfl

theorem exists_foldlM_incomplete (hunting : Hunting xbee count) {pending : List UInt8}
    (token : xbeeToken (env.alloc count) stream = .incomplete pending) :
    ∃ next, stream.foldlM (xbeeByte env) xbee = .ok next ∧ next.delivered = xbee.delivered ∧
      next.bytesRcvd.toNat = pending.length := by
  have describes := describes_xbeeToken (env.alloc count) stream
  rw [token] at describes
  have found := describes.1
  rw [found] at describes
  rw [foldlM_noise hunting, found]
  exact bytesRcvd_incomplete hunting describes
    fun c rest split => eq_start_of_dropWhile (found.trans split)

end Tokens

/-- As long as no header is refused, the frames of the stream are handed over. -/
theorem foldlM_of_accepted (hunting : Hunting xbee count) {stream : List UInt8}
    (accepted : .refused ∉ (xbeeParse env.alloc count stream).events) :
    ∃ next, stream.foldlM (xbeeByte env) xbee = .ok next ∧
      next.delivered = xbee.delivered ++ (xbeeParse env.alloc count stream).deliveries ∧
      next.bytesRcvd.toNat = (xbeeParse env.alloc count stream).pending.length := by
  fun_induction xbeeParse env.alloc count stream generalizing xbee with
  | case1 count stream rest token ih => simp [XBeeParse.after] at accepted
  | case2 count stream rest token ih => simp [XBeeParse.after] at accepted
  | case3 count stream packet rest token ih =>
      rcases exists_foldlM_frameToken hunting token with ⟨mid, read, huntingMid, delivered⟩
      rcases ih huntingMid (fun refused => accepted (by simp [XBeeParse.after, refused])) with
        ⟨next, later, deliveredNext, rcvd⟩
      refine ⟨next, read.trans later, ?_, rcvd⟩
      rw [deliveredNext, delivered]
      simp [XBeeParse.deliveries, XBeeParse.after]
  | case4 count stream pending token =>
      rcases exists_foldlM_incomplete hunting token with ⟨next, read, delivered, rcvd⟩
      refine ⟨next, read, ?_, rcvd⟩
      simp [XBeeParse.deliveries, delivered]

/-- Once a header was refused, the receiver is not where the parser is. -/
theorem bytesRcvd_ne_of_refused (hunting : Hunting xbee count) {stream : List UInt8}
    (refused : .refused ∈ (xbeeParse env.alloc count stream).events) {next : XXBee}
    (read : stream.foldlM (xbeeByte env) xbee = .ok next) :
    next.bytesRcvd.toNat ≠ (xbeeParse env.alloc count stream).pending.length := by
  fun_induction xbeeParse env.alloc count stream generalizing xbee with
  | case1 count stream rest token ih =>
      have rcvd := (bytesRcvd_tooLong hunting token read).1
      have pending := length_pending_le env.alloc count rest
      simp only [XBeeParse.after]
      omega
  | case2 count stream rest token ih =>
      rw [foldlM_noMemory hunting token] at read
      cases read
  | case3 count stream packet rest token ih =>
      rcases exists_foldlM_frameToken hunting token with ⟨mid, frame, huntingMid, -⟩
      rw [frame] at read
      exact ih huntingMid (by simpa [XBeeParse.after] using refused) read
  | case4 count stream pending token => simp at refused

end

/-! ### Runs -/

/-- The run makes no fault, hands over the packets that the reference parser finds in the
stream, and leaves the receiver where the parser is. -/
def FollowsParser (env : XBeeEnv) (chunks : List XBeeChunk) : Prop :=
  ∃ xbee, xbeeRun env xbeeOpened chunks = .ok xbee ∧
    xbee.delivered = (xbeeParse env.alloc 0 (xbeeStream chunks)).deliveries ∧
    xbee.bytesRcvd.toNat = (xbeeParse env.alloc 0 (xbeeStream chunks)).pending.length

theorem steady_opened : Steady xbeeOpened := by
  intro behind
  exact absurd behind (by decide)

theorem xbeeRun_eq_ok_iff {env : XBeeEnv} {chunks : List XBeeChunk} {xbee : XXBee} :
    xbeeRun env xbeeOpened chunks = .ok xbee ↔
      (xbeeStream chunks).foldlM (xbeeByte env) xbeeOpened = .ok xbee := by
  have same := xbeeRun_toOption env steady_opened chunks
  constructor
  · intro run
    rw [run] at same
    cases bytes : (xbeeStream chunks).foldlM (xbeeByte env) xbeeOpened with
    | error fault => simp [bytes, Except.toOption] at same
    | ok other => simpa [bytes, Except.toOption] using same.symm
  · intro bytes
    rw [bytes] at same
    cases run : xbeeRun env xbeeOpened chunks with
    | error fault => simp [run, Except.toOption] at same
    | ok other => simpa [run, Except.toOption] using same

theorem followsParser_of_accepted {env : XBeeEnv} {chunks : List XBeeChunk}
    (accepted : .refused ∉ (xbeeParse env.alloc 0 (xbeeStream chunks)).events) :
    FollowsParser env chunks := by
  rcases foldlM_of_accepted hunting_opened accepted with ⟨xbee, read, delivered, rcvd⟩
  exact ⟨xbee, xbeeRun_eq_ok_iff.mpr read, delivered, rcvd⟩

theorem not_followsParser_of_refused {env : XBeeEnv} {chunks : List XBeeChunk}
    (refused : .refused ∈ (xbeeParse env.alloc 0 (xbeeStream chunks)).events) :
    ¬FollowsParser env chunks := by
  rintro ⟨xbee, run, _, rcvd⟩
  exact bytesRcvd_ne_of_refused hunting_opened refused (xbeeRun_eq_ok_iff.mp run) rcvd

/-- However a stream without overlong headers is cut into chunks, its frames are handed over,
when no allocation fails. -/
theorem delivered_of_chunks (taken : ℕ → Bool) (chunks : List XBeeChunk)
    (accepted : .refused ∉ (xbeeParse (fun _ => true) 0 (xbeeStream chunks)).events) :
    ∃ xbee, xbeeRun ⟨fun _ => true, taken⟩ xbeeOpened chunks = .ok xbee ∧
      xbee.delivered = (xbeeParse (fun _ => true) 0 (xbeeStream chunks)).deliveries := by
  have follows : FollowsParser ⟨fun _ => true, taken⟩ chunks := followsParser_of_accepted accepted
  rcases follows with ⟨xbee, run, delivered, _⟩
  exact ⟨xbee, run, delivered⟩

/-- A frame behind some noise, cut inside its header and before its checksum. -/
theorem delivered_of_chunks_cut :
    ∃ xbee, xbeeRun ⟨fun _ => true, fun _ => false⟩ xbeeOpened
        [⟨[0x00, 0x7E, 0x00], by decide⟩, ⟨[0x02, 0x23, 0x11], by decide⟩, ⟨[0xCB], by decide⟩] =
          .ok xbee ∧
      xbee.delivered = (xbeeParse (fun _ => true) 0 (xbeeStream
        [⟨[0x00, 0x7E, 0x00], by decide⟩, ⟨[0x02, 0x23, 0x11], by decide⟩,
          ⟨[0xCB], by decide⟩])).deliveries :=
  delivered_of_chunks _ _ (by decide +kernel)

/-- The receiver follows the parser in a run if and only if no header of the stream is
refused, for its length or for want of memory. -/
theorem followsParser_iff (env : XBeeEnv) (chunks : List XBeeChunk) :
    FollowsParser env chunks ↔
      .refused ∉ (xbeeParse env.alloc 0 (xbeeStream chunks)).events :=
  ⟨fun follows refused => not_followsParser_of_refused refused follows, followsParser_of_accepted⟩

/-- A header that announces 252 bytes, and a frame of one byte behind it. -/
theorem not_followsParser_long :
    ¬FollowsParser ⟨fun _ => true, fun _ => false⟩
      [⟨[0x7E, 0x00, 0xFC, 0x7E, 0x00, 0x01, 0x41, 0xBE], by decide⟩] :=
  not_followsParser_of_refused (by decide +kernel)

end Sysio.XBee
