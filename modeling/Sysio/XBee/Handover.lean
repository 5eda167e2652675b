import Sysio.XBee.Ownership

/-!
# What is handed over behind a refused header

A header that announces too much is refused without being counted, and leaves 3 for the number
of bytes received. So the packet before it is checked again, as if it ended with its third byte,
and the loop goes on with a count that is one too large, until it reads beyond the chunk. What it
passes to `iXBeeRecvPktCB` up to there is what `vXBeeLoopPassed` collects, whether the call ends
or faults.

A packet that a callback has taken may still be there when it is checked again: the callback may
have kept it (`XXBee.reclaim`). One that was freed is not.

`xbeeMeetings` reads the same off the stream.
-/

namespace Sysio.XBee

/-- The receiver where the callback that has taken the packet keeps it. -/
def XXBee.reclaim (xbee : XXBee) : XXBee :=
  match xbee.packet with
  | none => xbee
  | some index =>
      match xbee.heap[index]? with
      | some ⟨bytes, .callback⟩ => { xbee with heap := xbee.heap.set index ⟨bytes, .receiver⟩ }
      | _ => xbee

/-- The packets passed to `iXBeeRecvPktCB` when the loop of `vXBeeLoop` ends, or faults. -/
def vXBeeLoopPassed (env : XBeeEnv) (xbee : XXBee) (data : List UInt8) (len : ℕ) :
    List (List UInt8 × UInt8) :=
  if len = 0 then xbee.delivered
  else
    match _ends : xbeeSwitch env xbee data len with
    | .error _ => xbee.delivered
    | .ok (.returns next) => next.delivered
    | .ok (.continues next data len) => vXBeeLoopPassed env next data len
    | .ok (.falls next data len) =>
        match _checked : xbeeCheck env next.reclaim with
        | .error _ => next.delivered
        | .ok xbee => vXBeeLoopPassed env xbee data len
termination_by 2 * data.length + if 3 ≤ xbee.bytesRcvd then 1 else 0
decreasing_by
  · rcases follows_xbeeSwitch _ends with follows | ⟨_, _, notContinues⟩
    · have shorter := follows.1
      split_ifs <;> omega
    · exact absurd rfl (notContinues _ _ _)
  · have notBehind : ¬(3 : UInt8) ≤ xbee.bytesRcvd := by
      rw [bytesRcvd_xbeeCheck _checked]
      decide
    rw [if_neg notBehind]
    rcases follows_xbeeSwitch _ends with follows | ⟨behind, follows, _⟩
    · have shorter := follows.1
      omega
    · have notLonger := follows.1
      rw [if_pos behind]
      omega

/-- The packets that one call passes on, also where it faults afterwards. -/
def vXBeeInPassed (env : XBeeEnv) (xbee : XXBee) (chunk : XBeeChunk) : List (List UInt8 × UInt8) :=
  vXBeeLoopPassed env xbee chunk.bytes chunk.bytes.length

section

variable {env : XBeeEnv} {xbee next : XXBee} {data : List UInt8} {len : ℕ}

/-- What the outcome of the `switch` makes of the packets passed before. -/
def xbeeFinishPassed (env : XBeeEnv) (passed : List (List UInt8 × UInt8)) :
    Except Fault XBeeFlow → List (List UInt8 × UInt8)
  | .error _ => passed
  | .ok (.returns next) => next.delivered
  | .ok (.continues next data len) => vXBeeLoopPassed env next data len
  | .ok (.falls next data len) =>
      match xbeeCheck env next.reclaim with
      | .error _ => next.delivered
      | .ok xbee => vXBeeLoopPassed env xbee data len

@[simp]
theorem vXBeeLoopPassed_zero (env : XBeeEnv) (xbee : XXBee) (data : List UInt8) :
    vXBeeLoopPassed env xbee data 0 = xbee.delivered := by
  rw [vXBeeLoopPassed, if_pos rfl]

theorem vXBeeLoopPassed_of_ne (running : len ≠ 0) :
    vXBeeLoopPassed env xbee data len =
      xbeeFinishPassed env xbee.delivered (xbeeSwitch env xbee data len) := by
  rw [vXBeeLoopPassed, if_neg running]
  split
  · rename_i fault ends
    rw [ends]
    rfl
  · rename_i next ends
    rw [ends]
    rfl
  · rename_i next rest left ends
    rw [ends]
    rfl
  · rename_i next rest left ends
    rw [ends]
    simp only [xbeeFinishPassed]
    split <;> rename_i checked <;> rw [checked]

theorem reclaim_of_block {found : ℕ × List UInt8} (owned : xbee.block = .ok found) :
    xbee.reclaim = xbee := by
  rcases exists_block owned with ⟨pointer, block⟩
  simp only [XXBee.reclaim, pointer, block]

theorem block_of_xbeeCheck (checked : xbeeCheck env xbee = .ok next) :
    ∃ found, xbee.block = .ok found := by
  simp only [xbeeCheck] at checked
  split at checked
  · cases checked
  · rename_i index bytes found
    exact ⟨_, found⟩

/-- The packets of a call that ends are those that its result says. -/
theorem vXBeeInPassed_of_ok {chunk : XBeeChunk} (ends : vXBeeIn env xbee chunk = .ok next) :
    vXBeeInPassed env xbee chunk = next.delivered := by
  rw [vXBeeIn] at ends
  rw [vXBeeInPassed]
  generalize chunk.bytes.length = len at ends ⊢
  generalize chunk.bytes = data at ends ⊢
  fun_induction vXBeeLoop env xbee data len with
  | case1 xbee data =>
      cases ends
      exact vXBeeLoopPassed_zero env next data
  | case2 xbee data len running fault turn => cases ends
  | case3 xbee data len running last turn =>
      cases ends
      rw [vXBeeLoopPassed_of_ne running, turn, xbeeFinishPassed]
  | case4 xbee data len running mid rest left turn ih =>
      rw [vXBeeLoopPassed_of_ne running, turn, xbeeFinishPassed]
      exact ih ends
  | case5 xbee data len running mid rest left turn fault checked => cases ends
  | case6 xbee data len running mid rest left turn last checked ih =>
      rcases block_of_xbeeCheck checked with ⟨found, owned⟩
      rw [vXBeeLoopPassed_of_ne running, turn, xbeeFinishPassed, reclaim_of_block owned, checked]
      exact ih ends

/-! ### Byte by byte -/

instance (env : XBeeEnv) (xbee : XXBee) (c : UInt8) : Decidable (RefusesHeader env xbee c) :=
  inferInstanceAs (Decidable (_ ∧ _))

/-- The receiver with a header refused, whose packet will be checked again. -/
def XXBee.refused (env : XBeeEnv) (xbee : XXBee) (c : UInt8) : XXBee :=
  { (xbeeHeader env (xbee.storeHdr c)).1 with bytesLeft := 255 }

/-- The bytes that are read behind a refused header: they are in the same chunk, which holds at
most 254 of them. -/
def xbeeWindow (lost : Bool) (data : List UInt8) : List UInt8 :=
  if lost then data else data.take 254

theorem length_xbeeWindow_le (lost : Bool) (data : List UInt8) :
    (xbeeWindow lost data).length ≤ data.length := by
  rw [xbeeWindow]
  split
  · exact le_rfl
  · exact List.length_take_le' 254 data

/-- The packets passed while the bytes are read, as far as they can be. -/
def xbeePassed (env : XBeeEnv) (lost : Bool) (xbee : XXBee) :
    List UInt8 → List (List UInt8 × UInt8)
  | [] => xbee.delivered
  | c :: data =>
      if RefusesHeader env xbee c then
        match xbeeCheck env (xbee.refused env c).reclaim with
        | .error _ => xbee.delivered
        | .ok next => xbeePassed env true next (xbeeWindow lost data)
      else
        match xbeeByte env xbee c with
        | .error _ => xbee.delivered
        | .ok next => xbeePassed env lost next data
termination_by data => data.length
decreasing_by
  · exact Nat.lt_succ_of_le (length_xbeeWindow_le lost data)
  · exact Nat.lt_succ_self _

theorem xbeePassed_refused (lost : Bool) {c : UInt8} (refused : RefusesHeader env xbee c) :
    xbeePassed env lost xbee (c :: data) =
      match xbeeCheck env (xbee.refused env c).reclaim with
      | .error _ => xbee.delivered
      | .ok next => xbeePassed env true next (xbeeWindow lost data) := by
  rw [xbeePassed, if_pos refused]

theorem not_refusesHeader_of_ok {c : UInt8} (read : xbeeByte env xbee c = .ok next) :
    ¬RefusesHeader env xbee c := by
  intro refused
  rcases refused with ⟨two, header⟩
  rcases found : xbeeHeader env (xbee.storeHdr c) with ⟨mid, accepted⟩
  rw [found] at header
  simp only at header
  rw [xbeeByte, two, if_neg (by decide), if_neg (by decide), if_pos rfl, found, header] at read
  cases read

theorem xbeePassed_cons (lost : Bool) {c : UInt8} (read : xbeeByte env xbee c = .ok next) :
    xbeePassed env lost xbee (c :: data) = xbeePassed env lost next data := by
  rw [xbeePassed, if_neg (not_refusesHeader_of_ok read), read]

theorem xbeePassed_append (lost : Bool) {bytes : List UInt8}
    (read : bytes.foldlM (xbeeByte env) xbee = .ok next) (more : List UInt8) :
    xbeePassed env lost xbee (bytes ++ more) = xbeePassed env lost next more := by
  induction bytes generalizing xbee with
  | nil =>
      cases read
      rfl
  | cons c bytes ih =>
      rw [List.foldlM_cons] at read
      rcases Refinement.exists_of_bind_eq_ok read with ⟨mid, byte, later⟩
      rw [List.cons_append, xbeePassed_cons lost byte]
      exact ih later

/-- The chunk lacks the bytes that the loop still counts. -/
theorem vXBeeLoopPassed_nil (steady : Steady xbee) :
    vXBeeLoopPassed env xbee [] len = xbee.delivered := by
  by_cases running : len = 0
  · rw [running, vXBeeLoopPassed_zero]
  rw [vXBeeLoopPassed_of_ne running, xbeeSwitch]
  split_ifs with is0 is1 is2
  · rfl
  · rfl
  · rfl
  · have missing := (steady (behindHeader_iff.mpr ⟨is0, is1, is2⟩)).1
    rw [xbeeDefault, if_neg missing]
    rfl

theorem delivered_xbeeHeader (env : XBeeEnv) (xbee : XXBee) :
    (xbeeHeader env xbee).1.delivered = xbee.delivered := by
  simp only [xbeeHeader]
  split_ifs <;> rfl

/-- A refused header: the packet before it is checked, and the count stays. -/
theorem vXBeeLoopPassed_refused {c : UInt8} (refused : RefusesHeader env xbee c) :
    vXBeeLoopPassed env xbee (c :: data) (len + 1) =
      match xbeeCheck env (xbee.refused env c).reclaim with
      | .error _ => xbee.delivered
      | .ok next => vXBeeLoopPassed env next data (len + 1) := by
  rcases refused with ⟨two, header⟩
  have kept := delivered_xbeeHeader env (xbee.storeHdr c)
  have three := bytesRcvd_xbeeHeader env (xbee.storeHdr c)
  rcases found : xbeeHeader env (xbee.storeHdr c) with ⟨mid, accepted⟩
  rw [found] at header kept three
  simp only at header kept three
  have rcvd : (xbee.storeHdr c).bytesRcvd = 3 := by simp [XXBee.storeHdr, two]
  have none : mid.bytesLeft = 0 := by
    rw [header] at found
    simp only [xbeeHeader] at found
    split_ifs at found <;> cases found <;> rfl
  have turn : xbeeSwitch env xbee (c :: data) (len + 1) = .ok (.continues mid data (len + 1)) := by
    rw [xbeeSwitch, two, if_neg (by decide), if_neg (by decide), if_pos rfl, xbeeCase2, found,
      header]
    rfl
  have again : xbeeSwitch env mid data (len + 1) =
      .ok (.falls { mid with bytesLeft := 255 } data (len + 1)) := by
    rw [xbeeSwitch_behindHeader (by rw [three, rcvd]; decide), xbeeDefault_done none, none]
    rfl
  rw [vXBeeLoopPassed_of_ne (by omega), turn, xbeeFinishPassed, vXBeeLoopPassed_of_ne (by omega),
    again, xbeeFinishPassed, XXBee.refused, found]
  cases checked : xbeeCheck env { mid with bytesLeft := 255 }.reclaim with
  | error fault => exact kept
  | ok next => rfl

theorem vXBeeLoopPassed_cons (steady : Steady xbee) {c : UInt8}
    (accepted : ¬RefusesHeader env xbee c) :
    vXBeeLoopPassed env xbee (c :: data) (len + 1) =
      match xbeeByte env xbee c with
      | .error _ => xbee.delivered
      | .ok next => vXBeeLoopPassed env next data len := by
  have switched : SwitchByte env xbee c data len := switchByte steady accepted
  rw [vXBeeLoopPassed_of_ne (by omega)]
  cases switched with
  | goesOn next byte more delivered ends =>
      rw [ends, byte, ← delivered]
      exact (vXBeeLoopPassed_of_ne more).symm
  | returns next byte last delivered ends =>
      rw [ends, byte, last]
      exact (vXBeeLoopPassed_zero env next data).symm
  | falls next byte delivered owned ends =>
      rcases owned with ⟨found, isBlock⟩
      rw [ends, byte, xbeeFinishPassed, reclaim_of_block isBlock, delivered]
  | faults fault byte ends =>
      rw [ends, byte]
      rfl

theorem steady_of_checked (checked : xbeeCheck env xbee = .ok next) : Steady next := by
  intro behind
  rw [bytesRcvd_xbeeCheck checked] at behind
  exact absurd behind (by decide)

/-- The loop passes what is passed byte by byte, once it has lost count or not. -/
theorem vXBeeLoopPassed_eq (steady : Steady xbee) (enough : data.length ≤ len) :
    vXBeeLoopPassed env xbee data len = xbeePassed env true xbee data := by
  induction data generalizing xbee len with
  | nil => rw [vXBeeLoopPassed_nil steady, xbeePassed]
  | cons c data ih =>
      rcases len with _ | len
      · exact absurd enough (by simp)
      rw [List.length_cons] at enough
      by_cases refused : RefusesHeader env xbee c
      · rw [vXBeeLoopPassed_refused refused, xbeePassed_refused true refused]
        cases checked : xbeeCheck env (xbee.refused env c).reclaim with
        | error fault => rfl
        | ok next => exact ih (steady_of_checked checked) (by omega)
      · rw [vXBeeLoopPassed_cons steady refused, xbeePassed, if_neg refused]
        cases read : xbeeByte env xbee c with
        | error fault => rfl
        | ok next => exact ih (steady_xbeeByte steady read) (by omega)

theorem vXBeeInPassed_eq (steady : Steady xbee) (chunk : XBeeChunk) :
    vXBeeInPassed env xbee chunk = xbeePassed env true xbee chunk.bytes :=
  vXBeeLoopPassed_eq steady le_rfl

end

/-! ### What a stream makes the receiver meet -/

/-- The frame would check if it ended with its third byte. -/
def XBeeFrame.ChecksAgain (frame : XBeeFrame) : Prop := frame.low = 0xFF - frame.payload.sum

instance (frame : XBeeFrame) : Decidable frame.ChecksAgain := inferInstanceAs (Decidable (_ = _))

/-- What is left of a packet that was passed as number `given`: it is freed if no callback takes
it. -/
def XBeeFrame.kept (env : XBeeEnv) (given : ℕ) (frame : XBeeFrame) : Option XBeeFrame :=
  if env.taken given then some frame else none

/-- What is left of the packet of a frame, which is passed if it checks. -/
def XBeeFrame.left (env : XBeeEnv) (given : ℕ) (frame : XBeeFrame) : Option XBeeFrame :=
  if frame.Checks then frame.kept env given else some frame

/-- A frame is met, or a refused header where the frame before it checks again. -/
inductive XBeeMeeting where
  | frame (frame : XBeeFrame)
  | again (frame : XBeeFrame)
deriving DecidableEq, Repr

/-- What is passed to `iXBeeRecvPktCB`. -/
def XBeeMeeting.delivery : XBeeMeeting → List (List UInt8 × UInt8)
  | .frame packet => (XBeeEvent.frame packet).delivery
  | .again packet => [(packet.bytes, 3)]

/-- The low byte of the length in the first header. -/
def xbeeLow (stream : List UInt8) : UInt8 := (stream.dropWhile (· ≠ xbeePktStart)).getD 2 0

/-- What the receiver meets in a stream, behind `count` allocations and `given` packets passed,
when the packet of `last` is still there. It stops at a header whose length is only small once
narrowed, at one whose allocation fails, and at one that is refused when there is no packet. -/
def xbeeMeetings (env : XBeeEnv) (lost : Bool) (count given : ℕ) (last : Option XBeeFrame)
    (stream : List UInt8) : List XBeeMeeting :=
  match _token : xbeeToken (env.alloc count) stream with
  | .noMemory _ => []
  | .incomplete _ => []
  | .frame frame rest =>
      .frame frame :: xbeeMeetings env lost (count + 1)
        (given + (XBeeEvent.frame frame).delivery.length) (frame.left env given) rest
  | .tooLong rest =>
      if (xbeeLow stream).toNat ≤ xbeeMaxDataLen then []
      else
        match last with
        | none => []
        | some frame =>
            if frame.ChecksAgain then
              .again frame :: xbeeMeetings env true count (given + 1)
                (frame.kept env given)
                (xbeeWindow lost rest)
            else
              xbeeMeetings env true count given (some frame) (xbeeWindow lost rest)
termination_by stream.length
decreasing_by
  · exact length_rest_lt _token (by simp)
  all_goals exact (length_xbeeWindow_le lost rest).trans_lt (length_rest_lt _token (by simp))

/-- A frame that does not check, and a header that announces too much: the checksum of the payload
is its length. -/
example : xbeeMeetings ⟨fun _ => true, fun _ => true⟩ false 0 0 none
      [0x7E, 0x00, 0x02, 0x8A, 0x73, 0x00, 0x7E, 0x00, 0xFC] =
    [.frame ⟨0, 2, [0x8A, 0x73], 0⟩, .again ⟨0, 2, [0x8A, 0x73], 0⟩] := by decide +kernel

/-- The packet of the last frame is still there, or there is none. -/
def XXBee.Leaves (xbee : XXBee) : Option XBeeFrame → Prop
  | none => ∃ fault, xbee.reclaim.block = .error fault
  | some frame => (∃ index, xbee.reclaim.block = .ok (index, frame.bytes)) ∧
      frame.payload.length = xbeeAnnounced frame.high frame.low

section

variable {env : XBeeEnv} {xbee next : XXBee} {count : ℕ}

theorem block_reclaim (xbee : XXBee) :
    xbee.reclaim.block =
      match xbee.packet with
      | none => .error .nullPointer
      | some index =>
          match xbee.heap[index]? with
          | some ⟨bytes, .receiver⟩ => .ok (index, bytes)
          | some ⟨bytes, .callback⟩ => .ok (index, bytes)
          | _ => .error .notOwned := by
  cases pointer : xbee.packet with
  | none => simp only [XXBee.reclaim, pointer, XXBee.block]
  | some index =>
      rcases block : xbee.heap[index]? with _ | ⟨bytes, _ | _ | _⟩
      · simp only [XXBee.reclaim, pointer, block, XXBee.block]
      · simp only [XXBee.reclaim, pointer, block, XXBee.block]
      · have inside := (List.getElem?_eq_some_iff.mp block).1
        simp only [XXBee.reclaim, pointer, block, XXBee.block, List.getElem?_set_self inside]
      · simp only [XXBee.reclaim, pointer, block, XXBee.block]

theorem XXBee.Leaves.congr {last : Option XBeeFrame} (leaves : xbee.Leaves last)
    (packet : next.packet = xbee.packet) (heap : next.heap = xbee.heap) : next.Leaves last := by
  have same : next.reclaim.block = xbee.reclaim.block := by
    rw [block_reclaim, block_reclaim, packet, heap]
  cases last with
  | none => exact leaves.imp fun fault isError => same.trans isError
  | some frame => exact ⟨leaves.1.imp fun index isBlock => same.trans isBlock, leaves.2⟩

variable (env) in
/-- The check of the packet of a frame. -/
theorem exists_xbeeCheck {index : ℕ} {frame : XBeeFrame}
    (found : xbee.block = .ok (index, frame.bytes))
    (whole : frame.payload.length = xbeeAnnounced frame.high frame.low)
    (inside : xbee.bytesRcvd.toNat - 1 < frame.bytes.length) :
    ∃ next, xbeeCheck env xbee = .ok next ∧ next.bytesRcvd = 0 ∧ next.allocs = xbee.allocs ∧
      next.hdrData = xbee.hdrData ∧
      if 0xFF - frame.payload.sum = frame.bytes.getD (xbee.bytesRcvd.toNat - 1) 0 then
        next.delivered = xbee.delivered ++ [(frame.bytes, xbee.bytesRcvd)] ∧
          next.Leaves (frame.kept env xbee.delivered.length)
      else next.delivered = xbee.delivered ∧ next.Leaves (some frame) := by
  rcases exists_block found with ⟨pointer, block⟩
  simp only [xbeeCheck, found, ucXBeeCrc_frame whole, if_pos inside]
  by_cases right : 0xFF - frame.payload.sum = frame.bytes.getD (xbee.bytesRcvd.toNat - 1) 0
  · rw [if_neg (not_not.mpr right)]
    refine ⟨_, rfl, rfl, rfl, rfl, ?_⟩
    rw [if_pos right]
    have there := (List.getElem?_eq_some_iff.mp block).1
    refine ⟨rfl, ?_⟩
    rw [XBeeFrame.kept]
    cases env.taken xbee.delivered.length with
    | true =>
        refine ⟨⟨index, ?_⟩, whole⟩
        rw [block_reclaim]
        simp only [pointer, List.getElem?_set_self there, if_true]
    | false =>
        refine ⟨.notOwned, ?_⟩
        rw [block_reclaim]
        simp only [pointer, List.getElem?_set_self there, Bool.false_eq_true, if_false]
  · rw [if_pos right]
    refine ⟨_, rfl, rfl, rfl, rfl, ?_⟩
    rw [if_neg right]
    refine ⟨rfl, ⟨index, ?_⟩, whole⟩
    rw [block_reclaim]
    simp only [pointer, block]

variable (env) in
/-- A frame whose header is accepted, and what it leaves. -/
theorem exists_foldlM_leaves (hunting : Hunting xbee count) {frame : XBeeFrame}
    (short : xbeeAnnounced frame.high frame.low ≤ xbeeMaxDataLen)
    (allocated : env.alloc count = true)
    (whole : frame.payload.length = xbeeAnnounced frame.high frame.low) :
    ∃ next, frame.bytes.foldlM (xbeeByte env) xbee = .ok next ∧ Hunting next (count + 1) ∧
      next.delivered = xbee.delivered ++ (XBeeEvent.frame frame).delivery ∧
      next.Leaves (frame.left env xbee.delivered.length) := by
  rcases exists_foldlM_frame env hunting short allocated whole with
    ⟨next, read, huntingNext, delivered⟩
  refine ⟨next, read, huntingNext, delivered, ?_⟩
  rcases exists_receiving_frame env hunting short allocated whole with ⟨mid, readMid, almost, kept⟩
  rcases exists_complete env almost (by simp [XBeeFrame.bytes]) frame.checksum with
    ⟨last, index, byte, found, rcvd, -, -, keptLast⟩
  have bytes : frame.bytes = [xbeePktStart, frame.high, frame.low] ++ frame.payload ++
      [frame.checksum] := rfl
  rw [bytes, List.foldlM_append, readMid] at read
  have lastByte := xbeeByte_of_foldlM read
  rw [byte] at lastByte
  have place : frame.bytes.getD (last.bytesRcvd.toNat - 1) 0 = frame.checksum := by
    rw [rcvd, bytes]
    simp
  have inside : last.bytesRcvd.toNat - 1 < frame.bytes.length := by
    rw [rcvd, bytes]
    simp
  rcases exists_xbeeCheck env found whole inside with
    ⟨other, checked, -, -, -, outcome⟩
  rw [lastByte] at checked
  cases checked
  rw [place, keptLast, kept] at outcome
  by_cases checks : frame.Checks
  · rw [if_pos checks.symm] at outcome
    rw [XBeeFrame.left, if_pos checks]
    exact outcome.2
  · rw [if_neg fun right => checks right.symm] at outcome
    rw [XBeeFrame.left, if_neg checks]
    exact outcome.2

theorem reclaim_kept (xbee : XXBee) :
    xbee.reclaim.bytesRcvd = xbee.bytesRcvd ∧ xbee.reclaim.allocs = xbee.allocs ∧
      xbee.reclaim.hdrData = xbee.hdrData ∧ xbee.reclaim.delivered = xbee.delivered := by
  simp only [XXBee.reclaim]
  split
  · exact ⟨rfl, rfl, rfl, rfl⟩
  · split <;> exact ⟨rfl, rfl, rfl, rfl⟩

variable (env) in
/-- The header that `low` completes is refused. -/
theorem exists_refused (hunting : Hunting xbee count) (high : UInt8) {low : UInt8}
    (refused : low.toNat > xbeeMaxDataLen ∨ env.alloc count = false) :
    ∃ mid, [xbeePktStart, high].foldlM (xbeeByte env) xbee = .ok mid ∧
      RefusesHeader env mid low ∧ mid.delivered = xbee.delivered ∧
      (mid.refused env low).bytesRcvd = 3 ∧ (mid.refused env low).hdrData.length = 3 ∧
      (mid.refused env low).delivered = xbee.delivered ∧
      if low.toNat > xbeeMaxDataLen then
        (mid.refused env low).allocs = count ∧ (mid.refused env low).packet = xbee.packet ∧
          (mid.refused env low).heap = xbee.heap
      else (mid.refused env low).packet = none := by
  rcases exists_foldlM_header env hunting high with
    ⟨mid, read, two, allocs, packet, heap, delivered, last, hdr⟩
  rcases xbeeByte_header env mid two low hdr with ⟨hdrLow, three, -⟩
  have announced : UInt8.ofNat (xbeeDataLen [xbeePktStart, high, low]) = low :=
    ofNat_xbeeAnnounced high low
  have size : (mid.storeHdr low).hdrData.length = 3 := by rw [hdrLow]; rfl
  have asked : (mid.storeHdr low).allocs = count := allocs
  refine ⟨mid, read, ⟨two, ?_⟩, delivered, ?_⟩
  · simp only [xbeeHeader, hdrLow, announced, asked]
    rcases refused with long | failed
    · rw [if_pos long]
    · rw [failed]
      split <;> rfl
  by_cases long : low.toNat > xbeeMaxDataLen
  · rw [if_pos long]
    simp only [XXBee.refused, xbeeHeader, hdrLow, announced, if_pos long]
    exact ⟨three, rfl, delivered, allocs, packet, heap⟩
  · rcases refused with long' | failed
    · exact absurd long' long
    rw [if_neg long]
    simp only [XXBee.refused, xbeeHeader, hdrLow, announced, if_neg long, asked, failed,
      Bool.not_false, if_true]
    exact ⟨three, rfl, delivered, trivial⟩

/-- Without a packet, a refused header is the end. -/
theorem xbeePassed_without (lost : Bool) {c : UInt8} {data : List UInt8}
    (refused : RefusesHeader env xbee c) (leaves : (xbee.refused env c).Leaves none) :
    xbeePassed env lost xbee (c :: data) = xbee.delivered := by
  rcases leaves with ⟨fault, isError⟩
  have checked : xbeeCheck env (xbee.refused env c).reclaim = .error fault := by
    simp only [xbeeCheck, isError]
  rw [xbeePassed_refused lost refused, checked]

theorem xbeePassed_without_frame (lost : Bool) (hunting : Hunting xbee count)
    (leaves : xbee.Leaves none) (high : UInt8) {low : UInt8} (long : low.toNat > xbeeMaxDataLen)
    {rest : List UInt8} :
    xbeePassed env lost xbee (xbeePktStart :: high :: low :: rest) = xbee.delivered := by
  rcases exists_refused env hunting high (Or.inl long) with
    ⟨mid, read, refused, delivered, -, -, -, outcome⟩
  rw [if_pos long] at outcome
  have split : xbeePktStart :: high :: low :: rest = [xbeePktStart, high] ++ low :: rest := rfl
  rw [split, xbeePassed_append lost read,
    xbeePassed_without lost refused (leaves.congr outcome.2.1 outcome.2.2), delivered]

theorem xbeePassed_noMemory (lost : Bool) (hunting : Hunting xbee count) (high : UInt8)
    {low : UInt8} (short : low.toNat ≤ xbeeMaxDataLen) (failed : env.alloc count = false)
    (rest : List UInt8) :
    xbeePassed env lost xbee (xbeePktStart :: high :: low :: rest) = xbee.delivered := by
  rcases exists_refused env hunting high (Or.inr failed) with
    ⟨mid, read, refused, delivered, -, -, -, outcome⟩
  rw [if_neg (not_lt.mpr short)] at outcome
  have leaves : (mid.refused env low).Leaves none := by
    refine ⟨.nullPointer, ?_⟩
    rw [block_reclaim, outcome]
  have split : xbeePktStart :: high :: low :: rest = [xbeePktStart, high] ++ low :: rest := rfl
  rw [split, xbeePassed_append lost read, xbeePassed_without lost refused leaves, delivered]

/-- A header whose length is only small once narrowed: nothing is passed any more. -/
theorem xbeePassed_overlong (lost : Bool) {total : ℕ} {packet : List UInt8}
    (receiving : Receiving xbee count total packet) (overlong : total < 3 + xbeeDataLen packet)
    (rest : List UInt8) : xbeePassed env lost xbee rest = xbee.delivered := by
  induction rest generalizing xbee packet with
  | nil => rw [xbeePassed]
  | cons c rest ih =>
      have announced := xbeeDataLen_append receiving.behind [c]
      by_cases more : packet.length + 1 < total
      · rcases exists_receiving_byte env receiving more c with ⟨mid, byte, later, kept⟩
        rw [xbeePassed_cons lost byte, ih later (by rw [announced]; exact overlong), kept]
      · have last : packet.length + 1 = total := by
          have := receiving.missing
          omega
        have complete := xbeeByte_complete env receiving last c
        have outside : ucXBeeCrc (packet ++ [c]) = .error .outOfBounds := by
          rw [ucXBeeCrc, announced, if_neg]
          simp only [List.length_append, List.length_singleton]
          omega
        have behind : ¬RefusesHeader env xbee c := by
          intro refused
          have three := receiving.behind
          have rcvd := receiving.bytesRcvd
          rw [refused.1] at rcvd
          simp only [UInt8.reduceToNat] at rcvd
          omega
        rw [outside] at complete
        rw [xbeePassed, if_neg behind, complete]

theorem xbeePassed_narrowed (lost : Bool) (hunting : Hunting xbee count) {high low : UInt8}
    (long : xbeeMaxDataLen < xbeeAnnounced high low) (short : low.toNat ≤ xbeeMaxDataLen)
    (rest : List UInt8) :
    xbeePassed env lost xbee (xbeePktStart :: high :: low :: rest) = xbee.delivered := by
  cases allocated : env.alloc count with
  | false => exact xbeePassed_noMemory lost hunting high short allocated rest
  | true =>
      rcases exists_receiving env hunting high short allocated with
        ⟨mid, read, receiving, delivered⟩
      have overlong : low.toNat + 4 < 3 + xbeeDataLen [xbeePktStart, high, low] := by
        have low_lt := low.toNat_lt
        have max : xbeeMaxDataLen = 251 := rfl
        have whole : xbeeDataLen [xbeePktStart, high, low] = xbeeAnnounced high low := rfl
        rw [whole]
        rw [xbeeAnnounced] at long ⊢
        omega
      have split : xbeePktStart :: high :: low :: rest = [xbeePktStart, high, low] ++ rest := rfl
      rw [split, xbeePassed_append lost read, xbeePassed_overlong lost receiving overlong,
        delivered]

/-- A header that is refused for its length byte: the packet before it is checked again. -/
theorem exists_xbeePassed_again (lost : Bool) (hunting : Hunting xbee count)
    {frame : XBeeFrame} (leaves : xbee.Leaves (some frame)) (high : UInt8) {low : UInt8}
    (long : low.toNat > xbeeMaxDataLen) (rest : List UInt8) :
    ∃ next, Hunting next count ∧
      xbeePassed env lost xbee (xbeePktStart :: high :: low :: rest) =
        xbeePassed env true next (xbeeWindow lost rest) ∧
      if frame.ChecksAgain then
        next.delivered = xbee.delivered ++ [(frame.bytes, 3)] ∧
          next.Leaves (frame.kept env xbee.delivered.length)
      else next.delivered = xbee.delivered ∧ next.Leaves (some frame) := by
  rcases exists_refused env hunting high (Or.inl long) with
    ⟨mid, read, refused, -, three, hdrData, delivered, outcome⟩
  rw [if_pos long] at outcome
  rcases outcome with ⟨allocs, packet, heap⟩
  rcases leaves.congr packet heap with ⟨⟨index, found⟩, whole⟩
  rcases reclaim_kept (mid.refused env low) with ⟨sameRcvd, sameAllocs, sameHdr, sameDelivered⟩
  have inside : (mid.refused env low).reclaim.bytesRcvd.toNat - 1 < frame.bytes.length := by
    rw [sameRcvd, three, XBeeFrame.bytes]
    simp
  rcases exists_xbeeCheck env found whole inside with
    ⟨next, checked, zero, keptAllocs, keptHdr, passed⟩
  have place : frame.bytes.getD ((mid.refused env low).reclaim.bytesRcvd.toNat - 1) 0 =
      frame.low := by
    rw [sameRcvd, three]
    rfl
  rw [place, sameDelivered, delivered, sameRcvd, three] at passed
  refine ⟨next, ⟨zero, ?_, ?_⟩, ?_, ?_⟩
  · rw [keptAllocs, sameAllocs, allocs]
  · rw [keptHdr, sameHdr, hdrData]
  · have split : xbeePktStart :: high :: low :: rest = [xbeePktStart, high] ++ low :: rest := rfl
    rw [split, xbeePassed_append lost read, xbeePassed_refused lost refused, checked]
  · by_cases again : frame.ChecksAgain
    · rw [if_pos again.symm] at passed
      rw [if_pos again]
      exact passed
    · rw [if_neg fun right => again right.symm] at passed
      rw [if_neg again]
      exact passed

theorem xbeePassed_noise (lost : Bool) (hunting : Hunting xbee count) (stream : List UInt8) :
    xbeePassed env lost xbee stream =
      xbeePassed env lost xbee (stream.dropWhile (· ≠ xbeePktStart)) := by
  conv_lhs => rw [← List.takeWhile_append_dropWhile (p := (· ≠ xbeePktStart)) (l := stream)]
  exact xbeePassed_append lost (foldlM_takeWhile hunting stream) _

theorem exists_tooLong {stream rest : List UInt8}
    (token : xbeeToken (env.alloc count) stream = .tooLong rest) :
    ∃ high low, stream.dropWhile (· ≠ xbeePktStart) = xbeePktStart :: high :: low :: rest ∧
      xbeeMaxDataLen < xbeeAnnounced high low ∧ xbeeLow stream = low := by
  have describes := describes_xbeeToken (env.alloc count) stream
  rw [token] at describes
  rcases describes with ⟨high, low, found, long⟩
  exact ⟨high, low, found, long, by rw [xbeeLow, found]; rfl⟩

/-- The receiver passes what it meets. -/
theorem xbeePassed_eq {lost : Bool} {given : ℕ} {last : Option XBeeFrame} {stream : List UInt8}
    (hunting : Hunting xbee count) (before : xbee.delivered.length = given)
    (leaves : xbee.Leaves last) :
    xbeePassed env lost xbee stream = xbee.delivered ++
      (xbeeMeetings env lost count given last stream).flatMap XBeeMeeting.delivery := by
  fun_induction xbeeMeetings env lost count given last stream generalizing xbee with
  | case1 lost count given last stream rest token =>
      have describes := describes_xbeeToken (env.alloc count) stream
      rw [token] at describes
      rcases describes with ⟨high, low, found, short, failed⟩
      have small : low.toNat ≤ xbeeMaxDataLen := by
        rw [xbeeAnnounced] at short
        omega
      rw [xbeePassed_noise lost hunting, found, xbeePassed_noMemory lost hunting high small failed]
      simp
  | case2 lost count given last stream pending token =>
      rcases exists_foldlM_incomplete hunting token with ⟨next, read, delivered, -⟩
      have passed := xbeePassed_append lost read []
      rw [List.append_nil] at passed
      rw [passed, xbeePassed, delivered]
      simp
  | case3 lost count given last stream frame rest token ih =>
      have describes := describes_xbeeToken (env.alloc count) stream
      rw [token] at describes
      rcases describes with ⟨found, short, allocated, whole⟩
      rcases exists_foldlM_leaves env hunting short allocated whole with
        ⟨next, read, huntingNext, delivered, leavesNext⟩
      have more : next.delivered.length = given + (XBeeEvent.frame frame).delivery.length := by
        rw [delivered, List.length_append, before]
      rw [xbeePassed_noise lost hunting, found, xbeePassed_append lost read,
        ih huntingNext more (before ▸ leavesNext), delivered, List.flatMap_cons, List.append_assoc]
      rfl
  | case4 lost count given last stream rest token short =>
      rcases exists_tooLong token with ⟨high, low, found, long, isLow⟩
      rw [isLow] at short
      rw [xbeePassed_noise lost hunting, found, xbeePassed_narrowed lost hunting long short]
      simp
  | case5 lost count given stream rest token long =>
      rcases exists_tooLong token with ⟨high, low, found, -, isLow⟩
      rw [isLow] at long
      rw [xbeePassed_noise lost hunting, found,
        xbeePassed_without_frame lost hunting leaves high (not_le.mp long)]
      simp
  | case6 lost count given stream rest token long frame again ih =>
      rcases exists_tooLong token with ⟨high, low, found, -, isLow⟩
      rw [isLow] at long
      rcases exists_xbeePassed_again lost hunting leaves high (not_le.mp long) rest with
        ⟨next, huntingNext, passed, outcome⟩
      rw [if_pos again, before] at outcome
      have more : next.delivered.length = given + 1 := by
        rw [outcome.1, List.length_append, before, List.length_singleton]
      rw [xbeePassed_noise lost hunting, found, passed, ih huntingNext more outcome.2, outcome.1,
        List.flatMap_cons, List.append_assoc]
      rfl
  | case7 lost count given stream rest token long frame again ih =>
      rcases exists_tooLong token with ⟨high, low, found, -, isLow⟩
      rw [isLow] at long
      rcases exists_xbeePassed_again lost hunting leaves high (not_le.mp long) rest with
        ⟨next, huntingNext, passed, outcome⟩
      rw [if_neg again] at outcome
      rw [xbeePassed_noise lost hunting, found, passed,
        ih huntingNext (outcome.1 ▸ before) outcome.2, outcome.1]

/-- A frame that is met has the length it announces, which is not too much; one that is met again
checks with its third byte. -/
def XBeeMeeting.Holds : XBeeMeeting → Prop
  | .frame packet => packet.payload.length = xbeeAnnounced packet.high packet.low ∧
      xbeeAnnounced packet.high packet.low ≤ xbeeMaxDataLen
  | .again packet => packet.payload.length = xbeeAnnounced packet.high packet.low ∧
      packet.ChecksAgain

theorem holds_xbeeMeetings {lost : Bool} {given : ℕ} {last : Option XBeeFrame}
    {stream : List UInt8}
    (lastWhole : ∀ frame ∈ last, frame.payload.length = xbeeAnnounced frame.high frame.low) :
    ∀ meeting ∈ xbeeMeetings env lost count given last stream, meeting.Holds := by
  have keptWhole {frame : XBeeFrame}
      (whole : frame.payload.length = xbeeAnnounced frame.high frame.low) (given : ℕ) :
      ∀ other ∈ frame.kept env given,
        other.payload.length = xbeeAnnounced other.high other.low := by
    intro other otherMem
    rw [XBeeFrame.kept] at otherMem
    split at otherMem <;> cases otherMem
    exact whole
  fun_induction xbeeMeetings env lost count given last stream with
  | case1 lost count given last stream rest token => simp
  | case2 lost count given last stream pending token => simp
  | case3 lost count given last stream frame rest token ih =>
      have describes := describes_xbeeToken (env.alloc count) stream
      rw [token] at describes
      rcases describes with ⟨-, short, -, whole⟩
      refine List.forall_mem_cons.mpr ⟨⟨whole, short⟩, ih fun other otherMem => ?_⟩
      rw [XBeeFrame.left] at otherMem
      split at otherMem
      · exact keptWhole whole given other otherMem
      · cases otherMem
        exact whole
  | case4 lost count given last stream rest token short => simp
  | case5 lost count given stream rest token long => simp
  | case6 lost count given stream rest token long frame again ih =>
      have whole := lastWhole frame rfl
      exact List.forall_mem_cons.mpr ⟨⟨whole, again⟩, ih (keptWhole whole given)⟩
  | case7 lost count given stream rest token long frame again ih => exact ih lastWhole

/-! ### Runs -/

theorem prefix_xbeeCheck (checked : xbeeCheck env xbee = .ok next) :
    xbee.delivered <+: next.delivered := by
  simp only [xbeeCheck] at checked
  split at checked
  · cases checked
  · split at checked
    · cases checked
    · split_ifs at checked with inside wrong <;> cases checked
      · exact List.prefix_refl _
      all_goals exact List.prefix_append _ _

theorem prefix_xbeeByte {c : UInt8} (read : xbeeByte env xbee c = .ok next) :
    xbee.delivered <+: next.delivered := by
  rw [xbeeByte] at read
  split_ifs at read with is0 noise is1 is2
  · cases read
    exact List.prefix_refl _
  · cases read
    exact List.prefix_refl _
  · cases read
    exact List.prefix_refl _
  · have kept := delivered_xbeeHeader env (xbee.storeHdr c)
    rcases found : xbeeHeader env (xbee.storeHdr c) with ⟨mid, _ | _⟩
    · rw [found] at read
      cases read
    · rw [found] at read kept
      cases read
      exact kept.symm ▸ List.prefix_refl _
  · cases stored : { xbee with bytesLeft := xbee.bytesLeft - 1 }.storePkt c with
    | error fault =>
        rw [stored] at read
        cases read
    | ok mid =>
        have kept := (storePkt_kept stored).1
        rw [stored] at read
        simp only at read
        split_ifs at read
        · cases read
          exact kept.symm ▸ List.prefix_refl _
        · have passed := prefix_xbeeCheck read
          rwa [kept] at passed

theorem subset_xbeePassed (lost : Bool) (xbee : XXBee) (data : List UInt8) :
    xbee.delivered ⊆ xbeePassed env lost xbee data := by
  fun_induction xbeePassed env lost xbee data with
  | case1 lost xbee => exact List.Subset.refl _
  | case2 lost xbee c data refused fault checked => exact List.Subset.refl _
  | case3 lost xbee c data refused next checked ih =>
      have grows := prefix_xbeeCheck checked
      rw [(reclaim_kept (xbee.refused env c)).2.2.2] at grows
      have kept : (xbee.refused env c).delivered = xbee.delivered :=
        delivered_xbeeHeader env (xbee.storeHdr c)
      rw [kept] at grows
      exact List.Subset.trans grows.subset ih
  | case4 lost xbee c data refused fault read => exact List.Subset.refl _
  | case5 lost xbee c data refused next read ih =>
      exact List.Subset.trans (prefix_xbeeByte read).subset ih

/-- More of a chunk, or more chunks behind it, take back nothing. -/
theorem xbeePassed_subset (lost : Bool) (xbee : XXBee) {data : List UInt8}
    (short : lost = true ∨ data.length < 256) (more : List UInt8) :
    xbeePassed env true xbee data ⊆ xbeePassed env lost xbee (data ++ more) := by
  induction data generalizing xbee lost more with
  | nil =>
      rw [xbeePassed]
      exact subset_xbeePassed lost xbee _
  | cons c data ih =>
      rw [List.length_cons] at short
      rw [List.cons_append]
      by_cases refused : RefusesHeader env xbee c
      · rw [xbeePassed_refused true refused, xbeePassed_refused lost refused]
        cases checked : xbeeCheck env (xbee.refused env c).reclaim with
        | error fault => exact List.Subset.refl _
        | ok next =>
            have window : ∃ rest, xbeeWindow lost (data ++ more) = data ++ rest := by
              rcases short with isLost | fits
              · exact ⟨more, by rw [xbeeWindow, if_pos isLost]⟩
              · rw [xbeeWindow]
                split
                · exact ⟨more, rfl⟩
                · refine ⟨more.take (254 - data.length), ?_⟩
                  rw [List.take_append, List.take_of_length_le (by omega)]
            rcases window with ⟨rest, isWindow⟩
            have whole : xbeeWindow true data = data := rfl
            simp only [isWindow, whole]
            exact ih true next (Or.inl rfl) rest
      · rw [xbeePassed, if_neg refused, xbeePassed, if_neg refused]
        cases read : xbeeByte env xbee c with
        | error fault => exact List.Subset.refl _
        | ok next => exact ih lost next (short.imp id fun fits => by omega) more

/-- What is passed at all is passed in one call. -/
theorem exists_chunk {xbee : XXBee} {stream : List UInt8} {packet : List UInt8 × UInt8}
    (passed : packet ∈ xbeePassed env false xbee stream) :
    ∃ (bytes : List UInt8) (chunk : XBeeChunk) (next : XXBee),
      bytes ++ chunk.bytes <+: stream ∧ bytes.foldlM (xbeeByte env) xbee = .ok next ∧
        packet ∈ xbeePassed env true next chunk.bytes := by
  induction stream generalizing xbee with
  | nil =>
      exact ⟨[], ⟨[], by decide⟩, xbee, List.prefix_refl _, rfl, by rwa [xbeePassed] at passed ⊢⟩
  | cons c stream ih =>
      have early (before : packet ∈ xbee.delivered) :
          ∃ (bytes : List UInt8) (chunk : XBeeChunk) (next : XXBee),
            bytes ++ chunk.bytes <+: c :: stream ∧ bytes.foldlM (xbeeByte env) xbee = .ok next ∧
              packet ∈ xbeePassed env true next chunk.bytes :=
        ⟨[], ⟨[], by decide⟩, xbee, List.nil_prefix, rfl, by rwa [xbeePassed]⟩
      by_cases refused : RefusesHeader env xbee c
      · have fits : (c :: stream.take 254).length < 256 := by
          rw [List.length_cons]
          have := List.length_take_le 254 stream
          omega
        refine ⟨[], ⟨c :: stream.take 254, fits⟩, xbee,
          (List.prefix_cons_inj c).mpr (List.take_prefix 254 stream), rfl, ?_⟩
        rw [xbeePassed_refused false refused] at passed
        rw [xbeePassed_refused true refused]
        exact passed
      · rw [xbeePassed, if_neg refused] at passed
        cases read : xbeeByte env xbee c with
        | error fault =>
            rw [read] at passed
            exact early passed
        | ok next =>
            rw [read] at passed
            rcases ih passed with ⟨bytes, chunk, last, cut, later, inChunk⟩
            refine ⟨c :: bytes, chunk, last, (List.prefix_cons_inj c).mpr cut, ?_, inChunk⟩
            rw [List.foldlM_cons, read]
            exact later

/-- The packet is passed to `iXBeeRecvPktCB` when a part of the stream is read, cut in some way;
the last call may end or fault. -/
def HandedOver (env : XBeeEnv) (chunks : List XBeeChunk) (packet : List UInt8 × UInt8) : Prop :=
  ∃ calls chunk xbee, xbeeStream (calls ++ [chunk]) <+: xbeeStream chunks ∧
    xbeeRun env xbeeOpened calls = .ok xbee ∧ packet ∈ vXBeeInPassed env xbee chunk

/-- The packets handed over are those of what the stream makes the receiver meet. -/
theorem handedOver_iff {chunks : List XBeeChunk} {packet : List UInt8 × UInt8} :
    HandedOver env chunks packet ↔
      ∃ meeting ∈ xbeeMeetings env false 0 0 none (xbeeStream chunks),
        packet ∈ meeting.delivery := by
  have met : xbeePassed env false xbeeOpened (xbeeStream chunks) =
      (xbeeMeetings env false 0 0 none (xbeeStream chunks)).flatMap XBeeMeeting.delivery :=
    xbeePassed_eq hunting_opened rfl ⟨.nullPointer, rfl⟩
  rw [← List.mem_flatMap, ← met]
  constructor
  · intro handed
    rcases handed with ⟨calls, chunk, xbee, cut, run, passed⟩
    have read := xbeeRun_eq_ok_iff.mp run
    rw [vXBeeInPassed_eq (steady_foldlM steady_opened read)] at passed
    rcases cut with ⟨rest, whole⟩
    rw [xbeeStream, List.flatMap_append, List.flatMap_singleton, ← xbeeStream,
      List.append_assoc] at whole
    rw [← whole, xbeePassed_append false read]
    exact xbeePassed_subset false xbee (Or.inr chunk.length_lt) rest passed
  · intro passed
    rcases exists_chunk passed with ⟨bytes, chunk, next, cut, read, inChunk⟩
    refine ⟨bytewise bytes, chunk, next, ?_, ?_, ?_⟩
    · rw [xbeeStream, List.flatMap_append, List.flatMap_singleton, ← xbeeStream,
        xbeeStream_bytewise]
      exact cut
    · rw [xbeeRun_eq_ok_iff, xbeeStream_bytewise]
      exact read
    · rw [vXBeeInPassed_eq (steady_foldlM steady_opened read)]
      exact inChunk

end

end Sysio.XBee
