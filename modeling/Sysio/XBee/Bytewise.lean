import Sysio.XBee.Receiver

/-!
# The receiver, byte by byte

However the bytes are cut into chunks, `vXBeeIn` does with each of them what `xbeeByte` does:
falling through to the next `case` is the same as entering the `switch` again
(`vXBeeLoop_cons`). The exception is the header that is refused, after which the loop has lost
count of the bytes of the chunk, and will read beyond them whatever it meets
(`exists_error_of_overrun`); `xbeeByte` ends in a fault there.
-/

namespace Sysio.XBee

/-- What the receiver does with one byte, whatever chunk it comes in. -/
def xbeeByte (env : XBeeEnv) (xbee : XXBee) (c : UInt8) : Except Fault XXBee :=
  if xbee.bytesRcvd = 0 then .ok (if c ≠ xbeePktStart then xbee else xbee.storeHdr c)
  else if xbee.bytesRcvd = 1 then .ok (xbee.storeHdr c)
  else if xbee.bytesRcvd = 2 then
    match xbeeHeader env (xbee.storeHdr c) with
    | (_, false) => .error .outOfBounds
    | (xbee, true) => .ok xbee
  else
    match { xbee with bytesLeft := xbee.bytesLeft - 1 }.storePkt c with
    | .error fault => .error fault
    | .ok xbee =>
        if xbee.bytesLeft ≠ 0 then .ok xbee
        else xbeeCheck env { xbee with bytesLeft := xbee.bytesLeft - 1 }

/-- The header that `c` completes is refused. -/
def RefusesHeader (env : XBeeEnv) (xbee : XXBee) (c : UInt8) : Prop :=
  xbee.bytesRcvd = 2 ∧ (xbeeHeader env (xbee.storeHdr c)).2 = false

/-- Behind a header, some bytes of the packet are missing, and their number is that of the
packet. -/
def Steady (xbee : XXBee) : Prop :=
  3 ≤ xbee.bytesRcvd →
    xbee.bytesLeft ≠ 0 ∧ xbee.bytesRcvd.toNat + xbee.bytesLeft.toNat ≤ 255

/-- What the `switch` does with the next byte of the chunk: it goes on behind it, returns with the
last byte, leaves a complete packet to the check, or faults. -/
inductive SwitchByte (env : XBeeEnv) (xbee : XXBee) (c : UInt8) (data : List UInt8) (len : ℕ) :
    Prop where
  | goesOn (next : XXBee) (byte : xbeeByte env xbee c = .ok next) (more : len ≠ 0)
      (delivered : next.delivered = xbee.delivered)
      (ends : xbeeSwitch env xbee (c :: data) (len + 1) = xbeeSwitch env next data len)
  | returns (next : XXBee) (byte : xbeeByte env xbee c = .ok next) (last : len = 0)
      (delivered : next.delivered = xbee.delivered)
      (ends : xbeeSwitch env xbee (c :: data) (len + 1) = .ok (.returns next))
  | falls (next : XXBee) (byte : xbeeByte env xbee c = xbeeCheck env next)
      (delivered : next.delivered = xbee.delivered)
      (owned : ∃ found, next.block = .ok found)
      (ends : xbeeSwitch env xbee (c :: data) (len + 1) = .ok (.falls next data len))
  | faults (fault : Fault) (byte : xbeeByte env xbee c = .error fault)
      (ends : xbeeSwitch env xbee (c :: data) (len + 1) = .error fault)

section

variable {env : XBeeEnv} {xbee : XXBee} {data : List UInt8} {len : ℕ}

/-- What the loop does with the outcome of the `switch`. -/
def xbeeFinish (env : XBeeEnv) : Except Fault XBeeFlow → Except Fault XXBee
  | .error fault => .error fault
  | .ok (.returns xbee) => .ok xbee
  | .ok (.continues xbee data len) => vXBeeLoop env xbee data len
  | .ok (.falls xbee data len) =>
      match xbeeCheck env xbee with
      | .error fault => .error fault
      | .ok xbee => vXBeeLoop env xbee data len

@[simp]
theorem vXBeeLoop_zero (env : XBeeEnv) (xbee : XXBee) (data : List UInt8) :
    vXBeeLoop env xbee data 0 = .ok xbee := by
  rw [vXBeeLoop, if_pos rfl]

theorem vXBeeLoop_of_ne (running : len ≠ 0) :
    vXBeeLoop env xbee data len = xbeeFinish env (xbeeSwitch env xbee data len) := by
  rw [vXBeeLoop, if_neg running]
  split
  · rename_i fault ends
    rw [ends]
    rfl
  · rename_i next ends
    rw [ends]
    rfl
  · rename_i next rest left ends
    rw [ends]
    rfl
  · rename_i next rest left ends
    rw [ends]
    simp only [xbeeFinish]
    split <;> rename_i checked <;> rw [checked]

/-! ### After a refused header -/

/-- A loop that has lost count ends in a fault. -/
theorem exists_error_of_overrun (env : XBeeEnv) (xbee : XXBee) {data : List UInt8} {len : ℕ}
    (overrun : data.length < len) : ∃ fault, vXBeeLoop env xbee data len = .error fault := by
  have goesOn : ∀ {xbee data len flow}, xbeeSwitch env xbee data len = .ok flow →
      flow.Follows (data.length + 1) (data.length < len) := by
    intro xbee data len flow ends
    rcases follows_xbeeSwitch ends with follows | ⟨_, follows, _⟩
    · exact follows.weaken
    · exact follows
  fun_induction vXBeeLoop env xbee data len with
  | case1 => omega
  | case2 xbee data len _ fault ends => exact ⟨fault, rfl⟩
  | case3 xbee data len _ next ends => exact (goesOn ends overrun).elim
  | case4 xbee data len _ next rest left ends ih => exact ih ((goesOn ends).2 overrun)
  | case5 xbee data len _ next rest left ends fault checked => exact ⟨fault, rfl⟩
  | case6 xbee data len _ next rest left ends last checked ih =>
      exact ih ((goesOn ends).2 overrun)

/-! ### One byte of the chunk -/

theorem bytesRcvd_storePkt {c : UInt8} {next : XXBee} (stored : xbee.storePkt c = .ok next) :
    next.bytesRcvd = xbee.bytesRcvd + 1 ∧ next.bytesLeft = xbee.bytesLeft := by
  simp only [XXBee.storePkt] at stored
  split at stored
  · cases stored
  · split_ifs at stored
    cases stored
    exact ⟨rfl, rfl⟩

theorem count_storePkt {rcvd left : UInt8} (missing : left ≠ 0)
    (small : rcvd.toNat + left.toNat ≤ 255) :
    (rcvd + 1).toNat = rcvd.toNat + 1 ∧ (left - 1).toNat = left.toNat - 1 := by
  have positive : left.toNat ≠ 0 := fun is => missing (UInt8.toNat_inj.mp is)
  constructor
  · rw [UInt8.toNat_add]
    exact Nat.mod_eq_of_lt (by simp only [UInt8.reduceToNat]; omega)
  · rw [UInt8.toNat_sub_of_le]
    · rfl
    · rw [UInt8.le_iff_toNat_le]
      simp only [UInt8.reduceToNat]
      omega

theorem xbeeHeader_accepted {next : XXBee} (header : xbeeHeader env xbee = (next, true)) :
    (UInt8.ofNat (xbeeDataLen xbee.hdrData)).toNat ≤ xbeeMaxDataLen ∧
      next.bytesRcvd = xbee.bytesRcvd ∧
      next.bytesLeft = UInt8.ofNat (xbeeDataLen xbee.hdrData) + 1 := by
  simp only [xbeeHeader] at header
  split_ifs at header with long failed <;> cases header
  exact ⟨not_lt.mp long, rfl, rfl⟩

theorem bytesRcvd_xbeeHeader (env : XBeeEnv) (xbee : XXBee) :
    (xbeeHeader env xbee).1.bytesRcvd = xbee.bytesRcvd := by
  simp only [xbeeHeader]
  split_ifs <;> rfl

theorem xbeeDefault_done (done : xbee.bytesLeft = 0) :
    xbeeDefault xbee data len =
      .ok (.falls { xbee with bytesLeft := xbee.bytesLeft - 1 } data len) := by
  cases data <;> simp [xbeeDefault, done]

theorem xbeeSwitch_behindHeader (behind : 3 ≤ xbee.bytesRcvd) :
    xbeeSwitch env xbee data len = xbeeDefault xbee data len := by
  rcases behindHeader_iff.mp behind with ⟨notZero, notOne, notTwo⟩
  rw [xbeeSwitch, if_neg notZero, if_neg notOne, if_neg notTwo]

theorem storePkt_kept {c : UInt8} {next : XXBee} (stored : xbee.storePkt c = .ok next) :
    next.delivered = xbee.delivered ∧ ∃ found, next.block = .ok found := by
  simp only [XXBee.storePkt] at stored
  split at stored
  · cases stored
  · rename_i index bytes found
    split_ifs at stored
    cases stored
    refine ⟨rfl, (index, bytes.set xbee.bytesRcvd.toNat c), ?_⟩
    simp only [XXBee.block] at found
    split at found
    · cases found
    · rename_i place pointer
      split at found
      · rename_i inside
        cases found
        have there := (List.getElem?_eq_some_iff.mp inside).1
        simp only [XXBee.block, pointer, List.getElem?_set_self there]
      · cases found

theorem switchByte_behindHeader (steady : Steady xbee) (behind : 3 ≤ xbee.bytesRcvd) (c : UInt8) :
    SwitchByte env xbee c data len := by
  rcases steady behind with ⟨missing, small⟩
  rcases behindHeader_iff.mp behind with ⟨notZero, notOne, notTwo⟩
  have ends : xbeeSwitch env xbee (c :: data) (len + 1) =
      xbeeDefault xbee (c :: data) (len + 1) := xbeeSwitch_behindHeader behind
  have byte := Eq.refl (xbeeByte env xbee c)
  conv_rhs at byte => rw [xbeeByte, if_neg notZero, if_neg notOne, if_neg notTwo]
  rw [xbeeDefault, if_neg missing, Nat.add_sub_cancel] at ends
  cases stored : { xbee with bytesLeft := xbee.bytesLeft - 1 }.storePkt c with
  | error fault =>
      rw [stored] at ends byte
      exact .faults fault byte ends
  | ok next =>
      rcases bytesRcvd_storePkt stored with ⟨rcvd, left⟩
      rcases storePkt_kept stored with ⟨delivered, owned⟩
      have behindNext : 3 ≤ next.bytesRcvd := by
        rw [rcvd, UInt8.le_iff_toNat_le, (count_storePkt missing small).1]
        have := UInt8.le_iff_toNat_le.mp behind
        omega
      rw [stored] at ends byte
      by_cases complete : next.bytesLeft = 0
      · simp only [complete, ne_eq, not_true_eq_false, and_false, if_false] at ends byte
        rw [xbeeDefault_done complete, complete] at ends
        exact .falls _ byte delivered owned ends
      · simp only [complete, ne_eq, not_false_eq_true, and_true, if_true] at ends byte
        by_cases last : len = 0
        · rw [if_pos last] at ends
          exact .returns next byte last delivered ends
        · have switched : xbeeSwitch env next data len = xbeeDefault next data len :=
            xbeeSwitch_behindHeader behindNext
          rw [if_neg last, ← switched] at ends
          exact .goesOn next byte last delivered ends

theorem switchByte (steady : Steady xbee) {c : UInt8} (accepted : ¬RefusesHeader env xbee c) :
    SwitchByte env xbee c data len := by
  by_cases is0 : xbee.bytesRcvd = 0
  · have byte := Eq.refl (xbeeByte env xbee c)
    conv_rhs at byte => rw [xbeeByte, if_pos is0]
    have ends := Eq.refl (xbeeSwitch env xbee (c :: data) (len + 1))
    conv_rhs at ends => rw [xbeeSwitch, if_pos is0, xbeeCase0, Nat.add_sub_cancel]
    by_cases noise : c ≠ xbeePktStart
    · rw [if_pos noise] at ends byte
      by_cases last : len = 0
      · rw [if_pos last] at ends
        exact .returns xbee byte last rfl ends
      · rw [if_neg last] at ends
        refine .goesOn xbee byte last rfl ?_
        rw [ends, xbeeSwitch, if_pos is0]
    · have one : (xbee.storeHdr c).bytesRcvd = 1 := by simp [XXBee.storeHdr, is0]
      rw [if_neg noise] at ends byte
      by_cases last : len = 0
      · rw [if_pos last] at ends
        exact .returns _ byte last rfl ends
      · rw [if_neg last] at ends
        refine .goesOn _ byte last rfl ?_
        rw [ends, xbeeSwitch, one, if_neg (by decide), if_pos rfl]
        rfl
  by_cases is1 : xbee.bytesRcvd = 1
  · have two : (xbee.storeHdr c).bytesRcvd = 2 := by simp [XXBee.storeHdr, is1]
    have byte := Eq.refl (xbeeByte env xbee c)
    conv_rhs at byte => rw [xbeeByte, if_neg is0, if_pos is1]
    have ends := Eq.refl (xbeeSwitch env xbee (c :: data) (len + 1))
    conv_rhs at ends => rw [xbeeSwitch, if_neg is0, if_pos is1, xbeeCase1, Nat.add_sub_cancel]
    by_cases last : len = 0
    · rw [if_pos last] at ends
      exact .returns _ byte last rfl ends
    · rw [if_neg last] at ends
      refine .goesOn _ byte last rfl ?_
      rw [ends, xbeeSwitch, two, if_neg (by decide), if_neg (by decide), if_pos rfl]
      rfl
  by_cases is2 : xbee.bytesRcvd = 2
  · have two : (xbee.storeHdr c).bytesRcvd = 3 := by simp [XXBee.storeHdr, is2]
    have byte := Eq.refl (xbeeByte env xbee c)
    conv_rhs at byte => rw [xbeeByte, if_neg is0, if_neg is1, if_pos is2]
    have ends := Eq.refl (xbeeSwitch env xbee (c :: data) (len + 1))
    conv_rhs at ends =>
      rw [xbeeSwitch, if_neg is0, if_neg is1, if_pos is2, xbeeCase2, Nat.add_sub_cancel]
    rcases header : xbeeHeader env (xbee.storeHdr c) with ⟨next, _ | _⟩
    · exact absurd ⟨is2, by rw [header]⟩ accepted
    · have three : 3 ≤ next.bytesRcvd := by
        have kept := bytesRcvd_xbeeHeader env (xbee.storeHdr c)
        rw [header, two] at kept
        change next.bytesRcvd = 3 at kept
        rw [kept]
        decide
      have delivered : next.delivered = xbee.delivered := by
        simp only [xbeeHeader] at header
        split_ifs at header <;> cases header
        rfl
      rw [header] at ends byte
      by_cases last : len = 0
      · simp only [if_pos last] at ends
        exact .returns next byte last delivered ends
      · simp only [if_neg last] at ends
        refine .goesOn next byte last delivered ?_
        rw [ends, xbeeSwitch_behindHeader three]
        rfl
  · exact switchByte_behindHeader steady (behindHeader_iff.mpr ⟨is0, is1, is2⟩) c

/-- A byte of a chunk, unless it completes a header that is refused. -/
theorem vXBeeLoop_cons (steady : Steady xbee) {c : UInt8}
    (accepted : ¬RefusesHeader env xbee c) :
    vXBeeLoop env xbee (c :: data) (len + 1) =
      (xbeeByte env xbee c).bind fun next => vXBeeLoop env next data len := by
  have switched : SwitchByte env xbee c data len := switchByte steady accepted
  rw [vXBeeLoop_of_ne (by omega)]
  cases switched with
  | goesOn next byte more _ ends =>
      rw [ends, byte]
      exact (vXBeeLoop_of_ne more).symm
  | returns next byte last _ ends =>
      rw [ends, byte, last]
      exact (vXBeeLoop_zero env next data).symm
  | falls next byte _ _ ends =>
      rw [ends, byte, xbeeFinish]
      cases xbeeCheck env next <;> rfl
  | faults fault byte ends =>
      rw [ends, byte]
      rfl

theorem steady_xbeeByte (steady : Steady xbee) {c : UInt8} {next : XXBee}
    (read : xbeeByte env xbee c = .ok next) : Steady next := by
  intro behindNext
  by_cases is0 : xbee.bytesRcvd = 0
  · rw [xbeeByte, if_pos is0, Except.ok.injEq] at read
    rw [← read] at behindNext
    split_ifs at behindNext
    · simp [is0] at behindNext
    · simp [XXBee.storeHdr, is0] at behindNext
  by_cases is1 : xbee.bytesRcvd = 1
  · rw [xbeeByte, if_neg is0, if_pos is1, Except.ok.injEq] at read
    simp [← read, XXBee.storeHdr, is1] at behindNext
  by_cases is2 : xbee.bytesRcvd = 2
  · rw [xbeeByte, if_neg is0, if_neg is1, if_pos is2] at read
    rcases header : xbeeHeader env (xbee.storeHdr c) with ⟨last, _ | _⟩
    · simp [header] at read
    · simp only [header, Except.ok.injEq] at read
      subst read
      rcases xbeeHeader_accepted header with ⟨fits, rcvd, left⟩
      have rcvd3 : last.bytesRcvd.toNat = 3 := by
        simp [rcvd, XXBee.storeHdr, is2]
      have max : xbeeMaxDataLen = 251 := rfl
      have left_eq : last.bytesLeft.toNat =
          (UInt8.ofNat (xbeeDataLen (xbee.storeHdr c).hdrData)).toNat + 1 := by
        rw [left, UInt8.toNat_add]
        exact Nat.mod_eq_of_lt (by simp only [UInt8.reduceToNat]; omega)
      refine ⟨fun is => ?_, by omega⟩
      simp [is] at left_eq
  · have behind : 3 ≤ xbee.bytesRcvd := behindHeader_iff.mpr ⟨is0, is1, is2⟩
    rcases steady behind with ⟨missing, small⟩
    rw [xbeeByte, if_neg is0, if_neg is1, if_neg is2] at read
    cases stored : { xbee with bytesLeft := xbee.bytesLeft - 1 }.storePkt c with
    | error fault => simp [stored] at read
    | ok last =>
        rcases bytesRcvd_storePkt stored with ⟨rcvd, left⟩
        rcases count_storePkt missing small with ⟨rcvdNext, leftNext⟩
        simp only [stored] at read
        split_ifs at read with more
        · cases read
          refine ⟨more, ?_⟩
          rw [rcvd, left, rcvdNext, leftNext]
          have positive : xbee.bytesLeft.toNat ≠ 0 := fun is => missing (UInt8.toNat_inj.mp is)
          omega
        · rw [bytesRcvd_xbeeCheck read] at behindNext
          exact absurd behindNext (by decide)

variable (env) in
/-- One call of `vXBeeIn` treats its bytes one after the other. -/
theorem vXBeeLoop_toOption (steady : Steady xbee) (data : List UInt8) :
    (vXBeeLoop env xbee data data.length).toOption =
      (data.foldlM (xbeeByte env) xbee).toOption := by
  induction data generalizing xbee with
  | nil => simp [pure, Except.pure]
  | cons c data ih =>
      by_cases refused : RefusesHeader env xbee c
      · rcases refused with ⟨is2, header⟩
        rcases lost : xbeeHeader env (xbee.storeHdr c) with ⟨next, accepted⟩
        rw [lost] at header
        simp only at header
        subst header
        have notZero : xbee.bytesRcvd ≠ 0 := by simp [is2]
        have notOne : xbee.bytesRcvd ≠ 1 := by simp [is2]
        have code : vXBeeLoop env xbee (c :: data) (c :: data).length =
            vXBeeLoop env next data (data.length + 1) := by
          rw [List.length_cons, vXBeeLoop_of_ne (by omega), xbeeSwitch, if_neg notZero,
            if_neg notOne, if_pos is2, xbeeCase2, lost]
          rfl
        have byte : xbeeByte env xbee c = .error .outOfBounds := by
          rw [xbeeByte, if_neg notZero, if_neg notOne, if_pos is2, lost]
        rcases exists_error_of_overrun env next (Nat.lt_succ_self data.length) with ⟨fault, error⟩
        rw [code, error, List.foldlM_cons, byte]
        rfl
      · rw [List.length_cons, vXBeeLoop_cons steady refused, List.foldlM_cons]
        cases read : xbeeByte env xbee c with
        | error fault => rfl
        | ok next => exact ih (steady_xbeeByte steady read)

/-- The bytes of the chunks, one behind the other. -/
def xbeeStream (chunks : List XBeeChunk) : List UInt8 := chunks.flatMap XBeeChunk.bytes

theorem steady_foldlM (steady : Steady xbee) {data : List UInt8} {next : XXBee}
    (read : data.foldlM (xbeeByte env) xbee = .ok next) : Steady next := by
  induction data generalizing xbee with
  | nil => exact Except.ok.inj read ▸ steady
  | cons c data ih =>
      rw [List.foldlM_cons] at read
      cases first : xbeeByte env xbee c with
      | error fault => simp [first, bind, Except.bind] at read
      | ok mid =>
          exact ih (steady_xbeeByte steady first) (by simpa [first, bind, Except.bind] using read)

variable (env) in
theorem xbeeRun_toOption (steady : Steady xbee) (chunks : List XBeeChunk) :
    (xbeeRun env xbee chunks).toOption =
      ((xbeeStream chunks).foldlM (xbeeByte env) xbee).toOption := by
  induction chunks generalizing xbee with
  | nil => rfl
  | cons chunk chunks ih =>
      rw [xbeeRun, List.foldlM_cons, xbeeStream, List.flatMap_cons, List.foldlM_append]
      have call := vXBeeLoop_toOption env steady chunk.bytes
      rw [← vXBeeIn] at call
      cases bytes : chunk.bytes.foldlM (xbeeByte env) xbee with
      | error fault =>
          cases made : vXBeeIn env xbee chunk with
          | error other => rfl
          | ok next => simp [bytes, made, Except.toOption] at call
      | ok next =>
          have made : vXBeeIn env xbee chunk = .ok next := by
            cases made : vXBeeIn env xbee chunk with
            | error other => simp [bytes, made, Except.toOption] at call
            | ok other => simpa [bytes, made, Except.toOption] using call
          rw [made]
          exact ih (steady_foldlM steady bytes)

end

end Sysio.XBee
