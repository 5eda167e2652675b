import Sysio.Radio.Ax25.Transmit

/-!
# What `prviDecode` reads

The length of the address field is found while it is read: the field ends at the first
address that has its last-address bit set, or after eight repeaters, and the decoder never
compares that length with the length of the frame. `ax25PathLen` is the length found;
`prviDecode_eq` gives the three ways the decoder ends, and `prviDecode_congr` says which
bytes of the buffer its answer depends on.
-/

namespace Sysio.Radio

/-- The repeater addresses that the decoder finds behind the address that ends at `buf`. -/
def ax25CountRepeaters (p : XAx25) : ℕ → ℕ → ℕ
  | 0, _ => 0
  | remaining + 1, buf =>
      if p.byteAt buf &&& 0x01 ≠ 0 then 0
      else ax25CountRepeaters p remaining (buf + (ax25CallLen + 1)) + 1

/-- The bytes of the addresses that the decoder finds. -/
def ax25PathLen (p : XAx25) : ℕ :=
  (ax25CallLen + 1) * (2 + ax25CountRepeaters p ax25MaxRpt (2 * ax25CallLen + 1))

theorem ax25CountRepeaters_le (p : XAx25) (remaining buf : ℕ) :
    ax25CountRepeaters p remaining buf ≤ remaining := by
  induction remaining generalizing buf with
  | zero => exact le_rfl
  | succ remaining ih =>
      simp only [ax25CountRepeaters]
      split_ifs
      · omega
      · have := ih (buf + (ax25CallLen + 1))
        omega

theorem ax25PathLen_le (p : XAx25) : ax25PathLen p ≤ 70 := by
  have := ax25CountRepeaters_le p ax25MaxRpt (2 * ax25CallLen + 1)
  simp only [ax25PathLen, ax25CallLen, ax25MaxRpt] at this ⊢
  omega

theorem ax25DecodeRepeaters_fst (p : XAx25) (remaining buf : ℕ) (f : XAx25Frame) :
    (ax25DecodeRepeaters p remaining buf f).1 =
      buf + 1 + (ax25CallLen + 1) * ax25CountRepeaters p remaining buf := by
  induction remaining generalizing buf f with
  | zero => simp [ax25DecodeRepeaters, ax25CountRepeaters]
  | succ remaining ih =>
      simp only [ax25DecodeRepeaters, ax25CountRepeaters]
      split_ifs
      · simp
      · simp only [prvxExtractCallsign, ih, ax25CallLen]
        have next : buf + 1 + 6 = buf + (6 + 1) := by omega
        rw [next]
        ring

theorem ax25DecodePath_fst (p : XAx25) : (ax25DecodePath p).1 = ax25PathLen p := by
  simp only [ax25DecodePath, prvxExtractCallsign, ax25DecodeRepeaters_fst, ax25PathLen]
  have first : 0 + ax25CallLen + 1 + ax25CallLen = 2 * ax25CallLen + 1 := by ring
  rw [first]
  ring

/-- The control and protocol fields found behind the address field are those of a UI frame
without layer 3. -/
def HasUiFields (p : XAx25) : Prop :=
  p.byteAt (ax25PathLen p) = ax25CtrlUi ∧ p.byteAt (ax25PathLen p + 1) = ax25PidNolayer3

instance (p : XAx25) : Decidable (HasUiFields p) := inferInstanceAs (Decidable (_ ∧ _))

/-- The address, control and protocol fields found end before the CRC of the frame. -/
def HeaderInside (p : XAx25) : Prop := ax25PathLen p + 2 + 2 ≤ p.len

instance (p : XAx25) : Decidable (HeaderInside p) := inferInstanceAs (Decidable (_ ≤ _))

/-- The bytes between the protocol field and the CRC. -/
def XAx25.infoBytes (p : XAx25) : List UInt8 :=
  (p.buf.toList.drop (ax25PathLen p + 2)).take (p.len - 2 - (ax25PathLen p + 2))

theorem iAx25Read_reported {p : XAx25} (waiting : p.frmRecv = true) (f : XAx25Frame) :
    iAx25Read p f = prviDecode { p with error := .success } := by
  simp [iAx25Read, waiting]

theorem prviDecode_of_not_ui {p : XAx25} (other : ¬HasUiFields p) :
    ∃ f, prviDecode p = .ok (.invalidFrame, p, f) := by
  simp only [prviDecode, ax25DecodePath_fst]
  by_cases ctrl : p.byteAt (ax25PathLen p) = ax25CtrlUi
  · have pid : p.byteAt (ax25PathLen p + 1) ≠ ax25PidNolayer3 := fun pid => other ⟨ctrl, pid⟩
    simp [ctrl, pid]
  · simp [ctrl]

/-- When the header runs past the frame, the size of the information field wraps around and
the copy leaves the buffer. -/
theorem prviDecode_of_not_inside {p : XAx25} (fields : HasUiFields p)
    (outside : ¬HeaderInside p) : prviDecode p = .error .outOfBounds := by
  have pathLen := ax25PathLen_le p
  have wraps : ¬ax25PathLen p + 2 + ax25InfoSize p.len (ax25PathLen p + 2) ≤ ax25FrameBufLen := by
    simp only [HeaderInside, not_le] at outside
    have size : ax25InfoSize p.len (ax25PathLen p + 2) =
        2 ^ 64 - (ax25PathLen p + 2 + 2 - p.len) := by
      rw [ax25InfoSize, Nat.mod_eq_of_lt (by omega)]
      omega
    rw [size]
    simp only [ax25FrameBufLen, ax25CallLen, ax25MaxRpt, ax25InfoLen]
    omega
  simp only [prviDecode, ax25DecodePath_fst]
  simp [fields.1, fields.2, wraps]

theorem prviDecode_of_inside {p : XAx25} (len_le : p.len ≤ ax25FrameBufLen)
    (fields : HasUiFields p) (inside : HeaderInside p) :
    ∃ f, prviDecode p = .ok (.success, ax25Ready p, f) ∧
      f.dst = (ax25DecodePath p).2.dst ∧ f.src = (ax25DecodePath p).2.src ∧
      f.repeaters = (ax25DecodePath p).2.repeaters ∧ f.ctrl = ax25CtrlUi ∧
      f.pid = ax25PidNolayer3 ∧ f.info = p.infoBytes := by
  have size : ax25InfoSize p.len (ax25PathLen p + 2) = p.len - 2 - (ax25PathLen p + 2) := by
    simp only [HeaderInside] at inside
    have bufLen : ax25FrameBufLen = 330 := rfl
    have positive : p.len + 2 ^ 64 - 2 - (ax25PathLen p + 2) =
        p.len - 2 - (ax25PathLen p + 2) + 2 ^ 64 := by omega
    rw [ax25InfoSize, positive, Nat.add_mod_right, Nat.mod_eq_of_lt (by omega)]
  have fits : ax25PathLen p + 2 + (p.len - 2 - (ax25PathLen p + 2)) ≤ ax25FrameBufLen := by
    simp only [HeaderInside] at inside
    omega
  simp only [prviDecode, ax25DecodePath_fst]
  simp [fields.1, fields.2, size, fits, XAx25.infoBytes]

theorem length_infoBytes {p : XAx25} (len_le : p.len ≤ ax25FrameBufLen) :
    p.infoBytes.length = p.len - 2 - (ax25PathLen p + 2) := by
  simp only [XAx25.infoBytes, List.length_take, List.length_drop, Vector.length_toList]
  omega

/-! ### The bytes that the answer depends on -/

/-- Both buffers hold the same bytes below the bound. -/
def AgreeBelow (bound : ℕ) (p q : XAx25) : Prop := ∀ i < bound, p.byteAt i = q.byteAt i

theorem prvxExtractCallsign_congr {bound buf : ℕ} {p q : XAx25} (agree : AgreeBelow bound p q)
    (below : buf + ax25CallLen ≤ bound) :
    prvxExtractCallsign p buf = prvxExtractCallsign q buf := by
  simp only [prvxExtractCallsign, Prod.mk.injEq, and_true]
  apply List.map_congr_left
  intro i i_mem
  rw [agree (buf + i) (by have := List.mem_range.mp i_mem; omega)]

theorem ax25DecodeRepeaters_congr {bound : ℕ} {p q : XAx25} (agree : AgreeBelow bound p q)
    (remaining buf : ℕ) (f : XAx25Frame)
    (below : (ax25DecodeRepeaters p remaining buf f).1 ≤ bound) :
    ax25DecodeRepeaters p remaining buf f = ax25DecodeRepeaters q remaining buf f := by
  induction remaining generalizing buf f with
  | zero => rfl
  | succ remaining ih =>
      rw [ax25DecodeRepeaters_fst] at below
      have here := agree buf (by omega)
      simp only [ax25DecodeRepeaters, here]
      by_cases last : q.byteAt buf &&& 0x01 ≠ 0
      · simp [last]
      · have counted : ax25CountRepeaters p (remaining + 1) buf =
            ax25CountRepeaters p remaining (buf + (ax25CallLen + 1)) + 1 := by
          rw [ax25CountRepeaters, here, if_neg last]
        rw [counted] at below
        have callsign : prvxExtractCallsign p (buf + 1) = prvxExtractCallsign q (buf + 1) :=
          prvxExtractCallsign_congr agree (by
          simp only [ax25CallLen] at below ⊢
          omega)
        have ssid := agree (buf + 1 + ax25CallLen) (by
          simp only [ax25CallLen] at below ⊢
          omega)
        simp only [last, if_false, callsign]
        have behindCall : (prvxExtractCallsign q (buf + 1)).2 = buf + 1 + ax25CallLen := rfl
        have next : buf + 1 + ax25CallLen = buf + (ax25CallLen + 1) := by ring
        rw [behindCall, ssid]
        apply ih
        rw [ax25DecodeRepeaters_fst, next]
        simp only [ax25CallLen] at below ⊢
        omega

theorem ax25DecodePath_congr {p q : XAx25} (agree : AgreeBelow (ax25PathLen p) p q) :
    ax25DecodePath p = ax25DecodePath q := by
  have long : 2 * (ax25CallLen + 1) ≤ ax25PathLen p := by
    simp only [ax25PathLen]
    exact (Nat.mul_comm _ _).le.trans (Nat.mul_le_mul_left _ (by omega))
  have dst : prvxExtractCallsign p 0 = prvxExtractCallsign q 0 :=
    prvxExtractCallsign_congr agree (by omega)
  have src : prvxExtractCallsign p (ax25CallLen + 1) = prvxExtractCallsign q (ax25CallLen + 1) :=
    prvxExtractCallsign_congr agree (by omega)
  have dstSsid := agree ax25CallLen (by omega)
  have srcSsid := agree (ax25CallLen + 1 + ax25CallLen) (by omega)
  have behindDst : (prvxExtractCallsign q 0).2 = ax25CallLen := by simp [prvxExtractCallsign]
  have behindSrc : (prvxExtractCallsign q (ax25CallLen + 1)).2 = ax25CallLen + 1 + ax25CallLen :=
    rfl
  have pathEnd := ax25DecodePath_fst p
  simp only [ax25DecodePath, dst, behindDst, dstSsid, src, behindSrc, srcSsid] at pathEnd ⊢
  exact ax25DecodeRepeaters_congr agree _ _ _ pathEnd.le

theorem ax25PathLen_congr {p q : XAx25} (agree : AgreeBelow (ax25PathLen p) p q) :
    ax25PathLen q = ax25PathLen p := by
  rw [← ax25DecodePath_fst, ← ax25DecodePath_fst, ax25DecodePath_congr agree]

theorem slice_congr {bound start size : ℕ} {p q : XAx25} (agree : AgreeBelow bound p q)
    (below : start + size ≤ bound) :
    (p.buf.toList.drop start).take size = (q.buf.toList.drop start).take size := by
  apply List.ext_getElem
  · simp
  intro i leftLt rightLt
  have i_lt : start + i < ax25FrameBufLen := by
    simp only [List.length_take, List.length_drop, Vector.length_toList] at leftLt
    omega
  have same := agree (start + i) (by
    simp only [List.length_take] at leftLt
    omega)
  simpa [XAx25.byteAt, List.getD_eq_getElem?_getD, i_lt] using same

/-- Two buffers that agree on a frame whose header lies inside it are decoded alike. -/
theorem prviDecode_congr {p q : XAx25} (len_le : p.len ≤ ax25FrameBufLen)
    (fields : HasUiFields p) (inside : HeaderInside p) (sameLen : q.len = p.len)
    (agree : AgreeBelow (p.len - 2) p q) :
    ∃ f, prviDecode p = .ok (.success, ax25Ready p, f) ∧
      prviDecode q = .ok (.success, ax25Ready q, f) := by
  have header : ax25PathLen p + 2 ≤ p.len - 2 := by
    simp only [HeaderInside] at inside
    omega
  have agreePath : AgreeBelow (ax25PathLen p) p q := fun i i_lt => agree i (by omega)
  have samePathLen := ax25PathLen_congr agreePath
  have fieldsQ : HasUiFields q := by
    rw [HasUiFields, samePathLen, ← agree _ (by omega), ← agree _ (by omega)]
    exact fields
  have insideQ : HeaderInside q := by
    rw [HeaderInside, samePathLen, sameLen]
    exact inside
  rcases prviDecode_of_inside len_le fields inside with
    ⟨f, decodedP, dstP, srcP, repeatersP, ctrlP, pidP, infoP⟩
  rcases prviDecode_of_inside (sameLen ▸ len_le) fieldsQ insideQ with
    ⟨g, decodedQ, dstQ, srcQ, repeatersQ, ctrlQ, pidQ, infoQ⟩
  have samePath := ax25DecodePath_congr agreePath
  have sameInfo : p.infoBytes = q.infoBytes := by
    rw [XAx25.infoBytes, XAx25.infoBytes, samePathLen, sameLen]
    exact slice_congr agree (by omega)
  have same : f = g := by
    apply XAx25Frame.ext
    · rw [dstP, dstQ, samePath]
    · rw [srcP, srcQ, samePath]
    · rw [repeatersP, repeatersQ, samePath]
    · rw [ctrlP, ctrlQ]
    · rw [pidP, pidQ]
    · rw [infoP, infoQ, sameInfo]
  exact ⟨f, decodedP, same ▸ decodedQ⟩

end Sysio.Radio
