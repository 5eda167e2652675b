import Mathlib.Data.List.GetD
import Sysio.Radio.Ax25.Decode
import Sysio.Radio.Ax25.Receive

/-!
# A frame sent is the frame read

The line of a frame that `iAx25Send` accepts holds one segment, whose octets are the bytes of
the frame and its CRC; a receiver in any state that is not about to report something takes the
first flag for the start of a segment, so that `Ax25Reading` applies from there on. The decoder
then finds each address where the sender put it: the lemmas about it describe the buffer by
what stands from a position on.
-/

namespace Sysio.Radio

namespace XAx25Node

/-- An address that a UI frame may carry. -/
structure Valid (n : XAx25Node) : Prop where
  alnum : ∀ c ∈ n.callsign.chars, CChar.isalnum c = true
  ssid_lt : n.ssid < 16

/-- The address with its callsign in capitals. -/
def upper (n : XAx25Node) : XAx25Node := { n with callsign := n.callsign.upper }

theorem Valid.sendable {n : XAx25Node} (valid : n.Valid) : n.Sendable := by
  intro c c_mem
  simp [valid.alnum c c_mem]

end XAx25Node

namespace XAx25Frame

/-- A UI frame without layer 3, sent by its originator. -/
structure Valid (f : XAx25Frame) : Prop where
  dst : f.dst.Valid
  src : f.src.Valid
  repeaters : ∀ n ∈ f.repeaters, n.Valid
  dstFlag : f.dst.flag = false
  srcFlag : f.src.flag = false
  ctrl : f.ctrl = ax25CtrlUi
  pid : f.pid = ax25PidNolayer3
  infoLen_le : f.infoLen ≤ ax25InfoLen

/-- A frame as a valid one, with an information field that the receiver has room for. -/
structure Carried (f : XAx25Frame) : Prop where
  dst : f.dst.Valid
  src : f.src.Valid
  repeaters : ∀ n ∈ f.repeaters, n.Valid
  dstFlag : f.dst.flag = false
  srcFlag : f.src.flag = false
  ctrl : f.ctrl = ax25CtrlUi
  pid : f.pid = ax25PidNolayer3
  fits : (withCrc f.bytes).length ≤ ax25FrameBufLen

/-- The frame with its callsigns in capitals. -/
def upper (f : XAx25Frame) : XAx25Frame :=
  { f with
    dst := f.dst.upper
    src := f.src.upper
    repeaters := f.repeaters.map XAx25Node.upper
    repeaters_le := by simpa using f.repeaters_le }

theorem Valid.sendable {f : XAx25Frame} (valid : f.Valid) : f.Sendable :=
  ⟨valid.dst.sendable, valid.src.sendable, fun n n_mem => (valid.repeaters n n_mem).sendable⟩

theorem Valid.carried {f : XAx25Frame} (valid : f.Valid) : f.Carried := by
  rcases valid with ⟨dst, src, repeaters, dstFlag, srcFlag, ctrl, pid, infoLen_le⟩
  refine ⟨dst, src, repeaters, dstFlag, srcFlag, ctrl, pid, ?_⟩
  have repeaters_le := f.repeaters_le
  simp only [Radio.length_withCrc, length_bytes, repeatersLen, ax25FrameBufLen, ax25CallLen,
    ax25MaxRpt, ax25InfoLen] at repeaters_le infoLen_le ⊢
  omega

theorem min_le_length_withCrc (f : XAx25Frame) :
    ax25MinFrameLen ≤ (withCrc f.bytes).length := by
  simp only [Radio.length_withCrc, length_bytes, ax25MinFrameLen, ax25CallLen]
  omega

end XAx25Frame

/-! ### The line -/

theorem hdlcSymbols_escapeByte (c : UInt8) (rest : List UInt8) :
    hdlcSymbols false (escapeByte c ++ rest) = .octet c :: hdlcSymbols false rest ∧
      hdlcPending false (escapeByte c ++ rest) = hdlcPending false rest := by
  by_cases special : c = hdlcFlag ∨ c = hdlcReset ∨ c = ax25Esc
  · have escapes : escapeByte c = [ax25Esc, c] := if_pos special
    rw [escapes]
    exact ⟨rfl, rfl⟩
  · have plain : escapeByte c = [c] := if_neg special
    simp only [not_or] at special
    have notEsc : (c == ax25Esc) = false := beq_eq_false_iff_ne.mpr special.2.2
    simp [plain, hdlcSymbols, hdlcSymbol, hdlcPending, special, notEsc]

theorem hdlcSymbols_escapeBytes (bytes : List UInt8) :
    hdlcSymbols false (escapeBytes bytes) = bytes.map .octet := by
  induction bytes with
  | nil => rfl
  | cons c rest ih => rw [escapeBytes_cons, (hdlcSymbols_escapeByte c _).1, ih, List.map_cons]

theorem hdlcPending_escapeBytes (bytes : List UInt8) :
    hdlcPending false (escapeBytes bytes) = false := by
  induction bytes with
  | nil => rfl
  | cons c rest ih => rw [escapeBytes_cons, (hdlcSymbols_escapeByte c _).2, ih]

theorem ax25Reading_foldl {line more : List UInt8} {p : XAx25} (reading : Ax25Reading line p)
    (noFlag : .flag ∉ hdlcSymbols p.escape more) :
    Ax25Reading (line ++ more) (more.foldl ax25PollByte p) ∧
      ∀ before after, more = before ++ after → (before.foldl ax25PollByte p).frmRecv = false := by
  induction more generalizing line p with
  | nil =>
      refine ⟨by simpa using reading, ?_⟩
      intro before after split
      simp [(List.append_eq_nil_iff.mp split.symm).1, reading.frmRecv]
  | cons c rest ih =>
      simp only [hdlcSymbols, List.mem_append, Option.mem_toList, not_or] at noFlag
      have quiet : (ax25PollByte p c).frmRecv = false := by
        rw [frmRecv_pollByte_of_ne_flag (fun isFlag => noFlag.1 (by simp [isFlag]))]
        exact reading.frmRecv
      have next := ax25Reading_pollByte reading c quiet
      have pending : (ax25PollByte p c).escape = (!p.escape && c == ax25Esc) := by
        rw [next.escape, hdlcPending_append, reading.escape]
      rcases ih next (by rw [pending]; exact noFlag.2) with ⟨later, laterQuiet⟩
      refine ⟨by simpa using later, ?_⟩
      intro before after split
      cases before with
      | nil => exact reading.frmRecv
      | cons d before =>
          rw [List.cons_append, List.cons.injEq] at split
          rw [List.foldl_cons, ← split.1]
          exact laterQuiet before after split.2

/-- A receiver that a flag does not make report a frame. -/
structure Ax25Listening (p : XAx25) : Prop where
  opened : p.fin ≠ 0
  escape : p.escape = false
  frmRecv : p.frmRecv = false
  refused : ¬(p.len ≥ ax25MinFrameLen ∧ p.crcIn = ax25CrcCorrect)

theorem ax25Reading_flag {p : XAx25} (listening : Ax25Listening p) :
    Ax25Reading [hdlcFlag] (ax25PollByte p hdlcFlag) := by
  rw [ax25PollByte_opened listening.escape listening.refused]
  have opened : sinceFlag (hdlcSymbols false [hdlcFlag]) = some [] := by decide
  refine ⟨listening.frmRecv, listening.escape, ?_, ?_⟩
  · intro segment found
    rw [opened, Option.some.injEq] at found
    exact found ▸ ax25Segment_flag
  · intro found
    exact absurd (opened.symm.trans found) (by simp)

/-- The line of a payload. -/
def hdlcLine (payload : List UInt8) : List UInt8 :=
  hdlcFlag :: escapeBytes payload ++ [hdlcFlag]

/-- The state after the line of an admissible payload. -/
structure Ax25Holds (payload : List UInt8) (p : XAx25) : Prop where
  frmRecv : p.frmRecv = true
  len : p.len = payload.length
  buf : p.buf.toList.take p.len = payload

section Line

variable {p : XAx25} {payload : List UInt8}

variable (payload) in
theorem ax25Reading_payload (listening : Ax25Listening p) :
    Ax25Reading (hdlcFlag :: escapeBytes payload)
        ((hdlcFlag :: escapeBytes payload).foldl ax25PollByte p) ∧
      ∀ before after, hdlcFlag :: escapeBytes payload = before ++ after →
        (before.foldl ax25PollByte p).frmRecv = false := by
  have start := ax25Reading_flag listening
  have noFlag : .flag ∉ hdlcSymbols (ax25PollByte p hdlcFlag).escape (escapeBytes payload) := by
    have settled : hdlcPending false [hdlcFlag] = false := rfl
    rw [start.escape, settled, hdlcSymbols_escapeBytes]
    simp
  rcases ax25Reading_foldl start noFlag with ⟨reading, quiet⟩
  refine ⟨reading, ?_⟩
  intro before after split
  cases before with
  | nil => exact listening.frmRecv
  | cons d before =>
      rw [List.cons_append, List.cons.injEq] at split
      rw [List.foldl_cons, ← split.1]
      exact quiet before after split.2

/-- The closing flag, and it alone, reports the payload. -/
theorem ax25Holds_hdlcLine (listening : Ax25Listening p)
    (minLen : ax25MinFrameLen ≤ payload.length) (maxLen : payload.length ≤ ax25FrameBufLen)
    (checked : usCrcCcitt crcCcittInitVal payload = ax25CrcCorrect) :
    Ax25Holds payload ((hdlcLine payload).foldl ax25PollByte p) ∧
      ∀ before c after, hdlcLine payload = before ++ c :: after →
        (before.foldl ax25PollByte p).frmRecv = false := by
  rcases ax25Reading_payload payload listening with ⟨reading, quiet⟩
  have symbols : hdlcSymbols false (hdlcFlag :: escapeBytes payload) =
      .flag :: payload.map .octet := by
    rw [← hdlcSymbols_escapeBytes]
    rfl
  have noFlag : sinceFlag (payload.map HdlcSymbol.octet) = none := by
    clear reading quiet symbols minLen maxLen checked
    induction payload with
    | nil => rfl
    | cons c rest ih => simp [sinceFlag, ih]
  have found : sinceFlag (hdlcSymbols false (hdlcFlag :: escapeBytes payload)) =
      some (payload.map .octet) := by
    rw [symbols, sinceFlag, noFlag]
    rfl
  have segment := reading.segment _ found
  have content : octets (payload.map .octet) = payload := by
    simp [octets, List.filterMap_map]
  have whole : ¬IsCut (payload.map .octet) := by
    simp [IsCut, content, maxLen]
  have kept : keptOctets (payload.map .octet) = payload := by
    rw [keptOctets_of_not_isCut whole, content]
  have pending : hdlcPending false (hdlcFlag :: escapeBytes payload) = false :=
    hdlcPending_escapeBytes payload
  rcases segment with ⟨_, len, crcIn, buf⟩
  rw [kept] at len crcIn buf
  have closed := ax25PollByte_accepted (reading.escape.trans pending)
    ⟨by rw [len]; exact minLen, by rw [crcIn]; exact checked⟩
  constructor
  · rw [hdlcLine, List.foldl_append, List.foldl_cons, List.foldl_nil, closed]
    exact ⟨rfl, len, buf⟩
  · intro before c after split
    rcases List.eq_nil_or_concat after with rfl | ⟨after, d, rfl⟩
    · have same : before = hdlcFlag :: escapeBytes payload := (List.append_inj_left' split rfl).symm
      exact quiet before [] (by simp [same])
    · have same : hdlcFlag :: escapeBytes payload = before ++ c :: after := by
        rw [hdlcLine, List.concat_eq_append, ← List.cons_append, ← List.append_assoc] at split
        exact List.append_inj_left' split rfl
      exact quiet before (c :: after) same

/-- However the line is polled, a frame waits when and only when it was read to its end, and
enough polls read it to its end. -/
theorem frmRecv_polls_hdlcLine (listening : Ax25Listening p)
    (minLen : ax25MinFrameLen ≤ payload.length) (maxLen : payload.length ≤ ax25FrameBufLen)
    (checked : usCrcCcitt crcCcittInitVal payload = ax25CrcCorrect)
    {script : List (Option UInt8)} (bytes : scriptBytes script = hdlcLine payload) (count : ℕ) :
    ((ax25Polls count p script).1.frmRecv = true ↔
        scriptBytes (ax25Polls count p script).2 = []) ∧
      (scriptBytes (ax25Polls count p script).2 = [] →
        Ax25Holds payload (ax25Polls count p script).1) := by
  rcases ax25Holds_hdlcLine listening minLen maxLen checked with ⟨holds, quiet⟩
  rcases ax25Read_polls count p script with ⟨line, split, reached, _⟩
  rw [bytes] at split
  have atEnd : scriptBytes (ax25Polls count p script).2 = [] →
      Ax25Holds payload (ax25Polls count p script).1 := by
    intro done
    rw [done, List.append_nil] at split
    rw [reached, ← split]
    exact holds
  refine ⟨⟨?_, fun done => (atEnd done).frmRecv⟩, atEnd⟩
  intro waiting
  cases unread : scriptBytes (ax25Polls count p script).2 with
  | nil => rfl
  | cons c rest =>
      rw [unread] at split
      rw [reached, quiet line c rest split] at waiting
      exact absurd waiting (by simp)

end Line

theorem frmRecv_or_length_polls_le (opened : p.fin ≠ 0) (script : List (Option UInt8))
    (count : ℕ) :
    (ax25Polls count p script).1.frmRecv = true ∨
      (ax25Polls count p script).2.length ≤ script.length - count := by
  have fin : (ax25Polls count p script).1.fin ≠ 0 := by
    rcases ax25Read_polls count p script with ⟨line, _, reached, _⟩
    rwa [reached, fin_foldl_pollByte]
  have ended := Polling.blocked_or_length_calls_le
    (fun p script => (bAx25Poll p script).2) p script
    (fun q => q.fin = 0 ∨ q.frmRecv = true) ?_ ?_ ?_ count
  · rcases ended with (closed | waiting) | short
    · exact absurd closed fin
    · exact Or.inl waiting
    · exact Or.inr short
  · rintro q rest (closed | waiting)
    · simp [bAx25Poll, closed]
    · by_cases closed : q.fin = 0 <;> simp [bAx25Poll, closed, waiting]
  · intro q rest reads restNe
    simp only [not_or, Bool.not_eq_true] at reads
    simpa [bAx25Poll, reads] using Polling.length_drain_lt ax25PollStep q restNe
  · intro q
    simp only [bAx25Poll]
    split_ifs <;> rfl

/-! ### The decoder -/

/-- What the decoder makes of a character of an address. -/
def callsignChar (c : UInt8) : UInt8 := if c >>> 1 = 0x20 then 0 else c >>> 1

theorem callsignChar_toupper {c : UInt8} (alnum : CChar.isalnum c = true) :
    callsignChar (CChar.toupper c <<< 1) = CChar.toupper c := by
  revert c
  decide +kernel

theorem toupper_toupper (c : UInt8) : CChar.toupper (CChar.toupper c) = CChar.toupper c := by
  revert c
  decide +kernel

theorem toupper_eq_space {c : UInt8} (isSpace : CChar.toupper c = 0x20) : c = 0x20 := by
  revert c
  decide +kernel

theorem ssidByte_fields {n : XAx25Node} (valid : n.Valid) (last : Bool) :
    (ax25SsidByte n last >>> 1) &&& 0x0F = n.ssid ∧
      (ax25SsidByte n last &&& 0x80 ≠ 0 ↔ n.flag = true) ∧
      (ax25SsidByte n last &&& 0x01 ≠ 0 ↔ last = true) := by
  have ssid_lt := valid.ssid_lt
  simp only [ax25SsidByte]
  generalize n.ssid = ssid at ssid_lt ⊢
  cases n.flag <;> cases last <;> revert ssid <;> decide +kernel

section Decoder

variable {p : XAx25} {pos : ℕ} {rest : List UInt8}

theorem byteAt_eq_of_drop {bytes : List UInt8} (stored : p.buf.toList.drop pos = bytes ++ rest)
    {i : ℕ} (i_lt : i < bytes.length) : p.byteAt (pos + i) = bytes[i] := by
  have here : (p.buf.toList.drop pos).getD i 0 = bytes[i] := by
    rw [stored, List.getD_append _ _ _ _ i_lt, List.getD_eq_getElem _ _ i_lt]
  rw [← here, XAx25.byteAt, List.getD_eq_getElem?_getD, List.getD_eq_getElem?_getD,
    List.getElem?_drop]

theorem drop_of_drop_append {bytes : List UInt8}
    (stored : p.buf.toList.drop pos = bytes ++ rest) {size : ℕ} (size_eq : bytes.length = size) :
    p.buf.toList.drop (pos + size) = rest := by
  rw [← List.drop_drop, stored, ← size_eq, List.drop_left]

theorem prvxExtractCallsign_of_stored {n : XAx25Node} {last : Bool} (valid : n.Valid)
    (stored : p.buf.toList.drop pos = n.bytes last ++ rest) :
    CString.strncpy ax25CallLen (prvxExtractCallsign p pos).1 = n.callsign.upper := by
  have read : (prvxExtractCallsign p pos).1 =
      ((n.bytes last).take ax25CallLen).map callsignChar := by
    apply List.ext_getElem
    · simp [prvxExtractCallsign]
    intro i leftLt rightLt
    have i_lt : i < ax25CallLen := by simpa [prvxExtractCallsign] using leftLt
    have byte := byteAt_eq_of_drop stored (i := i) (by rw [n.length_bytes]; omega)
    simp [prvxExtractCallsign, callsignChar, byte]
  have body : (n.bytes last).take ax25CallLen = n.callBytes :=
    List.take_left' n.length_callBytes
  have chars : (prvxExtractCallsign p pos).1 =
      n.callsign.upper.chars ++ List.replicate (ax25CallLen - n.callsign.chars.length) 0 := by
    rw [read, body, XAx25Node.callBytes, List.map_append, List.map_map, List.map_replicate,
      CString.upper_chars]
    congr 1
    apply List.map_congr_left
    intro c c_mem
    exact callsignChar_toupper (valid.alnum c c_mem)
  rw [chars]
  exact CString.strncpy_append_replicate n.callsign.upper _

theorem byteAt_ssid {n : XAx25Node} {last : Bool}
    (stored : p.buf.toList.drop pos = n.bytes last ++ rest) :
    p.byteAt (pos + ax25CallLen) = ax25SsidByte n last := by
  have length := n.length_bytes last
  rw [byteAt_eq_of_drop stored (by omega)]
  exact List.getElem_concat_length n.length_callBytes.symm _

theorem ax25DecodeRepeaters_of_stored (repeaters : List XAx25Node) (remaining buf : ℕ)
    (f : XAx25Frame) (valid : ∀ n ∈ repeaters, n.Valid)
    (lastBit : p.byteAt buf &&& 0x01 ≠ 0 ↔ repeaters.isEmpty = true)
    (stored : p.buf.toList.drop (buf + 1) = repeaterBytes repeaters ++ rest)
    (room : f.repeaters.length + remaining = ax25MaxRpt) (fits : repeaters.length ≤ remaining) :
    ∃ g, ax25DecodeRepeaters p remaining buf f =
        (buf + 1 + (ax25CallLen + 1) * repeaters.length, g) ∧
      g.dst = f.dst ∧ g.src = f.src ∧
      g.repeaters = f.repeaters ++ repeaters.map XAx25Node.upper := by
  induction repeaters generalizing remaining buf f with
  | nil =>
      refine ⟨f, ?_, rfl, rfl, by simp⟩
      cases remaining with
      | zero => rfl
      | succ remaining =>
          have last := lastBit.mpr rfl
          simp [ax25DecodeRepeaters, last]
  | cons n tail ih =>
      cases remaining with
      | zero => simp at fits
      | succ remaining =>
          have more : ¬(p.byteAt buf &&& 0x01 ≠ 0) := by simp [lastBit]
          rw [repeaterBytes, List.append_assoc] at stored
          have validHere := valid n (by simp)
          rcases ssidByte_fields validHere tail.isEmpty with ⟨ssid, flag, last⟩
          have callsign := prvxExtractCallsign_of_stored validHere stored
          have ssidByte := byteAt_ssid stored
          have behind := drop_of_drop_append stored (n.length_bytes tail.isEmpty)
          have index : ax25MaxRpt - (remaining + 1) = f.repeaters.length := by omega
          have isFull : f.repeaters.length < ax25MaxRpt := by omega
          have flag_eq : decide (ax25SsidByte n tail.isEmpty &&& 0x80 ≠ 0) = n.flag := by
            rw [Bool.eq_iff_iff, decide_eq_true_iff]
            exact flag
          have added := iAx25FrameSetRepeaterFlag_addRepeater f
            (prvxExtractCallsign p (buf + 1)).1 n.ssid n.flag isFull
          rw [callsign] at added
          rcases ih remaining (buf + 1 + ax25CallLen)
            { f with
              repeaters := f.repeaters ++ [n.upper]
              repeaters_le := by simpa [Nat.succ_le_iff] using isFull }
            (fun m m_mem => valid m (by simp [m_mem])) (by rw [ssidByte]; exact last) behind
            (by simp only [List.length_append, List.length_singleton]; omega)
            (by simpa using fits) with ⟨g, decoded, dst, src, repeaters⟩
          refine ⟨g, ?_, dst, src, by simp [repeaters]⟩
          simp only [ax25DecodeRepeaters, more, if_false]
          have behindCall : (prvxExtractCallsign p (buf + 1)).2 = buf + 1 + ax25CallLen := rfl
          rw [behindCall, ssidByte, ssid, flag_eq, index, added]
          refine Eq.trans decoded (Prod.ext ?_ rfl)
          simp only [List.length_cons]
          ring

theorem node_of_callsign {n : XAx25Node} {callsign : List UInt8} (flag : n.flag = false)
    (upper : CString.strncpy ax25CallLen callsign = n.callsign.upper) :
    { iAx25NodeSetCallsign iAx25NodeClear callsign with ssid := n.ssid } = n.upper :=
  XAx25Node.ext upper rfl flag.symm

theorem ax25DecodePath_of_stored {f : XAx25Frame} (valid : f.Carried)
    (stored : p.buf.toList = f.pathBytes ++ rest) :
    ∃ g, ax25DecodePath p = (f.pathBytes.length, g) ∧
      g.dst = f.upper.dst ∧ g.src = f.upper.src ∧ g.repeaters = f.upper.repeaters := by
  rw [XAx25Frame.pathBytes, List.append_assoc, List.append_assoc] at stored
  have atDst : p.buf.toList.drop 0 = _ := stored
  have atSrc := drop_of_drop_append atDst (f.dst.length_bytes false)
  have atRepeaters := drop_of_drop_append atSrc (f.src.length_bytes _)
  rcases ssidByte_fields valid.dst false with ⟨dstSsid, _, _⟩
  rcases ssidByte_fields valid.src f.repeaters.isEmpty with ⟨srcSsid, _, srcLast⟩
  have dstCallsign := prvxExtractCallsign_of_stored valid.dst atDst
  have srcCallsign := prvxExtractCallsign_of_stored valid.src atSrc
  have dstByte := byteAt_ssid atDst
  have srcByte := byteAt_ssid atSrc
  have marked : p.byteAt (ax25CallLen + 1 + ax25CallLen) &&& 0x01 ≠ 0 ↔
      f.repeaters.isEmpty = true := by
    change p.byteAt (0 + (ax25CallLen + 1) + ax25CallLen) &&& 0x01 ≠ 0 ↔ _
    rw [srcByte]
    exact srcLast
  rcases ax25DecodeRepeaters_of_stored f.repeaters ax25MaxRpt (ax25CallLen + 1 + ax25CallLen)
    { iAx25FrameClear with dst := f.upper.dst, src := f.upper.src } valid.repeaters marked
    atRepeaters (by simp [iAx25FrameClear]) f.repeaters_le with ⟨g, decoded, dst, src, repeaters⟩
  refine ⟨g, ?_, dst, src, by rw [repeaters]; rfl⟩
  have start : ax25DecodePath p =
      ax25DecodeRepeaters p ax25MaxRpt (ax25CallLen + 1 + ax25CallLen)
        { iAx25FrameClear with dst := f.upper.dst, src := f.upper.src } := by
    have dst := node_of_callsign valid.dstFlag dstCallsign
    have src := node_of_callsign valid.srcFlag srcCallsign
    change ax25DecodeRepeaters p ax25MaxRpt (ax25CallLen + 1 + ax25CallLen)
      (iAx25FrameSetSrc
        (iAx25FrameSetDst iAx25FrameClear (prvxExtractCallsign p 0).1
          ((p.byteAt (0 + ax25CallLen) >>> 1) &&& 0x0F))
        (prvxExtractCallsign p (0 + (ax25CallLen + 1))).1
        ((p.byteAt (0 + (ax25CallLen + 1) + ax25CallLen) >>> 1) &&& 0x0F)) = _
    rw [dstByte, srcByte, dstSsid, srcSsid, iAx25FrameSetDst, iAx25FrameSetSrc]
    simp only [iAx25FrameClear] at dst src ⊢
    rw [dst, src]
    rfl
  rw [start, decoded]
  refine Prod.ext ?_ rfl
  simp only [XAx25Frame.pathBytes, List.length_append, XAx25Node.length_bytes, length_repeaterBytes]
  ring

end Decoder

/-- A receiver that holds a frame and its CRC decodes the frame. -/
theorem prviDecode_of_holds {p : XAx25} {f : XAx25Frame} (valid : f.Carried)
    (holds : Ax25Holds (withCrc f.bytes) p) :
    prviDecode p = .ok (.success, ax25Ready p, f.upper) := by
  rcases holds with ⟨_, len, buf⟩
  obtain ⟨stale, stored⟩ : ∃ stale, p.buf.toList =
      f.pathBytes ++ ([f.ctrl, f.pid] ++ (f.info ++ stale)) := by
    refine ⟨(withCrc f.bytes).drop f.bytes.length ++ p.buf.toList.drop p.len, ?_⟩
    calc p.buf.toList = withCrc f.bytes ++ p.buf.toList.drop p.len := by
          rw [← buf, List.take_append_drop]
      _ = _ := by simp [withCrc, XAx25Frame.bytes]
  rcases ax25DecodePath_of_stored valid stored with ⟨g, decoded, dst, src, repeaters⟩
  have pathLen : ax25PathLen p = f.pathBytes.length := by
    rw [← ax25DecodePath_fst, decoded]
  have atCtrl : p.buf.toList.drop (ax25PathLen p) = [f.ctrl, f.pid] ++ (f.info ++ stale) := by
    rw [pathLen, stored, List.drop_left]
  have atInfo : p.buf.toList.drop (ax25PathLen p + 2) = f.info ++ stale :=
    drop_of_drop_append atCtrl rfl
  have fields : HasUiFields p :=
    ⟨(byteAt_eq_of_drop (i := 0) atCtrl (by simp)).trans valid.ctrl,
      (byteAt_eq_of_drop (i := 1) atCtrl (by simp)).trans valid.pid⟩
  have size : p.len = ax25PathLen p + 2 + f.info.length + 2 := by
    rw [len, length_withCrc, pathLen, XAx25Frame.bytes]
    simp only [List.length_append, List.length_cons]
    omega
  have inside : HeaderInside p := by
    rw [HeaderInside]
    omega
  have len_le : p.len ≤ ax25FrameBufLen := len ▸ valid.fits
  have info : p.infoBytes = f.info := by
    rw [XAx25.infoBytes, atInfo]
    exact List.take_left' (by omega)
  rcases prviDecode_of_inside len_le fields inside with
    ⟨h, success, hDst, hSrc, hRepeaters, hCtrl, hPid, hInfo⟩
  rw [decoded] at hDst hSrc hRepeaters
  have same : h = f.upper := by
    apply XAx25Frame.ext
    · exact hDst.trans dst
    · exact hSrc.trans src
    · exact hRepeaters.trans repeaters
    · exact hCtrl.trans valid.ctrl.symm
    · exact hPid.trans valid.pid.symm
    · exact hInfo.trans info
  rw [success, same]

/-! ### The round trip -/

/-- The receiver waits for a flag, as after `iAx25Clear`. -/
structure Ax25IsReady (p : XAx25) : Prop where
  len : p.len = 0
  escape : p.escape = false
  sync : p.sync = false
  frmRecv : p.frmRecv = false
  crcIn : p.crcIn = crcCcittInitVal

/-- However the bytes of `line` are polled, `f` is reported at the last of them, read with
its callsigns in upper case, and the receiver is ready again. -/
def Receives (p : XAx25) (line : List UInt8) (f : XAx25Frame) : Prop :=
  ∀ script, scriptBytes script = line → ∀ count, let polled := ax25Polls count p script
    (polled.1.frmRecv = true ↔ scriptBytes polled.2 = []) ∧
    (script.length ≤ count → scriptBytes polled.2 = []) ∧
    (polled.1.frmRecv = true → ∀ g, ∃ q,
      iAx25Read polled.1 g = .ok (.success, q, f.upper) ∧ Ax25IsReady q)

theorem receives_hdlcLine {p : XAx25} {f : XAx25Frame} (listening : Ax25Listening p)
    (valid : f.Carried) : Receives p (hdlcLine (withCrc f.bytes)) f := by
  intro script bytes count polled
  rcases frmRecv_polls_hdlcLine listening f.min_le_length_withCrc valid.fits
    (usCrcCcitt_withCrc f.bytes) bytes count with ⟨reported, holds⟩
  refine ⟨reported, ?_, ?_⟩
  · intro enough
    rcases frmRecv_or_length_polls_le listening.opened script count with waiting | short
    · exact reported.mp waiting
    · have nothing : polled.2 = [] :=
        List.length_eq_zero_iff.mp (Nat.le_zero.mp (short.trans (Nat.sub_eq_zero_of_le enough).le))
      rw [nothing]
      rfl
  · intro waiting g
    have here := holds (reported.mp waiting)
    refine ⟨ax25Ready { polled.1 with error := .success }, ?_, ⟨rfl, rfl, rfl, rfl, rfl⟩⟩
    rw [iAx25Read_reported waiting]
    exact prviDecode_of_holds valid ⟨here.frmRecv, here.len, here.buf⟩

/-- A valid frame is sent, and its line is received as the frame. -/
theorem receives_iAx25Send {sender p : XAx25} {f : XAx25Frame} (opened : sender.fout ≠ 0)
    (listening : Ax25Listening p) (valid : f.Valid) :
    (iAx25Send sender f).1 = .success ∧ Receives p (iAx25Send sender f).2.line f := by
  rw [iAx25Send_eq opened valid.sendable]
  exact ⟨rfl, receives_hdlcLine listening valid.carried⟩

/-- A frame from b to A by way of C, which has repeated it. -/
def ax25Repeated : XAx25Frame where
  dst := ⟨⟨[0x41], by decide, by decide +kernel⟩, 2, false⟩
  src := ⟨⟨[0x62], by decide, by decide +kernel⟩, 15, false⟩
  repeaters := [⟨⟨[0x43], by decide, by decide +kernel⟩, 0, true⟩]
  ctrl := ax25CtrlUi
  pid := ax25PidNolayer3
  info := [0x7E, 0x1B]
  repeaters_le := by decide
  info_le := by decide

theorem receives_iAx25Send_repeated :
    (iAx25Send { iAx25Clear with fout := 4 } ax25Repeated).1 = .success ∧
      Receives (ax25Opened 3) (iAx25Send { iAx25Clear with fout := 4 } ax25Repeated).2.line
        ax25Repeated := by
  apply receives_iAx25Send
  · decide
  · exact ⟨by decide, rfl, rfl, by decide⟩
  have node : ∀ n ∈ [ax25Repeated.dst, ax25Repeated.src] ++ ax25Repeated.repeaters,
      (∀ c ∈ n.callsign.chars, CChar.isalnum c = true) ∧ n.ssid < 16 := by
    decide +kernel
  have valid : ∀ n ∈ [ax25Repeated.dst, ax25Repeated.src] ++ ax25Repeated.repeaters, n.Valid :=
    fun n n_mem => ⟨(node n n_mem).1, (node n n_mem).2⟩
  exact
    { dst := valid _ (by simp)
      src := valid _ (by simp)
      repeaters := fun n n_mem => valid n (by simp [n_mem])
      dstFlag := rfl
      srcFlag := rfl
      ctrl := rfl
      pid := rfl
      infoLen_le := by decide }

end Sysio.Radio
