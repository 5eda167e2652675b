import Sysio.Radio.Ax25.RoundTrip
import Sysio.Radio.Ax25.Session

/-!
# What the sender accepts and the receiver takes

The receiver keeps so many bytes of a frame, four bits of an SSID, and the characters of a
callsign before the first space. The sender looks at none of this: it refuses characters that
may not stand in a callsign, and a space is not one of them. A frame made with the setters is
received as it was sent exactly if it is refused or is within the limits of the receiver
(`ax25Delivers_iff`).
-/

namespace Sysio.Radio

/-- The frames that the setters make of a new one. -/
inductive Ax25Built : XAx25Frame → Prop where
  | new : Ax25Built xAx25FrameNew
  | setSrc {f : XAx25Frame} (built : Ax25Built f) (callsign : List UInt8) (ssid : UInt8) :
      Ax25Built (iAx25FrameSetSrc f callsign ssid)
  | setDst {f : XAx25Frame} (built : Ax25Built f) (callsign : List UInt8) (ssid : UInt8) :
      Ax25Built (iAx25FrameSetDst f callsign ssid)
  | addRepeater {f : XAx25Frame} (built : Ax25Built f) (callsign : List UInt8) (ssid : UInt8) :
      Ax25Built (iAx25FrameAddRepeater f callsign ssid).2
  | setRepeaterFlag {f : XAx25Frame} (built : Ax25Built f) (index : ℕ) (flag : Bool) :
      Ax25Built (iAx25FrameSetRepeaterFlag f index flag).2
  | setInfo {f : XAx25Frame} (built : Ax25Built f) (info : List UInt8) :
      Ax25Built (iAx25FrameSetInfo f info)

/-- The address can be told from what the receiver keeps of it. -/
structure XAx25Node.Representable (n : XAx25Node) : Prop where
  ssid_lt : n.ssid < 16
  unspaced : (0x20 : UInt8) ∉ n.callsign.chars

namespace XAx25Frame

/-- Every address can be told, and the receiver has room for the frame. -/
structure Representable (f : XAx25Frame) : Prop where
  dst : f.dst.Representable
  src : f.src.Representable
  repeaters : ∀ n ∈ f.repeaters, n.Representable
  fits : (withCrc f.bytes).length ≤ ax25FrameBufLen

/-- The same addresses up to letter case, and the same information. -/
structure SameUpToCase (f g : XAx25Frame) : Prop where
  dst : g.dst.upper = f.dst.upper
  src : g.src.upper = f.src.upper
  repeaters : g.repeaters.map XAx25Node.upper = f.repeaters.map XAx25Node.upper
  info : g.info = f.info

end XAx25Frame

/-- However the bytes of `line` are polled, a frame is reported at the last of them, and read as
`f`. -/
def Ax25Delivered (p : XAx25) (line : List UInt8) (f : XAx25Frame) : Prop :=
  ∀ script, scriptBytes script = line → ∀ count, let polled := ax25Polls count p script
    (polled.1.frmRecv = true ↔ scriptBytes polled.2 = []) ∧
    (script.length ≤ count → scriptBytes polled.2 = []) ∧
    (polled.1.frmRecv = true → ∀ g, ∃ q h,
      iAx25Read polled.1 g = .ok (.success, q, h) ∧ f.SameUpToCase h)

/-- What the sender accepts the receiver gets, and what the receiver cannot hold the sender
refuses. -/
def Ax25Delivers (sender p : XAx25) (f : XAx25Frame) : Prop :=
  ((iAx25Send sender f).1 = .success → Ax25Delivered p (iAx25Send sender f).2.line f) ∧
    (¬f.Representable → (iAx25Send sender f).1 ≠ .success)

/-! ### What the sender accepts -/

theorem ax25PutCall_true {tx : Ax25Tx} {chars : List UInt8}
    (accepted : (ax25PutCall tx chars).1 = true) :
    ∀ c ∈ chars, (CChar.isalnum c || c == 0x20) = true := by
  induction chars generalizing tx with
  | nil => simp
  | cons c rest ih =>
      rw [ax25PutCall] at accepted
      split_ifs at accepted with illegal
      intro d d_mem
      rcases List.mem_cons.mp d_mem with rfl | later
      · simpa only [Bool.not_eq_true', Bool.not_eq_false] using illegal
      · exact ih accepted d later

theorem prviSendCall_success {tx : Ax25Tx} {n : XAx25Node} {last : Bool}
    (accepted : (prviSendCall tx n last).1 = .success) : n.Sendable := by
  rw [prviSendCall] at accepted
  rcases put : ax25PutCall tx n.callsign.chars with ⟨_ | _, next⟩
  · rw [put] at accepted
    cases accepted
  · exact ax25PutCall_true (congrArg Prod.fst put)

theorem ax25SendRepeaters_success {tx : Ax25Tx} {repeaters : List XAx25Node}
    (accepted : (ax25SendRepeaters tx repeaters).1 = .success) :
    ∀ n ∈ repeaters, n.Sendable := by
  induction repeaters generalizing tx with
  | nil => simp
  | cons n rest ih =>
      rw [ax25SendRepeaters] at accepted
      have first : n.Sendable := by
        rcases sent : prviSendCall tx n rest.isEmpty with ⟨code, next⟩
        rw [sent] at accepted
        cases code with
        | success => exact prviSendCall_success (congrArg Prod.fst sent)
        | _ => cases accepted
      rw [prviSendCall_eq tx first] at accepted
      intro m m_mem
      rcases List.mem_cons.mp m_mem with rfl | later
      · exact first
      · exact ih accepted m later

theorem iAx25Send_success_iff (sender : XAx25) (f : XAx25Frame) :
    (iAx25Send sender f).1 = .success ↔ sender.fout ≠ 0 ∧ f.Sendable := by
  constructor
  · intro accepted
    have opened : sender.fout ≠ 0 := by
      intro closed
      rw [iAx25Send, if_pos closed] at accepted
      cases accepted
    rw [iAx25Send, if_neg opened] at accepted
    simp only at accepted
    generalize prviPutc hdlcFlag ⟨{ sender with crcOut := crcCcittInitVal }, []⟩ = tx at accepted
    have dst : f.dst.Sendable := by
      rcases sent : prviSendCall tx f.dst false with ⟨code, next⟩
      rw [sent] at accepted
      cases code with
      | success => exact prviSendCall_success (congrArg Prod.fst sent)
      | _ => cases accepted
    rw [prviSendCall_eq tx dst] at accepted
    simp only at accepted
    generalize tx.sent (f.dst.bytes false) = tx at accepted
    have src : f.src.Sendable := by
      rcases sent : prviSendCall tx f.src f.repeaters.isEmpty with ⟨code, next⟩
      rw [sent] at accepted
      cases code with
      | success => exact prviSendCall_success (congrArg Prod.fst sent)
      | _ => cases accepted
    rw [prviSendCall_eq tx src] at accepted
    simp only at accepted
    generalize tx.sent (f.src.bytes f.repeaters.isEmpty) = tx at accepted
    have repeaters : ∀ n ∈ f.repeaters, n.Sendable := by
      rcases sent : ax25SendRepeaters tx f.repeaters with ⟨code, next⟩
      rw [sent] at accepted
      cases code with
      | success => exact ax25SendRepeaters_success (congrArg Prod.fst sent)
      | _ => cases accepted
    exact ⟨opened, dst, src, repeaters⟩
  · rintro ⟨opened, sendable⟩
    rw [iAx25Send_eq opened sendable]

/-! ### What the receiver reads -/

theorem representable_extracted (p : XAx25) (buf : ℕ) (ssid : UInt8) (flag : Bool) :
    (XAx25Node.mk (CString.strncpy ax25CallLen (prvxExtractCallsign p buf).1)
      ((ssid >>> 1) &&& 0x0F) flag).Representable := by
  constructor
  · change (ssid >>> 1) &&& 0x0F < 16
    rw [UInt8.lt_iff_toNat_lt, UInt8.toNat_and]
    exact Nat.and_le_right.trans_lt (by decide)
  · intro spaced
    have here := List.mem_of_mem_take ((List.takeWhile_sublist _).subset spaced)
    simp only [prvxExtractCallsign, List.mem_map] at here
    rcases here with ⟨i, _, isSpace⟩
    split_ifs at isSpace with wasSpace
    · cases isSpace
    · exact wasSpace isSpace

/-- Every address that is decoded is within the limits, and there are as many of them as the
length of the address field says. -/
theorem ax25DecodeRepeaters_snd (p : XAx25) (remaining buf : ℕ) (f : XAx25Frame)
    (room : f.repeaters.length + remaining = ax25MaxRpt)
    (all : ∀ n ∈ f.repeaters, n.Representable) :
    let g := (ax25DecodeRepeaters p remaining buf f).2
    g.dst = f.dst ∧ g.src = f.src ∧ (∀ n ∈ g.repeaters, n.Representable) ∧
      g.repeaters.length = f.repeaters.length + ax25CountRepeaters p remaining buf := by
  induction remaining generalizing buf f with
  | zero => exact ⟨rfl, rfl, all, rfl⟩
  | succ remaining ih =>
      simp only [ax25DecodeRepeaters, ax25CountRepeaters]
      split_ifs with last
      · exact ⟨rfl, rfl, all, rfl⟩
      · have index : ax25MaxRpt - (remaining + 1) = f.repeaters.length := by omega
        have isFull : f.repeaters.length < ax25MaxRpt := by omega
        let ssidByte := p.byteAt (prvxExtractCallsign p (buf + 1)).2
        have added := iAx25FrameSetRepeaterFlag_addRepeater f (prvxExtractCallsign p (buf + 1)).1
          ((ssidByte >>> 1) &&& 0x0F) (ssidByte &&& 0x80 ≠ 0) isFull
        have next := ih (buf + (ax25CallLen + 1)) { f with
          repeaters := f.repeaters ++ [⟨CString.strncpy ax25CallLen
            (prvxExtractCallsign p (buf + 1)).1, (ssidByte >>> 1) &&& 0x0F, ssidByte &&& 0x80 ≠ 0⟩]
          repeaters_le := List.length_append.trans_le isFull }
          (by simp only [List.length_append, List.length_singleton]; omega) (by
            intro n n_mem
            rcases List.mem_append.mp n_mem with old | here
            · exact all n old
            · rw [List.mem_singleton.mp here]
              exact representable_extracted p (buf + 1) ssidByte _)
        rcases next with ⟨dst, src, repeaters, length⟩
        rw [index, added]
        have position : (prvxExtractCallsign p (buf + 1)).2 = buf + (ax25CallLen + 1) := by
          simp only [prvxExtractCallsign]
          omega
        rw [position]
        refine ⟨dst, src, repeaters, length.trans ?_⟩
        simp only [List.length_append, List.length_singleton]
        omega

/-- A frame that is read is within the limits. -/
theorem representable_of_decoded {p q : XAx25} {g : XAx25Frame} (len_le : p.len ≤ ax25FrameBufLen)
    (decoded : prviDecode p = .ok (.success, q, g)) : g.Representable := by
  by_cases fields : HasUiFields p
  · by_cases inside : HeaderInside p
    · rcases prviDecode_of_inside len_le fields inside with
        ⟨h, success, dst, src, repeaters, _, _, info⟩
      rw [success] at decoded
      cases decoded
      let dstCall := prvxExtractCallsign p 0
      let srcCall := prvxExtractCallsign p (dstCall.2 + 1)
      let start := iAx25FrameSetSrc
        (iAx25FrameSetDst iAx25FrameClear dstCall.1 ((p.byteAt dstCall.2 >>> 1) &&& 0x0F))
        srcCall.1 ((p.byteAt srcCall.2 >>> 1) &&& 0x0F)
      have path : ax25DecodePath p = ax25DecodeRepeaters p ax25MaxRpt srcCall.2 start := rfl
      have noRepeaters : start.repeaters = [] := rfl
      have found := ax25DecodeRepeaters_snd p ax25MaxRpt srcCall.2 start
        (by rw [noRepeaters]; rfl) (by rw [noRepeaters]; simp)
      rw [← path] at found
      rcases found with ⟨dstIs, srcIs, all, length⟩
      refine ⟨?_, ?_, ?_, ?_⟩
      · rw [dst, dstIs]
        exact representable_extracted p 0 _ _
      · rw [src, srcIs]
        exact representable_extracted p _ _ _
      · rw [repeaters]
        exact all
      · have position : srcCall.2 = 2 * ax25CallLen + 1 := rfl
        rw [noRepeaters, position] at length
        have infoLen := length_infoBytes len_le
        rw [← info] at infoLen
        simp only [HeaderInside, ax25PathLen] at inside infoLen
        simp only [length_withCrc, XAx25Frame.length_bytes, XAx25Frame.repeatersLen,
          XAx25Frame.infoLen, repeaters, length, List.length_nil, Nat.zero_add, infoLen]
        omega
    · rw [prviDecode_of_not_inside fields inside] at decoded
      cases decoded
  · rcases prviDecode_of_not_ui fields with ⟨h, refused⟩
    rw [refused] at decoded
    cases decoded

theorem XAx25Node.Representable.of_upper {n m : XAx25Node} (representable : m.Representable)
    (same : m.upper = n.upper) : n.Representable := by
  have callsign := congrArg (fun node => node.callsign.chars) same
  have ssid := congrArg XAx25Node.ssid same
  refine ⟨ssid ▸ representable.ssid_lt, fun spaced => representable.unspaced ?_⟩
  have inUpper : (0x20 : UInt8) ∈ n.callsign.chars.map CChar.toupper :=
    List.mem_map.mpr ⟨0x20, spaced, rfl⟩
  change m.callsign.chars.map CChar.toupper = n.callsign.chars.map CChar.toupper at callsign
  rw [← callsign] at inUpper
  rcases List.mem_map.mp inUpper with ⟨c, c_mem, isSpace⟩
  rw [toupper_eq_space isSpace] at c_mem
  exact c_mem

theorem XAx25Frame.SameUpToCase.representable {f g : XAx25Frame} (same : f.SameUpToCase g)
    (representable : g.Representable) : f.Representable := by
  have lengths := congrArg List.length same.repeaters
  simp only [List.length_map] at lengths
  refine ⟨representable.dst.of_upper same.dst, representable.src.of_upper same.src, ?_, ?_⟩
  · intro n n_mem
    have inUpper : n.upper ∈ g.repeaters.map XAx25Node.upper := by
      rw [same.repeaters]
      exact List.mem_map_of_mem n_mem
    rcases List.mem_map.mp inUpper with ⟨m, m_mem, sameNode⟩
    exact (representable.repeaters m m_mem).of_upper sameNode
  · have fits := representable.fits
    simp only [length_withCrc, XAx25Frame.length_bytes, XAx25Frame.repeatersLen,
      XAx25Frame.infoLen, same.info, lengths] at fits ⊢
    exact fits

/-! ### The limits -/

theorem Ax25Built.plain {f : XAx25Frame} (built : Ax25Built f) :
    f.ctrl = ax25CtrlUi ∧ f.pid = ax25PidNolayer3 ∧ f.dst.flag = false ∧ f.src.flag = false := by
  induction built with
  | new => exact ⟨rfl, rfl, rfl, rfl⟩
  | setSrc _ _ _ ih => exact ih
  | setDst _ _ _ ih => exact ih
  | addRepeater _ _ _ ih =>
      rw [iAx25FrameAddRepeater]
      split
      · exact ih
      · exact ih
  | setRepeaterFlag _ _ _ ih =>
      rw [iAx25FrameSetRepeaterFlag]
      split
      · exact ih
      · exact ih
  | setInfo _ _ ih => exact ih

theorem XAx25Node.Representable.valid {n : XAx25Node} (representable : n.Representable)
    (sendable : n.Sendable) : n.Valid := by
  refine ⟨fun c c_mem => ?_, representable.ssid_lt⟩
  have either := sendable c c_mem
  rw [Bool.or_eq_true, beq_iff_eq] at either
  rcases either with alnum | rfl
  · exact alnum
  · exact absurd c_mem representable.unspaced

theorem Ax25Built.carried {f : XAx25Frame} (built : Ax25Built f) (sendable : f.Sendable)
    (representable : f.Representable) : f.Carried := by
  rcases built.plain with ⟨ctrl, pid, dstFlag, srcFlag⟩
  rcases sendable with ⟨dst, src, repeaters⟩
  exact
    { dst := representable.dst.valid dst
      src := representable.src.valid src
      repeaters := fun n n_mem => (representable.repeaters n n_mem).valid (repeaters n n_mem)
      dstFlag := dstFlag
      srcFlag := srcFlag
      ctrl := ctrl
      pid := pid
      fits := representable.fits }

theorem XAx25Node.upper_upper (n : XAx25Node) : n.upper.upper = n.upper := by
  refine XAx25Node.ext (CString.ext ?_) rfl rfl
  simp [XAx25Node.upper, toupper_toupper]

theorem XAx25Frame.sameUpToCase_upper (f : XAx25Frame) : f.SameUpToCase f.upper where
  dst := f.dst.upper_upper
  src := f.src.upper_upper
  repeaters := by simp [XAx25Frame.upper, XAx25Node.upper_upper]
  info := rfl

theorem Ax25IsReady.listening {p : XAx25} (ready : Ax25IsReady p) (opened : p.fin ≠ 0) :
    Ax25Listening p :=
  ⟨opened, ready.escape, ready.frmRecv, fun waiting => by
    rw [ready.len] at waiting
    exact absurd waiting.1 (by decide)⟩

/-- A frame that a cleared receiver gets is within its limits. -/
theorem Ax25Delivered.representable {p : XAx25} {line : List UInt8} {f : XAx25Frame}
    (opened : p.fin ≠ 0) (cleared : Ax25IsReady p) (delivered : Ax25Delivered p line f) :
    f.Representable := by
  have bytes : scriptBytes (line.map some) = line := by
    simp [scriptBytes, List.reduceOption]
  let script := line.map some
  rcases delivered script bytes script.length with ⟨reported, ended, reads⟩
  have waiting := reported.mpr (ended le_rfl)
  rcases reads waiting iAx25FrameClear with ⟨q, h, read, same⟩
  rw [iAx25Read_reported waiting] at read
  have start : Ax25Bounded p :=
    ⟨cleared.len.trans_le (Nat.zero_le _), fun waits => by
      rw [cleared.frmRecv] at waits
      cases waits⟩
  rcases ax25Read_polls script.length p script with ⟨taken, _, polled⟩
  have bounded := ax25Bounded_read start opened polled
  have decoded := representable_of_decoded (p := { (ax25Polls script.length p script).1 with
    error := .success }) bounded.len_le read
  exact same.representable decoded

/-- A frame made with the setters is received as it was sent, or refused, exactly if it is
refused for a character of a callsign or is within the limits of the receiver. -/
theorem ax25Delivers_iff (sender p : XAx25) (f : XAx25Frame) (built : Ax25Built f)
    (opened : p.fin ≠ 0) (cleared : Ax25IsReady p) :
    Ax25Delivers sender p f ↔ (sender.fout ≠ 0 → f.Sendable → f.Representable) := by
  constructor
  · rintro ⟨accepted, _⟩ opens sendable
    have delivered := accepted ((iAx25Send_success_iff sender f).mpr ⟨opens, sendable⟩)
    exact delivered.representable opened cleared
  · intro limits
    have within : (iAx25Send sender f).1 = .success → f.Representable := by
      intro success
      rcases (iAx25Send_success_iff sender f).mp success with ⟨opens, sendable⟩
      exact limits opens sendable
    refine ⟨?_, fun outside success => outside (within success)⟩
    intro success
    rcases (iAx25Send_success_iff sender f).mp success with ⟨opens, sendable⟩
    have received := receives_hdlcLine (cleared.listening opened)
      (built.carried sendable (within success))
    rw [iAx25Send_eq opens sendable]
    intro script bytes count polled
    rcases received script bytes count with ⟨reported, ended, reads⟩
    refine ⟨reported, ended, fun waiting g => ?_⟩
    rcases reads waiting g with ⟨q, read, _⟩
    exact ⟨q, f.upper, read, f.sameUpToCase_upper⟩

/-- From nobody to A-2, with three bytes. -/
def ax25ThreeBytes : XAx25Frame :=
  iAx25FrameSetInfo (iAx25FrameSetDst xAx25FrameNew [0x61] 2) [1, 2, 3]

theorem ax25IsReady_opened (fd : ℤ) : Ax25IsReady (ax25Opened fd) := ⟨rfl, rfl, rfl, rfl, rfl⟩

theorem ax25Delivers_threeBytes :
    Ax25Delivers { iAx25Clear with fout := 4 } (ax25Opened 3) ax25ThreeBytes := by
  apply (ax25Delivers_iff { iAx25Clear with fout := 4 } (ax25Opened 3) ax25ThreeBytes
    ((Ax25Built.new.setDst _ _).setInfo _) (by decide) (ax25IsReady_opened 3)).mpr
  intro _ _
  exact ⟨⟨by decide, by decide⟩, ⟨by decide, by decide⟩, by simp [ax25ThreeBytes,
    iAx25FrameSetInfo, iAx25FrameSetDst, xAx25FrameNew, iAx25FrameClear], by decide⟩

/-- A frame to A-16. -/
def ax25Sixteen : XAx25Frame := iAx25FrameSetDst xAx25FrameNew [0x41] 16

/-- The sender takes the SSID 16, of which four bits are read. -/
theorem not_ax25Delivers_sixteen :
    ¬Ax25Delivers { iAx25Clear with fout := 4 } (ax25Opened 3) ax25Sixteen := by
  rintro ⟨accepted, _⟩
  have sendable : ax25Sixteen.Sendable := by
    refine ⟨?_, ?_, ?_⟩
    · intro c c_mem
      have only : c = 0x41 := List.mem_singleton.mp c_mem
      rw [only]
      decide
    · intro c c_mem
      cases c_mem
    · intro n n_mem
      cases n_mem
  have success := (iAx25Send_success_iff { iAx25Clear with fout := 4 } ax25Sixteen).mpr
    ⟨by decide, sendable⟩
  have representable := (accepted success).representable (by decide) (ax25IsReady_opened 3)
  exact absurd representable.dst.ssid_lt (by decide)

end Sysio.Radio
