import Sysio.Radio.Ax25.RoundTrip
import Sysio.Radio.Ax25.Session

/-!
# What the reads of a session do

Two properties that every read of a reported frame should have: it leaves the receiver ready
for the next frame, and what it returns was received with this frame. Neither holds of every
session. A read that refuses the frame leaves it waiting, and a frame whose address field has
no end in sight is decoded from bytes that it does not have.
-/

namespace Sysio.Radio

/-- The read returns, and leaves a receiver that will receive any valid frame. -/
def LeavesReady (p : XAx25) : Prop :=
  ∀ f, ∃ code q g, iAx25Read p f = .ok (code, q, g) ∧
    q.frmRecv = false ∧ q.escape = false ∧ q.len = 0 ∧ q.crcIn = crcCcittInitVal ∧
    ∀ (sender : XAx25) (next : XAx25Frame), sender.fout ≠ 0 → next.Valid →
      Receives q (iAx25Send sender next).2.line next

/-- The read refuses the frame, or returns fields that lie before the CRC of the frame and
that no later byte of the buffer changes. -/
def DecodesInside (p : XAx25) : Prop :=
  ∀ f, ∃ code q g, iAx25Read p f = .ok (code, q, g) ∧
    (code = .success →
      HeaderInside p ∧ g.info = p.infoBytes ∧ g.infoLen = p.len - 2 - (ax25PathLen p + 2) ∧
      ∀ other : XAx25, other.frmRecv = true → other.len = p.len →
        AgreeBelow (p.len - 2) p other → ∃ r, iAx25Read other f = .ok (.success, r, g))

section Reported

variable {p : XAx25}

theorem leavesReady_iff (bounded : Ax25Bounded p) (waiting : p.frmRecv = true) :
    LeavesReady p ↔ HasUiFields p ∧ HeaderInside p := by
  constructor
  · intro ready
    rcases ready iAx25FrameClear with ⟨code, q, g, read, quiet, _⟩
    rw [iAx25Read_reported waiting] at read
    by_contra notBoth
    by_cases fields : HasUiFields { p with error := .success }
    · have outside : ¬HeaderInside { p with error := .success } := fun inside =>
        notBoth ⟨fields, inside⟩
      rw [prviDecode_of_not_inside fields outside] at read
      exact absurd read (by simp)
    · rcases prviDecode_of_not_ui fields with ⟨h, refused⟩
      rw [refused, Except.ok.injEq, Prod.mk.injEq, Prod.mk.injEq] at read
      rw [← read.2.1] at quiet
      exact absurd (quiet.symm.trans waiting) (by simp)
  · rintro ⟨fields, inside⟩ f
    rcases prviDecode_of_inside (p := { p with error := .success }) bounded.len_le fields inside
      with ⟨g, decoded, _⟩
    refine ⟨_, _, g, (iAx25Read_reported waiting f).trans decoded, rfl, rfl, rfl, rfl, ?_⟩
    intro sender next opened valid
    have listening : Ax25Listening (ax25Ready { p with error := .success }) :=
      ⟨(bounded.reported waiting).1, rfl, rfl, by simp [ax25Ready, ax25MinFrameLen]⟩
    rw [iAx25Send_eq opened valid.sendable]
    exact receives_hdlcLine listening valid.carried

theorem decodesInside_iff (bounded : Ax25Bounded p) (waiting : p.frmRecv = true) :
    DecodesInside p ↔ (HasUiFields p → HeaderInside p) := by
  constructor
  · intro inside fields
    rcases inside iAx25FrameClear with ⟨code, q, g, read, _⟩
    rw [iAx25Read_reported waiting] at read
    by_contra outside
    rw [prviDecode_of_not_inside (p := { p with error := .success }) fields outside] at read
    exact absurd read (by simp)
  · intro insideOfFields f
    by_cases fields : HasUiFields p
    · have inside := insideOfFields fields
      rcases prviDecode_of_inside (p := { p with error := .success }) bounded.len_le fields inside
        with ⟨g, decoded, _, _, _, _, _, info⟩
      refine ⟨.success, _, g, (iAx25Read_reported waiting f).trans decoded, ?_⟩
      intro _
      refine ⟨inside, info, ?_, ?_⟩
      · rw [XAx25Frame.infoLen, info]
        exact length_infoBytes (p := { p with error := .success }) bounded.len_le
      · intro other otherWaiting sameLen agree
        rcases prviDecode_congr (p := { p with error := .success })
          (q := { other with error := .success }) bounded.len_le fields inside sameLen agree
          with ⟨h, decodedP, decodedOther⟩
        rw [decoded, Except.ok.injEq, Prod.mk.injEq, Prod.mk.injEq] at decodedP
        rw [← decodedP.2.2] at decodedOther
        exact ⟨_, (iAx25Read_reported otherWaiting f).trans decodedOther⟩
    · rcases prviDecode_of_not_ui (p := { p with error := .success }) fields with ⟨g, refused⟩
      exact ⟨.invalidFrame, _, g, (iAx25Read_reported waiting f).trans refused, by simp⟩

end Reported

/-- The reads of a session leave the receiver ready if and only if every frame reported is a
UI frame whose header lies inside it. -/
theorem everyRead_leavesReady_iff (fd : ℤ) (script : List (Option UInt8)) (frame : XAx25Frame)
    (calls : List Ax25Call) :
    EveryRead LeavesReady (ax25Session fd script frame) calls ↔
      EveryRead (fun p => HasUiFields p ∧ HeaderInside p) (ax25Session fd script frame) calls :=
  everyRead_iff (fun _ bounded waiting => leavesReady_iff bounded waiting)
    (ax25Bounded_opened fd) calls

/-- The line of a frame with a control byte that is not that of a UI frame. -/
def ax25ConnectLine : List UInt8 := hdlcLine (withCrc { ax25Repeated with ctrl := 0x3F }.bytes)

/-- A frame that is not a UI frame is refused and goes on waiting. -/
theorem not_leavesReady_connectLine :
    ¬EveryRead LeavesReady (ax25Session 3 (ax25ConnectLine.map some) iAx25FrameClear)
      [.poll, .read] := by
  rcases exists_run_of_any (ax25Session 3 (ax25ConnectLine.map some) iAx25FrameClear) [.poll]
    (fun p => p.frmRecv && !decide (HasUiFields p))
    (by decide +kernel) with ⟨reached, run, passes⟩
  simp only [Bool.and_eq_true, Bool.not_eq_true', decide_eq_false_iff_not] at passes
  rcases passes with ⟨waiting, notUi⟩
  apply not_everyRead [.poll] run waiting
  intro ready
  rcases ready iAx25FrameClear with ⟨code, q, g, read, quiet, _⟩
  rcases prviDecode_of_not_ui (p := { reached.p with error := .success }) notUi with ⟨h, refused⟩
  rw [iAx25Read_reported waiting, refused, Except.ok.injEq, Prod.mk.injEq, Prod.mk.injEq] at read
  rw [← read.2.1] at quiet
  exact absurd (quiet.symm.trans waiting) (by simp)

/-- The reads of a session stay inside the frames received if and only if every frame reported
whose control fields are those of a UI frame has these fields inside it. -/
theorem everyRead_decodesInside_iff (fd : ℤ) (script : List (Option UInt8)) (frame : XAx25Frame)
    (calls : List Ax25Call) :
    EveryRead DecodesInside (ax25Session fd script frame) calls ↔
      EveryRead (fun p => HasUiFields p → HeaderInside p) (ax25Session fd script frame) calls :=
  everyRead_iff (fun _ bounded waiting => decodesInside_iff bounded waiting)
    (ax25Bounded_opened fd) calls

/-- A frame with one repeater, and one whose source address is not marked as the last. -/
def ax25OpenPathLine : List UInt8 :=
  hdlcLine (withCrc ax25Repeated.bytes) ++
    hdlcLine (withCrc [0x82, 0x40, 0x40, 0x40, 0x40, 0x40, 0x60, 0x84, 0x40, 0x40, 0x40, 0x40,
      0x40, 0x60, 0x03, 0xF0])

/-- The second frame is decoded with the address of a repeater and the control fields that the
first one has left in the buffer, and the copy of the information field leaves the buffer. -/
theorem not_decodesInside_openPathLine :
    ¬EveryRead DecodesInside (ax25Session 3 (ax25OpenPathLine.map some) iAx25FrameClear)
      [.poll, .read, .poll, .read] := by
  rcases exists_run_of_any (ax25Session 3 (ax25OpenPathLine.map some) iAx25FrameClear)
    [.poll, .read, .poll]
    (fun p => p.frmRecv && decide (HasUiFields p) && !decide (HeaderInside p))
    (by decide +kernel) with ⟨reached, run, passes⟩
  simp only [Bool.and_eq_true, decide_eq_true_eq, Bool.not_eq_true',
    decide_eq_false_iff_not] at passes
  rcases passes with ⟨⟨waiting, fields⟩, outside⟩
  apply not_everyRead [.poll, .read, .poll] run waiting
  intro inside
  rcases inside iAx25FrameClear with ⟨code, q, g, read, _⟩
  rw [iAx25Read_reported waiting, prviDecode_of_not_inside
    (p := { reached.p with error := .success }) fields outside] at read
  exact absurd read (by simp)

end Sysio.Radio
