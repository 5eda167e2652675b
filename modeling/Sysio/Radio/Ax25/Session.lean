import Sysio.Radio.Ax25.Decode
import Sysio.Radio.Ax25.Receive

/-!
# Sessions of polls and reads

An application polls the line and reads the frames that are reported, in any order. A
session is the controller, what the line still has to offer, and the frame object that the
application reads into.

`Ax25Bounded` is the invariant of every session, and `EveryRead` says that something holds
whenever `iAx25Read` is called on a reported frame.
-/

namespace Sysio.Radio

/-- A call that an application makes. -/
inductive Ax25Call where
  | poll
  | read
deriving DecidableEq, Repr

/-- The controller, the reads that it has not made, and the object that frames are read into. -/
structure Ax25Session where
  p : XAx25
  script : List (Option UInt8)
  frame : XAx25Frame

/-- A session whose controller was just opened. -/
def ax25Session (fd : ℤ) (script : List (Option UInt8)) (frame : XAx25Frame) : Ax25Session :=
  ⟨ax25Opened fd, script, frame⟩

/-- What one call makes of the session. -/
def ax25Call (session : Ax25Session) : Ax25Call → Except Fault Ax25Session
  | .poll =>
      let polled := (bAx25Poll session.p session.script).2
      .ok { session with p := polled.1, script := polled.2 }
  | .read =>
      match iAx25Read session.p session.frame with
      | .ok (_, p, frame) => .ok { session with p, frame }
      | .error fault => .error fault

/-- The calls, one after the other. -/
def ax25Run (session : Ax25Session) (calls : List Ax25Call) : Except Fault Ax25Session :=
  calls.foldlM ax25Call session

/-- At every call of `iAx25Read` made while a frame is reported, `holds` is true of the
controller; a session that faults ends there. -/
def EveryRead (holds : XAx25 → Prop) : Ax25Session → List Ax25Call → Prop
  | _, [] => True
  | session, call :: rest =>
      (call = .read → session.p.frmRecv = true → holds session.p) ∧
        ∀ next, ax25Call session call = .ok next → EveryRead holds next rest

/-- What is stored fits into the buffer, and what is reported was checked. -/
structure Ax25Bounded (p : XAx25) : Prop where
  len_le : p.len ≤ ax25FrameBufLen
  reported : p.frmRecv = true →
    p.fin ≠ 0 ∧ ax25MinFrameLen ≤ p.len ∧ p.crcIn = ax25CrcCorrect

theorem ax25Bounded_opened (fd : ℤ) : Ax25Bounded (ax25Opened fd) :=
  ⟨Nat.zero_le _, by simp [ax25Opened, iAx25Clear]⟩

theorem ax25Bounded_pollByte {p : XAx25} (bounded : Ax25Bounded p) (opened : p.fin ≠ 0)
    (quiet : p.frmRecv = false) (c : UInt8) : Ax25Bounded (ax25PollByte p c) := by
  rcases bounded with ⟨len_le, _⟩
  simp only [ax25PollByte]
  split_ifs with _ accepted
  · exact ⟨len_le, fun _ => ⟨opened, accepted⟩⟩
  · exact ⟨Nat.zero_le _, by simp [quiet]⟩
  · exact ⟨len_le, by simp [quiet]⟩
  · exact ⟨len_le, by simp [quiet]⟩
  · exact ⟨by simp only; omega, by simp [quiet]⟩
  · exact ⟨len_le, by simp [quiet]⟩
  · exact ⟨len_le, by simp [quiet]⟩

theorem ax25Bounded_read {p q : XAx25} {line : List UInt8} (bounded : Ax25Bounded p)
    (opened : p.fin ≠ 0) (read : Ax25Read p line q) : Ax25Bounded q := by
  rcases read with ⟨rfl, quiet⟩
  induction line using List.reverseRecOn with
  | nil => exact bounded
  | append_singleton before c ih =>
      rw [List.foldl_append]
      exact ax25Bounded_pollByte
        (ih fun left d right split => quiet left d (right ++ [c]) (by simp [split]))
        (by rwa [fin_foldl_pollByte]) (quiet before c [] rfl) c

theorem ax25Bounded_ready (p : XAx25) : Ax25Bounded (ax25Ready p) :=
  ⟨Nat.zero_le _, by simp [ax25Ready]⟩

theorem ax25Bounded_decode {p q : XAx25} {code : EAx25Error} {f : XAx25Frame}
    (bounded : Ax25Bounded p) (decoded : prviDecode p = .ok (code, q, f)) : Ax25Bounded q := by
  by_cases fields : HasUiFields p
  · by_cases inside : HeaderInside p
    · rcases prviDecode_of_inside bounded.len_le fields inside with ⟨g, success, _⟩
      rw [success, Except.ok.injEq, Prod.mk.injEq, Prod.mk.injEq] at decoded
      rw [← decoded.2.1]
      exact ax25Bounded_ready p
    · rw [prviDecode_of_not_inside fields inside] at decoded
      exact absurd decoded (by simp)
  · rcases prviDecode_of_not_ui fields with ⟨g, refused⟩
    rw [refused, Except.ok.injEq, Prod.mk.injEq, Prod.mk.injEq] at decoded
    rw [← decoded.2.1]
    exact bounded

/-- The step lemma: no call breaks the invariant. -/
theorem ax25Bounded_call {session next : Ax25Session} {call : Ax25Call}
    (bounded : Ax25Bounded session.p) (made : ax25Call session call = .ok next) :
    Ax25Bounded next.p := by
  cases call with
  | poll =>
      simp only [ax25Call, Except.ok.injEq] at made
      rw [← made]
      by_cases closed : session.p.fin = 0
      · simpa [bAx25Poll, closed] using bounded
      · rcases ax25Read_poll session.p session.script with ⟨line, _, read⟩
        exact ax25Bounded_read bounded closed read
  | read =>
      by_cases waiting : session.p.frmRecv = true
      · simp only [ax25Call, iAx25Read_reported waiting] at made
        split at made
        · rename_i _ code q f decoded
          rw [Except.ok.injEq] at made
          rw [← made]
          have cleared : Ax25Bounded { session.p with error := .success } :=
            ⟨bounded.len_le, bounded.reported⟩
          exact ax25Bounded_decode cleared decoded
        · exact absurd made (by simp)
      · simp only [ax25Call, iAx25Read, waiting, Bool.not_false, if_true, Except.ok.injEq] at made
        rw [← made]
        exact bounded

/-- The run lemma: equivalent conditions at bounded controllers are equivalent over sessions. -/
theorem everyRead_iff {left right : XAx25 → Prop}
    (same : ∀ p, Ax25Bounded p → p.frmRecv = true → (left p ↔ right p))
    {session : Ax25Session} (bounded : Ax25Bounded session.p) (calls : List Ax25Call) :
    EveryRead left session calls ↔ EveryRead right session calls := by
  induction calls generalizing session with
  | nil => rfl
  | cons call rest ih =>
      simp only [EveryRead]
      apply and_congr
      · apply imp_congr_right
        intro _
        apply imp_congr_right
        intro waiting
        exact same session.p bounded waiting
      · apply forall_congr'
        intro next
        apply imp_congr_right
        intro made
        exact ih (ax25Bounded_call bounded made)

theorem not_everyRead {holds : XAx25 → Prop} {session reached : Ax25Session}
    (before : List Ax25Call) (run : ax25Run session before = .ok reached)
    (waiting : reached.p.frmRecv = true) (fails : ¬holds reached.p) :
    ¬EveryRead holds session (before ++ [.read]) := by
  induction before generalizing session with
  | nil =>
      intro every
      have here : session = reached := Except.ok.inj run
      rw [here] at every
      exact fails (every.1 rfl waiting)
  | cons call rest ih =>
      intro every
      cases made : ax25Call session call with
      | error fault => simp [ax25Run, List.foldlM_cons, made, bind, Except.bind] at run
      | ok next =>
          have later : ax25Run next rest = .ok reached := by
            simpa [ax25Run, List.foldlM_cons, made, bind, Except.bind] using run
          exact ih later (every.2 next made)

theorem exists_run_of_any (session : Ax25Session) (calls : List Ax25Call) (test : XAx25 → Bool)
    (passes : ((ax25Run session calls).toOption.any fun reached => test reached.p) = true) :
    ∃ reached, ax25Run session calls = .ok reached ∧ test reached.p = true := by
  cases run : ax25Run session calls with
  | error fault => simp [run, Except.toOption] at passes
  | ok reached => exact ⟨reached, rfl, by simpa [run, Except.toOption] using passes⟩

end Sysio.Radio
