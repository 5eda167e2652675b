import Mathlib.Algebra.Order.BigOperators.Group.List
import Mathlib.Algebra.Order.Ring.Nat
import Sysio.Lib.Decimal
import Sysio.Lib.Strings
import Sysio.Radio.Ax25.Frame

/-!
# AX.25 frames as text

`xAx25NodeToStr` and `xAx25FrameToStr` of `radio/src/ax25.c` allocate a block of a size computed
beforehand and write to it from its start on, without looking at that size again. A block is given
by its size and by what is written (allocating it succeeds). The size allows for nine characters of
a node and the final NUL: one with six characters in its callsign, a number of two digits and the
star has ten.
-/

namespace Sysio.Radio

open CChar

/-- `NODE_STRLEN` -/
def ax25NodeStrlen : ℕ := ax25CallLen + 4

/-- `FRAME_STRLEN` -/
def ax25FrameStrlen (repeatersLen infoLen : ℕ) : ℕ :=
  ax25NodeStrlen * (repeatersLen + 2) + infoLen + 3

/-- A block and what is written to it, with the final NUL. -/
structure Ax25Str where
  alloc : ℕ
  written : List UInt8

/-- What is written stays inside the block. -/
def Ax25Str.Fits (str : Ax25Str) : Prop := str.written.length ≤ str.alloc

/-- The string of an address, in a block of `NODE_STRLEN` bytes. -/
def xAx25NodeToStr (node : XAx25Node) : Ax25Str where
  alloc := ax25NodeStrlen
  written :=
    ((node.callsign.chars ++ [0]).take ax25CallLen).takeWhile (· ≠ 0) ++
      (if node.ssid ≠ 0 then ascii "-" ++ printD node.ssid.toNat else []) ++
      (if node.flag then ascii "*" else []) ++ [0]

/-- The string of an address behind what is written already. -/
def copyStrNode (written : List UInt8) (node : XAx25Node) : List UInt8 :=
  written ++ cstr (xAx25NodeToStr node).written

/-- The string of a frame. -/
def xAx25FrameToStr (frame : XAx25Frame) : Ax25Str where
  alloc := ax25FrameStrlen frame.repeatersLen frame.infoLen
  written :=
    frame.repeaters.foldl (fun written repeater => copyStrNode (written ++ ascii ",") repeater)
        (copyStrNode (copyStrNode [] frame.dst ++ ascii ">") frame.src) ++
      ascii ":" ++ frame.info ++ [0]

/-! ### The text of a frame -/

/-- The addresses in the order of the frame. -/
def XAx25Frame.nodes (frame : XAx25Frame) : List XAx25Node :=
  frame.dst :: frame.src :: frame.repeaters

/-- The callsign, the number unless it is zero, and a star for the flag. -/
def XAx25Node.text (node : XAx25Node) : List UInt8 :=
  node.callsign.chars ++ (if node.ssid = 0 then [] else ascii "-" ++ printD node.ssid.toNat) ++
    if node.flag then ascii "*" else []

/-- The addresses with their separators, and the information. -/
def XAx25Frame.text (frame : XAx25Frame) : List UInt8 :=
  frame.dst.text ++ ascii ">" ++ frame.src.text ++
    frame.repeaters.flatMap (fun repeater => ascii "," ++ repeater.text) ++ ascii ":" ++ frame.info

/-- The text of each node and of the frame stays inside its block, and it is the text of the
frame. -/
structure RenderingFits (frame : XAx25Frame) : Prop where
  nodes : ∀ node ∈ frame.nodes, (xAx25NodeToStr node).Fits
  block : (xAx25FrameToStr frame).Fits
  text : (xAx25FrameToStr frame).written = frame.text ++ [0]

/-- Six characters, a number of two digits and the star. -/
def XAx25Node.Full (node : XAx25Node) : Prop :=
  node.callsign.chars.length = ax25CallLen ∧ 10 ≤ node.ssid.toNat ∧ node.flag = true

instance (node : XAx25Node) : Decidable node.Full := inferInstanceAs (Decidable (_ ∧ _))

theorem xAx25NodeToStr_written (node : XAx25Node) :
    (xAx25NodeToStr node).written = node.text ++ [0] := by
  have callsign : ((node.callsign.chars ++ [0]).take ax25CallLen).takeWhile (· ≠ 0) =
      node.callsign.chars :=
    congrArg CString.chars (CString.strncpy_append_replicate node.callsign 1)
  rw [xAx25NodeToStr, callsign, XAx25Node.text]
  by_cases none : node.ssid = 0
  · rw [if_neg (not_not.mpr none), if_pos none]
  · rw [if_pos none, if_neg none]

theorem XAx25Node.ne_zero_of_mem_text {node : XAx25Node} {c : UInt8} (c_mem : c ∈ node.text) :
    c ≠ 0 := by
  rcases List.mem_append.mp c_mem with c_mem | star
  · rcases List.mem_append.mp c_mem with callsign | number
    · exact node.callsign.ne_zero c callsign
    · split at number
      · cases number
      · rcases List.mem_append.mp number with dash | digit
        · rw [List.mem_singleton.mp dash]
          decide
        · rintro rfl
          exact absurd (isdigit_of_mem_printD digit) (by decide)
  · split at star
    · rw [List.mem_singleton.mp star]
      decide
    · cases star

theorem copyStrNode_eq (written : List UInt8) (node : XAx25Node) :
    copyStrNode written node = written ++ node.text := by
  rw [copyStrNode, xAx25NodeToStr_written,
    cstr_append (fun c c_mem => XAx25Node.ne_zero_of_mem_text c_mem)]

theorem foldl_copyStrNode (repeaters : List XAx25Node) (written : List UInt8) :
    repeaters.foldl (fun written repeater => copyStrNode (written ++ ascii ",") repeater) written =
      written ++ repeaters.flatMap fun repeater => ascii "," ++ repeater.text := by
  induction repeaters generalizing written with
  | nil => simp
  | cons repeater repeaters ih =>
      rw [List.foldl_cons, ih, copyStrNode_eq, List.flatMap_cons]
      simp only [List.append_assoc]

theorem xAx25FrameToStr_written (frame : XAx25Frame) :
    (xAx25FrameToStr frame).written = frame.text ++ [0] := by
  rw [xAx25FrameToStr, foldl_copyStrNode, copyStrNode_eq, copyStrNode_eq, XAx25Frame.text,
    List.nil_append]

/-! ### Its length -/

theorem XAx25Node.length_text (node : XAx25Node) :
    node.text.length = node.callsign.chars.length +
      (if node.ssid = 0 then 0 else 1 + (printD node.ssid.toNat).length) +
      if node.flag then 1 else 0 := by
  rw [XAx25Node.text, List.length_append, List.length_append]
  congr 1
  · congr 1
    split
    · rfl
    · rw [List.length_append]
      rfl
  · split
    · rfl
    · rfl

/-- A number below a hundred has two digits where it is at least ten. -/
theorem length_printD_ssid {ssid : ℕ} (small : ssid ≤ 15) :
    (printD ssid).length = if 10 ≤ ssid then 2 else 1 := by
  have two := (@length_printD_le_iff ssid 2 (by decide)).mpr (by omega)
  have one := @length_printD_le_iff ssid 1 (by decide)
  have some_ := length_printD_pos ssid
  split <;> omega

theorem nodeToStr_fits_iff {node : XAx25Node} (small : node.ssid ≤ 15) :
    (xAx25NodeToStr node).Fits ↔ ¬node.Full := by
  have ssid : node.ssid.toNat ≤ 15 := UInt8.le_iff_toNat_le.mp small
  have callsign : node.callsign.chars.length ≤ 6 := node.callsign.length_le
  have length : (xAx25NodeToStr node).written.length = node.text.length + 1 := by
    rw [xAx25NodeToStr_written, List.length_append]
    rfl
  rw [Ax25Str.Fits, length, node.length_text, XAx25Node.Full]
  generalize isNumber : (if node.ssid = 0 then 0 else 1 + (printD node.ssid.toNat).length) = number
  generalize isStar : (if node.flag = true then 1 else 0) = star
  have number : number ≤ 3 ∧ (number = 3 ↔ 10 ≤ node.ssid.toNat) := by
    rw [← isNumber, length_printD_ssid ssid]
    by_cases none : node.ssid = 0
    · rw [if_pos none, none]
      decide
    · rw [if_neg none]
      split <;> omega
  have star : star ≤ 1 ∧ (star = 1 ↔ node.flag = true) := by
    rw [← isStar]
    split <;> simp [*]
  rw [← number.2, ← star.2]
  change _ ≤ 10 ↔ ¬(_ = 6 ∧ _)
  omega

theorem frameToStr_fits {frame : XAx25Frame}
    (fits : ∀ node ∈ frame.nodes, (xAx25NodeToStr node).Fits) : (xAx25FrameToStr frame).Fits := by
  have short (node : XAx25Node) (node_mem : node ∈ frame.nodes) : node.text.length ≤ 9 := by
    have nodeFits := fits node node_mem
    rw [Ax25Str.Fits, xAx25NodeToStr_written, List.length_append] at nodeFits
    exact Nat.le_of_succ_le_succ nodeFits
  have dst := short frame.dst List.mem_cons_self
  have src := short frame.src (List.mem_cons_of_mem _ List.mem_cons_self)
  have repeaters : (frame.repeaters.flatMap fun repeater => ascii "," ++ repeater.text).length ≤
      frame.repeaters.length * 10 := by
    rw [List.length_flatMap]
    refine (List.sum_le_card_nsmul _ 10 fun length length_mem => ?_).trans_eq (by simp)
    rcases List.mem_map.mp length_mem with ⟨repeater, repeater_mem, rfl⟩
    have within := short repeater (List.mem_cons_of_mem _ (List.mem_cons_of_mem _ repeater_mem))
    rw [List.length_append]
    change 1 + _ ≤ 10
    omega
  have length : (xAx25FrameToStr frame).written.length = frame.dst.text.length + 1 +
      frame.src.text.length +
      (frame.repeaters.flatMap fun repeater => ascii "," ++ repeater.text).length + 1 +
      frame.info.length + 1 := by
    rw [xAx25FrameToStr_written, XAx25Frame.text]
    simp only [List.length_append]
    rfl
  rw [Ax25Str.Fits, length]
  change _ ≤ 10 * (frame.repeaters.length + 2) + frame.info.length + 3
  omega

/-- The text of a node stays inside its block unless the node is full, and the texts of a frame
unless one of its nodes is. -/
theorem renderingFits_iff {node : XAx25Node} (ssid : node.ssid ≤ 15) {frame : XAx25Frame}
    (small : ∀ node ∈ frame.nodes, node.ssid ≤ 15) :
    ((xAx25NodeToStr node).Fits ↔ ¬node.Full) ∧
      (RenderingFits frame ↔ ∀ node ∈ frame.nodes, ¬node.Full) := by
  refine ⟨nodeToStr_fits_iff ssid, ?_, ?_⟩
  · intro fits node node_mem
    exact (nodeToStr_fits_iff (small node node_mem)).mp (fits.nodes node node_mem)
  · intro left
    have nodes (node : XAx25Node) (node_mem : node ∈ frame.nodes) : (xAx25NodeToStr node).Fits :=
      (nodeToStr_fits_iff (small node node_mem)).mpr (left node node_mem)
    exact ⟨nodes, frameToStr_fits nodes, xAx25FrameToStr_written frame⟩

/-- A frame without data from a station to itself, by way of itself eight times. -/
def ax25Relayed (node : XAx25Node) : XAx25Frame where
  dst := node
  src := node
  repeaters := List.replicate ax25MaxRpt node
  ctrl := ax25CtrlUi
  pid := ax25PidNolayer3
  info := []
  repeaters_le := List.length_replicate.le
  info_le := Nat.zero_le _

/-- A relay with a number of two digits. -/
def ax25Wide : XAx25Node := ⟨CString.strncpy ax25CallLen (ascii "WIDE1"), 15, true⟩

/-- A callsign of six characters with a number of two digits. -/
def ax25Beacon : XAx25Node := ⟨CString.strncpy ax25CallLen (ascii "BEACON"), 10, true⟩

theorem renderingFits_wide :
    (xAx25NodeToStr ax25Wide).Fits ∧ RenderingFits (ax25Relayed ax25Wide) := by
  have fits := @renderingFits_iff ax25Wide (by decide) (ax25Relayed ax25Wide) (by decide)
  exact ⟨fits.1.mpr (by decide), fits.2.mpr (by decide)⟩

/-- The number, the star and the final NUL do not fit behind six characters, and neither do the
commas between such stations. -/
theorem not_renderingFits_beacon :
    ¬(xAx25NodeToStr ax25Beacon).Fits ∧ ¬(xAx25FrameToStr (ax25Relayed ax25Beacon)).Fits ∧
      ¬RenderingFits (ax25Relayed ax25Beacon) := by
  have overflows : ¬(xAx25FrameToStr (ax25Relayed ax25Beacon)).Fits := by
    rw [Ax25Str.Fits]
    decide +kernel
  refine ⟨?_, overflows, fun fits => overflows fits.block⟩
  rw [Ax25Str.Fits]
  decide

end Sysio.Radio
