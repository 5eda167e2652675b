import Mathlib.Data.Rat.Floor
import Mathlib.Tactic.Linarith
import Mathlib.Tactic.Ring
import Sysio.Lib.Decimal
import Sysio.Lib.Strings

/-!
# Angles as text

`cGpsAngleToStr` of `libgps/gps.c`, with rational numbers for its doubles: what it writes to the
buffer, with the final NUL. Degrees, minutes and hundredths of a minute are cut off the angle one
after the other, and the hundredths are rounded: up to a hundred of them, which the formats of
APRS have no room for.
-/

namespace Sysio.Gps

open CChar

/-- The formats of an angle. -/
inductive EGpsAngleFormat where
  | degDd
  | degDdMmSs
  | degDdMm
  | degAprsLat
  | degAprsLong
  | degAprs
deriving DecidableEq, Repr

/-- What `snprintf` writes of a text. -/
def snprintf (strsize : ℕ) (text : List UInt8) : List UInt8 :=
  if strsize = 0 then [] else text.take (strsize - 1) ++ [0]

/-- `strncpy` fills the buffer with NULs. -/
def strncpy (strsize : ℕ) (text : List UInt8) : List UInt8 :=
  (text ++ List.replicate strsize 0).take strsize

/-- The parts of a number that is not negative: below one, and whole. -/
def modf (x : ℚ) : ℚ × ℕ := (Int.fract x, ⌊x⌋.toNat)

/-- The whole number nearest to one that is not negative, halves up. -/
def round (x : ℚ) : ℕ := ⌊x + 1 / 2⌋.toNat

/-- An angle of more than 360 degrees is none. -/
def cGpsAngleToStr (type : EGpsAngleFormat) (f : ℚ) (strsize : ℕ) : List UInt8 :=
  let sign := decide (f < 0)
  let f := if sign then |f| else f
  if f > 360 then strncpy strsize (ascii "nan")
  else
    let fmin := (modf f).1
    let deg := (modf f).2
    let fracDeg := round (fmin * 1000000)
    if type = .degDd then
      snprintf strsize (printSD 3 deg ++ ascii "." ++ print0D 6 fracDeg)
    else
      let fsec := (modf (fmin * 60)).1
      let min := (modf (fmin * 60)).2
      let sec := round (fsec * 10000)
      if type = .degDdMm then
        snprintf strsize (printSD 3 deg ++ ascii " " ++ print0D 2 min ++ ascii "." ++
          print0D 4 sec ++ ascii "'")
      else
        let sec := round (fsec * 100)
        if type = .degAprsLat then
          snprintf strsize (print0D 2 deg ++ print0D 2 min ++ ascii "." ++ print0D 2 sec ++
            [ofChar (if sign then 'S' else 'N')])
        else if type = .degAprsLong then
          snprintf strsize (print0D 3 deg ++ print0D 2 min ++ ascii "." ++ print0D 2 sec ++
            [ofChar (if sign then 'W' else 'E')])
        else
          let fdsec := (modf (fsec * 60)).1
          let sec := (modf (fsec * 60)).2
          let dsec := round (fdsec * 1000)
          snprintf strsize (printSD 3 deg ++ ascii " " ++ print0D 2 min ++ ascii "' " ++
            print0D 2 sec ++ ascii "." ++ print0D 3 dsec ++ ascii "\"")

/-! ### The positions of APRS -/

/-- Digits for degrees, minutes and hundredths of a minute, and the letter of the hemisphere. -/
structure AprsPosition where
  deg : List UInt8
  min : List UInt8
  hundredths : List UInt8
  letter : UInt8

namespace AprsPosition

/-- The position as it is written. -/
def text (position : AprsPosition) : List UInt8 :=
  position.deg ++ position.min ++ ascii "." ++ position.hundredths ++ [position.letter]

/-- The angle in degrees. -/
def angle (position : AprsPosition) : ℚ :=
  decimalValue position.deg +
    (decimalValue position.min + (decimalValue position.hundredths : ℚ) / 100) / 60

/-- Two digits each for the minutes, of which there are less than 60, and their hundredths. -/
structure WellFormed (position : AprsPosition) (width : ℕ) : Prop where
  deg : position.deg.length = width
  min : position.min.length = 2 ∧ decimalValue position.min < 60
  hundredths : position.hundredths.length = 2
  digits : ∀ c ∈ position.deg ++ position.min ++ position.hundredths, isdigit c = true

/-- The position denotes an angle to half a hundredth of a minute. -/
structure Denotes (position : AprsPosition) (f : ℚ) (positive negative : Char) : Prop where
  letter : position.letter = ofChar (if f < 0 then negative else positive)
  angle : abs (position.angle - |f|) ≤ 1 / 2 / 100 / 60

end AprsPosition

/-- The buffer holds a position that denotes the angle. -/
def IsPosition (width : ℕ) (positive negative : Char) (f : ℚ) (written : List UInt8) : Prop :=
  ∃ position : AprsPosition, written = position.text ++ [0] ∧ position.WellFormed width ∧
    position.Denotes f positive negative

/-! ### What the angle is taken apart into -/

section Parts

variable {x : ℚ}

/-- The minutes, with the part of one that follows. -/
def minutes (x : ℚ) : ℕ := (modf ((modf x).1 * 60)).2

/-- The part of a minute that follows the minutes. -/
def minuteFraction (x : ℚ) : ℚ := (modf ((modf x).1 * 60)).1

theorem modf_add (nonneg : 0 ≤ x) : ((modf x).2 : ℚ) + (modf x).1 = x := by
  have whole : (⌊x⌋.toNat : ℤ) = ⌊x⌋ := Int.toNat_of_nonneg (Int.floor_nonneg.mpr nonneg)
  have cast : ((⌊x⌋.toNat : ℕ) : ℚ) = ⌊x⌋ := by exact_mod_cast whole
  change ((⌊x⌋.toNat : ℕ) : ℚ) + Int.fract x = x
  rw [cast]
  exact Int.floor_add_fract x

theorem modf_bounds (x : ℚ) : 0 ≤ (modf x).1 ∧ (modf x).1 < 1 :=
  ⟨Int.fract_nonneg x, Int.fract_lt_one x⟩

theorem minuteFraction_eq (x : ℚ) : minuteFraction x = Int.fract (60 * x) := by
  have parts : 60 * x = ((60 * ⌊x⌋ : ℤ) : ℚ) + Int.fract x * 60 := by
    conv_lhs => rw [← Int.floor_add_fract x]
    push_cast
    ring
  rw [parts, Int.fract_intCast_add]
  rfl

/-- The parts make up the angle. -/
theorem angle_eq (nonneg : 0 ≤ x) :
    ((modf x).2 : ℚ) + ((minutes x : ℚ) + minuteFraction x) / 60 = x := by
  have first := modf_add nonneg
  have second : (minutes x : ℚ) + minuteFraction x = (modf x).1 * 60 :=
    modf_add (mul_nonneg (modf_bounds x).1 (by norm_num))
  rw [second]
  linarith

theorem minutes_lt (x : ℚ) : minutes x < 60 := by
  have below : (modf x).1 * 60 < 60 := by
    have small := (modf_bounds x).2
    linarith
  have parts : (minutes x : ℚ) + minuteFraction x = (modf x).1 * 60 :=
    modf_add (mul_nonneg (modf_bounds x).1 (by norm_num))
  have positive : 0 ≤ minuteFraction x := (modf_bounds _).1
  have cast : (minutes x : ℚ) < (60 : ℕ) := by
    push_cast
    linarith
  exact_mod_cast cast

theorem modf_lt {bound : ℕ} (nonneg : 0 ≤ x) (below : x < bound) : (modf x).2 < bound := by
  have parts := modf_add nonneg
  have positive := (modf_bounds x).1
  have cast : ((modf x).2 : ℚ) < bound := by linarith
  exact_mod_cast cast

/-- Rounding is off by a half at most. -/
theorem round_bounds (nonneg : 0 ≤ x) : (round x : ℚ) ≤ x + 1 / 2 ∧ x - 1 / 2 < round x := by
  have parts := modf_add (show 0 ≤ x + 1 / 2 by linarith)
  have bounds := modf_bounds (x + 1 / 2)
  change (round x : ℚ) + (modf (x + 1 / 2)).1 = x + 1 / 2 at parts
  constructor <;> linarith

theorem round_lt_iff (nonneg : 0 ≤ x) {bound : ℕ} : round x < bound ↔ x < bound - 1 / 2 := by
  have bounds := round_bounds nonneg
  constructor
  · intro below
    have cast : (round x : ℚ) + 1 ≤ bound := by exact_mod_cast below
    linarith
  · intro below
    have cast : (round x : ℚ) < bound := by linarith
    exact_mod_cast cast

end Parts

/-! ### The text -/

/-- What is printed for an angle that is not negative. -/
def printed (width : ℕ) (letter : UInt8) (x : ℚ) : AprsPosition where
  deg := print0D width (modf x).2
  min := print0D 2 (minutes x)
  hundredths := print0D 2 (round (minuteFraction x * 100))
  letter := letter

section Text

variable {width strsize : ℕ} {letter : UInt8} {x f : ℚ}

theorem magnitude_eq (f : ℚ) : (if decide (f < 0) = true then |f| else f) = |f| := by
  by_cases negative : f < 0
  · rw [if_pos (decide_eq_true negative)]
  · rw [if_neg (by simpa using negative), abs_of_nonneg (not_lt.mp negative)]

/-- The format of a latitude. -/
theorem cGpsAngleToStr_lat (inside : |f| ≤ 360) :
    cGpsAngleToStr .degAprsLat f strsize =
      snprintf strsize (printed 2 (ofChar (if f < 0 then 'S' else 'N')) |f|).text := by
  simp only [cGpsAngleToStr, magnitude_eq, if_neg (not_lt.mpr inside)]
  simp [printed, AprsPosition.text, minutes, minuteFraction]

/-- The format of a longitude. -/
theorem cGpsAngleToStr_long (inside : |f| ≤ 360) :
    cGpsAngleToStr .degAprsLong f strsize =
      snprintf strsize (printed 3 (ofChar (if f < 0 then 'W' else 'E')) |f|).text := by
  simp only [cGpsAngleToStr, magnitude_eq, if_neg (not_lt.mpr inside)]
  simp [printed, AprsPosition.text, minutes, minuteFraction]

theorem hundredths_nonneg (x : ℚ) : 0 ≤ minuteFraction x * 100 :=
  mul_nonneg (modf_bounds _).1 (by norm_num)

theorem AprsPosition.WellFormed.length_text {position : AprsPosition}
    (formed : position.WellFormed width) : position.text.length = width + 6 := by
  simp only [AprsPosition.text, List.length_append, formed.deg, formed.min.1, formed.hundredths]
  rfl

/-- The hundredths have two digits unless they are rounded up to a hundred. -/
theorem round_hundredths_lt_iff (x : ℚ) : (round (minuteFraction x * 100) < 10 ^ 2) ↔
    Int.fract (60 * x) < 199 / 200 := by
  rw [round_lt_iff (hundredths_nonneg x), minuteFraction_eq]
  push_cast
  constructor <;> intro below <;> linarith

/-- A position is well formed if its hundredths have two digits. -/
theorem wellFormed_printed (positive : 0 < width) (nonneg : 0 ≤ x) (below : x < (10 ^ width : ℕ))
    (round : Int.fract (60 * x) < 199 / 200) : (printed width letter x).WellFormed width := by
  refine ⟨length_print0D positive (modf_lt nonneg below), ⟨?_, ?_⟩, ?_, ?_⟩
  · exact length_print0D (by decide) (Nat.lt_trans (minutes_lt x) (by decide))
  · change decimalValue (print0D 2 (minutes x)) < 60
    rw [decimalValue_print0D]
    exact minutes_lt x
  · exact length_print0D (by decide) ((round_hundredths_lt_iff x).mpr round)
  · intro c c_mem
    rcases List.mem_append.mp c_mem with c_mem | hundredths
    · rcases List.mem_append.mp c_mem with deg | min
      · exact isdigit_of_mem_print0D deg
      · exact isdigit_of_mem_print0D min
    · exact isdigit_of_mem_print0D hundredths

/-- A position is off by the rounding alone. -/
theorem angle_printed (nonneg : 0 ≤ x) :
    abs ((printed width letter x).angle - x) ≤ 1 / 2 / 100 / 60 := by
  have rounded := round_bounds (hundredths_nonneg x)
  have parts := angle_eq nonneg
  rw [AprsPosition.angle]
  change abs (((decimalValue (print0D width (modf x).2) : ℕ) : ℚ) +
    ((decimalValue (print0D 2 (minutes x)) : ℕ) + ((decimalValue
      (print0D 2 (round (minuteFraction x * 100))) : ℕ) : ℚ) / 100) / 60 - x) ≤ _
  rw [decimalValue_print0D, decimalValue_print0D, decimalValue_print0D, abs_le]
  constructor <;> linarith

/-- Where the hundredths are rounded up to a hundred there are three digits of them. -/
theorem not_isPosition_printed {positive negative : Char}
    (letters : ofChar positive ≠ 0x30 ∧ ofChar negative ≠ 0x30) (some_ : 0 < width)
    (nonneg : 0 ≤ x) (below : x < (10 ^ width : ℕ)) (room : width + 7 ≤ strsize)
    (carry : ¬Int.fract (60 * x) < 199 / 200) :
    ¬IsPosition width positive negative f (snprintf strsize (printed width letter x).text) := by
  rintro ⟨position, written, formed, denotes⟩
  have most : round (minuteFraction x * 100) < 101 := by
    rw [round_lt_iff (hundredths_nonneg x)]
    have small : minuteFraction x < 1 := (modf_bounds _).2
    push_cast
    linarith
  have least := (round_hundredths_lt_iff x).not.mpr carry
  have hundred : round (minuteFraction x * 100) = 100 := by omega
  rw [snprintf, if_neg (by omega)] at written
  have same := List.append_cancel_right written
  have digits : print0D 2 100 = ascii "100" := by decide
  have front : (printed width letter x).text =
      (print0D width (modf x).2 ++ print0D 2 (minutes x) ++ ascii ".10") ++ [0x30] ++ [letter] := by
    rw [AprsPosition.text, printed, hundred]
    simp [digits, ascii]
  have length : (print0D width (modf x).2 ++ print0D 2 (minutes x) ++ ascii ".10").length =
      width + 5 := by
    rw [List.length_append, List.length_append, length_print0D some_ (modf_lt nonneg below),
      length_print0D (by decide) (Nat.lt_trans (minutes_lt x) (by decide))]
    rfl
  rw [front] at same
  generalize print0D width (modf x).2 ++ print0D 2 (minutes x) ++ ascii ".10" = start at same length
  by_cases truncated : strsize - 1 = width + 6
  · have cut : (start ++ [0x30]).length = width + 6 := by
      rw [List.length_append, length]
      rfl
    rw [truncated, List.take_append_of_le_length cut.ge, List.take_of_length_le cut.le] at same
    have last := List.singleton_inj.mp (List.append_inj' same rfl).2
    rw [denotes.letter] at last
    split at last
    · exact letters.2 last.symm
    · exact letters.1 last.symm
  · have sameLength := congrArg List.length same
    rw [List.length_take, List.length_append, List.length_append, length,
      formed.length_text] at sameLength
    simp only [List.length_singleton] at sameLength
    omega

/-- The buffer has room for the position, which is right just if its hundredths have two digits. -/
theorem isPosition_printed_iff {positive negative : Char}
    (letters : ofChar positive ≠ 0x30 ∧ ofChar negative ≠ 0x30) (some_ : 0 < width)
    (below : |f| < (10 ^ width : ℕ)) (room : width + 7 ≤ strsize) :
    IsPosition width positive negative f (snprintf strsize
        (printed width (ofChar (if f < 0 then negative else positive)) |f|).text) ↔
      Int.fract (60 * |f|) < 199 / 200 := by
  constructor
  · intro isPosition
    by_contra carry
    exact not_isPosition_printed letters some_ (abs_nonneg f) below room carry isPosition
  · intro rounded
    have formed := @wellFormed_printed width (ofChar (if f < 0 then negative else positive)) _
      some_ (abs_nonneg f) below rounded
    refine ⟨_, ?_, formed, rfl, angle_printed (abs_nonneg f)⟩
    rw [snprintf, if_neg (by omega), List.take_of_length_le (by rw [formed.length_text]; omega)]

end Text

/-- The text of a latitude and of a longitude is a position of APRS, unless the angle is at most
half a hundredth of a minute below a whole minute. -/
theorem isPosition_iff (f : ℚ) (strsize : ℕ) :
    (|f| ≤ 90 → 9 ≤ strsize →
      (IsPosition 2 'N' 'S' f (cGpsAngleToStr .degAprsLat f strsize) ↔
        Int.fract (60 * |f|) < 199 / 200)) ∧
      (|f| ≤ 180 → 10 ≤ strsize →
        (IsPosition 3 'E' 'W' f (cGpsAngleToStr .degAprsLong f strsize) ↔
          Int.fract (60 * |f|) < 199 / 200)) := by
  refine ⟨fun latitude room => ?_, fun longitude room => ?_⟩
  · rw [cGpsAngleToStr_lat (by linarith)]
    exact isPosition_printed_iff (by decide) (by decide) (by norm_num; linarith) room
  · rw [cGpsAngleToStr_long (by linarith)]
    exact isPosition_printed_iff (by decide) (by decide) (by norm_num; linarith) room

theorem isPosition_quarter :
    IsPosition 2 'N' 'S' (-181 / 4) (cGpsAngleToStr .degAprsLat (-181 / 4) 9) ∧
      IsPosition 3 'E' 'W' (-181 / 4) (cGpsAngleToStr .degAprsLong (-181 / 4) 40) := by
  have magnitude : |(-181 / 4 : ℚ)| = 181 / 4 := by norm_num [abs_of_neg]
  have whole : Int.fract (60 * |(-181 / 4 : ℚ)|) < 199 / 200 := by
    rw [magnitude]
    norm_num
  exact ⟨((isPosition_iff (-181 / 4) 9).1 (by rw [magnitude]; norm_num) (by decide)).mpr whole,
    ((isPosition_iff (-181 / 4) 40).2 (by rw [magnitude]; norm_num) (by decide)).mpr whole⟩

/-- Just below one degree the hundredths have three digits. -/
theorem not_isPosition_carry :
    cGpsAngleToStr .degAprsLat (19999 / 20000) 40 = ascii "0059.100N" ++ [0] ∧
      ¬IsPosition 2 'N' 'S' (19999 / 20000) (cGpsAngleToStr .degAprsLat (19999 / 20000) 40) := by
  have text : cGpsAngleToStr .degAprsLat (19999 / 20000) 40 = ascii "0059.100N" ++ [0] := by
    decide +kernel
  refine ⟨text, ?_⟩
  rintro ⟨position, written, formed, -⟩
  rw [text] at written
  have length := congrArg List.length (List.append_cancel_right written)
  rw [formed.length_text] at length
  cases length

end Sysio.Gps
