import Mathlib.Data.FinEnum
import Mathlib.Data.List.TakeWhile

/-!
# C characters and bounded strings

The character classes of `ctype.h` in the "C" locale, on bytes, and the value of
a `char` array of `bound + 1` bytes that always ends with a NUL: a list of at most
`bound` non-NUL bytes. `CString.strncpy` is `strncpy` followed by writing the last
NUL, the only way such an array is filled.
-/

namespace CChar

/-- A decimal digit. -/
def isdigit (c : UInt8) : Bool := 0x30 ≤ c && c ≤ 0x39

/-- A capital letter. -/
def isupper (c : UInt8) : Bool := 0x41 ≤ c && c ≤ 0x5A

/-- A small letter. -/
def islower (c : UInt8) : Bool := 0x61 ≤ c && c ≤ 0x7A

/-- A letter or a digit. -/
def isalnum (c : UInt8) : Bool := isdigit c || isupper c || islower c

/-- A hexadecimal digit. -/
def isxdigit (c : UInt8) : Bool :=
  isdigit c || (0x41 ≤ c && c ≤ 0x46) || (0x61 ≤ c && c ≤ 0x66)

/-- White space. -/
def isspace (c : UInt8) : Bool := c == 0x20 || (0x09 ≤ c && c ≤ 0x0D)

/-- The capital of a small letter. -/
def toupper (c : UInt8) : UInt8 := if islower c then c - 0x20 else c

theorem toupper_ne_zero {c : UInt8} (nonzero : c ≠ 0) : toupper c ≠ 0 := by
  revert c
  decide +kernel

/-- The hexadecimal digit of a number. -/
def upperXDigit (n : UInt8) : UInt8 := if n < 10 then 0x30 + n else 0x41 + (n - 10)

theorem isxdigit_upperXDigit {n : UInt8} (small : n < 16) :
    isxdigit (upperXDigit n) = true := by
  revert n
  decide +kernel

/-- Two hexadecimal digits. -/
def print02X (n : UInt8) : List UInt8 := [upperXDigit (n >>> 4), upperXDigit (n &&& 0x0F)]

/-- Four hexadecimal digits. -/
def print04X (n : UInt16) : List UInt8 := print02X (n >>> 8).toUInt8 ++ print02X n.toUInt8

end CChar

/-- The contents of a NUL-terminated `char` array with room for `bound` characters. -/
@[ext]
structure CString (bound : ℕ) where
  /-- The characters before the terminating NUL. -/
  chars : List UInt8
  length_le : chars.length ≤ bound
  ne_zero : ∀ c ∈ chars, c ≠ 0

namespace CString

variable {bound : ℕ}

instance : DecidableEq (CString bound) := fun left right =>
  decidable_of_iff (left.chars = right.chars) CString.ext_iff.symm

/-- No characters. -/
def empty : CString bound := ⟨[], by simp, by simp⟩

/-- `strncpy (dst, src, bound)` and `dst[bound] = 0`: at most `bound` characters, up to the
first NUL of the source. -/
def strncpy (bound : ℕ) (source : List UInt8) : CString bound where
  chars := (source.take bound).takeWhile (· ≠ 0)
  length_le := ((List.takeWhile_prefix _).length_le).trans (List.length_take_le _ _)
  ne_zero := by
    intro c c_mem
    simpa using List.mem_takeWhile_imp c_mem

/-- The string in capitals. -/
def upper (string : CString bound) : CString bound where
  chars := string.chars.map CChar.toupper
  length_le := by simpa using string.length_le
  ne_zero := by
    intro c c_mem
    rcases List.mem_map.mp c_mem with ⟨source, source_mem, rfl⟩
    exact CChar.toupper_ne_zero (string.ne_zero source source_mem)

@[simp]
theorem upper_chars (string : CString bound) :
    string.upper.chars = string.chars.map CChar.toupper := rfl

/-- A string padded with NULs to the size of the array is read back as it was. -/
theorem strncpy_append_replicate (string : CString bound) (count : ℕ) :
    strncpy bound (string.chars ++ List.replicate count 0) = string := by
  apply CString.ext
  have kept : (string.chars ++ List.replicate count (0 : UInt8)).take bound =
      string.chars ++ List.replicate (min (bound - string.chars.length) count) 0 := by
    rw [List.take_append, List.take_of_length_le string.length_le, List.take_replicate]
  have nonzero : ∀ c ∈ string.chars, decide (c ≠ 0) = true := by
    intro c c_mem
    simpa using string.ne_zero c c_mem
  simp only [strncpy, kept]
  rw [List.takeWhile_append_of_pos nonzero]
  rcases min (bound - string.chars.length) count with _ | padding <;> simp [List.replicate_succ]

end CString
