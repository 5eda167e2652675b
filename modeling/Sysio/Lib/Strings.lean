import Mathlib.Data.List.TakeWhile
import Sysio.Lib.CString
import Sysio.Lib.Memory

/-!
# Strings in memory

A pointer into a buffer is given by the bytes from where it points up to the end of the buffer.
The string there ends at the first NUL (`cstr`); `strchr` looks for a byte in it, and leaves the
buffer when neither the byte nor a NUL comes. `strtol` returns `none` where `endptr` does not
move and where `errno` is `ERANGE`.
-/

/-- The codes of a text. -/
def ascii (text : String) : List UInt8 := text.toList.map fun c => c.toNat.toUInt8

/-- The bytes before the first NUL. -/
def cstr (memory : List UInt8) : List UInt8 := memory.takeWhile (· ≠ 0)

theorem cstr_append {text : List UInt8} (nonzero : ∀ c ∈ text, c ≠ 0) (after : List UInt8) :
    cstr (text ++ 0 :: after) = text := by
  rw [cstr, List.takeWhile_append_of_pos (by simpa using nonzero)]
  simp

/-- The offset of the first `c`, which may be the NUL itself. -/
def strchr : List UInt8 → UInt8 → Except Fault (Option ℕ)
  | [], _ => .error .outOfBounds
  | b :: memory, c =>
      if b = c then .ok (some 0)
      else if b = 0 then .ok none
      else (strchr memory c).map (Option.map (· + 1))

theorem strchr_append {before : List UInt8} {c : UInt8} (after : List UInt8)
    (clean : ∀ b ∈ before, b ≠ c ∧ b ≠ 0) :
    strchr (before ++ after) c = (strchr after c).map (Option.map (· + before.length)) := by
  induction before with
  | nil =>
      rcases found : strchr after c with fault | none | offset <;> simp [found, Except.map]
  | cons b before ih =>
      rcases clean b (by simp) with ⟨notC, notNul⟩
      have rest := ih fun d d_mem => clean d (by simp [d_mem])
      rw [List.cons_append, strchr, if_neg notC, if_neg notNul, rest]
      rcases strchr after c with fault | none | offset <;>
        simp [Except.map, Nat.add_assoc]

theorem strchr_of_clean {before : List UInt8} {c : UInt8} (after : List UInt8)
    (clean : ∀ b ∈ before, b ≠ c ∧ b ≠ 0) :
    strchr (before ++ c :: after) c = .ok (some before.length) := by
  rw [strchr_append _ clean]
  simp [strchr, Except.map]

theorem strchr_lt {memory : List UInt8} {c : UInt8} {offset : ℕ}
    (found : strchr memory c = .ok (some offset)) : offset < memory.length := by
  induction memory generalizing offset with
  | nil => cases found
  | cons b memory ih =>
      rw [strchr] at found
      split_ifs at found with isC isNul
      · cases found
        simp
      · cases found
      · rcases later : strchr memory c with fault | none | further
        · rw [later] at found
          cases found
        · rw [later] at found
          cases found
        · rw [later] at found
          cases found
          have := ih later
          simpa using this

theorem exists_of_strchr {memory : List UInt8} {c : UInt8} {offset : ℕ}
    (found : strchr memory c = .ok (some offset)) :
    ∃ before after, memory = before ++ c :: after ∧ before.length = offset ∧
      ∀ b ∈ before, b ≠ c ∧ b ≠ 0 := by
  induction memory generalizing offset with
  | nil => cases found
  | cons b memory ih =>
      rw [strchr] at found
      split_ifs at found with isC isNul
      · cases found
        exact ⟨[], memory, by rw [isC]; rfl, rfl, fun b bMem => absurd bMem List.not_mem_nil⟩
      · cases found
      · rcases later : strchr memory c with fault | none | further
        · rw [later] at found
          cases found
        · rw [later] at found
          cases found
        · rw [later] at found
          cases found
          rcases ih later with ⟨before, after, rfl, rfl, clean⟩
          refine ⟨b :: before, after, rfl, rfl, fun d dMem => ?_⟩
          rcases List.mem_cons.mp dMem with rfl | dMem
          · exact ⟨isC, isNul⟩
          · exact clean d dMem

theorem strchr_append_of_ok {memory : List UInt8} {c : UInt8} {found : Option ℕ}
    (inside : strchr memory c = .ok found) (tail : List UInt8) :
    strchr (memory ++ tail) c = .ok found := by
  induction memory generalizing found with
  | nil => cases inside
  | cons b memory ih =>
      rw [strchr] at inside
      rw [List.cons_append, strchr]
      split_ifs at inside ⊢ with isC isNul
      · exact inside
      · exact inside
      · rcases later : strchr memory c with fault | further
        · rw [later] at inside
          cases inside
        · rw [ih later, ← later]
          exact inside

theorem exists_strchr_of_zero_mem {memory : List UInt8} (ended : (0 : UInt8) ∈ memory) (c : UInt8) :
    ∃ found, strchr memory c = .ok found := by
  induction memory with
  | nil => cases ended
  | cons b memory ih =>
      rw [strchr]
      split_ifs with isC isNul
      · exact ⟨_, rfl⟩
      · exact ⟨_, rfl⟩
      · rcases ih ((List.mem_cons.mp ended).resolve_left (Ne.symm isNul)) with ⟨found, search⟩
        exact ⟨_, by rw [search]; rfl⟩

theorem getElem?_of_strchr {memory : List UInt8} {c : UInt8} {offset : ℕ}
    (found : strchr memory c = .ok (some offset)) : memory[offset]? = some c := by
  rcases exists_of_strchr found with ⟨before, after, rfl, rfl, -⟩
  simp

/-- A search that leaves the memory also leaves it with bytes behind that it passes over. -/
theorem strchr_append_of_passed (memory : List UInt8) {c : UInt8} {tail : List UInt8}
    (passed : ∀ b ∈ tail, b ≠ c ∧ b ≠ 0) : strchr (memory ++ tail) c = strchr memory c := by
  induction memory with
  | nil =>
      induction tail with
      | nil => rfl
      | cons b tail ih =>
          rcases passed b (by simp) with ⟨notC, notNul⟩
          have later := ih fun d d_mem => passed d (by simp [d_mem])
          rw [List.nil_append] at later ⊢
          simp only [strchr, if_neg notC, if_neg notNul] at later ⊢
          rw [later]
          rfl
  | cons b memory ih => rw [List.cons_append, strchr, strchr, ih]

theorem zero_mem_of_strchr_none {memory : List UInt8} {c : UInt8}
    (ended : strchr memory c = .ok none) : (0 : UInt8) ∈ memory := by
  induction memory with
  | nil => cases ended
  | cons b memory ih =>
      rw [strchr] at ended
      split_ifs at ended with isC isNul
      · cases ended
      · simp [isNul]
      · rcases later : strchr memory c with fault | _ | further
        · rw [later] at ended
          cases ended
        · exact List.mem_cons_of_mem b (ih later)
        · rw [later] at ended
          cases ended

theorem cstr_cons (b : UInt8) (memory : List UInt8) :
    cstr (b :: memory) = if b = 0 then [] else b :: cstr memory := by
  rw [cstr, List.takeWhile_cons]
  by_cases isNul : b = 0
  · simp [isNul]
  · simp [isNul, cstr]

theorem cstr_append_of_mem {memory : List UInt8} (ended : (0 : UInt8) ∈ memory)
    (tail : List UInt8) : cstr (memory ++ tail) = cstr memory := by
  induction memory with
  | nil => cases ended
  | cons b memory ih =>
      rw [List.cons_append, cstr_cons, cstr_cons]
      rcases List.mem_cons.mp ended with isNul | later
      · rw [if_pos isNul.symm, if_pos isNul.symm]
      · rw [ih later]

theorem length_cstr_lt {memory : List UInt8} (ended : (0 : UInt8) ∈ memory) :
    (cstr memory).length < memory.length := by
  induction memory with
  | nil => cases ended
  | cons b memory ih =>
      rw [cstr_cons]
      split_ifs with isNul
      · simp
      · rcases List.mem_cons.mp ended with here | later
        · exact absurd here.symm isNul
        · simpa using ih later

/-- The value of a digit or letter, and 36 for other characters. -/
def digitValue (c : UInt8) : ℕ :=
  if CChar.isdigit c then c.toNat - 0x30
  else if CChar.isupper c then c.toNat - 0x41 + 10
  else if CChar.islower c then c.toNat - 0x61 + 10
  else 36

/-- The digits at the start of a text, as a number. -/
def strtolDigits (base : ℕ) (text : List UInt8) : Option ℕ :=
  match text.takeWhile (fun c => digitValue c < base) with
  | [] => none
  | digits => some (digits.foldl (fun value c => value * base + digitValue c) 0)

/-- The prefix `0x`, which only counts before a hexadecimal digit. -/
def strtolPrefix (base : ℕ) (text : List UInt8) : List UInt8 :=
  match text with
  | zero :: x :: digit :: rest =>
      if base = 16 ∧ zero = 0x30 ∧ CChar.toupper x = 0x58 ∧ digitValue digit < 16 then digit :: rest
      else text
  | _ => text

/-- `strtol` and `strtoll`, where both have 64 bits. -/
def strtol (base : ℕ) (text : List UInt8) : Option ℤ :=
  let signed := text.dropWhile CChar.isspace
  let value : Option ℤ :=
    match signed with
    | 0x2D :: rest => (strtolDigits base (strtolPrefix base rest)).map fun n => -(n : ℤ)
    | 0x2B :: rest => (strtolDigits base (strtolPrefix base rest)).map fun n => (n : ℤ)
    | rest => (strtolDigits base (strtolPrefix base rest)).map fun n => (n : ℤ)
  value.filter fun n => -2 ^ 63 ≤ n ∧ n < 2 ^ 63

example : strtol 10 (ascii "  -012A") = some (-12) := by decide +kernel

example : strtol 16 (ascii "0x1g") = some 1 := by decide +kernel

/-- The number of these digits. -/
def strtolNumber (base : ℕ) (digits : List UInt8) : ℕ :=
  digits.foldl (fun value c => value * base + digitValue c) 0

section Digits

variable {base : ℕ} {digits : List UInt8}

theorem strtolNumber_lt (valid : ∀ c ∈ digits, digitValue c < base) :
    strtolNumber base digits < base ^ digits.length := by
  induction digits using List.reverseRecOn with
  | nil => simp [strtolNumber]
  | append_singleton digits c ih =>
      have later := ih fun d d_mem => valid d (by simp [d_mem])
      have last := valid c (by simp)
      rw [strtolNumber, List.foldl_append, List.foldl_cons, List.foldl_nil, List.length_append,
        List.length_singleton, pow_succ]
      change strtolNumber base digits * base + digitValue c < _
      calc strtolNumber base digits * base + digitValue c
          < strtolNumber base digits * base + base := by omega
        _ = (strtolNumber base digits + 1) * base := by rw [Nat.succ_mul]
        _ ≤ base ^ digits.length * base := Nat.mul_le_mul_right base later

theorem strtol_plain {c : UInt8} (valid : digitValue c < 16) :
    CChar.isspace c = false ∧ c ≠ 0x2D ∧ c ≠ 0x2B ∧ CChar.toupper c ≠ 0x58 := by
  revert c
  decide +kernel

/-- A number without sign or prefix is read to its end. -/
theorem strtol_digits (valid : ∀ c ∈ digits, digitValue c < base) (digitsNe : digits ≠ [])
    (small : base ≤ 16) (inRange : base ^ digits.length ≤ 2 ^ 63) :
    strtol base digits = some (strtolNumber base digits : ℤ) := by
  have plain : ∀ c ∈ digits, CChar.isspace c = false ∧ c ≠ 0x2D ∧ c ≠ 0x2B ∧
      CChar.toupper c ≠ 0x58 := fun c c_mem => strtol_plain ((valid c c_mem).trans_le small)
  have whole : digits.takeWhile (fun c => digitValue c < base) = digits := by
    rw [List.takeWhile_eq_self_iff]
    simpa using valid
  have noPrefix : strtolPrefix base digits = digits := by
    rcases digits with _ | ⟨c, _ | ⟨d, _ | ⟨e, rest⟩⟩⟩
    · rfl
    · rfl
    · rfl
    · have notX := (plain d (by simp)).2.2.2
      simp [strtolPrefix, notX]
  have number : strtolDigits base digits = some (strtolNumber base digits) := by
    rw [strtolDigits, whole]
    cases digits with
    | nil => exact absurd rfl digitsNe
    | cons c rest => rfl
  have bound := (strtolNumber_lt valid).trans_le inRange
  have kept : (some (strtolNumber base digits : ℤ)).filter
      (fun n => decide (-2 ^ 63 ≤ n ∧ n < 2 ^ 63)) = some (strtolNumber base digits : ℤ) := by
    refine Option.filter_eq_some_iff.mpr ⟨rfl, ?_⟩
    simp only [decide_eq_true_eq]
    omega
  have unspaced : digits.dropWhile CChar.isspace = digits := by
    cases digits with
    | nil => rfl
    | cons c rest => exact List.dropWhile_cons_of_neg (by simp [(plain c (by simp)).1])
  rw [strtol]
  simp only [unspaced]
  split
  · exact absurd rfl (plain 0x2D (by simp)).2.1
  · exact absurd rfl (plain 0x2B (by simp)).2.2.1
  · rw [noPrefix, number]
    exact kept
end Digits
