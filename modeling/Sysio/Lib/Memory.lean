import Mathlib.Data.Vector.Basic

/-!
# Faults and buffers

What a C program does when it leaves the memory it owns is not modelled: a function that can
leave it returns `Except Fault`, and the fault says how. A buffer that is filled from its start
is described by its first bytes.
-/

/-- How an access to memory goes wrong. -/
inductive Fault where
  | outOfBounds
  | nullPointer
  | notOwned
deriving DecidableEq, Repr

/-- The bytes are copied to the start of the buffer, as many of them as it has room for. -/
def Vector.fill {α : Type} {bound : ℕ} (buf : Vector α bound) (bytes : List α) : Vector α bound :=
  Vector.ofFn fun i => bytes.getD i buf[i]

theorem Vector.take_fill {α : Type} {bound : ℕ} (buf : Vector α bound) {bytes : List α}
    (room : bytes.length ≤ bound) : (buf.fill bytes).toList.take bytes.length = bytes := by
  apply List.ext_getElem
  · simpa using room
  · intro i inside inside'
    rw [List.getElem_take]
    simp [Vector.fill, inside']

/-- What is behind the bytes stays as it was. -/
theorem Vector.getElem_fill_of_le {α : Type} {bound : ℕ} (buf : Vector α bound) {bytes : List α}
    {i : ℕ} (inside : i < bound) (behind : bytes.length ≤ i) :
    (buf.fill bytes)[i] = buf[i] := by
  simp [Vector.fill, behind]

theorem Vector.take_set_succ {α : Type} {bound : ℕ} (buf : Vector α bound) (len : ℕ)
    (room : len < bound) (c : α) :
    (buf.set len c).toList.take (len + 1) = buf.toList.take len ++ [c] := by
  have length_eq : buf.toList.length = bound := by simp
  rw [Vector.toList_set, List.take_add_one, List.take_set_of_le le_rfl]
  simp [length_eq, room]
