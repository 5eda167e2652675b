import Mathlib.Data.List.Basic

/-!
# Blocks of slots

An allocated block of storage: a list of slots, each indeterminate until something is stored in
it. Reading outside the block, or an indeterminate slot, and storing outside the block have no
result. `Holds` says what the first slots of a block hold; every operation on the block has one
lemma that says what it holds afterwards.
-/

namespace Block

universe u

variable {Value : Type u}

/-- An element of a block, which may not have been written. -/
inductive Slot (Value : Type u) where
  | indeterminate
  | holds (value : Value)
deriving DecidableEq, Repr

/-- The value at an index, if it was written. -/
def read (block : List (Slot Value)) (index : ℕ) : Option Value :=
  match block[index]? with
  | some (.holds value) => some value
  | _ => none

/-- The block with another value at an index, if it has one. -/
def write (block : List (Slot Value)) (index : ℕ) (value : Value) :
    Option (List (Slot Value)) :=
  if index < block.length then some (block.set index (.holds value)) else none

/-- The block at another size: what fits is kept and what is added is indeterminate. -/
def resize (block : List (Slot Value)) (count : ℕ) : List (Slot Value) :=
  block.take count ++ List.replicate (count - block.length) .indeterminate

/-- `count` slots from `source` on are moved to `destination`, as if through a copy. -/
def move (block : List (Slot Value)) (destination source count : ℕ) :
    Option (List (Slot Value)) :=
  if destination + count ≤ block.length ∧ source + count ≤ block.length then
    some (block.take destination ++ (block.drop source).take count ++
      block.drop (destination + count))
  else none

/-- The first elements of the block have these values. -/
def Holds (block : List (Slot Value)) (values : List Value) : Prop :=
  ∀ (index : ℕ) (value : Value), values[index]? = some value → block[index]? = some (.holds value)

theorem Holds.nil (block : List (Slot Value)) : Holds block [] := by
  intro index value found
  cases found

theorem Holds.length_le {block : List (Slot Value)} {values : List Value}
    (holds : Holds block values) : values.length ≤ block.length := by
  by_contra longer
  have inside : block.length < values.length := by omega
  have found := holds block.length _ (List.getElem?_eq_getElem inside)
  simp at found

theorem Holds.read {block : List (Slot Value)} {values : List Value}
    (holds : Holds block values) {index : ℕ} {value : Value}
    (found : values[index]? = some value) : read block index = some value := by
  rw [Block.read, holds index value found]

theorem write_eq {block : List (Slot Value)} {index : ℕ} (inside : index < block.length)
    (value : Value) : write block index value = some (block.set index (.holds value)) :=
  if_pos inside

theorem Holds.set {block : List (Slot Value)} {values : List Value}
    (holds : Holds block values) (index : ℕ) (value : Value) :
    Holds (block.set index (.holds value)) (values.set index value) := by
  intro other found isFound
  rw [List.getElem?_set] at isFound ⊢
  have longer := holds.length_le
  by_cases same : index = other
  · rw [if_pos same] at isFound ⊢
    by_cases inside : index < values.length
    · rw [if_pos inside] at isFound
      rw [if_pos (by omega), ← Option.some.inj isFound]
    · rw [if_neg inside] at isFound
      cases isFound
  · rw [if_neg same] at isFound ⊢
    exact holds other found isFound

theorem Holds.push {block : List (Slot Value)} {values : List Value}
    (holds : Holds block values) (room : values.length < block.length) (value : Value) :
    Holds (block.set values.length (.holds value)) (values ++ [value]) := by
  intro index found isFound
  rw [List.getElem?_append] at isFound
  by_cases inside : index < values.length
  · rw [if_pos inside] at isFound
    rw [List.getElem?_set_ne (by omega)]
    exact holds index found isFound
  · rw [if_neg inside] at isFound
    have atEnd : index = values.length := by
      have := (List.getElem?_eq_some_iff.mp isFound).1
      simp only [List.length_singleton] at this
      omega
    subst atEnd
    rw [Nat.sub_self] at isFound
    rw [List.getElem?_set_self room]
    simpa using isFound

@[simp]
theorem length_resize (block : List (Slot Value)) (count : ℕ) :
    (resize block count).length = count := by
  rw [resize, List.length_append, List.length_take, List.length_replicate]
  omega

theorem Holds.take {block : List (Slot Value)} {values : List Value}
    (holds : Holds block values) (count : ℕ) : Holds block (values.take count) := by
  intro index value found
  rw [List.getElem?_take] at found
  by_cases inside : index < count
  · rw [if_pos inside] at found
    exact holds index value found
  · rw [if_neg inside] at found
    cases found

theorem Holds.resize {block : List (Slot Value)} {values : List Value}
    (holds : Holds block values) {count : ℕ} (fits : values.length ≤ count) :
    Holds (resize block count) values := by
  intro index value found
  have inside := (List.getElem?_eq_some_iff.mp found).1
  have kept := holds index value found
  have insideBlock := (List.getElem?_eq_some_iff.mp kept).1
  rw [Block.resize, List.getElem?_append_left (by simp; omega),
    List.getElem?_take_of_lt (by omega), kept]

/-- Moving down what follows a slot erases it. -/
theorem Holds.move {block : List (Slot Value)} {values : List Value}
    (holds : Holds block values) {index : ℕ} (inside : index < values.length) :
    ∃ moved, move block index (index + 1) (values.length - index - 1) = some moved ∧
      moved.length = block.length ∧ Holds moved (values.eraseIdx index) := by
  have longer := holds.length_le
  refine ⟨_, if_pos ⟨by omega, by omega⟩, ?_, ?_⟩
  · simp only [List.length_append, List.length_take, List.length_drop]
    omega
  · intro other value found
    rw [List.getElem?_eraseIdx] at found
    by_cases before : other < index
    · rw [if_pos before] at found
      rw [List.append_assoc, List.getElem?_append_left (by simp; omega),
        List.getElem?_take_of_lt before]
      exact holds other value found
    · rw [if_neg before] at found
      have insideNext := (List.getElem?_eq_some_iff.mp found).1
      rw [List.append_assoc, List.getElem?_append_right (by simp; omega),
        List.getElem?_append_left (by simp; omega), List.getElem?_take_of_lt (by simp; omega),
        List.getElem?_drop]
      have place : index + 1 + (other - (block.take index).length) = other + 1 := by
        rw [List.length_take]
        omega
      rw [place]
      exact holds (other + 1) value found

/-- What the first slots of a block hold. -/
def contents (block : List (Slot Value)) (count : ℕ) : List Value :=
  (block.take count).filterMap fun
    | .indeterminate => none
    | .holds value => some value

theorem Holds.contents_eq {block : List (Slot Value)} {values : List Value}
    (holds : Holds block values) : contents block values.length = values := by
  have filled : block.take values.length = values.map .holds := by
    apply List.ext_getElem?
    intro index
    rw [List.getElem?_map, List.getElem?_take]
    by_cases inside : index < values.length
    · rw [if_pos inside, List.getElem?_eq_getElem inside]
      exact holds index _ (List.getElem?_eq_getElem inside)
    · rw [if_neg inside, List.getElem?_eq_none (by omega)]
      rfl
  rw [contents, filled, List.filterMap_map]
  exact List.filterMap_some

end Block
