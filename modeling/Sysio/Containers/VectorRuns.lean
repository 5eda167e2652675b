import Sysio.Containers.VectorRefinement

/-!
# Vectors that a program can reach

Whatever operations a program makes of a vector, as long as they return: the vector represents a
list of slots, also after an element was put behind the last one, and after the capacity shrank.
-/

namespace Sysio.Vector

open Block Refinement

variable {Addr : Type} {emptyBlock : Bool} {state : VectorState Addr} {view : VectorView Addr}

/-- The elements of a vector. -/
def XVector.slots (vector : XVector Addr) : List (Option Addr) :=
  contents vector.block vector.size.toNat

/-- The vector has been made by some calls on a new one. -/
def Reachable (emptyBlock : Bool) (state : VectorState Addr) : Prop :=
  ∃ growth fnew fdestroy calls replies,
    run (intCall emptyBlock) ⟨iVectorInit growth fnew fdestroy, []⟩ calls = .ok (state, replies)

theorem Represents.slots_eq (represents : Represents state view) :
    state.vector.slots = view.slots := by
  rw [XVector.slots, represents.size, Int.toNat_natCast, represents.holds.contents_eq]

theorem Represents.length_slots (represents : Represents state view) :
    state.vector.size = state.vector.slots.length := by
  rw [represents.slots_eq, represents.size]

theorem Represents.size_le_alloc (represents : Represents state view) :
    state.vector.size ≤ state.vector.alloc := represents.observed.bounds.2

theorem represents_init (growth : ℤ) (fnew : Option (ℕ → Option Addr)) (fdestroy : Bool) :
    Represents ⟨iVectorInit growth fnew fdestroy, []⟩ ⟨[], fnew, 0⟩ := by
  refine ⟨Holds.nil _, rfl, rfl, ?_, rfl, rfl⟩
  change 1 ≤ if growth ≤ 1 then 1 else growth
  split <;> omega

/-- Setting a slot behind the elements leaves them as they are. -/
theorem Represents.stored_size (represents : Represents state view) (element : Option Addr) :
    Represents { state with vector := state.vector.stored view.slots.length element } view := by
  have kept := represents.holds.set view.slots.length element
  rw [List.set_eq_of_length_le (Nat.le_refl _)] at kept
  refine ⟨kept, ?_, represents.size, represents.growth, represents.fnew, represents.created⟩
  rw [block_stored, List.length_set]
  exact represents.allocated

theorem iVectorReplace_size (represents : Represents state view) (element : Option Addr) :
    iVectorReplace state state.vector.size element =
      if state.vector.size < state.vector.alloc then
        .ok ({ state with vector := state.vector.stored view.slots.length element }, 0)
      else .error .access := by
  have nonneg := represents.observed.bounds.1
  have allocated := represents.allocated
  have size := represents.size
  rw [iVectorReplace, if_neg (by omega), size]
  by_cases room : state.vector.size < state.vector.alloc
  · rw [if_pos (by omega), setData_eq (by omega)]
    rfl
  · rw [if_neg (by omega), setData]
    cases isData : state.vector.data with
    | none => rfl
    | some block =>
        rw [XVector.block, isData, Option.getD_some] at allocated
        have full : ¬view.slots.length < block.length := by omega
        simp [write, full]

theorem iVectorReplace_outside (represents : Represents state view) {index : ℤ}
    (outside : index < 0 ∨ view.slots.length < index) (element : Option Addr) :
    iVectorReplace state index element = .ok (state, -1) := by
  rw [iVectorReplace, if_pos (by rw [represents.size]; omega)]
  rfl

/-- Without an empty block the assertion on the result of `realloc` fails. -/
theorem iVectorResize_zero (represents : Represents state view)
    (elements : state.vector.size ≠ 0) :
    iVectorResize false state 0 = .error .assertFailed := by
  have nonneg := represents.observed.bounds.1
  have within := represents.size_le_alloc
  have growth := represents.growth
  rcases exists_destroyed represents 0 with ⟨data, destroyed, -, -⟩
  have zero : newAlloc 0 state.vector.growth = 0 := by
    simp [newAlloc]
  rw [iVectorResize, if_neg (by omega), if_pos (by omega), zero]
  rw [show ((0 : ℕ) : ℤ) = 0 from rfl] at destroyed
  rw [destroyed]
  change (setAlloc false (state.vector.withData data) 0 >>= fun vector => _) = _
  have smaller : (0 : ℤ) ≠ (state.vector.withData data).alloc := by
    change 0 ≠ state.vector.alloc
    omega
  rw [setAlloc, if_pos smaller, reallocData, if_pos ⟨rfl, rfl⟩]
  rfl

/-- An operation that does not return: the capacity overflows, the assertion fails without an
empty block, or an element is stored behind the allocated slots. -/
inductive CallFails (emptyBlock : Bool) (vector : XVector Addr) :
    VectorCall Addr → VectorFault → Prop where
  | overflow {made : VectorCall Addr} (large : ¬CapacityFits vector made) :
      CallFails emptyBlock vector made .overflow
  | assertFailed (refused : emptyBlock = false) (elements : vector.size ≠ 0) :
      CallFails emptyBlock vector (.resize 0) .assertFailed
  | access (element : Option Addr) (full : vector.size = vector.alloc) :
      CallFails emptyBlock vector (.replace vector.size element) .access

theorem call_cases (represents : Represents state view) (made : VectorCall Addr) :
    (∃ after reply, intCall emptyBlock state made = .ok (after, reply) ∧
        ∃ view, Represents after view) ∨
      ∃ fault, intCall emptyBlock state made = .error fault ∧
        CallFails emptyBlock state.vector made fault := by
  by_cases fits : CapacityFits state.vector made
  · have unbounded : intCall emptyBlock state made = vectorCall emptyBlock state made :=
      if_pos fits
    rw [unbounded]
    have refined (allowed : VectorAllowed emptyBlock view made) :
        ∃ after reply, vectorCall emptyBlock state made = .ok (after, reply) ∧
          ∃ view, Represents after view := by
      rcases vectorCall_refines represents allowed with ⟨after, ran, kept⟩
      exact ⟨after, _, ran, _, kept⟩
    cases made with
    | resize newSize =>
        by_cases zero : newSize = 0 ∧ emptyBlock = false
        · rcases zero with ⟨rfl, rfl⟩
          by_cases empty : state.vector.size = 0
          · left
            rw [vectorCall, iVectorResize, if_pos empty.symm]
            exact ⟨state, 0, rfl, view, represents⟩
          · exact .inr ⟨_, iVectorResize_zero represents empty, .assertFailed rfl empty⟩
        · exact .inl (refined fun isZero => by simpa [isZero] using zero)
    | replace index element =>
        by_cases inside : 0 ≤ index ∧ index < view.slots.length
        · exact .inl (refined inside)
        rw [vectorCall]
        by_cases atEnd : index = state.vector.size
        · subst atEnd
          rw [iVectorReplace_size represents]
          by_cases room : state.vector.size < state.vector.alloc
          · rw [if_pos room]
            exact .inl ⟨_, 0, rfl, view, represents.stored_size element⟩
          · rw [if_neg room]
            have full := represents.size_le_alloc
            exact .inr ⟨_, rfl, .access element (by omega)⟩
        · have size := represents.size
          rw [iVectorReplace_outside represents (by omega)]
          exact .inl ⟨state, -1, rfl, view, represents⟩
    | _ => exact .inl (refined trivial)
  · exact .inr ⟨_, if_neg fits, .overflow fits⟩

theorem Reachable.exists_represents (reachable : Reachable emptyBlock state) :
    ∃ view, Represents state view := by
  rcases reachable with ⟨growth, fnew, fdestroy, calls, replies, ran⟩
  have step (middle : VectorState Addr) (made : VectorCall Addr) (after : VectorState Addr)
      (reply : ℤ) : (∃ view, Represents middle view) →
        intCall emptyBlock middle made = .ok (after, reply) → ∃ view, Represents after view := by
    rintro ⟨view, represents⟩ called
    rcases call_cases represents made with ⟨next, reply', ran, kept⟩ | ⟨fault, ran, -⟩
    · rw [ran] at called
      cases called
      exact kept
    · rw [ran] at called
      cases called
  exact run_keeps step ⟨_, represents_init growth fnew fdestroy⟩ ran

/-- A vector that is full. -/
def threeElements : VectorState ℕ :=
  ⟨⟨some [.holds (some 7), .holds (some 8), .holds (some 9)], 3, 3, 1, none, false, none, none⟩, []⟩

theorem reachable_threeElements : Reachable false threeElements :=
  ⟨1, none, false, [.append (some 7), .append (some 8), .append (some 9)], [0, 0, 0], rfl⟩

end Sysio.Vector
