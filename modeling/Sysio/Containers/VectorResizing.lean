import Sysio.Containers.VectorRuns

/-!
# Resizing a vector

What `iVectorResize` is documented to do, and for which sizes it does: not where the block would
be empty, since `realloc` gives none for it, and not where the capacity is no `int`.
-/

namespace Sysio.Vector

open Block Refinement

variable {Addr : Type} {state : VectorState Addr} {view : VectorView Addr}

/-- The vector has the new size: what fits is kept, the elements behind it are destroyed from the
last one on, and the new slots hold what `fnew` gives. -/
structure Resized (state : VectorState Addr) (newSize : ℤ) (after : VectorState Addr) : Prop where
  size : after.vector.size = newSize
  alloc : newSize ≤ after.vector.alloc
  allocated : after.vector.block.length = after.vector.alloc
  slots : after.vector.slots = state.vector.slots.take newSize.toNat ++
    newElmts state.vector.fnew (created state.events) (newSize - state.vector.size).toNat
  events : after.events = state.events ++
    destroyedEvents state.vector.fdestroy state.vector.slots newSize.toNat ++
    createdEvents state.vector.fnew (created state.events) (newSize - state.vector.size).toNat

/-- `iVectorResize` where `realloc` to no bytes gives no block. -/
def ResizeTotal (state : VectorState Addr) (newSize : ℤ) : Prop :=
  (0 ≤ newSize → ∃ after, intCall false state (.resize newSize) = .ok (after, 0) ∧
    Resized state newSize after) ∧
  (newSize < 0 → intCall false state (.resize newSize) = .ok (state, -1))

/-- The capacity is the first multiple of the growth that is large enough. -/
theorem newAlloc_le_iff {newSize growth bound : ℤ} (positive : 0 ≤ newSize) (grows : 1 ≤ growth) :
    newAlloc newSize growth ≤ bound ↔
      ∃ blocks : ℤ, newSize ≤ blocks * growth ∧ blocks * growth ≤ bound := by
  rcases newAlloc_spec positive grows with ⟨enough, tight, blocks, isBlocks⟩
  constructor
  · exact fun fits => ⟨blocks, isBlocks ▸ enough, isBlocks ▸ fits⟩
  · rintro ⟨more, fits, small⟩
    have next : blocks * growth < (more + 1) * growth := by
      rw [← isBlocks, Int.add_mul, Int.one_mul]
      omega
    have fewer : blocks < more + 1 := Int.lt_of_mul_lt_mul_right next (by omega)
    have below := Int.mul_le_mul_of_nonneg_right (Int.le_of_lt_add_one fewer)
      (show 0 ≤ growth by omega)
    rw [isBlocks]
    exact Int.le_trans below small

theorem resized_same (represents : Represents state view) :
    ∃ after, intCall false state (.resize state.vector.size) = .ok (after, 0) ∧
      Resized state state.vector.size after := by
  have length := represents.length_slots
  refine ⟨state, ?_, rfl, represents.size_le_alloc, represents.allocated, ?_, ?_⟩
  · rw [intCall, if_pos (.inl rfl), vectorCall, iVectorResize, if_pos rfl]
    rfl
  · rw [length, Int.toNat_natCast, List.take_length, Int.sub_self]
    simp
  · rw [length, Int.toNat_natCast, Int.sub_self]
    simp [destroyedEvents, createdEvents]

theorem resized_of_fits (represents : Represents state view) {newSize : ℤ} (positive : 0 < newSize)
    (fits : CapacityFits state.vector (.resize newSize)) :
    ∃ after, intCall false state (.resize newSize) = .ok (after, 0) ∧
      Resized state newSize after := by
  have same : (newSize.toNat : ℤ) = newSize := by omega
  have size := represents.size
  have slots := represents.slots_eq
  rcases iVectorResize_eq false represents newSize.toNat (fun zero => by omega) with
    ⟨after, resized, kept, events, -⟩
  have more : (newSize - state.vector.size).toNat = newSize.toNat - view.slots.length := by omega
  have newLength : after.vector.size = newSize := by
    rw [kept.size, VectorView.resize, List.length_append, List.length_take, length_newElmts]
    omega
  rw [same] at resized
  refine ⟨after, ?_, newLength, ?_, kept.allocated, ?_, ?_⟩
  · rw [intCall, if_pos fits, vectorCall, resized]
  · rw [← newLength]
    exact kept.size_le_alloc
  · rw [kept.slots_eq, slots, more, represents.fnew, represents.created]
    rfl
  · rw [events, slots, more, represents.fnew, represents.created]

/-- The new size is negative, nothing changes, or it is neither zero nor so large that there is no
capacity for it. -/
theorem resizeTotal_iff (reachable : Reachable false state) (newSize : ℤ) :
    ResizeTotal state newSize ↔
      newSize < 0 ∨ newSize = state.vector.size ∨
        (newSize ≠ 0 ∧ ∃ blocks : ℤ, newSize ≤ blocks * state.vector.growth ∧
          blocks * state.vector.growth ≤ intMax) := by
  rcases reachable.exists_represents with ⟨view, represents⟩
  have nonneg := represents.observed.bounds.1
  constructor
  · rintro ⟨total, -⟩
    by_cases negative : newSize < 0
    · exact .inl negative
    by_cases same : newSize = state.vector.size
    · exact .inr (.inl same)
    rcases total (by omega) with ⟨after, called, -⟩
    rw [intCall] at called
    split at called
    · rename_i fits
      refine .inr (.inr ⟨?_, (newAlloc_le_iff (by omega) represents.growth).mp ?_⟩)
      · rintro rfl
        rw [vectorCall, iVectorResize_zero represents (Ne.symm same)] at called
        cases called
      · exact (fits.resolve_left same).resolve_left negative
    · cases called
  · intro condition
    refine ⟨fun positive => ?_, fun negative => ?_⟩
    · rcases condition with negative | rfl | ⟨nonzero, room⟩
      · exact absurd positive (Int.not_le.mpr negative)
      · exact resized_same represents
      · have fits := (newAlloc_le_iff positive represents.growth).mpr room
        exact resized_of_fits represents (by omega) (.inr (.inr fits))
    · have other : newSize ≠ state.vector.size := by omega
      rw [intCall, if_pos (.inr (.inl negative)), vectorCall, iVectorResize, if_neg other,
        if_neg (by omega)]
      rfl

theorem resizeTotal_shrunk : ResizeTotal threeElements 1 :=
  (resizeTotal_iff reachable_threeElements 1).mpr (.inr (.inr ⟨by decide, 1, by decide, by decide⟩))

/-- Resizing to nothing fails the assertion, and the capacity for a large size overflows. -/
theorem not_resizeTotal_zero :
    (Reachable false threeElements ∧
        intCall false threeElements (.resize 0) = .error .assertFailed) ∧
      ¬ResizeTotal threeElements 0 ∧
      ¬ResizeTotal (⟨iVectorInit 1073741824 none false, []⟩ : VectorState ℕ) 1073741825 := by
  refine ⟨⟨reachable_threeElements, rfl⟩, fun total => ?_, fun total => ?_⟩
  · rcases total.1 (by decide) with ⟨after, called, -⟩
    cases called
  · rcases total.1 (by decide) with ⟨after, called, -⟩
    cases called

end Sysio.Vector
