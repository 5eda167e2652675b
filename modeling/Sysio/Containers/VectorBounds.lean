import Sysio.Containers.VectorRuns

/-!
# The indexes of a vector

What the operations with an index do outside the elements, which of them leave the allocated
slots, and what `iVectorRemove` gives to `memcpy`. `iVectorReplace` takes the size itself for an
index, and the two ranges of a move have all but one of their slots in common.
-/

namespace Sysio.Vector

open Block Refinement

variable {Addr : Type} {emptyBlock : Bool} {state : VectorState Addr} {view : VectorView Addr}

/-- No element has this index. -/
def OutsideSize (vector : XVector Addr) (index : ℤ) : Prop := index < 0 ∨ index ≥ vector.size

/-- Outside the elements the index is refused and nothing changes, inside it is not. -/
structure IndexHandled (emptyBlock : Bool) (state : VectorState Addr) (index : ℤ)
    (element : Option Addr) : Prop where
  get : ∃ slot, pvVectorGet state.vector index = .ok slot ∧
    (OutsideSize state.vector index → slot = none) ∧
    (¬OutsideSize state.vector index → getData state.vector index = .ok slot)
  replace : (OutsideSize state.vector index →
      iVectorReplace state index element = .ok (state, -1)) ∧
    (¬OutsideSize state.vector index →
      ∃ after, iVectorReplace state index element = .ok (after, 0))
  remove : (OutsideSize state.vector index →
      iVectorRemove emptyBlock state index = .ok (state, -1)) ∧
    (¬OutsideSize state.vector index →
      ∃ after, iVectorRemove emptyBlock state index = .ok (after, 0))

/-- Every use that is made of a vector. -/
inductive VectorUse (Addr : Type) where
  | call (made : VectorCall Addr)
  | get (index : ℤ)
  | findFirst (key : Option Addr)
  | findFirstIndex (key : Option Addr)
  | destroy (malloc : Bool)

/-- The use does not access memory outside of the block. -/
def StaysInside (emptyBlock : Bool) (state : VectorState Addr) : VectorUse Addr → Prop
  | .call made => intCall emptyBlock state made ≠ .error .access
  | .get index => pvVectorGet state.vector index ≠ .error .access
  | .findFirst key => pvVectorFindFirst state key ≠ .error .access
  | .findFirstIndex key => iVectorFindFirstIndex state key ≠ .error .access
  | .destroy malloc => vVectorDestroy malloc state ≠ .error .access

theorem indexHandled_of_ne (represents : Represents state view) {index : ℤ}
    (other : index ≠ state.vector.size) (element : Option Addr) :
    IndexHandled emptyBlock state index element := by
  have size := represents.size
  by_cases outside : OutsideSize state.vector index
  · refine ⟨⟨none, ?_, fun _ => rfl, fun inside => absurd outside inside⟩,
      ⟨fun _ => ?_, fun inside => absurd outside inside⟩,
      ⟨fun _ => ?_, fun inside => absurd outside inside⟩⟩
    · rw [pvVectorGet, if_pos (Or.comm.mp outside)]
    · rw [OutsideSize] at outside
      exact iVectorReplace_outside represents (by omega) element
    · rw [OutsideSize] at outside
      rw [iVectorRemove, if_neg (by omega)]
      rfl
  · have inside := outside
    rw [OutsideSize] at inside
    have within : index.toNat < view.slots.length := by omega
    have same : (index.toNat : ℤ) = index := by omega
    have found := getData_eq represents.holds (List.getElem?_eq_getElem within)
    rcases iVectorReplace_refines represents within element with ⟨replaced, ranReplace, -⟩
    rcases iVectorRemove_eq emptyBlock represents within with ⟨removed, ranRemove, -⟩
    rw [same] at found ranReplace ranRemove
    refine ⟨⟨_, ?_, fun impossible => absurd impossible outside, fun _ => found⟩,
      ⟨fun impossible => absurd impossible outside, fun _ => ⟨replaced, ranReplace⟩⟩,
      ⟨fun impossible => absurd impossible outside, fun _ => ⟨removed, ranRemove⟩⟩⟩
    rw [pvVectorGet, if_neg (by omega), found]

theorem not_indexHandled_size (represents : Represents state view) (element : Option Addr) :
    ¬IndexHandled emptyBlock state state.vector.size element := by
  intro handled
  have refused := handled.replace.1 (.inr (Int.le_refl _))
  rw [iVectorReplace_size represents] at refused
  split at refused
  · have reply := congrArg Prod.snd (Except.ok.inj refused)
    cases reply
  · cases refused

theorem ok_ne_access {Result : Type} (result : Result) :
    (.ok result : Except VectorFault Result) ≠ .error .access := by
  intro same
  cases same

theorem staysInside_call_iff (represents : Represents state view) (made : VectorCall Addr) :
    StaysInside emptyBlock state (.call made) ↔
      ∀ element, made = .replace state.vector.size element →
        state.vector.size < state.vector.alloc := by
  have within := represents.size_le_alloc
  rw [StaysInside]
  constructor
  · rintro inside element rfl
    by_contra full
    have fits : CapacityFits state.vector (.replace state.vector.size element) := trivial
    have stored : intCall emptyBlock state (.replace state.vector.size element) =
        .error .access := by
      rw [intCall, if_pos fits, vectorCall, iVectorReplace_size represents, if_neg full]
    exact inside stored
  · intro room
    rcases call_cases represents made with ⟨after, reply, ran, -⟩ | ⟨fault, ran, fails⟩
    · rw [ran]
      exact ok_ne_access _
    · rw [ran]
      rintro ⟨⟩
      cases fails with
      | access element full =>
          have smaller := room element rfl
          omega

theorem exists_searched (represents : Represents state view) (key : Option Addr) :
    ∃ found, findFirst state key = .ok found := by
  rcases iVectorFindFirstIndex_eq represents.holds represents.size key with
    ⟨events, place, ran, -⟩
  rcases exists_of_bind_eq_ok ran with ⟨found, searched, -⟩
  exact ⟨found, searched⟩

theorem staysInside_iff (represents : Represents state view) (made : VectorUse Addr) :
    StaysInside emptyBlock state made ↔
      ∀ element, made = .call (.replace state.vector.size element) →
        state.vector.size < state.vector.alloc := by
  have other (inside : StaysInside emptyBlock state made)
      (isOther : ∀ element, made ≠ .call (.replace state.vector.size element)) :
      StaysInside emptyBlock state made ↔
        ∀ element, made = .call (.replace state.vector.size element) →
          state.vector.size < state.vector.alloc :=
    ⟨fun _ element same => absurd same (isOther element), fun _ => inside⟩
  cases made with
  | call made =>
      rw [staysInside_call_iff represents made]
      simp only [VectorUse.call.injEq]
  | get index =>
      refine other ?_ (by simp)
      rw [StaysInside, pvVectorGet_eq represents]
      exact ok_ne_access _
  | findFirst key =>
      refine other ?_ (by simp)
      rcases exists_searched represents key with ⟨found, searched⟩
      rw [StaysInside, pvVectorFindFirst, searched]
      exact ok_ne_access _
  | findFirstIndex key =>
      refine other ?_ (by simp)
      rcases exists_searched represents key with ⟨found, searched⟩
      rw [StaysInside, iVectorFindFirstIndex, searched]
      exact ok_ne_access _
  | destroy malloc =>
      refine other ?_ (by simp)
      rcases iVectorClear_refines represents with ⟨after, cleared, -⟩
      rw [StaysInside, vVectorDestroy, cleared]
      cases malloc <;> exact ok_ne_access _

/-- An index that is not the size is handled, no other is, and only storing an element at the
size of a full vector leaves the allocated slots. -/
theorem indexHandled_iff (reachable : Reachable emptyBlock state) :
    (∀ index element, IndexHandled emptyBlock state index element ↔ index ≠ state.vector.size) ∧
      ∀ made, StaysInside emptyBlock state made ↔
        ∀ element, made = .call (.replace state.vector.size element) →
          state.vector.size < state.vector.alloc := by
  rcases reachable.exists_represents with ⟨view, represents⟩
  refine ⟨fun index element => ⟨?_, fun other => indexHandled_of_ne represents other element⟩,
    staysInside_iff represents⟩
  rintro handled rfl
  exact not_indexHandled_size represents element handled

theorem indexHandled_threeElements :
    (∀ index element, IndexHandled false threeElements index element ↔ index ≠ 3) ∧
      ∀ made, StaysInside false threeElements made ↔
        ∀ element, made = .call (.replace 3 element) → (3 : ℤ) < 3 :=
  indexHandled_iff reachable_threeElements

theorem not_indexHandled_threeElements :
    Reachable false threeElements ∧ ¬IndexHandled false threeElements 3 (some 4) ∧
      ¬StaysInside false threeElements (.call (.replace 3 (some 4))) := by
  refine ⟨reachable_threeElements, fun handled => ?_, fun inside => inside rfl⟩
  have refused := handled.replace.1 (.inr (Int.le_refl _))
  cases refused

/-! ### The moves -/

/-- The arguments of a `memcpy`, in slots. -/
structure SlotMove where
  destination : ℤ
  source : ℤ
  count : ℤ
deriving DecidableEq, Repr

/-- What `iVectorRemove` gives to `memcpy` when it calls it. -/
def removeMove (vector : XVector Addr) (index : ℤ) : Option SlotMove :=
  if index < vector.size ∧ index ≥ 0 ∧ vector.size > 1 then
    some ⟨index, index + 1, vector.size - index - 1⟩
  else none

theorem iVectorRemove_moves {index : ℤ} (inside : index < state.vector.size ∧ index ≥ 0) :
    iVectorRemove emptyBlock state index = (do
      let events ← destroyAt state index
      let vector ← (removeMove state.vector index).elim (.ok state.vector) fun move =>
        moveData state.vector move.destination move.source move.count
      return (⟨shrinkData emptyBlock { vector with size := vector.size - 1 }, events⟩, 0)) := by
  rw [iVectorRemove, if_pos inside, removeMove]
  by_cases several : state.vector.size > 1
  · rw [if_pos several, if_pos ⟨inside.1, inside.2, several⟩]
    rfl
  · rw [if_neg several, if_neg fun all => several all.2.2]
    rfl

/-- What the C standard requires of the ranges of `memcpy`, and that they are allocated. -/
structure MoveDefined (vector : XVector Addr) (move : SlotMove) : Prop where
  nonneg : 0 ≤ move.destination ∧ 0 ≤ move.source ∧ 0 ≤ move.count
  destination : move.destination + move.count ≤ vector.block.length
  source : move.source + move.count ≤ vector.block.length
  disjoint : move.destination + move.count ≤ move.source ∨
    move.source + move.count ≤ move.destination

/-- The ranges are apart where at most one element is moved. -/
theorem moveDefined_iff (reachable : Reachable emptyBlock state) {index : ℤ} {move : SlotMove}
    (moves : removeMove state.vector index = some move) :
    MoveDefined state.vector move ↔ state.vector.size ≤ index + 2 := by
  rcases reachable.exists_represents with ⟨view, represents⟩
  have within := represents.size_le_alloc
  have allocated := represents.allocated
  rw [removeMove] at moves
  split at moves
  · rename_i inside
    cases moves
    constructor
    · rintro ⟨-, -, -, disjoint⟩
      simp only at disjoint
      omega
    · intro last
      refine ⟨⟨?_, ?_, ?_⟩, ?_, ?_, .inl ?_⟩ <;> simp only <;> omega
  · cases moves

theorem moveDefined_lastTwo :
    MoveDefined threeElements.vector ⟨1, 2, 1⟩ ↔ (3 : ℤ) ≤ 1 + 2 :=
  @moveDefined_iff _ false threeElements reachable_threeElements 1 ⟨1, 2, 1⟩ rfl

theorem not_moveDefined_first :
    Reachable false threeElements ∧
      removeMove threeElements.vector 0 = some ⟨0, 1, 2⟩ ∧
      ¬MoveDefined threeElements.vector ⟨0, 1, 2⟩ := by
  refine ⟨reachable_threeElements, rfl, fun defined => ?_⟩
  have disjoint := defined.disjoint
  simp only at disjoint
  omega

end Sysio.Vector
