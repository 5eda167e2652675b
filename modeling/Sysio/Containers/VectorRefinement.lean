import Mathlib.Data.List.ReduceOption
import Sysio.Containers.Vector

/-!
# The vector is a list of slots

What a vector is for: a list of pointers that grows with new elements, shrinks and is changed at
an index. `Represents` relates a vector to its list; every operation with an index in bounds
returns and keeps the relation (`vectorCall_refines`), and so does every run.
-/

namespace Sysio.Vector

open Block Refinement

variable {Addr : Type}

/-- The pointers of a vector. -/
structure VectorView (Addr : Type) where
  slots : List (Option Addr)
  fnew : Option (ℕ → Option Addr)
  /-- How often `fnew` has been called. -/
  created : ℕ

/-- The slots of the block, none if there is no block. -/
def XVector.block (vector : XVector Addr) : List (Slot (Option Addr)) := vector.data.getD []

/-- The block has the pointers of the view in its first slots. -/
structure Represents (state : VectorState Addr) (view : VectorView Addr) : Prop where
  holds : Holds state.vector.block view.slots
  allocated : state.vector.block.length = state.vector.alloc
  size : state.vector.size = view.slots.length
  growth : 1 ≤ state.vector.growth
  fnew : state.vector.fnew = view.fnew
  created : created state.events = view.created

/-- The next elements when `fnew` has been called `made` times, `NULL` without it. -/
def newElmts (fnew : Option (ℕ → Option Addr)) (made count : ℕ) : List (Option Addr) :=
  (List.range count).map fun index => fnew.bind fun fnew => fnew (made + index)

/-- The view at another size. -/
def VectorView.resize (view : VectorView Addr) (newSize : ℕ) : VectorView Addr where
  slots := view.slots.take newSize ++
    newElmts view.fnew view.created (newSize - view.slots.length)
  fnew := view.fnew
  created := view.created + if view.fnew.isSome then newSize - view.slots.length else 0

/-- What each operation does to the list, and its answer. -/
def vectorSpec (view : VectorView Addr) : VectorCall Addr → VectorView Addr × ℤ
  | .resize newSize =>
      if newSize < 0 then (view, -1) else (view.resize newSize.toNat, 0)
  | .append element =>
      ({ view.resize (view.slots.length + 1) with slots := view.slots ++ [element] }, 0)
  | .remove index =>
      if 0 ≤ index ∧ index < view.slots.length then
        ({ view with slots := view.slots.eraseIdx index.toNat }, 0)
      else (view, -1)
  | .replace index element =>
      if 0 ≤ index ∧ index < view.slots.length then
        ({ view with slots := view.slots.set index.toNat element }, 0)
      else (view, -1)
  | .initSearch _ _ => (view, 0)
  | .clear => ({ view with slots := [] }, 0)

/-- The vector is resized to nothing only where `realloc` then gives an empty block, and an
element is replaced at an index in bounds. -/
def VectorAllowed (emptyBlock : Bool) (view : VectorView Addr) : VectorCall Addr → Prop
  | .resize newSize => newSize = 0 → emptyBlock = true
  | .replace index _ => 0 ≤ index ∧ index < view.slots.length
  | .append _ | .remove _ | .initSearch _ _ | .clear => True

theorem getData_eq {vector : XVector Addr} {slots : List (Option Addr)}
    (holds : Holds vector.block slots) {index : ℕ} {element : Option Addr}
    (found : slots[index]? = some element) : getData vector index = .ok element := by
  have kept := holds.read found
  rw [XVector.block] at kept
  cases isData : vector.data with
  | none =>
      rw [isData] at kept
      simp [Block.read] at kept
  | some block =>
      rw [isData, Option.getD_some] at kept
      simp [getData, isData, kept]

/-- The vector with another block. -/
def XVector.withData (vector : XVector Addr) (data : Option (List (Slot (Option Addr)))) :
    XVector Addr :=
  { vector with data }

/-- The vectors have the same growth and functions. -/
def XVector.Kin (vector after : XVector Addr) : Prop :=
  ∃ data size alloc, after = { vector with data, size, alloc }

/-- The vector after a slot of its block is set. -/
def XVector.stored (vector : XVector Addr) (index : ℕ) (element : Option Addr) : XVector Addr :=
  vector.withData (some (vector.block.set index (.holds element)))

theorem setData_eq {vector : XVector Addr} {index : ℕ} (inside : index < vector.block.length)
    (element : Option Addr) : setData vector index element = .ok (vector.stored index element) := by
  rw [XVector.stored, XVector.withData]
  rw [XVector.block] at inside ⊢
  cases isData : vector.data with
  | none =>
      rw [isData] at inside
      simp at inside
  | some block =>
      rw [isData, Option.getD_some] at inside
      simp [setData, isData, write_eq inside]

@[simp]
theorem block_stored (vector : XVector Addr) (index : ℕ) (element : Option Addr) :
    (vector.stored index element).block = vector.block.set index (.holds element) := rfl

@[simp]
theorem withData_stored (vector : XVector Addr) (index : ℕ) (element : Option Addr)
    (data : Option (List (Slot (Option Addr)))) :
    (vector.stored index element).withData data = vector.withData data := rfl

@[simp]
theorem stored_fnew (vector : XVector Addr) (index : ℕ) (element : Option Addr) :
    (vector.stored index element).fnew = vector.fnew := rfl

theorem created_append (events more : List (VectorEvent Addr)) :
    created (events ++ more) = created events + created more := List.countP_append

/-- The loop of `iVectorResize` over the excess: the elements are destroyed from the last on. -/
theorem destroyExcess_eq {slots : List (Option Addr)} (newSize count : ℕ)
    {state : VectorState Addr} (holds : Holds state.vector.block slots)
    (bound : newSize + count ≤ slots.length) :
    ∃ data, destroyExcess newSize count state =
        .ok ⟨state.vector.withData data,
          state.events ++ (((slots.drop newSize).take count).reduceOption.reverse.map
            VectorEvent.destroyed)⟩ ∧
      (data.getD []).length = state.vector.block.length ∧
      Holds (data.getD [])
        (slots.take newSize ++ List.replicate count none ++ slots.drop (newSize + count)) := by
  induction count generalizing slots state with
  | zero =>
      refine ⟨state.vector.data, ?_, rfl, ?_⟩
      · rw [List.take_zero, List.reduceOption_nil, List.reverse_nil, List.map_nil,
          List.append_nil]
        rfl
      · simpa [XVector.block] using holds
  | succ count ih =>
      have inside : newSize + count < slots.length := by omega
      have found := List.getElem?_eq_getElem inside
      have read := getData_eq holds found
      push_cast at read
      rw [destroyExcess, read]
      have dropped : slots.drop (newSize + count) =
          slots[newSize + count] :: slots.drop (newSize + count + 1) :=
        List.drop_eq_getElem_cons inside
      have excess : (slots.drop newSize).take (count + 1) =
          (slots.drop newSize).take count ++ [slots[newSize + count]] := by
        rw [List.take_add_one, List.getElem?_drop, found]
        rfl
      have grown (rest : List (Option Addr)) : slots.take newSize ++
          List.replicate (count + 1) none ++ rest =
            slots.take newSize ++ List.replicate count none ++ none :: rest := by
        rw [List.replicate_succ']
        simp
      rw [excess, grown]
      rcases isElement : slots[newSize + count] with _ | element
      · rcases ih holds (by omega) with ⟨data, ran, length, kept⟩
        refine ⟨data, ?_, length, ?_⟩
        · change destroyExcess newSize count state = _
          rw [ran]
          simp [List.reduceOption_append]
        · rwa [dropped, isElement] at kept
      · have room := Nat.lt_of_lt_of_le inside holds.length_le
        have stored := setData_eq room none
        push_cast at stored
        have holdsStored := holds.set (newSize + count) none
        rcases @ih _ ⟨state.vector.stored (newSize + count) none,
            state.events ++ [.destroyed element]⟩ holdsStored
          (by rw [List.length_set]; omega) with ⟨data, ran, length, kept⟩
        refine ⟨data, ?_, ?_, ?_⟩
        · change (setData state.vector _ none >>= fun vector => _) = _
          rw [stored]
          change destroyExcess newSize count _ = _
          rw [ran, List.drop_set, if_neg (by omega), Nat.add_sub_cancel_left,
            List.take_set_of_le (Nat.le_refl count)]
          simp [List.reduceOption_append]
        · rw [length, block_stored, List.length_set]
        · rw [List.take_set_of_le (by omega), List.drop_set, if_neg (by omega), Nat.sub_self,
            dropped, List.set_cons_zero] at kept
          exact kept

@[simp]
theorem newElmts_zero (fnew : Option (ℕ → Option Addr)) (made : ℕ) :
    newElmts fnew made 0 = [] := rfl

theorem newElmts_succ (fnew : Option (ℕ → Option Addr)) (made count : ℕ) :
    newElmts fnew made (count + 1) =
      (fnew.bind fun fnew => fnew made) :: newElmts fnew (made + 1) count := by
  rw [newElmts, newElmts, List.range_succ_eq_map, List.map_cons, List.map_map]
  congr 1
  refine List.map_congr_left fun index _ => ?_
  have order : made + (index + 1) = made + 1 + index := by omega
  simp only [Function.comp_apply, order]

theorem newElmts_made (fnew : Option (ℕ → Option Addr)) (made count : ℕ) :
    newElmts fnew (made + if fnew.isSome then 1 else 0) count = newElmts fnew (made + 1) count := by
  cases fnew with
  | none => rfl
  | some fnew => rfl

@[simp]
theorem length_newElmts (fnew : Option (ℕ → Option Addr)) (made count : ℕ) :
    (newElmts fnew made count).length = count := by
  simp [newElmts]

/-- The calls of `fnew` that give these elements. -/
def createdEvents (fnew : Option (ℕ → Option Addr)) (made count : ℕ) :
    List (VectorEvent Addr) :=
  if fnew.isSome then (newElmts fnew made count).map .created else []

theorem createdEvents_succ (fnew : Option (ℕ → Option Addr)) (made count : ℕ) :
    createdEvents fnew made (count + 1) =
      createdEvents fnew made 1 ++ createdEvents fnew (made + 1) count := by
  cases fnew with
  | none => rfl
  | some fnew =>
      simp only [createdEvents, Option.isSome_some, if_true, newElmts_succ, newElmts_zero,
        List.map_cons, List.map_nil, List.singleton_append]

theorem createdEvents_made (fnew : Option (ℕ → Option Addr)) (made count : ℕ) :
    createdEvents fnew (made + if fnew.isSome then 1 else 0) count =
      createdEvents fnew (made + 1) count := by
  cases fnew with
  | none => rfl
  | some fnew => rfl

theorem created_createdEvents (fnew : Option (ℕ → Option Addr)) (made count : ℕ) :
    created (createdEvents fnew made count) = if fnew.isSome then count else 0 := by
  cases fnew with
  | none => rfl
  | some fnew =>
      have allCreated : ∀ event ∈ createdEvents (some fnew) made count,
          VectorEvent.isCreated event = true := by
        intro event eventMem
        simp only [createdEvents, Option.isSome_some, if_true, List.mem_map] at eventMem
        rcases eventMem with ⟨element, -, rfl⟩
        rfl
      rw [created, List.countP_eq_length.mpr allCreated]
      simp [createdEvents]

theorem initElmts_succ (count : ℕ) (index : ℤ) (state : VectorState Addr) :
    initElmts (count + 1) index state =
      (setData state.vector index
        (state.vector.fnew.bind fun fnew => fnew (created state.events)) >>= fun vector =>
          initElmts count (index + 1)
            ⟨vector, state.events ++
              createdEvents state.vector.fnew (created state.events) 1⟩) := by
  rw [initElmts]
  cases state.vector.fnew with
  | none => simp [createdEvents]
  | some fnew => simp [createdEvents, newElmts]

/-- The loop of `iVectorResize` that makes the new elements. -/
theorem initElmts_eq {slots : List (Option Addr)} (count : ℕ) {state : VectorState Addr}
    (holds : Holds state.vector.block slots)
    (room : slots.length + count ≤ state.vector.block.length) :
    ∃ data, initElmts count slots.length state =
        .ok ⟨state.vector.withData data,
          state.events ++ createdEvents state.vector.fnew (created state.events) count⟩ ∧
      (data.getD []).length = state.vector.block.length ∧
      Holds (data.getD [])
        (slots ++ newElmts state.vector.fnew (created state.events) count) := by
  induction count generalizing slots state with
  | zero =>
      refine ⟨state.vector.data, ?_, rfl, ?_⟩
      · have noEvents : createdEvents state.vector.fnew (created state.events) 0 = [] := by
          simp [createdEvents, newElmts]
        rw [noEvents, List.append_nil]
        rfl
      · simpa [XVector.block, newElmts] using holds
  | succ count ih =>
      have inside : slots.length < state.vector.block.length := by omega
      rw [createdEvents_succ, initElmts_succ, setData_eq inside, newElmts_succ]
      generalize isFirst : (state.vector.fnew.bind fun fnew => fnew (created state.events)) =
        element
      have pushed := holds.push inside element
      rcases @ih (slots ++ [element]) ⟨state.vector.stored slots.length element,
          state.events ++ createdEvents state.vector.fnew (created state.events) 1⟩ pushed
        (by simp; omega) with ⟨data, ran, length, kept⟩
      have length_eq : ((slots ++ [element]).length : ℤ) = slots.length + 1 := by simp
      rw [created_append, created_createdEvents] at ran kept
      rw [length_eq] at ran
      refine ⟨data, ?_, ?_, ?_⟩
      · change initElmts count _ _ = _
        rw [ran, stored_fnew, createdEvents_made, List.append_assoc, withData_stored]
      · rw [length, block_stored, List.length_set]
      · rw [stored_fnew, newElmts_made, List.append_assoc] at kept
        exact kept

/-- The capacity is the multiple of the growth between the size and one growth more. -/
theorem newAlloc_spec {newSize growth : ℤ} (positive : 0 ≤ newSize) (grows : 1 ≤ growth) :
    newSize ≤ newAlloc newSize growth ∧ newAlloc newSize growth < newSize + growth ∧
      ∃ blocks : ℤ, newAlloc newSize growth = blocks * growth := by
  have division := Int.mul_ediv_add_emod newSize growth
  have small := Int.emod_lt_of_pos newSize (show 0 < growth by omega)
  have remainder := Int.emod_nonneg newSize (show growth ≠ 0 by omega)
  have quotient : newSize.tdiv growth * growth = growth * (newSize / growth) := by
    rw [Int.tdiv_eq_ediv_of_nonneg positive, Int.mul_comm]
  rw [newAlloc]
  by_cases more : newSize - newSize.tdiv growth * growth > 0
  · rw [if_pos more]
    exact ⟨by omega, by omega, newSize.tdiv growth + 1, by rw [Int.add_mul, Int.one_mul]⟩
  · rw [if_neg more]
    exact ⟨by omega, by omega, newSize.tdiv growth, rfl⟩

theorem le_newAlloc {newSize growth : ℤ} (positive : 0 ≤ newSize) (grows : 1 ≤ growth) :
    newSize ≤ newAlloc newSize growth ∧ (newAlloc newSize growth = 0 → newSize = 0) := by
  rcases newAlloc_spec positive grows with ⟨fits, -, -⟩
  omega

/-- The calls of the destroy function on the elements beyond a size. -/
def destroyedEvents (fdestroy : Bool) (slots : List (Option Addr)) (newSize : ℕ) :
    List (VectorEvent Addr) :=
  if fdestroy then (slots.drop newSize).reduceOption.reverse.map .destroyed else []

theorem created_destroyedEvents (fdestroy : Bool) (slots : List (Option Addr)) (newSize : ℕ) :
    created (destroyedEvents fdestroy slots newSize) = 0 := by
  cases fdestroy with
  | false => rfl
  | true => simp [created, destroyedEvents, VectorEvent.isCreated, Function.comp_def]

/-- The first phase of `iVectorResize`: what is kept is in place. -/
theorem exists_destroyed {state : VectorState Addr} {view : VectorView Addr}
    (represents : Represents state view) (newSize : ℕ) :
    ∃ data, (if state.vector.fdestroy then
          destroyExcess newSize (state.vector.size - newSize).toNat state
        else .ok state) =
        .ok ⟨state.vector.withData data,
          state.events ++ destroyedEvents state.vector.fdestroy view.slots newSize⟩ ∧
      (data.getD []).length = state.vector.block.length ∧
      Holds (data.getD []) (view.slots.take newSize) := by
  cases isDestroy : state.vector.fdestroy with
  | false =>
      refine ⟨state.vector.data, ?_, rfl, represents.holds.take newSize⟩
      rw [if_neg (by simp), destroyedEvents, if_neg (by simp), List.append_nil]
      rfl
  | true =>
      have count : (state.vector.size - newSize).toNat = view.slots.length - newSize := by
        rw [represents.size]
        omega
      by_cases shrinks : newSize ≤ view.slots.length
      · rcases destroyExcess_eq newSize (view.slots.length - newSize) represents.holds
          (by omega) with ⟨data, ran, length, kept⟩
        refine ⟨data, ?_, length, ?_⟩
        · rw [if_pos rfl, count, ran, destroyedEvents, if_pos rfl,
            List.take_of_length_le (by simp)]
        · have kept := kept.take newSize
          rwa [List.append_assoc, List.take_append_of_le_length (by simp; omega),
            List.take_take, Nat.min_self] at kept
      · have nothing : view.slots.length - newSize = 0 := by omega
        refine ⟨state.vector.data, ?_, rfl, represents.holds.take newSize⟩
        rw [if_pos rfl, count, nothing, destroyedEvents, if_pos rfl,
          List.drop_eq_nil_of_le (by omega)]
        simp [destroyExcess, XVector.withData]

/-- The second phase of `iVectorResize`: the block has the new capacity. -/
theorem exists_reallocated {emptyBlock : Bool} {vector : XVector Addr}
    {slots : List (Option Addr)} (holds : Holds vector.block slots)
    (allocated : vector.block.length = vector.alloc) {alloc : ℤ}
    (fits : slots.length ≤ alloc) (nonempty : alloc = 0 → emptyBlock = true) :
    ∃ data, setAlloc emptyBlock vector alloc = .ok { vector with alloc, data } ∧
      ((data.getD []).length : ℤ) = alloc ∧ Holds (data.getD []) slots := by
  by_cases same : alloc = vector.alloc
  · refine ⟨vector.data, ?_, ?_, holds⟩
    · rw [setAlloc, if_neg (not_not.mpr same), same]
    · rw [same, ← allocated, XVector.block]
  · have granted : ¬(alloc = 0 ∧ emptyBlock = false) := by
      rintro ⟨zero, failed⟩
      rw [nonempty zero] at failed
      cases failed
    refine ⟨some (resize vector.block alloc.toNat), ?_, ?_, ?_⟩
    · rw [setAlloc, if_pos same, reallocData, if_neg granted]
      rfl
    · rw [Option.getD_some, length_resize]
      omega
    · exact holds.resize (by omega)

/-- The third phase of `iVectorResize`: the new elements follow what is kept. -/
theorem exists_initialised {state : VectorState Addr} {slots : List (Option Addr)}
    {newSize : ℕ} (holds : Holds state.vector.block (slots.take newSize))
    (room : newSize ≤ state.vector.block.length) :
    ∃ data, initElmts (newSize - slots.length) slots.length state =
        .ok ⟨state.vector.withData data,
          state.events ++ createdEvents state.vector.fnew (created state.events)
            (newSize - slots.length)⟩ ∧
      (data.getD []).length = state.vector.block.length ∧
      Holds (data.getD []) (slots.take newSize ++
        newElmts state.vector.fnew (created state.events) (newSize - slots.length)) := by
  by_cases grows : slots.length < newSize
  · rw [List.take_of_length_le (by omega)] at holds ⊢
    exact initElmts_eq (newSize - slots.length) holds (by omega)
  · have nothing : newSize - slots.length = 0 := by omega
    rw [nothing]
    refine ⟨state.vector.data, ?_, rfl, ?_⟩
    · simp [initElmts, createdEvents, XVector.withData]
    · simpa [XVector.block] using holds

theorem VectorView.resize_length (view : VectorView Addr) :
    view.resize view.slots.length = view := by
  rcases view with ⟨slots, fnew, made⟩
  simp [VectorView.resize]

/-- `iVectorResize` keeps what fits, destroys the rest from the last element on and makes the new
elements. -/
theorem iVectorResize_eq (emptyBlock : Bool) {state : VectorState Addr} {view : VectorView Addr}
    (represents : Represents state view) (newSize : ℕ)
    (nonempty : newSize = 0 → emptyBlock = true) :
    ∃ after, iVectorResize emptyBlock state newSize = .ok (after, 0) ∧
      Represents after (view.resize newSize) ∧
      after.events = state.events ++
        destroyedEvents state.vector.fdestroy view.slots newSize ++
        createdEvents view.fnew view.created (newSize - view.slots.length) ∧
      state.vector.Kin after.vector := by
  by_cases same : newSize = view.slots.length
  · subst same
    refine ⟨state, ?_, ?_, ?_, state.vector.data, state.vector.size, state.vector.alloc, rfl⟩
    · rw [iVectorResize, if_pos represents.size.symm]
      rfl
    · rwa [VectorView.resize_length]
    · simp [destroyedEvents, createdEvents]
  have other : (newSize : ℤ) ≠ state.vector.size := by
    rw [represents.size]
    omega
  have positive : (0 : ℤ) ≤ newSize := by omega
  rcases le_newAlloc positive represents.growth with ⟨fits, zero⟩
  rcases exists_destroyed represents newSize with ⟨data, destroyed, length, kept⟩
  have allocated : ((state.vector.withData data).block.length : ℤ) =
      (state.vector.withData data).alloc := by
    change ((data.getD []).length : ℤ) = state.vector.alloc
    rw [length, represents.allocated]
  have keptHere : Holds (state.vector.withData data).block (view.slots.take newSize) := kept
  have room : ((view.slots.take newSize).length : ℤ) ≤ newAlloc newSize state.vector.growth := by
    rw [List.length_take]
    omega
  rcases exists_reallocated keptHere allocated room
    (fun isZero => nonempty (Int.natCast_eq_zero.mp (zero isZero))) with
    ⟨reallocated, realloc, capacity, keptThere⟩
  have madeEq : created (state.events ++
      destroyedEvents state.vector.fdestroy view.slots newSize) = view.created := by
    rw [created_append, created_destroyedEvents, Nat.add_zero, represents.created]
  rcases @exists_initialised _ ⟨{ state.vector.withData data with
      alloc := newAlloc newSize state.vector.growth, data := reallocated },
      state.events ++ destroyedEvents state.vector.fdestroy view.slots newSize⟩ view.slots newSize
    keptThere (by change newSize ≤ (reallocated.getD []).length; omega) with
    ⟨final, initialised, finalLength, finalHolds⟩
  rw [madeEq] at initialised finalHolds
  change Holds _ (_ ++ newElmts state.vector.fnew _ _) at finalHolds
  refine ⟨⟨{ state.vector with
      data := final, alloc := newAlloc newSize state.vector.growth, size := newSize },
      state.events ++ destroyedEvents state.vector.fdestroy view.slots newSize ++
        createdEvents state.vector.fnew view.created (newSize - view.slots.length)⟩, ?_, ?_, ?_,
    final, newSize, newAlloc newSize state.vector.growth, rfl⟩
  · rw [iVectorResize, if_neg other, if_pos (by omega), destroyed]
    change (setAlloc emptyBlock (state.vector.withData data) _ >>= fun vector => _) = _
    rw [realloc]
    have count : ((newSize : ℤ) - state.vector.size).toNat = newSize - view.slots.length := by
      rw [represents.size]
      omega
    change (initElmts ((newSize : ℤ) - state.vector.size).toNat state.vector.size _ >>=
      fun state => _) = _
    rw [count, represents.size, initialised]
    rfl
  · refine ⟨?_, ?_, ?_, represents.growth, represents.fnew, ?_⟩
    · rw [VectorView.resize, ← represents.fnew]
      exact finalHolds
    · change ((final.getD []).length : ℤ) = _
      rw [finalLength]
      exact capacity
    · change (newSize : ℤ) = _
      rw [VectorView.resize, List.length_append, List.length_take, length_newElmts]
      omega
    · rw [created_append, madeEq, created_createdEvents, represents.fnew]
      rfl
  · rw [represents.fnew]

/-- The call returns what the specification says, and leaves its view. -/
def Refines (done : Except VectorFault (VectorState Addr × ℤ)) (spec : VectorView Addr × ℤ) :
    Prop :=
  ∃ after, done = .ok (after, spec.2) ∧ Represents after spec.1

/-- `iVectorAppend` makes a new element and puts the one that is appended in its place. -/
theorem iVectorAppend_eq (emptyBlock : Bool) {state : VectorState Addr} {view : VectorView Addr}
    (represents : Represents state view) (element : Option Addr) :
    ∃ after, iVectorAppend emptyBlock state element = .ok (after, 0) ∧
      Represents after
        { view.resize (view.slots.length + 1) with slots := view.slots ++ [element] } ∧
      after.events = state.events ++ createdEvents view.fnew view.created 1 ∧
      state.vector.Kin after.vector := by
  rcases iVectorResize_eq emptyBlock represents (view.slots.length + 1) (fun zero => nomatch zero)
    with ⟨grown, resized, kept, events, data, size, alloc, kin⟩
  have newSize : state.vector.size + 1 = ((view.slots.length + 1 : ℕ) : ℤ) := by
    rw [represents.size]
    rfl
  have slots : (view.resize (view.slots.length + 1)).slots.length = view.slots.length + 1 := by
    simp [VectorView.resize]
  have room : view.slots.length < grown.vector.block.length := by
    have longer := kept.holds.length_le
    omega
  have atEnd : grown.vector.size - 1 = (view.slots.length : ℤ) := by
    rw [kept.size, slots]
    omega
  refine ⟨⟨grown.vector.stored view.slots.length element, grown.events⟩, ?_, ?_, ?_, ?_⟩
  · rw [iVectorAppend, newSize, resized]
    change (setData grown.vector (grown.vector.size - 1) element >>= fun vector => _) = _
    rw [atEnd, setData_eq room]
    rfl
  · refine ⟨?_, ?_, ?_, kept.growth, kept.fnew, kept.created⟩
    · have stored := kept.holds.set view.slots.length element
      have last : (view.resize (view.slots.length + 1)).slots.set view.slots.length element =
          view.slots ++ [element] := by
        rw [VectorView.resize, List.take_of_length_le (by omega), Nat.add_sub_cancel_left,
          newElmts_succ, newElmts_zero, List.set_append_right _ _ (Nat.le_refl _), Nat.sub_self]
        rfl
      rwa [last] at stored
    · rw [block_stored, List.length_set]
      exact kept.allocated
    · change grown.vector.size = ((view.slots ++ [element]).length : ℤ)
      rw [kept.size, slots, List.length_append, List.length_singleton]
  · have nothing :
        destroyedEvents state.vector.fdestroy view.slots (view.slots.length + 1) = [] := by
      rw [destroyedEvents, List.drop_eq_nil_of_le (Nat.le_succ _)]
      exact ite_self []
    change grown.events = _
    rw [events, nothing, List.append_nil, Nat.add_sub_cancel_left]
  · rw [kin]
    exact ⟨_, size, alloc, rfl⟩

theorem iVectorReplace_refines {state : VectorState Addr} {view : VectorView Addr}
    (represents : Represents state view) {index : ℕ} (inside : index < view.slots.length)
    (element : Option Addr) :
    Refines (iVectorReplace state index element)
      ({ view with slots := view.slots.set index element }, 0) := by
  have room := Nat.lt_of_lt_of_le inside represents.holds.length_le
  refine ⟨⟨state.vector.stored index element, state.events⟩, ?_, ?_⟩
  · rw [iVectorReplace, if_neg (by rw [represents.size]; omega), setData_eq room]
    rfl
  · refine ⟨represents.holds.set index element, ?_, ?_, represents.growth, represents.fnew,
      represents.created⟩
    · rw [block_stored, List.length_set]
      exact represents.allocated
    · change state.vector.size = _
      rw [represents.size, List.length_set]

/-- The elements that follow the removed one are moved down. -/
theorem exists_moved {state : VectorState Addr} {view : VectorView Addr}
    (represents : Represents state view) {index : ℕ} (inside : index < view.slots.length) :
    ∃ data, (if state.vector.size > 1 then
          moveData state.vector index (index + 1) (state.vector.size - index - 1)
        else .ok state.vector) = .ok (state.vector.withData data) ∧
      (data.getD []).length = state.vector.block.length ∧
      Holds (data.getD []) (view.slots.eraseIdx index) := by
  have longer := represents.holds.length_le
  by_cases several : state.vector.size > 1
  · rcases represents.holds.move inside with ⟨moved, isMoved, length, kept⟩
    cases isData : state.vector.data with
    | none =>
        rw [XVector.block, isData] at longer
        simp only [Option.getD_none, List.length_nil] at longer
        omega
    | some block =>
        refine ⟨some moved, ?_, length, kept⟩
        rw [XVector.block, isData, Option.getD_some] at isMoved
        have count : (state.vector.size - index - 1).toNat = view.slots.length - index - 1 := by
          rw [represents.size]
          omega
        have source : ((index : ℤ) + 1).toNat = index + 1 := by omega
        rw [if_pos several, moveData, isData]
        simp only [count, source, Int.toNat_natCast, isMoved]
        rfl
  · have single : view.slots.length = 1 := by
      rw [represents.size] at several
      omega
    refine ⟨state.vector.data, ?_, rfl, ?_⟩
    · rw [if_neg several]
      rfl
    · have emptied : view.slots.eraseIdx index = [] :=
        List.eq_nil_of_length_eq_zero (by rw [List.length_eraseIdx_of_lt inside]; omega)
      rw [emptied]
      exact Holds.nil _

/-- The call of the destroy function on an element that is removed. -/
def removedEvents (fdestroy : Bool) (element : Option Addr) : List (VectorEvent Addr) :=
  if fdestroy then element.toList.map .destroyed else []

theorem created_removedEvents (fdestroy : Bool) (element : Option Addr) :
    created (removedEvents fdestroy element) = 0 := by
  cases fdestroy <;> cases element <;> rfl

theorem destroyAt_eq {state : VectorState Addr} {view : VectorView Addr}
    (represents : Represents state view) {index : ℕ} (inside : index < view.slots.length) :
    destroyAt state index = .ok (state.events ++
      removedEvents state.vector.fdestroy view.slots[index]) := by
  rw [destroyAt, getData_eq represents.holds (List.getElem?_eq_getElem inside), removedEvents]
  by_cases destroys : state.vector.fdestroy = true
  · rw [if_pos destroys, if_pos destroys]
    cases view.slots[index] with
    | none => exact congrArg Except.ok (List.append_nil _).symm
    | some element => rfl
  · rw [if_neg destroys, if_neg destroys, List.append_nil]

/-- The capacity may shrink to the size. -/
theorem Represents.shrink (emptyBlock : Bool) {state : VectorState Addr}
    {view : VectorView Addr} (represents : Represents state view) :
    Represents ⟨shrinkData emptyBlock state.vector, state.events⟩ view := by
  by_cases excess : state.vector.alloc - state.vector.size ≥ state.vector.growth
  · rw [shrinkData, if_pos excess]
    have size : state.vector.size.toNat = view.slots.length := by
      rw [represents.size]
      rfl
    by_cases refused : state.vector.size = 0 ∧ emptyBlock = false
    · have empty : view.slots = [] :=
        List.eq_nil_of_length_eq_zero (by rw [← size, refused.1]; rfl)
      rw [reallocData, if_pos refused]
      refine ⟨?_, ?_, represents.size, represents.growth, represents.fnew, represents.created⟩
      · rw [empty]
        exact Holds.nil _
      · exact refused.1.symm
    · rw [reallocData, if_neg refused]
      refine ⟨?_, ?_, represents.size, represents.growth, represents.fnew, represents.created⟩
      · exact represents.holds.resize (by omega)
      · change ((resize state.vector.block state.vector.size.toNat).length : ℤ) = state.vector.size
        rw [length_resize, size, represents.size]
  · rw [shrinkData, if_neg excess]
    exact represents

theorem kin_shrinkData (emptyBlock : Bool) {vector after : XVector Addr}
    (kin : vector.Kin after) : vector.Kin (shrinkData emptyBlock after) := by
  rcases kin with ⟨data, size, alloc, rfl⟩
  rw [shrinkData]
  split
  · exact ⟨_, _, _, rfl⟩
  · exact ⟨data, size, alloc, rfl⟩

theorem iVectorRemove_eq (emptyBlock : Bool) {state : VectorState Addr}
    {view : VectorView Addr} (represents : Represents state view) {index : ℕ}
    (inside : index < view.slots.length) :
    ∃ after, iVectorRemove emptyBlock state index = .ok (after, 0) ∧
      Represents after { view with slots := view.slots.eraseIdx index } ∧
      after.events = state.events ++ removedEvents state.vector.fdestroy view.slots[index] ∧
      state.vector.Kin after.vector := by
  have destroyed := destroyAt_eq represents inside
  rcases exists_moved represents inside with ⟨data, moved, length, kept⟩
  have inBounds : (index : ℤ) < state.vector.size ∧ (index : ℤ) ≥ 0 := by
    rw [represents.size]
    omega
  have made : created (state.events ++
      removedEvents state.vector.fdestroy view.slots[index]) = view.created := by
    rw [created_append, created_removedEvents, Nat.add_zero, represents.created]
  have removed : Represents
      ⟨{ state.vector.withData data with size := state.vector.size - 1 },
        state.events ++ removedEvents state.vector.fdestroy view.slots[index]⟩
      { view with slots := view.slots.eraseIdx index } := by
    refine ⟨kept, ?_, ?_, represents.growth, represents.fnew, made⟩
    · change ((data.getD []).length : ℤ) = state.vector.alloc
      rw [length, represents.allocated]
    · change state.vector.size - 1 = _
      rw [represents.size, List.length_eraseIdx_of_lt inside]
      omega
  refine ⟨_, ?_, removed.shrink emptyBlock, rfl, ?_⟩
  · rw [iVectorRemove, if_pos inBounds, destroyed]
    change ((if state.vector.size > 1 then
        moveData state.vector index (index + 1) (state.vector.size - index - 1)
      else .ok state.vector) >>= fun vector => _) = _
    rw [moved]
    rfl
  · exact kin_shrinkData emptyBlock ⟨data, state.vector.size - 1, state.vector.alloc, rfl⟩

section Search

variable {fkey : ℕ → Addr → Option Addr} {fmatch : ℕ → Option Addr → Option Addr → ℤ}
  {key : Option Addr} {slots : List (Option Addr)} {count index : ℕ} {state : VectorState Addr}

theorem findFrom_empty (holds : Holds state.vector.block slots)
    (found : slots[index]? = some none) :
    findFrom fkey fmatch key (count + 1) index state =
      findFrom fkey fmatch key count (index + 1 : ℕ) state := by
  rw [findFrom, getData_eq holds found]
  rfl

theorem findFrom_element {element : Addr} (holds : Holds state.vector.block slots)
    (found : slots[index]? = some (some element)) :
    findFrom fkey fmatch key (count + 1) index state =
      if fmatch (state.events.length + 1) key (fkey state.events.length element) = 0 then
        .ok (⟨state.vector, state.events ++
          [.keyed element, .matched key (fkey state.events.length element)]⟩, some (index, element))
      else
        findFrom fkey fmatch key count (index + 1 : ℕ) ⟨state.vector, state.events ++
          [.keyed element, .matched key (fkey state.events.length element)]⟩ := by
  have length : (state.events ++ [VectorEvent.keyed element]).length = state.events.length + 1 :=
    List.length_append
  rw [findFrom, getData_eq holds found]
  change (if fmatch (state.events ++ [VectorEvent.keyed element]).length key
    (fkey state.events.length element) = 0 then _ else _) = _
  rw [length, List.append_assoc]
  rfl

end Search

/-- The search reads elements of the vector only and finds one of them or none. -/
theorem findFrom_eq (fkey : ℕ → Addr → Option Addr)
    (fmatch : ℕ → Option Addr → Option Addr → ℤ) (key : Option Addr)
    {slots : List (Option Addr)} (count index : ℕ) {state : VectorState Addr}
    (holds : Holds state.vector.block slots) (bound : index + count ≤ slots.length) :
    ∃ more found, findFrom fkey fmatch key count index state =
        .ok (⟨state.vector, state.events ++ more⟩, found) ∧
      created more = 0 ∧
      ∀ place element, found = some (place, element) →
        ∃ place' : ℕ, place = place' ∧ slots[place']? = some (some element) := by
  induction count generalizing index state with
  | zero =>
      refine ⟨[], none, ?_, rfl, fun _ _ impossible => nomatch impossible⟩
      rw [List.append_nil]
      rfl
  | succ count ih =>
      have inside : index < slots.length := by omega
      have found := List.getElem?_eq_getElem inside
      rcases isElement : slots[index] with _ | element
      · rw [isElement] at found
        rw [findFrom_empty holds found]
        exact ih (index + 1) holds (by omega)
      · rw [isElement] at found
        rw [findFrom_element holds found]
        by_cases accepted : fmatch (state.events.length + 1) key
          (fkey state.events.length element) = 0
        · rw [if_pos accepted]
          refine ⟨[.keyed element, .matched key (fkey state.events.length element)],
            some (index, element), rfl, rfl, ?_⟩
          rintro place other isFound
          cases isFound
          exact ⟨index, rfl, found⟩
        · rw [if_neg accepted]
          rcases @ih (index + 1) ⟨state.vector, state.events ++
            [.keyed element, .matched key (fkey state.events.length element)]⟩ holds (by omega) with
            ⟨more, found, ran, made, sound⟩
          refine ⟨.keyed element :: .matched key (fkey state.events.length element) :: more, found,
            ?_, made, sound⟩
          rw [ran, List.append_assoc]
          rfl

theorem iVectorFindFirstIndex_eq {slots : List (Option Addr)} {state : VectorState Addr}
    (holds : Holds state.vector.block slots) (size : state.vector.size = slots.length)
    (key : Option Addr) :
    ∃ more place,
      iVectorFindFirstIndex state key = .ok (⟨state.vector, state.events ++ more⟩, place) ∧
      created more = 0 ∧
      (place = -1 ∨ ∃ (place' : ℕ) (element : Addr), place = place' ∧
        slots[place']? = some (some element)) := by
  have nothing : ∃ more place, (.ok (⟨state.vector, state.events⟩, -1) :
      Except VectorFault (VectorState Addr × ℤ)) =
        .ok (⟨state.vector, state.events ++ more⟩, place) ∧
        created more = 0 ∧
        (place = -1 ∨ ∃ (place' : ℕ) (element : Addr), place = place' ∧
          slots[place']? = some (some element)) :=
    ⟨[], -1, by rw [List.append_nil], rfl, .inl rfl⟩
  rw [iVectorFindFirstIndex, findFirst]
  rcases state.vector.fkey with _ | fkey
  · exact nothing
  rcases state.vector.fmatch with _ | fmatch
  · exact nothing
  have count : (iVectorSize state.vector).toNat = slots.length := by
    rw [iVectorSize, size]
    rfl
  rcases findFrom_eq fkey fmatch key slots.length 0 holds (by omega) with
    ⟨more, found, ran, made, sound⟩
  simp only [count]
  rw [show ((0 : ℕ) : ℤ) = 0 from rfl] at ran
  rw [ran]
  refine ⟨more, (found.map Prod.fst).getD (-1), rfl, made, ?_⟩
  rcases found with _ | ⟨place, element⟩
  · exact .inl rfl
  · rcases sound place element rfl with ⟨place', rfl, isElement⟩
    exact .inr ⟨place', element, rfl, isElement⟩

theorem tagCopies_of_unfound {element : Addr} {rounds : ℕ} {state after : VectorState Addr}
    (searched : iVectorFindFirstIndex state (some element) = .ok (after, -1)) :
    tagCopies element rounds state = .ok after := by
  rw [tagCopies.eq_def]
  simp only [searched]
  rfl

/-- Every round of the marking loop clears an element, so that there are no more rounds than
elements. -/
theorem tagCopies_eq (element : Addr) (rounds : ℕ) {slots : List (Option Addr)}
    {state : VectorState Addr} (holds : Holds state.vector.block slots)
    (size : state.vector.size = slots.length) (enough : slots.countP Option.isSome ≤ rounds) :
    ∃ data more slots', tagCopies element rounds state =
        .ok ⟨state.vector.withData data, state.events ++ more⟩ ∧
      Holds (data.getD []) slots' ∧ slots'.length = slots.length ∧ created more = 0 := by
  induction rounds generalizing slots state with
  | zero =>
      rcases iVectorFindFirstIndex_eq holds size (some element) with
        ⟨more, place, searched, made, rfl | ⟨place, other, rfl, found⟩⟩
      · exact ⟨state.vector.data, more, slots, tagCopies_of_unfound searched, holds, rfl, made⟩
      · have positive : 0 < slots.countP Option.isSome :=
          List.countP_pos_iff.mpr ⟨some other, List.mem_of_getElem? found, rfl⟩
        omega
  | succ rounds ih =>
      rcases iVectorFindFirstIndex_eq holds size (some element) with
        ⟨more, place, searched, made, rfl | ⟨place, other, rfl, found⟩⟩
      · exact ⟨state.vector.data, more, slots, tagCopies_of_unfound searched, holds, rfl, made⟩
      · rcases List.getElem?_eq_some_iff.mp found with ⟨inside, isOther⟩
        have fewer : (slots.set place none).countP Option.isSome ≤ rounds := by
          rw [List.countP_set inside, isOther]
          simp only [Option.isSome_some, if_true, Option.isSome_none, Bool.false_eq_true, if_false]
          omega
        rcases @ih _ ⟨state.vector.stored place none, state.events ++ more⟩ (holds.set place none)
          (by rw [List.length_set]; exact size) fewer with
          ⟨data, later, slots', ran, kept, length, madeLater⟩
        refine ⟨data, more ++ later, slots', ?_, kept, ?_, ?_⟩
        · rw [tagCopies.eq_def]
          simp only [searched]
          have real : ((place : ℤ)) ≠ -1 := by omega
          change (if (place : ℤ) ≠ -1 then
              setData state.vector place none >>= fun vector =>
                tagCopies element rounds ⟨vector, state.events ++ more⟩
            else .ok ⟨state.vector, state.events ++ more⟩) = _
          rw [if_pos real, setData_eq (Nat.lt_of_lt_of_le inside holds.length_le),
            ← List.append_assoc]
          exact ran
        · rw [length, List.length_set]
        · rw [created_append, made, madeLater]

theorem clearElmts_empty {slots : List (Option Addr)} {count index : ℕ} {state : VectorState Addr}
    (holds : Holds state.vector.block slots) (found : slots[index]? = some none) :
    clearElmts (count + 1) index state = clearElmts count (index + 1 : ℕ) state := by
  rw [clearElmts, getData_eq holds found]
  rfl

theorem clearElmts_element {slots : List (Option Addr)} {count index : ℕ}
    {state : VectorState Addr} {element : Addr} (holds : Holds state.vector.block slots)
    (found : slots[index]? = some (some element)) :
    clearElmts (count + 1) index state =
      (tagCopies element state.vector.size.toNat
        ⟨state.vector.stored index none, state.events ++ [.destroyed element]⟩ >>=
          clearElmts count (index + 1 : ℕ)) := by
  have inside : index < slots.length := (List.getElem?_eq_some_iff.mp found).1
  rw [clearElmts, getData_eq holds found]
  change (setData state.vector index none >>= fun vector => _) = _
  rw [setData_eq (Nat.lt_of_lt_of_le inside holds.length_le)]
  rfl

theorem clearElmts_eq (count index : ℕ) {slots : List (Option Addr)} {state : VectorState Addr}
    (holds : Holds state.vector.block slots) (size : state.vector.size = slots.length)
    (bound : index + count ≤ slots.length) :
    ∃ data more, clearElmts count index state =
        .ok ⟨state.vector.withData data, state.events ++ more⟩ ∧ created more = 0 := by
  induction count generalizing index slots state with
  | zero =>
      refine ⟨state.vector.data, [], ?_, rfl⟩
      rw [List.append_nil]
      rfl
  | succ count ih =>
      have inside : index < slots.length := by omega
      have found := List.getElem?_eq_getElem inside
      rcases isElement : slots[index] with _ | element
      · rw [isElement] at found
        rw [clearElmts_empty holds found]
        exact ih (index + 1) holds size (by omega)
      · rw [isElement] at found
        have cleared := holds.set index none
        have rounds : state.vector.size.toNat = slots.length := by
          rw [size, Int.toNat_natCast]
        rcases @tagCopies_eq _ element slots.length _
          ⟨state.vector.stored index none, state.events ++ [.destroyed element]⟩ cleared
          (by rw [List.length_set]; exact size)
          (Nat.le_trans List.countP_le_length (Nat.le_of_eq List.length_set)) with
          ⟨data, more, slots', tagged, kept, length, made⟩
        rw [List.length_set] at length
        rcases @ih (index + 1) _
          ⟨state.vector.withData data, state.events ++ [.destroyed element] ++ more⟩ kept
          (by rw [length]; exact size) (by omega) with ⟨data', later, ran, madeLater⟩
        refine ⟨data', .destroyed element :: (more ++ later), ?_, ?_⟩
        · rw [clearElmts_element holds found, rounds, tagged]
          change clearElmts count _ ⟨state.vector.withData data,
            state.events ++ [.destroyed element] ++ more⟩ = _
          rw [ran, List.append_assoc, List.append_assoc]
          rfl
        · change created (more ++ later) = 0
          rw [created_append, made, madeLater]

theorem iVectorClear_refines {state : VectorState Addr} {view : VectorView Addr}
    (represents : Represents state view) :
    Refines (iVectorClear state) ({ view with slots := [] }, 0) := by
  have emptied (events : List (VectorEvent Addr)) (made : created events = view.created) :
      Represents
        ⟨{ state.vector with data := none, size := 0, alloc := 0 }, events⟩
        { view with slots := [] } :=
    ⟨Holds.nil _, rfl, rfl, represents.growth, represents.fnew, made⟩
  by_cases destroys : state.vector.fdestroy = true
  · have size : state.vector.size.toNat = view.slots.length := by
      rw [represents.size]
      rfl
    rcases clearElmts_eq view.slots.length 0 represents.holds represents.size (by omega) with
      ⟨data, more, ran, made⟩
    have madeEq : created (state.events ++ more) = view.created := by
      rw [created_append, made, Nat.add_zero, represents.created]
    refine ⟨_, ?_, emptied _ madeEq⟩
    rw [iVectorClear, if_pos destroys, size]
    rw [show ((0 : ℕ) : ℤ) = 0 from rfl] at ran
    rw [ran]
    rfl
  · refine ⟨_, ?_, emptied state.events represents.created⟩
    rw [iVectorClear, if_neg destroys]
    rfl

theorem pvVectorGet_eq {state : VectorState Addr} {view : VectorView Addr}
    (represents : Represents state view) (index : ℤ) :
    pvVectorGet state.vector index =
      .ok (if 0 ≤ index then (view.slots[index.toNat]?).join else none) := by
  by_cases outside : index ≥ state.vector.size ∨ index < 0
  · rw [pvVectorGet, if_pos outside]
    rw [represents.size] at outside
    by_cases positive : 0 ≤ index
    · rw [if_pos positive, List.getElem?_eq_none (by omega)]
      rfl
    · rw [if_neg positive]
  · rw [pvVectorGet, if_neg outside]
    rw [represents.size] at outside
    have inside : index.toNat < view.slots.length := by omega
    have found := List.getElem?_eq_getElem inside
    have same : (index.toNat : ℤ) = index := by omega
    have read := getData_eq represents.holds found
    rw [same] at read
    rw [if_pos (by omega), found, read]
    rfl

theorem vectorCall_refines {emptyBlock : Bool} {state : VectorState Addr}
    {view : VectorView Addr} (represents : Represents state view) {call : VectorCall Addr}
    (allowed : VectorAllowed emptyBlock view call) :
    Refines (vectorCall emptyBlock state call) (vectorSpec view call) := by
  cases call with
  | resize newSize =>
      rw [vectorCall, vectorSpec]
      by_cases negative : newSize < 0
      · rw [if_pos negative, iVectorResize,
          if_neg (by rw [represents.size]; omega), if_neg (by omega)]
        exact ⟨state, rfl, represents⟩
      · have same : (newSize.toNat : ℤ) = newSize := by omega
        rw [if_neg negative]
        rcases iVectorResize_eq emptyBlock represents newSize.toNat
          (fun zero => allowed (by omega)) with ⟨after, resized, kept, -⟩
        rw [same] at resized
        exact ⟨after, resized, kept⟩
  | append element =>
      rcases iVectorAppend_eq emptyBlock represents element with ⟨after, appended, kept, -⟩
      exact ⟨after, appended, kept⟩
  | remove index =>
      rw [vectorCall, vectorSpec]
      by_cases inside : 0 ≤ index ∧ index < view.slots.length
      · have same : (index.toNat : ℤ) = index := by omega
        rw [if_pos inside]
        have within : index.toNat < view.slots.length := by omega
        rcases iVectorRemove_eq emptyBlock represents within with ⟨after, removed, kept, -⟩
        rw [same] at removed
        exact ⟨after, removed, kept⟩
      · rw [if_neg inside, iVectorRemove, if_neg (by rw [represents.size]; omega)]
        exact ⟨state, rfl, represents⟩
  | replace index element =>
      have same : (index.toNat : ℤ) = index := by
        have positive := allowed.1
        omega
      rcases allowed with ⟨positive, inside⟩
      rw [vectorCall, vectorSpec, if_pos ⟨positive, inside⟩]
      have within : index.toNat < view.slots.length := by omega
      have replaced := iVectorReplace_refines represents within element
      rwa [same] at replaced
  | initSearch fkey fmatch =>
      exact ⟨_, rfl, represents.holds, represents.allocated, represents.size,
        represents.growth, represents.fnew, represents.created⟩
  | clear => exact iVectorClear_refines represents

/-- What a program can see of a vector that holds a list of slots, and its capacity. -/
structure Observed (state : VectorState Addr) (view : VectorView Addr) : Prop where
  size : iVectorSize state.vector = view.slots.length
  bounds : 0 ≤ state.vector.size ∧ state.vector.size ≤ state.vector.alloc
  allocated : state.vector.alloc = state.vector.block.length
  get : ∀ index, pvVectorGet state.vector index =
    .ok (if 0 ≤ index then (view.slots[index.toNat]?).join else none)

theorem Represents.observed {state : VectorState Addr} {view : VectorView Addr}
    (represents : Represents state view) : Observed state view := by
  have longer := represents.holds.length_le
  refine ⟨represents.size, ?_, represents.allocated.symm, pvVectorGet_eq represents⟩
  rw [represents.size, ← represents.allocated]
  omega

/-- From an initialised vector, whatever its growth and its functions, every run of operations
returns with the answers of the same operations on a list of slots, no access leaves the
allocated slots, and the vector shows that list. -/
theorem vector_refines_slots (emptyBlock : Bool) (growth : ℤ) (fnew : Option (ℕ → Option Addr))
    (fdestroy : Bool) (calls : List (VectorCall Addr))
    (promised : Allowed vectorSpec (VectorAllowed emptyBlock) ⟨[], fnew, 0⟩ calls) :
    ∃ after, run (vectorCall emptyBlock) ⟨iVectorInit growth fnew fdestroy, []⟩ calls =
        .ok (after, (abstractRun vectorSpec ⟨[], fnew, 0⟩ calls).2) ∧
      Observed after (abstractRun vectorSpec ⟨[], fnew, 0⟩ calls).1 := by
  have start : Represents ⟨iVectorInit growth fnew fdestroy, []⟩ ⟨[], fnew, 0⟩ := by
    refine ⟨Holds.nil _, rfl, rfl, ?_, rfl, rfl⟩
    change 1 ≤ if growth ≤ 1 then 1 else growth
    split <;> omega
  rcases run_refines (fun _ _ _ represents allowed => vectorCall_refines represents allowed)
    start promised with ⟨after, ran, represents⟩
  exact ⟨after, ran, represents.observed⟩

theorem vector_refines_slots_shrunk :
    ∃ after, run (vectorCall false) ⟨iVectorInit 2 none true, []⟩
        [.append (some 7), .resize 3, .remove 1, .replace 1 (some 9), .remove 5] =
        .ok (after, [0, 0, 0, 0, -1]) ∧
      Observed after ⟨[some 7, some 9], none, 0⟩ :=
  vector_refines_slots false 2 none true
    [.append (some 7), .resize 3, .remove 1, .replace 1 (some 9), .remove 5]
    (by
      simp [Allowed, VectorAllowed, vectorSpec, VectorView.resize])

end Sysio.Vector
