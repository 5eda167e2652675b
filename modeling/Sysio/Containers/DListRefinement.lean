import Mathlib.Data.List.Induction
import Sysio.Containers.DList

/-!
# The list is a sequence

What a doubly linked list is for: a sequence of data in which an element keeps its address while
others are inserted and removed around it. `Represents` relates a list in memory to its sequence;
every operation with an element of the list, or none, returns and keeps the relation
(`dlistCall_refines`), and so does every run.
-/

namespace Sysio.DList

open Linked Refinement

variable {Addr Data Key Destroy : Type} [DecidableEq Addr]

/-- The elements in their order, and the functions of the user. -/
structure DListView (Addr Data Key Destroy : Type) where
  elements : List (Addr × Data)
  fdestroy : Option Destroy
  fkey : Option (Heap Addr Data → Addr → Key)
  fmatch : Option (Key → Key → ℤ)

/-- The list in memory and its sequence. `base` is the memory without the list: the elements lie
where it has nothing, and everywhere else the memory is `base`. -/
structure Represents (base : Heap Addr Data) (state : DListState Addr Data Key Destroy)
    (view : DListView Addr Data Key Destroy) : Prop where
  linked : Segment state.heap none view.elements none
  distinct : (view.elements.map Prod.fst).Nodup
  apart : ∀ address ∈ view.elements.map Prod.fst, base address = none
  elsewhere : ∀ address ∉ view.elements.map Prod.fst, state.heap address = base address
  list : state.list =
    ⟨view.elements.length, first view.elements none, last none view.elements,
      view.fdestroy, view.fkey, view.fmatch⟩

/-- The sequence with a new item behind the one at an address. -/
def insertAfter (address : Addr) (new : Addr × Data) : List (Addr × Data) → List (Addr × Data)
  | [] => []
  | item :: rest =>
      if item.1 = address then item :: new :: rest else item :: insertAfter address new rest

/-- The sequence with a new item before the one at an address. -/
def insertBefore (address : Addr) (new : Addr × Data) : List (Addr × Data) → List (Addr × Data)
  | [] => []
  | item :: rest =>
      if item.1 = address then new :: item :: rest else item :: insertBefore address new rest

/-- An insertion next to a reference element, or of the only element: it needs the memory for
the element, and a reference unless there is none to give. -/
def insertSpec (place : Addr → Addr × Data → List (Addr × Data) → List (Addr × Data))
    (view : DListView Addr Data Key Destroy) (data : Data)
    (malloc : Option (Addr × XDListElmt Addr Data)) :
    Option Addr → DListView Addr Data Key Destroy × DListReply Data Destroy
  | none =>
      match malloc with
      | some (new, _) =>
          if view.elements = [] then
            ({ view with elements := [(new, data)] }, { code := 0 })
          else (view, { code := -1 })
      | none => (view, { code := -1 })
  | some address =>
      match malloc with
      | some (new, _) =>
          ({ view with elements := place address (new, data) view.elements }, { code := 0 })
      | none => (view, { code := -1 })

/-- What each operation does to the sequence, and its answer. -/
def dlistSpec (view : DListView Addr Data Key Destroy) :
    DListCall Addr Data Key → DListView Addr Data Key Destroy × DListReply Data Destroy
  | .insertAfter element data malloc => insertSpec insertAfter view data malloc element
  | .insertBefore element data malloc => insertSpec insertBefore view data malloc element
  | .append data malloc =>
      match malloc with
      | some (new, _) =>
          ({ view with elements := view.elements ++ [(new, data)] }, { code := 0 })
      | none => (view, { code := -1 })
  | .prepend data malloc =>
      match malloc with
      | some (new, _) =>
          ({ view with elements := (new, data) :: view.elements }, { code := 0 })
      | none => (view, { code := -1 })
  | .remove element =>
      match view.elements.find? fun item => some item.1 = element with
      | some item =>
          ({ view with elements := view.elements.eraseP fun item => some item.1 = element },
            { code := 0, data := some item.2 })
      | none => (view, { code := -1 })
  | .initSearch fkey fmatch => ({ view with fkey, fmatch }, { code := 0 })
  | .destroy =>
      (⟨[], none, none, none⟩,
        { code := 0
          destroyed := view.fdestroy.toList.flatMap fun fdestroy =>
            view.elements.reverse.map fun item => (fdestroy, item.2) })

/-- The caller gives an element of the list or none, and `malloc` an address that is in use
neither by the list nor elsewhere. -/
def DListAllowed (base : Heap Addr Data) (view : DListView Addr Data Key Destroy)
    (call : DListCall Addr Data Key) : Prop :=
  let ofList (element : Option Addr) :=
    ∀ address, element = some address → address ∈ view.elements.map Prod.fst
  let fresh (malloc : Option (Addr × XDListElmt Addr Data)) :=
    ∀ new found, malloc = some (new, found) →
      new ∉ view.elements.map Prod.fst ∧ base new = none
  match call with
  | .insertAfter element _ malloc | .insertBefore element _ malloc =>
      ofList element ∧ fresh malloc
  | .append _ malloc | .prepend _ malloc => fresh malloc
  | .remove element => ofList element
  | .initSearch _ _ | .destroy => True

theorem insertAfter_split {front back : List (Addr × Data)} {item : Addr × Data}
    (distinct : ((front ++ item :: back).map Prod.fst).Nodup) (new : Addr × Data) :
    insertAfter item.1 new (front ++ item :: back) = front ++ item :: new :: back := by
  induction front with
  | nil => simp [insertAfter]
  | cons head rest ih =>
      rw [List.cons_append, List.map_cons, List.nodup_cons] at distinct
      have other : head.1 ≠ item.1 := fun same => distinct.1 (by simp [same])
      rw [List.cons_append, insertAfter, if_neg other, ih distinct.2, List.cons_append]

theorem insertBefore_split {front back : List (Addr × Data)} {item : Addr × Data}
    (distinct : ((front ++ item :: back).map Prod.fst).Nodup) (new : Addr × Data) :
    insertBefore item.1 new (front ++ item :: back) = front ++ new :: item :: back := by
  induction front with
  | nil => simp [insertBefore]
  | cons head rest ih =>
      rw [List.cons_append, List.map_cons, List.nodup_cons] at distinct
      have other : head.1 ≠ item.1 := fun same => distinct.1 (by simp [same])
      rw [List.cons_append, insertBefore, if_neg other, ih distinct.2, List.cons_append]

omit [DecidableEq Addr] in
theorem exists_split {elements : List (Addr × Data)} {address : Addr}
    (ofList : address ∈ elements.map Prod.fst) :
    ∃ front data back, elements = front ++ (address, data) :: back := by
  rcases List.mem_map.mp ofList with ⟨⟨_, data⟩, itemMem, rfl⟩
  rcases List.append_of_mem itemMem with ⟨front, back, split⟩
  exact ⟨front, data, back, split⟩

omit [DecidableEq Addr] in
theorem elmt_eq {heap : Heap Addr Data} {address : Addr} {cell : XDListElmt Addr Data}
    (allocated : heap address = some cell) : elmt heap (some address) = .ok cell := by
  simp [elmt, allocated]

theorem storeElmt_eq {heap : Heap Addr Data} {address : Addr} {cell : XDListElmt Addr Data}
    (allocated : heap address = some cell)
    (change : XDListElmt Addr Data → XDListElmt Addr Data) :
    storeElmt heap (some address) change =
      .ok (Function.update heap address (some (change cell))) := by
  simp [storeElmt, allocated]

theorem storeElmt_next {heap : Heap Addr Data} {address : Addr}
    (allocated : (heap address).isSome) (next : Option Addr) :
    (storeElmt heap (some address) fun cell => { cell with next := next }) =
      .ok (setNext heap (some address) next) := by
  rcases Option.isSome_iff_exists.mp allocated with ⟨cell, found⟩
  rw [storeElmt_eq found, setNext, found]
  rfl

theorem storeElmt_prev {heap : Heap Addr Data} {address : Addr}
    (allocated : (heap address).isSome) (prev : Option Addr) :
    (storeElmt heap (some address) fun cell => { cell with prev := prev }) =
      .ok (setPrev heap (some address) prev) := by
  rcases Option.isSome_iff_exists.mp allocated with ⟨cell, found⟩
  rw [storeElmt_eq found, setPrev, found]
  rfl

theorem freeElmt_eq {heap : Heap Addr Data} {address : Addr}
    (allocated : (heap address).isSome) :
    freeElmt heap (some address) = .ok (Function.update heap address none) := by
  rcases Option.isSome_iff_exists.mp allocated with ⟨cell, found⟩
  rw [freeElmt, found]

/-- The three fields of a new element. -/
theorem setFields_eq (heap : Heap Addr Data) (new : Addr) (cell : XDListElmt Addr Data)
    (prev next : Option Addr) :
    setPrev (setNext (Function.update heap new (some cell)) (some new) next) (some new) prev =
      Function.update heap new (some ⟨cell.data, prev, next⟩) := by
  simp [setNext, setPrev]

theorem linkAlone_eq (heap : Heap Addr Data) (list : XDList Addr Data Key Destroy) (new : Addr)
    (cell : XDListElmt Addr Data) :
    linkAlone (Function.update heap new (some cell)) list new =
      .ok (Function.update heap new (some ⟨cell.data, none, none⟩),
        { list with head := some new, tail := some new }) := by
  rw [linkAlone, storeElmt_prev (by simp)]
  change (storeElmt _ _ _ >>= fun heap => _) = _
  rw [storeElmt_next (by simp), setNext_setPrev_comm, setFields_eq]
  rfl

/-- A cell of the list is as it was when there is a new one. -/
theorem update_cell {heap : Heap Addr Data} {front back : List (Addr × Data)}
    {item : Addr × Data} (linked : Segment heap none (front ++ item :: back) none) {new : Addr}
    (fresh : new ∉ (front ++ item :: back).map Prod.fst) (cell : XDListElmt Addr Data) :
    Function.update heap new (some cell) item.1 =
      some ⟨item.2, last none front, first back none⟩ := by
  have other : item.1 ≠ new := fun same => fresh (by simp [← same])
  rw [Function.update_of_ne other]
  exact linked.cell

/-- `iDListInsertAfter` links the new element between the reference and what follows it. -/
theorem linkAfter_eq {heap : Heap Addr Data} {front back : List (Addr × Data)}
    {item : Addr × Data} (linked : Segment heap none (front ++ item :: back) none)
    (distinct : ((front ++ item :: back).map Prod.fst).Nodup) {new : Addr}
    (fresh : new ∉ (front ++ item :: back).map Prod.fst) (cell : XDListElmt Addr Data)
    (list : XDList Addr Data Key Destroy) :
    linkAfter (Function.update heap new (some cell)) list (some item.1) new =
      .ok (setNext
          (setPrev (Function.update heap new (some ⟨cell.data, some item.1, first back none⟩))
            (first back none) (some new))
          (some item.1) (some new),
        if back = [] then { list with tail := some new } else list) := by
  have reference (found : XDListElmt Addr Data) := update_cell linked fresh found
  rw [linkAfter, elmt_eq (reference cell)]
  change (storeElmt _ _ _ >>= fun heap => _) = _
  rw [storeElmt_next (by simp)]
  change (storeElmt _ _ _ >>= fun heap => _) = _
  rw [storeElmt_prev (by simp), setFields_eq]
  change (elmt _ _ >>= fun reference => _) = _
  rw [elmt_eq (reference _)]
  cases back with
  | nil =>
      change (storeElmt _ _ _ >>= fun heap => _) = _
      rw [storeElmt_next (by simp [reference])]
      rfl
  | cons next rest =>
      have otherNext : next.1 ≠ new := fun same => fresh (by simp [← same])
      have nextCell : (heap next.1).isSome := by
        rw [(segment_append heap none none front (item :: next :: rest)).mp linked |>.2.2.1]
        rfl
      change (storeElmt _ (some next.1) _ >>= fun heap => _) = _
      rw [storeElmt_prev (by simp [otherNext, nextCell])]
      change (storeElmt _ _ _ >>= fun heap => _) = _
      rw [storeElmt_next (by simp [reference])]
      rfl

/-- `iDListInsertBefore` links the new element between what precedes the reference and it. -/
theorem linkBefore_eq {heap : Heap Addr Data} {front back : List (Addr × Data)}
    {item : Addr × Data} (linked : Segment heap none (front ++ item :: back) none)
    (distinct : ((front ++ item :: back).map Prod.fst).Nodup) {new : Addr}
    (fresh : new ∉ (front ++ item :: back).map Prod.fst) (cell : XDListElmt Addr Data)
    (list : XDList Addr Data Key Destroy) :
    linkBefore (Function.update heap new (some cell)) list (some item.1) new =
      .ok (setNext
          (setPrev (Function.update heap new (some ⟨cell.data, last none front, some item.1⟩))
            (some item.1) (some new))
          (last none front) (some new),
        if front = [] then { list with head := some new } else list) := by
  have reference (found : XDListElmt Addr Data) := update_cell linked fresh found
  rw [linkBefore, storeElmt_next (by simp)]
  have put : setNext (Function.update heap new (some cell)) (some new) (some item.1) =
      Function.update heap new (some ⟨cell.data, cell.prev, some item.1⟩) := by
    simp [setNext]
  rw [put]
  change (elmt _ _ >>= fun reference => _) = _
  rw [elmt_eq (reference _)]
  change (storeElmt _ _ _ >>= fun heap => _) = _
  rw [storeElmt_prev (by simp), ← put, setFields_eq]
  change (elmt _ _ >>= fun reference => _) = _
  rw [elmt_eq (reference _)]
  rcases front.eq_nil_or_concat' with rfl | ⟨front, previous, rfl⟩
  · change (storeElmt _ _ _ >>= fun heap => _) = _
    rw [storeElmt_prev (by simp [reference])]
    rfl
  · have otherPrevious : previous.1 ≠ new := fun same => fresh (by simp [← same])
    have previousCell : (heap previous.1).isSome := by
      rw [List.append_assoc] at linked
      rw [Segment.cell linked]
      rfl
    rw [last_concat, setNext_setPrev_comm, if_neg (by simp)]
    change (storeElmt _ (some previous.1) _ >>= fun heap => _) = _
    rw [storeElmt_next (by simp [otherPrevious, previousCell])]
    change (storeElmt _ _ _ >>= fun heap => _) = _
    rw [storeElmt_prev (by simp [reference])]
    rfl

theorem unlinkElmt_head {heap : Heap Addr Data} {back : List (Addr × Data)}
    {item : Addr × Data} (linked : Segment heap none (item :: back) none)
    (list : XDList Addr Data Key Destroy) (isHead : list.head = some item.1)
    (isTail : list.tail = last none (item :: back)) :
    unlinkElmt heap list (some item.1) =
      .ok (setPrev heap (first back none) none,
        { list with head := first back none, tail := last none back }) := by
  rw [unlinkElmt, elmt_eq linked.1]
  change (if some item.1 = list.head then _ else _) = _
  rw [if_pos isHead.symm]
  cases back with
  | nil => rfl
  | cons next rest =>
      have nextCell : (heap next.1).isSome := by
        rw [linked.2.1]
        rfl
      change (storeElmt _ (some next.1) _ >>= fun heap => _) = _
      have sameTail : last none (next :: rest) = list.tail := isTail.symm
      rw [storeElmt_prev nextCell, sameTail]
      rfl

theorem unlinkElmt_inner {heap : Heap Addr Data} {front back : List (Addr × Data)}
    {previous item : Addr × Data}
    (linked : Segment heap none (front ++ previous :: item :: back) none)
    (distinct : ((front ++ previous :: item :: back).map Prod.fst).Nodup)
    (list : XDList Addr Data Key Destroy) (notHead : some item.1 ≠ list.head)
    (isTail : list.tail = last (some item.1) back) :
    unlinkElmt heap list (some item.1) =
      .ok (setPrev (setNext heap (some previous.1) (first back none)) (first back none)
          (some previous.1),
        { list with tail := last (some previous.1) back }) := by
  rw [List.map_append, List.nodup_append'] at distinct
  have other : previous.1 ≠ item.1 := by
    intro same
    exact (List.nodup_cons.mp distinct.2.1).1 (by simp [same])
  have cells := ((segment_append heap none none front _).mp linked).2
  have kept : setNext heap (some previous.1) (first back none) item.1 =
      some ⟨item.2, some previous.1, first back none⟩ := by
    rw [setNext_of_ne _ _ (fun same => other (Option.some.inj same))]
    exact cells.2.1
  rw [unlinkElmt, elmt_eq cells.2.1]
  change (if some item.1 = list.head then _ else _) = _
  rw [if_neg notHead]
  rw [storeElmt_next (by rw [cells.1]; rfl)]
  change (elmt _ _ >>= fun removed => _) = _
  rw [elmt_eq kept]
  cases back with
  | nil => rfl
  | cons next rest =>
      change (storeElmt _ (some next.1) _ >>= fun heap => _) = _
      have sameTail : last (some previous.1) (next :: rest) = list.tail := isTail.symm
      rw [storeElmt_prev (by rw [isSome_setNext, cells.2.2.1]; rfl), sameTail]
      rfl

/-- `iDListRemove` links what precedes the element to what follows it. -/
theorem unlinkElmt_eq {heap : Heap Addr Data} {front back : List (Addr × Data)}
    {item : Addr × Data} (linked : Segment heap none (front ++ item :: back) none)
    (distinct : ((front ++ item :: back).map Prod.fst).Nodup)
    (list : XDList Addr Data Key Destroy)
    (isHead : list.head = first (front ++ item :: back) none)
    (isTail : list.tail = last none (front ++ item :: back)) :
    unlinkElmt heap list (some item.1) =
      .ok (setPrev (setNext heap (last none front) (first back none)) (first back none)
          (last none front),
        { list with
          head := first (front ++ back) none
          tail := last none (front ++ back) }) := by
  rcases front.eq_nil_or_concat' with rfl | ⟨front, previous, rfl⟩
  · exact unlinkElmt_head linked list isHead isTail
  · have headOther : some item.1 ≠ list.head := by
      intro same
      rw [List.map_append, List.nodup_append'] at distinct
      rw [isHead, first_append, first_append, first_cons] at same
      have isFirst : first (front ++ [previous]) none = some item.1 := by
        rw [first_append, same]
        rfl
      exact distinct.2.2 (mem_of_first isFirst) (by simp)
    rw [List.append_assoc] at linked distinct
    rw [last_append] at isTail
    rw [unlinkElmt_inner linked distinct list headOther isTail, last_concat, last_append,
      last_concat]
    congr 2
    rw [isHead]
    simp only [first_append, first_cons]

omit [DecidableEq Addr] in
theorem Represents.size_eq_zero_iff {base : Heap Addr Data}
    {state : DListState Addr Data Key Destroy} {view : DListView Addr Data Key Destroy}
    (represents : Represents base state view) :
    iDListSize state.list = 0 ↔ view.elements = [] := by
  rw [iDListSize, represents.list]
  simp

/-- The memory and the list after a new element between `front` and `back`. -/
def insertedHeap (heap : Heap Addr Data) (front back : List (Addr × Data)) (new : Addr × Data) :
    Heap Addr Data :=
  setNext
    (setPrev (Function.update heap new.1 (some ⟨new.2, last none front, first back none⟩))
      (first back none) (some new.1))
    (last none front) (some new.1)

theorem Represents.insert {base : Heap Addr Data} {state : DListState Addr Data Key Destroy}
    {view : DListView Addr Data Key Destroy} (represents : Represents base state view)
    {front back : List (Addr × Data)} (split : view.elements = front ++ back)
    {new : Addr × Data} (fresh : new.1 ∉ view.elements.map Prod.fst)
    (free : base new.1 = none) :
    Represents base
      ⟨insertedHeap state.heap front back new,
        { state.list with
          size := state.list.size + 1
          head := first (front ++ new :: back) none
          tail := last none (front ++ new :: back) }⟩
      { view with elements := front ++ new :: back } := by
  rcases represents with ⟨linked, distinct, apart, elsewhere, list⟩
  rw [split] at linked distinct apart elsewhere fresh
  have members (address : Addr) : address ∈ (front ++ new :: back).map Prod.fst ↔
      address = new.1 ∨ address ∈ (front ++ back).map Prod.fst := by
    simp only [List.map_append, List.map_cons, List.mem_append, List.mem_cons]
    tauto
  have distinctNew : ((front ++ new :: back).map Prod.fst).Nodup := by
    rw [List.map_append, List.map_cons, List.nodup_middle, ← List.map_append]
    exact List.nodup_cons.mpr ⟨fresh, distinct⟩
  refine ⟨linked.insert distinctNew, distinctNew, ?_, ?_, ?_⟩
  · intro address addressMem
    rcases (members address).mp addressMem with rfl | old
    · exact free
    · exact apart address old
  · intro address addressOut
    have outside := mt (members address).mpr addressOut
    rw [not_or] at outside
    have notFirst : first back none ≠ some address := fun isFirst =>
      outside.2 (by simp only [List.map_append, List.mem_append, mem_of_first isFirst, or_true])
    have notLast : last none front ≠ some address := fun isLast =>
      outside.2 (by simp only [List.map_append, List.mem_append, mem_of_last isLast, true_or])
    change setNext _ _ _ _ = _
    rw [setNext_of_ne _ _ notLast, setPrev_of_ne _ _ notFirst,
      Function.update_of_ne outside.1]
    exact elsewhere address outside.2
  · rw [list, split]
    simp only [List.length_append, List.length_cons]
    congr 1

theorem Represents.erase {base : Heap Addr Data} {state : DListState Addr Data Key Destroy}
    {view : DListView Addr Data Key Destroy} (represents : Represents base state view)
    {front back : List (Addr × Data)} {item : Addr × Data}
    (split : view.elements = front ++ item :: back) :
    Represents base
      ⟨Function.update
          (setPrev (setNext state.heap (last none front) (first back none)) (first back none)
            (last none front))
          item.1 none,
        { state.list with
          size := state.list.size - 1
          head := first (front ++ back) none
          tail := last none (front ++ back) }⟩
      { view with elements := front ++ back } := by
  rcases represents with ⟨linked, distinct, apart, elsewhere, list⟩
  rw [split] at linked distinct apart elsewhere
  have members (address : Addr) : address ∈ (front ++ item :: back).map Prod.fst ↔
      address = item.1 ∨ address ∈ (front ++ back).map Prod.fst := by
    simp only [List.map_append, List.map_cons, List.mem_append, List.mem_cons]
    tauto
  have distinctLeft : (item.1 :: (front ++ back).map Prod.fst).Nodup := by
    rwa [List.map_append, List.map_cons, List.nodup_middle, ← List.map_append] at distinct
  refine ⟨linked.erase distinct, (List.nodup_cons.mp distinctLeft).2, ?_, ?_, ?_⟩
  · intro address addressMem
    exact apart address ((members address).mpr (.inr addressMem))
  · intro address addressOut
    by_cases same : address = item.1
    · rw [same]
      change Function.update _ _ _ _ = _
      rw [Function.update_self]
      exact (apart item.1 ((members item.1).mpr (.inl rfl))).symm
    have notFirst : first back none ≠ some address := fun isFirst =>
      addressOut (by simp only [List.map_append, List.mem_append, mem_of_first isFirst, or_true])
    have notLast : last none front ≠ some address := fun isLast =>
      addressOut (by simp only [List.map_append, List.mem_append, mem_of_last isLast, true_or])
    change Function.update _ _ _ _ = _
    rw [Function.update_of_ne same, setPrev_of_ne _ _ notFirst, setNext_of_ne _ _ notLast]
    exact elsewhere address fun mem => ((members address).mp mem).elim same addressOut
  · rw [list, split]
    simp only [List.length_append, List.length_cons]
    congr 1
    omega

/-- The reply of the abstract operation, and a state for what it leaves. -/
def Refines (base : Heap Addr Data)
    (done : Except DListFault (DListState Addr Data Key Destroy × DListReply Data Destroy))
    (spec : DListView Addr Data Key Destroy × DListReply Data Destroy) : Prop :=
  ∃ after, done = .ok (after, spec.2) ∧ Represents base after spec.1

omit [DecidableEq Addr] in
theorem Represents.list_eq {base : Heap Addr Data} {state : DListState Addr Data Key Destroy}
    {view : DListView Addr Data Key Destroy} (represents : Represents base state view) :
    state.list.head = first view.elements none ∧ state.list.tail = last none view.elements := by
  rw [represents.list]
  exact ⟨rfl, rfl⟩

/-- An insertion function refines `insertSpec place` when its pointer changes put the new
element where `place` does. -/
theorem insertElmt_refines {base : Heap Addr Data} {state : DListState Addr Data Key Destroy}
    {view : DListView Addr Data Key Destroy} (represents : Represents base state view)
    {link : Heap Addr Data → XDList Addr Data Key Destroy → Option Addr → Addr →
      Except DListFault (Heap Addr Data × XDList Addr Data Key Destroy)}
    {place : Addr → Addr × Data → List (Addr × Data) → List (Addr × Data)}
    {element : Option Addr} (data : Data) {malloc : Option (Addr × XDListElmt Addr Data)}
    (fresh : ∀ new found, malloc = some (new, found) →
      new ∉ view.elements.map Prod.fst ∧ base new = none)
    (links : ∀ address new found, element = some address → malloc = some (new, found) →
      ∃ front back, view.elements = front ++ back ∧
        place address (new, data) view.elements = front ++ (new, data) :: back ∧
        link (Function.update state.heap new (some { found with data := data })) state.list
            (some address) new =
          .ok (insertedHeap state.heap front back (new, data),
            { state.list with
              head := first (front ++ (new, data) :: back) none
              tail := last none (front ++ (new, data) :: back) }))
    (ofList : ∀ address, element = some address → address ∈ view.elements.map Prod.fst) :
    Refines base (insertElmt link state element data malloc)
      (insertSpec place view data malloc element) := by
  have empty := represents.size_eq_zero_iff
  cases element with
  | none =>
      unfold insertElmt
      by_cases isEmpty : view.elements = []
      · have size := empty.mpr isEmpty
        rw [if_neg (by simp [size])]
        rcases malloc with _ | ⟨new, found⟩
        · exact ⟨state, rfl, represents⟩
        · rcases fresh new found rfl with ⟨freshList, free⟩
          rw [insertSpec, if_pos isEmpty]
          have split : view.elements = [] ++ [] := isEmpty
          refine ⟨_, ?_, represents.insert split freshList free⟩
          change ((if iDListSize state.list = 0 then _ else _) >>= fun linked => _) = _
          rw [if_pos size, linkAlone_eq]
          rfl
      · rw [if_pos ⟨rfl, fun size => isEmpty (empty.mp size)⟩]
        have spec : insertSpec place view data malloc none = (view, { code := -1 }) := by
          rcases malloc with _ | ⟨new, found⟩
          · rfl
          · exact if_neg isEmpty
        rw [spec]
        exact ⟨state, rfl, represents⟩
  | some address =>
      unfold insertElmt
      rw [if_neg (by simp)]
      rcases malloc with _ | ⟨new, found⟩
      · exact ⟨state, rfl, represents⟩
      · rcases fresh new found rfl with ⟨freshList, free⟩
        rcases links address new found rfl rfl with ⟨front, back, split, placed, linked⟩
        have notEmpty : view.elements ≠ [] := by
          intro isEmpty
          simpa [isEmpty] using ofList address rfl
        rw [insertSpec, placed]
        refine ⟨_, ?_, represents.insert split freshList free⟩
        change ((if iDListSize state.list = 0 then _ else _) >>= fun linked => _) = _
        rw [if_neg fun size => notEmpty (empty.mp size), linked]
        rfl

omit [DecidableEq Addr] in
/-- The list in front of and behind one of its elements. -/
theorem Represents.exists_split {base : Heap Addr Data} {state : DListState Addr Data Key Destroy}
    {view : DListView Addr Data Key Destroy} (represents : Represents base state view)
    {address new : Addr} (ofList : address ∈ view.elements.map Prod.fst)
    (fresh : new ∉ view.elements.map Prod.fst) :
    ∃ front here back, view.elements = front ++ (address, here) :: back ∧
      Segment state.heap none (front ++ (address, here) :: back) none ∧
      ((front ++ (address, here) :: back).map Prod.fst).Nodup ∧
      new ∉ (front ++ (address, here) :: back).map Prod.fst := by
  rcases DList.exists_split ofList with ⟨front, here, back, split⟩
  exact ⟨front, here, back, split, split ▸ represents.linked, split ▸ represents.distinct,
    split ▸ fresh⟩

theorem iDListInsertAfter_refines {base : Heap Addr Data}
    {state : DListState Addr Data Key Destroy} {view : DListView Addr Data Key Destroy}
    (represents : Represents base state view) {element : Option Addr} (data : Data)
    {malloc : Option (Addr × XDListElmt Addr Data)}
    (fresh : ∀ new found, malloc = some (new, found) →
      new ∉ view.elements.map Prod.fst ∧ base new = none)
    (ofList : ∀ address, element = some address → address ∈ view.elements.map Prod.fst) :
    Refines base (iDListInsertAfter state element data malloc)
      (insertSpec insertAfter view data malloc element) := by
  refine insertElmt_refines represents data fresh ?_ ofList
  intro address new found isElement isNew
  rcases represents.exists_split (ofList address isElement) (fresh new found isNew).1 with
    ⟨front, here, back, split, linked, distinct, freshList⟩
  refine ⟨front ++ [(address, here)], back, by simp [split], ?_, ?_⟩
  · rw [split, insertAfter_split distinct]
    simp
  · rw [linkAfter_eq linked distinct freshList, insertedHeap,
      last_concat]
    congr 2
    rcases represents.list_eq with ⟨isHead, isTail⟩
    rw [split, first_append_cons] at isHead
    rw [split, last_append_cons] at isTail
    rw [List.append_assoc, List.singleton_append, first_append_cons, ← isHead, last_append_cons,
      last_cons]
    cases back with
    | nil => rfl
    | cons next rest =>
        rw [last_cons, ← last_cons (some address) next rest, ← isTail]
        rfl

theorem iDListInsertBefore_refines {base : Heap Addr Data}
    {state : DListState Addr Data Key Destroy} {view : DListView Addr Data Key Destroy}
    (represents : Represents base state view) {element : Option Addr} (data : Data)
    {malloc : Option (Addr × XDListElmt Addr Data)}
    (fresh : ∀ new found, malloc = some (new, found) →
      new ∉ view.elements.map Prod.fst ∧ base new = none)
    (ofList : ∀ address, element = some address → address ∈ view.elements.map Prod.fst) :
    Refines base (iDListInsertBefore state element data malloc)
      (insertSpec insertBefore view data malloc element) := by
  refine insertElmt_refines represents data fresh ?_ ofList
  intro address new found isElement isNew
  rcases represents.exists_split (ofList address isElement) (fresh new found isNew).1 with
    ⟨front, here, back, split, linked, distinct, freshList⟩
  refine ⟨front, (address, here) :: back, split, ?_, ?_⟩
  · rw [split, insertBefore_split distinct]
  · rw [linkBefore_eq linked distinct freshList, insertedHeap,
      first_cons]
    congr 2
    rcases represents.list_eq with ⟨isHead, isTail⟩
    rw [split, first_append_cons] at isHead
    rw [split, last_append_cons] at isTail
    rw [first_append_cons, last_append_cons, last_cons, ← isTail]
    cases front with
    | nil => rfl
    | cons next rest =>
        rw [first_cons] at isHead ⊢
        rw [← isHead]
        rfl

theorem iDListAppend_refines {base : Heap Addr Data} {state : DListState Addr Data Key Destroy}
    {view : DListView Addr Data Key Destroy} (represents : Represents base state view)
    (data : Data) {malloc : Option (Addr × XDListElmt Addr Data)}
    (fresh : ∀ new found, malloc = some (new, found) →
      new ∉ view.elements.map Prod.fst ∧ base new = none) :
    Refines base (iDListAppend state data malloc)
      (dlistSpec view (.append data malloc : DListCall Addr Data Key)) := by
  have tail : pxDListTail state.list = last none view.elements := represents.list_eq.2
  have atTail : insertSpec insertAfter view data malloc (last none view.elements) =
      dlistSpec view (.append data malloc : DListCall Addr Data Key) := by
    have distinct := represents.distinct
    rcases malloc with _ | ⟨new, found⟩
    · cases last none view.elements <;> rfl
    · rcases view with ⟨elements, fdestroy, fkey, fmatch⟩
      rcases elements.eq_nil_or_concat' with rfl | ⟨front, item, rfl⟩
      · rfl
      · rw [last_concat, insertSpec, insertAfter_split distinct]
        simp [dlistSpec]
  rw [iDListAppend, tail, ← atTail]
  exact iDListInsertAfter_refines represents data fresh fun address isLast => mem_of_last isLast

theorem iDListPrepend_refines {base : Heap Addr Data} {state : DListState Addr Data Key Destroy}
    {view : DListView Addr Data Key Destroy} (represents : Represents base state view)
    (data : Data) {malloc : Option (Addr × XDListElmt Addr Data)}
    (fresh : ∀ new found, malloc = some (new, found) →
      new ∉ view.elements.map Prod.fst ∧ base new = none) :
    Refines base (iDListPrepend state data malloc)
      (dlistSpec view (.prepend data malloc : DListCall Addr Data Key)) := by
  have head : pxDListHead state.list = first view.elements none := represents.list_eq.1
  have atHead : insertSpec insertBefore view data malloc (first view.elements none) =
      dlistSpec view (.prepend data malloc : DListCall Addr Data Key) := by
    rcases malloc with _ | ⟨new, found⟩
    · cases first view.elements none <;> rfl
    · rcases view with ⟨_ | ⟨item, rest⟩, fdestroy, fkey, fmatch⟩
      · rfl
      · simp [insertSpec, insertBefore, dlistSpec]
  rw [iDListPrepend, head, ← atHead]
  exact iDListInsertBefore_refines represents data fresh
    fun address isFirst => mem_of_first isFirst

theorem find?_split {front back : List (Addr × Data)} {item : Addr × Data}
    (distinct : ((front ++ item :: back).map Prod.fst).Nodup) :
    (front ++ item :: back).find? (fun other => some other.1 = some item.1) = some item := by
  induction front with
  | nil => simp
  | cons head rest ih =>
      rw [List.cons_append, List.map_cons, List.nodup_cons] at distinct
      have other : head.1 ≠ item.1 := fun same => distinct.1 (by simp [same])
      rw [List.cons_append, List.find?_cons_of_neg (by simp [other]), ih distinct.2]

theorem eraseP_split {front back : List (Addr × Data)} {item : Addr × Data}
    (distinct : ((front ++ item :: back).map Prod.fst).Nodup) :
    (front ++ item :: back).eraseP (fun other => some other.1 = some item.1) =
      front ++ back := by
  induction front with
  | nil => simp
  | cons head rest ih =>
      rw [List.cons_append, List.map_cons, List.nodup_cons] at distinct
      have other : head.1 ≠ item.1 := fun same => distinct.1 (by simp [same])
      rw [List.cons_append, List.eraseP_cons_of_neg (by simp [other]), ih distinct.2,
        List.cons_append]

theorem iDListRemove_split {base : Heap Addr Data} {state : DListState Addr Data Key Destroy}
    {view : DListView Addr Data Key Destroy} (represents : Represents base state view)
    {front back : List (Addr × Data)} {item : Addr × Data}
    (split : view.elements = front ++ item :: back) :
    Refines base (iDListRemove state (some item.1))
      ({ view with elements := front ++ back }, { code := 0, data := some item.2 }) := by
  have nonempty : iDListSize state.list ≠ 0 := fun size => by
    simpa [split] using represents.size_eq_zero_iff.mp size
  have linked := represents.linked
  have distinct := represents.distinct
  rcases represents.list_eq with ⟨isHead, isTail⟩
  rw [split] at linked distinct isHead isTail
  refine ⟨_, ?_, represents.erase split⟩
  rw [iDListRemove, if_neg (by simp [nonempty]), elmt_eq linked.cell]
  change (unlinkElmt _ _ _ >>= fun unlinked => _) = _
  rw [unlinkElmt_eq linked distinct state.list isHead isTail]
  have kept : (setPrev (setNext state.heap (last none front) (first back none))
      (first back none) (last none front) item.1).isSome := by
    rw [isSome_setPrev, isSome_setNext, linked.cell]
    rfl
  change (freeElmt _ _ >>= fun heap => _) = _
  rw [freeElmt_eq kept]
  rfl

theorem iDListRemove_refines {base : Heap Addr Data} {state : DListState Addr Data Key Destroy}
    {view : DListView Addr Data Key Destroy} (represents : Represents base state view)
    {element : Option Addr}
    (ofList : ∀ address, element = some address → address ∈ view.elements.map Prod.fst) :
    Refines base (iDListRemove state element)
      (dlistSpec view (.remove element : DListCall Addr Data Key)) := by
  cases element with
  | none =>
      have spec : dlistSpec view (.remove none : DListCall Addr Data Key) =
          (view, { code := -1 }) := by
        have notFound : view.elements.find? (fun item => some item.1 = none) = none :=
          List.find?_eq_none.mpr (by simp)
        rw [dlistSpec, notFound]
      rw [spec, iDListRemove, if_pos (.inl rfl)]
      exact ⟨state, rfl, represents⟩
  | some address =>
      rcases exists_split (ofList address rfl) with ⟨front, data, back, split⟩
      have distinct := represents.distinct
      rw [split] at distinct
      have spec : dlistSpec view (.remove (some address) : DListCall Addr Data Key) =
          ({ view with elements := front ++ back }, { code := 0, data := some data }) := by
        rw [dlistSpec, split, find?_split distinct]
        simp only [eraseP_split distinct]
      rw [spec]
      exact iDListRemove_split represents split

theorem removeAll_refines {base : Heap Addr Data} (elements : List (Addr × Data))
    {state : DListState Addr Data Key Destroy} {view : DListView Addr Data Key Destroy}
    (represents : Represents base state { view with elements })
    (destroyed : List (Destroy × Data)) :
    ∃ after, removeAll elements.length state destroyed =
        .ok (after, destroyed ++ view.fdestroy.toList.flatMap fun fdestroy =>
          elements.reverse.map fun item => (fdestroy, item.2)) ∧
      Represents base after { view with elements := [] } := by
  induction elements using List.reverseRecOn generalizing state destroyed with
  | nil =>
      refine ⟨state, ?_, represents⟩
      have size := represents.size_eq_zero_iff.mpr rfl
      rw [removeAll.eq_def]
      simp [size]
  | append_singleton front item ih =>
      have isTail : pxDListTail state.list = some item.1 := by
        rw [pxDListTail, represents.list_eq.2, last_concat]
      have size : iDListSize state.list > 0 := by
        rw [iDListSize, represents.list]
        simp
      rcases iDListRemove_split represents rfl with ⟨middle, removed, kept⟩
      rw [List.append_nil] at kept
      have destroyer : middle.list.fdestroy = view.fdestroy := by
        rw [kept.list]
      rw [List.length_append, List.length_singleton, removeAll.eq_def]
      simp only [if_pos size, isTail, removed]
      rcases ih kept (destroyed ++ destroyRemoved middle.list { code := 0, data := some item.2 })
        with ⟨after, ran, emptied⟩
      refine ⟨after, ?_, emptied⟩
      change removeAll front.length middle
        (destroyed ++ destroyRemoved middle.list { code := 0, data := some item.2 }) = _
      rw [ran, destroyRemoved, destroyer]
      cases view.fdestroy with
      | none => simp
      | some fdestroy => simp

theorem iDListDestroy_refines {base : Heap Addr Data} {state : DListState Addr Data Key Destroy}
    {view : DListView Addr Data Key Destroy} (represents : Represents base state view) :
    Refines base (iDListDestroy state)
      (dlistSpec view (.destroy : DListCall Addr Data Key)) := by
  rcases removeAll_refines view.elements represents [] with ⟨after, emptied, kept⟩
  have size : (iDListSize state.list).toNat = view.elements.length := by
    rw [iDListSize, represents.list]
    rfl
  refine ⟨⟨after.heap, iDListInit none⟩, ?_, ?_⟩
  · rw [iDListDestroy, size, emptied]
    rfl
  · exact ⟨trivial, List.nodup_nil, fun _ mem => absurd mem List.not_mem_nil,
      kept.elsewhere, rfl⟩

/-- Every operation on an element of the list, or none, returns with the answer of the
operation on the sequence and leaves the list that represents its result. -/
theorem dlistCall_refines {base : Heap Addr Data} {state : DListState Addr Data Key Destroy}
    {view : DListView Addr Data Key Destroy} (represents : Represents base state view)
    {call : DListCall Addr Data Key} (allowed : DListAllowed base view call) :
    Refines base (dlistCall state call) (dlistSpec view call) := by
  cases call with
  | insertAfter element data malloc =>
      exact iDListInsertAfter_refines represents data allowed.2 allowed.1
  | insertBefore element data malloc =>
      exact iDListInsertBefore_refines represents data allowed.2 allowed.1
  | append data malloc => exact iDListAppend_refines represents data allowed
  | prepend data malloc => exact iDListPrepend_refines represents data allowed
  | remove element => exact iDListRemove_refines represents allowed
  | initSearch fkey fmatch =>
      refine ⟨_, rfl, represents.linked, represents.distinct, represents.apart,
        represents.elsewhere, ?_⟩
      rw [iDListInitSearch, represents.list]
      rfl
  | destroy => exact iDListDestroy_refines represents

omit [DecidableEq Addr] in
theorem findFrom_eq (heap : Heap Addr Data) (accepts : Addr → Bool) {before : Option Addr}
    {elements : List (Addr × Data)} (linked : Segment heap before elements none)
    (nonempty : elements ≠ []) :
    findFrom heap accepts elements.length (first elements none) =
      .ok ((elements.map Prod.fst).find? accepts) := by
  induction elements generalizing before with
  | nil => exact absurd rfl nonempty
  | cons item rest ih =>
      rw [List.length_cons, first_cons, findFrom, List.map_cons]
      by_cases accepted : accepts item.1 = true
      · rw [if_pos accepted, List.find?_cons_of_pos accepted]
      · rw [if_neg accepted, List.find?_cons_of_neg accepted]
        have next : pxDListElmtNext heap (some item.1) = .ok (first rest none) := by
          rw [pxDListElmtNext, elmt_eq linked.1]
          rfl
        rw [next]
        cases rest with
        | nil => rfl
        | cons following rest => exact ih linked.2 (by simp)

omit [DecidableEq Addr] in
theorem pxDListFindFirst_eq {base : Heap Addr Data} {state : DListState Addr Data Key Destroy}
    {view : DListView Addr Data Key Destroy} (represents : Represents base state view)
    (key : Key) :
    pxDListFindFirst state key =
      .ok (match view.fkey, view.fmatch with
        | some fkey, some fmatch =>
            (view.elements.map Prod.fst).find? fun address =>
              fmatch key (fkey state.heap address) = 0
        | _, _ => none) := by
  have empty := represents.size_eq_zero_iff
  have length : (iDListSize state.list).toNat = view.elements.length := by
    rw [iDListSize, represents.list]
    rfl
  have head : pxDListHead state.list = first view.elements none := represents.list_eq.1
  have functions : state.list.fkey = view.fkey ∧ state.list.fmatch = view.fmatch := by
    rw [represents.list]
    exact ⟨rfl, rfl⟩
  rw [pxDListFindFirst, functions.1, functions.2]
  rcases view.fkey with _ | fkey
  · rfl
  rcases view.fmatch with _ | fmatch
  · rfl
  by_cases isEmpty : view.elements = []
  · simp [empty.mpr isEmpty, isEmpty]
  · simp only [ne_eq, empty, isEmpty, not_false_eq_true, if_true, length, head]
    exact findFrom_eq _ _ represents.linked isEmpty

/-- What a program can see of a list that holds a sequence. -/
structure Observed (state : DListState Addr Data Key Destroy)
    (view : DListView Addr Data Key Destroy) : Prop where
  forward : Walk state.heap Cell.next (pxDListHead state.list) view.elements
  backward : Walk state.heap Cell.prev (pxDListTail state.list) view.elements.reverse
  head : pxDListHead state.list = (view.elements.map Prod.fst).head?
  tail : pxDListTail state.list = (view.elements.map Prod.fst).getLast?
  size : iDListSize state.list = view.elements.length
  found : ∀ key, pxDListFindFirst state key =
    .ok (match view.fkey, view.fmatch with
      | some fkey, some fmatch =>
          (view.elements.map Prod.fst).find? fun address =>
            fmatch key (fkey state.heap address) = 0
      | _, _ => none)

omit [DecidableEq Addr] in
theorem Represents.observed {base : Heap Addr Data} {state : DListState Addr Data Key Destroy}
    {view : DListView Addr Data Key Destroy} (represents : Represents base state view) :
    Observed state view := by
  rcases represents.list_eq with ⟨isHead, isTail⟩
  refine ⟨?_, ?_, ?_, ?_, ?_, pxDListFindFirst_eq represents⟩
  · rw [pxDListHead, isHead]
    exact represents.linked.walk_next
  · rw [pxDListTail, isTail]
    exact represents.linked.walk_prev
  · rw [pxDListHead, isHead, first_eq_head?]
  · rw [pxDListTail, isTail, last_eq_getLast?]
  · rw [iDListSize, represents.list]

theorem insertElmt_failed
    {link : Heap Addr Data → XDList Addr Data Key Destroy → Option Addr → Addr →
      Except DListFault (Heap Addr Data × XDList Addr Data Key Destroy)}
    {state after : DListState Addr Data Key Destroy} {element : Option Addr} {data : Data}
    {malloc : Option (Addr × XDListElmt Addr Data)} {reply : DListReply Data Destroy}
    (called : insertElmt link state element data malloc = .ok (after, reply))
    (failed : reply.code = -1) : after = state := by
  unfold insertElmt at called
  by_cases refused : element = none ∧ iDListSize state.list ≠ 0
  · rw [if_pos refused] at called
    cases called
    rfl
  rw [if_neg refused] at called
  rcases malloc with _ | ⟨new, found⟩
  · cases called
    rfl
  rcases linked : (if iDListSize state.list = 0
      then linkAlone (Function.update state.heap new (some { found with data := data }))
        state.list new
      else link (Function.update state.heap new (some { found with data := data }))
        state.list element new) with _ | linkedTo
  · simp only [linked] at called
    cases called
  · simp only [linked] at called
    cases called
    cases failed

theorem dlistCall_failed {state after : DListState Addr Data Key Destroy}
    {call : DListCall Addr Data Key} {reply : DListReply Data Destroy}
    (called : dlistCall state call = .ok (after, reply)) (failed : reply.code = -1) :
    after = state := by
  cases call with
  | insertAfter | insertBefore | append | prepend => exact insertElmt_failed called failed
  | remove element =>
      change iDListRemove state element = _ at called
      rw [iDListRemove] at called
      by_cases refused : element = none ∨ iDListSize state.list = 0
      · rw [if_pos refused] at called
        cases called
        rfl
      · rw [if_neg refused] at called
        rcases exists_of_bind_eq_ok called with ⟨removed, -, called⟩
        rcases exists_of_bind_eq_ok called with ⟨unlinked, -, called⟩
        rcases exists_of_bind_eq_ok called with ⟨heap, -, called⟩
        cases called
        cases failed
  | initSearch =>
      cases called
      cases failed
  | destroy =>
      rcases exists_of_bind_eq_ok called with ⟨removed, -, called⟩
      cases called
      cases failed

/-- From an initialised list, whatever operations are called on its elements and whichever
allocations fail, every call returns with the answer of the same operation on a sequence, and the
list shows that sequence; a further call that answers -1 changes nothing. -/
theorem dlist_refines_sequence (base : Heap Addr Data) (fdestroy : Option Destroy)
    (calls : List (DListCall Addr Data Key))
    (promised : Allowed dlistSpec (DListAllowed base)
      (⟨[], fdestroy, none, none⟩ : DListView Addr Data Key Destroy) calls) :
    ∃ after, run dlistCall ⟨base, iDListInit fdestroy⟩ calls =
        .ok (after, (abstractRun dlistSpec
          (⟨[], fdestroy, none, none⟩ : DListView Addr Data Key Destroy) calls).2) ∧
      Observed after (abstractRun dlistSpec ⟨[], fdestroy, none, none⟩ calls).1 ∧
      ∀ call next reply, dlistCall after call = .ok (next, reply) → reply.code = -1 →
        next = after := by
  have start : Represents base
      (⟨base, iDListInit fdestroy⟩ : DListState Addr Data Key Destroy)
      ⟨[], fdestroy, none, none⟩ :=
    ⟨trivial, List.nodup_nil, fun _ mem => absurd mem List.not_mem_nil, fun _ _ => rfl, rfl⟩
  rcases run_refines (fun _ _ _ represents allowed =>
    dlistCall_refines represents allowed) start promised with ⟨after, ran, represents⟩
  exact ⟨after, ran, represents.observed, fun _ _ _ called failed =>
    dlistCall_failed called failed⟩

theorem dlist_refines_sequence_emptied :
    ∃ after, run dlistCall
        (⟨fun _ => none, iDListInit (some ())⟩ : DListState ℕ ℕ ℕ Unit)
        [.append 10 (some (1, ⟨0, none, none⟩)), .prepend 20 none,
          .insertBefore (some 1) 30 (some (2, ⟨0, some 5, none⟩)), .remove (some 1),
          .append 40 (some (1, ⟨10, none, none⟩)), .destroy] =
        .ok (after, [{ code := 0 }, { code := -1 }, { code := 0 }, { code := 0, data := some 10 },
          { code := 0 }, { code := 0, destroyed := [((), 40), ((), 30)] }]) ∧
      Observed after ⟨[], none, none, none⟩ ∧
      ∀ call next reply, dlistCall after call = .ok (next, reply) → reply.code = -1 →
        next = after :=
  dlist_refines_sequence (fun _ => none) (some ())
    [.append 10 (some (1, ⟨0, none, none⟩)), .prepend 20 none,
      .insertBefore (some 1) 30 (some (2, ⟨0, some 5, none⟩)), .remove (some 1),
      .append 40 (some (1, ⟨10, none, none⟩)), .destroy]
    (by
      simp [Allowed, DListAllowed, dlistSpec, insertSpec, insertBefore])

end Sysio.DList
