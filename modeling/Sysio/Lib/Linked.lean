import Mathlib.Data.List.Nodup
import Mathlib.Logic.Function.Basic

/-!
# Doubly linked cells

A memory of cells, each with the addresses of its two neighbours. `Segment` says that a sequence
of cells is linked in the memory in both directions, between the address `before` of what
precedes it and the address `after` of what follows. Linking a new cell between two segments
(`Segment.insert`) and taking one out (`Segment.erase`) change the memory at the two cells on
either side and nowhere else.
-/

namespace Linked

universe u v

variable {Addr : Type u} {Data : Type v}

/-- A cell of a list with links in both directions. -/
structure Cell (Addr : Type u) (Data : Type v) where
  data : Data
  prev : Option Addr
  next : Option Addr
deriving DecidableEq, Repr

/-- The cells by their addresses. -/
abbrev Memory (Addr : Type u) (Data : Type v) := Addr → Option (Cell Addr Data)

/-- The address of the first cell, or what follows when there is none. -/
def first : List (Addr × Data) → Option Addr → Option Addr
  | [], after => after
  | item :: _, _ => some item.1

/-- The address of the last cell, or what precedes when there is none. -/
def last : Option Addr → List (Addr × Data) → Option Addr
  | before, [] => before
  | _, item :: rest => last (some item.1) rest

/-- Cells one behind the other, linked in both directions. -/
def Segment (memory : Memory Addr Data) :
    Option Addr → List (Addr × Data) → Option Addr → Prop
  | _, [], _ => True
  | before, item :: rest, after =>
      memory item.1 = some ⟨item.2, before, first rest after⟩ ∧
        Segment memory (some item.1) rest after

/-- Following one of the two addresses of each cell, from `start` until there is none, visits
these cells. -/
def Walk (memory : Memory Addr Data) (follow : Cell Addr Data → Option Addr) :
    Option Addr → List (Addr × Data) → Prop
  | start, [] => start = none
  | start, item :: rest =>
      start = some item.1 ∧ ∃ cell, memory item.1 = some cell ∧ cell.data = item.2 ∧
        Walk memory follow (follow cell) rest

@[simp]
theorem first_nil (after : Option Addr) :
    first ([] : List (Addr × Data)) after = after := rfl

@[simp]
theorem first_cons (item : Addr × Data) (rest : List (Addr × Data)) (after : Option Addr) :
    first (item :: rest) after = some item.1 := rfl

@[simp]
theorem last_nil (before : Option Addr) :
    last before ([] : List (Addr × Data)) = before := rfl

@[simp]
theorem last_cons (before : Option Addr) (item : Addr × Data) (rest : List (Addr × Data)) :
    last before (item :: rest) = last (some item.1) rest := rfl

theorem first_append (items more : List (Addr × Data)) (after : Option Addr) :
    first (items ++ more) after = first items (first more after) := by
  cases items <;> rfl

theorem last_append (before : Option Addr) (items more : List (Addr × Data)) :
    last before (items ++ more) = last (last before items) more := by
  induction items generalizing before with
  | nil => rfl
  | cons item rest ih => exact ih (some item.1)

@[simp]
theorem first_append_cons (items : List (Addr × Data)) (item : Addr × Data)
    (more : List (Addr × Data)) (after : Option Addr) :
    first (items ++ item :: more) after = first items (some item.1) :=
  first_append items (item :: more) after

@[simp]
theorem last_append_cons (before : Option Addr) (items : List (Addr × Data))
    (item : Addr × Data) (more : List (Addr × Data)) :
    last before (items ++ item :: more) = last (some item.1) more :=
  last_append before items (item :: more)

@[simp]
theorem last_concat (before : Option Addr) (items : List (Addr × Data)) (item : Addr × Data) :
    last before (items ++ [item]) = some item.1 := by
  rw [last_append, last_cons, last_nil]

theorem first_eq_head? (items : List (Addr × Data)) :
    first items none = (items.map Prod.fst).head? := by
  cases items <;> rfl

theorem last_eq_getLast? (items : List (Addr × Data)) :
    last none items = (items.map Prod.fst).getLast? := by
  rcases items.eq_nil_or_concat' with rfl | ⟨front, item, rfl⟩
  · rfl
  · simp

theorem mem_of_first {items : List (Addr × Data)} {address : Addr}
    (isFirst : first items none = some address) : address ∈ items.map Prod.fst := by
  rw [first_eq_head?] at isFirst
  exact List.mem_of_head? isFirst

theorem mem_of_last {items : List (Addr × Data)} {address : Addr}
    (isLast : last none items = some address) : address ∈ items.map Prod.fst := by
  rw [last_eq_getLast?] at isLast
  exact List.mem_of_getLast? isLast

theorem first_outside {items back : List (Addr × Data)}
    (apart : (items.map Prod.fst).Disjoint (back.map Prod.fst)) :
    ∀ address ∈ items.map Prod.fst, first back none ≠ some address :=
  fun _ mem isFirst => apart mem (mem_of_first isFirst)

theorem last_outside {front items : List (Addr × Data)}
    (apart : (front.map Prod.fst).Disjoint (items.map Prod.fst)) :
    ∀ address ∈ items.map Prod.fst, last none front ≠ some address :=
  fun _ mem isLast => apart (mem_of_last isLast) mem

theorem segment_append (memory : Memory Addr Data) (before after : Option Addr)
    (items more : List (Addr × Data)) :
    Segment memory before (items ++ more) after ↔
      Segment memory before items (first more after) ∧
        Segment memory (last before items) more after := by
  induction items generalizing before with
  | nil => simp [Segment]
  | cons item rest ih =>
      simp only [List.cons_append, Segment, first_append, last_cons, ih, and_assoc]

theorem Segment.cell {memory : Memory Addr Data} {before after : Option Addr}
    {front back : List (Addr × Data)} {item : Addr × Data}
    (linked : Segment memory before (front ++ item :: back) after) :
    memory item.1 = some ⟨item.2, last before front, first back after⟩ :=
  ((segment_append memory before after front (item :: back)).mp linked).2.1

theorem Segment.congr {memory memory' : Memory Addr Data} {before after : Option Addr}
    {items : List (Addr × Data)} (linked : Segment memory before items after)
    (agree : ∀ address ∈ items.map Prod.fst, memory' address = memory address) :
    Segment memory' before items after := by
  induction items generalizing before with
  | nil => trivial
  | cons item rest ih =>
      refine ⟨?_, ih linked.2 fun address addressMem => ?_⟩
      · rw [agree item.1 (by simp)]
        exact linked.1
      · exact agree address (List.mem_cons_of_mem _ addressMem)

theorem Segment.walk_next {memory : Memory Addr Data} {before : Option Addr}
    {items : List (Addr × Data)} (linked : Segment memory before items none) :
    Walk memory Cell.next (first items none) items := by
  induction items generalizing before with
  | nil => rfl
  | cons item rest ih => exact ⟨rfl, _, linked.1, rfl, ih linked.2⟩

theorem Segment.walk_prev_append {memory : Memory Addr Data} {before after : Option Addr}
    {items behind : List (Addr × Data)} (linked : Segment memory before items after)
    (walked : Walk memory Cell.prev before behind) :
    Walk memory Cell.prev (last before items) (items.reverse ++ behind) := by
  induction items generalizing before behind with
  | nil => exact walked
  | cons item rest ih =>
      have extended : Walk memory Cell.prev (some item.1) (item :: behind) :=
        ⟨rfl, _, linked.1, rfl, walked⟩
      simpa using ih linked.2 extended

theorem Segment.walk_prev {memory : Memory Addr Data} {after : Option Addr}
    {items : List (Addr × Data)} (linked : Segment memory none items after) :
    Walk memory Cell.prev (last none items) items.reverse := by
  have walked : Walk memory Cell.prev none ([] : List (Addr × Data)) := rfl
  simpa using linked.walk_prev_append walked

section Update

variable [DecidableEq Addr]

/-- Change the `next` of the cell at an address, if there is one. -/
def setNext (memory : Memory Addr Data) : Option Addr → Option Addr → Memory Addr Data
  | none, _ => memory
  | some address, next =>
      Function.update memory address ((memory address).map fun cell => { cell with next })

/-- Change the `prev` of the cell at an address, if there is one. -/
def setPrev (memory : Memory Addr Data) : Option Addr → Option Addr → Memory Addr Data
  | none, _ => memory
  | some address, prev =>
      Function.update memory address ((memory address).map fun cell => { cell with prev })

theorem setNext_of_ne (memory : Memory Addr Data) {place : Option Addr} (next : Option Addr)
    {address : Addr} (other : place ≠ some address) :
    setNext memory place next address = memory address := by
  cases place with
  | none => rfl
  | some place => exact Function.update_of_ne (fun same => other (congrArg some same.symm)) _ _

theorem setPrev_of_ne (memory : Memory Addr Data) {place : Option Addr} (prev : Option Addr)
    {address : Addr} (other : place ≠ some address) :
    setPrev memory place prev address = memory address := by
  cases place with
  | none => rfl
  | some place => exact Function.update_of_ne (fun same => other (congrArg some same.symm)) _ _

@[simp]
theorem isSome_setNext (memory : Memory Addr Data) (place next : Option Addr) (address : Addr) :
    (setNext memory place next address).isSome = (memory address).isSome := by
  cases place with
  | none => rfl
  | some place =>
      by_cases same : address = place
      · subst same
        simp [setNext]
      · simp [setNext, same]

@[simp]
theorem isSome_setPrev (memory : Memory Addr Data) (place prev : Option Addr) (address : Addr) :
    (setPrev memory place prev address).isSome = (memory address).isSome := by
  cases place with
  | none => rfl
  | some place =>
      by_cases same : address = place
      · subst same
        simp [setPrev]
      · simp [setPrev, same]

theorem setNext_setPrev_comm (memory : Memory Addr Data) (place place' : Option Addr)
    (next prev : Option Addr) :
    setNext (setPrev memory place prev) place' next =
      setPrev (setNext memory place' next) place prev := by
  rcases place with _ | address
  · rfl
  rcases place' with _ | address'
  · rfl
  by_cases same : address = address'
  · subst same
    funext other
    by_cases here : other = address
    · subst here
      simp [setNext, setPrev, Function.comp_def]
    · simp [setNext, setPrev, here]
  · funext other
    by_cases here : other = address
    · subst here
      simp [setNext, setPrev, same]
    · by_cases there : other = address'
      · subst there
        simp [setNext, setPrev, here]
      · simp [setNext, setPrev, here, there]

/-- The last cell's `next` is what follows the segment. -/
theorem Segment.setNext_last {memory : Memory Addr Data} {before after : Option Addr}
    {items : List (Addr × Data)} (linked : Segment memory before items after)
    (distinct : (items.map Prod.fst).Nodup) (next : Option Addr) :
    Segment (setNext memory (last none items) next) before items next := by
  rcases items.eq_nil_or_concat' with rfl | ⟨front, item, rfl⟩
  · trivial
  rw [last_concat]
  have cell := Segment.cell linked
  rcases (segment_append memory before after front [item]).mp linked with ⟨frontLinked, -⟩
  refine (segment_append _ before next front [item]).mpr ⟨?_, ?_, trivial⟩
  · refine frontLinked.congr fun address addressMem => setNext_of_ne memory next fun same => ?_
    rw [List.map_append, List.nodup_append] at distinct
    exact distinct.2.2 address addressMem item.1 (by simp) (Option.some.inj same).symm
  · simp [setNext, cell]

/-- The first cell's `prev` is what precedes the segment. -/
theorem Segment.setPrev_first {memory : Memory Addr Data} {before after : Option Addr}
    {items : List (Addr × Data)} (linked : Segment memory before items after)
    (distinct : (items.map Prod.fst).Nodup) (prev : Option Addr) :
    Segment (setPrev memory (first items none) prev) prev items after := by
  cases items with
  | nil => trivial
  | cons item rest =>
      refine ⟨?_, linked.2.congr fun address addressMem =>
        setPrev_of_ne memory prev fun same => ?_⟩
      · simp [setPrev, linked.1]
      · have sameAddress : item.1 = address := Option.some.inj same
        exact (List.nodup_cons.mp distinct).1 (sameAddress ▸ addressMem)

theorem Segment.setNext_outside {memory : Memory Addr Data} {before after : Option Addr}
    {items : List (Addr × Data)} (linked : Segment memory before items after)
    {place : Option Addr} (outside : ∀ address ∈ items.map Prod.fst, place ≠ some address)
    (next : Option Addr) : Segment (setNext memory place next) before items after :=
  linked.congr fun address addressMem => setNext_of_ne memory next (outside address addressMem)

theorem Segment.setPrev_outside {memory : Memory Addr Data} {before after : Option Addr}
    {items : List (Addr × Data)} (linked : Segment memory before items after)
    {place : Option Addr} (outside : ∀ address ∈ items.map Prod.fst, place ≠ some address)
    (prev : Option Addr) : Segment (setPrev memory place prev) before items after :=
  linked.congr fun address addressMem => setPrev_of_ne memory prev (outside address addressMem)

theorem Segment.update_outside {memory : Memory Addr Data} {before after : Option Addr}
    {items : List (Addr × Data)} (linked : Segment memory before items after) {address : Addr}
    (outside : address ∉ items.map Prod.fst) (cell : Option (Cell Addr Data)) :
    Segment (Function.update memory address cell) before items after :=
  linked.congr fun other otherMem =>
    Function.update_of_ne (fun same : other = address => outside (same ▸ otherMem)) _ _

/-- A new cell between two segments; neither it nor the order of the two updates of its
neighbours disturbs the other cells. -/
theorem Segment.insert {memory : Memory Addr Data} {front back : List (Addr × Data)}
    {item : Addr × Data} (linked : Segment memory none (front ++ back) none)
    (distinct : ((front ++ item :: back).map Prod.fst).Nodup) :
    Segment
      (setNext
        (setPrev
          (Function.update memory item.1 (some ⟨item.2, last none front, first back none⟩))
          (first back none) (some item.1))
        (last none front) (some item.1))
      none (front ++ item :: back) none := by
  rw [List.map_append, List.map_cons, List.nodup_append', List.nodup_cons] at distinct
  rcases distinct with ⟨frontDistinct, ⟨freshBack, backDistinct⟩, apart⟩
  rcases (segment_append memory none none front back).mp linked with ⟨frontLinked, backLinked⟩
  rcases List.disjoint_cons_right.mp apart with ⟨freshFront, apart⟩
  have firstOutside := first_outside apart
  have lastOutside := last_outside apart
  have firstOther : first back none ≠ some item.1 :=
    fun isFirst => freshBack (mem_of_first isFirst)
  have lastOther : last none front ≠ some item.1 :=
    fun isLast => freshFront (mem_of_last isLast)
  have putFront := frontLinked.update_outside freshFront
    (some ⟨item.2, last none front, first back none⟩)
  have putBack := backLinked.update_outside freshBack
    (some ⟨item.2, last none front, first back none⟩)
  refine (segment_append _ none none front (item :: back)).mpr ⟨?_, ?_, ?_⟩
  · exact (putFront.setPrev_outside firstOutside _).setNext_last frontDistinct _
  · rw [setNext_of_ne _ _ lastOther, setPrev_of_ne _ _ firstOther, Function.update_self]
  · exact (putBack.setPrev_first backDistinct _).setNext_outside lastOutside _

/-- The cell between two segments is taken out and its memory given back. -/
theorem Segment.erase {memory : Memory Addr Data} {front back : List (Addr × Data)}
    {item : Addr × Data} (linked : Segment memory none (front ++ item :: back) none)
    (distinct : ((front ++ item :: back).map Prod.fst).Nodup) :
    Segment
      (Function.update
        (setPrev (setNext memory (last none front) (first back none)) (first back none)
          (last none front))
        item.1 none)
      none (front ++ back) none := by
  rw [List.map_append, List.map_cons, List.nodup_append', List.nodup_cons] at distinct
  rcases distinct with ⟨frontDistinct, ⟨freshBack, backDistinct⟩, apart⟩
  rcases (segment_append memory none none front (item :: back)).mp linked with
    ⟨frontLinked, -, backLinked⟩
  rcases List.disjoint_cons_right.mp apart with ⟨freshFront, apart⟩
  have firstOutside := first_outside apart
  have lastOutside := last_outside apart
  refine (segment_append _ none none front back).mpr ⟨?_, ?_⟩
  · exact ((frontLinked.setNext_last frontDistinct _).setPrev_outside
      firstOutside _).update_outside freshFront none
  · exact ((backLinked.setNext_outside lastOutside _).setPrev_first
      backDistinct _).update_outside freshBack none

end Update

end Linked
