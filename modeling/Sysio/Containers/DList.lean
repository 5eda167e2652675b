import Mathlib.Data.Int.Notation
import Mathlib.Data.Nat.Notation
import Sysio.Lib.Linked
import Sysio.Lib.Refinement

/-!
# The doubly linked list

`src/dlist.c` on an existing list (the answers to a null `list` are left out). The elements live
in a memory of cells shared with the rest of the program; reading or writing through a null
pointer, or where no cell is allocated, is a fault. `malloc` is the environment's: it fails or
gives an address together with the cell found there, whose fields are whatever they were.

`iDListDestroy` and `pxDListFindFirst` loop as long as the list says so. The loops are given as
many rounds as the list has elements by its counter, and going on beyond them is the fault
`endless`. The counter is an integer without a bound: an `int` overflows from 2^31 elements on, and
so many take 64 GiB.
-/

namespace Sysio.DList

variable {Addr Data Key Destroy : Type} [DecidableEq Addr]

/-- How an access to an element goes wrong, or a loop does not end. -/
inductive DListFault where
  | nullPointer
  | notAllocated
  | endless
deriving DecidableEq, Repr

/-- An element of the list. -/
abbrev XDListElmt (Addr Data : Type) := Linked.Cell Addr Data

/-- The memory of the elements. -/
abbrev Heap (Addr Data : Type) := Linked.Memory Addr Data

/-- The list, with the functions of its user. -/
structure XDList (Addr Data Key Destroy : Type) where
  size : ℤ
  head : Option Addr
  tail : Option Addr
  fdestroy : Option Destroy
  fkey : Option (Heap Addr Data → Addr → Key)
  fmatch : Option (Key → Key → ℤ)

/-- The memory and the list in it. -/
structure DListState (Addr Data Key Destroy : Type) where
  heap : Heap Addr Data
  list : XDList Addr Data Key Destroy

/-- The returned value, what `*data` is set to, and the calls of the destroy function. -/
structure DListReply (Data Destroy : Type) where
  code : ℤ
  data : Option Data := none
  destroyed : List (Destroy × Data) := []

/-- The element at an address. -/
def elmt (heap : Heap Addr Data) : Option Addr → Except DListFault (XDListElmt Addr Data)
  | none => .error .nullPointer
  | some address =>
      match heap address with
      | none => .error .notAllocated
      | some cell => .ok cell

/-- The element at an address is changed. -/
def storeElmt (heap : Heap Addr Data) (element : Option Addr)
    (change : XDListElmt Addr Data → XDListElmt Addr Data) : Except DListFault (Heap Addr Data) :=
  match element with
  | none => .error .nullPointer
  | some address =>
      match heap address with
      | none => .error .notAllocated
      | some cell => .ok (Function.update heap address (some (change cell)))

/-- A list without elements. -/
def iDListInit (fdestroy : Option Destroy) : XDList Addr Data Key Destroy where
  size := 0
  head := none
  tail := none
  fdestroy := fdestroy
  fkey := none
  fmatch := none

/-- The functions for the search. -/
def iDListInitSearch (list : XDList Addr Data Key Destroy)
    (fkey : Option (Heap Addr Data → Addr → Key)) (fmatch : Option (Key → Key → ℤ)) :
    XDList Addr Data Key Destroy :=
  { list with fkey, fmatch }

/-- The number of elements. -/
def iDListSize (list : XDList Addr Data Key Destroy) : ℤ := list.size

/-- The first element. -/
def pxDListHead (list : XDList Addr Data Key Destroy) : Option Addr := list.head

/-- The last element. -/
def pxDListTail (list : XDList Addr Data Key Destroy) : Option Addr := list.tail

/-- The next element, and none behind none. -/
def pxDListElmtNext (heap : Heap Addr Data) (element : Option Addr) :
    Except DListFault (Option Addr) :=
  match element with
  | none => .ok none
  | some address => do
      let cell ← elmt heap (some address)
      return cell.next

/-- The element at an address is freed. -/
def freeElmt (heap : Heap Addr Data) : Option Addr → Except DListFault (Heap Addr Data)
  | none => .ok heap
  | some address =>
      match heap address with
      | none => .error .notAllocated
      | some _ => .ok (Function.update heap address none)

/-- The pointer changes of `iDListRemove`. -/
def unlinkElmt (heap : Heap Addr Data) (list : XDList Addr Data Key Destroy)
    (element : Option Addr) :
    Except DListFault (Heap Addr Data × XDList Addr Data Key Destroy) := do
  let removed ← elmt heap element
  if element = list.head then
    if removed.next = none then
      return (heap, { list with head := removed.next, tail := none })
    else
      let heap ← storeElmt heap removed.next fun cell => { cell with prev := none }
      return (heap, { list with head := removed.next })
  else
    let heap ← storeElmt heap removed.prev fun cell => { cell with next := removed.next }
    let removed ← elmt heap element
    if removed.next = none then
      return (heap, { list with tail := removed.prev })
    else
      let heap ← storeElmt heap removed.next fun cell => { cell with prev := removed.prev }
      return (heap, list)

/-- An element is taken out of the list and freed; its data are handed over. -/
def iDListRemove (state : DListState Addr Data Key Destroy) (element : Option Addr) :
    Except DListFault (DListState Addr Data Key Destroy × DListReply Data Destroy) := do
  if element = none ∨ iDListSize state.list = 0 then
    return (state, { code := -1 })
  else
    let removed ← elmt state.heap element
    let unlinked ← unlinkElmt state.heap state.list element
    let heap ← freeElmt unlinked.1 element
    return (⟨heap, { unlinked.2 with size := unlinked.2.size - 1 }⟩,
      { code := 0, data := some removed.data })

/-- The call of the destroy function after a removal. -/
def destroyRemoved (list : XDList Addr Data Key Destroy) (removed : DListReply Data Destroy) :
    List (Destroy × Data) :=
  match removed.code, list.fdestroy, removed.data with
  | 0, some fdestroy, some data => [(fdestroy, data)]
  | _, _, _ => []

/-- The loop of `iDListDestroy`, with the calls of the destroy function made so far. -/
def removeAll : ℕ → DListState Addr Data Key Destroy → List (Destroy × Data) →
    Except DListFault (DListState Addr Data Key Destroy × List (Destroy × Data))
  | rounds, state, destroyed =>
      if iDListSize state.list > 0 then
        match rounds with
        | 0 => .error .endless
        | rounds + 1 => do
            let removed ← iDListRemove state (pxDListTail state.list)
            removeAll rounds removed.1 (destroyed ++ destroyRemoved removed.1.list removed.2)
      else .ok (state, destroyed)

/-- All elements are removed, and their data destroyed. -/
def iDListDestroy (state : DListState Addr Data Key Destroy) :
    Except DListFault (DListState Addr Data Key Destroy × DListReply Data Destroy) := do
  let removed ← removeAll (iDListSize state.list).toNat state []
  return (⟨removed.1.heap, iDListInit none⟩, { code := 0, destroyed := removed.2 })

/-- The new element of an empty list. -/
def linkAlone (heap : Heap Addr Data) (list : XDList Addr Data Key Destroy) (new : Addr) :
    Except DListFault (Heap Addr Data × XDList Addr Data Key Destroy) := do
  let heap ← storeElmt heap (some new) fun cell => { cell with prev := none }
  let heap ← storeElmt heap (some new) fun cell => { cell with next := none }
  return (heap, { list with head := some new, tail := some new })

/-- The pointer changes of `iDListInsertAfter` in a list that is not empty. -/
def linkAfter (heap : Heap Addr Data) (list : XDList Addr Data Key Destroy)
    (element : Option Addr) (new : Addr) :
    Except DListFault (Heap Addr Data × XDList Addr Data Key Destroy) := do
  let reference ← elmt heap element
  let heap ← storeElmt heap (some new) fun cell => { cell with next := reference.next }
  let heap ← storeElmt heap (some new) fun cell => { cell with prev := element }
  let reference ← elmt heap element
  if reference.next = none then
    let heap ← storeElmt heap element fun cell => { cell with next := some new }
    return (heap, { list with tail := some new })
  else
    let heap ← storeElmt heap reference.next fun cell => { cell with prev := some new }
    let heap ← storeElmt heap element fun cell => { cell with next := some new }
    return (heap, list)

/-- The pointer changes of `iDListInsertBefore` in a list that is not empty. -/
def linkBefore (heap : Heap Addr Data) (list : XDList Addr Data Key Destroy)
    (element : Option Addr) (new : Addr) :
    Except DListFault (Heap Addr Data × XDList Addr Data Key Destroy) := do
  let heap ← storeElmt heap (some new) fun cell => { cell with next := element }
  let reference ← elmt heap element
  let heap ← storeElmt heap (some new) fun cell => { cell with prev := reference.prev }
  let reference ← elmt heap element
  if reference.prev = none then
    let heap ← storeElmt heap element fun cell => { cell with prev := some new }
    return (heap, { list with head := some new })
  else
    let heap ← storeElmt heap reference.prev fun cell => { cell with next := some new }
    let heap ← storeElmt heap element fun cell => { cell with prev := some new }
    return (heap, list)

/-- The body that both insertions share; `link` changes the pointers next to the reference. -/
def insertElmt
    (link : Heap Addr Data → XDList Addr Data Key Destroy → Option Addr → Addr →
      Except DListFault (Heap Addr Data × XDList Addr Data Key Destroy))
    (state : DListState Addr Data Key Destroy) (element : Option Addr)
    (data : Data) (malloc : Option (Addr × XDListElmt Addr Data)) :
    Except DListFault (DListState Addr Data Key Destroy × DListReply Data Destroy) := do
  if element = none ∧ iDListSize state.list ≠ 0 then
    return (state, { code := -1 })
  else
    match malloc with
    | none => return (state, { code := -1 })
    | some (new, found) =>
        let heap := Function.update state.heap new (some { found with data := data })
        let linked ←
          (if iDListSize state.list = 0 then linkAlone heap state.list new
            else link heap state.list element new)
        return (⟨linked.1, { linked.2 with size := linked.2.size + 1 }⟩, { code := 0 })

/-- A new element behind another one. -/
def iDListInsertAfter (state : DListState Addr Data Key Destroy) (element : Option Addr)
    (data : Data) (malloc : Option (Addr × XDListElmt Addr Data)) :
    Except DListFault (DListState Addr Data Key Destroy × DListReply Data Destroy) :=
  insertElmt linkAfter state element data malloc

/-- A new element before another one. -/
def iDListInsertBefore (state : DListState Addr Data Key Destroy) (element : Option Addr)
    (data : Data) (malloc : Option (Addr × XDListElmt Addr Data)) :
    Except DListFault (DListState Addr Data Key Destroy × DListReply Data Destroy) :=
  insertElmt linkBefore state element data malloc

/-- A new element before the first one. -/
def iDListPrepend (state : DListState Addr Data Key Destroy) (data : Data)
    (malloc : Option (Addr × XDListElmt Addr Data)) :
    Except DListFault (DListState Addr Data Key Destroy × DListReply Data Destroy) :=
  iDListInsertBefore state (pxDListHead state.list) data malloc

/-- A new element behind the last one. -/
def iDListAppend (state : DListState Addr Data Key Destroy) (data : Data)
    (malloc : Option (Addr × XDListElmt Addr Data)) :
    Except DListFault (DListState Addr Data Key Destroy × DListReply Data Destroy) :=
  iDListInsertAfter state (pxDListTail state.list) data malloc

/-- The loop of `pxDListFindFirst`. -/
def findFrom (heap : Heap Addr Data) (accepts : Addr → Bool) :
    ℕ → Option Addr → Except DListFault (Option Addr)
  | 0, _ => .error .endless
  | _ + 1, none => .error .nullPointer
  | rounds + 1, some address =>
      if accepts address then .ok (some address)
      else do
        let next ← pxDListElmtNext heap (some address)
        match next with
        | none => return none
        | some next => findFrom heap accepts rounds (some next)

/-- The first element whose key matches. -/
def pxDListFindFirst (state : DListState Addr Data Key Destroy) (key : Key) :
    Except DListFault (Option Addr) :=
  match state.list.fkey, state.list.fmatch with
  | some fkey, some fmatch =>
      if iDListSize state.list ≠ 0 then
        findFrom state.heap (fun address => fmatch key (fkey state.heap address) = 0)
          (iDListSize state.list).toNat (pxDListHead state.list)
      else .ok none
  | _, _ => .ok none

/-- The operations on a list, each allocation with its outcome. -/
inductive DListCall (Addr Data Key : Type) where
  | insertAfter (element : Option Addr) (data : Data)
      (malloc : Option (Addr × XDListElmt Addr Data))
  | insertBefore (element : Option Addr) (data : Data)
      (malloc : Option (Addr × XDListElmt Addr Data))
  | append (data : Data) (malloc : Option (Addr × XDListElmt Addr Data))
  | prepend (data : Data) (malloc : Option (Addr × XDListElmt Addr Data))
  | remove (element : Option Addr)
  | initSearch (fkey : Option (Heap Addr Data → Addr → Key)) (fmatch : Option (Key → Key → ℤ))
  | destroy

/-- A call as a step of a run. -/
def dlistCall (state : DListState Addr Data Key Destroy) :
    DListCall Addr Data Key →
      Except DListFault (DListState Addr Data Key Destroy × DListReply Data Destroy)
  | .insertAfter element data malloc => iDListInsertAfter state element data malloc
  | .insertBefore element data malloc => iDListInsertBefore state element data malloc
  | .append data malloc => iDListAppend state data malloc
  | .prepend data malloc => iDListPrepend state data malloc
  | .remove element => iDListRemove state element
  | .initSearch fkey fmatch =>
      .ok ({ state with list := iDListInitSearch state.list fkey fmatch }, { code := 0 })
  | .destroy => iDListDestroy state

end Sysio.DList
