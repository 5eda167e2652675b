import Mathlib.Data.Int.Notation
import Mathlib.Data.Nat.Notation
import Sysio.Lib.Block
import Sysio.Lib.Refinement

/-!
# The vector

`src/vector.c` on an existing vector (the answers to a null `v` are left out). The slots are a
block of pointers, `none` for `NULL`, that is reallocated as the vector grows and shrinks: an
access outside the block, through the null block or to a slot that nothing was stored in is a
fault. Allocating a block that is not empty succeeds; whether `realloc` to no bytes gives an empty
block or `NULL` is a parameter.

Sizes are integers; `intCall` is an operation in the machine's `int`, where the capacity that
`iVectorResize` computes may overflow.

The functions that the vector is given are arbitrary and may answer differently each time:
`fnew` is told how often it has been called, the search functions how many calls of them and of
`fdestroy` have been made. The calls are recorded. The loop that marks the copies of an element
is given as many rounds as the vector has slots; going on beyond them is the fault `endless`.
-/

namespace Sysio.Vector

open Block

variable {Addr : Type}

/-- How a call goes wrong. -/
inductive VectorFault where
  | access
  | assertFailed
  | endless
  | overflow
deriving DecidableEq, Repr

/-- A call of a function of the user. -/
inductive VectorEvent (Addr : Type) where
  | created (element : Option Addr)
  | destroyed (element : Addr)
  | keyed (element : Addr)
  | matched (key elementKey : Option Addr)
deriving DecidableEq, Repr

/-- The vector; its functions are given how many calls have been made before. -/
structure XVector (Addr : Type) where
  data : Option (List (Slot (Option Addr)))
  size : ℤ
  alloc : ℤ
  growth : ℤ
  fnew : Option (ℕ → Option Addr)
  fdestroy : Bool
  fkey : Option (ℕ → Addr → Option Addr)
  fmatch : Option (ℕ → Option Addr → Option Addr → ℤ)

/-- The vector and the calls made of its functions, the latest last. -/
structure VectorState (Addr : Type) where
  vector : XVector Addr
  events : List (VectorEvent Addr)

namespace VectorEvent

/-- The call is one of `fnew`. -/
def isCreated : VectorEvent Addr → Bool
  | created _ => true
  | _ => false

end VectorEvent

/-- How often `fnew` has been called. -/
def created (events : List (VectorEvent Addr)) : ℕ := events.countP VectorEvent.isCreated

/-- `vector->data[index]`. -/
def getData (vector : XVector Addr) (index : ℤ) : Except VectorFault (Option Addr) :=
  match vector.data with
  | none => .error .access
  | some block =>
      if index < 0 then .error .access
      else
        match read block index.toNat with
        | none => .error .access
        | some element => .ok element

/-- `vector->data[index] = element`. -/
def setData (vector : XVector Addr) (index : ℤ) (element : Option Addr) :
    Except VectorFault (XVector Addr) :=
  match vector.data with
  | none => .error .access
  | some block =>
      if index < 0 then .error .access
      else
        match write block index.toNat element with
        | none => .error .access
        | some block => .ok { vector with data := some block }

/-- `realloc`, which may give no block for no elements. -/
def reallocData (emptyBlock : Bool) (data : Option (List (Slot (Option Addr)))) (count : ℤ) :
    Option (List (Slot (Option Addr))) :=
  if count = 0 ∧ emptyBlock = false then none
  else some (resize (data.getD []) count.toNat)

/-- A vector without elements; its growth is at least 1. -/
def iVectorInit (growth : ℤ) (fnew : Option (ℕ → Option Addr)) (fdestroy : Bool) :
    XVector Addr where
  data := none
  size := 0
  alloc := 0
  growth := if growth ≤ 1 then 1 else growth
  fnew := fnew
  fdestroy := fdestroy
  fkey := none
  fmatch := none

/-- The functions for the search. -/
def iVectorInitSearch (vector : XVector Addr) (fkey : Option (ℕ → Addr → Option Addr))
    (fmatch : Option (ℕ → Option Addr → Option Addr → ℤ)) : XVector Addr :=
  { vector with fkey, fmatch }

/-- The number of elements. -/
def iVectorSize (vector : XVector Addr) : ℤ := vector.size

/-- The capacity for a size: the next multiple of the growth. -/
def newAlloc (newSize growth : ℤ) : ℤ :=
  if newSize - newSize.tdiv growth * growth > 0 then newSize.tdiv growth * growth + growth
  else newSize.tdiv growth * growth

/-- The first loop of `iVectorResize`, over the `count` slots from `newSize` on, backwards. -/
def destroyExcess (newSize : ℤ) : ℕ → VectorState Addr → Except VectorFault (VectorState Addr)
  | 0, state => .ok state
  | count + 1, state => do
      let element ← getData state.vector (newSize + count)
      match element with
      | none => destroyExcess newSize count state
      | some element =>
          let vector ← setData state.vector (newSize + count) none
          destroyExcess newSize count ⟨vector, state.events ++ [.destroyed element]⟩

/-- The second loop of `iVectorResize`, over the `count` slots from `index` on. -/
def initElmts : ℕ → ℤ → VectorState Addr → Except VectorFault (VectorState Addr)
  | 0, _, state => .ok state
  | count + 1, index, state => do
      match state.vector.fnew with
      | some fnew =>
          let element := fnew (created state.events)
          let vector ← setData state.vector index element
          initElmts count (index + 1) ⟨vector, state.events ++ [.created element]⟩
      | none =>
          let vector ← setData state.vector index none
          initElmts count (index + 1) { state with vector }

/-- The reallocation of `iVectorResize`. -/
def setAlloc (emptyBlock : Bool) (vector : XVector Addr) (alloc : ℤ) :
    Except VectorFault (XVector Addr) :=
  if alloc ≠ vector.alloc then
    match reallocData emptyBlock vector.data alloc with
    | none => .error .assertFailed
    | some block => .ok { vector with alloc, data := some block }
  else .ok vector

/-- New elements are created, or those beyond the size destroyed. -/
def iVectorResize (emptyBlock : Bool) (state : VectorState Addr) (newSize : ℤ) :
    Except VectorFault (VectorState Addr × ℤ) := do
  if newSize = state.vector.size then return (state, 0)
  else if newSize ≥ 0 then
    let alloc := newAlloc newSize state.vector.growth
    let state ←
      (if state.vector.fdestroy then
        destroyExcess newSize (state.vector.size - newSize).toNat state
      else .ok state)
    let vector ← setAlloc emptyBlock state.vector alloc
    let state ← initElmts (newSize - vector.size).toNat vector.size { state with vector }
    return ({ state with vector := { state.vector with size := newSize } }, 0)
  else return (state, -1)

/-- The slots that `iVectorRemove` moves: where to, where from and how many. -/
def moveData (vector : XVector Addr) (destination source count : ℤ) :
    Except VectorFault (XVector Addr) :=
  match vector.data with
  | none => .error .access
  | some block =>
      match move block destination.toNat source.toNat count.toNat with
      | none => .error .access
      | some block => .ok { vector with data := some block }

/-- The call of the destroy function in `iVectorRemove`. -/
def destroyAt (state : VectorState Addr) (index : ℤ) :
    Except VectorFault (List (VectorEvent Addr)) :=
  if state.vector.fdestroy then do
    let element ← getData state.vector index
    match element with
    | none => return state.events
    | some element => return state.events ++ [.destroyed element]
  else .ok state.events

/-- The reallocation of `iVectorRemove`. -/
def shrinkData (emptyBlock : Bool) (vector : XVector Addr) : XVector Addr :=
  if vector.alloc - vector.size ≥ vector.growth then
    { vector with
      data := reallocData emptyBlock vector.data vector.size
      alloc := vector.size }
  else vector

/-- An element is destroyed, and those behind it are moved. -/
def iVectorRemove (emptyBlock : Bool) (state : VectorState Addr) (index : ℤ) :
    Except VectorFault (VectorState Addr × ℤ) := do
  if index < state.vector.size ∧ index ≥ 0 then
    let events ← destroyAt state index
    let vector ←
      (if state.vector.size > 1 then
        moveData state.vector index (index + 1) (state.vector.size - index - 1)
      else .ok state.vector)
    return (⟨shrinkData emptyBlock { vector with size := vector.size - 1 }, events⟩, 0)
  else return (state, -1)

/-- The loop of the search functions, over the `count` slots from `index` on. -/
def findFrom (fkey : ℕ → Addr → Option Addr) (fmatch : ℕ → Option Addr → Option Addr → ℤ)
    (key : Option Addr) :
    ℕ → ℤ → VectorState Addr → Except VectorFault (VectorState Addr × Option (ℤ × Addr))
  | 0, _, state => .ok (state, none)
  | count + 1, index, state => do
      let element ← getData state.vector index
      match element with
      | none => findFrom fkey fmatch key count (index + 1) state
      | some element =>
          let elementKey := fkey state.events.length element
          let keyed := state.events ++ [.keyed element]
          let state := { state with events := keyed ++ [.matched key elementKey] }
          if fmatch keyed.length key elementKey = 0 then return (state, some (index, element))
          else findFrom fkey fmatch key count (index + 1) state

/-- The index and the pointer of the first element whose key matches. -/
def findFirst (state : VectorState Addr) (key : Option Addr) :
    Except VectorFault (VectorState Addr × Option (ℤ × Addr)) :=
  match state.vector.fkey, state.vector.fmatch with
  | some fkey, some fmatch =>
      findFrom fkey fmatch key (iVectorSize state.vector).toNat 0 state
  | _, _ => .ok (state, none)

/-- The first element whose key matches. -/
def pvVectorFindFirst (state : VectorState Addr) (key : Option Addr) :
    Except VectorFault (VectorState Addr × Option Addr) := do
  let found ← findFirst state key
  return (found.1, found.2.map Prod.snd)

/-- Its index, or -1. -/
def iVectorFindFirstIndex (state : VectorState Addr) (key : Option Addr) :
    Except VectorFault (VectorState Addr × ℤ) := do
  let found ← findFirst state key
  return (found.1, (found.2.map Prod.fst).getD (-1))

/-- The loop of `iVectorClear` that marks what the search takes for copies of an element. -/
def tagCopies (element : Addr) : ℕ → VectorState Addr → Except VectorFault (VectorState Addr)
  | rounds, state => do
      let found ← iVectorFindFirstIndex state (some element)
      if found.2 ≠ -1 then
        match rounds with
        | 0 => .error .endless
        | rounds + 1 => do
            let vector ← setData found.1.vector found.2 none
            tagCopies element rounds { found.1 with vector }
      else return found.1

/-- The outer loop of `iVectorClear`, over the `count` slots from `index` on. -/
def clearElmts : ℕ → ℤ → VectorState Addr → Except VectorFault (VectorState Addr)
  | 0, _, state => .ok state
  | count + 1, index, state => do
      let element ← getData state.vector index
      match element with
      | none => clearElmts count (index + 1) state
      | some element =>
          let vector ← setData state.vector index none
          let state ← tagCopies element state.vector.size.toNat
            ⟨vector, state.events ++ [.destroyed element]⟩
          clearElmts count (index + 1) state

/-- All elements are destroyed, and the block is given up. -/
def iVectorClear (state : VectorState Addr) :
    Except VectorFault (VectorState Addr × ℤ) := do
  let state ←
    (if state.vector.fdestroy then clearElmts state.vector.size.toNat 0 state else .ok state)
  return ({ state with vector := { state.vector with data := none, size := 0, alloc := 0 } }, 0)

/-- Another pointer at an index; the size is let pass as one. -/
def iVectorReplace (state : VectorState Addr) (index : ℤ) (element : Option Addr) :
    Except VectorFault (VectorState Addr × ℤ) := do
  if index < 0 ∨ index > state.vector.size then return (state, -1)
  else
    let vector ← setData state.vector index element
    return ({ state with vector }, 0)

/-- The pointer at an index, and none outside. -/
def pvVectorGet (vector : XVector Addr) (index : ℤ) : Except VectorFault (Option Addr) :=
  if index ≥ vector.size ∨ index < 0 then .ok none else getData vector index

/-- The vector grows by one, and the pointer is its last. -/
def iVectorAppend (emptyBlock : Bool) (state : VectorState Addr) (element : Option Addr) :
    Except VectorFault (VectorState Addr × ℤ) := do
  let resized ← iVectorResize emptyBlock state (state.vector.size + 1)
  if resized.2 ≠ 0 then return (resized.1, -1)
  else
    let vector ← setData resized.1.vector (resized.1.vector.size - 1) element
    return ({ resized.1 with vector }, 0)

/-- A call that changes the vector. -/
inductive VectorCall (Addr : Type) where
  | resize (newSize : ℤ)
  | append (element : Option Addr)
  | remove (index : ℤ)
  | replace (index : ℤ) (element : Option Addr)
  | initSearch (fkey : Option (ℕ → Addr → Option Addr))
      (fmatch : Option (ℕ → Option Addr → Option Addr → ℤ))
  | clear

/-- The call, and what it returns. -/
def vectorCall (emptyBlock : Bool) (state : VectorState Addr) :
    VectorCall Addr → Except VectorFault (VectorState Addr × ℤ)
  | .resize newSize => iVectorResize emptyBlock state newSize
  | .append element => iVectorAppend emptyBlock state element
  | .remove index => iVectorRemove emptyBlock state index
  | .replace index element => iVectorReplace state index element
  | .initSearch fkey fmatch =>
      .ok ({ state with vector := iVectorInitSearch state.vector fkey fmatch }, 0)
  | .clear => iVectorClear state

/-- `vVectorDestroy`: the calls made, and the vector, which is freed when it was allocated. -/
def vVectorDestroy (malloc : Bool) (state : VectorState Addr) :
    Except VectorFault (List (VectorEvent Addr) × Option (XVector Addr)) := do
  let cleared ← iVectorClear state
  if cleared.2 = 0 then
    if malloc then return (cleared.1.events, none)
    else return (cleared.1.events, some ⟨none, 0, 0, 0, none, false, none, none⟩)
  else return (cleared.1.events, some cleared.1.vector)

/-! ### The machine's `int` -/

def intMax : ℤ := 2147483647

/-- The capacity that a call computes is an `int`. -/
def CapacityFits (vector : XVector Addr) : VectorCall Addr → Prop
  | .resize newSize =>
      newSize = vector.size ∨ newSize < 0 ∨ newAlloc newSize vector.growth ≤ intMax
  | .append _ => newAlloc (vector.size + 1) vector.growth ≤ intMax
  | .remove _ | .replace _ _ | .initSearch _ _ | .clear => True

instance (vector : XVector Addr) :
    (call : VectorCall Addr) → Decidable (CapacityFits vector call)
  | .resize newSize =>
      inferInstanceAs (Decidable
        (newSize = vector.size ∨ newSize < 0 ∨ newAlloc newSize vector.growth ≤ intMax))
  | .append _ =>
      inferInstanceAs (Decidable (newAlloc (vector.size + 1) vector.growth ≤ intMax))
  | .remove _ | .replace _ _ | .initSearch _ _ | .clear => inferInstanceAs (Decidable True)

/-- The call, as far as its capacity is an `int`. -/
def intCall (emptyBlock : Bool) (state : VectorState Addr) (call : VectorCall Addr) :
    Except VectorFault (VectorState Addr × ℤ) :=
  if CapacityFits state.vector call then vectorCall emptyBlock state call else .error .overflow

end Sysio.Vector
