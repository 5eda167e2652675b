import Mathlib.Data.List.Count
import Mathlib.Data.List.Perm.Basic
import Sysio.Containers.VectorClearing

/-!
# Who owns the elements of a vector

The pointers that `fnew` gives and those that are appended belong to the vector, which passes them
to the destroy function: when it shrinks, when an element is removed, and at the end. The ledger
balances after every operation: what came in is destroyed, stored or lost (`Ledger`). Each
`iVectorAppend` loses a pointer, the element that `iVectorResize` makes for the slot that the
appended one is then stored in.
-/

namespace Sysio.Vector

open Block Refinement

variable {Addr : Type} {emptyBlock : Bool}

namespace VectorEvent

/-- The pointer that a call of `fnew` gives. -/
def created? : VectorEvent Addr → Option Addr
  | created element => element
  | _ => none

end VectorEvent

namespace VectorCall

/-- The pointer that a call appends. -/
def appended? : VectorCall Addr → Option Addr
  | append element => element
  | _ => none

end VectorCall

/-- The pointers that `fnew` has given. -/
def createdBy (events : List (VectorEvent Addr)) : List Addr :=
  events.filterMap VectorEvent.created?

/-- The pointers that have been appended. -/
def appendedBy (calls : List (VectorCall Addr)) : List Addr :=
  calls.filterMap VectorCall.appended?

/-- The calls after which it is known who owns each pointer. -/
def OwnedCall : VectorCall Addr → Prop
  | .resize newSize => 1 ≤ newSize
  | .append element => element.isSome
  | .remove _ => True
  | .replace _ _ | .initSearch _ _ | .clear => False

/-- The functions for the search compare pointers. -/
structure ComparesPointers (fkey : ℕ → Addr → Option Addr)
    (fmatch : ℕ → Option Addr → Option Addr → ℤ) : Prop where
  fkey : ∀ calls element, fkey calls element = some element
  fmatch : ∀ calls key other, fmatch calls key other = 0 ↔ key = other

/-- A vector that makes and destroys its elements. -/
def owner (growth : ℤ) (fnew : ℕ → Option Addr) (fkey : ℕ → Addr → Option Addr)
    (fmatch : ℕ → Option Addr → Option Addr → ℤ) : VectorState Addr :=
  ⟨iVectorInitSearch (iVectorInit growth (some fnew) true) (some fkey) (some fmatch), []⟩

/-- After `vVectorDestroy` each pointer was passed to the destroy function once. -/
def OwnsEach [DecidableEq Addr] (malloc : Bool) (state : VectorState Addr)
    (calls : List (VectorCall Addr)) : Prop :=
  ∃ events vector, vVectorDestroy malloc state = .ok (events, vector) ∧
    ∀ element ∈ createdBy state.events ++ appendedBy calls,
      events.count (.destroyed element) = 1

/-- What came in was destroyed, is stored or is lost; each appended pointer costs another. -/
structure Ledger (start : XVector Addr) (calls : List (VectorCall Addr))
    (state : VectorState Addr) (view : VectorView Addr) (lost : List Addr) : Prop where
  represents : Represents state view
  kin : start.Kin state.vector
  balance : (destroyedBy state.events ++ view.slots.reduceOption ++ lost).Perm
    (createdBy state.events ++ appendedBy calls)
  lost : lost.length = (appendedBy calls).length

/-! ### The calls of the functions -/

theorem createdBy_append (events more : List (VectorEvent Addr)) :
    createdBy (events ++ more) = createdBy events ++ createdBy more :=
  List.filterMap_append

theorem appendedBy_append (calls more : List (VectorCall Addr)) :
    appendedBy (calls ++ more) = appendedBy calls ++ appendedBy more :=
  List.filterMap_append

theorem appendedBy_singleton (made : VectorCall Addr) :
    appendedBy [made] = made.appended?.toList := by
  rw [appendedBy]
  cases isAppended : made.appended? <;> simp [isAppended]

theorem destroyedBy_map (elements : List Addr) :
    destroyedBy (elements.map VectorEvent.destroyed) = elements := by
  rw [destroyedBy, List.filterMap_map]
  exact List.filterMap_some

theorem createdBy_map_destroyed (elements : List Addr) :
    createdBy (elements.map VectorEvent.destroyed) = [] := by
  rw [createdBy, List.filterMap_map]
  exact List.filterMap_eq_nil_iff.mpr fun _ _ => rfl

theorem createdBy_createdEvents (fnew : ℕ → Option Addr) (made count : ℕ) :
    createdBy (createdEvents (some fnew) made count) =
      (newElmts (some fnew) made count).reduceOption := by
  rw [createdEvents, if_pos Option.isSome_some, createdBy, List.filterMap_map]
  rfl

theorem destroyedBy_createdEvents (fnew : Option (ℕ → Option Addr)) (made count : ℕ) :
    destroyedBy (createdEvents fnew made count) = [] := by
  rw [createdEvents]
  split
  · rw [destroyedBy, List.filterMap_map]
    exact List.filterMap_eq_nil_iff.mpr fun _ _ => rfl
  · rfl

theorem reduceOption_eraseIdx {slots : List (Option Addr)} {index : ℕ}
    (inside : index < slots.length) :
    (slots[index].toList ++ (slots.eraseIdx index).reduceOption).Perm slots.reduceOption := by
  have parts := (List.getElem_cons_eraseIdx_perm inside).filterMap id
  change (slots[index] :: slots.eraseIdx index).reduceOption.Perm slots.reduceOption at parts
  rcases isElement : slots[index] with _ | element
  · rwa [isElement, List.reduceOption_cons_of_none] at parts
  · rwa [isElement, List.reduceOption_cons_of_some] at parts

theorem count_destroyed [DecidableEq Addr] (events : List (VectorEvent Addr)) (element : Addr) :
    events.count (.destroyed element) = (destroyedBy events).count element := by
  induction events with
  | nil => rfl
  | cons event events ih =>
      cases event with
      | destroyed other =>
          change _ = (other :: destroyedBy events).count element
          rw [List.count_cons, List.count_cons, ih]
          simp
      | _ =>
          change _ = (destroyedBy events).count element
          rw [List.count_cons, ih]
          simp

/-! ### The ledger balances -/

section Ledger

variable {start : XVector Addr} {fnew : ℕ → Option Addr} {calls : List (VectorCall Addr)}
  {state : VectorState Addr} {view : VectorView Addr} {lost : List Addr}

theorem Ledger.fnew_eq (ledger : Ledger start calls state view lost)
    (isNew : start.fnew = some fnew) : view.fnew = some fnew := by
  rcases ledger.kin with ⟨data, size, alloc, kin⟩
  rw [← ledger.represents.fnew, kin]
  exact isNew

theorem Ledger.destroys (ledger : Ledger start calls state view lost)
    (destroys : start.fdestroy = true) : state.vector.fdestroy = true := by
  rcases ledger.kin with ⟨data, size, alloc, kin⟩
  rw [kin]
  exact destroys

theorem XVector.Kin.trans {vector after final : XVector Addr} (kin : vector.Kin after)
    (later : after.Kin final) : vector.Kin final := by
  rcases kin with ⟨_, _, _, rfl⟩
  rcases later with ⟨data, size, alloc, rfl⟩
  exact ⟨data, size, alloc, rfl⟩

theorem Ledger.resize (ledger : Ledger start calls state view lost)
    (isNew : start.fnew = some fnew) (destroys : start.fdestroy = true) {newSize : ℤ}
    (positive : 1 ≤ newSize) :
    ∃ after, vectorCall emptyBlock state (.resize newSize) = .ok (after, 0) ∧
      ∃ view, Ledger start (calls ++ [.resize newSize]) after view lost := by
  classical
  have same : (newSize.toNat : ℤ) = newSize := by omega
  rcases iVectorResize_eq emptyBlock ledger.represents newSize.toNat (fun zero => by omega) with
    ⟨after, resized, kept, events, kin⟩
  rw [same] at resized
  have noneAppended : appendedBy (calls ++ [.resize newSize]) = appendedBy calls := by
    rw [appendedBy_append, appendedBy_singleton]
    exact List.append_nil _
  refine ⟨after, resized, _, kept, ledger.kin.trans kin, ?_, by rw [noneAppended, ledger.lost]⟩
  rw [events, ledger.destroys destroys, ledger.fnew_eq isNew, noneAppended, destroyedEvents,
    if_pos rfl, destroyedBy_append, destroyedBy_append, createdBy_append, createdBy_append,
    destroyedBy_map, createdBy_map_destroyed, createdBy_createdEvents, destroyedBy_createdEvents,
    VectorView.resize, List.reduceOption_append, ledger.fnew_eq isNew]
  have balance := ledger.balance
  have parts : view.slots.reduceOption = (view.slots.take newSize.toNat).reduceOption ++
      (view.slots.drop newSize.toNat).reduceOption := by
    rw [← List.reduceOption_append, List.take_append_drop]
  rw [parts] at balance
  rw [List.perm_iff_count] at balance ⊢
  intro element
  have balanced := balance element
  simp only [List.count_append, List.count_reverse, List.count_nil] at balanced ⊢
  omega

theorem Ledger.append (ledger : Ledger start calls state view lost)
    (isNew : start.fnew = some fnew) (fresh : ∀ count, (fnew count).isSome) (element : Addr) :
    ∃ after, vectorCall emptyBlock state (.append (some element)) = .ok (after, 0) ∧
      ∃ view lost, Ledger start (calls ++ [.append (some element)]) after view lost := by
  classical
  rcases iVectorAppend_eq emptyBlock ledger.represents (some element) with
    ⟨after, appended, kept, events, kin⟩
  rcases Option.isSome_iff_exists.mp (fresh view.created) with ⟨made, isMade⟩
  have oneAppended : appendedBy (calls ++ [.append (some element)]) =
      appendedBy calls ++ [element] := by
    rw [appendedBy_append, appendedBy_singleton]
    rfl
  have oneMade : (newElmts (some fnew) view.created 1).reduceOption = [made] := by
    rw [newElmts_succ, newElmts_zero, Option.bind_some, isMade]
    rfl
  refine ⟨after, appended, _, lost ++ [made], kept, ledger.kin.trans kin, ?_, ?_⟩
  · rw [events, ledger.fnew_eq isNew, oneAppended, destroyedBy_append, createdBy_append,
      createdBy_createdEvents, destroyedBy_createdEvents, oneMade, List.reduceOption_append]
    have balance := ledger.balance
    rw [List.perm_iff_count] at balance ⊢
    intro other
    have balanced := balance other
    have isElement : ([some element] : List (Option Addr)).reduceOption = [element] := rfl
    simp only [List.count_append, List.count_nil, isElement] at balanced ⊢
    omega
  · rw [oneAppended, List.length_append, List.length_append, ledger.lost]
    rfl

theorem Ledger.remove (ledger : Ledger start calls state view lost)
    (destroys : start.fdestroy = true) (index : ℤ) :
    ∃ after reply, vectorCall emptyBlock state (.remove index) = .ok (after, reply) ∧
      ∃ view, Ledger start (calls ++ [.remove index]) after view lost := by
  classical
  have noneAppended : appendedBy (calls ++ [.remove index]) = appendedBy calls := by
    rw [appendedBy_append, appendedBy_singleton]
    exact List.append_nil _
  have size := ledger.represents.size
  by_cases inside : 0 ≤ index ∧ index < view.slots.length
  · have same : (index.toNat : ℤ) = index := by omega
    have within : index.toNat < view.slots.length := by omega
    rcases iVectorRemove_eq emptyBlock ledger.represents within with
      ⟨after, removed, kept, events, kin⟩
    rw [same] at removed
    refine ⟨after, 0, removed, _, kept, ledger.kin.trans kin, ?_,
      by rw [noneAppended, ledger.lost]⟩
    rw [events, ledger.destroys destroys, noneAppended, removedEvents, if_pos rfl,
      destroyedBy_append, createdBy_append, destroyedBy_map, createdBy_map_destroyed]
    have balance := ledger.balance
    have parts := reduceOption_eraseIdx within
    rw [List.perm_iff_count] at balance parts ⊢
    intro element
    have balanced := balance element
    have part := parts element
    simp only [List.count_append, List.count_nil] at balanced part ⊢
    omega
  · refine ⟨state, -1, ?_, view, ledger.represents, ledger.kin, ?_,
      by rw [noneAppended, ledger.lost]⟩
    · rw [vectorCall, iVectorRemove, if_neg (by omega)]
      rfl
    · rw [noneAppended]
      exact ledger.balance

theorem Ledger.call (ledger : Ledger start calls state view lost)
    (isNew : start.fnew = some fnew) (fresh : ∀ count, (fnew count).isSome)
    (destroys : start.fdestroy = true) {made : VectorCall Addr} (owned : OwnedCall made) :
    ∃ after reply, vectorCall emptyBlock state made = .ok (after, reply) ∧
      ∃ view lost, Ledger start (calls ++ [made]) after view lost := by
  cases made with
  | resize newSize =>
      rcases ledger.resize isNew destroys owned with ⟨after, resized, view, ledger⟩
      exact ⟨after, 0, resized, view, lost, ledger⟩
  | append element =>
      rcases Option.isSome_iff_exists.mp owned with ⟨element, rfl⟩
      rcases ledger.append isNew fresh element with ⟨after, appended, ledger⟩
      exact ⟨after, 0, appended, ledger⟩
  | remove index =>
      rcases ledger.remove destroys index with ⟨after, reply, removed, view, ledger⟩
      exact ⟨after, reply, removed, view, lost, ledger⟩
  | _ => exact owned.elim

/-- An operation of a run that the program owns returns, unless the capacity overflows. -/
theorem Ledger.of_run (isNew : start.fnew = some fnew) (fresh : ∀ count, (fnew count).isSome)
    (destroys : start.fdestroy = true) {later : List (VectorCall Addr)}
    (owned : ∀ made ∈ later, OwnedCall made) (ledger : Ledger start calls state view lost) :
    run (intCall emptyBlock) state later = .error .overflow ∨
      ∃ after replies, run (intCall emptyBlock) state later = .ok (after, replies) ∧
        ∃ view lost, Ledger start (calls ++ later) after view lost := by
  induction later generalizing calls state view lost with
  | nil =>
      refine .inr ⟨state, [], rfl, view, lost, ?_⟩
      rwa [List.append_nil]
  | cons made later ih =>
      by_cases fits : CapacityFits state.vector made
      · have unbounded : intCall emptyBlock state made = vectorCall emptyBlock state made :=
          if_pos fits
        rcases @Ledger.call _ emptyBlock _ _ _ _ _ _ ledger isNew fresh destroys _
          (owned made List.mem_cons_self) with ⟨middle, reply, called, view, lost, ledger⟩
        rw [run, unbounded, called]
        change (run (intCall emptyBlock) middle later >>= fun after => _) = _ ∨ _
        rcases ih (fun next nextMem => owned next (List.mem_cons_of_mem _ nextMem)) ledger with
          overflows | ⟨after, replies, ran, ledger⟩
        · left
          rw [overflows]
          rfl
        · refine .inr ⟨after, reply :: replies, ?_, ?_⟩
          · change (run (intCall emptyBlock) middle later >>= fun after => _) = _
            rw [ran]
            rfl
          · rwa [List.append_cons]
      · left
        rw [run, intCall, if_neg fits]
        rfl

end Ledger

/-! ### The end of the run -/

theorem findFrom_pointers {fkey : ℕ → Addr → Option Addr}
    {fmatch : ℕ → Option Addr → Option Addr → ℤ} (compares : ComparesPointers fkey fmatch)
    {element : Addr} {others : List (Option Addr)} (apart : some element ∉ others)
    (count index : ℕ) {state : VectorState Addr} (holds : Holds state.vector.block others)
    (bound : index + count = others.length) :
    ∃ more, findFrom fkey fmatch (some element) count index state =
        .ok (⟨state.vector, state.events ++ more⟩, none) ∧
      ∀ event ∈ more, event.destroyed? = none := by
  induction count generalizing index state with
  | zero =>
      refine ⟨[], ?_, fun event eventMem => nomatch eventMem⟩
      rw [List.append_nil]
      rfl
  | succ count ih =>
      have inside : index < others.length := by omega
      have found := List.getElem?_eq_getElem inside
      have next : (index : ℤ) + 1 = ((index + 1 : ℕ) : ℤ) := rfl
      rw [findFrom, getData_eq holds found, next]
      rcases isElement : others[index] with _ | other
      · exact ih (index + 1) holds (by omega)
      · have different : some element ≠ some other := by
          rintro same
          rw [same, ← isElement] at apart
          exact apart (List.getElem_mem inside)
        rcases @ih (index + 1) ⟨state.vector, state.events ++ [.keyed other] ++
            [.matched (some element) (some other)]⟩ holds (by omega) with ⟨more, ran, quiet⟩
        refine ⟨.keyed other :: .matched (some element) (some other) :: more, ?_, ?_⟩
        · change (if fmatch (state.events ++ [VectorEvent.keyed other]).length (some element)
            (fkey state.events.length other) = 0 then _ else _) = _
          rw [compares.fkey, if_neg fun same => different ((compares.fmatch _ _ _).mp same)]
          rw [ran, List.append_assoc, List.append_assoc]
          rfl
        · intro event eventMem
          rcases List.mem_cons.mp eventMem with rfl | eventMem
          · rfl
          rcases List.mem_cons.mp eventMem with rfl | eventMem
          · rfl
          · exact quiet event eventMem

/-- A search that compares pointers finds no copy of a pointer that is stored once. -/
theorem unfound_of_pointers {vector : XVector Addr} {fkey : ℕ → Addr → Option Addr}
    {fmatch : ℕ → Option Addr → Option Addr → ℤ} (isKey : vector.fkey = some fkey)
    (isMatch : vector.fmatch = some fmatch) (compares : ComparesPointers fkey fmatch)
    (slots : List (Option Addr)) :
    Unfound vector True (fun event => event.destroyed? = none) slots := by
  intro element others data events _ apart _ size holds
  have count : (vector.withData data).size.toNat = others.length := by
    change vector.size.toNat = _
    rw [size, Int.toNat_natCast]
  rcases @findFrom_pointers _ fkey fmatch compares element others (apart trivial) others.length 0
    ⟨vector.withData data, events⟩ holds (by omega) with ⟨more, ran, quiet⟩
  refine ⟨more, ?_, quiet⟩
  rw [@iVectorFindFirstIndex_some _ ⟨vector.withData data, events⟩ fkey fmatch isKey isMatch, count]
  rw [show ((0 : ℕ) : ℤ) = 0 from rfl] at ran
  rw [ran]
  rfl

section Owner

variable {growth : ℤ} {fnew : ℕ → Option Addr} {fkey : ℕ → Addr → Option Addr}
  {fmatch : ℕ → Option Addr → Option Addr → ℤ} {calls : List (VectorCall Addr)}
  {state : VectorState Addr} {replies : List ℤ}

theorem ledger_owner (growth : ℤ) (fnew : ℕ → Option Addr) (fkey : ℕ → Addr → Option Addr)
    (fmatch : ℕ → Option Addr → Option Addr → ℤ) :
    Ledger (owner growth fnew fkey fmatch).vector [] (owner growth fnew fkey fmatch)
      ⟨[], some fnew, 0⟩ [] := by
  have start := represents_init growth (some fnew) true
  refine ⟨⟨start.holds, start.allocated, start.size, start.growth, start.fnew, start.created⟩,
    ⟨none, 0, 0, rfl⟩, List.Perm.nil, rfl⟩

/-- Operations on a vector that owns its elements fail only where the capacity overflows. -/
theorem owner_returns (fresh : ∀ count, (fnew count).isSome)
    (owned : ∀ made ∈ calls, OwnedCall made) :
    run (intCall emptyBlock) (owner growth fnew fkey fmatch) calls = .error .overflow ∨
      ∃ after replies, run (intCall emptyBlock) (owner growth fnew fkey fmatch) calls =
        .ok (after, replies) ∧ ∃ view lost,
          Ledger (owner growth fnew fkey fmatch).vector calls after view lost :=
  Ledger.of_run rfl fresh rfl owned (ledger_owner growth fnew fkey fmatch)

/-- What is destroyed in the end is all that came in, but for what was lost. -/
theorem exists_destroyed_owner (compares : ComparesPointers fkey fmatch) {view : VectorView Addr}
    {lost : List Addr}
    (ledger : Ledger (owner growth fnew fkey fmatch).vector calls state view lost)
    (different : (createdBy state.events ++ appendedBy calls).Nodup) (malloc : Bool) :
    ∃ events vector, vVectorDestroy malloc state = .ok (events, vector) ∧
      (destroyedBy events ++ lost).Perm (createdBy state.events ++ appendedBy calls) := by
  have nodup := ledger.balance.symm.nodup different
  rcases isKin : ledger.kin with ⟨data, size, alloc, kin⟩
  have isKey : state.vector.fkey = some fkey := by
    rw [kin]
    rfl
  have isMatch : state.vector.fmatch = some fmatch := by
    rw [kin]
    rfl
  rcases iVectorClear_unfound ledger.represents (ledger.destroys rfl)
    (unfound_of_pointers isKey isMatch compares view.slots) (fun _ quiet => quiet)
    (fun _ => (List.nodup_append.mp (List.nodup_append.mp nodup).1).2.1) with
    ⟨more, cleared, destroyed, -⟩
  rcases exists_destroyed_of_clear cleared malloc with ⟨vector, ran, -⟩
  refine ⟨_, vector, ran, ?_⟩
  rw [destroyedBy_append, destroyed]
  exact ledger.balance

theorem exists_ledger (fresh : ∀ count, (fnew count).isSome)
    (owned : ∀ made ∈ calls, OwnedCall made)
    (ran : run (intCall emptyBlock) (owner growth fnew fkey fmatch) calls = .ok (state, replies)) :
    ∃ view lost, Ledger (owner growth fnew fkey fmatch).vector calls state view lost := by
  have returns := @owner_returns _ emptyBlock growth fnew fkey fmatch calls fresh owned
  rw [ran] at returns
  rcases returns with overflows | ⟨after, _, same, ledger⟩
  · cases overflows
  · cases same
    exact ledger

theorem appendedBy_eq_nil_iff (owned : ∀ made ∈ calls, OwnedCall made) :
    appendedBy calls = [] ↔ ∀ element, VectorCall.append element ∉ calls := by
  rw [appendedBy, List.filterMap_eq_nil_iff]
  constructor
  · intro none element appended
    rcases Option.isSome_iff_exists.mp (owned _ appended) with ⟨pointer, rfl⟩
    cases none _ appended
  · intro none made madeMem
    cases made with
    | append element => exact absurd madeMem (none element)
    | _ => rfl

/-- Each pointer is destroyed once where nothing is appended: what `iVectorAppend` has `fnew` make
is never destroyed. -/
theorem ownsEach_iff [DecidableEq Addr] (fresh : ∀ count, (fnew count).isSome)
    (compares : ComparesPointers fkey fmatch) (owned : ∀ made ∈ calls, OwnedCall made)
    (ran : run (intCall emptyBlock) (owner growth fnew fkey fmatch) calls = .ok (state, replies))
    (different : (createdBy state.events ++ appendedBy calls).Nodup) (malloc : Bool) :
    OwnsEach malloc state calls ↔ ∀ element, VectorCall.append element ∉ calls := by
  rcases exists_ledger fresh owned ran with ⟨view, lost, ledger⟩
  rcases exists_destroyed_owner compares ledger different malloc with
    ⟨events, vector, destroyed, balance⟩
  rw [← appendedBy_eq_nil_iff owned]
  constructor
  · rintro ⟨events', vector', destroyed', once⟩
    rw [destroyed] at destroyed'
    cases destroyed'
    rw [← List.length_eq_zero_iff, ← ledger.lost, List.length_eq_zero_iff]
    refine List.eq_nil_iff_forall_not_mem.mpr fun element elementLost => ?_
    have cameIn := balance.subset (List.mem_append_right _ elementLost)
    have counted := once element cameIn
    rw [count_destroyed] at counted
    have isDestroyed : element ∈ destroyedBy events := List.count_pos_iff.mp (by omega)
    have nodup := balance.symm.nodup different
    exact (List.nodup_append.mp nodup).2.2 element isDestroyed element elementLost rfl
  · intro none
    have nothing : lost = [] := by
      rw [← List.length_eq_zero_iff, ledger.lost, none]
      rfl
    rw [nothing, List.append_nil] at balance
    refine ⟨events, vector, destroyed, fun element cameIn => ?_⟩
    rw [count_destroyed, balance.count_eq]
    exact List.count_eq_one_of_mem different cameIn

end Owner

/-- A vector of numbers, the n-th of which is made as 10 + n. -/
def numbers : VectorState ℕ :=
  owner 2 (fun made => some (10 + made)) (fun _ element => some element)
    fun _ key other => if key = other then 0 else 1

theorem comparesPointers_numbers :
    ComparesPointers (fun _ element => some element : ℕ → ℕ → Option ℕ)
      (fun _ key other => if key = other then 0 else 1) := by
  refine ⟨fun _ _ => rfl, fun _ key other => ?_⟩
  by_cases same : key = other
  · simp [same]
  · simp [same]

/-- Two numbers are made and the first one is removed. -/
def resizedNumbers : VectorState ℕ :=
  ⟨{ numbers.vector with data := some [.holds (some 11), .holds (some 11)], size := 1, alloc := 2 },
    [.created (some 10), .created (some 11), .destroyed 10]⟩

theorem ownsEach_resized : OwnsEach true resizedNumbers [.resize 2, .remove 0] :=
  (@ownsEach_iff _ false 2 (fun made => some (10 + made)) _ _ [.resize 2, .remove 0]
    resizedNumbers [0, 0] _ (fun _ => rfl) comparesPointers_numbers (by simp [OwnedCall]) rfl
    (by decide) true).mpr (by simp)

/-- The element made for the slot of an appended pointer is never destroyed. -/
theorem not_ownsEach_appended : ∃ state,
    run (intCall false) numbers [.append (some 7)] = .ok (state, [0]) ∧
      (createdBy state.events ++ appendedBy [.append (some 7)]).Nodup ∧
      ¬OwnsEach true state [.append (some 7)] := by
  refine ⟨_, rfl, by decide, ?_⟩
  rintro ⟨events, vector, destroyed, once⟩
  cases destroyed
  exact absurd (once 10 (by decide)) (by decide)

end Sysio.Vector
