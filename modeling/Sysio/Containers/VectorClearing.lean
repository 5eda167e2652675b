import Mathlib.Data.List.Count
import Mathlib.Data.List.Nodup
import Sysio.Containers.VectorRuns

/-!
# Clearing a vector

`iVectorClear` looks for copies of an element that it has destroyed with the functions that the
program has given for searching keys, and gives them that element for a key. Without such functions
no copy is found, with them the first search makes use of what is destroyed.

`Unfound` says that a search finds no copy of an element. Where that is so clearing destroys the
elements one after the other (`clearElmts_unfound`).
-/

namespace Sysio.Vector

open Block Refinement

variable {Addr : Type} {emptyBlock : Bool} {state : VectorState Addr} {view : VectorView Addr}

namespace VectorEvent

/-- The pointers that a call is given. -/
def passed : VectorEvent Addr → List Addr
  | created _ => []
  | destroyed element => [element]
  | keyed element => [element]
  | matched key elementKey => key.toList ++ elementKey.toList

/-- The pointer that a call destroys. -/
def destroyed? : VectorEvent Addr → Option Addr
  | destroyed element => some element
  | _ => none

end VectorEvent

/-- The pointers that have been destroyed. -/
def destroyedBy (events : List (VectorEvent Addr)) : List Addr :=
  events.filterMap VectorEvent.destroyed?

/-- No call is given a pointer that is destroyed already. -/
def NeverDestroyed (calls : List (VectorEvent Addr)) : Prop :=
  calls.Pairwise fun earlier later => ∀ element ∈ later.passed, earlier ≠ .destroyed element

/-- The calls destroy each element once, and only what is live is used. -/
structure DestroysOnce [DecidableEq Addr] (slots : List (Option Addr))
    (calls : List (VectorEvent Addr)) : Prop where
  once : ∀ element, calls.count (.destroyed element) = if some element ∈ slots then 1 else 0
  live : NeverDestroyed calls

/-- Clearing the vector and destroying it destroy each element once. -/
structure ClearsOnce [DecidableEq Addr] (state : VectorState Addr) : Prop where
  clear : ∃ vector calls, iVectorClear state = .ok (⟨vector, state.events ++ calls⟩, 0) ∧
    DestroysOnce state.vector.slots calls ∧ vector.size = 0 ∧ vector.alloc = 0
  destroy : ∀ malloc, ∃ calls vector,
    vVectorDestroy malloc state = .ok (state.events ++ calls, vector) ∧
      DestroysOnce state.vector.slots calls ∧ ∀ rest ∈ vector, rest.size = 0 ∧ rest.alloc = 0

/-! ### The calls -/

theorem destroyedBy_append (events more : List (VectorEvent Addr)) :
    destroyedBy (events ++ more) = destroyedBy events ++ destroyedBy more :=
  List.filterMap_append

theorem eq_map_destroyed {calls : List (VectorEvent Addr)}
    (only : ∀ event ∈ calls, ∃ element, event = .destroyed element) :
    calls = (destroyedBy calls).map VectorEvent.destroyed := by
  induction calls with
  | nil => rfl
  | cons event calls ih =>
      rcases only event List.mem_cons_self with ⟨element, rfl⟩
      have rest := ih fun later laterMem => only later (List.mem_cons_of_mem _ laterMem)
      change _ = .destroyed element :: (destroyedBy calls).map VectorEvent.destroyed
      rw [← rest]

theorem destroyed_injective :
    Function.Injective (VectorEvent.destroyed : Addr → VectorEvent Addr) :=
  fun _ _ same => VectorEvent.destroyed.inj same

theorem destroysOnce_map_iff [DecidableEq Addr] {slots : List (Option Addr)} :
    DestroysOnce slots (slots.reduceOption.map VectorEvent.destroyed) ↔
      slots.reduceOption.Nodup := by
  constructor
  · rintro ⟨once, -⟩
    rw [List.nodup_iff_count_le_one]
    intro element
    have counted := once element
    rw [List.count_map_of_injective _ _ destroyed_injective] at counted
    split at counted <;> omega
  · intro nodup
    refine ⟨fun element => ?_, ?_⟩
    · rw [List.count_map_of_injective _ _ destroyed_injective, nodup.count]
      simp only [List.reduceOption_mem_iff]
    · rw [NeverDestroyed, List.pairwise_map]
      refine nodup.imp fun different element isPassed same => different ?_
      cases same
      simpa [VectorEvent.passed, eq_comm] using isPassed

/-! ### Searching -/

theorem findFrom_of_none {fkey : ℕ → Addr → Option Addr}
    {fmatch : ℕ → Option Addr → Option Addr → ℤ} {key : Option Addr} {slots : List (Option Addr)}
    (count index : ℕ) (holds : Holds state.vector.block slots)
    (bound : index + count = slots.length) (empty : (slots.drop index).reduceOption = []) :
    findFrom fkey fmatch key count index state = .ok (state, none) := by
  induction count generalizing index with
  | zero => rfl
  | succ count ih =>
      have inside : index < slots.length := by omega
      have found := List.getElem?_eq_getElem inside
      rw [List.drop_eq_getElem_cons inside] at empty
      rcases isElement : slots[index] with _ | element
      · rw [isElement] at found
        rw [isElement, List.reduceOption_cons_of_none] at empty
        rw [findFrom_empty holds found]
        exact ih (index + 1) (by omega) empty
      · rw [isElement, List.reduceOption_cons_of_some] at empty
        cases empty

/-- The search asks for the first element there is. -/
theorem findFrom_first {fkey : ℕ → Addr → Option Addr}
    {fmatch : ℕ → Option Addr → Option Addr → ℤ} {key : Option Addr} {slots : List (Option Addr)}
    {element : Addr} {rest : List Addr} (count index : ℕ) (holds : Holds state.vector.block slots)
    (bound : index + count = slots.length)
    (first : (slots.drop index).reduceOption = element :: rest) :
    ∃ later found, findFrom fkey fmatch key count index state =
      .ok (⟨state.vector, state.events ++ .keyed element ::
        .matched key (fkey state.events.length element) :: later⟩, found) := by
  induction count generalizing index with
  | zero =>
      rw [List.drop_eq_nil_of_le (by omega), List.reduceOption_nil] at first
      cases first
  | succ count ih =>
      have inside : index < slots.length := by omega
      have found := List.getElem?_eq_getElem inside
      rw [List.drop_eq_getElem_cons inside] at first
      rcases isElement : slots[index] with _ | other
      · rw [isElement] at found
        rw [isElement, List.reduceOption_cons_of_none] at first
        rw [findFrom_empty holds found]
        exact ih (index + 1) (by omega) first
      · rw [isElement] at found
        rw [isElement, List.reduceOption_cons_of_some] at first
        cases first
        rw [findFrom_element holds found]
        by_cases accepted : fmatch (state.events.length + 1) key
          (fkey state.events.length element) = 0
        · rw [if_pos accepted]
          exact ⟨[], some (index, element), rfl⟩
        · rw [if_neg accepted]
          rcases @findFrom_eq _ fkey fmatch key slots count (index + 1)
            ⟨state.vector, state.events ++
              [.keyed element, .matched key (fkey state.events.length element)]⟩ holds
            (by omega) with ⟨later, found, ran, -, -⟩
          refine ⟨later, found, ?_⟩
          rw [ran, List.append_assoc]
          rfl

/-- The search for an element finds no copy of it among others, and makes no call but these. With
`apart` the others are known to have none. -/
def Unfound (vector : XVector Addr) (apart : Prop) (noise : VectorEvent Addr → Prop)
    (slots : List (Option Addr)) : Prop :=
  ∀ element others data events, some element ∈ slots → (apart → some element ∉ others) →
    (∀ other, some other ∈ others → some other ∈ slots) → vector.size = others.length →
    Holds (XVector.withData vector data).block others →
    ∃ more, iVectorFindFirstIndex ⟨vector.withData data, events⟩ (some element) =
        .ok (⟨vector.withData data, events ++ more⟩, -1) ∧
      ∀ event ∈ more, noise event

theorem unfound_of_searchless {vector : XVector Addr} {slots : List (Option Addr)}
    (searchless : ¬(vector.fkey.isSome ∧ vector.fmatch.isSome)) :
    Unfound vector False (fun _ => False) slots := by
  intro element others data events _ _ _ _ _
  refine ⟨[], ?_, fun event eventMem => nomatch eventMem⟩
  rw [iVectorFindFirstIndex, findFirst, List.append_nil]
  rcases isKey : (vector.withData data).fkey with _ | fkey
  · rfl
  rcases isMatch : (vector.withData data).fmatch with _ | fmatch
  · rfl
  have isSome : vector.fkey.isSome ∧ vector.fmatch.isSome := by
    change (vector.withData data).fkey.isSome ∧ (vector.withData data).fmatch.isSome
    rw [isKey, isMatch]
    exact ⟨rfl, rfl⟩
  exact absurd isSome searchless

theorem eq_of_single {slots : List (Option Addr)} (single : slots.reduceOption.length ≤ 1)
    {element other : Addr} (first : some element ∈ slots) (second : some other ∈ slots) :
    other = element := by
  rw [← List.reduceOption_mem_iff] at first second
  rcases elements : slots.reduceOption with _ | ⟨only, _ | ⟨next, rest⟩⟩
  · rw [elements] at first
    cases first
  · rw [elements, List.mem_singleton] at first second
    rw [first, second]
  · rw [elements] at single
    simp at single

/-- There is nothing to find behind a single element. -/
theorem unfound_of_single {vector : XVector Addr} {slots : List (Option Addr)}
    (single : slots.reduceOption.length ≤ 1) :
    Unfound vector True (fun _ => False) slots := by
  intro element others data events elementMem isApart subset size holds
  have empty : others.reduceOption = [] := by
    refine List.eq_nil_iff_forall_not_mem.mpr fun other otherMem => ?_
    rw [List.reduceOption_mem_iff] at otherMem
    have same := eq_of_single single elementMem (subset other otherMem)
    exact isApart trivial (same ▸ otherMem)
  have count : (iVectorSize (vector.withData data)).toNat = others.length := by
    change vector.size.toNat = _
    rw [size, Int.toNat_natCast]
  refine ⟨[], ?_, fun event eventMem => nomatch eventMem⟩
  rw [iVectorFindFirstIndex, findFirst, List.append_nil]
  rcases (vector.withData data).fkey with _ | fkey
  · rfl
  rcases (vector.withData data).fmatch with _ | fmatch
  · rfl
  have none := @findFrom_of_none _ ⟨vector.withData data, events⟩ fkey fmatch (some element)
    others others.length 0 holds (by omega) empty
  simp only [count]
  rw [show ((0 : ℕ) : ℤ) = 0 from rfl] at none
  rw [none]
  rfl

/-- The elements up to the first of a list of slots. -/
theorem slots_split {slots : List (Option Addr)} {index : ℕ} {element : Addr}
    (found : slots[index]? = some (some element)) (front : (slots.take index).reduceOption = []) :
    slots.reduceOption = element :: (slots.drop (index + 1)).reduceOption ∧
      (slots.set index none).reduceOption = (slots.drop (index + 1)).reduceOption ∧
      ((slots.set index none).take (index + 1)).reduceOption = [] := by
  rcases List.getElem?_eq_some_iff.mp found with ⟨inside, isElement⟩
  have parts : slots = slots.take index ++ some element :: slots.drop (index + 1) := by
    rw [← isElement, ← List.drop_eq_getElem_cons inside, List.take_append_drop]
  have length : (slots.take index).length = index := by
    rw [List.length_take]
    omega
  have cleared : slots.set index none = slots.take index ++ none :: slots.drop (index + 1) := by
    rw [List.set_eq_take_append_cons_drop, if_pos inside]
  refine ⟨?_, ?_, ?_⟩
  · conv_lhs => rw [parts]
    rw [List.reduceOption_append, front, List.reduceOption_cons_of_some]
    rfl
  · rw [cleared, List.reduceOption_append, front, List.reduceOption_cons_of_none]
    rfl
  · rw [cleared, List.take_append, length, List.take_of_length_le (by omega),
      List.reduceOption_append, front]
    simp

theorem front_empty {slots : List (Option Addr)} {index : ℕ} (found : slots[index]? = some none)
    (front : (slots.take index).reduceOption = []) :
    (slots.take (index + 1)).reduceOption = [] := by
  rw [List.take_add_one, found, List.reduceOption_append, front]
  rfl

/-- The elements are destroyed one after the other where no copies are found. -/
theorem clearElmts_unfound {vector : XVector Addr} {apart : Prop} {noise : VectorEvent Addr → Prop}
    {original : List (Option Addr)} (unfound : Unfound vector apart noise original)
    (quiet : ∀ event, noise event → event.destroyed? = none)
    (count index : ℕ) {slots : List (Option Addr)} {data : Option (List (Slot (Option Addr)))}
    {events : List (VectorEvent Addr)}
    (subset : ∀ other, some other ∈ slots → some other ∈ original)
    (nodup : apart → slots.reduceOption.Nodup) (holds : Holds (vector.withData data).block slots)
    (size : vector.size = slots.length) (bound : index + count = slots.length)
    (front : (slots.take index).reduceOption = []) :
    ∃ data' calls, clearElmts count index ⟨vector.withData data, events⟩ =
        .ok ⟨vector.withData data', events ++ calls⟩ ∧
      destroyedBy calls = slots.reduceOption ∧
      ∀ event ∈ calls, (∃ element, event = .destroyed element) ∨ noise event := by
  induction count generalizing index slots data events with
  | zero =>
      rw [List.take_of_length_le (by omega)] at front
      refine ⟨data, [], ?_, front.symm, fun event eventMem => nomatch eventMem⟩
      rw [List.append_nil]
      rfl
  | succ count ih =>
      have inside : index < slots.length := by omega
      have found := List.getElem?_eq_getElem inside
      rcases isElement : slots[index] with _ | element
      · rw [isElement] at found
        rw [clearElmts_empty holds found]
        exact ih (index + 1) subset nodup holds size (by omega) (front_empty found front)
      · rw [isElement] at found
        rcases slots_split found front with ⟨elements, rest, front'⟩
        have elementMem := subset element (List.mem_of_getElem? found)
        have subset' (other : Addr) (otherMem : some other ∈ slots.set index none) :
            some other ∈ original := by
          rcases List.mem_or_eq_of_mem_set otherMem with kept | impossible
          · exact subset other kept
          · cases impossible
        have apart' (isApart : apart) :
            some element ∉ slots.set index none ∧ (slots.set index none).reduceOption.Nodup := by
          have unique := nodup isApart
          rw [elements, List.nodup_cons] at unique
          rwa [← List.reduceOption_mem_iff, rest]
        have holds' := holds.set index none
        have size' : vector.size = (slots.set index none).length := by
          rw [List.length_set, size]
        rcases unfound element (slots.set index none)
          (some ((vector.withData data).block.set index (.holds none)))
          (events ++ [.destroyed element]) elementMem (fun isApart => (apart' isApart).1) subset'
          size' holds' with ⟨more, searched, noisy⟩
        rcases @ih (index + 1) (slots.set index none)
          (some ((vector.withData data).block.set index (.holds none)))
          (events ++ [.destroyed element] ++ more) subset' (fun isApart => (apart' isApart).2)
          holds' size' (by rw [List.length_set]; omega) front' with
          ⟨data', calls, ran, destroyed, only⟩
        refine ⟨data', .destroyed element :: (more ++ calls), ?_, ?_, ?_⟩
        · rw [clearElmts_element holds found]
          change (tagCopies element _ ⟨vector.withData
            (some ((vector.withData data).block.set index (.holds none))),
            events ++ [.destroyed element]⟩ >>= _) = _
          rw [tagCopies_of_unfound searched]
          change clearElmts count _ ⟨_, events ++ [.destroyed element] ++ more⟩ = _
          rw [ran, List.append_assoc, List.append_assoc]
          rfl
        · have nothing : destroyedBy more = [] :=
            List.filterMap_eq_nil_iff.mpr fun event eventMem => quiet event (noisy event eventMem)
          change element :: destroyedBy (more ++ calls) = _
          rw [destroyedBy_append, nothing, destroyed, elements, rest]
          rfl
        · intro event eventMem
          rcases List.mem_cons.mp eventMem with rfl | eventMem
          · exact .inl ⟨element, rfl⟩
          · rcases List.mem_append.mp eventMem with eventMem | eventMem
            · exact .inr (noisy event eventMem)
            · exact only event eventMem

/-! ### Searching for what is destroyed -/

theorem iVectorFindFirstIndex_some {fkey : ℕ → Addr → Option Addr}
    {fmatch : ℕ → Option Addr → Option Addr → ℤ} (isKey : state.vector.fkey = some fkey)
    (isMatch : state.vector.fmatch = some fmatch) (key : Option Addr) :
    iVectorFindFirstIndex state key = (findFrom fkey fmatch key state.vector.size.toNat 0 state >>=
      fun found => .ok (found.1, (found.2.map Prod.fst).getD (-1))) := by
  rw [iVectorFindFirstIndex, findFirst, isKey, isMatch]
  rfl

theorem findFrom_extends {fkey : ℕ → Addr → Option Addr}
    {fmatch : ℕ → Option Addr → Option Addr → ℤ} {key : Option Addr} {count : ℕ} {index : ℤ}
    {after : VectorState Addr} {found : Option (ℤ × Addr)}
    (ran : findFrom fkey fmatch key count index state = .ok (after, found)) :
    state.events <+: after.events := by
  induction count generalizing index state with
  | zero =>
      cases ran
      exact List.prefix_rfl
  | succ count ih =>
      rw [findFrom] at ran
      rcases exists_of_bind_eq_ok ran with ⟨element, -, ran⟩
      rcases element with _ | element
      · exact ih ran
      · have more : state.events <+: state.events ++ [.keyed element] ++
            [.matched key (fkey state.events.length element)] := by
          rw [List.append_assoc]
          exact List.prefix_append _ _
        simp only at ran
        split at ran
        · cases ran
          exact more
        · exact more.trans (ih ran)

theorem iVectorFindFirstIndex_extends {key : Option Addr} {found : VectorState Addr × ℤ}
    (ran : iVectorFindFirstIndex state key = .ok found) : state.events <+: found.1.events := by
  rcases exists_of_bind_eq_ok ran with ⟨searched, search, returned⟩
  cases returned
  rw [findFirst] at search
  split at search
  · exact findFrom_extends search
  · cases search
    exact List.prefix_rfl

theorem tagCopies_extends {element : Addr} {rounds : ℕ} {after : VectorState Addr}
    (ran : tagCopies element rounds state = .ok after) :
    ∃ found, iVectorFindFirstIndex state (some element) = .ok found ∧
      found.1.events <+: after.events := by
  induction rounds generalizing state with
  | zero =>
      rw [tagCopies.eq_def] at ran
      rcases exists_of_bind_eq_ok ran with ⟨found, searched, ran⟩
      refine ⟨found, searched, ?_⟩
      split at ran
      · cases ran
      · cases ran
        exact List.prefix_rfl
  | succ rounds ih =>
      rw [tagCopies.eq_def] at ran
      rcases exists_of_bind_eq_ok ran with ⟨found, searched, ran⟩
      refine ⟨found, searched, ?_⟩
      split at ran
      · rcases exists_of_bind_eq_ok ran with ⟨vector, -, ran⟩
        rcases ih ran with ⟨next, again, extended⟩
        exact (iVectorFindFirstIndex_extends again).trans extended
      · cases ran
        exact List.prefix_rfl

theorem clearElmts_extends {count : ℕ} {index : ℤ} {after : VectorState Addr}
    (ran : clearElmts count index state = .ok after) : state.events <+: after.events := by
  induction count generalizing index state with
  | zero =>
      cases ran
      exact List.prefix_rfl
  | succ count ih =>
      rw [clearElmts] at ran
      rcases exists_of_bind_eq_ok ran with ⟨element, -, ran⟩
      rcases element with _ | element
      · exact ih ran
      · rcases exists_of_bind_eq_ok ran with ⟨vector, -, ran⟩
        rcases exists_of_bind_eq_ok ran with ⟨tagged, tag, ran⟩
        rcases tagCopies_extends tag with ⟨found, searched, extended⟩
        exact (List.prefix_append _ _).trans ((iVectorFindFirstIndex_extends searched).trans
          (extended.trans (ih ran)))

/-- The first element is destroyed and then given to the functions that search for it. -/
theorem clearElmts_second {fkey : ℕ → Addr → Option Addr}
    {fmatch : ℕ → Option Addr → Option Addr → ℤ} (isKey : state.vector.fkey = some fkey)
    (isMatch : state.vector.fmatch = some fmatch) {slots : List (Option Addr)}
    {first second : Addr} {rest : List Addr} (count index : ℕ) {after : VectorState Addr}
    (holds : Holds state.vector.block slots) (size : state.vector.size = slots.length)
    (bound : index + count = slots.length) (front : (slots.take index).reduceOption = [])
    (elements : slots.reduceOption = first :: second :: rest)
    (ran : clearElmts count index state = .ok after) :
    ∃ key, state.events ++ [.destroyed first, .keyed second, .matched (some first) key] <+:
      after.events := by
  induction count generalizing index with
  | zero =>
      rw [List.take_of_length_le (by omega), elements] at front
      cases front
  | succ count ih =>
      have inside : index < slots.length := by omega
      have found := List.getElem?_eq_getElem inside
      rcases isElement : slots[index] with _ | element
      · rw [isElement] at found
        rw [clearElmts_empty holds found] at ran
        exact ih (index + 1) (by omega) (front_empty found front) ran
      · rw [isElement] at found
        rw [clearElmts_element holds found] at ran
        rcases slots_split found front with ⟨isFirst, others, -⟩
        rw [elements] at isFirst
        cases (List.cons.inj isFirst).1
        rw [← (List.cons.inj isFirst).2] at others
        rcases exists_of_bind_eq_ok ran with ⟨tagged, tag, ran⟩
        rcases tagCopies_extends tag with ⟨search, searched, extended⟩
        have count : (state.vector.stored index none).size.toNat =
            (slots.set index none).length := by
          change state.vector.size.toNat = _
          rw [List.length_set, size, Int.toNat_natCast]
        rcases @findFrom_first _ ⟨state.vector.stored index none,
          state.events ++ [.destroyed first]⟩ fkey fmatch (some first) (slots.set index none) second
          rest (slots.set index none).length 0 (holds.set index none) (by omega) others with
          ⟨later, place, asked⟩
        have search_eq := @iVectorFindFirstIndex_some _ ⟨state.vector.stored index none,
          state.events ++ [VectorEvent.destroyed first]⟩ fkey fmatch isKey isMatch (some first)
        rw [search_eq, count, show (0 : ℤ) = ((0 : ℕ) : ℤ) from rfl, asked] at searched
        cases searched
        refine ⟨fkey (state.events ++ [VectorEvent.destroyed first]).length second, ?_⟩
        refine List.IsPrefix.trans ?_ (extended.trans (clearElmts_extends ran))
        exact ⟨later, by simp⟩

/-! ### Clearing -/

theorem iVectorClear_of_destroy (destroys : state.vector.fdestroy = true)
    {cleared : VectorState Addr} (ran : clearElmts state.vector.size.toNat 0 state = .ok cleared) :
    iVectorClear state = .ok
      (⟨{ cleared.vector with data := none, size := 0, alloc := 0 }, cleared.events⟩, 0) := by
  rw [iVectorClear, if_pos destroys, ran]
  rfl

/-- `vVectorDestroy` makes the calls of `iVectorClear`. -/
theorem exists_destroyed_of_clear {cleared : VectorState Addr}
    (ran : iVectorClear state = .ok (cleared, 0)) (malloc : Bool) :
    ∃ vector, vVectorDestroy malloc state = .ok (cleared.events, vector) ∧
      ∀ rest ∈ vector, rest.size = 0 ∧ rest.alloc = 0 := by
  cases malloc with
  | true =>
      refine ⟨none, ?_, fun rest restMem => nomatch restMem⟩
      rw [vVectorDestroy, ran]
      rfl
  | false =>
      refine ⟨some ⟨none, 0, 0, 0, none, false, none, none⟩, ?_, ?_⟩
      · rw [vVectorDestroy, ran]
        rfl
      · rintro rest ⟨⟩
        exact ⟨rfl, rfl⟩

theorem clearsOnce_iff_of_clear [DecidableEq Addr] {vector : XVector Addr}
    {calls : List (VectorEvent Addr)}
    (cleared : iVectorClear state = .ok (⟨vector, state.events ++ calls⟩, 0))
    (empty : vector.size = 0 ∧ vector.alloc = 0) :
    ClearsOnce state ↔ DestroysOnce state.vector.slots calls := by
  constructor
  · rintro ⟨⟨vector', calls', cleared', once, -⟩, -⟩
    rw [cleared] at cleared'
    have same := congrArg (fun after => after.1.events) (Except.ok.inj cleared')
    rwa [List.append_cancel_left same]
  · intro once
    refine ⟨⟨vector, calls, cleared, once, empty⟩, fun malloc => ?_⟩
    rcases exists_destroyed_of_clear cleared malloc with ⟨rest, destroyed, isEmpty⟩
    exact ⟨calls, rest, destroyed, once, isEmpty⟩

theorem iVectorClear_unfound (represents : Represents state view)
    (destroys : state.vector.fdestroy = true) {apart : Prop} {noise : VectorEvent Addr → Prop}
    (unfound : Unfound state.vector apart noise view.slots)
    (quiet : ∀ event, noise event → event.destroyed? = none)
    (nodup : apart → view.slots.reduceOption.Nodup) :
    ∃ calls, iVectorClear state = .ok
        (⟨{ state.vector with data := none, size := 0, alloc := 0 }, state.events ++ calls⟩, 0) ∧
      destroyedBy calls = view.slots.reduceOption ∧
      ∀ event ∈ calls, (∃ element, event = .destroyed element) ∨ noise event := by
  rcases @clearElmts_unfound _ state.vector apart noise view.slots unfound quiet view.slots.length 0
    view.slots state.vector.data state.events (fun _ otherMem => otherMem) nodup represents.holds
    represents.size (by omega) rfl with ⟨data, calls, ran, destroyed, only⟩
  have count : state.vector.size.toNat = view.slots.length := by
    rw [represents.size, Int.toNat_natCast]
  refine ⟨calls, ?_, destroyed, only⟩
  rw [← count] at ran
  exact iVectorClear_of_destroy destroys ran

/-- With functions to search with the first of two elements is used when it is destroyed. -/
theorem not_clearsOnce_of_searched [DecidableEq Addr] (represents : Represents state view)
    (destroys : state.vector.fdestroy = true) {fkey : ℕ → Addr → Option Addr}
    {fmatch : ℕ → Option Addr → Option Addr → ℤ} (isKey : state.vector.fkey = some fkey)
    (isMatch : state.vector.fmatch = some fmatch) {first second : Addr} {rest : List Addr}
    (elements : view.slots.reduceOption = first :: second :: rest) : ¬ClearsOnce state := by
  intro once
  rcases clearElmts_eq view.slots.length 0 represents.holds represents.size (by omega) with
    ⟨data, calls, ran, -⟩
  rcases clearElmts_second isKey isMatch view.slots.length 0 represents.holds represents.size
    (by omega) rfl elements ran with ⟨key, extended⟩
  have count : state.vector.size.toNat = view.slots.length := by
    rw [represents.size, Int.toNat_natCast]
  rw [← count] at ran
  have cleared := iVectorClear_of_destroy destroys ran
  have live := ((clearsOnce_iff_of_clear cleared ⟨rfl, rfl⟩).mp once).live
  have asked := live.sublist ((List.prefix_append_right_inj _).mp extended).sublist
  have later := (List.pairwise_cons.mp asked).1 (.matched (some first) key) (by simp)
  exact later first (by simp [VectorEvent.passed]) rfl

/-- Without functions to search with it takes that nothing is stored twice, with both of them that
not more than one element is stored. -/
theorem clearsOnce_iff [DecidableEq Addr] (reachable : Reachable emptyBlock state)
    (destroys : state.vector.fdestroy = true) :
    ClearsOnce state ↔
      if state.vector.fkey.isSome ∧ state.vector.fmatch.isSome then
        state.vector.slots.reduceOption.length ≤ 1
      else state.vector.slots.reduceOption.Nodup := by
  rcases reachable.exists_represents with ⟨view, represents⟩
  have uncopied {apart : Prop} (unfound : Unfound state.vector apart (fun _ => False) view.slots)
      (nodup : apart → view.slots.reduceOption.Nodup) :
      ClearsOnce state ↔ state.vector.slots.reduceOption.Nodup := by
    rcases iVectorClear_unfound represents destroys unfound (fun _ => False.elim) nodup with
      ⟨calls, cleared, destroyed, only⟩
    have isMap := eq_map_destroyed fun event eventMem => (only event eventMem).resolve_right id
    rw [clearsOnce_iff_of_clear cleared ⟨rfl, rfl⟩, isMap, destroyed, ← represents.slots_eq]
    exact destroysOnce_map_iff
  by_cases searches : state.vector.fkey.isSome ∧ state.vector.fmatch.isSome
  · rw [if_pos searches]
    by_cases single : state.vector.slots.reduceOption.length ≤ 1
    · have nodup : state.vector.slots.reduceOption.Nodup :=
        List.nodup_iff_count_le_one.mpr fun element =>
          Nat.le_trans List.count_le_length single
      rw [represents.slots_eq] at single nodup
      rw [uncopied (unfound_of_single single) fun _ => nodup, represents.slots_eq]
      exact ⟨fun _ => single, fun _ => nodup⟩
    · refine ⟨fun once => ?_, fun isSingle => absurd isSingle single⟩
      rw [represents.slots_eq] at single
      rcases Option.isSome_iff_exists.mp searches.1 with ⟨fkey, isKey⟩
      rcases Option.isSome_iff_exists.mp searches.2 with ⟨fmatch, isMatch⟩
      rcases elements : view.slots.reduceOption with _ | ⟨first, _ | ⟨second, rest⟩⟩
      · rw [elements] at single
        exact absurd (Nat.zero_le 1) single
      · rw [elements] at single
        exact absurd (Nat.le_refl 1) single
      · exact absurd once (not_clearsOnce_of_searched represents destroys isKey isMatch elements)
  · rw [if_neg searches]
    exact uncopied (unfound_of_searchless searches) False.elim

/-- Two elements of a vector that destroys its elements. -/
def twoElements (first second : ℕ) (fkey : Option (ℕ → ℕ → Option ℕ))
    (fmatch : Option (ℕ → Option ℕ → Option ℕ → ℤ)) : VectorState ℕ :=
  ⟨⟨some [.holds (some first), .holds (some second)], 2, 2, 1, none, true, fkey, fmatch⟩, []⟩

theorem reachable_twoElements (first second : ℕ) (fkey : Option (ℕ → ℕ → Option ℕ))
    (fmatch : Option (ℕ → Option ℕ → Option ℕ → ℤ)) :
    Reachable false (twoElements first second fkey fmatch) :=
  ⟨1, none, true, [.append (some first), .append (some second), .initSearch fkey fmatch],
    [0, 0, 0], rfl⟩

theorem clearsOnce_apart : ClearsOnce (twoElements 7 8 none none) :=
  (clearsOnce_iff (reachable_twoElements 7 8 none none) rfl).mpr (by decide)

/-- The same pointer twice without a search, and two pointers with the search for them. -/
theorem not_clearsOnce_copies :
    (Reachable false (twoElements 7 7 none none) ∧ ¬ClearsOnce (twoElements 7 7 none none)) ∧
      ¬ClearsOnce (twoElements 7 8 (some fun _ element => some element)
        (some fun _ key other => if key = other then 0 else 1)) := by
  refine ⟨⟨reachable_twoElements 7 7 none none, fun once => ?_⟩, ?_⟩
  · have cleared : iVectorClear (twoElements 7 7 none none) =
        .ok (⟨⟨none, 0, 0, 1, none, true, none, none⟩,
          [] ++ [.destroyed 7, .destroyed 7]⟩, 0) := rfl
    have counted := ((clearsOnce_iff_of_clear cleared ⟨rfl, rfl⟩).mp once).once 7
    exact absurd counted (by decide)
  · have represents := (reachable_twoElements 7 8 (some fun _ element => some element)
      (some fun _ key other => if key = other then 0 else 1)).exists_represents
    rcases represents with ⟨view, represents⟩
    have elements : view.slots.reduceOption = [7, 8] := by
      rw [← represents.slots_eq]
      rfl
    exact not_clearsOnce_of_searched represents rfl rfl rfl elements

end Sysio.Vector
