import Mathlib.Data.List.Perm.Basic
import Mathlib.Data.Nat.Notation

/-!
# Packed structures

A packed structure lists its fields with their sizes; a field lies behind those before it. Stores
into a memory are bounded by its length. When every field of a structure is stored, in whatever
order, the memory starts with the fields one behind the other (`storeAll_of_perm`).
-/

namespace Layout

universe u v

variable {Field : Type u} {Byte : Type v}

/-- The fields of a packed structure, with their sizes. -/
abbrev Struct (Field : Type u) := List (Field × ℕ)

/-- The bytes of a structure. -/
def size : Struct Field → ℕ
  | [] => 0
  | (_, count) :: rest => count + size rest

/-- The place of a field. -/
def offset [DecidableEq Field] (struct : Struct Field) (field : Field) : ℕ :=
  size (struct.takeWhile fun entry => entry.1 ≠ field)

/-- Bytes are stored at a place, if there is room. -/
def store (memory : List Byte) (place : ℕ) (bytes : List Byte) : Option (List Byte) :=
  if place + bytes.length ≤ memory.length then
    some (memory.take place ++ bytes ++ memory.drop (place + bytes.length))
  else none

/-- Bytes are stored at several places. -/
def storeAll (memory : List Byte) : List (ℕ × List Byte) → Option (List Byte)
  | [] => some memory
  | (place, bytes) :: rest => (store memory place bytes).bind fun stored => storeAll stored rest

/-- Fields one behind the other, each with its place. -/
def placed : ℕ → List (List Byte) → List (ℕ × List Byte)
  | _, [] => []
  | start, field :: rest => (start, field) :: placed (start + field.length) rest

theorem store_eq {memory bytes : List Byte} {place : ℕ}
    (inside : place + bytes.length ≤ memory.length) :
    store memory place bytes =
      some (memory.take place ++ bytes ++ memory.drop (place + bytes.length)) :=
  if_pos inside

theorem length_stored {memory bytes stored : List Byte} {place : ℕ}
    (done : store memory place bytes = some stored) : stored.length = memory.length := by
  by_cases inside : place + bytes.length ≤ memory.length
  · rw [store_eq inside] at done
    rw [← Option.some.inj done]
    simp only [List.length_append, List.length_take, List.length_drop]
    omega
  · rw [store, if_neg inside] at done
    cases done

theorem length_storeAll (stores : List (ℕ × List Byte)) {memory stored : List Byte}
    (done : storeAll memory stores = some stored) : stored.length = memory.length := by
  induction stores generalizing memory with
  | nil =>
      cases done
      rfl
  | cons entry rest ih =>
      rcases Option.bind_eq_some_iff.mp done with ⟨mid, first, later⟩
      exact (ih later).trans (length_stored first)

theorem getElem?_stored {memory bytes : List Byte} {place : ℕ}
    (inside : place + bytes.length ≤ memory.length) (index : ℕ) :
    (memory.take place ++ bytes ++ memory.drop (place + bytes.length))[index]? =
      if place ≤ index ∧ index < place + bytes.length then bytes[index - place]?
      else memory[index]? := by
  have front : (memory.take place).length = place := by
    rw [List.length_take]
    omega
  by_cases before : index < place
  · rw [if_neg (by omega), List.append_assoc, List.getElem?_append_left (by omega),
      List.getElem?_take_of_lt before]
  · by_cases within : index < place + bytes.length
    · rw [if_pos ⟨by omega, within⟩, List.getElem?_append_left (by simp; omega),
        List.getElem?_append_right (by omega), front]
    · rw [if_neg (by omega), List.getElem?_append_right (by simp; omega), List.getElem?_drop]
      congr 1
      simp only [List.length_append, front]
      omega

/-- Stores that agree with a content leave it wherever one of them, or the memory before, does. -/
theorem exists_storeAll {content : List Byte} (stores : List (ℕ × List Byte))
    {memory : List Byte} (fits : content.length ≤ memory.length)
    (bounds : ∀ entry ∈ stores, entry.1 + entry.2.length ≤ content.length)
    (agrees : ∀ entry ∈ stores, ∀ index, index < entry.2.length →
      entry.2[index]? = content[entry.1 + index]?) :
    ∃ stored, storeAll memory stores = some stored ∧ stored.length = memory.length ∧
      (∀ index, content.length ≤ index → stored[index]? = memory[index]?) ∧
      ∀ index, (memory[index]? = content[index]? ∨
        ∃ entry ∈ stores, entry.1 ≤ index ∧ index < entry.1 + entry.2.length) →
        stored[index]? = content[index]? := by
  induction stores generalizing memory with
  | nil =>
      refine ⟨memory, rfl, rfl, fun _ _ => rfl, ?_⟩
      rintro index (same | ⟨entry, entryMem, -⟩)
      · exact same
      · exact absurd entryMem List.not_mem_nil
  | cons entry rest ih =>
      have bound := bounds entry List.mem_cons_self
      have done := store_eq (show entry.1 + entry.2.length ≤ memory.length by omega)
      have length := length_stored done
      have read := getElem?_stored (show entry.1 + entry.2.length ≤ memory.length by omega)
      have fitsStored : content.length ≤ (memory.take entry.1 ++ entry.2 ++
          memory.drop (entry.1 + entry.2.length)).length := by
        rw [length]
        exact fits
      rcases ih fitsStored
        (fun other mem => bounds other (List.mem_cons_of_mem _ mem))
        (fun other mem => agrees other (List.mem_cons_of_mem _ mem)) with
        ⟨stored, ran, lengthStored, behind, covered⟩
      refine ⟨stored, ?_, lengthStored.trans length, ?_, ?_⟩
      · rw [storeAll, done]
        exact ran
      · intro index beyond
        rw [behind index beyond, read, if_neg (by omega)]
      · intro index from?
        refine covered index ?_
        rw [read]
        by_cases here : entry.1 ≤ index ∧ index < entry.1 + entry.2.length
        · refine .inl ?_
          rw [if_pos here, agrees entry List.mem_cons_self _ (by omega)]
          congr 1
          omega
        · rw [if_neg here]
          rcases from? with same | ⟨other, otherMem, within⟩
          · exact .inl same
          · rcases List.mem_cons.mp otherMem with rfl | later
            · exact absurd within here
            · exact .inr ⟨other, later, within⟩

theorem mem_placed {start : ℕ} {fields : List (List Byte)} {entry : ℕ × List Byte}
    (entryMem : entry ∈ placed start fields) :
    start ≤ entry.1 ∧ entry.1 + entry.2.length ≤ start + fields.flatten.length ∧
      ∀ index, index < entry.2.length →
        entry.2[index]? = fields.flatten[entry.1 - start + index]? := by
  induction fields generalizing start with
  | nil => cases entryMem
  | cons field rest ih =>
      rw [List.flatten_cons, List.length_append]
      rcases List.mem_cons.mp entryMem with rfl | later
      · refine ⟨Nat.le_refl start, by simp only; omega, fun index inside => ?_⟩
        rw [Nat.sub_self, Nat.zero_add, List.getElem?_append_left inside]
      · rcases ih later with ⟨behind, within, same⟩
        refine ⟨by omega, by omega, fun index inside => ?_⟩
        rw [same index inside, List.getElem?_append_right (by omega)]
        congr 1
        omega

theorem placed_covers {start : ℕ} {fields : List (List Byte)} {index : ℕ}
    (behind : start ≤ index) (within : index < start + fields.flatten.length) :
    ∃ entry ∈ placed start fields, entry.1 ≤ index ∧ index < entry.1 + entry.2.length := by
  induction fields generalizing start with
  | nil =>
      rw [List.flatten_nil, List.length_nil] at within
      omega
  | cons field rest ih =>
      rw [List.flatten_cons, List.length_append] at within
      by_cases here : index < start + field.length
      · exact ⟨(start, field), List.mem_cons_self, behind, here⟩
      · have later : start + field.length ≤ index := by omega
        rcases ih later (by omega) with
          ⟨entry, entryMem, range⟩
        exact ⟨entry, List.mem_cons_of_mem _ entryMem, range⟩

/-- Storing every field of a structure, in any order, leaves the fields one behind the other. -/
theorem storeAll_of_perm {stores : List (ℕ × List Byte)} {fields : List (List Byte)}
    {memory : List Byte} (perm : stores.Perm (placed 0 fields))
    (fits : fields.flatten.length ≤ memory.length) :
    storeAll memory stores =
      some (fields.flatten ++ memory.drop fields.flatten.length) := by
  have spec (entry : ℕ × List Byte) (entryMem : entry ∈ stores) :=
    mem_placed (perm.mem_iff.mp entryMem)
  rcases exists_storeAll stores fits
    (fun entry entryMem => by have := (spec entry entryMem).2.1; omega)
    (fun entry entryMem index inside => (spec entry entryMem).2.2 index inside) with
    ⟨stored, ran, length, behind, covered⟩
  rw [ran]
  refine congrArg some (List.ext_getElem? fun index => ?_)
  by_cases within : index < fields.flatten.length
  · have inside : index < 0 + fields.flatten.length := by omega
    rcases placed_covers (Nat.zero_le index) inside with
      ⟨entry, entryMem, range⟩
    rw [covered index (.inr ⟨entry, perm.mem_iff.mpr entryMem, range⟩),
      List.getElem?_append_left within]
  · rw [behind index (by omega), List.getElem?_append_right (by omega), List.getElem?_drop]
    congr 1
    omega

end Layout
