import Sysio.Gpio.Numbering

/-!
# The pin iterator of `gpio/gpio.c`

The cursor of the iterator is an index into the list of pins, or one of two negative numbers that
stand for the front and the back. The loops of `iGpioNext` and `iGpioPrevious` may go on for ever:
they are given the turns that they may take. The cursor is an integer without a bound: the lists
have about a hundred pins, and an `int` would overflow only in a loop that goes on for ever.
-/

namespace Sysio.Gpio

def iteratorFront : ℤ := -1
def iteratorBack : ℤ := -2

/-- The cursor goes before the first pin. -/
def iGpioToFront (gp : XGpio) : ℤ × XGpio := (0, { gp with i := iteratorFront })

/-- The cursor goes behind the last pin. -/
def iGpioToBack (gp : XGpio) : ℤ × XGpio := (0, { gp with i := iteratorBack })

/-- The cursor is not at the last entry. -/
def bGpioHasNext (gp : XGpio) : Bool :=
  match gp.list with
  | some list => decide (gp.i ≠ list.last)
  | none => false

/-- The cursor is not at the first entry. -/
def bGpioHasPrevious (gp : XGpio) : Bool :=
  match gp.list with
  | some list => decide (gp.i ≠ list.first)
  | none => false

/-- The number of the pin at the cursor. -/
def XGpio.number (gp : XGpio) : ℤ :=
  if gp.numbering = .eNumberingPhysical then gp.i + 1 else gp.i

/-- The number of the next valid pin, or -1, in so many turns at most. -/
def iGpioNext : ℕ → XGpio → Option (ℤ × XGpio)
  | 0, _ => none
  | turns + 1, gp =>
      match gp.list with
      | some list =>
          let gp := { gp with i := if gp.i = iteratorFront then list.first else gp.i + 1 }
          if bGpioIsValid gp.number gp then some (gp.number, gp)
          else if bGpioHasNext gp then iGpioNext turns gp
          else some (-1, gp)
      | none => some (-1, gp)

/-- The number of the valid pin before, or -1. -/
def iGpioPrevious : ℕ → XGpio → Option (ℤ × XGpio)
  | 0, _ => none
  | turns + 1, gp =>
      match gp.list with
      | some list =>
          let gp := { gp with i := if gp.i = iteratorBack then list.last else gp.i - 1 }
          if bGpioIsValid gp.number gp then some (gp.number, gp)
          else if bGpioHasPrevious gp then iGpioPrevious turns gp
          else some (-1, gp)
      | none => some (-1, gp)

/-- `while (bGpioHasNext) iGpioNext`, with the numbers that are returned. -/
def gpioForward : ℕ → XGpio → Option (List ℤ)
  | 0, _ => none
  | turns + 1, gp =>
      if bGpioHasNext gp then
        (iGpioNext turns gp).bind fun found => (gpioForward turns found.2).map (found.1 :: ·)
      else some []

/-- `while (bGpioHasPrevious) iGpioPrevious`. -/
def gpioBackward : ℕ → XGpio → Option (List ℤ)
  | 0, _ => none
  | turns + 1, gp =>
      if bGpioHasPrevious gp then
        (iGpioPrevious turns gp).bind fun found => (gpioBackward turns found.2).map (found.1 :: ·)
      else some []

/-- A call of the iterator. -/
inductive GpioCall where
  | toFront
  | toBack
  | next
  | previous
  | hasNext
  | hasPrevious
deriving DecidableEq, Repr

/-- The call returns `r`, after as many turns of its loop as it takes. -/
def GpioCall.Returns (call : GpioCall) (gp : XGpio) (r : ℤ) (gp' : XGpio) : Prop :=
  match call with
  | toFront => iGpioToFront gp = (r, gp')
  | toBack => iGpioToBack gp = (r, gp')
  | next => ∃ turns, iGpioNext turns gp = some (r, gp')
  | previous => ∃ turns, iGpioPrevious turns gp = some (r, gp')
  | hasNext => (bGpioHasNext gp).toInt = r ∧ gp' = gp
  | hasPrevious => (bGpioHasPrevious gp).toInt = r ∧ gp' = gp

/-! ### What an iterator does -/

/-- Where an iterator is. -/
inductive GpioCursor where
  | front
  | on (p : ℤ)
  | back

namespace GpioCursor

/-- The cursor is before the pin `p`. -/
def Before : GpioCursor → ℤ → Prop
  | front, _ => True
  | on q, p => q < p
  | back, _ => False

/-- The cursor is behind the pin `p`. -/
def Behind : GpioCursor → ℤ → Prop
  | front, _ => False
  | on q, p => p < q
  | back, _ => True

/-- The answer that an iterator over these pins gives to a call, and its cursor after it. -/
def Answers (Valid : ℤ → Prop) (cursor : GpioCursor) (call : GpioCall) (r : ℤ)
    (cursor' : GpioCursor) : Prop :=
  match call with
  | .toFront => r = 0 ∧ cursor' = front
  | .toBack => r = 0 ∧ cursor' = back
  | .next => (Valid r ∧ cursor.Before r ∧ (∀ p, Valid p → cursor.Before p → r ≤ p) ∧
      cursor' = on r) ∨ ((∀ p, Valid p → ¬cursor.Before p) ∧ r = -1)
  | .previous => (Valid r ∧ cursor.Behind r ∧ (∀ p, Valid p → cursor.Behind p → p ≤ r) ∧
      cursor' = on r) ∨ ((∀ p, Valid p → ¬cursor.Behind p) ∧ r = -1)
  | .hasNext => cursor' = cursor ∧
      ((r = 1 ∧ ∃ p, Valid p ∧ cursor.Before p) ∨ (r = 0 ∧ ∀ p, Valid p → ¬cursor.Before p))
  | .hasPrevious => cursor' = cursor ∧
      ((r = 1 ∧ ∃ p, Valid p ∧ cursor.Behind p) ∨ (r = 0 ∧ ∀ p, Valid p → ¬cursor.Behind p))

/-- `iGpioNext` is not called where no pin lies after the cursor, nor `bGpioHasNext` at the back;
and the other way round. -/
def Admits (Valid : ℤ → Prop) (cursor : GpioCursor) : GpioCall → Prop
  | .next => ∃ p, Valid p ∧ cursor.Before p
  | .previous => ∃ p, Valid p ∧ cursor.Behind p
  | .hasNext => cursor ≠ back
  | .hasPrevious => cursor ≠ front
  | _ => True

end GpioCursor

/-- Each of these calls returns, and answers as an iterator does; nothing is said of what follows
a call that is not admitted. -/
def Iterates (Valid : ℤ → Prop) (gp : XGpio) (cursor : GpioCursor) : List GpioCall → Prop
  | [] => True
  | call :: calls => cursor.Admits Valid call →
      ∃ r gp' cursor', call.Returns gp r gp' ∧ cursor.Answers Valid call r cursor' ∧
        Iterates Valid gp' cursor' calls

/-! ### The loops -/

/-- The pins of the list, in a numbering whose numbers are the indices of the list. -/
structure XGpio.Lists (gp : XGpio) (list : XPinList) : Prop where
  isList : gp.list = some list
  isIndex : gp.numbering ≠ .eNumberingPhysical
  low : 0 ≤ list.first
  first : 0 ≤ list.entry list.first
  last : 0 ≤ list.entry list.last

/-- The pin number `p` of the list is valid. -/
def XPinList.Valid (list : XPinList) (p : ℤ) : Prop := 0 ≤ list.entry p

theorem XPinList.Valid.within {list : XPinList} {p : ℤ} (valid : list.Valid p) :
    list.first ≤ p ∧ p ≤ list.last := by
  by_contra outside
  have beyond : p < list.first ∨ list.last < p := by omega
  rw [XPinList.Valid, entry_of_beyond beyond] at valid
  exact absurd valid (by decide)

section Loops

variable {gp : XGpio} {list : XPinList} (lists : gp.Lists list)

include lists

theorem XGpio.Lists.moved (i : ℤ) : ({ gp with i := i } : XGpio).Lists list :=
  ⟨lists.isList, lists.isIndex, lists.low, lists.first, lists.last⟩

theorem XGpio.Lists.isValid_iff {p : ℤ} : bGpioIsValid p gp = true ↔ list.Valid p := by
  rw [bGpioIsValid, decide_eq_true_iff, iGpioMcuPin, lists.isList]
  simp only [if_neg lists.isIndex]
  exact Iff.rfl

theorem XGpio.Lists.hasNext_iff : bGpioHasNext gp = true ↔ gp.i ≠ list.last := by
  rw [bGpioHasNext, lists.isList]
  exact decide_eq_true_iff

theorem XGpio.Lists.hasPrevious_iff : bGpioHasPrevious gp = true ↔ gp.i ≠ list.first := by
  rw [bGpioHasPrevious, lists.isList]
  exact decide_eq_true_iff

theorem XGpio.Lists.number_eq : gp.number = gp.i := if_neg lists.isIndex

/-- One turn of the loop of `iGpioNext`. -/
theorem XGpio.Lists.next_turn {turns : ℕ} {i : ℤ}
    (steps : (if gp.i = iteratorFront then list.first else gp.i + 1) = i) :
    iGpioNext (turns + 1) gp =
      if bGpioIsValid i gp = true then some (i, { gp with i := i })
      else if i ≠ list.last then iGpioNext turns { gp with i := i }
      else some (-1, { gp with i := i }) := by
  rcases gp with ⟨gpList, j, numbering, connSize⟩
  have isList : gpList = some list := lists.isList
  subst isList
  have moved := lists.moved i
  rw [iGpioNext]
  simp only [steps]
  rw [moved.number_eq]
  refine if_congr Iff.rfl rfl ?_
  exact if_congr moved.hasNext_iff rfl rfl

theorem XGpio.Lists.previous_turn {turns : ℕ} {i : ℤ}
    (steps : (if gp.i = iteratorBack then list.last else gp.i - 1) = i) :
    iGpioPrevious (turns + 1) gp =
      if bGpioIsValid i gp = true then some (i, { gp with i := i })
      else if i ≠ list.first then iGpioPrevious turns { gp with i := i }
      else some (-1, { gp with i := i }) := by
  rcases gp with ⟨gpList, j, numbering, connSize⟩
  have isList : gpList = some list := lists.isList
  subst isList
  have moved := lists.moved i
  rw [iGpioPrevious]
  simp only [steps]
  rw [moved.number_eq]
  refine if_congr Iff.rfl rfl ?_
  exact if_congr moved.hasPrevious_iff rfl rfl

/-- From an index at which the loop begins, up to the last one, it finds the first valid pin. -/
theorem XGpio.Lists.next_finds {i : ℤ}
    (steps : (if gp.i = iteratorFront then list.first else gp.i + 1) = i)
    (low : list.first ≤ i) (high : i ≤ list.last) :
    ∃ p turns, list.Valid p ∧ i ≤ p ∧ (∀ q, list.Valid q → i ≤ q → p ≤ q) ∧
      ∀ more, iGpioNext (turns + more) gp = some (p, { gp with i := p }) := by
  generalize distance : (list.last - i).toNat = d
  induction d generalizing gp i with
  | zero =>
      have isLast : i = list.last := by omega
      refine ⟨i, 1, isLast ▸ lists.last, le_refl i, fun _ _ below => below, fun more => ?_⟩
      rw [Nat.add_comm, lists.next_turn steps, if_pos (lists.isValid_iff.mpr (isLast ▸ lists.last))]
  | succ d further =>
      by_cases valid : list.Valid i
      · refine ⟨i, 1, valid, le_refl i, fun _ _ below => below, fun more => ?_⟩
        rw [Nat.add_comm, lists.next_turn steps, if_pos (lists.isValid_iff.mpr valid)]
      · have notLast : i ≠ list.last := fun isLast => valid (isLast ▸ lists.last)
        have low' := lists.low
        have goesOn : (if i = iteratorFront then list.first else i + 1) = i + 1 := by
          rw [if_neg]
          rw [iteratorFront]
          omega
        rcases further (lists.moved i) goesOn (by omega) (by omega) (by omega) with
          ⟨p, turns, isValid, above, least, found⟩
        refine ⟨p, turns + 1, isValid, by omega, ?_, fun more => ?_⟩
        · intro q validThere from_
          apply least q validThere
          rcases Int.lt_or_eq_of_le from_ with beyond | rfl
          · exact beyond
          · exact absurd validThere valid
        · rw [Nat.add_right_comm, lists.next_turn steps,
            if_neg fun isValid' => valid (lists.isValid_iff.mp isValid'), if_pos notLast, found]

theorem XGpio.Lists.previous_finds {i : ℤ}
    (steps : (if gp.i = iteratorBack then list.last else gp.i - 1) = i)
    (low : list.first ≤ i) (high : i ≤ list.last) :
    ∃ p turns, list.Valid p ∧ p ≤ i ∧ (∀ q, list.Valid q → q ≤ i → q ≤ p) ∧
      ∀ more, iGpioPrevious (turns + more) gp = some (p, { gp with i := p }) := by
  generalize distance : (i - list.first).toNat = d
  induction d generalizing gp i with
  | zero =>
      have isFirst : i = list.first := by omega
      refine ⟨i, 1, isFirst ▸ lists.first, le_refl i, fun _ _ above => above, fun more => ?_⟩
      rw [Nat.add_comm, lists.previous_turn steps,
        if_pos (lists.isValid_iff.mpr (isFirst ▸ lists.first))]
  | succ d further =>
      by_cases valid : list.Valid i
      · refine ⟨i, 1, valid, le_refl i, fun _ _ above => above, fun more => ?_⟩
        rw [Nat.add_comm, lists.previous_turn steps, if_pos (lists.isValid_iff.mpr valid)]
      · have notFirst : i ≠ list.first := fun isFirst => valid (isFirst ▸ lists.first)
        have low' := lists.low
        have goesOn : (if i = iteratorBack then list.last else i - 1) = i - 1 := by
          rw [if_neg]
          rw [iteratorBack]
          omega
        rcases further (lists.moved i) goesOn (by omega) (by omega) (by omega) with
          ⟨p, turns, isValid, below, greatest, found⟩
        refine ⟨p, turns + 1, isValid, by omega, ?_, fun more => ?_⟩
        · intro q validThere upTo
          apply greatest q validThere
          rcases Int.lt_or_eq_of_le upTo with before | rfl
          · exact Int.le_sub_one_of_lt before
          · exact absurd validThere valid
        · rw [Nat.add_right_comm, lists.previous_turn steps,
            if_neg fun isValid' => valid (lists.isValid_iff.mp isValid'), if_pos notFirst, found]

end Loops

/-! ### Every call -/

/-- The cursor as the code has it. -/
def GpioCursor.index : GpioCursor → ℤ
  | front => iteratorFront
  | on p => p
  | back => iteratorBack

/-- The iterator is where the cursor is. -/
structure XGpio.Stands (gp : XGpio) (list : XPinList) (cursor : GpioCursor) : Prop where
  lists : gp.Lists list
  isIndex : gp.i = cursor.index
  onValid : ∀ p, cursor = .on p → list.Valid p

section Calls

variable {gp : XGpio} {list : XPinList} {cursor : GpioCursor}

theorem XGpio.Lists.stands (lists : gp.Lists list) {p : ℤ} (valid : list.Valid p) :
    ({ gp with i := p } : XGpio).Stands list (.on p) :=
  ⟨lists.moved p, rfl, fun q same => by cases same; exact valid⟩

variable (stands : gp.Stands list cursor)

include stands

/-- The index at which the loop of `iGpioNext` begins: the pins from it on lie after the cursor. -/
theorem XGpio.Stands.next_index (inside : cursor ≠ .back) :
    ∃ i, (if gp.i = iteratorFront then list.first else gp.i + 1) = i ∧ list.first ≤ i ∧
      ∀ q, list.Valid q → (cursor.Before q ↔ i ≤ q) := by
  rw [stands.isIndex]
  cases cursor with
  | front =>
      refine ⟨list.first, if_pos rfl, le_refl _, fun q valid => ?_⟩
      exact iff_of_true trivial valid.within.1
  | on p =>
      have within := (stands.onValid p rfl).within
      have low := stands.lists.low
      refine ⟨p + 1, if_neg ?_, by omega, fun q _ => Iff.rfl⟩
      rw [GpioCursor.index, iteratorFront]
      omega
  | back => exact absurd rfl inside

theorem XGpio.Stands.previous_index (inside : cursor ≠ .front) :
    ∃ i, (if gp.i = iteratorBack then list.last else gp.i - 1) = i ∧ i ≤ list.last ∧
      ∀ q, list.Valid q → (cursor.Behind q ↔ q ≤ i) := by
  rw [stands.isIndex]
  cases cursor with
  | front => exact absurd rfl inside
  | on p =>
      have within := (stands.onValid p rfl).within
      have low := stands.lists.low
      refine ⟨p - 1, if_neg ?_, by omega, fun q _ => ?_⟩
      · rw [GpioCursor.index, iteratorBack]
        omega
      · exact Int.le_sub_one_iff.symm
  | back =>
      refine ⟨list.last, if_pos rfl, le_refl _, fun q valid => ?_⟩
      exact iff_of_true trivial valid.within.2

theorem XGpio.Stands.hasNext_iff (inside : cursor ≠ .back) :
    bGpioHasNext gp = true ↔ ∃ p, list.Valid p ∧ cursor.Before p := by
  have low := stands.lists.low
  rw [stands.lists.hasNext_iff, stands.isIndex]
  cases cursor with
  | front =>
      have within := @XPinList.Valid.within list _ stands.lists.last
      apply iff_of_true
      · rw [GpioCursor.index, iteratorFront]
        omega
      · exact ⟨list.first, stands.lists.first, trivial⟩
  | on p =>
      have within := (stands.onValid p rfl).within
      constructor
      · intro notLast
        exact ⟨list.last, stands.lists.last, lt_of_le_of_ne within.2 notLast⟩
      · rintro ⟨q, valid, after⟩ (isLast : p = list.last)
        rw [isLast] at after
        exact absurd valid.within.2 (Int.not_le.mpr after)
  | back => exact absurd rfl inside

theorem XGpio.Stands.hasPrevious_iff (inside : cursor ≠ .front) :
    bGpioHasPrevious gp = true ↔ ∃ p, list.Valid p ∧ cursor.Behind p := by
  have low := stands.lists.low
  rw [stands.lists.hasPrevious_iff, stands.isIndex]
  cases cursor with
  | front => exact absurd rfl inside
  | on p =>
      have within := (stands.onValid p rfl).within
      constructor
      · intro notFirst
        exact ⟨list.first, stands.lists.first, lt_of_le_of_ne within.1 (Ne.symm notFirst)⟩
      · rintro ⟨q, valid, before⟩ (isFirst : p = list.first)
        rw [isFirst] at before
        exact absurd valid.within.1 (Int.not_le.mpr before)
  | back =>
      have within := @XPinList.Valid.within list _ stands.lists.first
      apply iff_of_true
      · rw [GpioCursor.index, iteratorBack]
        omega
      · exact ⟨list.last, stands.lists.last, trivial⟩

theorem XGpio.Stands.next {p : ℤ} (valid : list.Valid p) (after : cursor.Before p) :
    ∃ r turns, list.Valid r ∧ cursor.Before r ∧
      (∀ q, list.Valid q → cursor.Before q → r ≤ q) ∧
      ∀ more, iGpioNext (turns + more) gp = some (r, { gp with i := r }) := by
  have inside : cursor ≠ .back := by
    rintro rfl
    exact after
  rcases stands.next_index inside with ⟨i, steps, low, isAfter⟩
  have high : i ≤ list.last := le_trans ((isAfter p valid).mp after) valid.within.2
  rcases stands.lists.next_finds steps low high with ⟨r, turns, isValid, above, least, found⟩
  refine ⟨r, turns, isValid, (isAfter r isValid).mpr above, ?_, found⟩
  intro q validThere afterThere
  exact least q validThere ((isAfter q validThere).mp afterThere)

theorem XGpio.Stands.previous {p : ℤ} (valid : list.Valid p) (before : cursor.Behind p) :
    ∃ r turns, list.Valid r ∧ cursor.Behind r ∧
      (∀ q, list.Valid q → cursor.Behind q → q ≤ r) ∧
      ∀ more, iGpioPrevious (turns + more) gp = some (r, { gp with i := r }) := by
  have inside : cursor ≠ .front := by
    rintro rfl
    exact before
  rcases stands.previous_index inside with ⟨i, steps, high, isBefore⟩
  have low : list.first ≤ i := le_trans valid.within.1 ((isBefore p valid).mp before)
  rcases stands.lists.previous_finds steps low high with
    ⟨r, turns, isValid, below, greatest, found⟩
  refine ⟨r, turns, isValid, (isBefore r isValid).mpr below, ?_, found⟩
  intro q validThere beforeThere
  exact greatest q validThere ((isBefore q validThere).mp beforeThere)

/-- A call that is admitted is answered. -/
theorem XGpio.Stands.answers {call : GpioCall} (admits : cursor.Admits list.Valid call) :
    ∃ r gp' cursor', call.Returns gp r gp' ∧ cursor.Answers list.Valid call r cursor' ∧
      gp'.Stands list cursor' := by
  have lists := stands.lists
  have toInt : ∀ b : Bool, (b = true → b.toInt = 1) ∧ (b = false → b.toInt = 0) := by decide
  cases call with
  | toFront =>
      exact ⟨0, _, .front, rfl, ⟨rfl, rfl⟩, lists.moved _, rfl, fun p same => by cases same⟩
  | toBack =>
      exact ⟨0, _, .back, rfl, ⟨rfl, rfl⟩, lists.moved _, rfl, fun p same => by cases same⟩
  | next =>
      rcases admits with ⟨p, valid, after⟩
      rcases stands.next valid after with ⟨r, turns, isValid, isAfter, least, found⟩
      exact ⟨r, _, .on r, ⟨turns, found 0⟩, .inl ⟨isValid, isAfter, least, rfl⟩,
        lists.stands isValid⟩
  | previous =>
      rcases admits with ⟨p, valid, before⟩
      rcases stands.previous valid before with ⟨r, turns, isValid, isBefore, greatest, found⟩
      exact ⟨r, _, .on r, ⟨turns, found 0⟩, .inl ⟨isValid, isBefore, greatest, rfl⟩,
        lists.stands isValid⟩
  | hasNext =>
      refine ⟨_, gp, cursor, ⟨rfl, rfl⟩, ⟨rfl, ?_⟩, stands⟩
      by_cases has : bGpioHasNext gp = true
      · exact .inl ⟨(toInt _).1 has, (stands.hasNext_iff admits).mp has⟩
      · refine .inr ⟨(toInt _).2 (Bool.eq_false_of_not_eq_true has), fun p valid after => has ?_⟩
        exact (stands.hasNext_iff admits).mpr ⟨p, valid, after⟩
  | hasPrevious =>
      refine ⟨_, gp, cursor, ⟨rfl, rfl⟩, ⟨rfl, ?_⟩, stands⟩
      by_cases has : bGpioHasPrevious gp = true
      · exact .inl ⟨(toInt _).1 has, (stands.hasPrevious_iff admits).mp has⟩
      · refine .inr ⟨(toInt _).2 (Bool.eq_false_of_not_eq_true has), fun p valid before => has ?_⟩
        exact (stands.hasPrevious_iff admits).mpr ⟨p, valid, before⟩

end Calls

theorem XGpio.Stands.iterates {list : XPinList} (calls : List GpioCall) {gp : XGpio}
    {cursor : GpioCursor} (stands : gp.Stands list cursor) :
    Iterates list.Valid gp cursor calls := by
  induction calls generalizing gp cursor with
  | nil => trivial
  | cons call calls later =>
      intro admits
      rcases stands.answers admits with ⟨r, gp', cursor', returns, answers, stands'⟩
      exact ⟨r, gp', cursor', returns, answers, later stands'⟩

/-! ### All pins, one after the other -/

theorem XGpio.Stands.forward {gp : XGpio} {list : XPinList} {cursor : GpioCursor}
    (stands : gp.Stands list cursor) (inside : cursor ≠ .back) :
    ∃ turns ps, ps.Pairwise (· < ·) ∧ (∀ p, p ∈ ps ↔ list.Valid p ∧ cursor.Before p) ∧
      ∀ more, gpioForward (turns + more) gp = some ps := by
  generalize distance : (list.last - gp.i).toNat = d
  induction d using Nat.strong_induction_on generalizing gp cursor with
  | _ d shorter =>
      by_cases has : bGpioHasNext gp = true
      · rcases (stands.hasNext_iff inside).mp has with ⟨p, valid, after⟩
        rcases stands.next valid after with ⟨r, turns, isValid, isAfter, least, found⟩
        have low := stands.lists.low
        have nearer : (list.last - r).toNat < d := by
          have within := isValid.within
          have isIndex := stands.isIndex
          cases cursor with
          | front =>
              rw [GpioCursor.index, iteratorFront] at isIndex
              omega
          | on q =>
              change q < r at isAfter
              rw [GpioCursor.index] at isIndex
              omega
          | back => exact absurd rfl inside
        rcases shorter _ nearer (stands.lists.stands isValid) nofun rfl with
          ⟨turns', ps, ascends, isIn, runs⟩
        refine ⟨turns + turns' + 1, r :: ps, ?_, ?_, fun more => ?_⟩
        · exact List.pairwise_cons.mpr ⟨fun p among => ((isIn p).mp among).2, ascends⟩
        · intro q
          rw [List.mem_cons, isIn]
          constructor
          · rintro (rfl | ⟨validThere, beyond⟩)
            · exact ⟨isValid, isAfter⟩
            · refine ⟨validThere, ?_⟩
              cases cursor with
              | front => trivial
              | on q' => exact lt_trans isAfter beyond
              | back => exact absurd rfl inside
          · rintro ⟨validThere, afterThere⟩
            rcases Int.lt_or_eq_of_le (least q validThere afterThere) with beyond | same
            · exact .inr ⟨validThere, beyond⟩
            · exact .inl same.symm
        · have split : turns + turns' + 1 + more = turns + (turns' + more) + 1 := by omega
          have split' : turns + (turns' + more) = turns' + (turns + more) := by omega
          rw [split, gpioForward, if_pos has, found, Option.bind_some]
          change (gpioForward (turns + (turns' + more)) { gp with i := r }).map (r :: ·) = _
          rw [split', runs]
          rfl
      · refine ⟨1, [], List.Pairwise.nil, fun p => ?_, fun more => ?_⟩
        · apply iff_of_false List.not_mem_nil
          rintro ⟨valid, after⟩
          exact has ((stands.hasNext_iff inside).mpr ⟨p, valid, after⟩)
        · rw [Nat.add_comm, gpioForward, if_neg has]

theorem XGpio.Stands.backward {gp : XGpio} {list : XPinList} {cursor : GpioCursor}
    (stands : gp.Stands list cursor) (inside : cursor ≠ .front) :
    ∃ turns ps, ps.Pairwise (· > ·) ∧ (∀ p, p ∈ ps ↔ list.Valid p ∧ cursor.Behind p) ∧
      ∀ more, gpioBackward (turns + more) gp = some ps := by
  -- the back counts as an index behind the last one
  generalize distance :
    ((if gp.i = iteratorBack then list.last + 1 else gp.i) - list.first).toNat = d
  induction d using Nat.strong_induction_on generalizing gp cursor with
  | _ d shorter =>
      by_cases has : bGpioHasPrevious gp = true
      · rcases (stands.hasPrevious_iff inside).mp has with ⟨p, valid, before⟩
        rcases stands.previous valid before with ⟨r, turns, isValid, isBefore, greatest, found⟩
        have low := stands.lists.low
        have nearer : ((if r = iteratorBack then list.last + 1 else r) - list.first).toNat < d := by
          have within := isValid.within
          have isIndex := stands.isIndex
          have notBack : r ≠ iteratorBack := by
            rw [iteratorBack]
            omega
          rw [if_neg notBack]
          cases cursor with
          | front => exact absurd rfl inside
          | on q =>
              change r < q at isBefore
              rw [GpioCursor.index] at isIndex
              have onPin : gp.i ≠ iteratorBack := by
                rw [iteratorBack]
                omega
              rw [if_neg onPin] at distance
              omega
          | back =>
              have atBack : gp.i = iteratorBack := isIndex
              rw [if_pos atBack] at distance
              omega
        rcases shorter _ nearer (stands.lists.stands isValid) nofun rfl with
          ⟨turns', ps, descends, isIn, runs⟩
        refine ⟨turns + turns' + 1, r :: ps, ?_, ?_, fun more => ?_⟩
        · exact List.pairwise_cons.mpr ⟨fun p among => ((isIn p).mp among).2, descends⟩
        · intro q
          rw [List.mem_cons, isIn]
          constructor
          · rintro (rfl | ⟨validThere, below⟩)
            · exact ⟨isValid, isBefore⟩
            · refine ⟨validThere, ?_⟩
              cases cursor with
              | front => exact absurd rfl inside
              | on q' => exact lt_trans below isBefore
              | back => trivial
          · rintro ⟨validThere, beforeThere⟩
            rcases Int.lt_or_eq_of_le (greatest q validThere beforeThere) with below | same
            · exact .inr ⟨validThere, below⟩
            · exact .inl same
        · have split : turns + turns' + 1 + more = turns + (turns' + more) + 1 := by omega
          have split' : turns + (turns' + more) = turns' + (turns + more) := by omega
          rw [split, gpioBackward, if_pos has, found, Option.bind_some]
          change (gpioBackward (turns + (turns' + more)) { gp with i := r }).map (r :: ·) = _
          rw [split', runs]
          rfl
      · refine ⟨1, [], List.Pairwise.nil, fun p => ?_, fun more => ?_⟩
        · apply iff_of_false List.not_mem_nil
          rintro ⟨valid, before⟩
          exact has ((stands.hasPrevious_iff inside).mpr ⟨p, valid, before⟩)
        · rw [Nat.add_comm, gpioBackward, if_neg has]

/-! ### The calls that are not admitted -/

section Refused

variable {gp : XGpio} {list : XPinList} (lists : gp.Lists list)

include lists

/-- Behind the last pin the loop never ends. -/
theorem XGpio.Lists.next_beyond {turns : ℕ} (beyond : list.last ≤ gp.i) :
    iGpioNext turns gp = none := by
  induction turns generalizing gp with
  | zero => rfl
  | succ turns goesOn =>
      have within := @XPinList.Valid.within list _ lists.last
      have low := lists.low
      have steps : (if gp.i = iteratorFront then list.first else gp.i + 1) = gp.i + 1 := by
        rw [if_neg]
        rw [iteratorFront]
        omega
      have invalid : ¬list.Valid (gp.i + 1) := fun valid => by
        have inside := valid.within.2
        omega
      rw [lists.next_turn steps, if_neg fun isValid => invalid (lists.isValid_iff.mp isValid),
        if_pos (by omega), goesOn (lists.moved _)]
      change list.last ≤ gp.i + 1
      omega

/-- Before the first pin it runs into the index of the back, and finds the last pin. -/
theorem XGpio.Lists.previous_below {turns : ℕ} {r : ℤ} {gp' : XGpio} (below : gp.i ≤ list.first)
    (above : iteratorBack ≤ gp.i) (returns : iGpioPrevious turns gp = some (r, gp')) :
    r = list.last := by
  induction turns generalizing gp with
  | zero => cases returns
  | succ turns goesOn =>
      have within := @XPinList.Valid.within list _ lists.last
      have low := lists.low
      rw [iteratorBack] at above
      by_cases atBack : gp.i = iteratorBack
      · rw [lists.previous_turn (if_pos atBack), if_pos (lists.isValid_iff.mpr lists.last)]
          at returns
        cases returns
        rfl
      · have invalid : ¬list.Valid (gp.i - 1) := fun valid => by
          have inside := valid.within.1
          omega
        rw [lists.previous_turn (if_neg atBack),
          if_neg fun isValid => invalid (lists.isValid_iff.mp isValid),
          if_pos (by omega)] at returns
        rw [iteratorBack] at atBack
        apply goesOn (lists.moved _) _ _ returns
        · change gp.i - 1 ≤ list.first
          omega
        · change -2 ≤ gp.i - 1
          omega

/-- From the back it runs into the index of the front, and finds the first pin. -/
theorem XGpio.Lists.next_back {turns : ℕ} {r : ℤ} {gp' : XGpio} (atBack : gp.i = iteratorBack)
    (returns : iGpioNext turns gp = some (r, gp')) : r = list.first := by
  have low := lists.low
  have within := @XPinList.Valid.within list _ lists.last
  have invalid : ¬list.Valid (-1) := fun valid => by
    have inside := valid.within.1
    omega
  have steps : (if gp.i = iteratorFront then list.first else gp.i + 1) = -1 := by
    rw [atBack]
    rfl
  cases turns with
  | zero => cases returns
  | succ turns =>
      rw [lists.next_turn steps, if_neg fun isValid => invalid (lists.isValid_iff.mp isValid),
        if_pos (by omega)] at returns
      cases turns with
      | zero => cases returns
      | succ turns =>
          rw [(lists.moved (-1)).next_turn (if_pos rfl),
            if_pos ((lists.moved (-1)).isValid_iff.mpr lists.first)] at returns
          cases returns
          rfl

end Refused

/-- A call that is not admitted is not answered as an iterator answers it. -/
theorem XGpio.Stands.admits_of_answers {gp : XGpio} {list : XPinList} {cursor : GpioCursor}
    (stands : gp.Stands list cursor) {call : GpioCall} {r : ℤ} {gp' : XGpio}
    {cursor' : GpioCursor} (returns : call.Returns gp r gp')
    (answers : cursor.Answers list.Valid call r cursor') : cursor.Admits list.Valid call := by
  have lists := stands.lists
  have low := lists.low
  cases call with
  | toFront => trivial
  | toBack => trivial
  | next =>
      rcases answers with ⟨valid, after, -⟩ | ⟨nothing, isError⟩
      · exact ⟨r, valid, after⟩
      · exfalso
        rcases returns with ⟨turns, returns⟩
        cases cursor with
        | front => exact nothing _ lists.first trivial
        | on p =>
            have within := (stands.onValid p rfl).within
            have isLast : list.last ≤ gp.i := by
              rw [stands.isIndex]
              exact Int.not_lt.mp (nothing _ lists.last)
            rw [lists.next_beyond isLast] at returns
            cases returns
        | back =>
            have isFirst := lists.next_back stands.isIndex returns
            omega
  | previous =>
      rcases answers with ⟨valid, before, -⟩ | ⟨nothing, isError⟩
      · exact ⟨r, valid, before⟩
      · exfalso
        rcases returns with ⟨turns, returns⟩
        have within := @XPinList.Valid.within list _ lists.last
        cases cursor with
        | front =>
            have isIndex : gp.i = -1 := stands.isIndex
            have isLast := lists.previous_below (by omega) (by rw [iteratorBack]; omega) returns
            omega
        | on p =>
            have isPin := (stands.onValid p rfl).within
            have isIndex : gp.i = p := stands.isIndex
            have isFirst : p ≤ list.first := Int.not_lt.mp (nothing _ lists.first)
            have isLast := lists.previous_below (by omega) (by rw [iteratorBack]; omega) returns
            omega
        | back => exact nothing _ lists.last trivial
  | hasNext =>
      rintro rfl
      rcases returns with ⟨rfl, -⟩
      have isIndex : gp.i = -2 := stands.isIndex
      have within := @XPinList.Valid.within list _ lists.last
      have has : bGpioHasNext gp = true := lists.hasNext_iff.mpr (by omega)
      rw [has] at answers
      rcases answers with ⟨-, ⟨-, p, -, after⟩ | ⟨isFalse, -⟩⟩
      · exact after
      · cases isFalse
  | hasPrevious =>
      rintro rfl
      rcases returns with ⟨rfl, -⟩
      have isIndex : gp.i = -1 := stands.isIndex
      have within := @XPinList.Valid.within list _ lists.first
      have has : bGpioHasPrevious gp = true := lists.hasPrevious_iff.mpr (by omega)
      rw [has] at answers
      rcases answers with ⟨-, ⟨-, p, -, before⟩ | ⟨isFalse, -⟩⟩
      · exact before
      · cases isFalse

/-- Every call that is admitted returns and is answered, as long as the calls are admitted, and no
other call is; and the loops over all pins find each of them once, in order. -/
theorem iterates_of_admitted {gp : XGpio} {list : XPinList} (lists : gp.Lists list) :
    (∀ cursor calls, gp.Stands list cursor → Iterates list.Valid gp cursor calls) ∧
      (∃ turns ps, ps.Pairwise (· < ·) ∧ (∀ p, p ∈ ps ↔ list.Valid p) ∧
        ∀ more, gpioForward (turns + more) (iGpioToFront gp).2 = some ps) ∧
      (∃ turns ps, ps.Pairwise (· > ·) ∧ (∀ p, p ∈ ps ↔ list.Valid p) ∧
        ∀ more, gpioBackward (turns + more) (iGpioToBack gp).2 = some ps) ∧
      ∀ cursor call, gp.Stands list cursor →
        ((∃ r gp' cursor', call.Returns gp r gp' ∧ cursor.Answers list.Valid call r cursor') ↔
          cursor.Admits list.Valid call) := by
  refine ⟨fun cursor calls stands => stands.iterates calls, ?_, ?_, fun cursor call stands => ?_⟩
  · have stands : (iGpioToFront gp).2.Stands list .front :=
      ⟨lists.moved _, rfl, fun p same => by cases same⟩
    rcases stands.forward nofun with ⟨turns, ps, ascends, isIn, runs⟩
    exact ⟨turns, ps, ascends, fun p => (isIn p).trans (and_iff_left trivial), runs⟩
  · have stands : (iGpioToBack gp).2.Stands list .back :=
      ⟨lists.moved _, rfl, fun p same => by cases same⟩
    rcases stands.backward nofun with ⟨turns, ps, descends, isIn, runs⟩
    exact ⟨turns, ps, descends, fun p => (isIn p).trans (and_iff_left trivial), runs⟩
  · constructor
    · rintro ⟨r, gp', cursor', returns, answers⟩
      exact stands.admits_of_answers returns answers
    · intro admits
      rcases stands.answers admits with ⟨r, gp', cursor', returns, answers, -⟩
      exact ⟨r, gp', cursor', returns, answers⟩

theorem lists_rpiRev1 : (XBoard.rpiRev1.numbered .eNumberingLogical).Lists
    (XBoard.rpiRev1.pinList .eNumberingLogical) :=
  ⟨rfl, nofun, by decide, by decide, by decide⟩

theorem iterates_rpiRev1 :
    Iterates (XBoard.rpiRev1.pinList .eNumberingLogical).Valid
      (XBoard.rpiRev1.numbered .eNumberingLogical) .front [.hasNext, .next, .next, .previous] :=
  (iterates_of_admitted lists_rpiRev1).1 _ _ ⟨lists_rpiRev1, rfl, fun p same => by cases same⟩

/-- At the back there seems to be a next pin, and it is the first one. Behind the last pin no
call returns. -/
theorem not_iterates_back :
    bGpioHasNext (iGpioToBack (XBoard.rpiRev1.numbered .eNumberingLogical)).2 = true ∧
      (iGpioNext 2 (iGpioToBack (XBoard.rpiRev1.numbered .eNumberingLogical)).2).map Prod.fst =
        some 0 ∧
      (∀ turns, iGpioNext turns { XBoard.rpiRev1.numbered .eNumberingLogical with i := 16 } =
        none) ∧
      ¬∃ r gp' cursor', GpioCall.next.Returns
          (iGpioToBack (XBoard.rpiRev1.numbered .eNumberingLogical)).2 r gp' ∧
        GpioCursor.back.Answers (XBoard.rpiRev1.pinList .eNumberingLogical).Valid .next r
          cursor' := by
  refine ⟨by decide, by decide, fun turns => ?_, ?_⟩
  · exact (lists_rpiRev1.moved 16).next_beyond (le_refl _)
  · rintro ⟨r, gp', cursor', returns, answers⟩
    have stands : (iGpioToBack (XBoard.rpiRev1.numbered .eNumberingLogical)).2.Stands
        (XBoard.rpiRev1.pinList .eNumberingLogical) .back :=
      ⟨lists_rpiRev1.moved _, rfl, fun p same => by cases same⟩
    rcases stands.admits_of_answers returns answers with ⟨p, -, after⟩
    exact after

end Sysio.Gpio
