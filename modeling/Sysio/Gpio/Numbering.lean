import Mathlib.Data.List.GetD
import Mathlib.Algebra.Order.Ring.Int
import Mathlib.Algebra.BigOperators.Group.List.Basic
import Mathlib.Data.Int.Cast.Lemmas

/-!
# Pin numbers of `gpio/gpio.c`

A board has a list of its pins for each numbering: what stands in it at a pin number is the number
of the pin for the microcontroller, or it is negative. In the physical numbering the pins of the
first connector are numbered from 1, those of the connector `k` from `100 * k + 1`, and the list
has the pins of the connectors one after the other.
-/

namespace Sysio.Gpio

/-- How the pins are numbered. -/
inductive EGpioNumbering where
  | eNumberingLogical
  | eNumberingMcu
  | eNumberingPhysical
deriving DecidableEq, Repr

/-- The pins of the microcontroller by their numbers, or -1. -/
structure XPinList where
  pin : List ℤ
  size : ℤ
  first : ℤ
  last : ℤ

/-- The first `nb` of these are the sizes of the connectors. -/
structure XConnectorList where
  size : List ℤ
  nb : ℕ

/-- `connSize` is what `pxArchGpioGetConnSize` returns for the board. -/
structure XGpio where
  list : Option XPinList
  i : ℤ
  numbering : EGpioNumbering
  connSize : XConnectorList

/-- The end of `iGpioMcuPin`. -/
def XPinList.entry (list : XPinList) (n : ℤ) : ℤ :=
  if list.first ≤ n ∧ n ≤ list.last then list.pin.getD n.toNat 0 else -1

/-- The pin of the microcontroller with this number, or -1. -/
def iGpioMcuPin (n : ℤ) (gp : XGpio) : ℤ :=
  match gp.list with
  | some list =>
      if gp.numbering = .eNumberingPhysical then
        if 100 < n then
          let cl := gp.connSize
          if cl.nb < n / 100 + 1 then -1
          else list.entry ((cl.size.take cl.nb).foldl (· + ·) (n % 100) - 1)
        else list.entry (n - 1)
      else list.entry n
  | none => -1

/-- There is a pin with this number. -/
def bGpioIsValid (p : ℤ) (gp : XGpio) : Bool := decide (0 ≤ iGpioMcuPin p gp)

/-! ### The boards -/

/-- The boards. -/
inductive XBoard where
  | nanoPiNeo
  | nanoPiM1
  | nanoPiM1p
  | rpiRev1
  | rpiRev2
  | rpiRev3
deriving DecidableEq, Repr

/-- The logical numbering of the NanoPi Neo. -/
def iLogToMcuNeo : List ℤ :=
  [0, 6, 2, 3, 88, 89, 1, 91, 12, 11, 25, 17, 22, 23, 24, 86, 87, 4, 5, 10, 105, 20, 21, 19, 18,
    104]

/-- The logical numbering of the NanoPi M1. -/
def iLogToMcuM1 : List ℤ :=
  [0, 6, 2, 3, 88, 89, 1, 91, 12, 11, 25, 17, 22, 23, 24, 86, 87, 20, 21, 8, 16, 9, 7, 13, 15, 14,
    19, 18]

/-- That of the NanoPi M1 Plus. -/
def iLogToMcuM1p : List ℤ := iLogToMcuM1

/-- The physical numbering of the NanoPi Neo. -/
def iPhyToMcuNeo : List ℤ :=
  [-3, -5, 12, -5, 11, -1, 91, 86, -1, 87, 0, 6, 2, -1, 3, 88, -3, 89, 22, -1, 23, 1, 24, 25, -1,
    -5, 4, 5, 10, 104, -5, -10, -11, -12, -13, 105, 17, 18, 19, 20, 21]

/-- The physical numbering of the NanoPi M1. -/
def iPhyToMcuM1 : List ℤ :=
  [-1, -1, 12, -1, 11, -1, 91, 86, -1, 87, 0, 6, 2, -1, 3, 88, -1, 89, 22, -1, 23, 1, 24, 25, -1,
    17, 19, 18, 20, -1, 21, 7, 8, -1, 16, 13, 9, 15, -1, 14]

/-- That of the NanoPi M1 Plus. -/
def iPhyToMcuM1p : List ℤ := iPhyToMcuM1

/-- The pins of the microcontroller on the NanoPi Neo. -/
def iMcuPinsNeo : List ℤ :=
  [0, 1, 2, 3, 4, 5, 6, -1, -1, -1, 10, 11, 12, -1, -1, -1, -1, 17, 18, 19, 20, 21, 22, 23, 24,
    25] ++ List.replicate 60 (-1) ++ [86, 87, 88, 89, -1, 91] ++ List.replicate 12 (-1) ++
    [104, 105]

/-- The pins of the microcontroller on the NanoPi M1. -/
def iMcuPinsM1 : List ℤ :=
  [0, 1, 2, 3, -1, -1, 6, 7, 8, 9, -1, 11, 12, 13, 14, 15, 16, 17, 18, 19, 20, 21, 22, 23, 24,
    25] ++ List.replicate 60 (-1) ++ [86, 87, 88, 89, -1, 91, -1, -1]

/-- Those of the NanoPi M1 Plus. -/
def iMcuPinsM1p : List ℤ := iMcuPinsM1

/-- The logical numbering of the first Raspberry Pi. -/
def iLogicalPinsRev1 : List ℤ :=
  [17, 18, 21, 22, 23, 24, 25, 4, 0, 1, 8, 7, 10, 9, 11, 14, 15]

/-- The logical numbering of the second revision. -/
def iLogicalPinsRev2 : List ℤ :=
  [17, 18, 27, 22, 23, 24, 25, 4, 2, 3, 8, 7, 10, 9, 11, 14, 15, 28, 29, 30, 31]

/-- The logical numbering of the boards with 40 pins. -/
def iLogicalPinsRev3 : List ℤ :=
  [17, 18, 27, 22, 23, 24, 25, 4, 2, 3, 8, 7, 10, 9, 11, 14, 15, -1, -1, -1, -1, 5, 6, 13, 19, 26,
    12, 16, 20, 21, 0, 1]

/-- The physical numbering of the first Raspberry Pi. -/
def iPhysicalPinsRev1 : List ℤ :=
  [-1, -1, 0, -1, 1, -1, 4, 14, -1, 15, 17, 18, 21, -1, 22, 23, -1, 24, 10, -1, 9, 25, 11, 8, -1,
    7]

/-- The physical numbering of the second revision. -/
def iPhysicalPinsRev2 : List ℤ :=
  [-1, -1, 2, -1, 3, -1, 4, 14, -1, 15, 17, 18, 27, -1, 22, 23, -1, 24, 10, -1, 9, 25, 11, 8, -1,
    7, -1, -1, 28, 29, 30, 31, -1, -1]

/-- The physical numbering of the boards with 40 pins. -/
def iPhysicalPinsRev3 : List ℤ :=
  [-1, -1, 2, -1, 3, -1, 4, 14, -1, 15, 17, 18, 27, -1, 22, 23, -1, 24, 10, -1, 9, 25, 11, 8, -1,
    7, 0, 1, 5, -1, 6, 12, 13, -1, 19, 16, 26, 20, -1, 21]

/-- The pins of the microcontroller on the first Raspberry Pi. -/
def iMcuPinsRev1 : List ℤ :=
  [0, 1, -1, -1, 4, -1, -1, 7, 8, 9, 10, 11, -1, -1, 14, 15, -1, 17, 18, -1, -1, 21, 22, 23, 24,
    25, -1, -1, -1, -1, -1, -1]

/-- The pins of the microcontroller on the second revision. -/
def iMcuPinsRev2 : List ℤ :=
  [-1, -1, 2, 3, 4, -1, -1, 7, 8, 9, 10, 11, -1, -1, 14, 15, -1, 17, 18, -1, -1, -1, 22, 23, 24,
    25, -1, 27, 28, 29, 30, 31]

/-- The pins of the microcontroller on the boards with 40 pins. -/
def iMcuPinsRev3 : List ℤ :=
  [0, 1, 2, 3, 4, 5, 6, 7, 8, 9, 10, 11, 12, 13, 14, 15, 16, 17, 18, 19, 20, 21, 22, 23, 24, 25,
    26, 27, -1, -1, -1, -1]

/-- The list that `iGpioSetNumbering` chooses. -/
def XBoard.pinList : XBoard → EGpioNumbering → XPinList
  | .nanoPiNeo, .eNumberingLogical => ⟨iLogToMcuNeo, 26, 0, 25⟩
  | .nanoPiM1, .eNumberingLogical => ⟨iLogToMcuM1, 28, 0, 27⟩
  | .nanoPiM1p, .eNumberingLogical => ⟨iLogToMcuM1p, 28, 0, 27⟩
  | .nanoPiNeo, .eNumberingMcu => ⟨iMcuPinsNeo, 106, 0, 105⟩
  | .nanoPiM1, .eNumberingMcu => ⟨iMcuPinsM1, 94, 0, 91⟩
  | .nanoPiM1p, .eNumberingMcu => ⟨iMcuPinsM1p, 94, 0, 91⟩
  | .nanoPiNeo, .eNumberingPhysical => ⟨iPhyToMcuNeo, 42, 2, 40⟩
  | .nanoPiM1, .eNumberingPhysical => ⟨iPhyToMcuM1, 40, 2, 39⟩
  | .nanoPiM1p, .eNumberingPhysical => ⟨iPhyToMcuM1p, 40, 2, 39⟩
  | .rpiRev1, .eNumberingLogical => ⟨iLogicalPinsRev1, 17, 0, 16⟩
  | .rpiRev2, .eNumberingLogical => ⟨iLogicalPinsRev2, 21, 0, 20⟩
  | .rpiRev3, .eNumberingLogical => ⟨iLogicalPinsRev3, 32, 0, 31⟩
  | .rpiRev1, .eNumberingMcu => ⟨iMcuPinsRev1, 32, 0, 25⟩
  | .rpiRev2, .eNumberingMcu => ⟨iMcuPinsRev2, 32, 2, 31⟩
  | .rpiRev3, .eNumberingMcu => ⟨iMcuPinsRev3, 32, 0, 27⟩
  | .rpiRev1, .eNumberingPhysical => ⟨iPhysicalPinsRev1, 26, 2, 25⟩
  | .rpiRev2, .eNumberingPhysical => ⟨iPhysicalPinsRev2, 34, 2, 31⟩
  | .rpiRev3, .eNumberingPhysical => ⟨iPhysicalPinsRev3, 40, 2, 39⟩

/-- The sizes of the connectors: `iPhyConnNeo` and the other arrays of this name. -/
def XBoard.iPhyConn : XBoard → List ℕ
  | .nanoPiNeo => [24, 4, 2, 12]
  | .nanoPiM1 => [40, 4, 3]
  | .nanoPiM1p => [40, 4, 3]
  | .rpiRev1 => [26]
  | .rpiRev2 => [26, 8]
  | .rpiRev3 => [40]

/-- The list of connectors of the board, which for the NanoPi Neo names another array. -/
def XBoard.pxPhyConn : XBoard → XConnectorList
  | .nanoPiNeo => ⟨iPhyToMcuNeo, 4⟩
  | .nanoPiM1 => ⟨[40, 4, 3], 3⟩
  | .nanoPiM1p => ⟨[40, 4, 3], 3⟩
  | .rpiRev1 => ⟨[26], 1⟩
  | .rpiRev2 => ⟨[26, 8], 2⟩
  | .rpiRev3 => ⟨[40], 1⟩

/-- The list of the board for another numbering. -/
def iGpioSetNumbering (board : XBoard) (eNum : EGpioNumbering) (gp : XGpio) : XGpio :=
  if eNum = gp.numbering then gp
  else { gp with list := some (board.pinList eNum), i := -1, numbering := eNum }

/-! ### The physical numbering -/

/-- The number `100 * k + j` stands for the pin `j` of the connector `k`, whose entry has this
index. -/
def Designates (sizes : List ℕ) (n i : ℤ) : Prop :=
  ∃ k j : ℕ, k < sizes.length ∧ 1 ≤ j ∧ j ≤ sizes.getD k 0 ∧ n = 100 * k + j ∧
    i = (sizes.take k).sum + j - 1

/-- What `mcuPin` answers is what the list says. -/
def PhysicallyNumbered (sizes : List ℕ) (list : XPinList) (mcuPin : ℤ → ℤ) : Prop :=
  (∀ n i, Designates sizes n i → mcuPin n = list.entry i) ∧
    (∀ n, (∀ i, ¬Designates sizes n i) → mcuPin n = -1) ∧
    ∀ n n' i, Designates sizes n i → Designates sizes n' i → n = n'

theorem sum_take_succ (sizes : List ℕ) {k : ℕ} (inside : k < sizes.length) :
    (sizes.take (k + 1)).sum = (sizes.take k).sum + sizes.getD k 0 := by
  rw [List.take_succ_eq_append_getElem inside, List.sum_append, List.sum_singleton,
    List.getD_eq_getElem _ _ inside]

theorem sum_take_mono (sizes : List ℕ) {k l : ℕ} (before : k ≤ l) :
    (sizes.take k).sum ≤ (sizes.take l).sum := by
  have split : sizes.take k ++ (sizes.drop k).take (l - k) = sizes.take l := by
    rw [← List.take_add, Nat.add_sub_cancel' before]
  rw [← split, List.sum_append]
  exact Nat.le_add_right _ _

/-- Every index before the end is in one of the connectors. -/
theorem exists_connector (sizes : List ℕ) {i : ℕ} (inside : i < sizes.sum) :
    ∃ k j : ℕ, k < sizes.length ∧ 1 ≤ j ∧ j ≤ sizes.getD k 0 ∧
      i + 1 = (sizes.take k).sum + j := by
  induction sizes generalizing i with
  | nil => exact absurd inside (Nat.not_lt_zero i)
  | cons size sizes inner =>
      rw [List.sum_cons] at inside
      by_cases here : i < size
      · exact ⟨0, i + 1, Nat.succ_pos _, Nat.succ_pos _, here, (Nat.zero_add _).symm⟩
      · rcases inner (i := i - size) (by omega) with ⟨k, j, isInside, positive, fits, same⟩
        refine ⟨k + 1, j, Nat.succ_lt_succ isInside, positive, fits, ?_⟩
        rw [List.take_succ_cons, List.sum_cons]
        omega

theorem designates_unique {sizes : List ℕ} {n n' i : ℤ} (designates : Designates sizes n i)
    (same : Designates sizes n' i) : n = n' := by
  rcases designates with ⟨k, j, inside, positive, fits, rfl, isIndex⟩
  rcases same with ⟨k', j', inside', positive', fits', rfl, isIndex'⟩
  have after := sum_take_succ sizes inside
  have after' := sum_take_succ sizes inside'
  rcases Nat.lt_trichotomy k k' with less | rfl | more
  · have mono : (sizes.take (k + 1)).sum ≤ (sizes.take k').sum := sum_take_mono sizes less
    omega
  · omega
  · have mono : (sizes.take (k' + 1)).sum ≤ (sizes.take k).sum := sum_take_mono sizes more
    omega

theorem entry_of_beyond {list : XPinList} {i : ℤ} (beyond : i < list.first ∨ list.last < i) :
    list.entry i = -1 := by
  rw [XPinList.entry, if_neg]
  omega

section Physical

variable {sizes : List ℕ} {list : XPinList} {gp : XGpio}

theorem foldl_add_casts (sizes : List ℕ) (n : ℤ) :
    (sizes.map Nat.cast).foldl (· + ·) n = n + sizes.sum := by
  induction sizes generalizing n with
  | nil => exact (add_zero n).symm
  | cons size sizes later =>
      rw [List.map_cons, List.foldl_cons, later, List.sum_cons, Nat.cast_add, add_assoc]

variable (isList : gp.list = some list) (physical : gp.numbering = .eNumberingPhysical)
  (isConn : gp.connSize = ⟨sizes.map Nat.cast, sizes.length⟩)

include isList physical

theorem mcuPin_first {n : ℤ} (first : n ≤ 100) : iGpioMcuPin n gp = list.entry (n - 1) := by
  rw [iGpioMcuPin, isList]
  simp only [if_pos physical, if_neg (Int.not_lt.mpr first)]

include isConn

theorem mcuPin_higher {n : ℤ} (higher : 100 < n) :
    iGpioMcuPin n gp =
      if (sizes.length : ℤ) < n / 100 + 1 then -1
      else list.entry (n % 100 + sizes.sum - 1) := by
  rw [iGpioMcuPin, isList]
  simp only [if_pos physical, if_pos higher, isConn]
  rw [List.take_of_length_le (le_of_eq (List.length_map _)), foldl_add_casts]

/-- Of the connectors behind the first one, no pin is found. -/
theorem physicallyNumbered_of_unlisted (small : ∀ size ∈ sizes, size < 100)
    (low : 0 ≤ list.first) (high : list.last < sizes.sum)
    (unlisted : ∀ i : ℤ, sizes.headD 0 ≤ i → list.entry i = -1)
    (lastUnlisted : 2 < sizes.length → list.entry (sizes.sum - 1) = -1) :
    PhysicallyNumbered sizes list fun n => iGpioMcuPin n gp := by
  have first_le : ∀ k, 0 < k → sizes.headD 0 ≤ (sizes.take k).sum := by
    intro k positive
    cases sizes with
    | nil => exact Nat.zero_le _
    | cons size sizes =>
        have mono := sum_take_mono (size :: sizes) positive
        rw [List.take_succ_cons, List.sum_cons] at mono
        exact le_trans (Nat.le_add_right _ _) mono
  refine ⟨?_, ?_, fun n n' i => designates_unique⟩
  · rintro n i ⟨k, j, inside, positive, fits, rfl, rfl⟩
    have isSize : sizes.getD k 0 ∈ sizes := by
      rw [List.getD_eq_getElem _ _ inside]
      exact List.getElem_mem inside
    have below := small _ isSize
    cases k with
    | zero =>
        have isFirst : ((100 * (0 : ℕ) + j : ℤ)) ≤ 100 := by omega
        change iGpioMcuPin _ gp = _
        rw [mcuPin_first isList physical isFirst, List.take_zero, List.sum_nil]
        rfl
    | succ k =>
        have higher : (100 : ℤ) < 100 * (k + 1 : ℕ) + j := by omega
        have connector : ¬(sizes.length : ℤ) < (100 * (k + 1 : ℕ) + j : ℤ) / 100 + 1 := by omega
        have secondary := first_le (k + 1) (Nat.succ_pos k)
        change iGpioMcuPin _ gp = _
        rw [mcuPin_higher isList physical isConn higher, if_neg connector,
          entry_of_beyond (.inr (by omega)), unlisted _ (by omega)]
  · intro n other
    change iGpioMcuPin n gp = -1
    by_cases higher : 100 < n
    · rw [mcuPin_higher isList physical isConn higher]
      by_cases beyond : (sizes.length : ℤ) < n / 100 + 1
      · rw [if_pos beyond]
      · rw [if_neg beyond]
        by_cases round : n % 100 = 0
        · rw [round, zero_add]
          exact lastUnlisted (by omega)
        · exact entry_of_beyond (.inr (by omega))
    · rw [mcuPin_first isList physical (Int.not_lt.mp higher)]
      by_cases negative : n ≤ 0
      · exact entry_of_beyond (.inl (by omega))
      · apply unlisted
        by_contra inside
        cases sizes with
        | nil => exact inside (by change ((0 : ℕ) : ℤ) ≤ n - 1; omega)
        | cons size sizes =>
            have isInside : n - 1 < size := Int.not_le.mp inside
            apply other (n - 1)
            refine ⟨0, n.toNat, Nat.succ_pos _, by omega, ?_, by omega, ?_⟩
            · change n.toNat ≤ size
              omega
            · rw [List.take_zero, List.sum_nil]
              omega

theorem unlisted_of_physicallyNumbered (small : ∀ size ∈ sizes, size < 100)
    (high : list.last < sizes.sum)
    (numbered : PhysicallyNumbered sizes list fun n => iGpioMcuPin n gp) :
    (∀ i : ℤ, sizes.headD 0 ≤ i → list.entry i = -1) ∧
      (2 < sizes.length → list.entry (sizes.sum - 1) = -1) := by
  rcases numbered with ⟨entries, others, -⟩
  constructor
  · intro i secondary
    by_cases beyond : sizes.sum ≤ i
    · exact entry_of_beyond (.inr (by omega))
    · rcases exists_connector sizes (i := i.toNat) (by omega) with
        ⟨k, j, inside, positive, fits, same⟩
      have isIndex : i = (sizes.take k).sum + j - 1 := by omega
      have found := entries (100 * k + j) i ⟨k, j, inside, positive, fits, rfl, isIndex⟩
      cases k with
      | zero =>
          cases sizes with
          | nil => exact absurd inside (Nat.not_lt_zero 0)
          | cons size sizes =>
              rw [List.take_zero, List.sum_nil] at isIndex
              change ((size : ℕ) : ℤ) ≤ i at secondary
              change j ≤ size at fits
              omega
      | succ k =>
          have isSize : sizes.getD (k + 1) 0 ∈ sizes := by
            rw [List.getD_eq_getElem _ _ inside]
            exact List.getElem_mem inside
          have below := small _ isSize
          have higher : (100 : ℤ) < 100 * (k + 1 : ℕ) + j := by omega
          have connector : ¬(sizes.length : ℤ) < (100 * (k + 1 : ℕ) + j : ℤ) / 100 + 1 := by omega
          change iGpioMcuPin _ gp = _ at found
          rw [mcuPin_higher isList physical isConn higher, if_neg connector,
            entry_of_beyond (.inr (by omega))] at found
          exact found.symm
  · intro several
    -- no pin has the number 200
    have absent : ∀ i, ¬Designates sizes 200 i := by
      rintro i ⟨k, j, inside, positive, fits, same, -⟩
      have isSize : sizes.getD k 0 ∈ sizes := by
        rw [List.getD_eq_getElem _ _ inside]
        exact List.getElem_mem inside
      have below := small _ isSize
      omega
    have found := others 200 absent
    change iGpioMcuPin 200 gp = -1 at found
    have connector : ¬(sizes.length : ℤ) < 200 / 100 + 1 := by omega
    have round : (200 : ℤ) % 100 = 0 := by decide
    rw [mcuPin_higher isList physical isConn (by decide), if_neg connector, round,
      zero_add] at found
    exact found

end Physical

/-- Of the connectors behind the first one no pin is found, so none may be listed; and the board
has to name the sizes of its connectors. -/
theorem physicallyNumbered_iff (sizes : List ℕ) (list : XPinList) (gp : XGpio)
    (isList : gp.list = some list) (physical : gp.numbering = .eNumberingPhysical)
    (isConn : gp.connSize = ⟨sizes.map Nat.cast, sizes.length⟩)
    (small : ∀ size ∈ sizes, size < 100) (low : 0 ≤ list.first) (high : list.last < sizes.sum) :
    (PhysicallyNumbered sizes list (fun n => iGpioMcuPin n gp) ↔
      (∀ i : ℤ, sizes.headD 0 ≤ i → list.entry i = -1) ∧
        (2 < sizes.length → list.entry (sizes.sum - 1) = -1)) ∧
      ∀ board : XBoard, board.pxPhyConn.size.take board.pxPhyConn.nb =
        board.iPhyConn.map Nat.cast ↔ board ≠ .nanoPiNeo := by
  constructor
  · constructor
    · exact unlisted_of_physicallyNumbered isList physical isConn small high
    · rintro ⟨unlisted, lastUnlisted⟩
      exact physicallyNumbered_of_unlisted isList physical isConn small low high unlisted
        lastUnlisted
  · intro board
    cases board <;> decide

/-- The board, numbered like this. -/
def XBoard.numbered (board : XBoard) (eNum : EGpioNumbering) : XGpio :=
  ⟨some (board.pinList eNum), -1, eNum, board.pxPhyConn⟩

theorem physicallyNumbered_rpiRev1 :
    PhysicallyNumbered [26] (XBoard.rpiRev1.pinList .eNumberingPhysical)
      fun n => iGpioMcuPin n (XBoard.rpiRev1.numbered .eNumberingPhysical) := by
  have unlisted : ∀ i : ℤ, ((([26] : List ℕ).headD 0 : ℕ) : ℤ) ≤ i →
      (XBoard.rpiRev1.pinList .eNumberingPhysical).entry i = -1 := by
    intro i beyond
    exact entry_of_beyond (.inr (lt_of_lt_of_le (by decide) beyond))
  exact (physicallyNumbered_iff [26] _ (XBoard.rpiRev1.numbered .eNumberingPhysical) rfl rfl rfl
    (by decide) (by decide) (by decide)).1.mpr ⟨unlisted, fun several => absurd several (by decide)⟩

/-- The pin 3 of the second connector is not found under its number 103, but under 29. -/
theorem not_physicallyNumbered_rpiRev2 :
    Designates [26, 8] 103 28 ∧
      iGpioMcuPin 103 (XBoard.rpiRev2.numbered .eNumberingPhysical) = -1 ∧
      iGpioMcuPin 29 (XBoard.rpiRev2.numbered .eNumberingPhysical) = 28 ∧
      ¬PhysicallyNumbered [26, 8] (XBoard.rpiRev2.pinList .eNumberingPhysical)
        fun n => iGpioMcuPin n (XBoard.rpiRev2.numbered .eNumberingPhysical) := by
  have designates : Designates [26, 8] 103 28 :=
    ⟨1, 3, by decide, by decide, by decide, rfl, rfl⟩
  refine ⟨designates, by decide, by decide, ?_⟩
  rintro ⟨entries, -, -⟩
  exact absurd (entries 103 28 designates) (by decide)

/-- What holds of the list of every board in every numbering. -/
theorem pinList_wellFormed (board : XBoard) (eNum : EGpioNumbering) :
    0 ≤ (board.pinList eNum).first ∧ (board.pinList eNum).first ≤ (board.pinList eNum).last ∧
      (board.pinList eNum).last < (board.pinList eNum).size ∧
      (board.pinList eNum).last < (board.pinList eNum).pin.length ∧
      0 ≤ (board.pinList eNum).entry (board.pinList eNum).first ∧
      0 ≤ (board.pinList eNum).entry (board.pinList eNum).last ∧
      (board.pinList eNum).pin.Pairwise (fun g g' => 0 ≤ g → g ≠ g') := by
  cases board <;> cases eNum <;> decide +kernel

/-- No pin is listed twice. -/
theorem index_of_entry {list : XPinList} (low : 0 ≤ list.first)
    (high : list.last < list.pin.length)
    (distinct : list.pin.Pairwise fun g g' => 0 ≤ g → g ≠ g') {i j : ℤ}
    (valid : 0 ≤ list.entry i) (same : list.entry i = list.entry j) : i = j := by
  have within : ∀ {i : ℤ}, 0 ≤ list.entry i → ∃ n : ℕ, ∃ inside : n < list.pin.length,
      i = n ∧ list.entry i = list.pin[n] := by
    intro i isPin
    have listed : list.first ≤ i ∧ i ≤ list.last := by
      by_contra beyond
      rw [entry_of_beyond (by omega)] at isPin
      exact absurd isPin (by decide)
    have inside : i.toNat < list.pin.length := by omega
    refine ⟨i.toNat, inside, by omega, ?_⟩
    rw [XPinList.entry, if_pos listed, List.getD_eq_getElem _ _ inside]
  rcases within valid with ⟨n, inside, rfl, isEntry⟩
  rcases within (same ▸ valid) with ⟨m, inside', rfl, isEntry'⟩
  have apart := List.pairwise_iff_getElem.mp distinct
  rcases Nat.lt_trichotomy n m with less | rfl | more
  · refine absurd (isEntry.symm.trans (same.trans isEntry')) (apart n m inside inside' less ?_)
    exact isEntry ▸ valid
  · rfl
  · refine absurd (isEntry'.symm.trans (same.symm.trans isEntry)) (apart m n inside' inside more ?_)
    exact isEntry' ▸ same ▸ valid

end Sysio.Gpio
