import Sysio.ChipIo.Serial
import Sysio.Lib.Bits
import Sysio.Lib.Routine

/-!
# The attributes of the serial port of a ChipIo

`iChipIoSerialGetAttr` and `iChipIoSerialSetAttr` of `chipio/src/serial.c`, on the two registers of
16 bits in which the chip has them. Which accesses to these registers fail is given in advance, and
a failing one changes nothing; the results of the status reads at the end are given as a list, and
when they are used up the chip is still busy.

The baud rate is written before the other attributes are looked at, so that it stays changed where
one of them is refused then.
-/

namespace Sysio.ChipIo

open Routine

inductive SerialReg where
  | serCr
  | serBaud
deriving DecidableEq, Repr

/-- The registers of the chip and the number of accesses to them. -/
structure SerialChip where
  serBaud : BitVec 16
  serCr : BitVec 16
  accesses : ℕ
deriving DecidableEq, Repr

namespace SerialChip

def get (chip : SerialChip) : SerialReg → BitVec 16
  | .serCr => chip.serCr
  | .serBaud => chip.serBaud

def set (chip : SerialChip) (reg : SerialReg) (data : BitVec 16) : SerialChip :=
  match reg with
  | .serCr => { chip with serCr := data }
  | .serBaud => { chip with serBaud := data }

def accessed (chip : SerialChip) (count : ℕ) : SerialChip :=
  { chip with accesses := chip.accesses + count }

end SerialChip

structure XSerialIos where
  baud : ℤ
  dbits : ℤ
  parity : ℤ
  sbits : ℤ
  flow : ℤ
  flag : ℤ
deriving DecidableEq, Repr

/-- A field of the control register: its bits and what the codes in it stand for. -/
structure SerialField where
  mask : BitVec 16
  codes : List (BitVec 16 × ℤ)
  unknown : ℤ
  inside : ∀ code ∈ codes, code.1 &&& mask = code.1
  different : (codes.map Prod.fst).Nodup

namespace SerialField

/-- The `switch` of `iChipIoSerialGetAttr`. -/
def get (field : SerialField) (cr : BitVec 16) : ℤ :=
  (field.codes.lookup (cr &&& field.mask)).getD field.unknown

/-- The `switch` of `iChipIoSerialSetAttr`. -/
def put (field : SerialField) (value : ℤ) (cr : BitVec 16) : Option (BitVec 16) :=
  (field.codes.find? fun code => code.2 = value).map fun code => replaceBits cr field.mask code.1

end SerialField

/-- `eDataBitMask` and `SERIAL_DATABIT_5` to `SERIAL_DATABIT_8` -/
def dataBits : SerialField where
  mask := 0x0007
  codes := [(0x0000, 5), (0x0002, 6), (0x0004, 7), (0x0006, 8)]
  unknown := -1
  inside := by decide
  different := by decide

/-- `eStopBitMask`, `SERIAL_STOPBIT_ONE` and `SERIAL_STOPBIT_TWO` -/
def stopBits : SerialField where
  mask := 0x0008
  codes := [(0x0000, 1), (0x0008, 2)]
  unknown := 4
  inside := by decide
  different := by decide

/-- `eParityMask`; the constants are the letters N, E and O. -/
def parity : SerialField where
  mask := 0x0030
  codes := [(0x0000, 0x4E), (0x0020, 0x45), (0x0030, 0x4F)]
  unknown := -1
  inside := by decide
  different := by decide

/-- `eFlowMask`; the constants are a blank and the letters H and S. -/
def flow : SerialField where
  mask := 0x0600
  codes := [(0x0000, 0x20), (0x0200, 0x48), (0x0400, 0x53)]
  unknown := -1
  inside := by decide
  different := by decide

section Access

variable (fails : ℕ → Bool)

def iChipIoReadReg16 (reg : SerialReg) : Routine SerialChip ℤ := fun chip =>
  (.ok (if fails chip.accesses then -1 else (chip.get reg).toNat), chip.accessed 1)

def iChipIoWriteReg16 (reg : SerialReg) (data : BitVec 16) : Routine SerialChip ℤ := fun chip =>
  if fails chip.accesses then (.ok (-1), chip.accessed 1)
  else (.ok 0, (chip.set reg data).accessed 1)

/-- The result, and the attributes in place of what the structure has before. -/
def iChipIoSerialGetAttr (ios : XSerialIos) : Routine SerialChip (ℤ × XSerialIos) := do
  let iRet ← iChipIoReadReg16 fails .serBaud
  if iRet < 0 then pure (iRet, ios)
  else
    let ios := { ios with baud := iRet * 100 }
    let iRet ← iChipIoReadReg16 fails .serCr
    if iRet < 0 then pure (iRet, ios)
    else
      let cr := BitVec.ofInt 16 iRet
      pure (0, { ios with
        dbits := dataBits.get cr
        sbits := stopBits.get cr
        parity := parity.get cr
        flow := flow.get cr
        flag := 0 })

/-- What is asked of a field: its value before and the one requested. -/
structure SerialRequest where
  field : SerialField
  old : ℤ
  new : ℤ

/-- The field of `iSerCr` is changed unless it has the value requested. -/
def putField (cr : BitVec 16) (request : SerialRequest) : Routine SerialChip (BitVec 16) :=
  if request.new ≠ request.old then
    match request.field.put request.new cr with
    | none => returns (-1)
    | some cr => pure cr
  else pure cr

/-- The fields in the order of `iChipIoSerialSetAttr`. -/
def serialRequests (old ios : XSerialIos) : List SerialRequest :=
  [⟨dataBits, old.dbits, ios.dbits⟩, ⟨stopBits, old.sbits, ios.sbits⟩,
    ⟨parity, old.parity, ios.parity⟩, ⟨flow, old.flow, ios.flow⟩]

/-- The loop that waits for the end of the configuration. -/
def waitReady : List ℤ → Routine SerialChip Unit
  | [] => stuck
  | status :: statuses => if iChipIsBusy status then waitReady statuses else pure ()

/-- The baud rate; the result is `bIsChanged`. -/
def setBaud (old ios : XSerialIos) : Routine SerialChip Bool :=
  if old.baud ≠ ios.baud then do
    let iRet ← iChipIoWriteReg16 fails .serBaud (BitVec.ofInt 16 (ios.baud.tdiv 100))
    if iRet ≠ 0 then returns iRet else pure true
  else pure false

/-- The other attributes; the result is `iRet`. -/
def setCr (statuses : List ℤ) (old ios : XSerialIos) : Routine SerialChip ℤ := do
  let iSerCr ← iChipIoReadReg16 fails .serCr
  if iSerCr < 0 then returns iSerCr
  else
    let cr ← (serialRequests old ios).foldlM putField (BitVec.ofInt 16 iSerCr)
    let iRet ← iChipIoWriteReg16 fails .serCr cr
    waitReady statuses
    pure iRet

/-- What follows the baud rate. `memcmp` also compares the padding of the two structures. -/
def setOthers (samePadding : Bool) (statuses : List ℤ) (bIsChanged : Bool) (old ios : XSerialIos) :
    Routine SerialChip ℤ :=
  if ios ≠ old ∨ samePadding = false then setCr fails statuses old ios
  else do
    whenever bIsChanged (waitReady statuses)
    pure 0

def iChipIoSerialSetAttr (samePadding : Bool) (statuses : List ℤ) (old ios : XSerialIos) :
    Routine SerialChip ℤ := called do
  let got ← iChipIoSerialGetAttr fails old
  if got.1 = 0 then
    let bIsChanged ← setBaud fails got.2 ios
    let old := if bIsChanged then { got.2 with baud := ios.baud } else got.2
    setOthers fails samePadding statuses bIsChanged old ios
  else pure got.1

end Access

/-! ### The fields -/

theorem SerialField.get_congr (field : SerialField) {cr cr' : BitVec 16}
    (same : cr' &&& field.mask = cr &&& field.mask) : field.get cr' = field.get cr := by
  rw [SerialField.get, SerialField.get, same]

theorem lookup_of_mem {codes : List (BitVec 16 × ℤ)} (different : (codes.map Prod.fst).Nodup)
    {code : BitVec 16 × ℤ} (code_mem : code ∈ codes) : codes.lookup code.1 = some code.2 := by
  induction codes with
  | nil => cases code_mem
  | cons first codes ih =>
      rw [List.map_cons, List.nodup_cons] at different
      rcases first with ⟨bits, value⟩
      rcases List.mem_cons.mp code_mem with rfl | later
      · exact List.lookup_cons_self
      · have other : code.1 ≠ bits := fun same =>
          different.1 (List.mem_map.mpr ⟨code, later, same⟩)
        rw [List.lookup_cons, beq_false_of_ne other]
        exact ih different.2 later

/-- A value that has a code is put into the field, and nothing else is changed. -/
theorem SerialField.put_eq (field : SerialField) {value : ℤ} (cr : BitVec 16)
    (legal : value ∈ field.codes.map Prod.snd) :
    ∃ cr', field.put value cr = some cr' ∧ field.get cr' = value ∧
      ∀ mask, field.mask &&& mask = 0 → cr' &&& mask = cr &&& mask := by
  rcases List.mem_map.mp legal with ⟨code, code_mem, isValue⟩
  rcases found : field.codes.find? (fun code => code.2 = value) with _ | first
  · have absent := List.find?_eq_none.mp found code code_mem
    exact absurd isValue (by simpa using absent)
  · have first_mem := List.mem_of_find?_eq_some found
    have isFirst : first.2 = value := by simpa using List.find?_some found
    refine ⟨replaceBits cr field.mask first.1, ?_, ?_, fun mask disjoint => ?_⟩
    · rw [SerialField.put, found]
      rfl
    · rw [SerialField.get, replaceBits_and_mask (field.inside first first_mem),
        lookup_of_mem field.different first_mem, ← isFirst]
      rfl
    · exact replaceBits_and_of_disjoint (field.inside first first_mem) disjoint

theorem SerialField.put_eq_none (field : SerialField) {value : ℤ} (cr : BitVec 16)
    (illegal : value ∉ field.codes.map Prod.snd) : field.put value cr = none := by
  have absent : field.codes.find? (fun code => code.2 = value) = none := by
    rw [List.find?_eq_none]
    intro code code_mem isValue
    exact illegal (List.mem_map.mpr ⟨code, code_mem, by simpa using isValue⟩)
  rw [SerialField.put, absent]
  rfl

/-- The request is refused: the field is to be changed to a value that has no code. -/
def SerialRequest.Illegal (request : SerialRequest) : Prop :=
  request.new ≠ request.old ∧ request.new ∉ request.field.codes.map Prod.snd

instance (request : SerialRequest) : Decidable request.Illegal :=
  inferInstanceAs (Decidable (_ ∧ _))

theorem putField_of_illegal {request : SerialRequest} (illegal : request.Illegal)
    (cr : BitVec 16) (chip : SerialChip) :
    putField cr request chip = (.error (.returned (-1)), chip) := by
  rw [putField, if_pos illegal.1, request.field.put_eq_none cr illegal.2]
  rfl

theorem putField_of_legal {request : SerialRequest} (legal : ¬request.Illegal) {cr : BitVec 16}
    (current : request.old = request.field.get cr) (chip : SerialChip) :
    ∃ cr', putField cr request chip = (.ok cr', chip) ∧ request.field.get cr' = request.new ∧
      ∀ mask, request.field.mask &&& mask = 0 → cr' &&& mask = cr &&& mask := by
  by_cases same : request.new = request.old
  · refine ⟨cr, ?_, by rw [same, current], fun _ _ => rfl⟩
    rw [putField, if_neg (not_not.mpr same)]
    rfl
  · have isLegal : request.new ∈ request.field.codes.map Prod.snd := by
      by_contra illegal
      exact legal ⟨same, illegal⟩
    rcases request.field.put_eq cr isLegal with ⟨cr', put, got, others⟩
    refine ⟨cr', ?_, got, others⟩
    rw [putField, if_pos same, put]
    rfl

/-- No request is about a bit of another, and each knows what its field has. -/
structure SerialRequests (requests : List SerialRequest) (cr : BitVec 16) : Prop where
  disjoint : requests.Pairwise fun first second => first.field.mask &&& second.field.mask = 0
  current : ∀ request ∈ requests, request.old = request.field.get cr

theorem SerialRequests.tail {request : SerialRequest} {requests : List SerialRequest}
    {cr cr' : BitVec 16} (asked : SerialRequests (request :: requests) cr)
    (others : ∀ mask, request.field.mask &&& mask = 0 → cr' &&& mask = cr &&& mask) :
    SerialRequests requests cr' := by
  rcases List.pairwise_cons.mp asked.disjoint with ⟨apart, disjoint⟩
  refine ⟨disjoint, fun later later_mem => ?_⟩
  rw [asked.current later (List.mem_cons_of_mem _ later_mem)]
  exact (later.field.get_congr (others _ (apart later later_mem))).symm

theorem putFields_of_illegal {requests : List SerialRequest} {cr : BitVec 16}
    (asked : SerialRequests requests cr) (illegal : ∃ request ∈ requests, request.Illegal)
    (chip : SerialChip) : requests.foldlM putField cr chip = (.error (.returned (-1)), chip) := by
  induction requests generalizing cr with
  | nil =>
      rcases illegal with ⟨request, request_mem, -⟩
      cases request_mem
  | cons request requests ih =>
      rw [List.foldlM_cons]
      by_cases here : request.Illegal
      · exact bind_of_error (putField_of_illegal here cr chip) _
      · rcases putField_of_legal here (asked.current request List.mem_cons_self) chip with
          ⟨cr', put, -, others⟩
        rw [bind_of_ok put]
        refine ih (asked.tail others) ?_
        rcases illegal with ⟨refused, refused_mem, isIllegal⟩
        rcases List.mem_cons.mp refused_mem with rfl | later
        · exact absurd isIllegal here
        · exact ⟨refused, later, isIllegal⟩

theorem putFields_of_legal {requests : List SerialRequest} {cr : BitVec 16}
    (asked : SerialRequests requests cr) (legal : ∀ request ∈ requests, ¬request.Illegal)
    (chip : SerialChip) :
    ∃ cr', requests.foldlM putField cr chip = (.ok cr', chip) ∧
      (∀ request ∈ requests, request.field.get cr' = request.new) ∧
      ∀ mask, (∀ request ∈ requests, request.field.mask &&& mask = 0) →
        cr' &&& mask = cr &&& mask := by
  induction requests generalizing cr with
  | nil =>
      refine ⟨cr, rfl, fun request impossible => ?_, fun _ _ => rfl⟩
      cases impossible
  | cons request requests ih =>
      rcases putField_of_legal (legal request List.mem_cons_self)
        (asked.current request List.mem_cons_self) chip with ⟨middle, put, got, others⟩
      rcases ih (asked.tail others) fun later later_mem =>
        legal later (List.mem_cons_of_mem _ later_mem) with ⟨cr', puts, gots, kept⟩
      refine ⟨cr', ?_, ?_, fun mask apart => ?_⟩
      · rw [List.foldlM_cons, bind_of_ok put]
        exact puts
      · intro later later_mem
        rcases List.mem_cons.mp later_mem with rfl | later_mem
        · rw [← got]
          refine later.field.get_congr (kept _ fun other other_mem => ?_)
          rw [BitVec.and_comm]
          exact (List.pairwise_cons.mp asked.disjoint).1 other other_mem
        · exact gots later later_mem
      · rw [kept mask fun later later_mem => apart later (List.mem_cons_of_mem _ later_mem)]
        exact others mask (apart request List.mem_cons_self)

/-! ### Setting the attributes -/

/-- The attributes that the control register stands for, with this baud rate. -/
def SerialChip.attributesAt (chip : SerialChip) (baud : ℤ) : XSerialIos where
  baud := baud
  dbits := dataBits.get chip.serCr
  parity := parity.get chip.serCr
  sbits := stopBits.get chip.serCr
  flow := flow.get chip.serCr
  flag := 0

/-- The attributes that the registers stand for. -/
def SerialChip.attributes (chip : SerialChip) : XSerialIos :=
  chip.attributesAt (chip.serBaud.toNat * 100)

/-- The bits of the control register that stand for attributes. -/
def serialMask : BitVec 16 := dataBits.mask ||| stopBits.mask ||| parity.mask ||| flow.mask

/-- `iChipIoSerialGetAttr` gives back what was requested, and the other bits are unchanged. -/
structure Applied (ios : XSerialIos) (chip after : SerialChip) : Prop where
  reads : ∀ old, ∃ later,
    iChipIoSerialGetAttr (fun _ => false) old after = (.ok (0, { ios with flag := 0 }), later)
  others : after.serCr &&& ~~~serialMask = chip.serCr &&& ~~~serialMask

/-- The call returns 0 and the attributes are set, or it returns an error and nothing is. -/
def AllOrNothing (fails : ℕ → Bool) (samePadding : Bool) (statuses : List ℤ) (old ios : XSerialIos)
    (chip : SerialChip) : Prop :=
  ∃ ret after, iChipIoSerialSetAttr fails samePadding statuses old ios chip = (.ok ret, after) ∧
    ((ret = 0 ∧ Applied ios chip after) ∨
      (ret < 0 ∧ after.serBaud = chip.serBaud ∧ after.serCr = chip.serCr))

/-- The attributes behind the baud rate are changed, and an access from `position` on fails or a
value has no code. -/
def Refused (fails : ℕ → Bool) (samePadding : Bool) (ios : XSerialIos) (chip : SerialChip)
    (position : ℕ) : Prop :=
  (ios ≠ chip.attributesAt ios.baud ∨ samePadding = false) ∧
    (fails position = true ∨
      (∃ request ∈ serialRequests chip.attributes ios, request.Illegal) ∨
      fails (position + 1) = true)

instance (fails : ℕ → Bool) (samePadding : Bool) (ios : XSerialIos) (chip : SerialChip)
    (position : ℕ) : Decidable (Refused fails samePadding ios chip position) :=
  inferInstanceAs (Decidable (_ ∧ _))

section SetAttr

variable {fails : ℕ → Bool} {samePadding : Bool} {statuses : List ℤ} {old ios : XSerialIos}
  {chip : SerialChip}

theorem readReg16_of_ok {reg : SerialReg} (works : fails chip.accesses = false) :
    iChipIoReadReg16 fails reg chip = (.ok ((chip.get reg).toNat : ℤ), chip.accessed 1) := by
  simp [iChipIoReadReg16, works]

theorem readReg16_of_fails {reg : SerialReg} (failed : fails chip.accesses = true) :
    iChipIoReadReg16 fails reg chip = (.ok (-1), chip.accessed 1) := by
  simp [iChipIoReadReg16, failed]

theorem getAttr_of_ok (first : fails chip.accesses = false)
    (second : fails (chip.accesses + 1) = false) (old : XSerialIos) :
    iChipIoSerialGetAttr fails old chip = (.ok (0, chip.attributes), chip.accessed 2) := by
  have read : iChipIoReadReg16 fails .serCr (chip.accessed 1) =
      (.ok (chip.serCr.toNat : ℤ), chip.accessed 2) := readReg16_of_ok second
  rw [iChipIoSerialGetAttr, bind_of_ok (readReg16_of_ok first), if_neg (by omega),
    bind_of_ok read, if_neg (by omega), BitVec.ofInt_natCast, BitVec.ofNat_toNat,
    BitVec.setWidth_eq]
  rfl

theorem getAttr_of_fails (failed : fails chip.accesses = true ∨ fails (chip.accesses + 1) = true)
    (old : XSerialIos) :
    ∃ got count, iChipIoSerialGetAttr fails old chip = (.ok (-1, got), chip.accessed count) := by
  cases first : fails chip.accesses with
  | true =>
      refine ⟨old, 1, ?_⟩
      rw [iChipIoSerialGetAttr, bind_of_ok (readReg16_of_fails first)]
      rfl
  | false =>
      have second : fails (chip.accessed 1).accesses = true :=
        failed.resolve_left fun failed => by simp [first] at failed
      refine ⟨{ old with baud := chip.serBaud.toNat * 100 }, 2, ?_⟩
      rw [iChipIoSerialGetAttr, bind_of_ok (readReg16_of_ok first), if_neg (by omega),
        bind_of_ok (readReg16_of_fails second)]
      rfl

theorem waitReady_eq (ready : ∃ status ∈ statuses, iChipIsBusy status = false)
    (chip : SerialChip) : waitReady statuses chip = (.ok (), chip) := by
  induction statuses with
  | nil =>
      rcases ready with ⟨status, status_mem, -⟩
      cases status_mem
  | cons status statuses ih =>
      rw [waitReady]
      by_cases busy : iChipIsBusy status = true
      · rw [if_pos busy]
        refine ih ?_
        rcases ready with ⟨other, other_mem, idle⟩
        rcases List.mem_cons.mp other_mem with rfl | later
        · rw [busy] at idle
          cases idle
        · exact ⟨other, later, idle⟩
      · rw [if_neg busy]
        rfl

theorem serialRequests_attributes (chip : SerialChip) (ios : XSerialIos) :
    SerialRequests (serialRequests (chip.attributesAt ios.baud) ios) chip.serCr := by
  have apart : [dataBits, stopBits, parity, flow].Pairwise fun first second =>
      first.mask &&& second.mask = 0 := by decide
  refine ⟨?_, fun request request_mem => ?_⟩
  · have mapped : ((serialRequests (chip.attributesAt ios.baud) ios).map
        SerialRequest.field).Pairwise fun first second => first.mask &&& second.mask = 0 := apart
    exact List.pairwise_map.mp mapped
  · simp only [serialRequests, List.mem_cons, List.not_mem_nil, or_false] at request_mem
    rcases request_mem with rfl | rfl | rfl | rfl <;> rfl

/-- The fields of the control register have the values requested, and the rest is unchanged. -/
theorem exists_put (legal : ∀ request ∈ serialRequests chip.attributes ios, ¬request.Illegal)
    (running : SerialChip) :
    ∃ cr', (serialRequests (chip.attributesAt ios.baud) ios).foldlM putField
        chip.serCr running = (.ok cr', running) ∧
      (∀ baud accesses, (⟨baud, cr', accesses⟩ : SerialChip).attributes =
        { ios with baud := baud.toNat * 100, flag := 0 }) ∧
      cr' &&& ~~~serialMask = chip.serCr &&& ~~~serialMask := by
  rcases putFields_of_legal (serialRequests_attributes chip ios) legal running with
    ⟨cr', put, gets, others⟩
  refine ⟨cr', put, fun baud accesses => ?_, others _ ?_⟩
  · have dbits := gets ⟨dataBits, _, ios.dbits⟩ List.mem_cons_self
    have sbits := gets ⟨stopBits, _, ios.sbits⟩ (List.mem_cons_of_mem _ List.mem_cons_self)
    have isParity := gets ⟨parity, _, ios.parity⟩
      (List.mem_cons_of_mem _ (List.mem_cons_of_mem _ List.mem_cons_self))
    have isFlow := gets ⟨flow, _, ios.flow⟩ (List.mem_cons_of_mem _
      (List.mem_cons_of_mem _ (List.mem_cons_of_mem _ List.mem_cons_self)))
    simp only at dbits sbits isParity isFlow
    rw [SerialChip.attributes, SerialChip.attributesAt, dbits, sbits, isParity, isFlow]
  · have masks : ∀ field ∈ [dataBits, stopBits, parity, flow],
        field.mask &&& ~~~serialMask = 0 := by decide
    intro request request_mem
    exact masks request.field (List.mem_map_of_mem request_mem)

theorem setCr_of_read (works : fails chip.accesses = false) (old ios : XSerialIos) :
    called (setCr fails statuses old ios) chip =
      called ((serialRequests old ios).foldlM putField chip.serCr >>= fun cr => do
        let iRet ← iChipIoWriteReg16 fails .serCr cr
        waitReady statuses
        pure iRet) (chip.accessed 1) := by
  rw [setCr, called_bind_of_ok (readReg16_of_ok works), if_neg (by omega), BitVec.ofInt_natCast,
    BitVec.ofNat_toNat, BitVec.setWidth_eq]
  rfl

theorem setCr_refused (refused : fails chip.accesses = true ∨
      (∃ request ∈ serialRequests chip.attributes ios, request.Illegal) ∨
      fails (chip.accesses + 1) = true)
    (ready : ∃ status ∈ statuses, iChipIsBusy status = false) :
    ∃ after, called (setCr fails statuses (chip.attributesAt ios.baud) ios) chip =
        (.ok (-1), after) ∧ after.serBaud = chip.serBaud ∧ after.serCr = chip.serCr := by
  cases first : fails chip.accesses with
  | true =>
      refine ⟨chip.accessed 1, ?_, rfl, rfl⟩
      rw [setCr, called_bind_of_ok (readReg16_of_fails first)]
      rfl
  | false =>
      rw [first] at refused
      rw [setCr_of_read first]
      by_cases illegal : ∃ request ∈ serialRequests chip.attributes ios, request.Illegal
      · have put := putFields_of_illegal (serialRequests_attributes chip ios) illegal
          (chip.accessed 1)
        refine ⟨chip.accessed 1, ?_, rfl, rfl⟩
        exact called_bind_of_returned put
      · have second : fails (chip.accessed 1).accesses = true :=
          ((refused.resolve_left (by simp)).resolve_left illegal)
        rcases exists_put (by simpa using illegal) (chip.accessed 1) with ⟨cr', put, -, -⟩
        have written : iChipIoWriteReg16 fails .serCr cr' (chip.accessed 1) =
            (.ok (-1), chip.accessed 2) := if_pos second
        refine ⟨chip.accessed 2, ?_, rfl, rfl⟩
        rw [called_bind_of_ok put, called_bind_of_ok written,
          called_bind_of_ok (waitReady_eq ready _)]
        rfl

theorem setCr_done (works : ¬(fails chip.accesses = true ∨
      (∃ request ∈ serialRequests chip.attributes ios, request.Illegal) ∨
      fails (chip.accesses + 1) = true))
    (ready : ∃ status ∈ statuses, iChipIsBusy status = false) :
    ∃ after, called (setCr fails statuses (chip.attributesAt ios.baud) ios) chip =
        (.ok 0, after) ∧ after.attributes = { ios with baud := chip.attributes.baud, flag := 0 } ∧
      after.serCr &&& ~~~serialMask = chip.serCr &&& ~~~serialMask := by
  rcases not_or.mp works with ⟨first, works⟩
  rcases not_or.mp works with ⟨legal, second⟩
  rcases exists_put (by simpa using legal) (chip.accessed 1) with ⟨cr', put, attributes, others⟩
  have written : iChipIoWriteReg16 fails .serCr cr' (chip.accessed 1) =
      (.ok 0, ⟨chip.serBaud, cr', chip.accesses + 2⟩) := if_neg second
  refine ⟨⟨chip.serBaud, cr', chip.accesses + 2⟩, ?_, attributes _ _, others⟩
  rw [setCr_of_read (by simpa using first), called_bind_of_ok put, called_bind_of_ok written,
    called_bind_of_ok (waitReady_eq ready _)]
  rfl

/-- Where an attribute or an access to the control register is refused nothing is changed any
more. -/
theorem setOthers_refused {bIsChanged : Bool}
    (refused : Refused fails samePadding ios chip chip.accesses)
    (ready : ∃ status ∈ statuses, iChipIsBusy status = false) :
    ∃ after, called (setOthers fails samePadding statuses bIsChanged (chip.attributesAt ios.baud)
        ios) chip = (.ok (-1), after) ∧
      after.serBaud = chip.serBaud ∧ after.serCr = chip.serCr := by
  rw [setOthers, if_pos refused.1]
  exact setCr_refused refused.2 ready

theorem setOthers_done {bIsChanged : Bool}
    (works : ¬Refused fails samePadding ios chip chip.accesses)
    (ready : ∃ status ∈ statuses, iChipIsBusy status = false) :
    ∃ after, called (setOthers fails samePadding statuses bIsChanged (chip.attributesAt ios.baud)
        ios) chip = (.ok 0, after) ∧
      after.attributes = { ios with baud := chip.attributes.baud, flag := 0 } ∧
      after.serCr &&& ~~~serialMask = chip.serCr &&& ~~~serialMask := by
  rw [setOthers]
  by_cases differ : ios ≠ chip.attributesAt ios.baud ∨ samePadding = false
  · rw [if_pos differ]
    exact setCr_done (fun refused => works ⟨differ, refused⟩) ready
  · have same : ios = chip.attributesAt ios.baud :=
      not_not.mp fun differs => differ (.inl differs)
    have attributes : chip.attributes = { ios with baud := chip.attributes.baud, flag := 0 } := by
      rw [same]
      rfl
    refine ⟨chip, ?_, attributes, rfl⟩
    rw [if_neg differ]
    cases bIsChanged with
    | false => rfl
    | true =>
        have waited : whenever true (waitReady statuses) chip = (.ok (), chip) :=
          waitReady_eq ready chip
        exact called_bind_of_ok waited

theorem applied_iff {after : SerialChip}
    (attributes : after.attributes = { ios with baud := after.serBaud.toNat * 100, flag := 0 })
    (others : after.serCr &&& ~~~serialMask = chip.serCr &&& ~~~serialMask) :
    Applied ios chip after ↔ (after.serBaud.toNat : ℤ) * 100 = ios.baud := by
  constructor
  · rintro ⟨reads, -⟩
    rcases reads ios with ⟨later, read⟩
    rw [getAttr_of_ok rfl rfl] at read
    have same := congrArg (fun read => read.1.map fun got => got.2.baud) read
    exact Except.ok.inj same
  · intro isBaud
    refine ⟨fun old => ⟨after.accessed 2, ?_⟩, others⟩
    rw [getAttr_of_ok rfl rfl, attributes, isBaud]

theorem allOrNothing_iff_of_ran {ret : ℤ} {after : SerialChip}
    (ran : iChipIoSerialSetAttr fails samePadding statuses old ios chip = (.ok ret, after)) :
    AllOrNothing fails samePadding statuses old ios chip ↔
      (ret = 0 ∧ Applied ios chip after) ∨
        (ret < 0 ∧ after.serBaud = chip.serBaud ∧ after.serCr = chip.serCr) := by
  constructor
  · rintro ⟨ret', after', ran', outcome⟩
    rw [ran] at ran'
    cases ran'
    exact outcome
  · exact fun outcome => ⟨ret, after, ran, outcome⟩

/-- A hundredth of the baud rate is stored in 16 bits. -/
theorem stored_baud_iff {baud : ℤ} (bound : baud ≤ 6553500) :
    ((BitVec.ofInt 16 (baud.tdiv 100)).toNat : ℤ) * 100 = baud ↔ 0 ≤ baud ∧ 100 ∣ baud := by
  rw [BitVec.toNat_ofInt]
  constructor
  · intro stored
    omega
  · rintro ⟨nonneg, multiple⟩
    rw [Int.tdiv_eq_ediv_of_nonneg nonneg]
    omega

theorem setAttr_of_got (first : fails chip.accesses = false)
    (second : fails (chip.accesses + 1) = false) :
    iChipIoSerialSetAttr fails samePadding statuses old ios chip =
      called (setBaud fails chip.attributes ios >>= fun bIsChanged =>
        setOthers fails samePadding statuses bIsChanged
          (if bIsChanged then { chip.attributes with baud := ios.baud } else chip.attributes) ios)
        (chip.accessed 2) := by
  rw [iChipIoSerialSetAttr, called_bind_of_ok (getAttr_of_ok first second old)]
  rfl

/-- The baud rate of the register is requested, and is not written. -/
theorem allOrNothing_of_same (first : fails chip.accesses = false)
    (second : fails (chip.accesses + 1) = false) (same : ios.baud = chip.attributes.baud)
    (ready : ∃ status ∈ statuses, iChipIsBusy status = false) :
    AllOrNothing fails samePadding statuses old ios chip := by
  have unchanged : setBaud fails chip.attributes ios (chip.accessed 2) =
      (.ok false, chip.accessed 2) := by
    rw [setBaud, if_neg (not_not.mpr same.symm)]
    rfl
  have isOld : chip.attributes = (chip.accessed 2).attributesAt ios.baud := by
    rw [same]
    rfl
  have ran := (@setAttr_of_got fails samePadding statuses old ios _ first second).trans
    (called_bind_of_ok unchanged)
  rw [if_neg (by decide), isOld] at ran
  by_cases refused : Refused fails samePadding ios (chip.accessed 2) (chip.accessed 2).accesses
  · rcases setOthers_refused refused ready with ⟨after, others, isBaud, isCr⟩
    exact (allOrNothing_iff_of_ran (ran.trans others)).mpr (.inr ⟨by decide, isBaud, isCr⟩)
  · rcases setOthers_done refused ready with ⟨after, set, attributes, others⟩
    have isBaud : (after.serBaud.toNat : ℤ) * 100 = ios.baud :=
      (congrArg XSerialIos.baud attributes).trans same.symm
    refine (allOrNothing_iff_of_ran (ran.trans set)).mpr (.inl ⟨rfl, ?_⟩)
    have others : after.serCr &&& ~~~serialMask = chip.serCr &&& ~~~serialMask := others
    refine (applied_iff ?_ others).mpr isBaud
    rw [attributes, isBaud, same]
    rfl

/-- Another baud rate is requested, and is written. -/
theorem allOrNothing_iff_of_written (works : ∀ k < 3, fails (chip.accesses + k) = false)
    (other : ios.baud ≠ chip.attributes.baud) (bound : ios.baud ≤ 6553500)
    (ready : ∃ status ∈ statuses, iChipIsBusy status = false) :
    AllOrNothing fails samePadding statuses old ios chip ↔
      (Refused fails samePadding ios chip (chip.accesses + 3) →
        BitVec.ofInt 16 (ios.baud.tdiv 100) = chip.serBaud) ∧
      (¬Refused fails samePadding ios chip (chip.accesses + 3) →
        0 ≤ ios.baud ∧ 100 ∣ ios.baud) := by
  let written : SerialChip :=
    ⟨BitVec.ofInt 16 (ios.baud.tdiv 100), chip.serCr, chip.accesses + 3⟩
  have changed : setBaud fails chip.attributes ios (chip.accessed 2) = (.ok true, written) := by
    have wrote : iChipIoWriteReg16 fails .serBaud (BitVec.ofInt 16 (ios.baud.tdiv 100))
        (chip.accessed 2) = (.ok 0, written) := by
      have third : fails (chip.accessed 2).accesses = false := works 2 (by decide)
      rw [iChipIoWriteReg16, third]
      rfl
    rw [setBaud, if_pos (Ne.symm other), bind_of_ok wrote]
    rfl
  have ran := (@setAttr_of_got fails samePadding statuses old ios _ (works 0 (by decide))
    (works 1 (by decide))).trans (called_bind_of_ok changed)
  by_cases refused : Refused fails samePadding ios written written.accesses
  · rcases setOthers_refused refused ready with ⟨after, others, isBaud, isCr⟩
    rw [allOrNothing_iff_of_ran (ran.trans others), isBaud, isCr]
    constructor
    · rintro (⟨impossible, -⟩ | ⟨-, unchanged, -⟩)
      · cases impossible
      · exact ⟨fun _ => unchanged, fun isDone => absurd refused isDone⟩
    · rintro ⟨unchanged, -⟩
      exact .inr ⟨by decide, unchanged refused, rfl⟩
  · rcases setOthers_done refused ready with ⟨after, set, attributes, others⟩
    have isBaud : (after.serBaud.toNat : ℤ) * 100 =
        ((BitVec.ofInt 16 (ios.baud.tdiv 100)).toNat : ℤ) * 100 :=
      congrArg XSerialIos.baud attributes
    have others : after.serCr &&& ~~~serialMask = chip.serCr &&& ~~~serialMask := others
    have isApplied : Applied ios chip after ↔ 0 ≤ ios.baud ∧ 100 ∣ ios.baud := by
      rw [applied_iff _ others, isBaud, stored_baud_iff bound]
      rw [attributes, isBaud]
      rfl
    rw [allOrNothing_iff_of_ran (ran.trans set), isApplied]
    constructor
    · rintro (⟨-, exact_⟩ | ⟨impossible, -⟩)
      · exact ⟨fun isRefused => absurd isRefused refused, fun _ => exact_⟩
      · exact absurd impossible (by decide)
    · rintro ⟨-, exact_⟩
      exact .inl ⟨rfl, exact_ refused⟩

/-- Once another baud rate is written, a refusal of the rest leaves it behind, unless the register
has its hundredth already; and one that is no multiple of a hundred is not read back. -/
theorem allOrNothing_iff (bound : ios.baud ≤ 6553500)
    (ready : ∃ status ∈ statuses, iChipIsBusy status = false) :
    AllOrNothing fails samePadding statuses old ios chip ↔
      (ios.baud ≠ chip.attributes.baud → (∀ k < 3, fails (chip.accesses + k) = false) →
        (Refused fails samePadding ios chip (chip.accesses + 3) →
          BitVec.ofInt 16 (ios.baud.tdiv 100) = chip.serBaud) ∧
        (¬Refused fails samePadding ios chip (chip.accesses + 3) →
          0 ≤ ios.baud ∧ 100 ∣ ios.baud)) := by
  by_cases read : fails chip.accesses = true ∨ fails (chip.accesses + 1) = true
  · refine iff_of_true ?_ fun _ works => ?_
    · rcases getAttr_of_fails read old with ⟨got, count, failed⟩
      have ran : iChipIoSerialSetAttr fails samePadding statuses old ios chip =
          (.ok (-1), chip.accessed count) := by
        rw [iChipIoSerialSetAttr, called_bind_of_ok failed]
        rfl
      exact (allOrNothing_iff_of_ran ran).mpr (.inr ⟨by decide, rfl, rfl⟩)
    · rcases read with failed | failed
      · exact absurd (works 0 (by decide)) (by simp [failed])
      · exact absurd (works 1 (by decide)) (by simp [failed])
  rcases not_or.mp read with ⟨first, second⟩
  rw [Bool.not_eq_true] at first second
  by_cases same : ios.baud = chip.attributes.baud
  · exact iff_of_true (allOrNothing_of_same first second same ready) fun other => absurd same other
  cases third : fails (chip.accesses + 2) with
  | true =>
      refine iff_of_true ?_ fun _ works => ?_
      · have failed : setBaud fails chip.attributes ios (chip.accessed 2) =
            (.error (.returned (-1)), chip.accessed 3) := by
          have wrote : iChipIoWriteReg16 fails .serBaud (BitVec.ofInt 16 (ios.baud.tdiv 100))
              (chip.accessed 2) = (.ok (-1), chip.accessed 3) := if_pos third
          rw [setBaud, if_pos (Ne.symm same), bind_of_ok wrote]
          rfl
        have ran := (@setAttr_of_got fails samePadding statuses old ios _ first second).trans
          (called_bind_of_returned failed)
        exact (allOrNothing_iff_of_ran ran).mpr (.inr ⟨by decide, rfl, rfl⟩)
      · rw [works 2 (by decide)] at third
        cases third
  | false =>
      have works : ∀ k < 3, fails (chip.accesses + k) = false := by
        intro k small
        rcases k with _ | _ | _ | k
        · exact first
        · exact second
        · exact third
        · omega
      rw [allOrNothing_iff_of_written works same bound ready]
      exact ⟨fun condition _ _ => condition, fun condition => condition same works⟩

end SetAttr

/-- 9600 baud, 8 data bits. -/
def chip9600 : SerialChip := ⟨96, 6, 0⟩

theorem allOrNothing_faster :
    AllOrNothing (fun _ => false) true [0x80, 0] ⟨0, 0, 0, 0, 0, 0⟩ ⟨115200, 7, 0x45, 2, 0x48, 0⟩
      chip9600 := by
  refine (allOrNothing_iff (by decide) (by decide)).mpr fun _ _ => ⟨fun refused => ?_, fun _ => ?_⟩
  · exact absurd refused (by decide)
  · decide

/-- The baud rate is set though the data bits are refused, and one that is no multiple of a hundred
is accepted. -/
theorem not_allOrNothing_dataBits :
    iChipIoSerialSetAttr (fun _ => false) true [0] ⟨0, 0, 0, 0, 0, 0⟩ ⟨115200, 9, 0x4E, 1, 0x20, 0⟩
        chip9600 = (.ok (-1), ⟨1152, 6, 4⟩) ∧
      ¬AllOrNothing (fun _ => false) true [0] ⟨0, 0, 0, 0, 0, 0⟩ ⟨115200, 9, 0x4E, 1, 0x20, 0⟩
        chip9600 ∧
      ¬AllOrNothing (fun _ => false) true [0] ⟨0, 0, 0, 0, 0, 0⟩ ⟨115250, 8, 0x4E, 1, 0x20, 0⟩
        chip9600 := by
  have refused : iChipIoSerialSetAttr (fun _ => false) true [0] ⟨0, 0, 0, 0, 0, 0⟩
      ⟨115200, 9, 0x4E, 1, 0x20, 0⟩ chip9600 = (.ok (-1), ⟨1152, 6, 4⟩) := by
    decide
  have rounded : iChipIoSerialSetAttr (fun _ => false) true [0] ⟨0, 0, 0, 0, 0, 0⟩
      ⟨115250, 8, 0x4E, 1, 0x20, 0⟩ chip9600 = (.ok 0, ⟨1152, 6, 3⟩) := by
    decide
  refine ⟨refused, ?_, ?_⟩
  · rw [allOrNothing_iff_of_ran refused]
    rintro (⟨impossible, -⟩ | ⟨-, unchanged, -⟩)
    · cases impossible
    · exact absurd unchanged (by decide)
  · rw [allOrNothing_iff_of_ran rounded]
    rintro (⟨-, applied⟩ | ⟨impossible, -⟩)
    · rcases applied.reads ⟨0, 0, 0, 0, 0, 0⟩ with ⟨later, read⟩
      cases read
    · exact absurd impossible (by decide)

end Sysio.ChipIo
