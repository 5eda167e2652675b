import Mathlib.Tactic.FinCases
import Sysio.Tinfo.Acceptance
import Sysio.Tinfo.Carried
import Sysio.Tinfo.SinglePhase

/-!
# The decoding of a single-phase frame

An item of a single-phase frame is stored in its field of the union and nowhere else that the
option of the frame gives a meaning (`TinfoItem.reads_store`). The groups read one after the
other hence leave what the items say (`tinfoShows_tinfoRead`), which the handlers are given when
all checksums are right; one that is wrong is found by the checksum loop, whichever group it is
in (`tinfoDecodes`).
-/

namespace Sysio.Tinfo

/-! ### Numbers -/

theorem toNat_ofInt32 {n : ℕ} (small : n < 2 ^ 32) : (UInt32.ofInt (n : ℤ)).toNat = n := by
  change (UInt32.ofNat ((n : ℤ) % 2 ^ 32).toNat).toNat = n
  simp only [UInt32.toNat_ofNat']
  omega

theorem toNat_ofInt64 {n : ℕ} (small : n < 2 ^ 64) : (UInt64.ofInt (n : ℤ)).toNat = n := by
  change (UInt64.ofNat ((n : ℤ) % 2 ^ 64).toNat).toNat = n
  simp only [UInt64.toNat_ofNat']
  omega

theorem TinfoDigits.plain {base count : ℕ} {data : List UInt8}
    (digits : TinfoDigits base count data) (small : base ≤ 16) : ∀ c ∈ data, TinfoPlain c := by
  intro c c_mem
  have valid : digitValue c < 16 := (digits.2 c c_mem).trans_le small
  revert valid
  generalize c = d
  revert d
  decide +kernel

theorem iStrToLong_digits {base count : ℕ} {data : List UInt8}
    (digits : TinfoDigits base count data) (small : base ≤ 16) (positive : 0 < count)
    (inRange : base ^ count ≤ 2 ^ 63) (rest : List UInt8) :
    iStrToLong (data ++ 0 :: rest) base = some (strtolNumber base data : ℤ) := by
  have text : cstr (data ++ 0 :: rest) = data :=
    cstr_append (fun c c_mem => (digits.plain small c c_mem).1) rest
  have dataNe : data ≠ [] := by
    rintro rfl
    exact absurd digits.1 positive.ne
  rw [iStrToLong, text]
  refine strtol_digits digits.2 dataNe small ?_
  rw [digits.1]
  exact inRange

theorem XTinfoFrame.withLong_digits {base count : ℕ} {data : List UInt8}
    (digits : TinfoDigits base count data) (small : base ≤ 16) (positive : 0 < count)
    (inRange : base ^ count ≤ 2 ^ 63) (f : XTinfoFrame) (rest : List UInt8)
    (store : ℤ → XTinfoFrame) :
    f.withLong (data ++ 0 :: rest) base store = store (strtolNumber base data) := by
  rw [XTinfoFrame.withLong, iStrToLong_digits digits small positive inRange]

/-! ### One item -/

/-- A full frame of a single-phase meter is being read. -/
structure TinfoOpen (f : XTinfoFrame) : Prop where
  frame : f.frame = eTinfoFrameBlue
  full : f.flag &&& eTinfoFlagShort = 0
  single : f.nph ≠ 3

section Tariff

variable {f : XTinfoFrame} (raw : List UInt8)

theorem prvvReadBlueItem_tarif (single : f.nph ≠ 3) {label : TinfoLabel}
    (tariff : label.option ≠ none) :
    prvvReadBlueItem f label.text raw = tinfoReadTarif f label.text raw := by
  cases label with
  | index option number =>
      cases option <;> fin_cases number <;>
        simp [prvvReadBlueItem, TinfoLabel.text, tinfoIndexLabels, ascii, single]
  | hhphc => simp [prvvReadBlueItem, TinfoLabel.text, ascii, single]
  | pejp => simp [prvvReadBlueItem, TinfoLabel.text, ascii, single]
  | demain => simp [prvvReadBlueItem, TinfoLabel.text, ascii, single]
  | _ => exact absurd rfl tariff

theorem tinfoReadTarif_index {option : TinfoOption} (announced : f.optarif = option.code)
    (number : Fin option.count) :
    tinfoReadTarif f (TinfoLabel.index option number).text raw =
      f.withLong raw 10 fun n => f.setIndex (number.castLE option.count_le) (.ofInt n) := by
  rw [tinfoReadTarif, announced]
  cases option <;> fin_cases number <;> rfl

theorem tinfoReadTarif_hhphc (announced : f.optarif = eTinfoOpTarifHc) :
    tinfoReadTarif f TinfoLabel.hhphc.text raw = f.setHoraire (raw.getD 0 0) := by
  rw [tinfoReadTarif, announced]
  rfl

theorem tinfoReadTarif_pejp (announced : f.optarif = eTinfoOpTarifEjp) :
    tinfoReadTarif f TinfoLabel.pejp.text raw =
      f.withLong raw 10 fun n => f.setPejp (.ofInt n) := by
  rw [tinfoReadTarif, announced]
  rfl

theorem tempo_ne : eTinfoOpTarifTempo ≠ eTinfoOpTarifBase ∧ eTinfoOpTarifTempo ≠ eTinfoOpTarifHc ∧
    eTinfoOpTarifTempo ≠ eTinfoOpTarifEjp := by decide

theorem tinfoReadTarif_demain (announced : f.optarif = eTinfoOpTarifTempo) :
    tinfoReadTarif f TinfoLabel.demain.text raw =
      (tinfoPlace sTempoColorList (cstr raw)).elim f
        fun color => { f with demain := .ofNat color } := by
  have notBase : f.optarif ≠ eTinfoOpTarifBase := by simp [announced, tempo_ne]
  have notHc : f.optarif ≠ eTinfoOpTarifHc := by simp [announced, tempo_ne]
  have notEjp : f.optarif ≠ eTinfoOpTarifEjp := by simp [announced, tempo_ne]
  have placed : tinfoPlace sTempoColorList (cstr raw) =
      (sTempoColorList.findIdx? (· = cstr raw)).map (· + 1) := rfl
  rw [tinfoReadTarif, if_neg notBase, if_neg notHc, if_neg notEjp, if_pos announced, placed]
  rcases sTempoColorList.findIdx? (· = cstr raw) with _ | color <;> simp [TinfoLabel.text, ascii]

end Tariff

namespace TinfoItem

variable {f : XTinfoFrame} {item : TinfoItem}

theorem data_plain (item : TinfoItem) : ∀ c ∈ item.data, TinfoPlain c := by
  have format := item.format
  cases label : item.label <;> rw [label] at format
  case optarif => exact format.1.2
  case ptec | hhphc | demain => exact format.2
  all_goals exact format.plain (by decide)

theorem cstr_data (item : TinfoItem) (rest : List UInt8) :
    cstr (item.data ++ 0 :: rest) = item.data :=
  cstr_append (fun c c_mem => (item.data_plain c c_mem).1) rest

theorem tinfoReadOpTarif_eq (label : item.label = .optarif) (rest : List UInt8) :
    tinfoReadOpTarif f (item.data ++ 0 :: rest) = item.store f := by
  have format := item.format
  rw [label] at format
  have fourth : (item.data ++ 0 :: rest).getD 3 0 = item.data.getD 3 0 :=
    List.getD_append _ _ _ _ (by rw [format.1.1]; decide)
  rw [tinfoReadOpTarif, store, label, item.cstr_data, fourth]
  simp only [TinfoOption.announced]
  split_ifs <;> rfl

theorem tinfoReadPhase_eq (digits : TinfoDigits 10 3 item.data) {bound : ℕ} (short : 3 ≤ bound)
    (store : XTinfoFrame → Fin 3 → UInt32 → XTinfoFrame) (rest : List UInt8) :
    tinfoReadPhase f (item.data ++ 0 :: rest) bound store =
      store { f with nph := 1 } 0 (.ofInt (strtolNumber 10 item.data)) := by
  have single : ¬(cstr (item.data ++ 0 :: rest)).length > bound := by
    rw [item.cstr_data, digits.1]
    omega
  rw [tinfoReadPhase,
    XTinfoFrame.withLong_digits digits (by decide) (by decide) (by decide), if_neg single]

theorem prvvReadBlueItem_adps (single : f.nph ≠ 3) (raw : List UInt8) :
    prvvReadBlueItem f TinfoLabel.adps.text raw = f.withLong raw 10 fun n =>
      { f with adps := .ofInt n, flag := f.flag ||| eTinfoFlagAdps } := by
  simp [prvvReadBlueItem, TinfoLabel.text, ascii, single]

theorem prvvReadBlueItem_ptec (raw : List UInt8) :
    prvvReadBlueItem f TinfoLabel.ptec.text raw =
      (tinfoPlace sPtecList (cstr raw)).elim f fun ptec => { f with ptec := .ofNat ptec } := by
  have placed : tinfoPlace sPtecList (cstr raw) =
      (sPtecList.findIdx? (· = cstr raw)).map (· + 1) := rfl
  rw [placed]
  rcases found : sPtecList.findIdx? (· = cstr raw) with _ | ptec <;>
    simp [prvvReadBlueItem, found, TinfoLabel.text, ascii]

/-- An item is read into what it stores. -/
theorem prvvReadBlueItem_eq (single : f.nph ≠ 3) (item : TinfoItem)
    (announced : ∀ option, item.label.option = some option → f.optarif = option.code)
    (rest : List UInt8) :
    prvvReadBlueItem f item.label.text (item.data ++ 0 :: rest) = item.store f := by
  have format := item.format
  have number {base count : ℕ} (digits : TinfoDigits base count item.data) (small : base ≤ 16)
      (positive : 0 < count) (inRange : base ^ count ≤ 2 ^ 63) (store : ℤ → XTinfoFrame) :
      f.withLong (item.data ++ 0 :: rest) base store = store (strtolNumber base item.data) :=
    XTinfoFrame.withLong_digits digits small positive inRange f rest store
  cases label : item.label <;> rw [label] at format announced <;> rw [store, label]
  case adco => simp [prvvReadBlueItem, tinfoReadTarif, TinfoLabel.text, ascii, single]
  case optarif =>
    have read := tinfoReadOpTarif_eq (f := f) label rest
    rw [store, label] at read
    exact read
  case isousc => exact number format (by decide) (by decide) (by decide) _
  case ptec => rw [prvvReadBlueItem_ptec, item.cstr_data]
  case papp => exact number format (by decide) (by decide) (by decide) _
  case iinst => exact tinfoReadPhase_eq format (by decide) _ rest
  case imax => exact tinfoReadPhase_eq format (by decide) _ rest
  case adps =>
    rw [prvvReadBlueItem_adps single]
    exact number format (by decide) (by decide) (by decide) _
  case motdetat => exact number format (by decide) (by decide) (by decide) _
  case index option index =>
    rw [prvvReadBlueItem_tarif _ single (by simp [TinfoLabel.option]),
      tinfoReadTarif_index _ (announced option rfl)]
    exact number format (by decide) (by decide) (by decide) _
  case hhphc =>
    have first : (item.data ++ 0 :: rest).getD 0 0 = item.data.getD 0 0 :=
      List.getD_append _ _ _ _ (by rw [format.1]; decide)
    rw [prvvReadBlueItem_tarif _ single (by simp [TinfoLabel.option]),
      tinfoReadTarif_hhphc _ (announced .hc rfl), first]
  case pejp =>
    rw [prvvReadBlueItem_tarif _ single (by simp [TinfoLabel.option]),
      tinfoReadTarif_pejp _ (announced .ejp rfl)]
    exact number format (by decide) (by decide) (by decide) _
  case demain =>
    rw [prvvReadBlueItem_tarif _ single (by simp [TinfoLabel.option]),
      tinfoReadTarif_demain _ (announced .tempo rfl), item.cstr_data]

/-- The item is stored in the frame `g`, where `f` was before. -/
structure Reads (item : TinfoItem) (f g : XTinfoFrame) : Prop where
  isOpen : TinfoOpen g
  field : ∀ field : TinfoField, (∀ option other, item.label.option = some option →
    field.option = some other → option = other) →
      g.get field = (field.saidBy item).getD (f.get field)

theorem toUInt8_setHoraire (word : UInt64) (c : UInt8) :
    ((word &&& 0xFFFFFFFFFFFFFF00) ||| c.toUInt64).toUInt8 = c := by
  have masked : (0xFFFFFFFFFFFFFF00 : UInt64).toUInt8 = 0 := by decide
  rw [UInt64.toUInt8_or, UInt64.toUInt8_and, UInt8.toUInt8_toUInt64, masked, UInt8.and_zero,
    UInt8.zero_or]

theorem toUInt32_setPejp (word : UInt64) (n : UInt32) :
    ((word &&& 0xFFFFFFFF00000000) ||| n.toUInt64).toUInt32 = n := by
  have masked : (0xFFFFFFFF00000000 : UInt64).toUInt32 = 0 := by decide
  rw [UInt64.toUInt32_or, UInt64.toUInt32_and, UInt32.toUInt32_toUInt64, masked, UInt32.and_zero,
    UInt32.zero_or]

theorem get_setIndex (f : XTinfoFrame) (index other : Fin 6) (n : UInt64) :
    (f.setIndex index n).tarif.get other = if index = other then n else f.tarif.get other := by
  change (f.tarif.set index n)[other.val] = if index = other then n else f.tarif[other.val]
  rw [Vector.getElem_set]
  simp only [Fin.ext_iff]

theorem third_setIndex (f : XTinfoFrame) (index : Fin 6) (n : UInt64) :
    (f.setIndex index n).third = if index = 2 then n else f.third :=
  get_setIndex f index 2 n

theorem tinfoPlace_le {list : List (List UInt8)} {text : List UInt8} {place : ℕ}
    (placed : tinfoPlace list text = some place) : place ≤ list.length := by
  rcases Option.map_eq_some_iff.mp placed with ⟨index, found, rfl⟩
  exact (List.findIdx?_eq_some_iff_findIdx_eq.mp found).1

/-- A word of the tariff union that belongs to no index of the option. -/
theorem castLE_ne_two {option : TinfoOption} (few : option.count ≤ 2) (number : Fin option.count) :
    number.castLE option.count_le ≠ 2 := by
  intro same
  have := congrArg Fin.val same
  have bound := number.isLt
  simp at this
  omega

theorem reads_index (isOpen : TinfoOpen f) {option : TinfoOption} {index : Fin option.count}
    (label : item.label = .index option index) : item.Reads f (item.store f) := by
  have format := item.format
  rw [label] at format
  have small := (strtolNumber_lt format.2).trans_eq (congrArg _ format.1)
  have number : (UInt64.ofInt (strtolNumber 10 item.data)).toNat = strtolNumber 10 item.data :=
    toNat_ofInt64 (by omega)
  rw [store, label]
  refine ⟨⟨isOpen.frame, isOpen.full, isOpen.single⟩, ?_⟩
  intro field same
  rw [label] at same
  cases field
  case index other field =>
    cases same option other rfl rfl
    simp only [XTinfoFrame.get, get_setIndex, TinfoField.saidBy, label]
    by_cases own : index = field
    · simp [own, number]
    · simp [own]
  case horaire =>
    cases same option _ rfl rfl
    have apart := castLE_ne_two (by decide) index
    simp [XTinfoFrame.get, third_setIndex, TinfoField.saidBy, label, apart]
  case pejp =>
    cases same option _ rfl rfl
    have apart := castLE_ne_two (by decide) index
    simp [XTinfoFrame.get, third_setIndex, TinfoField.saidBy, label, apart]
  all_goals simp [TinfoField.saidBy, XTinfoFrame.get, XTinfoFrame.setIndex, label]

theorem reads_hhphc (isOpen : TinfoOpen f) (label : item.label = .hhphc) :
    item.Reads f (item.store f) := by
  have byte (c : UInt8) : ((f.tarif[2] &&& 0xFFFFFFFFFFFFFF00) ||| c.toUInt64).toUInt8 = c :=
    toUInt8_setHoraire _ _
  rw [store, label]
  refine ⟨⟨isOpen.frame, isOpen.full, isOpen.single⟩, ?_⟩
  intro field same
  rw [label] at same
  cases field
  case index other field =>
    cases same _ other rfl rfl
    have apart := castLE_ne_two (by decide) field
    simp [XTinfoFrame.get, XTinfoFrame.setHoraire, get_setIndex, TinfoField.saidBy, label,
      apart.symm]
  case horaire =>
    simp only [XTinfoFrame.get, XTinfoFrame.setHoraire, third_setIndex, TinfoField.saidBy, label,
      if_true, byte, Option.getD_some]
  case pejp => exact absurd (same _ _ rfl rfl) (by decide)
  all_goals
    simp [TinfoField.saidBy, XTinfoFrame.get, XTinfoFrame.setHoraire, XTinfoFrame.setIndex, label]

theorem reads_pejp (isOpen : TinfoOpen f) (label : item.label = .pejp) :
    item.Reads f (item.store f) := by
  have format := item.format
  rw [label] at format
  have small := (strtolNumber_lt format.2).trans_eq (congrArg _ format.1)
  have number : (UInt32.ofInt (strtolNumber 10 item.data)).toNat = strtolNumber 10 item.data :=
    toNat_ofInt32 (by omega)
  have half (n : UInt32) : ((f.tarif[2] &&& 0xFFFFFFFF00000000) ||| n.toUInt64).toUInt32 = n :=
    toUInt32_setPejp _ _
  rw [store, label]
  refine ⟨⟨isOpen.frame, isOpen.full, isOpen.single⟩, ?_⟩
  intro field same
  rw [label] at same
  cases field
  case index other field =>
    cases same _ other rfl rfl
    have apart := castLE_ne_two (by decide) field
    simp [XTinfoFrame.get, XTinfoFrame.setPejp, get_setIndex, TinfoField.saidBy, label, apart.symm]
  case horaire => exact absurd (same _ _ rfl rfl) (by decide)
  case pejp =>
    simp only [XTinfoFrame.get, XTinfoFrame.setPejp, third_setIndex, TinfoField.saidBy, label,
      if_true, half, number, Option.getD_some]
  all_goals
    simp [TinfoField.saidBy, XTinfoFrame.get, XTinfoFrame.setPejp, XTinfoFrame.setIndex, label]

theorem reads_optarif (isOpen : TinfoOpen f) (label : item.label = .optarif) :
    item.Reads f (item.store f) := by
  rw [store, label]
  rcases announced : TinfoOption.announced item.data with _ | option
  · refine ⟨isOpen, ?_⟩
    intro field _
    cases field <;> simp [TinfoField.saidBy, label, announced]
  · cases option <;>
      refine ⟨⟨isOpen.frame, isOpen.full, isOpen.single⟩, ?_⟩ <;> intro field _ <;> cases field <;>
        simp [TinfoField.saidBy, XTinfoFrame.get, XTinfoFrame.third, label, announced,
          TinfoOption.code]

theorem reads_ptec (isOpen : TinfoOpen f) (label : item.label = .ptec) :
    item.Reads f (item.store f) := by
  rw [store, label]
  rcases placed : tinfoPlace sPtecList item.data with _ | ptec
  · refine ⟨isOpen, ?_⟩
    intro field _
    cases field <;> simp [TinfoField.saidBy, label, placed]
  · have bound : ptec ≤ 11 := tinfoPlace_le placed
    refine ⟨⟨isOpen.frame, isOpen.full, isOpen.single⟩, ?_⟩
    intro field _
    cases field <;> simp [TinfoField.saidBy, XTinfoFrame.get, XTinfoFrame.third, label, placed]
    omega

theorem reads_demain (isOpen : TinfoOpen f) (label : item.label = .demain) :
    item.Reads f (item.store f) := by
  rw [store, label]
  rcases placed : tinfoPlace sTempoColorList item.data with _ | color
  · refine ⟨isOpen, ?_⟩
    intro field _
    cases field <;> simp [TinfoField.saidBy, label, placed]
  · have bound : color ≤ 3 := tinfoPlace_le placed
    refine ⟨⟨isOpen.frame, isOpen.full, isOpen.single⟩, ?_⟩
    intro field _
    cases field <;> simp [TinfoField.saidBy, XTinfoFrame.get, XTinfoFrame.third, label, placed]
    omega

theorem toNat_digits {base count : ℕ} (digits : TinfoDigits base count item.data)
    (small : base ^ count ≤ 2 ^ 32) :
    (UInt32.ofInt (strtolNumber base item.data)).toNat = strtolNumber base item.data := by
  have bound := strtolNumber_lt digits.2
  rw [digits.1] at bound
  exact toNat_ofInt32 (bound.trans_le small)

/-- What an item stores is what it says, and no other field changes. -/
theorem reads_store (isOpen : TinfoOpen f) (item : TinfoItem) (notAddress : item.label ≠ .adco) :
    item.Reads f (item.store f) := by
  have format := item.format
  have kept {flag : UInt32} (apart : flag &&& eTinfoFlagShort = 0) :
      (f.flag ||| flag) &&& eTinfoFlagShort = 0 := by
    rw [flag_or_and _ apart]
    exact isOpen.full
  have one : (1 : UInt32) ≠ 3 := by decide
  cases label : item.label <;> rw [label] at format
  case adco => exact absurd label notAddress
  case optarif => exact reads_optarif isOpen label
  case ptec => exact reads_ptec isOpen label
  case index => exact reads_index isOpen label
  case hhphc => exact reads_hhphc isOpen label
  case pejp => exact reads_pejp isOpen label
  case demain => exact reads_demain isOpen label
  all_goals
    have number := toNat_digits format (by decide)
    rw [store, label]
  case isousc =>
    refine ⟨⟨isOpen.frame, isOpen.full, isOpen.single⟩, fun field _ => ?_⟩
    cases field <;> simp [TinfoField.saidBy, XTinfoFrame.get, XTinfoFrame.third, label, number]
  case papp =>
    refine ⟨⟨isOpen.frame, kept (by decide), isOpen.single⟩, fun field _ => ?_⟩
    cases field <;> simp [TinfoField.saidBy, XTinfoFrame.get, XTinfoFrame.third, label, number]
  case iinst =>
    refine ⟨⟨isOpen.frame, isOpen.full, one⟩, fun field _ => ?_⟩
    cases field <;>
      simp [TinfoField.saidBy, XTinfoFrame.get, XTinfoFrame.third, XTinfoFrame.setIinst, label,
        number]
  case imax =>
    refine ⟨⟨isOpen.frame, isOpen.full, one⟩, fun field _ => ?_⟩
    cases field <;>
      simp [TinfoField.saidBy, XTinfoFrame.get, XTinfoFrame.third, XTinfoFrame.setImax, label,
        number]
  case adps =>
    refine ⟨⟨isOpen.frame, kept (by decide), isOpen.single⟩, fun field _ => ?_⟩
    cases field <;> simp [TinfoField.saidBy, XTinfoFrame.get, XTinfoFrame.third, label, number]
  case motdetat =>
    refine ⟨⟨isOpen.frame, isOpen.full, isOpen.single⟩, fun field _ => ?_⟩
    cases field <;> simp [TinfoField.saidBy, XTinfoFrame.get, XTinfoFrame.third, label, number]

end TinfoItem

/-! ### All items -/

/-- Values kept from the last item that gives one, when all that do agree. -/
theorem foldl_getD_eq_findSome {Item Value : Type} {given : Item → Option Value} {items : List Item}
    (agree : ∀ item ∈ items, ∀ other ∈ items, ∀ value word, given item = some value →
      given other = some word → value = word) (start : Value) :
    items.foldl (fun value item => (given item).getD value) start =
      (items.findSome? given).getD start := by
  induction items generalizing start with
  | nil => rfl
  | cons item rest ih =>
      have later := ih fun left left_mem right right_mem =>
        agree left (by simp [left_mem]) right (by simp [right_mem])
      rw [List.foldl_cons, later, List.findSome?_cons]
      rcases said : given item with _ | value
      · rfl
      · rcases found : rest.findSome? given with _ | word
        · rfl
        · rcases List.exists_of_findSome?_eq_some found with ⟨other, other_mem, saidOther⟩
          exact (agree item (by simp) other (by simp [other_mem]) value word said saidOther).symm

/-- Two items that speak of a field have one label, or say the same. -/
theorem TinfoField.saidBy_agree (field : TinfoField) {item other : TinfoItem} {value word : ℕ}
    (said : field.saidBy item = some value) (saidOther : field.saidBy other = some word) :
    item.label = other.label ∨ value = word := by
  cases field <;> simp only [saidBy] at said saidOther <;> split_ifs at said saidOther <;> grind

/-- No item speaks of a member of the union that the field is not of. -/
def TinfoField.Apart (field : TinfoField) (items : List TinfoItem) : Prop :=
  ∀ item ∈ items, ∀ option other, item.label.option = some option →
    field.option = some other → option = other

/-- The frame after the items `done`. -/
structure TinfoDecoded (done : List TinfoItem) (f : XTinfoFrame) : Prop where
  isOpen : TinfoOpen f
  field : ∀ field : TinfoField, field.Apart done →
    f.get field = done.foldl (fun value item => (field.saidBy item).getD value) 0

section Run

variable {items done : List TinfoItem} {item : TinfoItem} {f : XTinfoFrame}

theorem TinfoSinglePhase.agree (wellFormed : TinfoSinglePhase items) (field : TinfoField) :
    ∀ item ∈ items, ∀ other ∈ items, ∀ value word, field.saidBy item = some value →
      field.saidBy other = some word → value = word := by
  intro item item_mem other other_mem value word said saidOther
  rcases field.saidBy_agree said saidOther with sameLabel | same
  · have sameItem := List.inj_on_of_nodup_map wellFormed.once item_mem other_mem sameLabel
    rw [sameItem, saidOther] at said
    exact (Option.some.inj said).symm
  · exact same

theorem TinfoDecoded.concat (decoded : TinfoDecoded done f) {g : XTinfoFrame}
    (reads : item.Reads f g) : TinfoDecoded (done ++ [item]) g := by
  refine ⟨reads.isOpen, ?_⟩
  intro field apart
  have apartDone : field.Apart done := fun other other_mem => apart other (by simp [other_mem])
  rw [reads.field field (apart item (by simp)), decoded.field field apartDone, List.foldl_append]
  rfl

/-- The option that was announced is that of the frame. -/
theorem TinfoDecoded.optarif_eq (decoded : TinfoDecoded done f) (before : done <+: items)
    (wellFormed : TinfoSinglePhase items) {other : TinfoItem} (other_mem : other ∈ done)
    (label : other.label = .optarif) {option : TinfoOption}
    (announced : TinfoOption.announced other.data = some option) : f.optarif = option.code := by
  have apart : TinfoField.optarif.Apart done := by
    intro item _ option other _ isSome
    cases isSome
  have agree : ∀ item ∈ done, ∀ other ∈ done, ∀ value word,
      TinfoField.optarif.saidBy item = some value → TinfoField.optarif.saidBy other = some word →
        value = word := fun item item_mem other other_mem =>
    wellFormed.agree .optarif item (before.subset item_mem) other (before.subset other_mem)
  have value := decoded.field .optarif apart
  rw [foldl_getD_eq_findSome agree] at value
  have said : TinfoField.optarif.saidBy other = some option.code.toNat := by
    simp [TinfoField.saidBy, label, announced]
  rcases found : done.findSome? TinfoField.optarif.saidBy with _ | word
  · have := List.findSome?_eq_none_iff.mp found other other_mem
    rw [said] at this
    cases this
  · rcases List.exists_of_findSome?_eq_some found with ⟨item, item_mem, saidItem⟩
    rw [found, agree item item_mem other other_mem word _ saidItem said] at value
    exact UInt32.toNat.inj value

end Run

theorem plain_of_all {text : List UInt8} (nonempty : text.isEmpty = false)
    (all : (text.all fun c => TinfoPlain c ∧ c ≠ 0x20 ∧ c ≠ 0x09) = true) :
    text ≠ [] ∧ ∀ c ∈ text, TinfoPlain c ∧ c ≠ 0x20 ∧ c ≠ 0x09 := by
  refine ⟨List.isEmpty_eq_false_iff.mp nonempty, fun c c_mem => ?_⟩
  exact of_decide_eq_true (List.all_eq_true.mp all c c_mem)

theorem text_plain (label : TinfoLabel) :
    label.text ≠ [] ∧ ∀ c ∈ label.text, TinfoPlain c ∧ c ≠ 0x20 ∧ c ≠ 0x09 := by
  cases label
  case index option number =>
    cases option <;> fin_cases number <;>
      exact plain_of_all (by decide +kernel) (by decide +kernel)
  all_goals exact plain_of_all (by decide +kernel) (by decide +kernel)

/-- The separator of a frame: a space, or HT on newer meters. -/
def TinfoSeparator (sep : UInt8) : Prop := sep = 0x20 ∨ sep = 0x09

/-- The group of an item that has the right checksum. -/
def TinfoItem.group {sep : UInt8} (isSep : TinfoSeparator sep) (item : TinfoItem) : TinfoGroup where
  label := item.label.text
  sep := sep
  data := item.data
  label_ne := (text_plain item.label).1
  label_plain := fun c c_mem => ((text_plain item.label).2 c c_mem).1
  label_ne_sep := by
    intro c c_mem
    rcases isSep with rfl | rfl
    · exact ((text_plain item.label).2 c c_mem).2.1
    · exact ((text_plain item.label).2 c c_mem).2.2
  sep_plain := by rcases isSep with rfl | rfl <;> decide
  data_plain := item.data_plain

section Frame

variable {sep : UInt8} (isSep : TinfoSeparator sep) {items : List TinfoItem} (time : UInt64)

theorem get_zeroed (field : TinfoField) : XTinfoFrame.zeroed.get field = 0 := by
  have word (index : Fin 6) : XTinfoFrame.zeroed.tarif.get index = 0 := by
    change (Vector.replicate 6 (0 : UInt64))[index.val] = 0
    exact Vector.getElem_replicate _
  cases field
  case index option number => simp only [XTinfoFrame.get, word]; rfl
  all_goals rfl

theorem tinfoReadSeparated_address {item : TinfoItem} (label : item.label = .adco)
    (rest : List UInt8) :
    TinfoDecoded [item]
      (tinfoReadSeparated time .zeroed item.label.text (item.data ++ 0 :: rest)) := by
  have format := item.format
  rw [label] at format
  have bound := strtolNumber_lt format.2
  rw [format.1] at bound
  have number : (UInt64.ofInt (strtolNumber 10 item.data)).toNat = strtolNumber 10 item.data :=
    toNat_ofInt64 (by omega)
  have read : tinfoReadSeparated time .zeroed item.label.text (item.data ++ 0 :: rest) =
      { XTinfoFrame.zeroed with
        frame := eTinfoFrameBlue, adco := .ofInt (strtolNumber 10 item.data), time := time } := by
    rw [label]
    exact XTinfoFrame.withLong_digits format (by decide) (by decide) (by decide) .zeroed rest _
  have full : XTinfoFrame.zeroed.flag &&& eTinfoFlagShort = 0 := by decide
  have single : XTinfoFrame.zeroed.nph ≠ 3 := by decide
  rw [read]
  refine ⟨⟨rfl, full, single⟩, ?_⟩
  intro field _
  have zero := get_zeroed field
  cases field
  case adco => simpa [TinfoField.saidBy, label, XTinfoFrame.get] using number
  all_goals
    simp only [List.foldl_cons, List.foldl_nil, TinfoField.saidBy, label, reduceCtorEq, false_and,
      or_self, if_false, Option.getD_none]
    exact zero

theorem TinfoDecoded.read {done : List TinfoItem} {f : XTinfoFrame} (decoded : TinfoDecoded done f)
    {item : TinfoItem} (notAddress : item.label ≠ .adco)
    (announced : ∀ option, item.label.option = some option → f.optarif = option.code)
    (rest : List UInt8) :
    TinfoDecoded (done ++ [item])
      (tinfoReadSeparated time f item.label.text (item.data ++ 0 :: rest)) := by
  have blue : f.frame = eTinfoFrameBlue := decoded.isOpen.frame
  have notFirst : f.frame ≠ 0 := by
    rw [blue]
    decide
  have full : ¬f.flag &&& eTinfoFlagShort ≠ 0 := not_not.mpr decoded.isOpen.full
  rw [tinfoReadSeparated, if_neg notFirst, if_pos blue, if_neg full,
    item.prvvReadBlueItem_eq decoded.isOpen.single announced rest]
  exact decoded.concat (item.reads_store decoded.isOpen notAddress)

/-- The groups are read one after the other: by induction on those still to be read. -/
theorem TinfoDecoded.readAll (wellFormed : TinfoSinglePhase items) {done later : List TinfoItem}
    (split : items = done ++ later) (begun : done ≠ []) {f : XTinfoFrame}
    (decoded : TinfoDecoded done f) (rest : List UInt8) :
    TinfoDecoded items (tinfoRead time f (later.map (TinfoItem.group isSep)) rest) := by
  induction later generalizing done f with
  | nil =>
      rw [List.append_nil] at split
      rw [split]
      exact decoded
  | cons item later ih =>
      have next : items = (done ++ [item]) ++ later := by simp [split]
      have notAddress : item.label ≠ .adco := by
        rcases done with _ | ⟨address, done⟩
        · exact absurd rfl begun
        have first := wellFormed.address
        have once := wellFormed.once
        rw [split, List.cons_append, List.head?_cons, Option.map_some, Option.some.injEq] at first
        rw [split, List.cons_append, List.map_cons, List.nodup_cons, first] at once
        intro again
        exact once.1 (List.mem_map.mpr ⟨item, by simp, again⟩)
      have announced : ∀ option, item.label.option = some option → f.optarif = option.code := by
        intro option isTariff
        rcases wellFormed.announced done item later option split isTariff with
          ⟨other, other_mem, label, announced⟩
        exact decoded.optarif_eq ⟨_, split.symm⟩ wellFormed other_mem label announced
      exact ih next (by simp) (decoded.read time notAddress announced _)

theorem TinfoDecoded.shows {f : XTinfoFrame} (decoded : TinfoDecoded items f)
    (wellFormed : TinfoSinglePhase items) : TinfoShows items f := by
  refine ⟨decoded.isOpen.frame, ?_⟩
  intro field meant
  have apart : field.Apart items := by
    intro item item_mem option other isTariff isOther
    rcases List.append_of_mem item_mem with ⟨before, after, split⟩
    rcases wellFormed.announced before item after option split isTariff with
      ⟨source, source_mem, label, announced⟩
    have source_item : source ∈ items := by simp [split, source_mem]
    have optarif := decoded.optarif_eq (List.prefix_refl _) wellFormed source_item label announced
    exact TinfoOption.code_injective (optarif.symm.trans (meant other isOther))
  rw [decoded.field field apart]
  exact foldl_getD_eq_findSome (wellFormed.agree field) 0

/-- The groups of a frame leave what its items say. -/
theorem tinfoShows_tinfoRead (wellFormed : TinfoSinglePhase items) (rest : List UInt8) :
    TinfoShows items (tinfoRead time .zeroed (items.map (TinfoItem.group isSep)) rest) := by
  rcases items with _ | ⟨address, later⟩
  · exact absurd wellFormed.address (by simp)
  have label : address.label = .adco := by simpa using wellFormed.address
  have split : address :: later = [address] ++ later := rfl
  exact ((tinfoReadSeparated_address time label _).readAll isSep time wellFormed split (by simp)
    rest).shows wellFormed

/-! ### Checksums -/

theorem TinfoItem.length_bytes (item : TinfoItem) (sep : UInt8) :
    (item.bytes sep).length = (item.body sep).length + 4 := by
  simp [bytes]

include isSep in
/-- The loop finds a checksum that is wrong: by induction on the items before it. -/
theorem tinfoChecksums_wrong {buf : List UInt8} {buflen i : ℕ} {rest : List UInt8} (sum ht : UInt8)
    (here : buf.drop i = items.flatMap (TinfoItem.bytes · sep) ++ rest)
    (inside : i + (items.flatMap (TinfoItem.bytes · sep)).length < buflen)
    (wrong : ∃ item ∈ items, ¬item.Right sep) :
    ∃ learned, tinfoChecksums buf buflen i sum ht = .ok (false, learned) := by
  induction items generalizing i sum ht with
  | nil => simp at wrong
  | cons item items ih =>
      rw [List.flatMap_cons, List.append_assoc] at here
      rw [List.flatMap_cons, List.length_append, item.length_bytes] at inside
      have first : buf[i]? = some lf := by
        rw [← Nat.add_zero i, ← List.getElem?_drop, here]
        rfl
      have behind : buf.drop (i + 1) = item.body sep ++ sep :: item.check :: cr ::
          (items.flatMap (TinfoItem.bytes · sep) ++ rest) := by
        rw [← List.drop_drop, here]
        simp [TinfoItem.bytes]
      have later : buf.drop (i + 1 + (item.body sep).length + 3) =
          items.flatMap (TinfoItem.bytes · sep) ++ rest := by
        rw [Nat.add_assoc, ← List.drop_drop, behind, ← List.drop_drop, List.drop_left]
        rfl
      have step : tinfoChecksums buf buflen i sum ht = tinfoChecksums buf buflen (i + 1) 0 ht := by
        rw [tinfoChecksums, if_pos (by omega), first]
        simp
      have checkNe : item.check ≠ cr := by
        intro same
        have := item.check_ge
        rw [same] at this
        exact absurd this (by decide)
      rw [step, tinfoChecksums_body 0 ht behind (item.group isSep).body_plain
        (item.group isSep).sep_plain checkNe (by omega)]
      by_cases right : item.Right sep
      · have same : ¬item.check ≠ (TinfoGroup.sumOf (item.body sep) 0 &&& 0x3F) + 0x20 :=
          not_not.mpr right
        rw [if_neg same]
        refine ih _ _ later (by omega) ?_
        rcases wrong with ⟨other, other_mem, otherWrong⟩
        rcases List.mem_cons.mp other_mem with rfl | inItems
        · exact absurd right otherWrong
        · exact ⟨other, inItems, otherWrong⟩
      · have differs : item.check ≠ (TinfoGroup.sumOf (item.body sep) 0 &&& 0x3F) + 0x20 := right
        rw [if_pos differs]
        exact ⟨ht, rfl⟩

theorem TinfoItem.bytes_of_right {item : TinfoItem} (right : item.Right sep) :
    item.bytes sep = (item.group isSep).bytes := by
  rw [bytes, right]
  rfl

theorem flatMap_bytes_of_right (right : ∀ item ∈ items, item.Right sep) :
    items.flatMap (TinfoItem.bytes · sep) =
      (items.map (TinfoItem.group isSep)).flatMap TinfoGroup.bytes := by
  rw [List.flatMap_map]
  refine List.flatMap_congr fun item item_mem => ?_
  exact TinfoItem.bytes_of_right isSep (right item item_mem)

end Frame

/-! ### The frame in the buffer -/

theorem TinfoShows.of_flag {items : List TinfoItem} {f g : XTinfoFrame}
    (shows_ : TinfoShows items f) (same : { g with flag := f.flag } = f) : TinfoShows items g := by
  rw [← same] at shows_
  refine ⟨shows_.frame, ?_⟩
  intro field meant
  have value := shows_.field field meant
  cases field <;> exact value

section Probe

variable {t : XTinfo} {sep : UInt8} {items : List TinfoItem}

theorem TinfoFresh.holds {content : List UInt8}
    (fresh : TinfoFresh t (stx :: (content ++ [etx]))) : TinfoHolds t content := by
  constructor
  · rw [fresh.buflen, List.length_cons, List.length_append, List.length_singleton]
  · rw [fresh.buf, fresh.buflen, List.take_left]

theorem TinfoFresh.quiet {line : List UInt8} (fresh : TinfoFresh t line) :
    strchr (t.buf.toList.drop t.buflen) lf = .ok none := by
  have room : tinfoBufferSize - line.length ≠ 0 := by
    have := fresh.room
    have size : tinfoBufferSize = 1024 := rfl
    omega
  rcases Nat.exists_eq_succ_of_ne_zero room with ⟨more, count⟩
  rw [fresh.buf, fresh.buflen, List.drop_left, count, List.replicate_succ]
  rfl

/-- A frame of groups in a fresh context reaches the handlers, as it is read. -/
theorem TinfoFresh.exists_calls {groups : List TinfoGroup}
    (separated : ∀ g ∈ groups, g.sep = tinfoSeparator 0 groups)
    (fresh : TinfoFresh t (stx :: (groups.flatMap TinfoGroup.bytes ++ [etx]))) {f : XTinfoFrame}
    (read : tinfoRead t.time .zeroed groups t.behindGroups = f) :
    ∃ ret next calls, prviProbeFrame t = .ok (ret, next) ∧ next.called = t.called ++ calls ∧
      calls ≠ [] ∧ ∀ call ∈ calls, { call.2 with flag := f.flag } = f := by
  rw [← fresh.ht] at separated
  rcases fresh.holds.exists_tinfoDispatch separated fresh.quiet with ⟨buf, probe⟩
  rw [read] at probe
  generalize passed_eq : ({ t with
    ht := tinfoSeparator t.ht groups
    probed := t.probed ++ [t.buf.toList.take t.buflen]
    buf := buf } : XTinfo) = passed at probe
  have handled : ∀ type, passed.sets type = true := by
    rw [← passed_eq]
    exact fresh.handled
  have called : passed.called = t.called := by rw [← passed_eq]
  rcases gives_tinfoDispatch passed f with ⟨calls, calledAfter, given⟩
  refine ⟨_, _, calls, probe, calledAfter.trans (by rw [called]), ?_, given⟩
  rintro rfl
  exact called_tinfoDispatch_ne handled f (calledAfter.trans (List.append_nil _))

theorem separated_groups (isSep : TinfoSeparator sep) (items : List TinfoItem) :
    ∀ g ∈ items.map (TinfoItem.group isSep),
      g.sep = tinfoSeparator 0 (items.map (TinfoItem.group isSep)) := by
  intro g g_mem
  rcases List.mem_map.mp g_mem with ⟨item, _, rfl⟩
  cases items with
  | nil => simp at g_mem
  | cons first rest => rfl

/-- A single-phase frame in a fresh context reaches the handlers if and only if its checksums are
right, and they find in each field what its group says. -/
theorem tinfoDecodes (isSep : TinfoSeparator sep) (wellFormed : TinfoSinglePhase items)
    (fresh : TinfoFresh t (tinfoFrameLine sep items)) : TinfoDecodes sep items t := by
  have holds := TinfoFresh.holds fresh
  by_cases right : ∀ item ∈ items, item.Right sep
  · rw [tinfoFrameLine, flatMap_bytes_of_right isSep right] at fresh
    have shown := tinfoShows_tinfoRead isSep t.time wellFormed t.behindGroups
    rcases TinfoFresh.exists_calls (separated_groups isSep items) fresh rfl with
      ⟨ret, next, calls, probe, called, some, given⟩
    refine ⟨ret, next, calls, probe, called, iff_of_true some right, ?_⟩
    intro call call_mem
    exact shown.of_flag (given call call_mem)
  · have wrong : ∃ item ∈ items, ¬item.Right sep := by simpa using right
    have inside : 1 + (items.flatMap (TinfoItem.bytes · sep)).length < t.buflen := by
      rw [holds.buflen]
      omega
    rcases tinfoChecksums_wrong isSep 0 t.ht holds.drop_one inside wrong with ⟨learned, scan⟩
    have probe : prviProbeFrame t = .ok (-1, { t with
        ht := learned
        buflen := 0
        probed := t.probed ++ [t.buf.toList.take t.buflen] }) := by
      rw [prviProbeFrame, scan]
    refine ⟨_, _, [], probe, (List.append_nil _).symm, ?_, by simp⟩
    exact iff_of_false (by simp) right

end Probe

theorem tinfoFresh_received {cb : ETinfoCbType → Option (TinfoCalls → XTinfoFrame → ℤ)}
    (content : List UInt8) (handled : ∀ type, (cb type).isSome = true)
    (room : content.length + 2 ≤ tinfoBufferSize - 1) :
    TinfoFresh { tinfoReceived content with cb := cb } (stx :: (content ++ [etx])) := by
  have length : (stx :: (content ++ [etx])).length = content.length + 2 := by simp
  refine ⟨handled, rfl, length.symm, by rwa [length], ?_⟩
  change (Vector.ofFn fun i : Fin tinfoBufferSize =>
    (stx :: (content ++ [etx])).getD i 0).toList = _
  refine List.ext_getElem ?_ ?_
  · simp only [Vector.length_toList, List.length_append, List.length_replicate, length]
    omega
  · intro i inside _
    rw [Vector.getElem_toList, Vector.getElem_ofFn, List.getElem_append]
    split
    · rename_i here
      exact List.getD_eq_getElem _ _ here
    · rename_i beyond
      rw [List.getElem_replicate]
      exact List.getD_eq_default _ _ (not_lt.mp beyond)

/-- A frame of a Tempo meter, all its checksums right. -/
def tinfoItemsTempo : List TinfoItem :=
  [{ label := .adco
     data := ascii "020406080910"
     check := 0x35
     format := (by decide +kernel : TinfoDigits 10 12 (ascii "020406080910"))
     check_ge := by decide
     check_le := by decide },
    { label := .optarif
      data := ascii "BBR("
      check := 0x53
      format := ⟨(by decide +kernel : TinfoLetters 4 (ascii "BBR(")), by decide⟩
      check_ge := by decide
      check_le := by decide },
    { label := .index .tempo ⟨3, by decide⟩
      data := ascii "001234567"
      check := 0x5B
      format := (by decide +kernel : TinfoDigits 10 9 (ascii "001234567"))
      check_ge := by decide
      check_le := by decide },
    { label := .iinst
      data := ascii "005"
      check := 0x5C
      format := (by decide +kernel : TinfoDigits 10 3 (ascii "005"))
      check_ge := by decide
      check_le := by decide }]

/-- The context with the whole Tempo frame in its buffer, and with all its handlers. -/
def tinfoReceivedTempo : XTinfo :=
  { tinfoReceived (tinfoItemsTempo.flatMap (TinfoItem.bytes · 0x20)) with
    cb := fun _ => some fun _ _ => 0 }

theorem singlePhase_tempo : TinfoSinglePhase tinfoItemsTempo := by
  refine ⟨rfl, by decide, ?_⟩
  intro before item after option split isTariff
  rcases before with _ | ⟨address, _ | ⟨optarif, before⟩⟩
  · cases (List.cons.inj split).1
    cases isTariff
  · cases (List.cons.inj (List.cons.inj split).2).1
    cases isTariff
  · have second := (List.cons.inj (List.cons.inj split).2).1
    have others : tinfoItemsTempo.drop 2 = before ++ item :: after := by rw [split]; rfl
    refine ⟨optarif, by simp, ?_⟩
    rw [← second]
    refine ⟨rfl, ?_⟩
    have item_mem : item ∈ before ++ item :: after := by simp
    rw [← others] at item_mem
    rcases List.mem_cons.mp item_mem with rfl | last
    · cases isTariff
      decide
    · rw [List.mem_singleton.mp last] at isTariff
      cases isTariff

theorem tinfoDecodes_tempo : TinfoDecodes 0x20 tinfoItemsTempo tinfoReceivedTempo :=
  tinfoDecodes (Or.inl rfl) singlePhase_tempo
    (tinfoFresh_received _ (fun _ => rfl) (by decide +kernel))

end Sysio.Tinfo
