import Sysio.Tinfo.Decoding

/-!
# Three-phase frames

A three-phase meter numbers its phases in the last character of the label. The decoders look for
the number in the data instead: behind the three digits of an intensity they find the checksum or
the CR. A full frame is hence taken for a single-phase one. Of a short frame, no intensity is
stored, and a warning is stored for the phase that its checksum spells, if any
(`tinfoPhasesDecoded_iff`).
-/

namespace Sysio.Tinfo

/-- The labels of frames with phases. -/
inductive TinfoPhaseLabel where
  /-- A label that single-phase frames have too. -/
  | common (label : TinfoLabel)
  | iinst (phase : Fin 3)
  | imax (phase : Fin 3)
  | adir (phase : Fin 3)
  | pmax
  | ppot
deriving DecidableEq

/-- The digit of a phase. -/
def tinfoPhaseDigit (phase : Fin 3) : UInt8 := 0x31 + UInt8.ofNat phase.val

namespace TinfoPhaseLabel

/-- The label as it is sent. -/
def text : TinfoPhaseLabel → List UInt8
  | .common label => label.text
  | .iinst phase => ascii "IINST" ++ [tinfoPhaseDigit phase]
  | .imax phase => ascii "IMAX" ++ [tinfoPhaseDigit phase]
  | .adir phase => ascii "ADIR" ++ [tinfoPhaseDigit phase]
  | .pmax => ascii "PMAX"
  | .ppot => ascii "PPOT"

/-- The data is as the label wants it. -/
def Format (data : List UInt8) : TinfoPhaseLabel → Prop
  | .common label => label.Format data
  | .iinst _ => TinfoDigits 10 3 data
  | .imax _ => TinfoDigits 10 3 data
  | .adir _ => TinfoDigits 10 3 data
  | .pmax => TinfoDigits 10 5 data
  | .ppot => TinfoDigits 16 2 data

/-- The label is that of a warning. -/
def warns : TinfoPhaseLabel → Bool
  | .adir _ => true
  | _ => false

end TinfoPhaseLabel

/-- The item of a group, which has the right checksum. -/
structure TinfoPhaseItem where
  label : TinfoPhaseLabel
  data : List UInt8
  format : label.Format data

namespace TinfoPhaseItem

/-- The bytes that the checksum covers. -/
def body (item : TinfoPhaseItem) (sep : UInt8) : List UInt8 := item.label.text ++ sep :: item.data

/-- The checksum. -/
def check (item : TinfoPhaseItem) (sep : UInt8) : UInt8 :=
  (TinfoGroup.sumOf (item.body sep) 0 &&& 0x3F) + 0x20

/-- The bytes of the group on the line. -/
def bytes (item : TinfoPhaseItem) (sep : UInt8) : List UInt8 :=
  lf :: (item.body sep ++ [sep, item.check sep, cr])

end TinfoPhaseItem

/-- The bytes of the frame on the line. -/
def tinfoPhaseLine (sep : UInt8) (items : List TinfoPhaseItem) : List UInt8 :=
  stx :: (items.flatMap (TinfoPhaseItem.bytes · sep) ++ [etx])

/-- A full frame: the address first, all groups of the three phases, and those before the power
and the potentials. -/
structure TinfoFullFrame (items : List TinfoPhaseItem) : Prop where
  address : items.head?.map TinfoPhaseItem.label = some (.common .adco)
  once : (items.map TinfoPhaseItem.label).Nodup
  announced : ∀ before item after label option, items = before ++ item :: after →
    item.label = .common label → label.option = some option →
      ∃ other ∈ before, other.label = .common .optarif ∧
        TinfoOption.announced other.data = some option
  phases : ∀ phase, (∃ item ∈ items, item.label = .iinst phase) ∧
    ∃ item ∈ items, item.label = .imax phase
  power : (∃ item ∈ items, item.label = .pmax) ∧ ∃ item ∈ items, item.label = .ppot
  ordered : ∀ before item after, items = before ++ item :: after →
    item.label = .pmax ∨ item.label = .ppot →
      ∀ other ∈ after, ∀ phase, other.label ≠ .iinst phase ∧ other.label ≠ .imax phase
  others : ∀ item ∈ items, item.label.warns = false ∧ item.label ≠ .common .iinst ∧
    item.label ≠ .common .imax ∧ item.label ≠ .common .adps

/-- A short frame: warnings for some phases, the address, and intensities. -/
structure TinfoShortFrame (items : List TinfoPhaseItem) : Prop where
  begins : ∃ warnings others, items = warnings ++ others ∧ warnings ≠ [] ∧
    (∀ item ∈ warnings, item.label.warns = true) ∧
    ∀ item ∈ others, item.label = .common .adco ∨ ∃ phase, item.label = .iinst phase
  once : (items.map TinfoPhaseItem.label).Nodup
  address : ∃ item ∈ items, item.label = .common .adco

/-! ### What the handlers should see -/

/-- `blue_short.iinst`. -/
def XTinfoFrame.shortIinst (f : XTinfoFrame) : Vector UInt32 3 := #v[f.ptec, f.isousc, f.nph]

/-- What the handlers of a full frame should see. -/
structure TinfoShowsFull (items : List TinfoPhaseItem) (f : XTinfoFrame) : Prop where
  nph : f.nph = 3
  iinst : ∀ item ∈ items, ∀ phase, item.label = .iinst phase →
    (f.iinst.get phase).toNat = strtolNumber 10 item.data
  imax : ∀ item ∈ items, ∀ phase, item.label = .imax phase →
    (f.imax.get phase).toNat = strtolNumber 10 item.data
  pmax : ∀ item ∈ items, item.label = .pmax → f.pmax.toNat = strtolNumber 10 item.data
  ppot : ∀ item ∈ items, item.label = .ppot → f.ppot.toNat = strtolNumber 16 item.data
  adco : ∀ item ∈ items, item.label = .common .adco → f.adco.toNat = strtolNumber 10 item.data

/-- The members of `blue_short`: its `nph` lies where the option is, its `adir` where the
intensities of `blue` are. -/
structure TinfoShowsShort (items : List TinfoPhaseItem) (f : XTinfoFrame) : Prop where
  nph : f.optarif = 3
  iinst : ∀ item ∈ items, ∀ phase, item.label = .iinst phase →
    (f.shortIinst.get phase).toNat = strtolNumber 10 item.data
  adir : ∀ item ∈ items, ∀ phase, item.label = .adir phase →
    (f.iinst.get phase).toNat = strtolNumber 10 item.data
  adco : ∀ item ∈ items, item.label = .common .adco → f.adco.toNat = strtolNumber 10 item.data

/-- The frame reaches handlers, and these are given the values of its groups. -/
def TinfoPhasesDecoded (items : List TinfoPhaseItem) (t : XTinfo) : Prop :=
  ∃ ret next calls, prviProbeFrame t = .ok (ret, next) ∧ next.called = t.called ++ calls ∧
    calls ≠ [] ∧ ∀ call ∈ calls,
      (TinfoFullFrame items → TinfoShowsFull items call.2) ∧
        (TinfoShortFrame items → TinfoShowsShort items call.2)

/-- What the last warning says whose checksum is the digit of the phase, 0 if there is none. -/
def tinfoWarning (sep : UInt8) (phase : Fin 3) (items : List TinfoPhaseItem) : ℕ :=
  items.foldl (fun value item =>
    if item.label.warns = true ∧ item.check sep = tinfoPhaseDigit phase then
      strtolNumber 10 item.data
    else value) 0

/-- The warnings are those of the phases that their checksums spell, and no current flows. -/
structure TinfoReadable (sep : UInt8) (items : List TinfoPhaseItem) : Prop where
  warnings : ∀ item ∈ items, ∀ phase, item.label = .adir phase →
    tinfoWarning sep phase items = strtolNumber 10 item.data
  currents : ∀ item ∈ items, ∀ phase, item.label = .iinst phase → strtolNumber 10 item.data = 0

/-! ### Groups -/

theorem phaseText_plain (label : TinfoPhaseLabel) :
    label.text ≠ [] ∧ ∀ c ∈ label.text, TinfoPlain c ∧ c ≠ 0x20 ∧ c ≠ 0x09 := by
  cases label
  case common label => exact text_plain label
  case pmax | ppot => exact plain_of_all (by decide +kernel) (by decide +kernel)
  all_goals
    rename_i phase
    fin_cases phase <;> exact plain_of_all (by decide +kernel) (by decide +kernel)

theorem TinfoSeparator.plain {sep : UInt8} (isSep : TinfoSeparator sep) : TinfoPlain sep := by
  rcases isSep with rfl | rfl <;> decide

theorem phaseText_ne_sep {sep : UInt8} (isSep : TinfoSeparator sep) (label : TinfoPhaseLabel) :
    ∀ c ∈ label.text, c ≠ sep := by
  intro c c_mem
  rcases isSep with rfl | rfl
  · exact ((phaseText_plain label).2 c c_mem).2.1
  · exact ((phaseText_plain label).2 c c_mem).2.2

namespace TinfoPhaseItem

theorem data_plain (item : TinfoPhaseItem) : ∀ c ∈ item.data, TinfoPlain c := by
  have format := item.format
  cases label : item.label <;> rw [label] at format
  case common shared =>
    exact TinfoItem.data_plain ⟨shared, item.data, 0x20, format, by decide, by decide⟩
  all_goals exact format.plain (by decide)

/-- The group of an item. -/
def group {sep : UInt8} (isSep : TinfoSeparator sep) (item : TinfoPhaseItem) : TinfoGroup where
  label := item.label.text
  sep := sep
  data := item.data
  label_ne := (phaseText_plain item.label).1
  label_plain := fun c c_mem => ((phaseText_plain item.label).2 c c_mem).1
  label_ne_sep := phaseText_ne_sep isSep item.label
  sep_plain := isSep.plain
  data_plain := item.data_plain

end TinfoPhaseItem

section Frame

variable {sep : UInt8} (isSep : TinfoSeparator sep) {items : List TinfoPhaseItem} (time : UInt64)

theorem phaseLine_eq :
    tinfoPhaseLine sep items =
      stx :: ((items.map (TinfoPhaseItem.group isSep)).flatMap TinfoGroup.bytes ++ [etx]) := by
  rw [tinfoPhaseLine, List.flatMap_map]
  rfl

theorem separated_phaseGroups (items : List TinfoPhaseItem) :
    ∀ g ∈ items.map (TinfoPhaseItem.group isSep),
      g.sep = tinfoSeparator 0 (items.map (TinfoPhaseItem.group isSep)) := by
  intro g g_mem
  rcases List.mem_map.mp g_mem with ⟨item, _, rfl⟩
  cases items with
  | nil => simp at g_mem
  | cons first rest => rfl

/-! ### Full frames -/

/-- The data of an intensity has no place for a phase. -/
theorem length_data_le (item : TinfoPhaseItem)
    (intensity : item.label.text.take 5 = ascii "IINST" ∨ item.label.text.take 4 = ascii "IMAX") :
    item.data.length ≤ 4 := by
  have three (digits : TinfoDigits 10 3 item.data) : item.data.length ≤ 4 := by
    rw [digits.1]
    decide
  have format := item.format
  cases label : item.label <;> rw [label] at format intensity
  case iinst | imax => exact three format
  case common shared =>
    cases shared
    case iinst | imax => exact three format
    case index option number =>
      cases option <;> fin_cases number <;> exact absurd intensity (by decide)
    all_goals exact absurd intensity (by decide)
  case adir phase => fin_cases phase <;> exact absurd intensity (by decide)
  all_goals exact absurd intensity (by decide)

/-- No group makes a full frame three-phase. -/
theorem threePhase_read {v : TinfoCarried} (single : v.threePhase = false) (item : TinfoPhaseItem) :
    (v.read item.label.text item.data).threePhase = false := by
  have short (bound : ℕ) (few : item.data.length ≤ bound) :
      (v.readPhase item.data bound).threePhase = false := by
    rw [TinfoCarried.readPhase, if_neg (by omega)]
    split
    · exact single
    · rfl
  have fits := length_data_le item
  rw [TinfoCarried.read]
  split_ifs with _ _ iinst imax
  · rw [TinfoCarried.readOpTarif]
    split_ifs <;> exact single
  · split <;> exact single
  · exact short 5 ((fits (Or.inl iinst)).trans (by decide))
  · exact short 4 (fits (Or.inr imax))
  · split <;> exact single
  · split <;> exact single
  · rw [TinfoCarried.readColor]
    split_ifs
    · split <;> exact single
    · exact single

theorem threePhase_foldl {v : TinfoCarried} (single : v.threePhase = false)
    (later : List TinfoPhaseItem) :
    ((later.map (TinfoPhaseItem.group isSep)).foldl
      (fun v g => v.read g.label g.data) v).threePhase = false := by
  induction later generalizing v with
  | nil => exact single
  | cons item later ih => exact ih (threePhase_read single item)

/-- A full frame is read as a single-phase one. -/
theorem nph_tinfoRead (full : TinfoFullFrame items) (rest : List UInt8) :
    (tinfoRead time .zeroed (items.map (TinfoPhaseItem.group isSep)) rest).nph ≠ 3 := by
  rcases items with _ | ⟨address, later⟩
  · exact absurd full.address (by simp)
  have label : address.label = .common .adco := by simpa using full.address
  have format := address.format
  rw [label] at format
  let groups := later.map (TinfoPhaseItem.group isSep)
  let opened : XTinfoFrame := { XTinfoFrame.zeroed with
    frame := eTinfoFrameBlue, adco := .ofInt (strtolNumber 10 address.data), time := time }
  have read (behind : List UInt8) :
      tinfoReadSeparated time .zeroed address.label.text (address.data ++ 0 :: behind) =
        opened := by
    rw [label]
    exact XTinfoFrame.withLong_digits format (by decide) (by decide) (by decide) .zeroed behind _
  have run : tinfoRead time .zeroed ((address :: later).map (TinfoPhaseItem.group isSep)) rest =
      tinfoRead time opened groups rest := by
    rw [List.map_cons, tinfoRead]
    exact congrArg (tinfoRead time · groups rest) (read _)
  have full : opened.kind = (eTinfoFrameBlue, 0) := by
    refine Prod.ext rfl ?_
    change (0 : UInt32) &&& eTinfoFlagShort = 0
    decide
  have carried := (carried_tinfoRead time full groups rest).1
  have unread : opened.carried.threePhase = false := by
    change decide ((0 : UInt32) = 3) = false
    decide
  have single := threePhase_foldl isSep unread later
  rw [run]
  intro three
  rw [← carried] at single
  exact of_decide_eq_false single three

/-! ### Short frames -/

/-- The phase that a checksum spells. -/
theorem tinfoPhase_check {raw : List UInt8} {index : ℕ} {check : UInt8}
    (found : raw.getD index 0 = check) (phase : Fin 3) :
    tinfoPhase raw index = some phase ↔ check = tinfoPhaseDigit phase := by
  have bytes : ∀ c : UInt8, ∀ phase : Fin 3,
      tinfoPhase [c] 0 = some phase ↔ c = tinfoPhaseDigit phase := by
    decide +kernel
  rw [← bytes, tinfoPhase, tinfoPhase, found]
  rfl

/-- A short frame after the items `done`. -/
structure TinfoShortRead (sep : UInt8) (done : List TinfoPhaseItem) (f : XTinfoFrame) : Prop where
  blue : f.frame = eTinfoFrameBlue
  short : f.flag &&& eTinfoFlagShort ≠ 0
  nph : f.optarif = 3
  iinst : f.shortIinst = Vector.replicate 3 0
  adir : ∀ phase, (f.iinst.get phase).toNat = tinfoWarning sep phase done
  adco : ∀ item ∈ done, item.label = .common .adco → f.adco.toNat = strtolNumber 10 item.data

theorem tinfoWarning_concat (phase : Fin 3) (done : List TinfoPhaseItem) (item : TinfoPhaseItem) :
    tinfoWarning sep phase (done ++ [item]) =
      if item.label.warns = true ∧ item.check sep = tinfoPhaseDigit phase then
        strtolNumber 10 item.data
      else tinfoWarning sep phase done := by
  simp [tinfoWarning]

theorem take_text_adir (phase : Fin 3) :
    (TinfoPhaseLabel.adir phase).text.take 4 = ascii "ADIR" := by
  fin_cases phase <;> rfl

theorem take_text_iinst (phase : Fin 3) :
    (TinfoPhaseLabel.iinst phase).text.take 4 ≠ ascii "ADIR" ∧
      (TinfoPhaseLabel.iinst phase).text ≠ ascii "ADCO" ∧
      (TinfoPhaseLabel.iinst phase).text.take 5 = ascii "IINST" := by
  fin_cases phase <;> decide

namespace TinfoShortRead

variable {done : List TinfoPhaseItem} {f : XTinfoFrame} {item : TinfoPhaseItem}

theorem mem_of_concat (other : item.label ≠ .common .adco) {address : TinfoPhaseItem}
    (address_mem : address ∈ done ++ [item]) (isAddress : address.label = .common .adco) :
    address ∈ done := by
  rcases List.mem_append.mp address_mem with before | last
  · exact before
  · exact absurd (List.mem_singleton.mp last ▸ isAddress) other

/-- A warning is stored for the phase that its checksum spells. -/
theorem warning (isShort : TinfoShortRead sep done f) {phase : Fin 3}
    (label : item.label = .adir phase) (rest : List UInt8) :
    TinfoShortRead sep (done ++ [item])
      (prvvReadBlueShortItem f item.label.text ((item.group isSep).rawData rest)) := by
  have format := item.format
  rw [label] at format
  have number := strtolNumber_lt format.2
  rw [format.1] at number
  have warns : item.label.warns = true := by rw [label]; rfl
  have notAddress : item.label ≠ .common .adco := by
    rw [label]
    simp
  have three : (item.group isSep).data.length = 3 := format.1
  have spelled : ((item.group isSep).rawData rest).getD 4 0 = item.check sep := by
    rw [TinfoGroup.rawData, List.getD_append_right _ _ _ _ (by omega), three]
    rfl
  have phase_iff := tinfoPhase_check spelled
  have read : prvvReadBlueShortItem f item.label.text ((item.group isSep).rawData rest) =
      (tinfoPhase ((item.group isSep).rawData rest) 4).elim f
        fun phi => f.setShortAdir phi (.ofInt (strtolNumber 10 item.data)) := by
    rw [prvvReadBlueShortItem, label, if_pos (take_text_adir phase)]
    refine (XTinfoFrame.withLong_digits format (by decide) (by decide) (by decide) f _ _).trans ?_
    rcases tinfoPhase ((item.group isSep).rawData rest) 4 with _ | phi <;> rfl
  rw [read]
  rcases spells : tinfoPhase ((item.group isSep).rawData rest) 4 with _ | phi
  · refine ⟨isShort.blue, isShort.short, isShort.nph, isShort.iinst, ?_, ?_⟩
    · intro other
      have silent : item.check sep ≠ tinfoPhaseDigit other := by
        intro same
        rw [(phase_iff other).mpr same] at spells
        cases spells
      rw [tinfoWarning_concat, if_neg fun both => silent both.2]
      exact isShort.adir other
    · intro other other_mem isAddress
      exact isShort.adco other (mem_of_concat notAddress other_mem isAddress) isAddress
  · refine ⟨isShort.blue, isShort.short, isShort.nph, isShort.iinst, ?_, ?_⟩
    · intro other
      have stored : ((f.setShortAdir phi (.ofInt (strtolNumber 10 item.data))).iinst.get other) =
          if phi = other then .ofInt (strtolNumber 10 item.data) else f.iinst.get other := by
        change (f.iinst.set phi (.ofInt (strtolNumber 10 item.data)))[other.val] = _
        rw [Vector.getElem_set]
        simp only [Fin.ext_iff]
        rfl
      rw [Option.elim_some, stored, tinfoWarning_concat]
      by_cases own : phi = other
      · subst own
        rw [if_pos rfl, if_pos ⟨warns, (phase_iff phi).mp spells⟩]
        exact toNat_ofInt32 (by omega)
      · have silent : item.check sep ≠ tinfoPhaseDigit other := by
          intro same
          rw [(phase_iff other).mpr same] at spells
          exact own (Option.some.inj spells).symm
        rw [if_neg own, if_neg fun both => silent both.2]
        exact isShort.adir other
    · intro other other_mem isAddress
      exact isShort.adco other (mem_of_concat notAddress other_mem isAddress) isAddress

/-- No intensity is stored: the CR is not the number of a phase. -/
theorem current (isShort : TinfoShortRead sep done f) {phase : Fin 3}
    (label : item.label = .iinst phase) (rest : List UInt8) :
    TinfoShortRead sep (done ++ [item])
      (prvvReadBlueShortItem f item.label.text ((item.group isSep).rawData rest)) := by
  have format := item.format
  rw [label] at format
  have quiet : ¬item.label.warns = true := by
    rw [label]
    exact Bool.false_ne_true
  have three : (item.group isSep).data.length = 3 := format.1
  have mark : ((item.group isSep).rawData rest).getD 5 0 = cr := by
    rw [TinfoGroup.rawData, List.getD_append_right _ _ _ _ (by omega), three]
    rfl
  have none_ : tinfoPhase ((item.group isSep).rawData rest) 5 = none := by
    rw [tinfoPhase, mark]
    rfl
  have read : prvvReadBlueShortItem f item.label.text ((item.group isSep).rawData rest) =
      (tinfoPhase ((item.group isSep).rawData rest) 5).elim f
        fun phi => f.setShortIinst phi (.ofInt (strtolNumber 10 item.data)) := by
    rcases take_text_iinst phase with ⟨notAdir, notAdco, isIinst⟩
    rw [prvvReadBlueShortItem, label, if_neg notAdir, if_neg notAdco, if_pos isIinst]
    refine (XTinfoFrame.withLong_digits format (by decide) (by decide) (by decide) f _ _).trans ?_
    rcases tinfoPhase ((item.group isSep).rawData rest) 5 with _ | phi <;> rfl
  rw [read, none_, Option.elim_none]
  refine ⟨isShort.blue, isShort.short, isShort.nph, isShort.iinst, ?_, ?_⟩
  · intro other
    rw [tinfoWarning_concat, if_neg fun both => quiet both.1]
    exact isShort.adir other
  · have notAddress : item.label ≠ .common .adco := by
      rw [label]
      simp
    intro other other_mem isAddress
    exact isShort.adco other (mem_of_concat notAddress other_mem isAddress) isAddress

theorem address (isShort : TinfoShortRead sep done f) (label : item.label = .common .adco)
    (first : ∀ other ∈ done, other.label ≠ .common .adco) (rest : List UInt8) :
    TinfoShortRead sep (done ++ [item])
      (prvvReadBlueShortItem f item.label.text ((item.group isSep).rawData rest)) := by
  have format := item.format
  rw [label] at format
  have number := strtolNumber_lt format.2
  rw [format.1] at number
  have quiet : ¬item.label.warns = true := by
    rw [label]
    exact Bool.false_ne_true
  have read : prvvReadBlueShortItem f item.label.text ((item.group isSep).rawData rest) =
      { f with adco := .ofInt (strtolNumber 10 item.data) } := by
    rw [label]
    exact XTinfoFrame.withLong_digits format (by decide) (by decide) (by decide) f _ _
  rw [read]
  refine ⟨isShort.blue, isShort.short, isShort.nph, isShort.iinst, ?_, ?_⟩
  · intro other
    rw [tinfoWarning_concat, if_neg fun both => quiet both.1]
    exact isShort.adir other
  · intro other other_mem isAddress
    rcases List.mem_append.mp other_mem with before | last
    · exact absurd isAddress (first other before)
    · rw [List.mem_singleton.mp last]
      exact toNat_ofInt64 (by omega)

/-- The groups behind the first are read one after the other. -/
theorem readAll (isShort : TinfoShortRead sep done f) {later : List TinfoPhaseItem}
    (kinds : ∀ item ∈ later, item.label.warns = true ∨ item.label = .common .adco ∨
      ∃ phase, item.label = .iinst phase)
    (once : ((done ++ later).map TinfoPhaseItem.label).Nodup) (rest : List UInt8) :
    TinfoShortRead sep (done ++ later)
      (tinfoRead time f (later.map (TinfoPhaseItem.group isSep)) rest) := by
  induction later generalizing done f with
  | nil => simpa [tinfoRead] using isShort
  | cons item later ih =>
      have read (raw : List UInt8) : tinfoReadSeparated time f item.label.text raw =
          prvvReadBlueShortItem f item.label.text raw := by
        have notFirst : f.frame ≠ 0 := by
          rw [isShort.blue]
          decide
        rw [tinfoReadSeparated, if_neg notFirst, if_pos isShort.blue, if_pos isShort.short]
      have next (behind : List UInt8) : TinfoShortRead sep (done ++ [item])
          (prvvReadBlueShortItem f item.label.text ((item.group isSep).rawData behind)) := by
        rcases kinds item (by simp) with warns | isAddress | ⟨phase, isCurrent⟩
        · cases label : item.label <;> rw [label] at warns
          case adir phase =>
            rw [← label]
            exact isShort.warning isSep label behind
          all_goals cases warns
        · refine isShort.address isSep isAddress ?_ behind
          intro other other_mem isAddressToo
          rw [List.map_append, List.nodup_append] at once
          refine once.2.2 _ (List.mem_map_of_mem other_mem) item.label (by simp) ?_
          rw [isAddressToo, isAddress]
        · exact isShort.current isSep isCurrent behind
      rw [List.map_cons, tinfoRead]
      have split : done ++ item :: later = (done ++ [item]) ++ later := by simp
      rw [split] at once ⊢
      have one := next ((later.map (TinfoPhaseItem.group isSep)).flatMap TinfoGroup.bytes ++ rest)
      rw [← read] at one
      exact ih one (fun other other_mem => kinds other (by simp [other_mem])) once

end TinfoShortRead

/-- A short frame leaves no intensity, and the warnings that the checksums place. -/
theorem shortRead_tinfoRead (short : TinfoShortFrame items) (rest : List UInt8) :
    TinfoShortRead sep items
      (tinfoRead time .zeroed (items.map (TinfoPhaseItem.group isSep)) rest) := by
  rcases short.begins with ⟨warnings, others, rfl, warned, warns, kinds⟩
  rcases warnings with _ | ⟨first, warnings⟩
  · exact absurd rfl warned
  let opened : XTinfoFrame :=
    { XTinfoFrame.zeroed with
      frame := eTinfoFrameBlue
      time := time
      flag := XTinfoFrame.zeroed.flag ||| (eTinfoFlagShort ||| eTinfoFlagAdps) }.setShortNph 3
  have begun : TinfoShortRead sep [] opened := by
    have flagged : (0 ||| (eTinfoFlagShort ||| eTinfoFlagAdps)) &&& eTinfoFlagShort ≠ 0 := by decide
    refine ⟨rfl, flagged, rfl, rfl, ?_, by simp⟩
    intro phase
    change ((Vector.replicate 3 (0 : UInt32))[phase.val]).toNat = 0
    rw [Vector.getElem_replicate]
    rfl
  have isWarning := warns first (by simp)
  cases label : first.label <;> rw [label] at isWarning
  case adir phase =>
    have read (raw : List UInt8) : tinfoReadSeparated time .zeroed first.label.text raw =
        prvvReadBlueShortItem opened first.label.text raw := by
      have notAddress : first.label.text ≠ ascii "ADCO" := by
        rw [label]
        fin_cases phase <;> decide
      have isAdir : first.label.text.take 4 = ascii "ADIR" := by
        rw [label]
        exact take_text_adir phase
      have unread : XTinfoFrame.zeroed.frame = 0 := rfl
      rw [tinfoReadSeparated, if_pos unread, if_neg notAddress, if_pos isAdir]
    have one := begun.warning isSep label
      (((warnings ++ others).map (TinfoPhaseItem.group isSep)).flatMap TinfoGroup.bytes ++ rest)
    rw [← read] at one
    have kindsAll : ∀ item ∈ warnings ++ others, item.label.warns = true ∨
        item.label = .common .adco ∨ ∃ phase, item.label = .iinst phase := by
      intro item item_mem
      rcases List.mem_append.mp item_mem with inWarnings | inOthers
      · exact Or.inl (warns item (by simp [inWarnings]))
      · exact Or.inr (kinds item inOthers)
    exact one.readAll isSep time kindsAll short.once rest
  all_goals cases isWarning

/-! ### What the handlers see -/

theorem not_shortFrame (full : TinfoFullFrame items) : ¬TinfoShortFrame items := by
  intro short
  rcases short.begins with ⟨warnings, others, rfl, warned, warns, _⟩
  rcases warnings with _ | ⟨first, warnings⟩
  · exact warned rfl
  have isAddress : first.label = .common .adco := by simpa using full.address
  have isWarning := warns first (by simp)
  rw [isAddress] at isWarning
  cases isWarning

theorem TinfoShortRead.shows_iff {f g : XTinfoFrame} (isShort : TinfoShortRead sep items f)
    (same : { g with flag := f.flag } = f) :
    TinfoShowsShort items g ↔ TinfoReadable sep items := by
  rw [← same] at isShort
  have dark (phase : Fin 3) : (g.shortIinst.get phase).toNat = 0 := by
    have zero : g.shortIinst = Vector.replicate 3 0 := isShort.iinst
    rw [zero]
    change ((Vector.replicate 3 (0 : UInt32))[phase.val]).toNat = 0
    rw [Vector.getElem_replicate]
    rfl
  constructor
  · intro shown
    refine ⟨?_, ?_⟩
    · intro item item_mem phase label
      exact (isShort.adir phase).symm.trans (shown.adir item item_mem phase label)
    · intro item item_mem phase label
      exact (shown.iinst item item_mem phase label).symm.trans (dark phase)
  · intro readable
    refine ⟨isShort.nph, ?_, ?_, isShort.adco⟩
    · intro item item_mem phase label
      rw [dark, readable.currents item item_mem phase label]
    · intro item item_mem phase label
      exact (isShort.adir phase).trans (readable.warnings item item_mem phase label)

/-- The frame that the handlers are given is the one that the groups leave, up to its flags. -/
theorem phasesDecoded_iff_of_read {t : XTinfo}
    (fresh : TinfoFresh t (tinfoPhaseLine sep items)) {f : XTinfoFrame}
    (read : tinfoRead t.time .zeroed (items.map (TinfoPhaseItem.group isSep))
      t.behindGroups = f) {shown : Prop}
    (shows_iff : ∀ g : XTinfoFrame, { g with flag := f.flag } = f →
      ((TinfoFullFrame items → TinfoShowsFull items g) ∧
        (TinfoShortFrame items → TinfoShowsShort items g) ↔ shown)) :
    TinfoPhasesDecoded items t ↔ shown := by
  rw [phaseLine_eq isSep] at fresh
  rcases TinfoFresh.exists_calls (separated_phaseGroups isSep items) fresh read with
    ⟨ret, next, calls, probe, called, some, given⟩
  constructor
  · rintro ⟨_, _, others, probeToo, calledToo, _, decoded⟩
    rw [probe] at probeToo
    cases probeToo
    have same := List.append_cancel_left (called.symm.trans calledToo)
    subst same
    rcases List.exists_mem_of_ne_nil calls some with ⟨call, call_mem⟩
    exact (shows_iff call.2 (given call call_mem)).mp (decoded call call_mem)
  · intro isShown
    refine ⟨ret, next, calls, probe, called, some, ?_⟩
    intro call call_mem
    exact (shows_iff call.2 (given call call_mem)).mpr isShown

include isSep in
/-- A full frame is never decoded: it has three phases, and is read as having one. -/
theorem not_phasesDecoded_of_full {t : XTinfo} (full : TinfoFullFrame items)
    (fresh : TinfoFresh t (tinfoPhaseLine sep items)) : ¬TinfoPhasesDecoded items t := by
  have never : TinfoPhasesDecoded items t ↔ False := by
    refine phasesDecoded_iff_of_read isSep fresh rfl fun g same => ?_
    have single := nph_tinfoRead isSep t.time full t.behindGroups
    rw [← same] at single
    exact iff_of_false (fun decoded => single (decoded.1 full).nph) id
  exact never.mp

include isSep in
theorem phasesDecoded_iff_of_short {t : XTinfo} (short : TinfoShortFrame items)
    (fresh : TinfoFresh t (tinfoPhaseLine sep items)) :
    TinfoPhasesDecoded items t ↔ TinfoReadable sep items := by
  refine phasesDecoded_iff_of_read isSep fresh rfl fun g same => ?_
  have isShort := shortRead_tinfoRead isSep t.time short t.behindGroups
  rw [← isShort.shows_iff same]
  constructor
  · exact fun decoded => decoded.2 short
  · exact fun shown => ⟨fun full => absurd short (not_shortFrame full), fun _ => shown⟩

/-- The handlers are given what a three-phase frame says if and only if it is a short one, with
warnings that their checksums put into the right places and without currents. -/
theorem tinfoPhasesDecoded_iff {t : XTinfo} (isSep : TinfoSeparator sep)
    (wellFormed : TinfoFullFrame items ∨ TinfoShortFrame items)
    (fresh : TinfoFresh t (tinfoPhaseLine sep items)) :
    TinfoPhasesDecoded items t ↔ TinfoShortFrame items ∧ TinfoReadable sep items := by
  rcases wellFormed with full | short
  · exact iff_of_false (not_phasesDecoded_of_full isSep full fresh)
      fun both => not_shortFrame full both.1
  · rw [phasesDecoded_iff_of_short isSep short fresh]
    exact (and_iff_right short).symm

/-- An item whose data is given by a string. -/
def tinfoPhaseItem (label : TinfoPhaseLabel) (data : String) (format : label.Format (ascii data)) :
    TinfoPhaseItem :=
  ⟨label, ascii data, format⟩

/-- The context with the whole frame in its buffer, and with all its handlers. -/
def tinfoReceivedPhases (items : List TinfoPhaseItem) : XTinfo :=
  { tinfoReceived (items.flatMap (TinfoPhaseItem.bytes · 0x20)) with
    cb := fun _ => some fun _ _ => 0 }

theorem first_lt : 0 < 3 := by decide

theorem second_lt : 1 < 3 := by decide

theorem third_lt : 2 < 3 := by decide

theorem digits_address : TinfoDigits 10 12 (ascii "020406080910") := by decide +kernel

/-- A warning of 88 A on the first phase, and no current there. -/
def tinfoItemsWarned : List TinfoPhaseItem :=
  [tinfoPhaseItem (.adir ⟨0, first_lt⟩) "088" (by decide +kernel : TinfoDigits 10 3 (ascii "088")),
    tinfoPhaseItem (.common .adco) "020406080910" digits_address,
    tinfoPhaseItem (.iinst ⟨0, first_lt⟩) "000"
      (by decide +kernel : TinfoDigits 10 3 (ascii "000"))]

theorem shortFrame_warned : TinfoShortFrame tinfoItemsWarned := by
  refine ⟨⟨tinfoItemsWarned.take 1, tinfoItemsWarned.drop 1, rfl, by simp [tinfoItemsWarned], ?_,
    ?_⟩, by decide, ⟨_, List.mem_cons_of_mem _ (List.mem_cons_self ..), rfl⟩⟩
  · intro item item_mem
    rw [List.mem_singleton.mp item_mem]
    rfl
  · intro item item_mem
    rcases List.mem_cons.mp item_mem with rfl | last
    · exact Or.inl rfl
    · rw [List.mem_singleton.mp last]
      exact Or.inr ⟨0, rfl⟩

theorem tinfoPhasesDecoded_iff_warned :
    TinfoPhasesDecoded tinfoItemsWarned (tinfoReceivedPhases tinfoItemsWarned) ↔
      TinfoShortFrame tinfoItemsWarned ∧ TinfoReadable 0x20 tinfoItemsWarned :=
  tinfoPhasesDecoded_iff (Or.inl rfl) (Or.inr shortFrame_warned)
    (tinfoFresh_received _ (fun _ => rfl) (by decide +kernel))

/-- A full frame with all groups of its three phases. -/
def tinfoItemsPhases : List TinfoPhaseItem :=
  [tinfoPhaseItem (.common .adco) "020406080910" digits_address,
    tinfoPhaseItem (.iinst ⟨0, first_lt⟩) "001"
      (by decide +kernel : TinfoDigits 10 3 (ascii "001")),
    tinfoPhaseItem (.iinst ⟨1, second_lt⟩) "002"
      (by decide +kernel : TinfoDigits 10 3 (ascii "002")),
    tinfoPhaseItem (.iinst ⟨2, third_lt⟩) "003"
      (by decide +kernel : TinfoDigits 10 3 (ascii "003")),
    tinfoPhaseItem (.imax ⟨0, first_lt⟩) "011"
      (by decide +kernel : TinfoDigits 10 3 (ascii "011")),
    tinfoPhaseItem (.imax ⟨1, second_lt⟩) "012"
      (by decide +kernel : TinfoDigits 10 3 (ascii "012")),
    tinfoPhaseItem (.imax ⟨2, third_lt⟩) "013"
      (by decide +kernel : TinfoDigits 10 3 (ascii "013")),
    tinfoPhaseItem .pmax "07000" (by decide +kernel : TinfoDigits 10 5 (ascii "07000")),
    tinfoPhaseItem .ppot "00" (by decide +kernel : TinfoDigits 16 2 (ascii "00"))]

theorem fullFrame_phases : TinfoFullFrame tinfoItemsPhases := by
  have behind : (tinfoItemsPhases.map TinfoPhaseItem.label).Pairwise fun label other =>
      label = .pmax ∨ label = .ppot → ∀ phase, other ≠ .iinst phase ∧ other ≠ .imax phase := by
    decide
  refine ⟨rfl, by decide, ?_, ?_, ?_, ?_, ?_⟩
  · intro before item after label option split isCommon isTariff
    have item_mem : item ∈ tinfoItemsPhases := by simp [split]
    simp only [tinfoItemsPhases, List.mem_cons, List.not_mem_nil, or_false] at item_mem
    rcases item_mem with rfl | rfl | rfl | rfl | rfl | rfl | rfl | rfl | rfl <;> cases isCommon
    cases isTariff
  · intro phase
    fin_cases phase <;> simp [tinfoItemsPhases, tinfoPhaseItem]
  · simp [tinfoItemsPhases, tinfoPhaseItem]
  · intro before item after split isLast other other_mem
    rw [split, List.map_append, List.map_cons] at behind
    have later := (List.pairwise_cons.mp (List.pairwise_append.mp behind).2.1).1
    exact later other.label (List.mem_map_of_mem other_mem) isLast
  · intro item item_mem
    simp only [tinfoItemsPhases, List.mem_cons, List.not_mem_nil, or_false] at item_mem
    rcases item_mem with rfl | rfl | rfl | rfl | rfl | rfl | rfl | rfl | rfl <;>
      simp [tinfoPhaseItem, TinfoPhaseLabel.warns]

/-- A full frame with different currents in the three phases. -/
theorem not_tinfoPhasesDecoded_phases :
    ¬TinfoPhasesDecoded tinfoItemsPhases (tinfoReceivedPhases tinfoItemsPhases) :=
  not_phasesDecoded_of_full (Or.inl rfl : TinfoSeparator 0x20) fullFrame_phases
    (tinfoFresh_received _ (fun _ => rfl) (by decide +kernel))

end Frame

end Sysio.Tinfo
