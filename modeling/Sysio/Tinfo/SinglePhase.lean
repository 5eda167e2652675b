import Sysio.Tinfo.Dispatch
import Sysio.Tinfo.Groups

/-!
# Single-phase frames

What a full frame of a single-phase meter is, and what it says. An item has a label and data of
the format that the label asks for; a frame has its items in any order, but the address first and
the tariff option before the items that depend on it, and no label twice. What the items say of a
field is `TinfoField.saidBy`, and how a field is read in the union is `XTinfoFrame.get`.
-/

namespace Sysio.Tinfo

/-- The tariff options. -/
inductive TinfoOption where
  | base
  | hc
  | ejp
  | tempo
deriving DecidableEq, Repr

namespace TinfoOption

/-- The number of the option in `optarif`. -/
def code : TinfoOption → UInt32
  | .base => eTinfoOpTarifBase
  | .hc => eTinfoOpTarifHc
  | .ejp => eTinfoOpTarifEjp
  | .tempo => eTinfoOpTarifTempo

/-- The number of indexes of the option. -/
def count : TinfoOption → ℕ
  | .base => 1
  | .hc => 2
  | .ejp => 2
  | .tempo => 6

theorem count_le (option : TinfoOption) : option.count ≤ 6 := by
  cases option <;> decide

theorem code_injective {left right : TinfoOption} (same : left.code = right.code) :
    left = right := by
  cases left <;> cases right <;> first | rfl | exact absurd same (by decide)

/-- The data that announces the option. -/
def announced (data : List UInt8) : Option TinfoOption :=
  if data = ascii "BASE" then some .base
  else if data = ascii "HC.." then some .hc
  else if data = ascii "EJP." then some .ejp
  else if data.take 3 = ascii "BBR" then some .tempo
  else none

end TinfoOption

/-- The labels of a single-phase frame. -/
inductive TinfoLabel where
  | adco
  | optarif
  | isousc
  | ptec
  | papp
  | iinst
  | imax
  | adps
  | motdetat
  | index (option : TinfoOption) (number : Fin option.count)
  | hhphc
  | pejp
  | demain
deriving DecidableEq

/-- The labels of the indexes of an option, in their order. -/
def tinfoIndexLabels : TinfoOption → List String
  | .base => ["BASE"]
  | .hc => ["HCHC", "HCHP"]
  | .ejp => ["EJPHN", "EJPHPM"]
  | .tempo => ["BBRHCJB", "BBRHPJB", "BBRHCJW", "BBRHPJW", "BBRHCJR", "BBRHPJR"]

/-- Data of `count` digits. -/
def TinfoDigits (base count : ℕ) (data : List UInt8) : Prop :=
  data.length = count ∧ ∀ c ∈ data, digitValue c < base

/-- Data of `count` characters. -/
def TinfoLetters (count : ℕ) (data : List UInt8) : Prop :=
  data.length = count ∧ ∀ c ∈ data, TinfoPlain c

instance (base count : ℕ) (data : List UInt8) : Decidable (TinfoDigits base count data) :=
  @instDecidableAnd _ _ _ (List.decidableBAll (fun c => digitValue c < base) data)

instance (count : ℕ) (data : List UInt8) : Decidable (TinfoLetters count data) :=
  @instDecidableAnd _ _ _ (List.decidableBAll TinfoPlain data)

namespace TinfoLabel

/-- The label as it is sent. -/
def text : TinfoLabel → List UInt8
  | .adco => ascii "ADCO"
  | .optarif => ascii "OPTARIF"
  | .isousc => ascii "ISOUSC"
  | .ptec => ascii "PTEC"
  | .papp => ascii "PAPP"
  | .iinst => ascii "IINST"
  | .imax => ascii "IMAX"
  | .adps => ascii "ADPS"
  | .motdetat => ascii "MOTDETAT"
  | .index option number => ascii ((tinfoIndexLabels option).getD number "")
  | .hhphc => ascii "HHPHC"
  | .pejp => ascii "PEJP"
  | .demain => ascii "DEMAIN"

/-- The option that the label belongs to. -/
def option : TinfoLabel → Option TinfoOption
  | .index option _ => some option
  | .hhphc => some .hc
  | .pejp => some .ejp
  | .demain => some .tempo
  | _ => none

/-- The data is as the label wants it. -/
def Format (data : List UInt8) : TinfoLabel → Prop
  | .adco => TinfoDigits 10 12 data
  | .optarif => TinfoLetters 4 data ∧ TinfoOption.announced data ≠ none
  | .isousc => TinfoDigits 10 2 data
  | .ptec => TinfoLetters 4 data
  | .papp => TinfoDigits 10 5 data
  | .iinst => TinfoDigits 10 3 data
  | .imax => TinfoDigits 10 3 data
  | .adps => TinfoDigits 10 3 data
  | .motdetat => TinfoDigits 16 6 data
  | .index _ _ => TinfoDigits 10 9 data
  | .hhphc => TinfoLetters 1 data
  | .pejp => TinfoDigits 10 2 data
  | .demain => TinfoLetters 4 data

end TinfoLabel

/-- The item of a group, with the checksum that came with it. -/
structure TinfoItem where
  label : TinfoLabel
  data : List UInt8
  check : UInt8
  format : label.Format data
  check_ge : 0x20 ≤ check
  check_le : check ≤ 0x5F

namespace TinfoItem

/-- The bytes that the checksum covers. -/
def body (item : TinfoItem) (sep : UInt8) : List UInt8 := item.label.text ++ sep :: item.data

/-- The bytes of the group on the line. -/
def bytes (item : TinfoItem) (sep : UInt8) : List UInt8 :=
  lf :: (item.body sep ++ [sep, item.check, cr])

/-- The checksum is that of the group. -/
def Right (item : TinfoItem) (sep : UInt8) : Prop :=
  item.check = (TinfoGroup.sumOf (item.body sep) 0 &&& 0x3F) + 0x20

end TinfoItem

/-- The bytes of the frame on the line. -/
def tinfoFrameLine (sep : UInt8) (items : List TinfoItem) : List UInt8 :=
  stx :: (items.flatMap (TinfoItem.bytes · sep) ++ [etx])

/-- The address first, no label twice, and the option before what belongs to it. -/
structure TinfoSinglePhase (items : List TinfoItem) : Prop where
  address : items.head?.map TinfoItem.label = some .adco
  once : (items.map TinfoItem.label).Nodup
  announced : ∀ before item after option, items = before ++ item :: after →
    item.label.option = some option →
    ∃ other ∈ before, other.label = .optarif ∧ TinfoOption.announced other.data = some option

/-! ### The fields of the union -/

/-- The fields that a single-phase frame states. -/
inductive TinfoField where
  | adco
  | optarif
  | isousc
  | nph
  | ptec
  | papp
  | iinst
  | imax
  | adps
  | motdetat
  | index (option : TinfoOption) (number : Fin option.count)
  | horaire
  | pejp
  | demain
  | pgm1
  | pgm2

/-- The option that the field belongs to. -/
def TinfoField.option : TinfoField → Option TinfoOption
  | .index option _ => some option
  | .horaire => some .hc
  | .pejp => some .ejp
  | .demain => some .tempo
  | .pgm1 => some .tempo
  | .pgm2 => some .tempo
  | _ => none

/-- The field, as the member of the union that it belongs to is read. -/
def XTinfoFrame.get (f : XTinfoFrame) : TinfoField → ℕ
  | .adco => f.adco.toNat
  | .optarif => f.optarif.toNat
  | .isousc => f.isousc.toNat
  | .nph => f.nph.toNat
  | .ptec => f.ptec.toNat
  | .papp => f.papp.toNat
  | .iinst => f.iinst[0].toNat
  | .imax => f.imax[0].toNat
  | .adps => f.adps.toNat
  | .motdetat => f.motdetat.toNat
  | .index option number => (f.tarif.get (number.castLE option.count_le)).toNat
  | .horaire => f.third.toUInt8.toNat
  | .pejp => f.third.toUInt32.toNat
  | .demain => f.demain.toNat
  | .pgm1 => f.pgm1.toNat
  | .pgm2 => f.pgm2.toNat

/-- The place of a text in a list, from 1 on. -/
def tinfoPlace (list : List (List UInt8)) (text : List UInt8) : Option ℕ :=
  (list.findIdx? (· = text)).map (· + 1)

/-- What an item says of a field. -/
def TinfoField.saidBy (field : TinfoField) (item : TinfoItem) : Option ℕ :=
  match field with
  | .adco => if item.label = .adco then some (strtolNumber 10 item.data) else none
  | .optarif =>
      if item.label = .optarif then
        (TinfoOption.announced item.data).map fun option => option.code.toNat
      else none
  | .isousc => if item.label = .isousc then some (strtolNumber 10 item.data) else none
  | .nph => if item.label = .iinst ∨ item.label = .imax then some 1 else none
  | .ptec => if item.label = .ptec then tinfoPlace sPtecList item.data else none
  | .papp => if item.label = .papp then some (strtolNumber 10 item.data) else none
  | .iinst => if item.label = .iinst then some (strtolNumber 10 item.data) else none
  | .imax => if item.label = .imax then some (strtolNumber 10 item.data) else none
  | .adps => if item.label = .adps then some (strtolNumber 10 item.data) else none
  | .motdetat => if item.label = .motdetat then some (strtolNumber 16 item.data) else none
  | .index option number =>
      if item.label = .index option number then some (strtolNumber 10 item.data) else none
  | .horaire => if item.label = .hhphc then some (item.data.getD 0 0).toNat else none
  | .pejp => if item.label = .pejp then some (strtolNumber 10 item.data) else none
  | .demain => if item.label = .demain then tinfoPlace sTempoColorList item.data else none
  | .pgm1 =>
      if item.label = .optarif ∧ TinfoOption.announced item.data = some .tempo then
        some (((item.data.getD 3 0 &&& 0x18) >>> 3) + 0x40).toNat
      else none
  | .pgm2 =>
      if item.label = .optarif ∧ TinfoOption.announced item.data = some .tempo then
        some ((item.data.getD 3 0 &&& 0x7) + 0x30).toNat
      else none

/-- What the reading of the item writes. -/
def TinfoItem.store (item : TinfoItem) (f : XTinfoFrame) : XTinfoFrame :=
  let number : ℤ := strtolNumber 10 item.data
  match item.label with
  | .adco => f
  | .optarif =>
      match TinfoOption.announced item.data with
      | none => f
      | some .tempo =>
          { f with
            optarif := eTinfoOpTarifTempo
            pgm1 := ((item.data.getD 3 0 &&& 0x18) >>> 3) + 0x40
            pgm2 := (item.data.getD 3 0 &&& 0x7) + 0x30 }
      | some option => { f with optarif := option.code }
  | .isousc => { f with isousc := .ofInt number }
  | .ptec => (tinfoPlace sPtecList item.data).elim f fun ptec => { f with ptec := .ofNat ptec }
  | .papp => { f with papp := .ofInt number, flag := f.flag ||| eTinfoFlagPapp }
  | .iinst => { f with nph := 1 }.setIinst ⟨0, by decide⟩ (.ofInt number)
  | .imax => { f with nph := 1 }.setImax ⟨0, by decide⟩ (.ofInt number)
  | .adps => { f with adps := .ofInt number, flag := f.flag ||| eTinfoFlagAdps }
  | .motdetat => { f with motdetat := .ofInt (strtolNumber 16 item.data) }
  | .index option index => f.setIndex (index.castLE option.count_le) (.ofInt number)
  | .hhphc => f.setHoraire (item.data.getD 0 0)
  | .pejp => f.setPejp (.ofInt number)
  | .demain =>
      (tinfoPlace sTempoColorList item.data).elim f fun color => { f with demain := .ofNat color }

/-- A blue frame of which every field, of the members that its option gives a meaning, is what
the items say, or 0 if none of them speaks of it. -/
structure TinfoShows (items : List TinfoItem) (f : XTinfoFrame) : Prop where
  frame : f.frame = eTinfoFrameBlue
  field : ∀ field : TinfoField, (∀ option, field.option = some option → f.optarif = option.code) →
    f.get field = (items.findSome? field.saidBy).getD 0

/-- The probe ends; it calls handlers if and only if all checksums are right, and gives them
what the items say. -/
def TinfoDecodes (sep : UInt8) (items : List TinfoItem) (t : XTinfo) : Prop :=
  ∃ ret next calls, prviProbeFrame t = .ok (ret, next) ∧ next.called = t.called ++ calls ∧
    (calls ≠ [] ↔ ∀ item ∈ items, item.Right sep) ∧
    ∀ call ∈ calls, TinfoShows items call.2

/-- A context with all its handlers that has just received `line`, its first, into the cleared
buffer. -/
structure TinfoFresh (t : XTinfo) (line : List UInt8) : Prop where
  handled : ∀ type, t.sets type = true
  ht : t.ht = 0
  buflen : t.buflen = line.length
  room : line.length ≤ tinfoBufferSize - 1
  buf : t.buf.toList = line ++ List.replicate (tinfoBufferSize - line.length) 0

end Sysio.Tinfo
