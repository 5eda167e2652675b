import Mathlib.Data.List.GetD
import Sysio.Tinfo.Groups

/-!
# What is read of a Tinfo frame

The values that the handlers look at in a full frame, as the receiver reads them group by group
(`TinfoCarried`), and the word that a short frame leaves where the tariff period of a full frame
lies (`tinfoOverlap`). The reading of the groups into the union agrees with both: `carried`
forgets the rest of the union, and commutes with the reading of an item.
-/

namespace Sysio.Tinfo

/-- The values of a full frame that the handlers depend on. -/
structure TinfoCarried where
  ptec : UInt32
  motdetat : UInt32
  optarif : UInt32
  demain : UInt32
  /-- The last group with a phase was one of three phases. -/
  threePhase : Bool
  /-- A single-phase warning was read. -/
  warned : Bool
deriving DecidableEq, Repr

namespace TinfoCarried

/-- Nothing is read yet. -/
def initial : TinfoCarried where
  ptec := 0
  motdetat := 0
  optarif := 0
  demain := 0
  threePhase := false
  warned := false

/-- `OPTARIF`: data that announces no option changes nothing. -/
def readOpTarif (v : TinfoCarried) (text : List UInt8) : TinfoCarried :=
  if text = ascii "BASE" then { v with optarif := eTinfoOpTarifBase }
  else if text = ascii "HC.." then { v with optarif := eTinfoOpTarifHc }
  else if text = ascii "EJP." then { v with optarif := eTinfoOpTarifEjp }
  else if text.take 3 = ascii "BBR" then { v with optarif := eTinfoOpTarifTempo }
  else v

/-- `IINST` and `IMAX`, whose data tells by its length whether it has a phase. -/
def readPhase (v : TinfoCarried) (text : List UInt8) (bound : ℕ) : TinfoCarried :=
  match strtol 10 text with
  | none => v
  | some _ =>
      if text.length > bound then
        match tinfoPhase text bound with
        | some _ => { v with threePhase := true }
        | none => v
      else { v with threePhase := false }

/-- `DEMAIN`, which is looked at under a Tempo contract only. -/
def readColor (v : TinfoCarried) (label text : List UInt8) : TinfoCarried :=
  if v.optarif = eTinfoOpTarifTempo ∧ label = ascii "DEMAIN" then
    match sTempoColorList.findIdx? (· = text) with
    | some color => { v with demain := .ofNat (color + 1) }
    | none => v
  else v

/-- One group of a full frame. -/
def read (v : TinfoCarried) (label text : List UInt8) : TinfoCarried :=
  if label = ascii "OPTARIF" then v.readOpTarif text
  else if label = ascii "PTEC" then
    match sPtecList.findIdx? (· = text) with
    | some ptec => { v with ptec := .ofNat (ptec + 1) }
    | none => v
  else if label.take 5 = ascii "IINST" then v.readPhase text 5
  else if label.take 4 = ascii "IMAX" then v.readPhase text 4
  else if label = ascii "MOTDETAT" then
    match strtol 16 text with
    | some n => { v with motdetat := .ofInt n }
    | none => v
  else if label = ascii "ADPS" then
    match v.threePhase, strtol 10 text with
    | false, some _ => { v with warned := true }
    | _, _ => v
  else v.readColor label text

end TinfoCarried

/-- The values of the union. -/
def XTinfoFrame.carried (f : XTinfoFrame) : TinfoCarried where
  ptec := f.ptec
  motdetat := f.motdetat
  optarif := f.optarif
  demain := f.demain
  threePhase := f.nph = 3
  warned := f.flag &&& eTinfoFlagAdps ≠ 0

theorem flag_or_and (flag : UInt32) {set mask : UInt32} (apart : set &&& mask = 0) :
    (flag ||| set) &&& mask = flag &&& mask := by
  apply UInt32.toBitVec_inj.mp
  have bits := congrArg UInt32.toBitVec apart
  simp only [UInt32.toBitVec_and, UInt32.toBitVec_or, UInt32.toBitVec_zero] at bits ⊢
  rw [BitVec.and_comm, BitVec.and_or_distrib_left, BitVec.and_comm _ set.toBitVec, bits]
  rw [BitVec.or_zero, BitVec.and_comm]

theorem flag_or_and_self (flag set : UInt32) : (flag ||| set) &&& set = set := by
  apply UInt32.toBitVec_inj.mp
  ext i
  simp only [UInt32.toBitVec_and, UInt32.toBitVec_or, BitVec.getElem_and, BitVec.getElem_or]
  cases set.toBitVec[i] <;> simp

theorem tinfoPhase_cstr {raw : List UInt8} {index : ℕ} (inside : index < (cstr raw).length) :
    tinfoPhase raw index = tinfoPhase (cstr raw) index := by
  have same : raw.getD index 0 = (cstr raw).getD index 0 := by
    rcases List.takeWhile_prefix (p := fun c : UInt8 => c ≠ 0) (l := raw) with ⟨rest, whole⟩
    have cut : raw = cstr raw ++ rest := whole.symm
    conv_lhs => rw [cut]
    exact List.getD_append _ _ _ _ inside
  rw [tinfoPhase, tinfoPhase, same]

theorem carried_withLong {f : XTinfoFrame} {data : List UInt8} {base : ℕ} {store : ℤ → XTinfoFrame}
    (same : ∀ n, (store n).carried = f.carried) :
    (f.withLong data base store).carried = f.carried := by
  rw [XTinfoFrame.withLong]
  split
  · rfl
  · exact same _

theorem carried_tinfoReadOpTarif (f : XTinfoFrame) (raw : List UInt8) :
    (tinfoReadOpTarif f raw).carried = f.carried.readOpTarif (cstr raw) := by
  rw [tinfoReadOpTarif, TinfoCarried.readOpTarif]
  split_ifs <;> rfl

theorem carried_tinfoReadPhase (f : XTinfoFrame) (raw : List UInt8) (bound : ℕ)
    {store : XTinfoFrame → Fin 3 → UInt32 → XTinfoFrame}
    (stores : ∀ f phi n, (store f phi n).carried = f.carried) :
    (tinfoReadPhase f raw bound store).carried = f.carried.readPhase (cstr raw) bound := by
  rw [tinfoReadPhase, TinfoCarried.readPhase, XTinfoFrame.withLong, iStrToLong]
  rcases strtol 10 (cstr raw) with _ | n
  · rfl
  · by_cases long : (cstr raw).length > bound
    · simp only [if_pos long, tinfoPhase_cstr long]
      rcases tinfoPhase (cstr raw) bound with _ | phi
      · rfl
      · rw [stores]
        rfl
    · simp only [if_neg long, stores]
      rfl

theorem carried_tinfoReadTarif (f : XTinfoFrame) (label raw : List UInt8) :
    (tinfoReadTarif f label raw).carried = f.carried.readColor label (cstr raw) := by
  rw [tinfoReadTarif, TinfoCarried.readColor]
  by_cases isTempo : f.optarif = eTinfoOpTarifTempo
  · rw [if_neg (by rw [isTempo]; decide), if_neg (by rw [isTempo]; decide),
      if_neg (by rw [isTempo]; decide), if_pos isTempo]
    by_cases isDemain : label = ascii "DEMAIN"
    · have both : f.carried.optarif = eTinfoOpTarifTempo ∧ label = ascii "DEMAIN" :=
        ⟨isTempo, isDemain⟩
      have noIndex : ∀ index ∈ [ascii "BBRHCJB", ascii "BBRHPJB", ascii "BBRHCJW",
          ascii "BBRHPJW", ascii "BBRHCJR", ascii "BBRHPJR"], ascii "DEMAIN" ≠ index := by decide
      simp only [List.forall_mem_cons] at noIndex
      rcases noIndex with ⟨hcjb, hpjb, hcjw, hpjw, hcjr, hpjr, _⟩
      rw [if_pos both, isDemain, if_neg hcjb, if_neg hpjb, if_neg hcjw, if_neg hpjw, if_neg hcjr,
        if_neg hpjr, if_pos rfl]
      rcases sTempoColorList.findIdx? (· = cstr raw) with _ | color <;> rfl
    · have notBoth : ¬(f.carried.optarif = eTinfoOpTarifTempo ∧ label = ascii "DEMAIN") :=
        fun both => isDemain both.2
      rw [if_neg notBoth]
      split_ifs <;> first | exact carried_withLong fun _ => rfl | rfl
  · have notBoth : ¬(f.carried.optarif = eTinfoOpTarifTempo ∧ label = ascii "DEMAIN") :=
      fun both => isTempo both.1
    rw [if_neg notBoth]
    split_ifs <;> first | exact carried_withLong fun _ => rfl | rfl

theorem read_of_unwatched (v : TinfoCarried) (text : List UInt8) {label : List UInt8}
    (unwatched : label = ascii "ADCO" ∨ label = ascii "ISOUSC" ∨ label = ascii "PAPP" ∨
      label = ascii "PMAX" ∨ label = ascii "PPOT") : v.read label text = v := by
  rcases unwatched with rfl | rfl | rfl | rfl | rfl <;>
    simp +decide [TinfoCarried.read, TinfoCarried.readColor]

theorem readColor_of_ne (v : TinfoCarried) (text : List UInt8) {label : List UInt8}
    (ne : label ≠ ascii "DEMAIN") : v.readColor label text = v := by
  rw [TinfoCarried.readColor, if_neg fun both => ne both.2]

theorem carried_prvvReadBlueItem (f : XTinfoFrame) (label raw : List UInt8) :
    (prvvReadBlueItem f label raw).carried = f.carried.read label (cstr raw) := by
  rw [prvvReadBlueItem]
  by_cases opTarif : label = ascii "OPTARIF"
  · rw [if_pos opTarif, TinfoCarried.read, if_pos opTarif]
    exact carried_tinfoReadOpTarif f raw
  rw [if_neg opTarif]
  by_cases isousc : label = ascii "ISOUSC"
  · rw [if_pos isousc, read_of_unwatched _ _ (by simp [isousc])]
    exact carried_withLong fun _ => rfl
  rw [if_neg isousc]
  by_cases ptec : label = ascii "PTEC"
  · rw [if_pos ptec, TinfoCarried.read, if_neg opTarif, if_pos ptec]
    rcases sPtecList.findIdx? (· = cstr raw) with _ | index <;> rfl
  rw [if_neg ptec]
  by_cases papp : label = ascii "PAPP"
  · rw [if_pos papp, read_of_unwatched _ _ (by simp [papp])]
    apply carried_withLong
    intro n
    have apart : eTinfoFlagPapp &&& eTinfoFlagAdps = 0 := by decide
    have flag := flag_or_and f.flag apart
    simp only [XTinfoFrame.carried, flag]
  rw [if_neg papp]
  by_cases iinst : label.take 5 = ascii "IINST"
  · rw [if_pos iinst, TinfoCarried.read, if_neg opTarif, if_neg ptec, if_pos iinst]
    exact carried_tinfoReadPhase f raw 5 fun _ _ _ => rfl
  rw [if_neg iinst]
  by_cases imax : label.take 4 = ascii "IMAX"
  · rw [if_pos imax, TinfoCarried.read, if_neg opTarif, if_neg ptec, if_neg iinst, if_pos imax]
    exact carried_tinfoReadPhase f raw 4 fun _ _ _ => rfl
  rw [if_neg imax]
  by_cases motdetat : label = ascii "MOTDETAT"
  · rw [if_pos motdetat, TinfoCarried.read, if_neg opTarif, if_neg ptec, if_neg iinst, if_neg imax,
      if_pos motdetat, XTinfoFrame.withLong, iStrToLong]
    rcases strtol 16 (cstr raw) with _ | n <;> rfl
  rw [if_neg motdetat]
  have tail : f.carried.read label (cstr raw) =
      if label = ascii "ADPS" then
        match f.carried.threePhase, strtol 10 (cstr raw) with
        | false, some _ => { f.carried with warned := true }
        | _, _ => f.carried
      else f.carried.readColor label (cstr raw) := by
    rw [TinfoCarried.read, if_neg opTarif, if_neg ptec, if_neg iinst, if_neg imax, if_neg motdetat]
  by_cases three : f.nph = 3
  · have threePhase : f.carried.threePhase = true := decide_eq_true three
    rw [if_pos three]
    by_cases pmax : label = ascii "PMAX"
    · rw [if_pos pmax, read_of_unwatched _ _ (by simp [pmax])]
      exact carried_withLong fun _ => rfl
    rw [if_neg pmax]
    by_cases ppot : label = ascii "PPOT"
    · rw [if_pos ppot, read_of_unwatched _ _ (by simp [ppot])]
      exact carried_withLong fun _ => rfl
    rw [if_neg ppot, carried_tinfoReadTarif, tail, threePhase]
    by_cases adps : label = ascii "ADPS"
    · rw [if_pos adps, readColor_of_ne _ _ (by rw [adps]; decide)]
    · rw [if_neg adps]
  · have single : f.carried.threePhase = false := decide_eq_false three
    rw [if_neg three, tail, single]
    by_cases adps : label = ascii "ADPS"
    · rw [if_pos adps, if_pos adps, XTinfoFrame.withLong, iStrToLong]
      rcases strtol 10 (cstr raw) with _ | n
      · rfl
      · have flag := flag_or_and_self f.flag eTinfoFlagAdps
        simp only [XTinfoFrame.carried, flag]
        rfl
    · rw [if_neg adps, if_neg adps]
      exact carried_tinfoReadTarif f label raw

/-- The type of a frame, and whether it is a short one. -/
def XTinfoFrame.kind (f : XTinfoFrame) : UInt32 × UInt32 := (f.frame, f.flag &&& eTinfoFlagShort)

theorem kind_withLong {f : XTinfoFrame} {data : List UInt8} {base : ℕ} {store : ℤ → XTinfoFrame}
    (same : ∀ n, (store n).kind = f.kind) : (f.withLong data base store).kind = f.kind := by
  rw [XTinfoFrame.withLong]
  split
  · rfl
  · exact same _

theorem kind_ite {f left right : XTinfoFrame} {c : Prop} [Decidable c]
    (leftSame : left.kind = f.kind) (rightSame : right.kind = f.kind) :
    (if c then left else right).kind = f.kind := by
  split
  · exact leftSame
  · exact rightSame

theorem kind_tinfoReadOpTarif (f : XTinfoFrame) (raw : List UInt8) :
    (tinfoReadOpTarif f raw).kind = f.kind := by
  rw [tinfoReadOpTarif]
  repeat' apply kind_ite
  all_goals rfl

theorem kind_tinfoReadPhase (f : XTinfoFrame) (raw : List UInt8) (bound : ℕ)
    {store : XTinfoFrame → Fin 3 → UInt32 → XTinfoFrame}
    (stores : ∀ f phi n, (store f phi n).kind = f.kind) :
    (tinfoReadPhase f raw bound store).kind = f.kind := by
  apply kind_withLong
  intro n
  split
  · split
    · exact stores _ _ _
    · rfl
  · exact stores _ _ _

theorem kind_tinfoReadTarif (f : XTinfoFrame) (label raw : List UInt8) :
    (tinfoReadTarif f label raw).kind = f.kind := by
  rw [tinfoReadTarif]
  repeat' apply kind_ite
  all_goals first | exact kind_withLong fun _ => rfl | rfl | split <;> rfl

theorem kind_prvvReadBlueItem (f : XTinfoFrame) (label raw : List UInt8) :
    (prvvReadBlueItem f label raw).kind = f.kind := by
  rw [prvvReadBlueItem]
  apply kind_ite
  · exact kind_tinfoReadOpTarif f raw
  apply kind_ite
  · exact kind_withLong fun _ => rfl
  apply kind_ite
  · split <;> rfl
  apply kind_ite
  · exact kind_withLong fun _ => Prod.ext rfl (flag_or_and _ (by decide))
  apply kind_ite
  · exact kind_tinfoReadPhase f raw 5 fun _ _ _ => rfl
  apply kind_ite
  · exact kind_tinfoReadPhase f raw 4 fun _ _ _ => rfl
  apply kind_ite
  · exact kind_withLong fun _ => rfl
  apply kind_ite
  · apply kind_ite
    · exact kind_withLong fun _ => rfl
    apply kind_ite
    · exact kind_withLong fun _ => rfl
    exact kind_tinfoReadTarif f label raw
  · apply kind_ite
    · exact kind_withLong fun _ => Prod.ext rfl (flag_or_and _ (by decide))
    exact kind_tinfoReadTarif f label raw

theorem TinfoGroup.cstr_rawData (g : TinfoGroup) (rest : List UInt8) :
    cstr (g.rawData rest) = g.data :=
  cstr_append (fun c c_mem => (g.data_plain c c_mem).1) _

/-- The groups of a full frame behind the first one. -/
theorem carried_tinfoRead (time : UInt64) {f : XTinfoFrame} (full : f.kind = (eTinfoFrameBlue, 0))
    (groups : List TinfoGroup) (rest : List UInt8) :
    (tinfoRead time f groups rest).carried =
        groups.foldl (fun v g => v.read g.label g.data) f.carried ∧
      (tinfoRead time f groups rest).kind = (eTinfoFrameBlue, 0) := by
  induction groups generalizing f with
  | nil => exact ⟨rfl, full⟩
  | cons g groups ih =>
      have blue : f.frame = eTinfoFrameBlue := congrArg Prod.fst full
      have long : f.flag &&& eTinfoFlagShort = 0 := congrArg Prod.snd full
      let raw := g.rawData (groups.flatMap TinfoGroup.bytes ++ rest)
      have read : tinfoReadSeparated time f g.label raw = prvvReadBlueItem f g.label raw := by
        rw [tinfoReadSeparated, if_neg (by rw [blue]; decide), if_pos blue,
          if_neg (not_not.mpr long)]
      have later := ih ((kind_prvvReadBlueItem f g.label raw).trans full)
      rw [carried_prvvReadBlueItem, g.cstr_rawData] at later
      rw [tinfoRead, read, List.foldl_cons]
      exact later

/-- The word `blue.ptec` after an item of a short frame, where it is `blue_short.iinst[0]`. -/
def tinfoOverlapItem (word : UInt32) (label raw : List UInt8) : UInt32 :=
  if label.take 5 = ascii "IINST" then
    match strtol 10 (cstr raw), tinfoPhase raw 5 with
    | some n, some 0 => .ofInt n
    | _, _ => word
  else word

/-- That word after some groups, with what comes behind them. -/
def tinfoOverlap (word : UInt32) : List TinfoGroup → List UInt8 → UInt32
  | [], _ => word
  | g :: groups, rest =>
      tinfoOverlap
        (tinfoOverlapItem word g.label (g.rawData (groups.flatMap TinfoGroup.bytes ++ rest)))
        groups rest

/-- The words of a short frame that the handlers look at. -/
def XTinfoFrame.shortView (f : XTinfoFrame) : UInt32 × UInt32 × UInt32 × UInt32 × UInt32 :=
  (f.frame, f.flag, f.optarif, f.motdetat, f.ptec)

theorem shortView_prvvReadBlueShortItem (f : XTinfoFrame) (label raw : List UInt8) :
    (prvvReadBlueShortItem f label raw).shortView =
      (f.frame, f.flag, f.optarif, f.motdetat, tinfoOverlapItem f.ptec label raw) := by
  rw [prvvReadBlueShortItem, tinfoOverlapItem]
  by_cases adir : label.take 4 = ascii "ADIR"
  · have other : label.take 5 ≠ ascii "IINST" := by
      intro iinst
      have head := congrArg (List.take 4) iinst
      rw [List.take_take, Nat.min_eq_left (by omega), adir] at head
      exact absurd head (by decide)
    rw [if_pos adir, if_neg other, XTinfoFrame.withLong]
    split
    · rfl
    · split <;> rfl
  · rw [if_neg adir]
    by_cases adco : label = ascii "ADCO"
    · have other : label.take 5 ≠ ascii "IINST" := by
        rw [adco]
        decide
      rw [if_pos adco, if_neg other, XTinfoFrame.withLong]
      split <;> rfl
    · rw [if_neg adco]
      by_cases iinst : label.take 5 = ascii "IINST"
      · rw [if_pos iinst, if_pos iinst, XTinfoFrame.withLong, iStrToLong]
        rcases strtol 10 (cstr raw) with _ | n
        · rfl
        · rcases tinfoPhase raw 5 with _ | phi
          · rfl
          · match phi with
            | 0 => rfl
            | 1 => rfl
            | 2 => rfl
      · rw [if_neg iinst, if_neg iinst]
        rfl

/-- The groups of a short frame behind the first one. -/
theorem shortView_tinfoRead {time : UInt64} {f : XTinfoFrame} (blue : f.frame = eTinfoFrameBlue)
    (short : f.flag &&& eTinfoFlagShort ≠ 0) (groups : List TinfoGroup) (rest : List UInt8) :
    (tinfoRead time f groups rest).shortView =
      (f.frame, f.flag, f.optarif, f.motdetat, tinfoOverlap f.ptec groups rest) := by
  induction groups generalizing f with
  | nil => rfl
  | cons g groups ih =>
      let raw := g.rawData (groups.flatMap TinfoGroup.bytes ++ rest)
      have read : tinfoReadSeparated time f g.label raw = prvvReadBlueShortItem f g.label raw := by
        rw [tinfoReadSeparated, if_neg (by rw [blue]; decide), if_pos blue, if_pos short]
      have item := shortView_prvvReadBlueShortItem f g.label raw
      simp only [XTinfoFrame.shortView, Prod.mk.injEq] at item
      rcases item with ⟨frame, flag, optarif, motdetat, ptec⟩
      rw [tinfoRead, read, ih (by rw [frame, blue]) (by rw [flag]; exact short), tinfoOverlap,
        frame, flag, optarif, motdetat, ptec]

end Sysio.Tinfo
