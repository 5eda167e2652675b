import Sysio.Lib.Strings
import Sysio.Tinfo.Frame

/-!
# Tinfo items

The reading of one group of a frame, `prvvReadBlueShortItem`, `prvvReadBlueItem` and
`prvvReadItem` of `src/tinfo.c`. A label is given by its characters, the data by the memory
from its first character on, the buffer and `buflen` behind it: the phase is read at `data[4]` or
`data[5]` whether or not the string goes that far. What follows `buflen` is taken as 0: it is the
character `pchar` and a `bool`, and neither is a phase. A `long` stored in an `unsigned` is
narrowed.
-/

namespace Sysio.Tinfo

/-- `sPtecList`. -/
def sPtecList : List (List UInt8) :=
  ["TH..", "HC..", "HP..", "HN..", "PM..", "HCJB", "HCJW", "HCJR", "HPJB", "HPJW", "HPJR"].map ascii

/-- `sTempoColorList`. -/
def sTempoColorList : List (List UInt8) := ["BLEU", "BLAN", "ROUG"].map ascii

/-- `iStrToLong` and `iStrToLongLong`; `none` where they return -1. -/
def iStrToLong (data : List UInt8) (base : ℕ) : Option ℤ := strtol base (cstr data)

/-- `if (iStrToLong (data, &n, base) == 0) f = store (n)`. -/
def XTinfoFrame.withLong (f : XTinfoFrame) (data : List UInt8) (base : ℕ)
    (store : ℤ → XTinfoFrame) : XTinfoFrame :=
  match iStrToLong data base with
  | none => f
  | some n => store n

/-- `phi = data[index] - '1'`, if it is a phase. -/
def tinfoPhase (data : List UInt8) (index : ℕ) : Option (Fin 3) :=
  match data.getD index 0 with
  | 0x31 => some 0
  | 0x32 => some 1
  | 0x33 => some 2
  | _ => none

/-- An item of a short frame. -/
def prvvReadBlueShortItem (f : XTinfoFrame) (label data : List UInt8) : XTinfoFrame :=
  if label.take 4 = ascii "ADIR" then
    f.withLong data 10 fun n =>
      match tinfoPhase data 4 with
      | some phi => f.setShortAdir phi (.ofInt n)
      | none => f
  else if label = ascii "ADCO" then
    f.withLong data 10 fun adco => { f with adco := .ofInt adco }
  else if label.take 5 = ascii "IINST" then
    f.withLong data 10 fun n =>
      match tinfoPhase data 5 with
      | some phi => f.setShortIinst phi (.ofInt n)
      | none => f
  else f

/-- `OPTARIF`: the option, and the programs of a Tempo contract. -/
def tinfoReadOpTarif (f : XTinfoFrame) (data : List UInt8) : XTinfoFrame :=
  if cstr data = ascii "BASE" then { f with optarif := eTinfoOpTarifBase }
  else if cstr data = ascii "HC.." then { f with optarif := eTinfoOpTarifHc }
  else if cstr data = ascii "EJP." then { f with optarif := eTinfoOpTarifEjp }
  else if (cstr data).take 3 = ascii "BBR" then
    { f with
      optarif := eTinfoOpTarifTempo
      pgm1 := ((data.getD 3 0 &&& 0x18) >>> 3) + 0x40
      pgm2 := (data.getD 3 0 &&& 0x7) + 0x30 }
  else f

/-- The items `IINST` and `IMAX`, which are three-phase if the data is longer than `bound`:
the character at `bound` is then the phase. -/
def tinfoReadPhase (f : XTinfoFrame) (data : List UInt8) (bound : ℕ)
    (store : XTinfoFrame → Fin 3 → UInt32 → XTinfoFrame) : XTinfoFrame :=
  f.withLong data 10 fun n =>
    if (cstr data).length > bound then
      match tinfoPhase data bound with
      | some phi => store { f with nph := 3 } phi (.ofInt n)
      | none => f
    else store { f with nph := 1 } 0 (.ofInt n)

/-- `f->blue.tarif.hc.horaire = c`, the lowest byte of its word. -/
def XTinfoFrame.setHoraire (f : XTinfoFrame) (c : UInt8) : XTinfoFrame :=
  f.setIndex 2 ((f.tarif[2] &&& 0xFFFFFFFFFFFFFF00) ||| c.toUInt64)

/-- `f->blue.tarif.ejp.pejp = n`, the lower half of its word. -/
def XTinfoFrame.setPejp (f : XTinfoFrame) (n : UInt32) : XTinfoFrame :=
  f.setIndex 2 ((f.tarif[2] &&& 0xFFFFFFFF00000000) ||| n.toUInt64)

/-- The word that `horaire` and `pejp` are parts of. -/
def XTinfoFrame.third (f : XTinfoFrame) : UInt64 := f.tarif[2]

/-- The `switch (f->blue.optarif)`: the items that depend on the tariff option. -/
def tinfoReadTarif (f : XTinfoFrame) (label data : List UInt8) : XTinfoFrame :=
  if f.optarif = eTinfoOpTarifBase then
    if label = ascii "BASE" then f.withLong data 10 fun n => f.setIndex 0 (.ofInt n)
    else f
  else if f.optarif = eTinfoOpTarifHc then
    if label = ascii "HCHC" then f.withLong data 10 fun n => f.setIndex 0 (.ofInt n)
    else if label = ascii "HCHP" then f.withLong data 10 fun n => f.setIndex 1 (.ofInt n)
    else if label = ascii "HHPHC" then f.setHoraire (data.getD 0 0)
    else f
  else if f.optarif = eTinfoOpTarifEjp then
    if label = ascii "EJPHN" then f.withLong data 10 fun n => f.setIndex 0 (.ofInt n)
    else if label = ascii "EJPHPM" then f.withLong data 10 fun n => f.setIndex 1 (.ofInt n)
    else if label = ascii "PEJP" then f.withLong data 10 fun n => f.setPejp (.ofInt n)
    else f
  else if f.optarif = eTinfoOpTarifTempo then
    if label = ascii "BBRHCJB" then f.withLong data 10 fun n => f.setIndex 0 (.ofInt n)
    else if label = ascii "BBRHPJB" then f.withLong data 10 fun n => f.setIndex 1 (.ofInt n)
    else if label = ascii "BBRHCJW" then f.withLong data 10 fun n => f.setIndex 2 (.ofInt n)
    else if label = ascii "BBRHPJW" then f.withLong data 10 fun n => f.setIndex 3 (.ofInt n)
    else if label = ascii "BBRHCJR" then f.withLong data 10 fun n => f.setIndex 4 (.ofInt n)
    else if label = ascii "BBRHPJR" then f.withLong data 10 fun n => f.setIndex 5 (.ofInt n)
    else if label = ascii "DEMAIN" then
      match sTempoColorList.findIdx? (· = cstr data) with
      | some color => { f with demain := .ofNat (color + 1) }
      | none => f
    else f
  else f

/-- An item of a full frame. -/
def prvvReadBlueItem (f : XTinfoFrame) (label data : List UInt8) : XTinfoFrame :=
  if label = ascii "OPTARIF" then tinfoReadOpTarif f data
  else if label = ascii "ISOUSC" then
    f.withLong data 10 fun n => { f with isousc := .ofInt n }
  else if label = ascii "PTEC" then
    match sPtecList.findIdx? (· = cstr data) with
    | some ptec => { f with ptec := .ofNat (ptec + 1) }
    | none => f
  else if label = ascii "PAPP" then
    f.withLong data 10 fun n => { f with papp := .ofInt n, flag := f.flag ||| eTinfoFlagPapp }
  else if label.take 5 = ascii "IINST" then tinfoReadPhase f data 5 XTinfoFrame.setIinst
  else if label.take 4 = ascii "IMAX" then tinfoReadPhase f data 4 XTinfoFrame.setImax
  else if label = ascii "MOTDETAT" then
    f.withLong data 16 fun n => { f with motdetat := .ofInt n }
  else if f.nph = 3 then
    if label = ascii "PMAX" then
      f.withLong data 10 fun n => { f with pmax := .ofInt n }
    else if label = ascii "PPOT" then
      f.withLong data 16 fun n => { f with ppot := .ofInt n }
    else tinfoReadTarif f label data
  else if label = ascii "ADPS" then
    f.withLong data 10 fun n => { f with adps := .ofInt n, flag := f.flag ||| eTinfoFlagAdps }
  else tinfoReadTarif f label data

/-- `prvvReadItem` once the label and the data are separated; `time` is that of the context. -/
def tinfoReadSeparated (time : UInt64) (f : XTinfoFrame) (label data : List UInt8) : XTinfoFrame :=
  if f.frame = 0 then
    -- the first group of the frame
    if label = ascii "ADCO" then
      f.withLong data 10 fun adco =>
        { f with frame := eTinfoFrameBlue, adco := .ofInt adco, time := time }
    else if label.take 4 = ascii "ADIR" then
      prvvReadBlueShortItem
        ({ f with
          frame := eTinfoFrameBlue
          time := time
          flag := f.flag ||| (eTinfoFlagShort ||| eTinfoFlagAdps) }.setShortNph 3) label data
    else f
  else if f.frame = eTinfoFrameBlue then
    if f.flag &&& eTinfoFlagShort ≠ 0 then prvvReadBlueShortItem f label data
    else prvvReadBlueItem f label data
  else f

end Sysio.Tinfo
