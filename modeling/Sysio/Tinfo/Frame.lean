import Mathlib.Data.Vector.Basic

/-!
# Tinfo frames

The union `xTinfoFrame` of `include/sysio/tinfo.h` as a 64-bit Linux target lays it out. Every
field of `xTinfoFrameBlueShort`, and of the tariff union, is a word of `xTinfoFrameBlue` or a
part of one, so that the union is described by the words of `xTinfoFrameBlue` alone, under its
names where it has one; the other fields are written through the functions that follow.

    offset  blue        short            offset  tarif  base   hc        ejp       tempo
         0  frame       frame                96         index  index_hc  index_hn  index_hcjb
         8  time        time                104                index_hp  index_hpm index_hpjb
        16  flag        flag                112                horaire   pejp      index_hcjw
        24  adco        adco                120                                    index_hpjw
        32  optarif     nph                 128                                    index_hcjr
        36  ptec        iinst[0]            136                                    index_hpjr
        40  isousc      iinst[1]            144                                    demain
        44  nph         iinst[2]            148                                    pgm1, pgm2
        48  iinst       adir
-/

namespace Sysio.Tinfo

def eTinfoFrameBlue : UInt32 := 1

def eTinfoOpTarifBase : UInt32 := 1
def eTinfoOpTarifHc : UInt32 := 2
def eTinfoOpTarifEjp : UInt32 := 3
def eTinfoOpTarifTempo : UInt32 := 4

def eTinfoFlagShort : UInt32 := 0x0001
def eTinfoFlagPapp : UInt32 := 0x0002
def eTinfoFlagAdps : UInt32 := 0x0100
def eTinfoFlagNewPtec : UInt32 := 0x0200
def eTinfoFlagTempoNewColor : UInt32 := 0x0400
def eTinfoFlagNewMotEtat : UInt32 := 0x0800

/-- The types of callbacks, `eTinfoCbType`. -/
inductive ETinfoCbType where
  | frame
  | adps
  | ptec
  | motEtat
  | tempo
deriving DecidableEq, Repr

/-- `xTinfoFrame` with the members of `blue`; a short frame is stored in the words of these. -/
structure XTinfoFrame where
  frame : UInt32
  time : UInt64
  flag : UInt32
  adco : UInt64
  optarif : UInt32
  ptec : UInt32
  isousc : UInt32
  nph : UInt32
  iinst : Vector UInt32 3
  adps : UInt32
  imax : Vector UInt32 3
  pmax : UInt32
  papp : UInt32
  motdetat : UInt32
  ppot : UInt32
  /-- The first 48 bytes of the tariff union. -/
  tarif : Vector UInt64 6
  demain : UInt32
  pgm1 : UInt8
  pgm2 : UInt8
deriving DecidableEq, Repr

namespace XTinfoFrame

/-- `memset (&f, 0, sizeof (f))`. -/
def zeroed : XTinfoFrame where
  frame := 0
  time := 0
  flag := 0
  adco := 0
  optarif := 0
  ptec := 0
  isousc := 0
  nph := 0
  iinst := Vector.replicate 3 0
  adps := 0
  imax := Vector.replicate 3 0
  pmax := 0
  papp := 0
  motdetat := 0
  ppot := 0
  tarif := Vector.replicate 6 0
  demain := 0
  pgm1 := 0
  pgm2 := 0

/-- `blue_short.nph`, which lies where `blue.optarif` does. -/
def setShortNph (f : XTinfoFrame) (n : UInt32) : XTinfoFrame := { f with optarif := n }

/-- `blue_short.iinst`, which lies where `ptec`, `isousc` and `nph` of `blue` do. -/
def setShortIinst (f : XTinfoFrame) (phi : Fin 3) (n : UInt32) : XTinfoFrame :=
  match phi with
  | 0 => { f with ptec := n }
  | 1 => { f with isousc := n }
  | 2 => { f with nph := n }

/-- `blue_short.adir`, which lies where `blue.iinst` does. -/
def setShortAdir (f : XTinfoFrame) (phi : Fin 3) (n : UInt32) : XTinfoFrame :=
  { f with iinst := f.iinst.set phi n }

/-- `blue.iinst`. -/
def setIinst (f : XTinfoFrame) (phi : Fin 3) (n : UInt32) : XTinfoFrame :=
  { f with iinst := f.iinst.set phi n }

/-- `blue.imax`. -/
def setImax (f : XTinfoFrame) (phi : Fin 3) (n : UInt32) : XTinfoFrame :=
  { f with imax := f.imax.set phi n }

/-- An index of the tariff union, `unsigned long`. -/
def setIndex (f : XTinfoFrame) (word : Fin 6) (n : UInt64) : XTinfoFrame :=
  { f with tarif := f.tarif.set word n }

end XTinfoFrame

end Sysio.Tinfo
