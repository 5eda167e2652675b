import Sysio.Tinfo.Dispatch
import Sysio.Tinfo.Stated

/-!
# Tinfo events

Which handlers should run on each of a sequence of frames is a matter of what the full frames
carry: the warning handler for a warning, the others for what changed since the full frame
before, the normal one otherwise (`TinfoSent.expected`). The receiver does so in every run in
which no step is disturbed (`TinfoUndisturbed`): by the words that full and short frames share,
by a warning or a colour that is not read where it stands, or by what earlier frames left behind
the ETX.
-/

namespace Sysio.Tinfo

/-- A frame that the checksum loop accepts, full or short by its first label. -/
structure TinfoSent where
  first : TinfoGroup
  others : List TinfoGroup
  length_le : ((first :: others).flatMap TinfoGroup.bytes).length + 2 ≤ tinfoBufferSize
  kind : first.label = ascii "ADCO" ∨ first.label.take 4 = ascii "ADIR"

namespace TinfoSent

/-- The groups of the frame. -/
def groups (s : TinfoSent) : List TinfoGroup := s.first :: s.others

/-- The bytes of the frame on the line. -/
def bytes (s : TinfoSent) : List UInt8 := stx :: (s.groups.flatMap TinfoGroup.bytes ++ [etx])

/-- The frame begins with the address of the meter. -/
def isFull (s : TinfoSent) : Bool := s.first.label = ascii "ADCO"

/-- It carries an ADPS or ADIR group. -/
def warns (s : TinfoSent) : Bool :=
  s.groups.any fun g => g.label = ascii "ADPS" || g.label.take 4 = ascii "ADIR"

/-! What a full frame carries. -/

/-- The tariff period. -/
def ptec (s : TinfoSent) : UInt32 := tinfoStated TinfoGroup.ptec 0 s.groups

/-- The status word. -/
def motdetat (s : TinfoSent) : UInt32 := tinfoStated TinfoGroup.motdetat 0 s.groups

/-- The tariff option. -/
def optarif (s : TinfoSent) : UInt32 := tinfoStated TinfoGroup.optarif 0 s.groups

/-- The colour of the next day. -/
def demain (s : TinfoSent) : UInt32 := tinfoStated TinfoGroup.demain 0 s.groups

/-- The exceptions, where `memory` holds the values of the full frames before. -/
def raises (s : TinfoSent) (memory : TinfoMemory) : List ETinfoCbType :=
  (if s.warns then [.adps] else []) ++
    if s.isFull then
      (if memory.ptec ≠ s.ptec then [.ptec] else []) ++
        (if memory.motdetat ≠ s.motdetat then [.motEtat] else []) ++
        if s.optarif = eTinfoOpTarifTempo ∧ memory.demain ≠ s.demain then [.tempo] else []
    else []

/-- The handlers that should run. -/
def expected (s : TinfoSent) (memory : TinfoMemory) : List ETinfoCbType :=
  if s.raises memory = [] then [.frame] else s.raises memory

/-- The values to be remembered; the colour is that of a Tempo contract. -/
def leaves (s : TinfoSent) (memory : TinfoMemory) : TinfoMemory :=
  if s.isFull then
    { ptec := s.ptec
      motdetat := s.motdetat
      demain := if s.optarif = eTinfoOpTarifTempo then s.demain else memory.demain }
  else memory

theorem warns_of_not_isFull {s : TinfoSent} (short : s.isFull = false) : s.warns = true := by
  rcases s.kind with full | adir
  · exact absurd full (of_decide_eq_false short)
  · simp [warns, groups, adir]

end TinfoSent

/-- Receiving a frame: its bytes are stored from the start of the buffer, and it is probed. -/
def tinfoFrame (t : XTinfo) (s : TinfoSent) : Except Fault (ℤ × XTinfo) :=
  match s.bytes.foldlM XTinfo.store { t with buflen := 0 } with
  | .error fault => .error fault
  | .ok full => prviProbeFrame full

/-- The frames are received without a fault, on each the expected handlers run, and what is
remembered is what the full frames carried. -/
def TinfoEventsRight (t : XTinfo) (memory : TinfoMemory) : List TinfoSent → Prop
  | [] => True
  | s :: rest =>
      ∃ ret next, tinfoFrame t s = .ok (ret, next) ∧
        next.called.map Prod.fst = t.called.map Prod.fst ++ s.expected memory ∧
        next.memory = s.leaves memory ∧ TinfoEventsRight next (s.leaves memory) rest

/-- What follows the groups of a frame in the memory. -/
def TinfoSent.behind (s : TinfoSent) (t : XTinfo) : List UInt8 :=
  etx :: t.buf.toList.drop s.bytes.length ++ (tinfoBehind s.bytes.length).toList

/-- What a step must meet. A full frame has a meter address; its warning is read if it has one, and
the colour of a Tempo contract if it states one. A short one leaves the remembered period in the
word that it shares with it, and no status word is remembered; all groups have the remembered
separator, and behind the frame a NUL comes before any LF. -/
structure TinfoUndisturbed (t : XTinfo) (s : TinfoSent) : Prop where
  separated : ∀ g ∈ s.groups, g.sep = tinfoSeparator t.ht s.groups
  quiet : strchr (t.buf.toList.drop s.bytes.length) lf = .ok none
  full : s.isFull = true → strtol 10 s.first.data ≠ none ∧
    (TinfoWarningInOrder s.groups ↔ s.warns = true) ∧
      (s.optarif = eTinfoOpTarifTempo → TinfoColorInOrder s.groups)
  short : s.isFull = false → tinfoOverlap 0 s.groups (s.behind t) = t.ptec ∧ t.motdetat = 0

/-- Every step of the run meets `TinfoUndisturbed`. -/
def TinfoUndisturbedRun (t : XTinfo) : List TinfoSent → Prop
  | [] => True
  | s :: rest =>
      TinfoUndisturbed t s ∧
        ∀ ret next, tinfoFrame t s = .ok (ret, next) → TinfoUndisturbedRun next rest

theorem exists_foldlM_store (t : XTinfo) (bytes : List UInt8)
    (room : t.buflen + bytes.length ≤ tinfoBufferSize) :
    ∃ buf, bytes.foldlM XTinfo.store t =
        .ok { t with buf := buf, buflen := t.buflen + bytes.length } ∧
      buf.toList = t.buf.toList.take t.buflen ++ bytes ++
        t.buf.toList.drop (t.buflen + bytes.length) := by
  induction bytes generalizing t with
  | nil => exact ⟨t.buf, rfl, by simp⟩
  | cons c bytes ih =>
      rw [List.length_cons] at room
      have inside : t.buflen < tinfoBufferSize := by omega
      let stored : XTinfo := { t with buf := t.buf.set t.buflen c, buflen := t.buflen + 1 }
      have step : t.store c = .ok stored := by
        rw [XTinfo.store, dif_pos inside]
      have position : stored.buflen + bytes.length = t.buflen + (bytes.length + 1) := by
        change t.buflen + 1 + bytes.length = _
        omega
      rcases ih stored (by rw [position]; exact room) with ⟨buf, run, list⟩
      refine ⟨buf, ?_, ?_⟩
      · rw [List.foldlM_cons, step, List.length_cons, ← position]
        exact run
      · have front : stored.buf.toList.take stored.buflen = t.buf.toList.take t.buflen ++ [c] :=
          Vector.take_set_succ t.buf t.buflen inside c
        have back : stored.buf.toList.drop (t.buflen + (bytes.length + 1)) =
            t.buf.toList.drop (t.buflen + (bytes.length + 1)) := by
          change (t.buf.set t.buflen c).toList.drop _ = _
          rw [Vector.toList_set, List.drop_set, if_pos (by omega)]
        rw [list, front, position, back, List.length_cons]
        simp

theorem exists_tinfoHolds (t : XTinfo) (s : TinfoSent) :
    ∃ buf, s.bytes.foldlM XTinfo.store { t with buflen := 0 } =
        .ok { t with buf := buf, buflen := s.bytes.length } ∧
      TinfoHolds { t with buf := buf, buflen := s.bytes.length }
        (s.groups.flatMap TinfoGroup.bytes) ∧
      buf.toList.drop s.bytes.length = t.buf.toList.drop s.bytes.length := by
  have length : s.bytes.length = (s.groups.flatMap TinfoGroup.bytes).length + 2 := by
    simp [TinfoSent.bytes]
  rcases exists_foldlM_store { t with buflen := 0 } s.bytes
    (by rw [length, Nat.zero_add]; exact s.length_le) with ⟨buf, run, list⟩
  simp only [Nat.zero_add, List.take_zero, List.nil_append] at run list
  refine ⟨buf, run, ⟨length, ?_⟩, ?_⟩
  · change buf.toList.take s.bytes.length = s.bytes
    rw [list, List.take_left]
  · rw [list, List.drop_left]

theorem carried_zeroed : XTinfoFrame.zeroed.carried = .initial := by
  decide +kernel

/-- What is read of a full frame tells what its groups state. -/
theorem TinfoSent.tells_of_isFull {s : TinfoSent} (full : s.isFull = true)
    (address : strtol 10 s.first.data ≠ none) (time : UInt64) (rest : List UInt8) :
    (tinfoRead time .zeroed s.groups rest).carried.Tells s.groups ∧
      (tinfoRead time .zeroed s.groups rest).frame = eTinfoFrameBlue := by
  have adco : s.first.label = ascii "ADCO" := of_decide_eq_true full
  rcases number : strtol 10 s.first.data with _ | n
  · exact absurd number address
  · let begun : XTinfoFrame :=
      { XTinfoFrame.zeroed with frame := eTinfoFrameBlue, adco := .ofInt n, time := time }
    have first : tinfoReadSeparated time .zeroed s.first.label
        (s.first.rawData (s.others.flatMap TinfoGroup.bytes ++ rest)) = begun := by
      have unread : XTinfoFrame.zeroed.frame = 0 := rfl
      rw [tinfoReadSeparated, if_pos unread, if_pos adco, XTinfoFrame.withLong, iStrToLong,
        s.first.cstr_rawData, number]
    have isFull : begun.kind = (eTinfoFrameBlue, 0) := by
      simp [begun, XTinfoFrame.kind, XTinfoFrame.zeroed]
    rcases carried_tinfoRead time isFull s.others rest with ⟨carried, kind⟩
    rw [groups, tinfoRead, first]
    refine ⟨?_, congrArg Prod.fst kind⟩
    have initial : begun.carried = .initial := carried_zeroed
    have told := tells_foldl s.groups
    rw [groups, List.foldl_cons, adco, read_of_unwatched _ _ (by simp)] at told
    rw [carried, initial]
    exact told

theorem TinfoSent.shortView_of_not_isFull {s : TinfoSent} (short : s.isFull = false) (time : UInt64)
    (rest : List UInt8) :
    (tinfoRead time .zeroed s.groups rest).shortView =
      (eTinfoFrameBlue, eTinfoFlagShort ||| eTinfoFlagAdps, 3, 0,
        tinfoOverlap 0 s.groups rest) := by
  have notAdco : s.first.label ≠ ascii "ADCO" := of_decide_eq_false short
  have adir : s.first.label.take 4 = ascii "ADIR" := s.kind.resolve_left notAdco
  let raw := s.first.rawData (s.others.flatMap TinfoGroup.bytes ++ rest)
  let begun : XTinfoFrame := { XTinfoFrame.zeroed with
    frame := eTinfoFrameBlue
    time := time
    flag := eTinfoFlagShort ||| eTinfoFlagAdps
    optarif := 3 }
  have first : tinfoReadSeparated time .zeroed s.first.label raw =
      prvvReadBlueShortItem begun s.first.label raw := by
    have unread : XTinfoFrame.zeroed.frame = 0 := rfl
    rw [tinfoReadSeparated, if_pos unread, if_neg notAdco, if_pos adir]
    rfl
  have marked : (eTinfoFlagShort ||| eTinfoFlagAdps) &&& eTinfoFlagShort ≠ 0 := by decide
  have view := shortView_prvvReadBlueShortItem begun s.first.label raw
  simp only [XTinfoFrame.shortView, Prod.mk.injEq] at view
  rcases view with ⟨frame, flag, optarif, motdetat, ptec⟩
  rw [groups, tinfoRead, first, shortView_tinfoRead (by rw [frame])
    (by rw [flag]; exact marked), frame, flag, optarif, motdetat, ptec, tinfoOverlap]
  rfl

/-- The exceptions of the frame that is read are those it should raise. -/
theorem TinfoUndisturbed.exceptions_eq {t : XTinfo} {s : TinfoSent}
    (undisturbed : TinfoUndisturbed t s) (time : UInt64) :
    let f := tinfoRead time .zeroed s.groups (s.behind t)
    f.frame = eTinfoFrameBlue ∧ f.exceptions t.memory = s.raises t.memory ∧
      f.leaves t.memory = s.leaves t.memory := by
  intro f
  rcases isFull : s.isFull with _ | _
  · have view : f.shortView = _ := TinfoSent.shortView_of_not_isFull isFull time _
    rcases undisturbed.short isFull with ⟨overlap, noStatus⟩
    simp only [XTinfoFrame.shortView, Prod.mk.injEq] at view
    rcases view with ⟨frame, flag, optarif, motdetat, ptec⟩
    have warning : (eTinfoFlagShort ||| eTinfoFlagAdps) &&& eTinfoFlagAdps ≠ 0 := by decide
    have notTempo : ¬((3 : UInt32) = eTinfoOpTarifTempo ∧ t.memory.demain ≠ f.demain) :=
      fun both => absurd both.1 (by decide)
    refine ⟨frame, ?_, ?_⟩
    · have samePtec : ¬t.memory.ptec ≠ t.ptec := fun differs => differs rfl
      have sameStatus : ¬t.memory.motdetat ≠ 0 := fun differs => differs noStatus
      rw [XTinfoFrame.exceptions, flag, optarif, motdetat, ptec, overlap, if_pos warning,
        if_neg samePtec, if_neg sameStatus, if_neg notTempo, TinfoSent.raises, isFull,
        TinfoSent.warns_of_not_isFull isFull]
      rfl
    · rw [XTinfoFrame.leaves, TinfoSent.leaves, optarif, motdetat, ptec, overlap, isFull,
        if_neg (by decide)]
      simp [XTinfo.memory, noStatus]
  · rcases undisturbed.full isFull with ⟨address, warned, color⟩
    have read := TinfoSent.tells_of_isFull isFull address time (s.behind t)
    rcases read with ⟨tells, frame⟩
    have warning : f.flag &&& eTinfoFlagAdps ≠ 0 ↔ s.warns = true := by
      rw [← warned, ← tells.warned]
      exact decide_eq_true_iff.symm
    have ptec : f.ptec = s.ptec := tells.ptec
    have motdetat : f.motdetat = s.motdetat := tells.motdetat
    have optarif : f.optarif = s.optarif := tells.optarif
    have demain (isTempo : s.optarif = eTinfoOpTarifTempo) : f.demain = s.demain :=
      tells.demain (color isTempo)
    have tempo : s.optarif = eTinfoOpTarifTempo ∧ t.memory.demain ≠ f.demain ↔
        s.optarif = eTinfoOpTarifTempo ∧ t.memory.demain ≠ s.demain :=
      and_congr_right fun isTempo => by rw [demain isTempo]
    refine ⟨frame, ?_, ?_⟩
    · simp only [TinfoSent.raises, isFull, if_true, XTinfoFrame.exceptions, ptec, motdetat, optarif,
        warning, tempo, List.append_assoc]
    · simp only [TinfoSent.leaves, isFull, if_true, XTinfoFrame.leaves, ptec, motdetat, optarif]
      split_ifs with isTempo
      · rw [demain isTempo]
      · rfl

theorem XTinfo.handlers_of_sets {t : XTinfo} (set : ∀ type, t.sets type = true)
    (raised : List ETinfoCbType) :
    t.handlers raised = if raised = [] then [.frame] else raised := by
  have all : ∀ types : List ETinfoCbType, types.filter t.sets = types := by
    intro types
    exact List.filter_eq_self.mpr fun type _ => set type
  rw [XTinfo.handlers, all, all]

theorem TinfoUndisturbed.exists_tinfoFrame {t : XTinfo} {s : TinfoSent}
    (undisturbed : TinfoUndisturbed t s) (set : ∀ type, t.sets type = true) :
    ∃ ret next, tinfoFrame t s = .ok (ret, next) ∧
      next.called.map Prod.fst = t.called.map Prod.fst ++ s.expected t.memory ∧
      next.memory = s.leaves t.memory ∧ next.cb = t.cb := by
  rcases exists_tinfoHolds t s with ⟨stored, run, holds, behind⟩
  have quiet : strchr (stored.toList.drop s.bytes.length) lf = .ok none := by
    rw [behind]
    exact undisturbed.quiet
  rcases holds.exists_tinfoDispatch undisturbed.separated quiet with ⟨buf, probe⟩
  rcases undisturbed.exceptions_eq t.time with ⟨blue, exceptions, leaves⟩
  rw [TinfoSent.behind, ← behind] at blue exceptions leaves
  let f := tinfoRead t.time .zeroed s.groups
    (etx :: stored.toList.drop s.bytes.length ++ (tinfoBehind s.bytes.length).toList)
  let between : XTinfo := { t with
    ht := tinfoSeparator t.ht s.groups
    probed := t.probed ++ [stored.toList.take s.bytes.length]
    buf := buf
    buflen := s.bytes.length }
  have received : tinfoFrame t s = .ok (tinfoDispatch between f) := by
    rw [tinfoFrame, run]
    exact probe
  rcases tinfoDispatch_spec between f with ⟨types, _, memory⟩
  have cb := congrArg Prod.fst (line_tinfoDispatch between f)
  rw [if_pos blue] at types memory
  rw [XTinfo.handlers_of_sets (t := between) set] at types
  refine ⟨_, _, received, ?_, memory.trans leaves, cb⟩
  rw [TinfoSent.expected, ← exceptions]
  exact types

theorem eventsRight_of_memory {t : XTinfo} {memory : TinfoMemory} {frames : List TinfoSent}
    (set : ∀ type, t.sets type = true) (remembered : t.memory = memory)
    (undisturbed : TinfoUndisturbedRun t frames) : TinfoEventsRight t memory frames := by
  induction frames generalizing t memory with
  | nil => trivial
  | cons s rest ih =>
      rcases undisturbed with ⟨now, later⟩
      rcases now.exists_tinfoFrame set with ⟨ret, next, received, types, left, cb⟩
      rw [remembered] at types left
      have setNext : ∀ type, next.sets type = true := by
        intro type
        rw [XTinfo.sets, cb]
        exact set type
      exact ⟨ret, next, received, types, left, ih setNext left (later ret next received)⟩

/-- In every run of undisturbed steps, the handlers that run on each frame are those that the
values of the full frames call for. -/
theorem eventsRight_of_undisturbedRun (cb : ETinfoCbType → TinfoCalls → XTinfoFrame → ℤ)
    (frames : List TinfoSent)
    (undisturbed : TinfoUndisturbedRun (tinfoStart fun type => some (cb type)) frames) :
    TinfoEventsRight (tinfoStart fun type => some (cb type))
      { ptec := 0, motdetat := 0, demain := 0 } frames :=
  eventsRight_of_memory (fun _ => rfl) rfl undisturbed

/-- A full frame with its address and a period. -/
def tinfoFullTh : TinfoSent where
  first := tinfoSpaced "ADCO" "012345678901" (by decide) (by decide +kernel) (by decide +kernel)
  others := [tinfoSpaced "PTEC" "TH.." (by decide) (by decide +kernel) (by decide +kernel)]
  length_le := by decide +kernel
  kind := Or.inl rfl

/-- A short frame that warns of the first phase. -/
def tinfoShortAdir1 : TinfoSent where
  first := tinfoSpaced "ADIR1" "045" (by decide) (by decide +kernel) (by decide +kernel)
  others := [tinfoSpaced "ADCO" "012345678901" (by decide) (by decide +kernel) (by decide +kernel)]
  length_le := by decide +kernel
  kind := Or.inr rfl

/-- A full frame of a Tempo contract. -/
def tinfoFullTempo : TinfoSent where
  first := tinfoSpaced "ADCO" "012345678901" (by decide) (by decide +kernel) (by decide +kernel)
  others :=
    [tinfoSpaced "OPTARIF" "BBR(" (by decide) (by decide +kernel) (by decide +kernel),
      tinfoSpaced "PTEC" "HPJB" (by decide) (by decide +kernel) (by decide +kernel),
      tinfoSpaced "DEMAIN" "BLEU" (by decide) (by decide +kernel) (by decide +kernel)]
  length_le := by decide +kernel
  kind := Or.inl rfl

theorem eventsRight_shortThenFull :
    TinfoEventsRight (tinfoStart fun _ => some fun _ _ => 0)
      { ptec := 0, motdetat := 0, demain := 0 } [tinfoShortAdir1, tinfoFullTempo] := by
  apply eventsRight_of_undisturbedRun (fun _ _ _ => 0)
  constructor
  · exact
      { separated := by decide +kernel
        quiet := by decide +kernel
        full := fun full => absurd full (by decide +kernel)
        short := fun _ => by decide +kernel }
  · intro ret next received
    have left : (tinfoFrame (tinfoStart fun _ => some fun _ _ => 0) tinfoShortAdir1).map (fun r =>
        (r.2.ht, strchr (r.2.buf.toList.drop tinfoFullTempo.bytes.length) lf)) =
          .ok (0x20, .ok none) := by
      decide +kernel
    rw [received] at left
    rcases Prod.mk.inj (Except.ok.inj left) with ⟨ht, quiet⟩
    have silent : ∀ g ∈ tinfoFullTempo.groups, g.warns = false := by decide +kernel
    have warning : TinfoWarningInOrder tinfoFullTempo.groups ↔ tinfoFullTempo.warns = true := by
      refine iff_of_false ?_ (by decide +kernel)
      rintro ⟨before, g, within, warns, -⟩
      rw [silent g (within.subset (by simp))] at warns
      cases warns
    have color : TinfoColorInOrder
        (tinfoFullTempo.groups.take 2 ++ tinfoFullTempo.groups.drop 2) :=
      colorInOrder_append (by decide +kernel) (by decide +kernel) (by decide +kernel)
    rw [List.take_append_drop] at color
    refine ⟨?_, fun _ _ _ => trivial⟩
    exact
      { separated := by
          change next.ht = 0x20 at ht
          rw [ht]
          decide +kernel
        quiet := quiet
        full := fun _ => ⟨by decide +kernel, warning, fun _ => color⟩
        short := fun short => absurd short (by decide +kernel) }

/-- A full frame with the colour before the option. -/
def tinfoColorFirst : TinfoSent where
  first := tinfoSpaced "ADCO" "012345678901" (by decide) (by decide +kernel) (by decide +kernel)
  others :=
    [tinfoSpaced "DEMAIN" "BLEU" (by decide) (by decide +kernel) (by decide +kernel),
      tinfoSpaced "OPTARIF" "BBR(" (by decide) (by decide +kernel) (by decide +kernel)]
  length_le := by decide +kernel
  kind := Or.inl rfl

example :
    (tinfoFrame (tinfoStart fun _ => some fun _ _ => 0) tinfoColorFirst).map
        (fun r => r.2.called.map Prod.fst) = .ok [.frame] ∧
      tinfoColorFirst.expected { ptec := 0, motdetat := 0, demain := 0 } = [.tempo] := by
  decide +kernel

/-- The short frame reports a new tariff period, which it does not carry. -/
theorem not_eventsRight_fullThenShort :
    ¬TinfoEventsRight (tinfoStart fun _ => some fun _ _ => 0)
      { ptec := 0, motdetat := 0, demain := 0 } [tinfoFullTh, tinfoShortAdir1] := by
  rintro ⟨ret, next, received, types, _, ret', next', received', types', _, _⟩
  have ran : ((tinfoFrame (tinfoStart fun _ => some fun _ _ => 0) tinfoFullTh).bind fun r =>
      (tinfoFrame r.2 tinfoShortAdir1).map fun r' => r'.2.called.map Prod.fst) =
        .ok [.ptec, .adps, .ptec] := by
    decide +kernel
  have should : tinfoShortAdir1.expected (tinfoFullTh.leaves
      { ptec := 0, motdetat := 0, demain := 0 }) = [.adps] := by
    decide +kernel
  rw [received] at ran
  change (tinfoFrame next tinfoShortAdir1).map _ = _ at ran
  rw [received'] at ran
  have first : tinfoFullTh.expected { ptec := 0, motdetat := 0, demain := 0 } = [.ptec] := by
    decide +kernel
  rw [types, should, first] at types'
  cases (Except.ok.inj ran).symm.trans types'

end Sysio.Tinfo
