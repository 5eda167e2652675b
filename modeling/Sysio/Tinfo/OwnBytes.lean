import Sysio.Tinfo.Acceptance

/-!
# What lies behind a Tinfo frame

The buffer is not ended by a NUL, and what earlier frames left in it stays behind the ETX. The
outcome of a frame is settled by its own bytes if the checksum loop and the string searches find
all that they look for before the end of the frame, and the digit of a phase is not looked for
behind it (`ownBytes_of_settled`); where a search goes on behind the frame, some memory there
changes the outcome (`TinfoOwnBytes.settled`).
-/

namespace Sysio.Tinfo

/-- The contexts agree on all that a frame is decoded from, its bytes from STX to ETX included,
and on what the handlers have seen before. -/
structure TinfoSameFrame (t other : XTinfo) : Prop where
  cb : other.cb = t.cb
  buflen : other.buflen = t.buflen
  own : other.buf.toList.take t.buflen = t.buf.toList.take t.buflen
  time : other.time = t.time
  ht : other.ht = t.ht
  ptec : other.ptec = t.ptec
  motdetat : other.motdetat = t.motdetat
  demain : other.demain = t.demain
  called : other.called = t.called

/-- What the outside sees of a context, and what it remembers. -/
def XTinfo.seen (t : XTinfo) :
    (ETinfoCbType → Option (TinfoCalls → XTinfoFrame → ℤ)) × TinfoCalls × UInt8 × UInt32 ×
      UInt32 × UInt32 :=
  (t.cb, t.called, t.ht, t.ptec, t.motdetat, t.demain)

/-- The same result, the same frames passed to the same handlers in the same order, and the same
`ht`, `ptec`, `motdetat` and `demain`. -/
def TinfoSameOutcome (left right : ℤ × XTinfo) : Prop :=
  right.1 = left.1 ∧ right.2.seen = left.2.seen

/-- What a frame leads to depends on its own bytes only. -/
def TinfoOwnBytes (t : XTinfo) : Prop :=
  ∀ other, TinfoSameFrame t other →
    ∃ left right, prviProbeFrame t = .ok left ∧ prviProbeFrame other = .ok right ∧
      TinfoSameOutcome left right

/-- The digit of a phase, where one is looked for without a look at the length of the data, is
within the data. -/
def TinfoPhaseInside (f : XTinfoFrame) (label data : List UInt8) : Prop :=
  iStrToLong data 10 = none ∨
    (label.take 4 = ascii "ADIR" → 5 ≤ data.length) ∧
      (f.flag &&& eTinfoFlagShort ≠ 0 → label.take 5 = ascii "IINST" → 6 ≤ data.length)

/-- The splitting finds in the memory all that it looks for, with the frame as it is read. -/
inductive TinfoReadsInside (ht : UInt8) (time : UInt64) : XTinfoFrame → List UInt8 → Prop where
  | none {f : XTinfoFrame} {memory : List UInt8} (ended : strchr memory lf = .ok none) :
      TinfoReadsInside ht time f memory
  | group {f : XTinfoFrame} {memory text : List UInt8} {line offset sep : ℕ}
      (begins : strchr memory lf = .ok (some line))
      (ends : strchr (memory.drop (line + 1)) cr = .ok (some offset))
      (separated : strchr (tinfoCut (memory.drop (line + 1)) offset) ht = .ok (some sep))
      (cut : text = (tinfoCut (memory.drop (line + 1)) offset).set sep 0)
      (phase : TinfoPhaseInside f (cstr text) (text.drop (sep + 1)))
      (later : TinfoReadsInside ht time
        (tinfoReadSeparated time f (cstr text) (text.drop (sep + 1))) (text.drop (offset + 1))) :
      TinfoReadsInside ht time f memory

/-- On the bytes of the frame alone, the checksum loop comes to its end, and if it finds no error
the splitting does. -/
def TinfoSettled (t : XTinfo) (content : List UInt8) : Prop :=
  ∃ passed learned,
    tinfoChecksums (stx :: (content ++ [etx])) (content.length + 2) 1 0 t.ht =
      .ok (passed, learned) ∧
    (passed = true → TinfoDivides learned (content ++ [etx]))

/-- As `TinfoSettled`, and the phases are inside the frame too. -/
def TinfoPhasesSettled (t : XTinfo) (content : List UInt8) : Prop :=
  ∃ passed learned,
    tinfoChecksums (stx :: (content ++ [etx])) (content.length + 2) 1 0 t.ht =
      .ok (passed, learned) ∧
    (passed = true → TinfoReadsInside learned t.time .zeroed (content ++ [etx]))

/-! ### The reading of an item -/

section

variable {f : XTinfoFrame} {label data tail : List UInt8}

theorem iStrToLong_append (ended : (0 : UInt8) ∈ data) (base : ℕ) :
    iStrToLong (data ++ tail) base = iStrToLong data base := by
  rw [iStrToLong, cstr_append_of_mem ended, iStrToLong]

theorem withLong_append (ended : (0 : UInt8) ∈ data) (base : ℕ) (store : ℤ → XTinfoFrame) :
    f.withLong (data ++ tail) base store = f.withLong data base store := by
  rw [XTinfoFrame.withLong, iStrToLong_append ended, XTinfoFrame.withLong]

theorem getD_append_of_lt {index : ℕ} (inside : index < data.length) :
    (data ++ tail).getD index 0 = data.getD index 0 := by
  rw [List.getD_eq_getElem?_getD, List.getElem?_append_left inside, List.getD_eq_getElem?_getD]

theorem tinfoPhase_append {index : ℕ} (inside : index < data.length) :
    tinfoPhase (data ++ tail) index = tinfoPhase data index := by
  rw [tinfoPhase, getD_append_of_lt inside, tinfoPhase]

theorem tinfoReadOpTarif_append (ended : (0 : UInt8) ∈ data) :
    tinfoReadOpTarif f (data ++ tail) = tinfoReadOpTarif f data := by
  rw [tinfoReadOpTarif, cstr_append_of_mem ended, tinfoReadOpTarif]
  by_cases tempo : (cstr data).take 3 = ascii "BBR"
  · have long : 3 ≤ (cstr data).length := by
      have three := congrArg List.length tempo
      rw [List.length_take] at three
      have length_eq : (ascii "BBR").length = 3 := by decide
      omega
    have inside := length_cstr_lt ended
    rw [getD_append_of_lt (by omega)]
  · rw [if_neg tempo, if_neg tempo]

theorem tinfoReadPhase_append (ended : (0 : UInt8) ∈ data) (bound : ℕ)
    (store : XTinfoFrame → Fin 3 → UInt32 → XTinfoFrame) :
    tinfoReadPhase f (data ++ tail) bound store = tinfoReadPhase f data bound store := by
  rw [tinfoReadPhase, withLong_append ended, tinfoReadPhase, cstr_append_of_mem ended]
  by_cases long : (cstr data).length > bound
  · have inside := length_cstr_lt ended
    rw [tinfoPhase_append (by omega)]
  · simp only [if_neg long]

theorem prvvReadBlueItem_append (ended : (0 : UInt8) ∈ data) :
    prvvReadBlueItem f label (data ++ tail) = prvvReadBlueItem f label data := by
  have inside : 0 < data.length := List.length_pos_of_mem ended
  simp only [prvvReadBlueItem, tinfoReadTarif, tinfoReadOpTarif_append ended,
    withLong_append ended, tinfoReadPhase_append ended, cstr_append_of_mem ended,
    getD_append_of_lt inside]

theorem prvvReadBlueShortItem_append (ended : (0 : UInt8) ∈ data)
    (phase : iStrToLong data 10 = none ∨ (label.take 4 = ascii "ADIR" → 5 ≤ data.length) ∧
      (label.take 5 = ascii "IINST" → 6 ≤ data.length)) :
    prvvReadBlueShortItem f label (data ++ tail) = prvvReadBlueShortItem f label data := by
  simp only [prvvReadBlueShortItem, withLong_append ended]
  rcases phase with unread | ⟨adir, iinst⟩
  · simp only [XTinfoFrame.withLong, unread]
  · by_cases isAdir : label.take 4 = ascii "ADIR"
    · have inside := adir isAdir
      simp only [if_pos isAdir, tinfoPhase_append inside]
    · by_cases isIinst : label.take 5 = ascii "IINST"
      · have inside := iinst isIinst
        simp only [tinfoPhase_append inside, if_neg isAdir]
      · simp only [if_neg isAdir, if_neg isIinst]

theorem adir_ne_iinst (isAdir : label.take 4 = ascii "ADIR") : label.take 5 ≠ ascii "IINST" := by
  intro isIinst
  have four := congrArg (List.take 4) isIinst
  rw [List.take_take, Nat.min_eq_left (by omega), isAdir] at four
  revert four
  decide

/-- An item whose string ends in the memory is read from it, but for the digit of its phase. -/
theorem tinfoReadSeparated_append (time : UInt64) (ended : (0 : UInt8) ∈ data)
    (phase : TinfoPhaseInside f label data) :
    tinfoReadSeparated time f label (data ++ tail) = tinfoReadSeparated time f label data := by
  simp only [tinfoReadSeparated, withLong_append ended, prvvReadBlueItem_append ended]
  by_cases first : f.frame = 0
  · by_cases isAdir : label.take 4 = ascii "ADIR"
    · have notIinst := adir_ne_iinst isAdir
      rw [if_pos first, if_pos first, prvvReadBlueShortItem_append ended
        (phase.imp_right fun inside => ⟨inside.1, fun isIinst => absurd isIinst notIinst⟩)]
    · simp only [if_pos first, if_neg isAdir]
  · by_cases isShort : f.flag &&& eTinfoFlagShort ≠ 0
    · rw [if_neg first, if_neg first, prvvReadBlueShortItem_append ended
        (phase.imp_right fun inside => ⟨inside.1, inside.2 isShort⟩)]
    · simp only [if_neg first, if_neg isShort]

/-- No label that is compared with starts like this. -/
def TinfoNoLabel (label : List UInt8) : Prop := label.length < 2 ∨ cr ∈ label.take 2

theorem TinfoNoLabel.ne (junk : TinfoNoLabel label) {text : String}
    (clean : 2 ≤ (ascii text).length ∧ cr ∉ (ascii text).take 2) :
    (label = ascii text) = False := by
  apply eq_false
  rintro rfl
  rcases junk with short | ended
  · omega
  · exact clean.2 ended

theorem TinfoNoLabel.take_ne (junk : TinfoNoLabel label) {text : String} {count : ℕ}
    (clean : 2 ≤ (ascii text).length ∧ cr ∉ (ascii text).take 2) (long : 2 ≤ count) :
    (label.take count = ascii text) = False := by
  apply eq_false
  intro same
  rw [← same, List.length_take, List.take_take, Nat.min_eq_left long] at clean
  rcases junk with short | ended
  · omega
  · exact clean.2 ended

theorem tinfoReadSeparated_of_noLabel (time : UInt64) (junk : TinfoNoLabel label) :
    tinfoReadSeparated time f label data = f := by
  have tarif : tinfoReadTarif f label data = f := by
    simp (disch := decide) only [tinfoReadTarif, junk.ne, if_false, ite_self]
  have blue : prvvReadBlueItem f label data = f := by
    simp (disch := decide) only [prvvReadBlueItem, junk.ne, junk.take_ne, if_false, tarif, ite_self]
  have short : prvvReadBlueShortItem f label data = f := by
    simp (disch := decide) only [prvvReadBlueShortItem, junk.ne, junk.take_ne, if_false]
  simp (disch := decide) only [tinfoReadSeparated, junk.ne, junk.take_ne, if_false, blue, short,
    ite_self]

end

/-! ### The bytes of the frame are enough -/

section

variable {ht : UInt8} {time : UInt64} {f : XTinfoFrame} {memory rest tail : List UInt8}
  {offset sep : ℕ}

theorem tinfoCut_append (inside : offset < rest.length) :
    tinfoCut (rest ++ tail) offset = tinfoCut rest offset ++ tail := by
  rw [tinfoCut, tinfoCut]
  split_ifs
  · rw [List.set_append_left _ _ (by omega)]
  · rfl

theorem length_tinfoCut (rest : List UInt8) (offset : ℕ) :
    (tinfoCut rest offset).length = rest.length := by
  rw [tinfoCut]
  split_ifs <;> simp

theorem drop_tinfoCut (rest : List UInt8) (offset : ℕ) :
    (tinfoCut rest offset).drop (offset + 1) = rest.drop (offset + 1) := by
  rw [tinfoCut]
  split_ifs
  · rw [List.drop_set_of_lt (by omega)]
  · rfl

/-- Where the separator is NUL, nothing is changed behind a group. -/
theorem TinfoReadsInside.zero_mem (inside : TinfoReadsInside ht time f memory) (isNul : ht = 0) :
    (0 : UInt8) ∈ memory := by
  induction inside with
  | none ended => exact zero_mem_of_strchr_none ended
  | group begins ends separated cut phase later ih =>
      rcases exists_of_strchr separated with ⟨before, after, split, rfl, _⟩
      rw [isNul] at split
      rw [cut, split, List.set_append_right _ _ le_rfl, Nat.sub_self, List.set_cons_zero, ← split,
        drop_tinfoCut] at ih
      exact List.mem_of_mem_drop (List.mem_of_mem_drop ih)

/-- The string of the data ends before the CR, or where the separator is NUL in what follows. -/
theorem zero_mem_data (long : 2 ≤ offset) (inside : offset < rest.length)
    (separated : strchr (tinfoCut rest offset) ht = .ok (some sep))
    (later : ht = 0 → (0 : UInt8) ∈ rest.drop (offset + 1)) :
    (0 : UInt8) ∈ ((tinfoCut rest offset).set sep 0).drop (sep + 1) := by
  rcases exists_of_strchr separated with ⟨before, after, split, rfl, clean⟩
  have cutHere : (tinfoCut rest offset)[offset - 2]? = some 0 := by
    rw [tinfoCut, if_pos long, List.getElem?_set_self (by omega)]
  rw [List.drop_set_of_lt (by omega), split, ← List.drop_drop, List.drop_left, List.drop_one,
    List.tail_cons]
  rw [split] at cutHere
  rcases Nat.lt_trichotomy (offset - 2) before.length with earlier | here | behind
  · rw [List.getElem?_append_left earlier] at cutHere
    exact absurd rfl (clean 0 (List.mem_of_getElem? cutHere)).2
  · rw [here, List.getElem?_append_right le_rfl, Nat.sub_self] at cutHere
    have isNul : ht = 0 := by simpa using cutHere
    have rest_eq := drop_tinfoCut rest offset
    have position : offset + 1 = before.length + 3 := by omega
    rw [split, position, ← List.drop_drop, List.drop_left] at rest_eq
    have there := later isNul
    rw [position, ← rest_eq] at there
    exact List.mem_of_mem_drop (i := 2) there
  · rw [List.getElem?_append_right (by omega)] at cutHere
    have index : offset - 2 - before.length = offset - 3 - before.length + 1 := by omega
    rw [index, List.getElem?_cons_succ] at cutHere
    exact List.mem_of_getElem? cutHere

/-- A CR among the first two characters, as they were before the separator was cut off. -/
theorem noLabel_of_short (short : offset < 2) (ends : strchr rest cr = .ok (some offset))
    (sep : ℕ) :
    TinfoNoLabel (cstr (rest.set sep 0)) := by
  rcases exists_of_strchr ends with ⟨before, after, rfl, rfl, clean⟩
  rcases before with _ | ⟨b, _ | ⟨d, before⟩⟩
  · rcases sep with _ | sep
    · exact .inl (by simp [cstr_cons])
    · exact .inr (by simp [cstr_cons, cr])
  · have nonzero : b ≠ 0 := (clean b (by simp)).2
    rcases sep with _ | _ | sep
    · exact .inl (by simp [cstr_cons])
    · exact .inl (by simp [cstr_cons, nonzero])
    · exact .inr (by simp [cstr_cons, nonzero, cr])
  · simp only [List.length_cons] at short
    omega

/-- The item of a group is read from the group, or its label is none that is compared with. -/
theorem tinfoReadSeparated_inside {text : List UInt8} (ends : strchr rest cr = .ok (some offset))
    (separated : strchr (tinfoCut rest offset) ht = .ok (some sep))
    (cut : text = (tinfoCut rest offset).set sep 0)
    (phase : TinfoPhaseInside f (cstr text) (text.drop (sep + 1)))
    (later : ht = 0 → (0 : UInt8) ∈ text.drop (offset + 1)) (tail : List UInt8) :
    tinfoReadSeparated time f (cstr text) (text.drop (sep + 1) ++ tail) =
      tinfoReadSeparated time f (cstr text) (text.drop (sep + 1)) := by
  by_cases long : 2 ≤ offset
  · apply tinfoReadSeparated_append time _ phase
    rw [cut]
    apply zero_mem_data long (strchr_lt ends) separated
    intro isNul
    have behindCr := later isNul
    rcases exists_of_strchr separated with ⟨before, after, split, rfl, _⟩
    rw [isNul] at split
    rw [cut, split, List.set_append_right _ _ le_rfl, Nat.sub_self, List.set_cons_zero,
      ← split, drop_tinfoCut] at behindCr
    exact behindCr
  · have uncut : tinfoCut rest offset = rest := by
      rw [tinfoCut, if_neg long]
    have junk : TinfoNoLabel (cstr text) := by
      rw [cut, uncut]
      exact noLabel_of_short (by omega) ends sep
    rw [tinfoReadSeparated_of_noLabel time junk, tinfoReadSeparated_of_noLabel time junk]

/-- What follows the memory has no part in the frame that is read. -/
theorem TinfoReadsInside.exists_split (inside : TinfoReadsInside ht time f memory) :
    ∃ read, ∀ (t : XTinfo) (group : ℕ) (tail : List UInt8), 1 ≤ group → t.ht = ht →
      t.time = time → t.buf.toList.drop group = memory ++ tail →
        ∃ buf, tinfoSplit t f group = .ok ({ t with buf := buf }, read) := by
  induction inside with
  | @none f memory ended =>
      refine ⟨f, fun t group tail _ _ _ here => ⟨t.buf, ?_⟩⟩
      rw [tinfoSplit, here, strchr_append_of_ok ended]
  | @group f memory text line offset sep begins ends separated cut phase later ih =>
      rcases ih with ⟨read, run⟩
      refine ⟨read, fun t group tail behind sameHt sameTime here => ?_⟩
      let rest := memory.drop (line + 1)
      have lineIn := strchr_lt begins
      have offsetIn : offset < rest.length := strchr_lt ends
      have sepIn : sep < rest.length := by
        rw [← length_tinfoCut rest offset]
        exact strchr_lt separated
      have restHere : t.buf.toList.drop (group + line + 1) = rest ++ tail := by
        rw [Nat.add_assoc, ← List.drop_drop, here, List.drop_append_of_le_length (by omega)]
      have located := strchr_append_of_ok ends tail
      rw [← restHere] at located
      -- the buffer once the group is cut at its end, and then at the separator
      let cutBuf := t.buf.setIfInBounds (group + line + 1 + offset - 2) 0
      have cutHere : cutBuf.toList.drop (group + line + 1) = tinfoCut rest offset ++ tail := by
        rw [drop_cut t.buf offset (by omega), restHere, tinfoCut_append offsetIn]
      let sepBuf := cutBuf.setIfInBounds (group + line + 1 + sep) 0
      have sepHere : sepBuf.toList.drop (group + line + 1) = text ++ tail := by
        rw [Vector.toList_setIfInBounds, List.drop_set, if_neg (by omega), cutHere,
          Nat.add_sub_cancel_left, List.set_append_left _ _ (strchr_lt separated), cut]
      have dropHere : ∀ k ≤ text.length,
          sepBuf.toList.drop (group + line + 1 + k) = text.drop k ++ tail := by
        intro k short
        rw [← List.drop_drop, sepHere, List.drop_append_of_le_length short]
      have length_eq : text.length = rest.length := by
        rw [cut, List.length_set, length_tinfoCut]
      have labelEnds : (0 : UInt8) ∈ text := by
        rw [cut]
        exact List.mem_set (strchr_lt separated) 0
      have item := @tinfoReadSeparated_inside _ time _ _ _ _ _ ends separated cut phase
        later.zero_mem (tail ++ (tinfoBehind t.buflen).toList)
      have itemRead : prvvReadItem { t with buf := cutBuf } f (group + line + 1) =
          .ok ({ t with buf := sepBuf },
            tinfoReadSeparated time f (cstr text) (text.drop (sep + 1))) := by
        have found := strchr_append_of_ok separated tail
        rw [← cutHere, ← sameHt] at found
        rw [prvvReadItem]
        simp only [found]
        change Except.ok ({ t with buf := sepBuf }, tinfoReadSeparated t.time f
          (cstr (sepBuf.toList.drop (group + line + 1)))
          (sepBuf.toList.drop (group + line + 1 + sep + 1) ++ (tinfoBehind t.buflen).toList)) = _
        rw [sepHere, cstr_append_of_mem labelEnds, sameTime, Nat.add_assoc (group + line + 1),
          dropHere (sep + 1) (by omega), List.append_assoc, item]
      have goesOn := run { t with buf := sepBuf } (group + line + 1 + offset + 1) tail (by omega)
        sameHt sameTime (dropHere (offset + 1) (by omega))
      rcases goesOn with ⟨buf, all⟩
      refine ⟨buf, ?_⟩
      rw [tinfoSplit, here, strchr_append_of_ok begins]
      simp only
      split
      · rename_i fault failed
        rw [located] at failed
        cases failed
      · rename_i failed
        rw [located] at failed
        cases failed
      · rename_i offset' found
        rw [located] at found
        cases found
        rw [if_neg (by omega)]
        simp only [cutBuf] at itemRead
        rw [itemRead]
        exact all

end

/-! ### The handlers -/

namespace TinfoDispatch

/-- The handlers agree, and what they were given. -/
structure Same (d e : TinfoDispatch) : Prop where
  f : e.f = d.f
  ret : e.ret = d.ret
  processed : e.bFrameHasBeenProcessed = d.bFrameHasBeenProcessed
  seen : e.t.seen = d.t.seen

section

variable {d e : TinfoDispatch}

theorem Same.call (same : Same d e) (type : ETinfoCbType) : Same (d.call type) (e.call type) := by
  have seen := same.seen
  simp only [XTinfo.seen, Prod.mk.injEq] at seen
  rcases seen with ⟨cb, called, ht, ptec, motdetat, demain⟩
  rw [TinfoDispatch.call, TinfoDispatch.call, cb]
  rcases d.t.cb type with _ | handler
  · exact same
  · refine ⟨same.f, ?_, rfl, ?_⟩
    · simp only [called, same.f]
    · simp only [XTinfo.seen, cb, called, ht, ptec, motdetat, demain, same.f]

theorem Same.onAdps (same : Same d e) : Same d.onAdps e.onAdps := by
  rw [TinfoDispatch.onAdps, TinfoDispatch.onAdps, same.f]
  split
  · exact same.call .adps
  · exact same

theorem Same.onPtec (same : Same d e) : Same d.onPtec e.onPtec := by
  have seen := same.seen
  simp only [XTinfo.seen, Prod.mk.injEq] at seen
  rcases seen with ⟨cb, called, ht, ptec, motdetat, demain⟩
  rw [TinfoDispatch.onPtec, TinfoDispatch.onPtec, ptec, same.f]
  split
  · apply Same.call
    refine ⟨rfl, same.ret, same.processed, ?_⟩
    simp only [XTinfo.seen, cb, called, ht, motdetat, demain]
  · exact same

theorem Same.onMotEtat (same : Same d e) : Same d.onMotEtat e.onMotEtat := by
  have seen := same.seen
  simp only [XTinfo.seen, Prod.mk.injEq] at seen
  rcases seen with ⟨cb, called, ht, ptec, motdetat, demain⟩
  rw [TinfoDispatch.onMotEtat, TinfoDispatch.onMotEtat, motdetat, same.f]
  split
  · apply Same.call
    refine ⟨rfl, same.ret, same.processed, ?_⟩
    simp only [XTinfo.seen, cb, called, ht, ptec, demain]
  · exact same

theorem Same.onTempo (same : Same d e) : Same d.onTempo e.onTempo := by
  have seen := same.seen
  simp only [XTinfo.seen, Prod.mk.injEq] at seen
  rcases seen with ⟨cb, called, ht, ptec, motdetat, demain⟩
  rw [TinfoDispatch.onTempo, TinfoDispatch.onTempo, demain, same.f]
  split
  · apply Same.call
    refine ⟨rfl, same.ret, same.processed, ?_⟩
    simp only [XTinfo.seen, cb, called, ht, ptec, motdetat]
  · exact same

theorem Same.onFrame (same : Same d e) : Same d.onFrame e.onFrame := by
  rw [TinfoDispatch.onFrame, TinfoDispatch.onFrame, same.processed]
  split
  · exact same
  · exact same.call .frame

end

end TinfoDispatch

theorem sameOutcome_tinfoDispatch {t other : XTinfo} (f : XTinfoFrame)
    (same : other.seen = t.seen) :
    TinfoSameOutcome (tinfoDispatch t f) (tinfoDispatch other f) := by
  have start : TinfoDispatch.Same
      { t := t, f := f, ret := 0, bFrameHasBeenProcessed := false }
      { t := other, f := f, ret := 0, bFrameHasBeenProcessed := false } := ⟨rfl, rfl, rfl, same⟩
  have flushed {d e : TinfoDispatch} (handled : TinfoDispatch.Same d e) :
      TinfoSameOutcome (d.ret, { d.t with buflen := 0 }) (e.ret, { e.t with buflen := 0 }) :=
    ⟨handled.ret, handled.seen⟩
  rw [tinfoDispatch, tinfoDispatch]
  split
  · exact flushed start.onAdps.onPtec.onMotEtat.onTempo.onFrame
  · exact flushed start.onFrame

section

variable {t : XTinfo} {content : List UInt8}

theorem TinfoHolds.toList_eq (holds : TinfoHolds t content) :
    t.buf.toList = stx :: (content ++ [etx]) ++ t.buf.toList.drop t.buflen := by
  have whole := List.take_append_drop t.buflen t.buf.toList
  rw [holds.stored] at whole
  exact whole.symm

theorem TinfoSameFrame.holds {other : XTinfo} (same : TinfoSameFrame t other)
    (holds : TinfoHolds t content) : TinfoHolds other content where
  buflen := same.buflen.trans holds.buflen
  stored := by
    rw [same.buflen, same.own]
    exact holds.stored

theorem TinfoSameFrame.seen {other : XTinfo} (same : TinfoSameFrame t other) :
    other.seen = t.seen := by
  simp only [XTinfo.seen, same.cb, same.called, same.ht, same.ptec, same.motdetat, same.demain]

/-- The context behind the checksum loop. -/
def XTinfo.checked (t : XTinfo) (learned : UInt8) : XTinfo :=
  { t with ht := learned, probed := t.probed ++ [t.buf.toList.take t.buflen] }

theorem TinfoHolds.checked (holds : TinfoHolds t content) (learned : UInt8) :
    TinfoHolds (t.checked learned) content := ⟨holds.buflen, holds.stored⟩

theorem prviProbeFrame_of_checksums {passed : Bool} {learned : UInt8}
    (checked : tinfoChecksums t.buf.toList t.buflen 1 0 t.ht = .ok (passed, learned)) :
    prviProbeFrame t =
      if passed = true then prviSplitFrame (t.checked learned)
      else .ok (-1, { t.checked learned with buflen := 0 }) := by
  rw [prviProbeFrame, checked]
  cases passed <;> rfl

theorem TinfoHolds.prviProbeFrame_of_checked (holds : TinfoHolds t content) {passed : Bool}
    {learned : UInt8}
    (checked : tinfoChecksums (stx :: (content ++ [etx])) (content.length + 2) 1 0 t.ht =
      .ok (passed, learned)) :
    prviProbeFrame t =
      if passed = true then prviSplitFrame (t.checked learned)
      else .ok (-1, { t.checked learned with buflen := 0 }) := by
  have whole := tinfoChecksums_append checked (t.buf.toList.drop t.buflen)
  rw [← holds.toList_eq, ← holds.buflen] at whole
  exact prviProbeFrame_of_checksums whole

/-- What a settled frame comes to does not depend on what lies behind it. -/
theorem ownBytes_of_settled (holds : TinfoHolds t content)
    (settled : TinfoPhasesSettled t content) : TinfoOwnBytes t := by
  rcases settled with ⟨passed, learned, checked, inside⟩
  intro other same
  have otherHolds := same.holds holds
  have otherChecked := checked
  rw [← same.ht] at otherChecked
  have probe := holds.prviProbeFrame_of_checked checked
  have otherProbe := otherHolds.prviProbeFrame_of_checked otherChecked
  have seen := same.seen
  simp only [XTinfo.seen, Prod.mk.injEq] at seen
  rcases seen with ⟨cb, called, _, ptec, motdetat, demain⟩
  cases passed with
  | false =>
      refine ⟨_, _, probe, otherProbe, rfl, ?_⟩
      simp only [XTinfo.seen, XTinfo.checked, cb, called, ptec, motdetat, demain]
  | true =>
      rcases (inside rfl).exists_split with ⟨read, run⟩
      have split (t' : XTinfo) (holds' : TinfoHolds t' content) (sameTime : t'.time = t.time) :
          ∃ buf, prviSplitFrame (t'.checked learned) =
            .ok (tinfoDispatch { t'.checked learned with buf := buf } read) := by
        have fromOne := (holds'.checked learned).drop_one
        rw [← List.singleton_append, ← List.append_assoc] at fromOne
        rcases run (t'.checked learned) 1 _ le_rfl rfl sameTime fromOne with ⟨buf, all⟩
        refine ⟨buf, ?_⟩
        rw [prviSplitFrame, tinfoSplit_stx _ (holds'.checked learned).drop_zero, all]
      rcases split t holds rfl with ⟨buf, done⟩
      rcases split other otherHolds same.time with ⟨otherBuf, otherDone⟩
      rw [if_pos rfl, done] at probe
      rw [if_pos rfl, otherDone] at otherProbe
      refine ⟨_, _, probe, otherProbe, sameOutcome_tinfoDispatch read ?_⟩
      simp only [XTinfo.seen, XTinfo.checked, cb, called, ptec, motdetat, demain]

end

/-! ### The bytes of the frame are needed -/

/-- A loop that looks behind the memory looks at the first byte there, and takes the frame for
wrong if that is a CR. -/
theorem tinfoChecksums_behind {before : List UInt8} {i : ℕ} {sum ht : UInt8} {fault : Fault}
    (failed : tinfoChecksums (before ++ [etx]) (before.length + 1) i sum ht = .error fault) :
    ∃ learned, ∀ (e : UInt8) (tail : List UInt8),
      tinfoChecksums (before ++ etx :: e :: tail) (before.length + 1) i sum ht =
        .ok (decide (e ≠ cr), learned) := by
  have length_eq : (before ++ [etx]).length = before.length + 1 := by simp
  have ahead {k : ℕ} {c e : UInt8} {tail : List UInt8} (here : (before ++ [etx])[k]? = some c) :
      (before ++ etx :: e :: tail)[k]? = some c := by
    rcases List.getElem?_eq_some_iff.mp here with ⟨inside, _⟩
    have split : before ++ etx :: e :: tail = before ++ [etx] ++ e :: tail := by simp
    rw [split, List.getElem?_append_left inside, here]
  generalize isOwn : before ++ [etx] = own at failed ahead
  generalize isLength : before.length + 1 = buflen at failed
  fun_induction tinfoChecksums own buflen i sum ht with
  | case1 i sum ht inside missing =>
      rw [← isOwn, List.getElem?_eq_none_iff] at missing
      omega
  | case2 i sum ht inside first ih =>
      rcases ih failed with ⟨learned, run⟩
      refine ⟨learned, fun e tail => ?_⟩
      rw [tinfoChecksums, if_pos inside, ahead first, ← run e tail]
      simp
  | case3 i sum ht inside c first notLf mark check second third notCr ih =>
      rcases ih failed with ⟨learned, run⟩
      refine ⟨learned, fun e tail => ?_⟩
      rw [tinfoChecksums, if_pos inside, ahead first, ← run e tail]
      simp only [if_neg notLf, ahead second, ahead third, if_pos notCr]
  | case4 => cases failed
  | case5 i sum ht inside c first notLf mark check second third isCr expected right ih =>
      rcases ih failed with ⟨learned, run⟩
      simp only [dite_eq_ite] at run
      refine ⟨learned, fun e tail => ?_⟩
      rw [tinfoChecksums, if_pos inside, ahead first, ← run e tail]
      simp only [if_neg notLf, ahead second, ahead third, if_neg isCr]
      rw [if_neg right]
  | case6 i sum ht inside c first notLf short =>
      -- the byte before the ETX
      have position : i + 1 = before.length := by
        by_contra other
        have second : own[i + 1]? = some (own.get ⟨i + 1, by rw [← isOwn]; omega⟩) :=
          List.getElem?_eq_getElem _
        have third : own[i + 2]? = some (own.get ⟨i + 2, by rw [← isOwn]; omega⟩) :=
          List.getElem?_eq_getElem _
        exact short _ _ third second
      refine ⟨ht, fun e tail => ?_⟩
      have second : (before ++ etx :: e :: tail)[i + 1]? = some etx := by
        rw [position, List.getElem?_append_right le_rfl, Nat.sub_self]
        rfl
      have third : (before ++ etx :: e :: tail)[i + 2]? = some e := by
        have index : i + 2 = before.length + 1 := by omega
        rw [index, List.getElem?_append_right (by omega), Nat.add_sub_cancel_left]
        rfl
      rw [tinfoChecksums, if_pos inside, ahead first]
      simp only [if_neg notLf, second, third]
      by_cases isCr : e = cr
      · have wrong : etx ≠ (sum &&& 0x3F) + 0x20 := by
          have plain : ∀ sum : UInt8, etx ≠ (sum &&& 0x3F) + 0x20 := by decide +kernel
          exact plain sum
        simp [isCr, wrong]
      · rw [if_pos isCr, tinfoChecksums, if_neg (by omega)]
        simp [isCr]
  | case7 => cases failed

/-- Behind the frame every search goes on to the end of the buffer. -/
def TinfoPassed (ht : UInt8) (tail : List UInt8) : Prop :=
  ∀ b ∈ tail, b ≠ 0 ∧ b ≠ lf ∧ b ≠ cr ∧ b ≠ ht

theorem TinfoDivides.of_append {ht : UInt8} {memory tail : List UInt8}
    (divides : TinfoDivides ht (memory ++ tail)) (passed : TinfoPassed ht tail) :
    TinfoDivides ht memory := by
  have search (bytes : List UInt8) {c : UInt8} (isMark : c = lf ∨ c = cr ∨ c = ht) :
      strchr (bytes ++ tail) c = strchr bytes c := by
    apply strchr_append_of_passed
    intro b b_mem
    rcases passed b b_mem with ⟨notNul, notLf, notCr, notHt⟩
    rcases isMark with rfl | rfl | rfl
    · exact ⟨notLf, notNul⟩
    · exact ⟨notCr, notNul⟩
    · exact ⟨notHt, notNul⟩
  generalize isWhole : memory ++ tail = whole at divides
  induction divides generalizing memory with
  | none ended =>
      rw [← isWhole, search memory (.inl rfl)] at ended
      exact .none ended
  | @group whole line offset sep begins ends separated later ih =>
      rw [← isWhole, search memory (.inl rfl)] at begins
      have lineIn := strchr_lt begins
      have rest : whole.drop (line + 1) = memory.drop (line + 1) ++ tail := by
        rw [← isWhole, List.drop_append_of_le_length (by omega)]
      rw [rest, search _ (.inr (.inl rfl))] at ends
      have offsetIn := strchr_lt ends
      rw [rest, tinfoCut_append offsetIn] at separated ih
      rw [search _ (.inr (.inr rfl))] at separated
      have sepIn := strchr_lt separated
      have length_eq := length_tinfoCut (memory.drop (line + 1)) offset
      refine .group begins ends separated (ih ?_)
      rw [List.set_append_left _ _ sepIn,
        List.drop_append_of_le_length (by rw [List.length_set, length_eq]; omega)]

section

variable {t : XTinfo} {content : List UInt8}

theorem TinfoHolds.buflen_le (holds : TinfoHolds t content) : t.buflen ≤ tinfoBufferSize := by
  have lengths := congrArg List.length holds.stored
  rw [List.length_take, Vector.length_toList] at lengths
  have whole : (stx :: (content ++ [etx])).length = t.buflen := by
    rw [holds.buflen]
    simp
  omega

/-- The rest of the buffer may be filled with any byte. -/
theorem TinfoHolds.exists_tail (holds : TinfoHolds t content) (d : UInt8) :
    ∃ other, TinfoSameFrame t other ∧ other.buf.toList =
      stx :: content ++ etx :: List.replicate (tinfoBufferSize - t.buflen) d := by
  let bytes := stx :: content ++ etx :: List.replicate (tinfoBufferSize - t.buflen) d
  have size : bytes.toArray.size = tinfoBufferSize := by
    have inside := holds.buflen_le
    have buflen := holds.buflen
    simp only [bytes, List.size_toArray, List.length_append, List.length_cons,
      List.length_replicate]
    omega
  have own : bytes.take t.buflen = t.buf.toList.take t.buflen := by
    have split : bytes =
        stx :: (content ++ [etx]) ++ List.replicate (tinfoBufferSize - t.buflen) d := by
      simp [bytes]
    have length_eq : t.buflen = (stx :: (content ++ [etx])).length := by
      rw [holds.buflen]
      simp
    rw [holds.stored, split, length_eq, List.take_left]
  exact ⟨{ t with buf := ⟨bytes.toArray, size⟩ },
    ⟨rfl, rfl, own, rfl, rfl, rfl, rfl, rfl, rfl⟩, rfl⟩

theorem exists_passed (ht : UInt8) (count : ℕ) :
    ∃ d : UInt8, TinfoPassed ht (List.replicate count d) := by
  by_cases isOne : ht = 1
  · refine ⟨2, fun b b_mem => ?_⟩
    rw [List.eq_of_mem_replicate b_mem, isOne]
    decide
  · refine ⟨1, fun b b_mem => ?_⟩
    rw [List.eq_of_mem_replicate b_mem]
    exact ⟨by decide, by decide, by decide, Ne.symm isOne⟩

/-- The loop does not look behind a frame that is decoded from its own bytes only: a CR there
would make it wrong, and other bytes would not. -/
theorem TinfoOwnBytes.exists_checked (holds : TinfoHolds t content) (ownBytes : TinfoOwnBytes t) :
    ∃ result, tinfoChecksums (stx :: (content ++ [etx])) (content.length + 2) 1 0 t.ht =
      .ok result := by
  rcases checked : tinfoChecksums (stx :: (content ++ [etx])) (content.length + 2) 1 0 t.ht with
    fault | result
  · have full : tinfoChecksums (stx :: content ++ [etx]) ((stx :: content).length + 1) 1 0 t.ht =
        .error fault := checked
    rcases tinfoChecksums_behind full with ⟨learned, run⟩
    have behind {other : XTinfo} {d : UInt8} {room : ℕ} (same : TinfoSameFrame t other)
        (memory : other.buf.toList = stx :: content ++ etx :: List.replicate (room + 1) d) :
        tinfoChecksums other.buf.toList other.buflen 1 0 other.ht =
          .ok (decide (d ≠ cr), learned) := by
      rw [memory, same.buflen, same.ht, holds.buflen, List.replicate_succ]
      exact run d (List.replicate room d)
    rcases holds.exists_tail cr with ⟨marked, sameMarked, markedMemory⟩
    rcases holds.exists_tail 1 with ⟨passed, samePassed, passedMemory⟩
    rcases ownBytes _ sameMarked with ⟨left, right, done, rejected, outcome⟩
    rcases ownBytes _ samePassed with ⟨left', right', done', split, outcome'⟩
    rw [done] at done'
    cases done'
    rcases room : tinfoBufferSize - t.buflen with _ | room
    · -- the frame fills the buffer
      rw [room, List.replicate_zero] at markedMemory
      have buflen : marked.buflen = (stx :: content).length + 1 :=
        sameMarked.buflen.trans holds.buflen
      rw [prviProbeFrame, markedMemory, buflen, sameMarked.ht, full] at rejected
      cases rejected
    · rw [room] at markedMemory passedMemory
      rw [prviProbeFrame_of_checksums (behind sameMarked markedMemory)] at rejected
      rw [prviProbeFrame_of_checksums (behind samePassed passedMemory)] at split
      cases rejected
      have splitOk : prviSplitFrame (passed.checked learned) = .ok (right'.1, right'.2) := split
      have silent := (((samePassed.holds holds).checked learned).prviSplitFrame_ok splitOk).2
      have called : right'.2.called = passed.called :=
        ((congrArg (fun seen => seen.2.1) outcome'.2).trans
          (congrArg (fun seen => seen.2.1) outcome.2).symm).trans
            (sameMarked.called.trans samePassed.called.symm)
      have ret : right'.1 = -1 := outcome'.1.trans outcome.1.symm
      rw [silent called] at ret
      cases ret
  · exact ⟨result, rfl⟩

/-- A frame that is decoded from its own bytes only is settled by them. -/
theorem TinfoOwnBytes.settled (holds : TinfoHolds t content) (ownBytes : TinfoOwnBytes t) :
    TinfoSettled t content := by
  rcases ownBytes.exists_checked holds with ⟨⟨passed, learned⟩, checked⟩
  refine ⟨passed, learned, checked, ?_⟩
  rintro rfl
  rcases exists_passed learned (tinfoBufferSize - t.buflen) with ⟨d, quiet⟩
  rcases holds.exists_tail d with ⟨other, same, memory⟩
  rcases ownBytes _ same with ⟨_, right, _, done, _⟩
  have holdsTail := same.holds holds
  have otherChecked := checked
  rw [← same.ht] at otherChecked
  rw [holdsTail.prviProbeFrame_of_checked otherChecked, if_pos rfl] at done
  have splitOk : prviSplitFrame (other.checked learned) = .ok (right.1, right.2) := done
  have divides := ((holdsTail.checked learned).prviSplitFrame_ok splitOk).1
  change TinfoDivides learned (other.buf.toList.drop 1) at divides
  rw [memory] at divides
  exact TinfoDivides.of_append (by simpa using divides) quiet

end

/-- A frame is decoded from its own bytes only if it is settled by them and the digits of its
phases are inside, and not if a search leaves it. -/
theorem tinfoOwnBytes_of_settled (t : XTinfo) (content : List UInt8)
    (holds : TinfoHolds t content) :
    (TinfoPhasesSettled t content → TinfoOwnBytes t) ∧
      (TinfoOwnBytes t → TinfoSettled t content) :=
  ⟨ownBytes_of_settled holds, fun ownBytes => ownBytes.settled holds⟩

/-- A group, and a NUL that ends the splitting. -/
def tinfoEndedGroup : List UInt8 := tinfoGroupA1.bytes ++ [0, lf]

theorem tinfoOwnBytes_endedGroup : TinfoOwnBytes (tinfoReceived tinfoEndedGroup) := by
  apply (tinfoOwnBytes_of_settled (tinfoReceived tinfoEndedGroup) tinfoEndedGroup
    ⟨by decide +kernel, by decide +kernel⟩).1
  refine ⟨true, 0x20, by decide +kernel, fun _ => ?_⟩
  have begins : strchr (tinfoEndedGroup ++ [etx]) lf = .ok (some 0) := by decide +kernel
  have ends : strchr ((tinfoEndedGroup ++ [etx]).drop 1) cr = .ok (some 5) := by decide +kernel
  have separated : strchr (tinfoCut ((tinfoEndedGroup ++ [etx]).drop 1) 5) 0x20 = .ok (some 1) := by
    decide +kernel
  apply TinfoReadsInside.group begins ends separated rfl
  · exact .inr ⟨by decide +kernel, by decide +kernel⟩
  · exact .none (by decide +kernel)

/-- Behind a frame that is one group the splitting goes on. -/
theorem not_tinfoOwnBytes_groupA1 : ¬TinfoOwnBytes (tinfoReceived tinfoGroupA1.bytes) := by
  intro ownBytes
  have holds : TinfoHolds (tinfoReceived tinfoGroupA1.bytes) tinfoGroupA1.bytes :=
    ⟨by decide +kernel, by decide +kernel⟩
  rcases ownBytes.settled holds with
    ⟨passed, learned, checked, divides⟩
  have loop : tinfoChecksums (stx :: (tinfoGroupA1.bytes ++ [etx]))
      (tinfoGroupA1.bytes.length + 2) 1 0 0 = .ok (true, 0x20) := by
    decide +kernel
  cases loop.symm.trans checked
  have begins : strchr (tinfoGroupA1.bytes ++ [etx]) lf = .ok (some 0) := by decide +kernel
  rcases (tinfoDivides_iff begins).mp (divides rfl) with ⟨offset, sep, ends, separated, later⟩
  have cr_at : strchr ((tinfoGroupA1.bytes ++ [etx]).drop 1) cr = .ok (some 5) := by
    decide +kernel
  cases cr_at.symm.trans ends
  have sep_at : strchr (tinfoCut ((tinfoGroupA1.bytes ++ [etx]).drop 1) 5) 0x20 =
      .ok (some 1) := by
    decide +kernel
  cases sep_at.symm.trans separated
  have left : ((tinfoCut ((tinfoGroupA1.bytes ++ [etx]).drop 1) 5).set 1 0).drop 6 = [etx] := by
    decide +kernel
  change TinfoDivides 0x20
    (((tinfoCut ((tinfoGroupA1.bytes ++ [etx]).drop 1) 5).set 1 0).drop 6) at later
  rw [left] at later
  cases later with
  | none ended => cases ended
  | group begins _ _ _ => cases begins

end Sysio.Tinfo
