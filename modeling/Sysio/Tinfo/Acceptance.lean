import Sysio.Tinfo.Dispatch
import Sysio.Tinfo.Groups

/-!
# Tinfo acceptance

A frame should only reach the handlers if it is a sequence of groups. The checksum loop and the
splitting have other ideas of what a group is: `tinfoRejects` says which buffers the loop gives
up, `TinfoDivides` on which ones the splitting finds all that it looks for, and acceptance is
sound on a buffer exactly when the first holds, or when the content is a sequence of groups and
the second holds (`soundlyAccepted_iff`).
-/

namespace Sysio.Tinfo

/-- Some CR comes two bytes behind a byte that is summed, with another byte than the checksum in
between; `count` bytes are visited at most. -/
def tinfoRejects : ℕ → UInt8 → List UInt8 → Bool
  | count + 1, sum, c :: check :: mark :: behind =>
      if c = lf then tinfoRejects count 0 (check :: mark :: behind)
      else if mark ≠ cr then tinfoRejects count (sum + c) (check :: mark :: behind)
      else
        check ≠ (sum &&& 0x3F) + 0x20 ||
          tinfoRejects (count - 2) ((sum &&& 0x3F) + 0x20) behind
  | _, _, _ => false

theorem tinfoRejects_lf (count : ℕ) (sum : UInt8) (bytes : List UInt8) :
    tinfoRejects (count + 1) sum (lf :: bytes) = tinfoRejects count 0 bytes := by
  rcases bytes with _ | ⟨c, _ | ⟨d, bytes⟩⟩
  · cases count <;> rfl
  · cases count <;> rfl
  · rw [tinfoRejects, if_pos rfl]

theorem drop_eq_cons_of_getElem? {bytes : List UInt8} {i : ℕ} {c : UInt8}
    (here : bytes[i]? = some c) : bytes.drop i = c :: bytes.drop (i + 1) := by
  rcases List.getElem?_eq_some_iff.mp here with ⟨inside, rfl⟩
  exact List.drop_eq_getElem_cons inside

/-- The checksum loop gives up exactly the buffers of `tinfoRejects`. -/
theorem tinfoChecksums_false_iff (buf : List UInt8) (buflen i : ℕ) (sum ht : UInt8) :
    (∃ learned, tinfoChecksums buf buflen i sum ht = .ok (false, learned)) ↔
      tinfoRejects (buflen - 1 - i) sum (buf.drop i) = true := by
  fun_induction tinfoChecksums buf buflen i sum ht with
  | case1 i sum ht inside missing =>
      rw [List.drop_eq_nil_of_le (List.getElem?_eq_none_iff.mp missing)]
      simp [tinfoRejects]
  | case2 i sum ht inside first ih =>
      have left : buflen - 1 - i = buflen - 1 - (i + 1) + 1 := by omega
      rw [ih, left, drop_eq_cons_of_getElem? first, tinfoRejects_lf]
  | case3 i sum ht inside c first notLf mark check second third notCr ih =>
      have left : buflen - 1 - i = buflen - 1 - (i + 1) + 1 := by omega
      rw [ih, left, drop_eq_cons_of_getElem? first, drop_eq_cons_of_getElem? second,
        drop_eq_cons_of_getElem? third, tinfoRejects, if_neg notLf, if_pos notCr]
  | case4 i sum ht inside c first notLf mark check second third isCr expected wrong =>
      have left : buflen - 1 - i = buflen - 1 - (i + 1) + 1 := by omega
      rw [left, drop_eq_cons_of_getElem? first, drop_eq_cons_of_getElem? second,
        drop_eq_cons_of_getElem? third, tinfoRejects, if_neg notLf, if_neg isCr]
      simp [expected] at wrong ⊢
      exact Or.inl wrong
  | case5 i sum ht inside c first notLf mark check second third isCr expected right ih =>
      have right := not_not.mp right
      have left : buflen - 1 - i = buflen - 1 - (i + 1) + 1 := by omega
      have leftBehind : buflen - 1 - (i + 1) - 2 = buflen - 1 - (i + 3) := by omega
      rw [← dite_eq_ite, ih, left, drop_eq_cons_of_getElem? first,
        drop_eq_cons_of_getElem? second, drop_eq_cons_of_getElem? third, tinfoRejects,
        if_neg notLf, if_neg isCr, leftBehind]
      simp [expected, right]
  | case6 i sum ht inside c first notLf short =>
      rw [drop_eq_cons_of_getElem? first]
      rcases behind : buf.drop (i + 1) with _ | ⟨check, _ | ⟨mark, rest⟩⟩
      · simp [tinfoRejects]
      · simp [tinfoRejects]
      · have ahead : ∀ k, buf[i + 1 + k]? = (check :: mark :: rest)[k]? := by
          intro k
          rw [← behind, List.getElem?_drop]
        exact absurd (ahead 0) (short mark check (ahead 1))
  | case7 i sum ht outside =>
      have left : buflen - 1 - i = 0 := by omega
      simp [left, tinfoRejects]

/-- The text of a group, with the byte two before its CR cut off. -/
def tinfoCut (text : List UInt8) (offset : ℕ) : List UInt8 :=
  if 2 ≤ offset then text.set (offset - 2) 0 else text

/-- From here on, every LF that is found before a NUL is followed by a CR, and the text that is
cut at this CR has the separator. -/
inductive TinfoDivides (ht : UInt8) : List UInt8 → Prop where
  | none {memory : List UInt8} (ended : strchr memory lf = .ok none) : TinfoDivides ht memory
  | group {memory : List UInt8} {line offset sep : ℕ}
      (begins : strchr memory lf = .ok (some line))
      (ends : strchr (memory.drop (line + 1)) cr = .ok (some offset))
      (separated : strchr (tinfoCut (memory.drop (line + 1)) offset) ht = .ok (some sep))
      (later : TinfoDivides ht
        (((tinfoCut (memory.drop (line + 1)) offset).set sep 0).drop (offset + 1))) :
      TinfoDivides ht memory

theorem tinfoDivides_iff {ht : UInt8} {memory : List UInt8} {line : ℕ}
    (begins : strchr memory lf = .ok (some line)) :
    TinfoDivides ht memory ↔
      ∃ offset sep, strchr (memory.drop (line + 1)) cr = .ok (some offset) ∧
        strchr (tinfoCut (memory.drop (line + 1)) offset) ht = .ok (some sep) ∧
        TinfoDivides ht
          (((tinfoCut (memory.drop (line + 1)) offset).set sep 0).drop (offset + 1)) := by
  constructor
  · intro divides
    cases divides with
    | none ended =>
        rw [begins] at ended
        cases ended
    | group begins' ends separated later =>
        rw [begins] at begins'
        cases begins'
        exact ⟨_, _, ends, separated, later⟩
  · rintro ⟨offset, sep, ends, separated, later⟩
    exact .group begins ends separated later

theorem drop_cut (buf : Vector UInt8 tinfoBufferSize) {label : ℕ} (offset : ℕ) (room : 2 ≤ label) :
    (buf.setIfInBounds (label + offset - 2) 0).toList.drop label =
      tinfoCut (buf.toList.drop label) offset := by
  rw [Vector.toList_setIfInBounds, List.drop_set, tinfoCut]
  by_cases long : 2 ≤ offset
  · have index : label + offset - 2 - label = offset - 2 := by omega
    rw [if_neg (by omega), if_pos long, index]
  · rw [if_pos (by omega), if_neg long]

/-- The splitting comes to its end on exactly the buffers of `TinfoDivides`. -/
theorem tinfoSplit_ok_iff (t : XTinfo) (f : XTinfoFrame) (group : ℕ) (behind : 1 ≤ group) :
    (∃ result, tinfoSplit t f group = .ok result) ↔
      TinfoDivides t.ht (t.buf.toList.drop group) := by
  have memory : ∀ (buf : Vector UInt8 tinfoBufferSize) (start line : ℕ),
      (buf.toList.drop start).drop (line + 1) = buf.toList.drop (start + line + 1) := by
    intro buf start line
    rw [List.drop_drop, ← Nat.add_assoc]
  fun_induction tinfoSplit t f group with
  | case1 t f group fault failed =>
      constructor
      · rintro ⟨_, done⟩
        cases done
      · intro divides
        cases divides with
        | none ended =>
            rw [failed] at ended
            cases ended
        | group begins _ _ _ =>
            rw [failed] at begins
            cases begins
  | case2 t f group found => exact ⟨fun _ => .none found, fun _ => ⟨_, rfl⟩⟩
  | case3 t f group line found label fault failed =>
      rw [tinfoDivides_iff found, memory]
      simp [label] at failed
      simp [failed]
  | case4 t f group line found label failed =>
      rw [tinfoDivides_iff found, memory]
      simp [label] at failed
      simp [failed]
  | case5 t f group line found label offset located last short => omega
  | case6 t f group line found label offset located last inside fault failed =>
      rw [tinfoDivides_iff found, memory]
      constructor
      · rintro ⟨_, done⟩
        cases done
      · rintro ⟨offset', sep, ends, separated, _⟩
        cases located.symm.trans ends
        rw [← drop_cut _ _ (by omega)] at separated
        exact absurd separated (prvvReadItem_error failed _)
  | case7 t f group line found label offset located last inside between item itemRead ih =>
      rcases prvvReadItem_ok itemRead with ⟨sep, separated, is⟩
      have cut := drop_cut t.buf offset (by omega : 2 ≤ label)
      have rest : between.buf.toList.drop (last + 1) =
          ((tinfoCut (t.buf.toList.drop label) offset).set sep 0).drop (offset + 1) := by
        have after : last + 1 = label + (offset + 1) := by omega
        rw [is, Vector.toList_setIfInBounds, after, ← List.drop_drop, List.drop_set,
          if_neg (by omega), cut, Nat.add_sub_cancel_left]
      have ht : between.ht = t.ht := by rw [is]
      apply (ih (by omega)).trans
      rw [rest, ht, tinfoDivides_iff found, memory]
      constructor
      · intro later
        exact ⟨offset, sep, located, by rw [← cut]; exact separated, later⟩
      · rintro ⟨offset', sep', ends, separated', later⟩
        cases located.symm.trans ends
        rw [← cut] at separated'
        cases separated.symm.trans separated'
        exact later

/-- The content of a frame is a sequence of groups. -/
def TinfoWellFormed (content : List UInt8) : Prop :=
  ∃ groups : List TinfoGroup, content = groups.flatMap TinfoGroup.bytes

/-- The frame is checked without a fault; handlers only run if the content is a sequence of
groups, and any other content is rejected. -/
def TinfoSoundlyAccepted (t : XTinfo) (content : List UInt8) : Prop :=
  ∃ ret next, prviProbeFrame t = .ok (ret, next) ∧
    (next.called ≠ t.called → TinfoWellFormed content) ∧
    (¬TinfoWellFormed content → ret = -1 ∧ next.buflen = 0 ∧ next.called = t.called)

section

variable {t : XTinfo} {content : List UInt8}

theorem TinfoHolds.prviSplitFrame_ok (holds : TinfoHolds t content) {ret : ℤ} {next : XTinfo}
    (done : prviSplitFrame t = .ok (ret, next)) :
    TinfoDivides t.ht (t.buf.toList.drop 1) ∧ (next.called = t.called → ret = 0) := by
  rw [prviSplitFrame] at done
  split at done
  · cases done
  · rename_i between f split_ok
    rw [tinfoSplit_stx _ holds.drop_zero] at split_ok
    refine ⟨(tinfoSplit_ok_iff t _ 1 le_rfl).mp ⟨_, split_ok⟩, ?_⟩
    intro silent
    rcases tinfoDispatch_spec between f with ⟨types, ret_eq, _⟩
    rcases tinfoSplit_ok split_ok with ⟨buf, rfl⟩
    rw [Except.ok.inj done] at types ret_eq
    apply ret_eq
    rw [silent] at types
    exact List.append_cancel_left (types.symm.trans (List.append_nil _).symm)

theorem TinfoHolds.exists_prviSplitFrame (holds : TinfoHolds t content)
    (divides : TinfoDivides t.ht (t.buf.toList.drop 1)) :
    ∃ ret next, prviSplitFrame t = .ok (ret, next) := by
  rcases (tinfoSplit_ok_iff t .zeroed 1 le_rfl).mpr divides with ⟨⟨between, f⟩, split_ok⟩
  rw [← tinfoSplit_stx _ holds.drop_zero] at split_ok
  exact ⟨_, _, by rw [prviSplitFrame, split_ok]⟩

end

/-- Acceptance is sound on a buffer exactly when the checksum loop gives it up, or when it holds
groups and the splitting finds in it, behind the ETX too, all that it looks for. -/
theorem soundlyAccepted_iff (t : XTinfo) (content : List UInt8) (holds : TinfoHolds t content) :
    TinfoSoundlyAccepted t content ↔
      tinfoRejects content.length 0 (t.buf.toList.drop 1) = true ∨
        ∃ groups : List TinfoGroup, content = groups.flatMap TinfoGroup.bytes ∧
          TinfoDivides (tinfoSeparator t.ht groups) (t.buf.toList.drop 1) := by
  have rejects_iff := tinfoChecksums_false_iff t.buf.toList t.buflen 1 0 t.ht
  have left : t.buflen - 1 - 1 = content.length := by
    rw [holds.buflen]
    omega
  rw [left] at rejects_iff
  rw [← rejects_iff]
  rcases scan : tinfoChecksums t.buf.toList t.buflen 1 0 t.ht with fault | ⟨_ | _, learned⟩
  · constructor
    · rintro ⟨ret, next, done, _⟩
      rw [prviProbeFrame, scan] at done
      cases done
    · rintro (⟨_, rejected⟩ | ⟨groups, rfl, _⟩)
      · cases rejected
      · cases scan.symm.trans holds.tinfoChecksums_eq
  · constructor
    · exact fun _ => .inl ⟨learned, rfl⟩
    · intro _
      have given_up : prviProbeFrame t = .ok (-1, { t with
          ht := learned
          buflen := 0
          probed := t.probed ++ [t.buf.toList.take t.buflen] }) := by
        rw [prviProbeFrame, scan]
      exact ⟨-1, _, given_up, fun ran => absurd rfl ran, fun _ => ⟨rfl, rfl, rfl⟩⟩
  · let passed : XTinfo := { t with
      ht := learned
      probed := t.probed ++ [t.buf.toList.take t.buflen] }
    have probe : prviProbeFrame t = prviSplitFrame passed := by
      rw [prviProbeFrame, scan]
    have holdsPassed : TinfoHolds passed content := ⟨holds.buflen, holds.stored⟩
    constructor
    · rintro ⟨ret, next, done, _, others⟩
      rw [probe] at done
      rcases holdsPassed.prviSplitFrame_ok done with ⟨divides, silent⟩
      have wellFormed : TinfoWellFormed content := by
        by_contra malformed
        rcases others malformed with ⟨failed, _, same⟩
        rw [silent same] at failed
        cases failed
      rcases wellFormed with ⟨groups, rfl⟩
      cases scan.symm.trans holds.tinfoChecksums_eq
      exact .inr ⟨groups, rfl, divides⟩
    · rintro (⟨_, rejected⟩ | ⟨groups, rfl, divides⟩)
      · cases rejected
      · cases scan.symm.trans holds.tinfoChecksums_eq
        rcases holdsPassed.exists_prviSplitFrame divides with ⟨ret, next, done⟩
        exact ⟨ret, next, by rw [probe, done], fun _ => ⟨groups, rfl⟩,
          fun malformed => absurd ⟨groups, rfl⟩ malformed⟩

/-- A context that has received STX, `content` and ETX into the cleared buffer. -/
def tinfoReceived (content : List UInt8) : XTinfo :=
  { xTinfoOpen with
    buf := Vector.ofFn fun i => (stx :: (content ++ [etx])).getD i 0
    buflen := content.length + 2 }

/-- A group of one letter and one digit. -/
def tinfoGroupA1 : TinfoGroup :=
  tinfoSpaced "A" "1" (by decide) (by decide +kernel) (by decide +kernel)

theorem soundlyAccepted_groupA1 :
    TinfoSoundlyAccepted (tinfoReceived tinfoGroupA1.bytes) tinfoGroupA1.bytes := by
  apply (soundlyAccepted_iff _ _ ⟨by decide +kernel, by decide +kernel⟩).mpr
  right
  refine ⟨[tinfoGroupA1], by simp, ?_⟩
  have begins :
      strchr ((tinfoReceived tinfoGroupA1.bytes).buf.toList.drop 1) lf = .ok (some 0) := by
    decide +kernel
  apply (tinfoDivides_iff begins).mpr
  refine ⟨5, 1, by decide +kernel, by decide +kernel, ?_⟩
  apply TinfoDivides.none
  decide +kernel

/-- A group without CR passes the checksum loop, and the CR that is not found is used. -/
theorem not_soundlyAccepted_unended :
    TinfoHolds (tinfoReceived [lf, 0x41]) [lf, 0x41] ∧
      ¬TinfoSoundlyAccepted (tinfoReceived [lf, 0x41]) [lf, 0x41] := by
  refine ⟨⟨by decide +kernel, by decide +kernel⟩, ?_⟩
  rintro ⟨ret, next, done, _⟩
  have faults : (prviProbeFrame (tinfoReceived [lf, 0x41])).map Prod.fst = .error .nullPointer := by
    decide +kernel
  rw [done] at faults
  cases faults

end Sysio.Tinfo
