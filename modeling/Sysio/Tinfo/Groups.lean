import Sysio.Tinfo.Receiver

/-!
# Tinfo groups

A group is LF, the label, the separator, the data, the separator again, the checksum and CR.
On a buffer that holds groups, the checksum loop goes from one group to the next
(`tinfoChecksums_groups`), and so does the splitting, which reads each label and data
(`tinfoSplit_groups`).
-/

namespace Sysio.Tinfo

/-- A byte that ends neither a string nor a group. -/
def TinfoPlain (c : UInt8) : Prop := c ≠ 0 ∧ c ≠ lf ∧ c ≠ cr

instance (c : UInt8) : Decidable (TinfoPlain c) := inferInstanceAs (Decidable (_ ∧ _ ∧ _))

/-- A group: its label, the separator and its data. -/
structure TinfoGroup where
  label : List UInt8
  sep : UInt8
  data : List UInt8
  label_ne : label ≠ []
  label_plain : ∀ c ∈ label, TinfoPlain c
  label_ne_sep : ∀ c ∈ label, c ≠ sep
  sep_plain : TinfoPlain sep
  data_plain : ∀ c ∈ data, TinfoPlain c

/-- A group with spaces. -/
def tinfoSpaced (label data : String) (label_ne : ascii label ≠ [])
    (label_plain : ∀ c ∈ ascii label, TinfoPlain c ∧ c ≠ 0x20)
    (data_plain : ∀ c ∈ ascii data, TinfoPlain c) : TinfoGroup where
  label := ascii label
  sep := 0x20
  data := ascii data
  label_ne := label_ne
  label_plain := fun c c_mem => (label_plain c c_mem).1
  label_ne_sep := fun c c_mem => (label_plain c c_mem).2
  sep_plain := by decide
  data_plain := data_plain

namespace TinfoGroup

/-- The bytes that the checksum covers. -/
def body (g : TinfoGroup) : List UInt8 := g.label ++ g.sep :: g.data

/-- The sum of the bytes, added to `start`. -/
def sumOf (bytes : List UInt8) (start : UInt8) : UInt8 := bytes.foldl (· + ·) start

/-- The checksum. -/
def check (g : TinfoGroup) : UInt8 := (sumOf g.body 0 &&& 0x3F) + 0x20

/-- The bytes of the group on the line. -/
def bytes (g : TinfoGroup) : List UInt8 := lf :: (g.body ++ [g.sep, g.check, cr])

/-- The memory from the data on once the group is cut, with what follows the group. -/
def rawData (g : TinfoGroup) (rest : List UInt8) : List UInt8 :=
  g.data ++ 0 :: g.check :: cr :: rest

theorem body_plain (g : TinfoGroup) : ∀ c ∈ g.body, TinfoPlain c := by
  intro c c_mem
  rcases List.mem_append.mp c_mem with inLabel | inRest
  · exact g.label_plain c inLabel
  · rcases List.mem_cons.mp inRest with rfl | inData
    · exact g.sep_plain
    · exact g.data_plain c inData

theorem length_bytes (g : TinfoGroup) : g.bytes.length = g.body.length + 4 := by
  simp [bytes]

theorem rawData_append (g : TinfoGroup) (rest behind : List UInt8) :
    g.rawData rest ++ behind = g.rawData (rest ++ behind) := by
  rw [rawData, rawData, List.append_assoc]
  rfl

end TinfoGroup

theorem tinfoCheck_plain (sum : UInt8) : TinfoPlain ((sum &&& 0x3F) + 0x20) := by
  revert sum
  decide +kernel

theorem tinfoChecksums_body {buf : List UInt8} {buflen i : ℕ} {body rest : List UInt8}
    {sep check : UInt8} (sum ht : UInt8) (here : buf.drop i = body ++ sep :: check :: cr :: rest)
    (body_plain : ∀ c ∈ body, TinfoPlain c) (sep_plain : TinfoPlain sep) (checkNe : check ≠ cr)
    (inside : i + body.length + 3 < buflen) :
    tinfoChecksums buf buflen i sum ht =
      if check ≠ (TinfoGroup.sumOf body sum &&& 0x3F) + 0x20 then .ok (false, ht)
      else tinfoChecksums buf buflen (i + body.length + 3)
        ((TinfoGroup.sumOf body sum &&& 0x3F) + 0x20) (if ht = 0 then sep else ht) := by
  have ahead : ∀ k, buf[i + k]? = (body ++ sep :: check :: cr :: rest)[k]? := by
    intro k
    rw [← here, List.getElem?_drop]
  induction body generalizing i sum with
  | nil =>
      have first := ahead 0
      have second := ahead 1
      have third := ahead 2
      simp only [List.nil_append, List.getElem?_cons_zero, List.getElem?_cons_succ,
        Nat.add_zero] at first second third
      rw [tinfoChecksums, if_pos (by simp only [List.length_nil] at inside; omega), first]
      simp only [if_neg sep_plain.2.1, second, third, ne_eq, not_true_eq_false, if_false]
      rfl
  | cons c body ih =>
      have plain := body_plain c (by simp)
      have later : buf.drop (i + 1) = body ++ sep :: check :: cr :: rest := by
        rw [← List.drop_drop, here]
        rfl
      have first : buf[i]? = some c := by simpa using ahead 0
      -- two bytes on there is a byte of the body, the separator or the checksum
      have third : ∃ mark, buf[i + 2]? = some mark ∧ mark ≠ cr := by
        rw [ahead 2]
        rcases body with _ | ⟨d, _ | ⟨e, body⟩⟩
        · exact ⟨check, rfl, checkNe⟩
        · exact ⟨sep, rfl, sep_plain.2.2⟩
        · exact ⟨e, rfl, (body_plain e (by simp)).2.2⟩
      have second : ∃ next, buf[i + 1]? = some next := by
        rw [ahead 1]
        rcases body with _ | ⟨d, body⟩
        · exact ⟨sep, rfl⟩
        · exact ⟨d, rfl⟩
      rcases third with ⟨mark, third, notCr⟩
      rcases second with ⟨next, second⟩
      rw [List.length_cons] at inside
      have step : tinfoChecksums buf buflen i sum ht =
          tinfoChecksums buf buflen (i + 1) (sum + c) ht := by
        rw [tinfoChecksums, if_pos (by omega), first]
        simp only [if_neg plain.2.1, third, second, if_pos notCr]
      rw [step, ih (sum + c) later (fun d d_mem => body_plain d (by simp [d_mem])) (by omega) (by
        intro k
        rw [← later, List.getElem?_drop])]
      have position : i + 1 + body.length + 3 = i + (body.length + 1) + 3 := by omega
      rw [List.length_cons, position]
      rfl

/-- The separator that is remembered behind some groups. -/
def tinfoSeparator (ht : UInt8) : List TinfoGroup → UInt8
  | [] => ht
  | g :: _ => if ht = 0 then g.sep else ht

theorem tinfoSeparator_cons (ht : UInt8) (g : TinfoGroup) (groups : List TinfoGroup) :
    tinfoSeparator (if ht = 0 then g.sep else ht) groups = tinfoSeparator ht (g :: groups) := by
  have nonzero : (if ht = 0 then g.sep else ht) ≠ 0 := by
    split
    · exact g.sep_plain.1
    · assumption
  cases groups with
  | nil => rfl
  | cons h groups => rw [tinfoSeparator, if_neg nonzero, tinfoSeparator]

theorem tinfoChecksums_groups {buf : List UInt8} {buflen i : ℕ} {groups : List TinfoGroup}
    {rest : List UInt8} (sum ht : UInt8)
    (here : buf.drop i = groups.flatMap TinfoGroup.bytes ++ rest)
    (inside : i + (groups.flatMap TinfoGroup.bytes).length < buflen) :
    ∃ last, tinfoChecksums buf buflen i sum ht =
      tinfoChecksums buf buflen (i + (groups.flatMap TinfoGroup.bytes).length) last
        (tinfoSeparator ht groups) := by
  induction groups generalizing i sum ht with
  | nil => exact ⟨sum, rfl⟩
  | cons g groups ih =>
      rw [List.flatMap_cons, List.append_assoc] at here
      rw [List.flatMap_cons, List.length_append, g.length_bytes] at inside
      have first : buf[i]? = some lf := by
        rw [← Nat.add_zero i, ← List.getElem?_drop, here]
        rfl
      have behind : buf.drop (i + 1) =
          g.body ++ g.sep :: g.check :: cr :: (groups.flatMap TinfoGroup.bytes ++ rest) := by
        rw [← List.drop_drop, here]
        simp [TinfoGroup.bytes]
      have later : buf.drop (i + g.bytes.length) = groups.flatMap TinfoGroup.bytes ++ rest := by
        rw [← List.drop_drop, here, List.drop_left]
      have step : tinfoChecksums buf buflen i sum ht = tinfoChecksums buf buflen (i + 1) 0 ht := by
        rw [tinfoChecksums, if_pos (by omega), first]
        simp
      have room : i + 1 + g.body.length + 3 < buflen := by omega
      have body := tinfoChecksums_body 0 ht behind g.body_plain g.sep_plain
        (tinfoCheck_plain _).2.2 room
      have right : ¬g.check ≠ (TinfoGroup.sumOf g.body 0 &&& 0x3F) + 0x20 := fun wrong => wrong rfl
      rw [if_neg right] at body
      rcases ih g.check (if ht = 0 then g.sep else ht) later
        (by rw [g.length_bytes]; omega) with ⟨last, run⟩
      refine ⟨last, ?_⟩
      have position : i + (g.body.length + 4) = i + 1 + g.body.length + 3 := by omega
      rw [step, body, List.flatMap_cons, List.length_append, ← tinfoSeparator_cons, ← Nat.add_assoc,
        ← run, g.length_bytes, position]
      rfl

theorem tinfoSplit_stx {t : XTinfo} (f : XTinfoFrame) {group : ℕ} {rest : List UInt8}
    (here : t.buf.toList.drop group = stx :: rest) :
    tinfoSplit t f group = tinfoSplit t f (group + 1) := by
  have behind : t.buf.toList.drop (group + 1) = rest := by
    rw [← List.drop_drop, here]
    rfl
  have passed : strchr (t.buf.toList.drop group) lf =
      (strchr (t.buf.toList.drop (group + 1)) lf).map (Option.map (· + 1)) := by
    rw [here, behind, strchr, if_neg (by decide), if_neg (by decide)]
  rw [tinfoSplit, tinfoSplit, passed]
  rcases strchr (t.buf.toList.drop (group + 1)) lf with fault | _ | line
  · rfl
  · rfl
  · have position : group + (line + 1) + 1 = group + 1 + line + 1 := by omega
    simp only [Except.map, Option.map_some]
    rw [position]

/-- The reading of groups that all have the remembered separator; `rest` comes behind them. -/
def tinfoRead (time : UInt64) (f : XTinfoFrame) : List TinfoGroup → List UInt8 → XTinfoFrame
  | [], _ => f
  | g :: groups, rest =>
      tinfoRead time
        (tinfoReadSeparated time f g.label
          (g.rawData (groups.flatMap TinfoGroup.bytes ++ rest))) groups rest

theorem drop_setIfInBounds {buf : Vector UInt8 tinfoBufferSize} {i : ℕ} {before rest : List UInt8}
    {c : UInt8} (here : buf.toList.drop i = before ++ c :: rest) :
    (buf.setIfInBounds (i + before.length) 0).toList.drop i = before ++ 0 :: rest := by
  rw [Vector.toList_setIfInBounds, List.drop_set, if_neg (by omega), here]
  simp

theorem prvvReadItem_group {t : XTinfo} (f : XTinfoFrame) {label : ℕ} {g : TinfoGroup}
    {rest : List UInt8} (sep : g.sep = t.ht)
    (here : t.buf.toList.drop label = g.body ++ 0 :: g.check :: cr :: rest) :
    ∃ buf, prvvReadItem t f label =
        .ok ({ t with buf := buf }, tinfoReadSeparated t.time f g.label
          (g.rawData (rest ++ (tinfoBehind t.buflen).toList))) ∧
      buf.toList.drop (label + g.body.length + 3) = rest := by
  have split : t.buf.toList.drop label = g.label ++ g.sep :: g.rawData rest := by
    rw [here]
    simp [TinfoGroup.body, TinfoGroup.rawData]
  have found : strchr (t.buf.toList.drop label) t.ht = .ok (some g.label.length) := by
    rw [split, ← sep]
    exact strchr_of_clean _ fun c c_mem => ⟨g.label_ne_sep c c_mem, (g.label_plain c c_mem).1⟩
  have cut := drop_setIfInBounds split
  have text : cstr (g.label ++ 0 :: g.rawData rest) = g.label :=
    cstr_append (fun c c_mem => (g.label_plain c c_mem).1) _
  have data : (t.buf.setIfInBounds (label + g.label.length) 0).toList.drop
      (label + g.label.length + 1) = g.rawData rest := by
    rw [Nat.add_assoc, ← List.drop_drop, cut]
    simp
  refine ⟨t.buf.setIfInBounds (label + g.label.length) 0, ?_, ?_⟩
  · rw [prvvReadItem, found]
    simp only [cut, text, data, g.rawData_append]
  · have lengths :
        label + g.body.length + 3 = label + g.label.length + 1 + (g.data.length + 3) := by
      simp only [TinfoGroup.body, List.length_append, List.length_cons]
      omega
    rw [lengths, ← List.drop_drop, data, ← List.drop_drop, TinfoGroup.rawData, List.drop_left]
    rfl

theorem tinfoSplit_group {t : XTinfo} (f : XTinfoFrame) {group : ℕ} {g : TinfoGroup}
    {rest : List UInt8} (sep : g.sep = t.ht) (here : t.buf.toList.drop group = g.bytes ++ rest) :
    ∃ buf, tinfoSplit t f group =
        tinfoSplit { t with buf := buf }
          (tinfoReadSeparated t.time f g.label
            (g.rawData (rest ++ (tinfoBehind t.buflen).toList))) (group + g.bytes.length) ∧
      buf.toList.drop (group + g.bytes.length) = rest := by
  have line : strchr (t.buf.toList.drop group) lf = .ok (some 0) := by
    rw [here]
    simp [TinfoGroup.bytes, strchr]
  have behind : t.buf.toList.drop (group + 0 + 1) = g.body ++ g.sep :: g.check :: cr :: rest := by
    rw [Nat.add_zero, ← List.drop_drop, here]
    simp [TinfoGroup.bytes]
  have plain : ∀ c ∈ g.body ++ [g.sep, g.check], c ≠ cr ∧ c ≠ 0 := by
    intro c c_mem
    have isPlain : TinfoPlain c := by
      simp only [List.mem_append, List.mem_cons, List.not_mem_nil, or_false] at c_mem
      rcases c_mem with inBody | rfl | rfl
      · exact g.body_plain c inBody
      · exact g.sep_plain
      · exact tinfoCheck_plain _
    exact ⟨isPlain.2.2, isPlain.1⟩
  have last : strchr (t.buf.toList.drop (group + 0 + 1)) cr = .ok (some (g.body.length + 2)) := by
    have ends : g.body ++ g.sep :: g.check :: cr :: rest =
        (g.body ++ [g.sep, g.check]) ++ cr :: rest := by simp
    rw [behind, ends, strchr_of_clean _ plain]
    simp
  have cut := drop_setIfInBounds behind
  rcases prvvReadItem_group (t := { t with
      buf := t.buf.setIfInBounds (group + 0 + 1 + g.body.length) 0 }) f sep cut with
    ⟨buf, read, after⟩
  have position : group + g.bytes.length = group + 0 + 1 + (g.body.length + 2) + 1 := by
    rw [g.length_bytes]
    omega
  refine ⟨buf, ?_, by rw [position]; exact after⟩
  rw [tinfoSplit, line]
  simp only
  split
  · rename_i fault failed
    rw [last] at failed
    cases failed
  · rename_i failed
    rw [last] at failed
    cases failed
  · rename_i offset found
    rw [last] at found
    cases found
    have cutAt : group + 0 + 1 + (g.body.length + 2) - 2 = group + 0 + 1 + g.body.length := by
      omega
    rw [if_neg (by omega), cutAt, read, position]

/-- The splitting takes all groups that have the remembered separator. -/
theorem tinfoSplit_groups {t : XTinfo} (f : XTinfoFrame) {group : ℕ} {groups : List TinfoGroup}
    {rest : List UInt8} (sep : ∀ g ∈ groups, g.sep = t.ht)
    (here : t.buf.toList.drop group = groups.flatMap TinfoGroup.bytes ++ rest) :
    ∃ buf, tinfoSplit t f group =
        tinfoSplit { t with buf := buf }
          (tinfoRead t.time f groups (rest ++ (tinfoBehind t.buflen).toList))
          (group + (groups.flatMap TinfoGroup.bytes).length) ∧
      buf.toList.drop (group + (groups.flatMap TinfoGroup.bytes).length) = rest := by
  induction groups generalizing t f group with
  | nil => exact ⟨t.buf, rfl, here⟩
  | cons g groups ih =>
      rw [List.flatMap_cons, List.append_assoc] at here
      rcases tinfoSplit_group f (sep g (by simp)) here with ⟨between, one, behind⟩
      rcases ih (t := { t with buf := between })
        (tinfoReadSeparated t.time f g.label
          (g.rawData (groups.flatMap TinfoGroup.bytes ++ rest ++ (tinfoBehind t.buflen).toList)))
        (fun h h_mem => sep h (by simp [h_mem])) behind with ⟨buf, all, after⟩
      rw [List.flatMap_cons, List.length_append, ← Nat.add_assoc, tinfoRead, ← List.append_assoc]
      exact ⟨buf, one.trans all, after⟩

/-- What follows the groups of a frame in the memory. -/
def XTinfo.behindGroups (t : XTinfo) : List UInt8 :=
  etx :: t.buf.toList.drop t.buflen ++ (tinfoBehind t.buflen).toList

/-- The buffer holds the content between STX and ETX. -/
structure TinfoHolds (t : XTinfo) (content : List UInt8) : Prop where
  buflen : t.buflen = content.length + 2
  stored : t.buf.toList.take t.buflen = stx :: (content ++ [etx])

section

variable {t : XTinfo} {content : List UInt8}

theorem TinfoHolds.drop_zero (holds : TinfoHolds t content) :
    t.buf.toList.drop 0 = stx :: (content ++ etx :: t.buf.toList.drop t.buflen) := by
  have whole := List.take_append_drop t.buflen t.buf.toList
  rw [holds.stored] at whole
  simpa using whole.symm

theorem TinfoHolds.drop_one (holds : TinfoHolds t content) :
    t.buf.toList.drop 1 = content ++ etx :: t.buf.toList.drop t.buflen := by
  have behindStx := congrArg (List.drop 1) holds.drop_zero
  rw [List.drop_drop] at behindStx
  exact behindStx

theorem TinfoHolds.tinfoChecksums_eq {groups : List TinfoGroup}
    (holds : TinfoHolds t (groups.flatMap TinfoGroup.bytes)) :
    tinfoChecksums t.buf.toList t.buflen 1 0 t.ht = .ok (true, tinfoSeparator t.ht groups) := by
  have inside : 1 + (groups.flatMap TinfoGroup.bytes).length < t.buflen := by
    rw [holds.buflen]
    omega
  rcases tinfoChecksums_groups 0 t.ht holds.drop_one inside with ⟨last, run⟩
  rw [run, tinfoChecksums, if_neg (by rw [holds.buflen]; omega)]

/-- A frame of groups with one separator, the remembered one if there is one, comes to the
handlers as its groups read one after the other, if a NUL follows before any LF. -/
theorem TinfoHolds.exists_tinfoDispatch {groups : List TinfoGroup}
    (holds : TinfoHolds t (groups.flatMap TinfoGroup.bytes))
    (separated : ∀ g ∈ groups, g.sep = tinfoSeparator t.ht groups)
    (quiet : strchr (t.buf.toList.drop t.buflen) lf = .ok none) :
    ∃ buf, prviProbeFrame t = .ok (tinfoDispatch
      { t with
        ht := tinfoSeparator t.ht groups
        probed := t.probed ++ [t.buf.toList.take t.buflen]
        buf := buf }
      (tinfoRead t.time .zeroed groups t.behindGroups)) := by
  let passed : XTinfo := { t with
    ht := tinfoSeparator t.ht groups
    probed := t.probed ++ [t.buf.toList.take t.buflen] }
  have split : tinfoSplit passed .zeroed 0 = tinfoSplit passed .zeroed 1 :=
    tinfoSplit_stx (t := passed) _ holds.drop_zero
  rcases tinfoSplit_groups (t := passed) .zeroed separated holds.drop_one with ⟨buf, all, behind⟩
  have ended : strchr (etx :: t.buf.toList.drop t.buflen) lf = .ok none := by
    rw [strchr, if_neg (by decide), if_neg (by decide), quiet]
    rfl
  refine ⟨buf, ?_⟩
  rw [prviProbeFrame, holds.tinfoChecksums_eq]
  change prviSplitFrame passed = _
  rw [prviSplitFrame, split, all, tinfoSplit]
  simp only [behind, ended]
  rfl

end

end Sysio.Tinfo
