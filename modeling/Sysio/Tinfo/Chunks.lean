import Sysio.Tinfo.Receiver

/-!
# Tinfo reads

The bytes come in reads of any size. The groups that the receiver should check are those of the
byte stream alone (`tinfoGroups`): STX directly behind an ETX, up to the next ETX, with no EOT.
As long as nothing follows, in one read, the end of a group that this read should have ended
(`TinfoWellCut`), the reads act as the bytes one by one, and these check every group once.
-/

namespace Sysio.Tinfo

/-- The bytes that one poll reads. -/
structure TinfoChunk where
  bytes : List UInt8
  ne_nil : bytes ≠ []
  length_le : bytes.length ≤ tinfoBufferSize

section

variable (clock : ℕ → UInt64)

/-- A poll that reads a chunk. -/
def tinfoPoll (t : XTinfo) (chunk : TinfoChunk) : Except Fault XTinfo :=
  (iTinfoPoll clock t chunk.bytes.length (some chunk.bytes)).map Prod.snd

/-- The polls, one after the other. -/
def tinfoPolls (t : XTinfo) (chunks : List TinfoChunk) : Except Fault XTinfo :=
  chunks.foldlM (tinfoPoll clock) t

/-- A poll that reads one byte. -/
def tinfoByte (t : XTinfo) (c : UInt8) : Except Fault XTinfo :=
  (prviProbeBuffer clock t [c]).map Prod.snd

end

/-- What ends a group that was opened before: everything up to an ETX, unless an EOT comes
first. -/
def tinfoClosed : List UInt8 → Option (List UInt8)
  | [] => none
  | c :: rest =>
      if c = etx then some [etx]
      else if c = eot then none
      else (tinfoClosed rest).map (c :: ·)

/-- The groups of a stream that follows the byte `previous`. -/
def tinfoGroups (previous : UInt8) : List UInt8 → List (List UInt8)
  | [] => []
  | c :: rest =>
      if previous = etx ∧ c = stx then
        (tinfoClosed rest).toList.map (stx :: ·) ++ tinfoGroups c rest
      else tinfoGroups c rest

/-- The bytes up to the first ETX or EOT, or up to the end. -/
def tinfoSpan : List UInt8 → ℕ
  | [] => 0
  | c :: rest => if c = etx ∨ c = eot then 1 else tinfoSpan rest + 1

/-- No frame is longer than the buffer less one byte. -/
def TinfoFramesFit (previous : UInt8) : List UInt8 → Prop
  | [] => True
  | c :: rest =>
      (previous = etx ∧ c = stx → tinfoSpan rest + 1 < tinfoBufferSize) ∧ TinfoFramesFit c rest

/-- The bytes behind the first STX that directly follows an ETX. -/
def tinfoBehindStx (previous : UInt8) : List UInt8 → List UInt8
  | [] => []
  | c :: rest => if previous = etx ∧ c = stx then rest else tinfoBehindStx c rest

/-- Between two frames a read does not reach the end of a frame that begins in it; in a frame
its first ETX or EOT is its last byte. -/
def TinfoWellCut (t : XTinfo) (chunk : List UInt8) : Prop :=
  if t.buflen = 0 then ∀ c ∈ tinfoBehindStx t.pchar chunk, c ≠ etx ∧ c ≠ eot
  else ∀ c ∈ chunk.dropLast, c ≠ etx ∧ c ≠ eot

/-- Every read of the run is well cut. -/
def TinfoWellCutRun (clock : ℕ → UInt64) (t : XTinfo) : List TinfoChunk → Prop
  | [] => True
  | chunk :: rest =>
      TinfoWellCut t chunk.bytes ∧
        ∀ next, tinfoPoll clock t chunk = .ok next → TinfoWellCutRun clock next rest

/-- The groups were checked, each once and in order; where a check faulted, those up to it. -/
def TinfoChecked (result : Except Fault XTinfo) (groups : List (List UInt8)) : Prop :=
  match result with
  | .ok t => t.probed = groups
  | .error fault =>
      ∃ t checked group later, groups = checked ++ group :: later ∧ t.probed = checked ∧
        t.buf.toList.take t.buflen = group ∧ prviProbeFrame t = .error fault

section

variable {clock : ℕ → UInt64}

theorem foldlM_tinfoHunt_of_started {t : XTinfo} (started : t.started = true)
    (quiet : t.pchar ≠ etx) (buffer : List UInt8) :
    buffer.foldlM (tinfoHunt clock) t = buffer.foldlM XTinfo.store t := by
  induction buffer generalizing t with
  | nil => rfl
  | cons c buffer ih =>
      have stores : tinfoHunt clock t c = t.store c := by
        simp [tinfoHunt, quiet, started]
      rw [List.foldlM_cons, List.foldlM_cons, stores]
      by_cases room : t.buflen < tinfoBufferSize
      · have stored : t.store c = .ok { t with
            buf := t.buf.set t.buflen c
            buflen := t.buflen + 1 } := by
          rw [XTinfo.store, dif_pos room]
        rw [stored]
        exact ih started quiet
      · rw [XTinfo.store, dif_neg room]
        rfl

theorem tinfoByte_of_collecting {t : XTinfo} (collecting : t.buflen ≠ 0) {c : UInt8}
    (notEtx : c ≠ etx) (notEot : c ≠ eot) : tinfoByte clock t c = t.store c := by
  rw [tinfoByte, prviProbeBuffer, if_neg collecting, tinfoCollect]
  rcases t.store c with fault | stored
  · rfl
  · simp [notEtx, notEot, tinfoCollect, Except.map]

theorem store_eq {t stored : XTinfo} {c : UInt8} (isStored : t.store c = .ok stored) :
    ∃ room : t.buflen < tinfoBufferSize,
      stored = { t with buf := t.buf.set t.buflen c, buflen := t.buflen + 1 } := by
  rw [XTinfo.store] at isStored
  split_ifs at isStored with room
  cases isStored
  exact ⟨room, rfl⟩

theorem foldlM_store_eq {t : XTinfo} (collecting : t.buflen ≠ 0) {buffer : List UInt8}
    (inside : ∀ c ∈ buffer, c ≠ etx ∧ c ≠ eot) :
    buffer.foldlM XTinfo.store t = buffer.foldlM (tinfoByte clock) t := by
  induction buffer generalizing t with
  | nil => rfl
  | cons c buffer ih =>
      rcases inside c (by simp) with ⟨notEtx, notEot⟩
      rw [List.foldlM_cons, List.foldlM_cons, tinfoByte_of_collecting collecting notEtx notEot]
      rcases isStored : t.store c with fault | stored
      · rfl
      · rcases store_eq isStored with ⟨_, is⟩
        apply ih
        · simp [is]
        · exact fun d d_mem => inside d (by simp [d_mem])

theorem tinfoByte_of_hunting {t : XTinfo} (hunting : t.buflen = 0) (c : UInt8) :
    tinfoByte clock t c = tinfoHunt clock { t with started := false } c := by
  rw [tinfoByte, prviProbeBuffer, if_pos hunting, List.foldlM_cons]
  rcases tinfoHunt clock { t with started := false } c with fault | next <;> rfl

/-- The receiver once it has found an STX behind an ETX. -/
def XTinfo.opened (clock : ℕ → UInt64) (t : XTinfo) : XTinfo :=
  { t with
    time := clock t.clock
    clock := t.clock + 1
    started := true
    pchar := 0
    buf := t.buf.set 0 stx
    buflen := 1 }

theorem tinfoHunt_opens {t : XTinfo} (hunting : t.buflen = 0) (behind : t.pchar = etx) :
    tinfoHunt clock t stx = .ok (t.opened clock) := by
  simp [tinfoHunt, behind, XTinfo.store, XTinfo.opened, hunting, tinfoBufferSize]

theorem tinfoHunt_passes {t : XTinfo} (stopped : t.started = false) {c : UInt8}
    (other : ¬(t.pchar = etx ∧ c = stx)) : tinfoHunt clock t c = .ok { t with pchar := c } := by
  rw [tinfoHunt, if_neg other]
  simp [stopped]

theorem foldlM_tinfoHunt {t : XTinfo} (hunting : t.buflen = 0) (stopped : t.started = false)
    {buffer : List UInt8} (open_end : ∀ c ∈ tinfoBehindStx t.pchar buffer, c ≠ etx ∧ c ≠ eot) :
    buffer.foldlM (tinfoHunt clock) t = buffer.foldlM (tinfoByte clock) t := by
  induction buffer generalizing t with
  | nil => rfl
  | cons c buffer ih =>
      have same : { t with started := false } = t := by rw [← stopped]
      rw [List.foldlM_cons, List.foldlM_cons, tinfoByte_of_hunting hunting, same]
      rw [tinfoBehindStx] at open_end
      split_ifs at open_end with start
      · rcases start with ⟨behind, rfl⟩
        rw [tinfoHunt_opens hunting behind]
        change buffer.foldlM (tinfoHunt clock) (t.opened clock) =
          buffer.foldlM (tinfoByte clock) (t.opened clock)
        have cleared : (0 : UInt8) ≠ etx := by decide
        rw [foldlM_tinfoHunt_of_started rfl cleared]
        exact foldlM_store_eq (by simp [XTinfo.opened]) open_end
      · rw [tinfoHunt_passes stopped start]
        exact ih hunting stopped open_end

theorem tinfoCollect_eq {t : XTinfo} (collecting : t.buflen ≠ 0) {buffer : List UInt8}
    (inside : ∀ c ∈ buffer.dropLast, c ≠ etx ∧ c ≠ eot) :
    (tinfoCollect t buffer).map Prod.snd = buffer.foldlM (tinfoByte clock) t := by
  induction buffer generalizing t with
  | nil => rfl
  | cons c buffer ih =>
      rw [List.foldlM_cons]
      rcases buffer with _ | ⟨d, buffer⟩
      · rw [tinfoByte, prviProbeBuffer, if_neg collecting]
        rcases (tinfoCollect t [c]).map Prod.snd with fault | next <;> rfl
      · rcases inside c (by simp) with ⟨notEtx, notEot⟩
        rw [tinfoByte_of_collecting collecting notEtx notEot, tinfoCollect]
        rcases isStored : t.store c with fault | stored
        · rfl
        · rcases store_eq isStored with ⟨_, is⟩
          simp only [notEtx, notEot, if_false]
          apply ih
          · simp [is]
          · exact fun e e_mem => inside e (by simp [e_mem])

/-- A well-cut read acts as its bytes one by one. -/
theorem tinfoPoll_of_wellCut {t : XTinfo} {chunk : TinfoChunk} (well : TinfoWellCut t chunk.bytes) :
    tinfoPoll clock t chunk = chunk.bytes.foldlM (tinfoByte clock) t := by
  have positive := List.length_pos_iff.mpr chunk.ne_nil
  have polled : iTinfoPoll clock t chunk.bytes.length (some chunk.bytes) =
      prviProbeBuffer clock t chunk.bytes := by
    rw [iTinfoPoll, if_neg (by omega), if_neg (by omega), if_neg]
    exact_mod_cast not_lt.mpr chunk.length_le
  rw [tinfoPoll, polled]
  rw [TinfoWellCut] at well
  split_ifs at well with hunting
  · have stopped : chunk.bytes.foldlM (tinfoByte clock) t =
        chunk.bytes.foldlM (tinfoByte clock) { t with started := false } := by
      rcases bytes : chunk.bytes with _ | ⟨c, rest⟩
      · exact absurd bytes chunk.ne_nil
      · rw [List.foldlM_cons, List.foldlM_cons, tinfoByte_of_hunting hunting,
          tinfoByte_of_hunting (t := { t with started := false }) hunting]
    rw [stopped, prviProbeBuffer, if_pos hunting,
      foldlM_tinfoHunt (t := { t with started := false }) hunting rfl well]
    rcases chunk.bytes.foldlM (tinfoByte clock) { t with started := false } with fault | next
    · rfl
    · rfl
  · rw [prviProbeBuffer, if_neg hunting]
    exact tinfoCollect_eq hunting well

theorem tinfoPolls_of_wellCutRun {t : XTinfo} {chunks : List TinfoChunk}
    (well : TinfoWellCutRun clock t chunks) :
    tinfoPolls clock t chunks = (chunks.flatMap TinfoChunk.bytes).foldlM (tinfoByte clock) t := by
  induction chunks generalizing t with
  | nil => rfl
  | cons chunk chunks ih =>
      rcases well with ⟨now, later⟩
      rw [tinfoPolls, List.foldlM_cons, List.flatMap_cons, List.foldlM_append,
        ← tinfoPoll_of_wellCut now]
      rcases polled : tinfoPoll clock t chunk with fault | next
      · rfl
      · exact ih (later next polled)

theorem tinfoGroups_of_ne {first second : UInt8} (firstNe : first ≠ etx) (secondNe : second ≠ etx)
    (stream : List UInt8) : tinfoGroups first stream = tinfoGroups second stream := by
  cases stream with
  | nil => rfl
  | cons c rest => simp [tinfoGroups, firstNe, secondNe]

/-- The receiver in the frame whose bytes so far are `group`. -/
structure Collecting (t : XTinfo) (group : List UInt8) : Prop where
  buflen : t.buflen = group.length
  nonempty : group ≠ []
  stored : t.buf.toList.take t.buflen = group
  pchar : t.pchar ≠ etx

variable (clock) in
theorem collecting_opened (t : XTinfo) : Collecting (t.opened clock) [stx] where
  buflen := rfl
  nonempty := by simp
  stored := by
    change (t.buf.set 0 stx).toList.take (0 + 1) = [stx]
    rw [Vector.take_set_succ t.buf 0 (by decide)]
    simp
  pchar := by
    change (0 : UInt8) ≠ etx
    decide

theorem Collecting.exists_store {t : XTinfo} {group : List UInt8} (collecting : Collecting t group)
    (room : group.length < tinfoBufferSize) (c : UInt8) :
    ∃ next, t.store c = .ok next ∧ Collecting next (group ++ [c]) ∧ next.probed = t.probed := by
  rw [← collecting.buflen] at room
  have stored : t.store c = .ok { t with buf := t.buf.set t.buflen c, buflen := t.buflen + 1 } := by
    rw [XTinfo.store, dif_pos room]
  refine ⟨_, stored, ?_, rfl⟩
  exact
    { buflen := by simp [collecting.buflen]
      nonempty := by simp
      stored := by
        change (t.buf.set t.buflen c).toList.take (t.buflen + 1) = _
        rw [Vector.take_set_succ t.buf t.buflen room, collecting.stored]
      pchar := collecting.pchar }

theorem framesFit_of_ne {first second : UInt8} (secondNe : second ≠ etx)
    {stream : List UInt8} (fits : TinfoFramesFit first stream) : TinfoFramesFit second stream := by
  cases stream with
  | nil => trivial
  | cons c rest => exact ⟨fun start => absurd start.1 secondNe, fits.2⟩

theorem tinfoChecked_bind {t : XTinfo} {c : UInt8} {stream : List UInt8} {next : XTinfo}
    (step : tinfoByte clock t c = .ok next) {groups : List (List UInt8)}
    (rest : TinfoChecked (stream.foldlM (tinfoByte clock) next) groups) :
    TinfoChecked ((c :: stream).foldlM (tinfoByte clock) t) groups := by
  rw [List.foldlM_cons, step]
  exact rest

theorem Collecting.buflen_ne_zero {t : XTinfo} {group : List UInt8}
    (collecting : Collecting t group) : t.buflen ≠ 0 := by
  rw [collecting.buflen]
  exact List.length_eq_zero_iff.not.mpr collecting.nonempty

theorem Collecting.tinfoChecked_etx {t : XTinfo} {group : List UInt8}
    (collecting : Collecting t group) (room : group.length < tinfoBufferSize)
    {stream : List UInt8} {later : List (List UInt8)}
    (rest : ∀ next : XTinfo, next.buflen = 0 → next.pchar = etx →
      next.probed = t.probed ++ [group ++ [etx]] →
      TinfoChecked (stream.foldlM (tinfoByte clock) next) (next.probed ++ later)) :
    TinfoChecked ((etx :: stream).foldlM (tinfoByte clock) t)
      (t.probed ++ ([group ++ [etx]] ++ later)) := by
  rcases collecting.exists_store room etx with ⟨stored, isStored, full, probed⟩
  have step : tinfoByte clock t etx =
      (prviProbeFrame { stored with pchar := etx }).map Prod.snd := by
    rw [tinfoByte, prviProbeBuffer, if_neg collecting.buflen_ne_zero, tinfoCollect, isStored]
    simp
  rw [List.foldlM_cons, step]
  rcases checked : prviProbeFrame { stored with pchar := etx } with fault | ⟨ret, next⟩
  · exact ⟨{ stored with pchar := etx }, t.probed, group ++ [etx], later, by simp, probed,
      full.stored, checked⟩
  · rcases prviProbeFrame_ok checked with ⟨empty, pchar, probes⟩
    have probes : next.probed = t.probed ++ [group ++ [etx]] := by
      rw [probes, ← probed, ← full.stored]
    have := rest next empty pchar probes
    rw [probes, List.append_assoc] at this
    exact this

variable (clock) in
/-- Byte by byte, the receiver checks the groups of the stream. -/
theorem tinfoChecked_foldlM (stream : List UInt8) :
    (∀ t : XTinfo, t.buflen = 0 → TinfoFramesFit t.pchar stream →
      TinfoChecked (stream.foldlM (tinfoByte clock) t)
        (t.probed ++ tinfoGroups t.pchar stream)) ∧
    ∀ (t : XTinfo) (group : List UInt8), Collecting t group → TinfoFramesFit t.pchar stream →
      group.length + tinfoSpan stream < tinfoBufferSize →
      TinfoChecked (stream.foldlM (tinfoByte clock) t)
        (t.probed ++ ((tinfoClosed stream).toList.map (group ++ ·) ++
          tinfoGroups t.pchar stream)) := by
  induction stream with
  | nil => exact ⟨fun t _ _ => by simp [TinfoChecked, tinfoGroups, pure, Except.pure],
      fun t group _ _ _ => by simp [TinfoChecked, tinfoClosed, tinfoGroups, pure, Except.pure]⟩
  | cons c stream ih =>
      rcases ih with ⟨hunts, collects⟩
      constructor
      · intro t hunting fits
        by_cases start : t.pchar = etx ∧ c = stx
        · have long := fits.1 start
          rcases start with ⟨behind, rfl⟩
          have step : tinfoByte clock t stx = .ok ({ t with started := false }.opened clock) := by
            rw [tinfoByte_of_hunting hunting]
            exact tinfoHunt_opens hunting behind
          apply tinfoChecked_bind step
          have opened := collecting_opened clock { t with started := false }
          have later := collects _ [stx] opened (framesFit_of_ne opened.pchar fits.2)
            (by rw [List.length_singleton]; omega)
          have notEtx : stx ≠ etx := by decide
          rw [tinfoGroups_of_ne opened.pchar notEtx] at later
          rw [tinfoGroups, if_pos ⟨behind, rfl⟩]
          exact later
        · have step : tinfoByte clock t c = .ok { t with started := false, pchar := c } := by
            rw [tinfoByte_of_hunting hunting]
            exact tinfoHunt_passes rfl start
          apply tinfoChecked_bind step
          rw [tinfoGroups, if_neg start]
          exact hunts { t with started := false, pchar := c } hunting fits.2
      · intro t group collecting fits long
        have room : group.length < tinfoBufferSize := by omega
        have opensNot : ¬(t.pchar = etx ∧ c = stx) := fun start => collecting.pchar start.1
        rw [tinfoGroups, if_neg opensNot, tinfoClosed]
        by_cases isEtx : c = etx
        · rw [if_pos isEtx, isEtx]
          apply collecting.tinfoChecked_etx room
          intro next empty pchar _
          have later := hunts next empty (by rw [pchar, ← isEtx]; exact fits.2)
          rw [pchar] at later
          exact later
        · rcases collecting.exists_store room c with ⟨stored, isStored, longer, probed⟩
          have collects' := collecting.buflen_ne_zero
          rw [if_neg isEtx]
          by_cases isEot : c = eot
          · have step : tinfoByte clock t c = .ok { stored with buflen := 0 } := by
              rw [tinfoByte, prviProbeBuffer, if_neg collects', tinfoCollect, isStored]
              simp [isEot, eot, etx, tinfoCollect, Except.map]
            apply tinfoChecked_bind step
            have later := hunts { stored with buflen := 0 } rfl
              (framesFit_of_ne longer.pchar fits.2)
            rw [tinfoGroups_of_ne longer.pchar isEtx] at later
            rw [if_pos isEot, ← probed]
            exact later
          · have step : tinfoByte clock t c = .ok stored := by
              rw [tinfoByte_of_collecting collects' isEtx isEot, isStored]
            apply tinfoChecked_bind step
            rw [tinfoSpan, if_neg (not_or.mpr ⟨isEtx, isEot⟩)] at long
            have later := collects stored (group ++ [c]) longer
              (framesFit_of_ne longer.pchar fits.2)
              (by rw [List.length_append, List.length_singleton]; omega)
            rw [tinfoGroups_of_ne longer.pchar isEtx, probed] at later
            rw [if_neg isEot]
            rcases closed : tinfoClosed stream with _ | body
            · rw [closed] at later
              exact later
            · simpa [closed] using later

end

/-- The bytes of the chunks, one behind the other. -/
def tinfoStream (chunks : List TinfoChunk) : List UInt8 := chunks.flatMap TinfoChunk.bytes

/-- What is seen of a run: the frames probed and the callbacks, or the fault. -/
def tinfoOutcome (result : Except Fault XTinfo) : Except Fault (List (List UInt8) × TinfoCalls) :=
  result.map fun t => (t.probed, t.called)

/-- Two ways of cutting one stream give the same outcome, and check its groups. -/
def TinfoCutsAgree (clock : ℕ → UInt64) (cb : ETinfoCbType → Option (TinfoCalls → XTinfoFrame → ℤ))
    (first second : List TinfoChunk) : Prop :=
  tinfoOutcome (tinfoPolls clock (tinfoStart cb) first) =
      tinfoOutcome (tinfoPolls clock (tinfoStart cb) second) ∧
    TinfoChecked (tinfoPolls clock (tinfoStart cb) first) (tinfoGroups 0 (tinfoStream first)) ∧
    TinfoChecked (tinfoPolls clock (tinfoStart cb) second) (tinfoGroups 0 (tinfoStream second))

/-- Well-cut reads of one stream agree, and check every group of the stream once. -/
theorem cutsAgree_of_wellCutRun (clock : ℕ → UInt64)
    (cb : ETinfoCbType → Option (TinfoCalls → XTinfoFrame → ℤ)) (first second : List TinfoChunk)
    (same : tinfoStream first = tinfoStream second) (fits : TinfoFramesFit 0 (tinfoStream first))
    (firstWell : TinfoWellCutRun clock (tinfoStart cb) first)
    (secondWell : TinfoWellCutRun clock (tinfoStart cb) second) :
    TinfoCutsAgree clock cb first second := by
  have firstBytes := tinfoPolls_of_wellCutRun firstWell
  have secondBytes := tinfoPolls_of_wellCutRun secondWell
  have checked := (tinfoChecked_foldlM clock (tinfoStream first)).1 (tinfoStart cb) rfl fits
  rw [TinfoCutsAgree, firstBytes, secondBytes]
  have bytes : first.flatMap TinfoChunk.bytes = second.flatMap TinfoChunk.bytes := same
  refine ⟨by rw [bytes], checked, ?_⟩
  rw [← same, ← bytes]
  exact checked

theorem wellCutRun_of_length_one {clock : ℕ → UInt64} {t : XTinfo} {chunks : List TinfoChunk}
    (single : ∀ chunk ∈ chunks, chunk.bytes.length = 1) : TinfoWellCutRun clock t chunks := by
  induction chunks generalizing t with
  | nil => trivial
  | cons chunk chunks ih =>
      rcases List.length_eq_one_iff.mp (single chunk (by simp)) with ⟨c, bytes⟩
      constructor
      · rw [TinfoWellCut, bytes]
        split <;> simp [tinfoBehindStx]
      · intro next _
        exact ih fun later later_mem => single later (by simp [later_mem])

/-- A frame without groups, read byte by byte. -/
def tinfoSingleReads : List TinfoChunk :=
  [⟨[etx], by simp, by decide⟩, ⟨[stx], by simp, by decide⟩, ⟨[etx], by simp, by decide⟩]

/-- The same frame, read up to its STX first. -/
def tinfoTwoReads : List TinfoChunk :=
  [⟨[etx, stx], by simp, by decide⟩, ⟨[etx], by simp, by decide⟩]

/-- The same frame in one read. -/
def tinfoOneRead : List TinfoChunk := [⟨[etx, stx, etx], by simp, by decide⟩]

theorem framesFit_etxStxEtx : TinfoFramesFit 0 [etx, stx, etx] := by
  simp [TinfoFramesFit, tinfoSpan, tinfoBufferSize, etx, stx]

theorem cutsAgree_twoReads :
    TinfoCutsAgree (fun _ => 0) (fun _ => none) tinfoSingleReads tinfoTwoReads := by
  apply cutsAgree_of_wellCutRun
  · rfl
  · exact framesFit_etxStxEtx
  · exact wellCutRun_of_length_one (by simp [tinfoSingleReads])
  · constructor
    · simp [TinfoWellCut, tinfoStart, xTinfoOpen, tinfoBehindStx, etx, stx]
    · intro next _
      exact wellCutRun_of_length_one (by simp)

/-- The group closed in the read that opens it is lost. -/
theorem not_cutsAgree_oneRead :
    tinfoStream tinfoOneRead = tinfoStream tinfoSingleReads ∧
      TinfoFramesFit 0 (tinfoStream tinfoOneRead) ∧
      ¬TinfoCutsAgree (fun _ => 0) (fun _ => none) tinfoOneRead tinfoSingleReads := by
  refine ⟨rfl, framesFit_etxStxEtx, ?_⟩
  intro agree
  have one : tinfoOutcome (tinfoPolls (fun _ => 0) (tinfoStart fun _ => none) tinfoOneRead) =
      .ok ([], []) := by decide +kernel
  have single : tinfoOutcome (tinfoPolls (fun _ => 0) (tinfoStart fun _ => none) tinfoSingleReads) =
      .ok ([[stx, etx]], []) := by decide +kernel
  have same := agree.1
  rw [one, single] at same
  cases same

end Sysio.Tinfo
