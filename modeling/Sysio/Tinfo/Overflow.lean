import Sysio.Tinfo.Chunks
import Sysio.Tinfo.Storage

/-!
# The receive buffer of Tinfo

A poll reads what the driver reports, and stores it without a look at the room that is left. The
buffer is kept to as long as no read is longer than the buffer, and the bytes up to the next ETX
or EOT find room behind those of the frame being received (`tinfoKeepsInside_iff`); a frame whose
ETX is lost is one for which they do not. The polls are those of the receiver in its storage, where
a frame without NUL is searched beyond the buffer: as long as there is room, a run of polls only
ends where the program follows a null pointer (`nullPointer_of_tinfoPollRead`).
-/

namespace Sysio.Tinfo

/-- A poll that reads reads what `iSerialPoll` reports. -/
structure TinfoRead where
  available : ℤ
  received : Option (List UInt8)
  whole : ∀ bytes ∈ received, (bytes.length : ℤ) = available

section

variable (clock : ℕ → UInt64)

/-- The poll that makes the read. -/
def tinfoPollRead (t : XTinfo) (read : TinfoRead) : Except Fault (ℤ × XTinfo) :=
  Storage.iTinfoPoll clock t read.available read.received

/-- Every byte that `prviProbeBuffer` stores has its place in the buffer. The loop that looks for
ETX STX does nothing else that could fault; the loop that receives a frame ends at an ETX. -/
def TinfoStoresInside (t : XTinfo) (bytes : List UInt8) : Prop :=
  if t.buflen = 0 then
    ∃ next, bytes.foldlM (tinfoHunt clock) { t with started := false } = .ok next
  else
    ∀ before c after mid, bytes = before ++ c :: after → etx ∉ before →
      Storage.tinfoCollect t before = .ok (0, mid) → mid.buflen < tinfoBufferSize

/-- In every context that the reads lead to, the length is within the buffer, no more is asked for
than the buffer holds, and bytes are stored inside. -/
def TinfoKeepsInside : XTinfo → List TinfoRead → Prop
  | t, [] => t.buflen ≤ tinfoBufferSize
  | t, read :: later =>
      t.buflen ≤ tinfoBufferSize ∧ read.available ≤ tinfoBufferSize ∧
        (∀ bytes ∈ read.received, 0 < read.available → TinfoStoresInside clock t bytes) ∧
        ∀ ret next, tinfoPollRead clock t read = .ok (ret, next) → TinfoKeepsInside next later

end

/-- The read is no longer than the buffer, and what it adds to the frame being received has room
there. -/
def TinfoRoomFor (t : XTinfo) (read : TinfoRead) : Prop :=
  read.available ≤ tinfoBufferSize ∧
    ∀ bytes ∈ read.received, t.buflen ≠ 0 → t.buflen + tinfoSpan bytes ≤ tinfoBufferSize

/-- Every read of the run finds room. -/
def TinfoRoomRun (clock : ℕ → UInt64) : XTinfo → List TinfoRead → Prop
  | _, [] => True
  | t, read :: later =>
      TinfoRoomFor t read ∧
        ∀ ret next, tinfoPollRead clock t read = .ok (ret, next) → TinfoRoomRun clock next later

theorem tinfoSpan_le (bytes : List UInt8) : tinfoSpan bytes ≤ bytes.length := by
  induction bytes with
  | nil => exact le_rfl
  | cons c bytes ih =>
      rw [tinfoSpan, List.length_cons]
      split_ifs
      · omega
      · omega

section

variable {clock : ℕ → UInt64}

/-! ### What is stored -/

theorem buflen_tinfoHunt {t next : XTinfo} {c : UInt8} (hunted : tinfoHunt clock t c = .ok next)
    (inside : t.buflen ≤ tinfoBufferSize) : next.buflen ≤ tinfoBufferSize := by
  simp only [tinfoHunt] at hunted
  split_ifs at hunted
  all_goals first
    | rcases store_eq hunted with ⟨room, rfl⟩
      exact room
    | cases hunted
      exact inside

theorem buflen_foldlM_tinfoHunt {t next : XTinfo} {bytes : List UInt8}
    (hunted : bytes.foldlM (tinfoHunt clock) t = .ok next) (inside : t.buflen ≤ tinfoBufferSize) :
    next.buflen ≤ tinfoBufferSize := by
  induction bytes generalizing t with
  | nil =>
      cases hunted
      exact inside
  | cons c bytes ih =>
      rw [List.foldlM_cons] at hunted
      rcases first : tinfoHunt clock t c with fault | mid
      · rw [first] at hunted
        cases hunted
      · rw [first] at hunted
        exact ih hunted (buflen_tinfoHunt first inside)

/-- Every byte takes at most one place. -/
theorem exists_foldlM_tinfoHunt (t : XTinfo) (bytes : List UInt8)
    (room : t.buflen + bytes.length ≤ tinfoBufferSize) :
    ∃ next, bytes.foldlM (tinfoHunt clock) t = .ok next := by
  induction bytes generalizing t with
  | nil => exact ⟨t, rfl⟩
  | cons c bytes ih =>
      rw [List.length_cons] at room
      have first : ∃ next, tinfoHunt clock t c = .ok next ∧ next.buflen ≤ t.buflen + 1 := by
        have here : t.buflen < tinfoBufferSize := by omega
        simp only [tinfoHunt, XTinfo.store]
        split_ifs
        all_goals first
          | contradiction
          | exact ⟨_, rfl, by simp⟩
      rcases first with ⟨next, hunted, short⟩
      rw [List.foldlM_cons, hunted]
      exact ih next (by omega)

theorem buflen_tinfoCollect {t next : XTinfo} {bytes : List UInt8} {ret : ℤ}
    (collected : Storage.tinfoCollect t bytes = .ok (ret, next))
    (inside : t.buflen ≤ tinfoBufferSize) : next.buflen ≤ tinfoBufferSize := by
  induction bytes generalizing t with
  | nil =>
      cases collected
      exact inside
  | cons c bytes ih =>
      rw [Storage.tinfoCollect] at collected
      rcases isStored : t.store c with fault | stored
      · rw [isStored] at collected
        cases collected
      · rcases store_eq isStored with ⟨room, is⟩
        simp only [isStored] at collected
        split_ifs at collected
        · rw [Storage.buflen_of_prviProbeFrame collected]
          exact Nat.zero_le _
        · exact ih collected (Nat.zero_le _)
        · apply ih collected
          rw [is]
          exact room

theorem buflen_tinfoPollRead {t next : XTinfo} {read : TinfoRead} {ret : ℤ}
    (polled : tinfoPollRead clock t read = .ok (ret, next)) (inside : t.buflen ≤ tinfoBufferSize) :
    next.buflen ≤ tinfoBufferSize := by
  simp only [tinfoPollRead, Storage.iTinfoPoll] at polled
  split_ifs at polled
  · cases polled
    exact inside
  · cases polled
    exact inside
  · cases received : read.received with
    | none =>
        rw [received] at polled
        cases polled
        exact inside
    | some bytes =>
        simp only [received, Storage.prviProbeBuffer] at polled
        split_ifs at polled
        · rcases hunted : bytes.foldlM (tinfoHunt clock) { t with started := false } with
            fault | mid
          · rw [hunted] at polled
            cases polled
          · rw [hunted] at polled
            cases polled
            exact buflen_foldlM_tinfoHunt hunted inside
        · exact buflen_tinfoCollect polled inside

/-- Behind an EOT there is room for what is left of a read. -/
theorem collects_inside_iff (t : XTinfo) (bytes : List UInt8)
    (inside : t.buflen ≤ tinfoBufferSize) (short : bytes.length ≤ tinfoBufferSize) :
    (∀ before c after mid, bytes = before ++ c :: after → etx ∉ before →
        Storage.tinfoCollect t before = .ok (0, mid) → mid.buflen < tinfoBufferSize) ↔
      t.buflen + tinfoSpan bytes ≤ tinfoBufferSize := by
  induction bytes generalizing t with
  | nil => simp [tinfoSpan, inside]
  | cons c bytes ih =>
      rw [List.length_cons] at short
      have beginning : (∀ before d after mid, c :: bytes = before ++ d :: after → etx ∉ before →
          Storage.tinfoCollect t before = .ok (0, mid) → mid.buflen < tinfoBufferSize) ↔
            t.buflen < tinfoBufferSize ∧ (c ≠ etx →
              ∀ before d after mid, bytes = before ++ d :: after → etx ∉ before →
                Storage.tinfoCollect t (c :: before) = .ok (0, mid) →
                  mid.buflen < tinfoBufferSize) := by
        constructor
        · intro everywhere
          refine ⟨everywhere [] c bytes t rfl (by simp) rfl, ?_⟩
          intro notEtx before d after mid split noEtx
          exact everywhere (c :: before) d after mid (by rw [split]; rfl)
            (by simp [noEtx, Ne.symm notEtx])
        · rintro ⟨first, others⟩ before d after mid split noEtx collected
          cases before with
          | nil =>
              cases collected
              exact first
          | cons e before =>
              rw [List.cons_append, List.cons.injEq] at split
              rcases split with ⟨rfl, split⟩
              simp only [List.mem_cons, not_or] at noEtx
              exact others (Ne.symm noEtx.1) before d after mid split noEtx.2 collected
      rw [beginning, tinfoSpan]
      by_cases room : t.buflen < tinfoBufferSize
      · let stored : XTinfo :=
          { t with buf := t.buf.set t.buflen c, buflen := t.buflen + 1 }
        have isStored : t.store c = .ok stored := by
          rw [XTinfo.store, dif_pos room]
        by_cases isEtx : c = etx
        · simp only [isEtx, true_or, if_true, Ne, not_true_eq_false, false_implies, and_true]
          omega
        · by_cases isEot : c = eot
          · have collect (before : List UInt8) :
                Storage.tinfoCollect t (c :: before) =
                  Storage.tinfoCollect { stored with buflen := 0 } before := by
              rw [Storage.tinfoCollect, isStored]
              change (if c = etx then _ else if c = eot then _ else _) = _
              rw [if_neg isEtx, if_pos isEot]
            have behind := (ih { stored with buflen := 0 } (Nat.zero_le _) (by omega)).mpr (by
              have span := tinfoSpan_le bytes
              simp only [Nat.zero_add]
              omega)
            simp only [isEot, or_true, if_true]
            refine iff_of_true ⟨room, fun _ => ?_⟩ room
            rw [← isEot]
            simp only [collect]
            exact behind
          · have collect (before : List UInt8) :
                Storage.tinfoCollect t (c :: before) = Storage.tinfoCollect stored before := by
              rw [Storage.tinfoCollect, isStored]
              simp [isEtx, isEot]
            have later := ih stored room (by omega)
            simp only [isEtx, isEot, or_self, if_false, collect, room, true_and, Ne,
              not_false_eq_true, forall_const]
            rw [later]
            simp only [stored]
            omega
      · have full : ¬(t.buflen + if c = etx ∨ c = eot then 1 else tinfoSpan bytes + 1) ≤
            tinfoBufferSize := by
          split_ifs <;> omega
        simp [room, full]

/-! ### The condition -/

theorem storesInside_iff {t : XTinfo} {bytes : List UInt8} (inside : t.buflen ≤ tinfoBufferSize)
    (short : bytes.length ≤ tinfoBufferSize) :
    TinfoStoresInside clock t bytes ↔
      (t.buflen ≠ 0 → t.buflen + tinfoSpan bytes ≤ tinfoBufferSize) := by
  rw [TinfoStoresInside]
  split_ifs with hunting
  · refine iff_of_true (exists_foldlM_tinfoHunt _ bytes ?_)
      fun collecting => absurd hunting collecting
    change t.buflen + bytes.length ≤ tinfoBufferSize
    omega
  · rw [collects_inside_iff t bytes inside short]
    simp [hunting]

theorem nullPointer_of_tinfoCollect {t : XTinfo} {bytes : List UInt8} {fault : Fault}
    (room : t.buflen + tinfoSpan bytes ≤ tinfoBufferSize) (short : bytes.length ≤ tinfoBufferSize)
    (failed : Storage.tinfoCollect t bytes = .error fault) : fault = .nullPointer := by
  induction bytes generalizing t with
  | nil => cases failed
  | cons c bytes ih =>
      rw [List.length_cons] at short
      rw [tinfoSpan] at room
      have here : t.buflen < tinfoBufferSize := by
        split_ifs at room <;> omega
      rw [Storage.tinfoCollect, XTinfo.store, dif_pos here] at failed
      simp only at failed
      split_ifs at failed with isEtx isEot
      · refine Storage.nullPointer_of_prviProbeFrame ?_ failed
        exact here
      · refine ih ?_ (by omega) failed
        have span := tinfoSpan_le bytes
        simp only [Nat.zero_add]
        omega
      · refine ih ?_ (by omega) failed
        rw [if_neg (not_or.mpr ⟨isEtx, isEot⟩)] at room
        simp only
        omega

/-- As long as there is room, a poll fails only for the use of a search that found nothing. -/
theorem nullPointer_of_tinfoPollRead {t : XTinfo} {read : TinfoRead} {fault : Fault}
    (room : TinfoRoomFor t read) (failed : tinfoPollRead clock t read = .error fault) :
    fault = .nullPointer := by
  rcases room with ⟨small, fits⟩
  simp only [tinfoPollRead, Storage.iTinfoPoll] at failed
  split_ifs at failed
  · omega
  · rcases received : read.received with _ | bytes
    · rw [received] at failed
      cases failed
    · have length := read.whole bytes received
      simp only [received, Storage.prviProbeBuffer] at failed
      split_ifs at failed with hunting
      · have room : t.buflen + bytes.length ≤ tinfoBufferSize := by omega
        rcases exists_foldlM_tinfoHunt { t with started := false } bytes room with ⟨next, hunted⟩
        rw [hunted] at failed
        cases failed
      · exact nullPointer_of_tinfoCollect (fits bytes received hunting) (by omega) failed

theorem keepsInside_iff_of_le {t : XTinfo} (inside : t.buflen ≤ tinfoBufferSize)
    (reads : List TinfoRead) : TinfoKeepsInside clock t reads ↔ TinfoRoomRun clock t reads := by
  induction reads generalizing t with
  | nil => exact iff_of_true inside trivial
  | cons read later ih =>
      have here : (read.available ≤ tinfoBufferSize ∧
          ∀ bytes ∈ read.received, 0 < read.available → TinfoStoresInside clock t bytes) ↔
            TinfoRoomFor t read := by
        rw [TinfoRoomFor]
        refine and_congr_right fun short => forall₂_congr fun bytes received => ?_
        have length := read.whole bytes received
        rw [storesInside_iff inside (by omega)]
        constructor
        · intro room collecting
          by_cases some : 0 < read.available
          · exact room some collecting
          · have span := tinfoSpan_le bytes
            omega
        · exact fun room _ => room
      rw [TinfoKeepsInside, TinfoRoomRun, ← here]
      constructor
      · rintro ⟨_, short, stores, goesOn⟩
        refine ⟨⟨short, stores⟩, ?_⟩
        intro ret next polled
        exact (ih (buflen_tinfoPollRead polled inside)).mp (goesOn ret next polled)
      · rintro ⟨⟨short, stores⟩, goesOn⟩
        refine ⟨inside, short, stores, ?_⟩
        intro ret next polled
        exact (ih (buflen_tinfoPollRead polled inside)).mpr (goesOn ret next polled)

end

/-- The buffer is kept to in a run of reads exactly when each of them finds room. -/
theorem tinfoKeepsInside_iff (clock : ℕ → UInt64)
    (cb : ETinfoCbType → Option (TinfoCalls → XTinfoFrame → ℤ)) (reads : List TinfoRead) :
    TinfoKeepsInside clock (tinfoStart cb) reads ↔ TinfoRoomRun clock (tinfoStart cb) reads :=
  keepsInside_iff_of_le (Nat.zero_le _) reads

/-- A frame that has lost its ETX: two reads, the second as long as the buffer. -/
def tinfoLostEtx : List TinfoRead :=
  [⟨2, some [etx, stx], by simp⟩,
    ⟨tinfoBufferSize, some (List.replicate tinfoBufferSize 0x41), by simp⟩]

theorem tinfoSpan_replicate {c : UInt8} (notEtx : c ≠ etx) (notEot : c ≠ eot) (count : ℕ) :
    tinfoSpan (List.replicate count c) = count := by
  induction count with
  | zero => rfl
  | succ count ih => simp [List.replicate_succ, tinfoSpan, notEtx, notEot, ih]

/-- Two reads no longer than the buffer, and no ETX: the last byte is stored behind the buffer. -/
theorem not_tinfoKeepsInside_lostEtx :
    ¬TinfoKeepsInside (fun _ => 0) (tinfoStart fun _ => none) tinfoLostEtx := by
  intro keeps
  have run := (keepsInside_iff_of_le (Nat.zero_le _) tinfoLostEtx).mp keeps
  rcases run with ⟨_, goesOn⟩
  let passed : XTinfo := { tinfoStart fun _ => none with pchar := etx }
  have passes : tinfoHunt (fun _ => 0) (tinfoStart fun _ => none) etx = .ok passed :=
    tinfoHunt_passes rfl (by simp [tinfoStart, xTinfoOpen, etx])
  have opens : tinfoHunt (fun _ => 0) passed stx = .ok (passed.opened fun _ => 0) :=
    tinfoHunt_opens rfl rfl
  have hunted : [etx, stx].foldlM (tinfoHunt fun _ => 0) (tinfoStart fun _ => none) =
      .ok (passed.opened fun _ => 0) := by
    rw [List.foldlM_cons, passes]
    change (tinfoHunt (fun _ => 0) passed stx >>= fun next => pure next) = _
    rw [opens]
    rfl
  have stopped : { tinfoStart fun _ => none with started := false } = tinfoStart fun _ => none :=
    rfl
  have hunting : (tinfoStart fun _ => none).buflen = 0 := rfl
  have polled : tinfoPollRead (fun _ => 0) (tinfoStart fun _ => none)
      ⟨2, some [etx, stx], by simp⟩ = .ok (0, passed.opened fun _ => 0) := by
    rw [tinfoPollRead, Storage.iTinfoPoll, if_neg (by decide), if_neg (by decide),
      if_neg (by decide)]
    rw [Storage.prviProbeBuffer, if_pos hunting, stopped, hunted]
  have room := (goesOn 0 _ polled).1.2 _ rfl (by decide)
  rw [tinfoSpan_replicate (by decide) (by decide)] at room
  exact absurd room (by decide)

end Sysio.Tinfo
