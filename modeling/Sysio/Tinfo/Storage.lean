import Sysio.Tinfo.Receiver

/-!
# The receiver in its storage

In the context `buflen` follows `buf`, and a search that leaves `buf` goes on in the bytes of
`buflen`, of which the highest is a NUL. The functions from `prvvReadItem` to `iTinfoPoll` are here
as in the receiver, on the storage that begins with `buf` and ends with `buflen`: they do what the
receiver does where that does not fault (`iTinfoPoll_of_ok`), and go on where it faults for a search
that leaves `buf`. What they fail for is the result of a failed search, which they use, and a byte
stored outside `buf` (`nullPointer_of_prviProbeFrame`). In front of `buf` is the highest byte of a
descriptor, which is 0 already when a group is cut there.
-/

namespace Sysio.Tinfo

/-- The bytes of `buf`, and of `buflen` behind it. -/
abbrev TinfoStorage := Vector UInt8 (tinfoBufferSize + 4)

/-- The bytes of the context from `buf` on. -/
def XTinfo.storage (t : XTinfo) : TinfoStorage := t.buf ++ tinfoBehind t.buflen

/-- The bytes of `buf`. -/
def TinfoStorage.buf (storage : TinfoStorage) : Vector UInt8 tinfoBufferSize :=
  Vector.ofFn fun i => storage.get (i.castAdd 4)

namespace Storage

/-- The separator becomes a NUL, also behind `buf`. -/
def prvvReadItem (time : UInt64) (ht : UInt8) (storage : TinfoStorage) (f : XTinfoFrame)
    (label : ℕ) : Except Fault (TinfoStorage × XTinfoFrame) :=
  match strchr (storage.toList.drop label) ht with
  | .error fault => .error fault
  | .ok none => .error .nullPointer
  | .ok (some sep) =>
      let cut := storage.setIfInBounds (label + sep) 0
      .ok (cut, tinfoReadSeparated time f (cstr (cut.toList.drop label))
        (cut.toList.drop (label + sep + 1)))

/-- `* (end - 2) = '\0'`: in front of the buffer there is a 0 already. -/
def cutGroup (storage : TinfoStorage) (last : ℕ) : TinfoStorage :=
  if last < 2 then storage else storage.setIfInBounds (last - 2) 0

/-- The `while (group)` of `prviSplitFrame`. -/
def tinfoSplit (time : UInt64) (ht : UInt8) (storage : TinfoStorage) (f : XTinfoFrame)
    (group : ℕ) : Except Fault (TinfoStorage × XTinfoFrame) :=
  match strchr (storage.toList.drop group) lf with
  | .error fault => .error fault
  | .ok none => .ok (storage, f)
  | .ok (some line) =>
      let label := group + line + 1
      match _found : strchr (storage.toList.drop label) cr with
      | .error fault => .error fault
      | .ok none => .error .nullPointer
      | .ok (some offset) =>
          let last := label + offset
          match prvvReadItem time ht (cutGroup storage last) f label with
          | .error fault => .error fault
          | .ok (next, read) => tinfoSplit time ht next read (last + 1)
termination_by tinfoBufferSize + 4 - group
decreasing_by
  have inside := strchr_lt _found
  simp only [List.length_drop, Vector.length_toList] at inside
  omega

/-- The groups are read, and the handlers run. -/
def prviSplitFrame (t : XTinfo) : Except Fault (ℤ × XTinfo) :=
  match tinfoSplit t.time t.ht t.storage .zeroed 0 with
  | .error fault => .error fault
  | .ok (storage, f) => .ok (tinfoDispatch { t with buf := storage.buf } f)

/-- The checksums are checked before the frame is split. -/
def prviProbeFrame (t : XTinfo) : Except Fault (ℤ × XTinfo) :=
  let probed := t.probed ++ [t.buf.toList.take t.buflen]
  match tinfoChecksums t.storage.toList t.buflen 1 0 t.ht with
  | .error fault => .error fault
  | .ok (false, ht) => .ok (-1, { t with ht := ht, buflen := 0, probed := probed })
  | .ok (true, ht) => prviSplitFrame { t with ht := ht, probed := probed }

/-- The loop that receives a frame. -/
def tinfoCollect (t : XTinfo) : List UInt8 → Except Fault (ℤ × XTinfo)
  | [] => .ok (0, t)
  | c :: buffer =>
      match t.store c with
      | .error fault => .error fault
      | .ok stored =>
          if c = etx then prviProbeFrame { stored with pchar := etx }
          else if c = eot then tinfoCollect { stored with buflen := 0 } buffer
          else tinfoCollect stored buffer

/-- The bytes of one read. -/
def prviProbeBuffer (clock : ℕ → UInt64) (t : XTinfo) (buffer : List UInt8) :
    Except Fault (ℤ × XTinfo) :=
  if t.buflen = 0 then
    match buffer.foldlM (tinfoHunt clock) { t with started := false } with
    | .error fault => .error fault
    | .ok next => .ok (0, next)
  else tinfoCollect t buffer

/-- `iTinfoPoll` over the bytes of the context. -/
def iTinfoPoll (clock : ℕ → UInt64) (t : XTinfo) (available : ℤ) (received : Option (List UInt8)) :
    Except Fault (ℤ × XTinfo) :=
  if available < 0 then .ok (-1, t)
  else if available = 0 then .ok (0, t)
  else if available > tinfoBufferSize then .error .outOfBounds
  else
    match received with
    | none => .ok (-1, t)
    | some buffer => prviProbeBuffer clock t buffer

/-! ### The receiver, where it does not fault -/

section

variable {t next : XTinfo} {f read : XTinfoFrame}

theorem toList_storage (t : XTinfo) :
    t.storage.toList = t.buf.toList ++ (tinfoBehind t.buflen).toList := Vector.toList_append

theorem buf_storage (t : XTinfo) : t.storage.buf = t.buf := by
  apply Vector.ext
  intro i inside
  rw [TinfoStorage.buf, Vector.getElem_ofFn]
  exact Vector.getElem_append_left inside

theorem strchr_storage {place : ℕ} {c : UInt8} {found : Option ℕ}
    (inside : strchr (t.buf.toList.drop place) c = .ok found) :
    strchr (t.storage.toList.drop place) c = .ok found := by
  rw [toList_storage, List.drop_append]
  exact strchr_append_of_ok inside _

theorem setIfInBounds_storage {place : ℕ} (inside : place < tinfoBufferSize) :
    t.storage.setIfInBounds place 0 =
      { t with buf := t.buf.setIfInBounds place 0 }.storage :=
  Vector.setIfInBounds_append_left inside

theorem prvvReadItem_of_ok {label : ℕ}
    (done : Tinfo.prvvReadItem t f label = .ok (next, read)) :
    prvvReadItem t.time t.ht t.storage f label = .ok (next.storage, read) := by
  rcases prvvReadItem_ok done with ⟨sep, found, _⟩
  have inside := strchr_lt found
  rw [List.length_drop, Vector.length_toList] at inside
  rw [Tinfo.prvvReadItem, found] at done
  cases done
  let cut : XTinfo := { t with buf := t.buf.setIfInBounds (label + sep) 0 }
  have isCut : t.storage.setIfInBounds (label + sep) 0 = cut.storage :=
    setIfInBounds_storage (by omega)
  have length : cut.buf.toList.length = tinfoBufferSize := Vector.length_toList
  have ended : (0 : UInt8) ∈ cut.buf.toList.drop label := by
    rw [Vector.toList_setIfInBounds, List.drop_set, if_neg (by omega), Nat.add_sub_cancel_left]
    exact List.mem_set (by rw [List.length_drop, Vector.length_toList]; exact inside) 0
  rw [prvvReadItem, strchr_storage found]
  simp only [isCut, toList_storage]
  rw [List.drop_append_of_le_length (by omega), cstr_append_of_mem ended,
    List.drop_append_of_le_length (by omega)]

theorem tinfoSplit_of_ok {group : ℕ} (done : Tinfo.tinfoSplit t f group = .ok (next, read)) :
    tinfoSplit t.time t.ht t.storage f group = .ok (next.storage, read) := by
  fun_induction Tinfo.tinfoSplit t f group with
  | case2 t f group ended =>
      cases done
      rw [tinfoSplit, strchr_storage ended]
  | case7 t f group line found label offset located last inside between item itemRead ih =>
      have passed := prvvReadItem_of_ok itemRead
      have short := strchr_lt located
      rw [List.length_drop, Vector.length_toList] at short
      rcases prvvReadItem_ok itemRead with ⟨sep, -, rfl⟩
      have cut : cutGroup t.storage last =
          { t with buf := t.buf.setIfInBounds (last - 2) 0 }.storage := by
        rw [cutGroup, if_neg inside, setIfInBounds_storage (by omega)]
      rw [tinfoSplit, strchr_storage found]
      simp only
      split
      · rename_i fault failed
        rw [strchr_storage located] at failed
        cases failed
      · rename_i failed
        rw [strchr_storage located] at failed
        cases failed
      · rename_i offset' again
        rw [strchr_storage located] at again
        cases again
        rw [cut, passed]
        exact ih done
  | _ => cases done

theorem prviSplitFrame_of_split {buf : Vector UInt8 tinfoBufferSize}
    (passed : tinfoSplit t.time t.ht t.storage .zeroed 0 =
      .ok ({ t with buf := buf }.storage, read)) :
    prviSplitFrame t = .ok (tinfoDispatch { t with buf := buf } read) := by
  rw [prviSplitFrame, passed]
  simp only [buf_storage]

theorem prviProbeFrame_of_ok {ret : ℤ} (done : Tinfo.prviProbeFrame t = .ok (ret, next)) :
    prviProbeFrame t = .ok (ret, next) := by
  rw [Tinfo.prviProbeFrame] at done
  rw [prviProbeFrame, toList_storage]
  split at done
  · cases done
  · rename_i ht checked
    rw [tinfoChecksums_append checked]
    exact done
  · rename_i ht checked
    rw [tinfoChecksums_append checked]
    rw [Tinfo.prviSplitFrame] at done
    split at done
    · cases done
    · rename_i between f split_ok
      have passed := tinfoSplit_of_ok split_ok
      rcases tinfoSplit_ok split_ok with ⟨buf, rfl⟩
      exact (prviSplitFrame_of_split passed).trans done

theorem tinfoCollect_of_ok {bytes : List UInt8} {ret : ℤ}
    (done : Tinfo.tinfoCollect t bytes = .ok (ret, next)) :
    tinfoCollect t bytes = .ok (ret, next) := by
  induction bytes generalizing t with
  | nil => exact done
  | cons c bytes ih =>
      rw [Tinfo.tinfoCollect] at done
      rw [tinfoCollect]
      rcases isStored : t.store c with fault | stored
      · rw [isStored] at done
        cases done
      · simp only [isStored] at done ⊢
        split_ifs at done ⊢
        · exact prviProbeFrame_of_ok done
        · exact ih done
        · exact ih done

/-- Where the receiver does not fault, it does what it does in its storage. -/
theorem iTinfoPoll_of_ok {clock : ℕ → UInt64} {available : ℤ} {received : Option (List UInt8)}
    {ret : ℤ} (done : Tinfo.iTinfoPoll clock t available received = .ok (ret, next)) :
    iTinfoPoll clock t available received = .ok (ret, next) := by
  simp only [Tinfo.iTinfoPoll] at done
  simp only [iTinfoPoll]
  split_ifs at done ⊢
  · exact done
  · exact done
  · rcases received with _ | bytes
    · exact done
    · simp only [Tinfo.prviProbeBuffer] at done
      simp only [prviProbeBuffer]
      split_ifs at done ⊢
      · exact done
      · exact tinfoCollect_of_ok done

/-! ### Searches in the storage -/

/-- The highest byte of `buflen` is 0. -/
def Ended (storage : TinfoStorage) : Prop := storage.toList.drop (tinfoBufferSize + 3) = [0]

theorem ended_storage (t : XTinfo) : Ended t.storage := by
  have length : t.buf.toList.length = tinfoBufferSize := Vector.length_toList
  rw [Ended, toList_storage, List.drop_append, List.drop_eq_nil_of_le (by omega), length,
    Nat.add_sub_cancel_left]
  rfl

theorem Ended.setIfInBounds {storage : TinfoStorage} (ended : Ended storage) (place : ℕ) :
    Ended (storage.setIfInBounds place 0) := by
  rw [Ended, Vector.toList_setIfInBounds, List.drop_set, ended]
  split_ifs
  · rfl
  · rcases place - (tinfoBufferSize + 3) with _ | k <;> rfl

theorem Ended.cutGroup {storage : TinfoStorage} (ended : Ended storage) (last : ℕ) :
    Ended (cutGroup storage last) := by
  rw [Storage.cutGroup]
  split_ifs
  · exact ended
  · exact ended.setIfInBounds _

/-- A search ends in the storage, and finds what is no NUL in front of its last byte. -/
theorem Ended.exists_strchr {storage : TinfoStorage} (ended : Ended storage) {place : ℕ}
    (inside : place ≤ tinfoBufferSize + 3) (c : UInt8) :
    ∃ found, strchr (storage.toList.drop place) c = .ok found ∧
      ∀ offset, found = some offset → c ≠ 0 → place + offset < tinfoBufferSize + 3 := by
  have zero : (0 : UInt8) ∈ storage.toList.drop place := by
    have last : (0 : UInt8) ∈ storage.toList.drop (tinfoBufferSize + 3) := by
      rw [ended]
      exact List.mem_singleton_self 0
    exact (List.drop_sublist_drop_left storage.toList inside).subset last
  rcases exists_strchr_of_zero_mem zero c with ⟨found, search⟩
  refine ⟨found, search, fun offset isFound notNul => ?_⟩
  rw [isFound] at search
  have short := strchr_lt search
  rw [List.length_drop, Vector.length_toList] at short
  by_contra notBefore
  have position : place + offset = tinfoBufferSize + 3 + 0 := by omega
  have here := getElem?_of_strchr search
  rw [List.getElem?_drop, position, ← List.getElem?_drop, ended] at here
  exact notNul (Option.some.inj here).symm

theorem nullPointer_of_prvvReadItem {time : UInt64} {ht : UInt8} {storage : TinfoStorage}
    {label : ℕ} {fault : Fault} (ended : Ended storage) (inside : label ≤ tinfoBufferSize + 3)
    (failed : prvvReadItem time ht storage f label = .error fault) : fault = .nullPointer := by
  rcases ended.exists_strchr inside ht with ⟨found, search, -⟩
  rw [prvvReadItem, search] at failed
  rcases found with _ | sep
  · cases failed
    rfl
  · cases failed

theorem Ended.prvvReadItem {time : UInt64} {ht : UInt8} {storage after : TinfoStorage} {label : ℕ}
    (ended : Ended storage) (done : prvvReadItem time ht storage f label = .ok (after, read)) :
    Ended after := by
  rw [Storage.prvvReadItem] at done
  split at done
  · cases done
  · cases done
  · cases done
    exact ended.setIfInBounds _

theorem begins {storage : TinfoStorage} {group line : ℕ} (ended : Ended storage)
    (search : strchr (storage.toList.drop group) lf = .ok (some line))
    (inside : group ≤ tinfoBufferSize + 3) : group + line + 1 ≤ tinfoBufferSize + 3 := by
  rcases ended.exists_strchr inside lf with ⟨found, again, before⟩
  rw [search] at again
  cases again
  exact before line rfl (by decide)

theorem nullPointer_of_tinfoSplit {time : UInt64} {ht : UInt8} {storage : TinfoStorage}
    {group : ℕ} {fault : Fault} (ended : Ended storage) (inside : group ≤ tinfoBufferSize + 3)
    (failed : tinfoSplit time ht storage f group = .error fault) : fault = .nullPointer := by
  fun_induction tinfoSplit time ht storage f group with
  | case1 storage f group fault' search =>
      rcases ended.exists_strchr inside lf with ⟨found, again, -⟩
      rw [again] at search
      cases search
  | case2 => cases failed
  | case3 storage f group line search label fault' searchCr =>
      have inside := begins ended search inside
      rcases ended.exists_strchr inside cr with ⟨found, again, -⟩
      rw [again] at searchCr
      cases searchCr
  | case4 => 
      cases failed
      rfl
  | case5 storage f group line search label offset searchCr last fault' itemFailed =>
      cases failed
      exact nullPointer_of_prvvReadItem (ended.cutGroup last) (begins ended search inside)
        itemFailed
  | case6 storage f group line search label offset searchCr last after read itemRead ih =>
      have inside := begins ended search inside
      rcases ended.exists_strchr inside cr with ⟨found, again, before⟩
      rw [searchCr] at again
      cases again
      exact ih ((ended.cutGroup last).prvvReadItem itemRead)
        (before offset rfl (by decide)) failed

/-- The loop looks at most two bytes ahead. -/
theorem ne_error_tinfoChecksums {buf : List UInt8} {buflen i : ℕ} {sum ht : UInt8} {fault : Fault}
    (room : buflen < buf.length) : tinfoChecksums buf buflen i sum ht ≠ .error fault := by
  intro failed
  fun_induction tinfoChecksums buf buflen i sum ht with
  | case1 i sum ht inside missing =>
      rw [List.getElem?_eq_none_iff] at missing
      omega
  | case2 i sum ht inside first ih => exact ih failed
  | case3 i sum ht inside c first notLf mark check second third notCr ih => exact ih failed
  | case4 => cases failed
  | case5 i sum ht inside c first notLf mark check second third isCr expected right ih =>
      exact ih failed
  | case6 i sum ht inside c first notLf short =>
      exact short _ _ (List.getElem?_eq_getElem (by omega)) (List.getElem?_eq_getElem (by omega))
  | case7 => cases failed

theorem nullPointer_of_prviProbeFrame {fault : Fault} (inside : t.buflen ≤ tinfoBufferSize)
    (failed : prviProbeFrame t = .error fault) : fault = .nullPointer := by
  rw [prviProbeFrame] at failed
  split at failed
  · rename_i fault' checked
    refine absurd checked (ne_error_tinfoChecksums ?_)
    rw [Vector.length_toList]
    omega
  · cases failed
  · rw [prviSplitFrame] at failed
    split at failed
    · rename_i fault' split_failed
      cases failed
      exact nullPointer_of_tinfoSplit (ended_storage _) (Nat.zero_le _) split_failed
    · cases failed

/-- A frame is given up or handed over; either way the buffer is empty behind it. -/
theorem buflen_of_prviProbeFrame {ret : ℤ} (done : prviProbeFrame t = .ok (ret, next)) :
    next.buflen = 0 := by
  rw [prviProbeFrame] at done
  split at done
  · cases done
  · cases done
    rfl
  · rw [prviSplitFrame] at done
    split at done
    · cases done
    · cases done
      rfl

end

end Storage

end Sysio.Tinfo
