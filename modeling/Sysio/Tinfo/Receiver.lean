import Sysio.Tinfo.Items

/-!
# The Tinfo receiver

The context `xTinfo` and the functions of `src/tinfo.c` from the bytes read to the callbacks:
`prvvReadItem`, `prviSplitFrame`, `prviProbeFrame`, `prviProbeBuffer` and `iTinfoPoll`. Using
the result of a failed `strchr`, and searching or writing outside `buf`, is a fault. In the
structure `buf` is followed by `buflen`, in which the text of an item may end; what a search finds
there is the matter of another module (`Storage`).

A callback gives its result from the frame and the callbacks that ran before it; the clock gives
the time of its n-th call. The context keeps what the outside can see: the frames probed, and the
callbacks that ran with the frame they were given.
-/

namespace Sysio.Tinfo

def tinfoBufferSize : ℕ := 1024

def stx : UInt8 := 0x02
def etx : UInt8 := 0x03
def eot : UInt8 := 0x04
def lf : UInt8 := 0x0A
def cr : UInt8 := 0x0D

/-- The callbacks that ran, each with its frame. -/
abbrev TinfoCalls := List (ETinfoCbType × XTinfoFrame)

/-- The context, `xTinfo`. -/
structure XTinfo where
  cb : ETinfoCbType → Option (TinfoCalls → XTinfoFrame → ℤ)
  buf : Vector UInt8 tinfoBufferSize
  buflen : ℕ
  pchar : UInt8
  started : Bool
  time : UInt64
  ht : UInt8
  demain : UInt32
  ptec : UInt32
  motdetat : UInt32
  clock : ℕ
  probed : List (List UInt8)
  called : TinfoCalls

/-- The context that `xTinfoOpen` returns. -/
def xTinfoOpen : XTinfo where
  cb := fun _ => none
  buf := Vector.replicate tinfoBufferSize 0
  buflen := 0
  pchar := 0
  started := false
  time := 0
  ht := 0
  demain := 0
  ptec := 0
  motdetat := 0
  clock := 0
  probed := []
  called := []

/-- The context with its callbacks, before the first byte. -/
def tinfoStart (cb : ETinfoCbType → Option (TinfoCalls → XTinfoFrame → ℤ)) : XTinfo :=
  { xTinfoOpen with cb := cb }

/-- Sets the callback of a type, or none. -/
def vTinfoSetCB (t : XTinfo) (type : ETinfoCbType)
    (cb : Option (TinfoCalls → XTinfoFrame → ℤ)) : XTinfo :=
  { t with cb := Function.update t.cb type cb }

/-- Setting callbacks on a context just opened. -/
theorem exists_tinfoStart (settings : List (ETinfoCbType × Option (TinfoCalls → XTinfoFrame → ℤ))) :
    ∃ cb, settings.foldl (fun t setting => vTinfoSetCB t setting.1 setting.2) xTinfoOpen =
      tinfoStart cb := by
  have started : ∀ cb, ∃ later,
      settings.foldl (fun t setting => vTinfoSetCB t setting.1 setting.2) (tinfoStart cb) =
        tinfoStart later := by
    induction settings with
    | nil =>
        intro cb
        exact ⟨cb, rfl⟩
    | cons setting settings ih =>
        intro cb
        exact ih (Function.update cb setting.1 setting.2)
  exact started fun _ => none

/-- The bytes of `buflen`, the lowest first. -/
def tinfoBehind (buflen : ℕ) : Vector UInt8 4 :=
  #v[UInt8.ofNat buflen, UInt8.ofNat (buflen / 256), 0, 0]

/-- The separator becomes a NUL, and the label and the data are read. -/
def prvvReadItem (t : XTinfo) (f : XTinfoFrame) (label : ℕ) : Except Fault (XTinfo × XTinfoFrame) :=
  match strchr (t.buf.toList.drop label) t.ht with
  | .error fault => .error fault
  | .ok none => .error .nullPointer
  | .ok (some sep) =>
      let buf := t.buf.setIfInBounds (label + sep) 0
      .ok ({ t with buf := buf },
        tinfoReadSeparated t.time f (cstr (buf.toList.drop label))
          (buf.toList.drop (label + sep + 1) ++ (tinfoBehind t.buflen).toList))

/-- The `while (group)` of `prviSplitFrame`. -/
def tinfoSplit (t : XTinfo) (f : XTinfoFrame) (group : ℕ) : Except Fault (XTinfo × XTinfoFrame) :=
  match strchr (t.buf.toList.drop group) lf with
  | .error fault => .error fault
  | .ok none => .ok (t, f)
  | .ok (some line) =>
      let label := group + line + 1
      match _found : strchr (t.buf.toList.drop label) cr with
      | .error fault => .error fault
      | .ok none => .error .nullPointer
      | .ok (some offset) =>
          let last := label + offset
          if last < 2 then .error .outOfBounds
          else
            match prvvReadItem { t with buf := t.buf.setIfInBounds (last - 2) 0 } f label with
            | .error fault => .error fault
            | .ok (next, read) => tinfoSplit next read (last + 1)
termination_by tinfoBufferSize - group
decreasing_by
  have inside := strchr_lt _found
  simp only [List.length_drop, Vector.length_toList] at inside
  omega

/-- The variables of the second half of `prviSplitFrame`. -/
structure TinfoDispatch where
  t : XTinfo
  f : XTinfoFrame
  ret : ℤ
  bFrameHasBeenProcessed : Bool

namespace TinfoDispatch

/-- `if (t->cb[type]) { ret = t->cb[type] (t, &f); bFrameHasBeenProcessed = true; }` -/
def call (d : TinfoDispatch) (type : ETinfoCbType) : TinfoDispatch :=
  match d.t.cb type with
  | none => d
  | some cb =>
      { t := { d.t with called := d.t.called ++ [(type, d.f)] }
        f := d.f
        ret := cb d.t.called d.f
        bFrameHasBeenProcessed := true }

/-- The handler of a warning. -/
def onAdps (d : TinfoDispatch) : TinfoDispatch :=
  if d.f.flag &&& eTinfoFlagAdps ≠ 0 then d.call .adps else d

/-- The handler of a new tariff period. -/
def onPtec (d : TinfoDispatch) : TinfoDispatch :=
  if d.t.ptec ≠ d.f.ptec then
    { d with
      t := { d.t with ptec := d.f.ptec }
      f := { d.f with flag := d.f.flag ||| eTinfoFlagNewPtec } }.call .ptec
  else d

/-- The handler of a new status word. -/
def onMotEtat (d : TinfoDispatch) : TinfoDispatch :=
  if d.t.motdetat ≠ d.f.motdetat then
    { d with
      t := { d.t with motdetat := d.f.motdetat }
      f := { d.f with flag := d.f.flag ||| eTinfoFlagNewMotEtat } }.call .motEtat
  else d

/-- The handler of a new colour, under a Tempo contract. -/
def onTempo (d : TinfoDispatch) : TinfoDispatch :=
  if d.f.optarif = eTinfoOpTarifTempo ∧ d.t.demain ≠ d.f.demain then
    { d with
      t := { d.t with demain := d.f.demain }
      f := { d.f with flag := d.f.flag ||| eTinfoFlagTempoNewColor } }.call .tempo
  else d

/-- The handler of a frame for which none has run. -/
def onFrame (d : TinfoDispatch) : TinfoDispatch :=
  if d.bFrameHasBeenProcessed then d else d.call .frame

end TinfoDispatch

/-- The handlers, and the flush that ends `prviSplitFrame`. -/
def tinfoDispatch (t : XTinfo) (f : XTinfoFrame) : ℤ × XTinfo :=
  let start : TinfoDispatch := { t := t, f := f, ret := 0, bFrameHasBeenProcessed := false }
  let handled :=
    if f.frame = eTinfoFrameBlue then start.onAdps.onPtec.onMotEtat.onTempo.onFrame
    else start.onFrame
  (handled.ret, { handled.t with buflen := 0 })

/-- The groups are read, and the handlers run. -/
def prviSplitFrame (t : XTinfo) : Except Fault (ℤ × XTinfo) :=
  match tinfoSplit t .zeroed 0 with
  | .error fault => .error fault
  | .ok (next, f) => .ok (tinfoDispatch next f)

/-- The loop of `prviProbeFrame`: whether all checksums are right, and the separator. -/
def tinfoChecksums (buf : List UInt8) (buflen i : ℕ) (checksum ht : UInt8) :
    Except Fault (Bool × UInt8) :=
  if i < buflen - 1 then
    match buf[i]? with
    | none => .error .outOfBounds
    | some c =>
        if c = lf then tinfoChecksums buf buflen (i + 1) 0 ht
        else
          match buf[i + 2]?, buf[i + 1]? with
          | some mark, some check =>
              if mark ≠ cr then tinfoChecksums buf buflen (i + 1) (checksum + c) ht
              else
                let expected := (checksum &&& 0x3F) + 0x20
                if check ≠ expected then .ok (false, ht)
                else tinfoChecksums buf buflen (i + 3) expected (if ht = 0 then c else ht)
          | _, _ => .error .outOfBounds
  else .ok (true, ht)
termination_by buflen - i

/-- The checksums are checked before the frame is split. -/
def prviProbeFrame (t : XTinfo) : Except Fault (ℤ × XTinfo) :=
  let probed := t.probed ++ [t.buf.toList.take t.buflen]
  match tinfoChecksums t.buf.toList t.buflen 1 0 t.ht with
  | .error fault => .error fault
  | .ok (false, ht) => .ok (-1, { t with ht := ht, buflen := 0, probed := probed })
  | .ok (true, ht) => prviSplitFrame { t with ht := ht, probed := probed }

/-- `t->buf[t->buflen++] = c`. -/
def XTinfo.store (t : XTinfo) (c : UInt8) : Except Fault XTinfo :=
  if room : t.buflen < tinfoBufferSize then
    .ok { t with buf := t.buf.set t.buflen c, buflen := t.buflen + 1 }
  else .error .outOfBounds

/-- The loop that looks for ETX STX. -/
def tinfoHunt (clock : ℕ → UInt64) (t : XTinfo) (c : UInt8) : Except Fault XTinfo :=
  let found : XTinfo :=
    if t.pchar = etx ∧ c = stx then
      { t with time := clock t.clock, clock := t.clock + 1, started := true, pchar := 0 }
    else t
  if found.started then found.store c else .ok { found with pchar := c }

/-- The loop that receives a frame. -/
def tinfoCollect (t : XTinfo) : List UInt8 → Except Fault (ℤ × XTinfo)
  | [] => .ok (0, t)
  | c :: buffer =>
      match t.store c with
      | .error fault => .error fault
      | .ok stored =>
          if c = etx then prviProbeFrame { stored with pchar := etx }
          else if c = eot then tinfoCollect { stored with buflen := 0 } buffer
          else tinfoCollect stored buffer

/-- The bytes of one read. -/
def prviProbeBuffer (clock : ℕ → UInt64) (t : XTinfo) (buffer : List UInt8) :
    Except Fault (ℤ × XTinfo) :=
  if t.buflen = 0 then
    match buffer.foldlM (tinfoHunt clock) { t with started := false } with
    | .error fault => .error fault
    | .ok next => .ok (0, next)
  else tinfoCollect t buffer

/-- `available` is the result of `iSerialPoll`, `received` what `read` returns: `none` for an
error, at most `available` bytes otherwise. -/
def iTinfoPoll (clock : ℕ → UInt64) (t : XTinfo) (available : ℤ) (received : Option (List UInt8)) :
    Except Fault (ℤ × XTinfo) :=
  if available < 0 then .ok (-1, t)
  else if available = 0 then .ok (0, t)
  else if available > tinfoBufferSize then .error .outOfBounds
  else
    match received with
    | none => .ok (-1, t)
    | some buffer => prviProbeBuffer clock t buffer

theorem prvvReadItem_ok {t next : XTinfo} {f read : XTinfoFrame} {label : ℕ}
    (done : prvvReadItem t f label = .ok (next, read)) :
    ∃ sep, strchr (t.buf.toList.drop label) t.ht = .ok (some sep) ∧
      next = { t with buf := t.buf.setIfInBounds (label + sep) 0 } := by
  rw [prvvReadItem] at done
  split at done
  · cases done
  · cases done
  · rename_i sep found
    cases done
    exact ⟨sep, found, rfl⟩

theorem prvvReadItem_error {t : XTinfo} {f : XTinfoFrame} {label : ℕ} {fault : Fault}
    (failed : prvvReadItem t f label = .error fault) (sep : ℕ) :
    strchr (t.buf.toList.drop label) t.ht ≠ .ok (some sep) := by
  intro found
  rw [prvvReadItem, found] at failed
  cases failed

theorem tinfoSplit_ok {t next : XTinfo} {f read : XTinfoFrame} {group : ℕ}
    (done : tinfoSplit t f group = .ok (next, read)) : ∃ buf, next = { t with buf := buf } := by
  fun_induction tinfoSplit t f group with
  | case2 =>
      cases done
      exact ⟨_, rfl⟩
  | case7 t f group line found label offset located last inside between item itemRead ih =>
      rcases prvvReadItem_ok itemRead with ⟨sep, _, rfl⟩
      exact ih done
  | _ => cases done

/-- The part of the context that the handlers leave alone. -/
def XTinfo.line (t : XTinfo) :
    (ETinfoCbType → Option (TinfoCalls → XTinfoFrame → ℤ)) × Vector UInt8 tinfoBufferSize × UInt8 ×
      UInt8 × List (List UInt8) :=
  (t.cb, t.buf, t.pchar, t.ht, t.probed)

namespace TinfoDispatch

@[simp]
theorem line_call (d : TinfoDispatch) (type : ETinfoCbType) :
    (d.call type).t.line = d.t.line := by
  rw [call]
  split <;> rfl

@[simp]
theorem line_onAdps (d : TinfoDispatch) : d.onAdps.t.line = d.t.line := by
  rw [onAdps]
  split <;> simp

@[simp]
theorem line_onPtec (d : TinfoDispatch) : d.onPtec.t.line = d.t.line := by
  rw [onPtec]
  split
  · exact line_call _ _
  · rfl

@[simp]
theorem line_onMotEtat (d : TinfoDispatch) : d.onMotEtat.t.line = d.t.line := by
  rw [onMotEtat]
  split
  · exact line_call _ _
  · rfl

@[simp]
theorem line_onTempo (d : TinfoDispatch) : d.onTempo.t.line = d.t.line := by
  rw [onTempo]
  split
  · exact line_call _ _
  · rfl

@[simp]
theorem line_onFrame (d : TinfoDispatch) : d.onFrame.t.line = d.t.line := by
  rw [onFrame]
  split <;> simp

end TinfoDispatch

theorem line_tinfoDispatch (t : XTinfo) (f : XTinfoFrame) :
    (tinfoDispatch t f).2.line = t.line := by
  have handled : ∀ d : TinfoDispatch, ({ d.t with buflen := 0 } : XTinfo).line = d.t.line :=
    fun _ => rfl
  rw [tinfoDispatch, handled]
  split <;> simp

/-- A loop that comes to its end does so whatever follows the memory. -/
theorem tinfoChecksums_append {own : List UInt8} {buflen i : ℕ} {sum ht : UInt8}
    {result : Bool × UInt8} (checked : tinfoChecksums own buflen i sum ht = .ok result)
    (tail : List UInt8) : tinfoChecksums (own ++ tail) buflen i sum ht = .ok result := by
  have ahead {k : ℕ} {c : UInt8} (here : own[k]? = some c) : (own ++ tail)[k]? = some c := by
    rcases List.getElem?_eq_some_iff.mp here with ⟨inside, _⟩
    rw [List.getElem?_append_left inside, here]
  fun_induction tinfoChecksums own buflen i sum ht with
  | case1 => cases checked
  | case2 i sum ht inside first ih =>
      rw [tinfoChecksums, if_pos inside, ahead first]
      simpa using ih checked
  | case3 i sum ht inside c first notLf mark check second third notCr ih =>
      rw [tinfoChecksums, if_pos inside, ahead first]
      simp only [if_neg notLf, ahead second, ahead third, if_pos notCr]
      exact ih checked
  | case4 i sum ht inside c first notLf mark check second third isCr expected wrong =>
      rw [tinfoChecksums, if_pos inside, ahead first]
      simp only [if_neg notLf, ahead second, ahead third, if_neg isCr]
      rw [if_pos wrong]
      exact checked
  | case5 i sum ht inside c first notLf mark check second third isCr expected right ih =>
      rw [tinfoChecksums, if_pos inside, ahead first]
      simp only [if_neg notLf, ahead second, ahead third, if_neg isCr]
      rw [if_neg right]
      exact ih checked
  | case6 => cases checked
  | case7 i sum ht outside =>
      rw [tinfoChecksums, if_neg outside]
      exact checked

/-- A frame is given up or handed over; either way the buffer is empty behind it. -/
theorem prviProbeFrame_ok {t next : XTinfo} {ret : ℤ} (done : prviProbeFrame t = .ok (ret, next)) :
    next.buflen = 0 ∧ next.pchar = t.pchar ∧
      next.probed = t.probed ++ [t.buf.toList.take t.buflen] := by
  rw [prviProbeFrame] at done
  split at done
  · cases done
  · cases done
    exact ⟨rfl, rfl, rfl⟩
  · rw [prviSplitFrame] at done
    split at done
    · cases done
    · rename_i split_ok
      rcases tinfoSplit_ok split_ok with ⟨buf, rfl⟩
      cases done
      have kept := line_tinfoDispatch
      simp only [XTinfo.line, Prod.mk.injEq] at kept
      exact ⟨rfl, (kept _ _).2.2.1, (kept _ _).2.2.2.2⟩

end Sysio.Tinfo
