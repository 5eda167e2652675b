import Sysio.Tinfo.Receiver

/-!
# Tinfo handlers

What the second half of `prviSplitFrame` does with a frame, seen as a change detector: the
context remembers a tariff period, a status word and a colour, and a blue frame raises an
exception for each of them that it changes, and one for its warning flag. The handlers that run
are those of the exceptions, or else the handler of normal frames.
-/

namespace Sysio.Tinfo

/-- What the context remembers of the frames before. -/
structure TinfoMemory where
  ptec : UInt32
  motdetat : UInt32
  demain : UInt32
deriving DecidableEq, Repr

/-- What the context remembers. -/
def XTinfo.memory (t : XTinfo) : TinfoMemory :=
  { ptec := t.ptec, motdetat := t.motdetat, demain := t.demain }

namespace XTinfoFrame

/-- What is remembered after a blue frame. -/
def leaves (f : XTinfoFrame) (memory : TinfoMemory) : TinfoMemory where
  ptec := f.ptec
  motdetat := f.motdetat
  demain := if f.optarif = eTinfoOpTarifTempo then f.demain else memory.demain

/-- The exceptions of a blue frame. -/
def exceptions (f : XTinfoFrame) (memory : TinfoMemory) : List ETinfoCbType :=
  (if f.flag &&& eTinfoFlagAdps ≠ 0 then [.adps] else []) ++
    (if memory.ptec ≠ f.ptec then [.ptec] else []) ++
    (if memory.motdetat ≠ f.motdetat then [.motEtat] else []) ++
    if f.optarif = eTinfoOpTarifTempo ∧ memory.demain ≠ f.demain then [.tempo] else []

end XTinfoFrame

/-- What the handlers compare: what is remembered, and the frame but its flags. -/
def TinfoDispatch.watched (d : TinfoDispatch) : TinfoMemory × XTinfoFrame :=
  (d.t.memory, { d.f with flag := 0 })

/-- There is a handler of the type. -/
def XTinfo.sets (t : XTinfo) (type : ETinfoCbType) : Bool := (t.cb type).isSome

/-- The handlers of the exceptions that were raised, if any is set, or else that of a normal
frame. -/
def XTinfo.handlers (t : XTinfo) (raised : List ETinfoCbType) : List ETinfoCbType :=
  if raised.filter t.sets = [] then [ETinfoCbType.frame].filter t.sets else raised.filter t.sets

/-- The handlers have dealt with the exceptions `raised`. -/
structure Handled (t : XTinfo) (raised : List ETinfoCbType) (d : TinfoDispatch) : Prop where
  cb : d.t.cb = t.cb
  types : d.t.called.map Prod.fst = t.called.map Prod.fst ++ raised.filter t.sets
  processed : d.bFrameHasBeenProcessed = true ↔ raised.filter t.sets ≠ []
  ret : raised.filter t.sets = [] → d.ret = 0

section

variable {t : XTinfo} {raised : List ETinfoCbType} {d : TinfoDispatch}

theorem Handled.call (handled : Handled t raised d) (type : ETinfoCbType) :
    Handled t (raised ++ [type]) (d.call type) := by
  have cb := congrFun handled.cb type
  rcases isSet : t.cb type with _ | handler
  · have unset : d.call type = d := by
      rw [TinfoDispatch.call, cb, isSet]
    have silent : (raised ++ [type]).filter t.sets = raised.filter t.sets := by
      simp [XTinfo.sets, isSet]
    rw [unset]
    exact
      { cb := handled.cb
        types := by rw [silent, handled.types]
        processed := by rw [silent, handled.processed]
        ret := by rw [silent]; exact handled.ret }
  · have runs : d.call type =
        { t := { d.t with called := d.t.called ++ [(type, d.f)] }
          f := d.f
          ret := handler d.t.called d.f
          bFrameHasBeenProcessed := true } := by
      rw [TinfoDispatch.call, cb, isSet]
    have heard : (raised ++ [type]).filter t.sets = raised.filter t.sets ++ [type] := by
      simp [XTinfo.sets, isSet]
    rw [runs]
    exact
      { cb := handled.cb
        types := by simp [heard, handled.types]
        processed := by simp [heard]
        ret := by simp [heard] }

theorem Handled.onAdps (handled : Handled t raised d) :
    Handled t (raised ++ if d.f.flag &&& eTinfoFlagAdps ≠ 0 then [.adps] else []) d.onAdps := by
  rw [TinfoDispatch.onAdps]
  split
  · exact handled.call .adps
  · rw [List.append_nil]
    exact handled

theorem Handled.onPtec (handled : Handled t raised d) :
    Handled t (raised ++ if d.watched.1.ptec ≠ d.watched.2.ptec then [.ptec] else []) d.onPtec := by
  rw [TinfoDispatch.onPtec]
  split
  · rename_i changed
    have differs : d.t.ptec ≠ d.f.ptec := changed
    rw [if_pos differs]
    apply Handled.call
    exact ⟨handled.cb, handled.types, handled.processed, handled.ret⟩
  · rename_i same
    have agrees : ¬(d.t.ptec ≠ d.f.ptec) := same
    rw [if_neg agrees, List.append_nil]
    exact handled

theorem Handled.onMotEtat (handled : Handled t raised d) :
    Handled t (raised ++ if d.watched.1.motdetat ≠ d.watched.2.motdetat then [.motEtat] else [])
      d.onMotEtat := by
  rw [TinfoDispatch.onMotEtat]
  split
  · rename_i changed
    have differs : d.t.motdetat ≠ d.f.motdetat := changed
    rw [if_pos differs]
    apply Handled.call
    exact ⟨handled.cb, handled.types, handled.processed, handled.ret⟩
  · rename_i same
    have agrees : ¬(d.t.motdetat ≠ d.f.motdetat) := same
    rw [if_neg agrees, List.append_nil]
    exact handled

theorem Handled.onTempo (handled : Handled t raised d) :
    Handled t (raised ++ if d.watched.2.optarif = eTinfoOpTarifTempo ∧
      d.watched.1.demain ≠ d.watched.2.demain then [.tempo] else []) d.onTempo := by
  rw [TinfoDispatch.onTempo]
  split
  · rename_i changed
    have differs : d.f.optarif = eTinfoOpTarifTempo ∧ d.t.demain ≠ d.f.demain := changed
    rw [if_pos differs]
    apply Handled.call
    exact ⟨handled.cb, handled.types, handled.processed, handled.ret⟩
  · rename_i same
    have agrees : ¬(d.f.optarif = eTinfoOpTarifTempo ∧ d.t.demain ≠ d.f.demain) := same
    rw [if_neg agrees, List.append_nil]
    exact handled

theorem Handled.onFrame (handled : Handled t raised d) :
    d.onFrame.t.called.map Prod.fst = t.called.map Prod.fst ++ t.handlers raised ∧
      (t.handlers raised = [] → d.onFrame.ret = 0) := by
  rw [TinfoDispatch.onFrame, XTinfo.handlers]
  by_cases none_ran : raised.filter t.sets = []
  · rw [if_pos none_ran, if_neg (by rw [handled.processed]; exact not_not.mpr none_ran)]
    have normal := handled.call .frame
    have filtered : (raised ++ [ETinfoCbType.frame]).filter t.sets =
        [ETinfoCbType.frame].filter t.sets := by
      rw [List.filter_append, none_ran, List.nil_append]
    rw [← filtered]
    exact ⟨normal.types, normal.ret⟩
  · rw [if_neg none_ran, if_pos (handled.processed.mpr none_ran)]
    exact ⟨handled.types, handled.ret⟩

end

namespace TinfoDispatch

theorem watched_call (d : TinfoDispatch) (type : ETinfoCbType) :
    (d.call type).watched = d.watched := by
  rw [call]
  split <;> rfl

theorem watched_onAdps (d : TinfoDispatch) : d.onAdps.watched = d.watched := by
  rw [onAdps]
  split
  · exact watched_call _ _
  · rfl

theorem watched_onPtec (d : TinfoDispatch) :
    d.onPtec.watched = ({ d.watched.1 with ptec := d.watched.2.ptec }, d.watched.2) := by
  rw [onPtec]
  split
  · exact watched_call _ _
  · rename_i same
    have same := not_not.mp same
    simp [watched, XTinfo.memory, ← same]

theorem watched_onMotEtat (d : TinfoDispatch) :
    d.onMotEtat.watched =
      ({ d.watched.1 with motdetat := d.watched.2.motdetat }, d.watched.2) := by
  rw [onMotEtat]
  split
  · exact watched_call _ _
  · rename_i same
    have same := not_not.mp same
    simp [watched, XTinfo.memory, ← same]

theorem watched_onTempo (d : TinfoDispatch) :
    d.onTempo.watched =
      ({ d.watched.1 with
        demain :=
          if d.watched.2.optarif = eTinfoOpTarifTempo then d.watched.2.demain
          else d.watched.1.demain }, d.watched.2) := by
  rw [onTempo]
  split
  · rename_i changed
    have isTempo : d.watched.2.optarif = eTinfoOpTarifTempo := changed.1
    rw [if_pos isTempo]
    exact watched_call _ _
  · rename_i same
    split
    · rename_i isTempo
      have same : d.t.demain = d.f.demain := not_not.mp fun differs => same ⟨isTempo, differs⟩
      simp [watched, XTinfo.memory, same]
    · rfl

theorem watched_onFrame (d : TinfoDispatch) : d.onFrame.watched = d.watched := by
  rw [onFrame]
  split
  · rfl
  · exact watched_call _ _

end TinfoDispatch

theorem handled_exceptions (t : XTinfo) (f : XTinfoFrame) :
    let start : TinfoDispatch := { t := t, f := f, ret := 0, bFrameHasBeenProcessed := false }
    Handled t (f.exceptions t.memory) start.onAdps.onPtec.onMotEtat.onTempo ∧
      start.onAdps.onPtec.onMotEtat.onTempo.watched =
        (f.leaves t.memory, { f with flag := 0 }) := by
  intro start
  have begin : Handled t [] start := ⟨rfl, by simp [start], by simp [start], fun _ => rfl⟩
  have first : start.onAdps.watched = (t.memory, { f with flag := 0 }) := start.watched_onAdps
  have second := start.onAdps.watched_onPtec
  rw [first] at second
  have third := start.onAdps.onPtec.watched_onMotEtat
  rw [second] at third
  have fourth := start.onAdps.onPtec.onMotEtat.watched_onTempo
  rw [third] at fourth
  have handled := begin.onAdps.onPtec.onMotEtat.onTempo
  rw [first, second, third] at handled
  exact ⟨handled, fourth⟩

/-- What the context remembers, and which handlers run. -/
theorem tinfoDispatch_spec (t : XTinfo) (f : XTinfoFrame) :
    let raised := if f.frame = eTinfoFrameBlue then f.exceptions t.memory else []
    (tinfoDispatch t f).2.called.map Prod.fst = t.called.map Prod.fst ++ t.handlers raised ∧
      (t.handlers raised = [] → (tinfoDispatch t f).1 = 0) ∧
      (tinfoDispatch t f).2.memory =
        if f.frame = eTinfoFrameBlue then f.leaves t.memory else t.memory := by
  intro raised
  by_cases blue : f.frame = eTinfoFrameBlue
  · rcases handled_exceptions t f with ⟨handled, watched⟩
    have isRaised : raised = f.exceptions t.memory := if_pos blue
    simp only [isRaised, tinfoDispatch, if_pos blue]
    generalize TinfoDispatch.onTempo _ = d at handled watched ⊢
    rcases handled.onFrame with ⟨types, ret⟩
    refine ⟨types, ret, ?_⟩
    have last := d.watched_onFrame
    rw [watched] at last
    exact congrArg Prod.fst last
  · let start : TinfoDispatch := { t := t, f := f, ret := 0, bFrameHasBeenProcessed := false }
    have begin : Handled t [] start := ⟨rfl, by simp [start], by simp [start], fun _ => rfl⟩
    rcases begin.onFrame with ⟨types, ret⟩
    have isRaised : raised = [] := if_neg blue
    rw [isRaised, tinfoDispatch, if_neg blue, if_neg blue]
    exact ⟨types, ret, congrArg Prod.fst (TinfoDispatch.watched_onFrame start)⟩

/-! ### The frames given to the handlers -/

/-- The handlers have been given `f`, with whatever flags. -/
def TinfoDispatch.Gives (t : XTinfo) (f : XTinfoFrame) (d : TinfoDispatch) : Prop :=
  { d.f with flag := f.flag } = f ∧ ∃ calls, d.t.called = t.called ++ calls ∧
    ∀ call ∈ calls, { call.2 with flag := f.flag } = f

namespace TinfoDispatch

variable {t : XTinfo} {f : XTinfoFrame} {d : TinfoDispatch}

theorem Gives.call (gives : d.Gives t f) (type : ETinfoCbType) : (d.call type).Gives t f := by
  rcases gives with ⟨same, calls, called, given⟩
  rw [TinfoDispatch.call]
  split
  · exact ⟨same, calls, called, given⟩
  · refine ⟨same, calls ++ [(type, d.f)], by simp [called], ?_⟩
    intro call call_mem
    rcases List.mem_append.mp call_mem with before | last
    · exact given call before
    · rw [List.mem_singleton.mp last]
      exact same

theorem Gives.onAdps (gives : d.Gives t f) : d.onAdps.Gives t f := by
  rw [TinfoDispatch.onAdps]
  split
  · exact gives.call .adps
  · exact gives

theorem Gives.onPtec (gives : d.Gives t f) : d.onPtec.Gives t f := by
  rw [TinfoDispatch.onPtec]
  split
  · apply Gives.call
    exact ⟨gives.1, gives.2⟩
  · exact gives

theorem Gives.onMotEtat (gives : d.Gives t f) : d.onMotEtat.Gives t f := by
  rw [TinfoDispatch.onMotEtat]
  split
  · apply Gives.call
    exact ⟨gives.1, gives.2⟩
  · exact gives

theorem Gives.onTempo (gives : d.Gives t f) : d.onTempo.Gives t f := by
  rw [TinfoDispatch.onTempo]
  split
  · apply Gives.call
    exact ⟨gives.1, gives.2⟩
  · exact gives

theorem Gives.onFrame (gives : d.Gives t f) : d.onFrame.Gives t f := by
  rw [TinfoDispatch.onFrame]
  split
  · exact gives
  · exact gives.call .frame

end TinfoDispatch

theorem gives_tinfoDispatch (t : XTinfo) (f : XTinfoFrame) :
    ∃ calls, (tinfoDispatch t f).2.called = t.called ++ calls ∧
      ∀ call ∈ calls, { call.2 with flag := f.flag } = f := by
  let start : TinfoDispatch := { t := t, f := f, ret := 0, bFrameHasBeenProcessed := false }
  have begin : start.Gives t f := ⟨rfl, [], by simp [start], by simp⟩
  rw [tinfoDispatch]
  split
  · exact begin.onAdps.onPtec.onMotEtat.onTempo.onFrame.2
  · exact begin.onFrame.2

/-- With all handlers set, one of them runs. -/
theorem called_tinfoDispatch_ne {t : XTinfo} (handled : ∀ type, t.sets type = true)
    (f : XTinfoFrame) : (tinfoDispatch t f).2.called ≠ t.called := by
  have runs (raised : List ETinfoCbType) : t.handlers raised ≠ [] := by
    rw [XTinfo.handlers]
    split
    · simp [handled]
    · assumption
  rcases tinfoDispatch_spec t f with ⟨types, _⟩
  intro same
  rw [same] at types
  exact runs _ (List.append_cancel_left (types.symm.trans (List.append_nil _).symm))

end Sysio.Tinfo
