import Sysio.Gpio.Decoding

/-!
# The edges noted for `iDinEdgeOccured`

Every edge of a pin overwrites what is noted for it, with nothing where its direction is not in
the mask. So a read tells of the edges since the one before it exactly when the last of them is in
the mask, or none of them is.

The thread takes a step at a time, and any call of the module may come between two of its steps.
-/

namespace Sysio.Gpio

/-- A part of a turn of the thread, or a call of the module. -/
inductive DinAction where
  | look (first second : GpioLevels)
  | turn
  | setEdge (p : ℕ) (edge : EDinEdge)
  | edgeOccured (p : ℕ)
  | setCallback (p : ℕ) (edge : EDinEdge) (callback : Option IDinCallback)
  | clearCallback (p : ℕ)
  | setGrpCallback (edge : EDinEdge) (callback : Option (ℕ → IDinCallback))
  | clearGrpCallback

/-- The thread stays where it is. -/
def DinState.withPort (state : DinState) (port : XDinPort) : DinState :=
  { state with port := port }

/-- The state after an action; none if there is no turn to take. -/
def DinAction.run (state : DinState) : DinAction → Option DinState
  | look first second => some (pvDinLook first second state)
  | turn => pvDinTurn state
  | setEdge p edge => some (state.withPort (iDinSetEdge p edge state.port).2)
  | edgeOccured p => some (state.withPort (iDinEdgeOccured p state.port).2)
  | setCallback p edge callback =>
      some (state.withPort (iDinSetCallback p edge callback state.port).2)
  | clearCallback p => some (state.withPort (iDinClearCallback p state.port).2)
  | setGrpCallback edge callback =>
      some (state.withPort (iDinSetGrpCallback edge callback state.port).2)
  | clearGrpCallback => some (state.withPort (iDinClearGrpCallback state.port).2)

/-! ### What happens to the pins -/

/-- An edge of a pin, the mask of the pin then, and whether the thread came to it: the changes
that are left when a callback stops the thread are lost. -/
structure DinEdgeSeen where
  rising : Bool
  mask : EDinEdge
  decoded : Bool
deriving DecidableEq, Repr

namespace DinEdgeSeen

/-- The edge that was seen. -/
def edge (seen : DinEdgeSeen) : EDinEdge := if seen.rising then .eEdgeRising else .eEdgeFalling

/-- The edge is in the mask. -/
def Matches (seen : DinEdgeSeen) : Prop := seen.edge &&& seen.mask ≠ .eEdgeNone

instance (seen : DinEdgeSeen) : Decidable seen.Matches := inferInstanceAs (Decidable (_ ≠ _))

end DinEdgeSeen

/-- An edge of a pin, or a read of it. -/
inductive DinEvent where
  | edge (p : ℕ) (seen : DinEdgeSeen)
  | read (p : ℕ) (ret : ℤ)
deriving DecidableEq, Repr

/-- The edge that a turn decodes, and those it loses. -/
def DinScan.events (scan : DinScan) (state : DinState) : List DinEvent :=
  if scan.diff &&& scan.mask ≠ 0 then
    .edge scan.p ⟨decide (scan.values &&& scan.mask ≠ 0), (state.port.ctx scan.p).edge, true⟩ ::
      if (pvDinDecode scan state).scan = none then
        (bitsFrom (scan.diff &&& ~~~scan.mask) 0 state.port.size).map fun p =>
          .edge p ⟨scan.values.getLsbD p, (state.port.ctx p).edge, false⟩
      else []
  else []

/-- What happens to the pins in an action. -/
def DinAction.events (state : DinState) : DinAction → List DinEvent
  | turn => state.scan.elim [] fun scan => scan.events state
  | edgeOccured p =>
      if p < state.port.size then [.read p (iDinEdgeOccured p state.port).1] else []
  | _ => []

/-- A run, and all that happens to the pins in it. -/
def dinRun : List DinAction → DinState → Option (DinState × List DinEvent)
  | [], state => some (state, [])
  | action :: rest, state =>
      (action.run state).bind fun after =>
        (dinRun rest after).map fun ended => (ended.1, action.events state ++ ended.2)

/-- The edges of each pin since the last read of it. -/
abbrev EdgesSince := ℕ → List DinEdgeSeen

/-- A read forgets the edges of its pin. -/
def EdgesSince.after (since : EdgesSince) : DinEvent → EdgesSince
  | .edge p seen => Function.update since p (since p ++ [seen])
  | .read p _ => Function.update since p []

/-- `Holds` is true at every read, of the edges since the one before it and of what it returns. -/
def EveryRead (Holds : List DinEdgeSeen → ℤ → Prop) : EdgesSince → List DinEvent → Prop
  | _, [] => True
  | since, .edge p seen :: rest => EveryRead Holds (since.after (.edge p seen)) rest
  | since, .read p ret :: rest =>
      Holds (since p) ret ∧ EveryRead Holds (since.after (.read p ret)) rest

/-- What is noted after these edges. -/
def recorded (edges : List DinEdgeSeen) : EDinEdge :=
  edges.foldl (fun noted seen => if seen.decoded then seen.edge &&& seen.mask else noted) .eEdgeNone

/-- The edge as an `int`. -/
def EDinEdge.ret (edge : EDinEdge) : ℤ := edge.code.toNat

/-- A read tells whether there was an edge in the mask, and the direction of one. The edges
outside the mask do not change it. -/
structure TellsOf (edges : List DinEdgeSeen) (ret : ℤ) : Prop where
  occurred : ret ≠ EDinEdge.eEdgeNone.ret ↔ ∃ seen ∈ edges, seen.Matches
  direction : ret ≠ EDinEdge.eEdgeNone.ret → ∃ seen ∈ edges, seen.Matches ∧
    ∃ value : EDinEdge, ret = value.ret ∧ value &&& seen.edge = seen.edge
  outside : ret = (recorded (edges.filter fun seen => seen.Matches)).ret

/-- No edge is in the mask, or the last one that the thread came to is. -/
def LastMatches (edges : List DinEdgeSeen) : Prop :=
  (∀ seen ∈ edges, ¬ seen.Matches) ∨
    ∃ last, (edges.filter fun seen => seen.decoded).getLast? = some last ∧ last.Matches

/-! ### One pin -/

section Recorded

variable {edges : List DinEdgeSeen} {seen : DinEdgeSeen}

theorem EDinEdge.ret_inj {edge other : EDinEdge} : edge.ret = other.ret ↔ edge = other := by
  cases edge <;> cases other <;> decide

theorem recorded_concat (edges : List DinEdgeSeen) (seen : DinEdgeSeen) :
    recorded (edges ++ [seen]) =
      if seen.decoded then seen.edge &&& seen.mask else recorded edges := by
  rw [recorded, List.foldl_append]
  rfl

theorem recorded_lost (lost : seen.decoded = false) :
    recorded (edges ++ [seen]) = recorded edges := by
  rw [recorded_concat, lost, if_neg (by decide)]

/-- What is noted is left by the last edge that was decoded. -/
theorem recorded_eq (edges : List DinEdgeSeen) :
    recorded edges = (edges.filter fun seen => seen.decoded).getLast?.elim .eEdgeNone
      fun last => last.edge &&& last.mask := by
  induction edges using List.reverseRecOn with
  | nil => rfl
  | append_singleton front seen hypothesis =>
      rw [recorded_concat, List.filter_append]
      by_cases decoded : seen.decoded = true
      · rw [if_pos decoded, List.filter_singleton, decoded, cond_true, List.getLast?_concat,
          Option.elim_some]
      · rw [if_neg decoded, List.filter_singleton, Bool.eq_false_of_not_eq_true decoded,
          cond_false, List.append_nil, hypothesis]

theorem recorded_last {last : DinEdgeSeen}
    (ends : (edges.filter fun seen => seen.decoded).getLast? = some last) :
    recorded edges = last.edge &&& last.mask := by
  rw [recorded_eq, ends, Option.elim_some]

theorem DinEdgeSeen.edge_ne_both : seen.edge ≠ .eEdgeBoth := by
  rw [edge]
  split <;> exact EDinEdge.noConfusion

theorem DinEdgeSeen.Matches.noted (inMask : seen.Matches) : seen.edge &&& seen.mask = seen.edge :=
  EDinEdge.and_self_of_single DinEdgeSeen.edge_ne_both inMask

theorem recorded_filter {last : DinEdgeSeen}
    (ends : (edges.filter fun seen => seen.decoded).getLast? = some last) (inMask : last.Matches) :
    recorded (edges.filter fun seen => seen.Matches) = last.edge &&& last.mask := by
  apply recorded_last
  rcases List.getLast?_eq_some_iff.mp ends with ⟨front, split⟩
  rw [List.filter_filter]
  have commuted : (edges.filter fun seen => seen.decoded && decide seen.Matches) =
      (front ++ [last]).filter fun seen => seen.Matches := by
    rw [← split, List.filter_filter]
    exact List.filter_congr fun seen _ => Bool.and_comm ..
  rw [commuted, List.filter_append, List.filter_singleton, decide_eq_true inMask,
    cond_true, List.getLast?_concat]

/-- What is noted tells of the edges exactly when the last one is in the mask, or none is. -/
theorem tellsOf_recorded_iff :
    TellsOf edges (recorded edges).ret ↔ LastMatches edges := by
  constructor
  · intro tells
    by_cases some_matches : ∃ seen ∈ edges, seen.Matches
    · right
      have noted : recorded edges ≠ .eEdgeNone := fun none =>
        tells.occurred.mpr some_matches (congrArg EDinEdge.ret none)
      cases ends : (edges.filter fun seen => seen.decoded).getLast? with
      | none =>
          rw [recorded_eq, ends] at noted
          exact absurd rfl noted
      | some last =>
          rw [recorded_last ends] at noted
          exact ⟨last, rfl, noted⟩
    · left
      intro seen member inMask
      exact some_matches ⟨seen, member, inMask⟩
  · rintro (outside | ⟨last, ends, inMask⟩)
    · have noted : recorded edges = .eEdgeNone := by
        rw [recorded_eq]
        cases ends : (edges.filter fun seen => seen.decoded).getLast? with
        | none => rfl
        | some last =>
            have member := List.mem_of_getLast? ends
            exact not_not.mp (outside last (List.mem_of_mem_filter member))
      rw [noted]
      refine ⟨⟨fun some => absurd rfl some, ?_⟩, fun some => absurd rfl some, ?_⟩
      · rintro ⟨seen, member, inMask⟩
        exact absurd inMask (outside seen member)
      · rw [List.filter_eq_nil_iff.mpr fun seen member => by simpa using outside seen member]
        rfl
    · have member := List.mem_of_mem_filter (List.mem_of_getLast? ends)
      rw [recorded_last ends]
      have some_noted : (last.edge &&& last.mask).ret ≠ EDinEdge.eEdgeNone.ret :=
        fun none => inMask (EDinEdge.ret_inj.mp none)
      refine ⟨⟨fun _ => ⟨last, member, inMask⟩, fun _ => some_noted⟩,
        fun _ => ⟨last, member, inMask, _, rfl, ?_⟩, ?_⟩
      · rw [inMask.noted]
        cases last.edge <;> rfl
      · rw [recorded_filter ends inMask]

end Recorded

/-! ### One step -/

section Logs

variable {Holds : List DinEdgeSeen → ℤ → Prop}

theorem everyRead_append (since : EdgesSince) (first second : List DinEvent) :
    EveryRead Holds since (first ++ second) ↔
      EveryRead Holds since first ∧
        EveryRead Holds (first.foldl EdgesSince.after since) second := by
  induction first generalizing since with
  | nil => exact ⟨fun holds => ⟨trivial, holds⟩, And.right⟩
  | cons event rest hypothesis =>
      cases event with
      | edge p seen => exact hypothesis _
      | read p ret =>
          rw [List.cons_append, EveryRead, EveryRead, hypothesis, and_assoc]
          rfl

/-- The event is an edge. -/
def DinEvent.IsEdge : DinEvent → Prop
  | edge _ _ => True
  | read _ _ => False

theorem everyRead_of_edges (since : EdgesSince) {events : List DinEvent}
    (edges : ∀ event ∈ events, event.IsEdge) : EveryRead Holds since events := by
  induction events generalizing since with
  | nil => trivial
  | cons event rest hypothesis =>
      have rest_edges : ∀ event ∈ rest, event.IsEdge := fun event member =>
        edges event (List.mem_cons_of_mem _ member)
      cases event with
      | edge p seen => exact hypothesis _ rest_edges
      | read p ret => exact (edges _ (List.mem_cons_self ..)).elim

end Logs

/-- Two ports whose edges are noted alike. -/
structure XDinPort.SameNotes (port after : XDinPort) : Prop where
  size : after.size = port.size
  prevValues : after.prevValues = port.prevValues
  noted : ∀ p, (after.ctx p).edgeOccurred = (port.ctx p).edgeOccurred

namespace XDinPort

variable {port middle after : XDinPort}

theorem SameNotes.refl (port : XDinPort) : port.SameNotes port := ⟨rfl, rfl, fun _ => rfl⟩

theorem SameNotes.trans (first : port.SameNotes middle) (second : middle.SameNotes after) :
    port.SameNotes after :=
  ⟨second.size.trans first.size, second.prevValues.trans first.prevValues,
    fun p => (second.noted p).trans (first.noted p)⟩

theorem sameNotes_setCtx {p : ℕ} {ctx : XDinCbContext}
    (same : ctx.edgeOccurred = (port.ctx p).edgeOccurred) : port.SameNotes (port.setCtx p ctx) := by
  refine ⟨rfl, rfl, fun other => ?_⟩
  by_cases here : other = p
  · rw [here, setCtx_self, same]
  · rw [setCtx_of_ne here]

theorem sameNotes_vSetEdge {p : ℕ} {edge : EDinEdge} : port.SameNotes (port.vSetEdge p edge) :=
  sameNotes_setCtx rfl

theorem sameNotes_vSetCallback {p : ℕ} {edge : EDinEdge} {callback : Option IDinCallback} :
    port.SameNotes (port.vSetCallback p edge callback) := sameNotes_setCtx rfl

theorem sameNotes_vClearCallback {p : ℕ} : port.SameNotes (port.vClearCallback p) :=
  sameNotes_setCtx rfl

theorem sameNotes_foldl {change : XDinPort → ℕ → XDinPort}
    (each : ∀ port p, XDinPort.SameNotes port (change port p)) (places : List ℕ)
    (port : XDinPort) : port.SameNotes (places.foldl change port) := by
  induction places generalizing port with
  | nil => exact SameNotes.refl port
  | cons place rest hypothesis => exact (each port place).trans (hypothesis _)

theorem sameNotes_grouped {grouped : Bool} (same : port.SameNotes after) :
    port.SameNotes { after with grouped := grouped } := ⟨same.size, same.prevValues, same.noted⟩

theorem sameNotes_setEdge (p : ℕ) (edge : EDinEdge) (port : XDinPort) :
    port.SameNotes (iDinSetEdge p edge port).2 := by
  rw [iDinSetEdge]
  split
  · exact SameNotes.refl port
  · split
    · exact sameNotes_foldl (fun port p => sameNotes_vSetEdge) _ port
    · exact sameNotes_vSetEdge

theorem sameNotes_setCallback (p : ℕ) (edge : EDinEdge) (callback : Option IDinCallback)
    (port : XDinPort) : port.SameNotes (iDinSetCallback p edge callback port).2 := by
  rw [iDinSetCallback]
  split
  · exact SameNotes.refl port
  · exact sameNotes_vSetCallback

theorem sameNotes_clearCallback (p : ℕ) (port : XDinPort) :
    port.SameNotes (iDinClearCallback p port).2 := by
  rw [iDinClearCallback]
  split
  · exact SameNotes.refl port
  · exact sameNotes_vClearCallback

theorem sameNotes_clearGrpCallback (port : XDinPort) :
    port.SameNotes (iDinClearGrpCallback port).2 := by
  rw [iDinClearGrpCallback]
  split
  · exact sameNotes_grouped (sameNotes_foldl (fun port p => sameNotes_vClearCallback) _ port)
  · exact SameNotes.refl port

theorem sameNotes_setGrpCallback (edge : EDinEdge) (callback : Option (ℕ → IDinCallback))
    (port : XDinPort) : port.SameNotes (iDinSetGrpCallback edge callback port).2 := by
  have cleared : port.SameNotes (if port.grouped then (iDinClearGrpCallback port).2 else port) := by
    split
    · exact sameNotes_clearGrpCallback port
    · exact SameNotes.refl port
  exact cleared.trans
    (sameNotes_grouped (sameNotes_foldl (fun port p => sameNotes_vSetCallback) _ _))

end XDinPort

/-- The edges noted are those since the last reads, and the values are those of the pins. -/
structure DinState.Noted (state : DinState) (since : EdgesSince) : Prop where
  noted : ∀ p, (state.port.ctx p).edgeOccurred = recorded (since p)
  kept : ∀ i, state.port.prevValues.getLsbD i = true → i < state.port.size
  valid : ∀ scan, state.scan = some scan → scan.Valid state.port.size
  values : ∀ scan, state.scan = some scan →
    ∀ i, scan.values.getLsbD i = true → i < state.port.size

namespace DinState.Noted

variable {state : DinState} {since : EdgesSince}

theorem settings (noted : state.Noted since) {port : XDinPort}
    (same : state.port.SameNotes port) : (state.withPort port).Noted since where
  noted p := (same.noted p).trans (noted.noted p)
  kept i set := by
    change port.prevValues.getLsbD i = true at set
    change i < port.size
    rw [same.prevValues] at set
    rw [same.size]
    exact noted.kept i set
  valid scan at_scan := by
    change scan.Valid port.size
    rw [same.size]
    exact noted.valid scan at_scan
  values scan at_scan i set := by
    change i < port.size
    rw [same.size]
    exact noted.values scan at_scan i set

theorem look (noted : state.Noted since) (first second : GpioLevels) :
    (pvDinLook first second state).Noted since := by
  rw [pvDinLook]
  split
  · simp only
    split
    · refine ⟨noted.noted, noted.kept, ?_, ?_⟩
      · rintro scan rfl_scan
        rw [← Option.some.inj rfl_scan]
        apply DinScan.valid_start
        intro i differ
        by_contra outside
        apply differ
        rw [Bool.eq_false_of_not_eq_true fun set => outside (iDinReadAll_bit set),
          Bool.eq_false_of_not_eq_true fun set => outside (noted.kept i set)]
      · rintro scan rfl_scan i set
        rw [← Option.some.inj rfl_scan] at set
        exact iDinReadAll_bit set
    · exact noted
  · exact noted

end DinState.Noted

/-- The edges that are lost leave what is noted. -/
theorem recorded_after_lost (since : EdgesSince) (lost : List ℕ) (seen : ℕ → DinEdgeSeen)
    (undecoded : ∀ p, (seen p).decoded = false) (p : ℕ) :
    recorded ((lost.map fun p => DinEvent.edge p (seen p)).foldl EdgesSince.after since p) =
      recorded (since p) := by
  induction lost generalizing since with
  | nil => rfl
  | cons place rest hypothesis =>
      rw [List.map_cons, List.foldl_cons, hypothesis, EdgesSince.after]
      by_cases here : p = place
      · rw [here, Function.update_self, recorded_lost (undecoded place)]
      · rw [Function.update_of_ne here]

section Decode

variable {state : DinState} {since : EdgesSince} {scan : DinScan}

/-- The edge is noted; the scan goes on, or the thread is stopped and the values are kept. -/
theorem pvDinDecode_cases (scan : DinScan) (state : DinState) :
    let port := state.port.setOccurred scan.p (scan.edge &&& (state.port.ctx scan.p).edge)
    ∃ calls, pvDinDecode scan state =
        ⟨port, some (scan.next (scan.diff &&& ~~~scan.mask)), calls⟩ ∨
      pvDinDecode scan state =
        ⟨{ port with run := false, prevValues := scan.values }, none, calls⟩ := by
  intro port
  rw [pvDinDecode]
  by_cases refused : (if (state.port.ctx scan.p).callback.isSome &&
      (state.port.ctx scan.p).edge &&& scan.edge ≠ .eEdgeNone then
      (state.port.ctx scan.p).callback.elim 0 fun answer => answer state.calls scan.edge
      else 0) ≠ 0
  · exact ⟨_, .inr (if_pos refused)⟩
  · exact ⟨_, .inl (if_neg refused)⟩

theorem pvDinDecode_occurred (p : ℕ) :
    ((pvDinDecode scan state).port.ctx p).edgeOccurred =
      if p = scan.p then scan.edge &&& (state.port.ctx scan.p).edge
      else (state.port.ctx p).edgeOccurred := by
  have ctx : (pvDinDecode scan state).port.ctx = (state.port.setOccurred scan.p
      (scan.edge &&& (state.port.ctx scan.p).edge)).ctx := by
    rcases pvDinDecode_cases scan state with ⟨calls, goes_on | stopped⟩
    · rw [goes_on]
    · rw [stopped]
  rw [ctx, XDinPort.setOccurred]
  by_cases here : p = scan.p
  · rw [if_pos here, here, XDinPort.setCtx_self]
  · rw [if_neg here, XDinPort.setCtx_of_ne here]

/-- The edge decoded is noted, and those that are lost with it are not. -/
theorem DinState.Noted.decode (noted : state.Noted since) (at_scan : state.scan = some scan)
    (changed : scan.diff &&& scan.mask ≠ 0) :
    (pvDinDecode scan state).Noted ((scan.events state).foldl EdgesSince.after since) := by
  have valid := noted.valid scan at_scan
  have values := noted.values scan at_scan
  constructor
  case noted =>
    intro p
    have edge : (⟨decide (scan.values &&& scan.mask ≠ 0), (state.port.ctx scan.p).edge, true⟩ :
        DinEdgeSeen).edge = scan.edge := by
      simp only [DinEdgeSeen.edge, DinScan.edge, decide_eq_true_eq]
    have lost : ∀ since : EdgesSince, recorded ((if (pvDinDecode scan state).scan = none then
        (bitsFrom (scan.diff &&& ~~~scan.mask) 0 state.port.size).map fun p =>
          DinEvent.edge p ⟨scan.values.getLsbD p, (state.port.ctx p).edge, false⟩
        else []).foldl EdgesSince.after since p) = recorded (since p) := by
      intro since
      split
      · exact recorded_after_lost since _ _ (fun _ => rfl) p
      · rfl
    rw [DinScan.events, if_pos changed, List.foldl_cons, lost, EdgesSince.after,
      pvDinDecode_occurred]
    by_cases here : p = scan.p
    · rw [if_pos here, here, Function.update_self, recorded_concat, if_pos rfl, edge]
    · rw [if_neg here, Function.update_of_ne here, noted.noted]
  case kept =>
    rcases pvDinDecode_cases scan state with ⟨calls, goes_on | stopped⟩
    · rw [goes_on]
      exact noted.kept
    · rw [stopped]
      exact values
  case valid =>
    rcases pvDinDecode_cases scan state with ⟨calls, goes_on | stopped⟩
    · rw [goes_on]
      rintro next at_next
      rw [← Option.some.inj at_next]
      exact valid.next_clear
    · rw [stopped]
      rintro next ⟨⟩
  case values =>
    rcases pvDinDecode_cases scan state with ⟨calls, goes_on | stopped⟩
    · rw [goes_on]
      rintro next at_next
      rw [← Option.some.inj at_next]
      exact values
    · rw [stopped]
      rintro next ⟨⟩

/-- A turn of the loop touches no context beyond the port, and notes its edge. -/
theorem DinState.Noted.turn (noted : state.Noted since) :
    ∃ after, pvDinTurn state = some after ∧
      after.Noted (((DinAction.turn).events state).foldl EdgesSince.after since) := by
  cases at_scan : state.scan with
  | none =>
      refine ⟨state, ?_, ?_⟩
      · rw [pvDinTurn, at_scan, Option.elim_none]
      · rw [DinAction.events, at_scan, Option.elim_none]
        exact noted
  | some scan =>
      have valid := noted.valid scan at_scan
      have values := noted.values scan at_scan
      rw [pvDinTurn, DinAction.events, at_scan, Option.elim_some, Option.elim_some]
      by_cases changed : scan.diff &&& scan.mask ≠ 0
      · have left : scan.diff ≠ 0 := by
          intro empty
          rw [empty] at changed
          exact changed BitVec.zero_and
        have inside := (valid.changes _ (valid.changed_iff.mp changed)).2
        rw [if_neg left, if_pos changed, if_pos inside]
        exact ⟨_, rfl, noted.decode at_scan changed⟩
      · have silent : scan.events state = [] := by rw [DinScan.events, if_neg changed]
        rw [silent]
        by_cases left : scan.diff = 0
        · rw [if_pos left]
          refine ⟨_, rfl, noted.noted, values, ?_, ?_⟩
          · intro scan at_none
            cases at_none
          · intro scan at_none
            cases at_none
        · rw [if_neg left, if_neg changed]
          refine ⟨_, rfl, noted.noted, noted.kept, ?_, ?_⟩
          · intro next at_next
            rw [← Option.some.inj at_next]
            have unset := fun set => changed (valid.changed_iff.mpr set)
            exact valid.next_keep (Bool.eq_false_of_not_eq_true unset)
          · intro next at_next i set
            rw [← Option.some.inj at_next] at set
            exact values i set

theorem DinState.Noted.read (noted : state.Noted since) (p : ℕ) :
    (state.withPort (iDinEdgeOccured p state.port).2).Noted
      (((DinAction.edgeOccured p).events state).foldl EdgesSince.after since) := by
  rw [iDinEdgeOccured, DinAction.events]
  by_cases inside : p < state.port.size
  · rw [if_pos inside, if_pos inside]
    refine ⟨fun other => ?_, noted.kept, noted.valid, noted.values⟩
    change ((state.port.setOccurred p .eEdgeNone).ctx other).edgeOccurred =
      recorded (Function.update since p [] other)
    by_cases here : other = p
    · rw [here, Function.update_self, XDinPort.setOccurred, XDinPort.setCtx_self]
      rfl
    · rw [Function.update_of_ne here, XDinPort.setOccurred, XDinPort.setCtx_of_ne here,
        noted.noted]
  · rw [if_neg inside, if_neg inside]
    exact noted.settings (XDinPort.SameNotes.refl _)

end Decode

/-! ### A run -/

/-- A step keeps what is noted; a read tells of its edges exactly when the last one matches. -/
theorem DinState.Noted.step {state : DinState} {since : EdgesSince} (noted : state.Noted since)
    (action : DinAction) :
    ∃ after, action.run state = some after ∧
      after.Noted ((action.events state).foldl EdgesSince.after since) ∧
      (EveryRead TellsOf since (action.events state) ↔
        EveryRead (fun edges _ => LastMatches edges) since (action.events state)) := by
  cases action with
  | look first second => exact ⟨_, rfl, noted.look first second, Iff.rfl⟩
  | turn =>
      rcases noted.turn with ⟨after, turned, noted_after⟩
      refine ⟨after, turned, noted_after, ?_⟩
      have edges : ∀ event ∈ DinAction.turn.events state, event.IsEdge := by
        intro event member
        rw [DinAction.events] at member
        cases at_scan : state.scan with
        | none =>
            rw [at_scan] at member
            cases member
        | some scan =>
            rw [at_scan, Option.elim_some, DinScan.events] at member
            split at member
            · rcases List.mem_cons.mp member with rfl | member
              · trivial
              · split at member
                · rcases List.mem_map.mp member with ⟨p, -, rfl⟩
                  trivial
                · cases member
            · cases member
      exact iff_of_true (everyRead_of_edges since edges) (everyRead_of_edges since edges)
  | setEdge p edge =>
      exact ⟨_, rfl, noted.settings (XDinPort.sameNotes_setEdge ..), Iff.rfl⟩
  | edgeOccured p =>
      refine ⟨_, rfl, noted.read p, ?_⟩
      rw [DinAction.events]
      by_cases inside : p < state.port.size
      · rw [if_pos inside, iDinEdgeOccured, if_pos inside, EveryRead, EveryRead, noted.noted p]
        exact and_congr tellsOf_recorded_iff Iff.rfl
      · rw [if_neg inside]
        exact Iff.rfl
  | setCallback p edge callback =>
      exact ⟨_, rfl, noted.settings (XDinPort.sameNotes_setCallback ..), Iff.rfl⟩
  | clearCallback p =>
      exact ⟨_, rfl, noted.settings (XDinPort.sameNotes_clearCallback ..), Iff.rfl⟩
  | setGrpCallback edge callback =>
      exact ⟨_, rfl, noted.settings (XDinPort.sameNotes_setGrpCallback ..), Iff.rfl⟩
  | clearGrpCallback =>
      exact ⟨_, rfl, noted.settings (XDinPort.sameNotes_clearGrpCallback ..), Iff.rfl⟩

theorem DinState.Noted.run {state : DinState} {since : EdgesSince} (noted : state.Noted since)
    (actions : List DinAction) :
    ∃ final events, dinRun actions state = some (final, events) ∧
      (EveryRead TellsOf since events ↔
        EveryRead (fun edges _ => LastMatches edges) since events) := by
  induction actions generalizing state since with
  | nil => exact ⟨state, [], rfl, Iff.rfl⟩
  | cons action rest hypothesis =>
      rcases noted.step action with ⟨after, stepped, noted_after, same⟩
      rcases hypothesis noted_after with ⟨final, events, ran, rest_same⟩
      refine ⟨final, action.events state ++ events, ?_, ?_⟩
      · rw [dinRun, stepped, Option.bind_some, ran, Option.map_some]
      · rw [everyRead_append, everyRead_append, same, rest_same]

theorem xDinOpen_noted (pins : ℕ → XDin) (size : ℕ) :
    (xDinOpen pins size).Noted fun _ => [] := by
  refine ⟨fun _ => rfl, ?_, ?_, ?_⟩
  · intro i set
    simp [xDinOpen] at set
  · rintro scan ⟨⟩
  · rintro scan ⟨⟩

/-- What happens to the pins in a run from the opening of a port. -/
def dinEvents (pins : ℕ → XDin) (size : ℕ) (actions : List DinAction) : Option (List DinEvent) :=
  (dinRun actions (xDinOpen pins size)).map Prod.snd

/-- In every run, every read tells of the edges since the read before it exactly when no edge
since then is in its mask, or the last one is. -/
theorem edgeReads_iff (pins : ℕ → XDin) (size : ℕ) (actions : List DinAction) :
    ∃ events, dinEvents pins size actions = some events ∧
      (EveryRead TellsOf (fun _ => []) events ↔
        EveryRead (fun edges _ => LastMatches edges) (fun _ => []) events) := by
  rcases (xDinOpen_noted pins size).run actions with ⟨final, events, ran, same⟩
  exact ⟨events, by rw [dinEvents, ran, Option.map_some], same⟩

/-- Both turns of the loop for one pin, after its level is read twice. -/
def onePinReads (level : ℤ) : List DinAction :=
  [.look (fun _ _ => level) (fun _ _ => level), .turn, .turn]

/-- The mask is the rising edge; the pin rises, falls, and is read. -/
theorem not_edgeReads_riseThenFall :
    ∃ events, dinEvents (fun p => ⟨p, true⟩) 1
        (.setEdge 0 .eEdgeRising :: onePinReads 1 ++ onePinReads 0 ++ [.edgeOccured 0]) =
          some events ∧
      ¬ EveryRead TellsOf (fun _ => []) events := by
  refine ⟨[.edge 0 ⟨true, .eEdgeRising, true⟩, .edge 0 ⟨false, .eEdgeRising, true⟩, .read 0 0],
    by decide, ?_⟩
  rintro ⟨tells, -⟩
  exact tells.occurred.mpr ⟨⟨true, .eEdgeRising, true⟩, by decide, by decide⟩ rfl

end Sysio.Gpio
