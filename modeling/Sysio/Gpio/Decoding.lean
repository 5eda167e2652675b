import Sysio.Lib.Bits
import Sysio.Gpio.Inputs

/-!
# The edges given to the callbacks

While the masks stay and every callback returns 0, the calls are those of the edges between one
confirmed value and the next: of each pin that changes, in ascending order, if the direction is
in its mask.
-/

namespace Sysio.Gpio

/-- The edge of a pin that has got this value. -/
def direction (values : BitVec 32) (p : ℕ) : EDinEdge :=
  if values.getLsbD p then .eEdgeRising else .eEdgeFalling

/-- Pin `p` has a callback, and its edge is in its mask. -/
def XDinPort.Fires (port : XDinPort) (values : BitVec 32) (p : ℕ) : Prop :=
  (port.ctx p).callback.isSome = true ∧ (port.ctx p).edge &&& direction values p ≠ .eEdgeNone

instance (port : XDinPort) (values : BitVec 32) (p : ℕ) : Decidable (port.Fires values p) :=
  inferInstanceAs (Decidable (_ ∧ _))

/-- The calls for a value that is confirmed after another. -/
def edgeCalls (port : XDinPort) (before values : BitVec 32) : List DinCall :=
  ((List.range port.size).filter fun p =>
    before.getLsbD p ≠ values.getLsbD p ∧ port.Fires values p).map fun p =>
      ⟨p, direction values p⟩

/-- The values that differ from the one before and are read twice. -/
def confirmed (port : XDinPort) : BitVec 32 → List DinReadings → List (BitVec 32)
  | _, [] => []
  | kept, reading :: rest =>
      let values := iDinReadAll port reading.first
      if values ≠ kept ∧ values = iDinReadAll port reading.second then
        values :: confirmed port values rest
      else confirmed port kept rest

/-- The calls for each value and the one before it. -/
def callsBetween (port : XDinPort) (first : BitVec 32) (values : List (BitVec 32)) :
    List DinCall :=
  ((first :: values).zip values).flatMap fun pair => edgeCalls port pair.1 pair.2

/-- A port that was opened, with masks and callbacks of its own. -/
def xDinSetup (pins : ℕ → XDin) (size : ℕ) (ctx : ℕ → XDinCbContext) : DinState :=
  { xDinOpen pins size with port := { (xDinOpen pins size).port with ctx := ctx } }

/-- Every callback returns 0. -/
def Obliging (ctx : ℕ → XDinCbContext) : Prop :=
  ∀ p answer, (ctx p).callback = some answer → ∀ calls edge, answer calls edge = 0

/-! ### What a run keeps -/

/-- Two ports that differ only in the values kept and the edges noted. -/
structure XDinPort.Alike (port after : XDinPort) : Prop where
  pins : after.pins = port.pins
  size : after.size = port.size
  edge : ∀ p, (after.ctx p).edge = (port.ctx p).edge
  callback : ∀ p, (after.ctx p).callback = (port.ctx p).callback
  run : after.run = port.run

namespace XDinPort

variable {port middle after : XDinPort} {p other : ℕ} {edge : EDinEdge} {ctx : XDinCbContext}

@[simp]
theorem setCtx_self : (port.setCtx p ctx).ctx p = ctx := Function.update_self ..

theorem setCtx_of_ne (differs : other ≠ p) : (port.setCtx p ctx).ctx other = port.ctx other :=
  Function.update_of_ne differs ..

@[simp]
theorem setOccurred_edge : ((port.setOccurred p edge).ctx other).edge = (port.ctx other).edge := by
  by_cases same : other = p
  · rw [same, setOccurred, setCtx_self]
  · rw [setOccurred, setCtx_of_ne same]

@[simp]
theorem setOccurred_callback :
    ((port.setOccurred p edge).ctx other).callback = (port.ctx other).callback := by
  by_cases same : other = p
  · rw [same, setOccurred, setCtx_self]
  · rw [setOccurred, setCtx_of_ne same]

theorem Alike.refl (port : XDinPort) : port.Alike port :=
  ⟨rfl, rfl, fun _ => rfl, fun _ => rfl, rfl⟩

theorem Alike.trans (first : port.Alike middle) (second : middle.Alike after) :
    port.Alike after where
  pins := second.pins.trans first.pins
  size := second.size.trans first.size
  edge p := (second.edge p).trans (first.edge p)
  callback p := (second.callback p).trans (first.callback p)
  run := second.run.trans first.run

theorem alike_setOccurred : port.Alike (port.setOccurred p edge) :=
  ⟨rfl, rfl, fun _ => setOccurred_edge, fun _ => setOccurred_callback, rfl⟩

theorem Alike.obliging (alike : port.Alike after) (obliging : Obliging port.ctx) :
    Obliging after.ctx := by
  intro p answer installed
  rw [alike.callback p] at installed
  exact obliging p answer installed

theorem Alike.fires_iff (alike : port.Alike after) {values : BitVec 32} :
    after.Fires values p ↔ port.Fires values p := by
  rw [Fires, Fires, alike.edge, alike.callback]

theorem Alike.edgeCalls_eq (alike : port.Alike after) (before values : BitVec 32) :
    edgeCalls after before values = edgeCalls port before values := by
  rw [edgeCalls, edgeCalls, alike.size]
  simp only [alike.fires_iff]

theorem Alike.iDinReadAll_eq (alike : port.Alike after) (gpio : GpioLevels) :
    iDinReadAll after gpio = iDinReadAll port gpio := by
  have read : ∀ i, iDinRead i after gpio = iDinRead i port gpio := by
    intro i
    rw [iDinRead, iDinRead, alike.size, alike.pins]
  rw [iDinReadAll, iDinReadAll, alike.size]
  simp only [read]

theorem Alike.confirmed_eq (alike : port.Alike after) (readings : List DinReadings)
    (kept : BitVec 32) : confirmed after kept readings = confirmed port kept readings := by
  induction readings generalizing kept with
  | nil => rfl
  | cons reading rest hypothesis => simp only [confirmed, alike.iDinReadAll_eq, hypothesis]

end XDinPort

/-! ### A reading -/

/-- Only the bits of the pins of a port are set. -/
theorem iDinReadAll_bit {port : XDinPort} {gpio : GpioLevels} {p : ℕ}
    (set : (iDinReadAll port gpio).getLsbD p = true) : p < port.size := by
  have pins : ∀ (places : List ℕ), (∀ i ∈ places, i < port.size) → ∀ (mask : BitVec 32),
      (∀ i, mask.getLsbD i = true → i < port.size) → ∃ found : BitVec 32,
        (places.foldl (fun found i => found.bind fun mask =>
          if iDinRead i port gpio = 1 then some (mask ||| 1#32 <<< i)
          else if iDinRead i port gpio = 0 then some mask
          else none) (some mask)) = some found ∧
        ∀ i, found.getLsbD i = true → i < port.size := by
    intro places
    induction places with
    | nil => exact fun _ mask below => ⟨mask, rfl, below⟩
    | cons place rest hypothesis =>
        intro inside mask below
        have place_inside := inside place (List.mem_cons_self ..)
        have rest_inside : ∀ i ∈ rest, i < port.size := fun i member =>
          inside i (List.mem_cons_of_mem _ member)
        rw [List.foldl_cons, Option.bind_some]
        by_cases active : iDinRead place port gpio = 1
        · rw [if_pos active]
          apply hypothesis rest_inside
          intro i set
          rw [BitVec.getLsbD_or, Bool.or_eq_true, ← BitVec.twoPow_eq, BitVec.getLsbD_twoPow] at set
          rcases set with set | set
          · exact below i set
          · rw [Bool.and_eq_true, decide_eq_true_eq, decide_eq_true_eq] at set
            rw [← set.2]
            exact place_inside
        · have inactive : iDinRead place port gpio = 0 := by
            rw [iDinRead, if_neg (Nat.not_le.mpr place_inside)] at active ⊢
            split at active
            · exact absurd rfl active
            · rw [if_neg ‹_›]
          rw [if_neg active, if_pos inactive]
          exact hypothesis rest_inside mask below
  rcases pins (List.range port.size) (fun i member => List.mem_range.mp member) 0
    (fun i set => absurd set (by simp)) with ⟨found, result, below⟩
  rw [iDinReadAll, result] at set
  exact below p set

/-! ### The loop over the changed bits -/

/-- The changes left are at and after the mask, and of pins of the port. -/
structure DinScan.Valid (scan : DinScan) (size : ℕ) : Prop where
  mask : scan.mask = 1#32 <<< scan.p
  changes : ∀ i, scan.diff.getLsbD i = true → scan.p ≤ i ∧ i < size

namespace DinScan

variable {scan : DinScan} {size : ℕ}

theorem Valid.changed_iff (valid : scan.Valid size) :
    scan.diff &&& scan.mask ≠ 0 ↔ scan.diff.getLsbD scan.p = true := by
  rw [valid.mask]
  exact and_bit_ne_zero_iff

theorem Valid.edge_eq (valid : scan.Valid size) :
    scan.edge = direction scan.values scan.p := by
  rw [DinScan.edge, direction, valid.mask]
  simp only [and_bit_ne_zero_iff]

/-- The scan after a turn, with the bits that are left. -/
def next (scan : DinScan) (diff : BitVec 32) : DinScan :=
  { scan with diff := diff, mask := scan.mask <<< 1, p := scan.p + 1 }

theorem Valid.next_clear (valid : scan.Valid size) :
    (scan.next (scan.diff &&& ~~~scan.mask)).Valid size where
  mask := by
    change scan.mask <<< 1 = 1#32 <<< (scan.p + 1)
    rw [valid.mask, shiftLeft_bit]
  changes i set := by
    change (scan.diff &&& ~~~scan.mask).getLsbD i = true at set
    rw [valid.mask, getLsbD_clear, Bool.and_eq_true, decide_eq_true_eq] at set
    have bounds := valid.changes i set.1
    change scan.p + 1 ≤ i ∧ i < size
    omega

theorem Valid.next_keep (valid : scan.Valid size) (unset : scan.diff.getLsbD scan.p = false) :
    (scan.next scan.diff).Valid size where
  mask := by
    change scan.mask <<< 1 = 1#32 <<< (scan.p + 1)
    rw [valid.mask, shiftLeft_bit]
  changes i set := by
    change scan.diff.getLsbD i = true at set
    have bounds := valid.changes i set
    have different : i ≠ scan.p := by
      intro same
      rw [same, unset] at set
      cases set
    change scan.p + 1 ≤ i ∧ i < size
    omega

theorem valid_start (values kept : BitVec 32)
    (inside : ∀ i, values.getLsbD i ≠ kept.getLsbD i → i < size) :
    (DinScan.mk values (values ^^^ kept) 1 0).Valid size where
  mask := by simp
  changes i set := by
    change (values ^^^ kept).getLsbD i = true at set
    rw [BitVec.getLsbD_xor, bne_iff_ne] at set
    exact ⟨Nat.zero_le _, inside i set⟩

end DinScan

/-- The calls of the changed pins that are left. -/
def scanCalls (port : XDinPort) (scan : DinScan) : List DinCall :=
  ((bitsFrom scan.diff scan.p port.size).filter fun p => port.Fires scan.values p).map fun p =>
    ⟨p, direction scan.values p⟩

section Turns

variable {state : DinState} {scan : DinScan}

theorem pvDinDecode_obliging (obliging : Obliging state.port.ctx)
    (valid : scan.Valid state.port.size) :
    pvDinDecode scan state =
      ⟨state.port.setOccurred scan.p (scan.edge &&& (state.port.ctx scan.p).edge),
        some (scan.next (scan.diff &&& ~~~scan.mask)),
        state.calls ++ if state.port.Fires scan.values scan.p then
          [⟨scan.p, direction scan.values scan.p⟩] else []⟩ := by
  have answered : ∀ edge,
      (state.port.ctx scan.p).callback.elim 0 (fun answer => answer state.calls edge) = 0 := by
    intro edge
    cases installed : (state.port.ctx scan.p).callback with
    | none => rfl
    | some answer => exact obliging scan.p answer installed state.calls edge
  have called : ((state.port.ctx scan.p).callback.isSome &&
      decide ((state.port.ctx scan.p).edge &&& scan.edge ≠ .eEdgeNone)) =
        decide (state.port.Fires scan.values scan.p) := by
    rw [valid.edge_eq, Bool.eq_iff_iff, Bool.and_eq_true, decide_eq_true_eq, decide_eq_true_eq]
    rfl
  simp only [pvDinDecode, answered, called, ite_self, ne_eq, not_true_eq_false, if_false,
    decide_eq_true_eq, DinScan.next, ← valid.edge_eq]
  by_cases fires : state.port.Fires scan.values scan.p
  · rw [if_pos fires, if_pos fires]
  · rw [if_neg fires, if_neg fires, List.append_nil]

/-- What the loop over the changed bits has done at its end. -/
structure Scanned (state : DinState) (scan : DinScan) (final : DinState) : Prop where
  calls : final.calls = state.calls ++ scanCalls state.port scan
  alike : state.port.Alike final.port
  kept : final.port.prevValues = scan.values
  ended : final.scan = none

/-- A turn leaves a scan whose calls are those that were left, less the ones made. -/
theorem pvDinTurn_obliging (at_scan : state.scan = some scan) (obliging : Obliging state.port.ctx)
    (valid : scan.Valid state.port.size) (left : scan.diff ≠ 0) :
    ∃ after diff, pvDinTurn state = some after ∧ after.scan = some (scan.next diff) ∧
      (scan.next diff).Valid state.port.size ∧ state.port.Alike after.port ∧
      after.calls ++ scanCalls state.port (scan.next diff) =
        state.calls ++ scanCalls state.port scan := by
  rw [pvDinTurn, at_scan, Option.elim_some, if_neg left]
  by_cases set : scan.diff.getLsbD scan.p = true
  · have inside := (valid.changes scan.p set).2
    rw [if_pos (valid.changed_iff.mpr set), if_pos inside, pvDinDecode_obliging obliging valid]
    refine ⟨_, _, rfl, rfl, valid.next_clear, XDinPort.alike_setOccurred, ?_⟩
    have rest : scanCalls state.port scan =
        (if state.port.Fires scan.values scan.p then
          [⟨scan.p, direction scan.values scan.p⟩] else []) ++
          scanCalls state.port (scan.next (scan.diff &&& ~~~scan.mask)) := by
      rw [scanCalls, bitsFrom_set inside set, ← valid.mask, List.filter_cons]
      by_cases fires : state.port.Fires scan.values scan.p
      · rw [if_pos (decide_eq_true fires), if_pos fires]
        rfl
      · rw [if_neg (by simpa using fires), if_neg fires]
        rfl
    rw [rest, List.append_assoc]
  · rw [if_neg fun changed => set (valid.changed_iff.mp changed)]
    have unset := Bool.eq_false_of_not_eq_true set
    refine ⟨_, scan.diff, rfl, rfl, valid.next_keep unset, XDinPort.Alike.refl _, ?_⟩
    rw [scanCalls, scanCalls, bitsFrom_unset unset]
    rfl

/-- The loop ends, for every value: each turn goes on to the next pin. -/
theorem pvDinScan_obliging (turns : ℕ) (at_scan : state.scan = some scan)
    (obliging : Obliging state.port.ctx) (valid : scan.Valid state.port.size)
    (enough : state.port.size + 1 ≤ scan.p + turns ∧ 0 < turns) :
    ∃ final, pvDinScan turns state = some final ∧ Scanned state scan final := by
  induction turns generalizing state scan with
  | zero => omega
  | succ turns hypothesis =>
      rw [pvDinScan, if_neg (by rw [at_scan]; exact Option.some_ne_none _)]
      by_cases left : scan.diff = 0
      · have finish : ∀ turns (after : DinState), after.scan = none →
            pvDinScan turns after = some after := by
          intro turns after ended
          cases turns <;> rw [pvDinScan, if_pos ended]
        rw [pvDinTurn, at_scan, Option.elim_some, if_pos left, Option.bind_some,
          finish turns _ rfl]
        refine ⟨_, rfl, ?_, ⟨rfl, rfl, fun _ => rfl, fun _ => rfl, rfl⟩, rfl, rfl⟩
        have none_left : scanCalls state.port scan = [] := by
          rw [scanCalls, bitsFrom, left]
          simp
        rw [none_left, List.append_nil]
      · rcases pvDinTurn_obliging at_scan obliging valid left with
          ⟨after, diff, turned, at_next, valid_next, alike, calls⟩
        have inside : scan.p < state.port.size := by
          by_contra beyond
          apply left
          apply eq_zero_of_bits
          intro i
          by_contra set
          have bounds := valid.changes i (by simpa using set)
          omega
        have same_size := alike.size
        have valid_after : (scan.next diff).Valid after.port.size := by
          rw [same_size]
          exact valid_next
        have enough_after : after.port.size + 1 ≤ (scan.next diff).p + turns ∧ 0 < turns := by
          change after.port.size + 1 ≤ scan.p + 1 + turns ∧ 0 < turns
          omega
        rcases hypothesis at_next (alike.obliging obliging) valid_after enough_after with
          ⟨final, scanned, rest⟩
        refine ⟨final, ?_, ?_, alike.trans rest.alike, rest.kept, rest.ended⟩
        · rw [turned, Option.bind_some, scanned]
        · have same_calls : scanCalls after.port (scan.next diff) =
              scanCalls state.port (scan.next diff) := by
            rw [scanCalls, scanCalls, same_size]
            simp only [alike.fires_iff]
          rw [rest.calls, same_calls, calls]

end Turns

/-! ### A run -/

theorem scanCalls_start (port : XDinPort) (before values : BitVec 32) :
    scanCalls port ⟨values, values ^^^ before, 1, 0⟩ = edgeCalls port before values := by
  rw [scanCalls, edgeCalls, bitsFrom, Nat.sub_zero, ← List.range_eq_range', List.filter_filter]
  congr 1
  apply List.filter_congr
  intro p _
  rw [BitVec.getLsbD_xor, Bool.decide_and, Bool.and_comm]
  congr 1
  cases before.getLsbD p <;> cases values.getLsbD p <;> rfl

/-- Between two readings, every pin of the values kept is one of the port. -/
structure DinState.Waiting (state : DinState) : Prop where
  waiting : state.scan = none
  running : state.port.run = true
  inside : ∀ i, state.port.prevValues.getLsbD i = true → i < state.port.size
  obliging : Obliging state.port.ctx

/-- What a run of the thread does from one reading to a later one. -/
theorem DinState.Waiting.run {state : DinState} (waiting : state.Waiting)
    (readings : List DinReadings) :
    ∃ final, pvDinPoll (state.port.size + 1) readings state = some final ∧
      final.calls = state.calls ++ callsBetween state.port state.port.prevValues
        (confirmed state.port state.port.prevValues readings) := by
  induction readings generalizing state with
  | nil =>
      refine ⟨state, rfl, ?_⟩
      simp [confirmed, callsBetween]
  | cons reading rest hypothesis =>
      rw [pvDinPoll, pvDinLook, if_pos ⟨waiting.waiting, waiting.running⟩, confirmed]
      by_cases changed : iDinReadAll state.port reading.first ≠ state.port.prevValues ∧
          iDinReadAll state.port reading.first = iDinReadAll state.port reading.second
      · rw [if_pos changed, if_pos changed]
        have inside : ∀ i, (iDinReadAll state.port reading.first).getLsbD i ≠
            state.port.prevValues.getLsbD i → i < state.port.size := by
          intro i differ
          by_contra outside
          apply differ
          rw [Bool.eq_false_of_not_eq_true fun set => outside (iDinReadAll_bit set),
            Bool.eq_false_of_not_eq_true fun set => outside (waiting.inside i set)]
        have valid := DinScan.valid_start (iDinReadAll state.port reading.first)
          state.port.prevValues inside
        have enough : state.port.size + 1 ≤ 0 + (state.port.size + 1) ∧ 0 < state.port.size + 1 :=
          ⟨by omega, Nat.succ_pos _⟩
        have started : ({ state with scan := some ⟨iDinReadAll state.port reading.first,
            iDinReadAll state.port reading.first ^^^ state.port.prevValues, 1, 0⟩ } :
            DinState).scan = some _ := rfl
        rcases pvDinScan_obliging (state.port.size + 1) started waiting.obliging valid enough with
          ⟨middle, scanned, done⟩
        have same_size := done.alike.size
        have waiting_middle : middle.Waiting := by
          refine ⟨done.ended, done.alike.run.trans waiting.running, ?_,
            done.alike.obliging waiting.obliging⟩
          intro i set
          rw [done.kept] at set
          rw [same_size]
          exact iDinReadAll_bit set
        rcases hypothesis waiting_middle with ⟨final, polled, calls⟩
        refine ⟨final, ?_, ?_⟩
        · rw [scanned, Option.bind_some, ← polled, same_size]
        · have between : ∀ first values, callsBetween middle.port first values =
              callsBetween state.port first values := by
            intro first values
            simp only [callsBetween, done.alike.edgeCalls_eq]
          have kept : middle.port.prevValues = iDinReadAll state.port reading.first := done.kept
          rw [calls, done.calls, scanCalls_start, between, kept, done.alike.confirmed_eq,
            List.append_assoc]
          simp [callsBetween]
      · rw [if_neg changed, if_neg changed]
        have ended : pvDinScan (state.port.size + 1) state = some state := by
          rw [pvDinScan, if_pos waiting.waiting]
        rw [ended, Option.bind_some]
        exact hypothesis waiting

/-- The calls are those of the edges between the confirmed values that follow each other, and
every loop over the changed bits ends. -/
theorem pvDinPoll_calls (pins : ℕ → XDin) (size : ℕ) (ctx : ℕ → XDinCbContext)
    (obliging : Obliging ctx) (readings : List DinReadings) :
    ∃ final, pvDinPoll (size + 1) readings (xDinSetup pins size ctx) = some final ∧
      final.calls = callsBetween (xDinSetup pins size ctx).port 0
        (confirmed (xDinSetup pins size ctx).port 0 readings) := by
  have waiting : (xDinSetup pins size ctx).Waiting :=
    ⟨rfl, rfl, fun i set => absurd set (by simp [xDinSetup, xDinOpen]), obliging⟩
  exact waiting.run readings

/-- Both readings of a turn find the same levels. -/
def steadyReadings (level : GpioLevels) : DinReadings := ⟨level, level⟩

/-- Two pins rise together, and one of them falls after a bounce of the other. -/
theorem pvDinPoll_calls_twoPins :
    let ctx : ℕ → XDinCbContext :=
      fun p => ⟨if p = 0 then .eEdgeBoth else .eEdgeRising, some fun _ _ => 0, .eEdgeNone⟩
    let start := xDinSetup (fun p => ⟨p, true⟩) 2 ctx
    let readings : List DinReadings := [steadyReadings fun _ _ => 1,
      ⟨fun _ num => if num = 0 then 1 else 0, fun _ _ => 1⟩,
      steadyReadings fun _ num => if num = 0 then 0 else 1]
    ∃ final, pvDinPoll 3 readings start = some final ∧
      final.calls = [⟨0, .eEdgeRising⟩, ⟨1, .eEdgeRising⟩, ⟨0, .eEdgeFalling⟩] := by
  intro ctx start readings
  have obliging : Obliging ctx := by
    intro p answer installed calls edge
    rw [← Option.some.inj installed]
  rcases pvDinPoll_calls (fun p => ⟨p, true⟩) 2 ctx obliging readings with ⟨final, polled, calls⟩
  exact ⟨final, polled, calls.trans (by decide)⟩

end Sysio.Gpio
