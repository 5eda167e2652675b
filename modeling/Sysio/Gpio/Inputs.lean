import Mathlib.Data.List.Basic
import Mathlib.Logic.Function.Basic
import Mathlib.Algebra.Order.Ring.Int

/-!
# The input port of `gpio/dinput.c`

A thread looks at the pins of a port. A reading that differs from the values kept, and that a
second reading confirms, is decoded bit by bit: each changed bit is an edge of its pin, which is
noted in the context of the pin and given to its callback if it is in its mask. The thread may be
interrupted between two bits.

A port has at most 31 pins: its values are the bits of an `int`.
-/

namespace Sysio.Gpio

/-- The edges of a pin, and a mask of edges. -/
inductive EDinEdge where
  | eEdgeNone
  | eEdgeFalling
  | eEdgeRising
  | eEdgeBoth
deriving DecidableEq, Repr

namespace EDinEdge

/-- The number of an edge. -/
def code : EDinEdge → BitVec 2
  | eEdgeNone => 0
  | eEdgeFalling => 1
  | eEdgeRising => 2
  | eEdgeBoth => 3

/-- The edge of a number. -/
def ofCode (code : BitVec 2) : EDinEdge :=
  if code = 0 then eEdgeNone
  else if code = 1 then eEdgeFalling
  else if code = 2 then eEdgeRising
  else eEdgeBoth

instance : AndOp EDinEdge := ⟨fun edge mask => ofCode (edge.code &&& mask.code)⟩

theorem and_self_of_single {edge mask : EDinEdge} (single : edge ≠ eEdgeBoth)
    (inMask : edge &&& mask ≠ eEdgeNone) : edge &&& mask = edge := by
  revert single inMask
  cases edge <;> cases mask <;> decide

end EDinEdge

/-- An edge given to the callback of a pin. -/
structure DinCall where
  pin : ℕ
  edge : EDinEdge
deriving DecidableEq, Repr

/-- The answer of a callback to an edge, after the calls made before; `udata` is part of it. -/
abbrev IDinCallback := List DinCall → EDinEdge → ℤ

/-- The context of a pin: its mask, its callback, and the edge that was noted. -/
structure XDinCbContext where
  edge : EDinEdge
  callback : Option IDinCallback
  edgeOccurred : EDinEdge

/-- A pin of the port, and the level at which it is active. -/
structure XDin where
  num : ℤ
  act : Bool
deriving DecidableEq, Repr

/-- A port; its thread goes on while `run` is set. -/
structure XDinPort where
  pins : ℕ → XDin
  size : ℕ
  ctx : ℕ → XDinCbContext
  prevValues : BitVec 32
  run : Bool
  grouped : Bool

/-- The variables of the loop over the changed bits. -/
structure DinScan where
  values : BitVec 32
  diff : BitVec 32
  mask : BitVec 32
  p : ℕ
deriving DecidableEq, Repr

/-- A port with its thread, which is in the loop over the changed bits or between two readings,
and the calls made so far. -/
structure DinState where
  port : XDinPort
  scan : Option DinScan
  calls : List DinCall

/-- What `iGpioRead` answers for a pin number at each of the reads of a whole port. -/
abbrev GpioLevels := ℕ → ℤ → ℤ

namespace XDinPort

/-- The port with another context for a pin. -/
def setCtx (port : XDinPort) (p : ℕ) (ctx : XDinCbContext) : XDinPort :=
  { port with ctx := Function.update port.ctx p ctx }

/-- A mask and a callback for a pin. -/
def vSetCallback (port : XDinPort) (p : ℕ) (edge : EDinEdge) (callback : Option IDinCallback) :
    XDinPort :=
  port.setCtx p { port.ctx p with edge := edge, callback := callback }

/-- No callback for a pin. -/
def vClearCallback (port : XDinPort) (p : ℕ) : XDinPort :=
  port.setCtx p { port.ctx p with callback := none }

/-- A mask for a pin. -/
def vSetEdge (port : XDinPort) (p : ℕ) (edge : EDinEdge) : XDinPort :=
  port.setCtx p { port.ctx p with edge := edge }

/-- An edge is noted for a pin. -/
def setOccurred (port : XDinPort) (p : ℕ) (edge : EDinEdge) : XDinPort :=
  port.setCtx p { port.ctx p with edgeOccurred := edge }

end XDinPort

/-- A port that has just been opened. -/
def xDinOpen (pins : ℕ → XDin) (size : ℕ) : DinState where
  port := ⟨pins, size, fun _ => ⟨.eEdgeNone, none, .eEdgeNone⟩, 0, true, false⟩
  scan := none
  calls := []

/-- 1 if the pin is active. -/
def iDinRead (i : ℕ) (port : XDinPort) (gpio : GpioLevels) : ℤ :=
  if port.size ≤ i then -1
  else if gpio i (port.pins i).num = (port.pins i).act.toInt then 1
  else 0

/-- A bit for each pin that is active, or -1. -/
def iDinReadAll (port : XDinPort) (gpio : GpioLevels) : BitVec 32 :=
  ((List.range port.size).foldl (fun found i => found.bind fun mask =>
    if iDinRead i port gpio = 1 then some (mask ||| 1#32 <<< i)
    else if iDinRead i port gpio = 0 then some mask
    else none) (some 0)).getD (-1)

/-- A pin of a group has no callback of its own. -/
def iDinSetCallback (p : ℕ) (edge : EDinEdge) (callback : Option IDinCallback) (port : XDinPort) :
    ℤ × XDinPort :=
  if port.size ≤ p ∨ port.grouped then (-1, port)
  else (0, port.vSetCallback p edge callback)

/-- A pin of a group keeps its callback. -/
def iDinClearCallback (p : ℕ) (port : XDinPort) : ℤ × XDinPort :=
  if port.size ≤ p ∨ port.grouped then (-1, port)
  else (0, port.vClearCallback p)

/-- In a group all pins get the mask. -/
def iDinSetEdge (p : ℕ) (edge : EDinEdge) (port : XDinPort) : ℤ × XDinPort :=
  if port.size ≤ p then (-1, port)
  else if port.grouped then
    (0, (List.range port.size).foldl (fun port p => port.vSetEdge p edge) port)
  else (0, port.vSetEdge p edge)

/-- The edge that was noted, which is then forgotten. -/
def iDinEdgeOccured (p : ℕ) (port : XDinPort) : ℤ × XDinPort :=
  if p < port.size then
    ((port.ctx p).edgeOccurred.code.toNat, port.setOccurred p .eEdgeNone)
  else (-1, port)

/-- The reading that a group callback gets is taken while it runs, and is part of its answer. -/
def iDinGrpHandler (callback : Option (ℕ → IDinCallback)) (pin : ℕ) : IDinCallback :=
  fun calls edge => callback.elim 0 fun answer => answer pin calls edge

/-- The pins of a group lose their callback. -/
def iDinClearGrpCallback (port : XDinPort) : ℤ × XDinPort :=
  if port.grouped then
    (0, { (List.range port.size).foldl (fun port pin => port.vClearCallback pin) port with
      grouped := false })
  else (-1, port)

/-- The pins are made a group, with one callback. -/
def iDinSetGrpCallback (edge : EDinEdge) (callback : Option (ℕ → IDinCallback))
    (port : XDinPort) : ℤ × XDinPort :=
  let port := if port.grouped then (iDinClearGrpCallback port).2 else port
  (0, { (List.range port.size).foldl (fun port pin =>
    port.vSetCallback pin edge (some (iDinGrpHandler callback pin))) port with grouped := true })

/-! ### The thread -/

/-- One turn of `while (port->run)` up to the loop over the changed bits. -/
def pvDinLook (first second : GpioLevels) (state : DinState) : DinState :=
  if state.scan = none ∧ state.port.run then
    let values := iDinReadAll state.port first
    if values ≠ state.port.prevValues ∧ values = iDinReadAll state.port second then
      { state with scan := some ⟨values, values ^^^ state.port.prevValues, 1, 0⟩ }
    else state
  else state

/-- The edge of the pin at which the loop is. -/
def DinScan.edge (scan : DinScan) : EDinEdge :=
  if scan.values &&& scan.mask ≠ 0 then .eEdgeRising else .eEdgeFalling

/-- The bit has changed: the edge is noted, then given to the callback. -/
def pvDinDecode (scan : DinScan) (state : DinState) : DinState :=
  let ctx := state.port.ctx scan.p
  let edge := scan.edge
  let diff := scan.diff &&& ~~~scan.mask
  let port := state.port.setOccurred scan.p (edge &&& ctx.edge)
  let called := ctx.callback.isSome && ctx.edge &&& edge ≠ .eEdgeNone
  let ret := if called then ctx.callback.elim 0 fun answer => answer state.calls edge else 0
  let calls := if called then state.calls ++ [⟨scan.p, edge⟩] else state.calls
  if ret ≠ 0 then
    -- the loop is left, and the thread ends at the next test of `run`
    ⟨{ port with run := false, prevValues := scan.values }, none, calls⟩
  else
    ⟨port, some { scan with diff := diff, mask := scan.mask <<< 1, p := scan.p + 1 }, calls⟩

/-- One turn of `while (diff)`, or its end; `none` where a context beyond the port is touched. -/
def pvDinTurn (state : DinState) : Option DinState :=
  state.scan.elim (some state) fun scan =>
    if scan.diff = 0 then
      some { state with port := { state.port with prevValues := scan.values }, scan := none }
    else if scan.diff &&& scan.mask ≠ 0 then
      if scan.p < state.port.size then some (pvDinDecode scan state) else none
    else
      some { state with scan := some { scan with mask := scan.mask <<< 1, p := scan.p + 1 } }

/-- `while (diff)`; `none` when it has not ended in so many turns. -/
def pvDinScan : ℕ → DinState → Option DinState
  | 0, state => if state.scan = none then some state else none
  | turns + 1, state =>
      if state.scan = none then some state else (pvDinTurn state).bind (pvDinScan turns)

/-- The two readings of a turn of `while (port->run)`. -/
structure DinReadings where
  first : GpioLevels
  second : GpioLevels

/-- `pvDinPoll` while it has these readings, with at most so many turns of the inner loop. -/
def pvDinPoll (turns : ℕ) : List DinReadings → DinState → Option DinState
  | [], state => some state
  | reading :: rest, state =>
      (pvDinScan turns (pvDinLook reading.first reading.second state)).bind
        (pvDinPoll turns rest)

end Sysio.Gpio
