import FluxonAssist.Engine

/-!
# Delayed scans

A changed document is scanned again once it has been quiet for 500 ms; an opened one at once. While
a scan is pending a timer runs for 50 ms. It starts anew at every event and after every tick, and
only a tick looks for documents that have been quiet long enough.
-/
set_option autoImplicit false
namespace FluxonAssist

structure PendingScan where
  lastChange : Nat
  text : List Char
  deriving DecidableEq, Repr

/-- The delayed scans at a moment, in milliseconds. -/
structure Rescan where
  now : Nat := 0
  pending : Table Uri PendingScan := []
  /-- When the running timer ends. -/
  nextTick : Option Nat := none
  deriving DecidableEq, Repr

namespace Rescan

/-- How long a changed document must be quiet. -/
def quietPeriod : Nat := 500

def tickPeriod : Nat := 50

inductive Event where
  | opened (uri : Uri) (text : List Char)
  | changed (uri : Uri) (text : List Char)
  | closed (uri : Uri)
  deriving DecidableEq, Repr

inductive Effect where
  | scan (uri : Uri) (text : List Char)
  | forget (uri : Uri)
  deriving DecidableEq, Repr

def restartTimer (state : Rescan) : Rescan :=
  { state with
    nextTick := if state.pending.isEmpty then none else some (state.now + tickPeriod) }

def handle (state : Rescan) : Event → List Effect × Rescan
  | .opened uri text =>
    ([.scan uri text], restartTimer { state with pending := state.pending.erase uri })
  | .changed uri text =>
    ([], restartTimer { state with pending := state.pending.insert uri ⟨state.now, text⟩ })
  | .closed uri =>
    ([.forget uri], restartTimer { state with pending := state.pending.erase uri })

def isReady (time : Nat) (scan : PendingScan) : Bool :=
  decide (scan.lastChange + quietPeriod ≤ time)

def tick (state : Rescan) (time : Nat) : List Effect × Rescan :=
  ((state.pending.filter fun row => isReady time row.2).map fun row => .scan row.1 row.2.text,
   restartTimer
    { state with now := time, pending := state.pending.filter fun row => !isReady time row.2 })

/-- The ticks up to a time, at most `fuel` of them. -/
def ticksUntil (time : Nat) : Nat → Rescan → List Effect × Rescan
  | 0, state => ([], state)
  | fuel + 1, state =>
    match state.nextTick with
    | none => ([], state)
    | some next =>
      if next ≤ time then
        let (effects, state) := state.tick next
        let (later, state) := ticksUntil time fuel state
        (effects ++ later, state)
      else ([], state)

def elapse (state : Rescan) (duration : Nat) : List Effect × Rescan :=
  let time := state.now + duration
  let (effects, state) := ticksUntil time (duration / tickPeriod + 1) state
  (effects, { state with now := time })

end Rescan

def Engine.perform (engine : Engine) : Rescan.Effect → Engine
  | .scan uri text => engine.scan uri text
  | .forget uri => engine.forget uri

def Engine.performAll (engine : Engine) (effects : List Rescan.Effect) : Engine :=
  effects.foldl Engine.perform engine

end FluxonAssist
