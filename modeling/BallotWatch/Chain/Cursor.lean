/-
This file keeps the place of a scan: the next block that has not been dealt with.

The cursor hands out the span from that block to the newest one, as often as it is asked, and
moves on only when the span is committed. So the committed spans follow one another without a
gap from the block at which the scan started.
-/

import BallotWatch.Chain.BlockRange
import BallotWatch.Chain.Start

namespace BallotWatch

/-- The place of a scan: the block it started at, once that is known, and the last block of
the last committed span. -/
structure Cursor where
  start? : Option Int := none
  lastCommitted? : Option Int := none
  deriving DecidableEq, Repr, Inhabited

/-- Why a cursor refused an operation. -/
inductive CursorFault
  | startBeyondTip (start tip : Int)
  | notAnchored
  | discontinuous (range : BlockRange) (next : Int)
  | invalidRange (fault : RangeFault)
  deriving Repr

/-- The fault in words. -/
def CursorFault.message : CursorFault → String
  | startBeyondTip start tip => s!"start block {start} exceeds the last mined block {tip}"
  | notAnchored => "cursor used before initialize()"
  | discontinuous range next =>
    s!"commit of {range.written} does not continue from block {next}"
  | invalidRange fault => fault.message

/-- The fault as it is passed on. -/
def CursorFault.toFault (fault : CursorFault) : Fault :=
  match fault with
  | startBeyondTip start tip => .telling [start, tip] .config fault.message
  | notAnchored => ⟨.state, fault.message⟩
  | discontinuous range next =>
    .telling [range.first, range.last, next] .value fault.message
  | invalidRange inner => inner.toFault

/-- The block a start refers to and the first block to scan. Both are the same for the first
block of the chain and for a given block; the other two ways start after the block they refer
to, except that reaching back past the first block of the chain starts there. -/
def StartMode.anchor (mode : StartMode) (tip : Int) : Except CursorFault (Int × Int) :=
  let value : Int := mode.value
  match mode.kind with
  | .earliest => .ok (0, 0)
  | .start => if value > tip then .error (.startBeyondTip value tip) else .ok (value, value)
  | .latest => .ok (tip, tip + 1)
  | .tail =>
    let anchor := max 0 (tip - value)
    .ok (anchor, if tip - value ≥ 0 then anchor + 1 else 0)

namespace Cursor

/-- Whether the first block is known. -/
def isAnchored (cursor : Cursor) : Bool :=
  cursor.start?.isSome

/-- Fixes the first block from the newest one, and tells the block the start refers to.
Whatever was committed before is forgotten. -/
def anchored (mode : StartMode) (tip : Int) : Except CursorFault (Int × Cursor) :=
  match mode.anchor tip with
  | .error fault => .error fault
  | .ok (anchor, first) => .ok (anchor, { start? := some first, lastCommitted? := none })

/-- The next block to deal with. -/
def next (cursor : Cursor) : Except CursorFault Int :=
  match cursor.start? with
  | none => .error .notAnchored
  | some start =>
    match cursor.lastCommitted? with
    | none => .ok start
    | some last => .ok (last + 1)

/-- The span from the next block to the newest one, if that has been reached. -/
def nextRange (cursor : Cursor) (tip : Int) : Except CursorFault (Option BlockRange) :=
  match cursor.next with
  | .error fault => .error fault
  | .ok next =>
    if next > tip then .ok none
    else
      match BlockRange.make next tip with
      | .error fault => .error (.invalidRange fault)
      | .ok range => .ok (some range)

/-- Moves on past a span that starts at the next block. -/
def commit (cursor : Cursor) (range : BlockRange) : Except CursorFault Cursor :=
  match cursor.next with
  | .error fault => .error fault
  | .ok next =>
    if range.first = next then .ok { cursor with lastCommitted? := some range.last }
    else .error (.discontinuous range next)

end Cursor

end BallotWatch
