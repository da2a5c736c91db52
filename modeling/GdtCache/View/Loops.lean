import GdtCache.Lib.Rounds
import GdtCache.View.GdtEntryList

/-!
# The loops of a page, round by round

The two loops of the paged `view::GdtEntryList::toJsonString` with their `int` loop variable, which
is compared with the product, and with the count, before every round.  A round moves the iterator at
most once, and the moves of both loops are counted.  As before, `none` is undefined.
-/

namespace GdtCache.View.GdtEntryList

open GdtCache.Lib GdtCache.Model

/-- What comes next. -/
inductive LoopPhase
  /-- The test of the skip loop. -/
  | skipping
  /-- The test of the collect loop. -/
  | collecting
  /-- Neither loop. -/
  | ended
  deriving DecidableEq

/-- The variables of the loops, and what has happened so far. -/
structure Loops where
  phase : LoopPhase
  i : Int32
  it : ℕ
  skipMoves : ℕ
  collectMoves : ℕ
  /-- The entries written so far. -/
  out : List GdtEntry

/-- From the guard to the first test of a loop. -/
def Loops.start (entries : List GdtEntry) (page count : Int32) (order : OrderDirections) :
    Option Loops :=
  if sizeT ((page - 1) * count) < entries.length then
    (startIterator entries.length order).map fun it =>
      ⟨if 1 < page then .skipping else .collecting, 0, it, 0, 0, []⟩
  else some ⟨.ended, 0, 0, 0, 0, []⟩

/-- A test, and the round it lets through. -/
def Loops.round (entries : List GdtEntry) (page count : Int32) (order : OrderDirections)
    (l : Loops) : Option Loops :=
  match l.phase with
  | .skipping =>
    if l.i < (page - 1) * count then
      (advance entries.length order l.it).map fun it =>
        { l with i := l.i + 1, it := it, skipMoves := l.skipMoves + 1 }
    else some { l with phase := .collecting, i := 0 }
  | .collecting =>
    if l.i < count then
      entries[l.it]?.bind fun e =>
        let l := { l with out := l.out ++ [e] }
        match order with
        | .ASC =>
          (increment entries.length l.it).map fun it =>
            let l := { l with it := it, collectMoves := l.collectMoves + 1 }
            if it = entries.length then { l with phase := .ended } else { l with i := l.i + 1 }
        | .DESC =>
          if l.it = 0 then some { l with phase := .ended }
          else (decrement l.it).map fun it =>
            { l with it := it, collectMoves := l.collectMoves + 1, i := l.i + 1 }
    else some { l with phase := .ended }
  | .ended => some l

/-- The variables after some rounds. -/
def Loops.after (entries : List GdtEntry) (page count : Int32) (order : OrderDirections)
    (n : ℕ) : Option Loops :=
  rounds (Loops.round entries page count order) n (Loops.start entries page count order)

end GdtCache.View.GdtEntryList
