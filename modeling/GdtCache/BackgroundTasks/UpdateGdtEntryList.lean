import GdtCache.Lib.Rounds
import GdtCache.View.GdtEntryList

/-!
# The constructor of a task

`task::UpdateGdtEntryList::UpdateGdtEntryList` keeps the email and makes a name of it for the log by
writing over the bytes in the middle.  The loop variable is an `int` and the bound of the loop a
`size_t`, `email.size() - 2`, which wraps around below two bytes.

The loop goes round by round: `none` stands for what C++ leaves undefined, a byte written behind the
end of the string or an `int` that overflows.
-/

namespace GdtCache.BackgroundTasks.UpdateGdtEntryList

open GdtCache.Lib GdtCache.View.GdtEntryList

/-- What comes next. -/
inductive LoopPhase
  /-- The test of the loop. -/
  | looping
  /-- The end of the constructor. -/
  | ended
  deriving DecidableEq

/-- The object while its constructor runs, and the loop variable. -/
structure Construction where
  phase : LoopPhase
  i : Int32
  /-- The email of the user, in bytes. -/
  mEmail : List UInt8
  /-- Only the first two and the last two characters of the email. -/
  mName : List UInt8
  deriving DecidableEq

/-- `email.size() - 2` -/
def loopBound (email : List UInt8) : ℕ :=
  if email.length < 2 then email.length + 2 ^ 64 - 2 else email.length - 2

/-- Before the first test. -/
def Construction.start (email : List UInt8) : Construction :=
  ⟨.looping, 2, email, email⟩

/-- A test, and the round it lets through. -/
def Construction.round (email : List UInt8) (c : Construction) : Option Construction :=
  match c.phase with
  | .looping =>
    if sizeT c.i < loopBound email then
      if sizeT c.i < c.mName.length then
        if c.i = Int32.maxValue then none
        else some { c with mName := c.mName.set (sizeT c.i) 'x'.toUInt8, i := c.i + 1 }
      else none
    else some { c with phase := .ended }
  | .ended => some c

/-- The constructor after some rounds. -/
def Construction.after (email : List UInt8) (n : ℕ) : Option Construction :=
  rounds (Construction.round email) n (some (.start email))

example : (Construction.after "bob@x.de".toUTF8.toList 5).map (fun c => (c.phase, c.mName))
    = some (.ended, "boxxxxde".toUTF8.toList) := by decide +kernel

end GdtCache.BackgroundTasks.UpdateGdtEntryList
