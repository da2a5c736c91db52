import Mathlib.Data.List.Basic

/-!
# Histories of a queue

A queue takes elements in at its end and gives them out at its front.  `Replays` says which
histories of such operations lead from one queue to another, and `Replays.dequeued_append` what
that comes to: the elements given out, followed by those still there, are the elements that were
there and those taken in, in their order.
-/

namespace GdtCache.Lib.Fifo

variable {α : Type*}

/-- An operation. -/
inductive Op (α : Type*)
  | enqueue (a : α)
  | dequeue (a : α)

/-- The element an operation takes in. -/
def Op.enqueued : Op α → Option α
  | enqueue a => some a
  | dequeue _ => none

/-- The element an operation gives out. -/
def Op.dequeued : Op α → Option α
  | enqueue _ => none
  | dequeue a => some a

/-- The operation leads from one queue to the other. -/
def Step (q : List α) : Op α → List α → Prop
  | .enqueue a, q' => q' = q ++ [a]
  | .dequeue a, q' => q = a :: q'

/-- The operations lead from one queue to the other. -/
inductive Replays (q : List α) : List (Op α) → List α → Prop
  | nil : Replays q [] q
  | snoc {ops : List (Op α)} {op : Op α} {q' q'' : List α} :
    Replays q ops q' → Step q' op q'' → Replays q (ops ++ [op]) q''

/-- **First in, first out**, and each element once. -/
theorem Replays.dequeued_append {q q' : List α} {ops : List (Op α)} (h : Replays q ops q') :
    ops.filterMap Op.dequeued ++ q' = q ++ ops.filterMap Op.enqueued := by
  induction h with
  | nil => simp
  | @snoc ops op q' q'' _ hstep ih =>
    cases op with
    | enqueue a =>
      have hstep : q'' = q' ++ [a] := hstep
      simp only [List.filterMap_append, List.filterMap_cons, Op.dequeued, Op.enqueued,
        List.filterMap_nil, List.append_nil]
      rw [hstep, ← List.append_assoc, ih, List.append_assoc]
    | dequeue a =>
      have hstep : q' = a :: q'' := hstep
      rw [hstep] at ih
      simp [Op.enqueued, Op.dequeued, ih]

end GdtCache.Lib.Fifo
