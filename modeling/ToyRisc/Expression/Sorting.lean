/-
Sorting with an order that may fail.  Runs are merged two by two until one is
left; items that are neither smaller nor greater keep their order.
-/
import ToyRisc.Expression.Error

namespace ToyRisc.Expression.Sorting

variable {α : Type}

/-- Merges two sorted runs behind what has been merged, which stands in reverse
order.  The left run goes first where neither item is smaller. -/
def mergeFrom (less : α → α → Except Error Bool) (merged : List α) :
    List α → List α → Except Error (List α)
  | [], ys => .ok (merged.reverse ++ ys)
  | xs, [] => .ok (merged.reverse ++ xs)
  | x :: xs, y :: ys => do
      if ← less y x then mergeFrom less (y :: merged) (x :: xs) ys
      else mergeFrom less (x :: merged) xs (y :: ys)
termination_by xs ys => xs.length + ys.length

def mergePairs (less : α → α → Except Error Bool) (done : List (List α)) :
    List (List α) → Except Error (List (List α))
  | x :: y :: runs => do mergePairs less ((← mergeFrom less [] x y) :: done) runs
  | [x] => .ok (x :: done).reverse
  | [] => .ok done.reverse

/-- Merges runs until one is left.  Every round leaves at most half of them, so their
number bounds the rounds. -/
def mergeAll (less : α → α → Except Error Bool) :
    Nat → List (List α) → Except Error (List α)
  | _, [] => .ok []
  | _, [run] => .ok run
  | 0, runs => .ok runs.flatten
  | rounds + 1, runs => do mergeAll less rounds (← mergePairs less [] runs)

def sort (less : α → α → Except Error Bool) (items : List α) : Except Error (List α) :=
  mergeAll less items.length (items.map fun item => [item])

end ToyRisc.Expression.Sorting
