import BoundedScript.Script.Heap

set_option autoImplicit false

namespace BoundedScript.Script.Sorting

variable {α : Type}

abbrev Behind (α : Type) := α → α → Run Bool

/-- Puts an item among sorted ones, given from the last to the first. `passed` are those that stand
behind it, the nearest first. -/
def insertFrom (behind : Behind α) (x : α) (passed : List α) : List α → Run (List α)
  | [] => return passed.reverseAux [x]
  | y :: rest => do
    if ← behind y x then insertFrom behind x (y :: passed) rest
    else return passed.reverseAux (x :: y :: rest)

def insertAll (behind : Behind α) (sorted : List α) : List α → Run (List α)
  | [] => return sorted.reverse
  | x :: rest => do insertAll behind (← insertFrom behind x [] sorted) rest

def merge (behind : Behind α) (acc : List α) : (xs ys : List α) → Run (List α)
  | [], ys => return acc.reverseAux ys
  | xs, [] => return acc.reverseAux xs
  | x :: xs, y :: ys => do
    if ← behind x y then merge behind (y :: acc) (x :: xs) ys
    else merge behind (x :: acc) xs (y :: ys)
termination_by xs ys => xs.length + ys.length

def maxInserted : Nat := 6

def sort (behind : Behind α) : (fuel : Nat) → List α → Run (List α)
  | 0, xs => return xs
  | fuel + 1, xs => do
    if xs.length ≤ maxInserted then insertAll behind [] xs
    else
      let half := xs.length / 2
      let front ← sort behind fuel (xs.take half)
      let back ← sort behind fuel (xs.drop half)
      merge behind [] front back

end BoundedScript.Script.Sorting
