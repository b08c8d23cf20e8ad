set_option autoImplicit false

namespace BoundedScript.Text

abbrev Ranges := Array (Nat × Nat)

def Ranges.search (table : Ranges) (n : Nat) : (fuel low high : Nat) → Bool
  | 0, _, _ => false
  | fuel + 1, low, high =>
    if low < high then
      let middle := (low + high) / 2
      match table[middle]? with
      | some (first, last) =>
        if n < first then table.search n fuel low middle
        else if last < n then table.search n fuel (middle + 1) high
        else true
      | none => false
    else false

def Ranges.contains (table : Ranges) (n : Nat) : Bool :=
  table.search n (table.size + 1) 0 table.size

end BoundedScript.Text
