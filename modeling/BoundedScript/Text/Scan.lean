set_option autoImplicit false

namespace BoundedScript.Text

abbrev Scan := StateT (List Char) Option

namespace Scan

variable {α : Type}

def peek : Scan (Option Char) := do
  return (← get).head?

def drop (n : Nat) : Scan Unit :=
  modify (·.drop n)

def next : Scan Char := do
  match ← get with
  | [] => failure
  | c :: rest => set rest; return c

def expect (c : Char) : Scan Unit := do
  if (← next) != c then failure

def passes (s : String) : Scan Bool := do
  let cs ← get
  if s.toList.isPrefixOf cs then do set (cs.drop s.length); return true else return false

def takeWhile (p : Char → Bool) : Scan (List Char) := do
  let cs ← get
  set (cs.dropWhile p)
  return cs.takeWhile p

def skipWhile (p : Char → Bool) : Scan Unit :=
  modify (·.dropWhile p)

def fuel : Scan Nat := do
  return (← get).length + 1

def atEnd : Scan Bool := do
  return (← get).isEmpty

def whole (s : Scan α) (text : String) : Option α :=
  match s.run text.toList with
  | some (a, []) => some a
  | _ => none

def hexValue? (c : Char) : Option Nat :=
  if c.isDigit then some (c.toNat - 0x30)
  else if 'a' ≤ c && c ≤ 'f' then some (c.toNat - 0x57)
  else if 'A' ≤ c && c ≤ 'F' then some (c.toNat - 0x37)
  else none

def hexDigits (value : Nat) : (count : Nat) → Scan Nat
  | 0 => return value
  | count + 1 => do
    match hexValue? (← next) with
    | some d => hexDigits (value * 16 + d) count
    | none => failure

def charOf (n : Nat) : Scan Char :=
  if n < 0xd800 || (0xdfff < n && n < 0x110000) then return Char.ofNat n else failure

end Scan
end BoundedScript.Text
