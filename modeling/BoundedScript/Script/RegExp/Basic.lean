import BoundedScript.Script.Units
import BoundedScript.Text.CaseMap

set_option autoImplicit false

namespace BoundedScript.Script.RegExp

structure Flags where
  hasIndices : Bool
  isGlobal : Bool
  ignoreCase : Bool
  multiline : Bool
  dotAll : Bool
  unicode : Bool
  sticky : Bool

def Flags.ofUnits? (u : Units) : Option Flags :=
  let step (f : Flags) (c : UInt16) : Option Flags :=
    if c == 0x64 && !f.hasIndices then some { f with hasIndices := true }
    else if c == 0x67 && !f.isGlobal then some { f with isGlobal := true }
    else if c == 0x69 && !f.ignoreCase then some { f with ignoreCase := true }
    else if c == 0x6d && !f.multiline then some { f with multiline := true }
    else if c == 0x73 && !f.dotAll then some { f with dotAll := true }
    else if c == 0x75 && !f.unicode then some { f with unicode := true }
    else if c == 0x79 && !f.sticky then some { f with sticky := true }
    else none
  u.toList.foldlM step ⟨false, false, false, false, false, false, false⟩

inductive ClassItem where
  | range (first last : Nat)
  | digit (negated : Bool)
  | space (negated : Bool)
  | word (negated : Bool)

inductive Node where
  | empty
  | char (c : Nat)
  | any
  | set (negated : Bool) (items : List ClassItem)
  | seq (a b : Node)
  | alt (a b : Node)
  | group (index : Nat) (body : Node)
  | backref (index : Nat)
  | namedRef (name : String)
  -- `groups` are those inside, which every round forgets.
  | repeat (least : Nat) (greatest : Option Nat) (greedy : Bool) (groups : Nat × Nat) (body : Node)
  | lineStart
  | lineEnd
  | wordEdge (negated : Bool)
  | look (ahead negated : Bool) (body : Node)

structure Program where
  body : Node
  flags : Flags
  groupCount : Nat
  names : List (String × Nat)

def isLineEnd (c : Nat) : Bool :=
  c == 0x0a || c == 0x0d || c == 0x2028 || c == 0x2029

def isWord (c : Nat) : Bool :=
  (0x30 ≤ c && c ≤ 0x39) || (0x41 ≤ c && c ≤ 0x5a) || (0x61 ≤ c && c ≤ 0x7a) || c == 0x5f

def isSpaceCode (c : Nat) : Bool :=
  c < 0x10000 && Units.isSpace c.toUInt16

def fold (unicode : Bool) (c : Nat) : Nat :=
  if unicode then
    match Text.lowerCode c with
    | [d] => d
    | _ => c
  else
    match Text.upperCode c with
    | [d] => if 128 ≤ c && d < 128 then c else if 0x10000 ≤ d then c else d
    | _ => c

def ClassItem.holds (item : ClassItem) (c : Nat) : Bool :=
  match item with
  | .range first last => first ≤ c && c ≤ last
  | .digit negated => (0x30 ≤ c && c ≤ 0x39) != negated
  | .space negated => isSpaceCode c != negated
  | .word negated => isWord c != negated

-- With folding, a class holds a character if it holds some case of it.
def ClassItem.holdsFolded (unicode : Bool) (item : ClassItem) (c : Nat) : Bool :=
  item.holds c || item.holds (fold unicode c) ||
    (match Text.lowerCode c with
     | [d] => item.holds d
     | _ => false) ||
    (match Text.upperCode c with
     | [d] => item.holds d
     | _ => false)

end BoundedScript.Script.RegExp
