import BoundedScript.Json.Basic

set_option autoImplicit false

namespace BoundedScript.Toml

structure Style where
  -- The text goes over several lines, so the marks are triple and a line break follows the first.
  isBlock : Bool
  isLiteral : Bool
  -- The marks are triple although the text is one line.
  isTriple : Bool
  deriving DecidableEq

def longestRun (quote : Char) (run best : Nat) : List Char → Nat
  | [] => max run best
  | c :: rest =>
    if c == quote then longestRun quote (run + 1) best rest else longestRun quote 0 (max run best) rest

def needsEscape (c : Char) : Bool :=
  (c.val < 0x20 && c != '\t' && c != '\n') || c == '\x7f'

-- A text with quotes or backslashes is written literally where that is possible.
def styleOf (cs : List Char) : Style :=
  let isBlock := cs.contains '\n'
  let run := longestRun '\'' 0 0 cs
  let isLiteral := (cs.contains '"' || cs.contains '\\') && run < 3 && !cs.any needsEscape
  ⟨isBlock, isLiteral, isLiteral && !isBlock && 1 ≤ run⟩

def upperHexDigit (n : Nat) : Char :=
  if n < 10 then Char.ofNat (0x30 + n) else Char.ofNat (0x37 + n)

def escaped (isBlock : Bool) (c : Char) : List Char :=
  if c == '\x08' then ['\\', 'b']
  else if c == '\t' then ['\\', 't']
  else if c == '\n' then (if isBlock then ['\n'] else ['\\', 'n'])
  else if c == '\x0c' then ['\\', 'f']
  else if c == '\r' then ['\\', 'r']
  else if c == '"' then ['\\', '"']
  else if c == '\\' then ['\\', '\\']
  else if needsEscape c then
    ['\\', 'u', '0', '0', upperHexDigit (c.toNat / 16), upperHexDigit (c.toNat % 16)]
  else [c]

def stringText (s : String) : String :=
  let cs := s.toList
  let style := styleOf cs
  let quote := if style.isLiteral then '\'' else '"'
  let mark := String.ofList (List.replicate (if style.isBlock || style.isTriple then 3 else 1) quote)
  let body := if style.isLiteral then cs else cs.flatMap (escaped style.isBlock)
  mark ++ (if style.isBlock then "\n" else "") ++ String.ofList body ++ mark

def outOfRange : String := "out-of-range value for u64 type"

def scalarText : Json → Except String (Option String)
  | .null => .ok none
  | .bool b => .ok (some (toString b))
  | .int n =>
    if -0x8000_0000_0000_0000 ≤ n && n < 0x8000_0000_0000_0000 then .ok (some (toString n))
    else .error outOfRange
  | .string s => .ok (some (stringText s))
  | _ => .error "unsupported type"

def headerLine (path : List String) : String :=
  "[" ++ ".".intercalate path ++ "]\n"

def valueLines : List (String × Json) → Except String String
  | [] => .ok ""
  | (_, .object _) :: rest => valueLines rest
  | (name, v) :: rest => do
    let text ← scalarText v
    let rest ← valueLines rest
    match text with
    | some t => return name ++ " = " ++ t ++ "\n" ++ rest
    | none => return rest

mutual

def sectionsOf (path : List String) : Json → Except String (List String)
  | .object fields => do
    let lines ← valueLines fields
    let inner ← sectionsOfFields path fields
    return (if path.isEmpty then inner else (headerLine path ++ lines) :: inner)
  | _ => return []

def sectionsOfFields (path : List String) : List (String × Json) → Except String (List String)
  | [] => return []
  | (name, v) :: rest => do
    let first ← sectionsOf (path ++ [name]) v
    let rest ← sectionsOfFields path rest
    return first ++ rest

end

def render (v : Json) : Except String String := do
  return "\n".intercalate (← sectionsOf [] v)

end BoundedScript.Toml
