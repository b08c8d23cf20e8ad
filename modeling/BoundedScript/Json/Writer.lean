import BoundedScript.Decimal.Layout
import BoundedScript.Json.Basic
import BoundedScript.Text.Quoted

set_option autoImplicit false

namespace BoundedScript.Json

def escapeChar (c : Char) : List Char :=
  if c == '"' then ['\\', '"']
  else if c == '\\' then ['\\', '\\']
  else if c == '\n' then ['\\', 'n']
  else if c == '\r' then ['\\', 'r']
  else if c == '\t' then ['\\', 't']
  else if c == '\x08' then ['\\', 'b']
  else if c == '\x0c' then ['\\', 'f']
  else if c.val < 0x20 then
    ['\\', 'u', '0', '0', Text.hexDigit (c.toNat / 16), Text.hexDigit (c.toNat % 16)]
  else [c]

def stringText (s : String) : List Char :=
  '"' :: s.toList.flatMap escapeChar ++ ['"']

def floatText (x : Float) : List Char :=
  if x.isFinite then (Double.render .json x).toList else "null".toList

def intText (n : Int) : List Char :=
  (toString n).toList

def separated (separator : List Char) : List (List Char) → List Char
  | [] => []
  | [t] => t
  | t :: rest => t ++ separator ++ separated separator rest

mutual

def compact : Json → List Char
  | .null => "null".toList
  | .bool true => "true".toList
  | .bool false => "false".toList
  | .int n => intText n
  | .float x => floatText x
  | .string s => stringText s
  | .array items => '[' :: separated [','] (compactItems items) ++ [']']
  | .object fields => '\x7b' :: separated [','] (compactFields fields) ++ ['\x7d']

def compactItems : List Json → List (List Char)
  | [] => []
  | v :: rest => compact v :: compactItems rest

def compactFields : List (String × Json) → List (List Char)
  | [] => []
  | (k, v) :: rest => (stringText k ++ ':' :: compact v) :: compactFields rest

end

def render (v : Json) : String :=
  String.ofList (compact v)

def indent (depth : Nat) : List Char :=
  '\n' :: List.replicate (2 * depth) ' '

def block (depth : Nat) (opening closing : Char) (parts : List (List Char)) : List Char :=
  match parts with
  | [] => [opening, closing]
  | _ =>
    opening :: indent (depth + 1) ++ separated (',' :: indent (depth + 1)) parts ++
      indent depth ++ [closing]

mutual

def laidOut (depth : Nat) : Json → List Char
  | .array items => block depth '[' ']' (laidOutItems (depth + 1) items)
  | .object fields => block depth '\x7b' '\x7d' (laidOutFields (depth + 1) fields)
  | .null => "null".toList
  | .bool true => "true".toList
  | .bool false => "false".toList
  | .int n => intText n
  | .float x => floatText x
  | .string s => stringText s

def laidOutItems (depth : Nat) : List Json → List (List Char)
  | [] => []
  | v :: rest => laidOut depth v :: laidOutItems depth rest

def laidOutFields (depth : Nat) : List (String × Json) → List (List Char)
  | [] => []
  | (k, v) :: rest => (stringText k ++ [':', ' '] ++ laidOut depth v) :: laidOutFields depth rest

end

def renderLaidOut (v : Json) : String :=
  String.ofList (laidOut 0 v)

end BoundedScript.Json
