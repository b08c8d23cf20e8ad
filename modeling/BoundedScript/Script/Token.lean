import BoundedScript.Decimal.Binary
import BoundedScript.Script.Syntax
import BoundedScript.Text.Identifier

set_option autoImplicit false

namespace BoundedScript.Script

abbrev Source := Array Char

inductive Token where
  -- A name or keyword; an escape in it keeps it from being a keyword.
  | word (name : String) (escaped : Bool)
  | punct (text : String)
  | number (x : Float)
  | bigint (n : Int)
  | string (u : Units)
  | privateName (name : String)
  | endOfText
  deriving Inhabited

structure Lexeme where
  token : Token
  start : Nat
  stop : Nat
  newline : Bool
  deriving Inhabited

namespace Lexer

def at? (src : Source) (i : Nat) : Option Char :=
  src[i]?

def isLineEnd (c : Char) : Bool :=
  c == '\n' || c == '\r' || c == '\u2028' || c == '\u2029'

def isBlank (c : Char) : Bool :=
  c.toNat < 0x10000 && Units.isSpace c.toNat.toUInt16

def isNameStart (c : Char) : Bool :=
  c == '$' || c == '_' || Text.isIdStart c.toNat

def isNamePart (c : Char) : Bool :=
  c == '$' || c == '\u200c' || c == '\u200d' || Text.isIdContinue c.toNat

def digitValue (c : Char) : Nat :=
  let n := c.toNat
  if 0x30 ≤ n && n ≤ 0x39 then n - 0x30
  else if 0x61 ≤ n && n ≤ 0x7a then n - 0x57
  else if 0x41 ≤ n && n ≤ 0x5a then n - 0x37
  else 99

def blockCommentEnd (src : Source) (i : Nat) (newline : Bool) : (fuel : Nat) → Option (Nat × Bool)
  | 0 => none
  | fuel + 1 =>
    match at? src i with
    | none => none
    | some c =>
      if c == '*' && at? src (i + 1) == some '/' then some (i + 2, newline)
      else blockCommentEnd src (i + 1) (newline || isLineEnd c) fuel

def lineCommentEnd (src : Source) (i : Nat) : (fuel : Nat) → Nat
  | 0 => i
  | fuel + 1 =>
    match at? src i with
    | none => i
    | some c => if isLineEnd c then i else lineCommentEnd src (i + 1) fuel

def standsAt (src : Source) (mark : String) (i : Nat) : Bool :=
  (src.extract i (i + mark.length)).toList == mark.toList

-- Passes blanks and comments; `<!--` opens one anywhere and `-->` one in front of a line.
def skipBlanks (src : Source) (i : Nat) (newline : Bool) : (fuel : Nat) → Option (Nat × Bool)
  | 0 => some (i, newline)
  | fuel + 1 =>
    match at? src i with
    | none => some (i, newline)
    | some c =>
      if isLineEnd c then skipBlanks src (i + 1) true fuel
      else if isBlank c then skipBlanks src (i + 1) newline fuel
      else if c == '/' then
        match at? src (i + 1) with
        | some '/' => skipBlanks src (lineCommentEnd src (i + 2) src.size) newline fuel
        | some '*' =>
          match blockCommentEnd src (i + 2) newline src.size with
          | none => none
          | some (j, newline) => skipBlanks src j newline fuel
        | _ => some (i, newline)
      else if c == '<' && standsAt src "<!--" i || c == '-' && newline && standsAt src "-->" i then
        skipBlanks src (lineCommentEnd src i src.size) newline fuel
      else some (i, newline)

def hexDigits (src : Source) (i n : Nat) : (count : Nat) → Option (Nat × Nat)
  | 0 => some (n, i)
  | count + 1 =>
    match at? src i with
    | none => none
    | some c => if digitValue c < 16 then hexDigits src (i + 1) (n * 16 + digitValue c) count else none

def bracedHex (src : Source) (i n digits : Nat) : (fuel : Nat) → Option (Nat × Nat)
  | 0 => none
  | fuel + 1 =>
    match at? src i with
    | none => none
    | some c =>
      if c == '\x7d' then if digits == 0 then none else some (n, i + 1)
      else if digitValue c < 16 && n * 16 + digitValue c ≤ 0x10ffff then
        bracedHex src (i + 1) (n * 16 + digitValue c) (digits + 1) fuel
      else none

def unicodeEscape (src : Source) (i : Nat) : Option (Nat × Nat) :=
  if at? src i == some '\x7b' then bracedHex src (i + 1) 0 0 src.size else hexDigits src i 0 4

def nameFrom (src : Source) (i : Nat) (acc : String) (escaped : Bool) : (fuel : Nat) →
    Option (String × Bool × Nat)
  | 0 => some (acc, escaped, i)
  | fuel + 1 =>
    match at? src i with
    | none => some (acc, escaped, i)
    | some c =>
      if c == '\\' then
        if at? src (i + 1) == some 'u' then
          match unicodeEscape src (i + 2) with
          | none => none
          | some (n, j) =>
            let d := Char.ofNat n
            if (if acc.isEmpty then isNameStart d else isNamePart d) then
              nameFrom src j (acc.push d) true fuel
            else none
        else none
      else if isNamePart c then nameFrom src (i + 1) (acc.push c) escaped fuel
      else some (acc, escaped, i)

def digitsFrom (src : Source) (base i n count : Nat) (afterDigit : Bool) : (fuel : Nat) →
    Option (Nat × Nat × Nat)
  | 0 => some (n, count, i)
  | fuel + 1 =>
    match at? src i with
    | none => if afterDigit || count == 0 then some (n, count, i) else none
    | some c =>
      if c == '_' then
        if afterDigit then digitsFrom src base (i + 1) n count false fuel else none
      else if digitValue c < base then
        digitsFrom src base (i + 1) (n * base + digitValue c) (count + 1) true fuel
      else if afterDigit || count == 0 then some (n, count, i) else none

def exponentFrom (src : Source) (i : Nat) : Option (Int × Nat) :=
  match at? src i with
  | some c =>
    if c == 'e' || c == 'E' then
      let negative := at? src (i + 1) == some '-'
      let start := if negative || at? src (i + 1) == some '+' then i + 2 else i + 1
      match digitsFrom src 10 start 0 0 false src.size with
      | some (n, count, j) =>
        if count == 0 then none else some (if negative then -(n : Int) else n, j)
      | none => none
    else some (0, i)
  | none => some (0, i)

def decimalFrom (src : Source) (n count i : Nat) : Option (Token × Nat) := do
  let (n, count, places, i) ←
    if at? src i == some '.' then do
      if at? src (i + 1) == some '_' then none
      let (m, more, j) ← digitsFrom src 10 (i + 1) n 0 false src.size
      some (m, count + more, more, j)
    else some (n, count, 0, i)
  let (e, j) ← exponentFrom src i
  if count == 0 then none
  some (.number (Double.ofDecimal n (e - places)), j)

def radixFrom (src : Source) (base i : Nat) : Option (Token × Nat) := do
  let (n, count, j) ← digitsFrom src base i 0 0 false src.size
  if count == 0 then none
  if at? src j == some 'n' then some (.bigint n, j + 1) else some (.number (Double.ofWhole n), j)

def numberAt (src : Source) (i : Nat) : Option (Token × Nat) :=
  let isZero := at? src i == some '0'
  match isZero, at? src (i + 1) with
  | true, some 'x' | true, some 'X' => radixFrom src 16 (i + 2)
  | true, some 'o' | true, some 'O' => radixFrom src 8 (i + 2)
  | true, some 'b' | true, some 'B' => radixFrom src 2 (i + 2)
  | _, next =>
    if isZero && next.any (fun c => c.isDigit || c == '_') then none
    else do
      let (n, count, j) ← digitsFrom src 10 i 0 0 false src.size
      if at? src j == some 'n' then some (.bigint n, j + 1) else decimalFrom src n count j

def number (src : Source) (i : Nat) : Option (Token × Nat) := do
  let (t, j) ← numberAt src i
  if (at? src j).any fun c => isNameStart c || c.isDigit || c == '\\' then none
  some (t, j)

def stringEscape (src : Source) (i : Nat) : Option (Units × Nat) :=
  match at? src i with
  | none => none
  | some c =>
    if c == 'n' then some (#[10], i + 1)
    else if c == 't' then some (#[9], i + 1)
    else if c == 'r' then some (#[13], i + 1)
    else if c == 'b' then some (#[8], i + 1)
    else if c == 'f' then some (#[12], i + 1)
    else if c == 'v' then some (#[11], i + 1)
    else if c == '\r' then some (#[], if at? src (i + 1) == some '\n' then i + 2 else i + 1)
    else if isLineEnd c then some (#[], i + 1)
    else if c == 'x' then (hexDigits src (i + 1) 0 2).map fun (n, j) => (#[n.toUInt16], j)
    else if c == 'u' then (unicodeEscape src (i + 1)).map fun (n, j) => (Units.ofCode n, j)
    else if c == '0' && !(at? src (i + 1)).any Char.isDigit then some (#[0], i + 1)
    else if c.isDigit then none
    else some (Units.pushChar #[] c, i + 1)

def stringFrom (src : Source) (quote : Char) (i : Nat) (acc : Units) : (fuel : Nat) → Option (Units × Nat)
  | 0 => none
  | fuel + 1 =>
    match at? src i with
    | none => none
    | some c =>
      if c == quote then some (acc, i + 1)
      else if c == '\\' then
        match stringEscape src (i + 1) with
        | none => none
        | some (u, j) => stringFrom src quote j (acc ++ u) fuel
      else if c == '\n' || c == '\r' then none
      else stringFrom src quote (i + 1) (acc.pushChar c) fuel

/-- A stretch of a template from `i` to the next `${` or the closing mark: its text, none if an escape in
it is malformed, its written form, whether an expression follows, and where it ends. -/
def templateFrom (src : Source) (i : Nat) (cooked : Option Units) (raw : Units) : (fuel : Nat) →
    Option (Option Units × Units × Bool × Nat)
  | 0 => none
  | fuel + 1 =>
    match at? src i with
    | none => none
    | some c =>
      if c == '\x60' then some (cooked, raw, false, i + 1)
      else if c == '$' && at? src (i + 1) == some '\x7b' then some (cooked, raw, true, i + 2)
      else if c == '\\' then
        match stringEscape src (i + 1) with
        | some (u, j) =>
          let written :=
            if at? src (i + 1) == some '\r' then #[0x5c, 10] else (src.extract i j).foldl Units.pushChar #[]
          templateFrom src j (cooked.map (· ++ u)) (raw ++ written) fuel
        | none =>
          match at? src (i + 1) with
          | none => none
          | some d => templateFrom src (i + 2) none (Units.pushChar (raw.push 0x5c) d) fuel
      else if c == '\r' then
        let j := if at? src (i + 1) == some '\n' then i + 2 else i + 1
        templateFrom src j (cooked.map (·.push 10)) (raw.push 10) fuel
      else templateFrom src (i + 1) (cooked.map (Units.pushChar · c)) (raw.pushChar c) fuel

def regexpFrom (src : Source) (i : Nat) (inClass : Bool) (acc : Units) : (fuel : Nat) → Option (Units × Nat)
  | 0 => none
  | fuel + 1 =>
    match at? src i with
    | none => none
    | some c =>
      if isLineEnd c then none
      else if c == '\\' then
        match at? src (i + 1) with
        | none => none
        | some d =>
          if isLineEnd d then none else regexpFrom src (i + 2) inClass (Units.pushChar (acc.push 0x5c) d) fuel
      else if c == '/' && !inClass then some (acc, i + 1)
      else regexpFrom src (i + 1) (if c == '[' then true else if c == ']' then false else inClass)
        (acc.pushChar c) fuel

def puncts : List (List Char) :=
  [">>>=", "...", "===", "!==", "**=", "<<=", ">>=", ">>>", "&&=", "||=", "??=", "=>", "==", "!=", "<=",
   ">=", "&&", "||", "??", "?.", "++", "--", "+=", "-=", "*=", "/=", "%=", "&=", "|=", "^=", "<<", ">>",
   "**", "\x7b", "\x7d", "(", ")", "[", "]", ";", ",", "<", ">", "+", "-", "*", "/", "%", "&", "|", "^",
   "!", "~", "?", ":", "=", ".", "@", "\x60"].map String.toList

def startsAt (src : Source) : List Char → Nat → Bool
  | [], _ => true
  | c :: rest, i => at? src i == some c && startsAt src rest (i + 1)

def punct (src : Source) (i : Nat) : Option (Token × Nat) :=
  match puncts.find? (startsAt src · i) with
  | none => none
  | some p =>
    -- A question mark, a point and a digit are a conditional and a number.
    if p == ['?', '.'] && (at? src (i + 2)).any Char.isDigit then some (.punct "?", i + 1)
    else some (.punct (String.ofList p), i + p.length)

def tokenAt (src : Source) (i : Nat) : Option (Token × Nat) :=
  match at? src i with
  | none => some (.endOfText, i)
  | some c =>
    if isNameStart c || c == '\\' then
      (nameFrom src i "" false (src.size + 1)).map fun (n, escaped, j) => (.word n escaped, j)
    else if c.isDigit || (c == '.' && (at? src (i + 1)).any Char.isDigit) then number src i
    else if c == '"' || c == '\'' then
      (stringFrom src c (i + 1) #[] (src.size + 1)).map fun (u, j) => (.string u, j)
    else if c == '#' then
      match nameFrom src (i + 1) "" false (src.size + 1) with
      | some (n, _, j) => if n.isEmpty then none else some (.privateName n, j)
      | none => none
    else punct src i

def next (src : Source) (i : Nat) : Option Lexeme := do
  let (start, newline) ← skipBlanks src i false (src.size + 1)
  let (token, stop) ← tokenAt src start
  some ⟨token, start, stop, newline⟩

end Lexer
end BoundedScript.Script
