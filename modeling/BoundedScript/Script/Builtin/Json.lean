import BoundedScript.Json.Basic
import BoundedScript.Script.Builtin.Array

set_option autoImplicit false

namespace BoundedScript.Script.JsonObject

open Run

def maxDepth : Nat := 4000

def tooDeep {α : Type} : Run α :=
  rangeError "Maximum call stack size exceeded"

def unexpected {α : Type} (u : Units) (i : Nat) : Run α :=
  match u.codeAt i with
  | some (c, _) => syntaxError ("unexpected token: '" ++ Units.toTextLossy (Units.ofCode c) ++ "'")
  | none => syntaxError "unexpected end of input"

def isBlank (c : UInt16) : Bool :=
  c == 0x20 || c == 0x09 || c == 0x0a || c == 0x0d

def skipBlanks (u : Units) (i : Nat) : (fuel : Nat) → Nat
  | 0 => i
  | fuel + 1 => if (u[i]?).any isBlank then skipBlanks u (i + 1) fuel else i

def blanks (u : Units) (i : Nat) : Nat :=
  skipBlanks u i (u.size - i)

def skipDigits (u : Units) (i : Nat) : (fuel : Nat) → Nat
  | 0 => i
  | fuel + 1 => if (u[i]?).any Units.isDigit then skipDigits u (i + 1) fuel else i

def digitsEnd (u : Units) (i : Nat) : Option Nat :=
  if (u[i]?).any Units.isDigit then some (skipDigits u i (u.size - i)) else none

def numberEnd (u : Units) (i : Nat) : Option Nat := do
  let i := if u[i]? == some 0x2d then i + 1 else i
  let i ← if u[i]? == some 0x30 then some (i + 1) else digitsEnd u i
  let i ← if u[i]? == some 0x2e then digitsEnd u (i + 1) else some i
  if (u[i]?).any Number.isExponentMark then
    let signed := u[i + 1]? == some 0x2b || u[i + 1]? == some 0x2d
    digitsEnd u (if signed then i + 2 else i + 1)
  else some i

def hexUnit (u : Units) (i : Nat) : Option UInt16 := do
  let digit (j : Nat) : Option Nat := do
    let n := Number.digitOf (← u[j]?)
    if n < 16 then some n else none
  let a ← digit i
  let b ← digit (i + 1)
  let c ← digit (i + 2)
  let d ← digit (i + 3)
  some (((a * 16 + b) * 16 + c) * 16 + d).toUInt16

def simpleEscape (c : UInt16) : Option UInt16 :=
  if c == 0x22 || c == 0x5c || c == 0x2f then some c
  else if c == 0x62 then some 8
  else if c == 0x66 then some 12
  else if c == 0x6e then some 10
  else if c == 0x72 then some 13
  else if c == 0x74 then some 9
  else none

def stringFrom (u : Units) (i : Nat) (out : Units) : (fuel : Nat) → Run (Units × Nat)
  | 0 => syntaxError "unexpected end of string"
  | fuel + 1 => do
    match u[i]? with
    | none => syntaxError "unexpected end of string"
    | some 0x22 => return (out, i + 1)
    | some 0x5c =>
      match u[i + 1]? with
      | some 0x75 =>
        match hexUnit u (i + 2) with
        | some c => stringFrom u (i + 6) (out.push c) fuel
        | none => syntaxError "invalid escape"
      | some c =>
        match simpleEscape c with
        | some c => stringFrom u (i + 2) (out.push c) fuel
        | none => syntaxError "invalid escape"
      | none => syntaxError "unexpected end of string"
    | some c =>
      if c < 0x20 then syntaxError "invalid character in a string"
      else stringFrom u (i + 1) (out.push c) fuel

def word (u : Units) (i : Nat) (text : String) (v : Value) : Run (Value × Nat) := do
  let w := Units.ofString text
  if u.matchesAt w i then return (v, i + w.size) else unexpected u i

def listFrom (u : Units) (item : Nat → Run (Value × Nat)) (i : Nat) : Run (Value × Nat) := do
  let i := blanks u i
  if u[i]? == some 0x5d then return (← newArray #[], i + 1)
  loop (fun (acc : Array Value × Nat) => do
    let (v, i) ← item acc.2
    let items := acc.1.push v
    let i := blanks u i
    match u[i]? with
    | some 0x2c => return .inl (items, i + 1)
    | some 0x5d => return .inr (← newArray items, i + 1)
    | _ => unexpected u i) (#[], i) manyRounds

def fieldsFrom (u : Units) (item : Nat → Run (Value × Nat)) (i : Nat) : Run (Value × Nat) := do
  let a ← newPlain
  let i := blanks u i
  if u[i]? == some 0x7d then return (.object a, i + 1)
  loop (fun (i : Nat) => do
    let i := blanks u i
    if u[i]? != some 0x22 then unexpected u i
    let (name, i) ← stringFrom u (i + 1) #[] (u.size + 1 - i)
    let i := blanks u i
    if u[i]? != some 0x3a then unexpected u i
    let (v, i) ← item (i + 1)
    putOwn a (.ofUnits name) (.plain v)
    let i := blanks u i
    match u[i]? with
    | some 0x2c => return .inl (i + 1)
    | some 0x7d => return .inr (.object a, i + 1)
    | _ => unexpected u i) i manyRounds

def valueFrom (u : Units) : (depth : Nat) → (i : Nat) → Run (Value × Nat)
  | 0, _ => tooDeep
  | depth + 1, i => do
    let i := blanks u i
    match u[i]? with
    | some 0x5b => listFrom u (valueFrom u depth) (i + 1)
    | some 0x7b => fieldsFrom u (valueFrom u depth) (i + 1)
    | some 0x22 =>
      let (s, i) ← stringFrom u (i + 1) #[] (u.size + 1 - i)
      return (.string s, i)
    | some 0x6e => word u i "null" .null
    | some 0x74 => word u i "true" (.bool true)
    | some 0x66 => word u i "false" (.bool false)
    | _ =>
      match numberEnd u i with
      | some last => return (.number (Number.ofUnits (u.extract i last)), last)
      | none => unexpected u i

def readText (u : Units) : Run Value := do
  let (v, i) ← valueFrom u maxDepth 0
  let i := blanks u i
  if i < u.size then unexpected u i
  return v

def numberOf (n : Int) : Value :=
  .number (Double.ofWhole n)

mutual

def ofJson : Json → Run Value
  | .null => return .null
  | .bool b => return .bool b
  | .int n => return numberOf n
  | .float x => return .number x
  | .string s => return .string (← checkString (Units.ofString s))
  | .array items => do ofItems #[] items
  | .object fields => do
    let a ← newPlain
    ofFields a fields

def ofItems (acc : Array Value) : List Json → Run Value
  | [] => newArray acc
  | v :: rest => do
    checkItems acc.size
    let v ← ofJson v
    ofItems (acc.push v) rest

def ofFields (a : Addr) : List (String × Json) → Run Value
  | [] => return .object a
  | (k, v) :: rest => do
    let v ← ofJson v
    putOwn a (.ofString k) (.plain v)
    ofFields a rest

end

def hexDigit (n : Nat) : UInt16 :=
  (if n < 10 then 0x30 + n else 0x57 + n).toUInt16

def unitEscape (c : UInt16) : Units :=
  let n := c.toNat
  #[0x5c, 0x75, hexDigit (n / 4096), hexDigit (n / 256 % 16), hexDigit (n / 16 % 16), hexDigit (n % 16)]

def quotedCode (out : Units) (c : Nat) : Units :=
  if c == 0x22 then out ++ #[0x5c, 0x22]
  else if c == 0x5c then out ++ #[0x5c, 0x5c]
  else if c == 8 then out ++ #[0x5c, 0x62]
  else if c == 12 then out ++ #[0x5c, 0x66]
  else if c == 10 then out ++ #[0x5c, 0x6e]
  else if c == 13 then out ++ #[0x5c, 0x72]
  else if c == 9 then out ++ #[0x5c, 0x74]
  else if c < 0x20 || Units.isLone c then out ++ unitEscape c.toUInt16
  else out ++ Units.ofCode c

def quoted (out u : Units) : Units :=
  (u.codes.foldl quotedCode (out.push 0x22)).push 0x22

structure Writing where
  replacer : Value
  names : Option (List PropKey)
  gap : Units

section
variable (E : Engine)

def prepared (w : Writing) (holder : Value) (k : PropKey) (v : Value) : Run Value := do
  let v ← match v with
    | .object _ | .bigint _ => do
      let f ← getValue E v toJsonKey
      if ← isCallable f then E.call f v #[k.toValue] else pure v
    | v => pure v
  let v ← if w.replacer.isUndefined then pure v else E.call w.replacer holder #[k.toValue, v]
  match v with
  | .object a =>
    match ← kindOf a with
    | .number _ => return .number (← toNumber E v)
    | .string _ => return .string (← toUnits E v)
    | .boolean b => return .bool b
    | .bigint n => return .bigint n
    | _ => return v
  | v => return v

def breakLine (w : Writing) (indent out : Units) : Units :=
  if w.gap.isEmpty then out else (out.push 0x0a) ++ indent

def fieldNames (w : Writing) (a : Addr) : Run (List PropKey) := do
  match w.names with
  | some names => return names
  | none =>
    let o ← getObj a
    return o.ownKeys.filter fun k => match k with
      | .symbol _ => false
      | k => (o.own? k).any (·.enumerable)

def writeItems (w : Writing) (write : Value → PropKey → Value → Units → Run (Option Units)) (a : Addr)
    (indent out : Units) : Run Units := do
  let n ← lengthOf E a
  if n == 0 then return out ++ #[0x5b, 0x5d]
  match ← ArrayObject.walk n (out.push 0x5b) (β := Empty) fun i out => do
    let out := breakLine w indent (if i == 0 then out else out.push 0x2c)
    let k := ArrayObject.keyAt i
    match ← write (.object a) k (← getOf E a k) out with
    | some out => return .inl out
    | none => return .inl (out ++ Units.ofString "null") with
  | .inl out => return (breakLine w (indent.extract 0 (indent.size - w.gap.size)) out).push 0x5d
  | .inr e => nomatch e

def writeFields (w : Writing) (write : Value → PropKey → Value → Units → Run (Option Units)) (a : Addr)
    (indent out : Units) : Run Units := do
  let keys ← fieldNames w a
  let rec go (isEmpty : Bool) (out : Units) : List PropKey → Run (Bool × Units)
    | [] => return (isEmpty, out)
    | k :: rest => do
      tick
      let v ← getOf E a k
      let name := match k.toValue with
        | .string u => u
        | _ => #[]
      let size := out.size
      let mark := if w.gap.isEmpty then #[0x3a] else #[0x3a, 0x20]
      let front := quoted (breakLine w indent (if isEmpty then out else out.push 0x2c)) name ++ mark
      match ← write (.object a) k v front with
      | some out => go false out rest
      | none => go isEmpty (front.extract 0 size) rest
  let (isEmpty, out) ← go true (out.push 0x7b) keys
  if isEmpty then return out.push 0x7d
  return (breakLine w (indent.extract 0 (indent.size - w.gap.size)) out).push 0x7d

/-- Writes a value behind `out`; none if it has no text. `enclosing` holds the objects it stands in. -/
def write (w : Writing) : (depth : Nat) → (enclosing : List Addr) → (indent : Units) → (holder : Value) →
    PropKey → Value → (out : Units) → Run (Option Units)
  | 0, _, _, _, _, _, _ => tooDeep
  | depth + 1, enclosing, indent, holder, k, v, out => do
    match ← prepared E w holder k v with
    | .null => return some (out ++ Units.ofString "null")
    | .bool true => return some (out ++ Units.ofString "true")
    | .bool false => return some (out ++ Units.ofString "false")
    | .number x =>
      return some (out ++ (if x.isFinite then Number.toUnits x else Units.ofString "null"))
    | .string u => return some (quoted out u)
    | .bigint _ => typeError "BigInt are forbidden in JSON.stringify"
    | .undefined | .symbol _ => return none
    | .object a =>
      if ← isCallable (.object a) then return none
      if enclosing.contains a then typeError "circular reference"
      let inner := write w depth (a :: enclosing) (indent ++ w.gap)
      if ← isArray (.object a) then
        return some (← writeItems E w inner a (indent ++ w.gap) out)
      else return some (← writeFields E w inner a (indent ++ w.gap) out)

def gapOf (v : Value) : Run Units := do
  let v ← match v with
    | .object a =>
      match ← kindOf a with
      | .number _ => pure (.number (← toNumber E v))
      | .string _ => pure (.string (← toUnits E v))
      | _ => pure v
    | v => pure v
  match v with
  | .number x => return Units.repeated #[0x20] (Number.clampNat x 10)
  | .string u => return u.extract 0 10
  | _ => return #[]

def namesOf (a : Addr) : Run (List PropKey) := do
  let mut names : Array PropKey := #[]
  for v in ← listItems E (.object a) do
    let name? ← match v with
      | .string u => pure (some u)
      | .number x => pure (some (Number.toUnits x))
      | .object b =>
        match ← kindOf b with
        | .string _ | .number _ => some <$> toUnits E v
        | _ => pure none
      | _ => pure none
    match name? with
    | some u => if !names.contains (.ofUnits u) then names := names.push (.ofUnits u)
    | none => pure ()
  return names.toList

def stringify (v replacer space : Value) : Run (Option Units) := do
  let (f, names) ← match replacer with
    | .object a => do
      if ← isCallable replacer then pure (replacer, none)
      else if ← isArray replacer then pure (Value.undefined, some (← namesOf E a))
      else pure (.undefined, none)
    | _ => pure (.undefined, none)
  let gap ← gapOf E space
  let holder ← newPlain
  let k := PropKey.name #[]
  putOwn holder k (.plain v)
  match ← write E ⟨f, names, gap⟩ maxDepth [] #[] (.object holder) k v #[] with
  | some u => return some (← checkString u)
  | none => return none

def revive (f : Value) : (depth : Nat) → (holder : Addr) → PropKey → Run Value
  | 0, _, _ => tooDeep
  | depth + 1, holder, k => do
    let v ← getOf E holder k
    match v with
    | .object a =>
      let keys ← if ← isArray v then do
          pure ((List.range (← lengthOf E a)).map ArrayObject.keyAt)
        else fieldNames ⟨.undefined, none, #[]⟩ a
      for k in keys do
        let item ← revive f depth a k
        if item.isUndefined then
          let _ ← deleteOwn a k
        else
          let _ ← createData a k item
    | _ => pure ()
    E.call f (.object holder) #[k.toValue, v]

def parse (text f : Value) : Run Value := do
  let u ← toUnits E text
  let v ← readText u
  if ← isCallable f then
    let holder ← newPlain
    putOwn holder (.name #[]) (.plain v)
    revive E f maxDepth holder (.name #[])
  else return v

def table : FunctionTable JsonFn :=
  [("parse", .parse, 2), ("stringify", .stringify, 3)]

def run (f : JsonFn) (args : Array Value) : Run Value := do
  match f with
  | .parse => parse E (arg args 0) (arg args 1)
  | .stringify =>
    match ← stringify E (arg args 0) (arg args 1) (arg args 2) with
    | some u => return .string u
    | none => return .undefined

end
end BoundedScript.Script.JsonObject
