import BoundedScript.Json.Reading

set_option autoImplicit false

namespace BoundedScript.Json.Reading

variable {α : Type}

def found : Reading Found := do
  match ← peek with
  | none => throw .endOfValue
  | some b =>
    if b == 0x22 then do drop; return .string (← stringBody)
    else if b == 0x5b then return .sequence
    else if b == 0x7b then return .map
    else if b == 0x2d || isDigit b then
      match ← signedNumber with
      | .int n => return .int n
      | .float x => return .float x
    else if b == 0x6e then do drop; word ull; return .null
    else if b == 0x74 then do drop; word rue; return .bool true
    else if b == 0x66 then do drop; word alse; return .bool false
    else throw .expectedValue

def mismatch (expected : String) : Reading α := do
  throw (.invalidType (← found) expected)

def string (expected : String) : Reading String := do
  match ← peek with
  | none => throw .endOfValue
  | some b => if b == 0x22 then do drop; stringBody else mismatch expected

def bool : Reading Bool := do
  match ← peek with
  | none => throw .endOfValue
  | some b =>
    if b == 0x74 then do drop; word rue; return true
    else if b == 0x66 then do drop; word alse; return false
    else mismatch "a boolean"

def unit : Reading Unit := do
  match ← peek with
  | none => throw .endOfValue
  | some b => if b == 0x6e then do drop; word ull else mismatch "unit"

def nullable (r : Reading α) : Reading (Option α) := do
  match ← peek with
  | some 0x6e => do drop; word ull; return none
  | _ => return some (← r)

def choice (ofName : String → Except ReadError α) : Reading α := do
  match ← peek with
  | none => throw .endOfValue
  | some b =>
    if b == 0x22 then do
      drop
      match ofName (← stringBody) with
      | .ok a => return a
      | .error e => throw e
    else if b == 0x7b then do
      drop
      match ofName (← string "variant identifier") with
      | .error e => throw e
      | .ok a => do
        colon
        unit
        match ← peek with
        | none => throw .endOfObject
        | some c => if c == 0x7d then do drop; return a else throw .expectedValue
    else throw .expectedValue

-- Passes an escape in a string that nobody asks for: the hexadecimal digits are checked, not what they
-- make.
def skipString : (fuel : Nat) → Text.Bytes → Except ReadError Text.Bytes
  | 0, _ => .error .endOfString
  | _ + 1, [] => .error .endOfString
  | fuel + 1, b :: rest =>
    if b == 0x22 then .ok rest
    else if b == 0x5c then
      match rest with
      | [] => .error .endOfString
      | e :: rest =>
        if e == 0x75 then
          match hexEscape rest with
          | .ok (_, rest) => skipString fuel rest
          | .error e => .error e
        else if (simpleEscape e).isSome then skipString fuel rest
        else .error .invalidEscape
    else if b < 0x20 then .error .controlCharacter
    else skipString fuel rest

def skipStringBody : Reading Unit := do
  let bytes ← get
  match skipString (bytes.length + 1) bytes with
  | .ok rest => set rest
  | .error e => throw e

def skipDigits : Reading Unit :=
  modify (·.dropWhile isDigit)

def skipExponent : Reading Unit := do
  drop
  if (← get).head? == some 0x2d || (← get).head? == some 0x2b then drop
  match (← get).head? with
  | some b => if isDigit b then skipDigits else throw .invalidNumber
  | none => throw .endOfValue

def skipNumber : Reading Unit := do
  let b ← next .endOfValue
  if b == 0x30 then
    if (← get).head?.any isDigit then throw .invalidNumber
  else if isDigit b then skipDigits
  else throw .invalidNumber
  if (← get).head? == some 0x2e then
    drop
    match (← get).head? with
    | some b => if isDigit b then skipDigits else throw .invalidNumber
    | none => throw .endOfValue
  if (← get).head?.any isExponentMark then skipExponent

def skipScalar : Reading (Option UInt8) := do
  match ← peek with
  | none => throw .endOfValue
  | some b =>
    if b == 0x22 then do drop; skipStringBody; return none
    else if b == 0x5b || b == 0x7b then do drop; return some b
    else if b == 0x2d then do drop; skipNumber; return none
    else if isDigit b then do skipNumber; return none
    else if b == 0x6e then do drop; word ull; return none
    else if b == 0x74 then do drop; word rue; return none
    else if b == 0x66 then do drop; word alse; return none
    else throw .expectedValue

/-- Closes lists and objects until one goes on; `enclosing` holds their marks, the innermost first, and
`comma` says whether an item has just been read. -/
def skipClosings (comma : Bool) : List UInt8 → Reading (List UInt8)
  | [] => return []
  | mark :: outer => do
    match ← peek with
    | none => throw (if mark == 0x5b then .endOfList else .endOfObject)
    | some b =>
      if b == 0x2c && comma then do drop; return mark :: outer
      else if (b == 0x5d && mark == 0x5b) || (b == 0x7d && mark == 0x7b) then do
        drop
        skipClosings true outer
      else if comma then throw (if mark == 0x5b then .expectedListEnd else .expectedObjectEnd)
      else return mark :: outer

def skipKey : Reading Unit := do
  match ← peek with
  | none => throw .endOfObject
  | some b =>
    if b == 0x22 then do drop; skipStringBody; colon
    else throw .keyNotString

def skipFrom (enclosing : List UInt8) : (fuel : Nat) → Reading Unit
  | 0 => throw .endOfValue
  | fuel + 1 => do
    let open? ← skipScalar
    let enclosing ← match open? with
      | some mark => skipClosings false (mark :: enclosing)
      | none => skipClosings true enclosing
    match enclosing with
    | [] => return ()
    | mark :: _ => do
      if mark == 0x7b then skipKey
      skipFrom enclosing fuel

def skip : Reading Unit := do
  skipFrom [] (← fuel)

def eachField {σ : Type} (field : String → σ → Reading σ) (first : Bool) (s : σ) : (fuel : Nat) → Reading σ
  | 0 => throw .endOfObject
  | fuel + 1 => do
    if ← hasKey first then do
      drop
      let key ← stringBody
      let s ← field key s
      eachField field false s fuel
    else return s

def once (name : String) (seen : Option α) (r : Reading α) : Reading (Option α) := do
  if seen.isSome then throw (.duplicateField name)
  colon
  return some (← r)

def item (first : Bool) (r : Reading α) : Reading (Option α) := do
  if ← hasItem first then return some (← r) else return none

def record (name : String) (ofObject ofList : Reading α) : Reading α := do
  match ← peek with
  | none => throw .endOfValue
  | some b =>
    if b == 0x5b then do
      drop
      let a ← ofList
      listEnd
      return a
    else if b == 0x7b then do
      drop
      let a ← ofObject
      drop
      return a
    else mismatch ("struct " ++ name)

end BoundedScript.Json.Reading
