import BoundedScript.Json.Basic
import BoundedScript.Json.Reading

set_option autoImplicit false

namespace BoundedScript.Json

open Reading

def maxDepth : Nat := 127

def ofNumber : Reading.Number → Json
  | .int n => .int n
  | .float x => .float x

def valueWith (container : UInt8 → Reading Json) : Reading Json := do
  match ← peek with
  | none => throw .endOfValue
  | some b =>
    if b == 0x22 then do drop; return .string (← stringBody)
    else if b == 0x5b || b == 0x7b then container b
    else if b == 0x2d || isDigit b then return ofNumber (← signedNumber)
    else if b == 0x6e then do drop; word ull; return .null
    else if b == 0x74 then do drop; word rue; return .bool true
    else if b == 0x66 then do drop; word alse; return .bool false
    else throw .expectedValue

def value : (depth : Nat) → Reading Json
  | 0 => valueWith fun _ => throw .recursionLimit
  | depth + 1 => valueWith fun b => do
    drop
    if b == 0x5b then do
      let items ← itemsFrom (value depth) true [] (← fuel)
      drop
      return .array items
    else do
      let fields ← fieldsFrom (value depth) true [] (← fuel)
      drop
      return .ofFields fields

def read (bytes : Text.Bytes) : Except ReadError Json :=
  (value maxDepth).run bytes

def readText (s : String) : Except ReadError Json :=
  read (Text.bytesOf s)

end BoundedScript.Json
