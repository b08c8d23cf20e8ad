import BoundedScript.Json.Basic
import BoundedScript.Json.Reading

set_option autoImplicit false

namespace BoundedScript.Json

abbrev Decoder (α : Type) := Json → Except ReadError α

def found : Json → Found
  | .null => .null
  | .bool b => .bool b
  | .int n => .int n
  | .float x => .float x
  | .string s => .string s
  | .array _ => .sequence
  | .object _ => .map

namespace Decoder

variable {α : Type}

def mismatch (expected : String) (v : Json) : Except ReadError α :=
  .error (.invalidType v.found expected)

def string : Decoder String
  | .string s => .ok s
  | v => mismatch "a string" v

def bool : Decoder Bool
  | .bool b => .ok b
  | v => mismatch "a boolean" v

def int (name : String) (least greatest : Int) : Decoder Int
  | .int n => if least ≤ n && n ≤ greatest then .ok n else .error (.invalidValue (.int n) name)
  | v => mismatch name v

def int64 : Decoder Int :=
  int "i64" (-0x8000_0000_0000_0000) 0x7fff_ffff_ffff_ffff

def byte : Decoder Int :=
  int "u8" 0 255

def option (d : Decoder α) : Decoder (Option α)
  | .null => .ok none
  | v => (d v).map some

def list (d : Decoder α) : Decoder (List α)
  | .array items => items.mapM d
  | v => mismatch "a sequence" v

def map (d : Decoder α) : Decoder (List (String × α))
  | .object fields => fields.mapM fun (k, v) => (d v).map (k, ·)
  | v => mismatch "a map" v

def unit : Decoder Unit
  | .null => .ok ()
  | v => mismatch "unit" v

def choice (ofName : String → Except ReadError α) : Decoder α
  | .string s => ofName s
  | .object [(name, v)] => do
    let a ← ofName name
    unit v
    return a
  | .object _ => .error (.invalidValue .map "map with a single key")
  | v => mismatch "string or map" v

end Decoder
end BoundedScript.Json
