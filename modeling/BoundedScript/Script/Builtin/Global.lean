import BoundedScript.Script.Operator

set_option autoImplicit false

namespace BoundedScript.Script

open Run

abbrev FunctionTable (F : Type) := List (String × F × Nat)

namespace GlobalFn

def table : FunctionTable GlobalFn :=
  [("parseInt", .parseInt, 2), ("parseFloat", .parseFloat, 1), ("isNaN", .isNaN, 1),
   ("isFinite", .isFinite, 1), ("decodeURI", .decodeURI, 1),
   ("decodeURIComponent", .decodeURIComponent, 1), ("encodeURI", .encodeURI, 1),
   ("encodeURIComponent", .encodeURIComponent, 1)]

def isUnreserved (c : Nat) : Bool :=
  (0x30 ≤ c && c ≤ 0x39) || (0x41 ≤ c && c ≤ 0x5a) || (0x61 ≤ c && c ≤ 0x7a) ||
    "-_.!~*'()".toList.any (fun d => d.toNat == c)

def isReserved (c : Nat) : Bool :=
  ";/?:@&=+$,#".toList.any (fun d => d.toNat == c)

def hexUpper (n : Nat) : UInt16 :=
  (if n < 10 then 0x30 + n else 0x37 + n).toUInt16

def percent (b : Nat) : Units :=
  #[0x25, hexUpper (b / 16), hexUpper (b % 16)]

def utf8 (n : Nat) : List Nat :=
  if n < 0x80 then [n]
  else if n < 0x800 then [0xc0 + n / 0x40, 0x80 + n % 0x40]
  else if n < 0x10000 then [0xe0 + n / 0x1000, 0x80 + n / 0x40 % 0x40, 0x80 + n % 0x40]
  else [0xf0 + n / 0x40000, 0x80 + n / 0x1000 % 0x40, 0x80 + n / 0x40 % 0x40, 0x80 + n % 0x40]

def encode (keepReserved : Bool) (u : Units) : Run Value := do
  let mut out : Units := #[]
  for c in u.codes do
    if isUnreserved c || (keepReserved && isReserved c) then out := out.push c.toUInt16
    else if Units.isLone c then
      if c < 0xdc00 then fail .uriError "expecting surrogate pair" else fail .uriError "invalid character"
    else out := (utf8 c).foldl (fun o b => o ++ percent b) out
  return .string out

def percentAt (u : Units) (i : Nat) : Run Nat := do
  if u[i]? != some 0x25 then fail .uriError "expecting %"
  match u[i + 1]?, u[i + 2]? with
  | some a, some b =>
    if Number.digitOf a < 16 && Number.digitOf b < 16 then
      return Number.digitOf a * 16 + Number.digitOf b
    else fail .uriError "expecting hex digit"
  | _, _ => fail .uriError "expecting hex digit"

def leadBits (b : Nat) : Option (Nat × Nat × Nat) :=
  if 0xc0 ≤ b && b ≤ 0xdf then some (1, b % 0x20, 0x80)
  else if 0xe0 ≤ b && b ≤ 0xef then some (2, b % 0x10, 0x800)
  else if 0xf0 ≤ b && b ≤ 0xf7 then some (3, b % 8, 0x10000)
  else none

def continuation (u : Units) (i code : Nat) : (count : Nat) → Run (Option Nat)
  | 0 => return some code
  | count + 1 => do
    let b ← percentAt u i
    if b / 0x40 != 2 then return none
    continuation u (i + 3) (code * 0x40 + b % 0x40) count

def decodeFrom (u : Units) (keepReserved : Bool) (i : Nat) (out : Units) : (fuel : Nat) → Run Units
  | 0 => return out
  | fuel + 1 => do
    match u[i]? with
    | none => return out
    | some c =>
      if c != 0x25 then decodeFrom u keepReserved (i + 1) (out.push c) fuel
      else
        let b ← percentAt u i
        if b < 0x80 then
          if keepReserved && isReserved b then decodeFrom u keepReserved (i + 1) (out.push 0x25) fuel
          else decodeFrom u keepReserved (i + 3) (out.push b.toUInt16) fuel
        else
          match leadBits b with
          | none => fail .uriError "malformed UTF-8"
          | some (count, bits, least) =>
            match ← continuation u (i + 3) bits count with
            | none => fail .uriError "malformed UTF-8"
            | some n =>
              if n < least || 0x10ffff < n || Units.isLone n then fail .uriError "malformed UTF-8"
              decodeFrom u keepReserved (i + 3 + 3 * count) (out ++ Units.ofCode n) fuel

def run (E : Engine) (f : GlobalFn) (args : Array Value) : Run Value := do
  let a := arg args 0
  match f with
  | .parseInt =>
    let u ← toUnits E a
    return .number (Number.parseInt u (← toInt32 E (arg args 1)))
  | .parseFloat => return .number (Number.parseFloat (← toUnits E a))
  | .isNaN => return .bool (← toNumber E a).isNaN
  | .isFinite => return .bool (← toNumber E a).isFinite
  | .encodeURI => encode true (← toUnits E a)
  | .encodeURIComponent => encode false (← toUnits E a)
  | .decodeURI => do
    let u ← toUnits E a
    return .string (← decodeFrom u true 0 #[] (u.size + 1))
  | .decodeURIComponent => do
    let u ← toUnits E a
    return .string (← decodeFrom u false 0 #[] (u.size + 1))

end GlobalFn
end BoundedScript.Script
