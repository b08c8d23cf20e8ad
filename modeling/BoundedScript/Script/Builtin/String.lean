import BoundedScript.Script.Builtin.Array
import BoundedScript.Script.Builtin.Primitive

set_option autoImplicit false

namespace BoundedScript.Script.StringObject

open Run

def statics : FunctionTable StringFn :=
  [("fromCharCode", .fromCharCode, 1), ("fromCodePoint", .fromCodePoint, 1), ("raw", .raw, 1)]

def methods : FunctionTable StringFn :=
  [("at", .at, 1), ("charCodeAt", .charCodeAt, 1), ("charAt", .charAt, 1), ("concat", .concat, 1),
   ("codePointAt", .codePointAt, 1), ("isWellFormed", .isWellFormed, 0),
   ("toWellFormed", .toWellFormed, 0), ("indexOf", .indexOf, 1), ("lastIndexOf", .lastIndexOf, 1),
   ("includes", .includes, 1), ("endsWith", .endsWith, 1), ("startsWith", .startsWith, 1),
   ("match", .match, 1), ("matchAll", .matchAll, 1), ("search", .search, 1), ("split", .split, 2),
   ("substring", .substring, 2), ("substr", .substr, 2), ("slice", .slice, 2), ("repeat", .repeat, 1),
   ("replace", .replace, 2), ("replaceAll", .replaceAll, 2), ("padEnd", .padEnd, 1),
   ("padStart", .padStart, 1), ("trim", .trim, 0), ("trimEnd", .trimEnd, 0),
   ("trimStart", .trimStart, 0), ("toString", .toString, 0), ("valueOf", .toString, 0),
   ("toLowerCase", .toLowerCase, 0), ("toUpperCase", .toUpperCase, 0),
   ("toLocaleLowerCase", .toLowerCase, 0), ("toLocaleUpperCase", .toUpperCase, 0),
   ("localeCompare", .localeCompare, 1), ("normalize", .normalize, 0)]

structure Matched where
  text : Units
  first : Nat
  last : Nat
  groups : List Value
  named : Value

def groupNumber (u : Units) (i count : Nat) : Option (Nat × Nat) :=
  let digit (j : Nat) : Option Nat := do
    let c ← u[j]?
    if Units.isDigit c then some (c.toNat - 0x30) else none
  match digit i, digit (i + 1) with
  | some a, some b =>
    let n := a * 10 + b
    if 1 ≤ n && n ≤ count then some (n, 2) else if 1 ≤ a && a ≤ count then some (a, 1) else none
  | some a, none => if 1 ≤ a && a ≤ count then some (a, 1) else none
  | none, _ => none

section
variable (E : Engine)

def groupText (v : Value) : Run Units := do
  if v.isUndefined then return #[] else toUnits E v

def substitute (m : Matched) (replacement : Units) (i : Nat) (out : Units) : (fuel : Nat) → Run Units
  | 0 => return out
  | fuel + 1 => do
    match replacement[i]? with
    | none => return out
    | some c =>
      let literal := substitute m replacement (i + 1) (out.push c) fuel
      if c != 0x24 then literal
      else
        match replacement[i + 1]? with
        | some 0x24 => substitute m replacement (i + 2) (out.push 0x24) fuel
        | some 0x26 => substitute m replacement (i + 2) (out ++ m.text.extract m.first m.last) fuel
        | some 0x60 => substitute m replacement (i + 2) (out ++ m.text.extract 0 m.first) fuel
        | some 0x27 => substitute m replacement (i + 2) (out ++ m.text.extract m.last m.text.size) fuel
        | some 0x3c =>
          if m.named.isUndefined then literal
          else match replacement.indexOf? #[0x3e] (i + 2) with
            | none => literal
            | some close =>
              let v ← getValue E m.named (.ofUnits (replacement.extract (i + 2) close))
              substitute m replacement (close + 1) (out ++ (← groupText E v)) fuel
        | _ =>
          match groupNumber replacement (i + 1) m.groups.length with
          | some (n, width) =>
            let u ← groupText E (m.groups[n - 1]?.getD .undefined)
            substitute m replacement (i + 1 + width) (out ++ u) fuel
          | none => literal

def expand (m : Matched) (replacement : Units) : Run Units :=
  substitute E m replacement 0 #[] (replacement.size + 1)

def thisText (this : Value) : Run Units := do
  if this.isNullish then typeError "null or undefined are forbidden"
  toUnits E this

def isRegExp (v : Value) : Run Bool := do
  match v with
  | .object a =>
    let m ← getOf E a WellKnown.match.key
    if !m.isUndefined then return toBool m
    match ← kindOf a with
    | .regexp _ _ _ => return true
    | _ => return false
  | _ => return false

def plainArg (v : Value) : Run Units := do
  if ← isRegExp E v then typeError "regexp not supported"
  toUnits E v

def make (args : Array Value) (newTarget : Option Value) : Run Value := do
  let u ← match args.isEmpty, arg args 0, newTarget with
    | true, _, _ => pure #[]
    | _, .symbol id, none =>
      match ← SymbolFn.textOf id with
      | .string u => pure u
      | _ => pure #[]
    | _, v, _ => toUnits E v
  wrapped E (.string u) (.string u) newTarget .stringPrototype

def fromCharCodes (args : Array Value) : Run Value := do
  let mut out : Units := #[]
  for v in args do
    out := out.push (Number.toWord 16 (← toNumber E v)).toUInt16
  return .string out

def fromCodePoints (args : Array Value) : Run Value := do
  let mut out : Units := #[]
  for v in args do
    match Number.toNat? (← toNumber E v) with
    | some n =>
      if 0x10ffff < n then rangeError "invalid code point"
      out := out ++ Units.ofCode n
    | none => rangeError "invalid code point"
  return .string out

def raw (args : Array Value) : Run Value := do
  let cooked ← toObject (arg args 0)
  let source ← toObject (← getOf E cooked (.ofString "raw"))
  let n ← lengthOf E source
  let mut out : Units := #[]
  for i in [0:n] do
    out := out ++ (← toUnits E (← getOf E source (.index i)))
    if i + 1 < n && i + 1 < args.size then out := out ++ (← toUnits E (arg args (i + 1)))
  return .string out

def placeIn (u : Units) (v : Value) : Run (Option Nat) := do
  match Number.toNat? (← toInteger E v) with
  | some i => return if i < u.size then some i else none
  | none => return none

def charAt (u : Units) (i : Option Nat) (missing : Value) : Value :=
  match i with
  | some i => .string (u.extract i (i + 1))
  | none => missing

def itemAt (u : Units) (v : Value) : Run Value := do
  let x ← toInteger E v
  let i := if x < 0.0 then Double.ofWhole u.size + x else x
  return charAt u ((Number.toNat? i).filter (· < u.size)) .undefined

def concat (u : Units) (args : Array Value) : Run Value := do
  let mut out := u
  for v in args do
    out ← checkString (out ++ (← toUnits E v))
  return .string out

def clampedPlace (v : Value) (n default_ : Nat) : Run Nat := do
  if v.isUndefined then return default_
  return Number.clampNat (← toInteger E v) n

def indexOf (u : Units) (args : Array Value) : Run Value := do
  let part ← toUnits E (arg args 0)
  let i ← clampedPlace E (arg args 1) u.size 0
  match u.indexOf? part i with
  | some i => return .nat i
  | none => return .number (-1.0)

def lastIndexOf (u : Units) (args : Array Value) : Run Value := do
  let part ← toUnits E (arg args 0)
  let x ← toNumber E (arg args 1)
  let i := if x.isNaN then u.size else Number.clampNat x u.size
  match u.lastIndexOf? part i with
  | some i => return .nat i
  | none => return .number (-1.0)

def includes (u : Units) (args : Array Value) : Run Value := do
  let part ← plainArg E (arg args 0)
  return .bool (u.indexOf? part (← clampedPlace E (arg args 1) u.size 0)).isSome

def startsWith (u : Units) (args : Array Value) : Run Value := do
  let part ← plainArg E (arg args 0)
  return .bool (u.matchesAt part (← clampedPlace E (arg args 1) u.size 0))

def endsWith (u : Units) (args : Array Value) : Run Value := do
  let part ← plainArg E (arg args 0)
  let last ← clampedPlace E (arg args 1) u.size u.size
  return .bool (part.size ≤ last && u.matchesAt part (last - part.size))

def substring (u : Units) (args : Array Value) : Run Value := do
  let a ← clampedPlace E (arg args 0) u.size 0
  let b ← clampedPlace E (arg args 1) u.size u.size
  return .string (u.extract (min a b) (max a b))

def slice (u : Units) (args : Array Value) : Run Value := do
  let a ← ArrayObject.placeOfArg E (arg args 0) u.size 0
  let b ← ArrayObject.placeOfArg E (arg args 1) u.size u.size
  return .string (u.extract a b)

def substr (u : Units) (args : Array Value) : Run Value := do
  let a ← ArrayObject.placeOfArg E (arg args 0) u.size 0
  let n ← clampedPlace E (arg args 1) (u.size - a) (u.size - a)
  return .string (u.extract a (a + n))

def repeated (u : Units) (v : Value) : Run Value := do
  let x ← toInteger E v
  if x < 0.0 || 2147483647.0 < x then rangeError "invalid repeat count"
  let n := x.toUInt64.toNat
  if maxString < n * u.size then rangeError "invalid string length"
  if 65536 ≤ n * u.size then checkBytes (if u.isNarrow then n * u.size else 2 * n * u.size)
  ticks (n * u.size / 64)
  return .string (if u.isEmpty then #[] else u.repeated n)

def padding (u : Units) (args : Array Value) : Run (Option Units) := do
  let length ← toLength E (arg args 0)
  if length ≤ u.size then return none
  let filler : Units ← if (arg args 1).isUndefined then pure #[0x20] else toUnits E (arg args 1)
  if filler.isEmpty then return none
  if maxString < length then rangeError "invalid string length"
  checkBytes (if u.isNarrow && filler.isNarrow then length else 2 * length)
  let n := length - u.size
  ticks (n / 64)
  return some ((filler.repeated (n / filler.size + 1)).extract 0 n)

def padStart (u : Units) (args : Array Value) : Run Value := do
  match ← padding E u args with
  | some p => return .string (p ++ u)
  | none => return .string u

def padEnd (u : Units) (args : Array Value) : Run Value := do
  match ← padding E u args with
  | some p => return .string (u ++ p)
  | none => return .string u

def isWellFormed (u : Units) : Bool :=
  !u.codes.any Units.isLone

def toWellFormed (u : Units) : Units :=
  Units.ofCodes (u.codes.toList.map fun n => if Units.isLone n then 0xfffd else n)

def compareCodes : List Nat → List Nat → Int
  | [], [] => 0
  | [], _ :: _ => -1
  | _ :: _, [] => 1
  | a :: as, b :: bs => if a == b then compareCodes as bs else (a : Int) - b

def normalize (u : Units) (form : Value) : Run Value := do
  if !form.isUndefined then
    let name := (← toUnits E form).toTextLossy
    if !(["NFC", "NFD", "NFKC", "NFKD"].contains name) then rangeError "bad normalization form"
  return .string u

def newRegExpOf (pattern flags : Value) : Run Value :=
  E.construct Intrinsic.regexpMaker.value #[pattern, flags] Intrinsic.regexpMaker.value

def patternMethod (pattern : Value) (w : WellKnown) : Run (Option Value) := do
  if pattern.isNullish then return none else getMethod E pattern w.key

-- Hands the work to the pattern, or to an expression made of it.
def viaPattern (this pattern : Value) (w : WellKnown) (flags : Value) : Run Value := do
  if this.isNullish then typeError "cannot convert to object"
  match ← patternMethod E pattern w with
  | some f => E.call f pattern #[this]
  | none =>
    let u ← toUnits E this
    let re ← newRegExpOf E pattern flags
    invoke E re w.key #[.string u]

-- An expression that goes over a whole text must say so.
def needGlobal (pattern : Value) : Run Unit := do
  if ← isRegExp E pattern then
    let flags ← getValue E pattern (.ofString "flags")
    if flags.isNullish then typeError "cannot convert to object"
    if !(← toUnits E flags).contains 0x67 then typeError "regexp must have the 'g' flag"

def replacementFor (text part : Units) (replacement : Value ⊕ Units) (i : Nat) : Run Units := do
  match replacement with
  | .inl f => toUnits E (← E.call f .undefined #[.string part, .nat i, .string text])
  | .inr r => expand E ⟨text, i, i + part.size, [], .undefined⟩ r

def replaceFrom (text part : Units) (replacement : Value ⊕ Units) (all : Bool) :
    (at_ copied : Nat) → (out : Units) → (fuel : Nat) → Run Units
  | _, copied, out, 0 => return out ++ text.extract copied text.size
  | at_, copied, out, fuel + 1 => do
    match text.indexOf? part at_ with
    | none => return out ++ text.extract copied text.size
    | some i =>
      let r ← replacementFor E text part replacement i
      let out ← checkString (out ++ text.extract copied i ++ r)
      let last := i + part.size
      if all then replaceFrom text part replacement all (max last (i + 1)) last out fuel
      else return out ++ text.extract last text.size

def replace (this : Value) (args : Array Value) (all : Bool) : Run Value := do
  if this.isNullish then typeError "cannot convert to object"
  let pattern := arg args 0
  let replacement := arg args 1
  if all then needGlobal E pattern
  match ← patternMethod E pattern .replace with
  | some f => E.call f pattern #[this, replacement]
  | none =>
    let text ← toUnits E this
    let part ← toUnits E pattern
    let r ← if ← isCallable replacement then pure (.inl replacement) else Sum.inr <$> toUnits E replacement
    return .string (← replaceFrom E text part r all 0 0 #[] (text.size + 2))

def pieces (text separator : Units) (limit : Nat) : (first : Nat) → (acc : Array Value) → (fuel : Nat) →
    Array Value
  | _, acc, 0 => acc
  | first, acc, fuel + 1 =>
    if limit ≤ acc.size then acc
    else match text.indexOf? separator first with
      | none => acc.push (.string (text.extract first text.size))
      | some i => pieces text separator limit (i + separator.size) (acc.push (.string (text.extract first i))) fuel

def split (this : Value) (args : Array Value) : Run Value := do
  if this.isNullish then typeError "cannot convert to object"
  let separator := arg args 0
  match ← patternMethod E separator .split with
  | some f => E.call f separator #[this, arg args 1]
  | none =>
    let text ← toUnits E this
    let limit ← if (arg args 1).isUndefined then pure 0xffff_ffff else toUint32 E (arg args 1)
    let part ← toUnits E separator
    if limit == 0 then newArray #[]
    else if separator.isUndefined then newArray #[.string text]
    else
      ticks (text.size / 8)
      if part.isEmpty then newArray ((text.extract 0 limit).map fun c => .string #[c])
      else newArray (pieces text part limit 0 #[] (text.size + 2))

def thisString (this : Value) : Run Units := do
  match this with
  | .string u => return u
  | .object a =>
    match ← kindOf a with
    | .string u => return u
    | _ => typeError "not a string"
  | _ => typeError "not a string"

def runMethod (f : StringFn) (u : Units) (args : Array Value) : Run Value := do
  let v := arg args 0
  match f with
  | .at => itemAt E u v
  | .charAt => return charAt u (← placeIn E u v) (.string #[])
  | .charCodeAt =>
    match ← placeIn E u v with
    | some i => return .nat (u[i]?.getD 0).toNat
    | none => return .number Number.nan
  | .codePointAt =>
    match ← placeIn E u v with
    | some i => return .nat ((u.codeAt i).getD (0, 1)).1
    | none => return .undefined
  | .concat => concat E u args
  | .isWellFormed => return .bool (isWellFormed u)
  | .toWellFormed => return .string (toWellFormed u)
  | .indexOf => indexOf E u args
  | .lastIndexOf => lastIndexOf E u args
  | .includes => includes E u args
  | .startsWith => startsWith E u args
  | .endsWith => endsWith E u args
  | .substring => substring E u args
  | .slice => slice E u args
  | .substr => substr E u args
  | .repeat => repeated E u v
  | .padStart => padStart E u args
  | .padEnd => padEnd E u args
  | .trim => return .string u.trim
  | .trimStart => return .string u.trimStart
  | .trimEnd => return .string u.trimEnd
  | .toLowerCase => return .string (Units.ofCodes (Text.toLower u.codes.toList))
  | .toUpperCase => return .string (Units.ofCodes (Text.toUpper u.codes.toList))
  | .localeCompare =>
    let other ← toUnits E v
    return .number (Double.ofWhole (compareCodes u.codes.toList other.codes.toList))
  | .normalize => normalize E u v
  | .iterator =>
    return .object (← newOrdinary (some Intrinsic.stringIteratorPrototype.addr) (.stringIterator u 0))
  | _ => return .undefined

def run (f : StringFn) (this : Value) (args : Array Value) (newTarget : Option Value) : Run Value := do
  match f with
  | .make => make E args newTarget
  | .fromCharCode => fromCharCodes E args
  | .fromCodePoint => fromCodePoints E args
  | .raw => raw E args
  | .toString => return .string (← thisString this)
  | .match => viaPattern E this (arg args 0) .match .undefined
  | .matchAll =>
    needGlobal E (arg args 0)
    viaPattern E this (arg args 0) .matchAll (.text "g")
  | .search => viaPattern E this (arg args 0) .search .undefined
  | .replace => replace E this args false
  | .replaceAll => replace E this args true
  | .split => split E this args
  | f => runMethod E f (← thisText E this) args

end
end BoundedScript.Script.StringObject
