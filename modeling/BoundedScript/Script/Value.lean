import Std.Data.HashMap
import BoundedScript.Decimal.Binary
import BoundedScript.Script.Builtin
import BoundedScript.Script.RegExp.Basic
import BoundedScript.Script.Syntax

set_option autoImplicit false

namespace BoundedScript.Script

abbrev Addr := Nat

inductive Value where
  | undefined
  | null
  | bool (b : Bool)
  | number (x : Float)
  | bigint (n : Int)
  | string (u : Units)
  | symbol (id : Nat)
  | object (a : Addr)
  deriving Inhabited

namespace Value

def text (s : String) : Value :=
  .string (Units.ofString s)

def nat (n : Nat) : Value :=
  .number (Double.ofWhole n)

def isUndefined : Value → Bool
  | .undefined => true
  | _ => false

def isNullish : Value → Bool
  | .undefined | .null => true
  | _ => false

def isObject : Value → Bool
  | .object _ => true
  | _ => false

def ofAddr? : Option Addr → Value
  | some a => .object a
  | none => .null

end Value

/-- The name of a property. Whole numbers that may index an array are a kind of their own. -/
inductive PropKey where
  | index (n : Nat)
  | name (u : Units)
  | symbol (id : Nat)
  deriving DecidableEq, Hashable

namespace PropKey

def indexOf? (u : Units) : Option Nat :=
  if u.size == 0 || 10 < u.size || !u.all Units.isDigit then none
  else if u[0]? == some 0x30 && u.size != 1 then none
  else
    let n := u.foldl (fun n d => n * 10 + (d.toNat - 0x30)) 0
    if n < 0xffff_ffff then some n else none

def ofUnits (u : Units) : PropKey :=
  match indexOf? u with
  | some n => .index n
  | none => .name u

def ofString (s : String) : PropKey :=
  ofUnits (Units.ofString s)

def toValue : PropKey → Value
  | .index n => .text (toString n)
  | .name u => .string u
  | .symbol id => .symbol id

def describe (symbols : Array (Option Units)) : PropKey → String
  | .index n => toString n
  | .name u => u.toTextLossy
  | .symbol id => match (symbols[id]?).join with
    | some u => u.toTextLossy
    | none => ""

end PropKey

inductive Slot where
  | data (value : Value) (writable : Bool)
  | accessor (get set : Value)
  deriving Inhabited

structure Property where
  slot : Slot
  enumerable : Bool
  configurable : Bool
  deriving Inhabited

namespace Property

def plain (v : Value) : Property :=
  ⟨.data v true, true, true⟩

def hidden (v : Value) : Property :=
  ⟨.data v true, false, true⟩

def fixed (v : Value) : Property :=
  ⟨.data v false, false, false⟩

def readable (v : Value) : Property :=
  ⟨.data v false, false, true⟩

end Property

structure PropTable where
  entries : Std.HashMap PropKey (Nat × Property)
  next : Nat

namespace PropTable

def empty : PropTable :=
  ⟨{}, 0⟩

def get? (t : PropTable) (k : PropKey) : Option Property :=
  (t.entries[k]?).map (·.2)

-- Stores a property; one that is there keeps its place.
def insert (t : PropTable) (k : PropKey) (p : Property) : PropTable :=
  match t.entries[k]? with
  | some (i, _) => { t with entries := t.entries.insert k (i, p) }
  | none => ⟨t.entries.insert k (t.next, p), t.next + 1⟩

def erase (t : PropTable) (k : PropKey) : PropTable :=
  { t with entries := t.entries.erase k }

def toList (t : PropTable) : List (PropKey × Property) :=
  ((t.entries.toList.mergeSort fun a b => a.2.1 ≤ b.2.1)).map fun (k, _, p) => (k, p)

def isIndex : PropKey → Bool
  | .index _ => true
  | _ => false

def keys (t : PropTable) : List PropKey :=
  if t.entries.isEmpty then []
  else
    let all := t.toList.map (·.1)
    let indices := all.filterMap fun k => match k with
      | .index n => some n
      | _ => none
    let names := all.filter fun k => match k with
      | .name _ => true
      | _ => false
    let symbols := all.filter fun k => match k with
      | .symbol _ => true
      | _ => false
    (indices.mergeSort (· ≤ ·)).map .index ++ names ++ symbols

end PropTable

structure Binding where
  name : String
  cell : Nat
  mutable : Bool

inductive ThisBinding where
  | value (v : Value)
  -- Not there until the parent class has made it.
  | pending (cell : Nat)

structure Env where
  vars : List Binding
  this : ThisBinding
  newTarget : Value
  home : Option Addr
  callee : Option Addr
  -- Names at the top of a script that live on the global object.
  isScript : Bool

structure Closure where
  fn : Function
  env : Env
  home : Option Addr
  fields : List (PropKey × Value)

inductive IterationKind where
  | keys | values | entries
  deriving DecidableEq

inductive MemberKey where
  | undefined
  | null
  | bool (b : Bool)
  | number (bits : UInt64)
  | bigint (n : Int)
  | string (u : Units)
  | symbol (id : Nat)
  | object (a : Addr)
  deriving DecidableEq, Hashable

def MemberKey.ofValue : Value → MemberKey
  | .undefined => .undefined
  | .null => .null
  | .bool b => .bool b
  | .number x =>
    if x == 0.0 then .number 0 else if x.isNaN then .number 0x7ff8000000000000 else .number x.toBits
  | .bigint n => .bigint n
  | .string u => .string u
  | .symbol id => .symbol id
  | .object a => .object a

/-- The members of a map or set in the order in which they came; a removed one leaves a gap. -/
structure Members where
  entries : Array (Option (Value × Value))
  places : Std.HashMap MemberKey Nat

namespace Members

def empty : Members :=
  ⟨#[], {}⟩

def get? (m : Members) (k : Value) : Option Value :=
  match m.places[MemberKey.ofValue k]? with
  | some i => ((m.entries[i]?).join).map (·.2)
  | none => none

def contains (m : Members) (k : Value) : Bool :=
  m.places.contains (MemberKey.ofValue k)

def insert (m : Members) (k v : Value) : Members :=
  match m.places[MemberKey.ofValue k]? with
  | some i =>
    match (m.entries[i]?).join with
    | some (k, _) => { m with entries := m.entries.setIfInBounds i (some (k, v)) }
    | none => m
  | none =>
    let k := match k with
      | .number x => if x == 0.0 then .number 0.0 else .number x
      | k => k
    ⟨m.entries.push (some (k, v)), m.places.insert (MemberKey.ofValue k) m.entries.size⟩

def erase (m : Members) (k : Value) : Members :=
  match m.places[MemberKey.ofValue k]? with
  | some i => ⟨m.entries.setIfInBounds i none, m.places.erase (MemberKey.ofValue k)⟩
  | none => m

-- Gaps for all members, so that those who walk through it find their place.
def clear (m : Members) : Members :=
  ⟨m.entries.map fun _ => none, {}⟩

def size (m : Members) : Nat :=
  m.places.size

end Members

inductive Kind where
  | ordinary
  -- Items below `items.size` are held here, later ones among the properties.
  | array (items : Array (Option Value)) (length : Nat) (lengthFixed : Bool)
  | closure (c : Closure)
  | native (f : Native)
  | bound (target receiver : Value) (args : List Value)
  | error
  | boolean (b : Bool)
  | number (x : Float)
  | string (u : Units)
  | symbol (id : Nat)
  | bigint (n : Int)
  | date (time : Float)
  | regexp (p : RegExp.Program) (source flags : Units)
  | map (m : Members)
  | set (m : Members)
  | arguments
  | arrayIterator (target : Value) (next : Nat) (kind : IterationKind)
  | stringIterator (u : Units) (next : Nat)
  | mapIterator (target : Addr) (next : Nat) (kind : IterationKind)
  | setIterator (target : Addr) (next : Nat) (kind : IterationKind)
  | matchIterator (expression : Value) (text : Units) (isGlobal isUnicode done : Bool)
  | generator
  | promise
  deriving Inhabited

structure Obj where
  parent : Option Addr
  props : PropTable
  extensible : Bool
  kind : Kind

instance : Inhabited Obj := ⟨⟨none, .empty, true, .ordinary⟩⟩

inductive Intrinsic where
  | global | objectPrototype | functionPrototype | arrayPrototype | stringPrototype | numberPrototype
  | booleanPrototype | symbolPrototype | bigintPrototype
  | errorPrototype | evalErrorPrototype | rangeErrorPrototype | referenceErrorPrototype
  | syntaxErrorPrototype | typeErrorPrototype | uriErrorPrototype | internalErrorPrototype
  | aggregateErrorPrototype
  | mapPrototype | setPrototype | regexpPrototype | datePrototype | promisePrototype
  | iteratorPrototype | arrayIteratorPrototype | stringIteratorPrototype | mapIteratorPrototype
  | setIteratorPrototype | matchIteratorPrototype
  | generatorPrototype | generatorFunctionPrototype | asyncFunctionPrototype
  | asyncGeneratorFunctionPrototype | asyncGeneratorPrototype
  | math | json | reflect
  | arrayMaker | promiseMaker | regexpMaker

namespace Intrinsic

def addr (i : Intrinsic) : Addr :=
  i.ctorIdx

def count : Nat :=
  regexpMaker.addr + 1

def value (i : Intrinsic) : Value :=
  .object i.addr

end Intrinsic

inductive WellKnown where
  | iterator | asyncIterator | hasInstance | toPrimitive | toStringTag | species | isConcatSpreadable
  | unscopables | match | matchAll | replace | search | split

namespace WellKnown

def all : List (WellKnown × String) :=
  [(.iterator, "iterator"), (.asyncIterator, "asyncIterator"), (.hasInstance, "hasInstance"),
   (.toPrimitive, "toPrimitive"), (.toStringTag, "toStringTag"), (.species, "species"),
   (.isConcatSpreadable, "isConcatSpreadable"), (.unscopables, "unscopables"), (.match, "match"),
   (.matchAll, "matchAll"), (.replace, "replace"), (.search, "search"), (.split, "split")]

def id (w : WellKnown) : Nat :=
  w.ctorIdx

def key (w : WellKnown) : PropKey :=
  .symbol w.id

end WellKnown

structure Realm where
  heap : Array Obj
  cells : Array (Option Value)
  symbols : Array (Option Units)
  registry : List (Units × Nat)
  callDepth : Nat
  steps : Nat
  -- Bytes that one thing may take; 0 for no bound.
  heapLimit : Nat

inductive Abrupt where
  | thrown (v : Value)
  -- The deadline; no handler sees it.
  | interrupted
  -- An optional link met nothing: its chain is undefined.
  | chainEnded
  -- An async function waits for good.
  | suspended

abbrev Run := EStateM Abrupt Realm

end BoundedScript.Script
