import BoundedScript.Script.Number
import BoundedScript.Script.Value

set_option autoImplicit false

namespace BoundedScript.Script

namespace Run

variable {α : Type}

def throwValue (v : Value) : Run α :=
  throw (.thrown v)

def attempt (x : Run α) : Run (Except Abrupt α) := fun s =>
  match x s with
  | .ok a s => .ok (.ok a) s
  | .error e s => .ok (.error e) s

def tick : Run Unit := fun s =>
  if s.steps == 0 then .error .interrupted s else .ok () { s with steps := s.steps - 1 }

def ticks (n : Nat) : Run Unit := fun s =>
  if s.steps < n then .error .interrupted { s with steps := 0 }
  else .ok () { s with steps := s.steps - n }

-- More rounds than any deadline leaves.
def manyRounds : Nat := 0x1_0000_0000_0000

def loop {β : Type} (step : α → Run (α ⊕ β)) (a : α) : (fuel : Nat) → Run β
  | 0 => throw .interrupted
  | fuel + 1 => do
    tick
    match ← step a with
    | .inl a => loop step a fuel
    | .inr b => return b

end Run

open Run

-- What an interpreter needs for itself before a script starts.
def heapFloor : Nat := 80000

def ErrorClass.prototype : ErrorClass → Intrinsic
  | .error => .errorPrototype
  | .evalError => .evalErrorPrototype
  | .rangeError => .rangeErrorPrototype
  | .referenceError => .referenceErrorPrototype
  | .syntaxError => .syntaxErrorPrototype
  | .typeError => .typeErrorPrototype
  | .uriError => .uriErrorPrototype
  | .internalError => .internalErrorPrototype
  | .aggregateError => .aggregateErrorPrototype

def ErrorClass.name : ErrorClass → String
  | .error => "Error"
  | .evalError => "EvalError"
  | .rangeError => "RangeError"
  | .referenceError => "ReferenceError"
  | .syntaxError => "SyntaxError"
  | .typeError => "TypeError"
  | .uriError => "URIError"
  | .internalError => "InternalError"
  | .aggregateError => "AggregateError"

def alloc (o : Obj) : Run Addr := fun s =>
  .ok s.heap.size { s with heap := s.heap.push o }

def getObj (a : Addr) : Run Obj := fun s =>
  .ok (s.heap[a]?.getD default) s

def modifyObj (a : Addr) (f : Obj → Obj) : Run Unit := fun s =>
  .ok () { s with heap := s.heap.modify a f }

def kindOf (a : Addr) : Run Kind := do
  return (← getObj a).kind

def newOrdinary (parent : Option Addr) (kind : Kind) : Run Addr :=
  alloc ⟨parent, .empty, true, kind⟩

def newPlain : Run Addr :=
  newOrdinary (some Intrinsic.objectPrototype.addr) .ordinary

def newArray (items : Array Value) : Run Value := do
  let a ← newOrdinary (some Intrinsic.arrayPrototype.addr) (.array (items.map some) items.size false)
  return .object a

-- The place in the text that errors of running code point to, one line for each call.
def runStack : String := "    at <anonymous> (script)\n"

def syntaxStack : String := "    at script\n"

def newError (c : ErrorClass) (message : String) (stack : String) : Run Value := do
  let props := PropTable.empty
    |>.insert (.ofString "message") (.hidden (.text message))
    |>.insert (.ofString "stack") (.hidden (.text stack))
  let a ← alloc ⟨some c.prototype.addr, props, true, .error⟩
  return .object a

def fail {α : Type} (c : ErrorClass) (message : String) : Run α := do
  throwValue (← newError c message runStack)

def typeError {α : Type} (message : String) : Run α :=
  fail .typeError message

def rangeError {α : Type} (message : String) : Run α :=
  fail .rangeError message

def syntaxError {α : Type} (message : String) : Run α := do
  throwValue (← newError .syntaxError message syntaxStack)

-- A thing of so many bytes must fit the heap.
def checkBytes (n : Nat) : Run Unit := do
  let limit := (← get).heapLimit
  if limit != 0 && limit < n + heapFloor then fail .internalError "out of memory"

def maxString : Nat := 0x3fff_ffff

def checkString (u : Units) : Run Units := do
  if maxString < u.size then fail .internalError "invalid string length"
  if 65536 ≤ u.size then checkBytes (if u.isNarrow then u.size else 2 * u.size)
  return u

-- Items of an array take sixteen bytes each, and half as much again is kept free for growth.
def checkItems (count : Nat) : Run Unit :=
  if 4096 ≤ count then checkBytes (count * 24) else pure ()

def newCell (v : Option Value) : Run Nat := fun s =>
  .ok s.cells.size { s with cells := s.cells.push v }

def getCell (i : Nat) : Run (Option Value) := fun s =>
  .ok (s.cells[i]?).join s

def setCell (i : Nat) (v : Value) : Run Unit := fun s =>
  .ok () { s with cells := s.cells.setIfInBounds i (some v) }

def describeKey (k : PropKey) : Run String := do
  return k.describe (← get).symbols

def lengthKey : PropKey := .name (Units.ofString "length")
def nameKey : PropKey := .name (Units.ofString "name")
def prototypeKey : PropKey := .name (Units.ofString "prototype")
def constructorKey : PropKey := .name (Units.ofString "constructor")
def messageKey : PropKey := .name (Units.ofString "message")
def stackKey : PropKey := .name (Units.ofString "stack")
def valueKey : PropKey := .name (Units.ofString "value")
def doneKey : PropKey := .name (Units.ofString "done")
def nextKey : PropKey := .name (Units.ofString "next")
def returnKey : PropKey := .name (Units.ofString "return")
def toStringKey : PropKey := .name (Units.ofString "toString")
def valueOfKey : PropKey := .name (Units.ofString "valueOf")
def toJsonKey : PropKey := .name (Units.ofString "toJSON")
def indexKey : PropKey := .name (Units.ofString "index")
def lastIndexKey : PropKey := .name (Units.ofString "lastIndex")

namespace Obj

def own? (o : Obj) (k : PropKey) : Option Property :=
  match o.kind with
  | .array items length lengthFixed =>
    match k with
    | .index n =>
      match items[n]? with
      | some item => item.map .plain
      | none => o.props.get? k
    | k =>
      if k == lengthKey then some ⟨.data (.nat length) (!lengthFixed), false, false⟩ else o.props.get? k
  | .string u =>
    match k with
    | .index n =>
      match u[n]? with
      | some c => some ⟨.data (.string #[c]) false, true, false⟩
      | none => o.props.get? k
    | k => if k == lengthKey then some (.fixed (.nat u.size)) else o.props.get? k
  | _ => o.props.get? k

def ownKeys (o : Obj) : List PropKey :=
  match o.kind with
  | .array items _ _ =>
    let present := (List.range items.size).filterMap fun i =>
      match items[i]? with
      | some (some _) => some (PropKey.index i)
      | _ => none
    let (indices, rest) := o.props.keys.partition PropTable.isIndex
    let (names, symbols) := rest.partition fun k => match k with
      | .symbol _ => false
      | _ => true
    present ++ indices ++ [lengthKey] ++ names ++ symbols
  | .string u =>
    let (indices, rest) := o.props.keys.partition PropTable.isIndex
    (List.range u.size).map .index ++ indices ++ [lengthKey] ++ rest
  | _ => o.props.keys

def put (o : Obj) (k : PropKey) (p : Property) : Obj :=
  { o with props := o.props.insert k p }

-- Moves the items of an array among its properties, where each can have its own rights.
def spreadItems (o : Obj) : Obj :=
  match o.kind with
  | .array items length lengthFixed =>
    let props := items.size.fold (fun i _ (t : PropTable) =>
      match items[i]? with
      | some (some v) => t.insert (.index i) (.plain v)
      | _ => t) o.props
    { o with props, kind := .array #[] length lengthFixed }
  | _ => o

end Obj

def maxParents : Nat := 10000

def Realm.find? (r : Realm) (a : Addr) (k : PropKey) : (fuel : Nat) → Option Property
  | 0 => none
  | fuel + 1 =>
    match r.heap[a]? with
    | none => none
    | some o =>
      match o.own? k with
      | some p => some p
      | none =>
        match o.parent with
        | some b => r.find? b k fuel
        | none => none

def find? (a : Addr) (k : PropKey) : Run (Option Property) := do
  return (← get).find? a k maxParents

def ownProperty? (a : Addr) (k : PropKey) : Run (Option Property) := do
  return (← getObj a).own? k

def hasProperty (a : Addr) (k : PropKey) : Run Bool := do
  return (← find? a k).isSome

def ownKeys (a : Addr) : Run (List PropKey) := do
  return (← getObj a).ownKeys

def setArrayLength (a : Addr) (length : Nat) : Run Bool := do
  let o ← getObj a
  match o.kind with
  | .array items _ lengthFixed =>
    if lengthFixed then return false
    else if length ≤ items.size then
      modifyObj a fun o => { o with kind := .array #[] length false }
      modifyObj a fun o => { o with
        props := (o.props.keys.filter PropTable.isIndex).foldl (fun t k => t.erase k) o.props
        kind := .array (items.extract 0 length) length false }
      return true
    else
      let late := o.props.keys.filter fun k => match k with
        | .index n => length ≤ n
        | _ => false
      -- An item that must stay keeps the array at least as long.
      let stuck := late.filter fun k => (o.props.get? k).any fun p => !p.configurable
      match stuck.getLast? with
      | some (.index n) =>
        modifyObj a fun o => { o with
          props := late.foldl (fun t k => match k with
            | .index m => if n < m then t.erase k else t
            | _ => t) o.props
          kind := .array items (n + 1) false }
        return false
      | _ =>
        modifyObj a fun o => { o with
          props := late.foldl (fun t k => t.erase k) o.props
          kind := .array items length false }
        return true
  | _ => return false

-- Gap that is filled with holes rather than kept apart.
def maxGap : Nat := 100000

def putItem (a : Addr) (n : Nat) (v : Value) : Run Unit := do
  let size ← (fun s => match s.heap[a]? with
    | some ⟨_, _, _, .array items _ _⟩ => .ok items.size s
    | _ => .ok 0 s : Run Nat)
  if size ≤ n && n < size + maxGap then checkItems (n + 1)
  modifyObj a fun o =>
    match o with
    | ⟨parent, props, extensible, .array items length lengthFixed⟩ =>
      if n < items.size then ⟨parent, props, extensible, .array (items.setIfInBounds n (some v)) length lengthFixed⟩
      else if n == items.size && props.entries.isEmpty then
        ⟨parent, props, extensible, .array (items.push (some v)) (max length (n + 1)) lengthFixed⟩
      else if n < items.size + maxGap && !(props.keys.any PropTable.isIndex) then
        let filled := (n - items.size).fold (fun _ _ (xs : Array (Option Value)) => xs.push none) items
        ⟨parent, props, extensible, .array (filled.push (some v)) (max length (n + 1)) lengthFixed⟩
      else
        ⟨parent, props.insert (.index n) (.plain v), extensible, .array items (max length (n + 1)) lengthFixed⟩
    | o => o

def putOwn (a : Addr) (k : PropKey) (p : Property) : Run Unit := do
  let o ← getObj a
  match o.kind, k, p with
  | .array _ _ _, .index n, ⟨.data v true, true, true⟩ => putItem a n v
  | .array items length lengthFixed, .index n, p =>
    if n < items.size then modifyObj a fun o => o.spreadItems.put k p
    else modifyObj a fun o => { o.put k p with kind := .array items (max length (n + 1)) lengthFixed }
  | _, k, p => modifyObj a fun o => o.put k p

def deleteOwn (a : Addr) (k : PropKey) : Run Bool := do
  let o ← getObj a
  match o.own? k with
  | none => return true
  | some p =>
    if !p.configurable then return false
    match o.kind, k with
    | .array items length lengthFixed, .index n =>
      if n < items.size then
        modifyObj a fun o => { o with kind := .array (items.setIfInBounds n none) length lengthFixed }
      else modifyObj a fun o => { o with props := o.props.erase k }
    | _, _ => modifyObj a fun o => { o with props := o.props.erase k }
    return true

structure Change where
  value : Option Value
  writable : Option Bool
  get : Option Value
  set : Option Value
  enumerable : Option Bool
  configurable : Option Bool

namespace Change

def ofProperty (p : Property) : Change :=
  match p.slot with
  | .data v w => ⟨some v, some w, none, none, some p.enumerable, some p.configurable⟩
  | .accessor g s => ⟨none, none, some g, some s, some p.enumerable, some p.configurable⟩

def isAccessor (c : Change) : Bool :=
  c.get.isSome || c.set.isSome

def isData (c : Change) : Bool :=
  c.value.isSome || c.writable.isSome

def fresh (c : Change) : Property :=
  let slot := if c.isAccessor then .accessor (c.get.getD .undefined) (c.set.getD .undefined)
    else .data (c.value.getD .undefined) (c.writable.getD false)
  ⟨slot, c.enumerable.getD false, c.configurable.getD false⟩

def apply (c : Change) (p : Property) : Property :=
  let slot := match p.slot with
    | .data v w =>
      if c.isAccessor then .accessor (c.get.getD .undefined) (c.set.getD .undefined)
      else .data (c.value.getD v) (c.writable.getD w)
    | .accessor g s =>
      if c.isData then .data (c.value.getD .undefined) (c.writable.getD false)
      else .accessor (c.get.getD g) (c.set.getD s)
  ⟨slot, c.enumerable.getD p.enumerable, c.configurable.getD p.configurable⟩

end Change

def sameValue : Value → Value → Bool
  | .undefined, .undefined => true
  | .null, .null => true
  | .bool a, .bool b => a == b
  | .number a, .number b => if a.isNaN then b.isNaN else a.toBits == b.toBits
  | .bigint a, .bigint b => a == b
  | .string a, .string b => a == b
  | .symbol a, .symbol b => a == b
  | .object a, .object b => a == b
  | _, _ => false

def strictEqual : Value → Value → Bool
  | .number a, .number b => a == b
  | a, b => sameValue a b

-- As `===`, but a value that is not a number equals itself.
def sameMember : Value → Value → Bool
  | .number a, .number b => a == b || (a.isNaN && b.isNaN)
  | a, b => sameValue a b

def Change.admitted (c : Change) (p : Property) : Bool :=
  if p.configurable then true
  else if c.configurable == some true then false
  else if c.enumerable.any (· != p.enumerable) then false
  else match p.slot with
    | .data v w =>
      if c.isAccessor then false
      else if w then true
      else c.writable != some true && c.value.all (sameValue v)
    | .accessor g s =>
      if c.isData then false
      else c.get.all (sameValue g) && c.set.all (sameValue s)

def defineOwn (a : Addr) (k : PropKey) (c : Change) : Run Bool := do
  let o ← getObj a
  match o.own? k with
  | none =>
    if !o.extensible then return false
    match o.kind, k with
    | .array _ length true, .index n => if length ≤ n then return false
    | _, _ => pure ()
    putOwn a k c.fresh
    return true
  | some p =>
    if !c.admitted p then return false
    match o.kind with
    | .array items length lengthFixed =>
      if k == lengthKey then
        let done ← match c.value with
          | some (.number x) =>
            match Number.toNat? x with
            | some n => if n == length then pure true else if lengthFixed then pure false else setArrayLength a n
            | none => pure true
          | _ => pure true
        if c.writable == some false then
          modifyObj a fun o => match o.kind with
            | .array items length _ => { o with kind := .array items length true }
            | _ => o
        return done
      else match k with
        | .index n =>
          if n < items.size then putOwn a k (c.apply p)
          else modifyObj a fun o => o.put k (c.apply p)
          return true
        | k =>
          modifyObj a fun o => o.put k (c.apply p)
          return true
    | .string u =>
      match k with
      | .index n => if n < u.size then return true
      | _ => if k == lengthKey then return true
      modifyObj a fun o => o.put k (c.apply p)
      return true
    | _ =>
      modifyObj a fun o => o.put k (c.apply p)
      return true

def createData (a : Addr) (k : PropKey) (v : Value) : Run Bool :=
  defineOwn a k (.ofProperty (.plain v))

end BoundedScript.Script
