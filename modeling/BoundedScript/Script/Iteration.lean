import BoundedScript.Script.Engine

set_option autoImplicit false

namespace BoundedScript.Script

open Run

inductive Cursor where
  | array (a : Addr) (next : Nat)
  | string (u : Units) (next : Nat)
  | protocol (iterator next : Value)

section
variable (E : Engine)

def isArrayValues (f : Value) : Run Bool :=
  match f with
  | .object a => do
    match ← kindOf a with
    | .native (.array .values) => return true
    | _ => return false
  | _ => return false

def openCursor (v : Value) : Run Cursor := do
  match ← getMethod E v WellKnown.iterator.key with
  | none => typeError "value is not iterable"
  | some m =>
    match v with
    | .object a =>
      if (← isArray v) && (← isArrayValues m) then return .array a 0
      else protocolOf m
    | .string u =>
      match m with
      | .object f =>
        match ← kindOf f with
        | .native (.string .iterator) => return .string u 0
        | _ => protocolOf m
      | _ => protocolOf m
    | _ => protocolOf m
where
  protocolOf (m : Value) : Run Cursor := do
    let iterator ← E.call m v #[]
    if !iterator.isObject then typeError "not an object"
    return .protocol iterator (← getValue E iterator nextKey)

def stepCursor (c : Cursor) : Run (Option (Value × Cursor)) := do
  tick
  match c with
  | .array a i =>
    match ← kindOf a with
    | .array items length _ =>
      if length ≤ i then return none
      else match items[i]? with
        | some (some v) => return some (v, .array a (i + 1))
        | _ => return some (← getOf E a (.index i), .array a (i + 1))
    | _ => return none
  | .string u i =>
    match u.codeAt i with
    | none => return none
    | some (_, n) => return some (.string (u.extract i (i + n)), .string u (i + n))
  | .protocol iterator next =>
    let r ← E.call next iterator #[]
    match r with
    | .object a =>
      if toBool (← getOf E a doneKey) then return none
      else return some (← getOf E a valueKey, c)
    | _ => typeError "iterator must return an object"

def closeCursor (c : Cursor) : Run Unit := do
  match c with
  | .protocol iterator _ =>
    match ← getMethod E iterator returnKey with
    | some f =>
      let r ← E.call f iterator #[]
      if !r.isObject then typeError "not an object"
    | none => return ()
  | _ => return ()

-- Closes after a failure, which wins over any failure of the closing.
def closeQuietly (c : Cursor) : Run Unit := do
  let _ ← attempt (closeCursor E c)

def iterate {σ β : Type} (v : Value) (s : σ) (step : σ → Value → Run (σ ⊕ β)) : Run (σ ⊕ β) := do
  let c ← openCursor E v
  loop (fun (acc : σ × Cursor) => do
    match ← stepCursor E acc.2 with
    | none => return .inr (.inl acc.1)
    | some (item, c) =>
      match ← attempt (step acc.1 item) with
      | .ok (.inl s) => return .inl (s, c)
      | .ok (.inr b) =>
        closeCursor E c
        return .inr (.inr b)
      | .error (.thrown e) =>
        closeQuietly E c
        throw (.thrown e)
      | .error e => throw e) (s, c) manyRounds

def collect (v : Value) : Run (Array Value) := do
  let c ← openCursor E v
  loop (fun (acc : Array Value × Cursor) => do
    match ← stepCursor E acc.2 with
    | none => return .inr acc.1
    | some (item, c) =>
      checkItems acc.1.size
      return .inl (acc.1.push item, c)) (#[], c) manyRounds

def listItems (v : Value) : Run (Array Value) := do
  match v with
  | .object a =>
    let n ← lengthOf E a
    loop (fun (acc : Array Value) => do
      if n ≤ acc.size then return .inr acc
      return .inl (acc.push (← getOf E a (.index acc.size)))) #[] manyRounds
  | _ => typeError "not an object"

def stepResult (v : Value) (done : Bool) : Run Value := do
  let a ← newPlain
  putOwn a valueKey (.plain v)
  putOwn a doneKey (.plain (.bool done))
  return .object a

end

end BoundedScript.Script
