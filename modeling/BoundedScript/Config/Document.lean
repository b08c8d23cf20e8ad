import BoundedScript.Json.Basic

set_option autoImplicit false

namespace BoundedScript

/-- What a configuration states, before anybody knows which fields it has. A table may name a field twice. -/
inductive Document where
  | null
  | bool (b : Bool)
  | int (n : Int)
  -- A number with a fraction or exponent; it never stands for a count.
  | real (x : Float)
  -- A number that takes the form its field asks for. It is none when it is beyond every double, and
  -- `plain` says whether it can be passed over where no field asks for it.
  | loose (x : Option Float) (plain : Bool)
  | string (s : String)
  -- A list can stand for a record; when it is `exact` it must not be longer than the record.
  | list (exact : Bool) (items : List Document)
  | table (fields : List (String × Document))
  | date
  deriving Inhabited

namespace Document

mutual

def ofJson : Json → Document
  | .null => .null
  | .bool b => .bool b
  | .int n => .int n
  | .float x => .real x
  | .string s => .string s
  | .array items => .list true (ofItems items)
  | .object fields => .table (ofFields fields)

def ofItems : List Json → List Document
  | [] => []
  | v :: rest => ofJson v :: ofItems rest

def ofFields : List (String × Json) → List (String × Document)
  | [] => []
  | (k, v) :: rest => (k, ofJson v) :: ofFields rest

end

mutual

def passable : Document → Bool
  | .loose x plain => x.isSome && plain
  | .list _ items => passableItems items
  | .table fields => passableFields fields
  | _ => true

def passableItems : List Document → Bool
  | [] => true
  | v :: rest => passable v && passableItems rest

def passableFields : List (String × Document) → Bool
  | [] => true
  | (_, v) :: rest => passable v && passableFields rest

end

structure Field (σ : Type) where
  name : String
  set : Document → σ → Option σ
  reset : σ → σ

variable {σ α : Type}

def field (name : String) (read : Document → Option α) (default : α) (put : α → σ → σ) : Field σ :=
  ⟨name, fun d s => (read d).map fun a => put a s, put default⟩

def states (name : String) (entries : List (String × Document)) : Bool :=
  entries.any (·.1 == name)

-- Known fields are set once; unknown ones are passed over.
def setFields (fields : List (Field σ)) (s : σ) : List (String × Document) → Option σ
  | [] => some s
  | (name, d) :: rest =>
    match fields.find? (·.name == name) with
    | none => if d.passable then setFields fields s rest else none
    | some f =>
      if states name rest then none
      else (f.set d s).bind fun s => setFields fields s rest

def setInOrder (s : σ) : List (Field σ) → List Document → Option σ
  | f :: fields, d :: rest => (f.set d s).bind fun s => setInOrder s fields rest
  | _, _ => some s

-- Each field that is not stated gets a default of its own.
def fill (fields : List (Field σ)) (isStated : String → Bool) (s : σ) : σ :=
  fields.foldl (fun s f => if isStated f.name then s else f.reset s) s

/-- A record of the fields that a document states and the defaults of the others. It is made out of `s`, of
which nothing is left. -/
def record (fields : List (Field σ)) (s : σ) : Document → Option σ
  | .table entries => (setFields fields s entries).map (fill fields (states · entries))
  | .list exact items =>
    if exact && fields.length < items.length then none
    else (setInOrder s fields items).map (fill (fields.drop items.length) fun _ => false)
  -- A date and time is a table of one unknown field.
  | .date => some (fill fields (fun _ => false) s)
  | _ => none

def text? : Document → Option String
  | .string s => some s
  | _ => none

/-- A count: whole numbers below `2 ^ 64`. A loose number loses its fraction and goes to the nearest end when
it is out of range; what is no number counts as zero. -/
def word? : Document → Option UInt64
  | .int n => if 0 ≤ n && n < 0x1_0000_0000_0000_0000 then some n.toNat.toUInt64 else none
  | .loose (some x) _ => some x.toUInt64
  | _ => none

def optional (read : Document → Option α) : Document → Option (Option α)
  | .null => some none
  | d => (read d).map some

end Document
end BoundedScript
