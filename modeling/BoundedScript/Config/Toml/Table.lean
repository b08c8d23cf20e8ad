import BoundedScript.Config.Document

set_option autoImplicit false

namespace BoundedScript.Toml

inductive Origin where
  | stated | implied | dotted
  deriving DecidableEq

inductive Node where
  | value (d : Document)
  | table (origin : Origin) (fields : List (String × Node))
  -- One table for each header in double brackets.
  | tables (items : List (List (String × Node)))

abbrev Fields := List (String × Node)

def get? (name : String) (fields : Fields) : Option Node :=
  (fields.find? (·.1 == name)).map (·.2)

def put (name : String) (n : Node) : Fields → Fields
  | [] => [(name, n)]
  | (k, old) :: rest => if k == name then (k, n) :: rest else (k, old) :: put name n rest

def replaceLast (items : List Fields) (f : Fields → Option Fields) : Option (List Fields) :=
  match items.reverse with
  | [] => none
  | last :: before => (f last).map fun last => (last :: before).reverse

/-- Changes the table that a path leads to. Tables that are not there arise on the way; a dotted key must not
pass a table that has been stated, and nothing passes a value. -/
def descend (isDotted : Bool) (f : Origin → Fields → Option Fields) :
    List String → Origin → Fields → Option Fields
  | [], origin, fields => f origin fields
  | name :: path, _, fields =>
    match get? name fields with
    | none =>
      let origin := if isDotted then .dotted else .implied
      (descend isDotted f path origin []).map fun inner => fields ++ [(name, .table origin inner)]
    | some (.value _) => none
    | some (.tables items) =>
      (replaceLast items (descend isDotted f path .stated)).map fun items =>
        put name (.tables items) fields
    | some (.table origin inner) =>
      if isDotted && origin == .stated then none
      else (descend isDotted f path origin inner).map fun inner =>
        put name (.table origin inner) fields

-- States a name in a table; behind a dotted key only in a table that dotted keys made.
def stateAt (isDotted : Bool) (name : String) (d : Document) (origin : Origin) (fields : Fields) :
    Option Fields :=
  if (isDotted && origin != .dotted) || (get? name fields).isSome then none
  else some (fields ++ [(name, .value d)])

def assign (path : List String) (name : String) (d : Document) (fields : Fields) : Option Fields :=
  descend true (stateAt (!path.isEmpty) name d) path .stated fields

-- The table of a header in brackets: it is new, or was only implied so far.
def openTable (name : String) (_ : Origin) (fields : Fields) : Option Fields :=
  match get? name fields with
  | none => some (fields ++ [(name, .table .stated [])])
  | some (.table .implied inner) => some (put name (.table .stated inner) fields)
  | some _ => none

def openItem (name : String) (_ : Origin) (fields : Fields) : Option Fields :=
  match get? name fields with
  | none => some (fields ++ [(name, .tables [[]])])
  | some (.tables items) => some (put name (.tables (items ++ [[]])) fields)
  | some _ => none

mutual

def Node.toDocument : Node → Document
  | .value d => d
  | .table _ fields => .table (toEntries fields)
  | .tables items => .list false (toItems items)

def toEntries : Fields → List (String × Document)
  | [] => []
  | (k, n) :: rest => (k, n.toDocument) :: toEntries rest

def toItems : List Fields → List Document
  | [] => []
  | fields :: rest => .table (toEntries fields) :: toItems rest

end

end BoundedScript.Toml
