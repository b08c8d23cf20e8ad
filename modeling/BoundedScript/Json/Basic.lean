set_option autoImplicit false

namespace BoundedScript

/-- A JSON value. The fields of an object stand in the order of their names, each name once. -/
inductive Json where
  | null
  | bool (b : Bool)
  | int (n : Int)
  | float (x : Float)
  | string (s : String)
  | array (items : List Json)
  | object (fields : List (String × Json))
  deriving Inhabited

namespace Json

def sortFields {α : Type} (fields : List (String × α)) : List (String × α) :=
  let rec dedup : List (String × α) → List (String × α)
    | (k, v) :: (k', v') :: rest =>
      if k == k' then dedup ((k', v') :: rest) else (k, v) :: dedup ((k', v') :: rest)
    | short => short
  dedup (fields.mergeSort fun a b => decide (a.1 ≤ b.1))

def ofFields (fields : List (String × Json)) : Json :=
  .object (sortFields fields)

def field? (name : String) : Json → Option Json
  | .object fields => (fields.find? (·.1 == name)).map (·.2)
  | _ => none

end Json
end BoundedScript
