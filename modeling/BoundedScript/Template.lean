import BoundedScript.Fault
import BoundedScript.Json.Basic

set_option autoImplicit false

namespace BoundedScript.Template

/-- What the expressions of a template are given to, one after the other: the text that stands for the
value, or why there is none. -/
abbrev Asking (m : Type → Type) := String → ExceptT Fault m String

abbrev Substitution := String → Except Fault String

def splitClose : List Char → Option (List Char × List Char)
  | [] => none
  | c :: rest =>
    match c, rest with
    | '\x7d', '\x7d' :: after => some ([], after)
    | _, _ => (splitClose rest).map fun (body, after) => (c :: body, after)

theorem splitClose_length {cs body after : List Char} (h : splitClose cs = some (body, after)) :
    after.length < cs.length := by
  fun_induction splitClose cs generalizing body with
  | case1 => simp at h
  | case2 => cases h; simp only [List.length_cons]; omega
  | case3 c rest _ ih =>
    obtain ⟨⟨b, a⟩, hs, heq⟩ := Option.map_eq_some_iff.1 h
    obtain ⟨_, rfl⟩ := Prod.mk.inj heq
    have := ih hs
    simp only [List.length_cons]
    omega

inductive Segment where
  | literal (c : Char)
  | placeholder (expression : String)

/-- The text as it is read from left to right: a placeholder where one starts, else one character. Between
`{{` and the nearest `}}` stands an expression, unless nothing or a brace stands there; such a pair is
passed, and so is everything once no `}}` follows. -/
def segments (cs : List Char) : List Segment :=
  match cs with
  | '\x7b' :: '\x7b' :: rest =>
    match h : splitClose rest with
    | none => cs.map .literal
    | some (body, after) =>
      have := splitClose_length h
      if body.isEmpty || body.contains '\x7d' then
        .literal '\x7b' :: .literal '\x7b' :: segments rest
      else .placeholder (String.ofList (Text.trimList body)) :: segments after
  | c :: rest => .literal c :: segments rest
  | [] => []
termination_by cs.length
decreasing_by
  · exact Nat.lt_succ_of_lt (Nat.lt_succ_self _)
  · exact Nat.lt_succ_of_lt (Nat.lt_succ_of_lt this)
  · exact Nat.lt_succ_self _

def Segment.isPlaceholder : Segment → Bool
  | .literal _ => false
  | .placeholder _ => true

section

variable {m : Type → Type} [Monad m]

-- The text with the answers in it; nothing behind an expression that fails is asked for.
def fillSegments (ask : Asking m) : List Segment → ExceptT Fault m (List Char)
  | [] => return []
  | .literal c :: rest => return c :: (← fillSegments ask rest)
  | .placeholder e :: rest => do
    let text ← ExceptT.adapt (.template e) (ask e)
    return text.toList ++ (← fillSegments ask rest)

structure Filled where
  text : String
  untouched : Bool

def fillTextBy (ask : Asking m) (s : String) : ExceptT Fault m Filled := do
  let parts := segments s.toList
  if parts.any Segment.isPlaceholder then
    return ⟨String.ofList (← fillSegments ask parts), false⟩
  else return ⟨s, true⟩

mutual

def fillBy (ask : Asking m) : Json → ExceptT Fault m Json
  | .string s => return .string (← fillTextBy ask s).text
  | .array items => return .array (← fillItems ask items)
  | .object fields => return .object (← fillFields ask fields)
  | .null => return .null
  | .bool b => return .bool b
  | .int n => return .int n
  | .float x => return .float x

def fillItems (ask : Asking m) : List Json → ExceptT Fault m (List Json)
  | [] => return []
  | v :: rest => return (← fillBy ask v) :: (← fillItems ask rest)

def fillFields (ask : Asking m) : List (String × Json) → ExceptT Fault m (List (String × Json))
  | [] => return []
  | (k, v) :: rest => return (k, ← fillBy ask v) :: (← fillFields ask rest)

end

end

def fillText (eval : Substitution) (s : String) : Except Fault Filled :=
  fillTextBy (m := Id) eval s

def fill (eval : Substitution) (v : Json) : Except Fault Json :=
  fillBy (m := Id) eval v

end BoundedScript.Template
