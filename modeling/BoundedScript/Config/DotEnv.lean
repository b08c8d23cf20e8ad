import BoundedScript.Config.Environment
import BoundedScript.Text.Alphanumeric
import BoundedScript.Text.Utf8

set_option autoImplicit false

namespace BoundedScript.DotEnv

open Text (isBlank)

inductive Quoting where
  | plain | escape | strong | strongEscape | weak | weakEscape
  | blank
  deriving DecidableEq

def Quoting.next (c : Char) : Quoting → Quoting
  | .plain =>
    if isBlank c && c != '\n' && c != '\r' then .blank
    else if c == '\\' then .escape
    else if c == '"' then .weak
    else if c == '\'' then .strong
    else .plain
  | .blank =>
    if c == '\\' then .escape else if c == '"' then .weak else if c == '\'' then .strong else .plain
  | .escape => .plain
  | .weak => if c == '\\' then .weakEscape else if c == '"' then .plain else .weak
  | .weakEscape => .weak
  | .strong => if c == '\\' then .strongEscape else if c == '\'' then .plain else .strong
  | .strongEscape => .strong

def scan (q : Quoting) (front : List Char) : List Char → List Char × Option Quoting
  | [] => (front.reverse, some q)
  | c :: rest =>
    if q == .blank && c == '#' then (front.reverse, none) else scan (q.next c) (c :: front) rest

def dropLineEnd (cs : List Char) : List Char :=
  match cs.reverse with
  | '\n' :: '\r' :: rest => rest.reverse
  | '\n' :: rest => rest.reverse
  | _ => cs

/-- Lines put together over line breaks that are quoted; none where a line cannot be read. `held` is what
goes on from the lines before. -/
def joined (held : List Char) (q : Quoting) : List (Option (List Char)) → List (Option (List Char))
  | [] => if q == .plain then [] else [none]
  | none :: _ => [none]
  | some line :: rest =>
    let whole := held ++ line
    if (whole.dropWhile isBlank).head? == some '#' then some [] :: joined [] .plain rest
    else match scan q [] line with
      | (front, none) => some (held ++ front) :: joined [] .plain rest
      | (_, some .plain) => some (dropLineEnd whole) :: joined [] .plain rest
      | (_, some q) => joined whole q rest

def linesFrom (held : Text.Bytes) : Text.Bytes → List Text.Bytes
  | [] => if held.isEmpty then [] else [held.reverse]
  | b :: rest => if b == 0x0a then (b :: held).reverse :: linesFrom [] rest else linesFrom (b :: held) rest

def dropMark : Text.Bytes → Text.Bytes
  | 0xef :: 0xbb :: 0xbf :: rest => rest
  | bytes => bytes

def lines (bytes : Text.Bytes) : List (Option (List Char)) :=
  joined [] .plain ((linesFrom [] (dropMark bytes)).map fun l => (Text.ofBytes? l).map String.toList)

inductive Part where
  | bare
  | escaped (inQuotes : Bool)
  | strong
  | weak
  | name (inQuotes : Bool) (read : List Char)
  | braced (inQuotes : Bool) (read : List Char)
  | ended

def Part.resume (inQuotes : Bool) : Part :=
  if inQuotes then .weak else .bare

def valueOf (env : Environment) (name : List Char) : List Char :=
  ((env.get? (String.ofList name)).getD "").toList

def escapedChar? (c : Char) : Option Char :=
  if c == '\\' || c == '\'' || c == '"' || c == '$' || c == ' ' then some c
  else if c == 'n' then some '\n'
  else none

-- The value written by the rest of a line; names behind dollar signs are looked up in `env`.
def value (env : Environment) : Part → List Char → Option (List Char)
  | .bare, [] => some []
  | .ended, [] => some []
  | .escaped false, [] => some []
  | .name false n, [] => some (valueOf env n.reverse)
  | _, [] => none
  | .ended, c :: rest =>
    if c == ' ' || c == '\t' then value env .ended rest
    else if c == '#' then some []
    else none
  | .escaped q, c :: rest => do
    let c ← escapedChar? c
    let rest ← value env (.resume q) rest
    some (c :: rest)
  | .strong, c :: rest =>
    if c == '\'' then value env .bare rest else (value env .strong rest).map (c :: ·)
  | .name q n, c :: rest =>
    if Text.isAlphanumeric c then value env (.name q (c :: n)) rest
    else if c == '\x7b' && n.isEmpty then value env (.braced q []) rest
    else if c == '$' then (value env (.name q []) rest).map (valueOf env n.reverse ++ ·)
    else (value env (.resume q) rest).map (valueOf env n.reverse ++ c :: ·)
  | .braced q n, c :: rest =>
    if c == '\x7d' then (value env (.resume q) rest).map (valueOf env n.reverse ++ ·)
    else value env (.braced q (c :: n)) rest
  | .weak, c :: rest =>
    if c == '$' then value env (.name true []) rest
    else if c == '"' then value env .bare rest
    else if c == '\\' then value env (.escaped true) rest
    else (value env .weak rest).map (c :: ·)
  | .bare, c :: rest =>
    if c == '$' then value env (.name false []) rest
    else if c == '\'' then value env .strong rest
    else if c == '"' then value env .weak rest
    else if c == '\\' then value env (.escaped false) rest
    else if c == ' ' || c == '\t' then value env .ended rest
    else (value env .bare rest).map (c :: ·)

def key? (cs : List Char) : Option (List Char × List Char) :=
  match cs with
  | c :: _ =>
    if c.isAlpha || c == '_' then
      some (cs.takeWhile fun c => c.isAlphanum || c == '_' || c == '.',
        (cs.dropWhile fun c => c.isAlphanum || c == '_' || c == '.').dropWhile isBlank)
    else none
  | [] => none

-- The name that a line assigns to and what follows the equals sign; `export` may stand before the name.
def assignment? (cs : List Char) : Option (List Char × List Char) := do
  let (key, rest) ← key? cs
  match rest with
  | '=' :: rest => some (key, rest)
  | _ =>
    if key == "export".toList then
      match ← key? rest with
      | (key, '=' :: rest) => some (key, rest)
      | _ => none
    else none

def startsNothing (cs : List Char) : Bool :=
  cs.isEmpty || cs.head? == some '#'

def parseLine (env : Environment) (line : List Char) : Option (Option (String × String)) :=
  let cs := Text.trimList line
  if startsNothing cs then some none
  else do
    let (key, rest) ← assignment? cs
    let rest := rest.dropWhile isBlank
    let v ← if startsNothing rest then some [] else value env .bare rest
    some (some (String.ofList key, String.ofList v))

def setAll (env : Environment) : List (Option (List Char)) → Environment
  | [] => env
  | none :: _ => env
  | some line :: rest =>
    match parseLine env line with
    | none => env
    | some none => setAll env rest
    | some (some (name, v)) => setAll (env.add name v) rest

def load (bytes : Text.Bytes) (env : Environment) : Environment :=
  setAll env (lines bytes)

end BoundedScript.DotEnv
