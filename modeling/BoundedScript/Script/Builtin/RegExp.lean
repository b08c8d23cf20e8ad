import BoundedScript.Script.Builtin.String
import BoundedScript.Script.RegExp.Matcher

set_option autoImplicit false

namespace BoundedScript.Script.RegExpObject

open Run

def methods : FunctionTable RegExpFn :=
  [("exec", .exec, 1), ("test", .test, 1), ("toString", .toString, 0)]

def flagNames : List (String × Char) :=
  [("hasIndices", 'd'), ("global", 'g'), ("ignoreCase", 'i'), ("multiline", 'm'), ("dotAll", 's'),
   ("unicode", 'u'), ("sticky", 'y')]

structure Expression where
  addr : Addr
  program : RegExp.Program
  source : Units
  flags : Units

def expressionOf? (v : Value) : Run (Option Expression) := do
  match v with
  | .object a =>
    match ← kindOf a with
    | .regexp p source flags => return some ⟨a, p, source, flags⟩
    | _ => return none
  | _ => return none

def expressionOf (v : Value) : Run Expression := do
  match ← expressionOf? v with
  | some x => return x
  | none => typeError "RegExp object expected"

def escapeSource (inClass : Bool) (out : Units) : List UInt16 → Units
  | [] => out
  | 0x5c :: c :: rest => escapeSource inClass (out.push 0x5c |>.push c) rest
  | 0x5b :: rest => escapeSource true (out.push 0x5b) rest
  | 0x5d :: rest => escapeSource false (out.push 0x5d) rest
  | 0x2f :: rest => escapeSource inClass (if inClass then out.push 0x2f else out ++ #[0x5c, 0x2f]) rest
  | 0x0a :: rest => escapeSource inClass (out ++ #[0x5c, 0x6e]) rest
  | 0x0d :: rest => escapeSource inClass (out ++ #[0x5c, 0x72]) rest
  | c :: rest => escapeSource inClass (out.push c) rest

def shownSource (source : Units) : Units :=
  if source.isEmpty then Units.ofString "(?:)" else escapeSource false #[] source.toList

def advance (u : Units) (i : Nat) (unicode : Bool) : Nat :=
  if unicode then match u.codeAt i with
    | some (_, n) => i + n
    | none => i + 1
  else i + 1

def capture (u : Units) : Option (Nat × Nat) → Value
  | some (first, last) => .string (u.extract first last)
  | none => .undefined

def pairOf : Option (Nat × Nat) → Run Value
  | some (first, last) => newArray #[.nat first, .nat last]
  | none => return .undefined

def groupsOf (p : RegExp.Program) (value : Nat → Run Value) : Run Value := do
  if p.names.isEmpty then return .undefined
  let a ← newOrdinary none .ordinary
  for (name, i) in p.names do putOwn a (.ofString name) (.plain (← value i))
  return .object a

def matchResult (p : RegExp.Program) (u : Units) (cs : RegExp.Captures) : Run Value := do
  let r ← newArray (cs.map (capture u))
  match r with
  | .object a =>
    let first := (((cs[0]?).join).map (·.1)).getD 0
    putOwn a indexKey (.plain (.nat first))
    putOwn a (.ofString "input") (.plain (.string u))
    putOwn a (.ofString "groups") (.plain (← groupsOf p fun i => pure (capture u (cs[i]?).join)))
    if p.flags.hasIndices then
      match ← newArray (← cs.mapM pairOf) with
      | .object b =>
        putOwn b (.ofString "groups") (.plain (← groupsOf p fun i => pairOf (cs[i]?).join))
        putOwn a (.ofString "indices") (.plain (.object b))
      | _ => pure ()
    return r
  | r => return r

section
variable (E : Engine)

def setLastIndex (a : Addr) (n : Nat) : Run Unit :=
  setOf E a lastIndexKey (.nat n)

def execute (x : Expression) (u : Units) : Run Value := do
  let moves := x.program.flags.isGlobal || x.program.flags.sticky
  let at_ ← toLength E (← getOf E x.addr lastIndexKey)
  let start := if moves then at_ else 0
  ticks (1 + u.size / 16)
  match if u.size < start then none else RegExp.exec x.program u start with
  | none =>
    if moves then setLastIndex E x.addr 0
    return .null
  | some cs =>
    if moves then setLastIndex E x.addr ((((cs[0]?).join).map (·.2)).getD 0)
    matchResult x.program u cs

def executeBy (v : Value) (u : Units) : Run Value := do
  let f ← getValue E v (.ofString "exec")
  if ← isCallable f then
    let r ← E.call f v #[.string u]
    match r with
    | .object _ | .null => return r
    | _ => typeError "object or null expected"
  else execute E (← expressionOf v) u

def flagsText (v : Value) : Run Units := do
  let mut out : Units := #[]
  for (name, letter) in flagNames do
    if toBool (← getValue E v (.ofString name)) then out := out.pushChar letter
  return out

def make (args : Array Value) (newTarget : Option Value) : Run Value := do
  let pattern := arg args 0
  let flags := arg args 1
  let isExpression ← StringObject.isRegExp E pattern
  if newTarget.isNone && isExpression && flags.isUndefined then
    if sameValue (← getValue E pattern constructorKey) Intrinsic.regexpMaker.value then return pattern
  let (source, flags) ← match ← expressionOf? pattern with
    | some x => pure (Value.string x.source, if flags.isUndefined then .string x.flags else flags)
    | none =>
      if isExpression then do
        let source ← getValue E pattern (.ofString "source")
        let own ← if flags.isUndefined then getValue E pattern (.ofString "flags") else pure flags
        pure (source, own)
      else pure (pattern, flags)
  let source ← if source.isUndefined then pure #[] else toUnits E source
  let flags ← if flags.isUndefined then pure #[] else toUnits E flags
  let proto ← prototypeFor E (newTarget.getD .undefined) .regexpPrototype
  match RegExp.Flags.ofUnits? flags with
  | none => fail .syntaxError "invalid regular expression flags"
  | some _ =>
    match RegExp.compile source flags with
    | some p => newRegExp p source flags proto
    | none => fail .syntaxError "invalid regular expression"

def modeOf (v : Value) : Run (Bool × Bool) := do
  let flags ← toUnits E (← getValue E v (.ofString "flags"))
  return (flags.contains 0x67, flags.contains 0x75)

def matchedText (r : Value) : Run Units := do
  toUnits E (← getValue E r (.index 0))

def passEmpty (v : Value) (u text : Units) (unicode : Bool) : Run Unit := do
  if text.isEmpty then
    let i ← toLength E (← getValue E v lastIndexKey)
    setValue E v lastIndexKey (.nat (advance u i unicode))

def allMatches (v : Value) (u : Units) (isGlobal unicode : Bool) : Run (Array Value) := do
  if isGlobal then setValue E v lastIndexKey (.nat 0)
  loop (fun (acc : Array Value) => do
    match ← executeBy E v u with
    | .null => return .inr acc
    | r =>
      if !isGlobal then return .inr (acc.push r)
      passEmpty E v u (← matchedText E r) unicode
      return .inl (acc.push r)) #[] manyRounds

def matchText (v : Value) (u : Units) : Run Value := do
  let (isGlobal, unicode) ← modeOf E v
  if !isGlobal then executeBy E v u
  else
    let results ← allMatches E v u true unicode
    if results.isEmpty then return .null
    newArray (← results.mapM fun r => Value.string <$> matchedText E r)

def matchAll (v : Value) (u : Units) : Run Value := do
  let (isGlobal, unicode) ← modeOf E v
  let flags ← getValue E v (.ofString "flags")
  let copy ← E.construct Intrinsic.regexpMaker.value #[v, flags] Intrinsic.regexpMaker.value
  setValue E copy lastIndexKey (← getValue E v lastIndexKey)
  return .object (← newOrdinary (some Intrinsic.matchIteratorPrototype.addr)
    (.matchIterator copy u isGlobal unicode false))

def advanceMatches (this : Value) : Run Value := do
  match this with
  | .object a =>
    match ← kindOf a with
    | .matchIterator v u isGlobal unicode done =>
      let finish : Run Unit :=
        modifyObj a fun o => { o with kind := .matchIterator v u isGlobal unicode true }
      if done then stepResult .undefined true
      else match ← executeBy E v u with
        | .null =>
          finish
          stepResult .undefined true
        | r =>
          if isGlobal then passEmpty E v u (← matchedText E r) unicode else finish
          stepResult r false
    | _ => typeError "not an iterator"
  | _ => typeError "not an iterator"

def replacementOf (r : Value) (u text : Units) (first : Nat) (replacement : Value ⊕ Units) : Run Units := do
  let count ← match r with
    | .object a => lengthOf E a
    | _ => pure 0
  let mut groups : Array Value := #[]
  for i in [1:count] do
    let g ← getValue E r (.index i)
    groups := groups.push (← if g.isUndefined then pure g else Value.string <$> toUnits E g)
  let named ← getValue E r (.ofString "groups")
  match replacement with
  | .inl f =>
    let args := #[Value.string text] ++ groups ++ #[.nat first, .string u]
    let args := if named.isUndefined then args else args.push named
    toUnits E (← E.call f .undefined args)
  | .inr t => StringObject.expand E ⟨u, first, first + text.size, groups.toList, named⟩ t

def replaceMatches (v : Value) (u : Units) (replacement : Value) : Run Value := do
  let (isGlobal, unicode) ← modeOf E v
  let by_ ← if ← isCallable replacement then pure (.inl replacement) else Sum.inr <$> toUnits E replacement
  let results ← allMatches E v u isGlobal unicode
  let mut out : Units := #[]
  let mut copied := 0
  for r in results do
    let text ← matchedText E r
    let first := min (← toLength E (← getValue E r indexKey)) u.size
    let t ← replacementOf E r u text first by_
    if copied ≤ first then
      out ← checkString (out ++ u.extract copied first ++ t)
      copied := first + text.size
  return .string (out ++ u.extract copied u.size)

def search (v : Value) (u : Units) : Run Value := do
  let before ← getValue E v lastIndexKey
  if !sameValue before (.nat 0) then setValue E v lastIndexKey (.nat 0)
  let r ← executeBy E v u
  let now ← getValue E v lastIndexKey
  if !sameValue now before then setValue E v lastIndexKey before
  match r with
  | .null => return .number (-1.0)
  | r => getValue E r indexKey

/-- The pieces of a text between matches, with what the groups hold; `first` is where a piece starts and
`at_` where the search goes on. -/
def pieces (p : RegExp.Program) (u : Units) (limit first at_ : Nat) (acc : Array Value) :
    (fuel : Nat) → Run (Array Value)
  | 0 => return acc
  | fuel + 1 => do
    ticks (1 + (u.size - at_) / 16)
    let rest := acc.push (.string (u.extract first u.size))
    if u.size ≤ at_ then return rest
    match RegExp.exec p u at_ with
    | none => return rest
    | some cs =>
      match (cs[0]?).join with
      | none => return rest
      | some (i, last) =>
        if u.size ≤ i then return rest
        else if last == first then pieces p u limit first (advance u i p.flags.unicode) acc fuel
        else
          let acc := acc.push (.string (u.extract first i)) ++ (cs.extract 1 cs.size).map (capture u)
          if limit ≤ acc.size then return acc.extract 0 limit
          pieces p u limit last last acc fuel

def split (v : Value) (u : Units) (limit : Value) : Run Value := do
  let x ← expressionOf v
  let limit ← if limit.isUndefined then pure 0xffff_ffff else toUint32 E limit
  if limit == 0 then return ← newArray #[]
  let p := { x.program with flags := { x.program.flags with sticky := false } }
  if u.isEmpty then
    if (RegExp.exec p u 0).isSome then newArray #[] else newArray #[.string u]
  else newArray (← pieces p u limit 0 0 #[] (2 * u.size + 2))

def run (f : RegExpFn) (this : Value) (args : Array Value) (newTarget : Option Value) : Run Value := do
  match f with
  | .make => make E args newTarget
  | .exec =>
    let x ← expressionOf this
    execute E x (← toUnits E (arg args 0))
  | f =>
    if !this.isObject then typeError "not an object"
    match f with
    | .test =>
      match ← executeBy E this (← toUnits E (arg args 0)) with
      | .null => return .bool false
      | _ => return .bool true
    | .toString =>
      let source ← toUnits E (← getValue E this (.ofString "source"))
      let flags ← toUnits E (← getValue E this (.ofString "flags"))
      return .string (#[0x2f] ++ source ++ #[0x2f] ++ flags)
    | .flags => return .string (← flagsText E this)
    | .source =>
      match ← expressionOf? this with
      | some x => return .string (shownSource x.source)
      | none => return .text "(?:)"
    | .flag letter =>
      match ← expressionOf? this with
      | some x => return .bool (x.flags.contains letter)
      | none => return .undefined
    | .match => matchText E this (← toUnits E (arg args 0))
    | .matchAll => matchAll E this (← toUnits E (arg args 0))
    | .replace => replaceMatches E this (← toUnits E (arg args 0)) (arg args 1)
    | .search => search E this (← toUnits E (arg args 0))
    | _ => split E this (← toUnits E (arg args 0)) (arg args 1)

end
end BoundedScript.Script.RegExpObject
