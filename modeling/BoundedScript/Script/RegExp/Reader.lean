import BoundedScript.Script.RegExp.Basic
import BoundedScript.Text.Identifier

set_option autoImplicit false

namespace BoundedScript.Script.RegExp

structure ReadState where
  rest : List Nat
  next : Nat
  names : List (String × Nat)

structure ReadContext where
  unicode : Bool
  -- Named groups occur, so `\k` is a reference.
  named : Bool
  -- How many groups the pattern has; a number up to it is a reference.
  groups : Nat

abbrev PatternReader := ReaderT ReadContext (StateT ReadState Option)

namespace PatternReader

def peek : PatternReader (Option Nat) := do
  return (← get).rest.head?

def drop (n : Nat) : PatternReader Unit :=
  modify fun s => { s with rest := s.rest.drop n }

def eat (c : Char) : PatternReader Bool := do
  if (← peek) == some c.toNat then drop 1; return true else return false

def eatAll (word : String) : PatternReader Bool := do
  let cs := word.toList.map Char.toNat
  if cs.isPrefixOf (← get).rest then drop cs.length; return true else return false

def digitValue (c : Nat) : Option Nat :=
  if 0x30 ≤ c && c ≤ 0x39 then some (c - 0x30) else none

def hexValue (c : Nat) : Option Nat :=
  if 0x30 ≤ c && c ≤ 0x39 then some (c - 0x30)
  else if 0x61 ≤ c && c ≤ 0x66 then some (c - 0x57)
  else if 0x41 ≤ c && c ≤ 0x46 then some (c - 0x37)
  else none

def decimal : PatternReader (Option Nat) := do
  let digits := (← get).rest.takeWhile fun c => (digitValue c).isSome
  if digits.isEmpty then return none
  drop digits.length
  return some (digits.foldl (fun n c => n * 10 + (c - 0x30)) 0)

def hexDigits (count : Nat) : PatternReader (Option Nat) := do
  let digits := (← get).rest.take count
  if digits.length == count && digits.all (fun c => (hexValue c).isSome) then
    drop count
    return some (digits.foldl (fun n c => n * 16 + (hexValue c).getD 0) 0)
  else return none

def unicodeEscape : PatternReader (Option Nat) := do
  let ctx ← read
  if ctx.unicode && (← peek) == some 0x7b then
    drop 1
    let digits := (← get).rest.takeWhile fun c => (hexValue c).isSome
    let n := digits.foldl (fun n c => n * 16 + (hexValue c).getD 0) 0
    drop digits.length
    if digits.isEmpty || 0x10ffff < n || !(← eat '\x7d') then failure
    return some n
  else
    match ← hexDigits 4 with
    | none => return none
    | some n =>
      if ctx.unicode && 0xd800 ≤ n && n ≤ 0xdbff then
        let saved ← get
        if ← eatAll "\\u" then
          match ← hexDigits 4 with
          | some m =>
            if 0xdc00 ≤ m && m ≤ 0xdfff then
              return some (0x10000 + (n - 0xd800) * 0x400 + (m - 0xdc00))
            else set saved; return some n
          | none => set saved; return some n
        else return some n
      else return some n

def charEscape (c : Nat) : PatternReader Nat := do
  let ctx ← read
  drop 1
  if c == 0x74 then return 9
  else if c == 0x6e then return 10
  else if c == 0x76 then return 11
  else if c == 0x66 then return 12
  else if c == 0x72 then return 13
  else if c == 0x63 then
    match ← peek with
    | some d =>
      if (0x41 ≤ d && d ≤ 0x5a) || (0x61 ≤ d && d ≤ 0x7a) then drop 1; return d % 32
      else if ctx.unicode then failure
      else modify (fun s => { s with rest := 0x63 :: s.rest }); return 0x5c
    | none => if ctx.unicode then failure else return 0x5c
  else if c == 0x78 then
    match ← hexDigits 2 with
    | some n => return n
    | none => if ctx.unicode then failure else return c
  else if c == 0x75 then
    match ← unicodeEscape with
    | some n => return n
    | none => if ctx.unicode then failure else return c
  else if c == 0x30 && !((← peek).any fun d => (digitValue d).isSome) then return 0
  else if 0x30 ≤ c && c ≤ 0x37 && !ctx.unicode then
    let digits := (← get).rest.takeWhile fun d => 0x30 ≤ d && d ≤ 0x37
    let more := digits.take (if c ≤ 0x33 then 2 else 1)
    drop more.length
    return more.foldl (fun n d => n * 8 + (d - 0x30)) (c - 0x30)
  else if ctx.unicode then
    if "^$\\.*+?()[]\x7b\x7d|/-".toList.any (fun d => d.toNat == c) then return c else failure
  else return c

def classEscape (c : Nat) : Option ClassItem :=
  if c == 0x64 then some (.digit false)
  else if c == 0x44 then some (.digit true)
  else if c == 0x73 then some (.space false)
  else if c == 0x53 then some (.space true)
  else if c == 0x77 then some (.word false)
  else if c == 0x57 then some (.word true)
  else none

def classAtom : PatternReader ClassItem := do
  match ← peek with
  | none => failure
  | some c =>
    drop 1
    if c != 0x5c then return .range c c
    match ← peek with
    | none => failure
    | some e =>
      match classEscape e with
      | some item => drop 1; return item
      | none =>
        if e == 0x62 then drop 1; return .range 8 8
        else if e == 0x2d && (← read).unicode then drop 1; return .range e e
        else
          let n ← charEscape e
          return .range n n

def classItems (acc : List ClassItem) : (fuel : Nat) → PatternReader (List ClassItem)
  | 0 => failure
  | fuel + 1 => do
    if ← eat ']' then return acc.reverse
    let a ← classAtom
    if (← get).rest.head? == some 0x2d && (← get).rest[1]? != some 0x5d then
      drop 1
      let b ← classAtom
      match a, b with
      | .range x _, .range y _ =>
        if y < x then failure else classItems (.range x y :: acc) fuel
      | a, b =>
        if (← read).unicode then failure
        else classItems (b :: .range 0x2d 0x2d :: a :: acc) fuel
    else classItems (a :: acc) fuel

def groupName : PatternReader String := do
  let cs := (← get).rest.takeWhile (· != 0x3e)
  drop cs.length
  if !(← eat '>') then failure
  match cs with
  | [] => failure
  | c :: rest =>
    let ok (n : Nat) : Bool := n == 0x24 || n == 0x5f || Text.isIdContinue n
    if (Text.isIdStart c || c == 0x24 || c == 0x5f) && rest.all ok then
      return String.ofList (cs.map Char.ofNat)
    else failure

def bounds : PatternReader (Option (Nat × Option Nat)) := do
  if ← eat '*' then return some (0, none)
  else if ← eat '+' then return some (1, none)
  else if ← eat '?' then return some (0, some 1)
  else if (← peek) == some 0x7b then
    let saved ← get
    drop 1
    let result ← (do
      match ← decimal with
      | none => return none
      | some least =>
        if ← eat '\x7d' then return some (least, some least)
        else if ← eat ',' then
          let greatest ← decimal
          if ← eat '\x7d' then return some (least, greatest) else return none
        else return none : PatternReader (Option (Nat × Option Nat)))
    match result with
    | some (least, greatest) =>
      if greatest.any (· < least) then failure else return some (least, greatest)
    | none => if (← read).unicode then failure else set saved; return none
  else return none

def quantified (body : Node) (first : Nat) : PatternReader Node := do
  match ← bounds with
  | none => return body
  | some (least, greatest) =>
    let lazy ← eat '?'
    return .repeat least greatest (!lazy) (first, (← get).next) body

def escapeAtom (c : Nat) : PatternReader Node := do
  let ctx ← read
  match classEscape c with
  | some item => drop 1; return .set false [item]
  | none =>
    if c == 0x6b && (ctx.named || ctx.unicode) then
      drop 1
      if !(← eat '<') then failure
      return .namedRef (← groupName)
    else if 0x31 ≤ c && c ≤ 0x39 then
      let saved ← get
      match ← decimal with
      | none => failure
      | some n =>
        if n < ctx.groups then return .backref n
        else if ctx.unicode then failure
        else do
          set saved
          if c ≤ 0x37 then return .char (← charEscape c)
          else drop 1; return .char c
    else return .char (← charEscape c)

def group (inner : PatternReader Node) : PatternReader Node := do
  let close (n : Node) : PatternReader Node := do
    if ← eat ')' then return n else failure
  if ← eatAll "?:" then close (← inner)
  else if ← eatAll "?=" then close (.look true false (← inner))
  else if ← eatAll "?!" then close (.look true true (← inner))
  else if ← eatAll "?<=" then close (.look false false (← inner))
  else if ← eatAll "?<!" then close (.look false true (← inner))
  else
    let index := (← get).next
    if ← eatAll "?<" then
      let name ← groupName
      if (← get).names.any (·.1 == name) then failure
      modify fun s => { s with next := index + 1, names := s.names ++ [(name, index)] }
      close (.group index (← inner))
    else if (← peek) == some 0x3f then failure
    else
      modify fun s => { s with next := index + 1 }
      close (.group index (← inner))

def term (inner : PatternReader Node) : PatternReader (Option Node) := do
  let ctx ← read
  let first := (← get).next
  match ← peek with
  | none => return none
  | some c =>
    if c == 0x7c || c == 0x29 then return none
    drop 1
    if c == 0x5e then return some .lineStart
    else if c == 0x24 then return some .lineEnd
    else if c == 0x28 then
      let n ← group inner
      match n with
      | .look true _ _ => if ctx.unicode then return some n else return some (← quantified n first)
      | .look false _ _ => return some n
      | n => return some (← quantified n first)
    else if c == 0x2e then return some (← quantified .any first)
    else if c == 0x5b then
      let negated ← eat '^'
      let items ← classItems [] ((← get).rest.length + 1)
      return some (← quantified (.set negated items) first)
    else if c == 0x5c then
      match ← peek with
      | none => failure
      | some e =>
        if e == 0x62 then drop 1; return some (.wordEdge false)
        else if e == 0x42 then drop 1; return some (.wordEdge true)
        else return some (← quantified (← escapeAtom e) first)
    else if c == 0x2a || c == 0x2b || c == 0x3f then failure
    else if c == 0x7b then
      if ctx.unicode then failure
      modify fun s => { s with rest := 0x7b :: s.rest }
      if (← bounds).isSome then failure
      drop 1
      return some (← quantified (.char c) first)
    else if (c == 0x7d || c == 0x5d) && ctx.unicode then failure
    else return some (← quantified (.char c) first)

def terms (inner : PatternReader Node) (acc : Node) : (fuel : Nat) → PatternReader Node
  | 0 => failure
  | fuel + 1 => do
    match ← term inner with
    | none => return acc
    | some n => terms inner (match acc with | .empty => n | a => .seq a n) fuel

def alternatives (inner : PatternReader Node) : (fuel : Nat) → PatternReader Node
  | 0 => failure
  | fuel + 1 => do
    let a ← terms inner .empty ((← get).rest.length + 1)
    if ← eat '|' then return .alt a (← alternatives inner fuel) else return a

def pattern : (depth : Nat) → PatternReader Node
  | 0 => failure
  | depth + 1 => do
    alternatives (pattern depth) ((← get).rest.length + 1)

end PatternReader

-- Counts groups: parentheses outside classes and escapes that are not followed by `?`, or that name
-- themselves.
def countGroups (inClass : Bool) (count : Nat) (named : Bool) : List Nat → Nat × Bool
  | [] => (count, named)
  | 0x5c :: rest =>
    match rest with
    | [] => (count, named)
    | _ :: rest => countGroups inClass count named rest
  | c :: rest =>
    if inClass then countGroups (c != 0x5d) count named rest
    else if c == 0x5b then countGroups true count named rest
    else if c == 0x28 then
      match rest with
      | 0x3f :: 0x3c :: d :: _ =>
        if d == 0x3d || d == 0x21 then countGroups false count named rest
        else countGroups false (count + 1) true rest
      | 0x3f :: _ => countGroups false count named rest
      | _ => countGroups false (count + 1) named rest
    else countGroups false count named rest

def maxNesting : Nat := 200

def compile (source flags : Units) : Option Program := do
  let flags ← Flags.ofUnits? flags
  let codes := if flags.unicode then source.codes.toList else source.toList.map UInt16.toNat
  let (groups, named) := countGroups false 1 false codes
  let (body, s) ← (PatternReader.pattern maxNesting).run ⟨flags.unicode, named, groups⟩ |>.run ⟨codes, 1, []⟩
  if s.rest.isEmpty then some ⟨body, flags, s.next, s.names⟩ else none

end BoundedScript.Script.RegExp
