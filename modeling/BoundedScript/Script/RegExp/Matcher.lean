import BoundedScript.Script.RegExp.Basic

set_option autoImplicit false

namespace BoundedScript.Script.RegExp

abbrev Captures := Array (Option (Nat × Nat))

inductive Outcome where
  | matched (last : Nat) (captures : Captures)
  | failed (steps : Nat)
  | exhausted

structure Subject where
  text : Units
  program : Program

namespace Subject

def unicode (s : Subject) : Bool :=
  s.program.flags.unicode

def charAt (s : Subject) (i : Nat) : Option (Nat × Nat) :=
  if s.unicode then s.text.codeAt i
  else (s.text[i]?).map fun u => (u.toNat, 1)

def sameChar (s : Subject) (a b : Nat) : Bool :=
  a == b || (s.program.flags.ignoreCase && fold s.unicode a == fold s.unicode b)

def inSet (s : Subject) (negated : Bool) (items : List ClassItem) (c : Nat) : Bool :=
  let held :=
    if s.program.flags.ignoreCase then items.any (·.holdsFolded s.unicode c) else items.any (·.holds c)
  held != negated

def takes (s : Subject) (n : Node) (c : Nat) : Option Bool :=
  match n with
  | .char d => some (s.sameChar c d)
  | .any => some (s.program.flags.dotAll || !isLineEnd c)
  | .set negated items => some (s.inSet negated items c)
  | _ => none

def isSingle : Node → Bool
  | .char _ | .any | .set _ _ => true
  | _ => false

def wordAt (s : Subject) (i : Nat) : Bool :=
  match s.text[i]? with
  | some u => isWord u.toNat
  | none => false

def atWordEdge (s : Subject) (i : Nat) : Bool :=
  (0 < i && s.wordAt (i - 1)) != s.wordAt i

def atLineStart (s : Subject) (i : Nat) : Bool :=
  i == 0 || (s.program.flags.multiline && (s.text[i - 1]?).any fun u => isLineEnd u.toNat)

def atLineEnd (s : Subject) (i : Nat) : Bool :=
  i == s.text.size || (s.program.flags.multiline && (s.text[i]?).any fun u => isLineEnd u.toNat)

def run (s : Subject) (n : Node) (i : Nat) (acc : List Nat) : (count : Nat) → List Nat
  | 0 => acc
  | count + 1 =>
    match s.charAt i with
    | none => acc
    | some (c, w) =>
      if (s.takes n c).getD false then s.run n (i + w) ((i + w) :: acc) count else acc

def repeatsAt (s : Subject) (first last i : Nat) : (fuel : Nat) → Option Nat
  | 0 => some i
  | fuel + 1 =>
    if last ≤ first then some i
    else match s.charAt first, s.charAt i with
      | some (a, w), some (b, v) =>
        if s.sameChar a b then s.repeatsAt (first + w) last (i + v) fuel else none
      | _, _ => none

abbrev Continuation := Nat → Captures → Nat → Outcome

def firstOf (k : Continuation) (captures : Captures) : List Nat → Nat → Outcome
  | [], steps => .failed steps
  | i :: rest, steps =>
    match k i captures steps with
    | .failed steps => firstOf k captures rest steps
    | o => o

def clear (captures : Captures) (groups : Nat × Nat) : Captures :=
  if groups.1 == groups.2 then captures
  else captures.mapIdx fun i c => if groups.1 ≤ i && i < groups.2 then none else c

def groupOf (s : Subject) (name : String) : Nat :=
  ((s.program.names.find? (·.1 == name)).map (·.2)).getD 0

/-- Matches `n` at `i` and goes on with `k`. `depth` bounds how deep the search stands in itself, `steps`
how long it takes in all. -/
def search (s : Subject) : (depth : Nat) → Node → Nat → Captures → Nat → Continuation → Outcome
  | 0, _, _, _, _, _ => .exhausted
  | _, _, _, _, 0, _ => .exhausted
  | depth + 1, n, i, cs, steps + 1, k =>
    match n with
    | .empty => k i cs steps
    | .char _ | .any | .set _ _ =>
      match s.charAt i with
      | none => .failed steps
      | some (c, w) => if (s.takes n c).getD false then k (i + w) cs steps else .failed steps
    | .seq a b =>
      s.search depth a i cs steps fun j cs steps => s.search depth b j cs steps k
    | .alt a b =>
      match s.search depth a i cs steps k with
      | .failed steps => s.search depth b i cs steps k
      | o => o
    | .group index body =>
      s.search depth body i cs steps fun j cs steps => k j (cs.setIfInBounds index (some (i, j))) steps
    | .backref index => backTo depth i cs steps k index
    | .namedRef name => backTo depth i cs steps k (s.groupOf name)
    | .lineStart => if s.atLineStart i then k i cs steps else .failed steps
    | .lineEnd => if s.atLineEnd i then k i cs steps else .failed steps
    | .wordEdge negated => if s.atWordEdge i != negated then k i cs steps else .failed steps
    | .look true negated body =>
      match s.search depth body i cs steps (fun j cs _ => .matched j cs) with
      | .matched _ inner => if negated then .failed steps else k i inner steps
      | .failed steps => if negated then k i cs steps else .failed steps
      | .exhausted => .exhausted
    | .look false negated body =>
      let endsHere : Continuation := fun j cs steps => if j == i then .matched j cs else .failed steps
      let starts : Continuation := fun j cs steps => s.search depth body j cs steps endsHere
      match firstOf starts cs ((List.range (i + 1)).reverse) steps with
      | .matched _ inner => if negated then .failed steps else k i inner steps
      | .failed steps => if negated then k i cs steps else .failed steps
      | .exhausted => .exhausted
    | .repeat least greatest greedy groups body =>
      if isSingle body then
        let places := s.run body i [i] (greatest.getD s.text.size)
        let enough := places.take (places.length - least)
        if places.length ≤ least then .failed steps
        else firstOf k cs (if greedy then enough else enough.reverse) steps
      else
        let more : Unit → Nat → Outcome := fun _ steps =>
          s.search depth body i (clear cs groups) steps fun j cs steps =>
            if j == i && least == 0 then .failed steps
            else s.search depth (.repeat (least - 1) (greatest.map (· - 1)) greedy groups body) j cs steps k
        if greatest == some 0 then k i cs steps
        else if 0 < least then more () steps
        else if greedy then
          match more () steps with
          | .failed steps => k i cs steps
          | o => o
        else
          match k i cs steps with
          | .failed steps => more () steps
          | o => o
where
  backTo (depth i : Nat) (cs : Captures) (steps : Nat) (k : Continuation) (index : Nat) : Outcome :=
    match (cs[index]?).join with
    | none => k i cs steps
    | some (first, last) =>
      match s.repeatsAt first last i (depth + s.text.size) with
      | some j => k j cs steps
      | none => .failed steps

end Subject

def maxDepth : Nat := 20000
def maxSteps : Nat := 5000000

def execFrom (s : Subject) (sticky : Bool) (i steps : Nat) : (fuel : Nat) → Option (Nat × Nat × Captures)
  | 0 => none
  | fuel + 1 =>
    if s.text.size < i then none
    else
      let cs : Captures := Array.replicate s.program.groupCount none
      match s.search maxDepth s.program.body i cs steps (fun j cs _ => .matched j cs) with
      | .matched j cs => some (i, j, cs)
      | .exhausted => none
      | .failed left => if sticky then none else execFrom s sticky (i + 1) left fuel

def exec (p : Program) (text : Units) (i : Nat) : Option Captures :=
  (execFrom ⟨text, p⟩ p.flags.sticky i maxSteps (text.size + 2)).map fun (first, last, cs) =>
    cs.setIfInBounds 0 (some (first, last))

end BoundedScript.Script.RegExp
