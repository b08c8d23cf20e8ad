import BoundedScript.Script.Builtin.Object
import BoundedScript.Script.Sorting

set_option autoImplicit false

namespace BoundedScript.Script.ArrayObject

open Run

def statics : FunctionTable ArrayFn :=
  [("isArray", .isArray, 1), ("from", .from, 1), ("of", .of, 0)]

def methods : FunctionTable ArrayFn :=
  [("at", .at, 1), ("with", .with, 2), ("concat", .concat, 1), ("every", .every, 1), ("some", .some, 1),
   ("forEach", .forEach, 1), ("map", .map, 1), ("filter", .filter, 1), ("reduce", .reduce, 1),
   ("reduceRight", .reduceRight, 1), ("fill", .fill, 1), ("find", .find, 1),
   ("findIndex", .findIndex, 1), ("findLast", .findLast, 1), ("findLastIndex", .findLastIndex, 1),
   ("indexOf", .indexOf, 1), ("lastIndexOf", .lastIndexOf, 1), ("includes", .includes, 1),
   ("join", .join, 1), ("toString", .toString, 0), ("toLocaleString", .toLocaleString, 0),
   ("pop", .pop, 0), ("push", .push, 1), ("shift", .shift, 0), ("unshift", .unshift, 1),
   ("reverse", .reverse, 0), ("toReversed", .toReversed, 0), ("sort", .sort, 1),
   ("toSorted", .toSorted, 1), ("slice", .slice, 2), ("splice", .splice, 2),
   ("toSpliced", .toSpliced, 2), ("copyWithin", .copyWithin, 2), ("flatMap", .flatMap, 1),
   ("flat", .flat, 0), ("values", .values, 0), ("keys", .keys, 0), ("entries", .entries, 0)]

def keyAt (i : Nat) : PropKey :=
  if i < 0xffff_ffff then .index i else .ofString (toString i)

def walk {σ β : Type} (n : Nat) (s : σ) (step : Nat → σ → Run (σ ⊕ β)) : Run (σ ⊕ β) :=
  loop (fun (at_ : Nat × σ) => do
    if n ≤ at_.1 then return .inr (.inl at_.2)
    else match ← step at_.1 at_.2 with
      | .inl s => return .inl (at_.1 + 1, s)
      | .inr b => return .inr (.inr b)) (0, s) manyRounds

def forEachPlace (n : Nat) (step : Nat → Run Unit) : Run Unit :=
  loop (fun (i : Nat) => do
    if n ≤ i then return .inr ()
    step i
    return .inl (i + 1)) 0 manyRounds

def needCallable (f : Value) : Run Unit := do
  if !(← isCallable f) then typeError "not a function"

section
variable (E : Engine)

def itemAt (a : Addr) (i : Nat) : Run Value :=
  getOf E a (keyAt i)

def itemAt? (a : Addr) (i : Nat) : Run (Option Value) := do
  match ← find? a (keyAt i) with
  | none => return none
  | some p => return some (← readSlot E (.object a) (some p))

def putAt (a : Addr) (i : Nat) (v : Value) : Run Unit :=
  setOf E a (keyAt i) v

def deleteAt (a : Addr) (i : Nat) : Run Unit := do
  if !(← deleteOwn a (keyAt i)) then typeError "could not delete property"

def setLength (a : Addr) (n : Nat) : Run Unit :=
  setOf E a lengthKey (.nat n)

def createAt (a : Addr) (i : Nat) (v : Value) : Run Unit := do
  if !(← createData a (keyAt i) v) then typeError "property is not configurable"

def placeOfArg (v : Value) (n default_ : Nat) : Run Nat := do
  if v.isUndefined then return default_
  return Number.relative (← toInteger E v) n

def likeOf (a : Addr) (n : Nat) : Run Addr := do
  if !(← isArray (.object a)) then fresh
  else
    match ← getOf E a constructorKey with
    | .undefined => fresh
    | .object c =>
      if c == Intrinsic.arrayMaker.addr then fresh
      else
        let species ← getOf E c WellKnown.species.key
        if species.isNullish then fresh else made species
    | c => made c
where
  fresh : Run Addr := do
    match ← newArray #[] with
    | .object a => return a
    | _ => return 0
  made (c : Value) : Run Addr := do
    if !(← isConstructor c) then typeError "not a constructor"
    match ← E.construct c #[.nat n] c with
    | .object r => return r
    | _ => typeError "not an object"

def make (args : Array Value) (newTarget : Option Value) : Run Value := do
  let proto ← prototypeFor E (newTarget.getD .undefined) .arrayPrototype
  match args.size, arg args 0 with
  | 1, .number x =>
    match Number.toNat? x with
    | some n =>
      if 0x1_0000_0000 ≤ n then rangeError "invalid array length"
      return .object (← newOrdinary (some proto) (.array #[] n false))
    | none => rangeError "invalid array length"
  | _, _ => return .object (← newOrdinary (some proto) (.array (args.map some) args.size false))

-- The object that `from` and `of` fill: an array, or what their `this` constructs.
def target (this : Value) (args : Array Value) : Run Addr := do
  if ← isConstructor this then
    match ← E.construct this args this with
    | .object a => return a
    | _ => typeError "not an object"
  else
    match ← newArray #[] with
    | .object a => return a
    | _ => typeError "not an object"

def fromValue (this items f thisArg : Value) : Run Value := do
  if !f.isUndefined then needCallable f
  let place (v : Value) (i : Nat) : Run Value :=
    if f.isUndefined then pure v else E.call f thisArg #[v, .nat i]
  match ← getMethod E items WellKnown.iterator.key with
  | some _ =>
    let a ← target E this #[]
    match ← iterate E items 0 (β := Empty) fun i item => do
      createAt a i (← place item i)
      return .inl (i + 1) with
    | .inl n =>
      setLength E a n
      return .object a
    | .inr e => nomatch e
  | none =>
    let source ← toObject items
    let n ← lengthOf E source
    let a ← target E this #[.nat n]
    forEachPlace n fun i => do createAt a i (← place (← itemAt E source i) i)
    setLength E a n
    return .object a

def ofItems (this : Value) (args : Array Value) : Run Value := do
  let a ← target E this #[.nat args.size]
  forEachPlace args.size fun i => createAt a i (arg args i)
  setLength E a args.size
  return .object a

def isSpreadable (v : Value) : Run Bool := do
  match v with
  | .object a =>
    let s ← getOf E a WellKnown.isConcatSpreadable.key
    if s.isUndefined then isArray v else return toBool s
  | _ => return false

def concatAll (a : Addr) (args : Array Value) : Run Value := do
  let out ← likeOf E a 0
  let mut n := 0
  for v in #[Value.object a] ++ args do
    if ← isSpreadable E v then
      match v with
      | .object b =>
        let count ← lengthOf E b
        let start := n
        forEachPlace count fun i => do
          if let some item ← itemAt? E b i then createAt out (start + i) item
        n := n + count
      | _ => pure ()
    else
      createAt out n v
      n := n + 1
  setLength E out n
  return .object out

def anyItem (a : Addr) (n : Nat) (f thisArg : Value) (wanted : Bool) : Run Bool := do
  needCallable f
  match ← walk n () fun i () => do
    match ← itemAt? E a i with
    | none => return .inl ()
    | some v =>
      if toBool (← E.call f thisArg #[v, .nat i, .object a]) == wanted then return .inr ()
      else return .inl () with
  | .inl () => return false
  | .inr () => return true

def forEachItem (a : Addr) (n : Nat) (f thisArg : Value) : Run Value := do
  needCallable f
  forEachPlace n fun i => do
    if let some v ← itemAt? E a i then
      let _ ← E.call f thisArg #[v, .nat i, .object a]
  return .undefined

def mapItems (a : Addr) (n : Nat) (f thisArg : Value) : Run Value := do
  needCallable f
  let out ← likeOf E a n
  if ← isArray (.object out) then
    let _ ← setArrayLength out n
  forEachPlace n fun i => do
    if let some v ← itemAt? E a i then
      createAt out i (← E.call f thisArg #[v, .nat i, .object a])
  return .object out

def filterItems (a : Addr) (n : Nat) (f thisArg : Value) : Run Value := do
  needCallable f
  let out ← likeOf E a 0
  let _ ← walk n 0 (β := Empty) fun i kept => do
    match ← itemAt? E a i with
    | none => return .inl kept
    | some v =>
      if toBool (← E.call f thisArg #[v, .nat i, .object a]) then
        createAt out kept v
        return .inl (kept + 1)
      else return .inl kept
  return .object out

def findPlace (a : Addr) (n : Nat) (place : Nat → Nat) (f thisArg : Value) :
    Run (Option (Nat × Value)) := do
  needCallable f
  match ← walk n () fun step () => do
    let i := place step
    let v ← itemAt E a i
    if toBool (← E.call f thisArg #[v, .nat i, .object a]) then return .inr (i, v) else return .inl () with
  | .inl () => return none
  | .inr r => return some r

def foundItem : Option (Nat × Value) → Value
  | some (_, v) => v
  | none => .undefined

def foundPlace : Option (Nat × Value) → Value
  | some (i, _) => .nat i
  | none => .number (-1.0)

def reduceItems (a : Addr) (n : Nat) (place : Nat → Nat) (args : Array Value) : Run Value := do
  let f := arg args 0
  needCallable f
  let start := if 1 < args.size then some (arg args 1) else none
  match ← walk n start (β := Empty) fun step acc => do
    let i := place step
    match ← itemAt? E a i with
    | none => return .inl acc
    | some v =>
      match acc with
      | none => return .inl (some v)
      | some acc => return .inl (some (← E.call f .undefined #[acc, v, .nat i, .object a])) with
  | .inl (some v) => return v
  | .inl none => typeError "empty array"
  | .inr e => nomatch e

def indexOfItem (a : Addr) (n : Nat) (args : Array Value) : Run Value := do
  let first ← placeOfArg E (arg args 1) n 0
  match ← walk (n - first) () fun step () => do
    let i := first + step
    match ← itemAt? E a i with
    | some v => if strictEqual v (arg args 0) then return .inr i else return .inl ()
    | none => return .inl () with
  | .inl () => return .number (-1.0)
  | .inr i => return .nat i

def lastIndexOfItem (a : Addr) (n : Nat) (args : Array Value) : Run Value := do
  let count ← if 1 < args.size then do
      let x ← toInteger E (arg args 1)
      pure (if x < 0.0 then
        (if Double.ofWhole n < -x then 0 else n - Number.clampNat (-x) n + 1)
        else min n (Number.clampNat x n + 1))
    else pure n
  match ← walk count () fun step () => do
    let i := count - 1 - step
    match ← itemAt? E a i with
    | some v => if strictEqual v (arg args 0) then return .inr i else return .inl ()
    | none => return .inl () with
  | .inl () => return .number (-1.0)
  | .inr i => return .nat i

def includesItem (a : Addr) (n : Nat) (args : Array Value) : Run Value := do
  let first ← placeOfArg E (arg args 1) n 0
  match ← walk (n - first) () fun step () => do
    if sameMember (← itemAt E a (first + step)) (arg args 0) then return .inr () else return .inl () with
  | .inl () => return .bool false
  | .inr () => return .bool true

def itemText (v : Value) : Run Units := do
  if v.isNullish then return #[] else toUnits E v

def joinItems (a : Addr) (n : Nat) (separator : Units) (text : Value → Run Units) : Run Value := do
  match ← walk n (#[] : Units) (β := Empty) fun i acc => do
    let u ← text (← itemAt E a i)
    return .inl (← checkString ((if i == 0 then acc else acc ++ separator) ++ u)) with
  | .inl u => return .string u
  | .inr e => nomatch e

def join (a : Addr) (n : Nat) (separator : Value) : Run Value := do
  let separator ← if separator.isUndefined then pure #[0x2c] else toUnits E separator
  joinItems E a n separator (itemText E)

def localeText (v : Value) : Run Units := do
  if v.isNullish then return #[] else toUnits E (← invoke E v (.ofString "toLocaleString") #[])

def pop (a : Addr) (n : Nat) : Run Value := do
  match n with
  | 0 =>
    setLength E a 0
    return .undefined
  | n + 1 =>
    let v ← itemAt E a n
    deleteAt a n
    setLength E a n
    return v

def push (a : Addr) (n : Nat) (args : Array Value) : Run Value := do
  if Number.maxSafe < n + args.size then typeError "Array loo long"
  forEachPlace args.size fun i => putAt E a (n + i) (arg args i)
  setLength E a (n + args.size)
  return .nat (n + args.size)

def moveItem (a : Addr) (source goal : Nat) : Run Unit := do
  match ← itemAt? E a source with
  | some v => putAt E a goal v
  | none => deleteAt a goal

def shift (a : Addr) (n : Nat) : Run Value := do
  match n with
  | 0 =>
    setLength E a 0
    return .undefined
  | n + 1 =>
    let v ← itemAt E a 0
    forEachPlace n fun i => moveItem E a (i + 1) i
    deleteAt a n
    setLength E a n
    return v

def unshift (a : Addr) (n : Nat) (args : Array Value) : Run Value := do
  let k := args.size
  if 0 < k then
    forEachPlace n fun step =>
      let i := n - 1 - step
      moveItem E a i (i + k)
    forEachPlace k fun i => putAt E a i (arg args i)
  setLength E a (n + k)
  return .nat (n + k)

def reverse (a : Addr) (n : Nat) : Run Value := do
  forEachPlace (n / 2) fun i => do
    let j := n - 1 - i
    let front ← itemAt? E a i
    let back ← itemAt? E a j
    match back with
    | some v => putAt E a i v
    | none => if front.isSome then deleteAt a i
    match front with
    | some v => putAt E a j v
    | none => if back.isSome then deleteAt a j
  return .object a

def itemsOf (a : Addr) (n : Nat) (place : Nat → Nat) : Run (Array Value) := do
  checkItems n
  match ← walk n (#[] : Array Value) (β := Empty) fun i acc => do
    return .inl (acc.push (← itemAt E a (place i))) with
  | .inl items => return items
  | .inr e => nomatch e

-- Whether a value must stand behind another: by the function, or by their texts.
def behindOf (f : Value) : Sorting.Behind (Value × Units) := fun x y => do
  tick
  if f.isUndefined then return y.2.less x.2
  else if sameValue x.1 y.1 then return false
  else return 0.0 < (← toNumber E (← E.call f .undefined #[x.1, y.1]))

-- Values in order; those that are undefined stand last.
def sorted (f : Value) (items : List Value) : Run (List Value) := do
  let (undefineds, rest) := items.partition Value.isUndefined
  let keyed ← rest.foldlM (fun (acc : Array (Value × Units)) v => do
    let u ← if f.isUndefined then toUnits E v else pure #[]
    return acc.push (v, u)) #[]
  let result ← Sorting.sort (behindOf E f) (keyed.size + 1) keyed.toList
  return result.map (·.1) ++ undefineds

def checkComparator (f : Value) : Run Unit := do
  if !f.isUndefined then needCallable f

def sortItems (a : Addr) (n : Nat) (f : Value) : Run Value := do
  let present ← match ← walk n (#[] : Array Value) (β := Empty) fun i acc => do
      match ← itemAt? E a i with
      | some v => return .inl (acc.push v)
      | none => return .inl acc with
    | .inl items => pure items
    | .inr e => nomatch e
  let result := (← sorted E f present.toList).toArray
  forEachPlace result.size fun i => putAt E a i (arg result i)
  forEachPlace (n - result.size) fun i => deleteAt a (result.size + i)
  return .object a

def slice (a : Addr) (n : Nat) (args : Array Value) : Run Value := do
  let first ← placeOfArg E (arg args 0) n 0
  let last ← placeOfArg E (arg args 1) n n
  let count := last - first
  let out ← likeOf E a count
  forEachPlace count fun i => do
    if let some v ← itemAt? E a (first + i) then createAt out i v
  setLength E out count
  return .object out

def spliceRange (n : Nat) (args : Array Value) : Run (Nat × Nat) := do
  let first ← placeOfArg E (arg args 0) n 0
  let removed ← match args.size with
    | 0 => pure 0
    | 1 => pure (n - first)
    | _ => do pure (Number.clampNat (← toInteger E (arg args 1)) (n - first))
  return (first, removed)

def splice (a : Addr) (n : Nat) (args : Array Value) : Run Value := do
  let (first, removed) ← spliceRange E n args
  let added := args.extract 2 args.size
  let out ← likeOf E a removed
  forEachPlace removed fun i => do
    if let some v ← itemAt? E a (first + i) then createAt out i v
  setLength E out removed
  let tail := n - first - removed
  if added.size < removed then
    forEachPlace tail fun i => moveItem E a (first + removed + i) (first + added.size + i)
    forEachPlace (removed - added.size) fun step => deleteAt a (n - 1 - step)
  else if removed < added.size then
    forEachPlace tail fun step =>
      let i := tail - 1 - step
      moveItem E a (first + removed + i) (first + added.size + i)
  forEachPlace added.size fun i => putAt E a (first + i) (arg added i)
  setLength E a (n + added.size - removed)
  return .object out

def toSpliced (a : Addr) (n : Nat) (args : Array Value) : Run Value := do
  let (first, removed) ← spliceRange E n args
  let front ← itemsOf E a first id
  let back ← itemsOf E a (n - first - removed) (first + removed + ·)
  newArray (front ++ args.extract 2 args.size ++ back)

def copyWithin (a : Addr) (n : Nat) (args : Array Value) : Run Value := do
  let goal ← placeOfArg E (arg args 0) n 0
  let first ← placeOfArg E (arg args 1) n 0
  let last ← placeOfArg E (arg args 2) n n
  let count := min (last - first) (n - goal)
  forEachPlace count fun step =>
    let i := if first < goal then count - 1 - step else step
    moveItem E a (first + i) (goal + i)
  return .object a

def fill (a : Addr) (n : Nat) (args : Array Value) : Run Value := do
  let first ← placeOfArg E (arg args 1) n 0
  let last ← placeOfArg E (arg args 2) n n
  forEachPlace (last - first) fun i => putAt E a (first + i) (arg args 0)
  return .object a

def flattenInto (out : Addr) : (depth : Nat) → (a : Addr) → (start : Nat) → Run Nat
  | 0, a, start => do
    let n ← lengthOf E a
    match ← walk n start (β := Empty) fun i at_ => do
      match ← itemAt? E a i with
      | none => return .inl at_
      | some v =>
        createAt out at_ v
        return .inl (at_ + 1) with
    | .inl at_ => return at_
    | .inr e => nomatch e
  | depth + 1, a, start => do
    let n ← lengthOf E a
    match ← walk n start (β := Empty) fun i at_ => do
      match ← itemAt? E a i with
      | none => return .inl at_
      | some v =>
        match v with
        | .object b =>
          if ← isArray v then return .inl (← flattenInto out depth b at_)
          else
            createAt out at_ v
            return .inl (at_ + 1)
        | v =>
          createAt out at_ v
          return .inl (at_ + 1) with
    | .inl at_ => return at_
    | .inr e => nomatch e

def maxFlattened : Nat := 1000

def flat (a : Addr) (depth : Value) : Run Value := do
  let depth ← if depth.isUndefined then pure 1 else do
    pure (Number.clampNat (← toInteger E depth) maxFlattened)
  let out ← likeOf E a 0
  let _ ← flattenInto E out depth a 0
  return .object out

def flatMap (a : Addr) (n : Nat) (f thisArg : Value) : Run Value := do
  needCallable f
  let out ← likeOf E a 0
  let _ ← walk n 0 (β := Empty) fun i at_ => do
    match ← itemAt? E a i with
    | none => return .inl at_
    | some v =>
      let r ← E.call f thisArg #[v, .nat i, .object a]
      match r with
      | .object b =>
        if ← isArray r then return .inl (← flattenInto E out 0 b at_)
        else
          createAt out at_ r
          return .inl (at_ + 1)
      | r =>
        createAt out at_ r
        return .inl (at_ + 1)
  return .object out

def itemFrom (a : Addr) (n : Nat) (v : Value) : Run Value := do
  let x ← toInteger E v
  let i := if x < 0.0 then Double.ofWhole n + x else x
  match Number.toNat? i with
  | some i => if i < n then itemAt E a i else return .undefined
  | none => return .undefined

def replaced (a : Addr) (n : Nat) (args : Array Value) : Run Value := do
  let x ← toInteger E (arg args 0)
  let i := if x < 0.0 then Double.ofWhole n + x else x
  match Number.toNat? i with
  | some j =>
    if n ≤ j then rangeError ("invalid array index: " ++ Number.text i)
    let items ← itemsOf E a n id
    newArray (items.setIfInBounds j (arg args 1))
  | none => rangeError ("invalid array index: " ++ Number.text i)

def iterator (a : Addr) (kind : IterationKind) : Run Value := do
  return .object (← newOrdinary (some Intrinsic.arrayIteratorPrototype.addr)
    (.arrayIterator (.object a) 0 kind))

def runMethod (f : ArrayFn) (a : Addr) (n : Nat) (args : Array Value) : Run Value := do
  let v := arg args 0
  let thisArg := arg args 1
  match f with
  | .at => itemFrom E a n v
  | .with => replaced E a n args
  | .concat => concatAll E a args
  | .every => return .bool (!(← anyItem E a n v thisArg false))
  | .some => return .bool (← anyItem E a n v thisArg true)
  | .forEach => forEachItem E a n v thisArg
  | .map => mapItems E a n v thisArg
  | .filter => filterItems E a n v thisArg
  | .reduce => reduceItems E a n id args
  | .reduceRight => reduceItems E a n (n - 1 - ·) args
  | .fill => fill E a n args
  | .find => return foundItem (← findPlace E a n id v thisArg)
  | .findIndex => return foundPlace (← findPlace E a n id v thisArg)
  | .findLast => return foundItem (← findPlace E a n (n - 1 - ·) v thisArg)
  | .findLastIndex => return foundPlace (← findPlace E a n (n - 1 - ·) v thisArg)
  | .indexOf => indexOfItem E a n args
  | .lastIndexOf => lastIndexOfItem E a n args
  | .includes => includesItem E a n args
  | .join => join E a n v
  | .toLocaleString => joinItems E a n #[0x2c] (localeText E)
  | .pop => pop E a n
  | .push => push E a n args
  | .shift => shift E a n
  | .unshift => unshift E a n args
  | .reverse => reverse E a n
  | .toReversed => newArray (← itemsOf E a n (n - 1 - ·))
  | .sort => sortItems E a n v
  | .toSorted => newArray (← sorted E v (← itemsOf E a n id).toList).toArray
  | .slice => slice E a n args
  | .splice => splice E a n args
  | .toSpliced => toSpliced E a n args
  | .copyWithin => copyWithin E a n args
  | .flatMap => flatMap E a n v thisArg
  | .flat => flat E a v
  | _ => return .undefined

def run (f : ArrayFn) (this : Value) (args : Array Value) (newTarget : Option Value) : Run Value := do
  match f with
  | .make => make E args newTarget
  | .isArray => return .bool (← isArray (arg args 0))
  | .from => fromValue E this (arg args 0) (arg args 1) (arg args 2)
  | .of => ofItems E this args
  | .species => return this
  | .values => iterator (← toObject this) .values
  | .keys => iterator (← toObject this) .keys
  | .entries => iterator (← toObject this) .entries
  | .toString =>
    let a ← toObject this
    let j ← getOf E a (.ofString "join")
    if ← isCallable j then E.call j (.object a) #[] else ObjectFn.tagOf E (.object a)
  | .sort | .toSorted =>
    checkComparator (arg args 0)
    let a ← toObject this
    runMethod E f a (← lengthOf E a) args
  | f =>
    let a ← toObject this
    runMethod E f a (← lengthOf E a) args

end
end BoundedScript.Script.ArrayObject
