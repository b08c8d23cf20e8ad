import BoundedScript.Proofs.Script.Outcomes
import BoundedScript.Proofs.Script.Tables
import BoundedScript.Script.World

set_option autoImplicit false

namespace BoundedScript.Script

open Run

inductive Label where
  | name (n : String)
  | symbol (w : WellKnown)

namespace Label

def key : Label → PropKey
  | .name n => .ofString n
  | .symbol w => w.key

theorem key_inj {l m : Label} (same : l.key = m.key) : l = m := by
  cases l with
  | name n =>
    cases m with
    | name k => exact congrArg Label.name (PropKey.ofString_inj same)
    | symbol w => exact absurd same (PropKey.ofUnits_ne_symbol _ _)
  | symbol w =>
    cases m with
    | name k => exact absurd same.symm (PropKey.ofUnits_ne_symbol _ _)
    | symbol v =>
      have ids : w.ctorIdx = v.ctorIdx := PropKey.symbol.inj same
      cases w <;> cases v <;> first | rfl | cases ids

end Label

namespace Native

def isTame : Native → Bool
  | .object .valueOf | .object .toString | .function .toString => true
  | _ => false

def isTeller : Native → Bool
  | .regexp .toString => true
  | f => f.isTame

def isGetter : Native → Bool
  | .regexp .source | .regexp .flags | .regexp (.flag _) => true
  | _ => false

def isUnits : Native → Bool
  | .string .iterator => true
  | _ => false

def isMath : Native → Bool
  | .math _ => true
  | _ => false

-- What comes to a value of its own, out of its arguments and of a primitive value that it is called on.
def isSteady : Native → Bool
  | .global _ | .number _ | .boolean .make => true
  | .string f => match f with
    | .raw | .match | .matchAll | .search | .replace | .replaceAll | .split | .iterator | .toString => false
    | _ => true
  | _ => false

end Native

def Value.isPlain : Value → Bool
  | .symbol _ | .object _ => false
  | _ => true

inductive Demand where
  | free
  | absent
  | value
  | tame
  | tameValue
  | teller
  | getter
  | units
  | parent
  | steady
  | reckons
  | fixed
  | math
  deriving DecidableEq

def fixedNames : List String :=
  ["NaN", "Infinity", "undefined"]

-- Functions at the top that are called under their names.
def calledNames : List String :=
  ["parseInt", "parseFloat", "isNaN", "isFinite", "decodeURI", "decodeURIComponent", "encodeURI",
   "encodeURIComponent", "Number", "String", "Boolean"]

def hostNames : List String :=
  ["Object", "Error", "AggregateError", "EvalError", "RangeError", "ReferenceError", "SyntaxError", "TypeError",
   "URIError", "InternalError", "Array", "Symbol", "BigInt", "JSON", "Reflect", "globalThis", "Map", "Set", "RegExp",
   "Date", "Promise"]

-- What all objects have.
def objectNames : List String :=
  ["constructor", "toLocaleString", "hasOwnProperty", "isPrototypeOf", "propertyIsEnumerable"]

-- What is drawn by lot is no value of its own.
def mathNames : List String :=
  (MathFn.table.map (·.1)).filter (· != "random")

def mathConstants : List String :=
  MathFn.constants.map (·.1)

-- Methods of strings and of numbers that give values of their own.
def methodNames : List String :=
  ["at", "charCodeAt", "charAt", "concat", "codePointAt", "isWellFormed", "toWellFormed", "indexOf", "lastIndexOf",
   "includes", "endsWith", "startsWith", "substring", "substr", "slice", "repeat", "padEnd", "padStart", "trim",
   "trimEnd", "trimStart", "toLowerCase", "toUpperCase", "toLocaleLowerCase", "toLocaleUpperCase", "localeCompare",
   "normalize", "toExponential", "toFixed", "toPrecision"]

def shownNames : List String :=
  ["source", "flags", "hasIndices", "global", "ignoreCase", "multiline", "dotAll", "unicode", "sticky"]

def demandAt (i : Intrinsic) : Label → Demand
  | .name n =>
    match i with
    | .global =>
      if n ∈ fixedNames then .fixed
      else if n = "Math" then .math
      else if n ∈ calledNames then .steady
      else if n ∈ hostNames then .value
      else .absent
    | .objectPrototype =>
      if n = "__proto__" then .parent
      else if n = "valueOf" ∨ n = "toString" then .tameValue
      else if n ∈ objectNames then .value
      else .absent
    | .arrayPrototype => if n = "toJSON" then .absent else .value
    | .functionPrototype =>
      if n = "valueOf" ∨ n = "toString" then .tame else if n ∈ methodNames then .absent else .free
    | .regexpPrototype =>
      if n ∈ shownNames then .getter
      else if n = "valueOf" ∨ n = "toString" then .teller
      else if n ∈ methodNames then .absent
      else .free
    | .stringPrototype | .numberPrototype => if n ∈ methodNames then .steady else .free
    | .booleanPrototype | .bigintPrototype => if n ∈ methodNames then .absent else .free
    | .math => if n ∈ mathNames then .reckons else if n ∈ mathConstants then .fixed else .free
    | _ => .free
  | .symbol .iterator =>
    match i with
    | .stringPrototype => .units
    | .objectPrototype | .functionPrototype | .regexpPrototype | .numberPrototype | .booleanPrototype
    | .bigintPrototype => .absent
    | _ => .free
  | .symbol .toPrimitive | .symbol .toStringTag =>
    match i with
    | .objectPrototype | .functionPrototype | .regexpPrototype => .absent
    | _ => .free
  | .symbol .match =>
    match i with
    | .objectPrototype | .functionPrototype => .absent
    | .regexpPrototype => .value
    | _ => .free
  | .symbol _ => .free

def watched : List Intrinsic :=
  [.global, .objectPrototype, .functionPrototype, .arrayPrototype, .stringPrototype, .numberPrototype,
   .booleanPrototype, .bigintPrototype, .regexpPrototype, .math]

def demand (a : Addr) (l : Label) : Demand :=
  match watched.find? (·.addr == a) with
  | some i => demandAt i l
  | none => .free

theorem demand_addr (i : Intrinsic) (l : Label) : demand i.addr l = demandAt i l := by
  cases i <;> first | rfl | (cases l with | name n => rfl | symbol w => cases w <;> rfl)

def Unwatched (a : Addr) : Prop :=
  ∀ i ∈ watched, i.addr ≠ a

instance (a : Addr) : Decidable (Unwatched a) :=
  inferInstanceAs (Decidable (∀ i ∈ watched, i.addr ≠ a))

def Above (a : Addr) : Prop :=
  Intrinsic.count ≤ a

theorem Intrinsic.addr_lt (i : Intrinsic) : i.addr < Intrinsic.count := by
  cases i <;> decide

theorem Above.unwatched {a : Addr} (above : Above a) : Unwatched a :=
  fun i _ same => absurd above (Nat.not_le.mpr (same ▸ i.addr_lt))

theorem Unwatched.free {a : Addr} (unwatched : Unwatched a) (l : Label) : demand a l = .free := by
  have none : watched.find? (·.addr == a) = none := by
    rw [List.find?_eq_none]
    intro i inside same
    exact unwatched i inside (beq_iff_eq.mp same)
  rw [demand, none]

def IsNative (heap : Array Obj) (a : Addr) (f : Native) : Prop :=
  Above a ∧ ∃ o, heap[a]? = some o ∧ o.kind = .native f

namespace Demand

def Met (heap : Array Obj) (p : Property) : Demand → Prop
  | .free => True
  | .absent => False
  | .value => ∃ v, p.slot = .data v true
  | .tame => ∃ a f w, IsNative heap a f ∧ f.isTame ∧ p.slot = .data (.object a) w
  | .tameValue => ∃ a f, IsNative heap a f ∧ f.isTame ∧ p.slot = .data (.object a) true
  | .teller => ∃ a f w, IsNative heap a f ∧ f.isTeller ∧ p.slot = .data (.object a) w
  | .getter => ∃ a f s, IsNative heap a f ∧ f.isGetter ∧ p.slot = .accessor (.object a) s
  | .units => ∃ a f w, IsNative heap a f ∧ f.isUnits ∧ p.slot = .data (.object a) w
  | .parent => ∃ g a, IsNative heap a (.object .protoSet) ∧ p.slot = .accessor g (.object a)
  | .steady => ∃ a f, IsNative heap a f ∧ f.isSteady ∧ p.slot = .data (.object a) true
  | .reckons => ∃ a f, IsNative heap a f ∧ f.isMath ∧ p.slot = .data (.object a) true
  | .fixed => ∃ v w, v.isPlain ∧ p.slot = .data v w
  | .math => p.slot = .data Intrinsic.math.value true

def admits (f : Native) : Demand → Bool
  | .free | .value => true
  | .tame | .tameValue => f.isTame
  | .teller => f.isTeller
  | .units => f.isUnits
  | .steady => f.isSteady
  | .reckons => f.isMath
  | .absent | .getter | .parent | .fixed | .math => false

def admitsGetter (f : Native) : Demand → Bool
  | .free => true
  | .getter => f.isGetter
  | _ => false

def admitsValue : Demand → Bool
  | .free | .value => true
  | _ => false

section

variable {heap : Array Obj} {a : Addr} {f : Native} {d : Demand}

theorem met_native (native : IsNative heap a f) (admitted : d.admits f = true) :
    d.Met heap (.hidden (.object a)) := by
  cases d with
  | free => trivial
  | value => exact ⟨_, rfl⟩
  | tame | teller | units => exact ⟨a, f, true, native, admitted, rfl⟩
  | tameValue | steady | reckons => exact ⟨a, f, native, admitted, rfl⟩
  | absent | getter | parent | fixed | math => cases admitted

theorem met_getter (native : IsNative heap a f) (admitted : d.admitsGetter f = true) :
    d.Met heap ⟨.accessor (.object a) .undefined, false, true⟩ := by
  cases d with
  | free => trivial
  | getter => exact ⟨a, f, _, native, admitted, rfl⟩
  | _ => cases admitted

theorem met_hidden (v : Value) (admitted : d.admitsValue = true) : d.Met heap (.hidden v) := by
  cases d with
  | free => trivial
  | value => exact ⟨_, rfl⟩
  | _ => cases admitted

theorem Met.mono {heap' : Array Obj} {p : Property} (kept : ∀ a f, IsNative heap a f → IsNative heap' a f)
    (met : d.Met heap p) : d.Met heap' p := by
  cases d with
  | free => trivial
  | absent => exact met
  | value | fixed | math => exact met
  | tameValue | steady | reckons => exact met.imp fun a => .imp fun f => .imp_left (kept a f)
  | tame | teller | getter | units => exact met.imp fun a => .imp fun f => .imp fun w => .imp_left (kept a f)
  | parent => exact met.imp fun g => .imp fun a => .imp_left (kept a _)

end

end Demand

structure Decent (heap : Array Obj) (a : Addr) (o : Obj) : Prop where
  held : ∀ l p, o.props.get? l.key = some p → (demand a l).Met heap p
  parent : ∀ i ∈ watched, a = i.addr → ∀ b, o.parent = some b → b = Intrinsic.objectPrototype.addr
  plain : a = Intrinsic.global.addr ∨ a = Intrinsic.objectPrototype.addr → o.kind = .ordinary ∧ o.extensible = true
  list : a = Intrinsic.arrayPrototype.addr → o.kind = .ordinary ∨ ∃ items length, o.kind = .array items length false

/-- The interpreter's own objects are there, and as they should be. -/
structure Furnished (realm : Realm) : Prop where
  idle : realm.callDepth = 0
  room : Intrinsic.count ≤ realm.heap.size
  decent : ∀ a o, realm.heap[a]? = some o → Decent realm.heap a o

theorem Decent.mono {heap heap' : Array Obj} {a : Addr} {o : Obj}
    (kept : ∀ a f, IsNative heap a f → IsNative heap' a f) (decent : Decent heap a o) : Decent heap' a o :=
  ⟨fun l p found => (decent.held l p found).mono kept, decent.parent, decent.plain, decent.list⟩

theorem Unwatched.decent {a : Addr} (unwatched : Unwatched a) (heap : Array Obj) (o : Obj) : Decent heap a o where
  held l p _ := by
    rw [unwatched.free]
    trivial
  parent i inside same := absurd same.symm (unwatched i inside)
  plain same := by
    rcases same with rfl | rfl
    · exact absurd rfl (unwatched .global (by simp [watched]))
    · exact absurd rfl (unwatched .objectPrototype (by simp [watched]))
  list same := absurd same.symm (unwatched .arrayPrototype (by simp [watched]))

def left {α : Type} : EStateM.Result Abrupt Realm α → Realm
  | .ok _ s | .error _ s => s

/-- A computation keeps the interpreter's own objects as they should be, and what it gives is too. -/
def Keeps {α : Type} (x : Run α) (Q : α → Prop := fun _ => True) : Prop :=
  ∀ s, Furnished s → Furnished (left (x s)) ∧ ∀ a after, x s = .ok a after → Q a

theorem IsNative.modify {heap : Array Obj} {a b : Addr} {f : Obj → Obj} {g : Native} (native : IsNative heap b g)
    (kind : a = b → ∀ o, (f o).kind = o.kind) : IsNative (heap.modify a f) b g := by
  obtain ⟨above, o, there, native⟩ := native
  rw [IsNative, Array.getElem?_modify, there]
  split
  next same => exact ⟨above, f o, rfl, (kind same o).trans native⟩
  next => exact ⟨above, o, rfl, native⟩

namespace Furnished

variable {s : Realm}

theorem alloc (furnished : Furnished s) (o : Obj) : Furnished { s with heap := s.heap.push o } := by
  refine ⟨furnished.idle, ?_, ?_⟩
  · rw [Array.size_push]
    exact Nat.le_succ_of_le furnished.room
  · intro a p found
    rw [Array.getElem?_push] at found
    split at found
    next last => exact (Above.unwatched (last ▸ furnished.room)).decent _ p
    next =>
      refine (furnished.decent a p found).mono ?_
      rintro b f ⟨above, q, there, native⟩
      refine ⟨above, q, ?_, native⟩
      rw [Array.getElem?_push, if_neg (Nat.ne_of_lt (Array.getElem?_eq_some_iff.mp there).1)]
      exact there

theorem modify (furnished : Furnished s) {a : Addr} {f : Obj → Obj}
    (decent : ∀ o, Decent s.heap a o → Decent s.heap a (f o)) (kind : Above a → ∀ o, (f o).kind = o.kind) :
    Furnished { s with heap := s.heap.modify a f } := by
  have kept : ∀ b g, IsNative s.heap b g → IsNative (s.heap.modify a f) b g :=
    fun b g native => native.modify fun same => kind (same ▸ native.1)
  refine ⟨furnished.idle, ?_, ?_⟩
  · rw [Array.size_modify]
    exact furnished.room
  · intro b o found
    rw [Array.getElem?_modify] at found
    split at found
    next same =>
      subst same
      obtain ⟨p, there, rfl⟩ := Option.map_eq_some_iff.mp found
      exact (decent p (furnished.decent a p there)).mono kept
    next => exact (furnished.decent b o found).mono kept

theorem put (furnished : Furnished s) {a : Addr} {l : Label} {p : Property} (met : (demand a l).Met s.heap p) :
    Furnished { s with heap := s.heap.modify a (·.put l.key p) } := by
  refine furnished.modify (fun o decent => ?_) fun _ _ => rfl
  refine ⟨?_, decent.parent, decent.plain, decent.list⟩
  intro m q found
  change (o.props.insert l.key p).get? m.key = some q at found
  rw [PropTable.get?_insert] at found
  split at found
  next same =>
    cases found
    rwa [← Label.key_inj same]
  next => exact decent.held m q found

end Furnished

def Label.isWord : Label → Bool
  | .name n => !(Units.unitsOf n.toList).all Units.isDigit
  | .symbol _ => true

-- What the objects that scripts make have of their own.
def Label.isOwn : Label → Bool
  | .name n => n == "length" || n == "name" || n == "lastIndex"
  | .symbol _ => false

theorem Label.key_word {n : String} (word : (Label.name n).isWord = true) :
    (Label.name n).key = .name (Units.ofString n) := by
  have some : (Units.ofString n).all Units.isDigit = false := by
    rw [← Array.all_toList, Units.ofString_toList]
    simpa [isWord] using word
  rw [key, PropKey.ofString, PropKey.ofUnits, PropKey.indexOf?, some]
  simp

theorem Label.index?_of_isWord {l : Label} (word : l.isWord = true) : l.key.index? = none := by
  cases l with
  | name n =>
    rw [Label.key_word word]
    rfl
  | symbol w => rfl

theorem putOwn_word {k : PropKey} (word : k.index? = none) (a : Addr) (p : Property) (s : Realm) :
    putOwn a k p s = .ok () { s with heap := s.heap.modify a (·.put k p) } := by
  have got : getObj a s = .ok (s.heap[a]?.getD default) s := rfl
  rw [putOwn, bind_of_ok got]
  generalize (s.heap[a]?.getD default).kind = kind
  cases k with
  | index n => cases word
  | name u => cases kind <;> rfl
  | symbol id => cases kind <;> rfl

namespace Keeps

variable {α β γ : Type} {P Q : α → Prop} {R : β → Prop} {a : Addr} {l : Label}

theorem of_ok {x : Run α} (same : ∀ s, Furnished s → ∃ a after, x s = .ok a after ∧ Furnished after ∧ Q a) :
    Keeps x Q := by
  intro s furnished
  obtain ⟨a, after, ran, keeps, good⟩ := same s furnished
  rw [ran]
  refine ⟨keeps, ?_⟩
  rintro b last ⟨⟩
  exact good

theorem pure {a : α} (good : Q a) : Keeps (Pure.pure a) Q :=
  of_ok fun s furnished => ⟨a, s, rfl, furnished, good⟩

theorem bind {x : Run α} {f : α → Run β} (first : Keeps x Q) (next : ∀ a, Q a → Keeps (f a) R) :
    Keeps (x >>= f) R := by
  intro s furnished
  have kept := first s furnished
  cases ran : x s with
  | ok a after =>
    rw [ran] at kept
    rw [bind_of_ok ran]
    exact next a (kept.2 a after rfl) after kept.1
  | error e after =>
    rw [ran] at kept
    rw [bind_of_error ran]
    exact ⟨kept.1, fun _ _ => nofun⟩

theorem behind {x : Run α} {f : α → Run β} (first : Keeps x) (next : ∀ a, Keeps (f a) R) : Keeps (x >>= f) R :=
  first.bind fun a _ => next a

theorem forIn {l : List α} {f : α → β → Run (ForInStep β)}
    (each : ∀ a ∈ l, ∀ b, Keeps (f a b)) (b : β) : Keeps (ForIn.forIn l b f) := by
  induction l generalizing b with
  | nil => exact pure trivial
  | cons a l ih =>
    rw [List.forIn_cons]
    refine (each a List.mem_cons_self b).bind fun step _ => ?_
    cases step with
    | done c => exact pure trivial
    | yield c => exact ih (fun a inside => each a (List.mem_cons_of_mem _ inside)) c

theorem each {l : List α} {f : α → Run Unit} (each : ∀ a ∈ l, Keeps (f a)) :
    Keeps (ForIn.forIn l PUnit.unit fun a _ => do
      f a
      return ForInStep.yield PUnit.unit) :=
  forIn (fun a inside _ => (each a inside).behind fun _ => pure trivial) _

theorem modifyObj {f : Obj → Obj} (decent : ∀ heap o, Decent heap a o → Decent heap a (f o))
    (kind : Above a → ∀ o, (f o).kind = o.kind) : Keeps (modifyObj a f) :=
  of_ok fun _ furnished => ⟨(), _, rfl, furnished.modify (decent _) kind, trivial⟩

theorem put {p : Property} (word : l.isWord = true) (met : ∀ heap, (demand a l).Met heap p) :
    Keeps (putOwn a l.key p) :=
  of_ok fun s furnished =>
    ⟨(), _, putOwn_word (Label.index?_of_isWord word) a p s, furnished.put (met _), trivial⟩

theorem putFree {p : Property} (word : l.isWord = true) (free : demand a l = .free) : Keeps (putOwn a l.key p) :=
  put word fun heap => by
    rw [free]
    trivial

end Keeps

namespace World

open Keeps (behind of_ok forIn)

section

variable {a : Addr} {l : Label}

def nativeObject (f : Native) (name : String) (length : Nat) : Obj :=
  ⟨some Intrinsic.functionPrototype.addr, functionProps (.text name) length, true, .native f⟩

theorem makeNative_apply (f : Native) (name : String) (length : Nat) (s : Realm) :
    makeNative f name length s =
      .ok (.object s.heap.size) { s with heap := s.heap.push (nativeObject f name length) } :=
  rfl

theorem makeNative_keeps (f : Native) (name : String) (length : Nat) :
    Keeps (makeNative f name length) fun v => ∃ a, v = .object a ∧ Above a :=
  of_ok fun s furnished =>
    ⟨_, _, makeNative_apply f name length s, furnished.alloc _, s.heap.size, rfl, furnished.room⟩

theorem putNative_keeps {f : Native} {p : Value → Property} (word : l.isWord = true)
    (met : ∀ heap b, IsNative heap b f → (demand a l).Met heap (p (.object b))) (name : String) (length : Nat) :
    Keeps (do putOwn a l.key (p (← makeNative f name length))) := by
  refine of_ok fun s furnished => ?_
  have made := makeNative_apply f name length s
  refine ⟨(), _, (bind_of_ok made _).trans (putOwn_word (Label.index?_of_isWord word) a _ _), ?_, trivial⟩
  refine (furnished.alloc _).put (met _ _ ⟨furnished.room, _, Array.getElem?_push_size, rfl⟩)

theorem add_keeps {name : String} (word : (Label.name name).isWord = true)
    (admitted : (demand a (.name name)).admitsValue = true) (v : Value) : Keeps (add a name v) :=
  Keeps.put (l := .name name) word fun _ => Demand.met_hidden v admitted

theorem addNative_keeps {name : String} {f : Native} (word : (Label.name name).isWord = true)
    (admitted : (demand a (.name name)).admits f = true) (known : String) (length : Nat) :
    Keeps (do add a name (← makeNative f known length)) :=
  putNative_keeps (l := .name name) word (fun _ _ native => Demand.met_native native admitted) known length

theorem addAll_keeps {F : Type} {native : F → Native} {table : FunctionTable F}
    (each : ∀ row ∈ table, (Label.name row.1).isWord = true ∧ (demand a (.name row.1)).admits (native row.2.1) = true) :
    Keeps (addAll a native table) := by
  refine behind (Keeps.each fun row inside => ?_) fun _ => .pure trivial
  exact addNative_keeps (each row inside).1 (each row inside).2 _ _

theorem addFree_keeps {F : Type} {native : F → Native} {table : FunctionTable F} (above : Above a)
    (words : ∀ row ∈ table, (Label.name row.1).isWord = true) : Keeps (addAll a native table) :=
  addAll_keeps fun row inside => ⟨words row inside, by rw [above.unwatched.free]; rfl⟩

theorem addAlias_keeps (word : l.isWord = true) (free : demand a l = .free) (name : String) :
    Keeps (addAlias a l.key name) := by
  refine behind (of_ok fun s furnished => ⟨_, s, rfl, furnished, trivial⟩) fun p => ?_
  cases p with
  | some p => exact .putFree word free
  | none => exact .pure trivial

theorem addGetter_keeps {f : Native} (word : l.isWord = true) (admitted : (demand a l).admitsGetter f = true)
    (name : String) : Keeps (addGetter a l.key name f) :=
  putNative_keeps (p := fun g => ⟨.accessor g .undefined, false, true⟩) word
    (fun _ _ native => Demand.met_getter native admitted) _ _

theorem addSymbol_keeps {w : WellKnown} {f : Native} (admitted : (demand a (.symbol w)).admits f = true)
    (name : String) (length : Nat) : Keeps (addSymbol a w name f length) :=
  putNative_keeps (l := .symbol w) rfl (fun _ _ native => Demand.met_native native admitted) _ _

theorem addTag_keeps {i : Intrinsic} (free : demand i.addr (.symbol .toStringTag) = .free) (tag : String) :
    Keeps (addTag i tag) :=
  Keeps.putFree (l := .symbol .toStringTag) rfl free

theorem linkKeys : prototypeKey = (Label.name "prototype").key ∧ constructorKey = (Label.name "constructor").key :=
  ⟨(Label.key_word (by decide)).symm, (Label.key_word (by decide)).symm⟩

theorem link_keeps {name : String} {proto : Intrinsic} (word : (Label.name name).isWord = true)
    (named : (demand Intrinsic.global.addr (.name name)).admitsValue = true)
    (linked : (demand proto.addr (.name "constructor")).admitsValue = true)
    (free : demand a (.name "prototype") = .free) : Keeps (link a name proto) := by
  rw [link, linkKeys.1, linkKeys.2]
  exact (Keeps.putFree (by decide) free).behind fun _ =>
    (Keeps.put (by decide) fun _ => Demand.met_hidden _ linked).behind fun _ => add_keeps word named _

-- A property is stored beside a function that stays what it is.
theorem put_native {s : Realm} (furnished : Furnished s) {b : Addr} {f : Native} (native : IsNative s.heap b f)
    (word : l.isWord = true) {p : Property} (met : (demand a l).Met s.heap p) :
    ∃ after, putOwn a l.key p s = .ok () after ∧ Furnished after ∧ IsNative after.heap b f :=
  ⟨_, putOwn_word (Label.index?_of_isWord word) a p s, furnished.put met, native.modify fun _ _ => rfl⟩

theorem addMaker_keeps {name : String} {proto : Intrinsic} {f : Native} (word : (Label.name name).isWord = true)
    (named : (demand Intrinsic.global.addr (.name name)).admits f = true)
    (linked : (demand proto.addr (.name "constructor")).admitsValue = true) (length : Nat) :
    Keeps (addMaker name f length proto) Above := by
  refine of_ok fun s furnished => ?_
  obtain ⟨b, t, made, start, native⟩ : ∃ b t, makeNative f name length s = .ok (.object b) t ∧ Furnished t ∧
      IsNative t.heap b f :=
    ⟨_, _, makeNative_apply f name length s, furnished.alloc _, furnished.room, _, Array.getElem?_push_size, rfl⟩
  have free : ∀ heap p, (demand b (.name "prototype")).Met heap p := by
    rw [native.1.unwatched.free]
    exact fun _ _ => trivial
  obtain ⟨u, first, furnished, native⟩ := put_native (p := .fixed proto.value) start native (by decide) (free _ _)
  obtain ⟨v, second, furnished, native⟩ := put_native (p := .hidden (.object b)) furnished native (by decide)
    (Demand.met_hidden _ linked)
  obtain ⟨w, third, furnished, native⟩ := put_native furnished native word (Demand.met_native native named)
  refine ⟨b, w, ?_, furnished, native.1⟩
  have linked : link b name proto t = .ok () w := by
    rw [link, linkKeys.1, linkKeys.2, bind_of_ok first, bind_of_ok second]
    exact third
  rw [addMaker, bind_of_ok made]
  exact bind_of_ok linked _

theorem placeMaker_keeps {i : Intrinsic} {name : String} {proto : Intrinsic} (unwatched : Unwatched i.addr)
    (word : (Label.name name).isWord = true)
    (named : (demand Intrinsic.global.addr (.name name)).admitsValue = true)
    (linked : (demand proto.addr (.name "constructor")).admitsValue = true) (f : Native) (length : Nat) :
    Keeps (placeMaker i name f length proto) :=
  (Keeps.modifyObj (fun heap _ _ => unwatched.decent heap _) fun above => absurd above (Nat.not_le.mpr i.addr_lt)).behind
    fun _ => link_keeps word named linked (unwatched.free _)

theorem setUp_keeps {i : Intrinsic} {kind : Kind}
    (plain : (i.addr ≠ Intrinsic.global.addr ∧ i.addr ≠ Intrinsic.objectPrototype.addr) ∨ kind = .ordinary)
    (list : i.addr = Intrinsic.arrayPrototype.addr → kind = .ordinary ∨ ∃ items length, kind = .array items length false) :
    Keeps (setUp i (some .objectPrototype) kind) := by
  refine .modifyObj (fun heap o decent => ⟨decent.held, ?_, fun same => ⟨?_, (decent.plain same).2⟩, list⟩)
    fun above => absurd above (Nat.not_le.mpr i.addr_lt)
  · rintro j - - b ⟨⟩
    rfl
  · exact plain.resolve_left fun apart => same.elim apart.1 apart.2

theorem setUp_unwatched {i : Intrinsic} (unwatched : Unwatched i.addr) (parent : Option Intrinsic) (kind : Kind) :
    Keeps (setUp i parent kind) :=
  .modifyObj (fun heap _ _ => unwatched.decent heap _) fun above => absurd above (Nat.not_le.mpr i.addr_lt)

theorem setUp_ordinary (i : Intrinsic) : Keeps (setUp i (some .objectPrototype) .ordinary) :=
  setUp_keeps (.inr rfl) fun _ => .inl rfl

theorem installParents_keeps : Keeps installParents := by
  refine (setUp_ordinary _).behind fun _ => ?_
  refine (setUp_keeps (.inl (by decide)) fun same => absurd same (by decide)).behind fun _ => ?_
  refine (setUp_keeps (.inl (by decide)) fun _ => .inr ⟨_, _, rfl⟩).behind fun _ => ?_
  refine (setUp_keeps (.inl (by decide)) fun same => absurd same (by decide)).behind fun _ => ?_
  refine (setUp_keeps (.inl (by decide)) fun same => absurd same (by decide)).behind fun _ => ?_
  refine (setUp_keeps (.inl (by decide)) fun same => absurd same (by decide)).behind fun _ => ?_
  refine behind (Keeps.each fun c inside => setUp_unwatched ?_ _ _) fun _ => ?_
  · revert c
    decide
  refine behind (Keeps.each fun i _ => setUp_ordinary i) fun _ => ?_
  refine behind (Keeps.each fun i inside => setUp_unwatched ?_ _ _) fun _ => ?_
  · revert i
    decide
  refine (setUp_ordinary _).behind fun _ =>
    behind (Keeps.each fun i inside => setUp_unwatched ?_ _ _) fun _ => .pure trivial
  revert i
  decide

theorem installObject_keeps : Keeps installObject := by
  refine (addMaker_keeps (by decide) (by decide) (by decide) _).bind fun a above => ?_
  refine (addFree_keeps above (by decide)).behind fun _ => ?_
  refine (addAll_keeps (by decide)).behind fun _ => ?_
  refine (makeNative_keeps _ _ _).bind fun get _ => ?_
  refine putNative_keeps (l := .name "__proto__") (p := fun set => ⟨.accessor get set, false, true⟩) (by decide)
    (fun heap b native => ?_) _ _
  exact ⟨get, b, native, rfl⟩

-- What a function tells of itself is asked for nowhere.
theorem decent_functionProps {heap : Array Obj} {o : Obj} (decent : Decent heap Intrinsic.functionPrototype.addr o)
    (name : Value) (length : Nat) :
    Decent heap Intrinsic.functionPrototype.addr { o with props := functionProps name length } := by
  refine ⟨fun l p found => ?_, decent.parent, decent.plain, decent.list⟩
  have first : lengthKey = (Label.name "length").key := (Label.key_word (by decide)).symm
  have second : nameKey = (Label.name "name").key := (Label.key_word (by decide)).symm
  change (functionProps name length).get? l.key = some p at found
  rw [functionProps, PropTable.get?_insert, PropTable.get?_insert, PropTable.get?_empty, first, second] at found
  split at found
  next same =>
    rw [← Label.key_inj same]
    trivial
  next =>
    split at found
    next same =>
      rw [← Label.key_inj same]
      trivial
    next => cases found

theorem installFunction_keeps : Keeps installFunction := by
  refine behind (Keeps.modifyObj (fun heap o decent => decent_functionProps decent _ _) fun above => ?_) fun _ => ?_
  · exact absurd above (Nat.not_le.mpr (Intrinsic.addr_lt _))
  refine (addAll_keeps (by decide)).behind fun _ => ?_
  refine (makeNative_keeps _ _ _).bind fun v _ => ?_
  exact (Keeps.putFree (l := .symbol .hasInstance) rfl (by decide)).behind fun _ =>
    (addTag_keeps (by decide) _).behind fun _ => (addTag_keeps (by decide) _).behind fun _ => addTag_keeps (by decide) _

theorem installErrors_keeps : Keeps installErrors := by
  refine (addMaker_keeps (by decide) (by decide) (by decide) _).bind fun base _ => ?_
  refine behind (forIn (fun c inside _ => ?_) _) fun _ => ?_
  · have bare : Unwatched c.prototype.addr := by
      revert c
      decide
    have known : (Label.name c.name).isWord = true ∧
        (demand Intrinsic.global.addr (.name c.name)).admits (.error (.make c)) = true := by
      clear bare
      revert c
      decide
    have admitted : ∀ l, (demand c.prototype.addr l).admitsValue = true := fun l => by
      rw [bare.free]
      rfl
    have named : Keeps (do
        add c.prototype.addr "name" (.text c.name)
        add c.prototype.addr "message" (.text "")
        return ForInStep.yield PUnit.unit) :=
      (add_keeps (by decide) (admitted _) _).behind fun _ => (add_keeps (by decide) (admitted _) _).behind fun _ =>
        .pure trivial
    dsimp only
    split
    · refine (addMaker_keeps known.1 known.2 (admitted _) _).bind fun a above => ?_
      refine behind (Keeps.modifyObj ?_ fun _ _ => rfl) fun _ => named
      exact fun heap _ _ => above.unwatched.decent heap _
    · exact named
  · exact (makeNative_keeps _ _ _).bind fun v _ => add_keeps (by decide) (by decide) v

theorem installArray_keeps : Keeps installArray := by
  have maker : Unwatched Intrinsic.arrayMaker.addr := by decide
  refine (placeMaker_keeps maker (by decide) (by decide) (by decide) _ _).behind fun _ => ?_
  refine (addAll_keeps (by decide)).behind fun _ => ?_
  refine (addGetter_keeps (l := .symbol .species) rfl (by decide) _).behind fun _ => ?_
  refine (addAll_keeps (by decide)).behind fun _ => ?_
  exact addAlias_keeps (l := .symbol .iterator) rfl (by decide) _

theorem installString_keeps : Keeps installString := by
  refine (addMaker_keeps (by decide) (by decide) (by decide) _).bind fun a above => ?_
  refine (addFree_keeps above (by decide)).behind fun _ => ?_
  refine (addAll_keeps (by decide)).behind fun _ => ?_
  exact (addAlias_keeps (l := .name "trimLeft") (by decide) (by decide) _).behind fun _ =>
    (addAlias_keeps (l := .name "trimRight") (by decide) (by decide) _).behind fun _ => addSymbol_keeps (by decide) _ _

theorem installNumber_keeps : Keeps installNumber := by
  refine (addAll_keeps (by decide)).behind fun _ => ?_
  refine (addMaker_keeps (by decide) (by decide) (by decide) _).bind fun a above => ?_
  refine (addFree_keeps above (by decide)).behind fun _ => ?_
  refine behind (forIn (fun name inside _ => ?_) _) fun _ => ?_
  · refine behind (of_ok fun s furnished => ⟨_, s, rfl, furnished, trivial⟩) fun p => ?_
    cases p with
    | some p =>
      have word : (Label.name name).isWord = true := by
        revert name
        decide
      exact (Keeps.putFree word (above.unwatched.free _)).behind fun _ => .pure trivial
    | none => exact .pure trivial
  refine behind (Keeps.each fun row inside => ?_) fun _ => ?_
  · have words : ∀ row ∈ NumberFn.constants, (Label.name row.1).isWord = true := by decide
    exact Keeps.putFree (words row inside) (above.unwatched.free _)
  refine (addAll_keeps (by decide)).behind fun _ => ?_
  refine behind (Keeps.each fun row inside => ?_) fun _ => .pure trivial
  have known : ∀ row ∈ [("NaN", Value.number Number.nan), ("Infinity", .number Number.infinity), ("undefined", .undefined)],
      (Label.name row.1).isWord = true ∧ demand Intrinsic.global.addr (.name row.1) = .fixed ∧ row.2.isPlain = true := by
    decide
  obtain ⟨word, fixed, plain⟩ := known row inside
  exact .put word fun _ => fixed ▸ ⟨row.2, false, plain, rfl⟩

theorem installPrimitives_keeps : Keeps installPrimitives := by
  refine (addMaker_keeps (by decide) (by decide) (by decide) _).bind fun _ _ => ?_
  refine (addAll_keeps (by decide)).behind fun _ => ?_
  refine (addMaker_keeps (by decide) (by decide) (by decide) _).bind fun s above => ?_
  refine (addFree_keeps above (by decide)).behind fun _ => ?_
  refine behind (Keeps.each fun row inside => ?_) fun _ => ?_
  · have words : ∀ row ∈ WellKnown.all, (Label.name row.2).isWord = true := by decide
    exact Keeps.putFree (words row inside) (above.unwatched.free _)
  refine (addAll_keeps (by decide)).behind fun _ => ?_
  refine (addGetter_keeps (l := .name "description") (by decide) (by decide) _).behind fun _ => ?_
  refine (makeNative_keeps _ _ _).bind fun _ _ => ?_
  refine (Keeps.putFree (l := .symbol .toPrimitive) rfl (by decide)).behind fun _ => ?_
  refine (addTag_keeps (by decide) _).behind fun _ => ?_
  refine (addMaker_keeps (by decide) (by decide) (by decide) _).bind fun b above => ?_
  exact (addFree_keeps above (by decide)).behind fun _ => (addAll_keeps (by decide)).behind fun _ =>
    addTag_keeps (by decide) _

theorem installNamespaces_keeps : Keeps installNamespaces := by
  refine (addAll_keeps (by decide)).behind fun _ => ?_
  refine behind (Keeps.each fun row inside => ?_) fun _ => ?_
  · have known : ∀ row ∈ MathFn.constants, (Label.name row.1).isWord = true ∧
        demand Intrinsic.math.addr (.name row.1) = .fixed := by decide
    obtain ⟨word, fixed⟩ := known row inside
    exact .put word fun _ => fixed ▸ ⟨.number row.2, false, rfl, rfl⟩
  refine (addTag_keeps (by decide) _).behind fun _ => (addAll_keeps (by decide)).behind fun _ => ?_
  refine (addTag_keeps (by decide) _).behind fun _ => (addAll_keeps (by decide)).behind fun _ => ?_
  refine (addTag_keeps (by decide) _).behind fun _ => ?_
  have math : ∀ heap, (demand Intrinsic.global.addr (.name "Math")).Met heap (.hidden Intrinsic.math.value) := fun _ => rfl
  refine (Keeps.put (by decide) math).behind fun _ => ?_
  exact (add_keeps (by decide) (by decide) _).behind fun _ => (add_keeps (by decide) (by decide) _).behind fun _ =>
    add_keeps (by decide) (by decide) _

theorem installCollections_keeps : Keeps installCollections := by
  refine (addMaker_keeps (by decide) (by decide) (by decide) _).bind fun m above => ?_
  refine (makeNative_keeps _ _ _).bind fun _ _ => (add_keeps (by decide) ?_ _).behind fun _ => ?_
  · rw [above.unwatched.free]
    rfl
  refine (addAll_keeps (by decide)).behind fun _ => ?_
  refine (addAlias_keeps (l := .symbol .iterator) rfl (by decide) _).behind fun _ => ?_
  refine (addGetter_keeps (l := .name "size") (by decide) (by decide) _).behind fun _ => ?_
  refine (addTag_keeps (by decide) _).behind fun _ => ?_
  refine (addMaker_keeps (by decide) (by decide) (by decide) _).bind fun _ _ => ?_
  refine (addAll_keeps (by decide)).behind fun _ => ?_
  refine (addAlias_keeps (l := .name "keys") (by decide) (by decide) _).behind fun _ => ?_
  refine (addAlias_keeps (l := .symbol .iterator) rfl (by decide) _).behind fun _ => ?_
  exact (addGetter_keeps (l := .name "size") (by decide) (by decide) _).behind fun _ => addTag_keeps (by decide) _

theorem installIterators_keeps : Keeps installIterators := by
  refine (addSymbol_keeps (by decide) _ _).behind fun _ => behind (forIn (fun row inside _ => ?_) _) fun _ =>
    addTag_keeps (by decide) _
  have bare : Unwatched row.1.addr := by
    revert row
    decide
  refine (makeNative_keeps _ _ _).bind fun _ _ => (add_keeps (by decide) ?_ _).behind fun _ =>
    (addTag_keeps (bare.free _) _).behind fun _ => .pure trivial
  rw [bare.free]
  rfl

theorem installRegExp_keeps : Keeps installRegExp := by
  have maker : Unwatched Intrinsic.regexpMaker.addr := by decide
  refine (placeMaker_keeps maker (by decide) (by decide) (by decide) _ _).behind fun _ => ?_
  refine (addGetter_keeps (l := .name "flags") (by decide) (by decide) _).behind fun _ => ?_
  refine (addGetter_keeps (l := .name "source") (by decide) (by decide) _).behind fun _ => ?_
  refine behind (Keeps.each fun row inside => ?_) fun _ => ?_
  · have known : ∀ row ∈ RegExpObject.flagNames, (Label.name row.1).isWord = true ∧
        (demand Intrinsic.regexpPrototype.addr (.name row.1)).admitsGetter (.regexp (.flag row.2.toNat.toUInt16)) = true := by
      decide
    exact addGetter_keeps (known row inside).1 (known row inside).2 _
  refine (addAll_keeps (by decide)).behind fun _ => ?_
  refine behind (Keeps.each fun row inside => ?_) fun _ => .pure trivial
  have known : ∀ row ∈ [(WellKnown.replace, "replace", RegExpFn.replace, 2), (.match, "match", .match, 1),
      (.matchAll, "matchAll", .matchAll, 1), (.search, "search", .search, 1), (.split, "split", .split, 2)],
      (demand Intrinsic.regexpPrototype.addr (.symbol row.1)).admits (.regexp row.2.2.1) = true := by
    decide
  exact addSymbol_keeps (known row inside) _ _

theorem installDate_keeps : Keeps installDate := by
  refine (addMaker_keeps (by decide) (by decide) (by decide) _).bind fun a above => ?_
  refine (addFree_keeps above (by decide)).behind fun _ => (addAll_keeps (by decide)).behind fun _ => ?_
  exact (makeNative_keeps _ _ _).bind fun _ _ => Keeps.putFree (l := .symbol .toPrimitive) rfl (by decide)

theorem installPromise_keeps : Keeps installPromise := by
  have maker : Unwatched Intrinsic.promiseMaker.addr := by decide
  have proto : Unwatched Intrinsic.promisePrototype.addr := by decide
  refine (placeMaker_keeps maker (by decide) (by decide) (by decide) _ _).behind fun _ => ?_
  refine behind (forIn (fun row inside _ => ?_) _) fun _ => ?_
  · have words : ∀ row ∈ [("resolve", PromiseFn.resolve), ("reject", .reject)], (Label.name row.1).isWord = true := by
      decide
    refine (makeNative_keeps _ _ _).bind fun _ _ => (add_keeps (words row inside) ?_ _).behind fun _ => .pure trivial
    rw [maker.free]
    rfl
  refine behind (forIn (fun row inside _ => ?_) _) fun _ => addTag_keeps (by decide) _
  have words : ∀ row ∈ [("then", PromiseFn.then, 2), ("catch", .catch, 1), ("finally", .finally, 1)],
      (Label.name row.1).isWord = true := by
    decide
  refine (makeNative_keeps _ _ _).bind fun _ _ => (add_keeps (words row inside) ?_ _).behind fun _ => .pure trivial
  rw [proto.free]
  rfl

theorem install_keeps : Keeps install :=
  installParents_keeps.behind fun _ => installObject_keeps.behind fun _ => installFunction_keeps.behind fun _ =>
    installErrors_keeps.behind fun _ => installArray_keeps.behind fun _ => installString_keeps.behind fun _ =>
    installNumber_keeps.behind fun _ => installPrimitives_keeps.behind fun _ =>
    installNamespaces_keeps.behind fun _ => installCollections_keeps.behind fun _ =>
    installIterators_keeps.behind fun _ => installRegExp_keeps.behind fun _ => installDate_keeps.behind fun _ =>
    installPromise_keeps

theorem blank_furnished : Furnished blank where
  idle := rfl
  room := by simp [blank]
  decent a o found := by
    have same : o = default := by
      rw [blank, Array.getElem?_replicate] at found
      split at found
      · exact (Option.some.inj found).symm
      · cases found
    subst same
    refine ⟨fun l p there => ?_, fun _ _ _ _ => nofun, fun _ => ⟨rfl, rfl⟩, fun _ => .inl rfl⟩
    change PropTable.empty.get? l.key = some p at there
    rw [PropTable.get?_empty] at there
    cases there

theorem fresh_furnished : Furnished fresh := by
  have kept := (install_keeps blank blank_furnished).1
  unfold fresh
  generalize install blank = r at kept
  cases r <;> exact kept

end

end World

end BoundedScript.Script
