import BoundedScript.Proofs.Script.Arrows
import BoundedScript.Proofs.Script.Furnishing
import BoundedScript.Proofs.Script.Images
import Mathlib.Data.List.Nodup

set_option autoImplicit false

namespace BoundedScript.Script

open JsonObject

structure Gives (f : Function) (e : Expr) : Prop where
  arrow : IsArrow f
  params : f.params = []
  body : f.body = [.return e]
  unscoped : f.info.vars = [] ∧ f.info.lexicals = []
  nameless : f.info.usesArguments = false

-- A name that no object has by being an object.
def IsRare (n : String) : Prop :=
  ((Label.name n).isWord = true ∧ n ≠ "length") ∧ demandAt .objectPrototype (.name n) = .absent

instance (n : String) : Decidable (IsRare n) :=
  inferInstanceAs (Decidable ((_ ∧ _) ∧ _))

inductive Selects (docs : List (String × Json)) : Expr → Json → Prop where
  | name {n : String} {v : Json} (bound : (n, v) ∈ docs) (ordinary : n ≠ "__proto__") : Selects docs (.name n) v
  | paren {e : Expr} {v : Json} (inner : Selects docs e v) : Selects docs (.paren e) v
  | field {e : Expr} {fields : List (String × Json)} {name : String} {v : Json} (inner : Selects docs e (.object fields))
      (inside : (name, v) ∈ fields) (alone : ∀ w, (name, w) ∈ fields → w = v) :
      Selects docs (.member e (.constant (.string (Units.ofString name)))) v
  | optional {e : Expr} {v : Json} (inner : Selects docs e v) (filled : v ≠ .null) : Selects docs (.optional e) v

inductive Fetches (docs : List (String × Json)) : Expr → Prop where
  | scalar {e : Expr} {v : Json} (selects : Selects docs e v) (scalar : isScalar v = true) : Fetches docs e
  | missing {e : Expr} {fields : List (String × Json)} {name : String} (selects : Selects docs e (.object fields))
      (lacks : ∀ f ∈ fields, f.1 ≠ name) (rare : IsRare name) :
      Fetches docs (.member e (.constant (.string (Units.ofString name))))
  | count {e : Expr} {items : List Json} (selects : Selects docs e (.array items)) :
      Fetches docs (.member e (.constant (.string (Units.ofString "length"))))
  | length {e : Expr} {s : String} (selects : Selects docs e (.string s)) :
      Fetches docs (.member e (.constant (.string (Units.ofString "length"))))

structure Scope where
  docs : List (String × Json)
  -- Names that may stand for something else than they do in a fresh world.
  taken : List String

-- Nothing is known of any name.
def Scope.bare : Scope :=
  ⟨[], ["__proto__"]⟩

def Scope.of (bindings : List (String × Json)) : Scope :=
  ⟨bindings, bindings.map (·.1)⟩

structure IsFree (taken : List String) (n : String) : Prop where
  untaken : n ∉ taken
  rooted : "__proto__" ∉ taken
  ordinary : n ≠ "__proto__"
  word : (Label.name n).isWord = true
  other : n ≠ "length"

theorem isFree_iff {taken : List String} {n : String} : IsFree taken n ↔ (n ∉ taken ∧ "__proto__" ∉ taken) ∧
    n ≠ "__proto__" ∧ (Label.name n).isWord = true ∧ n ≠ "length" :=
  ⟨fun ⟨untaken, rooted, ordinary, word, other⟩ => ⟨⟨untaken, rooted⟩, ordinary, word, other⟩,
    fun ⟨⟨untaken, rooted⟩, ordinary, word, other⟩ => ⟨untaken, rooted, ordinary, word, other⟩⟩

instance {taken : List String} {n : String} : Decidable (IsFree taken n) :=
  decidable_of_iff _ isFree_iff.symm

theorem IsFree.not_bare {n : String} : ¬IsFree Scope.bare.taken n :=
  fun free => free.rooted List.mem_cons_self

def knownNames : List String :=
  fixedNames ++ "Math" :: calledNames ++ hostNames ++ objectNames ++ ["valueOf", "toString"]

def named (n : String) : Expr :=
  .constant (.string (Units.ofString n))

/-- An expression of operators over constants and what is fetched from documents, where functions are called that are
such expressions again, or that come to a value of their own out of what they are given. -/
inductive Plain (scope : Scope) : Expr → Prop where
  | constant (c : Constant) : Plain scope (.constant c)
  | fetched {e : Expr} (fetches : Fetches scope.docs e) : Plain scope e
  | unknown {n : String} (free : IsFree scope.taken n) (missing : n ∉ knownNames) : Plain scope (.name n)
  | fixed {n : String} (free : IsFree scope.taken n) (inside : n ∈ fixedNames) : Plain scope (.name n)
  | figure {n : String} (free : IsFree scope.taken "Math") (inside : n ∈ mathConstants) :
      Plain scope (.member (.name "Math") (named n))
  | regexp (source flags : Units) : Plain scope (.regexp source flags)
  | paren {e : Expr} (inner : Plain scope e) : Plain scope (.paren e)
  | spread {e : Expr} (inner : Plain scope e) : Plain scope (.spread e)
  | unary {op : UnaryOp} {e : Expr} (reads : op ≠ .delete) (inner : Plain scope e) : Plain scope (.unary op e)
  | binary {op : BinaryOp} {a b : Expr} (values : op ≠ .inOp ∧ op ≠ .instanceOf) (left : Plain scope a)
      (right : Plain scope b) : Plain scope (.binary op a b)
  | logical {op : LogicalOp} {a b : Expr} (left : Plain scope a) (right : Plain scope b) :
      Plain scope (.logical op a b)
  | conditional {test yes no : Expr} (first : Plain scope test) (left : Plain scope yes) (right : Plain scope no) :
      Plain scope (.conditional test yes no)
  | comma {a b : Expr} (left : Plain scope a) (right : Plain scope b) : Plain scope (.comma a b)
  | call {callee : Expr} {args : List Expr} (first : Plain scope callee) (each : ∀ e ∈ args, Plain scope e) :
      Plain scope (.call callee args)
  | called {n : String} {args : List Expr} (free : IsFree scope.taken n) (inside : n ∈ calledNames)
      (each : ∀ e ∈ args, Plain scope e) : Plain scope (.call (.name n) args)
  | reckoned {n : String} {args : List Expr} (free : IsFree scope.taken "Math") (inside : n ∈ mathNames)
      (each : ∀ e ∈ args, Plain scope e) : Plain scope (.call (.member (.name "Math") (named n)) args)
  | method {e : Expr} {n : String} {args : List Expr} (first : Plain scope e) (inside : n ∈ methodNames)
      (each : ∀ e ∈ args, Plain scope e) : Plain scope (.call (.member e (named n)) args)
  | optional {e : Expr} (inner : Plain scope e) : Plain scope (.optional e)
  | chain {e : Expr} (inner : Plain scope e) : Plain scope (.chain e)
  | function {f : Function} {e : Expr} (gives : Gives f e) (inner : Plain scope e) : Plain scope (.function f)

theorem Selects.unparen {docs : List (String × Json)} {e : Expr} {v : Json} (selects : Selects docs e v) :
    Selects docs e.unparen v := by
  induction selects with
  | paren inner ih => exact ih
  | name bound ordinary => exact .name bound ordinary
  | field inner inside alone => exact .field inner inside alone
  | optional inner filled => exact .optional inner filled

theorem Fetches.unparen {docs : List (String × Json)} {e : Expr} (fetches : Fetches docs e) : Fetches docs e.unparen := by
  cases fetches with
  | scalar selects scalar => exact .scalar selects.unparen scalar
  | missing selects lacks rare => exact .missing selects lacks rare
  | count selects => exact .count selects
  | length selects => exact .length selects

theorem Selects.ne_nil {docs : List (String × Json)} {e : Expr} {v : Json} (selects : Selects docs e v) : docs ≠ [] := by
  induction selects with
  | name bound => exact List.ne_nil_of_mem bound
  | _ => assumption

theorem Fetches.ne_nil {docs : List (String × Json)} {e : Expr} (fetches : Fetches docs e) : docs ≠ [] := by
  cases fetches <;> exact Selects.ne_nil ‹_›

theorem Plain.nameless {n : String} : ¬Plain .bare (.name n) := by
  intro plain
  cases plain with
  | fetched fetches => exact fetches.ne_nil rfl
  | unknown free | fixed free => exact free.not_bare

theorem Plain.unparen {scope : Scope} {e : Expr} (plain : Plain scope e) : Plain scope e.unparen := by
  induction plain with
  | paren inner ih => exact ih
  | constant c => exact .constant c
  | fetched fetches => exact .fetched fetches.unparen
  | unknown free missing => exact .unknown free missing
  | fixed free inside => exact .fixed free inside
  | figure free inside => exact .figure free inside
  | regexp source flags => exact .regexp source flags
  | spread inner => exact .spread inner
  | unary reads inner => exact .unary reads inner
  | binary values left right => exact .binary values left right
  | logical left right => exact .logical left right
  | conditional first left right => exact .conditional first left right
  | comma left right => exact .comma left right
  | call first each => exact .call first each
  | called free inside each => exact .called free inside each
  | reckoned free inside each => exact .reckoned free inside each
  | method first inside each => exact .method first inside each
  | optional inner => exact .optional inner
  | chain inner => exact .chain inner
  | function gives inner => exact .function gives inner

inductive PlainStmt (scope : Scope) : Stmt → Prop where
  | empty : PlainStmt scope .empty
  | expr {e : Expr} (plain : Plain scope e) : PlainStmt scope (.expr e)

structure PlainProgram (scope : Scope) (p : Program) : Prop where
  unscoped : p.vars = [] ∧ p.lexicals = []
  body : ∀ d ∈ p.body, PlainStmt scope d

section Selecting

variable (docs : List (String × Json))

def selected? : Expr → Option Json
  | .name n => if n = "__proto__" then none else (docs.find? (·.1 == n)).map (·.2)
  | .paren e => selected? e
  | .member e (.constant (.string u)) =>
    match selected? e with
    | some (.object fields) =>
      if (fields.map (·.1)).Nodup then (fields.find? (Units.ofString ·.1 == u)).map (·.2) else none
    | _ => none
  | .optional e =>
    match selected? e with
    | some .null => none
    | found => found
  | _ => none

def hasLength : Json → Bool
  | .array _ | .string _ => true
  | _ => false

-- Nothing stands under a name, neither in a document nor in what it has by being an object.
def lacks (u : Units) : Json → Bool
  | .object fields =>
    match u.toText with
    | .ok name => Units.ofString name == u && fields.all (·.1 != name) && decide (IsRare name)
    | .error _ => false
  | _ => false

def isFetched (e : Expr) : Bool :=
  (selected? docs e).any isScalar || match e with
    | .member e (.constant (.string u)) =>
      u == Units.ofString "length" && (selected? docs e).any hasLength || (selected? docs e).any (lacks u)
    | _ => false

end Selecting

section Reading

variable (scope : Scope)

-- The name that a key writes, if it is among some.
def isAmong (names : List String) : Expr → Bool
  | .constant (.string u) => names.any (Units.ofString · == u)
  | _ => false

def isMath : Expr → Bool
  | .name n => n == "Math" && decide (IsFree scope.taken "Math")
  | _ => false

def isBuiltin : Expr → Bool
  | .name n => decide (IsFree scope.taken n) && (fixedNames.contains n || !knownNames.contains n)
  | .member e k => isMath scope e && isAmong mathConstants k
  | _ => false

mutual

def isPlain : Expr → Bool
  | .constant _ | .regexp _ _ => true
  | .paren e | .spread e | .optional e | .chain e => isPlain e
  | .unary .delete _ | .binary .inOp _ _ | .binary .instanceOf _ _ => false
  | .unary _ e => isPlain e
  | .binary _ a b | .logical _ a b | .comma a b => isPlain a && isPlain b
  | .conditional test yes no => isPlain test && isPlain yes && isPlain no
  | .call callee args => (isPlain callee || isLent callee) && arePlain args
  | e => isFetched scope.docs e || isBuiltin scope e

def isLent : Expr → Bool
  | .name n => decide (IsFree scope.taken n) && calledNames.contains n
  | .member e k => isMath scope e && isAmong mathNames k || isPlain e && isAmong methodNames k
  | _ => false

def arePlain : List Expr → Bool
  | [] => true
  | e :: rest => isPlain e && arePlain rest

end

def isPlainStmt : Stmt → Bool
  | .empty => true
  | .expr e => isPlain scope e
  | _ => false

def isPlainProgram (p : Program) : Bool :=
  p.vars.isEmpty && p.lexicals.isEmpty && p.body.all (isPlainStmt scope)

end Reading

section Soundness

variable {docs : List (String × Json)}

theorem selects_of_selected? {e : Expr} {v : Json} (found : selected? docs e = some v) : Selects docs e v := by
  fun_induction selected? docs e generalizing v with
  | case1 => cases found
  | case2 n ordinary =>
    obtain ⟨b, bound, rfl⟩ := Option.map_eq_some_iff.mp found
    have same : b.1 = n := by simpa using List.find?_some bound
    subst same
    exact .name (List.mem_of_find?_eq_some bound) ordinary
  | case3 e ih => exact .paren (ih found)
  | case4 e u fields object unique ih =>
    obtain ⟨f, here, rfl⟩ := Option.map_eq_some_iff.mp found
    have same : Units.ofString f.1 = u := by simpa using List.find?_some here
    subst same
    have inside := List.mem_of_find?_eq_some here
    exact .field (ih object) inside fun w other => congrArg Prod.snd (List.inj_on_of_nodup_map unique other inside rfl)
  | case8 e filled ih => exact .optional (ih found) fun none => filled (by rw [found, none])
  | _ => cases found

theorem named_of_lacks {u : Units} {v : Json} (lacking : lacks u v = true) : ∃ fields name, v = .object fields ∧
    u = Units.ofString name ∧ (∀ f ∈ fields, f.1 ≠ name) ∧ IsRare name := by
  rw [lacks.eq_def] at lacking
  split at lacking
  next fields =>
    split at lacking
    next name _ =>
      rw [Bool.and_eq_true, Bool.and_eq_true, decide_eq_true_eq, List.all_eq_true] at lacking
      exact ⟨fields, name, rfl, (eq_of_beq lacking.1.1).symm, fun f inside => bne_iff_ne.mp (lacking.1.2 f inside), lacking.2⟩
    next => cases lacking
  next => cases lacking

theorem fetches_of_isFetched {e : Expr} (fetched : isFetched docs e = true) : Fetches docs e := by
  rw [isFetched.eq_def, Bool.or_eq_true, Option.any_eq_true] at fetched
  rcases fetched with ⟨v, found, scalar⟩ | counted
  · exact .scalar (selects_of_selected? found) scalar
  · split at counted
    next e u =>
      rw [Bool.or_eq_true, Bool.and_eq_true, Option.any_eq_true, Option.any_eq_true] at counted
      rcases counted with ⟨same, v, found, long⟩ | ⟨v, found, lacking⟩
      · obtain rfl : u = Units.ofString "length" := by simpa using same
        have selects := selects_of_selected? found
        cases v with
        | array items => exact .count selects
        | string s => exact .length selects
        | _ => cases long
      · obtain ⟨fields, name, rfl, rfl, absent, rare⟩ := named_of_lacks lacking
        exact .missing (selects_of_selected? found) absent rare
    next => cases counted

variable {scope : Scope}

theorem named_of_isAmong {names : List String} {k : Expr} (among : isAmong names k = true) :
    ∃ n ∈ names, k = named n := by
  rw [isAmong.eq_def] at among
  split at among
  next u =>
    obtain ⟨n, inside, same⟩ := List.any_eq_true.mp among
    exact ⟨n, inside, by rw [named, eq_of_beq same]⟩
  next => cases among

theorem math_of_isMath {e : Expr} (math : isMath scope e = true) : e = .name "Math" ∧ IsFree scope.taken "Math" := by
  rw [isMath.eq_def] at math
  split at math
  next n =>
    rw [Bool.and_eq_true, decide_eq_true_eq] at math
    exact ⟨by rw [eq_of_beq math.1], math.2⟩
  next => cases math

theorem plain_of_isBuiltin {e : Expr} (builtin : isBuiltin scope e = true) : Plain scope e := by
  rw [isBuiltin.eq_def] at builtin
  split at builtin
  next n =>
    rw [Bool.and_eq_true, decide_eq_true_eq, Bool.or_eq_true, List.contains_iff_mem, Bool.not_eq_true'] at builtin
    obtain ⟨free, inside | outside⟩ := builtin
    · exact .fixed free inside
    · exact .unknown free fun known => by rw [List.contains_iff_mem.mpr known] at outside; cases outside
  next e k =>
    rw [Bool.and_eq_true] at builtin
    obtain ⟨rfl, free⟩ := math_of_isMath builtin.1
    obtain ⟨n, inside, rfl⟩ := named_of_isAmong builtin.2
    exact .figure free inside
  next => cases builtin

theorem plain_of_read {e : Expr} (read : (isFetched scope.docs e || isBuiltin scope e) = true) : Plain scope e :=
  (Bool.or_eq_true _ _ ▸ read).elim (fun fetched => .fetched (fetches_of_isFetched fetched)) plain_of_isBuiltin

mutual

theorem plain_of_isPlain {e : Expr} (plain : isPlain scope e = true) : Plain scope e := by
  cases e with
  | constant c => exact .constant c
  | regexp source flags => exact .regexp source flags
  | paren e => exact .paren (plain_of_isPlain plain)
  | spread e => exact .spread (plain_of_isPlain plain)
  | optional e => exact .optional (plain_of_isPlain plain)
  | chain e => exact .chain (plain_of_isPlain plain)
  | unary op e =>
    have reads : op ≠ .delete := by
      rintro rfl
      cases plain
    refine .unary reads (plain_of_isPlain ?_)
    cases op <;> first | exact plain | exact absurd rfl reads
  | binary op a b =>
    have values : op ≠ .inOp ∧ op ≠ .instanceOf := by
      constructor <;> rintro rfl <;> cases plain
    have both : (isPlain scope a && isPlain scope b) = true := by
      cases op <;> first | exact plain | cases plain
    rw [Bool.and_eq_true] at both
    exact .binary values (plain_of_isPlain both.1) (plain_of_isPlain both.2)
  | logical op a b =>
    rw [isPlain, Bool.and_eq_true] at plain
    exact .logical (plain_of_isPlain plain.1) (plain_of_isPlain plain.2)
  | comma a b =>
    rw [isPlain, Bool.and_eq_true] at plain
    exact .comma (plain_of_isPlain plain.1) (plain_of_isPlain plain.2)
  | conditional test yes no =>
    rw [isPlain, Bool.and_eq_true, Bool.and_eq_true] at plain
    exact .conditional (plain_of_isPlain plain.1.1) (plain_of_isPlain plain.1.2) (plain_of_isPlain plain.2)
  | call callee args =>
    rw [isPlain, Bool.and_eq_true, Bool.or_eq_true] at plain
    have each := plain_of_arePlain plain.2
    exact plain.1.elim (fun first => .call (plain_of_isPlain first) each) fun lent => plain_of_isLent lent each
  | _ => exact plain_of_read plain

theorem plain_of_isLent {callee : Expr} {args : List Expr} (lent : isLent scope callee = true)
    (each : ∀ e ∈ args, Plain scope e) : Plain scope (.call callee args) := by
  cases callee with
  | name n =>
    rw [isLent, Bool.and_eq_true, decide_eq_true_eq, List.contains_iff_mem] at lent
    exact .called lent.1 lent.2 each
  | member e k =>
    rw [isLent, Bool.or_eq_true, Bool.and_eq_true, Bool.and_eq_true] at lent
    rcases lent with ⟨math, among⟩ | ⟨plain, among⟩
    · obtain ⟨rfl, free⟩ := math_of_isMath math
      obtain ⟨n, inside, rfl⟩ := named_of_isAmong among
      exact .reckoned free inside each
    · obtain ⟨n, inside, rfl⟩ := named_of_isAmong among
      exact .method (plain_of_isPlain plain) inside each
  | _ => cases lent

theorem plain_of_arePlain {es : List Expr} (plain : arePlain scope es = true) : ∀ e ∈ es, Plain scope e := by
  cases es with
  | nil => exact fun _ inside => by cases inside
  | cons e rest =>
    rw [arePlain, Bool.and_eq_true] at plain
    exact List.forall_mem_cons.mpr ⟨plain_of_isPlain plain.1, plain_of_arePlain plain.2⟩

end

theorem plainProgram_of_isPlainProgram {p : Program} (plain : isPlainProgram scope p = true) : PlainProgram scope p := by
  rw [isPlainProgram, Bool.and_eq_true, Bool.and_eq_true, List.isEmpty_iff, List.isEmpty_iff, List.all_eq_true] at plain
  refine ⟨plain.1, fun d inside => ?_⟩
  have stmt := plain.2 d inside
  cases d with
  | empty => exact .empty
  | expr e => exact .expr (plain_of_isPlain stmt)
  | _ => cases stmt

end Soundness

end BoundedScript.Script
