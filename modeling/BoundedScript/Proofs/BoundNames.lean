import BoundedScript.Proofs.Decimal.Whole
import BoundedScript.Proofs.Placeholders
import BoundedScript.Proofs.PlainPrograms
import BoundedScript.Proofs.Script.Letterless
import BoundedScript.Proofs.Script.Operands

set_option autoImplicit false

namespace BoundedScript

open Script Run JsonObject

theorem Expression.isWord_of_isIdentifier {n : String} (word : isIdentifier n) : (Label.name n).isWord = true := by
  obtain ⟨c, rest, same, start, -⟩ := (isIdentifier_iff n).mp word
  have letter : (Units.ofChar c).all Units.isDigit = false := by
    have each := forall_ascii (fun c => !isNameStart c || !(Units.ofChar c).all Units.isDigit) (by decide) c
      (isIdentifierChar_ascii (isIdentifierChar_of_isNameStart start))
    simpa [start] using each
  rw [Label.isWord, same, Units.unitsOf_cons, List.all_append, letter]
  rfl

theorem Expression.isMark_of_letterless {c : Char} (allowed : isAllowed c)
    (letterless : c.isAlpha = false ∧ c ≠ '_' ∧ c ≠ '$') : Lexer.isMark c = true := by
  have each := forall_ascii (fun c => !isAllowed c || c.isAlpha || c == '_' || c == '$' || Lexer.isMark c)
    (by decide) c (alphabet_ascii ((isAllowed_iff c).mp allowed))
  simpa [allowed, letterless] using each

theorem Text.mem_of_mem_trimList {c : Char} {cs : List Char} (inside : c ∈ trimList cs) : c ∈ cs := by
  rw [trimList, List.mem_reverse] at inside
  have kept := (List.dropWhile_suffix _).subset inside
  rw [List.mem_reverse] at kept
  exact (List.dropWhile_suffix _).subset kept

namespace Primitive

theorem numberText_of_finite {x : Float} {s : Float.Model.UnpackedFloat.Sign} {m : Nat} {e : Int} {positive : 0 < m}
    (same : x.toModel.unpack = .finite s m e positive) : numberText x = Double.render .positional x := by
  have bounded : x.isInf = false := by
    change x.toModel.unpack.isInf = false
    rw [same]
    rfl
  rw [numberText, Double.isNaN_of_finite same, bounded, Double.beq_zero_of_finite same]
  rfl

theorem numberText_ofWhole {n : Int} (small : n.natAbs ≤ 2 ^ 53) : numberText (Double.ofWhole n) = toString n := by
  have told : numberText (Double.ofWhole n) = String.ofList (Json.intText n) := by
    rcases Nat.eq_or_lt_of_le small with top | small
    · rcases Int.natAbs_eq n with same | same
      · rw [same, top]
        decide
      · rw [same, top]
        decide
    cases n with
    | ofNat n =>
      rw [Json.Reading.intText_ofNat]
      rcases Nat.eq_zero_or_pos n with rfl | positive
      · decide
      · exact (numberText_of_finite (Double.unpack_ofWhole positive small)).trans
          (Double.render_ofWhole_nat Layout.positional_isWhole positive small).1
    | negSucc n =>
      rw [Json.Reading.intText_negSucc, Double.ofWhole_negSucc]
      exact (numberText_of_finite (Double.unpack_neg_ofWhole n.succ_pos small)).trans
        (Double.render_ofWhole_nat Layout.positional_isWhole n.succ_pos small).2
  rw [told, Json.intText, String.ofList_toList]

end Primitive

namespace Evaluator

structure Installable (limit : Nat) (bindings : Bindings) : Prop where
  unique : (bindings.map (·.1)).Nodup
  words : ∀ b ∈ bindings, Expression.isIdentifier b.1
  free : ∀ b ∈ bindings, b.1 ∉ fixedNames
  fits : ∀ b ∈ bindings, Fits limit b.2

theorem Installable.bindable {limit : Nat} {bindings : Bindings} (installable : Installable limit bindings) :
    ∀ b ∈ bindings, Bindable limit b :=
  fun b inside => ⟨Expression.isWord_of_isIdentifier (installable.words b inside), installable.free b inside,
    installable.fits b inside⟩

theorem Installable.perm {limit : Nat} {bindings others : Bindings} (installable : Installable limit bindings)
    (same : bindings.Perm others) : Installable limit others where
  unique := ((same.map _).nodup_iff).mp installable.unique
  words b inside := installable.words b (same.mem_iff.mpr inside)
  free b inside := installable.free b (same.mem_iff.mpr inside)
  fits b inside := installable.fits b (same.mem_iff.mpr inside)

def shadows : Bindings :=
  [("Math", .int (-3)), ("toString", .array [.null]), ("x", .string "a\"b")]

theorem shadows_installable (limit : Nat) : Installable limit shadows where
  unique := by decide
  words := List.all_eq_true.mp (by decide)
  free := by decide
  fits := by
    have list : Fits limit (.array [.null]) := by
      refine .array (fun i few many => ?_) (List.forall_mem_singleton.mpr .null)
      rw [List.length_singleton] at few
      omega
    have size : (Units.ofString "a\"b").size = 3 := by
      rw [← Array.length_toList, Units.ofString_toList]
      decide
    have text : Fits limit (.string "a\"b") := .string ⟨by rw [size]; decide, fun long => by rw [size] at long; omega⟩
    exact List.forall_mem_cons.mpr ⟨.int _, List.forall_mem_cons.mpr ⟨list, List.forall_mem_singleton.mpr text⟩⟩

theorem installable_nil (limit : Nat) : Installable limit [] :=
  ⟨List.nodup_nil, nofun, nofun, nofun⟩

section

variable {config : EvaluatorConfig} {expression : String} {bindings : Bindings}
  (installable : Installable config.memoryLimit.toNat bindings)
include installable

theorem evaluate_installable (clock : Session.Clock) : evaluate config expression bindings clock =
    match Expression.validate expression with
    | .error r => .error (.rejected r)
    | .ok checked => Session.run ⟨config.timeout, config.memoryLimit.toNat⟩ (task checked bindings) clock := by
  have none : bindings.find? (fun b => !Expression.isIdentifier b.1) = none := by
    rw [List.find?_eq_none]
    intro b inside
    simp [installable.words b inside]
  rw [evaluate]
  cases Expression.validate expression with
  | error r => rfl
  | ok checked =>
    simp only [none]

/-- What an expression comes to that names nothing is the same whatever is bound. -/
theorem evaluate_letterless (letterless : ∀ c ∈ expression.toList, c.isAlpha = false ∧ c ≠ '_' ∧ c ≠ '$')
    (clock : Session.Clock) : evaluate config expression bindings clock = evaluate config expression [] clock := by
  rw [evaluate_installable installable, evaluate_installable (installable_nil _)]
  cases accepted : Expression.validate expression with
  | error r => rfl
  | ok checked =>
    obtain ⟨rfl, permitted⟩ := (Expression.validate_eq_ok_iff _ _).mp accepted
    have marks : ∀ c ∈ (Text.trim expression).toList, Lexer.isMark c = true := by
      intro c inside
      refine Expression.isMark_of_letterless ((Expression.isAllowed_iff c).mpr (permitted.letters c inside)) ?_
      rw [Text.trim, String.toList_ofList] at inside
      exact letterless c (Text.mem_of_mem_trimList inside)
    have plain : ∀ p, parse (source (Text.trim expression)) = some p → PlainProgram .bare p :=
      fun p parsed => parse_letterless marks parsed
    exact run_agrees installable.bindable (installable_nil _).bindable installable.unique (installable_nil 0).unique
      (fun _ inside => (List.not_mem_nil inside).elim) (fun _ free => (free.not_bare).elim) plain clock

end

theorem evaluate_letterless_shadowed : evaluate .standard "1+1" shadows = evaluate .standard "1+1" [] := by
  have text : "1+1".toList = ['1', '+', '1'] := String.toList_ofList
  exact evaluate_letterless (shadows_installable _) (by rw [text]; simp) _

section

variable {config : EvaluatorConfig} {expression : String} {bindings : Bindings}
  (installable : Installable config.memoryLimit.toNat bindings)
include installable

/-- The order in which the bindings are stored is not seen by an expression of operators over constants, over the values
that names and the fields of what they stand for come to, and over what the functions of numbers and texts give. -/
theorem evaluate_permuted {others : Bindings} (same : bindings.Perm others)
    (plain : ∀ checked p, Expression.validate expression = .ok checked → parse (source checked) = some p →
      PlainProgram (.of bindings) p) (clock : Session.Clock) :
    evaluate config expression bindings clock = evaluate config expression others clock := by
  have installed := installable.perm same
  have covered : ∀ n, IsFree (bindings.map (·.1)) n → ∀ m, m = n ∨ m = "__proto__" →
      m ∉ bindings.map (·.1) ∧ m ∉ others.map (·.1) := by
    intro n free m either
    have untaken : m ∉ bindings.map (·.1) := by
      rcases either with rfl | rfl
      · exact free.untaken
      · exact free.rooted
    exact ⟨untaken, fun inside => untaken ((same.map _).mem_iff.mpr inside)⟩
  rw [evaluate_installable installable, evaluate_installable installed]
  cases accepted : Expression.validate expression with
  | error r => rfl
  | ok checked =>
    have read : ∀ p, parse (source checked) = some p → PlainProgram (.of bindings) p :=
      fun p parsed => plain checked p accepted parsed
    exact run_agrees installable.bindable installed.bindable installable.unique installed.unique
      (fun b inside => ⟨inside, same.mem_iff.mp inside⟩) covered read clock

end

def visitor : Bindings :=
  [("limit", .int 18), ("user", .object [("age", .int 30), ("tags", .array [])])]

theorem visitor_installable (limit : Nat) : Installable limit visitor where
  unique := by decide
  words := List.all_eq_true.mp (by decide)
  free := by decide
  fits := by
    have tags : Fits limit (.array []) := .array (fun i few _ => absurd few (Nat.not_lt_zero i)) (by simp)
    have user : Fits limit (.object [("age", .int 30), ("tags", .array [])]) :=
      .object (List.forall_mem_cons.mpr ⟨.int _, List.forall_mem_singleton.mpr tags⟩)
    exact List.forall_mem_cons.mpr ⟨.int _, List.forall_mem_singleton.mpr user⟩

def admission : String :=
  "user?.age >= Math.max(limit, 21) && !user.tags.length && !user.banned"

theorem evaluate_permuted_shadowed :
    evaluate .standard admission visitor = evaluate .standard admission visitor.reverse := by
  have plain : ∀ checked p, Expression.validate admission = .ok checked → parse (source checked) = some p →
      PlainProgram (.of visitor) p := by
    intro checked p accepted parsed
    have same : Expression.validate admission = .ok admission := by decide
    cases same.symm.trans accepted
    have read : (parse (source admission)).all (isPlainProgram (.of visitor)) = true := by decide +kernel
    rw [parsed] at read
    exact plainProgram_of_isPlainProgram read
  exact evaluate_permuted (visitor_installable _) (List.reverse_perm _).symm plain _

theorem nameProgram_plain {scope : Script.Scope} {n : String} {v : Json} (bound : (n, v) ∈ scope.docs)
    (ordinary : n ≠ "__proto__") (scalar : isScalar v = true) : PlainProgram scope (nameProgram n) where
  unscoped := ⟨rfl, rfl⟩
  body := List.forall_mem_cons.mpr ⟨.expr (.constant _), List.forall_mem_cons.mpr
    ⟨.expr (.paren (.fetched (.scalar (.name bound ordinary) scalar))), fun _ inside => by cases inside⟩⟩

def isExact : Json → Bool
  | .null | .bool _ | .string _ => true
  | .int n => n.natAbs ≤ 2 ^ 53
  | _ => false

inductive Equals : Json → Primitive → Prop where
  | null : Equals .null .null
  | bool (b : Bool) : Equals (.bool b) (.bool b)
  | int {n : Int} {x : Float} (exact : Double.toInt? x = some n) : Equals (.int n) (.number x)
  | string (s : String) : Equals (.string s) (.string s)

def scalarText : Json → String
  | .bool b => toString b
  | .int n => toString n
  | .string s => s
  | _ => ""

theorem isScalar_of_isExact {v : Json} (exact : isExact v = true) : isScalar v = true := by
  cases v <;> first | rfl | cases exact

theorem exportPrimitive_image {v : Json} (exact : isExact v = true) :
    ∃ p, exportPrimitive (image 0 v) = .ok p ∧ Equals v p ∧ p.text = scalarText v := by
  cases v with
  | null => exact ⟨_, rfl, .null, rfl⟩
  | bool b => exact ⟨_, rfl, .bool b, rfl⟩
  | int n =>
    have small : n.natAbs ≤ 2 ^ 53 := of_decide_eq_true exact
    exact ⟨_, rfl, .int (Double.toInt?_ofWhole small), Primitive.numberText_ofWhole small⟩
  | string s =>
    refine ⟨.string s, ?_, .string s, rfl⟩
    rw [image, exportPrimitive, Units.toText_ofString]
  | float x => cases exact
  | array items => cases exact
  | object fields => cases exact

theorem runProgram_name {n : String} (ordinary : n ≠ "__proto__") {v : Value} {s : Realm} (names : Names s.heap n v) :
    runProgram Engine.full (nameProgram n) s = .ok v s := by
  have read : readName? (Engine.ofDepth 7998) scriptEnv n s = .ok (some v) s := by
    have known : readName? (Engine.ofDepth 7998) scriptEnv n (({ s with heap := #[] } : Realm).over s.heap) = _ :=
      Twins.readName?_names rfl names
    rwa [over_bare] at known
  have named : Engine.full.eval scriptEnv (.paren (.name n)) s = .ok v s := bind_of_ok read _
  have directed : Engine.full.eval scriptEnv (.constant (.string (Units.ofString "use strict"))) s =
      .ok (.string (Units.ofString "use strict")) s := rfl
  have plain : PlainProgram (.of [(n, .null)]) (nameProgram n) := nameProgram_plain List.mem_cons_self ordinary rfl
  rw [Twins.runProgram_plain Engine.full plain]
  exact (bind_of_ok directed _).trans ((bind_of_ok named _).trans rfl)

theorem source_whole {n : String} (word : Expression.isIdentifier n) : Session.zeroIn? (source n) = none := by
  obtain ⟨c, rest, same, -, each⟩ := (Expression.isIdentifier_iff n).mp word
  have dark : '\x00' ∉ n.toList := fun inside => absurd (each _ (same ▸ inside)) (by decide)
  rw [zeroIn?_eq_none, source, String.toList_append, String.toList_append, List.mem_append, List.mem_append]
  exact fun inside => inside.elim (fun first => first.elim (by decide) dark) (by decide)

theorem finish_name {n : String} (word : Expression.isIdentifier n) (free : n ∉ Parse.keywords)
    (direct : n ≠ "async" ∧ n ≠ "await") (ordinary : n ≠ "__proto__") {v : Value} {s : Realm}
    (names : Names s.heap n v) : finish n s = .ok (exportPrimitive v) s := by
  have evaluated : Session.evaluate (source n) s = .ok v s := by
    have parsed : parse (source n) = some (nameProgram n) := parse_name word free direct
    rw [Session.evaluate, parsed]
    exact runProgram_name ordinary names
  exact bind_of_ok (outcome_of_ok (source_whole word) evaluated) _

theorem validate_direct {n : String} (word : Expression.isIdentifier n) (accepted : Expression.validate n = .ok n) :
    n ≠ "async" ∧ n ≠ "await" := by
  obtain ⟨trimmed, permitted⟩ := (Expression.validate_eq_ok_iff _ _).mp accepted
  obtain ⟨c, rest, same, -, each⟩ := (Expression.isIdentifier_iff n).mp word
  have run : Expression.IsRun Expression.isIdentifierChar (Text.trim n).toList [] n.toList [] :=
    ⟨by rw [← trimmed]; simp, by rw [same]; simp, by rwa [same], rfl, rfl⟩
  have apart := permitted.identifier run
  constructor
  · rintro rfl
    exact apart ⟨"async", by decide, by decide⟩
  · rintro rfl
    exact apart ⟨"await", by decide, by decide⟩

section

variable {config : EvaluatorConfig} {bindings : Bindings}
  (installable : Installable config.memoryLimit.toNat bindings) (room : Room config.memoryLimit.toNat 0)
include installable room

/-- A bound scalar is read under its name, whatever else is bound. -/
theorem evaluate_name {n : String} {v : Json} (bound : (n, v) ∈ bindings) (exact : isExact v = true)
    (accepted : Expression.validate n = .ok n) (free : n ∉ Parse.keywords) (ordinary : n ≠ "__proto__")
    (clock : Session.Clock) :
    ∃ p, evaluate config n bindings clock = .ok p ∧ Equals v p ∧
      Template.fillText (substitution config bindings clock) ("\x7b\x7b" ++ n ++ "\x7d\x7d") = .ok ⟨scalarText v, false⟩ := by
  have word := installable.words _ bound
  obtain ⟨p, exported, equals, text⟩ := exportPrimitive_image exact
  have ran : ∀ {s : Realm}, Furbished s.heap → s.heapLimit = config.memoryLimit.toNat →
      Session.settle ⟨config.timeout, config.memoryLimit.toNat⟩ (task n bindings s) = .ok p := by
    intro s start limit
    have bindable := installable.bindable
    rw [← limit] at bindable
    obtain ⟨heap, installed, -, -, named, -⟩ := install_apply start bindable
    have names := (named installable.unique _ bound ordinary).scalar (isScalar_of_isExact exact)
    rw [task_of_install installed, finish_name word free (validate_direct word accepted) ordinary names, exported]
    exact Session.settle_eq_ok.mpr rfl
  have evaluated : evaluate config n bindings clock = .ok p := by
    rw [evaluate_installable installable, accepted]
    dsimp only
    have roomy : (config.memoryLimit.toNat != 0 && decide (config.memoryLimit.toNat < heapFloor)) = false := by
      rcases room with none | enough
      · simp [none]
      · rw [Nat.zero_add] at enough
        simp [Nat.not_lt.mpr enough]
    rw [Session.run, Session.ended, Session.inRoom, if_neg (by rw [roomy]; exact Bool.false_ne_true)]
    refine ran ?_ ?_
    · dsimp only
      exact fresh_furbished
    · rfl
  obtain ⟨trimmed, permitted⟩ := (Expression.validate_eq_ok_iff _ _).mp accepted
  rw [← trimmed] at permitted
  have unbroken : '\x7d' ∉ n.toList := fun inside => absurd (permitted.letters _ inside) (by decide)
  have answered : substitution config bindings clock n = .ok (scalarText v) := by
    rw [substitution, textsBy, evaluated, ← text]
    rfl
  have filled : n ≠ "" := fun none => permitted.filled (by rw [none]; rfl)
  exact ⟨p, evaluated, equals, Template.fillText_single filled unbroken trimmed.symm answered⟩

end

theorem evaluate_name_shadowed : ∃ p, evaluate .standard "x" shadows = .ok p ∧ Equals (.string "a\"b") p ∧
    Template.fillText (substitution .standard shadows) "\x7b\x7bx\x7d\x7d" = .ok ⟨"a\"b", false⟩ :=
  evaluate_name (n := "x") (shadows_installable _) (.inr (by decide)) (by simp [shadows]) rfl (by decide)
    (by decide) (by decide) _

end Evaluator
end BoundedScript
