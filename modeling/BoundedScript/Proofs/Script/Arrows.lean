import BoundedScript.Proofs.Script.Outcomes

set_option autoImplicit false

namespace BoundedScript.Script

open Run

structure IsArrow (f : Function) : Prop where
  kind : f.info.kind = .arrow
  direct : f.info.isAsync = false ∧ f.info.isGenerator = false
  nameless : f.info.bindsSelf = false

instance (f : Function) : Decidable (IsArrow f) :=
  decidable_of_iff
    (f.info.kind = .arrow ∧ (f.info.isAsync = false ∧ f.info.isGenerator = false) ∧ f.info.bindsSelf = false)
    ⟨fun ⟨kind, direct, nameless⟩ => ⟨kind, direct, nameless⟩,
      fun arrow => ⟨arrow.kind, arrow.direct, arrow.nameless⟩⟩

def arrowProgram (f : Function) : Program :=
  ⟨[], [], [.expr (.paren (.function f))]⟩

def Program.arrow? : Program → Option Function
  | ⟨[], [], [.expr (.paren (.function f))]⟩ => if IsArrow f then some f else none
  | _ => none

theorem Program.eq_of_arrow? {p : Program} {f : Function} (found : p.arrow? = some f) :
    p = arrowProgram f ∧ IsArrow f := by
  unfold arrow? at found
  split at found
  next g =>
    rw [Option.ite_none_right_eq_some] at found
    obtain ⟨arrow, same⟩ := found
    cases same
    exact ⟨rfl, arrow⟩
  next => cases found

def scriptEnv : Env :=
  ⟨[], .value Intrinsic.global.value, .undefined, none, none, true⟩

def arrowEnv : Env :=
  { scriptEnv with isScript := false }

def arrowObject (f : Function) : Obj :=
  ⟨some Intrinsic.functionPrototype.addr, functionProps (.text f.info.name) f.info.expectedArgs, true,
    .closure ⟨f, scriptEnv, none, []⟩⟩

def withArrow (f : Function) (realm : Realm) : Realm :=
  { realm with heap := realm.heap.push (arrowObject f) }

section

variable {f : Function} (arrow : IsArrow f)
include arrow

theorem makeFunction_arrow (realm : Realm) :
    makeFunction scriptEnv f none realm = .ok realm.heap.size (withArrow f realm) := by
  have parent : functionPrototypeOf f.info = .functionPrototype := by
    rw [functionPrototypeOf, arrow.direct.1, arrow.direct.2]
  unfold makeFunction
  simp only [arrow.direct.2, arrow.kind, parent]
  rfl

theorem runProgram_arrow (realm : Realm) :
    runProgram Engine.full (arrowProgram f) realm = .ok (.object realm.heap.size) (withArrow f realm) := by
  have made : evalExpr (Engine.ofDepth 7998) scriptEnv (.function f) realm =
      .ok (.object realm.heap.size) (withArrow f realm) := by
    rw [evalExpr]
    simp only [arrow.nameless]
    exact bind_of_ok (makeFunction_arrow arrow realm) _
  have run : runProgram Engine.full (arrowProgram f) realm =
      EStateM.bind (evalExpr (Engine.ofDepth 7998) scriptEnv (.function f)) pure realm := rfl
  rw [run, EStateM.bind, made]
  rfl

theorem evaluate_arrow {source : String} {p : Program} (parsed : parse source = some p)
    (found : p.arrow? = some f) (realm : Realm) :
    Session.evaluate source realm = .ok (.object realm.heap.size) (withArrow f realm) := by
  rw [Session.evaluate, parsed, (Program.eq_of_arrow? found).1]
  exact runProgram_arrow arrow realm

end

theorem arrow_there (f : Function) (realm : Realm) :
    (withArrow f realm).heap[realm.heap.size]? = some (arrowObject f) := by
  simp [withArrow]

theorem isCallable_arrow (f : Function) (realm : Realm) :
    isCallable (.object realm.heap.size) (withArrow f realm) = .ok true (withArrow f realm) := by
  rw [isCallable, bind_of_ok (kindOf_apply (arrow_there f realm))]
  rfl

theorem call_arrow {f : Function} (arrow : IsArrow f) (this : Value) (args : Array Value) {realm : Realm} {a : Addr}
    (there : realm.heap[a]? = some (arrowObject f)) :
    Engine.full.call (.object a) this args realm = (do
      let v ← nested (runFunction (Engine.ofDepth 7999) arrowEnv f args)
      return v.getD .undefined : Run Value) realm := by
  have call : Engine.full.call = callFunction (Engine.ofDepth 7999) := rfl
  rw [call, callFunction, bind_of_ok (kindOf_apply there)]
  simp only [arrowObject, callClosure, arrow.kind, arrow.direct.1, arrow.direct.2]
  rfl

-- The deadline is noticed before the body is entered.
theorem nested_interrupted {α : Type} (x : Run α) {realm : Realm} (passed : realm.steps = 0) :
    nested x realm = .error .interrupted realm := by
  have noticed : tick realm = .error .interrupted realm := by
    rw [tick, passed]
    rfl
  exact bind_of_error noticed _

theorem call_interrupted {f : Function} (arrow : IsArrow f) (this : Value) (args : Array Value) {realm : Realm}
    (passed : realm.steps = 0) :
    Engine.full.call (.object realm.heap.size) this args (withArrow f realm) =
      .error .interrupted (withArrow f realm) := by
  have interrupted : (withArrow f realm).steps = 0 := passed
  rw [call_arrow arrow this args (arrow_there f realm)]
  exact bind_of_error (nested_interrupted _ interrupted) _

structure ReturnsParameter (f : Function) (n : String) : Prop where
  params : f.params = [.name n]
  body : f.body = [.return (.name n)]
  unscoped : f.info.vars = [] ∧ f.info.lexicals = []
  nameless : f.info.usesArguments = false

def Function.returned? (f : Function) : Option String :=
  match f.params, f.body with
  | [.name n], [.return (.name m)] =>
    if n = m ∧ (f.info.vars = [] ∧ f.info.lexicals = []) ∧ f.info.usesArguments = false then some n else none
  | _, _ => none

theorem Function.returnsParameter {f : Function} {n : String} (found : f.returned? = some n) :
    ReturnsParameter f n := by
  unfold returned? at found
  split at found
  next m k params body =>
    rw [Option.ite_none_right_eq_some] at found
    obtain ⟨⟨rfl, unscoped, nameless⟩, same⟩ := found
    cases same
    exact ⟨params, body, unscoped, nameless⟩
  next => cases found

theorem Function.of_returned? {source : String}
    (known : (((parse source).bind Program.arrow?).bind Function.returned?).isSome = true) :
    ∃ p f n, parse source = some p ∧ p.arrow? = some f ∧ f.returned? = some n := by
  obtain ⟨n, found⟩ := Option.isSome_iff_exists.mp known
  obtain ⟨f, found, returned⟩ := Option.bind_eq_some_iff.mp found
  obtain ⟨p, parsed, found⟩ := Option.bind_eq_some_iff.mp found
  exact ⟨p, f, n, parsed, found, returned⟩

section

variable {α : Type} {x : Run α} {realm : Realm} {Q : α → Realm → Prop} {k : Nat}

def deeper (x : Run α) : Run α := fun s =>
  match x { s with callDepth := s.callDepth + 1 } with
  | .ok a s => .ok a { s with callDepth := s.callDepth - 1 }
  | .error e s => .error e { s with callDepth := s.callDepth - 1 }

theorem nested_reaches (shallow : realm.callDepth < maxCalls)
    (inner : ∀ left, Reaches k x { realm with steps := left, callDepth := realm.callDepth + 1 } fun a after =>
      Q a { after with callDepth := after.callDepth - 1 }) : Reaches (1 + k) (nested x) realm Q := by
  rw [nested]
  refine Reaches.bind (tick_comes realm) fun u after ticked => ?_
  obtain ⟨rfl, left, rfl⟩ := ticked
  have got : (get : Run Realm) { realm with steps := left } =
      .ok { realm with steps := left } { realm with steps := left } := rfl
  refine .of_eq (y := deeper x) ((bind_of_ok got _).trans (congrFun (if_neg (Nat.not_le.mpr shallow)) _)) rfl ?_
  have reached := inner left
  rw [Reaches] at reached ⊢
  rw [deeper]
  cases ran : x { realm with steps := left, callDepth := realm.callDepth + 1 } with
  | ok a after =>
    rw [ran] at reached
    exact reached
  | error e after =>
    rw [ran] at reached
    exact reached

theorem readName_bound (E : Engine) (env : Env) (n : String) {cell : Nat} {v : Value}
    (there : realm.cells[cell]? = some (some v)) : readName E (env.bind n cell true) n realm = .ok v realm := by
  have found : (env.bind n cell true).lookup? n = some ⟨n, cell, true⟩ := by simp [Env.bind, Env.lookup?]
  have got : getCell cell realm = .ok (some v) realm := by rw [getCell, there]; rfl
  have read : readName? E (env.bind n cell true) n realm = .ok (some v) realm := by
    rw [readName?, found]
    exact bind_of_ok got _
  rw [readName, bind_of_ok read]
  rfl

theorem runFunction_returns {f : Function} {n : String} (returns : ReturnsParameter f n) (v : Value) (realm : Realm) :
    runFunction (Engine.ofDepth 7999) arrowEnv f #[v] realm =
      .ok (some v) { realm with cells := realm.cells.push (some v) } := by
  have names : plainNames f.params = some [n] := by
    rw [returns.params]
    rfl
  let env : Env := arrowEnv.bind n realm.cells.size true
  have bound : bindPlain arrowEnv #[v] 0 [n] realm = .ok env { realm with cells := realm.cells.push (some v) } := rfl
  have there : (realm.cells.push (some v))[realm.cells.size]? = some (some v) := Array.getElem?_push_size
  have read : readName (Engine.ofDepth 7997) env n { realm with cells := realm.cells.push (some v) } =
      .ok v { realm with cells := realm.cells.push (some v) } := readName_bound _ _ n there
  generalize ({ realm with cells := realm.cells.push (some v) } : Realm) = after at bound read ⊢
  have returned : (Engine.ofDepth 7999).exec env (.return (.name n)) after = .ok (.returned v) after :=
    bind_of_ok read _
  have ran : execList (Engine.ofDepth 7999) env f.body after = .ok (.returned v) after := by
    rw [returns.body, execList]
    exact bind_of_ok returned _
  have hoisted : hoistFunctions (Engine.ofDepth 7999) env f.body after = .ok () after := by
    rw [returns.body]
    rfl
  have body : runBody (Engine.ofDepth 7999) env f [n] after = .ok (some v) after := by
    rw [runBody, returns.unscoped.1, returns.unscoped.2]
    exact (bind_of_ok hoisted _).trans (bind_of_ok ran _)
  rw [runFunction, names, returns.nameless]
  exact (bind_of_ok bound fun env => runBody _ env f [n]).trans body

theorem call_returns {f : Function} {n : String} (arrow : IsArrow f) (returns : ReturnsParameter f n) (this v : Value)
    {a : Addr} (there : realm.heap[a]? = some (arrowObject f)) (shallow : realm.callDepth < maxCalls) :
    Reaches 1 (Engine.full.call (.object a) this #[v]) realm fun w after =>
      w = v ∧ ∃ left, after = { realm with steps := left, cells := realm.cells.push (some v) } := by
  refine .of_eq (call_arrow arrow this #[v] there) rfl ?_
  refine .bind (m := 1) (n := 0) (P := fun w after => w = some v ∧
    ∃ left, after = { realm with steps := left, cells := realm.cells.push (some v) })
    (nested_reaches (k := 0) shallow fun left => ?_) ?_
  · exact .of_ok (n := 0) (runFunction_returns returns v _) ⟨rfl, left, rfl⟩ (Nat.le_refl _)
  · rintro w after ⟨rfl, left, rfl⟩
    exact .of_ok rfl ⟨rfl, left, rfl⟩ (Nat.le_refl _)

end

end BoundedScript.Script
