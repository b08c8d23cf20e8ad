import BoundedScript.Proofs.Installing
import BoundedScript.Proofs.Script.PlainExpressions

set_option autoImplicit false

namespace BoundedScript

open Script Run

namespace Script.Twins

variable {T : Twins} {r : Realm}

theorem execScript_alike {E : Engine} (even : T.Even E) {env : Env} (bare : env.vars = []) {body : List Stmt}
    (plain : ∀ d ∈ body, PlainStmt T.toScope d) {v v' : Value} (same : T.Same r v v') :
    T.Alike (execScript E env v body) (execScript E env v' body) r T.Same := by
  induction body generalizing r v v' with
  | nil => exact .pure same
  | cons d rest ih =>
    obtain ⟨first, later⟩ := List.forall_mem_cons.mp plain
    cases first with
    | expr inner => exact (even.eval r env _ bare inner).bind fun t w w' _ same => ih later same
    | empty =>
      refine (even.idle r env).bind ?_
      rintro t _ _ grows ⟨rfl, rfl⟩
      exact ih later (same.grow grows)

theorem runProgram_plain (E : Engine) {scope : Script.Scope} {p : Program} (plain : PlainProgram scope p) :
    runProgram E p = execScript E scriptEnv .undefined p.body := by
  have hoisted : ∀ (env : Env) (body : List Stmt), (∀ d ∈ body, PlainStmt scope d) → hoistFunctions E env body = pure () := by
    intro env body plain
    induction body with
    | nil => rfl
    | cons d rest ih =>
      obtain ⟨first, later⟩ := List.forall_mem_cons.mp plain
      cases first <;> exact ih later
  unfold runProgram
  simp only [plain.unscoped.1, plain.unscoped.2, List.forIn_nil, declareNames, pure_bind, hoisted _ _ plain.body]
  rfl

theorem runProgram_alike {E : Engine} (even : T.Even E) {p : Program} (plain : PlainProgram T.toScope p) :
    T.Alike (runProgram E p) (runProgram E p) r T.Same := by
  rw [runProgram_plain E plain]
  exact execScript_alike even rfl plain.body (.plain rfl)

theorem evaluate_alike {source : String} (plain : ∀ p, parse source = some p → PlainProgram T.toScope p) :
    T.Alike (Session.evaluate source) (Session.evaluate source) r T.Same := by
  rw [Session.evaluate]
  cases parsed : parse source with
  | none => exact syntaxError_alike _
  | some p => exact runProgram_alike (ofDepth_even Engine.maxLevels) (plain p parsed)

section Told

variable {i : Nat} {c : ErrorClass} {message stack : String} (there : r.heap[i]? = some (errorObject c message stack))
include there

theorem errorPart_told {k : PropKey} {t : String}
    (own : (errorObject c message stack).own? k = some (.hidden (.text t))) :
    ∃ shown, ∀ heap : Array Obj, Session.errorPart (heap.size + i) k (r.over heap) = .ok shown (r.over heap) := by
  refine ⟨some (Units.ofString t).toTextLossy, fun heap => ?_⟩
  have found : find? (heap.size + i) k (r.over heap) = .ok (some (.hidden (.text t))) (r.over heap) := by
    have first : (r.over heap).find? (heap.size + i) k maxParents = some (.hidden (.text t)) := by
      rw [maxParents, Realm.find?, over_made, there]
      simp only [own]
    rw [find?, ← first]
    rfl
  have read : getOf Engine.full (heap.size + i) k (r.over heap) = .ok (.text t) (r.over heap) := by
    rw [getOf, getFrom, bind_of_ok found]
    rfl
  have tried : attempt (do
      let v ← getOf Engine.full (heap.size + i) k
      if v.isNullish then return none
      return some (← toUnits Engine.full v)) (r.over heap) =
      .ok (.ok (some (Units.ofString t))) (r.over heap) := by
    rw [attempt, bind_of_ok read]
    rfl
  rw [Session.errorPart, bind_of_ok tried]
  rfl

theorem thrownText_told : ∃ text, ∀ heap : Array Obj,
    Session.thrownText (.object (heap.size + i)) (r.over heap) = .ok text (r.over heap) := by
  have keys : messageKey = .ofString "message" ∧ stackKey = .ofString "stack" :=
    ⟨(Label.key_word (n := "message") (by decide)).symm, (Label.key_word (n := "stack") (by decide)).symm⟩
  have apart : PropKey.ofString "stack" ≠ .ofString "message" := fun same => absurd (PropKey.ofString_inj same) (by decide)
  have held : ∀ k, (errorObject c message stack).own? k = (errorObject c message stack).props.get? k := fun _ => rfl
  obtain ⟨first, asked⟩ := errorPart_told there (k := messageKey) (t := message) (by
    rw [held, keys.1, errorObject, PropTable.get?_insert, if_neg apart, PropTable.get?_insert, if_pos rfl])
  obtain ⟨second, again⟩ := errorPart_told there (k := stackKey) (t := stack) (by
    rw [held, keys.2, errorObject, PropTable.get?_insert, if_pos rfl])
  refine ⟨"Error:" ++ (first.map (" " ++ ·)).getD "" ++ (second.map ("\n" ++ ·)).getD "", fun heap => ?_⟩
  rw [Session.thrownText, bind_of_ok (kindOf_made heap there)]
  exact (bind_of_ok (asked heap) _).trans (bind_of_ok (again heap) _)

end Told

theorem guarded_alike {x x' : Run Value} (alike : T.Alike x x' r T.Same) :
    T.Alike (Session.guarded x) (Session.guarded x') r fun s a a' =>
      (∃ text, a = .error text ∧ a' = .error text) ∨ ∃ v v', a = .ok v ∧ a' = .ok v' ∧ T.Same s v v' := by
  refine (attempt_alike alike).bind ?_
  rintro s _ _ - (⟨v, v', rfl, rfl, same⟩ | ⟨e, e', rfl, rfl, stops⟩)
  · exact .pure (.inr ⟨v, v', rfl, rfl, same⟩)
  · cases stops with
    | failed there =>
      obtain ⟨text, told⟩ := thrownText_told there
      exact .behind (told _) (told _) (.pure (.inl ⟨text, rfl, rfl⟩))
    | interrupted => exact throw_alike .interrupted
    | chainEnded => exact throw_alike .chainEnded

theorem outcome_alike {source : String} (plain : ∀ p, parse source = some p → PlainProgram T.toScope p) :
    T.Alike (Session.outcome source) (Session.outcome source) r fun s a a' =>
      (∃ text, a = .error text ∧ a' = .error text) ∨ ∃ v v', a = .ok v ∧ a' = .ok v' ∧ T.Same s v v' := by
  rw [Session.outcome]
  cases Session.zeroIn? source with
  | some text => exact .pure (.inl ⟨text, rfl, rfl⟩)
  | none => exact guarded_alike (evaluate_alike plain)

theorem exportPrimitive_same {v v' : Value} (same : T.Same r v v') :
    Evaluator.exportPrimitive v = Evaluator.exportPrimitive v' := by
  cases same <;> rfl

theorem settle_alike {α : Type} {x x' : Run (Except Fault α)} (alike : T.Alike x x' r fun _ a a' => a = a')
    (limits : Limits) :
    Session.settle limits (x (r.over T.left)) = Session.settle limits (x' (r.over T.right)) := by
  cases alike with
  | done grows left right same =>
    rw [left, right, same]
    rfl
  | stopped grows left right stops =>
    rw [left, right]
    rfl

end Script.Twins

namespace Evaluator

-- What is left to do when the names stand for something.
def finish (expression : String) : Run (Except Fault Primitive) := do
  match ← Session.outcome (source expression) with
  | .error text => return .error (.runtimeFault text)
  | .ok v => return exportPrimitive v

theorem finish_alike {T : Twins} (r : Realm) {expression : String}
    (plain : ∀ p, parse (source expression) = some p → PlainProgram T.toScope p) :
    T.Alike (finish expression) (finish expression) r fun _ a a' => a = a' := by
  refine (Twins.outcome_alike plain).bind ?_
  rintro s _ _ - (⟨text, rfl, rfl⟩ | ⟨v, v', rfl, rfl, same⟩)
  · exact .pure rfl
  · exact .pure (Twins.exportPrimitive_same same)

theorem over_bare (s : Realm) (heap : Array Obj) : ({ s with heap := #[] } : Realm).over heap = { s with heap } := by
  change ({ s with heap := heap ++ #[] } : Realm) = _
  rw [Array.append_empty]

theorem task_of_install {expression : String} {bindings : Bindings} {s : Realm} {heap : Array Obj}
    (installed : install bindings s = .ok (.ok ()) { s with heap }) :
    task expression bindings s = finish expression { s with heap } :=
  bind_of_ok installed _

section Agreement

variable {limits : Limits} {bindings others : Bindings} {scope : Script.Scope}
  (each : ∀ b ∈ bindings, Bindable limits.heap b) (each' : ∀ b ∈ others, Bindable limits.heap b)
  (unique : (bindings.map (·.1)).Nodup) (unique' : (others.map (·.1)).Nodup)
  (shared : ∀ b ∈ scope.docs, b ∈ bindings ∧ b ∈ others)
  (covered : ∀ n, IsFree scope.taken n → ∀ m, m = n ∨ m = "__proto__" →
    m ∉ bindings.map (·.1) ∧ m ∉ others.map (·.1))
  {expression : String} (plain : ∀ p, parse (source expression) = some p → PlainProgram scope p)
include each each' unique unique' shared covered plain

theorem task_agrees {s : Realm} (start : s.heap = World.fresh.heap) (limit : s.heapLimit = limits.heap) :
    Session.settle limits (task expression bindings s) = Session.settle limits (task expression others s) := by
  rw [← limit] at each each'
  have furbished : Furbished s.heap := by
    rw [start]
    exact fresh_furbished
  obtain ⟨left, installed, here, -, named, opened⟩ := install_apply furbished each
  obtain ⟨right, installed', here', -, named', opened'⟩ := install_apply furbished each'
  rw [start] at opened opened'
  let T : Twins :=
    { scope with
      left, right, leftHosts := here.hosts, rightHosts := here'.hosts
      alike := fun b inside ordinary =>
        ⟨named unique b (shared b inside).1 ordinary, named' unique' b (shared b inside).2 ordinary⟩
      opened := fun n free =>
        have root := covered n free _ (.inr rfl)
        have name := covered n free n (.inl rfl)
        ⟨opened root.1 n name.1, opened' root.2 n name.2⟩ }
  let r : Realm := { s with heap := #[] }
  have settled := Twins.settle_alike (finish_alike (T := T) r plain) limits
  rw [over_bare, over_bare] at settled
  rw [task_of_install installed, task_of_install installed']
  exact settled

/-- The outcome of an expression of operators over constants and what is fetched from documents depends on those documents,
whatever else is bound and in whatever order, as long as the names that it reads besides are not bound. -/
theorem run_agrees (clock : Session.Clock) :
    Session.run limits (task expression bindings) clock = Session.run limits (task expression others) clock := by
  rw [Session.run, Session.run, Session.ended, Session.ended, Session.inRoom, Session.inRoom]
  split
  · rfl
  · refine task_agrees each each' unique unique' shared covered plain ?_ ?_
    · dsimp only
    · rfl

end Agreement

end Evaluator

end BoundedScript
