import BoundedScript.Proofs.ProcessBoundary
import BoundedScript.Proofs.Reencoding
import BoundedScript.Proofs.Rendering
import BoundedScript.Proofs.Script.Arrows
import BoundedScript.Proofs.WorkerFailures

set_option autoImplicit false

namespace BoundedScript

open Script
open Text (Bytes bytesOf)

namespace Script.Session

section

variable {α : Type} {limits : Limits} {task : Run (Except Fault α)} {clock : Clock}

/-- The deadline passed before the task was done, and the task failed, whatever with. -/
structure Overdue (ran : EStateM.Result Abrupt Realm (Except Fault α)) : Prop where
  failed : ∃ f, told ran = .error f
  late : isLate ran = true

/-- The runs that a layer is about are told as they should: a value as it is, however late it came; a failure
behind the deadline as the deadline's; and nothing else as a deadline's. -/
structure Classifies (runs : EStateM.Result Abrupt Realm (Except Fault α) → Prop) (value : α → Prop)
    (deadline timeout : Prop) : Prop where
  kept : ∀ ran a, runs ran → told ran = .ok a → value a
  overdue : ∀ ran, runs ran → Overdue ran → deadline
  only : timeout → ∃ ran, runs ran ∧ Overdue ran

theorem run_of_overdue (overdue : Overdue (ended limits task clock)) :
    run limits task clock = .error (late limits) := by
  obtain ⟨f, failed⟩ := overdue.failed
  rw [run, settle_of_failed failed, overdue.late]
  rfl

theorem overdue_of_run {f : Fault} (fails : Returns Worker.FailsAsScript task)
    (ran : run limits task clock = .error f) :
    (Overdue (ended limits task clock) ∧ f = late limits) ∨ Worker.FromScript f := by
  rw [run] at ran
  cases told : told (ended limits task clock) with
  | ok a =>
    rw [settle_eq_ok.mpr told] at ran
    cases ran
  | error g =>
    rw [settle_of_failed told] at ran
    cases isLate : isLate (ended limits task clock) with
    | true =>
      simp only [isLate] at ran
      exact .inl ⟨⟨⟨g, told⟩, isLate⟩, (Except.error.inj ran).symm⟩
    | false =>
      simp only [isLate] at ran
      cases ran
      exact .inr (Worker.told_fails fails told)

end
end Script.Session

theorem Worker.FromScript.not_timeout {f : Fault} (script : FromScript f) : f.isTimeout = false := by
  cases script <;> rfl

namespace Evaluator

def Runs (config : EvaluatorConfig) (expression : String) (bindings : Bindings) (clock : Session.Clock)
    (ran : EStateM.Result Abrupt Realm (Except Fault Primitive)) : Prop :=
  ∃ checked, Expression.validate expression = .ok checked ∧
    (∀ b ∈ bindings, Expression.isIdentifier b.1 = true) ∧
    ran = Session.ended ⟨config.timeout, config.memoryLimit.toNat⟩ (task checked bindings) clock

open Worker (FailsAsScript failsAsScript_error failsAsScript_ok)

theorem install_returns (bindings : Bindings) : Returns FailsAsScript (install bindings) := by
  induction bindings with
  | nil => exact .pure (failsAsScript_ok ())
  | cons b rest ih =>
    apply Returns.behind
    intro stored
    cases stored with
    | ok u => exact ih
    | error text => exact .pure (failsAsScript_error (.runtimeFault text))

theorem exportPrimitive_fails (v : Value) : FailsAsScript (exportPrimitive v) := by
  cases v with
  | undefined => exact failsAsScript_error .noValue
  | symbol id => exact failsAsScript_error (.runtimeFault _)
  | object a => exact failsAsScript_error (.runtimeFault _)
  | string u =>
    unfold exportPrimitive
    cases text : u.toText with
    | ok s =>
      simp only [text]
      exact failsAsScript_ok _
    | error i =>
      simp only [text]
      exact failsAsScript_error (.runtimeFault _)
  | _ => exact failsAsScript_ok _

theorem task_returns (expression : String) (bindings : Bindings) :
    Returns FailsAsScript (task expression bindings) := by
  intro realm r after ran
  rw [task] at ran
  cases installed : install bindings realm with
  | error e between =>
    rw [bind_of_error installed] at ran
    cases ran
  | ok first between =>
    rw [bind_of_ok installed] at ran
    cases first with
    | error f =>
      cases ran
      exact failsAsScript_error (install_returns bindings realm _ _ installed f rfl)
    | ok u =>
      refine Returns.behind ?_ between r after ran
      intro evaluated
      cases evaluated with
      | error text => exact .pure (failsAsScript_error (.runtimeFault text))
      | ok v => exact .pure (exportPrimitive_fails v)

section

variable {config : EvaluatorConfig} {expression : String} {bindings : Bindings} {clock : Session.Clock}

theorem evaluate_of_runs {ran : EStateM.Result Abrupt Realm (Except Fault Primitive)}
    (runs : Runs config expression bindings clock ran) :
    evaluate config expression bindings clock = Session.settle ⟨config.timeout, config.memoryLimit.toNat⟩ ran := by
  obtain ⟨checked, valid, names, rfl⟩ := runs
  have none : bindings.find? (fun b => !Expression.isIdentifier b.1) = none := by
    rw [List.find?_eq_none]
    intro b inside
    simp [names b inside]
  rw [evaluate, valid]
  simp only [none]
  rfl

theorem runs_or_refused (config : EvaluatorConfig) (expression : String) (bindings : Bindings)
    (clock : Session.Clock) :
    (∃ ran, Runs config expression bindings clock ran) ∨
      ∃ f, evaluate config expression bindings clock = .error f ∧ f.isTimeout = false := by
  cases valid : Expression.validate expression with
  | error r =>
    right
    refine ⟨.rejected r, ?_, rfl⟩
    rw [evaluate, valid]
  | ok checked =>
    cases odd : bindings.find? (fun b => !Expression.isIdentifier b.1) with
    | some b =>
      right
      refine ⟨.invalidIdentifier b.1, ?_, rfl⟩
      rw [evaluate, valid]
      simp only [odd]
    | none =>
      left
      refine ⟨_, checked, valid, ?_, rfl⟩
      intro b inside
      simpa using List.find?_eq_none.mp odd b inside

theorem evaluate_value {ran : EStateM.Result Abrupt Realm (Except Fault Primitive)} {p : Primitive}
    (runs : Runs config expression bindings clock ran) (done : Session.told ran = .ok p) :
    evaluate config expression bindings clock = .ok p := by
  rw [evaluate_of_runs runs]
  exact Session.settle_eq_ok.mpr done

theorem evaluate_overdue {ran : EStateM.Result Abrupt Realm (Except Fault Primitive)}
    (runs : Runs config expression bindings clock ran) (overdue : Session.Overdue ran) :
    evaluate config expression bindings clock = .error (.timeout ("script exceeded " ++ config.timeout.brief)) := by
  obtain ⟨f, failed⟩ := overdue.failed
  rw [evaluate_of_runs runs, Session.settle_of_failed failed, overdue.late]
  rfl

theorem overdue_of_evaluate {f : Fault} (failed : evaluate config expression bindings clock = .error f)
    (timeout : f.isTimeout = true) :
    ∃ ran, Runs config expression bindings clock ran ∧ Session.Overdue ran := by
  rcases runs_or_refused config expression bindings clock with ⟨ran, runs⟩ | ⟨g, refused, other⟩
  · refine ⟨ran, runs, ?_⟩
    rw [evaluate_of_runs runs] at failed
    obtain ⟨checked, -, -, rfl⟩ := runs
    rcases Session.overdue_of_run (task_returns checked bindings) failed with ⟨overdue, -⟩ | script
    · exact overdue
    · rw [script.not_timeout] at timeout
      cases timeout
  · rw [refused] at failed
    cases failed
    rw [other] at timeout
    cases timeout

end

-- Placeholders are evaluated one after the other, each under a clock of its own.
def timed (config : EvaluatorConfig) (bindings : Bindings) (clocks : Nat → Session.Clock) :
    Template.Asking (StateM Nat) :=
  Template.counted fun n => substitution config bindings (clocks n)

def render (config : EvaluatorConfig) (bindings : Bindings) (clocks : Nat → Session.Clock) (v : Json) :
    Except Fault Json :=
  ((Template.fillBy (timed config bindings clocks) v).run 0).1

structure RunsAt (config : EvaluatorConfig) (bindings : Bindings) (clocks : Nat → Session.Clock) (v : Json)
    (n : Nat) (e : String) (ran : EStateM.Result Abrupt Realm (Except Fault Primitive)) : Prop where
  there : (Template.placeholders v)[n]? = some e
  before : ∀ m d, m < n → (Template.placeholders v)[m]? = some d →
    ∃ p, evaluate config d bindings (clocks m) = .ok p
  runs : Runs config e bindings (clocks n) ran

section

variable {config : EvaluatorConfig} {bindings : Bindings} {clock : Session.Clock} {clocks : Nat → Session.Clock}
  {v : Json}

theorem substitution_of_ok {e : String} {p : Primitive} (done : evaluate config e bindings clock = .ok p) :
    substitution config bindings clock e = .ok p.text := by
  rw [substitution, textsBy, done]
  rfl

theorem substitution_eq_error {e : String} {f : Fault} :
    substitution config bindings clock e = .error f ↔ evaluate config e bindings clock = .error f := by
  rw [substitution, textsBy]
  cases evaluate config e bindings clock <;> simp [Except.map]

theorem render_eq (config : EvaluatorConfig) (bindings : Bindings) (clocks : Nat → Session.Clock) (v : Json) :
    render config bindings clocks v =
      (Template.firstFailure (fun n => substitution config bindings (clocks n)) 0
        (Template.placeholders v)).elim
        (.ok (Template.filled (fun n => substitution config bindings (clocks n)) 0 v)) .error :=
  (Template.fillBy_fills _ 0 v).fst

theorem render_overdue {n : Nat} {e : String} {ran : EStateM.Result Abrupt Realm (Except Fault Primitive)}
    (at_ : RunsAt config bindings clocks v n e ran) (overdue : Session.Overdue ran) :
    render config bindings clocks v =
      .error (.template e (.timeout ("script exceeded " ++ config.timeout.brief))) := by
  have failed := substitution_eq_error.mpr (evaluate_overdue at_.runs overdue)
  have first := Template.firstFailure_of_failed (fun n => substitution config bindings (clocks n))
    (n := 0) at_.there (by rwa [Nat.zero_add]) (by
      intro m d earlier inside
      obtain ⟨p, done⟩ := at_.before m d earlier inside
      exact ⟨p.text, by rw [Nat.zero_add, substitution_of_ok done]⟩)
  rw [render_eq, first, Option.elim]

theorem render_values
    (done : ∀ n e, (Template.placeholders v)[n]? = some e →
      ∃ ran p, Runs config e bindings (clocks n) ran ∧ Session.told ran = .ok p) :
    render config bindings clocks v =
      .ok (Template.filled (fun n => substitution config bindings (clocks n)) 0 v) := by
  have first : Template.firstFailure (fun n => substitution config bindings (clocks n)) 0
      (Template.placeholders v) = none := by
    apply Template.firstFailure_of_answered
    intro n e there
    obtain ⟨ran, p, runs, told⟩ := done n e there
    exact ⟨p.text, by rw [Nat.zero_add, substitution_of_ok (evaluate_value runs told)]⟩
  rw [render_eq, first, Option.elim]

theorem overdue_of_render {f : Fault} (failed : render config bindings clocks v = .error f)
    (timeout : f.isTimeout = true) :
    ∃ n e ran, RunsAt config bindings clocks v n e ran ∧ Session.Overdue ran := by
  rw [render_eq] at failed
  cases first : Template.firstFailure (fun n => substitution config bindings (clocks n)) 0
      (Template.placeholders v) with
  | none =>
    rw [first] at failed
    cases failed
  | some g =>
    rw [first] at failed
    obtain rfl : g = f := Except.error.inj failed
    obtain ⟨n, e, cause, there, unanswered, rfl, before⟩ := Template.failed_of_firstFailure _ first
    have cause := substitution_eq_error.mp unanswered
    obtain ⟨ran, runs, overdue⟩ := overdue_of_evaluate cause timeout
    rw [Nat.zero_add] at runs
    refine ⟨n, e, ran, ⟨there, ?_, runs⟩, overdue⟩
    intro m d earlier inside
    obtain ⟨text, answered⟩ := before m d earlier inside
    rw [Nat.zero_add] at answered
    cases done : evaluate config d bindings (clocks m) with
    | ok p => exact ⟨p, rfl⟩
    | error h =>
      rw [substitution_eq_error.mpr done] at answered
      cases answered

end

end Evaluator

namespace Worker

def Runs (limits : WorkerLimits) (input : Input) (clock : Session.Clock)
    (ran : EStateM.Result Abrupt Realm (Except Fault String)) : Prop :=
  ∃ r, Admitted limits input r ∧
    ran = Session.ended ⟨limits.timeout, limits.heapLimit.toNat⟩ (task r.code r.payload) clock

def delivered (limits : WorkerLimits) (text : String) : Wire.Response :=
  if limits.maxResult.toNat < text.utf8ByteSize then
    .failure (.resultTooLarge text.utf8ByteSize limits.maxResult.toNat)
  else match Json.readText text with
    | .ok v => .success v
    | .error e => .failure (.resultNotJson e.message)

def deadlineFault (limits : WorkerLimits) : Fault :=
  .timeout ("transform exceeded " ++ limits.timeout.brief)

theorem deadlineFault_message (limits : WorkerLimits) :
    (deadlineFault limits).message = "Timed out: transform exceeded " ++ limits.timeout.brief := by
  have joined : "Timed out: " ++ "transform exceeded " = "Timed out: transform exceeded " := by decide
  calc (deadlineFault limits).message
      = "Timed out: " ++ ("transform exceeded " ++ limits.timeout.brief) := rfl
    _ = "Timed out: " ++ "transform exceeded " ++ limits.timeout.brief := (String.append_assoc ..).symm
    _ = "Timed out: transform exceeded " ++ limits.timeout.brief := congrArg (· ++ _) joined

section

variable {limits : WorkerLimits} {input : Input} {clock : Session.Clock}

theorem respond_value {ran : EStateM.Result Abrupt Realm (Except Fault String)} {text : String}
    (runs : Runs limits input clock ran) (done : Session.told ran = .ok text) :
    respond limits input clock = delivered limits text := by
  obtain ⟨r, admitted, rfl⟩ := runs
  have value := transform_of_text (Session.settle_eq_ok.mpr done)
  rw [respond_of_admitted admitted, value, delivered]
  by_cases long : limits.maxResult.toNat < text.utf8ByteSize
  · rw [if_pos long, if_pos long]
    rfl
  · rw [if_neg long, if_neg long, readResult]
    cases Json.readText text <;> rfl

theorem respond_overdue {ran : EStateM.Result Abrupt Realm (Except Fault String)}
    (runs : Runs limits input clock ran) (overdue : Session.Overdue ran) :
    respond limits input clock = .failure (deadlineFault limits) := by
  obtain ⟨r, admitted, rfl⟩ := runs
  rw [respond_of_admitted admitted, transform_of_failed (Session.run_of_overdue overdue)]
  rfl

theorem delivered_kind (limits : WorkerLimits) (text : String) :
    (delivered limits text).kind ≠ some .timeout := by
  rw [delivered]
  split
  · rintro ⟨⟩
  · cases Json.readText text with
    | ok v => rintro ⟨⟩
    | error e => rintro ⟨⟩

theorem refused_or_admitted (limits : WorkerLimits) (input : Input) :
    (∃ r, Admitted limits input r) ∨ ∃ f, readRequest limits input = .error f ∧ f.isTimeout = false := by
  obtain ⟨response, answers⟩ := answers_total limits input Session.stepsFor
  cases answers with
  | done admitted ran => exact .inl ⟨_, admitted⟩
  | failed admitted ran => exact .inl ⟨_, admitted⟩
  | unasked most => exact .inr ⟨_, readRequest_of_most most, rfl⟩
  | tooLarge countable long => exact .inr ⟨_, readRequest_of_long countable long, rfl⟩
  | unreadable countable short failure => exact .inr ⟨_, readRequest_of_failure countable short failure, rfl⟩
  | malformed received refused => exact .inr ⟨_, readRequest_of_malformed received refused, rfl⟩
  | unsupported decoded other => exact .inr ⟨_, readRequest_of_unsupported decoded other, rfl⟩
  | missing decoded known blank => exact .inr ⟨_, readRequest_of_missing decoded known blank, rfl⟩
  | longCode decoded known told long =>
    exact .inr ⟨_, readRequest_of_longCode decoded known told long, rfl⟩

theorem overdue_of_respond (timeout : (respond limits input clock).kind = some .timeout) :
    ∃ ran, Runs limits input clock ran ∧ Session.Overdue ran := by
  rcases refused_or_admitted limits input with ⟨r, admitted⟩ | ⟨f, refused, other⟩
  · refine ⟨_, ⟨r, admitted, rfl⟩, ?_⟩
    cases ran : Session.run ⟨limits.timeout, limits.heapLimit.toNat⟩ (task r.code r.payload) clock with
    | ok text =>
      rw [respond_value ⟨r, admitted, rfl⟩ (Session.settle_eq_ok.mp ran)] at timeout
      exact absurd timeout (delivered_kind limits text)
    | error f =>
      rcases Session.overdue_of_run (task_returns r.code r.payload) ran with ⟨overdue, -⟩ | script
      · exact overdue
      · rw [respond_of_admitted admitted, transform_of_failed ran] at timeout
        have same : f.kind = .timeout := by
          simpa [ownDeadline_of_script script, Wire.Response.failure] using timeout
        have other := script.not_timeout
        rw [Fault.isTimeout, same] at other
        cases other
  · rw [respond_of_refused refused] at timeout
    rw [Fault.isTimeout, Option.some.inj timeout] at other
    cases other

end

section

variable {code : String} {p : Program} {f : Function} (whole : Session.zeroIn? (source code) = none)
  (parsed : parse (source code) = some p) (found : p.arrow? = some f)
include whole parsed found

theorem task_interrupted {realm : Realm} (passed : realm.steps = 0) :
    task code .null realm = .error .interrupted (withArrow f realm) := by
  have arrow := (Program.eq_of_arrow? found).2
  have called : Session.guarded
      (do Engine.full.call (.object realm.heap.size) .undefined #[← JsonObject.ofJson .null])
      (withArrow f realm) = .error .interrupted (withArrow f realm) :=
    guarded_of_interrupted (call_interrupted arrow _ _ passed)
  rw [task, bind_of_ok (outcome_of_ok whole (evaluate_arrow arrow parsed found realm))]
  simp only
  rw [bind_of_ok (isCallable_arrow f realm)]
  exact bind_of_error called _

theorem overdue_of_arrow {limits : WorkerLimits} {input : Input} {clock : Session.Clock}
    (admitted : Admitted limits input ⟨.transform, code, .null⟩) (room : heapFloor ≤ limits.heapLimit.toNat)
    (none : clock limits.timeout = 0) : ∃ ran, Runs limits input clock ran ∧ Session.Overdue ran := by
  let start : Realm := { World.fresh with steps := 0, heapLimit := limits.heapLimit.toNat }
  have ended : Session.ended ⟨limits.timeout, limits.heapLimit.toNat⟩ (task code .null) clock =
      .error .interrupted (withArrow f start) := by
    rw [Session.ended, none, Session.inRoom, if_neg (by simp; omega)]
    exact task_interrupted whole parsed found rfl
  refine ⟨_, ⟨_, admitted, rfl⟩, ⟨?_, ?_⟩⟩
  · exact ⟨_, by rw [ended]; rfl⟩
  · rw [ended]
    rfl

end

end Worker

namespace Json.Reading

section Kept

variable {σ : Type} {field : String → σ → Reading σ} {I : σ → Prop} (step : ∀ name s, I s → Yields I (field name s))
  {front : List (String × Json)} {s s' p : σ} (start : I s') (back : List (String × Json)) {more rest : Bytes}
include step start

theorem eachField_keeps_later (walk : Walk field s front (.ok s')) {fuel : Nat}
    (read : eachField field false s fuel
      (Text.encoded ((front ++ back).flatMap fun f => ',' :: fieldText f) ++ 0x7d :: more) = .ok (p, rest)) :
    I p := by
  generalize same : Except.ok s' = passed at walk
  induction walk generalizing fuel with
  | done s =>
    cases same
    exact eachField_yields step false start fuel _ p rest read
  | @takes name v front s s' passed first later ih =>
    rcases fuel with - | fuel
    · cases read
    rw [List.cons_append, encoded_later, eachField_next,
      bind_ok (first _ (ends_later fieldText _ (.inr rfl) more))] at read
    exact ih read same
  | refuses first => cases same

theorem eachField_keeps (walk : Walk field s front (.ok s')) {fuel : Nat}
    (read : eachField field true s fuel
      (Text.encoded (separated [','] (compactFields (front ++ back))) ++ 0x7d :: more) = .ok (p, rest)) :
    I p := by
  generalize same : Except.ok s' = passed at walk
  cases walk with
  | done s =>
    cases same
    exact eachField_yields step true start fuel _ p rest read
  | @takes name v front s s' passed first later =>
    subst same
    rcases fuel with - | fuel
    · cases read
    rw [List.cons_append, compactFields_eq_map, separated_cons, Text.encoded_append, List.append_assoc,
      eachField_first, bind_ok (first _ (ends_later fieldText _ (.inr rfl) more))] at read
    exact eachField_keeps_later step start back later read
  | refuses first => cases same

end Kept

theorem record_read {α : Type} {name : String} {ofObject ofList : Json.Reading α} {fields : List (String × Json)}
    {a : α} (read : (record name ofObject ofList).run (Text.encoded (compact (.object fields))) = .ok a) :
    ∃ rest, ofObject (Text.encoded (separated [','] (compactFields fields)) ++ [0x7d]) = .ok (a, rest) := by
  have written : Text.encoded (compact (.object fields)) =
      0x7b :: (Text.encoded (separated [','] (compactFields fields)) ++ [0x7d]) := by
    simp [compact]
  obtain ⟨rest, read, -⟩ := run_eq_ok.mp read
  have opened : record name ofObject ofList (Text.encoded (compact (.object fields))) =
      (do let a ← ofObject; drop; return a : Json.Reading α)
        (Text.encoded (separated [','] (compactFields fields)) ++ [0x7d]) := by
    rw [written]
    rfl
  rw [opened] at read
  obtain ⟨made, between, object, closed⟩ := bind_eq_ok.mp read
  obtain rfl : made = a := (Prod.mk.inj (Except.ok.inj closed)).1
  exact ⟨between, object⟩

end Json.Reading

namespace Wire.Response

open Json.Reading

theorem field_keeps_ok (name : String) (p : Partial) (good : p.ok = some true) :
    Yields (fun p : Partial => p.ok = some true) (field name p) := by
  rw [field]
  apply Yields.ite
  · have twice : Yields (fun _ => False) (once name p.ok bool) := by
      rw [once, good]
      exact .bind (P := fun _ => False) (.throw _) fun u never => never.elim
    exact .bind twice fun b never => never.elim
  apply Yields.ite
  · exact .behind fun error => .pure good
  apply Yields.ite
  · exact .behind fun kind => .pure good
  apply Yields.ite
  · exact .behind fun result => .pure good
  · exact .behind fun u => .behind fun u => .pure good

theorem ok_of_success {v : Json} {r : Response} (decoded : decode (bytesOf (success v).encode) = .ok r) :
    r.ok = true := by
  have object : (success v).encode = Json.render (.object ([("ok", .bool true)] ++ [("result", v)])) := rfl
  rw [object, Json.render, Text.bytesOf_ofList, decode] at decoded
  obtain ⟨between, object⟩ := record_read decoded
  rw [ofObject, bind_ok (fuel_apply _)] at object
  obtain ⟨p, behind, each, last⟩ := bind_eq_ok.mp object
  have walk : Walk field ⟨none, none, none, none⟩ [("ok", .bool true)] _ := .takes (takes_ok true _ rfl) (.done _)
  have good : p.ok = some true := eachField_keeps field_keeps_ok rfl _ walk each
  rw [good] at last
  obtain ⟨rfl, -⟩ := Prod.mk.inj (Except.ok.inj last)
  rfl

end Wire.Response

namespace Supervisor

variable {limits : WorkerLimits} {input : Worker.Input} {clock : Session.Clock}

theorem outcome_of_ok {r : Wire.Response} (good : r.ok = true) :
    outcome r = match r.result with
      | some v => .ok v
      | none => .error .emptyResult := by
  rw [outcome, good]
  rfl

theorem resolve_success_timeout {v : Json} {stderr : Bytes} {status : ExitStatus} {maxStdout : Nat} {f : Fault}
    (failed : resolve (.ok (bytesOf (Wire.Response.success v).encode)) stderr status maxStdout = .error f) :
    f.isTimeout = false := by
  simp only [resolve] at failed
  split at failed
  · cases failed
    rfl
  split at failed
  · cases failed
    rfl
  cases decoded : Wire.Response.decode (bytesOf (Wire.Response.success v).encode) with
  | error e =>
    simp only [decoded] at failed
    cases failed
    rfl
  | ok r =>
    simp only [decoded, outcome_of_ok (Wire.Response.ok_of_success decoded)] at failed
    split at failed
    · cases failed
    · cases failed
      rfl

theorem resolve_failure_timeout {g f : Fault} {stderr : Bytes} {status : ExitStatus} {maxStdout : Nat}
    (failed : resolve (.ok (bytesOf (Wire.Response.failure g).encode)) stderr status maxStdout = .error f)
    (timeout : f.isTimeout = true) : g.isTimeout = true := by
  by_cases long : maxStdout < (bytesOf (Wire.Response.failure g).encode).length
  · rw [resolve, if_pos long] at failed
    cases failed
    cases timeout
  by_cases bad : status = .code 0
  · rw [bad, resolve_failure g stderr (Nat.le_of_not_lt long)] at failed
    cases failed
    exact timeout
  · have unsuccessful : status.isSuccess = false := beq_false_of_ne bad
    simp only [resolve, if_neg long, unsuccessful] at failed
    cases failed
    cases timeout

theorem resolve_timeout {stderr : Bytes} {status : ExitStatus} {maxStdout : Nat} {f : Fault}
    (failed : resolve (.ok (Worker.serve limits input none clock).bytes) stderr status maxStdout = .error f)
    (timeout : f.isTimeout = true) : (Worker.respond limits input clock).kind = some .timeout := by
  have document : (Worker.serve limits input none clock).bytes =
      bytesOf (Worker.respond limits input clock).encode := rfl
  rw [document, Worker.respond] at failed
  rw [Worker.respond]
  cases handled : Worker.handle limits input clock with
  | ok v =>
    rw [handled] at failed
    rw [resolve_success_timeout failed] at timeout
    cases timeout
  | error g =>
    rw [handled] at failed
    have same := resolve_failure_timeout failed timeout
    exact congrArg some (eq_of_beq same)

theorem resolve_overdue {ran : EStateM.Result Abrupt Realm (Except Fault String)} {maxStdout : Nat}
    (runs : Worker.Runs limits input clock ran) (overdue : Session.Overdue ran) (stderr : Bytes)
    (short : (Worker.serve limits input none clock).bytes.length ≤ maxStdout) :
    resolve (.ok (Worker.serve limits input none clock).bytes) stderr (.code 0) maxStdout =
      .error (.worker .timeout ("Timed out: transform exceeded " ++ limits.timeout.brief)) := by
  have document : (Worker.serve limits input none clock).bytes =
      bytesOf (Wire.Response.failure (Worker.deadlineFault limits)).encode := by
    rw [Worker.serve, Worker.respond_overdue runs overdue]
    rfl
  have visible : Text.isBlankText (Worker.deadlineFault limits).message = false := by
    rw [Worker.deadlineFault_message, Text.isBlankText, String.toList_append, List.all_append]
    rfl
  rw [document] at short ⊢
  rw [resolve_failure _ stderr short, reported, visible, Worker.deadlineFault_message]
  rfl

theorem resolve_value {ran : EStateM.Result Abrupt Realm (Except Fault String)} {text : String} {v : Json}
    {maxStdout : Nat} (runs : Worker.Runs limits input clock ran) (done : Session.told ran = .ok text)
    (fits : text.utf8ByteSize ≤ limits.maxResult.toNat) (read : Json.readText text = .ok v)
    (readBack : ∀ x, Json.HasFloat x v → Json.ReadsBack x) (shallow : v.depth ≤ 126) (stderr : Bytes)
    (short : (Worker.serve limits input none clock).bytes.length ≤ maxStdout) :
    resolve (.ok (Worker.serve limits input none clock).bytes) stderr (.code 0) maxStdout = .ok v := by
  have document : (Worker.serve limits input none clock).bytes =
      bytesOf (Wire.Response.success v).encode := by
    rw [Worker.serve, Worker.respond_value runs done, Worker.delivered, if_neg (Nat.not_lt.mpr fits), read]
    rfl
  have taken := Json.taken_of_regular (Json.regular_of_read read) readBack (Json.maxDepth - 1)
  rw [document] at short ⊢
  rw [resolve_success taken stderr short]
  exact if_pos shallow

theorem admitted_sent {c : SandboxConfig} {code : String} {v : Json} {bytes : Bytes}
    (taken : Json.Taken (Json.maxDepth - 1) v) (shallow : v.depth ≤ 126) (sent : request c code v = .ok bytes)
    (countable : Countable c.worker.maxRequest) (told : Text.isBlankText code = false)
    (fits : code.utf8ByteSize ≤ c.worker.maxCode.toNat) :
    Worker.Admitted c.worker ⟨bytes, none⟩ ⟨.transform, code, v⟩ := by
  have decoded := decode_request taken sent
  rw [if_pos (show v.depth ≤ Json.maxDepth - 1 from shallow)] at decoded
  have short : bytes.length ≤ c.worker.maxRequest.toNat := by
    rw [request] at sent
    split at sent
    next => cases sent
    next within =>
      rw [← Except.ok.inj sent]
      exact Nat.le_of_not_lt within
  exact ⟨⟨⟨countable, short, rfl⟩, decoded⟩, rfl, told, fits⟩

def endless : String := "(r) => \x7b for (;;) \x7b\x7d \x7d"

theorem overdue_of_endless {c : SandboxConfig} {bytes : Bytes} (sent : request c endless .null = .ok bytes)
    (countable : Countable c.worker.maxRequest) (fits : endless.utf8ByteSize ≤ c.worker.maxCode.toNat)
    (room : heapFloor ≤ c.worker.heapLimit.toNat) {clock : Session.Clock} (none : clock c.worker.timeout = 0) :
    ∃ ran, Worker.Runs c.worker ⟨bytes, .none⟩ clock ran ∧ Session.Overdue ran := by
  have taken : Json.Taken (Json.maxDepth - 1) .null := Json.taken_of_regular .null (by rintro x ⟨⟩) _
  have told : Text.isBlankText endless = false := by decide
  have admitted := admitted_sent taken (by decide) sent countable told fits
  have arrow : ((parse (Worker.source endless)).bind Program.arrow?).isSome = true := by decide +kernel
  obtain ⟨f, found⟩ := Option.isSome_iff_exists.mp arrow
  obtain ⟨p, parsed, found⟩ := Option.bind_eq_some_iff.mp found
  exact Worker.overdue_of_arrow (by decide) parsed found admitted room none

/-- A layer tells a deadline for exactly those runs that failed behind theirs, whatever they failed with, and
hands over the value of every other run that came to one; the supervisor as far as the document is within its
cap. -/
theorem deadlines_classified :
    (∀ (config : EvaluatorConfig) (expression : String) (bindings : Evaluator.Bindings) (clock : Session.Clock),
      let answer := Evaluator.evaluate config expression bindings clock
      Session.Classifies (Evaluator.Runs config expression bindings clock) (fun p => answer = .ok p)
        (answer = .error (.timeout ("script exceeded " ++ config.timeout.brief)))
        (∃ f, answer = .error f ∧ f.isTimeout = true)) ∧
    (∀ (config : EvaluatorConfig) (bindings : Evaluator.Bindings) (clocks : Nat → Session.Clock) (v : Json),
      let rendered := Evaluator.render config bindings clocks v
      ((∀ n e, (Template.placeholders v)[n]? = some e →
          ∃ ran p, Evaluator.Runs config e bindings (clocks n) ran ∧ Session.told ran = .ok p) →
        rendered =
          .ok (Template.filled (fun n => Evaluator.substitution config bindings (clocks n)) 0 v)) ∧
      (∀ n e ran, Evaluator.RunsAt config bindings clocks v n e ran → Session.Overdue ran →
        ∃ f, rendered = .error (.template e f) ∧ (Fault.template e f).isTimeout = true) ∧
      ((∃ f, rendered = .error f ∧ f.isTimeout = true) →
        ∃ n e ran, Evaluator.RunsAt config bindings clocks v n e ran ∧ Session.Overdue ran) ∧
      ∀ clock, Template.fill (Evaluator.substitution config bindings clock) v =
        Evaluator.render config bindings (fun _ => clock) v) ∧
    (∀ (limits : WorkerLimits) (input : Worker.Input) (clock : Session.Clock),
      let written := (Worker.serve limits input none clock).bytes
      Session.Classifies (Worker.Runs limits input clock)
        (fun text => written = bytesOf (Worker.delivered limits text).encode)
        (written = bytesOf (Json.render (.object [("ok", .bool false),
          ("error", .string ("Timed out: transform exceeded " ++ limits.timeout.brief)),
          ("kind", .string "timeout")])))
        ((Worker.respond limits input clock).kind = some .timeout)) ∧
    ∀ (limits : WorkerLimits) (input : Worker.Input) (clock : Session.Clock) (stderr : Bytes) (maxStdout : Nat),
      let written := (Worker.serve limits input none clock).bytes
      Session.Classifies (Worker.Runs limits input clock)
        (fun text => ∀ v, text.utf8ByteSize ≤ limits.maxResult.toNat → Json.readText text = .ok v →
          (∀ x, Json.HasFloat x v → Json.ReadsBack x) → v.depth ≤ 126 → written.length ≤ maxStdout →
          resolve (.ok written) stderr (.code 0) maxStdout = .ok v)
        (written.length ≤ maxStdout → ∃ f, resolve (.ok written) stderr (.code 0) maxStdout = .error f ∧
          f.message = "Timed out: transform exceeded " ++ limits.timeout.brief ∧ f.isTimeout = true)
        (∃ status f, resolve (.ok written) stderr status maxStdout = .error f ∧ f.isTimeout = true) := by
  refine ⟨?_, ?_, ?_, ?_⟩
  · intro config expression bindings clock
    exact {
      kept := fun ran p runs done => Evaluator.evaluate_value runs done
      overdue := fun ran runs overdue => Evaluator.evaluate_overdue runs overdue
      only := fun ⟨f, failed, timeout⟩ => Evaluator.overdue_of_evaluate failed timeout }
  · intro config bindings clocks v
    refine ⟨Evaluator.render_values, ?_, ?_, ?_⟩
    · intro n e ran at_ overdue
      exact ⟨_, Evaluator.render_overdue at_ overdue, rfl⟩
    · rintro ⟨f, failed, timeout⟩
      exact Evaluator.overdue_of_render failed timeout
    · intro clock
      exact Template.fill_eq_counted _ v 0
  · intro limits input clock
    refine {
      kept := fun ran text runs done => ?_
      overdue := fun ran runs overdue => ?_
      only := Worker.overdue_of_respond }
    · rw [Worker.serve, Worker.respond_value runs done]
      rfl
    · rw [Worker.serve, Worker.respond_overdue runs overdue, ← Worker.deadlineFault_message]
      rfl
  · intro limits input clock stderr maxStdout
    refine {
      kept := fun ran text runs done v fits read readBack shallow short =>
        resolve_value runs done fits read readBack shallow stderr short
      overdue := fun ran runs overdue short => ⟨_, resolve_overdue runs overdue stderr short, rfl, rfl⟩
      only := ?_ }
    rintro ⟨status, f, failed, timeout⟩
    exact Worker.overdue_of_respond (resolve_timeout failed timeout)

theorem deadlines_classified_endless :
    let input : Worker.Input := ⟨bytesOf (Wire.Request.transform endless .null).encode, none⟩
    let clock : Session.Clock := fun _ => 0
    let written := (Worker.serve .standard input none clock).bytes
    (∃ ran, Worker.Runs .standard input clock ran ∧ Session.Overdue ran) ∧
      ∃ f, resolve (.ok written) [] (.code 0) 88 = .error f ∧
        f.message = "Timed out: transform exceeded 250ms" ∧ f.isTimeout = true := by
  intro input clock written
  have sent : request .standard endless .null = .ok input.bytes := if_neg (by decide +kernel)
  obtain ⟨ran, runs, overdue⟩ :=
    overdue_of_endless sent (by decide) (by decide) (by decide) (show clock (.ofMillis 250) = 0 from rfl)
  obtain ⟨-, -, served, resolved⟩ := deadlines_classified
  have document := (served .standard input clock).overdue ran runs overdue
  have short : (Worker.serve .standard input none clock).bytes.length ≤ 88 := by
    rw [document]
    decide +kernel
  obtain ⟨f, failed, message, timeout⟩ := (resolved .standard input clock [] 88).overdue ran runs overdue short
  refine ⟨⟨ran, runs, overdue⟩, f, failed, ?_, timeout⟩
  rw [message]
  decide

-- The report of a deadline may be longer than what a supervisor takes.
theorem deadline_cut_off :
    let c : SandboxConfig := { SandboxConfig.standard with
      maxStdout := 16, worker := { WorkerLimits.standard with timeout := .ofMillis 100, maxResult := 16 } }
    let input : Worker.Input := ⟨bytesOf (Wire.Request.transform endless .null).encode, none⟩
    let clock : Session.Clock := fun _ => 0
    Supervisor.new c = .ok ⟨c, none⟩ ∧ request c endless .null = .ok input.bytes ∧
      (∃ ran, Worker.Runs c.worker input clock ran ∧ Session.Overdue ran) ∧
      resolve (.ok (Worker.serve c.worker input none clock).bytes) [] (.code 0) c.maxStdout.toNat =
        .error (.outputTooLarge 16) ∧
      (Fault.outputTooLarge 16).isTimeout = false := by
  intro c input clock
  have sent : request c endless .null = .ok input.bytes := if_neg (by decide +kernel)
  obtain ⟨ran, runs, overdue⟩ :=
    overdue_of_endless sent (by decide) (by decide) (by decide) (show clock (.ofMillis 100) = 0 from rfl)
  have long : 16 < (bytesOf (Wire.Response.failure (Worker.deadlineFault c.worker)).encode).length := by
    decide +kernel
  refine ⟨rfl, sent, ⟨ran, runs, overdue⟩, ?_, rfl⟩
  rw [Worker.serve, Worker.respond_overdue runs overdue]
  exact if_pos long

end Supervisor

end BoundedScript
