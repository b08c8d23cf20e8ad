import BoundedScript.Proofs.WorkerEnvironment
import BoundedScript.Supervisor

set_option autoImplicit false

namespace BoundedScript

structure Rule where
  isBroken : Bool
  issue : Issue

namespace Rule

def broken (rules : List Rule) : List Issue :=
  (rules.filter (·.isBroken)).map (·.issue)

variable {rules more : List Rule}

theorem broken_append : broken (rules ++ more) = broken rules ++ broken more := by
  simp [broken]

theorem broken_eq_nil : broken rules = [] ↔ ∀ rule ∈ rules, rule.isBroken = false := by
  simp [broken]

end Rule

namespace Findings

inductive Built : Findings → Prop where
  | none : Built .none
  | error {f : Findings} (i : Issue) (before : Built f) : Built (f.error i)
  | warning {f : Findings} (i : Issue) (before : Built f) : Built (f.warning i)

def append (f g : Findings) : Findings :=
  ⟨f.isValid && g.isValid, f.errors ++ g.errors, f.warnings ++ g.warnings⟩

variable {f g : Findings} {broken : Bool} {i : Issue}

theorem Built.errorIf (before : Built f) : Built (f.errorIf broken i) := by
  cases broken with
  | false => exact before
  | true => exact .error i before

theorem Built.warningIf (before : Built f) : Built (f.warningIf broken i) := by
  cases broken with
  | false => exact before
  | true => exact .warning i before

theorem isValid_of_built (built : Built f) : f.isValid = f.errors.isEmpty := by
  induction built with
  | none => rfl
  | error i before ih => simp [error]
  | warning i before ih => exact ih

@[simp] theorem append_none : f.append .none = f := by
  simp [append, none]

@[simp] theorem append_error : f.append (g.error i) = (f.append g).error i := by
  simp [append, error]

@[simp] theorem append_warning : f.append (g.warning i) = (f.append g).warning i := by
  simp [append, warning]

@[simp] theorem append_errorIf : f.append (g.errorIf broken i) = (f.append g).errorIf broken i := by
  cases broken <;> simp [errorIf]

@[simp] theorem append_warningIf : f.append (g.warningIf broken i) = (f.append g).warningIf broken i := by
  cases broken <;> simp [warningIf]

def refusal (errors : List Issue) : Fault :=
  .config ("; ".intercalate (errors.map Issue.brief))

theorem ensureValid_of_built (built : Built f) :
    f.ensureValid = if f.errors = [] then .ok () else .error (refusal f.errors) := by
  simp [ensureValid, isValid_of_built built, refusal]

theorem ensureValid_warnings (f : Findings) (warnings : List Issue) :
    { f with warnings := warnings }.ensureValid = f.ensureValid :=
  rfl

theorem errors_errorIf : (f.errorIf broken i).errors = f.errors ++ Rule.broken [⟨broken, i⟩] := by
  cases broken <;> simp [errorIf, error, Rule.broken]

theorem errors_warningIf : (f.warningIf broken i).errors = f.errors := by
  cases broken <;> rfl

end Findings

open Findings

section Evaluator

variable {c : EvaluatorConfig} {f g : Findings}

structure EvaluatorConfig.Consistent (c : EvaluatorConfig) : Prop where
  someTime : 0 < c.timeout.nanos
  someMemory : c.memoryLimit ≠ 0

namespace EvaluatorConfig

def rules (c : EvaluatorConfig) : List Rule :=
  [⟨c.timeout.isZero, zeroTimeout⟩, ⟨c.memoryLimit == 0, zeroMemory⟩]

theorem validate_built (before : Built f) : Built (c.validate f) :=
  before.errorIf.warningIf.errorIf

theorem errors_validate (c : EvaluatorConfig) (f : Findings) :
    (c.validate f).errors = f.errors ++ Rule.broken c.rules := by
  simp [validate, errors_errorIf, errors_warningIf, rules, ← Rule.broken_append]

theorem consistent_iff (c : EvaluatorConfig) : c.Consistent ↔ Rule.broken c.rules = [] := by
  have kept : Rule.broken c.rules = [] ↔ c.timeout.nanos ≠ 0 ∧ c.memoryLimit ≠ 0 := by
    simp [Rule.broken_eq_nil, rules, Duration.isZero]
  rw [kept, ← Nat.pos_iff_ne_zero]
  exact ⟨fun c => ⟨c.someTime, c.someMemory⟩, fun kept => ⟨kept.1, kept.2⟩⟩

end EvaluatorConfig

end Evaluator

section Sandbox

variable {c : SandboxConfig} {f g : Findings}

structure SandboxConfig.Consistent (c : SandboxConfig) : Prop where
  someTime : 0 < c.worker.timeout.nanos
  tellsDeadline : c.worker.timeout.nanos < c.timeout.nanos
  someStdout : c.maxStdout ≠ 0
  someStderr : c.maxStderr ≠ 0
  someRequest : c.worker.maxRequest ≠ 0
  someCode : c.worker.maxCode ≠ 0
  someResult : c.worker.maxResult ≠ 0
  someHeap : c.worker.heapLimit ≠ 0
  resultFits : c.worker.maxResult ≤ c.maxStdout
  codeFits : c.worker.maxCode ≤ c.worker.maxRequest

namespace SandboxConfig

def rules (c : SandboxConfig) : List Rule :=
  [⟨c.worker.timeout.isZero, zeroWorkerTimeout⟩, ⟨c.timeout.nanos ≤ c.worker.timeout.nanos, c.shortTimeout⟩] ++
  c.caps.map (fun (path, value) => ⟨value == 0, zeroCap path⟩) ++
  [⟨c.maxStdout < c.worker.maxResult, smallStdout⟩, ⟨c.worker.maxRequest < c.worker.maxCode, largeCode⟩]

theorem checkCaps_built (caps : List (String × UInt64)) (before : Built f) : Built (checkCaps caps f) := by
  induction caps generalizing f with
  | nil => exact before
  | cons cap caps ih => exact ih before.errorIf

theorem validate_built (before : Built f) : Built (c.validate f) :=
  (checkCaps_built _ before.errorIf.errorIf).errorIf.errorIf.warningIf

theorem errors_checkCaps (caps : List (String × UInt64)) (f : Findings) :
    (checkCaps caps f).errors =
      f.errors ++ Rule.broken (caps.map fun (path, value) => ⟨value == 0, zeroCap path⟩) := by
  induction caps generalizing f with
  | nil => simp [checkCaps, Rule.broken]
  | cons cap caps ih =>
    have later := ih (f.errorIf (cap.2 == 0) (zeroCap cap.1))
    rw [errors_errorIf, List.append_assoc, ← Rule.broken_append] at later
    exact later

theorem errors_validate (c : SandboxConfig) (f : Findings) :
    (c.validate f).errors = f.errors ++ Rule.broken c.rules := by
  simp only [validate, errors_errorIf, errors_warningIf, errors_checkCaps, List.append_assoc, ← Rule.broken_append]
  rfl

theorem consistent_iff (c : SandboxConfig) : c.Consistent ↔ Rule.broken c.rules = [] := by
  have kept : Rule.broken c.rules = [] ↔ (c.validate .none).isValid = true := by
    rw [isValid_of_built (validate_built .none), errors_validate, List.isEmpty_iff]
    rfl
  rw [kept, isValid_validate]
  simp only [caps, List.forall_mem_cons]
  constructor
  · intro c
    exact ⟨rfl, c.someTime, c.tellsDeadline, ⟨c.someStdout, c.someStderr, c.someRequest, c.someCode, c.someResult,
      c.someHeap, List.forall_mem_nil _⟩, c.resultFits, c.codeFits⟩
  · rintro ⟨-, time, tells, ⟨stdout, stderr, request, code, result, heap, -⟩, resultFits, codeFits⟩
    exact ⟨time, tells, stdout, stderr, request, code, result, heap, resultFits, codeFits⟩

theorem append_checkCaps (caps : List (String × UInt64)) (f g : Findings) :
    f.append (checkCaps caps g) = checkCaps caps (f.append g) := by
  induction caps generalizing g with
  | nil => rfl
  | cons cap caps ih =>
    have later := ih (g.errorIf (cap.2 == 0) (zeroCap cap.1))
    rw [append_errorIf] at later
    exact later

theorem validate_append (c : SandboxConfig) (f g : Findings) : c.validate (f.append g) = f.append (c.validate g) := by
  simp [validate, append_checkCaps]

theorem validate_eq_append (c : SandboxConfig) (f : Findings) : c.validate f = f.append (c.validate .none) := by
  rw [← validate_append, append_none]

end SandboxConfig

end Sandbox

theorem Supervisor.new_eq (c : SandboxConfig) :
    Supervisor.new c =
      if Rule.broken c.rules = [] then .ok ⟨c, c.workerPath⟩ else .error (refusal (Rule.broken c.rules)) := by
  have errors := SandboxConfig.errors_validate c .none
  rw [Supervisor.new, ensureValid_of_built (SandboxConfig.validate_built .none), errors]
  by_cases kept : Rule.broken c.rules = [] <;> simp [Findings.none, kept, bind, Except.bind, pure, Except.pure]

namespace Config

def Consistent (c : Config) : Prop :=
  c.evaluator.Consistent ∧ c.sandbox.Consistent

def broken (c : Config) : List Issue :=
  Rule.broken (c.evaluator.rules ++ c.sandbox.rules)

theorem errors_validate (c : Config) : c.validate.errors = c.broken := by
  rw [validate, SandboxConfig.errors_validate, EvaluatorConfig.errors_validate, broken, Rule.broken_append]
  rfl

theorem consistent_iff (c : Config) : c.Consistent ↔ c.broken = [] := by
  rw [Consistent, EvaluatorConfig.consistent_iff, SandboxConfig.consistent_iff, broken, Rule.broken_append,
    List.append_eq_nil_iff]

theorem validated_eq (c : Config) :
    c.validated = if c.broken = [] then .ok c else .error (refusal c.broken) := by
  have built : Built c.validate := SandboxConfig.validate_built (EvaluatorConfig.validate_built .none)
  rw [validated, ensureValid_of_built built, errors_validate]
  by_cases kept : c.broken = [] <;> simp [kept, bind, Except.bind, pure, Except.pure]

/-- A configuration is accepted if it keeps all rules and else is refused with those that it breaks, of which the
sandbox's are those that a supervisor refuses it for. Nothing depends on what was found before: a section's
findings follow it, and warnings count for nothing. -/
theorem validated_decides :
    (∀ c : Config,
      (c.validated = .ok c ↔ c.Consistent) ∧
      (∀ f, c.validated = .error f ↔ ¬ c.Consistent ∧ f = refusal c.broken) ∧
      ((∃ f, c.validated = .error f) ↔ ¬ c.evaluator.Consistent ∨ ∃ f, Supervisor.new c.sandbox = .error f)) ∧
    ∀ f, Built f →
      (f.isValid = true ↔ f.errors = []) ∧
      (∀ warnings, { f with warnings := warnings }.ensureValid = f.ensureValid) ∧
      ∀ c : SandboxConfig, Built (c.validate f) ∧ c.validate f = f.append (c.validate .none) ∧
        (c.validate .none).errors = Rule.broken c.rules := by
  constructor
  · intro c
    have decided := validated_eq c
    rw [consistent_iff]
    refine ⟨?_, ?_, ?_⟩
    · by_cases kept : c.broken = [] <;> simp [decided, kept]
    · intro f
      by_cases kept : c.broken = [] <;> simp [decided, kept, eq_comm]
    · rw [decided, Supervisor.new_eq, EvaluatorConfig.consistent_iff, broken, Rule.broken_append]
      by_cases evaluator : Rule.broken c.evaluator.rules = [] <;>
        by_cases sandbox : Rule.broken c.sandbox.rules = [] <;> simp [evaluator, sandbox]
  · intro f built
    refine ⟨?_, ensureValid_warnings f, fun c => ⟨SandboxConfig.validate_built built, ?_, ?_⟩⟩
    · rw [isValid_of_built built, List.isEmpty_iff]
    · exact SandboxConfig.validate_eq_append c f
    · exact SandboxConfig.errors_validate c .none

-- One cap of zero breaks two rules, and what an evaluator is refused for stays in front.
theorem validated_decides_stdout :
    let f := (Findings.none.error EvaluatorConfig.zeroMemory).warning EvaluatorConfig.longTimeout
    let c : SandboxConfig := { SandboxConfig.standard with maxStdout := 0 }
    Built f ∧ (c.validate f).isValid = false ∧
      (c.validate f).errors =
        [EvaluatorConfig.zeroMemory, SandboxConfig.zeroCap "sandbox.max_stdout_bytes", SandboxConfig.smallStdout] := by
  intro f c
  have built : Built f := .warning _ (.error _ .none)
  obtain ⟨-, -, each⟩ := validated_decides.2 f built
  obtain ⟨-, follows, told⟩ := each c
  rw [follows, append, told]
  exact ⟨built, rfl, by decide⟩

end Config

end BoundedScript
