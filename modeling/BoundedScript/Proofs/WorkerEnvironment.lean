import BoundedScript.Config.Environment
import BoundedScript.Config.Validation

set_option autoImplicit false

namespace BoundedScript

namespace Environment

theorem digitsValue_toDigits (n : Nat) : digitsValue (Nat.toDigits 10 n) = n := by
  have left : digitsValue (Nat.toDigits 10 n) = Nat.ofDigitChars 10 (Nat.toDigits 10 n) 0 := by
    simp [digitsValue, Nat.ofDigitChars, Nat.mul_comm]
  rw [left, Nat.ofDigitChars_ten_toDigits]

theorem toDigits_allDigits (n : Nat) : (Nat.toDigits 10 n).all Char.isDigit := by
  rw [List.all_eq_true]
  intro c inside
  exact Nat.isDigit_of_mem_toDigits (by decide) (by decide) inside

theorem word?_repr (n : Nat) :
    word? n.repr = if n < 0x1_0000_0000_0000_0000 then some n.toUInt64 else none := by
  have digits := toDigits_allDigits n
  have value := digitsValue_toDigits n
  rw [word?, Nat.toList_repr]
  -- Nothing that was written starts with a sign.
  split
  next rest signed => simp [signed] at digits
  next => simp [digits, value]

theorem word?_uint64 (n : UInt64) : word? n.toNat.repr = some n := by
  rw [word?_repr, if_pos n.toNat_lt]
  simp

theorem getWord?_nil (asked : String) : getWord? [] asked = none :=
  rfl

theorem getWord?_cons (name value asked : String) (rest : Environment) :
    getWord? ((name, value) :: rest) asked = if name = asked then word? value else rest.getWord? asked := by
  by_cases same : name = asked <;> simp [getWord?, get?, same]

end Environment

namespace Findings

variable {f : Findings} {broken : Bool} {i : Issue}

theorem isValid_errorIf : (f.errorIf broken i).isValid = (!broken && f.isValid) := by
  cases broken <;> simp [errorIf, error]

theorem isValid_warningIf : (f.warningIf broken i).isValid = f.isValid := by
  cases broken <;> rfl

end Findings

namespace SandboxConfig

theorem isValid_checkCaps (caps : List (String × UInt64)) (f : Findings) :
    (checkCaps caps f).isValid = (f.isValid && caps.all (·.2 != 0)) := by
  induction caps generalizing f with
  | nil => simp [checkCaps]
  | cons cap caps ih =>
    have step : checkCaps (cap :: caps) f = checkCaps caps (f.errorIf (cap.2 == 0) (zeroCap cap.1)) := rfl
    rw [step, ih, Findings.isValid_errorIf, List.all_cons, bne]
    cases cap.2 == 0 <;> simp

theorem isValid_validate (c : SandboxConfig) (f : Findings) :
    (c.validate f).isValid ↔
      f.isValid ∧ 0 < c.worker.timeout.nanos ∧ c.worker.timeout.nanos < c.timeout.nanos ∧
        (∀ cap ∈ c.caps, cap.2 ≠ 0) ∧ c.worker.maxResult ≤ c.maxStdout ∧
        c.worker.maxCode ≤ c.worker.maxRequest := by
  simp only [validate, Findings.isValid_errorIf, Findings.isValid_warningIf, isValid_checkCaps, Duration.isZero]
  simp only [Bool.and_eq_true, Bool.not_eq_true', decide_eq_false_iff_not, beq_eq_false_iff_ne, bne_iff_ne,
    List.all_eq_true, Nat.not_le, UInt64.not_lt]
  constructor
  · rintro ⟨code, result, ⟨⟨shorter, positive, before⟩, caps⟩⟩
    exact ⟨before, Nat.pos_of_ne_zero positive, shorter, caps, result, code⟩
  · rintro ⟨before, positive, shorter, caps, result, code⟩
    exact ⟨code, result, ⟨⟨shorter, Nat.ne_of_gt positive, before⟩, caps⟩⟩

end SandboxConfig

namespace WorkerLimits

open Environment

/-- What is left of a timeout that is handed over in whole milliseconds: these if they fit a word, else
another timeout. -/
def handedTimeout (timeout other : Duration) : Duration :=
  if timeout.millis < 0x1_0000_0000_0000_0000 then .ofMillis timeout.millis.toUInt64 else other

theorem handedTimeout_read (timeout other : Duration) :
    ((word? timeout.millis.repr).map .ofMillis).getD other = handedTimeout timeout other := by
  rw [word?_repr, handedTimeout]
  split <;> rfl

theorem overlay_toEnv (l base : WorkerLimits) :
    overlay l.toEnv base =
      { l with
        timeout := handedTimeout l.timeout base.timeout
        memoryLimit := l.memoryLimit.or base.memoryLimit } := by
  cases set : l.memoryLimit with
  | none =>
    simp [overlay, toEnv, set, getWord?_cons, getWord?_nil, word?_uint64, handedTimeout_read, timeoutName,
      maxRequestName, maxCodeName, maxResultName, heapLimitName, cpuSecondsName, memoryLimitName]
  | some n =>
    simp [overlay, toEnv, set, getWord?_cons, word?_uint64, handedTimeout_read, timeoutName,
      maxRequestName, maxCodeName, maxResultName, heapLimitName, cpuSecondsName, memoryLimitName]

theorem ofEnv_toEnv (l : WorkerLimits) :
    ofEnv l.toEnv = { l with timeout := handedTimeout l.timeout (.ofMillis 250) } := by
  rw [ofEnv, overlay_toEnv]
  cases l.memoryLimit <;> rfl

end WorkerLimits

namespace WorkerLimits

section Timeouts

variable (timeout : Duration)

theorem nanos_handedTimeout (other : Duration) :
    (handedTimeout timeout other).nanos =
      if timeout.millis < 0x1_0000_0000_0000_0000 then timeout.nanos / 1_000_000 * 1_000_000 else other.nanos := by
  rw [handedTimeout]
  split
  next word =>
    have kept : timeout.millis.toUInt64.toNat = timeout.millis := UInt64.toNat_ofNat_of_lt' word
    exact congrArg (· * 1_000_000) kept
  next => rfl

theorem handedTimeout_eq_self {other : Duration} (near : other.millis < 0x1_0000_0000_0000_0000) :
    handedTimeout timeout other = timeout ↔
      timeout.nanos % 1_000_000 = 0 ∧ timeout.millis < 0x1_0000_0000_0000_0000 := by
  have same : handedTimeout timeout other = timeout ↔ (handedTimeout timeout other).nanos = timeout.nanos := by
    cases timeout
    cases handedTimeout _ other
    simp
  rw [same, nanos_handedTimeout, Duration.millis]
  rw [Duration.millis] at near
  split <;> omega

end Timeouts

end WorkerLimits

namespace SandboxConfig

open WorkerLimits

/-- A worker of an accepted sandbox runs with the limits of its configuration, but for the timeout: what it has
beyond whole milliseconds is lost, and one of `2 ^ 64` milliseconds or more gives way to the standard one. So
the deadline stays below the supervisor's, but there is none left of a timeout below a millisecond. -/
theorem worker_limits_handed {c : SandboxConfig} (valid : (c.validate .none).isValid) :
    let handed := ofEnv c.worker.toEnv
    handed = { c.worker with timeout := handed.timeout } ∧
    handed.timeout.nanos =
      (if c.worker.timeout.millis < 0x1_0000_0000_0000_0000 then c.worker.timeout.nanos / 1_000_000 * 1_000_000
      else 250_000_000) ∧
    (handed = c.worker ↔
      c.worker.timeout.nanos % 1_000_000 = 0 ∧ c.worker.timeout.millis < 0x1_0000_0000_0000_0000) ∧
    handed.timeout.nanos < c.timeout.nanos ∧
    (0 < handed.timeout.nanos ↔ 1_000_000 ≤ c.worker.timeout.nanos) := by
  obtain ⟨-, positive, shorter, -⟩ := (isValid_validate c .none).mp valid
  have handed := ofEnv_toEnv c.worker
  have nanos := nanos_handedTimeout c.worker.timeout (.ofMillis 250)
  have standard : (Duration.ofMillis 250).nanos = 250_000_000 := rfl
  rw [standard] at nanos
  have same : ofEnv c.worker.toEnv = c.worker ↔ handedTimeout c.worker.timeout (.ofMillis 250) = c.worker.timeout := by
    rw [handed]
    exact ⟨congrArg WorkerLimits.timeout, fun kept => by rw [kept]⟩
  have bounds : (handedTimeout c.worker.timeout (.ofMillis 250)).nanos < c.timeout.nanos ∧
      (0 < (handedTimeout c.worker.timeout (.ofMillis 250)).nanos ↔ 1_000_000 ≤ c.worker.timeout.nanos) := by
    rw [nanos, Duration.millis]
    split
    next => omega
    next => omega
  refine ⟨?_, ?_, ?_, ?_⟩
  · rw [handed]
  · rw [handed]
    exact nanos
  · rw [same]
    exact handedTimeout_eq_self c.worker.timeout (by decide)
  · rw [handed]
    exact bounds

-- A sandbox that is accepted though its workers get no time at all.
def briefSandbox : SandboxConfig :=
  { standard with worker := { WorkerLimits.standard with timeout := ⟨500_000, by decide⟩ } }

theorem worker_limits_handed_brief :
    (briefSandbox.validate .none).isValid ∧ ofEnv briefSandbox.worker.toEnv ≠ briefSandbox.worker ∧
      (ofEnv briefSandbox.worker.toEnv).timeout.nanos = 0 := by
  have valid : (briefSandbox.validate .none).isValid := by decide
  obtain ⟨-, nanos, same, -⟩ := worker_limits_handed valid
  refine ⟨valid, ?_, ?_⟩
  · intro kept
    exact absurd (same.mp kept).1 (by decide)
  · rw [nanos]
    decide

end SandboxConfig
end BoundedScript
