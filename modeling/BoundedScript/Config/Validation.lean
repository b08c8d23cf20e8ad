import BoundedScript.Config.Basic
import BoundedScript.Fault

set_option autoImplicit false

namespace BoundedScript

structure Issue where
  path : String
  message : String
  suggestion : Option String := none
  deriving DecidableEq

namespace Issue

def brief (i : Issue) : String :=
  i.path ++ ": " ++ i.message

def text (i : Issue) : String :=
  i.brief ++ (match i.suggestion with
    | some s => " (" ++ s ++ ")"
    | none => "")

end Issue

structure Findings where
  isValid : Bool
  errors : List Issue
  warnings : List Issue
  deriving DecidableEq

namespace Findings

def none : Findings :=
  ⟨true, [], []⟩

def error (i : Issue) (f : Findings) : Findings :=
  { f with isValid := false, errors := f.errors ++ [i] }

def warning (i : Issue) (f : Findings) : Findings :=
  { f with warnings := f.warnings ++ [i] }

def errorIf (broken : Bool) (i : Issue) (f : Findings) : Findings :=
  if broken then f.error i else f

def warningIf (doubtful : Bool) (i : Issue) (f : Findings) : Findings :=
  if doubtful then f.warning i else f

def ensureValid (f : Findings) : Except Fault Unit :=
  if f.isValid then .ok () else .error (.config ("; ".intercalate (f.errors.map Issue.brief)))

end Findings

namespace EvaluatorConfig

def zeroTimeout : Issue :=
  ⟨"evaluator.timeout", "Expression timeout must be greater than zero", .none⟩

def longTimeout : Issue :=
  ⟨"evaluator.timeout",
   "Expression timeout above 1s; expressions run on the caller's thread budget",
   some "Keep it in the tens of milliseconds"⟩

def zeroMemory : Issue :=
  ⟨"evaluator.memory_limit_bytes", "Interpreter heap limit must be greater than zero", .none⟩

def validate (c : EvaluatorConfig) (f : Findings) : Findings :=
  f.errorIf c.timeout.isZero zeroTimeout
    |>.warningIf (1_000_000_000 < c.timeout.nanos) longTimeout
    |>.errorIf (c.memoryLimit == 0) zeroMemory

end EvaluatorConfig

namespace SandboxConfig

def zeroWorkerTimeout : Issue :=
  ⟨"sandbox.worker.timeout", "Worker timeout must be greater than zero", .none⟩

-- A worker must be able to tell of its own deadline before it is killed.
def shortTimeout (c : SandboxConfig) : Issue :=
  ⟨"sandbox.timeout",
   "Supervisor timeout (" ++ c.timeout.brief ++ ") must exceed the worker timeout (" ++
     c.worker.timeout.brief ++ ")",
   some "Leave at least a few tens of milliseconds between them"⟩

def caps (c : SandboxConfig) : List (String × UInt64) :=
  [("sandbox.max_stdout_bytes", c.maxStdout),
   ("sandbox.max_stderr_bytes", c.maxStderr),
   ("sandbox.worker.max_request_bytes", c.worker.maxRequest),
   ("sandbox.worker.max_code_bytes", c.worker.maxCode),
   ("sandbox.worker.max_result_bytes", c.worker.maxResult),
   ("sandbox.worker.heap_limit_bytes", c.worker.heapLimit)]

def zeroCap (path : String) : Issue :=
  ⟨path, "Byte cap must be greater than zero", .none⟩

def checkCaps (caps : List (String × UInt64)) (f : Findings) : Findings :=
  caps.foldl (fun f (path, value) => f.errorIf (value == 0) (zeroCap path)) f

def smallStdout : Issue :=
  ⟨"sandbox.max_stdout_bytes", "Stdout cap is smaller than the worker result cap",
   some "Allow the result cap plus a few KiB for the response envelope"⟩

def largeCode : Issue :=
  ⟨"sandbox.worker.max_code_bytes", "Code cap exceeds the request cap that contains it", .none⟩

def noCpuLimit : Issue :=
  ⟨"sandbox.worker.cpu_limit_secs", "CPU limit of 0 disables the RLIMIT_CPU ceiling", .none⟩

def validate (c : SandboxConfig) (f : Findings) : Findings :=
  f.errorIf c.worker.timeout.isZero zeroWorkerTimeout
    |>.errorIf (c.timeout.nanos ≤ c.worker.timeout.nanos) c.shortTimeout
    |> checkCaps c.caps
    |>.errorIf (c.maxStdout < c.worker.maxResult) smallStdout
    |>.errorIf (c.worker.maxRequest < c.worker.maxCode) largeCode
    |>.warningIf (c.worker.cpuSeconds == 0) noCpuLimit

end SandboxConfig

namespace Config

def validate (c : Config) : Findings :=
  c.sandbox.validate (c.evaluator.validate .none)

def validated (c : Config) : Except Fault Config := do
  c.validate.ensureValid
  return c

end Config
end BoundedScript
