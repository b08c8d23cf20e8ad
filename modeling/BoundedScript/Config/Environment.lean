import BoundedScript.Config.Basic
import BoundedScript.Text.Blank

set_option autoImplicit false

namespace BoundedScript

abbrev Environment := List (String × String)

namespace Environment

def get? (env : Environment) (name : String) : Option String :=
  (env.find? (·.1 == name)).map (·.2)

def add (env : Environment) (name value : String) : Environment :=
  if (env.get? name).isSome then env else env ++ [(name, value)]

def digitsValue (cs : List Char) : Nat :=
  cs.foldl (fun n c => n * 10 + (c.toNat - 0x30)) 0

def word? (s : String) : Option UInt64 :=
  let digits := match s.toList with
    | '+' :: rest => rest
    | cs => cs
  if digits.isEmpty || !digits.all Char.isDigit then none
  else
    let n := digitsValue digits
    if n < 0x1_0000_0000_0000_0000 then some n.toUInt64 else none

def getWord? (env : Environment) (name : String) : Option UInt64 :=
  (env.get? name).bind word?

def getTrimmedWord? (env : Environment) (name : String) : Option UInt64 :=
  (env.get? name).bind fun v => word? (Text.trim v)

end Environment

namespace WorkerLimits

def timeoutName : String := "JSFENCE_WORKER_TIMEOUT_MS"
def maxRequestName : String := "JSFENCE_WORKER_MAX_REQUEST_BYTES"
def maxCodeName : String := "JSFENCE_WORKER_MAX_CODE_BYTES"
def maxResultName : String := "JSFENCE_WORKER_MAX_RESULT_BYTES"
def heapLimitName : String := "JSFENCE_WORKER_HEAP_LIMIT_BYTES"
def cpuSecondsName : String := "JSFENCE_WORKER_CPU_LIMIT_SECS"
def memoryLimitName : String := "JSFENCE_WORKER_MEMORY_LIMIT_BYTES"

-- The variables that hand the limits to a worker; the timeout goes in whole milliseconds.
def toEnv (l : WorkerLimits) : Environment :=
  [(timeoutName, toString l.timeout.millis),
   (maxRequestName, toString l.maxRequest.toNat),
   (maxCodeName, toString l.maxCode.toNat),
   (maxResultName, toString l.maxResult.toNat),
   (heapLimitName, toString l.heapLimit.toNat),
   (cpuSecondsName, toString l.cpuSeconds.toNat)] ++
  (match l.memoryLimit with
    | some n => [(memoryLimitName, toString n.toNat)]
    | none => [])

def overlay (env : Environment) (l : WorkerLimits) : WorkerLimits where
  timeout := ((env.getWord? timeoutName).map .ofMillis).getD l.timeout
  maxRequest := (env.getWord? maxRequestName).getD l.maxRequest
  maxCode := (env.getWord? maxCodeName).getD l.maxCode
  maxResult := (env.getWord? maxResultName).getD l.maxResult
  heapLimit := (env.getWord? heapLimitName).getD l.heapLimit
  cpuSeconds := (env.getWord? cpuSecondsName).getD l.cpuSeconds
  memoryLimit := (env.getWord? memoryLimitName).or l.memoryLimit

def ofEnv (env : Environment) : WorkerLimits :=
  overlay env .standard

end WorkerLimits

namespace Config

def evaluatorTimeoutName : String := "JSFENCE_EVAL_TIMEOUT_MS"
def sandboxTimeoutName : String := "JSFENCE_SANDBOX_TIMEOUT_MS"
def workerPathName : String := "JSFENCE_WORKER_PATH"
def maxStdoutName : String := "JSFENCE_MAX_STDOUT_BYTES"

def workerPath? (env : Environment) : Option String :=
  (env.get? workerPathName).filter fun p => !Text.isBlankText p

def overlayEvaluator (env : Environment) (c : EvaluatorConfig) : EvaluatorConfig :=
  { c with timeout := ((env.getTrimmedWord? evaluatorTimeoutName).map .ofMillis).getD c.timeout }

def overlaySandbox (env : Environment) (c : SandboxConfig) : SandboxConfig :=
  { c with
    timeout := ((env.getTrimmedWord? sandboxTimeoutName).map .ofMillis).getD c.timeout
    workerPath := (workerPath? env).or c.workerPath
    maxStdout := (env.getWord? maxStdoutName).getD c.maxStdout
    worker := c.worker.overlay env }

def overlay (env : Environment) (c : Config) : Config :=
  ⟨overlayEvaluator env c.evaluator, overlaySandbox env c.sandbox⟩

def join (dir name : String) : String :=
  if dir.isEmpty || dir.endsWith "/" then dir ++ name else dir ++ "/" ++ name

def isAbsolute (path : String) : Bool :=
  path.toList.head? == some '/'

def userDirectory (env : Environment) : String :=
  match (env.get? "XDG_CONFIG_HOME").filter isAbsolute with
  | some dir => dir
  | none =>
    match (env.get? "HOME").filter (!·.isEmpty) with
    | some home => join home ".config"
    | none => "/root/.config"

def directory (env : Environment) : String :=
  match env.get? "JSFENCE_CONFIG_DIR" with
  | some dir => dir
  | none => join (userDirectory env) "jsfence"

def path (env : Environment) : String :=
  match env.get? "JSFENCE_CONFIG" with
  | some path => path
  | none => join (directory env) "config.toml"

end Config
end BoundedScript
