import BoundedScript.Duration
import BoundedScript.Json.Basic

set_option autoImplicit false

namespace BoundedScript

structure EvaluatorConfig where
  timeout : Duration
  memoryLimit : UInt64
  deriving DecidableEq

structure WorkerLimits where
  timeout : Duration
  maxRequest : UInt64
  maxCode : UInt64
  maxResult : UInt64
  heapLimit : UInt64
  cpuSeconds : UInt64
  memoryLimit : Option UInt64
  deriving DecidableEq

structure SandboxConfig where
  -- The program to start; none for the running one.
  workerPath : Option String
  timeout : Duration
  maxStdout : UInt64
  maxStderr : UInt64
  worker : WorkerLimits
  deriving DecidableEq

structure Config where
  evaluator : EvaluatorConfig
  sandbox : SandboxConfig
  deriving DecidableEq

def EvaluatorConfig.defaultTimeout : Duration := .ofMillis 50
def EvaluatorConfig.defaultMemoryLimit : UInt64 := 16 * 1024 * 1024

def EvaluatorConfig.standard : EvaluatorConfig :=
  ⟨defaultTimeout, defaultMemoryLimit⟩

namespace WorkerLimits

def defaultTimeout : Duration := .ofMillis 250
def defaultMaxRequest : UInt64 := 1024 * 1024
def defaultMaxCode : UInt64 := 64 * 1024
def defaultMaxResult : UInt64 := 256 * 1024
def defaultHeapLimit : UInt64 := 64 * 1024 * 1024
def defaultCpuSeconds : UInt64 := 2

def standard : WorkerLimits where
  timeout := defaultTimeout
  maxRequest := defaultMaxRequest
  maxCode := defaultMaxCode
  maxResult := defaultMaxResult
  heapLimit := defaultHeapLimit
  cpuSeconds := defaultCpuSeconds
  memoryLimit := none

end WorkerLimits

namespace SandboxConfig

def defaultTimeout : Duration := .ofMillis 300

-- Room for a response around the largest result.
def defaultMaxStdout : UInt64 := WorkerLimits.defaultMaxResult + 4 * 1024
def defaultMaxStderr : UInt64 := 8 * 1024

def standard : SandboxConfig where
  workerPath := none
  timeout := defaultTimeout
  maxStdout := defaultMaxStdout
  maxStderr := defaultMaxStderr
  worker := .standard

end SandboxConfig

def Config.standard : Config :=
  ⟨.standard, .standard⟩

namespace Config

def durationJson (d : Duration) : Json :=
  .string d.render

def wordJson (n : UInt64) : Json :=
  .int n.toNat

end Config

open Config

def EvaluatorConfig.toJson (c : EvaluatorConfig) : Json :=
  .object [("timeout", durationJson c.timeout), ("memory_limit_bytes", wordJson c.memoryLimit)]

def WorkerLimits.toJson (l : WorkerLimits) : Json :=
  .object [("timeout", durationJson l.timeout),
    ("max_request_bytes", wordJson l.maxRequest),
    ("max_code_bytes", wordJson l.maxCode),
    ("max_result_bytes", wordJson l.maxResult),
    ("heap_limit_bytes", wordJson l.heapLimit),
    ("cpu_limit_secs", wordJson l.cpuSeconds),
    ("memory_limit_bytes", (l.memoryLimit.map wordJson).getD .null)]

def SandboxConfig.toJson (c : SandboxConfig) : Json :=
  .object [("worker_path", (c.workerPath.map Json.string).getD .null),
    ("timeout", durationJson c.timeout),
    ("max_stdout_bytes", wordJson c.maxStdout),
    ("max_stderr_bytes", wordJson c.maxStderr),
    ("worker", c.worker.toJson)]

def Config.toJson (c : Config) : Json :=
  .object [("evaluator", c.evaluator.toJson), ("sandbox", c.sandbox.toJson)]

end BoundedScript
