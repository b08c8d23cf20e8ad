import BoundedScript.Config.Basic
import BoundedScript.Config.Document

set_option autoImplicit false

namespace BoundedScript

open Document (field word? text? optional record)

namespace Config

def duration? (d : Document) : Option Duration :=
  d.text?.bind Duration.read?

end Config

open Config

def EvaluatorConfig.fields : List (Document.Field EvaluatorConfig) :=
  [field "timeout" duration? defaultTimeout fun v c => { c with timeout := v },
   field "memory_limit_bytes" word? defaultMemoryLimit fun v c => { c with memoryLimit := v }]

def WorkerLimits.fields : List (Document.Field WorkerLimits) :=
  [field "timeout" duration? defaultTimeout fun v c => { c with timeout := v },
   field "max_request_bytes" word? defaultMaxRequest fun v c => { c with maxRequest := v },
   field "max_code_bytes" word? defaultMaxCode fun v c => { c with maxCode := v },
   field "max_result_bytes" word? defaultMaxResult fun v c => { c with maxResult := v },
   field "heap_limit_bytes" word? defaultHeapLimit fun v c => { c with heapLimit := v },
   field "cpu_limit_secs" word? defaultCpuSeconds fun v c => { c with cpuSeconds := v },
   field "memory_limit_bytes" (optional word?) none fun v c => { c with memoryLimit := v }]

def SandboxConfig.fields : List (Document.Field SandboxConfig) :=
  [field "worker_path" (optional text?) none fun v c => { c with workerPath := v },
   field "timeout" duration? defaultTimeout fun v c => { c with timeout := v },
   field "max_stdout_bytes" word? defaultMaxStdout fun v c => { c with maxStdout := v },
   field "max_stderr_bytes" word? defaultMaxStderr fun v c => { c with maxStderr := v },
   field "worker" (record WorkerLimits.fields .standard) .standard fun v c => { c with worker := v }]

def Config.fields : List (Document.Field Config) :=
  [field "evaluator" (record EvaluatorConfig.fields .standard) .standard fun v c => { c with evaluator := v },
   field "sandbox" (record SandboxConfig.fields .standard) .standard fun v c => { c with sandbox := v }]

def EvaluatorConfig.ofDocument? : Document → Option EvaluatorConfig :=
  record EvaluatorConfig.fields .standard

def WorkerLimits.ofDocument? : Document → Option WorkerLimits :=
  record WorkerLimits.fields .standard

def SandboxConfig.ofDocument? : Document → Option SandboxConfig :=
  record SandboxConfig.fields .standard

def Config.ofDocument? : Document → Option Config :=
  record Config.fields .standard

end BoundedScript
