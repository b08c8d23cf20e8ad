import BoundedScript.Config.Reading
import BoundedScript.Proofs.Config.Durations

set_option autoImplicit false

namespace BoundedScript

open Document (word? record setFields fill)

structure Member where
  name : String
  json : Json
  document : Option Document

namespace Member

variable (count : UInt64 → Document) (name : String)

def duration (d : Duration) : Member :=
  ⟨name, Config.durationJson d, some (.string d.render)⟩

def word (n : UInt64) : Member :=
  ⟨name, Config.wordJson n, some (count n)⟩

def optionalWord (n : Option UInt64) : Member :=
  ⟨name, (n.map Config.wordJson).getD .null, n.map count⟩

def optionalText (s : Option String) : Member :=
  ⟨name, (s.map Json.string).getD .null, s.map .string⟩

-- What is read of the members. One that is not given is left out, or stands there as what is absent.
def entries (absent : Option Document) (ms : List Member) : List (String × Document) :=
  ms.filterMap fun m => (m.document.or absent).map fun d => (m.name, d)

@[simp] theorem entries_nil (absent : Option Document) : entries absent [] = [] := rfl

@[simp] theorem entries_cons (absent : Option Document) (m : Member) (ms : List Member) :
    entries absent (m :: ms) = ((m.document.or absent).map fun d => (m.name, d)).toList ++ entries absent ms := by
  cases given : m.document.or absent <;> simp [entries, given]

theorem entries_append (absent : Option Document) (ms ms' : List Member) :
    entries absent (ms ++ ms') = entries absent ms ++ entries absent ms' :=
  List.filterMap_append

def record (absent : Option Document) (json : Json) (ms : List Member) : Member :=
  ⟨name, json, some (.table (entries absent ms))⟩

end Member

section Members

variable (count : UInt64 → Document) (absent : Option Document)

def EvaluatorConfig.members (c : EvaluatorConfig) : List Member :=
  [.duration "timeout" c.timeout, .word count "memory_limit_bytes" c.memoryLimit]

def WorkerLimits.members (l : WorkerLimits) : List Member :=
  [.duration "timeout" l.timeout, .word count "max_request_bytes" l.maxRequest,
    .word count "max_code_bytes" l.maxCode, .word count "max_result_bytes" l.maxResult,
    .word count "heap_limit_bytes" l.heapLimit, .word count "cpu_limit_secs" l.cpuSeconds,
    .optionalWord count "memory_limit_bytes" l.memoryLimit]

def SandboxConfig.ownMembers (c : SandboxConfig) : List Member :=
  [.optionalText "worker_path" c.workerPath, .duration "timeout" c.timeout,
    .word count "max_stdout_bytes" c.maxStdout, .word count "max_stderr_bytes" c.maxStderr]

def SandboxConfig.members (c : SandboxConfig) : List Member :=
  c.ownMembers count ++ [.record "worker" absent c.worker.toJson (c.worker.members count)]

def Config.members (c : Config) : List Member :=
  [.record "evaluator" absent c.evaluator.toJson (c.evaluator.members count),
    .record "sandbox" absent c.sandbox.toJson (c.sandbox.members count absent)]

end Members

section Counts

variable (f : UInt64 → UInt64)

def EvaluatorConfig.mapCounts (c : EvaluatorConfig) : EvaluatorConfig :=
  { c with memoryLimit := f c.memoryLimit }

def WorkerLimits.mapCounts (l : WorkerLimits) : WorkerLimits where
  timeout := l.timeout
  maxRequest := f l.maxRequest
  maxCode := f l.maxCode
  maxResult := f l.maxResult
  heapLimit := f l.heapLimit
  cpuSeconds := f l.cpuSeconds
  memoryLimit := l.memoryLimit.map f

def SandboxConfig.mapCounts (c : SandboxConfig) : SandboxConfig :=
  { c with maxStdout := f c.maxStdout, maxStderr := f c.maxStderr, worker := c.worker.mapCounts f }

def Config.mapCounts (c : Config) : Config :=
  ⟨c.evaluator.mapCounts f, c.sandbox.mapCounts f⟩

def WorkerLimits.counts (l : WorkerLimits) : List UInt64 :=
  [l.maxRequest, l.maxCode, l.maxResult, l.heapLimit, l.cpuSeconds] ++ l.memoryLimit.toList

def Config.counts (c : Config) : List UInt64 :=
  [c.evaluator.memoryLimit, c.sandbox.maxStdout, c.sandbox.maxStderr] ++ c.sandbox.worker.counts

variable {f}

theorem WorkerLimits.mapCounts_eq_self {l : WorkerLimits} : l.mapCounts f = l ↔ ∀ n ∈ l.counts, f n = n := by
  obtain ⟨timeout, maxRequest, maxCode, maxResult, heapLimit, cpuSeconds, memoryLimit⟩ := l
  cases memoryLimit <;> simp [mapCounts, counts]

theorem Config.mapCounts_eq_self {c : Config} : c.mapCounts f = c ↔ ∀ n ∈ c.counts, f n = n := by
  obtain ⟨⟨timeout, memoryLimit⟩, ⟨workerPath, timeout', maxStdout, maxStderr, worker⟩⟩ := c
  have limits : worker.mapCounts f = worker ↔ _ := WorkerLimits.mapCounts_eq_self
  simp [mapCounts, counts, EvaluatorConfig.mapCounts, SandboxConfig.mapCounts, limits, or_imp, forall_and]

theorem Config.mapCounts_id (c : Config) : c.mapCounts id = c :=
  mapCounts_eq_self.mpr fun _ _ => rfl

end Counts

section Read

variable {count : UInt64 → Document} {absent : Option Document} {f : UInt64 → UInt64}

structure Counts (count : UInt64 → Document) (f : UInt64 → UInt64) : Prop where
  read : ∀ n, word? (count n) = some (f n)
  given : ∀ n, Document.optional word? (count n) = some (some (f n))

theorem duration?_render (d : Duration) : Config.duration? (.string d.render) = some d :=
  Duration.read?_render d

theorem optional_null {α : Type} (read : Document → Option α) : Document.optional read .null = some none := rfl

theorem EvaluatorConfig.ofDocument?_entries (counts : Counts count f) (c : EvaluatorConfig) :
    EvaluatorConfig.ofDocument? (.table (Member.entries absent (c.members count))) = some (c.mapCounts f) := by
  simp [EvaluatorConfig.ofDocument?, fields, members, mapCounts, Member.duration, Member.word, record,
    setFields, fill, Document.field, Document.states, duration?_render, counts.read]

theorem WorkerLimits.ofDocument?_entries (counts : Counts count f) (nothing : absent = none ∨ absent = some .null)
    (l : WorkerLimits) :
    WorkerLimits.ofDocument? (.table (Member.entries absent (l.members count))) = some (l.mapCounts f) := by
  obtain ⟨timeout, maxRequest, maxCode, maxResult, heapLimit, cpuSeconds, memoryLimit⟩ := l
  change (setFields WorkerLimits.fields .standard _).map _ = _
  cases memoryLimit with
  | none =>
    rcases nothing with rfl | rfl <;>
    simp [fields, members, mapCounts, Member.duration, Member.word, Member.optionalWord, setFields, fill,
      Document.field, Document.states, duration?_render, counts.read, optional_null, standard]
  | some n =>
    simp [fields, members, mapCounts, Member.duration, Member.word, Member.optionalWord, setFields, fill,
      Document.field, Document.states, duration?_render, counts.read, counts.given]

theorem SandboxConfig.ofDocument?_entries (counts : Counts count f) (nothing : absent = none ∨ absent = some .null)
    (c : SandboxConfig) :
    SandboxConfig.ofDocument? (.table (Member.entries absent (c.members count absent))) = some (c.mapCounts f) := by
  obtain ⟨workerPath, timeout, maxStdout, maxStderr, worker⟩ := c
  have inner : record WorkerLimits.fields .standard (.table (Member.entries absent (worker.members count))) = some _ :=
    WorkerLimits.ofDocument?_entries counts nothing worker
  have given (path : String) : Document.optional Document.text? (.string path) = some (some path) := rfl
  change (setFields SandboxConfig.fields .standard _).map _ = _
  cases workerPath with
  | none =>
    rcases nothing with rfl | rfl <;>
    simp [fields, members, ownMembers, mapCounts, Member.duration, Member.word, Member.optionalText,
      Member.record, setFields, fill, Document.field, Document.states, duration?_render, counts.read, optional_null,
      standard, inner]
  | some path =>
    simp [fields, members, ownMembers, mapCounts, Member.duration, Member.word, Member.optionalText,
      Member.record, setFields, fill, Document.field, Document.states, duration?_render, counts.read, given, inner]

theorem Config.ofDocument?_entries (counts : Counts count f) (nothing : absent = none ∨ absent = some .null)
    (c : Config) : Config.ofDocument? (.table (Member.entries absent (c.members count absent))) = some (c.mapCounts f) := by
  have evaluator : record EvaluatorConfig.fields .standard
      (.table (Member.entries absent (c.evaluator.members count))) = some _ :=
    EvaluatorConfig.ofDocument?_entries counts c.evaluator
  have sandbox : record SandboxConfig.fields .standard
      (.table (Member.entries absent (c.sandbox.members count absent))) = some _ :=
    SandboxConfig.ofDocument?_entries counts nothing c.sandbox
  change (setFields Config.fields .standard _).map _ = _
  simp [fields, members, mapCounts, Member.record, setFields, fill, Document.field, Document.states, evaluator, sandbox]

end Read

end BoundedScript
