import BoundedScript.Proofs.Config.Partial

set_option autoImplicit false

namespace BoundedScript

section Counts

def WritesCount (s : String) (n : UInt64) : Prop :=
  ∃ digits, digits ≠ [] ∧ (∀ c ∈ digits, c.isDigit) ∧ (s.toList = digits ∨ s.toList = '+' :: digits) ∧
    Nat.ofDigitChars 10 digits 0 = n.toNat

theorem Environment.digitsValue_eq (cs : List Char) : digitsValue cs = Nat.ofDigitChars 10 cs 0 := by
  simp [digitsValue, Nat.ofDigitChars, Nat.mul_comm]

def unsignedDigits (cs : List Char) : List Char :=
  match cs with
  | '+' :: rest => rest
  | cs => cs

theorem unsignedDigits_eq_iff {cs digits : List Char} (all : ∀ c ∈ digits, c.isDigit) :
    unsignedDigits cs = digits ↔ cs = digits ∨ cs = '+' :: digits := by
  unfold unsignedDigits
  split
  next rest =>
    have apart : '+' :: rest ≠ digits := by
      rintro rfl
      simpa using all '+' List.mem_cons_self
    simp [apart]
  next other => exact (or_iff_left (other digits)).symm

theorem Environment.word?_eq_some_iff {s : String} {n : UInt64} : word? s = some n ↔ WritesCount s n := by
  have unfolded : word? s = if (unsignedDigits s.toList).isEmpty || !(unsignedDigits s.toList).all Char.isDigit then none
      else if digitsValue (unsignedDigits s.toList) < 0x1_0000_0000_0000_0000 then
        some (digitsValue (unsignedDigits s.toList)).toUInt64 else none := rfl
  rw [unfolded, WritesCount, digitsValue_eq]
  constructor
  · intro read
    split at read
    next => cases read
    next usable =>
      split at read
      next small =>
        cases read
        simp only [Bool.or_eq_true, List.isEmpty_iff, Bool.not_eq_true', not_or, Bool.not_eq_false, List.all_eq_true] at usable
        refine ⟨_, usable.1, usable.2, (unsignedDigits_eq_iff usable.2).mp rfl, ?_⟩
        exact (Nat.mod_eq_of_lt small).symm
      next => cases read
  · rintro ⟨digits, filled, all, written, value⟩
    rw [(unsignedDigits_eq_iff all).mpr written, value, if_neg, if_pos n.toNat_lt]
    · simp
    · simpa [filled] using all

end Counts

structure Setting (α : Type) where
  place : List String
  name : String
  read : String → Option α
  field : Config → α

def Setting.value {α : Type} (s : Setting α) (lookup : String → Option String) (c : Config) : α :=
  ((lookup s.name).bind s.read).getD (s.field c)

namespace Config

open Environment (word?)
open WorkerLimits (timeoutName maxRequestName maxCodeName maxResultName heapLimitName cpuSecondsName memoryLimitName)

def trimmedMillis? (s : String) : Option Duration :=
  (word? (Text.trim s)).map .ofMillis

def millis? (s : String) : Option Duration :=
  (word? s).map .ofMillis

def path? (s : String) : Option (Option String) :=
  if Text.isBlankText s then none else some (some s)

def settings : List (Sigma Setting) :=
  [⟨_, ["evaluator", "timeout"], evaluatorTimeoutName, trimmedMillis?, (·.evaluator.timeout)⟩,
   ⟨_, ["sandbox", "timeout"], sandboxTimeoutName, trimmedMillis?, (·.sandbox.timeout)⟩,
   ⟨_, ["sandbox", "worker_path"], workerPathName, path?, (·.sandbox.workerPath)⟩,
   ⟨_, ["sandbox", "max_stdout_bytes"], maxStdoutName, word?, (·.sandbox.maxStdout)⟩,
   ⟨_, ["sandbox", "worker", "timeout"], timeoutName, millis?, (·.sandbox.worker.timeout)⟩,
   ⟨_, ["sandbox", "worker", "max_request_bytes"], maxRequestName, word?, (·.sandbox.worker.maxRequest)⟩,
   ⟨_, ["sandbox", "worker", "max_code_bytes"], maxCodeName, word?, (·.sandbox.worker.maxCode)⟩,
   ⟨_, ["sandbox", "worker", "max_result_bytes"], maxResultName, word?, (·.sandbox.worker.maxResult)⟩,
   ⟨_, ["sandbox", "worker", "heap_limit_bytes"], heapLimitName, word?, (·.sandbox.worker.heapLimit)⟩,
   ⟨_, ["sandbox", "worker", "cpu_limit_secs"], cpuSecondsName, word?, (·.sandbox.worker.cpuSeconds)⟩,
   ⟨_, ["sandbox", "worker", "memory_limit_bytes"], memoryLimitName, fun s => (word? s).map some,
    (·.sandbox.worker.memoryLimit)⟩]

structure Overlaid (lookup : String → Option String) (c c' : Config) : Prop where
  settings : ∀ s ∈ settings, s.2.field c' = s.2.value lookup c
  memoryLimit : c'.evaluator.memoryLimit = c.evaluator.memoryLimit
  maxStderr : c'.sandbox.maxStderr = c.sandbox.maxStderr

variable {lookup : String → Option String} {c c' c'' : Config}

theorem eq_of_settings (same : ∀ s ∈ settings, s.2.field c' = s.2.field c'')
    (memoryLimit : c'.evaluator.memoryLimit = c''.evaluator.memoryLimit)
    (maxStderr : c'.sandbox.maxStderr = c''.sandbox.maxStderr) : c' = c'' := by
  obtain ⟨⟨_, _⟩, ⟨_, _, _, _, ⟨_, _, _, _, _, _, _⟩⟩⟩ := c'
  obtain ⟨⟨_, _⟩, ⟨_, _, _, _, ⟨_, _, _, _, _, _, _⟩⟩⟩ := c''
  simp_all [settings]

theorem Overlaid.unique (first : Overlaid lookup c c') (second : Overlaid lookup c c'') : c' = c'' :=
  eq_of_settings (fun s known => (first.settings s known).trans (second.settings s known).symm)
    (first.memoryLimit.trans second.memoryLimit.symm) (first.maxStderr.trans second.maxStderr.symm)

theorem Overlaid.again (first : Overlaid lookup c c') (second : Overlaid lookup c' c'') : Overlaid lookup c c'' where
  settings s known := by
    rw [second.settings s known, Setting.value, first.settings s known, Setting.value]
    cases (lookup s.2.name).bind s.2.read <;> rfl
  memoryLimit := second.memoryLimit.trans first.memoryLimit
  maxStderr := second.maxStderr.trans first.maxStderr

section Values

variable {env : Environment} {name : String} {read : String → Option UInt64}

theorem millis_value (t : Duration) : (((env.get? name).bind read).map Duration.ofMillis).getD t =
    ((env.get? name).bind fun s => (read s).map .ofMillis).getD t := by
  rw [Option.map_bind]
  rfl

theorem path_value (path : Option String) :
    (workerPath? env).or path = ((env.get? workerPathName).bind path?).getD path := by
  rw [workerPath?]
  cases env.get? workerPathName with
  | none => rfl
  | some p => cases blank : Text.isBlankText p <;> simp [path?, blank, Option.filter]

theorem optional_value (n : Option UInt64) :
    ((env.get? name).bind read).or n = ((env.get? name).bind fun s => (read s).map some).getD n := by
  cases env.get? name with
  | none => rfl
  | some s => cases given : read s <;> simp [given]

end Values

theorem overlaid_overlay (env : Environment) (c : Config) : Overlaid env.get? c (c.overlay env) where
  settings := by
    simp only [settings, List.forall_mem_cons, Setting.value]
    exact ⟨millis_value _, millis_value _, path_value _, rfl, millis_value _, rfl, rfl, rfl, rfl, rfl, optional_value _,
      List.forall_mem_nil _⟩
  memoryLimit := rfl
  maxStderr := rfl

end Config

namespace DotEnv

def assigned (env : Environment) : List (Option (List Char)) → Environment
  | [] => []
  | none :: _ => []
  | some line :: rest =>
    match parseLine env line with
    | none => []
    | some none => assigned env rest
    | some (some (name, v)) => (name, v) :: assigned (env.add name v) rest

end DotEnv

section Files

variable {env : Environment} {name : String}

namespace Environment

theorem get?_nil : get? [] name = none := rfl

theorem get?_cons (k v : String) (rest : Environment) :
    get? ((k, v) :: rest) name = if k = name then some v else rest.get? name := by
  by_cases same : k = name <;> simp [get?, same]

theorem get?_append (env later : Environment) : get? (env ++ later) name = (env.get? name).or (later.get? name) := by
  simp [get?, List.find?_append, Option.map_or]

theorem get?_add (k v : String) : (env.add k v).get? name = (env.get? name).or (if k = name then some v else none) := by
  rw [add]
  split
  next there =>
    by_cases same : k = name
    · obtain ⟨old, found⟩ := Option.isSome_iff_exists.mp there
      rw [← same, found, Option.some_or]
    · rw [if_neg same, Option.or_none]
  next => rw [get?_append, get?_cons, get?_nil]

end Environment

namespace DotEnv

theorem get?_setAll (lines : List (Option (List Char))) :
    (setAll env lines).get? name = (env.get? name).or ((assigned env lines).get? name) := by
  fun_induction assigned env lines with
  | case1 => rw [setAll, Environment.get?_nil, Option.or_none]
  | case2 => rw [setAll, Environment.get?_nil, Option.or_none]
  | case3 env line rest unread => simp only [setAll, unread, Environment.get?_nil, Option.or_none]
  | case4 env line rest read ih => simp only [setAll, read, ih]
  | case5 env line rest k v read ih =>
    simp only [setAll, read, ih, Environment.get?_add, Environment.get?_cons]
    rw [Option.or_assoc]
    split
    · rw [Option.some_or]
    · rw [Option.none_or]

end DotEnv

namespace Config

variable {c : Config}

def lookupOver (env : Environment) (dotEnv : Option Text.Bytes) (name : String) : Option String :=
  (env.get? name).or (dotEnv.bind fun bytes => (DotEnv.assigned env (DotEnv.lines bytes)).get? name)

theorem overlaid_withEnvironment (env : Environment) (dotEnv : Option Text.Bytes) (c : Config) :
    Overlaid (lookupOver env dotEnv) c (c.withEnvironment env dotEnv) := by
  cases dotEnv with
  | none =>
    have looked : env.get? = lookupOver env none := funext fun name => (Option.or_none ..).symm
    exact looked ▸ overlaid_overlay env c
  | some bytes =>
    have looked : (DotEnv.load bytes env).get? = lookupOver env (some bytes) := funext fun name => DotEnv.get?_setAll _
    exact looked ▸ overlaid_overlay (DotEnv.load bytes env) c

end Config

def Choice.covers (S : Choice) : List String → Bool
  | [] => true
  | name :: place => S.here name && (S.inside name).covers place

section Choices

variable {σ α : Type} {S : Choice} {place : List String} {a b : σ} {x y : α}

theorem Choice.covers_field : (if S.here name then x else y) = if S.covers [name] then x else y := by
  rw [covers, covers, Bool.and_true]

theorem Choice.covers_section (field : σ → α) (within : field a = if (S.inside name).covers place then x else field b) :
    field (if S.here name then a else b) = if S.covers (name :: place) then x else field b := by
  rw [covers]
  cases S.here name with
  | false => rfl
  | true => exact within

theorem Config.field_choose (S : Choice) (c d : Config) :
    ∀ s ∈ settings, s.2.field (c.choose S d) = if S.covers s.2.place then s.2.field c else s.2.field d := by
  have sandbox {α : Type} {place : List String} {x : α} (field : SandboxConfig → α)
      (within : field (c.sandbox.choose (S.inside "sandbox") d.sandbox) =
        if (S.inside "sandbox").covers place then x else field d.sandbox) :
      field (c.choose S d).sandbox = if S.covers ("sandbox" :: place) then x else field d.sandbox :=
    Choice.covers_section field within
  have worker {α : Type} {place : List String} {x : α} (field : WorkerLimits → α)
      (within : field (c.sandbox.worker.pick ((S.inside "sandbox").inside "worker").here d.sandbox.worker) =
        if ((S.inside "sandbox").inside "worker").covers place then x else field d.sandbox.worker) :
      field (c.choose S d).sandbox.worker =
        if S.covers ("sandbox" :: "worker" :: place) then x else field d.sandbox.worker :=
    sandbox (fun s => field s.worker) (Choice.covers_section field within)
  simp only [settings, List.forall_mem_cons]
  exact ⟨Choice.covers_section EvaluatorConfig.timeout Choice.covers_field, sandbox (·.timeout) Choice.covers_field,
    sandbox (·.workerPath) Choice.covers_field, sandbox (·.maxStdout) Choice.covers_field,
    worker (·.timeout) Choice.covers_field, worker (·.maxRequest) Choice.covers_field,
    worker (·.maxCode) Choice.covers_field, worker (·.maxResult) Choice.covers_field,
    worker (·.heapLimit) Choice.covers_field, worker (·.cpuSeconds) Choice.covers_field,
    worker (·.memoryLimit) Choice.covers_field, List.forall_mem_nil _⟩

end Choices

inductive Config.Holds (path text : String) : Document → Prop where
  | tables {d : Document} : FilePath.extension? path ≠ some "json" → Toml.read? text = some d → Holds path text d
  | object {d : Document} : FilePath.extension? path = some "json" → Json5.read? text = some d → Holds path text d
  | other {d : Document} : FilePath.extension? path ≠ some "json" → FilePath.extension? path ≠ some "toml" →
      ofToml? text = none → Json5.read? text = some d → Holds path text d

variable {path text : String} {d : Document} {c : Config} {complaints : Config.Complaints}

theorem Config.Holds.parse (holds : Holds path text d) (read : ofDocument? d = some c) :
    parse path text complaints = .ok c := by
  cases holds with
  | tables other document =>
    refine parse_tables other ?_
    rw [ofToml?, document, Option.bind_some, read]
  | object json document =>
    rw [Config.parse, json]
    simp only [ofJson5?, document, Option.bind_some, read, parsed]
  | other json toml untabled document =>
    rw [Config.parse]
    split
    next same => exact absurd same json
    next same => exact absurd same toml
    next => rw [untabled, Option.none_or, ofJson5?, document, Option.bind_some, read, parsed]

theorem Config.ofExisting_text (path text : String) :
    ofExisting path (.ok (Text.bytesOf text)) complaints = parse path text complaints := by
  rw [ofExisting, ofFile, Except.bind, textOf_bytesOf]
  all_goals simp

/-- Variables lie over a configuration field by field: a field whose variable says something usable comes to that, and
every other field stays. Behind the variables of the process come those of a file, which one of the process hides even
where it is unusable; behind both comes what the configuration file states, and behind that the defaults. -/
theorem Config.overrides_layered (env : Environment) (c : Config) (complaints : Complaints) :
    (∀ s n, Environment.word? s = some n ↔ WritesCount s n) ∧
    Overlaid env.get? c (c.overlay env) ∧ (c.overlay env).overlay env = c.overlay env ∧
    ∀ dotEnv, Overlaid (lookupOver env dotEnv) c (c.withEnvironment env dotEnv) ∧
      (∀ s ∈ settings, ∀ text, env.get? s.2.name = some text → s.2.read text = none →
        s.2.field (c.withEnvironment env dotEnv) = s.2.field c) ∧
      (∀ path, ∃ c', (ofExisting path (.error .notFound) complaints).map (withEnvironment env dotEnv) = .ok c' ∧
        Overlaid (lookupOver env dotEnv) .standard c') ∧
      (∀ path text S entries, Holds path text (.table entries) → c.States S entries →
        ∃ c', (ofExisting path (.ok (Text.bytesOf text)) complaints).map (withEnvironment env dotEnv) = .ok c' ∧
          Overlaid (lookupOver env dotEnv) (c.choose S .standard) c' ∧
          ∀ s ∈ settings, s.2.field c' = ((lookupOver env dotEnv s.2.name).bind s.2.read).getD
            (if S.covers s.2.place then s.2.field c else s.2.field .standard)) := by
  have once := overlaid_overlay env c
  refine ⟨fun _ _ => Environment.word?_eq_some_iff, once, (once.again (overlaid_overlay env _)).unique once, ?_⟩
  intro dotEnv
  have overlaid (c : Config) := overlaid_withEnvironment env dotEnv c
  refine ⟨overlaid c, fun s known text set unusable => ?_, fun path => ⟨_, rfl, overlaid _⟩,
    fun path text S entries holds states =>
      ⟨(c.choose S .standard).withEnvironment env dotEnv, ?_, overlaid _, fun s known => ?_⟩⟩
  · rw [(overlaid c).settings s known, Setting.value, lookupOver, set, Option.some_or, Option.bind_some, unusable]
    rfl
  · rw [ofExisting_text, holds.parse (ofDocument?_states states)]
    rfl
  · rw [(overlaid _).settings s known, Setting.value, field_choose S c .standard s known]

theorem timeout_document : (Toml.read? "[sandbox]\ntimeout = \"1s\"\n").any fun
    | .table [("sandbox", .table [("timeout", .string "1s")])] => true
    | _ => false := by
  decide +kernel

-- Of the two timeouts in the assignments the process hides one, with a text that is no number.
theorem Config.overrides_layered_hidden :
    ∃ c', (ofExisting "config.toml" (.ok (Text.bytesOf "[sandbox]\ntimeout = \"1s\"\n"))).map
        (withEnvironment [(sandboxTimeoutName, "soon"), (maxStdoutName, "+9000")]
          (some (Text.bytesOf "JSFENCE_SANDBOX_TIMEOUT_MS=700\nJSFENCE_EVAL_TIMEOUT_MS=' 80 '\n"))) = .ok c' ∧
      c'.sandbox.timeout = .ofMillis 1000 ∧ c'.evaluator.timeout = .ofMillis 80 ∧ c'.sandbox.maxStdout = 9000 ∧
      c'.sandbox.workerPath = none := by
  let c : Config := { Config.standard with sandbox.timeout := .ofMillis 1000 }
  let S : Choice := fun place => [["sandbox"], ["sandbox", "timeout"]].contains place
  obtain ⟨d, read, shape⟩ := (Option.any_eq_true ..).mp timeout_document
  split at shape
  next =>
    have sandbox : c.sandbox.States (S.inside "sandbox") [("timeout", .string "1s")] := by
      constructor
      case timeout => exact .of_stated rfl (show duration? (.string "1s") = some (.ofMillis 1000) by decide +kernel) rfl
      case unknown => simp [Passes, SandboxConfig.fields, Document.field]
      all_goals exact .of_left rfl rfl
    have states : c.States S [("sandbox", .table [("timeout", .string "1s")])] := by
      constructor
      case evaluator => exact .of_left rfl rfl
      case sandbox => exact .of_stated rfl ⟨_, rfl, sandbox⟩ rfl
      case unknown => simp [Passes, Config.fields, Document.field]
    obtain ⟨-, -, -, layers⟩ := overrides_layered [(sandboxTimeoutName, "soon"), (maxStdoutName, "+9000")] c .unsaid
    obtain ⟨-, -, -, files⟩ :=
      layers (some (Text.bytesOf "JSFENCE_SANDBOX_TIMEOUT_MS=700\nJSFENCE_EVAL_TIMEOUT_MS=' 80 '\n"))
    obtain ⟨c', loaded, -, fields⟩ := files "config.toml" _ S _ (.tables (by decide) read) states
    simp only [settings, List.forall_mem_cons] at fields
    obtain ⟨evaluator, sandbox, path, maxStdout, -⟩ := fields
    exact ⟨c', loaded, sandbox.trans (by decide +kernel), evaluator.trans (by decide +kernel),
      maxStdout.trans (by decide +kernel), path.trans (by decide +kernel)⟩
  next => cases shape

end Files

end BoundedScript
