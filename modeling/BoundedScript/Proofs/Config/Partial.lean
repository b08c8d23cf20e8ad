import BoundedScript.Proofs.Config.Saved
import BoundedScript.Proofs.Config.Toml.Passable

set_option autoImplicit false

namespace BoundedScript

open Config (duration?)
open Document (field word? text? optional record setFields fill states)

abbrev Choice := List String → Bool

def Choice.inside (S : Choice) (name : String) : Choice :=
  fun path => S (name :: path)

def Choice.here (S : Choice) (name : String) : Bool :=
  S [name]

section Pick

variable (S : String → Bool)

def EvaluatorConfig.pick (c d : EvaluatorConfig) : EvaluatorConfig where
  timeout := if S "timeout" then c.timeout else d.timeout
  memoryLimit := if S "memory_limit_bytes" then c.memoryLimit else d.memoryLimit

def WorkerLimits.pick (c d : WorkerLimits) : WorkerLimits where
  timeout := if S "timeout" then c.timeout else d.timeout
  maxRequest := if S "max_request_bytes" then c.maxRequest else d.maxRequest
  maxCode := if S "max_code_bytes" then c.maxCode else d.maxCode
  maxResult := if S "max_result_bytes" then c.maxResult else d.maxResult
  heapLimit := if S "heap_limit_bytes" then c.heapLimit else d.heapLimit
  cpuSeconds := if S "cpu_limit_secs" then c.cpuSeconds else d.cpuSeconds
  memoryLimit := if S "memory_limit_bytes" then c.memoryLimit else d.memoryLimit

def SandboxConfig.pick (c d : SandboxConfig) : SandboxConfig where
  workerPath := if S "worker_path" then c.workerPath else d.workerPath
  timeout := if S "timeout" then c.timeout else d.timeout
  maxStdout := if S "max_stdout_bytes" then c.maxStdout else d.maxStdout
  maxStderr := if S "max_stderr_bytes" then c.maxStderr else d.maxStderr
  worker := if S "worker" then c.worker else d.worker

def Config.pick (c d : Config) : Config where
  evaluator := if S "evaluator" then c.evaluator else d.evaluator
  sandbox := if S "sandbox" then c.sandbox else d.sandbox

end Pick

def SandboxConfig.choose (S : Choice) (c d : SandboxConfig) : SandboxConfig :=
  pick S.here { c with worker := c.worker.pick (S.inside "worker").here d.worker } d

def Config.choose (S : Choice) (c d : Config) : Config :=
  pick S.here
    ⟨c.evaluator.pick (S.inside "evaluator").here d.evaluator, c.sandbox.choose (S.inside "sandbox") d.sandbox⟩ d

section Stated

def Gives (S : String → Bool) (name : String) (P : Document → Prop) (entries : List (String × Document)) : Prop :=
  if S name then ∃ d, P d ∧ entries.filter (·.1 == name) = [(name, d)]
  else entries.filter (·.1 == name) = []

def Passes {σ : Type} (fields : List (Document.Field σ)) (entries : List (String × Document)) : Prop :=
  ∀ e ∈ entries, e.1 ∉ fields.map Document.Field.name → e.2.passable

structure EvaluatorConfig.States (S : String → Bool) (c : EvaluatorConfig) (entries : List (String × Document)) :
    Prop where
  timeout : Gives S "timeout" (duration? · = some c.timeout) entries
  memoryLimit : Gives S "memory_limit_bytes" (word? · = some c.memoryLimit) entries
  unknown : Passes fields entries

structure WorkerLimits.States (S : String → Bool) (c : WorkerLimits) (entries : List (String × Document)) : Prop where
  timeout : Gives S "timeout" (duration? · = some c.timeout) entries
  maxRequest : Gives S "max_request_bytes" (word? · = some c.maxRequest) entries
  maxCode : Gives S "max_code_bytes" (word? · = some c.maxCode) entries
  maxResult : Gives S "max_result_bytes" (word? · = some c.maxResult) entries
  heapLimit : Gives S "heap_limit_bytes" (word? · = some c.heapLimit) entries
  cpuSeconds : Gives S "cpu_limit_secs" (word? · = some c.cpuSeconds) entries
  memoryLimit : Gives S "memory_limit_bytes" (optional word? · = some c.memoryLimit) entries
  unknown : Passes fields entries

structure SandboxConfig.States (S : Choice) (c : SandboxConfig) (entries : List (String × Document)) : Prop where
  workerPath : Gives S.here "worker_path" (optional text? · = some c.workerPath) entries
  timeout : Gives S.here "timeout" (duration? · = some c.timeout) entries
  maxStdout : Gives S.here "max_stdout_bytes" (word? · = some c.maxStdout) entries
  maxStderr : Gives S.here "max_stderr_bytes" (word? · = some c.maxStderr) entries
  worker : Gives S.here "worker" (fun d => ∃ inner, d = .table inner ∧ c.worker.States (S.inside "worker").here inner)
    entries
  unknown : Passes fields entries

structure Config.States (S : Choice) (c : Config) (entries : List (String × Document)) : Prop where
  evaluator : Gives S.here "evaluator"
    (fun d => ∃ inner, d = .table inner ∧ c.evaluator.States (S.inside "evaluator").here inner) entries
  sandbox : Gives S.here "sandbox"
    (fun d => ∃ inner, d = .table inner ∧ c.sandbox.States (S.inside "sandbox") inner) entries
  unknown : Passes fields entries

end Stated

section Records

variable {σ : Type} {fields : List (Document.Field σ)} {pick : (String → Bool) → σ → σ → σ} {S T : String → Bool} {a b c s : σ}
  {entries : List (String × Document)} {name : String} {P : Document → Prop}

structure Picks (known : List String) (pick : (String → Bool) → σ → σ → σ) : Prop where
  none : ∀ a b, pick (fun _ => false) a b = b
  known : ∀ S a b, pick (fun n => known.contains n && S n) a b = pick S a b
  twice : ∀ S T a b, pick S a (pick T a b) = pick (fun n => S n || T n) a b
  rest : ∀ S a b c, pick (!S ·) a (pick S b c) = pick S b a

theorem Picks.same {known : List String} (picks : Picks known pick) (agree : ∀ n ∈ known, S n = T n) (a b : σ) :
    pick S a b = pick T a b := by
  have alike : (fun n => known.contains n && S n) = fun n => known.contains n && T n := by
    funext n
    by_cases inside : n ∈ known
    · rw [agree n inside]
    · simp [inside]
  rw [← picks.known S, alike, picks.known]

theorem Picks.foldl (picks : Picks (fields.map Document.Field.name) pick) (names : List String) (a b : σ) :
    names.foldl (fun s n => pick (· == n) a s) b = pick (names.contains ·) a b := by
  induction names generalizing b with
  | nil => exact (picks.none a b).symm
  | cons n names ih =>
    rw [List.foldl_cons, ih, picks.twice]
    refine picks.same (fun m _ => ?_) a b
    rw [List.contains_cons, Bool.or_comm]

theorem Gives.shown (gives : Gives S name P entries) {d : Document} (inside : (name, d) ∈ entries) : P d := by
  have filtered : (name, d) ∈ entries.filter (·.1 == name) := by simp [inside]
  rw [Gives] at gives
  split at gives
  · obtain ⟨d', shows, only⟩ := gives
    rw [only, List.mem_singleton, Prod.mk.injEq] at filtered
    rwa [filtered.2]
  · rw [gives] at filtered
    cases filtered

theorem Gives.once (gives : Gives S name P entries) : (entries.filter (·.1 == name)).length ≤ 1 := by
  rw [Gives] at gives
  split at gives
  · obtain ⟨d, -, only⟩ := gives
    rw [only, List.length_singleton]
  · rw [gives]
    exact Nat.zero_le 1

theorem states_eq_false : states name entries = false ↔ entries.filter (·.1 == name) = [] := by
  simp [states]

theorem Gives.states_eq (gives : Gives S name P entries) : states name entries = S name := by
  rw [Gives] at gives
  split at gives
  next chosen =>
    obtain ⟨d, -, only⟩ := gives
    rw [chosen, ← Bool.not_eq_false, states_eq_false, only]
    exact List.cons_ne_nil _ _
  next other =>
    rw [Bool.not_eq_true] at other
    rw [other, states_eq_false]
    exact gives

theorem states_eq_contains (n : String) : states n entries = (entries.map (·.1)).contains n := by
  rw [Bool.eq_iff_iff, states, List.any_eq_true, List.contains_iff_mem, List.mem_map]
  simp

theorem setFields_entries (picks : Picks (fields.map Document.Field.name) pick)
    (once : ∀ n ∈ fields.map Document.Field.name, (entries.filter (·.1 == n)).length ≤ 1)
    (sets : ∀ f ∈ fields, ∀ d, (f.name, d) ∈ entries → ∀ s, f.set d s = some (pick (· == f.name) c s))
    (unknown : Passes fields entries) (s : σ) :
    setFields fields s entries = some ((entries.map (·.1)).foldl (fun s n => pick (· == n) c s) s) := by
  induction entries generalizing s with
  | nil => rfl
  | cons e rest ih =>
    obtain ⟨name, d⟩ := e
    have later := ih
      (fun n known => Nat.le_trans ((List.sublist_cons_self _ _).filter _).length_le (once n known))
      (fun f known d inside => sets f known d (List.mem_cons_of_mem _ inside))
      (fun e inside => unknown e (List.mem_cons_of_mem _ inside))
    rw [setFields, List.map_cons, List.foldl_cons]
    cases found : fields.find? (·.name == name) with
    | none =>
      have foreign : name ∉ fields.map Document.Field.name := by
        rintro inside
        obtain ⟨f, known, rfl⟩ := List.mem_map.mp inside
        simpa using List.find?_eq_none.mp found f known
      have stays : pick (· == name) c s = s := by
        rw [picks.same (T := fun _ => false), picks.none]
        intro n known
        exact beq_false_of_ne fun same => foreign (same ▸ known)
      simp only [unknown (name, d) List.mem_cons_self foreign, if_true, stays]
      exact later s
    | some f =>
      have known := List.mem_of_find?_eq_some found
      obtain rfl : f.name = name := by simpa using List.find?_some found
      have alone : states f.name rest = false := by
        have few := once f.name (List.mem_map_of_mem known)
        simp only [List.filter_cons, BEq.rfl, if_true, List.length_cons] at few
        rw [states_eq_false]
        exact List.length_eq_zero_iff.mp (by omega)
      simp only [alone, Bool.false_eq_true, if_false, sets f known d List.mem_cons_self s, Option.bind_some]
      exact later _

theorem fill_defaults {isStated : String → Bool} (picks : Picks (fields.map Document.Field.name) pick)
    (resets : ∀ f ∈ fields, ∀ s, f.reset s = pick (· == f.name) a s) (s : σ) :
    fill fields isStated s = pick (!isStated ·) a s := by
  have folded : fill fields isStated s =
      ((fields.map Document.Field.name).filter (!isStated ·)).foldl (fun s n => pick (· == n) a s) s := by
    rw [fill]
    clear picks
    induction fields generalizing s with
    | nil => rfl
    | cons f rest ih =>
      obtain ⟨first, later⟩ := List.forall_mem_cons.mp resets
      rw [List.foldl_cons, ih later, List.map_cons, List.filter_cons]
      cases isStated f.name with
      | true => rfl
      | false => simp [first]
  rw [folded, picks.foldl]
  refine picks.same (fun n known => ?_) a s
  simp [List.contains_eq_mem, List.mem_map.mp known]

theorem record_table (picks : Picks (fields.map Document.Field.name) pick)
    (resets : ∀ f ∈ fields, ∀ s, f.reset s = pick (· == f.name) a s)
    (gives : ∀ f ∈ fields, Gives S f.name (fun d => ∀ s, f.set d s = some (pick (· == f.name) c s)) entries)
    (unknown : Passes fields entries) (s : σ) : record fields s (.table entries) = some (pick S c a) := by
  have named {p : String → Prop} (each : ∀ f ∈ fields, p f.name) : ∀ n ∈ fields.map Document.Field.name, p n := by
    simpa using each
  have set := setFields_entries picks (named fun f known => (gives f known).once)
    (fun f known d inside => (gives f known).shown inside) unknown s
  have stated : ∀ n ∈ fields.map Document.Field.name, states n entries = S n :=
    named fun f known => (gives f known).states_eq
  have contained : (fun n => states n entries) = fun n => (entries.map (·.1)).contains n :=
    funext states_eq_contains
  rw [record, set, picks.foldl, Option.map_some, fill_defaults picks resets, ← contained, picks.rest, picks.same stated]

theorem Gives.of_stated (chosen : S name) {d : Document} (shows : P d) (only : entries.filter (·.1 == name) = [(name, d)]) :
    Gives S name P entries := by
  rw [Gives, if_pos chosen]
  exact ⟨d, shows, only⟩

theorem Gives.of_left (other : S name = false) (left : entries.filter (·.1 == name) = []) : Gives S name P entries := by
  rwa [Gives, if_neg (by simp [other])]

theorem Gives.imp {Q : Document → Prop} (gives : Gives S name P entries) (stronger : ∀ d, P d → Q d) :
    Gives S name Q entries := by
  rw [Gives] at gives
  split at gives
  next chosen =>
    obtain ⟨d, shows, only⟩ := gives
    exact of_stated chosen (stronger d shows) only
  next other => exact of_left (Bool.not_eq_true _ ▸ other) gives

theorem Gives.sets {α : Type} {read : Document → Option α} {default v : α} {put : α → σ → σ}
    (gives : Gives S name (read · = some v) entries) (puts : ∀ s, put v s = pick (· == name) c s) :
    Gives S name (fun d => ∀ s, (field name read default put).set d s = some (pick (· == name) c s)) entries :=
  gives.imp fun d shows s => by simp only [field, shows, Option.map_some, puts]

end Records

section Overlays

variable {α : Type} {s t : Bool} {x y z : α}

theorem ite_twice : (if s then x else if t then x else y) = if s || t then x else y := by
  cases s <;> rfl

theorem ite_rest : (if !t then x else if t then y else z) = if t then y else x := by
  cases t <;> rfl

theorem EvaluatorConfig.picks : Picks (fields.map Document.Field.name) pick where
  none _ _ := rfl
  known S a b := by simp [pick, fields, field]
  twice S T a b := by simp only [pick, ite_twice]
  rest S a b c := by simp only [pick, ite_rest]

theorem WorkerLimits.picks : Picks (fields.map Document.Field.name) pick where
  none _ _ := rfl
  known S a b := by simp [pick, fields, field]
  twice S T a b := by simp only [pick, ite_twice]
  rest S a b c := by simp only [pick, ite_rest]

theorem SandboxConfig.picks : Picks (fields.map Document.Field.name) pick where
  none _ _ := rfl
  known S a b := by simp [pick, fields, field]
  twice S T a b := by simp only [pick, ite_twice]
  rest S a b c := by simp only [pick, ite_rest]

theorem Config.picks : Picks (fields.map Document.Field.name) pick where
  none _ _ := rfl
  known S a b := by simp [pick, fields, field]
  twice S T a b := by simp only [pick, ite_twice]
  rest S a b c := by simp only [pick, ite_rest]

end Overlays

section Partial

variable {S : Choice} {entries : List (String × Document)}

theorem EvaluatorConfig.ofDocument?_states {S : String → Bool} {c : EvaluatorConfig} (states : c.States S entries) :
    EvaluatorConfig.ofDocument? (.table entries) = some (c.pick S .standard) := by
  refine record_table picks ?_ ?_ states.unknown _
  · simp [fields, field, pick, standard]
  · simp only [fields, List.forall_mem_cons]
    exact ⟨states.timeout.sets (by simp [pick]), states.memoryLimit.sets (by simp [pick]), List.forall_mem_nil _⟩

theorem WorkerLimits.ofDocument?_states {S : String → Bool} {c : WorkerLimits} (states : c.States S entries) :
    WorkerLimits.ofDocument? (.table entries) = some (c.pick S .standard) := by
  refine record_table picks ?_ ?_ states.unknown _
  · simp [fields, field, pick, standard]
  · simp only [fields, List.forall_mem_cons]
    exact ⟨states.timeout.sets (by simp [pick]), states.maxRequest.sets (by simp [pick]),
      states.maxCode.sets (by simp [pick]), states.maxResult.sets (by simp [pick]),
      states.heapLimit.sets (by simp [pick]), states.cpuSeconds.sets (by simp [pick]),
      states.memoryLimit.sets (by simp [pick]), List.forall_mem_nil _⟩

theorem SandboxConfig.ofDocument?_states {c : SandboxConfig} (states : c.States S entries) :
    SandboxConfig.ofDocument? (.table entries) = some (c.choose S .standard) := by
  have worker := states.worker.imp (Q := (record WorkerLimits.fields .standard · =
      some (c.worker.pick (S.inside "worker").here .standard))) <| by
    rintro _ ⟨inner, rfl, within⟩
    exact WorkerLimits.ofDocument?_states within
  refine record_table picks ?_ ?_ states.unknown _
  · simp [fields, field, pick, standard]
  · simp only [fields, List.forall_mem_cons]
    exact ⟨states.workerPath.sets (by simp [pick]), states.timeout.sets (by simp [pick]),
      states.maxStdout.sets (by simp [pick]), states.maxStderr.sets (by simp [pick]),
      worker.sets (by simp [pick, standard]), List.forall_mem_nil _⟩

theorem Config.ofDocument?_states {c : Config} (states : c.States S entries) :
    Config.ofDocument? (.table entries) = some (c.choose S .standard) := by
  have evaluator := states.evaluator.imp (Q := (record EvaluatorConfig.fields .standard · =
      some (c.evaluator.pick (S.inside "evaluator").here .standard))) <| by
    rintro _ ⟨inner, rfl, within⟩
    exact EvaluatorConfig.ofDocument?_states within
  have sandbox := states.sandbox.imp (Q := (record SandboxConfig.fields .standard · =
      some (c.sandbox.choose (S.inside "sandbox") .standard))) <| by
    rintro _ ⟨inner, rfl, within⟩
    exact SandboxConfig.ofDocument?_states within
  refine record_table picks ?_ ?_ states.unknown _
  · simp [fields, field, pick, standard]
  · simp only [fields, List.forall_mem_cons]
    exact ⟨evaluator.sets (by simp [pick, standard]), sandbox.sets (by simp [pick, standard]), List.forall_mem_nil _⟩

end Partial

section Whole

open Document (passable passableItems passableFields ofJson ofItems ofFields)

mutual

theorem Document.passable_ofJson : ∀ v : Json, (Document.ofJson v).passable
  | .null | .bool _ | .int _ | .float _ | .string _ => rfl
  | .array items => passableItems_ofItems items
  | .object fields => passableFields_ofFields fields

theorem Document.passableItems_ofItems : ∀ items : List Json, passableItems (ofItems items)
  | [] => rfl
  | v :: items => by rw [ofItems, passableItems, passable_ofJson v, passableItems_ofItems items]; rfl

theorem Document.passableFields_ofFields : ∀ fields : List (String × Json), passableFields (ofFields fields)
  | [] => rfl
  | (_, v) :: fields => by rw [ofFields, passableFields, passable_ofJson v, passableFields_ofFields fields]; rfl

end

theorem Config.ofJson_toJson (c : Config) :
    Document.ofJson c.toJson = .table (Member.entries (some .null) (c.members wholeWord (some .null))) := by
  obtain ⟨evaluator, ⟨workerPath, timeout, maxStdout, maxStderr,
    ⟨timeout', maxRequest, maxCode, maxResult, heapLimit, cpuSeconds, memoryLimit⟩⟩⟩ := c
  cases workerPath <;> cases memoryLimit <;> rfl

theorem Config.ofDocument?_toJson (c : Config) : ofDocument? (.ofJson c.toJson) = some c := by
  rw [ofJson_toJson, ofDocument?_entries counts_whole (.inr rfl), mapCounts_id]

/-- A configuration is its defaults but for what a document states, whatever else stands there that can be passed over,
as all can in TOML and in a JSON value; and all that is stated of a configuration is read back. -/
theorem Config.ofDocument?_overlays (c : Config) :
    (∀ S entries, c.States S entries → ofDocument? (.table entries) = some (c.choose S .standard)) ∧
    (∀ text d, Toml.read? text = some d → d.passable) ∧ (∀ v, (Document.ofJson v).passable) ∧
    ofDocument? (.ofJson c.toJson) = some c ∧
    (∀ text, c.toToml = .ok text → ofToml? text = some c) ∧
    (c.IsKept → ofJson5? c.toJson.renderLaidOut = some c) := by
  refine ⟨fun S entries => ofDocument?_states, fun text d => Toml.read?_passable, Document.passable_ofJson,
    c.ofDocument?_toJson, fun text => ofToml?_toToml, fun kept => ?_⟩
  rw [ofJson5?_laidOut kept.1, mapCounts_nearest.mpr kept.2]

theorem Config.ofDocument?_overlays_heap :
    let c := { Config.standard with sandbox.worker.heapLimit := 4096 }
    (ofDocument? (.table [("theme", .string "dark"), ("sandbox", .table [("worker", .table [("nice", .real 1.5),
      ("heap_limit_bytes", .int 4096)]), ("tags", .list false [.date])])]) = some c) ∧
    (∃ text, c.toToml = .ok text ∧ ofToml? text = some c) ∧
    c.IsKept ∧ ofJson5? c.toJson.renderLaidOut = some c := by
  intro c
  let S : Choice := fun path => [["sandbox"], ["sandbox", "worker"], ["sandbox", "worker", "heap_limit_bytes"]].contains path
  have limits : c.sandbox.worker.States ((S.inside "sandbox").inside "worker").here
      [("nice", .real 1.5), ("heap_limit_bytes", .int 4096)] := by
    constructor
    case heapLimit => exact .of_stated rfl rfl rfl
    case unknown => simp [Passes, passable, WorkerLimits.fields, field]
    all_goals exact .of_left rfl rfl
  have sandbox : c.sandbox.States (S.inside "sandbox")
      [("worker", .table [("nice", .real 1.5), ("heap_limit_bytes", .int 4096)]), ("tags", .list false [.date])] := by
    constructor
    case worker => exact .of_stated rfl ⟨_, rfl, limits⟩ rfl
    case unknown => simp [Passes, passable, passableItems, SandboxConfig.fields, field]
    all_goals exact .of_left rfl rfl
  have states : c.States S [("theme", .string "dark"), ("sandbox", .table [("worker", .table [("nice", .real 1.5),
      ("heap_limit_bytes", .int 4096)]), ("tags", .list false [.date])])] := by
    constructor
    case evaluator => exact .of_left rfl rfl
    case sandbox => exact .of_stated rfl ⟨_, rfl, sandbox⟩ rfl
    case unknown => simp [Passes, passable, Config.fields, field]
  have unbroken : ¬ c.sandbox.IsBroken := by
    rintro ⟨_, named, -⟩
    cases named
  have kept : c.IsKept := ⟨unbroken, mapCounts_nearest.mp (by decide +kernel)⟩
  have writes : c.toToml.isOk := by decide +kernel
  obtain ⟨text, written⟩ : ∃ text, c.toToml = .ok text := by
    cases written : c.toToml with
    | ok text => exact ⟨text, rfl⟩
    | error f => rw [written] at writes; cases writes
  obtain ⟨overlays, -, -, -, tables, laidOut⟩ := ofDocument?_overlays c
  exact ⟨overlays S _ states, ⟨text, written, tables text written⟩, kept, laidOut kept⟩

theorem Config.ofJson5?_unknown {k : UInt64} (beyond : 0x7fff_ffff_ffff_ffff < k.toNat) :
    ofJson5? (Json.object [("x", wordJson k)]).renderLaidOut = none := by
  have each (n : Nat) : ∀ m ∈ [Member.word looseWord "x" k], Json5.FieldReads (n + 1) 1 m.laid :=
    List.forall_mem_singleton.mpr (reads_member_word (by decide) k)
  have json : Json.object [("x", wordJson k)] = .object ([Member.word looseWord "x" k].map Member.field) := rfl
  have reads (n : Nat) : Json5.Reads (n + 2) (Json.laidOut 0 (.object [("x", wordJson k)])) (.table [("x", looseWord k)]) := by
    rw [json]
    exact reads_members (List.cons_ne_nil _ _) (each n)
  obtain ⟨n, long⟩ : ∃ n, (Json.laidOut 0 (.object [("x", wordJson k)])).length + 1 = n + 2 :=
    ⟨(Json.laidOut 0 (.object [("x", wordJson k)])).length - 1, by
      simp [Json.laidOut, Json.laidOutFields, Json.block]⟩
  have document : Json5.read? (Json.object [("x", wordJson k)]).renderLaidOut = _ := Json5.read?_of_reads long (reads n)
  have impassable : (looseWord k).passable = false := by
    simp [looseWord, Json5.loose, passable, Nat.not_le.mpr beyond]
  rw [ofJson5?, document, Option.bind_some]
  simp [ofDocument?, record, setFields, fields, field, impassable]

theorem Config.unknown_count_refused :
    ∃ text, text = "\x7b\n  \"x\": 18446744073709551615\n\x7d" ∧ ∀ complaints : Complaints,
      parse "c.json" text complaints = .error (.config ("Invalid JSON config: " ++ complaints.json5 text)) := by
  refine ⟨_, rfl, fun complaints => ?_⟩
  have text : (Json.object [("x", wordJson 0xffff_ffff_ffff_ffff)]).renderLaidOut =
      "\x7b\n  \"x\": 18446744073709551615\n\x7d" := by
    decide +kernel
  have unread := ofJson5?_unknown (k := 0xffff_ffff_ffff_ffff) (by decide)
  rw [text] at unread
  rw [parse, show FilePath.extension? "c.json" = some "json" from rfl]
  simp only [unread, parsed]

end Whole

end BoundedScript
