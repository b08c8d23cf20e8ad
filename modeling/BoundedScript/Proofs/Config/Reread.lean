import BoundedScript.Config.Files
import BoundedScript.Proofs.Config.Entries
import BoundedScript.Proofs.Config.LaidOut
import BoundedScript.Proofs.Config.Toml.Sections
import BoundedScript.Proofs.Decimal.Words

set_option autoImplicit false

namespace BoundedScript

open Document (word?)

def Member.field (m : Member) : String × Json :=
  (m.name, m.json)

section LaidOut

open Json5 (Reads Refuses FieldReads isSeparator loose)

variable {n depth : Nat}

def looseWord (k : UInt64) : Document :=
  loose k.toNat

theorem counts_loose : Counts looseWord Double.nearest := by
  have read (k : UInt64) : word? (looseWord k) = some (Double.nearest k) := by
    have within : (Double.ofWhole k.toNat).isFinite := (Double.within_ofWhole k.toNat_lt).isFinite
    rw [looseWord, loose, Json5.finite, Double.ofDecimal_zero]
    simp only [within, if_true]
    rfl
  exact ⟨read, fun k => congrArg (Option.map some) (read k)⟩

def Member.laid (m : Member) : String × Json × Document :=
  (m.name, m.json, m.document.getD .null)

theorem Member.entries_laid (ms : List Member) :
    entries (some .null) ms = (ms.map laid).map fun f => (f.1, f.2.2) := by
  induction ms with
  | nil => rfl
  | cons m ms ih =>
    cases given : m.document <;> simp [ih, laid, given]

theorem reads_members {ms : List Member} (filled : ms ≠ []) (each : ∀ m ∈ ms, FieldReads n (depth + 1) m.laid) :
    Reads (n + 1) (Json.laidOut depth (.object (ms.map Member.field))) (.table (Member.entries (some .null) ms)) := by
  have json : ms.map Member.field = (ms.map Member.laid).map fun f => (f.1, f.2.1) := by
    simp [Member.field, Member.laid]
  rw [json, Member.entries_laid]
  exact Json5.reads_object (by simpa using filled) (by simpa using each)

theorem refuses_members {ms : List Member} {m : Member} {k : Nat} (there : ms[k]? = some m)
    (before : ∀ m ∈ ms.take k, FieldReads n (depth + 1) m.laid) (plain : m.name.toList.any isSeparator = false)
    (refuses : Refuses n (Json.laidOut (depth + 1) m.json)) :
    Refuses (n + 1) (Json.laidOut depth (.object (ms.map Member.field))) := by
  have json : ms.map Member.field = (ms.map Member.laid).map fun f => (f.1, f.2.1) := by
    simp [Member.field, Member.laid]
  have place : (ms.map Member.laid)[k]? = some m.laid := by simp [there]
  rw [json]
  exact Json5.refuses_object place (by simpa [← List.map_take] using before) (by simpa [Member.laid] using plain) refuses

theorem isSeparator_of_small {s : String} (small : ∀ c ∈ s.toList, c.toNat < 256) :
    ∀ c ∈ s.toList, isSeparator c = false := by
  intro c inside
  have range := small c inside
  simp [isSeparator, ← Char.toNat_inj]
  omega

variable {name : String}

theorem reads_word (k : UInt64) : Reads (n + 1) (Json.laidOut depth (Config.wordJson k)) (looseWord k) := by
  have digits : Json.laidOut depth (Config.wordJson k) = Nat.toDigits 10 k.toNat := Json.Reading.intText_ofNat k.toNat
  rw [digits]
  exact Json5.reads_count k.toNat

theorem reads_member (plain : name.toList.any isSeparator = false) {json : Json} {document : Option Document}
    (reads : Reads n (Json.laidOut depth json) (document.getD .null)) :
    FieldReads n depth (Member.laid ⟨name, json, document⟩) :=
  ⟨by simpa [Member.laid] using plain, reads⟩

theorem reads_member_duration (plain : name.toList.any isSeparator = false) (d : Duration) :
    FieldReads (n + 1) depth (Member.duration name d).laid :=
  reads_member plain (Json5.reads_string (isSeparator_of_small d.render_small))

theorem reads_member_word (plain : name.toList.any isSeparator = false) (k : UInt64) :
    FieldReads (n + 1) depth (Member.word looseWord name k).laid :=
  reads_member plain (reads_word k)

theorem reads_member_optionalWord (plain : name.toList.any isSeparator = false) (k : Option UInt64) :
    FieldReads (n + 1) depth (Member.optionalWord looseWord name k).laid := by
  refine reads_member plain ?_
  cases k with
  | none => exact Json5.reads_null
  | some k => exact reads_word k

theorem EvaluatorConfig.reads_laidOut (c : EvaluatorConfig) :
    Reads (n + 2) (Json.laidOut depth c.toJson) (.table (Member.entries (some .null) (c.members looseWord))) := by
  have each : ∀ m ∈ c.members looseWord, FieldReads (n + 1) (depth + 1) m.laid := by
    simp only [members, List.forall_mem_cons]
    exact ⟨reads_member_duration (by decide) _, reads_member_word (by decide) _, List.forall_mem_nil _⟩
  have json : c.toJson = .object ((c.members looseWord).map Member.field) := rfl
  rw [json]
  exact reads_members (List.cons_ne_nil _ _) each

theorem WorkerLimits.reads_laidOut (l : WorkerLimits) :
    Reads (n + 2) (Json.laidOut depth l.toJson) (.table (Member.entries (some .null) (l.members looseWord))) := by
  have each : ∀ m ∈ l.members looseWord, FieldReads (n + 1) (depth + 1) m.laid := by
    simp only [members, List.forall_mem_cons]
    exact ⟨reads_member_duration (by decide) _, reads_member_word (by decide) _, reads_member_word (by decide) _,
      reads_member_word (by decide) _, reads_member_word (by decide) _, reads_member_word (by decide) _,
      reads_member_optionalWord (by decide) _, List.forall_mem_nil _⟩
  have json : l.toJson = .object ((l.members looseWord).map Member.field) := rfl
  rw [json]
  exact reads_members (List.cons_ne_nil _ _) each

def SandboxConfig.IsBroken (c : SandboxConfig) : Prop :=
  ∃ path, c.workerPath = some path ∧ ('\u2028' ∈ path.toList ∨ '\u2029' ∈ path.toList)

theorem isSeparator_iff (path : String) :
    (∃ c ∈ path.toList, isSeparator c) ↔ '\u2028' ∈ path.toList ∨ '\u2029' ∈ path.toList := by
  simp [isSeparator, and_or_left, exists_or]

theorem SandboxConfig.reads_laidOut {c : SandboxConfig} (whole : ¬ c.IsBroken) :
    Reads (n + 3) (Json.laidOut depth c.toJson)
      (.table (Member.entries (some .null) (c.members looseWord (some .null)))) := by
  have path : Reads (n + 2) (Json.laidOut (depth + 1) ((c.workerPath.map Json.string).getD .null))
      ((c.workerPath.map Document.string).getD .null) := by
    cases there : c.workerPath with
    | none => exact Json5.reads_null
    | some path =>
      refine Json5.reads_string fun d inside => Bool.eq_false_iff.mpr fun broken => whole ⟨path, there, ?_⟩
      exact (isSeparator_iff path).mp ⟨d, inside, broken⟩
  have each : ∀ m ∈ c.members looseWord (some .null), FieldReads (n + 2) (depth + 1) m.laid := by
    simp only [members, ownMembers, List.cons_append, List.nil_append, List.forall_mem_cons]
    exact ⟨reads_member (by decide) path, reads_member_duration (by decide) _, reads_member_word (by decide) _,
      reads_member_word (by decide) _, reads_member (by decide) c.worker.reads_laidOut, List.forall_mem_nil _⟩
  have json : c.toJson = .object ((c.members looseWord (some .null)).map Member.field) := rfl
  rw [json]
  exact reads_members (List.cons_ne_nil _ _) each

theorem SandboxConfig.refuses_laidOut {c : SandboxConfig} (broken : c.IsBroken) :
    Refuses (n + 1) (Json.laidOut depth c.toJson) := by
  obtain ⟨path, there, separator⟩ := broken
  have refuses : Refuses n (Json.laidOut (depth + 1) ((c.workerPath.map Json.string).getD .null)) := by
    rw [there]
    exact Json5.refuses_string ((isSeparator_iff path).mpr separator)
  have json : c.toJson = .object ((c.members looseWord (some .null)).map Member.field) := rfl
  have first : (c.members looseWord (some .null))[0]? = some (.optionalText "worker_path" c.workerPath) := rfl
  rw [json]
  exact refuses_members first (List.forall_mem_nil _) (show "worker_path".toList.any isSeparator = false by decide) refuses

theorem Config.reads_laidOut {c : Config} (whole : ¬ c.sandbox.IsBroken) :
    Reads (n + 4) (Json.laidOut depth c.toJson)
      (.table (Member.entries (some .null) (c.members looseWord (some .null)))) := by
  have each : ∀ m ∈ c.members looseWord (some .null), FieldReads (n + 3) (depth + 1) m.laid := by
    simp only [members, List.forall_mem_cons]
    exact ⟨reads_member (by decide) c.evaluator.reads_laidOut,
      reads_member (by decide) (SandboxConfig.reads_laidOut whole), List.forall_mem_nil _⟩
  have json : c.toJson = .object ((c.members looseWord (some .null)).map Member.field) := rfl
  rw [json]
  exact reads_members (List.cons_ne_nil _ _) each

theorem Config.refuses_laidOut {c : Config} (broken : c.sandbox.IsBroken) :
    Refuses (n + 3) (Json.laidOut depth c.toJson) := by
  have before : ∀ m ∈ (c.members looseWord (some .null)).take 1, FieldReads (n + 2) (depth + 1) m.laid := by
    simp only [members, List.take_succ_cons, List.take_zero, List.forall_mem_cons]
    exact ⟨reads_member (by decide) c.evaluator.reads_laidOut, List.forall_mem_nil _⟩
  have json : c.toJson = .object ((c.members looseWord (some .null)).map Member.field) := rfl
  have second : (c.members looseWord (some .null))[1]? = some (.record "sandbox" (some .null) c.sandbox.toJson _) := rfl
  rw [json]
  exact refuses_members second before (show "sandbox".toList.any isSeparator = false by decide)
    (SandboxConfig.refuses_laidOut broken)

theorem Config.length_laidOut (c : Config) : ∃ n, (Json.laidOut 0 c.toJson).length + 1 = n + 4 := by
  have long : 3 ≤ (Json.laidOut 0 c.toJson).length := by
    simp [toJson, Json.laidOut, Json.laidOutFields, Json.block, Json.indent]
  exact ⟨(Json.laidOut 0 c.toJson).length - 3, by omega⟩

theorem Config.ofJson5?_laidOut {c : Config} (whole : ¬ c.sandbox.IsBroken) :
    Config.ofJson5? c.toJson.renderLaidOut = some (c.mapCounts Double.nearest) := by
  obtain ⟨n, long⟩ := c.length_laidOut
  have document : Json5.read? c.toJson.renderLaidOut = _ := Json5.read?_of_reads long (Config.reads_laidOut whole)
  rw [ofJson5?, document]
  exact Config.ofDocument?_entries counts_loose (.inr rfl) c

theorem Config.ofJson5?_broken {c : Config} (broken : c.sandbox.IsBroken) :
    Config.ofJson5? c.toJson.renderLaidOut = none := by
  obtain ⟨n, long⟩ := c.length_laidOut
  have refused : Json5.read? c.toJson.renderLaidOut = none :=
    Json5.read?_of_refuses long (Config.refuses_laidOut broken)
  rw [ofJson5?, refused]
  rfl

end LaidOut

section Tables

open Toml

variable {n : Nat} {inner inner' : Fields} {ms : List Member} {name : String} {fields : List (String × Json)}

structure Member.Flat (ms : List Member) : Prop where
  bare : ∀ name ∈ ms.map Member.name, IsBare name
  distinct : (ms.map Member.name).Nodup
  plain : ∀ m ∈ ms, Plain m.json m.document

def wholeWord (k : UInt64) : Document :=
  .int k.toNat

theorem counts_whole : Counts wholeWord id := by
  have read (k : UInt64) : word? (wholeWord k) = some k := by
    have low : (0 : Int) ≤ k.toNat := Int.natCast_nonneg _
    have high : (k.toNat : Int) < 0x1_0000_0000_0000_0000 := Int.ofNat_lt.mpr k.toNat_lt
    have same : k.toNat.toUInt64 = k := UInt64.ofNat_toNat
    rw [wholeWord, word?, decide_eq_true low, decide_eq_true high, Int.toNat_natCast, same]
    rfl
  have given (k : UInt64) : Document.optional word? (wholeWord k) = (word? (wholeWord k)).map some := rfl
  exact ⟨read, fun k => by rw [given, read]; rfl⟩

def values (entries : List (String × Document)) : Fields :=
  entries.map fun e => (e.1, .value e.2)

theorem toEntries_values (entries : List (String × Document)) (later : Fields) :
    toEntries (values entries ++ later) = entries ++ toEntries later := by
  induction entries with
  | nil => rfl
  | cons e entries ih => simpa [values, toEntries, Node.toDocument] using ih

theorem get?_values {stated : List (String × Document)} (new : name ∉ stated.map (·.1)) :
    get? name (values stated) = none := by
  rw [get?, Option.map_eq_none_iff, List.find?_eq_none]
  rintro entry inside same
  obtain ⟨e, there, rfl⟩ := List.mem_map.mp inside
  exact new (List.mem_map.mpr ⟨e, there, by simpa using same⟩)

theorem Member.name_mem_of_entry (inside : name ∈ (entries none ms).map (·.1)) : name ∈ ms.map Member.name := by
  obtain ⟨e, there, rfl⟩ := List.mem_map.mp inside
  obtain ⟨m, member, same⟩ := List.mem_filterMap.mp there
  cases given : m.document <;> simp [given] at same
  subst same
  exact List.mem_map_of_mem member

theorem lines_members {stated : List (String × Document)} (bare : ∀ name ∈ ms.map Member.name, IsBare name)
    (plain : ∀ m ∈ ms, Plain m.json m.document) (distinct : (stated.map (·.1) ++ ms.map Member.name).Nodup)
    (more : Lines (values (stated ++ Member.entries none ms)) fields inner') :
    Lines (values stated) (ms.map Member.field ++ fields) inner' := by
  induction ms generalizing stated with
  | nil => simpa using more
  | cons m ms ih =>
    obtain ⟨first, later⟩ := List.forall_mem_cons.mp plain
    obtain ⟨bare, bareLater⟩ := List.forall_mem_cons.mp bare
    have apart : m.name ∉ stated.map (·.1) := by
      intro inside
      exact (List.nodup_append.mp distinct).2.2 _ inside _ List.mem_cons_self rfl
    cases given : m.document with
    | none =>
      rw [given] at first
      have distinct' : (stated.map (·.1) ++ ms.map Member.name).Nodup :=
        distinct.sublist ((List.sublist_cons_self _ _).append_left _)
      exact .passed first (ih bareLater later distinct' (by simpa [given] using more))
    | some d =>
      rw [given] at first
      refine .stated bare (get?_values apart) first ?_
      have step : values stated ++ [(m.name, .value d)] = values (stated ++ [(m.name, d)]) := by simp [values]
      rw [step]
      exact ih bareLater later (by simpa using distinct) (by simpa [given] using more)

theorem sections_members (plain : ∀ m ∈ ms, Plain m.json m.document) (more : Sections n inner fields inner') :
    Sections n inner (ms.map Member.field ++ fields) inner' := by
  induction ms with
  | nil => exact more
  | cons m ms ih =>
    obtain ⟨first, later⟩ := List.forall_mem_cons.mp plain
    exact .passed first.ne_object (ih later)

theorem sections_record (bare : IsBare name) (new : get? name inner = none) (flat : Member.Flat ms)
    (more : Sections (n + 1) (inner ++ [(name, .table .stated (values (Member.entries none ms)))]) fields inner') :
    Sections (n + 1) inner ((name, .object (ms.map Member.field)) :: fields) inner' := by
  have lines : Lines (values []) (ms.map Member.field ++ []) (values (Member.entries none ms)) :=
    lines_members flat.bare flat.plain flat.distinct (.done _)
  have tables : Sections n (values (Member.entries none ms)) (ms.map Member.field ++ []) _ :=
    sections_members flat.plain (.done n _)
  rw [List.append_nil] at lines tables
  exact .opened bare new lines tables more

theorem plain_optionalWord (k : Option UInt64) : Plain ((k.map Config.wordJson).getD .null) (k.map wholeWord) := by
  cases k with
  | none => exact .absent
  | some k => exact .count k.toNat

theorem plain_optionalText (s : Option String) : Plain ((s.map Json.string).getD .null) (s.map .string) := by
  cases s with
  | none => exact .absent
  | some s => exact .string s

theorem EvaluatorConfig.flat (c : EvaluatorConfig) : Member.Flat (c.members wholeWord) := by
  have names : (c.members wholeWord).map Member.name = ["timeout", "memory_limit_bytes"] := rfl
  refine ⟨by rw [names]; decide, by rw [names]; decide, ?_⟩
  simp only [members, List.forall_mem_cons]
  exact ⟨.string _, .count _, List.forall_mem_nil _⟩

theorem WorkerLimits.flat (l : WorkerLimits) : Member.Flat (l.members wholeWord) := by
  have names : (l.members wholeWord).map Member.name = ["timeout", "max_request_bytes", "max_code_bytes",
      "max_result_bytes", "heap_limit_bytes", "cpu_limit_secs", "memory_limit_bytes"] := rfl
  refine ⟨by rw [names]; decide, by rw [names]; decide, ?_⟩
  simp only [members, List.forall_mem_cons]
  exact ⟨.string _, .count _, .count _, .count _, .count _, .count _, plain_optionalWord _, List.forall_mem_nil _⟩

theorem SandboxConfig.flat (c : SandboxConfig) : Member.Flat (c.ownMembers wholeWord) := by
  have names : (c.ownMembers wholeWord).map Member.name =
      ["worker_path", "timeout", "max_stdout_bytes", "max_stderr_bytes"] := rfl
  refine ⟨by rw [names]; decide, by rw [names]; decide, ?_⟩
  simp only [ownMembers, List.forall_mem_cons]
  exact ⟨plain_optionalText _, .string _, .count _, .count _, List.forall_mem_nil _⟩

def Config.tables (c : Config) : Fields :=
  [("evaluator", .table .stated (values (Member.entries none (c.evaluator.members wholeWord)))),
    ("sandbox", .table .stated (values (Member.entries none (c.sandbox.ownMembers wholeWord)) ++
      [("worker", .table .stated (values (Member.entries none (c.sandbox.worker.members wholeWord))))]))]

theorem Config.sections (c : Config) :
    Sections 2 [] [("evaluator", c.evaluator.toJson), ("sandbox", c.sandbox.toJson)] c.tables := by
  have worker : get? "worker" (values (Member.entries none (c.sandbox.ownMembers wholeWord))) = none := by
    refine get?_values fun inside => ?_
    have name : "worker" ∈ ["worker_path", "timeout", "max_stdout_bytes", "max_stderr_bytes"] :=
      Member.name_mem_of_entry inside
    exact absurd name (by decide)
  have limits : Sections 1 _ (("worker", c.sandbox.worker.toJson) :: []) _ :=
    sections_record (by decide) worker c.sandbox.worker.flat (.done 1 _)
  have lines : Lines (values []) ((c.sandbox.ownMembers wholeWord).map Member.field ++ [("worker", c.sandbox.worker.toJson)])
      (values (Member.entries none (c.sandbox.ownMembers wholeWord))) :=
    lines_members c.sandbox.flat.bare c.sandbox.flat.plain c.sandbox.flat.distinct (.table (.done _))
  have sandbox : Sections 2 [("evaluator", _)] (("sandbox", c.sandbox.toJson) :: []) c.tables :=
    .opened (by decide) rfl lines (sections_members c.sandbox.flat.plain limits) (.done 2 _)
  have evaluator : Sections 2 [] (("evaluator", c.evaluator.toJson) :: _) c.tables :=
    sections_record (by decide) rfl c.evaluator.flat sandbox
  exact evaluator

theorem Config.toEntries_tables (c : Config) : toEntries c.tables = Member.entries none (c.members wholeWord none) := by
  have flat (es : List (String × Document)) : toEntries (values es) = es := by
    simpa [toEntries] using toEntries_values es []
  simp [tables, members, toEntries, Node.toDocument, flat, toEntries_values, Member.record, SandboxConfig.members,
    Member.entries_append]

theorem render_of_toToml {c : Config} {text : String} (written : c.toToml = .ok text) :
    Toml.render c.toJson = .ok text := by
  rw [Config.toToml] at written
  -- The writer itself stays closed: unfolded, it compares counts with bounds of 64 bits.
  generalize Toml.render c.toJson = rendered at written ⊢
  cases rendered with
  | ok t => exact congrArg _ (Except.ok.inj written)
  | error e => cases written

theorem Config.ofToml?_toToml {c : Config} {text : String} (written : c.toToml = .ok text) : ofToml? text = some c := by
  have rendered := render_of_toToml written
  have read : Toml.read? text = _ := read?_render c.sections (by decide) rendered
  have same : Config.ofDocument? (.table (Member.entries none (c.members wholeWord none))) = some (c.mapCounts id) :=
    Config.ofDocument?_entries counts_whole (.inl rfl) c
  rw [c.mapCounts_id] at same
  rw [ofToml?, read, c.toEntries_tables]
  exact same

end Tables

end BoundedScript
