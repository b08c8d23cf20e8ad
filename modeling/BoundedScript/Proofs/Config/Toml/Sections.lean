import BoundedScript.Config.Toml.Writer
import BoundedScript.Proofs.Config.Toml.Tables

set_option autoImplicit false

namespace BoundedScript.Toml

open Text Text.Scan

section Written

variable {path : List String} {name : String} {v : Json} {own fields : List (String × Json)} {parts : List String}

theorem headerLine_eq (path : List String) (name : String) :
    (headerLine (path ++ [name])).toList = '[' :: (dotted path name ++ [']', '\n']) := by
  have names : (".".intercalate (path ++ [name])).toList = dotted path name := by
    induction path with
    | nil => simp [dotted]
    | cons n path ih =>
      have later : path ++ [name] ≠ [] := by simp
      rw [List.cons_append, String.intercalate_cons_of_ne_nil later]
      simp [ih, dotted]
  simp [headerLine, names]

theorem sectionsOfFields_passed (value : ∀ own, v ≠ .object own) :
    sectionsOfFields path ((name, v) :: fields) = sectionsOfFields path fields := by
  have none : sectionsOf (path ++ [name]) v = .ok [] := by
    cases v with
    | object own => exact absurd rfl (value own)
    | _ => rfl
  rw [sectionsOfFields, none]
  cases sectionsOfFields path fields <;> rfl

theorem sectionsOfFields_opened (ok : sectionsOfFields path ((name, .object own) :: fields) = .ok parts) :
    ∃ lines tables more, valueLines own = .ok lines ∧ sectionsOfFields (path ++ [name]) own = .ok tables ∧
      sectionsOfFields path fields = .ok more ∧
      parts = (headerLine (path ++ [name]) ++ lines) :: (tables ++ more) := by
  rw [sectionsOfFields, sectionsOf] at ok
  obtain ⟨first, opened, ok⟩ := bind_eq_ok_iff.mp ok
  obtain ⟨more, later, ok⟩ := bind_eq_ok_iff.mp ok
  obtain ⟨lines, stated, opened⟩ := bind_eq_ok_iff.mp opened
  obtain ⟨tables, within, opened⟩ := bind_eq_ok_iff.mp opened
  cases opened
  cases ok
  exact ⟨lines, tables, more, stated, within, later, by simp⟩

end Written

section Read

inductive Sections : Nat → Fields → List (String × Json) → Fields → Prop where
  | done (n : Nat) (inner : Fields) : Sections n inner [] inner
  | passed {n : Nat} {inner inner' : Fields} {name : String} {v : Json} {fields : List (String × Json)}
      (value : ∀ own, v ≠ .object own) (more : Sections n inner fields inner') :
      Sections n inner ((name, v) :: fields) inner'
  | opened {n : Nat} {inner held held' inner' : Fields} {name : String} {own fields : List (String × Json)}
      (bare : IsBare name) (new : get? name inner = none) (lines : Lines [] own held) (tables : Sections n held own held')
      (more : Sections (n + 1) (inner ++ [(name, .table .stated held')]) fields inner') :
      Sections (n + 1) inner ((name, .object own) :: fields) inner'

def spaced (parts : List String) : List Char :=
  parts.flatMap fun part => '\n' :: part.toList

variable {way : List (Fields × String)} {n : Nat} {inner inner' : Fields} {fields : List (String × Json)}
  {parts : List String}

theorem Sections.passes (sections : Sections n inner fields inner') (fresh : Fresh way)
    (each : ∀ n ∈ way.map (·.2), IsBare n) (short : way.length + n < maxDepth)
    (written : sectionsOfFields (way.map (·.2)) fields = .ok parts) {s : State} (root : s.root = nested way inner) :
    ∃ s', s'.root = nested way inner' ∧ Passes s (spaced parts) s' := by
  induction sections generalizing way parts s with
  | done n inner =>
    cases written
    exact ⟨s, root, .nil s⟩
  | passed value more ih =>
    rw [sectionsOfFields_passed value] at written
    exact ih fresh each short written root
  | @opened n inner held held' inner' name own fields bare new lines tables more ihTables ihMore =>
    obtain ⟨text, within, behind, stated, opened, later, rfl⟩ := sectionsOfFields_opened written
    have fresh' : Fresh (way ++ [(inner, name)]) := by
      simpa [Fresh, or_imp, forall_and, new] using fresh
    have names : (way ++ [(inner, name)]).map (·.2) = way.map (·.2) ++ [name] := by simp
    have each' : ∀ n ∈ (way ++ [(inner, name)]).map (·.2), IsBare n := by
      simpa [or_imp, forall_and, bare] using each
    have header := Passes.header each bare (by omega) fresh new root
    have values := lines.passes fresh' stated (s := ⟨nested (way ++ [(inner, name)]) [], way.map (·.2) ++ [name]⟩) rfl
      names.symm
    obtain ⟨s₁, root₁, passed₁⟩ := ihTables fresh' each' (by simp; omega) (names ▸ opened)
      (s := ⟨nested (way ++ [(inner, name)]) held, way.map (·.2) ++ [name]⟩) rfl
    rw [nested_append] at root₁
    obtain ⟨s₂, root₂, passed₂⟩ := ihMore fresh each short later root₁
    refine ⟨s₂, root₂, ?_⟩
    have whole := (Passes.blank s).append (header.append (values.append (passed₁.append passed₂)))
    simpa [spaced, headerLine_eq] using whole

theorem head_sections {path : List String} (sections : Sections n inner fields inner')
    (written : sectionsOfFields path fields = .ok parts) : ∀ part ∈ parts, part.toList.head? = some '[' := by
  induction sections generalizing path parts with
  | done n inner =>
    cases written
    exact List.forall_mem_nil _
  | passed value more ih =>
    rw [sectionsOfFields_passed value] at written
    exact ih written
  | opened bare new lines tables more ihTables ihMore =>
    obtain ⟨text, within, behind, stated, opened, later, rfl⟩ := sectionsOfFields_opened written
    simp only [List.forall_mem_cons, List.forall_mem_append]
    exact ⟨by simp [headerLine_eq], ihTables opened, ihMore later⟩

theorem intercalate_cons (part : String) (parts : List String) :
    ("\n".intercalate (part :: parts)).toList = part.toList ++ spaced parts := by
  induction parts generalizing part with
  | nil => simp [spaced]
  | cons next parts ih =>
    rw [String.intercalate_cons_cons]
    simp [ih, spaced]

theorem dropMark_bracket {text : List Char} (head : text.head? = some '[') : dropMark text = text := by
  obtain ⟨rest, rfl⟩ := List.head?_eq_some_iff.mp head
  rfl

theorem render_object {text : String} (written : render (.object fields) = .ok text) :
    ∃ parts, sectionsOfFields [] fields = .ok parts ∧ text = "\n".intercalate parts := by
  rw [render, sectionsOf] at written
  obtain ⟨parts, sections, whole⟩ := bind_eq_ok_iff.mp written
  obtain ⟨lines, -, sections⟩ := bind_eq_ok_iff.mp sections
  obtain ⟨tables, stated, same⟩ := bind_eq_ok_iff.mp sections
  cases same
  exact ⟨tables, stated, (Except.ok.inj whole).symm⟩

theorem statements_end (s : State) (fuel : Nat) : statements s fuel [] = some (s, []) := by
  cases fuel with
  | zero => rfl
  | succ fuel => simp [statements, bind_apply, skipSpaces, comment]

theorem statements_intercalate {s s' : State} (passes : Passes s (spaced parts) s') :
    statements s (("\n".intercalate parts).toList.length + 1) ("\n".intercalate parts).toList = some (s', []) := by
  obtain ⟨left, -, passed⟩ := passes [] ((spaced parts).length + 1) (by simp)
  rw [List.append_nil, statements_end] at passed
  cases parts with
  | nil => exact passed
  | cons part parts =>
    have text : spaced (part :: parts) = '\n' :: ("\n".intercalate (part :: parts)).toList := by
      rw [intercalate_cons]
      rfl
    rw [text, List.length_cons, statements_blank] at passed
    exact passed

theorem document_apply {text : List Char} {s : State} (unmarked : dropMark text = text)
    (read : statements ⟨[], []⟩ (text.length + 1) text = some (s, [])) :
    document text = some (.table (toEntries s.root), []) := by
  simp [document, bind_apply, map_apply, unmarked, read]

theorem read?_render {text : String} (sections : Sections n [] fields inner) (short : n < maxDepth)
    (written : render (.object fields) = .ok text) : read? text = some (.table (toEntries inner)) := by
  obtain ⟨parts, stated, rfl⟩ := render_object written
  obtain ⟨s, root, passes⟩ : ∃ s : State, s.root = nested [] inner ∧ Passes ⟨[], []⟩ (spaced parts) s :=
    sections.passes (List.forall_mem_nil _) (List.forall_mem_nil _) (by simpa using short) stated rfl
  have unmarked : dropMark ("\n".intercalate parts).toList = ("\n".intercalate parts).toList := by
    cases parts with
    | nil => rfl
    | cons part parts =>
      have head := head_sections sections stated part List.mem_cons_self
      rw [intercalate_cons]
      exact dropMark_bracket (by simp [head])
  have same : s.root = inner := root
  have read := document_apply unmarked (statements_intercalate passes)
  rw [same] at read
  exact whole_some read

end Read
end BoundedScript.Toml
