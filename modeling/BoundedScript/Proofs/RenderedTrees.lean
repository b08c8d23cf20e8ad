import BoundedScript.Proofs.Rendering
import Mathlib.Data.List.Forall2

set_option autoImplicit false

namespace BoundedScript.Json

def children : Json → List Json
  | .array items => items
  | .object fields => fields.map Prod.snd
  | .null | .bool _ | .int _ | .float _ | .string _ => []

def at? (v : Json) : List Nat → Option Json
  | [] => some v
  | i :: path => v.children[i]?.bind (·.at? path)

-- A value without what is below it: of an array the length is left, of an object its names.
inductive Node where
  | null
  | bool (b : Bool)
  | int (n : Int)
  | float (x : Float)
  | string (s : String)
  | array (length : Nat)
  | object (names : List String)

def node : Json → Node
  | .null => .null
  | .bool b => .bool b
  | .int n => .int n
  | .float x => .float x
  | .string s => .string s
  | .array items => .array items.length
  | .object fields => .object (fields.map Prod.fst)

end BoundedScript.Json

namespace BoundedScript.Template

mutual

-- The strings of a value, depth first; field names are not among them.
def strings : Json → List String
  | .string s => [s]
  | .array items => itemStrings items
  | .object fields => fieldStrings fields
  | .null | .bool _ | .int _ | .float _ => []

def itemStrings : List Json → List String
  | [] => []
  | v :: rest => strings v ++ itemStrings rest

def fieldStrings : List (String × Json) → List String
  | [] => []
  | (_, v) :: rest => strings v ++ fieldStrings rest

end

inductive Becomes (answers : Substitution) : Json.Node → Json.Node → Prop where
  | text {s : String} {t : Filled} (given : fillText answers s = .ok t) :
      Becomes answers (.string s) (.string t.text)
  | same {n : Json.Node} (other : ∀ s, n ≠ .string s) : Becomes answers n n

section

variable (answers : Substitution)

def textFailure? (s : String) : Option Fault :=
  match fillText answers s with
  | .ok _ => none
  | .error f => some f

theorem textFailure?_eq_some_iff (s : String) (f : Fault) :
    textFailure? answers s = some f ↔ fillText answers s = .error f := by
  rw [textFailure?]
  cases fillText answers s <;> simp

theorem textFailure?_eq_none_iff (s : String) :
    textFailure? answers s = none ↔ ∃ t, fillText answers s = .ok t := by
  rw [textFailure?]
  cases fillText answers s <;> simp

theorem fill_string (s : String) :
    fill answers (.string s) = (fillText answers s).map fun t => .string t.text := by
  rw [fill, fillBy, fillText]
  cases fillTextBy (m := Id) answers s <;> rfl

theorem fill_array (items : List Json) :
    fill answers (.array items) = (fillItems (m := Id) answers items).run.map .array := by
  rw [fill, fillBy]
  cases fillItems (m := Id) answers items <;> rfl

theorem fill_object (fields : List (String × Json)) :
    fill answers (.object fields) = (fillFields (m := Id) answers fields).run.map .object := by
  rw [fill, fillBy]
  cases fillFields (m := Id) answers fields <;> rfl

theorem fillItems_cons (v : Json) (rest : List Json) :
    (fillItems (m := Id) answers (v :: rest)).run =
      (fill answers v).bind fun w => (fillItems (m := Id) answers rest).run.map (w :: ·) := by
  rw [fillItems, fill]
  cases fillBy (m := Id) answers v with
  | error f => rfl
  | ok w => cases fillItems (m := Id) answers rest <;> rfl

theorem fillFields_cons (k : String) (v : Json) (rest : List (String × Json)) :
    (fillFields (m := Id) answers ((k, v) :: rest)).run =
      (fill answers v).bind fun w => (fillFields (m := Id) answers rest).run.map ((k, w) :: ·) := by
  rw [fillFields, fill]
  cases fillBy (m := Id) answers v with
  | error f => rfl
  | ok w => cases fillFields (m := Id) answers rest <;> rfl

theorem ok_of_map {α β : Type} {x : Except Fault α} {g : α → β} {b : β} (given : x.map g = .ok b) :
    ∃ a, x = .ok a ∧ g a = b := by
  cases x with
  | error f => cases given
  | ok a => exact ⟨a, rfl, Except.ok.inj given⟩

theorem ok_of_bind_map {α β γ : Type} {x : Except Fault α} {y : Except Fault β} {g : α → β → γ} {c : γ}
    (given : (x.bind fun a => y.map (g a)) = .ok c) : ∃ a b, x = .ok a ∧ y = .ok b ∧ g a b = c := by
  cases x with
  | error f => cases given
  | ok a =>
    obtain ⟨b, second, same⟩ := ok_of_map given
    exact ⟨a, b, rfl, second, same⟩

theorem filled_items {items filled : List Json}
    (given : (fillItems (m := Id) answers items).run = .ok filled) :
    List.Forall₂ (fun v w => fill answers v = .ok w) items filled := by
  induction items generalizing filled with
  | nil =>
    obtain rfl : [] = filled := Except.ok.inj given
    exact .nil
  | cons v rest ih =>
    rw [fillItems_cons] at given
    obtain ⟨w, ws, first, others, rfl⟩ := ok_of_bind_map given
    exact .cons first (ih others)

theorem filled_fields {fields filled : List (String × Json)}
    (given : (fillFields (m := Id) answers fields).run = .ok filled) :
    List.Forall₂ (fun a b => a.1 = b.1 ∧ fill answers a.2 = .ok b.2) fields filled := by
  induction fields generalizing filled with
  | nil =>
    obtain rfl : [] = filled := Except.ok.inj given
    exact .nil
  | cons field rest ih =>
    obtain ⟨k, v⟩ := field
    rw [fillFields_cons] at given
    obtain ⟨w, ws, first, others, rfl⟩ := ok_of_bind_map given
    exact .cons ⟨rfl, first⟩ (ih others)

theorem fill_node {v w : Json} (given : fill answers v = .ok w) :
    Becomes answers v.node w.node ∧
      List.Forall₂ (fun a b => fill answers a = .ok b) v.children w.children := by
  cases v with
  | null =>
    obtain rfl : .null = w := Except.ok.inj given
    exact ⟨.same (fun _ other => by cases other), .nil⟩
  | bool b =>
    obtain rfl : .bool b = w := Except.ok.inj given
    exact ⟨.same (fun _ other => by cases other), .nil⟩
  | int n =>
    obtain rfl : .int n = w := Except.ok.inj given
    exact ⟨.same (fun _ other => by cases other), .nil⟩
  | float x =>
    obtain rfl : .float x = w := Except.ok.inj given
    exact ⟨.same (fun _ other => by cases other), .nil⟩
  | string s =>
    rw [fill_string] at given
    obtain ⟨t, text, rfl⟩ := ok_of_map given
    exact ⟨.text text, .nil⟩
  | array items =>
    rw [fill_array] at given
    obtain ⟨ws, ran, rfl⟩ := ok_of_map given
    have below := filled_items answers ran
    refine ⟨?_, below⟩
    rw [Json.node, Json.node, below.length_eq]
    exact .same fun _ other => by cases other
  | object fields =>
    rw [fill_object] at given
    obtain ⟨ws, ran, rfl⟩ := ok_of_map given
    have below := filled_fields answers ran
    have names : fields.map Prod.fst = ws.map Prod.fst :=
      List.forall₂_eq_eq_eq ▸ List.rel_map (fun _ _ same => same.1) below
    refine ⟨?_, List.rel_map (fun _ _ same => same.2) below⟩
    rw [Json.node, Json.node, names]
    exact .same fun _ other => by cases other

theorem fill_nodes (path : List Nat) {v w : Json} (given : fill answers v = .ok w) :
    Option.Rel (Becomes answers) ((v.at? path).map Json.node) ((w.at? path).map Json.node) := by
  induction path generalizing v w with
  | nil => exact .some (fill_node answers given).1
  | cons i path ih =>
    have below := (List.forall₂_iff_get.1 (fill_node answers given).2)
    rw [Json.at?, Json.at?]
    by_cases inside : i < v.children.length
    · have there : i < w.children.length := below.1 ▸ inside
      rw [List.getElem?_eq_getElem inside, List.getElem?_eq_getElem there]
      exact ih (below.2 i inside there)
    · have outside : w.children.length ≤ i := below.1 ▸ Nat.le_of_not_lt inside
      rw [List.getElem?_eq_none (Nat.le_of_not_lt inside), List.getElem?_eq_none outside]
      exact .none

theorem bind_map_failure {α β γ : Type} {x : Except Fault α} {y : Except Fault β} {first second : Option Fault}
    (front : ∀ f, x = .error f ↔ first = some f) (back : ∀ f, y = .error f ↔ second = some f)
    (g : α → β → γ) (f : Fault) :
    (x.bind fun a => y.map (g a)) = .error f ↔ first.or second = some f := by
  cases x with
  | error cause =>
    have failed : first = some cause := (front cause).1 rfl
    simp [failed, Except.bind]
  | ok a =>
    have passed : first = none := by
      rw [Option.eq_none_iff_forall_ne_some]
      intro cause failed
      exact nomatch (front cause).2 failed
    rw [passed, Option.none_or, ← back f]
    cases y <;> simp [Except.bind, Except.map]

theorem map_failure {α β : Type} (x : Except Fault α) (g : α → β) (f : Fault) :
    x.map g = .error f ↔ x = .error f := by
  cases x <;> simp [Except.map]

mutual

theorem fill_failure (v : Json) (f : Fault) :
    fill answers v = .error f ↔ (strings v).findSome? (textFailure? answers) = some f := by
  cases v with
  | null | bool _ | int _ | float _ => exact ⟨nofun, nofun⟩
  | string s =>
    rw [fill_string, map_failure, strings, List.findSome?_singleton, textFailure?_eq_some_iff]
  | array items => rw [fill_array, map_failure, strings, fillItems_failure items f]
  | object fields => rw [fill_object, map_failure, strings, fillFields_failure fields f]

theorem fillItems_failure (items : List Json) (f : Fault) :
    (fillItems (m := Id) answers items).run = .error f ↔
      (itemStrings items).findSome? (textFailure? answers) = some f := by
  cases items with
  | nil => exact ⟨nofun, nofun⟩
  | cons v rest =>
    rw [fillItems_cons, itemStrings, List.findSome?_append]
    exact bind_map_failure (fill_failure v) (fillItems_failure rest) List.cons f

theorem fillFields_failure (fields : List (String × Json)) (f : Fault) :
    (fillFields (m := Id) answers fields).run = .error f ↔
      (fieldStrings fields).findSome? (textFailure? answers) = some f := by
  cases fields with
  | nil => exact ⟨nofun, nofun⟩
  | cons field rest =>
    obtain ⟨k, v⟩ := field
    rw [fillFields_cons, fieldStrings, List.findSome?_append]
    exact bind_map_failure (fill_failure v) (fillFields_failure rest) (fun w ws => (k, w) :: ws) f

end

theorem asked_append_answered {es : List String} (answered : ∀ e ∈ es, ∃ t, answers e = .ok t)
    (ds : List String) : asked answers (es ++ ds) = es ++ asked answers ds := by
  induction es with
  | nil => rfl
  | cons e es ih =>
    obtain ⟨t, given⟩ := answered e List.mem_cons_self
    rw [List.cons_append, asked_answered answers given, ih fun d inside => answered d (List.mem_cons_of_mem e inside),
      List.cons_append]

theorem asked_of_answered {es : List String} (answered : ∀ e ∈ es, ∃ t, answers e = .ok t) :
    asked answers es = es := by
  have all := asked_append_answered answers answered []
  rw [List.append_nil] at all
  exact all.trans (List.append_nil es)

theorem asked_append_unanswered {es : List String} (unanswered : ∃ e ∈ es, ∃ f, answers e = .error f)
    (ds : List String) : asked answers (es ++ ds) = asked answers es := by
  induction es with
  | nil =>
    obtain ⟨e, never, -⟩ := unanswered
    cases never
  | cons e es ih =>
    rw [List.cons_append]
    cases given : answers e with
    | error f => rw [asked_unanswered answers given, asked_unanswered answers given]
    | ok t =>
      rw [asked_answered answers given, asked_answered answers given, ih]
      obtain ⟨d, inside, f, failed⟩ := unanswered
      rcases List.mem_cons.1 inside with rfl | later
      · rw [given] at failed
        cases failed
      · exact ⟨d, later, f, failed⟩

/-- A filling that comes to what one without a record comes to, asks for `es` up to the first that has no
answer, and comes to a value when all of them have one. -/
structure Asks {α : Type} (x : ExceptT Fault (StateM (List String)) α) (r : ExceptT Fault Id α)
    (es : List String) : Prop where
  runs : ∀ before, x.run before = (r.run, before ++ asked answers es)
  answered : ∀ a, r.run = .ok a → ∀ e ∈ es, ∃ t, answers e = .ok t
  unanswered : ∀ f, r.run = .error f → ∃ e ∈ es, ∃ cause, answers e = .error cause

section

variable {answers} {α β : Type}

theorem Asks.pure (a : α) : Asks answers (Pure.pure a) (Pure.pure a) [] where
  runs := fun before => congrArg (Prod.mk _) (List.append_nil before).symm
  answered := nofun
  unanswered := nofun

theorem Asks.bind {x : ExceptT Fault (StateM (List String)) α} {r : ExceptT Fault Id α}
    {g : α → ExceptT Fault (StateM (List String)) β} {h : α → ExceptT Fault Id β} {es ds : List String}
    (front : Asks answers x r es) (back : ∀ a, Asks answers (g a) (h a) ds) :
    Asks answers (x >>= g) (r >>= h) (es ++ ds) := by
  cases ran : r.run with
  | error f =>
    have failed : (r >>= h).run = .error f := congrArg (ExceptT.bindCont h) ran
    have known := front.unanswered f ran
    refine ⟨?_, ?_, ?_⟩
    · intro before
      rw [run_bind_eq, front.runs, ran, failed, asked_append_unanswered answers known]
    · intro b given
      rw [failed] at given
      cases given
    · intro cause _
      obtain ⟨e, inside, met⟩ := known
      exact ⟨e, List.mem_append_left ds inside, met⟩
  | ok a =>
    have passed : (r >>= h).run = (h a).run := congrArg (ExceptT.bindCont h) ran
    have known := front.answered a ran
    refine ⟨?_, ?_, ?_⟩
    · intro before
      rw [run_bind_eq, front.runs, ran, passed, asked_of_answered answers known,
        asked_append_answered answers known, ← List.append_assoc]
      exact (back a).runs (before ++ es)
    · intro b given e inside
      rw [passed] at given
      exact (List.mem_append.1 inside).elim (known e) ((back a).answered b given e)
    · intro f given
      rw [passed] at given
      obtain ⟨e, inside, met⟩ := (back a).unanswered f given
      exact ⟨e, List.mem_append_right es inside, met⟩

theorem Asks.map {x : ExceptT Fault (StateM (List String)) α} {r : ExceptT Fault Id α} {es : List String}
    (front : Asks answers x r es) (g : α → β) :
    Asks answers (x >>= fun a => Pure.pure (g a)) (r >>= fun a => Pure.pure (g a)) es := by
  have all := front.bind (h := fun a => Pure.pure (g a)) fun a => .pure (g a)
  rwa [List.append_nil] at all

end

theorem ask_asks (e : String) :
    Asks answers (ExceptT.adapt (.template e) (recorded answers e))
      (ExceptT.adapt (m := Id) (.template e) (answers e)) [e] := by
  cases given : answers e with
  | error f =>
    refine ⟨?_, fun _ ran => (by cases ran), fun _ _ => ⟨e, List.mem_cons_self, f, given⟩⟩
    intro before
    rw [recorded, given, asked_unanswered answers given]
    rfl
  | ok t =>
    refine ⟨?_, fun _ _ d inside => ⟨t, List.mem_singleton.1 inside ▸ given⟩, fun _ ran => by cases ran⟩
    intro before
    rw [recorded, given, asked_answered answers given]
    rfl

theorem fillSegments_asks (parts : List Segment) :
    Asks answers (fillSegments (recorded answers) parts) (fillSegments (m := Id) answers parts)
      (expressions parts) := by
  induction parts with
  | nil => exact .pure []
  | cons part rest ih =>
    cases part with
    | literal c => exact ih.map (c :: ·)
    | placeholder e => exact (ask_asks answers e).bind fun text => ih.map (text.toList ++ ·)

theorem fillText_asks (s : String) :
    Asks answers (fillTextBy (recorded answers) s) (fillTextBy (m := Id) answers s)
      (expressions (segments s.toList)) := by
  rw [fillTextBy_eq, fillTextBy_eq]
  split
  next empty =>
    rw [empty]
    exact .pure _
  next => exact (fillSegments_asks answers _).map fun cs => Filled.mk (String.ofList cs) false

mutual

theorem fillBy_asks (v : Json) :
    Asks answers (fillBy (recorded answers) v) (fillBy (m := Id) answers v) (placeholders v) := by
  cases v with
  | null => exact .pure _
  | bool b => exact .pure _
  | int n => exact .pure _
  | float x => exact .pure _
  | string s => exact (fillText_asks answers s).map fun t => Json.string t.text
  | array items => exact (fillItems_asks items).map Json.array
  | object fields => exact (fillFields_asks fields).map Json.object

theorem fillItems_asks (items : List Json) :
    Asks answers (fillItems (recorded answers) items) (fillItems (m := Id) answers items)
      (itemPlaceholders items) := by
  cases items with
  | nil => exact .pure []
  | cons v rest => exact (fillBy_asks v).bind fun w => (fillItems_asks rest).map (w :: ·)

theorem fillFields_asks (fields : List (String × Json)) :
    Asks answers (fillFields (recorded answers) fields) (fillFields (m := Id) answers fields)
      (fieldPlaceholders fields) := by
  cases fields with
  | nil => exact .pure []
  | cons field rest =>
    obtain ⟨k, v⟩ := field
    exact (fillBy_asks v).bind fun w => (fillFields_asks rest).map ((k, w) :: ·)

end

mutual

theorem fill_untouched (v : Json) (empty : placeholders v = []) : fill answers v = .ok v := by
  cases v with
  | null | bool _ | int _ | float _ => rfl
  | string s =>
    have same := (segments_reads s.toList).untouched answers empty
    rw [placeholders] at empty
    rw [fill_string, fillText_eq, outcome, empty, same]
    simp [Except.map]
  | array items => rw [fill_array, fillItems_untouched items empty, Except.map]
  | object fields => rw [fill_object, fillFields_untouched fields empty, Except.map]

theorem fillItems_untouched (items : List Json) (empty : itemPlaceholders items = []) :
    (fillItems (m := Id) answers items).run = .ok items := by
  cases items with
  | nil => rfl
  | cons v rest =>
    obtain ⟨first, others⟩ := List.append_eq_nil_iff.1 empty
    rw [fillItems_cons, fill_untouched v first, Except.bind, fillItems_untouched rest others, Except.map]

theorem fillFields_untouched (fields : List (String × Json)) (empty : fieldPlaceholders fields = []) :
    (fillFields (m := Id) answers fields).run = .ok fields := by
  cases fields with
  | nil => rfl
  | cons field rest =>
    obtain ⟨k, v⟩ := field
    obtain ⟨first, others⟩ := List.append_eq_nil_iff.1 empty
    rw [fillFields_cons, fill_untouched v first, Except.bind, fillFields_untouched rest others, Except.map]

end

end

/-- Filling a value changes its strings alone, and all of them or none. At every place the filled value has
the node of the given one, a string the text that it is filled to. It fails exactly when one of the strings
does, as the first of them, and nothing behind the expression that has no answer is asked for. A value
without placeholders is handed back. -/
theorem fill_tree (evaluate : String → Evaluator.Bindings → Except Fault Primitive)
    (bindings : Evaluator.Bindings) (v : Json) :
    let answers := Evaluator.textsBy evaluate bindings
    (∀ w, fill answers v = .ok w → ∀ path,
        Option.Rel (Becomes answers) ((v.at? path).map Json.node) ((w.at? path).map Json.node)) ∧
      (∀ f, fill answers v = .error f ↔
        ∃ before s after, strings v = before ++ s :: after ∧ fillText answers s = .error f ∧
          ∀ t ∈ before, ∃ text, fillText answers t = .ok text) ∧
      (fillBy (recorded answers) v).run [] = (fill answers v, asked answers (placeholders v)) ∧
      (placeholders v = [] → fill answers v = .ok v) := by
  intro answers
  refine ⟨fun w given path => fill_nodes answers path given, ?_, (fillBy_asks answers v).runs [],
    fill_untouched answers v⟩
  intro f
  simp only [fill_failure, List.findSome?_eq_some_iff, textFailure?_eq_some_iff, textFailure?_eq_none_iff]

end BoundedScript.Template
