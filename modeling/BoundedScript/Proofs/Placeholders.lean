import BoundedScript.Evaluator

set_option autoImplicit false

namespace BoundedScript.Template

def Opens (cs body after : List Char) : Prop :=
  cs = '\x7b' :: '\x7b' :: (body ++ '\x7d' :: '\x7d' :: after) ∧ body ≠ [] ∧ '\x7d' ∉ body

/-- A text read from left to right, at each place a placeholder if one opens there, else one character. -/
inductive Reads : List Char → List Segment → Prop where
  | done : Reads [] []
  | placeholder {cs body after : List Char} {parts : List Segment} (opens : Opens cs body after)
      (next : Reads after parts) :
      Reads cs (.placeholder (String.ofList (Text.trimList body)) :: parts)
  | literal {c : Char} {rest : List Char} {parts : List Segment}
      (plain : ∀ body after, ¬ Opens (c :: rest) body after) (next : Reads rest parts) :
      Reads (c :: rest) (.literal c :: parts)

theorem splitClose_append {body : List Char} (unbroken : '\x7d' ∉ body) (after : List Char) :
    splitClose (body ++ '\x7d' :: '\x7d' :: after) = some (body, after) := by
  induction body with
  | nil => rfl
  | cons c rest ih =>
    have other : c ≠ '\x7d' := fun same => unbroken (same ▸ List.mem_cons_self)
    have tail : splitClose (rest ++ '\x7d' :: '\x7d' :: after) = some (rest, after) :=
      ih fun member => unbroken (List.mem_cons_of_mem _ member)
    simp [splitClose, other, tail]

theorem eq_of_splitClose {cs body after : List Char} (nearest : splitClose cs = some (body, after)) :
    cs = body ++ '\x7d' :: '\x7d' :: after := by
  fun_induction splitClose cs generalizing body with
  | case1 => cases nearest
  | case2 => cases nearest; rfl
  | case3 c rest _ ih =>
    obtain ⟨⟨before, last⟩, found, same⟩ := Option.map_eq_some_iff.1 nearest
    obtain ⟨rfl, rfl⟩ := Prod.mk.inj same
    rw [List.cons_append, ← ih found]

theorem splitClose_ne_none (body after : List Char) :
    splitClose (body ++ '\x7d' :: '\x7d' :: after) ≠ none := by
  induction body with
  | nil => simp [splitClose]
  | cons c rest ih =>
    rw [List.cons_append]
    unfold splitClose
    split
    · exact Option.some_ne_none _
    · simpa using ih

theorem reads_literals {cs : List Char} (never : ∀ body after, cs ≠ body ++ '\x7d' :: '\x7d' :: after) :
    Reads cs (cs.map .literal) := by
  induction cs with
  | nil => exact .done
  | cons c rest ih =>
    apply Reads.literal
    · intro body after opens
      exact never ('\x7b' :: '\x7b' :: body) after opens.1
    · apply ih
      intro body after same
      exact never (c :: body) after (by rw [same, List.cons_append])

-- Between `{{` and the nearest `}}` stands no body, so a placeholder opens neither there nor one brace
-- further on: its body would be what stands before that `}}`.
theorem reads_passed {rest body after : List Char} {parts : List Segment}
    (nearest : splitClose rest = some (body, after)) (refused : body = [] ∨ '\x7d' ∈ body)
    (next : Reads rest parts) :
    Reads ('\x7b' :: '\x7b' :: rest) (.literal '\x7b' :: .literal '\x7b' :: parts) := by
  apply Reads.literal
  · intro other later opens
    obtain ⟨same, filled, unbroken⟩ := opens
    have found : splitClose rest = some (other, later) := by
      rw [List.cons.inj (List.cons.inj same).2 |>.2]
      exact splitClose_append unbroken later
    obtain ⟨rfl, -⟩ := Prod.mk.inj (Option.some.inj (found.symm.trans nearest))
    exact refused.elim filled unbroken
  · apply Reads.literal _ next
    intro other later opens
    obtain ⟨same, -, unbroken⟩ := opens
    have longer : '\x7d' ∉ '\x7b' :: other := by simpa using unbroken
    have found : splitClose rest = some ('\x7b' :: other, later) := by
      rw [(List.cons.inj same).2]
      exact splitClose_append longer later
    obtain ⟨rfl, -⟩ := Prod.mk.inj (Option.some.inj (found.symm.trans nearest))
    exact refused.elim (List.cons_ne_nil _ _) longer

theorem segments_reads (cs : List Char) : Reads cs (segments cs) := by
  fun_induction segments cs with
  | case1 rest unclosed =>
    apply reads_literals
    intro body after same
    -- A `}}` in the text stands behind both opening braces, so it stands in `rest`.
    match body, same with
    | [], same | [_], same => simp at same
    | _ :: _ :: body, same =>
      rw [(List.cons.inj (List.cons.inj same).2).2] at unclosed
      exact splitClose_ne_none body after unclosed
  | case2 rest body after nearest _ refused ih =>
    exact reads_passed nearest (by simpa using refused) ih
  | case3 rest body after nearest _ taken ih =>
    refine .placeholder ⟨?_, ?_⟩ ih
    · rw [eq_of_splitClose nearest]
    · simpa using taken
  | case4 c rest single ih =>
    apply Reads.literal _ ih
    intro body after opens
    obtain ⟨rfl, same⟩ := List.cons.inj opens.1
    exact single _ rfl same
  | case5 => exact .done

theorem Opens.unique {cs body after body' after' : List Char} (first : Opens cs body after)
    (second : Opens cs body' after') : body = body' ∧ after = after' := by
  have same := (List.cons.inj (List.cons.inj (first.1.symm.trans second.1)).2).2
  have found := splitClose_append first.2.2 after
  rw [same, splitClose_append second.2.2 after'] at found
  exact (Prod.mk.inj (Option.some.inj found)).imp Eq.symm Eq.symm

theorem Reads.unique {cs : List Char} {parts parts' : List Segment} (first : Reads cs parts)
    (second : Reads cs parts') : parts = parts' := by
  induction first generalizing parts' with
  | done =>
    cases second with
    | done => rfl
    | placeholder opens _ => simp [Opens] at opens
  | placeholder opens _ ih =>
    cases second with
    | done => simp [Opens] at opens
    | placeholder opens' next' =>
      obtain ⟨rfl, rfl⟩ := opens.unique opens'
      rw [ih next']
    | literal plain _ => exact absurd opens (plain _ _)
  | literal plain _ ih =>
    cases second with
    | placeholder opens' _ => exact absurd opens' (plain _ _)
    | literal _ next' => rw [ih next']

theorem reads_iff (cs : List Char) (parts : List Segment) : Reads cs parts ↔ parts = segments cs :=
  ⟨fun reads => reads.unique (segments_reads cs), fun same => same ▸ segments_reads cs⟩

def recorded (answers : Substitution) : Asking (StateM (List String)) := fun e => do
  modify (· ++ [e])
  ExceptT.mk (pure (answers e))

def Segment.expression? : Segment → Option String
  | .literal _ => none
  | .placeholder e => some e

def expressions (parts : List Segment) : List String :=
  parts.filterMap Segment.expression?

def asked (answers : Substitution) (es : List String) : List String :=
  es.take (es.findIdx (fun e => (answers e).toOption.isNone) + 1)

def failure? (answers : Substitution) (e : String) : Option Fault :=
  match answers e with
  | .ok _ => none
  | .error f => some (.template e f)

def Segment.filled (answers : Substitution) : Segment → List Char
  | .literal c => [c]
  | .placeholder e => ((answers e).toOption.getD "").toList

def outcome (answers : Substitution) (parts : List Segment) : Except Fault (List Char) :=
  match (expressions parts).findSome? (failure? answers) with
  | some f => .error f
  | none => .ok (parts.flatMap (Segment.filled answers))

section

variable (answers : Substitution) (rest : List Segment)

@[simp] theorem expressions_literal (c : Char) : expressions (.literal c :: rest) = expressions rest :=
  rfl

@[simp] theorem expressions_placeholder (e : String) :
    expressions (.placeholder e :: rest) = e :: expressions rest :=
  rfl

theorem outcome_literal (c : Char) :
    outcome answers (.literal c :: rest) = (outcome answers rest).map (c :: ·) := by
  simp only [outcome, expressions_literal]
  split <;> simp [Except.map, Segment.filled]

theorem outcome_answered {e text : String} (given : answers e = .ok text) :
    outcome answers (.placeholder e :: rest) = (outcome answers rest).map (text.toList ++ ·) := by
  have passed : failure? answers e = none := by simp [failure?, given]
  simp only [outcome, expressions_placeholder, List.findSome?_cons, passed]
  cases (expressions rest).findSome? (failure? answers) <;>
    simp [Except.map, Segment.filled, given, Except.toOption]

theorem outcome_unanswered {e : String} {f : Fault} (given : answers e = .error f) :
    outcome answers (.placeholder e :: rest) = .error (.template e f) := by
  simp [outcome, failure?, given]

theorem asked_answered {e text : String} (given : answers e = .ok text) (es : List String) :
    asked answers (e :: es) = e :: asked answers es := by
  simp [asked, List.findIdx_cons, given, Except.toOption]

theorem asked_unanswered {e : String} {f : Fault} (given : answers e = .error f) (es : List String) :
    asked answers (e :: es) = [e] := by
  simp [asked, List.findIdx_cons, given, Except.toOption]

end

theorem run_bind_eq {σ α β : Type} (x : ExceptT Fault (StateM σ) α)
    (f : α → ExceptT Fault (StateM σ) β) (before : σ) :
    (x >>= f).run before = match x.run before with
      | (.ok a, after) => (f a).run after
      | (.error e, after) => (.error e, after) := by
  have step : (x >>= f).run before = ExceptT.bindCont f (x.run before).1 (x.run before).2 := rfl
  rw [step]
  rcases x.run before with ⟨_ | _, _⟩ <;> rfl

theorem fillSegments_recorded (answers : Substitution) (parts : List Segment) (before : List String) :
    (fillSegments (recorded answers) parts).run before =
      (outcome answers parts, before ++ asked answers (expressions parts)) := by
  -- What was asked for before stays in front.
  induction parts generalizing before with
  | nil => simp [fillSegments, outcome, expressions, asked]; rfl
  | cons part rest ih =>
    cases part with
    | literal c =>
      rw [fillSegments, run_bind_eq, ih, outcome_literal, expressions_literal]
      cases outcome answers rest <;> rfl
    | placeholder e =>
      rw [fillSegments, run_bind_eq]
      cases given : answers e with
      | error f =>
        have stops : (ExceptT.adapt (Fault.template e) (recorded answers e)).run before =
            (.error (.template e f), before ++ [e]) := by
          rw [recorded, given]
          rfl
        rw [stops, outcome_unanswered answers rest given, expressions_placeholder,
          asked_unanswered answers given]
      | ok text =>
        have goes : (ExceptT.adapt (Fault.template e) (recorded answers e)).run before =
            (.ok text, before ++ [e]) := by
          rw [recorded, given]
          rfl
        rw [goes, outcome_answered answers rest given, expressions_placeholder,
          asked_answered answers given]
        simp only [run_bind_eq, ih]
        cases outcome answers rest with
        | error f => simp [Except.map]
        | ok cs => simp [Except.map]; rfl

theorem fillSegments_eq_outcome (answers : Substitution) (parts : List Segment) :
    (fillSegments (m := Id) answers parts).run = outcome answers parts := by
  induction parts with
  | nil => rfl
  | cons part rest ih =>
    cases part with
    | literal c =>
      rw [fillSegments, outcome_literal, ← ih]
      cases fillSegments (m := Id) answers rest <;> rfl
    | placeholder e =>
      cases given : answers e with
      | error f =>
        rw [outcome_unanswered answers rest given, fillSegments, given]
        rfl
      | ok text =>
        rw [outcome_answered answers rest given, ← ih, fillSegments, given]
        cases fillSegments (m := Id) answers rest <;> rfl

theorem any_isPlaceholder (parts : List Segment) :
    parts.any Segment.isPlaceholder = !(expressions parts).isEmpty := by
  induction parts with
  | nil => rfl
  | cons part rest ih => cases part <;> simp [Segment.isPlaceholder, ih]

theorem Reads.untouched {cs : List Char} {parts : List Segment} (reads : Reads cs parts)
    (answers : Substitution) (empty : expressions parts = []) :
    parts.flatMap (Segment.filled answers) = cs := by
  induction reads with
  | done => rfl
  | placeholder _ _ _ => simp at empty
  | literal _ _ ih =>
    rw [expressions_literal] at empty
    rw [List.flatMap_cons, ih empty]
    rfl

theorem fillTextBy_eq {m : Type → Type} [Monad m] (ask : Asking m) (s : String) :
    fillTextBy ask s =
      if expressions (segments s.toList) = [] then pure ⟨s, true⟩
      else fillSegments ask (segments s.toList) >>= fun cs => pure ⟨String.ofList cs, false⟩ := by
  unfold fillTextBy
  simp only [any_isPlaceholder]
  cases expressions (segments s.toList) <;> rfl

theorem fillText_eq (answers : Substitution) (s : String) :
    fillText answers s =
      (outcome answers (segments s.toList)).map fun cs =>
        ⟨String.ofList cs, (expressions (segments s.toList)).isEmpty⟩ := by
  rw [fillText, fillTextBy_eq]
  split
  next empty =>
    have same := (segments_reads s.toList).untouched answers empty
    rw [outcome, empty, same]
    simp [Except.map, pure, ExceptT.pure, ExceptT.mk]
  next present =>
    rw [← fillSegments_eq_outcome, List.isEmpty_eq_false_iff.2 present]
    cases fillSegments (m := Id) answers (segments s.toList) <;> rfl

theorem fillText_recorded (answers : Substitution) (s : String) :
    (fillTextBy (recorded answers) s).run [] =
      (fillText answers s, asked answers (expressions (segments s.toList))) := by
  rw [fillTextBy_eq, fillText_eq]
  split
  next empty =>
    have same := (segments_reads s.toList).untouched answers empty
    rw [outcome, empty, same]
    simp [Except.map, asked]
    rfl
  next present =>
    rw [run_bind_eq, fillSegments_recorded, List.isEmpty_eq_false_iff.2 present]
    cases outcome answers (segments s.toList) <;> rfl

theorem segments_single {e : String} (filled : e ≠ "") (unbroken : '\x7d' ∉ e.toList) (trimmed : Text.trim e = e) :
    segments ("\x7b\x7b" ++ e ++ "\x7d\x7d").toList = [.placeholder e] := by
  have opens : Opens ("\x7b\x7b" ++ e ++ "\x7d\x7d").toList e.toList [] := by
    refine ⟨?_, fun none => filled (String.toList_eq_nil_iff.mp none), unbroken⟩
    rw [String.toList_append, String.toList_append]
    rfl
  have reads := Reads.placeholder opens .done
  rw [← Text.trim, trimmed] at reads
  exact ((reads_iff _ _).mp reads).symm

theorem fillText_single {answers : Substitution} {e text : String} (filled : e ≠ "") (unbroken : '\x7d' ∉ e.toList)
    (trimmed : Text.trim e = e) (given : answers e = .ok text) :
    fillText answers ("\x7b\x7b" ++ e ++ "\x7d\x7d") = .ok ⟨text, false⟩ := by
  rw [fillText_eq, segments_single filled unbroken trimmed, outcome_answered answers [] given]
  simp [outcome, expressions, Segment.expression?, Except.map]

/-- A text has one reading, whatever the answers. Filling asks for the expressions of that reading one
after the other, none behind the first that fails; it puts texts in their places and reads none of them
again; and it hands back the text itself exactly when there is no placeholder. -/
theorem fillText_replaces (s : String) :
    ∃ parts : List Segment, (∀ read, Reads s.toList read ↔ read = parts) ∧
      ∀ (evaluate : String → Evaluator.Bindings → Except Fault Primitive) (bindings : Evaluator.Bindings),
        let answers := Evaluator.textsBy evaluate bindings
        (fillTextBy (recorded answers) s).run [] =
            (fillText answers s, asked answers (expressions parts)) ∧
          fillText answers s =
            (outcome answers parts).map (fun cs => ⟨String.ofList cs, (expressions parts).isEmpty⟩) ∧
          (fillText answers s = .ok ⟨s, true⟩ ↔ expressions parts = []) := by
  refine ⟨segments s.toList, reads_iff s.toList, ?_⟩
  intro evaluate bindings answers
  refine ⟨fillText_recorded answers s, fillText_eq answers s, ?_⟩
  rw [fillText_eq]
  constructor
  · intro same
    cases given : outcome answers (segments s.toList) with
    | error f =>
      rw [given] at same
      cases same
    | ok cs =>
      rw [given] at same
      exact List.isEmpty_iff.1 (Filled.mk.inj (Except.ok.inj same)).2
  · intro empty
    have same := (segments_reads s.toList).untouched answers empty
    rw [outcome, empty, same]
    simp [Except.map]

example : expressions (segments "\x7b\x7b\x7ba\x7d\x7d".toList) = ["\x7ba"] := by cbv

end BoundedScript.Template
