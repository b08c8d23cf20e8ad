import BoundedScript.Proofs.Placeholders

set_option autoImplicit false

namespace BoundedScript.Template

mutual

def placeholders : Json → List String
  | .string s => expressions (segments s.toList)
  | .array items => itemPlaceholders items
  | .object fields => fieldPlaceholders fields
  | .null | .bool _ | .int _ | .float _ => []

def itemPlaceholders : List Json → List String
  | [] => []
  | v :: rest => placeholders v ++ itemPlaceholders rest

def fieldPlaceholders : List (String × Json) → List String
  | [] => []
  | (_, v) :: rest => placeholders v ++ fieldPlaceholders rest

end

section

-- What is answered depends on how often something was asked for before.
variable (answers : Nat → Substitution)

def counted : Asking (StateM Nat) := fun e => do
  let n ← get
  set (n + 1)
  ExceptT.mk (pure (answers n e))

def firstFailure (n : Nat) : List String → Option Fault
  | [] => none
  | e :: es => (failure? (answers n) e).or (firstFailure (n + 1) es)

def filledSegments (n : Nat) : List Segment → List Char
  | [] => []
  | .literal c :: rest => c :: filledSegments n rest
  | .placeholder e :: rest =>
    Segment.filled (answers n) (.placeholder e) ++ filledSegments (n + 1) rest

mutual

def filled (n : Nat) : Json → Json
  | .string s => .string (String.ofList (filledSegments answers n (segments s.toList)))
  | .array items => .array (filledItems n items)
  | .object fields => .object (filledFields n fields)
  | .null => .null
  | .bool b => .bool b
  | .int i => .int i
  | .float x => .float x

def filledItems (n : Nat) : List Json → List Json
  | [] => []
  | v :: rest => filled n v :: filledItems (n + (placeholders v).length) rest

def filledFields (n : Nat) : List (String × Json) → List (String × Json)
  | [] => []
  | (k, v) :: rest => (k, filled n v) :: filledFields (n + (placeholders v).length) rest

end

theorem firstFailure_answered {n : Nat} {e text : String} (given : answers n e = .ok text) (es : List String) :
    firstFailure answers n (e :: es) = firstFailure answers (n + 1) es := by
  rw [firstFailure, failure?, given]
  rfl

theorem firstFailure_unanswered {n : Nat} {e : String} {f : Fault} (given : answers n e = .error f)
    (es : List String) : firstFailure answers n (e :: es) = some (.template e f) := by
  rw [firstFailure, failure?, given]
  rfl

theorem firstFailure_append (n : Nat) (es ds : List String) :
    firstFailure answers n (es ++ ds) =
      (firstFailure answers n es).or (firstFailure answers (n + es.length) ds) := by
  induction es generalizing n with
  | nil => rfl
  | cons e es ih =>
    have shifted : n + 1 + es.length = n + (e :: es).length := by
      rw [List.length_cons]
      omega
    rw [List.cons_append, firstFailure, firstFailure, ih, shifted, Option.or_assoc]

theorem firstFailure_of_answered {n : Nat} {es : List String}
    (answered : ∀ (i : Nat) e, es[i]? = some e → ∃ text, answers (n + i) e = .ok text) :
    firstFailure answers n es = none := by
  induction es generalizing n with
  | nil => rfl
  | cons e es ih =>
    obtain ⟨text, first⟩ : ∃ text, answers n e = .ok text := answered 0 e rfl
    rw [firstFailure_answered answers first]
    apply ih
    intro i d there
    obtain ⟨text, given⟩ := answered (i + 1) d there
    exact ⟨text, by rwa [Nat.add_right_comm, Nat.add_assoc]⟩

theorem firstFailure_of_failed {n i : Nat} {e : String} {es : List String} {f : Fault}
    (there : es[i]? = some e) (failed : answers (n + i) e = .error f)
    (before : ∀ j d, j < i → es[j]? = some d → ∃ text, answers (n + j) d = .ok text) :
    firstFailure answers n es = some (.template e f) := by
  induction es generalizing n i with
  | nil => cases there
  | cons d es ih =>
    cases i with
    | zero =>
      obtain rfl : d = e := Option.some.inj there
      exact firstFailure_unanswered answers failed es
    | succ i =>
      obtain ⟨text, given⟩ : ∃ text, answers n d = .ok text := before 0 d (Nat.succ_pos i) rfl
      rw [firstFailure_answered answers given]
      refine ih there (by rwa [Nat.add_right_comm, Nat.add_assoc]) ?_
      intro j c earlier inside
      obtain ⟨text, given⟩ := before (j + 1) c (Nat.succ_lt_succ earlier) inside
      exact ⟨text, by rwa [Nat.add_right_comm, Nat.add_assoc]⟩

theorem failed_of_firstFailure {n : Nat} {es : List String} {f : Fault}
    (first : firstFailure answers n es = some f) :
    ∃ i e cause, es[i]? = some e ∧ answers (n + i) e = .error cause ∧ f = .template e cause ∧
      ∀ j d, j < i → es[j]? = some d → ∃ text, answers (n + j) d = .ok text := by
  induction es generalizing n with
  | nil => cases first
  | cons e es ih =>
    cases given : answers n e with
    | error cause =>
      rw [firstFailure_unanswered answers given] at first
      exact ⟨0, e, cause, rfl, given, (Option.some.inj first).symm, fun j d never => nomatch never⟩
    | ok text =>
      rw [firstFailure_answered answers given] at first
      obtain ⟨i, d, cause, there, failed, same, before⟩ := ih first
      refine ⟨i + 1, d, cause, there, by rwa [← Nat.add_assoc, Nat.add_right_comm], same, ?_⟩
      intro j c earlier inside
      cases j with
      | zero =>
        obtain rfl : e = c := Option.some.inj inside
        exact ⟨text, given⟩
      | succ j =>
        obtain ⟨text, answered⟩ := before j c (Nat.lt_of_succ_lt_succ earlier) inside
        exact ⟨text, by rwa [← Nat.add_assoc, Nat.add_right_comm]⟩

theorem filledSegments_untouched {cs : List Char} {parts : List Segment} (reads : Reads cs parts) (n : Nat)
    (empty : expressions parts = []) : filledSegments answers n parts = cs := by
  induction reads with
  | done => rfl
  | placeholder _ _ _ => simp at empty
  | literal _ _ ih =>
    rw [expressions_literal] at empty
    rw [filledSegments, ih empty]

def Fills {α : Type} (x : ExceptT Fault (StateM Nat) α) (n : Nat) (failure : Option Fault) (a : α)
    (after : Nat) : Prop :=
  match failure with
  | some f => (x.run n).1 = .error f
  | none => x.run n = (.ok a, after)

section

variable {answers} {α β : Type} {n m k : Nat} {x : ExceptT Fault (StateM Nat) α} {a : α} {b : β}

theorem Fills.pure : Fills (Pure.pure a) n none a n :=
  rfl

theorem Fills.bind {g : α → ExceptT Fault (StateM Nat) β} {first second : Option Fault}
    (front : Fills x n first a m) (back : Fills (g a) m second b k) :
    Fills (x >>= g) n (first.or second) b k := by
  cases first with
  | some f =>
    change ((x >>= g).run n).1 = .error f
    rw [run_bind_eq]
    cases ran : x.run n with
    | mk r after =>
      obtain rfl : r = .error f := (congrArg Prod.fst ran).symm.trans front
      rfl
  | none =>
    have goes : (x >>= g).run n = (g a).run m := by
      rw [run_bind_eq, show x.run n = (.ok a, m) from front]
    cases second with
    | some f => exact (congrArg Prod.fst goes).trans back
    | none => exact goes.trans back

theorem Fills.map {first : Option Fault} (g : α → β) (front : Fills x n first a m) :
    Fills (x >>= fun a => Pure.pure (g a)) n first (g a) m := by
  have all := front.bind (g := fun a => Pure.pure (g a)) Fills.pure
  rwa [Option.or_none] at all

theorem Fills.fst {first : Option Fault} (fills : Fills x n first a m) :
    (x.run n).1 = first.elim (.ok a) .error := by
  cases first with
  | some f => exact fills
  | none => exact congrArg Prod.fst fills

end

theorem ask_fills (n : Nat) (e : String) :
    Fills (ExceptT.adapt (.template e) (counted answers e)) n (failure? (answers n) e)
      ((answers n e).toOption.getD "") (n + 1) := by
  have asked : (ExceptT.adapt (Fault.template e) (counted answers e)).run n =
      ((answers n e).mapError (.template e), n + 1) := rfl
  rw [failure?]
  cases given : answers n e with
  | error f =>
    change ((ExceptT.adapt _ (counted answers e)).run n).1 = _
    rw [asked, given]
    rfl
  | ok text =>
    change (ExceptT.adapt _ (counted answers e)).run n = _
    rw [asked, given]
    rfl

theorem fillSegments_fills (n : Nat) (parts : List Segment) :
    Fills (fillSegments (counted answers) parts) n (firstFailure answers n (expressions parts))
      (filledSegments answers n parts) (n + (expressions parts).length) := by
  induction parts generalizing n with
  | nil => exact .pure
  | cons part rest ih =>
    cases part with
    | literal c => exact (ih n).map (c :: ·)
    | placeholder e =>
      have behind := (ih (n + 1)).map (((answers n e).toOption.getD "").toList ++ ·)
      have last : n + 1 + (expressions rest).length = n + (e :: expressions rest).length := by
        rw [List.length_cons]
        omega
      rw [last] at behind
      exact (ask_fills answers n e).bind behind

theorem fillText_fills (n : Nat) (s : String) :
    Fills (do return Json.string (← fillTextBy (counted answers) s).text) n
      (firstFailure answers n (placeholders (.string s))) (filled answers n (.string s))
      (n + (placeholders (.string s)).length) := by
  rw [fillTextBy_eq, filled, placeholders]
  split
  next empty =>
    rw [filledSegments_untouched answers (segments_reads s.toList) n empty, empty, String.ofList_toList]
    exact .pure
  next present =>
    have texts := (fillSegments_fills answers n (segments s.toList)).map fun cs => Filled.mk (String.ofList cs) false
    exact texts.map fun t => Json.string t.text

mutual

theorem fillBy_fills (n : Nat) (v : Json) :
    Fills (fillBy (counted answers) v) n (firstFailure answers n (placeholders v)) (filled answers n v)
      (n + (placeholders v).length) := by
  cases v with
  | null => exact .pure
  | bool b => exact .pure
  | int i => exact .pure
  | float x => exact .pure
  | string s => exact fillText_fills answers n s
  | array items => exact (fillItems_fills n items).map Json.array
  | object fields => exact (fillFields_fills n fields).map Json.object

theorem fillItems_fills (n : Nat) (items : List Json) :
    Fills (fillItems (counted answers) items) n (firstFailure answers n (itemPlaceholders items))
      (filledItems answers n items) (n + (itemPlaceholders items).length) := by
  cases items with
  | nil => exact .pure
  | cons v rest =>
    have behind := (fillItems_fills (n + (placeholders v).length) rest).map (filled answers n v :: ·)
    rw [itemPlaceholders, firstFailure_append, List.length_append, ← Nat.add_assoc]
    exact (fillBy_fills n v).bind behind

theorem fillFields_fills (n : Nat) (fields : List (String × Json)) :
    Fills (fillFields (counted answers) fields) n (firstFailure answers n (fieldPlaceholders fields))
      (filledFields answers n fields) (n + (fieldPlaceholders fields).length) := by
  cases fields with
  | nil => exact .pure
  | cons field rest =>
    obtain ⟨k, v⟩ := field
    have behind := (fillFields_fills (n + (placeholders v).length) rest).map ((k, filled answers n v) :: ·)
    rw [fieldPlaceholders, firstFailure_append, List.length_append, ← Nat.add_assoc]
    exact (fillBy_fills n v).bind behind

end

end

def Follows {α : Type} (x : ExceptT Fault (StateM Nat) α) (r : ExceptT Fault Id α) : Prop :=
  ∀ n, (x.run n).1 = r.run

section

variable {α β : Type}

theorem Follows.pure (a : α) : Follows (Pure.pure a) (Pure.pure a) :=
  fun _ => rfl

theorem Follows.bind {x : ExceptT Fault (StateM Nat) α} {r : ExceptT Fault Id α}
    {g : α → ExceptT Fault (StateM Nat) β} {h : α → ExceptT Fault Id β} (front : Follows x r)
    (back : ∀ a, Follows (g a) (h a)) : Follows (x >>= g) (r >>= h) := by
  intro n
  have first := front n
  rw [run_bind_eq]
  cases ran : x.run n with
  | mk result after =>
    rw [ran] at first
    obtain rfl : result = r := first
    cases result with
    | error f => rfl
    | ok a => exact back a after

end

section

variable (answers : Substitution)

theorem ask_follows (e : String) :
    Follows (ExceptT.adapt (.template e) (counted (fun _ => answers) e))
      (ExceptT.adapt (m := Id) (.template e) (answers e)) :=
  fun _ => rfl

theorem fillSegments_follows (parts : List Segment) :
    Follows (fillSegments (counted fun _ => answers) parts) (fillSegments (m := Id) answers parts) := by
  induction parts with
  | nil => exact .pure _
  | cons part rest ih =>
    cases part with
    | literal c => exact ih.bind fun cs => .pure _
    | placeholder e => exact (ask_follows answers e).bind fun text => ih.bind fun cs => .pure _

theorem fillText_follows (s : String) :
    Follows (fillTextBy (counted fun _ => answers) s) (fillTextBy (m := Id) answers s) := by
  rw [fillTextBy_eq, fillTextBy_eq]
  split
  · exact .pure _
  · exact (fillSegments_follows answers _).bind fun cs => .pure _

mutual

theorem fillBy_follows (v : Json) :
    Follows (fillBy (counted fun _ => answers) v) (fillBy (m := Id) answers v) := by
  cases v with
  | null => exact .pure _
  | bool b => exact .pure _
  | int i => exact .pure _
  | float x => exact .pure _
  | string s => exact (fillText_follows answers s).bind fun t => .pure _
  | array items => exact (fillItems_follows items).bind fun items => .pure _
  | object fields => exact (fillFields_follows fields).bind fun fields => .pure _

theorem fillItems_follows (items : List Json) :
    Follows (fillItems (counted fun _ => answers) items) (fillItems (m := Id) answers items) := by
  cases items with
  | nil => exact .pure _
  | cons v rest => exact (fillBy_follows v).bind fun w => (fillItems_follows rest).bind fun ws => .pure _

theorem fillFields_follows (fields : List (String × Json)) :
    Follows (fillFields (counted fun _ => answers) fields) (fillFields (m := Id) answers fields) := by
  cases fields with
  | nil => exact .pure _
  | cons field rest =>
    exact (fillBy_follows field.2).bind fun w => (fillFields_follows rest).bind fun ws => .pure _

end

theorem fill_eq_counted (v : Json) (n : Nat) :
    fill answers v = ((fillBy (counted fun _ => answers) v).run n).1 :=
  (fillBy_follows answers v n).symm

end

end BoundedScript.Template
