import BoundedScript.CommandLine.Program
import BoundedScript.Proofs.ExpressionRules
import BoundedScript.Proofs.Json.RoundTrip

set_option autoImplicit false

namespace BoundedScript.CommandLine

open Evaluator (Bindings)

structure Splits (arg name raw : String) : Prop where
  text : arg = name ++ "=" ++ raw
  first : '=' ∉ name.toList

inductive Means (raw : String) : Json → Prop where
  | document {v : Json} (read : Json.readText raw = .ok v) : Means raw v
  | text (refused : ∀ v, Json.readText raw ≠ .ok v) : Means raw (.string raw)

def Binds (arg : String) (b : String × Json) : Prop :=
  ∃ name raw, Splits arg name raw ∧ b.1 = Text.trim name ∧ Means raw b.2

def unnamed (arg : String) : Failure :=
  ["binding " ++ Text.quoted arg ++ " is not NAME=VALUE"]

section Argument

variable {arg : String} {cs name raw : List Char} {b : String × Json}

theorem splitEquals_named (first : '=' ∉ name) : splitEquals (name ++ '=' :: raw) = (name, some raw) := by
  induction name with
  | nil => rfl
  | cons c name ih =>
    rw [List.cons_append, splitEquals, ih (List.not_mem_of_not_mem_cons first)]
    exact fun same => List.ne_of_not_mem_cons first same.symm

theorem splitEquals_unnamed (missing : '=' ∉ cs) : splitEquals cs = (cs, none) := by
  induction cs with
  | nil => rfl
  | cons c cs ih =>
    rw [splitEquals, ih (List.not_mem_of_not_mem_cons missing)]
    exact fun same => List.ne_of_not_mem_cons missing same.symm

theorem exists_splits (marked : '=' ∈ arg.toList) : ∃ name raw, Splits arg name raw := by
  obtain ⟨name, raw, text, first⟩ := List.eq_append_cons_of_mem marked
  refine ⟨String.ofList name, String.ofList raw, ?_, by rwa [String.toList_ofList]⟩
  rw [← String.toList_inj, text]
  simp

theorem exists_means (raw : String) : ∃ v, Means raw v := by
  cases read : Json.readText raw with
  | ok v => exact ⟨v, .document read⟩
  | error e => exact ⟨_, .text fun v same => by rw [read] at same; cases same⟩

theorem binding_named {name raw : String} {v : Json} (splits : Splits arg name raw) (means : Means raw v) :
    binding arg = .ok (Text.trim name, v) := by
  have text : arg.toList = name.toList ++ '=' :: raw.toList := by simp [splits.text]
  rw [binding, text, splitEquals_named splits.first]
  simp only [String.ofList_toList]
  cases means with
  | document read =>
    rw [read]
    rfl
  | text refused =>
    cases read : Json.readText raw with
    | ok v => exact (refused v read).elim
    | error e => rfl

theorem binding_unnamed (missing : '=' ∉ arg.toList) : binding arg = .error (unnamed arg) := by
  rw [binding, splitEquals_unnamed missing]
  rfl

theorem exists_binding (marked : '=' ∈ arg.toList) : ∃ b, binding arg = .ok b := by
  obtain ⟨name, raw, splits⟩ := exists_splits marked
  obtain ⟨v, means⟩ := exists_means raw
  exact ⟨_, binding_named splits means⟩

theorem binding_eq_ok : binding arg = .ok b ↔ Binds arg b := by
  constructor
  · intro bound
    by_cases marked : '=' ∈ arg.toList
    · obtain ⟨name, raw, splits⟩ := exists_splits marked
      obtain ⟨v, means⟩ := exists_means raw
      rw [binding_named splits means] at bound
      cases bound
      exact ⟨name, raw, splits, rfl, means⟩
    · rw [binding_unnamed marked] at bound
      cases bound
  · rintro ⟨name, raw, splits, named, means⟩
    rw [binding_named splits means, ← named]

end Argument

section Arguments

variable {args : List String} {pairs : List (String × Json)}

theorem bindings_eq (args : List String) : bindings args = (args.mapM binding).map Json.sortFields := by
  rw [bindings]
  cases args.mapM binding <;> rfl

theorem mapM_binding (each : List.Forall₂ (fun arg b => binding arg = .ok b) args pairs) :
    args.mapM binding = .ok pairs := by
  induction each with
  | nil => rfl
  | cons bound _ ih =>
    rw [List.mapM_cons, bound, ih]
    rfl

theorem exists_pairs (marked : ∀ arg ∈ args, '=' ∈ arg.toList) :
    ∃ pairs, List.Forall₂ (fun arg b => binding arg = .ok b) args pairs := by
  induction args with
  | nil => exact ⟨[], .nil⟩
  | cons arg args ih =>
    obtain ⟨here, later⟩ := List.forall_mem_cons.mp marked
    obtain ⟨b, bound⟩ := exists_binding here
    obtain ⟨pairs, each⟩ := ih later
    exact ⟨b :: pairs, .cons bound each⟩

theorem mapM_unnamed {front back : List String} {arg : String} (marked : ∀ a ∈ front, '=' ∈ a.toList)
    (missing : '=' ∉ arg.toList) : (front ++ arg :: back).mapM binding = .error (unnamed arg) := by
  induction front with
  | nil =>
    rw [List.nil_append, List.mapM_cons, binding_unnamed missing]
    rfl
  | cons a front ih =>
    obtain ⟨here, later⟩ := List.forall_mem_cons.mp marked
    obtain ⟨b, bound⟩ := exists_binding here
    rw [List.cons_append, List.mapM_cons, bound, ih later]
    rfl

theorem marked_or_first (args : List String) : (∀ arg ∈ args, '=' ∈ arg.toList) ∨
    ∃ front arg back, args = front ++ arg :: back ∧ (∀ a ∈ front, '=' ∈ a.toList) ∧ '=' ∉ arg.toList := by
  induction args with
  | nil => exact .inl (List.forall_mem_nil _)
  | cons a args ih =>
    by_cases here : '=' ∈ a.toList
    · refine ih.imp (fun later => List.forall_mem_cons.mpr ⟨here, later⟩) ?_
      rintro ⟨front, arg, back, rfl, marked, missing⟩
      exact ⟨a :: front, arg, back, rfl, List.forall_mem_cons.mpr ⟨here, marked⟩, missing⟩
    · exact .inr ⟨[], a, args, rfl, List.forall_mem_nil _, here⟩

theorem filter_pairs (each : List.Forall₂ (fun arg b => binding arg = .ok b) args pairs) (name : String) :
    pairs.filter (·.1 == name) = [] ↔ ∀ arg ∈ args, ∀ v, ¬ Binds arg (name, v) := by
  induction each with
  | nil => simp
  | @cons arg b _ _ bound _ ih =>
    have here : ¬ (b.1 == name) = true ↔ ∀ v, ¬ Binds arg (name, v) := by
      constructor
      · intro other v binds
        rw [binding_eq_ok.mpr binds] at bound
        cases bound
        exact other (beq_self_eq_true name)
      · intro never same
        exact never b.2 (binding_eq_ok.mp (by rw [bound, ← eq_of_beq same]))
    rw [List.forall_mem_cons, ← ih, ← here]
    by_cases same : (b.1 == name) = true <;> simp [same]

theorem last_pair (each : List.Forall₂ (fun arg b => binding arg = .ok b) args pairs) {b : String × Json} :
    (pairs.filter (·.1 == b.1)).getLast? = some b ↔
      ∃ front arg back, args = front ++ arg :: back ∧ Binds arg b ∧ ∀ a ∈ back, ∀ v, ¬ Binds a (b.1, v) := by
  constructor
  · intro last
    obtain ⟨named, whole⟩ := List.getLast?_eq_some_iff.mp last
    obtain ⟨before, behind, rfl, -, single⟩ := List.filter_eq_append_iff.mp whole
    obtain ⟨other, rest, rfl, -, -, none⟩ := List.filter_eq_cons_iff.mp single
    rw [← List.append_assoc] at each
    have later := List.forall₂_drop_append _ _ _ each
    obtain ⟨arg, back, bound, others, here⟩ := List.forall₂_cons_right_iff.mp later
    refine ⟨args.take (before ++ other).length, arg, back, ?_, binding_eq_ok.mp bound, (filter_pairs others _).mp none⟩
    rw [← here, List.take_append_drop]
  · rintro ⟨front, arg, back, rfl, binds, never⟩
    have later := (List.forall₂_drop_append _ _ _ each.flip).flip
    obtain ⟨c, rest, bound, others, here⟩ := List.forall₂_cons_left_iff.mp later
    rw [binding_eq_ok.mpr binds] at bound
    cases bound
    rw [← List.take_append_drop front.length pairs, here, List.filter_append, 
      List.filter_cons_of_pos (a := b) (beq_self_eq_true b.1), (filter_pairs others _).mpr never, List.getLast?_concat]

end Arguments

section Written

variable {b : String × Json}

def argumentOf (b : String × Json) : String :=
  b.1 ++ "=" ++ b.2.render

structure Passable (b : String × Json) : Prop where
  named : Expression.isIdentifier b.1 = true
  regular : Json.Regular b.2
  exact : ∀ x, Json.HasFloat x b.2 → Json.ReadsBack x
  shallow : b.2.depth ≤ 127

theorem identifier_plain {name : String} (named : Expression.isIdentifier name = true) :
    '=' ∉ name.toList ∧ Text.trim name = name := by
  obtain ⟨c, rest, text, -, each⟩ := (Expression.isIdentifier_iff name).mp named
  rw [← text] at each
  have dark (d : Char) (inside : d ∈ name.toList) : d ≠ '=' ∧ Text.isBlank d = false := by
    have all := Expression.forall_ascii (fun c => !Expression.isIdentifierChar c || (c != '=' && !Text.isBlank c))
      (by decide) d (Expression.isIdentifierChar_ascii (each d inside))
    simpa [each d inside] using all
  refine ⟨fun marked => (dark '=' marked).1 rfl, ?_⟩
  have front (cs : List Char) (visible : ∀ d ∈ cs, Text.isBlank d = false) : cs.dropWhile Text.isBlank = cs := by
    cases cs with
    | nil => rfl
    | cons d rest => exact List.dropWhile_cons_of_neg (Bool.eq_false_iff.mp (visible d List.mem_cons_self))
  rw [Text.trim, Text.trimList, front _ fun d inside => (dark d inside).2,
    front _ fun d inside => (dark d (List.mem_reverse.mp inside)).2, List.reverse_reverse, String.ofList_toList]

theorem binds_argument (passable : Passable b) : Binds (argumentOf b) b := by
  obtain ⟨first, trimmed⟩ := identifier_plain passable.named
  refine ⟨b.1, b.2.render, ⟨rfl, first⟩, trimmed.symm, .document ?_⟩
  rw [Json.read_written passable.regular passable.exact]
  exact if_pos passable.shallow

theorem bindings_written {m : Bindings} (ordered : m.Pairwise fun a b => a.1 < b.1) (each : ∀ b ∈ m, Passable b)
    {args : List String} (same : args.Perm (m.map argumentOf)) : bindings args = .ok m := by
  have bound : List.Forall₂ (fun arg b => binding arg = .ok b) (m.map argumentOf) m := by
    rw [List.forall₂_map_left_iff, List.forall₂_same]
    exact fun b inside => binding_eq_ok.mpr (binds_argument (each b inside))
  obtain ⟨pairs, read, perm⟩ := List.perm_comp_forall₂ same bound
  rw [bindings_eq, mapM_binding read]
  exact congrArg Except.ok (Json.sortFields_perm ordered perm)

end Written

/-- Arguments are read back exactly. They fail if one of them binds nothing, and the first such is told. Otherwise each
name has what the last argument for it binds; and the arguments for the names and documents of a map, in any order, give
that map. -/
theorem bindings_read (args : List String) :
    (∀ f, bindings args = .error f ↔ ∃ front arg back, args = front ++ arg :: back ∧ (∀ a ∈ front, '=' ∈ a.toList) ∧
      '=' ∉ arg.toList ∧ f = ["binding " ++ Text.quoted arg ++ " is not NAME=VALUE"]) ∧
    ((∀ arg ∈ args, '=' ∈ arg.toList) → ∃ bs, bindings args = .ok bs ∧ (bs.Pairwise fun a b => a.1 < b.1) ∧
      ∀ b, b ∈ bs ↔
        ∃ front arg back, args = front ++ arg :: back ∧ Binds arg b ∧ ∀ a ∈ back, ∀ v, ¬ Binds a (b.1, v)) ∧
    ∀ m : Bindings, (m.Pairwise fun a b => a.1 < b.1) → (∀ b ∈ m, Passable b) → args.Perm (m.map argumentOf) →
      bindings args = .ok m := by
  have refused {front back : List String} {arg : String} (marked : ∀ a ∈ front, '=' ∈ a.toList)
      (missing : '=' ∉ arg.toList) : bindings (front ++ arg :: back) = .error (unnamed arg) := by
    rw [bindings_eq, mapM_unnamed marked missing]
    rfl
  have taken (marked : ∀ arg ∈ args, '=' ∈ arg.toList) :
      ∃ pairs, List.Forall₂ (fun arg b => binding arg = .ok b) args pairs ∧
        bindings args = .ok (Json.sortFields pairs) := by
    obtain ⟨pairs, each⟩ := exists_pairs marked
    exact ⟨pairs, each, by rw [bindings_eq, mapM_binding each]; rfl⟩
  refine ⟨fun f => ⟨fun failed => ?_, ?_⟩, fun marked => ?_, fun m ordered each same => bindings_written ordered each same⟩
  · obtain marked | ⟨front, arg, back, rfl, marked, missing⟩ := marked_or_first args
    · obtain ⟨pairs, -, read⟩ := taken marked
      rw [read] at failed
      cases failed
    · rw [refused marked missing] at failed
      cases failed
      exact ⟨front, arg, back, rfl, marked, missing, rfl⟩
  · rintro ⟨front, arg, back, rfl, marked, missing, rfl⟩
    exact refused marked missing
  · obtain ⟨pairs, each, read⟩ := taken marked
    exact ⟨_, read, Json.sortFields_ordered pairs, fun b => Json.mem_sortFields.trans (last_pair each)⟩

theorem bindings_read_equation :
    let m : Bindings := [("$x", .object [("k=", .array [.null, .int (-1)])]), ("q", .string "a=b")]
    let args := ["q=\"a=b\"", "$x=\x7b\"k=\":[null,-1]\x7d"]
    (m.Pairwise fun a b => a.1 < b.1) ∧ (∀ b ∈ m, Passable b) ∧ args.Perm (m.map argumentOf) ∧
      bindings args = .ok m := by
  intro m args
  have ordered : m.Pairwise fun a b => a.1 < b.1 := by decide
  have each : ∀ b ∈ m, Passable b := by
    intro b inside
    rcases List.mem_pair.mp inside with rfl | rfl
    · refine ⟨by decide, .object (by decide) ?_, fun x held => ?_, by decide⟩
      · intro f field
        rw [List.mem_singleton.mp field]
        refine .array fun j item => ?_
        rcases List.mem_pair.mp item with rfl | rfl
        · exact .null
        · exact .int (by decide) (by decide)
      · rcases held with _ | _ | ⟨field, held⟩
        cases List.mem_singleton.mp field
        rcases held with _ | ⟨item, held⟩
        rcases List.mem_pair.mp item with rfl | rfl <;> cases held
    · exact ⟨by decide, .string _, nofun, by decide⟩
  have same : args.Perm (m.map argumentOf) := by decide
  exact ⟨ordered, each, same, (bindings_read args).2.2 m ordered each same⟩

end BoundedScript.CommandLine
