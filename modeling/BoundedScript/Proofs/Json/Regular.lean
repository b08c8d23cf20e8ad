import Mathlib.Data.List.Pairwise
import BoundedScript.Json.Reader
import BoundedScript.Proofs.Json.Numbers

set_option autoImplicit false

namespace BoundedScript.Json

mutual

def depth : Json → Nat
  | .array items => depthItems items + 1
  | .object fields => depthFields fields + 1
  | _ => 0

def depthItems : List Json → Nat
  | [] => 0
  | v :: rest => max (depth v) (depthItems rest)

def depthFields : List (String × Json) → Nat
  | [] => 0
  | (_, v) :: rest => max (depth v) (depthFields rest)

end

@[simp] theorem depth_array (items : List Json) : depth (.array items) = depthItems items + 1 := rfl

@[simp] theorem depth_object (fields : List (String × Json)) :
    depth (.object fields) = depthFields fields + 1 :=
  rfl

theorem depthItems_le {items : List Json} {n : Nat} (each : ∀ v ∈ items, v.depth ≤ n) : depthItems items ≤ n := by
  induction items with
  | nil => exact Nat.zero_le n
  | cons v rest ih =>
    obtain ⟨first, later⟩ := List.forall_mem_cons.mp each
    exact Nat.max_le.mpr ⟨first, ih later⟩

theorem depthFields_le {fields : List (String × Json)} {n : Nat} (each : ∀ field ∈ fields, field.2.depth ≤ n) :
    depthFields fields ≤ n := by
  induction fields with
  | nil => exact Nat.zero_le n
  | cons field rest ih =>
    obtain ⟨first, later⟩ := List.forall_mem_cons.mp each
    exact Nat.max_le.mpr ⟨first, ih later⟩

theorem le_depthItems {items : List Json} {v : Json} (inside : v ∈ items) : v.depth ≤ depthItems items := by
  induction items with
  | nil => cases inside
  | cons w rest ih =>
    rcases List.mem_cons.mp inside with rfl | later
    · exact Nat.le_max_left _ _
    · exact Nat.le_trans (ih later) (Nat.le_max_right _ _)

theorem le_depthFields {fields : List (String × Json)} {field : String × Json} (inside : field ∈ fields) :
    field.2.depth ≤ depthFields fields := by
  induction fields with
  | nil => cases inside
  | cons f rest ih =>
    rcases List.mem_cons.mp inside with rfl | later
    · exact Nat.le_max_left _ _
    · exact Nat.le_trans (ih later) (Nat.le_max_right _ _)

inductive HasFloat (x : Float) : Json → Prop where
  | here : HasFloat x (.float x)
  | item {items : List Json} {v : Json} (inside : v ∈ items) (has : HasFloat x v) :
      HasFloat x (.array items)
  | field {fields : List (String × Json)} {name : String} {v : Json} (inside : (name, v) ∈ fields)
      (has : HasFloat x v) : HasFloat x (.object fields)

def ReadsBack (x : Float) : Prop :=
  readText (String.ofList (floatText x)) = .ok (.float x)

def float? : Except ReadError Json → Option Float
  | .ok (.float x) => some x
  | _ => none

theorem float?_eq_some {read : Except ReadError Json} {x : Float} :
    float? read = some x ↔ read = .ok (.float x) := by
  constructor
  · intro found
    unfold float? at found
    split at found
    · rw [Option.some.inj found]
    · cases found
  · rintro rfl
    rfl

instance (x : Float) : Decidable (ReadsBack x) :=
  decidable_of_iff (float? (readText (String.ofList (floatText x))) = some x) float?_eq_some

/-- What a text can say: whole numbers of up to 64 bits, fields in the order of their names, each name
once. -/
inductive Regular : Json → Prop where
  | null : Regular .null
  | bool (b : Bool) : Regular (.bool b)
  | int {n : Int} (low : -0x8000_0000_0000_0000 ≤ n) (high : n < 0x1_0000_0000_0000_0000) : Regular (.int n)
  | float (x : Float) : Regular (.float x)
  | string (s : String) : Regular (.string s)
  | array {items : List Json} (each : ∀ v ∈ items, Regular v) : Regular (.array items)
  | object {fields : List (String × Json)} (ordered : fields.Pairwise fun a b => a.1 < b.1)
      (each : ∀ field ∈ fields, Regular field.2) : Regular (.object fields)

section Fields

variable {α : Type}

theorem mergeSort_of_strict {le : α → α → Bool} (trans : ∀ a b c, le a b = true → le b c = true → le a c = true)
    (total : ∀ a b, (le a b || le b a) = true) {sorted others : List α}
    (strict : sorted.Pairwise fun a b => le b a = false) (same : others.Perm sorted) :
    others.mergeSort le = sorted := by
  have ordered : sorted.Pairwise fun a b => le a b = true := strict.imp fun {a b} apart => by
    have either := total a b
    rwa [apart, Bool.or_false] at either
  have symmetric : Std.Symm fun a b => le a b = false ∨ le b a = false := ⟨fun _ _ => Or.symm⟩
  have apart : sorted.Pairwise fun a b => le a b = false ∨ le b a = false := strict.imp .inr
  have perm := (List.mergeSort_perm others le).trans same
  refine List.Perm.eq_of_pairwise ?_ (List.pairwise_mergeSort trans total others) ordered perm
  intro a b first second below above
  refine Classical.byContradiction fun other => ?_
  rcases apart.forall (perm.mem_iff.mp first) second other with not | not
  · rw [below] at not
    cases not
  · rw [above] at not
    cases not

theorem dedup_subset (fields : List (String × α)) : ∀ f ∈ sortFields.dedup fields, f ∈ fields := by
  fun_induction sortFields.dedup fields with
  | case1 k v k' v' rest same ih => exact fun f inside => List.mem_cons_of_mem _ (ih f inside)
  | case2 k v k' v' rest other ih =>
    intro f inside
    rcases List.mem_cons.mp inside with rfl | later
    · exact List.mem_cons_self
    · exact List.mem_cons_of_mem _ (ih f later)
  | case3 short => exact fun f inside => inside

theorem dedup_ordered {fields : List (String × α)} (ordered : fields.Pairwise fun a b => a.1 ≤ b.1) :
    (sortFields.dedup fields).Pairwise fun a b => a.1 < b.1 := by
  fun_induction sortFields.dedup fields with
  | case1 k v k' v' rest same ih => exact ih ordered.of_cons
  | case2 k v k' v' rest other ih =>
    refine List.pairwise_cons.mpr ⟨fun f inside => ?_, ih ordered.of_cons⟩
    have next : k ≤ k' := List.rel_of_pairwise_cons ordered List.mem_cons_self
    have apart : k ≠ k' := fun same => other (beq_iff_eq.mpr same)
    have later : k' ≤ f.1 := by
      rcases List.mem_cons.mp (dedup_subset _ f inside) with rfl | behind
      · exact String.le_refl _
      · exact List.rel_of_pairwise_cons ordered.of_cons behind
    exact String.not_le.mp fun back => apart (String.le_antisymm next (String.le_trans later back))
  | case3 short single =>
    match short, single with
    | [], _ => exact .nil
    | [f], _ => exact List.pairwise_singleton _ f
    | f :: g :: rest, single => exact (single f.1 f.2 g.1 g.2 rest rfl).elim

theorem dedup_of_ordered {fields : List (String × α)} (ordered : fields.Pairwise fun a b => a.1 < b.1) :
    sortFields.dedup fields = fields := by
  fun_induction sortFields.dedup fields with
  | case1 k v k' v' rest same ih =>
    have apart : k < k' := List.rel_of_pairwise_cons ordered List.mem_cons_self
    rw [eq_of_beq same] at apart
    exact absurd apart (String.lt_irrefl k')
  | case2 k v k' v' rest other ih => rw [ih ordered.of_cons]
  | case3 short single => rfl

theorem dedup_filter {fields : List (String × α)} (ordered : fields.Pairwise fun a b => a.1 ≤ b.1) (name : String) :
    (sortFields.dedup fields).filter (·.1 == name) = (fields.filter (·.1 == name)).getLast?.toList := by
  fun_induction sortFields.dedup fields with
  | case1 k v k' v' rest same ih =>
    rw [ih ordered.of_cons, eq_of_beq same]
    by_cases here : k' == name
    · simp [here]
    · simp [here]
  | case2 k v k' v' rest other ih =>
    by_cases here : k == name
    · have none : ((k', v') :: rest).filter (·.1 == name) = [] := by
        rw [List.filter_eq_nil_iff]
        intro f inside again
        have next : k ≤ k' := List.rel_of_pairwise_cons ordered List.mem_cons_self
        have later : k' ≤ f.1 := by
          rcases List.mem_cons.mp inside with rfl | behind
          · exact String.le_refl _
          · exact List.rel_of_pairwise_cons ordered.of_cons behind
        rw [eq_of_beq again, ← eq_of_beq here] at later
        exact other (beq_iff_eq.mpr (String.le_antisymm next later))
      have alone := ih ordered.of_cons
      rw [none] at alone
      rw [List.filter_cons_of_pos (a := (k, v)) here, List.filter_cons_of_pos (a := (k, v)) here, none, alone]
      rfl
    · rw [List.filter_cons_of_neg (a := (k, v)) here, List.filter_cons_of_neg (a := (k, v)) here]
      exact ih ordered.of_cons
  | case3 short single =>
    match short, single with
    | [], _ => rfl
    | [f], _ => cases here : f.1 == name <;> simp [here]
    | f :: g :: rest, single => exact (single f.1 f.2 g.1 g.2 rest rfl).elim

theorem names_trans (a b c : String × α) (first : decide (a.1 ≤ b.1) = true) (second : decide (b.1 ≤ c.1) = true) :
    decide (a.1 ≤ c.1) = true := by
  simp only [decide_eq_true_eq] at first second ⊢
  exact String.le_trans first second

theorem names_total (a b : String × α) : (decide (a.1 ≤ b.1) || decide (b.1 ≤ a.1)) = true := by
  simp only [Bool.or_eq_true, decide_eq_true_eq]
  exact String.le_total a.1 b.1

theorem sortFields_ordered (fields : List (String × α)) :
    (sortFields fields).Pairwise fun a b => a.1 < b.1 := by
  have sorted := List.pairwise_mergeSort names_trans names_total fields
  simp only [decide_eq_true_eq] at sorted
  exact dedup_ordered sorted

theorem mem_of_mem_sortFields {fields : List (String × α)} {f : String × α}
    (inside : f ∈ sortFields fields) : f ∈ fields :=
  List.mem_mergeSort.mp (dedup_subset _ f inside)

theorem sortFields_perm {fields others : List (String × α)}
    (ordered : fields.Pairwise fun a b => a.1 < b.1) (same : others.Perm fields) : sortFields others = fields := by
  have strict : fields.Pairwise fun a b => decide (b.1 ≤ a.1) = false :=
    ordered.imp fun before => decide_eq_false (String.not_le.mpr before)
  rw [sortFields, mergeSort_of_strict names_trans names_total strict same, dedup_of_ordered ordered]

theorem mergeSort_filter (fields : List (String × α)) (name : String) :
    (fields.mergeSort fun a b => decide (a.1 ≤ b.1)).filter (·.1 == name) = fields.filter (·.1 == name) := by
  have level : (fields.filter (·.1 == name)).Pairwise fun a b => decide (a.1 ≤ b.1) = true := by
    refine List.pairwise_of_forall_mem_list fun a first b second => ?_
    rw [eq_of_beq (List.mem_filter.mp first).2, eq_of_beq (List.mem_filter.mp second).2]
    exact decide_eq_true (String.le_refl name)
  have inside := (List.sublist_mergeSort names_trans names_total level List.filter_sublist).filter (·.1 == name)
  rw [List.filter_filter] at inside
  simp only [Bool.and_self] at inside
  exact (inside.eq_of_length ((List.mergeSort_perm _ _).filter _).length_eq.symm).symm

theorem mem_sortFields {fields : List (String × α)} {f : String × α} :
    f ∈ sortFields fields ↔ (fields.filter (·.1 == f.1)).getLast? = some f := by
  have sorted := List.pairwise_mergeSort names_trans names_total fields
  simp only [decide_eq_true_eq] at sorted
  have kept := dedup_filter sorted f.1
  rw [mergeSort_filter] at kept
  calc f ∈ sortFields fields
    _ ↔ f ∈ (sortFields fields).filter (·.1 == f.1) := by simp
    _ ↔ f ∈ (fields.filter (·.1 == f.1)).getLast?.toList := by rw [sortFields, kept]
    _ ↔ (fields.filter (·.1 == f.1)).getLast? = some f := Option.mem_toList

end Fields

end BoundedScript.Json
