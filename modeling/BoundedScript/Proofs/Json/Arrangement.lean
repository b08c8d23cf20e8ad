import Mathlib.Data.List.Perm.Basic
import BoundedScript.Proofs.Json.RoundTrip
import BoundedScript.Proofs.Script.Tables

set_option autoImplicit false

namespace BoundedScript.Json

open Reading
open Script (PropKey)

section

variable {α β : Type}

def key (field : String × α) : PropKey :=
  .ofString field.1

def isRanked (field : String × α) : Bool :=
  (key field).index?.isSome

def rank (field : String × α) : Nat :=
  (key field).index?.getD 0

def arrange (fields : List (String × α)) : List (String × α) :=
  (fields.filter isRanked).mergeSort (fun a b => rank a ≤ rank b) ++ fields.filter fun f => !isRanked f

theorem arrange_perm (fields : List (String × α)) : (arrange fields).Perm fields :=
  ((List.mergeSort_perm _ _).append_right _).trans (List.filter_append_perm isRanked fields)

theorem arrange_map (g : α → β) (fields : List (String × α)) :
    arrange (fields.map fun f => (f.1, g f.2)) = (arrange fields).map fun f => (f.1, g f.2) := by
  have sorted : ((fields.filter isRanked).map fun f => (f.1, g f.2)).mergeSort (fun a b => rank a ≤ rank b) =
      ((fields.filter isRanked).mergeSort fun a b => rank a ≤ rank b).map fun f => (f.1, g f.2) :=
    (List.map_mergeSort (f := fun f : String × α => (f.1, g f.2))
      (s := fun a b : String × β => decide (rank a ≤ rank b)) fun _ _ _ _ => rfl).symm
  rw [arrange, arrange, List.map_append, ← sorted, List.filter_map, List.filter_map]
  rfl

theorem map_rank (fields : List (String × α)) :
    (fields.filter isRanked).map rank = (fields.map key).filterMap PropKey.index? := by
  induction fields with
  | nil => rfl
  | cons f fields ih =>
    rw [List.map_cons, List.filterMap_cons, List.filter_cons, isRanked]
    cases ranked : (key f).index? with
    | none => simpa using ih
    | some n => simp [rank, ranked, ih]

theorem index_rank {fields : List (String × α)} (ranked : ∀ f ∈ fields, isRanked f = true) :
    (fields.map rank).map PropKey.index = fields.map key := by
  rw [List.map_map, List.map_inj_left]
  intro f inside
  have ranked := ranked f inside
  rw [isRanked] at ranked
  rw [Function.comp_apply, rank]
  cases kind : key f with
  | index n => rfl
  | name u =>
    rw [kind] at ranked
    cases ranked
  | symbol id =>
    rw [kind] at ranked
    cases ranked

theorem map_arrange (fields : List (String × α)) :
    (arrange fields).map key = PropKey.seen (fields.map key) := by
  have ranks : ((fields.filter isRanked).mergeSort fun a b => rank a ≤ rank b).map key =
      (((fields.map key).filterMap PropKey.index?).mergeSort (· ≤ ·)).map PropKey.index := by
    rw [← map_rank, ← List.map_mergeSort (f := rank) (r := fun a b : String × α => decide (rank a ≤ rank b))
      fun _ _ _ _ => rfl, index_rank]
    intro f inside
    exact (List.mem_filter.mp (List.mem_mergeSort.mp inside)).2
  have symbols : (fields.map key).filter PropKey.isSymbol = [] := by
    rw [List.filter_eq_nil_iff]
    intro k inside
    obtain ⟨f, -, rfl⟩ := List.mem_map.mp inside
    rw [key, PropKey.ofString, PropKey.isSymbol_ofUnits]
    exact Bool.false_ne_true
  have names : (fields.filter fun f => !isRanked f).map key = (fields.map key).filter PropKey.isName := by
    rw [List.filter_map]
    congr 1
    apply List.filter_congr
    intro f inside
    rw [Function.comp_apply, isRanked, key, PropKey.ofString, PropKey.isName_ofUnits]
  rw [arrange, List.map_append, ranks, names, PropKey.seen, symbols, List.append_nil]

end

mutual

def arranged : Json → Json
  | .array items => .array (arrangedItems items)
  | .object fields => .object (arrange (arrangedFields fields))
  | v => v

def arrangedItems : List Json → List Json
  | [] => []
  | v :: rest => arranged v :: arrangedItems rest

def arrangedFields : List (String × Json) → List (String × Json)
  | [] => []
  | (k, v) :: rest => (k, arranged v) :: arrangedFields rest

end

theorem arrangedItems_eq_map (items : List Json) : arrangedItems items = items.map arranged := by
  induction items with
  | nil => rfl
  | cons v rest ih => rw [arrangedItems, ih, List.map_cons]

theorem arrangedFields_eq_map (fields : List (String × Json)) :
    arrangedFields fields = fields.map fun f => (f.1, arranged f.2) := by
  induction fields with
  | nil => rfl
  | cons f rest ih => rw [arrangedFields, ih, List.map_cons]

def scriptText (v : Json) : List Char :=
  compact (arranged v)

theorem scriptText_array (items : List Json) :
    scriptText (.array items) = '[' :: separated [','] (items.map scriptText) ++ [']'] := by
  rw [scriptText, arranged, compact, compactItems_eq_map, arrangedItems_eq_map, List.map_map]
  rfl

theorem scriptText_object (fields : List (String × Json)) :
    scriptText (.object fields) =
      '\x7b' :: separated [','] ((arrange fields).map (fieldBy scriptText)) ++ ['\x7d'] := by
  rw [scriptText, arranged, compact, compactFields_eq_map, arrangedFields_eq_map, arrange_map, List.map_map]
  rfl

theorem stands_scriptText {v : Json} (regular : Regular v) (readBack : ∀ x, HasFloat x v → ReadsBack x)
    (depth : Nat) : Stands depth (scriptText v) v := by
  induction regular generalizing depth with
  | null => exact taken_of_regular .null readBack depth
  | bool b => exact taken_of_regular (.bool b) readBack depth
  | int low high => exact taken_of_regular (.int low high) readBack depth
  | float x => exact taken_of_regular (.float x) readBack depth
  | string s => exact taken_of_regular (.string s) readBack depth
  | array each ih =>
    rw [scriptText_array]
    exact stands_array (fun v inside => ih v inside fun x has => readBack x (.item inside has)) depth
  | object ordered each ih =>
    rw [scriptText_object]
    exact stands_object ordered (arrange_perm _)
      (fun field inside => ih field inside fun x has => readBack x (.field inside has)) depth

theorem separated_perm {α : Type} {text other : α → List Char} {items others : List α} (same : items.Perm others)
    (each : ∀ a ∈ items, (text a).Perm (other a)) :
    (separated [','] (items.map text)).Perm (separated [','] (others.map other)) := by
  have led : ∀ (text : α → List Char) (a : α) (rest : List α),
      ',' :: separated [','] ((a :: rest).map text) = (a :: rest).flatMap fun b => ',' :: text b := by
    intro text a rest
    rw [separated_cons]
    rfl
  cases items with
  | nil =>
    rw [List.nil_perm.mp same]
    rfl
  | cons a items =>
    cases others with
    | nil => cases same.length_eq
    | cons b others =>
      have parts := same.flatMap fun c inside => (each c inside).cons ','
      rw [← led, ← led] at parts
      exact parts.cons_inv

theorem scriptText_perm {v : Json} (regular : Regular v) : (scriptText v).Perm (compact v) := by
  induction regular with
  | array each ih =>
    rw [scriptText_array, compact, compactItems_eq_map]
    exact ((separated_perm (.refl _) ih).append_right [']']).cons '['
  | object ordered each ih =>
    rw [scriptText_object, compact, compactFields_eq_map]
    refine ((separated_perm (arrange_perm _) ?_).append_right ['\x7d']).cons '\x7b'
    intro field inside
    have value := ih field ((arrange_perm _).mem_iff.mp inside)
    exact (value.cons ':').append_left _
  | _ => exact .refl _

end BoundedScript.Json
