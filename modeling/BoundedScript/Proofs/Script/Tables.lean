import BoundedScript.Proofs.Json.Regular
import BoundedScript.Proofs.Script.Keys

set_option autoImplicit false

namespace BoundedScript.Script

namespace PropKey

def index? : PropKey → Option Nat
  | .index n => some n
  | _ => none

def isName : PropKey → Bool
  | .name _ => true
  | _ => false

def isSymbol : PropKey → Bool
  | .symbol _ => true
  | _ => false

theorem isSymbol_ofUnits (u : Units) : (ofUnits u).isSymbol = false := by
  rw [ofUnits]
  cases indexOf? u <;> rfl

theorem isName_ofUnits (u : Units) : (ofUnits u).isName = !(ofUnits u).index?.isSome := by
  rw [ofUnits]
  cases indexOf? u <;> rfl

def seen (ks : List PropKey) : List PropKey :=
  ((ks.filterMap index?).mergeSort (· ≤ ·)).map .index ++ ks.filter isName ++ ks.filter isSymbol

end PropKey

namespace PropTable

section

variable {t : PropTable} {l : List (PropKey × Property)} {k k' : PropKey} {p : Property}

theorem get?_empty (k : PropKey) : empty.get? k = none := by
  rw [get?, empty, Std.HashMap.getElem?_empty]
  rfl

theorem get?_insert (t : PropTable) (k k' : PropKey) (p : Property) :
    (t.insert k p).get? k' = if k = k' then some p else t.get? k' := by
  have stored : ∀ i, ((t.entries.insert k (i, p))[k']?).map (·.2) = if k = k' then some p else t.get? k' := by
    intro i
    rw [Std.HashMap.getElem?_insert]
    by_cases same : k = k'
    · simp [same]
    · rw [beq_false_of_ne same, if_neg same]
      rfl
  rw [insert]
  split <;> exact stored _

structure Holds (t : PropTable) (l : List (PropKey × Property)) : Prop where
  entries : t.entries.toList.Perm (l.zipIdx.map fun e => (e.1.1, e.2, e.1.2))
  next : t.next = l.length

theorem holds_empty : empty.Holds [] where
  entries := by simp [empty]
  next := rfl

theorem Holds.getElem? (holds : t.Holds l) {i : Nat} :
    t.entries[k]? = some (i, p) ↔ l[i]? = some (k, p) := by
  rw [← Std.HashMap.mem_toList_iff_getElem?_eq_some, holds.entries.mem_iff]
  constructor
  · intro inside
    obtain ⟨⟨⟨k, p⟩, i⟩, there, same⟩ := List.mem_map.mp inside
    cases same
    exact List.mem_zipIdx_iff_getElem?.mp there
  · intro there
    exact List.mem_map.mpr ⟨((k, p), i), List.mem_zipIdx_iff_getElem?.mpr there, rfl⟩

theorem Holds.get?_eq_some (holds : t.Holds l) : t.get? k = some p ↔ (k, p) ∈ l := by
  rw [get?, Option.map_eq_some_iff, List.mem_iff_getElem?]
  constructor
  · rintro ⟨⟨i, p⟩, there, rfl⟩
    exact ⟨i, holds.getElem?.mp there⟩
  · rintro ⟨i, there⟩
    exact ⟨(i, p), holds.getElem?.mpr there, rfl⟩

theorem Holds.get?_eq_none (holds : t.Holds l) (new : k ∉ l.map (·.1)) : t.get? k = none := by
  rw [Option.eq_none_iff_forall_ne_some]
  intro p found
  exact new (List.mem_map.mpr ⟨(k, p), holds.get?_eq_some.mp found, rfl⟩)

theorem Holds.insert (holds : t.Holds l) (new : k ∉ l.map (·.1)) (p : Property) :
    (t.insert k p).Holds (l ++ [(k, p)]) := by
  have absent : t.entries[k]? = none := by
    have none := holds.get?_eq_none new
    rwa [get?, Option.map_eq_none_iff] at none
  have other : ∀ e ∈ t.entries.toList, (k == e.1) = false := by
    rintro ⟨k', i, p'⟩ inside
    rw [beq_eq_false_iff_ne]
    rintro rfl
    rw [Std.HashMap.mem_toList_iff_getElem?_eq_some, absent] at inside
    cases inside
  have all : (t.entries.toList.filter fun e => decide ¬(k == e.1) = true) = t.entries.toList := by
    rw [List.filter_eq_self]
    intro e inside
    simp [other e inside]
  have stored : t.insert k p = ⟨t.entries.insert k (t.next, p), t.next + 1⟩ := by
    rw [PropTable.insert, absent]
  rw [stored]
  refine ⟨?_, by simp [holds.next]⟩
  have perm := Std.HashMap.toList_insert_perm (m := t.entries) (k := k) (v := (t.next, p))
  rw [all] at perm
  have behind : ((l ++ [(k, p)]).zipIdx.map fun e => (e.1.1, e.2, e.1.2)) =
      (l.zipIdx.map fun e => (e.1.1, e.2, e.1.2)) ++ [(k, t.next, p)] := by
    simp [List.zipIdx_append, holds.next]
  rw [behind]
  exact (perm.trans (holds.entries.cons _)).trans (List.perm_append_singleton _ _).symm

theorem Holds.inserts (holds : t.Holds l) {more : List (PropKey × Property)}
    (distinct : ((l ++ more).map (·.1)).Nodup) : (more.foldl (fun t e => t.insert e.1 e.2) t).Holds (l ++ more) := by
  induction more generalizing t l with
  | nil =>
    rw [List.append_nil]
    exact holds
  | cons e more ih =>
    have joined : l ++ e :: more = l ++ [e] ++ more := (List.append_cons l e more)
    have new : e.1 ∉ l.map (·.1) := by
      rw [List.map_append, List.map_cons] at distinct
      intro old
      exact (List.nodup_append.mp distinct).2.2 _ old _ List.mem_cons_self rfl
    rw [joined] at distinct ⊢
    exact ih (holds.insert new e.2) distinct

theorem Holds.toList (holds : t.Holds l) : t.toList = l := by
  have strict : (l.zipIdx.map fun e => (e.1.1, e.2, e.1.2)).Pairwise
      fun a b => decide (b.2.1 ≤ a.2.1) = false := by
    rw [List.pairwise_map, List.pairwise_iff_getElem]
    intro i j here there before
    simpa using before
  have trans : ∀ a b c : PropKey × Nat × Property, decide (a.2.1 ≤ b.2.1) = true → decide (b.2.1 ≤ c.2.1) = true →
      decide (a.2.1 ≤ c.2.1) = true := by
    simp only [decide_eq_true_eq]
    omega
  have total : ∀ a b : PropKey × Nat × Property, (decide (a.2.1 ≤ b.2.1) || decide (b.2.1 ≤ a.2.1)) = true := by
    simp only [Bool.or_eq_true, decide_eq_true_eq]
    omega
  have sorted := Json.mergeSort_of_strict trans total strict holds.entries
  rw [PropTable.toList, sorted, List.map_map]
  exact List.zipIdx_map_fst 0 l

theorem Holds.keys (holds : t.Holds l) : t.keys = PropKey.seen (l.map (·.1)) := by
  rw [PropTable.keys]
  split
  next none =>
    have short : l = [] := by
      have perm := holds.entries
      rw [← Std.HashMap.isEmpty_toList, List.isEmpty_iff] at none
      rw [none] at perm
      simpa using perm
    simp [short, PropKey.seen]
  next =>
    rw [holds.toList]
    rfl

end

end PropTable
end BoundedScript.Script
