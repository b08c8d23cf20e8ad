import BoundedScript.Evaluator
import BoundedScript.Proofs.Script.Coercions
import BoundedScript.Proofs.Script.Images

set_option autoImplicit false

namespace BoundedScript

open Script Run JsonObject

def IsOpen (p : Property) : Prop :=
  ∃ v, p.slot = .data v true

structure Soft (o : Obj) : Prop where
  kind : o.kind = .ordinary ∨ ∃ items length, o.kind = .array items length false
  held : ∀ k p, o.props.get? k = some p → IsOpen p
  parent : o.parent = some Intrinsic.objectPrototype.addr ∨ o.parent = some Intrinsic.arrayPrototype.addr

def IsRoot (a : Addr) : Prop :=
  a = Intrinsic.objectPrototype.addr ∨ a = Intrinsic.arrayPrototype.addr ∨ World.fresh.heap.size ≤ a

structure IsTop (o : Obj) : Prop where
  plain : o.kind = .ordinary ∧ o.extensible = true
  held : ∀ n, n ∉ fixedNames → (Label.name n).isWord = true → ∀ p, o.own? (.ofString n) = some p → IsOpen p
  parent : ∀ b, o.parent = some b → IsRoot b

structure Furbished (heap : Array Obj) : Prop where
  hosts : Hosts heap
  top : ∃ o, heap[Intrinsic.global.addr]? = some o ∧ IsTop o
  soft : ∀ a o, World.fresh.heap.size ≤ a → heap[a]? = some o → Soft o

def IsFound (n : String) (p : Property) : Prop :=
  IsOpen p ∨ n = "__proto__" ∧ ∃ g a, IsNative World.fresh.heap a (.object .protoSet) ∧ p.slot = .accessor g (.object a)

theorem IsRoot.ne_top {a : Addr} (root : IsRoot a) : a ≠ Intrinsic.global.addr := by
  rcases root with rfl | rfl | behind
  · decide
  · decide
  · exact Nat.ne_of_gt (Nat.lt_of_lt_of_le (Nat.lt_of_lt_of_le (Intrinsic.addr_lt _) World.fresh_furnished.room) behind)

section Documents

theorem imageFields_open (base : Addr) {fields : List (String × Json)} {k : PropKey} {p : Property}
    (inside : (k, p) ∈ imageFields base fields) : IsOpen p := by
  induction fields generalizing base with
  | nil => cases inside
  | cons field rest ih =>
    rw [imageFields] at inside
    rcases List.mem_cons.mp inside with same | later
    · cases same
      exact ⟨_, rfl⟩
    · exact ih _ later

mutual

theorem objects_soft (base : Addr) : ∀ (v : Json), ∀ o ∈ objects base v, Soft o
  | .array items => by
    intro o inside
    rw [objects, List.mem_append, List.mem_singleton] at inside
    rcases inside with earlier | rfl
    · exact objectsItems_soft base items o earlier
    · refine ⟨.inr ⟨_, _, rfl⟩, fun k p found => ?_, .inr rfl⟩
      change PropTable.empty.get? k = some p at found
      rw [PropTable.get?_empty] at found
      cases found
  | .object fields => by
    intro o inside
    rw [objects] at inside
    rcases List.mem_cons.mp inside with rfl | later
    · refine ⟨.inl rfl, fun k p found => ?_, .inl rfl⟩
      rcases filled_get? _ _ found with held | bare
      · exact imageFields_open _ held
      · change PropTable.empty.get? k = some p at bare
        rw [PropTable.get?_empty] at bare
        cases bare
    · exact objectsFields_soft _ fields o later
  | .null | .bool _ | .int _ | .float _ | .string _ => fun _ inside => by cases inside

theorem objectsItems_soft (base : Addr) : ∀ (items : List Json), ∀ o ∈ objectsItems base items, Soft o
  | [] => fun _ inside => by cases inside
  | v :: rest => by
    intro o inside
    rw [objectsItems, List.mem_append] at inside
    exact inside.elim (objects_soft base v o) (objectsItems_soft _ rest o)

theorem objectsFields_soft (base : Addr) : ∀ (fields : List (String × Json)), ∀ o ∈ objectsFields base fields, Soft o
  | [] => fun _ inside => by cases inside
  | (_, v) :: rest => by
    intro o inside
    rw [objectsFields, List.mem_append] at inside
    exact inside.elim (objects_soft base v o) (objectsFields_soft _ rest o)

end

theorem image_behind (base : Addr) {v : Json} {a : Addr} (same : image base v = .object a) : base ≤ a := by
  cases v with
  | array items =>
    cases same
    exact Nat.le_add_right _ _
  | object fields =>
    cases same
    exact Nat.le_refl _
  | _ => cases same

end Documents

section Found

variable {n : String} (word : (Label.name n).isWord = true) {o : Obj} {p : Property}
include word

theorem own?_loose (kind : o.kind = .ordinary ∨ ∃ items length, o.kind = .array items length false)
    (own : o.own? (.ofString n) = some p) : IsOpen p ∨ o.props.get? (.ofString n) = some p := by
  rcases kind with ordinary | ⟨items, length, list⟩
  · rw [Obj.own?, ordinary] at own
    exact .inr own
  · have key : PropKey.ofString n = .name (Units.ofString n) := Label.key_word word
    rw [Obj.own?, list, key] at own
    dsimp only at own
    split at own
    · cases own
      exact .inl ⟨_, rfl⟩
    · rw [key]
      exact .inr own

theorem Soft.own (soft : Soft o) (own : o.own? (.ofString n) = some p) : IsOpen p :=
  (own?_loose word soft.kind own).elim id (soft.held _ p)

theorem lent_object (there : World.fresh.heap[Intrinsic.objectPrototype.addr]? = some o)
    (own : o.own? (.ofString n) = some p) : IsFound n p := by
  have decent := World.fresh_furnished.decent _ o there
  rcases own?_loose word (.inl (decent.plain (.inr rfl)).1) own with good | held
  · exact .inl good
  · have met := decent.held (.name n) p held
    rw [demand_addr, demandAt] at met
    split at met
    next same => exact .inr ⟨same, met⟩
    · split at met
      · obtain ⟨a, f, -, -, slot⟩ := met
        exact .inl ⟨_, slot⟩
      · split at met
        · exact .inl met
        · exact met.elim

theorem lent_array (there : World.fresh.heap[Intrinsic.arrayPrototype.addr]? = some o)
    (own : o.own? (.ofString n) = some p) : IsOpen p := by
  have decent := World.fresh_furnished.decent _ o there
  rcases own?_loose word (decent.list rfl) own with good | held
  · exact good
  · have met := decent.held (.name n) p held
    rw [demand_addr, demandAt] at met
    split at met
    · exact met.elim
    · exact met

variable {heap : Array Obj} (furbished : Furbished heap)
include furbished

theorem Furbished.own_root {a : Addr} (root : IsRoot a) (there : heap[a]? = some o)
    (own : o.own? (.ofString n) = some p) : IsFound n p := by
  have low : ∀ i : Intrinsic, i.addr < World.fresh.heap.size :=
    fun i => Nat.lt_of_lt_of_le i.addr_lt World.fresh_furnished.room
  rcases root with rfl | rfl | behind
  · rw [furbished.hosts.same _ (by decide) (low _)] at there
    exact lent_object word there own
  · rw [furbished.hosts.same _ (by decide) (low _)] at there
    exact .inl (lent_array word there own)
  · exact .inl ((furbished.soft a o behind there).own word own)

omit word in
theorem Furbished.parent_root {a b : Addr} (root : IsRoot a) (there : heap[a]? = some o) (parent : o.parent = some b) :
    IsRoot b := by
  have low : ∀ i : Intrinsic, i.addr < World.fresh.heap.size :=
    fun i => Nat.lt_of_lt_of_le i.addr_lt World.fresh_furnished.room
  rcases root with rfl | rfl | behind
  · rw [furbished.hosts.same _ (by decide) (low _)] at there
    exact .inl (fresh_parent (by simp [watched]) there parent)
  · rw [furbished.hosts.same _ (by decide) (low _)] at there
    exact .inl (fresh_parent (by simp [watched]) there parent)
  · rcases (furbished.soft a o behind there).parent with same | same
    · exact .inl (Option.some.inj (parent.symm.trans same))
    · exact .inr (.inl (Option.some.inj (parent.symm.trans same)))

theorem Furbished.find_root {s : Realm} (same : s.heap = heap) {a : Addr} (root : IsRoot a) {fuel : Nat}
    (found : s.find? a (.ofString n) fuel = some p) : IsFound n p := by
  subst same
  induction fuel generalizing a with
  | zero => cases found
  | succ fuel ih =>
    rw [Realm.find?] at found
    cases there : s.heap[a]? with
    | none =>
      rw [there] at found
      cases found
    | some o =>
      simp only [there] at found
      cases own : o.own? (.ofString n) with
      | some q =>
        simp only [own] at found
        cases found
        exact furbished.own_root word root there own
      | none =>
        simp only [own] at found
        cases parent : o.parent with
        | none =>
          rw [parent] at found
          cases found
        | some b =>
          simp only [parent] at found
          exact ih (furbished.parent_root root there parent) found

-- No object that others inherit from inherits from the one at the top.
omit word in
theorem Furbished.inheritsFrom_root {s : Realm} (same : s.heap = heap) {a : Addr} (root : IsRoot a) (fuel : Nat) :
    inheritsFrom Intrinsic.global.addr fuel a s = .ok false s := by
  subst same
  induction fuel generalizing a with
  | zero => rfl
  | succ fuel ih =>
    have got : getObj a s = .ok (s.heap[a]?.getD default) s := rfl
    rw [inheritsFrom, bind_of_ok got]
    cases there : s.heap[a]? with
    | none => rfl
    | some o =>
      rw [Option.getD_some]
      cases parent : o.parent with
      | none => rfl
      | some b =>
        have next := furbished.parent_root root there parent
        have apart : (b == Intrinsic.global.addr) = false := beq_eq_false_iff_ne.mpr next.ne_top
        simp only [apart]
        exact ih next

end Found

section Assigned

def retop (s : Realm) (f : Obj → Obj) : Realm :=
  { s with heap := s.heap.modify Intrinsic.global.addr f }

structure Assigns (n : String) (v : Value) (f : Obj → Obj) : Prop where
  top : ∀ o, IsTop o → IsTop (f o)
  others : ∀ o, IsTop o → ∀ m, m ≠ n → (f o).own? (.ofString m) = o.own? (.ofString m)
  name : n ≠ "__proto__" → ∀ o, IsTop o → ∃ p, (f o).own? (.ofString n) = some p ∧ p.slot = .data v true
  parent : n ≠ "__proto__" → ∀ o, (f o).parent = o.parent

theorem IsTop.own?_put {o : Obj} (top : IsTop o) (k k' : PropKey) (p : Property) :
    (o.put k p).own? k' = if k = k' then some p else o.own? k' := by
  have bare : ∀ props : PropTable, Obj.own? { o with props } k' = props.get? k' := by
    intro props
    rw [Obj.own?]
    simp only [top.plain.1]
  have whole : o.own? k' = o.props.get? k' := bare o.props
  rw [whole, Obj.put, bare, PropTable.get?_insert]

theorem assigns_put {n : String} {v : Value} {p : Property} (slot : p.slot = .data v true) :
    Assigns n v (·.put (.ofString n) p) where
  top o top := by
    refine ⟨top.plain, ?_, top.parent⟩
    intro m free word q own
    rw [top.own?_put] at own
    split at own
    · cases own
      exact ⟨v, slot⟩
    · exact top.held m free word q own
  others o top m other := by
    rw [top.own?_put, if_neg fun same => other (PropKey.ofString_inj same).symm]
  name _ o top := by
    refine ⟨p, ?_, slot⟩
    rw [top.own?_put, if_pos rfl]
  parent _ _ := rfl

variable {s : Realm} (furbished : Furbished s.heap) {n : String}
include furbished

theorem Furbished.retop {f : Obj → Obj} (top : ∀ o, IsTop o → IsTop (f o)) : Furbished (retop s f).heap := by
  have others : ∀ a, a ≠ Intrinsic.global.addr → (s.heap.modify Intrinsic.global.addr f)[a]? = s.heap[a]? := by
    intro a other
    rw [Array.getElem?_modify, if_neg other.symm]
  refine ⟨⟨?_, ?_⟩, ?_, ?_⟩
  · have size : (BoundedScript.retop s f).heap.size = s.heap.size := Array.size_modify
    rw [size]
    exact furbished.hosts.room
  · intro a other low
    exact (others a other).trans (furbished.hosts.same a other low)
  · obtain ⟨o, there, isTop⟩ := furbished.top
    refine ⟨f o, ?_, top o isTop⟩
    change (s.heap.modify Intrinsic.global.addr f)[Intrinsic.global.addr]? = _
    rw [Array.getElem?_modify, if_pos rfl, there]
    rfl
  · intro a o behind there
    have root : IsRoot a := .inr (.inr behind)
    exact furbished.soft a o behind ((others a root.ne_top).symm.trans there)

omit furbished in
theorem assigns_parent {p : Option Addr} (root : ∀ b, p = some b → IsRoot b) (v : Value) :
    Assigns "__proto__" v fun o => { o with parent := p } where
  top _ top := ⟨top.plain, top.held, root⟩
  others _ _ _ _ := rfl
  name other := absurd rfl other
  parent other := absurd rfl other

omit furbished in
theorem retop_same {o : Obj} (there : s.heap[Intrinsic.global.addr]? = some o) {f : Obj → Obj} (same : f o = o) :
    BoundedScript.retop s f = s := by
  have heap : s.heap.modify Intrinsic.global.addr f = s.heap := by
    apply Array.ext_getElem?
    intro a
    rw [Array.getElem?_modify]
    split
    next here => rw [← here, there, Option.map_some, same]
    next => rfl
  rw [BoundedScript.retop, heap]

theorem setParent_top {p : Option Addr} (root : ∀ b, p = some b → IsRoot b) :
    setParent Intrinsic.global.addr p s = .ok () (BoundedScript.retop s fun o => { o with parent := p }) := by
  obtain ⟨o, there, isTop⟩ := furbished.top
  have got := getObj_apply there
  have tried : trySetParent Intrinsic.global.addr p s =
      .ok none (BoundedScript.retop s fun o => { o with parent := p }) := by
    rw [trySetParent, bind_of_ok got]
    by_cases same : o.parent = p
    · rw [retop_same there (by rw [← same]), if_pos (beq_iff_eq.mpr same)]
      rfl
    · rw [if_neg fun equal => same (beq_iff_eq.mp equal), if_neg (by decide), isTop.plain.2]
      cases p with
      | none => rfl
      | some b =>
        have apart := (root b rfl).ne_top
        have away : (b == Intrinsic.global.addr || false) = false := by
          rw [Bool.or_false]
          exact beq_eq_false_iff_ne.mpr apart
        rw [if_neg (by decide)]
        refine (bind_of_ok (furbished.inheritsFrom_root rfl (root b rfl) maxParents) _).trans ?_
        rw [away]
        rfl
  rw [setParent, bind_of_ok tried]
  rfl

theorem storeOwn_top (k : PropKey) (v : Value)
    (opened : ∀ o, s.heap[Intrinsic.global.addr]? = some o → ∀ p, o.own? k = some p → IsOpen p) :
    ∃ p : Property, storeOwn Engine.full Intrinsic.global.addr k v s = .ok () (BoundedScript.retop s (·.put k p)) ∧
      p.slot = .data v true := by
  obtain ⟨o, there, isTop⟩ := furbished.top
  have got := getObj_apply there
  cases own : o.own? k with
  | none =>
    refine ⟨.plain v, ?_, rfl⟩
    rw [storeOwn, bind_of_ok got]
    simp only [own, isTop.plain.1, isTop.plain.2]
    have put : putOwn Intrinsic.global.addr k (.plain v) s = .ok () (BoundedScript.retop s (·.put k (.plain v))) := by
      rw [putOwn, bind_of_ok got, isTop.plain.1]
      rfl
    exact put
  | some p =>
    obtain ⟨w, slot⟩ := opened o there p own
    obtain ⟨_, enumerable, configurable⟩ := p
    cases slot
    refine ⟨⟨.data v true, enumerable, configurable⟩, ?_, rfl⟩
    rw [storeOwn, bind_of_ok got]
    simp only [own, isTop.plain.1]
    rfl

theorem callSetter_top {a : Addr} (native : IsNative World.fresh.heap a (.object .protoSet)) {v : Value}
    (behind : ∀ a, v = .object a → World.fresh.heap.size ≤ a) :
    ∃ f, callSetter Engine.full (.object a) (.object Intrinsic.global.addr) v s = .ok () (BoundedScript.retop s f) ∧
      Assigns "__proto__" v f := by
  have kind : kindOf a s = .ok (.native (.object .protoSet)) s := by
    obtain ⟨above, o, there, kind⟩ := native
    have apart : a ≠ Intrinsic.global.addr := Nat.ne_of_gt (Nat.lt_of_lt_of_le (Intrinsic.addr_lt _) above)
    have same := furbished.hosts.same a apart (Array.getElem?_eq_some_iff.mp there).1
    rw [kindOf_apply (same.trans there), kind]
  let parent : Option Addr → Obj → Obj := fun p o => { o with parent := p }
  have set : ∃ f, ObjectFn.run (Engine.ofDepth 7999) .protoSet (.object Intrinsic.global.addr) #[v] none s =
      .ok .undefined (BoundedScript.retop s f) ∧ Assigns "__proto__" v f := by
    have kept : ∃ f, (.ok .undefined s : EStateM.Result Abrupt Realm Value) =
        .ok .undefined (BoundedScript.retop s f) ∧ Assigns "__proto__" v f := by
      obtain ⟨o, there, isTop⟩ := furbished.top
      refine ⟨id, ?_, fun _ top => top, fun _ _ _ _ => rfl, fun other => absurd rfl other, fun other => absurd rfl other⟩
      rw [retop_same there rfl]
    cases v with
    | object b =>
      have root : ∀ c, some b = some c → IsRoot c := by
        rintro c ⟨⟩
        exact .inr (.inr (behind b rfl))
      exact ⟨parent (some b), bind_of_ok (setParent_top furbished root) _, assigns_parent root _⟩
    | null => exact ⟨parent none, bind_of_ok (setParent_top furbished (by nofun)) _, assigns_parent (by nofun) _⟩
    | _ => exact kept
  obtain ⟨f, ran, assigns⟩ := set
  have call : Engine.full.call = callFunction (Engine.ofDepth 7999) := rfl
  refine ⟨f, ?_, assigns⟩
  rw [callSetter, call, callFunction]
  exact bind_of_ok ((bind_of_ok kind _).trans ran) _

theorem find_top (word : (Label.name n).isWord = true) {o : Obj} (there : s.heap[Intrinsic.global.addr]? = some o)
    (isTop : IsTop o) (own : o.own? (.ofString n) = none) {p : Property}
    (found : s.find? Intrinsic.global.addr (.ofString n) maxParents = some p) : IsFound n p := by
  rw [maxParents, Realm.find?, there] at found
  simp only [own] at found
  cases parent : o.parent with
  | none =>
    rw [parent] at found
    cases found
  | some b =>
    simp only [parent] at found
    exact furbished.find_root word rfl (isTop.parent b parent) found

theorem setOf_top (word : (Label.name n).isWord = true) (free : n ∉ fixedNames) {v : Value}
    (behind : ∀ a, v = .object a → World.fresh.heap.size ≤ a) :
    ∃ f, Script.setOf Engine.full Intrinsic.global.addr (.ofString n) v s = .ok () (BoundedScript.retop s f) ∧
      Assigns n v f := by
  obtain ⟨o, there, isTop⟩ := furbished.top
  have opened : ∀ o, s.heap[Intrinsic.global.addr]? = some o → ∀ p, o.own? (.ofString n) = some p → IsOpen p := by
    intro q here p own
    cases there.symm.trans here
    exact isTop.held n free word p own
  obtain ⟨p, stored, slot⟩ := storeOwn_top furbished (.ofString n) v opened
  have store : ∃ f, storeOwn Engine.full Intrinsic.global.addr (.ofString n) v s = .ok () (BoundedScript.retop s f) ∧
      Assigns n v f := ⟨_, stored, assigns_put slot⟩
  have own : ownProperty? Intrinsic.global.addr (.ofString n) s = .ok (o.own? (.ofString n)) s := by
    rw [ownProperty?, bind_of_ok (getObj_apply there)]
    rfl
  rw [Script.setOf, bind_of_ok own]
  cases held : o.own? (.ofString n) with
  | some q => exact store
  | none =>
    have looked : find? Intrinsic.global.addr (.ofString n) s =
        .ok (s.find? Intrinsic.global.addr (.ofString n) maxParents) s := rfl
    simp only
    rw [bind_of_ok looked]
    cases found : s.find? Intrinsic.global.addr (.ofString n) maxParents with
    | none => exact store
    | some q =>
      rcases find_top furbished word there isTop held found with ⟨w, slot⟩ | ⟨rfl, g, a, native, slot⟩
      · obtain ⟨_, enumerable, configurable⟩ := q
        cases slot
        exact store
      · obtain ⟨_, enumerable, configurable⟩ := q
        cases slot
        exact callSetter_top furbished native behind

end Assigned

theorem fresh_furbished : Furbished World.fresh.heap := by
  have low : Intrinsic.global.addr < World.fresh.heap.size :=
    Nat.lt_of_lt_of_le (Intrinsic.addr_lt _) World.fresh_furnished.room
  have there := Array.getElem?_eq_getElem low
  have decent := World.fresh_furnished.decent _ _ there
  refine ⟨⟨Nat.le_refl _, fun _ _ _ => rfl⟩, ⟨_, there, decent.plain (.inl rfl), ?_, ?_⟩, ?_⟩
  · intro n free word p own
    rcases own?_loose word (.inl (decent.plain (.inl rfl)).1) own with good | held
    · exact good
    · have met := decent.held (.name n) p held
      rw [demand_addr, demandAt, if_neg free] at met
      split at met
      · exact ⟨_, met⟩
      · split at met
        · obtain ⟨a, f, -, -, slot⟩ := met
          exact ⟨_, slot⟩
        · split at met
          · exact met
          · exact met.elim
  · intro b parent
    exact .inl (decent.parent .global (by simp [watched]) rfl b parent)
  · intro a o behind found
    exact absurd (Array.getElem?_eq_some_iff.mp found).1 (Nat.not_lt.mpr behind)

theorem Furbished.extend {s : Realm} (furbished : Furbished s.heap) {os : List Obj} (soft : ∀ o ∈ os, Soft o) :
    Furbished (extend s os).heap := by
  have old : ∀ a, a < s.heap.size → (JsonObject.extend s os).heap[a]? = s.heap[a]? := by
    intro a low
    rw [JsonObject.extend, Array.getElem?_append_left low]
  refine ⟨⟨?_, ?_⟩, ?_, ?_⟩
  · rw [size_extend]
    exact Nat.le_add_right_of_le furbished.hosts.room
  · intro a other low
    rw [old a (Nat.lt_of_lt_of_le low furbished.hosts.room)]
    exact furbished.hosts.same a other low
  · obtain ⟨o, there, isTop⟩ := furbished.top
    refine ⟨o, ?_, isTop⟩
    rw [old _ (Array.getElem?_eq_some_iff.mp there).1, there]
  · intro a o behind there
    by_cases low : a < s.heap.size
    · rw [old a low] at there
      exact furbished.soft a o behind there
    · rw [JsonObject.extend, Array.getElem?_append_right (Nat.le_of_not_lt low)] at there
      rw [List.getElem?_toArray] at there
      exact soft o (List.mem_of_getElem? there)

theorem names_extend {s : Realm} {n : String} {v : Value} (names : Names s.heap n v) (os : List Obj) :
    Names (extend s os).heap n v := by
  obtain ⟨o, p, w, there, own, slot⟩ := names
  refine ⟨o, p, w, ?_, own, slot⟩
  rw [extend, Array.getElem?_append_left (Array.getElem?_eq_some_iff.mp there).1, there]

theorem retop_top {s : Realm} {o : Obj} (there : s.heap[Intrinsic.global.addr]? = some o) (f : Obj → Obj) :
    (retop s f).heap[Intrinsic.global.addr]? = some (f o) := by
  rw [retop, Array.getElem?_modify, if_pos rfl, there]
  rfl

theorem shows_retop {s : Realm} {hi : Addr} {v : Json} {x : Value} (shows : Shows s.heap World.fresh.heap.size hi v x)
    (f : Obj → Obj) : Shows (retop s f).heap World.fresh.heap.size hi v x := by
  obtain ⟨base, same, low, high, stored⟩ := shows
  refine ⟨base, same, low, high, fun i o there => ?_⟩
  have root : IsRoot (base + i) := .inr (.inr (Nat.le_add_right_of_le low))
  rw [retop, Array.getElem?_modify, if_neg root.ne_top.symm]
  exact stored i o there

structure Bindable (limit : Nat) (b : String × Json) : Prop where
  word : (Label.name b.1).isWord = true
  free : b.1 ∉ fixedNames
  fits : Fits limit b.2

namespace Evaluator

theorem bound_apply {s : Realm} (furbished : Furbished s.heap) {b : String × Json} (bindable : Bindable s.heapLimit b) :
    ∃ heap, (do
        let v ← JsonObject.ofJson b.2
        Script.setOf Engine.full Intrinsic.global.addr (.ofString b.1) v : Run Unit) s = .ok () { s with heap } ∧
      Furbished heap ∧ (∀ m v, m ≠ b.1 → Binds s.heap m v → Binds heap m v) ∧
      (b.1 ≠ "__proto__" → Binds heap b.1 b.2 ∧ ∀ m, m ≠ b.1 → SameTop s.heap heap m) := by
  have soft := objects_soft s.heap.size b.2
  have made : ofJson b.2 s = _ := ofJson_apply bindable.fits rfl
  have later := furbished.extend soft
  have behind : ∀ a, image s.heap.size b.2 = .object a → World.fresh.heap.size ≤ a :=
    fun a same => Nat.le_trans furbished.hosts.room (image_behind _ same)
  obtain ⟨f, stored, assigns⟩ := setOf_top later bindable.word bindable.free behind
  obtain ⟨o, there, isTop⟩ := later.top
  refine ⟨_, (bind_of_ok made _).trans stored, later.retop assigns.top, ?_, ?_⟩
  · rintro m v other ⟨x, hi, names, base, same, low, high, stored⟩
    obtain ⟨q, p, w, here, own, slot⟩ := names_extend names (objects s.heap.size b.2)
    cases there.symm.trans here
    exact ⟨x, hi, ⟨f o, p, w, retop_top there f, (assigns.others o isTop m other).trans own, slot⟩,
      shows_retop ⟨base, same, low, high, stored.extend _⟩ f⟩
  · intro other
    obtain ⟨p, own, slot⟩ := assigns.name other o isTop
    have placed : Shows (extend s (objects s.heap.size b.2)).heap World.fresh.heap.size (s.heap.size + boxes b.2) b.2
        (image s.heap.size b.2) := ⟨s.heap.size, rfl, furbished.hosts.room, Nat.le_refl _, stored_extend s _⟩
    refine ⟨⟨_, _, ⟨f o, p, true, retop_top there f, own, slot⟩, shows_retop placed f⟩, fun m apart q before => ?_⟩
    have same : o = q := by
      have low := (Array.getElem?_eq_some_iff.mp before).1
      rw [extend, Array.getElem?_append_left low, before] at there
      exact (Option.some.inj there).symm
    subst same
    exact ⟨f o, retop_top there f, assigns.others o isTop m apart, assigns.parent other o⟩

theorem install_apply {bindings : Bindings} {s : Realm} (furbished : Furbished s.heap)
    (each : ∀ b ∈ bindings, Bindable s.heapLimit b) :
    ∃ heap, install bindings s = .ok (.ok ()) { s with heap } ∧ Furbished heap ∧
      (∀ m v, m ∉ bindings.map (·.1) → Binds s.heap m v → Binds heap m v) ∧
      ((bindings.map (·.1)).Nodup → ∀ b ∈ bindings, b.1 ≠ "__proto__" → Binds heap b.1 b.2) ∧
      ("__proto__" ∉ bindings.map (·.1) → ∀ m, m ∉ bindings.map (·.1) → SameTop s.heap heap m) := by
  induction bindings generalizing s with
  | nil =>
    refine ⟨s.heap, rfl, furbished, fun _ _ _ binds => binds, ?_, fun _ m _ => SameTop.refl s.heap m⟩
    exact fun _ _ inside => by cases inside
  | cons b rest ih =>
    obtain ⟨heap, bound, next, kept, named⟩ := bound_apply furbished (each b List.mem_cons_self)
    obtain ⟨heap', installed, last, later, all, opened⟩ := ih (s := { s with heap }) next
      fun c inside => each c (List.mem_cons_of_mem _ inside)
    refine ⟨heap', ?_, last, ?_, ?_, ?_⟩
    · rw [install, bind_of_ok (guarded_of_ok bound)]
      exact installed
    · intro m v other binds
      rw [List.map_cons, List.mem_cons, not_or] at other
      exact later m v other.2 (kept m v other.1 binds)
    · intro nodup c inside ordinary
      rw [List.map_cons, List.nodup_cons] at nodup
      rcases List.mem_cons.mp inside with rfl | inside
      · exact later _ _ nodup.1 (named ordinary).1
      · exact all nodup.2 c inside ordinary
    · intro rooted m other
      rw [List.map_cons, List.mem_cons, not_or] at rooted other
      exact ((named (Ne.symm rooted.1)).2 m other.1).trans (opened rooted.2 m other.2)

end Evaluator

end BoundedScript
