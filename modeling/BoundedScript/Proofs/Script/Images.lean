import BoundedScript.Proofs.Script.Outcomes
import BoundedScript.Proofs.Script.Tables

set_option autoImplicit false

namespace BoundedScript.Script

open Run

section Room

def Room (limit n : Nat) : Prop :=
  limit = 0 ∨ n + heapFloor ≤ limit

structure StringFits (limit : Nat) (u : Units) : Prop where
  length : u.size ≤ maxString
  room : 65536 ≤ u.size → Room limit (if u.isNarrow then u.size else 2 * u.size)

def ListFits (limit count : Nat) : Prop :=
  ∀ i < count, 4096 ≤ i → Room limit (i * 24)

inductive Fits (limit : Nat) : Json → Prop where
  | null : Fits limit .null
  | bool (b : Bool) : Fits limit (.bool b)
  | int (n : Int) : Fits limit (.int n)
  | float (x : Float) : Fits limit (.float x)
  | string {s : String} (fits : StringFits limit (Units.ofString s)) : Fits limit (.string s)
  | array {items : List Json} (fits : ListFits limit items.length) (each : ∀ v ∈ items, Fits limit v) :
      Fits limit (.array items)
  | object {fields : List (String × Json)} (each : ∀ field ∈ fields, Fits limit field.2) :
      Fits limit (.object fields)

variable {realm : Realm}

theorem checkBytes_of_room {n : Nat} (room : Room realm.heapLimit n) : checkBytes n realm = .ok () realm := by
  have enough : (realm.heapLimit != 0 && decide (realm.heapLimit < n + heapFloor)) = false := by
    rcases room with none | enough
    · simp [none]
    · simp [Nat.not_lt.mpr enough]
  have got : (get : Run Realm) realm = .ok realm realm := rfl
  rw [checkBytes, bind_of_ok got]
  simp only [enough]
  rfl

theorem checkString_of_fits {u : Units} (fits : StringFits realm.heapLimit u) :
    checkString u realm = .ok u realm := by
  rw [checkString, if_neg (Nat.not_lt.mpr fits.length)]
  by_cases long : 65536 ≤ u.size
  · rw [if_pos long]
    exact bind_of_ok (checkBytes_of_room (fits.room long)) _
  · rw [if_neg long]
    rfl

theorem checkItems_of_room {count : Nat} (room : 4096 ≤ count → Room realm.heapLimit (count * 24)) :
    checkItems count realm = .ok () realm := by
  rw [checkItems]
  by_cases long : 4096 ≤ count
  · rw [if_pos long]
    exact checkBytes_of_room (room long)
  · rw [if_neg long]
    rfl

end Room

namespace JsonObject

mutual

def boxes : Json → Nat
  | .array items => boxesItems items + 1
  | .object fields => boxesFields fields + 1
  | _ => 0

def boxesItems : List Json → Nat
  | [] => 0
  | v :: rest => boxes v + boxesItems rest

def boxesFields : List (String × Json) → Nat
  | [] => 0
  | (_, v) :: rest => boxes v + boxesFields rest

end

/-- What a document is in a script, its objects lying from `base` on. A list lies behind its items, an object
before its fields. -/
def image (base : Addr) : Json → Value
  | .null => .null
  | .bool b => .bool b
  | .int n => numberOf n
  | .float x => .number x
  | .string s => .string (Units.ofString s)
  | .array items => .object (base + boxesItems items)
  | .object _ => .object base

def imageItems (base : Addr) : List Json → List Value
  | [] => []
  | v :: rest => image base v :: imageItems (base + boxes v) rest

def imageFields (base : Addr) : List (String × Json) → List (PropKey × Property)
  | [] => []
  | (k, v) :: rest => (.ofString k, .plain (image base v)) :: imageFields (base + boxes v) rest

def listObject (items : List Value) : Obj :=
  ⟨some Intrinsic.arrayPrototype.addr, .empty, true, .array (items.map some).toArray items.length false⟩

def filled (o : Obj) (props : List (PropKey × Property)) : Obj :=
  { o with props := props.foldl (fun t e => t.insert e.1 e.2) o.props }

def plainObject : Obj :=
  ⟨some Intrinsic.objectPrototype.addr, .empty, true, .ordinary⟩

mutual

def objects (base : Addr) : Json → List Obj
  | .array items => objectsItems base items ++ [listObject (imageItems base items)]
  | .object fields => filled plainObject (imageFields (base + 1) fields) :: objectsFields (base + 1) fields
  | _ => []

def objectsItems (base : Addr) : List Json → List Obj
  | [] => []
  | v :: rest => objects base v ++ objectsItems (base + boxes v) rest

def objectsFields (base : Addr) : List (String × Json) → List Obj
  | [] => []
  | (_, v) :: rest => objects base v ++ objectsFields (base + boxes v) rest

end

mutual

theorem length_objects (base : Addr) : ∀ v, (objects base v).length = boxes v
  | .array items => by rw [objects, List.length_append, length_objectsItems base items, boxes]; rfl
  | .object fields => by rw [objects, List.length_cons, length_objectsFields (base + 1) fields, boxes]
  | .null | .bool _ | .int _ | .float _ | .string _ => rfl

theorem length_objectsItems (base : Addr) : ∀ items, (objectsItems base items).length = boxesItems items
  | [] => rfl
  | v :: rest => by
    rw [objectsItems, List.length_append, length_objects base v, length_objectsItems _ rest, boxesItems]

theorem length_objectsFields (base : Addr) : ∀ fields, (objectsFields base fields).length = boxesFields fields
  | [] => rfl
  | (_, v) :: rest => by
    rw [objectsFields, List.length_append, length_objects base v, length_objectsFields _ rest, boxesFields]

end

def extend (realm : Realm) (os : List Obj) : Realm :=
  { realm with heap := realm.heap ++ os.toArray }

def fill (realm : Realm) (a : Addr) (props : List (PropKey × Property)) : Realm :=
  { realm with heap := realm.heap.modify a (filled · props) }

section

variable {realm : Realm} {a : Addr} {o : Obj} {os more : List Obj} {props others : List (PropKey × Property)}

theorem extend_nil (realm : Realm) : extend realm [] = realm := by
  rw [extend, Array.append_empty]

theorem extend_extend (realm : Realm) (os more : List Obj) :
    extend (extend realm os) more = extend realm (os ++ more) := by
  simp [extend, Array.append_assoc]

theorem size_extend (realm : Realm) (os : List Obj) :
    (extend realm os).heap.size = realm.heap.size + os.length := by
  simp [extend]

theorem size_fill (realm : Realm) (a : Addr) (props : List (PropKey × Property)) :
    (fill realm a props).heap.size = realm.heap.size :=
  Array.size_modify

theorem filled_filled (o : Obj) (props others : List (PropKey × Property)) :
    filled (filled o props) others = filled o (props ++ others) := by
  rw [filled, filled, filled, List.foldl_append]

theorem fill_nil (realm : Realm) (a : Addr) : fill realm a [] = realm := by
  have heap : realm.heap.modify a (filled · []) = realm.heap := by
    apply Array.ext
    · simp
    · intro i _ _
      rw [Array.getElem_modify]
      split <;> rfl
  rw [fill, heap]

theorem fill_fill (realm : Realm) (a : Addr) (props others : List (PropKey × Property)) :
    fill (fill realm a props) a others = fill realm a (props ++ others) := by
  have heap : (realm.heap.modify a (filled · props)).modify a (filled · others) =
      realm.heap.modify a (filled · (props ++ others)) := by
    apply Array.ext
    · simp
    · intro i _ _
      simp only [Array.getElem_modify]
      split
      · exact filled_filled _ _ _
      · rfl
  rw [fill, fill, fill, heap]

theorem fill_extend (there : a < realm.heap.size) (os : List Obj) (props : List (PropKey × Property)) :
    fill (extend realm os) a props = extend (fill realm a props) os := by
  have heap : (realm.heap ++ os.toArray).modify a (filled · props) =
      realm.heap.modify a (filled · props) ++ os.toArray := by
    apply Array.ext
    · simp
    · intro i _ _
      rw [Array.getElem_modify, Array.getElem_append, Array.getElem_append]
      by_cases old : i < realm.heap.size
      · simp [Array.getElem_modify, old]
      · have apart : a ≠ i := Nat.ne_of_lt (Nat.lt_of_lt_of_le there (Nat.le_of_not_lt old))
        simp [apart, old]
  rw [extend, fill, heap]
  rfl

theorem fill_last (realm : Realm) (o : Obj) (props : List (PropKey × Property)) :
    fill (extend realm [o]) realm.heap.size props = extend realm [filled o props] := by
  have heap : (realm.heap.push o).modify realm.heap.size (filled · props) =
      realm.heap.push (filled o props) := by
    apply Array.ext
    · simp
    · intro i _ _
      rw [Array.getElem_modify, Array.getElem_push, Array.getElem_push]
      by_cases old : i < realm.heap.size
      · simp [old, Nat.ne_of_gt old]
      · have last : realm.heap.size = i := by
          rename_i bound
          rw [Array.size_push] at bound
          omega
        simp [last]
  exact congrArg (fun heap => { realm with heap }) heap

theorem newArray_apply (items : List Value) (realm : Realm) :
    newArray items.toArray realm = .ok (.object realm.heap.size) (extend realm [listObject items]) := by
  have list : listObject items = ⟨some Intrinsic.arrayPrototype.addr, .empty, true,
      .array (items.toArray.map some) items.toArray.size false⟩ := by
    simp [listObject]
  rw [list]
  rfl

theorem newPlain_apply (realm : Realm) : newPlain realm = .ok realm.heap.size (extend realm [plainObject]) :=
  rfl

theorem putOwn_apply (there : realm.heap[a]? = some o) (ordinary : o.kind = .ordinary) (k : PropKey)
    (p : Property) : putOwn a k p realm = .ok () (fill realm a [(k, p)]) := by
  rw [putOwn, bind_of_ok (getObj_apply there), ordinary]
  rfl

end

mutual

theorem ofJson_apply {limit : Nat} : ∀ {v : Json}, Fits limit v → ∀ {realm : Realm}, realm.heapLimit = limit →
    ofJson v realm = .ok (image realm.heap.size v) (extend realm (objects realm.heap.size v))
  | .null, _, realm, _ | .bool _, _, realm, _ | .int _, _, realm, _ | .float _, _, realm, _ =>
    congrArg (EStateM.Result.ok _) (extend_nil realm).symm
  | .string s, .string fits, realm, same => by
    subst same
    have checked : ofJson (.string s) realm = .ok (.string (Units.ofString s)) realm :=
      bind_of_ok (checkString_of_fits fits) _
    exact checked.trans (congrArg (EStateM.Result.ok _) (extend_nil realm).symm)
  | .array items, .array fits each, realm, same => by
    have made := ofItems_apply each #[] (by simpa [ListFits] using fits) same
    rw [ofJson, made]
    rfl
  | .object fields, .object each, realm, same => by
    have there : (extend realm [plainObject]).heap[realm.heap.size]? = some plainObject := by
      simp [extend]
    have made := ofFields_apply each there rfl same
    rw [fill_last, extend_extend, size_extend] at made
    rw [ofJson, bind_of_ok (newPlain_apply realm), made]
    rfl

theorem ofItems_apply {limit : Nat} : ∀ {items : List Json}, (∀ v ∈ items, Fits limit v) → ∀ (acc : Array Value),
    (∀ i < items.length, 4096 ≤ acc.size + i → Room limit ((acc.size + i) * 24)) →
    ∀ {realm : Realm}, realm.heapLimit = limit → ofItems acc items realm =
      .ok (.object (realm.heap.size + boxesItems items)) (extend realm
        (objectsItems realm.heap.size items ++ [listObject (acc.toList ++ imageItems realm.heap.size items)]))
  | [], _, acc, _, realm, _ => by
    have made := newArray_apply acc.toList realm
    rw [Array.toArray_toList] at made
    rw [ofItems, made, imageItems, List.append_nil]
    rfl
  | v :: rest, each, acc, room, realm, same => by
    have first : ofJson v realm = _ := ofJson_apply (each v List.mem_cons_self) same
    have kept : (extend realm (objects realm.heap.size v)).heapLimit = limit := same
    have later := ofItems_apply (fun w inside => each w (List.mem_cons_of_mem v inside))
      (acc.push (image realm.heap.size v)) (by
        intro i inside
        have next := room (i + 1) (Nat.succ_lt_succ inside)
        rwa [Array.size_push, Nat.add_right_comm, Nat.add_assoc])
      kept
    have free : checkItems acc.size realm = .ok () realm := by
      subst same
      exact checkItems_of_room (room 0 (Nat.succ_pos _))
    rw [size_extend, length_objects, extend_extend, Nat.add_assoc] at later
    rw [ofItems, bind_of_ok free, bind_of_ok first, later]
    simp [objectsItems, imageItems, boxesItems]

theorem ofFields_apply {limit : Nat} : ∀ {fields : List (String × Json)}, (∀ field ∈ fields, Fits limit field.2) →
    ∀ {realm : Realm} {a : Addr} {o : Obj}, realm.heap[a]? = some o → o.kind = .ordinary →
    realm.heapLimit = limit → ofFields a fields realm =
      .ok (.object a) (extend (fill realm a (imageFields realm.heap.size fields))
        (objectsFields realm.heap.size fields))
  | [], _, realm, a, o, _, _, _ => by
    rw [objectsFields, extend_nil, imageFields, fill_nil]
    rfl
  | (k, v) :: rest, each, realm, a, o, there, ordinary, same => by
    have first : ofJson v realm = _ := ofJson_apply (each (k, v) List.mem_cons_self) same
    have old : a < realm.heap.size := (Array.getElem?_eq_some_iff.mp there).1
    have kept : (extend realm (objects realm.heap.size v)).heap[a]? = some o := by
      rw [extend, Array.getElem?_append_left old]
      exact there
    have stored := putOwn_apply kept ordinary (.ofString k) (.plain (image realm.heap.size v))
    rw [fill_extend old] at stored
    have changed : (extend (fill realm a [(.ofString k, .plain (image realm.heap.size v))])
        (objects realm.heap.size v)).heap[a]? = some (filled o [(.ofString k, .plain (image realm.heap.size v))]) := by
      rw [← fill_extend old, fill, Array.getElem?_modify, if_pos rfl, kept]
      rfl
    have later := ofFields_apply (fun field inside => each field (List.mem_cons_of_mem _ inside)) changed ordinary same
    rw [size_extend, size_fill, length_objects, fill_extend (by rwa [size_fill]), fill_fill, extend_extend] at later
    rw [ofFields, bind_of_ok first, bind_of_ok stored, later]
    rfl

end

def Stored (heap : Array Obj) (base : Addr) (os : List Obj) : Prop :=
  ∀ i o, os[i]? = some o → heap[base + i]? = some o

def Shows (heap : Array Obj) (lo hi : Addr) (v : Json) (x : Value) : Prop :=
  ∃ base, x = image base v ∧ lo ≤ base ∧ base + boxes v ≤ hi ∧ Stored heap base (objects base v)

section

variable {heap : Array Obj} {base lo hi : Addr} {os more : List Obj} {o : Obj}

theorem Stored.left (stored : Stored heap base (os ++ more)) : Stored heap base os :=
  fun i o there => stored i o (by rwa [List.getElem?_append_left (List.getElem?_eq_some_iff.mp there).1])

theorem Stored.right (stored : Stored heap base (os ++ more)) : Stored heap (base + os.length) more := by
  intro i o there
  rw [Nat.add_assoc]
  apply stored
  rwa [List.getElem?_append_right (Nat.le_add_right _ _), Nat.add_sub_cancel_left]

theorem Stored.head (stored : Stored heap base (o :: os)) : heap[base]? = some o :=
  stored 0 o rfl

theorem Stored.tail (stored : Stored heap base (o :: os)) : Stored heap (base + 1) os := by
  have parts : Stored heap base ([o] ++ os) := stored
  exact parts.right

theorem stored_extend (realm : Realm) (os : List Obj) : Stored (extend realm os).heap realm.heap.size os := by
  intro i o there
  rw [extend, Array.getElem?_append_right (Nat.le_add_right _ _), Nat.add_sub_cancel_left]
  simpa using there

theorem Stored.extend {realm : Realm} (stored : Stored realm.heap base os) (more : List Obj) :
    Stored (extend realm more).heap base os := by
  intro i o there
  have found := stored i o there
  rw [JsonObject.extend, Array.getElem?_append_left (Array.getElem?_eq_some_iff.mp found).1, found]

theorem Shows.widen {v : Json} {x : Value} (shows : Shows heap lo hi v x) {lo' hi' : Addr} (low : lo' ≤ lo)
    (high : hi ≤ hi') : Shows heap lo' hi' v x := by
  obtain ⟨base, same, first, last, stored⟩ := shows
  exact ⟨base, same, Nat.le_trans low first, Nat.le_trans last high, stored⟩

theorem shows_items {items : List Json} (stored : Stored heap base (objectsItems base items)) {i : Nat} {v : Json}
    (there : items[i]? = some v) :
    ∃ x, (imageItems base items)[i]? = some x ∧ Shows heap base (base + boxesItems items) v x := by
  induction items generalizing base i with
  | nil => cases there
  | cons w rest ih =>
    rw [objectsItems] at stored
    have behind := stored.right
    rw [length_objects] at behind
    cases i with
    | zero =>
      cases there
      refine ⟨image base v, rfl, base, rfl, Nat.le_refl _, ?_, stored.left⟩
      rw [boxesItems]
      exact Nat.add_le_add_left (Nat.le_add_right _ _) _
    | succ i =>
      obtain ⟨x, found, shows⟩ := ih behind there
      refine ⟨x, found, shows.widen (Nat.le_add_right _ _) ?_⟩
      rw [boxesItems]
      exact Nat.le_of_eq (Nat.add_assoc _ _ _)

theorem shows_fields {fields : List (String × Json)} (stored : Stored heap base (objectsFields base fields))
    {field : String × Json} (inside : field ∈ fields) :
    ∃ x, (.ofString field.1, .plain x) ∈ imageFields base fields ∧
      Shows heap base (base + boxesFields fields) field.2 x := by
  induction fields generalizing base with
  | nil => cases inside
  | cons f rest ih =>
    rw [objectsFields] at stored
    have behind := stored.right
    rw [length_objects] at behind
    rcases List.mem_cons.mp inside with rfl | later
    · refine ⟨image base field.2, List.mem_cons_self, base, rfl, Nat.le_refl _, ?_, stored.left⟩
      rw [boxesFields]
      exact Nat.add_le_add_left (Nat.le_add_right _ _) _
    · obtain ⟨x, found, shows⟩ := ih behind later
      refine ⟨x, List.mem_cons_of_mem _ found, shows.widen (Nat.le_add_right _ _) ?_⟩
      rw [boxesFields]
      exact Nat.le_of_eq (Nat.add_assoc _ _ _)

end

section Lookup

variable {realm : Realm} {a : Addr} {o : Obj} {k : PropKey} {p : Property}

theorem find?_own (there : realm.heap[a]? = some o) (own : o.own? k = some p) :
    find? a k realm = .ok (some p) realm := by
  have found : realm.find? a k (9999 + 1) = some p := by
    rw [Realm.find?, there]
    simp only [own]
  exact congrArg (fun p => EStateM.Result.ok p realm) found

theorem getOf_own (E : Engine) {v : Value} (there : realm.heap[a]? = some o) (own : o.own? k = some (.plain v)) :
    getOf E a k realm = .ok v realm :=
  bind_of_ok (find?_own there own) _

end Lookup

section Parts

variable {heap : Array Obj} {base lo hi : Addr}

theorem Shows.list {items : List Json} {x : Value} (shows : Shows heap lo hi (.array items) x) :
    ∃ base, lo ≤ base ∧ base + boxesItems items + 1 ≤ hi ∧ x = .object (base + boxesItems items) ∧
      heap[base + boxesItems items]? = some (listObject (imageItems base items)) ∧
      Stored heap base (objectsItems base items) := by
  obtain ⟨base, same, low, high, stored⟩ := shows
  have last := stored.right.head
  rw [length_objectsItems] at last
  exact ⟨base, low, high, same, last, stored.left⟩

theorem Shows.record {fields : List (String × Json)} {x : Value} (shows : Shows heap lo hi (.object fields) x) :
    ∃ base, lo ≤ base ∧ base + 1 + boxesFields fields ≤ hi ∧ x = .object base ∧
      heap[base]? = some (filled plainObject (imageFields (base + 1) fields)) ∧
      Stored heap (base + 1) (objectsFields (base + 1) fields) := by
  obtain ⟨base, same, low, high, stored⟩ := shows
  refine ⟨base, low, ?_, same, stored.head, stored.tail⟩
  rwa [Nat.add_right_comm]

theorem filled_get? (o : Obj) (props : List (PropKey × Property)) {k : PropKey} {p : Property}
    (found : (filled o props).props.get? k = some p) : (k, p) ∈ props ∨ o.props.get? k = some p := by
  rw [filled] at found
  dsimp only at found
  generalize o.props = t at found
  induction props generalizing t with
  | nil => exact .inr found
  | cons e rest ih =>
    rw [List.foldl_cons] at found
    rcases ih _ found with inside | older
    · exact .inl (List.mem_cons_of_mem _ inside)
    · rw [PropTable.get?_insert] at older
      split at older
      next same =>
        subst same
        cases older
        exact .inl List.mem_cons_self
      next => exact .inr older

theorem filled_isSome (props : List (PropKey × Property)) (t : PropTable) {k : PropKey}
    (there : (∃ p, (k, p) ∈ props) ∨ (t.get? k).isSome = true) :
    ((props.foldl (fun t e => t.insert e.1 e.2) t).get? k).isSome = true := by
  induction props generalizing t with
  | nil => exact there.resolve_left fun ⟨p, inside⟩ => List.not_mem_nil inside
  | cons e rest ih =>
    rw [List.foldl_cons]
    refine ih _ ?_
    rw [PropTable.get?_insert]
    split
    next => exact .inr rfl
    next other =>
      refine there.imp_left fun ⟨p, inside⟩ => ⟨p, (List.mem_cons.mp inside).resolve_left fun same => other ?_⟩
      rw [← same]

theorem shows_props {fields : List (String × Json)} (stored : Stored heap base (objectsFields base fields)) {k : PropKey}
    {p : Property} (inside : (k, p) ∈ imageFields base fields) :
    ∃ field ∈ fields, k = .ofString field.1 ∧ ∃ x, p = .plain x ∧
      Shows heap base (base + boxesFields fields) field.2 x := by
  induction fields generalizing base with
  | nil => cases inside
  | cons f rest ih =>
    rw [objectsFields] at stored
    have behind := stored.right
    rw [length_objects] at behind
    rcases List.mem_cons.mp inside with same | later
    · cases same
      refine ⟨f, List.mem_cons_self, rfl, image base f.2, rfl, base, rfl, Nat.le_refl _, ?_, stored.left⟩
      rw [boxesFields]
      exact Nat.add_le_add_left (Nat.le_add_right _ _) _
    · obtain ⟨field, listed, key, x, same, shows⟩ := ih behind later
      refine ⟨field, List.mem_cons_of_mem _ listed, key, x, same, shows.widen (Nat.le_add_right _ _) ?_⟩
      rw [boxesFields]
      exact Nat.le_of_eq (Nat.add_assoc _ _ _)

theorem Shows.field {fields : List (String × Json)} {x : Value} (shows : Shows heap lo hi (.object fields) x) {name : String}
    {v : Json} (inside : (name, v) ∈ fields) (alone : ∀ w, (name, w) ∈ fields → w = v) :
    ∃ a o y, x = .object a ∧ heap[a]? = some o ∧ o.own? (.ofString name) = some (.plain y) ∧ Shows heap lo hi v y := by
  obtain ⟨a, low, high, rfl, there, stored⟩ := shows.record
  obtain ⟨y, listed, -⟩ := shows_fields stored inside
  obtain ⟨p, found⟩ := Option.isSome_iff_exists.mp (filled_isSome _ plainObject.props (.inl ⟨_, listed⟩))
  rcases filled_get? plainObject _ found with held | bare
  · obtain ⟨⟨name', w⟩, listed, key, z, rfl, shows⟩ := shows_props stored held
    obtain rfl := PropKey.ofString_inj key
    obtain rfl := alone w listed
    exact ⟨a, _, z, rfl, there, found, shows.widen (Nat.le_succ_of_le low) high⟩
  · rw [plainObject, PropTable.get?_empty] at bare
    cases bare

theorem length_imageItems (base : Addr) (items : List Json) : (imageItems base items).length = items.length := by
  induction items generalizing base with
  | nil => rfl
  | cons v rest ih => rw [imageItems, List.length_cons, List.length_cons, ih]

theorem Shows.count {items : List Json} {x : Value} (shows : Shows heap lo hi (.array items) x) :
    ∃ a o, x = .object a ∧ heap[a]? = some o ∧ o.own? lengthKey = some ⟨.data (.nat items.length) true, false, false⟩ := by
  obtain ⟨base, -, -, rfl, there, -⟩ := shows.list
  refine ⟨_, _, rfl, there, ?_⟩
  have same : (lengthKey == lengthKey) = true := beq_self_eq_true _
  rw [listObject, Obj.own?, length_imageItems]
  simp only [lengthKey] at same ⊢
  simp only [same]
  rfl

theorem Shows.lacking {fields : List (String × Json)} {x : Value} (shows : Shows heap lo hi (.object fields) x)
    {name : String} (lacks : ∀ f ∈ fields, f.1 ≠ name) :
    ∃ a o, x = .object a ∧ heap[a]? = some o ∧ o.own? (.ofString name) = none ∧
      o.parent = some Intrinsic.objectPrototype.addr := by
  obtain ⟨a, low, high, rfl, there, stored⟩ := shows.record
  refine ⟨a, _, rfl, there, ?_, rfl⟩
  cases found : (filled plainObject (imageFields (a + 1) fields)).props.get? (.ofString name) with
  | none => exact found
  | some p =>
    rcases filled_get? plainObject _ found with held | bare
    · obtain ⟨field, listed, key, -⟩ := shows_props stored held
      exact absurd (PropKey.ofString_inj key).symm (lacks field listed)
    · rw [plainObject, PropTable.get?_empty] at bare
      cases bare

end Parts

def isScalar : Json → Bool
  | .array _ | .object _ => false
  | _ => true

end JsonObject
end BoundedScript.Script
