import Mathlib.Algebra.Order.BigOperators.Group.List
import BoundedScript.Proofs.Decimal.Whole
import BoundedScript.Proofs.Json.Arrangement
import BoundedScript.Proofs.Script.Images
import BoundedScript.Proofs.Script.Prototypes

set_option autoImplicit false

namespace BoundedScript

namespace Json

inductive Exact : Json → Prop where
  | null : Exact .null
  | bool (b : Bool) : Exact (.bool b)
  | int {n : Int} (small : n.natAbs ≤ 2 ^ 53) : Exact (.int n)
  | string (s : String) : Exact (.string s)
  | array {items : List Json} (each : ∀ v ∈ items, Exact v) : Exact (.array items)
  | object {fields : List (String × Json)} (ordered : fields.Pairwise fun a b => a.1 < b.1)
      (each : ∀ field ∈ fields, Exact field.2) : Exact (.object fields)

theorem Exact.regular {v : Json} (exact : Exact v) : Regular v := by
  induction exact with
  | null => exact .null
  | bool b => exact .bool b
  | int small => exact .int (by omega) (by omega)
  | string s => exact .string s
  | array each ih => exact .array ih
  | object ordered each ih => exact .object ordered ih

theorem Exact.no_float {v : Json} (exact : Exact v) (x : Float) : ¬ HasFloat x v := by
  intro has
  induction has with
  | here => cases exact
  | item inside has ih =>
    cases exact with
    | array each => exact ih (each _ inside)
  | field inside has ih =>
    cases exact with
    | object ordered each => exact ih (each _ inside)

end Json

namespace Script

open Run

section Lookup

variable {realm : Realm} {a : Addr} {o : Obj} {k : PropKey} {p : Property}

theorem own?_toJson (o : Obj) : o.own? toJsonKey = o.props.get? toJsonKey := by
  have other : (toJsonKey == lengthKey) = false := by
    rw [beq_eq_false_iff_ne]
    intro same
    exact absurd (Units.ofString_inj (PropKey.name.inj same)) (by decide)
  rw [Obj.own?]
  cases o.kind with
  | array items length fixed => simp only [toJsonKey] at other ⊢; simp only [other]; rfl
  | string u => simp only [toJsonKey] at other ⊢; simp only [other]; rfl
  | _ => rfl

theorem find?_lender (quiet : Quiet realm) (lender : a ∈ lenders) (fuel : Nat) :
    realm.find? a toJsonKey fuel = none := by
  induction fuel generalizing a with
  | zero => rfl
  | succ fuel ih =>
    rw [Realm.find?]
    cases there : realm.heap[a]? with
    | none => rfl
    | some o =>
      have mute := quiet.mute a lender o there
      simp only [own?_toJson, mute.own]
      cases up : o.parent with
      | none => rfl
      | some b =>
        obtain rfl := mute.parent b up
        exact ih List.mem_cons_self

theorem getOf_toJson (E : Engine) (quiet : Quiet realm) (there : realm.heap[a]? = some o)
    (none : o.props.get? toJsonKey = none) {b : Addr} (parent : o.parent = some b) (lender : b ∈ lenders) :
    getOf E a toJsonKey realm = .ok .undefined realm := by
  have found : realm.find? a toJsonKey (9999 + 1) = .none := by
    rw [Realm.find?, there]
    simp only [own?_toJson, none, parent]
    exact find?_lender quiet lender 9999
  have got : find? a toJsonKey realm = .ok .none realm :=
    congrArg (fun p => EStateM.Result.ok p realm) found
  exact bind_of_ok got _

end Lookup

namespace JsonObject

open Json (Exact key arrange fieldBy scriptText)
open Script.Units (unitsOf)

section Images

variable {heap : Array Obj} {realm : Realm} {base lo hi a : Addr}

theorem Shows.inert {v : Json} {x : Value} (shows : Shows realm.heap lo hi v x) :
    isCallable x realm = .ok false realm := by
  cases v with
  | array items =>
    obtain ⟨base, -, -, rfl, there, -⟩ := shows.list
    exact bind_of_ok (kindOf_apply there) _
  | object fields =>
    obtain ⟨base, -, -, rfl, there, -⟩ := shows.record
    exact bind_of_ok (kindOf_apply there) _
  | _ =>
    obtain ⟨base, rfl, -⟩ := shows
    rfl

theorem Shows.isUndefined {v : Json} {x : Value} (shows : Shows heap lo hi v x) : x.isUndefined = false := by
  obtain ⟨base, rfl, -⟩ := shows
  cases v <;> rfl

theorem keys_imageFields (base : Addr) (fields : List (String × Json)) :
    (imageFields base fields).map (·.1) = fields.map key := by
  induction fields generalizing base with
  | nil => rfl
  | cons f rest ih =>
    rw [imageFields, List.map_cons, List.map_cons, ih]
    rfl

theorem enumerable_imageFields {fields : List (String × Json)} {k : PropKey} {p : Property}
    (inside : (k, p) ∈ imageFields base fields) : p.enumerable = true := by
  induction fields generalizing base with
  | nil => cases inside
  | cons f rest ih =>
    rcases List.mem_cons.mp inside with same | later
    · cases same
      rfl
    · exact ih later

theorem holds_filled {fields : List (String × Json)} (ordered : fields.Pairwise fun a b => a.1 < b.1)
    (base : Addr) : (filled plainObject (imageFields base fields)).props.Holds (imageFields base fields) := by
  have distinct : (([] ++ imageFields base fields : List (PropKey × Property)).map (·.1)).Nodup := by
    rw [List.nil_append, keys_imageFields, List.Nodup, List.pairwise_map]
    exact ordered.imp fun before same => String.ne_of_lt before (PropKey.ofString_inj same)
  exact PropTable.holds_empty.inserts distinct

theorem own?_record {k : PropKey} (props : List (PropKey × Property)) :
    (filled plainObject props).own? k = (filled plainObject props).props.get? k :=
  rfl

theorem getOf_field (E : Engine) {fields : List (String × Json)} (ordered : fields.Pairwise fun a b => a.1 < b.1)
    (there : realm.heap[a]? = some (filled plainObject (imageFields base fields)))
    (stored : Stored realm.heap base (objectsFields base fields)) {field : String × Json} (inside : field ∈ fields) :
    ∃ x, (∀ left, getOf E a (key field) { realm with steps := left } = .ok x { realm with steps := left }) ∧
      Shows realm.heap base (base + boxesFields fields) field.2 x := by
  obtain ⟨x, found, shows⟩ := shows_fields stored inside
  refine ⟨x, fun left => ?_, shows⟩
  have kept : ({ realm with steps := left } : Realm).heap[a]? =
      some (filled plainObject (imageFields base fields)) := there
  apply getOf_own E kept
  rw [own?_record]
  exact (holds_filled ordered base).get?_eq_some.mpr found

theorem toJson_inert (E : Engine) (quiet : Quiet realm) {v : Json} (exact : Exact v)
    (shows : Shows realm.heap lo hi v (.object a)) :
    ∃ f, getOf E a toJsonKey realm = .ok f realm ∧ isCallable f realm = .ok false realm := by
  cases exact with
  | array each =>
    obtain ⟨base, -, -, same, there, -⟩ := shows.list
    cases same
    have lender : Intrinsic.arrayPrototype.addr ∈ lenders := by decide
    exact ⟨_, getOf_toJson E quiet there (PropTable.get?_empty _) rfl lender, rfl⟩
  | @object fields ordered each =>
    obtain ⟨base, -, -, same, there, stored⟩ := shows.record
    cases same
    by_cases own : ∃ field ∈ fields, key field = toJsonKey
    · obtain ⟨field, inside, named⟩ := own
      obtain ⟨x, got, shows⟩ := getOf_field E ordered there stored inside
      rw [named] at got
      exact ⟨x, got realm.steps, shows.inert⟩
    · have none : (filled plainObject (imageFields (a + 1) fields)).props.get? toJsonKey = none := by
        apply (holds_filled ordered _).get?_eq_none
        rw [keys_imageFields]
        intro inside
        obtain ⟨field, there, named⟩ := List.mem_map.mp inside
        exact own ⟨field, there, named⟩
      have lender : Intrinsic.objectPrototype.addr ∈ lenders := by decide
      exact ⟨_, getOf_toJson E quiet there none rfl lender, rfl⟩
  | _ =>
    obtain ⟨base, same, -⟩ := shows
    cases same

end Images

def plainly : Writing :=
  ⟨.undefined, none, #[]⟩

-- An object that stands for a primitive is written as that, any other as it is.
def unboxed (E : Engine) (a : Addr) : Run Value := do
  match ← kindOf a with
  | .number _ => return .number (← toNumber E (.object a))
  | .string _ => return .string (← toUnits E (.object a))
  | .boolean b => return .bool b
  | .bigint n => return .bigint n
  | _ => return .object a

theorem prepared_object (E : Engine) {realm : Realm} {a : Addr} {o : Obj} {f : Value}
    (there : realm.heap[a]? = some o) (plain : o.kind = .ordinary ∨ ∃ items n, o.kind = .array items n false)
    (got : getOf E a toJsonKey realm = .ok f realm) (inert : isCallable f realm = .ok false realm) (holder : Value)
    (k : PropKey) : prepared E plainly holder k (.object a) realm = .ok (.object a) realm := by
  have kept : unboxed E a realm = .ok (.object a) realm := by
    rw [unboxed, bind_of_ok (kindOf_apply there)]
    rcases plain with ordinary | ⟨items, n, list⟩
    · rw [ordinary]
      rfl
    · rw [list]
      rfl
  exact (bind_of_ok got _).trans ((bind_of_ok inert _).trans kept)

theorem prepared_apply (E : Engine) {realm : Realm} {lo hi : Addr} (quiet : Quiet realm) {v : Json} {x : Value}
    (exact : Exact v) (shows : Shows realm.heap lo hi v x) (holder : Value) (k : PropKey) :
    prepared E plainly holder k x realm = .ok x realm := by
  cases exact with
  | array each =>
    have list := shows.list
    obtain ⟨base, -, -, rfl, there, -⟩ := list
    obtain ⟨f, got, inert⟩ := toJson_inert E quiet (.array each) shows
    exact prepared_object E there (.inr ⟨_, _, rfl⟩) got inert holder k
  | object ordered each =>
    have record := shows.record
    obtain ⟨base, -, -, rfl, there, -⟩ := record
    obtain ⟨f, got, inert⟩ := toJson_inert E quiet (.object ordered each) shows
    exact prepared_object E there (.inl rfl) got inert holder k
  | _ =>
    obtain ⟨base, rfl, -⟩ := shows
    rfl

section Texts

def written (out : Units) (cs : List Char) : Units :=
  out ++ (unitsOf cs).toArray

variable {out : Units} {cs ds : List Char}

theorem written_nil (out : Units) : written out [] = out :=
  Array.append_empty

theorem written_append (out : Units) (cs ds : List Char) : written out (cs ++ ds) = written (written out cs) ds := by
  rw [← Array.toList_inj]
  simp [written, Units.unitsOf_append]

theorem written_cons (out : Units) (c : Char) (cs : List Char) :
    written out (c :: cs) = written (written out [c]) cs :=
  written_append out [c] cs

theorem written_comma (out : Units) : written out [','] = out.push 0x2c := rfl

theorem written_ofList (out : Units) (cs : List Char) : out ++ Units.ofString (String.ofList cs) = written out cs := by
  rw [Units.ofString_ofList, written]

theorem separated_take {α : Type} (text : α → List Char) {items : List α} {i : Nat} {a : α}
    (there : items[i]? = some a) :
    Json.separated [','] ((items.take (i + 1)).map text) =
      Json.separated [','] ((items.take i).map text) ++ (if i = 0 then [] else [',']) ++ text a := by
  cases items with
  | nil => cases there
  | cons b rest =>
    cases i with
    | zero =>
      cases there
      simp [Json.separated]
    | succ i =>
      have inside : rest[i]? = some a := there
      rw [List.take_succ_cons, List.take_succ_cons, Json.separated_cons, Json.separated_cons, List.take_add_one,
        inside, List.flatMap_append]
      simp

end Texts

section Sizes

theorem length_later {α : Type} (text : α → List Char) (items : List α) :
    (items.flatMap fun a => ',' :: text a).length = (items.map fun a => 1 + (text a).length).sum := by
  simp [List.length_flatMap, Nat.add_comm]

theorem length_separated {α : Type} (text : α → List Char) {items : List α} (some : items ≠ []) :
    (Json.separated [','] (items.map text)).length + 1 = (items.map fun a => 1 + (text a).length).sum := by
  cases items with
  | nil => exact absurd rfl some
  | cons a items =>
    rw [Json.separated_cons, List.length_append, length_later, List.map_cons, List.sum_cons]
    omega

theorem length_scriptText_array (items : List Json) :
    (scriptText (.array items)).length = (Json.separated [','] (items.map scriptText)).length + 2 := by
  rw [Json.scriptText_array]
  simp

theorem length_scriptText_object (fields : List (String × Json)) :
    (scriptText (.object fields)).length =
      (Json.separated [','] ((arrange fields).map (fieldBy scriptText))).length + 2 := by
  rw [Json.scriptText_object]
  simp

theorem length_value_lt (field : String × Json) : 1 + (scriptText field.2).length ≤ (fieldBy scriptText field).length := by
  rw [fieldBy, List.length_append, List.length_cons]
  omega

theorem le_sum_map {α : Type} (size : α → Nat) {items : List α} {a : α} (inside : a ∈ items) :
    size a ≤ (items.map size).sum :=
  List.single_le_sum (fun _ _ => Nat.zero_le _) _ (List.mem_map_of_mem inside)

theorem length_item_le {items : List Json} {v : Json} (inside : v ∈ items) :
    (scriptText v).length ≤ (scriptText (.array items)).length := by
  have parts := length_separated scriptText (List.ne_nil_of_mem inside)
  have part := le_sum_map (fun v => 1 + (scriptText v).length) inside
  rw [length_scriptText_array]
  omega

theorem length_field_le {fields : List (String × Json)} {field : String × Json} (inside : field ∈ fields) :
    (scriptText field.2).length ≤ (scriptText (.object fields)).length := by
  have there := (Json.arrange_perm fields).mem_iff.mpr inside
  have parts := length_separated (fieldBy scriptText) (List.ne_nil_of_mem there)
  have part := le_sum_map (fun field => 1 + (fieldBy scriptText field).length) there
  have value := length_value_lt field
  rw [length_scriptText_object]
  omega

theorem scriptText_ne_nil {v : Json} (exact : Exact v) : scriptText v ≠ [] := by
  cases exact with
  | null => exact nofun
  | bool b => cases b <;> exact nofun
  | @int n small =>
    change Json.intText n ≠ []
    cases n with
    | ofNat n =>
      rw [Json.Reading.intText_ofNat]
      exact Nat.toDigits_ne_nil
    | negSucc n =>
      rw [Json.Reading.intText_negSucc]
      exact List.cons_ne_nil _ _
  | string s => exact nofun
  | array each =>
    rw [Json.scriptText_array]
    exact nofun
  | object ordered each =>
    rw [Json.scriptText_object]
    exact nofun

theorem count_lt {items : List Json} (each : ∀ v ∈ items, Exact v) :
    2 * items.length < (scriptText (.array items)).length := by
  rw [length_scriptText_array]
  rcases eq_or_ne items [] with rfl | some
  · simp
  · have parts := length_separated scriptText some
    have count : (items.map fun _ => 2).sum ≤ (items.map fun v => 1 + (scriptText v).length).sum := by
      apply List.sum_le_sum
      intro v inside
      have one := List.length_pos_iff.mpr (scriptText_ne_nil (each v inside))
      omega
    rw [List.map_const', List.sum_replicate_nat] at count
    omega

end Sizes

theorem walk_comes {σ β : Type} {n : Nat} {step : Nat → σ → Run (σ ⊕ β)} {state : Nat → σ} {realm : Realm}
    (todo : Nat → Nat) (few : n < manyRounds) (last : 0 < todo n)
    (each : ∀ i < n, ∃ k, 1 + k + todo (i + 1) ≤ todo i ∧
      ∀ left, Comes k (step i (state i)) { realm with steps := left } (.inl (state (i + 1)))) :
    Comes (todo 0) (ArrayObject.walk n (state 0) step) realm (.inl (state n)) := by
  refine loop_makes (fun i => (i, state i)) (fun _ => realm) todo (fun i inside => ?_) ⟨0, last, fun left => ?_⟩ few
  · obtain ⟨k, paid, taken⟩ := each i inside
    refine ⟨k, by rwa [← Nat.add_assoc], fun left => ?_⟩
    rw [if_neg (Nat.not_le.mpr inside)]
    exact Makes.bind (n := 0) (taken left) fun left => .pure _ _ left
  · rw [if_pos (Nat.le_refl n)]
    exact .pure _ _ left

section Lists

variable {realm : Realm} {a : Addr} {values : List Value}

theorem lengthOf_list (E : Engine) (there : realm.heap[a]? = some (listObject values)) :
    lengthOf E a realm = .ok values.length realm :=
  bind_of_ok (kindOf_apply there) _

theorem getOf_item (E : Engine) (there : realm.heap[a]? = some (listObject values)) {i : Nat} {x : Value}
    (inside : values[i]? = some x) : getOf E a (.index i) realm = .ok x realm := by
  apply getOf_own E there
  have item : ((values.map some).toArray)[i]? = some (some x) := by simp [inside]
  rw [listObject, Obj.own?]
  simp only [item]
  rfl

theorem keyAt_index {i : Nat} (small : i < 0xffff_ffff) : ArrayObject.keyAt i = .index i :=
  if_pos small

theorem writeItems_comes (E : Engine) {write : Value → PropKey → Value → Units → Run (Option Units)}
    {items : List Json} (there : realm.heap[a]? = some (listObject values)) (all : values.length = items.length)
    (few : items.length < 0xffff_ffff)
    (each : ∀ i v, items[i]? = some v → ∃ x, values[i]? = some x ∧
      ∀ out left, Comes (scriptText v).length (write (.object a) (.index i) x out) { realm with steps := left }
        (some (written out (scriptText v))))
    (indent out : Units) :
    Comes (scriptText (.array items)).length (writeItems E plainly write a indent out) realm
      (written out (scriptText (.array items))) := by
  rw [writeItems]
  refine .behind (lengthOf_list E there) ?_
  rw [all]
  cases items with
  | nil => exact .mono (.pure _) (Nat.zero_le _)
  | cons first rest =>
    generalize whole : first :: rest = items at all few each ⊢
    have nonempty : (items.length == 0) = false := by
      rw [← whole]
      rfl
    let state (i : Nat) : Units :=
      written (out.push 0x5b) (Json.separated [','] ((items.take i).map scriptText))
    let todo (i : Nat) : Nat := ((items.drop i).map fun v => 1 + (scriptText v).length).sum + 1
    have start : state 0 = out.push 0x5b := written_nil _
    have enough : todo 0 + 0 ≤ (scriptText (.array items)).length := by
      have some : items ≠ [] := by
        rw [← whole]
        exact List.cons_ne_nil _ _
      have parts := length_separated scriptText some
      simp only [todo, List.drop_zero]
      rw [length_scriptText_array]
      omega
    simp only [nonempty, Bool.false_eq_true, if_false]
    rw [← start]
    refine .mono (Comes.bind (n := 0) (walk_comes todo (Nat.lt_trans few (by decide)) (Nat.succ_pos _)
      fun i inside => ?_) fun left => ?_) enough
    · have there' : items[i]? = some items[i] := List.getElem?_eq_getElem inside
      obtain ⟨x, item, writes⟩ := each i items[i] there'
      have next : written (if (i == 0) = true then state i else (state i).push 0x2c) (scriptText items[i]) =
          state (i + 1) := by
        simp only [state]
        rw [separated_take scriptText there', written_append, written_append]
        by_cases none : i = 0
        · simp [none, written_nil]
        · simp [none, written_comma]
      refine ⟨(scriptText items[i]).length, ?_, fun left => ?_⟩
      · simp only [todo]
        rw [List.drop_eq_getElem_cons inside, List.map_cons, List.sum_cons]
        omega
      have kept : ({ realm with steps := left } : Realm).heap[a]? = some (listObject values) := there
      have wrote := writes (if (i == 0) = true then state i else (state i).push 0x2c) left
      rw [next] at wrote
      rw [keyAt_index (Nat.lt_trans inside few)]
      exact .behind (getOf_item E kept item) (wrote.bind (n := 0) fun left => .pure _)
    · have whole : (state items.length).push 0x5d = written out (scriptText (.array items)) := by
        simp only [state]
        rw [List.take_length, Json.scriptText_array, List.cons_append, written_cons, written_append]
        rfl
      rw [← whole]
      exact .pure _

end Lists

section Records

variable {realm : Realm} {a : Addr} {fields : List (String × Json)} {props : List (PropKey × Property)}

def isWritten (o : Obj) : PropKey → Bool
  | .symbol _ => false
  | k => (o.own? k).any (·.enumerable)

theorem fieldNames_apply (there : realm.heap[a]? = some (filled plainObject props))
    (holds : (filled plainObject props).props.Holds props) (named : props.map (·.1) = fields.map key)
    (plain : ∀ k p, (k, p) ∈ props → p.enumerable = true) :
    fieldNames plainly a realm = .ok ((arrange fields).map key) realm := by
  have got := getObj_apply there
  have all : (filled plainObject props).ownKeys = (arrange fields).map key := by
    rw [Json.map_arrange, ← named]
    exact holds.keys
  have kept : (filled plainObject props).ownKeys.filter (isWritten (filled plainObject props)) =
      (arrange fields).map key := by
    rw [all, List.filter_eq_self]
    intro k listed
    obtain ⟨field, inside, rfl⟩ := List.mem_map.mp listed
    have known : key field ∈ props.map (·.1) := by
      rw [named]
      exact List.mem_map_of_mem ((Json.arrange_perm fields).mem_iff.mp inside)
    obtain ⟨⟨k, p⟩, there, same⟩ := List.mem_map.mp known
    have own : (filled plainObject props).own? (key field) = some p := by
      rw [own?_record, ← same]
      exact holds.get?_eq_some.mpr there
    unfold isWritten
    split
    next id symbol => exact absurd symbol (PropKey.ofUnits_ne_symbol _ id)
    next => simp [own, plain k p there]
  exact (bind_of_ok got _).trans (congrArg (fun ks => EStateM.Result.ok ks realm) kept)

def Written (E : Engine) (write : Value → PropKey → Value → Units → Run (Option Units)) (realm : Realm) (a : Addr)
    (field : String × Json) : Prop :=
  ∃ x, ∀ left, getOf E a (key field) { realm with steps := left } = .ok x { realm with steps := left } ∧
    ∀ out, Comes (scriptText field.2).length (write (.object a) (key field) x out) { realm with steps := left }
      (some (written out (scriptText field.2)))

variable {E : Engine} {write : Value → PropKey → Value → Units → Run (Option Units)} {indent : Units}

theorem go_step {field : String × Json} (done : Written E write realm a field) {isEmpty : Bool} {out : Units}
    {ks : List PropKey} {r : Bool × Units} {n : Nat}
    (later : ∀ left, Comes n (writeFields.go E plainly write a indent false
      (written (if isEmpty then out else out.push 0x2c) (fieldBy scriptText field)) ks)
      { realm with steps := left } r) (left : Nat) :
    Comes ((fieldBy scriptText field).length + n)
      (writeFields.go E plainly write a indent isEmpty out (key field :: ks)) { realm with steps := left } r := by
  obtain ⟨x, done⟩ := done
  have told : (key field).toValue = .string (Units.ofString field.1) := PropKey.toValue_ofUnits _
  have enough : 1 + ((scriptText field.2).length + n) ≤ (fieldBy scriptText field).length + n := by
    have value := length_value_lt field
    omega
  rw [writeFields.go]
  refine .mono ((tick_comes _).bind fun left => .behind (done left).1 ?_) enough
  simp only [told]
  have front : quoted (breakLine plainly indent (if isEmpty then out else out.push 0x2c))
      (Units.ofString field.1) ++ #[0x3a] =
        written (if isEmpty then out else out.push 0x2c) (Json.stringText field.1 ++ [':']) := by
    rw [quoted_ofString, written_ofList, written_append]
    rfl
  have whole : written (written (if isEmpty then out else out.push 0x2c) (Json.stringText field.1 ++ [':']))
      (scriptText field.2) = written (if isEmpty then out else out.push 0x2c) (fieldBy scriptText field) := by
    rw [← written_append, List.append_assoc]
    rfl
  have wrote := (done left).2 (written (if isEmpty then out else out.push 0x2c) (Json.stringText field.1 ++ [':']))
  rw [whole, ← front] at wrote
  exact wrote.bind later

theorem go_later {l : List (String × Json)} (each : ∀ field ∈ l, Written E write realm a field) (out : Units)
    (left : Nat) :
    Comes (l.flatMap fun field => ',' :: fieldBy scriptText field).length
      (writeFields.go E plainly write a indent false out (l.map key)) { realm with steps := left }
      (false, written out (l.flatMap fun field => ',' :: fieldBy scriptText field)) := by
  induction l generalizing out left with
  | nil =>
    rw [List.flatMap_nil, written_nil]
    exact .pure _
  | cons field l ih =>
    rw [List.flatMap_cons, List.cons_append, written_cons, written_append, List.length_cons, List.length_append]
    refine .mono (go_step (each field List.mem_cons_self) (fun left => ?_) left) (Nat.le_succ _)
    exact ih (fun f inside => each f (List.mem_cons_of_mem _ inside)) _ left

theorem go_first {l : List (String × Json)} (each : ∀ field ∈ l, Written E write realm a field) (out : Units)
    (left : Nat) :
    Comes (Json.separated [','] (l.map (fieldBy scriptText))).length
      (writeFields.go E plainly write a indent true out (l.map key)) { realm with steps := left }
      (l.isEmpty, written out (Json.separated [','] (l.map (fieldBy scriptText)))) := by
  cases l with
  | nil => exact .pure _
  | cons field l =>
    rw [Json.separated_cons, written_append, List.length_append]
    refine go_step (each field List.mem_cons_self) (fun left => ?_) left
    exact go_later (fun f inside => each f (List.mem_cons_of_mem _ inside)) _ left

theorem writeFields_comes (there : realm.heap[a]? = some (filled plainObject props))
    (holds : (filled plainObject props).props.Holds props) (named : props.map (·.1) = fields.map key)
    (plain : ∀ k p, (k, p) ∈ props → p.enumerable = true)
    (each : ∀ field ∈ fields, Written E write realm a field) (indent out : Units) :
    Comes (scriptText (.object fields)).length (writeFields E plainly write a indent out) realm
      (written out (scriptText (.object fields))) := by
  have arranged : ∀ field ∈ arrange fields, Written E write realm a field :=
    fun field inside => each field ((Json.arrange_perm fields).mem_iff.mp inside)
  have whole : (written (out.push 0x7b) (Json.separated [','] ((arrange fields).map (fieldBy scriptText)))).push 0x7d =
      written out (scriptText (.object fields)) := by
    rw [Json.scriptText_object, List.cons_append, written_cons, written_append]
    rfl
  rw [writeFields, length_scriptText_object]
  refine .behind (fieldNames_apply there holds named plain) ?_
  refine .mono ((go_first arranged (out.push 0x7b) realm.steps).bind (n := 0) fun left => ?_) (Nat.le_add_right _ 2)
  rw [← whole]
  cases (arrange fields).isEmpty <;> exact .pure _

end Records

theorem written_text (out : Units) (s : String) : out ++ Units.ofString s = written out s.toList := by
  rw [← written_ofList, String.ofList_toList]

def Writes (E : Engine) (v : Json) : Prop :=
  ∀ ⦃realm : Realm⦄ ⦃lo hi : Addr⦄ ⦃x : Value⦄ ⦃enclosing : List Addr⦄ ⦃fuel : Nat⦄, Quiet realm →
    Shows realm.heap lo hi v x → (∀ b ∈ enclosing, b < lo ∨ hi ≤ b) → v.depth < fuel →
    (scriptText v).length ≤ maxString → ∀ (indent : Units) (holder : Value) (k : PropKey) (out : Units),
      Comes (scriptText v).length (write E plainly fuel enclosing indent holder k x out) realm
        (some (written out (scriptText v)))

section

variable {E : Engine}

theorem writes_text {v : Json} (exact : Exact v) {image : Value} (same : ∀ base, JsonObject.image base v = image)
    (leaf : ∀ (realm : Realm) fuel enclosing indent holder k out,
      prepared E plainly holder k image realm = .ok image realm →
      write E plainly (fuel + 1) enclosing indent holder k image out realm =
        .ok (some (written out (scriptText v))) realm) : Writes E v := by
  intro realm lo hi x enclosing fuel quiet shows outside deep short indent holder k out
  have ready := prepared_apply E quiet exact shows holder k
  obtain ⟨base, rfl, -⟩ := shows
  rw [same] at ready ⊢
  cases fuel with
  | zero => cases deep
  | succ fuel => exact .mono (.of_ok (leaf realm fuel enclosing indent holder k out ready)) (Nat.zero_le _)

theorem writes_null : Writes E .null :=
  writes_text .null (fun _ => rfl) fun realm _ _ _ _ _ out ready =>
    (bind_of_ok ready _).trans (congrArg (fun u => EStateM.Result.ok (some u) realm) (written_text out "null"))

theorem writes_bool (b : Bool) : Writes E (.bool b) := by
  refine writes_text (.bool b) (fun _ => rfl) fun realm _ _ _ _ _ out ready => (bind_of_ok ready _).trans ?_
  cases b with
  | true => exact congrArg (fun u => EStateM.Result.ok (some u) realm) (written_text out "true")
  | false => exact congrArg (fun u => EStateM.Result.ok (some u) realm) (written_text out "false")

theorem writes_int {n : Int} (small : n.natAbs ≤ 2 ^ 53) : Writes E (.int n) := by
  refine writes_text (.int small) (fun _ => rfl) fun realm _ _ _ _ _ out ready => (bind_of_ok ready _).trans ?_
  have text : Number.toUnits (Double.ofWhole n) = Units.ofString (String.ofList (Json.intText n)) := by
    rw [Number.toUnits, Double.text_ofWhole small]
  have whole : out ++ (if (Double.ofWhole n).isFinite then Number.toUnits (Double.ofWhole n) else Units.ofString "null") =
      written out (scriptText (.int n)) := by
    rw [if_pos (Double.isFinite_ofWhole small), text]
    exact written_ofList out _
  exact congrArg (fun u => EStateM.Result.ok (some u) realm) whole

theorem writes_string (s : String) : Writes E (.string s) := by
  refine writes_text (.string s) (fun _ => rfl) fun realm _ _ _ _ _ out ready => (bind_of_ok ready _).trans ?_
  have whole : quoted out (Units.ofString s) = written out (scriptText (.string s)) := by
    rw [quoted_ofString]
    exact written_ofList out _
  exact congrArg (fun u => EStateM.Result.ok (some u) realm) whole

theorem not_enclosing {enclosing : List Addr} {lo hi a : Addr} (outside : ∀ b ∈ enclosing, b < lo ∨ hi ≤ b)
    (low : lo ≤ a) (high : a < hi) : enclosing.contains a = false := by
  rw [← Bool.not_eq_true, List.contains_iff_mem]
  intro inside
  rcases outside a inside with below | above
  · exact Nat.not_lt.mpr low below
  · exact Nat.not_lt.mpr above high

theorem write_object {realm : Realm} {a : Addr} {enclosing : List Addr} {fuel : Nat} {indent out : Units}
    {holder : Value} {k : PropKey} {u : Units} {list : Bool} {n : Nat}
    (ready : prepared E plainly holder k (.object a) realm = .ok (.object a) realm)
    (inert : isCallable (.object a) realm = .ok false realm) (apart : enclosing.contains a = false)
    (kind : isArray (.object a) realm = .ok list realm)
    (wrote : Comes n ((if list then writeItems else writeFields) E plainly
      (write E plainly fuel (a :: enclosing) (indent ++ plainly.gap)) a (indent ++ plainly.gap) out) realm u) :
    Comes n (write E plainly (fuel + 1) enclosing indent holder k (.object a) out) realm (some u) := by
  rw [write]
  refine .behind ready ?_
  simp only
  refine .behind inert ?_
  simp only [apart, Bool.false_eq_true, if_false]
  refine .behind kind ?_
  cases list <;> exact wrote.bind (n := 0) fun left => .pure _

theorem writes_array {items : List Json} (each : ∀ v ∈ items, Exact v) (writes : ∀ v ∈ items, Writes E v) :
    Writes E (.array items) := by
  intro realm lo hi x enclosing fuel quiet shows outside deep short indent holder k out
  cases fuel with
  | zero => cases deep
  | succ fuel =>
    have ready := prepared_apply E quiet (.array each) shows holder k
    have inert := shows.inert
    obtain ⟨base, low, high, rfl, there, stored⟩ := shows.list
    have apart := not_enclosing outside (Nat.le_trans low (Nat.le_add_right base (boxesItems items))) high
    have kind : isArray (.object (base + boxesItems items)) realm = .ok true realm :=
      bind_of_ok (kindOf_apply there) _
    refine write_object ready inert apart kind ?_
    have few : items.length < 0xffff_ffff := by
      have count := count_lt each
      have most : maxString < 0xffff_ffff := by decide
      omega
    refine writeItems_comes E there (length_imageItems base items) few (fun i v here => ?_) _ out
    obtain ⟨x, item, shows⟩ := shows_items stored here
    have inside := List.mem_of_getElem? here
    refine ⟨x, item, fun out left => ?_⟩
    -- The list lies behind its items, and what encloses it lies outside of it.
    have beyond : ∀ b ∈ (base + boxesItems items) :: enclosing, b < base ∨ base + boxesItems items ≤ b := by
      intro b named
      rcases List.mem_cons.mp named with rfl | named
      · exact .inr (Nat.le_refl _)
      · exact (outside b named).imp (Nat.lt_of_lt_of_le · low) (Nat.le_trans (Nat.le_of_lt high))
    have shallow : v.depth < fuel :=
      Nat.lt_of_le_of_lt (Json.le_depthItems inside) (Nat.lt_of_succ_lt_succ deep)
    have still : Quiet { realm with steps := left } := ⟨quiet.idle, quiet.room, quiet.mute⟩
    exact writes v inside still shows beyond shallow
      (Nat.le_trans (length_item_le inside) short) _ _ _ out

theorem writes_object {fields : List (String × Json)} (ordered : fields.Pairwise fun a b => a.1 < b.1)
    (each : ∀ field ∈ fields, Exact field.2) (writes : ∀ field ∈ fields, Writes E field.2) :
    Writes E (.object fields) := by
  intro realm lo hi x enclosing fuel quiet shows outside deep short indent holder k out
  cases fuel with
  | zero => cases deep
  | succ fuel =>
    have ready := prepared_apply E quiet (.object ordered each) shows holder k
    have inert := shows.inert
    obtain ⟨base, low, high, rfl, there, stored⟩ := shows.record
    have last : base + 1 ≤ hi := Nat.le_trans (Nat.le_add_right _ _) high
    have apart := not_enclosing outside low last
    have kind : isArray (.object base) realm = .ok false realm := bind_of_ok (kindOf_apply there) _
    refine write_object ready inert apart kind ?_
    refine writeFields_comes there (holds_filled ordered _) (keys_imageFields _ _)
      (fun k p inside => enumerable_imageFields inside) (fun field inside => ?_) _ out
    obtain ⟨x, got, shows⟩ := getOf_field E ordered there stored inside
    refine ⟨x, fun left => ⟨got left, fun out => ?_⟩⟩
    have beyond : ∀ b ∈ base :: enclosing, b < base + 1 ∨ base + 1 + boxesFields fields ≤ b := by
      intro b named
      rcases List.mem_cons.mp named with rfl | named
      · exact .inl (Nat.lt_succ_self _)
      · exact (outside b named).imp (fun below => Nat.lt_succ_of_lt (Nat.lt_of_lt_of_le below low)) (Nat.le_trans high)
    have shallow : field.2.depth < fuel :=
      Nat.lt_of_le_of_lt (Json.le_depthFields inside) (Nat.lt_of_succ_lt_succ deep)
    have still : Quiet { realm with steps := left } := ⟨quiet.idle, quiet.room, quiet.mute⟩
    exact writes field inside still shows beyond shallow
      (Nat.le_trans (length_field_le inside) short) _ _ _ out

-- The induction over the document: a list and an object are written as far as what they hold is.
theorem writes_exact (E : Engine) {v : Json} (exact : Exact v) : Writes E v := by
  induction exact with
  | null => exact writes_null
  | bool b => exact writes_bool b
  | int small => exact writes_int small
  | string s => exact writes_string s
  | array each ih => exact writes_array each ih
  | object ordered each ih => exact writes_object ordered each ih

end

theorem Shows.extend {realm : Realm} {lo hi : Addr} {v : Json} {x : Value} (shows : Shows realm.heap lo hi v x)
    (more : List Obj) : Shows (extend realm more).heap lo hi v x := by
  obtain ⟨base, same, low, high, stored⟩ := shows
  exact ⟨base, same, low, high, stored.extend more⟩

theorem quiet_extend {realm : Realm} (quiet : Quiet realm) (os : List Obj) : Quiet (extend realm os) := by
  induction os generalizing realm with
  | nil =>
    rw [extend_nil]
    exact quiet
  | cons o os ih =>
    have one := ih (show Quiet (extend realm [o]) from quiet.alloc o)
    rwa [extend_extend, List.singleton_append] at one

theorem size_ofString (cs : List Char) : cs.length ≤ (Units.ofString (String.ofList cs)).size := by
  rw [Units.ofString_ofList]
  exact (Units.length_unitsOf cs).1

def stringifyPlainly (E : Engine) (x : Value) : Run (Option Units) := do
  let a ← newPlain
  putOwn a (.name #[]) (.plain x)
  match ← write E plainly maxDepth [] #[] (.object a) (.name #[]) x #[] with
  | some u => return some (← checkString u)
  | none => return none

theorem stringify_reaches (E : Engine) {realm : Realm} (quiet : Quiet realm) {lo hi : Addr} {v : Json} {x : Value}
    (exact : Exact v) (shows : Shows realm.heap lo hi v x) (deep : v.depth < maxDepth)
    (fits : StringFits realm.heapLimit (Units.ofString (String.ofList (scriptText v)))) :
    Reaches (scriptText v).length (stringify E x .undefined .undefined) realm fun u _ =>
      u = some (Units.ofString (String.ofList (scriptText v))) := by
  let holder := filled plainObject [(.name #[], .plain x)]
  have made := newPlain_apply realm
  have there : (extend realm [plainObject]).heap[realm.heap.size]? = some plainObject := by simp [JsonObject.extend]
  have stored := putOwn_apply there rfl (.name #[]) (.plain x)
  rw [fill_last] at stored
  have short := Nat.le_trans (size_ofString (scriptText v)) fits.length
  have wrote := writes_exact E exact (quiet_extend quiet [holder]) (shows.extend [holder]) (List.forall_mem_nil _)
    deep short #[]
    (.object realm.heap.size) (.name #[]) #[]
  have opened : stringify E x .undefined .undefined realm = stringifyPlainly E x realm := rfl
  rw [stringifyPlainly, bind_of_ok made, bind_of_ok stored] at opened
  have whole : written #[] (scriptText v) = Units.ofString (String.ofList (scriptText v)) := by
    rw [← written_ofList, Array.empty_append]
  rw [whole] at wrote
  refine .of_eq opened rfl (Reaches.bind (n := 0) wrote fun u after done => ?_)
  obtain ⟨rfl, n, rfl⟩ := done
  have checked : checkString (Units.ofString (String.ofList (scriptText v)))
      { extend realm [holder] with steps := n } = .ok _ { extend realm [holder] with steps := n } :=
    checkString_of_fits fits
  exact .of_ok (bind_of_ok checked _) rfl (Nat.le_refl _)

end JsonObject
end Script
end BoundedScript
