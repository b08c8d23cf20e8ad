import BoundedScript.Proofs.Script.Twins
import BoundedScript.Script.Interpreter

set_option autoImplicit false

namespace BoundedScript.Script

open Run

theorem Obj.own?_word (o : Obj) {k : PropKey} (word : k.index? = none) (other : k ≠ lengthKey) :
    o.own? k = o.props.get? k := by
  have apart : (k == lengthKey) = false := beq_eq_false_iff_ne.mpr other
  rw [Obj.own?]
  cases k with
  | index n => cases word
  | name u => cases o.kind <;> simp only [apart] <;> rfl
  | symbol id => cases o.kind <;> simp only [apart] <;> rfl

theorem Label.ne_length {l : Label} (foreign : l.isOwn = false) : l ≠ .name "length" := by
  rintro rfl
  cases foreign

theorem Label.key_ne {l : Label} {n : String} (foreign : l.isOwn = false) (own : (Label.name n).isOwn = true) :
    l.key ≠ .ofString n := by
  intro same
  obtain rfl : l = .name n := Label.key_inj same
  rw [own] at foreign
  cases foreign

section Fresh

variable {i : Intrinsic} {l : Label} {o : Obj} {p : Property} {fuel : Nat}

theorem lengthKey_eq : lengthKey = .ofString "length" :=
  (Label.key_word (n := "length") (by decide)).symm

theorem fresh_own (there : World.fresh.heap[i.addr]? = some o) (word : l.isWord = true) (other : l ≠ .name "length")
    (own : o.own? l.key = some p) : (demandAt i l).Met World.fresh.heap p := by
  have decent := World.fresh_furnished.decent _ o there
  rw [← demand_addr i l]
  refine decent.held l p ?_
  rwa [← Obj.own?_word o (Label.index?_of_isWord word)]
  rw [lengthKey_eq]
  exact fun same => other (Label.key_inj same)

theorem fresh_parent (inside : i ∈ watched) (there : World.fresh.heap[i.addr]? = some o) {b : Addr}
    (parent : o.parent = some b) : b = Intrinsic.objectPrototype.addr :=
  (World.fresh_furnished.decent _ o there).parent i inside rfl b parent

theorem fresh_find (inside : i ∈ watched) (word : l.isWord = true) (other : l ≠ .name "length")
    (found : World.fresh.find? i.addr l.key fuel = some p) :
    (demandAt i l).Met World.fresh.heap p ∨ (demandAt .objectPrototype l).Met World.fresh.heap p := by
  induction fuel generalizing i with
  | zero => cases found
  | succ fuel ih =>
    rw [Realm.find?] at found
    cases there : World.fresh.heap[i.addr]? with
    | none =>
      simp only [there] at found
      cases found
    | some o =>
      simp only [there] at found
      cases own : o.own? l.key with
      | some q =>
        simp only [own] at found
        cases found
        exact .inl (fresh_own there word other own)
      | none =>
        cases parent : o.parent with
        | none =>
          simp only [own, parent] at found
          cases found
        | some b =>
          simp only [own, parent] at found
          obtain rfl := fresh_parent inside there parent
          exact .inr ((ih (by simp [watched]) found).elim id id)

theorem fresh_lacks (inside : i ∈ watched) (word : l.isWord = true) (other : l ≠ .name "length")
    (absent : demandAt i l = .absent ∧ demandAt .objectPrototype l = .absent) (fuel : Nat) :
    World.fresh.find? i.addr l.key fuel = none := by
  cases found : World.fresh.find? i.addr l.key fuel with
  | none => rfl
  | some p =>
    rcases fresh_find inside word other found with met | met
    · rw [absent.1] at met
      exact met.elim
    · rw [absent.2] at met
      exact met.elim

end Fresh

section Hosted

variable {heap : Array Obj} (hosts : Hosts heap) (r : Realm)
include hosts

theorem Hosts.getElem? {a : Addr} (other : a ≠ Intrinsic.global.addr) (low : a < World.fresh.heap.size) :
    (r.over heap).heap[a]? = World.fresh.heap[a]? := by
  change (heap ++ r.heap)[a]? = _
  rw [Array.getElem?_append_left (Nat.lt_of_lt_of_le low hosts.room), hosts.same a other low]

theorem Hosts.intrinsic {i : Intrinsic} (other : i.addr ≠ Intrinsic.global.addr) :
    (r.over heap).heap[i.addr]? = World.fresh.heap[i.addr]? :=
  hosts.getElem? r other (Nat.lt_of_lt_of_le i.addr_lt World.fresh_furnished.room)

theorem Hosts.find {i : Intrinsic} (inside : i ∈ watched) (other : i.addr ≠ Intrinsic.global.addr) (k : PropKey)
    (fuel : Nat) : (r.over heap).find? i.addr k fuel = World.fresh.find? i.addr k fuel := by
  induction fuel generalizing i with
  | zero => rw [Realm.find?, Realm.find?]
  | succ fuel ih =>
    rw [Realm.find?, Realm.find?, hosts.intrinsic r other]
    cases there : World.fresh.heap[i.addr]? with
    | none => rfl
    | some o =>
      dsimp only
      cases o.own? k with
      | some p => rfl
      | none =>
        dsimp only
        cases parent : o.parent with
        | none => rfl
        | some b =>
          obtain rfl := fresh_parent inside there parent
          exact ih (by simp [watched]) (by decide)

theorem Hosts.native {b : Addr} {f : Native} (native : IsNative World.fresh.heap b f) :
    kindOf (b) (r.over heap) = .ok (.native f) (r.over heap) := by
  obtain ⟨above, o, there, kind⟩ := native
  have low := (Array.getElem?_eq_some_iff.mp there).1
  have apart : b ≠ Intrinsic.global.addr := Nat.ne_of_gt (Nat.lt_of_lt_of_le (Intrinsic.addr_lt _) above)
  rw [kindOf_apply ((hosts.getElem? r apart low).trans there), kind]

end Hosted

theorem over_made (heap : Array Obj) (r : Realm) (i : Nat) : (r.over heap).heap[heap.size + i]? = r.heap[i]? := by
  change (heap ++ r.heap)[heap.size + i]? = _
  rw [Array.getElem?_append_right (Nat.le_add_right _ _), Nat.add_sub_cancel_left]

namespace Simple

variable {scope : Scope} {o : Obj}

def proto (o : Obj) : Intrinsic :=
  match o.kind with
  | .regexp _ _ _ => .regexpPrototype
  | _ => .functionPrototype

theorem parent (simple : Simple scope o) : o.parent = some (proto o).addr := by
  cases simple <;> rfl

theorem own (simple : Simple scope o) {l : Label} (word : l.isWord = true) (foreign : l.isOwn = false) :
    o.own? l.key = none := by
  have keys : l.key ≠ lengthKey ∧ l.key ≠ nameKey ∧ l.key ≠ lastIndexKey := by
    have name : nameKey = .ofString "name" := (Label.key_word (n := "name") (by decide)).symm
    have last : lastIndexKey = .ofString "lastIndex" := (Label.key_word (n := "lastIndex") (by decide)).symm
    rw [lengthKey_eq, name, last]
    exact ⟨Label.key_ne foreign (by decide), Label.key_ne foreign (by decide), Label.key_ne foreign (by decide)⟩
  rw [Obj.own?_word o (Label.index?_of_isWord word) keys.1]
  cases simple with
  | regexp p source flags =>
    rw [regexpObject, PropTable.get?_insert, if_neg (Ne.symm keys.2.2), PropTable.get?_empty]
  | closure bare gives inner =>
    rw [closureObject, functionProps, PropTable.get?_insert, if_neg (Ne.symm keys.2.1), PropTable.get?_insert,
      if_neg (Ne.symm keys.1), PropTable.get?_empty]

end Simple

def Simple.tells (o : Obj) (f : Native) : Bool :=
  match o.kind with
  | .regexp _ _ _ => f.isTeller
  | _ => f.isTame

theorem Simple.kind {scope : Scope} {o : Obj} (simple : Simple scope o) :
    (∃ p source flags, o.kind = .regexp p source flags) ∨
      ∃ env f e, o.kind = .closure ⟨f, env, none, []⟩ ∧ env.vars = [] ∧ Gives f e ∧ Plain scope e := by
  cases simple with
  | regexp p source flags => exact .inl ⟨p, source, flags, rfl⟩
  | @closure env f e bare gives inner => exact .inr ⟨env, f, e, rfl, bare, gives, inner⟩

section Found

variable {scope : Scope} {o : Obj} {l : Label} {p : Property} {fuel : Nat}

theorem Simple.lacks (simple : Simple scope o) (word : l.isWord = true) (foreign : l.isOwn = false)
    (absent : demandAt .functionPrototype l = .absent ∧ demandAt .regexpPrototype l = .absent ∧
      demandAt .objectPrototype l = .absent) : World.fresh.find? (proto o).addr l.key fuel = none := by
  cases simple
  · exact fresh_lacks (i := .regexpPrototype) (by simp [watched]) word (Label.ne_length foreign) absent.2 fuel
  · exact fresh_lacks (i := .functionPrototype) (by simp [watched]) word (Label.ne_length foreign)
      ⟨absent.1, absent.2.2⟩ fuel

theorem Simple.lends (simple : Simple scope o) {n : String} (asked : n = "valueOf" ∨ n = "toString")
    (found : World.fresh.find? (proto o).addr (Label.name n).key fuel = some p) :
    ∃ b f w, IsNative World.fresh.heap b f ∧ tells o f = true ∧ p.slot = .data (.object b) w := by
  have known : ((Label.name n).isWord = true ∧ (Label.name n).isOwn = false) ∧
      demandAt .functionPrototype (.name n) = .tame ∧ demandAt .regexpPrototype (.name n) = .teller ∧
      demandAt .objectPrototype (.name n) = .tameValue := by
    rcases asked with rfl | rfl <;> decide
  have tame : ∀ f : Native, f.isTame = true → tells o f = true := by
    intro f tame
    rw [tells]
    split
    · rw [Native.isTeller.eq_def]
      split
      · rfl
      · exact tame
    · exact tame
  obtain ⟨here, inside⟩ : (demandAt (proto o) (.name n) = .tame ∨
      (demandAt (proto o) (.name n) = .teller ∧ ∀ f, tells o f = f.isTeller)) ∧ proto o ∈ watched := by
    cases simple
    · exact ⟨.inr ⟨known.2.2.1, fun _ => rfl⟩, by simp [watched, proto, regexpObject]⟩
    · exact ⟨.inl known.2.1, by simp [watched, proto, closureObject]⟩
  rcases fresh_find inside known.1.1 (Label.ne_length known.1.2) found with met | met
  · rcases here with same | ⟨same, teller⟩
    · rw [same] at met
      obtain ⟨b, f, w, native, tamed, slot⟩ := met
      exact ⟨b, f, w, native, tame f tamed, slot⟩
    · rw [same] at met
      obtain ⟨b, f, w, native, told, slot⟩ := met
      exact ⟨b, f, w, native, (teller f).trans told, slot⟩
  · rw [known.2.2.2] at met
    obtain ⟨b, f, native, tamed, slot⟩ := met
    exact ⟨b, f, true, native, tame f tamed, slot⟩

theorem Simple.matched (simple : Simple scope o)
    (found : World.fresh.find? (proto o).addr (Label.symbol .match).key fuel = some p) : ∃ v, p.slot = .data v true := by
  cases simple
  · rcases fresh_find (i := .regexpPrototype) (by simp [watched]) rfl (Label.ne_length rfl) found with met | met
    · exact met
    · exact met.elim
  · rcases fresh_find (i := .functionPrototype) (by simp [watched]) rfl (Label.ne_length rfl) found with met | met
    · exact met.elim
    · exact met.elim

end Found

section Made

variable {scope : Scope} {heap : Array Obj} (hosts : Hosts heap) {r : Realm} {i : Nat} {o : Obj}
include hosts

theorem Hosts.find_made (there : r.heap[i]? = some o) (simple : Simple scope o) {l : Label} (word : l.isWord = true)
    (foreign : l.isOwn = false) (fuel : Nat) :
    (r.over heap).find? (heap.size + i) l.key (fuel + 1) = World.fresh.find? (Simple.proto o).addr l.key fuel := by
  rw [Realm.find?, over_made, there]
  dsimp only
  rw [simple.own word foreign, simple.parent]
  have apart : Simple.proto o ∈ watched ∧ (Simple.proto o).addr ≠ Intrinsic.global.addr := by
    cases simple
    · exact ⟨by simp [watched, Simple.proto, regexpObject], by simp only [Simple.proto, regexpObject]; decide⟩
    · exact ⟨by simp [watched, Simple.proto, closureObject], by simp only [Simple.proto, closureObject]; decide⟩
  exact hosts.find r apart.1 apart.2 _ _

theorem Hosts.getOf_made (E : Engine) (there : r.heap[i]? = some o) (simple : Simple scope o) {l : Label}
    (word : l.isWord = true) (foreign : l.isOwn = false) :
    getOf E (heap.size + i) l.key (r.over heap) =
      readSlot E (.object (heap.size + i)) (World.fresh.find? (Simple.proto o).addr l.key (maxParents - 1))
        (r.over heap) := by
  rw [getOf, getFrom]
  have found : find? (heap.size + i) l.key (r.over heap) =
      .ok (World.fresh.find? (Simple.proto o).addr l.key (maxParents - 1)) (r.over heap) := by
    rw [find?, ← hosts.find_made there simple word foreign]
    rfl
  exact bind_of_ok found _

end Made

theorem kindOf_made (heap : Array Obj) {r : Realm} {i : Nat} {o : Obj} (there : r.heap[i]? = some o) :
    kindOf (heap.size + i) (r.over heap) = .ok o.kind (r.over heap) :=
  kindOf_apply ((over_made heap r i).trans there)

def tryPrimitive (E : Engine) (a : Addr) (k : PropKey) (next : Run Value) : Run Value := do
  let f ← getOf E a k
  if ← isCallable f then
    let v ← E.call f (.object a) #[]
    if !v.isObject then return v else next
  else next

theorem ordinaryToPrimitive_eq (E : Engine) (a : Addr) (first second : PropKey) :
    ordinaryToPrimitive E a first second =
      tryPrimitive E a first (tryPrimitive E a second (typeError "toPrimitive")) := by
  unfold ordinaryToPrimitive tryPrimitive
  simp only [List.forIn_cons, List.forIn_nil, bind_assoc]
  refine bind_congr fun f => bind_congr fun c => ?_
  split
  · rw [bind_assoc]
    refine bind_congr fun v => ?_
    split
    · simp
    · simp only [pure_bind, bind_assoc]
      refine bind_congr fun g => bind_congr fun d => ?_
      split
      · rw [bind_assoc]
        refine bind_congr fun w => ?_
        split <;> simp
      · simp
  · simp only [pure_bind, bind_assoc]
    refine bind_congr fun g => bind_congr fun d => ?_
    split
    · rw [bind_assoc]
      refine bind_congr fun w => ?_
      split <;> simp
    · simp

def Label.isMissing (l : Label) : Bool :=
  l.isWord && !l.isOwn && demandAt .functionPrototype l = .absent && demandAt .regexpPrototype l = .absent &&
    demandAt .objectPrototype l = .absent

theorem Hosts.getOf_missing {scope : Scope} {heap : Array Obj} (hosts : Hosts heap) {r : Realm}
    {i : Nat} {o : Obj} (E : Engine) (there : r.heap[i]? = some o) (simple : Simple scope o) {l : Label}
    (missing : l.isMissing = true) :
    getOf E (heap.size + i) l.key (r.over heap) = .ok .undefined (r.over heap) := by
  simp only [Label.isMissing, Bool.and_eq_true, Bool.not_eq_true', decide_eq_true_eq] at missing
  obtain ⟨⟨⟨⟨word, foreign⟩, first⟩, second⟩, third⟩ := missing
  rw [hosts.getOf_made E there simple word foreign, simple.lacks word foreign ⟨first, second, third⟩]
  rfl

theorem Hosts.isCallable_native {heap : Array Obj} (hosts : Hosts heap) (r : Realm) {b : Addr} {f : Native}
    (native : IsNative World.fresh.heap b f) : isCallable (.object b) (r.over heap) = .ok true (r.over heap) := by
  rw [isCallable, bind_of_ok (hosts.native r native)]
  rfl

-- What a name stands for in a fresh world.
def Stands (n : String) (v : Value) : Prop :=
  ∃ p w, World.fresh.find? Intrinsic.global.addr (globalKey n) maxParents = some p ∧ p.slot = .data v w

-- What is called on a value and comes to a value of its own.
def Native.Lends (f : Native) (this : Value) : Prop :=
  f.isMath = true ∨ f.isSteady = true ∧ this.isPlain = true

namespace Twins

variable {T : Twins}

def Equal (_ : Realm) (v v' : Value) : Prop :=
  v = v' ∧ v.isPlain = true

/-- An interpreter that comes to the same in two such worlds. -/
structure Even (T : Twins) (E : Engine) : Prop where
  eval : ∀ (r : Realm) (env : Env) (e : Expr), env.vars = [] → Plain T.toScope e →
    T.Alike (E.eval env e) (E.eval env e) r T.Same
  selects : ∀ (r : Realm) (env : Env) (e : Expr) (v : Json), env.vars = [] → Selects T.docs e v →
    T.Alike (E.eval env e) (E.eval env e) r fun _ => T.Shown v
  exec : ∀ (r : Realm) (env : Env) (e : Expr), env.vars = [] → Plain T.toScope e →
    T.Alike (E.exec env (.return e)) (E.exec env (.return e)) r fun s c c' =>
      ∃ v v', c = .returned v ∧ c' = .returned v' ∧ T.Same s v v'
  idle : ∀ (r : Realm) (env : Env), T.Alike (E.exec env .empty) (E.exec env .empty) r fun _ c c' => c = .normal ∧ c' = .normal
  call : ∀ (r : Realm) (f f' this this' : Value) (args args' : Array Value), T.Same r f f' →
    T.Alike (E.call f this args) (E.call f' this' args') r T.Same
  told : ∀ (r : Realm) (i : Nat) (o : Obj) (b : Addr) (f : Native), r.heap[i]? = some o → Simple T.toScope o →
    IsNative World.fresh.heap b f → Simple.tells o f = true →
    T.Alike (E.call (.object b) (.object (T.left.size + i)) #[]) (E.call (.object b) (.object (T.right.size + i)) #[]) r
      T.Same
  shown : ∀ (r : Realm) (i : Nat) (p : RegExp.Program) (source flags : Units) (b : Addr) (f : Native),
    r.heap[i]? = some (regexpObject p source flags) → IsNative World.fresh.heap b f → f.isGetter = true →
    T.Alike (E.call (.object b) (.object (T.left.size + i)) #[]) (E.call (.object b) (.object (T.right.size + i)) #[]) r
      Equal
  opened : ∀ (r : Realm) (env : Env) (n : String), env.vars = [] → IsFree T.taken n →
    T.Alike (E.eval env (.name n)) (E.eval env (.name n)) r fun _ v v' => v = v' ∧ Stands n v
  lent : ∀ (r : Realm) (b : Addr) (f : Native) (this : Value) (args args' : Array Value),
    IsNative World.fresh.heap b f → f.Lends this → T.Sames r args args' →
    T.Alike (E.call (.object b) this args) (E.call (.object b) this args') r Equal

section

variable {E : Engine} (even : T.Even E) {r : Realm}
include even

theorem tryPrimitive_alike {i : Nat} {o : Obj} (there : r.heap[i]? = some o) (simple : Simple T.toScope o) {n : String}
    (asked : n = "valueOf" ∨ n = "toString") {next next' : Run Value}
    (otherwise : ∀ s, r.Grows s → T.Alike next next' s Equal) :
    T.Alike (tryPrimitive E (T.left.size + i) (Label.name n).key next)
      (tryPrimitive E (T.right.size + i) (Label.name n).key next') r Equal := by
  have word : (Label.name n).isWord = true ∧ (Label.name n).isOwn = false := by
    rcases asked with rfl | rfl <;> decide
  have left := T.leftHosts.getOf_made E there simple word.1 word.2
  have right := T.rightHosts.getOf_made E there simple word.1 word.2
  rw [tryPrimitive, tryPrimitive]
  cases found : World.fresh.find? (Simple.proto o).addr (Label.name n).key (maxParents - 1) with
  | none =>
    rw [found] at left right
    have idle : ∀ s, isCallable .undefined s = .ok false s := fun _ => rfl
    exact .behind left right (.behind (idle _) (idle _) (otherwise r (.refl r)))
  | some p =>
    obtain ⟨b, f, w, native, tells, slot⟩ := simple.lends asked found
    rw [found, readSlot, slot] at left right
    refine .behind left right ?_
    refine .behind (T.leftHosts.isCallable_native r native) (T.rightHosts.isCallable_native r native) ?_
    refine Alike.bind (even.told r i o b f there simple native tells) fun s v v' grows same => ?_
    cases same with
    | plain plain =>
      have bare : v.isObject = false := by
        cases v <;> first | rfl | cases plain
      simp only [bare, Bool.not_false, if_true]
      exact .pure ⟨rfl, plain⟩
    | made => exact otherwise s grows

theorem toPrimitive_alike (hint : Hint) {v v' : Value} (same : T.Same r v v') :
    T.Alike (toPrimitive E hint v) (toPrimitive E hint v') r Equal := by
  cases same with
  | plain plain =>
    cases v <;> first | exact .pure ⟨rfl, plain⟩ | cases plain
  | @made i o there simple =>
    have missing : (Label.symbol .toPrimitive).isMissing = true := by decide
    have left := T.leftHosts.getOf_missing E there simple missing
    have right := T.rightHosts.getOf_missing E there simple missing
    have value : valueOfKey = (Label.name "valueOf").key := (Label.key_word (by decide)).symm
    have text : toStringKey = (Label.name "toString").key := (Label.key_word (by decide)).symm
    have tried : ∀ m n : String, (m = "valueOf" ∨ m = "toString") → (n = "valueOf" ∨ n = "toString") →
        T.Alike (ordinaryToPrimitive E (T.left.size + i) (Label.name m).key (Label.name n).key)
          (ordinaryToPrimitive E (T.right.size + i) (Label.name m).key (Label.name n).key) r Equal := by
      intro m n first second
      rw [ordinaryToPrimitive_eq, ordinaryToPrimitive_eq]
      refine tryPrimitive_alike even there simple first fun s grows => ?_
      exact tryPrimitive_alike even (grows _ _ there) simple second fun _ _ => typeError_alike _
    unfold toPrimitive
    refine .behind left right ?_
    rw [value, text]
    cases hint with
    | string => exact tried _ _ (.inr rfl) (.inl rfl)
    | none | number => exact tried _ _ (.inl rfl) (.inr rfl)

end

end Twins

end BoundedScript.Script
