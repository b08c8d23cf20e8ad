import BoundedScript.Proofs.Script.Operators

set_option autoImplicit false

namespace BoundedScript.Script

open Run

def Demand.isData : Demand → Bool
  | .absent | .value | .tame | .tameValue | .teller | .units | .steady | .reckons | .fixed | .math => true
  | .free | .getter | .parent => false

theorem Demand.Met.data {heap : Array Obj} {p : Property} {d : Demand} (met : d.Met heap p) (data : d.isData = true) :
    ∃ v w, p.slot = .data v w := by
  cases d with
  | free | getter | parent => cases data
  | absent => exact met.elim
  | value => exact met.imp fun v slot => ⟨true, slot⟩
  | math => exact ⟨_, _, met⟩
  | fixed =>
    obtain ⟨v, w, -, slot⟩ := met
    exact ⟨v, w, slot⟩
  | tameValue | steady | reckons =>
    obtain ⟨a, -, -, -, slot⟩ := met
    exact ⟨_, _, slot⟩
  | tame | teller | units =>
    obtain ⟨a, -, w, -, -, slot⟩ := met
    exact ⟨_, _, slot⟩

theorem IsFree.data {taken : List String} {n : String} (free : IsFree taken n) {fuel : Nat} {p : Property}
    (found : World.fresh.find? Intrinsic.global.addr (globalKey n) fuel = some p) : ∃ v w, p.slot = .data v w := by
  have here : (demandAt .global (.name n)).isData = true := by
    simp only [demandAt]
    repeat' split
    all_goals rfl
  have above : (demandAt .objectPrototype (.name n)).isData = true := by
    simp only [demandAt, if_neg free.ordinary]
    repeat' split
    all_goals rfl
  have apart : Label.name n ≠ .name "length" := fun same => free.other (Label.name.inj same)
  rcases fresh_find (l := .name n) (by simp [watched]) free.word apart found with met | met
  · exact met.data here
  · exact met.data above

theorem IsRare.met {n : String} (rare : IsRare n) {i : Intrinsic} (inside : i ∈ watched) {fuel : Nat} {p : Property}
    (found : World.fresh.find? i.addr (Label.name n).key fuel = some p) :
    (demandAt i (.name n)).Met World.fresh.heap p := by
  have apart : Label.name n ≠ .name "length" := fun same => rare.1.2 (Label.name.inj same)
  rcases fresh_find inside rare.1.1 apart found with met | met
  · exact met
  · rw [rare.2] at met
    exact met.elim

section Fresh

variable {n : String} {v : Value} (stands : Stands n v)
include stands

theorem Stands.met (rare : IsRare n) :
    ∃ p w, p.slot = .data v w ∧ (demandAt .global (.name n)).Met World.fresh.heap p := by
  obtain ⟨p, w, found, slot⟩ := stands
  exact ⟨p, w, slot, rare.met (by simp [watched]) found⟩

theorem Stands.fixed (inside : n ∈ fixedNames) : v.isPlain = true := by
  have known : ∀ m ∈ fixedNames, IsRare m ∧ demandAt .global (.name m) = .fixed := by decide
  obtain ⟨p, w, slot, met⟩ := stands.met (known n inside).1
  rw [(known n inside).2] at met
  obtain ⟨u, _, plain, same⟩ := met
  cases slot.symm.trans same
  exact plain

theorem Stands.called (inside : n ∈ calledNames) :
    ∃ b f, v = .object b ∧ IsNative World.fresh.heap b f ∧ f.isSteady = true := by
  have known : ∀ m ∈ calledNames, IsRare m ∧ demandAt .global (.name m) = .steady := by decide
  obtain ⟨p, w, slot, met⟩ := stands.met (known n inside).1
  rw [(known n inside).2] at met
  obtain ⟨b, f, native, steady, same⟩ := met
  cases slot.symm.trans same
  exact ⟨b, f, rfl, native, steady⟩

theorem Stands.known {taken : List String} (free : IsFree taken n) : n ∈ knownNames := by
  by_contra missing
  simp only [knownNames, List.mem_append, List.mem_cons, not_or] at missing
  have absent : demandAt .global (.name n) = .absent ∧ demandAt .objectPrototype (.name n) = .absent := by
    simp only [demandAt, missing, free.ordinary]
    simp
  obtain ⟨p, w, slot, met⟩ := stands.met ⟨⟨free.word, free.other⟩, absent.2⟩
  rw [absent.1] at met
  exact met.elim

end Fresh

theorem Stands.math {v : Value} (stands : Stands "Math" v) : v = Intrinsic.math.value := by
  obtain ⟨p, w, slot, met⟩ := stands.met (by decide)
  cases slot.symm.trans met
  rfl

section Hosted

variable {heap : Array Obj} (hosts : Hosts heap) (r : Realm)
include hosts

theorem Hosts.find_top {n : String} (same : SameTop World.fresh.heap heap n) (fuel : Nat) :
    (r.over heap).find? Intrinsic.global.addr (globalKey n) fuel =
      World.fresh.find? Intrinsic.global.addr (globalKey n) fuel := by
  have low : Intrinsic.global.addr < World.fresh.heap.size :=
    Nat.lt_of_lt_of_le (Intrinsic.addr_lt _) World.fresh_furnished.room
  obtain ⟨o, there⟩ : ∃ o, World.fresh.heap[Intrinsic.global.addr]? = some o := ⟨_, Array.getElem?_eq_getElem low⟩
  obtain ⟨o', there', own, parent⟩ := same o there
  have here : (r.over heap).heap[Intrinsic.global.addr]? = some o' := by
    change (heap ++ r.heap)[_]? = _
    rw [Array.getElem?_append_left (Array.getElem?_eq_some_iff.mp there').1, there']
  cases fuel with
  | zero => rw [Realm.find?, Realm.find?]
  | succ fuel =>
    rw [Realm.find?, Realm.find?, here, there]
    dsimp only
    rw [own, parent]
    cases o.own? (globalKey n) with
    | some p => rfl
    | none =>
      dsimp only
      cases above : o.parent with
      | none => rfl
      | some b =>
        obtain rfl := fresh_parent (by simp [watched]) there above
        exact hosts.find r (by simp [watched]) (by decide) _ _

end Hosted

section Lent

variable {E : Engine} {i : Intrinsic} {n : String}

-- What one of the interpreter's own objects has under a name comes to the same wherever the world lies.
theorem getFrom_lent (inside : i ∈ watched) (other : i.addr ≠ Intrinsic.global.addr) (rare : IsRare n)
    {this : Value} (lends : ∀ p, (demandAt i (.name n)).Met World.fresh.heap p →
      ∃ b f w, IsNative World.fresh.heap b f ∧ f.Lends this ∧ p.slot = .data (.object b) w) :
    ∃ g, (g = .undefined ∨ ∃ b f, g = .object b ∧ IsNative World.fresh.heap b f ∧ f.Lends this) ∧
      ∀ heap (r : Realm), Hosts heap → getFrom E i.addr this (.ofString n) (r.over heap) = .ok g (r.over heap) := by
  have read : ∀ heap (r : Realm), Hosts heap → getFrom E i.addr this (Label.name n).key (r.over heap) =
      readSlot E this (World.fresh.find? i.addr (Label.name n).key maxParents) (r.over heap) :=
    fun heap r hosts => hosts.getFrom_proto r E inside other _ _
  cases found : World.fresh.find? i.addr (Label.name n).key maxParents with
  | none =>
    rw [found] at read
    exact ⟨.undefined, .inl rfl, read⟩
  | some p =>
    obtain ⟨b, f, w, native, lends, slot⟩ := lends p (rare.met inside found)
    rw [found, readSlot, slot] at read
    exact ⟨.object b, .inr ⟨b, f, rfl, native, lends⟩, read⟩

end Lent

namespace Twins

variable {T : Twins} {E : Engine} {r : Realm}

theorem readName?_free {env : Env} (bare : env.vars = []) {n : String} (free : IsFree T.taken n) :
    T.Alike (readName? E env n) (readName? E env n) r fun _ a a' => a = a' ∧ ∀ v, a = some v → Stands n v := by
  have unbound : env.lookup? n = none := by
    rw [Env.lookup?, bare]
    rfl
  have found {heap : Array Obj} (hosts : Hosts heap) (same : SameTop World.fresh.heap heap n) :
      find? Intrinsic.global.addr (globalKey n) (r.over heap) =
        .ok (World.fresh.find? Intrinsic.global.addr (globalKey n) maxParents) (r.over heap) := by
    rw [find?, ← hosts.find_top r same]
    rfl
  rw [readName?, unbound]
  refine .behind (found T.leftHosts (T.opened n free).1) (found T.rightHosts (T.opened n free).2) ?_
  cases top : World.fresh.find? Intrinsic.global.addr (globalKey n) maxParents with
  | none =>
    refine .pure ⟨rfl, fun v none => ?_⟩
    cases none
  | some p =>
    obtain ⟨v, w, slot⟩ := free.data top
    dsimp only
    rw [readSlot, slot]
    refine .pure ⟨rfl, fun u same => ?_⟩
    cases same
    exact ⟨p, w, top, slot⟩

theorem readName_free {env : Env} (bare : env.vars = []) {n : String} (free : IsFree T.taken n) :
    T.Alike (readName E env n) (readName E env n) r fun _ v v' => v = v' ∧ Stands n v := by
  refine (readName?_free bare free).bind ?_
  rintro s v _ - ⟨rfl, stands⟩
  cases v with
  | some v => exact .pure ⟨rfl, stands v rfl⟩
  | none => exact fail_alike _ _

-- A function and what it is called on, in two worlds that lend it.
inductive Callees : Value × Value → Value × Value → Prop where
  | missing (this this' : Value) : Callees (.undefined, this) (.undefined, this')
  | lent {b : Addr} {f : Native} {this : Value} (native : IsNative World.fresh.heap b f) (lends : f.Lends this) :
      Callees (.object b, this) (.object b, this)

theorem lent_alike {i : Intrinsic} (inside : i ∈ watched) (other : i.addr ≠ Intrinsic.global.addr) {n : String}
    (rare : IsRare n) {v : Value} (lends : ∀ p, (demandAt i (.name n)).Met World.fresh.heap p →
      ∃ b f w, IsNative World.fresh.heap b f ∧ f.Lends v ∧ p.slot = .data (.object b) w)
    (asked : getValue E v (.ofString n) = getFrom E i.addr v (.ofString n)) :
    T.Alike (do return (← getValue E v (.ofString n), v)) (do return (← getValue E v (.ofString n), v)) r
      fun _ => Callees := by
  obtain ⟨g, either, read⟩ := getFrom_lent (E := E) inside other rare lends
  rw [asked]
  refine .behind (read _ r T.leftHosts) (read _ r T.rightHosts) (.pure ?_)
  rcases either with rfl | ⟨b, f, rfl, native, lends⟩
  · exact .missing _ _
  · exact .lent native lends

theorem getValue_math {n : String} (inside : n ∈ mathNames) :
    T.Alike (do return (← getValue E Intrinsic.math.value (.ofString n), Intrinsic.math.value))
      (do return (← getValue E Intrinsic.math.value (.ofString n), Intrinsic.math.value)) r fun _ => Callees := by
  have known : ∀ m ∈ mathNames, IsRare m ∧ demandAt .math (.name m) = .reckons := by decide
  obtain ⟨rare, reckons⟩ := known n inside
  refine lent_alike (i := .math) (by simp [watched]) (by decide) rare (fun p met => ?_) rfl
  rw [reckons] at met
  obtain ⟨b, f, native, math, slot⟩ := met
  exact ⟨b, f, true, native, .inl math, slot⟩

theorem getValue_figure {n : String} (inside : n ∈ mathConstants) :
    T.Alike (getValue E Intrinsic.math.value (.ofString n)) (getValue E Intrinsic.math.value (.ofString n)) r Equal := by
  have known : ∀ m ∈ mathConstants, IsRare m ∧ demandAt .math (.name m) = .fixed := by decide
  obtain ⟨rare, fixed⟩ := known n inside
  have read {heap : Array Obj} (hosts : Hosts heap) :
      getValue E Intrinsic.math.value (Label.name n).key (r.over heap) =
        readSlot E Intrinsic.math.value (World.fresh.find? Intrinsic.math.addr (Label.name n).key maxParents)
          (r.over heap) := hosts.getFrom_proto r E (by simp [watched]) (by decide) _ _
  refine .of_eq (read T.leftHosts) (read T.rightHosts) ?_
  cases found : World.fresh.find? Intrinsic.math.addr (Label.name n).key maxParents with
  | none => exact .pure ⟨rfl, rfl⟩
  | some p =>
    have met := rare.met (by simp [watched]) found
    rw [fixed] at met
    obtain ⟨v, w, plain, slot⟩ := met
    rw [readSlot, slot]
    exact .pure ⟨rfl, plain⟩

theorem getValue_method {n : String} (inside : n ∈ methodNames) {v v' : Value} (same : T.Same r v v') :
    T.Alike (do return (← getValue E v (.ofString n), v)) (do return (← getValue E v' (.ofString n), v')) r
      fun _ => Callees := by
  have known : ∀ m ∈ methodNames, IsRare m ∧ (Label.name m).isMissing = true ∧
      (demandAt .stringPrototype (.name m) = .steady ∧ demandAt .numberPrototype (.name m) = .steady) ∧
      demandAt .booleanPrototype (.name m) = .absent ∧ demandAt .bigintPrototype (.name m) = .absent := by decide
  obtain ⟨rare, missing, ⟨string, number⟩, bool, bigint⟩ := known n inside
  have lent {i : Intrinsic} (inside : i ∈ watched) (other : i.addr ≠ Intrinsic.global.addr) (plain : v.isPlain = true)
      (demands : demandAt i (.name n) = .steady ∨ demandAt i (.name n) = .absent)
      (asked : getValue E v (.ofString n) = getFrom E i.addr v (.ofString n)) :
      T.Alike (do return (← getValue E v (.ofString n), v)) (do return (← getValue E v (.ofString n), v)) r
        fun _ => Callees := by
    refine lent_alike inside other rare (fun p met => ?_) asked
    rcases demands with steady | absent
    · rw [steady] at met
      obtain ⟨b, f, native, steady, slot⟩ := met
      exact ⟨b, f, true, native, .inr ⟨steady, plain⟩, slot⟩
    · rw [absent] at met
      exact met.elim
  cases same with
  | made there simple =>
    have left := T.leftHosts.getOf_missing E there simple missing
    have right := T.rightHosts.getOf_missing E there simple missing
    exact .behind left right (.pure (.missing _ _))
  | plain plain =>
    cases v with
    | symbol | object => cases plain
    | undefined | null =>
      rw [getValue, bind_assoc]
      exact (describeKey_blind _ r).bind fun _ _ _ => failed_alike _ _
    | bool => exact lent (i := .booleanPrototype) (by simp [watched]) (by decide) rfl (.inr bool) rfl
    | number => exact lent (i := .numberPrototype) (by simp [watched]) (by decide) rfl (.inl number) rfl
    | bigint => exact lent (i := .bigintPrototype) (by simp [watched]) (by decide) rfl (.inr bigint) rfl
    | string u =>
      refine lent (i := .stringPrototype) (by simp [watched]) (by decide) rfl (.inl string) ?_
      have word : PropKey.ofString n = .name (Units.ofString n) := Label.key_word rare.1.1
      have apart : (PropKey.ofString n == lengthKey) = false := by
        rw [lengthKey_eq]
        exact beq_eq_false_iff_ne.mpr fun same => rare.1.2 (PropKey.ofString_inj same)
      rw [word] at apart ⊢
      exact if_neg (Bool.eq_false_iff.mp apart)

end Twins

end BoundedScript.Script
