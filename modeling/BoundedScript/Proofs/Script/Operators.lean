import BoundedScript.Proofs.Script.Coercions

set_option autoImplicit false

namespace BoundedScript.Script

open Run

theorem isCallable_made {scope : Scope} {r : Realm} {i : Nat} {o : Obj} (there : r.heap[i]? = some o)
    (simple : Simple scope o) :
    ∃ b, ∀ heap : Array Obj, isCallable (.object (heap.size + i)) (r.over heap) = .ok b (r.over heap) := by
  rcases simple.kind with ⟨p, source, flags, kind⟩ | ⟨env, f, e, kind, -⟩
  · refine ⟨false, fun heap => ?_⟩
    rw [isCallable, bind_of_ok (kindOf_made heap there), kind]
    rfl
  · refine ⟨true, fun heap => ?_⟩
    rw [isCallable, bind_of_ok (kindOf_made heap there), kind]
    rfl

namespace Twins

variable {T : Twins}

section

variable {r : Realm}

theorem primitiveToNumber_blind (v : Value) : T.Blind (primitiveToNumber v) r := by
  cases v <;> first | exact .pure rfl | exact typeError_alike _

theorem primitiveToUnits_blind (v : Value) : T.Blind (primitiveToUnits v) r := by
  cases v with
  | bool b => cases b <;> exact .pure rfl
  | symbol id => exact typeError_alike _
  | _ => exact .pure rfl

theorem reserveBits_blind (n : Nat) : T.Blind (reserveBits n) r := by
  rw [reserveBits]
  split
  · exact failed_alike _ _
  · dsimp only
    split
    · exact checkBytes_blind _ r
    · exact .pure rfl

theorem bigintOp_alike (op : BinaryOp) (a b : Int) : T.Alike (bigintOp op a b) (bigintOp op a b) r Equal := by
  have reserved : ∀ (n : Nat) (v : Value), v.isPlain = true →
      T.Alike (do reserveBits n; return v) (do reserveBits n; return v) r Equal :=
    fun n v plain => (reserveBits_blind n).bind fun s _ _ => .pure ⟨rfl, plain⟩
  have shifted : ∀ m by_ : Int, T.Alike (shiftBig m by_) (shiftBig m by_) r Equal := by
    intro m by_
    rw [shiftBig]
    split
    · exact .pure ⟨rfl, rfl⟩
    · split
      · exact reserved _ _ rfl
      · split <;> exact .pure ⟨rfl, rfl⟩
  cases op with
  | div | rem =>
    rw [bigintOp]
    split
    · exact rangeError_alike _
    · exact .pure ⟨rfl, rfl⟩
  | pow =>
    rw [bigintOp]
    split
    · exact rangeError_alike _
    · split
      · exact .pure ⟨rfl, rfl⟩
      · exact reserved _ _ rfl
  | shiftLeft | shiftRight => exact shifted _ _
  | shiftRightUnsigned => exact typeError_alike _
  | bitAnd | bitOr | bitXor => exact .pure ⟨rfl, rfl⟩
  | _ => exact reserved _ _ rfl

theorem concat_alike (u v : Units) : T.Alike (concat u v) (concat u v) r Equal :=
  (checkString_blind _ r).bind fun _ _ _ => .pure ⟨rfl, rfl⟩

theorem Same.strictEqual {v v' w w' : Value} (first : T.Same r v v') (second : T.Same r w w') :
    strictEqual v w = strictEqual v' w' := by
  cases first with
  | plain plain =>
    cases second with
    | plain => rfl
    | made =>
      cases v <;> first | rfl | cases plain
  | made =>
    cases second with
    | @plain w plain =>
      cases w <;> first | rfl | cases plain
    | made =>
      change (_ == _) = (_ == _)
      exact beq_eq_beq.mpr (Nat.add_left_cancel_iff.trans Nat.add_left_cancel_iff.symm)

end

-- The operators on operands that are not handled at once: these become primitive values first.
section

variable (E : Engine)

def coercedNumeric (v : Value) : Run Numeric := do
  match ← toPrimitive E .number v with
  | .bigint n => return .bigint n
  | p => return .number (← primitiveToNumber p)

def coercedArithmetic (op : BinaryOp) (v w : Value) : Run Value := do
  match ← toNumeric E v, ← toNumeric E w with
  | .number x, .number y => return .number (numberOp op x y)
  | .bigint m, .bigint n => bigintOp op m n
  | _, _ => typeError "cannot convert to BigInt"

def coercedAdd (v w : Value) : Run Value := do
  let p ← toPrimitive E .none v
  let q ← toPrimitive E .none w
  match p, q with
  | .string u, q => concat u (← primitiveToUnits q)
  | p, .string v => concat (← primitiveToUnits p) v
  | p, q => arithmetic E .add p q

def coercedPlus (v : Value) : Run Value := do
  match ← toPrimitive E .number v with
  | .bigint _ => typeError "BigInt argument with unary +"
  | p => return .number (← primitiveToNumber p)

end

section

variable {E : Engine} (even : T.Even E) {r : Realm} {v v' w w' : Value}
include even

theorem coercedNumeric_alike (same : T.Same r v v') :
    T.Alike (coercedNumeric E v) (coercedNumeric E v') r fun _ a a' => a = a' := by
  refine (toPrimitive_alike even .number same).bind ?_
  rintro s p _ - ⟨rfl, -⟩
  cases p with
  | bigint n => exact .pure rfl
  | _ => exact (primitiveToNumber_blind _).bind fun _ _ _ => .pure rfl

theorem toNumeric_alike (same : T.Same r v v') :
    T.Alike (toNumeric E v) (toNumeric E v') r fun _ a a' => a = a' := by
  have slow := coercedNumeric_alike even same
  cases same with
  | plain => cases v <;> first | exact .pure rfl | exact slow
  | made => exact slow

theorem toUnits_alike (same : T.Same r v v') : T.Alike (toUnits E v) (toUnits E v') r fun _ a a' => a = a' := by
  have slow : T.Alike (do primitiveToUnits (← toPrimitive E .string v)) (do
      primitiveToUnits (← toPrimitive E .string v')) r fun _ a a' => a = a' := by
    refine (toPrimitive_alike even .string same).bind ?_
    rintro s p _ - ⟨rfl, -⟩
    exact primitiveToUnits_blind p
  cases same with
  | plain => cases v <;> first | exact .pure rfl | exact slow
  | made => exact slow

theorem toNumber_alike (same : T.Same r v v') : T.Alike (toNumber E v) (toNumber E v') r fun _ a a' => a = a' := by
  have slow : T.Alike (do primitiveToNumber (← toPrimitive E .number v)) (do
      primitiveToNumber (← toPrimitive E .number v')) r fun _ a a' => a = a' := by
    refine (toPrimitive_alike even .number same).bind ?_
    rintro s p _ - ⟨rfl, -⟩
    exact primitiveToNumber_blind p
  cases same with
  | plain => cases v <;> first | exact .pure rfl | exact slow
  | made => exact slow

theorem coercedArithmetic_alike (op : BinaryOp) (first : T.Same r v v') (second : T.Same r w w') :
    T.Alike (coercedArithmetic E op v w) (coercedArithmetic E op v' w') r Equal := by
  refine (toNumeric_alike even first).bind ?_
  rintro s x _ grows rfl
  refine (toNumeric_alike even (second.grow grows)).bind ?_
  rintro t y _ - rfl
  cases x <;> cases y
  · exact .pure ⟨rfl, rfl⟩
  · exact typeError_alike _
  · exact typeError_alike _
  · exact bigintOp_alike _ _ _

theorem arithmetic_alike (op : BinaryOp) (first : T.Same r v v') (second : T.Same r w w') :
    T.Alike (arithmetic E op v w) (arithmetic E op v' w') r Equal := by
  have slow := coercedArithmetic_alike even op first second
  cases first with
  | plain =>
    cases second with
    | plain => cases v <;> cases w <;> first | exact .pure ⟨rfl, rfl⟩ | exact slow
    | made => cases v <;> exact slow
  | made => exact slow

theorem coercedAdd_alike (first : T.Same r v v') (second : T.Same r w w') :
    T.Alike (coercedAdd E v w) (coercedAdd E v' w') r Equal := by
  refine (toPrimitive_alike even .none first).bind ?_
  rintro s p _ grows ⟨rfl, plain⟩
  refine (toPrimitive_alike even .none (second.grow grows)).bind ?_
  rintro t q _ - ⟨rfl, plain'⟩
  split
  · exact (primitiveToUnits_blind _).bind fun _ _ _ => concat_alike _ _
  · exact (primitiveToUnits_blind _).bind fun _ _ _ => concat_alike _ _
  · exact arithmetic_alike even _ (.plain plain) (.plain plain')

theorem add_alike (first : T.Same r v v') (second : T.Same r w w') : T.Alike (add E v w) (add E v' w') r Equal := by
  have slow := coercedAdd_alike even first second
  cases first with
  | plain =>
    cases second with
    | plain => cases v <;> cases w <;> first | exact .pure ⟨rfl, rfl⟩ | exact concat_alike _ _ | exact slow
    | made => cases v <;> exact slow
  | made => exact slow

omit even in
theorem comparePrimitive_blind (p q : Value) : T.Blind (comparePrimitive p q) r := by
  rw [comparePrimitive.eq_def]
  split
  · exact .pure rfl
  · exact .pure rfl
  · exact .pure rfl
  · exact .pure rfl
  · exact (primitiveToNumber_blind _).bind fun _ _ _ => .pure rfl
  · exact (primitiveToNumber_blind _).bind fun _ _ _ => .pure rfl
  · exact (primitiveToNumber_blind _).bind fun _ _ _ => (primitiveToNumber_blind _).bind fun _ _ _ => .pure rfl

theorem compareValues_alike (first : T.Same r v v') (second : T.Same r w w') :
    T.Alike (compareValues E v w) (compareValues E v' w') r fun _ a a' => a = a' := by
  have slow : T.Alike (do
      let p ← toPrimitive E .number v
      let q ← toPrimitive E .number w
      comparePrimitive p q) (do
      let p ← toPrimitive E .number v'
      let q ← toPrimitive E .number w'
      comparePrimitive p q) r fun _ a a' => a = a' := by
    refine (toPrimitive_alike even .number first).bind ?_
    rintro s p _ grows ⟨rfl, plain⟩
    refine (toPrimitive_alike even .number (second.grow grows)).bind ?_
    rintro t q _ - ⟨rfl, plain'⟩
    exact comparePrimitive_blind p q
  cases first with
  | plain =>
    cases second with
    | plain => cases v <;> cases w <;> first | exact .pure rfl | exact slow
    | made => cases v <;> exact slow
  | made => exact slow

omit even in
theorem looseEqualPrimitive_blind (p q : Value) : T.Blind (looseEqualPrimitive p q) r := by
  rw [looseEqualPrimitive.eq_def]
  split <;> first
    | exact .pure rfl
    | exact (primitiveToNumber_blind _).bind fun _ _ _ => .pure rfl
    | exact (primitiveToNumber_blind _).bind fun _ _ _ => (primitiveToNumber_blind _).bind fun _ _ _ => .pure rfl

theorem looseEqual_alike (first : T.Same r v v') (second : T.Same r w w') :
    T.Alike (looseEqual E v w) (looseEqual E v' w') r fun _ a a' => a = a' := by
  cases first with
  | @plain v plain =>
    cases second with
    | @plain w plain' =>
      have direct : looseEqual E v w = looseEqualPrimitive v w := by
        cases v <;> cases w <;> first | rfl | exact (Bool.false_ne_true plain).elim | exact (Bool.false_ne_true plain').elim
      rw [direct]
      exact looseEqualPrimitive_blind v w
    | @made i o there simple =>
      have direct : ∀ a, looseEqual E v (.object a) = (do
          if v.isNullish then return false
          looseEqualPrimitive v (← toPrimitive E .none (.object a))) := by
        cases v <;> first | exact fun _ => rfl | cases plain
      rw [direct, direct]
      split
      · exact .pure rfl
      · refine (toPrimitive_alike even .none (.made there simple)).bind ?_
        rintro s p _ - ⟨rfl, -⟩
        exact looseEqualPrimitive_blind v p
  | made there simple =>
    cases second with
    | @plain w plain =>
      have direct : ∀ a, looseEqual E (.object a) w = (do
          if w.isNullish then return false
          looseEqualPrimitive (← toPrimitive E .none (.object a)) w) := by
        cases w <;> first | exact fun _ => rfl | cases plain
      rw [direct, direct]
      split
      · exact .pure rfl
      · refine (toPrimitive_alike even .none (.made there simple)).bind ?_
        rintro s p _ - ⟨rfl, -⟩
        exact looseEqualPrimitive_blind p w
    | made =>
      refine .pure (beq_eq_beq.mpr ?_)
      exact Nat.add_left_cancel_iff.trans Nat.add_left_cancel_iff.symm

omit even in
theorem typeName_alike (same : T.Same r v v') : T.Alike (typeName v) (typeName v') r fun _ a a' => a = a' := by
  cases same with
  | plain plain => cases v <;> first | exact .pure rfl | cases plain
  | @made i o there simple =>
    obtain ⟨b, told⟩ := isCallable_made there simple
    exact .behind (told _) (told _) (.pure rfl)

end

end Twins

namespace Twins

variable {T : Twins} {E : Engine} (even : T.Even E) {r : Realm} {v v' w w' : Value}

section
include even

theorem binaryOp_alike (op : BinaryOp) (values : op ≠ .inOp ∧ op ≠ .instanceOf) (first : T.Same r v v')
    (second : T.Same r w w') : T.Alike (binaryOp E op v w) (binaryOp E op v' w') r Equal := by
  have compared : ∀ f : Option Ordering → Bool, T.Alike (do return Value.bool (f (← compareValues E v w)))
      (do return Value.bool (f (← compareValues E v' w'))) r Equal := by
    intro f
    refine (compareValues_alike even first second).bind ?_
    rintro s o _ - rfl
    exact .pure ⟨rfl, rfl⟩
  cases op with
  | inOp => exact absurd rfl values.1
  | instanceOf => exact absurd rfl values.2
  | add => exact add_alike even first second
  | less => exact compared (· == some .lt)
  | greater => exact compared (· == some .gt)
  | lessEqual | greaterEqual =>
    refine (compareValues_alike even first second).bind ?_
    rintro s o _ - rfl
    cases o <;> exact .pure ⟨rfl, rfl⟩
  | equal | unequal =>
    refine (looseEqual_alike even first second).bind ?_
    rintro s b _ - rfl
    exact .pure ⟨rfl, rfl⟩
  | same | different =>
    rw [binaryOp, binaryOp, first.strictEqual second]
    exact .pure ⟨rfl, rfl⟩
  | _ => exact arithmetic_alike even _ first second

theorem negate_alike (same : T.Same r v v') : T.Alike (negate E v) (negate E v') r Equal := by
  refine (toNumeric_alike even same).bind ?_
  rintro s x _ - rfl
  cases x <;> exact .pure ⟨rfl, rfl⟩

theorem complement_alike (same : T.Same r v v') : T.Alike (complement E v) (complement E v') r Equal := by
  refine (toNumeric_alike even same).bind ?_
  rintro s x _ - rfl
  cases x <;> exact .pure ⟨rfl, rfl⟩

theorem coercedPlus_alike (same : T.Same r v v') : T.Alike (coercedPlus E v) (coercedPlus E v') r Equal := by
  refine (toPrimitive_alike even .number same).bind ?_
  rintro s p _ - ⟨rfl, -⟩
  cases p with
  | bigint n => exact typeError_alike _
  | _ => exact (primitiveToNumber_blind _).bind fun _ _ _ => .pure ⟨rfl, rfl⟩

theorem plus_alike (same : T.Same r v v') : T.Alike (plus E v) (plus E v') r Equal := by
  have slow := coercedPlus_alike even same
  cases same with
  | plain => cases v <;> first | exact .pure ⟨rfl, rfl⟩ | exact slow
  | made => exact slow

end

theorem toBool_same (same : T.Same r v v') : toBool v = toBool v' := by
  cases same <;> rfl

theorem isNullish_same (same : T.Same r v v') : v.isNullish = v'.isNullish := by
  cases same <;> rfl

end Twins

section

variable {heap : Array Obj} (hosts : Hosts heap) (r : Realm) (E : Engine)
include hosts

theorem Hosts.getFrom_proto {i : Intrinsic} (inside : i ∈ watched) (other : i.addr ≠ Intrinsic.global.addr)
    (receiver : Value) (k : PropKey) : getFrom E i.addr receiver k (r.over heap) =
      readSlot E receiver (World.fresh.find? i.addr k maxParents) (r.over heap) := by
  rw [getFrom]
  have found : find? i.addr k (r.over heap) = .ok (World.fresh.find? i.addr k maxParents) (r.over heap) := by
    rw [find?, ← hosts.find r inside other k]
    rfl
  exact bind_of_ok found _

theorem Hosts.getFrom_lacking {i : Intrinsic} (inside : i ∈ watched) (other : i.addr ≠ Intrinsic.global.addr)
    (absent : demandAt i (.symbol .iterator) = .absent) (receiver : Value) :
    getFrom E i.addr receiver WellKnown.iterator.key (r.over heap) = .ok .undefined (r.over heap) := by
  have key : WellKnown.iterator.key = (Label.symbol .iterator).key := rfl
  rw [hosts.getFrom_proto r E inside other, key, fresh_lacks inside rfl (Label.ne_length rfl) ⟨absent, rfl⟩]
  rfl

end

theorem getMethod_undefined {E : Engine} {v : Value} {k : PropKey} {realm : Realm}
    (lacks : getValue E v k realm = .ok .undefined realm) : getMethod E v k realm = .ok none realm := by
  rw [getMethod, bind_of_ok lacks]
  rfl

theorem openCursor_lacking {E : Engine} {v : Value} {realm : Realm}
    (lacks : getValue E v WellKnown.iterator.key realm = .ok .undefined realm) :
    openCursor E v realm = (typeError "value is not iterable" : Run Cursor) realm := by
  rw [openCursor, bind_of_ok (getMethod_undefined lacks)]

theorem openCursor_string (E : Engine) (u : Units) :
    (∀ heap (r : Realm), Hosts heap → openCursor E (.string u) (r.over heap) = .ok (.string u 0) (r.over heap)) ∨
      ∀ heap (r : Realm), Hosts heap →
        openCursor E (.string u) (r.over heap) = (typeError "value is not iterable" : Run Cursor) (r.over heap) := by
  have asked : ∀ heap (r : Realm), Hosts heap → getValue E (.string u) (Label.symbol .iterator).key (r.over heap) =
      readSlot E (.string u) (World.fresh.find? Intrinsic.stringPrototype.addr (Label.symbol .iterator).key maxParents)
        (r.over heap) :=
    fun heap r hosts =>
      hosts.getFrom_proto r E (by simp [watched]) (by decide) _ _
  have key : WellKnown.iterator.key = (Label.symbol .iterator).key := rfl
  cases found : World.fresh.find? Intrinsic.stringPrototype.addr (Label.symbol .iterator).key maxParents with
  | none =>
    rw [found] at asked
    exact .inr fun heap r hosts => openCursor_lacking (asked heap r hosts)
  | some p =>
    rw [found] at asked
    rcases fresh_find (by simp [watched]) rfl (Label.ne_length rfl) found with ⟨b, f, w, native, units, slot⟩ | met
    · rw [readSlot, slot] at asked
      obtain rfl : f = .string .iterator := by
        cases f with
        | string g => cases g <;> first | rfl | cases units
        | _ => cases units
      refine .inl fun heap r hosts => ?_
      have met : getMethod E (.string u) WellKnown.iterator.key (r.over heap) = .ok (some (.object b)) (r.over heap) := by
        rw [getMethod, key, bind_of_ok (asked heap r hosts)]
        exact bind_of_ok (hosts.isCallable_native r native) _
      rw [openCursor, bind_of_ok met]
      exact bind_of_ok (hosts.native r native) _
    · exact met.elim

namespace Twins

variable {T : Twins} {E : Engine} {r : Realm} {v v' w w' : Value}

theorem openCursor_alike (same : T.Same r v v') :
    T.Alike (openCursor E v) (openCursor E v') r fun _ c c' => ∃ u, c = .string u 0 ∧ c' = .string u 0 := by
  have refused {v v' : Value}
      (left : getValue E v WellKnown.iterator.key (r.over T.left) = .ok .undefined (r.over T.left))
      (right : getValue E v' WellKnown.iterator.key (r.over T.right) = .ok .undefined (r.over T.right)) :
      T.Alike (openCursor E v) (openCursor E v') r fun _ c c' => ∃ u, c = .string u 0 ∧ c' = .string u 0 :=
    .of_eq (openCursor_lacking left) (openCursor_lacking right) (typeError_alike _)
  cases same with
  | made there simple =>
    have missing : (Label.symbol .iterator).isMissing = true := by decide
    exact refused (T.leftHosts.getOf_missing E there simple missing) (T.rightHosts.getOf_missing E there simple missing)
  | plain plain =>
    cases v with
    | symbol | object => cases plain
    | undefined | null =>
      rw [openCursor, getMethod, getValue, bind_assoc, bind_assoc]
      exact (describeKey_blind _ r).bind fun _ _ _ => failed_alike _ _
    | bool | number | bigint =>
      exact refused (T.leftHosts.getFrom_lacking r E (by simp [watched]) (by decide) rfl _)
        (T.rightHosts.getFrom_lacking r E (by simp [watched]) (by decide) rfl _)
    | string u =>
      rcases openCursor_string E u with opened | refused
      · exact .of_ok (opened _ r T.leftHosts) (opened _ r T.rightHosts) ⟨u, rfl, rfl⟩
      · exact .of_eq (refused _ r T.leftHosts) (refused _ r T.rightHosts) (typeError_alike _)

theorem stepCursor_alike (u : Units) (i : Nat) :
    T.Alike (stepCursor E (.string u i)) (stepCursor E (.string u i)) r fun _ a a' =>
      a = a' ∧ ∀ item c, a = some (item, c) → item.isPlain = true ∧ ∃ j, c = .string u j := by
  refine (tick_blind r).bind fun s _ _ => ?_
  dsimp only
  split
  · exact .pure ⟨rfl, nofun⟩
  · refine .pure ⟨rfl, ?_⟩
    rintro item c ⟨⟩
    exact ⟨rfl, _, rfl⟩

theorem collect_alike (same : T.Same r v v') : T.Alike (collect E v) (collect E v') r fun _ items items' =>
    items = items' ∧ ∀ item ∈ items, item.isPlain = true := by
  refine (openCursor_alike same).bind ?_
  rintro s _ _ - ⟨u, rfl, rfl⟩
  let again (_ : Realm) (a a' : Array Value × Cursor) : Prop :=
    a = a' ∧ (∃ i, a.2 = .string u i) ∧ ∀ item ∈ a.1, item.isPlain = true
  refine loop_alike (P := again) ?_ (fun _ _ _ _ _ held => held) _ ⟨rfl, ⟨0, rfl⟩, by simp⟩
  rintro s ⟨acc, c⟩ _ ⟨rfl, ⟨i, rfl⟩, each⟩
  refine (stepCursor_alike u i).bind ?_
  rintro t step _ - ⟨rfl, next⟩
  rcases step with _ | ⟨item, c⟩
  · exact .pure (.inr ⟨_, _, rfl, rfl, rfl, each⟩)
  · obtain ⟨plain, place⟩ := next item c rfl
    refine (checkItems_blind _ t).bind fun _ _ _ => .pure (.inl ⟨_, _, rfl, rfl, rfl, place, fun v inside => ?_⟩)
    rcases Array.mem_push.mp inside with earlier | rfl
    · exact each v earlier
    · exact plain

end Twins

end BoundedScript.Script
