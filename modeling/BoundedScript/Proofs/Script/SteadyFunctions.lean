import BoundedScript.Proofs.Script.Operators

set_option autoImplicit false

namespace BoundedScript.Script.Twins

open Run

variable {T : Twins} {E : Engine} {r : Realm}

section Numbers

variable (even : T.Even E) {v v' : Value} (same : T.Same r v v')
include even same

theorem toInteger_alike : T.Alike (toInteger E v) (toInteger E v') r fun _ a a' => a = a' :=
  (toNumber_alike even same).same fun _ _ _ => .pure rfl

theorem toInt32_alike : T.Alike (toInt32 E v) (toInt32 E v') r fun _ a a' => a = a' :=
  (toNumber_alike even same).same fun _ _ _ => .pure rfl

theorem toUint32_alike : T.Alike (toUint32 E v) (toUint32 E v') r fun _ a a' => a = a' :=
  (toNumber_alike even same).same fun _ _ _ => .pure rfl

theorem toLength_alike : T.Alike (toLength E v) (toLength E v') r fun _ a a' => a = a' :=
  (toNumber_alike even same).same fun _ _ _ => .pure rfl

end Numbers

theorem Same.isUndefined {v v' : Value} (same : T.Same r v v') : v.isUndefined = v'.isUndefined := by
  cases same <;> rfl

section Percents

theorem encode_blind (keep : Bool) (u : Units) : T.Alike (GlobalFn.encode keep u) (GlobalFn.encode keep u) r Equal := by
  rw [GlobalFn.encode, ← Array.forIn_toList]
  refine (forIn_alike (fun c _ out s _ => ?_) _).same fun s out _ => .pure ⟨rfl, rfl⟩
  split
  · exact .pure rfl
  · split
    · split <;> exact failed_alike _ _
    · exact .pure rfl

theorem percentAt_blind (u : Units) (i : Nat) : T.Blind (GlobalFn.percentAt u i) r := by
  rw [GlobalFn.percentAt]
  split
  · exact failed_alike _ _
  · dsimp only
    split
    · split
      · exact .pure rfl
      · exact fail_alike _ _
    · exact fail_alike _ _

theorem continuation_blind (u : Units) (i code count : Nat) : T.Blind (GlobalFn.continuation u i code count) r := by
  induction count generalizing r i code with
  | zero => exact .pure rfl
  | succ count ih =>
    rw [GlobalFn.continuation]
    refine (percentAt_blind u i).bind fun s b _ => ?_
    split
    · exact .pure rfl
    · exact ih _ _

theorem decodeFrom_blind (u : Units) (keep : Bool) (i : Nat) (out : Units) (fuel : Nat) :
    T.Blind (GlobalFn.decodeFrom u keep i out fuel) r := by
  induction fuel generalizing r i out with
  | zero => exact .pure rfl
  | succ fuel ih =>
    rw [GlobalFn.decodeFrom]
    split
    · exact .pure rfl
    · split
      · exact ih _ _
      · refine (percentAt_blind u i).bind fun s b _ => ?_
        split
        · split <;> exact ih _ _
        · split
          · exact fail_alike _ _
          · refine (continuation_blind u _ _ _).bind fun t n _ => ?_
            split
            · exact fail_alike _ _
            · split
              · exact failed_alike _ _
              · exact ih _ _

end Percents

section Calls

variable (even : T.Even E) {args args' : Array Value} (sames : T.Sames r args args')
include even sames

theorem globalFn_alike (f : GlobalFn) : T.Alike (f.run E args) (f.run E args') r Equal := by
  have text := toUnits_alike even (sames.arg 0)
  have number := toNumber_alike even (sames.arg 0)
  cases f with
  | parseInt =>
    refine text.same fun s u grows => ?_
    exact (toInt32_alike even ((sames.grow grows).arg 1)).same fun _ _ _ => .pure ⟨rfl, rfl⟩
  | parseFloat => exact text.same fun _ _ _ => .pure ⟨rfl, rfl⟩
  | isNaN => exact number.same fun _ _ _ => .pure ⟨rfl, rfl⟩
  | isFinite => exact number.same fun _ _ _ => .pure ⟨rfl, rfl⟩
  | encodeURI => exact text.same fun _ u _ => encode_blind true u
  | encodeURIComponent => exact text.same fun _ u _ => encode_blind false u
  | decodeURI | decodeURIComponent =>
    exact text.same fun _ u _ => (decodeFrom_blind u _ _ _ _).bind fun _ _ _ => .pure ⟨rfl, rfl⟩

theorem reduce_alike (op : Float → Float → Float) (acc : Float) :
    T.Alike (MathFn.reduce E op acc args) (MathFn.reduce E op acc args') r Equal := by
  refine (forIn_sames sames (fun s v v' acc _ same => ?_) acc).same fun _ _ _ => .pure ⟨rfl, rfl⟩
  exact (toNumber_alike even same).same fun _ _ _ => .pure rfl

theorem mathFn_alike (f : MathFn) : T.Alike (f.run E args) (f.run E args') r Equal := by
  have number := toNumber_alike even (sames.arg 0)
  have word := toUint32_alike even (sames.arg 0)
  cases f with
  | max | min | hypot => exact reduce_alike even sames _ _
  | random => exact .pure ⟨rfl, rfl⟩
  | atan2 | pow =>
    refine number.same fun s x grows => ?_
    exact (toNumber_alike even ((sames.grow grows).arg 1)).same fun _ _ _ => .pure ⟨rfl, rfl⟩
  | imul =>
    refine word.same fun s x grows => ?_
    exact (toUint32_alike even ((sames.grow grows).arg 1)).same fun _ _ _ => .pure ⟨rfl, rfl⟩
  | clz32 => exact word.same fun _ _ _ => .pure ⟨rfl, rfl⟩
  | _ => exact number.same fun _ _ _ => .pure ⟨rfl, rfl⟩

omit even sames in
theorem valueOfThis_blind {this : Value} (plain : this.isPlain = true) : T.Blind (NumberFn.valueOfThis this) r := by
  cases this <;> first | exact .pure rfl | exact typeError_alike _ | cases plain

theorem digitCount_alike (least greatest : Nat) (message : String) :
    T.Alike (NumberFn.digitCount E (arg args 0) least greatest message)
      (NumberFn.digitCount E (arg args' 0) least greatest message) r fun _ a a' => a = a' := by
  exact (toInteger_alike even (sames.arg 0)).same fun s d _ => .ite (failed_alike _ _) (.pure rfl)

theorem numberFn_alike (f : NumberFn) {this : Value} (plain : this.isPlain = true) :
    T.Alike (f.run E this args none) (f.run E this args' none) r Equal := by
  have first := sames.arg 0
  have number : T.Blind (NumberFn.valueOfThis this) r := valueOfThis_blind plain
  cases f with
  | make =>
    rw [NumberFn.run, NumberFn.run, sames.isEmpty]
    split
    · exact .pure ⟨rfl, rfl⟩
    · refine (toNumeric_alike even first).same fun s n _ => ?_
      cases n <;> exact .pure ⟨rfl, rfl⟩
  | isFinite | isInteger | isNaN | isSafeInteger =>
    rw [NumberFn.run, NumberFn.run]
    generalize arg args 0 = v at first ⊢
    generalize arg args' 0 = v' at first ⊢
    cases first with
    | @plain v => cases v <;> exact .pure ⟨rfl, rfl⟩
    | made => exact .pure ⟨rfl, rfl⟩
  | toExponential =>
    refine number.bind fun s x grows => (toInteger_alike even (first.grow grows)).same fun t d _ => ?_
    dsimp only
    rw [first.isUndefined]
    exact .ite (.pure ⟨rfl, rfl⟩) (.ite (.pure ⟨rfl, rfl⟩) (.ite (failed_alike _ _) (.pure ⟨rfl, rfl⟩)))
  | toFixed =>
    refine number.bind fun s x grows => (digitCount_alike even (sames.grow grows) _ _ _).same fun t d _ => ?_
    exact .ite (.pure ⟨rfl, rfl⟩) (.pure ⟨rfl, rfl⟩)
  | toPrecision =>
    refine number.bind fun s x grows => ?_
    dsimp only
    rw [first.isUndefined]
    refine .ite (.pure ⟨rfl, rfl⟩) ((toInteger_alike even (first.grow grows)).same fun t d _ => ?_)
    exact .ite (.pure ⟨rfl, rfl⟩) (.ite (failed_alike _ _) (.pure ⟨rfl, rfl⟩))
  | toString =>
    refine number.bind fun s x grows => ?_
    dsimp only
    rw [first.isUndefined]
    refine .ite (.pure ⟨rfl, rfl⟩) ((digitCount_alike even (sames.grow grows) _ _ _).same fun t d _ => ?_)
    exact .ite (.pure ⟨rfl, rfl⟩) (.pure ⟨rfl, rfl⟩)
  | valueOf => exact number.bind fun _ _ _ => .pure ⟨rfl, rfl⟩

end Calls

section Texts

open StringObject

def isExpression (a : Addr) : Run Bool := do
  match ← kindOf a with
  | .regexp _ _ _ => return true
  | _ => return false

theorem isExpression_made {i : Nat} {o : Obj} (there : r.heap[i]? = some o) (simple : Simple T.toScope o) :
    ∃ b, ∀ heap : Array Obj, isExpression (heap.size + i) (r.over heap) = .ok b (r.over heap) := by
  rcases simple.kind with ⟨p, source, flags, kind⟩ | ⟨env, f, e, kind, -⟩
  · refine ⟨true, fun heap => ?_⟩
    rw [isExpression, bind_of_ok (kindOf_made heap there), kind]
    rfl
  · refine ⟨false, fun heap => ?_⟩
    rw [isExpression, bind_of_ok (kindOf_made heap there), kind]
    rfl

theorem isRegExp_alike {v v' : Value} (same : T.Same r v v') :
    T.Alike (isRegExp E v) (isRegExp E v') r fun _ a a' => a = a' := by
  cases same with
  | @plain v plain => cases v <;> first | exact .pure rfl | cases plain
  | @made i o there simple =>
    have word : (Label.symbol .match).isWord = true ∧ (Label.symbol .match).isOwn = false := ⟨rfl, rfl⟩
    have left := T.leftHosts.getOf_made E there simple word.1 word.2
    have right := T.rightHosts.getOf_made E there simple word.1 word.2
    obtain ⟨b, told⟩ := isExpression_made there simple
    rw [isRegExp, isRegExp]
    cases found : World.fresh.find? (Simple.proto o).addr (Label.symbol .match).key (maxParents - 1) with
    | none =>
      rw [found] at left right
      exact .behind left right (.of_ok (told _) (told _) rfl)
    | some p =>
      obtain ⟨v, slot⟩ := simple.matched found
      rw [found, readSlot, slot] at left right
      refine .behind left right ?_
      split
      · exact .pure rfl
      · exact .of_ok (told _) (told _) rfl

theorem charAt_plain (u : Units) (i : Option Nat) {missing : Value} (plain : missing.isPlain = true) :
    (charAt u i missing).isPlain = true := by
  cases i
  · exact plain
  · rfl

section Places

variable (even : T.Even E) {v v' : Value} (same : T.Same r v v')
include even same

theorem plainArg_alike : T.Alike (plainArg E v) (plainArg E v') r fun _ a a' => a = a' := by
  refine (isRegExp_alike same).same fun s b grows => .ite (failed_alike _ _) ?_
  exact toUnits_alike even (same.grow grows)

theorem clampedPlace_alike (n default_ : Nat) :
    T.Alike (clampedPlace E v n default_) (clampedPlace E v' n default_) r fun _ a a' => a = a' := by
  rw [clampedPlace, clampedPlace, same.isUndefined]
  exact .ite (.pure rfl) ((toInteger_alike even same).same fun _ _ _ => .pure rfl)

theorem placeOfArg_alike (n default_ : Nat) :
    T.Alike (ArrayObject.placeOfArg E v n default_) (ArrayObject.placeOfArg E v' n default_) r fun _ a a' => a = a' := by
  rw [ArrayObject.placeOfArg, ArrayObject.placeOfArg, same.isUndefined]
  exact .ite (.pure rfl) ((toInteger_alike even same).same fun _ _ _ => .pure rfl)

theorem placeIn_alike (u : Units) : T.Alike (placeIn E u v) (placeIn E u v') r fun _ a a' => a = a' := by
  refine (toInteger_alike even same).same fun s x _ => ?_
  split <;> exact .pure rfl

end Places

variable (even : T.Even E) {args args' : Array Value} (sames : T.Sames r args args')
include even sames

theorem concatAll_alike (u : Units) :
    T.Alike (StringObject.concat E u args) (StringObject.concat E u args') r Equal := by
  refine (forIn_sames sames (fun s v v' out _ same => ?_) u).same fun _ _ _ => .pure ⟨rfl, rfl⟩
  exact (toUnits_alike even same).same fun _ _ _ => (checkString_blind _ _).bind fun _ _ _ => .pure rfl

theorem padding_alike (u : Units) : T.Alike (padding E u args) (padding E u args') r fun _ a a' => a = a' := by
  have filled (s : Realm) (length : Nat) (filler : Units) : T.Blind (do
      if filler.isEmpty then return none
      if maxString < length then rangeError "invalid string length"
      checkBytes (if u.isNarrow && filler.isNarrow then length else 2 * length)
      let n := length - u.size
      ticks (n / 64)
      return some ((filler.repeated (n / filler.size + 1)).extract 0 n)) s := by
    refine .ite (.pure rfl) (.ite (failed_alike _ _) ?_)
    exact (checkBytes_blind _ s).bind fun t _ _ => (ticks_blind _ t).bind fun _ _ _ => .pure rfl
  refine (toLength_alike even (sames.arg 0)).same fun s length grows => .ite (.pure rfl) ?_
  have second := (sames.grow grows).arg 1
  rw [second.isUndefined]
  refine .ite (filled s length #[0x20]) ?_
  exact (toUnits_alike even second).same fun t filler _ => filled t length filler

theorem repeated_alike (u : Units) : T.Alike (repeated E u (arg args 0)) (repeated E u (arg args' 0)) r Equal := by
  have timed (s : Realm) (x : Float) : T.Alike (do
      ticks (x.toUInt64.toNat * u.size / 64)
      return Value.string (if u.isEmpty then #[] else u.repeated x.toUInt64.toNat)) (do
      ticks (x.toUInt64.toNat * u.size / 64)
      return Value.string (if u.isEmpty then #[] else u.repeated x.toUInt64.toNat)) s Equal :=
    (ticks_blind _ s).bind fun _ _ _ => .pure ⟨rfl, rfl⟩
  refine (toInteger_alike even (sames.arg 0)).same fun s x _ => .ite (failed_alike _ _) ?_
  refine .ite (failed_alike _ _) (.ite ?_ (timed s x))
  exact (checkBytes_blind _ s).bind fun t _ _ => timed t x

theorem runMethod_alike (f : StringFn) (steady : (Native.string f).isSteady = true) (u : Units) :
    T.Alike (runMethod E f u args) (runMethod E f u args') r Equal := by
  have first := sames.arg 0
  have place := placeIn_alike even first u
  have text := toUnits_alike even first
  have part := plainArg_alike even first
  have clamped {s : Realm} (grows : r.Grows s) (i n default_ : Nat) :=
    clampedPlace_alike even ((sames.grow grows).arg i) n default_
  have placed {s : Realm} (grows : r.Grows s) (i n default_ : Nat) :=
    placeOfArg_alike even ((sames.grow grows).arg i) n default_
  cases f with
  | raw | «match» | matchAll | search | replace | replaceAll | split | iterator | toString => cases steady
  | «at» => exact (toInteger_alike even first).same fun _ _ _ => .pure ⟨rfl, charAt_plain _ _ rfl⟩
  | charAt => exact place.same fun _ _ _ => .pure ⟨rfl, charAt_plain _ _ rfl⟩
  | charCodeAt | codePointAt =>
    refine place.same fun s i _ => ?_
    cases i <;> exact .pure ⟨rfl, rfl⟩
  | concat => exact concatAll_alike even sames u
  | indexOf =>
    refine text.same fun s part grows => (clamped grows 1 _ _).same fun t i _ => ?_
    split <;> exact .pure ⟨rfl, rfl⟩
  | lastIndexOf =>
    refine text.same fun s part grows => (toNumber_alike even ((sames.grow grows).arg 1)).same fun t x _ => ?_
    dsimp only
    split <;> exact .pure ⟨rfl, rfl⟩
  | includes | startsWith | endsWith =>
    exact part.same fun s p grows => (clamped grows 1 _ _).same fun _ _ _ => .pure ⟨rfl, rfl⟩
  | substring =>
    exact (clamped (.refl r) 0 _ _).same fun s a grows => (clamped grows 1 _ _).same fun _ _ _ => .pure ⟨rfl, rfl⟩
  | slice =>
    exact (placed (.refl r) 0 _ _).same fun s a grows => (placed grows 1 _ _).same fun _ _ _ => .pure ⟨rfl, rfl⟩
  | substr =>
    exact (placed (.refl r) 0 _ _).same fun s a grows => (clamped grows 1 _ _).same fun _ _ _ => .pure ⟨rfl, rfl⟩
  | «repeat» => exact repeated_alike even sames u
  | padStart | padEnd =>
    refine (padding_alike even sames u).same fun s p _ => ?_
    cases p <;> exact .pure ⟨rfl, rfl⟩
  | localeCompare => exact text.same fun _ _ _ => .pure ⟨rfl, rfl⟩
  | normalize =>
    rw [runMethod, runMethod, StringObject.normalize, StringObject.normalize, first.isUndefined]
    refine .ite (text.same fun s form _ => .ite (failed_alike _ _) ?_) ?_ <;> exact .pure ⟨rfl, rfl⟩
  | _ => exact .pure ⟨rfl, rfl⟩

theorem makeString_alike : T.Alike (StringObject.make E args none) (StringObject.make E args' none) r Equal := by
  have first := sames.arg 0
  have text := toUnits_alike even first
  have made {x x' : Run Units} (alike : T.Alike x x' r fun _ a a' => a = a') :
      T.Alike (do let u ← x; wrapped E (.string u) (.string u) none .stringPrototype)
        (do let u ← x'; wrapped E (.string u) (.string u) none .stringPrototype) r Equal :=
    alike.same fun _ _ _ => .pure ⟨rfl, rfl⟩
  rw [StringObject.make.eq_def, StringObject.make.eq_def, sames.isEmpty]
  generalize arg args 0 = v at first text ⊢
  generalize arg args' 0 = v' at first text ⊢
  cases args'.isEmpty with
  | true => exact .pure ⟨rfl, rfl⟩
  | false =>
    cases first with
    | @plain v plain => cases v <;> first | exact made text | cases plain
    | made => exact made text

theorem stringFn_alike (f : StringFn) (steady : (Native.string f).isSteady = true) {this : Value}
    (plain : this.isPlain = true) :
    T.Alike (StringObject.run E f this args none) (StringObject.run E f this args' none) r Equal := by
  have method : T.Alike (do runMethod E f (← thisText E this) args) (do runMethod E f (← thisText E this) args') r
      Equal := by
    have text : T.Alike (thisText E this) (thisText E this) r fun _ a a' => a = a' :=
      .ite (failed_alike _ _) (toUnits_alike even (.plain plain))
    exact text.bind fun s u _ grows same => same ▸ runMethod_alike even (sames.grow grows) f steady u
  cases f with
  | raw | «match» | matchAll | search | replace | replaceAll | split | iterator | toString => cases steady
  | make => exact makeString_alike even sames
  | fromCharCode =>
    refine (forIn_sames sames (fun s v v' out _ same => ?_) _).same fun _ _ _ => .pure ⟨rfl, rfl⟩
    exact (toNumber_alike even same).same fun _ _ _ => .pure rfl
  | fromCodePoint =>
    refine (forIn_sames sames (fun s v v' out _ same => ?_) _).same fun _ _ _ => .pure ⟨rfl, rfl⟩
    refine (toNumber_alike even same).same fun t x _ => ?_
    split
    · exact .ite (failed_alike _ _) (.pure rfl)
    · exact failed_alike _ _
  | _ => exact method

end Texts

/-- What comes to a value of its own does so in both worlds. -/
theorem lentNative_alike (even : T.Even E) {f : Native} {this : Value} (lends : f.Lends this) {args args' : Array Value}
    (sames : T.Sames r args args') :
    T.Alike (callNative E f this args none) (callNative E f this args' none) r Equal := by
  rcases lends with math | ⟨steady, plain⟩
  · cases f with
    | math f => exact mathFn_alike even sames f
    | _ => cases math
  · cases f with
    | global f => exact globalFn_alike even sames f
    | number f => exact numberFn_alike even sames f plain
    | string f => exact stringFn_alike even sames f steady plain
    | boolean f =>
      cases f with
      | make =>
        have same : toBool (arg args 0) = toBool (arg args' 0) := toBool_same (sames.arg 0)
        refine .pure ⟨?_, rfl⟩
        rw [same]
      | _ => cases steady
    | _ => cases steady

end BoundedScript.Script.Twins
