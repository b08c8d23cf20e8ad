import BoundedScript.Proofs.Script.FreeNames
import BoundedScript.Proofs.Script.SteadyFunctions

set_option autoImplicit false

namespace BoundedScript.Script

open Run JsonObject

namespace Twins

variable {T : Twins}

section Computations

variable {α : Type} {r : Realm} {Q : Realm → α → α → Prop}

theorem throw_alike {e e' : Abrupt} (stops : T.Stops r e e') : T.Alike (throw e) (throw e') r Q :=
  .stopped (.refl r) rfl rfl stops

theorem attempt_alike {x x' : Run α} (alike : T.Alike x x' r Q) :
    T.Alike (attempt x) (attempt x') r fun s a a' =>
      (∃ v v', a = .ok v ∧ a' = .ok v' ∧ Q s v v') ∨ ∃ e e', a = .error e ∧ a' = .error e' ∧ T.Stops s e e' := by
  cases alike with
  | done grows left right good =>
    refine .done grows ?_ ?_ (.inl ⟨_, _, rfl, rfl, good⟩)
    · rw [attempt, left]
    · rw [attempt, right]
  | stopped grows left right stops =>
    refine .done grows ?_ ?_ (.inr ⟨_, _, rfl, rfl, stops⟩)
    · rw [attempt, left]
    · rw [attempt, right]

theorem deeper_ok {x : Run α} {s t : Realm} {a : α} (ran : x { s with callDepth := s.callDepth + 1 } = .ok a t) :
    deeper x s = .ok a { t with callDepth := t.callDepth - 1 } := by
  rw [deeper, ran]

theorem deeper_error {x : Run α} {s t : Realm} {e : Abrupt}
    (ran : x { s with callDepth := s.callDepth + 1 } = .error e t) :
    deeper x s = .error e { t with callDepth := t.callDepth - 1 } := by
  rw [deeper, ran]

theorem deeper_alike {x x' : Run α} (inner : T.Alike x x' { r with callDepth := r.callDepth + 1 } Q)
    (kept : ∀ s depth a a', Q s a a' → Q { s with callDepth := depth } a a') :
    T.Alike (deeper x) (deeper x') r Q := by
  cases inner with
  | @done a a' after grows left right good =>
    have still : r.Grows { after with callDepth := after.callDepth - 1 } := grows
    have first := deeper_ok (s := r.over T.left) (t := after.over T.left) left
    have second := deeper_ok (s := r.over T.right) (t := after.over T.right) right
    exact .done still first second (kept after (after.callDepth - 1) a a' good)
  | @stopped e e' after grows left right stops =>
    have still : r.Grows { after with callDepth := after.callDepth - 1 } := grows
    have told : T.Stops { after with callDepth := after.callDepth - 1 } e e' := stops.grow fun _ _ there => there
    have first := deeper_error (s := r.over T.left) (t := after.over T.left) left
    have second := deeper_error (s := r.over T.right) (t := after.over T.right) right
    exact .stopped still first second told

theorem nested_alike {x x' : Run α} (inner : ∀ s, r.Grows s → T.Alike x x' s Q)
    (kept : ∀ s depth a a', Q s a a' → Q { s with callDepth := depth } a a') :
    T.Alike (nested x) (nested x') r Q := by
  rw [nested, nested]
  refine (tick_blind r).bind fun s _ grows => ?_
  have got : ∀ heap : Array Obj, (get : Run Realm) (s.over heap) = .ok (s.over heap) (s.over heap) := fun _ => rfl
  refine .behind (got _) (got _) ?_
  by_cases deep : maxCalls ≤ s.callDepth
  · have refused : ∀ (heap : Array Obj) (y : Run α), (if maxCalls ≤ (s.over heap).callDepth then do
          rangeError "Maximum call stack size exceeded"
          deeper y
        else deeper y) (s.over heap) = (do
          rangeError "Maximum call stack size exceeded"
          deeper y : Run α) (s.over heap) := fun heap y => congrFun (if_pos deep) _
    exact .of_eq (refused _ x) (refused _ x') (failed_alike _ _)
  · have entered : ∀ (heap : Array Obj) (y : Run α), (if maxCalls ≤ (s.over heap).callDepth then do
          rangeError "Maximum call stack size exceeded"
          deeper y
        else deeper y) (s.over heap) = deeper y (s.over heap) := fun heap y => congrFun (if_neg deep) _
    exact .of_eq (entered _ x) (entered _ x') (deeper_alike (inner _ grows) kept)

end Computations

section Natives

variable {E : Engine} (even : T.Even E) {r : Realm} {v v' : Value}
include even

variable {i : Nat} {p : RegExp.Program} {source flags : Units} (there : r.heap[i]? = some (regexpObject p source flags))
include there

theorem getValue_shown {n : String} (shown : n ∈ shownNames) :
    T.Alike (getValue E (.object (T.left.size + i)) (.ofString n)) (getValue E (.object (T.right.size + i)) (.ofString n))
      r Equal := by
  have simple : Simple T.toScope (regexpObject p source flags) := .regexp p source flags
  have known : ∀ m ∈ shownNames, (Label.name m).isWord = true ∧ (Label.name m).isOwn = false ∧
      demandAt .regexpPrototype (.name m) = .getter ∧ demandAt .objectPrototype (.name m) = .absent := by decide
  obtain ⟨word, foreign, getter, absent⟩ := known n shown
  have left := T.leftHosts.getOf_made E there simple word foreign
  have right := T.rightHosts.getOf_made E there simple word foreign
  have proto : Simple.proto (regexpObject p source flags) = .regexpPrototype := rfl
  rw [proto] at left right
  refine .of_eq left right ?_
  cases found : World.fresh.find? Intrinsic.regexpPrototype.addr (Label.name n).key (maxParents - 1) with
  | none => exact .pure ⟨rfl, rfl⟩
  | some q =>
    rcases fresh_find (by simp [watched]) word (Label.ne_length foreign) found with met | met
    · rw [getter] at met
      obtain ⟨b, f, s, native, isGetter, slot⟩ := met
      rw [readSlot, readSlot, slot]
      exact even.shown r i p source flags b f there native isGetter
    · rw [absent] at met
      exact met.elim

theorem flagsText_alike :
    T.Alike (RegExpObject.flagsText E (.object (T.left.size + i))) (RegExpObject.flagsText E (.object (T.right.size + i)))
      r fun _ a a' => a = a' := by
  have known : ∀ row ∈ RegExpObject.flagNames, row.1 ∈ shownNames := by decide
  refine (forIn_alike ?_ _).bind ?_
  · rintro row inside out s grows
    refine (getValue_shown even (grows _ _ there) (known row inside)).bind ?_
    rintro t v _ - ⟨rfl, -⟩
    split <;> exact .pure rfl
  · rintro s out _ - rfl
    exact .pure rfl

theorem regexpText_alike :
    T.Alike (RegExpObject.run E .toString (.object (T.left.size + i)) #[] none)
      (RegExpObject.run E .toString (.object (T.right.size + i)) #[] none) r Equal := by
  have written : ∀ a : Addr, RegExpObject.run E .toString (.object a) #[] none = (do
      let source ← toUnits E (← getValue E (.object a) (.ofString "source"))
      let flags ← toUnits E (← getValue E (.object a) (.ofString "flags"))
      return .string (#[0x2f] ++ source ++ #[0x2f] ++ flags)) := fun _ => rfl
  rw [written, written]
  refine (getValue_shown even there (by decide)).bind ?_
  rintro s v _ grows ⟨rfl, plain⟩
  refine (toUnits_alike even (.plain plain)).bind ?_
  rintro t u _ later rfl
  refine (getValue_shown even (later _ _ (grows _ _ there)) (by decide)).bind ?_
  rintro s v _ - ⟨rfl, plain⟩
  refine (toUnits_alike even (.plain plain)).bind ?_
  rintro t w _ - rfl
  exact .pure ⟨rfl, rfl⟩

omit even in
theorem expressionOf?_regexp (heap : Array Obj) :
    RegExpObject.expressionOf? (.object (heap.size + i)) (r.over heap) =
      .ok (some ⟨heap.size + i, p, source, flags⟩) (r.over heap) := by
  rw [RegExpObject.expressionOf?, bind_of_ok (kindOf_made heap there)]
  rfl

theorem getter_alike {f : Native} (isGetter : f.isGetter = true) :
    T.Alike (callNative E f (.object (T.left.size + i)) #[] none) (callNative E f (.object (T.right.size + i)) #[] none) r
      Equal := by
  cases f with
  | regexp f =>
    cases f with
    | source =>
      exact .behind (expressionOf?_regexp there _) (expressionOf?_regexp there _) (.pure ⟨rfl, rfl⟩)
    | flag letter =>
      exact .behind (expressionOf?_regexp there _) (expressionOf?_regexp there _) (.pure ⟨rfl, rfl⟩)
    | flags =>
      refine (flagsText_alike even there).bind ?_
      rintro s out _ - rfl
      exact .pure ⟨rfl, rfl⟩
    | _ => cases isGetter
  | _ => cases isGetter

end Natives

section Tellers

variable {E : Engine} {r : Realm} {i : Nat} {o : Obj} (there : r.heap[i]? = some o) (simple : Simple T.toScope o)
include there simple

theorem kindTag_made : ∃ tag, ∀ heap : Array Obj, kindTag (.object (heap.size + i)) (r.over heap) = .ok tag (r.over heap) := by
  rcases simple.kind with ⟨p, source, flags, kind⟩ | ⟨env, f, e, kind, -⟩
  · refine ⟨"RegExp", fun heap => ?_⟩
    rw [kindTag, bind_of_ok (kindOf_made heap there), kind]
    rfl
  · refine ⟨"Function", fun heap => ?_⟩
    rw [kindTag, bind_of_ok (kindOf_made heap there), kind]
    rfl

theorem tagOf_alike :
    T.Alike (ObjectFn.tagOf E (.object (T.left.size + i))) (ObjectFn.tagOf E (.object (T.right.size + i))) r Equal := by
  obtain ⟨tag, tagged⟩ := kindTag_made there simple
  have missing : (Label.symbol .toStringTag).isMissing = true := by decide
  have object : ∀ a s, toObject (.object a) s = .ok a s := fun _ _ => rfl
  refine .behind (object _ _) (object _ _) (.behind (tagged _) (tagged _) ?_)
  exact .behind (T.leftHosts.getOf_missing E there simple missing) (T.rightHosts.getOf_missing E there simple missing)
    (.pure ⟨rfl, rfl⟩)

theorem sourceText_alike :
    T.Alike (FunctionFn.sourceText E (T.left.size + i)) (FunctionFn.sourceText E (T.right.size + i)) r Equal := by
  refine .behind (kindOf_made _ there) (kindOf_made _ there) ?_
  rcases simple.kind with ⟨p, source, flags, kind⟩ | ⟨env, f, e, kind, -⟩
  · rw [kind]
    exact typeError_alike _
  · rw [kind]
    exact .pure ⟨rfl, rfl⟩

theorem teller_alike (even : T.Even E) {f : Native} (tells : Simple.tells o f = true) :
    T.Alike (callNative E f (.object (T.left.size + i)) #[] none) (callNative E f (.object (T.right.size + i)) #[] none) r
      T.Same := by
  have told {x x' : Run Value} (alike : T.Alike x x' r Equal) : T.Alike x x' r T.Same := by
    refine alike.imp ?_
    rintro s v _ ⟨rfl, plain⟩
    exact .plain plain
  have tame : f.isTame = true → T.Alike (callNative E f (.object (T.left.size + i)) #[] none)
      (callNative E f (.object (T.right.size + i)) #[] none) r T.Same := by
    intro tame
    cases f with
    | object f =>
      cases f with
      | valueOf => exact .of_ok rfl rfl (.made there simple)
      | toString => exact told (tagOf_alike there simple)
      | _ => cases tame
    | function f =>
      cases f with
      | toString => exact told (sourceText_alike there simple)
      | _ => cases tame
    | _ => cases tame
  cases simple with
  | closure => exact tame tells
  | regexp p source flags =>
    cases f with
    | regexp f =>
      cases f with
      | toString => exact told (regexpText_alike even there)
      | _ => cases tells
    | _ => exact tame tells

end Tellers

section Calls

variable {E : Engine} (even : T.Even E) {r : Realm}
include even

theorem execList_alike {env : Env} {e : Expr} (bare : env.vars = []) (plain : Plain T.toScope e) :
    T.Alike (execList E env [.return e]) (execList E env [.return e]) r fun s c c' =>
      ∃ v v', c = .returned v ∧ c' = .returned v' ∧ T.Same s v v' := by
  refine (even.exec r env e bare plain).bind ?_
  rintro s _ _ - ⟨v, v', rfl, rfl, same⟩
  exact .pure ⟨v, v', rfl, rfl, same⟩

theorem runFunction_alike {env : Env} {f : Function} {e : Expr} (bare : env.vars = []) (gives : Gives f e)
    (inner : Plain T.toScope e) (args args' : Array Value) :
    T.Alike (runFunction E env f args) (runFunction E env f args') r fun s a a' =>
      ∃ v v', a = some v ∧ a' = some v' ∧ T.Same s v v' := by
  have run : ∀ args, runFunction E env f args = runBody E env f [] := by
    intro args
    rw [runFunction, gives.nameless, gives.params]
    rfl
  rw [run, run, runBody, gives.unscoped.1, gives.unscoped.2, gives.body]
  refine .behind rfl rfl (.behind rfl rfl (.behind rfl rfl ?_))
  refine (execList_alike even bare inner).bind ?_
  rintro s _ _ - ⟨v, v', rfl, rfl, same⟩
  exact .pure ⟨v, v', rfl, rfl, same⟩

theorem callClosure_alike {env : Env} {f : Function} {e : Expr} (bare : env.vars = []) (gives : Gives f e)
    (inner : Plain T.toScope e) (a a' : Addr) (this this' : Value) (args args' : Array Value) :
    T.Alike (callClosure E a ⟨f, env, none, []⟩ this args) (callClosure E a' ⟨f, env, none, []⟩ this' args') r T.Same := by
  have called : ∀ a this args, callClosure E a ⟨f, env, none, []⟩ this args = (do
      return (← nested (runFunction E { env with isScript := false } f args)).getD .undefined) := by
    intro a this args
    simp only [callClosure, gives.arrow.kind, gives.arrow.direct.1, gives.arrow.direct.2]
    rfl
  rw [called, called]
  let inside : Env := { env with isScript := false }
  have unbound : inside.vars = [] := bare
  refine (nested_alike (fun s _ => runFunction_alike even unbound gives inner _ _) ?_).bind ?_
  · rintro s depth _ _ ⟨v, v', rfl, rfl, same⟩
    exact ⟨v, v', rfl, rfl, same.grow fun _ _ there => there⟩
  · rintro s _ _ - ⟨v, v', rfl, rfl, same⟩
    exact .pure same

theorem callFunction_alike {f f' : Value} (this this' : Value) (args args' : Array Value) (same : T.Same r f f') :
    T.Alike (callFunction E f this args) (callFunction E f' this' args') r T.Same := by
  cases same with
  | plain plain => cases f <;> first | exact typeError_alike _ | cases plain
  | made there simple =>
    refine .behind (kindOf_made _ there) (kindOf_made _ there) ?_
    rcases simple.kind with ⟨p, source, flags, kind⟩ | ⟨env, f, e, kind, bare, gives, inner⟩
    · rw [kind]
      exact typeError_alike _
    · rw [kind]
      exact callClosure_alike even bare gives inner _ _ _ _ _ _

end Calls

section Names

variable {E : Engine} {r : Realm} {env : Env} (bare : env.vars = [])
include bare

theorem readName?_names {heap : Array Obj} {n : String} {v : Value} (known : Names heap n v) :
    readName? E env n (r.over heap) = .ok (some v) (r.over heap) := by
  obtain ⟨o, p, w, there, own, slot⟩ := known
  have free : env.lookup? n = none := by
    rw [Env.lookup?, bare]
    rfl
  have low : Intrinsic.global.addr < heap.size := (Array.getElem?_eq_some_iff.mp there).1
  have found : find? Intrinsic.global.addr (globalKey n) (r.over heap) = .ok (some p) (r.over heap) := by
    have first : (r.over heap).find? Intrinsic.global.addr (globalKey n) maxParents = some p := by
      have object : (r.over heap).heap[Intrinsic.global.addr]? = some o := by
        change (heap ++ r.heap)[Intrinsic.global.addr]? = some o
        rw [Array.getElem?_append_left low, there]
      rw [maxParents, Realm.find?, object]
      simp only [own]
    rw [find?, ← first]
    rfl
  rw [readName?, free]
  have read : readSlot E Intrinsic.global.value (some p) (r.over heap) = .ok v (r.over heap) := by
    rw [readSlot, slot]
    rfl
  exact (bind_of_ok found _).trans (bind_of_ok read _)

theorem readName?_alike {n : String} {v : Json} (bound : (n, v) ∈ T.docs) (ordinary : n ≠ "__proto__") :
    T.Alike (readName? E env n) (readName? E env n) r fun _ a a' => ∃ x x', a = some x ∧ a' = some x' ∧ T.Shown v x x' := by
  obtain ⟨⟨x, hi, left, shows⟩, x', hi', right, shows'⟩ := T.alike _ bound ordinary
  exact .of_ok (readName?_names bare left) (readName?_names bare right) ⟨x, x', rfl, rfl, ⟨_, hi, shows⟩, _, hi', shows'⟩

end Names

section Documents

variable {E : Engine} {r : Realm} {x x' : Value} {v : Json}

theorem Shown.scalar (shown : T.Shown v x x') (scalar : isScalar v = true) : x = x' ∧ x.isPlain = true := by
  obtain ⟨⟨_, _, base, rfl, -⟩, _, _, base', rfl, -⟩ := shown
  have plain := (image_scalar scalar base).2
  rw [(image_scalar scalar base).1, (image_scalar scalar base').1]
  exact ⟨rfl, plain⟩

theorem Shown.isNullish (shown : T.Shown v x x') (filled : v ≠ .null) : x.isNullish = false ∧ x'.isNullish = false := by
  obtain ⟨⟨_, _, base, rfl, -⟩, _, _, base', rfl, -⟩ := shown
  cases v with
  | null => exact absurd rfl filled
  | _ => exact ⟨rfl, rfl⟩

theorem over_front {heap : Array Obj} {a : Addr} {o : Obj} (there : heap[a]? = some o) (r : Realm) :
    (r.over heap).heap[a]? = some o := by
  change (heap ++ r.heap)[a]? = some o
  rw [Array.getElem?_append_left (Array.getElem?_eq_some_iff.mp there).1, there]

theorem getValue_field {fields : List (String × Json)} (shown : T.Shown (.object fields) x x') {name : String}
    (inside : (name, v) ∈ fields) (alone : ∀ w, (name, w) ∈ fields → w = v) :
    T.Alike (getValue E x (.ofString name)) (getValue E x' (.ofString name)) r fun _ => T.Shown v := by
  obtain ⟨⟨lo, hi, left⟩, lo', hi', right⟩ := shown
  obtain ⟨a, o, y, rfl, there, own, shows⟩ := left.field inside alone
  obtain ⟨a', o', y', rfl, there', own', shows'⟩ := right.field inside alone
  exact .of_ok (getOf_own E (over_front there r) own) (getOf_own E (over_front there' r) own')
    ⟨⟨lo, hi, shows⟩, lo', hi', shows'⟩

theorem getValue_lacking {fields : List (String × Json)} (shown : T.Shown (.object fields) x x') {name : String}
    (lacks : ∀ f ∈ fields, f.1 ≠ name) (rare : IsRare name) :
    T.Alike (getValue E x (.ofString name)) (getValue E x' (.ofString name)) r Equal := by
  obtain ⟨⟨lo, hi, left⟩, lo', hi', right⟩ := shown
  obtain ⟨a, o, rfl, there, own, parent⟩ := left.lacking lacks
  obtain ⟨a', o', rfl, there', own', parent'⟩ := right.lacking lacks
  have above : World.fresh.find? Intrinsic.objectPrototype.addr (Label.name name).key (maxParents - 1) = none := by
    cases found : World.fresh.find? Intrinsic.objectPrototype.addr (Label.name name).key (maxParents - 1) with
    | none => rfl
    | some p =>
      have met := rare.met (by simp [watched]) found
      rw [rare.2] at met
      exact met.elim
  have read {heap : Array Obj} (hosts : Hosts heap) {a : Addr} {o : Obj} (there : heap[a]? = some o)
      (own : o.own? (.ofString name) = none) (parent : o.parent = some Intrinsic.objectPrototype.addr) :
      getOf E a (.ofString name) (r.over heap) = .ok .undefined (r.over heap) := by
    have none : (r.over heap).find? a (.ofString name) maxParents = none := by
      rw [maxParents, Realm.find?, over_front there r]
      dsimp only
      rw [own, parent]
      exact (hosts.find r (by simp [watched]) (by decide) _ _).trans above
    have found : find? a (.ofString name) (r.over heap) = .ok Option.none (r.over heap) := by
      rw [find?, ← none]
      rfl
    exact bind_of_ok found _
  exact .of_ok (read T.leftHosts there own parent) (read T.rightHosts there' own' parent') ⟨rfl, rfl⟩

theorem getValue_count {items : List Json} (shown : T.Shown (.array items) x x') :
    T.Alike (getValue E x lengthKey) (getValue E x' lengthKey) r Equal := by
  obtain ⟨⟨_, _, left⟩, _, _, right⟩ := shown
  obtain ⟨a, o, rfl, there, own⟩ := left.count
  obtain ⟨a', o', rfl, there', own'⟩ := right.count
  exact .of_ok (bind_of_ok (find?_own (over_front there r) own) _) (bind_of_ok (find?_own (over_front there' r) own') _)
    ⟨rfl, rfl⟩

theorem getValue_length {s : String} (shown : T.Shown (.string s) x x') :
    T.Alike (getValue E x lengthKey) (getValue E x' lengthKey) r Equal := by
  obtain ⟨⟨_, _, base, rfl, -⟩, _, _, base', rfl, -⟩ := shown
  have read : getValue E (.string (Units.ofString s)) lengthKey = pure (.nat (Units.ofString s).size) :=
    if_pos (beq_self_eq_true lengthKey)
  rw [image, image, read]
  exact .pure ⟨rfl, rfl⟩

end Documents

section Fetched

variable {E : Engine} (even : T.Even E) {r : Realm} {env : Env} (bare : env.vars = [])
include even bare

theorem member_alike {e : Expr} {v : Json} (selects : Selects T.docs e v) {name : String} {Q : Realm → Value → Value → Prop}
    (read : ∀ s x x', T.Shown v x x' →
      T.Alike (getValue E x (.ofString name)) (getValue E x' (.ofString name)) s Q) :
    T.Alike (evalMember E env e (.constant (.string (Units.ofString name))))
        (evalMember E env e (.constant (.string (Units.ofString name)))) r Q ∧
      T.Alike (evalCallee E env (.member e (.constant (.string (Units.ofString name)))))
        (evalCallee E env (.member e (.constant (.string (Units.ofString name))))) r fun s p p' => Q s p.1 p'.1 := by
  have selected := even.selects r env e v bare selects
  refine ⟨selected.bind fun s x x' _ shown => read s x x' shown, selected.bind fun s x x' _ shown => ?_⟩
  exact (read s x x' shown).bind fun _ _ _ _ held => .pure held

theorem evalExpr_selects {e : Expr} {v : Json} (selects : Selects T.docs e v) :
    T.Alike (evalExpr E env e) (evalExpr E env e) r fun _ => T.Shown v := by
  cases selects with
  | name bound ordinary =>
    refine (readName?_alike bare bound ordinary).bind ?_
    rintro s _ _ - ⟨x, x', rfl, rfl, shown⟩
    exact .pure shown
  | paren inner => exact even.selects r env _ v bare inner
  | field inner inside alone =>
    exact (member_alike even bare inner fun _ _ _ shown => getValue_field shown inside alone).1
  | optional inner filled =>
    refine (even.selects r env _ v bare inner).bind fun s x x' _ shown => ?_
    rw [(shown.isNullish filled).1, (shown.isNullish filled).2]
    exact .pure shown

theorem evalCallee_selects {e : Expr} {v : Json} (selects : Selects T.docs e v) :
    T.Alike (evalCallee E env e) (evalCallee E env e) r fun _ p p' => T.Shown v p.1 p'.1 := by
  induction selects generalizing r with
  | @name n v bound ordinary =>
    exact (even.selects r env _ v bare (.name bound ordinary)).bind fun _ _ _ _ shown => .pure shown
  | paren inner ih => exact ih
  | field inner inside alone =>
    exact (member_alike even bare inner fun _ _ _ shown => getValue_field shown inside alone).2
  | optional inner filled ih =>
    refine ih.bind ?_
    rintro s ⟨f, this⟩ ⟨f', this'⟩ - shown
    dsimp only at shown ⊢
    rw [(shown.isNullish filled).1, (shown.isNullish filled).2]
    exact .pure shown

theorem fetched_alike {e : Expr} (fetches : Fetches T.docs e) :
    T.Alike (evalExpr E env e) (evalExpr E env e) r Equal ∧
      T.Alike (evalCallee E env e) (evalCallee E env e) r fun s p p' => Equal s p.1 p'.1 := by
  cases fetches with
  | scalar selects scalar =>
    exact ⟨(evalExpr_selects even bare selects).imp fun _ _ _ shown => shown.scalar scalar,
      (evalCallee_selects even bare selects).imp fun _ _ _ shown => shown.scalar scalar⟩
  | missing selects lacks rare =>
    exact member_alike even bare selects fun _ _ _ shown => getValue_lacking shown lacks rare
  | count selects =>
    refine member_alike even bare selects fun _ _ _ shown => ?_
    rw [← lengthKey_eq]
    exact getValue_count shown
  | length selects =>
    refine member_alike even bare selects fun _ _ _ shown => ?_
    rw [← lengthKey_eq]
    exact getValue_length shown

end Fetched

section Levels

variable {E : Engine} (even : T.Even E) {r : Realm} {env : Env} (bare : env.vars = [])
include even bare

theorem evalArgs_alike {args : List Expr} (each : ∀ e ∈ args, Plain T.toScope e) {acc acc' : Array Value}
    (sames : T.Sames r acc acc') : T.Alike (evalArgs E env acc args) (evalArgs E env acc' args) r T.Sames := by
  induction args generalizing r acc acc' with
  | nil => exact .pure sames
  | cons e rest ih =>
    have plain := each e List.mem_cons_self
    have later {s : Realm} {acc acc' : Array Value} (sames : T.Sames s acc acc') :
        T.Alike (evalArgs E env acc rest) (evalArgs E env acc' rest) s T.Sames :=
      ih (fun e inside => each e (List.mem_cons_of_mem _ inside)) sames
    have single : T.Alike (do evalArgs E env (acc.push (← E.eval env e)) rest) (do
        evalArgs E env (acc'.push (← E.eval env e)) rest) r T.Sames :=
      (even.eval r env e bare plain).bind fun s v v' grows same => later ((sames.grow grows).push same)
    cases plain with
    | spread inner =>
      refine (even.eval r env _ bare inner).bind fun s v v' grows same => (collect_alike same).bind ?_
      rintro t items _ more ⟨rfl, plain⟩
      exact later (((sames.grow grows).grow more).append plain)
    | fetched fetches =>
      cases fetches with
      | scalar selects => cases selects <;> exact single
      | _ => exact single
    | _ => exact single

theorem math_alike (free : IsFree T.taken "Math") : T.Alike (E.eval env (.name "Math")) (E.eval env (.name "Math")) r
    fun _ v v' => v = Intrinsic.math.value ∧ v' = Intrinsic.math.value := by
  refine (even.opened r env _ bare free).imp ?_
  rintro s v _ ⟨rfl, stands⟩
  exact ⟨stands.math, stands.math⟩

theorem figure_alike (free : IsFree T.taken "Math") {n : String} (inside : n ∈ mathConstants) :
    T.Alike (evalMember E env (.name "Math") (named n)) (evalMember E env (.name "Math") (named n)) r Equal := by
  refine (math_alike even bare free).bind ?_
  rintro s _ _ - ⟨rfl, rfl⟩
  exact getValue_figure inside

theorem evalCallee_alike {e : Expr} (plain : Plain T.toScope e) :
    T.Alike (evalCallee E env e) (evalCallee E env e) r fun s p p' => T.Same s p.1 p'.1 := by
  have whole {e : Expr} (plain : Plain T.toScope e) : T.Alike (do return ((← E.eval env e), Value.undefined)) (do
      return ((← E.eval env e), Value.undefined)) r fun s p p' => T.Same s p.1 p'.1 :=
    (even.eval r env e bare plain).bind fun _ _ _ _ same => .pure same
  induction plain generalizing r with
  | paren inner ih => exact ih whole
  | optional inner ih =>
    refine (ih whole).bind ?_
    rintro s ⟨f, this⟩ ⟨f', this'⟩ - same
    dsimp only at same ⊢
    rw [isNullish_same same]
    split
    · exact (throw_alike (Q := fun _ _ _ => False) .chainEnded).bind fun _ _ _ _ never => never.elim
    · exact .pure same
  | chain inner ih =>
    refine (attempt_alike (ih whole)).bind ?_
    rintro s _ _ - (⟨p, p', rfl, rfl, same⟩ | ⟨e, e', rfl, rfl, stops⟩)
    · exact .pure same
    · cases stops with
      | failed there => exact throw_alike (.failed there)
      | interrupted => exact throw_alike .interrupted
      | chainEnded => exact .pure (.plain rfl)
  | constant c => exact whole (.constant c)
  | fetched fetches =>
    refine (fetched_alike even bare fetches).2.imp ?_
    rintro s ⟨f, this⟩ ⟨f', this'⟩ ⟨rfl, plain⟩
    exact .plain plain
  | unknown free missing => exact whole (.unknown free missing)
  | fixed free inside => exact whole (.fixed free inside)
  | figure free inside =>
    refine (math_alike even bare free).bind ?_
    rintro s _ _ - ⟨rfl, rfl⟩
    refine (getValue_figure inside).bind ?_
    rintro t v _ - ⟨rfl, plain⟩
    exact .pure (.plain plain)
  | regexp source flags => exact whole (.regexp source flags)
  | spread inner => exact whole (.spread inner)
  | unary reads inner => exact whole (.unary reads inner)
  | binary values left right => exact whole (.binary values left right)
  | logical left right => exact whole (.logical left right)
  | conditional first left right => exact whole (.conditional first left right)
  | comma left right => exact whole (.comma left right)
  | call first each => exact whole (.call first each)
  | called free inside each => exact whole (.called free inside each)
  | reckoned free inside each => exact whole (.reckoned free inside each)
  | method first inside each => exact whole (.method first inside each)
  | function gives inner => exact whole (.function gives inner)

theorem called_alike {n : String} (free : IsFree T.taken n) (inside : n ∈ calledNames) :
    T.Alike (evalCallee E env (.name n)) (evalCallee E env (.name n)) r fun _ => Callees := by
  refine (even.opened r env n bare free).bind ?_
  rintro s v _ - ⟨rfl, stands⟩
  obtain ⟨b, f, rfl, native, steady⟩ := stands.called inside
  exact .pure (.lent native (.inr ⟨steady, rfl⟩))

theorem reckoned_alike (free : IsFree T.taken "Math") {n : String} (inside : n ∈ mathNames) :
    T.Alike (evalCallee E env (.member (.name "Math") (named n))) (evalCallee E env (.member (.name "Math") (named n))) r
      fun _ => Callees := by
  refine (math_alike even bare free).bind ?_
  rintro s _ _ - ⟨rfl, rfl⟩
  exact getValue_math inside

theorem method_alike {e : Expr} (first : Plain T.toScope e) {n : String} (inside : n ∈ methodNames) :
    T.Alike (evalCallee E env (.member e (named n))) (evalCallee E env (.member e (named n))) r fun _ => Callees :=
  (even.eval r env e bare first).bind fun _ _ _ _ same => getValue_method inside same

theorem evalCall_lent {callee : Expr} (lent : T.Alike (evalCallee E env callee) (evalCallee E env callee) r fun _ => Callees)
    {args : List Expr} (each : ∀ e ∈ args, Plain T.toScope e) :
    T.Alike (evalCall E env callee args) (evalCall E env callee args) r T.Same := by
  refine lent.bind fun s p p' _ callees => ?_
  cases callees with
  | missing this this' =>
    refine (evalArgs_alike even bare each .nil).bind fun t args args' _ _ => ?_
    exact even.call t _ _ this this' args args' (.plain rfl)
  | @lent b f this native lends =>
    refine (evalArgs_alike even bare each .nil).bind fun t args args' _ sames => ?_
    refine (even.lent t b f this args args' native lends sames).imp ?_
    rintro s v _ ⟨rfl, plain⟩
    exact .plain plain

theorem evalTypeOf_alike {e : Expr} (plain : Plain T.toScope e) :
    T.Alike (evalTypeOf E env e) (evalTypeOf E env e) r Equal := by
  have told {v v' : Value} {s : Realm} (same : T.Same s v v') : T.Alike (do return Value.text (← typeName v)) (do
      return .text (← typeName v')) s Equal := by
    refine (typeName_alike same).bind ?_
    rintro t n _ - rfl
    exact .pure ⟨rfl, rfl⟩
  have inner := plain.unparen
  have whole := even.eval r env _ bare inner
  rw [evalTypeOf]
  generalize e.unparen = u at inner whole
  have otherwise : T.Alike (do return .text (← typeName (← E.eval env u))) (do return .text (← typeName (← E.eval env u))) r
      Equal := whole.bind fun _ _ _ _ same => told same
  cases inner with
  | fetched fetches =>
    cases fetches with
    | scalar selects scalar =>
      cases selects with
      | name bound ordinary =>
        refine (readName?_alike bare bound ordinary).bind ?_
        rintro s _ _ - ⟨x, x', rfl, rfl, shown⟩
        obtain ⟨rfl, plain⟩ := shown.scalar scalar
        exact told (.plain plain)
      | _ => exact otherwise
    | _ => exact otherwise
  | unknown free missing =>
    refine (readName?_free bare free).bind ?_
    rintro s v _ - ⟨rfl, stands⟩
    cases v with
    | none => exact .pure ⟨rfl, rfl⟩
    | some v => exact absurd ((stands v rfl).known free) missing
  | fixed free inside =>
    refine (readName?_free bare free).bind ?_
    rintro s v _ - ⟨rfl, stands⟩
    cases v with
    | none => exact .pure ⟨rfl, rfl⟩
    | some v => exact told (.plain ((stands v rfl).fixed inside))
  | _ => exact otherwise

theorem evalUnary_alike {op : UnaryOp} {e : Expr} (reads : op ≠ .delete) (plain : Plain T.toScope e) :
    T.Alike (evalUnary E env op e) (evalUnary E env op e) r Equal := by
  have value := even.eval r env e bare plain
  cases op with
  | delete => exact absurd rfl reads
  | typeOf => exact evalTypeOf_alike even bare plain
  | not =>
    refine value.bind fun s v v' _ same => ?_
    rw [toBool_same same]
    exact .pure ⟨rfl, rfl⟩
  | negate => exact value.bind fun _ _ _ _ same => negate_alike even same
  | plus => exact value.bind fun _ _ _ _ same => plus_alike even same
  | complement => exact value.bind fun _ _ _ _ same => complement_alike even same
  | discard => exact value.bind fun _ _ _ _ _ => .pure ⟨rfl, rfl⟩

theorem evalChain_alike {e : Expr} (plain : Plain T.toScope e) :
    T.Alike (evalChain E env e) (evalChain E env e) r T.Same := by
  refine (attempt_alike (even.eval r env e bare plain)).bind ?_
  rintro s _ _ - (⟨v, v', rfl, rfl, same⟩ | ⟨e, e', rfl, rfl, stops⟩)
  · exact .pure same
  · cases stops with
    | failed there => exact throw_alike (.failed there)
    | interrupted => exact throw_alike .interrupted
    | chainEnded => exact .pure (.plain rfl)

theorem evalOptional_alike {e : Expr} (plain : Plain T.toScope e) :
    T.Alike (evalOptional E env e) (evalOptional E env e) r T.Same := by
  refine (even.eval r env e bare plain).bind fun s v v' _ same => ?_
  rw [isNullish_same same]
  split
  · exact throw_alike .chainEnded
  · exact .pure same

omit even bare in
theorem evalRegExp_alike (source flags : Units) :
    T.Alike (evalRegExp source flags) (evalRegExp source flags) r T.Same := by
  rw [evalRegExp]
  cases RegExp.compile source flags with
  | none => exact syntaxError_alike _
  | some p =>
    refine Alike.bind (Q := fun s a a' => ∃ i, a = T.left.size + i ∧ a' = T.right.size + i ∧
      s.heap[i]? = some (regexpObject p source flags)) (alloc_alike _ r ?_) ?_
    · exact ⟨_, rfl, rfl, Array.getElem?_push_size⟩
    · rintro s _ _ - ⟨i, rfl, rfl, there⟩
      exact .pure (.made there (.regexp p source flags))

omit even in
theorem function_alike {f : Function} {e : Expr} (gives : Gives f e) (inner : Plain T.toScope e) :
    T.Alike (evalExpr E env (.function f)) (evalExpr E env (.function f)) r T.Same := by
  have parent : functionPrototypeOf f.info = .functionPrototype := by
    rw [functionPrototypeOf, gives.arrow.direct.1, gives.arrow.direct.2]
  have made : makeFunction env f none = alloc (closureObject env f) := by
    unfold makeFunction
    simp only [gives.arrow.direct.2, gives.arrow.kind, parent]
    rfl
  rw [evalExpr, gives.arrow.nameless, made]
  refine Alike.bind (Q := fun s a a' => ∃ i, a = T.left.size + i ∧ a' = T.right.size + i ∧
    s.heap[i]? = some (closureObject env f)) (alloc_alike _ r ?_) ?_
  · exact ⟨_, rfl, rfl, Array.getElem?_push_size⟩
  · rintro s _ _ - ⟨i, rfl, rfl, there⟩
    exact .pure (.made there (.closure bare gives inner))

theorem evalExpr_alike {e : Expr} (plain : Plain T.toScope e) :
    T.Alike (evalExpr E env e) (evalExpr E env e) r T.Same := by
  have told {x x' : Run Value} (alike : T.Alike x x' r Equal) : T.Alike x x' r T.Same := by
    refine alike.imp ?_
    rintro s v _ ⟨rfl, plain⟩
    exact .plain plain
  have value {e : Expr} (plain : Plain T.toScope e) (s : Realm) : T.Alike (E.eval env e) (E.eval env e) s T.Same :=
    even.eval s env e bare plain
  cases plain with
  | constant c => exact .pure (.plain (by cases c <;> rfl))
  | fetched fetches => exact told (fetched_alike even bare fetches).1
  | unknown free missing =>
    refine (readName_free bare free).imp ?_
    rintro s v _ ⟨-, stands⟩
    exact absurd (stands.known free) missing
  | fixed free inside =>
    refine (readName_free bare free).imp ?_
    rintro s v _ ⟨rfl, stands⟩
    exact .plain (stands.fixed inside)
  | figure free inside => exact told (figure_alike even bare free inside)
  | called free inside each => exact evalCall_lent even bare (called_alike even bare free inside) each
  | reckoned free inside each => exact evalCall_lent even bare (reckoned_alike even bare free inside) each
  | method first inside each => exact evalCall_lent even bare (method_alike even bare first inside) each
  | regexp source flags => exact evalRegExp_alike source flags
  | paren inner => exact value inner r
  | spread inner => exact value inner r
  | unary reads inner => exact told (evalUnary_alike even bare reads inner)
  | binary values left right =>
    refine told ((value left r).bind fun s v v' _ first => (value right s).bind fun t w w' grows second => ?_)
    exact binaryOp_alike even _ values (first.grow grows) second
  | @logical op a b left right =>
    refine (value left r).bind fun s v v' _ same => ?_
    have decided : decides op v = decides op v' := by
      cases op <;> simp only [decides, toBool_same same, isNullish_same same]
    rw [decided]
    split
    · exact .pure same
    · exact value right s
  | conditional first left right =>
    refine (value first r).bind fun s v v' _ same => ?_
    rw [toBool_same same]
    split
    · exact value left s
    · exact value right s
  | comma left right => exact (value left r).bind fun s _ _ _ _ => value right s
  | call first each =>
    refine (evalCallee_alike even bare first).bind ?_
    rintro s ⟨f, this⟩ ⟨f', this'⟩ - same
    refine (evalArgs_alike even bare each .nil).bind fun t _ _ grows _ => ?_
    exact even.call t f f' this this' _ _ (same.grow grows)
  | optional inner => exact evalOptional_alike even bare inner
  | chain inner => exact evalChain_alike even bare inner
  | function gives inner => exact function_alike bare gives inner

end Levels

theorem exhausted_even : T.Even Engine.exhausted where
  eval _ _ _ _ _ := rangeError_alike _
  selects _ _ _ _ _ _ := rangeError_alike _
  exec _ _ _ _ _ := rangeError_alike _
  idle _ _ := rangeError_alike _
  call _ _ _ _ _ _ _ _ := rangeError_alike _
  told _ _ _ _ _ _ _ _ _ := rangeError_alike _
  shown _ _ _ _ _ _ _ _ _ _ := rangeError_alike _
  opened _ _ _ _ _ := rangeError_alike _
  lent _ _ _ _ _ _ _ _ _ := rangeError_alike _

theorem callFunction_native {E : Engine} {heap : Array Obj} (hosts : Hosts heap) (r : Realm) {b : Addr} {f : Native}
    (native : IsNative World.fresh.heap b f) (this : Value) (args : Array Value) :
    callFunction E (.object b) this args (r.over heap) = callNative E f this args none (r.over heap) :=
  bind_of_ok (hosts.native r native) _

theorem Even.next {E : Engine} (even : T.Even E) : T.Even (Engine.next E) where
  eval _ _ _ bare plain := evalExpr_alike even bare plain
  selects _ _ _ _ bare selects := evalExpr_selects even bare selects
  exec r env e bare plain := by
    refine (even.eval r env e bare plain).bind fun s v v' _ same => ?_
    exact .pure ⟨v, v', rfl, rfl, same⟩
  idle _ _ := .pure ⟨rfl, rfl⟩
  call _ _ _ _ _ _ _ same := callFunction_alike even _ _ _ _ same
  told r i o b f there simple native tells :=
    .of_eq (callFunction_native T.leftHosts r native _ _) (callFunction_native T.rightHosts r native _ _)
      (teller_alike there simple even tells)
  shown r i p source flags b f there native isGetter :=
    .of_eq (callFunction_native T.leftHosts r native _ _) (callFunction_native T.rightHosts r native _ _)
      (getter_alike even there isGetter)
  opened _ _ _ bare free := readName_free bare free
  lent r b f this args args' native lends sames :=
    .of_eq (callFunction_native T.leftHosts r native _ _) (callFunction_native T.rightHosts r native _ _)
      (lentNative_alike even lends sames)

theorem ofDepth_even (depth : Nat) : T.Even (Engine.ofDepth depth) := by
  induction depth with
  | zero => exact exhausted_even
  | succ depth ih => exact ih.next

end Twins

end BoundedScript.Script
