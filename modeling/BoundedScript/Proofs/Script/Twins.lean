import BoundedScript.Proofs.Script.Furnishing
import BoundedScript.Proofs.Script.Plain

set_option autoImplicit false

namespace BoundedScript.Script

open Run JsonObject

def closureObject (env : Env) (f : Function) : Obj :=
  ⟨some Intrinsic.functionPrototype.addr, functionProps (.text f.info.name) f.info.expectedArgs, true,
    .closure ⟨f, env, none, []⟩⟩

def regexpObject (p : RegExp.Program) (source flags : Units) : Obj :=
  ⟨some Intrinsic.regexpPrototype.addr, PropTable.empty.insert lastIndexKey ⟨.data (.number 0.0) true, false, false⟩,
    true, .regexp p source flags⟩

def errorObject (c : ErrorClass) (message stack : String) : Obj :=
  ⟨some c.prototype.addr, PropTable.empty
    |>.insert (.ofString "message") (.hidden (.text message))
    |>.insert (.ofString "stack") (.hidden (.text stack)), true, .error⟩

inductive Simple (scope : Scope) : Obj → Prop where
  | regexp (p : RegExp.Program) (source flags : Units) : Simple scope (regexpObject p source flags)
  | closure {env : Env} {f : Function} {e : Expr} (bare : env.vars = []) (gives : Gives f e) (inner : Plain scope e) :
      Simple scope (closureObject env f)

theorem image_scalar {v : Json} (scalar : isScalar v = true) (base : Addr) :
    image base v = image 0 v ∧ (image 0 v).isPlain = true := by
  cases v <;> first | exact ⟨rfl, rfl⟩ | cases scalar

-- The objects of a fresh world, the one at the top apart, are the first ones.
structure Hosts (heap : Array Obj) : Prop where
  room : World.fresh.heap.size ≤ heap.size
  same : ∀ a, a ≠ Intrinsic.global.addr → a < World.fresh.heap.size → heap[a]? = World.fresh.heap[a]?

def Names (heap : Array Obj) (n : String) (v : Value) : Prop :=
  ∃ o p w, heap[Intrinsic.global.addr]? = some o ∧ o.own? (globalKey n) = some p ∧ p.slot = .data v w

def Binds (heap : Array Obj) (n : String) (v : Json) : Prop :=
  ∃ x hi, Names heap n x ∧ Shows heap World.fresh.heap.size hi v x

theorem Binds.scalar {heap : Array Obj} {n : String} {v : Json} (binds : Binds heap n v) (scalar : isScalar v = true) :
    Names heap n (image 0 v) := by
  obtain ⟨x, hi, names, base, rfl, -⟩ := binds
  rwa [(image_scalar scalar base).1] at names

-- What is found under a name at the top is what was found before.
def SameTop (before after : Array Obj) (n : String) : Prop :=
  ∀ o, before[Intrinsic.global.addr]? = some o → ∃ o', after[Intrinsic.global.addr]? = some o' ∧
    o'.own? (globalKey n) = o.own? (globalKey n) ∧ o'.parent = o.parent

theorem SameTop.refl (heap : Array Obj) (n : String) : SameTop heap heap n :=
  fun o there => ⟨o, there, rfl, rfl⟩

theorem SameTop.trans {first second third : Array Obj} {n : String} (one : SameTop first second n)
    (two : SameTop second third n) : SameTop first third n := by
  intro o there
  obtain ⟨o', there', own, parent⟩ := one o there
  obtain ⟨o'', there'', own', parent'⟩ := two o' there'
  exact ⟨o'', there'', own'.trans own, parent'.trans parent⟩

/-- Two worlds that nothing has run in but what gave their names the same documents. -/
structure Twins extends Scope where
  left : Array Obj
  right : Array Obj
  leftHosts : Hosts left
  rightHosts : Hosts right
  alike : ∀ b ∈ docs, b.1 ≠ "__proto__" → Binds left b.1 b.2 ∧ Binds right b.1 b.2
  opened : ∀ n, IsFree taken n → SameTop World.fresh.heap left n ∧ SameTop World.fresh.heap right n

def Realm.over (r : Realm) (heap : Array Obj) : Realm :=
  { r with heap := heap ++ r.heap }

def Realm.Grows (before after : Realm) : Prop :=
  ∀ (i : Nat) o, before.heap[i]? = some o → after.heap[i]? = some o

theorem Realm.Grows.refl (r : Realm) : r.Grows r :=
  fun _ _ there => there

theorem Realm.Grows.trans {r s t : Realm} (first : r.Grows s) (second : s.Grows t) : r.Grows t :=
  fun i o there => second i o (first i o there)

theorem Realm.grows_push (r : Realm) (o : Obj) : r.Grows { r with heap := r.heap.push o } := by
  intro i p there
  change (r.heap.push o)[i]? = some p
  rw [Array.getElem?_push, if_neg (Nat.ne_of_lt (Array.getElem?_eq_some_iff.mp there).1)]
  exact there

namespace Twins

variable (T : Twins)

/-- Values that are the same but for where the worlds lie. -/
inductive Same (r : Realm) : Value → Value → Prop where
  | plain {v : Value} (plain : v.isPlain = true) : Same r v v
  | made {i : Nat} {o : Obj} (there : r.heap[i]? = some o) (simple : Simple T.toScope o) :
      Same r (.object (T.left.size + i)) (.object (T.right.size + i))

def Sames (r : Realm) (args args' : Array Value) : Prop :=
  List.Forall₂ (T.Same r) args.toList args'.toList

def Shown (v : Json) (a a' : Value) : Prop :=
  (∃ lo hi, Shows T.left lo hi v a) ∧ ∃ lo hi, Shows T.right lo hi v a'

-- Failures that are told alike.
inductive Stops (r : Realm) : Abrupt → Abrupt → Prop where
  | failed {i : Nat} {c : ErrorClass} {message stack : String}
      (there : r.heap[i]? = some (errorObject c message stack)) :
      Stops r (.thrown (.object (T.left.size + i))) (.thrown (.object (T.right.size + i)))
  | interrupted : Stops r .interrupted .interrupted
  | chainEnded : Stops r .chainEnded .chainEnded

inductive Alike {α : Type} (x x' : Run α) (r : Realm) (Q : Realm → α → α → Prop) : Prop where
  | done {a a' : α} {after : Realm} (grows : r.Grows after)
      (left : x (r.over T.left) = .ok a (after.over T.left))
      (right : x' (r.over T.right) = .ok a' (after.over T.right)) (good : Q after a a')
  | stopped {e e' : Abrupt} {after : Realm} (grows : r.Grows after)
      (left : x (r.over T.left) = .error e (after.over T.left))
      (right : x' (r.over T.right) = .error e' (after.over T.right)) (stops : T.Stops after e e')

def Blind {α : Type} (x : Run α) (r : Realm) : Prop :=
  T.Alike x x r fun _ a a' => a = a'

variable {T}

section

variable {r s : Realm} {v v' : Value}

theorem Same.grow (same : T.Same r v v') (grows : r.Grows s) : T.Same s v v' := by
  cases same with
  | plain plain => exact .plain plain
  | made there simple => exact .made (grows _ _ there) simple

theorem Sames.grow {args args' : Array Value} (sames : T.Sames r args args') (grows : r.Grows s) :
    T.Sames s args args' :=
  List.Forall₂.imp (fun _ _ same => same.grow grows) sames

theorem Sames.push {args args' : Array Value} (sames : T.Sames r args args') (same : T.Same r v v') :
    T.Sames r (args.push v) (args'.push v') := by
  rw [Sames, Array.toList_push, Array.toList_push]
  exact List.rel_append sames (.cons same .nil)

theorem Sames.append {args args' items : Array Value} (sames : T.Sames r args args')
    (each : ∀ v ∈ items, v.isPlain = true) : T.Sames r (args ++ items) (args' ++ items) := by
  rw [Sames, Array.toList_append, Array.toList_append]
  refine List.rel_append sames (List.forall₂_same.mpr fun v inside => .plain (each v ?_))
  exact Array.mem_toList_iff.mp inside

theorem Sames.arg {args args' : Array Value} (sames : T.Sames r args args') (i : Nat) :
    T.Same r (arg args i) (arg args' i) := by
  rw [Script.arg, Script.arg, ← Array.getElem?_toList, ← Array.getElem?_toList]
  rw [Sames] at sames
  generalize args.toList = l at sames
  generalize args'.toList = l' at sames
  induction sames generalizing i with
  | nil => exact .plain rfl
  | cons same rest ih =>
    cases i with
    | zero => exact same
    | succ i =>
      rw [List.getElem?_cons_succ, List.getElem?_cons_succ]
      exact ih i

theorem Sames.isEmpty {args args' : Array Value} (sames : T.Sames r args args') : args.isEmpty = args'.isEmpty := by
  have size : args.size = args'.size := List.Forall₂.length_eq sames
  rw [Array.isEmpty, Array.isEmpty, size]

theorem Stops.grow {e e' : Abrupt} (stops : T.Stops r e e') (grows : r.Grows s) : T.Stops s e e' := by
  cases stops with
  | failed there => exact .failed (grows _ _ there)
  | interrupted => exact .interrupted
  | chainEnded => exact .chainEnded

end

namespace Alike

variable {α β : Type} {x x' : Run α} {r : Realm} {P Q : Realm → α → α → Prop} {R : Realm → β → β → Prop}

theorem of_ok {a a' : α} (left : x (r.over T.left) = .ok a (r.over T.left))
    (right : x' (r.over T.right) = .ok a' (r.over T.right)) (good : Q r a a') : T.Alike x x' r Q :=
  .done (.refl r) left right good

theorem pure {a a' : α} (good : Q r a a') : T.Alike (Pure.pure a) (Pure.pure a') r Q :=
  .of_ok rfl rfl good

theorem bind {f f' : α → Run β} (first : T.Alike x x' r Q)
    (next : ∀ s a a', r.Grows s → Q s a a' → T.Alike (f a) (f' a') s R) : T.Alike (x >>= f) (x' >>= f') r R := by
  cases first with
  | stopped grows left right stops => exact .stopped grows (bind_of_error left f) (bind_of_error right f') stops
  | done grows left right good =>
    cases next _ _ _ grows good with
    | done later ran ran' good =>
      exact .done (grows.trans later) ((bind_of_ok left f).trans ran) ((bind_of_ok right f').trans ran') good
    | stopped later ran ran' stops =>
      exact .stopped (grows.trans later) ((bind_of_ok left f).trans ran) ((bind_of_ok right f').trans ran') stops

theorem same {f f' : α → Run β} (first : T.Alike x x' r fun _ a a' => a = a')
    (next : ∀ s a, r.Grows s → T.Alike (f a) (f' a) s R) : T.Alike (x >>= f) (x' >>= f') r R :=
  first.bind fun s a _ grows same => same ▸ next s a grows

theorem ite {c : Prop} [Decidable c] {y y' : Run α} (yes : T.Alike x x' r Q) (no : T.Alike y y' r Q) :
    T.Alike (if c then x else y) (if c then x' else y') r Q := by
  split
  · exact yes
  · exact no

theorem imp (alike : T.Alike x x' r P) (good : ∀ s a a', P s a a' → Q s a a') : T.Alike x x' r Q := by
  cases alike with
  | done grows left right held => exact .done grows left right (good _ _ _ held)
  | stopped grows left right stops => exact .stopped grows left right stops

theorem behind {a a' : α} {f f' : α → Run β} (left : x (r.over T.left) = .ok a (r.over T.left))
    (right : x' (r.over T.right) = .ok a' (r.over T.right)) (next : T.Alike (f a) (f' a') r R) :
    T.Alike (x >>= f) (x' >>= f') r R := by
  have first : T.Alike x x' r fun s b b' => b = a ∧ b' = a' ∧ s = r := .of_ok left right ⟨rfl, rfl, rfl⟩
  refine first.bind fun s b b' _ known => ?_
  obtain ⟨rfl, rfl, rfl⟩ := known
  exact next

theorem of_eq {y y' : Run α} (left : x (r.over T.left) = y (r.over T.left))
    (right : x' (r.over T.right) = y' (r.over T.right)) (alike : T.Alike y y' r Q) : T.Alike x x' r Q := by
  cases alike with
  | done grows ran ran' good => exact .done grows (left.trans ran) (right.trans ran') good
  | stopped grows ran ran' stops => exact .stopped grows (left.trans ran) (right.trans ran') stops

end Alike

theorem alloc_alike (o : Obj) (r : Realm) {Q : Realm → Addr → Addr → Prop}
    (good : Q { r with heap := r.heap.push o } (T.left.size + r.heap.size) (T.right.size + r.heap.size)) :
    T.Alike (alloc o) (alloc o) r Q := by
  have made : ∀ heap : Array Obj, alloc o (r.over heap) =
      .ok (heap.size + r.heap.size) (Realm.over { r with heap := r.heap.push o } heap) := by
    intro heap
    rw [alloc, Realm.over, Array.size_append, ← Array.append_push]
    rfl
  exact .done (r.grows_push o) (made _) (made _) good

section

variable {α : Type} {r : Realm} {Q : Realm → α → α → Prop}

theorem thrown_alike (c : ErrorClass) (message stack : String) :
    T.Alike (do throwValue (← newError c message stack)) (do throwValue (← newError c message stack)) r Q := by
  have made : T.Alike (newError c message stack) (newError c message stack) r fun s v v' =>
      ∃ i, v = .object (T.left.size + i) ∧ v' = .object (T.right.size + i) ∧
        s.heap[i]? = some (errorObject c message stack) := by
    refine Alike.bind (Q := fun s a a' => ∃ i, a = T.left.size + i ∧ a' = T.right.size + i ∧
      s.heap[i]? = some (errorObject c message stack)) (alloc_alike _ r ?_) ?_
    · exact ⟨_, rfl, rfl, Array.getElem?_push_size⟩
    · rintro s _ _ - ⟨i, rfl, rfl, there⟩
      exact .pure ⟨i, rfl, rfl, there⟩
  refine made.bind ?_
  rintro s _ _ - ⟨i, rfl, rfl, there⟩
  exact .stopped (.refl s) rfl rfl (.failed there)

theorem fail_alike (c : ErrorClass) (message : String) : T.Alike (fail c message) (fail c message) r Q :=
  thrown_alike c message runStack

theorem syntaxError_alike (message : String) : T.Alike (syntaxError message) (syntaxError message) r Q :=
  thrown_alike .syntaxError message syntaxStack

theorem typeError_alike (message : String) : T.Alike (typeError message) (typeError message) r Q :=
  fail_alike _ _

theorem rangeError_alike (message : String) : T.Alike (rangeError message) (rangeError message) r Q :=
  fail_alike _ _

theorem tick_blind (r : Realm) : T.Blind tick r := by
  by_cases passed : r.steps = 0
  · have late : ∀ heap : Array Obj, tick (r.over heap) = .error .interrupted (r.over heap) := by
      intro heap
      rw [tick, Realm.over, passed]
      rfl
    exact .stopped (.refl r) (late _) (late _) .interrupted
  · have spent : ∀ heap : Array Obj, tick (r.over heap) = .ok () (Realm.over { r with steps := r.steps - 1 } heap) := by
      intro heap
      have some : (r.steps == 0) = false := beq_eq_false_iff_ne.mpr passed
      rw [tick, Realm.over]
      simp only [some]
      rfl
    have grows : r.Grows { r with steps := r.steps - 1 } := fun _ _ there => there
    exact .done grows (spent _) (spent _) rfl

theorem ticks_blind (n : Nat) (r : Realm) : T.Blind (ticks n) r := by
  by_cases passed : r.steps < n
  · have late : ∀ heap : Array Obj, ticks n (r.over heap) = .error .interrupted (Realm.over { r with steps := 0 } heap) :=
      fun heap => if_pos passed
    have grows : r.Grows { r with steps := 0 } := fun _ _ there => there
    exact .stopped grows (late _) (late _) .interrupted
  · have spent : ∀ heap : Array Obj, ticks n (r.over heap) = .ok () (Realm.over { r with steps := r.steps - n } heap) :=
      fun heap => if_neg passed
    have grows : r.Grows { r with steps := r.steps - n } := fun _ _ there => there
    exact .done grows (spent _) (spent _) rfl

theorem checkBytes_blind (n : Nat) (r : Realm) : T.Blind (checkBytes n) r := by
  have got : ∀ heap : Array Obj, (get : Run Realm) (r.over heap) = .ok (r.over heap) (r.over heap) := fun _ => rfl
  refine .behind (got _) (got _) ?_
  dsimp only
  have limit : ∀ heap : Array Obj, (r.over heap).heapLimit = r.heapLimit := fun _ => rfl
  rw [limit, limit]
  split
  · exact fail_alike _ _
  · exact .pure rfl

theorem Blind.bind {β : Type} {x : Run α} {f f' : α → Run β} {R : Realm → β → β → Prop} (first : T.Blind x r)
    (next : ∀ s a, r.Grows s → T.Alike (f a) (f' a) s R) : T.Alike (x >>= f) (x >>= f') r R :=
  Alike.bind first fun s a _ grows same => same ▸ next s a grows

-- Nothing that would come behind a failure is done.
theorem failed_alike {β : Type} (c : ErrorClass) (message : String) {f f' : α → Run β} {R : Realm → β → β → Prop} :
    T.Alike (fail c message >>= f) (fail c message >>= f') r R :=
  (fail_alike (Q := fun _ _ _ => False) c message).bind fun _ _ _ _ never => never.elim

theorem checkString_blind (u : Units) (r : Realm) : T.Blind (checkString u) r := by
  rw [checkString]
  split
  · exact failed_alike _ _
  · dsimp only
    split
    · exact (checkBytes_blind _ r).bind fun s _ _ => .pure rfl
    · exact .pure rfl

theorem checkItems_blind (n : Nat) (r : Realm) : T.Blind (checkItems n) r := by
  rw [checkItems]
  split
  · exact checkBytes_blind _ r
  · exact .pure rfl

theorem describeKey_blind (k : PropKey) (r : Realm) : T.Blind (describeKey k) r := by
  have described : ∀ heap : Array Obj, describeKey k (r.over heap) = .ok (k.describe r.symbols) (r.over heap) :=
    fun _ => rfl
  exact .of_ok (described _) (described _) rfl

end

section Loops

variable {α β : Type} {r : Realm}

/-- Loops whose rounds end alike do, whatever stands between two rounds as long as it still does when more has
been made. -/
theorem loop_alike {step step' : α → Run (α ⊕ β)} {P : Realm → α → α → Prop} {Q : Realm → β → β → Prop}
    (each : ∀ s a a', P s a a' → T.Alike (step a) (step' a') s fun t b b' =>
      (∃ c c', b = .inl c ∧ b' = .inl c' ∧ P t c c') ∨ ∃ d d', b = .inr d ∧ b' = .inr d' ∧ Q t d d')
    (kept : ∀ s t a a', s.Grows t → P s a a' → P t a a') (fuel : Nat) {a a' : α} (first : P r a a') :
    T.Alike (loop step a fuel) (loop step' a' fuel) r Q := by
  induction fuel generalizing r a a' with
  | zero => exact .stopped (.refl r) rfl rfl .interrupted
  | succ fuel ih =>
    rw [loop, loop]
    refine (tick_blind r).bind fun s _ grows => (each s a a' (kept r s a a' grows first)).bind ?_
    rintro t _ _ - (⟨c, c', rfl, rfl, still⟩ | ⟨d, d', rfl, rfl, good⟩)
    · exact ih still
    · exact .pure good

theorem forIn_alike {l : List α} {f f' : α → β → Run (ForInStep β)}
    (each : ∀ a ∈ l, ∀ b s, r.Grows s → T.Alike (f a b) (f' a b) s fun _ c c' => c = c') (b : β) :
    T.Alike (ForIn.forIn l b f) (ForIn.forIn l b f') r fun _ c c' => c = c' := by
  induction l generalizing r b with
  | nil => exact .pure rfl
  | cons a l ih =>
    rw [List.forIn_cons, List.forIn_cons]
    refine (each a List.mem_cons_self b r (.refl r)).bind ?_
    rintro s step _ grows rfl
    cases step with
    | done c => exact .pure rfl
    | yield c =>
      exact ih (fun a inside b t later => each a (List.mem_cons_of_mem _ inside) b t (grows.trans later)) c

-- A loop over values that are the same.
theorem forIn_sames {args args' : Array Value} (sames : T.Sames r args args') {f : Value → β → Run (ForInStep β)}
    (each : ∀ s v v' b, r.Grows s → T.Same s v v' → T.Alike (f v b) (f v' b) s fun _ c c' => c = c') (b : β) :
    T.Alike (ForIn.forIn args b f) (ForIn.forIn args' b f) r fun _ c c' => c = c' := by
  rw [← Array.forIn_toList, ← Array.forIn_toList]
  rw [Sames] at sames
  generalize args.toList = l at sames
  generalize args'.toList = l' at sames
  induction l generalizing r l' b with
  | nil =>
    cases sames
    exact .pure rfl
  | cons v rest ih =>
    cases sames with
    | cons same sames =>
      rw [List.forIn_cons, List.forIn_cons]
      refine (each r _ _ b (.refl r) same).bind ?_
      rintro s step _ grows rfl
      cases step with
      | done c => exact .pure rfl
      | yield c =>
        exact ih (fun t v v' b later same => each t v v' b (grows.trans later) same) c _
          (sames.imp fun _ _ same => same.grow grows)

end Loops

end Twins

end BoundedScript.Script
