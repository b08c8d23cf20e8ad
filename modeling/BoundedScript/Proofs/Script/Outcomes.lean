import BoundedScript.Script.Session

set_option autoImplicit false

namespace BoundedScript.Script

open Run

section

variable {α β : Type} {x : Run α} {realm after : Realm}

theorem bind_of_ok {a : α} (ran : x realm = .ok a after) (f : α → Run β) : (x >>= f) realm = f a after := by
  change EStateM.bind x f realm = f a after
  rw [EStateM.bind, ran]

theorem bind_of_error {e : Abrupt} (ran : x realm = .error e after) (f : α → Run β) :
    (x >>= f) realm = .error e after := by
  change EStateM.bind x f realm = .error e after
  rw [EStateM.bind, ran]

theorem getObj_apply {a : Addr} {o : Obj} (there : realm.heap[a]? = some o) : getObj a realm = .ok o realm := by
  rw [getObj, there]
  rfl

theorem kindOf_apply {a : Addr} {o : Obj} (there : realm.heap[a]? = some o) : kindOf a realm = .ok o.kind realm := by
  rw [kindOf, bind_of_ok (getObj_apply there)]
  rfl

theorem guarded_of_ok {a : α} (ran : x realm = .ok a after) :
    Session.guarded x realm = .ok (.ok a) after := by
  have attempted : attempt x realm = .ok (.ok a) after := by rw [attempt, ran]
  rw [Session.guarded, bind_of_ok attempted]
  rfl

theorem guarded_of_interrupted (ran : x realm = .error .interrupted after) :
    Session.guarded x realm = .error .interrupted after := by
  have attempted : attempt x realm = .ok (.error .interrupted) after := by rw [attempt, ran]
  rw [Session.guarded, bind_of_ok attempted]
  rfl

theorem zeroIn?_eq_none {source : String} : Session.zeroIn? source = none ↔ '\x00' ∉ source.toList := by
  simp [Session.zeroIn?]

theorem outcome_of_ok {source : String} {v : Value} (whole : Session.zeroIn? source = none)
    (ran : Session.evaluate source realm = .ok v after) : Session.outcome source realm = .ok (.ok v) after := by
  rw [Session.outcome, whole]
  exact guarded_of_ok ran

end
/-- A computation comes to what is asked of it in at most `need` steps. With fewer left the deadline may cut it
off instead, and nothing else does. -/
@[irreducible] def Reaches {α : Type} (need : Nat) (x : Run α) (realm : Realm) (Q : α → Realm → Prop) : Prop :=
  match x realm with
  | .ok a after => Q a after ∧ realm.steps ≤ after.steps + need
  | .error e after => (e = .interrupted ∧ after.steps = 0) ∧ realm.steps < need

def Makes {α : Type} (need : Nat) (x : Run α) (realm : Realm) (a : α) (after : Realm) : Prop :=
  Reaches need x realm fun b last => b = a ∧ ∃ left, last = { after with steps := left }

def Comes {α : Type} (need : Nat) (x : Run α) (realm : Realm) (a : α) : Prop :=
  Makes need x realm a realm

section

variable {α β : Type} {x : Run α} {f : α → Run β} {realm between after : Realm} {P Q : α → Realm → Prop}
  {R : β → Realm → Prop} {a : α} {b : β} {m n : Nat}

theorem Reaches.of_ok (ran : x realm = .ok a after) (good : Q a after) (spent : realm.steps ≤ after.steps + n) :
    Reaches n x realm Q := by
  rw [Reaches, ran]
  exact ⟨good, spent⟩

theorem Reaches.of_eq {y : Run α} {start : Realm} (same : x realm = y start) (left : realm.steps = start.steps)
    (reaches : Reaches n y start Q) : Reaches n x realm Q := by
  rw [Reaches] at reaches ⊢
  rwa [same, left]

theorem Reaches.mono (reaches : Reaches m x realm Q) (enough : m ≤ n) : Reaches n x realm Q := by
  rw [Reaches] at reaches ⊢
  cases ran : x realm with
  | ok a after =>
    rw [ran] at reaches
    exact ⟨reaches.1, Nat.le_trans reaches.2 (Nat.add_le_add_left enough _)⟩
  | error e after =>
    rw [ran] at reaches
    exact ⟨reaches.1, Nat.lt_of_lt_of_le reaches.2 enough⟩

theorem Reaches.bind (first : Reaches m x realm P) (next : ∀ a after, P a after → Reaches n (f a) after R) :
    Reaches (m + n) (x >>= f) realm R := by
  rw [Reaches] at first
  cases ran : x realm with
  | error e after =>
    rw [ran] at first
    rw [Reaches, bind_of_error ran]
    exact ⟨first.1, Nat.lt_add_right n first.2⟩
  | ok a after =>
    rw [ran] at first
    have second := next a after first.1
    have spent := first.2
    rw [Reaches] at second
    rw [Reaches, bind_of_ok ran]
    cases done : f a after with
    | ok b last =>
      rw [done] at second
      exact ⟨second.1, by omega⟩
    | error e last =>
      rw [done] at second
      exact ⟨second.1, by omega⟩

theorem Reaches.imp (reaches : Reaches n x realm P) (good : ∀ a after, P a after → Q a after) :
    Reaches n x realm Q := by
  rw [Reaches] at reaches ⊢
  cases ran : x realm with
  | ok a after =>
    rw [ran] at reaches
    exact ⟨good a after reaches.1, reaches.2⟩
  | error e after =>
    rw [ran] at reaches
    exact reaches

theorem Reaches.guarded (reaches : Reaches n x realm Q) :
    Reaches n (Session.guarded x) realm fun r after => ∃ a, r = .ok a ∧ Q a after := by
  rw [Reaches] at reaches
  cases ran : x realm with
  | ok a after =>
    rw [ran] at reaches
    exact .of_ok (guarded_of_ok ran) ⟨a, rfl, reaches.1⟩ reaches.2
  | error e after =>
    rw [ran] at reaches
    obtain ⟨⟨rfl, passed⟩, few⟩ := reaches
    rw [Reaches, guarded_of_interrupted ran]
    exact ⟨⟨rfl, passed⟩, few⟩

theorem Makes.of_ok (ran : x realm = .ok a after) (same : realm.steps = after.steps) : Makes 0 x realm a after :=
  Reaches.of_ok ran ⟨rfl, after.steps, rfl⟩ (Nat.le_of_eq same)

theorem Makes.pure (a : α) (realm : Realm) (left : Nat) : Makes 0 (pure a) { realm with steps := left } a realm :=
  Reaches.of_ok rfl ⟨rfl, left, rfl⟩ (Nat.le_refl _)

theorem Makes.mono (makes : Makes m x realm a after) (enough : m ≤ n) : Makes n x realm a after :=
  Reaches.mono makes enough

theorem Makes.bind (first : Makes m x realm a between)
    (next : ∀ left, Makes n (f a) { between with steps := left } b after) : Makes (m + n) (x >>= f) realm b after := by
  refine Reaches.bind first fun c last made => ?_
  obtain ⟨rfl, left, rfl⟩ := made
  exact next left

theorem Makes.behind (ran : x realm = .ok a between) (same : realm.steps = between.steps)
    (next : Makes n (f a) between b after) : Makes n (x >>= f) realm b after :=
  Reaches.of_eq (bind_of_ok ran f) same next

theorem Comes.of_ok (ran : x realm = .ok a realm) : Comes 0 x realm a :=
  Makes.of_ok ran rfl

theorem Comes.pure (a : α) : Comes 0 (pure a) realm a :=
  .of_ok rfl

theorem Comes.mono (comes : Comes m x realm a) (enough : m ≤ n) : Comes n x realm a :=
  Makes.mono comes enough

theorem Comes.bind (first : Comes m x realm a) (next : ∀ left, Comes n (f a) { realm with steps := left } b) :
    Comes (m + n) (x >>= f) realm b :=
  Makes.bind first next

theorem Comes.behind (ran : x realm = .ok a realm) (next : Comes n (f a) realm b) : Comes n (x >>= f) realm b :=
  Makes.behind ran rfl next

theorem tick_comes (realm : Realm) : Comes 1 tick realm () := by
  rw [Comes, Makes, Reaches, tick]
  by_cases passed : realm.steps = 0
  · simp [passed]
  · have spent : realm.steps ≤ realm.steps - 1 + 1 := by omega
    simpa [passed] using spent

end

section Loops

variable {α β : Type} {step : α → Run (α ⊕ β)} {n fuel : Nat} {b : β} {after : Realm}

section

variable {realm between : Realm} {a next : α} {k m : Nat}

theorem loop_done (made : ∀ left, Makes k (step a) { realm with steps := left } (.inr b) after) :
    Makes (1 + k) (loop step a (fuel + 1)) realm b after := by
  rw [loop]
  refine .bind (tick_comes realm) fun left => ?_
  exact Makes.bind (n := 0) (made left) fun left => .pure _ _ left

theorem loop_again (made : ∀ left, Makes k (step a) { realm with steps := left } (.inl next) between)
    (later : ∀ left, Makes m (loop step next fuel) { between with steps := left } b after) :
    Makes (1 + (k + m)) (loop step a (fuel + 1)) realm b after := by
  rw [loop]
  exact .bind (tick_comes realm) fun left => Makes.bind (made left) later

end

/-- A loop that goes through the states up to `n` and is left there. The steps that are still to be taken in front
of a state are given by `todo`. -/
theorem loop_makes (state : Nat → α) (realms : Nat → Realm) (todo : Nat → Nat)
    (each : ∀ i < n, ∃ k, 1 + (k + todo (i + 1)) ≤ todo i ∧
      ∀ left, Makes k (step (state i)) { realms i with steps := left } (.inl (state (i + 1))) (realms (i + 1)))
    (last : ∃ k, 1 + k ≤ todo n ∧ ∀ left, Makes k (step (state n)) { realms n with steps := left } (.inr b) after)
    (few : n < fuel) : Makes (todo 0) (loop step (state 0) fuel) (realms 0) b after := by
  -- The induction is on the rounds that are left, whatever has been passed.
  suffices later : ∀ k i fuel left, i + k = n → k < fuel →
      Makes (todo i) (loop step (state i) fuel) { realms i with steps := left } b after from
    later n 0 fuel (realms 0).steps (Nat.zero_add n) few
  intro k
  induction k with
  | zero =>
    intro i fuel left here enough
    obtain rfl : i = n := here
    obtain ⟨k, paid, made⟩ := last
    cases fuel with
    | zero => cases enough
    | succ fuel => exact .mono (loop_done made) paid
  | succ k ih =>
    intro i fuel left here enough
    obtain ⟨k, paid, made⟩ := each i (by omega)
    cases fuel with
    | zero => cases enough
    | succ fuel =>
      refine .mono (loop_again made fun left => ?_) paid
      exact ih (i + 1) fuel left (by omega) (Nat.lt_of_succ_lt_succ enough)

end Loops

end BoundedScript.Script
