import BoundedScript.Proofs.Script.Enclosed.Lexing
import BoundedScript.Proofs.Script.Letterless

set_option autoImplicit false

namespace BoundedScript.Script

open Lexer Parse

theorem Parse.run_bind {α β : Type} {src : Source} {s : ParseState} {x : Parse α} {f : α → Parse β} :
    (x >>= f) src s = (x src s).bind fun r => f r.1 src r.2 :=
  rfl

namespace Enclosed

variable (v : Enclosed)

def Near (inner : Bool) (l : Lexeme) : Prop :=
  l.stop ≤ v.shift + v.size ∨ (inner = false ∧ l.start = v.edge)

def lexeme (l : Lexeme) : Lexeme :=
  if l.start = v.edge then { v.closing with newline := l.newline }
  else ⟨l.token, l.start - v.shift, l.stop - v.shift, l.newline⟩

def head (h : ArrowHead) : ArrowHead :=
  { h with start := h.start - v.shift }

def state (t : ParseState) : ParseState :=
  { t with ahead := v.lexeme t.ahead, lastStop := t.lastStop - v.shift, arrowHead := t.arrowHead.map v.head }

def Settled (i : Nat) : Prop :=
  i ≤ v.shift + v.size ∨ v.edge < i

structure Good (t : ParseState) : Prop where
  real : tokenAt v.outer t.ahead.start = some (t.ahead.token, t.ahead.stop)
  low : v.shift ≤ t.lastStop
  settled : v.Settled t.lastStop
  order : t.lastStop ≤ t.ahead.start
  heads : ∀ h, t.arrowHead = some h → v.shift ≤ h.start

def Passes (l l' : Lexeme) : Prop :=
  l.stop ≤ l'.start ∧ v.Settled l.stop ∧
    ∀ n escaped, l.token = .word n escaped → ∃ m, next v.outer l.stop = some m ∧
      (m = l' ∨ (m.stop ≤ l'.start ∧ v.Settled m.stop))

def Onward (passes : Bool) (l l' : Lexeme) : Prop :=
  (passes = false ∧ l = l') ∨ v.Passes l l'

section Lexemes

variable {v} {t t' u : ParseState} {l l' l'' : Lexeme}

theorem Good.order_stop (good : v.Good t) : t.ahead.start ≤ t.ahead.stop := by
  obtain passed | ⟨-, same, -⟩ := tokenAt_passes good.real
  · exact passed.le
  · exact same.ge

-- No token ends between the common part and the bracket.
theorem Good.settled_stop (good : v.Good t) : v.Settled t.ahead.stop := by
  have order := good.order_stop
  have low := good.low.trans good.order
  have limit := v.ending.bounds
  by_cases inside : t.ahead.stop ≤ v.edge
  · have there : t.ahead.start = v.shift + (t.ahead.start - v.shift) := by omega
    rcases Nat.lt_or_ge (v.shift + v.size) t.ahead.start with past | within
    · have ends : t.ahead.start = v.edge := by omega
      have closed := good.real
      rw [ends, tokenAt_bracket v.ending.bracket] at closed
      have stop := (Prod.mk.inj (Option.some.inj closed)).2
      exact .inr (by omega)
    · obtain ⟨k, reached, stop, -⟩ := tokenAt_agrees (i := t.ahead.start - v.shift) (by omega) _ _ (there ▸ good.real) inside
      exact .inl (by omega)
  · exact .inr (Nat.not_le.mp inside)

theorem Onward.later (onward : v.Onward true t.ahead t'.ahead) (good : v.Good t) :
    t.ahead.start < t'.ahead.start ∨ v.edge < t'.ahead.start := by
  rcases onward with ⟨absurd, -⟩ | ⟨passed, -⟩
  · cases absurd
  obtain further | ⟨-, same, past⟩ := tokenAt_passes good.real
  · omega
  · have long := v.size_lt
    omega

theorem Good.filled (good : v.Good t) (near : t.ahead.stop ≤ v.shift + v.size) : t.ahead.start < t.ahead.stop := by
  obtain passed | ⟨-, same, past⟩ := tokenAt_passes good.real
  · exact passed
  · have long := v.size_lt
    have limit := v.ending.bounds
    omega

theorem Good.apart (good : v.Good t) (near : t.ahead.stop ≤ v.shift + v.size) : t.ahead.start ≠ v.edge := by
  have filled := good.filled near
  have limit := v.ending.bounds
  omega

theorem Good.bracket (good : v.Good t) (ends : t.ahead.start = v.edge) :
    t.ahead.token = .punct ")" ∧ t.ahead.stop = v.edge + 1 := by
  have real := good.real
  rw [ends, tokenAt_bracket v.ending.bracket] at real
  obtain ⟨token, stop⟩ := Prod.mk.inj (Option.some.inj real)
  exact ⟨token.symm, stop.symm⟩

theorem Good.marked (good : v.Good t) {mark : String} (here : t.ahead.token = .punct mark) (other : mark ≠ ")") :
    t.ahead.start ≠ v.edge := by
  intro ends
  rw [(good.bracket ends).1, Token.punct.injEq] at here
  exact other here.symm

theorem Onward.refl (l : Lexeme) : v.Onward false l l :=
  .inl ⟨rfl, rfl⟩

theorem Onward.trans {p q : Bool} (order : l'.start ≤ l'.stop) (first : v.Onward p l l') (second : v.Onward q l' l'') :
    v.Onward (p || q) l l'' := by
  rcases first with ⟨rfl, rfl⟩ | ⟨passed, settled, read⟩
  · exact second
  rcases second with ⟨rfl, rfl⟩ | ⟨later, settled', -⟩
  · exact .inr ⟨passed, settled, read⟩
  · refine .inr ⟨by omega, settled, fun n escaped same => ?_⟩
    obtain ⟨m, next, rfl | before⟩ := read n escaped same
    · exact ⟨m, next, .inr ⟨later, settled'⟩⟩
    · exact ⟨m, next, .inr ⟨by omega, before.2⟩⟩

theorem Onward.weaken {p : Bool} (onward : v.Onward p l l') : v.Onward false l l' :=
  onward.imp_left fun same => ⟨rfl, same.2⟩

theorem Settled.inside {r : Bool} {i : Nat} (settled : v.Settled i) (before : i ≤ t.ahead.start) (good : v.Good t)
    (near : v.Near r t.ahead) : i ≤ v.shift + v.size := by
  have order := good.order_stop
  have limit := v.ending.bounds
  rcases settled with within | past
  · exact within
  · rcases near with inside | ⟨-, ends⟩ <;> omega

theorem Onward.near {p r : Bool} (onward : v.Onward p t.ahead t'.ahead) (good : v.Good t') (near : v.Near r t'.ahead) :
    v.Near r t.ahead := by
  rcases onward with ⟨-, same⟩ | passes
  · rwa [same]
  · exact .inl (passes.2.1.inside passes.1 good near)

theorem Onward.inside {r : Bool} (onward : v.Onward true t.ahead t'.ahead) (good : v.Good t') (near : v.Near r t'.ahead) :
    t.ahead.stop ≤ v.shift + v.size := by
  rcases onward with ⟨absurd, -⟩ | passes
  · cases absurd
  · exact passes.2.1.inside passes.1 good near

theorem Near.weaken {r : Bool} (near : v.Near r l) : v.Near false l :=
  near.imp_right fun ends => ⟨rfl, ends.2⟩

theorem next_agrees {i : Nat} (within : i ≤ v.size) (read : next v.outer (v.shift + i) = some l)
    (near : v.Near false l) : next v.inner i = some (v.lexeme l) := by
  have long := v.size_lt
  have limit := v.ending.bounds
  have short := v.ending.size_le
  obtain ⟨⟨start, newline⟩, blanks, rest⟩ := Option.bind_eq_some_iff.mp read
  obtain ⟨⟨token, stop⟩, found, same⟩ := Option.bind_eq_some_iff.mp rest
  cases same
  have order : start ≤ stop := by
    obtain passed | ⟨-, same, -⟩ := tokenAt_passes found
    · exact passed.le
    · exact same.ge
  have reached : start ≤ v.edge := by
    rcases near with inside | ⟨-, ends⟩
    · have inside : stop ≤ v.shift + v.size := inside
      omega
    · exact ends.le
  obtain ⟨k, inside, rfl, blanks'⟩ | ⟨rfl, blanks'⟩ := skipBlanks_finds false within (by omega)
    (by omega : v.inner.size < i + (v.inner.size + 1)) start newline blanks reached
  · have apart : v.shift + k ≠ v.edge := by omega
    have within : stop ≤ v.shift + v.size := near.resolve_right fun ends => apart ends.2
    obtain ⟨m, -, rfl, found'⟩ := tokenAt_agrees inside.le token stop found (within.trans limit.1)
    rw [next, blanks', lexeme, if_neg apart]
    simp [found']
  · rw [next, blanks', lexeme, if_pos rfl]
    simp [v.ending.closing_token]

end Lexemes

/-- Reading in the longer text moves on, and what it reads near the shorter one is read there alone. The reader may depend
on places. Results in `passes` pass a token, and those in `inner` count only where more of the shorter text follows. -/
def Tracks {α : Type} (passes inner : α → Bool) (x y : Parse α) (t : ParseState) : Prop :=
  ∀ a u, y v.outer t = some (a, u) → v.Good u ∧ v.Onward (passes a) t.ahead u.ahead ∧
    (v.Near (inner a) u.ahead → x v.inner (v.state t) = some (a, v.state u))

abbrev Follows {α : Type} (x y : Parse α) (t : ParseState) : Prop :=
  v.Tracks (fun _ => true) (fun _ => false) x y t

abbrev Stays {α : Type} (x y : Parse α) (t : ParseState) : Prop :=
  v.Tracks (fun _ => false) (fun _ => false) x y t

abbrev Fronts {α : Type} (x y : Parse α) (t : ParseState) : Prop :=
  v.Tracks (fun _ => true) (fun _ => true) x y t

class Covered {β : Type} (p r : β → Bool) : Prop where
  covered : ∀ b, (r b || p b) = true

instance {β : Type} (p : β → Bool) : Covered p (fun _ => true) where
  covered _ := rfl

instance {β : Type} (r : β → Bool) : Covered (fun _ => true) r where
  covered b := Bool.or_true (r b)

instance {α β : Type} (p : α ⊕ β → Bool) : Covered p (Sum.elim (fun _ => true) fun _ => true) where
  covered := by
    rintro (_ | _) <;> rfl

/-- Where the first of two readers counts only in front of more text, the second passes a token or counts only there as well. -/
class Linked {α β : Type} (s : α → Bool) (p r : β → Bool) : Prop where
  link : ∀ a b, s a = true → (r b || p b) = true

theorem Linked.wider {α β : Type} {s : α → Bool} {p r : β → Bool} [linked : Linked s (fun _ => false) r] : Linked s p r where
  link a b deep := by rw [← Bool.or_false (r b), linked.link a b deep, Bool.true_or]

instance {α β : Type} (p r : β → Bool) : Linked (fun _ : α => false) p r where
  link _ _ := nofun

instance {α β : Type} (d : Bool) (p : β → Bool) : Linked (fun _ : α => d) p (fun _ => d) where
  link _ _ deep := by rw [deep, Bool.true_or]

instance {α β : Type} (s : α → Bool) (p r : β → Bool) [Covered p r] : Linked s p r where
  link _ b _ := Covered.covered b

namespace Tracks

variable {v} {α β : Type} {x y : Parse α} {f g : α → Parse β} {t : ParseState}

theorem pure {p r : α → Bool} (good : v.Good t) (a : α) (here : p a = false) : v.Tracks p r (Pure.pure a) (Pure.pure a) t := by
  intro b u same
  cases same
  rw [here]
  exact ⟨good, .refl _, fun _ => rfl⟩

theorem done {r : α → Bool} (good : v.Good t) (a : α) : v.Tracks (fun _ => false) r (Pure.pure a) (Pure.pure a) t :=
  pure good a rfl

theorem given (good : v.Good t) (a : α) : v.Stays (Pure.pure a) (Pure.pure a) t :=
  done good a

theorem failure {p r : α → Bool} : v.Tracks p r x Alternative.failure t := by
  intro a u same
  cases same

theorem weaken {p p' r r' : α → Bool} (tracks : v.Tracks p r x y t) (passes : ∀ a, p' a = true → p a = true)
    (inner : ∀ a, r a = true → r' a = true) : v.Tracks p' r' x y t := by
  intro a u ran
  obtain ⟨good, onward, read⟩ := tracks a u ran
  refine ⟨good, ?_, fun near => read ?_⟩
  · cases passing : p' a with
    | true => exact passes a passing ▸ onward
    | false => exact onward.weaken
  · refine near.imp_right fun ends => ⟨?_, ends.2⟩
    exact Bool.eq_false_iff.mpr fun deep => Bool.eq_false_iff.mp ends.1 (inner a deep)

theorem closing {p r : α → Bool} (tracks : v.Tracks p (fun _ => true) x y t)
    (gives : Leads v.outer t y fun a _ => r a = true) : v.Tracks p r x y t := by
  intro a u ran
  obtain ⟨good, onward, read⟩ := tracks a u ran
  exact ⟨good, onward, fun near => read (gives a u ran ▸ near)⟩

-- Two readers one after the other. Where the first counts only in front of more text, the second has to pass a token.
theorem linked {q s : α → Bool} {p r : β → Bool} (p' : α → β → Bool) (first : v.Tracks q s x y t)
    (next : ∀ a u, v.Good u → v.Onward (q a) t.ahead u.ahead → v.Tracks (p' a) r (f a) (g a) u)
    (passes : ∀ a b, p b = true → (q a || p' a b) = true)
    (link : ∀ a b, s a = true → (r b || p' a b) = true) : v.Tracks p r (x >>= f) (y >>= g) t := by
  intro b w ran
  obtain ⟨⟨a, u⟩, ran, rest⟩ := Option.bind_eq_some_iff.mp ran
  obtain ⟨good, onward, read⟩ := first a u ran
  obtain ⟨good', onward', read'⟩ := next a u good onward b w rest
  have whole := onward.trans good.order_stop onward'
  refine ⟨good', ?_, fun near => ?_⟩
  · cases passing : p b with
    | false => exact whole.weaken
    | true => exact passes a b passing ▸ whole
  · have before : v.Near (s a) u.ahead := by
      cases deep : s a with
      | false => exact (onward'.near good' near).weaken
      | true =>
        rcases Bool.or_eq_true_iff.mp (link a b deep) with closed | passing
        · exact closed ▸ onward'.near good' near
        · exact .inl ((passing ▸ onward').inside good' near)
    rw [run_bind, read before]
    exact read' near

theorem bind {q s : α → Bool} {p r : β → Bool} (first : v.Tracks q s x y t)
    (next : ∀ a u, v.Good u → v.Tracks p r (f a) (g a) u) [Linked s p r] : v.Tracks p r (x >>= f) (y >>= g) t :=
  linked (fun _ => p) first (fun a u good _ => next a u good) (fun a b passes => by rw [passes, Bool.or_true]) Linked.link

theorem stays {r : α → Bool} (tracks : v.Tracks (fun _ => true) r x y t) : v.Tracks (fun _ => false) r x y t :=
  tracks.weaken (fun _ _ => rfl) fun _ deep => deep

theorem andThen {s : α → Bool} {p r : β → Bool} (first : v.Tracks (fun _ => true) s x y t)
    (next : ∀ a u, v.Good u → v.Tracks (fun _ => false) r (f a) (g a) u) [Linked s (fun _ => false) r] :
    v.Tracks p r (x >>= f) (y >>= g) t :=
  linked (fun _ _ => false) first (fun a u good _ => next a u good) (fun _ _ _ => rfl) Linked.link

theorem andPure {q s : α → Bool} {h : α → β} {p r : β → Bool} (first : v.Tracks q s x y t)
    (passes : ∀ a, p (h a) = true → q a = true) (inner : ∀ a, s a = true → r (h a) = true) :
    v.Tracks p r (x >>= fun a => Pure.pure (h a)) (y >>= fun a => Pure.pure (h a)) t := by
  intro b u ran
  obtain ⟨⟨a, u⟩, ran, same⟩ := Option.bind_eq_some_iff.mp ran
  cases same
  obtain ⟨good, onward, read⟩ := first.weaken passes inner a u ran
  refine ⟨good, onward, fun near => ?_⟩
  rw [run_bind, read near]
  rfl

theorem mapped {c d : Bool} {h : α → β} (first : v.Tracks (fun _ => c) (fun _ => d) x y t) :
    v.Tracks (fun _ => c) (fun _ => d) (h <$> x) (h <$> y) t := by
  rw [← bind_pure_comp, ← bind_pure_comp]
  exact first.andPure (fun _ passing => passing) fun _ deep => deep

theorem guarded {p r : α → Bool} {c : Prop} [Decidable c] {x' y' : Parse α} (yes : c → v.Tracks p r x y t)
    (no : ¬ c → v.Tracks p r x' y' t) : v.Tracks p r (if c then x else x') (if c then y else y') t := by
  split
  next holds => exact yes holds
  next fails => exact no fails

theorem either {d : Bool} {p r : β → Bool} {c : Prop} [Decidable c] {x' y' : Parse α}
    (yes : c → v.Tracks (fun _ => false) (fun _ => d) x y t) (no : ¬ c → v.Tracks (fun _ => false) (fun _ => d) x' y' t)
    (next : ∀ a u, v.Good u → v.Tracks p r (f a) (g a) u) [Linked (fun _ : α => d) p r] :
    v.Tracks p r (if c then x >>= f else x' >>= f) (if c then y >>= g else y' >>= g) t :=
  guarded (fun holds => bind (yes holds) next) fun fails => bind (no fails) next

end Tracks

section Lookups

variable {v} {α β : Type} {x x' y y' : Parse β} {p r : β → Bool} {t : ParseState}

theorem Tracks.exchange (tracks : v.Tracks p r x' y' t) (outer : y v.outer t = y' v.outer t)
    (inner : v.Near false t.ahead → x v.inner (v.state t) = x' v.inner (v.state t)) : v.Tracks p r x y t := by
  intro b u ran
  obtain ⟨good, onward, read⟩ := tracks b u (outer ▸ ran)
  exact ⟨good, onward, fun near => (inner (onward.near good near).weaken).trans (read near)⟩

theorem Tracks.exchangeInside (tracks : v.Tracks p r x' y' t) (good : v.Good t) (outer : y v.outer t = y' v.outer t)
    (inner : t.ahead.start ≠ v.edge → x v.inner (v.state t) = x' v.inner (v.state t))
    [Covered p r] : v.Tracks p r x y t := by
  intro b u ran
  obtain ⟨good', onward, read⟩ := tracks b u (outer ▸ ran)
  refine ⟨good', onward, fun near => (inner (good.apart ?_)).trans (read near)⟩
  have link : (r b || p b) = true := Covered.covered b
  rcases Bool.or_eq_true_iff.mp link with closed | passing
  · exact ((closed ▸ onward.near good' near : v.Near true t.ahead)).resolve_right (nomatch ·.1)
  · exact (passing ▸ onward).inside good' near

theorem start_same (other : t.ahead.start ≠ v.edge) : (v.state t).ahead.start = t.ahead.start - v.shift := by
  rw [state, lexeme, if_neg other]

theorem newline_state (t : ParseState) : (v.state t).ahead.newline = t.ahead.newline := by
  rw [state, lexeme]
  split <;> rfl

theorem token_same (other : t.ahead.start ≠ v.edge) : (v.state t).ahead.token = t.ahead.token := by
  rw [state, lexeme, if_neg other]

theorem stop_same (other : t.ahead.start ≠ v.edge) : (v.state t).ahead.stop = t.ahead.stop - v.shift := by
  rw [state, lexeme, if_neg other]

theorem token_ends (ends : t.ahead.start = v.edge) : (v.state t).ahead.token = v.closing.token := by
  rw [state, lexeme, if_pos ends]

theorem token_state (good : v.Good t) :
    (v.state t).ahead.token = t.ahead.token ∨ ((v.state t).ahead.token = .endOfText ∧ t.ahead.token = .punct ")") := by
  by_cases ends : t.ahead.start = v.edge
  · rcases v.ending.closer with last | bracket
    · exact .inr ⟨(token_ends ends).trans last, (good.bracket ends).1⟩
    · exact .inl ((token_ends ends).trans (bracket.trans (good.bracket ends).1.symm))
  · exact .inl (token_same ends)

theorem ahead?_same (other : t.ahead.start ≠ v.edge) {mark : String} : ahead? (v.state t) mark = ahead? t mark := by
  rw [ahead?, ahead?, token_same other]

theorem ahead?_state (good : v.Good t) {mark : String} (other : mark ≠ ")") : ahead? (v.state t) mark = ahead? t mark := by
  rw [ahead?, ahead?]
  rcases token_state good with same | ⟨ends, bracket⟩
  · rw [same]
  · rw [ends, bracket]
    exact (beq_false_of_ne other).symm

theorem ahead?_missed (good : v.Good t) {mark : String} (missed : ahead? t mark = false) : ahead? (v.state t) mark = false := by
  rcases token_state good with same | ⟨ends, -⟩
  · rwa [ahead?, same]
  · rw [ahead?, ends]

theorem wordAhead?_state (good : v.Good t) {word : String} : wordAhead? (v.state t) word = wordAhead? t word := by
  rw [wordAhead?, wordAhead?]
  rcases token_state good with same | ⟨ends, bracket⟩
  · rw [same]
  · rw [ends, bracket]

variable {f g : α → Parse β}

theorem Tracks.start {f g : Nat → Parse β} (good : v.Good t)
    (next : v.Tracks p r (f (t.ahead.start - v.shift)) (g t.ahead.start) t) [Covered p r] :
    v.Tracks p r (Parse.start >>= f) (Parse.start >>= g) t :=
  next.exchangeInside good rfl fun other => by rw [← start_same other]; rfl

theorem Tracks.get {f g : ParseState → Parse β} (next : v.Tracks p r (f (v.state t)) (g t) t) :
    v.Tracks p r (MonadState.get >>= f) (MonadState.get >>= g) t :=
  next.exchange rfl fun _ => rfl

theorem Tracks.newlineAhead {f g : Bool → Parse β} (next : v.Tracks p r (f t.ahead.newline) (g t.ahead.newline) t) :
    v.Tracks p r (Parse.newlineAhead >>= f) (Parse.newlineAhead >>= g) t :=
  next.exchange rfl fun _ => by rw [← newline_state]; rfl

theorem Tracks.isPunct {f g : Bool → Parse β} {mark : String} (good : v.Good t) (other : mark ≠ ")")
    (next : v.Tracks p r (f (ahead? t mark)) (g (ahead? t mark)) t) :
    v.Tracks p r (Parse.isPunct mark >>= f) (Parse.isPunct mark >>= g) t :=
  next.exchange (bind_eq (isPunct_apply mark)) fun _ => by
    rw [bind_eq (isPunct_apply mark), ahead?_state good other]

theorem Tracks.isPunctInside {f g : Bool → Parse β} {mark : String} (good : v.Good t)
    (next : v.Tracks p r (f (ahead? t mark)) (g (ahead? t mark)) t) [Covered p r] :
    v.Tracks p r (Parse.isPunct mark >>= f) (Parse.isPunct mark >>= g) t :=
  next.exchangeInside good (bind_eq (isPunct_apply mark)) fun other => by
    rw [bind_eq (isPunct_apply mark), ahead?_same other]

theorem Tracks.isWord {f g : Bool → Parse β} {word : String} (good : v.Good t)
    (next : v.Tracks p r (f (wordAhead? t word)) (g (wordAhead? t word)) t) :
    v.Tracks p r (Parse.isWord word >>= f) (Parse.isWord word >>= g) t :=
  next.exchange (bind_eq (isWord_apply word)) fun _ => by
    rw [bind_eq (isWord_apply word), wordAhead?_state good]

theorem Tracks.token {f g : Token → Parse β} (good : v.Good t) (next : v.Tracks p r (f t.ahead.token) (g t.ahead.token) t)
    (ends : v.Tracks p r (f .endOfText) (g (.punct ")")) t) (closes : v.Tracks p r (f (.punct ")")) (g (.punct ")")) t) :
    v.Tracks p r (Parse.token >>= f) (Parse.token >>= g) t := by
  by_cases bracket : t.ahead.start = v.edge
  · have closer : v.Tracks p r (f v.closing.token) (g (.punct ")")) t := by
      rcases v.ending.closer with same | same <;> rwa [same]
    exact closer.exchange (by rw [bind_eq token_apply, (good.bracket bracket).1]) fun _ => by
      rw [bind_eq token_apply, token_ends bracket]
  · exact next.exchange (bind_eq token_apply) fun _ => by rw [bind_eq token_apply, token_same bracket]

theorem Tracks.tokenInside {f g : Token → Parse β} (good : v.Good t)
    (next : v.Tracks p r (f t.ahead.token) (g t.ahead.token) t) [Covered p r] :
    v.Tracks p r (Parse.token >>= f) (Parse.token >>= g) t :=
  next.exchangeInside good (bind_eq token_apply) fun other => by rw [bind_eq token_apply, token_same other]

end Lookups

section Readers

variable {v} {α β : Type} {x y : Parse α} {t : ParseState}

theorem next_passes {i : Nat} {l : Lexeme} (read : next v.outer i = some l) :
    i ≤ l.start ∧ tokenAt v.outer l.start = some (l.token, l.stop) := by
  obtain ⟨⟨start, newline⟩, blanks, rest⟩ := Option.bind_eq_some_iff.mp read
  obtain ⟨⟨token, stop⟩, found, same⟩ := Option.bind_eq_some_iff.mp rest
  cases same
  exact ⟨skipBlanks_le blanks, found⟩

theorem Good.resumed (good : v.Good t) {i : Nat} {l : Lexeme} (later : t.ahead.start ≤ i) (settled : v.Settled i)
    (read : next v.outer i = some l) : v.Good { t with ahead := l, lastStop := i } := by
  obtain ⟨order, real⟩ := next_passes read
  exact ⟨real, good.low.trans (good.order.trans later), settled, order, good.heads⟩

theorem Tracks.advance (good : v.Good t) : v.Follows Parse.advance Parse.advance t := by
  intro _ u ran
  rw [advance_apply] at ran
  obtain ⟨l, read, same⟩ := Option.map_eq_some_iff.mp ran
  cases same
  have order := good.order_stop
  have low := good.low.trans good.order
  obtain ⟨later, -⟩ := next_passes read
  have onward : v.Onward true t.ahead l := .inr ⟨later, good.settled_stop, fun _ _ _ => ⟨l, read, .inl rfl⟩⟩
  have good' := good.resumed order good.settled_stop read
  refine ⟨good', onward, fun near => ?_⟩
  have inside := onward.inside good' near
  rw [advance_apply, stop_same (good.apart inside)]
  have there : t.ahead.stop = v.shift + (t.ahead.stop - v.shift) := by omega
  rw [next_agrees (by omega) (there ▸ read) near]
  rfl

theorem eat_here {src : Source} {s : ParseState} {mark : String} (here : ahead? s mark = true) {f : Bool → Parse β} :
    (Parse.eat mark >>= f) src s = (Parse.advance >>= fun _ => f true) src s := by
  have eaten : (Parse.eat mark) src s = (Parse.advance >>= fun _ => pure true) src s := by
    rw [Parse.eat, bind_eq (isPunct_apply mark), here]
    rfl
  rw [run_bind, eaten]
  exact Option.bind_assoc _ _ _

theorem eatWord_here {src : Source} {s : ParseState} {word : String} (here : wordAhead? s word = true) {f : Bool → Parse β} :
    (Parse.eatWord word >>= f) src s = (Parse.advance >>= fun _ => f true) src s := by
  have eaten : (Parse.eatWord word) src s = (Parse.advance >>= fun _ => pure true) src s := by
    rw [Parse.eatWord, bind_eq (isWord_apply word), here]
    rfl
  rw [run_bind, eaten]
  exact Option.bind_assoc _ _ _

theorem eatWord_missed {src : Source} {s : ParseState} {word : String} (missed : wordAhead? s word = false) :
    Parse.eatWord word src s = some (false, s) := by
  rw [Parse.eatWord, bind_eq (isWord_apply word), missed]
  rfl

theorem Tracks.eaten {f g : Bool → Parse β} {r : β → Bool} {mark : String} (good : v.Good t) (here : ahead? t mark = true)
    (next : ∀ u, v.Good u → v.Tracks (fun _ => false) r (f true) (g true) u) :
    v.Tracks (fun _ => true) r (Parse.eat mark >>= f) (Parse.eat mark >>= g) t := by
  have whole : v.Tracks (fun _ => true) r (Parse.advance >>= fun _ => f true) (Parse.advance >>= fun _ => g true) t :=
    .andThen (.advance good) fun _ => next
  exact whole.exchangeInside good (eat_here here) fun other => eat_here (ahead?_same other ▸ here)

theorem Tracks.eatCases {f g : Bool → Parse β} {p r : β → Bool} {mark : String} (good : v.Good t)
    (yes : ∀ u, v.Good u → v.Tracks (fun _ => false) r (f true) (g true) u) (no : v.Tracks p r (f false) (g false) t) :
    v.Tracks p r (Parse.eat mark >>= f) (Parse.eat mark >>= g) t := by
  cases here : ahead? t mark with
  | true => exact (eaten good here yes).weaken (fun _ _ => rfl) fun _ deep => deep
  | false =>
    exact no.exchange (bind_eq (eat_missed here)) fun _ => bind_eq (eat_missed (ahead?_missed good here))

theorem Tracks.eats {mark : String} (good : v.Good t) : v.Stays (Parse.eat mark) (Parse.eat mark) t := by
  have whole : v.Stays (Parse.eat mark >>= Pure.pure) (Parse.eat mark >>= Pure.pure) t :=
    .eatCases good (fun _ good => .given good true) (.given good false)
  rwa [bind_pure] at whole

theorem Tracks.eatWordCases {f g : Bool → Parse β} {p r : β → Bool} {word : String} (good : v.Good t)
    (yes : ∀ u, v.Good u → v.Tracks (fun _ => false) r (f true) (g true) u) (no : v.Tracks p r (f false) (g false) t) :
    v.Tracks p r (Parse.eatWord word >>= f) (Parse.eatWord word >>= g) t := by
  cases here : wordAhead? t word with
  | true =>
    have whole : v.Tracks p r (Parse.advance >>= fun _ => f true) (Parse.advance >>= fun _ => g true) t :=
      .andThen (.advance good) fun _ => yes
    exact whole.exchange (eatWord_here here) fun _ => eatWord_here (wordAhead?_state good ▸ here)
  | false =>
    exact no.exchange (bind_eq (eatWord_missed here)) fun _ => bind_eq (eatWord_missed (wordAhead?_state good ▸ here))

theorem Tracks.eat {x x' y y' : Parse β} {p r : β → Bool} {mark : String} (good : v.Good t)
    (yes : ∀ u, v.Good u → v.Tracks (fun _ => false) r x y u) (no : v.Tracks p r x' y' t) :
    v.Tracks p r (Parse.eat mark >>= fun b => if b = true then x else x')
      (Parse.eat mark >>= fun b => if b = true then y else y') t :=
  .eatCases good yes no

theorem Tracks.startEat {x y : Nat → Parse β} {x' y' : Parse β} {p r : β → Bool} {mark : String} (good : v.Good t)
    (other : mark ≠ ")")
    (yes : ∀ u, v.Good u → v.Tracks (fun _ => false) r (x (t.ahead.start - v.shift)) (y t.ahead.start) u)
    (no : v.Tracks p r x' y' t) :
    v.Tracks p r (Parse.start >>= fun n => Parse.eat mark >>= fun b => if b = true then x n else x')
      (Parse.start >>= fun n => Parse.eat mark >>= fun b => if b = true then y n else y') t := by
  have begun {src : Source} {s : ParseState} : Parse.start src s = some (s.ahead.start, s) := rfl
  cases here : ahead? t mark with
  | true =>
    have apart := good.marked (ahead?_iff.mp here) other
    refine (Tracks.eat good yes no).exchange (bind_eq begun) fun _ => ?_
    rw [bind_eq begun, start_same apart]
  | false =>
    refine no.exchange ?_ fun _ => ?_
    · rw [bind_eq begun, bind_eq (eat_missed here), if_neg Bool.false_ne_true]
    · rw [bind_eq begun, bind_eq (eat_missed (ahead?_missed good here)), if_neg Bool.false_ne_true]

theorem Tracks.eatWord {x x' y y' : Parse β} {p r : β → Bool} {word : String} (good : v.Good t)
    (yes : ∀ u, v.Good u → v.Tracks (fun _ => false) r x y u) (no : v.Tracks p r x' y' t) :
    v.Tracks p r (Parse.eatWord word >>= fun b => if b = true then x else x')
      (Parse.eatWord word >>= fun b => if b = true then y else y') t :=
  .eatWordCases good yes no

theorem Tracks.expect {mark : String} (good : v.Good t) : v.Follows (Parse.expect mark) (Parse.expect mark) t :=
  .eatCases good (fun _ good => .given good ()) .failure

theorem Tracks.optional {x x' y y' : Parse α} {f g : α → Parse β} {d : Bool} {p r : β → Bool} {word : String} (good : v.Good t)
    (yes : ∀ u, v.Good u → v.Tracks (fun _ => false) (fun _ => d) x y u) (no : v.Tracks (fun _ => false) (fun _ => d) x' y' t)
    (next : ∀ a u, v.Good u → v.Tracks p r (f a) (g a) u) [Linked (fun _ : α => d) (fun _ => false) r] :
    v.Tracks p r (Parse.eatWord word >>= fun b => if b = true then x >>= f else x' >>= f)
      (Parse.eatWord word >>= fun b => if b = true then y >>= g else y' >>= g) t :=
  have : Linked (fun _ : α => d) p r := .wider
  .eatWord good (fun u good => .bind (yes u good) fun a u good => (next a u good).weaken nofun fun _ deep => deep)
    (.bind no next)

theorem Good.like {u : ParseState} (good : v.Good t) (ahead : u.ahead = t.ahead) (last : u.lastStop = t.lastStop)
    (heads : u.arrowHead = t.arrowHead) : v.Good u where
  real := ahead ▸ good.real
  low := last ▸ good.low
  settled := last ▸ good.settled
  order := last ▸ ahead ▸ good.order
  heads := heads ▸ good.heads

theorem Good.headless {u : ParseState} (good : v.Good t) (ahead : u.ahead = t.ahead) (last : u.lastStop = t.lastStop)
    (none : u.arrowHead = .none) : v.Good u where
  real := ahead ▸ good.real
  low := last ▸ good.low
  settled := last ▸ good.settled
  order := last ▸ ahead ▸ good.order
  heads := none ▸ nofun

theorem Good.headed (good : v.Good t) {h : ArrowHead} (low : v.shift ≤ h.start) : v.Good { t with arrowHead := some h } where
  real := good.real
  low := good.low
  settled := good.settled
  order := good.order
  heads := by
    rintro _ ⟨⟩
    exact low

theorem Tracks.set {s s' : ParseState} (good : v.Good s) (ahead : s.ahead = t.ahead) (same : s' = v.state s) :
    v.Stays (MonadStateOf.set s') (MonadStateOf.set s) t := by
  intro _ u ran
  cases ran
  subst same
  exact ⟨good, ahead ▸ .refl _, fun _ => rfl⟩

theorem Tracks.alter {h h' : ParseState → ParseState} (good : v.Good (h t)) (ahead : (h t).ahead = t.ahead)
    (same : h' (v.state t) = v.state (h t)) : v.Stays (modify h') (modify h) t := by
  intro _ u ran
  cases ran
  refine ⟨good, ahead ▸ .refl _, fun _ => ?_⟩
  rw [← same]
  rfl

theorem Tracks.sourceFrom {first : Nat} (low : v.shift ≤ first) (good : v.Good t) :
    v.Stays (Parse.sourceFrom (first - v.shift)) (Parse.sourceFrom first) t := by
  intro a u ran
  have given (src : Source) (i : Nat) (s : ParseState) :
      Parse.sourceFrom i src s = some ((src.extract i s.lastStop).foldl Units.pushChar #[], s) := rfl
  rw [given] at ran
  cases ran
  refine ⟨good, .refl _, fun near => ?_⟩
  have order := good.order
  have later := good.order_stop
  have low' := good.low
  have within := good.settled.inside order good near
  have reached : t.lastStop - v.shift ≤ v.size := by omega
  have same := extract_agrees (i := first - v.shift) reached
  rw [Nat.add_sub_cancel' low, Nat.add_sub_cancel' low'] at same
  rw [given, same]
  rfl

theorem Tracks.withScope {c d isFunction : Bool} {params : List String}
    (body : ∀ u, v.Good u → v.Tracks (fun _ => c) (fun _ => d) x y u) (good : v.Good t) :
    v.Tracks (fun _ => c) (fun _ => d) (Parse.withScope isFunction params x) (Parse.withScope isFunction params y) t := by
  refine .linked (fun _ _ => c) (.alter (good.like rfl rfl rfl) rfl rfl) (fun _ u good _ => ?_) (by simp) (by simp)
  refine .linked (fun _ _ => false) (body u good) (fun a u good _ => .get ?_) (by simp) (by simp)
  have scopes : (v.state u).scopes = u.scopes := rfl
  rw [scopes]
  cases u.scopes with
  | nil => exact .failure
  | cons top outer => exact .bind (.set (good.like rfl rfl rfl) rfl rfl) fun _ u good => .pure good _ rfl

-- Rounds of a reader, each of which passes a token unless it is the last.
theorem Tracks.repeated {step step' : α → Parse (α ⊕ β)} {c d e : Bool}
    (steps : ∀ a u, v.Good u →
      v.Tracks (Sum.elim (fun _ => true) fun _ => c) (Sum.elim (fun _ => e) fun _ => d) (step a) (step' a) u)
    (link : e = true → (d || c) = true) {m n : Nat} {a : α} (good : v.Good t) (room : v.edge < t.ahead.start + m) :
    v.Tracks (fun _ => c) (fun _ => d) (loop step a m) (loop step' a n) t := by
  induction n generalizing a m t with
  | zero => exact .failure
  | succ n ih =>
    have more (m : Nat) (room : v.edge < t.ahead.start + (m + 1)) :
        v.Tracks (fun _ => c) (fun _ => d) (loop step a (m + 1)) (loop step' a (n + 1)) t := by
      refine .linked (fun r _ => r.elim (fun _ => c) fun _ => false) (steps a t good) (fun r u good' onward => ?_) ?_ ?_
      · cases r with
        | inl a =>
          have later := onward.later good
          exact ih good' (by omega)
        | inr b => exact .pure good' b rfl
      · rintro (a | b) _ passing
        · rfl
        · exact Bool.or_eq_true_iff.mpr (.inl passing)
      · rintro (a | b) _ deep
        · exact link deep
        · exact Bool.or_eq_true_iff.mpr (.inl deep)
    cases m with
    | zero =>
      refine (more 0 (by omega)).exchange rfl fun near => ?_
      have order := good.order_stop
      have limit := v.ending.bounds
      rcases near with inside | ⟨-, ends⟩ <;> omega
    | succ m => exact more m room

theorem Tracks.loop {step step' : α → Parse (α ⊕ β)} {d : Bool}
    (steps : ∀ a u, v.Good u → v.Tracks Sum.isLeft (Sum.elim (fun _ => false) fun _ => d) (step a) (step' a) u)
    {m n : Nat} {a : α} (good : v.Good t) (room : v.edge < t.ahead.start + m) :
    v.Tracks (fun _ => false) (fun _ => d) (Parse.loop step a m) (Parse.loop step' a n) t :=
  .repeated (c := false) (fun a u good => (steps a u good).weaken (by rintro (a | b) same <;> exact same) fun _ deep => deep)
    nofun good room

theorem Tracks.loopOn {step step' : α → Parse (α ⊕ β)} {d : Bool}
    (steps : ∀ a u, v.Good u → v.Tracks (fun _ => true) (Sum.elim (fun _ => true) fun _ => d) (step a) (step' a) u)
    {m n : Nat} {a : α} (good : v.Good t) (room : v.edge < t.ahead.start + m) :
    v.Tracks (fun _ => true) (fun _ => d) (Parse.loop step a m) (Parse.loop step' a n) t :=
  .repeated (c := true) (fun a u good => (steps a u good).weaken (fun _ _ => rfl) fun _ deep => deep)
    (fun _ => Bool.or_true d) good room

theorem Tracks.rounds {f g : Nat → Parse β} {p r : β → Bool} (good : v.Good t)
    (next : ∀ m n, v.edge < t.ahead.start + m → v.Tracks p r (f m) (g n) t) :
    v.Tracks p r (Parse.rounds >>= f) (Parse.rounds >>= g) t :=
  (next (v.inner.size + 2) (v.outer.size + 2) (by
    have low := good.low.trans good.order
    have limit := v.ending.bounds
    have short := v.ending.size_le
    omega)).exchange rfl fun _ => rfl

theorem Tracks.resumeAt {i : Nat} (good : v.Good t) (later : t.ahead.stop ≤ i) (settled : v.Settled i)
    (wordless : ∀ n escaped, t.ahead.token ≠ .word n escaped) :
    v.Follows (Parse.resumeAt (i - v.shift)) (Parse.resumeAt i) t := by
  intro _ u ran
  rw [resumeAt_apply] at ran
  obtain ⟨l, read, same⟩ := Option.map_eq_some_iff.mp ran
  cases same
  have order := good.order_stop
  have low := good.low.trans good.order
  obtain ⟨passed, found⟩ := next_passes read
  have good' := good.resumed (order.trans later) settled read
  refine ⟨good', .inr ⟨later.trans passed, good.settled_stop, fun n escaped same => (wordless n escaped same).elim⟩,
    fun near => ?_⟩
  have reached := settled.inside passed good' near
  have there : i = v.shift + (i - v.shift) := by omega
  rw [resumeAt_apply, next_agrees (by omega) (there ▸ read) near]
  rfl

theorem Tracks.mapM {f : α → Parse β} (each : ∀ a u, v.Good u → v.Stays (f a) (f a) u) (l : List α) (good : v.Good t) :
    v.Stays (l.mapM f) (l.mapM f) t := by
  induction l generalizing t with
  | nil => exact .given good []
  | cons a l ih =>
    rw [List.mapM_cons]
    exact .bind (each a t good) fun b u good => .bind (ih good) fun bs u good => .given good (b :: bs)

-- The longer token ends where the two texts agree if what is read behind it is near.
theorem Tracks.resumed {x y : Parse β} {f g : Unit → Parse β} {r : β → Bool} {i : Nat} (good : v.Good t)
    (later : t.ahead.stop ≤ i)
    (settled : v.Settled i) (wordless : ∀ n escaped, t.ahead.token ≠ .word n escaped)
    (outer : y v.outer t = (Parse.resumeAt i >>= g) v.outer t)
    (inner : i ≤ v.edge → x v.inner (v.state t) = (Parse.resumeAt (i - v.shift) >>= f) v.inner (v.state t))
    (next : ∀ u, v.Good u → v.Onward true t.ahead u.ahead → v.Tracks (fun _ => false) r (f ()) (g ()) u) :
    v.Tracks (fun _ => true) r x y t := by
  have whole : v.Tracks (fun _ => true) r (Parse.resumeAt (i - v.shift) >>= f) (Parse.resumeAt i >>= g) t :=
    .linked (fun _ _ => false) (.resumeAt good later settled wordless) (fun _ => next) (by simp) (by simp)
  intro b w ran
  rw [outer] at ran
  obtain ⟨good', onward, read⟩ := whole b w ran
  refine ⟨good', onward, fun near => (inner ?_).trans (read near)⟩
  obtain ⟨⟨_, u⟩, resumed, rest⟩ := Option.bind_eq_some_iff.mp ran
  obtain ⟨good'', passed, -⟩ := Tracks.resumeAt good later settled wordless () u resumed
  obtain ⟨-, further, -⟩ := next u good'' passed b w rest
  rw [resumeAt_apply] at resumed
  obtain ⟨l, follows, same⟩ := Option.map_eq_some_iff.mp resumed
  cases same
  have within := settled.inside (next_passes follows).1 good'' (further.near good' near)
  exact within.trans v.ending.bounds.1

theorem Tracks.forM {f : α → Parse PUnit} (each : ∀ a u, v.Good u → v.Stays (f a) (f a) u) (l : List α) (good : v.Good t) :
    v.Stays (l.forM f) (l.forM f) t := by
  induction l generalizing t with
  | nil => exact .given good ()
  | cons a l ih => exact .bind (each a t good) fun _ u good => ih good

end Readers

section Again

variable {v} {α β : Type} {x y : Parse α} {t u : ParseState}

def Shown (t : ParseState) : Prop :=
  t.ahead.stop ≤ v.shift + v.size ∧
    ∀ n escaped, t.ahead.token = .word n escaped → ∃ m, next v.outer t.ahead.stop = some m ∧ v.Near false m

theorem Onward.shown {r : Bool} (onward : v.Onward true t.ahead u.ahead) (good : v.Good u) (near : v.Near r u.ahead) :
    v.Shown t := by
  refine ⟨onward.inside good near, fun n escaped word => ?_⟩
  rcases onward with ⟨absurd, -⟩ | ⟨-, -, read⟩
  · cases absurd
  obtain ⟨m, follows, rfl | ⟨before, settled⟩⟩ := read n escaped word
  · exact ⟨_, follows, near.weaken⟩
  · exact ⟨m, follows, .inl (settled.inside before good near)⟩

/-- A reader that passes a token for the results in `passes` and for the others goes back to where it was. -/
def Tries (passes : α → Bool) (inner : Bool) (x y : Parse α) (t : ParseState) : Prop :=
  ∀ a u, y v.outer t = some (a, u) →
    (passes a = true → v.Good u ∧ v.Onward true t.ahead u.ahead ∧
      (v.Near inner u.ahead → x v.inner (v.state t) = some (a, v.state u))) ∧
    (passes a = false → u = t ∧ (v.Shown t → x v.inner (v.state t) = some (a, v.state t)))

theorem Tracks.again {f g : α → Parse β} {q : α → Bool} {d : Bool} {r : β → Bool} (tries : v.Tries q d x y t)
    (yes : ∀ a u, q a = true → v.Good u → v.Tracks (fun _ => d) r (f a) (g a) u)
    (no : ∀ a, q a = false → v.Tracks (fun _ => true) r (f a) (g a) t) :
    v.Tracks (fun _ => true) r (x >>= f) (y >>= g) t := by
  intro b w ran
  obtain ⟨⟨a, u⟩, ran, rest⟩ := Option.bind_eq_some_iff.mp ran
  cases passing : q a with
  | true =>
    obtain ⟨good, onward, read⟩ := (tries a u ran).1 passing
    obtain ⟨good', onward', read'⟩ := yes a u passing good b w rest
    refine ⟨good', onward.trans good.order_stop onward', fun near => ?_⟩
    have before : v.Near d u.ahead := by
      cases d with
      | false => exact (onward'.near good' near).weaken
      | true => exact .inl (onward'.inside good' near)
    rw [run_bind, read before]
    exact read' near
  | false =>
    obtain ⟨rfl, read⟩ := (tries a u ran).2 passing
    obtain ⟨good', onward', read'⟩ := no a passing b w rest
    refine ⟨good', onward', fun near => ?_⟩
    rw [run_bind, read (onward'.shown good' near)]
    exact read' near

theorem Tracks.onward {f g : α → Parse β} {q : α → Bool} {r : β → Bool} (tries : v.Tries q true x y t) (good : v.Good t)
    (next : ∀ a u, v.Good u → v.Tracks (fun _ => true) r (f a) (g a) u) : v.Tracks (fun _ => true) r (x >>= f) (y >>= g) t :=
  .again tries (fun a u _ => next a u) fun a _ => next a t good

theorem Tries.exchange {q : α → Bool} {d : Bool} {x' y' : Parse α} (tries : v.Tries q d x' y' t)
    (outer : y v.outer t = y' v.outer t) (inner : v.Near false t.ahead → x v.inner (v.state t) = x' v.inner (v.state t)) :
    v.Tries q d x y t := by
  intro a u ran
  obtain ⟨found, missed⟩ := tries a u (outer ▸ ran)
  refine ⟨fun passing => ?_, fun passing => ?_⟩
  · obtain ⟨good, onward, read⟩ := found passing
    exact ⟨good, onward, fun near => (inner (onward.near good near).weaken).trans (read near)⟩
  · obtain ⟨same, read⟩ := missed passing
    exact ⟨same, fun shown => (inner (.inl shown.1)).trans (read shown)⟩

theorem Tries.found {q : α → Bool} {d : Bool} (tracks : v.Tracks (fun _ => true) (fun _ => d) x y t)
    (gives : Leads v.outer t y fun a _ => q a = true) : v.Tries q d x y t := by
  intro a u ran
  refine ⟨fun _ => tracks a u ran, fun missed => ?_⟩
  rw [gives a u ran] at missed
  cases missed

theorem Tries.get {f g : ParseState → Parse α} {q : α → Bool} {d : Bool} (next : v.Tries q d (f (v.state t)) (g t) t) :
    v.Tries q d (MonadState.get >>= f) (MonadState.get >>= g) t :=
  next.exchange rfl fun _ => rfl

theorem Tries.eat {x x' y y' : Parse α} {q : α → Bool} {d : Bool} {mark : String} (good : v.Good t)
    (yes : ∀ u, v.Good u → v.Tracks (fun _ => false) (fun _ => d) x y u) (gives : ∀ u, Leads v.outer u y fun a _ => q a = true)
    (no : v.Tries q d x' y' t) :
    v.Tries q d (Parse.eat mark >>= fun b => if b = true then x else x')
      (Parse.eat mark >>= fun b => if b = true then y else y') t := by
  cases here : ahead? t mark with
  | true =>
    refine .found (.eaten good here yes) ?_
    intro a u ran
    rw [eat_here here] at ran
    obtain ⟨⟨_, s⟩, -, rest⟩ := Option.bind_eq_some_iff.mp ran
    exact gives s a u rest
  | false =>
    exact no.exchange (bind_eq (eat_missed here)) fun _ => bind_eq (eat_missed (ahead?_missed good here))

theorem Tries.orElse {d : Bool} {x y : Parse (Option α)} {f g : Option α → Parse (Option α)}
    (first : v.Tries Option.isSome d x y t)
    (done : ∀ a, f (some a) = pure (some a) ∧ g (some a) = pure (some a))
    (second : v.Tries Option.isSome d (f none) (g none) t) :
    v.Tries Option.isSome d (x >>= f) (y >>= g) t := by
  intro b w ran
  obtain ⟨⟨o, u⟩, ran, rest⟩ := Option.bind_eq_some_iff.mp ran
  cases o with
  | some a =>
    have same := (congrFun (congrFun (done a).2 v.outer) u).symm.trans rest
    cases same
    obtain ⟨good, onward, read⟩ := (first _ _ ran).1 rfl
    refine ⟨fun _ => ⟨good, onward, fun near => ?_⟩, nofun⟩
    rw [run_bind, read near]
    exact congrFun (congrFun (done a).1 _) _
  | none =>
    obtain ⟨rfl, read⟩ := (first _ _ ran).2 rfl
    obtain ⟨found, missed⟩ := second b w rest
    refine ⟨fun passing => ?_, fun passing => ?_⟩
    · obtain ⟨good, onward, read'⟩ := found passing
      refine ⟨good, onward, fun near => ?_⟩
      rw [run_bind, read (onward.shown good near)]
      exact read' near
    · obtain ⟨same, read'⟩ := missed passing
      refine ⟨same, fun shown => ?_⟩
      rw [run_bind, read shown]
      exact read' shown

theorem Tries.missed {q : α → Bool} {d : Bool} {a : α} (none : q a = false) : v.Tries q d (pure a) (pure a) t := by
  intro b u ran
  cases ran
  refine ⟨fun found => ?_, fun _ => ⟨rfl, fun _ => rfl⟩⟩
  rw [none] at found
  cases found

theorem wordAhead?_word {s : ParseState} {word : String} (here : wordAhead? s word = true) :
    ∃ n, s.ahead.token = .word n false := by
  rw [wordAhead?] at here
  split at here
  next n same => exact ⟨n, same⟩
  next => cases here

def endsKey? (s : ParseState) : Bool :=
  match s.ahead.token with
  | .punct p => p == "(" || p == "," || p == ":" || p == "\x7d" || p == "=" || p == ";"
  | .endOfText => true
  | _ => false

theorem endsKey_apply (src : Source) (s : ParseState) : Grammar.endsKey src s = some (endsKey? s, s) := by
  have whole : Grammar.endsKey src s = ((match s.ahead.token with
      | .punct p => pure (p == "(" || p == "," || p == ":" || p == "\x7d" || p == "=" || p == ";")
      | .endOfText => pure true
      | _ => pure false : Parse Bool) src s) := rfl
  rw [whole, endsKey?]
  cases s.ahead.token <;> rfl

theorem endsKey?_state (good : v.Good t) (ends : endsKey? t = true) : endsKey? (v.state t) = true := by
  rcases token_state good with same | ⟨last, -⟩
  · rwa [endsKey?, same]
  · rw [endsKey?, last]

theorem Tries.modifier (word : String) {a : α} {q : α → Bool} {c d : Bool} (good : v.Good t) (missed : q a = false)
    (rest : ∀ u, v.Good u → v.Tracks (fun _ => c) (fun _ => d) x y u) (gives : ∀ u, Leads v.outer u y fun a _ => q a = true)
    (link : (d || c) = true) :
    v.Tries q d
      (do if ← eatWord word then
            if ← Grammar.endsKey then set (v.state t); return a else x
          else return a)
      (do if ← eatWord word then
            if ← Grammar.endsKey then set t; return a else y
          else return a) t := by
  cases here : wordAhead? t word with
  | false =>
    exact (Tries.missed missed).exchange (bind_eq (eatWord_missed here)) fun _ =>
      bind_eq (eatWord_missed (wordAhead?_state good ▸ here))
  | true =>
    intro b w ran
    rw [eatWord_here here] at ran
    obtain ⟨⟨⟨⟩, u⟩, passed, -⟩ := Option.bind_eq_some_iff.mp ran
    obtain ⟨good', onward, read⟩ := Tracks.advance good () u passed
    have begun (near : v.Near false u.ahead) {k : Bool → Parse α} :
        (eatWord word >>= k) v.inner (v.state t) = k true v.inner (v.state u) := by
      rw [eatWord_here (wordAhead?_state good ▸ here), bind_eq (read near)]
    rw [bind_eq passed, if_pos rfl, bind_eq (endsKey_apply _ u)] at ran
    cases ends : endsKey? u with
    | true =>
      rw [ends] at ran
      cases ran
      refine ⟨fun found => ?_, fun _ => ⟨rfl, fun shown => ?_⟩⟩
      · rw [missed] at found
        cases found
      · obtain ⟨n, word⟩ := wordAhead?_word here
        obtain ⟨m, follows, near⟩ := shown.2 n false word
        rw [advance_eq follows] at passed
        cases passed
        rw [begun near, if_pos rfl, bind_eq (endsKey_apply _ _), endsKey?_state good' ends]
        rfl
    | false =>
      rw [ends] at ran
      obtain ⟨good'', onward', read'⟩ := rest u good' b w ran
      refine ⟨fun _ => ⟨good'', onward.trans good'.order_stop onward', fun near => ?_⟩, fun none => ?_⟩
      · have inside : u.ahead.stop ≤ v.shift + v.size := by
          rcases Bool.or_eq_true_iff.mp link with deep | passing
          · exact ((deep ▸ onward'.near good'' near : v.Near true u.ahead)).resolve_right (nomatch ·.1)
          · exact (passing ▸ onward').inside good'' near
        rw [begun (.inl inside), if_pos rfl, bind_eq (endsKey_apply _ _), endsKey?, token_same (good'.apart inside),
          ← endsKey?, ends]
        exact read' near
      · rw [gives u b w ran] at none
        cases none

theorem Tracks.retried {x y x' y' : Parse α} {word : String} {d : Bool} {p : α → Bool} (good : v.Good t)
    (here : ∃ n, t.ahead.token = .word n false) (yes : ∀ u, v.Good u → v.Tracks (fun _ => false) (fun _ => d) x y u)
    (no : v.Tracks (fun _ => true) (fun _ => d) x' y' t) :
    v.Tracks p (fun _ => d)
      (do
        Parse.advance
        if (← Parse.isWord word) && !(← Parse.newlineAhead) then x else
          MonadStateOf.set (v.state t)
          x')
      (do
        Parse.advance
        if (← Parse.isWord word) && !(← Parse.newlineAhead) then y else
          MonadStateOf.set t
          y') t := by
  have lines {src : Source} {s : ParseState} : Parse.newlineAhead src s = some (s.ahead.newline, s) := rfl
  intro b w ran
  obtain ⟨⟨⟨⟩, u⟩, passed, -⟩ := Option.bind_eq_some_iff.mp ran
  obtain ⟨good', onward, read⟩ := Tracks.advance good () u passed
  rw [bind_eq passed, bind_eq (isWord_apply word), bind_eq lines] at ran
  cases test : wordAhead? u word && !u.ahead.newline with
  | true =>
    rw [test, if_pos rfl] at ran
    obtain ⟨good'', onward', read'⟩ := yes u good' b w ran
    refine ⟨good'', ?_, fun near => ?_⟩
    · have whole := onward.trans good'.order_stop onward'
      cases p b with
      | true => exact whole
      | false => exact whole.weaken
    · rw [bind_eq (read (onward'.near good'' near).weaken), bind_eq (isWord_apply word), bind_eq lines, wordAhead?_state good',
        newline_state, test]
      exact read' near
  | false =>
    rw [test, if_neg Bool.false_ne_true] at ran
    obtain ⟨good'', onward', read'⟩ := no b w ran
    refine ⟨good'', ?_, fun near => ?_⟩
    · cases p b with
      | true => exact onward'
      | false => exact onward'.weaken
    · obtain ⟨n, named⟩ := here
      obtain ⟨m, follows, close⟩ := (onward'.shown good'' near).2 n false named
      rw [advance_eq follows] at passed
      cases passed
      rw [bind_eq (read close), bind_eq (isWord_apply word), bind_eq lines, wordAhead?_state good', newline_state, test]
      exact read' near

end Again

end Enclosed

end BoundedScript.Script
