import BoundedScript.Proofs.Script.Enclosed.Statements
import BoundedScript.Proofs.Script.Operands

set_option autoImplicit false

namespace BoundedScript.Script.Grammar

open Parse

variable {G : Grammar} {src : Source} {s u : ParseState}

theorem bind_first {α β : Type} {x : Parse α} {f : α → Parse β} {b : β} (ran : (x >>= f) src s = some (b, u)) :
    ∃ a t, x src s = some (a, t) ∧ f a src t = some (b, u) := by
  obtain ⟨⟨a, t⟩, first, rest⟩ := Option.bind_eq_some_iff.mp ran
  exact ⟨a, t, first, rest⟩

section Operand

variable {p : String} (mark : s.ahead.token = .punct p) (bracket : p ∈ ["(", ")", "..."])
include mark bracket

theorem unaryExpr_starts {r : Expr × Bool} (ran : unaryExpr G src s = some (r, u)) : ∃ e t, primary G src s = some (e, t) := by
  have operand : unaryExpr G src s = (do return (← postfixOps (← leftHandSide G), false) : Parse (Expr × Bool)) src s := by
    rw [unaryExpr, bind_eq token_apply, mark]
    simp only [List.mem_cons, List.not_mem_nil, or_false] at bracket
    rcases bracket with rfl | rfl | rfl <;> rfl
  rw [operand] at ran
  obtain ⟨e, t, first, -⟩ := bind_first ran
  obtain ⟨e, t, first, -⟩ := bind_first first
  exact ⟨e, t, first⟩

theorem binary_starts {allowIn : Bool} {levels : List (List (String × BinaryOp))} {e : Expr}
    (ran : binary G allowIn levels src s = some (e, u)) : ∃ e t, primary G src s = some (e, t) := by
  induction levels generalizing e u with
  | nil =>
    obtain ⟨r, t, first, -⟩ := bind_first ran
    exact unaryExpr_starts mark bracket first
  | cons ops tighter ih =>
    obtain ⟨left, t, first, -⟩ := bind_first ran
    exact ih first

theorem assignExpr_starts {allowIn : Bool} {e : Expr} (ran : assignExpr G allowIn src s = some (e, u)) :
    ∃ e t, primary G src s = some (e, t) := by
  have got : (get : Parse ParseState) src s = some (s, s) := rfl
  have begun : start src s = some (s.ahead.start, s) := rfl
  have wordless : wordAhead? s "yield" = false := by rw [wordAhead?, mark]
  rw [assignExpr, bind_eq got, bind_eq (isWord_apply _), wordless, Bool.and_false, if_neg Bool.false_ne_true,
    bind_eq begun] at ran
  obtain ⟨left, t, first, -⟩ := bind_first ran
  obtain ⟨test, t, first, -⟩ := bind_first first
  obtain ⟨left, t, first, -⟩ := bind_first first
  exact binary_starts mark bracket first

end Operand

section Bracket

variable (mark : s.ahead.token = .punct "(")
include mark

theorem statementBody_starts {b : Stmt}
    (ran : statementBody (next (next G)) src s = some (b, u)) : ∃ e t, primary G src s = some (e, t) := by
  have begun : start src s = some (s.ahead.start, s) := rfl
  rw [statementBody, bind_eq begun, bind_eq token_apply, mark] at ran
  obtain ⟨e, t, first, -⟩ := bind_first ran
  obtain ⟨e, t, first, -⟩ := bind_first first
  exact assignExpr_starts mark (by decide) first

theorem primary_bracket : primary G src s = (Lexer.next src s.ahead.stop).bind fun l =>
    parenthesized G s.ahead.start src { s with ahead := l, lastStop := s.ahead.stop } := by
  have begun : start src s = some (s.ahead.start, s) := rfl
  have whole : (do advance; parenthesized G s.ahead.start : Parse Expr) src s =
      (advance src s).bind fun r => parenthesized G s.ahead.start src r.2 := rfl
  rw [primary, bind_eq begun, bind_eq token_apply, mark]
  refine whole.trans ?_
  rw [advance_apply]
  cases Lexer.next src s.ahead.stop <;> rfl

end Bracket

-- What ends the items between brackets starts none.
theorem assign_refuses {p : String} (mark : s.ahead.token = .punct p) (ends : p = ")" ∨ p = "...") :
    (Grammar.next G).assign true src s = Option.none := by
  have begun : start src s = some (s.ahead.start, s) := rfl
  have refused : primary G src s = Option.none := by
    rcases ends with rfl | rfl <;> rw [primary, bind_eq begun, bind_eq token_apply, mark] <;> rfl
  have bracket : p ∈ ["(", ")", "..."] := by
    rcases ends with rfl | rfl <;> decide
  refine Option.eq_none_iff_forall_ne_some.mpr fun r ran => ?_
  obtain ⟨e, t, first⟩ := assignExpr_starts mark bracket ran
  cases refused.symm.trans first

def commaStep (G : Grammar) (e : Expr) : Parse (Expr ⊕ Expr) := do
  if ← eat "," then return .inl (.comma e (← G.assign true)) else return .inr e

theorem commaExpr_eq (G : Grammar) : commaExpr G true = (do
    let e ← G.assign true
    loop (commaStep G) e (← rounds)) :=
  rfl

theorem expect_passes {mark : String} {r : Unit} (ran : expect mark src s = some (r, u)) :
    ahead? s mark = true ∧ advance src s = some ((), u) := by
  rw [expect] at ran
  cases here : ahead? s mark with
  | true =>
    rw [Enclosed.eat_here here] at ran
    obtain ⟨_, t, passed, rest⟩ := bind_first ran
    cases rest
    exact ⟨rfl, passed⟩
  | false =>
    rw [bind_eq (eat_missed here)] at ran
    cases ran

theorem itemStep_closed (closing : ahead? s ")" = true) {items : List Expr} {plain : Bool}
    {r : (List Expr × Bool) ⊕ (List Expr × Bool)} (ran : itemStep G (items, plain) src s = some (r, u)) :
    advance src s = some ((), u) ∧ r = .inr (items.reverse, plain && !items.isEmpty) := by
  rw [itemStep, Enclosed.eat_here closing] at ran
  obtain ⟨_, t, passed, rest⟩ := bind_first ran
  cases rest
  exact ⟨passed, rfl⟩

theorem itemStep_cases (opened : ahead? s ")" = false) {items : List Expr} {plain : Bool}
    {r : (List Expr × Bool) ⊕ (List Expr × Bool)} (ran : itemStep G (items, plain) src s = some (r, u)) :
    (ahead? s "..." = true ∧ ∃ e s₁ s₂, advance src s = some ((), s₁) ∧ G.assign true src s₁ = some (e, s₂) ∧
      ahead? s₂ ")" = true ∧ advance src s₂ = some ((), u) ∧ r = .inr ((Expr.spread e :: items).reverse, false)) ∨
    (ahead? s "..." = false ∧ ∃ e, G.assign true src s = some (e, u) ∧ ahead? u ")" = true ∧ r = .inl (e :: items, plain)) ∨
    (ahead? s "..." = false ∧ ∃ e s₁, G.assign true src s = some (e, s₁) ∧ ahead? s₁ "," = true ∧
      advance src s₁ = some ((), u) ∧ r = .inl (e :: items, !ahead? u ")")) := by
  rw [itemStep, bind_eq (eat_missed opened), if_neg Bool.false_ne_true] at ran
  cases spread : ahead? s "..." with
  | true =>
    rw [Enclosed.eat_here spread] at ran
    obtain ⟨_, s₁, passed, ran⟩ := bind_first ran
    obtain ⟨e, s₂, item, ran⟩ := bind_first ran
    obtain ⟨_, s₃, closed, rest⟩ := bind_first ran
    cases rest
    obtain ⟨closing, closed⟩ := expect_passes closed
    exact .inl ⟨rfl, e, s₁, s₂, passed, item, closing, closed, rfl⟩
  | false =>
    rw [bind_eq (eat_missed spread), if_neg Bool.false_ne_true] at ran
    obtain ⟨e, s₁, item, ran⟩ := bind_first ran
    rw [bind_eq (isPunct_apply ")")] at ran
    cases closing : ahead? s₁ ")" with
    | true =>
      rw [closing] at ran
      cases ran
      exact .inr (.inl ⟨rfl, e, item, closing, rfl⟩)
    | false =>
      rw [closing, if_neg Bool.false_ne_true] at ran
      obtain ⟨_, s₂, comma, ran⟩ := bind_first ran
      rw [bind_eq (isPunct_apply ")")] at ran
      cases ran
      obtain ⟨comma, passed⟩ := expect_passes comma
      exact .inr (.inr ⟨rfl, e, s₁, item, comma, passed, rfl⟩)

theorem ahead?_other {p q : String} (here : ahead? s p = true) (other : p ≠ q) : ahead? s q = false := by
  rw [ahead?_iff] at here
  rw [Bool.eq_false_iff, ne_eq, ahead?_iff, here, Token.punct.injEq]
  exact other

section Steps

variable {items : List Expr} {plain : Bool} {e : Expr} {s' : ParseState}

theorem itemStep_end (closing : ahead? s ")" = true) (passed : advance src s = some ((), u)) :
    itemStep G (items, plain) src s = some (.inr (items.reverse, plain && !items.isEmpty), u) := by
  rw [itemStep, Enclosed.eat_here closing, bind_eq passed]
  rfl

variable (opened : ahead? s ")" = false) (spread : ahead? s "..." = false) (item : G.assign true src s = some (e, s'))
include opened spread item

theorem itemStep_last (closing : ahead? s' ")" = true) :
    itemStep G (items, plain) src s = some (.inl (e :: items, plain), s') := by
  rw [itemStep, bind_eq (eat_missed opened), if_neg Bool.false_ne_true, bind_eq (eat_missed spread), if_neg Bool.false_ne_true,
    bind_eq item, bind_eq (isPunct_apply ")"), closing]
  rfl

theorem itemStep_more (comma : ahead? s' "," = true) (passed : advance src s' = some ((), u)) :
    itemStep G (items, plain) src s = some (.inl (e :: items, !ahead? u ")"), u) := by
  have taken : expect "," src s' = some ((), u) := by
    rw [expect, Enclosed.eat_here comma, bind_eq passed]
    rfl
  rw [itemStep, bind_eq (eat_missed opened), if_neg Bool.false_ne_true, bind_eq (eat_missed spread), if_neg Bool.false_ne_true,
    bind_eq item, bind_eq (isPunct_apply ")"), ahead?_other comma (by decide), if_neg Bool.false_ne_true, bind_eq taken,
    bind_eq (isPunct_apply ")")]
  rfl

end Steps

theorem items_closed (closing : ahead? s ")" = true) {items : List Expr} {plain : Bool} {n : Nat} {r : List Expr × Bool}
    (ran : loop (itemStep G) (items, plain) n src s = some (r, u)) :
    advance src s = some ((), u) ∧ r = (items.reverse, plain && !items.isEmpty) ∧ 0 < n := by
  cases n with
  | zero => cases ran
  | succ n =>
    obtain ⟨c, t, once, rest⟩ := bind_first ran
    obtain ⟨passed, rfl⟩ := itemStep_closed closing once
    cases rest
    exact ⟨passed, rfl, Nat.succ_pos n⟩

theorem commas_done (ended : ahead? s "," = false) (left : Expr) {m : Nat} (positive : 0 < m) :
    loop (commaStep G) left m src s = some (left, s) := by
  obtain ⟨m, rfl⟩ := Nat.exists_eq_succ_of_ne_zero positive.ne'
  refine Parse.loop_done m ?_
  rw [commaStep, bind_eq (eat_missed ended)]
  rfl

theorem commas_more {s₁ s₂ : ParseState} {e : Expr} (comma : ahead? s "," = true) (passed : advance src s = some ((), s₁))
    (item : G.assign true src s₁ = some (e, s₂)) (left : Expr) (m : Nat) :
    loop (commaStep G) left (m + 1) src s = loop (commaStep G) (.comma left e) m src s₂ := by
  refine Parse.loop_again m ?_
  rw [commaStep, Enclosed.eat_here comma, bind_eq passed]
  exact bind_eq item

theorem items_commas {items : List Expr} {plain : Bool} {n m : Nat} {r : List Expr × Bool} {e left x : Expr} {s₁ t : ParseState}
    (read : loop (itemStep (Grammar.next G)) (items, plain) n src s = some (r, u))
    (first : (Grammar.next G).assign true src s = some (e, s₁))
    (ran : loop (commaStep (Grammar.next G)) left m src s₁ = some (x, t)) : ahead? t ")" = true := by
  have starts {p : String} {s s₁ : ParseState} {e : Expr} (first : (Grammar.next G).assign true src s = some (e, s₁))
      (ends : p = ")" ∨ p = "...") : ahead? s p = false := by
    by_contra mark
    cases first.symm.trans (assign_refuses (ahead?_iff.mp (Bool.not_eq_false _ ▸ mark)) ends)
  induction n generalizing s items plain e left s₁ m with
  | zero => cases read
  | succ n ih =>
    obtain ⟨c, s', once, rest⟩ := bind_first read
    cases m with
    | zero => cases ran
    | succ m =>
      rcases itemStep_cases (starts first (.inl rfl)) once with ⟨spread, -⟩ | ⟨-, e', item, closing, rfl⟩ |
        ⟨-, e', s₂, item, comma, passed, rfl⟩
      · cases spread.symm.trans (starts first (.inr rfl))
      · cases first.symm.trans item
        rw [commas_done (ahead?_other closing (by decide)) left (Nat.succ_pos m)] at ran
        cases ran
        exact closing
      · cases first.symm.trans item
        obtain ⟨d, s₃, again, more⟩ := bind_first ran
        rw [commaStep, Enclosed.eat_here comma, bind_eq passed] at again
        obtain ⟨e₂, s₄, second, same⟩ := bind_first again
        cases same
        exact ih rest second more

theorem commaExpr_closes {r : List Expr × Bool} {x : Expr} {t : ParseState} (read : items (Grammar.next G) src s = some (r, u))
    (ran : commaExpr (Grammar.next G) true src s = some (x, t)) : ahead? t ")" = true := by
  rw [commaExpr_eq] at ran
  obtain ⟨e, s₁, first, ran⟩ := bind_first ran
  rw [items_apply] at read
  exact items_commas read first ran

theorem items_end {v : Enclosed} (tracking : v.Tracking G) {items : List Expr} {plain : Bool} {n : Nat} {r : List Expr × Bool}
    (good : v.Good s) (ran : loop (itemStep G) (items, plain) n v.outer s = some (r, u)) :
    ∃ t, v.Good t ∧ v.Onward false s.ahead t.ahead ∧ ahead? t ")" = true ∧ advance v.outer t = some ((), u) ∧
      (r.2 = true → ahead? s ")" = false → ∃ e s₁ more,
        G.assign true v.outer s = some (e, s₁) ∧ r.1 = items.reverse ++ e :: more ∧
        ∀ left m, n ≤ m → loop (commaStep G) left m v.outer s₁ = some (more.foldl .comma left, t)) := by
  induction n generalizing s items plain with
  | zero => cases ran
  | succ n ih =>
    cases closing : ahead? s ")" with
    | true =>
      obtain ⟨passed, -, -⟩ := items_closed closing ran
      exact ⟨s, good, .refl _, closing, passed, nofun⟩
    | false =>
      obtain ⟨c, s', once, rest⟩ := bind_first ran
      rcases itemStep_cases closing once with ⟨-, e, s₁, s₂, passed, item, closing, closed, rfl⟩ | ⟨-, e, item, closing, rfl⟩ |
        ⟨-, e, s₁, item, comma, passed, rfl⟩
      · cases rest
        obtain ⟨good₁, onward₁, -⟩ := Enclosed.Tracks.advance good _ _ passed
        obtain ⟨good₂, onward₂, -⟩ := tracking.assign true s₁ good₁ _ _ item
        exact ⟨s₂, good₂, (onward₁.trans good₁.order_stop onward₂).weaken, closing, closed, nofun⟩
      · obtain ⟨good', onward, -⟩ := tracking.assign true s good _ _ item
        obtain ⟨closed, rfl, positive⟩ := items_closed closing rest
        refine ⟨s', good', onward.weaken, closing, closed, fun _ _ =>
          ⟨e, s', [], item, List.reverse_cons, fun left m enough => ?_⟩⟩
        exact commas_done (ahead?_other closing (by decide)) left (Nat.zero_lt_of_lt enough)
      · obtain ⟨good₁, onward₁, -⟩ := tracking.assign true s good _ _ item
        obtain ⟨good', onward', -⟩ := Enclosed.Tracks.advance good₁ _ _ passed
        obtain ⟨t, goodₜ, onwardₜ, closing, closed, more⟩ := ih good' rest
        refine ⟨t, goodₜ, ((onward₁.trans good₁.order_stop onward').trans good'.order_stop onwardₜ).weaken, closing, closed,
          fun plain _ => ?_⟩
        cases next : ahead? s' ")" with
        | true =>
          obtain ⟨-, rfl, -⟩ := items_closed next rest
          rw [next] at plain
          cases plain
        | false =>
          obtain ⟨e', s₂, others, item', same, commas⟩ := more plain next
          refine ⟨e, s₁, e' :: others, item, by rw [same, List.reverse_cons, List.append_assoc]; rfl, fun left m enough => ?_⟩
          obtain ⟨m, rfl⟩ := Nat.exists_eq_succ_of_ne_zero (Nat.zero_lt_of_lt enough).ne'
          rw [commas_more comma passed item']
          exact commas _ m (Nat.le_of_succ_le_succ enough)

theorem advance_cases (passed : advance src s = some ((), u)) :
    ∃ l, Lexer.next src s.ahead.stop = some l ∧ u = { s with ahead := l, lastStop := s.ahead.stop } := by
  rw [advance_apply] at passed
  obtain ⟨l, follows, same⟩ := Option.map_eq_some_iff.mp passed
  exact ⟨l, follows, (Prod.mk.inj same).2.symm⟩

-- A bracket that ends behind the common part is the one that stands there.
theorem starts_at_edge {v : Enclosed} (good : v.Good s) (closing : ahead? s ")" = true)
    (passed : advance v.outer s = some ((), u))
    (last : u.lastStop = v.edge + 1) : s.ahead.start = v.edge := by
  have real := good.real
  rw [ahead?_iff.mp closing] at real
  obtain ⟨-, stop⟩ := Lexer.tokenAt_punct real
  obtain ⟨l, -, rfl⟩ := advance_cases passed
  have stop : s.ahead.stop = s.ahead.start + 1 := stop
  have last : s.ahead.stop = v.edge + 1 := last
  omega

theorem items_again {v : Enclosed} (tracking : v.Tracking G) (closer : v.closing.token = .punct ")") {items : List Expr}
    {plain : Bool} {n : Nat} {r : List Expr × Bool} (good : v.Good s)
    (ran : loop (itemStep G) (items, plain) n v.outer s = some (r, u)) (whole : r.2 = true) (last : u.lastStop = v.edge + 1) :
    ∃ t, v.Good t ∧ v.Onward false s.ahead t.ahead ∧ t.ahead.start = v.edge ∧ advance v.outer t = some ((), u) ∧
      ∀ u', advance v.inner (v.state t) = some ((), u') → ∀ m, n ≤ m →
        loop (itemStep G) (items, plain) m v.inner (v.state s) = some (r, u') := by
  have same {s : ParseState} (good : v.Good s) {mark : String} : ahead? (v.state s) mark = ahead? s mark := by
    rw [ahead?, ahead?]
    by_cases ends : s.ahead.start = v.edge
    · rw [Enclosed.token_ends ends, closer, (good.bracket ends).1]
    · rw [Enclosed.token_same ends]
  induction n generalizing s items plain with
  | zero => cases ran
  | succ n ih =>
    cases closing : ahead? s ")" with
    | true =>
      obtain ⟨passed, rfl, -⟩ := items_closed closing ran
      refine ⟨s, good, .refl _, starts_at_edge good closing passed last, passed, fun u' passed' m enough => ?_⟩
      obtain ⟨m, rfl⟩ := Nat.exists_eq_succ_of_ne_zero (Nat.zero_lt_of_lt enough).ne'
      exact Parse.loop_done m (itemStep_end ((same good).trans closing) passed')
    | false =>
      obtain ⟨c, s', once, rest⟩ := bind_first ran
      rcases itemStep_cases closing once with ⟨-, e, s₁, s₂, -, -, -, -, rfl⟩ | ⟨spread, e, item, closing', rfl⟩ |
        ⟨spread, e, s₁, item, comma, passed, rfl⟩
      · cases rest
        cases whole
      · obtain ⟨good', onward, read⟩ := tracking.assign true s good _ _ item
        obtain ⟨t, goodₜ, onwardₜ, ends, passed, again⟩ := ih good' rest
        refine ⟨t, goodₜ, (onward.trans good'.order_stop onwardₜ).weaken, ends, passed, fun u' passed' m enough => ?_⟩
        obtain ⟨m, rfl⟩ := Nat.exists_eq_succ_of_ne_zero (Nat.zero_lt_of_lt enough).ne'
        have near := onwardₜ.near goodₜ (.inr ⟨rfl, ends⟩)
        rw [Parse.loop_again m (itemStep_last ((same good).trans closing) ((same good).trans spread) (read near)
          ((same good').trans closing'))]
        exact again u' passed' m (Nat.le_of_succ_le_succ enough)
      · obtain ⟨good₁, onward₁, read⟩ := tracking.assign true s good _ _ item
        obtain ⟨good', onward', moves⟩ := Enclosed.Tracks.advance good₁ _ _ passed
        obtain ⟨t, goodₜ, onwardₜ, ends, passed, again⟩ := ih good' rest
        refine ⟨t, goodₜ, ((onward₁.trans good₁.order_stop onward').trans good'.order_stop onwardₜ).weaken, ends, passed,
          fun u' passed' m enough => ?_⟩
        obtain ⟨m, rfl⟩ := Nat.exists_eq_succ_of_ne_zero (Nat.zero_lt_of_lt enough).ne'
        have near := onwardₜ.near goodₜ (.inr ⟨rfl, ends⟩)
        rw [Parse.loop_again m (itemStep_more ((same good).trans closing) ((same good).trans spread)
          (read (onward'.near good' near).weaken) ((same good₁).trans comma) (moves near)), same good']
        exact again u' passed' m (Nat.le_of_succ_le_succ enough)

theorem parenthesized_again {v : Enclosed} (tracking : v.Tracking G) (closer : v.closing.token = .punct ")")
    (longer : v.outer.size ≤ v.inner.size) (good : v.Good s) {first first' : Nat} {e : Expr}
    (ran : parenthesized G first v.outer s = some (e, u)) (arrowless : ahead? u "=>" = false) (last : u.lastStop = v.edge + 1) :
    ∃ t, v.Good t ∧ v.Onward false s.ahead t.ahead ∧ t.ahead.start = v.edge ∧ advance v.outer t = some ((), u) ∧
      ∀ u', advance v.inner (v.state t) = some ((), u') → ahead? u' "=>" = false →
        parenthesized G first' v.inner (v.state s) = some (e, u') := by
  rw [parenthesized_eq] at ran
  obtain ⟨⟨items, plain⟩, t', read, ran⟩ := bind_first ran
  dsimp only at ran
  rw [bind_eq (isPunct_apply "=>")] at ran
  cases arrow : ahead? t' "=>" with
  | true =>
    rw [arrow, if_pos rfl] at ran
    cases ran
    exact absurd arrow (Bool.eq_false_iff.mp arrowless)
  | false =>
    rw [arrow, if_neg Bool.false_ne_true] at ran
    cases plain with
    | false => cases ran
    | true =>
      cases items with
      | nil => cases ran
      | cons e' rest =>
        cases ran
        obtain ⟨t, goodₜ, onward, ends, passed, again⟩ := items_again tracking closer good read rfl last
        refine ⟨t, goodₜ, onward, ends, passed, fun u' passed' arrowless' => ?_⟩
        have whole := again u' passed' _ (Nat.add_le_add_right longer 2)
        rw [← items_apply] at whole
        rw [parenthesized_eq, bind_eq whole]
        dsimp only
        rw [bind_eq (isPunct_apply "=>"), arrowless']
        rfl

theorem parenthesized_end {v : Enclosed} (tracking : v.Tracking G) (good : v.Good s) {first : Nat} {e : Expr}
    (ran : parenthesized G first v.outer s = some (e, u)) :
    ∃ t t', v.Good t ∧ v.Onward false s.ahead t.ahead ∧ ahead? t ")" = true ∧ advance v.outer t = some ((), t') ∧
      ((∃ r, items G v.outer s = some (r, t') ∧ ahead? t' "=>" = true) ∨
        ∃ x, commaExpr G true v.outer s = some (x, t) ∧ e = .paren x ∧ u = t') := by
  rw [parenthesized_eq] at ran
  obtain ⟨⟨items, plain⟩, t', read, ran⟩ := bind_first ran
  obtain ⟨t, goodₜ, onward, closing, closed, more⟩ := items_end tracking good read
  refine ⟨t, t', goodₜ, onward, closing, closed, ?_⟩
  dsimp only at ran
  rw [bind_eq (isPunct_apply "=>")] at ran
  cases arrow : ahead? t' "=>" with
  | true =>
    exact .inl ⟨_, read, rfl⟩
  | false =>
    rw [arrow, if_neg Bool.false_ne_true] at ran
    cases plain with
    | false => cases ran
    | true =>
      rw [if_pos rfl] at ran
      cases opened : ahead? s ")" with
      | true =>
        obtain ⟨-, same, -⟩ := items_closed opened read
        cases same
      | false =>
        obtain ⟨e, s₁, others, item, same, commas⟩ := more rfl opened
        cases same
        cases ran
        have rounds : rounds v.outer s₁ = some (v.outer.size + 2, s₁) := rfl
        refine .inr ⟨_, ?_, rfl, rfl⟩
        rw [commaExpr_eq, bind_eq item, bind_eq rounds]
        exact commas e _ (Nat.le_refl _)

end BoundedScript.Script.Grammar
