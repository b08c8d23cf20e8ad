import BoundedScript.Proofs.Script.Marks
import BoundedScript.Proofs.Script.Tokens
import BoundedScript.Proofs.Script.Twins

set_option autoImplicit false

namespace BoundedScript.Script

def Leads {α : Type} (src : Source) (s : ParseState) (x : Parse α) (Q : α → ParseState → Prop) : Prop :=
  ∀ a t, x src s = some (a, t) → Q a t

namespace Leads

variable {α β : Type} {src : Source} {s t : ParseState} {x : Parse α} {P Q : α → ParseState → Prop}
  {R : β → ParseState → Prop}

theorem of_eq {a : α} (ran : x src s = some (a, t)) (good : Q a t) : Leads src s x Q := by
  intro b u same
  cases ran.symm.trans same
  exact good

theorem pure {a : α} (good : Q a s) : Leads src s (Pure.pure a) Q :=
  of_eq rfl good

theorem failure : Leads src s (Alternative.failure : Parse α) Q := by
  intro a t same
  cases same

theorem imp (leads : Leads src s x P) (good : ∀ a t, P a t → Q a t) : Leads src s x Q :=
  fun a t same => good a t (leads a t same)

theorem bind {f : α → Parse β} (first : Leads src s x P) (next : ∀ a t, P a t → Leads src t (f a) R) :
    Leads src s (x >>= f) R := by
  intro b u same
  obtain ⟨⟨a, t⟩, ran, rest⟩ := Option.bind_eq_some_iff.mp same
  exact next a t (first a t ran) b u rest

theorem after {f : α → Parse β} (next : ∀ a t, Leads src t (f a) R) : Leads src s (x >>= f) R :=
  bind (P := fun _ _ => True) (fun _ _ _ => trivial) fun a t _ => next a t

-- What gives up leads nowhere.
theorem stop {f : α → Parse β} (never : Leads src s x fun _ _ => False) : Leads src s (x >>= f) R :=
  never.bind fun _ _ absurd => absurd.elim

theorem behind {f : α → Parse β} {a : α} (ran : x src s = some (a, s)) (next : Leads src s (f a) R) :
    Leads src s (x >>= f) R := by
  have first : Leads src s x fun b t => b = a ∧ t = s := of_eq ran ⟨rfl, rfl⟩
  refine first.bind fun b t known => ?_
  obtain ⟨rfl, rfl⟩ := known
  exact next

theorem loop {step : α → Parse (α ⊕ β)} {I : α → ParseState → Prop}
    (each : ∀ a t, I a t → Leads src t (step a) fun r u => (∃ b, r = .inl b ∧ I b u) ∨ ∃ b, r = .inr b ∧ R b u)
    (fuel : Nat) {a : α} (first : I a s) : Leads src s (Parse.loop step a fuel) R := by
  induction fuel generalizing a s with
  | zero => exact failure
  | succ fuel ih =>
    rw [Parse.loop]
    refine (each a s first).bind fun r t done => ?_
    rcases done with ⟨b, rfl, again⟩ | ⟨b, rfl, good⟩
    · exact ih again
    · exact pure good

end Leads

structure Bare (src : Source) (s : ParseState) : Prop where
  marked : Lexer.IsMarked src s.ahead
  rest : Lexer.Marks src s.ahead.stop
  ends : s.ahead.start ≤ s.ahead.stop
  head : ∀ h, s.arrowHead = some h → h.isAsync = false ∧ ∀ e ∈ h.params, Plain .bare e

structure Onward (src : Source) (s t : ParseState) : Prop where
  bare : Bare src t
  scopes : t.scopes = s.scopes
  within : t.within = s.within

def ArrowAhead (s : ParseState) : Prop :=
  s.ahead.token = .punct "=>"

theorem Bare.onward {src : Source} {s : ParseState} (bare : Bare src s) : Onward src s s :=
  ⟨bare, rfl, rfl⟩

theorem Onward.trans {src : Source} {s t u : ParseState} (first : Onward src s t) (second : Onward src t u) :
    Onward src s u :=
  ⟨second.bare, second.scopes.trans first.scopes, second.within.trans first.within⟩

theorem Bare.comes {src : Source} {s : ParseState} (bare : Bare src s) {i j : Nat} {l : Lexeme}
    (rest : Lexer.Marks src i) (read : Lexer.next src i = some l) :
    Onward src s { s with ahead := l, lastStop := j } := by
  obtain ⟨first, ends, marked⟩ := Lexer.next_marked rest read
  exact ⟨⟨marked, rest.later (Nat.le_trans first ends), ends, bare.head⟩, rfl, rfl⟩

theorem Bare.wordless {src : Source} {s : ParseState} (bare : Bare src s) (w : String) : Parse.wordAhead? s w = false := by
  have marked := bare.marked
  rw [Lexer.IsMarked] at marked
  rw [Parse.wordAhead?]
  split
  next same =>
    rw [same] at marked
    exact marked.elim
  next => rfl

namespace Parse

variable {src : Source} {s : ParseState}

theorem advance_onward (bare : Bare src s) : Leads src s advance fun _ t => Onward src s t := by
  intro a t ran
  rw [advance_apply] at ran
  obtain ⟨l, read, same⟩ := Option.map_eq_some_iff.mp ran
  cases same
  exact bare.comes bare.rest read

theorem resumeAt_onward (bare : Bare src s) {i : Nat} (rest : Lexer.Marks src i) :
    Leads src s (resumeAt i) fun _ t => Onward src s t := by
  intro a t ran
  rw [resumeAt_apply] at ran
  obtain ⟨l, read, same⟩ := Option.map_eq_some_iff.mp ran
  cases same
  exact bare.comes rest read

theorem eat_onward (bare : Bare src s) (p : String) : Leads src s (eat p) fun b t =>
    (b = true ∧ s.ahead.token = .punct p ∧ Onward src s t) ∨ (b = false ∧ t = s ∧ s.ahead.token ≠ .punct p) := by
  refine .behind (isPunct_apply p) ?_
  cases here : ahead? s p with
  | true => exact (advance_onward bare).bind fun _ t onward => .pure (.inl ⟨rfl, ahead?_iff.mp here, onward⟩)
  | false =>
    refine .pure (.inr ⟨rfl, rfl, fun same => ?_⟩)
    rw [ahead?_iff.mpr same] at here
    cases here

theorem expect_onward (bare : Bare src s) (p : String) : Leads src s (expect p) fun _ t =>
    s.ahead.token = .punct p ∧ Onward src s t := by
  refine (eat_onward bare p).bind fun b t eaten => ?_
  rcases eaten with ⟨rfl, here, onward⟩ | ⟨rfl, -⟩
  · exact .pure ⟨here, onward⟩
  · exact .failure

end Parse

theorem Bare.unmarked {src : Source} {s : ParseState} (bare : Bare src s) {p : String}
    (foreign : p.toList.any (fun c => !Lexer.isMark c) = true) : s.ahead.token ≠ .punct p := by
  intro same
  have marked := bare.marked
  rw [Lexer.IsMarked, same] at marked
  obtain ⟨c, inside, apart⟩ := List.any_eq_true.mp foreign
  rw [marked.1 c inside] at apart
  cases apart

-- Without names there is nothing that could be assigned to.
theorem toPattern_plain {e : Expr} (plain : Plain .bare e) (binding : Bool) (fuel : Nat) : toPattern binding fuel e = none := by
  cases fuel with
  | zero => rfl
  | succ fuel =>
    have within : ∀ {e}, Plain .bare e → toPattern binding (fuel + 1) (.paren e) = none := by
      intro e plain
      induction plain with
      | fetched fetches => exact absurd rfl fetches.ne_nil
      | unknown free | fixed free | figure free => exact absurd free IsFree.not_bare
      | paren _ ih => exact ih
      | _ => rfl
    cases plain with
    | fetched fetches => exact absurd rfl fetches.ne_nil
    | unknown free | fixed free | figure free => exact absurd free IsFree.not_bare
    | paren inner => exact within inner
    | _ => rfl

namespace Grammar

open Parse

variable {G : Grammar} {src : Source} {s : ParseState}

theorem pattern_fails {e : Expr} (plain : Plain .bare e) (binding : Bool) {Q : Pattern → ParseState → Prop} :
    Leads src s (pattern binding e) Q := by
  rw [pattern, toPattern_plain plain]
  exact .failure

-- What the reader of an arrow gets where its parameters should stand.
def Hollow : Expr → Prop
  | .absent | .unary _ _ | .binary _ _ _ | .logical _ _ _ | .chain _ => True
  | _ => False

-- What may be left for a reader that hands over what it has to the reader of an arrow.
def Open (e : Expr) (s : ParseState) : Prop :=
  Plain .bare e ∨ (ArrowAhead s ∧ Hollow e)

theorem Open.plain {e : Expr} (opened : Open e s) {p : String} (here : s.ahead.token = .punct p) (other : p ≠ "=>") :
    Plain .bare e := by
  refine opened.resolve_right fun hollow => other ?_
  exact Token.punct.inj (here.symm.trans hollow.1)

theorem Open.within {e d : Expr} (opened : Open e s) (whole : Plain .bare e → Plain .bare d) (hollow : Hollow d) : Open d s :=
  opened.imp whole fun ahead => ⟨ahead.1, hollow⟩

theorem simpleTarget_fails {e : Expr} (opened : Open e s) {Q : Expr → ParseState → Prop} :
    Leads src s (postfixOps.simpleTarget e) Q := by
  rw [postfixOps.simpleTarget]
  rcases opened with plain | ⟨-, hollow⟩
  · have bare := plain.unparen
    generalize e.unparen = u at bare
    cases bare with
    | fetched fetches => exact absurd rfl fetches.ne_nil
    | unknown free | fixed free | figure free => exact absurd free IsFree.not_bare
    | _ => exact .failure
  · cases e <;> first | exact .failure | exact hollow.elim

/-- Readers that find nothing but operators, constants and arrows where no word stands. -/
structure Letterless (G : Grammar) : Prop where
  expr : ∀ src s b, Bare src s → Leads src s (G.expr b) fun e t => Onward src s t ∧ Plain .bare e
  assign : ∀ src s b, Bare src s → Leads src s (G.assign b) fun e t => Onward src s t ∧ Plain .bare e
  unary : ∀ src s, Bare src s → Leads src s G.unary fun e t => Onward src s t ∧ Open e t
  power : ∀ src s, Bare src s → Leads src s G.power fun e t => Onward src s t ∧ Open e t
  statement : ∀ src s, Bare src s → Leads src s G.statement fun d t => Onward src s t ∧ PlainStmt .bare d

section

variable (letterless : Letterless G) (bare : Bare src s)
include letterless bare

theorem arguments_plain : Leads src s (arguments G) fun args t => Onward src s t ∧ ∀ e ∈ args, Plain .bare e := by
  refine (expect_onward bare "(").bind fun _ t opened => ?_
  have rounds : rounds src t = some (src.size + 2, t) := rfl
  refine .behind rounds ?_
  refine Leads.loop (I := fun acc u => Onward src s u ∧ ∀ e ∈ acc, Plain .bare e) ?_ _
    ⟨opened.2, fun _ inside => by cases inside⟩
  rintro acc u ⟨onward, each⟩
  refine (eat_onward onward.bare ")").bind fun b v eaten => ?_
  rcases eaten with ⟨rfl, -, closed⟩ | ⟨rfl, rfl, -⟩
  · refine .pure (.inr ⟨_, rfl, onward.trans closed, fun e inside => each e (List.mem_reverse.mp inside)⟩)
  · have next : ∀ e v, Onward src s v → Plain .bare e → Leads src v (do
        if !(← isPunct ")") then expect ","
        return Sum.inl (e :: acc) : Parse (List Expr ⊕ List Expr)) fun r u =>
        (∃ b, r = .inl b ∧ Onward src s u ∧ ∀ e ∈ b, Plain .bare e) ∨
          ∃ b, r = .inr b ∧ Onward src s u ∧ ∀ e ∈ b, Plain .bare e := by
      intro e v onward plain
      have more : ∀ e' ∈ e :: acc, Plain .bare e' := List.forall_mem_cons.mpr ⟨plain, each⟩
      refine .behind (isPunct_apply ")") ?_
      cases ahead? v ")" with
      | true => exact .pure (.inl ⟨_, rfl, onward, more⟩)
      | false =>
        refine (expect_onward onward.bare ",").bind fun _ w passed => ?_
        exact .pure (.inl ⟨_, rfl, onward.trans passed.2, more⟩)
    refine (eat_onward onward.bare "...").bind fun b v eaten => ?_
    rcases eaten with ⟨rfl, -, on⟩ | ⟨rfl, rfl, -⟩
    · refine (letterless.assign _ _ _ on.bare).bind fun e w read => ?_
      exact next _ w ((onward.trans on).trans read.1) (.spread read.2)
    · refine (letterless.assign _ _ _ onward.bare).bind fun e w read => ?_
      exact next e w (onward.trans read.1) read.2

omit letterless in
theorem regexp_plain (mark : s.ahead.token = .punct "/" ∨ s.ahead.token = .punct "/=") :
    Leads src s regexp fun e t => Onward src s t ∧ Plain .bare e := by
  have marks : Lexer.Marks src s.ahead.start := by
    have marked := bare.marked
    rw [Lexer.IsMarked] at marked
    rcases mark with same | same <;>
    · rw [same] at marked
      exact marked.2
  have asked : (read : Parse Source) src s = some (src, s) := rfl
  have begun : start src s = some (s.ahead.start, s) := rfl
  refine .behind asked (.behind begun ?_)
  split
  · exact .failure
  next source j found =>
    have past := Lexer.regexpFrom_le found
    have later : Lexer.Marks src j := marks.later (by omega)
    split
    · exact .failure
    next flags escaped k named =>
      have last := Lexer.nameFrom_le later named
      have resumed := resumeAt_onward bare (later.later last)
      split
      · exact .failure
      · dsimp only
        split
        · exact .failure
        · exact resumed.bind fun _ t onward => .pure ⟨onward, .regexp _ _⟩

omit letterless bare in
theorem foldl_comma {items : List Expr} {e : Expr} (plain : Plain .bare e) (each : ∀ e ∈ items, Plain .bare e) :
    Plain .bare (items.foldl .comma e) := by
  induction items generalizing e with
  | nil => exact plain
  | cons d rest ih =>
    exact ih (.comma plain (each d List.mem_cons_self)) fun e inside => each e (List.mem_cons_of_mem _ inside)

theorem parenthesized_plain (first : Nat) : Leads src s (parenthesized G first) fun e t =>
    Onward src s t ∧ Open e t := by
  have rounds : rounds src s = some (src.size + 2, s) := rfl
  refine .behind rounds ?_
  let done (acc : List Expr × Bool) (u : ParseState) : Prop := Onward src s u ∧ ∀ e ∈ acc.1, Plain .bare e
  refine Leads.bind (P := done) (Leads.loop (I := done) ?_ _ ⟨bare.onward, fun _ inside => by cases inside⟩) ?_
  · rintro ⟨items, plain⟩ u ⟨onward, each⟩
    have reversed : ∀ {l : List Expr}, (∀ e ∈ l, Plain .bare e) → ∀ e ∈ l.reverse, Plain .bare e :=
      fun each e inside => each e (List.mem_reverse.mp inside)
    refine (eat_onward onward.bare ")").bind fun b v eaten => ?_
    rcases eaten with ⟨rfl, -, closed⟩ | ⟨rfl, rfl, -⟩
    · exact .pure (.inr ⟨_, rfl, onward.trans closed, reversed each⟩)
    refine (eat_onward onward.bare "...").bind fun b v eaten => ?_
    rcases eaten with ⟨rfl, -, on⟩ | ⟨rfl, rfl, -⟩
    · refine (letterless.assign _ _ _ on.bare).bind fun e w read => ?_
      refine (expect_onward read.1.bare ")").bind fun _ x closed => ?_
      exact .pure (.inr ⟨_, rfl, ((onward.trans on).trans read.1).trans closed.2,
        reversed (List.forall_mem_cons.mpr ⟨.spread read.2, each⟩)⟩)
    · refine (letterless.assign _ _ _ onward.bare).bind fun e w read => ?_
      have more := List.forall_mem_cons.mpr ⟨read.2, each⟩
      refine .behind (isPunct_apply ")") ?_
      cases ahead? w ")" with
      | true => exact .pure (.inl ⟨_, rfl, onward.trans read.1, more⟩)
      | false =>
        refine (expect_onward read.1.bare ",").bind fun _ x passed => ?_
        refine .behind (isPunct_apply ")") ?_
        exact .pure (.inl ⟨_, rfl, (onward.trans read.1).trans passed.2, more⟩)
  · rintro ⟨items, plain⟩ u ⟨onward, each⟩
    refine .behind (isPunct_apply "=>") ?_
    cases arrow : ahead? u "=>" with
    | true =>
      refine .of_eq (t := { u with arrowHead := some ⟨first, false, items⟩ }) rfl ⟨?_, .inr ⟨ahead?_iff.mp arrow, trivial⟩⟩
      refine ⟨⟨onward.bare.marked, onward.bare.rest, onward.bare.ends, ?_⟩, onward.scopes, onward.within⟩
      rintro h ⟨⟩
      exact ⟨rfl, each⟩
    | false =>
      cases plain with
      | false => exact .failure
      | true =>
        cases items with
        | nil => exact .failure
        | cons e rest =>
          obtain ⟨here, later⟩ := List.forall_mem_cons.mp each
          exact .pure ⟨onward, .inl (.paren (foldl_comma here later))⟩

theorem primary_open : Leads src s (primary G) fun e t => Onward src s t ∧ Open e t := by
  have begun : start src s = some (s.ahead.start, s) := rfl
  have marked := bare.marked
  rw [Lexer.IsMarked] at marked
  have constant : ∀ c, Leads src s (do advance; return Expr.constant c) fun e t => Onward src s t ∧ Open e t :=
    fun c => (advance_onward bare).bind fun _ t onward => .pure ⟨onward, .inl (.constant c)⟩
  have foreign : ∀ {p : String}, p.toList.any (fun c => !Lexer.isMark c) = true → s.ahead.token = .punct p →
      ∀ {x : Parse Expr} {Q : Expr → ParseState → Prop}, Leads src s x Q :=
    fun apart same => (bare.unmarked apart same).elim
  refine .behind begun (.behind token_apply ?_)
  split
  next => exact constant _
  next => exact constant _
  next => exact constant _
  next =>
    refine (advance_onward bare).bind fun _ t onward => ?_
    exact (parenthesized_plain letterless onward.bare _).imp fun e u read => ⟨onward.trans read.1, read.2⟩
  next same => exact foreign (by decide) same
  next same => exact foreign (by decide) same
  next same => exact foreign (by decide) same
  next same => exact (regexp_plain bare (.inl same)).imp fun e t read => ⟨read.1, .inl read.2⟩
  next same => exact (regexp_plain bare (.inr same)).imp fun e t read => ⟨read.1, .inl read.2⟩
  all_goals first
    | exact .failure
    | skip
  all_goals
    rename_i same
    rw [same] at marked
    exact marked.elim

omit letterless in
theorem memberName_fails {Q : Expr → ParseState → Prop} : Leads src s memberName Q := by
  have marked := bare.marked
  rw [Lexer.IsMarked] at marked
  refine .behind token_apply ?_
  split
  next same =>
    rw [same] at marked
    exact marked.elim
  next => exact .failure

theorem links_open {e : Expr} (opened : Open e s) : Leads src s (links G true e) fun e t => Onward src s t ∧ Open e t := by
  have rounds : rounds src s = some (src.size + 2, s) := rfl
  refine .behind rounds ?_
  refine Leads.loop (I := fun acc u => Onward src s u ∧ Open acc.1 u) ?_ _ ⟨bare.onward, opened⟩
  rintro ⟨e, inChain⟩ u ⟨onward, opened⟩
  have called : ∀ {e v b}, Onward src s v → Plain .bare e → Leads src v (do
      return Sum.inl (Expr.call e (← arguments G), b) : Parse ((Expr × Bool) ⊕ Expr)) fun r w =>
      (∃ b, r = .inl b ∧ Onward src s w ∧ Open b.1 w) ∨ ∃ b, r = .inr b ∧ Onward src s w ∧ Open b w := by
    intro e v b onward plain
    refine (arguments_plain letterless onward.bare).bind fun args w read => ?_
    exact .pure (.inl ⟨_, rfl, onward.trans read.1, .inl (.call plain read.2)⟩)
  refine .behind token_apply ?_
  dsimp only
  split
  next =>
    refine (advance_onward onward.bare).bind fun _ v on => ?_
    exact (memberName_fails on.bare).stop
  next same => exact (onward.bare.unmarked (by decide) same).elim
  next same => exact called onward (opened.plain same (by decide))
  next same => exact (onward.bare.unmarked (by decide) same).elim
  next same =>
    have plain := opened.plain same (by decide)
    refine (advance_onward onward.bare).bind fun _ v on => ?_
    refine .behind (isPunct_apply "(") ?_
    split
    · exact called (onward.trans on) (.optional plain)
    refine (eat_onward on.bare "[").bind fun b w eaten => ?_
    rcases eaten with ⟨rfl, same, -⟩ | ⟨rfl, rfl, -⟩
    · exact (on.bare.unmarked (by decide) same).elim
    refine .behind (isPunct_apply "\x60") ?_
    split
    · exact .failure
    · exact (memberName_fails on.bare).stop
  next =>
    refine .pure (.inr ⟨_, rfl, onward, ?_⟩)
    cases inChain
    · exact opened
    · exact opened.within .chain trivial

omit letterless in
theorem postfixOps_open {e : Expr} (opened : Open e s) :
    Leads src s (postfixOps e) fun e t => Onward src s t ∧ Open e t := by
  have newline : newlineAhead src s = some (s.ahead.newline, s) := rfl
  refine .behind newline ?_
  split
  · exact .pure ⟨bare.onward, opened⟩
  refine .behind (isPunct_apply "++") (.behind (isPunct_apply "--") ?_)
  split
  next some =>
    have plain : Plain .bare e := by
      rw [Bool.or_eq_true, ahead?_iff, ahead?_iff] at some
      rcases some with same | same <;> exact opened.plain same (by decide)
    refine (advance_onward bare).bind fun _ t _ => ?_
    exact (simpleTarget_fails (.inl plain)).stop
  next => exact .pure ⟨bare.onward, opened⟩

theorem leftHandSide_open : Leads src s (leftHandSide G) fun e t => Onward src s t ∧ Open e t := by
  refine (primary_open letterless bare).bind fun e t read => ?_
  have got : (get : Parse ParseState) src t = some (t, t) := rfl
  refine .behind got (.behind (isPunct_apply "=>") ?_)
  split
  · exact .pure read
  · exact (links_open letterless read.1.bare read.2).imp fun e u linked => ⟨read.1.trans linked.1, linked.2⟩

theorem unaryExpr_open : Leads src s (unaryExpr G) fun p t => Onward src s t ∧ Open p.1 t := by
  have marked := bare.marked
  rw [Lexer.IsMarked] at marked
  have operator : ∀ o, o ≠ .delete → Leads src s (do
      advance
      return (Expr.unary o (← G.unary), true)) fun p t => Onward src s t ∧ Open p.1 t := by
    intro o reads
    refine (advance_onward bare).bind fun _ t on => (letterless.unary _ _ on.bare).bind fun e u read => ?_
    exact .pure ⟨on.trans read.1, read.2.within (.unary reads) trivial⟩
  have update : ∀ delta, Leads src s (do
      advance
      let e ← G.unary
      return (Expr.update delta true (← postfixOps.simpleTarget e), false)) fun p t => Onward src s t ∧ Open p.1 t := by
    intro delta
    refine (advance_onward bare).bind fun _ t on => (letterless.unary _ _ on.bare).bind fun e u read => ?_
    exact (simpleTarget_fails read.2).stop
  have operand : Leads src s (do
      return (← postfixOps (← leftHandSide G), false) : Parse (Expr × Bool)) fun p t => Onward src s t ∧ Open p.1 t := by
    refine (leftHandSide_open letterless bare).bind fun e t read => ?_
    refine (postfixOps_open read.1.bare read.2).bind fun e u ops => ?_
    exact .pure ⟨read.1.trans ops.1, ops.2⟩
  refine .behind token_apply ?_
  dsimp only
  split
  next => exact operator _ nofun
  next => exact operator _ nofun
  next => exact operator _ nofun
  next => exact operator _ nofun
  next same =>
    rw [same] at marked
    exact marked.elim
  next same =>
    rw [same] at marked
    exact marked.elim
  next same =>
    rw [same] at marked
    exact marked.elim
  next => exact update _
  next => exact update _
  next same =>
    rw [same] at marked
    exact marked.elim
  next => exact operand

theorem powerExpr_open : Leads src s (powerExpr G) fun e t => Onward src s t ∧ Open e t := by
  refine (unaryExpr_open letterless bare).bind fun p t read => ?_
  refine .behind (isPunct_apply "**") ?_
  cases here : ahead? t "**" with
  | false => exact .pure read
  | true =>
    dsimp only [if_true]
    rw [if_pos rfl]
    split
    · exact Leads.failure.stop
    · have plain := read.2.plain (ahead?_iff.mp here) (by decide)
      refine (advance_onward read.1.bare).bind fun _ u on => (letterless.power _ _ on.bare).bind fun e v right => ?_
      exact .pure ⟨(read.1.trans on).trans right.1, right.2.within (.binary ⟨nofun, nofun⟩ plain) trivial⟩

omit letterless in
theorem operatorAhead_values {allowIn : Bool} {ops : List (String × BinaryOp)}
    (known : ∀ p ∈ ops, p.1 ≠ "=>" ∧ p.2 ≠ .inOp ∧ p.2 ≠ .instanceOf) :
    Leads src s (operatorAhead allowIn ops) fun r t => t = s ∧
      ∀ op, r = some op → (∃ p, s.ahead.token = .punct p ∧ p ≠ "=>") ∧ op ≠ .inOp ∧ op ≠ .instanceOf := by
  have marked := bare.marked
  rw [Lexer.IsMarked] at marked
  refine .behind token_apply ?_
  split
  next p same =>
    refine .pure ⟨rfl, fun op found => ?_⟩
    obtain ⟨⟨q, o⟩, sought, rfl⟩ := Option.map_eq_some_iff.mp found
    have good := known _ (List.mem_of_find?_eq_some sought)
    have spelled : q = p := eq_of_beq (List.find?_some (p := fun x : String × BinaryOp => x.1 == p) sought)
    subst spelled
    exact ⟨⟨_, same, good.1⟩, good.2⟩
  next same =>
    rw [same] at marked
    exact marked.elim
  next => exact .pure ⟨rfl, fun op found => by cases found⟩

theorem binary_open {allowIn : Bool} {levels : List (List (String × BinaryOp))}
    (known : ∀ ops ∈ levels, ∀ p ∈ ops, p.1 ≠ "=>" ∧ p.2 ≠ .inOp ∧ p.2 ≠ .instanceOf) :
    Leads src s (binary G allowIn levels) fun e t => Onward src s t ∧ Open e t := by
  induction levels generalizing s with
  | nil => exact powerExpr_open letterless bare
  | cons ops tighter ih =>
    obtain ⟨here, later⟩ := List.forall_mem_cons.mp known
    refine (ih bare later).bind fun left t read => ?_
    have rounds : rounds src t = some (src.size + 2, t) := rfl
    refine .behind rounds (Leads.loop (I := fun e u => Onward src s u ∧ Open e u) ?_ _ read)
    rintro left u ⟨onward, opened⟩
    refine (operatorAhead_values onward.bare here).bind fun found v looked => ?_
    obtain ⟨rfl, values⟩ := looked
    cases found with
    | none => exact .pure (.inr ⟨_, rfl, onward, opened⟩)
    | some op =>
      obtain ⟨⟨p, same, other⟩, value⟩ := values op rfl
      refine (advance_onward onward.bare).bind fun _ w on => (ih on.bare later).bind fun right x read => ?_
      exact .pure (.inl ⟨_, rfl, (onward.trans on).trans read.1,
        read.2.within (.binary value (opened.plain same other)) trivial⟩)

theorem bitOrExpr_open {allowIn : Bool} :
    Leads src s (bitOrExpr G allowIn) fun e t => Onward src s t ∧ Open e t :=
  binary_open letterless bare (by simp [binaryLevels, List.forall_mem_cons, -List.mem_cons, -Prod.forall])

omit letterless bare in
theorem operations_open {mark : String} (other : mark ≠ "=>") {op : LogicalOp} {operand : Parse Expr}
    (reads : ∀ s, Bare src s → Leads src s operand fun e t => Onward src s t ∧ Open e t) {left : Expr} {r : ParseState}
    (onward : Onward src r s) (opened : Open left s) (fuel : Nat) :
    Leads src s (loop (fun (left : Expr) => do
      if ← eat mark then return .inl (.logical op left (← operand))
      else return .inr left) left fuel) fun e t => Onward src r t ∧ Open e t := by
  refine Leads.loop (I := fun e u => Onward src r u ∧ Open e u) ?_ _ ⟨onward, opened⟩
  rintro left u ⟨onward, opened⟩
  refine (eat_onward onward.bare mark).bind fun b v eaten => ?_
  rcases eaten with ⟨rfl, same, on⟩ | ⟨rfl, rfl, -⟩
  · refine (reads v on.bare).bind fun right w read => ?_
    exact .pure (.inl ⟨_, rfl, (onward.trans on).trans read.1,
      read.2.within (.logical (opened.plain same other)) trivial⟩)
  · exact .pure (.inr ⟨_, rfl, onward, opened⟩)

omit bare in
theorem andExpr_open {allowIn : Bool} {left : Expr} {r : ParseState} (onward : Onward src r s) (opened : Open left s) :
    Leads src s (andExpr G allowIn left) fun e t => Onward src r t ∧ Open e t := by
  have rounds : rounds src s = some (src.size + 2, s) := rfl
  exact .behind rounds (operations_open (by decide) (fun _ bare => bitOrExpr_open letterless bare) onward opened _)

theorem logicalExpr_open {allowIn : Bool} :
    Leads src s (logicalExpr G allowIn) fun e t => Onward src s t ∧ Open e t := by
  refine (bitOrExpr_open letterless bare).bind fun left t read => ?_
  refine .behind (isPunct_apply "??") ?_
  have rounds : ∀ t, rounds src t = some (src.size + 2, t) := fun _ => rfl
  split
  · refine .behind (rounds t) ?_
    refine (operations_open (by decide) (fun _ bare => bitOrExpr_open letterless bare) read.1 read.2 _).bind fun e u ops => ?_
    refine .behind (isPunct_apply "&&") (.behind (isPunct_apply "||") ?_)
    split
    · exact .failure
    · exact .pure ops
  · refine (andExpr_open letterless read.1 read.2).bind fun e u ands => ?_
    refine .behind (rounds u) ?_
    have operand : ∀ s, Bare src s → Leads src s (do andExpr G allowIn (← bitOrExpr G allowIn)) fun e t =>
        Onward src s t ∧ Open e t := fun s bare =>
      (bitOrExpr_open letterless bare).bind fun e t read => andExpr_open letterless read.1 read.2
    refine Leads.bind (P := fun e v => Onward src s v ∧ Open e v) ?_ fun e v ors => ?_
    · simpa only [bind_assoc] using operations_open (by decide) operand ands.1 ands.2 (src.size + 2)
    · refine .behind (isPunct_apply "??") ?_
      split
      · exact .failure
      · exact .pure ors

theorem conditional_open {allowIn : Bool} :
    Leads src s (conditional G allowIn) fun e t => Onward src s t ∧ Open e t := by
  refine (logicalExpr_open letterless bare).bind fun test t read => ?_
  have got : (get : Parse ParseState) src t = some (t, t) := rfl
  refine .behind got (.behind (isPunct_apply "=>") ?_)
  split
  · exact .pure read
  · refine (eat_onward read.1.bare "?").bind fun b u eaten => ?_
    rcases eaten with ⟨rfl, same, on⟩ | ⟨rfl, rfl, -⟩
    · have plain := read.2.plain same (by decide)
      refine (letterless.assign _ _ _ on.bare).bind fun yes v left => ?_
      refine (expect_onward left.1.bare ":").bind fun _ w passed => ?_
      refine (letterless.assign _ _ _ passed.2.bare).bind fun no x right => ?_
      exact .pure ⟨(((read.1.trans on).trans left.1).trans passed.2).trans right.1, .inl (.conditional plain left.2 right.2)⟩
    · exact .pure read

omit letterless bare in
theorem params_none {items : List Expr} (plain : ∀ e ∈ items, Plain .bare e) :
    Leads src s (items.mapM fun e =>
      match e with
      | .spread (.assign _ _) => failure
      | .spread e => do return Pattern.rest (← pattern true e)
      | e => pattern true e) fun params t => params = [] ∧ t = s := by
  cases items with
  | nil => exact .pure ⟨rfl, rfl⟩
  | cons e rest =>
    rw [List.mapM_cons]
    refine Leads.stop ?_
    have here := plain e List.mem_cons_self
    split
    · exact .failure
    · cases here with
      | fetched fetches => exact absurd rfl fetches.ne_nil
      | spread inner => exact (pattern_fails inner true).stop
    · exact pattern_fails here true

omit letterless bare in
theorem withScope_leads {α : Type} {isFunction : Bool} {params : List String} {body : Parse α}
    {P : α → ParseState → Prop} {Q : α × OpenScope → ParseState → Prop}
    (inner : Leads src { s with scopes := ⟨[], [], params, isFunction⟩ :: s.scopes } body P)
    (leaves : ∀ a t top outer, P a t → t.scopes = top :: outer → Q (a, top) { t with scopes := outer }) :
    Leads src s (withScope isFunction params body) Q := by
  refine Leads.bind (P := fun _ t => t = { s with scopes := ⟨[], [], params, isFunction⟩ :: s.scopes }) (.of_eq rfl rfl) ?_
  rintro _ _ rfl
  refine inner.bind fun a t good => ?_
  have got : (get : Parse ParseState) src t = some (t, t) := rfl
  refine .behind got ?_
  split
  next top outer same => exact .of_eq rfl (leaves a t top outer good same)
  next => exact .failure

omit letterless in
theorem finishFunction_gives {within : Surroundings} {info : FunctionInfo} {first : Nat} {body : Parse (List Stmt)}
    (apart : within.usesArguments = false) {P : List Stmt → Prop}
    (reads : ∀ t, Bare src t → Leads src t body fun b u => Onward src t u ∧ P b) :
    Leads src s (finishFunction within info first (pure []) body) fun f t => Onward src s t ∧ f.params = [] ∧ P f.body ∧
      ∃ expectedArgs source, f.info = { info with
        expectedArgs, source, vars := [], lexicals := [], usesArguments := false } := by
  have got : ∀ t, (get : Parse ParseState) src t = some (t, t) := fun _ => rfl
  refine .behind (got s) ?_
  let entered : ParseState := { s with within, functionCount := s.functionCount + 1, arrowHead := .none }
  refine Leads.bind (P := fun _ t => t = entered) (.of_eq rfl rfl) ?_
  rintro _ _ rfl
  let inner : ParseState := { entered with scopes := ⟨[], [], [], true⟩ :: s.scopes }
  have behind : Bare src inner := ⟨bare.marked, bare.rest, bare.ends, nofun⟩
  refine Leads.bind (P := fun r t => r.1.1 = [] ∧ P r.1.2 ∧ r.2 = ⟨[], [], [], true⟩ ∧
    t.scopes = s.scopes ∧ t.within = within ∧ Bare src t) (withScope_leads (P := fun r t => r.1 = [] ∧ P r.2 ∧
    Onward src inner t) ?_ ?_) ?_
  · refine Leads.bind (P := fun a t => a = [] ∧ t = inner) (.pure ⟨rfl, rfl⟩) ?_
    rintro _ _ ⟨rfl, rfl⟩
    dsimp only [Pattern.boundNamesOf]
    refine Leads.bind (P := fun _ t => t = inner) (.of_eq rfl rfl) ?_
    rintro _ _ rfl
    refine (reads inner behind).bind fun b t read => ?_
    rw [List.all_nil, Bool.not_true, Bool.and_false, if_neg Bool.false_ne_true]
    exact .pure ⟨rfl, read.2, read.1⟩
  · rintro ⟨params, b⟩ t top outer ⟨none, good, onward⟩ scopes
    obtain ⟨rfl, rfl⟩ := List.cons.inj (scopes.symm.trans onward.scopes)
    have last := onward.bare
    exact ⟨none, good, rfl, rfl, onward.within, last.marked, last.rest, last.ends, last.head⟩
  · rintro ⟨⟨params, b⟩, scope⟩ t ⟨none, good, rfl, scopes, same, last⟩
    refine .behind (got t) ?_
    have unused : t.within.usesArguments = false := by rw [same, apart]
    dsimp only
    rw [unused, Bool.and_false, Bool.or_false]
    refine Leads.bind (P := fun _ u => u = { t with within := s.within }) (.of_eq rfl rfl) ?_
    rintro _ _ rfl
    have text : ∃ u, sourceFrom first src { t with within := s.within } = some (u, { t with within := s.within }) :=
      ⟨_, rfl⟩
    obtain ⟨u, cut⟩ := text
    refine .behind cut (.pure ⟨⟨⟨last.marked, last.rest, last.ends, last.head⟩, scopes, rfl⟩, none, good, ?_⟩)
    cases none
    exact ⟨_, _, rfl⟩

theorem arrowAfter_plain {allowIn : Bool} {head : ArrowHead} (direct : head.isAsync = false)
    (plain : ∀ e ∈ head.params, Plain .bare e) :
    Leads src s (arrowAfter G head allowIn) fun e t => Onward src s t ∧ Plain .bare e := by
  have newline : newlineAhead src s = some (s.ahead.newline, s) := rfl
  have got : ∀ t, (get : Parse ParseState) src t = some (t, t) := fun _ => rfl
  refine .behind newline ?_
  split
  · exact Leads.failure.stop
  refine (expect_onward bare "=>").bind fun _ t passed => .behind (got t) ?_
  dsimp only
  refine (params_none plain).bind fun params u none => ?_
  obtain ⟨rfl, rfl⟩ := none
  have body : ∀ v, Bare src v → Leads src v (do
      if ← isPunct "\x7b" then functionBody G
      else return [.return (← G.assign allowIn)]) fun b w => Onward src v w ∧ ∃ e, b = [.return e] ∧ Plain .bare e := by
    intro v bare
    refine .behind (isPunct_apply _) ?_
    cases here : ahead? v "\x7b" with
    | true => exact (bare.unmarked (by decide) (ahead?_iff.mp here)).elim
    | false => exact (letterless.assign _ _ _ bare).bind fun e w read => .pure ⟨read.1, e, rfl, read.2⟩
  refine (finishFunction_gives passed.2.bare rfl body).bind fun f v made => ?_
  obtain ⟨onward, params, ⟨e, body, inner⟩, expectedArgs, source, info⟩ := made
  have made : (f.info.kind = .arrow ∧ (f.info.isAsync = false ∧ f.info.isGenerator = false) ∧ f.info.bindsSelf = false) ∧
      (f.info.vars = [] ∧ f.info.lexicals = []) ∧ f.info.usesArguments = false := by
    rw [info]
    exact ⟨⟨rfl, ⟨direct, rfl⟩, rfl⟩, ⟨rfl, rfl⟩, rfl⟩
  obtain ⟨⟨kind, direct, nameless⟩, unscoped, free⟩ := made
  exact .pure ⟨passed.2.trans onward, .function ⟨⟨kind, direct, nameless⟩, params, body, unscoped, free⟩ inner⟩

theorem assignExpr_plain {allowIn : Bool} :
    Leads src s (assignExpr G allowIn) fun e t => Onward src s t ∧ Plain .bare e := by
  have got : ∀ t, (get : Parse ParseState) src t = some (t, t) := fun _ => rfl
  have begun : start src s = some (s.ahead.start, s) := rfl
  refine .behind (got s) (.behind (isWord_apply _) ?_)
  rw [bare.wordless, Bool.and_false, if_neg Bool.false_ne_true]
  refine .behind begun ((conditional_open letterless bare).bind fun left t read => .behind (got t) ?_)
  split
  next same =>
    split
    next head arrow =>
      split
      · have known := read.1.bare.head head arrow
        have behind : Bare src { t with arrowHead := .none } :=
          ⟨read.1.bare.marked, read.1.bare.rest, read.1.bare.ends, nofun⟩
        refine Leads.bind (P := fun _ u => u = { t with arrowHead := .none }) (.of_eq rfl rfl) ?_
        rintro _ _ rfl
        refine (arrowAfter_plain letterless behind known.1 known.2).imp fun e u arrow => ?_
        exact ⟨⟨arrow.1.bare, arrow.1.scopes.trans read.1.scopes, arrow.1.within.trans read.1.within⟩, arrow.2⟩
      · exact .failure
    next =>
      rcases read.2 with plain | ⟨-, hollow⟩
      · exact absurd plain Plain.nameless
      · exact hollow.elim
    next =>
      rcases read.2 with plain | ⟨-, hollow⟩
      · cases plain with
        | fetched fetches => exact absurd rfl fetches.ne_nil
        | call first => exact absurd first Plain.nameless
        | called free => exact absurd free IsFree.not_bare
      · exact hollow.elim
    next => exact .failure
  next same => exact (pattern_fails (read.2.plain same (by decide)) false).stop
  next p other _ same =>
    have failed : ∀ {α : Type} (f : Expr → Parse α) {Q : α → ParseState → Prop},
        Leads src t (postfixOps.simpleTarget left >>= f) Q :=
      fun _ => (simpleTarget_fails read.2).stop
    split
    · exact failed _
    · split
      · exact failed _
      · exact .pure ⟨read.1, read.2.plain same other⟩
  next other _ _ => exact .pure ⟨read.1, read.2.resolve_right fun hollow => other hollow.1⟩

theorem commaExpr_plain {allowIn : Bool} :
    Leads src s (commaExpr G allowIn) fun e t => Onward src s t ∧ Plain .bare e := by
  refine (letterless.assign _ _ _ bare).bind fun e t read => ?_
  have rounds : rounds src t = some (src.size + 2, t) := rfl
  refine .behind rounds (Leads.loop (I := fun e u => Onward src s u ∧ Plain .bare e) ?_ _ read)
  rintro left u ⟨onward, plain⟩
  refine (eat_onward onward.bare ",").bind fun b v eaten => ?_
  rcases eaten with ⟨rfl, -, on⟩ | ⟨rfl, rfl, -⟩
  · refine (letterless.assign _ _ _ on.bare).bind fun right w read => ?_
    exact .pure (.inl ⟨_, rfl, (onward.trans on).trans read.1, .comma plain read.2⟩)
  · exact .pure (.inr ⟨_, rfl, onward, plain⟩)

omit letterless in
theorem semicolon_onward : Leads src s semicolon fun _ t => Onward src s t := by
  refine (eat_onward bare ";").bind fun b t eaten => ?_
  rcases eaten with ⟨rfl, -, on⟩ | ⟨rfl, rfl, -⟩
  · exact .pure on
  · have got : (get : Parse ParseState) src t = some (t, t) := rfl
    refine .behind got ?_
    split
    · exact .pure bare.onward
    · exact .pure bare.onward
    · split
      · exact .pure bare.onward
      · exact .failure

theorem statementBody_plain : Leads src s (statementBody G) fun d t => Onward src s t ∧ PlainStmt .bare d := by
  have marked := bare.marked
  rw [Lexer.IsMarked] at marked
  have begun : start src s = some (s.ahead.start, s) := rfl
  refine .behind begun (.behind token_apply ?_)
  split
  next same => exact (bare.unmarked (by decide) same).elim
  next => exact (advance_onward bare).bind fun _ t on => .pure ⟨on, .empty⟩
  next same =>
    rw [same] at marked
    exact marked.elim
  next =>
    refine (letterless.expr _ _ _ bare).bind fun e t read => ?_
    split
    next =>
      exact absurd read.2 Plain.nameless
    next =>
      exact (semicolon_onward read.1.bare).bind fun _ u on => .pure ⟨read.1.trans on, .expr read.2⟩

end

theorem ofDepth_letterless (depth : Nat) : Letterless (ofDepth depth) := by
  induction depth with
  | zero =>
    exact ⟨fun _ _ _ _ => .failure, fun _ _ _ _ => .failure, fun _ _ _ => .failure, fun _ _ _ => .failure,
      fun _ _ _ => .failure⟩
  | succ depth ih =>
    refine ⟨fun _ _ _ bare => commaExpr_plain ih bare, fun _ _ _ bare => assignExpr_plain ih bare, ?_,
      fun _ _ bare => powerExpr_open ih bare, fun _ _ bare => statementBody_plain ih bare⟩
    intro src s bare
    change Leads src s (Prod.fst <$> unaryExpr _) _
    rw [map_eq_pure_bind]
    exact (unaryExpr_open ih bare).bind fun p t read => .pure read

end Grammar

theorem scriptReader_plain {src : Source} {s : ParseState} (bare : Bare src s) :
    Leads src s scriptReader fun p _ => PlainProgram .bare p := by
  let inner : ParseState := { s with scopes := ⟨[], [], [], true⟩ :: s.scopes }
  let Known (body : List Stmt) : Prop := ∀ d ∈ body, PlainStmt .bare d
  have behind : Bare src inner := ⟨bare.marked, bare.rest, bare.ends, bare.head⟩
  refine Leads.bind (P := fun r _ => r.2 = ⟨[], [], [], true⟩ ∧ Known r.1) (Grammar.withScope_leads (P := fun body t =>
    Onward src inner t ∧ Known body) ?_ ?_) ?_
  · have rounds : Parse.rounds src inner = some (src.size + 2, inner) := rfl
    refine .behind rounds (Leads.loop (I := fun acc t => Onward src inner t ∧ Known acc) ?_ _
      ⟨behind.onward, fun _ inside => by cases inside⟩)
    rintro acc t ⟨onward, known⟩
    refine .behind Parse.token_apply ?_
    split
    · exact .pure (.inr ⟨_, rfl, onward, fun d inside => known d (List.mem_reverse.mp inside)⟩)
    · refine ((Grammar.ofDepth_letterless maxNesting).statement _ _ onward.bare).bind fun d u read => ?_
      exact .pure (.inl ⟨_, rfl, onward.trans read.1, List.forall_mem_cons.mpr ⟨read.2, known⟩⟩)
  · rintro body t top outer ⟨onward, known⟩ scopes
    obtain ⟨rfl, rfl⟩ := List.cons.inj (scopes.symm.trans onward.scopes)
    exact ⟨rfl, known⟩
  · rintro ⟨body, scope⟩ t ⟨rfl, known⟩
    have got : (get : Parse ParseState) src t = some (t, t) := rfl
    refine .behind got ?_
    split
    · exact Leads.failure.stop
    · exact .pure ⟨⟨rfl, rfl⟩, known⟩

theorem Lexer.Left.marks {src : Source} {i : Nat} {cs : List Char} (left : Lexer.Left src i cs)
    (each : ∀ c ∈ cs, Lexer.isMark c = true) : Lexer.Marks src i := by
  intro j c behind there
  apply each
  rw [← left, List.mem_iff_getElem?]
  refine ⟨j - i, ?_⟩
  rw [List.getElem?_drop, Nat.add_sub_cancel' behind, Array.getElem?_toList, there]

theorem parse_letterless {e : String} (marks : ∀ c ∈ e.toList, Lexer.isMark c = true) {p : Program}
    (parsed : parse (Lexer.strictText e) = some p) : PlainProgram .bare p := by
  rw [parse_strictText] at parsed
  obtain ⟨⟨q, t⟩, ran, rfl⟩ := Option.map_eq_some_iff.mp parsed
  have left : Lexer.Left (Lexer.strictText e).toList.toArray 12 (';' :: ' ' :: '(' :: (e.toList ++ [')'])) :=
    Lexer.Left.pass ('"' :: Lexer.directive ++ ['"']) (Lexer.strictText_left e)
  have rest : Lexer.Marks (Lexer.strictText e).toList.toArray 12 := by
    refine left.marks ?_
    simp only [List.forall_mem_cons, List.forall_mem_append, List.not_mem_nil, false_imp_iff, implies_true, and_true]
    exact ⟨by decide, by decide, by decide, marks, by decide⟩
  exact scriptReader_plain (s := strictStart) ⟨trivial, rest, Nat.zero_le _, nofun⟩ q t ran

end BoundedScript.Script
