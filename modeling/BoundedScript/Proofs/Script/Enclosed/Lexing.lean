import BoundedScript.Proofs.Script.Enclosed.Places

set_option autoImplicit false

namespace BoundedScript.Script

/-- What ends the part that two texts have in common: a bracket in the one, at once or in the next line, and in the other
the end of the text or a bracket behind blanks and comments. -/
inductive Ending (outer : Source) (limit : Nat) (inner : Source) (size : Nat) : (edge : Nat) → (closing : Lexeme) → Prop where
  | text (bracket : Lexer.at? outer limit = some ')') (ends : inner.size = size) :
      Ending outer limit inner size limit ⟨.endOfText, size, size, false⟩
  | line {c : Char} {i : Nat} (line : Lexer.at? outer limit = some '\n') (bracket : Lexer.at? outer (limit + 1) = some ')')
      (gap : Lexer.at? inner size = some c ∧ Lexer.isGap c = true) (skips : Lexer.SkipsTo inner size i)
      (commented : ∀ fuel, inner.size ≤ size + fuel → Lexer.SkipsTo inner (Lexer.lineCommentEnd inner size fuel) i)
      (bracket' : Lexer.at? inner i = some ')') :
      Ending outer limit inner size (limit + 1) ⟨.punct ")", i, i + 1, true⟩

/-- A part that two texts have in common, in front of a closing bracket in the one and in front of what takes the place
of the bracket in the other. -/
structure Enclosed where
  outer : Source
  inner : Source
  shift : Nat
  size : Nat
  edge : Nat
  closing : Lexeme
  same : ∀ i, i < size → Lexer.at? outer (shift + i) = Lexer.at? inner i
  ending : Ending outer (shift + size) inner size edge closing

namespace Ending

open Lexer

variable {outer inner : Source} {limit size edge : Nat} {closing : Lexeme} (ending : Ending outer limit inner size edge closing)
include ending

theorem bracket : at? outer edge = some ')' := by
  cases ending <;> assumption

theorem bounds : limit ≤ edge ∧ edge ≤ limit + 1 := by
  cases ending <;> omega

theorem parts : (at? outer limit = some ')' ∧ edge = limit ∧ at? inner size = none) ∨
    (at? outer limit = some '\n' ∧ edge = limit + 1) := by
  cases ending with
  | text bracket ends => exact .inl ⟨bracket, rfl, Array.getElem?_eq_none_iff.mpr ends.le⟩
  | line line => exact .inr ⟨line, rfl⟩

theorem outer_gap : ∃ c, at? outer limit = some c ∧ isGap c = true := by
  rcases ending.parts with ⟨there, -⟩ | ⟨there, -⟩
  · exact ⟨')', there, rfl⟩
  · exact ⟨'\n', there, rfl⟩

theorem inner_gap : (at? inner size).all isGap = true := by
  cases ending with
  | text _ ends => rw [at?, Array.getElem?_eq_none_iff.mpr ends.le, Option.all_none]
  | line _ _ gap => rw [gap.1, Option.all_some, gap.2]

theorem size_le : size ≤ inner.size := by
  cases ending with
  | text _ ends => exact ends.ge
  | line _ _ gap => exact (Array.getElem?_eq_some_iff.mp gap.1).1.le

theorem closing_token : tokenAt inner closing.start = some (closing.token, closing.stop) := by
  cases ending with
  | text _ ends => rw [tokenAt, at?, Array.getElem?_eq_none_iff.mpr ends.le]
  | line _ _ _ _ _ bracket => exact tokenAt_bracket bracket

theorem closer : closing.token = .endOfText ∨ closing.token = .punct ")" := by
  cases ending with
  | text => exact .inl rfl
  | line => exact .inr rfl

theorem text_skips (ends : edge = limit) (newline : Bool) (fuel : Nat) :
    skipBlanks inner size newline fuel = some (closing.start, newline) := by
  cases ending with
  | text _ last =>
    cases fuel with
    | zero => rfl
    | succ fuel => rw [skipBlanks, at?, Array.getElem?_eq_none_iff.mpr last.le]
  | line => omega

theorem skips (ends : edge = limit + 1) : SkipsTo inner size closing.start := by
  cases ending with
  | text => omega
  | line _ _ _ skips => exact skips

theorem commented (ends : edge = limit + 1) (fuel : Nat) (enough : inner.size ≤ size + fuel) :
    SkipsTo inner (lineCommentEnd inner size fuel) closing.start := by
  cases ending with
  | text => omega
  | line _ _ _ _ commented => exact commented fuel enough

end Ending

namespace Enclosed

open Lexer

variable (v : Enclosed)

/-- What is read in the one text, and ends in front of what follows there up to `bound`, is read in the other one too. -/
def AgreesTo {α β : Type} (bound : Nat) (mk : β → Nat → α) (x y : Option α) : Prop :=
  ∀ b j, x = some (mk b j) → j ≤ bound → ∃ k, k ≤ v.size ∧ j = v.shift + k ∧ y = some (mk b k)

abbrev Agrees {α β : Type} (mk : β → Nat → α) (x y : Option α) : Prop :=
  v.AgreesTo v.edge mk x y

section Lookups

variable {v} {i : Nat}

theorem at?_inner (within : i < v.size) : at? v.outer (v.shift + i) = at? v.inner i :=
  v.same i within

theorem size_lt (v : Enclosed) : v.edge < v.outer.size :=
  (Array.getElem?_eq_some_iff.mp v.ending.bracket).1

theorem within_or_end (within : i ≤ v.size) :
    (i < v.size ∧ ∃ c, at? v.outer (v.shift + i) = some c ∧ at? v.inner i = some c) ∨
      (i = v.size ∧ (∃ c, at? v.outer (v.shift + i) = some c ∧ isGap c = true) ∧ (at? v.inner i).all isGap = true) := by
  rcases Nat.lt_or_eq_of_le within with inside | rfl
  · have there : at? v.inner i = some _ := Array.getElem?_eq_getElem (Nat.lt_of_lt_of_le inside v.ending.size_le)
    exact .inl ⟨inside, _, (at?_inner inside).trans there, there⟩
  · exact .inr ⟨rfl, v.ending.outer_gap, v.ending.inner_gap⟩

theorem any_of_gap {p : Char → Bool} (none : gaps.all (!p ·) = true) {x : Option Char} (gap : x.all isGap = true) :
    x.any p = false := by
  cases x with
  | none => rfl
  | some c => exact dark none gap

theorem beq_of_gap {c : Char} (other : isGap c = false) {x : Option Char} (gap : x.all isGap = true) :
    (x == some c) = false := by
  rw [beq_eq_false_iff_ne]
  rintro rfl
  exact Bool.eq_false_iff.mp other gap

theorem any_at? {p : Char → Bool} (none : gaps.all (!p ·) = true) (within : i ≤ v.size) :
    (at? v.outer (v.shift + i)).any p = (at? v.inner i).any p := by
  obtain ⟨-, c, there, here⟩ | ⟨-, ⟨c, there, gap⟩, here⟩ := within_or_end within
  · rw [there, here]
  · rw [any_of_gap none here, there]
    exact dark none gap

theorem beq_at? {c : Char} (other : isGap c = false) (within : i ≤ v.size) :
    (at? v.outer (v.shift + i) == some c) = (at? v.inner i == some c) := by
  obtain ⟨-, d, there, here⟩ | ⟨-, ⟨d, there, gap⟩, here⟩ := within_or_end within
  · rw [there, here]
  · rw [beq_of_gap other here, there]
    exact beq_of_gap other gap

theorem inside_of_beq {c : Char} (other : isGap c = false) (here : (at? v.inner i == some c) = true) (within : i ≤ v.size) :
    i < v.size := by
  refine Nat.lt_of_le_of_ne within ?_
  rintro rfl
  rw [beq_of_gap other v.ending.inner_gap] at here
  cases here

end Lookups

section Agrees

variable {v} {α β γ : Type} {bound : Nat} {f : β → Nat → α} {x y : Option α}

theorem AgreesTo.fails : v.AgreesTo bound f none y :=
  nofun

theorem AgreesTo.ite {c : Prop} [Decidable c] {x' y' : Option α} (first : v.AgreesTo bound f x y)
    (second : v.AgreesTo bound f x' y') : v.AgreesTo bound f (if c then x else x') (if c then y else y') := by
  split
  · exact first
  · exact second

theorem AgreesTo.same (b : β) {i : Nat} (within : i ≤ v.size) (inj : ∀ b b' i i', f b i = f b' i' → b = b' ∧ i = i') :
    v.AgreesTo bound f (some (f b (v.shift + i))) (some (f b i)) := by
  intro b' j same _
  obtain ⟨rfl, rfl⟩ := inj _ _ _ _ (Option.some.inj same)
  exact ⟨i, within, rfl, rfl⟩

theorem AgreesTo.beyond (past : ∀ b j, x = .some (f b j) → bound < j) : v.AgreesTo bound f x y :=
  fun b j same fits => absurd fits (Nat.not_le.mpr (past b j same))

end Agrees

structure Matches {α : Type} (bound : Nat) (x y : Option (α × Nat)) : Prop where
  agrees : v.AgreesTo bound Prod.mk x y
  fails : x = none → y = none

section Matches

variable {v} {α : Type} {bound : Nat} {x y : Option (α × Nat)}

theorem Matches.never : v.Matches (α := α) bound none none :=
  ⟨.fails, id⟩

theorem Matches.same (a : α) {i : Nat} (within : i ≤ v.size) : v.Matches bound (some (a, v.shift + i)) (some (a, i)) :=
  ⟨.same a within (by simp), nofun⟩

theorem Matches.ite {c : Prop} [Decidable c] {x' y' : Option (α × Nat)} (first : v.Matches bound x y)
    (second : v.Matches bound x' y') : v.Matches bound (if c then x else x') (if c then y else y') := by
  split
  · exact first
  · exact second

theorem Matches.map {β : Type} (f : α → β) (first : v.Matches bound x y) :
    v.Matches bound (x.map fun (a, j) => (f a, j)) (y.map fun (a, j) => (f a, j)) := by
  constructor
  · intro b j read fits
    obtain ⟨⟨a, j'⟩, found, same⟩ := Option.map_eq_some_iff.mp read
    obtain ⟨rfl, rfl⟩ := Prod.mk.inj same
    obtain ⟨k, within, rfl, found'⟩ := first.agrees a _ found fits
    exact ⟨k, within, rfl, by rw [found']; rfl⟩
  · intro missed
    rw [first.fails (Option.map_eq_none_iff.mp missed)]
    rfl

end Matches

section Names

variable {v} {i bound : Nat}

theorem hexDigits_gap {src : Source} (gap : (at? src i).all isGap = true) (n count : Nat) :
    hexDigits src i n (count + 1) = none := by
  rw [hexDigits]
  cases there : at? src i with
  | none => rfl
  | some c =>
    rw [there] at gap
    have dark := dark (p := fun c => digitValue c < 16) (by decide) gap
    exact if_neg (of_decide_eq_false dark)

theorem bracedHex_gap {src : Source} (gap : (at? src i).all isGap = true) (n digits fuel : Nat) :
    bracedHex src i n digits (fuel + 1) = none := by
  rw [bracedHex]
  cases there : at? src i with
  | none => rfl
  | some c =>
    rw [there] at gap
    have brace := dark (p := (· == '\x7d')) (by decide) gap
    have digit := dark (p := fun c => digitValue c < 16) (by decide) gap
    dsimp only at brace digit ⊢
    rw [brace, digit]
    rfl

theorem hexDigits_matches (n count : Nat) (within : i ≤ v.size) :
    v.Matches bound (hexDigits v.outer (v.shift + i) n count) (hexDigits v.inner i n count) := by
  induction count generalizing i n with
  | zero => exact .same n within
  | succ count ih =>
    obtain ⟨inside, c, there, here⟩ | ⟨-, ⟨c, there, gap⟩, here⟩ := within_or_end within
    · rw [hexDigits, hexDigits, there, here]
      exact .ite (ih _ inside) .never
    · rw [hexDigits_gap (by rw [there]; exact gap), hexDigits_gap here]
      exact .never

theorem bracedHex_matches (n digits : Nat) (within : i ≤ v.size) {fuel room : Nat}
    (full : v.outer.size ≤ v.shift + i + fuel) (enough : v.size < i + room) :
    v.Matches bound (bracedHex v.outer (v.shift + i) n digits fuel) (bracedHex v.inner i n digits room) := by
  have long := v.size_lt
  have limit := v.ending.bounds
  induction fuel generalizing i n digits room with
  | zero => omega
  | succ fuel ih =>
    obtain ⟨room, rfl⟩ : ∃ r, room = r + 1 := ⟨room - 1, by omega⟩
    obtain ⟨inside, c, there, here⟩ | ⟨-, ⟨c, there, gap⟩, here⟩ := within_or_end within
    · rw [bracedHex, bracedHex, there, here]
      exact .ite (.ite .never (.same n inside)) (.ite (ih _ _ inside (by omega) (by omega)) .never)
    · rw [bracedHex_gap (by rw [there]; exact gap), bracedHex_gap here]
      exact .never

theorem unicodeEscape_matches (within : i ≤ v.size) :
    v.Matches bound (unicodeEscape v.outer (v.shift + i)) (unicodeEscape v.inner i) := by
  rw [unicodeEscape, unicodeEscape, beq_at? (by decide) within]
  split
  next brace =>
    have inside := inside_of_beq (by decide) brace within
    have short := v.ending.size_le
    exact bracedHex_matches 0 0 inside (Nat.le_add_left ..) (by omega)
  next => exact hexDigits_matches 0 4 within

def behind {α β : Type} (r : α × β) (j : Nat) : α × β × Nat :=
  (r.1, r.2, j)

theorem AgreesTo.behind {α β : Type} (a : α) (b : β) (within : i ≤ v.size) :
    v.AgreesTo bound behind (.some (a, b, v.shift + i)) (.some (a, b, i)) :=
  .same (a, b) within (by simp [Enclosed.behind])

theorem nameFrom_gap {src : Source} (gap : (at? src i).all isGap = true) (acc : String) (escaped : Bool) (fuel : Nat) :
    nameFrom src i acc escaped fuel = some (acc, escaped, i) := by
  cases fuel with
  | zero => rfl
  | succ fuel =>
    rw [nameFrom]
    cases there : at? src i with
    | none => rfl
    | some c =>
      rw [there] at gap
      have straight := dark (p := (· == '\\')) (by decide) gap
      have part := dark (p := isNamePart) (by decide +kernel) gap
      dsimp only at straight ⊢
      rw [straight, part]
      rfl

theorem nameFrom_agrees (acc : String) (escaped : Bool) (within : i ≤ v.size) {fuel room : Nat}
    (full : v.outer.size ≤ v.shift + i + fuel) (enough : v.size < i + room) :
    v.Agrees behind (nameFrom v.outer (v.shift + i) acc escaped fuel) (nameFrom v.inner i acc escaped room) := by
  have long := v.size_lt
  have limit := v.ending.bounds
  induction fuel generalizing i acc escaped room with
  | zero => omega
  | succ fuel ih =>
    obtain ⟨room, rfl⟩ : ∃ r, room = r + 1 := ⟨room - 1, by omega⟩
    obtain ⟨inside, c, there, here⟩ | ⟨-, ⟨c, there, gap⟩, here⟩ := within_or_end within
    · rw [nameFrom, nameFrom, there, here]
      dsimp only
      refine .ite ?_ (.ite (ih _ _ inside (by omega) (by omega)) (.behind acc escaped within))
      rw [Nat.add_assoc, beq_at? (by decide) inside]
      split
      next unicode =>
        have further : i + 1 < v.size := inside_of_beq (by decide) unicode inside
        cases found : unicodeEscape v.outer (v.shift + i + 2) with
        | none => exact .fails
        | some r =>
          intro n l read fits
          obtain ⟨m, j⟩ := r
          obtain ⟨part, read⟩ := Option.ite_none_right_eq_some.mp read
          obtain ⟨k, reached, rfl, found'⟩ := (unicodeEscape_matches (i := i + 2) further).agrees m j found (Nat.le_refl j)
          have passed := unicodeEscape_le found'
          rw [found']
          dsimp only
          rw [if_pos part]
          exact ih _ _ reached (by omega) (by omega) n l read fits
      next => exact .fails
    · rw [nameFrom_gap (by rw [there]; exact gap), nameFrom_gap here]
      exact .behind acc escaped within

end Names

section Numbers

variable {v} {i : Nat}

theorem digitsFrom_gap {src : Source} (gap : (at? src i).all isGap = true) {base : Nat} (small : base ≤ 16) (n count : Nat)
    (afterDigit : Bool) (fuel : Nat) : digitsFrom src base i n count afterDigit (fuel + 1) =
      if afterDigit || count == 0 then some (n, count, i) else none := by
  rw [digitsFrom]
  cases there : at? src i with
  | none => rfl
  | some c =>
    rw [there] at gap
    have low := dark (p := (· == '_')) (by decide) gap
    have large := of_decide_eq_false (dark (p := fun c => digitValue c < 16) (by decide) gap)
    dsimp only at low ⊢
    rw [low, if_neg Bool.false_ne_true, if_neg fun digit => large (Nat.lt_of_lt_of_le digit small)]

theorem digitsFrom_agrees (base n count : Nat) (afterDigit : Bool) (small : base ≤ 16) (within : i ≤ v.size)
    {fuel room : Nat} (full : v.outer.size ≤ v.shift + i + fuel) (enough : v.size ≤ i + room) :
    v.Agrees behind (digitsFrom v.outer base (v.shift + i) n count afterDigit fuel)
      (digitsFrom v.inner base i n count afterDigit room) := by
  have long := v.size_lt
  have limit := v.ending.bounds
  induction fuel generalizing i n count afterDigit room with
  | zero => omega
  | succ fuel ih =>
    obtain ⟨inside, c, there, here⟩ | ⟨-, ⟨c, there, gap⟩, here⟩ := within_or_end within
    · obtain ⟨room, rfl⟩ : ∃ r, room = r + 1 := ⟨room - 1, by omega⟩
      rw [digitsFrom, digitsFrom, there, here]
      exact .ite (.ite (ih _ _ _ inside (by omega) (by omega)) .fails)
        (.ite (ih _ _ _ inside (by omega) (by omega)) (.ite (.behind n count within) .fails))
    · rw [digitsFrom_gap (by rw [there]; exact gap) small]
      cases room with
      | zero =>
        intro r j read fits
        obtain ⟨-, read⟩ := Option.ite_none_right_eq_some.mp read
        exact AgreesTo.behind n count within r j read fits
      | succ room =>
        rw [digitsFrom_gap here small]
        exact .ite (.behind n count within) .fails

theorem digits_agrees {α : Type} (f : Nat → α) (within : i ≤ v.size) :
    v.Agrees Prod.mk
      (match digitsFrom v.outer 10 (v.shift + i) 0 0 false v.outer.size with
        | .some (n, count, j) => if count == 0 then .none else .some (f n, j)
        | .none => .none)
      (match digitsFrom v.inner 10 i 0 0 false v.inner.size with
        | .some (n, count, j) => if count == 0 then .none else .some (f n, j)
        | .none => .none) := by
  intro b l read fits
  cases found : digitsFrom v.outer 10 (v.shift + i) 0 0 false v.outer.size with
  | none =>
    rw [found] at read
    cases read
  | some r =>
    obtain ⟨n, count, j⟩ := r
    rw [found] at read
    obtain ⟨counted, read⟩ := Option.ite_none_left_eq_some.mp read
    obtain ⟨rfl, rfl⟩ := Prod.mk.inj (Option.some.inj read)
    obtain ⟨k, reached, rfl, found'⟩ := digitsFrom_agrees 10 0 0 false (by decide) within (Nat.le_add_left ..)
      (Nat.le_add_left_of_le v.ending.size_le) (n, count) j found fits
    rw [found']
    exact ⟨k, reached, rfl, if_neg counted⟩

theorem exponentFrom_gap {src : Source} (gap : (at? src i).all isGap = true) : exponentFrom src i = some (0, i) := by
  rw [exponentFrom]
  cases there : at? src i with
  | none => rfl
  | some c =>
    rw [there] at gap
    exact if_neg (Bool.eq_false_iff.mp (dark (p := fun c => c == 'e' || c == 'E') (by decide) gap))

theorem exponentFrom_agrees (within : i ≤ v.size) :
    v.Agrees Prod.mk (exponentFrom v.outer (v.shift + i)) (exponentFrom v.inner i) := by
  have none : v.Agrees Prod.mk (.some ((0 : Int), v.shift + i)) (.some (0, i)) := .same 0 within (by simp)
  obtain ⟨inside, c, there, here⟩ | ⟨-, ⟨c, there, gap⟩, here⟩ := within_or_end within
  · rw [exponentFrom, exponentFrom, there, here]
    refine .ite ?_ none
    rw [Nat.add_assoc, beq_at? (by decide) inside, beq_at? (by decide) inside]
    cases minus : at? v.inner (i + 1) == .some '-' with
    | true => exact digits_agrees (fun n => -(n : Int)) (inside_of_beq (by decide) minus inside)
    | false =>
      cases plus : at? v.inner (i + 1) == .some '+' with
      | true => exact digits_agrees Nat.cast (inside_of_beq (by decide) plus inside)
      | false => exact digits_agrees Nat.cast inside
  · rw [exponentFrom_gap (by rw [there]; exact gap), exponentFrom_gap here]
    exact none

theorem AgreesTo.bind {α β γ δ : Type} {mk : β → Nat → α} {mk' : δ → Nat → γ} {x y : Option α} {f g : α → Option γ}
    (first : v.Agrees mk x y) (shape : ∀ a, x = some a → ∃ b j, a = mk b j)
    (later : ∀ b j c l, f (mk b j) = some (mk' c l) → j ≤ l)
    (next : ∀ b k, k ≤ v.size → v.Agrees mk' (f (mk b (v.shift + k))) (g (mk b k))) :
    v.Agrees mk' (x >>= f) (y >>= g) := by
  intro c l read fits
  obtain ⟨a, found, rest⟩ := Option.bind_eq_some_iff.mp read
  obtain ⟨b, j, rfl⟩ := shape a found
  obtain ⟨k, reached, rfl, found'⟩ := first b j found (Nat.le_trans (later b j c l rest) fits)
  rw [found']
  exact next b k reached c l rest fits

theorem suffix_agrees (big : Token) {x y : Option (Token × Nat)} (within : i ≤ v.size)
    (other : v.Agrees Prod.mk x y) :
    v.Agrees Prod.mk (if at? v.outer (v.shift + i) == .some 'n' then .some (big, v.shift + i + 1) else x)
      (if at? v.inner i == .some 'n' then .some (big, i + 1) else y) := by
  rw [beq_at? (by decide) within]
  split
  next suffix => exact .same big (inside_of_beq (by decide) suffix within) (by simp)
  next => exact other

theorem radixFrom_agrees (base : Nat) (small : base ≤ 16) (within : i ≤ v.size) :
    v.Agrees Prod.mk (radixFrom v.outer base (v.shift + i)) (radixFrom v.inner base i) := by
  refine (digitsFrom_agrees base 0 0 false small within (Nat.le_add_left ..) (Nat.le_add_left_of_le v.ending.size_le)).bind
    (fun r _ => ⟨(r.1, r.2.1), r.2.2, rfl⟩) ?_ ?_
  · rintro ⟨n, count⟩ j t l read
    dsimp only [behind] at read
    split at read
    · cases read
    · split at read
      · cases read
        omega
      · cases read
        omega
  · rintro ⟨n, count⟩ k reached
    exact .ite .fails (suffix_agrees (.bigint n) reached (.same _ reached (by simp)))

theorem decimalFrom_agrees (n count : Nat) (within : i ≤ v.size) :
    v.Agrees Prod.mk (decimalFrom v.outer n count (v.shift + i)) (decimalFrom v.inner n count i) := by
  have scaled : ∀ {n count places k : Nat}, k ≤ v.size → v.Agrees Prod.mk (do
      let power ← exponentFrom v.outer (v.shift + k)
      if count == 0 then none
      some (Token.number (Double.ofDecimal n (power.1 - places)), power.2)) (do
      let power ← exponentFrom v.inner k
      if count == 0 then none
      some (Token.number (Double.ofDecimal n (power.1 - places)), power.2)) := by
    intro n count places k reached
    refine (exponentFrom_agrees reached).bind (fun r _ => ⟨r.1, r.2, rfl⟩) ?_ fun e k ends =>
      .ite .fails (.same _ ends (by simp))
    intro e j t l read
    dsimp only at read
    split at read
    · cases read
    · cases read
      exact Nat.le_refl _
  have further : ∀ {n count places k l : Nat} {t : Token}, (do
      let power ← exponentFrom v.outer k
      if count == 0 then none
      some (Token.number (Double.ofDecimal n (power.1 - places)), power.2)) = .some (t, l) → k ≤ l := by
    intro n count places k l t read
    obtain ⟨⟨e, m⟩, exponent, rest⟩ := Option.bind_eq_some_iff.mp read
    dsimp only at rest
    split at rest
    · cases rest
    · cases rest
      exact exponentFrom_le exponent
  rw [decimalFrom, decimalFrom, beq_at? (by decide) within]
  dsimp only
  split
  next point =>
    have inside := inside_of_beq (by decide) point within
    rw [Nat.add_assoc, beq_at? (by decide) inside]
    refine .ite .fails ?_
    refine (digitsFrom_agrees 10 n 0 false (by decide) inside (Nat.le_add_left ..)
      (Nat.le_add_left_of_le v.ending.size_le)).bind
      (fun r _ => ⟨(r.1, r.2.1), r.2.2, rfl⟩) (fun r j t l read => further read) fun r k reached => scaled reached
  next => exact scaled within

theorem baseOf_gap {x : Option Char} (gap : x.all isGap = true) : baseOf x = none := by
  cases x with
  | none => rfl
  | some c =>
    have none : gaps.all (fun c => (baseOf (some c)).isNone) = true := by decide
    exact Option.isNone_iff_eq_none.mp (List.all_eq_true.mp none c (mem_gaps gap))

theorem numberAt_agrees (inside : i < v.size) :
    v.Agrees Prod.mk (numberAt v.outer (v.shift + i)) (numberAt v.inner i) := by
  have base : baseOf (at? v.outer (v.shift + (i + 1))) = baseOf (at? v.inner (i + 1)) := by
    obtain ⟨-, c, there, here⟩ | ⟨-, ⟨c, there, gap⟩, here⟩ := within_or_end inside
    · rw [there, here]
    · rw [baseOf_gap here, there]
      exact baseOf_gap gap
  rw [numberAt_eq, numberAt_eq, Nat.add_assoc, base, beq_at? (by decide) inside.le, any_at? (by decide) inside]
  cases marked : if at? v.inner i == .some '0' then baseOf (at? v.inner (i + 1)) else none with
  | some base =>
    obtain ⟨-, marked⟩ := Option.ite_none_right_eq_some.mp marked
    obtain ⟨further, -⟩ | ⟨-, -, here⟩ := within_or_end inside
    · exact radixFrom_agrees base (baseOf_le marked) further
    · rw [baseOf_gap here] at marked
      cases marked
  | none =>
    refine .ite .fails ?_
    refine (digitsFrom_agrees 10 0 0 false (by decide) inside.le (Nat.le_add_left ..)
      (Nat.le_add_left_of_le v.ending.size_le)).bind (fun r _ => ⟨(r.1, r.2.1), r.2.2, rfl⟩) ?_ fun r k reached =>
        suffix_agrees _ reached (decimalFrom_agrees _ _ reached)
    intro r j t l read
    dsimp only [behind] at read
    split at read
    · cases read
      exact Nat.le_succ _
    · exact (decimalFrom_le read).1

theorem number_agrees (inside : i < v.size) :
    v.Agrees Prod.mk (number v.outer (v.shift + i)) (number v.inner i) := by
  refine (numberAt_agrees inside).bind (fun r _ => ⟨r.1, r.2, rfl⟩) ?_ fun t k reached => ?_
  · intro t j u l read
    dsimp only at read
    split at read
    · cases read
    · cases read
      exact Nat.le_refl _
  · dsimp only
    rw [any_at? (by decide +kernel) reached]
    exact .ite .fails (.same t reached (by simp))

end Numbers

section Texts

variable {v} {i : Nat}

-- A carriage return that is written behind a backslash takes a line feed with it.
theorem newline_matches (inside : i + 1 ≤ v.size) : v.Matches (v.shift + v.size)
    (.some ((#[] : Units), if at? v.outer (v.shift + (i + 1)) == .some '\n' then v.shift + i + 2 else v.shift + (i + 1)))
    (.some (#[], if at? v.inner (i + 1) == .some '\n' then i + 2 else i + 1)) := by
  obtain ⟨further, d, there, here⟩ | ⟨last, -⟩ := within_or_end inside
  · rw [there, here]
    split
    · exact .same #[] (i := i + 2) further
    · exact .same #[] inside
  · rcases v.ending.parts with ⟨there, -, here⟩ | ⟨there, -⟩ <;> rw [← last] at there
    · rw [← last] at here
      rw [there, here]
      exact .same #[] inside
    · rw [there]
      refine ⟨.beyond fun u j read => ?_, nofun⟩
      cases read
      change v.shift + v.size < v.shift + i + 2
      omega

theorem stringEscape_matches (within : i ≤ v.size) :
    v.Matches (v.shift + v.size) (stringEscape v.outer (v.shift + i)) (stringEscape v.inner i) := by
  obtain ⟨inside, c, there, here⟩ | ⟨rfl, -⟩ := within_or_end within
  · have short (u : Units) : v.Matches (v.shift + v.size) (.some (u, v.shift + i + 1)) (.some (u, i + 1)) := .same u inside
    rw [stringEscape, stringEscape, there, here]
    dsimp only
    rw [Nat.add_assoc, any_at? (by decide) inside]
    exact .ite (short _) <| .ite (short _) <| .ite (short _) <| .ite (short _) <| .ite (short _) <| .ite (short _) <|
      .ite (newline_matches inside) <| .ite (short _) <|
      .ite (.map (fun n => #[n.toUInt16]) (hexDigits_matches 0 2 inside)) <|
      .ite (.map Units.ofCode (unicodeEscape_matches inside)) <| .ite (short _) <| .ite .never (short _)
  · refine ⟨.beyond fun u j read => Nat.lt_of_succ_le (stringEscape_le _ read), fun missed => ?_⟩
    rw [stringEscape] at missed
    rcases v.ending.parts with ⟨there, -⟩ | ⟨there, -⟩ <;> rw [there] at missed <;> cases missed

theorem stringFrom_agrees {quote : Char} (other : isGap quote = false) (acc : Units) (within : i ≤ v.size) {fuel room : Nat}
    (enough : v.size < i + room) :
    v.Agrees Prod.mk (stringFrom v.outer quote (v.shift + i) acc fuel) (stringFrom v.inner quote i acc room) := by
  have limit := v.ending.bounds
  induction fuel generalizing i acc room with
  | zero => exact .fails
  | succ fuel ih =>
    obtain ⟨inside, c, there, here⟩ | ⟨rfl, -⟩ := within_or_end within
    · obtain ⟨room, rfl⟩ : ∃ r, room = r + 1 := ⟨room - 1, by omega⟩
      rw [stringFrom, stringFrom, there, here]
      refine .ite (.same acc inside (by simp)) (.ite ?_ (.ite .fails (ih _ inside (by omega))))
      intro u l read fits
      cases found : stringEscape v.outer (v.shift + i + 1) with
      | none =>
        rw [found] at read
        cases read
      | some r =>
        obtain ⟨w, j⟩ := r
        rw [found] at read
        have later := stringFrom_le read
        obtain ⟨k, reached, rfl, found'⟩ := (stringEscape_matches (i := i + 1) inside).agrees w j found (by omega)
        have passed := stringEscape_le _ found'
        rw [found']
        exact ih _ reached (by omega) u l read fits
    · rcases v.ending.parts with ⟨-, ends, -⟩ | ⟨there, -⟩
      · exact .beyond fun u j read => by rw [ends]; exact stringFrom_le read
      · have apart : ('\n' == quote) = false := beq_eq_false_iff_ne.mpr fun same => by rw [← same] at other; cases other
        rw [stringFrom, there]
        dsimp only
        rw [apart]
        exact .fails

theorem regexpFrom_agrees (inClass : Bool) (acc : Units) (within : i ≤ v.size) {fuel room : Nat}
    (enough : v.size < i + room) :
    v.Agrees Prod.mk (regexpFrom v.outer (v.shift + i) inClass acc fuel) (regexpFrom v.inner i inClass acc room) := by
  have ending := v.ending.parts
  induction fuel generalizing i inClass acc room with
  | zero => exact .fails
  | succ fuel ih =>
    obtain ⟨inside, c, there, here⟩ | ⟨rfl, -⟩ := within_or_end within
    · obtain ⟨room, rfl⟩ : ∃ r, room = r + 1 := ⟨room - 1, by omega⟩
      rw [regexpFrom, regexpFrom, there, here]
      refine .ite .fails (.ite ?_ (.ite (.same acc inside (by simp)) (ih _ _ inside (by omega))))
      obtain ⟨further, d, there, here⟩ | ⟨last, -⟩ := within_or_end (i := i + 1) inside
      · rw [Nat.add_assoc, there, here]
        exact .ite .fails (ih _ _ further (by omega))
      · rw [Nat.add_assoc, last]
        rcases ending with ⟨there, ends, -⟩ | ⟨there, -⟩
        · rw [there]
          refine .beyond fun u j read => ?_
          have later := regexpFrom_le (Option.ite_none_left_eq_some.mp read).2
          omega
        · rw [there]
          exact .fails
    · rcases ending with ⟨-, ends, -⟩ | ⟨there, -⟩
      · exact .beyond fun u j read => by rw [ends]; exact regexpFrom_le read
      · rw [regexpFrom, there]
        exact .fails

theorem extract_agrees {k : Nat} (reached : k ≤ v.size) :
    v.outer.extract (v.shift + i) (v.shift + k) = v.inner.extract i k := by
  have long := v.size_lt
  have limit := v.ending.bounds
  have short := v.ending.size_le
  refine Array.ext (by rw [Array.size_extract, Array.size_extract]; omega) fun n first second => ?_
  rw [Array.size_extract] at second
  rw [Array.getElem_extract, Array.getElem_extract]
  have same := v.same (i + n) (by omega)
  rw [at?, at?, ← Nat.add_assoc, Array.getElem?_eq_getElem (by omega), Array.getElem?_eq_getElem (by omega)] at same
  exact Option.some.inj same

def stretch (r : Option Units × Units × Bool) (j : Nat) : Option Units × Units × Bool × Nat :=
  (r.1, r.2.1, r.2.2, j)

-- A template that goes on behind what the texts have in common goes on behind the bracket.
theorem templateFrom_beyond {j : Nat} (past : v.shift + v.size < j) {cooked : Option Units} {raw : Units} {fuel : Nat}
    {y : Option (Option Units × Units × Bool × Nat)} : v.Agrees stretch (templateFrom v.outer j cooked raw fuel) y := by
  refine .beyond fun u l read => ?_
  have limit := v.ending.bounds
  have later := templateFrom_le read
  omega

theorem templateFrom_agrees (cooked : Option Units) (raw : Units) (within : i ≤ v.size) {fuel room : Nat}
    (enough : v.size < i + room) :
    v.Agrees stretch (templateFrom v.outer (v.shift + i) cooked raw fuel) (templateFrom v.inner i cooked raw room) := by
  have stops (text : Option Units) (written : Units) (more : Bool) {i : Nat} (within : i ≤ v.size) :
      v.Agrees stretch (.some (text, written, more, v.shift + i)) (.some (text, written, more, i)) :=
    .same (text, written, more) within (by simp [stretch])
  induction fuel generalizing i cooked raw room with
  | zero => exact .fails
  | succ fuel ih =>
    obtain ⟨inside, c, there, here⟩ | ⟨rfl, -⟩ := within_or_end within
    · obtain ⟨room, rfl⟩ : ∃ r, room = r + 1 := ⟨room - 1, by omega⟩
      rw [templateFrom, templateFrom, there, here]
      dsimp only
      rw [Nat.add_assoc v.shift i 1]
      refine .ite (stops _ _ _ inside) ?_
      rw [beq_at? (by decide) inside]
      split
      next part =>
        rw [Bool.and_eq_true] at part
        exact stops _ _ _ (inside_of_beq (by decide) part.2 inside)
      next =>
        refine .ite ?_ (.ite ?_ (ih _ _ inside (by omega)))
        · have escape := stringEscape_matches (i := i + 1) inside
          obtain ⟨further, d, there', here'⟩ | ⟨last, -⟩ := within_or_end (i := i + 1) inside
          · cases found : stringEscape v.outer (v.shift + (i + 1)) with
            | none =>
              rw [escape.fails found, there', here']
              exact ih _ _ further (by omega)
            | some r =>
              obtain ⟨u, j⟩ := r
              by_cases short : j ≤ v.shift + v.size
              · obtain ⟨k, reached, rfl, found'⟩ := escape.agrees u j found short
                have passed := stringEscape_le _ found'
                rw [found', there', here']
                dsimp only
                rw [extract_agrees reached]
                exact ih _ _ reached (by omega)
              · exact templateFrom_beyond (Nat.not_le.mp short)
          · rw [last]
            cases found : stringEscape v.outer (v.shift + v.size) with
            | none =>
              obtain ⟨d, there', -⟩ := v.ending.outer_gap
              rw [there']
              exact templateFrom_beyond (by omega)
            | some r => exact templateFrom_beyond (stringEscape_le _ found)
        · obtain ⟨further, d, there', here'⟩ | ⟨last, -⟩ := within_or_end (i := i + 1) inside
          · rw [there', here']
            cases some d == some '\n' with
            | true => exact ih _ _ (i := i + 2) further (by omega)
            | false => exact ih _ _ inside (by omega)
          · rcases v.ending.parts with ⟨there', -, here'⟩ | ⟨there', -⟩ <;> rw [← last] at there'
            · rw [← last] at here'
              rw [there', here']
              exact ih _ _ inside (by omega)
            · rw [there']
              exact templateFrom_beyond (j := v.shift + i + 2) (by omega)
    · rcases v.ending.parts with ⟨-, ends, -⟩ | ⟨there, -⟩
      · exact .beyond fun u j read => by rw [ends]; exact templateFrom_le read
      · rw [templateFrom, there]
        exact templateFrom_beyond (Nat.lt_succ_self _)

end Texts

section Blanks

variable {v} {i : Nat}

theorem startsAt_agrees {p : List Char} (other : ∀ c ∈ p, isGap c = false) (within : i ≤ v.size) :
    startsAt v.outer p (v.shift + i) = startsAt v.inner p i := by
  induction p generalizing i with
  | nil => rfl
  | cons c rest ih =>
    obtain ⟨first, later⟩ := List.forall_mem_cons.mp other
    rw [startsAt, startsAt, beq_at? first within]
    cases here : at? v.inner i == .some c with
    | false => rfl
    | true => exact ih later (inside_of_beq first here within)

theorem startsAt_within {p : List Char} (other : ∀ c ∈ p, isGap c = false) (within : i ≤ v.size)
    (starts : startsAt v.inner p i = true) : i + p.length ≤ v.size := by
  induction p generalizing i with
  | nil => exact within
  | cons c rest ih =>
    obtain ⟨first, later⟩ := List.forall_mem_cons.mp other
    rw [startsAt, Bool.and_eq_true] at starts
    have whole := ih later (inside_of_beq first starts.1 within) starts.2
    rw [List.length_cons]
    omega

theorem puncts_apart : ∀ p ∈ puncts, p = [')'] ∨ ∀ c ∈ p, isGap c = false := by
  have each : puncts.all (fun p => p == [')'] || p.all (!isGap ·)) = true := by decide
  intro p listed
  have one := List.all_eq_true.mp each p listed
  rw [Bool.or_eq_true, beq_iff_eq] at one
  refine one.imp_right fun apart c inside => ?_
  simpa using List.all_eq_true.mp apart c inside

theorem punct_agrees (inside : i < v.size) :
    v.Agrees Prod.mk (punct v.outer (v.shift + i)) (punct v.inner i) := by
  have marks : puncts.find? (startsAt v.outer · (v.shift + i)) = puncts.find? (startsAt v.inner · i) := by
    refine List.find?_congr fun p listed => ?_
    rcases puncts_apart p listed with rfl | apart
    · rw [startsAt, startsAt, at?_inner inside]
      rfl
    · exact startsAt_agrees apart inside.le
  rw [punct, punct, marks]
  cases found : puncts.find? (startsAt v.inner · i) with
  | none => exact .fails
  | some p =>
    have starts := List.find?_some found
    have whole : i + p.length ≤ v.size := by
      rcases puncts_apart p (List.mem_of_find?_eq_some found) with rfl | apart
      · exact inside
      · exact startsAt_within apart inside.le starts
    dsimp only
    have digit : (p == ['?', '.'] && (at? v.outer (v.shift + i + 2)).any Char.isDigit) =
        (p == ['?', '.'] && (at? v.inner (i + 2)).any Char.isDigit) := by
      cases question : p == ['?', '.'] with
      | false => rfl
      | true =>
        rw [beq_iff_eq] at question
        subst question
        rw [Nat.add_assoc, any_at? (by decide) (show i + 2 ≤ v.size from whole)]
    rw [digit, Nat.add_assoc, Nat.add_assoc]
    exact .ite (.same (f := Prod.mk) _ inside (by simp)) (.same (f := Prod.mk) _ whole (by simp))

theorem startsAt_eq (src : Source) (p : List Char) (i : Nat) :
    startsAt src p i = ((src.toList.drop i).take p.length == p) := by
  induction p generalizing i with
  | nil => rw [startsAt, List.length_nil, List.take_zero]; rfl
  | cons c rest ih =>
    rw [startsAt, ih (i + 1), at?, ← Array.getElem?_toList, ← List.head?_drop, ← List.drop_drop]
    cases src.toList.drop i with
    | nil => rfl
    | cons d more => rfl

theorem standsAt_eq (src : Source) (mark : String) (i : Nat) : standsAt src mark i = startsAt src mark.toList i := by
  rw [standsAt, startsAt_eq, Array.toList_extract, List.extract_eq_take_drop, Nat.add_sub_cancel_left, String.length_toList]

theorem standsAt_agrees {mark : String} (other : mark.toList.all (!isGap ·) = true) (within : i ≤ v.size) :
    standsAt v.outer mark (v.shift + i) = standsAt v.inner mark i := by
  rw [standsAt_eq, standsAt_eq]
  exact startsAt_agrees (fun c inside => by simpa using List.all_eq_true.mp other c inside) within

theorem lineCommentEnd_agrees (within : i ≤ v.size) {fuel room : Nat} (full : v.outer.size ≤ v.shift + i + fuel)
    (enough : v.inner.size ≤ i + room) :
    v.edge < lineCommentEnd v.outer (v.shift + i) fuel ∨
      (∃ k, k < v.size ∧ lineCommentEnd v.outer (v.shift + i) fuel = v.shift + k ∧ lineCommentEnd v.inner i room = k) ∨
      (v.edge = v.shift + v.size + 1 ∧ lineCommentEnd v.outer (v.shift + i) fuel = v.shift + v.size ∧
        ∃ n, v.inner.size ≤ v.size + n ∧ lineCommentEnd v.inner i room = lineCommentEnd v.inner v.size n) := by
  have long := v.size_lt
  have limit := v.ending.bounds
  have short := v.ending.size_le
  induction fuel generalizing i room with
  | zero => omega
  | succ fuel ih =>
    obtain ⟨inside, c, there, here⟩ | ⟨rfl, -⟩ := within_or_end within
    · obtain ⟨room, rfl⟩ : ∃ r, room = r + 1 := ⟨room - 1, by omega⟩
      rw [lineCommentEnd, lineCommentEnd, there, here]
      dsimp only
      split
      · exact .inr (.inl ⟨i, inside, rfl, rfl⟩)
      · exact ih (i := i + 1) inside (by omega) (by omega)
    · rw [lineCommentEnd]
      rcases v.ending.parts with ⟨there, ends, -⟩ | ⟨there, ends⟩
      · left
        rw [there, ends]
        exact lineCommentEnd_le _ _
      · right
        right
        rw [there]
        exact ⟨ends, rfl, room, enough, rfl⟩

theorem blockCommentEnd_agrees (newline : Bool) (within : i ≤ v.size) {fuel room : Nat}
    (enough : v.size < i + room) :
    v.Agrees (fun n j => (j, n)) (blockCommentEnd v.outer (v.shift + i) newline fuel)
      (blockCommentEnd v.inner i newline room) := by
  -- Past the bracket nothing ends in front of it.
  have beyond (newline : Bool) (fuel : Nat) {y : Option (Nat × Bool)} :
      v.Agrees (fun n j => (j, n)) (blockCommentEnd v.outer v.edge newline fuel) y := by
    cases fuel with
    | zero => exact .fails
    | succ fuel =>
      rw [blockCommentEnd, v.ending.bracket]
      exact .beyond fun n j read => blockCommentEnd_le read
  induction fuel generalizing i newline room with
  | zero => exact .fails
  | succ fuel ih =>
    obtain ⟨inside, c, there, here⟩ | ⟨rfl, -⟩ := within_or_end within
    · obtain ⟨room, rfl⟩ : ∃ r, room = r + 1 := ⟨room - 1, by omega⟩
      rw [blockCommentEnd, blockCommentEnd, there, here]
      dsimp only
      rw [Nat.add_assoc v.shift i 1, beq_at? (by decide) inside]
      split
      next ends =>
        rw [Bool.and_eq_true] at ends
        exact .same (f := fun n j => (j, n)) newline (inside_of_beq (by decide) ends.2 inside) (by simp_all)
      next => exact ih _ inside (by omega)
    · rcases v.ending.parts with ⟨-, ends, -⟩ | ⟨there, ends⟩
      · rw [← ends]
        exact beyond _ _
      · rw [blockCommentEnd, there]
        exact ends ▸ beyond _ fuel

theorem lineCommentEnd_passes {src : Source} {c : Char} (there : at? src i = .some c) (line : ¬ isLineEnd c = true) :
    i + 1 ≤ lineCommentEnd src i src.size := by
  obtain ⟨fuel, size⟩ := Nat.exists_eq_add_of_lt (Array.getElem?_eq_some_iff.mp there).1
  rw [size, lineCommentEnd, there]
  dsimp only
  rw [if_neg line]
  exact lineCommentEnd_le _ _

variable (v) in
def Finds (x y : Option (Nat × Bool)) : Prop :=
  ∀ j n, x = some (j, n) → j ≤ v.edge →
    (∃ k, k < v.size ∧ j = v.shift + k ∧ y = some (k, n)) ∨ (j = v.edge ∧ y = some (v.closing.start, n))

theorem Finds.ite {c : Prop} [Decidable c] {x x' y y' : Option (Nat × Bool)} (first : v.Finds x y) (second : v.Finds x' y') :
    v.Finds (if c then x else x') (if c then y else y') := by
  split
  · exact first
  · exact second

theorem Finds.here (newline : Bool) (inside : i < v.size) : v.Finds (.some (v.shift + i, newline)) (.some (i, newline)) := by
  intro j n same _
  cases same
  exact .inl ⟨i, inside, rfl, rfl⟩

theorem ne_of_gap {x : Option Char} (gap : x.all isGap = true) {c : Char} (other : isGap c = false) : x ≠ some c := by
  rintro rfl
  exact Bool.eq_false_iff.mp other gap

theorem skipBlanks_bracket {src : Source} (there : at? src i = some ')') (newline : Bool) (fuel : Nat) :
    skipBlanks src i newline fuel = some (i, newline) := by
  cases fuel with
  | zero => rfl
  | succ fuel =>
    rw [skipBlanks, there]
    rfl

theorem Finds.line (ends : v.edge = v.shift + v.size + 1) {j : Nat} (skips : SkipsTo v.inner j v.closing.start) (newline : Bool)
    {fuel room : Nat} (full : v.outer.size < v.shift + v.size + fuel) (enough : v.inner.size < j + room) :
    v.Finds (skipBlanks v.outer (v.shift + v.size) newline fuel) (skipBlanks v.inner j newline room) := by
  have long := v.size_lt
  obtain ⟨fuel, rfl⟩ : ∃ f, fuel = f + 1 := ⟨fuel - 1, by omega⟩
  rcases v.ending.parts with ⟨-, same, -⟩ | ⟨there, -⟩
  · omega
  · rw [skipBlanks, there, skips newline room enough]
    change v.Finds (skipBlanks v.outer (v.shift + v.size + 1) true fuel) _
    rw [← ends, skipBlanks_bracket v.ending.bracket]
    rintro j n ⟨⟩ _
    exact .inr ⟨rfl, rfl⟩

theorem skipBlanks_finds (newline : Bool) (within : i ≤ v.size) {fuel room : Nat}
    (full : v.outer.size < v.shift + i + fuel) (enough : v.inner.size < i + room) :
    v.Finds (skipBlanks v.outer (v.shift + i) newline fuel) (skipBlanks v.inner i newline room) := by
  have long := v.size_lt
  have limit := v.ending.bounds
  have short := v.ending.size_le
  induction fuel generalizing i newline room with
  | zero => omega
  | succ fuel ih =>
    have commented {j : Nat} (passed : v.shift + i < lineCommentEnd v.outer (v.shift + j) v.outer.size)
        (passed' : i < lineCommentEnd v.inner j v.inner.size) (reached : j ≤ v.size) (newline : Bool) :
        v.Finds (skipBlanks v.outer (lineCommentEnd v.outer (v.shift + j) v.outer.size) newline fuel)
          (skipBlanks v.inner (lineCommentEnd v.inner j v.inner.size) newline (room - 1)) := by
      obtain past | ⟨k, inside, there, here⟩ | ⟨ends, there, n, more, here⟩ :=
        lineCommentEnd_agrees reached (Nat.le_add_left v.outer.size _) (Nat.le_add_left v.inner.size _)
      · intro l n read fits
        have later := skipBlanks_le read
        omega
      · rw [there] at passed ⊢
        rw [here] at passed' ⊢
        exact ih newline inside.le (by omega) (by omega)
      · rw [there] at passed ⊢
        rw [here] at passed' ⊢
        exact .line ends (v.ending.commented ends n more) newline (by omega) (by omega)
    obtain ⟨inside, c, there, here⟩ | ⟨rfl, -⟩ := within_or_end within
    · obtain ⟨room, rfl⟩ : ∃ r, room = r + 1 := ⟨room - 1, by omega⟩
      rw [skipBlanks, skipBlanks, there, here]
      dsimp only
      by_cases line : isLineEnd c
      · rw [if_pos line, if_pos line]
        exact ih _ inside (by omega) (by omega)
      rw [if_neg line, if_neg line, standsAt_agrees (by decide) within, standsAt_agrees (by decide) within,
        Nat.add_assoc v.shift i 1]
      refine .ite (ih _ inside (by omega) (by omega)) (.ite ?_ (.ite ?_ (.here _ inside)))
      · obtain ⟨further, d, there, here⟩ | ⟨-, ⟨d, there, gap⟩, here⟩ := within_or_end (i := i + 1) inside
        · rw [there, here]
          split
          next =>
            have passed : v.shift + (i + 2) ≤ lineCommentEnd v.outer (v.shift + (i + 2)) v.outer.size := lineCommentEnd_le _ _
            have passed' : i + 2 ≤ lineCommentEnd v.inner (i + 2) v.inner.size := lineCommentEnd_le _ _
            exact commented (j := i + 2) (by omega) (by omega) further _
          next =>
            intro l n read fits
            cases found : blockCommentEnd v.outer (v.shift + i + 2) newline v.outer.size with
            | none =>
              rw [found] at read
              cases read
            | some r =>
              obtain ⟨j, lines⟩ := r
              rw [found] at read
              have later := skipBlanks_le read
              obtain ⟨k, reached, rfl, found'⟩ := blockCommentEnd_agrees (i := i + 2) newline further
                (by omega : v.size < i + 2 + v.inner.size) lines j found (Nat.le_trans later fits)
              have passed := blockCommentEnd_le found'
              rw [found']
              exact ih lines reached (by omega) (by omega) l n read fits
          next => exact .here _ inside
        · replace gap : (at? v.outer (v.shift + (i + 1))).all isGap = true := there ▸ gap
          split
          next slash => exact (ne_of_gap gap (by decide) slash).elim
          next star => exact (ne_of_gap gap (by decide) star).elim
          next =>
            split
            next slash => exact (ne_of_gap here (by decide) slash).elim
            next star => exact (ne_of_gap here (by decide) star).elim
            next => exact .here _ inside
      · exact commented (lineCommentEnd_passes there line) (lineCommentEnd_passes here line) within _
    · rcases v.ending.parts with ⟨-, ends, -⟩ | ⟨-, ends⟩
      · rw [← ends, skipBlanks_bracket v.ending.bracket]
        rintro j n ⟨⟩ _
        exact .inr ⟨rfl, v.ending.text_skips ends newline room⟩
      · exact .line ends (v.ending.skips ends) newline full enough

end Blanks

section Tokens

variable {v} {i : Nat}

theorem AgreesTo.map {α β γ : Type} {mk : α → Nat → γ} {x y : Option γ} {f : γ → β × Nat} (g : α → β)
    (first : v.Agrees mk x y) (shape : ∀ a, x = some a → ∃ b j, a = mk b j) (moved : ∀ a j, f (mk a j) = (g a, j)) :
    v.Agrees Prod.mk (x.map f) (y.map f) := by
  intro b j read fits
  obtain ⟨r, found, same⟩ := Option.map_eq_some_iff.mp read
  obtain ⟨a, j', rfl⟩ := shape r found
  obtain ⟨rfl, rfl⟩ := Prod.mk.inj ((moved a j').symm.trans same)
  obtain ⟨k, reached, rfl, found'⟩ := first a _ found fits
  exact ⟨k, reached, rfl, by rw [found', Option.map_some, moved]⟩

theorem tokenAt_newline {src : Source} (there : at? src i = some '\n') : tokenAt src i = none := by
  have missed : puncts.find? (startsAt src · i) = none := by
    have each : puncts.all (fun p => p.head?.any (· != '\n')) = true := by decide
    refine List.find?_eq_none.mpr fun p listed starts => ?_
    have other := List.all_eq_true.mp each p listed
    cases p with
    | nil => cases other
    | cons c rest =>
      rw [startsAt, Bool.and_eq_true, there, beq_iff_eq] at starts
      cases starts.1
      cases other
  have start : (isNameStart '\n' || '\n' == '\\') = false := by decide
  rw [tokenAt, there]
  dsimp only
  rw [start, punct, missed]
  rfl

theorem tokenAt_agrees (within : i ≤ v.size) :
    v.Agrees Prod.mk (tokenAt v.outer (v.shift + i)) (tokenAt v.inner i) := by
  have long := v.size_lt
  have limit := v.ending.bounds
  have short := v.ending.size_le
  obtain ⟨inside, c, there, here⟩ | ⟨rfl, -⟩ := within_or_end within
  · rw [tokenAt, tokenAt, there, here]
    dsimp only
    rw [Nat.add_assoc v.shift i 1, any_at? (by decide) inside]
    refine .ite ?_ <| .ite (number_agrees inside) ?_
    · exact .map (fun n => .word n.1 n.2) (nameFrom_agrees "" false within (by omega) (by omega))
        (fun r _ => ⟨(r.1, r.2.1), r.2.2, rfl⟩) fun _ _ => rfl
    split
    next quote =>
      have other : isGap c = false := by
        rw [Bool.or_eq_true, beq_iff_eq, beq_iff_eq] at quote
        rcases quote with rfl | rfl <;> decide
      exact .map Token.string (stringFrom_agrees other #[] inside (by omega)) (fun r _ => ⟨r.1, r.2, rfl⟩) fun _ _ => rfl
    refine .ite ?_ (punct_agrees inside)
    intro t l read fits
    cases found : nameFrom v.outer (v.shift + (i + 1)) "" false (v.outer.size + 1) with
    | none =>
      rw [found] at read
      cases read
    | some r =>
      obtain ⟨n, escaped, j⟩ := r
      rw [found] at read
      obtain ⟨filled, read⟩ := Option.ite_none_left_eq_some.mp read
      obtain ⟨rfl, rfl⟩ := Prod.mk.inj (Option.some.inj read)
      obtain ⟨k, reached, rfl, found'⟩ := nameFrom_agrees "" false inside (by omega)
        (by omega : v.size < i + 1 + (v.inner.size + 1)) (n, escaped) _ found fits
      rw [found']
      exact ⟨k, reached, rfl, if_neg filled⟩
  · rcases v.ending.parts with ⟨there, ends, -⟩ | ⟨there, -⟩
    · refine .beyond fun t j read => ?_
      rw [tokenAt_bracket there] at read
      cases read
      omega
    · rw [tokenAt_newline there]
      exact .fails

end Tokens

end Enclosed
end BoundedScript.Script
