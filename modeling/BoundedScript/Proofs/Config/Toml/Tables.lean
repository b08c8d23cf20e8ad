import BoundedScript.Proofs.Config.Toml.Strings
import BoundedScript.Proofs.Json.Numbers

set_option autoImplicit false

namespace BoundedScript

theorem bind_eq_ok_iff {ε α β : Type} {r : Except ε α} {f : α → Except ε β} {b : β} :
    r >>= f = .ok b ↔ ∃ a, r = .ok a ∧ f a = .ok b := by
  cases r <;> simp [bind, Except.bind]

end BoundedScript

namespace BoundedScript.Toml

open Text Text.Scan

variable {rest : List Char} {fuel n : Nat}

section Numbers

variable {c d : Char} {cs : List Char}

theorem hexValue?_digit (digit : c.isDigit) : hexValue? c = some (c.toNat - 48) := by
  simp [hexValue?, digit]

theorem digitsFrom_step (digit : c.isDigit) (more : d.isDigit) (value count : Nat) :
    digitsFrom Char.isDigit 10 value count (fuel + 1) (c :: d :: rest) =
      digitsFrom Char.isDigit 10 (10 * value + (c.toNat - 48)) (count + 1) fuel (d :: rest) := by
  have apart : d ≠ '_' := (ne_of_digit more (by decide)).symm
  rw [digitsFrom, bind_some (next_cons ..), Nat.mul_comm]
  simp [bind_apply, digit, more, hexValue?_digit digit]

theorem digitsFrom_last (digit : c.isDigit) (value count : Nat) :
    digitsFrom Char.isDigit 10 value count (fuel + 1) (c :: '\n' :: rest) =
      some ((10 * value + (c.toNat - 48), count + 1), '\n' :: rest) := by
  rw [digitsFrom, bind_some (next_cons ..), Nat.mul_comm]
  simp [bind_apply, digit, hexValue?_digit digit]

theorem digitsFrom_written (digits : ∀ d ∈ c :: cs, d.isDigit) (enough : cs.length < fuel) (value count : Nat) :
    ∃ places, digitsFrom Char.isDigit 10 value count fuel (c :: (cs ++ '\n' :: rest)) =
      some ((Nat.ofDigitChars 10 (c :: cs) value, places), '\n' :: rest) := by
  obtain ⟨fuel, rfl⟩ : ∃ k, fuel = k + 1 := ⟨fuel - 1, by omega⟩
  induction cs generalizing c value count fuel with
  | nil => exact ⟨count + 1, digitsFrom_last (digits c List.mem_cons_self) value count⟩
  | cons d cs ih =>
    obtain ⟨digit, later⟩ := List.forall_mem_cons.mp digits
    obtain ⟨fuel, rfl⟩ : ∃ k, fuel = k + 1 := ⟨fuel - 1, by simp at enough; omega⟩
    obtain ⟨places, left⟩ := ih later (10 * value + (c.toNat - 48)) (count + 1) fuel (by simpa using enough)
    refine ⟨places, ?_⟩
    rw [List.cons_append, digitsFrom_step digit (later d List.mem_cons_self), left, Nat.ofDigitChars_cons]
    rfl

theorem front_digits {k : Nat} (digits : (cs.take k).all Char.isDigit) (mark : cs[k]? = some d) (other : d.isDigit = false) :
    (cs.dropWhile Char.isDigit).head? = some d := by
  induction cs generalizing k with
  | nil => simp at mark
  | cons c cs ih =>
    cases k with
    | zero =>
      obtain rfl : c = d := by simpa using mark
      simp [other]
    | succ k =>
      simp only [List.take_succ_cons, List.all_cons, Bool.and_eq_true] at digits
      simp only [List.getElem?_cons_succ] at mark
      rw [List.dropWhile_cons_of_pos digits.1]
      exact ih digits.2 mark

theorem dropWhile_digits (n : Nat) (rest : List Char) :
    (Nat.toDigits 10 n ++ '\n' :: rest).dropWhile Char.isDigit = '\n' :: rest := by
  rw [List.dropWhile_append_of_pos (isDigit_toDigits n)]
  rfl

theorem startsDate_count (n : Nat) (rest : List Char) : startsDate (Nat.toDigits 10 n ++ '\n' :: rest) = false := by
  refine Bool.eq_false_iff.mpr fun starts => ?_
  simp only [startsDate, Bool.and_eq_true, beq_iff_eq] at starts
  have mark := front_digits starts.1 starts.2 (by decide)
  rw [dropWhile_digits] at mark
  cases mark

theorem startsTime_count (n : Nat) (rest : List Char) : startsTime (Nat.toDigits 10 n ++ '\n' :: rest) = false := by
  refine Bool.eq_false_iff.mpr fun starts => ?_
  simp only [startsTime, Bool.and_eq_true, beq_iff_eq] at starts
  have mark := front_digits starts.1 starts.2 (by decide)
  rw [dropWhile_digits] at mark
  cases mark

theorem afterWhole_count (small : n < 0x8000_0000_0000_0000) :
    afterWhole false n ('\n' :: rest) = some (.int n, '\n' :: rest) := by
  have low : -0x8000_0000_0000_0000 ≤ (n : Int) := by omega
  have high : (n : Int) < 0x8000_0000_0000_0000 := by omega
  simp [afterWhole, bind_apply, isExponentMark, whole, low, high]

theorem digits_count (n : Nat) (rest : List Char) :
    ∃ places, digits Char.isDigit 10 (Nat.toDigits 10 n ++ '\n' :: rest) = some ((n, places), '\n' :: rest) := by
  have value : Nat.ofDigitChars 10 (Nat.toDigits 10 n) 0 = n := Nat.ofDigitChars_ten_toDigits
  obtain ⟨c, cs, same, first, others⟩ := toDigits_cons n
  have enough : cs.length < (c :: (cs ++ '\n' :: rest)).length + 1 := by
    simp only [List.length_cons, List.length_append]
    omega
  obtain ⟨places, read⟩ := digitsFrom_written (List.forall_mem_cons.mpr ⟨first, others⟩) enough 0 0
  rw [← same, value] at read
  exact ⟨places, by rw [digits, bind_some (fuel_apply _), same, List.cons_append, read]⟩

theorem decimal_count (small : n < 0x8000_0000_0000_0000) :
    decimal false (Nat.toDigits 10 n ++ '\n' :: rest) = some (.int n, '\n' :: rest) := by
  rcases Nat.eq_zero_or_pos n with rfl | positive
  · have zero : Nat.toDigits 10 0 = ['0'] := rfl
    simpa [zero, decimal, bind_apply] using afterWhole_count small
  · obtain ⟨c, cs, same, lead⟩ := toDigits_head positive
    obtain ⟨places, read⟩ := digits_count n rest
    have first : ((Nat.toDigits 10 n ++ '\n' :: rest).head? == some '0') = false := by simp [same, lead]
    rw [decimal, bind_some (peek_apply _), first, if_neg Bool.false_ne_true, bind_some read]
    exact afterWhole_count small

theorem passes_base {base : String} {x : Char} (text : base.toList = ['0', x]) (letter : x.isDigit = false)
    (newline : x ≠ '\n') (n : Nat) (rest : List Char) :
    passes base (Nat.toDigits 10 n ++ '\n' :: rest) = some (false, Nat.toDigits 10 n ++ '\n' :: rest) := by
  obtain ⟨c, cs, same, -, others⟩ := toDigits_cons n
  have apart : ¬ ['0', x] <+: c :: (cs ++ '\n' :: rest) := by
    cases cs with
    | nil => simp [newline]
    | cons d cs => simp [ne_of_digit (others d List.mem_cons_self) letter]
  rw [passes_apply, text, same, List.cons_append, if_neg (mt List.isPrefixOf_iff_prefix.mp apart)]

theorem passes_count {s : String} {d : Char} {ds : List Char} (text : s.toList = d :: ds) (letter : d.isDigit = false)
    (n : Nat) (rest : List Char) :
    passes s (Nat.toDigits 10 n ++ '\n' :: rest) = some (false, Nat.toDigits 10 n ++ '\n' :: rest) := by
  obtain ⟨c, cs, same, digit, -⟩ := toDigits_cons n
  rw [same]
  exact passes_other text (ne_of_digit digit letter)

theorem number_count (small : n < 0x8000_0000_0000_0000) :
    number (Nat.toDigits 10 n ++ '\n' :: rest) = some (.int n, '\n' :: rest) := by
  have hexadecimal : passes "0x" _ = _ := passes_base rfl (by decide) (by decide) n rest
  have octal : passes "0o" _ = _ := passes_base rfl (by decide) (by decide) n rest
  have binary : passes "0b" _ = _ := passes_base rfl (by decide) (by decide) n rest
  have minus : passes "-" _ = _ := passes_count rfl (by decide) n rest
  have plus : passes "+" _ = _ := passes_count rfl (by decide) n rest
  have infinity : passes "inf" _ = _ := passes_count rfl (by decide) n rest
  have none : passes "nan" _ = _ := passes_count rfl (by decide) n rest
  simp [number, special, bind_apply, hexadecimal, octal, binary, minus, plus, infinity, none, decimal_count small]

theorem numberOrDate_count (small : n < 0x8000_0000_0000_0000) :
    numberOrDate (Nat.toDigits 10 n ++ '\n' :: rest) = some (.int n, '\n' :: rest) := by
  simp [numberOrDate, bind_apply, startsDate_count, startsTime_count, number_count small]

end Numbers

section Values

variable {container : Char → Scan Document}

theorem valueWith_count (small : n < 0x8000_0000_0000_0000) :
    valueWith container (Nat.toDigits 10 n ++ '\n' :: rest) = some (.int n, '\n' :: rest) := by
  have written : numberOrDate (Nat.toDigits 10 n ++ '\n' :: rest) = _ := numberOrDate_count small
  obtain ⟨c, cs, same, digit, -⟩ := toDigits_cons n
  have apart (d : Char) (other : d.isDigit = false) : c ≠ d := (ne_of_digit digit other).symm
  rw [same] at written ⊢
  simpa [valueWith, bind_apply, apart '"' (by decide), apart '\'' (by decide), apart '[' (by decide),
    apart '\x7b' (by decide), digit] using written

theorem valueWith_string (s : String) :
    valueWith container ((stringText s).toList ++ '\n' :: rest) = some (.string s, '\n' :: rest) := by
  obtain ⟨quote, marks, head, read⟩ := stands_stringText s
  obtain ⟨tail, same⟩ := List.head?_eq_some_iff.mp head
  have written := read rest
  rw [same, List.cons_append] at written ⊢
  rcases marks with rfl | rfl <;> simp [valueWith, bind_apply, map_apply, written]

end Values

section Keys

structure IsBare (name : String) : Prop where
  filled : name.toList ≠ []
  plain : ∀ c ∈ name.toList, isBareKey c

instance (name : String) : Decidable (IsBare name) :=
  decidable_of_iff (name.toList ≠ [] ∧ name.toList.all isBareKey)
    ⟨fun ⟨filled, plain⟩ => ⟨filled, List.all_eq_true.mp plain⟩, fun ⟨filled, plain⟩ => ⟨filled, List.all_eq_true.mpr plain⟩⟩

variable {name : String} {path read : List String} {after more : List Char} {m : Char}

theorem IsBare.head (bare : IsBare name) : ∃ c cs, name.toList = c :: cs ∧ isBareKey c := by
  cases same : name.toList with
  | nil => exact absurd same bare.filled
  | cons c cs => exact ⟨c, cs, rfl, bare.plain c (same ▸ List.mem_cons_self)⟩

theorem ne_of_bare {c : Char} (bare : isBareKey c) (d : Char) (other : isBareKey d = false) : d ≠ c := by
  rintro rfl
  rw [bare] at other
  cases other

theorem isSpace_bare {c : Char} (bare : isBareKey c) : isSpace c = false := by
  simp [isSpace, (ne_of_bare bare ' ' (by decide)).symm, (ne_of_bare bare '\t' (by decide)).symm]

theorem simpleKey_bare (bare : IsBare name) (stops : ∀ c ∈ after.head?, isBareKey c = false) :
    simpleKey (name.toList ++ after) = some (name, after) := by
  obtain ⟨c, cs, same, first⟩ := bare.head
  have taken : (name.toList ++ after).takeWhile isBareKey = name.toList := by
    rw [List.takeWhile_append_of_pos bare.plain]
    cases after with
    | nil => simp
    | cons d after => simp [stops d rfl]
  have left : (name.toList ++ after).dropWhile isBareKey = after := by
    rw [List.dropWhile_append_of_pos bare.plain]
    cases after with
    | nil => rfl
    | cons d after => simp [stops d rfl]
  have double : c ≠ '"' := (ne_of_bare first '"' (by decide)).symm
  have single : c ≠ '\'' := (ne_of_bare first '\'' (by decide)).symm
  have peeked : peek (name.toList ++ after) = some (some c, name.toList ++ after) := by simp [same]
  rw [simpleKey, bind_some peeked]
  generalize seen : some c = first
  split
  next => exact absurd (Option.some.inj seen) double
  next => exact absurd (Option.some.inj seen) single
  next => simp [bind_apply, taken, left, bare.filled]

theorem skipSpaces_visible {c : Char} (visible : isSpace c = false) (rest : List Char) :
    skipSpaces (c :: rest) = some ((), c :: rest) := by
  simp [skipSpaces, visible]

theorem skipSpaces_bare (bare : IsBare name) : skipSpaces (name.toList ++ after) = some ((), name.toList ++ after) := by
  obtain ⟨c, cs, same, first⟩ := bare.head
  rw [same, List.cons_append]
  exact skipSpaces_visible (isSpace_bare first) _

theorem keyFrom_last (bare : IsBare name) (stops : ∀ c ∈ after.head?, isBareKey c = false)
    (spaces : after.dropWhile isSpace = m :: rest) (other : m ≠ '.') :
    keyFrom read (fuel + 1) (name.toList ++ after) = some (name :: read, m :: rest) := by
  have gap : skipSpaces after = some ((), m :: rest) := by simp [skipSpaces, spaces]
  have point : passes "." (m :: rest) = _ := passes_other rfl other.symm
  rw [keyFrom, bind_some (skipSpaces_bare bare), bind_some (simpleKey_bare bare stops), bind_some gap, bind_some point]
  rfl

theorem keyFrom_next (bare : IsBare name) :
    keyFrom read (fuel + 1) (name.toList ++ '.' :: more) = keyFrom (name :: read) fuel more := by
  have stops : ∀ c ∈ ('.' :: more).head?, isBareKey c = false := by
    rintro c inside
    obtain rfl : '.' = c := Option.some.inj inside
    decide
  have gap : skipSpaces ('.' :: more) = _ := skipSpaces_visible (by decide) more
  have point : passes "." ('.' :: more) = _ := passes_there "." more
  rw [keyFrom, bind_some (skipSpaces_bare bare), bind_some (simpleKey_bare bare stops), bind_some gap, bind_some point]
  rfl

def dotted (path : List String) (name : String) : List Char :=
  path.flatMap (fun n => n.toList ++ ['.']) ++ name.toList

theorem keyFrom_dotted (each : ∀ n ∈ path, IsBare n) (bare : IsBare name)
    (stops : ∀ c ∈ after.head?, isBareKey c = false) (spaces : after.dropWhile isSpace = m :: rest) (other : m ≠ '.')
    (enough : path.length < fuel) :
    keyFrom read fuel (dotted path name ++ after) = some (name :: (path.reverse ++ read), m :: rest) := by
  obtain ⟨fuel, rfl⟩ : ∃ k, fuel = k + 1 := ⟨fuel - 1, by omega⟩
  induction path generalizing read fuel with
  | nil => exact keyFrom_last bare stops spaces other
  | cons n path ih =>
    obtain ⟨first, later⟩ := List.forall_mem_cons.mp each
    obtain ⟨fuel, rfl⟩ : ∃ k, fuel = k + 1 := ⟨fuel - 1, by simp at enough; omega⟩
    have left : keyFrom (n :: read) (fuel + 1) (dotted path name ++ after) = _ := ih later fuel (by simpa using enough)
    have front : dotted (n :: path) name ++ after = n.toList ++ '.' :: (dotted path name ++ after) := by simp [dotted]
    rw [front, keyFrom_next first, left]
    simp

theorem key_dotted (each : ∀ n ∈ path, IsBare n) (bare : IsBare name)
    (stops : ∀ c ∈ after.head?, isBareKey c = false) (spaces : after.dropWhile isSpace = m :: rest) (other : m ≠ '.')
    (short : path.length + 1 < maxDepth) :
    key (dotted path name ++ after) = some ((path, name), m :: rest) := by
  have read : keyFrom [] maxDepth (dotted path name ++ after) = _ :=
    keyFrom_dotted each bare stops spaces other (by omega)
  rw [key, bind_some read]
  simp [short]

theorem lineEnd_newline (rest : List Char) : lineEnd ('\n' :: rest) = some ((), rest) := by
  have gap : skipSpaces ('\n' :: rest) = _ := skipSpaces_visible (by decide) rest
  have blank : comment ('\n' :: rest) = some ((), '\n' :: rest) := by simp [comment, bind_apply]
  rw [lineEnd, bind_some gap, bind_some blank]
  simp [bind_apply, lineBreak_newline]

end Keys

section Tables

variable {name : String} {before inner : Fields} {way : List (Fields × String)} {node node' : Node}

theorem get?_append (fresh : get? name before = none) (after : Fields) : get? name (before ++ after) = get? name after := by
  rw [get?, Option.map_eq_none_iff] at fresh
  rw [get?, List.find?_append, fresh]
  rfl

theorem get?_last (fresh : get? name before = none) : get? name (before ++ [(name, node)]) = some node := by
  rw [get?_append fresh]
  simp [get?]

theorem put_last (fresh : get? name before = none) :
    put name node' (before ++ [(name, node)]) = before ++ [(name, node')] := by
  induction before with
  | nil => simp [put]
  | cons entry before ih =>
    obtain ⟨k, old⟩ := entry
    have other : (k == name) = false := by
      refine Bool.eq_false_iff.mpr fun same => ?_
      simp [get?, same] at fresh
    have later : get? name before = none := by
      simpa [get?, List.find?_cons, other] using fresh
    simp [put, other, ih later]

def nested : List (Fields × String) → Fields → Fields
  | [], inner => inner
  | (before, name) :: way, inner => before ++ [(name, .table .stated (nested way inner))]

def Fresh (way : List (Fields × String)) : Prop :=
  ∀ w ∈ way, get? w.2 w.1 = none

theorem descend_nested (fresh : Fresh way) (f : Origin → Fields → Option Fields) (inner : Fields) :
    descend false f (way.map (·.2)) .stated (nested way inner) = (f .stated inner).map (nested way) := by
  induction way with
  | nil =>
    have same : nested [] = id := rfl
    rw [same, Option.map_id]
    rfl
  | cons w way ih =>
    obtain ⟨first, later⟩ := List.forall_mem_cons.mp fresh
    obtain ⟨before, name⟩ := w
    simp only [List.map_cons, descend, nested, get?_last first, Bool.false_and, Bool.false_eq_true, if_false, ih later,
      put_last first, Option.map_map]
    rfl

theorem nested_append (way : List (Fields × String)) (before : Fields) (name : String) (inner : Fields) :
    nested (way ++ [(before, name)]) inner = nested way (before ++ [(name, .table .stated inner)]) := by
  induction way with
  | nil => rfl
  | cons w way ih => simp [nested, ih]

theorem descend_openTable (fresh : Fresh way) (new : get? name inner = none) :
    descend false (openTable name) (way.map (·.2)) .stated (nested way inner) =
      some (nested (way ++ [(inner, name)]) []) := by
  rw [descend_nested fresh, openTable, new, nested_append]
  rfl

theorem descend_assign (fresh : Fresh way) (new : get? name inner = none) (d : Document) :
    descend false (fun _ fields => assign [] name d fields) (way.map (·.2)) .stated (nested way inner) =
      some (nested way (inner ++ [(name, .value d)])) := by
  rw [descend_nested fresh]
  simp [assign, descend, stateAt, new]

end Tables

section Statements

variable {s s' s'' : State} {text more : List Char}

def Passes (s : State) (text : List Char) (s' : State) : Prop :=
  ∀ rest fuel, (text ++ rest).length < fuel →
    ∃ left, rest.length < left ∧ statements s fuel (text ++ rest) = statements s' left rest

theorem Passes.nil (s : State) : Passes s [] s :=
  fun _ fuel enough => ⟨fuel, enough, rfl⟩

theorem Passes.append (first : Passes s text s') (second : Passes s' more s'') : Passes s (text ++ more) s'' := by
  intro rest fuel enough
  rw [List.append_assoc] at enough ⊢
  obtain ⟨between, enough', passed⟩ := first (more ++ rest) fuel enough
  obtain ⟨left, spare, passed'⟩ := second rest between enough'
  exact ⟨left, spare, passed.trans passed'⟩

theorem Passes.line (round : ∀ rest fuel, statements s (fuel + 1) (text ++ rest) = statements s' fuel rest)
    (filled : text ≠ []) : Passes s text s' := by
  intro rest fuel enough
  have some := List.length_pos_iff.mpr filled
  rw [List.length_append] at enough
  obtain ⟨fuel, rfl⟩ : ∃ k, fuel = k + 1 := ⟨fuel - 1, by omega⟩
  exact ⟨fuel, by omega, round rest fuel⟩

theorem statements_blank (s : State) (rest : List Char) :
    statements s (fuel + 1) ('\n' :: rest) = statements s fuel rest := by
  have gap : skipSpaces ('\n' :: rest) = _ := skipSpaces_visible (by decide) rest
  have blank : comment ('\n' :: rest) = some ((), '\n' :: rest) := by simp [comment, bind_apply]
  rw [statements, bind_some gap, bind_some blank]
  simp [bind_apply, lineBreak_newline]

theorem Passes.blank (s : State) : Passes s ['\n'] s :=
  .line (fun rest _ => statements_blank s rest) (List.cons_ne_nil _ _)

theorem comment_other {c : Char} (other : c ≠ '#') (rest : List Char) : comment (c :: rest) = some ((), c :: rest) := by
  simp [comment, bind_apply, other]

theorem statements_visible {c : Char} (space : isSpace c = false) (mark : c ≠ '#') (newline : c ≠ '\n')
    (carriage : c ≠ '\r') (rest : List Char) :
    statements s (fuel + 1) (c :: rest) =
      (do if ← passes "[" then statements (← header s) fuel else statements (← assignment s) fuel : Scan State)
        (c :: rest) := by
  rw [statements, bind_some (skipSpaces_visible space rest), bind_some (comment_other mark rest), bind_some (atEnd_apply _),
    List.isEmpty_cons, if_neg Bool.false_ne_true, bind_some (lineBreak_other newline carriage), if_neg Bool.false_ne_true]

variable {way : List (Fields × String)} {inner : Fields} {name : String}

theorem dotted_head {path : List String} (each : ∀ n ∈ path, IsBare n) (bare : IsBare name) (rest : List Char) :
    ∃ c cs, dotted path name ++ rest = c :: cs ∧ isBareKey c := by
  cases path with
  | nil =>
    obtain ⟨c, cs, same, first⟩ := bare.head
    exact ⟨c, cs ++ rest, by simp [dotted, same], first⟩
  | cons n path =>
    obtain ⟨c, cs, same, first⟩ := (each n List.mem_cons_self).head
    exact ⟨c, cs ++ '.' :: (dotted path name ++ rest), by simp [dotted, same], first⟩

theorem header_written (each : ∀ n ∈ way.map (·.2), IsBare n) (bare : IsBare name) (short : way.length + 1 < maxDepth)
    (fresh : Fresh way) (new : get? name inner = none) (root : s.root = nested way inner) (rest : List Char) :
    header s (dotted (way.map (·.2)) name ++ ']' :: '\n' :: rest) =
      some (⟨nested (way ++ [(inner, name)]) [], way.map (·.2) ++ [name]⟩, rest) := by
  have names : key (dotted (way.map (·.2)) name ++ ']' :: '\n' :: rest) =
      some ((way.map (·.2), name), ']' :: '\n' :: rest) :=
    key_dotted each bare (by rintro c ⟨⟩; decide) rfl (by decide) (by simpa using short)
  have opened := descend_openTable fresh new
  have isItem : passes "[" (dotted (way.map (·.2)) name ++ ']' :: '\n' :: rest) =
      some (false, dotted (way.map (·.2)) name ++ ']' :: '\n' :: rest) := by
    obtain ⟨c, cs, same, first⟩ := dotted_head each bare (']' :: '\n' :: rest)
    rw [same]
    exact passes_other rfl (ne_of_bare first '[' (by decide))
  rw [header, bind_some isItem, bind_some names]
  simp [bind_apply, map_apply, lineEnd_newline, root, opened, ofOption]

theorem Passes.header (each : ∀ n ∈ way.map (·.2), IsBare n) (bare : IsBare name) (short : way.length + 1 < maxDepth)
    (fresh : Fresh way) (new : get? name inner = none) (root : s.root = nested way inner) :
    Passes s ('[' :: (dotted (way.map (·.2)) name ++ [']', '\n']))
      ⟨nested (way ++ [(inner, name)]) [], way.map (·.2) ++ [name]⟩ := by
  refine .line (fun rest fuel => ?_) (List.cons_ne_nil _ _)
  have text : '[' :: (dotted (way.map (·.2)) name ++ [']', '\n']) ++ rest =
      '[' :: (dotted (way.map (·.2)) name ++ ']' :: '\n' :: rest) := by simp
  have mark : passes "[" ('[' :: (dotted (way.map (·.2)) name ++ ']' :: '\n' :: rest)) =
      some (true, dotted (way.map (·.2)) name ++ ']' :: '\n' :: rest) := passes_there "[" _
  rw [text, statements_visible (by decide) (by decide) (by decide) (by decide), bind_some mark, if_pos rfl,
    bind_some (header_written each bare short fresh new root rest)]

structure StandsFor (text : List Char) (d : Document) : Prop where
  head : ∃ c cs, text = c :: cs ∧ isSpace c = false
  read : ∀ rest, value (maxDepth - 1) (text ++ '\n' :: rest) = some (d, '\n' :: rest)

theorem assignment_written {d : Document} (bare : IsBare name) (fresh : Fresh way) (new : get? name inner = none)
    (root : s.root = nested way inner) (path : s.path = way.map (·.2)) (stands : StandsFor text d) (rest : List Char) :
    assignment s (name.toList ++ ' ' :: '=' :: ' ' :: (text ++ '\n' :: rest)) =
      some ({ s with root := nested way (inner ++ [(name, .value d)]) }, rest) := by
  have names : key (dotted [] name ++ ' ' :: '=' :: ' ' :: (text ++ '\n' :: rest)) =
      some (([], name), '=' :: ' ' :: (text ++ '\n' :: rest)) :=
    key_dotted (by simp) bare (by rintro c ⟨⟩; decide) rfl (by decide) (by decide)
  have gap : skipSpaces (' ' :: (text ++ '\n' :: rest)) = some ((), text ++ '\n' :: rest) := by
    obtain ⟨c, cs, rfl, visible⟩ := stands.head
    have space : isSpace ' ' := by decide
    simp [skipSpaces, space, visible]
  have stated := descend_assign fresh new d
  change key (name.toList ++ _) = _ at names
  rw [assignment, bind_some names]
  simp [bind_apply, gap, stands.read, lineEnd_newline, root, path, stated, ofOption]

theorem Passes.assignment {d : Document} (bare : IsBare name) (fresh : Fresh way) (new : get? name inner = none)
    (root : s.root = nested way inner) (path : s.path = way.map (·.2)) (stands : StandsFor text d) :
    Passes s (name.toList ++ ' ' :: '=' :: ' ' :: (text ++ ['\n']))
      { s with root := nested way (inner ++ [(name, .value d)]) } := by
  obtain ⟨c, cs, same, first⟩ := bare.head
  have line (rest : List Char) : name.toList ++ ' ' :: '=' :: ' ' :: (text ++ ['\n']) ++ rest =
      name.toList ++ ' ' :: '=' :: ' ' :: (text ++ '\n' :: rest) := by simp
  refine .line (fun rest fuel => ?_) (by simp)
  have mark : passes "[" (name.toList ++ ' ' :: '=' :: ' ' :: (text ++ '\n' :: rest)) =
      some (false, name.toList ++ ' ' :: '=' :: ' ' :: (text ++ '\n' :: rest)) := by
    rw [same]
    exact passes_other rfl (ne_of_bare first '[' (by decide))
  have written := assignment_written bare fresh new root path stands rest
  rw [line]
  rw [same] at written mark ⊢
  rw [List.cons_append, statements_visible (isSpace_bare first) (ne_of_bare first '#' (by decide)).symm
    (ne_of_bare first '\n' (by decide)).symm (ne_of_bare first '\r' (by decide)).symm]
  rw [List.cons_append] at mark written
  rw [bind_some mark, if_neg Bool.false_ne_true, bind_some written]

end Statements

section Lines

variable {way : List (Fields × String)} {inner : Fields} {text : String}

inductive Plain : Json → Option Document → Prop where
  | absent : Plain .null none
  | count (n : Nat) : Plain (.int n) (some (.int n))
  | string (s : String) : Plain (.string s) (some (.string s))

theorem Plain.ne_object {v : Json} {d : Option Document} (plain : Plain v d) (own : List (String × Json)) :
    v ≠ .object own := by
  cases plain <;> simp

theorem standsFor_count {n : Nat} (small : n < 0x8000_0000_0000_0000) : StandsFor (Nat.toDigits 10 n) (.int n) where
  head := by
    obtain ⟨c, cs, same, digit, -⟩ := toDigits_cons n
    refine ⟨c, cs, same, ?_⟩
    simp [isSpace, (ne_of_digit digit (show ' '.isDigit = false by decide)).symm,
      (ne_of_digit digit (show '\t'.isDigit = false by decide)).symm]
  read rest := valueWith_count small

theorem standsFor_string (s : String) : StandsFor (stringText s).toList (.string s) where
  head := by
    obtain ⟨quote, marks, head, -⟩ := stands_stringText s
    obtain ⟨tail, same⟩ := List.head?_eq_some_iff.mp head
    exact ⟨quote, tail, same, by rcases marks with rfl | rfl <;> decide⟩
  read rest := valueWith_string s

inductive Lines : Fields → List (String × Json) → Fields → Prop where
  | done (inner : Fields) : Lines inner [] inner
  | passed {inner inner' : Fields} {name : String} {v : Json} {fields : List (String × Json)} (plain : Plain v none)
      (more : Lines inner fields inner') : Lines inner ((name, v) :: fields) inner'
  | table {inner inner' : Fields} {name : String} {own fields : List (String × Json)} (more : Lines inner fields inner') :
      Lines inner ((name, .object own) :: fields) inner'
  | stated {inner inner' : Fields} {name : String} {v : Json} {d : Document} {fields : List (String × Json)}
      (bare : IsBare name) (new : get? name inner = none) (plain : Plain v (some d))
      (more : Lines (inner ++ [(name, .value d)]) fields inner') : Lines inner ((name, v) :: fields) inner'

variable {name : String} {v : Json} {fields : List (String × Json)} {d : Document}

theorem valueLines_plain {written : Option Document} (plain : Plain v written) :
    valueLines ((name, v) :: fields) = (do
      let text ← scalarText v
      let rest ← valueLines fields
      return text.elim rest fun t => name ++ " = " ++ t ++ "\n" ++ rest) := by
  rw [valueLines]
  case x_1 => exact plain.ne_object
  generalize scalarText v = text
  cases text with
  | error e => rfl
  | ok text => cases text <;> cases valueLines fields <;> rfl

theorem valueLines_passed (plain : Plain v none) : valueLines ((name, v) :: fields) = valueLines fields := by
  rw [valueLines_plain plain]
  cases plain
  cases valueLines fields <;> rfl

theorem scalarText_stated {written : Option String} (plain : Plain v (some d)) (ok : scalarText v = .ok written) :
    ∃ t, written = some t ∧ StandsFor t.toList d := by
  cases plain with
  | count n =>
    rw [scalarText] at ok
    split at ok
    next range =>
      cases ok
      have small : n < 0x8000_0000_0000_0000 := by
        simp only [Bool.and_eq_true, decide_eq_true_eq] at range
        omega
      have digits : (toString (n : Int)).toList = Nat.toDigits 10 n := Json.Reading.intText_ofNat n
      exact ⟨_, rfl, digits ▸ standsFor_count small⟩
    next => cases ok
  | string s =>
    cases ok
    exact ⟨_, rfl, standsFor_string s⟩

theorem valueLines_stated (plain : Plain v (some d)) (ok : valueLines ((name, v) :: fields) = .ok text) :
    ∃ t more, StandsFor t.toList d ∧ valueLines fields = .ok more ∧ text = name ++ " = " ++ t ++ "\n" ++ more := by
  rw [valueLines_plain plain] at ok
  obtain ⟨written, scalar, ok⟩ := bind_eq_ok_iff.mp ok
  obtain ⟨more, later, ok⟩ := bind_eq_ok_iff.mp ok
  obtain ⟨t, rfl, stands⟩ := scalarText_stated plain scalar
  exact ⟨t, more, stands, later, (Except.ok.inj ok).symm⟩

theorem Lines.passes {inner' : Fields} (lines : Lines inner fields inner') (fresh : Fresh way)
    (written : valueLines fields = .ok text) {s : State} (root : s.root = nested way inner) (path : s.path = way.map (·.2)) :
    Passes s text.toList { s with root := nested way inner' } := by
  induction lines generalizing text s with
  | done inner =>
    cases written
    have same : ({ s with root := nested way inner } : State) = s := by rw [← root]
    rw [same]
    exact .nil s
  | passed plain more ih =>
    rw [valueLines_passed plain] at written
    exact ih written root path
  | table more ih => exact ih written root path
  | stated bare new plain more ih =>
    obtain ⟨t, rest, stands, later, rfl⟩ := valueLines_stated plain written
    have first := Passes.assignment bare fresh new root path stands
    have others := ih later (s := { s with root := _ }) rfl path
    simpa using first.append others

end Lines
end BoundedScript.Toml
