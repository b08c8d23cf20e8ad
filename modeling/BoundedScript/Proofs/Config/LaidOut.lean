import BoundedScript.Config.Json5
import BoundedScript.Proofs.Json.Strings
import BoundedScript.Proofs.Text.Digits
import BoundedScript.Proofs.Text.Scanning

set_option autoImplicit false

namespace BoundedScript.Json5

open Text Text.Scan

section Strings

variable {c : Char} {cs read rest : List Char} {fuel : Nat}

-- The line breaks that are written as themselves, and that no string may hold.
def isSeparator (c : Char) : Bool :=
  c == '\u2028' || c == '\u2029'

theorem hexValue?_hexDigit {n : Nat} (small : n < 16) : hexValue? (hexDigit n) = some n := by
  have each : ∀ n, n < 16 → hexValue? (hexDigit n) = some n := by decide
  exact each n small

theorem escape_control (control : c.toNat < 0x20) :
    escape ('u' :: '0' :: '0' :: hexDigit (c.toNat / 16) :: hexDigit (c.toNat % 16) :: rest) =
      some (some c, rest) := by
  have zero : hexValue? '0' = some 0 := by decide
  have high : hexValue? (hexDigit (c.toNat / 16)) = some (c.toNat / 16) := hexValue?_hexDigit (by omega)
  have low : hexValue? (hexDigit (c.toNat % 16)) = some (c.toNat % 16) := hexValue?_hexDigit (by omega)
  have value : c.toNat / 16 * 16 + c.toNat % 16 = c.toNat := by omega
  have plain : ¬ 0xd800 ≤ c.toNat := by omega
  have below : c.toNat < 0xd800 := by omega
  have mark : isLineTerminator 'u' = false := by decide
  simp [escape, bind_apply, mark, unicodeEscape, hexDigits, zero, high, low, value, plain, charOf, below]

theorem stringBody_escape {more : List Char} (read' : escape more = some (some c, rest)) :
    stringBody '"' read (fuel + 1) ('\\' :: more) = stringBody '"' (c :: read) fuel rest := by
  simp [stringBody, bind_apply, read']

theorem stringBody_char (plain : isSeparator c = false) :
    stringBody '"' read (fuel + 1) (Json.escapeChar c ++ rest) = stringBody '"' (c :: read) fuel rest := by
  rw [Json.escapeChar]
  split_ifs with quote slash newline back tab bell form control
  · obtain rfl := beq_iff_eq.mp quote
    exact stringBody_escape rfl
  · obtain rfl := beq_iff_eq.mp slash
    exact stringBody_escape rfl
  · obtain rfl := beq_iff_eq.mp newline
    exact stringBody_escape rfl
  · obtain rfl := beq_iff_eq.mp back
    exact stringBody_escape rfl
  · obtain rfl := beq_iff_eq.mp tab
    exact stringBody_escape rfl
  · obtain rfl := beq_iff_eq.mp bell
    exact stringBody_escape rfl
  · obtain rfl := beq_iff_eq.mp form
    exact stringBody_escape rfl
  · exact stringBody_escape (escape_control control)
  · simp only [isSeparator] at plain
    simp_all [stringBody, bind_apply, isLineTerminator]

theorem stringBody_written (plain : ∀ c ∈ cs, isSeparator c = false) (enough : cs.length < fuel) :
    stringBody '"' read fuel (cs.flatMap Json.escapeChar ++ '"' :: rest) =
      some (String.ofList (read.reverse ++ cs), rest) := by
  induction cs generalizing read fuel with
  | nil =>
    cases fuel with
    | zero => cases enough
    | succ fuel => simp [stringBody, bind_apply]
  | cons c cs ih =>
    cases fuel with
    | zero => cases enough
    | succ fuel =>
      rw [List.flatMap_cons, List.append_assoc, stringBody_char (plain c List.mem_cons_self),
        ih (fun d inside => plain d (List.mem_cons_of_mem c inside)) (Nat.lt_of_succ_lt_succ enough)]
      simp

-- A string is not read past a separator, however much fuel there is.
theorem stringBody_separator (broken : ∃ c ∈ cs, isSeparator c) :
    stringBody '"' read fuel (cs.flatMap Json.escapeChar ++ rest) = none := by
  induction cs generalizing read fuel with
  | nil => simp at broken
  | cons c cs ih =>
    cases fuel with
    | zero => rfl
    | succ fuel =>
      rw [List.flatMap_cons, List.append_assoc]
      by_cases here : isSeparator c
      · have itself : Json.escapeChar c = [c] := by
          simp only [isSeparator, Bool.or_eq_true, beq_iff_eq] at here
          rcases here with rfl | rfl <;> decide
        have breaks : isLineTerminator c ∧ c ≠ '"' ∧ c ≠ '\\' := by
          simp only [isSeparator, Bool.or_eq_true, beq_iff_eq] at here
          rcases here with rfl | rfl <;> decide
        simp [itself, stringBody, bind_apply, breaks]
      · rw [stringBody_char (by simpa using here)]
        exact ih (by simpa [here] using broken)

theorem quotedText_written (plain : ∀ c ∈ cs, isSeparator c = false) :
    quotedText '"' (Json.stringText (String.ofList cs) ++ rest) = some (String.ofList cs, rest) := by
  have enough : cs.length < (cs.flatMap Json.escapeChar ++ '"' :: rest).length + 1 := by
    have each := length_le_flatMap Json.escapeChar_ne_nil cs
    rw [List.length_append]
    omega
  have written : stringBody '"' [] _ (cs.flatMap Json.escapeChar ++ '"' :: rest) = _ := stringBody_written plain enough
  simpa [quotedText, bind_apply, Json.stringText] using written

end Strings

section Blanks

variable {rest : List Char}

def Visible (rest : List Char) : Prop :=
  ∀ c ∈ rest.head?, isBlank c = false ∧ c ≠ '/'

theorem dropWhile_blanks {cs : List Char} (blanks : ∀ c ∈ cs, isBlank c) (visible : Visible rest) :
    (cs ++ rest).dropWhile isBlank = rest := by
  rw [List.dropWhile_append_of_pos blanks]
  cases rest with
  | nil => rfl
  | cons c rest => simp [(visible c rfl).1]

theorem skipAll_blanks {cs : List Char} (blanks : ∀ c ∈ cs, isBlank c) (visible : Visible rest) :
    skipAll (cs ++ rest) = some ((), rest) := by
  have front := dropWhile_blanks blanks visible
  simp only [skipAll, bind_apply, fuel_apply, skip, skipWhile_apply, front, get_apply]
  split
  next more => exact absurd rfl (visible '/' rfl).2
  next more => exact absurd rfl (visible '/' rfl).2
  next => rfl

theorem indent_blank (depth : Nat) : ∀ c ∈ Json.indent depth, isBlank c := by
  intro c inside
  rw [Json.indent, List.mem_cons, List.mem_replicate] at inside
  rcases inside with rfl | ⟨-, rfl⟩ <;> decide

end Blanks

section Numbers

variable {rest : List Char} {n : Nat}

def Ends (rest : List Char) : Prop :=
  ∀ c ∈ rest.head?, c = ',' ∨ c = '\n'

theorem takeWhile_digits (ends : Ends rest) :
    (Nat.toDigits 10 n ++ rest).takeWhile Char.isDigit = Nat.toDigits 10 n := by
  rw [List.takeWhile_append_of_pos (isDigit_toDigits n)]
  cases rest with
  | nil => simp
  | cons c rest => rcases ends c rfl with rfl | rfl <;> simp

theorem decimalValue_toDigits (n : Nat) : decimalValue (Nat.toDigits 10 n) = n := by
  have value : Nat.ofDigitChars 10 (Nat.toDigits 10 n) 0 = n := Nat.ofDigitChars_ten_toDigits
  rw [Nat.ofDigitChars_eq_foldl] at value
  rw [decimalValue]
  simpa [Nat.mul_comm] using value

theorem whole_written (ends : Ends rest) :
    (if (Nat.toDigits 10 n ++ rest).head? == some '0' then ['0']
      else (Nat.toDigits 10 n ++ rest).takeWhile Char.isDigit) = Nat.toDigits 10 n := by
  rw [takeWhile_digits ends]
  rcases Nat.eq_zero_or_pos n with rfl | positive
  · simp
  · obtain ⟨c, cs, digits, lead⟩ := toDigits_head positive
    simp [digits, lead]

theorem exponent?_ends (ends : Ends rest) : exponent? rest = some (none, rest) := by
  cases rest with
  | nil => rfl
  | cons c rest => rcases ends c rfl with rfl | rfl <;> rfl

def loose (n : Nat) : Document :=
  .loose (finite .none n 0) (n ≤ 0x7fff_ffff_ffff_ffff)

theorem decimal_written (ends : Ends rest) : decimal .none (Nat.toDigits 10 n ++ rest) = some (loose n, rest) := by
  have left : (Nat.toDigits 10 n ++ rest).drop (Nat.toDigits 10 n).length = rest := List.drop_left
  have filled : (Nat.toDigits 10 n).isEmpty = false := by simp
  have ended := exponent?_ends ends
  simp only [decimal, bind_apply, get_apply, whole_written ends, left, filled]
  cases rest with
  | nil => simp [bind_apply, ended, decimalValue_toDigits, loose]
  | cons c rest => rcases ends c rfl with rfl | rfl <;> simp [bind_apply, ended, decimalValue_toDigits, loose]

theorem isHexMark_digits {c : Char} {cs : List Char} (digits : ∀ d ∈ cs, d.isDigit) (ends : Ends rest) :
    isHexMark (c :: (cs ++ rest)) = false := by
  have second : ∀ d ∈ (cs ++ rest).head?, d ≠ 'x' ∧ d ≠ 'X' := by
    cases cs with
    | nil =>
      intro d inside
      rcases ends d inside with rfl | rfl <;> decide
    | cons e cs =>
      intro d inside
      obtain rfl : e = d := Option.some.inj inside
      have digit := digits e List.mem_cons_self
      exact ⟨(ne_of_digit digit (by decide)).symm, (ne_of_digit digit (by decide)).symm⟩
  unfold isHexMark
  split
  next x d t same =>
    have other := second x (by simp [(List.cons.inj same).2])
    simp [other]
  next => rfl

theorem number_written (ends : Ends rest) : number (Nat.toDigits 10 n ++ rest) = some (loose n, rest) := by
  have written := decimal_written (n := n) ends
  obtain ⟨c, cs, same, digit, digits⟩ := toDigits_cons n
  have minus : passes "-" (c :: (cs ++ rest)) = _ := passes_other rfl (ne_of_digit digit (by decide))
  have plus : passes "+" (c :: (cs ++ rest)) = _ := passes_other rfl (ne_of_digit digit (by decide))
  have infinity : passes "Infinity" (c :: (cs ++ rest)) = _ := passes_other rfl (ne_of_digit digit (by decide))
  have none : passes "NaN" (c :: (cs ++ rest)) = _ := passes_other rfl (ne_of_digit digit (by decide))
  rw [same] at written
  simpa [same, number, bind_apply, minus, plus, infinity, none, isHexMark_digits digits ends] using written

end Numbers

section Values

variable {n fuel depth : Nat} {rest more : List Char} {read : List (String × Document)}

structure Reads (n : Nat) (text : List Char) (d : Document) : Prop where
  head : ∃ c cs, text = c :: cs ∧ isBlank c = false ∧ c ≠ '/'
  read : ∀ rest, Ends rest → value n (text ++ rest) = some (d, rest)

structure Refuses (n : Nat) (text : List Char) : Prop where
  head : ∃ c cs, text = c :: cs ∧ isBlank c = false ∧ c ≠ '/'
  refused : ∀ rest, value n (text ++ rest) = none

theorem stringText_head (s : String) : ∃ c cs, Json.stringText s = c :: cs ∧ isBlank c = false ∧ c ≠ '/' :=
  ⟨'"', _, rfl, by decide, by decide⟩

theorem reads_string {s : String} (plain : ∀ c ∈ s.toList, isSeparator c = false) :
    Reads (n + 1) (Json.stringText s) (.string s) where
  head := stringText_head s
  read rest _ := by
    have quoted : quotedText '"' (Json.stringText (String.ofList s.toList) ++ rest) = _ := quotedText_written plain
    have first : (Json.stringText s ++ rest).head? = some '"' := rfl
    rw [String.ofList_toList] at quoted
    simp [value, bind_apply, map_apply, first, quoted]

theorem refuses_string {s : String} (broken : ∃ c ∈ s.toList, isSeparator c) : Refuses n (Json.stringText s) where
  head := stringText_head s
  refused rest := by
    cases n with
    | zero => rfl
    | succ n =>
      have refused (fuel : Nat) :
          stringBody '"' [] fuel (s.toList.flatMap Json.escapeChar ++ '"' :: rest) = none := stringBody_separator broken
      simp [value, bind_apply, map_apply, Json.stringText, quotedText, refused]

theorem reads_null : Reads (n + 1) "null".toList .null where
  head := ⟨'n', _, rfl, by decide, by decide⟩
  read rest _ := by
    have there := passes_there "null" rest
    change passes "null" ('n' :: 'u' :: 'l' :: 'l' :: rest) = some (true, rest) at there
    change value (n + 1) ('n' :: 'u' :: 'l' :: 'l' :: rest) = _
    simp [value, bind_apply, there]

theorem reads_count (k : Nat) : Reads (n + 1) (Nat.toDigits 10 k) (loose k) where
  head := by
    obtain ⟨c, cs, same, digit, -⟩ := toDigits_cons k
    have bounds := digit_bounds digit
    refine ⟨c, cs, same, ?_, (ne_of_digit digit (by decide)).symm⟩
    simp [isBlank, isLineTerminator, isSpaceSeparator, ← Char.toNat_inj]
    omega
  read rest ends := by
    have written := number_written (n := k) ends
    obtain ⟨c, cs, same, digit, -⟩ := toDigits_cons k
    have apart (d : Char) (other : d.isDigit = false) : c ≠ d := (ne_of_digit digit other).symm
    have null : passes "null" (c :: (cs ++ rest)) = _ := passes_other rfl (ne_of_digit digit (by decide))
    have yes : passes "true" (c :: (cs ++ rest)) = _ := passes_other rfl (ne_of_digit digit (by decide))
    have no : passes "false" (c :: (cs ++ rest)) = _ := passes_other rfl (ne_of_digit digit (by decide))
    rw [same] at written
    simpa [same, value, bind_apply, apart '"' (by decide), apart '\'' (by decide), apart '[' (by decide),
      apart '\x7b' (by decide), null, yes, no] using written

def fieldText (name : String) (text : List Char) : List Char :=
  Json.stringText name ++ [':', ' '] ++ text

theorem key_written {name : String} (plain : ∀ c ∈ name.toList, isSeparator c = false) :
    key (Json.stringText name ++ rest) = some (name, rest) := by
  have quoted : quotedText '"' (Json.stringText (String.ofList name.toList) ++ rest) = _ := quotedText_written plain
  have first : (Json.stringText name ++ rest).head? = some '"' := rfl
  rw [String.ofList_toList] at quoted
  simp [key, bind_apply, first, quoted]

theorem skipAll_visible (visible : Visible rest) : skipAll rest = some ((), rest) :=
  skipAll_blanks (List.forall_mem_nil _) visible

theorem skipAll_indent (visible : Visible rest) : skipAll (Json.indent depth ++ rest) = some ((), rest) :=
  skipAll_blanks (indent_blank depth) visible

theorem visible_cons {c : Char} (visible : isBlank c = false ∧ c ≠ '/') : Visible (c :: rest) := by
  rintro d inside
  obtain rfl : c = d := Option.some.inj inside
  exact visible

section Fields

variable {name : String} {text : List Char} {d : Document}

theorem skipAll_colon {c : Char} (visible : isBlank c = false ∧ c ≠ '/') (rest : List Char) :
    skipAll (':' :: ' ' :: c :: rest) = some ((), ':' :: ' ' :: c :: rest) ∧
      skipAll (' ' :: c :: rest) = some ((), c :: rest) :=
  ⟨skipAll_visible (visible_cons (by decide)),
    skipAll_blanks (List.forall_mem_singleton.mpr (by decide)) (visible_cons visible)⟩

theorem ends_comma : Ends (',' :: more) := by
  rintro c inside
  exact .inl (Option.some.inj inside).symm

theorem ends_indent : Ends (Json.indent depth ++ more) := by
  rintro c inside
  exact .inr (Option.some.inj inside).symm

theorem pairs_field (plain : ∀ c ∈ name.toList, isSeparator c = false) (reads : Reads n text d) (ends : Ends more) :
    pairs (value n) read (fuel + 1) (fieldText name text ++ more) =
      (do
        skipAll
        if ← passes "," then
          skipAll
          if ← passes "\x7d" then return ((name, d) :: read).reverse else pairs (value n) ((name, d) :: read) fuel
        else do
          expect '\x7d'
          return ((name, d) :: read).reverse : Scan (List (String × Document))) more := by
  obtain ⟨c, cs, rfl, visible⟩ := reads.head
  obtain ⟨colon, space⟩ := skipAll_colon visible (cs ++ more)
  have front : fieldText name (c :: cs) ++ more = Json.stringText name ++ ':' :: ' ' :: c :: (cs ++ more) := by
    simp [fieldText]
  have item : value n (c :: (cs ++ more)) = some (d, more) := reads.read more ends
  rw [pairs, front, bind_some (key_written plain), bind_some colon, bind_some (expect_cons ..), bind_some space,
    bind_some item]

theorem pairs_refused (plain : ∀ c ∈ name.toList, isSeparator c = false) (refuses : Refuses n text) :
    pairs (value n) read fuel (fieldText name text ++ more) = none := by
  cases fuel with
  | zero => rfl
  | succ fuel =>
    obtain ⟨c, cs, rfl, visible⟩ := refuses.head
    obtain ⟨colon, space⟩ := skipAll_colon visible (cs ++ more)
    have front : fieldText name (c :: cs) ++ more = Json.stringText name ++ ':' :: ' ' :: c :: (cs ++ more) := by
      simp [fieldText]
    have refused : value n (c :: (cs ++ more)) = none := refuses.refused more
    rw [pairs, front, bind_some (key_written plain), bind_some colon, bind_some (expect_cons ..), bind_some space,
      bind_none refused]

theorem pairs_last (plain : ∀ c ∈ name.toList, isSeparator c = false) (reads : Reads n text d) :
    pairs (value n) read (fuel + 1) (fieldText name text ++ (Json.indent depth ++ '\x7d' :: rest)) =
      some (((name, d) :: read).reverse, rest) := by
  have gap : skipAll (Json.indent depth ++ '\x7d' :: rest) = _ := skipAll_indent (visible_cons (by decide))
  have comma : passes "," ('\x7d' :: rest) = _ := passes_other rfl (by decide)
  rw [pairs_field plain reads ends_indent, bind_some gap, bind_some comma]
  simp [bind_apply]

theorem pairs_next (plain : ∀ c ∈ name.toList, isSeparator c = false) (reads : Reads n text d)
    (starts : more.head? = some '"') :
    pairs (value n) read (fuel + 1) (fieldText name text ++ (',' :: Json.indent depth ++ more)) =
      pairs (value n) ((name, d) :: read) fuel more := by
  obtain ⟨tail, rfl⟩ : ∃ tail, more = '"' :: tail := List.head?_eq_some_iff.mp starts
  have mark : skipAll (',' :: (Json.indent depth ++ '"' :: tail)) = _ := skipAll_visible (visible_cons (by decide))
  have comma : passes "," (',' :: (Json.indent depth ++ '"' :: tail)) = some (true, Json.indent depth ++ '"' :: tail) :=
    passes_there "," _
  have gap : skipAll (Json.indent depth ++ '"' :: tail) = _ := skipAll_indent (visible_cons (by decide))
  have close : passes "\x7d" ('"' :: tail) = _ := passes_other rfl (by decide)
  rw [List.cons_append, pairs_field plain reads ends_comma, bind_some mark, bind_some comma, if_pos rfl, bind_some gap,
    bind_some close]
  rfl

end Fields

abbrev Fields := List (String × List Char × Document)

def Fields.texts (fs : Fields) : List (List Char) :=
  fs.map fun f => fieldText f.1 f.2.1

def Fields.entries (fs : Fields) : List (String × Document) :=
  fs.map fun f => (f.1, f.2.2)

def Fields.Read (n : Nat) (fs : Fields) : Prop :=
  ∀ f ∈ fs, (∀ c ∈ f.1.toList, isSeparator c = false) ∧ Reads n f.2.1 f.2.2

variable {f : String × List Char × Document} {fs : Fields}

theorem texts_head (separator rest : List Char) :
    (Json.separated separator (Fields.texts (f :: fs)) ++ rest).head? = some '"' := by
  cases fs <;> rfl

theorem texts_cons (separator : List Char) (g : String × List Char × Document) (rest : List Char) :
    Json.separated separator (Fields.texts (f :: g :: fs)) ++ rest =
      fieldText f.1 f.2.1 ++ (separator ++ (Json.separated separator (Fields.texts (g :: fs)) ++ rest)) := by
  simp [Fields.texts, Json.separated]

theorem pairs_written (each : Fields.Read n (f :: fs)) (enough : fs.length < fuel) (depth : Nat) (rest : List Char) :
    pairs (value n) read fuel (Json.separated (',' :: Json.indent (depth + 1)) (Fields.texts (f :: fs)) ++
        (Json.indent depth ++ '\x7d' :: rest)) =
      some (read.reverse ++ Fields.entries (f :: fs), rest) := by
  obtain ⟨plain, reads⟩ := each f List.mem_cons_self
  obtain ⟨fuel, rfl⟩ : ∃ k, fuel = k + 1 := ⟨fuel - 1, by omega⟩
  induction fs generalizing f read fuel with
  | nil =>
    have last : pairs (value n) read (fuel + 1) (_ ++ (Json.indent depth ++ '\x7d' :: rest)) = _ :=
      pairs_last plain reads
    simpa [Fields.texts, Fields.entries, Json.separated] using last
  | cons g fs ih =>
    have remaining : Fields.Read n (g :: fs) := fun h inside => each h (List.mem_cons_of_mem f inside)
    obtain ⟨plain', reads'⟩ := remaining g List.mem_cons_self
    obtain ⟨fuel, rfl⟩ : ∃ k, fuel = k + 1 := ⟨fuel - 1, by simp at enough; omega⟩
    rw [texts_cons, pairs_next plain reads (texts_head _ _), ih remaining plain' reads' fuel (by simpa using enough)]
    simp [Fields.entries]

theorem pairs_broken {before after : Fields} (each : Fields.Read n before)
    (plain : ∀ c ∈ f.1.toList, isSeparator c = false) (refuses : Refuses n f.2.1) (depth : Nat) (rest : List Char) :
    pairs (value n) read fuel
      (Json.separated (',' :: Json.indent (depth + 1)) (Fields.texts (before ++ f :: after)) ++ rest) = none := by
  induction before generalizing read fuel with
  | nil =>
    cases after with
    | nil => exact pairs_refused plain refuses
    | cons g after =>
      rw [List.nil_append, texts_cons]
      exact pairs_refused plain refuses
  | cons g before ih =>
    cases fuel with
    | zero => rfl
    | succ fuel =>
      obtain ⟨plain', reads⟩ := each g List.mem_cons_self
      cases same : before ++ f :: after with
      | nil => simp at same
      | cons h tail =>
        rw [List.cons_append, same, texts_cons, pairs_next plain' reads (texts_head _ _), ← same]
        exact ih fun h inside => each h (List.mem_cons_of_mem g inside)

theorem block_head (rest : List Char) :
    Json.block depth '\x7b' '\x7d' (Fields.texts (f :: fs)) ++ rest =
      '\x7b' :: (Json.indent (depth + 1) ++ (Json.separated (',' :: Json.indent (depth + 1)) (Fields.texts (f :: fs)) ++
        (Json.indent depth ++ '\x7d' :: rest))) := by
  simp [Json.block, Fields.texts]

theorem value_table (rest : List Char) :
    value (n + 1) (Json.block depth '\x7b' '\x7d' (Fields.texts (f :: fs)) ++ rest) =
      (do return .table (← pairs (value n) [] (← Scan.fuel)) : Scan Document)
        (Json.separated (',' :: Json.indent (depth + 1)) (Fields.texts (f :: fs)) ++
          (Json.indent depth ++ '\x7d' :: rest)) := by
  obtain ⟨tail, same⟩ : ∃ tail, Json.separated (',' :: Json.indent (depth + 1)) (Fields.texts (f :: fs)) ++
      (Json.indent depth ++ '\x7d' :: rest) = '"' :: tail := List.head?_eq_some_iff.mp (texts_head _ _)
  have gap : skipAll (Json.indent (depth + 1) ++ '"' :: tail) = _ := skipAll_indent (visible_cons (by decide))
  have close : passes "\x7d" ('"' :: tail) = _ := passes_other rfl (by decide)
  rw [block_head, same]
  simp [value, bind_apply, gap, close]

theorem table_head : ∃ c cs, Json.block depth '\x7b' '\x7d' (Fields.texts (f :: fs)) = c :: cs ∧
    isBlank c = false ∧ c ≠ '/' :=
  ⟨'\x7b', _, rfl, by decide, by decide⟩

theorem length_le_separated (separator : List Char) (fs : Fields) :
    fs.length ≤ (Json.separated separator fs.texts).length := by
  induction fs with
  | nil => exact Nat.zero_le _
  | cons f fs ih =>
    cases fs with
    | nil =>
      simp [Fields.texts, Json.separated, fieldText]
      omega
    | cons g fs =>
      have front : _ = fieldText f.1 f.2.1 ++ (separator ++ (Json.separated separator (Fields.texts (g :: fs)) ++ [])) :=
        texts_cons separator g []
      rw [List.append_nil, List.append_nil] at front
      rw [front]
      simp only [fieldText, List.length_append, List.length_cons] at ih ⊢
      omega

theorem reads_table (each : Fields.Read n (f :: fs)) :
    Reads (n + 1) (Json.block depth '\x7b' '\x7d' (Fields.texts (f :: fs))) (.table (Fields.entries (f :: fs))) where
  head := table_head
  read rest _ := by
    have short := length_le_separated (',' :: Json.indent (depth + 1)) (f :: fs)
    rw [value_table, bind_some (fuel_apply _), bind_some (pairs_written each ?_ depth rest)]
    · rfl
    · simp only [List.length_append, List.length_cons] at short ⊢
      omega

theorem laidOutFields_eq_map (depth : Nat) (fields : List (String × Json)) :
    Json.laidOutFields depth fields = fields.map fun f => fieldText f.1 (Json.laidOut depth f.2) := by
  induction fields with
  | nil => rfl
  | cons f fields ih => rw [Json.laidOutFields, ih, List.map_cons, fieldText]

theorem refuses_table {before after : Fields} (each : Fields.Read n before)
    (plain : ∀ c ∈ f.1.toList, isSeparator c = false) (refuses : Refuses n f.2.1) :
    Refuses (n + 1) (Json.block depth '\x7b' '\x7d' (Fields.texts (before ++ f :: after))) := by
  cases same : before ++ f :: after with
  | nil => simp at same
  | cons g fs =>
    refine ⟨table_head, fun rest => ?_⟩
    rw [value_table, bind_some (fuel_apply _), ← same, bind_none (pairs_broken each plain refuses ..)]

variable {g : String × Json × Document} {fields : List (String × Json × Document)}

def fieldsAt (depth : Nat) (fields : List (String × Json × Document)) : Fields :=
  fields.map fun f => (f.1, Json.laidOut depth f.2.1, f.2.2)

theorem laidOut_object (depth : Nat) (fields : List (String × Json × Document)) :
    Json.laidOut depth (.object (fields.map fun f => (f.1, f.2.1))) =
      Json.block depth '\x7b' '\x7d' (Fields.texts (fieldsAt (depth + 1) fields)) := by
  rw [Json.laidOut, laidOutFields_eq_map]
  simp [Fields.texts, fieldsAt, Function.comp_def]

def FieldReads (n depth : Nat) (g : String × Json × Document) : Prop :=
  (∀ c ∈ g.1.toList, isSeparator c = false) ∧ Reads n (Json.laidOut depth g.2.1) g.2.2

theorem read_fieldsAt (each : ∀ g ∈ fields, FieldReads n depth g) : Fields.Read n (fieldsAt depth fields) := by
  intro f inside
  obtain ⟨g, there, rfl⟩ := List.mem_map.mp inside
  exact each g there

theorem reads_object (filled : fields ≠ []) (each : ∀ g ∈ fields, FieldReads n (depth + 1) g) :
    Reads (n + 1) (Json.laidOut depth (.object (fields.map fun f => (f.1, f.2.1))))
      (.table (fields.map fun f => (f.1, f.2.2))) := by
  have read := read_fieldsAt each
  rw [laidOut_object]
  cases fields with
  | nil => exact absurd rfl filled
  | cons g fields => simpa [fieldsAt, Fields.entries, Function.comp_def] using reads_table read

theorem refuses_object {k : Nat} (there : fields[k]? = some g) (before : ∀ h ∈ fields.take k, FieldReads n (depth + 1) h)
    (plain : ∀ c ∈ g.1.toList, isSeparator c = false) (refuses : Refuses n (Json.laidOut (depth + 1) g.2.1)) :
    Refuses (n + 1) (Json.laidOut depth (.object (fields.map fun f => (f.1, f.2.1)))) := by
  have broken : Refuses (n + 1) (Json.block depth '\x7b' '\x7d' (Fields.texts (fieldsAt (depth + 1) (fields.take k) ++
      (g.1, Json.laidOut (depth + 1) g.2.1, g.2.2) :: fieldsAt (depth + 1) (fields.drop (k + 1))))) :=
    refuses_table (read_fieldsAt before) plain refuses
  obtain ⟨within, rfl⟩ := List.getElem?_eq_some_iff.mp there
  have parts : fields.take k ++ fields[k] :: fields.drop (k + 1) = fields := by
    rw [← List.drop_eq_getElem_cons within, List.take_append_drop]
  rw [laidOut_object, ← congrArg (fieldsAt (depth + 1)) parts]
  simpa only [fieldsAt, List.map_append, List.map_cons] using broken

theorem document_apply {text : List Char} (head : ∃ c cs, text = c :: cs ∧ isBlank c = false ∧ c ≠ '/') :
    document text = (do let d ← value (text.length + 1); skipAll; return d : Scan Document) text := by
  obtain ⟨c, cs, rfl, visible⟩ := head
  rw [document, bind_some (skipAll_visible (visible_cons visible)), bind_some (fuel_apply _)]

theorem read?_of_reads {text : List Char} {d : Document} (long : text.length + 1 = n) (reads : Reads n text d) :
    read? (String.ofList text) = some d := by
  subst long
  have item := reads.read [] (by simp [Ends])
  rw [List.append_nil] at item
  have left : skipAll [] = some ((), []) := skipAll_visible (by simp [Visible])
  have read : document text = some (d, []) := by
    rw [document_apply reads.head, bind_some item, bind_some left]
    rfl
  exact whole_some (by rw [String.toList_ofList, read])

theorem read?_of_refuses {text : List Char} (long : text.length + 1 = n) (refuses : Refuses n text) :
    read? (String.ofList text) = none := by
  subst long
  have refused := refuses.refused []
  rw [List.append_nil] at refused
  have read : document text = none := by
    rw [document_apply refuses.head, bind_none refused]
  exact whole_none (by rw [String.toList_ofList, read])

end Values
end BoundedScript.Json5
