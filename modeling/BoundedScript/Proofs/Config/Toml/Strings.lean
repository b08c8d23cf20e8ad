import Mathlib.Tactic.SplitIfs
import BoundedScript.Config.Toml.Reader
import BoundedScript.Config.Toml.Writer
import BoundedScript.Proofs.Text.Encoding
import BoundedScript.Proofs.Text.Scanning

set_option autoImplicit false

namespace BoundedScript.Toml

open Text Text.Scan

variable {c quote : Char} {cs read rest : List Char} {fuel : Nat}

section Characters

theorem hexValue?_upperHexDigit {n : Nat} (small : n < 16) : hexValue? (upperHexDigit n) = some n := by
  have each : ∀ n, n < 16 → hexValue? (upperHexDigit n) = some n := by decide
  exact each n small

theorem needsEscape_lt (needs : needsEscape c) : c.toNat < 0x80 := by
  simp only [needsEscape, Bool.or_eq_true, Bool.and_eq_true, decide_eq_true_eq, beq_iff_eq] at needs
  rcases needs with ⟨⟨low, -⟩, -⟩ | rfl
  · have low : c.toNat < 0x20 := low
    omega
  · decide

theorem escape_code (needs : needsEscape c) :
    escape ('u' :: '0' :: '0' :: upperHexDigit (c.toNat / 16) :: upperHexDigit (c.toNat % 16) :: rest) =
      some (c, rest) := by
  have small := needsEscape_lt needs
  have zero : hexValue? '0' = some 0 := by decide
  have high : hexValue? (upperHexDigit (c.toNat / 16)) = some (c.toNat / 16) := hexValue?_upperHexDigit (by omega)
  have low : hexValue? (upperHexDigit (c.toNat % 16)) = some (c.toNat % 16) := hexValue?_upperHexDigit (by omega)
  have value : c.toNat / 16 * 16 + c.toNat % 16 = c.toNat := by omega
  have below : c.toNat < 0xd800 := by omega
  simp [escape, bind_apply, hexDigits, zero, high, low, value, charOf, below]

inductive Written (isBlock : Bool) (c : Char) : List Char → Prop where
  | newline (same : c = '\n') (block : isBlock) : Written isBlock c ['\n']
  | escaped {e : Char} {tail : List Char} (mark : isSpace e = false ∧ e ≠ '\n' ∧ e ≠ '\r')
      (read : ∀ rest, escape (e :: (tail ++ rest)) = some (c, rest)) : Written isBlock c ('\\' :: e :: tail)
  | plain (plain : isPlain c) (quote : c ≠ '"') (slash : c ≠ '\\') : Written isBlock c [c]

theorem isPlain_of_not_escaped (newline : c ≠ '\n') (noEscape : needsEscape c = false) : isPlain c := by
  simp only [needsEscape, Bool.or_eq_false_iff, Bool.and_eq_false_iff, decide_eq_false_iff_not, bne_eq_false_iff_eq,
    beq_eq_false_iff_ne] at noEscape
  simp only [isPlain, Bool.or_eq_true, Bool.and_eq_true, beq_iff_eq, bne_iff_ne, decide_eq_true_eq]
  rcases noEscape with ⟨(low | tab) | line, other⟩
  · exact .inr ⟨UInt32.not_lt.mp low, other⟩
  · exact .inl tab
  · exact absurd line newline

theorem written_escaped (isBlock : Bool) (c : Char) : Written isBlock c (escaped isBlock c) := by
  rw [escaped]
  split_ifs with bell tab line block form back quote slash needs
  · obtain rfl := beq_iff_eq.mp bell
    exact .escaped (by decide) fun _ => rfl
  · obtain rfl := beq_iff_eq.mp tab
    exact .escaped (by decide) fun _ => rfl
  · exact .newline (beq_iff_eq.mp line) block
  · obtain rfl := beq_iff_eq.mp line
    exact .escaped (by decide) fun _ => rfl
  · obtain rfl := beq_iff_eq.mp form
    exact .escaped (by decide) fun _ => rfl
  · obtain rfl := beq_iff_eq.mp back
    exact .escaped (by decide) fun _ => rfl
  · obtain rfl := beq_iff_eq.mp quote
    exact .escaped (by decide) fun _ => rfl
  · obtain rfl := beq_iff_eq.mp slash
    exact .escaped (by decide) fun _ => rfl
  · exact .escaped (by decide) fun _ => escape_code needs
  · exact .plain (isPlain_of_not_escaped (by simpa using line) (by simpa using needs)) (by simpa using quote)
      (by simpa using slash)

end Characters

section Lines

theorem isPlain_apart (plain : isPlain c) : c ≠ '\n' ∧ c ≠ '\r' := by
  constructor <;> rintro rfl <;> exact absurd plain (by decide)

theorem lineBreak_newline (rest : List Char) : lineBreak ('\n' :: rest) = some (true, rest) := by
  have there : passes "\n" ('\n' :: rest) = _ := passes_there "\n" rest
  rw [lineBreak, bind_some there]
  rfl

theorem lineBreak_other (newline : c ≠ '\n') (carriage : c ≠ '\r') :
    lineBreak (c :: rest) = some (false, c :: rest) := by
  have first : passes "\n" (c :: rest) = _ := passes_other rfl newline.symm
  have second : passes "\r\n" (c :: rest) = _ := passes_other rfl carriage.symm
  rw [lineBreak, bind_some first]
  exact second

theorem endsLine_other {e : Char} (mark : isSpace e = false ∧ e ≠ '\n' ∧ e ≠ '\r') (rest : List Char) :
    endsLine (e :: rest) = false := by
  have front : (e :: rest).dropWhile isSpace = e :: rest := by simp [mark.1]
  unfold endsLine
  rw [front]
  split
  next same => exact absurd (List.cons.inj same).1 mark.2.1
  next same => exact absurd (List.cons.inj same).1 mark.2.2
  next => rfl

end Lines

section Basic

theorem basicBody_char {text : List Char} (written : Written false c text) :
    basicBody read (fuel + 1) (text ++ rest) = basicBody (c :: read) fuel rest := by
  cases written with
  | newline same block => cases block
  | @escaped e tail mark read' =>
    have escape := read' rest
    simp [basicBody, bind_apply, escape]
  | plain plain quote slash => simp [basicBody, bind_apply, plain, quote, slash]

theorem basicBody_written (enough : cs.length < fuel) :
    basicBody read fuel (cs.flatMap (escaped false) ++ '"' :: rest) = some (read.reverse ++ cs, rest) := by
  obtain ⟨fuel, rfl⟩ : ∃ k, fuel = k + 1 := ⟨fuel - 1, by omega⟩
  induction cs generalizing read fuel with
  | nil => simp [basicBody, bind_apply]
  | cons c cs ih =>
    obtain ⟨fuel, rfl⟩ : ∃ k, fuel = k + 1 := ⟨fuel - 1, by simp at enough; omega⟩
    rw [List.flatMap_cons, List.append_assoc, basicBody_char (written_escaped false c), ih fuel (by simpa using enough)]
    simp

theorem blockBody_plain (plain : isPlain c) (other : c ≠ quote) (slash : c = '\\' → quote ≠ '"') :
    blockBody quote read (fuel + 1) (c :: rest) = blockBody quote (c :: read) fuel rest := by
  obtain ⟨newline, carriage⟩ := isPlain_apart plain
  have itself : ¬ (c = '\\' ∧ quote = '"') := fun both => slash both.1 both.2
  simp [blockBody, bind_apply, other, lineBreak_other newline carriage, itself, plain]

theorem blockBody_newline (other : quote ≠ '\n') :
    blockBody quote read (fuel + 1) ('\n' :: rest) = blockBody quote ('\n' :: read) fuel rest := by
  simp [blockBody, bind_apply, other.symm, lineBreak_newline]

theorem blockBody_char {text : List Char} (written : Written true c text) :
    blockBody '"' read (fuel + 1) (text ++ rest) = blockBody '"' (c :: read) fuel rest := by
  cases written with
  | newline same block =>
    subst same
    exact blockBody_newline (by decide)
  | @escaped e tail mark read' =>
    have escape := read' rest
    have line : lineBreak ('\\' :: e :: (tail ++ rest)) = _ := lineBreak_other (by decide) (by decide)
    simp [blockBody, bind_apply, line, endsLine_other mark, escape]
  | plain plain quote slash => exact blockBody_plain plain quote fun same => absurd same slash

theorem quoteRun_apply (cs : List Char) : quoteRun quote cs =
    some (min (cs.takeWhile (· == quote)).length 5, cs.drop (min (cs.takeWhile (· == quote)).length 5)) := by
  simp [quoteRun, bind_apply, map_apply]

theorem blockBody_written (enough : cs.length < fuel) :
    blockBody '"' read fuel (cs.flatMap (escaped true) ++ '"' :: '"' :: '"' :: '\n' :: rest) =
      some (read.reverse ++ cs, '\n' :: rest) := by
  obtain ⟨fuel, rfl⟩ : ∃ k, fuel = k + 1 := ⟨fuel - 1, by omega⟩
  induction cs generalizing read fuel with
  | nil => simp [blockBody, bind_apply, quoteRun_apply]
  | cons c cs ih =>
    obtain ⟨fuel, rfl⟩ : ∃ k, fuel = k + 1 := ⟨fuel - 1, by simp at enough; omega⟩
    rw [List.flatMap_cons, List.append_assoc, blockBody_char (written_escaped true c), ih fuel (by simpa using enough)]
    simp

end Basic

section Literal

theorem le_longestRun (run best : Nat) (cs : List Char) : max run best ≤ longestRun quote run best cs := by
  induction cs generalizing run best with
  | nil => simp [longestRun]
  | cons c cs ih =>
    have more := ih (run + 1) best
    have less := ih 0 (max run best)
    rw [longestRun]
    split <;> omega

theorem longestRun_mono {run best best' : Nat} (less : best ≤ best') (cs : List Char) :
    longestRun quote run best cs ≤ longestRun quote run best' cs := by
  induction cs generalizing run best best' with
  | nil =>
    simp [longestRun]
    omega
  | cons c cs ih =>
    rw [longestRun, longestRun]
    split
    · exact ih less
    · exact ih (by omega)

theorem ne_quote_of_run (none : longestRun quote 0 0 cs = 0) : ∀ c ∈ cs, c ≠ quote := by
  induction cs with
  | nil => simp
  | cons c cs ih =>
    rw [longestRun] at none
    split at none
    next same =>
      have more : max (0 + 1) 0 ≤ longestRun quote (0 + 1) 0 cs := le_longestRun ..
      omega
    next other =>
      rw [List.forall_mem_cons]
      exact ⟨by simpa using other, ih none⟩

theorem literalBody_written (plain : ∀ c ∈ cs, isPlain c ∧ c ≠ '\'') :
    literalBody (cs ++ '\'' :: rest) = some (cs, rest) := by
  have each : ∀ c ∈ cs, (isPlain c && c != '\'') = true := by
    intro c inside
    simp [plain c inside]
  simp [literalBody, bind_apply, map_apply, List.takeWhile_append_of_pos each, List.dropWhile_append_of_pos each]

theorem takeWhile_quotes (k : Nat) {c : Char} (other : c ≠ quote) (rest : List Char) :
    (List.replicate k quote ++ c :: rest).takeWhile (· == quote) = List.replicate k quote := by
  rw [List.takeWhile_append_of_pos (by simp)]
  simp [other]

theorem blockBody_quotes {k : Nat} (some : 0 < k) (few : k < 3) (other : c ≠ quote) :
    blockBody quote read (fuel + 1) (List.replicate k quote ++ c :: rest) =
      blockBody quote (List.replicate k quote ++ read) fuel (c :: rest) := by
  obtain ⟨k, rfl⟩ : ∃ j, k = j + 1 := ⟨k - 1, by omega⟩
  have run : _ = List.replicate (k + 1) quote := takeWhile_quotes (k + 1) other rest
  have least : min (k + 1) 5 = k + 1 := by omega
  have first : (List.replicate (k + 1) quote ++ c :: rest).head? = Option.some quote := rfl
  have none : ¬ 3 ≤ k + 1 := by omega
  simp [blockBody, bind_apply, quoteRun_apply, first, run, least, none]

theorem blockBody_end {k : Nat} (few : k < 3) (other : quote ≠ '\n') :
    blockBody quote read (fuel + 1) (List.replicate k quote ++ quote :: quote :: quote :: '\n' :: rest) =
      some (read.reverse ++ List.replicate k quote, '\n' :: rest) := by
  have joined : List.replicate k quote ++ quote :: quote :: quote :: '\n' :: rest =
      List.replicate (k + 3) quote ++ '\n' :: rest := by
    rw [← List.replicate_append_replicate, List.append_assoc]
    rfl
  have first : (List.replicate (k + 3) quote ++ '\n' :: rest).head? = some quote := rfl
  have run := takeWhile_quotes (k + 3) other.symm rest
  have least : min (k + 3) 5 = k + 3 := by omega
  rw [joined]
  simp [blockBody, bind_apply, quoteRun_apply, first, run, least]

theorem blockBody_step (plain : c = '\n' ∨ isPlain c) (apart : c ≠ '\'') :
    blockBody '\'' read (fuel + 1) (c :: rest) = blockBody '\'' (c :: read) fuel rest := by
  rcases plain with rfl | visible
  · exact blockBody_newline (by decide)
  · exact blockBody_plain visible apart fun _ => by decide

/-- A string between single quotes over several lines, with `k` quotes in front of what is left: they are part of the
string unless three of them stand in a row. -/
theorem blockBody_literal (k : Nat) (plain : ∀ c ∈ cs, c = '\n' ∨ isPlain c) (runs : longestRun '\'' k 0 cs < 3)
    (enough : k + cs.length < fuel) :
    blockBody '\'' read fuel (List.replicate k '\'' ++ (cs ++ '\'' :: '\'' :: '\'' :: '\n' :: rest)) =
      some (read.reverse ++ (List.replicate k '\'' ++ cs), '\n' :: rest) := by
  induction cs generalizing k read fuel with
  | nil =>
    obtain ⟨fuel, rfl⟩ : ∃ j, fuel = j + 1 := ⟨fuel - 1, by omega⟩
    have few : k < 3 := by simpa [longestRun] using runs
    simpa using blockBody_end few (by decide)
  | cons c cs ih =>
    obtain ⟨here, later⟩ := List.forall_mem_cons.mp plain
    rw [List.length_cons] at enough
    rw [longestRun] at runs
    split at runs
    next same =>
      obtain rfl := beq_iff_eq.mp same
      have grown : blockBody '\'' read fuel (List.replicate (k + 1) '\'' ++ (cs ++ _)) = _ :=
        ih (k + 1) later runs (by omega)
      simpa [List.replicate_succ', List.append_assoc] using grown
    next other =>
      have apart : c ≠ '\'' := by simpa using other
      have least : max 0 (max k 0) ≤ longestRun '\'' 0 (max k 0) cs := le_longestRun ..
      have small : longestRun '\'' 0 0 cs < 3 := Nat.lt_of_le_of_lt (longestRun_mono (Nat.zero_le _) cs) runs
      rcases Nat.eq_zero_or_pos k with rfl | some
      · obtain ⟨fuel, rfl⟩ : ∃ j, fuel = j + 1 := ⟨fuel - 1, by omega⟩
        have left : blockBody '\'' (c :: read) fuel (List.replicate 0 '\'' ++ (cs ++ _)) = _ :=
          ih 0 later small (by omega)
        simpa [blockBody_step here apart] using left
      · obtain ⟨fuel, rfl⟩ : ∃ j, fuel = j + 2 := ⟨fuel - 2, by omega⟩
        have left : blockBody '\'' (c :: (List.replicate k '\'' ++ read)) fuel (List.replicate 0 '\'' ++ (cs ++ _)) = _ :=
          ih 0 later small (by omega)
        rw [List.cons_append, blockBody_quotes some (by omega) apart, blockBody_step here apart]
        simpa using left

end Literal

section Marks

variable {text : List Char}

theorem passes_triple (quote : Char) (text : List Char) :
    passes (String.ofList [quote, quote, quote]) (quote :: quote :: quote :: text) = some (true, text) := by
  simp [passes_apply]

theorem passes_single (second : text.head? ≠ some quote ∨ text[1]? ≠ some quote) :
    passes (String.ofList [quote, quote, quote]) (quote :: text) = some (false, quote :: text) := by
  have short : ([quote, quote, quote].isPrefixOf (quote :: text)) = false := by
    rcases text with - | ⟨c, - | ⟨d, text⟩⟩
    · simp [List.isPrefixOf]
    · simp [List.isPrefixOf]
    · simp [List.isPrefixOf] at second ⊢
      rcases second with other | other
      · exact fun same => absurd same.symm other
      · exact fun _ same => absurd same.symm other
  rw [passes_apply, String.toList_ofList, short]
  rfl

theorem stringFrom_lines (read : blockBody quote [] (text.length + 1) text = some (cs, rest)) :
    stringFrom quote (quote :: quote :: quote :: '\n' :: text) = some (String.ofList cs, rest) := by
  rw [stringFrom, bind_some (passes_triple ..), if_pos rfl, bind_some (lineBreak_newline text), bind_some (fuel_apply _)]
  simp [map_apply, read]

theorem stringFrom_triple (line : lineBreak text = some (false, text))
    (read : blockBody quote [] (text.length + 1) text = some (cs, rest)) :
    stringFrom quote (quote :: quote :: quote :: text) = some (String.ofList cs, rest) := by
  rw [stringFrom, bind_some (passes_triple ..), if_pos rfl, bind_some line, bind_some (fuel_apply _)]
  simp [map_apply, read]

theorem stringFrom_basic (second : text.head? ≠ some '"' ∨ text[1]? ≠ some '"')
    (read : basicBody [] (text.length + 1) text = some (cs, rest)) :
    stringFrom '"' ('"' :: text) = some (String.ofList cs, rest) := by
  rw [stringFrom, bind_some (passes_single second)]
  simp [bind_apply, map_apply, read]

theorem stringFrom_literal (second : text.head? ≠ some '\'' ∨ text[1]? ≠ some '\'')
    (read : literalBody text = some (cs, rest)) :
    stringFrom '\'' ('\'' :: text) = some (String.ofList cs, rest) := by
  rw [stringFrom, bind_some (passes_single second)]
  simp [bind_apply, map_apply, read]

end Marks

section Text

theorem Written.head {isBlock : Bool} {text : List Char} (written : Written isBlock c text) :
    ∃ d tail, text = d :: tail ∧ d ≠ '"' := by
  cases written with
  | newline same block => exact ⟨_, _, rfl, by decide⟩
  | escaped mark read => exact ⟨_, _, rfl, by decide⟩
  | plain plain quote slash => exact ⟨_, _, rfl, quote⟩

theorem length_le_escaped (isBlock : Bool) (cs : List Char) : cs.length ≤ (cs.flatMap (escaped isBlock)).length := by
  refine length_le_flatMap (fun c none => ?_) cs
  obtain ⟨d, tail, same, -⟩ := (written_escaped isBlock c).head
  rw [same] at none
  cases none

def Stands (text : List Char) (s : String) : Prop :=
  ∃ quote, (quote = '"' ∨ quote = '\'') ∧ text.head? = some quote ∧
    ∀ rest, stringFrom quote (text ++ '\n' :: rest) = some (s, '\n' :: rest)

theorem stands_block (s : String) :
    Stands ('"' :: '"' :: '"' :: '\n' :: (s.toList.flatMap (escaped true) ++ ['"', '"', '"'])) s := by
  refine ⟨'"', .inl rfl, rfl, fun rest => ?_⟩
  have short := length_le_escaped true s.toList
  have enough : s.toList.length < (s.toList.flatMap (escaped true) ++ '"' :: '"' :: '"' :: '\n' :: rest).length + 1 := by
    rw [List.length_append]
    omega
  have body : blockBody '"' [] _ (s.toList.flatMap (escaped true) ++ '"' :: '"' :: '"' :: '\n' :: rest) = _ :=
    blockBody_written enough
  simpa using stringFrom_lines body

theorem stands_basic (s : String) : Stands ('"' :: (s.toList.flatMap (escaped false) ++ ['"'])) s := by
  refine ⟨'"', .inl rfl, rfl, fun rest => ?_⟩
  have short := length_le_escaped false s.toList
  have enough : s.toList.length < (s.toList.flatMap (escaped false) ++ '"' :: '\n' :: rest).length + 1 := by
    rw [List.length_append]
    omega
  have second : (s.toList.flatMap (escaped false) ++ '"' :: '\n' :: rest).head? ≠ some '"' ∨
      (s.toList.flatMap (escaped false) ++ '"' :: '\n' :: rest)[1]? ≠ some '"' := by
    cases s.toList with
    | nil => exact .inr (by simp)
    | cons c cs =>
      obtain ⟨d, tail, same, other⟩ := (written_escaped false c).head
      exact .inl (by simp [same, other])
  have body : basicBody [] _ (s.toList.flatMap (escaped false) ++ '"' :: '\n' :: rest) = _ := basicBody_written enough
  simpa using stringFrom_basic second body

theorem stands_literal_block {s : String} (plain : ∀ c ∈ s.toList, c = '\n' ∨ isPlain c)
    (runs : longestRun '\'' 0 0 s.toList < 3) :
    Stands ('\'' :: '\'' :: '\'' :: '\n' :: (s.toList ++ ['\'', '\'', '\''])) s := by
  refine ⟨'\'', .inr rfl, rfl, fun rest => ?_⟩
  have enough : 0 + s.toList.length < (s.toList ++ '\'' :: '\'' :: '\'' :: '\n' :: rest).length + 1 := by
    rw [List.length_append]
    omega
  have body : blockBody '\'' [] _ (s.toList ++ '\'' :: '\'' :: '\'' :: '\n' :: rest) = _ :=
    blockBody_literal 0 plain runs enough
  simpa using stringFrom_lines body

theorem stands_literal_triple {s : String} (filled : s.toList ≠ []) (plain : ∀ c ∈ s.toList, isPlain c)
    (runs : longestRun '\'' 0 0 s.toList < 3) :
    Stands ('\'' :: '\'' :: '\'' :: (s.toList ++ ['\'', '\'', '\''])) s := by
  refine ⟨'\'', .inr rfl, rfl, fun rest => ?_⟩
  have enough : 0 + s.toList.length < (s.toList ++ '\'' :: '\'' :: '\'' :: '\n' :: rest).length + 1 := by
    rw [List.length_append]
    omega
  have line : lineBreak (s.toList ++ '\'' :: '\'' :: '\'' :: '\n' :: rest) =
      some (false, s.toList ++ '\'' :: '\'' :: '\'' :: '\n' :: rest) := by
    cases same : s.toList with
    | nil => exact absurd same filled
    | cons c cs =>
      obtain ⟨newline, carriage⟩ := isPlain_apart (plain c (same ▸ List.mem_cons_self))
      exact lineBreak_other newline carriage
  have body : blockBody '\'' [] _ (s.toList ++ '\'' :: '\'' :: '\'' :: '\n' :: rest) = _ :=
    blockBody_literal 0 (fun c inside => .inr (plain c inside)) runs enough
  simpa using stringFrom_triple line body

theorem stands_literal {s : String} (filled : s.toList ≠ []) (plain : ∀ c ∈ s.toList, isPlain c ∧ c ≠ '\'') :
    Stands ('\'' :: (s.toList ++ ['\''])) s := by
  refine ⟨'\'', .inr rfl, rfl, fun rest => ?_⟩
  have second : (s.toList ++ '\'' :: '\n' :: rest).head? ≠ some '\'' := by
    cases same : s.toList with
    | nil => exact absurd same filled
    | cons c cs => simp [(plain c (same ▸ List.mem_cons_self)).2]
  have body : literalBody (s.toList ++ '\'' :: '\n' :: rest) = _ := literalBody_written plain
  simpa using stringFrom_literal (.inl second) body

theorem literal_of_style (isLiteral : (styleOf cs).isLiteral) :
    cs ≠ [] ∧ longestRun '\'' 0 0 cs < 3 ∧ ∀ c ∈ cs, needsEscape c = false := by
  simp only [styleOf, Bool.and_eq_true, decide_eq_true_eq, Bool.not_eq_true', List.any_eq_false, Bool.not_eq_true]
    at isLiteral
  refine ⟨?_, isLiteral.1.2, isLiteral.2⟩
  rintro rfl
  simp at isLiteral

theorem isTriple_eq (cs : List Char) : (styleOf cs).isTriple =
    ((styleOf cs).isLiteral && !(styleOf cs).isBlock && decide (1 ≤ longestRun '\'' 0 0 cs)) := rfl

theorem stands_stringText (s : String) : Stands (stringText s).toList s := by
  have lines : (styleOf s.toList).isBlock = s.toList.contains '\n' := rfl
  have triple := isTriple_eq s.toList
  cases isLiteral : (styleOf s.toList).isLiteral with
  | false =>
    rw [isLiteral, Bool.false_and, Bool.false_and] at triple
    cases isBlock : (styleOf s.toList).isBlock with
    | false =>
      have text : (stringText s).toList = '"' :: (s.toList.flatMap (escaped false) ++ ['"']) := by
        simp [stringText, isBlock, isLiteral, triple]
      rw [text]
      exact stands_basic s
    | true =>
      have text : (stringText s).toList =
          '"' :: '"' :: '"' :: '\n' :: (s.toList.flatMap (escaped true) ++ ['"', '"', '"']) := by
        simp [stringText, isBlock, isLiteral]
      rw [text]
      exact stands_block s
  | true =>
    obtain ⟨filled, runs, noEscape⟩ := literal_of_style isLiteral
    cases isBlock : (styleOf s.toList).isBlock with
    | true =>
      have text : (stringText s).toList = '\'' :: '\'' :: '\'' :: '\n' :: (s.toList ++ ['\'', '\'', '\'']) := by
        simp [stringText, isBlock, isLiteral]
      rw [text]
      refine stands_literal_block (fun c inside => ?_) runs
      exact Decidable.or_iff_not_imp_left.mpr fun newline => isPlain_of_not_escaped newline (noEscape c inside)
    | false =>
      have plain : ∀ c ∈ s.toList, isPlain c := by
        intro c inside
        refine isPlain_of_not_escaped ?_ (noEscape c inside)
        rintro rfl
        rw [lines] at isBlock
        simp [inside] at isBlock
      rw [isLiteral, isBlock] at triple
      by_cases quotes : 1 ≤ longestRun '\'' 0 0 s.toList
      · have text : (stringText s).toList = '\'' :: '\'' :: '\'' :: (s.toList ++ ['\'', '\'', '\'']) := by
          simp [stringText, isBlock, isLiteral, triple, quotes]
        rw [text]
        exact stands_literal_triple filled plain runs
      · have text : (stringText s).toList = '\'' :: (s.toList ++ ['\'']) := by
          simp [stringText, isBlock, isLiteral, triple, quotes]
        have apart := ne_quote_of_run (show longestRun '\'' 0 0 s.toList = 0 by omega)
        rw [text]
        exact stands_literal filled fun c inside => ⟨plain c inside, apart c inside⟩

end Text
end BoundedScript.Toml
