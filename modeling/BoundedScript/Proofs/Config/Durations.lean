import BoundedScript.Duration
import BoundedScript.Proofs.Text.Digits

set_option autoImplicit false

namespace BoundedScript.Duration

open Text (digit_bounds isDigit_toDigits toDigits_cons le_ofDigitChars)

section Characters

variable {c : Char}

theorem letter_range (letter : isUnitLetter c) :
    (65 ≤ c.toNat ∧ c.toNat ≤ 90) ∨ (97 ≤ c.toNat ∧ c.toNat ≤ 122) ∨ c.toNat = 181 := by
  have alpha : c.isAlpha = (c.isUpper || c.isLower) := rfl
  have upper : c.isUpper = decide (65 ≤ c.val ∧ c.val ≤ 90) := rfl
  have lower : c.isLower = (decide (97 ≤ c.val) && decide (c.val ≤ 122)) := rfl
  simpa [isUnitLetter, alpha, upper, lower, UInt32.le_iff_toNat_le, ← Char.toNat_inj, or_assoc] using letter

theorem blank_range (blanks : blank c) :
    c.toNat ≤ 32 ∨ c.toNat = 133 ∨ c.toNat = 160 ∨ 0x2000 ≤ c.toNat := by
  simp [blank, Char.isWhitespace, ← Char.toNat_inj] at blanks
  omega

theorem letter_apart (letter : isUnitLetter c) : c.isDigit = false ∧ blank c = false := by
  have here := letter_range letter
  constructor
  · refine Bool.eq_false_iff.mpr fun digit => ?_
    have other := digit_bounds digit
    omega
  · refine Bool.eq_false_iff.mpr fun blanks => ?_
    have other := blank_range blanks
    omega

theorem blank_apart (blanks : blank c) : c.isDigit = false := by
  refine Bool.eq_false_iff.mpr fun digit => ?_
  have here := blank_range blanks
  have other := digit_bounds digit
  omega

end Characters

section Steps

variable {total n : Nat} {cs rest : List Char}

theorem readFrom_digits (digits : ∀ c ∈ cs, c.isDigit) (small : Nat.ofDigitChars 10 cs n < wordLimit) :
    readFrom total (.whole n) (cs ++ rest) = readFrom total (.whole (Nat.ofDigitChars 10 cs n)) rest := by
  induction cs generalizing n with
  | nil => simp
  | cons c cs ih =>
    rw [Nat.ofDigitChars_cons, Nat.mul_comm] at small
    have fits : n * 10 + digit c < wordLimit := Nat.lt_of_le_of_lt (le_ofDigitChars cs _) small
    have later := ih (fun d inside => digits d (List.mem_cons_of_mem c inside)) small
    simp [readFrom, digits c List.mem_cons_self, word?, fits, Nat.ofDigitChars_cons, Nat.mul_comm 10 n]
    exact later

theorem readFrom_count (small : n < wordLimit) :
    readFrom total .start (Nat.toDigits 10 n ++ rest) = readFrom total (.whole n) rest := by
  have value : Nat.ofDigitChars 10 (Nat.toDigits 10 n) 0 = n := Nat.ofDigitChars_ten_toDigits
  obtain ⟨c, cs, same, first, digits⟩ := toDigits_cons n
  rw [same, Nat.ofDigitChars_cons, Nat.mul_zero, Nat.zero_add] at value
  change Nat.ofDigitChars 10 cs (digit c) = n at value
  have later : readFrom total (.whole (digit c)) (cs ++ rest) = readFrom total (.whole n) rest := by
    rw [readFrom_digits digits (value ▸ small), value]
  simpa [same, readFrom, first] using later

theorem readFrom_letters (letters : ∀ c ∈ cs, isUnitLetter c) (name : List Char) :
    readFrom total (.unit n none name) (cs ++ rest) = readFrom total (.unit n none (name ++ cs)) rest := by
  induction cs generalizing name with
  | nil => simp
  | cons c cs ih =>
    obtain ⟨noDigit, visible⟩ := letter_apart (letters c List.mem_cons_self)
    have later := ih (fun d inside => letters d (List.mem_cons_of_mem c inside)) (name ++ [c])
    simpa [readFrom, noDigit, visible, letters c List.mem_cons_self] using later

def Names (name : String) (u : TimeUnit) : Prop :=
  TimeUnit.ofName? name = some u ∧ name.toList.all isUnitLetter

instance (name : String) (u : TimeUnit) : Decidable (Names name u) :=
  inferInstanceAs (Decidable (_ ∧ _))

structure Part (p : Nat × String) (u : TimeUnit) : Prop where
  names : Names p.2 u
  fits : p.1 * (if u.seconds = 0 then u.nanos else u.seconds) < wordLimit

variable {p : Nat × String} {u : TimeUnit}

theorem Part.count (part : Part p u) : p.1 < wordLimit := by
  refine Nat.lt_of_le_of_lt (Nat.le_mul_of_pos_right _ ?_) part.fits
  cases u <;> decide

theorem Part.text (part : Part p u) :
    readFrom total .start (Nat.toDigits 10 p.1 ++ (p.2.toList ++ rest)) =
      readFrom total (.unit p.1 none p.2.toList) rest := by
  have named : p.2.toList ≠ [] := by
    intro empty
    have none := part.names.1
    rw [String.toList_eq_nil_iff.mp empty] at none
    cases none
  cases letters : p.2.toList with
  | nil => exact absurd letters named
  | cons c cs =>
    have each := List.all_eq_true.mp part.names.2
    rw [letters] at each
    obtain ⟨noDigit, visible⟩ := letter_apart (each c List.mem_cons_self)
    have name : readFrom total (.unit p.1 none [c]) (cs ++ rest) = readFrom total (.unit p.1 none (c :: cs)) rest :=
      readFrom_letters (fun d inside => each d (List.mem_cons_of_mem c inside)) [c]
    simp [readFrom_count part.count, readFrom, noDigit, visible, each c List.mem_cons_self, name]

theorem Part.add (part : Part p u) (small : (total + p.1 * u.nanos) / 1_000_000_000 < wordLimit) :
    add? total p.1 none p.2.toList = some (total + p.1 * u.nanos) := by
  have counted : word? (p.1 * (if u.seconds == 0 then u.nanos else u.seconds)) = some _ :=
    if_pos (by simpa only [beq_iff_eq] using part.fits)
  simp only [add?, String.ofList_toList, part.names.1, Option.bind_eq_bind, Option.bind_some, counted]
  simp [small]

end Steps

section Sums

def scale (name : String) : Nat :=
  ((TimeUnit.ofName? name).map TimeUnit.nanos).getD 0

def worth : List (Nat × String) → Nat
  | [] => 0
  | p :: ps => p.1 * scale p.2 + worth ps

theorem worth_filter (ps : List (Nat × String)) : worth (ps.filter (·.1 != 0)) = worth ps := by
  induction ps with
  | nil => rfl
  | cons p ps ih =>
    by_cases zero : p.1 = 0
    · simp [zero, ih, worth]
    · simp [zero, ih, worth]

variable {total : Nat}

theorem readFrom_parts {p : Nat × String} {ps : List (Nat × String)} (each : ∀ q ∈ p :: ps, ∃ u, Part q u)
    (small : (total + worth (p :: ps)) / 1_000_000_000 < wordLimit) :
    readFrom total .start (" ".intercalate ((p :: ps).map fun q => toString q.1 ++ q.2)).toList =
      some (total + worth (p :: ps)) := by
  induction ps generalizing total p with
  | nil =>
    obtain ⟨u, part⟩ := each p List.mem_cons_self
    have same : scale p.2 = u.nanos := by simp [scale, part.names.1]
    have read : readFrom total .start (Nat.toDigits 10 p.1 ++ p.2.toList) =
        readFrom total (.unit p.1 none p.2.toList) [] := by
      rw [← part.text, List.append_nil]
    rw [worth, same] at small ⊢
    simp [read, readFrom, part.add small, worth]
  | cons q ps ih =>
    obtain ⟨u, part⟩ := each p List.mem_cons_self
    have same : scale p.2 = u.nanos := by simp [scale, part.names.1]
    rw [worth, same, ← Nat.add_assoc] at small ⊢
    have later := ih (fun r inside => each r (List.mem_cons_of_mem p inside)) small
    have added := part.add (Nat.lt_of_le_of_lt (Nat.div_le_div_right (Nat.le_add_right _ _)) small)
    have space : ' '.isDigit = false ∧ blank ' ' := by decide
    rw [List.map_cons] at later
    rw [List.map_cons, List.map_cons, String.intercalate_cons_cons]
    simpa [part.text, readFrom, space, added] using later

end Sums

theorem names_plural {one : String} {u : TimeUnit} (n : Nat) (single : Names one u) (several : Names (one ++ "s") u) :
    Names (if n == 1 then one else one ++ "s") u := by
  split
  · exact single
  · exact several

theorem parts_written (d : Duration) : ∀ p ∈ d.parts, ∃ u, Part p u := by
  have small := d.inRange
  intro p inside
  have listed := (List.mem_filter.mp inside).1
  simp only [List.mem_cons, List.not_mem_nil, or_false, TimeUnit.seconds] at listed
  rcases listed with rfl | rfl | rfl | rfl | rfl | rfl | rfl | rfl | rfl
  · exact ⟨.year, names_plural _ (by decide) (by decide), by simp [TimeUnit.seconds, wordLimit]; omega⟩
  · exact ⟨.month, names_plural _ (by decide) (by decide), by simp [TimeUnit.seconds, wordLimit]; omega⟩
  · exact ⟨.day, names_plural _ (by decide) (by decide), by simp [TimeUnit.seconds, wordLimit]; omega⟩
  · exact ⟨.hour, show Names "h" .hour by decide, by simp [TimeUnit.seconds, wordLimit]; omega⟩
  · exact ⟨.minute, show Names "m" .minute by decide, by simp [TimeUnit.seconds, wordLimit]; omega⟩
  · exact ⟨.second, show Names "s" .second by decide, by simp [TimeUnit.seconds, wordLimit]; omega⟩
  · exact ⟨.millisecond, show Names "ms" .millisecond by decide,
      by simp [TimeUnit.seconds, TimeUnit.nanos, wordLimit]; omega⟩
  · exact ⟨.microsecond, show Names "us" .microsecond by decide,
      by simp [TimeUnit.seconds, TimeUnit.nanos, wordLimit]; omega⟩
  · exact ⟨.nanosecond, show Names "ns" .nanosecond by decide,
      by simp [TimeUnit.seconds, TimeUnit.nanos, wordLimit]; omega⟩

theorem scale_plural {one : String} (n : Nat) (same : scale (one ++ "s") = scale one) :
    scale (if n == 1 then one else one ++ "s") = scale one := by
  split
  · rfl
  · exact same

theorem worth_parts (d : Duration) : worth d.parts = d.nanos := by
  rw [parts, worth_filter]
  simp only [worth, scale_plural _ (show scale ("year" ++ "s") = scale "year" by decide),
    scale_plural _ (show scale ("month" ++ "s") = scale "month" by decide),
    scale_plural _ (show scale ("day" ++ "s") = scale "day" by decide)]
  simp [scale, TimeUnit.ofName?, TimeUnit.names, TimeUnit.nanos, TimeUnit.seconds]
  omega

theorem readFrom_blanks {total : Nat} {cs : List Char} (blanks : cs.all blank) :
    readFrom total .start cs = some total := by
  induction cs with
  | nil => rfl
  | cons c cs ih =>
    obtain ⟨here, later⟩ := Bool.and_eq_true_iff.mp (List.all_cons ▸ blanks)
    simp [readFrom, blank_apart here, here, ih later]

theorem read?_of_readFrom {s : String} {n : Nat} (read : readFrom 0 .start s.toList = some n) (filled : n ≠ 0) :
    read? s = ofNanos? n := by
  have unit : s ≠ "0" := by
    rintro rfl
    have none : readFrom 0 .start "0".toList = none := by decide +kernel
    rw [none] at read
    cases read
  have visible : s.toList.all blank = false := by
    refine Bool.eq_false_iff.mpr fun blanks => filled ?_
    rw [readFrom_blanks blanks] at read
    exact (Option.some.inj read).symm
  rw [read?, beq_false_of_ne unit]
  split
  next wrong => cases wrong
  cases same : s.toList with
  | nil => simp [same] at visible
  | cons c cs =>
    rw [same] at visible read
    simp [visible, read]

theorem read?_render (d : Duration) : read? d.render = some d := by
  have each := parts_written d
  have whole := worth_parts d
  have small := d.inRange
  rw [render]
  cases same : d.parts with
  | nil =>
    rw [same] at whole
    obtain ⟨n, inRange⟩ := d
    obtain rfl : 0 = n := whole
    change read? "0s" = some ⟨0, by decide⟩
    decide +kernel
  | cons p ps =>
    rw [same] at each whole
    have read := readFrom_parts each (show (0 + _) / 1_000_000_000 < wordLimit by rw [whole, wordLimit]; omega)
    rw [whole, Nat.zero_add] at read
    have filled : d.nanos ≠ 0 := by
      intro zero
      simp [parts, zero] at same
    rw [read?_of_readFrom read filled, ofNanos?, dif_pos small]

theorem Part.small {p : Nat × String} {u : TimeUnit} (part : Part p u) :
    ∀ c ∈ (toString p.1 ++ p.2).toList, c.toNat < 256 := by
  intro c inside
  rw [String.toList_append, List.mem_append] at inside
  rcases inside with digit | letter
  · have range := digit_bounds (isDigit_toDigits p.1 c (by simpa using digit))
    omega
  · have range := letter_range (List.all_eq_true.mp part.names.2 c letter)
    omega

theorem parts_small {ps : List (Nat × String)} (each : ∀ p ∈ ps, ∃ u, Part p u) :
    ∀ c ∈ (" ".intercalate (ps.map fun p => toString p.1 ++ p.2)).toList, c.toNat < 256 := by
  induction ps with
  | nil => simp
  | cons p ps ih =>
    obtain ⟨⟨u, part⟩, later⟩ := List.forall_mem_cons.mp each
    cases ps with
    | nil =>
      rw [List.map_singleton, String.intercalate_singleton]
      exact part.small
    | cons q ps =>
      have others := ih later
      rw [List.map_cons] at others
      rw [List.map_cons, List.map_cons, String.intercalate_cons_cons]
      intro c inside
      rw [String.toList_append, String.toList_append, List.mem_append, List.mem_append] at inside
      rcases inside with (first | space) | other
      · exact part.small c first
      · obtain rfl : c = ' ' := by simpa using space
        decide
      · exact others c other

theorem render_small (d : Duration) : ∀ c ∈ d.render.toList, c.toNat < 256 := by
  have each := parts_written d
  rw [render]
  cases same : d.parts with
  | nil => simp
  | cons p ps =>
    rw [same] at each
    exact parts_small each

end BoundedScript.Duration
