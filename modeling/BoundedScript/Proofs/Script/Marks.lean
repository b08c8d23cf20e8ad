import BoundedScript.Proofs.ExpressionRules
import BoundedScript.Script.Parse

set_option autoImplicit false

namespace BoundedScript.Script.Lexer

def isMark (c : Char) : Bool :=
  c.isDigit || [' ', '(', ')', '.', '|', '+', '-', '*', '/', '%', '<', '>', '=', '!', '&', '?', ':', ',', ';'].contains c

def Marks (src : Source) (i : Nat) : Prop :=
  ∀ j c, i ≤ j → src[j]? = some c → isMark c = true

theorem Marks.later {src : Source} {i j : Nat} (marks : Marks src i) (le : i ≤ j) : Marks src j :=
  fun k c behind there => marks k c (Nat.le_trans le behind) there

theorem isMark_ascii {c : Char} (mark : isMark c = true) : c.toNat < 128 := by
  rw [isMark, Bool.or_eq_true, List.contains_iff_mem] at mark
  rcases mark with digit | listed
  · exact Expression.isAlphanum_ascii (by simp [Char.isAlphanum, digit])
  · exact Expression.all_ascii (by decide) listed

theorem isMark_apart {c : Char} (mark : isMark c = true) :
    isNameStart c = false ∧ (c == '\\') = false ∧ (c == '"') = false ∧ (c == '\'') = false ∧ (c == '#') = false := by
  have each := Expression.forall_ascii (fun c => !isMark c ||
    (!isNameStart c && c != '\\' && c != '"' && c != '\'' && c != '#')) (by decide) c (isMark_ascii mark)
  simpa [mark, and_assoc] using each

section Places

variable {src : Source}

theorem lineCommentEnd_le (i fuel : Nat) : i ≤ lineCommentEnd src i fuel := by
  fun_induction lineCommentEnd src i fuel <;> omega

theorem blockCommentEnd_le {i j fuel : Nat} {newline after : Bool}
    (ended : blockCommentEnd src i newline fuel = some (j, after)) : i ≤ j := by
  fun_induction blockCommentEnd src i newline fuel <;> simp_all <;> omega

theorem skipBlanks_le {i j fuel : Nat} {newline after : Bool}
    (skipped : skipBlanks src i newline fuel = some (j, after)) : i ≤ j := by
  fun_induction skipBlanks src i newline fuel with
  | case1 | case2 | case8 | case10 =>
    cases skipped
    exact Nat.le_refl _
  | case3 | case4 =>
    rename_i ih
    exact Nat.le_of_succ_le (ih skipped)
  | case5 =>
    rename_i i _ _ _ _ _ _ _ _ ih
    have line : i + 2 ≤ lineCommentEnd src (i + 2) src.size := lineCommentEnd_le _ _
    have rest := ih skipped
    omega
  | case6 => cases skipped
  | case7 =>
    rename_i ended ih
    have block := blockCommentEnd_le ended
    have rest := ih skipped
    omega
  | case9 =>
    rename_i i _ _ _ _ _ _ _ _ ih
    exact Nat.le_trans (lineCommentEnd_le i src.size) (ih skipped)

theorem digitsFrom_le {base i n count fuel m more j : Nat} {afterDigit : Bool}
    (read : digitsFrom src base i n count afterDigit fuel = some (m, more, j)) : i ≤ j := by
  fun_induction digitsFrom src base i n count afterDigit fuel <;> simp_all <;> omega

theorem exponentFrom_le {i j : Nat} {e : Int} (read : exponentFrom src i = some (e, j)) : i ≤ j := by
  rw [exponentFrom.eq_def] at read
  split at read
  · split at read
    · dsimp only at read
      split at read
      next found =>
        have digits := digitsFrom_le found
        split at read
        · cases read
        · cases read
          split at digits <;> omega
      · cases read
    · cases read
      exact Nat.le_refl _
  · cases read
    exact Nat.le_refl _

theorem decimalFrom_le {n count i j : Nat} {t : Token} (read : decimalFrom src n count i = some (t, j)) :
    i ≤ j ∧ ∃ x, t = .number x := by
  have scaled : ∀ {n count places k : Nat}, (do
      let power ← exponentFrom src k
      if count == 0 then none
      some (Token.number (Double.ofDecimal n (power.1 - places)), power.2)) = some (t, j) →
      k ≤ j ∧ ∃ x, t = .number x := by
    intro n count places k read
    obtain ⟨⟨e, l⟩, exponent, rest⟩ := Option.bind_eq_some_iff.mp read
    dsimp only at rest
    split at rest
    · cases rest
    · cases rest
      exact ⟨exponentFrom_le exponent, _, rfl⟩
  rw [decimalFrom] at read
  dsimp only at read
  split at read
  · split at read
    · cases read
    · obtain ⟨⟨m, more, k⟩, digits, rest⟩ := Option.bind_eq_some_iff.mp read
      have first := digitsFrom_le digits
      exact (scaled rest).imp_left fun le => Nat.le_trans (Nat.le_of_succ_le first) le
  · exact scaled read

theorem radixFrom_le {base i j : Nat} {t : Token} (read : radixFrom src base i = some (t, j)) :
    i ≤ j ∧ ((∃ x, t = .number x) ∨ ∃ n, t = .bigint n) := by
  rw [radixFrom] at read
  obtain ⟨⟨n, count, k⟩, digits, rest⟩ := Option.bind_eq_some_iff.mp read
  have first := digitsFrom_le digits
  dsimp only at rest
  split at rest
  · cases rest
  · split at rest
    · cases rest
      exact ⟨Nat.le_succ_of_le first, .inr ⟨_, rfl⟩⟩
    · cases rest
      exact ⟨first, .inl ⟨_, rfl⟩⟩

theorem numberAt_le {i j : Nat} {t : Token} (read : numberAt src i = some (t, j)) :
    i ≤ j ∧ ((∃ x, t = .number x) ∨ ∃ n, t = .bigint n) := by
  have radix : ∀ {base}, radixFrom src base (i + 2) = some (t, j) → i ≤ j ∧ ((∃ x, t = .number x) ∨ ∃ n, t = .bigint n) :=
    fun read => (radixFrom_le read).imp_left fun le => Nat.le_trans (Nat.le_add_right _ _) le
  rw [numberAt] at read
  dsimp only at read
  split at read
  iterate 6 exact radix read
  split at read
  · cases read
  · obtain ⟨⟨n, count, k⟩, digits, rest⟩ := Option.bind_eq_some_iff.mp read
    have first := digitsFrom_le digits
    dsimp only at rest
    split at rest
    · cases rest
      exact ⟨Nat.le_succ_of_le first, .inr ⟨_, rfl⟩⟩
    · obtain ⟨later, x, same⟩ := decimalFrom_le rest
      exact ⟨Nat.le_trans first later, .inl ⟨x, same⟩⟩

theorem number_le {i j : Nat} {t : Token} (read : number src i = some (t, j)) :
    i ≤ j ∧ ((∃ x, t = .number x) ∨ ∃ n, t = .bigint n) := by
  rw [number] at read
  obtain ⟨⟨t, k⟩, found, rest⟩ := Option.bind_eq_some_iff.mp read
  dsimp only at rest
  split at rest
  · cases rest
  · cases rest
    exact numberAt_le found

theorem nameFrom_le {i j fuel : Nat} {acc n : String} {escaped after : Bool} (marks : Marks src i)
    (read : nameFrom src i acc escaped fuel = some (n, after, j)) : i ≤ j := by
  have straight : ∀ {i c}, Marks src i → at? src i = some c → (c == '\\') = true → False := by
    intro i c marks there slash
    rw [(isMark_apart (marks i c (Nat.le_refl _) there)).2.1] at slash
    cases slash
  fun_induction nameFrom src i acc escaped fuel with
  | case1 | case2 | case8 =>
    cases read
    exact Nat.le_refl _
  | case3 | case5 | case6 => cases read
  | case4 =>
    rename_i there slash _ _ _ _ _ _ _
    exact (straight marks there slash).elim
  | case7 =>
    rename_i ih
    exact Nat.le_of_succ_le (ih (marks.later (Nat.le_succ _)) read)

theorem regexpFrom_le {i j fuel : Nat} {inClass : Bool} {acc u : Units}
    (read : regexpFrom src i inClass acc fuel = some (u, j)) : i + 1 ≤ j := by
  fun_induction regexpFrom src i inClass acc fuel with
  | case1 | case2 | case3 | case4 | case5 => cases read
  | case6 | case8 =>
    rename_i ih
    have later := ih read
    omega
  | case7 =>
    cases read
    exact Nat.le_refl _

def IsMarked (src : Source) (l : Lexeme) : Prop :=
  match l.token with
  | .word _ _ | .privateName _ => False
  | .punct p => (∀ c ∈ p.toList, isMark c = true) ∧ Marks src l.start
  | _ => True

theorem startsAt_marks {p : List Char} {i : Nat} (marks : Marks src i) (starts : startsAt src p i = true) :
    ∀ c ∈ p, isMark c = true := by
  induction p generalizing i with
  | nil => exact fun _ inside => by cases inside
  | cons d rest ih =>
    rw [startsAt, Bool.and_eq_true, beq_iff_eq] at starts
    intro c inside
    rcases List.mem_cons.mp inside with rfl | later
    · exact marks i c (Nat.le_refl _) starts.1
    · exact ih (marks.later (Nat.le_succ i)) starts.2 c later

theorem punct_marked {i j : Nat} {t : Token} (marks : Marks src i) (read : punct src i = some (t, j)) :
    i ≤ j ∧ ∃ p, t = .punct p ∧ ∀ c ∈ p.toList, isMark c = true := by
  rw [punct] at read
  split at read
  · cases read
  next p found =>
    split at read
    · cases read
      refine ⟨Nat.le_succ i, _, rfl, ?_⟩
      intro c inside
      change c ∈ (String.ofList ['?']).toList at inside
      rw [String.toList_ofList, List.mem_singleton] at inside
      subst inside
      decide
    · cases read
      refine ⟨Nat.le_add_right _ _, _, rfl, ?_⟩
      rw [String.toList_ofList]
      have starts : startsAt src p i = true := List.find?_some (p := (startsAt src · i)) found
      exact startsAt_marks marks starts

theorem next_marked {i : Nat} {l : Lexeme} (marks : Marks src i) (read : next src i = some l) :
    i ≤ l.start ∧ l.start ≤ l.stop ∧ IsMarked src l := by
  rw [next] at read
  obtain ⟨⟨start, newline⟩, blanks, rest⟩ := Option.bind_eq_some_iff.mp read
  have first := skipBlanks_le blanks
  have later := marks.later first
  obtain ⟨⟨token, stop⟩, found, rest⟩ := Option.bind_eq_some_iff.mp rest
  cases rest
  refine ⟨first, ?_⟩
  dsimp only at found ⊢
  rw [tokenAt] at found
  split at found
  · cases found
    exact ⟨Nat.le_refl _, trivial⟩
  next c there =>
    have apart := isMark_apart (later start c (Nat.le_refl _) there)
    simp only [apart.1, apart.2.1, apart.2.2.1, apart.2.2.2.1, apart.2.2.2.2, Bool.or_self, Bool.false_eq_true,
      if_false] at found
    split at found
    · obtain ⟨le, ⟨x, rfl⟩ | ⟨n, rfl⟩⟩ := number_le found
      · exact ⟨le, trivial⟩
      · exact ⟨le, trivial⟩
    · obtain ⟨le, p, rfl, each⟩ := punct_marked later found
      exact ⟨le, each, later⟩

end Places

end BoundedScript.Script.Lexer
