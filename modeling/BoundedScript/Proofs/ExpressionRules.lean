import Mathlib
import BoundedScript.Expression

set_option autoImplicit false

namespace BoundedScript.Expression

structure IsRun (p : Char → Bool) (cs before word after : List Char) : Prop where
  text : cs = before ++ (word ++ after)
  filled : word ≠ []
  inside : ∀ c ∈ word, p c
  starts : before.getLast?.any p = false
  ends : after.head?.any p = false

def IsKeyword (word : List Char) : Prop :=
  ∃ k ∈ keywords, word.map Char.toLower = k.toList

structure KeywordRun (cs before word after : List Char) : Prop where
  run : IsRun Letters.ascii.isWord cs before word after
  keyword : IsKeyword word

def alphabet : List Char :=
  "ABCDEFGHIJKLMNOPQRSTUVWXYZabcdefghijklmnopqrstuvwxyz0123456789_$ ().|+-*/%<>=!&?:,".toList

/-- The rule that a rejection tells of is broken; the two that name a place name the first one. -/
def Breaks (cs : List Char) : Rejection → Prop
  | .empty => cs = []
  | .tooLong length limit =>
    length = (String.ofList cs).utf8ByteSize ∧ limit = maxBytes ∧ maxBytes < length
  | .container => ∃ c ∈ cs, c ∈ ['\x7b', '\x7d', '[', ']']
  | .quote => ∃ c ∈ cs, c ∈ ['"', '\'', '\x60']
  | .separator => ∃ c ∈ cs, c ∈ [';', '\\', '\n', '\r']
  | .comment => ['/', '*'] <:+: cs ∨ ['*', '/'] <:+: cs ∨ ['/', '/'] <:+: cs
  | .character c =>
    ∃ before after, cs = before ++ c :: after ∧ c ∉ alphabet ∧ ∀ b ∈ before, b ∈ alphabet
  | .keyword w =>
    ∃ before word after, w = String.ofList word ∧ KeywordRun cs before word after ∧
      ∀ before' word' after', KeywordRun cs before' word' after' → before.length ≤ before'.length

def rank : Rejection → Nat
  | .empty => 0
  | .tooLong _ _ => 1
  | .container => 2
  | .quote => 3
  | .separator => 4
  | .comment => 5
  | .character _ => 6
  | .keyword _ => 7

structure Permitted (cs : List Char) : Prop where
  filled : cs ≠ []
  short : (String.ofList cs).utf8ByteSize ≤ maxBytes
  letters : ∀ c ∈ cs, c ∈ alphabet
  uncommented : ¬ (['/', '*'] <:+: cs ∨ ['*', '/'] <:+: cs ∨ ['/', '/'] <:+: cs)
  keywordless : ∀ before word after, ¬ KeywordRun cs before word after

-- The checks over finite tables are written as computations: `Char` itself can be enumerated, and a
-- decision of `∀ c ∈ cs` may go that way.
theorem forall_ascii (p : Char → Bool) (each : (List.range 128).all (fun n => p (Char.ofNat n)) = true)
    (c : Char) (ascii : c.toNat < 128) : p c = true := by
  have here := List.all_eq_true.mp each c.toNat (List.mem_range.mpr ascii)
  rwa [Char.ofNat_toNat] at here

theorem all_ascii {cs : List Char} (each : cs.all (fun c => c.toNat < 128) = true) {c : Char}
    (member : c ∈ cs) : c.toNat < 128 :=
  of_decide_eq_true (List.all_eq_true.mp each c member)

-- The checks over the alphabet go over its characters one by one, and take them from a list.
theorem alphabet_eq : alphabet = [
    'A', 'B', 'C', 'D', 'E', 'F', 'G', 'H', 'I', 'J', 'K', 'L', 'M', 'N', 'O', 'P', 'Q', 'R', 'S', 'T', 'U', 'V',
    'W', 'X', 'Y', 'Z',
    'a', 'b', 'c', 'd', 'e', 'f', 'g', 'h', 'i', 'j', 'k', 'l', 'm', 'n', 'o', 'p', 'q', 'r', 's', 't', 'u', 'v',
    'w', 'x', 'y', 'z',
    '0', '1', '2', '3', '4', '5', '6', '7', '8', '9', '_', '$', ' ', '(', ')', '.', '|', '+', '-', '*', '/', '%',
    '<', '>', '=', '!', '&', '?', ':', ','] :=
  String.toList_ofList

theorem alphabet_ascii {c : Char} (member : c ∈ alphabet) : c.toNat < 128 :=
  all_ascii (by rw [alphabet_eq]; decide +kernel) member

theorem isAlphanum_ascii {c : Char} (alphanum : c.isAlphanum) : c.toNat < 128 := by
  simp only [Char.isAlphanum, Char.isAlpha, Char.isUpper, Char.isLower, Char.isDigit, Bool.or_eq_true,
    Bool.and_eq_true, decide_eq_true_eq, UInt32.le_iff_toNat_le, ge_iff_le] at alphanum
  have same : c.toNat = c.val.toNat := rfl
  have z : 'z'.val.toNat = 122 := rfl
  have Z : 'Z'.val.toNat = 90 := rfl
  have nine : '9'.val.toNat = 57 := rfl
  omega

theorem isAllowed_iff (c : Char) : isAllowed c ↔ c ∈ alphabet := by
  by_cases ascii : c.toNat < 128
  · have listed : alphabet.all isAllowed = true := by
      rw [alphabet_eq]
      decide +kernel
    have all := forall_ascii (fun c => !isAllowed c || alphabet.contains c) (by rw [alphabet_eq]; decide +kernel) c ascii
    refine ⟨fun allowed => ?_, List.all_eq_true.mp listed c⟩
    rw [allowed, Bool.not_true, Bool.false_or] at all
    exact List.contains_iff_mem.mp all
  · have foreign : c ∉ alphabet := fun member => ascii (alphabet_ascii member)
    have unlisted : c ∉ operators := fun member => ascii (all_ascii (by decide +kernel) member)
    have letterless : c.isAlphanum = false :=
      Bool.eq_false_iff.2 fun alphanum => ascii (isAlphanum_ascii alphanum)
    simp [isAllowed, unlisted, letterless, foreign]

theorem spelled_ascii_iff (k cs found rest : List Char) :
    Letters.ascii.spelled k cs = some (found, rest) ↔
      cs = found ++ rest ∧ found.map Char.toLower = k := by
  induction k generalizing cs found with
  | nil =>
    simp only [Letters.spelled, Option.some.injEq, Prod.mk.injEq, List.map_eq_nil_iff]
    constructor
    · rintro ⟨rfl, rfl⟩
      exact ⟨rfl, rfl⟩
    · rintro ⟨rfl, rfl⟩
      exact ⟨rfl, rfl⟩
  | cons letter word ih =>
    cases cs with
    | nil => cases found <;> simp [Letters.spelled]
    | cons c cs =>
      by_cases same : c.toLower = letter
      · have folds : Letters.ascii.isCaseOf letter c := by simp [Letters.ascii, same]
        rw [Letters.spelled, if_pos folds, Option.map_eq_some_iff]
        constructor
        · rintro ⟨⟨tail, last⟩, found', whole⟩
          obtain ⟨rfl, rfl⟩ := Prod.mk.inj whole
          obtain ⟨rfl, rfl⟩ := (ih cs tail).1 found'
          exact ⟨rfl, by rw [List.map_cons, same]⟩
        · rintro ⟨text, lower⟩
          cases found with
          | nil => cases lower
          | cons first tail =>
            obtain ⟨rfl, rfl⟩ := List.cons.inj text
            exact ⟨(tail, rest), (ih _ tail).2 ⟨rfl, (List.cons.inj lower).2⟩, rfl⟩
      · have other : Letters.ascii.isCaseOf letter c = false := by simp [Letters.ascii, same]
        rw [Letters.spelled, other]
        constructor
        · intro missed
          cases missed
        · rintro ⟨text, lower⟩
          cases found with
          | nil => cases lower
          | cons first tail =>
            obtain ⟨rfl, -⟩ := List.cons.inj text
            exact absurd (List.cons.inj lower).1 same

structure Stands (before : Option Char) (cs word after : List Char) : Prop where
  text : cs = word ++ after
  keyword : IsKeyword word
  starts : before.any Letters.ascii.isWord = false
  ends : after.head?.any Letters.ascii.isWord = false

theorem keywords_letters {k : String} (member : k ∈ keywords) :
    k.toList ≠ [] ∧ ∀ c ∈ k.toList, c.isLower := by
  have all : keywords.all (fun k => k.toList != [] && k.toList.all Char.isLower) = true := by
    decide +kernel
  have here := List.all_eq_true.mp all k member
  rw [Bool.and_eq_true, bne_iff_ne, List.all_eq_true] at here
  exact here

theorem isWord_of_toLower {c : Char} (lower : c.toLower.isLower) : Letters.ascii.isWord c := by
  have letter : c.isAlpha := by
    unfold Char.toLower at lower
    split at lower
    next upper => exact Bool.or_eq_true _ _ ▸ .inl (by simpa [Char.isUpper] using upper)
    next => exact Bool.or_eq_true _ _ ▸ .inr lower
  simp [Letters.ascii, Char.isAlphanum, letter]

theorem IsKeyword.filled {word : List Char} (keyword : IsKeyword word) : word ≠ [] := by
  obtain ⟨k, member, same⟩ := keyword
  rintro rfl
  exact (keywords_letters member).1 same.symm

theorem IsKeyword.inside {word : List Char} (keyword : IsKeyword word) :
    ∀ c ∈ word, Letters.ascii.isWord c := by
  obtain ⟨k, member, same⟩ := keyword
  intro c inside
  apply isWord_of_toLower
  apply (keywords_letters member).2
  rw [← same]
  exact List.mem_map_of_mem inside

-- Words of one place that both end where no word goes on are the same.
theorem word_unique {p : Char → Bool} {word word' after after' : List Char}
    (text : word ++ after = word' ++ after') (inside : ∀ c ∈ word, p c) (inside' : ∀ c ∈ word', p c)
    (ends : after.head?.any p = false) (ends' : after'.head?.any p = false) :
    word = word' ∧ after = after' := by
  induction word generalizing word' with
  | nil =>
    cases word' with
    | nil => exact ⟨rfl, text⟩
    | cons c rest =>
      rw [List.nil_append] at text
      simp [text, inside' c List.mem_cons_self] at ends
  | cons c rest ih =>
    cases word' with
    | nil =>
      rw [List.nil_append] at text
      simp [← text, inside c List.mem_cons_self] at ends'
    | cons c' rest' =>
      obtain ⟨rfl, tails⟩ := List.cons.inj text
      obtain ⟨rfl, rfl⟩ := ih tails (fun a member => inside a (List.mem_cons_of_mem _ member))
        fun a member => inside' a (List.mem_cons_of_mem _ member)
      exact ⟨rfl, rfl⟩

theorem isBoundary_before (before : Option Char) {c : Char} (word : Letters.ascii.isWord c) :
    Letters.ascii.isBoundary before (some c) = !before.any Letters.ascii.isWord := by
  simp [Letters.isBoundary, word]

theorem isBoundary_after (after : Option Char) {c : Char} (word : Letters.ascii.isWord c) :
    Letters.ascii.isBoundary (some c) after = !after.any Letters.ascii.isWord := by
  simp [Letters.isBoundary, word]

-- Both ends of a keyword are word characters, so boundaries are places where its neighbours are none.
theorem boundaries_iff (before : Option Char) (after : List Char) {word : List Char}
    (keyword : IsKeyword word) :
    (Letters.ascii.isBoundary before (word ++ after).head? &&
        Letters.ascii.isBoundary word.getLast? after.head?) =
      (!before.any Letters.ascii.isWord && !after.head?.any Letters.ascii.isWord) := by
  have first := isBoundary_before before (keyword.inside _ (List.head_mem keyword.filled))
  have last := isBoundary_after after.head?
    (keyword.inside _ (List.getLast_mem keyword.filled))
  rw [List.head?_append_of_ne_nil _ keyword.filled, List.head?_eq_some_head keyword.filled,
    List.getLast?_eq_some_getLast keyword.filled, first, last]

theorem keywordAt_stands {before : Option Char} {cs word : List Char}
    (found : keywordAt .ascii before cs = some word) : ∃ after, Stands before cs word after := by
  obtain ⟨k, member, chosen⟩ := List.exists_of_findSome?_eq_some found
  split at chosen
  next word' after spelled =>
    split at chosen
    next bounded =>
      obtain rfl := Option.some.inj chosen
      obtain ⟨rfl, lower⟩ := (spelled_ascii_iff _ _ _ _).1 spelled
      have keyword : IsKeyword word' := ⟨k, member, lower⟩
      rw [boundaries_iff before after keyword] at bounded
      simp only [Bool.and_eq_true, Bool.not_eq_true'] at bounded
      exact ⟨after, rfl, keyword, bounded.1, bounded.2⟩
    next => cases chosen
  next => cases chosen

theorem keywordAt_ne_none {before : Option Char} {cs word after : List Char}
    (stands : Stands before cs word after) : keywordAt .ascii before cs ≠ none := by
  obtain ⟨k, member, lower⟩ := stands.keyword
  intro missed
  have passed := List.findSome?_eq_none_iff.1 missed k member
  have spelled := (spelled_ascii_iff k.toList cs word after).2 ⟨stands.text, lower⟩
  have bounded := boundaries_iff before after stands.keyword
  rw [stands.starts, stands.ends, ← stands.text] at bounded
  simp only [spelled, bounded] at passed
  cases passed

theorem KeywordRun.of_stands {pre cs word after : List Char} (stands : Stands pre.getLast? cs word after) :
    KeywordRun (pre ++ cs) pre word after where
  run := ⟨by rw [stands.text], stands.keyword.filled, stands.keyword.inside, stands.starts, stands.ends⟩
  keyword := stands.keyword

theorem KeywordRun.stands {pre cs word after : List Char} (run : KeywordRun (pre ++ cs) pre word after) :
    Stands pre.getLast? cs word after where
  text := List.append_cancel_left run.run.text
  keyword := run.keyword
  starts := run.run.starts
  ends := run.run.ends

-- A run that does not start before the end of `pre` starts there or behind the next character.
theorem KeywordRun.later {pre rest before word after : List Char} {c : Char}
    (run : KeywordRun (pre ++ c :: rest) before word after) (behind : pre.length ≤ before.length) :
    before = pre ∨ (pre ++ [c]).length ≤ before.length := by
  rcases Nat.eq_or_lt_of_le behind with same | more
  · left
    have text := run.run.text
    exact (List.append_inj_left text same).symm
  · right
    rw [List.length_append, List.length_singleton]
    exact more

theorem findKeyword_leftmost (pre cs : List Char) :
    match findKeyword .ascii pre.getLast? cs with
    | some word => ∃ before after, KeywordRun (pre ++ cs) before word after ∧
        ∀ before' word' after', KeywordRun (pre ++ cs) before' word' after' →
          pre.length ≤ before'.length → before.length ≤ before'.length
    | none => ∀ before word after, KeywordRun (pre ++ cs) before word after →
        ¬ pre.length ≤ before.length := by
  induction cs generalizing pre with
  | nil =>
    intro before word after run behind
    have lengths := congrArg List.length run.run.text
    have filled := List.length_pos_iff.2 run.run.filled
    simp only [List.length_append, List.length_nil] at lengths
    omega
  | cons c rest ih =>
    rw [findKeyword]
    cases here : keywordAt .ascii pre.getLast? (c :: rest) with
    | some word =>
      obtain ⟨after, stands⟩ := keywordAt_stands here
      exact ⟨pre, after, .of_stands stands, fun _ _ _ _ behind => behind⟩
    | none =>
      -- Nothing stands here, so a run starts behind `c` or not at all.
      have next := ih (pre ++ [c])
      have later {before word after : List Char} (run : KeywordRun (pre ++ c :: rest) before word after)
          (behind : pre.length ≤ before.length) : (pre ++ [c]).length ≤ before.length := by
        rcases run.later behind with rfl | more
        · exact absurd here (keywordAt_ne_none run.stands)
        · exact more
      rw [List.getLast?_concat, List.append_assoc, List.singleton_append] at next
      cases there : findKeyword .ascii (some c) rest with
      | some word =>
        rw [there] at next
        obtain ⟨before, after, run, least⟩ := next
        exact ⟨before, after, run, fun _ _ _ run' behind => least _ _ _ run' (later run' behind)⟩
      | none =>
        rw [there] at next
        exact fun before word after run behind => next before word after run (later run behind)

theorem findKeyword_some {cs word : List Char} (found : findKeyword .ascii none cs = some word) :
    Breaks cs (.keyword (String.ofList word)) := by
  have search := findKeyword_leftmost [] cs
  rw [List.getLast?_nil, found] at search
  obtain ⟨before, after, run, least⟩ := search
  exact ⟨before, word, after, rfl, run, fun _ _ _ run' => least _ _ _ run' (Nat.zero_le _)⟩

theorem findKeyword_none {cs : List Char} (missed : findKeyword .ascii none cs = none)
    (before word after : List Char) : ¬ KeywordRun cs before word after := by
  have search := findKeyword_leftmost [] cs
  rw [List.getLast?_nil, missed] at search
  exact fun run => search before word after run (Nat.zero_le _)

structure Letters.AgreesOnAscii (l : Letters) : Prop where
  isWord : ∀ c : Char, c.toNat < 128 → l.isWord c = Letters.ascii.isWord c
  isCaseOf : ∀ k c : Char, k.isLower → c.toNat < 128 → l.isCaseOf k c = Letters.ascii.isCaseOf k c

section

variable {l : Letters} (agrees : l.AgreesOnAscii)
include agrees

theorem isBoundary_agrees {a b : Option Char} (asciiA : ∀ c ∈ a, c.toNat < 128)
    (asciiB : ∀ c ∈ b, c.toNat < 128) : l.isBoundary a b = Letters.ascii.isBoundary a b := by
  have same {o : Option Char} (ascii : ∀ c ∈ o, c.toNat < 128) :
      o.any l.isWord = o.any Letters.ascii.isWord := by
    cases o with
    | none => rfl
    | some c => exact agrees.isWord c (ascii c rfl)
  rw [Letters.isBoundary, same asciiA, same asciiB, Letters.isBoundary]

theorem spelled_agrees {k cs : List Char} (lower : ∀ c ∈ k, c.isLower) (ascii : ∀ c ∈ cs, c.toNat < 128) :
    l.spelled k cs = Letters.ascii.spelled k cs := by
  induction k generalizing cs with
  | nil => rfl
  | cons letter word ih =>
    cases cs with
    | nil => rfl
    | cons c cs =>
      rw [Letters.spelled, Letters.spelled,
        agrees.isCaseOf letter c (lower letter List.mem_cons_self) (ascii c List.mem_cons_self),
        ih (fun a member => lower a (List.mem_cons_of_mem _ member))
          fun a member => ascii a (List.mem_cons_of_mem _ member)]

theorem keywordAt_agrees {before : Option Char} {cs : List Char} (asciiB : ∀ c ∈ before, c.toNat < 128)
    (ascii : ∀ c ∈ cs, c.toNat < 128) : keywordAt l before cs = keywordAt .ascii before cs := by
  unfold keywordAt
  rw [← List.head?_filterMap, ← List.head?_filterMap]
  refine congrArg List.head? (List.filterMap_congr ?_)
  intro k member
  rw [spelled_agrees agrees (keywords_letters member).2 ascii]
  cases spelled : Letters.ascii.spelled k.toList cs with
  | none => rfl
  | some parts =>
    obtain ⟨text, -⟩ := (spelled_ascii_iff _ _ _ _).1 spelled
    have inside : ∀ c ∈ parts.1, c.toNat < 128 := fun c inside =>
      ascii c (text ▸ List.mem_append_left _ inside)
    have behind : ∀ c ∈ parts.2, c.toNat < 128 := fun c behind =>
      ascii c (text ▸ List.mem_append_right _ behind)
    simp only [isBoundary_agrees agrees asciiB fun c head => ascii c (List.mem_of_head? head),
      isBoundary_agrees agrees (fun c last => inside c (List.mem_of_getLast? last))
        fun c head => behind c (List.mem_of_head? head)]

theorem findKeyword_agrees {before : Option Char} {cs : List Char} (asciiB : ∀ c ∈ before, c.toNat < 128)
    (ascii : ∀ c ∈ cs, c.toNat < 128) : findKeyword l before cs = findKeyword .ascii before cs := by
  induction cs generalizing before with
  | nil => rfl
  | cons c rest ih =>
    have first : ∀ a ∈ some c, a.toNat < 128 := by
      rintro a ⟨⟩
      exact ascii c List.mem_cons_self
    rw [findKeyword, findKeyword, keywordAt_agrees agrees asciiB ascii,
      ih first fun a member => ascii a (List.mem_cons_of_mem _ member)]

-- The rule on characters comes first, so the tables are asked for ASCII only.
theorem checkBy_agrees (cs : List Char) : checkBy l cs = checkBy .ascii cs := by
  unfold checkBy
  cases foreign : cs.find? fun c => !isAllowed c with
  | some c => rfl
  | none =>
    have ascii : ∀ c ∈ cs, c.toNat < 128 := by
      intro c member
      have allowed := List.find?_eq_none.1 foreign c member
      exact alphabet_ascii ((isAllowed_iff c).1 (by simpa using allowed))
    rw [findKeyword_agrees agrees (by simp) ascii]

end

theorem mem_any_iff {cs marks : List Char} {p : Char → Bool} (listed : ∀ c, p c ↔ c ∈ marks) :
    cs.any p ↔ ∃ c ∈ cs, c ∈ marks := by
  simp [List.any_eq_true, listed]

theorem isCommentMark_iff (a b : Char) (rest : List Char) :
    isCommentMark a b ↔ ['/', '*'] <+: a :: b :: rest ∨ ['*', '/'] <+: a :: b :: rest ∨
      ['/', '/'] <+: a :: b :: rest := by
  simp only [isCommentMark, List.cons_prefix_cons, List.nil_prefix, and_true, Bool.or_eq_true,
    Bool.and_eq_true, beq_iff_eq, and_or_left, eq_comm (a := '/'), eq_comm (a := '*')]
  rw [or_assoc, or_comm (a := a = '/' ∧ b = '/')]

theorem hasComment_iff (cs : List Char) :
    hasComment cs ↔ ['/', '*'] <:+: cs ∨ ['*', '/'] <:+: cs ∨ ['/', '/'] <:+: cs := by
  induction cs with
  | nil => simp [hasComment]
  | cons a rest ih =>
    cases rest with
    | nil => simp [hasComment, List.infix_cons_iff]
    | cons b rest =>
      rw [hasComment, Bool.or_eq_true, ih, isCommentMark_iff a b rest]
      rw [List.infix_cons_iff (a := a), List.infix_cons_iff (a := a), List.infix_cons_iff (a := a)]
      rw [or_or_or_comm, or_or_or_comm (a := ['*', '/'] <+: _)]

theorem rank_lt (r : Rejection) : rank r < 8 := by
  cases r <;> simp [rank]

def Clear (cs : List Char) (n : Nat) : Prop :=
  ∀ r, rank r < n → ¬ Breaks cs r

theorem Clear.next {cs : List Char} {n : Nat} (clear : Clear cs n)
    (kept : ∀ r, rank r = n → ¬ Breaks cs r) : Clear cs (n + 1) := by
  intro r low
  rcases Nat.lt_succ_iff_lt_or_eq.1 low with lower | same
  · exact clear r lower
  · exact kept r same

theorem isContainer_iff (c : Char) : isContainer c ↔ c ∈ ['\x7b', '\x7d', '[', ']'] := by
  simp [isContainer, or_assoc]

theorem isQuote_iff (c : Char) : isQuote c ↔ c ∈ ['"', '\'', '\x60'] := by
  simp [isQuote, or_assoc]

theorem isSeparator_iff (c : Char) : isSeparator c ↔ c ∈ [';', '\\', '\n', '\r'] := by
  simp [isSeparator, or_assoc]

theorem breaks_character_iff (cs : List Char) (c : Char) :
    Breaks cs (.character c) ↔ cs.find? (fun c => !isAllowed c) = some c := by
  rw [List.find?_eq_some_iff_append]
  simp only [Breaks, ← isAllowed_iff, Bool.not_eq_true', Bool.not_eq_true, Bool.not_not]
  constructor
  · rintro ⟨before, after, text, refused, allowed⟩
    exact ⟨refused, before, after, text, allowed⟩
  · rintro ⟨refused, before, after, text, allowed⟩
    exact ⟨before, after, text, refused, allowed⟩

def Verdict (cs : List Char) : Except Rejection Unit → Prop
  | .ok () => Clear cs 8
  | .error r => Breaks cs r ∧ Clear cs (rank r)

theorem Clear.checked {cs : List Char} {r : Rejection} {p : Prop} [Decidable p] {later : Except Rejection Unit}
    (clear : Clear cs (rank r)) (broken : p ↔ Breaks cs r) (alone : ∀ r', rank r' = rank r → Breaks cs r' → r' = r)
    (rest : Clear cs (rank r + 1) → Verdict cs later) : Verdict cs (if p then .error r else later) := by
  by_cases found : p
  · rw [if_pos found]
    exact ⟨broken.mp found, clear⟩
  · rw [if_neg found]
    refine rest (clear.next fun r' same breaks => found (broken.mpr ?_))
    rwa [← alone r' same breaks]

theorem Rejection.eq_of_rank {r r' : Rejection} (bare : r ∈ [.empty, .container, .quote, .separator, .comment])
    (same : rank r' = rank r) : r' = r := by
  simp only [List.mem_cons, List.not_mem_nil, or_false] at bare
  rcases bare with rfl | rfl | rfl | rfl | rfl <;> cases r' <;> cases same <;> rfl

theorem checkBy_verdict (cs : List Char) : Verdict cs (checkBy .ascii cs) := by
  have alone {r : Rejection} (bare : r ∈ [.empty, .container, .quote, .separator, .comment]) (r' : Rejection)
      (same : rank r' = rank r) (_ : Breaks cs r') : r' = r := Rejection.eq_of_rank bare same
  have length (r' : Rejection) (same : rank r' = 1) (breaks : Breaks cs r') :
      r' = .tooLong (String.ofList cs).utf8ByteSize maxBytes := by
    cases r' <;> cases same
    rw [breaks.1, breaks.2.1]
  have unchecked : Clear cs 0 := fun r low => absurd low (Nat.not_lt_zero _)
  unfold checkBy
  refine unchecked.checked (r := .empty) List.isEmpty_iff (alone (by simp)) fun filled => ?_
  refine filled.checked (r := .tooLong _ _) ⟨fun long => ⟨rfl, rfl, long⟩, fun broken => broken.2.2⟩ length fun short => ?_
  refine short.checked (r := .container) (mem_any_iff isContainer_iff) (alone (by simp)) fun flat => ?_
  refine flat.checked (r := .quote) (mem_any_iff isQuote_iff) (alone (by simp)) fun unquoted => ?_
  refine unquoted.checked (r := .separator) (mem_any_iff isSeparator_iff) (alone (by simp)) fun single => ?_
  refine single.checked (r := .comment) (hasComment_iff cs) (alone (by simp)) fun uncommented => ?_
  cases foreign : cs.find? fun c => !isAllowed c with
  | some c => exact ⟨(breaks_character_iff cs c).2 foreign, uncommented⟩
  | none =>
    have allowed : ∀ c ∈ cs, c ∈ alphabet := fun c member =>
      (isAllowed_iff c).1 (by simpa using List.find?_eq_none.1 foreign c member)
    have written : Clear cs 7 := uncommented.next fun r same broken => by
      cases r <;> cases same
      obtain ⟨before, after, text, refused, -⟩ := broken
      exact refused (allowed _ (text ▸ List.mem_append_right _ List.mem_cons_self))
    cases keyword : findKeyword .ascii none cs with
    | some word => exact ⟨findKeyword_some keyword, written⟩
    | none =>
      exact written.next fun r same broken => by
        cases r <;> cases same
        obtain ⟨before, word, after, -, run, -⟩ := broken
        exact findKeyword_none keyword before word after run

theorem KeywordRun.unique {cs before word after before' word' after' : List Char}
    (first : KeywordRun cs before word after) (second : KeywordRun cs before' word' after')
    (same : before.length = before'.length) : word = word' := by
  have text := first.run.text.symm.trans second.run.text
  obtain ⟨rfl, tails⟩ := List.append_inj text same
  exact (word_unique tails first.run.inside second.run.inside first.run.ends second.run.ends).1

theorem Breaks.unique {cs : List Char} {r r' : Rejection} (first : Breaks cs r) (second : Breaks cs r')
    (same : rank r = rank r') : r = r' := by
  cases r <;> cases r' <;> cases same
  case tooLong.tooLong.refl =>
    rw [first.1, first.2.1, second.1, second.2.1]
  case character.character.refl c c' =>
    have found := (breaks_character_iff cs c).1 first
    rw [(breaks_character_iff cs c').1 second] at found
    rw [Option.some.inj found]
  case keyword.keyword.refl w w' =>
    obtain ⟨before, word, after, rfl, run, least⟩ := first
    obtain ⟨before', word', after', rfl, run', least'⟩ := second
    rw [run.unique run' (Nat.le_antisymm (least _ _ _ run') (least' _ _ _ run))]
  all_goals rfl

theorem checkBy_eq_error_iff (cs : List Char) (r : Rejection) :
    checkBy .ascii cs = .error r ↔ Breaks cs r ∧ ∀ r', rank r' < rank r → ¬ Breaks cs r' := by
  have verdict := checkBy_verdict cs
  constructor
  · intro refused
    rw [refused] at verdict
    exact verdict
  · rintro ⟨broken, clear⟩
    cases checked : checkBy .ascii cs with
    | ok _ =>
      rw [checked] at verdict
      exact absurd broken (verdict r (rank_lt r))
    | error r' =>
      rw [checked] at verdict
      rcases Nat.lt_trichotomy (rank r) (rank r') with lower | same | higher
      · exact absurd broken (verdict.2 r lower)
      · rw [broken.unique verdict.1 same]
      · exact absurd verdict.1 (clear r' higher)

theorem Permitted.flat {cs marks : List Char} (permitted : Permitted cs)
    (foreign : marks.all (fun c => !alphabet.contains c) = true) : ¬ ∃ c ∈ cs, c ∈ marks := by
  rintro ⟨c, member, listed⟩
  have outside := List.all_eq_true.mp foreign c listed
  rw [List.contains_iff_mem.mpr (permitted.letters c member)] at outside
  cases outside

theorem Permitted.clear {cs : List Char} (permitted : Permitted cs) (r : Rejection) : ¬ Breaks cs r := by
  cases r with
  | empty => exact permitted.filled
  | tooLong length limit => exact fun broken => Nat.not_lt.2 permitted.short (broken.1 ▸ broken.2.2)
  | container => exact permitted.flat (by rw [alphabet_eq]; decide)
  | quote => exact permitted.flat (by rw [alphabet_eq]; decide)
  | separator => exact permitted.flat (by rw [alphabet_eq]; decide)
  | comment => exact permitted.uncommented
  | character c =>
    rintro ⟨before, after, text, refused, -⟩
    exact refused (permitted.letters c (text ▸ List.mem_append_right _ List.mem_cons_self))
  | keyword w =>
    rintro ⟨before, word, after, -, run, -⟩
    exact permitted.keywordless before word after run

theorem permitted_of_clear {cs : List Char} (clear : ∀ r, ¬ Breaks cs r) : Permitted cs where
  filled empty := clear .empty empty
  short := Nat.not_lt.1 fun long => clear (.tooLong _ _) ⟨rfl, rfl, long⟩
  letters := by
    intro c member
    rw [← isAllowed_iff]
    cases foreign : cs.find? fun c => !isAllowed c with
    | none => simpa using List.find?_eq_none.1 foreign c member
    | some c' => exact absurd ((breaks_character_iff cs c').2 foreign) (clear _)
  uncommented commented := clear .comment commented
  keywordless := by
    cases found : findKeyword .ascii none cs with
    | none => exact findKeyword_none found
    | some word => exact absurd (findKeyword_some found) (clear _)

theorem checkBy_eq_ok_iff (cs : List Char) : checkBy .ascii cs = .ok () ↔ Permitted cs := by
  have verdict := checkBy_verdict cs
  constructor
  · intro passed
    rw [passed] at verdict
    exact permitted_of_clear fun r => verdict r (rank_lt r)
  · intro permitted
    cases checked : checkBy .ascii cs with
    | ok _ => rfl
    | error r =>
      rw [checked] at verdict
      exact absurd verdict.1 (permitted.clear r)

def isIdentifierChar (c : Char) : Bool :=
  Letters.ascii.isWord c || c == '$'

theorem any_isWord_of_any_isIdentifierChar {o : Option Char} (outside : o.any isIdentifierChar = false) :
    o.any Letters.ascii.isWord = false := by
  cases o with
  | none => rfl
  | some c => exact (Bool.or_eq_false_iff.1 outside).1

theorem isIdentifierChar_ascii {c : Char} (inside : isIdentifierChar c) : c.toNat < 128 := by
  simp only [isIdentifierChar, Letters.ascii, Bool.or_eq_true, beq_iff_eq] at inside
  rcases inside with (alphanum | rfl) | rfl
  · exact isAlphanum_ascii alphanum
  · decide
  · decide

theorem isIdentifierChar_of_isNameStart {c : Char} (start : isNameStart c) : isIdentifierChar c := by
  simp only [isNameStart, isIdentifierChar, Letters.ascii, Char.isAlphanum, Bool.or_eq_true] at start ⊢
  tauto

theorem isIdentifier_iff (name : String) : isIdentifier name ↔
    ∃ c rest, name.toList = c :: rest ∧ isNameStart c ∧ ∀ d ∈ c :: rest, isIdentifierChar d := by
  rw [isIdentifier]
  cases name.toList with
  | nil => simp
  | cons c rest =>
    rw [Bool.and_eq_true, List.all_eq_true]
    constructor
    · rintro ⟨start, each⟩
      exact ⟨c, rest, rfl, start, List.forall_mem_cons.mpr ⟨isIdentifierChar_of_isNameStart start, each⟩⟩
    · rintro ⟨_, _, same, start, each⟩
      cases same
      exact ⟨start, (List.forall_mem_cons.mp each).2⟩

-- The sign `$` joins no letters to a keyword, so a whole identifier that is one is a whole word too.
theorem Permitted.identifier {cs before word after : List Char} (permitted : Permitted cs)
    (run : IsRun isIdentifierChar cs before word after) : ¬ IsKeyword word := by
  intro keyword
  apply permitted.keywordless before word after
  exact ⟨⟨run.text, run.filled, keyword.inside, any_isWord_of_any_isIdentifierChar run.starts,
    any_isWord_of_any_isIdentifierChar run.ends⟩, keyword⟩

theorem validate_eq_ok_iff (s t : String) :
    validate s = .ok t ↔ t = Text.trim s ∧ Permitted (Text.trim s).toList := by
  rw [Text.trim, String.toList_ofList, ← checkBy_eq_ok_iff, validate, validateBy]
  cases checkBy .ascii (Text.trimList s.toList) with
  | ok _ => simp [eq_comm]
  | error r => simp

theorem validate_eq_error_iff (s : String) (r : Rejection) :
    validate s = .error r ↔ Breaks (Text.trim s).toList r ∧
      ∀ r', rank r' < rank r → ¬ Breaks (Text.trim s).toList r' := by
  rw [Text.trim, String.toList_ofList, ← checkBy_eq_error_iff, validate, validateBy]
  cases checkBy .ascii (Text.trimList s.toList) <;> simp

/-- An expression passes exactly when it keeps all rules, else the first broken rule is told, whatever the
tables of the search for words say outside ASCII; and no identifier in what passes is a keyword. -/
theorem validate_decides (l : Letters) (agrees : l.AgreesOnAscii) (s : String) :
    validateBy l s = validate s ∧
      (∀ t, validate s = .ok t ↔ t = Text.trim s ∧ Permitted (Text.trim s).toList) ∧
      (∀ r, validate s = .error r ↔ Breaks (Text.trim s).toList r ∧
        ∀ r', rank r' < rank r → ¬ Breaks (Text.trim s).toList r') ∧
      ∀ t, validate s = .ok t → ∀ before word after,
        IsRun isIdentifierChar t.toList before word after → ¬ IsKeyword word := by
  refine ⟨?_, validate_eq_ok_iff s, validate_eq_error_iff s, ?_⟩
  · rw [validate, validateBy, validateBy, checkBy_agrees agrees]
  · intro t passed before word after run
    obtain ⟨rfl, permitted⟩ := (validate_eq_ok_iff s t).1 passed
    exact permitted.identifier run

-- The tables of a search that takes the long s and the sign of the kelvin for cases of s and k.
def Letters.folded : Letters where
  isWord c := Letters.ascii.isWord c || c == 'ſ' || c == '\u212a'
  isCaseOf k c := Letters.ascii.isCaseOf k c || (k == 's' && c == 'ſ') || (k == 'k' && c == '\u212a')

theorem beq_foreign {c d : Char} (ascii : c.toNat < 128) (foreign : 128 ≤ d.toNat) :
    (c == d) = false := by
  rw [beq_eq_false_iff_ne]
  rintro rfl
  exact Nat.not_lt.2 foreign ascii

theorem folded_agrees : Letters.folded.AgreesOnAscii where
  isWord c ascii := by
    have long : (c == 'ſ') = false := beq_foreign ascii (by decide)
    have kelvin : (c == '\u212a') = false := beq_foreign ascii (by decide)
    simp only [Letters.folded, long, kelvin, Bool.or_false]
  isCaseOf k c _ ascii := by
    have long : (c == 'ſ') = false := beq_foreign ascii (by decide)
    have kelvin : (c == '\u212a') = false := beq_foreign ascii (by decide)
    simp only [Letters.folded, long, kelvin, Bool.and_false, Bool.or_false]

theorem validate_decides_folded :
    Letters.folded.AgreesOnAscii ∧
      validateBy .folded " x => $new - RETURN " = .error (.keyword "new") ∧
      Breaks "x => $new - RETURN".toList (.keyword "new") := by
  have decided := validate_decides .folded folded_agrees " x => $new - RETURN "
  have refused : validate " x => $new - RETURN " = .error (.keyword "new") := by decide +kernel
  have trimmed : Text.trim " x => $new - RETURN " = "x => $new - RETURN" := by decide +kernel
  refine ⟨folded_agrees, decided.1.trans refused, ?_⟩
  rw [← trimmed]
  exact ((decided.2.2.1 _).1 refused).1

end BoundedScript.Expression
