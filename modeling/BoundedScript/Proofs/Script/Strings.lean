import Mathlib.Tactic.Common
import BoundedScript.Json.Writer
import BoundedScript.Script.Builtin.Json

set_option autoImplicit false

namespace BoundedScript.Script.Units

def unitsOf (cs : List Char) : List UInt16 :=
  cs.flatMap ofChar

section

variable {c : Char} {cs ds : List Char}

theorem unitsOf_cons (c : Char) (cs : List Char) : unitsOf (c :: cs) = ofChar c ++ unitsOf cs := rfl

theorem unitsOf_append (cs ds : List Char) : unitsOf (cs ++ ds) = unitsOf cs ++ unitsOf ds :=
  List.flatMap_append

theorem pushChar_toList (u : Units) (c : Char) : (pushChar u c).toList = u.toList ++ ofChar c := by
  rw [pushChar, ofChar]
  split <;> simp

theorem foldl_pushChar_toList (cs : List Char) (u : Units) :
    (cs.foldl pushChar u).toList = u.toList ++ unitsOf cs := by
  induction cs generalizing u with
  | nil => simp [unitsOf]
  | cons c cs ih => rw [List.foldl_cons, ih, pushChar_toList, unitsOf_cons, List.append_assoc]

theorem ofString_toList (s : String) : (ofString s).toList = unitsOf s.toList := by
  rw [ofString, ofChars, foldl_pushChar_toList]
  rfl

theorem ofString_ofList (cs : List Char) : ofString (String.ofList cs) = (unitsOf cs).toArray := by
  rw [← Array.toList_inj, ofString_toList, String.toList_ofList]

theorem ofChar_length (c : Char) : 0 < (ofChar c).length ∧ (ofChar c).length ≤ 2 := by
  rw [ofChar]
  split <;> simp

theorem toNat_toUInt16 {n : Nat} (small : n < 0x10000) : n.toUInt16.toNat = n :=
  UInt16.toNat_ofNat_of_lt' small

theorem char_bounds (c : Char) : c.toNat < 0xd800 ∨ (0xdfff < c.toNat ∧ c.toNat < 0x110000) :=
  c.valid

theorem isLone_char (c : Char) : isLone c.toNat = false := by
  have bounds := char_bounds c
  simp only [isLone, Bool.and_eq_false_iff, decide_eq_false_iff_not]
  omega

theorem isHigh_eq (u : UInt16) : isHigh u = decide (0xd800 ≤ u.toNat ∧ u.toNat ≤ 0xdbff) := by
  simp [isHigh, UInt16.le_iff_toNat_le]

theorem isLow_eq (u : UInt16) : isLow u = decide (0xdc00 ≤ u.toNat ∧ u.toNat ≤ 0xdfff) := by
  simp [isLow, UInt16.le_iff_toNat_le]

theorem pair_split {n : Nat} {high low : UInt16} (long : 0x10000 ≤ n) (first : high.toNat = 0xd800 + (n - 0x10000) / 0x400)
    (second : low.toNat = 0xdc00 + (n - 0x10000) % 0x400) : pair high low = n := by
  have parts := Nat.div_add_mod (n - 0x10000) 0x400
  unfold pair
  omega

theorem codeAt_char {u : Units} {i : Nat} {c : Char} {rest : List UInt16}
    (there : u.toList.drop i = ofChar c ++ rest) : u.codeAt i = some (c.toNat, (ofChar c).length) := by
  have bounds := char_bounds c
  have first : u[i]? = (ofChar c ++ rest)[0]? := by
    rw [← there, List.getElem?_drop, Nat.add_zero, Array.getElem?_toList]
  have second : u[i + 1]? = (ofChar c ++ rest)[1]? := by
    rw [← there, List.getElem?_drop, Array.getElem?_toList]
  rw [codeAt, first, second, ofChar]
  by_cases short : c.toNat < 0x10000
  · have one := toNat_toUInt16 short
    have notHigh : isHigh c.toNat.toUInt16 = false := by
      rw [isHigh_eq, one, decide_eq_false_iff_not]
      omega
    simp only [if_pos short, List.cons_append, List.getElem?_cons_zero, notHigh, one, List.length_cons,
      List.length_nil, Bool.false_eq_true, if_false]
  · have front := toNat_toUInt16 (n := 0xd800 + (c.toNat - 0x10000) / 0x400) (by omega)
    have back := toNat_toUInt16 (n := 0xdc00 + (c.toNat - 0x10000) % 0x400) (by omega)
    have joined := pair_split (Nat.le_of_not_lt short) front back
    have high : isHigh (0xd800 + (c.toNat - 0x10000) / 0x400).toUInt16 = true := by
      rw [isHigh_eq, front, decide_eq_true_eq]
      omega
    have low : isLow (0xdc00 + (c.toNat - 0x10000) % 0x400).toUInt16 = true := by
      rw [isLow_eq, back, decide_eq_true_eq]
      omega
    simp only [if_neg short, List.cons_append, List.getElem?_cons_zero, List.getElem?_cons_succ, high, low, joined,
      if_true, List.length_cons, List.length_nil]

theorem codesFrom_chars {u : Units} {i : Nat} (there : u.toList.drop i = unitsOf cs) (acc : Array Nat)
    {fuel : Nat} (enough : cs.length ≤ fuel) :
    u.codesFrom i acc fuel = acc ++ (cs.map Char.toNat).toArray := by
  induction cs generalizing i acc fuel with
  | nil =>
    have none : u.codeAt i = none := by
      have past : u[i]? = none := by
        rw [← Array.getElem?_toList, ← Nat.add_zero i, ← List.getElem?_drop, there]
        rfl
      rw [codeAt, past]
    cases fuel with
    | zero => simp [codesFrom]
    | succ fuel => simp [codesFrom, none]
  | cons c cs ih =>
    rcases fuel with - | fuel
    · cases enough
    have here : u.toList.drop i = ofChar c ++ unitsOf cs := there
    have behind : u.toList.drop (i + (ofChar c).length) = unitsOf cs := by
      rw [← List.drop_drop, here, List.drop_left]
    rw [codesFrom, codeAt_char here]
    simp only
    rw [ih behind _ (Nat.le_of_succ_le_succ enough)]
    simp

theorem length_unitsOf (cs : List Char) : cs.length ≤ (unitsOf cs).length ∧ (unitsOf cs).length ≤ 2 * cs.length := by
  induction cs with
  | nil => exact ⟨Nat.le_refl _, Nat.le_refl _⟩
  | cons c cs ih =>
    have one := ofChar_length c
    rw [unitsOf_cons, List.length_append, List.length_cons]
    omega

theorem codes_ofString (s : String) : (ofString s).codes = (s.toList.map Char.toNat).toArray := by
  have whole : (ofString s).toList.drop 0 = unitsOf s.toList := ofString_toList s
  have enough : s.toList.length ≤ (ofString s).size := by
    rw [← Array.length_toList, ofString_toList]
    exact (length_unitsOf _).1
  rw [codes, codesFrom_chars whole _ enough, Array.empty_append]

theorem toText_go (cs : List Char) (at_ : Nat) (acc : String) :
    toText.go at_ acc (cs.map Char.toNat) = .ok (acc ++ String.ofList cs) := by
  induction cs generalizing at_ acc with
  | nil => simp [toText.go]
  | cons c cs ih =>
    rw [List.map_cons, toText.go, isLone_char, if_neg (by decide), ih, Char.ofNat_toNat, String.push_eq_append]
    rw [String.append_assoc, ← String.ofList_cons]

theorem toText_ofString (s : String) : (ofString s).toText = .ok s := by
  rw [toText, codes_ofString, toText_go]
  simp

theorem ofString_inj {s t : String} (same : ofString s = ofString t) : s = t := by
  have back := congrArg toText same
  rw [toText_ofString, toText_ofString] at back
  exact Except.ok.inj back

end

end BoundedScript.Script.Units

namespace BoundedScript.Script.JsonObject

open BoundedScript.Script.Units

theorem ofCode_char (c : Char) : ofCode c.toNat = (ofChar c).toArray := by
  rw [ofCode, ofChar]
  split <;> rfl

theorem quotedCode_eq (out : Units) (n : Nat) : quotedCode out n = out ++ quotedCode #[] n := by
  simp only [quotedCode, Array.empty_append]
  repeat' split
  all_goals rfl

theorem quotedCode_control : ∀ n : Fin 0x20,
    quotedCode #[] n.val = (unitsOf (Json.escapeChar (Char.ofNat n.val))).toArray := by
  decide

theorem escapeChar_visible {c : Char} (visible : 0x20 ≤ c.toNat) (mark : c ≠ '"') (escape : c ≠ '\\') :
    Json.escapeChar c = [c] := by
  have other : ∀ d : Char, d.toNat < 0x20 → (c == d) = false := by
    rintro d control
    rw [beq_eq_false_iff_ne]
    rintro rfl
    omega
  have plain : ¬ c.val < 0x20 := by
    rw [UInt32.not_lt]
    exact visible
  rw [Json.escapeChar, beq_false_of_ne mark, beq_false_of_ne escape, other '\n' (by decide), other '\r' (by decide),
    other '\t' (by decide), other '\x08' (by decide), other '\x0c' (by decide), if_neg plain]
  rfl

theorem quotedCode_visible {c : Char} (visible : 0x20 ≤ c.toNat) (mark : c ≠ '"') (escape : c ≠ '\\') :
    quotedCode #[] c.toNat = (ofChar c).toArray := by
  have mark : c.toNat ≠ 0x22 := fun same => mark (Char.toNat_inj.mp same)
  have escape : c.toNat ≠ 0x5c := fun same => escape (Char.toNat_inj.mp same)
  have other : ∀ n : Nat, n < 0x20 → (c.toNat == n) = false := by
    intro n control
    rw [beq_eq_false_iff_ne]
    omega
  rw [quotedCode, beq_false_of_ne mark, beq_false_of_ne escape, other 8 (by decide), other 12 (by decide),
    other 10 (by decide), other 13 (by decide), other 9 (by decide), isLone_char, Bool.or_false,
    decide_eq_false (Nat.not_lt.mpr visible), ofCode_char]
  exact Array.empty_append

-- The two writers escape alike.
theorem quotedCode_char (c : Char) : quotedCode #[] c.toNat = (unitsOf (Json.escapeChar c)).toArray := by
  by_cases control : c.toNat < 0x20
  · have both := quotedCode_control ⟨c.toNat, control⟩
    rwa [Char.ofNat_toNat] at both
  by_cases mark : c = '"'
  · subst mark
    decide
  by_cases escape : c = '\\'
  · subst escape
    decide
  have visible := Nat.le_of_not_lt control
  rw [quotedCode_visible visible mark escape, escapeChar_visible visible mark escape, unitsOf_cons]
  exact congrArg List.toArray (List.append_nil _).symm

theorem foldl_quotedCode (out : Units) (cs : List Char) :
    (cs.map Char.toNat).foldl quotedCode out = out ++ (unitsOf (cs.flatMap Json.escapeChar)).toArray := by
  induction cs generalizing out with
  | nil => exact Array.append_empty.symm
  | cons c cs ih =>
    rw [List.map_cons, List.foldl_cons, ih, quotedCode_eq, quotedCode_char, List.flatMap_cons, unitsOf_append,
      Array.append_assoc, ← Array.toList_inj]
    simp

theorem quoted_ofString (out : Units) (s : String) :
    quoted out (ofString s) = out ++ ofString (String.ofList (Json.stringText s)) := by
  have marks : unitsOf (Json.stringText s) =
      0x22 :: unitsOf (s.toList.flatMap Json.escapeChar) ++ [0x22] := by
    rw [Json.stringText, List.cons_append, unitsOf_cons, unitsOf_append]
    rfl
  rw [quoted, codes_ofString, ← Array.foldl_toList, foldl_quotedCode, ofString_ofList, marks, ← Array.toList_inj]
  simp

end BoundedScript.Script.JsonObject
