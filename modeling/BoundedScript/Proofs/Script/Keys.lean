import BoundedScript.Proofs.Script.Strings

set_option autoImplicit false

namespace BoundedScript.Script

namespace Units

def addDigit (n : Nat) (d : UInt16) : Nat :=
  n * 10 + (d.toNat - 0x30)

theorem digit_bounds {d : UInt16} (digit : isDigit d) : 0x30 ≤ d.toNat ∧ d.toNat ≤ 0x39 := by
  simpa [isDigit, UInt16.le_iff_toNat_le] using digit

theorem ofChar_digitChar : ∀ k : Fin 10, ofChar (Nat.digitChar k.val) = [(0x30 + k.val).toUInt16] := by
  decide

theorem unitsOf_digit {d : UInt16} (digit : isDigit d) : unitsOf (Nat.toDigits 10 (d.toNat - 0x30)) = [d] := by
  have bounds := digit_bounds digit
  have written := ofChar_digitChar ⟨d.toNat - 0x30, by omega⟩
  have back : 0x30 + (d.toNat - 0x30) = d.toNat := by omega
  rw [back] at written
  rw [Nat.toDigits_of_lt_base (by omega), unitsOf_cons, written]
  exact congrArg (fun d => [d]) UInt16.ofNat_toNat

theorem unitsOf_addDigit {n : Nat} {d : UInt16} (positive : 0 < n) (digit : isDigit d) :
    unitsOf (Nat.toDigits 10 (addDigit n d)) = unitsOf (Nat.toDigits 10 n) ++ [d] := by
  have bounds := digit_bounds digit
  have behind := Nat.toDigits_append_toDigits (b := 10) (n := n) (d := d.toNat - 0x30) (by decide) positive (by omega)
  have same : 10 * n + (d.toNat - 0x30) = addDigit n d := by rw [addDigit, Nat.mul_comm]
  rw [← same, ← behind, unitsOf_append, unitsOf_digit digit]

theorem unitsOf_addDigits {n : Nat} {ds : List UInt16} (positive : 0 < n) (digits : ∀ d ∈ ds, isDigit d) :
    unitsOf (Nat.toDigits 10 (ds.foldl addDigit n)) = unitsOf (Nat.toDigits 10 n) ++ ds := by
  induction ds generalizing n with
  | nil => exact (List.append_nil _).symm
  | cons d ds ih =>
    have digit := digits d List.mem_cons_self
    have longer : 0 < addDigit n d := by
      rw [addDigit]
      omega
    rw [List.foldl_cons, ih longer fun e there => digits e (List.mem_cons_of_mem _ there),
      unitsOf_addDigit positive digit, List.append_assoc]
    rfl

-- Digits that do not start with a needless zero are how their number is written.
theorem unitsOf_digits {d : UInt16} {ds : List UInt16} (digits : ∀ e ∈ d :: ds, isDigit e)
    (leading : d = 0x30 → ds = []) : unitsOf (Nat.toDigits 10 ((d :: ds).foldl addDigit 0)) = d :: ds := by
  have digit := digits d List.mem_cons_self
  have bounds := digit_bounds digit
  have first : addDigit 0 d = d.toNat - 0x30 := Nat.zero_add _
  rw [List.foldl_cons, first]
  by_cases zero : d = 0x30
  · rw [leading zero]
    exact unitsOf_digit digit
  · have apart : d.toNat ≠ 0x30 := fun same => zero (UInt16.toNat_inj.mp same)
    rw [unitsOf_addDigits (by omega) fun e there => digits e (List.mem_cons_of_mem _ there), unitsOf_digit digit]
    rfl

end Units

namespace PropKey

open BoundedScript.Script.Units

theorem ofString_indexOf? {u : Units} {n : Nat} (found : indexOf? u = some n) :
    Units.ofString (toString n) = u := by
  rw [indexOf?] at found
  split at found
  · cases found
  next digits =>
    split at found
    · cases found
    next leading =>
      simp only [Option.ite_none_right_eq_some, Option.some.injEq] at found
      obtain ⟨-, rfl⟩ := found
      obtain ⟨ds⟩ := u
      cases ds with
      | nil => simp at digits
      | cons d ds =>
        have all : ∀ e ∈ d :: ds, Units.isDigit e := by
          have each : (d :: ds).toArray.all Units.isDigit = true := by
            simp only [Bool.or_eq_true, Bool.not_eq_true', not_or, Bool.not_eq_false] at digits
            exact digits.2
          simpa using each
        have single : d = 0x30 → ds = [] := by
          rintro rfl
          simpa using leading
        have written := Units.unitsOf_digits all single
        have value : Array.foldl (fun n d => n * 10 + (d.toNat - 0x30)) 0 (d :: ds).toArray =
            (d :: ds).foldl Units.addDigit 0 := List.foldl_toArray _ _ _
        rw [value, ← Array.toList_inj, Units.ofString_toList]
        exact (congrArg Units.unitsOf Nat.toList_repr).trans written

theorem toValue_ofUnits (u : Units) : (ofUnits u).toValue = .string u := by
  rw [ofUnits]
  cases found : indexOf? u with
  | none => rfl
  | some n => exact congrArg Value.string (ofString_indexOf? found)

theorem ofUnits_inj {u w : Units} (same : ofUnits u = ofUnits w) : u = w := by
  have told := congrArg toValue same
  rw [toValue_ofUnits, toValue_ofUnits] at told
  exact Value.string.inj told

theorem ofString_inj {s t : String} (same : ofString s = ofString t) : s = t :=
  Units.ofString_inj (ofUnits_inj same)

theorem ofUnits_ne_symbol (u : Units) (id : Nat) : ofUnits u ≠ .symbol id := by
  rw [ofUnits]
  split <;> exact nofun

end PropKey
end BoundedScript.Script
