import BoundedScript.Proofs.Decimal.Floats
import BoundedScript.Proofs.Json.Regular

set_option autoImplicit false

namespace BoundedScript.Json

open Text (Bytes)

namespace Reading

variable {α : Type} {P : Number → Prop}

theorem log2_powers : ∀ k < 308, (Nat.pow 10 k).log2 ≤ 1022 := by
  decide +kernel

-- The greatest power of ten that is used is near the end of the doubles, and is tried.
theorem isWide_ten {k : Nat} (within : k ≤ 308) : Double.isWide (ten k) := by
  rcases Nat.lt_or_eq_of_le within with less | rfl
  · exact Double.isWide_ofWhole (Nat.pow_pos (by decide)) (log2_powers k less)
  · decide +kernel

/-- Scaling ends with a finite double: a product is checked for that, and a quotient is small enough by far. -/
theorem scaled_finite {x y : Float} {exponent : Int} {fuel : Nat} {bound : Int}
    (done : scaled x exponent fuel = .ok y) (within : Double.Within bound x) (low : -1074 ≤ bound)
    (high : bound + 53 * (fuel + 1) ≤ 971) : y.isFinite := by
  induction fuel generalizing x exponent bound with
  | zero =>
    cases done
    exact within.isFinite
  | succ fuel ih =>
    rw [scaled] at done
    split at done
    next near =>
      have wide := isWide_ten near
      split at done
      · dsimp only at done
        split at done
        · cases done
        next finite =>
          cases done
          exact Double.isFinite_mul within.isFinite (Double.isFinite_of_wide wide) (eq_false_of_ne_true finite)
      · cases done
        exact (Double.within_div within wide low (by omega)).isFinite
    next far =>
      split at done
      · cases done
        exact within.isFinite
      · split at done
        · cases done
        · exact ih done (Double.within_div within (isWide_ten (by decide)) low (by omega)) (by omega) (by omega)

section Floats

variable (floats : ∀ x : Float, x.isFinite → P (.float x))
include floats

theorem floatOf_yields (negative : Bool) {significand : Nat} (small : significand < 0x1_0000_0000_0000_0000)
    (exponent : Int) : Yields P (floatOf negative significand exponent) := by
  rw [floatOf]
  cases done : scaled (Double.ofWhole significand) exponent 8 with
  | ok x =>
    have finite := scaled_finite done (Double.within_ofWhole small) (by decide) (by decide)
    cases negative with
    | false => exact .pure (floats x finite)
    | true => exact .pure (floats (-x) (Double.isFinite_neg finite))
  | error e => exact .throw e

theorem exponentValue_yields (negative down : Bool) {significand : Nat}
    (small : significand < 0x1_0000_0000_0000_0000) (exponent : Int) :
    Yields P (exponentValue negative down significand exponent) := by
  have zero : (signed negative 0.0).isFinite := by cases negative <;> decide +kernel
  apply Yields.behind
  intro b
  apply Yields.ite
  · exact .bind (P := fun _ => False) (.throw _) fun u never => never.elim
  · apply Yields.behind
    intro bytes
    apply Yields.behind
    intro u
    cases (exponentDigits (digitOf b) bytes).1 with
    | some e => exact floatOf_yields floats _ small _
    | none => exact .ite (.throw _) (.pure (floats _ zero))

theorem exponentPart_yields (negative : Bool) {significand : Nat}
    (small : significand < 0x1_0000_0000_0000_0000) (exponent : Int) :
    Yields P (exponentPart negative significand exponent) := by
  apply Yields.behind
  intro bytes
  apply Yields.behind
  intro bytes'
  apply Yields.ite
  · exact .behind fun u => exponentValue_yields floats _ _ small _
  · exact exponentValue_yields floats _ _ small _

theorem afterDigits_yields (negative : Bool) {significand : Nat}
    (small : significand < 0x1_0000_0000_0000_0000) (exponent : Int) :
    Yields P (afterDigits negative significand exponent) := by
  apply Yields.behind
  intro bytes
  cases bytes.head? with
  | none => exact floatOf_yields floats _ small _
  | some b =>
    exact .ite (.behind fun u => exponentPart_yields floats _ small _) (floatOf_yields floats _ small _)

omit floats in
theorem fractionDigits_lt (bs : Bytes) {significand : Nat} (places : Nat)
    (small : significand < 0x1_0000_0000_0000_0000) :
    (fractionDigits significand places bs).1 < 0x1_0000_0000_0000_0000 := by
  induction bs generalizing significand places with
  | nil => exact small
  | cons b tail ih =>
    rw [fractionDigits]
    split
    · split
      next fits => exact ih _ fits
      next => exact small
    · exact small

theorem fractionPart_yields (negative : Bool) {significand : Nat}
    (small : significand < 0x1_0000_0000_0000_0000) (exponent : Int) :
    Yields P (fractionPart negative significand exponent) := by
  apply Yields.behind
  intro bytes
  cases bytes with
  | nil => exact .throw _
  | cons b tail =>
    apply Yields.ite
    · exact .behind fun bytes => .behind fun u => afterDigits_yields floats _ (fractionDigits_lt _ _ small) _
    · exact .throw _

theorem longWhole_yields (negative : Bool) {significand : Nat}
    (small : significand < 0x1_0000_0000_0000_0000) : Yields P (longWhole negative significand) := by
  apply Yields.behind
  intro bytes
  apply Yields.behind
  intro u
  apply Yields.behind
  intro bytes'
  apply Yields.ite
  · exact .behind fun u => fractionPart_yields floats _ small _
  · exact afterDigits_yields floats _ small _

end Floats

-- Only a number of digits alone is read as a whole number, and only if it has at most 64 bits.
def Number.Regular : Number → Prop
  | .int n => -0x8000_0000_0000_0000 ≤ n ∧ n < 0x1_0000_0000_0000_0000
  | .float x => x.isFinite

theorem wholeNumber_regular (negative : Bool) {n : Nat} (small : n < 0x1_0000_0000_0000_0000) :
    (wholeNumber negative n).Regular := by
  rw [wholeNumber]
  split
  · simp only [Number.Regular]
    omega
  · split
    · exact Double.isFinite_neg (Double.within_ofWhole small).isFinite
    next kept =>
      simp at kept
      simp only [Number.Regular]
      omega

theorem wholeDigits_lt (bs : Bytes) {n : Nat} (small : n < 0x1_0000_0000_0000_0000) :
    (wholeDigits n bs).1 < 0x1_0000_0000_0000_0000 := by
  induction bs generalizing n with
  | nil => exact small
  | cons b tail ih =>
    rw [wholeDigits]
    split
    next goes =>
      simp at goes
      exact ih goes.2
    · exact small

theorem afterWhole_yields (negative : Bool) {n : Nat} (small : n < 0x1_0000_0000_0000_0000) :
    Yields Number.Regular (afterWhole negative n) := by
  have floats : ∀ x : Float, x.isFinite → Number.Regular (.float x) := fun x finite => finite
  apply Yields.behind
  intro bytes
  cases bytes.head? with
  | none => exact .pure (wholeNumber_regular negative small)
  | some b =>
    apply Yields.ite
    · exact .behind fun u => fractionPart_yields floats _ small _
    apply Yields.ite
    · exact .behind fun u => exponentPart_yields floats _ small _
    apply Yields.ite
    · exact longWhole_yields floats _ small
    · exact .pure (wholeNumber_regular negative small)

theorem number_yields (negative : Bool) : Yields Number.Regular (number negative) := by
  apply Yields.behind
  intro b
  apply Yields.ite
  · apply Yields.behind
    intro bytes
    cases bytes.head? with
    | none => exact afterWhole_yields negative (by decide)
    | some c => exact .ite (.throw _) (afterWhole_yields negative (by decide))
  apply Yields.ite
  · apply Yields.behind
    intro bytes
    apply Yields.behind
    intro u
    apply afterWhole_yields
    apply wholeDigits_lt
    have byte := b.toNat_lt
    rw [digitOf]
    omega
  · exact .throw _

theorem signedNumber_yields : Yields Number.Regular signedNumber := by
  apply Yields.behind
  intro bytes
  exact .ite (.behind fun u => number_yields true) (number_yields false)

section Items

variable {R : α → Prop}

theorem itemsFrom_yields {item : Reading α} (each : Yields R item) (first : Bool) {acc : List α}
    (before : ∀ a ∈ acc, R a) (fuel : Nat) :
    Yields (fun items => ∀ a ∈ items, R a) (itemsFrom item first acc fuel) := by
  induction fuel generalizing first acc with
  | zero => exact .throw _
  | succ fuel ih =>
    apply Yields.behind
    intro goes
    apply Yields.ite
    · refine Yields.bind each fun a holds => ?_
      exact ih false (List.forall_mem_cons.mpr ⟨holds, before⟩)
    · exact .pure fun a inside => before a (List.mem_reverse.mp inside)

theorem fieldsFrom_yields {item : Reading α} (each : Yields R item) (first : Bool)
    {acc : List (String × α)} (before : ∀ field ∈ acc, R field.2) (fuel : Nat) :
    Yields (fun fields => ∀ field ∈ fields, R field.2) (fieldsFrom item first acc fuel) := by
  induction fuel generalizing first acc with
  | zero => exact .throw _
  | succ fuel ih =>
    apply Yields.behind
    intro goes
    apply Yields.ite
    · apply Yields.behind
      intro u
      apply Yields.behind
      intro key
      apply Yields.behind
      intro u
      refine Yields.bind each fun a holds => ?_
      exact ih false (List.forall_mem_cons.mpr ⟨holds, before⟩)
    · exact .pure fun field inside => before field (List.mem_reverse.mp inside)

end Items

end Reading

open Reading

theorem valueWith_yields {P : Json → Prop} {container : UInt8 → Reading Json}
    (containers : ∀ b, Yields P (container b)) (null : P .null) (bool : ∀ b, P (.bool b))
    (number : ∀ n : Number, n.Regular → P (ofNumber n)) (string : ∀ s, P (.string s)) :
    Yields P (valueWith container) := by
  apply Yields.behind
  intro b
  cases b with
  | none => exact .throw _
  | some b =>
    apply Yields.ite
    · exact .behind fun u => .behind fun s => .pure (string s)
    apply Yields.ite
    · exact containers b
    apply Yields.ite
    · exact .bind signedNumber_yields fun n regular => .pure (number n regular)
    apply Yields.ite
    · exact .behind fun u => .behind fun u => .pure null
    apply Yields.ite
    · exact .behind fun u => .behind fun u => .pure (bool true)
    apply Yields.ite
    · exact .behind fun u => .behind fun u => .pure (bool false)
    · exact .throw _

structure Readable (levels : Nat) (v : Json) : Prop where
  regular : Regular v
  shallow : v.depth ≤ levels
  finite : ∀ x, HasFloat x v → x.isFinite

section Readable

variable {levels : Nat}

theorem readable_null : Readable levels .null :=
  ⟨.null, Nat.zero_le _, by rintro x ⟨⟩⟩

theorem readable_bool (b : Bool) : Readable levels (.bool b) :=
  ⟨.bool b, Nat.zero_le _, by rintro x ⟨⟩⟩

theorem readable_string (s : String) : Readable levels (.string s) :=
  ⟨.string s, Nat.zero_le _, by rintro x ⟨⟩⟩

theorem readable_ofNumber (n : Number) (regular : n.Regular) : Readable levels (ofNumber n) := by
  cases n with
  | int n => exact ⟨.int regular.1 regular.2, Nat.zero_le _, by rintro x ⟨⟩⟩
  | float x =>
    refine ⟨.float x, Nat.zero_le _, ?_⟩
    rintro y ⟨⟩
    exact regular

theorem readable_array {items : List Json} (each : ∀ v ∈ items, Readable levels v) :
    Readable (levels + 1) (.array items) := by
  refine ⟨.array fun v inside => (each v inside).regular, ?_, ?_⟩
  · exact Nat.succ_le_succ (depthItems_le fun v inside => (each v inside).shallow)
  · intro x has
    cases has with
    | item inside has => exact (each _ inside).finite x has

theorem readable_ofFields {fields : List (String × Json)} (each : ∀ field ∈ fields, Readable levels field.2) :
    Readable (levels + 1) (.ofFields fields) := by
  have kept : ∀ field ∈ sortFields fields, Readable levels field.2 :=
    fun field inside => each field (mem_of_mem_sortFields inside)
  refine ⟨.object (sortFields_ordered fields) fun field inside => (kept field inside).regular, ?_, ?_⟩
  · exact Nat.succ_le_succ (depthFields_le fun field inside => (kept field inside).shallow)
  · intro x has
    cases has with
    | field inside has => exact (kept _ inside).finite x has

theorem value_yields (levels : Nat) : Yields (Readable levels) (value levels) := by
  induction levels with
  | zero =>
    exact valueWith_yields (fun b => .throw _) readable_null readable_bool readable_ofNumber readable_string
  | succ levels ih =>
    refine valueWith_yields (fun b => ?_) readable_null readable_bool readable_ofNumber readable_string
    apply Yields.behind
    intro u
    apply Yields.ite
    · apply Yields.behind
      intro fuel
      refine Yields.bind (itemsFrom_yields ih true (List.forall_mem_nil _) fuel) fun items each => ?_
      exact .behind fun u => .pure (readable_array each)
    · apply Yields.behind
      intro fuel
      refine Yields.bind (fieldsFrom_yields ih true (List.forall_mem_nil _) fuel) fun fields each => ?_
      exact .behind fun u => .pure (readable_ofFields each)

end Readable

theorem run_yields {α : Type} {P : α → Prop} {r : Reading α} (yields : Yields P r) {bytes : Bytes} {a : α}
    (read : r.run bytes = .ok a) : P a := by
  obtain ⟨rest, first, ended⟩ := run_eq_ok.mp read
  exact yields bytes a rest first

theorem regular_of_read {bytes : Bytes} {v : Json} (read : Json.read bytes = .ok v) : Regular v :=
  (run_yields (value_yields maxDepth) read).regular

end BoundedScript.Json
