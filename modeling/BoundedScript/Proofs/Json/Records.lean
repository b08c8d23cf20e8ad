import BoundedScript.Proofs.Json.RoundTrip

set_option autoImplicit false

namespace BoundedScript.Json.Reading

open Text (Bytes encoded)

variable {α σ : Type}

section Fields

variable {field : String → σ → Reading σ} {s s' : σ} {result : Except ReadError σ}

def TakesField (field : String → σ → Reading σ) (name : String) (v : Json) (s s' : σ) : Prop :=
  ∀ more, Ends more → field name s (0x3a :: (encoded (compact v) ++ more)) = .ok (s', more)

def RefusesField (field : String → σ → Reading σ) (name : String) (v : Json) (s : σ) (e : ReadError) :
    Prop :=
  ∀ more, Ends more → field name s (0x3a :: (encoded (compact v) ++ more)) = .error e

inductive Walk (field : String → σ → Reading σ) :
    σ → List (String × Json) → Except ReadError σ → Prop where
  | done (s : σ) : Walk field s [] (.ok s)
  | takes {name : String} {v : Json} {fields : List (String × Json)} {s s' : σ}
      {result : Except ReadError σ} (first : TakesField field name v s s')
      (later : Walk field s' fields result) : Walk field s ((name, v) :: fields) result
  | refuses {name : String} {v : Json} {fields : List (String × Json)} {s : σ} {e : ReadError}
      (first : RefusesField field name v s e) : Walk field s ((name, v) :: fields) (.error e)

theorem Walk.append {fields others : List (String × Json)} (first : Walk field s fields (.ok s'))
    (later : Walk field s' others result) : Walk field s (fields ++ others) result := by
  generalize same : Except.ok s' = passed at first
  induction first with
  | done s =>
    cases same
    exact later
  | takes taken rest ih => exact .takes taken (ih same)
  | refuses refused => cases same

theorem eachField_end (field : String → σ → Reading σ) (first : Bool) (s : σ) (fuel : Nat)
    (rest : Bytes) : eachField field first s (fuel + 1) (0x7d :: rest) = .ok (s, 0x7d :: rest) := by
  rw [eachField, bind_ok (hasKey_end first rest)]
  rfl

theorem eachField_key {f : String × Json} {first : Bool} {bs more : Bytes}
    (goes : hasKey first bs = .ok (true, encoded (fieldText f) ++ more)) (s : σ) (fuel : Nat) :
    eachField field first s (fuel + 1) bs =
      (field f.1 s >>= fun s' => eachField field false s' fuel)
        (0x3a :: (encoded (compact f.2) ++ more)) := by
  rw [encoded_fieldText] at goes
  rw [eachField, bind_ok goes, if_pos rfl, bind_ok (drop_apply _), List.tail_cons,
    bind_ok (stringBody_written _ _)]

theorem eachField_first (field : String → σ → Reading σ) (f : String × Json) (s : σ) (fuel : Nat)
    (more : Bytes) :
    eachField field true s (fuel + 1) (encoded (fieldText f) ++ more) =
      (field f.1 s >>= fun s' => eachField field false s' fuel)
        (0x3a :: (encoded (compact f.2) ++ more)) :=
  eachField_key (hasKey_written f more).1 s fuel

theorem eachField_next (field : String → σ → Reading σ) (f : String × Json) (s : σ) (fuel : Nat)
    (more : Bytes) :
    eachField field false s (fuel + 1) (0x2c :: (encoded (fieldText f) ++ more)) =
      (field f.1 s >>= fun s' => eachField field false s' fuel)
        (0x3a :: (encoded (compact f.2) ++ more)) :=
  eachField_key (hasKey_written f more).2 s fuel

theorem eachField_later {fields : List (String × Json)} (walk : Walk field s fields result) {fuel : Nat}
    (enough : fields.length < fuel) (rest : Bytes) :
    eachField field false s fuel
        (encoded (fields.flatMap fun f => ',' :: fieldText f) ++ 0x7d :: rest) =
      result.map (·, 0x7d :: rest) := by
  induction walk generalizing fuel with
  | done s =>
    rcases fuel with - | fuel
    · cases enough
    · exact eachField_end field false s fuel rest
  | @takes name v fields s s' result first later ih =>
    rcases fuel with - | fuel
    · cases enough
    rw [encoded_later, eachField_next, bind_ok (first _ (ends_later fieldText fields (.inr rfl) rest))]
    exact ih (Nat.lt_of_succ_lt_succ enough)
  | @refuses name v fields s e first =>
    rcases fuel with - | fuel
    · cases enough
    rw [encoded_later, eachField_next, bind_error (first _ (ends_later fieldText fields (.inr rfl) rest))]
    rfl

theorem eachField_written {fields : List (String × Json)} (walk : Walk field s fields result) {fuel : Nat}
    (enough : fields.length < fuel) (rest : Bytes) :
    eachField field true s fuel (encoded (separated [','] (compactFields fields)) ++ 0x7d :: rest) =
      result.map (·, 0x7d :: rest) := by
  rcases fuel with - | fuel
  · cases enough
  rw [compactFields_eq_map]
  cases walk with
  | done s => exact eachField_end field true s fuel rest
  | @takes name v fields s s' result first later =>
    rw [separated_cons, Text.encoded_append, List.append_assoc, eachField_first,
      bind_ok (first _ (ends_later fieldText fields (.inr rfl) rest))]
    exact eachField_later later (Nat.lt_of_succ_lt_succ enough) rest
  | @refuses name v fields s e first =>
    rw [separated_cons, Text.encoded_append, List.append_assoc, eachField_first,
      bind_error (first _ (ends_later fieldText fields (.inr rfl) rest))]
    rfl

end Fields

theorem run_record_written {name : String} {ofObject ofList : Reading α} {fields : List (String × Json)}
    {made : Except ReadError α}
    (read : ofObject (encoded (separated [','] (compactFields fields)) ++ [0x7d]) = made.map (·, [0x7d])) :
    (record name ofObject ofList).run (encoded (compact (.object fields))) = made := by
  have written : encoded (compact (.object fields)) =
      0x7b :: (encoded (separated [','] (compactFields fields)) ++ [0x7d]) := by
    simp [compact]
  have opened : record name ofObject ofList (encoded (compact (.object fields))) =
      (do let a ← ofObject; drop; return a : Reading α)
        (encoded (separated [','] (compactFields fields)) ++ [0x7d]) := by
    rw [written]
    rfl
  rw [run, bind_apply, opened]
  cases made with
  | error e => rw [bind_error read]
  | ok a =>
    rw [bind_ok read]
    rfl

theorem once_apply (name : String) (r : Reading α) (bs : Bytes) :
    once name none r (0x3a :: bs) = (do return some (← r) : Reading (Option α)) bs := rfl

theorem once_written (name : String) {r : Reading α} {a : α} {bs rest : Bytes}
    (read : r bs = .ok (a, rest)) : once name none r (0x3a :: bs) = .ok (some a, rest) := by
  rw [once_apply, bind_ok read]
  rfl

theorem once_refused (name : String) {r : Reading α} {e : ReadError} {bs : Bytes}
    (refused : r bs = .error e) : once name none r (0x3a :: bs) = .error e := by
  rw [once_apply, bind_error refused]

theorem string_written (expected s : String) (rest : Bytes) :
    string expected (encoded (stringText s) ++ rest) = .ok (s, rest) := by
  rw [encoded_stringText]
  exact stringBody_written s rest

theorem choice_quote (ofName : String → Except ReadError α) (tail : Bytes) :
    choice ofName (0x22 :: tail) =
      (do match ofName (← stringBody) with
          | .ok a => return a
          | .error e => throw e : Reading α) tail := rfl

theorem choice_written {ofName : String → Except ReadError α} {s : String} {a : α}
    (known : ofName s = .ok a) (rest : Bytes) :
    choice ofName (encoded (stringText s) ++ rest) = .ok (a, rest) := by
  rw [encoded_stringText, choice_quote, bind_ok (stringBody_written s rest), known]
  rfl

theorem bool_written (b : Bool) (rest : Bytes) :
    bool (encoded (compact (.bool b)) ++ rest) = .ok (b, rest) := by
  cases b <;> rfl

theorem nullable_quote (r : Reading α) (tail : Bytes) :
    nullable r (0x22 :: tail) = (do return some (← r) : Reading (Option α)) (0x22 :: tail) := rfl

theorem nullable_written {r : Reading α} {s : String} {a : α} {rest : Bytes}
    (read : r (encoded (stringText s) ++ rest) = .ok (a, rest)) :
    nullable r (encoded (stringText s) ++ rest) = .ok (some a, rest) := by
  rw [encoded_stringText] at read ⊢
  rw [nullable_quote, bind_ok read]
  rfl

end BoundedScript.Json.Reading
