import BoundedScript.Proofs.Json.Doubles
import BoundedScript.Proofs.Json.Strings

set_option autoImplicit false

namespace BoundedScript.Json

open Reading
open Text (Bytes encoded)

theorem valueWith_string (container : UInt8 → Reading Json) (s : String) (rest : Bytes) :
    valueWith container (encoded (stringText s) ++ rest) = .ok (.string s, rest) := by
  rw [encoded_stringText, valueWith_cons rfl]
  show (do drop; return .string (← stringBody) : Reading Json) _ = _
  rw [bind_ok (drop_apply _), List.tail_cons, bind_ok (stringBody_written s rest)]
  rfl

theorem valueWith_container (container : UInt8 → Reading Json) {b : UInt8} (mark : b = 0x5b ∨ b = 0x7b)
    (tail : Bytes) : valueWith container (b :: tail) = container b (b :: tail) := by
  rcases mark with rfl | rfl <;> rfl

theorem value_of_valueWith {bs rest : Bytes} {v : Json}
    (read : ∀ container, valueWith container bs = .ok (v, rest)) (depth : Nat) :
    value depth bs = .ok (v, rest) := by
  cases depth with
  | zero => exact read _
  | succ depth => exact read _

section Separators

theorem hasItem_first {b : UInt8} (visible : isBlank b = false) (goes : b ≠ 0x5d) (tail : Bytes) :
    hasItem true (b :: tail) = .ok (true, b :: tail) := by
  rw [hasItem, bind_ok (peek_visible visible tail)]
  simp [goes]

theorem hasItem_later {b : UInt8} (visible : isBlank b = false) (goes : b ≠ 0x5d) (tail : Bytes) :
    hasItem false (0x2c :: b :: tail) = .ok (true, b :: tail) := by
  rw [hasItem, bind_ok (peek_visible rfl _)]
  simp [bind_apply, visible, goes]

theorem hasItem_end (first : Bool) (rest : Bytes) :
    hasItem first (0x5d :: rest) = .ok (false, 0x5d :: rest) :=
  rfl

theorem hasKey_first (tail : Bytes) : hasKey true (0x22 :: tail) = .ok (true, 0x22 :: tail) := rfl

theorem hasKey_later (tail : Bytes) : hasKey false (0x2c :: 0x22 :: tail) = .ok (true, 0x22 :: tail) := rfl

theorem hasKey_end (first : Bool) (rest : Bytes) :
    hasKey first (0x7d :: rest) = .ok (false, 0x7d :: rest) :=
  rfl

theorem colon_apply (tail : Bytes) : colon (0x3a :: tail) = .ok ((), tail) := rfl

end Separators

theorem encoded_comma (cs : List Char) : encoded (',' :: cs) = 0x2c :: encoded cs :=
  Text.encoded_ascii (by decide) cs

theorem encoded_colon (cs : List Char) : encoded (':' :: cs) = 0x3a :: encoded cs :=
  Text.encoded_ascii (by decide) cs

theorem encoded_later {α : Type} (text : α → List Char) (a : α) (items : List α) (rest : Bytes) :
    encoded ((a :: items).flatMap fun a => ',' :: text a) ++ rest =
      0x2c :: (encoded (text a) ++ (encoded (items.flatMap fun a => ',' :: text a) ++ rest)) := by
  rw [List.flatMap_cons, List.cons_append, encoded_comma, Text.encoded_append, List.cons_append,
    List.append_assoc]

theorem compactItems_eq_map (items : List Json) : compactItems items = items.map compact := by
  induction items with
  | nil => rfl
  | cons v rest ih => rw [compactItems, ih, List.map_cons]

def fieldBy (text : Json → List Char) (field : String × Json) : List Char :=
  stringText field.1 ++ ':' :: text field.2

def fieldText (field : String × Json) : List Char :=
  fieldBy compact field

theorem compactFields_eq_map (fields : List (String × Json)) :
    compactFields fields = fields.map fieldText := by
  induction fields with
  | nil => rfl
  | cons field rest ih => rw [compactFields, ih, List.map_cons, fieldText, fieldBy]

theorem separated_cons {α : Type} (text : α → List Char) (a : α) (rest : List α) :
    separated [','] ((a :: rest).map text) = text a ++ rest.flatMap fun b => ',' :: text b := by
  induction rest generalizing a with
  | nil => simp [separated]
  | cons b rest ih =>
    rw [List.map_cons, List.map_cons, separated, ← List.map_cons, ih, List.flatMap_cons]
    · simp
    · simp

structure Stands (depth : Nat) (text : List Char) (v : Json) : Prop where
  head : ∃ b tail, encoded text = b :: tail ∧ isBlank b = false ∧ b ≠ 0x5d
  read : ∀ rest, Ends rest → value depth (encoded text ++ rest) =
    if v.depth ≤ depth then .ok (v, rest) else .error .recursionLimit

def Taken (depth : Nat) (v : Json) : Prop :=
  Stands depth (compact v) v

theorem ends_later {α : Type} (text : α → List Char) (items : List α) {mark : UInt8}
    (closing : mark = 0x5d ∨ mark = 0x7d) (rest : Bytes) :
    Ends (encoded (items.flatMap fun a => ',' :: text a) ++ mark :: rest) := by
  cases items with
  | nil => exact .mark (.inr closing) rest
  | cons a items =>
    rw [List.flatMap_cons, List.cons_append, encoded_comma]
    exact .mark (.inl rfl) _

theorem Stands.hasItem {depth : Nat} {text : List Char} {v : Json} (stands : Stands depth text v) (more : Bytes) :
    hasItem true (encoded text ++ more) = .ok (true, encoded text ++ more) ∧
      hasItem false (0x2c :: (encoded text ++ more)) = .ok (true, encoded text ++ more) := by
  obtain ⟨b, tail, head, visible, goes⟩ := stands.head
  rw [head]
  exact ⟨hasItem_first visible goes _, hasItem_later visible goes _⟩

section Items

variable {depth : Nat} {text : Json → List Char}

theorem itemsFrom_step {v : Json} (stands : Stands depth (text v) v) {first : Bool} {bs more : Bytes}
    (goes : Reading.hasItem first bs = .ok (true, encoded (text v) ++ more)) (ends : Ends more)
    (acc : List Json) (fuel : Nat) :
    itemsFrom (value depth) first acc (fuel + 1) bs =
      if v.depth ≤ depth then itemsFrom (value depth) false (v :: acc) fuel more
      else .error .recursionLimit := by
  have read := stands.read more ends
  rw [itemsFrom, bind_ok goes, if_pos rfl]
  by_cases fits : v.depth ≤ depth
  · rw [if_pos fits] at read ⊢
    exact bind_ok read _
  · rw [if_neg fits] at read ⊢
    exact bind_error read _

theorem itemsFrom_later {items : List Json} (each : ∀ v ∈ items, Stands depth (text v) v) (acc : List Json)
    {fuel : Nat} (enough : items.length < fuel) (rest : Bytes) :
    itemsFrom (value depth) false acc fuel
        (encoded (items.flatMap fun v => ',' :: text v) ++ 0x5d :: rest) =
      if depthItems items ≤ depth then .ok (acc.reverse ++ items, 0x5d :: rest)
      else .error .recursionLimit := by
  induction items generalizing acc fuel with
  | nil =>
    rcases fuel with - | fuel
    · cases enough
    · simp [depthItems, itemsFrom, hasItem_end, bind_apply]
  | cons v items ih =>
    rcases fuel with - | fuel
    · cases enough
    have stands := each v List.mem_cons_self
    have later := ih (fun w inside => each w (List.mem_cons_of_mem v inside)) (v :: acc)
      (Nat.lt_of_succ_lt_succ enough)
    rw [encoded_later, itemsFrom_step stands (stands.hasItem _).2 (ends_later text items (.inl rfl) rest),
      later, depthItems]
    simp only [Nat.max_le]
    by_cases fits : v.depth ≤ depth <;> simp [fits]

theorem itemsFrom_written {items : List Json} (each : ∀ v ∈ items, Stands depth (text v) v) {fuel : Nat}
    (enough : items.length < fuel) (rest : Bytes) :
    itemsFrom (value depth) true [] fuel
        (encoded (separated [','] (items.map text)) ++ 0x5d :: rest) =
      if depthItems items ≤ depth then .ok (items, 0x5d :: rest) else .error .recursionLimit := by
  rcases fuel with - | fuel
  · cases enough
  cases items with
  | nil => simp [depthItems, separated, itemsFrom, hasItem_end, bind_apply]
  | cons v items =>
    have stands := each v List.mem_cons_self
    have later := itemsFrom_later (fun w inside => each w (List.mem_cons_of_mem v inside)) [v]
      (Nat.lt_of_succ_lt_succ enough) rest
    rw [separated_cons, Text.encoded_append, List.append_assoc,
      itemsFrom_step stands (stands.hasItem _).1 (ends_later text items (.inl rfl) rest), later,
      depthItems]
    simp only [Nat.max_le]
    by_cases fits : v.depth ≤ depth <;> simp [fits]

end Items

section Fields

variable {depth : Nat} {text : Json → List Char}

theorem encoded_fieldBy (text : Json → List Char) (field : String × Json) (more : Bytes) :
    encoded (fieldBy text field) ++ more =
      0x22 :: (encoded (field.1.toList.flatMap escapeChar) ++
        0x22 :: 0x3a :: (encoded (text field.2) ++ more)) := by
  rw [fieldBy, Text.encoded_append, List.append_assoc, encoded_stringText, encoded_colon]
  rfl

theorem encoded_fieldText (field : String × Json) (more : Bytes) :
    encoded (fieldText field) ++ more =
      0x22 :: (encoded (field.1.toList.flatMap escapeChar) ++
        0x22 :: 0x3a :: (encoded (compact field.2) ++ more)) :=
  encoded_fieldBy compact field more

theorem hasKey_fieldBy (text : Json → List Char) (field : String × Json) (more : Bytes) :
    hasKey true (encoded (fieldBy text field) ++ more) = .ok (true, encoded (fieldBy text field) ++ more) ∧
      hasKey false (0x2c :: (encoded (fieldBy text field) ++ more)) =
        .ok (true, encoded (fieldBy text field) ++ more) := by
  rw [encoded_fieldBy]
  exact ⟨hasKey_first _, hasKey_later _⟩

theorem hasKey_written (field : String × Json) (more : Bytes) :
    hasKey true (encoded (fieldText field) ++ more) = .ok (true, encoded (fieldText field) ++ more) ∧
      hasKey false (0x2c :: (encoded (fieldText field) ++ more)) =
        .ok (true, encoded (fieldText field) ++ more) :=
  hasKey_fieldBy compact field more

theorem fieldsFrom_step {field : String × Json} (stands : Stands depth (text field.2) field.2) {first : Bool}
    {bs more : Bytes} (goes : hasKey first bs = .ok (true, encoded (fieldBy text field) ++ more))
    (ends : Ends more) (acc : List (String × Json)) (fuel : Nat) :
    fieldsFrom (value depth) first acc (fuel + 1) bs =
      if field.2.depth ≤ depth then fieldsFrom (value depth) false (field :: acc) fuel more
      else .error .recursionLimit := by
  have read := stands.read more ends
  rw [encoded_fieldBy] at goes
  rw [fieldsFrom, bind_ok goes, if_pos rfl, bind_ok (drop_apply _), List.tail_cons,
    bind_ok (stringBody_written _ _), bind_ok (colon_apply _)]
  by_cases fits : field.2.depth ≤ depth
  · rw [if_pos fits] at read ⊢
    exact bind_ok read _
  · rw [if_neg fits] at read ⊢
    exact bind_error read _

theorem fieldsFrom_later {fields : List (String × Json)}
    (each : ∀ field ∈ fields, Stands depth (text field.2) field.2)
    (acc : List (String × Json)) {fuel : Nat} (enough : fields.length < fuel) (rest : Bytes) :
    fieldsFrom (value depth) false acc fuel
        (encoded (fields.flatMap fun field => ',' :: fieldBy text field) ++ 0x7d :: rest) =
      if depthFields fields ≤ depth then .ok (acc.reverse ++ fields, 0x7d :: rest)
      else .error .recursionLimit := by
  induction fields generalizing acc fuel with
  | nil =>
    rcases fuel with - | fuel
    · cases enough
    · simp [depthFields, fieldsFrom, hasKey_end, bind_apply]
  | cons field fields ih =>
    rcases fuel with - | fuel
    · cases enough
    have stands := each field List.mem_cons_self
    have later := ih (fun w inside => each w (List.mem_cons_of_mem field inside)) (field :: acc)
      (Nat.lt_of_succ_lt_succ enough)
    rw [encoded_later, fieldsFrom_step stands (hasKey_fieldBy text field _).2
      (ends_later (fieldBy text) fields (.inr rfl) rest), later, depthFields]
    simp only [Nat.max_le]
    by_cases fits : field.2.depth ≤ depth <;> simp [fits]

theorem fieldsFrom_written {fields : List (String × Json)}
    (each : ∀ field ∈ fields, Stands depth (text field.2) field.2)
    {fuel : Nat} (enough : fields.length < fuel) (rest : Bytes) :
    fieldsFrom (value depth) true [] fuel
        (encoded (separated [','] (fields.map (fieldBy text))) ++ 0x7d :: rest) =
      if depthFields fields ≤ depth then .ok (fields, 0x7d :: rest) else .error .recursionLimit := by
  rcases fuel with - | fuel
  · cases enough
  cases fields with
  | nil => simp [depthFields, separated, fieldsFrom, hasKey_end, bind_apply]
  | cons field fields =>
    have stands := each field List.mem_cons_self
    have later := fieldsFrom_later (fun w inside => each w (List.mem_cons_of_mem field inside)) [field]
      (Nat.lt_of_succ_lt_succ enough) rest
    rw [separated_cons, Text.encoded_append, List.append_assoc,
      fieldsFrom_step stands (hasKey_fieldBy text field _).1 (ends_later (fieldBy text) fields (.inr rfl) rest),
      later, depthFields]
    simp only [Nat.max_le]
    by_cases fits : field.2.depth ≤ depth <;> simp [fits]

end Fields

theorem length_later {α : Type} (text : α → List Char) (items : List α) :
    items.length ≤ (encoded (items.flatMap fun a => ',' :: text a)).length := by
  induction items with
  | nil => simp
  | cons a items ih =>
    rw [List.flatMap_cons, List.cons_append, encoded_comma, Text.encoded_append]
    simp only [List.length_cons, List.length_append]
    omega

theorem length_separated {α : Type} (text : α → List Char) (items : List α) :
    items.length ≤ (encoded (separated [','] (items.map text))).length + 1 := by
  cases items with
  | nil => simp
  | cons a items =>
    have later := length_later text items
    rw [separated_cons, Text.encoded_append, List.length_append, List.length_cons]
    omega

theorem lt_fuel {α : Type} (text : α → List Char) (items : List α) (mark : UInt8) (rest : Bytes) :
    items.length < (encoded (separated [','] (items.map text)) ++ mark :: rest).length + 1 := by
  have count := length_separated text items
  rw [List.length_append, List.length_cons]
  omega

theorem fields_lt_fuel (fields : List (String × Json)) (rest : Bytes) :
    fields.length < (encoded (separated [','] (compactFields fields)) ++ 0x7d :: rest).length + 1 := by
  rw [compactFields_eq_map]
  exact lt_fuel fieldText fields 0x7d rest

theorem value_list (depth : Nat) (bs : Bytes) :
    value (depth + 1) (0x5b :: bs) =
      (do let items ← itemsFrom (value depth) true [] (bs.length + 1)
          drop
          return Json.array items : Reading Json) bs := by
  rw [value, valueWith_container _ (.inl rfl), bind_ok (drop_apply _)]
  rfl

theorem value_object (depth : Nat) (bs : Bytes) :
    value (depth + 1) (0x7b :: bs) =
      (do let fields ← fieldsFrom (value depth) true [] (bs.length + 1)
          drop
          return Json.ofFields fields : Reading Json) bs := by
  rw [value, valueWith_container _ (.inr rfl), bind_ok (drop_apply _)]
  rfl

theorem stands_array {text : Json → List Char} {items : List Json}
    (each : ∀ v ∈ items, ∀ depth, Stands depth (text v) v) (depth : Nat) :
    Stands depth ('[' :: separated [','] (items.map text) ++ [']']) (.array items) := by
  have written : encoded ('[' :: separated [','] (items.map text) ++ [']']) =
      0x5b :: (encoded (separated [','] (items.map text)) ++ [0x5d]) := by
    simp
  refine ⟨⟨0x5b, _, written, rfl, by decide⟩, fun rest ends => ?_⟩
  rw [written, List.cons_append, List.append_assoc, List.cons_append, List.nil_append]
  -- Without depth the bracket alone is refused.
  cases depth with
  | zero =>
    rw [if_neg (by simp)]
    rfl
  | succ depth =>
    have read := itemsFrom_written (fun v inside => each v inside depth) (lt_fuel text items 0x5d rest) rest
    rw [value_list, depth_array]
    by_cases fits : depthItems items ≤ depth
    · rw [if_pos fits] at read
      rw [bind_ok read, if_pos (Nat.succ_le_succ fits)]
      rfl
    · rw [if_neg fits] at read
      rw [bind_error read, if_neg (mt Nat.le_of_succ_le_succ fits)]

theorem depthFields_perm {fields others : List (String × Json)} (same : fields.Perm others) :
    depthFields fields = depthFields others := by
  induction same with
  | nil => rfl
  | cons field _ ih => rw [depthFields, depthFields, ih]
  | swap a b rest =>
    simp only [depthFields]
    exact Nat.max_left_comm ..
  | trans _ _ first second => exact first.trans second

theorem stands_object {text : Json → List Char} {fields written : List (String × Json)}
    (ordered : fields.Pairwise fun a b => a.1 < b.1) (same : written.Perm fields)
    (each : ∀ field ∈ fields, ∀ depth, Stands depth (text field.2) field.2) (depth : Nat) :
    Stands depth ('\x7b' :: separated [','] (written.map (fieldBy text)) ++ ['\x7d']) (.object fields) := by
  have whole : encoded ('\x7b' :: separated [','] (written.map (fieldBy text)) ++ ['\x7d']) =
      0x7b :: (encoded (separated [','] (written.map (fieldBy text))) ++ [0x7d]) := by
    simp
  refine ⟨⟨0x7b, _, whole, rfl, by decide⟩, fun rest ends => ?_⟩
  rw [whole, List.cons_append, List.append_assoc, List.cons_append, List.nil_append]
  cases depth with
  | zero =>
    rw [if_neg (by simp)]
    rfl
  | succ depth =>
    have read := fieldsFrom_written (fun field inside => each field (same.mem_iff.mp inside) depth)
      (lt_fuel (fieldBy text) written 0x7d rest) rest
    rw [depthFields_perm same] at read
    rw [value_object, depth_object]
    by_cases fits : depthFields fields ≤ depth
    · rw [if_pos fits] at read
      rw [bind_ok read, if_pos (Nat.succ_le_succ fits), ofFields, sortFields_perm ordered same]
      rfl
    · rw [if_neg fits] at read
      rw [bind_error read, if_neg (mt Nat.le_of_succ_le_succ fits)]

theorem taken_array {items : List Json} (each : ∀ v ∈ items, ∀ depth, Taken depth v) (depth : Nat) :
    Taken depth (.array items) := by
  rw [Taken, compact, compactItems_eq_map]
  exact stands_array each depth

theorem taken_object {fields : List (String × Json)} (ordered : fields.Pairwise fun a b => a.1 < b.1)
    (each : ∀ field ∈ fields, ∀ depth, Taken depth field.2) (depth : Nat) :
    Taken depth (.object fields) := by
  rw [Taken, compact, compactFields_eq_map]
  exact stands_object ordered (.refl fields) each depth

theorem taken_number {n : Reading.Number}
    (read : signedNumber (encoded (compact (ofNumber n))) = .ok (n, [])) (depth : Nat) :
    Taken depth (ofNumber n) := by
  obtain ⟨b, tail, head, lead⟩ := signedNumber_head read
  have flat : (ofNumber n).depth ≤ depth := by
    cases n <;> exact Nat.zero_le depth
  refine ⟨⟨b, tail, head, isBlank_of_lead lead, ?_⟩, fun rest ends => ?_⟩
  · rintro rfl
    cases lead
  · obtain ⟨suffix, extended⟩ := signedNumber_extends _ _ _ read
    rw [if_pos flat]
    exact value_of_valueWith (fun c => valueWith_number (extended rest ends)) depth

-- The induction over what a text can say: each value is read back up to the depth that is allowed.
theorem taken_of_regular {v : Json} (regular : Regular v) (readBack : ∀ x, HasFloat x v → ReadsBack x)
    (depth : Nat) : Taken depth v := by
  induction regular generalizing depth with
  | null =>
    refine ⟨⟨0x6e, _, rfl, rfl, by decide⟩, fun rest ends => ?_⟩
    exact value_of_valueWith (fun c => rfl) depth
  | bool b =>
    cases b with
    | true =>
      refine ⟨⟨0x74, _, rfl, rfl, by decide⟩, fun rest ends => ?_⟩
      exact value_of_valueWith (fun c => rfl) depth
    | false =>
      refine ⟨⟨0x66, _, rfl, rfl, by decide⟩, fun rest ends => ?_⟩
      exact value_of_valueWith (fun c => rfl) depth
  | @int n low high =>
    have read : signedNumber (encoded (compact (ofNumber (.int n)))) = .ok (.int n, []) :=
      signedNumber_written low high
    exact taken_number read depth
  | float x =>
    have read : signedNumber (encoded (compact (ofNumber (.float x)))) = .ok (.float x, []) :=
      signedNumber_float (readBack x .here)
    exact taken_number read depth
  | string s =>
    have written : encoded (compact (.string s)) =
        0x22 :: (encoded (s.toList.flatMap escapeChar) ++ [0x22]) := by
      simp [compact, stringText]
    refine ⟨⟨0x22, _, written, rfl, by decide⟩, fun rest ends => ?_⟩
    exact value_of_valueWith (fun c => valueWith_string c s rest) depth
  | array each ih =>
    exact taken_array (fun v inside => ih v inside fun x has => readBack x (.item inside has)) depth
  | object ordered each ih =>
    exact taken_object ordered
      (fun field inside => ih field inside fun x has => readBack x (.field inside has)) depth

theorem readText_of_stands {text : List Char} {v : Json} (stands : Stands maxDepth text v) :
    readText (String.ofList text) = if v.depth ≤ maxDepth then .ok v else .error .recursionLimit := by
  have read := stands.read [] Ends.nil
  rw [List.append_nil] at read
  rw [readText, Text.bytesOf_ofList, Json.read]
  by_cases fits : v.depth ≤ maxDepth
  · rw [if_pos fits] at read ⊢
    exact run_eq_ok.mpr ⟨[], read, rfl⟩
  · rw [if_neg fits] at read ⊢
    rw [run, bind_error read]

theorem read_written {v : Json} (regular : Regular v) (readBack : ∀ x, HasFloat x v → ReadsBack x) :
    readText v.render = if v.depth ≤ maxDepth then .ok v else .error .recursionLimit :=
  readText_of_stands (taken_of_regular regular readBack maxDepth)

end BoundedScript.Json
