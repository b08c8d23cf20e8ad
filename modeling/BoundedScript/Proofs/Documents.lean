import BoundedScript.Proofs.Json.Records
import BoundedScript.Wire

set_option autoImplicit false

namespace BoundedScript.Wire

open Json.Reading
open Text (Bytes encoded)

namespace Request

theorem ofName_name (k : RequestKind) : RequestKind.ofName k.name = k := by
  cases k <;> rfl

theorem takes_kind (k : RequestKind) (p : Partial) (fresh : p.kind = none) :
    TakesField field "kind" (.string k.name) p { p with kind := some k } := by
  intro more ends
  have known : (fun s => .ok (RequestKind.ofName s) : String → Except Json.ReadError RequestKind) k.name =
      .ok k := by
    simp only [ofName_name]
  rw [field, if_pos (by decide), fresh]
  exact bind_ok (once_written "kind" (choice_written known more)) _

theorem takes_code (code : String) (p : Partial) (fresh : p.code = none) :
    TakesField field "code" (.string code) p { p with code := some code } := by
  intro more ends
  rw [field, if_neg (by decide), if_pos (by decide), fresh]
  exact bind_ok (once_written "code" (string_written _ code more)) _

theorem takes_payload {payload : Json} (taken : Json.Taken (Json.maxDepth - 1) payload)
    (fits : payload.depth ≤ Json.maxDepth - 1) (p : Partial) (fresh : p.payload = none) :
    TakesField field "payload" payload p { p with payload := some payload } := by
  intro more ends
  have read := taken.read more ends
  rw [if_pos fits] at read
  rw [field, if_neg (by decide), if_neg (by decide), if_pos (by decide), fresh]
  exact bind_ok (once_written "payload" read) _

theorem refuses_payload {payload : Json} (taken : Json.Taken (Json.maxDepth - 1) payload)
    (deep : ¬ payload.depth ≤ Json.maxDepth - 1) (p : Partial) (fresh : p.payload = none) :
    RefusesField field "payload" payload p .recursionLimit := by
  intro more ends
  have read := taken.read more ends
  rw [if_neg deep] at read
  rw [field, if_neg (by decide), if_neg (by decide), if_pos (by decide), fresh]
  exact bind_error (once_refused "payload" read) _

theorem decode_encode (r : Request) (taken : Json.Taken (Json.maxDepth - 1) r.payload) :
    decode (Text.bytesOf r.encode) =
      if r.payload.depth ≤ Json.maxDepth - 1 then .ok r else .error .recursionLimit := by
  have kind := takes_kind r.kind ⟨none, none, none⟩ rfl
  have code := takes_code r.code ⟨some r.kind, none, none⟩ rfl
  rw [encode, Json.render, Text.bytesOf_ofList, decode]
  apply run_record_written
  -- Only the payload can be refused, and it comes last.
  by_cases fits : r.payload.depth ≤ Json.maxDepth - 1
  · have payload := takes_payload taken fits ⟨some r.kind, some r.code, none⟩ rfl
    have walk := Walk.takes kind (Walk.takes code (Walk.takes payload (Walk.done _)))
    rw [if_pos fits, ofObject, bind_ok (fuel_apply _),
      bind_ok (eachField_written walk (Json.fields_lt_fuel _ []) [])]
    rfl
  · have payload : Walk field ⟨some r.kind, some r.code, none⟩ [("payload", r.payload)]
        (.error .recursionLimit) := .refuses (refuses_payload taken fits _ rfl)
    have walk := Walk.takes kind (Walk.takes code payload)
    rw [if_neg fits, ofObject, bind_ok (fuel_apply _),
      bind_error (eachField_written walk (Json.fields_lt_fuel _ []) [])]
    rfl

end Request

namespace Response

theorem kindOfName_name (k : FaultKind) : kindOfName k.name = .ok k := by
  cases k <;> rfl

theorem takes_ok (b : Bool) (p : Partial) (fresh : p.ok = none) :
    TakesField field "ok" (.bool b) p { p with ok := some b } := by
  intro more ends
  rw [field, if_pos (by decide), fresh]
  exact bind_ok (once_written "ok" (bool_written b more)) _

theorem takes_error (text : String) (p : Partial) (fresh : p.error = none) :
    TakesField field "error" (.string text) p { p with error := some (some text) } := by
  intro more ends
  rw [field, if_neg (by decide), if_pos (by decide), fresh]
  exact bind_ok (once_written "error" (nullable_written (string_written _ text more))) _

theorem takes_kind (k : FaultKind) (p : Partial) (fresh : p.kind = none) :
    TakesField field "kind" (.string k.name) p { p with kind := some (some k) } := by
  intro more ends
  rw [field, if_neg (by decide), if_neg (by decide), if_pos (by decide), fresh]
  exact bind_ok (once_written "kind" (nullable_written (choice_written (kindOfName_name k) more))) _

theorem takes_result {v : Json} (taken : Json.Taken (Json.maxDepth - 1) v)
    (fits : v.depth ≤ Json.maxDepth - 1) (p : Partial) (fresh : p.result = none) :
    TakesField field "result" v p { p with result := some v } := by
  intro more ends
  have read := taken.read more ends
  rw [if_pos fits] at read
  rw [field, if_neg (by decide), if_neg (by decide), if_neg (by decide), if_pos (by decide), fresh]
  exact bind_ok (once_written "result" read) _

theorem refuses_result {v : Json} (taken : Json.Taken (Json.maxDepth - 1) v)
    (deep : ¬ v.depth ≤ Json.maxDepth - 1) (p : Partial) (fresh : p.result = none) :
    RefusesField field "result" v p .recursionLimit := by
  intro more ends
  have read := taken.read more ends
  rw [if_neg deep] at read
  rw [field, if_neg (by decide), if_neg (by decide), if_neg (by decide), if_pos (by decide), fresh]
  exact bind_error (once_refused "result" read) _

def leading (r : Response) : List (String × Json) :=
  ("ok", .bool r.ok) :: optional "error" (r.error.map .string) ++
    optional "kind" (r.kind.map fun k => .string k.name)

theorem walk_leading (r : Response) :
    Walk field ⟨none, none, none, none⟩ r.leading
      (.ok ⟨some r.ok, r.error.map some, r.kind.map some, none⟩) := by
  have error : Walk field ⟨some r.ok, none, none, none⟩ (optional "error" (r.error.map .string))
      (.ok ⟨some r.ok, r.error.map some, none, none⟩) := by
    cases r.error with
    | none => exact .done _
    | some text => exact .takes (takes_error text _ rfl) (.done _)
  have kind : Walk field ⟨some r.ok, r.error.map some, none, none⟩
      (optional "kind" (r.kind.map fun k => .string k.name))
      (.ok ⟨some r.ok, r.error.map some, r.kind.map some, none⟩) := by
    cases r.kind with
    | none => exact .done _
    | some k => exact .takes (takes_kind k _ rfl) (.done _)
  exact .takes (takes_ok r.ok _ rfl) (error.append kind)

theorem join_map_some {α : Type} (o : Option α) : (o.map some).join = o := by
  cases o <;> rfl

def resultDepth (r : Response) : Nat :=
  match r.result with
  | some v => v.depth
  | none => 0

theorem walk_result (r : Response) (taken : ∀ v ∈ r.result, Json.Taken (Json.maxDepth - 1) v) :
    Walk field ⟨some r.ok, r.error.map some, r.kind.map some, none⟩ (optional "result" r.result)
      (if r.resultDepth ≤ Json.maxDepth - 1 then
        .ok ⟨some r.ok, r.error.map some, r.kind.map some, r.result⟩
      else .error .recursionLimit) := by
  obtain ⟨ok, error, kind, result⟩ := r
  cases result with
  | none => exact .done _
  | some v =>
    split
    next fits => exact .takes (takes_result (taken v rfl) fits _ rfl) (.done _)
    next deep => exact .refuses (refuses_result (taken v rfl) deep _ rfl)

theorem decode_encode (r : Response) (taken : ∀ v ∈ r.result, Json.Taken (Json.maxDepth - 1) v) :
    decode (Text.bytesOf r.encode) =
      if r.resultDepth ≤ Json.maxDepth - 1 then .ok r else .error .recursionLimit := by
  have walk := (walk_leading r).append (walk_result r taken)
  have read := eachField_written walk (Json.fields_lt_fuel _ []) []
  have fields : encode r = Json.render (.object (r.leading ++ optional "result" r.result)) := rfl
  rw [fields, Json.render, Text.bytesOf_ofList, decode]
  apply run_record_written
  rw [ofObject, bind_ok (fuel_apply _)]
  by_cases fits : r.resultDepth ≤ Json.maxDepth - 1
  · rw [if_pos fits] at read ⊢
    rw [bind_ok read]
    simp [Except.map, join_map_some]
  · rw [if_neg fits] at read ⊢
    exact bind_error read _

end Response

end BoundedScript.Wire
