import Mathlib
import BoundedScript.Proofs.Documents
import BoundedScript.Proofs.Json.Accepted

set_option autoImplicit false

namespace BoundedScript

open Text (Bytes bytesOf)

namespace Json.Reading

variable {α σ : Type} {P : α → Prop}

section Records

variable {r : Reading α} (yields : Yields P r)
include yields

theorem once_yields (name : String) (seen : Option α) : Yields (fun o => ∀ a ∈ o, P a) (once name seen r) := by
  have read : Yields (fun o => ∀ a ∈ o, P a) (do return some (← r) : Reading (Option α)) :=
    .bind yields fun a holds => .pure fun b same => Option.some.inj same ▸ holds
  rw [once]
  apply Yields.ite
  · exact .bind (P := fun _ => False) (.throw _) fun u never => never.elim
  · exact .behind fun u => read

theorem item_yields (first : Bool) : Yields (fun o => ∀ a ∈ o, P a) (item first r) := by
  apply Yields.behind
  intro goes
  apply Yields.ite
  · exact .bind yields fun a holds => .pure fun b same => Option.some.inj same ▸ holds
  · exact .pure fun b never => nomatch never

end Records

-- What each field leaves as it was told holds of the whole object.
theorem eachField_yields {field : String → σ → Reading σ} {I : σ → Prop}
    (step : ∀ name s, I s → Yields I (field name s)) (first : Bool) {s : σ} (start : I s) (fuel : Nat) :
    Yields I (eachField field first s fuel) := by
  induction fuel generalizing first s with
  | zero => exact .throw _
  | succ fuel ih =>
    apply Yields.behind
    intro goes
    apply Yields.ite
    · apply Yields.behind
      intro u
      apply Yields.behind
      intro key
      exact .bind (step key s start) fun t holds => ih false holds
    · exact .pure start

theorem mismatch_yields (expected : String) : Yields P (mismatch expected) :=
  .behind fun _ => .throw _

theorem record_yields {ofObject ofList : Reading α} (object : Yields P ofObject) (list : Yields P ofList)
    (name : String) : Yields P (record name ofObject ofList) := by
  apply Yields.behind
  intro b
  cases b with
  | none => exact .throw _
  | some b =>
    apply Yields.ite
    · exact .behind fun u => .bind list fun a holds => .behind fun u => .pure holds
    apply Yields.ite
    · exact .behind fun u => .bind object fun a holds => .behind fun u => .pure holds
    · exact mismatch_yields _

end Json.Reading

namespace Wire

open Json.Reading

-- A level of nesting is used up by the document.
abbrev Readable : Json → Prop :=
  Json.Readable (Json.maxDepth - 1)

namespace Request

theorem field_yields (name : String) (p : Partial) (before : ∀ v ∈ p.payload, Readable v) :
    Yields (fun p : Partial => ∀ v ∈ p.payload, Readable v) (field name p) := by
  rw [field]
  apply Yields.ite
  · exact .behind fun k => .pure before
  apply Yields.ite
  · exact .behind fun code => .pure before
  apply Yields.ite
  · exact .bind (once_yields (Json.value_yields _) name p.payload) fun v read => .pure read
  · exact .behind fun u => .behind fun u => .pure before

theorem decode_readable {bytes : Bytes} {r : Request} (decoded : decode bytes = .ok r) : Readable r.payload := by
  have given : ∀ o : Option Json, (∀ v ∈ o, Readable v) → Readable (o.getD .null) := by
    intro o each
    cases o with
    | none => exact Json.readable_null
    | some v => exact each v rfl
  refine Json.run_yields (P := fun r : Request => Readable r.payload) (record_yields ?_ ?_ _) decoded
  · apply Yields.behind
    intro fuel
    refine .bind (eachField_yields field_yields true (by rintro v ⟨⟩) fuel) fun p read => ?_
    cases p.kind with
    | none => exact .throw _
    | some k => exact .pure (given _ read)
  · apply Yields.behind
    intro k
    cases k with
    | none => exact .throw _
    | some k =>
      apply Yields.behind
      intro code
      exact .bind (item_yields (Json.value_yields _) false) fun v read => .pure (given _ read)

end Request

namespace Response

theorem field_yields (name : String) (p : Partial) (before : ∀ v ∈ p.result, Readable v) :
    Yields (fun p : Partial => ∀ v ∈ p.result, Readable v) (field name p) := by
  rw [field]
  apply Yields.ite
  · exact .behind fun ok => .pure before
  apply Yields.ite
  · exact .behind fun error => .pure before
  apply Yields.ite
  · exact .behind fun kind => .pure before
  apply Yields.ite
  · exact .bind (once_yields (Json.value_yields _) name p.result) fun v read => .pure read
  · exact .behind fun u => .behind fun u => .pure before

theorem decode_readable {bytes : Bytes} {r : Response} (decoded : decode bytes = .ok r) :
    ∀ v ∈ r.result, Readable v := by
  refine Json.run_yields (P := fun r : Response => ∀ v ∈ r.result, Readable v) (record_yields ?_ ?_ _) decoded
  · apply Yields.behind
    intro fuel
    refine .bind (eachField_yields field_yields true (by rintro v ⟨⟩) fuel) fun p read => ?_
    cases p.ok with
    | none => exact .throw _
    | some ok => exact .pure read
  · apply Yields.behind
    intro ok
    cases ok with
    | none => exact .throw _
    | some ok =>
      apply Yields.behind
      intro error
      apply Yields.behind
      intro kind
      exact .bind (item_yields (Json.value_yields _) false) fun v read => .pure read

end Response

def DoublesReadBack (v : Json) : Prop :=
  ∀ x, Json.HasFloat x v → x.isFinite → Json.ReadsBack x

theorem taken_of_readable {v : Json} (readable : Readable v) (readBack : DoublesReadBack v) :
    Json.Taken (Json.maxDepth - 1) v :=
  Json.taken_of_regular readable.regular (fun x has => readBack x has (readable.finite x has)) _

theorem Request.decode_encoded {bytes : Bytes} {r : Request} (decoded : decode bytes = .ok r)
    (readBack : DoublesReadBack r.payload) : decode (bytesOf r.encode) = .ok r := by
  have readable := decode_readable decoded
  rw [decode_encode r (taken_of_readable readable readBack), if_pos readable.shallow]

theorem Response.decode_encoded {bytes : Bytes} {r : Response} (decoded : decode bytes = .ok r)
    (readBack : ∀ v ∈ r.result, DoublesReadBack v) : decode (bytesOf r.encode) = .ok r := by
  have readable := decode_readable decoded
  have shallow : r.resultDepth ≤ Json.maxDepth - 1 := by
    rw [resultDepth]
    split
    next v same => exact (readable v same).shallow
    next => exact Nat.zero_le _
  rw [decode_encode r fun v inside => taken_of_readable (readable v inside) (readBack v inside), if_pos shallow]

-- Whoever reads back what was written writes the same again, and no two things alike.
theorem kept_of_decode_encoded {α : Type} {decode : Bytes → Except Json.ReadError α} {encode : α → String}
    {P : α → Prop}
    (round : ∀ bytes r, decode bytes = .ok r → P r → decode (bytesOf (encode r)) = .ok r)
    {bytes : Bytes} {r : α} (decoded : decode bytes = .ok r) (holds : P r) :
    decode (bytesOf (encode r)) = .ok r ∧
      (∀ again, decode (bytesOf (encode r)) = .ok again → bytesOf (encode again) = bytesOf (encode r)) ∧
      ∀ others s, decode others = .ok s → P s → bytesOf (encode s) = bytesOf (encode r) → s = r := by
  have kept := round bytes r decoded holds
  refine ⟨kept, ?_, ?_⟩
  · intro again read
    rw [kept] at read
    rw [Except.ok.inj read]
  · intro others s other back same
    have read := round others s other back
    rw [same, kept] at read
    exact (Except.ok.inj read).symm

/-- A document that could be read, in whatever form, is read as the same when it is written anew, so writing it
once more changes nothing, and documents that say different things are written differently. -/
theorem documents_kept (bytes : Bytes) :
    (∀ r, Request.decode bytes = .ok r → DoublesReadBack r.payload →
      Request.decode (bytesOf r.encode) = .ok r ∧
      (∀ again, Request.decode (bytesOf r.encode) = .ok again → bytesOf again.encode = bytesOf r.encode) ∧
      ∀ others s, Request.decode others = .ok s → DoublesReadBack s.payload →
        bytesOf s.encode = bytesOf r.encode → s = r) ∧
    (∀ r, Response.decode bytes = .ok r → (∀ v ∈ r.result, DoublesReadBack v) →
      Response.decode (bytesOf r.encode) = .ok r ∧
      (∀ again, Response.decode (bytesOf r.encode) = .ok again → bytesOf again.encode = bytesOf r.encode) ∧
      ∀ others s, Response.decode others = .ok s → (∀ v ∈ s.result, DoublesReadBack v) →
        bytesOf s.encode = bytesOf r.encode → s = r) := by
  constructor
  · intro r decoded readBack
    exact kept_of_decode_encoded (P := fun r => DoublesReadBack r.payload)
      (fun bytes r => Request.decode_encoded) decoded readBack
  · intro r decoded readBack
    exact kept_of_decode_encoded (P := fun r => ∀ v ∈ r.result, DoublesReadBack v)
      (fun bytes r => Response.decode_encoded) decoded readBack

-- A list for a request, of an unknown kind and with an exponent; a null result behind an unknown field.
theorem documents_kept_odd :
    (∃ r, Request.decode (bytesOf "[\"render\",\"x\",15e-1]") = .ok r ∧ r.payload = .float 1.5 ∧
      Request.decode (bytesOf r.encode) = .ok r) ∧
    (∃ r, Response.decode (bytesOf "\x7b\"z\":[[]],\"result\":null,\"ok\":true,\"error\":null\x7d") = .ok r ∧
      r.result = some .null ∧ Response.decode (bytesOf r.encode) = .ok r) := by
  constructor
  · have payload : Json.float? ((Request.decode (bytesOf "[\"render\",\"x\",15e-1]")).map (·.payload)) =
        some 1.5 := by
      decide +kernel
    have half : Json.ReadsBack 1.5 := by decide +kernel
    cases decoded : Request.decode (bytesOf "[\"render\",\"x\",15e-1]") with
    | error e =>
      rw [decoded] at payload
      cases payload
    | ok r =>
      rw [decoded] at payload
      have float : r.payload = .float 1.5 := Except.ok.inj (Json.float?_eq_some.mp payload)
      have readBack : DoublesReadBack r.payload := by
        rw [float]
        rintro x ⟨⟩ -
        exact half
      exact ⟨r, rfl, float, ((documents_kept _).1 r decoded readBack).1⟩
  · have decoded : Response.decode (bytesOf "\x7b\"z\":[[]],\"result\":null,\"ok\":true,\"error\":null\x7d") =
        .ok ⟨true, none, none, some .null⟩ := by
      cbv
    refine ⟨_, decoded, rfl, ((documents_kept _).2 _ decoded ?_).1⟩
    rintro v ⟨⟩ x ⟨⟩

end Wire
end BoundedScript
