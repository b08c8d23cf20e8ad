import BoundedScript.Proofs.Documents
import BoundedScript.Supervisor

set_option autoImplicit false

namespace BoundedScript

open Text (Bytes)

namespace Worker

theorem serve_handled {limits : WorkerLimits} {input : Input} {clock : Script.Session.Clock} {v : Json}
    (handled : handle limits input clock = .ok v) :
    (serve limits input none clock).bytes = Text.bytesOf (Wire.Response.success v).encode := by
  rw [serve, respond, handled]
  rfl

end Worker

namespace Fault

def root : Fault → Fault
  | .template _ cause => cause.root
  | f => f

theorem root_kind (f : Fault) : f.root.kind = f.kind := by
  induction f with
  | template expression cause ih => exact ih
  | _ => rfl

theorem root_ne_template (f : Fault) (expression : String) (cause : Fault) :
    f.root ≠ .template expression cause := by
  induction f with
  | template _ _ ih => exact ih
  | _ => exact Fault.noConfusion

end Fault

namespace Json

def wrapped (v : Json) : Nat → Json
  | 0 => v
  | n + 1 => .array [wrapped v n]

theorem wrapped_regular {v : Json} (regular : Regular v) (n : Nat) : Regular (v.wrapped n) := by
  induction n with
  | zero => exact regular
  | succ n ih => exact .array (List.forall_mem_singleton.mpr ih)

theorem wrapped_depth (v : Json) (n : Nat) : (v.wrapped n).depth = v.depth + n := by
  induction n with
  | zero => rfl
  | succ n ih => simp [wrapped, depthItems, ih, Nat.add_assoc]

theorem wrapped_hasFloat {x y : Float} {n : Nat} (has : HasFloat x ((Json.float y).wrapped n)) :
    x = y := by
  induction n with
  | zero =>
    cases has
    rfl
  | succ n ih =>
    cases has with
    | item inside has =>
      rw [List.mem_singleton.mp inside] at has
      exact ih has

end Json

namespace Supervisor

theorem decode_request {c : SandboxConfig} {code : String} {v : Json} {bytes : Bytes}
    (taken : Json.Taken (Json.maxDepth - 1) v) (sent : request c code v = .ok bytes) :
    Wire.Request.decode bytes =
      if v.depth ≤ Json.maxDepth - 1 then .ok (.transform code v) else .error .recursionLimit := by
  have written : bytes = Text.bytesOf (Wire.Request.transform code v).encode := by
    rw [request] at sent
    split at sent
    · cases sent
    · exact (Except.ok.inj sent).symm
  rw [written]
  exact Wire.Request.decode_encode (.transform code v) taken

theorem resolve_written (r : Wire.Response) (taken : ∀ v ∈ r.result, Json.Taken (Json.maxDepth - 1) v)
    (stderr : Bytes) {maxStdout : Nat} (short : (Text.bytesOf r.encode).length ≤ maxStdout) :
    resolve (.ok (Text.bytesOf r.encode)) stderr (.code 0) maxStdout =
      if r.resultDepth ≤ Json.maxDepth - 1 then outcome r
      else .error (responseFault .recursionLimit (Text.trim (Text.lossy stderr))) := by
  simp only [resolve, if_neg (Nat.not_lt.mpr short)]
  rw [Wire.Response.decode_encode r taken]
  by_cases fits : r.resultDepth ≤ Json.maxDepth - 1
  · rw [if_pos fits, if_pos fits]
    rfl
  · rw [if_neg fits, if_neg fits]
    rfl

theorem resolve_success {v : Json} (taken : Json.Taken (Json.maxDepth - 1) v) (stderr : Bytes)
    {maxStdout : Nat}
    (short : (Text.bytesOf (Wire.Response.success v).encode).length ≤ maxStdout) :
    resolve (.ok (Text.bytesOf (Wire.Response.success v).encode)) stderr (.code 0) maxStdout =
      if v.depth ≤ Json.maxDepth - 1 then .ok v
      else .error (responseFault .recursionLimit (Text.trim (Text.lossy stderr))) := by
  have each : ∀ w ∈ (Wire.Response.success v).result, Json.Taken (Json.maxDepth - 1) w := by
    intro w same
    obtain rfl : v = w := Option.some.inj same
    exact taken
  exact resolve_written (.success v) each stderr short

def reported (f : Fault) : Fault :=
  .worker f.kind (if Text.isBlankText f.message then "unknown sandbox error" else f.message)

theorem resolve_failure (f : Fault) (stderr : Bytes) {maxStdout : Nat}
    (short : (Text.bytesOf (Wire.Response.failure f).encode).length ≤ maxStdout) :
    resolve (.ok (Text.bytesOf (Wire.Response.failure f).encode)) stderr (.code 0) maxStdout =
      .error (reported f) := by
  have absent : ∀ w ∈ (Wire.Response.failure f).result, Json.Taken (Json.maxDepth - 1) w := by
    intro w inside
    cases inside
  have flat : (Wire.Response.failure f).resultDepth ≤ Json.maxDepth - 1 := Nat.zero_le _
  rw [resolve_written (.failure f) absent stderr short, if_pos flat]
  rfl

/-- A value that a text can say goes to a worker and comes back unchanged, and so does its code, unless it
nests as deeply as the reader allows: the document around it takes up a level. -/
theorem boundary_keeps (v : Json) (accepted : ∃ text, Json.read text = .ok v)
    (readBack : ∀ x, Json.HasFloat x v → Json.ReadsBack x) :
    (∀ (c : SandboxConfig) (code : String) (bytes : Bytes), request c code v = .ok bytes →
      Wire.Request.decode bytes =
        if v.depth ≤ 126 then .ok (.transform code v) else .error .recursionLimit) ∧
    (∀ (limits : WorkerLimits) (input : Worker.Input) (clock : Script.Session.Clock) (stderr : Bytes) (maxStdout : Nat),
      Worker.handle limits input clock = .ok v → (Worker.serve limits input none clock).bytes.length ≤ maxStdout →
      resolve (.ok (Worker.serve limits input none clock).bytes) stderr (.code 0) maxStdout =
        if v.depth ≤ 126 then .ok v
        else .error (responseFault .recursionLimit (Text.trim (Text.lossy stderr)))) := by
  obtain ⟨text, read⟩ := accepted
  have taken := Json.taken_of_regular (Json.regular_of_read read) readBack (Json.maxDepth - 1)
  constructor
  · intro c code bytes sent
    exact decode_request taken sent
  · intro limits input clock stderr maxStdout handled short
    rw [Worker.serve_handled handled] at short ⊢
    exact resolve_success taken stderr short

-- What stands in 126 lists arrives. In one list more it does not, though it is read alone.
theorem boundary_keeps_edge :
    let v := (Json.float 1.5).wrapped
    let sent (n : Nat) := Text.bytesOf (Wire.Request.transform "x" (v n)).encode
    Json.readText (v 127).render = .ok (v 127) ∧
      Wire.Request.decode (sent 126) = .ok (.transform "x" (v 126)) ∧
      Wire.Request.decode (sent 127) = .error .recursionLimit := by
  intro v sent
  have half : Json.ReadsBack 1.5 := by decide +kernel
  have readBack : ∀ n x, Json.HasFloat x (v n) → Json.ReadsBack x := by
    intro n x has
    rw [Json.wrapped_hasFloat has]
    exact half
  have depth : ∀ n, (v n).depth = 0 + n := Json.wrapped_depth (.float 1.5)
  have accepted : ∀ n, n ≤ 127 → Json.readText (v n).render = .ok (v n) := by
    intro n shallow
    rw [Json.read_written (Json.wrapped_regular (.float 1.5) n) (readBack n), depth, if_pos]
    rw [Json.maxDepth]
    omega
  have kept : request .standard "x" (v 126) = .ok (sent 126) := if_neg (by decide +kernel)
  have lost : request .standard "x" (v 127) = .ok (sent 127) := if_neg (by decide +kernel)
  have arrives := (boundary_keeps (v 126) ⟨_, accepted 126 (by decide)⟩ (readBack 126)).1 _ _ _ kept
  have refused := (boundary_keeps (v 127) ⟨_, accepted 127 (by decide)⟩ (readBack 127)).1 _ _ _ lost
  rw [depth, if_pos (by decide)] at arrives
  rw [depth, if_neg (by decide)] at refused
  exact ⟨accepted 127 (by decide), arrives, refused⟩

/-- A caller is handed a failure of the class that the worker met and with its text, whatever stands beside
the report; the class of a placeholder's failure is that of what failed below all placeholders. -/
theorem resolve_reports (f : Fault) (stderr : Bytes) (maxStdout : Nat)
    (short : (Text.bytesOf (Wire.Response.failure f).encode).length ≤ maxStdout) :
    ∃ g, resolve (.ok (Text.bytesOf (Wire.Response.failure f).encode)) stderr (.code 0) maxStdout = .error g ∧
      (∃ kind message, g = .worker kind message) ∧ g.kind = f.kind ∧ g.isTimeout = f.isTimeout ∧
      g.message = (if Text.isBlankText f.message then "unknown sandbox error" else f.message) ∧
      g.kind = f.root.kind ∧ ∀ expression cause, f.root ≠ .template expression cause := by
  refine ⟨reported f, resolve_failure f stderr short, ⟨_, _, rfl⟩, rfl, rfl, rfl, ?_, ?_⟩
  · exact (Fault.root_kind f).symm
  · exact Fault.root_ne_template f

theorem resolve_reports_nested :
    let f := Fault.template "a\n" (.template "b" (.timeout "\t"))
    let written := Text.bytesOf (Wire.Response.failure f).encode
    written.length ≤ 100 ∧
      resolve (.ok written) [0xff] (.code 0) 100 =
        .error (.worker .timeout "eval \"a\\n\": eval \"b\": Timed out: \t") := by
  intro f written
  have short : written.length ≤ 100 := by decide +kernel
  have message : f.message = "eval \"a\\n\": eval \"b\": Timed out: \t" := by decide
  obtain ⟨g, resolved, ⟨kind, text, rfl⟩, same, -, told, -⟩ := resolve_reports f [0xff] 100 short
  rw [message] at told
  obtain rfl : kind = .timeout := same
  obtain rfl : text = "eval \"a\\n\": eval \"b\": Timed out: \t" := told
  exact ⟨short, resolved⟩

end Supervisor
end BoundedScript
