import BoundedScript.Proofs.Deadlines
import BoundedScript.Proofs.Json.Sizes
import BoundedScript.Proofs.Validation

set_option autoImplicit false

namespace BoundedScript

open Script
open Text (Bytes bytesOf)

def Fault.isOversize (f : Fault) : Bool :=
  f.kind == .requestTooLarge || f.kind == .resultTooLarge

namespace Wire.Response

end Wire.Response

section Tightening

variable {α β : Type}

inductive Narrows : Except Fault α → Except Fault α → Prop where
  | same (x : Except Fault α) : Narrows x x
  | refused {x : Except Fault α} {f : Fault} (oversize : f.isOversize = true) : Narrows x (.error f)

theorem Narrows.bind {x y : Except Fault α} {k l : α → Except Fault β} (first : Narrows x y)
    (later : ∀ a, Narrows (k a) (l a)) : Narrows (x >>= k) (y >>= l) := by
  cases first with
  | same =>
    cases x with
    | error f => exact .same _
    | ok a => exact later a
  | refused oversize => exact .refused oversize

end Tightening

namespace Worker

section Stages

variable {wide tight : WorkerLimits} {one other : Session.Clock}

end Stages

def Refuses (document : Bytes) : Prop :=
  ∃ f : Fault, f.isOversize = true ∧ document = bytesOf (Wire.Response.failure f).encode

end Worker

namespace Wire.Request

open Json.Reading

end Wire.Request

namespace Worker

variable {limits : WorkerLimits} {code : String} {payload : Json} {clock : Session.Clock}

end Worker

namespace Supervisor

end Supervisor
end BoundedScript
