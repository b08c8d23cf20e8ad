import BoundedScript.Fault
import BoundedScript.Json.Reader
import BoundedScript.Json.Record
import BoundedScript.Json.Writer

set_option autoImplicit false

namespace BoundedScript.Wire

open Json.Reading

-- The kind of work that a request asks for; everything a worker does not know is one kind.
inductive RequestKind where
  | transform
  | unsupported
  deriving DecidableEq

def RequestKind.name : RequestKind → String
  | .transform => "transform"
  | .unsupported => "unsupported"

def RequestKind.ofName (s : String) : RequestKind :=
  if s == "transform" then .transform else .unsupported

structure Request where
  kind : RequestKind
  code : String
  payload : Json

structure Response where
  ok : Bool
  error : Option String
  kind : Option FaultKind
  result : Option Json

namespace Request

def transform (code : String) (payload : Json) : Request :=
  ⟨.transform, code, payload⟩

def encode (r : Request) : String :=
  Json.render (.object [("kind", .string r.kind.name), ("code", .string r.code), ("payload", r.payload)])

def listText : String := "struct TransformRequest with 3 elements"

def kindReading : Json.Reading RequestKind :=
  choice fun s => .ok (.ofName s)

-- Inside the record, one level of nesting is used up.
def payloadReading : Json.Reading Json :=
  Json.value (Json.maxDepth - 1)

structure Partial where
  kind : Option RequestKind
  code : Option String
  payload : Option Json

def field (name : String) (p : Partial) : Json.Reading Partial := do
  if name == "kind" then return { p with kind := ← once name p.kind kindReading }
  else if name == "code" then return { p with code := ← once name p.code (string "a string") }
  else if name == "payload" then return { p with payload := ← once name p.payload payloadReading }
  else do colon; skip; return p

def ofObject : Json.Reading Request := do
  let p ← eachField field true ⟨none, none, none⟩ (← fuel)
  match p.kind with
  | none => throw (.missingField "kind")
  | some kind => return ⟨kind, p.code.getD "", p.payload.getD .null⟩

def ofList : Json.Reading Request := do
  match ← item true kindReading with
  | none => throw (.invalidLength 0 listText)
  | some kind => do
    let code ← item false (string "a string")
    let payload ← item false payloadReading
    return ⟨kind, code.getD "", payload.getD .null⟩

def decode (bytes : Text.Bytes) : Except Json.ReadError Request :=
  (record "TransformRequest" ofObject ofList).run bytes

end Request

namespace Response

def success (result : Json) : Response :=
  ⟨true, none, none, some result⟩

def failure (f : Fault) : Response :=
  ⟨false, some f.message, some f.kind, none⟩

def optional (name : String) : Option Json → List (String × Json)
  | some v => [(name, v)]
  | none => []

def encode (r : Response) : String :=
  Json.render (.object
    (("ok", .bool r.ok) :: optional "error" (r.error.map .string) ++
      optional "kind" (r.kind.map fun k => .string k.name) ++ optional "result" r.result))

def listText : String := "struct TransformResponse with 4 elements"

def kindOfName (s : String) : Except Json.ReadError FaultKind :=
  match FaultKind.ofName? s with
  | some k => .ok k
  | none => .error (.unknownVariant s FaultKind.names)

def errorReading : Json.Reading (Option String) :=
  nullable (string "a string")

def kindReading : Json.Reading (Option FaultKind) :=
  nullable (choice kindOfName)

def resultReading : Json.Reading Json :=
  Json.value (Json.maxDepth - 1)

structure Partial where
  ok : Option Bool
  error : Option (Option String)
  kind : Option (Option FaultKind)
  result : Option Json

def field (name : String) (p : Partial) : Json.Reading Partial := do
  if name == "ok" then return { p with ok := ← once name p.ok bool }
  else if name == "error" then return { p with error := ← once name p.error errorReading }
  else if name == "kind" then return { p with kind := ← once name p.kind kindReading }
  else if name == "result" then return { p with result := ← once name p.result resultReading }
  else do colon; skip; return p

def ofObject : Json.Reading Response := do
  let p ← eachField field true ⟨none, none, none, none⟩ (← fuel)
  match p.ok with
  | none => throw (.missingField "ok")
  | some ok => return ⟨ok, p.error.join, p.kind.join, p.result⟩

def ofList : Json.Reading Response := do
  match ← item true bool with
  | none => throw (.invalidLength 0 listText)
  | some ok => do
    let error ← item false errorReading
    let kind ← item false kindReading
    let result ← item false resultReading
    return ⟨ok, error.join, kind.join, result⟩

def decode (bytes : Text.Bytes) : Except Json.ReadError Response :=
  (record "TransformResponse" ofObject ofList).run bytes

end Response
end BoundedScript.Wire
