import BoundedScript.Config.Environment
import BoundedScript.Script.Session
import BoundedScript.Wire

set_option autoImplicit false

namespace BoundedScript

-- One byte more than a cap is asked for, to tell that there was more; the sum is a machine word.
def askedFor (cap : UInt64) : Nat :=
  (cap + 1).toNat

namespace Worker

open Script
open Text (Bytes)

def marker : String := "js-sandbox"

def isInvocation (args : List String) : Bool :=
  args[1]? == some marker

structure Input where
  bytes : Bytes
  failure : Option String := none

def withinCap (cap : UInt64) (raw : Bytes) : Except Fault Bytes :=
  if raw.length ≤ cap.toNat then .ok raw else .error (.requestTooLarge cap.toNat)

-- A failure behind the bytes that are asked for is never met.
def readAtMost (cap : UInt64) (input : Input) : Except Fault Bytes :=
  let raw := input.bytes.take (askedFor cap)
  match input.failure with
  | some text => if raw.length < askedFor cap then .error (.io text) else withinCap cap raw
  | none => withinCap cap raw

def accept (limits : WorkerLimits) (r : Wire.Request) : Except Fault Wire.Request :=
  if r.kind != .transform then .error (.invalidInput "unsupported kind")
  else if Text.isBlankText r.code then .error (.invalidInput "missing code")
  else if limits.maxCode.toNat < r.code.utf8ByteSize then .error (.requestTooLarge limits.maxCode.toNat)
  else .ok r

def readRequest (limits : WorkerLimits) (input : Input) : Except Fault Wire.Request := do
  let raw ← readAtMost limits.maxRequest input
  match Wire.Request.decode raw with
  | .error e => .error (.protocol ("invalid request json: " ++ e.message))
  | .ok r => accept limits r

/-- The code stands between brackets, on lines of its own so that a comment at its end does no harm. -/
def source (code : String) : String :=
  "(\n" ++ code ++ "\n)"

-- The text of what a transform returned; nobody can replace the writer.
def resultText (v : Value) : Run (Except Fault String) := do
  match ← Session.guarded (JsonObject.stringify Engine.full v .undefined .undefined) with
  | .error text => return .error (.resultNotJson text)
  | .ok none => return .error (.resultNotJson "value has no JSON representation")
  | .ok (some u) =>
    match u.toText with
    | .ok s => return .ok s
    | .error i =>
      return .error (.resultNotJson
        ("Conversion from string failed: invalid utf-8 sequence of 1 bytes from index " ++ toString i))

def task (code : String) (payload : Json) : Run (Except Fault String) := do
  match ← Session.outcome (source code) with
  | .error text => return .error (.runtimeFault text)
  | .ok f =>
    if !(← isCallable f) then return .error (.runtimeFault "transform is not a function")
    match ← Session.guarded (do Engine.full.call f .undefined #[← JsonObject.ofJson payload]) with
    | .error text => return .error (.runtimeFault text)
    | .ok v => if v.isUndefined then return .error .noValue else resultText v

def ownDeadline (limits : WorkerLimits) : Fault → Fault
  | .timeout _ => .timeout ("transform exceeded " ++ limits.timeout.brief)
  | f => f

def checkSize (limits : WorkerLimits) (text : String) : Except Fault String :=
  if limits.maxResult.toNat < text.utf8ByteSize then
    .error (.resultTooLarge text.utf8ByteSize limits.maxResult.toNat)
  else .ok text

def readResult (text : String) : Except Fault Json :=
  match Json.readText text with
  | .ok v => .ok v
  | .error e => .error (.resultNotJson e.message)

def transform (limits : WorkerLimits) (code : String) (payload : Json)
    (clock : Session.Clock := Session.stepsFor) : Except Fault Json := do
  let text ← Session.run ⟨limits.timeout, limits.heapLimit.toNat⟩ (task code payload) clock
  readResult (← checkSize limits text)

def handle (limits : WorkerLimits) (input : Input) (clock : Session.Clock := Session.stepsFor) :
    Except Fault Json := do
  let r ← readRequest limits input
  match transform limits r.code r.payload clock with
  | .ok v => .ok v
  | .error f => .error (ownDeadline limits f)

def respond (limits : WorkerLimits) (input : Input) (clock : Session.Clock := Session.stepsFor) :
    Wire.Response :=
  match handle limits input clock with
  | .ok v => .success v
  | .error f => .failure f

structure Written where
  bytes : Bytes
  failure : Option Fault

-- Writes to an output that takes `room` bytes; none for one that takes all.
def write (room : Option Nat) (bytes : Bytes) : Written :=
  match room with
  | none => ⟨bytes, none⟩
  | some n =>
    if bytes.length ≤ n then ⟨bytes, none⟩
    else ⟨bytes.take n, some (.io "failed to write whole buffer")⟩

def serve (limits : WorkerLimits) (input : Input) (room : Option Nat)
    (clock : Session.Clock := Session.stepsFor) : Written :=
  write room (Text.bytesOf (respond limits input clock).encode)

end Worker
end BoundedScript
