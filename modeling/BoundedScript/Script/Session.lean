import BoundedScript.Duration
import BoundedScript.Fault
import BoundedScript.Script.Program
import BoundedScript.Script.World

set_option autoImplicit false

namespace BoundedScript.Script

open Run

structure Limits where
  deadline : Duration
  heap : Nat

namespace Session

def stepsPerMilli : Nat := 20000

-- Steps that are taken before anybody looks at the clock.
def leastSteps : Nat := 10000

def mostSteps : Nat := 8000000

def stepsFor (deadline : Duration) : Nat :=
  max leastSteps (min (deadline.millis * stepsPerMilli) mostSteps)

def floatText (x : Float) : String :=
  if x.isNaN then "NaN"
  else if x.isInf then (if x < 0.0 then "-inf" else "inf")
  else String.ofList ((Double.render .json x).toList.filter (· != '+'))

def isSmall (n : Int) : Bool :=
  -0x8000_0000 ≤ n && n < 0x8000_0000

def numberText (x : Float) : String :=
  match Double.toInt? x with
  | some n =>
    if isSmall n && !(n == 0 && Double.isNegative x) then "Int(" ++ toString n ++ ")"
    else "Float(" ++ floatText x ++ ")"
  | none => "Float(" ++ floatText x ++ ")"

def placeText (a : Nat) : String :=
  "(0x" ++ String.ofList (Text.hex a) ++ ")"

def valueText (v : Value) : Run String := do
  match v with
  | .undefined => return "Undefined\"undefined\""
  | .null => return "Null\"null\""
  | .bool b => return "Bool(" ++ toString b ++ ")"
  | .number x => return numberText x
  | .bigint _ => return "BigInt\"BigInt\""
  | .string u =>
    match u.toText with
    | .ok s => return "String(Ok(" ++ Text.quoted s ++ "))"
    | .error i => return "String(Err(Utf8(Utf8Error \x7b valid_up_to: " ++ toString i ++ ", error_len: Some(1) \x7d)))"
  | .symbol id => return "Symbol" ++ placeText id
  | .object a =>
    let kind ← match ← kindOf a with
      | .array _ _ _ => pure "Array"
      | .promise => pure "Promise"
      | _ =>
        if ← isConstructor v then pure "Constructor"
        else if ← isCallable v then pure "Function"
        else pure "Object"
    return kind ++ placeText a

def errorPart (a : Addr) (k : PropKey) : Run (Option String) := do
  match ← attempt do
      let v ← getOf Engine.full a k
      if v.isNullish then return none
      return some (← toUnits Engine.full v) with
  | .ok u => return u.map Units.toTextLossy
  | .error .interrupted => throw .interrupted
  | .error _ => return none

def thrownText (v : Value) : Run String := do
  match v with
  | .object a =>
    match ← kindOf a with
    | .error =>
      let message ← errorPart a messageKey
      let stack ← errorPart a stackKey
      return "Error:" ++ (message.map (" " ++ ·)).getD "" ++ (stack.map ("\n" ++ ·)).getD ""
    | _ => return "Exception generated by quickjs: " ++ (← valueText v)
  | v => return "Exception generated by quickjs: " ++ (← valueText v)

def guarded {α : Type} (x : Run α) : Run (Except String α) := do
  match ← attempt x with
  | .ok a => return .ok a
  | .error (.thrown v) => return .error (← thrownText v)
  | .error e => throw e

def evaluate (source : String) : Run Value := do
  match parse source with
  | some p => runProgram Engine.full p
  | none => syntaxError "unexpected token"

-- A text is handed over with a zero behind it, so none may stand in it.
def zeroIn? (source : String) : Option String :=
  if source.toList.contains '\x00' then
    some ("String contained internal null bytes: nul byte found in provided data at position: " ++
      toString (String.ofList (source.toList.takeWhile (· != '\x00'))).utf8ByteSize)
  else none

def outcome (source : String) : Run (Except String Value) :=
  match zeroIn? source with
  | some text => return .error text
  | none => guarded (evaluate source)

/-- How many steps are taken before a deadline passes. -/
abbrev Clock := Duration → Nat

def inRoom {α : Type} (task : Run (Except Fault α)) : Run (Except Fault α) := fun s =>
  if s.heapLimit != 0 && s.heapLimit < heapFloor then
    .ok (.error (.runtimeFault "interpreter error: Allocation failed while creating object")) s
  else task s

def ended {α : Type} (limits : Limits) (task : Run (Except Fault α)) (clock : Clock := stepsFor) :
    EStateM.Result Abrupt Realm (Except Fault α) :=
  inRoom task { World.fresh with steps := clock limits.deadline, heapLimit := limits.heap }

def isLate {α : Type} : EStateM.Result Abrupt Realm α → Bool
  | .ok _ s | .error _ s => s.steps == 0

def late (limits : Limits) : Fault :=
  .timeout ("script exceeded " ++ limits.deadline.brief)

def told {α : Type} : EStateM.Result Abrupt Realm (Except Fault α) → Except Fault α
  | .ok r _ => r
  | .error _ _ => .error (.runtimeFault "interpreter error: Exception generated by quickjs")

/-- What an end stands for once nobody watches the time any more. A value is handed over however late it is;
any failure after the deadline is the deadline's. -/
def settle {α : Type} (limits : Limits) (r : EStateM.Result Abrupt Realm (Except Fault α)) : Except Fault α :=
  match told r with
  | .ok a => .ok a
  | .error f => if isLate r then .error (late limits) else .error f

section Settled

variable {α : Type} {limits : Limits} {r : EStateM.Result Abrupt Realm (Except Fault α)}

theorem settle_eq_ok {a : α} : settle limits r = .ok a ↔ told r = .ok a := by
  rw [settle]
  cases told r with
  | ok b => rfl
  | error f => cases isLate r <;> simp

theorem settle_of_failed {f : Fault} (failed : told r = .error f) :
    settle limits r = .error (if isLate r then late limits else f) := by
  rw [settle, failed]
  cases isLate r <;> rfl

end Settled

def run {α : Type} (limits : Limits) (task : Run (Except Fault α)) (clock : Clock := stepsFor) :
    Except Fault α :=
  settle limits (ended limits task clock)

end Session
end BoundedScript.Script
