import BoundedScript.Expression

set_option autoImplicit false

namespace BoundedScript

inductive FaultKind where
  | validation | timeout | runtimeFault | noValue | resultNotJson | resultTooLarge | requestTooLarge
  | outputTooLarge | processFailure | protocol | emptyResult | config
  deriving DecidableEq

namespace FaultKind

def all : List FaultKind :=
  [.validation, .timeout, .runtimeFault, .noValue, .resultNotJson, .resultTooLarge, .requestTooLarge,
   .outputTooLarge, .processFailure, .protocol, .emptyResult, .config]

def name : FaultKind → String
  | .validation => "validation"
  | .timeout => "timeout"
  | .runtimeFault => "runtime_fault"
  | .noValue => "no_value"
  | .resultNotJson => "result_not_json"
  | .resultTooLarge => "result_too_large"
  | .requestTooLarge => "request_too_large"
  | .outputTooLarge => "output_too_large"
  | .processFailure => "process_failure"
  | .protocol => "protocol"
  | .emptyResult => "empty_result"
  | .config => "config"

def names : List String :=
  all.map name

def ofName? (s : String) : Option FaultKind :=
  all.find? (·.name == s)

end FaultKind

inductive Fault where
  | rejected (reason : Rejection)
  | invalidIdentifier (name : String)
  | timeout (text : String)
  | runtimeFault (text : String)
  | noValue
  | resultNotJson (text : String)
  | resultTooLarge (size limit : Nat)
  | requestTooLarge (limit : Nat)
  | outputTooLarge (limit : Nat)
  | processFailure (text : String)
  | protocol (text : String)
  | emptyResult
  | worker (kind : FaultKind) (message : String)
  | template (expression : String) (cause : Fault)
  | invalidInput (text : String)
  | config (text : String)
  | json (text : String)
  | io (text : String)
  deriving DecidableEq

namespace Fault

def kind : Fault → FaultKind
  | .rejected _ | .invalidIdentifier _ | .invalidInput _ => .validation
  | .timeout _ => .timeout
  | .runtimeFault _ => .runtimeFault
  | .noValue => .noValue
  | .resultNotJson _ => .resultNotJson
  | .resultTooLarge _ _ => .resultTooLarge
  | .requestTooLarge _ => .requestTooLarge
  | .outputTooLarge _ => .outputTooLarge
  | .processFailure _ | .io _ => .processFailure
  | .protocol _ | .json _ => .protocol
  | .emptyResult => .emptyResult
  | .worker kind _ => kind
  | .template _ cause => cause.kind
  | .config _ => .config

-- Whether a deadline caused the failure, here or in a worker.
def isTimeout (f : Fault) : Bool :=
  f.kind == .timeout

def message : Fault → String
  | .rejected reason => "Rejected expression: " ++ reason.message
  | .invalidIdentifier name => "Invalid binding name: " ++ Text.quoted name
  | .timeout text => "Timed out: " ++ text
  | .runtimeFault text => "Script error: " ++ text
  | .noValue => "Script produced no value"
  | .resultNotJson text => "Result is not JSON: " ++ text
  | .resultTooLarge size limit =>
    "Result too large: " ++ toString size ++ " bytes exceeds limit of " ++ toString limit
  | .requestTooLarge limit => "Request too large: exceeds limit of " ++ toString limit ++ " bytes"
  | .outputTooLarge limit => "Sandbox output exceeded limit (" ++ toString limit ++ " bytes)"
  | .processFailure text => "Sandbox worker failed: " ++ text
  | .protocol text => "Sandbox protocol error: " ++ text
  | .emptyResult => "Sandbox returned empty result"
  | .worker _ message => message
  | .template expression cause => "eval " ++ Text.quoted expression ++ ": " ++ cause.message
  | .invalidInput text => "Invalid input: " ++ text
  | .config text => "Configuration error: " ++ text
  | .json text => "JSON error: " ++ text
  | .io text => "I/O error: " ++ text

end Fault
end BoundedScript
