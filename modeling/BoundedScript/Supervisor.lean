import BoundedScript.Config.Validation
import BoundedScript.Json.Decode
import BoundedScript.Worker

set_option autoImplicit false

namespace BoundedScript

open Text (Bytes)

inductive ExitStatus where
  | code (n : Nat)
  | signal (n : Nat) (dumped : Bool := false)
  deriving DecidableEq

namespace ExitStatus

def signalNames : List (Nat × String) :=
  [(1, "SIGHUP"), (2, "SIGINT"), (3, "SIGQUIT"), (4, "SIGILL"), (5, "SIGTRAP"), (6, "SIGABRT"),
   (7, "SIGBUS"), (8, "SIGFPE"), (9, "SIGKILL"), (10, "SIGUSR1"), (11, "SIGSEGV"), (12, "SIGUSR2"),
   (13, "SIGPIPE"), (14, "SIGALRM"), (15, "SIGTERM"), (16, "SIGSTKFLT"), (17, "SIGCHLD"),
   (18, "SIGCONT"), (19, "SIGSTOP"), (20, "SIGTSTP"), (21, "SIGTTIN"), (22, "SIGTTOU"),
   (23, "SIGURG"), (24, "SIGXCPU"), (25, "SIGXFSZ"), (26, "SIGVTALRM"), (27, "SIGPROF"),
   (28, "SIGWINCH"), (29, "SIGIO"), (30, "SIGPWR"), (31, "SIGSYS")]

def signalName (n : Nat) : String :=
  match signalNames.find? (·.1 == n) with
  | some (_, name) => " (" ++ name ++ ")"
  | none => ""

def isSuccess (s : ExitStatus) : Bool :=
  s == .code 0

def text : ExitStatus → String
  | .code n => "exit status: " ++ toString n
  | .signal n dumped =>
    "signal: " ++ toString n ++ signalName n ++ (if dumped then " (core dumped)" else "")

end ExitStatus

inductive Pipe where
  | closed
  | broken (text : String)
  | piece (bytes : Bytes) (rest : Pipe)

namespace Pipe

def ofBytes (bytes : Bytes) : Pipe :=
  .piece bytes .closed

/-- Keeps the first `cap` bytes and passes the others, so that a writer is never held up; a failure behind
the bytes that are kept is met all the same. -/
def readCapped (cap : Nat) : Pipe → Except String Bytes
  | .closed => .ok []
  | .broken text => .error text
  | .piece bytes rest => (rest.readCapped (cap - bytes.length)).map (bytes.take cap ++ ·)

end Pipe

/-- What became of a worker that was started: what it wrote, and how it ended, or why that is unknown; no
status for one that was still there at the deadline, or had left a pipe open. -/
structure WorkerEnd where
  stdout : Pipe
  stderr : Pipe
  status : Option (Except String ExitStatus)

namespace WorkerEnd

def hung : WorkerEnd :=
  ⟨.closed, .closed, none⟩

def ended (stdout : Except String Bytes) (stderr : Bytes) (status : ExitStatus) : WorkerEnd :=
  let stdout := match stdout with
    | .ok bytes => .ofBytes bytes
    | .error text => .broken text
  ⟨stdout, .ofBytes stderr, some (.ok status)⟩

end WorkerEnd

structure Launch where
  program : Option String
  arguments : List String
  environment : Environment
  request : Bytes

abbrev Launcher (m : Type → Type) := Launch → m (Except String WorkerEnd)

structure Supervisor where
  config : SandboxConfig
  program : Option String

namespace Supervisor

def new (config : SandboxConfig) : Except Fault Supervisor := do
  (config.validate .none).ensureValid
  return ⟨config, config.workerPath⟩

def withProgram (s : Supervisor) (path : String) : Supervisor :=
  { s with program := some path }

def request (c : SandboxConfig) (code : String) (payload : Json) : Except Fault Bytes :=
  let bytes := Text.bytesOf (Wire.Request.transform code payload).encode
  if c.worker.maxRequest.toNat < bytes.length then .error (.requestTooLarge c.worker.maxRequest.toNat)
  else .ok bytes

def launch (s : Supervisor) (request : Bytes) : Launch :=
  ⟨s.program, [Worker.marker], s.config.worker.toEnv, request⟩

def responseFault (e : Json.ReadError) (stderr : String) : Fault :=
  .protocol ("invalid worker response: " ++ e.message ++
    (if stderr.isEmpty then "" else " (stderr: " ++ stderr ++ ")"))

def workerMessage (r : Wire.Response) : String :=
  match r.error with
  | some e => if Text.isBlankText e then "unknown sandbox error" else e
  | none => "unknown sandbox error"

def outcome (r : Wire.Response) : Except Fault Json :=
  if !r.ok then .error (.worker (r.kind.getD .runtimeFault) (workerMessage r))
  else match r.result with
    | some v => .ok v
    | none => .error .emptyResult

/-- What a worker that ended left behind: `stdout` holds at most one byte more than `maxStdout`. -/
def resolve (stdout : Except String Bytes) (stderr : Bytes) (status : ExitStatus) (maxStdout : Nat) :
    Except Fault Json :=
  match stdout with
  | .error text => .error (.io text)
  | .ok stdout =>
    if maxStdout < stdout.length then .error (.outputTooLarge maxStdout)
    else
      let stderr := Text.trim (Text.lossy stderr)
      if !status.isSuccess then
        .error (.processFailure (if stderr.isEmpty then "worker exited with " ++ status.text else stderr))
      else match Wire.Response.decode stdout with
        | .error e => .error (responseFault e stderr)
        | .ok r => outcome r

def orNothing : Except String Bytes → Bytes
  | .ok bytes => bytes
  | .error _ => []

def conclude (c : SandboxConfig) (e : WorkerEnd) : Except Fault Json :=
  match e.status with
  | none => .error (.timeout ("sandbox worker killed after " ++ c.timeout.brief))
  | some (.error text) => .error (.processFailure ("failed to wait for worker: " ++ text))
  | some (.ok status) =>
    let stdout := e.stdout.readCapped (askedFor c.maxStdout)
    let stderr := orNothing (e.stderr.readCapped c.maxStderr.toNat)
    resolve stdout stderr status c.maxStdout.toNat

def startFault (s : Supervisor) (text : String) : Fault :=
  .processFailure ("failed to start worker " ++ s.program.getD "" ++ ": " ++ text)

def runTransform {m : Type → Type} [Monad m] (launcher : Launcher m) (s : Supervisor) (code : String)
    (payload : Json) : m (Except Fault Json) := do
  match request s.config code payload with
  | .error f => return .error f
  | .ok bytes =>
    match ← launcher (s.launch bytes) with
    | .error text => return .error (s.startFault text)
    | .ok e => return conclude s.config e

def decodeResult {α : Type} (d : Json.Decoder α) (v : Json) : Except Fault α :=
  match d v with
  | .ok a => .ok a
  | .error e => .error (.json e.message)

-- A worker that runs in the calling program, with nothing but the environment it is handed.
def insideWorker (l : Launch) : WorkerEnd :=
  .ended (.ok (Worker.serve (.ofEnv l.environment) ⟨l.request, none⟩ none).bytes) [] (.code 0)

end Supervisor
end BoundedScript
