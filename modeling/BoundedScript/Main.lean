import BoundedScript.CommandLine.Program

set_option autoImplicit false

open BoundedScript

def variableNames : List String :=
  ["JSFENCE_CONFIG", "JSFENCE_CONFIG_DIR", "XDG_CONFIG_HOME", "HOME", "RUST_LOG",
   Config.evaluatorTimeoutName, Config.sandboxTimeoutName, Config.workerPathName, Config.maxStdoutName,
   WorkerLimits.timeoutName, WorkerLimits.maxRequestName, WorkerLimits.maxCodeName,
   WorkerLimits.maxResultName, WorkerLimits.heapLimitName, WorkerLimits.cpuSecondsName,
   WorkerLimits.memoryLimitName]

def processEnvironment : IO Environment := do
  let values ← variableNames.mapM fun n => return (n, ← IO.getEnv n)
  return values.filterMap fun (n, v) => v.map (n, ·)

def fileFault : IO.Error → FileFault
  | .noFileOrDirectory .. => .notFound
  | .permissionDenied .. => .denied
  | .inappropriateType .. => .isDirectory
  | _ => .notFound

def readBytes (path : String) : IO (Except FileFault Text.Bytes) := do
  try
    return .ok (← IO.FS.readBinFile path).toList
  catch e => return .error (fileFault e)

partial def readAll (stream : IO.FS.Stream) (read : ByteArray) : IO Text.Bytes := do
  let chunk ← stream.read 65536
  if chunk.isEmpty then return read.toList else readAll stream (read ++ chunk)

-- Workers run inside the program; another one cannot be started from here.
def launchHere : Launcher IO := fun l =>
  return match l.program with
    | some _ => .error FileFault.notFound.message
    | none => .ok (Supervisor.insideWorker l)

def main (args : List String) : IO UInt32 := do
  let host : CommandLine.Host IO :=
    ⟨← processEnvironment, readBytes, do readAll (← IO.getStdin) .empty, launchHere⟩
  let outcome ← CommandLine.run host args
  let out ← IO.getStdout
  out.write outcome.output.toByteArray
  out.flush
  for issue in outcome.issues do
    IO.eprintln issue
  match outcome.fault with
  | some text => IO.eprintln ("ERROR " ++ CommandLine.name ++ ": " ++ text)
  | none => pure ()
  return outcome.exitCode.toUInt32
