import Mathlib
import BoundedScript.Proofs.WorkerAnswers
import BoundedScript.Supervisor

set_option autoImplicit false

namespace BoundedScript

open Text (Bytes)

namespace Text

theorem trimList_eq_nil (cs : List Char) : trimList cs = [] ↔ cs.all isBlank = true := by
  have front : cs.dropWhile isBlank = [] ↔ cs.all isBlank = true := by
    rw [List.dropWhile_eq_nil_iff, List.all_eq_true]
  rw [trimList, List.reverse_eq_nil_iff, List.dropWhile_eq_nil_iff, ← front]
  constructor
  · intro blank
    by_contra visible
    have first := List.head_dropWhile_not isBlank visible
    rw [blank _ (List.mem_reverse.mpr (List.head_mem visible))] at first
    cases first
  · intro none c inside
    rw [none] at inside
    cases inside

theorem trim_eq_empty (s : String) : trim s = "" ↔ isBlankText s = true := by
  rw [isBlankText, ← trimList_eq_nil, trim, String.ofList_eq_empty_iff]

end Text

namespace Pipe

def bytes : Pipe → Bytes
  | .closed | .broken _ => []
  | .piece bytes rest => bytes ++ rest.bytes

def failure? : Pipe → Option String
  | .closed => none
  | .broken text => some text
  | .piece _ rest => rest.failure?

theorem readCapped_of_failure {p : Pipe} {text : String} (failure : p.failure? = some text) (cap : Nat) :
    p.readCapped cap = .error text := by
  induction p generalizing cap with
  | closed => cases failure
  | broken other => rw [readCapped, Option.some.inj failure]
  | piece bytes rest ih => rw [readCapped, ih failure, Except.map]

theorem readCapped_of_whole {p : Pipe} (whole : p.failure? = none) (cap : Nat) :
    p.readCapped cap = .ok (p.bytes.take cap) := by
  induction p generalizing cap with
  | closed => rw [readCapped, Pipe.bytes, List.take_nil]
  | broken text => cases whole
  | piece bytes rest ih => rw [readCapped, ih whole, Except.map, Pipe.bytes, List.take_append]

end Pipe

namespace Supervisor

def diagnostics (c : SandboxConfig) (w : WorkerEnd) : String :=
  match w.stderr.failure? with
  | some _ => ""
  | none => Text.trim (Text.lossy (w.stderr.bytes.take c.maxStderr.toNat))

structure Drained (w : WorkerEnd) (status : ExitStatus) : Prop where
  ended : w.status = some (.ok status)
  whole : w.stdout.failure? = none

structure Read (c : SandboxConfig) (w : WorkerEnd) (status : ExitStatus) : Prop extends Drained w status where
  countable : Countable c.maxStdout
  short : w.stdout.bytes.length ≤ c.maxStdout.toNat

structure Overfull (c : SandboxConfig) (w : WorkerEnd) : Prop where
  countable : Countable c.maxStdout
  long : c.maxStdout.toNat < w.stdout.bytes.length

structure Answered (c : SandboxConfig) (w : WorkerEnd) (response : Wire.Response) : Prop
    extends Read c w (.code 0) where
  decoded : Wire.Response.decode w.stdout.bytes = .ok response

/-- The results of workers, the classes in the order in which they go before one another. Under the greatest cap
nothing of the output is kept. -/
inductive Concludes (c : SandboxConfig) (w : WorkerEnd) : Except Fault Json → Prop where
  | hung (late : w.status = none) :
      Concludes c w (.error (.timeout ("sandbox worker killed after " ++ c.timeout.brief)))
  | lost {text : String} (unknown : w.status = some (.error text)) :
      Concludes c w (.error (.processFailure ("failed to wait for worker: " ++ text)))
  | unreadable {status : ExitStatus} {text : String} (ended : w.status = some (.ok status))
      (failure : w.stdout.failure? = some text) :
      Concludes c w (.error (.io text))
  | tooLarge {status : ExitStatus} (drained : Drained w status) (overfull : Overfull c w) :
      Concludes c w (.error (.outputTooLarge c.maxStdout.toNat))
  | failed {status : ExitStatus} (drained : Drained w status) (fits : ¬ Overfull c w) (bad : status ≠ .code 0)
      (told : diagnostics c w ≠ "") :
      Concludes c w (.error (.processFailure (diagnostics c w)))
  | failedSilently {status : ExitStatus} (drained : Drained w status) (fits : ¬ Overfull c w)
      (bad : status ≠ .code 0) (silent : diagnostics c w = "") :
      Concludes c w (.error (.processFailure ("worker exited with " ++ status.text)))
  | unkept (drained : Drained w (.code 0)) (most : ¬ Countable c.maxStdout) :
      Concludes c w (.error (responseFault .endOfValue (diagnostics c w)))
  | malformed {e : Json.ReadError} (read : Read c w (.code 0))
      (refused : Wire.Response.decode w.stdout.bytes = .error e) :
      Concludes c w (.error (responseFault e (diagnostics c w)))
  | reported {r : Wire.Response} {message : String} (answered : Answered c w r) (bad : r.ok = false)
      (error : r.error = some message) (told : Text.trim message ≠ "") :
      Concludes c w (.error (.worker (r.kind.getD .runtimeFault) message))
  | reportedSilently {r : Wire.Response} (answered : Answered c w r) (bad : r.ok = false)
      (silent : ∀ message ∈ r.error, Text.trim message = "") :
      Concludes c w (.error (.worker (r.kind.getD .runtimeFault) "unknown sandbox error"))
  | empty {r : Wire.Response} (answered : Answered c w r) (good : r.ok = true) (absent : r.result = none) :
      Concludes c w (.error .emptyResult)
  | done {r : Wire.Response} {v : Json} (answered : Answered c w r) (good : r.ok = true)
      (result : r.result = some v) :
      Concludes c w (.ok v)

theorem diagnostics_of_read (c : SandboxConfig) (w : WorkerEnd) :
    Text.trim (Text.lossy (orNothing (w.stderr.readCapped c.maxStderr.toNat))) = diagnostics c w := by
  rw [diagnostics]
  cases failure : w.stderr.failure? with
  | none => rw [Pipe.readCapped_of_whole failure, orNothing]
  | some text =>
    rw [Pipe.readCapped_of_failure failure]
    rfl

theorem conclude_of_failure {c : SandboxConfig} {w : WorkerEnd} {status : ExitStatus} {text : String}
    (ended : w.status = some (.ok status)) (failure : w.stdout.failure? = some text) :
    conclude c w = .error (.io text) := by
  simp only [conclude, ended, Pipe.readCapped_of_failure failure, resolve]

theorem conclude_of_drained {c : SandboxConfig} {w : WorkerEnd} {status : ExitStatus} (drained : Drained w status) :
    conclude c w = resolve (.ok (w.stdout.bytes.take (askedFor c.maxStdout)))
      (orNothing (w.stderr.readCapped c.maxStderr.toNat)) status c.maxStdout.toNat := by
  simp only [conclude, drained.ended, Pipe.readCapped_of_whole drained.whole]

-- The one byte past the cap tells a response that is too large from one that fits exactly.
theorem kept_overfull {c : SandboxConfig} {w : WorkerEnd} :
    c.maxStdout.toNat < (w.stdout.bytes.take (askedFor c.maxStdout)).length ↔ Overfull c w := by
  rw [List.length_take]
  by_cases countable : Countable c.maxStdout
  · rw [askedFor_of_countable countable]
    constructor
    · intro long
      exact ⟨countable, by omega⟩
    · intro overfull
      have long := overfull.long
      omega
  · rw [askedFor_of_most countable, Nat.zero_min]
    exact iff_of_false (Nat.not_lt_zero _) fun overfull => countable overfull.countable

theorem conclude_of_long {c : SandboxConfig} {w : WorkerEnd} {status : ExitStatus} (drained : Drained w status)
    (overfull : Overfull c w) : conclude c w = .error (.outputTooLarge c.maxStdout.toNat) := by
  rw [conclude_of_drained drained, resolve, if_pos (kept_overfull.mpr overfull)]

theorem Read.fits {c : SandboxConfig} {w : WorkerEnd} {status : ExitStatus} (read : Read c w status) :
    ¬ Overfull c w :=
  fun overfull => Nat.not_lt.mpr read.short overfull.long

theorem conclude_of_read {c : SandboxConfig} {w : WorkerEnd} {status : ExitStatus} (read : Read c w status) :
    conclude c w = resolve (.ok w.stdout.bytes) (orNothing (w.stderr.readCapped c.maxStderr.toNat)) status
      c.maxStdout.toNat := by
  have all : w.stdout.bytes.take (askedFor c.maxStdout) = w.stdout.bytes := by
    rw [askedFor_of_countable read.countable]
    exact List.take_of_length_le (Nat.le_succ_of_le read.short)
  rw [conclude_of_drained read.toDrained, all]

theorem conclude_of_failed {c : SandboxConfig} {w : WorkerEnd} {status : ExitStatus} (drained : Drained w status)
    (fits : ¬ Overfull c w) (bad : status ≠ .code 0) :
    conclude c w = .error (.processFailure
      (if (diagnostics c w).isEmpty then "worker exited with " ++ status.text else diagnostics c w)) := by
  have failure : status.isSuccess = false := beq_false_of_ne bad
  simp only [conclude_of_drained drained, resolve, if_neg (mt kept_overfull.mp fits), failure, diagnostics_of_read,
    Bool.not_false, if_true]

theorem conclude_of_unkept {c : SandboxConfig} {w : WorkerEnd} (drained : Drained w (.code 0))
    (most : ¬ Countable c.maxStdout) : conclude c w = .error (responseFault .endOfValue (diagnostics c w)) := by
  have success : (ExitStatus.code 0).isSuccess = true := rfl
  have refused : Wire.Response.decode [] = .error .endOfValue := rfl
  simp only [conclude_of_drained drained, askedFor_of_most most, List.take_zero, resolve, List.length_nil,
    if_neg (Nat.not_lt_zero _), success, diagnostics_of_read, Bool.not_true, Bool.false_eq_true, if_false, refused]

theorem conclude_of_refused {c : SandboxConfig} {w : WorkerEnd} {e : Json.ReadError}
    (read : Read c w (.code 0)) (refused : Wire.Response.decode w.stdout.bytes = .error e) :
    conclude c w = .error (responseFault e (diagnostics c w)) := by
  have success : (ExitStatus.code 0).isSuccess = true := rfl
  simp only [conclude_of_read read, resolve, if_neg (Nat.not_lt.mpr read.short), success, diagnostics_of_read,
    Bool.not_true, Bool.false_eq_true, if_false, refused]

theorem conclude_of_answered {c : SandboxConfig} {w : WorkerEnd} {r : Wire.Response}
    (answered : Answered c w r) : conclude c w = outcome r := by
  have success : (ExitStatus.code 0).isSuccess = true := rfl
  simp only [conclude_of_read answered.toRead, resolve, if_neg (Nat.not_lt.mpr answered.short), success,
    Bool.not_true, Bool.false_eq_true, if_false, answered.decoded]

theorem workerMessage_of_silent {r : Wire.Response}
    (silent : ∀ message ∈ r.error, Text.trim message = "") :
    workerMessage r = "unknown sandbox error" := by
  cases error : r.error with
  | none => simp only [workerMessage, error]
  | some message =>
    have blank := (Text.trim_eq_empty message).mp (silent message error)
    simp only [workerMessage, error, blank, if_true]

theorem workerMessage_of_told {r : Wire.Response} {message : String} (error : r.error = some message)
    (told : Text.trim message ≠ "") : workerMessage r = message := by
  have visible : ¬ Text.isBlankText message = true := mt (Text.trim_eq_empty message).mpr told
  simp only [workerMessage, error, if_neg visible]

-- Each class excludes the ones behind it.
theorem conclude_of_concludes {c : SandboxConfig} {w : WorkerEnd} {result : Except Fault Json}
    (concludes : Concludes c w result) : conclude c w = result := by
  cases concludes with
  | hung late => simp only [conclude, late]
  | lost unknown => simp only [conclude, unknown]
  | unreadable ended failure => exact conclude_of_failure ended failure
  | tooLarge drained overfull => exact conclude_of_long drained overfull
  | failed drained fits bad told =>
    rw [conclude_of_failed drained fits bad]
    simp [told]
  | failedSilently drained fits bad silent =>
    rw [conclude_of_failed drained fits bad]
    simp [silent]
  | unkept drained most => exact conclude_of_unkept drained most
  | malformed read refused => exact conclude_of_refused read refused
  | reported answered bad error told =>
    rw [conclude_of_answered answered, outcome, bad, workerMessage_of_told error told]
    rfl
  | reportedSilently answered bad silent =>
    rw [conclude_of_answered answered, outcome, bad, workerMessage_of_silent silent]
    rfl
  | empty answered good absent =>
    rw [conclude_of_answered answered, outcome, good, absent]
    rfl
  | done answered good result =>
    rw [conclude_of_answered answered, outcome, good, result]
    rfl

theorem outcome_concludes {c : SandboxConfig} {w : WorkerEnd} {r : Wire.Response}
    (answered : Answered c w r) : ∃ result, Concludes c w result := by
  cases ok : r.ok with
  | true =>
    cases result : r.result with
    | none => exact ⟨_, .empty answered ok result⟩
    | some v => exact ⟨_, .done answered ok result⟩
  | false =>
    by_cases silent : ∀ message ∈ r.error, Text.trim message = ""
    · exact ⟨_, .reportedSilently answered ok silent⟩
    · push Not at silent
      obtain ⟨message, error, told⟩ := silent
      exact ⟨_, .reported answered ok error told⟩

theorem drained_concludes {c : SandboxConfig} {w : WorkerEnd} {status : ExitStatus} (drained : Drained w status)
    (fits : ¬ Overfull c w) : ∃ result, Concludes c w result := by
  by_cases good : status = .code 0
  · subst good
    by_cases most : ¬ Countable c.maxStdout
    · exact ⟨_, .unkept drained most⟩
    have countable := not_not.mp most
    have read : Read c w (.code 0) := ⟨drained, countable, Nat.le_of_not_lt fun long => fits ⟨countable, long⟩⟩
    cases decoded : Wire.Response.decode w.stdout.bytes with
    | error e => exact ⟨_, .malformed read decoded⟩
    | ok r => exact outcome_concludes ⟨read, decoded⟩
  · by_cases silent : diagnostics c w = ""
    · exact ⟨_, .failedSilently drained fits good silent⟩
    · exact ⟨_, .failed drained fits good silent⟩

theorem concludes_total (c : SandboxConfig) (w : WorkerEnd) : ∃ result, Concludes c w result := by
  cases status : w.status with
  | none => exact ⟨_, .hung status⟩
  | some ended =>
    cases ended with
    | error text => exact ⟨_, .lost status⟩
    | ok code =>
      cases failure : w.stdout.failure? with
      | some text => exact ⟨_, .unreadable status failure⟩
      | none =>
        have drained : Drained w code := ⟨status, failure⟩
        by_cases overfull : Overfull c w
        · exact ⟨_, .tooLarge drained overfull⟩
        · exact drained_concludes drained overfull

theorem concludes_iff (c : SandboxConfig) (w : WorkerEnd) (result : Except Fault Json) :
    Concludes c w result ↔ result = conclude c w := by
  obtain ⟨one, concludes⟩ := concludes_total c w
  constructor
  · intro other
    exact (conclude_of_concludes other).symm
  · intro same
    rw [same, conclude_of_concludes concludes]
    exact concludes

end Supervisor
end BoundedScript
