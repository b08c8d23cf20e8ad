import BoundedScript.Worker

set_option autoImplicit false

namespace BoundedScript

-- One more than a cap is a machine word, too.
def Countable (cap : UInt64) : Prop :=
  cap.toNat + 1 < UInt64.size

instance (cap : UInt64) : Decidable (Countable cap) :=
  inferInstanceAs (Decidable (cap.toNat + 1 < UInt64.size))

theorem askedFor_of_countable {cap : UInt64} (countable : Countable cap) : askedFor cap = cap.toNat + 1 := by
  rw [askedFor, UInt64.toNat_add]
  exact Nat.mod_eq_of_lt countable

theorem askedFor_of_most {cap : UInt64} (most : ¬ Countable cap) : askedFor cap = 0 := by
  have size : cap.toNat + 1 = UInt64.size := Nat.le_antisymm cap.toNat_lt_size (Nat.le_of_not_lt most)
  rw [askedFor, UInt64.toNat_add]
  show (cap.toNat + 1) % UInt64.size = 0
  rw [size, Nat.mod_self]

namespace Worker

open Script
open Text (Bytes)

structure Received (limits : WorkerLimits) (input : Input) : Prop where
  countable : Countable limits.maxRequest
  short : input.bytes.length ≤ limits.maxRequest.toNat
  whole : input.failure = none

structure Decoded (limits : WorkerLimits) (input : Input) (r : Wire.Request) : Prop
    extends Received limits input where
  decoded : Wire.Request.decode input.bytes = .ok r

structure Admitted (limits : WorkerLimits) (input : Input) (r : Wire.Request) : Prop
    extends Decoded limits input r where
  known : r.kind = .transform
  told : Text.isBlankText r.code = false
  fits : r.code.utf8ByteSize ≤ limits.maxCode.toNat

/-- The responses of a worker, the classes in the order in which they go before one another. Nothing is run
but by the last two. Under the greatest cap no byte is asked for. -/
inductive Answers (limits : WorkerLimits) (input : Input) (clock : Session.Clock) : Wire.Response → Prop where
  | unasked (most : ¬ Countable limits.maxRequest) :
      Answers limits input clock (.failure (.protocol ("invalid request json: " ++ Json.ReadError.endOfValue.message)))
  | tooLarge (countable : Countable limits.maxRequest) (long : limits.maxRequest.toNat < input.bytes.length) :
      Answers limits input clock (.failure (.requestTooLarge limits.maxRequest.toNat))
  | unreadable {text : String} (countable : Countable limits.maxRequest)
      (short : input.bytes.length ≤ limits.maxRequest.toNat) (failure : input.failure = some text) :
      Answers limits input clock (.failure (.io text))
  | malformed {e : Json.ReadError} (received : Received limits input)
      (refused : Wire.Request.decode input.bytes = .error e) :
      Answers limits input clock (.failure (.protocol ("invalid request json: " ++ e.message)))
  | unsupported {r : Wire.Request} (decoded : Decoded limits input r) (other : r.kind ≠ .transform) :
      Answers limits input clock (.failure (.invalidInput "unsupported kind"))
  | missing {r : Wire.Request} (decoded : Decoded limits input r) (known : r.kind = .transform)
      (blank : Text.isBlankText r.code = true) :
      Answers limits input clock (.failure (.invalidInput "missing code"))
  | longCode {r : Wire.Request} (decoded : Decoded limits input r) (known : r.kind = .transform)
      (told : Text.isBlankText r.code = false) (long : limits.maxCode.toNat < r.code.utf8ByteSize) :
      Answers limits input clock (.failure (.requestTooLarge limits.maxCode.toNat))
  | done {r : Wire.Request} {v : Json} (admitted : Admitted limits input r)
      (ran : transform limits r.code r.payload clock = .ok v) :
      Answers limits input clock (.success v)
  | failed {r : Wire.Request} {f : Fault} (admitted : Admitted limits input r)
      (ran : transform limits r.code r.payload clock = .error f) :
      Answers limits input clock (.failure (ownDeadline limits f))

section Reading

variable {cap : UInt64} {input : Input}

theorem readAtMost_of_most (most : ¬ Countable cap) : readAtMost cap input = .ok [] := by
  rw [readAtMost, askedFor_of_most most]
  cases input.failure <;> rfl

-- One byte more than the cap is enough to refuse, so a failure behind it is not met.
theorem readAtMost_of_long (countable : Countable cap) (long : cap.toNat < input.bytes.length) :
    readAtMost cap input = .error (.requestTooLarge cap.toNat) := by
  have kept : (input.bytes.take (cap.toNat + 1)).length = cap.toNat + 1 := by
    rw [List.length_take]
    omega
  have refused : withinCap cap (input.bytes.take (cap.toNat + 1)) = .error (.requestTooLarge cap.toNat) :=
    if_neg (by omega)
  rw [readAtMost, askedFor_of_countable countable]
  cases input.failure with
  | none => exact refused
  | some text => exact (if_neg (by omega)).trans refused

theorem readAtMost_of_short (countable : Countable cap) (short : input.bytes.length ≤ cap.toNat) :
    readAtMost cap input = match input.failure with
      | some text => .error (.io text)
      | none => .ok input.bytes := by
  have all : input.bytes.take (cap.toNat + 1) = input.bytes :=
    List.take_of_length_le (Nat.le_succ_of_le short)
  rw [readAtMost, askedFor_of_countable countable, all]
  cases input.failure with
  | none => exact if_pos short
  | some text => exact if_pos (Nat.lt_succ_of_le short)

end Reading

section Classes

variable {limits : WorkerLimits} {input : Input} {r : Wire.Request} {clock : Session.Clock}

theorem readRequest_of_received (received : Received limits input) :
    readRequest limits input = match Wire.Request.decode input.bytes with
      | .error e => .error (.protocol ("invalid request json: " ++ e.message))
      | .ok r => accept limits r := by
  rw [readRequest, readAtMost_of_short received.countable received.short, received.whole]
  rfl

theorem readRequest_of_decoded (decoded : Decoded limits input r) :
    readRequest limits input = accept limits r := by
  rw [readRequest_of_received decoded.toReceived, decoded.decoded]

theorem accept_of_admitted (admitted : Admitted limits input r) : accept limits r = .ok r := by
  simp [accept, admitted.known, admitted.told, Nat.not_lt.mpr admitted.fits]

theorem respond_of_refused {f : Fault} (refused : readRequest limits input = .error f) :
    respond limits input clock = .failure f := by
  rw [respond, handle, refused]
  rfl

theorem readRequest_of_admitted (admitted : Admitted limits input r) : readRequest limits input = .ok r := by
  rw [readRequest_of_decoded admitted.toDecoded, accept_of_admitted admitted]

theorem respond_of_admitted (admitted : Admitted limits input r) :
    respond limits input clock = match transform limits r.code r.payload clock with
      | .ok v => .success v
      | .error f => .failure (ownDeadline limits f) := by
  have handled : handle limits input clock = match transform limits r.code r.payload clock with
      | .ok v => .ok v
      | .error f => .error (ownDeadline limits f) := by
    rw [handle, readRequest_of_admitted admitted]
    rfl
  rw [respond, handled]
  cases transform limits r.code r.payload clock <;> rfl

theorem readRequest_of_most (most : ¬ Countable limits.maxRequest) : readRequest limits input =
    .error (.protocol ("invalid request json: " ++ Json.ReadError.endOfValue.message)) := by
  rw [readRequest, readAtMost_of_most most]
  rfl

theorem readRequest_of_long (countable : Countable limits.maxRequest)
    (long : limits.maxRequest.toNat < input.bytes.length) :
    readRequest limits input = .error (.requestTooLarge limits.maxRequest.toNat) := by
  rw [readRequest, readAtMost_of_long countable long]
  rfl

theorem readRequest_of_failure {text : String} (countable : Countable limits.maxRequest)
    (short : input.bytes.length ≤ limits.maxRequest.toNat) (failure : input.failure = some text) :
    readRequest limits input = .error (.io text) := by
  rw [readRequest, readAtMost_of_short countable short, failure]
  rfl

theorem readRequest_of_malformed {e : Json.ReadError} (received : Received limits input)
    (refused : Wire.Request.decode input.bytes = .error e) :
    readRequest limits input = .error (.protocol ("invalid request json: " ++ e.message)) := by
  rw [readRequest_of_received received, refused]

theorem readRequest_of_unsupported (decoded : Decoded limits input r) (other : r.kind ≠ .transform) :
    readRequest limits input = .error (.invalidInput "unsupported kind") := by
  rw [readRequest_of_decoded decoded]
  simp [accept, other]

theorem readRequest_of_missing (decoded : Decoded limits input r) (known : r.kind = .transform)
    (blank : Text.isBlankText r.code = true) :
    readRequest limits input = .error (.invalidInput "missing code") := by
  rw [readRequest_of_decoded decoded]
  simp [accept, known, blank]

theorem readRequest_of_longCode (decoded : Decoded limits input r) (known : r.kind = .transform)
    (told : Text.isBlankText r.code = false) (long : limits.maxCode.toNat < r.code.utf8ByteSize) :
    readRequest limits input = .error (.requestTooLarge limits.maxCode.toNat) := by
  rw [readRequest_of_decoded decoded]
  simp [accept, known, told, long]

-- Each class excludes the ones behind it.
theorem respond_of_answers {response : Wire.Response} (answers : Answers limits input clock response) :
    respond limits input clock = response := by
  cases answers with
  | unasked most => exact respond_of_refused (readRequest_of_most most)
  | tooLarge countable long => exact respond_of_refused (readRequest_of_long countable long)
  | unreadable countable short failure => exact respond_of_refused (readRequest_of_failure countable short failure)
  | malformed received refused => exact respond_of_refused (readRequest_of_malformed received refused)
  | unsupported decoded other => exact respond_of_refused (readRequest_of_unsupported decoded other)
  | missing decoded known blank => exact respond_of_refused (readRequest_of_missing decoded known blank)
  | longCode decoded known told long =>
    exact respond_of_refused (readRequest_of_longCode decoded known told long)
  | done admitted ran => rw [respond_of_admitted admitted, ran]
  | failed admitted ran => rw [respond_of_admitted admitted, ran]

theorem admitted_answers (admitted : Admitted limits input r) : ∃ response, Answers limits input clock response := by
  cases ran : transform limits r.code r.payload clock with
  | ok v => exact ⟨_, .done admitted ran⟩
  | error f => exact ⟨_, .failed admitted ran⟩

theorem decoded_answers (decoded : Decoded limits input r) : ∃ response, Answers limits input clock response := by
  by_cases known : r.kind = .transform
  · cases blank : Text.isBlankText r.code with
    | true => exact ⟨_, .missing decoded known blank⟩
    | false =>
      by_cases long : limits.maxCode.toNat < r.code.utf8ByteSize
      · exact ⟨_, .longCode decoded known blank long⟩
      · exact admitted_answers ⟨decoded, known, blank, Nat.le_of_not_lt long⟩
  · exact ⟨_, .unsupported decoded known⟩

theorem answers_total (limits : WorkerLimits) (input : Input) (clock : Session.Clock) :
    ∃ response, Answers limits input clock response := by
  by_cases most : ¬ Countable limits.maxRequest
  · exact ⟨_, .unasked most⟩
  have countable := Decidable.not_not.mp most
  by_cases long : limits.maxRequest.toNat < input.bytes.length
  · exact ⟨_, .tooLarge countable long⟩
  · have short := Nat.le_of_not_lt long
    cases failure : input.failure with
    | some text => exact ⟨_, .unreadable countable short failure⟩
    | none =>
      have received : Received limits input := ⟨countable, short, failure⟩
      cases decoded : Wire.Request.decode input.bytes with
      | error e => exact ⟨_, .malformed received decoded⟩
      | ok r => exact decoded_answers ⟨received, decoded⟩

theorem answers_iff (limits : WorkerLimits) (input : Input) (clock : Session.Clock) (response : Wire.Response) :
    Answers limits input clock response ↔ response = respond limits input clock := by
  obtain ⟨one, answers⟩ := answers_total limits input clock
  constructor
  · intro other
    exact (respond_of_answers other).symm
  · intro same
    rw [same, respond_of_answers answers]
    exact answers

end Classes

/-- All of an input that a worker under a cap can tell: it reads one byte past the cap, and meets the failure
only if that byte is not there. -/
def Input.seen (limit : Nat) (input : Input) : Input :=
  ⟨input.bytes.take (limit + 1), if limit < input.bytes.length then none else input.failure⟩

end Worker
end BoundedScript
