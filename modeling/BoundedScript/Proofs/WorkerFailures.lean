import BoundedScript.Proofs.WorkerAnswers

set_option autoImplicit false

namespace BoundedScript

namespace Script

variable {α β : Type} {P : α → Prop}

def Returns (P : α → Prop) (x : Run α) : Prop :=
  ∀ realm a after, x realm = .ok a after → P a

theorem Returns.pure {a : α} (holds : P a) : Returns P (Pure.pure a) := by
  intro realm b after ran
  cases ran
  exact holds

theorem Returns.behind {x : Run β} {f : β → Run α} (second : ∀ b, Returns P (f b)) : Returns P (x >>= f) := by
  intro realm a after ran
  change EStateM.bind x f realm = .ok a after at ran
  rw [EStateM.bind] at ran
  split at ran
  next b between first => exact second b between a after ran
  next => cases ran

end Script

namespace Worker

open Script

variable {limits : WorkerLimits}

inductive FromScript : Fault → Prop where
  | runtimeFault (text : String) : FromScript (.runtimeFault text)
  | noValue : FromScript .noValue
  | resultNotJson (text : String) : FromScript (.resultNotJson text)

theorem ownDeadline_of_script {f : Fault} (script : FromScript f) : ownDeadline limits f = f := by
  cases script <;> rfl

inductive Reports (limits : WorkerLimits) : Fault → Prop where
  | io (text : String) : Reports limits (.io text)
  | requestTooLarge (limit : UInt64) : Reports limits (.requestTooLarge limit.toNat)
  | protocol (text : String) : Reports limits (.protocol text)
  | unsupported : Reports limits (.invalidInput "unsupported kind")
  | missing : Reports limits (.invalidInput "missing code")
  | timeout : Reports limits (.timeout ("transform exceeded " ++ limits.timeout.brief))
  | script {f : Fault} (script : FromScript f) : Reports limits f
  | resultTooLarge (size : Nat) : Reports limits (.resultTooLarge size limits.maxResult.toNat)

def FailsAsScript {α : Type} (r : Except Fault α) : Prop :=
  ∀ f, r = .error f → FromScript f

theorem failsAsScript_error {α : Type} {f : Fault} (script : FromScript f) :
    FailsAsScript (.error f : Except Fault α) := by
  rintro _ ⟨⟩
  exact script

theorem failsAsScript_ok {α : Type} (a : α) : FailsAsScript (.ok a) := by
  rintro f ⟨⟩

theorem resultText_returns (v : Value) : Returns FailsAsScript (resultText v) := by
  apply Returns.behind
  intro written
  cases written with
  | error text => exact .pure (failsAsScript_error (.resultNotJson _))
  | ok u =>
    cases u with
    | none => exact .pure (failsAsScript_error (.resultNotJson _))
    | some u =>
      cases text : u.toText with
      | ok s =>
        simp only [text]
        exact .pure (failsAsScript_ok s)
      | error i =>
        simp only [text]
        exact .pure (failsAsScript_error (.resultNotJson _))

theorem task_returns (code : String) (payload : Json) : Returns FailsAsScript (task code payload) := by
  apply Returns.behind
  intro evaluated
  cases evaluated with
  | error text => exact .pure (failsAsScript_error (.runtimeFault _))
  | ok f =>
    apply Returns.behind
    intro callable
    cases callable with
    | false => exact .pure (failsAsScript_error (.runtimeFault _))
    | true =>
      apply Returns.behind
      intro called
      cases called with
      | error text => exact .pure (failsAsScript_error (.runtimeFault _))
      | ok v =>
        cases undefined : v.isUndefined with
        | true =>
          simp only [undefined]
          exact .pure (failsAsScript_error .noValue)
        | false =>
          simp only [undefined]
          exact resultText_returns v

section Transforms

variable {code text : String} {payload v : Json} {f : Fault} {clock : Session.Clock}

theorem transform_of_text
    (ran : Session.run ⟨limits.timeout, limits.heapLimit.toNat⟩ (task code payload) clock = .ok text) :
    transform limits code payload clock =
      if limits.maxResult.toNat < text.utf8ByteSize then
        .error (.resultTooLarge text.utf8ByteSize limits.maxResult.toNat)
      else readResult text := by
  rw [transform, ran]
  by_cases long : limits.maxResult.toNat < text.utf8ByteSize
  · simp [bind, Except.bind, checkSize, long]
  · simp [bind, Except.bind, checkSize, long]

theorem transform_of_failed
    (ran : Session.run ⟨limits.timeout, limits.heapLimit.toNat⟩ (task code payload) clock = .error f) :
    transform limits code payload clock = .error f := by
  rw [transform, ran]
  rfl

theorem readResult_eq_ok : readResult text = .ok v ↔ Json.readText text = .ok v := by
  rw [readResult]
  cases Json.readText text <;> simp

theorem transform_eq_ok :
    transform limits code payload clock = .ok v ↔
      ∃ text, Session.run ⟨limits.timeout, limits.heapLimit.toNat⟩ (task code payload) clock = .ok text ∧
        text.utf8ByteSize ≤ limits.maxResult.toNat ∧ Json.readText text = .ok v := by
  cases ran : Session.run ⟨limits.timeout, limits.heapLimit.toNat⟩ (task code payload) clock with
  | error f => simp [transform_of_failed ran]
  | ok text =>
    rw [transform_of_text ran]
    by_cases long : limits.maxResult.toNat < text.utf8ByteSize
    · simp [long, Nat.not_le.mpr long]
    · simp [long, Nat.le_of_not_lt long, readResult_eq_ok]

theorem told_fails {α : Type} {within : Limits} {task : Run (Except Fault α)}
    (fails : Returns FailsAsScript task) (failed : Session.told (Session.ended within task clock) = .error f) :
    FromScript f := by
  cases ended : Session.ended within task clock with
  | error e after =>
    rw [ended] at failed
    cases failed
    exact .runtimeFault _
  | ok r after =>
    rw [ended] at failed
    rw [Session.ended, Session.inRoom] at ended
    split at ended
    · cases ended
      cases failed
      exact .runtimeFault _
    · exact fails _ r after ended f failed

theorem run_fails {within : Limits} {task : Run (Except Fault String)}
    (fails : Returns FailsAsScript task) (ran : Session.run within task clock = .error f) :
    FromScript f ∨ ∃ text, f = .timeout text := by
  rw [Session.run] at ran
  cases told : Session.told (Session.ended within task clock) with
  | ok text =>
    rw [Session.settle_eq_ok.mpr told] at ran
    cases ran
  | error g =>
    rw [Session.settle_of_failed told] at ran
    cases isLate : Session.isLate (Session.ended within task clock) with
    | true =>
      simp only [isLate] at ran
      cases ran
      exact .inr ⟨_, rfl⟩
    | false =>
      simp only [isLate] at ran
      cases ran
      exact .inl (told_fails fails told)

theorem transform_fails (failed : transform limits code payload clock = .error f) :
    Reports limits (ownDeadline limits f) := by
  cases ran : Session.run ⟨limits.timeout, limits.heapLimit.toNat⟩ (task code payload) clock with
  | error g =>
    rw [transform_of_failed ran] at failed
    cases failed
    rcases run_fails (task_returns code payload) ran with script | ⟨text, rfl⟩
    · rw [ownDeadline_of_script script]
      exact .script script
    · exact .timeout
  | ok text =>
    rw [transform_of_text ran] at failed
    split at failed
    · cases failed
      exact .resultTooLarge _
    · rw [readResult] at failed
      split at failed
      · cases failed
      · cases failed
        exact .script (.resultNotJson _)

end Transforms

theorem respond_cases (limits : WorkerLimits) (input : Input) (clock : Session.Clock) :
    (∃ r text v, Admitted limits input r ∧
      Session.run ⟨limits.timeout, limits.heapLimit.toNat⟩ (task r.code r.payload) clock = .ok text ∧
      text.utf8ByteSize ≤ limits.maxResult.toNat ∧ Json.readText text = .ok v ∧
      respond limits input clock = .success v) ∨
    ∃ f, Reports limits f ∧ respond limits input clock = .failure f := by
  have answers := (answers_iff limits input clock (respond limits input clock)).mpr rfl
  generalize respond limits input clock = response at answers
  cases answers with
  | unasked most => exact .inr ⟨_, .protocol _, rfl⟩
  | tooLarge countable long => exact .inr ⟨_, .requestTooLarge _, rfl⟩
  | unreadable countable short failure => exact .inr ⟨_, .io _, rfl⟩
  | malformed received refused => exact .inr ⟨_, .protocol _, rfl⟩
  | unsupported decoded other => exact .inr ⟨_, .unsupported, rfl⟩
  | missing decoded known blank => exact .inr ⟨_, .missing, rfl⟩
  | longCode decoded known told long => exact .inr ⟨_, .requestTooLarge _, rfl⟩
  | done admitted ran =>
    obtain ⟨text, task, short, read⟩ := transform_eq_ok.mp ran
    exact .inl ⟨_, text, _, admitted, task, short, read, rfl⟩
  | failed admitted ran => exact .inr ⟨_, transform_fails ran, rfl⟩

end Worker
end BoundedScript
