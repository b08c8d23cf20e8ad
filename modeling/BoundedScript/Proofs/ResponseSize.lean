import BoundedScript.Proofs.Json.Sizes
import BoundedScript.Proofs.ProcessBoundary
import BoundedScript.Proofs.WorkerFailures
import BoundedScript.Proofs.WorkerOutcome

set_option autoImplicit false

namespace BoundedScript

open Text (Bytes encoded)

namespace Text

theorem size_numeral {cs : List Char} (numeral : ∀ c ∈ cs, Decimal.isNumeral c) :
    (String.ofList cs).utf8ByteSize = cs.length := by
  rw [← bytesOf_length, bytesOf_ofList, Json.encoded_length_numeral numeral]

theorem size_toString (n : Nat) : (toString n).utf8ByteSize = (Nat.toDigits 10 n).length := by
  rw [← bytesOf_length, bytesOf_eq]
  show (encoded n.repr.toList).length = _
  rw [Nat.toList_repr, Json.Reading.encoded_toDigits]

theorem size_append {s t : String} {m n : Nat} (front : s.utf8ByteSize ≤ m) (back : t.utf8ByteSize ≤ n) :
    (s ++ t).utf8ByteSize ≤ m + n := by
  rw [String.utf8ByteSize_append]
  exact Nat.add_le_add front back

theorem size_word {n : Nat} (word : n < 0x1_0000_0000_0000_0000) : (toString n).utf8ByteSize ≤ 20 := by
  rw [size_toString, Nat.length_toDigits_le_iff (by decide) (by decide)]
  exact Nat.lt_trans word (by decide)

theorem quotedChar_ne_nil (quote c : Char) : quotedChar quote c ≠ [] := by
  unfold quotedChar codePointEscape
  split_ifs <;> simp

theorem length_le_size (s : String) : s.toList.length ≤ s.utf8ByteSize := by
  rw [← bytesOf_length, bytesOf_eq]
  exact length_le_flatMap (fun c => String.utf8EncodeChar_ne_nil) _

theorem quoted_size (s : String) : s.toList.length ≤ (quoted s).utf8ByteSize := by
  refine Nat.le_trans ?_ (length_le_size _)
  rw [quoted, String.toList_ofList]
  have inner := length_le_flatMap (quotedChar_ne_nil '"') s.toList
  simp only [List.length_append, List.length_cons]
  omega

end Text

namespace Duration

theorem dropZerosAtEnd_prefix (cs : List Char) : dropZerosAtEnd cs <+: cs :=
  List.rdropWhile_prefix _ cs

theorem pointText_size {whole part places : Nat} (word : whole < 0x1_0000_0000_0000_0000)
    (short : part < 10 ^ places) (some : 0 < places) :
    (pointText whole part places).utf8ByteSize ≤ places + 21 := by
  have size := Text.size_word word
  have digits : (Nat.toDigits 10 part).length ≤ places :=
    (Nat.length_toDigits_le_iff (by decide) some).mpr short
  have padded := dropZerosAtEnd_prefix
    (List.replicate (places - (Nat.toDigits 10 part).length) '0' ++ Nat.toDigits 10 part)
  rw [pointText]
  split
  · omega
  next kept same =>
    have numeral : ∀ c ∈ dropZerosAtEnd
        (List.replicate (places - (Nat.toDigits 10 part).length) '0' ++ Nat.toDigits 10 part),
        Decimal.isNumeral c := by
      intro c inside
      rcases List.mem_append.mp (padded.subset inside) with zero | digit
      · exact Decimal.zeros_numeral _ c zero
      · exact Decimal.digits_numeral _ c digit
    have length := padded.length_le
    have point : (".").utf8ByteSize = 1 := rfl
    rw [List.length_append, List.length_replicate] at length
    rw [String.utf8ByteSize_append, String.utf8ByteSize_append, Text.size_numeral numeral, point]
    omega

-- Twenty digits of whole units, nine of parts, and the unit.
theorem brief_size (d : Duration) : d.brief.utf8ByteSize ≤ 33 := by
  have range := d.inRange
  have second : ("s").utf8ByteSize = 1 := rfl
  have milli : ("ms").utf8ByteSize = 2 := rfl
  have micro : ("µs").utf8ByteSize = 3 := rfl
  have nano : ("ns").utf8ByteSize = 2 := rfl
  rw [brief]
  split
  · have size : (pointText (d.nanos / 1_000_000_000) (d.nanos % 1_000_000_000) 9).utf8ByteSize ≤ 9 + 21 :=
      pointText_size (by omega) (by omega) (by decide)
    rw [String.utf8ByteSize_append, second]
    omega
  split
  · have size : (pointText (d.nanos / 1_000_000) (d.nanos % 1_000_000) 6).utf8ByteSize ≤ 6 + 21 :=
      pointText_size (by omega) (by omega) (by decide)
    rw [String.utf8ByteSize_append, milli]
    omega
  split
  · have size : (pointText (d.nanos / 1000) (d.nanos % 1000) 3).utf8ByteSize ≤ 3 + 21 :=
      pointText_size (by omega) (by omega) (by decide)
    rw [String.utf8ByteSize_append, micro]
    omega
  · have size := Text.size_word (n := d.nanos) (by omega)
    rw [String.utf8ByteSize_append, nano]
    omega

end Duration

section Documents

theorem Wire.Response.success_bytes (v : Json) :
    Text.bytesOf (Wire.Response.success v).encode =
      Text.bytesOf "\x7b\"ok\":true,\"result\":" ++ Text.bytesOf v.render ++ Text.bytesOf "\x7d" := by
  have text : (Wire.Response.success v).encode =
      String.ofList ("\x7b\"ok\":true,\"result\":".toList ++ Json.compact v ++ "\x7d".toList) := rfl
  simp only [text, Json.render, Text.bytesOf_eq, String.toList_ofList, Text.encoded_append]

theorem Wire.Response.failure_bytes (f : Fault) :
    Text.bytesOf (Wire.Response.failure f).encode =
      Text.bytesOf "\x7b\"ok\":false,\"error\":" ++ encoded (Json.stringText f.message) ++
        Text.bytesOf ",\"kind\":" ++ encoded (Json.stringText f.kind.name) ++ Text.bytesOf "\x7d" := by
  have front : "\x7b\"ok\":false,\"error\":".toList =
      '\x7b' :: (Json.stringText "ok" ++ ':' :: "false".toList ++ ',' :: (Json.stringText "error" ++ [':'])) := rfl
  have between : ",\"kind\":".toList = ',' :: (Json.stringText "kind" ++ [':']) := rfl
  have text : (Wire.Response.failure f).encode = String.ofList (Json.compact (.object
      [("ok", .bool false), ("error", .string f.message), ("kind", .string f.kind.name)])) := rfl
  rw [text, Text.bytesOf_eq, Text.bytesOf_eq, Text.bytesOf_eq, Text.bytesOf_eq, ← Text.encoded_append,
    ← Text.encoded_append, ← Text.encoded_append, ← Text.encoded_append, front, between, String.toList_ofList]
  simp [Json.compact, Json.compactFields, Json.separated]

theorem Wire.Response.success_length (v : Json) :
    (Text.bytesOf (Wire.Response.success v).encode).length = (Text.bytesOf v.render).length + 21 := by
  have front : (Text.bytesOf "\x7b\"ok\":true,\"result\":").length = 20 := by decide +kernel
  have back : (Text.bytesOf "\x7d").length = 1 := by decide +kernel
  rw [Wire.Response.success_bytes, List.length_append, List.length_append, front, back]
  omega

theorem kindText_length (k : FaultKind) : (encoded (Json.stringText k.name)).length ≤ 19 := by
  cases k <;> decide

-- The text of a failure may take six bytes for each of its own.
theorem Wire.Response.failure_length (f : Fault) :
    f.message.utf8ByteSize < (Text.bytesOf (Wire.Response.failure f).encode).length ∧
      (Text.bytesOf (Wire.Response.failure f).encode).length ≤ 6 * f.message.utf8ByteSize + 50 := by
  have front : (Text.bytesOf "\x7b\"ok\":false,\"error\":").length = 20 := by decide +kernel
  have between : (Text.bytesOf ",\"kind\":").length = 8 := by decide +kernel
  have back : (Text.bytesOf "\x7d").length = 1 := by decide +kernel
  have message := Json.Reading.stringText_length f.message
  have kind := kindText_length f.kind
  simp only [Wire.Response.failure_bytes, List.length_append, front, between, back]
  omega

end Documents

namespace Fault

/-- How many bytes of a worker's message are not its own: they come from a script, from what was sent or from
the system, or count a result. -/
def foreign : Fault → Nat
  | .io text | .protocol text | .runtimeFault text | .resultNotJson text => text.utf8ByteSize
  | .resultTooLarge size _ => (toString size).utf8ByteSize
  | _ => 0

end Fault

namespace Worker

open Script

variable {limits : WorkerLimits}

theorem message_size {f : Fault} (reports : Reports limits f) : f.message.utf8ByteSize ≤ 64 + f.foreign := by
  cases reports with
  | io text => exact Text.size_append (by decide) (Nat.le_refl _)
  | protocol text => exact Text.size_append (by decide) (Nat.le_refl _)
  | requestTooLarge limit =>
    have front : ("Request too large: exceeds limit of ").utf8ByteSize ≤ 36 := by decide
    have back : (" bytes").utf8ByteSize ≤ 6 := by decide
    exact Nat.le_trans (Text.size_append (Text.size_append front (Text.size_word limit.toNat_lt)) back)
      (Nat.le_add_right_of_le (by decide))
  | unsupported => exact (by decide : ("Invalid input: unsupported kind").utf8ByteSize ≤ 64)
  | missing => exact (by decide : ("Invalid input: missing code").utf8ByteSize ≤ 64)
  | timeout =>
    have front : ("Timed out: ").utf8ByteSize ≤ 11 := by decide
    have between : ("transform exceeded ").utf8ByteSize ≤ 19 := by decide
    exact Nat.le_trans (Text.size_append front (Text.size_append between limits.timeout.brief_size))
      (Nat.le_add_right_of_le (by decide))
  | script script =>
    cases script with
    | runtimeFault text => exact Text.size_append (by decide) (Nat.le_refl _)
    | noValue => exact (by decide : ("Script produced no value").utf8ByteSize ≤ 64)
    | resultNotJson text => exact Text.size_append (by decide) (Nat.le_refl _)
  | resultTooLarge size =>
    have front : ("Result too large: ").utf8ByteSize ≤ 18 := by decide
    have between : (" bytes exceeds limit of ").utf8ByteSize ≤ 24 := by decide
    have counted := Text.size_append (Text.size_append front (Nat.le_refl (toString size).utf8ByteSize)) between
    have message := Text.size_append counted (Text.size_word limits.maxResult.toNat_lt)
    show _ ≤ 64 + (toString size).utf8ByteSize
    exact Nat.le_trans message (by omega)

theorem failure_length_of_reports {f : Fault} (reports : Reports limits f) :
    (Text.bytesOf (Wire.Response.failure f).encode).length ≤ 434 + 6 * f.foreign := by
  have message := message_size reports
  have length := (Wire.Response.failure_length f).2
  omega

/-- The cap on results holds for the text that a script's result was serialized to. The result that is sent
is what was read from that text, written anew: only its doubles can be longer than they were. -/
theorem serve_result_size (limits : WorkerLimits) (input : Input) (clock : Session.Clock) :
    (∃ r text v, Admitted limits input r ∧
      Session.run ⟨limits.timeout, limits.heapLimit.toNat⟩ (task r.code r.payload) clock = .ok text ∧
      text.utf8ByteSize ≤ limits.maxResult.toNat ∧ Json.readText text = .ok v ∧
      (serve limits input none clock).bytes = Text.bytesOf "\x7b\"ok\":true,\"result\":" ++
        Text.bytesOf v.render ++ Text.bytesOf "\x7d" ∧
      (Text.bytesOf v.render).length ≤ text.utf8ByteSize + 22 * v.doubles) ∨
    ∃ f, Reports limits f ∧ (serve limits input none clock).bytes = Text.bytesOf (Wire.Response.failure f).encode := by
  rcases respond_cases limits input clock with
    ⟨r, text, v, admitted, ran, short, read, answered⟩ | ⟨f, reports, answered⟩
  · refine .inl ⟨r, text, v, admitted, ran, short, read, ?_, ?_⟩
    · rw [serve, answered, ← Wire.Response.success_bytes]
      rfl
    · exact Json.readText_written_length read
  · refine .inr ⟨f, reports, ?_⟩
    rw [serve, answered]
    rfl

-- The least double past 64 bits, in the text of an engine and in that of a document.
example : ((Json.readText "18446744073709552000").map Json.render).toOption = some "1.8446744073709552e+19" := by
  decide +kernel

section Echo

open Json Json.Reading

theorem decode_string (s : String) :
    Wire.Request.decode (encoded (stringText s)) = .error (.invalidType (.string s) "struct TransformRequest") := by
  have bytes := encoded_stringText s []
  rw [List.append_nil] at bytes
  rw [bytes]
  have ahead : Reading.found (0x22 :: (encoded (s.toList.flatMap escapeChar) ++ [0x22])) =
      .ok (.string s, []) := by
    rw [Reading.found, bind_ok (peek_visible rfl _)]
    show (do drop; return .string (← stringBody) : Reading Found) _ = _
    rw [bind_ok (drop_apply _), List.tail_cons, bind_ok (stringBody_written s [])]
    rfl
  have refused : record "TransformRequest" Wire.Request.ofObject Wire.Request.ofList
      (0x22 :: (encoded (s.toList.flatMap escapeChar) ++ [0x22])) =
      .error (.invalidType (.string s) "struct TransformRequest") := by
    rw [record, bind_ok (peek_visible rfl _)]
    show mismatch ("struct " ++ "TransformRequest") _ = _
    rw [mismatch, bind_ok ahead]
    rfl
  rw [Wire.Request.decode, run, bind_error refused]

theorem respond_string {s : String} (countable : Countable limits.maxRequest)
    (short : (encoded (stringText s)).length ≤ limits.maxRequest.toNat) {clock : Session.Clock} :
    respond limits ⟨encoded (stringText s), none⟩ clock = .failure (.protocol ("invalid request json: " ++
      (ReadError.invalidType (.string s) "struct TransformRequest").message)) :=
  respond_of_answers (.malformed ⟨countable, short, rfl⟩ (decode_string s))

end Echo

end Worker

namespace Supervisor

open Worker

variable {c : SandboxConfig} {w : WorkerEnd}

theorem conclude_ne_tooLarge (short : w.stdout.bytes.length ≤ c.maxStdout.toNat) (n : Nat) :
    conclude c w ≠ .error (.outputTooLarge n) := by
  have concludes := (concludes_iff c w _).mpr rfl
  generalize conclude c w = result at concludes
  cases concludes with
  | tooLarge drained overfull => exact absurd short (Nat.not_le.mpr overfull.long)
  | _ => exact fun same => by cases same

/-- A document is on a pipe that has room for the largest result and four kibibytes beside it. -/
structure Piped (limits : WorkerLimits) (document : Bytes) (c : SandboxConfig) (w : WorkerEnd) : Prop where
  served : c.worker = limits
  room : limits.maxResult.toNat + 4096 ≤ c.maxStdout.toNat
  written : w.stdout.bytes = document

section Piped

variable {limits : WorkerLimits} {document : Bytes} {v : Json} {f : Fault}

theorem Piped.short (piped : Piped limits document c w)
    (fits : document.length ≤ limits.maxResult.toNat + 4096) : w.stdout.bytes.length ≤ c.maxStdout.toNat := by
  rw [piped.written]
  exact Nat.le_trans fits piped.room

theorem Piped.conclude (piped : Piped limits document c w) (countable : Countable c.maxStdout)
    (fits : document.length ≤ limits.maxResult.toNat + 4096) (drained : Drained w (.code 0)) :
    conclude c w = resolve (.ok document) (orNothing (w.stderr.readCapped c.maxStderr.toNat)) (.code 0)
      c.maxStdout.toNat := by
  rw [conclude_of_read ⟨drained, countable, piped.short fits⟩, piped.written]

theorem Piped.success (piped : Piped limits (Text.bytesOf (Wire.Response.success v).encode) c w)
    (countable : Countable c.maxStdout)
    (fits : (Text.bytesOf (Wire.Response.success v).encode).length ≤ limits.maxResult.toNat + 4096)
    (taken : Json.Taken (Json.maxDepth - 1) v) (drained : Drained w (.code 0)) :
    Supervisor.conclude c w = if v.depth ≤ 126 then .ok v
      else .error (responseFault .recursionLimit (diagnostics c w)) := by
  rw [piped.conclude countable fits drained, ← diagnostics_of_read]
  exact resolve_success taken _ (Nat.le_trans fits piped.room)

theorem Piped.failure (piped : Piped limits (Text.bytesOf (Wire.Response.failure f).encode) c w)
    (countable : Countable c.maxStdout)
    (fits : (Text.bytesOf (Wire.Response.failure f).encode).length ≤ limits.maxResult.toNat + 4096)
    (drained : Drained w (.code 0)) : Supervisor.conclude c w = .error (reported f) := by
  rw [piped.conclude countable fits drained]
  exact resolve_failure f _ (Nat.le_trans fits piped.room)

end Piped

/-- A worker's document is a result with twenty-one bytes around it, or a failure that is long only if a text
that is not the worker's own is. Within the room of its pipe it is never turned away: the caller sees the
answer that it holds. -/
theorem serve_piped (limits : WorkerLimits) (input : Input) (clock : Script.Session.Clock) :
    let document := (serve limits input none clock).bytes
    (∃ v, respond limits input clock = .success v ∧
      document.length = (Text.bytesOf v.render).length + 21 ∧
      (Text.bytesOf v.render).length ≤ limits.maxResult.toNat + 22 * v.doubles ∧
      (v.doubles ≤ 185 ∨ (Text.bytesOf v.render).length ≤ limits.maxResult.toNat →
        ∀ c w, Piped limits document c w →
        (∀ n, conclude c w ≠ .error (.outputTooLarge n)) ∧
        (Countable c.maxStdout → Drained w (.code 0) → (∀ x, Json.HasFloat x v → Json.ReadsBack x) →
          conclude c w = if v.depth ≤ 126 then .ok v
            else .error (responseFault .recursionLimit (diagnostics c w))))) ∨
    ∃ f, Reports limits f ∧ respond limits input clock = .failure f ∧ document.length ≤ 434 + 6 * f.foreign ∧
      (6 * f.foreign ≤ limits.maxResult.toNat + 3662 → ∀ c w, Piped limits document c w →
        (∀ n, conclude c w ≠ .error (.outputTooLarge n)) ∧
        (Countable c.maxStdout → Drained w (.code 0) → conclude c w = .error (reported f))) := by
  intro document
  have bytes : document = Text.bytesOf (respond limits input clock).encode := rfl
  clear_value document
  rcases respond_cases limits input clock with
    ⟨r, text, v, admitted, ran, short, read, answered⟩ | ⟨f, reports, answered⟩
  · rw [answered] at bytes
    subst bytes
    have size := Wire.Response.success_length v
    have result : (Text.bytesOf v.render).length ≤ limits.maxResult.toNat + 22 * v.doubles :=
      Nat.le_trans (Json.readText_written_length read) (Nat.add_le_add_right short _)
    refine .inl ⟨v, answered, size, result, fun few c w piped => ?_⟩
    -- The four kibibytes hold what is around the result, and what 185 doubles can have grown by.
    have fits : (Text.bytesOf (Wire.Response.success v).encode).length ≤ limits.maxResult.toNat + 4096 := by omega
    refine ⟨conclude_ne_tooLarge (piped.short fits), fun countable drained readBack => ?_⟩
    have taken := Json.taken_of_regular (Json.regular_of_read read) readBack (Json.maxDepth - 1)
    exact piped.success countable fits taken drained
  · rw [answered] at bytes
    subst bytes
    have size := failure_length_of_reports reports
    refine .inr ⟨f, reports, answered, size, fun few c w piped => ?_⟩
    have fits : (Text.bytesOf (Wire.Response.failure f).encode).length ≤ limits.maxResult.toNat + 4096 := by omega
    exact ⟨conclude_ne_tooLarge (piped.short fits), fun countable => piped.failure countable fits⟩

-- What was sent is told back, at whatever length: five thousand digits where a result may take one byte.
theorem serve_outgrows :
    let limits : WorkerLimits := { WorkerLimits.standard with maxResult := 1 }
    let c : SandboxConfig := { SandboxConfig.standard with maxStdout := 4097, worker := limits }
    let text := String.ofList (List.replicate 5000 '0')
    let document := (serve limits ⟨encoded (Json.stringText text), none⟩ none).bytes
    Supervisor.new c = .ok ⟨c, none⟩ ∧ limits.maxResult.toNat + 4096 ≤ c.maxStdout.toNat ∧
      limits.maxResult.toNat + 4096 < document.length ∧
      conclude c ⟨.ofBytes document, .closed, some (.ok (.code 0))⟩ = .error (.outputTooLarge 4097) := by
  intro limits c text document
  have size : text.utf8ByteSize = 5000 := by
    rw [Text.size_numeral (Decimal.zeros_numeral 5000), List.length_replicate]
  have short : (encoded (Json.stringText text)).length ≤ limits.maxRequest.toNat := by
    have length := (Json.Reading.stringText_length text).2
    rw [size] at length
    exact Nat.le_trans length (by decide)
  have long : 4097 < document.length := by
    have written : document = Text.bytesOf (respond limits ⟨encoded (Json.stringText text), none⟩).encode := rfl
    rw [written, respond_string (by decide) short]
    refine Nat.lt_of_le_of_lt ?_ (Wire.Response.failure_length _).1
    have zeros : text.toList.length = 5000 := by rw [String.toList_ofList, List.length_replicate]
    have quoted := Text.quoted_size text
    show 4097 ≤ ("Sandbox protocol error: " ++ ("invalid request json: " ++ ("invalid type: " ++
      ("string " ++ Text.quoted text) ++ ", expected " ++ "struct TransformRequest"))).utf8ByteSize
    simp only [String.utf8ByteSize_append]
    omega
  have whole : Pipe.bytes (.ofBytes document) = document := List.append_nil _
  exact ⟨rfl, by decide, long, conclude_of_long ⟨rfl, rfl⟩ ⟨by decide, by rw [whole]; exact long⟩⟩

theorem serve_piped_missing :
    let limits := WorkerLimits.standard
    let input : Input := ⟨Text.bytesOf "\x7b\"kind\":\"transform\"\x7d", none⟩
    let document := (serve limits input none).bytes
    let w := WorkerEnd.mk (.ofBytes document) .closed (some (.ok (.code 0)))
    Piped limits document .standard w ∧ Drained w (.code 0) ∧
      conclude .standard w = .error (.worker .validation "Invalid input: missing code") := by
  intro limits input document w
  have whole : Pipe.bytes (.ofBytes document) = document := List.append_nil _
  have piped : Piped limits document .standard w := ⟨rfl, by decide, whole⟩
  have drained : Drained w (.code 0) := ⟨rfl, rfl⟩
  have decoded : Decoded limits input ⟨.transform, "", .null⟩ := {
    countable := by decide
    short := by decide +kernel
    whole := rfl
    decoded := by cbv }
  have answered : respond limits input = _ := respond_of_answers (.missing decoded rfl rfl)
  rcases serve_piped limits input Script.Session.stepsFor with ⟨v, success, -⟩ | ⟨f, reports, failure, -, seen⟩
  · rw [answered] at success
    cases success
  · rw [answered] at failure
    have kind : f.kind = .validation := (Option.some.inj (congrArg Wire.Response.kind failure)).symm
    have message : f.message = "Invalid input: missing code" :=
      (Option.some.inj (congrArg Wire.Response.error failure)).symm
    have own : f.foreign = 0 := by
      cases reports with
      | unsupported | missing => rfl
      | script script => cases script <;> cases kind
      | _ => cases kind
    have handed := (seen (by omega) .standard w piped).2 (by decide) drained
    have told : Text.isBlankText "Invalid input: missing code" = false := by decide
    rw [reported, kind, message, told] at handed
    exact ⟨piped, drained, handed⟩

end Supervisor
end BoundedScript
