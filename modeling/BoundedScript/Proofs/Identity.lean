import BoundedScript.Proofs.Deadlines
import BoundedScript.Proofs.Script.Writing

set_option autoImplicit false

namespace BoundedScript

open Script
open Json (Exact scriptText)
open Text (Bytes bytesOf)

section Room

variable {limit m n : Nat} {cs ds : List Char}

theorem Script.Room.mono (room : Room limit n) (less : m ≤ n) : Room limit m :=
  room.imp_right (Nat.le_trans (Nat.add_le_add_right less heapFloor))

theorem utf8ByteSize_perm (same : cs.Perm ds) : (String.ofList cs).utf8ByteSize = (String.ofList ds).utf8ByteSize := by
  rw [← Text.bytesOf_length, ← Text.bytesOf_length, Text.bytesOf_ofList, Text.bytesOf_ofList]
  exact (same.flatMap_right String.utf8EncodeChar).length_eq

theorem stringFits_perm (same : cs.Perm ds) (fits : StringFits limit (Units.ofString (String.ofList ds))) :
    StringFits limit (Units.ofString (String.ofList cs)) := by
  have units := same.flatMap_right Units.ofChar
  have size : (Units.ofString (String.ofList cs)).size = (Units.ofString (String.ofList ds)).size := by
    rw [Units.ofString_ofList, Units.ofString_ofList]
    exact units.length_eq
  have narrow : (Units.ofString (String.ofList cs)).isNarrow = (Units.ofString (String.ofList ds)).isNarrow := by
    rw [Units.ofString_ofList, Units.ofString_ofList, Units.isNarrow, Units.isNarrow, List.all_toArray,
      List.all_toArray]
    exact units.all_eq
  obtain ⟨length, room⟩ := fits
  rw [← size] at length room
  rw [← narrow] at room
  exact ⟨length, room⟩

namespace Worker

structure HasRoom (limit : Nat) (payload : Json) : Prop where
  start : Room limit 0
  objects : Fits limit payload
  text : StringFits limit (Units.ofString (Json.render payload))

end Worker

end Room

section Sizes

variable {limit : Nat} {v : Json}

theorem Script.stringFits_of_length {s : String} {n : Nat} (size : s.toList.length ≤ n) (short : 2 * n ≤ maxString)
    (room : Room limit (12 * n)) : StringFits limit (Units.ofString s) := by
  have units : (Units.ofString s).size ≤ 2 * s.toList.length := by
    rw [← Array.length_toList, Units.ofString_toList]
    exact (Units.length_unitsOf _).2
  refine ⟨by omega, fun _ => room.mono ?_⟩
  split <;> omega

-- A character of the text stands for twelve bytes at the most: an item of a list comes with a comma.
theorem fits_of_length (exact : Exact v) {n : Nat} (size : (scriptText v).length ≤ n) (short : 2 * n ≤ maxString)
    (room : Room limit (12 * n)) : Fits limit v := by
  induction exact with
  | null => exact .null
  | bool b => exact .bool b
  | int small => exact .int _
  | string s =>
    refine .string (stringFits_of_length (Nat.le_trans ?_ size) short room)
    have escaped := Text.length_le_flatMap Json.escapeChar_ne_nil s.toList
    have text : scriptText (.string s) = '"' :: s.toList.flatMap Json.escapeChar ++ ['"'] := rfl
    rw [text, List.length_append, List.length_cons]
    omega
  | array each ih =>
    refine .array (fun i inside _ => room.mono ?_) fun v inside =>
      ih v inside (Nat.le_trans (JsonObject.length_item_le inside) size)
    have count := JsonObject.count_lt each
    omega
  | object ordered each ih =>
    exact .object fun field inside => ih field inside (Nat.le_trans (JsonObject.length_field_le inside) size)

theorem Worker.hasRoom_of_length (exact : Exact v) (short : 2 * (Json.compact v).length ≤ maxString)
    (room : Room limit (12 * (Json.compact v).length)) : HasRoom limit v where
  start := room.mono (Nat.zero_le _)
  objects := fits_of_length exact (Json.scriptText_perm exact.regular).length_eq.le short room
  text := stringFits_of_length (by rw [Json.render, String.toList_ofList]) short room

end Sizes

namespace Worker

section Task

variable {code : String} {f : Function} {n : String} {v : Json} {realm : Realm}

theorem resultText_reaches (quiet : Quiet realm) {lo hi : Addr} {x : Value} (exact : Exact v)
    (shows : JsonObject.Shows realm.heap lo hi v x) (deep : v.depth < JsonObject.maxDepth)
    (fits : StringFits realm.heapLimit (Units.ofString (String.ofList (scriptText v)))) :
    Reaches (scriptText v).length (resultText x) realm fun r _ => r = .ok (String.ofList (scriptText v)) := by
  have wrote := JsonObject.stringify_reaches Engine.full quiet exact shows deep fits
  rw [resultText]
  refine Reaches.bind (n := 0) wrote.guarded fun r after done => ?_
  obtain ⟨u, rfl, rfl⟩ := done
  simp only [Units.toText_ofString]
  exact .of_ok rfl rfl (Nat.le_refl _)

theorem called_reaches (arrow : IsArrow f) (returns : ReturnsParameter f n) (quiet : Quiet realm)
    (fits : Fits realm.heapLimit v) :
    Reaches 1 (do Engine.full.call (.object realm.heap.size) .undefined #[← JsonObject.ofJson v])
      (withArrow f realm) fun x after =>
        Quiet after ∧ after.heapLimit = realm.heapLimit ∧ ∃ lo hi, JsonObject.Shows after.heap lo hi v x := by
  let start := withArrow f realm
  let given := JsonObject.extend start (JsonObject.objects start.heap.size v)
  have made : JsonObject.ofJson v start = .ok (JsonObject.image start.heap.size v) given :=
    JsonObject.ofJson_apply fits rfl
  have there : given.heap[realm.heap.size]? = some (arrowObject f) := by
    simp [given, start, JsonObject.extend, withArrow]
  have still : Quiet given := JsonObject.quiet_extend (JsonObject.quiet_extend quiet [arrowObject f]) _
  have shallow : given.callDepth < maxCalls := by
    rw [still.idle]
    decide
  have called := call_returns arrow returns .undefined (JsonObject.image start.heap.size v) there shallow
  refine .of_eq (bind_of_ok made _) rfl (called.imp fun x after done => ?_)
  obtain ⟨rfl, left, rfl⟩ := done
  exact ⟨⟨still.idle, still.room, still.mute⟩, rfl, _, _, _, rfl, Nat.le_refl _, Nat.le_refl _,
    JsonObject.stored_extend _ _⟩

theorem task_reaches (whole : Session.zeroIn? (source code) = none)
    (known : (((parse (source code)).bind Program.arrow?).bind Function.returned?).isSome = true)
    (quiet : Quiet realm) (exact : Exact v) (deep : v.depth < JsonObject.maxDepth) (fits : Fits realm.heapLimit v)
    (text : StringFits realm.heapLimit (Units.ofString (String.ofList (scriptText v)))) :
    Reaches (1 + (scriptText v).length) (task code v) realm fun r _ => r = .ok (String.ofList (scriptText v)) := by
  obtain ⟨p, f, n, parsed, found, returned⟩ := Function.of_returned? known
  have arrow := (Program.eq_of_arrow? found).2
  have called := (called_reaches arrow (Function.returnsParameter returned) quiet fits).guarded
  rw [task]
  refine .of_eq (bind_of_ok (outcome_of_ok whole (evaluate_arrow arrow parsed found realm)) _) rfl ?_
  refine .of_eq (bind_of_ok (isCallable_arrow f realm) _) rfl (Reaches.bind called fun r after done => ?_)
  obtain ⟨x, rfl, still, same, lo, hi, shows⟩ := done
  simp only [shows.isUndefined]
  rw [← same] at text
  exact resultText_reaches still exact shows deep text

end Task

end Worker

namespace Script.Session

def started (fresh : Realm) (limits : Limits) (clock : Clock) : Realm :=
  { fresh with steps := clock limits.deadline, heapLimit := limits.heap }

section

variable {α : Type} {limits : Limits} {task : Run (Except Fault α)} {clock : Clock} {n : Nat} {a : α}

theorem ended_of_room (room : Room limits.heap 0) :
    ended limits task clock = task (started World.fresh limits clock) := by
  have enough : (limits.heap != 0 && decide (limits.heap < heapFloor)) = false := by
    rcases room with none | enough
    · simp [none]
    · simp [Nat.not_lt.mpr (Nat.le_trans (Nat.le_add_left _ _) enough)]
  rw [ended, inRoom]
  simp only [enough]
  rfl

theorem quiet_started {fresh : Realm} (quiet : Quiet fresh) (limits : Limits) (clock : Clock) :
    Quiet (started fresh limits clock) :=
  ⟨quiet.idle, quiet.room, quiet.mute⟩

theorem heapLimit_started (fresh : Realm) (limits : Limits) (clock : Clock) :
    (started fresh limits clock).heapLimit = limits.heap := rfl

theorem told_of_reaches {realm : Realm} (reaches : Reaches n task realm fun r _ => r = .ok a) :
    told (task realm) = .ok a ∨ (Overdue (task realm) ∧ realm.steps < n) := by
  rw [Reaches] at reaches
  cases ran : task realm with
  | ok r after =>
    rw [ran] at reaches
    exact .inl reaches.1
  | error e after =>
    rw [ran] at reaches
    exact .inr ⟨⟨⟨_, rfl⟩, beq_iff_eq.mpr reaches.1.2⟩, reaches.2⟩

end

end Script.Session

namespace Supervisor

def identity : String := "(r) => r"

section

variable {c : SandboxConfig} {v : Json} {bytes : Bytes} {clock : Session.Clock}

theorem identity_reaches {realm : Realm} (quiet : Quiet realm) (exact : Exact v) (shallow : v.depth ≤ 126)
    {limit : Nat} (room : Worker.HasRoom limit v) (same : realm.heapLimit = limit) :
    Reaches (1 + (scriptText v).length) (Worker.task identity v) realm fun r _ =>
      r = .ok (String.ofList (scriptText v)) := by
  subst same
  have known : (((parse (Worker.source identity)).bind Program.arrow?).bind Function.returned?).isSome = true := by
    decide +kernel
  have deep : v.depth < JsonObject.maxDepth := Nat.lt_of_le_of_lt shallow (by decide)
  exact Worker.task_reaches (by decide) known quiet exact deep room.objects
    (stringFits_perm (Json.scriptText_perm exact.regular) room.text)

theorem identity_ended {limits : WorkerLimits} (exact : Exact v) (shallow : v.depth ≤ 126)
    (room : Worker.HasRoom limits.heapLimit.toNat v) :
    let ran := Session.ended ⟨limits.timeout, limits.heapLimit.toNat⟩ (Worker.task identity v) clock
    Session.told ran = .ok (String.ofList (scriptText v)) ∨
      (Session.Overdue ran ∧ clock limits.timeout < 1 + (scriptText v).length) := by
  have reaches := identity_reaches
    (Session.quiet_started World.fresh_quiet ⟨limits.timeout, limits.heapLimit.toNat⟩ clock) exact shallow room
    (Session.heapLimit_started _ _ _)
  intro ran
  have ended : ran = Worker.task identity v
      (Session.started World.fresh ⟨limits.timeout, limits.heapLimit.toNat⟩ clock) :=
    Session.ended_of_room room.start
  rw [ended]
  exact Session.told_of_reaches reaches

theorem identity_admitted (exact : Exact v) (shallow : v.depth ≤ 126) (sent : request c identity v = .ok bytes)
    (countable : Countable c.worker.maxRequest) (code : identity.utf8ByteSize ≤ c.worker.maxCode.toNat) :
    Worker.Admitted c.worker ⟨bytes, none⟩ ⟨.transform, identity, v⟩ := by
  have readBack : ∀ x, Json.HasFloat x v → Json.ReadsBack x := fun x has => absurd has (exact.no_float x)
  have told : Text.isBlankText identity = false := by decide
  exact admitted_sent (Json.taken_of_regular exact.regular readBack _) shallow sent countable told code

theorem identity_read (exact : Exact v) (shallow : v.depth ≤ 126) :
    Json.readText (String.ofList (scriptText v)) = .ok v := by
  have readBack : ∀ x, Json.HasFloat x v → Json.ReadsBack x := fun x has => absurd has (exact.no_float x)
  rw [Json.readText_of_stands (Json.stands_scriptText exact.regular readBack _), if_pos]
  exact Nat.le_trans shallow (by decide)

theorem identity_fits (exact : Exact v) {limit : Nat} (text : v.render.utf8ByteSize ≤ limit) :
    (String.ofList (scriptText v)).utf8ByteSize ≤ limit := by
  rwa [utf8ByteSize_perm (Json.scriptText_perm exact.regular)]

theorem identity_responds {ran : EStateM.Result Abrupt Realm (Except Fault String)} (exact : Exact v) (shallow : v.depth ≤ 126)
    (text : v.render.utf8ByteSize ≤ c.worker.maxResult.toNat) (runs : Worker.Runs c.worker ⟨bytes, none⟩ clock ran)
    (done : Session.told ran = .ok (String.ofList (scriptText v))) :
    Worker.respond c.worker ⟨bytes, none⟩ clock = .success v := by
  rw [Worker.respond_value runs done, Worker.delivered, if_neg (Nat.not_lt.mpr (identity_fits exact text)),
    identity_read exact shallow]

end

/-- The code that gives back what it is given has every payload come back as it was, whatever the names of its
fields and the characters in its strings, as long as no limit is in the way. -/
theorem identity_kept (c : SandboxConfig) (v : Json) (exact : Exact v) (shallow : v.depth ≤ 126) (bytes : Bytes)
    (sent : request c identity v = .ok bytes) (countable : Countable c.worker.maxRequest)
    (code : identity.utf8ByteSize ≤ c.worker.maxCode.toNat)
    (text : v.render.utf8ByteSize ≤ c.worker.maxResult.toNat)
    (room : Worker.HasRoom c.worker.heapLimit.toNat v) (clock : Session.Clock)
    (inTime : ∀ ran, Worker.Runs c.worker ⟨bytes, none⟩ clock ran → ¬ Session.Overdue ran) (stderr : Bytes) :
    let written := (Worker.serve c.worker ⟨bytes, none⟩ none clock).bytes
    written = bytesOf (Wire.Response.success v).encode ∧
      (written.length ≤ c.maxStdout.toNat → resolve (.ok written) stderr (.code 0) c.maxStdout.toNat = .ok v) := by
  have runs : Worker.Runs c.worker ⟨bytes, none⟩ clock _ :=
    ⟨_, identity_admitted exact shallow sent countable code, rfl⟩
  have done : Session.told _ = .ok _ :=
    (identity_ended exact shallow room).resolve_right fun late => inTime _ runs late.1
  intro written
  refine ⟨?_, fun short => ?_⟩
  · exact congrArg (fun r => bytesOf (Wire.Response.encode r)) (identity_responds exact shallow text runs done)
  · exact resolve_value runs done (identity_fits exact text) (identity_read exact shallow)
      (fun x has => absurd has (exact.no_float x)) shallow stderr short

theorem identity_in_time {c : SandboxConfig} {v : Json} {bytes : Bytes} {clock : Session.Clock} (exact : Exact v)
    (shallow : v.depth ≤ 126) (sent : request c identity v = .ok bytes) (countable : Countable c.worker.maxRequest)
    (code : identity.utf8ByteSize ≤ c.worker.maxCode.toNat) (room : Worker.HasRoom c.worker.heapLimit.toNat v)
    (enough : (Json.compact v).length < clock c.worker.timeout)
    (ran : EStateM.Result Abrupt Realm (Except Fault String))
    (runs : Worker.Runs c.worker ⟨bytes, none⟩ clock ran) : ¬ Session.Overdue ran := by
  obtain ⟨r, admitted, rfl⟩ := runs
  have decoded := (identity_admitted exact shallow sent countable code).decoded
  rw [admitted.decoded] at decoded
  obtain rfl := Except.ok.inj decoded
  have size := (Json.scriptText_perm exact.regular).length_eq
  intro overdue
  rcases identity_ended exact shallow room with done | ⟨-, few⟩
  · obtain ⟨f, failed⟩ := overdue.failed
    rw [done] at failed
    cases failed
  · omega

-- Numbers, which a script sees in an order of its own, and names that mean something to it.
theorem identity_kept_names :
    let v : Json := .object [("10", .int 9007199254740992), ("2", .array [.null, .string "é\n𝄞"]),
      ("__proto__", .object []), ("toJSON", .bool false)]
    let bytes := bytesOf (Wire.Request.transform identity v).encode
    let written := (Worker.serve .standard ⟨bytes, none⟩ none).bytes
    v.depth ≤ 126 ∧ request .standard identity v = .ok bytes ∧
      written = bytesOf (Wire.Response.success v).encode ∧
      resolve (.ok written) [] (.code 0) SandboxConfig.standard.maxStdout.toNat = .ok v := by
  intro v bytes written
  have exact : Exact v := by
    refine .object (by decide) ?_
    simp only [List.forall_mem_cons]
    refine ⟨.int (by decide), .array ?_, .object .nil (List.forall_mem_nil _), .bool _, List.forall_mem_nil _⟩
    simp only [List.forall_mem_cons]
    exact ⟨.null, .string _, List.forall_mem_nil _⟩
  have shallow : v.depth ≤ 126 := by decide
  have sent : request .standard identity v = .ok bytes := if_neg (by decide +kernel)
  have code : identity.utf8ByteSize ≤ SandboxConfig.standard.worker.maxCode.toNat := by decide
  have room : Worker.HasRoom SandboxConfig.standard.worker.heapLimit.toNat v :=
    Worker.hasRoom_of_length exact (by decide) (.inr (by decide))
  have enough : (Json.compact v).length < Session.stepsFor SandboxConfig.standard.worker.timeout := by decide
  have inTime := identity_in_time exact shallow sent (by decide) code room enough
  obtain ⟨document, kept⟩ := identity_kept .standard v exact shallow bytes sent (by decide) code (by decide) room
    Session.stepsFor inTime []
  have short : written.length ≤ SandboxConfig.standard.maxStdout.toNat := by
    rw [show written = _ from document]
    decide +kernel
  exact ⟨shallow, sent, document, kept short⟩

theorem identity_refused :
    let c : SandboxConfig := { SandboxConfig.standard with worker := { WorkerLimits.standard with maxCode := 7 } }
    let v : Json := .bool true
    let bytes := bytesOf (Wire.Request.transform identity v).encode
    let written := (Worker.serve c.worker ⟨bytes, none⟩ none).bytes
    (Supervisor.new c = .ok ⟨c, none⟩ ∧ Exact v ∧ v.depth ≤ 126 ∧ request c identity v = .ok bytes ∧
      v.render.utf8ByteSize ≤ c.worker.maxResult.toNat ∧ Worker.HasRoom c.worker.heapLimit.toNat v ∧
      (∀ ran, Worker.Runs c.worker ⟨bytes, none⟩ Session.stepsFor ran → ¬ Session.Overdue ran) ∧
      written.length ≤ c.maxStdout.toNat) ∧
    resolve (.ok written) [] (.code 0) c.maxStdout.toNat ≠ .ok v := by
  intro c v bytes written
  have exact : Exact v := .bool true
  have sent : request c identity v = .ok bytes := if_neg (by decide +kernel)
  have readBack : ∀ x, Json.HasFloat x v → Json.ReadsBack x := fun x has => absurd has (exact.no_float x)
  have decoded : Wire.Request.decode bytes = .ok (.transform identity v) :=
    decode_request (Json.taken_of_regular exact.regular readBack _) sent
  have long : c.worker.maxCode.toNat < identity.utf8ByteSize := by decide
  have received : Worker.Received c.worker ⟨bytes, none⟩ := ⟨by decide, by decide +kernel, rfl⟩
  have refused := Worker.readRequest_of_longCode ⟨received, decoded⟩ rfl (by decide) long
  have document : written = bytesOf (Wire.Response.failure (.requestTooLarge 7)).encode :=
    congrArg (fun r => bytesOf (Wire.Response.encode r)) (Worker.respond_of_refused refused)
  have short : written.length ≤ c.maxStdout.toNat := by
    rw [document]
    decide +kernel
  refine ⟨⟨rfl, exact, by decide, sent, by decide, ?_, ?_, short⟩, ?_⟩
  · exact Worker.hasRoom_of_length exact (by decide) (.inr (by decide))
  · rintro ran ⟨r, admitted, rfl⟩
    have same := admitted.decoded.symm.trans decoded
    cases same
    exact absurd admitted.fits (Nat.not_le.mpr long)
  · rw [document] at short ⊢
    rw [resolve_failure _ [] short]
    exact nofun

end Supervisor

end BoundedScript
