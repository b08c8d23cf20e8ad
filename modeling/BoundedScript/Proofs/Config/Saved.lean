import BoundedScript.Proofs.Config.Reread
import BoundedScript.Proofs.Text.Encoding

set_option autoImplicit false

namespace BoundedScript

section Files

variable {t t' : FileTree} {path : String} {bytes : Text.Bytes}

theorem FileTree.find?_put (t : FileTree) (place : List String) (bytes : Text.Bytes) :
    (t.put place bytes).find? place = some bytes := by
  simp [find?, put]

theorem FileTree.read_write (written : t.write path bytes = .ok t') : t'.read path = .ok bytes := by
  obtain ⟨place, located, placed⟩ := bind_eq_ok_iff.mp written
  dsimp only at placed
  split at placed
  next => cases placed
  split at placed
  next => cases placed
  split at placed
  next => cases placed
  next closed =>
    cases placed
    rw [Bool.or_eq_true, not_or] at closed
    rw [read, located]
    simp [bind, Except.bind, find?_put, closed.2]

theorem Config.textOf_bytesOf (s : String) : textOf (Text.bytesOf s) = .ok s := by
  rw [textOf, Text.ofBytes?, Text.bytesOf_eq, Text.fromUTF8?_encoded]

variable {c : Config} {complaints : Config.Complaints}

theorem Config.ofFile_save (saved : save t path c = .ok t') :
    ∃ text, fileText path c = .ok text ∧ ofFile path (t'.read path) complaints = parse path text complaints := by
  obtain ⟨text, written, saved⟩ := bind_eq_ok_iff.mp saved
  split at saved
  next placed =>
    cases saved
    refine ⟨text, written, ?_⟩
    rw [ofFile, FileTree.read_write placed, Except.bind, textOf_bytesOf]
  next => cases saved

theorem Config.fileText_laidOut (json : FilePath.extension? path = some "json") :
    fileText path c = .ok c.toJson.renderLaidOut := by
  rw [fileText, json]
  rfl

theorem Config.fileText_tables (other : FilePath.extension? path ≠ some "json") : fileText path c = toToml c := by
  rw [fileText]
  split
  next same => exact absurd same other
  next => rfl

theorem Config.parse_tables {text : String} (other : FilePath.extension? path ≠ some "json")
    (read : ofToml? text = some c) : parse path text complaints = .ok c := by
  rw [parse]
  split
  next same => exact absurd same other
  next => rw [read, parsed]
  next => rw [read, Option.some_or, parsed]

theorem Config.ofFile_tables (saved : save t path c = .ok t') (other : FilePath.extension? path ≠ some "json") :
    ofFile path (t'.read path) complaints = .ok c := by
  obtain ⟨text, written, loaded⟩ := ofFile_save saved
  rw [fileText_tables other] at written
  rw [loaded]
  exact parse_tables other (ofToml?_toToml written)

theorem Config.ofFile_laidOut (saved : save t path c = .ok t') (json : FilePath.extension? path = some "json") :
    ofFile path (t'.read path) complaints =
      parsed ("Invalid JSON config: " ++ complaints.json5 c.toJson.renderLaidOut) (ofJson5? c.toJson.renderLaidOut) := by
  obtain ⟨text, written, loaded⟩ := ofFile_save saved
  rw [fileText_laidOut json] at written
  rw [loaded, ← Except.ok.inj written, parse, json]
  rfl

/-- What a laid out text keeps of a configuration is all of it: its path is read to the end, and each of its counts is
a double or the greatest of all. -/
def Config.IsKept (c : Config) : Prop :=
  ¬ c.sandbox.IsBroken ∧ ∀ n ∈ c.counts, Double.IsShort n.toNat ∨ n.toNat = 2 ^ 64 - 1

theorem Config.mapCounts_nearest : c.mapCounts Double.nearest = c ↔
    ∀ n ∈ c.counts, Double.IsShort n.toNat ∨ n.toNat = 2 ^ 64 - 1 := by
  simp only [mapCounts_eq_self, Double.nearest_eq_self]

/-- A saved configuration is loaded unchanged from tables. A laid out text gives its counts as doubles, and nothing
where the path of the program holds a line or a paragraph separator. -/
theorem Config.load_saved (complaints : Complaints) (saved : save t path c = .ok t') :
    (ofFile path (t'.read path) complaints = .ok c ↔ (FilePath.extension? path = some "json" → c.IsKept)) ∧
    (FilePath.extension? path = some "json" → ¬ c.sandbox.IsBroken →
      ofFile path (t'.read path) complaints = .ok (c.mapCounts Double.nearest)) ∧
    (FilePath.extension? path = some "json" → c.sandbox.IsBroken →
      ofFile path (t'.read path) complaints =
        .error (.config ("Invalid JSON config: " ++ complaints.json5 c.toJson.renderLaidOut))) := by
  have whole (json : FilePath.extension? path = some "json") (unbroken : ¬ c.sandbox.IsBroken) :
      ofFile path (t'.read path) complaints = .ok (c.mapCounts Double.nearest) := by
    rw [ofFile_laidOut saved json, ofJson5?_laidOut unbroken, parsed]
  have refused (json : FilePath.extension? path = some "json") (broken : c.sandbox.IsBroken) :
      ofFile path (t'.read path) complaints =
        .error (.config ("Invalid JSON config: " ++ complaints.json5 c.toJson.renderLaidOut)) := by
    rw [ofFile_laidOut saved json, ofJson5?_broken broken, parsed]
  refine ⟨⟨fun loaded json => ?_, fun kept => ?_⟩, whole, refused⟩
  · have unbroken : ¬ c.sandbox.IsBroken := by
      intro broken
      rw [refused json broken] at loaded
      cases loaded
    rw [whole json unbroken] at loaded
    exact ⟨unbroken, mapCounts_nearest.mp (Except.ok.inj loaded)⟩
  · by_cases json : FilePath.extension? path = some "json"
    · obtain ⟨unbroken, short⟩ := kept json
      rw [whole json unbroken, mapCounts_nearest.mpr short]
    · exact ofFile_tables saved json

-- One more than a double of 53 digits is the first count that is lost.
theorem Config.load_saved_rounded :
    let c := { Config.standard with sandbox.worker.cpuSeconds := 0x20_0000_0000_0001 }
    ∃ t', save ⟨[]⟩ "c.json" c = .ok t' ∧
      ofFile "c.json" (t'.read "c.json") .unsaid =
        .ok { c with sandbox.worker.cpuSeconds := 0x20_0000_0000_0000 } := by
  intro c
  have saved : save ⟨[]⟩ "c.json" c = .ok ⟨[(["c.json"], Text.bytesOf c.toJson.renderLaidOut)]⟩ := rfl
  have rounded : c.mapCounts Double.nearest = { c with sandbox.worker.cpuSeconds := 0x20_0000_0000_0000 } := by
    decide +kernel
  have loaded := (load_saved .unsaid saved).2.1 rfl (by rintro ⟨path, there, -⟩; cases there)
  rw [rounded] at loaded
  exact ⟨_, saved, loaded⟩

end Files

end BoundedScript
