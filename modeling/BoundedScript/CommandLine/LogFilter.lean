set_option autoImplicit false

namespace BoundedScript.CommandLine

structure LogRule where
  target : String
  letsErrors : Bool

namespace LogRule

def levels : List (String × Bool) :=
  [("off", false), ("error", true), ("warn", true), ("info", true), ("debug", true), ("trace", true),
   ("0", false), ("1", true), ("2", true), ("3", true), ("4", true), ("5", true)]

def level? (s : String) : Option Bool :=
  (levels.find? (·.1 == String.ofList (s.toList.map Char.toLower))).map (·.2)

def isTargetChar (c : Char) : Bool :=
  c.isAlphanum || c == '_' || c == ':' || c == '-' || 0x80 ≤ c.val

def parse? (s : String) : Option LogRule :=
  match level? s with
  | some passes => some ⟨"", passes⟩
  | none =>
    match s.splitOn "=" with
    | [target] => if !target.isEmpty && target.toList.all isTargetChar then some ⟨target, true⟩ else none
    | [target, level] =>
      if target.isEmpty || !target.toList.all isTargetChar then none
      else if level.isEmpty then some ⟨target, true⟩
      else (level? level).map fun passes => ⟨target, passes⟩
    | _ => none

-- Of two rules for a source, the one with the longer target counts, of equals the later one.
def closer (source : String) (best : Option LogRule) (r : LogRule) : Option LogRule :=
  if !source.startsWith r.target then best
  else match best with
    | some b => if b.target.length ≤ r.target.length then some r else best
    | none => some r

end LogRule

/-- Whether a filter lets the errors of a source through. A filter that cannot be read counts for nothing,
an empty one lets all errors through. -/
def showsErrors (source : String) (filter : Option String) : Bool :=
  match filter with
  | none => true
  | some text =>
    let parts := (text.splitOn ",").filter (!·.isEmpty)
    if parts.isEmpty then true
    else match parts.mapM LogRule.parse? with
      | none => true
      | some rules =>
        match rules.foldl (LogRule.closer source) none with
        | some r => r.letsErrors
        | none => false

end BoundedScript.CommandLine
