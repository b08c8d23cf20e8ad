import BoundedScript.Config.DotEnv
import BoundedScript.Config.Json5
import BoundedScript.Config.Reading
import BoundedScript.Config.Toml.Reader
import BoundedScript.Config.Toml.Writer
import BoundedScript.Fault
import BoundedScript.Json.Writer

set_option autoImplicit false

namespace BoundedScript

open Text (Bytes)

inductive FileFault where
  | notFound
  | isDirectory
  | notDirectory
  | exists
  | denied
  | notText
  deriving DecidableEq

def FileFault.message : FileFault → String
  | .notFound => "No such file or directory (os error 2)"
  | .isDirectory => "Is a directory (os error 21)"
  | .notDirectory => "Not a directory (os error 20)"
  | .exists => "File exists (os error 17)"
  | .denied => "Permission denied (os error 13)"
  | .notText => "stream did not contain valid UTF-8"

namespace FilePath

-- The names on a path; empty ones and those for the same directory are left out.
def names (path : String) : List String :=
  ((path.toList.splitOn '/').map String.ofList).filter fun n => !n.isEmpty && n != "."

-- A path that ends so leads to a directory, or to nothing.
def endsOpen (path : String) : Bool :=
  path.toList.getLast? == some '/'

def resolve (before : List String) : List String → List String
  | [] => before
  | ".." :: rest => resolve before.dropLast rest
  | n :: rest => resolve (before ++ [n]) rest

-- What follows the last point of a file's name, if something precedes the point.
def extension? (path : String) : Option String :=
  match (names path).getLast? with
  | none => none
  | some name =>
    if name == ".." then none
    else
      let cs := name.toList.reverse
      let ending := cs.takeWhile (· != '.')
      match cs.drop ending.length with
      | '.' :: _ :: _ => some (String.ofList ending.reverse)
      | _ => none

end FilePath

structure FileTree where
  files : List (List String × Bytes)

namespace FileTree

def find? (t : FileTree) (path : List String) : Option Bytes :=
  (t.files.find? (·.1 == path)).map (·.2)

def isDirectory (t : FileTree) (path : List String) : Bool :=
  path.isEmpty || t.files.any fun f => path.isPrefixOf f.1 && path.length < f.1.length

def isFile (t : FileTree) (path : List String) : Bool :=
  (t.find? path).isSome

-- The shortest front of a path that is a file, the whole path not counted.
def passesFile (t : FileTree) (path : List String) : Bool :=
  (List.range path.length).any fun n => t.isFile (path.take n)

-- Where a path leads; absolute ones lead out of the tree, to nothing.
def locate (path : String) : Except FileFault (List String) :=
  if path.isEmpty || Config.isAbsolute path then .error .notFound
  else .ok (FilePath.resolve [] (FilePath.names path))

def read (t : FileTree) (path : String) : Except FileFault Bytes := do
  let place ← locate path
  match t.find? place with
  | some bytes => if FilePath.endsOpen path then .error .notDirectory else .ok bytes
  | none =>
    if t.isDirectory place then .error .isDirectory
    else if t.passesFile place then .error .notDirectory
    else .error .notFound

def put (t : FileTree) (path : List String) (bytes : Bytes) : FileTree :=
  ⟨(path, bytes) :: t.files.filter (·.1 != path)⟩

def write (t : FileTree) (path : String) (bytes : Bytes) : Except FileFault FileTree := do
  let place ← locate path
  let parent := place.dropLast
  if t.isFile parent then .error .exists
  else if t.passesFile parent then .error .notDirectory
  else if t.isDirectory place || FilePath.endsOpen path then .error .isDirectory
  else .ok (t.put place bytes)

end FileTree

namespace Config

def textOf (bytes : Bytes) : Except FileFault String :=
  match Text.ofBytes? bytes with
  | some s => .ok s
  | none => .error .notText

def ofToml? (text : String) : Option Config :=
  (Toml.read? text).bind ofDocument?

def ofJson5? (text : String) : Option Config :=
  (Json5.read? text).bind ofDocument?

/-- What the readers of the two formats say of a text that they refuse. -/
structure Complaints where
  json5 : String → String
  toml : String → String

def Complaints.unsaid : Complaints :=
  ⟨fun _ => "", fun _ => ""⟩

def parsed (complaint : String) : Option Config → Except Fault Config
  | some c => .ok c
  | none => .error (.config complaint)

def parse (path text : String) (complaints : Complaints := .unsaid) : Except Fault Config :=
  match FilePath.extension? path with
  | some "json" => parsed ("Invalid JSON config: " ++ complaints.json5 text) (ofJson5? text)
  | some "toml" => parsed ("Invalid TOML config: " ++ complaints.toml text) (ofToml? text)
  | _ =>
    parsed ("Failed to parse config: " ++ (Fault.config (complaints.json5 text)).message)
      ((ofToml? text).or (ofJson5? text))

def readFault (path : String) (f : FileFault) : Fault :=
  .config ("Failed to read config file " ++ path ++ ": " ++ f.message)

def ofFile (path : String) (content : Except FileFault Bytes) (complaints : Complaints := .unsaid) :
    Except Fault Config :=
  match content.bind textOf with
  | .error f => .error (readFault path f)
  | .ok text => parse path text complaints

def toToml (c : Config) : Except Fault String :=
  (Toml.render c.toJson).mapError fun text => .config ("Failed to serialize config: " ++ text)

def fileText (path : String) (c : Config) : Except Fault String :=
  match FilePath.extension? path with
  | some "json" => .ok c.toJson.renderLaidOut
  | _ => toToml c

def save (t : FileTree) (path : String) (c : Config) : Except Fault FileTree := do
  let text ← fileText path c
  match t.write path (Text.bytesOf text) with
  | .ok t => .ok t
  | .error f => .error (.io f.message)

def withEnvironment (env : Environment) (dotEnv : Option Bytes) (c : Config) : Config :=
  let env := match dotEnv with
    | some bytes => DotEnv.load bytes env
    | none => env
  c.overlay env

def ofExisting (path : String) (content : Except FileFault Bytes) (complaints : Complaints := .unsaid) :
    Except Fault Config :=
  match content with
  | .error .notFound | .error .notDirectory => .ok .standard
  | content => ofFile path content complaints

end Config
end BoundedScript
