import BoundedScript.Text.Blank
import BoundedScript.Text.Quoted
import BoundedScript.Text.Utf8

set_option autoImplicit false

namespace BoundedScript

inductive Rejection where
  | empty
  | tooLong (length limit : Nat)
  | container
  | quote
  | separator
  | comment
  | character (c : Char)
  | keyword (word : String)
  deriving DecidableEq

namespace Rejection

def message : Rejection → String
  | .empty => "empty expression"
  | .tooLong length limit =>
    "expression too long (" ++ toString length ++ " bytes, max " ++ toString limit ++ ")"
  | .container => "braces and brackets are not allowed"
  | .quote => "quotes are not allowed"
  | .separator => "semicolons, backslashes and line breaks are not allowed"
  | .comment => "comments are not allowed"
  | .character c => "forbidden character " ++ Text.quotedCharacter c
  | .keyword word => "forbidden keyword " ++ Text.quoted word

end Rejection

namespace Expression

-- Bytes of the longest accepted expression, blanks at its ends not counted.
def maxBytes : Nat := 512

def isContainer (c : Char) : Bool :=
  c == '\x7b' || c == '\x7d' || c == '[' || c == ']'

def isQuote (c : Char) : Bool :=
  c == '"' || c == '\'' || c == '\x60'

def isSeparator (c : Char) : Bool :=
  c == ';' || c == '\\' || c == '\n' || c == '\r'

def isCommentMark (a b : Char) : Bool :=
  (a == '/' && (b == '*' || b == '/')) || (a == '*' && b == '/')

def hasComment : List Char → Bool
  | a :: b :: rest => isCommentMark a b || hasComment (b :: rest)
  | _ => false

def operators : List Char :=
  ['_', '$', ' ', '(', ')', '.', '|', '+', '-', '*', '/', '%', '<', '>', '=', '!', '&', '?', ':', ',']

def isAllowed (c : Char) : Bool :=
  c.isAlphanum || operators.contains c

def keywords : List String :=
  ["function", "return", "new", "this", "while", "for", "do", "switch", "case", "default", "break",
   "continue", "if", "else", "try", "catch", "finally", "throw", "class", "extends", "super", "import",
   "export", "delete", "var", "let", "const", "async", "await", "yield", "with", "debugger"]

/-- What a search for words takes from the tables of a character set: which characters make up words, and
which stand for a given lower-case letter. -/
structure Letters where
  isWord : Char → Bool
  isCaseOf : Char → Char → Bool

-- The letters of ASCII; no others get as far as the search.
def Letters.ascii : Letters where
  isWord c := c.isAlphanum || c == '_'
  isCaseOf k c := c.toLower == k

-- Whether a word starts or ends between two neighbours; outside the text stands none.
def Letters.isBoundary (l : Letters) (a b : Option Char) : Bool :=
  a.any l.isWord != b.any l.isWord

def Letters.spelled (l : Letters) : (word cs : List Char) → Option (List Char × List Char)
  | [], cs => some ([], cs)
  | _ :: _, [] => none
  | k :: word, c :: cs =>
    if l.isCaseOf k c then (l.spelled word cs).map fun (found, rest) => (c :: found, rest) else none

def keywordAt (l : Letters) (before : Option Char) (cs : List Char) : Option (List Char) :=
  keywords.findSome? fun k =>
    match l.spelled k.toList cs with
    | some (found, rest) =>
      if l.isBoundary before cs.head? && l.isBoundary found.getLast? rest.head? then some found else none
    | none => none

def findKeyword (l : Letters) (before : Option Char) : List Char → Option (List Char)
  | [] => none
  | c :: rest =>
    match keywordAt l before (c :: rest) with
    | some found => some found
    | none => findKeyword l (some c) rest

def checkBy (l : Letters) (cs : List Char) : Except Rejection Unit :=
  let length := (String.ofList cs).utf8ByteSize
  if cs.isEmpty then .error .empty
  else if maxBytes < length then .error (.tooLong length maxBytes)
  else if cs.any isContainer then .error .container
  else if cs.any isQuote then .error .quote
  else if cs.any isSeparator then .error .separator
  else if hasComment cs then .error .comment
  else match cs.find? (fun c => !isAllowed c) with
    | some c => .error (.character c)
    | none =>
      match findKeyword l none cs with
      | some word => .error (.keyword (String.ofList word))
      | none => .ok ()

def validateBy (l : Letters) (s : String) : Except Rejection String :=
  let cs := Text.trimList s.toList
  match checkBy l cs with
  | .ok () => .ok (String.ofList cs)
  | .error r => .error r

def validate (s : String) : Except Rejection String :=
  validateBy .ascii s

def isNameStart (c : Char) : Bool :=
  c.isAlpha || c == '_' || c == '$'

def isIdentifier (name : String) : Bool :=
  match name.toList with
  | [] => false
  | c :: rest => isNameStart c && rest.all fun c => c.isAlphanum || c == '_' || c == '$'

end Expression
end BoundedScript
