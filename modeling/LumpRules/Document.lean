import LumpRules.Document.Comments
import LumpRules.Document.Commas
import LumpRules.Document.Scanner
import LumpRules.Document.Position
import LumpRules.Document.Sections

/-!
# Rule documents

A rule document is an object in a relaxed notation: comments, trailing commas and a leading
byte-order mark are allowed, and a name may occur several times.  `read` brings the text into
the plain notation, `scan` captures the sections of a plain text, and `parse` does both.
-/

namespace LumpRules.Document

/-- A text without the byte-order mark it may start with. -/
def withoutMark (text : String) : String :=
  match text.toList with
  | '\ufeff' :: rest => String.ofList rest
  | _ => text

/-- A document in the plain notation. -/
def read (text : String) : String :=
  withoutTrailingCommas (withoutComments (withoutMark text))

/-- What the scanner missed, and where. -/
structure ParseError where
  expected : List Expected
  position : Position
  deriving DecidableEq, Repr

/-- What was expected, or nothing where the text should have ended. -/
def ParseError.message (error : ParseError) : String :=
  match error.expected with
  | [] => ""
  | expected => "expected " ++ ", ".intercalate (expected.map Expected.describe)

/-- The position of a scan error in the text that was scanned. -/
def ScanError.toParseError (text : List Char) (error : ScanError) : ParseError :=
  ⟨error.expected,
    .between (text.take (text.length - error.rest.length)) error.rest⟩

/-- Whether the text of a member is an object or an array. -/
def Member.isContainer (member : Member) : Bool :=
  match member.start with
  | '{' :: _ => true
  | '[' :: _ => true
  | _ => false

/-- The sections made up by the members of a document: those that are objects or arrays. -/
def Sections.ofMembers (members : List Member) : Sections :=
  (members.filter Member.isContainer).foldl (fun sections m => sections.push m.name m.raw) {}

/-- The sections of a text in the plain notation. -/
def scan (text : String) : Except ParseError Sections :=
  match scanDocument text.toList with
  | .ok members => .ok (.ofMembers members)
  | .error error => .error (error.toParseError text.toList)

/-- The sections of a rule document. -/
def parse (text : String) : Except ParseError Sections :=
  scan (read text)

end LumpRules.Document
