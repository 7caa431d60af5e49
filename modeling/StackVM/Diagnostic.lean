import StackVM.Json.Writer
import StackVM.Text.Blank

/-! # Diagnostics

An error or a warning with an optional line, notes and an optional suggestion, shown to a person or
written as one line of JSON.
-/

namespace StackVM

/-- How grave a diagnostic is. -/
inductive Severity where
  | error
  | warning
deriving DecidableEq, Repr

def Severity.name : Severity → String
  | .error => "error"
  | .warning => "warning"

/-- A message to the person who runs a program. -/
structure Diagnostic where
  severity : Severity
  message : String
  line : Option Int := none
  notes : List String := []
  suggestion : Option String := none
deriving DecidableEq, Repr

namespace Diagnostic

/-- The style of a piece of text on a terminal. -/
inductive Style where
  | bold
  | red
  | yellow
  | cyan
  | dim
deriving DecidableEq, Repr

def Style.code : Style → String
  | .bold => "\x1b[1m"
  | .red => "\x1b[1;31m"
  | .yellow => "\x1b[1;33m"
  | .cyan => "\x1b[36m"
  | .dim => "\x1b[2m"

/-- The code that switches all styles off. -/
def resetCode : String := "\x1b[0m"

/-- Styles a text when colour is wanted. -/
def paint (color : Bool) (style : Style) (text : String) : String :=
  if color then style.code ++ text ++ resetCode else text

def severityStyle : Severity → Style
  | .error => .red
  | .warning => .yellow

/-- The form for a terminal, each part on lines of its own. -/
def renderText (d : Diagnostic) (color : Bool) : String :=
  let head := paint color (severityStyle d.severity) d.severity.name ++ ": " ++
    paint color .bold d.message ++ "\n"
  let place := match d.line with
    | some line => "  " ++ paint color .cyan "-->" ++ " line " ++ Number.integerText line ++ "\n"
    | none => ""
  let remark := fun (label text : String) =>
    "  " ++ paint color .dim "=" ++ " " ++ label ++ ": " ++ text ++ "\n"
  let notes := String.join (d.notes.map (remark "note"))
  let suggestion := match d.suggestion with
    | some text => remark "suggestion" text
    | none => ""
  head ++ place ++ notes ++ suggestion

/-- Sets a member if there is a value for it. -/
def addMember (members : Record Json) (name : String) : Option Json → Record Json
  | some value => members.insert name value
  | none => members

/-- The members that every diagnostic has. -/
def basicMembers (d : Diagnostic) : Record Json :=
  .ofList [("severity", .str d.severity.name), ("message", .str d.message),
    ("notes", .arr (d.notes.map .str))]

def members (d : Diagnostic) : Record Json :=
  addMember (addMember d.basicMembers "line" (d.line.map .int)) "suggestion" (d.suggestion.map .str)

def toJson (d : Diagnostic) : Json := .obj d.members

/-- The form of one JSON line. -/
def renderJson (d : Diagnostic) : String := d.toJson.compact

/-- How diagnostics are written. -/
inductive Format where
  | text (color : Bool)
  | json
deriving DecidableEq, Repr

def render (d : Diagnostic) : Format → String
  | .text color => d.renderText color
  | .json => d.renderJson

/-- Removes trailing white space. -/
def trimEnd (text : String) : String :=
  String.ofList (text.toList.reverse.dropWhile Text.isBlank).reverse

/-- What is written to the error stream for a diagnostic. -/
def streamText (d : Diagnostic) (format : Format) : String := trimEnd (d.render format) ++ "\n"

end Diagnostic

end StackVM
