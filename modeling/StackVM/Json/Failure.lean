import StackVM.Text.Utf8

/-! # Why and where reading a document fails

A failure remembers what was still unread, so that its position follows from the whole text: the
line number and the number of bytes since the line began.
-/

namespace StackVM.Json

/-- What is wrong with a document. The last five concern a well-formed document of the wrong shape.
-/
inductive Cause where
  | endInValue
  | endInList
  | endInObject
  | endInString
  | expectedValue
  | expectedIdent
  | expectedCommaOrBracket
  | expectedCommaOrBrace
  | expectedColon
  | trailingComma
  | keyMustBeString
  | trailingCharacters
  | invalidNumber
  | numberOutOfRange
  | invalidEscape
  | unfinishedSurrogate
  | loneSurrogate
  | controlCharacter
  | tooDeep
  | wrongType (found expected : String)
  | missingField (name : String)
  | duplicateField (name : String)
  | tooShort (length : Nat) (expected : String)
  | noVariant (type : String)
deriving DecidableEq, Repr

def Cause.message : Cause → String
  | .endInValue => "EOF while parsing a value"
  | .endInList => "EOF while parsing a list"
  | .endInObject => "EOF while parsing an object"
  | .endInString => "EOF while parsing a string"
  | .expectedValue => "expected value"
  | .expectedIdent => "expected ident"
  | .expectedCommaOrBracket => "expected `,` or `]`"
  | .expectedCommaOrBrace => "expected `,` or `\x7d`"
  | .expectedColon => "expected `:`"
  | .trailingComma => "trailing comma"
  | .keyMustBeString => "key must be a string"
  | .trailingCharacters => "trailing characters"
  | .invalidNumber => "invalid number"
  | .numberOutOfRange => "number out of range"
  | .invalidEscape => "invalid escape"
  | .unfinishedSurrogate => "unexpected end of hex escape"
  | .loneSurrogate => "lone leading surrogate in hex escape"
  | .controlCharacter => "control character (\\u0000-\\u001F) found while parsing a string"
  | .tooDeep => "recursion limit exceeded"
  | .wrongType found expected => s!"invalid type: {found}, expected {expected}"
  | .missingField name => s!"missing field `{name}`"
  | .duplicateField name => s!"duplicate field `{name}`"
  | .tooShort length expected => s!"invalid length {length}, expected {expected}"
  | .noVariant type => s!"data did not match any variant of untagged enum {type}"

/-- A cause together with the unread text, and how many bytes of it the position includes. -/
structure Failure where
  cause : Cause
  unread : List Char
  ahead : Nat
deriving DecidableEq, Repr

/-- A failure right before the unread text. -/
def Failure.here (cause : Cause) (unread : List Char) : Failure := ⟨cause, unread, 0⟩

/-- A failure whose position includes the next byte. -/
def Failure.next (cause : Cause) (unread : List Char) : Failure := ⟨cause, unread, 1⟩

/-- A place in a text. -/
structure Position where
  line : Nat
  column : Nat
deriving DecidableEq, Repr

/-- The place reached after a number of bytes, counted from a place where the text begins. -/
def Position.advance (p : Position) : Nat → List Char → Position
  | 0, _ => p
  | _, [] => p
  | bytes + 1, c :: rest =>
    if c == '\n' then Position.advance ⟨p.line + 1, 0⟩ bytes rest
    else if c.utf8Size ≤ bytes + 1 then
      Position.advance ⟨p.line, p.column + c.utf8Size⟩ (bytes + 1 - c.utf8Size) rest
    else ⟨p.line, p.column + bytes + 1⟩

/-- Where a failure lies in the text that was read. -/
def Failure.position (f : Failure) (text : List Char) : Position :=
  Position.advance ⟨1, 0⟩ (Text.utf8Size text - Text.utf8Size f.unread + f.ahead) text

/-- The description of a failure with its position in the text that was read. -/
def Failure.describe (f : Failure) (text : List Char) : String :=
  let p := f.position text
  s!"{f.cause.message} at line {p.line} column {p.column}"

/-- The outcome of reading the beginning of a text: a result with the unread rest, or a failure. -/
abbrev Scan (α : Type) := Except Failure (α × List Char)

end StackVM.Json
