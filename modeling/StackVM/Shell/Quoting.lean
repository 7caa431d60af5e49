import StackVM.Text.Search
import StackVM.Value.Basic

/-! # Command lines

Words are put in single quotes, so that nothing in them has a meaning for the shell. A quote within
a word is written outside of the quotes, behind a backslash. Only a record whose single field is
named `raw` passes its text on as it is.
-/

namespace StackVM.Shell

/-- A quote within a quoted word: the quotes are closed, the quote is escaped, they are opened
again. -/
def escapedQuote : List Char := ['\'', '\\', '\'', '\'']

def quote (word : List Char) : List Char :=
  '\'' :: word.flatMap (fun c => if c = '\'' then escapedQuote else [c]) ++ ['\'']

/-- The text that an argument passes on without quotes. -/
def rawText? : Value → Option String
  | .obj [("raw", v)] => some v.text
  | _ => none

/-- What an argument contributes to the command line. -/
def argumentWords (v : Value) : List (List Char) :=
  match rawText? v with
  | some text => [text.toList]
  | none => v.words.map fun word => quote word.toList

def commandLine (arguments : List Value) : String :=
  String.ofList (Text.join [' '] (arguments.flatMap argumentWords))

end StackVM.Shell
