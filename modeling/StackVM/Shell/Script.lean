/-! # Scripts

The structure of a script: words are made of pieces that are expanded when the script runs, commands
of words, redirections and other commands.
-/

namespace StackVM.Shell

/-- How a file is opened by a redirection. -/
inductive Opening where
  | read
  /-- What is written replaces the file; `force` does so even if that is switched off. -/
  | write (force : Bool)
  | append
  | readWrite
deriving DecidableEq, Repr

/-- What is done about a parameter that is unset, or set. -/
inductive Guard where
  /-- A word stands in for it. -/
  | useDefault
  /-- A word is assigned to it. -/
  | assignDefault
  /-- It is an error, for which the word gives the reason. -/
  | demand
  /-- A word stands for it if it is set. -/
  | replace
deriving DecidableEq, Repr

mutual

inductive Piece where
  /-- Text outside of quotes. -/
  | plain (text : List Char)
  /-- Text in quotes or behind a backslash. -/
  | quoted (text : List Char)
  /-- Pieces in double quotes. -/
  | double (pieces : List Piece)
  | parameter (name : List Char) (form : Form)
  | arithmetic (pieces : List Piece)
  /-- The output of a command. -/
  | output (command : Command)

/-- What a parameter stands for. -/
inductive Form where
  | value
  /-- The number of its bytes. -/
  | size
  /-- Its value under a condition; `empty` says that an empty value counts as none. -/
  | guarded (guard : Guard) (empty : Bool) (word : List Piece)
  /-- Its value without what matches a pattern at its start or its end. -/
  | trimmed (atEnd longest : Bool) (pattern : List Piece)
  /-- A form that there is not. -/
  | unknown

inductive Redirection where
  | file (stream : Nat) (opening : Opening) (path : List Piece)
  /-- The stream becomes a copy of another one, or is closed. -/
  | duplicate (stream : Nat) (source : List Piece)
  /-- The stream reads a text from the script. -/
  | here (stream : Nat) (text : List Piece)

/-- A command. -/
inductive Command where
  | nothing
  | simple (line : Nat) (assignments : List (List Char × List Piece)) (words : List (List Piece))
      (redirections : List Redirection)
  | sequence (first second : Command)
  /-- The second one runs if the first one succeeds. -/
  | both (first second : Command)
  /-- The second one runs if the first one fails. -/
  | either (first second : Command)
  | negated (body : Command)
  | pipeline (stages : List Command)
  | background (body : Command)
  | subshell (body : Command)
  | conditional (test yes no : Command)
  /-- A loop that runs as long as its test succeeds, or until it does. -/
  | loop (untilSuccess : Bool) (test body : Command)
  /-- A loop over words, or over the positional parameters. -/
  | each (name : List Char) (words : Option (List (List Piece))) (body : Command)
  /-- The first case with a matching pattern. -/
  | select (word : List Piece) (cases : List (List (List Piece) × Command))
  | define (name : List Char) (body : Command)
  | redirected (body : Command) (redirections : List Redirection)
  /-- A program that is run with its arguments as they are. -/
  | program (words : List String)
  /-- A text that is read and run line by line. -/
  | script (text : String)
  /-- Lets the commands in the background run. -/
  | settle

end

instance : Inhabited Command := ⟨.nothing⟩

instance : Inhabited Piece := ⟨.plain []⟩

abbrev Word := List Piece

/-- A character that may stand in the name of a variable. -/
def isNameCharacter (c : Char) : Bool := c.isAlphanum || c == '_'

def isName (text : List Char) : Bool :=
  !text.isEmpty && text.all isNameCharacter && !(text.headD '0').isDigit

end StackVM.Shell
