import Mathlib.Data.List.Forall2
import Mathlib.Tactic.SplitIfs
import StackVM.Shell.Quoting
import StackVM.Shell.Source

/-! # Command lines are read as they were meant

A shell splits a line into words at blanks; single quotes and a backslash take away the meaning of
what they cover, and some characters end a word and are tokens by themselves. A lexer that reads a
line character by character is between two words, and outside of all quotes, wherever an argument of
a command line starts. So an argument is read as its own words with every character quoted, whatever
is in them and whatever complete text stands before and behind.
-/

namespace StackVM.Shell

/-- A character of a word; a quoted one stands for itself. -/
structure Letter where
  char : Char
  quoted : Bool
deriving DecidableEq, Repr

/-- A part of a line. -/
inductive Token where
  | word (letters : List Letter)
  /-- A character that ends a word and has a meaning by itself. -/
  | operator (c : Char)
deriving DecidableEq, Repr

/-- What covers the next character. -/
inductive Cover where
  | nothing
  | backslash
  | quotes
deriving DecidableEq, Repr

/-- The state in which a lexer has read a part of a line. -/
structure Lexer where
  /-- The tokens that are complete. -/
  tokens : List Token := []
  /-- The word that is not complete yet. -/
  word : Option (List Letter) := none
  cover : Cover := .nothing
deriving DecidableEq, Repr

namespace Lexer

/-- Adds letters to the current word, which may start with them. -/
def extend (l : Lexer) (letters : List Letter) : Lexer :=
  { l with word := some (l.word.getD [] ++ letters) }

/-- Completes the current word. -/
def complete (l : Lexer) : Lexer :=
  match l.word with
  | some letters => { l with tokens := l.tokens ++ [.word letters], word := none }
  | none => l

/-- Reads a character. A line break behind a backslash joins two lines. -/
def read (l : Lexer) (c : Char) : Lexer :=
  match l.cover with
  | .quotes => if c = '\'' then { l with cover := .nothing } else l.extend [⟨c, true⟩]
  | .backslash =>
    let l := { l with cover := .nothing }
    if c = '\n' then l else l.extend [⟨c, true⟩]
  | .nothing =>
    if c = '\'' then { l.extend [] with cover := .quotes }
    else if c = '\\' then { l with cover := .backslash }
    else if Source.isBlank c then l.complete
    else if Source.endsWord c then
      let l := l.complete
      { l with tokens := l.tokens ++ [.operator c] }
    else l.extend [⟨c, false⟩]

/-- Reads a text. -/
def readAll (l : Lexer) (text : List Char) : Lexer := text.foldl read l

/-- The same state with more tokens before. -/
def after (before : List Token) (l : Lexer) : Lexer := { l with tokens := before ++ l.tokens }

end Lexer

/-- The tokens of a line; none if quotes are not closed or a backslash is the last character. -/
def tokenize (line : List Char) : Option (List Token) :=
  let l := Lexer.readAll {} line
  if l.cover = .nothing then some l.complete.tokens else none

/-- A word all of whose characters stand for themselves. -/
def quotedLetters (word : List Char) : List Letter := word.map fun c => ⟨c, true⟩

/-- A word of which nothing has a meaning for the shell. -/
def quotedWord (word : String) : Token := .word (quotedLetters word.toList)

namespace Lexer

variable (l : Lexer)

theorem readAll_append (text more : List Char) :
    l.readAll (text ++ more) = (l.readAll text).readAll more :=
  List.foldl_append

private theorem complete_after (before : List Token) :
    (l.after before).complete = l.complete.after before := by
  obtain ⟨tokens, word, cover⟩ := l
  cases word with
  | none => rfl
  | some letters => simp [complete, after]

private theorem read_after (before : List Token) (c : Char) :
    (l.after before).read c = (l.read c).after before := by
  obtain ⟨tokens, word, cover⟩ := l
  cases cover with
  | nothing =>
    have complete := complete_after ⟨tokens, word, .nothing⟩ before
    simp only [after] at complete
    simp only [read, after, complete]
    split_ifs
    · rfl
    · rfl
    · rfl
    · simp
    · rfl
  | backslash =>
    simp only [read, after]
    split_ifs <;> rfl
  | quotes =>
    simp only [read, after]
    split_ifs <;> rfl

/-- What is read does not depend on the tokens before it. -/
theorem readAll_after (before : List Token) (text : List Char) :
    (l.after before).readAll text = (l.readAll text).after before := by
  induction text generalizing l with
  | nil => rfl
  | cons c rest ih =>
    change ((l.after before).read c).readAll rest = ((l.read c).readAll rest).after before
    rw [read_after, ih]

/-- A blank outside of quotes completes a word. -/
theorem read_blank (uncovered : l.cover = .nothing) : l.read ' ' = l.complete := by
  simp [read, uncovered, Source.isBlank]

private theorem complete_eq_after (uncovered : l.cover = .nothing) :
    l.complete = ({} : Lexer).after l.complete.tokens := by
  obtain ⟨tokens, word, cover⟩ := l
  cases uncovered
  cases word <;> simp [complete, after]

/-- The lexer within quotes, with letters of the current word already read. -/
def within (letters : List Letter) : Lexer := { l.extend letters with cover := .quotes }

private theorem within_read {c : Char} (other : c ≠ '\'') (letters : List Letter) :
    (l.within letters).read c = l.within (letters ++ [⟨c, true⟩]) := by
  simp [within, read, other, extend]

/-- An escaped quote leaves the quotes and enters them again. -/
theorem within_readAll_escapedQuote (letters : List Letter) :
    (l.within letters).readAll escapedQuote = l.within (letters ++ [⟨'\'', true⟩]) := by
  simp [within, readAll, escapedQuote, read, extend]

private theorem within_readAll (word : List Char) (letters : List Letter) :
    (l.within letters).readAll (word.flatMap fun c => if c = '\'' then escapedQuote else [c]) =
      l.within (letters ++ quotedLetters word) := by
  induction word generalizing letters with
  | nil => simp [readAll, quotedLetters]
  | cons c rest ih =>
    have letter : (l.within letters).readAll (if c = '\'' then escapedQuote else [c]) =
        l.within (letters ++ [⟨c, true⟩]) := by
      split_ifs with quote
      · rw [quote]
        exact l.within_readAll_escapedQuote letters
      · exact l.within_read quote letters
    rw [List.flatMap_cons, readAll_append, letter, ih]
    simp [quotedLetters]

/-- A word in quotes is read as letters that stand for themselves, and the quotes are closed. -/
theorem readAll_quote (word : List Char) (uncovered : l.cover = .nothing) :
    l.readAll (quote word) = l.extend (quotedLetters word) := by
  have opened : l.read '\'' = l.within [] := by
    simp [read, uncovered, within]
  have closed : (l.within (quotedLetters word)).read '\'' = l.extend (quotedLetters word) := by
    simp [within, read, extend, uncovered]
  calc l.readAll (quote word)
      = ((l.read '\'').readAll (word.flatMap fun c => if c = '\'' then escapedQuote else [c])).readAll ['\''] :=
        readAll_append _ _ _
    _ = (l.within (quotedLetters word)).read '\'' := by rw [opened, within_readAll]; rfl
    _ = l.extend (quotedLetters word) := closed

end Lexer

private theorem tokenize_quote (word : List Char) :
    tokenize (quote word) = some [.word (quotedLetters word)] := by
  simp [tokenize, Lexer.readAll_quote, Lexer.extend, Lexer.complete]

/-- Behind a complete text and a blank the lexer starts anew. -/
theorem tokenize_append_blank {text : List Char} {tokens : List Token}
    (complete : tokenize text = some tokens) (rest : List Char) :
    tokenize (text ++ ' ' :: rest) = (tokenize rest).map (tokens ++ ·) := by
  unfold tokenize at complete
  dsimp only at complete
  split_ifs at complete with uncovered
  cases complete
  have started : Lexer.readAll {} (text ++ ' ' :: rest) =
      (Lexer.readAll {} rest).after (Lexer.readAll {} text).complete.tokens := by
    rw [Lexer.readAll_append, ← Lexer.readAll_after, ← Lexer.complete_eq_after _ uncovered,
      ← Lexer.read_blank _ uncovered]
    rfl
  simp only [tokenize, started, Lexer.complete_after]
  have cover (before : List Token) (l : Lexer) : (l.after before).cover = l.cover := rfl
  rw [cover]
  split_ifs <;> rfl

/-- Complete texts with blanks between them are read one by one. -/
theorem tokenize_join {pieces : List (List Char)} {tokens : List (List Token)}
    (complete : List.Forall₂ (fun piece own => tokenize piece = some own) pieces tokens) :
    tokenize (Text.join [' '] pieces) = some tokens.flatten := by
  induction complete with
  | nil => rfl
  | @cons piece own pieces tokens first rest ih =>
    cases rest with
    | nil => simpa [Text.join] using first
    | cons second rest =>
      simp only [Text.join, List.append_assoc, List.singleton_append]
      rw [tokenize_append_blank first, ih]
      rfl

/-- An argument whose text is passed on as it is: a record with one field, named `raw`. -/
def IsRaw (v : Value) : Prop := ∃ x, v = .obj [("raw", x)]

/-- What an argument may contribute to a command line: a raw one its text, any other one a piece for
each of its words that is read as this word, with every character quoted. -/
inductive Contributes : Value → List (List Char) → Prop
  | raw (x : Value) : Contributes (.obj [("raw", x)]) [x.text.toList]
  | quoted {v : Value} {pieces : List (List Char)} (cooked : ¬ IsRaw v)
      (own : pieces.map tokenize = v.words.map fun word => some [quotedWord word]) : Contributes v pieces

/-- What a shell reads where an argument stands; none if a raw text is not complete. -/
def argumentTokens? (v : Value) : Option (List Token) :=
  match v with
  | .obj [("raw", x)] => tokenize x.text.toList
  | v => some (v.words.map quotedWord)

section Arguments

variable {v : Value}

private theorem rawText?_of_cooked (cooked : ¬ IsRaw v) : rawText? v = none := by
  unfold rawText?
  split
  · exact absurd ⟨_, rfl⟩ cooked
  · rfl

private theorem argumentTokens?_of_cooked (cooked : ¬ IsRaw v) :
    argumentTokens? v = some (v.words.map quotedWord) := by
  unfold argumentTokens?
  split
  · exact absurd ⟨_, rfl⟩ cooked
  · rfl

theorem argumentWords_of_cooked (cooked : ¬ IsRaw v) :
    argumentWords v = v.words.map fun word => quote word.toList := by
  simp only [argumentWords, rawText?_of_cooked cooked]

private theorem contributes_argumentWords (v : Value) : Contributes v (argumentWords v) := by
  by_cases raw : IsRaw v
  · obtain ⟨x, rfl⟩ := raw
    exact .raw x
  · refine .quoted raw ?_
    rw [argumentWords_of_cooked raw, List.map_map]
    congr 1
    funext word
    exact tokenize_quote word.toList

/-- The pieces of an argument are read as the tokens of the argument. -/
theorem argumentWords_tokens {tokens : List Token} (complete : argumentTokens? v = some tokens) :
    ∃ own : List (List Token), own.flatten = tokens ∧
      List.Forall₂ (fun piece own => tokenize piece = some own) (argumentWords v) own := by
  by_cases raw : IsRaw v
  · obtain ⟨x, rfl⟩ := raw
    exact ⟨[tokens], by simp, .cons complete .nil⟩
  · rw [argumentTokens?_of_cooked raw] at complete
    cases complete
    refine ⟨v.words.map fun word => [quotedWord word], ?_, ?_⟩
    · rw [← List.flatMap_def, ← List.map_eq_flatMap]
    · rw [argumentWords_of_cooked raw, List.forall₂_map_left_iff, List.forall₂_map_right_iff]
      exact List.forall₂_same.mpr fun word _ => tokenize_quote word.toList

private theorem tokenize_commandLine {arguments : List Value} {tokens : List (List Token)}
    (complete : List.Forall₂ (fun v own => argumentTokens? v = some own) arguments tokens) :
    tokenize (commandLine arguments).toList = some tokens.flatten := by
  have pieces : ∃ own : List (List Token), own.flatten = tokens.flatten ∧
      List.Forall₂ (fun piece own => tokenize piece = some own) (arguments.flatMap argumentWords) own := by
    induction complete with
    | nil => exact ⟨[], rfl, .nil⟩
    | cons first _ ih =>
      obtain ⟨own, same, reads⟩ := argumentWords_tokens first
      obtain ⟨more, sameMore, readsMore⟩ := ih
      refine ⟨own ++ more, ?_, List.rel_append reads readsMore⟩
      rw [List.flatten_append, same, sameMore, List.flatten_cons]
  obtain ⟨own, same, reads⟩ := pieces
  rw [commandLine, String.toList_ofList, tokenize_join reads, same]

private theorem wordsItems_append (items more : List Value) :
    Value.wordsItems (items ++ more) = Value.wordsItems items ++ Value.wordsItems more := by
  induction items with
  | nil => rfl
  | cons v rest ih => simp [Value.wordsItems, ih]

/-- Arguments cannot inject anything into a command line. Without raw arguments a shell reads exactly
the words of the arguments, with all characters quoted. With raw ones, the line consists of what the
arguments contribute, with blanks between: raw texts as they are, and for all other arguments pieces
that are read as their own quoted words; if the raw texts are complete, that is also how the whole
line is read. A raw record within an array is quoted like everything else in the array. -/
theorem commandLine_never_injects (arguments : List Value) :
    ((∀ v ∈ arguments, ¬ IsRaw v) →
      tokenize (commandLine arguments).toList = some ((arguments.flatMap Value.words).map quotedWord)) ∧
    (∃ pieces : List (List (List Char)), List.Forall₂ Contributes arguments pieces ∧
      (commandLine arguments).toList = Text.join [' '] pieces.flatten) ∧
    (∀ tokens : List (List Token),
      List.Forall₂ (fun v own => argumentTokens? v = some own) arguments tokens →
        tokenize (commandLine arguments).toList = some tokens.flatten) ∧
    ∀ (before after : List Value) (x : Value) (pieces : List (List Char)),
      Contributes (.arr (before ++ .obj [("raw", x)] :: after)) pieces →
        pieces.map tokenize =
          (Value.wordsItems before ++ "raw" :: x.words ++ Value.wordsItems after).map
            fun word => some [quotedWord word] := by
  refine ⟨?_, ?_, fun tokens => tokenize_commandLine, ?_⟩
  · intro cooked
    have reads : List.Forall₂ (fun v own => argumentTokens? v = some own) arguments
        (arguments.map fun v => v.words.map quotedWord) := by
      rw [List.forall₂_map_right_iff]
      exact List.forall₂_same.mpr fun v member => argumentTokens?_of_cooked (cooked v member)
    rw [tokenize_commandLine reads, ← List.flatMap_def, List.map_flatMap]
  · refine ⟨arguments.map argumentWords, ?_, ?_⟩
    · rw [List.forall₂_map_right_iff]
      exact List.forall₂_same.mpr fun v _ => contributes_argumentWords v
    · rw [commandLine, String.toList_ofList, List.flatMap_def]
  · intro before after x pieces contributes
    cases contributes with
    | quoted _ own =>
      rw [own, Value.words, wordsItems_append]
      simp [Value.wordsItems, Value.words, Value.wordsFields]

theorem commandLine_never_injects_nasty :
    tokenize (commandLine [.str "it's", .str "", .arr [.obj [("raw", .str "; $x")]]]).toList =
      some [quotedWord "it's", quotedWord "", quotedWord "raw", quotedWord "; $x"] ∧
    tokenize (commandLine [.str "a b", .obj [("raw", .str "|w")], .str "\\"]).toList =
      some [quotedWord "a b", .operator '|', .word [⟨'w', false⟩], quotedWord "\\"] := by
  constructor
  · refine (commandLine_never_injects _).1 ?_
    rintro v member ⟨x, rfl⟩
    simp at member
  · refine (commandLine_never_injects _).2.2.1
      [[quotedWord "a b"], [.operator '|', .word [⟨'w', false⟩]], [quotedWord "\\"]] ?_
    exact .cons rfl (.cons (by decide) (.cons rfl .nil))

end Arguments

end StackVM.Shell
