import CommandConsole.Text.Blank

set_option autoImplicit false

/-!
Statements: the words of one console line. Words are separated by blanks; between double quotes
blanks belong to the word and four escapes are understood.
-/
namespace CommandConsole

/-- The first word names a command, a variable or a namespace; the others are its arguments. -/
structure Statement where
  words : List String
deriving DecidableEq, Repr, Inhabited

namespace Statement

def count (statement : Statement) : Nat :=
  statement.words.length

def name (statement : Statement) : String :=
  statement.words.headD ""

def arguments (statement : Statement) : List String :=
  statement.words.tail

def text (statement : Statement) : String :=
  " ".intercalate statement.words

def isEmpty (statement : Statement) : Bool :=
  statement.words.isEmpty

def extend (statement : Statement) (words : List String) : Statement :=
  ⟨statement.words ++ words⟩

/-- The characters that a backslash escapes between quotes, with their meaning. -/
def escaped? : Char → Option Char
  | '"' => some '"'
  | '\\' => some '\\'
  | 'n' => some '\n'
  | 'r' => some '\r'
  | _ => none

/-- A word that is complete or still open. -/
def close (open? : Option (List Char)) : List (List Char) :=
  match open? with
  | none => []
  | some word => [word]

/-- The open word, begun if there is none, with characters at its end. -/
def grow (open? : Option (List Char)) (chars : List Char) : Option (List Char) :=
  some (open?.getD [] ++ chars)

mutual

/-- Reads outside quotes; `open?` holds the word read so far, if one has begun. -/
def readPlain (open? : Option (List Char)) : List Char → List (List Char)
  | [] => close open?
  | char :: rest =>
    if char = '"' then readQuoted (grow open? []) rest
    else if Text.isBlank char then close open? ++ readPlain none rest
    else readPlain (grow open? [char]) rest

/-- Reads between quotes; the end of the line ends the quotes too. -/
def readQuoted (open? : Option (List Char)) : List Char → List (List Char)
  | [] => close open?
  | char :: rest =>
    if char = '"' then readPlain open? rest
    else if char = '\\' then readEscape open? rest
    else readQuoted (grow open? [char]) rest

/-- Reads after a backslash between quotes; one that escapes nothing stands for itself. -/
def readEscape (open? : Option (List Char)) : List Char → List (List Char)
  | [] => close (grow open? ['\\'])
  | char :: rest =>
    match escaped? char with
    | some meaning => readQuoted (grow open? [meaning]) rest
    | none => readQuoted (grow open? ['\\', char]) rest

end

/-- The words of a line, as lists of characters. -/
def tokenizeChars (line : List Char) : List (List Char) :=
  readPlain none line

def tokenize (line : String) : List String :=
  (tokenizeChars line.toList).map String.ofList

def parse (line : String) : Statement :=
  ⟨tokenize line⟩

end Statement

end CommandConsole
