set_option autoImplicit false

namespace CommandConsole.Yaml

/-- Why a document has no data. `malformed` covers the grammar and the tags; the others come from
numbers and scalars that match a form whose content has no value. `tooDeep` says that collections
are nested too deep, or that a scalar is looked for inside itself. -/
inductive Fault
  | malformed
  | value (message : String)
  | unknownWord (word : String)
  | noTimestamp
  | noText
  | emptyNumber
  | tooLarge
  | tooDeep
deriving DecidableEq, Repr, Inhabited

/-- The wording of a fault, for those of a scalar that names what is wrong. -/
def Fault.message : Fault → Option String
  | value message => some message
  | unknownWord word => some word
  | malformed | noTimestamp | noText | emptyNumber | tooLarge | tooDeep => none

def isBreak (char : Char) : Bool :=
  char == '\n' || char == '\r' || char == '\x85' || char == '\u2028' || char == '\u2029'

/-- The null character, which no document holds, stands for the end of the document. -/
def endMark : Char := '\x00'

def isLineEnd (char : Char) : Bool :=
  char == endMark || isBreak char

def isSeparator (char : Char) : Bool :=
  char == ' ' || char == '\t' || isLineEnd char

def isSpaceOrEnd (char : Char) : Bool :=
  char == ' ' || isLineEnd char

/-- A character of an anchor, a tag handle or the name of a directive. -/
def isWordChar (char : Char) : Bool :=
  char.isAlphanum || char == '-' || char == '_'

/-- Whether a document may hold a character. -/
def isAllowed (char : Char) : Bool :=
  let code := char.toNat
  code == 0x09 || code == 0x0A || code == 0x0D || (0x20 ≤ code && code ≤ 0x7E) || code == 0x85
    || (0xA0 ≤ code && code ≤ 0xD7FF) || (0xE000 ≤ code && code ≤ 0xFFFD)
    || (0x10000 ≤ code && code ≤ 0x10FFFF)

def byteOrderMark : Char := '\ufeff'

structure Cursor where
  rest : List Char
  index : Nat
  line : Nat
  column : Nat
deriving Repr, Inhabited

namespace Cursor

def start (chars : List Char) : Cursor :=
  ⟨chars, 0, 0, 0⟩

def peekAt (cursor : Cursor) (distance : Nat) : Char :=
  cursor.rest.getD distance endMark

def peek (cursor : Cursor) : Char :=
  cursor.rest.headD endMark

/-- The place after one more character; both halves of a two-character break are one line end. -/
def advance (cursor : Cursor) : Cursor :=
  match cursor.rest with
  | [] => cursor
  | char :: rest =>
    let endsLine := isBreak char && !(char == '\r' && rest.head? == some '\n')
    if endsLine then ⟨rest, cursor.index + 1, cursor.line + 1, 0⟩
    else if char == byteOrderMark then ⟨rest, cursor.index + 1, cursor.line, cursor.column⟩
    else ⟨rest, cursor.index + 1, cursor.line, cursor.column + 1⟩

def advanceBy (cursor : Cursor) : Nat → Cursor
  | 0 => cursor
  | count + 1 => cursor.advance.advanceBy count

/-- The characters from here on that satisfy a test, and the place after them. -/
def takeWhile (cursor : Cursor) (test : Char → Bool) : List Char × Cursor :=
  let taken := cursor.rest.takeWhile test
  (taken, cursor.advanceBy taken.length)

def skipWhile (cursor : Cursor) (test : Char → Bool) : Cursor :=
  (cursor.takeWhile test).2

/-- Reads a line break, if there is one here. The Unicode separators are kept as they are. -/
def takeBreak (cursor : Cursor) : List Char × Cursor :=
  match cursor.rest with
  | '\r' :: '\n' :: _ => (['\n'], cursor.advanceBy 2)
  | char :: _ =>
    if char == '\u2028' || char == '\u2029' then ([char], cursor.advance)
    else if isBreak char then (['\n'], cursor.advance)
    else ([], cursor)
  | [] => ([], cursor)

/-- Whether a document marker, three dashes or three dots, stands alone here. -/
def isAtMarker (cursor : Cursor) : Bool :=
  (cursor.rest.take 3 == ['-', '-', '-'] || cursor.rest.take 3 == ['.', '.', '.']) &&
    isSeparator (cursor.peekAt 3)

end Cursor

end CommandConsole.Yaml
