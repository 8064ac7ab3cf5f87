import CommandConsole.Value.Token
import CommandConsole.Yaml.Cursor

set_option autoImplicit false

/-!
The tokens of a YAML document. Indentation is turned into tokens that open and close block
collections, and a key is marked once the colon after it has been seen. Tokens are read one by one,
so that whoever asks for them meets a fault only after everything before it.
-/
namespace CommandConsole.Yaml

inductive Token
  | version (major : Nat)
  | handle (name : String) (expansion : String)
  | otherDirective
  | documentStart
  | documentEnd
  | blockSequenceStart
  | blockMappingStart
  | blockEnd
  | flowSequenceStart
  | flowSequenceEnd
  | flowMappingStart
  | flowMappingEnd
  | blockEntry
  | flowEntry
  | key
  | value
  | alias (name : String)
  | anchor (name : String)
  | tag (handle : Option String) (suffix : String)
  | scalar (text : String) (isPlain : Bool)
deriving DecidableEq, Repr, Inhabited

/-- A place where a key without its own mark may have started. -/
structure PendingKey where
  position : Nat
  required : Bool
  index : Nat
  line : Nat
  column : Nat
deriving Repr, Inhabited

/-- What the lexer knows at a place: the tokens so far, the open indents, how many flow
collections are open, which keys may still be marked, by that depth, and whether the document is
over. -/
structure Lexer where
  cursor : Cursor
  tokens : Array Token
  depth : Nat
  indent : Int
  indents : List Int
  keyAllowed : Bool
  pending : List (Nat × PendingKey)
  isDone : Bool
deriving Inhabited

abbrev Lexing (α : Type) := Except Fault α

namespace Lexer

def start (chars : List Char) : Lexer :=
  ⟨.start chars, #[], 0, -1, [], true, [], false⟩

def push (lexer : Lexer) (token : Token) : Lexer :=
  { lexer with tokens := lexer.tokens.push token }

def insertAt (lexer : Lexer) (position : Nat) (token : Token) : Lexer :=
  { lexer with tokens :=
      lexer.tokens.extract 0 position ++ #[token] ++ lexer.tokens.extract position }

def mark (lexer : Lexer) (width : Nat) (token : Token) : Lexer :=
  { lexer.push token with cursor := lexer.cursor.advanceBy width }

/-- Forgets keys that can no longer be marked: those of an earlier line or too far back. -/
def dropStale (lexer : Lexer) : Lexing Lexer :=
  let isStale := fun (entry : Nat × PendingKey) =>
    entry.2.line != lexer.cursor.line || 1024 < lexer.cursor.index - entry.2.index
  if lexer.pending.any fun entry => isStale entry && entry.2.required then throw .malformed
  else pure { lexer with pending := lexer.pending.filter fun entry => !isStale entry }

/-- Forgets the pending key of the present depth; a required one must not be lost. -/
def dropPending (lexer : Lexer) : Lexing Lexer :=
  if lexer.pending.any fun entry => entry.1 == lexer.depth && entry.2.required then
    throw .malformed
  else pure { lexer with pending := lexer.pending.filter fun entry => entry.1 != lexer.depth }

/-- Notes that a key may start here. -/
def savePending (lexer : Lexer) : Lexing Lexer := do
  if lexer.keyAllowed then
    let required := lexer.depth == 0 && lexer.indent == lexer.cursor.column
    let cleared ← lexer.dropPending
    let key : PendingKey :=
      ⟨lexer.tokens.size, required, lexer.cursor.index, lexer.cursor.line, lexer.cursor.column⟩
    return { cleared with pending := (lexer.depth, key) :: cleared.pending }
  else return lexer

/-- Closes block collections that are indented further than a column. -/
def unwind (column : Int) : List Int → Lexer → Lexer
  | [], lexer => lexer
  | outer :: indents, lexer =>
    if column < lexer.indent then
      unwind column indents { lexer.push .blockEnd with indent := outer, indents := indents }
    else lexer

def unwindTo (lexer : Lexer) (column : Int) : Lexer :=
  if lexer.depth == 0 then unwind column lexer.indents lexer else lexer

def openIndent (lexer : Lexer) (column : Nat) : Bool × Lexer :=
  if lexer.indent < column then
    (true, { lexer with indent := column, indents := lexer.indent :: lexer.indents })
  else (false, lexer)

/-- Skips spaces, comments and breaks. A break outside flow collections allows a key. -/
def skipToToken : Nat → Lexer → Lexer
  | 0, lexer => lexer
  | fuel + 1, lexer =>
    let spaced := lexer.cursor.skipWhile (· == ' ')
    let cursor := if spaced.peek == '#' then spaced.skipWhile (!isLineEnd ·) else spaced
    let ended := cursor.takeBreak
    if ended.1.isEmpty then { lexer with cursor := cursor }
    else skipToToken fuel
      { lexer with cursor := ended.2, keyAllowed := lexer.keyAllowed || lexer.depth == 0 }

/-! Directives, anchors and tags. -/

def restOfLine (cursor : Cursor) : Lexing Cursor :=
  let spaced := cursor.skipWhile (· == ' ')
  let ended := if spaced.peek == '#' then spaced.skipWhile (!isLineEnd ·) else spaced
  if isLineEnd ended.peek then pure ended.takeBreak.2 else throw .malformed

def hexValue? (char : Char) : Option Nat :=
  if '0' ≤ char ∧ char ≤ '9' then some (char.toNat - 0x30)
  else if 'a' ≤ char ∧ char ≤ 'f' then some (char.toNat - 0x57)
  else if 'A' ≤ char ∧ char ≤ 'F' then some (char.toNat - 0x37)
  else none

/-- The number that exactly `width` hexadecimal digits denote. -/
def hexNumber? (chars : List Char) (width : Nat) : Option Nat :=
  let digits := chars.take width
  if digits.length = width then
    digits.foldl (fun total char =>
      total.bind fun number => (hexValue? char).map (number * 16 + ·)) (some 0)
  else none

/-- A character of a tag, percent signs included. -/
def isTagChar (char : Char) : Bool :=
  char.isAlphanum || "-;/?:@&=+$,_.!~*'()[]%".toList.contains char

/-- The bytes that a run of percent escapes denotes. -/
def escapedBytes : Nat → List Char → Lexing (List UInt8 × List Char)
  | 0, chars => pure ([], chars)
  | fuel + 1, chars =>
    match chars with
    | '%' :: rest =>
      match hexNumber? rest 2 with
      | none => throw .malformed
      | some byte => do
        let more ← escapedBytes fuel (rest.drop 2)
        return (byte.toUInt8 :: more.1, more.2)
    | _ => pure ([], chars)

/-- The text of a tag's characters, with percent escapes read as UTF-8. -/
def tagText : Nat → List Char → Lexing (List Char)
  | 0, _ => pure []
  | fuel + 1, chars =>
    match chars with
    | [] => pure []
    | '%' :: _ => do
      let run ← escapedBytes chars.length chars
      match String.fromUTF8? (ByteArray.mk run.1.toArray) with
      | none => throw .malformed
      | some text => return text.toList ++ (← tagText fuel run.2)
    | char :: rest => return char :: (← tagText fuel rest)

def takeTagText (cursor : Cursor) : Lexing (String × Cursor) := do
  let taken := cursor.takeWhile isTagChar
  if taken.1.isEmpty then throw .malformed
  return (String.ofList (← tagText (taken.1.length + 1) taken.1), taken.2)

/-- A tag handle: an exclamation mark, or a word between two. -/
def takeHandle (cursor : Cursor) : Lexing (String × Cursor) :=
  if cursor.peek != '!' then throw .malformed
  else if cursor.peekAt 1 == ' ' then pure ("!", cursor.advance)
  else
    let word := cursor.advance.takeWhile isWordChar
    if word.2.peek != '!' then throw .malformed
    else pure (String.ofList ('!' :: word.1 ++ ['!']), word.2.advance)

def takeNumber (cursor : Cursor) : Lexing (Nat × Cursor) :=
  let digits := cursor.takeWhile Char.isDigit
  if digits.1.isEmpty then throw .malformed
  else if Decimal.digitLimit < digits.1.length then
    throw (.value (TokenFault.tooManyDigits digits.1.length).message)
  else pure (Decimal.read digits.1, digits.2)

def takeDirective (cursor : Cursor) : Lexing (Token × Cursor) := do
  let name := cursor.advance.takeWhile isWordChar
  if name.1.isEmpty || !isSpaceOrEnd name.2.peek then throw .malformed
  match String.ofList name.1 with
  | "YAML" =>
    let major ← takeNumber (name.2.skipWhile (· == ' '))
    if major.2.peek != '.' then throw .malformed
    let minor ← takeNumber major.2.advance
    if !isSpaceOrEnd minor.2.peek then throw .malformed
    return (.version major.1, ← restOfLine minor.2)
  | "TAG" =>
    let handle ← takeHandle (name.2.skipWhile (· == ' '))
    if handle.2.peek != ' ' then throw .malformed
    let expansion ← takeTagText (handle.2.skipWhile (· == ' '))
    if !isSpaceOrEnd expansion.2.peek then throw .malformed
    return (.handle handle.1 expansion.1, ← restOfLine expansion.2)
  | _ => return (.otherDirective, ← restOfLine (name.2.skipWhile (!isLineEnd ·)))

/-- The name after the sign of an anchor or an alias. -/
def takeAnchor (cursor : Cursor) : Lexing (String × Cursor) :=
  let name := cursor.advance.takeWhile isWordChar
  let next := name.2.peek
  if name.1.isEmpty || !(isSeparator next || "?:,]\x7d%@\x60".toList.contains next) then
    throw .malformed
  else pure (String.ofList name.1, name.2)

def takeTag (cursor : Cursor) : Lexing (Token × Cursor) := do
  let next := cursor.peekAt 1
  let read ←
    if next == '<' then do
      let suffix ← takeTagText (cursor.advanceBy 2)
      if suffix.2.peek != '>' then throw .malformed
      pure (Token.tag none suffix.1, suffix.2.advance)
    else if isSeparator next then pure (Token.tag none "!", cursor.advance)
    else do
      let inside := (cursor.rest.drop 1).takeWhile (!isSpaceOrEnd ·)
      let handle ← if inside.contains '!' then takeHandle cursor else pure ("!", cursor.advance)
      let suffix ← takeTagText handle.2
      pure (Token.tag (some handle.1) suffix.1, suffix.2)
  if isSpaceOrEnd read.2.peek then return read else throw .malformed

/-! Scalars. -/

/-- A break inside a flowing scalar with the empty lines after it: one break is a space. -/
def foldBreaks (first : List Char) (breaks : List Char) : List Char :=
  if first != ['\n'] then first ++ breaks
  else if breaks.isEmpty then [' ']
  else breaks

/-- Empty lines inside a quoted scalar, which no document marker may interrupt. -/
def quotedBreaks : Nat → Cursor → Lexing (List Char × Cursor)
  | 0, cursor => pure ([], cursor)
  | fuel + 1, cursor =>
    if cursor.isAtMarker then throw .malformed
    else
      let spaced := cursor.skipWhile fun char => char == ' ' || char == '\t'
      let ended := spaced.takeBreak
      if ended.1.isEmpty then pure ([], spaced)
      else do
        let more ← quotedBreaks fuel ended.2
        return (ended.1 ++ more.1, more.2)

/-- The meaning of a one-character escape between double quotes. -/
def escape? : Char → Option Char
  | '0' => some '\x00'
  | 'a' => some '\x07'
  | 'b' => some '\x08'
  | 't' => some '\t'
  | '\t' => some '\t'
  | 'n' => some '\n'
  | 'v' => some '\x0b'
  | 'f' => some '\x0c'
  | 'r' => some '\r'
  | 'e' => some '\x1b'
  | ' ' => some ' '
  | '"' => some '"'
  | '\\' => some '\\'
  | '/' => some '/'
  | 'N' => some '\x85'
  | '_' => some '\xa0'
  | 'L' => some '\u2028'
  | 'P' => some '\u2029'
  | _ => none

/-- How many hexadecimal digits follow an escape letter. -/
def escapeWidth? : Char → Option Nat
  | 'x' => some 2
  | 'u' => some 4
  | 'U' => some 8
  | _ => none

/-- The content of a quoted scalar up to and with its closing quote. -/
def quotedContent (double : Bool) : Nat → Cursor → Lexing (List Char × Cursor)
  | 0, _ => throw .malformed
  | fuel + 1, cursor =>
    let after := fun (chars : List Char) (next : Cursor) => do
      let more ← quotedContent double fuel next
      return (chars ++ more.1, more.2)
    let char := cursor.peek
    if char == endMark then throw .malformed
    else if isBreak char then do
      let ended := cursor.takeBreak
      let breaks ← quotedBreaks (ended.2.rest.length + 1) ended.2
      after (foldBreaks ended.1 breaks.1) breaks.2
    else if char == ' ' || char == '\t' then
      let spaces := cursor.takeWhile fun char => char == ' ' || char == '\t'
      if isBreak spaces.2.peek then after [] spaces.2 else after spaces.1 spaces.2
    else if !double && char == '\'' then
      if cursor.peekAt 1 == '\'' then after ['\''] (cursor.advanceBy 2)
      else pure ([], cursor.advance)
    else if double && char == '"' then pure ([], cursor.advance)
    else if double && char == '\\' then
      let letter := cursor.peekAt 1
      match escape? letter, escapeWidth? letter with
      | some meaning, _ => after [meaning] (cursor.advanceBy 2)
      | none, some width =>
        match hexNumber? (cursor.rest.drop 2) width with
        | none => throw .malformed
        | some code =>
          if 0x7FFFFFFF < code then throw .tooLarge
          else if 0x10FFFF < code then throw (.value "chr() arg not in range(0x110000)")
          else after [Char.ofNat code] (cursor.advanceBy (2 + width))
      | none, none =>
        if isBreak letter then do
          let breaks ← quotedBreaks (cursor.rest.length + 1) cursor.advance.takeBreak.2
          after breaks.1 breaks.2
        else throw .malformed
    else after [char] cursor.advance

/-- The empty lines after a line of a plain scalar; a document marker ends the scalar. -/
def plainBreaks : Nat → Cursor → Option (List Char) × Cursor
  | 0, cursor => (some [], cursor)
  | fuel + 1, cursor =>
    let spaced := cursor.skipWhile (· == ' ')
    let ended := spaced.takeBreak
    if ended.1.isEmpty then (some [], spaced)
    else if ended.2.isAtMarker then (none, ended.2)
    else
      let more := plainBreaks fuel ended.2
      (more.1.map (ended.1 ++ ·), more.2)

/-- The space between two runs of a plain scalar: what it stands for, whether it holds a break,
and the place after it. Nothing means that the scalar is over. -/
def plainSpace (cursor : Cursor) : List Char × Bool × Cursor :=
  let spaces := cursor.takeWhile (· == ' ')
  let ended := spaces.2.takeBreak
  if ended.1.isEmpty then (spaces.1, false, spaces.2)
  else if ended.2.isAtMarker then ([], true, ended.2)
  else
    let breaks := plainBreaks (ended.2.rest.length + 1) ended.2
    match breaks.1 with
    | none => ([], true, breaks.2)
    | some more => (foldBreaks ended.1 more, true, breaks.2)

/-- A run of a plain scalar without blanks, up to whatever ends it. -/
def plainRun (inFlow : Bool) : List Char → List Char
  | [] => []
  | char :: rest =>
    let next := rest.headD endMark
    let stops := isSeparator char
      || (char == ':' && (isSeparator next || (inFlow && ",[]\x7b\x7d".toList.contains next)))
      || (inFlow && ",?[]\x7b\x7d".toList.contains char)
    if stops then [] else char :: plainRun inFlow rest

/-- The runs of a plain scalar, after the space that stands before them; the flag says whether a
key may start at the end. -/
def plainContent (inFlow : Bool) (indent : Int) :
    Nat → List Char → Bool → Cursor → List Char × Bool × Cursor
  | 0, _, keyAllowed, cursor => ([], keyAllowed, cursor)
  | fuel + 1, space, keyAllowed, cursor =>
    let run := if cursor.peek == '#' then [] else plainRun inFlow cursor.rest
    if run.isEmpty then ([], keyAllowed, cursor)
    else
      let next := plainSpace (cursor.advanceBy run.length)
      let after := next.2.2
      if next.1.isEmpty || after.peek == '#' || (!inFlow && (after.column : Int) < indent) then
        (space ++ run, next.2.1, after)
      else
        let more := plainContent inFlow indent fuel next.1 next.2.1 after
        (space ++ run ++ more.1, more.2.1, more.2.2)

/-- How the end of a block scalar is kept: not at all, one break, or every break. -/
inductive Chomping
  | strip
  | clip
  | keep
deriving DecidableEq, Repr

def chomping? : Char → Option Chomping
  | '+' => some .keep
  | '-' => some .strip
  | _ => none

/-- An indentation digit; zero is none. -/
def takeIncrement (cursor : Cursor) : Lexing (Option Nat × Cursor) :=
  let char := cursor.peek
  if char.isDigit then
    if char == '0' then throw .malformed else pure (some (char.toNat - 0x30), cursor.advance)
  else pure (none, cursor)

/-- The signs after a block scalar's indicator, in either order. -/
def takeBlockSigns (cursor : Cursor) : Lexing (Chomping × Option Nat × Cursor) := do
  match chomping? cursor.peek with
  | some chomping =>
    let increment ← takeIncrement cursor.advance
    if isSpaceOrEnd increment.2.peek then return (chomping, increment) else throw .malformed
  | none =>
    let increment ← takeIncrement cursor
    let chomping := if increment.1.isSome then chomping? increment.2.peek else none
    let after := if chomping.isSome then increment.2.advance else increment.2
    if isSpaceOrEnd after.peek then return (chomping.getD .clip, increment.1, after)
    else throw .malformed

/-- Leading empty lines of a block scalar, with the furthest column that their spaces reach. -/
def leadingLines : Nat → Nat → Cursor → List Char × Nat × Cursor
  | 0, widest, cursor => ([], widest, cursor)
  | fuel + 1, widest, cursor =>
    if cursor.peek == ' ' then
      leadingLines fuel (max widest cursor.advance.column) cursor.advance
    else
      let ended := cursor.takeBreak
      if ended.1.isEmpty then ([], widest, cursor)
      else
        let more := leadingLines fuel widest ended.2
        (ended.1 ++ more.1, more.2)

def skipIndent (indent : Nat) (cursor : Cursor) : Cursor :=
  cursor.advanceBy ((cursor.rest.takeWhile (· == ' ')).take (indent - cursor.column)).length

/-- Empty lines inside a block scalar, and the indent of the line after them. -/
def blockBreaks (indent : Nat) : Nat → Cursor → List Char × Cursor
  | 0, cursor => ([], cursor)
  | fuel + 1, cursor =>
    let spaced := skipIndent indent cursor
    let ended := spaced.takeBreak
    if ended.1.isEmpty then ([], spaced)
    else
      let more := blockBreaks indent fuel ended.2
      (ended.1 ++ more.1, more.2)

/-- The lines of a block scalar. `breaks` holds the empty lines before the present one. -/
def blockLines (folded : Bool) (chomping : Chomping) (indent : Nat) :
    Nat → List Char → Cursor → List Char × Cursor
  | 0, _, cursor => ([], cursor)
  | fuel + 1, breaks, cursor =>
    let starts := fun (char : Char) => !(char == ' ' || char == '\t')
    let line := cursor.takeWhile (!isLineEnd ·)
    let ended := line.2.takeBreak
    let next := blockBreaks indent (ended.2.rest.length + 1) ended.2
    if next.2.column == indent && next.2.peek != endMark then
      let joint :=
        if folded && ended.1 == ['\n'] && starts cursor.peek && starts next.2.peek then
          (if next.1.isEmpty then [' '] else [])
        else ended.1
      let more := blockLines folded chomping indent fuel next.1 next.2
      (breaks ++ line.1 ++ joint ++ more.1, more.2)
    else
      let last := if chomping = .strip then [] else ended.1
      let trailing := if chomping = .keep then next.1 else []
      (breaks ++ line.1 ++ last ++ trailing, next.2)

def takeBlockScalar (folded : Bool) (outer : Int) (cursor : Cursor) :
    Lexing (String × Cursor) := do
  let signs ← takeBlockSigns cursor.advance
  let body ← restOfLine signs.2.2
  let least := (max (outer + 1) 1).toNat
  let fuel := body.rest.length + 1
  let opened : List Char × Nat × Cursor :=
    match signs.2.1 with
    | none =>
      let leading := leadingLines fuel 0 body
      (leading.1, max least leading.2.1, leading.2.2)
    | some increment =>
      let indent := least + increment - 1
      let breaks := blockBreaks indent fuel body
      (breaks.1, indent, breaks.2)
  let first := opened.2.2
  if first.column == opened.2.1 && first.peek != endMark then
    let content := blockLines folded signs.1 opened.2.1 fuel opened.1 first
    return (String.ofList content.1, content.2)
  else
    let trailing := if signs.1 = .keep then opened.1 else []
    return (String.ofList trailing, first)

/-! The next token. -/

/-- A token that ends every block collection: a directive or a document marker. -/
def documentToken (lexer : Lexer) (read : Lexing (Token × Cursor)) : Lexing Lexer := do
  let unwound ← (lexer.unwindTo (-1)).dropPending
  let token ← read
  return { unwound.push token.1 with keyAllowed := false, cursor := token.2 }

def flowStart (lexer : Lexer) (token : Token) : Lexing Lexer := do
  let saved ← lexer.savePending
  return { saved.mark 1 token with depth := saved.depth + 1, keyAllowed := true }

def flowEnd (lexer : Lexer) (token : Token) : Lexing Lexer := do
  if lexer.depth == 0 then throw .malformed
  let dropped ← lexer.dropPending
  return { dropped.mark 1 token with depth := dropped.depth - 1, keyAllowed := false }

def flowEntry (lexer : Lexer) : Lexing Lexer := do
  let dropped ← lexer.dropPending
  return { dropped.mark 1 .flowEntry with keyAllowed := true }

def blockEntry (lexer : Lexer) : Lexing Lexer := do
  let opened ←
    if lexer.depth == 0 then do
      if !lexer.keyAllowed then throw .malformed
      let indented := lexer.openIndent lexer.cursor.column
      pure (if indented.1 then indented.2.push .blockSequenceStart else indented.2)
    else pure lexer
  let dropped ← opened.dropPending
  return { dropped.mark 1 .blockEntry with keyAllowed := true }

def explicitKey (lexer : Lexer) : Lexing Lexer := do
  let opened ←
    if lexer.depth == 0 then do
      if !lexer.keyAllowed then throw .malformed
      let indented := lexer.openIndent lexer.cursor.column
      pure (if indented.1 then indented.2.push .blockMappingStart else indented.2)
    else pure lexer
  let dropped ← opened.dropPending
  return { dropped.mark 1 .key with keyAllowed := lexer.depth == 0 }

/-- A colon marks the pending key of this depth, or stands for the value of an explicit one. -/
def mappingValue (lexer : Lexer) : Lexing Lexer := do
  match lexer.pending.find? (·.1 == lexer.depth) with
  | some (_, key) =>
    let removed :=
      { lexer with pending := lexer.pending.filter fun entry => entry.1 != lexer.depth }
    let marked := removed.insertAt key.position .key
    let opened :=
      if lexer.depth == 0 then
        let indented := marked.openIndent key.column
        if indented.1 then indented.2.insertAt key.position .blockMappingStart else indented.2
      else marked
    return { opened.mark 1 .value with keyAllowed := false }
  | none =>
    let opened ←
      if lexer.depth == 0 then do
        if !lexer.keyAllowed then throw .malformed
        let indented := lexer.openIndent lexer.cursor.column
        pure (if indented.1 then indented.2.push .blockMappingStart else indented.2)
      else pure lexer
    let dropped ← opened.dropPending
    return { dropped.mark 1 .value with keyAllowed := lexer.depth == 0 }

/-- A token that may itself be a key. -/
def keyToken (lexer : Lexer) (read : Lexing (Token × Cursor)) : Lexing Lexer := do
  let saved ← lexer.savePending
  let token ← read
  return { saved.push token.1 with keyAllowed := false, cursor := token.2 }

def plainScalar (lexer : Lexer) : Lexing Lexer := do
  let saved ← lexer.savePending
  let content := plainContent (lexer.depth != 0) (lexer.indent + 1)
    (lexer.cursor.rest.length + 1) [] false lexer.cursor
  return { saved.push (.scalar (String.ofList content.1) true) with
    keyAllowed := content.2.1, cursor := content.2.2 }

def blockScalar (lexer : Lexer) (folded : Bool) : Lexing Lexer := do
  let dropped ← lexer.dropPending
  let content ← takeBlockScalar folded lexer.indent lexer.cursor
  return { dropped.push (.scalar content.1 false) with keyAllowed := true, cursor := content.2 }

def quotedScalar (lexer : Lexer) (double : Bool) : Lexing Lexer :=
  lexer.keyToken do
    let content ← quotedContent double (lexer.cursor.rest.length + 1) lexer.cursor.advance
    return (.scalar (String.ofList content.1) false, content.2)

/-- Whether a plain scalar may start with the first of two characters. -/
def startsPlain (inFlow : Bool) (char next : Char) : Bool :=
  !(isSeparator char || "-?:,[]\x7b\x7d#&*!|>'\"%@\x60".toList.contains char) ||
    (!isSeparator next && (char == '-' || (!inFlow && (char == '?' || char == ':'))))

/-- Reads the token that starts here; the end of the document has been ruled out. -/
def next (lexer : Lexer) : Lexing Lexer :=
  let cursor := lexer.cursor
  let char := cursor.peek
  let following := cursor.peekAt 1
  let inFlow := lexer.depth != 0
  let stands := inFlow || isSeparator following
  let atMarker := cursor.column == 0 && cursor.isAtMarker
  if char == '%' && cursor.column == 0 then lexer.documentToken (takeDirective cursor)
  else if char == '-' && atMarker then
    lexer.documentToken (pure (.documentStart, cursor.advanceBy 3))
  else if char == '.' && atMarker then
    lexer.documentToken (pure (.documentEnd, cursor.advanceBy 3))
  else if char == '[' then lexer.flowStart .flowSequenceStart
  else if char == '\x7b' then lexer.flowStart .flowMappingStart
  else if char == ']' then lexer.flowEnd .flowSequenceEnd
  else if char == '\x7d' then lexer.flowEnd .flowMappingEnd
  else if char == ',' then lexer.flowEntry
  else if char == '-' && isSeparator following then lexer.blockEntry
  else if char == '?' && stands then lexer.explicitKey
  else if char == ':' && stands then lexer.mappingValue
  else if char == '*' then lexer.keyToken do
    let name ← takeAnchor cursor
    return (.alias name.1, name.2)
  else if char == '&' then lexer.keyToken do
    let name ← takeAnchor cursor
    return (.anchor name.1, name.2)
  else if char == '!' then lexer.keyToken (takeTag cursor)
  else if char == '|' && !inFlow then lexer.blockScalar false
  else if char == '>' && !inFlow then lexer.blockScalar true
  else if char == '\'' then lexer.quotedScalar false
  else if char == '"' then lexer.quotedScalar true
  else if startsPlain inFlow char following then lexer.plainScalar
  else throw .malformed

/-- Reads on to the next token, or to the end of the document. -/
def fetch (lexer : Lexer) : Lexing Lexer := do
  let marked :=
    if lexer.cursor.index == 0 && lexer.cursor.peek == byteOrderMark then
      { lexer with cursor := lexer.cursor.advance }
    else lexer
  let fresh ← (skipToToken (marked.cursor.rest.length + 1) marked).dropStale
  let unwound := fresh.unwindTo fresh.cursor.column
  if unwound.cursor.rest.isEmpty then
    let ended ← (unwound.unwindTo (-1)).dropPending
    return { ended with pending := [], isDone := true }
  else unwound.next

/-- Reads on until the token at a position is there and can no longer turn out to be a key. Every
step but the last takes a character, which bounds the fuel. -/
def settle (position : Nat) : Nat → Lexer → Lexing Lexer
  | 0, _ => throw .malformed
  | fuel + 1, lexer => do
    if lexer.isDone then return lexer
    else if position < lexer.tokens.size then
      let fresh ← lexer.dropStale
      if fresh.pending.any fun entry => entry.2.position == position then
        settle position fuel (← fresh.fetch)
      else return fresh
    else settle position fuel (← lexer.fetch)

end Lexer

/-- A lexer before a document, all of whose characters are allowed. -/
def Lexer.open? (text : String) : Lexing Lexer :=
  let chars := text.toList
  if chars.all isAllowed then pure (.start chars) else throw .malformed

end CommandConsole.Yaml
