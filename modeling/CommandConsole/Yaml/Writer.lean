import CommandConsole.Json
import CommandConsole.Yaml.Scalar

set_option autoImplicit false

/-!
Data written as a YAML document: block collections indented by two, lines folded after eighty
columns, ASCII only. A text stays plain when it then reads back as the same text, otherwise it is
quoted. Data that are met more than once are written where they are met first, under an anchor, and
are referred to from everywhere else.
-/
namespace CommandConsole.Yaml

/-- The marks met so far, and those met more than once with the names of their anchors. -/
structure Anchors where
  seen : List Nat
  named : List (Nat × String)

namespace Anchors

def empty : Anchors :=
  ⟨[], []⟩

def name? (anchors : Anchors) (mark : Nat) : Option String :=
  (anchors.named.find? (·.1 == mark)).map (·.2)

/-- Notes that a mark is met again. Names are counted in the order in which they are first
needed. -/
def repeated (anchors : Anchors) (mark : Nat) : Anchors :=
  if (anchors.name? mark).isSome then anchors
  else
    let name := "id" ++ Decimal.padded 3 (anchors.named.length + 1)
    { anchors with named := (mark, name) :: anchors.named }

mutual

/-- Adds the marks of a datum. What is met again is not entered again; numbers are written in
full each time. -/
def collect (anchors : Anchors) : Data → Anchors
  | .marked _ (.real _) => anchors
  | .marked mark content =>
    if anchors.seen.contains mark then anchors.repeated mark
    else collect { anchors with seen := mark :: anchors.seen } content
  | .again mark _ => anchors.repeated mark
  | .list items | .tuple items | .set items => collectAll anchors items
  | .mapping pairs => collectPairs anchors pairs
  | _ => anchors

def collectAll (anchors : Anchors) : List Data → Anchors
  | [] => anchors
  | item :: rest => collectAll (collect anchors item) rest

def collectPairs (anchors : Anchors) : List (Data × Data) → Anchors
  | [] => anchors
  | (key, item) :: rest => collectPairs (collect (collect anchors key) item) rest

end

end Anchors

/-- What has been written, latest first, and where writing stands. `spaced` holds after a blank or
at the start of a line, `indented` while a line holds nothing but indicators. A mark among the seen
ones of `anchors` has been written. -/
structure Sink where
  chunks : List String
  column : Nat
  spaced : Bool
  indented : Bool
  anchors : Anchors

namespace Sink

def start (anchors : Anchors) : Sink :=
  ⟨[], 0, true, true, anchors⟩

def text (sink : Sink) : String :=
  String.join sink.chunks.reverse

/-- The column after which a line is folded. -/
def width : Nat := 80

def write (sink : Sink) (chars : List Char) : Sink :=
  { sink with chunks := String.ofList chars :: sink.chunks, column := sink.column + chars.length }

/-- Writes an indicator directly after what stands before it. -/
def attach (sink : Sink) (indicator : String) : Sink :=
  { sink.write indicator.toList with spaced := false, indented := false }

/-- Writes an indicator, after a space unless one stands before it. -/
def mark (sink : Sink) (indicator : String) : Sink :=
  if sink.spaced then sink.attach indicator else (sink.write [' ']).attach indicator

/-- Writes the indicator of an entry, after which a collection may start on the same line. -/
def markEntry (sink : Sink) (indicator : String) : Sink :=
  { sink.mark indicator with indented := sink.indented }

def newLine (sink : Sink) : Sink :=
  { sink with chunks := "\n" :: sink.chunks, column := 0, spaced := true, indented := true }

/-- Goes to an indent, on a new line unless the present one still admits it. -/
def indentTo (sink : Sink) (indent : Nat) : Sink :=
  let fresh :=
    if !sink.indented || indent < sink.column || (sink.column == indent && !sink.spaced) then
      sink.newLine
    else sink
  if fresh.column < indent then
    { fresh.write (List.replicate (indent - fresh.column) ' ') with spaced := true }
  else fresh

/-- The place is inside a scalar. -/
def inside (sink : Sink) : Sink :=
  { sink with spaced := false, indented := false }

end Sink

/-- What the form of a scalar depends on. -/
structure Analysis where
  isEmpty : Bool
  isMultiline : Bool
  allowsPlain : Bool
  allowsSingle : Bool

namespace Analysis

def isVisible (char : Char) : Bool :=
  ' ' ≤ char && char ≤ '~'

def hasPair (first second : Char → Bool) : List Char → Bool
  | char :: next :: rest =>
    (first char && second next) || hasPair first second (next :: rest)
  | _ => false

/-- Whether a colon ends a word or a hash starts one. -/
def hasIndicator : List Char → Bool
  | char :: next :: rest =>
    (char == ':' && isSeparator next) || (isSeparator char && next == '#') ||
      hasIndicator (next :: rest)
  | [char] => char == ':'
  | [] => false

/-- Whether the first characters would be taken for an indicator. -/
def startsIndicator : List Char → Bool
  | [] => false
  | char :: rest =>
    "#,[]\x7b\x7d&*!|>'\"%@\x60".toList.contains char ||
      ((char == '?' || char == ':' || char == '-') && isSeparator (rest.headD endMark)) ||
      (char :: rest.take 2) == "---".toList || (char :: rest.take 2) == "...".toList

def of (chars : List Char) : Analysis :=
  if chars.isEmpty then ⟨true, false, true, true⟩
  else
    let blankOrBreak := fun (char : Option Char) => char == some ' ' || char.any isBreak
    let isMultiline := chars.any fun char => isBreak char && char != '\r'
    let isSpecial := chars.any fun char => !(char == '\n' || isVisible char)
    let space := fun (char : Char) => char == ' '
    let foldsBadly := hasPair isBreak space chars || hasPair space isBreak chars
    let allowsSingle := !isSpecial && !foldsBadly
    let allowsPlain := allowsSingle && !isMultiline && !startsIndicator chars &&
      !hasIndicator chars && !blankOrBreak chars.head? && !blankOrBreak chars.getLast?
    ⟨false, isMultiline, allowsPlain, allowsSingle⟩

end Analysis

/-- Runs of spaces, of breaks and of other characters. -/
def runs (chars : List Char) : List (List Char) :=
  let sort := fun (char : Char) => if char == ' ' then 0 else if isBreak char then 1 else 2
  chars.splitBy fun char next => sort char == sort next

namespace Sink

/-- Writes the runs of a plain scalar; a single space may become a line break. -/
def plain (sink : Sink) (chars : List Char) (indent : Nat) (mayFold : Bool) : Sink :=
  if chars.isEmpty then sink
  else
    let opened := (if sink.spaced then sink else sink.write [' ']).inside
    (runs chars).foldl (fun sink run =>
      if run == [' '] && width < sink.column && mayFold then (sink.indentTo indent).inside
      else sink.write run) opened

/-- Writes runs between single quotes. A line break is an empty line and a new line. -/
def singleRuns (sink : Sink) (indent : Nat) (mayFold : Bool) (isFirst : Bool) :
    List (List Char) → Sink
  | [] => sink
  | run :: rest =>
    let written :=
      if run.head? == some ' ' then
        if run.length == 1 && width < sink.column && mayFold && !isFirst && !rest.isEmpty then
          sink.indentTo indent
        else sink.write run
      else if run.head? == some '\n' then
        ((run.foldl (fun sink _ => sink.newLine) sink.newLine).indentTo indent)
      else sink.write (run.flatMap fun char => if char == '\'' then ['\'', '\''] else [char])
    singleRuns written indent mayFold false rest

def single (sink : Sink) (chars : List Char) (indent : Nat) (mayFold : Bool) : Sink :=
  (singleRuns (sink.mark "'") indent mayFold true (runs chars)).attach "'"

/-- The letter that stands for a character after a backslash. -/
def escapeLetter? : Char → Option Char
  | '\x00' => some '0'
  | '\x07' => some 'a'
  | '\x08' => some 'b'
  | '\t' => some 't'
  | '\n' => some 'n'
  | '\x0b' => some 'v'
  | '\x0c' => some 'f'
  | '\r' => some 'r'
  | '\x1b' => some 'e'
  | '"' => some '"'
  | '\\' => some '\\'
  | '\x85' => some 'N'
  | '\xa0' => some '_'
  | '\u2028' => some 'L'
  | '\u2029' => some 'P'
  | _ => none

/-- A character that must be escaped between double quotes, in its escaped form. -/
def escaped? (char : Char) : Option (List Char) :=
  match escapeLetter? char with
  | some letter => some ['\\', letter]
  | none =>
    if Analysis.isVisible char then none
    else
      let code := char.toNat
      let digits := fun (count : Nat) => (Text.hex count code).map Char.toUpper
      some (if code ≤ 0xFF then '\\' :: 'x' :: digits 2
        else if code ≤ 0xFFFF then '\\' :: 'u' :: digits 4
        else '\\' :: 'U' :: digits 8)

/-- Writes characters between double quotes. `held` holds those not yet written, latest first; a
line is folded before a space or next to an escape. -/
def doubleChars (indent : Nat) (mayFold : Bool) (size : Nat) :
    Nat → List Char → Sink → List Char → Sink
  | _, held, sink, [] => sink.write held.reverse
  | index, held, sink, char :: rest =>
    let escape := escaped? char
    let wrote := match escape with
      | some form => (sink.write held.reverse).write form
      | none => sink
    let kept := if escape.isSome then [] else held
    let reach := if escape.isSome then wrote.column - 1 else wrote.column + kept.length
    let folds := mayFold && 0 < index && index + 1 < size &&
      (char == ' ' || kept.isEmpty) && width < reach
    let next := if escape.isSome then rest.headD endMark else char
    let folded :=
      if folds then
        let broken := ((wrote.write (kept.reverse ++ ['\\'])).indentTo indent).inside
        if next == ' ' then broken.write ['\\'] else broken
      else wrote
    let held := if folds then [] else kept
    doubleChars indent mayFold size (index + 1)
      (if escape.isSome then held else char :: held) folded rest

def double (sink : Sink) (chars : List Char) (indent : Nat) (mayFold : Bool) : Sink :=
  (doubleChars indent mayFold chars.length 0 [] (sink.mark "\"") chars).attach "\""

/-- Writes a scalar of a type in the simplest form that reads back. -/
def scalar (sink : Sink) (tag : Tag) (text : String) (indent : Nat) (isKey : Bool) : Sink :=
  let chars := text.toList
  let analysis := Analysis.of chars
  let awkwardKey := isKey && (analysis.isEmpty || analysis.isMultiline)
  if Scalar.plainTag text == tag && !awkwardKey && analysis.allowsPlain then
    sink.plain chars indent (!isKey)
  else if analysis.allowsSingle && !(isKey && analysis.isMultiline) then
    sink.single chars indent (!isKey)
  else sink.double chars indent (!isKey)

end Sink

def base64Chars : Array Char :=
  "ABCDEFGHIJKLMNOPQRSTUVWXYZabcdefghijklmnopqrstuvwxyz0123456789+/".toList.toArray

/-- Bytes in base 64, with equal signs after an incomplete group. -/
def base64 : List UInt8 → List Char
  | first :: second :: third :: rest =>
    let bits := first.toNat * 65536 + second.toNat * 256 + third.toNat
    [bits / 262144, bits / 4096 % 64, bits / 64 % 64, bits % 64].map (base64Chars.getD · '=') ++
      base64 rest
  | [first, second] =>
    let bits := first.toNat * 1024 + second.toNat * 4
    [bits / 4096, bits / 64 % 64, bits % 64].map (base64Chars.getD · '=') ++ ['=']
  | [first] =>
    let bits := first.toNat * 16
    [bits / 64, bits % 64].map (base64Chars.getD · '=') ++ ['=', '=']
  | [] => []

/-- The name that a type has after two exclamation marks, and the text of a scalar. -/
def scalarForm : Data → Option (Tag × String × String)
  | .null => some (.null, "null", "null")
  | .boolean truth => some (.boolean, "bool", if truth then "true" else "false")
  | .integer number => some (.integer, "int", Decimal.ofInt number)
  | .real number =>
    let text := match number with
      | .undefined => ".nan"
      | .infinite negative => if negative then "-.inf" else ".inf"
      | _ =>
        let chars := number.text.toList
        if chars.contains '.' then number.text
        else
          String.ofList (chars.flatMap fun char => if char == 'e' then ['.', '0', 'e'] else [char])
    some (.real, "float", text)
  | .text content => some (.text, "str", content)
  | .date day => some (.timestamp, "timestamp", day.text)
  | .moment day clock => some (.timestamp, "timestamp", day.text ++ " " ++ clock.text)
  | .marked _ content => scalarForm content
  | _ => none

/-- Whether data may stand before a colon as it is, when its anchor takes some columns. -/
def isSimple (data : Data) (taken : Nat) : Bool :=
  match scalarForm data with
  | some (_, name, text) =>
    let analysis := Analysis.of text.toList
    !analysis.isEmpty && !analysis.isMultiline && taken + text.length + name.length + 2 < 128
  | none =>
    match data.unmarked with
    | .list [] | .tuple [] | .mapping [] => true
    | _ => false

/-- Pairs by their keys when all of these are texts. -/
def sortPairs (pairs : List (Data × Data)) : List (Data × Data) :=
  if pairs.all fun pair => pair.1 matches .text _ then
    (Json.sortPairs (pairs.map fun pair => (pair.1.plain, pair))).map (·.2)
  else pairs

/-- Where a datum is written: as an item, as a value, or as a key that stands before a colon. -/
inductive Role
  | item
  | value
  | key
deriving DecidableEq

namespace Sink

/-- Writes bytes as a literal block in base 64, broken after 76 characters. -/
def bytes (sink : Sink) (content : List UInt8) (indent : Nat) (isKey : Bool) : Sink :=
  let tagged := sink.mark "!!binary"
  let chars := base64 content
  if isKey || chars.isEmpty then tagged.double chars indent (!isKey)
  else
    let rec lines : Nat → List Char → Sink → Sink
      | 0, _, sink => sink
      | fuel + 1, chars, sink =>
        if chars.isEmpty then sink
        else lines fuel (chars.drop 76) (((sink.indentTo indent).write (chars.take 76)).newLine)
    lines chars.length chars (tagged.mark "|").newLine

/-- The indent of a mapping inside a collection. -/
def inner (outer : Option Nat) : Nat :=
  match outer with
  | none => 0
  | some outer => outer + 2

/-- The indent of a sequence: as the value of a key on the line of that key it is not indented. -/
def innerSequence (sink : Sink) (outer : Option Nat) (role : Role) : Nat :=
  match outer with
  | none => 0
  | some outer => if role != .item && !sink.indented then outer else outer + 2

/-- Whether a key may stand before a colon as it is. A reference always may. -/
def isSimpleKey (sink : Sink) (key : Data) : Bool :=
  match key with
  | .again _ _ => true
  | .marked mark content =>
    match sink.anchors.name? mark with
    | some name => sink.anchors.seen.contains mark || isSimple content name.length
    | none => isSimple content 0
  | _ => isSimple key 0

/-- The place of a key: one that may not stand before a colon is asked for. -/
def startKey (sink : Sink) (indent : Nat) (isSimple : Bool) : Sink :=
  if isSimple then sink.indentTo indent else (sink.indentTo indent).markEntry "?"

def keyRole (isSimple : Bool) : Role :=
  if isSimple then .key else .value

/-- The colon after a key, on a line of its own when the key was asked for. -/
def endKey (sink : Sink) (indent : Nat) (isSimple : Bool) : Sink :=
  if isSimple then sink.attach ":" else (sink.indentTo indent).markEntry ":"

/-- Refers to what has been written under the anchor of a mark. -/
def refer (sink : Sink) (mark : Nat) : Sink :=
  sink.mark ("*" ++ (sink.anchors.name? mark).getD "")

/-- Writes the anchor of a mark, if it has one; from here on its data can be referred to. -/
def anchor (sink : Sink) (mark : Nat) : Sink :=
  let seen := { sink with anchors := { sink.anchors with seen := mark :: sink.anchors.seen } }
  match sink.anchors.name? mark with
  | some name => seen.mark ("&" ++ name)
  | none => seen

mutual

/-- Writes a datum. `outer` is the indent of the collection around it, if there is one. -/
def data (sink : Sink) (outer : Option Nat) (role : Role) : Data → Sink
  | .list list =>
    if list.isEmpty then sink.mark "[]" else items sink (innerSequence sink outer role) list
  | .tuple list =>
    if list.isEmpty then sink.mark "[]" else items sink (innerSequence sink outer role) list
  | .mapping pairs =>
    if pairs.isEmpty then sink.mark "\x7b\x7d" else mapping sink (inner outer) pairs
  | .set members =>
    let tagged := sink.mark "!!set"
    if members.isEmpty then tagged.mark "\x7b\x7d" else unvalued tagged (inner outer) members
  | .bytes content => sink.bytes content (outer.getD 0 + 2) (role == .key)
  | .marked mark content =>
    if content matches .real _ then data sink outer role content
    else if sink.anchors.seen.contains mark then sink.refer mark
    else data (sink.anchor mark) outer role content
  | .again mark _ => sink.refer mark
  | other =>
    match scalarForm other with
    | some (tag, _, text) => sink.scalar tag text (outer.getD 0 + 2) (role == .key)
    | none => sink

def items (sink : Sink) (indent : Nat) : List Data → Sink
  | [] => sink
  | item :: rest =>
    items (data ((sink.indentTo indent).markEntry "-") (some indent) .item item) indent rest

def mapping (sink : Sink) (indent : Nat) : List (Data × Data) → Sink
  | [] => sink
  | (name, item) :: rest =>
    let isSimple := isSimpleKey sink name
    let named := data (startKey sink indent isSimple) (some indent) (keyRole isSimple) name
    mapping (data (endKey named indent isSimple) (some indent) .value item) indent rest

/-- The members of a set are keys without values. -/
def unvalued (sink : Sink) (indent : Nat) : List Data → Sink
  | [] => sink
  | name :: rest =>
    let isSimple := isSimpleKey sink name
    let named := data (startKey sink indent isSimple) (some indent) (keyRole isSimple) name
    unvalued ((endKey named indent isSimple).scalar .null "null" (indent + 2) false) indent rest

end

end Sink

mutual

/-- Data with the pairs of every mapping in the order of their keys. -/
def sortData : Data → Data
  | .list items => .list (sortItems items)
  | .tuple items => .tuple (sortItems items)
  | .mapping pairs => .mapping (sortPairs (sortMembers pairs))
  | other => other

def sortItems : List Data → List Data
  | [] => []
  | item :: rest => sortData item :: sortItems rest

def sortMembers : List (Data × Data) → List (Data × Data)
  | [] => []
  | (key, item) :: rest => (key, sortData item) :: sortMembers rest

end

/-- A document that holds a collection. -/
def write (data : Data) : String :=
  let anchors := { Anchors.empty.collect data with seen := [] }
  (((Sink.start anchors).data none .item data).indentTo 0).text

end CommandConsole.Yaml
