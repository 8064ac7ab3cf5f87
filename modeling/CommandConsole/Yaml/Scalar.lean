import CommandConsole.Text.Blank
import CommandConsole.Text.Digit
import CommandConsole.Text.Lower
import CommandConsole.Value.Token
import CommandConsole.Yaml.Cursor

set_option autoImplicit false

namespace CommandConsole.Yaml

/-- The types of nodes. `merge` and `standIn` are the types of the two keys with a meaning of their
own, `<<` and `=`. -/
inductive Tag
  | null
  | boolean
  | integer
  | real
  | binary
  | timestamp
  | orderedPairs
  | set
  | text
  | sequence
  | mapping
  | merge
  | standIn
  | unknown
deriving DecidableEq, Repr, Inhabited

/-- The common start of the names of the standard types. -/
def tagPrefix : String := "tag:yaml.org,2002:"

def Tag.ofName (name : String) : Tag :=
  let known := [("null", null), ("bool", boolean), ("int", integer), ("float", real),
    ("binary", binary), ("timestamp", timestamp), ("omap", orderedPairs), ("pairs", orderedPairs),
    ("set", set), ("str", text), ("seq", sequence), ("map", mapping), ("merge", merge),
    ("value", standIn)]
  match known.find? fun entry => tagPrefix ++ entry.1 == name with
  | some entry => entry.2
  | none => unknown

namespace Scalar

def isDigit : Char → Bool := Decimal.isDigit

def isDigitOrGap (char : Char) : Bool :=
  isDigit char || char == '_'

def isSign (char : Char) : Bool :=
  char == '-' || char == '+'

def unsigned : List Char → List Char
  | char :: rest => if isSign char then rest else char :: rest
  | [] => []

/-- The words for a truth, each in lower case, capitalised or in upper case. -/
def isBoolean (text : String) : Bool :=
  ["yes", "Yes", "YES", "no", "No", "NO", "true", "True", "TRUE", "false", "False", "FALSE",
    "on", "On", "ON", "off", "Off", "OFF"].contains text

def isNull (text : String) : Bool :=
  ["", "~", "null", "Null", "NULL"].contains text

/-- A part in base sixty: at most two digits, the first of two at most five. -/
def isSexagesimalPart : List Char → Bool
  | [digit] => isDigit digit
  | [high, low] => '0' ≤ high && high ≤ '5' && isDigit low
  | _ => false

/-- Parts in base sixty after a first number. -/
def isSexagesimal (first : Char → Bool) (chars : List Char) : Bool :=
  match Text.splitBy (· == ':') chars with
  | lead :: part :: parts =>
    (match lead with
    | digit :: rest => first digit && rest.all isDigitOrGap
    | [] => false) && (part :: parts).all isSexagesimalPart
  | _ => false

def isHexOrGap (char : Char) : Bool :=
  isDigit char || char == '_' || ('a' ≤ char && char ≤ 'f') || ('A' ≤ char && char ≤ 'F')

/-- Integers in base two, eight, ten, sixteen and sixty. -/
def isInteger (chars : List Char) : Bool :=
  match unsigned chars with
  | ['0'] => true
  | '0' :: 'b' :: rest =>
    !rest.isEmpty && rest.all fun char => char == '0' || char == '1' || char == '_'
  | '0' :: 'x' :: rest => !rest.isEmpty && rest.all isHexOrGap
  | '0' :: rest => rest.all fun char => ('0' ≤ char && char ≤ '7') || char == '_'
  | char :: rest =>
    ('1' ≤ char && char ≤ '9' && rest.all isDigitOrGap) ||
      isSexagesimal (fun first => '1' ≤ first && first ≤ '9') (char :: rest)
  | [] => false

/-- Nothing, or an exponent that has a sign. -/
def isExponent : List Char → Bool
  | [] => true
  | mark :: sign :: rest =>
    (mark == 'e' || mark == 'E') && isSign sign && !rest.isEmpty && rest.all isDigit
  | _ => false

/-- Numbers with a point, parts in base sixty with a point after them, and the special ones. -/
def isReal (chars : List Char) : Bool :=
  let bare := unsigned chars
  let whole := bare.takeWhile (· != '.')
  match bare.drop whole.length with
  | '.' :: rest =>
    let places := rest.takeWhile isDigitOrGap
    let exponent := isExponent (rest.drop places.length)
    match whole with
    | [] =>
      (["inf", "Inf", "INF"].contains (String.ofList rest)) ||
      (bare.length == chars.length &&
        ((rest.head?.any isDigit && exponent) ||
          ["nan", "NaN", "NAN"].contains (String.ofList rest)))
    | digit :: more =>
      (isDigit digit && more.all isDigitOrGap && exponent) ||
        (isSexagesimal isDigit whole && rest.all isDigitOrGap)
  | _ => false

/-- A timestamp as it is written; no part has been checked to be in range. -/
structure Stamp where
  year : Nat
  month : Nat
  day : Nat
  clock : Option Clock
  isShort : Bool
deriving Repr

/-- Takes at least `least` and at most `most` digits. -/
def takeDigits? (least most : Nat) (chars : List Char) : Option (Nat × List Char) :=
  let taken := (chars.takeWhile isDigit).take most
  if least ≤ taken.length then some (Decimal.read taken, chars.drop taken.length) else none

def takeChar? (wanted : Char) : List Char → Option (List Char)
  | char :: rest => if char == wanted then some rest else none
  | [] => none

/-- The offset at the end of a timestamp, in minutes. -/
def offset? (chars : List Char) : Option (Option Int) :=
  match chars.dropWhile fun char => char == ' ' || char == '\t' with
  | [] => if chars.isEmpty then some none else none
  | ['Z'] => some (some 0)
  | sign :: rest => do
    if !isSign sign then none
    let (hours, rest) ← takeDigits? 1 2 rest
    let minutes ← match rest with
      | [] => some 0
      | ':' :: rest => do
        let (minutes, rest) ← takeDigits? 2 2 rest
        if rest.isEmpty then some minutes else none
      | _ => none
    let span : Int := (hours * 60 + minutes : Nat)
    some (some (if sign == '-' then -span else span))

/-- The first six digits of a fraction as microseconds. -/
def microseconds (digits : List Char) : Nat :=
  let six := digits.take 6
  Decimal.read (six ++ List.replicate (6 - six.length) '0')

/-- A day, alone or with a time after a `T` or blanks. -/
def stamp? (chars : List Char) : Option Stamp := do
  let (year, rest) ← takeDigits? 4 4 chars
  let months ← takeChar? '-' rest
  let (month, rest) ← takeDigits? 1 2 months
  let days ← takeChar? '-' rest
  let (day, rest) ← takeDigits? 1 2 days
  let isShort := chars.length != 10
  match rest with
  | [] => some ⟨year, month, day, none, isShort⟩
  | first :: more =>
    let isGap := fun (char : Char) => char == ' ' || char == '\t'
    if !(first == 'T' || first == 't' || isGap first) then none
    let time := if isGap first then more.dropWhile isGap else more
    let (hour, rest) ← takeDigits? 1 2 time
    let rest ← takeChar? ':' rest
    let (minute, rest) ← takeDigits? 2 2 rest
    let rest ← takeChar? ':' rest
    let (second, rest) ← takeDigits? 2 2 rest
    let (fraction, rest) := match rest with
      | '.' :: rest => (rest.takeWhile isDigit, rest.dropWhile isDigit)
      | _ => ([], rest)
    let offset ← offset? rest
    some ⟨year, month, day, some ⟨hour, minute, second, microseconds fraction, offset⟩, false⟩

/-- A plain scalar that is a timestamp; a day alone needs all its digits. -/
def isTimestamp (chars : List Char) : Bool :=
  (stamp? chars).any fun stamp => !stamp.isShort

/-- Characters without one line feed at their end. -/
def withoutLastBreak (chars : List Char) : List Char :=
  if chars.getLast? == some '\n' then chars.dropLast else chars

/-- The type that characters have by their form. One line feed may follow any form but the empty
one. The three signs that can stand for a node without being one have no type that data can have. -/
def plainTag (text : String) : Tag :=
  let chars := withoutLastBreak text.toList
  let word := String.ofList chars
  if isBoolean word then .boolean
  else if isReal chars then .real
  else if isInteger chars then .integer
  else if word == "<<" then .merge
  else if text.isEmpty || (isNull word && !word.isEmpty) then .null
  else if isTimestamp chars then .timestamp
  else if word == "=" then .standIn
  else if word == "!" || word == "&" || word == "*" then .unknown
  else .text

/-! The data that scalars denote. -/

def withoutGaps (chars : List Char) : List Char :=
  chars.filter (· != '_')

/-- The value of a digit in a base up to sixteen. -/
def digitIn? (base : Nat) (char : Char) : Option Nat :=
  let value :=
    if isDigit char then some (char.toNat - 0x30)
    else if 'a' ≤ char ∧ char ≤ 'f' then some (char.toNat - 0x57)
    else if 'A' ≤ char ∧ char ≤ 'F' then some (char.toNat - 0x37)
    else none
  value.filter (· < base)

/-- Characters in which ASCII stands for every decimal digit and every blank. From the first
character on that is neither, nothing but a question mark is left. -/
def asciiForm : List Char → List Char
  | [] => []
  | char :: rest =>
    if char.toNat < 0x7F then char :: asciiForm rest
    else if Text.isBlank char then ' ' :: asciiForm rest
    else
      match Text.decimalValue? char with
      | some value => Decimal.digitChar value :: asciiForm rest
      | none => ['?']

/-- An ASCII blank, which may stand around a number. -/
def isGap (char : Char) : Bool :=
  char == ' ' || ('\t' ≤ char && char ≤ '\r')

/-- The digits after the mark that may announce a base of two, eight or sixteen. -/
def unmarked (base : Nat) : List Char → List Char
  | '0' :: letter :: rest =>
    if [(2, 'b'), (8, 'o'), (16, 'x')].contains (base, letter.toLower) then rest
    else '0' :: letter :: rest
  | chars => chars

/-- The integer that digits of a base denote. Blanks around them, one sign and the mark of the base
are allowed. Too many decimal digits are refused before what follows them is looked at. -/
def numeral (base : Nat) (chars : List Char) : Except Fault Int := do
  let parts := Value.splitSign ((asciiForm chars).dropWhile isGap)
  let bare := unmarked base parts.2
  let digits := bare.takeWhile fun char => (digitIn? base char).isSome
  if base = 10 ∧ Decimal.digitLimit < digits.length then
    throw (.value (TokenFault.tooManyDigits digits.length).message)
  if digits.isEmpty || !(bare.drop digits.length).all isGap then throw invalid
  let number := digits.foldl (fun total char => total * base + (digitIn? base char).getD 0) 0
  return if parts.1 then -(number : Int) else number
where
  /-- A message shows no more than the first two hundred characters. -/
  invalid : Fault :=
    let shown := (Text.quoted (String.ofList chars)).toList.take 200
    .value ("invalid literal for int() with base " ++ Decimal.ofNat base ++ ": " ++
      String.ofList shown)

def integer (text : String) : Except Fault Int := do
  let chars := withoutGaps text.toList
  if chars.isEmpty then throw .emptyNumber
  let sign : Int := if chars.head? == some '-' then -1 else 1
  match unsigned chars with
  | [] => throw .emptyNumber
  | ['0'] => return 0
  | '0' :: 'b' :: rest => return sign * (← numeral 2 rest)
  | '0' :: 'x' :: rest => return sign * (← numeral 16 rest)
  | '0' :: rest => return sign * (← numeral 8 ('0' :: rest))
  | bare =>
    let parts ← (Text.splitBy (· == ':') bare).mapM (numeral 10)
    return sign * parts.foldl (fun total part => total * 60 + part) 0

/-- The nearest number to a decimal numeral, in lower case. -/
def decimal (chars : List Char) : Except Fault Binary64 := do
  let parts := Value.splitSign (Text.trimBy isGap (asciiForm chars))
  let whole := parts.2.takeWhile isDigit
  let rest := parts.2.drop whole.length
  let places := match rest with
    | '.' :: more => more.takeWhile isDigit
    | _ => []
  let rest := if rest.head? == some '.' then rest.drop (places.length + 1) else rest
  let word := String.ofList parts.2
  if word == "inf" || word == "infinity" then return .infinite parts.1
  if word == "nan" then return .undefined
  let invalid := Fault.value ("could not convert string to float: " ++
    Text.quoted (String.ofList chars))
  if whole.isEmpty && places.isEmpty then throw invalid
  let power ← match rest with
    | [] => pure (0 : Int)
    | 'e' :: exponent =>
      let signed := Value.splitSign exponent
      if signed.2.isEmpty || !signed.2.all isDigit then throw invalid
      else pure (if signed.1 then -(Decimal.read signed.2 : Int) else Decimal.read signed.2)
    | _ => throw invalid
  return .ofDecimal parts.1 (Decimal.read (whole ++ places)) (power - places.length)

/-- The characters of a number's text without its sign, in lower case. -/
def realWord (text : String) : List Char :=
  unsigned (Text.lower (String.ofList (withoutGaps text.toList))).toList

/-- Whether a text is the word for the undefined number. All these words denote one number. -/
def isUndefinedWord (text : String) : Bool :=
  realWord text == ".nan".toList

/-- The sum of parts in base sixty, the last first. A weight too large for a number is refused. -/
def sexagesimalSum (sum : Binary64) (weight : Nat) : List Binary64 → Except Fault Binary64
  | [] => pure sum
  | part :: rest =>
    match Binary64.ofInt weight with
    | .infinite _ => throw .tooLarge
    | factor => sexagesimalSum (sum.add (part.multiply factor)) (weight * 60) rest

def real (text : String) : Except Fault Binary64 := do
  let chars := withoutGaps text.toList
  if chars.isEmpty then throw .emptyNumber
  let sign : Int := if chars.head? == some '-' then -1 else 1
  let signed := Binary64.multiply (.ofInt sign)
  let word := realWord text
  if word == ".inf".toList then return signed (.infinite false)
  if word == ".nan".toList then return .undefined
  if word.contains ':' then
    let parts ← (Text.splitBy (· == ':') word).mapM decimal
    return signed (← sexagesimalSum (.finite false 0 (-1074)) 1 parts.reverse)
  return signed (← decimal word)

/-- The truth that a word denotes in any case. -/
def boolean (text : String) : Except Fault Bool :=
  let word := Text.lower text
  if ["yes", "true", "on"].contains word then .ok true
  else if ["no", "false", "off"].contains word then .ok false
  else .error (.unknownWord word)

/-- The first part of a stamp that is out of range, if there is one. -/
def outOfRange? (stamp : Stamp) : Option String :=
  let clock := stamp.clock.getD ⟨0, 0, 0, 0, none⟩
  let offset := clock.offset.getD 0
  if 1440 ≤ offset.natAbs then
    some ("offset must be a timedelta strictly between -timedelta(hours=24) and " ++
      "timedelta(hours=24), not " ++ Clock.shownSpan offset ++ ".")
  else if stamp.year = 0 then some "year 0 is out of range"
  else if stamp.month < 1 ∨ 12 < stamp.month then some "month must be in 1..12"
  else if stamp.day < 1 ∨ Date.daysInMonth stamp.year stamp.month < stamp.day then
    some "day is out of range for month"
  else if 23 < clock.hour then some "hour must be in 0..23"
  else if 59 < clock.minute then some "minute must be in 0..59"
  else if 59 < clock.second then some "second must be in 0..59"
  else none

def timestamp (text : String) : Except Fault Data :=
  match stamp? (withoutLastBreak text.toList) with
  | none => .error .noTimestamp
  | some stamp =>
    match outOfRange? stamp with
    | some message => .error (.value message)
    | none =>
      let day : Date := ⟨stamp.year, stamp.month, stamp.day⟩
      .ok (match stamp.clock with
        | none => .date day
        | some clock => .moment day clock)

/-- The six bits that a character of base 64 stands for. -/
def sixBits? (char : Char) : Option Nat :=
  if 'A' ≤ char ∧ char ≤ 'Z' then some (char.toNat - 0x41)
  else if 'a' ≤ char ∧ char ≤ 'z' then some (char.toNat - 0x47)
  else if isDigit char then some (char.toNat + 4)
  else if char = '+' then some 62
  else if char = '/' then some 63
  else none

/-- Bytes from base 64. `place` counts the characters of the present group, `left` holds the bits
not yet given out and `pads` the equal signs in a row; other characters are passed over. -/
def bytesFrom (place left pads : Nat) : List Char → Except Fault (List UInt8)
  | [] => if place = 0 then .ok [] else .error .malformed
  | char :: rest =>
    if char = '=' then
      if 2 ≤ place then
        if 4 ≤ place + (pads + 1) then .ok [] else bytesFrom place left (pads + 1) rest
      else bytesFrom place left pads rest
    else
      match sixBits? char with
      | none => bytesFrom place left pads rest
      | some bits =>
        let emit := fun (byte : Nat) (tail : Except Fault (List UInt8)) =>
          tail.map (byte.toUInt8 :: ·)
        match place with
        | 0 => bytesFrom 1 bits 0 rest
        | 1 => emit (left * 4 + bits / 16) (bytesFrom 2 (bits % 16) 0 rest)
        | 2 => emit (left * 16 + bits / 4) (bytesFrom 3 (bits % 4) 0 rest)
        | _ => emit (left * 64 + bits) (bytesFrom 0 0 0 rest)

def binary (text : String) : Except Fault Data :=
  if text.toList.all fun char => char.toNat < 0x80 then
    (bytesFrom 0 0 0 text.toList).map .bytes
  else .error .malformed

/-- The data that the text of a scalar denotes under a type. -/
def data (tag : Tag) (text : String) : Except Fault Data :=
  match tag with
  | .null => .ok .null
  | .boolean => (boolean text).map .boolean
  | .integer => (integer text).map .integer
  | .real => (real text).map .real
  | .binary => binary text
  | .timestamp => timestamp text
  | .text => .ok (.text text)
  | _ => .error .malformed

end Scalar

end CommandConsole.Yaml
