import CommandConsole.Number.Binary64
import CommandConsole.Text.Quoted

set_option autoImplicit false

namespace CommandConsole

/-- A day, and optionally a time on it with microseconds and an offset in minutes. -/
structure Date where
  year : Nat
  month : Nat
  day : Nat
deriving DecidableEq, Repr, Inhabited

/-- A time of day; the offset from universal time is in minutes. -/
structure Clock where
  hour : Nat
  minute : Nat
  second : Nat
  microsecond : Nat
  offset : Option Int
deriving DecidableEq, Repr, Inhabited

/-- Mappings keep the order of their pairs. Data with the same mark are one and the same; `again`
stands where a collection with a mark holds itself. -/
inductive Data
  | null
  | boolean (truth : Bool)
  | integer (number : Int)
  | real (number : Binary64)
  | text (content : String)
  | bytes (content : List UInt8)
  | date (day : Date)
  | moment (day : Date) (clock : Clock)
  | list (items : List Data)
  | tuple (items : List Data)
  | mapping (pairs : List (Data × Data))
  | set (items : List Data)
  | marked (mark : Nat) (content : Data)
  | again (mark : Nat) (isMapping : Bool)
deriving Inhabited

namespace Date

def text (date : Date) : String :=
  Decimal.padded 4 date.year ++ "-" ++ Decimal.padded 2 date.month ++ "-" ++
    Decimal.padded 2 date.day

def isLeapYear (year : Nat) : Bool :=
  year % 4 == 0 && (year % 100 != 0 || year % 400 == 0)

def daysInMonth (year month : Nat) : Nat :=
  if month == 2 then (if isLeapYear year then 29 else 28)
  else if month == 4 || month == 6 || month == 9 || month == 11 then 30
  else 31

/-- The days since the first day of the first year. -/
def ordinal (date : Date) : Nat :=
  let before := date.year - 1
  let months := (List.range (date.month - 1)).map fun index => daysInMonth date.year (index + 1)
  before * 365 + before / 4 - before / 100 + before / 400 + months.foldl (· + ·) 0 + date.day

end Date

namespace Clock

/-- Hours, minutes, seconds, microseconds unless there are none, and the offset. -/
def text (clock : Clock) : String :=
  let time := Decimal.padded 2 clock.hour ++ ":" ++ Decimal.padded 2 clock.minute ++ ":" ++
    Decimal.padded 2 clock.second
  let fraction :=
    if clock.microsecond = 0 then "" else "." ++ Decimal.padded 6 clock.microsecond
  let zone :=
    match clock.offset with
    | none => ""
    | some offset =>
      (if offset < 0 then "-" else "+") ++ Decimal.padded 2 (offset.natAbs / 60) ++ ":" ++
        Decimal.padded 2 (offset.natAbs % 60)
  time ++ fraction ++ zone

/-- A span of minutes as days and seconds, where only the days may be negative. -/
def shownSpan (minutes : Int) : String :=
  let days := minutes * 60 / 86400
  let seconds := minutes * 60 % 86400
  let parts := (if days = 0 then [] else ["days=" ++ Decimal.ofInt days]) ++
    (if seconds = 0 then [] else ["seconds=" ++ Decimal.ofInt seconds])
  "datetime.timedelta(" ++ ", ".intercalate parts ++ ")"

def shownOffset (offset : Int) : String :=
  if offset = 0 then "datetime.timezone.utc" else "datetime.timezone(" ++ shownSpan offset ++ ")"

/-- The microseconds since the start of the day in universal time. -/
def instant (clock : Clock) : Int :=
  ((clock.hour * 60 + clock.minute : Nat) - clock.offset.getD 0) * 60000000 +
    (clock.second * 1000000 + clock.microsecond : Nat)

end Clock

/-- The date with its parts named, and the clock's parts after them when there is one. -/
def Date.shown (date : Date) (clock : Option Clock) : String :=
  let day := [date.year, date.month, date.day]
  match clock with
  | none => "datetime.date(" ++ ", ".intercalate (day.map Decimal.ofNat) ++ ")"
  | some clock =>
    let seconds :=
      if clock.microsecond = 0 then (if clock.second = 0 then [] else [clock.second])
      else [clock.second, clock.microsecond]
    let parts := (day ++ [clock.hour, clock.minute] ++ seconds).map Decimal.ofNat
    let zone := match clock.offset with
      | none => []
      | some offset => ["tzinfo=" ++ Clock.shownOffset offset]
    "datetime.datetime(" ++ ", ".intercalate (parts ++ zone) ++ ")"

namespace Data

def typeName : Data → String
  | null => "NoneType"
  | boolean _ => "bool"
  | integer _ => "int"
  | real _ => "float"
  | text _ => "str"
  | bytes _ => "bytes"
  | date _ => "date"
  | moment _ _ => "datetime"
  | list _ => "list"
  | tuple _ => "tuple"
  | mapping _ => "dict"
  | set _ => "set"
  | marked _ content => content.typeName
  | again _ isMapping => if isMapping then "dict" else "list"

/-- Nothing, false, zero and whatever is empty count as absent. -/
def isPresent : Data → Bool
  | null => false
  | boolean truth => truth
  | integer number => number != 0
  | real number => !number.isZero
  | text content => !content.isEmpty
  | bytes content => !content.isEmpty
  | date _ => true
  | moment _ _ => true
  | list items => !items.isEmpty
  | tuple items => !items.isEmpty
  | mapping pairs => !pairs.isEmpty
  | set items => !items.isEmpty
  | marked _ content => content.isPresent
  | again _ _ => true

/-- A datum without the mark that it bears. -/
def unmarked : Data → Data
  | marked _ content => content.unmarked
  | data => data

mutual

/-- A datum as it stands inside a collection: texts are quoted. -/
def shown : Data → String
  | null => "None"
  | boolean truth => if truth then "True" else "False"
  | integer number => Decimal.ofInt number
  | real number => number.text
  | text content => Text.quoted content
  | bytes content => Text.quotedBytes content
  | date day => day.shown none
  | moment day clock => day.shown (some clock)
  | list items => "[" ++ ", ".intercalate (shownItems items) ++ "]"
  | tuple items =>
    "(" ++ ", ".intercalate (shownItems items) ++ (if items.length = 1 then ",)" else ")")
  | mapping pairs => "\x7b" ++ ", ".intercalate (shownPairs pairs) ++ "\x7d"
  | set items =>
    if items.isEmpty then "set()" else "\x7b" ++ ", ".intercalate (shownItems items) ++ "\x7d"
  | marked _ content => shown content
  | again _ isMapping => if isMapping then "\x7b...\x7d" else "[...]"

def shownItems : List Data → List String
  | [] => []
  | item :: rest => shown item :: shownItems rest

def shownPairs : List (Data × Data) → List String
  | [] => []
  | (key, item) :: rest => (shown key ++ ": " ++ shown item) :: shownPairs rest

end

/-- A datum as text: a text is itself, and dates have their ordinary form. -/
def plain : Data → String
  | text content => content
  | date day => day.text
  | moment day clock => day.text ++ " " ++ clock.text
  | marked _ content => content.plain
  | other => other.shown

mutual

/-- Whether every integer in a datum has few enough digits to be written. -/
def isWritable : Data → Bool
  | integer number => Decimal.isWritable number
  | list items | tuple items | set items => areWritable items
  | mapping pairs => arePairsWritable pairs
  | marked _ content => isWritable content
  | _ => true

def areWritable : List Data → Bool
  | [] => true
  | item :: rest => isWritable item && areWritable rest

def arePairsWritable : List (Data × Data) → Bool
  | [] => true
  | (key, item) :: rest => isWritable key && isWritable item && arePairsWritable rest

end

def isText : Data → Bool
  | text _ => true
  | _ => false

/-- The integer a number equals, truths counting as one and zero. -/
def wholeNumber? : Data → Option Int
  | boolean truth => some (if truth then 1 else 0)
  | integer number => some number
  | real number => number.toInt?
  | _ => none

/-- Whether two data are the same key: numbers by value, moments by instant. -/
def sameKey : Data → Data → Bool
  | null, null => true
  | text content, text content' => content == content'
  | bytes content, bytes content' => content == content'
  | date day, date day' => day == day'
  | moment day clock, moment day' clock' =>
    clock.offset.isSome == clock'.offset.isSome &&
      (day.ordinal : Int) * 86400000000 + clock.instant ==
        (day'.ordinal : Int) * 86400000000 + clock'.instant
  | real number, real number' =>
    if number.isZero && number'.isZero then true else number != .undefined && number == number'
  | left, right =>
    match left.wholeNumber?, right.wholeNumber? with
    | some number, some number' => number == number'
    | _, _ => false

mutual

/-- Only data that cannot change may be keys. -/
def isKey : Data → Bool
  | list _ | mapping _ | set _ | again _ _ => false
  | tuple items => areKeys items
  | marked _ content => isKey content
  | _ => true

def areKeys : List Data → Bool
  | [] => true
  | item :: rest => isKey item && areKeys rest

end

mutual

/-- Whether two data are equal: collections by what they hold, other data as keys, and data of one
mark always. -/
def same : Data → Data → Bool
  | marked mark content, other =>
    (match other with
    | marked otherMark _ => mark == otherMark
    | _ => false) || same content other
  | list items, other =>
    match other.unmarked with
    | list others => sameItems items others
    | _ => false
  | tuple items, other =>
    match other.unmarked with
    | tuple others => sameItems items others
    | _ => false
  | mapping pairs, other =>
    match other.unmarked with
    | mapping others => pairs.length == others.length && samePairs pairs others
    | _ => false
  | set items, other =>
    match other.unmarked with
    | set others => items.length == others.length && areAmong items others
    | _ => false
  | again mark _, other =>
    match other with
    | again otherMark _ => mark == otherMark
    | _ => false
  | data, other => sameKey data other.unmarked

def sameItems : List Data → List Data → Bool
  | [], [] => true
  | item :: rest, other :: others => same item other && sameItems rest others
  | _, _ => false

def areAmong : List Data → List Data → Bool
  | [], _ => true
  | item :: rest, others => others.any (same item) && areAmong rest others

/-- Whether every pair has an equal item under its key among other pairs. -/
def samePairs : List (Data × Data) → List (Data × Data) → Bool
  | [], _ => true
  | (key, item) :: rest, others =>
    (match others.find? fun pair => same key pair.1 with
    | some pair => same item pair.2
    | none => false) && samePairs rest others

end

/-- Puts a pair into a mapping: a known key keeps its place and its first spelling. -/
def insertPair (key item : Data) : List (Data × Data) → List (Data × Data)
  | [] => [(key, item)]
  | (known, old) :: rest =>
    if sameKey known key then (known, item) :: rest else (known, old) :: insertPair key item rest

def lookup? (name : String) : List (Data × Data) → Option Data
  | [] => none
  | (key, item) :: rest =>
    match key with
    | text content => if content == name then some item else lookup? name rest
    | _ => lookup? name rest

end Data

end CommandConsole
