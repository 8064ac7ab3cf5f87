import CommandConsole.Data

set_option autoImplicit false

namespace CommandConsole.Json

def escapeUnit (unit : Nat) : List Char :=
  '\\' :: 'u' :: Text.hex 4 unit

/-- A character inside a JSON string; one above the sixteen-bit range is a pair of units. -/
def escapeChar (char : Char) : List Char :=
  let code := char.toNat
  if char == '"' || char == '\\' then ['\\', char]
  else if char == '\n' then ['\\', 'n']
  else if char == '\r' then ['\\', 'r']
  else if char == '\t' then ['\\', 't']
  else if code == 0x08 then ['\\', 'b']
  else if code == 0x0C then ['\\', 'f']
  else if 0x20 ≤ code && code ≤ 0x7E then [char]
  else if code ≤ 0xFFFF then escapeUnit code
  else escapeUnit (0xD800 + (code - 0x10000) / 0x400) ++ escapeUnit (0xDC00 + code % 0x400)

def string (text : String) : String :=
  String.ofList ('"' :: text.toList.flatMap escapeChar ++ ['"'])

/-- Pairs in the order of their names; equal names keep their order. -/
def sortPairs {α : Type} (pairs : List (String × α)) : List (String × α) :=
  pairs.mergeSort fun left right => !decide (right.1 < left.1)

mutual

/-- The JSON text of a datum; what JSON has no form for becomes a string. -/
def render : Data → String
  | .null => "null"
  | .boolean truth => if truth then "true" else "false"
  | .integer number => Decimal.ofInt number
  | .text content => string content
  | .list items => "[" ++ ", ".intercalate (renderItems items) ++ "]"
  | .tuple items => "[" ++ ", ".intercalate (renderItems items) ++ "]"
  | .mapping pairs =>
    let members := (sortPairs (renderPairs pairs)).map fun pair => string pair.1 ++ ": " ++ pair.2
    "\x7b" ++ ", ".intercalate members ++ "\x7d"
  | .marked _ content => render content
  | other => string other.plain

def renderItems : List Data → List String
  | [] => []
  | item :: rest => render item :: renderItems rest

def renderPairs : List (Data × Data) → List (String × String)
  | [] => []
  | (key, item) :: rest => (key.plain, render item) :: renderPairs rest

end

end CommandConsole.Json
