import CommandConsole.Text.Printable

set_option autoImplicit false

namespace CommandConsole.Text

def hexDigit (digit : Nat) : Char :=
  if digit < 10 then Char.ofNat (0x30 + digit) else Char.ofNat (0x57 + digit)

/-- The last `width` hexadecimal digits of a number. -/
def hex : Nat → Nat → List Char
  | 0, _ => []
  | width + 1, number => hex width (number / 16) ++ [hexDigit (number % 16)]

/-- Single quotes, unless the characters hold one and no double quote. -/
def quoteMark (chars : List Char) : Char :=
  if chars.contains '\'' && !chars.contains '"' then '"' else '\''

/-- A character between quotes: backslash, quote mark and the three common breaks have short
escapes, and a character without a visible form is written by its code point. -/
def shownChar (mark char : Char) : List Char :=
  if char == mark || char == '\\' then ['\\', char]
  else if char == '\n' then ['\\', 'n']
  else if char == '\r' then ['\\', 'r']
  else if char == '\t' then ['\\', 't']
  else if isPrintable char then [char]
  else if char.toNat ≤ 0xFF then '\\' :: 'x' :: hex 2 char.toNat
  else if char.toNat ≤ 0xFFFF then '\\' :: 'u' :: hex 4 char.toNat
  else '\\' :: 'U' :: hex 8 char.toNat

def quoted (text : String) : String :=
  let chars := text.toList
  let mark := quoteMark chars
  String.ofList (mark :: chars.flatMap (shownChar mark) ++ [mark])

/-- Bytes between quotes, marked by a leading `b`; only visible ASCII stands for itself. -/
def quotedBytes (bytes : List UInt8) : String :=
  let chars := bytes.map fun byte => Char.ofNat byte.toNat
  let mark := quoteMark chars
  let shown := fun (char : Char) =>
    if 0x7F ≤ char.toNat then '\\' :: 'x' :: hex 2 char.toNat else shownChar mark char
  String.ofList ('b' :: mark :: chars.flatMap shown ++ [mark])

end CommandConsole.Text
