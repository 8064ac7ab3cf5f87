import CommandConsole.Data

set_option autoImplicit false

/-!
Typed values. Each value has three written forms: how it is displayed, the literal that a save file
holds, and the token that a statement already split into words holds.
-/
namespace CommandConsole

inductive Kind
  | boolean
  | integer
  | text
deriving DecidableEq, Repr, Inhabited

inductive Value
  | boolean (truth : Bool)
  | integer (number : Int)
  | text (content : String)
deriving DecidableEq, Repr, Inhabited

/-- What a host hands over as a value: plain data, or a value that already has its kind. -/
inductive Payload
  | plain (data : Data)
  | value (value : Value)
deriving Inhabited

namespace Kind

def name : Kind → String
  | boolean => "boolean"
  | integer => "integer"
  | text => "string"

def ofName? (name : String) : Option Kind :=
  [boolean, integer, text].find? (·.name == name)

/-- The value a variable of this kind has when nothing else is said. -/
def zero : Kind → Value
  | boolean => .boolean false
  | integer => .integer 0
  | text => .text ""

end Kind

/-- Why a payload is not a value. -/
inductive KindFault
  | unsupported (typeName : String)
  | expected (kind : Kind) (typeName : String)
deriving DecidableEq, Repr

def KindFault.message : KindFault → String
  | unsupported typeName => "Unsupported value type: " ++ typeName
  | expected kind typeName => kind.name ++ " value expected, got " ++ typeName

def Payload.typeName : Payload → String
  | plain data => data.typeName
  | value _ => "Value"

/-- A character between double quotes: backslashes, double quotes and line breaks are escaped. -/
def escape (char : Char) : List Char :=
  if char = '\\' then ['\\', '\\']
  else if char = '"' then ['\\', '"']
  else if char = '\n' then ['\\', 'n']
  else if char = '\r' then ['\\', 'r']
  else [char]

def quoteChars (chars : List Char) : List Char :=
  '"' :: chars.flatMap escape ++ ['"']

def quote (text : String) : String :=
  String.ofList (quoteChars text.toList)

namespace Value

def kind : Value → Kind
  | boolean _ => .boolean
  | integer _ => .integer
  | text _ => .text

def data : Value → Data
  | boolean truth => .boolean truth
  | integer number => .integer number
  | text content => .text content

/-- The value that plain data is, its kind read off the data. -/
def ofPayload : Payload → Except KindFault Value
  | .plain (.boolean truth) => .ok (boolean truth)
  | .plain (.integer number) => .ok (integer number)
  | .plain (.text content) => .ok (text content)
  | payload => .error (.unsupported payload.typeName)

/-- The value of a wanted kind that plain data is; a truth is no integer. -/
def ofKind (kind : Kind) (payload : Payload) : Except KindFault Value :=
  match kind, payload with
  | .boolean, .plain (.boolean truth) => .ok (boolean truth)
  | .integer, .plain (.integer number) => .ok (integer number)
  | .text, .plain (.text content) => .ok (text content)
  | kind, payload => .error (.expected kind payload.typeName)

/-- The form for people. -/
def display : Value → String
  | boolean truth => if truth then "true" else "false"
  | integer number => Decimal.ofInt number
  | text content => content

/-- The form in a save file. -/
def literal : Value → String
  | boolean truth => if truth then "1" else "0"
  | integer number => Decimal.ofInt number
  | text content => quote content

/-- Whether a value can be written: an integer may have too many digits. -/
def isWritable : Value → Bool
  | integer number => Decimal.isWritable number
  | _ => true

/-- The form as one word of a statement. -/
def token : Value → String
  | text content => content
  | other => other.literal

theorem kind_zero (kind : Kind) : kind.zero.kind = kind := by
  cases kind <;> rfl

end Value

end CommandConsole
