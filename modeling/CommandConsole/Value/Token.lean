import CommandConsole.Text.Blank
import CommandConsole.Value

set_option autoImplicit false

namespace CommandConsole

/-- Why a token is not a value of the wanted kind. -/
inductive TokenFault
  | notBoolean (token : String)
  | notInteger (token : String)
  | tooManyDigits (count : Nat)
deriving DecidableEq, Repr

namespace TokenFault

def message : TokenFault → String
  | notBoolean token => "not a boolean: " ++ Text.quoted token
  | notInteger token => "not an integer: " ++ Text.quoted token
  | tooManyDigits count =>
    "Exceeds the limit (4300 digits) for integer string conversion: value has " ++
      Decimal.ofNat count ++
      " digits; use sys.set_int_max_str_digits() to increase the limit"

end TokenFault

namespace Value

def trueWords : List String := ["1", "true", "yes", "on"]

def falseWords : List String := ["0", "false", "no", "off"]

/-- ASCII letters in lower case; no other character has a word's letter as its lower case. -/
def lowerWord (token : String) : String :=
  String.ofList ((Text.trim token.toList).map Char.toLower)

/-- A sign at the start of the characters, if any, and what follows it. -/
def splitSign : List Char → Bool × List Char
  | '-' :: rest => (true, rest)
  | '+' :: rest => (false, rest)
  | chars => (false, chars)

/-- An integer: blanks around it, one sign at most, and then decimal digits. -/
def parseInteger (token : String) : Except TokenFault Int :=
  let parts := splitSign (Text.trim token.toList)
  if parts.2.isEmpty || !parts.2.all Decimal.isDigit then .error (.notInteger token)
  else if Decimal.digitLimit < parts.2.length then .error (.tooManyDigits parts.2.length)
  else .ok (if parts.1 then -(Decimal.read parts.2 : Int) else Decimal.read parts.2)

def parseBoolean (token : String) : Except TokenFault Bool :=
  let word := lowerWord token
  if trueWords.contains word then .ok true
  else if falseWords.contains word then .ok false
  else .error (.notBoolean token)

/-- The value of a kind that a token denotes; any token is a text. -/
def parse (kind : Kind) (token : String) : Except TokenFault Value :=
  match kind with
  | .boolean => (parseBoolean token).map boolean
  | .integer => (parseInteger token).map integer
  | .text => .ok (text token)

theorem kind_of_parse {kind : Kind} {token : String} {value : Value}
    (success : parse kind token = .ok value) : value.kind = kind := by
  cases kind with
  | boolean =>
    simp only [parse, Except.map] at success
    split at success <;> simp_all
    subst success; rfl
  | integer =>
    simp only [parse, Except.map] at success
    split at success <;> simp_all
    subst success; rfl
  | text =>
    simp only [parse, Except.ok.injEq] at success
    subst success; rfl

end Value

end CommandConsole
