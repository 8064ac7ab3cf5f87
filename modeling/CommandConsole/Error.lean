import CommandConsole.Limit
import CommandConsole.Storage
import CommandConsole.Value.Token
import CommandConsole.Yaml.Cursor

set_option autoImplicit false

/-!
What can go wrong. Console errors are meant for the person at the console: whoever executes a
statement writes them out and goes on. All other faults leave the operation in which they arise.
-/
namespace CommandConsole

/-- Why a declared default is not a value of the declared kind. -/
inductive DefaultFault
  | notValue (cause : KindFault)
  | otherKind (name : Data) (actual declared : Kind)

def DefaultFault.message : DefaultFault → String
  | notValue cause => cause.message
  | otherKind name actual declared =>
    name.plain ++ ": default is " ++ actual.name ++ ", declared " ++ declared.name

inductive ConsoleError
  | notFound (name : String)
  | notSetting (qualified : String)
  | notCommand (qualified : String)
  | noSuchNamespace (name : String)
  | noSuchObject (space name : String)
  | ambiguous (name : String) (spaces : List String)
  | otherKind (qualified : String) (expected actual : Kind)
  | badToken (qualified : String) (expected : Kind) (token : String)
  | badPayload (qualified : String) (cause : KindFault)
  | tooManyArguments (qualified : String)
  | unreadable (path : String)
  | unwritable (path : String)
  | tableFull (name : String) (limit : Limit)
  | badNamespaceName (name : Data)
  | namespaceExists (name : String)
  | badObjectName (space : String) (name : Data)
  | duplicateNames (space : String) (names : List String)
  | badDefault (space : String) (cause : DefaultFault)
  | raised (message : String)

namespace ConsoleError

def message : ConsoleError → String
  | notFound name => name ++ ": No such command or variable"
  | notSetting qualified => qualified ++ ": Not a variable"
  | notCommand qualified => qualified ++ ": Not a command"
  | noSuchNamespace name => name ++ ": No such namespace"
  | noSuchObject space name =>
    name ++ ": No such command or variable in namespace \"" ++ space ++ "\""
  | ambiguous name spaces =>
    "\n".intercalate
      ((name ++ ": Name is ambiguous for " ++ Decimal.ofNat spaces.length ++ " namespaces:") ::
        spaces.map fun space => "\t" ++ space ++ "." ++ name)
  | otherKind qualified expected actual =>
    qualified ++ ": Expected " ++ expected.name ++ ", got " ++ actual.name
  | badToken qualified expected token =>
    qualified ++ ": Expected " ++ expected.name ++ ", got \"" ++ token ++ "\""
  | badPayload qualified cause => qualified ++ ": " ++ cause.message
  | tooManyArguments qualified => qualified ++ ": Too many arguments"
  | unreadable path => path ++ ": Failed to open file for reading"
  | unwritable path => path ++ ": Failed to open file for writing"
  | tableFull name limit => name ++ ": Namespace table is full (" ++ limit.text ++ ")"
  | badNamespaceName name => "Invalid namespace name: " ++ name.shown
  | namespaceExists name => name ++ ": Namespace already exists"
  | badObjectName space name => space ++ ": Invalid object name: " ++ name.shown
  | duplicateNames space names => space ++ ": Duplicate names: " ++ ", ".intercalate names
  | badDefault space cause => space ++ "." ++ cause.message
  | raised message => message

end ConsoleError

inductive ConfigFault
  | emptyName
  | notPositive (limit : Limit)
  | negative (limit : Limit)
deriving DecidableEq, Repr

def ConfigFault.message : ConfigFault → String
  | emptyName => "app_name must not be empty"
  | notPositive limit => "max_namespaces must be positive, got " ++ limit.text
  | negative limit => "max_pending must not be negative, got " ++ limit.text

/-- Everything that an operation may end with instead of a result. `tooLong` says that an integer
has too many digits to be written. `exhausted` says that the bound on nested callbacks was reached;
no callback can catch it. -/
inductive Fault
  | console (cause : ConsoleError)
  | config (cause : ConfigFault)
  | kind (cause : KindFault)
  | token (cause : TokenFault)
  | default (cause : DefaultFault)
  | document (cause : Yaml.Fault)
  | notKind (data : Data)
  | missingField (name : String)
  | unknownCallback (name : Data)
  | wrongType
  | noMember
  | noArgument
  | notUnicode
  | storage (cause : Storage.Fault)
  | tooLong
  | crash (message : String)
  | exhausted

/-- The wording of a fault; misuse by the host has none. -/
def Fault.message : Fault → Option String
  | console cause => some cause.message
  | config cause => some cause.message
  | kind cause => some cause.message
  | token cause => some cause.message
  | default cause => some cause.message
  | document cause => cause.message
  | notKind data => some (data.shown ++ " is not a valid ValueKind")
  | missingField name => some name
  | unknownCallback name => some ("Unknown callback: " ++ name.plain)
  | storage .nullInPath => some "embedded null byte"
  | tooLong =>
    some ("Exceeds the limit (4300 digits) for integer string conversion; " ++
      "use sys.set_int_max_str_digits() to increase the limit")
  | crash message => some message
  | storage _ | wrongType | noMember | noArgument | notUnicode | exhausted => none

/-- A fault whose wording shows data. Data that cannot be written are a fault of their own. -/
def Fault.showing (data : Data) (fault : Fault) : Fault :=
  if data.isWritable then fault else .tooLong

end CommandConsole
