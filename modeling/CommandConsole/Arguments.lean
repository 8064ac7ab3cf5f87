import CommandConsole.Statement

set_option autoImplicit false

/-!
Process arguments as statements. An argument that starts with a dash opens a statement, plain
arguments extend the open one, and stray ones extend the default command. A bare dash ends this:
every later argument is stray.
-/
namespace CommandConsole.Arguments

/-- The statements closed so far, the one that is open, and the stray arguments. -/
structure Grouping where
  closed : List Statement
  current : Statement
  stray : List String
  dashesOver : Bool
deriving DecidableEq, Repr

def Grouping.start : Grouping :=
  ⟨[], ⟨[]⟩, [], false⟩

/-- The statements closed so far with the open one, if it holds anything. -/
def Grouping.statements (grouping : Grouping) : List Statement :=
  if grouping.current.isEmpty then grouping.closed else grouping.closed ++ [grouping.current]

def isDashed (argument : String) : Bool :=
  argument.toList.head? == some '-'

def undashed (argument : String) : String :=
  String.ofList (argument.toList.dropWhile (· == '-'))

def Grouping.take (grouping : Grouping) (argument : String) : Grouping :=
  if !grouping.dashesOver && isDashed argument then
    let name := undashed argument
    if name.isEmpty then ⟨grouping.statements, ⟨[]⟩, grouping.stray, true⟩
    else ⟨grouping.statements, ⟨[name]⟩, grouping.stray, grouping.dashesOver⟩
  else if argument.isEmpty then grouping
  else if grouping.current.isEmpty then
    { grouping with stray := grouping.stray ++ [argument] }
  else { grouping with current := grouping.current.extend [argument] }

/-- The statements that arguments form, the default command with the stray ones last. -/
def split (arguments : List String) (defaultLine : String) : List Statement :=
  let grouping := arguments.foldl Grouping.take Grouping.start
  if grouping.stray.isEmpty then grouping.statements
  else grouping.statements ++ [(Statement.parse defaultLine).extend grouping.stray]

end CommandConsole.Arguments
