import CommandConsole.Arguments
import CommandConsole.Builtin
import CommandConsole.Console
import CommandConsole.Registry.Creation

set_option autoImplicit false

/-!
The operations of a console. They are defined over a way to run callbacks, so that what holds of
every operation can be said of one step between callbacks; the last section closes the circle with a
bound on how deep callbacks nest. A queue is replayed in rounds under the same bound.
-/
namespace CommandConsole

open CommandConsole.Action

variable {κ : Type}

/-- A way to run the callback of a call. -/
abbrev Runner (κ : Type) := Call κ → Action κ Bool

section Operations

variable (run : Runner κ)

def offer (space : Namespace κ) (statement : Statement) : Action κ Bool := do
  match (← registry).space? space.serial with
  | none => return false
  | some present =>
    let accepted := (present.offer statement).1
    update space.serial fun changed => (changed.offer statement).2
    record (.offered space.serial statement accepted)
    return accepted

/-- Queues work on an entry under its qualified name, so that later namespaces cannot make the name
ambiguous. -/
def defer (space : Namespace κ) (name : String) (arguments : List String) : Action κ Unit := do
  let _ ← offer space ⟨qualify space.name name :: arguments⟩

/-- Runs a command with a handler. A command that cannot use its arguments shows its usage. -/
def runCommand (handler : Handler) (isReplay : Bool) (space : Namespace κ) (command : Command κ)
    (statement : Statement) : Action κ Bool := do
  record (.executed space.serial command.name statement)
  match command.action with
  | none => return true
  | some callback =>
    if ← run ⟨callback, space.serial, command.name, handler, .command statement, isReplay⟩ then
      return true
    else if command.description.isWritable then
      write ("Usage: " ++ qualify space.name command.name ++ " " ++ command.description.plain ++
        "\n")
      return false
    else throw .tooLong

/-- Tells the callback of a setting its value, if it has a callback. -/
def notify (handler : Handler) (isReplay : Bool) (space : Namespace κ) (setting : Setting κ)
    (value : Value) : Action κ Unit := do
  match setting.onChange with
  | none => return
  | some callback =>
    let _ ← run ⟨callback, space.serial, setting.name, handler, .change value, isReplay⟩

/-- Tells the callback of a setting that it has changed. A detached namespace queues the change with
the token that it was typed as, or else with a token that is written for it. -/
def announce (space : Namespace κ) (setting : Setting κ) (value : Value) (typed : Option String) :
    Action κ Unit :=
  match space.handler with
  | some handler => notify run handler false space setting value
  | none =>
    match typed with
    | some token => defer space setting.name [token]
    | none =>
      if value.isWritable then defer space setting.name [value.token] else throw .tooLong

/-- Gives a setting a value of its kind. Nothing happens when it holds that value already. -/
def assign (space : Namespace κ) (setting : Setting κ) (value : Value) (typed : Option String) :
    Action κ Bool := do
  if value.kind ≠ setting.kind then
    throw (.console (.otherKind (qualify space.name setting.name) setting.kind value.kind))
  else if value = setting.current then return false
  else
    update space.serial (·.assign setting.name value)
    record (.changed space.serial setting.name value)
    announce run space setting value typed
    return true

def valueOf (space : Namespace κ) (setting : Setting κ) (token : String) : Action κ Value :=
  match Value.parse setting.kind token with
  | .ok value => pure value
  | .error _ =>
    throw (.console (.badToken (qualify space.name setting.name) setting.kind token))

def dispatch (space : Namespace κ) (entry : Entry κ) (statement : Statement) : Action κ Bool := do
  match entry with
  | .command command =>
    match space.handler with
    | none =>
      defer space command.name statement.arguments
      return true
    | some handler => runCommand run handler false space command statement
  | .setting setting =>
    match statement.arguments with
    | [] =>
      write (← lift (space.describe? entry))
      return true
    | [token] =>
      let value ← valueOf space setting token
      let _ ← assign run space setting value (some token)
      return true
    | _ => throw (.console (.tooManyArguments (qualify space.name setting.name)))

/-- What a token stands for; a namespace is listed. -/
def resolve (token : String) : Action κ (Resolution κ) := do
  let resolution ← liftError ((← registry).resolve token)
  match resolution with
  | .listing space => write (← lift space.listing?)
  | .entry _ _ => pure ()
  return resolution

/-- Executes a statement; its console errors are written out and only end this statement. -/
def executeStatement (statement : Statement) : Action κ Bool := do
  if statement.isEmpty then return false
  else
    reporting false do
      match ← resolve statement.name with
      | .listing _ => return true
      | .entry space entry => dispatch run space entry statement

def execute (line : String) : Action κ Bool :=
  executeStatement run (Statement.parse line)

def executeEach : List Statement → Action κ Unit
  | [] => return
  | statement :: rest => do
    let _ ← executeStatement run statement
    executeEach rest

def executeArguments (arguments : List String) (defaultLine : String) :
    Action κ (List Statement) := do
  let statements := Arguments.split arguments defaultLine
  executeEach run statements
  return statements

/-- Replays a queued statement: runs the command that it names or tells the setting's callback. The
value itself was stored when the statement was executed. -/
def replay (handler : Handler) (statement : Statement) : Action κ Unit := do
  match ← liftError ((← registry).lookup statement.name) with
  | (space, .command command) =>
    let _ ← runCommand run handler true space command statement
  | (space, .setting setting) =>
    if setting.onChange.isSome then
      match statement.arguments with
      | [] => throw .noArgument
      | token :: _ =>
        let value ← valueOf space setting token
        notify run handler true space setting value

/-- Replays the queue of a namespace while it has a handler, each statement once, in a number of
rounds at most. -/
def flush (space : Nat) (rounds : Nat) : Action κ Unit := do
  match ((← registry).space? space).bind Namespace.due? with
  | none => return
  | some (handler, statement) =>
    match rounds with
    | 0 => throw .exhausted
    | rounds + 1 => do
      update space Namespace.dequeue
      record (.taken space statement)
      reporting () (replay run handler statement)
      flush space rounds

/-- Gives a namespace a handler, or takes it away. A detached namespace that gets one replays its
queue. The rounds beyond the length of the queue are for what is queued meanwhile. -/
def setHandler (rounds : Nat) (space : Nat) (handler : Option Handler) : Action κ Unit := do
  match (← registry).space? space with
  | none => return
  | some before =>
    update space (·.handle handler)
    record (.attached space handler)
    if before.handler.isNone && handler.isSome then
      flush run space (before.pending.length + rounds)

/-- Gives a namespace a handler; one that has left the table only keeps it. -/
def attach (rounds : Nat) (space : Nat) (handler : Option Handler) : Action κ Unit := do
  match (← registry).space? space with
  | none => return
  | some before =>
    if before.isRegistered then setHandler run rounds space handler
    else
      update space (·.handle handler)
      record (.attached space handler)

/-- Adds the namespace of a declaration and answers its serial number. -/
def create (declaration : NamespaceDeclaration (Callback κ)) : Action κ Nat := do
  let console ← get
  let space ← lift (console.registry.declared console.config declaration)
  set { console with registry := console.registry.add space }
  record (.created space.serial declaration)
  return space.serial

/-- Adds the namespaces of some declarations in order, up to the first that is refused, and answers
their serial numbers. -/
def createAll : List (NamespaceDeclaration (Callback κ)) → Action κ (List Nat)
  | [] => return []
  | declaration :: rest => do
    let serial ← create declaration
    return serial :: (← createAll rest)

def teardown : Action κ Unit := do
  modify fun console => { console with registry := console.registry.retire }
  record .retired

/-- Assigns a value that nobody has typed. -/
def assignValue (space : Namespace κ) (setting : Setting κ) (value : Value) : Action κ Bool :=
  assign run space setting value none

def assignPayload (space : Namespace κ) (setting : Setting κ) (payload : Payload) :
    Action κ Bool := do
  match payload with
  | .value value => assignValue run space setting value
  | payload =>
    match Value.ofPayload payload with
    | .ok value => assignValue run space setting value
    | .error cause => throw (.console (.badPayload (qualify space.name setting.name) cause))

def setValue (target : Target) (payload : Payload) : Action κ Bool := do
  let (space, setting) ← lift ((← registry).target target)
  assignPayload run space setting payload

def setTyped (kind : Kind) (target : Target) (payload : Payload) : Action κ Bool := do
  let (space, setting) ← lift ((← registry).typed kind target)
  assignPayload run space setting payload

def reset (target : Target) : Action κ Bool := do
  let (space, setting) ← lift ((← registry).target target)
  assignValue run space setting setting.default

/-- Flips a truth and answers what the setting holds in the end. -/
def toggle (target : Target) : Action κ Bool := do
  let (space, setting) ← lift ((← registry).typed .boolean target)
  let _ ← assignValue run space setting (.boolean (setting.current != .boolean true))
  let after ← lift ((← registry).get (.kept space.serial setting.name))
  return after == .boolean true

/-- Executes each line of a text that is neither blank nor a comment, and counts them. -/
def executeLines : List String → Action κ Nat
  | [] => return 0
  | line :: rest => do
    let stripped := Text.strip line
    if stripped.isEmpty || stripped.startsWith "#" then executeLines rest
    else
      let _ ← execute run stripped
      return (← executeLines rest) + 1

def loads (text : String) : Action κ Nat :=
  executeLines run (Text.lines text)

/-- Executes the statements in files and counts the files. One that cannot be read is reported. -/
def load : List String → Action κ Nat
  | [] => return 0
  | path :: rest => do
    record (.opened path)
    match (← get).storage.read path with
    | .error .nullInPath => throw (.storage .nullInPath)
    | .error _ =>
      write ((ConsoleError.unreadable path).message ++ "\n")
      load rest
    | .ok content =>
      match String.fromUTF8? content with
      | none => throw .notUnicode
      | some text =>
        let _ ← loads run text
        return (← load rest) + 1

/-- Writes the modified settings to a file and counts them. -/
def save (path : String) : Action κ Nat := do
  let content ← lift (← registry).dumps?
  record (.opened path)
  let console ← get
  match console.storage.write path content.toUTF8 with
  | .error .nullInPath => throw (.storage .nullInPath)
  | .error _ => throw (.console (.unwritable path))
  | .ok storage =>
    set { console with storage := storage }
    return console.registry.savedLines.length

def describe (token : String) : Action κ Unit := do
  let (space, entry) ← liftError ((← registry).lookup token)
  write (← lift (space.describe? entry))

/-- Carries out an operation that a call has asked for, or the host itself. -/
def carryOut (rounds : Nat) (call : Option (Call κ)) : Operation κ → Action κ (Reply κ)
  | .execute line => return .flag (← execute run line)
  | .executeStatement statement => return .flag (← executeStatement run statement)
  | .executeArguments arguments defaultLine =>
    return .statements (← executeArguments run arguments defaultLine)
  | .set target payload => return .flag (← setValue run target payload)
  | .setTyped kind target payload => return .flag (← setTyped run kind target payload)
  | .reset target => return .flag (← reset run target)
  | .toggle target => return .flag (← toggle run target)
  | .attach space handler => do
    attach run rounds space handler
    return .done
  | .attachAnyway space handler => do
    setHandler run rounds space handler
    return .done
  | .enqueue space statement => do
    match (← registry).space? space with
    | some present => return .flag (← offer present statement)
    | none => return .flag false
  | .create declaration => return .space (← create declaration)
  | .teardown => do
    teardown
    return .done
  | .loads text => return .count (← loads run text)
  | .load paths => return .count (← load run paths)
  | .save path => return .count (← save path)
  | .setSavePath path => do
    let target := Target.token (qualify Builtin.spaceName Builtin.savePath)
    let _ ← setTyped run .text target (.plain (.text path))
    return .done
  | .describe token => do
    describe token
    return .done
  | .resolve token => return .resolution (← resolve token)
  | .write text => do
    write text
    return .done
  | .note text => do
    record (.noted call text)
    return .done
  | .look => return .registry (← registry)

/-- Performs an operation. A fault of the operation is a reply to whoever has asked for it. -/
def perform (rounds : Nat) (call : Option (Call κ)) (operation : Operation κ) :
    Action κ (Reply κ) :=
  answering call operation (carryOut run rounds call operation)

end Operations

/-- Goes through a script. A script sees the faults of its operations, except that of having
reached the bound. -/
def runScript (perform : Operation κ → Action κ (Reply κ)) : Script κ → Action κ Bool
  | .done handled => return handled
  | .fail fault => throw fault
  | .ask operation next => do
    match ← perform operation with
    | .failed .exhausted => throw .exhausted
    | reply => runScript perform (next reply)

/-- Runs callbacks that nest at most as deep as a bound. -/
def runWithin (conduct : Conduct κ) : Nat → Runner κ
  | 0, call => calling call (throw .exhausted)
  | bound + 1, call => calling call do
    let script := Callback.script (conduct (← get)) call
    runScript (perform (runWithin conduct bound) bound (some call)) script

namespace Console

/-- Performs an operation that the host has asked for, and answers the reply. -/
def act (conduct : Conduct κ) (bound : Nat) (operation : Operation κ) : Action κ (Reply κ) :=
  CommandConsole.perform (runWithin conduct bound) bound none operation

/-- Performs an operation of a host whose callbacks remember nothing. -/
def perform (host : Host κ) (bound : Nat) (operation : Operation κ) : Action κ (Reply κ) := do
  match ← act (fun _ => host) bound operation with
  | .failed fault => throw fault
  | reply => return reply

def empty (config : Config) (storage : Storage) : Console κ :=
  ⟨config, .empty, storage, []⟩

/-- Adds the built-in namespace, whose handler is the console. -/
def install (host : Host κ) (bound : Nat) : Action κ Unit := do
  match ← perform host bound (.create Builtin.declaration) with
  | .space serial =>
    let _ ← perform host bound (.attach serial (some .console))
  | _ => return

end Console

end CommandConsole
