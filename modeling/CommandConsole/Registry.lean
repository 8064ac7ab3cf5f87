import CommandConsole.Config
import CommandConsole.Declaration
import CommandConsole.Statement

set_option autoImplicit false

/-!
The registry of namespaces. A namespace is a fixed group of settings and commands with a handler
and a queue of statements that wait for one. It is known by its serial number for ever, and found by
its name while it is registered. Main statements: an update changes the one namespace that it is
aimed at (`space?_update_self`, `space?_update_other`).
-/
namespace CommandConsole

variable {κ : Type}

/-- The built-in commands and the callbacks of the host, which `κ` names. -/
inductive Callback (κ : Type)
  | help
  | load
  | save
  | host (key : κ)
deriving DecidableEq

/-- Whoever takes the calls of a namespace: the console itself, something of the host's that only
has a label, or one of the recorders that the example console attaches. -/
inductive Handler
  | console
  | label (name : String)
  | recorder (name : String) (serial : Nat)
deriving DecidableEq, Repr, Inhabited

/-- A command without an action can be executed and does nothing. -/
structure Command (κ : Type) where
  name : String
  description : Data
  action : Option (Callback κ)

/-- A setting is a typed variable; its current value and its default have its kind. -/
structure Setting (κ : Type) where
  name : String
  description : Data
  kind : Kind
  default : Value
  current : Value
  onChange : Option (Callback κ)

inductive Entry (κ : Type)
  | command (command : Command κ)
  | setting (setting : Setting κ)

/-- A name with its namespace, the way it is shown and queued. -/
def qualify (space name : String) : String :=
  space ++ "." ++ name

namespace Setting

def isModified (setting : Setting κ) : Bool :=
  setting.current != setting.default

def ofDeclaration (declaration : SettingDeclaration (Callback κ)) (default : Value) :
    Setting κ :=
  ⟨declaration.name.plain, describedAs declaration.description, declaration.kind, default, default,
    declaration.onChange⟩

end Setting

def Command.ofDeclaration (declaration : CommandDeclaration (Callback κ)) : Command κ :=
  ⟨declaration.name.plain, describedAs declaration.description, declaration.action⟩

namespace Entry

def name : Entry κ → String
  | command found => found.name
  | setting found => found.name

def description : Entry κ → Data
  | command found => found.description
  | setting found => found.description

def command? : Entry κ → Option (Command κ)
  | command found => some found
  | setting _ => none

def setting? : Entry κ → Option (Setting κ)
  | command _ => none
  | setting found => some found

/-- Whether what a console says about an entry can be written. -/
def isWritable : Entry κ → Bool
  | command found => found.description.isWritable
  | setting found =>
    found.default.isWritable && found.current.isWritable && found.description.isWritable

/-- An entry with a new current value, if it is a setting. -/
def assign (entry : Entry κ) (value : Value) : Entry κ :=
  match entry with
  | command found => .command found
  | setting found => .setting { found with current := value }

end Entry

/-- An object whose name is no text. It is shown with that name, at its position among the objects
of its namespace, but nothing that can be typed names it. -/
structure Nameless (κ : Type) where
  position : Nat
  label : Data
  entry : Entry κ

/-- The entries are the objects that have names; the queue holds at most as many statements as the
limit has places. -/
structure Namespace (κ : Type) where
  serial : Nat
  name : String
  entries : List (Entry κ)
  nameless : List (Nameless κ)
  limit : Limit
  handler : Option Handler
  pending : List Statement
  isRegistered : Bool

namespace Namespace

def find? (space : Namespace κ) (name : String) : Option (Entry κ) :=
  space.entries.find? (·.name == name)

def commands (space : Namespace κ) : List (Command κ) :=
  space.entries.filterMap Entry.command?

def settings (space : Namespace κ) : List (Setting κ) :=
  space.entries.filterMap Entry.setting?

/-- All objects in the order of their declarations, each with the name that it was given. -/
def objects (space : Namespace κ) : List (Data × Entry κ) :=
  space.nameless.foldl (fun objects found =>
      objects.insertIdx found.position (found.label, found.entry))
    (space.entries.map fun entry => (.text entry.name, entry))

def isAttached (space : Namespace κ) : Bool :=
  space.handler.isSome

def isFull (space : Namespace κ) : Bool :=
  space.limit.isReached space.pending.length

/-- The head of the queue, with the handler that there must be to replay it. -/
def due? (space : Namespace κ) : Option (Handler × Statement) :=
  match space.handler, space.pending with
  | some handler, statement :: _ => some (handler, statement)
  | _, _ => none

def dequeue (space : Namespace κ) : Namespace κ :=
  { space with pending := space.pending.tail }

def enqueue (space : Namespace κ) (statement : Statement) : Namespace κ :=
  { space with pending := space.pending ++ [statement] }

/-- Offers a statement to the queue, which accepts it unless it is full. -/
def offer (space : Namespace κ) (statement : Statement) : Bool × Namespace κ :=
  if space.isFull then (false, space) else (true, space.enqueue statement)

def assign (space : Namespace κ) (name : String) (value : Value) : Namespace κ :=
  { space with entries := space.entries.map fun entry =>
      if entry.name == name then entry.assign value else entry }

def handle (space : Namespace κ) (handler : Option Handler) : Namespace κ :=
  { space with handler := handler }

/-- A namespace that has left the table has no handler and nothing to do. -/
def retire (space : Namespace κ) : Namespace κ :=
  { space with handler := none, pending := [], isRegistered := false }

/-- The names of a namespace, commands first. -/
def listing (space : Namespace κ) : String :=
  let part := fun (title : String) (names : List String) =>
    "\t" ++ title ++ ": " ++ (if names.isEmpty then "(none)" else " ".intercalate names) ++ "\n"
  space.name ++ ": namespace\n" ++ part "Commands" (space.commands.map (·.name)) ++
    part "Variables" (space.settings.map (·.name))

/-- The names of a namespace, unless an object has none. -/
def listing? (space : Namespace κ) : Except Fault String :=
  if space.nameless.isEmpty then .ok space.listing else .error .wrongType

def describe (space : Namespace κ) (entry : Entry κ) : String :=
  let qualified := qualify space.name entry.name
  match entry with
  | .command command => qualified ++ " " ++ command.description.plain ++ "\n"
  | .setting setting =>
    qualified ++ ": " ++ setting.kind.name ++ "\nDefault: " ++ setting.default.display ++
      "\nCurrent: " ++ setting.current.display ++ "\n" ++ setting.description.plain ++ "\n"

/-- What a console says about an entry, if it can be written. -/
def describe? (space : Namespace κ) (entry : Entry κ) : Except Fault String :=
  if entry.isWritable then .ok (space.describe entry) else .error .tooLong

end Namespace

/-- Every namespace ever created, in the order of creation, which its serial number tells. -/
structure Registry (κ : Type) where
  spaces : List (Namespace κ)
  serials : spaces.map (·.serial) = List.range spaces.length

/-- What a token stands for: a namespace whose names are to be listed, or one of its entries. -/
inductive Resolution (κ : Type)
  | listing (space : Namespace κ)
  | entry (space : Namespace κ) (entry : Entry κ)

/-- How a setting is pointed at: by a token, or as a setting that somebody has kept. -/
inductive Target
  | token (token : String)
  | kept (space : Nat) (name : String)
deriving DecidableEq, Repr

/-- A token up to its first dot and after it; a token without a dot is a bare name. -/
def splitName (token : String) : Option String × String :=
  let chars := token.toList
  let before := chars.takeWhile (· != '.')
  match chars.drop before.length with
  | _ :: after => (some (String.ofList before), String.ofList after)
  | [] => (none, token)

namespace Registry

def empty : Registry κ :=
  ⟨[], rfl⟩

def table (registry : Registry κ) : List (Namespace κ) :=
  registry.spaces.filter (·.isRegistered)

def space? (registry : Registry κ) (serial : Nat) : Option (Namespace κ) :=
  registry.spaces.find? (·.serial == serial)

def find? (registry : Registry κ) (name : String) : Option (Namespace κ) :=
  registry.table.find? (·.name == name)

/-- Changes every namespace but its serial number. -/
def map (registry : Registry κ) (change : Namespace κ → Namespace κ) : Registry κ where
  spaces := registry.spaces.map fun space => { change space with serial := space.serial }
  serials := by simpa [Function.comp_def] using registry.serials

def update (registry : Registry κ) (serial : Nat) (change : Namespace κ → Namespace κ) :
    Registry κ :=
  registry.map fun space => if space.serial == serial then change space else space

def retire (registry : Registry κ) : Registry κ :=
  registry.map fun space => if space.isRegistered then space.retire else space

/-- The namespaces that have an entry of a name, with that entry. -/
def owners (registry : Registry κ) (name : String) : List (Namespace κ × Entry κ) :=
  registry.table.filterMap fun space => (space.find? name).map (space, ·)

/-- The entry that a token names: with a dot in its namespace, otherwise in the only namespace that
has it. -/
def lookup (registry : Registry κ) (token : String) :
    Except ConsoleError (Namespace κ × Entry κ) :=
  match splitName token with
  | (some spaceName, name) =>
    match registry.find? spaceName with
    | none => .error (.noSuchNamespace spaceName)
    | some space =>
      match space.find? name with
      | none => .error (.noSuchObject spaceName name)
      | some entry => .ok (space, entry)
  | (none, name) =>
    match registry.owners name with
    | [] => .error (.notFound name)
    | [found] => .ok found
    | several => .error (.ambiguous name (several.map (·.1.name)))

/-- What a token stands for; a namespace hides entries of its name. -/
def resolve (registry : Registry κ) (token : String) : Except ConsoleError (Resolution κ) :=
  let space := if (splitName token).1.isNone then registry.find? token else none
  match space with
  | some space => .ok (.listing space)
  | none =>
    match registry.lookup token with
    | .ok (space, entry) => .ok (.entry space entry)
    | .error cause => .error cause

def setting (registry : Registry κ) (token : String) :
    Except ConsoleError (Namespace κ × Setting κ) :=
  match registry.lookup token with
  | .error cause => .error cause
  | .ok (space, .setting setting) => .ok (space, setting)
  | .ok (space, .command command) => .error (.notSetting (qualify space.name command.name))

def command (registry : Registry κ) (token : String) :
    Except ConsoleError (Namespace κ × Command κ) :=
  match registry.lookup token with
  | .error cause => .error cause
  | .ok (space, .command command) => .ok (space, command)
  | .ok (space, .setting setting) => .error (.notCommand (qualify space.name setting.name))

/-- The setting that a target points at, with its namespace. A kept setting may have left the
table. -/
def target (registry : Registry κ) : Target → Except Fault (Namespace κ × Setting κ)
  | .token token =>
    match registry.setting token with
    | .ok found => .ok found
    | .error cause => .error (.console cause)
  | .kept serial name =>
    match registry.space? serial with
    | none => .error .wrongType
    | some space =>
      match space.find? name with
      | some (.setting setting) => .ok (space, setting)
      | _ => .error .wrongType

/-- The setting that a target points at, which must be of a kind. -/
def typed (registry : Registry κ) (kind : Kind) (target : Target) :
    Except Fault (Namespace κ × Setting κ) :=
  match registry.target target with
  | .error fault => .error fault
  | .ok (space, setting) =>
    if setting.kind = kind then .ok (space, setting)
    else .error (.console (.otherKind (qualify space.name setting.name) setting.kind kind))

def get (registry : Registry κ) (target : Target) : Except Fault Value :=
  (registry.target target).map fun found => found.2.current

def getTyped (registry : Registry κ) (kind : Kind) (target : Target) : Except Fault Value :=
  (registry.typed kind target).map fun found => found.2.current

/-- One line for each modified setting, in the order of the table and of its namespace. -/
def savedLines (registry : Registry κ) : List String :=
  registry.table.flatMap fun space =>
    (space.settings.filter (·.isModified)).map fun setting =>
      qualify space.name setting.name ++ " " ++ setting.current.literal

def dumps (registry : Registry κ) : String :=
  String.join (registry.savedLines.map (· ++ "\n"))

def isWritable (registry : Registry κ) : Bool :=
  registry.table.all fun space =>
    (space.settings.filter (·.isModified)).all (·.current.isWritable)

/-- The save file of a registry, if it can be written. -/
def dumps? (registry : Registry κ) : Except Fault String :=
  if registry.isWritable then .ok registry.dumps else .error .tooLong

theorem spaces_map (registry : Registry κ) (change : Namespace κ → Namespace κ)
    (kept : ∀ space, (change space).serial = space.serial) :
    (registry.map change).spaces = registry.spaces.map change := by
  refine List.map_congr_left fun space _ => ?_
  rw [← kept space]

theorem spaces_update (registry : Registry κ) (serial : Nat) (change : Namespace κ → Namespace κ)
    (kept : ∀ space, (change space).serial = space.serial) :
    (registry.update serial change).spaces =
      registry.spaces.map fun space => if space.serial == serial then change space else space := by
  refine spaces_map registry _ fun space => ?_
  split
  · exact kept space
  · rfl

theorem space?_update_self (registry : Registry κ) (serial : Nat)
    (change : Namespace κ → Namespace κ) (kept : ∀ space, (change space).serial = space.serial) :
    (registry.update serial change).space? serial = (registry.space? serial).map change := by
  simp only [space?, spaces_update registry serial change kept]
  induction registry.spaces with
  | nil => rfl
  | cons space rest ih =>
    rw [List.map_cons, List.find?_cons, List.find?_cons, ih]
    by_cases same : space.serial = serial
    · simp [same, kept]
    · have apart : (space.serial == serial) = false := by simpa using same
      simp [apart]

theorem space?_update_other (registry : Registry κ) (serial other : Nat)
    (change : Namespace κ → Namespace κ) (kept : ∀ space, (change space).serial = space.serial)
    (different : other ≠ serial) :
    (registry.update serial change).space? other = registry.space? other := by
  simp only [space?, spaces_update registry serial change kept]
  induction registry.spaces with
  | nil => rfl
  | cons space rest ih =>
    rw [List.map_cons, List.find?_cons, List.find?_cons, ih]
    by_cases same : space.serial = serial
    · have apart : (serial == other) = false := by simpa using fun equal => different equal.symm
      simp [same, kept, apart]
    · simp [same]

end Registry

end CommandConsole
