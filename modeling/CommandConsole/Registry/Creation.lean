import CommandConsole.Registry

set_option autoImplicit false

namespace CommandConsole

variable {κ : Type}

/-- Whether a name holds a dot, as a character or as an item; data that hold nothing cannot be
asked. -/
def hasDot? (name : Data) : Option Bool :=
  let isDot := fun (item : Data) => item.same (.text ".")
  match name.unmarked with
  | .text content => some (content.toList.contains '.')
  | .list items | .tuple items | .set items => some (items.any isDot)
  | .mapping pairs => some (pairs.any fun pair => isDot pair.1)
  | _ => none

/-- Refuses a name that is absent or holds a dot. -/
def checkName (refused : Fault) (name : Data) : Except Fault Unit :=
  if !name.isPresent then .error refused
  else
    match hasDot? name with
    | some false => .ok ()
    | some true => .error refused
    | none => .error .wrongType

/-- The text that the name of a namespace is; a table has no place for any other name. -/
def nameText (name : Data) : Except Fault String :=
  match name with
  | .text content => .ok content
  | _ => .error .wrongType

/-- The names that occur more than once, in order and each once. -/
def duplicates (names : List String) : List String :=
  let repeated := (names.filter fun name => 1 < names.count name).eraseDups
  repeated.mergeSort fun left right => !decide (right < left)

def textsOf (names : List Data) : List String :=
  names.filterMap fun name => match name with
    | .text content => some content
    | _ => none

/-- Whether data that are no keys occur more than once. -/
def repeatsOther (names : List Data) : Bool :=
  names.any fun name => !name.isKey && 1 < names.countP (Data.same name)

/-- The objects among others that have texts for names. -/
def named (objects : List (Data × Entry κ)) : List (Entry κ) :=
  objects.filterMap fun object => if object.1.isText then some object.2 else none

/-- The objects that have other names, with their positions. -/
def nameless (objects : List (Data × Entry κ)) : List (Nameless κ) :=
  objects.zipIdx.filterMap fun (object, position) =>
    if object.1.isText then none else some ⟨position, object.1, object.2⟩

namespace NamespaceDeclaration

/-- The names of the objects, settings before commands. -/
def names (declaration : NamespaceDeclaration (Callback κ)) : List Data :=
  declaration.settings.map (·.name) ++ declaration.commands.map (·.name)

/-- A console error that shows the name of the namespace. -/
def refusing (declaration : NamespaceDeclaration (Callback κ)) (cause : ConsoleError) : Fault :=
  .showing declaration.name (.console cause)

/-- Refuses an object's name that is no name, and names that are met twice. -/
def checkNames (declaration : NamespaceDeclaration (Callback κ)) : Except Fault Unit := do
  let space := declaration.name.plain
  declaration.names.forM fun name =>
    checkName (.showing name (declaration.refusing (.badObjectName space name))) name
  let repeated := duplicates (textsOf declaration.names)
  if repeatsOther declaration.names then throw .wrongType
  else if !repeated.isEmpty then throw (declaration.refusing (.duplicateNames space repeated))
  else return

/-- The object that a declared setting becomes, with its name. -/
def settingObject (declaration : NamespaceDeclaration (Callback κ))
    (setting : SettingDeclaration (Callback κ)) : Except Fault (Data × Entry κ) :=
  match setting.defaultValue with
  | .ok default => .ok (setting.name, .setting (.ofDeclaration setting default))
  | .error cause =>
    let fault := declaration.refusing (.badDefault declaration.name.plain cause)
    .error (if cause matches .otherKind _ _ _ then .showing setting.name fault else fault)

def commandObject (command : CommandDeclaration (Callback κ)) : Data × Entry κ :=
  (command.name, .command (.ofDeclaration command))

/-- The objects of a declaration with their names, settings before commands. -/
def objects (declaration : NamespaceDeclaration (Callback κ)) :
    Except Fault (List (Data × Entry κ)) := do
  declaration.checkNames
  return (← declaration.settings.mapM declaration.settingObject) ++
    declaration.commands.map commandObject

end NamespaceDeclaration

namespace Registry

def isTaken (registry : Registry κ) (name : Data) : Bool :=
  match name with
  | .text content => (registry.find? content).isSome
  | _ => false

/-- The namespace that a declaration adds to a registry: detached, with nothing in its queue. -/
def declared (registry : Registry κ) (config : Config)
    (declaration : NamespaceDeclaration (Callback κ)) : Except Fault (Namespace κ) := do
  let shown := declaration.name.plain
  checkName (declaration.refusing (.badNamespaceName declaration.name)) declaration.name
  if registry.isTaken declaration.name then throw (declaration.refusing (.namespaceExists shown))
  else if config.maxNamespaces.isReached registry.table.length then
    throw (declaration.refusing (.tableFull shown config.maxNamespaces))
  else
    let objects ← declaration.objects
    let name ← nameText declaration.name
    return ⟨registry.spaces.length, name, named objects, nameless objects, config.maxPending, none,
      [], true⟩

/-- Puts a namespace at the end, under the next serial number. -/
def add (registry : Registry κ) (space : Namespace κ) : Registry κ where
  spaces := registry.spaces ++ [{ space with serial := registry.spaces.length }]
  serials := by simp [registry.serials, List.range_succ]

end Registry

end CommandConsole
