import CommandConsole.Config
import CommandConsole.Declaration
import CommandConsole.Yaml.Document
import CommandConsole.Yaml.Writer

set_option autoImplicit false

/-!
Declarations as documents. A callback has no written form of its own: documents name it by its
entry in a table that the host supplies.
-/
namespace CommandConsole

variable {κ : Type} [DecidableEq κ]

/-- The callbacks that documents may name, in the host's order. -/
abbrev CallbackTable (κ : Type) := List (String × κ)

namespace CallbackTable

/-- A table from pairs; a repeated name keeps its place and takes the later callback. -/
def insert (table : CallbackTable κ) (name : String) (callback : κ) : CallbackTable κ :=
  if table.any (·.1 == name) then
    table.map fun entry => if entry.1 == name then (name, callback) else entry
  else table ++ [(name, callback)]

def ofPairs (pairs : List (String × κ)) : CallbackTable κ :=
  pairs.foldl (fun table pair => table.insert pair.1 pair.2) []

def get? (table : CallbackTable κ) (name : String) : Option κ :=
  (table.find? (·.1 == name)).map (·.2)

/-- The callback that data name, none for null. -/
def resolve (table : CallbackTable κ) (name : Data) : Except Fault (Option κ) :=
  match name with
  | .null => .ok none
  | .text content =>
    match table.get? content with
    | some callback => .ok (some callback)
    | none => .error (.unknownCallback name)
  | name =>
    if name.isKey then .error (Fault.showing name (.unknownCallback name)) else .error .wrongType

/-- The first name of a callback in the table, or else the callback's own name. -/
def nameOf (table : CallbackTable κ) (ownName : κ → Option String) (callback : Option κ) : Data :=
  match callback with
  | none => .null
  | some callback =>
    match table.find? (·.2 == callback) with
    | some entry => .text entry.1
    | none =>
      match ownName callback with
      | some name => .text name
      | none => .null

end CallbackTable

namespace Declaration

/-- The field of a mapping that must be there. Other data have no named fields. -/
def need (datum : Datum) (name : String) : Except Fault Data :=
  match datum.pairs? with
  | some pairs =>
    match Datum.lookup? name pairs with
    | some item => .ok item.data
    | none => .error (.missingField name)
  | none => .error .wrongType

def field? (datum : Datum) (name : String) : Except Fault (Option Datum) :=
  match datum.pairs? with
  | some pairs => .ok (Datum.lookup? name pairs)
  | none => .error .noMember

/-- The field of a mapping, null when it is not there. -/
def optional (datum : Datum) (name : String) : Except Fault Data :=
  (field? datum name).map fun found => (found.map Datum.data).getD .null

def warnUnknown (sort : String) (datum : Datum) (known : List String) : Reading Unit := do
  let unknown ← datum.unknownKeys known
  if !unknown.isEmpty then
    let owner ← optional datum "name"
    if !owner.isWritable then throw .tooLong
    let some names := Data.sortedTexts? unknown | throw .wrongType
    Reading.warn (.unknownFields sort owner names)

def kindOf (data : Data) : Except Fault Kind :=
  let refused := Fault.showing data (.notKind data)
  match data with
  | .text name =>
    match Kind.ofName? name with
    | some kind => .ok kind
    | none => .error refused
  | _ => .error refused

/-- A default as documents give it: one and zero are truths, and any data but null are a text where
one is declared. -/
def coerce (kind : Kind) (default : Data) : Except Fault Data :=
  match kind, default with
  | .boolean, .integer number =>
    .ok (if number = 0 then .boolean false else if number = 1 then .boolean true else default)
  | .text, .null => .ok .null
  | .text, default => if default.isWritable then .ok (.text default.plain) else .error .tooLong
  | _, default => .ok default

end Declaration

open Declaration

def SettingDeclaration.fieldNames : List String :=
  ["name", "type", "default", "description", "on_change"]

def CommandDeclaration.fieldNames : List String :=
  ["name", "func", "description"]

def SettingDeclaration.ofDatum (table : CallbackTable κ) (datum : Datum) :
    Reading (SettingDeclaration κ) := do
  warnUnknown "variable" datum fieldNames
  let kind ← kindOf (← need datum "type")
  let default ← coerce kind (← optional datum "default")
  let name ← need datum "name"
  let onChange ← table.resolve (← optional datum "on_change")
  return ⟨name, kind, .plain default, onChange, ← optional datum "description"⟩

def CommandDeclaration.ofDatum (table : CallbackTable κ) (datum : Datum) :
    Reading (CommandDeclaration κ) := do
  warnUnknown "command" datum fieldNames
  let name ← need datum "name"
  let action ← table.resolve (← optional datum "func")
  return ⟨name, action, describedAs (← optional datum "description")⟩

def Declaration.elementsOf (datum : Datum) (name : String) : Except Fault (List Datum) := do
  match ← field? datum name with
  | none => return []
  | some field =>
    if !field.isPresent then return []
    match field.elements? with
    | some elements => return elements
    | none => throw .wrongType

/-- The commands of a namespace are read before its settings. -/
def NamespaceDeclaration.ofDatum (table : CallbackTable κ) (datum : Datum) :
    Reading (NamespaceDeclaration κ) := do
  let name ← need datum "name"
  let commands ← (← elementsOf datum "commands").mapM (CommandDeclaration.ofDatum table)
  let settings ← (← elementsOf datum "variables").mapM (SettingDeclaration.ofDatum table)
  return ⟨name, commands, settings⟩

def CommandDeclaration.toData (table : CallbackTable κ) (ownName : κ → Option String)
    (declaration : CommandDeclaration κ) : Data :=
  .mapping [(.text "name", declaration.name),
    (.text "func", table.nameOf ownName declaration.action),
    (.text "description", declaration.description)]

def SettingDeclaration.toData (table : CallbackTable κ) (ownName : κ → Option String)
    (declaration : SettingDeclaration κ) : Except DefaultFault Data := do
  let default ← declaration.defaultValue
  return .mapping [(.text "name", declaration.name),
    (.text "type", .text declaration.kind.name),
    (.text "default", default.data),
    (.text "description", declaration.description),
    (.text "on_change", table.nameOf ownName declaration.onChange)]

def NamespaceDeclaration.toData (table : CallbackTable κ) (ownName : κ → Option String)
    (declaration : NamespaceDeclaration κ) : Except DefaultFault Data := do
  let settings ← declaration.settings.mapM (SettingDeclaration.toData table ownName)
  return .mapping [(.text "name", declaration.name),
    (.text "commands", .list (declaration.commands.map (CommandDeclaration.toData table ownName))),
    (.text "variables", .list settings)]

namespace Declaration

/-- The declarations in a YAML document, under its key `namespaces`. -/
def ofYaml (table : CallbackTable κ) (text : String) : Reading (List (NamespaceDeclaration κ)) := do
  match Yaml.load text with
  | .error cause => throw (.document cause)
  | .ok datum =>
    if !datum.isPresent then return []
    (← elementsOf datum "namespaces").mapM (NamespaceDeclaration.ofDatum table)

def toYaml (table : CallbackTable κ) (ownName : κ → Option String)
    (declarations : List (NamespaceDeclaration κ)) : Except DefaultFault String := do
  let items ← declarations.mapM (NamespaceDeclaration.toData table ownName)
  return Yaml.write (.mapping [(.text "namespaces", .list items)])

end Declaration

end CommandConsole
