import CommandConsole.Error
import CommandConsole.Yaml.Document

set_option autoImplicit false

namespace CommandConsole

/-- What a document says that nobody listens to. -/
inductive Warning
  | unknownSettings (names : List String)
  | unknownFields (sort : String) (owner : Data) (names : List String)

def Warning.message : Warning → String
  | unknownSettings names => "Ignoring unknown config keys: " ++ ", ".intercalate names
  | unknownFields sort owner names =>
    "Ignoring unknown " ++ sort ++ " keys for " ++ owner.plain ++ ": " ++ ", ".intercalate names

/-- Reading data, with the warnings given on the way, also before a fault. -/
abbrev Reading (α : Type) := ExceptT Fault (StateM (List Warning)) α

namespace Reading

def warn (warning : Warning) : Reading Unit :=
  modify fun warnings => warnings ++ [warning]

def finish {α : Type} (reading : Reading α) : Except Fault α × List Warning :=
  (ExceptT.run reading).run []

end Reading

namespace Data

/-- Data of one class have an order among them. -/
inductive OrderClass
  | texts
  | numbers
  | bytes
  | dates
  | localMoments
  | moments
deriving DecidableEq

def orderClass? : Data → Option OrderClass
  | text _ => some .texts
  | boolean _ | integer _ | real _ => some .numbers
  | bytes _ => some .bytes
  | date _ => some .dates
  | moment _ clock => some (if clock.offset.isSome then .moments else .localMoments)
  | marked _ content => content.orderClass?
  | _ => none

/-- Whether data that differ can be put in order: at most one, or all of one class. -/
def areOfOneClass : List Data → Bool
  | [] => true
  | [_] => true
  | first :: rest =>
    first.orderClass?.isSome && rest.all fun other => other.orderClass? == first.orderClass?

def distinct (data : List Data) : List Data :=
  data.foldl (fun found datum =>
    if found.any (same datum) then found else found ++ [datum]) []

def pairParts? (data : List Data) : Option (List (Data × Data)) :=
  data.mapM fun datum =>
    match datum with
    | tuple [first, second] => some (first, second)
    | _ => none

/-- Whether keys that differ can be put in order. Pairs are ordered by their first parts, and by
their second parts where the first ones are equal. -/
def areOrdered (keys : List Data) : Bool :=
  match pairParts? keys with
  | none => areOfOneClass keys
  | some parts =>
    let firsts := distinct (parts.map (·.1))
    areOfOneClass firsts && firsts.all fun first =>
      areOfOneClass ((parts.filter fun part => same first part.1).map (·.2))

def sortedTexts? (keys : List Data) : Option (List String) := do
  let names ← keys.mapM fun key => match key with
    | text content => some content
    | _ => none
  return names.mergeSort fun left right => !decide (right < left)

end Data

/-- The keys of a datum that are not among the known names, each once. -/
def Datum.unknownKeys (datum : Datum) (known : List String) : Except Fault (List Data) :=
  match datum.elements? with
  | none => .error .wrongType
  | some elements =>
    let keys := elements.map (·.data)
    if Data.areKeys keys then
      let unknown := (Data.distinct keys).filter fun key =>
        !known.any fun name => Data.same key (.text name)
      if Data.areOrdered unknown then .ok unknown else .error .wrongType
    else .error .wrongType

/-- A name may be any datum that is present; the limits are numbers. -/
structure Config where
  appName : Data
  maxNamespaces : Limit
  maxPending : Limit

namespace Config

/-- The configuration that applies where nothing is said. -/
def standard : Config :=
  ⟨.text "cvarcon", .whole 16, .whole 8⟩

def settingNames : List String := ["app_name", "max_namespaces", "max_pending"]

/-- A configuration is checked name first, then limit by limit. -/
def check (appName maxNamespaces maxPending : Data) : Except Fault Config := do
  if !appName.isPresent then throw (.config .emptyName)
  let some namespaces := Limit.ofData? maxNamespaces | throw .wrongType
  if namespaces.isBelow 1 then
    throw (Fault.showing maxNamespaces (.config (.notPositive namespaces)))
  let some pending := Limit.ofData? maxPending | throw .wrongType
  if pending.isBelow 0 then throw (Fault.showing maxPending (.config (.negative pending)))
  return ⟨appName, namespaces, pending⟩

/-- Reads a configuration from a mapping; an absent datum is the standard configuration. -/
def ofDatum (datum : Datum) : Reading Config := do
  if !datum.isPresent then return standard
  let unknown ← datum.unknownKeys settingNames
  if !unknown.isEmpty then
    let some names := Data.sortedTexts? unknown | throw .wrongType
    Reading.warn (.unknownSettings names)
  match datum.pairs? with
  | some pairs =>
    let setting := fun (name : String) (standard : Data) =>
      ((Datum.lookup? name pairs).map Datum.data).getD standard
    check (setting "app_name" standard.appName)
      (setting "max_namespaces" standard.maxNamespaces.data)
      (setting "max_pending" standard.maxPending.data)
  | none => throw .noMember

def ofYaml (text : String) : Reading Config := do
  match Yaml.load text with
  | .ok datum => ofDatum datum
  | .error cause => throw (.document cause)

/-- Reads a configuration from the text of a file, if there is such a file. Every form of line
break counts as a line feed. -/
def ofFile (content : Option String) : Reading Config :=
  match content with
  | some text => ofYaml (Text.unifyBreaks text)
  | none => throw (.storage .missing)

def data (config : Config) : Data :=
  .mapping [(.text "app_name", config.appName),
    (.text "max_namespaces", config.maxNamespaces.data),
    (.text "max_pending", config.maxPending.data)]

end Config

end CommandConsole
