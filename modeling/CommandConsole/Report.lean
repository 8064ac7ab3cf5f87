import CommandConsole.Console

set_option autoImplicit false

namespace CommandConsole

variable {κ : Type}

structure Report where
  appName : Data
  namespaceCount : Nat
  commandCount : Nat
  settingCount : Nat
  modified : List String
  shadowed : List (String × List String)
  collisions : List (String × List String)
  detached : List String
  pending : List (String × Nat)
  warnings : List String

namespace Report

def start (appName : Data) : Report :=
  ⟨appName, 0, 0, 0, [], [], [], [], [], []⟩

/-- Adds a warning unless it has been given. -/
def warn (report : Report) (warning : String) : Report :=
  if report.warnings.contains warning then report
  else { report with warnings := report.warnings ++ [warning] }

/-- Notes that a namespace owns a name; names are in the order of their first owners. -/
def addOwner (owners : List (String × List String)) (name space : String) :
    List (String × List String) :=
  match owners with
  | [] => [(name, [space])]
  | (known, spaces) :: rest =>
    if known == name then (known, spaces ++ [space]) :: rest
    else (known, spaces) :: addOwner rest name space

/-- The names of all entries of a table, each with the namespaces that have an entry of it. -/
def owners (table : List (Namespace κ)) : List (String × List String) :=
  table.foldl (fun owners space =>
    space.entries.foldl (fun owners entry => addOwner owners entry.name space.name) owners) []

/-- The dotted names that say which of several owners is meant. -/
def choices (name : String) (spaces : List String) : String :=
  ", ".intercalate (spaces.map (qualify · name))

def shadowWarning (name : String) (spaces : List String) : String :=
  "Ambiguous name '" ++ name ++ "': use one of " ++ choices name spaces

def collisionWarning (name : String) (spaces : List String) : String :=
  "'" ++ name ++ "' lists the namespace; use " ++ choices name spaces

def pendingWarning (name : String) (count : Nat) : String :=
  "Namespace '" ++ name ++ "' has " ++ Decimal.ofNat count ++
    " pending statement(s) awaiting a handler"

def fullWarning (name : String) : String :=
  "Pending queue of '" ++ name ++ "' is full; further statements are dropped"

/-- The warnings that the tables of a report call for, in their order. -/
def allWarnings (limit : Limit) (shadowed collisions : List (String × List String))
    (pending : List (String × Nat)) : List String :=
  shadowed.map (fun entry => shadowWarning entry.1 entry.2) ++
    collisions.map (fun entry => collisionWarning entry.1 entry.2) ++
    pending.flatMap fun entry =>
      pendingWarning entry.1 entry.2 ::
        (if limit.isReached entry.2 then [fullWarning entry.1] else [])

def of (console : Console κ) : Report :=
  let table := console.registry.table
  let owners := owners table
  let shadowed := owners.filter fun entry => 1 < entry.2.length
  let collisions := owners.filter fun entry => table.any (·.name == entry.1)
  let pending := (table.filter fun space => !space.pending.isEmpty).map fun space =>
    (space.name, space.pending.length)
  let report : Report :=
    { appName := console.config.appName
      namespaceCount := table.length
      commandCount := (table.flatMap (·.commands)).length
      settingCount := (table.flatMap (·.settings)).length
      modified := table.flatMap fun space =>
        (space.settings.filter (·.isModified)).map fun setting => qualify space.name setting.name
      shadowed := shadowed
      collisions := collisions
      detached := (table.filter fun space => !space.isAttached).map (·.name)
      pending := pending
      warnings := [] }
  (allWarnings console.config.maxPending shadowed collisions pending).foldl warn report

def of? (console : Console κ) : Except Fault Report :=
  if console.registry.table.all (·.nameless.isEmpty) then .ok (of console) else .error .wrongType

def namesOr (names : List String) : String :=
  if names.isEmpty then "None" else ", ".intercalate names

def warningLines (warnings : List String) : List String :=
  if warnings.isEmpty then []
  else "" :: warnings.mapIdx fun index warning =>
    "  " ++ Decimal.ofNat (index + 1) ++ ". " ++ warning

def lines (report : Report) : List String :=
  let rule := String.ofList (List.replicate 70 '=')
  ["", rule, "CONSOLE REPORT: " ++ report.appName.plain, rule,
    "  Namespaces:          " ++ Decimal.ofNat report.namespaceCount,
    "  Commands:            " ++ Decimal.ofNat report.commandCount,
    "  Variables:           " ++ Decimal.ofNat report.settingCount,
    "  Modified:            " ++ namesOr report.modified,
    "  Detached namespaces: " ++ namesOr report.detached] ++
    warningLines report.warnings ++ [""]

def text (report : Report) : String :=
  String.join (report.lines.map (· ++ "\n"))

end Report

end CommandConsole
