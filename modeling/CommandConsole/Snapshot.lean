import CommandConsole.Console
import CommandConsole.Json
import CommandConsole.Yaml.Writer

set_option autoImplicit false

namespace CommandConsole.Snapshot

variable {κ : Type}

def ofSetting (setting : Setting κ) : Data :=
  .mapping [(.text "type", .text setting.kind.name),
    (.text "default", setting.default.data),
    (.text "current", setting.current.data),
    (.text "modified", .boolean setting.isModified)]

def ofSpace (space : Namespace κ) : Data :=
  let settings := space.settings.foldl (fun pairs setting =>
    Data.insertPair (.text setting.name) (ofSetting setting) pairs) []
  .mapping [(.text "attached", .boolean space.isAttached),
    (.text "pending", .integer space.pending.length),
    (.text "variables", .mapping settings)]

def of (registry : Registry κ) : Data :=
  .mapping (registry.table.foldl (fun pairs space =>
    Data.insertPair (.text space.name) (ofSpace space) pairs) [])

/-- The snapshot of a registry's table, unless a setting in it has no name. -/
def of? (registry : Registry κ) : Except Fault Data :=
  let isNameless := fun (space : Namespace κ) => space.nameless.any (·.entry.setting?.isSome)
  if registry.table.any isNameless then .error .wrongType else .ok (of registry)

/-- A text that shows a registry's settings, if they can be written. -/
def rendered (render : Data → String) (registry : Registry κ) : Except Fault String :=
  match of? registry with
  | .error fault => .error fault
  | .ok snapshot => if snapshot.isWritable then .ok (render snapshot) else .error .tooLong

def json (registry : Registry κ) : Except Fault String :=
  rendered Json.render registry

def yaml (registry : Registry κ) : Except Fault String :=
  rendered (fun data => Yaml.write (Yaml.sortData data)) registry

end CommandConsole.Snapshot
