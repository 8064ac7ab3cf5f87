import CommandConsole.Example

set_option autoImplicit false

/-!
The example console as a program. Its arguments are statements of the console, and so is each line
of its input. Every turn is an action on a console whose storage holds what the disk has at the
paths that the action opens; afterwards changed files are written and the output is printed.
-/
namespace CommandConsole.Main

open Example

/-- How deep callbacks may nest. -/
def bound : Nat := 1000

def nodeOnDisk? (path : String) : IO (Option Storage.Node) := do
  match ← (IO.FS.realPath path).toBaseIO with
  | .error _ => return none
  | .ok found =>
    if ← found.isDir then return some .directory
    match ← (IO.FS.readBinFile found).toBaseIO with
    | .ok content => return some (.file content)
    | .error _ => return none

/-- Puts what the disk has along a path into a storage, directories first. -/
def fetch (path : String) (storage : Storage) : IO Storage := do
  let names := path.splitOn "/"
  let mut fetched := storage
  for index in List.range names.length do
    match fetched.locate ("/".intercalate (names.take (index + 1))) with
    | .ok (.name place name) =>
      let goal := place ++ [name]
      match ← nodeOnDisk? (Storage.pathTo goal) with
      | some node => fetched := fetched.put goal node
      | none => pure ()
    | _ => pure ()
  return fetched

/-- Writes the files that differ between two storages. -/
def commit (before after : Storage) : IO Unit := do
  for (place, node) in after.nodes do
    match node, before.node? place with
    | .directory, _ => pure ()
    | .file content, some (.file former) =>
      if content.data != former.data then IO.FS.writeBinFile (Storage.pathTo place) content
    | .file content, _ => IO.FS.writeBinFile (Storage.pathTo place) content

def openedPaths (trace : List (Event Routine)) : List String :=
  trace.reverse.filterMap fun event =>
    match event with
    | .opened path => some path
    | _ => none

/-- Runs an action from the same console again until everything that it opens had been fetched. -/
partial def runFetched (action : Action Routine Unit) (console : Console Routine)
    (known : List String) : IO (Option Fault × Storage × Console Routine) := do
  let (fault, after) := match action.run console with
    | .ok _ after => (none, after)
    | .error fault after => (some fault, after)
  match (openedPaths after.trace).find? (!known.contains ·) with
  | none => return (fault, console.storage, after)
  | some path =>
    let storage ← fetch path console.storage
    runFetched action { console with storage := storage } (path :: known)

/-- Takes a turn and answers the console after it; a fault that nothing caught ends the program. -/
def turn (action : Action Routine Unit) (console : Console Routine) : IO (Console Routine) := do
  let storage : Storage := ⟨[(Storage.root, .directory)]⟩
  let (fault, fetched, after) ←
    runFetched action { console with storage := storage, trace := [] } []
  commit fetched after.storage
  let stdout ← IO.getStdout
  stdout.putStr (output after.trace)
  stdout.flush
  match fault with
  | none => return after
  | some fault => throw (IO.userError (fault.message.getD "The statement cannot be executed."))

/-- Takes a turn for each line of the input. -/
partial def executeInput (console : Console Routine) : IO (Console Routine) := do
  let line ← (← IO.getStdin).getLine
  if line.isEmpty then return console
  let lines := inputLines (Text.unifyBreaks line)
  executeInput (← turn (Example.executeEach host bound lines) console)

end CommandConsole.Main

open CommandConsole in
def main (arguments : List String) : IO Unit := do
  let console ← Main.turn (Example.opening Example.host Main.bound id arguments)
    (.empty Example.config .empty)
  if ← (← IO.getStdin).isTty then IO.println "Type statements, Ctrl-D to quit."
  let last ← Main.executeInput console
  let _ ← Main.turn Example.closing last
