import CommandConsole.Script
import CommandConsole.Storage

set_option autoImplicit false

namespace CommandConsole

variable {κ : Type}

namespace Builtin

def spaceName : String := "console"

def savePath : String := "save_path"

def declaration : NamespaceDeclaration (Callback κ) :=
  { name := .text spaceName
    commands := [
      ⟨.text "help", some .help, .text ("<cmd-or-cvar...>\n" ++
        "Display description of a given command, variable or namespace.\n" ++
        "With no arguments, display list of all available namespaces.")⟩,
      ⟨.text "load", some .load, .text ("<filenames...>\n" ++
        "Open a file and parse each line as a console statement.")⟩,
      ⟨.text "save", some .save, .text ("<filename>\n" ++
        "Write console statements of all modified variables to a file.")⟩]
    settings := [
      ⟨.text savePath, .text, .plain (.text ""), none,
        .text "Defines the application's main directory for storing settings"⟩] }

/-- The path of a file name: below the save path, unless that is empty. -/
def filePath (registry : Registry κ) (name : String) : Except Fault String :=
  match registry.getTyped .text (.token (qualify spaceName savePath)) with
  | .error fault => .error fault
  | .ok directory =>
    .ok (if directory.token.isEmpty then name else Storage.join directory.token name)

/-- Describes each token in turn; what cannot be described is reported. -/
def describeEach : List String → Script κ
  | [] => .done true
  | token :: rest =>
    .ask (.resolve token) fun reply =>
      match reply with
      | .failed (.console cause) => .write (cause.message ++ "\n") (describeEach rest)
      | .failed fault => .fail fault
      | .resolution (.entry space entry) =>
        .require (space.describe? entry) fun text => .write text (describeEach rest)
      | _ => describeEach rest

/-- Describes the arguments, or names the namespaces. -/
def help (statement : Statement) : Script κ :=
  if statement.arguments.isEmpty then
    .look fun registry =>
      let names := registry.table.map (·.name)
      .write ("Available namespaces: " ++ " ".intercalate names ++ "\n") (.done true)
  else describeEach statement.arguments

def load (statement : Statement) : Script κ :=
  if statement.arguments.isEmpty then .done false
  else
    .look fun registry =>
      .require (statement.arguments.mapM (filePath registry)) fun paths =>
        .need (.load paths) fun _ => .done true

/-- Writes the modified settings to a file; the report of a failure names the file as it was
typed. -/
def save (statement : Statement) : Script κ :=
  match statement.arguments with
  | [name] =>
    .look fun registry =>
      .require (filePath registry name) fun path =>
        .ask (.save path) fun reply =>
          match reply with
          | .failed (.console (.unwritable _)) =>
            .write ((ConsoleError.unwritable name).message ++ "\n") (.done true)
          | .failed fault => .fail fault
          | _ => .done true
  | _ => .done false

end Builtin

/-- The script of any callback; the built-in commands ignore changes. -/
def Callback.script (host : Host κ) (call : Call κ) : Script κ :=
  match call.callback, call.occasion with
  | .host key, _ => host key call
  | .help, .command statement => Builtin.help statement
  | .load, .command statement => Builtin.load statement
  | .save, .command statement => Builtin.save statement
  | _, .change _ => .done true

end CommandConsole
