import CommandConsole.Console.Execution
import CommandConsole.Report

set_option autoImplicit false

/-!
An example: the settings of a small game, with callbacks that tell a recorder what they saw, and a
session that runs arguments and then lines. Nothing has a handler until the recorders are attached,
so that whatever runs before is queued.
-/
namespace CommandConsole.Example

variable {κ : Type}

inductive Routine
  | dummyChanged
  | videoChanged
  | restart
  | play
deriving DecidableEq, Repr

/-- Tells the recorder that takes the call; any other handler cannot be told. -/
def tell (call : Call κ) (text : String) (next : Script κ) : Script κ :=
  match call.handler with
  | .recorder _ _ => .note text next
  | _ => .fail .noMember

def signText (value : Value) : String :=
  match value with
  | .integer number =>
    if 0 < number then "dummy is positive!\n"
    else if number < 0 then "dummy is negative!\n"
    else "dummy is zero!\n"
  | _ => "dummy is zero!\n"

def integerText (registry : Registry κ) (token : String) : Except Fault String :=
  (registry.getTyped .integer (.token token)).map Value.display

def script (routine : Routine) (call : Call κ) : Script κ :=
  match routine, call.occasion with
  | .dummyChanged, .change value =>
    .write (signText value) (tell call ("dummy=" ++ value.display) (.done true))
  | .videoChanged, .change value => tell call ("video=" ++ value.display) (.done true)
  | .restart, .command statement =>
    if statement.count ≠ 1 then .done false
    else
      .look fun registry =>
        .require (integerText registry "video.width") fun width =>
          .require (integerText registry "video.height") fun height =>
            let size := width ++ "x" ++ height
            tell call ("restart " ++ size)
              (.write ("Restarting video at " ++ size ++ "\n") (.done true))
  | .play, .command statement =>
    if statement.arguments.isEmpty then .done false
    else tell call ("play " ++ " ".intercalate statement.arguments) (.done true)
  | _, _ => .fail .noMember

/-- The namespaces of the example; `key` gives the host's name of each callback. -/
def declarations (key : Routine → κ) : List (NamespaceDeclaration (Callback κ)) :=
  let callback := fun (routine : Routine) => some (Callback.host (key routine))
  let number := fun (value : Int) => Payload.plain (.integer value)
  let no := Payload.plain (.boolean false)
  let standard := Payload.plain (.text "default")
  [⟨.text "demo", [],
      [⟨.text "dummy", .integer, number 0, callback .dummyChanged, .text "Doesn't do anything"⟩]⟩,
    ⟨.text "video",
      [⟨.text "restart", callback .restart,
        .text "\nReopen the window with the current settings."⟩],
      [⟨.text "width", .integer, number 640, callback .videoChanged,
          .text "Window width in pixels"⟩,
        ⟨.text "height", .integer, number 480, callback .videoChanged,
          .text "Window height in pixels"⟩,
        ⟨.text "fullscreen", .boolean, no, callback .videoChanged, .text "Use the whole screen"⟩,
        ⟨.text "device", .text, standard, none, .text "Display adapter"⟩]⟩,
    ⟨.text "audio",
      [⟨.text "play", callback .play, .text "<sound...>\nPlay one or more sounds."⟩],
      [⟨.text "volume", .integer, number 80, none, .text "Master volume, 0-100"⟩,
        ⟨.text "mute", .boolean, no, none, .text "Silence all output"⟩,
        ⟨.text "device", .text, standard, none, .text "Output device"⟩]⟩]

def createEach (host : Host κ) (bound : Nat) :
    List (NamespaceDeclaration (Callback κ)) → Action κ Unit
  | [] => return
  | declaration :: rest => do
    let _ ← Console.perform host bound (.create declaration)
    createEach host bound rest

def config : Config :=
  { Config.standard with appName := .text "cvarcon_demo" }

def build (host : Host κ) (bound : Nat) (key : Routine → κ) : Action κ Unit := do
  Console.install host bound
  createEach host bound (declarations key)

/-- The namespaces that recorders are attached to. -/
def recorded : List String := ["demo", "video", "audio"]

def attachEach (host : Host κ) (bound : Nat) : List (String × Handler) → Action κ Unit
  | [] => return
  | (name, handler) :: rest => do
    match (← get).registry.find? name with
    | none => throw .noMember
    | some space =>
      let _ ← Console.perform host bound (.attach space.serial (some handler))
      attachEach host bound rest

/-- Attaches a new recorder to each recorded namespace. The length of the trace tells recorders
apart that are attached one after the other. -/
def attachRecorders (host : Host κ) (bound : Nat) : Action κ (List (String × Handler)) := do
  let serial := (← get).trace.length
  let handlers := recorded.map fun name => (name, Handler.recorder name serial)
  attachEach host bound handlers
  return handlers

def toldTo (handler : Handler) (trace : List (Event κ)) : List String :=
  trace.reverse.filterMap fun event =>
    match event with
    | .noted (some call) text => if call.handler == handler then some text else none
    | _ => none

def executeEach (host : Host κ) (bound : Nat) : List String → Action κ Unit
  | [] => return
  | line :: rest => do
    if !Text.isBlankText line then
      let _ ← Console.perform host bound (.execute line)
    executeEach host bound rest

/-- What a session does before its lines: it runs the arguments, attaches recorders and reports. -/
def opening (host : Host κ) (bound : Nat) (key : Routine → κ) (arguments : List String) :
    Action κ Unit := do
  build host bound key
  let _ ← Console.perform host bound (.executeArguments arguments "console.help")
  let _ ← attachRecorders host bound
  Action.write (← Action.lift (Report.of? (← get))).text

/-- What a session does after its lines: it lists the modified settings. -/
def closing : Action κ Unit := do
  let saved := (← Action.registry).dumps
  Action.write ("\nModified variables:\n" ++ (if saved.isEmpty then "(none)\n" else saved))

def session (host : Host κ) (bound : Nat) (key : Routine → κ) (arguments lines : List String) :
    Action κ Unit := do
  opening host bound key arguments
  executeEach host bound lines
  closing

/-- The lines of an input, each with the line feed that ends it. -/
def inputLines (text : String) : List String :=
  let pieces := Text.lines text
  let ended := pieces.dropLast.map (· ++ "\n")
  match pieces.getLast? with
  | some last => if last.isEmpty then ended else ended ++ [last]
  | none => ended

/-- A host with no callbacks but those of the example. -/
def host : Host Routine :=
  script

def output (trace : List (Event κ)) : String :=
  String.join (trace.reverse.map Event.text)

end CommandConsole.Example
