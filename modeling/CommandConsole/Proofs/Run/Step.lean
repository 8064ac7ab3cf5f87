import CommandConsole.Console.Execution
import CommandConsole.Proofs.Action
import CommandConsole.Proofs.Registry.Creation
import CommandConsole.Proofs.Value.Token

set_option autoImplicit false

/-!
The steps that a run is made of. Between two calls of callbacks an operation does nothing but steps,
and each step says all that is known where it is taken (`Step`); replaying a queue goes on in turns
(`Turn`). What both keep is an invariant of every run (`Invariants`).
-/
namespace CommandConsole

open CommandConsole.Action

variable {κ : Type}

namespace Console

/-- The console where a callback has just been called. -/
def calling (console : Console κ) (call : Call κ) : Console κ :=
  console.tell (.called call console.registry)

def offering (console : Console κ) (space : Namespace κ) (statement : Statement) : Console κ :=
  (console.change space.serial fun changed => (changed.offer statement).2).tell
    (.offered space.serial statement (space.offer statement).1)

def assigning (console : Console κ) (space : Namespace κ) (setting : Setting κ) (value : Value) :
    Console κ :=
  (console.change space.serial (·.assign setting.name value)).tell
    (.changed space.serial setting.name value)

def handling (console : Console κ) (space : Namespace κ) (handler : Option Handler) : Console κ :=
  (console.change space.serial (·.handle handler)).tell (.attached space.serial handler)

def taking (console : Console κ) (space : Namespace κ) (statement : Statement) : Console κ :=
  (console.change space.serial Namespace.dequeue).tell (.taken space.serial statement)

/-- The console where a command is executed: its callback has just been called if it has one. -/
def running (console : Console κ) (handler : Handler) (isReplay : Bool) (space : Namespace κ)
    (command : Command κ) (statement : Statement) : Console κ :=
  let told := console.tell (.executed space.serial command.name statement)
  match command.action with
  | none => told
  | some callback =>
    told.calling ⟨callback, space.serial, command.name, handler, .command statement, isReplay⟩

/-- The console where a setting's callback has just been told a value, if there is a callback. -/
def notifying (console : Console κ) (handler : Handler) (isReplay : Bool) (space : Namespace κ)
    (setting : Setting κ) (value : Value) : Console κ :=
  match setting.onChange with
  | none => console
  | some callback =>
    console.calling ⟨callback, space.serial, setting.name, handler, .change value, isReplay⟩

def creating (console : Console κ) (declaration : NamespaceDeclaration (Callback κ))
    (space : Namespace κ) : Console κ :=
  { console with registry := console.registry.add space }.tell (.created space.serial declaration)

def retiring (console : Console κ) : Console κ :=
  { console with registry := console.registry.retire }.tell .retired

end Console

@[simp] theorem Console.registry_running (console : Console κ) (handler : Handler)
    (isReplay : Bool) (space : Namespace κ) (command : Command κ) (statement : Statement) :
    (console.running handler isReplay space command statement).registry = console.registry := by
  unfold Console.running
  cases command.action <;> rfl

@[simp] theorem Console.registry_notifying (console : Console κ) (handler : Handler)
    (isReplay : Bool) (space : Namespace κ) (setting : Setting κ) (value : Value) :
    (console.notifying handler isReplay space setting value).registry = console.registry := by
  unfold Console.notifying
  cases setting.onChange <;> rfl

/-- Whether an event tells nothing of what has become of a registry. -/
def Event.IsPassing (registry : Registry κ) : Event κ → Prop
  | .answered _ _ told => told = registry
  | .asked _ _ | .ended _ _ | .wrote _ | .noted _ _ | .opened _ => True
  | _ => False

/-- What an operation does at once, apart from replaying queues. -/
inductive Step : Console κ → Console κ → Prop
  | tell {console : Console κ} {event : Event κ} (passing : event.IsPassing console.registry) :
      Step console (console.tell event)
  | store {console : Console κ} {storage : Storage} {path content : String}
      (saved : console.storage.write path content.toUTF8 = .ok storage) :
      Step console { console with storage := storage }
  | create {console : Console κ} {declaration : NamespaceDeclaration (Callback κ)}
      {space : Namespace κ}
      (declared : console.registry.declared console.config declaration = .ok space) :
      Step console (console.creating declaration space)
  | retire {console : Console κ} {call : Option (Call κ)}
      (asked : console.trace.head? = some (.asked call .teardown)) :
      Step console console.retiring
  | hold {console : Console κ} {space : Namespace κ} (handler : Option Handler)
      (present : space ∈ console.registry.spaces) (retired : space.isRegistered = false) :
      Step console (console.handling space handler)
  | enqueue {console : Console κ} {call : Option (Call κ)} {space : Namespace κ}
      {statement : Statement} (present : space ∈ console.registry.spaces)
      (asked : console.trace.head? = some (.asked call (.enqueue space.serial statement))) :
      Step console (console.offering space statement)
  | run {console : Console κ} {handler : Handler} {space : Namespace κ} {command : Command κ}
      (statement : Statement) (present : space ∈ console.registry.table)
      (found : space.find? command.name = some (.command command))
      (attached : space.handler = some handler) :
      Step console (console.running handler false space command statement)
  | defer {console : Console κ} {space : Namespace κ} {command : Command κ}
      (arguments : List String) (present : space ∈ console.registry.table)
      (found : space.find? command.name = some (.command command))
      (detached : space.handler = none) :
      Step console (console.offering space ⟨qualify space.name command.name :: arguments⟩)
  | notify {console : Console κ} {handler : Handler} {space : Namespace κ} {setting : Setting κ}
      {value : Value} (present : space ∈ console.registry.spaces)
      (found : space.find? setting.name = some (.setting setting))
      (kind : value.kind = setting.kind) (differs : value ≠ setting.current)
      (attached : space.handler = some handler) :
      Step console
        ((console.assigning space setting value).notifying handler false space setting value)
  | postpone {console : Console κ} {space : Namespace κ} {setting : Setting κ} {value : Value}
      {token : String} (present : space ∈ console.registry.spaces)
      (found : space.find? setting.name = some (.setting setting))
      (kind : value.kind = setting.kind) (differs : value ≠ setting.current)
      (detached : space.handler = none) (reads : Value.parse setting.kind token = .ok value) :
      Step console ((console.assigning space setting value).offering
        (space.assign setting.name value) ⟨[qualify space.name setting.name, token]⟩)
  | lose {console : Console κ} {space : Namespace κ} {setting : Setting κ} {value : Value}
      (present : space ∈ console.registry.spaces)
      (found : space.find? setting.name = some (.setting setting))
      (kind : value.kind = setting.kind) (differs : value ≠ setting.current)
      (detached : space.handler = none) (long : value.isWritable = false) :
      Step console (console.assigning space setting value)

/-- What replaying a statement does at once after the statement has been taken from the queue of a
namespace. -/
inductive Replay (console : Console κ) (handler : Handler) (space : Namespace κ)
    (statement : Statement) : Console κ → Prop
  | command {owner : Namespace κ} {command : Command κ}
      (found : (console.taking space statement).registry.lookup statement.name =
        .ok (owner, .command command)) :
      Replay console handler space statement
        ((console.taking space statement).running handler true owner command statement)
  | change {owner : Namespace κ} {setting : Setting κ} {value : Value}
      (found : (console.taking space statement).registry.lookup statement.name =
        .ok (owner, .setting setting))
      (reads : setting.onChange.isSome → ∃ token rest, statement.arguments = token :: rest ∧
        Value.parse setting.kind token = .ok value) :
      Replay console handler space statement
        ((console.taking space statement).notifying handler true owner setting value)
  | fail (unknown : ∀ owner entry,
        (console.taking space statement).registry.lookup statement.name = .ok (owner, entry) →
        ∃ setting, entry = .setting setting ∧ setting.onChange.isSome ∧
          ∀ token rest value, statement.arguments = token :: rest →
            Value.parse setting.kind token ≠ .ok value) :
      Replay console handler space statement (console.taking space statement)

/-- What replaying a queue does at once, and what comes before it. -/
inductive Turn : Console κ → Console κ → Prop
  | attach {console : Console κ} {space : Namespace κ} (handler : Option Handler)
      (present : space ∈ console.registry.spaces) :
      Turn console (console.handling space handler)
  | replay {console after : Console κ} {handler : Handler} {statement : Statement}
      {space : Namespace κ} (present : space ∈ console.registry.spaces)
      (due : space.due? = some (handler, statement))
      (replay : Replay console handler space statement after) : Turn console after

/-- What holds before an action holds after it, however it ends. -/
def Keeps {α : Type} (holds : Console κ → Prop) (action : Action κ α) : Prop :=
  ∀ console, holds console → Ends action console fun _ after => holds after

/-- A runner keeps what holds as soon as the call is told, and tells the fault that a call ends
with. -/
def RunnerKeeps (holds : Console κ → Prop) (run : Runner κ) : Prop :=
  ∀ call console, holds (console.calling call) →
    Ends (run call) console fun result after => holds after ∧
      ∀ fault, result = .error fault → .ended call (some fault) ∈ after.trace

/-- A family of properties of a console that every step keeps and that every way of attaching a
handler keeps, as long as callbacks keep all of them. -/
structure Invariants {ι : Type} (holds : ι → Console κ → Prop) : Prop where
  steps : ∀ {index : ι} {before after : Console κ}, Step before after → holds index before →
    holds index after
  attaches : ∀ {run : Runner κ}, (∀ index, RunnerKeeps (holds index) run) →
    ∀ (rounds : Nat) (index : ι) (space : Nat) (handler : Option Handler),
      Keeps (holds index) (setHandler run rounds space handler)

/-- A property of consoles that says nothing of the files that they can reach. -/
class IgnoresFiles (holds : Console κ → Prop) : Prop where
  store : ∀ {console : Console κ} (storage : Storage), holds console →
    holds { console with storage := storage }

instance (holds : Registry κ → List (Event κ) → Prop) :
    IgnoresFiles fun console : Console κ => holds console.registry console.trace :=
  ⟨fun _ kept => kept⟩

end CommandConsole
