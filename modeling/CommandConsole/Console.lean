import CommandConsole.Script
import CommandConsole.Storage

set_option autoImplicit false

/-!
A console: its configuration, its registry, the files it can reach and the trace of what has
happened. Every operation is an action on a console; an action that ends with a fault keeps what it
has done before.
-/
namespace CommandConsole

variable {κ : Type}

/-- What can be told of a run. An operation is asked for by a call, or else by the host, and
answered; a call of a callback ends, with a fault or without. Between being called and asking, and
between an answer and what follows it, others than the console are at work: these events tell the
registry at that moment. A statement is offered to a queue, which accepts it or not, and taken from
it to be replayed. -/
inductive Event (κ : Type)
  | asked (call : Option (Call κ)) (operation : Operation κ)
  | answered (call : Option (Call κ)) (reply : Reply κ) (registry : Registry κ)
  | called (call : Call κ) (registry : Registry κ)
  | ended (call : Call κ) (fault : Option Fault)
  | created (space : Nat) (declaration : NamespaceDeclaration (Callback κ))
  | retired
  | attached (space : Nat) (handler : Option Handler)
  | offered (space : Nat) (statement : Statement) (accepted : Bool)
  | taken (space : Nat) (statement : Statement)
  | executed (space : Nat) (entry : String) (statement : Statement)
  | changed (space : Nat) (entry : String) (value : Value)
  | wrote (text : String)
  | noted (call : Option (Call κ)) (text : String)
  | opened (path : String)

def Event.text : Event κ → String
  | wrote text => text
  | _ => ""

/-- The trace has the latest event first. -/
structure Console (κ : Type) where
  config : Config
  registry : Registry κ
  storage : Storage
  trace : List (Event κ)

/-- How the callbacks of a host behave: what a call of one of them does may depend on all that has
happened before. -/
abbrev Conduct (κ : Type) := Console κ → Host κ

namespace Console

def tell (console : Console κ) (event : Event κ) : Console κ :=
  { console with trace := event :: console.trace }

def change (console : Console κ) (space : Nat) (change : Namespace κ → Namespace κ) : Console κ :=
  { console with registry := console.registry.update space change }

end Console

/-- Something done to a console, with a result or a fault. -/
abbrev Action (κ α : Type) := EStateM Fault (Console κ) α

namespace Action

def record (event : Event κ) : Action κ Unit :=
  modify fun console => console.tell event

def write (text : String) : Action κ Unit :=
  record (.wrote text)

def update (space : Nat) (change : Namespace κ → Namespace κ) : Action κ Unit :=
  modify fun console => console.change space change

def registry : Action κ (Registry κ) := do
  return (← get).registry

/-- The result of a computation that only reads. -/
def lift {α : Type} (result : Except Fault α) : Action κ α :=
  match result with
  | .ok value => pure value
  | .error fault => throw fault

def liftError {α : Type} (result : Except ConsoleError α) : Action κ α :=
  match result with
  | .ok value => pure value
  | .error cause => throw (.console cause)

/-- Writes out a console error of an action and goes on with another result; no other fault is
caught. -/
def reporting {α : Type} (otherwise : α) (action : Action κ α) : Action κ α :=
  tryCatch action fun fault =>
    match fault with
    | .console cause => do
      write (cause.message ++ "\n")
      return otherwise
    | fault => throw fault

/-- The reply of an action, which is its fault if it ends with one. -/
def replying (action : Action κ (Reply κ)) : Action κ (Reply κ) :=
  tryCatch action fun fault => return .failed fault

/-- Tells that an operation is asked for, and the reply that an action gives to it. -/
def answering (call : Option (Call κ)) (operation : Operation κ) (action : Action κ (Reply κ)) :
    Action κ (Reply κ) := do
  record (.asked call operation)
  let reply ← replying action
  record (.answered call reply (← registry))
  return reply

/-- Tells that a callback is called, and how the call ends. -/
def calling (call : Call κ) (action : Action κ Bool) : Action κ Bool := do
  record (.called call (← registry))
  tryCatch (do
    let handled ← action
    record (.ended call none)
    return handled) fun fault => do
      record (.ended call (some fault))
      throw fault

end Action

end CommandConsole
