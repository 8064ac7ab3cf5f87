import CommandConsole.Registry

set_option autoImplicit false

/-!
What callbacks do. A script is a finite tree of operations on the console: each asks for one
operation and goes on with the reply, which may be a fault. A callback can do nothing that is not an
operation, and a host decides only which script answers a call.
-/
namespace CommandConsole

variable {κ : Type}

inductive Occasion
  | command (statement : Statement)
  | change (value : Value)
deriving DecidableEq, Repr

/-- One call of a callback: of which entry of which namespace it is, the handler it is given, and
whether it comes from a queued statement. -/
structure Call (κ : Type) where
  callback : Callback κ
  space : Nat
  entry : String
  handler : Handler
  occasion : Occasion
  isReplay : Bool
deriving DecidableEq

inductive Operation (κ : Type)
  | execute (line : String)
  | executeStatement (statement : Statement)
  | executeArguments (arguments : List String) (defaultLine : String)
  | set (target : Target) (payload : Payload)
  | setTyped (kind : Kind) (target : Target) (payload : Payload)
  | reset (target : Target)
  | toggle (target : Target)
  | attach (space : Nat) (handler : Option Handler)
  | attachAnyway (space : Nat) (handler : Option Handler)
  | enqueue (space : Nat) (statement : Statement)
  | create (declaration : NamespaceDeclaration (Callback κ))
  | teardown
  | loads (text : String)
  | load (paths : List String)
  | save (path : String)
  | setSavePath (path : String)
  | describe (token : String)
  | resolve (token : String)
  | write (text : String)
  | note (text : String)
  | look

inductive Reply (κ : Type)
  | done
  | flag (truth : Bool)
  | count (number : Nat)
  | space (serial : Nat)
  | statements (statements : List Statement)
  | resolution (resolution : Resolution κ)
  | registry (registry : Registry κ)
  | failed (fault : Fault)

/-- A callback ends by saying whether it could use its arguments, or with a fault. -/
inductive Script (κ : Type)
  | done (handled : Bool)
  | fail (fault : Fault)
  | ask (operation : Operation κ) (next : Reply κ → Script κ)

/-- The script of each callback of a host for each call. -/
abbrev Host (κ : Type) := κ → Call κ → Script κ

namespace Script

/-- Asks for an operation whose fault ends the script. -/
def need (operation : Operation κ) (next : Reply κ → Script κ) : Script κ :=
  .ask operation fun reply =>
    match reply with
    | .failed fault => .fail fault
    | reply => next reply

def look (next : Registry κ → Script κ) : Script κ :=
  .ask .look fun reply =>
    match reply with
    | .registry registry => next registry
    | .failed fault => .fail fault
    | _ => .fail .wrongType

def write (text : String) (next : Script κ) : Script κ :=
  need (.write text) fun _ => next

def note (text : String) (next : Script κ) : Script κ :=
  need (.note text) fun _ => next

/-- Ends with a fault or goes on with a result. -/
def require {α : Type} (result : Except Fault α) (next : α → Script κ) : Script κ :=
  match result with
  | .ok value => next value
  | .error fault => .fail fault

end Script

end CommandConsole
