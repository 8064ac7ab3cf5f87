import CommandConsole.Data

set_option autoImplicit false

/-!
Limits: how many things a table or a queue may hold. A limit keeps the number as it was given, so
that it is shown again as it was given.
-/
namespace CommandConsole

/-- A truth counts as one or zero. -/
inductive Limit
  | truth (value : Bool)
  | whole (value : Int)
  | real (value : Binary64)
deriving DecidableEq, Repr, Inhabited

namespace Limit

def ofData? (data : Data) : Option Limit :=
  match data.unmarked with
  | .boolean value => some (truth value)
  | .integer value => some (whole value)
  | .real value => some (real value)
  | _ => none

def data : Limit → Data
  | truth value => .boolean value
  | whole value => .integer value
  | real value => .real value

def text (limit : Limit) : String :=
  limit.data.plain

/-- Whether a limit is below a whole number; an undefined one never is. -/
def isBelow (limit : Limit) (bound : Int) : Bool :=
  match limit with
  | truth value => (if value then 1 else 0) < bound
  | whole value => value < bound
  | real value => value.isBelow bound

/-- How many things fit, unless there is no bound. -/
def places : Limit → Option Nat
  | truth value => some (if value then 1 else 0)
  | whole value => some value.toNat
  | real value => value.ceiling?

/-- Whether nothing more fits beside a number of things. -/
def isReached (limit : Limit) (count : Nat) : Bool :=
  match limit.places with
  | some places => places ≤ count
  | none => false

end Limit

end CommandConsole
