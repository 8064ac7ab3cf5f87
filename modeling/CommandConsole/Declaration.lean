import CommandConsole.Error

set_option autoImplicit false

/-!
Declarations: what a host says about the namespaces it wants. Names and descriptions are data, as
they may come from a document; a console admits only names that are texts. `κ` names callbacks.
-/
namespace CommandConsole

variable {κ : Type}

/-- The description of whatever has none. -/
def noHelp : String := "No help available"

structure CommandDeclaration (κ : Type) where
  name : Data
  action : Option κ
  description : Data

/-- A default that is null stands for the zero of the kind. -/
structure SettingDeclaration (κ : Type) where
  name : Data
  kind : Kind
  default : Payload
  onChange : Option κ
  description : Data

structure NamespaceDeclaration (κ : Type) where
  name : Data
  commands : List (CommandDeclaration κ)
  settings : List (SettingDeclaration κ)

/-- A given value, or the value that given data are, or the zero of a kind. -/
def Payload.valueOr (payload : Payload) (kind : Kind) : Except KindFault Value :=
  match payload with
  | .plain .null => .ok kind.zero
  | .value given => .ok given
  | payload => Value.ofPayload payload

namespace SettingDeclaration

/-- The value that a declared setting starts with; it has the declared kind. -/
def defaultValue (declaration : SettingDeclaration κ) : Except DefaultFault Value :=
  match declaration.default.valueOr declaration.kind with
  | .error cause => .error (.notValue cause)
  | .ok value =>
    if value.kind = declaration.kind then .ok value
    else .error (.otherKind declaration.name value.kind declaration.kind)

theorem kind_of_defaultValue {declaration : SettingDeclaration κ} {value : Value}
    (success : declaration.defaultValue = .ok value) : value.kind = declaration.kind := by
  unfold defaultValue at success
  split at success
  · cases success
  · split at success
    · rename_i same
      simp only [Except.ok.injEq] at success
      exact success ▸ same
    · cases success

end SettingDeclaration

/-- A description for an object: an absent one says that there is no help. -/
def describedAs (description : Data) : Data :=
  if description.isPresent then description else .text noHelp

end CommandConsole
