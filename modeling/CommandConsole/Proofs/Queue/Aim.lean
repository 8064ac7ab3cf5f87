import CommandConsole.Proofs.Registry.Recast
import CommandConsole.Console.Execution

set_option autoImplicit false

namespace CommandConsole

variable {κ : Type}

/-- Whether the name of a statement stands for an entry of a namespace. -/
def Statement.isAimedAt (registry : Registry κ) (serial : Nat) (statement : Statement) : Bool :=
  match registry.resolve statement.name with
  | .ok (.entry space _) => space.serial == serial
  | _ => false

/-- Whether a target points into a namespace. -/
def Target.isAimedAt (registry : Registry κ) (serial : Nat) : Target → Bool
  | token name =>
    match registry.lookup name with
    | .ok (space, _) => space.serial == serial
    | .error _ => false
  | kept space _ => space == serial

def Payload.isWritable : Payload → Bool
  | plain data => data.isWritable
  | value given => given.isWritable

/-- Whether an operation is a typed statement, or an assignment of a value that can be written, and
aimed at an object of a namespace. -/
def Operation.isAimedAt (registry : Registry κ) (serial : Nat) : Operation κ → Bool
  | execute line => (Statement.parse line).isAimedAt registry serial
  | executeStatement statement => statement.isAimedAt registry serial
  | set target payload => target.isAimedAt registry serial && payload.isWritable
  | setTyped _ target payload => target.isAimedAt registry serial && payload.isWritable
  | reset target => target.isAimedAt registry serial
  | toggle target => target.isAimedAt registry serial
  | _ => false

/-- The operations that give a namespace a handler, or take it away. -/
def Operation.Attaches (space : Nat) (handler : Option Handler) (operation : Operation κ) : Prop :=
  operation = .attach space handler ∨ operation = .attachAnyway space handler

theorem Statement.exists_of_isAimedAt {registry : Registry κ} {serial : Nat} {statement : Statement}
    (aimed : statement.isAimedAt registry serial) :
    ∃ space entry, registry.resolve statement.name = .ok (.entry space entry) ∧
      space.serial = serial := by
  unfold isAimedAt at aimed
  split at aimed
  · rename_i space entry found
    exact ⟨space, entry, found, eq_of_beq aimed⟩
  · cases aimed

theorem Payload.isWritable_ofPayload {payload : Payload} {value : Value}
    (isValue : Value.ofPayload payload = .ok value) (writable : payload.isWritable = true) :
    value.isWritable = true := by
  unfold Value.ofPayload at isValue
  split at isValue <;> first | cases isValue; exact writable | cases isValue

namespace Target

theorem isAimedAt_token {registry : Registry κ} {serial : Nat} {name : String} :
    (token name).isAimedAt registry serial ↔
      ∃ space entry, registry.lookup name = .ok (space, entry) ∧ space.serial = serial := by
  simp only [isAimedAt]
  cases registry.lookup name with
  | error cause => simp
  | ok found => simp [Prod.ext_iff]

theorem isAimedAt_of_shapes {former latter : Registry κ} {serial : Nat} {target : Target}
    (aimed : target.isAimedAt former serial)
    (same : latter.spaces.map Namespace.shape = former.spaces.map Namespace.shape) :
    target.isAimedAt latter serial := by
  cases target with
  | token name =>
    obtain ⟨named, entry, found, isSerial⟩ := isAimedAt_token.mp aimed
    obtain ⟨other, inside, isOther, shape, -⟩ := Registry.lookup_of_shapes same found
    have serials : other.serial = named.serial := congrArg (·.serial) shape
    exact isAimedAt_token.mpr ⟨other, inside, isOther, serials.trans isSerial⟩
  | kept space name => exact aimed

theorem serial_of_isAimedAt {registry : Registry κ} {serial : Nat} {target : Target}
    (aimed : target.isAimedAt registry serial) {found : Namespace κ} {setting : Setting κ}
    (pointed : registry.target target = .ok (found, setting)) : found.serial = serial := by
  cases target with
  | token name =>
    obtain ⟨named, entry, isNamed, isSerial⟩ := isAimedAt_token.mp aimed
    simp only [Registry.target, Registry.setting, isNamed] at pointed
    cases entry with
    | command command => cases pointed
    | setting other =>
      obtain ⟨rfl, -⟩ := Prod.mk.inj (Except.ok.inj pointed)
      exact isSerial
  | kept space name =>
    have isSpace : space = serial := eq_of_beq aimed
    simp only [Registry.target] at pointed
    split at pointed
    · cases pointed
    · rename_i owner isOwner
      split at pointed
      · obtain ⟨rfl, -⟩ := Prod.mk.inj (Except.ok.inj pointed)
        exact (Registry.mem_of_space? isOwner).2.trans isSpace
      · cases pointed

end Target

end CommandConsole
