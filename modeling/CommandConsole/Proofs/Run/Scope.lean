import CommandConsole.Proofs.Queue.Aim
import CommandConsole.Proofs.Queue.Work

set_option autoImplicit false

/-!
What an action on one namespace can depend on: the names of all namespaces, that namespace as it
stands, and the callbacks that it reaches. Main statements: what is named in that namespace is found
alike in all registries that host it (`Scope.Hosts.lookup`, `Scope.Hosts.target`), and what is named
elsewhere differs in no more than values (`Scope.Hosts.lookup_setting`).
-/
namespace CommandConsole

variable {κ : Type}

def Namespace.lookup (space : Namespace κ) (name : String) :
    Except ConsoleError (Namespace κ × Entry κ) :=
  match space.find? name with
  | none => .error (.noSuchObject space.name name)
  | some entry => .ok (space, entry)

/-- Whether a target points into a namespace: by a dotted name, or as a setting of it. -/
def Target.IsIn (space : Namespace κ) : Target → Prop
  | .token name => (splitName name).1 = some space.name
  | .kept serial _ => serial = space.serial

def Namespace.target (space : Namespace κ) : Target → Except Fault (Namespace κ × Setting κ)
  | .token token =>
    match space.find? (splitName token).2 with
    | none => .error (.console (.noSuchObject space.name (splitName token).2))
    | some (.command command) =>
      .error (.console (.notSetting (qualify space.name command.name)))
    | some (.setting setting) => .ok (space, setting)
  | .kept _ name =>
    match space.find? name with
    | some (.setting setting) => .ok (space, setting)
    | _ => .error .wrongType

theorem Namespace.target_ok {space owner : Namespace κ} {target : Target} {setting : Setting κ}
    (found : space.target target = .ok (owner, setting)) :
    owner = space ∧ space.find? setting.name = some (.setting setting) := by
  unfold Namespace.target at found
  split at found <;> split at found <;> cases found
  · rename_i isFound
    exact ⟨rfl, (Namespace.find?_ok isFound).2.2⟩
  · rename_i isFound
    exact ⟨rfl, (Namespace.find?_ok isFound).2.2⟩

/-- The names that there are, as a sound registry has them, the namespaces whose callbacks may be
called, and whether queues may be replayed. -/
structure Scope (κ : Type) where
  base : Registry κ
  sound : base.Sound
  within : Nat → Prop
  replays : Prop

namespace Scope

variable (scope : Scope κ) {space now owner : Namespace κ} {registry : Registry κ}
  {change : Namespace κ → Namespace κ}

/-- A registry with these names, in whose table a namespace stands. -/
structure Hosts (space : Namespace κ) (registry : Registry κ) : Prop where
  shapes : registry.spaces.map Namespace.shape = scope.base.spaces.map Namespace.shape
  present : space ∈ registry.table

/-- What a statement names lies within the scope. -/
def Covers (statement : Statement) : Prop :=
  ∀ owner entry, scope.base.lookup statement.name = .ok (owner, entry) → scope.within owner.serial

/-- A namespace, however it stands, whose queue does not lead out of the scope if it may be
replayed. -/
structure Admits (space : Namespace κ) : Prop where
  known : ∃ former ∈ scope.base.table, space.shape = former.shape
  inside : scope.within space.serial
  queue : scope.replays → ∀ statement ∈ space.pending, scope.Covers statement

/-- The callbacks within the scope only record, and each call of them ends alike everywhere. -/
def IsSteady (run : Runner κ) : Prop :=
  ∀ owner ∈ scope.base.table, scope.within owner.serial → ∀ call : Call κ,
    call.space = owner.serial → owner.callbackNamed? call.entry = some call.callback →
      Steady run call

variable {scope}

namespace Hosts

variable (hosts : scope.Hosts space registry)

include hosts

theorem space? : registry.space? space.serial = some space :=
  Registry.space?_of_mem (Registry.mem_table.mp hosts.present).1

theorem find? : registry.find? space.name = some space := by
  have distinct : (registry.table.map Namespace.name).Nodup := by
    rw [Registry.map_table_of_shapes Namespace.name (fun _ => rfl) hosts.shapes]
    exact scope.sound.distinct
  exact find?_of_nodup Namespace.name distinct hosts.present

/-- A dotted name of a namespace is looked up in that namespace alone. -/
theorem lookup {token : String} (named : (splitName token).1 = some space.name) :
    registry.lookup token = space.lookup (splitName token).2 := by
  unfold Registry.lookup
  rw [← Prod.mk.eta (p := splitName token), named]
  simp only [hosts.find?]
  rfl

theorem resolve {token : String} (named : (splitName token).1 = some space.name) :
    registry.resolve token =
      (space.lookup (splitName token).2).map fun found => .entry found.1 found.2 := by
  simp only [Registry.resolve, named, Option.isNone_some, Bool.false_eq_true, if_false,
    hosts.lookup named]
  cases space.lookup (splitName token).2 <;> rfl

/-- What a target in a namespace points at is looked for in that namespace alone. -/
theorem target {target : Target} (inside : target.IsIn space) :
    registry.target target = space.target target := by
  cases target with
  | token name =>
    have named : (splitName name).1 = some space.name := inside
    cases found : space.find? (splitName name).2 with
    | none =>
      simp only [Registry.target, Registry.setting, hosts.lookup named, Namespace.lookup,
        Namespace.target, found]
    | some entry =>
      cases entry <;> simp only [Registry.target, Registry.setting, hosts.lookup named,
        Namespace.lookup, Namespace.target, found]
  | kept serial name =>
    obtain rfl : serial = space.serial := inside
    cases found : space.find? name with
    | none => simp only [Registry.target, hosts.space?, Namespace.target, found]
    | some entry =>
      cases entry <;> simp only [Registry.target, hosts.space?, Namespace.target, found]

/-- What a token names anywhere in the table is a command that there is in every such registry. -/
theorem lookup_command {token : String} {command : Command κ}
    (named : scope.base.lookup token = .ok (owner, .command command)) :
    ∃ other, registry.lookup token = .ok (other, .command command) ∧
      other.serial = owner.serial ∧ other.name = owner.name := by
  obtain ⟨other, entry, looked, shape, pristine⟩ := Registry.lookup_of_shapes hosts.shapes named
  cases entry with
  | setting found => cases pristine
  | command found =>
    exact ⟨other, Entry.command.inj pristine ▸ looked, congrArg (·.serial) shape,
      congrArg (·.name) shape⟩

theorem lookup_setting {token : String} {setting : Setting κ}
    (named : scope.base.lookup token = .ok (owner, .setting setting)) :
    ∃ other found, registry.lookup token = .ok (other, .setting found) ∧
      other.serial = owner.serial ∧ other.name = owner.name ∧ found.name = setting.name ∧
      found.kind = setting.kind ∧ found.onChange = setting.onChange := by
  obtain ⟨other, entry, looked, shape, pristine⟩ := Registry.lookup_of_shapes hosts.shapes named
  cases entry with
  | command found => cases pristine
  | setting found =>
    simp only [Entry.pristine, Entry.setting.injEq, Setting.mk.injEq] at pristine
    exact ⟨other, found, looked, congrArg (·.serial) shape, congrArg (·.name) shape, pristine.1,
      pristine.2.2.1, pristine.2.2.2.2.2⟩

theorem update (keeps : Namespace.KeepsShape change) :
    scope.Hosts (change space) (registry.update space.serial change) where
  shapes := (Registry.shapes_update keeps _).trans hosts.shapes
  present := by
    obtain ⟨inside, registered⟩ := Registry.mem_table.mp hosts.present
    exact Registry.mem_table.mpr
      ⟨Registry.mem_update_self keeps inside, (keeps.isRegistered space).trans registered⟩

theorem update_other (keeps : Namespace.KeepsShape change) {serial : Nat}
    (apart : space.serial ≠ serial) :
    scope.Hosts space (registry.update serial change) where
  shapes := (Registry.shapes_update keeps serial).trans hosts.shapes
  present := by
    obtain ⟨inside, registered⟩ := Registry.mem_table.mp hosts.present
    refine Registry.mem_table.mpr ⟨(Registry.mem_update keeps).mpr ⟨space, inside, ?_⟩, registered⟩
    rw [if_neg (by simpa using apart)]

end Hosts

theorem Admits.of_shape (admits : scope.Admits space) (same : now.shape = space.shape)
    (queue : scope.replays → ∀ statement ∈ now.pending, scope.Covers statement) :
    scope.Admits now where
  known := by
    obtain ⟨former, isFormer, shape⟩ := admits.known
    exact ⟨former, isFormer, same.trans shape⟩
  inside := by
    rw [show now.serial = space.serial from congrArg (·.serial) same]
    exact admits.inside
  queue := queue

/-- Work of its own that a namespace queues does not lead out of the scope. -/
theorem Admits.covers_qualify (admits : scope.Admits space) (name : String)
    (arguments : List String) : scope.Covers ⟨qualify space.name name :: arguments⟩ := by
  intro owner entry found
  obtain ⟨former, isFormer, shape⟩ := admits.known
  have named : space.name = former.name := congrArg (·.name) shape
  have split : splitName (qualify space.name name) = (some former.name, name) :=
    named ▸ splitName_qualify (scope.sound.of_table isFormer).isName.2 name
  have hosts : scope.Hosts former scope.base := ⟨rfl, isFormer⟩
  have looked : scope.base.lookup (qualify space.name name) = _ :=
    hosts.lookup (congrArg Prod.fst split)
  rw [show Statement.name ⟨qualify space.name name :: arguments⟩ = qualify space.name name from rfl,
    looked, Namespace.lookup] at found
  split at found
  · cases found
  · obtain ⟨rfl, -⟩ := Prod.mk.inj (Except.ok.inj found)
    rw [← show space.serial = former.serial from congrArg (·.serial) shape]
    exact admits.inside

/-- The callbacks of a namespace within the scope are steady, however it stands. -/
theorem IsSteady.of_shape {run : Runner κ} (steady : scope.IsSteady run)
    (known : ∃ former ∈ scope.base.table, owner.shape = former.shape)
    (inside : scope.within owner.serial) (entry : Entry κ)
    (found : owner.find? entry.name = some entry) {call : Call κ}
    (made : call.space = owner.serial ∧ call.entry = entry.name ∧
      entry.callback? = some call.callback) : Steady run call := by
  obtain ⟨former, isFormer, shape⟩ := known
  obtain ⟨bySpace, byEntry, callback⟩ := made
  have serial : owner.serial = former.serial := congrArg (·.serial) shape
  refine steady former isFormer (serial ▸ inside) call (bySpace.trans serial) ?_
  rw [← callbackNamed?_of_shape shape, byEntry, Namespace.callbackNamed?, found]
  exact callback

end Scope

end CommandConsole
