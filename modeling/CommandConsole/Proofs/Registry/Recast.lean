import CommandConsole.Proofs.Registry.Names

set_option autoImplicit false

/-!
Changes that leave names alone. Main statements: looking up a token in a changed registry finds what
the change makes of what is found in the registry before (`Recast.lookup`, `Recast.resolve`); so
registries whose namespaces have the same shapes find the same entries (`resolve_of_shapes`).
-/
namespace CommandConsole

variable {κ : Type}

/-- A change of namespaces that changes each of their entries but no name. -/
structure Recast (change : Namespace κ → Namespace κ) (recast : Namespace κ → Entry κ → Entry κ) :
    Prop where
  serial : ∀ space, (change space).serial = space.serial
  name : ∀ space, (change space).name = space.name
  isRegistered : ∀ space, (change space).isRegistered = space.isRegistered
  entries : ∀ space, (change space).entries = space.entries.map (recast space)
  entryName : ∀ space entry, (recast space entry).name = entry.name

namespace Recast

variable {change : Namespace κ → Namespace κ} {recast : Namespace κ → Entry κ → Entry κ}

/-- What a change of names' owners makes of a namespace and an entry of it. -/
def pair (change : Namespace κ → Namespace κ) (recast : Namespace κ → Entry κ → Entry κ)
    (found : Namespace κ × Entry κ) : Namespace κ × Entry κ :=
  (change found.1, recast found.1 found.2)

theorem find? (changes : Recast change recast) (space : Namespace κ) (name : String) :
    (change space).find? name = (space.find? name).map (recast space) := by
  simp only [Namespace.find?, changes.entries, List.find?_map, Function.comp_def,
    changes.entryName]

theorem table (changes : Recast change recast) (registry : Registry κ) :
    (registry.map change).table = registry.table.map change := by
  rw [Registry.table, Registry.spaces_map _ _ changes.serial, List.filter_map]
  simp only [Function.comp_def, changes.isRegistered]
  rfl

theorem findSpace? (changes : Recast change recast) (registry : Registry κ) (name : String) :
    (registry.map change).find? name = (registry.find? name).map change := by
  simp only [Registry.find?, changes.table, List.find?_map, Function.comp_def, changes.name]

theorem owners (changes : Recast change recast) (registry : Registry κ) (name : String) :
    (registry.map change).owners name = (registry.owners name).map (pair change recast) := by
  simp only [Registry.owners, changes.table, List.filterMap_map, List.map_filterMap,
    Function.comp_def, changes.find?, Option.map_map]
  rfl

/-- A token names what has become of the entry that it named. -/
theorem lookup (changes : Recast change recast) (registry : Registry κ) (token : String) :
    (registry.map change).lookup token = (registry.lookup token).map (pair change recast) := by
  unfold Registry.lookup
  split
  · rw [changes.findSpace?]
    cases registry.find? _ with
    | none => rfl
    | some space =>
      simp only [Option.map_some, changes.find?]
      cases space.find? _ <;> rfl
  · rw [changes.owners]
    cases registry.owners _ with
    | nil => rfl
    | cons found rest =>
      cases rest with
      | nil => rfl
      | cons other rest =>
        simp [Except.map, Function.comp_def, pair, changes.name]

/-- What a change makes of what a token stands for. -/
def resolution (change : Namespace κ → Namespace κ) (recast : Namespace κ → Entry κ → Entry κ) :
    Resolution κ → Resolution κ
  | .listing space => .listing (change space)
  | .entry space entry => .entry (change space) (recast space entry)

theorem resolve (changes : Recast change recast) (registry : Registry κ) (token : String) :
    (registry.map change).resolve token =
      (registry.resolve token).map (resolution change recast) := by
  have named : (if (splitName token).1.isNone then (registry.map change).find? token else none) =
      (if (splitName token).1.isNone then registry.find? token else none).map change := by
    rw [changes.findSpace?]
    split <;> rfl
  simp only [Registry.resolve, named, changes.lookup]
  cases (if (splitName token).1.isNone then registry.find? token else none) with
  | some space => rfl
  | none => cases registry.lookup token <;> rfl

end Recast

/-- A change that leaves names and entries alone. -/
structure KeepsEntries (change : Namespace κ → Namespace κ) : Prop where
  serial : ∀ space, (change space).serial = space.serial
  name : ∀ space, (change space).name = space.name
  isRegistered : ∀ space, (change space).isRegistered = space.isRegistered
  entries : ∀ space, (change space).entries = space.entries

namespace KeepsEntries

variable {change : Namespace κ → Namespace κ}

theorem recast (keeps : KeepsEntries change) : Recast change fun _ entry => entry :=
  ⟨keeps.serial, keeps.name, keeps.isRegistered, fun space => by simp [keeps.entries space],
    fun _ _ => rfl⟩

theorem space? (keeps : KeepsEntries change) (registry : Registry κ) (serial : Nat) :
    (registry.map change).space? serial = (registry.space? serial).map change := by
  simp only [Registry.space?, Registry.spaces_map _ _ keeps.serial, List.find?_map,
    Function.comp_def, keeps.serial]

theorem target (keeps : KeepsEntries change) (registry : Registry κ) (target : Target) :
    (registry.map change).target target =
      (registry.target target).map fun found => (change found.1, found.2) := by
  cases target with
  | token token =>
    simp only [Registry.target, Registry.setting, keeps.recast.lookup]
    cases registry.lookup token with
    | error cause => rfl
    | ok found =>
      obtain ⟨space, entry⟩ := found
      cases entry with
      | command command => simp [Except.map, Recast.pair, keeps.name]
      | setting setting => rfl
  | kept serial name =>
    simp only [Registry.target, keeps.space?]
    cases registry.space? serial with
    | none => rfl
    | some space =>
      simp only [Option.map_some, keeps.recast.find?, Option.map_id']
      cases space.find? name with
      | none => rfl
      | some entry => cases entry <;> rfl

theorem typed (keeps : KeepsEntries change) (registry : Registry κ) (kind : Kind)
    (target : Target) :
    (registry.map change).typed kind target =
      (registry.typed kind target).map fun found => (change found.1, found.2) := by
  simp only [Registry.typed, keeps.target]
  cases registry.target target with
  | error fault => rfl
  | ok found =>
    simp only [Except.map, keeps.name]
    split <;> rfl

theorem aimed (keeps : KeepsEntries change) (serial : Nat) :
    KeepsEntries fun space => if space.serial == serial then change space else space := by
  constructor <;> intro space <;> split
  · exact keeps.serial space
  · rfl
  · exact keeps.name space
  · rfl
  · exact keeps.isRegistered space
  · rfl
  · exact keeps.entries space
  · rfl

/-- No setting holds another value. -/
theorem get (keeps : KeepsEntries change) (registry : Registry κ) (serial : Nat)
    (target : Target) : (registry.update serial change).get target = registry.get target := by
  rw [Registry.get, Registry.update, (keeps.aimed serial).target, Registry.get]
  cases registry.target target <;> rfl

end KeepsEntries

namespace Registry

theorem eq_of_spaces {first second : Registry κ} (same : first.spaces = second.spaces) :
    first = second := by
  cases first
  cases second
  cases same
  rfl

theorem update_update (registry : Registry κ) (serial : Nat)
    {first second : Namespace κ → Namespace κ}
    (firstKept : ∀ space, (first space).serial = space.serial)
    (secondKept : ∀ space, (second space).serial = space.serial) :
    (registry.update serial first).update serial second =
      registry.update serial fun space => second (first space) := by
  refine eq_of_spaces ?_
  rw [spaces_update _ _ _ secondKept, spaces_update _ _ _ firstKept,
    spaces_update _ _ _ fun space => (secondKept _).trans (firstKept space), List.map_map]
  apply List.map_congr_left
  intro space _
  unfold Function.comp
  by_cases same : space.serial == serial
  · simp only [if_pos same, firstKept]
  · simp only [if_neg same]

theorem update_comm (registry : Registry κ) {serial other : Nat} (apart : serial ≠ other)
    {first second : Namespace κ → Namespace κ}
    (firstKept : ∀ space, (first space).serial = space.serial)
    (secondKept : ∀ space, (second space).serial = space.serial) :
    (registry.update serial first).update other second =
      (registry.update other second).update serial first := by
  refine eq_of_spaces ?_
  rw [spaces_update _ _ _ secondKept, spaces_update _ _ _ firstKept,
    spaces_update _ _ _ firstKept, spaces_update _ _ _ secondKept, List.map_map, List.map_map]
  apply List.map_congr_left
  intro space _
  unfold Function.comp
  by_cases same : space.serial == serial
  · have unlike : ¬ space.serial == other := by
      rw [eq_of_beq same, beq_iff_eq]
      exact apart
    simp only [if_pos same, if_neg unlike, firstKept]
  · by_cases alike : space.serial == other
    · simp only [if_neg same, if_pos alike, secondKept]
    · simp only [if_neg same, if_neg alike]

theorem update_congr {registry : Registry κ} {space : Namespace κ}
    (present : space ∈ registry.spaces) {first second : Namespace κ → Namespace κ}
    (firstKept : ∀ space, (first space).serial = space.serial)
    (secondKept : ∀ space, (second space).serial = space.serial)
    (same : first space = second space) :
    registry.update space.serial first = registry.update space.serial second := by
  refine eq_of_spaces ?_
  rw [spaces_update _ _ _ firstKept, spaces_update _ _ _ secondKept]
  apply List.map_congr_left
  intro other member
  split
  · rename_i isSpace
    rw [eq_of_serial present member (eq_of_beq isSpace), same]
  · rfl

theorem update_id (registry : Registry κ) (serial : Nat) :
    (registry.update serial fun space => space) = registry := by
  refine eq_of_spaces ?_
  rw [spaces_update _ _ _ fun _ => rfl]
  simp

/-- A change that leaves a namespace as it is leaves the registry as it is. -/
theorem update_eq_self {registry : Registry κ} {space : Namespace κ}
    (present : space ∈ registry.spaces) {change : Namespace κ → Namespace κ}
    (kept : ∀ space, (change space).serial = space.serial) (same : change space = space) :
    registry.update space.serial change = registry :=
  (update_congr present kept (fun _ => rfl) same).trans (registry.update_id _)

theorem recast_shape : Recast (κ := κ) Namespace.shape fun _ entry => entry.pristine :=
  ⟨fun _ => rfl, fun _ => rfl, fun _ => rfl, fun _ => rfl, fun _ entry => entry.name_pristine⟩

/-- Registries of the same shapes have the same names. -/
theorem map_shape_of_shapes {first second : Registry κ}
    (same : second.spaces.map Namespace.shape = first.spaces.map Namespace.shape) :
    second.map Namespace.shape = first.map Namespace.shape := by
  refine eq_of_spaces ?_
  rw [spaces_map _ _ recast_shape.serial, spaces_map _ _ recast_shape.serial, same]

variable {first second : Registry κ} {token : String} {space : Namespace κ} {entry : Entry κ}

theorem lookup_of_shapes
    (same : second.spaces.map Namespace.shape = first.spaces.map Namespace.shape)
    (found : first.lookup token = .ok (space, entry)) :
    ∃ other inside, second.lookup token = .ok (other, inside) ∧ other.shape = space.shape ∧
      inside.pristine = entry.pristine := by
  have shaped := recast_shape.lookup second token
  rw [map_shape_of_shapes same, recast_shape.lookup, found] at shaped
  cases isFound : second.lookup token with
  | error cause => rw [isFound] at shaped; cases shaped
  | ok pair =>
    rw [isFound] at shaped
    obtain ⟨shape, pristine⟩ := Prod.mk.inj (Except.ok.inj shaped)
    exact ⟨pair.1, pair.2, rfl, shape.symm, pristine.symm⟩

theorem lookup_error_of_shapes
    (same : second.spaces.map Namespace.shape = first.spaces.map Namespace.shape)
    {cause : ConsoleError} (failed : first.lookup token = .error cause) :
    second.lookup token = .error cause := by
  have shaped := recast_shape.lookup second token
  rw [map_shape_of_shapes same, recast_shape.lookup, failed] at shaped
  cases isFound : second.lookup token with
  | error other => rw [isFound] at shaped; exact shaped.symm
  | ok pair => rw [isFound] at shaped; cases shaped

theorem resolve_of_shapes
    (same : second.spaces.map Namespace.shape = first.spaces.map Namespace.shape)
    (found : first.resolve token = .ok (.entry space entry)) :
    ∃ other inside, second.resolve token = .ok (.entry other inside) ∧
      other.shape = space.shape ∧ inside.pristine = entry.pristine := by
  have shaped := recast_shape.resolve second token
  rw [map_shape_of_shapes same, recast_shape.resolve, found] at shaped
  cases isFound : second.resolve token with
  | error cause => rw [isFound] at shaped; cases shaped
  | ok resolution =>
    rw [isFound] at shaped
    cases resolution with
    | listing listed => cases shaped
    | entry other inside =>
      obtain ⟨shape, pristine⟩ := Resolution.entry.inj (Except.ok.inj shaped)
      exact ⟨other, inside, rfl, shape.symm, pristine.symm⟩

end Registry

end CommandConsole
