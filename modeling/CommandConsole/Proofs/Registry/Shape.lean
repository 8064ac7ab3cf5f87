import CommandConsole.Registry
import Mathlib.Data.List.Nodup

set_option autoImplicit false

/-!
What a namespace keeps for ever: the shape that it was declared with. Main statements: a change of
one namespace keeps every shape (`shapes_update`), and its result is found under the same serial
number (`space?_of_mem`).
-/
namespace CommandConsole

variable {κ : Type}

theorem find?_of_nodup {α β : Type} [BEq β] [LawfulBEq β] (key : α → β) {items : List α} {item : α}
    (distinct : (items.map key).Nodup) (member : item ∈ items) :
    items.find? (fun other => key other == key item) = some item := by
  induction items with
  | nil => cases member
  | cons first rest ih =>
    simp only [List.map_cons, List.nodup_cons] at distinct
    rcases List.mem_cons.mp member with rfl | member
    · simp
    · have apart : (key first == key item) = false := by
        simpa using fun same : key first = key item =>
          distinct.1 (same ▸ List.mem_map_of_mem member)
      rw [List.find?_cons, apart]
      exact ih distinct.2 member

/-- An entry as it was declared: a setting holds its default. -/
def Entry.pristine : Entry κ → Entry κ
  | .command found => .command found
  | .setting found => .setting { found with current := found.default }

@[simp] theorem Entry.name_pristine (entry : Entry κ) : entry.pristine.name = entry.name := by
  cases entry <;> rfl

@[simp] theorem Entry.setting?_pristine (entry : Entry κ) :
    entry.pristine.setting?.isSome = entry.setting?.isSome := by
  cases entry <;> rfl

@[simp] theorem Entry.name_assign (entry : Entry κ) (value : Value) :
    (entry.assign value).name = entry.name := by
  cases entry <;> rfl

@[simp] theorem Entry.pristine_assign (entry : Entry κ) (value : Value) :
    (entry.assign value).pristine = entry.pristine := by
  cases entry <;> rfl

namespace Namespace

/-- A namespace as it was declared: detached, with nothing in its queue. -/
def shape (space : Namespace κ) : Namespace κ :=
  { space with entries := space.entries.map Entry.pristine, handler := none, pending := [] }

/-- A change that leaves every namespace the shape that it has. -/
def KeepsShape (change : Namespace κ → Namespace κ) : Prop :=
  ∀ space, (change space).shape = space.shape

variable {change : Namespace κ → Namespace κ}

theorem KeepsShape.serial (keeps : KeepsShape change) (space : Namespace κ) :
    (change space).serial = space.serial := by
  simpa only [shape] using congrArg Namespace.serial (keeps space)

theorem KeepsShape.name (keeps : KeepsShape change) (space : Namespace κ) :
    (change space).name = space.name := by
  simpa only [shape] using congrArg Namespace.name (keeps space)

theorem KeepsShape.isRegistered (keeps : KeepsShape change) (space : Namespace κ) :
    (change space).isRegistered = space.isRegistered := by
  simpa only [shape] using congrArg Namespace.isRegistered (keeps space)

theorem keepsShape_assign (name : String) (value : Value) :
    KeepsShape (κ := κ) (·.assign name value) := by
  intro space
  have entries : (space.entries.map fun entry =>
      if entry.name == name then entry.assign value else entry).map Entry.pristine =
        space.entries.map Entry.pristine := by
    rw [List.map_map]
    apply List.map_congr_left
    intro entry _
    simp only [Function.comp]
    split
    · exact entry.pristine_assign value
    · rfl
  simp only [shape, assign, entries]

theorem keepsShape_offer (statement : Statement) :
    KeepsShape (κ := κ) fun space => (space.offer statement).2 := by
  intro space
  simp only [offer]
  split <;> rfl

theorem handler_offer (statement : Statement) (space : Namespace κ) :
    (space.offer statement).2.handler = space.handler := by
  unfold offer
  split <;> rfl

theorem keepsShape_dequeue : KeepsShape (κ := κ) dequeue := fun _ => rfl

theorem keepsShape_handle (handler : Option Handler) : KeepsShape (κ := κ) (·.handle handler) :=
  fun _ => rfl

theorem names_shape (space : Namespace κ) :
    space.shape.entries.map Entry.name = space.entries.map Entry.name := by
  simp [shape, Function.comp_def]

def IsSorted (space : Namespace κ) : Prop :=
  space.entries.Pairwise fun earlier later => later.setting?.isSome → earlier.setting?.isSome

theorem IsSorted.of_shape {former latter : Namespace κ} (sorted : former.IsSorted)
    (same : latter.shape = former.shape) : latter.IsSorted := by
  have entries : latter.entries.map Entry.pristine = former.entries.map Entry.pristine :=
    congrArg (·.entries) same
  have shape (space : Namespace κ) : space.IsSorted ↔ (space.entries.map Entry.pristine).Pairwise
      fun earlier later => later.setting?.isSome → earlier.setting?.isSome := by
    simp only [IsSorted, List.pairwise_map, Entry.setting?_pristine]
  rw [shape, entries, ← shape]
  exact sorted

theorem entryNames_of_shape {former latter : Namespace κ} (same : latter.shape = former.shape) :
    latter.entries.map Entry.name = former.entries.map Entry.name := by
  rw [← names_shape latter, same, names_shape former]

end Namespace

namespace Registry

variable {registry : Registry κ} {space : Namespace κ} {change : Namespace κ → Namespace κ}

theorem serials_nodup (registry : Registry κ) : (registry.spaces.map Namespace.serial).Nodup := by
  rw [registry.serials]
  exact List.nodup_range

theorem serial_lt (member : space ∈ registry.spaces) : space.serial < registry.spaces.length := by
  have inside : space.serial ∈ registry.spaces.map Namespace.serial := List.mem_map_of_mem member
  rw [registry.serials] at inside
  exact List.mem_range.mp inside

theorem space?_of_mem (member : space ∈ registry.spaces) :
    registry.space? space.serial = some space :=
  find?_of_nodup Namespace.serial registry.serials_nodup member

theorem mem_of_space? {serial : Nat} (found : registry.space? serial = some space) :
    space ∈ registry.spaces ∧ space.serial = serial :=
  ⟨List.mem_of_find?_eq_some found, by simpa using List.find?_some found⟩

theorem mem_table : space ∈ registry.table ↔ space ∈ registry.spaces ∧ space.isRegistered := by
  simp [table]

theorem eq_of_serial {other : Namespace κ} (member : space ∈ registry.spaces)
    (otherMember : other ∈ registry.spaces) (same : other.serial = space.serial) :
    other = space := by
  have found := space?_of_mem otherMember
  rw [same, space?_of_mem member] at found
  exact (Option.some.inj found).symm

/-- What a change makes of the namespaces: one is changed and the others stay. -/
theorem mem_update (keeps : Namespace.KeepsShape change) {serial : Nat} :
    space ∈ (registry.update serial change).spaces ↔
      ∃ former ∈ registry.spaces,
        space = if former.serial == serial then change former else former := by
  rw [spaces_update registry serial change keeps.serial, List.mem_map]
  simp only [eq_comm]

theorem mem_update_self (keeps : Namespace.KeepsShape change) (member : space ∈ registry.spaces) :
    change space ∈ (registry.update space.serial change).spaces := by
  refine (mem_update keeps).mpr ⟨space, member, ?_⟩
  rw [if_pos (beq_self_eq_true _)]

/-- What holds of all namespaces and of what becomes of the changed one holds after the change. -/
theorem forall_update (keeps : Namespace.KeepsShape change) {serial : Nat}
    {holds : Namespace κ → Prop} (unchanged : ∀ space ∈ registry.spaces, holds space)
    (changed : ∀ space ∈ registry.spaces, space.serial = serial → holds (change space)) :
    ∀ space ∈ (registry.update serial change).spaces, holds space := by
  intro space member
  obtain ⟨former, isFormer, rfl⟩ := (mem_update keeps).mp member
  split
  · rename_i same
    exact changed former isFormer (eq_of_beq same)
  · exact unchanged former isFormer

theorem length_update (registry : Registry κ) (serial : Nat)
    (change : Namespace κ → Namespace κ) :
    (registry.update serial change).spaces.length = registry.spaces.length := by
  simp [Registry.update, Registry.map]

theorem shapes_update (keeps : Namespace.KeepsShape change) (serial : Nat) :
    (registry.update serial change).spaces.map Namespace.shape =
      registry.spaces.map Namespace.shape := by
  rw [spaces_update registry serial change keeps.serial, List.map_map]
  apply List.map_congr_left
  intro space _
  simp only [Function.comp]
  split
  · exact keeps space
  · rfl

theorem table_update (keeps : Namespace.KeepsShape change) (serial : Nat) :
    (registry.update serial change).table =
      registry.table.map fun space => if space.serial == serial then change space else space := by
  simp only [table, spaces_update registry serial change keeps.serial, List.filter_map]
  congr 1
  apply List.filter_congr
  intro space _
  simp only [Function.comp]
  split
  · exact keeps.isRegistered space
  · rfl

/-- The shapes of the registered namespaces are the registered shapes. -/
theorem shapes_table (registry : Registry κ) :
    registry.table.map Namespace.shape =
      (registry.spaces.map Namespace.shape).filter (·.isRegistered) := by
  rw [table, List.filter_map]
  rfl

/-- What the shapes tell of the table is the same where the shapes are. -/
theorem map_table_of_shapes {α : Type} (read : Namespace κ → α)
    (ofShape : ∀ space, read space.shape = read space) {former latter : Registry κ}
    (same : latter.spaces.map Namespace.shape = former.spaces.map Namespace.shape) :
    latter.table.map read = former.table.map read := by
  have shapes (registry : Registry κ) :
      registry.table.map read = (registry.table.map Namespace.shape).map read := by
    simp only [List.map_map, Function.comp_def, ofShape]
  rw [shapes, shapes, shapes_table, same, shapes_table]

end Registry

end CommandConsole
