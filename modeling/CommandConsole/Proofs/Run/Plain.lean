import CommandConsole.Proofs.Run.Sound
import CommandConsole.Proofs.Storage

set_option autoImplicit false

namespace CommandConsole

variable {κ : Type}

/-- Whether every object of a declaration has a text for a name and can be described. -/
def NamespaceDeclaration.isPlain (declaration : NamespaceDeclaration (Callback κ)) : Bool :=
  match declaration.objects with
  | .ok objects => objects.all fun object => object.1.isText && object.2.isWritable
  | .error _ => true

/-- Whether what an event adds to a registry, if it adds anything, can be written. -/
def Event.isPlain : Event κ → Bool
  | created _ declaration => declaration.isPlain
  | changed _ _ value => value.isWritable
  | _ => true

/-- Everything that has been added to a registry can be written. -/
def Plain (trace : List (Event κ)) : Prop :=
  ∀ event ∈ trace, event.isPlain = true

instance (trace : List (Event κ)) : Decidable (Plain trace) :=
  inferInstanceAs (Decidable (∀ event ∈ trace, event.isPlain = true))

theorem Plain.of_suffix {earlier later : List (Event κ)} (plain : Plain later)
    (suffix : earlier <:+ later) : Plain earlier :=
  fun event member => plain event (suffix.subset member)

structure Namespace.IsPlain (space : Namespace κ) : Prop where
  named : space.nameless = []
  writable : ∀ entry ∈ space.entries, entry.isWritable = true

def Registry.IsPlain (registry : Registry κ) : Prop :=
  ∀ space ∈ registry.spaces, space.IsPlain

theorem Registry.IsPlain.of_table {registry : Registry κ} (plain : registry.IsPlain)
    {space : Namespace κ} (present : space ∈ registry.table) : space.IsPlain :=
  plain space (mem_table.mp present).1

theorem Namespace.IsPlain.listing?_ok {space : Namespace κ} (plain : space.IsPlain) :
    space.listing? = .ok space.listing := by
  simp [listing?, plain.named]

theorem Namespace.IsPlain.describe?_ok {space : Namespace κ} (plain : space.IsPlain)
    {entry : Entry κ} (member : entry ∈ space.entries) :
    space.describe? entry = .ok (space.describe entry) := by
  simp [describe?, plain.writable entry member]

theorem Registry.isPlain_of_declared {registry : Registry κ} {config : Config}
    {declaration : NamespaceDeclaration (Callback κ)} {space : Namespace κ}
    (success : registry.declared config declaration = .ok space) (plain : declaration.isPlain) :
    space.IsPlain := by
  obtain ⟨objects, areObjects, entries, others⟩ := objects_of_declared success
  have all : ∀ object ∈ objects, object.1.isText = true ∧ object.2.isWritable = true := by
    simpa [NamespaceDeclaration.isPlain, areObjects] using plain
  constructor
  · rw [others, nameless_eq_nil fun object member => (all object member).1]
  · intro entry member
    rw [entries] at member
    obtain ⟨content, isObject⟩ := mem_named.mp member
    exact (all _ isObject).2

theorem Registry.IsPlain.update {registry : Registry κ} (plain : registry.IsPlain)
    {change : Namespace κ → Namespace κ} (keeps : Namespace.KeepsShape change) (serial : Nat)
    (still : ∀ space ∈ registry.spaces, space.IsPlain → (change space).IsPlain) :
    (registry.update serial change).IsPlain :=
  forall_update keeps plain fun space member _ => still space member (plain space member)

theorem Namespace.IsPlain.assign {space : Namespace κ} (plain : space.IsPlain) (name : String)
    {value : Value} (writable : value.isWritable) : (space.assign name value).IsPlain := by
  refine ⟨plain.named, fun entry member => ?_⟩
  obtain ⟨former, isFormer, rfl⟩ := List.mem_map.mp member
  have before := plain.writable former isFormer
  split
  · cases former with
    | command command => exact before
    | setting setting =>
      simp only [Entry.isWritable, Bool.and_eq_true] at before
      simp [Entry.assign, Entry.isWritable, before, writable]
  · exact before

theorem Effect.plain {before after : Console κ} (effect : Effect before after)
    (earlier : Plain before.trace → before.registry.IsPlain) (now : Plain after.trace) :
    after.registry.IsPlain := by
  have plain := earlier (now.of_suffix effect.suffix)
  cases effect with
  | tell telling => exact plain
  | store storage => exact plain
  | create declared =>
    intro space member
    rcases List.mem_append.mp member with member | member
    · exact plain space member
    · have made := Registry.isPlain_of_declared declared (now _ List.mem_cons_self)
      rw [List.mem_singleton.mp member]
      exact ⟨made.named, made.writable⟩
  | retire asked =>
    intro space member
    obtain ⟨-, former, isFormer, rfl⟩ := Registry.mem_retire member
    have before := plain former isFormer
    split
    · exact ⟨before.named, before.writable⟩
    · exact before
  | @offer _ statement present owned =>
    refine plain.update (Namespace.keepsShape_offer _) _ fun space _ before => ?_
    unfold Namespace.offer
    split
    · exact before
    · exact ⟨before.named, before.writable⟩
  | assign present found kind =>
    exact plain.update (Namespace.keepsShape_assign _ _) _
      fun space _ before => before.assign _ (now _ List.mem_cons_self)
  | handle handler present =>
    exact plain.update (Namespace.keepsShape_handle _) _
      fun space _ before => ⟨before.named, before.writable⟩
  | take present due =>
    exact plain.update Namespace.keepsShape_dequeue _
      fun space _ before => ⟨before.named, before.writable⟩

/-- A console where nothing but texts has been saved in some files, and whose registry can be
written if nothing else was added. -/
structure Console.Sane (files : Storage) (console : Console κ) : Prop where
  saved : files.Saved console.storage
  plain : Plain console.trace → console.registry.IsPlain

section Steps

variable {files : Storage} {before after : Console κ}

@[simp] theorem Console.storage_running (console : Console κ) (handler : Handler)
    (isReplay : Bool) (space : Namespace κ) (command : Command κ) (statement : Statement) :
    (console.running handler isReplay space command statement).storage = console.storage := by
  unfold Console.running
  cases command.action <;> rfl

@[simp] theorem Console.storage_notifying (console : Console κ) (handler : Handler)
    (isReplay : Bool) (space : Namespace κ) (setting : Setting κ) (value : Value) :
    (console.notifying handler isReplay space setting value).storage = console.storage := by
  unfold Console.notifying
  cases setting.onChange <;> rfl

theorem Step.sane (step : Step before after) (sane : before.Sane files) : after.Sane files := by
  refine ⟨?_, holds_of_effects Effect.plain step.effects sane.plain⟩
  cases step with
  | store saved => exact sane.saved.save saved
  | run statement present found attached =>
    rw [Console.storage_running]
    exact sane.saved
  | notify present found kind differs attached =>
    rw [Console.storage_notifying]
    exact sane.saved
  | _ => exact sane.saved

theorem Turn.sane (turn : Turn before after) (sane : before.Sane files) : after.Sane files := by
  refine ⟨?_, holds_of_effects Effect.plain turn.effects sane.plain⟩
  cases turn with
  | attach handler present => exact sane.saved
  | replay present due replay =>
    cases replay with
    | command found =>
      rw [Console.storage_running]
      exact sane.saved
    | change found reads =>
      rw [Console.storage_notifying]
      exact sane.saved
    | fail unknown => exact sane.saved

end Steps

/-- Everything that has been added to the registry of a console that a host can have can be written,
if what was told of it can. -/
theorem Console.Reachable.plain {console : Console κ} (reachable : console.Reachable) :
    Plain console.trace → console.registry.IsPlain :=
  reachable.holds_of_effects Effect.plain fun _ _ _ _ member => absurd member List.not_mem_nil

end CommandConsole
