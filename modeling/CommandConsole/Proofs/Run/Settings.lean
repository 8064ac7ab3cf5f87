import CommandConsole.Proofs.Registry.Holding
import CommandConsole.Proofs.Registry.Objects
import CommandConsole.Proofs.Run.Table

set_option autoImplicit false

namespace CommandConsole

variable {κ : Type}

def Event.given? (serial : Nat) (name : String) : Event κ → Option Value
  | changed space entry value => if space = serial ∧ entry = name then some value else none
  | _ => none

def given (serial : Nat) (name : String) (trace : List (Event κ)) : List Value :=
  chronicle (Event.given? serial name) trace

theorem given_cons {event : Event κ} {serial : Nat} {name : String}
    (silent : event.given? serial name = none) (trace : List (Event κ)) :
    given serial name (event :: trace) = given serial name trace := by
  rw [given, chronicle_cons, silent, Option.toList_none, List.append_nil, given]

theorem given_changed (space : Nat) (name : String) (value : Value) (serial : Nat)
    (other : String) (trace : List (Event κ)) :
    given serial other (.changed space name value :: trace) =
      given serial other trace ++ if space = serial ∧ name = other then [value] else [] := by
  rw [given, chronicle_cons, Event.given?]
  split <;> rfl

/-- A namespace has the objects of a declaration that has been told. -/
structure Namespace.IsMadeIn (trace : List (Event κ)) (space : Namespace κ) : Prop where
  nameless : ∀ found ∈ space.nameless, found.entry.pristine = found.entry
  declared : ∃ declaration, .created space.serial declaration ∈ trace ∧
    declaration.objects = .ok (space.objects.map pristine)

theorem Namespace.IsMadeIn.of_shape {trace : List (Event κ)} {former latter : Namespace κ}
    (same : latter.shape = former.shape) (made : former.IsMadeIn trace) :
    latter.IsMadeIn trace := by
  have others : latter.nameless = former.nameless := congrArg (·.nameless) same
  have serial : latter.serial = former.serial := congrArg (·.serial) same
  have nameless := made.nameless
  refine ⟨others ▸ nameless, ?_⟩
  rw [serial, ← Namespace.objects_shape (others ▸ nameless), same,
    Namespace.objects_shape nameless]
  exact made.declared

theorem Effect.made {before after : Console κ} (effect : Effect before after)
    (earlier : ∀ space ∈ before.registry.spaces, space.IsMadeIn before.trace) :
    ∀ space ∈ after.registry.spaces, space.IsMadeIn after.trace := by
  apply effect.forall_shapes fun space => space.IsMadeIn after.trace
  · exact fun same made => made.of_shape same
  · exact fun made => ⟨made.nameless, made.declared⟩
  · rintro declaration space declared rfl
    obtain ⟨objects, nameless⟩ := Registry.objects_declared declared
    have shape := (Registry.declared_ok declared).2.2.1
    refine ⟨nameless, declaration, List.mem_cons_self, ?_⟩
    rw [← Namespace.objects_shape nameless, shape, objects]
  · intro space member
    obtain ⟨nameless, declaration, told, objects⟩ := earlier space member
    exact ⟨nameless, declaration, effect.suffix.subset told, objects⟩

theorem Namespace.current_declared {space : Namespace κ} (declared : space.shape = space)
    {setting : Setting κ} (inside : Entry.setting setting ∈ space.entries) :
    setting.current = setting.default := by
  rw [← declared] at inside
  obtain ⟨entry, -, same⟩ := List.mem_map.mp inside
  cases entry with
  | command command => cases same
  | setting found => exact Entry.setting.inj same ▸ rfl

/-- Every setting holds the value that it has been given last, or its default. -/
structure Holds (registry : Registry κ) (trace : List (Event κ)) : Prop where
  fresh : ∀ serial, registry.spaces.length ≤ serial → ∀ name, given serial name trace = []
  last : ∀ space ∈ registry.spaces, ∀ setting, Entry.setting setting ∈ space.entries →
    setting.current = (given space.serial setting.name trace).getLast?.getD setting.default

namespace Holds

variable {registry : Registry κ} {trace : List (Event κ)}

theorem tell (holds : Holds registry trace) {event : Event κ}
    (silent : ∀ serial name, event.given? serial name = none) :
    Holds registry (event :: trace) :=
  ⟨fun serial beyond name => (given_cons (silent ..) _).trans (holds.fresh serial beyond name),
    fun space member setting inside => (holds.last space member setting inside).trans
      (by rw [given_cons (silent ..)])⟩

theorem update (holds : Holds registry trace) {change : Namespace κ → Namespace κ}
    (keeps : Namespace.KeepsShape change) (serial : Nat)
    (entries : ∀ space, (change space).entries = space.entries) :
    Holds (registry.update serial change) trace := by
  refine ⟨fun other beyond => holds.fresh other (by rwa [Registry.length_update] at beyond), ?_⟩
  apply Registry.forall_update keeps holds.last
  intro space member _
  rw [entries, keeps.serial]
  exact holds.last space member

theorem assign (holds : Holds registry trace) {space : Nat}
    (inside : space < registry.spaces.length) (name : String) (value : Value) :
    Holds (registry.update space (·.assign name value)) (.changed space name value :: trace) := by
  refine ⟨fun serial beyond other => ?_, fun other member setting isSetting => ?_⟩
  · rw [Registry.length_update] at beyond
    rw [given_changed, if_neg fun same => by omega, List.append_nil]
    exact holds.fresh serial beyond other
  · obtain ⟨former, isFormer, rfl⟩ :=
      (Registry.mem_update (Namespace.keepsShape_assign _ _)).mp member
    rw [given_changed]
    split at isSetting
    · rename_i same
      obtain ⟨entry, isEntry, becomes⟩ := List.mem_map.mp isSetting
      rw [if_pos same]
      split at becomes
      · rename_i named
        cases entry with
        | command command => cases becomes
        | setting found =>
          cases becomes
          rw [if_pos ⟨(eq_of_beq same).symm, (eq_of_beq named).symm⟩, List.getLast?_concat]
          rfl
      · rename_i apart
        subst becomes
        rw [if_neg fun both => apart (by simpa [Entry.name] using both.2.symm), List.append_nil]
        exact holds.last former isFormer setting isEntry
    · rename_i apart
      rw [if_neg apart, if_neg fun same => apart (by simpa using same.1.symm), List.append_nil]
      exact holds.last former isFormer setting isSetting

/-- A namespace that is added holds its defaults, and nothing has been given to it before. -/
theorem add (holds : Holds registry trace) {config : Config} {space : Namespace κ}
    {declaration : NamespaceDeclaration (Callback κ)}
    (declared : registry.declared config declaration = .ok space) :
    Holds (registry.add space) trace := by
  obtain ⟨-, -, shape, -, isNext, -⟩ := Registry.declared_ok declared
  refine ⟨fun serial beyond name => holds.fresh serial ?_ name, fun other member => ?_⟩
  · simp only [Registry.add, List.length_append] at beyond
    omega
  · rcases List.mem_append.mp member with member | member
    · exact holds.last other member
    · intro setting inside
      rw [List.mem_singleton.mp member] at inside ⊢
      rw [holds.fresh _ le_rfl]
      exact Namespace.current_declared shape inside

theorem retire (holds : Holds registry trace) : Holds registry.retire trace := by
  refine ⟨fun serial beyond => holds.fresh serial
    (by simpa [Registry.retire, Registry.map] using beyond), fun space member => ?_⟩
  obtain ⟨-, former, isFormer, rfl⟩ := Registry.mem_retire member
  split <;> exact holds.last former isFormer

end Holds

theorem Effect.holds {before after : Console κ} (effect : Effect before after)
    (holds : Holds before.registry before.trace) : Holds after.registry after.trace := by
  cases effect with
  | @tell event telling =>
    refine holds.tell fun serial name => ?_
    cases event <;> first | exact telling.elim | rfl
  | store storage => exact holds
  | @create declaration space declared =>
    exact (holds.add declared).tell fun _ _ => rfl
  | retire asked => exact holds.retire.tell fun _ _ => rfl
  | offer present owned =>
    refine (holds.update (Namespace.keepsShape_offer _) _ fun space => ?_).tell fun _ _ => rfl
    unfold Namespace.offer
    split <;> rfl
  | assign present found kind => exact holds.assign (Registry.serial_lt present) _ _
  | handle handler present =>
    exact (holds.update (Namespace.keepsShape_handle _) _ fun _ => rfl).tell fun _ _ => rfl
  | take present due =>
    exact (holds.update Namespace.keepsShape_dequeue _ fun _ => rfl).tell fun _ _ => rfl

/-- What is known of settings at every moment. -/
structure Settled (registry : Registry κ) (trace : List (Event κ)) : Prop where
  sound : registry.Sound
  made : ∀ space ∈ registry.spaces, space.IsMadeIn trace
  holds : Holds registry trace

theorem Effect.settled {before after : Console κ} (effect : Effect before after)
    (settled : Settled before.registry before.trace) : Settled after.registry after.trace :=
  ⟨effect.sound settled.sound, effect.made settled.made, effect.holds settled.holds⟩

theorem settled_empty : Settled (κ := κ) .empty [] where
  sound := ⟨fun _ member => absurd member List.not_mem_nil, List.nodup_nil⟩
  made := fun _ member => absurd member List.not_mem_nil
  holds := ⟨fun _ _ _ => rfl, fun _ member => absurd member List.not_mem_nil⟩

theorem Console.Reachable.settled {console : Console κ} (reachable : console.Reachable) :
    ∀ moment ∈ console.moments, Settled moment.1 moment.2 :=
  reachable.always_of_effects Effect.settled fun _ => settled_empty

/-- Operations keep what is known of settings, whatever callbacks do. -/
theorem invariants_settled :
    Invariants fun (_ : Unit) (now : Console κ) => Settled now.registry now.trace :=
  .of_turns (fun step => holds_of_effects Effect.settled step.effects)
    fun turn => holds_of_effects Effect.settled turn.effects

section Typed

variable {registry : Registry κ} {trace : List (Event κ)}

/-- Every setting is what a declaration that has been told has made of it, and holds values of its
kind, which is what those who ask for it get. -/
structure Registry.IsTyped (registry : Registry κ) (trace : List (Event κ)) : Prop where
  declared : ∀ space ∈ registry.spaces, ∃ declaration, .created space.serial declaration ∈ trace ∧
    List.Forall₂ IsObjectOf declaration.settings
      (space.objects.filter fun object => object.2.setting?.isSome)
  kinds : ∀ space ∈ registry.spaces, ∀ label setting, (label, .setting setting) ∈ space.objects →
    setting.default.kind = setting.kind ∧ setting.current.kind = setting.kind
  answers : ∀ target space setting, registry.target target = .ok (space, setting) →
    registry.getTyped setting.kind target = .ok setting.current ∧
      setting.current.kind = setting.kind

theorem Settled.kinds (settled : Settled registry trace) {space : Namespace κ}
    (present : space ∈ registry.spaces) {label : Data} {setting : Setting κ}
    (member : (label, .setting setting) ∈ space.objects) :
    setting.default.kind = setting.kind ∧ setting.current.kind = setting.kind := by
  rcases Namespace.mem_objects member with ⟨entry, isEntry, same⟩ | ⟨found, isFound, same⟩
  · obtain ⟨-, rfl⟩ := Prod.mk.inj same
    exact (settled.sound.spaces space present).kinds setting isEntry
  · -- Nothing can be assigned to an object without a name.
    obtain ⟨-, isSetting⟩ := Prod.mk.inj same
    obtain ⟨nameless, declaration, -, objects⟩ := settled.made space present
    have declared := (NamespaceDeclaration.objects_ok objects).2.2 _ (List.mem_map_of_mem member)
    have default := (declared.kinds _ rfl).1
    have current := nameless found isFound
    rw [← isSetting] at current
    have kept : setting.default = setting.current :=
      congrArg (·.current) (Entry.setting.inj current)
    exact ⟨default, kept ▸ default⟩

theorem Settled.isTyped (settled : Settled registry trace) : registry.IsTyped trace where
  declared space present := by
    obtain ⟨-, declaration, told, objects⟩ := settled.made space present
    exact ⟨declaration, told, Namespace.settings_declared objects⟩
  kinds _ present _ _ member := settled.kinds present member
  answers target space setting pointed := by
    obtain ⟨present, found⟩ := Registry.target_ok pointed
    constructor
    · simp only [Registry.getTyped, Registry.typed, pointed, if_true, Except.map]
    · exact ((settled.sound.spaces space present).kinds setting (Namespace.find?_ok found).1).2

end Typed

end CommandConsole
