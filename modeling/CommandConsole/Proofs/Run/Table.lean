import CommandConsole.Proofs.Run.Moment

set_option autoImplicit false

/-!
The table at every moment of a run. It changes in two ways only, by a namespace that is created and
by a teardown; whatever else happens, every namespace keeps its shape (`Effect.tableChange`). Main
statement: the table is never longer than the configuration admits, names in it are unique, it is in
the order of creation, and the objects of a namespace stay what they were declared as
(`table_orderly`).
-/
namespace CommandConsole

variable {κ : Type} {before after : Console κ}

/-- The serial numbers of the namespaces in the table, by what is told. -/
def live : List (Event κ) → List Nat
  | [] => []
  | .created space _ :: earlier => live earlier ++ [space]
  | .retired :: _ => []
  | _ :: earlier => live earlier

/-- What becomes of the table and of the shapes: a namespace is created, or all of them leave the
table, or the shapes stay and nothing is told of the table. -/
inductive TableChange (before after : Console κ) : Prop
  | stay (shapes : after.registry.spaces.map Namespace.shape =
        before.registry.spaces.map Namespace.shape)
      (quiet : live after.trace = live before.trace)
  | create (declaration : NamespaceDeclaration (Callback κ)) (space : Namespace κ)
      (declared : before.registry.declared before.config declaration = .ok space)
      (created : after = before.creating declaration space)
  | retire (retired : after = before.retiring)

theorem Effect.tableChange (effect : Effect before after) : TableChange before after := by
  cases effect with
  | @tell event telling =>
    exact .stay rfl (by cases event <;> first | rfl | exact telling.elim)
  | store storage => exact .stay rfl rfl
  | create declared => exact .create _ _ declared rfl
  | retire asked => exact .retire rfl
  | offer present owned => exact .stay (Registry.shapes_update (Namespace.keepsShape_offer _) _) rfl
  | assign present found kind =>
    exact .stay (Registry.shapes_update (Namespace.keepsShape_assign _ _) _) rfl
  | handle handler present =>
    exact .stay (Registry.shapes_update (Namespace.keepsShape_handle _) _) rfl
  | take present due => exact .stay (Registry.shapes_update Namespace.keepsShape_dequeue _) rfl

theorem Effect.config (effect : Effect before after) : after.config = before.config := by
  cases effect <;> rfl

theorem Effect.tellsLast (effect : Effect before after) : TellsLast before after := by
  cases effect with
  | @tell event telling =>
    cases event with
    | answered call reply registry | called call registry =>
      intro moment member
      rcases List.mem_cons.mp member with rfl | member
      · exact .inl (by rw [show registry = before.registry from telling]; rfl)
      · exact .inr member
    | _ => first | exact telling.elim | exact tellsLast_of_same rfl
  | _ => exact tellsLast_of_same rfl

/-- What effects keep holds at every moment. -/
theorem Console.Reachable.always_of_effects
    {holds : Config → Registry κ → List (Event κ) → Prop}
    (effects : ∀ {before after : Console κ}, Effect before after →
      holds before.config before.registry before.trace →
      holds after.config after.registry after.trace)
    (initially : ∀ config, holds config .empty []) {console : Console κ}
    (reachable : console.Reachable) :
    ∀ moment ∈ console.moments, holds console.config moment.1 moment.2 := by
  have kept : ∀ {before after : Console κ}, Effect before after →
      (∀ moment ∈ before.moments, holds before.config moment.1 moment.2) →
      ∀ moment ∈ after.moments, holds after.config moment.1 moment.2 := by
    intro before after effect earlier
    have now := effects effect (earlier _ List.mem_cons_self)
    rw [effect.config] at now ⊢
    exact effect.tellsLast.always now earlier
  apply reachable.holds_of_effects kept
  intro config _ moment member
  rcases List.mem_cons.mp member with rfl | member
  · exact initially config
  · cases member

section Shapes

/-- What the shape of a namespace decides holds of all namespaces, if it holds of those that are
created. -/
theorem Effect.forall_shapes (effect : Effect before after) (holds : Namespace κ → Prop)
    (ofShape : ∀ {former latter : Namespace κ},
      latter.shape = former.shape → holds former → holds latter)
    (ofRetired : ∀ {space : Namespace κ}, holds space → holds space.retire)
    (created : ∀ declaration space,
      before.registry.declared before.config declaration = .ok space →
      after = before.creating declaration space → holds space)
    (earlier : ∀ space ∈ before.registry.spaces, holds space) :
    ∀ space ∈ after.registry.spaces, holds space := by
  intro space member
  cases effect.tableChange with
  | stay shapes quiet =>
    have shape : space.shape ∈ before.registry.spaces.map Namespace.shape :=
      shapes ▸ List.mem_map_of_mem member
    obtain ⟨former, isFormer, same⟩ := List.mem_map.mp shape
    exact ofShape same.symm (earlier former isFormer)
  | create declaration made declared isCreated =>
    have isNext := (Registry.declared_ok declared).2.2.2.2.1
    subst isCreated
    rcases List.mem_append.mp member with member | member
    · exact earlier space member
    · rw [List.mem_singleton.mp member, ← isNext]
      exact created declaration made declared rfl
  | retire isRetired =>
    subst isRetired
    obtain ⟨-, former, isFormer, rfl⟩ := Registry.mem_retire member
    split
    · exact ofRetired (earlier former isFormer)
    · exact earlier former isFormer

theorem Effect.isSorted (effect : Effect before after)
    (sorted : ∀ space ∈ before.registry.spaces, space.IsSorted) :
    ∀ space ∈ after.registry.spaces, space.IsSorted :=
  effect.forall_shapes Namespace.IsSorted (fun same former => former.of_shape same) id
    (fun _ _ declared _ => Registry.sorted_of_declared declared) sorted

end Shapes

section Names

def Event.isNamed : Event κ → Bool
  | created _ declaration => declaration.names.all Data.isText
  | _ => true

/-- Every object that was declared has a text for a name. -/
def Named (trace : List (Event κ)) : Prop :=
  ∀ event ∈ trace, event.isNamed = true

instance (trace : List (Event κ)) : Decidable (Named trace) :=
  inferInstanceAs (Decidable (∀ event ∈ trace, event.isNamed = true))

theorem Effect.nameless (effect : Effect before after)
    (earlier : Named before.trace → ∀ space ∈ before.registry.spaces, space.nameless = [])
    (named : Named after.trace) : ∀ space ∈ after.registry.spaces, space.nameless = [] := by
  apply effect.forall_shapes fun space => space.nameless = []
  · exact fun same former => (congrArg Namespace.nameless same).trans former
  · exact id
  · rintro declaration space declared rfl
    exact Registry.nameless_of_declared declared (named _ List.mem_cons_self)
  · exact earlier fun event member => named event (effect.suffix.subset member)

end Names

section Order

theorem Effect.live (effect : Effect before after)
    (same : before.registry.table.map Namespace.serial = CommandConsole.live before.trace) :
    after.registry.table.map Namespace.serial = CommandConsole.live after.trace := by
  cases effect.tableChange with
  | stay shapes quiet =>
    rw [Registry.map_table_of_shapes Namespace.serial (fun _ => rfl) shapes, same, quiet]
  | create declaration space declared created =>
    obtain ⟨-, -, -, isRegistered, isNext, -⟩ := Registry.declared_ok declared
    subst created
    simp only [Console.creating, Console.tell, CommandConsole.live,
      Registry.table_add isNext isRegistered, List.map_append, same]
    rfl
  | retire retired =>
    subst retired
    simp only [Console.retiring, Console.tell, CommandConsole.live, Registry.table_retire]
    rfl

/-- The table holds no more namespaces than a configuration admits. -/
def Registry.Fits (config : Config) (registry : Registry κ) : Prop :=
  ∀ places ∈ config.maxNamespaces.places, registry.table.length ≤ places

theorem Effect.tableFits (effect : Effect before after)
    (fits : before.registry.Fits before.config) : after.registry.Fits after.config := by
  intro places isLimit
  rw [effect.config] at isLimit
  have earlier := fits places isLimit
  cases effect.tableChange with
  | stay shapes quiet =>
    have lengths := congrArg List.length
      (Registry.map_table_of_shapes Namespace.serial (fun _ => rfl) shapes)
    simp only [List.length_map] at lengths
    exact lengths.trans_le earlier
  | create declaration space declared created =>
    obtain ⟨-, -, -, isRegistered, isNext, -, free, -⟩ := Registry.declared_ok declared
    have isPlaces : before.config.maxNamespaces.places = some places := isLimit
    have below : before.registry.table.length < places := by
      simpa [Limit.isReached, isPlaces] using free
    subst created
    simp only [Console.creating, Console.tell, Registry.table_add isNext isRegistered,
      List.length_append, List.length_singleton]
    omega
  | retire retired =>
    subst retired
    simp only [Console.retiring, Console.tell, Registry.table_retire, List.length_nil]
    omega

end Order

section Permanence

/-- What is in the table has the shape that it had before, if it was there before. -/
def Remains (before after : Registry κ) : Prop :=
  ∀ space ∈ after.table, before.spaces.length ≤ space.serial ∨
    ∃ former ∈ before.table, space.shape = former.shape

theorem Effect.length_le (effect : Effect before after) :
    before.registry.spaces.length ≤ after.registry.spaces.length := by
  cases effect.tableChange with
  | stay shapes quiet =>
    have lengths := congrArg List.length shapes
    simp only [List.length_map] at lengths
    exact lengths.ge
  | create declaration space declared created =>
    subst created
    simp [Console.creating, Console.tell, Registry.add]
  | retire retired =>
    subst retired
    simp [Console.retiring, Console.tell, Registry.retire, Registry.map]

theorem Effect.remains {first : Registry κ} (effect : Effect before after)
    (longer : first.spaces.length ≤ before.registry.spaces.length)
    (remains : Remains first before.registry) : Remains first after.registry := by
  intro space member
  cases effect.tableChange with
  | stay shapes quiet =>
    have shape : space.shape ∈ before.registry.table.map Namespace.shape := by
      rw [Registry.shapes_table, ← shapes, ← Registry.shapes_table]
      exact List.mem_map_of_mem member
    obtain ⟨former, isFormer, same⟩ := List.mem_map.mp shape
    have sameSerial : former.serial = space.serial := congrArg (·.serial) same
    rcases remains former isFormer with isNew | ⟨origin, isOrigin, isShape⟩
    · exact .inl (isNew.trans_eq sameSerial)
    · exact .inr ⟨origin, isOrigin, same.symm.trans isShape⟩
  | create declaration made declared created =>
    obtain ⟨-, -, -, isRegistered, isNext, -⟩ := Registry.declared_ok declared
    subst created
    simp only [Console.creating, Console.tell, Registry.table_add isNext isRegistered] at member
    rcases List.mem_append.mp member with member | member
    · exact remains space member
    · rw [List.mem_singleton.mp member, isNext]
      exact .inl longer
  | retire retired =>
    subst retired
    simp only [Console.retiring, Console.tell, Registry.table_retire] at member
    exact absurd member List.not_mem_nil

theorem remains_refl (registry : Registry κ) : Remains registry registry :=
  fun space member => .inr ⟨space, member, rfl⟩

theorem remains_of_effects (effects : Effects before after) :
    before.registry.spaces.length ≤ after.registry.spaces.length ∧
      Remains before.registry after.registry := by
  induction effects with
  | refl => exact ⟨le_rfl, remains_refl _⟩
  | tail _ effect ih => exact ⟨ih.1.trans effect.length_le, effect.remains ih.1 ih.2⟩

/-- Since every earlier moment what is in the table has kept its shape. -/
def Permanent (registry : Registry κ) (trace : List (Event κ)) : Prop :=
  ∀ earlier ∈ told trace, earlier.1.spaces.length ≤ registry.spaces.length ∧
    Remains earlier.1 registry

theorem Effect.permanent (effect : Effect before after)
    (permanent : Permanent before.registry before.trace) :
    Permanent after.registry after.trace := by
  intro earlier member
  rcases effect.tellsLast earlier member with rfl | member
  · exact ⟨le_rfl, remains_refl _⟩
  · obtain ⟨longer, remains⟩ := permanent earlier member
    exact ⟨longer.trans effect.length_le, effect.remains longer remains⟩

/-- Of a namespace in the table nothing but values, its queue and its handler has ever changed. -/
theorem Permanent.shape {registry : Registry κ} {trace : List (Event κ)}
    (permanent : Permanent registry trace) {earlier : Registry κ × List (Event κ)}
    (isEarlier : earlier ∈ told trace) {space former : Namespace κ}
    (present : space ∈ registry.table) (isFormer : former ∈ earlier.1.spaces)
    (same : former.serial = space.serial) :
    former ∈ earlier.1.table ∧ space.shape = former.shape := by
  have inside := Registry.serial_lt isFormer
  rcases (permanent earlier isEarlier).2 space present with isNew | ⟨origin, isOrigin, shape⟩
  · omega
  · have sameSerial : origin.serial = space.serial := (congrArg (·.serial) shape).symm
    obtain rfl := Registry.eq_of_serial isFormer (Registry.mem_table.mp isOrigin).1
      (sameSerial.trans same.symm)
    exact ⟨isOrigin, shape⟩

end Permanence

/-- What is known of the table at every moment. -/
structure Tabled (config : Config) (registry : Registry κ) (trace : List (Event κ)) : Prop where
  sound : registry.Sound
  fits : registry.Fits config
  sorted : ∀ space ∈ registry.spaces, space.IsSorted
  named : Named trace → ∀ space ∈ registry.spaces, space.nameless = []
  live : registry.table.map Namespace.serial = live trace
  declared : IsDeclaredBy registry.table (declarations trace)
  permanent : Permanent registry trace

theorem Effect.tabled (effect : Effect before after)
    (tabled : Tabled before.config before.registry before.trace) :
    Tabled after.config after.registry after.trace where
  sound := effect.sound tabled.sound
  fits := effect.tableFits tabled.fits
  sorted := effect.isSorted tabled.sorted
  named := effect.nameless tabled.named
  live := effect.live tabled.live
  declared := effect.isDeclaredBy tabled.declared
  permanent := effect.permanent tabled.permanent

theorem Console.Reachable.tabled {console : Console κ} (reachable : console.Reachable) :
    ∀ moment ∈ console.moments, Tabled console.config moment.1 moment.2 :=
  reachable.always_of_effects Effect.tabled fun _ =>
    ⟨⟨fun _ member => absurd member List.not_mem_nil, List.nodup_nil⟩, fun _ _ => Nat.zero_le _,
      fun _ member => absurd member List.not_mem_nil,
      fun _ _ member => absurd member List.not_mem_nil, rfl, .nil,
      fun _ member => absurd member List.not_mem_nil⟩

/-- A namespace whose objects have unique names, settings first, and lead back to it. -/
structure Namespace.IsOrderly (registry : Registry κ) (space : Namespace κ) : Prop where
  isName : IsName space.name
  named : space.nameless = []
  areNames : ∀ entry ∈ space.entries, IsName entry.name
  distinct : (space.entries.map Entry.name).Nodup
  sorted : space.IsSorted
  known : registry.space? space.serial = some space
  owned : ∀ setting, .setting setting ∈ space.entries →
    registry.target (.kept space.serial setting.name) = .ok (space, setting)

/-- A table that is no longer than a configuration admits, in the order of creation, where nothing
that was declared has changed and a dotted name stands for one entry. The namespaces are orderly,
also those that have left the table. -/
structure Registry.IsOrderly (config : Config) (registry : Registry κ) (trace : List (Event κ)) :
    Prop where
  fits : registry.Fits config
  distinct : (registry.table.map Namespace.name).Nodup
  spaces : ∀ space ∈ registry.spaces, space.IsOrderly registry
  inOrder : registry.table.map Namespace.serial = live trace
  declared : IsDeclaredBy registry.table (declarations trace)
  permanent : ∀ earlier ∈ told trace, ∀ space ∈ registry.table, ∀ former ∈ earlier.1.spaces,
    former.serial = space.serial → former ∈ earlier.1.table ∧ space.shape = former.shape
  unique : ∀ space ∈ registry.table, ∀ entry ∈ space.entries,
    ∀ other ∈ registry.table, ∀ otherEntry ∈ other.entries,
      qualify space.name entry.name = qualify other.name otherEntry.name →
        space = other ∧ entry = otherEntry
  found : ∀ space ∈ registry.table, ∀ entry ∈ space.entries,
    registry.lookup (qualify space.name entry.name) = .ok (space, entry)

theorem Tabled.space {config : Config} {registry : Registry κ} {trace : List (Event κ)}
    (tabled : Tabled config registry trace) (named : Named trace) {space : Namespace κ}
    (present : space ∈ registry.spaces) : space.IsOrderly registry := by
  have sound := tabled.sound.spaces space present
  have known := Registry.space?_of_mem present
  refine ⟨sound.isName, tabled.named named space present, sound.areNames, sound.distinct,
    tabled.sorted space present, known, fun setting member => ?_⟩
  have found := sound.find?_name member
  simp only [Entry.name] at found
  simp only [Registry.target, known, found]

theorem Registry.Sound.eq_of_qualify {registry : Registry κ} (sound : registry.Sound)
    {space other : Namespace κ} {entry otherEntry : Entry κ} (present : space ∈ registry.table)
    (member : entry ∈ space.entries) (otherPresent : other ∈ registry.table)
    (otherMember : otherEntry ∈ other.entries)
    (same : qualify space.name entry.name = qualify other.name otherEntry.name) :
    space = other ∧ entry = otherEntry := by
  have found := sound.lookup_qualify present member
  rw [same, sound.lookup_qualify otherPresent otherMember] at found
  obtain ⟨spaces, entries⟩ := Prod.mk.inj (Except.ok.inj found)
  exact ⟨spaces.symm, entries.symm⟩

/-- Whatever is done to a console and whatever its callbacks do, also in the middle of an operation:
as long as objects have texts for names, its table is orderly. -/
theorem table_orderly {console : Console κ} (reachable : console.Reachable)
    {registry : Registry κ} {trace : List (Event κ)} (moment : (registry, trace) ∈ console.moments)
    (named : Named trace) : registry.IsOrderly console.config trace := by
  have tabled := reachable.tabled _ moment
  exact {
    fits := tabled.fits
    distinct := tabled.sound.distinct
    spaces := fun space present => tabled.space named present
    inOrder := tabled.live
    declared := tabled.declared
    permanent := fun earlier isEarlier space present former isFormer same =>
      tabled.permanent.shape isEarlier present isFormer same
    unique := fun space present entry member other otherPresent otherEntry otherMember same =>
      tabled.sound.eq_of_qualify present member otherPresent otherMember same
    found := fun space present entry member => tabled.sound.lookup_qualify present member }

def crowd (name : String) : NamespaceDeclaration (Callback Unit) :=
  ⟨.text name, [⟨.text "go", some (.host ()), .null⟩],
    [⟨.text "v", .integer, .plain .null, none, .null⟩]⟩

/-- A console with two places in its table. Its callback creates two namespaces, and there is no
place for the second one. -/
def crowded : Console Unit :=
  (Console.empty ⟨.text "crowded", .whole 2, .whole 8⟩ .empty).actAll
    (fun _ _ _ => .ask (.create (crowd "B")) fun _ => .ask (.create (crowd "C")) fun _ =>
      .done true) 3
    [.create (crowd "A"), .attach 0 (some (.label "h")), .execute "go", .create (crowd "A"),
      .execute "A.v 7", .teardown, .create (crowd "C"), .create (crowd "A")]

/-- The table was orderly at each of the moments, also in the middle of the callback. -/
theorem crowded_orderly :
    (crowded.moments.map fun moment => moment.1.table.map (·.name)).eraseReps =
        [["C", "A"], ["C"], [], ["A", "B"], ["A"]] ∧
      ∀ moment ∈ crowded.moments, moment.1.IsOrderly crowded.config moment.2 := by
  have reachable : crowded.Reachable :=
    (Console.Reachable.empty _ .empty).actAll _ 3 _
  have named : ∀ moment ∈ crowded.moments, Named moment.2 := by decide +kernel
  exact ⟨by decide +kernel,
    fun moment member => table_orderly reachable member (named moment member)⟩

end CommandConsole
