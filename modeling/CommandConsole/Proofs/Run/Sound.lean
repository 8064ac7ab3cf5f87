import CommandConsole.Proofs.Run.Effect

set_option autoImplicit false

namespace CommandConsole

variable {κ : Type}

namespace Registry

variable {registry : Registry κ} {change : Namespace κ → Namespace κ}

theorem Sound.update (sound : registry.Sound) (keeps : Namespace.KeepsShape change) (serial : Nat)
    (still : ∀ space ∈ registry.spaces, space.serial = serial → (change space).Sound) :
    (registry.update serial change).Sound := by
  constructor
  · exact forall_update keeps sound.spaces still
  · rw [map_table_of_shapes Namespace.name (fun _ => rfl) (shapes_update keeps serial)]
    exact sound.distinct

/-- Queues and handlers do not matter for being sound. -/
theorem Sound.update_of_entries (sound : registry.Sound) (keeps : Namespace.KeepsShape change)
    (serial : Nat) (entries : ∀ space, (change space).entries = space.entries) :
    (registry.update serial change).Sound := by
  apply sound.update keeps serial
  intro space member _
  apply (sound.spaces space member).of_shape (keeps space)
  intro setting inside
  rw [entries] at inside
  exact ((sound.spaces space member).kinds setting inside).2

theorem Sound.assign (sound : registry.Sound) {space : Namespace κ} {setting : Setting κ}
    {value : Value} (present : space ∈ registry.spaces)
    (found : space.find? setting.name = some (.setting setting))
    (kind : value.kind = setting.kind) :
    (registry.update space.serial (·.assign setting.name value)).Sound := by
  apply sound.update (Namespace.keepsShape_assign _ _) _
  intro other member same
  rw [eq_of_serial present member same]
  have isSound := sound.spaces space present
  apply isSound.of_shape (Namespace.keepsShape_assign _ _ space)
  intro changed inside
  obtain ⟨entry, isEntry, becomes⟩ := List.mem_map.mp inside
  split at becomes
  · rename_i named
    have isFound : entry = .setting setting :=
      isSound.eq_of_name (Namespace.find?_ok found).1 isEntry (eq_of_beq named)
    rw [isFound] at becomes
    cases becomes
    exact kind
  · exact (isSound.kinds changed (becomes ▸ isEntry)).2

theorem mem_retire {space : Namespace κ} (member : space ∈ registry.retire.spaces) :
    space.isRegistered = false ∧ ∃ former ∈ registry.spaces,
      space = if former.isRegistered then former.retire else former := by
  rw [Registry.retire, spaces_map _ _ fun space => by split <;> rfl, List.mem_map] at member
  obtain ⟨former, isFormer, rfl⟩ := member
  refine ⟨?_, former, isFormer, rfl⟩
  split
  · rfl
  · rename_i retired
    simpa using retired

theorem table_retire (registry : Registry κ) : registry.retire.table = [] := by
  apply List.filter_eq_nil_iff.mpr
  intro space member
  simp [(mem_retire member).1]

theorem Sound.retire (sound : registry.Sound) : registry.retire.Sound := by
  refine ⟨fun space member => ?_, ?_⟩
  · obtain ⟨-, former, isFormer, rfl⟩ := mem_retire member
    have isSound := sound.spaces former isFormer
    split
    · exact ⟨isSound.isName, isSound.areNames, isSound.distinct, isSound.kinds⟩
    · exact isSound
  · rw [table_retire]
    exact List.nodup_nil

theorem table_add {space : Namespace κ} (isNext : space.serial = registry.spaces.length)
    (isRegistered : space.isRegistered) :
    (registry.add space).table = registry.table ++ [space] := by
  have same : { space with serial := registry.spaces.length } = space := by rw [← isNext]
  simp only [table, Registry.add, same, List.filter_append]
  rw [List.filter_cons_of_pos isRegistered, List.filter_nil]

end Registry

theorem Effect.sound {before after : Console κ} (effect : Effect before after)
    (sound : before.registry.Sound) : after.registry.Sound := by
  cases effect with
  | tell telling => exact sound
  | store storage => exact sound
  | create declared => exact sound.add declared
  | retire asked => exact sound.retire
  | offer present owned =>
    apply sound.update_of_entries (Namespace.keepsShape_offer _) _
    intro space
    unfold Namespace.offer
    split <;> rfl
  | assign present found kind => exact sound.assign present found kind
  | handle handler present =>
    exact sound.update_of_entries (Namespace.keepsShape_handle _) _ fun _ => rfl
  | take present due =>
    exact sound.update_of_entries Namespace.keepsShape_dequeue _ fun _ => rfl

/-- What has been declared since the table was last emptied, in the order of declaration. -/
def declarations : List (Event κ) → List (NamespaceDeclaration (Callback κ))
  | [] => []
  | .created _ declaration :: earlier => declarations earlier ++ [declaration]
  | .retired :: _ => []
  | _ :: earlier => declarations earlier

def Event.isDeclaring : Event κ → Bool
  | created _ _ | retired => true
  | _ => false

/-- Where nothing has been declared meanwhile, the declarations are the same. -/
theorem declarations_of_suffix {earlier later : List (Event κ)} (suffix : earlier <:+ later)
    (same : later.countP Event.isDeclaring = earlier.countP Event.isDeclaring) :
    declarations later = declarations earlier := by
  obtain ⟨events, rfl⟩ := suffix
  rw [List.countP_append, Nat.add_eq_right, List.countP_eq_zero] at same
  induction events with
  | nil => rfl
  | cons event rest ih =>
    have quiet := same event List.mem_cons_self
    have others := ih fun other member => same other (List.mem_cons_of_mem _ member)
    cases event <;> first | exact others | exact absurd rfl quiet

theorem Namespace.IsMadeBy.of_shape {former latter : Namespace κ}
    {declaration : NamespaceDeclaration (Callback κ)} (made : former.IsMadeBy declaration)
    (same : latter.shape = former.shape) : latter.IsMadeBy declaration := by
  have name : latter.name = former.name := congrArg (·.name) same
  have entries : latter.entries.map Entry.pristine = former.entries.map Entry.pristine :=
    congrArg (·.entries) same
  exact ⟨name ▸ made.name, entries ▸ made.entries⟩

/-- The table holds what the declarations made, in their order. -/
def IsDeclaredBy (table : List (Namespace κ))
    (declarations : List (NamespaceDeclaration (Callback κ))) : Prop :=
  List.Forall₂ Namespace.IsMadeBy table declarations

theorem IsDeclaredBy.update {registry : Registry κ} {change : Namespace κ → Namespace κ}
    {declarations : List (NamespaceDeclaration (Callback κ))}
    (declared : IsDeclaredBy registry.table declarations) (keeps : Namespace.KeepsShape change)
    (serial : Nat) : IsDeclaredBy (registry.update serial change).table declarations := by
  rw [IsDeclaredBy, Registry.table_update keeps, List.forall₂_map_left_iff]
  refine declared.imp fun space declaration made => made.of_shape ?_
  split
  · exact keeps space
  · rfl

theorem Effect.isDeclaredBy {before after : Console κ} (effect : Effect before after)
    (declared : IsDeclaredBy before.registry.table (declarations before.trace)) :
    IsDeclaredBy after.registry.table (declarations after.trace) := by
  cases effect with
  | @tell event telling =>
    cases event <;> first | exact telling.elim | exact declared
  | store storage => exact declared
  | create made =>
    obtain ⟨-, isMade, -, isRegistered, isNext, -⟩ := Registry.declared_ok made
    simp only [Console.creating, Console.tell, declarations,
      Registry.table_add isNext isRegistered]
    exact List.rel_append declared (.cons isMade .nil)
  | retire asked =>
    simp only [Console.retiring, Console.tell, declarations, Registry.table_retire]
    exact .nil
  | offer present owned => exact declared.update (Namespace.keepsShape_offer _) _
  | assign present found kind => exact declared.update (Namespace.keepsShape_assign _ _) _
  | handle handler present => exact declared.update (Namespace.keepsShape_handle _) _
  | take present due => exact declared.update Namespace.keepsShape_dequeue _

namespace Console.Reachable

variable {console : Console κ}

theorem sound (reachable : console.Reachable) : console.registry.Sound :=
  reachable.holds_of_effects Effect.sound fun _ _ =>
    ⟨fun _ member => absurd member List.not_mem_nil, List.nodup_nil⟩

/-- The table holds what has been declared since it was last emptied. -/
theorem table (reachable : console.Reachable) :
    IsDeclaredBy console.registry.table (declarations console.trace) :=
  reachable.holds_of_effects Effect.isDeclaredBy fun _ _ => .nil

end Console.Reachable

end CommandConsole
