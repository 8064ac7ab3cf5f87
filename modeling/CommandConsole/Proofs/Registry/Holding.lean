import CommandConsole.Proofs.Registry.Recast

set_option autoImplicit false

namespace CommandConsole

variable {κ : Type}

namespace Registry

variable {registry : Registry κ} {space : Namespace κ} {setting : Setting κ}

theorem Sound.get_kept (sound : registry.Sound) (present : space ∈ registry.spaces)
    (member : Entry.setting setting ∈ space.entries) :
    registry.get (.kept space.serial setting.name) = .ok setting.current := by
  have found := (sound.spaces space present).find?_name member
  unfold Entry.name at found
  simp only [get, target, space?_of_mem present, found, Except.map]

theorem Sound.get_token (sound : registry.Sound) (present : space ∈ registry.table)
    (member : Entry.setting setting ∈ space.entries) :
    registry.get (.token (qualify space.name setting.name)) = .ok setting.current := by
  have found := sound.lookup_qualify present member
  unfold Entry.name at found
  simp only [get, target, Registry.setting, found, Except.map]

theorem recast_assign (name : String) (value : Value) :
    Recast (κ := κ) (·.assign name value) fun _ entry =>
      if entry.name == name then entry.assign value else entry :=
  ⟨fun _ => rfl, fun _ => rfl, fun _ => rfl, fun _ => rfl, fun _ entry => by split <;> simp⟩

/-- A setting that is assigned to holds the value, and no other setting changes. -/
theorem get_assign (present : space ∈ registry.spaces)
    (found : space.find? setting.name = some (.setting setting)) (value : Value) (serial : Nat)
    (name : String) :
    (registry.update space.serial (·.assign setting.name value)).get (.kept serial name) =
      if serial = space.serial ∧ name = setting.name then .ok value
      else registry.get (.kept serial name) := by
  by_cases same : serial = space.serial
  · have updated := registry.space?_update_self space.serial (·.assign setting.name value)
      fun _ => rfl
    rw [space?_of_mem present, Option.map_some] at updated
    subst same
    simp only [get, target, updated, space?_of_mem present,
      (recast_assign setting.name value).find?, true_and]
    by_cases isName : name = setting.name
    · simp [isName, found, Entry.name, Entry.assign, Except.map]
    · rw [if_neg isName]
      cases isFound : space.find? name with
      | none => rfl
      | some entry =>
        have apart : ¬(entry.name == setting.name) = true := by
          simpa [(Namespace.find?_ok isFound).2.1] using isName
        rw [Option.map_some, if_neg apart]
        cases entry <;> rfl
  · have updated := registry.space?_update_other space.serial serial
      (·.assign setting.name value) (fun _ => rfl) same
    rw [if_neg fun both => same both.1]
    simp only [get, target, updated]

/-- Every namespace is still there, with the shape and the handler that it had. -/
def Persists (former latter : Registry κ) : Prop :=
  ∀ space ∈ former.spaces, ∃ other ∈ latter.spaces,
    other.shape = space.shape ∧ other.handler = space.handler

theorem Persists.refl (registry : Registry κ) : Persists registry registry :=
  fun space member => ⟨space, member, rfl, rfl⟩

theorem Persists.trans {first second third : Registry κ} (earlier : Persists first second)
    (later : Persists second third) : Persists first third := by
  intro space member
  obtain ⟨other, isOther, shape, handler⟩ := earlier space member
  obtain ⟨last, isLast, lastShape, lastHandler⟩ := later other isOther
  exact ⟨last, isLast, lastShape.trans shape, lastHandler.trans handler⟩

theorem Persists.update (registry : Registry κ) (serial : Nat)
    {change : Namespace κ → Namespace κ} (keeps : Namespace.KeepsShape change)
    (handlers : ∀ space, (change space).handler = space.handler) :
    Persists registry (registry.update serial change) := by
  intro space member
  refine ⟨_, (mem_update keeps).mpr ⟨space, member, rfl⟩, ?_⟩
  split
  · exact ⟨keeps space, handlers space⟩
  · exact ⟨rfl, rfl⟩

end Registry

end CommandConsole
