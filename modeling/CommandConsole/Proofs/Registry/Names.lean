import CommandConsole.Proofs.Registry.Shape

set_option autoImplicit false

namespace CommandConsole

variable {κ : Type}

/-- A name that can be one side of a dotted name. -/
def IsName (name : String) : Prop :=
  name ≠ "" ∧ '.' ∉ name.toList

/-- A namespace whose names are names, each met once, and whose settings hold values of their
kinds. -/
structure Namespace.Sound (space : Namespace κ) : Prop where
  isName : IsName space.name
  areNames : ∀ entry ∈ space.entries, IsName entry.name
  distinct : (space.entries.map Entry.name).Nodup
  kinds : ∀ setting, Entry.setting setting ∈ space.entries →
    setting.default.kind = setting.kind ∧ setting.current.kind = setting.kind

/-- A registry of sound namespaces, of which no two in the table have one name. -/
structure Registry.Sound (registry : Registry κ) : Prop where
  spaces : ∀ space ∈ registry.spaces, space.Sound
  distinct : (registry.table.map Namespace.name).Nodup

theorem splitName_qualify {space : String} (dotless : '.' ∉ space.toList) (name : String) :
    splitName (qualify space name) = (some space, name) := by
  have chars : (qualify space name).toList = space.toList ++ '.' :: name.toList := by
    simp [qualify]
  have before : (space.toList ++ '.' :: name.toList).takeWhile (· != '.') = space.toList := by
    rw [List.takeWhile_append_of_pos]
    · simp
    · intro char member
      simpa using fun same : char = '.' => dotless (same ▸ member)
  simp only [splitName, chars, before, List.drop_left]
  simp

theorem qualify_ne_empty (space name : String) : qualify space name ≠ "" := by
  simp [qualify]

theorem qualify_injective {space other name otherName : String} (dotless : '.' ∉ space.toList)
    (otherDotless : '.' ∉ other.toList) (same : qualify space name = qualify other otherName) :
    space = other ∧ name = otherName := by
  have split := splitName_qualify dotless name
  rw [same, splitName_qualify otherDotless otherName] at split
  obtain ⟨spaces, names⟩ := Prod.mk.inj split
  exact ⟨(Option.some.inj spaces).symm, names.symm⟩

theorem Namespace.find?_ok {space : Namespace κ} {name : String} {entry : Entry κ}
    (found : space.find? name = some entry) :
    entry ∈ space.entries ∧ entry.name = name ∧ space.find? entry.name = some entry := by
  have same : entry.name = name := by simpa using List.find?_some found
  exact ⟨List.mem_of_find?_eq_some found, same, same ▸ found⟩

theorem Namespace.Sound.find?_name {space : Namespace κ} (sound : space.Sound) {entry : Entry κ}
    (member : entry ∈ space.entries) : space.find? entry.name = some entry :=
  find?_of_nodup Entry.name sound.distinct member

theorem Namespace.Sound.eq_of_name {space : Namespace κ} (sound : space.Sound)
    {entry other : Entry κ} (member : entry ∈ space.entries) (otherMember : other ∈ space.entries)
    (same : other.name = entry.name) : other = entry := by
  have found := sound.find?_name otherMember
  rw [same, sound.find?_name member] at found
  exact (Option.some.inj found).symm

namespace Registry

variable {registry : Registry κ} {space : Namespace κ} {entry : Entry κ}

theorem mem_settings {space : Namespace κ} {setting : Setting κ} :
    setting ∈ space.settings ↔ Entry.setting setting ∈ space.entries := by
  rw [Namespace.settings, List.mem_filterMap]
  constructor
  · rintro ⟨entry, member, isSetting⟩
    cases entry with
    | command command => cases isSetting
    | setting other => exact Option.some.inj isSetting ▸ member
  · exact fun member => ⟨_, member, rfl⟩

theorem find?_ok {name : String} (found : registry.find? name = some space) :
    space ∈ registry.table ∧ space.name = name :=
  ⟨List.mem_of_find?_eq_some found, by simpa using List.find?_some found⟩

theorem mem_owners {name : String} :
    (space, entry) ∈ registry.owners name ↔
      space ∈ registry.table ∧ space.find? name = some entry := by
  simp only [owners, List.mem_filterMap, Option.map_eq_some_iff, Prod.mk.injEq]
  constructor
  · rintro ⟨owner, member, found, isFound, rfl, rfl⟩
    exact ⟨member, isFound⟩
  · rintro ⟨member, isFound⟩
    exact ⟨space, member, entry, isFound, rfl, rfl⟩

theorem lookup_ok {token : String} (found : registry.lookup token = .ok (space, entry)) :
    space ∈ registry.table ∧ space.find? entry.name = some entry := by
  unfold lookup at found
  split at found
  · split at found
    · cases found
    · rename_i owner isOwner
      split at found
      · cases found
      · rename_i inside isInside
        simp only [Except.ok.injEq, Prod.mk.injEq] at found
        obtain ⟨rfl, rfl⟩ := found
        exact ⟨(find?_ok isOwner).1, (Namespace.find?_ok isInside).2.2⟩
  · rename_i name _
    split at found
    · cases found
    · rename_i only isOnly
      simp only [Except.ok.injEq] at found
      subst found
      have member : (space, entry) ∈ registry.owners name := by simp [isOnly]
      rw [mem_owners] at member
      exact ⟨member.1, (Namespace.find?_ok member.2).2.2⟩
    · cases found

theorem resolve_entry {token : String} (found : registry.resolve token = .ok (.entry space entry)) :
    registry.lookup token = .ok (space, entry) := by
  simp only [resolve] at found
  split at found
  · cases found
  · split at found
    · rename_i isFound
      simp only [Except.ok.injEq, Resolution.entry.injEq] at found
      rw [isFound, found.1, found.2]
    · cases found

theorem resolve_listing {token : String} (found : registry.resolve token = .ok (.listing space)) :
    space ∈ registry.table := by
  simp only [resolve] at found
  split at found
  · rename_i isListed
    cases found
    split at isListed
    · exact (find?_ok isListed).1
    · cases isListed
  · split at found <;> cases found

theorem Sound.find?_name (sound : registry.Sound) (member : space ∈ registry.table) :
    registry.find? space.name = some space :=
  find?_of_nodup Namespace.name sound.distinct member

theorem Sound.of_table (sound : registry.Sound) (member : space ∈ registry.table) : space.Sound :=
  sound.spaces space (mem_table.mp member).1

/-- The dotted name of a registered entry stands for that entry. -/
theorem Sound.lookup_qualify (sound : registry.Sound) (member : space ∈ registry.table)
    (inside : entry ∈ space.entries) :
    registry.lookup (qualify space.name entry.name) = .ok (space, entry) := by
  have isSpace := sound.of_table member
  simp only [lookup, splitName_qualify isSpace.isName.2, sound.find?_name member,
    isSpace.find?_name inside]

theorem Sound.setting_qualify (sound : registry.Sound) {space : Namespace κ}
    (present : space ∈ registry.table) {setting : Setting κ}
    (member : Entry.setting setting ∈ space.entries) :
    registry.setting (qualify space.name setting.name) = .ok (space, setting) := by
  have found := sound.lookup_qualify present member
  unfold Entry.name at found
  simp only [Registry.setting, found]

/-- The dotted name of a registered entry is no name of a namespace. -/
theorem Sound.resolve_qualify (sound : registry.Sound) (member : space ∈ registry.table)
    (inside : entry ∈ space.entries) :
    registry.resolve (qualify space.name entry.name) = .ok (.entry space entry) := by
  have isSpace := sound.of_table member
  simp only [resolve, splitName_qualify isSpace.isName.2, Option.isNone_some, Bool.false_eq_true,
    if_false, sound.lookup_qualify member inside]

theorem setting_ok {token : String} {setting : Setting κ}
    (found : registry.setting token = .ok (space, setting)) :
    space ∈ registry.table ∧ space.find? setting.name = some (.setting setting) := by
  unfold Registry.setting at found
  split at found
  · cases found
  · rename_i owner inside isFound
    simp only [Except.ok.injEq, Prod.mk.injEq] at found
    obtain ⟨rfl, rfl⟩ := found
    exact lookup_ok isFound
  · cases found

theorem target_ok {target : Target} {setting : Setting κ}
    (found : registry.target target = .ok (space, setting)) :
    space ∈ registry.spaces ∧ space.find? setting.name = some (.setting setting) := by
  cases target with
  | token token =>
    simp only [Registry.target] at found
    split at found
    · rename_i pair isFound
      simp only [Except.ok.injEq] at found
      subst found
      exact ⟨(mem_table.mp (setting_ok isFound).1).1, (setting_ok isFound).2⟩
    · cases found
  | kept serial name =>
    simp only [Registry.target] at found
    split at found
    · cases found
    · rename_i owner isOwner
      split at found
      · rename_i inside isInside
        simp only [Except.ok.injEq, Prod.mk.injEq] at found
        obtain ⟨rfl, rfl⟩ := found
        exact ⟨(mem_of_space? isOwner).1, (Namespace.find?_ok isInside).2.2⟩
      · cases found

theorem typed_ok {target : Target} {kind : Kind} {setting : Setting κ}
    (found : registry.typed kind target = .ok (space, setting)) :
    registry.target target = .ok (space, setting) ∧ setting.kind = kind := by
  unfold typed at found
  split at found
  · cases found
  · rename_i owner inside isFound
    split at found
    · rename_i same
      simp only [Except.ok.injEq, Prod.mk.injEq] at found
      obtain ⟨rfl, rfl⟩ := found
      exact ⟨isFound, same⟩
    · cases found

end Registry

/-- A change of values, queues and handlers keeps a registry sound. -/
theorem Namespace.Sound.of_shape {former latter : Namespace κ} (sound : former.Sound)
    (same : latter.shape = former.shape)
    (kinds : ∀ setting, Entry.setting setting ∈ latter.entries →
      setting.current.kind = setting.kind) : latter.Sound := by
  have names := Namespace.entryNames_of_shape same
  refine ⟨?_, ?_, names ▸ sound.distinct, ?_⟩
  · have isSame : latter.name = former.name := congrArg (·.name) same
    exact isSame ▸ sound.isName
  · intro entry member
    have named : entry.name ∈ former.entries.map Entry.name := names ▸ List.mem_map_of_mem member
    obtain ⟨other, isOther, sameName⟩ := List.mem_map.mp named
    exact sameName ▸ sound.areNames other isOther
  · intro setting member
    refine ⟨?_, kinds setting member⟩
    have entries : latter.entries.map Entry.pristine = former.entries.map Entry.pristine :=
      congrArg (·.entries) same
    have declared : (Entry.setting setting).pristine ∈ former.entries.map Entry.pristine :=
      entries ▸ List.mem_map_of_mem member
    obtain ⟨other, isOther, samePristine⟩ := List.mem_map.mp declared
    cases other with
    | command command => cases samePristine
    | setting former =>
      have isKind := (sound.kinds former isOther).1
      simp only [Entry.pristine, Entry.setting.injEq, Setting.mk.injEq] at samePristine
      rw [← samePristine.2.2.1, ← samePristine.2.2.2.1]
      exact isKind

end CommandConsole
