import CommandConsole.Proofs.Save.Loading

set_option autoImplicit false

/-!
What a save file of one registry assigns in another one with the same declarations. Main statement:
its lines are assignments to settings of that registry (`Counterparts.savedLines_eq`,
`Counterparts.mem_assignments`), each to another one (`Counterparts.nodup`).
-/
namespace CommandConsole

open CommandConsole.Action

variable {κ : Type}

/-- Whether the names of a namespace can be read from a line. -/
def Namespace.isPlain (space : Namespace κ) : Bool :=
  Text.isPlain space.name && !space.name.startsWith "#" &&
    space.entries.all fun entry => Text.isPlain entry.name

/-- What a declaration says about a namespace: its name and its entries as they were declared. -/
def Namespace.plan (space : Namespace κ) : String × List (Entry κ) :=
  (space.name, space.entries.map Entry.pristine)

theorem Namespace.IsMadeBy.plan_eq {space other : Namespace κ}
    {declaration : NamespaceDeclaration (Callback κ)} (made : space.IsMadeBy declaration)
    (otherMade : other.IsMadeBy declaration) : other.plan = space.plan := by
  obtain ⟨objects, areObjects, entries⟩ := made.entries
  obtain ⟨others, areOthers, otherEntries⟩ := otherMade.entries
  have name : other.name = space.name :=
    (Data.text.inj (made.name.symm.trans otherMade.name)).symm
  rw [areObjects] at areOthers
  rw [plan, plan, name, entries, otherEntries, Except.ok.inj areOthers]

theorem IsDeclaredBy.plans_eq {table others : List (Namespace κ)}
    {declarations : List (NamespaceDeclaration (Callback κ))}
    (declared : IsDeclaredBy table declarations)
    (othersDeclared : IsDeclaredBy others declarations) :
    others.map Namespace.plan = table.map Namespace.plan := by
  unfold IsDeclaredBy at declared othersDeclared
  induction declared generalizing others with
  | nil =>
    cases othersDeclared
    rfl
  | cons made _ ih =>
    cases othersDeclared with
    | cons otherMade rest => rw [List.map_cons, List.map_cons, made.plan_eq otherMade, ih rest]

namespace Registry

def modified (registry : Registry κ) : List (Namespace κ × Setting κ) :=
  registry.table.flatMap fun space =>
    (space.settings.filter (·.isModified)).map fun setting => (space, setting)

def assignment? (target : Registry κ) (saved : Namespace κ × Setting κ) : Option (Assignment κ) :=
  match target.setting (qualify saved.1.name saved.2.name) with
  | .ok (space, setting) => some ⟨space, setting, saved.2.current⟩
  | .error _ => none

/-- What a save file of one registry assigns in another one. -/
def assignments (source target : Registry κ) : List (Assignment κ) :=
  source.modified.filterMap target.assignment?

/-- What a save file of one registry changes in another one, in the order of the table and of the
declarations. -/
def transfers (source target : Registry κ) : List (Assignment κ) :=
  (source.assignments target).filter Assignment.isChange

variable {registry source target : Registry κ} {saved : Namespace κ × Setting κ}

theorem mem_modified : saved ∈ registry.modified ↔ saved.1 ∈ registry.table ∧
    Entry.setting saved.2 ∈ saved.1.entries ∧ saved.2.isModified = true := by
  obtain ⟨space, setting⟩ := saved
  simp only [modified, List.mem_flatMap, List.mem_map, List.mem_filter, Prod.mk.injEq, mem_settings]
  constructor
  · rintro ⟨owner, present, other, ⟨member, isModified⟩, rfl, rfl⟩
    exact ⟨present, member, isModified⟩
  · rintro ⟨present, member, isModified⟩
    exact ⟨space, present, setting, ⟨member, isModified⟩, rfl, rfl⟩

theorem savedLines_eq (registry : Registry κ) :
    registry.savedLines = registry.modified.map fun saved =>
      savedLine (qualify saved.1.name saved.2.name) saved.2.current := by
  simp only [savedLines, modified, List.map_flatMap, List.map_map]
  rfl

theorem isWritable_of_mem (writable : registry.isWritable) (member : saved ∈ registry.modified) :
    saved.2.current.isWritable = true := by
  obtain ⟨present, inside, isModified⟩ := mem_modified.mp member
  simp only [isWritable, List.all_eq_true, List.mem_filter, mem_settings] at writable
  exact writable _ present _ ⟨inside, isModified⟩

theorem pairwise_settings {space : Namespace κ} (sound : space.Sound) :
    space.settings.Pairwise fun setting other => setting.name ≠ other.name := by
  have entries : space.entries.Pairwise fun entry other => entry.name ≠ other.name :=
    List.pairwise_map.mp sound.distinct
  rw [Namespace.settings, List.pairwise_filterMap]
  refine entries.imp fun apart setting isSetting other isOther => ?_
  rename_i entry otherEntry
  cases entry with
  | command command => cases isSetting
  | setting first =>
    cases otherEntry with
    | command command => cases isOther
    | setting second =>
      obtain rfl := Option.some.inj isSetting
      obtain rfl := Option.some.inj isOther
      exact apart

theorem Sound.pairwise_modified (sound : registry.Sound) :
    registry.modified.Pairwise fun saved other =>
      qualify saved.1.name saved.2.name ≠ qualify other.1.name other.2.name := by
  rw [modified, List.pairwise_flatMap]
  refine ⟨fun space present => ?_, ?_⟩
  · have isSound := sound.of_table present
    rw [List.pairwise_map]
    refine ((pairwise_settings isSound).sublist List.filter_sublist).imp fun apart same => ?_
    exact apart (qualify_injective isSound.isName.2 isSound.isName.2 same).2
  · have names : registry.table.Pairwise fun space other => space.name ≠ other.name :=
      List.pairwise_map.mp sound.distinct
    refine names.imp_of_mem fun present otherPresent apart saved inside other otherInside same => ?_
    obtain ⟨_, -, rfl⟩ := List.mem_map.mp inside
    obtain ⟨_, -, rfl⟩ := List.mem_map.mp otherInside
    exact apart (qualify_injective (sound.of_table present).isName.2
      (sound.of_table otherPresent).isName.2 same).1

theorem exists_counterpart
    (alike : target.table.map Namespace.plan = source.table.map Namespace.plan)
    {space : Namespace κ} (present : space ∈ source.table) {setting : Setting κ}
    (member : Entry.setting setting ∈ space.entries) :
    ∃ owner ∈ target.table, ∃ found, Entry.setting found ∈ owner.entries ∧
      owner.name = space.name ∧ found.name = setting.name ∧ found.kind = setting.kind ∧
      found.default = setting.default := by
  have planned : space.plan ∈ target.table.map Namespace.plan :=
    alike ▸ List.mem_map_of_mem present
  obtain ⟨owner, isOwner, same⟩ := List.mem_map.mp planned
  obtain ⟨name, entries⟩ := Prod.mk.inj same
  have declared : (Entry.setting setting).pristine ∈ owner.entries.map Entry.pristine :=
    entries ▸ List.mem_map_of_mem member
  obtain ⟨entry, inside, pristine⟩ := List.mem_map.mp declared
  cases entry with
  | command command => cases pristine
  | setting found =>
    simp only [Entry.pristine, Entry.setting.injEq, Setting.mk.injEq] at pristine
    exact ⟨owner, isOwner, found, inside, name, pristine.1, pristine.2.2.1, pristine.2.2.2.1⟩

end Registry

/-- Two sound registries of the same plans, of which one can be saved. -/
structure Counterparts (source target : Registry κ) : Prop where
  sound : source.Sound
  targetSound : target.Sound
  alike : target.table.map Namespace.plan = source.table.map Namespace.plan
  plain : ∀ space ∈ source.table, space.isPlain
  written : source.isWritable

namespace Counterparts

variable {source target : Registry κ}

theorem plainNames (counterparts : Counterparts source target) {space : Namespace κ}
    (present : space ∈ source.table) {entry : Entry κ} (inside : entry ∈ space.entries) :
    Text.isPlain (qualify space.name entry.name) ∧
      (qualify space.name entry.name).startsWith "#" = false := by
  have plain := counterparts.plain space present
  simp only [Namespace.isPlain, Bool.and_eq_true, Bool.not_eq_true', List.all_eq_true] at plain
  obtain ⟨⟨isPlain, uncommented⟩, entries⟩ := plain
  constructor
  · exact isPlain_qualify isPlain (entries entry inside)
  · obtain ⟨head, rest, isName⟩ := List.exists_cons_of_ne_nil
      (mt String.toList_eq_nil_iff.mp (counterparts.sound.of_table present).isName.1)
    rw [Bool.eq_false_iff, Ne, String.startsWith_string_iff] at uncommented ⊢
    rw [isName] at uncommented
    simpa [qualify, isName] using uncommented

theorem exists_assignment (counterparts : Counterparts source target)
    {saved : Namespace κ × Setting κ} (member : saved ∈ source.modified) :
    ∃ assignment, target.assignment? saved = some assignment ∧ assignment.IsFor target ∧
      assignment.name = qualify saved.1.name saved.2.name ∧
      assignment.value = saved.2.current := by
  obtain ⟨present, inside, -⟩ := Registry.mem_modified.mp member
  obtain ⟨owner, isOwner, found, isFound, name, settingName, kind, -⟩ :=
    Registry.exists_counterpart counterparts.alike present inside
  have names : qualify owner.name found.name = qualify saved.1.name saved.2.name := by
    rw [name, settingName]
  have plainNames := counterparts.plainNames present inside
  have valueKind := ((counterparts.sound.of_table present).kinds _ inside).2
  have pointed := counterparts.targetSound.setting_qualify isOwner isFound
  rw [names] at pointed
  rw [Entry.name, ← names] at plainNames
  exact ⟨⟨owner, found, saved.2.current⟩, by rw [Registry.assignment?, pointed],
    ⟨isOwner, isFound, valueKind.trans kind.symm,
      Registry.isWritable_of_mem counterparts.written member, plainNames.1, plainNames.2⟩,
    names, rfl⟩

theorem mem_assignments (counterparts : Counterparts source target) {assignment : Assignment κ}
    (member : assignment ∈ source.assignments target) :
    assignment.IsFor target ∧ ∃ saved ∈ source.modified,
      assignment.name = qualify saved.1.name saved.2.name ∧
        assignment.value = saved.2.current := by
  obtain ⟨saved, inside, isAssignment⟩ := List.mem_filterMap.mp member
  obtain ⟨other, isOther, fit, name, value⟩ := counterparts.exists_assignment inside
  obtain rfl := Option.some.inj (isOther.symm.trans isAssignment)
  exact ⟨fit, saved, inside, name, value⟩

/-- The lines of a save file are those of the assignments. -/
theorem savedLines_eq (counterparts : Counterparts source target) :
    source.savedLines = (source.assignments target).map Assignment.line := by
  rw [Registry.savedLines_eq, Registry.assignments, List.map_filterMap, ← List.filterMap_eq_map']
  apply List.filterMap_congr
  intro saved member
  obtain ⟨assignment, isAssignment, -, name, value⟩ := counterparts.exists_assignment member
  rw [isAssignment, Option.map_some, Assignment.line, name, value]

theorem length_assignments (counterparts : Counterparts source target) :
    (source.assignments target).length = source.modified.length := by
  have lines := congrArg List.length counterparts.savedLines_eq
  rw [Registry.savedLines_eq, List.length_map, List.length_map] at lines
  exact lines.symm

theorem nodup (counterparts : Counterparts source target) :
    ((source.assignments target).map Assignment.target).Nodup := by
  rw [List.nodup_iff_pairwise_ne, List.pairwise_map, Registry.assignments, List.pairwise_filterMap]
  refine counterparts.sound.pairwise_modified.imp_of_mem
    fun member otherMember apart first isFirst second isSecond same => ?_
  obtain ⟨assignment, isAssignment, fit, name, -⟩ := counterparts.exists_assignment member
  obtain rfl := Option.some.inj (isAssignment.symm.trans isFirst)
  obtain ⟨other, isOther, otherFit, otherName, -⟩ := counterparts.exists_assignment otherMember
  obtain rfl := Option.some.inj (isOther.symm.trans isSecond)
  obtain ⟨serial, settingName⟩ := Target.kept.inj same
  have space := Registry.eq_of_serial (Registry.mem_table.mp otherFit.present).1
    (Registry.mem_table.mp fit.present).1 serial
  refine apart (name.symm.trans (Eq.trans ?_ otherName))
  rw [Assignment.name, Assignment.name, space, settingName]

end Counterparts

end CommandConsole
