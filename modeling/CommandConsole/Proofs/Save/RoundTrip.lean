import CommandConsole.Proofs.Save.Counterpart

set_option autoImplicit false

namespace CommandConsole

open CommandConsole.Action

variable {κ : Type}

/-- What the save file of a registry makes of a console. A setting that is modified in the registry
takes its value and every other one keeps the value that it had; nothing is written, and there is
one change for each value that differs. So a console with nothing modified ends with the values of
the registry, and nothing happens to a console of that registry. -/
structure IsLoaded (source : Registry κ) (before after : Console κ) : Prop where
  given : ∀ saved ∈ source.modified,
    after.registry.get (.token (qualify saved.1.name saved.2.name)) = .ok saved.2.current
  kept : ∀ space ∈ before.registry.table, ∀ setting ∈ space.settings,
    (∀ saved ∈ source.modified,
      qualify saved.1.name saved.2.name ≠ qualify space.name setting.name) →
    after.registry.get (.token (qualify space.name setting.name)) = .ok setting.current
  fresh : (∀ space ∈ before.registry.table, ∀ setting ∈ space.settings,
      setting.isModified = false) →
    ∀ space ∈ source.table, ∀ setting ∈ space.settings,
      after.registry.get (.token (qualify space.name setting.name)) = .ok setting.current
  own : before.registry = source →
    source.transfers before.registry = [] ∧ after.registry = before.registry
  writings : writings after.trace = writings before.trace
  changes : changes after.trace =
    changes before.trace ++ (source.transfers before.registry).map Assignment.change
  notices : notices after.trace =
    notices before.trace ++ (source.transfers before.registry).filterMap Assignment.notice?

/-- A dotted name points at a setting that is known by its serial number. -/
theorem Registry.Persists.get_token {former latter : Registry κ}
    (persists : former.Persists latter) (sound : latter.Sound) {space : Namespace κ}
    (present : space ∈ former.table) {setting : Setting κ}
    (member : Entry.setting setting ∈ space.entries) :
    latter.get (.token (qualify space.name setting.name)) =
      latter.get (.kept space.serial setting.name) := by
  obtain ⟨inside, registered⟩ := mem_table.mp present
  obtain ⟨other, isOther, shape, -⟩ := persists space inside
  obtain ⟨found, isFound, named, -⟩ := Namespace.exists_setting_of_shape shape member
  have name : other.name = space.name := congrArg (·.name) shape
  have serial : other.serial = space.serial := congrArg (·.serial) shape
  have still : other ∈ latter.table :=
    mem_table.mpr ⟨isOther, (congrArg (·.isRegistered) shape).trans registered⟩
  rw [← name, ← serial, ← named, sound.get_token still isFound, sound.get_kept isOther isFound]

namespace Counterparts

variable {source : Registry κ} {before after : Console κ}

theorem given (counterparts : Counterparts source before.registry)
    (receives : Receives (source.assignments before.registry) before after)
    {saved : Namespace κ × Setting κ} (member : saved ∈ source.modified) :
    after.registry.get (.token (qualify saved.1.name saved.2.name)) = .ok saved.2.current := by
  obtain ⟨assignment, isAssignment, fit, name, value⟩ := counterparts.exists_assignment member
  rw [← name, ← value, Assignment.name,
    receives.persists.get_token receives.sound fit.present fit.member]
  exact receives.given assignment (List.mem_filterMap.mpr ⟨saved, member, isAssignment⟩)

theorem kept (counterparts : Counterparts source before.registry)
    (receives : Receives (source.assignments before.registry) before after)
    {space : Namespace κ} (present : space ∈ before.registry.table) {setting : Setting κ}
    (member : Entry.setting setting ∈ space.entries)
    (unsaved : ∀ saved ∈ source.modified,
      qualify saved.1.name saved.2.name ≠ qualify space.name setting.name) :
    after.registry.get (.token (qualify space.name setting.name)) = .ok setting.current := by
  have inside := (Registry.mem_table.mp present).1
  rw [receives.persists.get_token receives.sound present member, receives.others]
  · exact counterparts.targetSound.get_kept inside member
  · intro assigned
    obtain ⟨assignment, isAssignment, same⟩ := List.mem_map.mp assigned
    obtain ⟨fit, saved, isSaved, name, -⟩ := counterparts.mem_assignments isAssignment
    obtain ⟨serial, settingName⟩ := Target.kept.inj same
    have isSpace := Registry.eq_of_serial inside (Registry.mem_table.mp fit.present).1 serial
    refine unsaved saved isSaved (name.symm.trans ?_)
    rw [Assignment.name, isSpace, settingName]

/-- A setting is saved under its own name only. -/
theorem unsaved (counterparts : Counterparts source before.registry) {space : Namespace κ}
    (present : space ∈ source.table) {setting : Setting κ}
    (member : Entry.setting setting ∈ space.entries) (unmodified : setting.isModified = false)
    {saved : Namespace κ × Setting κ} (isSaved : saved ∈ source.modified) :
    qualify saved.1.name saved.2.name ≠ qualify space.name setting.name := by
  intro same
  obtain ⟨savedPresent, savedMember, isModified⟩ := Registry.mem_modified.mp isSaved
  have first := counterparts.sound.setting_qualify savedPresent savedMember
  rw [same, counterparts.sound.setting_qualify present member] at first
  obtain ⟨-, isSetting⟩ := Prod.mk.inj (Except.ok.inj first)
  rw [← isSetting, unmodified] at isModified
  cases isModified

theorem fresh (counterparts : Counterparts source before.registry)
    (receives : Receives (source.assignments before.registry) before after)
    (pristine : ∀ space ∈ before.registry.table, ∀ setting ∈ space.settings,
      setting.isModified = false) {space : Namespace κ} (present : space ∈ source.table)
    {setting : Setting κ} (member : Entry.setting setting ∈ space.entries) :
    after.registry.get (.token (qualify space.name setting.name)) = .ok setting.current := by
  by_cases isModified : setting.isModified = true
  · have isSaved : (space, setting) ∈ source.modified :=
      Registry.mem_modified.mpr ⟨present, member, isModified⟩
    have transferred := counterparts.given receives isSaved
    exact transferred
  · rw [Bool.not_eq_true] at isModified
    obtain ⟨owner, isOwner, found, isFound, name, settingName, -, default⟩ :=
      Registry.exists_counterpart counterparts.alike present member
    have unmodified := pristine owner isOwner found (Registry.mem_settings.mpr isFound)
    have current : setting.current = setting.default := by
      simpa [Setting.isModified] using isModified
    have foundCurrent : found.current = found.default := by
      simpa [Setting.isModified] using unmodified
    rw [current, ← default, ← foundCurrent, ← name, ← settingName]
    apply counterparts.kept receives isOwner isFound
    intro saved isSaved
    rw [name, settingName]
    exact counterparts.unsaved present member isModified isSaved

/-- A registry has nothing to transfer to itself. -/
theorem own (counterparts : Counterparts source source) : source.transfers source = [] := by
  apply List.filter_eq_nil_iff.mpr
  intro assignment member
  obtain ⟨saved, isSaved, isAssignment⟩ := List.mem_filterMap.mp member
  obtain ⟨present, inside, -⟩ := Registry.mem_modified.mp isSaved
  rw [Registry.assignment?, counterparts.sound.setting_qualify present inside] at isAssignment
  obtain rfl := Option.some.inj isAssignment
  simp [Assignment.isChange]

theorem lines_dumps {target : Registry κ} (counterparts : Counterparts source target) :
    Text.lines source.dumps = (source.assignments target).map Assignment.line ++ [""] := by
  rw [Registry.dumps, counterparts.savedLines_eq]
  apply Text.lines_join
  intro text member
  obtain ⟨assignment, isAssignment, rfl⟩ := List.mem_map.mp member
  exact lineFeed_notMem_savedLine (counterparts.mem_assignments isAssignment).1.plain _

theorem isLoaded (counterparts : Counterparts source before.registry)
    (receives : Receives (source.assignments before.registry) before after) :
    IsLoaded source before after where
  given := fun saved member => counterparts.given receives member
  kept := fun space present setting member unsaved =>
    counterparts.kept receives present (Registry.mem_settings.mp member) unsaved
  fresh := fun pristine space present setting member =>
    counterparts.fresh receives pristine present (Registry.mem_settings.mp member)
  own := by
    intro same
    have none : source.transfers before.registry = [] := by
      rw [same] at counterparts ⊢
      exact counterparts.own
    exact ⟨none, receives.idle none⟩
  writings := receives.writings
  changes := receives.changes
  notices := receives.notices

/-- Loading a save file, where the callbacks of changes only record. -/
theorem ends_loads {target : Console κ} (counterparts : Counterparts source target.registry)
    {conduct : Conduct κ}
    (recorders : ∀ space ∈ target.registry.table, ∀ before (call : Call κ) value,
      call.space = space.serial → call.occasion = .change value →
        space.callbackNamed? call.entry = some call.callback →
          (Callback.script (conduct before) call).IsRecorder)
    (bound : Nat) :
    Ends (Console.act conduct (bound + 1) (.loads source.dumps)) target fun result after =>
      result = .ok (.count source.modified.length) ∧ IsLoaded source target after := by
  have asked : target.registry.Persists
      (target.tell (.asked none (.loads source.dumps))).registry := .refl _
  simp only [Console.act, perform, answering, carryOut, loads, counterparts.lines_dumps,
    ends_bind, ends_record, ends_replying, ends_registry, ends_pure]
  refine (ends_executeLines_assignments asked counterparts.targetSound
    (fun assignment member => (counterparts.mem_assignments member).1) counterparts.nodup
    (fun assignment member => ?_) fun assignment member handler callback answers => ?_).mono
      fun result after ended => ?_
  · have fit := (counterparts.mem_assignments member).1
    exact counterparts.targetSound.get_kept (Registry.mem_table.mp fit.present).1 fit.member
  · have fit := (counterparts.mem_assignments member).1
    have named := (counterparts.targetSound.of_table fit.present).callbackNamed?_name fit.member
    exact records_runWithin (fun before => recorders _ fit.present before _ _ rfl rfl
      (named.trans answers)) bound
  · obtain ⟨rfl, receives⟩ := ended
    refine ⟨by rw [counterparts.length_assignments], counterparts.isLoaded ?_⟩
    exact receives.told ((Tells.refl target).tell rfl) ((Tells.refl after).tell rfl)

end Counterparts

/-- Loading what a console has saved into a console with the same declarations, where the callbacks
of changes only record, gives the modified settings their values and changes nothing else. -/
theorem loads_dumps {source target : Console κ} (fromSource : source.Reachable)
    (fromTarget : target.Reachable)
    (alike : declarations source.trace = declarations target.trace)
    (plain : ∀ space ∈ source.registry.table, space.isPlain) (written : source.registry.isWritable)
    (conduct : Conduct κ)
    (recorders : ∀ space ∈ target.registry.table, ∀ before (call : Call κ) value,
      call.space = space.serial → call.occasion = .change value →
        space.callbackNamed? call.entry = some call.callback →
          (Callback.script (conduct before) call).IsRecorder)
    (bound : Nat) :
    ∃ text after, source.registry.dumps? = .ok text ∧
      Console.act conduct (bound + 1) (.loads text) target =
        .ok (.count source.registry.modified.length) after ∧
      IsLoaded source.registry target after := by
  have counterparts : Counterparts source.registry target.registry :=
    ⟨fromSource.sound, fromTarget.sound,
      fromSource.table.plans_eq (alike ▸ fromTarget.table), plain, written⟩
  obtain ⟨after, run, isLoaded⟩ := (counterparts.ends_loads recorders bound).exists_ok
  exact ⟨source.registry.dumps, after, if_pos written, run, isLoaded⟩

def signpost : Console Unit :=
  (Console.empty .standard .empty).actAll idle 1
    [.create ⟨.text "N", [], [⟨.text "motto", .text, .plain .null, some (.host ()), .null⟩,
      ⟨.text "level", .integer, .plain .null, none, .null⟩,
      ⟨.text "open", .boolean, .plain .null, none, .null⟩]⟩]

/-- It holds a text with blanks, quotes, a backslash and a line break, and an integer. -/
def signed : Console Unit :=
  signpost.actAll idle 1 [.set (.kept 0 "motto") (.plain (.text "so \"it\\\n goes\u2028")),
    .set (.kept 0 "level") (.plain (.integer (-5)))]

/-- It is attached and holds one of the values already. -/
def levelled : Console Unit :=
  signpost.actAll idle 1 [.attach 0 (some .console), .execute "level -5", .execute "open on"]

theorem levelled_loads : ∃ text after, signed.registry.dumps? = .ok text ∧
    Console.act idle 1 (.loads text) levelled = .ok (.count 2) after ∧
      changes after.trace = changes levelled.trace ++
        [(0, "motto", .text "so \"it\\\n goes\u2028")] := by
  have counted : signed.registry.modified.length = 2 := by decide +kernel
  have transferred : (signed.registry.transfers levelled.registry).map Assignment.change =
      [(0, "motto", .text "so \"it\\\n goes\u2028")] := by decide +kernel
  have alike : declarations signed.trace = declarations levelled.trace :=
    (declarations_of_suffix (signpost.suffix_actAll idle 1 _) (by decide +kernel)).trans
      (declarations_of_suffix (signpost.suffix_actAll idle 1 _) (by decide +kernel)).symm
  have reachable : signpost.Reachable := (Console.Reachable.empty .standard .empty).actAll idle 1 _
  have fromSigned : signed.Reachable := reachable.actAll idle 1 _
  have fromLevelled : levelled.Reachable := reachable.actAll idle 1 _
  obtain ⟨text, after, dumped, loaded, isLoaded⟩ := loads_dumps fromSigned fromLevelled alike
    (by decide +kernel) (by decide +kernel) idle (fun _ _ before call value _ told _ => by
      rw [Callback.script, told]
      cases call.callback <;> exact .done true) 0
  rw [counted] at loaded
  exact ⟨text, after, dumped, loaded, transferred ▸ isLoaded.changes⟩

end CommandConsole
