import CommandConsole.Proofs.Registry.Holding
import CommandConsole.Proofs.Save.Assignment

set_option autoImplicit false

namespace CommandConsole

open CommandConsole.Action

variable {κ : Type}

/-- What assignments have made of a console. -/
structure Receives (assignments : List (Assignment κ)) (before after : Console κ) : Prop where
  persists : before.registry.Persists after.registry
  sound : after.registry.Sound
  given : ∀ assignment ∈ assignments, after.registry.get assignment.target = .ok assignment.value
  others : ∀ serial name, Target.kept serial name ∉ assignments.map Assignment.target →
    after.registry.get (.kept serial name) = before.registry.get (.kept serial name)
  idle : assignments.filter Assignment.isChange = [] → after.registry = before.registry
  changes : changes after.trace =
    changes before.trace ++ (assignments.filter Assignment.isChange).map Assignment.change
  notices : notices after.trace =
    notices before.trace ++ (assignments.filter Assignment.isChange).filterMap Assignment.notice?
  writings : writings after.trace = writings before.trace

section Receiving

variable {before middle after : Console κ} {assignment : Assignment κ}

theorem Receives.nil (sound : before.registry.Sound) : Receives [] before before where
  persists := .refl _
  sound := sound
  given := fun _ member => absurd member List.not_mem_nil
  others := fun _ _ _ => rfl
  idle := fun _ => rfl
  changes := (List.append_nil _).symm
  notices := (List.append_nil _).symm
  writings := rfl

/-- Assignments to different settings do not disturb each other. -/
theorem Receives.cons {assignments : List (Assignment κ)}
    (first : Receives [assignment] before middle) (rest : Receives assignments middle after)
    (apart : assignment.target ∉ assignments.map Assignment.target) :
    Receives (assignment :: assignments) before after where
  persists := first.persists.trans rest.persists
  sound := rest.sound
  given := by
    intro other member
    rcases List.mem_cons.mp member with rfl | member
    · exact (rest.others _ _ apart).trans (first.given _ List.mem_cons_self)
    · exact rest.given other member
  others := by
    intro serial name untouched
    rw [List.map_cons, List.mem_cons, not_or] at untouched
    exact (rest.others serial name untouched.2).trans
      (first.others serial name (by simpa using untouched.1))
  idle := by
    intro none
    rw [← List.singleton_append, List.filter_append, List.append_eq_nil_iff] at none
    exact (rest.idle none.2).trans (first.idle none.1)
  changes := by
    rw [rest.changes, first.changes, List.append_assoc, ← List.map_append, ← List.filter_append]
    rfl
  notices := by
    rw [rest.notices, first.notices, List.append_assoc, ← List.filterMap_append,
      ← List.filter_append]
    rfl
  writings := rest.writings.trans first.writings

/-- An assignment says the same about a namespace of the same shape with the same handler. -/
theorem Receives.of_shape {space : Namespace κ} (shape : space.shape = assignment.space.shape)
    (handler : space.handler = assignment.space.handler)
    (receives : Receives [⟨space, assignment.setting, assignment.value⟩] before after) :
    Receives [assignment] before after := by
  have serial : space.serial = assignment.space.serial := congrArg (·.serial) shape
  have name : space.name = assignment.space.name := congrArg (·.name) shape
  generalize known : (⟨space, assignment.setting, assignment.value⟩ : Assignment κ) = other
    at receives
  have target : other.target = assignment.target := by simp [← known, Assignment.target, serial]
  have value : other.value = assignment.value := by simp [← known]
  have change : other.change = assignment.change := by simp [← known, Assignment.change, serial]
  have notice : other.notice? = assignment.notice? := by
    simp [← known, Assignment.notice?, Assignment.name, serial, name, handler]
  have differs : other.isChange = assignment.isChange := by simp [← known, Assignment.isChange]
  have filtered (either : Assignment κ) : [either].filter Assignment.isChange =
      if either.isChange then [either] else [] := by
    rw [List.filter_cons, List.filter_nil]
  have idle := receives.idle
  have changes := receives.changes
  have notices := receives.notices
  rw [filtered, differs] at idle changes notices
  refine ⟨receives.persists, receives.sound, ?_, fun serial name untouched => ?_, ?_, ?_, ?_,
    receives.writings⟩
  · intro only member
    rw [List.mem_singleton.mp member, ← target, ← value]
    exact receives.given other List.mem_cons_self
  · exact receives.others serial name (by simpa [target] using untouched)
  · intro none
    refine idle ?_
    rw [filtered] at none
    split at none
    · cases none
    · rename_i same
      rw [if_neg same]
  · rw [changes, filtered]
    split <;> simp [change]
  · rw [notices, filtered]
    split <;> simp [List.filterMap_cons, notice]

theorem Event.quiet_of_isRecord {event : Event κ} (record : event.isRecord = true) :
    event.change? = none ∧ event.notice? = none ∧ event.text? = none := by
  cases event <;> first | exact ⟨rfl, rfl, rfl⟩ | cases record

/-- What is only recorded does not matter, neither before nor afterwards. -/
theorem Receives.told {first last : Console κ} {assignments : List (Assignment κ)}
    (receives : Receives assignments before after) (earlier : Tells Event.isRecord first before)
    (later : Tells Event.isRecord after last) : Receives assignments first last := by
  have started := earlier.registry
  have ended := later.registry
  have same {α : Type} {pick : Event κ → Option α}
      (none : ∀ event : Event κ, event.isRecord = true → pick event = none) :
      chronicle pick before.trace = chronicle pick first.trace ∧
        chronicle pick last.trace = chronicle pick after.trace :=
    ⟨earlier.chronicle none, later.chronicle none⟩
  have changed := same fun event record => (Event.quiet_of_isRecord record).1
  have noticed := same fun event record => (Event.quiet_of_isRecord record).2.1
  have wrote := same fun event record => (Event.quiet_of_isRecord record).2.2
  refine ⟨?_, ?_, ?_, ?_, ?_, changed.2.trans (receives.changes.trans ?_),
    noticed.2.trans (receives.notices.trans ?_), wrote.2.trans (receives.writings.trans wrote.1)⟩
  · rw [ended, ← started]
    exact receives.persists
  · rw [ended]
    exact receives.sound
  · rw [ended]
    exact receives.given
  · rw [ended, ← started]
    exact receives.others
  · rw [ended, ← started]
    exact receives.idle
  · exact congrArg (· ++ _) changed.1
  · exact congrArg (· ++ _) noticed.1

/-- Tells the queue of a change, where there is no handler to tell. -/
def Assignment.queue (assignment : Assignment κ) (space : Namespace κ) : Namespace κ :=
  match assignment.space.handler with
  | some _ => space
  | none => (space.offer ⟨[assignment.name, assignment.value.token]⟩).2

theorem Assignment.keepsShape_queue (assignment : Assignment κ) :
    Namespace.KeepsShape assignment.queue := by
  intro space
  unfold queue
  split
  · rfl
  · exact Namespace.keepsShape_offer _ space

theorem Assignment.entries_queue (assignment : Assignment κ) (space : Namespace κ) :
    (assignment.queue space).entries = space.entries ∧
      (assignment.queue space).handler = space.handler := by
  simp only [queue, Namespace.offer]
  split
  · exact ⟨rfl, rfl⟩
  · split <;> exact ⟨rfl, rfl⟩

/-- One namespace changes: first a value, and then perhaps the queue. -/
theorem Console.registry_receiving (console : Console κ) (assignment : Assignment κ) :
    (console.receiving assignment).registry =
      (console.registry.update assignment.space.serial
        (·.assign assignment.setting.name assignment.value)).update assignment.space.serial
          assignment.queue := by
  obtain ⟨space, setting, value⟩ := assignment
  simp only [Console.receiving]
  cases handled : space.handler with
  | none =>
    have queue : (⟨space, setting, value⟩ : Assignment κ).queue = fun changed =>
        (changed.offer ⟨[qualify space.name setting.name, value.token]⟩).2 := by
      funext changed
      rw [Assignment.queue, handled]
      rfl
    rw [queue]
    rfl
  | some handler =>
    have queue : (⟨space, setting, value⟩ : Assignment κ).queue = fun changed => changed := by
      funext changed
      rw [Assignment.queue, handled]
    rw [Console.registry_notifying, queue, Registry.update_id]
    rfl

section Assigning

variable (sound : before.registry.Sound) (inside : assignment.space ∈ before.registry.spaces)
  (member : Entry.setting assignment.setting ∈ assignment.space.entries)

include sound inside member

theorem get_receiving (serial : Nat) (name : String) :
    (before.receiving assignment).registry.get (.kept serial name) =
      if serial = assignment.space.serial ∧ name = assignment.setting.name then
        .ok assignment.value
      else before.registry.get (.kept serial name) := by
  have found := (sound.spaces _ inside).find?_name member
  have keeps := assignment.keepsShape_queue
  have queued : KeepsEntries assignment.queue := ⟨keeps.serial, keeps.name, keeps.isRegistered,
    fun space => (assignment.entries_queue space).1⟩
  rw [before.registry_receiving, queued.get]
  exact Registry.get_assign inside found _ serial name

theorem receives_change (kind : assignment.value.kind = assignment.setting.kind)
    (isChange : assignment.isChange = true) :
    Receives [assignment] before (before.receiving assignment) := by
  have found := (sound.spaces _ inside).find?_name member
  have keeps := assignment.keepsShape_queue
  have only : [assignment].filter Assignment.isChange = [assignment] := by simp [isChange]
  refine ⟨?_, ?_, ?_, ?_, ?_, ?_, ?_, before.writings_receiving assignment⟩
  · rw [before.registry_receiving]
    exact (Registry.Persists.update _ _ (Namespace.keepsShape_assign _ _) fun _ => rfl).trans
      (.update _ _ keeps fun space => (assignment.entries_queue space).2)
  · rw [before.registry_receiving]
    exact (sound.assign inside found kind).update_of_entries keeps _ fun space =>
      (assignment.entries_queue space).1
  · intro other isOther
    rw [List.mem_singleton.mp isOther, Assignment.target, get_receiving sound inside member,
      if_pos ⟨rfl, rfl⟩]
  · intro serial name untouched
    rw [get_receiving sound inside member, if_neg]
    rintro ⟨rfl, rfl⟩
    exact untouched List.mem_cons_self
  · intro none
    rw [only] at none
    cases none
  · rw [only]
    exact before.changes_receiving assignment
  · rw [only, before.notices_receiving assignment, List.filterMap_cons, List.filterMap_nil]
    cases assignment.notice? <;> rfl

theorem receives_same (isSame : assignment.isChange = false) :
    Receives [assignment] before before := by
  have same : assignment.value = assignment.setting.current := by
    simpa [Assignment.isChange] using isSame
  have none : [assignment].filter Assignment.isChange = [] := by simp [isSame]
  refine ⟨.refl _, sound, ?_, fun _ _ _ => rfl, fun _ => rfl, ?_, ?_, rfl⟩
  · intro other isOther
    rw [List.mem_singleton.mp isOther, same]
    exact sound.get_kept inside member
  · rw [none]
    exact (List.append_nil _).symm
  · rw [none]
    exact (List.append_nil _).symm

theorem receives_receive (kind : assignment.value.kind = assignment.setting.kind) :
    Receives [assignment] before (before.receive assignment) := by
  rw [Console.receive]
  split
  · rename_i isChange
    exact receives_change sound inside member kind isChange
  · rename_i isSame
    exact receives_same sound inside member (eq_false_of_ne_true isSame)

end Assigning

end Receiving

section Lines

variable {run : Runner κ} {start before : Console κ}

/-- A saved line that is no comment is one statement. -/
theorem executeLines_savedLine {name : String} (plain : Text.isPlain name) (begun : name ≠ "")
    (uncommented : name.startsWith "#" = false) (value : Value) (rest : List String) :
    executeLines run (savedLine name value :: rest) = do
      let _ ← executeStatement run ⟨[name, value.token]⟩
      return (← executeLines run rest) + 1 := by
  have stripped := strip_savedLine plain begun value
  have parsed := parse_savedLine plain begun value
  have statement := (startsWith_savedLine begun value).trans uncommented
  have some : (savedLine name value).isEmpty = false := by
    simp [savedLine]
  simp only [executeLines, stripped, execute, parsed, statement, some, Bool.or_self,
    Bool.false_eq_true, if_false]

theorem executeLines_blank : executeLines run [""] = pure 0 := by
  have stripped : Text.strip "" = "" := rfl
  simp [executeLines, stripped]

/-- A setting is still what it was described as, until it is assigned to. -/
theorem Assignment.IsFor.exists_present {assignment : Assignment κ}
    (fit : assignment.IsFor start.registry)
    (persists : start.registry.Persists before.registry) (sound : before.registry.Sound)
    (untouched : before.registry.get assignment.target = .ok assignment.setting.current) :
    ∃ space ∈ before.registry.table, Entry.setting assignment.setting ∈ space.entries ∧
      space.shape = assignment.space.shape ∧ space.handler = assignment.space.handler := by
  obtain ⟨inside, registered⟩ := Registry.mem_table.mp fit.present
  obtain ⟨space, present, shape, handler⟩ := persists _ inside
  have serial : space.serial = assignment.space.serial := congrArg (·.serial) shape
  have table : space ∈ before.registry.table :=
    Registry.mem_table.mpr ⟨present, (congrArg (·.isRegistered) shape).trans registered⟩
  obtain ⟨other, member, pristine⟩ := Namespace.exists_entry_of_shape shape fit.member
  cases other with
  | command command => cases pristine
  | setting setting =>
    simp only [Entry.pristine, Entry.setting.injEq, Setting.mk.injEq] at pristine
    have current := sound.get_kept present member
    rw [serial, pristine.1] at current
    have same : setting = assignment.setting := by
      have holds : setting.current = assignment.setting.current :=
        Except.ok.inj (current.symm.trans untouched)
      obtain ⟨name, description, kind, default, -, onChange⟩ := pristine
      cases setting
      subst name description kind default holds onChange
      rfl
    exact ⟨space, table, same ▸ member, shape, handler⟩

/-- Executing the statement of an assignment. -/
theorem ends_executeStatement_fit {assignment : Assignment κ}
    (persists : start.registry.Persists before.registry) (sound : before.registry.Sound)
    (fit : assignment.IsFor start.registry)
    (untouched : before.registry.get assignment.target = .ok assignment.setting.current)
    (records : ∀ handler, ∀ callback ∈ assignment.setting.onChange,
      Records run ⟨callback, assignment.space.serial, assignment.setting.name, handler,
        .change assignment.value, false⟩) :
    Ends (executeStatement run ⟨[assignment.name, assignment.value.token]⟩) before
      fun result after => result = .ok true ∧ Receives [assignment] before after := by
  obtain ⟨space, present, member, shape, handler⟩ := fit.exists_present persists sound untouched
  have serial : space.serial = assignment.space.serial := congrArg (·.serial) shape
  have name : space.name = assignment.space.name := congrArg (·.name) shape
  rw [← serial] at records
  have ended := ends_executeStatement_assignment sound present member fit.kind fit.written records
  rw [name] at ended
  refine ended.mono fun result after kept => ⟨kept.1, ?_⟩
  refine (Receives.of_shape shape handler ?_).told (.refl before) kept.2
  exact receives_receive sound (Registry.mem_table.mp present).1 member fit.kind

/-- Executing the lines of assignments to different settings does all of them. -/
theorem ends_executeLines_assignments {assignments : List (Assignment κ)}
    (persists : start.registry.Persists before.registry) (sound : before.registry.Sound)
    (fit : ∀ assignment ∈ assignments, assignment.IsFor start.registry)
    (distinct : (assignments.map Assignment.target).Nodup)
    (untouched : ∀ assignment ∈ assignments,
      before.registry.get assignment.target = .ok assignment.setting.current)
    (records : ∀ assignment ∈ assignments, ∀ handler, ∀ callback ∈ assignment.setting.onChange,
      Records run ⟨callback, assignment.space.serial, assignment.setting.name, handler,
        .change assignment.value, false⟩) :
    Ends (executeLines run (assignments.map Assignment.line ++ [""])) before fun result after =>
      result = .ok assignments.length ∧ Receives assignments before after := by
  induction assignments generalizing before with
  | nil =>
    rw [List.map_nil, List.nil_append, executeLines_blank]
    exact ⟨rfl, .nil sound⟩
  | cons assignment rest ih =>
    rw [List.map_cons, List.nodup_cons] at distinct
    have isFit := fit assignment List.mem_cons_self
    rw [List.map_cons, List.cons_append, Assignment.line, executeLines_savedLine isFit.plain
      (qualify_ne_empty _ _) isFit.uncommented, ends_bind]
    have executed := ends_executeStatement_fit persists sound isFit (untouched _ List.mem_cons_self)
      (records _ List.mem_cons_self)
    apply executed.mono
    intro result middle ended
    have received := ended.2
    -- The first line assigns to another setting than any of the others.
    have still : ∀ other ∈ rest, middle.registry.get other.target = .ok other.setting.current := by
      intro other member
      have apart : other.target ∉ [assignment].map Assignment.target := by
        intro same
        rw [List.map_singleton, List.mem_singleton] at same
        exact distinct.1 (same ▸ List.mem_map_of_mem member)
      exact (received.others _ _ apart).trans (untouched other (List.mem_cons_of_mem _ member))
    rw [ended.1, ends_bind]
    apply (ih (persists.trans received.persists) received.sound
      (fun other member => fit other (List.mem_cons_of_mem _ member)) distinct.2 still
      fun other member => records other (List.mem_cons_of_mem _ member)).mono
    intro result after last
    rw [last.1]
    exact ⟨rfl, received.cons last.2 distinct.1⟩

end Lines

end CommandConsole
