import CommandConsole.Proofs.Run.Assigning
import Mathlib.Data.List.Destutter

set_option autoImplicit false

namespace CommandConsole

open CommandConsole.Action

variable {κ : Type}

/-- What is assigned in the course of some operations. -/
def Console.assignments (conduct : Conduct κ) (bound : Nat) :
    List (Operation κ) → Console κ → List (Assignment κ)
  | [], _ => []
  | operation :: rest, console =>
    (operation.assigned? console.registry).toList ++
      assignments conduct bound rest ((act conduct bound operation).after console)

def Assignment.value? (serial : Nat) (name : String) (assignment : Assignment κ) : Option Value :=
  if assignment.space.serial = serial ∧ assignment.setting.name = name then some assignment.value
  else none

/-- The values that a setting is assigned in the course of some operations. -/
def Console.course (console : Console κ) (conduct : Conduct κ) (bound : Nat)
    (operations : List (Operation κ)) (serial : Nat) (name : String) : List Value :=
  (console.assignments conduct bound operations).filterMap (Assignment.value? serial name)

def callsFor (serial : Nat) (name : String) (trace : List (Event κ)) : List (Call κ) :=
  (calls trace).filter fun call => decide (call.space = serial ∧ call.entry = name)

theorem filterMap_toList {α β : Type} (pick : α → Option β) (item? : Option α) :
    item?.toList.filterMap pick = (item?.bind pick).toList := by
  cases item? with
  | none => rfl
  | some item =>
    rw [Option.toList_some, Option.bind_some]
    cases picked : pick item <;> simp [picked]

section Repeats

variable {α : Type} [DecidableEq α]

theorem destutter'_eq_cons (first : α) (rest : List α) :
    rest.destutter' (· ≠ ·) first = first :: (rest.destutter' (· ≠ ·) first).tail := by
  induction rest generalizing first with
  | nil => rfl
  | cons next rest ih =>
    by_cases same : first = next
    · have kept : ¬first ≠ next := fun differs => differs same
      rw [List.destutter'_cons_neg _ kept]
      exact ih first
    · rw [List.destutter'_cons_pos _ same, List.tail_cons]

theorem tail_destutter_cons (first next : α) (rest : List α) :
    ((first :: next :: rest).destutter (· ≠ ·)).tail =
      (if next = first then [] else [next]) ++ ((next :: rest).destutter (· ≠ ·)).tail := by
  rw [List.destutter_cons_cons, List.destutter_cons']
  by_cases same : first = next
  · subst same
    simp
  · have apart : next ≠ first := fun equal => same equal.symm
    rw [if_pos same, if_neg apart, List.tail_cons, destutter'_eq_cons]
    rfl

end Repeats

section Step

variable {registry : Registry κ} {space : Namespace κ} {setting : Setting κ} {serial : Nat}
  {assignment : Assignment κ}

/-- An assignment to a setting that a namespace of a registry has. -/
structure Assignment.IsWithin (registry : Registry κ) (serial : Nat)
    (assignment : Assignment κ) : Prop where
  present : assignment.space ∈ registry.spaces
  serial_eq : assignment.space.serial = serial
  found : assignment.space.find? assignment.setting.name = some (.setting assignment.setting)

theorem Statement.Assigns.isWithin {statement : Statement}
    (assigns : statement.Assigns registry serial)
    (isAssigned : statement.assigned? registry = some assignment) :
    assignment.IsWithin registry serial := by
  unfold Statement.assigned? at isAssigned
  split at isAssigned
  · rename_i space setting stands
    obtain ⟨value, -, rfl⟩ := Option.map_eq_some_iff.mp isAssigned
    obtain ⟨present, found⟩ := Registry.lookup_ok (Registry.resolve_entry stands)
    obtain ⟨_, _, same, isSerial⟩ := assigns.2 _ stands
    obtain ⟨rfl, -⟩ := Resolution.entry.inj same
    exact ⟨(Registry.mem_table.mp present).1, isSerial, found⟩
  · cases isAssigned

theorem Target.Assigns.isWithin {target : Target} {value? : Setting κ → Option Value}
    (assigns : target.Assigns registry serial)
    (isAssigned : target.assigned? registry value? = some assignment) :
    assignment.IsWithin registry serial := by
  unfold Target.assigned? at isAssigned
  split at isAssigned
  · rename_i space setting pointed
    obtain ⟨value, -, rfl⟩ := Option.map_eq_some_iff.mp isAssigned
    obtain ⟨present, found⟩ := Registry.target_ok pointed
    exact ⟨present, assigns.serial_eq pointed, found⟩
  · cases isAssigned

/-- An assignment is to a setting of the namespace that it is aimed at. -/
theorem Operation.Assigns.isWithin {operation : Operation κ}
    (assigns : operation.Assigns registry serial)
    (isAssigned : operation.assigned? registry = some assignment) :
    assignment.IsWithin registry serial := by
  cases operation with
  | execute line => exact Statement.Assigns.isWithin assigns isAssigned
  | executeStatement statement => exact Statement.Assigns.isWithin assigns isAssigned
  | set target payload => exact Target.Assigns.isWithin assigns isAssigned
  | setTyped kind target payload => exact Target.Assigns.isWithin assigns isAssigned
  | reset target => exact Target.Assigns.isWithin assigns isAssigned
  | toggle target => exact Target.Assigns.isWithin assigns isAssigned
  | _ => exact assigns.elim

theorem Registry.mem_table_update {change : Namespace κ → Namespace κ}
    (keeps : Namespace.KeepsShape change) (present : space ∈ registry.table) :
    change space ∈ (registry.update space.serial change).table := by
  obtain ⟨member, registered⟩ := Registry.mem_table.mp present
  have still : (change space).isRegistered = true := (keeps.isRegistered space).trans registered
  exact Registry.mem_table.mpr ⟨Registry.mem_update_self keeps member, still⟩

theorem Registry.mem_table_follow (present : space ∈ registry.table)
    (change? : Option (Assignment κ)) :
    ∃ owner ∈ (registry.follow change?).table, owner.serial = space.serial ∧
      owner.handler = space.handler := by
  cases change? with
  | none => exact ⟨space, present, rfl, rfl⟩
  | some change =>
    rw [follow, table_update (Namespace.keepsShape_assign _ _)]
    refine ⟨_, List.mem_map_of_mem present, ?_, ?_⟩ <;> split <;> rfl

theorem Registry.shapes_follow (registry : Registry κ) (change? : Option (Assignment κ)) :
    (registry.follow change?).spaces.map Namespace.shape =
      registry.spaces.map Namespace.shape := by
  cases change? with
  | none => rfl
  | some change => exact shapes_update (Namespace.keepsShape_assign _ _) _

theorem Namespace.mem_assign_other {name : String} {value : Value}
    (inside : Entry.setting setting ∈ space.entries) (other : setting.name ≠ name) :
    Entry.setting setting ∈ (space.assign name value).entries := by
  refine List.mem_map.mpr ⟨.setting setting, inside, ?_⟩
  have apart : ¬((Entry.setting setting).name == name) = true := by simpa [Entry.name] using other
  rw [if_neg apart]

/-- The calls for one setting among those that are told of a change of another. -/
theorem filter_heeding (space : Namespace κ) (setting : Setting κ) (value : Value) (name : String) :
    (space.heeding setting value).filter
        (fun call => decide (call.space = space.serial ∧ call.entry = name)) =
      if setting.name = name then space.heeding setting value else [] := by
  unfold Namespace.heeding
  split
  · by_cases same : setting.name = name <;> simp [same]
  · simp

variable {before after : Console κ} {operation : Operation κ} {reply : Reply κ}

/-- A registered namespace has a setting with a default and a current value, of which somebody is to
be told. -/
def Console.Shows (console : Console κ) (serial : Nat) (name : String) (default current : Value)
    (told : Value → List (Call κ)) : Prop :=
  ∃ space ∈ console.registry.table, space.serial = serial ∧ ∃ setting,
    Entry.setting setting ∈ space.entries ∧ setting.name = name ∧ setting.default = default ∧
      setting.current = current ∧ space.heeding setting = told

/-- What becomes of a setting that is given a value, or none. -/
structure Becomes (before after : Console κ) (serial : Nat) (name : String)
    (default current : Value) (told : Value → List (Call κ)) (value? : Option Value) : Prop where
  shows : after.Shows serial name default (value?.getD current) told
  calls : callsFor serial name after.trace = callsFor serial name before.trace ++
    (value?.toList.filter (· ≠ current)).flatMap told

namespace Follows

/-- Where nothing has changed, a setting goes on with the value that it holds. -/
theorem becomes_none (follows : Follows none before after) {name : String}
    {default current : Value} {told : Value → List (Call κ)}
    (shows : before.Shows serial name default current told) {value? : Option Value}
    (still : ∀ value ∈ value?, value = current) :
    Becomes before after serial name default current told value? := by
  have registry : after.registry = before.registry := follows.registry
  have called : CommandConsole.calls after.trace = CommandConsole.calls before.trace :=
    follows.calls.trans (List.append_nil _)
  constructor
  · have held : value?.getD current = current := by
      cases value? with
      | none => rfl
      | some value => exact still value rfl
    rw [held, Console.Shows, registry]
    exact shows
  · have silent : value?.toList.filter (· ≠ current) = [] := by
      cases value? with
      | none => rfl
      | some value => simp [still value rfl]
    rw [silent, callsFor, called, List.flatMap_nil, List.append_nil, callsFor]

/-- A setting that is given another value holds it, and its callback has heard of it. -/
theorem becomes_own {value : Value} (follows : Follows (some ⟨space, setting, value⟩) before after)
    (present : space ∈ before.registry.table)
    (found : space.find? setting.name = some (.setting setting))
    (differs : value ≠ setting.current) :
    Becomes before after space.serial setting.name setting.default setting.current
      (space.heeding setting) (some value) := by
  constructor
  · rw [Console.Shows, follows.registry]
    exact ⟨space.assign setting.name value,
      Registry.mem_table_update (Namespace.keepsShape_assign _ _) present, rfl, _,
      Namespace.mem_assign found value, rfl, rfl, rfl, rfl⟩
  · have heeded := filter_heeding space setting value setting.name
    rw [if_pos rfl] at heeded
    rw [callsFor, follows.calls, List.filter_append, heard, heeded, ← callsFor]
    simp [differs]

/-- A setting goes on as it is where another one is given a value. -/
theorem becomes_other {other : Setting κ} {value : Value}
    (follows : Follows (some ⟨space, other, value⟩) before after)
    (present : space ∈ before.registry.table) (inside : .setting setting ∈ space.entries)
    (apart : other.name ≠ setting.name) :
    Becomes before after space.serial setting.name setting.default setting.current
      (space.heeding setting) none := by
  constructor
  · rw [Console.Shows, follows.registry]
    exact ⟨space.assign other.name value,
      Registry.mem_table_update (Namespace.keepsShape_assign _ _) present, rfl, setting,
      Namespace.mem_assign_other inside apart.symm, rfl, rfl, rfl, rfl⟩
  · have unheeded := filter_heeding space other value setting.name
    rw [if_neg apart] at unheeded
    rw [callsFor, follows.calls, List.filter_append, heard, unheeded, List.append_nil, ← callsFor]
    simp

end Follows

theorem Operation.Does.becomes (does : operation.Does before reply after)
    (sound : before.registry.Sound) {name : String} {default current : Value}
    {told : Value → List (Call κ)} (shows : before.Shows serial name default current told)
    (assigns : operation.Assigns before.registry serial) :
    Becomes before after serial name default current told
      ((operation.assigned? before.registry).bind (Assignment.value? serial name)) := by
  have follows := does.follows
  rw [Operation.change?] at follows
  cases isAssigned : operation.assigned? before.registry with
  | none =>
    rw [isAssigned] at follows
    exact follows.becomes_none shows fun value none => by cases none
  | some assignment =>
    have isShown := shows
    obtain ⟨space, present, rfl, setting, inside, rfl, rfl, rfl, rfl⟩ := shows
    have member := (Registry.mem_table.mp present).1
    obtain ⟨isMember, isSerial, found⟩ := assigns.isWithin isAssigned
    obtain ⟨owner, other, value⟩ := assignment
    have same : owner = space := Registry.eq_of_serial member isMember isSerial
    subst same
    rw [isAssigned, Option.filter_some] at follows
    rw [Option.bind_some, Assignment.value?]
    -- Names in a namespace are unique: the assignment is to this very setting or to another one.
    by_cases isName : other.name = setting.name
    · have isSetting : Entry.setting other = .setting setting :=
        (sound.spaces owner member).eq_of_name inside (Namespace.find?_ok found).1 isName
      cases isSetting
      rw [if_pos ⟨rfl, rfl⟩]
      by_cases same : value = setting.current
      · have unchanged : (⟨owner, setting, value⟩ : Assignment κ).isChange = false := by
          simp [Assignment.isChange, same]
        rw [unchanged] at follows
        exact follows.becomes_none isShown fun given isGiven =>
          (Option.some.inj isGiven).symm.trans same
      · have changed : (⟨owner, setting, value⟩ : Assignment κ).isChange = true := by
          simpa [Assignment.isChange] using same
        rw [changed, if_pos rfl] at follows
        exact follows.becomes_own present found same
    · have apart : ¬(owner.serial = owner.serial ∧ other.name = setting.name) :=
        fun both => isName both.2
      rw [if_neg apart]
      cases change : (⟨owner, other, value⟩ : Assignment κ).isChange with
      | false =>
        rw [change] at follows
        exact follows.becomes_none isShown fun value none => by cases none
      | true =>
        rw [change, if_pos rfl] at follows
        exact follows.becomes_other present inside isName

end Step

section Run

variable {conduct : Conduct κ} {bound serial : Nat} {handler : Handler} {console : Console κ}

/-- A console whose host is about to assign to settings of an attached namespace. -/
structure Console.IsReady (console : Console κ) (serial : Nat) (handler : Handler)
    (operations : List (Operation κ)) : Prop where
  reachable : console.Reachable
  attached : ∃ space ∈ console.registry.table, space.serial = serial ∧
    space.handler = some handler
  assigns : ∀ operation ∈ operations, operation.Assigns console.registry serial

variable (recorders : ∀ before (call : Call κ), call.space = serial →
  (∃ value, call.occasion = .change value) → (Callback.script (conduct before) call).IsRecorder)

include recorders

omit recorders in
theorem Console.actAll_cons (console : Console κ) (conduct : Conduct κ) (bound : Nat)
    (operation : Operation κ) (rest : List (Operation κ)) :
    console.actAll conduct bound (operation :: rest) =
      ((act conduct bound operation).after console).actAll conduct bound rest := rfl

omit recorders in
theorem Console.course_cons (console : Console κ) (conduct : Conduct κ) (bound : Nat)
    (operation : Operation κ) (rest : List (Operation κ)) (serial : Nat) (name : String) :
    console.course conduct bound (operation :: rest) serial name =
      ((operation.assigned? console.registry).bind (Assignment.value? serial name)).toList ++
        ((act conduct bound operation).after console).course conduct bound rest serial name := by
  rw [course, assignments, List.filterMap_append, filterMap_toList, course]

/-- An operation does what it is to do, and the next ones can follow. -/
theorem Console.IsReady.act {operation : Operation κ} {rest : List (Operation κ)}
    (ready : console.IsReady serial handler (operation :: rest)) :
    (∃ reply, (act conduct (bound + 1) operation).result console = .ok reply ∧
      operation.Does console reply ((act conduct (bound + 1) operation).after console)) ∧
    ((act conduct (bound + 1) operation).after console).IsReady serial handler rest := by
  obtain ⟨space, present, isSerial, handled⟩ := ready.attached
  have sound := ready.reachable.sound
  have assigns := ready.assigns operation List.mem_cons_self
  have member := (Registry.mem_table.mp present).1
  have attached : ∀ other ∈ console.registry.spaces, other.serial = serial →
      other.handler = some handler := by
    intro other isOther same
    rw [Registry.eq_of_serial member isOther (same.trans isSerial.symm)]
    exact handled
  have records : ∀ call : Call κ, call.space = serial → (∃ value, call.occasion = .change value) →
      Records (runWithin conduct (bound + 1)) call := fun call isSpace isChange =>
    records_runWithin (fun before => recorders before call isSpace isChange) bound
  have done : Ends (Console.act conduct (bound + 1) operation) console fun result after =>
      ∃ reply, result = .ok reply ∧ operation.Does console reply after :=
    does_of_assigns attached records sound assigns (bound + 1) none
  obtain ⟨reply, result, does⟩ := (ends_iff _).mp done
  have registry := does.follows.registry
  refine ⟨⟨reply, result, does⟩, .act conduct (bound + 1) operation ready.reachable, ?_, ?_⟩
  · obtain ⟨owner, isOwner, same, stillHandled⟩ :=
      Registry.mem_table_follow present (operation.change? console.registry)
    rw [registry]
    exact ⟨owner, isOwner, same.trans isSerial, stillHandled.trans handled⟩
  · intro other member
    apply (ready.assigns other (List.mem_cons_of_mem _ member)).of_shapes
    rw [registry]
    exact Registry.shapes_follow _ _

/-- The operations that are left can follow those that are done. -/
theorem Console.IsReady.actAll {rest : List (Operation κ)} (operations : List (Operation κ))
    (ready : console.IsReady serial handler (operations ++ rest)) :
    (console.actAll conduct (bound + 1) operations).IsReady serial handler rest := by
  induction operations generalizing console with
  | nil => exact ready
  | cons operation others ih => exact ih (ready.act recorders).2

/-- The history of a setting in a run: what it holds in the end is what it has been assigned last,
and what has been told of it is no repetition. -/
theorem Console.IsReady.history (operations : List (Operation κ)) {name : String}
    {default current : Value} {told : Value → List (Call κ)}
    (ready : console.IsReady serial handler operations)
    (shows : console.Shows serial name default current told) :
    (console.actAll conduct (bound + 1) operations).Shows serial name default
        ((console.course conduct (bound + 1) operations serial name).getLastD current) told ∧
      callsFor serial name (console.actAll conduct (bound + 1) operations).trace =
        callsFor serial name console.trace ++
          ((current :: console.course conduct (bound + 1) operations serial name).destutter
            (· ≠ ·)).tail.flatMap told := by
  induction operations generalizing console current with
  | nil => exact ⟨shows, (List.append_nil _).symm⟩
  | cons operation rest ih =>
    obtain ⟨⟨reply, -, does⟩, next⟩ := ready.act recorders
    have becomes := does.becomes ready.reachable.sound shows
      (ready.assigns operation List.mem_cons_self)
    rw [Console.course_cons, Console.actAll_cons]
    generalize (operation.assigned? console.registry).bind (Assignment.value? serial name) = value?
      at becomes ⊢
    obtain ⟨stillShows, called⟩ := ih next becomes.shows
    rw [becomes.calls] at called
    cases value? with
    | none => exact ⟨stillShows, by simpa using called⟩
    | some value =>
      rw [Option.toList_some, List.singleton_append, List.getLastD_cons, tail_destutter_cons,
        List.flatMap_append, ← List.append_assoc]
      refine ⟨stillShows, called.trans ?_⟩
      by_cases repeats : value = current <;> simp [repeats]

end Run

/-- In a run that only assigns to an attached namespace, by whatever operations, while its callbacks
only record: the callback of a setting hears the values that the setting holds and is then assigned,
each that differs from the one before it. In the end the setting holds the last of these values. An
operation that sets or resets answers whether it makes such a change. -/
theorem history_without_repeats {console : Console κ} (reachable : console.Reachable)
    {space : Namespace κ} (present : space ∈ console.registry.table) {handler : Handler}
    (attached : space.handler = some handler) {setting : Setting κ}
    (inside : .setting setting ∈ space.entries) {conduct : Conduct κ}
    (recorders : ∀ before (call : Call κ), call.space = space.serial →
      (∃ value, call.occasion = .change value) → (Callback.script (conduct before) call).IsRecorder)
    (bound : Nat) (operations : List (Operation κ))
    (assigns : ∀ operation ∈ operations, operation.Assigns console.registry space.serial) :
    callsFor space.serial setting.name (console.actAll conduct (bound + 1) operations).trace =
      callsFor space.serial setting.name console.trace ++
        ((setting.current :: console.course conduct (bound + 1) operations space.serial
          setting.name).destutter (· ≠ ·)).tail.flatMap (space.heeding setting) ∧
    (∃ owner ∈ (console.actAll conduct (bound + 1) operations).registry.table, ∃ latter,
      owner.serial = space.serial ∧ .setting latter ∈ owner.entries ∧
      latter.name = setting.name ∧
      (setting.current :: console.course conduct (bound + 1) operations space.serial
        setting.name).getLast? = some latter.current ∧
      (latter.isModified = true ↔ latter.current ≠ setting.default)) ∧
    ∀ front operation rest, operations = front ++ operation :: rest → ∃ reply,
      (Console.act conduct (bound + 1) operation).result
          (console.actAll conduct (bound + 1) front) = .ok reply ∧
        operation.Does (console.actAll conduct (bound + 1) front) reply
          ((Console.act conduct (bound + 1) operation).after
            (console.actAll conduct (bound + 1) front)) := by
  have ready : console.IsReady space.serial handler operations :=
    ⟨reachable, ⟨space, present, rfl, attached⟩, assigns⟩
  have shows : console.Shows space.serial setting.name setting.default setting.current
      (space.heeding setting) := ⟨space, present, rfl, setting, inside, rfl, rfl, rfl, rfl⟩
  obtain ⟨⟨owner, isOwner, isSerial, latter, isLatter, name, default, current, -⟩, called⟩ :=
    ready.history recorders operations shows
  refine ⟨called, ⟨owner, isOwner, latter, isSerial, isLatter, name, ?_, ?_⟩, ?_⟩
  · rw [List.getLast?_cons, current, List.getLastD_eq_getLast?]
  · simp [Setting.isModified, default]
  · rintro front operation rest rfl
    exact ((ready.actAll recorders front).act recorders).1

def restless : Console Unit :=
  (Console.empty .standard .empty).actAll idle 1
    [.create ⟨.text "N", [],
        [⟨.text "v", .integer, .plain (.integer 7), some (.host ()), .null⟩,
          ⟨.text "b", .boolean, .plain .null, some (.host ()), .null⟩]⟩,
      .attach 0 (some (.label "h"))]

def stirring : List (Operation Unit) :=
  [.execute "N.v +05", .set (.token "v") (.plain (.integer 5)), .execute "N.v high",
    .toggle (.kept 0 "b"), .toggle (.token "v"), .reset (.token "N.v"),
    .executeStatement ⟨["v", "7"]⟩]

/-- Of five, five, seven and seven the callback hears two. -/
theorem restless_without_repeats : ∃ (space : Namespace Unit) (setting : Setting Unit),
    setting.current = .integer 7 ∧
    callsFor space.serial setting.name (restless.actAll idle 1 stirring).trace =
      [Value.integer 5, .integer 7].flatMap (space.heeding setting) := by
  have reachable : restless.Reachable :=
    (Console.Reachable.empty .standard .empty).actAll idle 1 _
  obtain ⟨space, setting, found, serial, name, attached, current⟩ : ∃ space setting,
      restless.registry.resolve "v" = .ok (.entry space (.setting setting)) ∧
        space.serial = 0 ∧ setting.name = "v" ∧ space.handler = some (.label "h") ∧
          setting.current = .integer 7 :=
    exists_setting_of_resolve (fun space setting => space.serial = 0 ∧ setting.name = "v" ∧
      space.handler = some (.label "h") ∧ setting.current = .integer 7) (by decide +kernel)
  obtain ⟨present, inside⟩ := Registry.lookup_ok (Registry.resolve_entry found)
  have recorders : ∀ before (call : Call Unit), call.space = space.serial →
      (∃ value, call.occasion = .change value) →
        (Callback.script (idle before) call).IsRecorder := by
    rintro before call - ⟨value, isChange⟩
    rw [Callback.script, isChange]
    cases call.callback <;> exact .done true
  have assigns : ∀ operation ∈ stirring, operation.Assigns restless.registry space.serial := by
    rw [serial]
    decide +kernel
  have heard := (history_without_repeats reachable present attached
    (Namespace.find?_ok inside).1 recorders 0 stirring assigns).1
  refine ⟨space, setting, current, heard.trans ?_⟩
  rw [serial, name, current]
  have before : callsFor 0 "v" restless.trace = [] := by decide +kernel
  have course : restless.course idle 1 stirring 0 "v" =
      [.integer 5, .integer 5, .integer 7, .integer 7] := by decide +kernel
  rw [before, course]
  rfl

end CommandConsole
