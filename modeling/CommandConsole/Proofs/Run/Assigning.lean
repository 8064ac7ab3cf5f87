import CommandConsole.Proofs.Queue.Outlook
import CommandConsole.Proofs.Registry.Holding
import CommandConsole.Proofs.Run.Frame

set_option autoImplicit false

namespace CommandConsole

open CommandConsole.Action

variable {κ : Type}

section Assigned

def Payload.given? : Payload → Option Value
  | .value given => some given
  | payload => (Value.ofPayload payload).toOption

/-- What a statement assigns: the value of its one argument, if its name stands for a setting that
takes it. -/
def Statement.assigned? (registry : Registry κ) (statement : Statement) : Option (Assignment κ) :=
  match registry.resolve statement.name with
  | .ok (.entry space (.setting setting)) =>
    (statement.value? setting.kind).map fun value => ⟨space, setting, value⟩
  | _ => none

/-- What is assigned to the setting that a target points at: a value of its kind, if there is
one. -/
def Target.assigned? (registry : Registry κ) (target : Target)
    (value? : Setting κ → Option Value) : Option (Assignment κ) :=
  match registry.target target with
  | .ok (space, setting) =>
    ((value? setting).filter fun value => decide (value.kind = setting.kind)).map fun value =>
      ⟨space, setting, value⟩
  | .error _ => none

namespace Operation

/-- What an operation assigns, if it does: a typed value or a given one, the default of a setting,
or the truth that a setting does not hold. -/
def assigned? (registry : Registry κ) : Operation κ → Option (Assignment κ)
  | execute line => (Statement.parse line).assigned? registry
  | executeStatement statement => statement.assigned? registry
  | set target payload => target.assigned? registry fun _ => payload.given?
  | setTyped kind target payload => target.assigned? registry fun setting =>
      if setting.kind = kind then payload.given? else none
  | reset target => target.assigned? registry fun setting => some setting.default
  | toggle target => target.assigned? registry fun setting =>
      match setting.current with
      | .boolean truth => some (.boolean !truth)
      | _ => none
  | _ => none

def change? (registry : Registry κ) (operation : Operation κ) : Option (Assignment κ) :=
  (operation.assigned? registry).filter Assignment.isChange

end Operation

/-- A typed assignment: a name with arguments, which stands for a setting of a namespace unless it
stands for nothing. -/
def Statement.Assigns (registry : Registry κ) (serial : Nat) (statement : Statement) : Prop :=
  statement.arguments ≠ [] ∧ ∀ resolution, registry.resolve statement.name = .ok resolution →
    ∃ space setting, resolution = .entry space (.setting setting) ∧ space.serial = serial

/-- A target that points into a namespace unless it points at nothing. -/
def Target.Assigns (registry : Registry κ) (serial : Nat) : Target → Prop
  | token name => ∀ space entry, registry.lookup name = .ok (space, entry) → space.serial = serial
  | kept space _ => space = serial

/-- An assignment to settings of a namespace, which may fail. -/
def Operation.Assigns (registry : Registry κ) (serial : Nat) : Operation κ → Prop
  | execute line => (Statement.parse line).Assigns registry serial
  | executeStatement statement => statement.Assigns registry serial
  | set target _ | setTyped _ target _ | reset target | toggle target =>
      target.Assigns registry serial
  | _ => False

theorem Statement.assigns_iff {registry : Registry κ} {serial : Nat} {statement : Statement} :
    (statement.arguments ≠ [] ∧ (match registry.resolve statement.name with
      | .ok (.entry space (.setting _)) => decide (space.serial = serial)
      | .ok _ => false
      | .error _ => true) = true) ↔ statement.Assigns registry serial := by
  apply and_congr_right
  intro _
  cases registry.resolve statement.name with
  | error cause => simp
  | ok resolution =>
    cases resolution with
    | listing space => simp
    | entry space entry => cases entry <;> simp

instance Statement.decidableAssigns (registry : Registry κ) (serial : Nat)
    (statement : Statement) : Decidable (statement.Assigns registry serial) :=
  decidable_of_iff _ Statement.assigns_iff

theorem Target.assigns_token_iff {registry : Registry κ} {serial : Nat} {name : String} :
    (match registry.lookup name with
      | .ok (space, _) => decide (space.serial = serial)
      | .error _ => true) = true ↔ (Target.token name).Assigns registry serial := by
  rw [Target.Assigns]
  cases registry.lookup name <;> simp [Prod.ext_iff]

instance Target.decidableAssigns (registry : Registry κ) (serial : Nat) (target : Target) :
    Decidable (target.Assigns registry serial) :=
  match target with
  | .token _ => decidable_of_iff _ Target.assigns_token_iff
  | .kept space _ => inferInstanceAs (Decidable (space = serial))

instance Operation.decidableAssigns (registry : Registry κ) (serial : Nat)
    (operation : Operation κ) :
    Decidable (operation.Assigns registry serial) :=
  match operation with
  | .execute line => inferInstanceAs (Decidable ((Statement.parse line).Assigns registry serial))
  | .executeStatement statement =>
    inferInstanceAs (Decidable (statement.Assigns registry serial))
  | .set target _ | .setTyped _ target _ | .reset target | .toggle target =>
    inferInstanceAs (Decidable (target.Assigns registry serial))
  | .executeArguments _ _ | .attach _ _ | .attachAnyway _ _ | .enqueue _ _ | .create _ | .teardown
  | .loads _ | .load _ | .save _ | .setSavePath _ | .describe _ | .resolve _ | .write _ | .note _
  | .look => inferInstanceAs (Decidable False)

/-- Whether a reply says that an operation has been carried out: a statement answers so, and other
operations answer without a fault. -/
def Operation.Succeeds (operation : Operation κ) (reply : Reply κ) : Prop :=
  match operation with
  | execute _ | executeStatement _ => reply = .flag true
  | _ => ∀ fault, reply ≠ .failed fault

/-- Whether an operation answers if it has changed anything. -/
def Operation.isAnswering : Operation κ → Bool
  | set _ _ | setTyped _ _ _ | reset _ => true
  | _ => false

def Registry.follow (registry : Registry κ) : Option (Assignment κ) → Registry κ
  | none => registry
  | some change =>
    registry.update change.space.serial (·.assign change.setting.name change.value)

def heard : Option (Assignment κ) → List (Call κ)
  | none => []
  | some change => change.space.heeding change.setting change.value

/-- A console after a change: the setting holds the value and its callback has been told. Without a
change nothing is assigned and nobody called. -/
structure Follows (change? : Option (Assignment κ)) (before after : Console κ) : Prop where
  registry : after.registry = before.registry.follow change?
  calls : calls after.trace = calls before.trace ++ heard change?

/-- What an operation has done and answered. -/
structure Operation.Does (operation : Operation κ) (before : Console κ) (reply : Reply κ)
    (after : Console κ) : Prop where
  follows : Follows (operation.change? before.registry) before after
  succeeds : operation.Succeeds reply ↔ (operation.assigned? before.registry).isSome
  answers : operation.isAnswering →
    (reply = .flag true ↔ (operation.change? before.registry).isSome)

end Assigned

section Shapes

variable {former latter : Registry κ} {serial : Nat}
  (same : latter.spaces.map Namespace.shape = former.spaces.map Namespace.shape)

include same

theorem Registry.resolve_listing_of_shapes {token : String} {space : Namespace κ}
    (stands : latter.resolve token = .ok (.listing space)) :
    ∃ other, former.resolve token = .ok (.listing other) := by
  have shaped := recast_shape.resolve former token
  rw [← map_shape_of_shapes same, recast_shape.resolve, stands] at shaped
  cases isFound : former.resolve token with
  | error cause => rw [isFound] at shaped; cases shaped
  | ok resolution =>
    rw [isFound] at shaped
    cases resolution with
    | listing other => exact ⟨other, rfl⟩
    | entry other inside => cases shaped

theorem Statement.Assigns.of_shapes {statement : Statement}
    (assigns : statement.Assigns former serial) : statement.Assigns latter serial := by
  refine ⟨assigns.1, fun resolution stands => ?_⟩
  cases resolution with
  | listing space =>
    obtain ⟨other, listed⟩ := Registry.resolve_listing_of_shapes same stands
    obtain ⟨_, _, isEntry, -⟩ := assigns.2 _ listed
    cases isEntry
  | entry space entry =>
    obtain ⟨other, inside, found, shape, pristine⟩ := Registry.resolve_of_shapes same.symm stands
    obtain ⟨owner, setting, isEntry, isSerial⟩ := assigns.2 _ found
    obtain ⟨rfl, rfl⟩ := Resolution.entry.inj isEntry
    cases entry with
    | command command => cases pristine
    | setting latter => exact ⟨space, latter, rfl, (congrArg (·.serial) shape).symm.trans isSerial⟩

theorem Target.Assigns.of_shapes {target : Target} (assigns : target.Assigns former serial) :
    target.Assigns latter serial := by
  cases target with
  | token name =>
    intro space entry found
    obtain ⟨other, inside, isFound, shape, -⟩ := Registry.lookup_of_shapes same.symm found
    exact (congrArg (·.serial) shape).symm.trans (assigns other inside isFound)
  | kept space name => exact assigns

theorem Operation.Assigns.of_shapes {operation : Operation κ}
    (assigns : operation.Assigns former serial) : operation.Assigns latter serial := by
  cases operation with
  | execute line => exact Statement.Assigns.of_shapes same assigns
  | executeStatement statement => exact Statement.Assigns.of_shapes same assigns
  | set target payload => exact Target.Assigns.of_shapes same assigns
  | setTyped kind target payload => exact Target.Assigns.of_shapes same assigns
  | reset target => exact Target.Assigns.of_shapes same assigns
  | toggle target => exact Target.Assigns.of_shapes same assigns
  | _ => exact assigns.elim

end Shapes

section Targets

/-- The assignment of a value to a setting of a namespace, if there is one of its kind. -/
def Namespace.fitting (space : Namespace κ) (setting : Setting κ) (value? : Option Value) :
    Option (Assignment κ) :=
  (value?.filter fun value => decide (value.kind = setting.kind)).map fun value =>
    ⟨space, setting, value⟩

variable {registry : Registry κ} {serial : Nat} {target : Target} {space : Namespace κ}
  {setting : Setting κ}

theorem Target.Assigns.serial_eq (assigns : target.Assigns registry serial)
    (pointed : registry.target target = .ok (space, setting)) : space.serial = serial := by
  cases target with
  | token name =>
    simp only [Registry.target, Registry.setting] at pointed
    split at pointed
    · rename_i found isFound
      cases pointed
      split at isFound
      · cases isFound
      · rename_i owner inside isInside
        cases isFound
        exact assigns _ _ isInside
      · cases isFound
    · cases pointed
  | kept owner name =>
    have isOwner : owner = serial := assigns
    simp only [Registry.target] at pointed
    split at pointed
    · cases pointed
    · rename_i found isFound
      split at pointed
      · cases pointed
        exact (Registry.mem_of_space? isFound).2.trans isOwner
      · cases pointed

theorem Target.assigned?_ok {value? : Setting κ → Option Value}
    (pointed : registry.target target = .ok (space, setting)) :
    target.assigned? registry value? = space.fitting setting (value? setting) := by
  rw [assigned?, pointed, Namespace.fitting]

theorem Target.assigned?_error {value? : Setting κ → Option Value} {fault : Fault}
    (failed : registry.target target = .error fault) : target.assigned? registry value? = none := by
  rw [assigned?, failed]

end Targets

namespace Follows

variable {before middle after : Console κ} {change? : Option (Assignment κ)}

theorem refl (console : Console κ) : Follows none console console :=
  ⟨rfl, (List.append_nil _).symm⟩

theorem told (follows : Follows change? before middle) (told : Tells Event.isTalk middle after) :
    Follows change? before after :=
  ⟨told.registry.trans follows.registry, (told.chronicle Event.call?_of_isTalk).trans follows.calls⟩

theorem after_told (told : Tells Event.isTalk before middle)
    (follows : Follows change? middle after) : Follows change? before after := by
  have called : CommandConsole.calls middle.trace = CommandConsole.calls before.trace :=
    told.chronicle Event.call?_of_isTalk
  refine ⟨?_, ?_⟩
  · rw [follows.registry, told.registry]
  · rw [follows.calls, called]

/-- A setting holds what it has been assigned, whether or not that is a change. -/
theorem get {space : Namespace κ} {setting : Setting κ} {value : Value}
    (follows : Follows ((some ⟨space, setting, value⟩).filter Assignment.isChange) before after)
    (sound : before.registry.Sound) (present : space ∈ before.registry.spaces)
    (found : space.find? setting.name = some (.setting setting)) :
    after.registry.get (.kept space.serial setting.name) = .ok value := by
  rw [follows.registry, Option.filter_some]
  by_cases same : value = setting.current
  · have unchanged : (⟨space, setting, value⟩ : Assignment κ).isChange = false := by
      simp [Assignment.isChange, same]
    rw [unchanged, same]
    exact sound.get_kept present (Namespace.find?_ok found).1
  · have changed : (⟨space, setting, value⟩ : Assignment κ).isChange = true := by
      simpa [Assignment.isChange] using same
    rw [changed]
    exact (Registry.get_assign present found value _ _).trans (if_pos ⟨rfl, rfl⟩)

end Follows

/-- Whether an action has answered for what it was to assign: if it is a change, or with a fault. -/
def AnswersFor (assigned? : Option (Assignment κ)) (result : Except Fault Bool) : Prop :=
  match assigned? with
  | some assignment => result = .ok assignment.isChange
  | none => ∃ fault, result = .error fault

/-- An action has answered for what it was to assign, and that has become of the console. -/
def Fulfils (assigned? : Option (Assignment κ)) (before : Console κ) (result : Except Fault Bool)
    (after : Console κ) : Prop :=
  AnswersFor assigned? result ∧ Follows (assigned?.filter Assignment.isChange) before after

theorem fulfils_error (console : Console κ) (fault : Fault) :
    Fulfils none console (.error fault) console :=
  ⟨⟨fault, rfl⟩, .refl console⟩

section Steps

variable {run : Runner κ} {before : Console κ} {serial : Nat} {handler : Handler}
  {space : Namespace κ} {setting : Setting κ} {target : Target}
  (attached : ∀ space ∈ before.registry.spaces, space.serial = serial →
    space.handler = some handler)
  (records : ∀ call : Call κ, call.space = serial → (∃ value, call.occasion = .change value) →
    Records run call)

include attached records

theorem ends_assign_follows (present : space ∈ before.registry.spaces)
    (isSerial : space.serial = serial) {value : Value} (kind : value.kind = setting.kind)
    (typed : Option String) :
    Ends (assign run space setting value typed) before
      (Fulfils (some ⟨space, setting, value⟩) before) := by
  by_cases same : value = setting.current
  · have unchanged : (⟨space, setting, value⟩ : Assignment κ).isChange = false := by
      simp [Assignment.isChange, same]
    apply (ends_assign_same kind same _).mpr
    rw [Fulfils, Option.filter_some, unchanged, AnswersFor, unchanged]
    exact ⟨rfl, .refl before⟩
  · have changed : (⟨space, setting, value⟩ : Assignment κ).isChange = true := by
      simpa [Assignment.isChange] using same
    have handled := attached space present isSerial
    apply (ends_assign_attached kind same handled fun callback _ =>
      records _ isSerial ⟨value, rfl⟩).mono
    rintro result after ⟨rfl, told⟩
    have touches := ((touches_assigning before space setting value).notifying handled setting
      value).tells told
    rw [Fulfils, Option.filter_some, changed]
    exact ⟨congrArg Except.ok changed.symm, touches.registry, touches.calls⟩

theorem ends_assignValue_follows (present : space ∈ before.registry.spaces)
    (isSerial : space.serial = serial) (value : Value) :
    Ends (assignValue run space setting value) before
      (Fulfils (space.fitting setting (some value)) before) := by
  rw [Namespace.fitting, Option.filter_some]
  by_cases kind : value.kind = setting.kind
  · rw [decide_eq_true kind]
    exact ends_assign_follows attached records present isSerial kind none
  · rw [decide_eq_false kind]
    exact (ends_assign_otherKind kind _).mpr (fulfils_error before _)

theorem ends_assignPayload_follows (present : space ∈ before.registry.spaces)
    (isSerial : space.serial = serial) (payload : Payload) :
    Ends (assignPayload run space setting payload) before
      (Fulfils (space.fitting setting payload.given?) before) := by
  cases payload with
  | value value => exact ends_assignValue_follows attached records present isSerial value
  | plain data =>
    simp only [assignPayload, Payload.given?]
    cases Value.ofPayload (.plain data) with
    | ok value => exact ends_assignValue_follows attached records present isSerial value
    | error cause => exact fulfils_error before _

omit attached records in
theorem ends_pointing_follows {value? : Setting κ → Option Value}
    {next : Namespace κ × Setting κ → Action κ Bool}
    (pointing : ∀ space setting, before.registry.target target = .ok (space, setting) →
      Ends (next (space, setting)) before
        (Fulfils (space.fitting setting (value? setting)) before)) :
    Ends (lift (before.registry.target target) >>= next) before
      (Fulfils (target.assigned? before.registry value?) before) := by
  rw [ends_bind, ends_lift]
  cases pointed : before.registry.target target with
  | error fault =>
    rw [Target.assigned?_error pointed]
    exact fulfils_error before fault
  | ok found =>
    rw [Target.assigned?_ok pointed]
    exact pointing found.1 found.2 pointed

theorem ends_setValue_follows (assigns : target.Assigns before.registry serial)
    (payload : Payload) :
    Ends (setValue run target payload) before
      (Fulfils ((Operation.set target payload).assigned? before.registry) before) := by
  rw [setValue, ends_bind, ends_registry]
  apply ends_pointing_follows
  intro space setting pointed
  have present := (Registry.target_ok pointed).1
  exact ends_assignPayload_follows attached records present (assigns.serial_eq pointed) payload

omit attached records in
/-- A setting of a wanted kind is pointed at first and then asked for its kind. -/
theorem ends_typed {α : Type} {kind : Kind} {next : Namespace κ × Setting κ → Action κ α}
    {good : Except Fault α → Console κ → Prop} :
    Ends (lift (before.registry.typed kind target) >>= next) before good ↔
      Ends (lift (before.registry.target target) >>= fun found =>
        if found.2.kind = kind then next found
        else throw (.console (.otherKind (qualify found.1.name found.2.name) found.2.kind kind)))
        before good := by
  simp only [ends_bind, ends_lift, Registry.typed]
  cases before.registry.target target with
  | error fault => rfl
  | ok found =>
    by_cases isKind : found.2.kind = kind
    · simp only [isKind, if_true]
    · simp only [isKind, if_false]
      exact Iff.rfl

theorem ends_setTyped_follows (assigns : target.Assigns before.registry serial) (kind : Kind)
    (payload : Payload) :
    Ends (setTyped run kind target payload) before
      (Fulfils ((Operation.setTyped kind target payload).assigned? before.registry) before) := by
  rw [setTyped, ends_bind, ends_registry]
  apply ends_typed.mpr
  apply ends_pointing_follows
  intro space setting pointed
  have present := (Registry.target_ok pointed).1
  by_cases isKind : setting.kind = kind
  · simp only [isKind, if_true]
    exact ends_assignPayload_follows attached records present (assigns.serial_eq pointed) payload
  · simp only [isKind, if_false]
    exact fulfils_error before _

theorem ends_reset_follows (assigns : target.Assigns before.registry serial) :
    Ends (reset run target) before
      (Fulfils ((Operation.reset (κ := κ) target).assigned? before.registry) before) := by
  rw [reset, ends_bind, ends_registry]
  apply ends_pointing_follows
  intro space setting pointed
  have present := (Registry.target_ok pointed).1
  exact ends_assignValue_follows attached records present (assigns.serial_eq pointed) _

theorem ends_executeStatement_follows {statement : Statement}
    (assigns : statement.Assigns before.registry serial) :
    Ends (executeStatement run statement) before fun result after =>
      result = .ok (statement.assigned? before.registry).isSome ∧
        Follows ((statement.assigned? before.registry).filter Assignment.isChange) before
          after := by
  have words : statement.isEmpty = false := by
    rw [Statement.isEmpty, List.isEmpty_eq_false_iff]
    intro none
    exact assigns.1 (by rw [Statement.arguments, none, List.tail_nil])
  have rejected {cause : ConsoleError} (rejects : before.registry.Rejects statement cause)
      (nothing : statement.assigned? before.registry = none) :
      Ends (executeStatement run statement) before fun result after =>
        result = .ok (statement.assigned? before.registry).isSome ∧
          Follows ((statement.assigned? before.registry).filter Assignment.isChange) before
            after := by
    rw [nothing, Ends, executeStatement_rejected words rejects]
    exact ⟨rfl, (Follows.refl before).told ((Tells.refl before).tell rfl)⟩
  -- Each cause for which the statement is rejected is one for which it assigns nothing.
  cases stands : before.registry.resolve statement.name with
  | error cause =>
    apply rejected (.unresolved stands)
    rw [Statement.assigned?, stands]
  | ok resolution =>
    obtain ⟨space, setting, rfl, isSerial⟩ := assigns.2 resolution stands
    have present := (Registry.mem_table.mp
      (Registry.lookup_ok (Registry.resolve_entry stands)).1).1
    have isAssigned : statement.assigned? before.registry =
        (statement.value? setting.kind).map fun value => ⟨space, setting, value⟩ := by
      rw [Statement.assigned?, stands]
    cases arguments : statement.arguments with
    | nil => exact absurd arguments assigns.1
    | cons token others =>
      cases others with
      | cons other more =>
        have none : statement.value? setting.kind = none := by
          simp only [Statement.value?, arguments]
        apply rejected (.tooMany stands (by simp [arguments]))
        rw [isAssigned, none, Option.map_none]
      | nil =>
        have reads : statement.value? setting.kind = (Value.parse setting.kind token).toOption := by
          simp only [Statement.value?, arguments]
        cases read : Value.parse setting.kind token with
        | error fault =>
          apply rejected (.badToken stands arguments read)
          rw [isAssigned, reads, read]
          rfl
        | ok value =>
          rw [Ends.congr (executeStatement_entry words stands), ends_reporting, isAssigned, reads,
            read]
          simp only [dispatch, arguments, valueOf, read, pure_bind, ends_bind, ends_pure]
          apply (ends_assign_follows attached records present isSerial (Value.kind_of_parse read)
            (some token)).mono
          rintro result after ⟨rfl, follows⟩
          exact ⟨rfl, follows⟩

/-- A truth is flipped, and the setting is looked at afterwards. -/
theorem ends_toggle_follows (sound : before.registry.Sound)
    (assigns : target.Assigns before.registry serial) :
    Ends (toggle run target) before fun result after =>
      ((Operation.toggle (κ := κ) target).assigned? before.registry).isSome = result.isOk ∧
        Follows ((Operation.toggle target).change? before.registry) before after := by
  simp only [toggle, Operation.change?, Operation.assigned?, ends_bind, ends_registry, ends_lift,
    Registry.typed]
  cases pointed : before.registry.target target with
  | error fault =>
    rw [Target.assigned?_error pointed]
    exact ⟨rfl, .refl before⟩
  | ok found =>
    obtain ⟨space, setting⟩ := found
    obtain ⟨present, isFound⟩ := Registry.target_ok pointed
    have isSerial := assigns.serial_eq pointed
    have kinds := (sound.spaces space present).kinds setting (Namespace.find?_ok isFound).1
    rw [Target.assigned?_ok pointed]
    cases current : setting.current with
    | boolean truth =>
      have isKind : setting.kind = .boolean := by rw [← kinds.2, current]; rfl
      have isTruth : (Value.boolean !truth).kind = setting.kind := isKind.symm
      have isAssigned : space.fitting setting (some (.boolean !truth)) =
          some ⟨space, setting, .boolean !truth⟩ := by
        rw [Namespace.fitting, Option.filter_some, decide_eq_true isTruth]
        rfl
      have flipped : (setting.current != .boolean true) = !truth := by
        rw [current]
        cases truth <;> rfl
      simp only [isKind, if_true, flipped, isAssigned]
      apply (ends_assign_follows attached records present isSerial isTruth none).mono
      rintro result after ⟨rfl, follows⟩
      have held := follows.get sound present isFound
      simp only [held]
      exact ⟨rfl, follows⟩
    | integer number =>
      have isKind : setting.kind = .integer := by rw [← kinds.2, current]; rfl
      simp only [isKind, reduceCtorEq, if_false]
      exact ⟨rfl, .refl before⟩
    | text content =>
      have isKind : setting.kind = .text := by rw [← kinds.2, current]; rfl
      simp only [isKind, reduceCtorEq, if_false]
      exact ⟨rfl, .refl before⟩

omit attached records in
theorem AnswersFor.reply {assigned? : Option (Assignment κ)} {result : Except Fault Bool}
    (answers : AnswersFor assigned? result) :
    ((∀ fault, Reply.ofResult (result.map (Reply.flag (κ := κ))) ≠ .failed fault) ↔
      assigned?.isSome) ∧
    (Reply.ofResult (result.map (Reply.flag (κ := κ))) = .flag true ↔
      (assigned?.filter Assignment.isChange).isSome) := by
  cases assigned? with
  | none =>
    obtain ⟨fault, rfl⟩ := answers
    simp [Except.map, Reply.ofResult]
  | some assignment =>
    have isResult : result = .ok assignment.isChange := answers
    rw [isResult, Option.filter_some]
    cases assignment.isChange <;> simp [Except.map, Reply.ofResult]

/-- An operation on settings of an attached namespace whose change callbacks only record. -/
theorem ends_carryOut_does (sound : before.registry.Sound) {operation : Operation κ}
    (assigns : operation.Assigns before.registry serial) (rounds : Nat) (call : Option (Call κ)) :
    Ends (carryOut run rounds call operation) before fun result after =>
      operation.Does before (.ofResult result) after := by
  cases operation with
  | execute line =>
    simp only [carryOut, execute, ends_bind, ends_pure]
    apply (ends_executeStatement_follows attached records assigns).mono
    rintro result after ⟨rfl, follows⟩
    exact ⟨follows, by simp [Operation.Succeeds, Reply.ofResult, Operation.assigned?],
      fun none => by cases none⟩
  | executeStatement statement =>
    simp only [carryOut, ends_bind, ends_pure]
    apply (ends_executeStatement_follows attached records assigns).mono
    rintro result after ⟨rfl, follows⟩
    exact ⟨follows, by simp [Operation.Succeeds, Reply.ofResult, Operation.assigned?],
      fun none => by cases none⟩
  | set target payload =>
    change Ends (Reply.flag <$> setValue run target payload) before _
    rw [ends_map]
    apply (ends_setValue_follows attached records assigns payload).mono
    intro result after ended
    exact ⟨ended.2, ended.1.reply.1, fun _ => ended.1.reply.2⟩
  | setTyped kind target payload =>
    change Ends (Reply.flag <$> setTyped run kind target payload) before _
    rw [ends_map]
    apply (ends_setTyped_follows attached records assigns kind payload).mono
    intro result after ended
    exact ⟨ended.2, ended.1.reply.1, fun _ => ended.1.reply.2⟩
  | reset target =>
    change Ends (Reply.flag <$> reset run target) before _
    rw [ends_map]
    apply (ends_reset_follows attached records assigns).mono
    intro result after ended
    exact ⟨ended.2, ended.1.reply.1, fun _ => ended.1.reply.2⟩
  | toggle target =>
    change Ends (Reply.flag <$> toggle run target) before _
    rw [ends_map]
    apply (ends_toggle_follows attached records sound assigns).mono
    intro result after ended
    refine ⟨ended.2, ?_, fun none => by cases none⟩
    rw [ended.1]
    cases result <;> simp [Operation.Succeeds, Except.map, Reply.ofResult, Except.isOk,
      Except.toBool]
  | _ => exact assigns.elim

/-- What is asked for and answered does not count. -/
theorem does_of_assigns (sound : before.registry.Sound) {operation : Operation κ}
    (assigns : operation.Assigns before.registry serial) (rounds : Nat) (call : Option (Call κ)) :
    Ends (perform run rounds call operation) before fun result after =>
      ∃ reply, result = .ok reply ∧ operation.Does before reply after := by
  rw [ends_perform]
  have asked : Tells Event.isTalk before (before.tell (.asked call operation)) :=
    (Tells.refl before).tell rfl
  have handled : ∀ space ∈ (before.tell (.asked call operation)).registry.spaces,
      space.serial = serial → space.handler = some handler := attached
  apply (ends_carryOut_does handled records sound assigns rounds call).mono
  intro result after does
  refine ⟨_, rfl, ?_, does.succeeds, does.answers⟩
  exact (does.follows.told ((Tells.refl after).tell rfl)).after_told asked

end Steps

end CommandConsole
