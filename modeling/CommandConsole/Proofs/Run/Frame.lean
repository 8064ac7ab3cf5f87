import CommandConsole.Proofs.Run.Resolving
import CommandConsole.Proofs.Save.Assignment

set_option autoImplicit false

namespace CommandConsole

open CommandConsole.Action

variable {κ : Type}

namespace Namespace

def queue (space : Namespace κ) (added : List Statement) : Namespace κ :=
  { space with pending := space.pending ++ added }

/-- What a queue takes of a statement that is offered: nothing if it is full. -/
def admitted (space : Namespace κ) (statement : Statement) : List Statement :=
  if space.isFull then [] else [statement]

/-- What waits for a handler once a setting has changed: nothing if there is one. -/
def awaiting (space : Namespace κ) (statement : Statement) : List Statement :=
  if space.isAttached then [] else space.admitted statement

def heeding (space : Namespace κ) (setting : Setting κ) (value : Value) : List (Call κ) :=
  match space.handler, setting.onChange with
  | some handler, some callback =>
    [⟨callback, space.serial, setting.name, handler, .change value, false⟩]
  | _, _ => []

theorem offer_eq_queue (space : Namespace κ) (statement : Statement) :
    (space.offer statement).2 = space.queue (space.admitted statement) := by
  simp only [offer, admitted]
  split
  · simp only [queue, List.append_nil]
  · rfl

theorem occasion_heeding {space : Namespace κ} {setting : Setting κ} {value : Value} {call : Call κ}
    (heeds : call ∈ space.heeding setting value) : call.occasion = .change value := by
  unfold heeding at heeds
  split at heeds
  · rw [List.mem_singleton.mp heeds]
  · cases heeds

end Namespace

/-- Why a statement is rejected: its name stands for nothing, or for a setting that takes neither
several values nor this token. -/
inductive Registry.Rejects (registry : Registry κ) (statement : Statement) : ConsoleError → Prop
  | unresolved {cause : ConsoleError} (failed : registry.resolve statement.name = .error cause) :
      Rejects registry statement cause
  | tooMany {space : Namespace κ} {setting : Setting κ}
      (found : registry.resolve statement.name = .ok (.entry space (.setting setting)))
      (several : 1 < statement.arguments.length) :
      Rejects registry statement (.tooManyArguments (qualify space.name setting.name))
  | badToken {space : Namespace κ} {setting : Setting κ} {token : String} {fault : TokenFault}
      (found : registry.resolve statement.name = .ok (.entry space (.setting setting)))
      (one : statement.arguments = [token])
      (refused : Value.parse setting.kind token = .error fault) :
      Rejects registry statement
        (.badToken (qualify space.name setting.name) setting.kind token)

/-- One namespace has changed, some callbacks have been called, and neither has anything else
changed nor has anything been written. -/
structure Console.Touches (before : Console κ) (serial : Nat)
    (change : Namespace κ → Namespace κ) (called : List (Call κ)) (after : Console κ) : Prop where
  registry : after.registry = before.registry.update serial change
  config : after.config = before.config
  storage : after.storage = before.storage
  writings : writings after.trace = writings before.trace
  calls : calls after.trace = calls before.trace ++ called

/-- What a statement does to a console, where the callbacks that it calls for a change do no more
than record. A command of a namespace with a handler may do anything. -/
structure Console.Confines (before : Console κ) (conduct : Conduct κ) (bound : Nat)
    (statement : Statement) : Prop where
  rejected : ∀ cause, before.registry.Rejects statement cause →
    executeStatement (runWithin conduct (bound + 1)) statement before =
      .ok false (before.tell (.wrote (cause.message ++ "\n")))
  listed : Named before.trace → ∀ space,
    before.registry.resolve statement.name = .ok (.listing space) →
    executeStatement (runWithin conduct (bound + 1)) statement before =
      .ok true (before.tell (.wrote space.listing))
  described : ∀ space setting,
    before.registry.resolve statement.name = .ok (.entry space (.setting setting)) →
    statement.arguments = [] → (Entry.setting setting).isWritable = true →
    executeStatement (runWithin conduct (bound + 1)) statement before =
      .ok true (before.tell (.wrote (space.describe (.setting setting))))
  undescribed : ∀ space setting,
    before.registry.resolve statement.name = .ok (.entry space (.setting setting)) →
    statement.arguments = [] → (Entry.setting setting).isWritable = false →
    executeStatement (runWithin conduct (bound + 1)) statement before = .error .tooLong before
  deferred : ∀ space command,
    before.registry.resolve statement.name = .ok (.entry space (.command command)) →
    space.handler = none → ∃ after,
      executeStatement (runWithin conduct (bound + 1)) statement before = .ok true after ∧
      before.Touches space.serial
        (·.queue (space.admitted ⟨qualify space.name command.name :: statement.arguments⟩)) [] after
  assigned : ∀ space setting token value,
    before.registry.resolve statement.name = .ok (.entry space (.setting setting)) →
    statement.arguments = [token] → Value.parse setting.kind token = .ok value →
    (∀ call ∈ space.heeding setting value, ∀ console,
      (Callback.script (conduct console) call).IsRecorder) → ∃ after,
      executeStatement (runWithin conduct (bound + 1)) statement before = .ok true after ∧
      (value = setting.current → after = before) ∧
      (value ≠ setting.current → before.Touches space.serial
        (fun owner => (owner.assign setting.name value).queue
          (space.awaiting ⟨[qualify space.name setting.name, token]⟩))
        (space.heeding setting value) after)

section Outcomes

variable {run : Runner κ} {before : Console κ} {statement : Statement} {space : Namespace κ}

theorem executeStatement_unresolved {cause : ConsoleError} (words : statement.isEmpty = false)
    (failed : before.registry.resolve statement.name = .error cause) :
    executeStatement run statement before =
      .ok false (before.tell (.wrote (cause.message ++ "\n"))) := by
  simp only [executeStatement, words, Bool.false_eq_true, if_false, reporting, tryCatch_apply]
  have unresolved := resolve_of_error failed
  simp only [bind, EStateM.bind, unresolved]
  rfl

theorem executeStatement_listing (words : statement.isEmpty = false)
    (listed : before.registry.resolve statement.name = .ok (.listing space))
    (named : space.nameless = []) :
    executeStatement run statement before = .ok true (before.tell (.wrote space.listing)) := by
  simp only [executeStatement, words, Bool.false_eq_true, if_false, reporting, tryCatch_apply]
  have resolved := resolve_of_listing listed named
  simp only [bind, EStateM.bind, resolved]
  rfl

/-- A statement on an entry that ends with a console error has only that error written. -/
theorem executeStatement_error {entry : Entry κ} {cause : ConsoleError}
    (words : statement.isEmpty = false)
    (found : before.registry.resolve statement.name = .ok (.entry space entry))
    (failed : dispatch run space entry statement before = .error (.console cause) before) :
    executeStatement run statement before =
      .ok false (before.tell (.wrote (cause.message ++ "\n"))) := by
  rw [executeStatement_entry words found, reporting, tryCatch_apply, failed]
  rfl

theorem executeStatement_ok {entry : Entry κ} {after : Console κ}
    (words : statement.isEmpty = false)
    (found : before.registry.resolve statement.name = .ok (.entry space entry))
    (done : dispatch run space entry statement before = .ok true after) :
    executeStatement run statement before = .ok true after := by
  rw [executeStatement_entry words found, reporting, tryCatch_apply, done]

theorem executeStatement_rejected {cause : ConsoleError} (words : statement.isEmpty = false)
    (rejects : before.registry.Rejects statement cause) :
    executeStatement run statement before =
      .ok false (before.tell (.wrote (cause.message ++ "\n"))) := by
  cases rejects with
  | unresolved failed => exact executeStatement_unresolved words failed
  | tooMany found several =>
    apply executeStatement_error words found
    simp only [dispatch]
    cases isArguments : statement.arguments with
    | nil => simp [isArguments] at several
    | cons first rest =>
      cases rest with
      | nil => simp [isArguments] at several
      | cons second others => rfl
  | badToken found one refused =>
    apply executeStatement_error words found
    simp only [dispatch, one, valueOf, refused]
    rfl

/-- Where nothing was written and nobody called, only the queue has changed. -/
theorem touches_offering (present : space ∈ before.registry.spaces) (statement : Statement) :
    before.Touches space.serial (·.queue (space.admitted statement)) []
      (before.offering space statement) where
  registry := Registry.update_congr present (Namespace.keepsShape_offer statement).serial
    (fun _ => rfl) (space.offer_eq_queue statement)
  config := rfl
  storage := rfl
  writings := (chronicle_cons _ _ _).trans (List.append_nil _)
  calls := (List.append_nil _).symm ▸ (chronicle_cons _ _ _).trans (List.append_nil _)

theorem touches_assigning (before : Console κ) (space : Namespace κ) (setting : Setting κ)
    (value : Value) :
    before.Touches space.serial (·.assign setting.name value) []
      (before.assigning space setting value) where
  registry := rfl
  config := rfl
  storage := rfl
  writings := (chronicle_cons _ _ _).trans (List.append_nil _)
  calls := (List.append_nil _).symm ▸ (chronicle_cons _ _ _).trans (List.append_nil _)

variable {middle after : Console κ} {serial : Nat} {first second : Namespace κ → Namespace κ}
  {called others : List (Call κ)}

theorem Console.Touches.trans (early : before.Touches serial first called middle)
    (late : middle.Touches serial second others after)
    (firstKept : ∀ space, (first space).serial = space.serial)
    (secondKept : ∀ space, (second space).serial = space.serial) :
    before.Touches serial (fun space => second (first space)) (called ++ others) after where
  registry := by
    rw [late.registry, early.registry, Registry.update_update _ _ firstKept secondKept]
  config := late.config.trans early.config
  storage := late.storage.trans early.storage
  writings := late.writings.trans early.writings
  calls := by rw [late.calls, early.calls, List.append_assoc]

/-- What is only recorded touches nothing more. -/
theorem Console.Touches.tells (touches : before.Touches serial first called middle)
    (told : Tells Event.isRecord middle after) :
    before.Touches serial first called after where
  registry := told.registry.trans touches.registry
  config := by
    obtain ⟨events, rfl, -⟩ := told
    exact touches.config
  storage := by
    obtain ⟨events, rfl, -⟩ := told
    exact touches.storage
  writings := by
    refine (told.chronicle fun event record => ?_).trans touches.writings
    cases event <;> first | rfl | cases record
  calls := by
    refine (told.chronicle fun event record => ?_).trans touches.calls
    exact event.call?_of_isTalk (event.isTalk_of_isRecord record)

theorem Console.Touches.notifying (touches : before.Touches serial first [] middle)
    {handler : Handler} (attached : space.handler = some handler) (setting : Setting κ)
    (value : Value) :
    before.Touches serial first (space.heeding setting value)
      (middle.notifying handler false space setting value) := by
  unfold Console.notifying Namespace.heeding
  rw [attached]
  cases setting.onChange with
  | none => exact touches
  | some callback =>
    refine ⟨touches.registry, touches.config, touches.storage, ?_, ?_⟩
    · exact ((chronicle_cons _ _ _).trans (List.append_nil _)).trans touches.writings
    · rw [calls_calling, touches.calls, List.append_nil]

/-- Another value is adopted: it is assigned, and announced where there is a handler. -/
def Console.Adopts (before : Console κ) (space : Namespace κ) (setting : Setting κ)
    (token : String) (value : Value) (after : Console κ) : Prop :=
  (value = setting.current → after = before) ∧
    (value ≠ setting.current → before.Touches space.serial
      (fun owner => (owner.assign setting.name value).queue
        (space.awaiting ⟨[qualify space.name setting.name, token]⟩))
      (space.heeding setting value) after)

theorem executeStatement_typed {setting : Setting κ} {token : String} {value : Value}
    (words : statement.isEmpty = false)
    (found : before.registry.resolve statement.name = .ok (.entry space (.setting setting)))
    (one : statement.arguments = [token]) (read : Value.parse setting.kind token = .ok value)
    (records : ∀ call ∈ space.heeding setting value, Records run call) : ∃ after,
      executeStatement run statement before = .ok true after ∧
        before.Adopts space setting token value after := by
  have present := (Registry.mem_table.mp
    (Registry.lookup_ok (Registry.resolve_entry found)).1).1
  have kind : value.kind = setting.kind := Value.kind_of_parse read
  suffices done : Ends (dispatch run space (.setting setting) statement) before fun result after =>
      result = .ok true ∧ before.Adopts space setting token value after by
    obtain ⟨after, isDone, outcome⟩ := done.exists_ok
    exact ⟨after, executeStatement_ok words found isDone, outcome⟩
  simp only [dispatch, one, valueOf, read, pure_bind, ends_bind, ends_pure]
  by_cases same : value = setting.current
  · rw [ends_assign_same kind same]
    exact ⟨trivial, fun _ => rfl, fun differs => absurd same differs⟩
  · have assigned := touches_assigning before space setting value
    cases handled : space.handler with
    | none =>
      have offered := touches_offering (mem_assigning present setting value)
        ⟨[qualify space.name setting.name, token]⟩
      have both := assigned.trans offered (fun _ => rfl) fun _ => rfl
      refine (ends_assign_detached present kind same handled (fun none => by cases none) _).mpr
        ⟨trivial, fun equal => absurd equal same, fun _ => ?_⟩
      simp only [Namespace.awaiting, Namespace.isAttached, Namespace.heeding, handled,
        Option.isSome_none, Bool.false_eq_true, if_false]
      exact both
    | some handler =>
      have alone : (fun owner : Namespace κ => (owner.assign setting.name value).queue
          (space.awaiting ⟨[qualify space.name setting.name, token]⟩)) =
          (·.assign setting.name value) := by
        simp only [Namespace.awaiting, Namespace.isAttached, handled, Option.isSome_some, if_true,
          Namespace.queue, List.append_nil]
      simp only [Console.Adopts, alone]
      apply (ends_assign_attached kind same handled ?_).mono
      · rintro result after ⟨rfl, told⟩
        exact ⟨trivial, fun equal => absurd equal same,
          fun _ => (assigned.notifying handled setting value).tells told⟩
      · intro callback isCallback
        apply records
        simp [Namespace.heeding, handled, Option.mem_def.mp isCallback]

theorem executeStatement_deferred {command : Command κ} (words : statement.isEmpty = false)
    (found : before.registry.resolve statement.name = .ok (.entry space (.command command)))
    (detached : space.handler = none) : ∃ after,
      executeStatement run statement before = .ok true after ∧
      before.Touches space.serial
        (·.queue (space.admitted ⟨qualify space.name command.name :: statement.arguments⟩)) []
        after := by
  have present := (Registry.mem_table.mp
    (Registry.lookup_ok (Registry.resolve_entry found)).1).1
  have done : Ends (dispatch run space (.command command) statement) before fun result after =>
      result = .ok true ∧ before.Touches space.serial
        (·.queue (space.admitted ⟨qualify space.name command.name :: statement.arguments⟩)) []
        after := by
    simp only [dispatch, detached, ends_bind, ends_pure]
    exact (ends_defer present _ _ _).mpr ⟨trivial, touches_offering present _⟩
  obtain ⟨after, isDone, outcome⟩ := done.exists_ok
  exact ⟨after, executeStatement_ok words found isDone, outcome⟩

theorem executeStatement_described {setting : Setting κ} (words : statement.isEmpty = false)
    (found : before.registry.resolve statement.name = .ok (.entry space (.setting setting)))
    (alone : statement.arguments = []) (writable : (Entry.setting setting).isWritable = true) :
    executeStatement run statement before =
      .ok true (before.tell (.wrote (space.describe (.setting setting)))) := by
  refine executeStatement_ok words found ?_
  simp only [dispatch, alone, Namespace.describe?, writable, if_true]
  rfl

/-- A description that cannot be written is a fault, which nobody reports. -/
theorem executeStatement_undescribed {setting : Setting κ} (words : statement.isEmpty = false)
    (found : before.registry.resolve statement.name = .ok (.entry space (.setting setting)))
    (alone : statement.arguments = []) (unwritable : (Entry.setting setting).isWritable = false) :
    executeStatement run statement before = .error .tooLong before := by
  rw [executeStatement_entry words found, reporting, tryCatch_apply]
  simp only [dispatch, alone, Namespace.describe?, unwritable, Bool.false_eq_true, if_false]
  rfl

end Outcomes

/-- Whatever has been done to a console and whatever its callbacks do, also in the middle of an
operation: a statement with a name touches only what it names. -/
theorem statements_confined {console : Console κ} (reachable : console.Reachable)
    {before : Console κ} (moment : (before.registry, before.trace) ∈ console.moments)
    (conduct : Conduct κ) (bound : Nat) {statement : Statement}
    (words : statement.isEmpty = false) : before.Confines conduct bound statement where
  rejected _ rejects := executeStatement_rejected words rejects
  listed texts space stands := by
    have named := (reachable.tabled _ moment).named texts
    have present := (Registry.mem_table.mp (Registry.resolve_listing stands)).1
    exact executeStatement_listing words stands (named space present)
  described _ _ found alone writable := executeStatement_described words found alone writable
  undescribed _ _ found alone unwritable :=
    executeStatement_undescribed words found alone unwritable
  deferred _ _ found detached := executeStatement_deferred words found detached
  assigned _ _ _ _ found one read recorders := executeStatement_typed words found one read
    fun call heeds => records_runWithin (fun console => recorders call heeds console) bound

/-- A console with a detached namespace and an attached one, where an integer has too many digits to
be written. -/
def lopsided : Console Unit :=
  (Console.empty .standard .empty).actAll idle 1
    [.create ⟨.text "N", [⟨.text "c", some (.host ()), .null⟩],
        [⟨.text "v", .integer, .plain (.integer (.ofNat (10 ^ 4300))), none, .null⟩]⟩,
      .create ⟨.text "M", [], [⟨.text "w", .integer, .plain .null, some (.host ()), .null⟩]⟩,
      .attach 1 (some (.label "h"))]

theorem reachable_lopsided : lopsided.Reachable :=
  (Console.Reachable.empty .standard .empty).actAll idle 1 _

/-- A token that can be seen to stand for a setting of some sort stands for such a setting. -/
theorem exists_setting_of_resolve {registry : Registry κ} {token : String}
    (isSuch : Namespace κ → Setting κ → Prop) [∀ space setting, Decidable (isSuch space setting)]
    (stands : (match registry.resolve token with
      | .ok (.entry space (.setting setting)) => decide (isSuch space setting)
      | _ => false) = true) :
    ∃ space setting, registry.resolve token = .ok (.entry space (.setting setting)) ∧
      isSuch space setting := by
  split at stands
  · rename_i space setting found
    exact ⟨space, setting, found, of_decide_eq_true stands⟩
  · cases stands

/-- A token of another kind is only reported, and another value is assigned and told. -/
theorem lopsided_confined :
    (∃ cause, executeStatement (runWithin idle 1) ⟨["M.w", "high"]⟩ lopsided =
      .ok false (lopsided.tell (.wrote (cause ++ "\n")))) ∧
    ∃ (space : Namespace Unit) (setting : Setting Unit) (after : Console Unit),
      executeStatement (runWithin idle 1) ⟨["w", "+05"]⟩ lopsided = .ok true after ∧
      (Value.integer 5 ≠ setting.current → lopsided.Touches space.serial
        (fun owner => (owner.assign setting.name (.integer 5)).queue
          (space.awaiting ⟨[qualify space.name setting.name, "+05"]⟩))
        (space.heeding setting (.integer 5)) after) := by
  have moment : (lopsided.registry, lopsided.trace) ∈ lopsided.moments := List.mem_cons_self
  constructor
  · obtain ⟨space, setting, found, kind⟩ : ∃ space setting,
        lopsided.registry.resolve "M.w" = .ok (.entry space (.setting setting)) ∧
          setting.kind = .integer :=
      exists_setting_of_resolve (fun _ setting => setting.kind = .integer) (by decide +kernel)
    have refused : Value.parse setting.kind "high" = .error (.notInteger "high") := by
      rw [kind]
      rfl
    exact ⟨_, (statements_confined reachable_lopsided moment idle 0 rfl).rejected _
      (.badToken found rfl refused)⟩
  · obtain ⟨space, setting, found, kind⟩ : ∃ space setting,
        lopsided.registry.resolve "w" = .ok (.entry space (.setting setting)) ∧
          setting.kind = .integer :=
      exists_setting_of_resolve (fun _ setting => setting.kind = .integer) (by decide +kernel)
    have read : Value.parse setting.kind "+05" = .ok (.integer 5) := by
      rw [kind]
      rfl
    have recorders : ∀ call ∈ space.heeding setting (.integer 5), ∀ console,
        (Callback.script (idle console) call).IsRecorder := by
      intro call heeds console
      rw [Callback.script, Namespace.occasion_heeding heeds]
      cases call.callback <;> exact .done true
    have confines : lopsided.Confines idle 0 ⟨["w", "+05"]⟩ :=
      statements_confined reachable_lopsided moment idle 0 rfl
    obtain ⟨after, done, -, touches⟩ :=
      confines.assigned space setting "+05" (.integer 5) found rfl read recorders
    exact ⟨space, setting, after, done, touches⟩

/-- A setting that is named alone is not described if its value has too many digits, and the fault
leaves the execution. -/
theorem lopsided_undescribed : lopsided.Reachable ∧
    (lopsided.registry.resolve "N.v" matches .ok (.entry _ (.setting _))) ∧
    ∀ after, executeStatement (runWithin idle 1) ⟨["N.v"]⟩ lopsided ≠ .ok true after := by
  refine ⟨reachable_lopsided, by decide +kernel, fun after same => ?_⟩
  have failed : executeStatement (runWithin idle 1) ⟨["N.v"]⟩ lopsided matches
      .error .tooLong _ := by decide +kernel
  simp [same] at failed

end CommandConsole
