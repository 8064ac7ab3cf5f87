import CommandConsole.Proofs.Queue.Refilled
import CommandConsole.Proofs.Queue.Work

set_option autoImplicit false

/-!
Handlers for namespaces that have left the table. Such a namespace keeps a handler that it is given,
and nothing comes of it; but where the console attaches it, the statements that have come into its
queue since are replayed, and what they name is looked up in the table that there is. Main
statement: that is the only way in which a handler reaches the callbacks of other namespaces than
its own (`departed_confined`).
-/
namespace CommandConsole

open CommandConsole.Action

variable {κ : Type}

namespace Registry

/-- The call that replaying a statement makes, if it makes one. -/
def summons? (registry : Registry κ) (handler : Handler) (statement : Statement) :
    Option (Call κ) :=
  match registry.lookup statement.name with
  | .ok (space, .command command) => command.action.map fun callback =>
      ⟨callback, space.serial, command.name, handler, .command statement, true⟩
  | .ok (space, .setting setting) =>
    match setting.onChange, statement.arguments with
    | some callback, token :: _ => (Value.parse setting.kind token).toOption.map fun value =>
        ⟨callback, space.serial, setting.name, handler, .change value, true⟩
    | _, _ => none
  | .error _ => none

/-- Whether replaying a statement ends with a fault before anything is called: a setting with a
callback is given no value. -/
def breaksOff (registry : Registry κ) (statement : Statement) : Bool :=
  match registry.lookup statement.name with
  | .ok (_, .setting setting) => setting.onChange.isSome && statement.arguments.isEmpty
  | _ => false

/-- The first call that replaying some statements makes, if they make one. -/
def firstCall? (registry : Registry κ) (handler : Handler) : List Statement → Option (Call κ)
  | [] => none
  | statement :: rest =>
    match registry.summons? handler statement with
    | some call => some call
    | none => if registry.breaksOff statement then none else registry.firstCall? handler rest

variable {registry former latter : Registry κ} {handler : Handler} {statement : Statement}
  {call : Call κ} {space : Namespace κ}

/-- A statement makes calls of the table: of a namespace that would attend to them if it had that
handler. -/
theorem attends_of_summons? (summons : registry.summons? handler statement = some call) :
    call.handler = handler ∧
      ∃ space ∈ registry.table, (space.handle (some handler)).Attends call := by
  unfold summons? at summons
  split at summons
  · rename_i space command found
    obtain ⟨present, isFound⟩ := lookup_ok found
    obtain ⟨callback, action, rfl⟩ := Option.map_eq_some_iff.mp summons
    exact ⟨rfl, space, present,
      Namespace.attends_command rfl (Namespace.find?_ok isFound).1 action⟩
  · rename_i space setting found
    obtain ⟨present, isFound⟩ := lookup_ok found
    split at summons
    · rename_i callback token rest onChange _
      obtain ⟨value, reads, rfl⟩ := Option.map_eq_some_iff.mp summons
      have kind : value.kind = setting.kind := by
        cases read : Value.parse setting.kind token with
        | ok parsed =>
          rw [read] at reads
          obtain rfl := Option.some.inj reads
          exact Value.kind_of_parse read
        | error cause =>
          rw [read] at reads
          cases reads
      exact ⟨rfl, space, present,
        Namespace.attends_setting rfl ⟨_, (Namespace.find?_ok isFound).1, rfl⟩ onChange kind⟩
    · cases summons
  · cases summons

theorem attends_of_firstCall? {statements : List Statement}
    (first : registry.firstCall? handler statements = some call) :
    call.handler = handler ∧
      ∃ space ∈ registry.table, (space.handle (some handler)).Attends call := by
  induction statements with
  | nil => cases first
  | cons statement rest ih =>
    unfold firstCall? at first
    split at first
    · rename_i summons
      obtain rfl := Option.some.inj first
      exact attends_of_summons? summons
    · split at first
      · cases first
      · exact ih first

theorem lookup_of_table (same : latter.table = former.table) (token : String) :
    latter.lookup token = former.lookup token := by
  simp only [lookup, find?, owners, same]

theorem summons?_of_table (same : latter.table = former.table) :
    latter.summons? handler statement = former.summons? handler statement := by
  simp only [summons?, lookup_of_table same]

/-- What is replayed depends on the table only. -/
theorem firstCall?_of_table (same : latter.table = former.table) (statements : List Statement) :
    latter.firstCall? handler statements = former.firstCall? handler statements := by
  induction statements with
  | nil => rfl
  | cons statement rest ih =>
    have breaks : latter.breaksOff statement = former.breaksOff statement := by
      simp only [breaksOff, lookup_of_table same]
    rw [firstCall?, firstCall?, summons?_of_table same, breaks, ih]

/-- A change of a namespace that has left the table leaves the table as it is. -/
theorem table_update_of_left (present : space ∈ registry.spaces)
    (left : space.isRegistered = false) {change : Namespace κ → Namespace κ}
    (keeps : Namespace.KeepsShape change) :
    (registry.update space.serial change).table = registry.table := by
  rw [table_update keeps]
  refine (List.map_congr_left fun other member => ?_).trans (List.map_id _)
  obtain ⟨inside, registered⟩ := mem_table.mp member
  have apart : other.serial ≠ space.serial := by
    intro same
    rw [eq_of_serial present inside same, left] at registered
    cases registered
  rw [if_neg (by simpa using apart)]
  rfl

end Registry

/-- The first call that is made when a namespace is given a handler, if one is made: a detached
namespace that gets one has its queue replayed. -/
def Namespace.firstCall? (space : Namespace κ) (registry : Registry κ) :
    Option Handler → Option (Call κ)
  | some handler =>
    if space.handler.isNone then registry.firstCall? handler space.pending else none
  | none => none

/-- A call is the first of those that have been made since. If there is none to be made, nothing has
been called, and the table is what it was. -/
def Console.CallsFirst (before after : Console κ) : Option (Call κ) → Prop
  | none => calls after.trace = calls before.trace ∧ after.registry.table = before.registry.table
  | some call => calls before.trace ++ [call] <+: calls after.trace

section Flush

variable {console before middle after : Console κ} {space : Namespace κ} {handler : Handler}
  {statement : Statement} {run : Runner κ}

theorem calls_of_suffix (suffix : before.trace <:+ after.trace) :
    calls before.trace <+: calls after.trace := by
  obtain ⟨events, same⟩ := suffix
  rw [← same, calls, calls, chronicle_append]
  exact List.prefix_append _ _

theorem Console.CallsFirst.of_quiet {call : Option (Call κ)}
    (called : calls middle.trace = calls before.trace)
    (table : middle.registry.table = before.registry.table)
    (first : middle.CallsFirst after call) : before.CallsFirst after call := by
  cases call with
  | none => exact ⟨first.1.trans called, first.2.trans table⟩
  | some call =>
    change calls before.trace ++ [call] <+: calls after.trace
    rw [← called]
    exact first

theorem Console.CallsFirst.tell {call : Option (Call κ)} (first : before.CallsFirst after call)
    {event : Event κ} (silent : event.call? = none) :
    before.CallsFirst (after.tell event) call := by
  cases call with
  | none => exact ⟨(calls_tell silent after).trans first.1, first.2⟩
  | some call =>
    change calls before.trace ++ [call] <+: calls (after.tell event).trace
    rw [calls_tell silent]
    exact first

/-- A replay makes the call that its statement summons, before the callback does anything. -/
theorem Replay.calls (replay : Replay console handler space statement after) :
    calls after.trace = calls console.trace ++
      ((console.taking space statement).registry.summons? handler statement).toList := by
  have taken := calls_taking console space statement
  cases replay with
  | @command owner command found =>
    have executed : calls ((console.taking space statement).tell
        (.executed owner.serial command.name statement)).trace =
          calls (console.taking space statement).trace := calls_tell rfl _
    simp only [Console.running, Registry.summons?, found]
    cases command.action with
    | none => exact (executed.trans taken).trans (List.append_nil _).symm
    | some callback =>
      simp only [calls_calling, executed, taken]
      rfl
  | @change owner setting value found reads =>
    simp only [Console.notifying, Registry.summons?, found]
    cases onChange : setting.onChange with
    | none => exact taken.trans (List.append_nil _).symm
    | some callback =>
      obtain ⟨token, rest, arguments, read⟩ := reads (by rw [onChange]; rfl)
      simp only [calls_calling, taken, arguments, read]
      rfl
  | fail unknown =>
    have silent : (console.taking space statement).registry.summons? handler statement = none := by
      unfold Registry.summons?
      split
      · rename_i owner command found
        obtain ⟨setting, same, -⟩ := unknown owner _ found
        cases same
      · rename_i owner setting found
        obtain ⟨_, ⟨⟩, -, unread⟩ := unknown owner _ found
        split
        · rename_i callback token rest _ arguments
          cases read : Value.parse setting.kind token with
          | ok value => exact absurd read (unread token rest value arguments)
          | error cause => rfl
        · rfl
      · rfl
    rw [silent, taken]
    exact (List.append_nil _).symm

/-- A statement that summons nobody leaves the registry as it is, and the replay goes on unless the
statement breaks it off. -/
theorem ends_replay_quiet (quiet : console.registry.summons? handler statement = none) :
    Ends (reporting () (replay run handler statement)) console fun result after =>
      after.registry = console.registry ∧ calls after.trace = calls console.trace ∧
        result = if console.registry.breaksOff statement then .error .noArgument else .ok () := by
  rw [ends_reporting]
  simp only [replay, ends_bind, ends_registry, ends_liftError]
  simp only [Registry.summons?] at quiet
  cases found : console.registry.lookup statement.name with
  | error cause =>
    simp only [Registry.breaksOff, found]
    exact ⟨rfl, calls_tell rfl _, rfl⟩
  | ok pair =>
    obtain ⟨owner, entry⟩ := pair
    simp only [found] at quiet
    simp only [Registry.breaksOff, found, Except.mapError]
    cases entry with
    | command command =>
      have silent : command.action = none := Option.map_eq_none_iff.mp quiet
      simp only [runCommand, ends_bind, ends_record, silent, ends_pure]
      exact ⟨rfl, calls_tell rfl _, rfl⟩
    | setting setting =>
      cases onChange : setting.onChange with
      | none =>
        simp only [onChange]
        exact ⟨rfl, rfl, rfl⟩
      | some callback =>
        cases arguments : statement.arguments with
        | nil =>
          simp only [onChange]
          exact ⟨rfl, rfl, rfl⟩
        | cons token rest =>
          simp only [onChange, arguments] at quiet
          have unread := Option.map_eq_none_iff.mp quiet
          cases read : Value.parse setting.kind token with
          | ok value =>
            rw [read] at unread
            cases unread
          | error cause =>
            simp only [onChange, valueOf, read]
            exact ⟨rfl, calls_tell rfl _, rfl⟩

theorem runnerKeeps_calls (tells : ∀ past : List (Event κ), RunnerKeeps (past <:+ ·.trace) run)
    (made : List (Call κ)) : RunnerKeeps (made <+: calls ·.trace) run :=
  fun call console made => (tells _ call console (List.suffix_refl _)).mono
    fun _ _ ended => ⟨made.trans (calls_of_suffix ended.1), ended.2⟩

/-- The queue of a namespace that has left the table is replayed up to the first call, and nothing
of this touches the table. -/
theorem ends_flush_first (tells : ∀ past : List (Event κ), RunnerKeeps (past <:+ ·.trace) run)
    {statements : List Statement} {rounds : Nat} (present : space ∈ console.registry.spaces)
    (left : space.isRegistered = false) (attached : space.handler = some handler)
    (queued : space.pending = statements) (enough : statements.length ≤ rounds) :
    Ends (flush run space.serial rounds) console fun _ after =>
      console.CallsFirst after (console.registry.firstCall? handler statements) := by
  induction statements generalizing console space rounds with
  | nil =>
    have idle : space.due? = none := by simp [Namespace.due?, attached, queued]
    exact ends_flush_of_idle present idle ⟨rfl, rfl⟩
  | cons statement rest ih =>
    obtain ⟨rounds, rfl⟩ : ∃ fewer, rounds = fewer + 1 :=
      ⟨rounds - 1, by simp only [List.length_cons] at enough; omega⟩
    have fewer : rest.length ≤ rounds := by
      simp only [List.length_cons] at enough
      omega
    have due := due?_of_attached attached queued
    -- The table stays as it is, so what comes later in the queue is looked up as it is now.
    have table : (console.taking space statement).registry.table = console.registry.table :=
      Registry.table_update_of_left present left Namespace.keepsShape_dequeue
    have summons : (console.taking space statement).registry.summons? handler statement =
        console.registry.summons? handler statement := Registry.summons?_of_table table
    refine ends_flush_of_due present due ?_
    rw [Registry.firstCall?]
    cases first : console.registry.summons? handler statement with
    | some call =>
      -- What has been called is not forgotten, whatever the callback does and the rest leads to.
      have keeps := runnerKeeps_calls tells (calls console.trace ++ [call])
      have steps {before after : Console κ} (step : Step before after)
          (made : calls console.trace ++ [call] <+: calls before.trace) :=
        made.trans (calls_of_suffix step.suffix)
      have turns {before after : Console κ} (turn : Turn before after)
          (made : calls console.trace ++ [call] <+: calls before.trace) :=
        made.trans (calls_of_suffix turn.suffix)
      have replayed : Ends (reporting () (replay run handler statement))
          (console.taking space statement)
          fun _ after => calls console.trace ++ [call] <+: calls after.trace := by
        refine keeps_replay steps keeps fun replay => ?_
        rw [replay.calls, summons, first]
        exact List.prefix_refl _
      apply replayed.mono
      intro result after made
      cases result with
      | ok _ => exact keeps_flush steps turns keeps _ _ _ made
      | error fault => exact made
    | none =>
      apply (ends_replay_quiet (summons.trans first)).mono
      rintro result after ⟨registry, called, rfl⟩
      have breaks : (console.taking space statement).registry.breaksOff statement =
          console.registry.breaksOff statement := by
        simp only [Registry.breaksOff, Registry.lookup_of_table table]
      have still : after.registry.table = console.registry.table := registry ▸ table
      have uncalled : calls after.trace = calls console.trace :=
        called.trans (calls_taking console space statement)
      rw [breaks]
      cases console.registry.breaksOff statement with
      | true => exact ⟨uncalled, still⟩
      | false =>
        have dequeued : space.dequeue ∈ after.registry.spaces :=
          registry ▸ mem_taking present statement
        have remaining : space.dequeue.pending = rest := by rw [Namespace.dequeue, queued]; rfl
        apply Ends.mono (ih dequeued left attached remaining fewer)
        intro _ final first
        rw [Registry.firstCall?_of_table still] at first
        exact first.of_quiet uncalled still

/-- The console gives a handler to a namespace that has left the table. -/
theorem ends_setHandler_first (tells : ∀ past : List (Event κ), RunnerKeeps (past <:+ ·.trace) run)
    (present : space ∈ console.registry.spaces) (left : space.isRegistered = false) (rounds : Nat)
    (handler : Option Handler) :
    Ends (setHandler run rounds space.serial handler) console fun _ after =>
      console.CallsFirst after (space.firstCall? console.registry handler) := by
  have table : (console.handling space handler).registry.table = console.registry.table :=
    Registry.table_update_of_left present left (Namespace.keepsShape_handle handler)
  have called : calls (console.handling space handler).trace = calls console.trace :=
    calls_tell rfl (console.change space.serial (·.handle handler))
  simp only [setHandler, ends_bind, ends_registry, Registry.space?_of_mem present, ends_update,
    ends_record]
  cases handler with
  | none =>
    simp only [Option.isSome_none, Bool.and_false, Bool.false_eq_true, if_false]
    exact ⟨called, table⟩
  | some handler =>
    simp only [Option.isSome_some, Bool.and_true, Namespace.firstCall?]
    by_cases detached : space.handler.isNone
    · simp only [detached, if_true]
      have handled : space.handle (some handler) ∈
          (console.handling space (some handler)).registry.spaces :=
        Registry.mem_update_self (Namespace.keepsShape_handle (some handler)) present
      have flushed : Ends
          (flush run (space.handle (some handler)).serial (space.pending.length + rounds))
          (console.handling space (some handler)) _ :=
        ends_flush_first tells handled left rfl rfl (Nat.le_add_right _ _)
      apply flushed.mono
      intro _ after first
      rw [Registry.firstCall?_of_table table] at first
      exact first.of_quiet called table
    · simp only [detached]
      exact ⟨called, table⟩

end Flush

/-- What can still come of a namespace that has left the table. -/
structure Namespace.Departed (old : Namespace κ) (before : Console κ) : Prop where
  /-- Attaching it in its own name only stores the handler, whoever asks and whatever is in its
  queue. -/
  stores : ∀ (run : Runner κ) (rounds : Nat) (asking : Option (Call κ)) (handler : Option Handler),
    let stored := (before.tell (.asked asking (.attach old.serial handler))).handling old handler
    perform run rounds asking (.attach old.serial handler) before =
        .ok .done (stored.tell (.answered asking .done stored.registry)) ∧
      before.CallsFirst stored none
  /-- Where the console attaches it, what its queue leads to is called by the table that there is,
  and before anything else; if it leads to nothing, nothing is called and the table stays. -/
  replays : ∀ (conduct : Conduct κ) (bound rounds : Nat) (asking : Option (Call κ))
    (handler : Option Handler),
    Ends (perform (runWithin conduct bound) rounds asking (.attachAnyway old.serial handler)) before
      fun _ after => before.CallsFirst after (old.firstCall? before.registry handler)
  /-- The call that this leads to is one of a namespace in the table, whatever handler that has. -/
  reaches : ∀ handler call, old.firstCall? before.registry handler = some call →
    handler = some call.handler ∧
      ∃ space ∈ before.registry.table, (space.handle handler).Attends call
  /-- Nothing is left in its queue from before it left; what there is has been put there past the
  console since, or it tells of changes of its own settings since. -/
  gathers : ∃ since, LeftSince old.serial before.trace since ∧
    ∀ statement ∈ old.pending, old.Refills statement since

section Departed

variable {before : Console κ} {old : Namespace κ}

/-- Nothing is replayed for a namespace that has left the table where it is attached in its own
name. -/
theorem perform_attach_left (present : old ∈ before.registry.spaces)
    (left : old.isRegistered = false) (run : Runner κ) (rounds : Nat) (asking : Option (Call κ))
    (handler : Option Handler) :
    let stored := (before.tell (.asked asking (.attach old.serial handler))).handling old handler
    perform run rounds asking (.attach old.serial handler) before =
      .ok .done (stored.tell (.answered asking .done stored.registry)) := by
  intro stored
  have inside : old ∈ (before.tell (.asked asking (.attach old.serial handler))).registry.spaces :=
    present
  suffices done : Ends (perform run rounds asking (.attach old.serial handler)) before
      fun result after => result = .ok .done ∧
        after = stored.tell (.answered asking .done stored.registry) by
    obtain ⟨after, performed, rfl⟩ := done.exists_ok
    exact performed
  rw [ends_perform]
  simp only [carryOut, attach, ends_bind, ends_registry, Registry.space?_of_mem inside, left,
    Bool.false_eq_true, if_false, ends_update, ends_record, ends_pure]
  exact ⟨rfl, rfl⟩

theorem ends_attachAnyway_left (present : old ∈ before.registry.spaces)
    (left : old.isRegistered = false) (conduct : Conduct κ) (bound rounds : Nat)
    (asking : Option (Call κ)) (handler : Option Handler) :
    Ends (perform (runWithin conduct bound) rounds asking (.attachAnyway old.serial handler)) before
      fun _ after => before.CallsFirst after (old.firstCall? before.registry handler) := by
  rw [ends_perform]
  simp only [carryOut, ends_bind, ends_pure]
  have tells (past : List (Event κ)) : RunnerKeeps (past <:+ ·.trace) (runWithin conduct bound) :=
    (Invariants.suffix past).runWithin conduct bound ()
  have inside : old ∈
      (before.tell (.asked asking (.attachAnyway old.serial handler))).registry.spaces := present
  apply Ends.mono (ends_setHandler_first tells inside left rounds handler)
  intro result after first
  have asked : before.CallsFirst after (old.firstCall? before.registry handler) :=
    first.of_quiet (calls_tell rfl before) rfl
  cases result with
  | ok _ => exact asked.tell rfl
  | error fault => exact asked.tell rfl

theorem Namespace.attends_of_firstCall? {registry : Registry κ} {handler : Option Handler}
    {call : Call κ} (first : old.firstCall? registry handler = some call) :
    handler = some call.handler ∧
      ∃ space ∈ registry.table, (space.handle handler).Attends call := by
  cases handler with
  | none => cases first
  | some handler =>
    simp only [Namespace.firstCall?] at first
    split at first
    · obtain ⟨rfl, reached⟩ := Registry.attends_of_firstCall? first
      exact ⟨rfl, reached⟩
    · cases first

end Departed

/-- Whatever has been done to a console and whatever its callbacks do, also in the middle of an
operation: a handler for a namespace that has left the table is only stored, unless the console
attaches the namespace and a statement that has come into its queue since names a callback in the
table. In all of a run, a callback that is given another handler than that of its own namespace is
called for such a statement, or for one that has been put into a queue past the console. -/
theorem departed_confined {console : Console κ} (reachable : console.Reachable) :
    (∀ before : Console κ, (before.registry, before.trace) ∈ console.moments →
      ∀ old ∈ before.registry.spaces, old.isRegistered = false → old.Departed before) ∧
    ∀ call registry earlier, .called call registry :: earlier <:+ console.trace →
      (∃ space ∈ registry.spaces, space.Attends call) ∨
        ∃ space ∈ registry.spaces, space.Diverts call earlier := by
  refine ⟨fun before moment old present left => ⟨?_, ?_, ?_, ?_⟩,
    fun call registry earlier called => ?_⟩
  · intro run rounds asking handler
    refine ⟨perform_attach_left present left run rounds asking handler, ?_, ?_⟩
    · exact (calls_tell rfl _).trans (calls_tell rfl before)
    · exact Registry.table_update_of_left present left (Namespace.keepsShape_handle handler)
  · exact ends_attachAnyway_left present left
  · exact fun _ _ first => Namespace.attends_of_firstCall? first
  · exact (reachable.traced _ moment).recounted old present left
  · exact (reachable.traced _ (mem_moments_of_called called)).latest call registry earlier rfl

/-- A namespace has been torn down and created anew, and a setting that somebody has kept from
before has been given a value since. -/
def rebuilt : Console Unit :=
  (Console.empty .standard .empty).actAll idle 1
    [.create gauge, .teardown, .create gauge, .set (.kept 0 "v") (.plain (.integer 5))]

/-- Somebody has put a statement into the queue of a namespace that had been torn down; it names a
setting of another one. -/
def replaced : Console Unit :=
  (Console.empty .standard .empty).actAll idle 1
    [.create ⟨.text "OLD", [], []⟩, .teardown, .create gauge, .enqueue 0 ⟨["N.v", "5"]⟩]

def summoned : Console Unit :=
  rebuilt.actAll idle 1 [.attachAnyway 0 (some (.label "h"))]

theorem reachable_rebuilt : rebuilt.Reachable :=
  (Console.Reachable.empty .standard .empty).actAll idle 1 _

/-- The callback of the namespace that is in the table, which is detached, is called with the
handler of the one that has been torn down. -/
theorem rebuilt_summoned :
    let call : Call Unit := ⟨.host (), 1, "v", .label "h", .change (.integer 5), true⟩
    (rebuilt.Reachable ∧
      (rebuilt.registry.spaces.map fun space => (space.name, space.isRegistered, space.handler)) =
        [("N", false, none), ("N", true, none)] ∧
      calls summoned.trace = calls rebuilt.trace ++ [call]) ∧
    (replaced.Reachable ∧
      (replaced.registry.spaces.map fun space => (space.name, space.isRegistered, space.handler)) =
        [("OLD", false, none), ("N", true, none)] ∧
      calls (replaced.actAll idle 1 [.attachAnyway 0 (some (.label "h"))]).trace =
        calls replaced.trace ++ [call]) := by
  refine ⟨⟨reachable_rebuilt, by decide +kernel⟩, ?_, by decide +kernel⟩
  exact (Console.Reachable.empty .standard .empty).actAll idle 1 _

def Event.isDiverted : Event Unit → Bool
  | called call registry => registry.spaces.all fun space =>
      space.serial != call.space || space.handler.isNone
  | _ => false

/-- The namespace that has been torn down has only the change in its queue that has been made since,
and the call that this leads to is diverted. -/
theorem rebuilt_departed :
    (∃ old ∈ rebuilt.registry.spaces, old.isRegistered = false ∧ old.Departed rebuilt ∧
      old.pending = [⟨["N.v", "5"]⟩]) ∧
    ∃ call registry earlier, .called call registry :: earlier <:+ summoned.trace ∧
      ∃ space ∈ registry.spaces, space.Diverts call earlier := by
  constructor
  · have states : (rebuilt.registry.spaces.map fun space => (space.isRegistered, space.pending)) =
        [(false, [⟨["N.v", "5"]⟩]), (true, [])] := by decide +kernel
    have inside : (false, [⟨["N.v", "5"]⟩]) ∈
        rebuilt.registry.spaces.map fun space => (space.isRegistered, space.pending) :=
      states ▸ List.mem_cons_self
    obtain ⟨old, present, state⟩ := List.mem_map.mp inside
    obtain ⟨left, pending⟩ := Prod.mk.inj state
    exact ⟨old, present, left,
      (departed_confined reachable_rebuilt).1 rebuilt List.mem_cons_self old present left, pending⟩
  · have suffix := List.drop_suffix 2 summoned.trace
    have isDiverted : (summoned.trace.drop 2).head?.any Event.isDiverted = true := by
      decide +kernel
    cases latest : summoned.trace.drop 2 with
    | nil =>
      rw [latest] at isDiverted
      cases isDiverted
    | cons event earlier =>
      rw [latest] at isDiverted suffix
      cases event with
      | called call registry =>
        refine ⟨call, registry, earlier, suffix, ?_⟩
        rcases (departed_confined (reachable_rebuilt.actAll idle 1 _)).2 call registry earlier
          suffix with ⟨space, present, attends⟩ | diverts
        · have detached := List.all_eq_true.mp isDiverted space present
          simp [attends.serial, attends.handler] at detached
        · exact diverts
      | _ => cases isDiverted

end CommandConsole
