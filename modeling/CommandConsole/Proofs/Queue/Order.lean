import CommandConsole.Proofs.Queue.Account

set_option autoImplicit false

namespace CommandConsole

variable {κ : Type}

def Event.replay? (serial : Nat) : Event κ → Option (Call κ)
  | called call _ => if call.space = serial ∧ call.isReplay then some call else none
  | _ => none

def replays (serial : Nat) (trace : List (Event κ)) : List (Call κ) :=
  chronicle (Event.replay? serial) trace

/-- The callback of an entry: what its command does, or what is told of its changes. -/
def Entry.callback? : Entry κ → Option (Callback κ)
  | .command found => found.action
  | .setting found => found.onChange

theorem Entry.callback?_pristine (entry : Entry κ) :
    entry.pristine.callback? = entry.callback? := by
  cases entry <;> rfl

/-- What an entry is called for when a statement is replayed: a command for the statement, a setting
for the value that the statement gives. -/
def Entry.IsOccasion (entry : Entry κ) (statement : Statement) (occasion : Occasion) : Prop :=
  match entry with
  | .command _ => occasion = .command statement
  | .setting found => ∃ token value, statement.arguments = [token] ∧
      Value.parse found.kind token = .ok value ∧ occasion = .change value

namespace Namespace

def callback? (space : Namespace κ) (statement : Statement) : Option (Callback κ) :=
  (space.entries.find? fun entry => qualify space.name entry.name == statement.name).bind
    Entry.callback?

/-- A call that replays a statement of a namespace. -/
structure IsReplay (space : Namespace κ) (statement : Statement) (call : Call κ) : Prop where
  serial : call.space = space.serial
  replayed : call.isReplay = true
  callback : space.callback? statement = some call.callback
  named : ∃ entry ∈ space.entries, call.entry = entry.name ∧
    statement.name = qualify space.name entry.name ∧ entry.IsOccasion statement call.occasion

theorem callback?_of_shape {former latter : Namespace κ} (same : latter.shape = former.shape)
    (statement : Statement) : latter.callback? statement = former.callback? statement := by
  have pristine (space : Namespace κ) : space.callback? statement =
      ((space.entries.map Entry.pristine).find? fun entry =>
        qualify space.name entry.name == statement.name).bind Entry.callback? := by
    simp only [callback?, List.find?_map, Function.comp_def, Entry.name_pristine,
      Option.bind_map, Entry.callback?_pristine]
  have name : latter.name = former.name := congrArg (·.name) same
  have entries : latter.entries.map Entry.pristine = former.entries.map Entry.pristine :=
    congrArg (·.entries) same
  rw [pristine, pristine, name, entries]

theorem IsReplay.of_shape {former latter : Namespace κ} {statement : Statement} {call : Call κ}
    (isReplay : former.IsReplay statement call) (same : latter.shape = former.shape) :
    latter.IsReplay statement call := by
  obtain ⟨entry, member, isEntry, named, occasion⟩ := isReplay.named
  obtain ⟨other, inside, pristine⟩ := exists_entry_of_shape same member
  have name : other.name = entry.name := by
    rw [← Entry.name_pristine other, pristine, Entry.name_pristine]
  have spaceName : latter.name = former.name := congrArg (·.name) same
  have serial : latter.serial = former.serial := congrArg (·.serial) same
  refine ⟨serial ▸ isReplay.serial, isReplay.replayed,
    (callback?_of_shape same statement).trans isReplay.callback, other, inside,
    name ▸ isEntry, by rw [spaceName, name, named], ?_⟩
  cases entry with
  | command command =>
    cases other with
    | command other => exact occasion
    | setting other => cases pristine
  | setting setting =>
    cases other with
    | command other => cases pristine
    | setting other =>
      simp only [Entry.pristine, Entry.setting.injEq, Setting.mk.injEq] at pristine
      simpa only [Entry.IsOccasion, pristine.2.2.1] using occasion

theorem Sound.callback?_qualify {space : Namespace κ} (sound : space.Sound) {entry : Entry κ}
    (member : entry ∈ space.entries) {statement : Statement}
    (named : statement.name = qualify space.name entry.name) :
    space.callback? statement = entry.callback? := by
  have only : (space.entries.find? fun other => qualify space.name other.name ==
      statement.name) = some entry := by
    rw [← sound.find?_name member, named, Namespace.find?]
    congr 1
    funext other
    rw [Bool.eq_iff_iff, beq_iff_eq, beq_iff_eq]
    simp [qualify]
  rw [callback?, only, Option.bind_some]

end Namespace

section Calls

/-- Every statement that was taken from a queue in the table has led to one call if there is
something to call, in the order of the statements. -/
structure Answered (registry : Registry κ) (trace : List (Event κ)) : Prop where
  fresh : ∀ serial, registry.spaces.length ≤ serial → replays serial trace = []
  matched : ∀ space ∈ registry.table, List.Forall₂ space.IsReplay
    ((taken space.serial trace).filter fun statement => (space.callback? statement).isSome)
    (replays space.serial trace)

theorem silent {trace : List (Event κ)} {event : Event κ} {serial : Nat}
    (noneTaken : event.taken? serial = none) (noneReplayed : event.replay? serial = none) :
    taken serial (event :: trace) = taken serial trace ∧
      replays serial (event :: trace) = replays serial trace := by
  simp [taken, replays, chronicle_cons, noneTaken, noneReplayed]

/-- What is not a turn of a replay neither takes statements nor replays them. -/
theorem Step.quiet {before after : Console κ} (step : Step before after) (serial : Nat) :
    taken serial after.trace = taken serial before.trace ∧
      replays serial after.trace = replays serial before.trace := by
  cases step with
  | @tell event passing =>
    cases event <;> first | exact passing.elim | exact silent rfl rfl
  | run statement present found attached =>
    unfold Console.running
    split
    · exact silent rfl rfl
    · simp [Console.calling, Console.tell, taken, replays, chronicle_cons, Event.taken?,
        Event.replay?]
  | notify present found kind differs attached =>
    unfold Console.notifying
    split
    · exact silent rfl rfl
    · simp [Console.calling, Console.tell, Console.change, Console.assigning, taken, replays,
        chronicle_cons, Event.taken?, Event.replay?]
  | postpone present found kind differs detached reads =>
    simp [Console.offering, Console.tell, Console.change, Console.assigning, taken, replays,
      chronicle_cons, Event.taken?, Event.replay?]
  | store saved => exact ⟨rfl, rfl⟩
  | _ => exact silent rfl rfl

/-- What taking a statement tells: the statement, and the calls that replay it. -/
structure Replays (before after : Console κ) (space : Namespace κ) (statement : Statement)
    (calls : List (Call κ)) : Prop where
  taken : ∀ serial, taken serial after.trace =
    taken serial before.trace ++ if space.serial = serial then [statement] else []
  replays : ∀ serial, replays serial after.trace =
    replays serial before.trace ++ if space.serial = serial then calls else []
  matched : List.Forall₂ space.IsReplay
    ([statement].filter fun statement => (space.callback? statement).isSome) calls

theorem told_taking (console : Console κ) (space : Namespace κ) (statement : Statement)
    (serial : Nat) :
    taken serial (console.taking space statement).trace =
        taken serial console.trace ++ (if space.serial = serial then [statement] else []) ∧
      replays serial (console.taking space statement).trace = replays serial console.trace := by
  simp only [Console.taking, Console.tell, Console.change, taken, replays, chronicle_cons,
    Event.taken?, Event.replay?]
  split <;> simp

theorem told_calling (console : Console κ) {call : Call κ} (isReplay : call.isReplay)
    (serial : Nat) :
    taken serial (console.calling call).trace = taken serial console.trace ∧
      replays serial (console.calling call).trace =
        replays serial console.trace ++ (if call.space = serial then [call] else []) := by
  simp only [Console.calling, Console.tell, taken, replays, chronicle_cons, Event.taken?,
    Event.replay?, isReplay]
  split <;> simp_all

theorem replays_none {console after : Console κ} {space : Namespace κ} {statement : Statement}
    (unheard : space.callback? statement = none)
    (same : ∀ serial,
      taken serial after.trace = taken serial (console.taking space statement).trace ∧
      replays serial after.trace = replays serial (console.taking space statement).trace) :
    Replays console after space statement [] := by
  refine ⟨fun serial => ?_, fun serial => ?_, by simp [unheard]⟩
  · rw [(same serial).1, (told_taking console space statement serial).1]
  · rw [(same serial).2, (told_taking console space statement serial).2, ite_self, List.append_nil]

theorem replays_one {console after : Console κ} {space : Namespace κ} {statement : Statement}
    {call : Call κ} (isReplay : space.IsReplay statement call)
    (same : ∀ serial,
      taken serial after.trace = taken serial (console.taking space statement).trace ∧
      replays serial after.trace = replays serial (console.taking space statement).trace) :
    Replays console (after.calling call) space statement [call] := by
  refine ⟨fun serial => ?_, fun serial => ?_, ?_⟩
  · rw [(told_calling after isReplay.replayed serial).1, (same serial).1,
      (told_taking console space statement serial).1]
  · rw [(told_calling after isReplay.replayed serial).2, (same serial).2,
      (told_taking console space statement serial).2, isReplay.serial]
  · simpa [isReplay.callback] using isReplay

/-- Replaying a statement that a registered namespace has queued itself calls what there is to
call. -/
theorem Replay.replayed {console after : Console κ} {handler : Handler} {space : Namespace κ}
    {statement : Statement} (replay : Replay console handler space statement after)
    (sound : console.registry.Sound) (present : space ∈ console.registry.table)
    (owned : space.Owns statement) : ∃ calls, Replays console after space statement calls := by
  obtain ⟨entry, member, isFound, named, kinds⟩ := owned.lookup_taking sound present
  have callback := (sound.of_table present).callback?_qualify member named
  cases replay with
  | @command owner command found =>
    rw [isFound] at found
    obtain ⟨rfl, rfl⟩ := Prod.mk.inj (Except.ok.inj found)
    unfold Console.running
    cases action : command.action with
    | none =>
      exact ⟨[], replays_none (callback.trans action) fun serial => silent rfl rfl⟩
    | some key =>
      exact ⟨_, replays_one ⟨rfl, rfl, callback.trans action, _, member, rfl, named, rfl⟩
        fun serial => silent rfl rfl⟩
  | @change owner setting value found reads =>
    rw [isFound] at found
    obtain ⟨rfl, rfl⟩ := Prod.mk.inj (Except.ok.inj found)
    unfold Console.notifying
    cases onChange : setting.onChange with
    | none => exact ⟨[], replays_none (callback.trans onChange) fun serial => ⟨rfl, rfl⟩⟩
    | some key =>
      obtain ⟨token, rest, arguments, isRead⟩ := reads (by simp [onChange])
      obtain ⟨only, _, argument, -⟩ := kinds setting rfl
      have alone : statement.arguments = [token] := by
        rw [argument] at arguments ⊢
        rw [(List.cons.inj arguments).1]
      exact ⟨_, replays_one ⟨rfl, rfl, callback.trans onChange, _, member, rfl, named, token, value,
        alone, isRead, rfl⟩ fun serial => ⟨rfl, rfl⟩⟩
  | fail unknown =>
    obtain ⟨setting, rfl, -, unread⟩ := unknown _ _ isFound
    obtain ⟨token, value, arguments, reads⟩ := kinds setting rfl
    exact absurd reads (unread token [] value arguments)

/-- A turn of a replay replays one statement of a registered namespace, if it does not only attach a
handler. -/
theorem Turn.replayed {before after : Console κ} (turn : Turn before after)
    (sound : before.registry.Sound) (owned : before.registry.Owned)
    (registered : ∀ space ∈ before.registry.spaces, space.isRegistered) :
    (∀ serial, taken serial after.trace = taken serial before.trace ∧
      replays serial after.trace = replays serial before.trace) ∨
    ∃ space ∈ before.registry.spaces, ∃ statement calls,
      Replays before after space statement calls := by
  cases turn with
  | attach handler present => exact .inl fun serial => silent rfl rfl
  | @replay _ handler statement space present due replay =>
    have queued : statement ∈ space.pending :=
      (Namespace.pending_of_due due).2 ▸ List.mem_cons_self
    exact .inr ⟨space, present, statement, replay.replayed sound
      (Registry.mem_table.mpr ⟨present, registered space present⟩)
      (owned space present statement queued)⟩

/-- Statements and the calls that replay them are told together. -/
theorem Answered.next {before after : Console κ}
    (answered : Answered before.registry before.trace)
    (accounted : Accounted before.registry before.trace)
    (grows : Grows before.registry after.registry)
    (registered : ∀ space ∈ before.registry.spaces, space.isRegistered)
    (statements : Nat → List Statement) (calls : Nat → List (Call κ))
    (moreTaken : ∀ serial,
      taken serial after.trace = taken serial before.trace ++ statements serial)
    (moreReplays : ∀ serial,
      replays serial after.trace = replays serial before.trace ++ calls serial)
    (none : ∀ serial, before.registry.spaces.length ≤ serial →
      statements serial = [] ∧ calls serial = [])
    (matched : ∀ space ∈ before.registry.spaces, List.Forall₂ space.IsReplay
      ((statements space.serial).filter fun statement => (space.callback? statement).isSome)
      (calls space.serial)) :
    Answered after.registry after.trace := by
  refine ⟨fun serial beyond => ?_, fun space member => ?_⟩
  · have beyondBefore := grows.length.trans beyond
    rw [moreReplays, answered.fresh serial beyondBefore, (none serial beyondBefore).2]
    rfl
  · rw [moreTaken, moreReplays]
    rcases grows.former space (Registry.mem_table.mp member).1 with
      ⟨isNew, -⟩ | ⟨former, isFormer, shape⟩
    · rw [(accounted.fresh _ isNew).2, answered.fresh _ isNew, (none _ isNew).1, (none _ isNew).2]
      exact .nil
    · have serial : space.serial = former.serial := congrArg (·.serial) shape
      -- A namespace keeps its shape, so the statements with a callback stay the same ones.
      have callbacks : (fun statement => (space.callback? statement).isSome) =
          fun statement => (former.callback? statement).isSome := by
        funext statement
        rw [Namespace.callback?_of_shape shape]
      have before := answered.matched former
        (Registry.mem_table.mpr ⟨isFormer, registered former isFormer⟩)
      rw [serial, callbacks, List.filter_append]
      exact (List.rel_append before (matched former isFormer)).imp
        fun _ _ isReplay => isReplay.of_shape shape

/-- What is known of queues at every moment. -/
structure QueuesInOrder (registry : Registry κ) (trace : List (Event κ)) : Prop where
  sound : registry.Sound
  accounted : Accounted registry trace
  registered : NeverTornDown trace → ∀ space ∈ registry.spaces, space.isRegistered
  owned : NeverEnqueued trace → registry.Owned
  answered : NeverTornDown trace → NeverEnqueued trace → Answered registry trace

theorem QueuesInOrder.next {before after : Console κ}
    (inOrder : QueuesInOrder before.registry before.trace) (effects : Effects before after)
    (answers : NeverTornDown after.trace → NeverEnqueued after.trace →
      Answered after.registry after.trace) :
    QueuesInOrder after.registry after.trace where
  sound := holds_of_effects Effect.sound effects inOrder.sound
  accounted := holds_of_effects Effect.accounted effects inOrder.accounted
  registered never := (grows_of_effects effects never).registered
    (inOrder.registered (never.of_suffix (suffix_of_effects effects)))
  owned := holds_of_effects Effect.owned effects inOrder.owned
  answered := answers

/-- What neither takes statements nor replays them leaves all statements answered. -/
theorem QueuesInOrder.answered_of_quiet {before after : Console κ}
    (inOrder : QueuesInOrder before.registry before.trace) (effects : Effects before after)
    (quiet : ∀ serial, taken serial after.trace = taken serial before.trace ∧
      replays serial after.trace = replays serial before.trace)
    (neverTorn : NeverTornDown after.trace) (neverQueued : NeverEnqueued after.trace) :
    Answered after.registry after.trace := by
  have suffix := suffix_of_effects effects
  have neverBefore := neverTorn.of_suffix suffix
  refine (inOrder.answered neverBefore (neverQueued.of_suffix suffix)).next inOrder.accounted
    (grows_of_effects effects neverTorn) (inOrder.registered neverBefore)
    (fun _ => []) (fun _ => []) (fun serial => ?_) (fun serial => ?_) (fun _ _ => ⟨rfl, rfl⟩)
    fun _ _ => .nil
  · rw [(quiet serial).1, List.append_nil]
  · rw [(quiet serial).2, List.append_nil]

theorem Step.queuesInOrder {before after : Console κ} (step : Step before after)
    (inOrder : QueuesInOrder before.registry before.trace) :
    QueuesInOrder after.registry after.trace :=
  inOrder.next step.effects (inOrder.answered_of_quiet step.effects step.quiet)

theorem Turn.queuesInOrder {before after : Console κ} (turn : Turn before after)
    (inOrder : QueuesInOrder before.registry before.trace) :
    QueuesInOrder after.registry after.trace := by
  apply inOrder.next turn.effects
  intro neverTorn neverQueued
  have suffix := turn.suffix
  have neverBefore := neverTorn.of_suffix suffix
  have queuedBefore := neverQueued.of_suffix suffix
  have registered := inOrder.registered neverBefore
  rcases turn.replayed inOrder.sound (inOrder.owned queuedBefore) registered with
    quiet | ⟨space, present, statement, calls, replays⟩
  · exact inOrder.answered_of_quiet turn.effects quiet neverTorn neverQueued
  · refine (inOrder.answered neverBefore queuedBefore).next inOrder.accounted
      (grows_of_effects turn.effects neverTorn) registered _ _ replays.taken replays.replays
      (fun serial beyond => ?_) fun other member => ?_
    · have apart : space.serial ≠ serial := ((Registry.serial_lt present).trans_le beyond).ne
      rw [if_neg apart, if_neg apart]
      exact ⟨rfl, rfl⟩
    · split
      · rename_i same
        rw [Registry.eq_of_serial present member same.symm]
        exact replays.matched
      · exact .nil

theorem queuesInOrder_empty : QueuesInOrder (κ := κ) .empty [] where
  sound := ⟨fun _ member => absurd member List.not_mem_nil, List.nodup_nil⟩
  accounted := ⟨fun _ _ => ⟨rfl, rfl⟩, fun _ member => absurd member List.not_mem_nil⟩
  registered := fun _ _ member => absurd member List.not_mem_nil
  owned := fun _ _ member => absurd member List.not_mem_nil
  answered := fun _ _ => ⟨fun _ _ => rfl, fun _ member => absurd member List.not_mem_nil⟩

theorem Console.Reachable.queuesInOrder {console : Console κ} (reachable : console.Reachable) :
    ∀ moment ∈ console.moments, QueuesInOrder moment.1 moment.2 :=
  reachable.always Step.queuesInOrder Turn.queuesInOrder queuesInOrder_empty

/-- Whatever callbacks do, also in the middle of a replay, what the queue of a namespace in the
table has accepted is what has been taken from it and then what is in it. Without a teardown, and if
nobody puts statements into queues past the console, the statements taken that have something to
call have each led to one call, in their order. -/
theorem queue_in_order {console : Console κ} (reachable : console.Reachable)
    {registry : Registry κ} {trace : List (Event κ)} (moment : (registry, trace) ∈ console.moments)
    {space : Namespace κ} (present : space ∈ registry.table) :
    accepted space.serial trace = taken space.serial trace ++ space.pending ∧
      (NeverTornDown trace → NeverEnqueued trace →
        List.Forall₂ space.IsReplay
          ((taken space.serial trace).filter fun statement => (space.callback? statement).isSome)
          (replays space.serial trace)) := by
  have inOrder := reachable.queuesInOrder _ moment
  exact ⟨inOrder.accounted.balanced space present,
    fun neverTorn neverQueued => (inOrder.answered neverTorn neverQueued).matched space present⟩

end Calls

/-- A command that, while its statement is replayed, detaches its namespace, executes itself once
more and attaches the namespace again. -/
def again : Conduct Unit := fun _ _ call =>
  match call.occasion with
  | .command ⟨[_, "twice"]⟩ =>
    .ask (.attach call.space none) fun _ =>
      .ask (.executeStatement ⟨["N.go", "once"]⟩) fun _ =>
        .ask (.attach call.space (some call.handler)) fun _ => .done true
  | _ => .done true

/-- A console that has replayed a queue inside of the replay of the same queue. -/
def twice : Console Unit :=
  (Console.empty .standard .empty).actAll again 3
    [.create ⟨.text "N", [⟨.text "go", some (.host ()), .text "<how often>"⟩], []⟩,
      .executeStatement ⟨["go", "twice"]⟩, .attach 0 (some .console)]

/-- Both replays are told, the inner one in the middle of the outer one. -/
theorem twice_in_order :
    taken 0 twice.trace = [⟨["N.go", "twice"]⟩, ⟨["N.go", "once"]⟩] ∧
      ∃ space ∈ twice.registry.table,
        accepted space.serial twice.trace = taken space.serial twice.trace ++ space.pending ∧
        List.Forall₂ space.IsReplay
          ((taken space.serial twice.trace).filter fun statement =>
            (space.callback? statement).isSome)
          (replays space.serial twice.trace) := by
  have reachable : twice.Reachable := (Console.Reachable.empty .standard .empty).actAll again 3 _
  have inside : 0 < twice.registry.table.length := by decide +kernel
  have present : twice.registry.table.get ⟨0, inside⟩ ∈ twice.registry.table := List.get_mem ..
  obtain ⟨balanced, matched⟩ := queue_in_order reachable List.mem_cons_self present
  exact ⟨by decide +kernel, _, present, balanced, matched (by decide +kernel) (by decide +kernel)⟩

end CommandConsole
