import CommandConsole.Proofs.Queue.Order

set_option autoImplicit false

namespace CommandConsole

variable {κ : Type}

/-- What an entry can be called for: a command for a statement, a setting for a value of its
kind. -/
def Entry.Takes : Entry κ → Occasion → Prop
  | .command _, .command _ => True
  | .setting found, .change value => value.kind = found.kind
  | _, _ => False

theorem Entry.takes_pristine (entry : Entry κ) (occasion : Occasion) :
    entry.pristine.Takes occasion ↔ entry.Takes occasion := by
  cases entry <;> cases occasion <;> exact Iff.rfl

/-- A call of an entry of a namespace, with the handler that the namespace has. -/
structure Namespace.Attends (space : Namespace κ) (call : Call κ) : Prop where
  serial : space.serial = call.space
  handler : space.handler = some call.handler
  called : ∃ entry ∈ space.entries, entry.name = call.entry ∧
    entry.callback? = some call.callback ∧ entry.Takes call.occasion

/-- If the latest event is a call, a namespace in the table attends to it, unless a namespace has
left the table before or a statement has come into a queue past the console. -/
def LatestAttended (trace : List (Event κ)) : Prop :=
  ∀ call registry earlier, trace = .called call registry :: earlier →
    NeverTornDown earlier → NeverEnqueued earlier → ∃ space ∈ registry.table, space.Attends call

section Calls

variable {console before after : Console κ} {space : Namespace κ} {handler : Handler}
  {isReplay : Bool} {statement : Statement}

theorem called_running {command : Command κ} {call : Call κ} {registry : Registry κ}
    {earlier : List (Event κ)}
    (called : (console.running handler isReplay space command statement).trace =
      .called call registry :: earlier) :
    ∃ callback, command.action = some callback ∧
      call = ⟨callback, space.serial, command.name, handler, .command statement, isReplay⟩ ∧
      registry = console.registry ∧
      earlier = .executed space.serial command.name statement :: console.trace := by
  unfold Console.running at called
  cases action : command.action with
  | none =>
    simp only [action] at called
    cases called
  | some callback =>
    simp only [action] at called
    cases called
    exact ⟨callback, rfl, rfl, rfl, rfl⟩

/-- The latest call, where a setting's callback has been told a value if there is one. -/
theorem called_notifying {setting : Setting κ} {value : Value} {call : Call κ}
    {registry : Registry κ} {earlier : List (Event κ)}
    (called : (console.notifying handler isReplay space setting value).trace =
      .called call registry :: earlier) :
    console.trace = .called call registry :: earlier ∨
      ∃ callback, setting.onChange = some callback ∧
        call = ⟨callback, space.serial, setting.name, handler, .change value, isReplay⟩ ∧
        registry = console.registry ∧ earlier = console.trace := by
  unfold Console.notifying at called
  cases onChange : setting.onChange with
  | none =>
    simp only [onChange] at called
    exact .inl called
  | some callback =>
    simp only [onChange] at called
    cases called
    exact .inr ⟨callback, rfl, rfl, rfl, rfl⟩

theorem Namespace.attends_command {command : Command κ} {callback : Callback κ}
    (attached : space.handler = some handler) (member : .command command ∈ space.entries)
    (action : command.action = some callback) :
    space.Attends
      ⟨callback, space.serial, command.name, handler, .command statement, isReplay⟩ :=
  ⟨rfl, attached, _, member, rfl, action, trivial⟩

/-- A setting may have been assigned to since it was found; only its value is another one then. -/
theorem Namespace.attends_setting {setting : Setting κ} {callback : Callback κ} {value : Value}
    (attached : space.handler = some handler)
    (member : ∃ entry ∈ space.entries, entry.pristine = (Entry.setting setting).pristine)
    (onChange : setting.onChange = some callback) (kind : value.kind = setting.kind) :
    space.Attends ⟨callback, space.serial, setting.name, handler, .change value, isReplay⟩ := by
  obtain ⟨entry, member, pristine⟩ := member
  refine ⟨rfl, attached, entry, member, ?_, ?_, ?_⟩
  · rw [← entry.name_pristine, pristine, Entry.name_pristine]
    rfl
  · rw [← entry.callback?_pristine, pristine, Entry.callback?_pristine]
    exact onChange
  · rw [← entry.takes_pristine, pristine, Entry.takes_pristine]
    exact kind

/-- A step calls only for namespaces that are attached, with their own handlers. -/
theorem Step.attends (step : Step before after) {call : Call κ} {registry : Registry κ}
    {earlier : List (Event κ)} (called : after.trace = .called call registry :: earlier) :
    before.trace = .called call registry :: earlier ∨
      registry = after.registry ∧ ∃ space ∈ registry.spaces, space.Attends call := by
  cases step with
  | @tell event passing =>
    cases called
    exact passing.elim
  | store saved => exact .inl called
  | @run _ space command statement present found attached =>
    obtain ⟨callback, action, rfl, rfl, rfl⟩ := called_running called
    have member := (Namespace.find?_ok found).1
    exact .inr ⟨(Console.registry_running ..).symm, space, (Registry.mem_table.mp present).1,
      Namespace.attends_command attached member action⟩
  | @notify handler space setting value present found kind differs attached =>
    rcases called_notifying called with called | ⟨callback, onChange, rfl, rfl, rfl⟩
    · cases called
    · have member := Namespace.exists_entry_of_shape
        (Namespace.keepsShape_assign setting.name value space) (Namespace.find?_ok found).1
      exact .inr ⟨(Console.registry_notifying ..).symm, space.assign setting.name value,
        mem_assigning present setting value,
        Namespace.attends_setting attached member onChange kind⟩
  | _ => cases called

/-- A replay calls with the handler of the namespace whose queue the statement comes from. If the
statement is one of this namespace, the call is for an entry of it. -/
theorem Replay.called (replay : Replay before handler space statement after) {call : Call κ}
    {registry : Registry κ} {earlier : List (Event κ)}
    (called : after.trace = .called call registry :: earlier) :
    registry = (before.taking space statement).registry ∧ call.isReplay = true ∧
      call.handler = handler ∧
      (earlier = (before.taking space statement).trace ∨
        earlier = .executed call.space call.entry statement ::
          (before.taking space statement).trace) ∧
      (before.registry.Sound → space ∈ before.registry.table → space.handler = some handler →
        space.Owns statement → space.dequeue.Attends call) := by
  cases replay with
  | @command owner command named =>
    obtain ⟨callback, action, rfl, rfl, rfl⟩ := called_running called
    refine ⟨rfl, rfl, rfl, .inr rfl, fun sound present attached owned => ?_⟩
    obtain ⟨entry, member, isFound, -⟩ := owned.lookup_taking sound present
    rw [named] at isFound
    obtain ⟨rfl, rfl⟩ := Prod.mk.inj (Except.ok.inj isFound)
    exact Namespace.attends_command attached member action
  | @change owner setting value named reads =>
    rcases called_notifying called with called | ⟨callback, onChange, rfl, rfl, rfl⟩
    · cases called
    · refine ⟨rfl, rfl, rfl, .inl rfl, fun sound present attached owned => ?_⟩
      obtain ⟨entry, member, isFound, -⟩ := owned.lookup_taking sound present
      rw [named] at isFound
      obtain ⟨rfl, rfl⟩ := Prod.mk.inj (Except.ok.inj isFound)
      obtain ⟨token, rest, -, isRead⟩ := reads (Option.isSome_of_eq_some onChange)
      exact Namespace.attends_setting attached ⟨_, member, rfl⟩ onChange
        (Value.kind_of_parse isRead)
  | fail unknown => cases called

theorem Step.latestAttended (step : Step before after)
    (inOrder : QueuesInOrder before.registry before.trace)
    (latest : LatestAttended before.trace) : LatestAttended after.trace := by
  intro call registry earlier called neverTorn neverQueued
  rcases step.attends called with called | ⟨rfl, space, present, attends⟩
  · exact latest call registry earlier called neverTorn neverQueued
  · have neverTornAfter : NeverTornDown after.trace := by
      rw [called]
      exact List.forall_mem_cons.mpr ⟨rfl, neverTorn⟩
    have registered := (step.queuesInOrder inOrder).registered neverTornAfter space present
    exact ⟨space, Registry.mem_table.mpr ⟨present, registered⟩, attends⟩

/-- A statement that is replayed is one of the namespace whose queue it comes from, so that the
handler of this namespace is the right one. -/
theorem Turn.latestAttended (turn : Turn before after)
    (inOrder : QueuesInOrder before.registry before.trace) : LatestAttended after.trace := by
  cases turn with
  | attach handler present => exact fun _ _ _ same => by cases same
  | @replay _ handler statement space present due replay =>
    intro call registry earlier called neverTorn neverQueued
    obtain ⟨attached, pending⟩ := Namespace.pending_of_due due
    obtain ⟨rfl, -, -, past, attends⟩ := replay.called called
    have suffix : before.trace <:+ earlier := by
      rcases past with rfl | rfl
      · exact List.suffix_cons _ _
      · exact (List.suffix_cons _ _).trans (List.suffix_cons _ _)
    have registered := inOrder.registered (neverTorn.of_suffix suffix) space present
    have inTable : space ∈ before.registry.table := Registry.mem_table.mpr ⟨present, registered⟩
    have owned := inOrder.owned (neverQueued.of_suffix suffix) space present statement
      (pending ▸ List.mem_cons_self)
    exact ⟨space.dequeue, mem_table_taking inTable statement,
      attends inOrder.sound inTable attached owned⟩

/-- What is known of queues and of the latest call at every moment. -/
structure Attended (registry : Registry κ) (trace : List (Event κ)) : Prop where
  inOrder : QueuesInOrder registry trace
  latest : LatestAttended trace

theorem Step.attended (step : Step before after)
    (attended : Attended before.registry before.trace) : Attended after.registry after.trace :=
  ⟨step.queuesInOrder attended.inOrder, step.latestAttended attended.inOrder attended.latest⟩

theorem Turn.attended (turn : Turn before after)
    (attended : Attended before.registry before.trace) : Attended after.registry after.trace :=
  ⟨turn.queuesInOrder attended.inOrder, turn.latestAttended attended.inOrder⟩

theorem Console.Reachable.attended (reachable : console.Reachable) :
    ∀ moment ∈ console.moments, Attended moment.1 moment.2 :=
  reachable.always Step.attended Turn.attended
    ⟨queuesInOrder_empty, fun _ _ _ same => by cases same⟩

/-- Whatever callbacks do, each is called for an entry of a namespace that is in the table and has a
handler, with the handler that this namespace has at that moment, and a setting's callback is told a
value of the setting's kind; unless a namespace has left the table before, or a statement has come
into a queue past the console. -/
theorem called_attended (reachable : console.Reachable) {call : Call κ} {registry : Registry κ}
    {earlier : List (Event κ)} (called : .called call registry :: earlier <:+ console.trace)
    (neverTorn : NeverTornDown earlier) (neverQueued : NeverEnqueued earlier) :
    ∃ space ∈ registry.table, space.serial = call.space ∧ space.handler = some call.handler ∧
      ∃ entry ∈ space.entries, entry.name = call.entry ∧
        entry.callback? = some call.callback ∧ entry.Takes call.occasion := by
  obtain ⟨space, present, attends⟩ := (reachable.attended _ (mem_moments_of_called called)).latest
    call registry earlier rfl neverTorn neverQueued
  exact ⟨space, present, attends.serial, attends.handler, attends.called⟩

end Calls

def handing : Conduct Unit := fun _ _ call =>
  match call.occasion with
  | .command ⟨[_, "first"]⟩ =>
    .ask (.attach call.space (some (.label "other"))) fun _ => .done true
  | _ => .done true

/-- A console that was given another handler in the middle of a replay. -/
def handed : Console Unit :=
  (Console.empty .standard .empty).actAll handing 3
    [.create ⟨.text "N", [⟨.text "go", some (.host ()), .null⟩], []⟩,
      .executeStatement ⟨["go", "first"]⟩, .executeStatement ⟨["go", "last"]⟩,
      .attach 0 (some (.label "one"))]

def Event.isHanded : Event Unit → Bool
  | called call _ => call.isReplay && call.handler == .label "other"
  | _ => false

/-- The second statement is replayed with the handler that there is by then. -/
theorem handed_attended :
    ∃ call registry earlier, .called call registry :: earlier <:+ handed.trace ∧
      call.isReplay = true ∧ call.handler = .label "other" ∧
      ∃ space ∈ registry.table, space.serial = call.space ∧ space.handler = some call.handler ∧
        ∃ entry ∈ space.entries, entry.name = call.entry ∧
          entry.callback? = some call.callback ∧ entry.Takes call.occasion := by
  have reachable : handed.Reachable := (Console.Reachable.empty .standard .empty).actAll handing 3 _
  have suffix := List.drop_suffix 2 handed.trace
  have isHanded : (handed.trace.drop 2).head?.any Event.isHanded = true := by decide +kernel
  cases latest : handed.trace.drop 2 with
  | nil =>
    rw [latest] at isHanded
    cases isHanded
  | cons event earlier =>
    rw [latest] at isHanded suffix
    cases event with
    | called call registry =>
      have isReplay : call.isReplay = true ∧ call.handler = .label "other" := by
        simpa [Event.isHanded] using isHanded
      have before := (List.suffix_cons _ _).trans suffix
      have neverTorn : NeverTornDown handed.trace := by decide +kernel
      have neverQueued : NeverEnqueued handed.trace := by decide +kernel
      exact ⟨call, registry, earlier, suffix, isReplay.1, isReplay.2,
        called_attended reachable suffix (neverTorn.of_suffix before)
          (neverQueued.of_suffix before)⟩
    | _ => cases isHanded

end CommandConsole
