import CommandConsole.Proofs.Queue.Attendance
import CommandConsole.Proofs.Run.Table

set_option autoImplicit false

/-!
What comes into a queue after a teardown. A namespace that has left the table has nothing in its
queue but what has been put there since, past the console or by a change of one of its settings
(`Recounted`). Main statement: a callback that is called is given the handler of its own namespace,
unless it is called for a statement that has just been taken from such a queue, or for one that has
been put into a queue past the console (`Traced.latest`).
-/
namespace CommandConsole

variable {κ : Type}

/-- What has been told since a namespace left the table. -/
def LeftSince (serial : Nat) (trace since : List (Event κ)) : Prop :=
  ∃ declaration life earlier,
    trace = since ++ .retired :: (life ++ .created serial declaration :: earlier) ∧
      .retired ∉ life

/-- Somebody has put a statement into the queue of a namespace past the console, or a setting of the
namespace has been given the value that the statement tells. -/
def Namespace.Causes (space : Namespace κ) (statement : Statement) (since : List (Event κ)) :
    Prop :=
  Enqueued space.serial statement since ∨ ∃ entry token value,
    .changed space.serial entry value ∈ since ∧ statement = ⟨[qualify space.name entry, token]⟩ ∧
      Value.parse value.kind token = .ok value

/-- The queue of a namespace has accepted a statement, and it is told what the statement is for. -/
structure Namespace.Refills (space : Namespace κ) (statement : Statement)
    (since : List (Event κ)) : Prop where
  accepted : .offered space.serial statement true ∈ since
  caused : space.Causes statement since

/-- Whatever is in the queue of a namespace that has left the table has come there since. -/
def Recounted (registry : Registry κ) (trace : List (Event κ)) : Prop :=
  ∀ space ∈ registry.spaces, space.isRegistered = false →
    ∃ since, LeftSince space.serial trace since ∧
      ∀ statement ∈ space.pending, space.Refills statement since

section Since

variable {space : Namespace κ} {statement : Statement} {serial : Nat} {event : Event κ}
  {trace since : List (Event κ)}

theorem LeftSince.tell (left : LeftSince serial trace since) (event : Event κ) :
    LeftSince serial (event :: trace) (event :: since) := by
  obtain ⟨declaration, life, earlier, rfl, stayed⟩ := left
  exact ⟨declaration, life, earlier, rfl, stayed⟩

/-- What was told last has been told since, unless it is that the table was emptied. -/
theorem LeftSince.mem_of_head? (left : LeftSince serial trace since)
    (latest : trace.head? = some event) (other : event ≠ .retired) : event ∈ since := by
  obtain ⟨declaration, life, earlier, rfl, -⟩ := left
  cases since with
  | nil => exact absurd (Option.some.inj latest).symm other
  | cons first rest => exact Option.some.inj latest ▸ List.mem_cons_self

/-- A namespace in the table has been created since the table was last emptied. -/
theorem exists_created_of_live (member : serial ∈ live trace) : ∃ declaration life earlier,
    trace = life ++ .created serial declaration :: earlier ∧ .retired ∉ life := by
  induction trace with
  | nil => cases member
  | cons event rest ih =>
    by_cases first : ∃ declaration, event = .created serial declaration
    · obtain ⟨declaration, rfl⟩ := first
      exact ⟨declaration, [], rest, rfl, List.not_mem_nil⟩
    · by_cases emptied : event = .retired
      · subst emptied
        cases member
      · have inside : serial ∈ live rest := by
          cases event with
          | created space declaration =>
            rcases List.mem_append.mp member with inside | isLatest
            · exact inside
            · obtain rfl := List.mem_singleton.mp isLatest
              exact absurd ⟨declaration, rfl⟩ first
          | retired => exact absurd rfl emptied
          | _ => exact member
        obtain ⟨declaration, life, earlier, rfl, stayed⟩ := ih inside
        refine ⟨declaration, event :: life, earlier, rfl, fun isEvent => ?_⟩
        rcases List.mem_cons.mp isEvent with same | isEarlier
        · exact emptied same.symm
        · exact stayed isEarlier

theorem Namespace.Causes.tell (causes : space.Causes statement since) (event : Event κ) :
    space.Causes statement (event :: since) := by
  rcases causes with enqueued | ⟨entry, token, value, changed, tells⟩
  · exact .inl (enqueued.of_suffix (List.suffix_cons _ _))
  · exact .inr ⟨entry, token, value, List.mem_cons_of_mem _ changed, tells⟩

theorem Namespace.Refills.tell (refills : space.Refills statement since) (event : Event κ) :
    space.Refills statement (event :: since) :=
  ⟨List.mem_cons_of_mem _ refills.accepted, refills.caused.tell event⟩

theorem Namespace.Refills.of_shape {latter : Namespace κ} (refills : space.Refills statement since)
    (same : latter.shape = space.shape) : latter.Refills statement since := by
  have serial : latter.serial = space.serial := congrArg (·.serial) same
  have name : latter.name = space.name := congrArg (·.name) same
  refine ⟨serial ▸ refills.accepted, ?_⟩
  rw [Namespace.Causes, serial, name]
  exact refills.caused

end Since

namespace Recounted

variable {registry : Registry κ} {trace : List (Event κ)}

theorem tell (recounted : Recounted registry trace) (event : Event κ) :
    Recounted registry (event :: trace) := by
  intro space member left
  obtain ⟨since, leftSince, refills⟩ := recounted space member left
  exact ⟨event :: since, leftSince.tell event,
    fun statement queued => (refills statement queued).tell event⟩

/-- What a changed queue holds has been there before, or has come there since. -/
theorem update (recounted : Recounted registry trace) {change : Namespace κ → Namespace κ}
    (keeps : Namespace.KeepsShape change) (serial : Nat) (event : Event κ)
    (still : ∀ space ∈ registry.spaces, space.serial = serial → ∀ since,
      LeftSince space.serial trace since → space.isRegistered = false →
        ∀ statement ∈ (change space).pending,
          statement ∈ space.pending ∨ space.Refills statement (event :: since)) :
    Recounted (registry.update serial change) (event :: trace) := by
  refine Registry.forall_update keeps (recounted.tell event) ?_
  intro space member same left
  rw [keeps.isRegistered] at left
  obtain ⟨since, leftSince, refills⟩ := recounted space member left
  refine ⟨event :: since, by rw [keeps.serial]; exact leftSince.tell event, ?_⟩
  intro statement queued
  apply Namespace.Refills.of_shape _ (keeps space)
  rcases still space member same since leftSince left statement queued with earlier | refilled
  · exact (refills statement earlier).tell event
  · exact refilled

/-- Where no queue grows, nothing has to be accounted for. -/
theorem update_of_pending (recounted : Recounted registry trace)
    {change : Namespace κ → Namespace κ} (keeps : Namespace.KeepsShape change) (serial : Nat)
    (event : Event κ) (pending : ∀ space, (change space).pending ⊆ space.pending) :
    Recounted (registry.update serial change) (event :: trace) :=
  recounted.update keeps serial event fun _ _ _ _ _ _ _ queued => .inl (pending _ queued)

variable {console : Console κ} {space : Namespace κ}

theorem offering (recounted : Recounted console.registry console.trace)
    (present : space ∈ console.registry.spaces) {statement : Statement}
    (causes : ∀ since, LeftSince space.serial console.trace since → space.isRegistered = false →
      space.Causes statement since) :
    Recounted (console.offering space statement).registry
      (console.offering space statement).trace := by
  refine recounted.update (Namespace.keepsShape_offer _) _ _ ?_
  intro former isFormer same since leftSince left other queued
  obtain rfl := Registry.eq_of_serial present isFormer same
  simp only [Namespace.offer] at queued ⊢
  split at queued
  · exact .inl queued
  · rename_i free
    rcases List.mem_append.mp queued with earlier | latest
    · exact .inl earlier
    · obtain rfl := List.mem_singleton.mp latest
      rw [if_neg free]
      exact .inr ⟨List.mem_cons_self, (causes since leftSince left).tell _⟩

theorem assigning (recounted : Recounted console.registry console.trace) (setting : Setting κ)
    (value : Value) :
    Recounted (console.assigning space setting value).registry
      (console.assigning space setting value).trace :=
  recounted.update_of_pending (Namespace.keepsShape_assign _ _) _ _ fun _ => List.Subset.refl _

theorem handling (recounted : Recounted console.registry console.trace)
    (handler : Option Handler) :
    Recounted (console.handling space handler).registry (console.handling space handler).trace :=
  recounted.update_of_pending (Namespace.keepsShape_handle _) _ _ fun _ => List.Subset.refl _

theorem taking (recounted : Recounted console.registry console.trace) (statement : Statement) :
    Recounted (console.taking space statement).registry (console.taking space statement).trace :=
  recounted.update_of_pending Namespace.keepsShape_dequeue _ _ fun _ _ queued =>
    List.mem_of_mem_tail queued

theorem running (recounted : Recounted console.registry console.trace) (handler : Handler)
    (isReplay : Bool) (command : Command κ) (statement : Statement) :
    Recounted (console.running handler isReplay space command statement).registry
      (console.running handler isReplay space command statement).trace := by
  have executed := recounted.tell (.executed space.serial command.name statement)
  unfold Console.running
  cases command.action with
  | none => exact executed
  | some callback => exact executed.tell _

theorem notifying (recounted : Recounted console.registry console.trace) (handler : Handler)
    (isReplay : Bool) (setting : Setting κ) (value : Value) :
    Recounted (console.notifying handler isReplay space setting value).registry
      (console.notifying handler isReplay space setting value).trace := by
  unfold Console.notifying
  cases setting.onChange with
  | none => exact recounted
  | some callback => exact recounted.tell _

/-- All queues are empty where the table is emptied, but for those that have left it before. -/
theorem retiring (recounted : Recounted console.registry console.trace)
    (told : console.registry.table.map Namespace.serial = live console.trace) :
    Recounted console.retiring.registry console.retiring.trace := by
  intro space member _
  obtain ⟨-, former, isFormer, rfl⟩ := Registry.mem_retire member
  by_cases registered : former.isRegistered
  · have isLive : former.serial ∈ live console.trace :=
      told ▸ List.mem_map_of_mem (Registry.mem_table.mpr ⟨isFormer, registered⟩)
    obtain ⟨declaration, life, earlier, same, stayed⟩ := exists_created_of_live isLive
    rw [if_pos registered]
    have emptied : console.retiring.trace = .retired :: console.trace := rfl
    refine ⟨[], ⟨declaration, life, earlier, by rw [emptied, same]; rfl, stayed⟩, ?_⟩
    exact fun statement queued => absurd queued List.not_mem_nil
  · rw [if_neg registered]
    exact recounted.tell .retired former isFormer (by simpa using registered)

theorem creating (recounted : Recounted console.registry console.trace)
    {declaration : NamespaceDeclaration (Callback κ)}
    (declared : console.registry.declared console.config declaration = .ok space) :
    Recounted (console.creating declaration space).registry
      (console.creating declaration space).trace := by
  obtain ⟨-, -, -, isRegistered, -⟩ := Registry.declared_ok declared
  intro other member left
  rcases List.mem_append.mp member with isFormer | isNew
  · exact recounted.tell _ other isFormer left
  · obtain rfl := List.mem_singleton.mp isNew
    rw [show _ = true from isRegistered] at left
    cases left

end Recounted

section Steps

variable {before after : Console κ}

theorem Step.recounted (step : Step before after)
    (told : before.registry.table.map Namespace.serial = live before.trace)
    (recounted : Recounted before.registry before.trace) :
    Recounted after.registry after.trace := by
  cases step with
  | tell passing => exact recounted.tell _
  | store saved => exact recounted
  | create declared => exact recounted.creating declared
  | retire asked => exact recounted.retiring told
  | hold handler present retired => exact recounted.handling handler
  | enqueue present asked =>
    exact recounted.offering present fun since leftSince _ =>
      .inl ⟨_, leftSince.mem_of_head? asked fun same => by cases same⟩
  | run statement present found attached => exact recounted.running _ _ _ _
  | defer arguments present found detached =>
    -- A command is only deferred for a namespace that is found in the table.
    refine recounted.offering (Registry.mem_table.mp present).1 fun _ _ left => ?_
    rw [(Registry.mem_table.mp present).2] at left
    cases left
  | notify present found kind differs attached =>
    exact (recounted.assigning _ _).notifying _ _ _ _
  | postpone present found kind differs detached reads =>
    refine (recounted.assigning _ _).offering (mem_assigning present _ _)
      fun since leftSince _ => ?_
    have changed := leftSince.mem_of_head? rfl fun same => by cases same
    exact .inr ⟨_, _, _, changed, rfl, kind ▸ reads⟩
  | lose present found kind differs detached long => exact recounted.assigning _ _

theorem Replay.recounted {handler : Handler} {space : Namespace κ} {statement : Statement}
    (replay : Replay before handler space statement after)
    (recounted : Recounted before.registry before.trace) :
    Recounted after.registry after.trace := by
  cases replay with
  | command found => exact (recounted.taking _).running _ _ _ _
  | change found reads => exact (recounted.taking _).notifying _ _ _ _
  | fail unknown => exact recounted.taking _

theorem Turn.recounted (turn : Turn before after)
    (recounted : Recounted before.registry before.trace) :
    Recounted after.registry after.trace := by
  cases turn with
  | attach handler present => exact recounted.handling handler
  | replay present due replay => exact replay.recounted recounted

end Steps

/-- A namespace has a statement replayed that it does not answer for: somebody has put it into its
queue past the console, or the namespace has left the table and its queue has been refilled. The
call is the one that the statement leads to, and it is given the handler of this namespace. -/
structure Namespace.Diverts (space : Namespace κ) (call : Call κ) (earlier : List (Event κ)) :
    Prop where
  isReplay : call.isReplay = true
  handler : space.handler = some call.handler
  taken : ∃ statement past,
    (earlier = .taken space.serial statement :: past ∨
      earlier = .executed call.space call.entry statement ::
        .taken space.serial statement :: past) ∧
    (Enqueued space.serial statement past ∨ space.isRegistered = false ∧
      ∃ since, LeftSince space.serial past since ∧ space.Refills statement since)

/-- If the latest event is a call, it has the handler of its own namespace, or else it has been
diverted. -/
def LatestTraced (trace : List (Event κ)) : Prop :=
  ∀ call registry earlier, trace = .called call registry :: earlier →
    (∃ space ∈ registry.spaces, space.Attends call) ∨
      ∃ space ∈ registry.spaces, space.Diverts call earlier

/-- What is known of queues and of the latest call at every moment, whatever has been torn down. -/
structure Traced (registry : Registry κ) (trace : List (Event κ)) : Prop where
  sound : registry.Sound
  explained : Explained registry trace
  live : registry.table.map Namespace.serial = live trace
  recounted : Recounted registry trace
  latest : LatestTraced trace

section Calls

variable {before after : Console κ}

theorem Step.latestTraced (step : Step before after) (latest : LatestTraced before.trace) :
    LatestTraced after.trace := by
  intro call registry earlier called
  rcases step.attends called with called | ⟨-, attended⟩
  · exact latest call registry earlier called
  · exact .inl attended

/-- A statement that is taken is one of the namespace itself, or else one that it does not answer
for. -/
theorem Traced.origin (traced : Traced before.registry before.trace) {space : Namespace κ}
    (present : space ∈ before.registry.spaces) {handler : Handler} {statement : Statement}
    (due : space.due? = some (handler, statement)) :
    (space ∈ before.registry.table ∧ space.Owns statement) ∨
      (Enqueued space.serial statement before.trace ∨ space.isRegistered = false ∧
        ∃ since, LeftSince space.serial before.trace since ∧
          space.dequeue.Refills statement since) := by
  have queued : statement ∈ space.pending :=
    (Namespace.pending_of_due due).2 ▸ List.mem_cons_self
  rcases traced.explained space present statement queued with owned | enqueued
  · by_cases registered : space.isRegistered
    · exact .inl ⟨Registry.mem_table.mpr ⟨present, registered⟩, owned⟩
    · have left : space.isRegistered = false := by simpa using registered
      obtain ⟨since, leftSince, refills⟩ := traced.recounted space present left
      exact .inr (.inr ⟨left, since, leftSince,
        (refills statement queued).of_shape (Namespace.keepsShape_dequeue space)⟩)
  · exact .inr (.inl enqueued)

/-- A statement that is replayed leads to an entry of the namespace whose queue it comes from, or it
is diverted. -/
theorem Turn.latestTraced (turn : Turn before after)
    (traced : Traced before.registry before.trace) : LatestTraced after.trace := by
  cases turn with
  | attach handler present => exact fun _ _ _ same => by cases same
  | @replay _ handler statement space present due replay =>
    intro call registry earlier called
    obtain ⟨attached, -⟩ := Namespace.pending_of_due due
    obtain ⟨rfl, isReplay, rfl, past, attends⟩ := replay.called called
    have still := mem_taking present statement
    rcases traced.origin present due with ⟨inTable, owned⟩ | diverted
    · exact .inl ⟨space.dequeue, still, attends traced.sound inTable attached owned⟩
    · exact .inr ⟨space.dequeue, still, isReplay, attached, statement, before.trace, past,
        diverted⟩

theorem Step.traced (step : Step before after) (traced : Traced before.registry before.trace) :
    Traced after.registry after.trace where
  sound := holds_of_effects Effect.sound step.effects traced.sound
  explained := holds_of_effects Effect.explained step.effects traced.explained
  live := holds_of_effects Effect.live step.effects traced.live
  recounted := step.recounted traced.live traced.recounted
  latest := step.latestTraced traced.latest

theorem Turn.traced (turn : Turn before after) (traced : Traced before.registry before.trace) :
    Traced after.registry after.trace where
  sound := holds_of_effects Effect.sound turn.effects traced.sound
  explained := holds_of_effects Effect.explained turn.effects traced.explained
  live := holds_of_effects Effect.live turn.effects traced.live
  recounted := turn.recounted traced.recounted
  latest := turn.latestTraced traced

theorem Console.Reachable.traced {console : Console κ} (reachable : console.Reachable) :
    ∀ moment ∈ console.moments, Traced moment.1 moment.2 :=
  reachable.always Step.traced Turn.traced
    ⟨⟨fun _ member => absurd member List.not_mem_nil, List.nodup_nil⟩,
      fun _ member => absurd member List.not_mem_nil, rfl,
      fun _ member => absurd member List.not_mem_nil, fun _ _ _ same => by cases same⟩

end Calls

end CommandConsole
