import CommandConsole.Proofs.Queue.Drained
import CommandConsole.Proofs.Queue.Outlook
import CommandConsole.Proofs.Queue.Replayable
import CommandConsole.Proofs.Run.Recorder

set_option autoImplicit false

namespace CommandConsole

variable {κ : Type}

/-- Whether an event takes a statement, if it does, from the queue of a namespace in the table. -/
def Event.isLive (earlier : List (Event κ)) : Event κ → Bool
  | taken space _ => (live earlier).contains space
  | _ => true

def takenLive : List (Event κ) → Bool
  | [] => true
  | event :: earlier => event.isLive earlier && takenLive earlier

def Event.isKept : Event κ → Bool
  | offered _ _ accepted => accepted
  | _ => true

def Event.isWritable : Event κ → Bool
  | changed _ _ value => value.isWritable
  | _ => true

/-- No queue has turned a statement away. -/
def NeverDropped (trace : List (Event κ)) : Prop :=
  ∀ event ∈ trace, event.isKept = true

def Writable (trace : List (Event κ)) : Prop :=
  ∀ event ∈ trace, event.isWritable = true

instance (trace : List (Event κ)) : Decidable (NeverDropped trace) :=
  inferInstanceAs (Decidable (∀ event ∈ trace, event.isKept = true))

instance (trace : List (Event κ)) : Decidable (Writable trace) :=
  inferInstanceAs (Decidable (∀ event ∈ trace, event.isWritable = true))

/-- Nothing has kept a change of a setting from its callback: nobody has put a statement into a
queue past the console, no queue has turned one away, values can be written, and no statement was
replayed for a namespace that had left the table. -/
structure Faithful (trace : List (Event κ)) : Prop where
  queued : NeverEnqueued trace
  kept : NeverDropped trace
  writable : Writable trace
  live : takenLive trace

instance (trace : List (Event κ)) : Decidable (Faithful trace) :=
  decidable_of_iff (NeverEnqueued trace ∧ NeverDropped trace ∧ Writable trace ∧ takenLive trace)
    ⟨fun all => ⟨all.1, all.2.1, all.2.2.1, all.2.2.2⟩,
      fun faithful => ⟨faithful.queued, faithful.kept, faithful.writable, faithful.live⟩⟩

theorem takenLive_of_suffix {earlier later : List (Event κ)} (isLive : takenLive later)
    (suffix : earlier <:+ later) : takenLive earlier := by
  obtain ⟨events, rfl⟩ := suffix
  induction events with
  | nil => exact isLive
  | cons event rest ih =>
    rw [List.cons_append, takenLive, Bool.and_eq_true] at isLive
    exact ih isLive.2

theorem Faithful.of_suffix {earlier later : List (Event κ)} (faithful : Faithful later)
    (suffix : earlier <:+ later) : Faithful earlier where
  queued := faithful.queued.of_suffix suffix
  kept event member := faithful.kept event (suffix.subset member)
  writable event member := faithful.writable event (suffix.subset member)
  live := takenLive_of_suffix faithful.live suffix

/-- What is known of queues and of what callbacks have heard. -/
structure Watched (registry : Registry κ) (trace : List (Event κ)) : Prop where
  inOrder : QueuesInOrder registry trace
  live : registry.table.map Namespace.serial = live trace
  unheard : ∀ serial, registry.spaces.length ≤ serial → ∀ entry,
    lastHeard serial entry trace = none ∧ overtaken? serial entry trace = none
  agreed : Faithful trace → Agreed registry trace

section Steps

variable {before after : Console κ}

/-- Nothing is told of the settings of namespaces that do not exist yet. -/
theorem Step.noNews (step : Step before after) {serial : Nat}
    (beyond : before.registry.spaces.length ≤ serial) (entry : String) :
    NoNews serial entry before.trace after.trace := by
  have apart {space : Namespace κ} (present : space ∈ before.registry.spaces) (name : String) :
      ¬ (space.serial = serial ∧ name = entry) := by
    have inside := Registry.serial_lt present
    omega
  cases step with
  | @tell event passing =>
    cases event <;> first | exact passing.elim | exact .tell _ rfl rfl
  | store saved => exact .refl _
  | run statement present found attached => exact noNews_running ..
  | notify present found kind differs attached =>
    exact (noNews_assigning _ _ (apart present _)).trans
      (noNews_notifying _ _ _ _ (apart present _))
  | postpone present found kind differs detached reads =>
    exact (noNews_assigning _ _ (apart present _)).trans (.tell _ rfl rfl)
  | lose present found kind differs detached long => exact noNews_assigning _ _ (apart present _)
  | _ => exact .tell _ rfl rfl

theorem Turn.noNews (turn : Turn before after) {serial : Nat}
    (beyond : before.registry.spaces.length ≤ serial) (entry : String) :
    NoNews serial entry before.trace after.trace := by
  cases turn with
  | attach handler present => exact .tell _ rfl rfl
  | @replay _ handler statement space present due replay =>
    have taken : NoNews serial entry before.trace (before.taking space statement).trace :=
      .tell _ rfl rfl
    cases replay with
    | command found => exact taken.trans (noNews_running ..)
    | change found reads =>
      refine taken.trans (noNews_notifying _ _ _ _ fun same => ?_)
      have inside := Registry.serial_lt (Registry.mem_table.mp (Registry.lookup_ok found).1).1
      have length := before.registry.length_update space.serial Namespace.dequeue
      simp only [Console.taking, Console.tell, Console.change] at inside
      omega
    | fail unknown => exact taken

/-- A setting that has been assigned to is the one that was found, with the new value. -/
theorem Namespace.Sound.setting_assign {space : Namespace κ} {setting other : Setting κ}
    {value : Value} (sound : (space.assign setting.name value).Sound)
    (found : space.find? setting.name = some (.setting setting))
    (member : .setting other ∈ (space.assign setting.name value).entries)
    (name : setting.name = other.name) : other = { setting with current := value } :=
  Entry.setting.inj (sound.eq_of_name (Namespace.mem_assign found value) member name.symm)

theorem Agreed.notify (agreed : Agreed before.registry before.trace)
    (isSound : before.registry.Sound) (owned : before.registry.Owned) {space : Namespace κ}
    {setting : Setting κ} {value : Value} (present : space ∈ before.registry.spaces)
    (found : space.find? setting.name = some (.setting setting))
    (kind : value.kind = setting.kind) (handler : Handler) :
    Agreed ((before.assigning space setting value).notifying handler false space setting
      value).registry
      ((before.assigning space setting value).notifying handler false space setting
        value).trace := by
  have still := mem_assigning present setting value
  have sound := (isSound.assign present found kind).spaces _ still
  refine AgreedBut.complete (((agreed.leave fun serial entry =>
    space.serial = serial ∧ setting.name = entry).assigning value ⟨rfl, rfl⟩).notifying handler
      false value ⟨rfl, rfl⟩) fun owner isOwner other member observed ⟨serial, name⟩ => ?_
  rw [Console.registry_notifying] at isOwner
  obtain rfl := Registry.eq_of_serial still (Registry.mem_table.mp isOwner).1 serial.symm
  obtain rfl := sound.setting_assign found member name
  obtain ⟨callback, onChange⟩ : ∃ callback, setting.onChange = some callback :=
    Option.isSome_iff_exists.mp observed
  rw [Console.notifying_some onChange]
  refine Namespace.agrees_told still rfl rfl rfl rfl fun statement waits => ?_
  obtain ⟨queued, named⟩ := Namespace.mem_pending_of_waiting? waits
  have own := (owned space present statement queued).of_shape
    (Namespace.keepsShape_assign setting.name value space)
  exact own.exists_value sound member named

theorem Agreed.postpone (agreed : Agreed before.registry before.trace)
    (isSound : before.registry.Sound) {space : Namespace κ} {setting : Setting κ} {value : Value}
    {token : String} (present : space ∈ before.registry.spaces)
    (found : space.find? setting.name = some (.setting setting))
    (kind : value.kind = setting.kind) (reads : Value.parse setting.kind token = .ok value)
    (accepted : ((space.assign setting.name value).offer
      ⟨[qualify space.name setting.name, token]⟩).1) :
    Agreed ((before.assigning space setting value).offering (space.assign setting.name value)
      ⟨[qualify space.name setting.name, token]⟩).registry
      ((before.assigning space setting value).offering (space.assign setting.name value)
        ⟨[qualify space.name setting.name, token]⟩).trace := by
  have still := mem_assigning present setting value
  have sound := (isSound.assign present found kind).spaces _ still
  refine AgreedBut.complete (((agreed.leave fun serial entry =>
    space.serial = serial ∧ setting.name = entry).assigning value ⟨rfl, rfl⟩).offering still
      fun other member kept named => ?_)
        fun owner isOwner other member observed ⟨serial, name⟩ => ?_
  · exact kept ⟨rfl, (qualify_injective sound.isName.2 sound.isName.2 named).2⟩
  · have keeps := Namespace.keepsShape_offer (κ := κ) ⟨[qualify space.name setting.name, token]⟩
    have same := keeps.serial (space.assign setting.name value)
    obtain rfl := Registry.eq_of_serial (Registry.mem_update_self keeps still)
      (Registry.mem_table.mp isOwner).1 (serial.symm.trans same.symm)
    rw [Namespace.entries_offer] at member
    obtain rfl := sound.setting_assign found member name
    have waits := (space.assign setting.name value).waiting?_offer rfl accepted
    exact Namespace.agrees_queued same waits
      (by simp [Statement.value?, Statement.arguments, reads, Except.toOption])

/-- A namespace that nobody has told anything yet. -/
theorem Agreed.creating (agreed : Agreed before.registry before.trace)
    (unheard : ∀ serial, before.registry.spaces.length ≤ serial → ∀ entry,
      lastHeard serial entry before.trace = none ∧ overtaken? serial entry before.trace = none)
    {declaration : NamespaceDeclaration (Callback κ)} {space : Namespace κ}
    (declared : before.registry.declared before.config declaration = .ok space) :
    Agreed (before.creating declaration space).registry
      (before.creating declaration space).trace := by
  obtain ⟨-, -, shape, isRegistered, isNext, -⟩ := Registry.declared_ok declared
  intro other present setting member observed kept
  simp only [Console.creating, Console.tell, Registry.table_add isNext isRegistered] at present
  have created : NoNews other.serial setting.name before.trace
      (before.creating declaration space).trace := .tell _ rfl rfl
  rcases List.mem_append.mp present with present | present
  · exact agreed.news (fun _ _ _ => .tell _ rfl rfl) other present setting member observed kept
  · obtain rfl := List.mem_singleton.mp present
    have idle : other.pending = [] := (congrArg Namespace.pending shape).symm
    obtain ⟨noneHeard, noneOvertaken⟩ := unheard other.serial isNext.ge setting.name
    exact Namespace.agrees_of_unheard idle (created.heard.trans noneHeard)
      (created.overtaken.trans noneOvertaken)

/-- Nothing that happens at once lets a callback hear anything but the outlook. -/
theorem Step.agreed (step : Step before after)
    (inOrder : QueuesInOrder before.registry before.trace)
    (unheard : ∀ serial, before.registry.spaces.length ≤ serial → ∀ entry,
      lastHeard serial entry before.trace = none ∧ overtaken? serial entry before.trace = none)
    (faithful : Faithful after.trace) (agreed : Agreed before.registry before.trace) :
    Agreed after.registry after.trace := by
  have owned := inOrder.owned (faithful.queued.of_suffix step.suffix)
  cases step with
  | @tell event passing =>
    refine agreed.news fun _ _ _ => ?_
    cases event <;> first | exact passing.elim | exact .tell _ rfl rfl
  | store saved => exact agreed
  | create declared => exact agreed.creating unheard declared
  | retire asked =>
    intro space present
    simp only [Console.retiring, Console.tell, Registry.table_retire] at present
    exact absurd present List.not_mem_nil
  | hold handler present retired => exact agreed.handling _ handler
  | enqueue present asked =>
    exact absurd (List.mem_cons_of_mem _ (List.mem_of_mem_head? asked))
      (faithful.queued.not_mem rfl _)
  | run statement present found attached => exact agreed.running _ _ _ _ _
  | @defer space command arguments present found detached =>
    have sound := inOrder.sound.of_table present
    refine agreed.offering (Registry.mem_table.mp present).1 fun setting member _ named => ?_
    obtain ⟨-, same⟩ := qualify_injective sound.isName.2 sound.isName.2 named
    cases sound.eq_of_name member (Namespace.find?_ok found).1 same
  | notify present found kind differs attached =>
    exact agreed.notify inOrder.sound owned present found kind _
  | postpone present found kind differs detached reads =>
    exact agreed.postpone inOrder.sound present found kind reads
      (faithful.kept _ List.mem_cons_self)
  | @lose space setting value present found kind differs detached long =>
    have short : value.isWritable = true := faithful.writable _ List.mem_cons_self
    rw [long] at short
    cases short

/-- A statement that is taken while the namespace is in the table. -/
theorem mem_table_of_taking {space : Namespace κ} {statement : Statement}
    (serials : before.registry.table.map Namespace.serial = CommandConsole.live before.trace)
    (present : space ∈ before.registry.spaces)
    (taken : takenLive (before.taking space statement).trace) : space ∈ before.registry.table := by
  have member : space.serial ∈ before.registry.table.map Namespace.serial := by
    simp only [Console.taking, Console.tell, Console.change, takenLive, Event.isLive,
      Bool.and_eq_true, List.contains_iff_mem] at taken
    exact serials ▸ taken.1
  obtain ⟨other, isOther, same⟩ := List.mem_map.mp member
  exact Registry.eq_of_serial present (Registry.mem_table.mp isOther).1 same ▸ isOther

/-- Replaying a statement of a namespace in the table does not change the outlook. -/
theorem Turn.agreed (turn : Turn before after)
    (inOrder : QueuesInOrder before.registry before.trace)
    (serials : before.registry.table.map Namespace.serial = CommandConsole.live before.trace)
    (faithful : Faithful after.trace) (agreed : Agreed before.registry before.trace) :
    Agreed after.registry after.trace := by
  have owned := inOrder.owned (faithful.queued.of_suffix turn.suffix)
  cases turn with
  | attach handler present => exact agreed.handling _ handler
  | @replay _ handler statement space present due replay =>
    obtain ⟨attached, queued⟩ := Namespace.pending_of_due due
    have inTable := mem_table_of_taking serials present
      (takenLive_of_suffix faithful.live (suffix_of_effects replay.effects))
    have sound := inOrder.sound.of_table inTable
    have own := owned space present statement (queued ▸ List.mem_cons_self)
    obtain ⟨entry, member, isFound, named, kinds⟩ := own.lookup_taking inOrder.sound inTable
    -- All settings but the one that is replayed still agree; each case below settles that one.
    have rest := (agreed.leave fun serial name => space.serial = serial ∧ entry.name = name).taking
      present queued fun setting inside kept same =>
        kept ⟨rfl, (qualify_injective sound.isName.2 sound.isName.2 (named.symm.trans same)).2⟩
    have still := mem_taking present statement
    cases replay with
    | @command owner command found =>
      rw [isFound] at found
      obtain ⟨rfl, rfl⟩ := Prod.mk.inj (Except.ok.inj found)
      refine (rest.running handler true space.dequeue command statement).complete ?_
      rintro other isOther setting inside - ⟨serial, name⟩
      rw [Console.registry_running] at isOther
      obtain rfl := Registry.eq_of_serial still (Registry.mem_table.mp isOther).1 serial.symm
      cases sound.eq_of_name member inside name.symm
    | @change owner setting value found reads =>
      rw [isFound] at found
      obtain ⟨rfl, rfl⟩ := Prod.mk.inj (Except.ok.inj found)
      refine (rest.notifying handler true value ⟨rfl, rfl⟩).complete ?_
      rintro other isOther found inside observed ⟨serial, name⟩
      rw [Console.registry_notifying] at isOther
      obtain rfl := Registry.eq_of_serial still (Registry.mem_table.mp isOther).1 serial.symm
      cases sound.eq_of_name member inside name.symm
      obtain ⟨callback, onChange⟩ := Option.isSome_iff_exists.mp observed
      rw [Console.notifying_some onChange]
      have gives : statement.value? setting.kind = some value := by
        obtain ⟨token, more, arguments, isRead⟩ := reads observed
        obtain ⟨_, _, only, -⟩ := kinds setting rfl
        rw [only] at arguments
        obtain ⟨rfl, rfl⟩ := List.cons.inj arguments
        simp [Statement.value?, only, isRead, Except.toOption]
      exact (agreed space inTable setting member observed id).replay queued named gives rfl rfl rfl
        rfl
    | fail unknown =>
      obtain ⟨setting, rfl, -, unread⟩ := unknown _ _ isFound
      obtain ⟨token, value, arguments, reads⟩ := kinds setting rfl
      exact absurd reads (unread token [] value arguments)

theorem Watched.next (watched : Watched before.registry before.trace)
    (effects : Effects before after)
    (inOrder : QueuesInOrder after.registry after.trace)
    (noNews : ∀ serial, before.registry.spaces.length ≤ serial → ∀ entry,
      NoNews serial entry before.trace after.trace)
    (agreed : Faithful after.trace → Agreed before.registry before.trace →
      Agreed after.registry after.trace) :
    Watched after.registry after.trace where
  inOrder := inOrder
  live := holds_of_effects Effect.live effects watched.live
  unheard serial beyond entry := by
    have beyondBefore := (remains_of_effects effects).1.trans beyond
    have same := noNews serial beyondBefore entry
    rw [same.heard, same.overtaken]
    exact watched.unheard serial beyondBefore entry
  agreed faithful :=
    agreed faithful (watched.agreed (faithful.of_suffix (suffix_of_effects effects)))

theorem Step.watched (step : Step before after)
    (watched : Watched before.registry before.trace) : Watched after.registry after.trace :=
  watched.next step.effects (step.queuesInOrder watched.inOrder) (fun _ => step.noNews)
    (step.agreed watched.inOrder watched.unheard)

theorem Turn.watched (turn : Turn before after)
    (watched : Watched before.registry before.trace) : Watched after.registry after.trace :=
  watched.next turn.effects (turn.queuesInOrder watched.inOrder) (fun _ => turn.noNews)
    (turn.agreed watched.inOrder watched.live)

theorem Console.Reachable.watched {console : Console κ} (reachable : console.Reachable) :
    Watched console.registry console.trace :=
  reachable.holds_of_turns Step.watched Turn.watched fun _ _ =>
    ⟨queuesInOrder_empty, rfl, fun _ _ _ => ⟨rfl, rfl⟩,
      fun _ _ member => absurd member List.not_mem_nil⟩

end Steps

theorem Console.Reachable.bounded {console : Console κ} (reachable : console.Reachable) :
    Bounded [] (fun _ => (0 : ℕ)) console := by
  have invariants : Invariants fun index : List (Event κ) × (ℕ → WithBot ℕ) =>
      Bounded index.1 index.2 :=
    ⟨Step.bounded, fun calls rounds index serial handler =>
      keeps_setHandler (fun past bounds => calls (past, bounds)) rounds serial handler⟩
  exact reachable.holds invariants ([], fun _ => (0 : ℕ)) fun _ _ =>
    ⟨⟨⟨fun _ member => absurd member List.not_mem_nil, List.nodup_nil⟩,
      fun _ _ member => absurd member List.not_mem_nil,
      fun _ _ member => absurd member List.not_mem_nil, by simp⟩, List.nil_suffix,
      fun _ _ member => absurd member List.not_mem_nil⟩

/-- Between the operations of the host nothing waits for a setting of an attached namespace. -/
theorem Console.Reachable.waiting?_eq_none {console : Console κ} (reachable : console.Reachable)
    (orderly : Orderly console.trace) {space : Namespace κ}
    (present : space ∈ console.registry.table) (attached : space.isAttached) (entry : String) :
    space.waiting? entry = none := by
  obtain ⟨inside, registered⟩ := Registry.mem_table.mp present
  obtain ⟨handler, handled⟩ := Option.isSome_iff_exists.mp attached
  have owed := reachable.bounded.owes orderly space inside
  rw [Namespace.debt_of_attached registered handled, Nat.cast_le] at owed
  have idle : space.pending = [] := List.length_eq_zero_iff.mp (Nat.le_zero.mp owed)
  simp [Namespace.waiting?, idle]

/-- Between the operations of the host, if callbacks raise nothing but console errors, usages can be
written and nothing has kept a change from a callback: what the callback of a setting of an attached
namespace in the table has heard last is what the setting holds. Only where the callback was told of
the latest change at once while earlier ones waited in the queue, it has heard the last of these
since. -/
theorem heard_current {console : Console κ} (reachable : console.Reachable)
    (calm : Calm console.trace) (described : Described console.trace)
    (faithful : Faithful console.trace) {space : Namespace κ}
    (present : space ∈ console.registry.table) (attached : space.isAttached)
    {setting : Setting κ} (member : .setting setting ∈ space.entries)
    (observed : setting.onChange.isSome) {value : Value}
    (heard : lastHeard space.serial setting.name console.trace = some value) :
    (overtaken? space.serial setting.name console.trace = none → value = setting.current) ∧
      ∀ statement, overtaken? space.serial setting.name console.trace = some statement →
        statement.value? setting.kind = some value := by
  have agrees := reachable.watched.agreed faithful space present setting member observed id
  have idle := reachable.waiting?_eq_none ⟨calm, described, faithful.queued⟩ present attached
    setting.name
  -- Where nothing waits, what will have been heard last is what has been heard last.
  have outlook : space.outlook? console.trace setting = some value := by
    simp only [Namespace.outlook?, idle, heard]
  refine ⟨fun none => ?_, fun statement overtaken => ?_⟩
  · simp only [Namespace.Agrees, none, outlook] at agrees
    exact agrees value rfl
  · simp only [Namespace.Agrees, overtaken, outlook] at agrees
    obtain ⟨given, gives, same⟩ := agrees
    exact (Option.some.inj same) ▸ gives

def capping : Conduct Unit := fun _ _ call =>
  match call.occasion with
  | .change (.integer number) =>
    if 100 < number then
      .ask (.set (.kept call.space call.entry) (.plain (.integer 100))) fun _ => .done true
    else .done true
  | _ => .done true

def corrected : Console Unit :=
  (Console.empty .standard .empty).actAll capping 3
    [.create gauge, .execute "v 300", .attach 0 (some .console)]

/-- A console where the correction of the first change has overtaken the second one. -/
def capped : Console Unit :=
  (Console.empty .standard .empty).actAll capping 3
    [.create gauge, .execute "v 300", .execute "v 200", .attach 0 (some .console)]

/-- Whether some callback of an attached namespace has heard a value last, after the latest change
has overtaken a statement or none. -/
def Console.hears (console : Console κ) (value : Value) (statement? : Option Statement) : Bool :=
  console.registry.table.any fun space => space.isAttached && space.entries.any fun entry =>
    entry.setting?.any fun setting => setting.onChange.isSome &&
      lastHeard space.serial setting.name console.trace == some value &&
      overtaken? space.serial setting.name console.trace == statement?

theorem Console.exists_of_hears {console : Console κ} {value : Value}
    {statement? : Option Statement} (hears : console.hears value statement?) :
    ∃ space ∈ console.registry.table, space.isAttached ∧
      ∃ setting, .setting setting ∈ space.entries ∧ setting.onChange.isSome ∧
        lastHeard space.serial setting.name console.trace = some value ∧
        overtaken? space.serial setting.name console.trace = statement? := by
  simp only [Console.hears, List.any_eq_true, Bool.and_eq_true] at hears
  obtain ⟨space, present, attached, entry, member, found⟩ := hears
  cases entry with
  | command command => cases found
  | setting setting =>
    simp only [Entry.setting?, Option.any_some, Bool.and_eq_true, beq_iff_eq] at found
    exact ⟨space, present, attached, setting, member, found.1.1, found.1.2, found.2⟩

/-- The correction has been heard last where nothing waited behind it, and else the change that it
has overtaken. -/
theorem capped_heard :
    (∃ space ∈ corrected.registry.table, ∃ setting, .setting setting ∈ space.entries ∧
      lastHeard space.serial setting.name corrected.trace = some (.integer 100) ∧
      .integer 100 = setting.current) ∧
    ∃ space ∈ capped.registry.table, ∃ setting, .setting setting ∈ space.entries ∧
      lastHeard space.serial setting.name capped.trace = some (.integer 200) ∧
      Statement.value? ⟨["N.v", "200"]⟩ setting.kind = some (.integer 200) := by
  constructor
  · have hears : corrected.hears (.integer 100) none := by decide +kernel
    obtain ⟨space, present, attached, setting, member, observed, heard, none⟩ :=
      Console.exists_of_hears hears
    have reachable : corrected.Reachable :=
      (Console.Reachable.empty .standard .empty).actAll capping 3 _
    exact ⟨space, present, setting, member, heard,
      (heard_current reachable (by decide +kernel) (by decide +kernel) (by decide +kernel) present
        attached member observed heard).1 none⟩
  · have hears : capped.hears (.integer 200) (some ⟨["N.v", "200"]⟩) := by decide +kernel
    obtain ⟨space, present, attached, setting, member, observed, heard, overtaken⟩ :=
      Console.exists_of_hears hears
    have reachable : capped.Reachable :=
      (Console.Reachable.empty .standard .empty).actAll capping 3 _
    exact ⟨space, present, setting, member, heard,
      (heard_current reachable (by decide +kernel) (by decide +kernel) (by decide +kernel) present
        attached member observed heard).2 _ overtaken⟩

/-- Whether the callback of a setting of an attached namespace has heard last what the setting does
not hold. -/
def Console.mishears (console : Console κ) : Bool :=
  console.registry.table.any fun space => space.isAttached && space.settings.any fun setting =>
    setting.onChange.isSome &&
      (lastHeard space.serial setting.name console.trace).any (· != setting.current)

/-- A statement that was queued for a setting no longer in the table is replayed. -/
def haunted : Console Unit :=
  (Console.empty .standard .empty).actAll idle 3
    [.create gauge, .teardown, .set (.kept 0 "v") (.plain (.integer 5)), .create gauge,
      .attach 1 (some .console), .attachAnyway 0 (some .console)]

def overlong : Console Unit :=
  (Console.empty .standard .empty).actAll idle 3
    [.create gauge, .attach 0 (some .console), .execute "v 1", .attach 0 none,
      .set (.token "v") (.plain (.integer (10 ^ 4300))), .attach 0 (some .console)]

def planted : Console Unit :=
  (Console.empty .standard .empty).actAll idle 3
    [.create gauge, .enqueue 0 ⟨["N.v", "5"]⟩, .attach 0 (some .console)]

/-- Where a change overtakes another, where a statement is replayed for a namespace that has left
the table, where a value cannot be written, and where a statement is put into the queue past the
console, a callback need not have heard the current value. -/
theorem capped_mishears :
    (capped.Reachable ∧ Calm capped.trace ∧ Described capped.trace ∧
      NeverEnqueued capped.trace ∧ NeverDropped capped.trace ∧ Writable capped.trace ∧
      takenLive capped.trace ∧ capped.mishears) ∧
    (haunted.Reachable ∧ Calm haunted.trace ∧ Described haunted.trace ∧
      NeverEnqueued haunted.trace ∧ NeverDropped haunted.trace ∧ Writable haunted.trace ∧
      haunted.mishears) ∧
    (overlong.Reachable ∧ Calm overlong.trace ∧ Described overlong.trace ∧
      NeverEnqueued overlong.trace ∧ NeverDropped overlong.trace ∧ takenLive overlong.trace ∧
      overlong.mishears) ∧
    (planted.Reachable ∧ Calm planted.trace ∧ Described planted.trace ∧
      NeverDropped planted.trace ∧ Writable planted.trace ∧ takenLive planted.trace ∧
      planted.mishears) := by
  refine ⟨⟨?_, by decide +kernel⟩, ⟨?_, by decide +kernel⟩, ⟨?_, by decide +kernel⟩,
    ⟨?_, by decide +kernel⟩⟩
  · exact (Console.Reachable.empty .standard .empty).actAll capping 3 _
  · exact (Console.Reachable.empty .standard .empty).actAll idle 3 _
  · exact (Console.Reachable.empty .standard .empty).actAll idle 3 _
  · exact (Console.Reachable.empty .standard .empty).actAll idle 3 _

end CommandConsole
