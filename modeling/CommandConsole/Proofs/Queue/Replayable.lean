import CommandConsole.Proofs.Queue.Order
import CommandConsole.Proofs.Run.Table

set_option autoImplicit false

namespace CommandConsole

variable {κ : Type}

section Limits

def Namespace.Fits (space : Namespace κ) : Prop :=
  ∀ places ∈ space.limit.places, space.pending.length ≤ places

theorem Namespace.Fits.of_sublist {former latter : Namespace κ} (fits : former.Fits)
    (limit : latter.limit = former.limit) (fewer : latter.pending.length ≤ former.pending.length) :
    latter.Fits :=
  fun places isLimit => fewer.trans (fits places (limit ▸ isLimit))

theorem Namespace.Fits.offer {space : Namespace κ} (fits : space.Fits) (statement : Statement) :
    (space.offer statement).2.Fits := by
  unfold Namespace.offer
  split
  · exact fits
  · rename_i free
    intro places isLimit
    have isPlaces : space.limit.places = some places := isLimit
    have below : space.pending.length < places := by
      simpa [isFull, Limit.isReached, isPlaces] using free
    simp only [enqueue, List.length_append, List.length_singleton]
    omega

theorem Effect.fits {before after : Console κ} (effect : Effect before after)
    (fits : ∀ space ∈ before.registry.spaces, space.Fits) :
    ∀ space ∈ after.registry.spaces, space.Fits := by
  cases effect with
  | tell telling => exact fits
  | store storage => exact fits
  | create declared =>
    obtain ⟨-, -, shape, -⟩ := Registry.declared_ok declared
    intro space member
    rcases List.mem_append.mp member with member | member
    · exact fits space member
    · have empty : space.pending = [] := by
        rw [List.mem_singleton.mp member]
        exact (congrArg Namespace.pending shape).symm
      intro places _
      simp [empty]
  | retire asked =>
    intro space member
    obtain ⟨-, former, isFormer, rfl⟩ := Registry.mem_retire member
    split
    · exact fun places _ => Nat.zero_le _
    · exact fits former isFormer
  | offer present owned =>
    exact Registry.forall_update (Namespace.keepsShape_offer _) fits
      fun space member _ => (fits space member).offer _
  | assign present found kind =>
    exact Registry.forall_update (Namespace.keepsShape_assign _ _) fits
      fun space member _ => fits space member
  | handle handler present =>
    exact Registry.forall_update (Namespace.keepsShape_handle _) fits
      fun space member _ => fits space member
  | take present due =>
    refine Registry.forall_update Namespace.keepsShape_dequeue fits fun space member _ => ?_
    exact (fits space member).of_sublist rfl (by simp [Namespace.dequeue])

end Limits

section Assigned

/-- Whenever a statement for a setting of a namespace was queued, the setting had just been given
the value that the statement gives. -/
def Namespace.Recalls (space : Namespace κ) (trace : List (Event κ)) : Prop :=
  ∀ statement earlier, .offered space.serial statement true :: earlier <:+ trace →
    ∀ setting, Entry.setting setting ∈ space.entries →
      statement.name = qualify space.name setting.name →
        ∃ token value, statement.arguments = [token] ∧
          Value.parse setting.kind token = .ok value ∧
          earlier.head? = some (.changed space.serial setting.name value)

theorem Namespace.Recalls.of_shape {former latter : Namespace κ} {trace : List (Event κ)}
    (recalls : former.Recalls trace) (same : latter.shape = former.shape) :
    latter.Recalls trace := by
  have serial : latter.serial = former.serial := congrArg (·.serial) same
  have name : latter.name = former.name := congrArg (·.name) same
  intro statement earlier queued setting member named
  rw [serial] at queued ⊢
  rw [name] at named
  obtain ⟨entry, inside, pristine⟩ := exists_entry_of_shape same.symm member
  cases entry with
  | command command => cases pristine
  | setting other =>
    simp only [Entry.pristine, Entry.setting.injEq, Setting.mk.injEq] at pristine
    rw [← pristine.1] at named ⊢
    rw [← pristine.2.2.1]
    exact recalls statement earlier queued other inside named

theorem Namespace.Recalls.tell {space : Namespace κ} {trace : List (Event κ)} {event : Event κ}
    (recalls : space.Recalls trace) (silent : event.accepted? space.serial = none) :
    space.Recalls (event :: trace) := by
  intro statement earlier queued
  rcases List.suffix_cons_iff.mp queued with same | queued
  · cases same
    simp [Event.accepted?] at silent
  · exact recalls statement earlier queued

def Recalled (registry : Registry κ) (trace : List (Event κ)) : Prop :=
  ∀ space ∈ registry.spaces, space.Recalls trace

variable {registry : Registry κ} {trace : List (Event κ)}

theorem Recalled.tell (recalled : Recalled registry trace) {event : Event κ}
    (silent : ∀ serial, event.accepted? serial = none) : Recalled registry (event :: trace) :=
  fun space member => (recalled space member).tell (silent _)

theorem Recalled.update (recalled : Recalled registry trace)
    {change : Namespace κ → Namespace κ} (keeps : Namespace.KeepsShape change) (serial : Nat) :
    Recalled (registry.update serial change) trace :=
  Registry.forall_update keeps recalled fun space member _ =>
    (recalled space member).of_shape (keeps space)

theorem mem_accepted {serial : Nat} {statement : Statement} {earlier : List (Event κ)}
    (queued : .offered serial statement true :: earlier <:+ trace) :
    statement ∈ accepted serial trace := by
  have member : .offered serial statement true ∈ trace := queued.subset List.mem_cons_self
  exact List.mem_filterMap.mpr ⟨_, List.mem_reverse.mpr member, by simp [Event.accepted?]⟩

theorem Recalled.handling {console : Console κ}
    (recalled : Recalled console.registry console.trace) (space : Namespace κ)
    (handler : Option Handler) :
    Recalled (console.handling space handler).registry (console.handling space handler).trace :=
  (recalled.update (Namespace.keepsShape_handle handler) space.serial).tell fun _ => rfl

theorem Recalled.assigning {console : Console κ}
    (recalled : Recalled console.registry console.trace) (space : Namespace κ)
    (setting : Setting κ) (value : Value) :
    Recalled (console.assigning space setting value).registry
      (console.assigning space setting value).trace :=
  (recalled.update (Namespace.keepsShape_assign setting.name value) space.serial).tell fun _ => rfl

theorem Recalled.taking {console : Console κ}
    (recalled : Recalled console.registry console.trace) (space : Namespace κ)
    (statement : Statement) :
    Recalled (console.taking space statement).registry (console.taking space statement).trace :=
  (recalled.update Namespace.keepsShape_dequeue space.serial).tell fun _ => rfl

theorem Recalled.running {console : Console κ}
    (recalled : Recalled console.registry console.trace) (handler : Handler) (isReplay : Bool)
    (space : Namespace κ) (command : Command κ) (statement : Statement) :
    Recalled (console.running handler isReplay space command statement).registry
      (console.running handler isReplay space command statement).trace := by
  unfold Console.running
  cases command.action with
  | none => exact recalled.tell fun _ => rfl
  | some callback => exact (recalled.tell fun _ => rfl).tell fun _ => rfl

theorem Recalled.notifying {console : Console κ}
    (recalled : Recalled console.registry console.trace) (handler : Handler) (isReplay : Bool)
    (space : Namespace κ) (setting : Setting κ) (value : Value) :
    Recalled (console.notifying handler isReplay space setting value).registry
      (console.notifying handler isReplay space setting value).trace := by
  unfold Console.notifying
  cases setting.onChange with
  | none => exact recalled
  | some callback => exact recalled.tell fun _ => rfl

/-- A statement that is offered to a queue goes with what has happened just before. -/
theorem Recalled.offering {console : Console κ}
    (recalled : Recalled console.registry console.trace) {space : Namespace κ}
    {statement : Statement} (present : space ∈ console.registry.spaces)
    (given : ∀ setting, Entry.setting setting ∈ space.entries →
      statement.name = qualify space.name setting.name →
        ∃ token value, statement.arguments = [token] ∧
          Value.parse setting.kind token = .ok value ∧
          console.trace.head? = some (.changed space.serial setting.name value)) :
    Recalled (console.offering space statement).registry
      (console.offering space statement).trace := by
  refine Recalled.update (fun other member => ?_) (Namespace.keepsShape_offer _) _
  intro queued earlier isQueued setting inside named
  rcases List.suffix_cons_iff.mp isQueued with same | isQueued
  · simp only [List.cons.injEq, Event.offered.injEq] at same
    obtain ⟨⟨serial, rfl, -⟩, rfl⟩ := same
    obtain rfl := Registry.eq_of_serial present member serial
    exact given setting inside named
  · exact recalled other member queued earlier isQueued setting inside named

theorem Recalled.add (recalled : Recalled registry trace) (accounted : Accounted registry trace)
    (space : Namespace κ) : Recalled (registry.add space) trace := by
  intro other member
  rcases List.mem_append.mp member with member | member
  · exact recalled other member
  · intro statement earlier queued
    have inside := mem_accepted queued
    rw [List.mem_singleton.mp member, (accounted.fresh _ le_rfl).1] at inside
    exact absurd inside List.not_mem_nil

theorem Recalled.retire (recalled : Recalled registry trace) : Recalled registry.retire trace := by
  intro space member
  obtain ⟨-, former, isFormer, rfl⟩ := Registry.mem_retire member
  split
  · exact recalled former isFormer
  · exact recalled former isFormer

variable {before after : Console κ}

/-- A change is queued at once after it has been made. -/
theorem Step.recalled (step : Step before after)
    (inOrder : QueuesInOrder before.registry before.trace)
    (neverQueued : NeverEnqueued after.trace)
    (recalled : Recalled before.registry before.trace) : Recalled after.registry after.trace := by
  cases step with
  | @tell event passing =>
    refine recalled.tell fun serial => ?_
    cases event <;> first | exact passing.elim | rfl
  | store saved => exact recalled
  | create declared =>
    exact (recalled.add inOrder.accounted _).tell fun _ => rfl
  | retire asked => exact recalled.retire.tell fun _ => rfl
  | hold handler present retired => exact recalled.handling _ handler
  | enqueue present asked =>
    exact absurd (List.mem_cons_of_mem _ (List.mem_of_mem_head? asked))
      (neverQueued.not_mem rfl _)
  | run statement present found attached => exact recalled.running _ _ _ _ _
  | @defer space command arguments present found detached =>
    have sound := inOrder.sound.of_table present
    refine recalled.offering (Registry.mem_table.mp present).1 fun setting member named => ?_
    obtain ⟨-, same⟩ := qualify_injective sound.isName.2 sound.isName.2 named
    cases sound.eq_of_name member (Namespace.find?_ok found).1 same
  | notify present found kind differs attached =>
    exact (recalled.assigning _ _ _).notifying _ _ _ _ _
  | @postpone space setting value token present found kind differs detached reads =>
    have sound := inOrder.sound.spaces space present
    refine (recalled.assigning space setting value).offering
      (mem_assigning present setting value) fun other member named => ?_
    have still := (inOrder.sound.assign present found kind).spaces _
      (mem_assigning present setting value)
    obtain ⟨-, same⟩ := qualify_injective sound.isName.2 sound.isName.2 named
    cases still.eq_of_name member (Namespace.mem_assign found value) same
    exact ⟨token, value, rfl, reads, rfl⟩
  | lose present found kind differs detached long => exact recalled.assigning _ _ _

theorem Turn.recalled (turn : Turn before after)
    (recalled : Recalled before.registry before.trace) : Recalled after.registry after.trace := by
  cases turn with
  | attach handler present => exact recalled.handling _ handler
  | replay present due replay =>
    cases replay with
    | command found => exact (recalled.taking _ _).running _ _ _ _ _
    | change found reads => exact (recalled.taking _ _).notifying _ _ _ _ _
    | fail unknown => exact recalled.taking _ _

end Assigned

section Later

variable {before after : Console κ}

/-- As long as a namespace is in the table, the dotted name of an entry of it stands for that
entry. -/
theorem lookup_later (sound : before.registry.Sound) (effects : Effects before after)
    {space : Namespace κ} (present : space ∈ before.registry.table) {entry : Entry κ}
    (member : entry ∈ space.entries)
    (still : ∃ owner ∈ after.registry.table, owner.serial = space.serial) :
    ∃ owner other, after.registry.lookup (qualify space.name entry.name) = .ok (owner, other) ∧
      owner.serial = space.serial ∧ owner.name = space.name ∧
      other.pristine = entry.pristine := by
  obtain ⟨owner, isOwner, serial⟩ := still
  have inside := (Registry.mem_table.mp present).1
  rcases (remains_of_effects effects).2 owner isOwner with isNew | ⟨former, isFormer, shape⟩
  · have old := Registry.serial_lt inside
    omega
  · have sameSerial : owner.serial = former.serial := congrArg (·.serial) shape
    obtain rfl := Registry.eq_of_serial inside (Registry.mem_table.mp isFormer).1
      (sameSerial.symm.trans serial)
    have name : owner.name = former.name := congrArg (·.name) shape
    obtain ⟨other, isOther, pristine⟩ := Namespace.exists_entry_of_shape shape member
    have entryName : other.name = entry.name := by
      rw [← other.name_pristine, pristine, Entry.name_pristine]
    have found := (holds_of_effects Effect.sound effects sound).lookup_qualify isOwner isOther
    rw [name, entryName] at found
    exact ⟨owner, other, found, serial, name, pristine⟩

end Later

section Replays

open CommandConsole.Action

variable {registry : Registry κ} {space : Namespace κ} {statement : Statement}

/-- As long as a namespace of a registry is in the table, replaying a statement is a certain
action, whatever has happened since. -/
def Namespace.ReplaysAs (space : Namespace κ) (registry : Registry κ) (statement : Statement)
    (action : Runner κ → Handler → Action κ Unit) : Prop :=
  ∀ before after : Console κ, before.registry = registry → Effects before after →
    (∃ owner ∈ after.registry.table, owner.serial = space.serial) →
    ∀ run handler, replay run handler statement after = action run handler after

/-- What a statement in the queue of a namespace stands for. That of a command executes the command.
That of a setting has one argument, a token of the value that the setting was given when the
statement was queued, and tells the setting's callback this value. -/
def Namespace.Stands (space : Namespace κ) (registry : Registry κ) (trace : List (Event κ))
    (statement : Statement) : Entry κ → Prop
  | .command command => space.ReplaysAs registry statement fun run handler => do
      let _ ← runCommand run handler true space command statement
  | .setting setting => ∃ token value, statement.arguments = [token] ∧
      Value.parse setting.kind token = .ok value ∧
      (∀ earlier, .offered space.serial statement true :: earlier <:+ trace →
        earlier.head? = some (.changed space.serial setting.name value)) ∧
      space.ReplaysAs registry statement fun run handler =>
        notify run handler true space setting value

section Found

variable {run : Runner κ} {handler : Handler} {console : Console κ} {owner : Namespace κ}

theorem replay_command {command : Command κ}
    (found : console.registry.lookup statement.name = .ok (owner, .command command)) :
    replay run handler statement console =
      (do let _ ← runCommand run handler true owner command statement : Action κ Unit) console := by
  change (liftError (console.registry.lookup statement.name) >>= _) console = _
  rw [found]
  rfl

/-- Replaying a statement that gives a setting a value tells the setting's callback. -/
theorem replay_setting {setting : Setting κ}
    (found : console.registry.lookup statement.name = .ok (owner, .setting setting))
    {token : String} {value : Value} (argument : statement.arguments = [token])
    (reads : Value.parse setting.kind token = .ok value) :
    replay run handler statement console = notify run handler true owner setting value console := by
  change (liftError (console.registry.lookup statement.name) >>= _) console = _
  rw [found, argument]
  cases onChange : setting.onChange with
  | none => simp [notify, onChange, liftError]
  | some callback => simp [notify, onChange, liftError, valueOf, reads]

end Found

theorem replaysAs_command (sound : registry.Sound) (present : space ∈ registry.table)
    {command : Command κ} (member : .command command ∈ space.entries)
    (named : statement.name = qualify space.name command.name) :
    space.ReplaysAs registry statement (fun run handler => do
      let _ ← runCommand run handler true space command statement) := by
  rintro before after rfl effects still run handler
  obtain ⟨owner, other, found, serial, name, pristine⟩ :=
    lookup_later sound effects present member still
  cases other with
  | setting setting => cases pristine
  | command other =>
    obtain rfl : other = command := Entry.command.inj pristine
    rw [replay_command (named ▸ found)]
    simp only [runCommand, serial, name]

theorem replaysAs_setting (sound : registry.Sound) (present : space ∈ registry.table)
    {setting : Setting κ} (member : .setting setting ∈ space.entries)
    (named : statement.name = qualify space.name setting.name) {token : String} {value : Value}
    (argument : statement.arguments = [token])
    (reads : Value.parse setting.kind token = .ok value) :
    space.ReplaysAs registry statement fun run handler =>
      notify run handler true space setting value := by
  rintro before after rfl effects still run handler
  obtain ⟨owner, other, found, serial, name, pristine⟩ :=
    lookup_later sound effects present member still
  cases other with
  | command command => cases pristine
  | setting other =>
    simp only [Entry.pristine, Entry.setting.injEq, Setting.mk.injEq] at pristine
    obtain ⟨sameName, -, sameKind, -, -, sameChange⟩ := pristine
    rw [replay_setting (named ▸ found) argument (sameKind ▸ reads)]
    simp only [notify, serial, sameName, sameChange]

/-- What is known of queues at every moment. -/
structure Replayable (registry : Registry κ) (trace : List (Event κ)) : Prop where
  inOrder : QueuesInOrder registry trace
  fits : ∀ space ∈ registry.spaces, space.Fits
  recalled : NeverEnqueued trace → Recalled registry trace

theorem Step.replayable {before after : Console κ} (step : Step before after)
    (replayable : Replayable before.registry before.trace) :
    Replayable after.registry after.trace where
  inOrder := step.queuesInOrder replayable.inOrder
  fits := holds_of_effects Effect.fits step.effects replayable.fits
  recalled neverQueued := step.recalled replayable.inOrder neverQueued
    (replayable.recalled (neverQueued.of_suffix step.suffix))

theorem Turn.replayable {before after : Console κ} (turn : Turn before after)
    (replayable : Replayable before.registry before.trace) :
    Replayable after.registry after.trace where
  inOrder := turn.queuesInOrder replayable.inOrder
  fits := holds_of_effects Effect.fits turn.effects replayable.fits
  recalled neverQueued := turn.recalled
    (replayable.recalled (neverQueued.of_suffix turn.suffix))

theorem Console.Reachable.replayable {console : Console κ} (reachable : console.Reachable) :
    ∀ moment ∈ console.moments, Replayable moment.1 moment.2 :=
  reachable.always Step.replayable Turn.replayable
    ⟨queuesInOrder_empty, fun _ member => absurd member List.not_mem_nil,
      fun _ _ member => absurd member List.not_mem_nil⟩

/-- Whatever callbacks do, a queue of the table never holds more than its limit admits. Unless a
statement has come into a queue past the console, every statement in it has been accepted there, and
its first word is the dotted name of an entry of its own namespace, which this name stands for; what
it stands for can be replayed as long as the namespace is in the table. -/
theorem pending_replayable {console : Console κ} (reachable : console.Reachable)
    {registry : Registry κ} {trace : List (Event κ)} (moment : (registry, trace) ∈ console.moments)
    (neverQueued : NeverEnqueued trace) {space : Namespace κ} (present : space ∈ registry.table) :
    (∀ places ∈ space.limit.places, space.pending.length ≤ places) ∧
      ∀ statement ∈ space.pending, statement ∈ accepted space.serial trace ∧
        ∃ entry ∈ space.entries,
          statement.words.head? = some (qualify space.name entry.name) ∧
          registry.lookup statement.name = .ok (space, entry) ∧
          space.Stands registry trace statement entry := by
  have replayable := reachable.replayable _ moment
  have inOrder := replayable.inOrder
  have inside := (Registry.mem_table.mp present).1
  refine ⟨replayable.fits space inside, fun statement queued => ⟨?_, ?_⟩⟩
  · rw [inOrder.accounted.balanced space present]
    exact List.mem_append_right _ queued
  · obtain ⟨entry, member, arguments, rfl, kinds⟩ :=
      inOrder.owned neverQueued space inside statement queued
    refine ⟨entry, member, rfl, inOrder.sound.lookup_qualify present member, ?_⟩
    cases entry with
    | command command => exact replaysAs_command inOrder.sound present member rfl
    | setting setting =>
      obtain ⟨token, value, rfl, reads⟩ := kinds setting rfl
      refine ⟨token, value, rfl, reads, fun earlier offered => ?_,
        replaysAs_setting inOrder.sound present member rfl rfl reads⟩
      -- The token was written from the value, so it is read as the value that was queued.
      obtain ⟨_, given, same, reading, latest⟩ :=
        replayable.recalled neverQueued space inside _ earlier offered setting member rfl
      obtain rfl : token = _ := (List.cons.inj same).1
      rw [reads] at reading
      exact Except.ok.inj reading ▸ latest

/-- A console where what waits in a queue names entries that another namespace has got too. -/
def shared : Console Unit :=
  (Console.empty .standard .empty).actAll (fun _ _ _ => .done true) 3
    [.create ⟨.text "N", [⟨.text "go", some (.host ()), .null⟩],
      [⟨.text "v", .integer, .plain .null, some (.host ()), .null⟩]⟩,
    .execute "v +07", .execute "go on", .set (.token "v") (.plain (.integer 8)),
    .create ⟨.text "M", [⟨.text "go", none, .null⟩],
      [⟨.text "v", .text, .plain .null, none, .null⟩]⟩]

/-- Bare names have become ambiguous, but not those in the queue. -/
theorem shared_replayable :
    shared.registry.lookup "v" matches .error _ ∧
      ∃ space ∈ shared.registry.table,
        space.pending = [⟨["N.v", "+07"]⟩, ⟨["N.go", "on"]⟩, ⟨["N.v", "8"]⟩] ∧
        (∀ places ∈ space.limit.places, space.pending.length ≤ places) ∧
        ∀ statement ∈ space.pending, statement ∈ accepted space.serial shared.trace ∧
          ∃ entry ∈ space.entries,
            statement.words.head? = some (qualify space.name entry.name) ∧
            shared.registry.lookup statement.name = .ok (space, entry) ∧
            space.Stands shared.registry shared.trace statement entry := by
  have reachable : shared.Reachable :=
    (Console.Reachable.empty .standard .empty).actAll (fun _ _ _ => .done true) 3 _
  have queues : [⟨["N.v", "+07"]⟩, ⟨["N.go", "on"]⟩, ⟨["N.v", "8"]⟩] ∈
      shared.registry.table.map (·.pending) := by decide +kernel
  obtain ⟨space, present, queue⟩ := List.mem_map.mp queues
  exact ⟨by decide +kernel, _, present, queue,
    pending_replayable reachable List.mem_cons_self (by decide +kernel) present⟩

end Replays

end CommandConsole
