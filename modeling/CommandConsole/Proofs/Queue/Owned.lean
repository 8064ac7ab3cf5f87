import CommandConsole.Proofs.Run.Sound

set_option autoImplicit false

namespace CommandConsole

variable {κ : Type}

def Event.asks (sort : Operation κ → Bool) : Event κ → Bool
  | asked _ operation => sort operation
  | _ => false

def Operation.isTeardown : Operation κ → Bool
  | teardown => true
  | _ => false

def Operation.isEnqueue : Operation κ → Bool
  | enqueue _ _ => true
  | _ => false

def NeverAsked (sort : Operation κ → Bool) (trace : List (Event κ)) : Prop :=
  ∀ event ∈ trace, event.asks sort = false

instance (sort : Operation κ → Bool) (trace : List (Event κ)) : Decidable (NeverAsked sort trace) :=
  inferInstanceAs (Decidable (∀ event ∈ trace, event.asks sort = false))

abbrev NeverTornDown (trace : List (Event κ)) : Prop :=
  NeverAsked Operation.isTeardown trace

/-- Nobody has put a statement into a queue past the console. -/
abbrev NeverEnqueued (trace : List (Event κ)) : Prop :=
  NeverAsked Operation.isEnqueue trace

theorem NeverAsked.not_mem {sort : Operation κ → Bool} {trace : List (Event κ)}
    (never : NeverAsked sort trace) {operation : Operation κ} (sorted : sort operation = true)
    (call : Option (Call κ)) : .asked call operation ∉ trace := by
  intro member
  have unsorted : sort operation = false := never _ member
  rw [sorted] at unsorted
  cases unsorted

theorem NeverAsked.of_suffix {sort : Operation κ → Bool} {earlier later : List (Event κ)}
    (never : NeverAsked sort later) (suffix : earlier <:+ later) : NeverAsked sort earlier :=
  fun event member => never event (suffix.subset member)

/-- Namespaces of one shape have the same entries but for current values. -/
theorem Namespace.exists_entry_of_shape {former latter : Namespace κ}
    (same : latter.shape = former.shape) {entry : Entry κ} (member : entry ∈ former.entries) :
    ∃ other ∈ latter.entries, other.pristine = entry.pristine := by
  have entries : latter.entries.map Entry.pristine = former.entries.map Entry.pristine :=
    congrArg (·.entries) same
  have inside : entry.pristine ∈ latter.entries.map Entry.pristine :=
    entries ▸ List.mem_map_of_mem member
  exact List.mem_map.mp inside

theorem Namespace.Owns.of_shape {former latter : Namespace κ} {statement : Statement}
    (owned : former.Owns statement) (same : latter.shape = former.shape) :
    latter.Owns statement := by
  obtain ⟨entry, member, arguments, rfl, kinds⟩ := owned
  obtain ⟨other, inside, pristine⟩ := Namespace.exists_entry_of_shape same member
  have name : other.name = entry.name := by
    rw [← Entry.name_pristine other, pristine, Entry.name_pristine]
  have spaceName : latter.name = former.name := congrArg (·.name) same
  refine ⟨other, inside, arguments, by rw [name, spaceName], ?_⟩
  rintro setting rfl
  cases entry with
  | command command => cases pristine
  | setting former =>
    simp only [Entry.pristine, Entry.setting.injEq, Setting.mk.injEq] at pristine
    rw [pristine.2.2.1]
    exact kinds former rfl

def Namespace.IsDescribed (space : Namespace κ) : Prop :=
  ∀ command, Entry.command command ∈ space.entries → command.description.isWritable

theorem Namespace.IsDescribed.of_shape {former latter : Namespace κ}
    (described : former.IsDescribed) (same : latter.shape = former.shape) :
    latter.IsDescribed := by
  intro command member
  obtain ⟨other, inside, pristine⟩ := Namespace.exists_entry_of_shape same.symm member
  cases other with
  | command other => exact described command (Entry.command.inj pristine ▸ inside)
  | setting other => cases pristine

theorem Namespace.pending_of_due {space : Namespace κ} {handler : Handler} {statement : Statement}
    (due : space.due? = some (handler, statement)) :
    space.handler = some handler ∧ space.pending = statement :: space.dequeue.pending := by
  unfold Namespace.due? at due
  split at due
  · rename_i attached queued
    obtain ⟨rfl, rfl⟩ := Prod.mk.inj (Option.some.inj due)
    exact ⟨attached, by simp [Namespace.dequeue, queued]⟩
  · cases due

/-- Every statement in a queue is one that the namespace can have queued itself. -/
def Registry.Owned (registry : Registry κ) : Prop :=
  ∀ space ∈ registry.spaces, ∀ statement ∈ space.pending, space.Owns statement

/-- Somebody has put a statement into the queue of a namespace past the console. -/
def Enqueued (serial : Nat) (statement : Statement) (trace : List (Event κ)) : Prop :=
  ∃ call, .asked call (.enqueue serial statement) ∈ trace

theorem Enqueued.of_suffix {serial : Nat} {statement : Statement} {earlier later : List (Event κ)}
    (enqueued : Enqueued serial statement earlier) (suffix : earlier <:+ later) :
    Enqueued serial statement later :=
  enqueued.imp fun _ asked => suffix.subset asked

theorem NeverAsked.not_enqueued {trace : List (Event κ)} (never : NeverEnqueued trace)
    (serial : Nat) (statement : Statement) : ¬Enqueued serial statement trace :=
  fun ⟨call, asked⟩ => never.not_mem rfl call asked

/-- Every statement in a queue is one that the namespace can have queued itself, or else has been
put there past the console. -/
def Explained (registry : Registry κ) (trace : List (Event κ)) : Prop :=
  ∀ space ∈ registry.spaces, ∀ statement ∈ space.pending,
    space.Owns statement ∨ Enqueued space.serial statement trace

theorem Explained.owned {registry : Registry κ} {trace : List (Event κ)}
    (explained : Explained registry trace) (never : NeverEnqueued trace) : registry.Owned :=
  fun space member statement queued =>
    (explained space member statement queued).resolve_right (never.not_enqueued _ _)

theorem Explained.of_suffix {registry : Registry κ} {earlier later : List (Event κ)}
    (explained : Explained registry earlier) (suffix : earlier <:+ later) :
    Explained registry later :=
  fun space member statement queued =>
    (explained space member statement queued).imp_right (Enqueued.of_suffix · suffix)

theorem Explained.update {registry : Registry κ} {trace : List (Event κ)}
    {change : Namespace κ → Namespace κ} (explained : Explained registry trace)
    (keeps : Namespace.KeepsShape change) (serial : Nat)
    (still : ∀ space ∈ registry.spaces, space.serial = serial →
      ∀ statement ∈ (change space).pending,
        statement ∈ space.pending ∨ space.Owns statement ∨
          Enqueued space.serial statement trace) :
    Explained (registry.update serial change) trace := by
  apply Registry.forall_update keeps explained
  intro space member same statement queued
  rw [keeps.serial]
  refine Or.imp_left (Namespace.Owns.of_shape · (keeps space)) ?_
  rcases still space member same statement queued with earlier | explanation
  · exact explained space member statement earlier
  · exact explanation

theorem Effect.explained {before after : Console κ} (effect : Effect before after)
    (earlier : Explained before.registry before.trace) :
    Explained after.registry after.trace := by
  apply Explained.of_suffix _ effect.suffix
  cases effect with
  | tell telling => exact earlier
  | store storage => exact earlier
  | create made =>
    obtain ⟨-, -, shape, -⟩ := Registry.declared_ok made
    intro space member statement queued
    rcases List.mem_append.mp member with member | member
    · exact earlier space member statement queued
    · obtain rfl := List.mem_singleton.mp member
      rw [← shape] at queued
      cases queued
  | retire asked =>
    intro space member statement queued
    obtain ⟨-, former, isFormer, rfl⟩ := Registry.mem_retire member
    split at queued
    · cases queued
    · rename_i other
      rw [if_neg other]
      exact earlier former isFormer statement queued
  -- Nothing else puts a statement into a queue.
  | @offer space statement present explanation =>
    apply earlier.update (Namespace.keepsShape_offer _) _
    intro former isFormer same other queued
    rw [Registry.eq_of_serial present isFormer same] at queued ⊢
    unfold Namespace.offer at queued
    split at queued
    · exact .inl queued
    · rcases List.mem_append.mp queued with queued | queued
      · exact .inl queued
      · exact .inr (List.mem_singleton.mp queued ▸ explanation)
  | assign present found kind =>
    exact earlier.update (Namespace.keepsShape_assign _ _) _ fun _ _ _ _ queued => .inl queued
  | handle handler present =>
    exact earlier.update (Namespace.keepsShape_handle _) _ fun _ _ _ _ queued => .inl queued
  | take present due =>
    exact earlier.update Namespace.keepsShape_dequeue _ fun _ _ _ _ queued =>
      .inl (List.mem_of_mem_tail queued)

theorem Effect.owned {before after : Console κ} (effect : Effect before after)
    (earlier : NeverEnqueued before.trace → before.registry.Owned)
    (neverAfter : NeverEnqueued after.trace) : after.registry.Owned := by
  have owned := earlier (neverAfter.of_suffix effect.suffix)
  have explained : Explained before.registry before.trace :=
    fun space member statement queued => .inl (owned space member statement queued)
  exact (effect.explained explained).owned neverAfter

theorem Console.Reachable.owned {console : Console κ} (reachable : console.Reachable) :
    NeverEnqueued console.trace → console.registry.Owned :=
  reachable.holds_of_effects Effect.owned fun _ _ _ _ member => absurd member List.not_mem_nil

/-- Without a teardown a namespace keeps its shape from its creation on, and stays registered. -/
structure Grows (before after : Registry κ) : Prop where
  length : before.spaces.length ≤ after.spaces.length
  former : ∀ space ∈ after.spaces,
    (before.spaces.length ≤ space.serial ∧ space.isRegistered) ∨
      ∃ former ∈ before.spaces, space.shape = former.shape

theorem Grows.refl (registry : Registry κ) : Grows registry registry :=
  ⟨le_rfl, fun space member => .inr ⟨space, member, rfl⟩⟩

theorem Grows.trans {first second third : Registry κ} (earlier : Grows first second)
    (later : Grows second third) : Grows first third := by
  refine ⟨earlier.length.trans later.length, fun space member => ?_⟩
  rcases later.former space member with
    ⟨isNew, isRegistered⟩ | ⟨between, isBetween, shape⟩
  · exact .inl ⟨earlier.length.trans isNew, isRegistered⟩
  · rcases earlier.former between isBetween with
      ⟨isNew, isRegistered⟩ | ⟨former, isFormer, shapeFormer⟩
    · have serial : space.serial = between.serial := congrArg (·.serial) shape
      have registered : space.isRegistered = between.isRegistered :=
        congrArg (·.isRegistered) shape
      exact .inl ⟨serial ▸ isNew, registered.trans isRegistered⟩
    · exact .inr ⟨former, isFormer, shape.trans shapeFormer⟩

theorem Grows.registered {before after : Registry κ} (grows : Grows before after)
    (registered : ∀ space ∈ before.spaces, space.isRegistered) :
    ∀ space ∈ after.spaces, space.isRegistered := by
  intro space member
  rcases grows.former space member with ⟨-, isRegistered⟩ | ⟨former, isFormer, shape⟩
  · exact isRegistered
  · exact (congrArg (·.isRegistered) shape).trans (registered former isFormer)

theorem Grows.update (registry : Registry κ) {change : Namespace κ → Namespace κ}
    (keeps : Namespace.KeepsShape change) (serial : Nat) :
    Grows registry (registry.update serial change) := by
  refine ⟨(registry.length_update serial change).ge, fun space member => ?_⟩
  obtain ⟨former, isFormer, rfl⟩ := (Registry.mem_update keeps).mp member
  refine .inr ⟨former, isFormer, ?_⟩
  split
  · exact keeps former
  · rfl

theorem Effect.grows {before after : Console κ} (effect : Effect before after)
    (never : NeverTornDown after.trace) : Grows before.registry after.registry := by
  cases effect with
  | tell telling => exact .refl _
  | store storage => exact .refl _
  | @create _ made declared =>
    refine ⟨by simp [Console.creating, Console.tell, Registry.add], fun space member => ?_⟩
    obtain ⟨-, -, -, isRegistered, -⟩ := Registry.declared_ok declared
    rcases List.mem_append.mp member with member | member
    · exact .inr ⟨space, member, rfl⟩
    · exact .inl (List.mem_singleton.mp member ▸ ⟨le_rfl, isRegistered⟩)
  | retire asked => exact absurd (List.mem_cons_of_mem _ asked) (never.not_mem rfl _)
  | offer present own => exact .update _ (Namespace.keepsShape_offer _) _
  | assign present found kind => exact .update _ (Namespace.keepsShape_assign _ _) _
  | handle handler present => exact .update _ (Namespace.keepsShape_handle _) _
  | take present due => exact .update _ Namespace.keepsShape_dequeue _

theorem grows_of_effects {before after : Console κ} (effects : Effects before after)
    (never : NeverTornDown after.trace) : Grows before.registry after.registry := by
  induction effects with
  | refl => exact .refl _
  | tail _ effect ih => exact (ih (never.of_suffix effect.suffix)).trans (effect.grows never)

theorem mem_table_taking {console : Console κ} {space : Namespace κ}
    (present : space ∈ console.registry.table) (statement : Statement) :
    space.dequeue ∈ (console.taking space statement).registry.table :=
  Registry.mem_table.mpr ⟨mem_taking (Registry.mem_table.mp present).1 statement,
    (Registry.mem_table.mp present).2⟩

/-- A registered namespace finds its entries where a statement has just been taken from its
queue. -/
theorem Registry.Sound.lookup_taking {console : Console κ} {space : Namespace κ}
    (sound : console.registry.Sound) (present : space ∈ console.registry.table) {entry : Entry κ}
    (member : entry ∈ space.entries) (statement : Statement) :
    (console.taking space statement).registry.lookup (qualify space.name entry.name) =
      .ok (space.dequeue, entry) := by
  have still : (console.taking space statement).registry.Sound :=
    sound.update_of_entries Namespace.keepsShape_dequeue _ fun _ => rfl
  exact still.lookup_qualify (mem_table_taking present statement) member

/-- A registered namespace finds the entry of its own statement where the statement has just been
taken from its queue. -/
theorem Namespace.Owns.lookup_taking {console : Console κ} {space : Namespace κ}
    {statement : Statement} (owned : space.Owns statement) (sound : console.registry.Sound)
    (present : space ∈ console.registry.table) :
    ∃ entry ∈ space.entries,
      (console.taking space statement).registry.lookup statement.name =
        .ok (space.dequeue, entry) ∧
      statement.name = qualify space.name entry.name ∧
      ∀ setting, entry = .setting setting →
        ∃ token value, statement.arguments = [token] ∧
          Value.parse setting.kind token = .ok value := by
  obtain ⟨entry, member, arguments, rfl, kinds⟩ := owned
  exact ⟨entry, member, sound.lookup_taking present member _, rfl, kinds⟩

end CommandConsole
