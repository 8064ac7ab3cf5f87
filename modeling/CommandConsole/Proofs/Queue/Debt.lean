import CommandConsole.Proofs.Queue.Owned
import Mathlib.Data.Nat.WithBot

set_option autoImplicit false

/-!
How much each namespace still has to replay. Main statement: nothing that happens at once lets a
namespace owe more than it may (`Step.bounded`), as long as callbacks raise console errors only; a
replay lowers the bound of its own namespace with each round, and callbacks keep every bound.
-/
namespace CommandConsole

open CommandConsole.Action

variable {κ : Type}

def Fault.isConsole : Fault → Bool
  | console _ => true
  | _ => false

/-- Whether a call has ended without a fault or with a console error, if it is told to end. -/
def Event.isCalm : Event κ → Bool
  | ended _ (some fault) => fault.isConsole
  | _ => true

def Event.isDescribed : Event κ → Bool
  | created _ declaration =>
    declaration.commands.all fun command => (describedAs command.description).isWritable
  | _ => true

/-- No callback has raised anything but console errors. -/
def Calm (trace : List (Event κ)) : Prop :=
  ∀ event ∈ trace, event.isCalm = true

/-- Every command can show its usage. -/
def Described (trace : List (Event κ)) : Prop :=
  ∀ event ∈ trace, event.isDescribed = true

instance (trace : List (Event κ)) : Decidable (Calm trace) :=
  inferInstanceAs (Decidable (∀ event ∈ trace, event.isCalm = true))

instance (trace : List (Event κ)) : Decidable (Described trace) :=
  inferInstanceAs (Decidable (∀ event ∈ trace, event.isDescribed = true))

/-- What a replay relies on to come to its end. -/
structure Orderly (trace : List (Event κ)) : Prop where
  calm : Calm trace
  described : Described trace
  queued : NeverEnqueued trace

theorem Orderly.of_suffix {earlier later : List (Event κ)} (orderly : Orderly later)
    (suffix : earlier <:+ later) : Orderly earlier :=
  ⟨fun event member => orderly.calm event (suffix.subset member),
    fun event member => orderly.described event (suffix.subset member),
    orderly.queued.of_suffix suffix⟩

namespace Namespace

/-- How much a namespace has to replay: nothing unless it is attached and in the table. -/
def debt (space : Namespace κ) : WithBot ℕ :=
  if space.isRegistered && space.isAttached then space.pending.length else ⊥

theorem debt_of_detached {space : Namespace κ} (detached : space.handler = none) :
    space.debt = ⊥ := by
  simp [debt, isAttached, detached]

theorem debt_of_retired {space : Namespace κ} (retired : space.isRegistered = false) :
    space.debt = ⊥ := by
  simp [debt, retired]

theorem debt_of_attached {space : Namespace κ} (registered : space.isRegistered)
    {handler : Handler} (attached : space.handler = some handler) :
    space.debt = space.pending.length := by
  simp [debt, isAttached, registered, attached]

theorem debt_of_idle {space : Namespace κ} (idle : space.due? = none) :
    space.debt ≤ (0 : ℕ) := by
  by_cases registered : space.isRegistered
  · cases handler : space.handler with
    | none => exact (debt_of_detached handler).trans_le bot_le
    | some attached =>
      rw [debt_of_attached registered handler]
      cases queued : space.pending with
      | nil => exact le_rfl
      | cons statement rest => simp [due?, handler, queued] at idle
  · exact (debt_of_retired (by simpa using registered)).trans_le bot_le

/-- Taking what is due lowers what a namespace owes. -/
theorem debt_dequeue {space : Namespace κ} {handler : Handler} {statement : Statement}
    (due : space.due? = some (handler, statement)) {length : Nat} (owed : space.debt ≤ length) :
    space.dequeue.debt ≤ (length - 1 : ℕ) := by
  by_cases registered : space.isRegistered
  · have attached := (Namespace.pending_of_due due).1
    rw [debt_of_attached registered attached, Nat.cast_le] at owed
    have still : space.dequeue.isRegistered := registered
    rw [debt_of_attached still attached, Nat.cast_le]
    simp only [dequeue, List.length_tail]
    omega
  · have still : space.dequeue.isRegistered = false := eq_false_of_ne_true registered
    exact (debt_of_retired still).trans_le bot_le

end Namespace

theorem NamespaceDeclaration.isDescribed {declaration : NamespaceDeclaration (Callback κ)}
    {space : Namespace κ} (made : space.IsMadeBy declaration)
    (described : declaration.commands.all
      fun command => (describedAs command.description).isWritable) : space.IsDescribed := by
  intro command member
  obtain ⟨objects, areObjects, pristine⟩ := made.entries
  have inside : Entry.command command ∈ named objects :=
    pristine ▸ List.mem_map.mpr ⟨_, member, rfl⟩
  obtain ⟨content, isObject⟩ := mem_named.mp inside
  simp only [NamespaceDeclaration.objects, except_bind_ok, pure, Except.pure,
    Except.ok.injEq] at areObjects
  obtain ⟨_, -, settings, areSettings, rfl⟩ := areObjects
  rcases List.mem_append.mp isObject with isSetting | isCommand
  · obtain ⟨setting, -, isMade⟩ := exists_of_mem_right (mapM_ok areSettings) isSetting
    unfold NamespaceDeclaration.settingObject at isMade
    split at isMade
    · have entries := (Prod.mk.inj (Except.ok.inj isMade)).2
      cases entries
    · cases isMade
  · obtain ⟨declared, isDeclared, same⟩ := List.mem_map.mp isCommand
    obtain rfl := Entry.command.inj (Prod.mk.inj same).2
    exact List.all_eq_true.mp described declared isDeclared

theorem Effect.described {before after : Console κ} (effect : Effect before after)
    (earlier : Described before.trace → ∀ space ∈ before.registry.spaces, space.IsDescribed)
    (now : Described after.trace) : ∀ space ∈ after.registry.spaces, space.IsDescribed := by
  have described := earlier fun event member => now event (effect.suffix.subset member)
  have updated {change : Namespace κ → Namespace κ} (keeps : Namespace.KeepsShape change)
      (serial : Nat) :
      ∀ space ∈ (before.registry.update serial change).spaces, space.IsDescribed :=
    Registry.forall_update keeps described fun space member _ =>
      (described space member).of_shape (keeps space)
  cases effect with
  | tell telling => exact described
  | store storage => exact described
  | create declared =>
    obtain ⟨-, made, -⟩ := Registry.declared_ok declared
    intro space member
    rcases List.mem_append.mp member with member | member
    · exact described space member
    · rw [List.mem_singleton.mp member]
      exact fun command inside =>
        NamespaceDeclaration.isDescribed made (now _ List.mem_cons_self) command inside
  | retire asked =>
    intro space member
    obtain ⟨-, former, isFormer, rfl⟩ := Registry.mem_retire member
    split <;> exact described former isFormer
  | offer present own => exact updated (Namespace.keepsShape_offer _) _
  | assign present found kind => exact updated (Namespace.keepsShape_assign _ _) _
  | handle handler present => exact updated (Namespace.keepsShape_handle _) _
  | take present due => exact updated Namespace.keepsShape_dequeue _

/-- A namespace that has left the table does not come back. -/
def IsRetired (serial : Nat) (registry : Registry κ) : Prop :=
  serial < registry.spaces.length ∧
    ∀ space ∈ registry.spaces, space.serial = serial → space.isRegistered = false

theorem isRetired_of_mem {registry : Registry κ} {space : Namespace κ}
    (present : space ∈ registry.spaces) (left : space.isRegistered = false) :
    IsRetired space.serial registry := by
  refine ⟨Registry.serial_lt present, fun other member same => ?_⟩
  rw [Registry.eq_of_serial present member same]
  exact left

theorem Effect.isRetired {serial : Nat} {before after : Console κ} (effect : Effect before after)
    (retired : IsRetired serial before.registry) : IsRetired serial after.registry := by
  have updated {change : Namespace κ → Namespace κ} (keeps : Namespace.KeepsShape change)
      (other : Nat) : IsRetired serial (before.registry.update other change) := by
    refine ⟨(Registry.length_update ..).symm ▸ retired.1, ?_⟩
    apply Registry.forall_update keeps retired.2
    intro space member _ same
    rw [keeps.isRegistered]
    rw [keeps.serial] at same
    exact retired.2 space member same
  cases effect with
  | tell telling => exact retired
  | store storage => exact retired
  | create declared =>
    refine ⟨?_, fun space member same => ?_⟩
    · simp only [Console.creating, Console.tell, Registry.add, List.length_append]
      have := retired.1
      omega
    · rcases List.mem_append.mp member with member | member
      · exact retired.2 space member same
      · rw [List.mem_singleton.mp member] at same
        exact absurd same retired.1.ne'
  | retire asked =>
    refine ⟨?_, fun space member _ => (Registry.mem_retire member).1⟩
    simpa [Console.retiring, Console.tell, Registry.retire, Registry.map] using retired.1
  | offer present own => exact updated (Namespace.keepsShape_offer _) _
  | assign present found kind => exact updated (Namespace.keepsShape_assign _ _) _
  | handle handler present => exact updated (Namespace.keepsShape_handle _) _
  | take present due => exact updated Namespace.keepsShape_dequeue _

/-- What is known of every registry, whatever is still to be replayed; a namespace that nothing is
expected of any more has left the table. -/
structure Base (bounds : ℕ → WithBot ℕ) (console : Console κ) : Prop where
  sound : console.registry.Sound
  owned : NeverEnqueued console.trace → console.registry.Owned
  described : Described console.trace → ∀ space ∈ console.registry.spaces, space.IsDescribed
  retired : ∀ serial, bounds serial = ⊥ → IsRetired serial console.registry

theorem Effect.base {bounds : ℕ → WithBot ℕ} {before after : Console κ}
    (effect : Effect before after) (base : Base bounds before) : Base bounds after where
  sound := effect.sound base.sound
  owned := effect.owned base.owned
  described := effect.described base.described
  retired serial none := effect.isRetired (base.retired serial none)

/-- No namespace has more to replay than is allowed. -/
def Registry.Owes (registry : Registry κ) (bounds : ℕ → WithBot ℕ) : Prop :=
  ∀ space ∈ registry.spaces, space.debt ≤ bounds space.serial

/-- What is known of a console after something has happened, and how much there is to replay as long
as nothing gets in the way of it. -/
structure Bounded (past : List (Event κ)) (bounds : ℕ → WithBot ℕ) (console : Console κ) :
    Prop where
  base : Base bounds console
  since : past <:+ console.trace
  owes : Orderly console.trace → console.registry.Owes bounds

section Bounds

variable {past : List (Event κ)} {bounds : ℕ → WithBot ℕ} {before after console : Console κ}

instance : IgnoresFiles (Bounded (κ := κ) past bounds) :=
  ⟨fun _ bounded => ⟨⟨bounded.base.sound, bounded.base.owned, bounded.base.described,
    bounded.base.retired⟩, bounded.since, bounded.owes⟩⟩

/-- A change of one namespace that keeps to a bound of its own. -/
theorem Registry.Owes.replace {registry : Registry κ} (owes : registry.Owes bounds)
    {change : Namespace κ → Namespace κ} (keeps : Namespace.KeepsShape change) {serial : Nat}
    {bound : WithBot ℕ} (still : ∀ space ∈ registry.spaces, space.serial = serial →
      (change space).debt ≤ bound) :
    (registry.update serial change).Owes (Function.update bounds serial bound) := by
  intro space member
  obtain ⟨former, isFormer, rfl⟩ := (mem_update keeps).mp member
  split
  · rename_i same
    rw [keeps.serial, eq_of_beq same, Function.update_self]
    exact still former isFormer (eq_of_beq same)
  · rename_i apart
    rw [Function.update_of_ne (by simpa using apart)]
    exact owes former isFormer

theorem Registry.Owes.update {registry : Registry κ} (owes : registry.Owes bounds)
    {change : Namespace κ → Namespace κ} (keeps : Namespace.KeepsShape change) {serial : Nat}
    (still : ∀ space ∈ registry.spaces, space.serial = serial →
      (change space).debt ≤ bounds serial) : (registry.update serial change).Owes bounds := by
  have replaced := owes.replace keeps still
  rwa [Function.update_eq_self] at replaced

theorem Base.allow (base : Base bounds console) {serial : Nat} {bound : WithBot ℕ}
    (retired : bound = ⊥ → IsRetired serial console.registry) :
    Base (Function.update bounds serial bound) console := by
  refine ⟨base.sound, base.owned, base.described, fun index none => ?_⟩
  by_cases same : index = serial
  · subst same
    rw [Function.update_self] at none
    exact retired none
  · rw [Function.update_of_ne same] at none
    exact base.retired index none

theorem Bounded.of_effects (bounded : Bounded past bounds before) (effects : Effects before after)
    (owes : Orderly after.trace → before.registry.Owes bounds → after.registry.Owes bounds) :
    Bounded past bounds after where
  base := holds_of_effects Effect.base effects bounded.base
  since := bounded.since.trans (suffix_of_effects effects)
  owes orderly := owes orderly (bounded.owes (orderly.of_suffix (suffix_of_effects effects)))

theorem Bounded.of_same (bounded : Bounded past bounds before) (effects : Effects before after)
    (same : after.registry = before.registry) : Bounded past bounds after :=
  bounded.of_effects effects fun _ owes => same ▸ owes

theorem owes_assigning (owes : console.registry.Owes bounds) (space : Namespace κ)
    (setting : Setting κ) (value : Value) :
    (console.assigning space setting value).registry.Owes bounds :=
  owes.update (Namespace.keepsShape_assign _ _) fun former isFormer same =>
    same ▸ owes former isFormer

theorem owes_offering (owes : console.registry.Owes bounds) {space : Namespace κ}
    (present : space ∈ console.registry.spaces) (detached : space.handler = none)
    (statement : Statement) : (console.offering space statement).registry.Owes bounds := by
  apply owes.update (Namespace.keepsShape_offer _)
  intro former isFormer same
  have still : (space.offer statement).2.handler = none :=
    (space.handler_offer statement).trans detached
  rw [Registry.eq_of_serial present isFormer same, Namespace.debt_of_detached still]
  exact bot_le

/-- Nothing that happens at once lets a namespace owe more. -/
theorem Step.bounded (step : Step before after) (bounded : Bounded past bounds before) :
    Bounded past bounds after := by
  -- A queue grows only where its namespace is detached, and then it owes nothing.
  have effects := step.effects
  cases step with
  | tell passing => exact bounded.of_same effects rfl
  | store saved => exact bounded.of_same effects rfl
  | create declared =>
    apply bounded.of_effects effects
    intro _ owes space member
    obtain ⟨-, -, shape, -⟩ := Registry.declared_ok declared
    rcases List.mem_append.mp member with member | member
    · exact owes space member
    · rw [List.mem_singleton.mp member]
      have detached := (congrArg Namespace.handler shape).symm
      exact (Namespace.debt_of_detached detached).trans_le bot_le
  | retire asked =>
    apply bounded.of_effects effects
    intro _ _ space member
    exact (Namespace.debt_of_retired (Registry.mem_retire member).1).trans_le bot_le
  | @hold space handler present retired =>
    apply bounded.of_effects effects
    intro _ owes
    apply owes.update (Namespace.keepsShape_handle _)
    intro former isFormer same
    rw [Registry.eq_of_serial present isFormer same]
    have still : (space.handle handler).isRegistered = false := retired
    exact (Namespace.debt_of_retired still).trans_le bot_le
  | enqueue present asked =>
    apply bounded.of_effects effects
    intro orderly _
    exact absurd (List.mem_cons_of_mem _ (List.mem_of_mem_head? asked))
      (orderly.queued.not_mem rfl _)
  | run statement present found attached => exact bounded.of_same effects (by simp)
  | defer arguments present found detached =>
    exact bounded.of_effects effects fun _ owes =>
      owes_offering owes (Registry.mem_table.mp present).1 detached _
  | notify present found kind differs attached =>
    apply bounded.of_effects effects
    intro _ owes
    rw [Console.registry_notifying]
    exact owes_assigning owes _ _ _
  | postpone present found kind differs detached reads =>
    exact bounded.of_effects effects fun _ owes =>
      owes_offering (owes_assigning owes _ _ _) (mem_assigning present _ _) detached _
  | lose present found kind differs detached long =>
    exact bounded.of_effects effects fun _ owes => owes_assigning owes _ _ _

theorem Bounded.mono {more : ℕ → WithBot ℕ} (bounded : Bounded past bounds console)
    (le : ∀ serial, bounds serial ≤ more serial) : Bounded past more console where
  base := ⟨bounded.base.sound, bounded.base.owned, bounded.base.described,
    fun serial none => bounded.base.retired serial (le_bot_iff.mp (none ▸ le serial))⟩
  since := bounded.since
  owes orderly space member := (bounded.owes orderly space member).trans (le space.serial)

theorem Bounded.raise {serial : Nat} {bound other : WithBot ℕ}
    (bounded : Bounded past (Function.update bounds serial bound) console) (le : bound ≤ other) :
    Bounded past (Function.update bounds serial other) console :=
  bounded.mono (Function.update_mono le)

theorem Bounded.within {serial : Nat} {bound : WithBot ℕ}
    (bounded : Bounded past (Function.update bounds serial bound) console)
    (le : bound ≤ bounds serial) : Bounded past bounds console := by
  have raised := bounded.raise le
  rwa [Function.update_eq_self] at raised

/-- The bound of one namespace may be replaced by another that the namespace keeps to. -/
theorem Bounded.allow {serial : Nat} {bound other : WithBot ℕ}
    (bounded : Bounded past (Function.update bounds serial bound) console)
    (retired : other = ⊥ → IsRetired serial console.registry)
    (owes : Orderly console.trace → ∀ space ∈ console.registry.spaces, space.serial = serial →
      space.debt ≤ other) : Bounded past (Function.update bounds serial other) console := by
  refine ⟨?_, bounded.since, fun orderly space member => ?_⟩
  · have base := bounded.base.allow retired
    rwa [Function.update_idem] at base
  · by_cases same : space.serial = serial
    · rw [same, Function.update_self]
      exact owes orderly space member same
    · have within := bounded.owes orderly space member
      rwa [Function.update_of_ne same] at within ⊢

/-- A namespace that is given a handler, or loses it, keeps to a bound of its own. -/
theorem Bounded.handling (bounded : Bounded past bounds console) {space : Namespace κ}
    (present : space ∈ console.registry.spaces) (handler : Option Handler) {bound : WithBot ℕ}
    (retired : bound = ⊥ → IsRetired space.serial console.registry)
    (owes : Orderly console.trace → (space.handle handler).debt ≤ bound) :
    Bounded past (Function.update bounds space.serial bound) (console.handling space handler) := by
  have effect : Effect console (console.handling space handler) := .handle handler present
  refine ⟨effect.base (bounded.base.allow retired), bounded.since.trans effect.suffix, ?_⟩
  intro orderly
  have earlier := orderly.of_suffix effect.suffix
  apply (bounded.owes earlier).replace (Namespace.keepsShape_handle _)
  intro former isFormer same
  rw [Registry.eq_of_serial present isFormer same]
  exact owes earlier

/-- Taking what is due lowers the bound of its namespace, and only that. -/
theorem Bounded.taking {space : Namespace κ} {handler : Handler} {statement : Statement}
    {length : Nat} (bounded : Bounded past (Function.update bounds space.serial length) console)
    (present : space ∈ console.registry.spaces) (due : space.due? = some (handler, statement))
    (owed : Orderly console.trace → space.debt ≤ length) :
    Bounded console.trace (Function.update bounds space.serial (length - 1 : ℕ))
      (console.taking space statement) := by
  have here : Bounded console.trace (Function.update bounds space.serial length) console :=
    ⟨bounded.base, List.suffix_refl _, bounded.owes⟩
  have effect : Effect console (console.taking space statement) := .take present due
  have lower (orderly : Orderly (console.taking space statement).trace) :=
    Namespace.debt_dequeue due (owed (orderly.of_suffix effect.suffix))
  have fewer : ((length - 1 : ℕ) : WithBot ℕ) ≤ length := by
    rw [Nat.cast_le]
    omega
  refine (here.of_effects effect.once fun orderly owes => ?_).allow (by simp)
    fun orderly other member same => ?_
  · apply owes.update Namespace.keepsShape_dequeue
    intro former isFormer same
    rw [Registry.eq_of_serial present isFormer same, Function.update_self]
    exact (lower orderly).trans fewer
  · rw [Registry.eq_of_serial (mem_taking present statement) member same]
    exact lower orderly

theorem Replay.bounded {handler : Handler} {space : Namespace κ} {statement : Statement}
    (replay : Replay console handler space statement after)
    (bounded : Bounded past bounds (console.taking space statement)) : Bounded past bounds after :=
  bounded.of_same replay.effects (by cases replay <;> simp)

end Bounds

end CommandConsole
