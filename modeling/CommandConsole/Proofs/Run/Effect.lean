import CommandConsole.Proofs.Run.Reachable
import Mathlib.Logic.Relation

set_option autoImplicit false

/-!
What steps do to a registry and a trace, one thing at a time. Main statement: what every effect
keeps, every reachable console has (`Reachable.holds_of_effects`).
-/
namespace CommandConsole

open CommandConsole.Action

variable {κ : Type}

/-- Whether a namespace can have queued a statement itself: it names an entry of its own, and gives
a setting a value of its kind. -/
def Namespace.Owns (space : Namespace κ) (statement : Statement) : Prop :=
  ∃ entry ∈ space.entries, ∃ arguments,
    statement = ⟨qualify space.name entry.name :: arguments⟩ ∧
      ∀ setting, entry = .setting setting →
        ∃ token value, arguments = [token] ∧ Value.parse setting.kind token = .ok value

/-- Whether an event leaves a registry alone and tells it as it is, if it tells it. -/
def Event.IsTelling (registry : Registry κ) : Event κ → Prop
  | .called _ told => told = registry
  | .executed _ _ _ => True
  | event => event.IsPassing registry

theorem Event.IsPassing.isTelling {registry : Registry κ} {event : Event κ}
    (passing : event.IsPassing registry) : event.IsTelling registry := by
  cases event <;> first | exact passing | exact passing.elim

/-- One thing that happens to a registry or is told. -/
inductive Effect : Console κ → Console κ → Prop
  | tell {console : Console κ} {event : Event κ} (telling : event.IsTelling console.registry) :
      Effect console (console.tell event)
  | store {console : Console κ} (storage : Storage) :
      Effect console { console with storage := storage }
  | create {console : Console κ} {declaration : NamespaceDeclaration (Callback κ)}
      {space : Namespace κ}
      (declared : console.registry.declared console.config declaration = .ok space) :
      Effect console (console.creating declaration space)
  | retire {console : Console κ} {call : Option (Call κ)}
      (asked : .asked call .teardown ∈ console.trace) : Effect console console.retiring
  | offer {console : Console κ} {space : Namespace κ} {statement : Statement}
      (present : space ∈ console.registry.spaces)
      (owned : space.Owns statement ∨
        ∃ call, .asked call (.enqueue space.serial statement) ∈ console.trace) :
      Effect console (console.offering space statement)
  | assign {console : Console κ} {space : Namespace κ} {setting : Setting κ} {value : Value}
      (present : space ∈ console.registry.spaces)
      (found : space.find? setting.name = some (.setting setting))
      (kind : value.kind = setting.kind) : Effect console (console.assigning space setting value)
  | handle {console : Console κ} {space : Namespace κ} (handler : Option Handler)
      (present : space ∈ console.registry.spaces) :
      Effect console (console.handling space handler)
  | take {console : Console κ} {space : Namespace κ} {handler : Handler} {statement : Statement}
      (present : space ∈ console.registry.spaces)
      (due : space.due? = some (handler, statement)) :
      Effect console (console.taking space statement)

/-- Any number of effects in sequence. -/
abbrev Effects : Console κ → Console κ → Prop := Relation.ReflTransGen Effect

theorem Effect.once {before after : Console κ} (effect : Effect before after) :
    Effects before after := .single effect

theorem effects_running (console : Console κ) (handler : Handler) (isReplay : Bool)
    (space : Namespace κ) (command : Command κ) (statement : Statement) :
    Effects console (console.running handler isReplay space command statement) := by
  have executed : Effects console
      (console.tell (.executed space.serial command.name statement)) :=
    .single (.tell (by exact trivial))
  unfold Console.running
  cases command.action with
  | none => exact executed
  | some callback => exact executed.tail (.tell (by exact rfl))

theorem effects_notifying (console : Console κ) (handler : Handler) (isReplay : Bool)
    (space : Namespace κ) (setting : Setting κ) (value : Value) :
    Effects console (console.notifying handler isReplay space setting value) := by
  unfold Console.notifying
  cases setting.onChange with
  | none => exact .refl
  | some callback => exact .single (.tell (by exact rfl))

theorem Namespace.owns_command {space : Namespace κ} {command : Command κ}
    (found : space.find? command.name = some (.command command)) (arguments : List String) :
    space.Owns ⟨qualify space.name command.name :: arguments⟩ :=
  ⟨.command command, (Namespace.find?_ok found).1, arguments, rfl,
    fun setting same => by cases same⟩

theorem Namespace.mem_assign {space : Namespace κ} {setting : Setting κ}
    (found : space.find? setting.name = some (.setting setting)) (value : Value) :
    .setting { setting with current := value } ∈ (space.assign setting.name value).entries := by
  refine List.mem_map.mpr ⟨.setting setting, (Namespace.find?_ok found).1, ?_⟩
  simp [Entry.name, Entry.assign]

theorem Namespace.owns_setting {space : Namespace κ} {setting : Setting κ} {value : Value}
    {token : String} (found : space.find? setting.name = some (.setting setting))
    (reads : Value.parse setting.kind token = .ok value) :
    (space.assign setting.name value).Owns ⟨[qualify space.name setting.name, token]⟩ := by
  refine ⟨.setting { setting with current := value }, Namespace.mem_assign found value, [token],
    rfl, ?_⟩
  rintro _ ⟨⟩
  exact ⟨token, value, rfl, reads⟩

theorem Step.effects {before after : Console κ} (step : Step before after) :
    Effects before after := by
  cases step with
  | tell passing => exact (Effect.tell passing.isTelling).once
  | store saved => exact (Effect.store _).once
  | create declared => exact (Effect.create declared).once
  | retire asked => exact (Effect.retire (List.mem_of_mem_head? asked)).once
  | hold handler present retired => exact (Effect.handle handler present).once
  | enqueue present asked =>
    exact (Effect.offer present (.inr ⟨_, List.mem_of_mem_head? asked⟩)).once
  | run statement present found attached => exact effects_running ..
  | defer arguments present found detached =>
    exact (Effect.offer (Registry.mem_table.mp present).1
      (.inl (Namespace.owns_command found arguments))).once
  | notify present found kind differs attached =>
    exact (Effect.assign present found kind).once.trans (effects_notifying ..)
  | postpone present found kind differs detached reads =>
    exact (Effect.assign present found kind).once.tail
      (.offer (mem_assigning present _ _) (.inl (Namespace.owns_setting found reads)))
  | lose present found kind differs detached long =>
    exact (Effect.assign present found kind).once

theorem Replay.effects {console after : Console κ} {handler : Handler} {space : Namespace κ}
    {statement : Statement} (replay : Replay console handler space statement after) :
    Effects (console.taking space statement) after := by
  cases replay with
  | command found => exact effects_running ..
  | change found reads => exact effects_notifying ..
  | fail unknown => exact .refl

theorem Turn.effects {before after : Console κ} (turn : Turn before after) :
    Effects before after := by
  cases turn with
  | attach handler present => exact (Effect.handle handler present).once
  | replay present due replay => exact (Effect.take present due).once.trans replay.effects

/-- A trace is never forgotten. -/
theorem Effect.suffix {before after : Console κ} (effect : Effect before after) :
    before.trace <:+ after.trace := by
  cases effect <;> first | exact List.suffix_refl _ | exact List.suffix_cons _ _

theorem suffix_of_effects {before after : Console κ} (effects : Effects before after) :
    before.trace <:+ after.trace := by
  induction effects with
  | refl => exact List.suffix_refl _
  | tail _ effect ih => exact ih.trans effect.suffix

theorem Step.suffix {before after : Console κ} (step : Step before after) :
    before.trace <:+ after.trace :=
  suffix_of_effects step.effects

theorem Turn.suffix {before after : Console κ} (turn : Turn before after) :
    before.trace <:+ after.trace :=
  suffix_of_effects turn.effects

/-- What has been told is not forgotten, whatever callbacks do. -/
theorem Invariants.suffix (past : List (Event κ)) :
    Invariants fun (_ : Unit) (now : Console κ) => past <:+ now.trace :=
  .of_turns (fun step earlier => earlier.trans step.suffix)
    fun turn earlier => earlier.trans turn.suffix

/-- Whatever the host asks for, it is told after what has been told before. -/
theorem Console.suffix_act (console : Console κ) (conduct : Conduct κ) (bound : Nat)
    (operation : Operation κ) :
    console.trace <:+ ((act conduct bound operation).after console).trace :=
  (ends_after _ _ _).mp
    ((Invariants.suffix console.trace).act conduct bound operation () console (List.suffix_refl _))

theorem Console.suffix_actAll (console : Console κ) (conduct : Conduct κ) (bound : Nat)
    (operations : List (Operation κ)) :
    console.trace <:+ (console.actAll conduct bound operations).trace := by
  induction operations generalizing console with
  | nil => exact List.suffix_refl _
  | cons operation rest ih => exact (console.suffix_act conduct bound operation).trans (ih _)

section Stable

variable {holds : Console κ → Prop}
  (effects : ∀ {before after : Console κ}, Effect before after → holds before → holds after)

include effects

theorem holds_of_effects {before after : Console κ} (sequence : Effects before after)
    (start : holds before) : holds after := by
  induction sequence with
  | refl => exact start
  | tail _ effect ih => exact effects effect ih

theorem Console.Reachable.holds_of_effects
    (initially : ∀ config storage, holds (Console.empty config storage))
    {console : Console κ} (reachable : console.Reachable) : holds console := by
  have : IgnoresFiles holds := ⟨fun storage => effects (.store storage)⟩
  exact reachable.holds_of_turns
    (fun step => CommandConsole.holds_of_effects effects step.effects)
    (fun turn => CommandConsole.holds_of_effects effects turn.effects) initially

end Stable

end CommandConsole
