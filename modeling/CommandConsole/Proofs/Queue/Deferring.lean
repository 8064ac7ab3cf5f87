import CommandConsole.Proofs.Queue.Aim
import CommandConsole.Proofs.Queue.Work

set_option autoImplicit false

/-!
A detached run and an attached run beside it. Main statements: what the detached run queues the
attached run makes its calls for at once, be it a command (`Deferring.executed`) or a change
(`Deferring.changed`), so that both have done the same work.
-/
namespace CommandConsole

open CommandConsole.Action

variable {κ : Type}

def Limit.fitting {α : Type} (limit : Limit) (items : List α) : List α :=
  match limit.places with
  | some places => items.take places
  | none => items

theorem Limit.fitting_append {α : Type} (limit : Limit) (items : List α) (item : α) :
    limit.fitting (items ++ [item]) =
      if limit.isReached (limit.fitting items).length then limit.fitting items
      else limit.fitting items ++ [item] := by
  cases isPlaces : limit.places with
  | none => simp [fitting, isReached, isPlaces]
  | some places =>
    simp only [fitting, isReached, isPlaces, List.length_take, decide_eq_true_eq]
    split
    · have full : places ≤ items.length := by omega
      exact List.take_append_of_le_length full
    · have fits : (items ++ [item]).length ≤ places := by
        rw [List.length_append, List.length_singleton]
        omega
      have fewer : items.length ≤ places := by omega
      rw [List.take_of_length_le fits, List.take_of_length_le fewer]

namespace Namespace

def settle (handler : Handler) (space : Namespace κ) : Namespace κ :=
  { space with handler := some handler, pending := [] }

theorem serial_settle (handler : Handler) (space : Namespace κ) :
    (space.settle handler).serial = space.serial := rfl

theorem keepsEntries_settle (handler : Handler) : KeepsEntries (κ := κ) (·.settle handler) :=
  ⟨fun _ => rfl, fun _ => rfl, fun _ => rfl, fun _ => rfl⟩

theorem settle_offer (handler : Handler) (statement : Statement) (space : Namespace κ) :
    (space.offer statement).2.settle handler = space.settle handler := by
  unfold offer
  split <;> rfl

theorem KeepsShape.offer {edit : Namespace κ → Namespace κ} (keeps : KeepsShape edit)
    (statement : Statement) : KeepsShape fun space => ((edit space).offer statement).2 :=
  fun space => (keepsShape_offer statement (edit space)).trans (keeps space)

/-- A queue that carries the work that it has places for takes what carries some more work, if it
has a place for that. -/
theorem forall₂_offer {space now : Namespace κ} (limit : now.limit = space.limit)
    {works : List Work}
    (queued : List.Forall₂ (Work.IsCarried space) (space.limit.fitting works) now.pending)
    {work : Work} {statement : Statement} (carried : work.IsCarried space statement) :
    List.Forall₂ (Work.IsCarried space) (space.limit.fitting (works ++ [work]))
      (now.offer statement).2.pending := by
  have length := queued.length_eq
  simp only [Limit.fitting_append, offer, isFull, limit, ← length]
  split
  · exact queued
  · exact List.rel_append queued (.cons carried .nil)

end Namespace

/-- The settled registry: one namespace has a handler and nothing in its queue. -/
def Registry.settle (registry : Registry κ) (serial : Nat) (handler : Handler) : Registry κ :=
  registry.update serial (·.settle handler)

namespace Registry

variable {handler : Handler} {serial : Nat}

theorem settle_resolve {registry : Registry κ} {token : String} {space : Namespace κ}
    {entry : Entry κ} (found : registry.resolve token = .ok (.entry space entry))
    (same : space.serial = serial) :
    (registry.settle serial handler).resolve token = .ok (.entry (space.settle handler) entry) := by
  have keeps := (Namespace.keepsEntries_settle (κ := κ) handler).aimed serial
  rw [settle, update, keeps.recast.resolve, found]
  simp only [Except.map, Recast.resolution, if_pos (beq_iff_eq.mpr same)]

theorem settle_found {found : Except Fault (Namespace κ × Setting κ)}
    (same : ∀ space setting, found = .ok (space, setting) → space.serial = serial) :
    (found.map fun pair =>
        (if pair.1.serial == serial then pair.1.settle handler else pair.1, pair.2)) =
      found.map fun pair => (pair.1.settle handler, pair.2) := by
  cases found with
  | error fault => rfl
  | ok pair =>
    have isSerial := same pair.1 pair.2 rfl
    simp only [Except.map, if_pos (beq_iff_eq.mpr isSerial)]

/-- A target that is aimed at the namespace points at the same setting of it. -/
theorem settle_target (registry : Registry κ) {target : Target}
    (aimed : target.isAimedAt registry serial) :
    (registry.settle serial handler).target target =
      (registry.target target).map fun found => (found.1.settle handler, found.2) := by
  have keeps := (Namespace.keepsEntries_settle (κ := κ) handler).aimed serial
  rw [settle, update, keeps.target]
  exact settle_found fun _ _ pointed => Target.serial_of_isAimedAt aimed pointed

theorem settle_typed (registry : Registry κ) {target : Target}
    (aimed : target.isAimedAt registry serial) (kind : Kind) :
    (registry.settle serial handler).typed kind target =
      (registry.typed kind target).map fun found => (found.1.settle handler, found.2) := by
  have keeps := (Namespace.keepsEntries_settle (κ := κ) handler).aimed serial
  rw [settle, update, keeps.typed]
  exact settle_found fun _ _ typed => Target.serial_of_isAimedAt aimed (typed_ok typed).1

/-- Settling undoes an offer, and nothing else that is done to the namespace. -/
theorem settle_update {edit : Namespace κ → Namespace κ} (keeps : Namespace.KeepsShape edit)
    (commutes : ∀ space, edit (space.settle handler) = (edit space).settle handler)
    (registry : Registry κ) (statement : Statement) :
    (registry.update serial fun space => ((edit space).offer statement).2).settle serial handler =
      (registry.settle serial handler).update serial edit := by
  have offered := keeps.offer statement
  rw [settle, settle, update_update _ _ offered.serial (Namespace.serial_settle handler),
    update_update _ _ (Namespace.serial_settle handler) keeps.serial]
  congr 1
  funext space
  rw [commutes, Namespace.settle_offer]

end Registry

/-- A detached run beside an attached run, both from one console, after the same work: the queue of
the detached namespace carries the work that it had places for. -/
structure Deferring (start : Console κ) (space : Namespace κ) (handler : Handler)
    (works : List Work) (first second : Console κ) : Prop where
  shapes : first.registry.spaces.map Namespace.shape = start.registry.spaces.map Namespace.shape
  sound : first.registry.Sound
  settled : second.registry = first.registry.settle space.serial handler
  queue : ∃ now ∈ first.registry.spaces, now.serial = space.serial ∧ now.handler = none ∧
    List.Forall₂ (Work.IsCarried space) (space.limit.fitting works) now.pending
  firstCalls : calls first.trace = calls start.trace
  secondCalls : calls second.trace =
    calls start.trace ++ works.filterMap (·.call? space handler false)
  secondWorks : worksOf space.serial second.trace = worksOf space.serial start.trace ++ works

namespace Deferring

variable {start first second : Console κ} {space : Namespace κ} {handler : Handler}
  {works : List Work}

theorem told (deferring : Deferring start space handler works first second)
    {first' second' : Console κ} (firstTold : Tells Event.isTalk first first')
    (secondTold : Tells Event.isTalk second second') :
    Deferring start space handler works first' second' where
  shapes := firstTold.registry ▸ deferring.shapes
  sound := firstTold.registry ▸ deferring.sound
  settled := by rw [firstTold.registry, secondTold.registry, deferring.settled]
  queue := firstTold.registry ▸ deferring.queue
  firstCalls := (firstTold.chronicle Event.call?_of_isTalk).trans deferring.firstCalls
  secondCalls := (secondTold.chronicle Event.call?_of_isTalk).trans deferring.secondCalls
  secondWorks := (secondTold.chronicle (Event.work?_of_isTalk _)).trans deferring.secondWorks

theorem shape (deferring : Deferring start space handler works first second)
    (present : space ∈ start.registry.spaces) {now : Namespace κ}
    (member : now ∈ first.registry.spaces) (same : now.serial = space.serial) :
    now.shape = space.shape := by
  have shaped : now.shape ∈ start.registry.spaces.map Namespace.shape :=
    deferring.shapes ▸ List.mem_map_of_mem member
  obtain ⟨other, isOther, otherShape⟩ := List.mem_map.mp shaped
  have serial : other.serial = now.serial := congrArg (·.serial) otherShape
  rw [← otherShape, Registry.eq_of_serial present isOther (serial.trans same)]

/-- The namespace that the runs are about, as it is now in the detached run. -/
theorem now (deferring : Deferring start space handler works first second)
    {now : Namespace κ} (member : now ∈ first.registry.spaces) (same : now.serial = space.serial) :
    now.handler = none ∧
      List.Forall₂ (Work.IsCarried space) (space.limit.fitting works) now.pending := by
  obtain ⟨other, isOther, serial, detached, carried⟩ := deferring.queue
  rw [Registry.eq_of_serial isOther member (same.trans serial.symm)]
  exact ⟨detached, carried⟩

/-- Some work is done in both runs: the detached run offers a statement that carries it, and the
attached run makes the call that there is to make. -/
theorem next (deferring : Deferring start space handler works first second)
    (present : space ∈ start.registry.spaces) {first' second' : Console κ} {work : Work}
    (statement : Statement) (edit : Namespace κ → Namespace κ)
    (keeps : Namespace.KeepsShape edit)
    (commutes : ∀ other, edit (other.settle handler) = (edit other).settle handler)
    (leaves : ∀ other, (edit other).handler = other.handler ∧ (edit other).pending = other.pending)
    (sound : first'.registry.Sound) (carried : work.IsCarried space statement)
    (firstRegistry : first'.registry =
      first.registry.update space.serial fun other => ((edit other).offer statement).2)
    (secondRegistry : second'.registry = second.registry.update space.serial edit)
    (firstCalls : calls first'.trace = calls first.trace)
    (secondCalls : calls second'.trace =
      calls second.trace ++ (work.call? space handler false).toList)
    (secondWorks : worksOf space.serial second'.trace =
      worksOf space.serial second.trace ++ [work]) :
    Deferring start space handler (works ++ [work]) first' second' where
  shapes := by
    rw [firstRegistry, Registry.shapes_update (keeps.offer statement), deferring.shapes]
  sound := sound
  settled := by
    rw [firstRegistry, Registry.settle_update keeps commutes, ← deferring.settled, secondRegistry]
  queue := by
    obtain ⟨now, member, same, detached, queued⟩ := deferring.queue
    have offered := keeps.offer statement
    have limit : (edit now).limit = space.limit :=
      congrArg (·.limit) ((keeps now).trans (deferring.shape present member same))
    have stillQueued : List.Forall₂ (Work.IsCarried space) (space.limit.fitting works)
        (edit now).pending := (leaves now).2 ▸ queued
    refine ⟨((edit now).offer statement).2, ?_, (offered.serial now).trans same, ?_, ?_⟩
    · rw [firstRegistry, ← same]
      exact Registry.mem_update_self offered member
    · rw [Namespace.handler_offer, (leaves now).1, detached]
    · exact Namespace.forall₂_offer limit stillQueued carried
  firstCalls := firstCalls.trans deferring.firstCalls
  secondCalls := by
    rw [secondCalls, deferring.secondCalls, List.append_assoc, List.filterMap_append,
      List.filterMap_cons, List.filterMap_nil]
    cases work.call? space handler false <;> rfl
  secondWorks := by
    rw [secondWorks, deferring.secondWorks, List.append_assoc]

end Deferring

section Steps

variable {run : Runner κ} {start first second : Console κ} {space now : Namespace κ}
  {handler : Handler} {works : List Work}

theorem calls_assigning (console : Console κ) (space : Namespace κ) (setting : Setting κ)
    (value : Value) : calls (console.assigning space setting value).trace = calls console.trace :=
  (chronicle_cons _ _ _).trans (List.append_nil _)

theorem calls_offering (console : Console κ) (space : Namespace κ) (statement : Statement) :
    calls (console.offering space statement).trace = calls console.trace :=
  (chronicle_cons _ _ _).trans (List.append_nil _)

theorem worksOf_running (console : Console κ) (isReplay : Bool) (command : Command κ)
    (statement : Statement) :
    worksOf space.serial (console.running handler isReplay space command statement).trace =
      worksOf space.serial console.trace ++ [.execution command.name statement] := by
  have told : worksOf space.serial
      (console.tell (.executed space.serial command.name statement)).trace =
        worksOf space.serial console.trace ++ [.execution command.name statement] := by
    rw [Console.tell, worksOf, chronicle_cons, Event.work?, if_pos rfl]
    rfl
  unfold Console.running
  cases command.action with
  | none => exact told
  | some callback => exact ((chronicle_cons _ _ _).trans (List.append_nil _)).trans told

theorem worksOf_notifying (console : Console κ) (serial : Nat) (isReplay : Bool)
    (setting : Setting κ) (value : Value) :
    worksOf serial (console.notifying handler isReplay space setting value).trace =
      worksOf serial console.trace := by
  unfold Console.notifying
  cases setting.onChange with
  | none => rfl
  | some callback => exact (chronicle_cons _ _ _).trans (List.append_nil _)

theorem worksOf_assigning (console : Console κ) (setting : Setting κ) (value : Value) :
    worksOf space.serial (console.assigning space setting value).trace =
      worksOf space.serial console.trace ++ [.change setting.name value] := by
  rw [Console.assigning, Console.tell, worksOf, chronicle_cons, Event.work?, if_pos rfl]
  rfl

/-- What is known of a namespace whose work is deferred: its callbacks only record, and what it may
have to write can be written. -/
structure IsDeferrable (run : Runner κ) (space : Namespace κ) : Prop where
  records : space.Records run
  described : space.IsDescribed
  defaults : ∀ setting, Entry.setting setting ∈ space.entries → setting.default.isWritable = true

theorem IsDeferrable.recorded (deferrable : IsDeferrable run space)
    (shape : now.shape = space.shape) {call : Call κ} (same : call.space = space.serial)
    (named : now.callbackNamed? call.entry = some call.callback) : Records run call :=
  deferrable.records call same ((callbackNamed?_of_shape shape _).symm.trans named)

namespace Deferring

variable (deferrable : IsDeferrable run space)
  (deferring : Deferring start space handler works first second)
  (present : space ∈ start.registry.spaces) (member : now ∈ first.registry.spaces)
  (same : now.serial = space.serial)

include deferring present member same

/-- A command that is queued in the detached run runs in the attached run. -/
theorem executed {command : Command κ} (found : now.find? command.name = some (.command command))
    (statement : Statement) :
    Deferring start space handler (works ++ [.execution command.name statement])
      (first.offering now ⟨qualify now.name command.name :: statement.arguments⟩)
      (second.running handler false (now.settle handler) command statement) := by
  have shape := deferring.shape present member same
  have settledShape : (now.settle handler).shape = space.shape := shape
  have inside := (Namespace.find?_ok found).1
  have known : Entry.command command ∈ space.entries :=
    Namespace.exists_command_of_shape shape.symm inside
  have callback : (now.settle handler).callbackNamed? command.name = command.action :=
    (deferring.sound.spaces now member).callbackNamed?_name inside
  have name : now.name = space.name := congrArg (·.name) shape
  have carried : Work.IsCarried space (.execution command.name statement)
      ⟨qualify now.name command.name :: statement.arguments⟩ :=
    ⟨command, known, rfl, by rw [name]⟩
  have offered : Effect first
      (first.offering now ⟨qualify now.name command.name :: statement.arguments⟩) :=
    .offer member (.inl (Namespace.owns_command found _))
  refine deferring.next present _ (fun other => other) (fun _ => rfl) (fun _ => rfl)
    (fun _ => ⟨rfl, rfl⟩) (offered.sound deferring.sound) carried ?_ ?_ (calls_offering _ _ _) ?_ ?_
  · rw [← same]
    rfl
  · rw [Console.registry_running, Registry.update_id]
  · rw [calls_running _ _ _ _ _ _ callback, call?_of_shape settledShape]
  · rw [← same]
    exact worksOf_running _ _ _ _

/-- A change that is queued in the detached run is told in the attached run. -/
theorem changed {setting : Setting κ} (found : now.find? setting.name = some (.setting setting))
    {value : Value} (kind : value.kind = setting.kind) {token : String}
    (reads : Value.parse setting.kind token = .ok value) :
    Deferring start space handler (works ++ [.change setting.name value])
      ((first.assigning now setting value).offering (now.assign setting.name value)
        ⟨[qualify now.name setting.name, token]⟩)
      ((second.assigning (now.settle handler) setting value).notifying handler false
        (now.settle handler) setting value) := by
  have shape := deferring.shape present member same
  have settledShape : (now.settle handler).shape = space.shape := shape
  have inside := (Namespace.find?_ok found).1
  have callback : (now.settle handler).callbackNamed? setting.name = setting.onChange :=
    (deferring.sound.spaces now member).callbackNamed?_name inside
  have name : now.name = space.name := congrArg (·.name) shape
  have carried : Work.IsCarried space (.change setting.name value)
      ⟨[qualify now.name setting.name, token]⟩ := by
    obtain ⟨known, isKnown, isName, isKind, -⟩ :=
      Namespace.exists_setting_of_shape shape.symm inside
    exact ⟨known, token, isKnown, isName, by rw [name], isKind ▸ reads⟩
  have assigned : Effect first (first.assigning now setting value) := .assign member found kind
  have offered : Effect (first.assigning now setting value)
      ((first.assigning now setting value).offering (now.assign setting.name value)
        ⟨[qualify now.name setting.name, token]⟩) :=
    .offer (mem_assigning member _ _) (.inl (Namespace.owns_setting found reads))
  refine deferring.next present _ (·.assign setting.name value)
    (Namespace.keepsShape_assign _ _) (fun _ => rfl) (fun _ => ⟨rfl, rfl⟩)
    (offered.sound (assigned.sound deferring.sound)) carried ?_ ?_ ?_ ?_ ?_
  · rw [← same]
    exact Registry.update_update _ _ (Namespace.keepsShape_assign _ _).serial
      (Namespace.keepsShape_offer _).serial
  · rw [Console.registry_notifying, ← same]
    rfl
  · rw [calls_offering, calls_assigning]
  · rw [calls_notifying _ _ _ _ _ _ callback, calls_assigning, call?_of_shape settledShape]
  · rw [worksOf_notifying, ← same]
    exact worksOf_assigning _ _ _

end Deferring

end Steps

end CommandConsole
