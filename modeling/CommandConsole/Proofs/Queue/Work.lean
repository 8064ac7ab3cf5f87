import CommandConsole.Proofs.Queue.Order
import CommandConsole.Proofs.Registry.Recast
import CommandConsole.Proofs.Run.Recorder

set_option autoImplicit false

namespace CommandConsole

open CommandConsole.Action

variable {κ : Type}

/-- What can be told to a callback: that its command is executed or that its setting has changed. -/
inductive Work
  | execution (entry : String) (statement : Statement)
  | change (entry : String) (value : Value)

namespace Event

def work? (serial : Nat) : Event κ → Option Work
  | executed space entry statement =>
    if space = serial then some (.execution entry statement) else none
  | changed space entry value => if space = serial then some (.change entry value) else none
  | _ => none

def call? : Event κ → Option (Call κ)
  | called call _ => some call
  | _ => none

theorem work?_of_isTalk (serial : Nat) (event : Event κ) (talk : event.isTalk = true) :
    event.work? serial = none := by
  cases event <;> first | rfl | cases talk

theorem call?_of_isTalk (event : Event κ) (talk : event.isTalk = true) : event.call? = none := by
  cases event <;> first | rfl | cases talk

end Event

/-- The executions of commands of a namespace and the changes of its settings. -/
def worksOf (serial : Nat) (trace : List (Event κ)) : List Work :=
  chronicle (Event.work? serial) trace

def calls (trace : List (Event κ)) : List (Call κ) :=
  chronicle Event.call? trace

theorem calls_tell {event : Event κ} (quiet : event.call? = none) (console : Console κ) :
    calls (console.tell event).trace = calls console.trace := by
  rw [calls, Console.tell, chronicle_cons, quiet, Option.toList_none, List.append_nil]
  rfl

def Namespace.callbackNamed? (space : Namespace κ) (name : String) : Option (Callback κ) :=
  (space.find? name).bind Entry.callback?

theorem Namespace.exists_of_callbackNamed? {space : Namespace κ} {name : String}
    {callback : Callback κ} (named : space.callbackNamed? name = some callback) :
    ∃ entry ∈ space.entries, entry.callback? = some callback := by
  obtain ⟨entry, found, answers⟩ := Option.bind_eq_some_iff.mp named
  exact ⟨entry, (Namespace.find?_ok found).1, answers⟩

namespace Work

/-- The call that there is to make for some work, if its entry has a callback. -/
def call? (space : Namespace κ) (handler : Handler) (isReplay : Bool) : Work → Option (Call κ)
  | execution entry statement => (space.callbackNamed? entry).map fun callback =>
      ⟨callback, space.serial, entry, handler, .command statement, isReplay⟩
  | change entry value => (space.callbackNamed? entry).map fun callback =>
      ⟨callback, space.serial, entry, handler, .change value, isReplay⟩

/-- An execution by a statement that has the qualified name of the command, and the arguments that
it had. -/
def requalified (space : Namespace κ) : Work → Work
  | execution entry statement =>
    execution entry ⟨qualify space.name entry :: statement.arguments⟩
  | change entry value => change entry value

def IsCarried (space : Namespace κ) : Work → Statement → Prop
  | execution entry executed, statement => ∃ command, Entry.command command ∈ space.entries ∧
      command.name = entry ∧ statement = ⟨qualify space.name entry :: executed.arguments⟩
  | change entry value, statement => ∃ setting token, Entry.setting setting ∈ space.entries ∧
      setting.name = entry ∧ statement = ⟨[qualify space.name entry, token]⟩ ∧
      Value.parse setting.kind token = .ok value

end Work

section Shape

variable {former latter : Namespace κ}

theorem callbackNamed?_of_shape (same : latter.shape = former.shape) (name : String) :
    latter.callbackNamed? name = former.callbackNamed? name := by
  have shaped (space : Namespace κ) :
      space.callbackNamed? name = (space.shape.find? name).bind Entry.callback? := by
    rw [Registry.recast_shape.find?, Option.bind_map]
    simp only [Namespace.callbackNamed?, Function.comp_def, Entry.callback?_pristine]
  rw [shaped, shaped, same]

theorem call?_of_shape (same : latter.shape = former.shape) (handler : Handler) (isReplay : Bool)
    (work : Work) : work.call? latter handler isReplay = work.call? former handler isReplay := by
  have serial : latter.serial = former.serial := congrArg (·.serial) same
  cases work <;> simp only [Work.call?, callbackNamed?_of_shape same, serial]

theorem requalified_of_shape (same : latter.shape = former.shape) (work : Work) :
    work.requalified latter = work.requalified former := by
  have name : latter.name = former.name := congrArg (·.name) same
  cases work <;> simp only [Work.requalified, name]

/-- A command stays as it is, a setting but for its value. -/
theorem Namespace.exists_command_of_shape (same : latter.shape = former.shape)
    {command : Command κ} (member : Entry.command command ∈ former.entries) :
    Entry.command command ∈ latter.entries := by
  obtain ⟨other, inside, pristine⟩ := Namespace.exists_entry_of_shape same member
  cases other with
  | command other => exact Entry.command.inj pristine ▸ inside
  | setting other => cases pristine

theorem Namespace.exists_setting_of_shape (same : latter.shape = former.shape)
    {setting : Setting κ} (member : Entry.setting setting ∈ former.entries) :
    ∃ other, Entry.setting other ∈ latter.entries ∧ other.name = setting.name ∧
      other.kind = setting.kind ∧ other.default = setting.default ∧
      other.onChange = setting.onChange := by
  obtain ⟨other, inside, pristine⟩ := Namespace.exists_entry_of_shape same member
  cases other with
  | command other => cases pristine
  | setting other =>
    simp only [Entry.pristine, Entry.setting.injEq, Setting.mk.injEq] at pristine
    exact ⟨other, inside, pristine.1, pristine.2.2.1, pristine.2.2.2.1, pristine.2.2.2.2.2⟩

theorem Work.IsCarried.of_shape {work : Work} {statement : Statement}
    (carried : work.IsCarried former statement) (same : latter.shape = former.shape) :
    work.IsCarried latter statement := by
  have spaceName : latter.name = former.name := congrArg (·.name) same
  cases work with
  | execution entry executed =>
    obtain ⟨command, member, named, isStatement⟩ := carried
    exact ⟨command, Namespace.exists_command_of_shape same member, named, spaceName ▸ isStatement⟩
  | change entry value =>
    obtain ⟨setting, token, member, named, isStatement, reads⟩ := carried
    obtain ⟨other, inside, name, kind, -⟩ := Namespace.exists_setting_of_shape same member
    exact ⟨other, token, inside, name.trans named, spaceName ▸ isStatement, kind ▸ reads⟩

end Shape

/-- The callbacks of a namespace only record their calls. -/
def Namespace.Records (run : Runner κ) (space : Namespace κ) : Prop :=
  ∀ call : Call κ, call.space = space.serial →
    space.callbackNamed? call.entry = some call.callback → CommandConsole.Records run call

section Flush

variable {run : Runner κ} {console : Console κ} {space : Namespace κ} {handler : Handler}

theorem calls_calling (console : Console κ) (call : Call κ) :
    calls (console.calling call).trace = calls console.trace ++ [call] :=
  chronicle_cons _ _ _

theorem calls_running (console : Console κ) (handler : Handler) (isReplay : Bool)
    (space : Namespace κ) (command : Command κ) (statement : Statement)
    (found : space.callbackNamed? command.name = command.action) :
    calls (console.running handler isReplay space command statement).trace =
      calls console.trace ++
        ((Work.execution command.name statement).call? space handler isReplay).toList := by
  simp only [Console.running, Work.call?, found]
  have told : calls (console.tell (.executed space.serial command.name statement)).trace =
      calls console.trace := by
    rw [Console.tell, calls, chronicle_cons]
    exact List.append_nil _
  cases command.action with
  | none => rw [told]; exact (List.append_nil _).symm
  | some callback => rw [calls_calling, told]; rfl

theorem calls_notifying (console : Console κ) (handler : Handler) (isReplay : Bool)
    (space : Namespace κ) (setting : Setting κ) (value : Value)
    (found : space.callbackNamed? setting.name = setting.onChange) :
    calls (console.notifying handler isReplay space setting value).trace =
      calls console.trace ++
        ((Work.change setting.name value).call? space handler isReplay).toList := by
  simp only [Console.notifying, Work.call?, found]
  cases setting.onChange with
  | none => exact (List.append_nil _).symm
  | some callback => exact calls_calling _ _

theorem Namespace.Sound.callbackNamed?_name (sound : space.Sound) {entry : Entry κ}
    (member : entry ∈ space.entries) : space.callbackNamed? entry.name = entry.callback? := by
  rw [Namespace.callbackNamed?, sound.find?_name member, Option.bind_some]

section Replay

variable (sound : console.registry.Sound) (present : space ∈ console.registry.table)
  (records : space.Records run)

theorem calls_taking (console : Console κ) (space : Namespace κ) (statement : Statement) :
    calls (console.taking space statement).trace = calls console.trace :=
  (chronicle_cons _ _ _).trans (List.append_nil _)

include sound present records

theorem ends_replay_command {command : Command κ}
    (member : Entry.command command ∈ space.entries)
    (described : command.description.isWritable = true) {statement : Statement}
    (named : statement.name = qualify space.name command.name) :
    Ends (reporting () (replay run handler statement)) (console.taking space statement)
      fun result after => result = .ok () ∧
        after.registry = (console.taking space statement).registry ∧
        calls after.trace = calls console.trace ++
          ((Work.execution command.name statement).call? space handler true).toList := by
  have callback := (sound.of_table present).callbackNamed?_name member
  have found := sound.lookup_taking present member statement
  simp only [Entry.name, ← named] at found
  rw [ends_reporting]
  simp only [replay, ends_bind, ends_registry, ends_liftError, found, Except.mapError]
  apply (ends_runCommand_recorded (fun key isKey => records _ rfl (callback.trans isKey))
    described).mono
  intro result after ended
  obtain ⟨⟨handled, rfl⟩, told⟩ := ended
  refine ⟨rfl, told.registry.trans (by simp), ?_⟩
  rw [calls, told.chronicle Event.call?_of_isTalk]
  exact (calls_running _ _ _ _ _ _ callback).trans (by rw [calls_taking])

theorem ends_replay_setting {setting : Setting κ}
    (member : Entry.setting setting ∈ space.entries) {statement : Statement} {token : String}
    (named : statement.name = qualify space.name setting.name)
    (arguments : statement.arguments = [token]) {value : Value}
    (reads : Value.parse setting.kind token = .ok value) :
    Ends (reporting () (replay run handler statement)) (console.taking space statement)
      fun result after => result = .ok () ∧
        after.registry = (console.taking space statement).registry ∧
        calls after.trace = calls console.trace ++
          ((Work.change setting.name value).call? space handler true).toList := by
  have callback := (sound.of_table present).callbackNamed?_name member
  have found := sound.lookup_taking present member statement
  simp only [Entry.name, ← named] at found
  rw [ends_reporting]
  simp only [replay, ends_bind, ends_registry, ends_liftError, found, Except.mapError, arguments,
    valueOf, reads, pure_bind]
  split
  · apply (ends_notify_recorded fun key isKey =>
      records _ rfl (callback.trans isKey)).mono
    intro result after ended
    obtain ⟨rfl, told⟩ := ended
    have talk := told.mono Event.isTalk_of_isRecord
    refine ⟨rfl, told.registry.trans (by simp), ?_⟩
    rw [calls, talk.chronicle Event.call?_of_isTalk]
    exact (calls_notifying _ _ _ _ _ _ callback).trans (by rw [calls_taking])
  · rename_i silent
    have noCallback : setting.onChange = none := by simpa using silent
    have unheard : space.callbackNamed? setting.name = none := callback.trans noCallback
    refine ⟨rfl, rfl, (calls_taking console space statement).trans ?_⟩
    rw [Work.call?, unheard]
    exact (List.append_nil _).symm

/-- Replaying a statement makes the call that there is to make for the work it carries. -/
theorem ends_replay_carried (described : space.IsDescribed) {work : Work} {statement : Statement}
    (carried : work.IsCarried space statement) :
    Ends (reporting () (replay run handler statement)) (console.taking space statement)
      fun result after => result = .ok () ∧
        after.registry = (console.taking space statement).registry ∧
        calls after.trace = calls console.trace ++
          ((work.requalified space).call? space handler true).toList := by
  cases work with
  | execution entry executed =>
    obtain ⟨command, member, rfl, rfl⟩ := carried
    exact ends_replay_command sound present records member (described command member) rfl
  | change entry value =>
    obtain ⟨setting, token, member, rfl, rfl, reads⟩ := carried
    exact ends_replay_setting sound present records member rfl rfl reads

end Replay

theorem due?_of_attached {handler : Handler} {statement : Statement} {rest : List Statement}
    (attached : space.handler = some handler) (queued : space.pending = statement :: rest) :
    space.due? = some (handler, statement) := by
  simp [Namespace.due?, attached, queued]

def Namespace.drained (space : Namespace κ) : Namespace κ :=
  { space with pending := [] }

theorem serial_drained (space : Namespace κ) : space.drained.serial = space.serial := rfl

/-- A flush replays a queue that carries some work from its beginning to its end. -/
theorem ends_flush_carried {rounds : Nat} {works : List Work} (sound : console.registry.Sound)
    (present : space ∈ console.registry.table) (attached : space.handler = some handler)
    (records : space.Records run) (described : space.IsDescribed)
    (carried : List.Forall₂ (Work.IsCarried space) works space.pending)
    (enough : space.pending.length ≤ rounds) :
    Ends (flush run space.serial rounds) console fun result after => result = .ok () ∧
      after.registry = console.registry.update space.serial Namespace.drained ∧
      calls after.trace = calls console.trace ++
        works.filterMap fun work => (work.requalified space).call? space handler true := by
  induction works generalizing console space rounds with
  | nil =>
    have queued := List.forall₂_nil_left_iff.mp carried
    have idle : space.due? = none := by simp [Namespace.due?, attached, queued]
    have same : space.drained = space := by rw [Namespace.drained, ← queued]
    have inside := (Registry.mem_table.mp present).1
    refine ends_flush_of_idle inside idle ⟨rfl, ?_, (List.append_nil _).symm⟩
    exact (Registry.update_eq_self inside serial_drained same).symm
  | cons work works ih =>
    obtain ⟨statement, queue, isCarried, others, queued⟩ := List.forall₂_cons_left_iff.mp carried
    rw [queued, List.length_cons] at enough
    obtain ⟨fewer, rfl⟩ : ∃ fewer, rounds = fewer + 1 := ⟨rounds - 1, by omega⟩
    have inside := (Registry.mem_table.mp present).1
    have due := due?_of_attached attached queued
    refine ends_flush_of_due inside due ((ends_replay_carried sound present records described
      isCarried).mono fun result after ended => ?_)
    obtain ⟨rfl, registry, called⟩ := ended
    have taken : Effect console (console.taking space statement) := .take inside due
    have left : space.dequeue.pending = queue := by simp [Namespace.dequeue, queued]
    have stillCarried : List.Forall₂ (Work.IsCarried space.dequeue) works space.dequeue.pending :=
      left.symm ▸ others.imp fun _ _ carried => carried.of_shape rfl
    have stillEnough : space.dequeue.pending.length ≤ fewer := by
      rw [left]
      omega
    -- The rest is replayed from where the first statement has left the console.
    have rest := @ih after space.dequeue fewer (registry ▸ taken.sound sound)
      (registry ▸ mem_table_taking present statement) attached records described stillCarried
      stillEnough
    apply rest.mono
    intro result last ended
    obtain ⟨rfl, drained, more⟩ := ended
    refine ⟨rfl, ?_, ?_⟩
    · rw [drained, registry]
      exact Registry.update_update _ _ (fun _ => rfl) fun _ => rfl
    · have same := Namespace.keepsShape_dequeue space
      simp only [requalified_of_shape same, call?_of_shape same] at more
      rw [more, called, List.append_assoc, List.filterMap_cons]
      cases (work.requalified space).call? space handler true <;> rfl

end Flush

end CommandConsole
