import CommandConsole.Proofs.Run.Moment

set_option autoImplicit false

namespace CommandConsole

open CommandConsole.Action

variable {κ : Type}

/-- A script that only notes things down. -/
inductive Script.IsRecorder : Script κ → Prop
  | done (handled : Bool) : IsRecorder (.done handled)
  | note (text : String) {next : Reply κ → Script κ} (rest : ∀ reply, IsRecorder (next reply)) :
      IsRecorder (.ask (.note text) next)

def idle : Conduct Unit := fun _ _ _ => .done true

def gauge : NamespaceDeclaration (Callback Unit) :=
  ⟨.text "N", [], [⟨.text "v", .integer, .plain .null, some (.host ()), .null⟩]⟩

namespace Event

/-- What is told of recording: notes, and the frames of operations and calls. -/
def isRecord : Event κ → Bool
  | asked _ _ | answered _ _ _ | ended _ _ | noted _ _ => true
  | _ => false

/-- What is told of recording and of writing to the output. -/
def isTalk : Event κ → Bool
  | wrote _ => true
  | event => event.isRecord

theorem isTalk_of_isRecord (event : Event κ) (record : event.isRecord = true) :
    event.isTalk = true := by
  cases event <;> first | rfl | cases record

end Event

/-- Nothing has happened but that events of some sort have been told. -/
def Tells (sort : Event κ → Bool) (before after : Console κ) : Prop :=
  ∃ events, after = { before with trace := events ++ before.trace } ∧
    ∀ event ∈ events, sort event = true

namespace Tells

variable {sort : Event κ → Bool} {before middle after : Console κ}

theorem refl (console : Console κ) : Tells sort console console :=
  ⟨[], rfl, fun _ member => absurd member List.not_mem_nil⟩

theorem trans (first : Tells sort before middle) (second : Tells sort middle after) :
    Tells sort before after := by
  obtain ⟨early, rfl, earlySort⟩ := first
  obtain ⟨late, rfl, lateSort⟩ := second
  refine ⟨late ++ early, by simp, fun event member => ?_⟩
  rcases List.mem_append.mp member with member | member
  · exact lateSort event member
  · exact earlySort event member

theorem tell {event : Event κ} (told : Tells sort before after) (sorted : sort event = true) :
    Tells sort before (after.tell event) :=
  told.trans ⟨[event], rfl, fun _ member => List.mem_singleton.mp member ▸ sorted⟩

theorem mono {other : Event κ → Bool} (told : Tells sort before after)
    (implies : ∀ event, sort event = true → other event = true) : Tells other before after := by
  obtain ⟨events, same, sorted⟩ := told
  exact ⟨events, same, fun event member => implies event (sorted event member)⟩

theorem registry (told : Tells sort before after) : after.registry = before.registry := by
  obtain ⟨events, rfl, -⟩ := told
  rfl

theorem chronicle {α : Type} (told : Tells sort before after) {pick : Event κ → Option α}
    (none : ∀ event, sort event = true → pick event = none) :
    chronicle pick after.trace = chronicle pick before.trace := by
  obtain ⟨events, rfl, sorted⟩ := told
  rw [chronicle_append, chronicle_of_none fun event member => none event (sorted event member),
    List.append_nil]

end Tells

/-- A call only records: it ends without a fault, and nothing has happened meanwhile. -/
def Records (run : Runner κ) (call : Call κ) : Prop :=
  ∀ console, Ends (run call) console fun result after =>
    (∃ handled, result = .ok handled) ∧ Tells Event.isRecord (console.calling call) after

/-- The script of a recorder has one answer, wherever it is gone through. -/
theorem Script.IsRecorder.exists_answer {script : Script κ} (recorder : script.IsRecorder) :
    ∃ handled, ∀ (run : Runner κ) (rounds : Nat) (call : Call κ) (console : Console κ),
      Ends (runScript (perform run rounds (some call)) script) console fun result after =>
        result = .ok handled ∧ Tells Event.isRecord console after := by
  induction recorder with
  | done handled => exact ⟨handled, fun _ _ _ console => ⟨rfl, .refl console⟩⟩
  | note text rest ih =>
    obtain ⟨handled, answers⟩ := ih .done
    refine ⟨handled, fun run rounds call console => ?_⟩
    simp only [runScript, perform, carryOut, answering, ends_bind, ends_record, ends_replying,
      ends_registry, ends_pure]
    refine (answers run rounds call _).mono fun result after ended => ⟨ended.1, ?_⟩
    exact ((((Tells.refl console).tell rfl).tell rfl).tell rfl).trans ended.2

theorem records_runWithin {conduct : Conduct κ} {call : Call κ}
    (recorder : ∀ console, (Callback.script (conduct console) call).IsRecorder) (bound : Nat) :
    Records (runWithin conduct (bound + 1)) call := by
  intro console
  simp only [runWithin, calling, ends_bind, ends_record, ends_registry, ends_tryCatch, ends_get]
  obtain ⟨handled, answers⟩ := (recorder (console.calling call)).exists_answer
  apply (answers _ _ _ _).mono
  intro result after ended
  obtain ⟨rfl, told⟩ := ended
  exact ⟨⟨handled, rfl⟩, told.tell rfl⟩

/-- A call only records, and ends alike wherever it is made. -/
def Steady (run : Runner κ) (call : Call κ) : Prop :=
  ∃ answer, ∀ console, Ends (run call) console fun result after =>
    result = answer ∧ Tells Event.isRecord (console.calling call) after

/-- A call that has one recorder for its script, whatever has happened before, ends alike. -/
theorem steady_runWithin {conduct : Conduct κ} {call : Call κ} {script : Script κ}
    (recorder : script.IsRecorder)
    (scripted : ∀ console, Callback.script (conduct console) call = script) (bound : Nat) :
    Steady (runWithin conduct bound) call := by
  cases bound with
  | zero =>
    refine ⟨.error .exhausted, fun console => ?_⟩
    simp only [runWithin, calling, ends_bind, ends_record, ends_registry, ends_tryCatch,
      ends_throw]
    exact ⟨trivial, (Tells.refl _).tell rfl⟩
  | succ bound =>
    obtain ⟨handled, answers⟩ := recorder.exists_answer
    refine ⟨.ok handled, fun console => ?_⟩
    simp only [runWithin, calling, ends_bind, ends_record, ends_registry, ends_tryCatch, ends_get,
      scripted]
    apply (answers _ _ _ _).mono
    intro result after ended
    obtain ⟨rfl, told⟩ := ended
    exact ⟨rfl, told.tell rfl⟩

section Outcomes

variable {run : Runner κ} {console : Console κ} {handler : Handler} {isReplay : Bool}
  {space : Namespace κ}

theorem ends_runCommand_recorded {command : Command κ} {statement : Statement}
    (records : ∀ callback ∈ command.action,
      Records run ⟨callback, space.serial, command.name, handler, .command statement, isReplay⟩)
    (described : command.description.isWritable = true) :
    Ends (runCommand run handler isReplay space command statement) console fun result after =>
      (∃ handled, result = .ok handled) ∧
        Tells Event.isTalk (console.running handler isReplay space command statement) after := by
  simp only [runCommand, Console.running, ends_bind, ends_record]
  cases action : command.action with
  | none => exact ⟨⟨true, rfl⟩, .refl _⟩
  | some callback =>
    rw [ends_bind]
    apply (records callback action _).mono
    intro result after ended
    obtain ⟨⟨handled, rfl⟩, told⟩ := ended
    have talked := told.mono Event.isTalk_of_isRecord
    simp only [described, if_true]
    split
    · exact ⟨⟨true, rfl⟩, talked⟩
    · exact ⟨⟨false, rfl⟩, talked.tell rfl⟩

theorem ends_notify_recorded {setting : Setting κ} {value : Value}
    (records : ∀ callback ∈ setting.onChange,
      Records run ⟨callback, space.serial, setting.name, handler, .change value, isReplay⟩) :
    Ends (notify run handler isReplay space setting value) console fun result after =>
      result = .ok () ∧
        Tells Event.isRecord (console.notifying handler isReplay space setting value) after := by
  simp only [notify, Console.notifying]
  cases onChange : setting.onChange with
  | none => exact ⟨rfl, .refl _⟩
  | some callback =>
    rw [ends_bind]
    apply (records callback onChange _).mono
    intro result after ended
    obtain ⟨⟨handled, rfl⟩, told⟩ := ended
    exact ⟨rfl, told⟩

variable {setting : Setting κ} {value : Value} {typed : Option String}

theorem ends_assign_same (kind : value.kind = setting.kind) (same : value = setting.current)
    (good : Except Fault Bool → Console κ → Prop) :
    Ends (assign run space setting value typed) console good ↔ good (.ok false) console := by
  simp only [assign, kind, ne_eq, not_true_eq_false, if_false, if_pos same, ends_pure]

theorem ends_assign_otherKind (other : value.kind ≠ setting.kind)
    (good : Except Fault Bool → Console κ → Prop) :
    Ends (assign run space setting value typed) console good ↔
      good (.error (.console
        (.otherKind (qualify space.name setting.name) setting.kind value.kind))) console := by
  simp only [assign, ne_eq, other, not_false_eq_true, if_true, ends_throw]

theorem ends_assign_attached (kind : value.kind = setting.kind) (differs : value ≠ setting.current)
    (attached : space.handler = some handler)
    (records : ∀ callback ∈ setting.onChange,
      Records run ⟨callback, space.serial, setting.name, handler, .change value, false⟩) :
    Ends (assign run space setting value typed) console fun result after =>
      result = .ok true ∧ Tells Event.isRecord
        ((console.assigning space setting value).notifying handler false space setting value)
        after := by
  simp only [assign, kind, ne_eq, not_true_eq_false, if_false, if_neg differs, ends_bind,
    ends_update, ends_record, ends_pure, announce, attached]
  apply (ends_notify_recorded records).mono
  intro result after ended
  obtain ⟨rfl, told⟩ := ended
  exact ⟨trivial, told⟩

theorem ends_assign_detached (present : space ∈ console.registry.spaces)
    (kind : value.kind = setting.kind) (differs : value ≠ setting.current)
    (detached : space.handler = none) (written : typed = none → value.isWritable = true)
    (good : Except Fault Bool → Console κ → Prop) :
    Ends (assign run space setting value typed) console good ↔
      good (.ok true) ((console.assigning space setting value).offering
        (space.assign setting.name value)
        ⟨[qualify space.name setting.name, typed.getD value.token]⟩) := by
  simp only [assign, kind, ne_eq, not_true_eq_false, if_false, if_neg differs, ends_bind,
    ends_update, ends_record, ends_pure, announce, detached]
  have still := mem_assigning present setting value
  cases typed with
  | some token => exact ends_defer still _ _ _
  | none =>
    simp only [written rfl, if_true]
    exact ends_defer still _ _ _

end Outcomes

end CommandConsole
