import CommandConsole.Proofs.Queue.Work
import CommandConsole.Proofs.Save.Line

set_option autoImplicit false

namespace CommandConsole

open CommandConsole.Action

variable {κ : Type}

/-- What a change leads to: a call of the setting's callback or a statement offered to the queue. -/
inductive Notice (κ : Type)
  | call (call : Call κ)
  | offer (space : Nat) (statement : Statement)
deriving DecidableEq

namespace Event

def text? : Event κ → Option String
  | wrote text => some text
  | _ => none

def change? : Event κ → Option (Nat × String × Value)
  | changed space entry value => some (space, entry, value)
  | _ => none

def notice? : Event κ → Option (Notice κ)
  | called call _ => some (.call call)
  | offered space statement _ => some (.offer space statement)
  | _ => none

end Event

def writings (trace : List (Event κ)) : List String :=
  chronicle Event.text? trace

def changes (trace : List (Event κ)) : List (Nat × String × Value) :=
  chronicle Event.change? trace

def notices (trace : List (Event κ)) : List (Notice κ) :=
  chronicle Event.notice? trace

/-- A dotted name holds neither a blank nor a double quote where its parts hold none. -/
theorem isPlain_qualify {space name : String} (plainSpace : Text.isPlain space)
    (plainName : Text.isPlain name) : Text.isPlain (qualify space name) := by
  simp only [Text.isPlain, qualify, String.toList_append, List.all_append, Bool.and_eq_true]
    at plainSpace plainName ⊢
  exact ⟨⟨plainSpace, by decide⟩, plainName⟩

/-- A value for a setting of a namespace. -/
structure Assignment (κ : Type) where
  space : Namespace κ
  setting : Setting κ
  value : Value

namespace Assignment

def name (assignment : Assignment κ) : String :=
  qualify assignment.space.name assignment.setting.name

def line (assignment : Assignment κ) : String :=
  savedLine assignment.name assignment.value

def target (assignment : Assignment κ) : Target :=
  .kept assignment.space.serial assignment.setting.name

def isChange (assignment : Assignment κ) : Bool :=
  assignment.value != assignment.setting.current

def change (assignment : Assignment κ) : Nat × String × Value :=
  (assignment.space.serial, assignment.setting.name, assignment.value)

/-- What there is to tell of a change: an attached namespace calls the callback, if there is one,
and a detached namespace queues a statement. -/
def notice? (assignment : Assignment κ) : Option (Notice κ) :=
  match assignment.space.handler with
  | some handler => assignment.setting.onChange.map fun callback =>
      .call ⟨callback, assignment.space.serial, assignment.setting.name, handler,
        .change assignment.value, false⟩
  | none => some (.offer assignment.space.serial ⟨[assignment.name, assignment.value.token]⟩)

/-- An assignment of a value that can be written to a setting in the table, whose name can be read
from a line. -/
structure IsFor (registry : Registry κ) (assignment : Assignment κ) : Prop where
  present : assignment.space ∈ registry.table
  member : Entry.setting assignment.setting ∈ assignment.space.entries
  kind : assignment.value.kind = assignment.setting.kind
  written : assignment.value.isWritable = true
  plain : Text.isPlain assignment.name
  uncommented : assignment.name.startsWith "#" = false

end Assignment

namespace Console

def receiving (console : Console κ) (assignment : Assignment κ) : Console κ :=
  let ⟨space, setting, value⟩ := assignment
  match space.handler with
  | some handler =>
    (console.assigning space setting value).notifying handler false space setting value
  | none => (console.assigning space setting value).offering (space.assign setting.name value)
      ⟨[qualify space.name setting.name, value.token]⟩

/-- The console where a value has been assigned, if it is another one. -/
def receive (console : Console κ) (assignment : Assignment κ) : Console κ :=
  if assignment.isChange then console.receiving assignment else console

variable {console : Console κ} {assignment : Assignment κ}

/-- A change is told, and then what there is to tell of it. -/
theorem trace_receiving (console : Console κ) (assignment : Assignment κ) :
    ∃ events : List (Event κ), (console.receiving assignment).trace = events ++
        .changed assignment.space.serial assignment.setting.name assignment.value ::
          console.trace ∧
      chronicle Event.notice? events = assignment.notice?.toList ∧
      ∀ event ∈ events, event.change? = none ∧ event.text? = none := by
  obtain ⟨space, setting, value⟩ := assignment
  simp only [receiving, Assignment.notice?]
  cases space.handler with
  | none => exact ⟨[.offered _ _ _], rfl, rfl, by simp [Event.change?, Event.text?]⟩
  | some handler =>
    unfold notifying
    cases setting.onChange with
    | none => exact ⟨[], rfl, rfl, by simp⟩
    | some callback => exact ⟨[.called _ _], rfl, rfl, by simp [Event.change?, Event.text?]⟩

theorem changes_receiving (console : Console κ) (assignment : Assignment κ) :
    changes (console.receiving assignment).trace =
      changes console.trace ++ [assignment.change] := by
  obtain ⟨events, isTrace, -, quiet⟩ := console.trace_receiving assignment
  rw [changes, isTrace, chronicle_append,
    chronicle_of_none fun event member => (quiet event member).1, List.append_nil]
  exact chronicle_cons _ _ _

theorem notices_receiving (console : Console κ) (assignment : Assignment κ) :
    notices (console.receiving assignment).trace =
      notices console.trace ++ assignment.notice?.toList := by
  obtain ⟨events, isTrace, noticed, -⟩ := console.trace_receiving assignment
  rw [notices, isTrace, chronicle_append, noticed]
  exact congrArg (· ++ _) ((chronicle_cons _ _ _).trans (List.append_nil _))

theorem writings_receiving (console : Console κ) (assignment : Assignment κ) :
    writings (console.receiving assignment).trace = writings console.trace := by
  obtain ⟨events, isTrace, -, quiet⟩ := console.trace_receiving assignment
  rw [writings, isTrace, chronicle_append,
    chronicle_of_none fun event member => (quiet event member).2, List.append_nil]
  exact (chronicle_cons _ _ _).trans (List.append_nil _)

end Console

section Execution

variable {run : Runner κ} {console : Console κ}

/-- A statement that names a setting and the token of a value assigns the value. -/
theorem executeStatement_assignment {space : Namespace κ} {setting : Setting κ} {value : Value}
    (sound : console.registry.Sound) (present : space ∈ console.registry.table)
    (member : Entry.setting setting ∈ space.entries) (kind : value.kind = setting.kind)
    (written : value.isWritable = true) :
    executeStatement run ⟨[qualify space.name setting.name, value.token]⟩ console =
      reporting false (do
        let _ ← assign run space setting value (some value.token)
        return true) console := by
  have reads : Value.parse setting.kind value.token = .ok value :=
    kind ▸ Value.parse_token value written
  have read : valueOf space setting value.token = (pure value : Action κ Value) := by
    simp only [valueOf, reads]
  have resolved := sound.resolve_qualify present member
  unfold Entry.name at resolved
  have executed : executeStatement run ⟨[qualify space.name setting.name, value.token]⟩ console =
      reporting false (dispatch run space (.setting setting)
        ⟨[qualify space.name setting.name, value.token]⟩) console :=
    executeStatement_entry rfl resolved
  rw [executed]
  simp only [dispatch, Statement.arguments, List.tail_cons, read, pure_bind]

theorem ends_executeStatement_assignment {space : Namespace κ} {setting : Setting κ} {value : Value}
    (sound : console.registry.Sound) (present : space ∈ console.registry.table)
    (member : Entry.setting setting ∈ space.entries) (kind : value.kind = setting.kind)
    (written : value.isWritable = true)
    (records : ∀ handler, ∀ callback ∈ setting.onChange,
      Records run ⟨callback, space.serial, setting.name, handler, .change value, false⟩) :
    Ends (executeStatement run ⟨[qualify space.name setting.name, value.token]⟩) console
      fun result after => result = .ok true ∧
        Tells Event.isRecord (console.receive ⟨space, setting, value⟩) after := by
  rw [Ends.congr (executeStatement_assignment sound present member kind written), ends_reporting]
  simp only [ends_bind, ends_pure]
  by_cases same : value = setting.current
  · rw [ends_assign_same kind same]
    simp [Console.receive, Assignment.isChange, same, Tells.refl]
  · have differs : (⟨space, setting, value⟩ : Assignment κ).isChange = true := by
      simpa [Assignment.isChange] using same
    rw [Console.receive, if_pos differs, Console.receiving]
    cases handled : space.handler with
    | none =>
      rw [ends_assign_detached (Registry.mem_table.mp present).1 kind same handled
        (fun none => by cases none)]
      exact ⟨trivial, .refl _⟩
    | some handler =>
      apply (ends_assign_attached kind same handled (records handler)).mono
      intro result after ended
      obtain ⟨rfl, told⟩ := ended
      exact ⟨trivial, told⟩

end Execution

end CommandConsole
