import CommandConsole.Proofs.Run.Blind
import CommandConsole.Proofs.Save.Assignment

set_option autoImplicit false

namespace CommandConsole

open CommandConsole.Action

variable {κ : Type}

section Traces

/-- Events that tell nothing of what is picked can be left out. -/
theorem chronicle_filter {α : Type} {pick : Event κ → Option α} {keep : Event κ → Bool}
    (none : ∀ event, keep event = false → pick event = none) (trace : List (Event κ)) :
    chronicle pick (trace.filter keep) = chronicle pick trace := by
  induction trace with
  | nil => rfl
  | cons event rest ih =>
    rw [List.filter_cons, chronicle_cons]
    split
    · rw [chronicle_cons, ih]
    · rename_i left
      rw [ih, none event (by simpa using left), Option.toList_none, List.append_nil]

theorem Console.Resembles.calls {first second : Console κ} (resembles : first.Resembles second) :
    calls first.trace = calls second.trace := by
  have outer : ∀ event : Event κ, event.isInner = false → event.call? = none := by
    intro event isOuter
    cases event <;> first | rfl | cases isOuter
  rw [CommandConsole.calls, CommandConsole.calls, ← chronicle_filter outer, resembles.trace,
    chronicle_filter outer]

end Traces

section Faults

/-- A call has just ended with a fault. -/
def Console.HasFailed (console : Console κ) (fault : Fault) : Prop :=
  ∃ call, console.trace.head? = some (.ended call (some fault))

theorem ends_calling_fault (call : Call κ) (action : Action κ Bool) (console : Console κ) :
    Ends (calling call action) console fun result after =>
      ∀ fault, result = .error fault → after.HasFailed fault := by
  simp only [calling, ends_bind, ends_registry, ends_record, ends_tryCatch, ends_pure, ends_throw]
  rw [ends_iff]
  cases action.result _ with
  | ok handled => exact fun fault same => by cases same
  | error fault =>
    rintro _ ⟨⟩
    exact ⟨call, rfl⟩

theorem ends_runWithin_fault (conduct : Conduct κ) (bound : Nat) (call : Call κ)
    (console : Console κ) :
    Ends (runWithin conduct bound call) console fun result after =>
      ∀ fault, result = .error fault → after.HasFailed fault := by
  cases bound with
  | zero => exact ends_calling_fault _ _ _
  | succ bound => exact ends_calling_fault _ _ _

end Faults

section Assigning

variable {run : Runner κ} {console : Console κ} {space : Namespace κ} {setting : Setting κ}
  {value : Value}

/-- A value that is typed as its token is announced like one that nobody has typed. -/
theorem assign_typed (written : value.isWritable = true) :
    assign run space setting value (some value.token) = assign run space setting value none := by
  simp only [assign, announce, written, if_true]

theorem assign_same (run : Runner κ) (space : Namespace κ) (kind : value.kind = setting.kind)
    (same : value = setting.current) (before : Console κ) :
    (assign run space setting value none).result before = .ok false ∧
      (assign run space setting value none).after before = before :=
  (ends_iff _).mp ((ends_assign_same kind same fun result after =>
    result = .ok false ∧ after = before).mpr ⟨rfl, rfl⟩)

/-- Assigning another value ends with a truth, or with the fault that the callback has ended
with. -/
theorem ends_assign_differs (kind : value.kind = setting.kind) (differs : value ≠ setting.current)
    (written : value.isWritable = true)
    (faults : ∀ call before, Ends (run call) before fun result after =>
      ∀ fault, result = .error fault → after.HasFailed fault) :
    Ends (assign run space setting value none) console fun result after =>
      result = .ok true ∨ ∃ fault, result = .error fault ∧ after.HasFailed fault := by
  have announced (before : Console κ) : Ends (announce run space setting value none) before
      fun result after => ∀ fault, result = .error fault → after.HasFailed fault := by
    unfold announce
    split
    · unfold notify
      split
      · exact fun fault same => by cases same
      · rw [ends_bind]
        apply (faults _ before).mono
        intro result after failed
        cases result with
        | ok handled => exact fun fault same => by cases same
        | error fault =>
          rintro _ ⟨⟩
          exact failed fault rfl
    · simp only [written, if_true, defer, offer, ends_bind, ends_registry, ends_pure]
      split
      · exact fun fault same => by cases same
      · simp only [ends_bind, ends_update, ends_record, ends_pure]
        exact fun fault same => by cases same
  simp only [assign, kind, ne_eq, not_true_eq_false, if_false, if_neg differs, ends_bind,
    ends_update, ends_record, ends_pure]
  apply (announced _).mono
  intro result after failed
  cases result with
  | ok done => exact .inl trivial
  | error fault => exact .inr ⟨fault, rfl, failed fault rfl⟩

theorem setValue_assignment (sound : console.registry.Sound)
    (present : space ∈ console.registry.table) (member : Entry.setting setting ∈ space.entries) :
    setValue run (.token (qualify space.name setting.name)) (.value value) console =
      assign run space setting value none console := by
  have pointed := sound.setting_qualify present member
  simp only [setValue, registry_bind, Registry.target, pointed, lift, pure_bind, assignPayload,
    assignValue]

end Assigning

/-- How an action that types a value ends, against one that is called to set the value. Neither does
anything where the setting holds the value. Otherwise both do the same work; if a callback fails,
the one writes the failure out and the other answers it. -/
structure DoLike (console : Console κ) (setting : Setting κ) (value : Value)
    (typing calling : Action κ (Reply κ)) : Prop where
  registry : (typing.after console).registry = (calling.after console).registry
  storage : (typing.after console).storage = (calling.after console).storage
  calls : calls (typing.after console).trace = calls (calling.after console).trace
  unchanged : calling.result console = .ok (.flag false) ↔ value = setting.current
  idle : value = setting.current → Tells Event.isRecord console (typing.after console) ∧
    Tells Event.isRecord console (calling.after console)
  alike : ∀ truth, calling.result console = .ok (.flag truth) →
    typing.result console = .ok (.flag true) ∧
      (typing.after console).Resembles (calling.after console)
  failed : value ≠ setting.current → calling.result console ≠ .ok (.flag true) →
    ∃ fault before registry, calling.result console = .ok (.failed fault) ∧
      calling.after console = Console.tell before (.answered none (.failed fault) registry) ∧
      before.HasFailed fault

section Outcomes

variable {console : Console κ} {space : Namespace κ} {setting : Setting κ} {value : Value}
  (conduct : Conduct κ) (bound : Nat) (sound : console.registry.Sound)
  (present : space ∈ console.registry.table) (member : Entry.setting setting ∈ space.entries)

include sound present member

/-- A line that names a setting and a value assigns the value, and reports if that fails. -/
theorem typing_outcome (plain : Text.isPlain (qualify space.name setting.name))
    (kind : value.kind = setting.kind) (written : value.isWritable = true) :
    let line := Operation.execute (savedLine (qualify space.name setting.name) value)
    let asked := console.tell (.asked none line)
    let assigning := assign (runWithin conduct bound) space setting value none
    let typing := Console.act conduct bound line
    Tells Event.isTalk (assigning.after asked) (typing.after console) ∧
      ∀ truth, assigning.result asked = .ok truth → typing.result console = .ok (.flag true) ∧
        typing.after console = (assigning.after asked).tell
          (.answered none (.flag true) (assigning.after asked).registry) := by
  intro line asked assigning typing
  have soundAsked : asked.registry.Sound := sound
  have executed : execute (runWithin conduct bound)
      (savedLine (qualify space.name setting.name) value) asked =
        reporting false (do let _ ← assigning; return true) asked := by
    rw [execute, parse_savedLine plain (qualify_ne_empty _ _),
      executeStatement_assignment soundAsked present member kind written, assign_typed written]
  suffices ended : Ends typing console fun result after =>
      Tells Event.isTalk (assigning.after asked) after ∧
        ∀ truth, assigning.result asked = .ok truth → result = .ok (.flag true) ∧
          after = (assigning.after asked).tell
            (.answered none (.flag true) (assigning.after asked).registry) from
    (ends_iff _).mp ended
  refine ends_perform.mpr ?_
  change Ends (Reply.flag <$> execute (runWithin conduct bound) _) asked _
  rw [ends_map, Ends.congr executed, ends_reporting, ends_bind, ends_iff]
  cases outcome : assigning.result asked with
  | ok truth =>
    refine ⟨(Tells.refl _).tell rfl, fun _ _ => ⟨rfl, rfl⟩⟩
  | error fault =>
    cases fault with
    | console cause => exact ⟨((Tells.refl _).tell rfl).tell rfl, fun _ same => by cases same⟩
    | _ => exact ⟨(Tells.refl _).tell rfl, fun _ same => by cases same⟩

/-- A call that sets a value assigns it, and answers how that has ended. -/
theorem calling_outcome :
    let call := Operation.set (.token (qualify space.name setting.name)) (.value value)
    let asked := console.tell (.asked none call)
    let assigning := assign (runWithin conduct bound) space setting value none
    let reply := Reply.ofResult ((assigning.result asked).map Reply.flag)
    let calling := Console.act conduct bound call
    calling.result console = .ok reply ∧ calling.after console =
      (assigning.after asked).tell (.answered none reply (assigning.after asked).registry) := by
  intro call asked assigning reply calling
  have soundAsked : asked.registry.Sound := sound
  suffices ended : Ends calling console fun result after => result = .ok reply ∧
      after = (assigning.after asked).tell
        (.answered none reply (assigning.after asked).registry) from (ends_iff _).mp ended
  refine ends_perform.mpr ?_
  change Ends (Reply.flag <$> setValue (runWithin conduct bound) _ _) asked _
  rw [ends_map, Ends.congr (setValue_assignment soundAsked present member), ends_iff]
  exact ⟨rfl, rfl⟩

end Outcomes

section Together

variable {console : Console κ} {setting : Setting κ} {value : Value} {assigning : Action κ Bool}
  {typing calling : Action κ (Reply κ)} {line call : Operation κ}

theorem ofResult_flag {result : Except Fault Bool} {truth : Bool} :
    Reply.ofResult (result.map (Reply.flag (κ := κ))) = .flag truth ↔ result = .ok truth := by
  cases result <;> simp [Reply.ofResult, Except.map]

/-- Two operations that both assign, each in its own frame, do alike. -/
theorem doLike_of_outcomes
    (typed : Tells Event.isTalk (assigning.after (console.tell (.asked none line)))
        (typing.after console) ∧
      ∀ truth, assigning.result (console.tell (.asked none line)) = .ok truth →
        typing.result console = .ok (.flag true) ∧
          typing.after console = (assigning.after (console.tell (.asked none line))).tell
            (.answered none (.flag true)
              (assigning.after (console.tell (.asked none line))).registry))
    (called : calling.result console = .ok (.ofResult
        ((assigning.result (console.tell (.asked none call))).map Reply.flag)) ∧
      calling.after console = (assigning.after (console.tell (.asked none call))).tell
        (.answered none (.ofResult
          ((assigning.result (console.tell (.asked none call))).map Reply.flag))
            (assigning.after (console.tell (.asked none call))).registry))
    (same : SameEnds assigning assigning (console.tell (.asked none line))
      (console.tell (.asked none call)))
    (idle : value = setting.current → ∀ before, assigning.result before = .ok false ∧
      assigning.after before = before)
    (differs : value ≠ setting.current → ∀ before, assigning.result before = .ok true ∨
      ∃ fault, assigning.result before = .error fault ∧
        (assigning.after before).HasFailed fault) :
    DoLike console setting value typing calling := by
  obtain ⟨told, typedOk⟩ := typed
  obtain ⟨result, resembles⟩ := same
  obtain ⟨replied, after⟩ := called
  constructor
  · rw [told.registry, after, resembles.registry]
    rfl
  · obtain ⟨_, isTyped, -⟩ := told
    rw [isTyped, after]
    exact resembles.storage
  · rw [calls, told.chronicle Event.call?_of_isTalk, after, calls_tell rfl]
    exact resembles.calls
  · constructor
    · intro isFalse
      by_contra other
      rw [replied, Except.ok.injEq, ofResult_flag] at isFalse
      rcases differs other (console.tell (.asked none call)) with isTrue | ⟨fault, failed, -⟩
      · rw [isTrue] at isFalse
        cases isFalse
      · rw [failed] at isFalse
        cases isFalse
    · intro holds
      rw [replied, (idle holds _).1]
      rfl
  -- Where the setting holds the value, neither of the two does more than tell that it was asked.
  · intro holds
    have typedSame := (typedOk false (idle holds _).1).2
    rw [(idle holds _).2] at typedSame
    rw [(idle holds _).2] at after
    rw [typedSame, after]
    exact ⟨((Tells.refl console).tell rfl).tell rfl, ((Tells.refl console).tell rfl).tell rfl⟩
  · intro truth isTruth
    rw [replied, Except.ok.injEq, ofResult_flag] at isTruth
    obtain ⟨isTrue, typedAfter⟩ := typedOk truth (result.trans isTruth)
    refine ⟨isTrue, ?_⟩
    rw [typedAfter, after]
    exact ((Console.Resembles.frame _ rfl).trans resembles).trans
      (Console.Resembles.frame _ rfl).symm
  -- What is not answered yes has failed, and has told so before the call ended.
  · intro other untrue
    rcases differs other (console.tell (.asked none call)) with isTrue | ⟨fault, failed, told⟩
    · rw [replied, isTrue] at untrue
      exact absurd rfl untrue
    · rw [failed] at replied after
      exact ⟨fault, _, _, replied, after, told⟩

end Together

/-- Typing the name of a setting and the literal of a value does the same as setting the value by a
call, at any bound and whatever the callbacks do, which may call the console again and remember all
that has happened but which of the two the host has asked for. -/
theorem typed_like_called {console : Console κ} (reachable : console.Reachable)
    {space : Namespace κ} (present : space ∈ console.registry.table) {setting : Setting κ}
    (member : Entry.setting setting ∈ space.entries) (plainSpace : Text.isPlain space.name)
    (plainName : Text.isPlain setting.name) {value : Value} (kind : value.kind = setting.kind)
    (written : value.isWritable = true) {conduct : Conduct κ} (blind : conduct.IsBlind)
    (bound : Nat) :
    DoLike console setting value
      (Console.act conduct bound
        (.execute (savedLine (qualify space.name setting.name) value)))
      (Console.act conduct bound
        (.set (.token (qualify space.name setting.name)) (.value value))) := by
  have framed (line call : Operation κ) :
      (console.tell (.asked none line)).Resembles (console.tell (.asked none call)) :=
    (Console.Resembles.frame console rfl).trans (Console.Resembles.frame console rfl).symm
  exact doLike_of_outcomes
    (typing_outcome conduct bound reachable.sound present member
      (isPlain_qualify plainSpace plainName) kind written)
    (calling_outcome conduct bound reachable.sound present member)
    (isBlind_assign (isBlind_runWithin blind bound) space setting value none _ _ (framed _ _))
    (fun same before => assign_same _ space kind same before)
    fun other before => (ends_iff _).mp
      (ends_assign_differs kind other written (ends_runWithin_fault conduct bound))

/-- Callbacks that count their calls: odd ones change a setting and execute a command, even ones
reset a setting. -/
def alternating : Conduct Unit := fun console _ _ =>
  if (calls console.trace).length % 2 = 1 then
    .ask (.set (.token "M.w") (.plain (.integer 3))) fun _ => .ask (.execute "N.go x") fun _ =>
      .done true
  else .ask (.reset (.token "N.v")) fun _ => .done true

theorem alternating_isBlind : alternating.IsBlind := by
  intro first second resembles
  unfold alternating
  rw [resembles.calls]

def halfAttached : Console Unit :=
  (Console.empty ⟨.text "half", .whole 2, .whole 1⟩ .empty).actAll alternating 6
    [.create ⟨.text "N", [⟨.text "go", some (.host ()), .null⟩],
      [⟨.text "v", .integer, .plain .null, some (.host ()), .null⟩]⟩,
    .create ⟨.text "M", [], [⟨.text "w", .integer, .plain .null, some (.host ()), .null⟩]⟩,
    .attach 0 (some (.label "h")), .execute "w 1"]

/-- Typing and calling do alike where callbacks call the console again. -/
theorem halfAttached_like_called :
    (calls ((Console.act alternating 6 (.execute "N.v 7")).after halfAttached).trace).map
        (fun call => (call.entry, call.occasion)) =
      [("v", .change (.integer 7)), ("go", .command ⟨["N.go", "x"]⟩), ("v", .change (.integer 0)),
        ("go", .command ⟨["N.go", "x"]⟩)] ∧
    ∃ setting : Setting Unit, setting.name = "v" ∧ DoLike halfAttached setting (.integer 7)
      (Console.act alternating 6 (.execute (savedLine (qualify "N" "v") (.integer 7))))
      (Console.act alternating 6 (.set (.token (qualify "N" "v")) (.value (.integer 7)))) := by
  have reachable : halfAttached.Reachable :=
    (Console.Reachable.empty _ .empty).actAll alternating 6 _
  have settings : ("N", "v", Kind.integer) ∈ halfAttached.registry.table.flatMap fun space =>
      space.settings.map fun setting => (space.name, setting.name, setting.kind) := by
    decide +kernel
  obtain ⟨space, present, inside⟩ := List.mem_flatMap.mp settings
  obtain ⟨setting, member, same⟩ := List.mem_map.mp inside
  simp only [Prod.mk.injEq] at same
  obtain ⟨spaceName, name, kind⟩ := same
  have plainSpace : Text.isPlain space.name := by rw [spaceName]; decide +kernel
  have plainName : Text.isPlain setting.name := by rw [name]; decide +kernel
  have sameKind : (Value.integer 7).kind = setting.kind := kind.symm
  have like := typed_like_called reachable present (Registry.mem_settings.mp member) plainSpace
    plainName sameKind (by decide +kernel) alternating_isBlind 6
  rw [spaceName, name] at like
  exact ⟨by decide +kernel, setting, name, like⟩

end CommandConsole
