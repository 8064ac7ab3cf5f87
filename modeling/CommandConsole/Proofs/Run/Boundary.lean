import CommandConsole.Proofs.Run.Recorder
import CommandConsole.Proofs.Run.Sequence

set_option autoImplicit false

namespace CommandConsole

open CommandConsole.Action

variable {κ : Type}

def Operation.isBuiltin : Operation κ → Bool
  | look | resolve _ | load _ | save _ | write _ => true
  | _ => false

/-- A reply of an operation that is no fault but a console error, and names no entry that cannot be
described. -/
def Operation.Expects : Operation κ → Reply κ → Prop
  | _, .failed fault => fault.isConsole = true
  | look, .registry _ => True
  | look, _ => False
  | resolve _, .resolution (.entry owner entry) => ∃ text, owner.describe? entry = .ok text
  | _, _ => True

/-- A script that asks for what built-in commands ask for, and ends with nothing but console errors
when its replies are as expected. -/
def Script.IsSafe : Script κ → Prop
  | .done _ => True
  | .fail fault => fault.isConsole = true
  | .ask operation next =>
    operation.isBuiltin = true ∧ ∀ reply, operation.Expects reply → (next reply).IsSafe

section Scripts

theorem Script.isSafe_need {operation : Operation κ} {next : Reply κ → Script κ}
    (builtin : operation.isBuiltin) (safe : ∀ reply, (next reply).IsSafe) :
    (Script.need operation next).IsSafe := by
  refine ⟨builtin, fun reply expected => ?_⟩
  cases reply with
  | failed fault =>
    cases operation <;> exact expected
  | _ => exact safe _

theorem Script.isSafe_look {next : Registry κ → Script κ}
    (safe : ∀ registry, (next registry).IsSafe) : (Script.look next).IsSafe := by
  refine ⟨rfl, fun reply expected => ?_⟩
  cases reply with
  | registry registry => exact safe registry
  | failed fault => exact expected
  | _ => exact expected.elim

theorem Script.isSafe_write {text : String} {next : Script κ} (safe : next.IsSafe) :
    (Script.write text next).IsSafe :=
  isSafe_need rfl fun _ => safe

theorem Script.isSafe_require {α : Type} {result : Except Fault α} {next : α → Script κ}
    (fails : ∀ fault, result = .error fault → fault.isConsole = true)
    (safe : ∀ value, (next value).IsSafe) : (Script.require result next).IsSafe := by
  cases result with
  | ok value => exact safe value
  | error fault => exact fails fault rfl

/-- A token that names no setting of a kind is an error for the person at the console. -/
theorem isConsole_of_getTyped {registry : Registry κ} {kind : Kind} {token : String}
    {fault : Fault} (failed : registry.getTyped kind (.token token) = .error fault) :
    fault.isConsole = true := by
  unfold Registry.getTyped Registry.typed at failed
  cases pointed : registry.target (.token token) with
  | error cause =>
    simp only [pointed, Except.map, Except.error.injEq] at failed
    subst failed
    simp only [Registry.target] at pointed
    split at pointed
    · cases pointed
    · cases pointed
      rfl
  | ok found =>
    simp only [pointed] at failed
    split at failed
    · cases failed
    · cases failed
      rfl

theorem isConsole_of_filePath {registry : Registry κ} {name : String} {fault : Fault}
    (failed : Builtin.filePath registry name = .error fault) : fault.isConsole = true := by
  unfold Builtin.filePath at failed
  split at failed
  · rename_i isError
    cases failed
    exact isConsole_of_getTyped isError
  · cases failed

theorem isConsole_of_filePaths {registry : Registry κ} {names : List String} {fault : Fault}
    (failed : names.mapM (Builtin.filePath registry) = .error fault) :
    fault.isConsole = true := by
  induction names with
  | nil => simp [pure, Except.pure] at failed
  | cons name rest ih =>
    rw [List.mapM_cons] at failed
    cases first : Builtin.filePath registry name with
    | error cause =>
      simp only [first, bind, Except.bind, Except.error.injEq] at failed
      exact isConsole_of_filePath (failed ▸ first)
    | ok path =>
      cases others : rest.mapM (Builtin.filePath registry) with
      | error cause =>
        simp only [first, others, bind, Except.bind, Except.error.injEq] at failed
        exact ih (failed ▸ others)
      | ok paths => simp [first, others, bind, Except.bind, pure, Except.pure] at failed

theorem Builtin.isSafe_describeEach (tokens : List String) :
    (describeEach (κ := κ) tokens).IsSafe := by
  induction tokens with
  | nil => trivial
  | cons token rest ih =>
    refine ⟨rfl, fun reply expected => ?_⟩
    cases reply with
    | failed fault =>
      cases fault with
      | console cause => exact Script.isSafe_write ih
      | _ => cases expected
    | resolution resolution =>
      cases resolution with
      | listing space => exact ih
      | entry space entry =>
        obtain ⟨text, described⟩ := expected
        refine Script.isSafe_require (fun fault failed => ?_) fun _ => Script.isSafe_write ih
        rw [described] at failed
        cases failed
    | _ => exact ih

theorem Builtin.isSafe_help (statement : Statement) : (help (κ := κ) statement).IsSafe := by
  unfold help
  split
  · exact Script.isSafe_look fun _ => Script.isSafe_write trivial
  · exact isSafe_describeEach _

theorem Builtin.isSafe_load (statement : Statement) : (load (κ := κ) statement).IsSafe := by
  unfold load
  split
  · trivial
  · exact Script.isSafe_look fun _ =>
      Script.isSafe_require (fun _ => isConsole_of_filePaths) fun _ =>
        Script.isSafe_need rfl fun _ => trivial

theorem Builtin.isSafe_save (statement : Statement) : (save (κ := κ) statement).IsSafe := by
  unfold save
  split
  · refine Script.isSafe_look fun _ => Script.isSafe_require (fun _ => isConsole_of_filePath)
      fun _ => ⟨rfl, fun reply expected => ?_⟩
    cases reply with
    | failed fault =>
      cases fault with
      | console cause => cases cause <;> first | exact Script.isSafe_write trivial | exact expected
      | _ => cases expected
    | _ => trivial
  · trivial

/-- A built-in command ends with nothing but console errors. -/
theorem Callback.isSafe_script (host : Host κ) {call : Call κ}
    (builtin : call.callback matches .host _ → False) : (Callback.script host call).IsSafe := by
  unfold Callback.script
  split
  · rename_i key _ same
    exact (builtin (by rw [same])).elim
  · exact Builtin.isSafe_help _
  · exact Builtin.isSafe_load _
  · exact Builtin.isSafe_save _
  · trivial

end Scripts

section Callbacks

variable {origin : Console κ} {console : Console κ} {run : Runner κ} {rounds : Nat}

theorem Console.Sane.asked (sane : console.Sane origin.storage) (call : Option (Call κ))
    (operation : Operation κ) : (console.tell (.asked call operation)).Sane origin.storage :=
  Step.sane (.tell trivial) sane

theorem Since.answered {call : Option (Call κ)} {operation : Operation κ} {after : Console κ}
    (kept : Since origin.storage (console.tell (.asked call operation)).trace after)
    (reply : Reply κ) :
    Since origin.storage console.trace (after.tell (.answered call reply after.registry)) :=
  Step.since (.tell rfl) (kept.trans (List.suffix_cons _ _))

/-- What built-in commands ask for is replied to as they expect. -/
theorem contained_builtin (calls : RunnerContained origin run)
    (within : origin.trace <:+ console.trace) (sane : console.Sane origin.storage)
    {operation : Operation κ} (builtin : operation.isBuiltin)
    (texts : Clear origin console.trace → ∀ path ∈ operation.loaded, origin.storage.IsTextAt path)
    (call : Option (Call κ)) :
    Contained origin (fun result _ => operation.Expects (.ofResult result))
      (carryOut run rounds call operation) console := by
  cases operation with
  | look => exact .of_still sane ⟨rfl, fun _ => trivial⟩
  | write text => exact ⟨⟨sane.wrote text, List.suffix_cons _ _⟩, fun _ => trivial⟩
  | save path =>
    refine (ends_map _ _ _).mpr (Ends.mono (contained_save sane within path) ?_)
    rintro result after ⟨kept, reports⟩
    refine ⟨kept, fun clear => ?_⟩
    cases result with
    | ok count => trivial
    | error fault => exact reports clear fault rfl
  | load paths =>
    refine (ends_map _ _ _).mpr (Ends.mono (contained_load calls within sane paths texts) ?_)
    rintro result after ⟨kept, answers⟩
    refine ⟨kept, fun clear => ?_⟩
    obtain ⟨count, rfl, -⟩ := answers clear
    trivial
  | resolve token =>
    refine (ends_map _ _ _).mpr ((contained_resolve origin sane token).mono ?_)
    rintro result after ⟨⟨kept, reports⟩, names⟩
    refine ⟨kept, fun clear => ?_⟩
    cases result with
    | error fault => exact reports clear fault rfl
    | ok resolution =>
      cases resolution with
      | listing listed => trivial
      | entry owner entry =>
        obtain ⟨rfl, named⟩ := names owner entry rfl
        obtain ⟨present, found⟩ := Registry.lookup_ok named
        have plain := (sane.plain clear.plain).of_table present
        exact ⟨_, plain.describe?_ok (Namespace.find?_ok found).1⟩
  | _ => cases builtin

/-- A script that asks for what built-in commands ask for ends as they do. -/
theorem contained_runScript (calls : RunnerContained origin run) {call : Option (Call κ)}
    (keeps : ∀ earlier operation,
      Keeps (Since origin.storage earlier) (perform run rounds call operation))
    {script : Script κ} (safe : script.IsSafe) (within : origin.trace <:+ console.trace)
    (sane : console.Sane origin.storage) :
    Contained origin Reports (runScript (perform run rounds call) script) console := by
  induction script generalizing console with
  | done handled => exact .of_still sane ⟨rfl, fun _ => reports_ok _ _⟩
  | fail fault =>
    refine .of_still sane ⟨rfl, fun _ => ?_⟩
    rintro _ ⟨⟩
    exact safe
  | ask operation next ih =>
    obtain ⟨builtin, following⟩ := safe
    have told := List.suffix_cons (.asked call operation) console.trace
    rw [Contained, runScript, ends_bind, ends_perform]
    apply Ends.mono (contained_builtin calls (within.trans told) (sane.asked call operation)
      builtin (fun clear path => clear.isTextAt within) call)
    rintro result after ⟨kept, ends⟩
    have expected : Clear origin after.trace → operation.Expects (.ofResult result) := ends
    have answered := kept.answered (.ofResult result)
    generalize Reply.ofResult result = reply at expected answered
    have asExpected {final : Console κ} (later : (after.tell
        (.answered call reply after.registry)).trace <:+ final.trace)
        (clear : Clear origin final.trace) : operation.Expects reply :=
      expected ((clear.of_suffix (within.trans answered.suffix) later).of_suffix
        (within.trans (told.trans kept.suffix)) (List.suffix_cons _ _))
    change Ends _ _ _
    split
    · refine ⟨answered, fun clear => ?_⟩
      cases asExpected (List.suffix_refl _) clear
    · refine Contained.told answered.suffix ?_
      -- A reply that is not as expected shows that something irregular has happened.
      by_cases met : operation.Expects reply
      · exact ih reply (following reply met) (within.trans answered.suffix) answered.sane
      · exact Ends.mono (keeps_runScript (keeps _) _ _ ⟨answered.sane, List.suffix_refl _⟩)
          fun _ _ later => ⟨later, fun clear => absurd (asExpected later.suffix clear) met⟩

/-- A callback ends with nothing but console errors unless it is told to end otherwise. -/
theorem contained_calling {call : Call κ} {action : Action κ Bool}
    (within : origin.trace <:+ console.trace)
    (ends : Ends action (console.calling call) fun result after =>
      Since origin.storage (console.calling call).trace after ∧
        (Clear origin after.trace → ∀ fault, result = .error fault →
          (Event.ended call (some fault)).isRegular = true → fault.isConsole = true)) :
    Contained origin Reports (calling call action) console := by
  simp only [Contained, calling, ends_bind, ends_registry, ends_record, ends_tryCatch, ends_pure,
    ends_throw]
  apply ends.mono
  rintro result after ⟨kept, contained⟩
  have since : Since origin.storage console.trace after := kept.trans (List.suffix_cons _ _)
  cases result with
  | ok handled => exact ⟨Step.since (.tell trivial) since, fun _ => reports_ok _ _⟩
  | error fault =>
    refine ⟨Step.since (.tell trivial) since, fun clear => ?_⟩
    rintro _ ⟨⟩
    have inside := within.trans since.suffix
    have earlier := clear.of_suffix inside (List.suffix_cons _ _)
    exact contained earlier fault rfl
      (clear.regular _ (mem_since (List.suffix_refl _) inside))

/-- Callbacks that nest within a bound raise nothing but console errors unless something irregular
happens. -/
theorem contained_runWithin (origin : Console κ) (conduct : Conduct κ) (bound : Nat) :
    RunnerContained origin (runWithin conduct bound) := by
  induction bound with
  | zero =>
    intro call console sane within
    refine contained_calling within ⟨⟨sane, List.suffix_refl _⟩, ?_⟩
    rintro _ _ ⟨⟩ exhausted
    cases exhausted
  | succ bound ih =>
    intro call console sane within
    have keeps (earlier : List (Event κ)) (operation : Operation κ) :
        Keeps (Since origin.storage earlier)
          (perform (runWithin conduct bound) bound (some call) operation) := by
      have invariants : Invariants fun _ : Unit => Since (κ := κ) origin.storage earlier :=
        .of_turns Step.since Turn.since
      exact keeps_perform Step.since (invariants.runWithin conduct bound ())
        (fun space handler => invariants.attaches (invariants.runWithin conduct bound) bound ()
          space handler) _ operation
    refine contained_calling within ?_
    rw [ends_bind, ends_get]
    have start : Since origin.storage (console.calling call).trace (console.calling call) :=
      ⟨sane, List.suffix_refl _⟩
    have inside := within.trans (List.suffix_cons (.called call console.registry) console.trace)
    -- A script of the host may fail in any way, but a clear trace tells that it has not.
    cases same : call.callback with
    | host key =>
      refine Ends.mono (keeps_runScript (keeps _) _ _ start)
        fun result after kept => ⟨kept, fun _ fault _ ended => ?_⟩
      exact Event.isConsole_of_ended same ended
    | _ =>
      refine Ends.mono (contained_runScript ih keeps (Callback.isSafe_script _ ?_) inside sane)
        fun result after ends => ⟨ends.1, fun clear fault failed _ => ends.2 clear fault failed⟩
      simp [same]

end Callbacks

def Operation.isExecution : Operation κ → Bool
  | execute _ | executeStatement _ | executeArguments _ _ | loads _ | load _ => true
  | _ => false

/-- What is replied to an execution that has left nothing out, and what it has made of a console. -/
def Operation.IsCarriedOut (run : Runner κ) (before after : Console κ) :
    Operation κ → Reply κ → Prop
  | execute line, .flag _ => Executes run [Statement.parse line] before after
  | executeStatement statement, .flag _ => Executes run [statement] before after
  | executeArguments arguments defaultLine, .statements statements =>
    statements = Arguments.split arguments defaultLine ∧ Executes run statements before after
  | loads text, .count count =>
    count = (Statement.ofLines (Text.lines text)).length ∧
      Executes run (Statement.ofLines (Text.lines text)) before after
  | load paths, .count count => Loads run paths count before after
  | _, _ => False

section Executions

variable {origin : Console κ} {console : Console κ} {run : Runner κ}

/-- An execution leaves nothing out, whether the host asks for it or a callback in the middle of
another one, as long as callbacks raise nothing but console errors. -/
theorem contained_execution (calls : RunnerContained origin run)
    (within : origin.trace <:+ console.trace) (sane : console.Sane origin.storage)
    {operation : Operation κ} (execution : operation.isExecution)
    (texts : Clear origin console.trace → ∀ path ∈ operation.loaded, origin.storage.IsTextAt path)
    (rounds : Nat) (call : Option (Call κ)) :
    Contained origin (Answers fun reply after => operation.IsCarriedOut run console after reply)
      (carryOut run rounds call operation) console := by
  cases operation with
  | execute line =>
    refine (contained_executeStatement calls within sane (Statement.parse line)).next
      fun truth after kept executed => .of_still kept.sane ⟨rfl, fun clear => ?_⟩
    exact ⟨.flag truth, rfl, .cons (executed clear) (.nil _)⟩
  | executeStatement statement =>
    refine (contained_executeStatement calls within sane statement).next
      fun truth after kept executed => .of_still kept.sane ⟨rfl, fun clear => ?_⟩
    exact ⟨.flag truth, rfl, .cons (executed clear) (.nil _)⟩
  | executeArguments arguments defaultLine =>
    simp only [carryOut, executeArguments, bind_assoc, pure_bind]
    refine (contained_executeEach calls within sane (Arguments.split arguments defaultLine)).next
      fun _ after kept executes => .of_still kept.sane ⟨rfl, fun clear => ?_⟩
    exact ⟨.statements _, rfl, rfl, executes clear⟩
  | loads text =>
    refine (contained_executeLines calls within sane (Text.lines text)).next
      fun count after kept executes => .of_still kept.sane ⟨rfl, fun clear => ?_⟩
    exact ⟨.count count, rfl, executes clear⟩
  | load paths =>
    refine (contained_load calls within sane paths texts).next
      fun count after kept loads => .of_still kept.sane ⟨rfl, fun clear => ?_⟩
    exact ⟨.count count, rfl, loads clear⟩
  | _ => cases execution

/-- Whatever a host asks to be executed, all of it is executed and no fault leaves the execution, as
long as the run is clear: what has been declared and assigned can be written, files that are loaded
hold texts, no path has a null in it, callbacks of the host raise nothing but console errors, and
callbacks nest and queues go on within the bound. Files change only by texts that are saved, so that
paths that lead to texts still do so for what the host asks next (`Saved.isTextAt`). -/
theorem carried_out (reachable : console.Reachable) (conduct : Conduct κ) (bound : Nat)
    (operation : Operation κ) (execution : operation.isExecution)
    (clear : Clear console ((Console.act conduct bound operation).after console).trace) :
    ∃ reply after, Console.act conduct bound operation console =
        .ok reply (after.tell (.answered none reply after.registry)) ∧
      operation.IsCarriedOut (runWithin conduct bound) (console.tell (.asked none operation)) after
        reply ∧
      console.storage.Saved after.storage := by
  have sane : console.Sane console.storage := ⟨.none, reachable.plain⟩
  have start : console.trace <:+ console.trace := List.suffix_refl _
  have within : console.trace <:+ (console.tell (.asked none operation)).trace :=
    List.suffix_cons _ _
  have acted : Contained console (Answers fun reply last => ∃ after,
      last = after.tell (.answered none reply after.registry) ∧
        operation.IsCarriedOut (runWithin conduct bound) (console.tell (.asked none operation))
          after reply ∧
        console.storage.Saved after.storage) (Console.act conduct bound operation) console := by
    rw [Contained, Console.act, ends_perform]
    apply Ends.mono (contained_execution (contained_runWithin console conduct bound) within
      (sane.asked none operation) execution (fun clear path => clear.isTextAt start) bound none)
    rintro result after ⟨kept, carried⟩
    refine ⟨kept.answered _, fun clear => ?_⟩
    obtain ⟨reply, rfl, isCarriedOut⟩ := carried
      (clear.of_suffix (within.trans kept.suffix) (List.suffix_cons _ _))
    exact ⟨reply, rfl, after, rfl, isCarriedOut, kept.sane.saved⟩
  obtain ⟨reply, _, ended, after, rfl, carried⟩ := acted.exists_value clear
  exact ⟨reply, after, ended, carried⟩

end Executions

def furnished (name : String) (content : ByteArray) : Console Unit :=
  (Console.empty .standard ⟨[([name], .file content)]⟩).actAll idle 3
    [.create Builtin.declaration, .attach 0 (some .console)]

/-- A console with a file whose first two statements come to nothing. -/
def mistaken : Console Unit :=
  furnished "mistaken" "nowhere\nconsole.save_path 1 2\n\n# listing\nconsole".toUTF8

/-- Neither a file that is missing nor statements that come to nothing end what a line has begun. -/
theorem mistaken_carried_out : ∃ truth, ∃ after : Console Unit,
    Console.act idle 3 (.execute "console.load missing mistaken") mistaken =
      .ok (.flag truth) (after.tell (.answered none (.flag truth) after.registry)) := by
  have reachable : mistaken.Reachable := (Console.Reachable.empty _ _).actAll idle 3 _
  obtain ⟨reply, after, ended, executed, -⟩ :=
    carried_out reachable idle 3 (.execute "console.load missing mistaken") rfl
      (.of_isText (by decide +kernel) (by decide +kernel))
  cases reply with
  | flag truth => exact ⟨truth, after, ended⟩
  | _ => cases executed

def corrupted : Console Unit :=
  furnished "corrupted" ⟨#[255]⟩

/-- Whether a fault other than a console error leaves an operation. -/
def Console.breaks (console : Console Unit) (operation : Operation Unit) : Bool :=
  match act idle 3 operation console with
  | .ok (.failed fault) _ => !fault.isConsole
  | _ => false

/-- A file that is no text and a path with a null in it do break an execution. -/
theorem corrupted_breaks :
    (corrupted.Reachable ∧ corrupted.breaks (.execute "console.load corrupted") ∧
      Regular corrupted.trace
        ((Console.act idle 3 (.execute "console.load corrupted")).after corrupted).trace) ∧
    (mistaken.Reachable ∧ mistaken.storage.IsText ∧
      mistaken.breaks (.execute "console.load a\x00b mistaken") ∧
      mistaken.breaks (.execute "console.save a\x00b") ∧
      Plain ((Console.act idle 3 (.execute "console.load a\x00b mistaken")).after mistaken).trace ∧
      Plain ((Console.act idle 3 (.execute "console.save a\x00b")).after mistaken).trace) := by
  refine ⟨⟨?_, by decide +kernel⟩, ⟨?_, by decide +kernel⟩⟩
  · exact (Console.Reachable.empty _ _).actAll idle 3 _
  · exact (Console.Reachable.empty _ _).actAll idle 3 _

end CommandConsole
