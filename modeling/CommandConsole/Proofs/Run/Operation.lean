import CommandConsole.Proofs.Run.Step

set_option autoImplicit false

namespace CommandConsole

open CommandConsole.Action

variable {κ : Type} {console : Console κ} {space : Namespace κ}

def Reply.ofResult : Except Fault (Reply κ) → Reply κ
  | .ok reply => reply
  | .error fault => .failed fault

/-- An operation that has been asked for ends with a reply, which is told. -/
theorem ends_perform {run : Runner κ} {rounds : Nat} {call : Option (Call κ)}
    {operation : Operation κ} {good : Except Fault (Reply κ) → Console κ → Prop} :
    Ends (perform run rounds call operation) console good ↔
      Ends (carryOut run rounds call operation) (console.tell (.asked call operation))
        fun result after => good (.ok (.ofResult result))
          (after.tell (.answered call (.ofResult result) after.registry)) := by
  simp only [perform, answering, ends_bind, ends_record, ends_replying, ends_registry, ends_pure]
  unfold Ends
  cases carryOut run rounds call operation (console.tell (.asked call operation)) <;> rfl

theorem ends_create (declaration : NamespaceDeclaration (Callback κ))
    (good : Except Fault Nat → Console κ → Prop) :
    Ends (create declaration) console good ↔
      match console.registry.declared console.config declaration with
      | .ok space => good (.ok space.serial) (console.creating declaration space)
      | .error fault => good (.error fault) console := by
  simp only [create, ends_bind, ends_get, ends_lift]
  cases console.registry.declared console.config declaration <;> exact Iff.rfl

theorem ends_offer (present : space ∈ console.registry.spaces) (statement : Statement)
    (good : Except Fault Bool → Console κ → Prop) :
    Ends (offer space statement) console good ↔
      good (.ok (space.offer statement).1) (console.offering space statement) := by
  simp only [offer, ends_bind, ends_registry, Registry.space?_of_mem present, ends_update,
    ends_record, ends_pure]
  exact Iff.rfl

theorem ends_defer (present : space ∈ console.registry.spaces) (name : String)
    (arguments : List String) (good : Except Fault Unit → Console κ → Prop) :
    Ends (defer space name arguments) console good ↔
      good (.ok ()) (console.offering space ⟨qualify space.name name :: arguments⟩) := by
  simp only [defer, ends_bind, ends_offer present, ends_pure]

theorem mem_assigning (present : space ∈ console.registry.spaces) (setting : Setting κ)
    (value : Value) :
    space.assign setting.name value ∈ (console.assigning space setting value).registry.spaces :=
  Registry.mem_update_self (Namespace.keepsShape_assign _ _) present

theorem ends_resolve_entry {token : String} {entry : Entry κ}
    (found : console.registry.resolve token = .ok (.entry space entry))
    (good : Except Fault (Resolution κ) → Console κ → Prop) :
    Ends (resolve token) console good ↔ good (.ok (.entry space entry)) console := by
  simp only [resolve, ends_bind, ends_registry, ends_liftError, found, Except.mapError, ends_pure]

/-- A statement whose name stands for an entry is executed on that entry. -/
theorem executeStatement_entry {run : Runner κ} {entry : Entry κ} {statement : Statement}
    (words : statement.isEmpty = false)
    (found : console.registry.resolve statement.name = .ok (.entry space entry)) :
    executeStatement run statement console =
      reporting false (dispatch run space entry statement) console := by
  simp only [executeStatement, words, Bool.false_eq_true, if_false]
  apply reporting_congr
  simp only [resolve, bind_assoc, registry_bind, found, liftError, pure_bind]

variable {holds : Console κ → Prop} {run : Runner κ} {rounds : Nat}

theorem ends_bind_of_keeps {α β : Type} {action : Action κ α} {next : α → Action κ β}
    (first : Ends action console fun _ after => holds after)
    (second : ∀ value after, holds after → Ends (next value) after fun _ after => holds after) :
    Ends (action >>= next) console fun _ after => holds after := by
  rw [ends_bind]
  apply first.mono
  intro result after kept
  cases result with
  | ok value => exact second value after kept
  | error fault => exact kept

/-- After it has assigned, a toggle only looks. -/
theorem ends_toggle_of {target : Target} {found : Namespace κ × Setting κ}
    (pointed : console.registry.typed .boolean target = .ok found)
    (ends : Ends (assignValue run found.1 found.2 (.boolean (found.2.current != .boolean true)))
      console fun _ after => holds after) :
    Ends (toggle run target) console fun _ after => holds after := by
  simp only [toggle, ends_bind, ends_registry, ends_lift, pointed]
  apply ends.mono
  intro result after kept
  cases result with
  | error fault => exact kept
  | ok _ =>
    simp only
    cases after.registry.get (.kept found.1.serial found.2.name) <;> exact kept

/-- Reporting a console error only writes. -/
theorem ends_reporting_of {α : Type} {otherwise : α} {action : Action κ α}
    (writes : ∀ after text, holds after → holds (after.tell (.wrote text)))
    (ends : Ends action console fun _ after => holds after) :
    Ends (reporting otherwise action) console fun _ after => holds after := by
  rw [ends_reporting]
  apply ends.mono
  intro result after kept
  cases result with
  | ok value => exact kept
  | error fault =>
    cases fault with
    | console cause => exact writes _ _ kept
    | _ => exact kept

section Steps

variable (steps : ∀ {before after : Console κ}, Step before after → holds before → holds after)

include steps

theorem holds_wrote (start : holds console) (text : String) :
    holds (console.tell (.wrote text)) :=
  steps (.tell trivial) start

theorem keeps_reporting {α : Type} {otherwise : α} {action : Action κ α}
    (keeps : Ends action console fun _ after => holds after) :
    Ends (reporting otherwise action) console fun _ after => holds after :=
  ends_reporting_of (fun _ _ kept => holds_wrote steps kept _) keeps

theorem keeps_resolve (start : holds console) (token : String) :
    Ends (resolve token) console fun result after => holds after ∧
      ∀ space entry, result = .ok (.entry space entry) →
        after = console ∧ console.registry.lookup token = .ok (space, entry) := by
  simp only [resolve, ends_bind, ends_registry, ends_liftError]
  cases resolved : console.registry.resolve token with
  | error cause => simpa [Except.mapError] using start
  | ok resolution =>
    unfold Except.mapError
    cases resolution with
    | listing listed =>
      simp only [ends_bind, ends_lift]
      cases listed.listing? with
      | error fault => simpa using start
      | ok text => simpa using holds_wrote steps start text
    | entry space entry =>
      refine ⟨start, ?_⟩
      rintro _ _ ⟨rfl, rfl⟩
      exact ⟨rfl, Registry.resolve_entry resolved⟩

theorem keeps_describe (start : holds console) (token : String) :
    Ends (describe token) console fun _ after => holds after := by
  simp only [describe, ends_bind, ends_registry, ends_liftError]
  cases console.registry.lookup token with
  | error cause => exact start
  | ok found =>
    simp only [Except.mapError, ends_lift]
    cases found.1.describe? found.2 with
    | error fault => exact start
    | ok text => exact holds_wrote steps start text

theorem keeps_create (start : holds console) (declaration : NamespaceDeclaration (Callback κ)) :
    Ends (create declaration) console fun _ after => holds after := by
  rw [ends_create]
  cases declared : console.registry.declared console.config declaration with
  | error fault => exact start
  | ok space => exact steps (.create declared) start

theorem keeps_save (start : holds console) (path : String) :
    Ends (save path) console fun _ after => holds after := by
  have opened : holds (console.tell (.opened path)) := steps (.tell trivial) start
  simp only [save, ends_bind, ends_registry, ends_lift]
  cases console.registry.dumps? with
  | error fault => exact start
  | ok content =>
    simp only [ends_record, ends_get]
    split
    · exact opened
    · exact opened
    · rename_i saved
      exact steps (.store saved) opened

variable (calls : RunnerKeeps holds run)

include calls

/-- A command that ends with a fault has a callback that ended with it, or a usage that cannot be
written. -/
theorem ends_runCommand {handler : Handler} {isReplay : Bool} {command : Command κ}
    {statement : Statement}
    (start : holds (console.running handler isReplay space command statement)) :
    Ends (runCommand run handler isReplay space command statement) console
      fun result after => holds after ∧ ∀ fault, result = .error fault →
        (∃ call, .ended call (some fault) ∈ after.trace) ∨
          command.description.isWritable = false := by
  simp only [runCommand, ends_bind, ends_record]
  unfold Console.running at start
  cases action : command.action with
  | none => simpa [action] using start
  | some callback =>
    simp only [action] at start
    rw [ends_bind]
    have called := calls _ _ start
    apply called.mono
    intro result after ended
    obtain ⟨kept, told⟩ := ended
    cases result with
    | error fault =>
      refine ⟨kept, ?_⟩
      rintro _ ⟨⟩
      exact .inl ⟨_, told fault rfl⟩
    | ok handled =>
      simp only
      split
      · exact ⟨kept, fun fault same => by cases same⟩
      · split
        · exact ⟨holds_wrote steps kept _, fun fault same => by cases same⟩
        · rename_i long
          exact ⟨kept, fun _ _ => .inr (by simpa using long)⟩

theorem keeps_runCommand {handler : Handler} {isReplay : Bool} {command : Command κ}
    {statement : Statement}
    (start : holds (console.running handler isReplay space command statement)) :
    Ends (runCommand run handler isReplay space command statement) console
      fun _ after => holds after :=
  (ends_runCommand steps calls start).mono fun _ _ ended => ended.1

omit steps in
/-- Telling a setting its value ends with a fault only if its callback does. -/
theorem ends_notify {handler : Handler} {isReplay : Bool} {setting : Setting κ} {value : Value}
    (start : holds (console.notifying handler isReplay space setting value)) :
    Ends (notify run handler isReplay space setting value) console
      fun result after => holds after ∧ ∀ fault, result = .error fault →
        ∃ call, .ended call (some fault) ∈ after.trace := by
  unfold notify
  unfold Console.notifying at start
  cases onChange : setting.onChange with
  | none => simpa [onChange] using start
  | some callback =>
    simp only [onChange] at start
    rw [ends_bind]
    have called := calls _ _ start
    apply called.mono
    intro result after ended
    obtain ⟨kept, told⟩ := ended
    cases result with
    | error fault =>
      refine ⟨kept, ?_⟩
      rintro _ ⟨⟩
      exact ⟨_, told fault rfl⟩
    | ok handled => exact ⟨kept, fun fault same => by cases same⟩

omit steps in
theorem keeps_notify {handler : Handler} {isReplay : Bool} {setting : Setting κ} {value : Value}
    (start : holds (console.notifying handler isReplay space setting value)) :
    Ends (notify run handler isReplay space setting value) console
      fun _ after => holds after :=
  (ends_notify calls start).mono fun _ _ ended => ended.1

theorem keeps_assign {setting : Setting κ} {value : Value} {typed : Option String}
    (start : holds console) (present : space ∈ console.registry.spaces)
    (found : space.find? setting.name = some (.setting setting))
    (reads : ∀ token ∈ typed, Value.parse setting.kind token = .ok value) :
    Ends (assign run space setting value typed) console fun _ after => holds after := by
  unfold assign
  split
  · exact start
  · rename_i sameKind
    have kind : value.kind = setting.kind := not_not.mp sameKind
    split
    · exact start
    · rename_i differs
      simp only [ends_bind, ends_update, ends_record, ends_pure]
      have still := mem_assigning present setting value
      suffices announced : Ends (announce run space setting value typed)
          (console.assigning space setting value) fun _ after => holds after from
        announced.mono fun result after kept => by cases result <;> exact kept
      unfold announce
      cases handler : space.handler with
      | some handler =>
        exact keeps_notify calls (steps (.notify present found kind differs handler) start)
      | none =>
        cases typed with
        | some token =>
          exact (ends_defer still _ _ _).mpr
            (steps (.postpone present found kind differs handler (reads token rfl)) start)
        | none =>
          simp only
          split
          · rename_i writable
            have reads := kind ▸ Value.parse_token value writable
            exact (ends_defer still _ _ _).mpr
              (steps (.postpone present found kind differs handler reads) start)
          · rename_i long
            exact steps (.lose present found kind differs handler (by simpa using long)) start

theorem keeps_dispatch {entry : Entry κ} (start : holds console)
    (present : space ∈ console.registry.table) (found : space.find? entry.name = some entry)
    (statement : Statement) :
    Ends (dispatch run space entry statement) console fun _ after => holds after := by
  have inside := (Registry.mem_table.mp present).1
  cases entry with
  | command command =>
    unfold dispatch
    cases handler : space.handler with
    | none =>
      simp only [ends_bind, ends_pure]
      exact (ends_defer inside _ _ _).mpr (steps (.defer _ present found handler) start)
    | some handler =>
      exact keeps_runCommand steps calls (steps (.run statement present found handler) start)
  | setting setting =>
    simp only [dispatch]
    split
    · simp only [ends_bind, ends_lift]
      cases space.describe? (.setting setting) with
      | error fault => exact start
      | ok text => exact holds_wrote steps start text
    · rename_i token _
      unfold valueOf
      cases reads : Value.parse setting.kind token with
      | error cause => exact start
      | ok value =>
        simp only [pure_bind]
        have typed : ∀ typed ∈ some token, Value.parse setting.kind typed = .ok value := by
          rintro _ ⟨⟩
          exact reads
        exact ends_bind_of_keeps (keeps_assign steps calls start inside found typed)
          fun _ _ kept => kept
    · exact start

theorem keeps_executeStatement (start : holds console) (statement : Statement) :
    Ends (executeStatement run statement) console fun _ after => holds after := by
  unfold executeStatement
  split
  · exact start
  · refine keeps_reporting steps ?_
    rw [ends_bind]
    have resolved := keeps_resolve steps start statement.name
    apply resolved.mono
    intro result after ends
    obtain ⟨kept, names⟩ := ends
    match result with
    | .error fault => exact kept
    | .ok (.listing listed) => exact kept
    | .ok (.entry space entry) =>
      obtain ⟨rfl, named⟩ := names space entry rfl
      obtain ⟨present, found⟩ := Registry.lookup_ok named
      exact keeps_dispatch steps calls kept present found statement

theorem keeps_execute (start : holds console) (line : String) :
    Ends (execute run line) console fun _ after => holds after :=
  keeps_executeStatement steps calls start (Statement.parse line)

theorem keeps_executeEach (statements : List Statement) :
    Keeps holds (executeEach run statements) := by
  induction statements with
  | nil => exact fun _ start => start
  | cons statement rest ih =>
    intro console start
    exact ends_bind_of_keeps (keeps_executeStatement steps calls start statement)
      fun _ after kept => ih after kept

theorem keeps_executeLines (lines : List String) : Keeps holds (executeLines run lines) := by
  induction lines with
  | nil => exact fun _ start => start
  | cons line rest ih =>
    intro console start
    simp only [executeLines]
    split
    · exact ih console start
    · generalize Text.strip line = stripped
      apply ends_bind_of_keeps (keeps_execute steps calls start stripped)
      intro _ after kept
      exact ends_bind_of_keeps (ih after kept) fun _ _ kept => kept

theorem keeps_load (paths : List String) : Keeps holds (load run paths) := by
  induction paths with
  | nil => exact fun _ start => start
  | cons path rest ih =>
    intro console start
    have opened : holds (console.tell (.opened path)) := steps (.tell trivial) start
    simp only [load, ends_bind, ends_record, ends_get]
    split
    · exact opened
    · exact ih _ (holds_wrote steps opened _)
    · split
      · exact opened
      · rename_i text _
        apply ends_bind_of_keeps (keeps_executeLines steps calls (Text.lines text) _ opened)
        intro _ after kept
        exact ends_bind_of_keeps (ih after kept) fun _ _ kept => kept

theorem keeps_assignValue {setting : Setting κ} (start : holds console)
    (present : space ∈ console.registry.spaces)
    (found : space.find? setting.name = some (.setting setting)) (value : Value) :
    Ends (assignValue run space setting value) console fun _ after => holds after :=
  keeps_assign steps calls start present found fun _ none => by cases none

theorem keeps_assignPayload {setting : Setting κ} (start : holds console)
    (present : space ∈ console.registry.spaces)
    (found : space.find? setting.name = some (.setting setting)) (payload : Payload) :
    Ends (assignPayload run space setting payload) console fun _ after => holds after := by
  unfold assignPayload
  split
  · exact keeps_assignValue steps calls start present found _
  · split
    · exact keeps_assignValue steps calls start present found _
    · exact start

theorem keeps_setValue (target : Target) (payload : Payload) :
    Keeps holds (setValue run target payload) := by
  intro console start
  simp only [setValue, ends_bind, ends_registry, ends_lift]
  cases pointed : console.registry.target target with
  | error fault => exact start
  | ok found =>
    obtain ⟨present, isFound⟩ := Registry.target_ok pointed
    exact keeps_assignPayload steps calls start present isFound payload

theorem keeps_setTyped (kind : Kind) (target : Target) (payload : Payload) :
    Keeps holds (setTyped run kind target payload) := by
  intro console start
  simp only [setTyped, ends_bind, ends_registry, ends_lift]
  cases pointed : console.registry.typed kind target with
  | error fault => exact start
  | ok found =>
    obtain ⟨present, isFound⟩ := Registry.target_ok (Registry.typed_ok pointed).1
    exact keeps_assignPayload steps calls start present isFound payload

theorem keeps_reset (target : Target) : Keeps holds (reset run target) := by
  intro console start
  simp only [reset, ends_bind, ends_registry, ends_lift]
  cases pointed : console.registry.target target with
  | error fault => exact start
  | ok found =>
    obtain ⟨present, isFound⟩ := Registry.target_ok pointed
    exact keeps_assignValue steps calls start present isFound _

theorem keeps_toggle (target : Target) : Keeps holds (toggle run target) := by
  intro console start
  cases pointed : console.registry.typed .boolean target with
  | error fault =>
    simp only [toggle, ends_bind, ends_registry, ends_lift, pointed]
    exact start
  | ok found =>
    obtain ⟨present, isFound⟩ := Registry.target_ok (Registry.typed_ok pointed).1
    exact ends_toggle_of pointed (keeps_assignValue steps calls start present isFound _)

variable (attaches : ∀ space handler, Keeps holds (setHandler run rounds space handler))

omit calls in
include attaches in
theorem keeps_attach (serial : Nat) (handler : Option Handler) :
    Keeps holds (attach run rounds serial handler) := by
  intro console start
  simp only [attach, ends_bind, ends_registry]
  cases found : console.registry.space? serial with
  | none => exact start
  | some before =>
    obtain ⟨present, rfl⟩ := Registry.mem_of_space? found
    simp only
    split
    · exact attaches _ handler console start
    · rename_i retired
      exact steps (.hold handler present (by simpa using retired)) start

include attaches in
/-- What is asked for is carried out in steps, from where it has been asked for. -/
theorem keeps_carryOut {call : Option (Call κ)} {operation : Operation κ} (start : holds console)
    (asked : console.trace.head? = some (.asked call operation)) :
    Ends (carryOut run rounds call operation) console fun _ after => holds after := by
  have answer : ∀ {α : Type} {action : Action κ α} {reply : α → Reply κ},
      (Ends action console fun _ after => holds after) →
        Ends (reply <$> action) console fun _ after => holds after := fun keeps =>
    (ends_map _ _ _).mpr keeps
  cases operation with
  | execute line => exact answer (keeps_execute steps calls start line)
  | executeStatement statement => exact answer (keeps_executeStatement steps calls start statement)
  | executeArguments arguments defaultLine =>
    exact answer (ends_bind_of_keeps (keeps_executeEach steps calls _ console start)
      fun _ _ kept => kept)
  | set target payload => exact answer (keeps_setValue steps calls target payload console start)
  | setTyped kind target payload =>
    exact answer (keeps_setTyped steps calls kind target payload console start)
  | reset target => exact answer (keeps_reset steps calls target console start)
  | toggle target => exact answer (keeps_toggle steps calls target console start)
  | attach space handler =>
    exact ends_bind_of_keeps (keeps_attach steps attaches space handler console start)
      fun _ _ kept => kept
  | attachAnyway space handler =>
    exact ends_bind_of_keeps (attaches space handler console start) fun _ _ kept => kept
  | enqueue serial statement =>
    simp only [carryOut, ends_bind, ends_registry]
    cases found : console.registry.space? serial with
    | none => exact start
    | some present =>
      obtain ⟨inside, rfl⟩ := Registry.mem_of_space? found
      exact answer ((ends_offer inside statement _).mpr (steps (.enqueue inside asked) start))
  | create declaration => exact answer (keeps_create steps start declaration)
  | teardown => exact steps (.retire asked) start
  | loads text => exact answer (keeps_executeLines steps calls _ console start)
  | load paths => exact answer (keeps_load steps calls paths console start)
  | save path => exact answer (keeps_save steps start path)
  | setSavePath path =>
    exact ends_bind_of_keeps (keeps_setTyped steps calls _ _ _ console start) fun _ _ kept => kept
  | describe token =>
    exact ends_bind_of_keeps (keeps_describe steps start token) fun _ _ kept => kept
  | resolve token =>
    exact answer ((keeps_resolve steps start token).mono fun _ _ ends => ends.1)
  | write text => exact holds_wrote steps start text
  | note text => exact steps (.tell trivial) start
  | look => exact start

include attaches in
theorem keeps_perform (call : Option (Call κ)) (operation : Operation κ) :
    Keeps holds (perform run rounds call operation) := by
  intro console start
  have asked : holds (console.tell (.asked call operation)) := steps (.tell trivial) start
  rw [ends_perform]
  have carriedOut := keeps_carryOut steps calls attaches asked rfl
  exact carriedOut.mono fun result after kept => steps (.tell rfl) kept

end Steps

end CommandConsole
