import CommandConsole.Proofs.Run.Plain
import CommandConsole.Proofs.Queue.Debt

set_option autoImplicit false

/-!
Which faults leave an action. Main statements: nothing but console errors leaves what a statement
makes of an entry (`contained_dispatch`), and nothing at all leaves the execution of a statement
(`contained_executeStatement`), as long as that holds of the callbacks.
-/
namespace CommandConsole

open CommandConsole.Action

variable {κ : Type}

/-- What a trace tells after an earlier one. -/
def since (past trace : List (Event κ)) : List (Event κ) :=
  trace.take (trace.length - past.length)

section Since

variable {past earlier later : List (Event κ)}

theorem since_append (suffix : past <:+ earlier) (events : List (Event κ)) :
    since past (events ++ earlier) = events ++ since past earlier := by
  have shorter := suffix.length_le
  have length : (events ++ earlier).length - past.length =
      events.length + (earlier.length - past.length) := by
    rw [List.length_append]
    omega
  rw [since, length, List.take_length_add_append, since]

theorem since_cons (suffix : past <:+ earlier) (event : Event κ) :
    since past (event :: earlier) = event :: since past earlier :=
  since_append suffix [event]

theorem mem_since {event : Event κ} (suffix : event :: earlier <:+ later)
    (within : past <:+ earlier) : event ∈ since past later := by
  obtain ⟨events, rfl⟩ := suffix
  rw [since_append (within.trans (List.suffix_cons event earlier)), since_cons within]
  exact List.mem_append_right _ List.mem_cons_self

end Since

/-- Whether an event tells nothing that may let a fault other than a console error leave an
operation: no callback of the host raises one, no bound is reached, and no path holds a null. -/
def Event.isRegular : Event κ → Bool
  | ended _ (some .exhausted) => false
  | ended call (some fault) => fault.isConsole || !(call.callback matches .host _)
  | opened path => !path.toList.contains '\x00'
  | _ => true

/-- A callback of the host that ends regularly raises nothing but a console error. -/
theorem Event.isConsole_of_ended {call : Call κ} {key : κ} {fault : Fault}
    (host : call.callback = .host key)
    (regular : (Event.ended call (some fault)).isRegular = true) : fault.isConsole = true := by
  cases fault with
  | exhausted => cases regular
  | _ => simpa [isRegular, host] using regular

/-- Everything that was added to a registry can be written, and nothing irregular has happened after
an earlier trace. -/
structure Regular (past trace : List (Event κ)) : Prop where
  plain : Plain trace
  regular : ∀ event ∈ since past trace, event.isRegular = true

instance (past trace : List (Event κ)) : Decidable (Regular past trace) :=
  decidable_of_iff (Plain trace ∧ ∀ event ∈ since past trace, event.isRegular = true)
    ⟨fun ⟨plain, regular⟩ => ⟨plain, regular⟩, fun ⟨plain, regular⟩ => ⟨plain, regular⟩⟩

def Operation.loaded : Operation κ → List String
  | load paths => paths
  | _ => []

/-- The paths of the files that are asked to be loaded. -/
def Event.loaded : Event κ → List String
  | asked _ operation => operation.loaded
  | _ => []

/-- Nothing irregular has happened since a console, and no file that was to be loaded since then
holds anything but a text. -/
structure Clear (origin : Console κ) (trace : List (Event κ)) : Prop extends
    Regular origin.trace trace where
  texts : ∀ event ∈ since origin.trace trace, ∀ path ∈ event.loaded, origin.storage.IsTextAt path

instance (origin : Console κ) (trace : List (Event κ)) : Decidable (Clear origin trace) :=
  decidable_of_iff (Regular origin.trace trace ∧ ∀ event ∈ since origin.trace trace,
      ∀ path ∈ event.loaded, origin.storage.IsTextAt path)
    ⟨fun ⟨regular, texts⟩ => ⟨regular, texts⟩, fun clear => ⟨clear.toRegular, clear.texts⟩⟩

theorem mem_since_of_suffix {past earlier later : List (Event κ)} (within : past <:+ earlier)
    (suffix : earlier <:+ later) {event : Event κ} (member : event ∈ since past earlier) :
    event ∈ since past later := by
  obtain ⟨events, rfl⟩ := suffix
  rw [since_append within]
  exact List.mem_append_right _ member

theorem Clear.of_suffix {origin : Console κ} {earlier later : List (Event κ)}
    (clear : Clear origin later) (within : origin.trace <:+ earlier) (suffix : earlier <:+ later) :
    Clear origin earlier :=
  ⟨⟨clear.plain.of_suffix suffix,
      fun event member => clear.regular event (mem_since_of_suffix within suffix member)⟩,
    fun event member => clear.texts event (mem_since_of_suffix within suffix member)⟩

/-- Where all files are texts, so are those that are loaded. -/
theorem Clear.of_isText {origin : Console κ} {trace : List (Event κ)}
    (texts : origin.storage.IsText) (regular : Regular origin.trace trace) : Clear origin trace :=
  ⟨regular, fun _ _ path _ => texts.isTextAt path⟩

/-- Where nothing irregular has happened, what an operation loads has been texts. -/
theorem Clear.isTextAt {origin console : Console κ} {call : Option (Call κ)}
    {operation : Operation κ} (clear : Clear origin (console.tell (.asked call operation)).trace)
    (within : origin.trace <:+ console.trace) {path : String} (member : path ∈ operation.loaded) :
    origin.storage.IsTextAt path :=
  clear.texts _ (mem_since (List.suffix_refl _) within) path member

/-- A sane console that remembers what has been told. -/
structure Since (files : Storage) (past : List (Event κ)) (console : Console κ) : Prop where
  sane : console.Sane files
  suffix : past <:+ console.trace

theorem Since.trans {files : Storage} {first second : List (Event κ)} {console : Console κ}
    (later : Since files second console) (suffix : first <:+ second) :
    Since files first console :=
  ⟨later.sane, suffix.trans later.suffix⟩

theorem Step.since {files : Storage} {past : List (Event κ)} {before after : Console κ}
    (step : Step before after) (earlier : Since files past before) : Since files past after :=
  ⟨step.sane earlier.sane, earlier.suffix.trans step.suffix⟩

theorem Turn.since {files : Storage} {past : List (Event κ)} {before after : Console κ}
    (turn : Turn before after) (earlier : Since files past before) : Since files past after :=
  ⟨turn.sane earlier.sane, earlier.suffix.trans turn.suffix⟩

/-- What leaves an action is good unless something irregular has happened. -/
def Contained {α : Type} (origin : Console κ) (good : Except Fault α → Console κ → Prop)
    (action : Action κ α) (console : Console κ) : Prop :=
  Ends action console fun result after =>
    Since origin.storage console.trace after ∧ (Clear origin after.trace → good result after)

/-- A result that is no fault but a console error. -/
def Reports {α : Type} (result : Except Fault α) (_ : Console κ) : Prop :=
  ∀ fault, result = .error fault → fault.isConsole = true

/-- A result that is a value as it should be. -/
def Answers {α : Type} (good : α → Console κ → Prop) (result : Except Fault α)
    (after : Console κ) : Prop :=
  ∃ value, result = .ok value ∧ good value after

theorem reports_ok {α : Type} (value : α) (console : Console κ) :
    Reports (.ok value) console :=
  fun _ same => by cases same

theorem reports_console {α : Type} (cause : ConsoleError) (console : Console κ) :
    Reports (.error (.console cause) : Except Fault α) console := by
  rintro _ ⟨⟩
  rfl

section Parts

variable {origin : Console κ} {console : Console κ} {α β : Type}

theorem Contained.of_still {good : Except Fault α → Console κ → Prop} {action : Action κ α}
    (sane : console.Sane origin.storage)
    (ends : Ends action console fun result after => after = console ∧
      (Clear origin console.trace → good result console)) :
    Contained origin good action console := by
  apply ends.mono
  rintro result after ⟨rfl, isGood⟩
  exact ⟨⟨sane, List.suffix_refl _⟩, isGood⟩

theorem Contained.bind {good : Except Fault β → Console κ → Prop}
    {fine : Except Fault α → Console κ → Prop} {action : Action κ α} {next : α → Action κ β}
    (first : Contained origin fine action console)
    (failed : ∀ fault after, fine (.error fault) after → good (.error fault) after)
    (second : ∀ value after, Since origin.storage console.trace after →
      (Clear origin after.trace → fine (.ok value) after) →
        Contained origin good (next value) after) :
    Contained origin good (action >>= next) console := by
  rw [Contained, ends_bind]
  apply Ends.mono first
  rintro result after ⟨kept, isFine⟩
  cases result with
  | error fault => exact ⟨kept, fun clear => failed fault after (isFine clear)⟩
  | ok value =>
    apply Ends.mono (second value after kept isFine)
    rintro result final ⟨later, isGood⟩
    exact ⟨later.trans kept.suffix, isGood⟩

/-- What follows an action that answers can rely on the answer. -/
theorem Contained.next {good : Except Fault β → Console κ → Prop} {fine : α → Console κ → Prop}
    {action : Action κ α} {next : α → Action κ β}
    (first : Contained origin (Answers fine) action console)
    (second : ∀ value after, Since origin.storage console.trace after →
      (Clear origin after.trace → fine value after) → Contained origin good (next value) after) :
    Contained origin good (action >>= next) console := by
  refine first.bind ?_ fun value after kept answers => second value after kept fun clear => ?_
  · rintro fault after ⟨_, same, -⟩
    cases same
  · obtain ⟨_, same, isFine⟩ := answers clear
    cases same
    exact isFine

/-- An action that answers does so where nothing irregular has happened. -/
theorem Contained.exists_value {action : Action κ α} {good : α → Console κ → Prop}
    (contained : Contained origin (Answers good) action console)
    (clear : Clear origin (action.after console).trace) :
    ∃ value after, action console = .ok value after ∧ good value after := by
  unfold Contained Ends at contained
  unfold Action.after at clear
  cases ended : action console with
  | ok value after =>
    simp only [ended] at contained clear
    obtain ⟨_, same, isGood⟩ := contained.2 clear
    cases same
    exact ⟨value, after, rfl, isGood⟩
  | error fault after =>
    simp only [ended] at contained clear
    obtain ⟨_, same, -⟩ := contained.2 clear
    cases same

/-- What is answered is what the action answers. -/
theorem Contained.exact {action : Action κ α} {good : α → Console κ → Prop}
    (contained : Contained origin (Answers good) action console) :
    Contained origin (Answers fun value after => action console = .ok value after) action
      console := by
  unfold Contained Ends at contained ⊢
  cases ended : action console with
  | ok value after =>
    simp only [ended] at contained
    exact ⟨contained.1, fun _ => ⟨value, rfl, rfl⟩⟩
  | error fault after =>
    simp only [ended] at contained
    refine ⟨contained.1, fun clear => ?_⟩
    obtain ⟨_, same, -⟩ := contained.2 clear
    cases same

theorem Contained.told {good : Except Fault α → Console κ → Prop} {action : Action κ α}
    {before : Console κ} (suffix : before.trace <:+ console.trace)
    (contained : Contained origin good action console) :
    Ends action console fun result after =>
      Since origin.storage before.trace after ∧ (Clear origin after.trace → good result after) :=
  Ends.mono contained fun _ _ ends => ⟨ends.1.trans suffix, ends.2⟩

end Parts

/-- Callbacks raise nothing but console errors unless something irregular happens. -/
def RunnerContained (origin : Console κ) (run : Runner κ) : Prop :=
  ∀ call console, (console.calling call).Sane origin.storage → origin.trace <:+ console.trace →
    Contained origin Reports (run call) console

section Statements

variable {origin : Console κ} {console : Console κ} {run : Runner κ} {space : Namespace κ}
  {handler : Handler} {isReplay : Bool} {statement : Statement}

theorem Console.Sane.wrote (sane : console.Sane origin.storage) (text : String) :
    (console.tell (.wrote text)).Sane origin.storage :=
  Step.sane (.tell trivial) sane

variable (calls : RunnerContained origin run) (within : origin.trace <:+ console.trace)

include calls within

theorem contained_runCommand {command : Command κ}
    (start : (console.running handler isReplay space command statement).Sane origin.storage)
    (usage : Plain console.trace → command.description.isWritable) :
    Contained origin Reports (runCommand run handler isReplay space command statement) console := by
  simp only [Contained, runCommand, ends_bind, ends_record]
  unfold Console.running at start
  have told := List.suffix_cons (.executed space.serial command.name statement) console.trace
  cases action : command.action with
  | none =>
    simp only [action] at start
    exact ⟨⟨start, told⟩, fun _ => reports_ok _ _⟩
  | some callback =>
    simp only [action] at start
    rw [ends_bind]
    apply ((calls _ _ start (within.trans told)).told told).mono
    rintro result after ⟨kept, reports⟩
    cases result with
    | error fault => exact ⟨kept, reports⟩
    | ok handled =>
      simp only
      split
      · exact ⟨kept, fun _ => reports_ok _ _⟩
      · split
        · exact ⟨⟨kept.sane.wrote _, kept.suffix.trans (List.suffix_cons _ _)⟩,
            fun _ => reports_ok _ _⟩
        · rename_i long
          refine ⟨kept, fun clear => ?_⟩
          exact absurd (usage (clear.plain.of_suffix kept.suffix)) long

theorem contained_notify {setting : Setting κ} {value : Value}
    (start : (console.notifying handler isReplay space setting value).Sane origin.storage) :
    Contained origin Reports (notify run handler isReplay space setting value) console := by
  unfold notify
  unfold Console.notifying at start
  cases onChange : setting.onChange with
  | none =>
    simp only [onChange] at start
    exact .of_still start ⟨rfl, fun _ => reports_ok _ _⟩
  | some callback =>
    simp only [onChange] at start
    refine (calls _ _ start within).bind (fun fault after reports => ?_)
      fun handled after kept _ => .of_still kept.sane ⟨rfl, fun _ => reports_ok _ _⟩
    exact fun other same => reports other (congrArg Except.error (Except.error.inj same))

theorem contained_assign (sane : console.Sane origin.storage) {setting : Setting κ} {value : Value}
    {token : String} (present : space ∈ console.registry.spaces)
    (found : space.find? setting.name = some (.setting setting))
    (reads : Value.parse setting.kind token = .ok value) :
    Contained origin Reports (assign run space setting value (some token)) console := by
  unfold assign
  split
  · exact .of_still sane ⟨rfl, fun _ => reports_console _ _⟩
  · rename_i sameKind
    have kind : value.kind = setting.kind := not_not.mp sameKind
    split
    · exact .of_still sane ⟨rfl, fun _ => reports_ok _ _⟩
    · rename_i differs
      simp only [Contained, ends_bind, ends_update, ends_record, ends_pure]
      have still := mem_assigning present setting value
      have told := List.suffix_cons (.changed space.serial setting.name value) console.trace
      suffices announced : Ends (announce run space setting value (some token))
          (console.assigning space setting value) fun result after =>
            Since origin.storage console.trace after ∧
              (Clear origin after.trace → Reports result after) by
        apply announced.mono
        rintro result after ⟨kept, reports⟩
        cases result with
        | ok _ => exact ⟨kept, fun _ => reports_ok _ _⟩
        | error fault =>
          exact ⟨kept, fun clear other same =>
            reports clear other (congrArg Except.error (Except.error.inj same))⟩
      unfold announce
      cases handler : space.handler with
      | some handler =>
        have notified := (Step.notify present found kind differs handler).sane sane
        exact (contained_notify calls (within.trans told) notified).told told
      | none =>
        have postponed := Step.postpone present found kind differs handler reads
        exact (ends_defer still _ _ _).mpr
          ⟨postponed.since ⟨sane, List.suffix_refl _⟩, fun _ => reports_ok _ _⟩

theorem contained_dispatch (sane : console.Sane origin.storage) {entry : Entry κ}
    (present : space ∈ console.registry.table) (found : space.find? entry.name = some entry)
    (statement : Statement) :
    Contained origin Reports (dispatch run space entry statement) console := by
  have inside := (Registry.mem_table.mp present).1
  have member := (Namespace.find?_ok found).1
  have plain (isPlain : Plain console.trace) : space.IsPlain := sane.plain isPlain space inside
  cases entry with
  | command command =>
    unfold dispatch
    cases handler : space.handler with
    | none =>
      simp only [Contained, ends_bind, ends_pure]
      exact (ends_defer inside _ _ _).mpr
        ⟨(Step.defer _ present found handler).since ⟨sane, List.suffix_refl _⟩,
          fun _ => reports_ok _ _⟩
    | some handler =>
      exact contained_runCommand calls within
        ((Step.run statement present found handler).sane sane)
        fun isPlain => (plain isPlain).writable _ member
  | setting setting =>
    simp only [dispatch]
    split
    · simp only [Contained, ends_bind, ends_lift]
      cases described : space.describe? (.setting setting) with
      | error fault =>
        refine ⟨⟨sane, List.suffix_refl _⟩, fun clear => ?_⟩
        rw [(plain clear.plain).describe?_ok member] at described
        cases described
      | ok text =>
        exact ⟨⟨sane.wrote text, List.suffix_cons _ _⟩, fun _ => reports_ok _ _⟩
    · rename_i token _
      unfold valueOf
      cases reads : Value.parse setting.kind token with
      | error cause => exact .of_still sane ⟨rfl, fun _ => reports_console _ _⟩
      | ok value =>
        simp only [pure_bind]
        refine (contained_assign calls within sane inside found reads).bind
          (fun fault after reports => ?_)
          fun _ after kept _ => .of_still kept.sane ⟨rfl, fun _ => reports_ok _ _⟩
        exact fun other same => reports other (congrArg Except.error (Except.error.inj same))
    · exact .of_still sane ⟨rfl, fun _ => reports_console _ _⟩

omit calls within in
/-- What a token stands for is found where the console is; only a listing is written. -/
theorem contained_resolve (origin : Console κ) (sane : console.Sane origin.storage)
    (token : String) :
    Ends (resolve token) console fun result after =>
      (Since origin.storage console.trace after ∧
          (Clear origin after.trace → Reports result after)) ∧
        ∀ space entry, result = .ok (.entry space entry) →
          after = console ∧ console.registry.lookup token = .ok (space, entry) := by
  have still : Since origin.storage console.trace console := ⟨sane, List.suffix_refl _⟩
  simp only [resolve, ends_bind, ends_registry, ends_liftError]
  cases resolved : console.registry.resolve token with
  | error cause => exact ⟨⟨still, fun _ => reports_console _ _⟩, fun _ _ same => by cases same⟩
  | ok resolution =>
    unfold Except.mapError
    cases resolution with
    | listing listed =>
      have present := Registry.resolve_listing resolved
      simp only [ends_bind, ends_lift]
      cases written : listed.listing? with
      | error fault =>
        refine ⟨⟨still, fun clear => ?_⟩, fun _ _ same => by cases same⟩
        rw [((sane.plain clear.plain).of_table present).listing?_ok] at written
        cases written
      | ok text =>
        exact ⟨⟨⟨sane.wrote text, List.suffix_cons _ _⟩, fun _ => reports_ok _ _⟩,
          fun _ _ same => by cases same⟩
    | entry space entry =>
      refine ⟨⟨still, fun _ => reports_ok _ _⟩, ?_⟩
      rintro _ _ ⟨rfl, rfl⟩
      exact ⟨rfl, Registry.resolve_entry resolved⟩

/-- Whatever a statement is, its execution ends without a fault. -/
theorem contained_executeStatement (sane : console.Sane origin.storage) (statement : Statement) :
    Contained origin (Answers fun truth after =>
      executeStatement run statement console = .ok truth after)
      (executeStatement run statement) console := by
  suffices answered : Contained origin (Answers fun _ _ => True) (executeStatement run statement)
      console from answered.exact
  unfold executeStatement
  split
  · exact .of_still sane ⟨rfl, fun _ => ⟨_, rfl, trivial⟩⟩
  · rw [Contained, ends_reporting]
    refine Ends.mono (?_ : Contained origin Reports _ console) ?_
    · rw [Contained, ends_bind]
      apply (contained_resolve origin sane statement.name).mono
      rintro result after ⟨⟨kept, reports⟩, names⟩
      cases result with
      | error fault =>
        exact ⟨kept, fun clear other same =>
          reports clear other (congrArg Except.error (Except.error.inj same))⟩
      | ok resolution =>
        cases resolution with
        | listing listed => exact ⟨kept, fun _ => reports_ok _ _⟩
        | entry space entry =>
          obtain ⟨rfl, named⟩ := names space entry rfl
          obtain ⟨present, found⟩ := Registry.lookup_ok named
          exact contained_dispatch calls within sane present found statement
    · rintro result after ⟨kept, reports⟩
      cases result with
      | ok truth => exact ⟨kept, fun _ => ⟨truth, rfl, trivial⟩⟩
      | error fault =>
        cases fault with
        | console cause =>
          exact ⟨⟨kept.sane.wrote _, kept.suffix.trans (List.suffix_cons _ _)⟩,
            fun _ => ⟨_, rfl, trivial⟩⟩
        | _ => exact ⟨kept, fun clear => by cases reports clear _ rfl⟩

end Statements

end CommandConsole
