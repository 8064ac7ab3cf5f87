import CommandConsole.Proofs.Run.Scope

set_option autoImplicit false

/-!
Actions that concern one namespace. Where callbacks only record their calls, such an action depends
on the names of the others and on nothing that they hold: it ends alike, makes one thing of its
namespace, leaves the others alone and makes the same calls in every registry with these names. Main
statements: parts of an action that are local make it local (`Local.bind`), and every operation on a
namespace is local to it, with the replay that it may start (`local_perform`).
-/
namespace CommandConsole

open CommandConsole.Action

variable {κ : Type}

/-- Whether an operation is on a namespace: on what a dotted name of it names, on a setting of it,
or on its handler. -/
def Operation.IsOn (space : Namespace κ) : Operation κ → Prop
  | .execute line => (splitName (Statement.parse line).name).1 = some space.name
  | .executeStatement statement => (splitName statement.name).1 = some space.name
  | .set target _ | .setTyped _ target _ | .reset target | .toggle target => target.IsIn space
  | .attach serial _ | .attachAnyway serial _ => serial = space.serial
  | _ => False

/-- Whether an operation on a namespace has its queue replayed: it gives a handler to a detached
namespace. -/
def Operation.Replays (space : Namespace κ) (operation : Operation κ) : Prop :=
  space.handler = none ∧ ∃ handler, operation.Attaches space.serial (some handler)

namespace Scope

variable {scope : Scope κ} {space now owner : Namespace κ} {change : Namespace κ → Namespace κ}

/-- What an action comes to wherever a namespace stands: its answer, what becomes of the namespace,
and the calls that are made. -/
structure Yields {α : Type} (scope : Scope κ) (space : Namespace κ) (action : Action κ α)
    (answer : Except Fault α) (change : Namespace κ → Namespace κ) (made : List (Call κ)) :
    Prop where
  keeps : Namespace.KeepsShape change
  admits : scope.Admits (change space)
  reached : ∀ call ∈ made, scope.within call.space
  ends : ∀ console, scope.Hosts space console.registry →
    Ends action console fun result after => result = answer ∧
      after.registry = console.registry.update space.serial change ∧
      calls after.trace = calls console.trace ++ made

/-- An action comes to one and the same wherever a namespace stands that the scope admits. -/
def Local {α : Type} (scope : Scope κ) (space : Namespace κ) (action : Action κ α) : Prop :=
  scope.Admits space → ∃ answer change made, scope.Yields space action answer change made

section Parts

variable {α β : Type}

theorem Local.of_same {first second : Action κ α} (isLocal : scope.Local space second)
    (same : ∀ console, scope.Hosts space console.registry → first console = second console) :
    scope.Local space first := by
  intro admits
  obtain ⟨answer, change, made, yields⟩ := isLocal admits
  exact ⟨answer, change, made, yields.keeps, yields.admits, yields.reached, fun console hosts =>
    (Ends.congr (same console hosts)).mpr (yields.ends console hosts)⟩

/-- What is done with the registry is local if it comes to the same in all that host the
namespace. -/
theorem Local.of_registry {next : Registry κ → Action κ α} {action : Action κ α}
    (isLocal : scope.Local space action)
    (same : ∀ registry, scope.Hosts space registry → next registry = action) :
    scope.Local space (Action.registry >>= next) :=
  isLocal.of_same fun console hosts => by rw [registry_bind, same _ hosts]

theorem local_of_still {action : Action κ α} {answer : Except Fault α}
    (still : ∀ console, Ends action console fun result after => result = answer ∧
      after.registry = console.registry ∧ calls after.trace = calls console.trace) :
    scope.Local space action := by
  refine fun admits => ⟨answer, fun space => space, [], fun _ => rfl, admits,
    fun _ member => absurd member List.not_mem_nil, fun console _ => ?_⟩
  simp only [Registry.update_id, List.append_nil]
  exact still console

theorem local_pure (value : α) : scope.Local space (pure value) :=
  local_of_still fun _ => (ends_pure value).mpr ⟨rfl, rfl, rfl⟩

theorem local_throw (fault : Fault) : scope.Local space (throw fault : Action κ α) :=
  local_of_still fun _ => (ends_throw fault).mpr ⟨rfl, rfl, rfl⟩

theorem local_lift (result : Except Fault α) : scope.Local space (lift result) :=
  local_of_still fun _ => (ends_lift result).mpr ⟨rfl, rfl, rfl⟩

theorem local_record {event : Event κ} (quiet : event.call? = none) :
    scope.Local space (record event) :=
  local_of_still fun _ => (ends_record ..).mpr ⟨rfl, rfl, calls_tell quiet _⟩

theorem local_write (text : String) : scope.Local space (write text) :=
  local_record rfl

/-- A namespace may be changed as long as its queue does not lead out of the scope. -/
theorem local_update (keeps : Namespace.KeepsShape change)
    (queue : scope.Admits space → scope.replays →
      ∀ statement ∈ (change space).pending, scope.Covers statement) :
    scope.Local space (update space.serial change) :=
  fun admits => ⟨.ok (), change, [], keeps, admits.of_shape (keeps space) (queue admits),
    fun _ member => absurd member List.not_mem_nil,
    fun _ _ => (ends_update ..).mpr ⟨rfl, rfl, (List.append_nil _).symm⟩⟩

/-- A call within the scope is made wherever the namespace stands, and ends alike. -/
theorem local_run {run : Runner κ} {call : Call κ} (steady : Steady run call)
    (inside : scope.within call.space) : scope.Local space (run call) := by
  intro admits
  obtain ⟨answer, ends⟩ := steady
  refine ⟨answer, fun space => space, [call], fun _ => rfl, admits, fun other member => ?_,
    fun console _ => ?_⟩
  · rw [List.mem_singleton.mp member]
    exact inside
  · apply (ends console).mono
    rintro result after ⟨rfl, told⟩
    refine ⟨rfl, told.registry.trans (Registry.update_id _ _).symm, ?_⟩
    rw [calls, told.chronicle fun event record =>
      Event.call?_of_isTalk event (Event.isTalk_of_isRecord event record)]
    exact calls_calling console call

/-- Actions in sequence are local where each of them is, however the namespace stands by then. -/
theorem Local.bind {action : Action κ α} {next : α → Action κ β}
    (first : scope.Local space action)
    (second : ∀ value now, now.shape = space.shape → scope.Local now (next value)) :
    scope.Local space (action >>= next) := by
  intro admits
  obtain ⟨answer, change, made, yields⟩ := first admits
  cases answer with
  | error fault =>
    refine ⟨.error fault, change, made, yields.keeps, yields.admits, yields.reached,
      fun console hosts => (ends_bind ..).mpr ?_⟩
    apply (yields.ends console hosts).mono
    rintro result after ⟨rfl, ended⟩
    exact ⟨rfl, ended⟩
  | ok value =>
    obtain ⟨answer, later, more, follows⟩ :=
      second value (change space) (yields.keeps space) yields.admits
    refine ⟨answer, fun space => later (change space), made ++ more,
      fun space => (follows.keeps _).trans (yields.keeps space), follows.admits,
      fun call member => ?_, fun console hosts => (ends_bind ..).mpr ?_⟩
    · rcases List.mem_append.mp member with early | late
      · exact yields.reached call early
      · exact follows.reached call late
    · apply (yields.ends console hosts).mono
      rintro result middle ⟨rfl, registry, called⟩
      have hosted : scope.Hosts (change space) middle.registry :=
        registry ▸ hosts.update yields.keeps
      apply (follows.ends middle hosted).mono
      rintro result after ⟨rfl, registryAfter, calledAfter⟩
      refine ⟨rfl, ?_, by rw [calledAfter, called, List.append_assoc]⟩
      rw [registryAfter, registry, yields.keeps.serial,
        Registry.update_update _ _ yields.keeps.serial follows.keeps.serial]

theorem Local.map {action : Action κ α} (isLocal : scope.Local space action) (change : α → β) :
    scope.Local space (change <$> action) :=
  (isLocal.bind fun value _ _ => local_pure (change value)).of_same fun _ _ => by
    rw [map_eq_pure_bind]

/-- To report console errors depends on no more than the action that they come from. -/
theorem Local.reporting {otherwise : α} {action : Action κ α} (isLocal : scope.Local space action) :
    scope.Local space (reporting otherwise action) := by
  intro admits
  obtain ⟨answer, change, made, yields⟩ := isLocal admits
  -- The answer is fixed before a console is given, and so is whether it is an error to report.
  suffices reported : ∃ reply, ∀ console, scope.Hosts space console.registry →
      Ends (CommandConsole.Action.reporting otherwise action) console fun result after =>
        result = reply ∧ after.registry = console.registry.update space.serial change ∧
          calls after.trace = calls console.trace ++ made by
    obtain ⟨reply, ends⟩ := reported
    exact ⟨reply, change, made, yields.keeps, yields.admits, yields.reached, ends⟩
  simp only [ends_reporting]
  by_cases isConsole : ∃ cause, answer = .error (.console cause)
  · obtain ⟨cause, rfl⟩ := isConsole
    refine ⟨.ok otherwise, fun console hosts => (yields.ends console hosts).mono ?_⟩
    rintro result after ⟨rfl, registry, called⟩
    exact ⟨rfl, registry, (calls_tell rfl after).trans called⟩
  · refine ⟨answer, fun console hosts => (yields.ends console hosts).mono ?_⟩
    rintro result after ⟨rfl, ended⟩
    split
    · exact absurd ⟨_, rfl⟩ isConsole
    · exact ⟨rfl, ended⟩

end Parts

section Operations

variable {run : Runner κ} {handler : Handler} {isReplay : Bool} {statement : Statement}

theorem local_offer (same : space.serial = now.serial)
    (covers : scope.Admits now → scope.Covers statement) :
    scope.Local now (offer space statement) := by
  intro admits
  refine ⟨.ok (now.offer statement).1, fun space => (space.offer statement).2, [],
    Namespace.keepsShape_offer statement,
    admits.of_shape (Namespace.keepsShape_offer statement now) ?_,
    fun _ member => absurd member List.not_mem_nil, fun console hosts => ?_⟩
  · intro replays other queued
    simp only [Namespace.offer] at queued
    split at queued
    · exact admits.queue replays other queued
    · rcases List.mem_append.mp queued with earlier | last
      · exact admits.queue replays other earlier
      · exact List.mem_singleton.mp last ▸ covers admits
  · simp only [offer, ends_bind, ends_registry, same, hosts.space?, ends_update, ends_record,
      ends_pure]
    exact ⟨trivial, rfl, (calls_tell rfl _).trans (List.append_nil _).symm⟩

theorem local_defer (same : now.shape = space.shape) (name : String) (arguments : List String) :
    scope.Local now (defer space name arguments) := by
  have serial : space.serial = now.serial := (congrArg (·.serial) same).symm
  have named : space.name = now.name := (congrArg (·.name) same).symm
  refine (local_offer serial fun admits => ?_).bind fun _ _ _ => local_pure ()
  rw [named]
  exact admits.covers_qualify name arguments

theorem local_runCommand {command : Command κ}
    (steady : ∀ callback ∈ command.action,
      Steady run ⟨callback, owner.serial, command.name, handler, .command statement, isReplay⟩)
    (inside : scope.within owner.serial) :
    scope.Local now (runCommand run handler isReplay owner command statement) := by
  simp only [runCommand]
  refine (local_record rfl).bind fun _ _ _ => ?_
  cases action : command.action with
  | none => exact local_pure true
  | some callback =>
    refine (local_run (steady callback action) inside).bind fun handled _ _ => ?_
    split
    · exact local_pure true
    · split
      · exact (local_write _).bind fun _ _ _ => local_pure false
      · exact local_throw _

theorem local_notify {setting : Setting κ} {value : Value}
    (steady : ∀ callback ∈ setting.onChange,
      Steady run ⟨callback, owner.serial, setting.name, handler, .change value, isReplay⟩)
    (inside : scope.within owner.serial) :
    scope.Local now (notify run handler isReplay owner setting value) := by
  unfold notify
  cases onChange : setting.onChange with
  | none => exact local_pure ()
  | some callback =>
    exact (local_run (steady callback onChange) inside).bind fun _ _ _ => local_pure ()

theorem local_valueOf (owner : Namespace κ) (setting : Setting κ) (token : String) :
    scope.Local now (valueOf owner setting token) := by
  unfold valueOf
  split
  · exact local_pure _
  · exact local_throw _

/-- A change is told or queued, as the handler that the namespace has been found with says. -/
theorem local_announce {setting : Setting κ} {value : Value} {typed : Option String}
    (steady : ∀ handler, ∀ callback ∈ setting.onChange,
      Steady run ⟨callback, space.serial, setting.name, handler, .change value, false⟩)
    (inside : scope.within space.serial) (same : now.shape = space.shape) :
    scope.Local now (announce run space setting value typed) := by
  unfold announce
  split
  · exact local_notify (steady _) inside
  · split
    · exact local_defer same _ _
    · split
      · exact local_defer same _ _
      · exact local_throw _

variable (steady : scope.IsSteady run)

include steady

theorem local_assign (same : now.shape = space.shape) {setting : Setting κ}
    (found : space.find? setting.name = some (.setting setting)) (value : Value)
    (typed : Option String) : scope.Local now (assign run space setting value typed) := by
  intro admits
  suffices isLocal : scope.Local now (assign run space setting value typed) from isLocal admits
  have serial : space.serial = now.serial := (congrArg (·.serial) same).symm
  have inside : scope.within space.serial := serial ▸ admits.inside
  unfold assign
  split
  · exact local_throw _
  · split
    · exact local_pure false
    · rw [serial]
      refine (local_update (Namespace.keepsShape_assign _ _) fun admits => admits.queue).bind
        fun _ changed shape => ?_
      refine (local_record rfl).bind fun _ later told => ?_
      refine (local_announce (fun handler callback isCallback => ?_) inside
        ((told.trans shape).trans same)).bind fun _ _ _ => local_pure true
      exact steady.of_shape (same ▸ admits.known) inside (.setting setting) found
        ⟨rfl, rfl, isCallback⟩

theorem local_dispatch {entry : Entry κ} (found : space.find? entry.name = some entry)
    (statement : Statement) : scope.Local space (dispatch run space entry statement) := by
  intro admits
  suffices isLocal : scope.Local space (dispatch run space entry statement) from isLocal admits
  cases entry with
  | command command =>
    simp only [dispatch]
    split
    · exact (local_defer rfl _ _).bind fun _ _ _ => local_pure true
    · exact local_runCommand (fun callback isCallback => steady.of_shape admits.known admits.inside
        (.command command) found ⟨rfl, rfl, isCallback⟩) admits.inside
  | setting setting =>
    simp only [dispatch]
    split
    · exact (local_lift _).bind fun _ _ _ => (local_write _).bind fun _ _ _ => local_pure true
    · refine (local_valueOf space setting _).bind fun value now same => ?_
      exact (local_assign steady same found value _).bind fun _ _ _ => local_pure true
    · exact local_throw _

/-- A statement with a dotted name of a namespace is executed on that namespace alone. -/
theorem local_executeStatement (named : (splitName statement.name).1 = some space.name) :
    scope.Local space (executeStatement run statement) := by
  unfold executeStatement
  split
  · exact local_pure false
  · refine Local.reporting ?_
    simp only [resolve, bind_assoc]
    refine Local.of_registry ?_ fun registry hosts => by rw [hosts.resolve named]
    cases found : space.find? (splitName statement.name).2 with
    | none =>
      simp only [Namespace.lookup, found, Except.map, liftError]
      exact (local_throw _).of_same fun _ _ => rfl
    | some entry =>
      simp only [Namespace.lookup, found, Except.map, liftError, pure_bind]
      exact local_dispatch steady (Namespace.find?_ok found).2.2 statement

/-- What a queued statement names may have changed its value since, but not what is called. -/
theorem local_replay (handler : Handler) (covers : scope.Covers statement) :
    scope.Local space (replay run handler statement) := by
  cases named : scope.base.lookup statement.name with
  | error cause =>
    refine (local_throw (.console cause)).of_same fun console hosts => ?_
    simp only [replay, registry_bind, Registry.lookup_error_of_shapes hosts.shapes named]
    rfl
  | ok found =>
    obtain ⟨owner, entry⟩ := found
    have inside : scope.within owner.serial := covers owner entry named
    obtain ⟨isOwner, isEntry⟩ := Registry.lookup_ok named
    have steadily {call : Call κ} (made : call.space = owner.serial ∧ call.entry = entry.name ∧
        entry.callback? = some call.callback) : Steady run call :=
      steady.of_shape ⟨owner, isOwner, rfl⟩ inside entry isEntry made
    cases entry with
    | command command =>
      have isLocal : scope.Local space
          (do let _ ← runCommand run handler true owner command statement : Action κ Unit) :=
        (local_runCommand (fun callback isCallback => steadily ⟨rfl, rfl, isCallback⟩) inside).bind
          fun _ _ _ => local_pure ()
      refine isLocal.of_same fun console hosts => ?_
      obtain ⟨other, looked, serial, name⟩ := hosts.lookup_command named
      simp only [replay, registry_bind, looked, liftError, pure_bind, runCommand, serial, name]
    | setting setting =>
      cases onChange : setting.onChange with
      | none =>
        refine (local_pure ()).of_same fun console hosts => ?_
        obtain ⟨other, found, looked, -, -, -, -, still⟩ := hosts.lookup_setting named
        simp only [replay, registry_bind, looked, liftError, pure_bind, still, onChange,
          Option.isSome_none, Bool.false_eq_true, if_false]
      | some callback =>
        cases arguments : statement.arguments with
        | nil =>
          refine (local_throw .noArgument).of_same fun console hosts => ?_
          obtain ⟨other, found, looked, -, -, -, -, still⟩ := hosts.lookup_setting named
          simp only [replay, registry_bind, looked, liftError, pure_bind, still, onChange,
            Option.isSome_some, if_true, arguments]
        | cons token rest =>
          have isLocal : scope.Local space (do
              let value ← valueOf owner setting token
              notify run handler true owner setting value) :=
            (local_valueOf owner setting token).bind fun value _ _ =>
              local_notify (fun other isOther => steadily ⟨rfl, rfl, isOther⟩) inside
          refine isLocal.of_same fun console hosts => ?_
          obtain ⟨other, found, looked, serial, name, entryName, kind, still⟩ :=
            hosts.lookup_setting named
          simp only [replay, registry_bind, looked, liftError, pure_bind, still, onChange,
            Option.isSome_some, if_true, arguments, valueOf, notify, serial, name, entryName, kind]

theorem local_flush (replays : scope.replays) (rounds : Nat) :
    scope.Local space (flush run space.serial rounds) := by
  induction rounds generalizing space with
  | zero =>
    unfold flush
    refine Local.of_registry ?_ fun registry hosts => by rw [hosts.space?, Option.bind_some]
    split
    · exact local_pure ()
    · exact local_throw _
  | succ rounds ih =>
    intro admits
    suffices isLocal : scope.Local space (flush run space.serial (rounds + 1)) from isLocal admits
    unfold flush
    refine Local.of_registry ?_ fun registry hosts => by rw [hosts.space?, Option.bind_some]
    split
    · exact local_pure ()
    · rename_i handler statement due
      have covers : scope.Covers statement := by
        refine admits.queue replays statement ?_
        rw [(Namespace.pending_of_due due).2]
        exact List.mem_cons_self
      refine (local_update Namespace.keepsShape_dequeue fun admits replays other member =>
        admits.queue replays other (List.mem_of_mem_tail member)).bind fun _ taken shape => ?_
      refine (local_record rfl).bind fun _ told same => ?_
      refine (local_replay steady handler covers).reporting.bind fun _ replayed still => ?_
      have serial : replayed.serial = space.serial :=
        congrArg (·.serial) (still.trans (same.trans shape))
      exact serial ▸ ih

/-- Where a namespace gets a handler and had none, its queue is replayed. -/
theorem local_setHandler (handler : Option Handler)
    (replays : space.handler = none → handler.isSome → scope.replays) (rounds : Nat) :
    scope.Local space (setHandler run rounds space.serial handler) := by
  unfold setHandler
  refine Local.of_registry ?_ fun registry hosts => by simp only [hosts.space?]; rfl
  refine (local_update (Namespace.keepsShape_handle handler) fun admits => admits.queue).bind
    fun _ handled shape => ?_
  refine (local_record rfl).bind fun _ told same => ?_
  have serial : told.serial = space.serial := congrArg (·.serial) (same.trans shape)
  split
  · rename_i anew
    simp only [Bool.and_eq_true, Option.isNone_iff_eq_none] at anew
    exact serial ▸ local_flush steady (replays anew.1 anew.2) _
  · exact local_pure ()

theorem local_attach (handler : Option Handler)
    (replays : space.handler = none → handler.isSome → scope.replays) (rounds : Nat) :
    scope.Local space (attach run rounds space.serial handler) := by
  unfold attach
  refine Local.of_registry ?_ fun registry hosts => by simp only [hosts.space?]; rfl
  split
  · exact local_setHandler steady handler replays rounds
  · exact (local_update (Namespace.keepsShape_handle handler) fun admits => admits.queue).bind
      fun _ _ _ => local_record rfl

theorem local_assignPayload (same : now.shape = space.shape) {setting : Setting κ}
    (found : space.find? setting.name = some (.setting setting)) (payload : Payload) :
    scope.Local now (assignPayload run space setting payload) := by
  unfold assignPayload
  split
  · exact local_assign steady same found _ _
  · split
    · exact local_assign steady same found _ _
    · exact local_throw _

end Operations

section Targets

variable {run : Runner κ}

/-- What is done with the setting that a target points at is local where it is for each setting of
the namespace. -/
theorem local_pointing {α : Type}
    {find : Registry κ → Except Fault (Namespace κ × Setting κ)}
    {found : Except Fault (Namespace κ × Setting κ)}
    (same : ∀ registry, scope.Hosts space registry → find registry = found)
    (points : ∀ owner setting, found = .ok (owner, setting) →
      owner = space ∧ space.find? setting.name = some (.setting setting))
    {next : Namespace κ × Setting κ → Action κ α}
    (follows : ∀ setting, space.find? setting.name = some (.setting setting) →
      scope.Local space (next (space, setting))) :
    scope.Local space (do
      let found ← lift (find (← Action.registry))
      next found) := by
  refine Local.of_registry ?_ fun registry hosts => by rw [same registry hosts]
  cases found with
  | error fault => exact (local_throw fault).of_same fun _ _ => rfl
  | ok found =>
    obtain ⟨isSpace, inside⟩ := points found.1 found.2 rfl
    simp only [lift, pure_bind]
    rw [← Prod.mk.eta (p := found), isSpace]
    exact follows found.2 inside

theorem local_target {α : Type} {target : Target} (inside : target.IsIn space)
    {next : Namespace κ × Setting κ → Action κ α}
    (follows : ∀ setting, space.find? setting.name = some (.setting setting) →
      scope.Local space (next (space, setting))) :
    scope.Local space (do
      let found ← lift ((← Action.registry).target target)
      next found) :=
  local_pointing (fun _ hosts => hosts.target inside) (fun _ _ => Namespace.target_ok) follows

theorem local_typed {α : Type} (kind : Kind) {target : Target} (inside : target.IsIn space)
    {next : Namespace κ × Setting κ → Action κ α}
    (follows : ∀ setting, space.find? setting.name = some (.setting setting) →
      scope.Local space (next (space, setting))) :
    scope.Local space (do
      let found ← lift ((← Action.registry).typed kind target)
      next found) := by
  refine local_pointing (fun registry hosts => by rw [Registry.typed, hosts.target inside]) ?_
    follows
  intro owner setting found
  split at found
  · cases found
  · rename_i isFound
    split at found
    · cases found
      exact Namespace.target_ok isFound
    · cases found

variable (steady : scope.IsSteady run)

include steady

theorem local_toggle {target : Target} (inside : target.IsIn space) :
    scope.Local space (toggle run target) := by
  refine local_typed .boolean inside fun setting found => ?_
  refine (local_assign steady rfl found _ none).bind fun _ now same => ?_
  have serial : space.serial = now.serial := (congrArg (·.serial) same).symm
  have still : (Target.kept space.serial setting.name).IsIn now := serial
  refine Local.of_registry ?_ fun registry hosts => by rw [Registry.get, hosts.target still]
  exact (local_lift _).bind fun _ _ _ => local_pure _

/-- Whatever is carried out on a namespace is local to it. -/
theorem local_carryOut {operation : Operation κ} (isOn : operation.IsOn space)
    (replays : operation.Replays space → scope.replays) (rounds : Nat) (call : Option (Call κ)) :
    scope.Local space (carryOut run rounds call operation) := by
  cases operation with
  | execute line => exact (local_executeStatement steady isOn).map _
  | executeStatement statement => exact (local_executeStatement steady isOn).map _
  | set target payload =>
    exact Local.map (local_target isOn fun _ found => local_assignPayload steady rfl found _) _
  | setTyped kind target payload =>
    exact Local.map (local_typed kind isOn fun _ found => local_assignPayload steady rfl found _) _
  | reset target =>
    exact Local.map (local_target isOn fun _ found => local_assign steady rfl found _ _) _
  | toggle target => exact (local_toggle steady isOn).map _
  | attach serial handler =>
    obtain rfl : serial = space.serial := isOn
    refine (local_attach steady handler (fun detached attached => ?_) rounds).bind
      fun _ _ _ => local_pure _
    obtain ⟨next, rfl⟩ := Option.isSome_iff_exists.mp attached
    exact replays ⟨detached, next, .inl rfl⟩
  | attachAnyway serial handler =>
    obtain rfl : serial = space.serial := isOn
    refine (local_setHandler steady handler (fun detached attached => ?_) rounds).bind
      fun _ _ _ => local_pure _
    obtain ⟨next, rfl⟩ := Option.isSome_iff_exists.mp attached
    exact replays ⟨detached, next, .inr rfl⟩
  | executeArguments | enqueue | create | teardown | loads | load | save | setSavePath | describe
  | resolve | write | note | look => exact isOn.elim

theorem local_perform {operation : Operation κ} (isOn : operation.IsOn space)
    (replays : operation.Replays space → scope.replays) (rounds : Nat) (call : Option (Call κ)) :
    scope.Local space (perform run rounds call operation) := by
  intro admits
  obtain ⟨answer, change, made, yields⟩ := local_carryOut steady isOn replays rounds call admits
  refine ⟨.ok (.ofResult answer), change, made, yields.keeps, yields.admits, yields.reached,
    fun console hosts => ends_perform.mpr ?_⟩
  apply (yields.ends (console.tell (.asked call operation)) hosts).mono
  rintro result after ⟨rfl, registry, called⟩
  exact ⟨rfl, registry, (calls_tell rfl after).trans (called.trans (by rw [calls_tell rfl]))⟩

end Targets

end Scope

end CommandConsole
