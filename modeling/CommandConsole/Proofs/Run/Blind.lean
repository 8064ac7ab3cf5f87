import CommandConsole.Proofs.Run.Reachable

set_option autoImplicit false

/-!
What nobody can see. Callbacks are told nothing of what the host has asked for; consoles that differ
in that alone resemble each other. Main statement: where callbacks do the same on consoles that
resemble each other, so does every operation, however deep callbacks nest (`isBlind_perform`,
`isBlind_runWithin`).
-/
namespace CommandConsole

open CommandConsole.Action

variable {κ α β : Type}

/-- Whether an event is told within an operation of the host, other than that the host has asked for
it and been answered. -/
def Event.isInner : Event κ → Bool
  | asked none _ | answered none _ _ => false
  | _ => true

/-- Consoles that only differ in what the host has asked for and been answered. -/
structure Console.Resembles (first second : Console κ) : Prop where
  config : first.config = second.config
  registry : first.registry = second.registry
  storage : first.storage = second.storage
  trace : first.trace.filter Event.isInner = second.trace.filter Event.isInner

/-- Callbacks that do the same on consoles that resemble each other: they may remember everything
but what the host has asked for. -/
def Conduct.IsBlind (conduct : Conduct κ) : Prop :=
  ∀ first second : Console κ, first.Resembles second → conduct first = conduct second

namespace Console.Resembles

variable {first second third : Console κ}

theorem symm (resembles : first.Resembles second) : second.Resembles first :=
  ⟨resembles.config.symm, resembles.registry.symm, resembles.storage.symm, resembles.trace.symm⟩

theorem trans (resembles : first.Resembles second) (other : second.Resembles third) :
    first.Resembles third :=
  ⟨resembles.config.trans other.config, resembles.registry.trans other.registry,
    resembles.storage.trans other.storage, resembles.trace.trans other.trace⟩

theorem tell (resembles : first.Resembles second) (event : Event κ) :
    (first.tell event).Resembles (second.tell event) where
  config := resembles.config
  registry := resembles.registry
  storage := resembles.storage
  trace := by simp only [Console.tell, List.filter_cons, resembles.trace]

/-- What the host asks for makes no difference. -/
theorem frame (console : Console κ) {event : Event κ} (outer : event.isInner = false) :
    (console.tell event).Resembles console where
  config := rfl
  registry := rfl
  storage := rfl
  trace := by simp only [Console.tell, List.filter_cons, outer, Bool.false_eq_true, if_false]

theorem change (resembles : first.Resembles second) (space : Nat)
    (change : Namespace κ → Namespace κ) :
    (first.change space change).Resembles (second.change space change) := by
  rw [Console.change, Console.change, resembles.registry]
  exact ⟨resembles.config, rfl, resembles.storage, resembles.trace⟩

end Console.Resembles

namespace Action

/-- Two actions end with one result, on consoles that resemble each other. -/
structure SameEnds (action other : Action κ α) (first second : Console κ) : Prop where
  result : action.result first = other.result second
  after : (action.after first).Resembles (other.after second)

/-- An action that ends in the same way on consoles that resemble each other. -/
def IsBlind (action : Action κ α) : Prop :=
  ∀ first second : Console κ, first.Resembles second → SameEnds action action first second

section Rules

variable {action : Action κ α} {next : α → Action κ β}

theorem isBlind_pure (value : α) : IsBlind (κ := κ) (pure value) :=
  fun _ _ resembles => ⟨rfl, resembles⟩

theorem isBlind_throw (fault : Fault) : IsBlind (κ := κ) (α := α) (throw fault) :=
  fun _ _ resembles => ⟨rfl, resembles⟩

theorem isBlind_record (event : Event κ) : IsBlind (record event) :=
  fun _ _ resembles => ⟨rfl, resembles.tell event⟩

theorem isBlind_write (text : String) : IsBlind (κ := κ) (write text) := isBlind_record _

theorem isBlind_update (space : Nat) (change : Namespace κ → Namespace κ) :
    IsBlind (update space change) :=
  fun _ _ resembles => ⟨rfl, resembles.change space change⟩

theorem isBlind_registry : IsBlind (registry (κ := κ)) :=
  fun _ _ resembles => ⟨congrArg Except.ok resembles.registry, resembles⟩

theorem isBlind_lift (result : Except Fault α) : IsBlind (κ := κ) (lift result) := by
  cases result with
  | ok value => exact isBlind_pure value
  | error fault => exact isBlind_throw fault

theorem isBlind_liftError (result : Except ConsoleError α) :
    IsBlind (κ := κ) (liftError result) := by
  cases result with
  | ok value => exact isBlind_pure value
  | error cause => exact isBlind_throw _

theorem IsBlind.bind (blind : IsBlind action) (others : ∀ value, IsBlind (next value)) :
    IsBlind (action >>= next) := by
  intro first second resembles
  obtain ⟨result, after⟩ := blind first second resembles
  refine ⟨?_, ?_⟩
  · rw [result_bind, result_bind, ← result]
    cases action.result first with
    | ok value => exact (others value _ _ after).result
    | error fault => rfl
  · rw [after_bind, after_bind, ← result]
    cases action.result first with
    | ok value => exact (others value _ _ after).after
    | error fault => exact after

theorem IsBlind.map (blind : IsBlind action) (change : α → β) : IsBlind (change <$> action) :=
  blind.bind fun value => isBlind_pure (change value)

theorem IsBlind.tryCatch (blind : IsBlind action) {handle : Fault → Action κ α}
    (others : ∀ fault, IsBlind (handle fault)) : IsBlind (tryCatch action handle) := by
  intro first second resembles
  obtain ⟨result, after⟩ := blind first second resembles
  refine ⟨?_, ?_⟩
  · rw [result_tryCatch, result_tryCatch, ← result]
    cases action.result first with
    | ok value => rfl
    | error fault => exact (others fault _ _ after).result
  · rw [after_tryCatch, after_tryCatch, ← result]
    cases action.result first with
    | ok value => exact after
    | error fault => exact (others fault _ _ after).after

theorem IsBlind.reporting (blind : IsBlind action) (otherwise : α) :
    IsBlind (reporting otherwise action) := by
  refine blind.tryCatch fun fault => ?_
  split
  · exact (isBlind_write _).bind fun _ => isBlind_pure _
  · exact isBlind_throw _

theorem IsBlind.replying {action : Action κ (Reply κ)} (blind : IsBlind action) :
    IsBlind (replying action) :=
  blind.tryCatch fun _ => isBlind_pure _

/-- An action that begins by reading what consoles that resemble each other share. -/
theorem IsBlind.get {next : Console κ → Action κ β}
    (same : ∀ first second : Console κ, first.Resembles second →
      SameEnds (next first) (next second) first second) :
    IsBlind (get >>= next) := by
  intro first second resembles
  exact ⟨(same first second resembles).result, (same first second resembles).after⟩

end Rules

end Action

section Operations

variable {run : Runner κ} (blind : ∀ call, IsBlind (run call))

theorem isBlind_offer (space : Namespace κ) (statement : Statement) :
    IsBlind (offer space statement) := by
  refine isBlind_registry.bind fun registry => ?_
  split
  · exact isBlind_pure _
  · exact (isBlind_update _ _).bind fun _ => (isBlind_record _).bind fun _ => isBlind_pure _

theorem isBlind_defer (space : Namespace κ) (name : String) (arguments : List String) :
    IsBlind (defer space name arguments) :=
  (isBlind_offer _ _).bind fun _ => isBlind_pure _

theorem isBlind_valueOf (space : Namespace κ) (setting : Setting κ) (token : String) :
    IsBlind (valueOf space setting token) := by
  unfold valueOf
  split
  · exact isBlind_pure _
  · exact isBlind_throw _

theorem isBlind_resolve (token : String) : IsBlind (resolve (κ := κ) token) := by
  refine isBlind_registry.bind fun registry => (isBlind_liftError _).bind fun resolution => ?_
  split
  · exact (isBlind_lift _).bind fun _ => (isBlind_write _).bind fun _ => isBlind_pure _
  · exact isBlind_pure _

theorem isBlind_create (declaration : NamespaceDeclaration (Callback κ)) :
    IsBlind (create declaration) := by
  refine IsBlind.get fun first second resembles => ?_
  rw [resembles.registry, resembles.config]
  cases second.registry.declared second.config declaration with
  | error fault => exact ⟨rfl, resembles⟩
  | ok space =>
    have added : Console.Resembles { first with
        config := second.config, registry := second.registry.add space }
        { second with registry := second.registry.add space } :=
      ⟨rfl, rfl, resembles.storage, resembles.trace⟩
    exact ⟨rfl, added.tell (.created space.serial declaration)⟩

theorem isBlind_teardown : IsBlind (teardown (κ := κ)) := by
  intro first second resembles
  have retired : Console.Resembles { first with registry := first.registry.retire }
      { second with registry := second.registry.retire } :=
    ⟨resembles.config, congrArg Registry.retire resembles.registry, resembles.storage,
      resembles.trace⟩
  exact ⟨rfl, retired.tell .retired⟩

theorem isBlind_save (path : String) : IsBlind (save (κ := κ) path) := by
  refine isBlind_registry.bind fun registry => (isBlind_lift _).bind fun content =>
    (isBlind_record _).bind fun _ => IsBlind.get fun first second resembles => ?_
  rw [resembles.storage, resembles.registry]
  split
  · exact ⟨rfl, resembles⟩
  · exact ⟨rfl, resembles⟩
  · rename_i storage _
    have saved : Console.Resembles { first with registry := second.registry, storage := storage }
        { second with storage := storage } := ⟨resembles.config, rfl, rfl, resembles.trace⟩
    exact ⟨rfl, saved⟩

theorem isBlind_describe (token : String) : IsBlind (describe (κ := κ) token) :=
  isBlind_registry.bind fun _ => (isBlind_liftError _).bind fun _ =>
    (isBlind_lift _).bind fun _ => isBlind_write _

include blind

theorem isBlind_runCommand (handler : Handler) (isReplay : Bool) (space : Namespace κ)
    (command : Command κ) (statement : Statement) :
    IsBlind (runCommand run handler isReplay space command statement) := by
  refine (isBlind_record _).bind fun _ => ?_
  split
  · exact isBlind_pure _
  · refine (blind _).bind fun handled => ?_
    split
    · exact isBlind_pure _
    · split
      · exact (isBlind_write _).bind fun _ => isBlind_pure _
      · exact isBlind_throw _

theorem isBlind_notify (handler : Handler) (isReplay : Bool) (space : Namespace κ)
    (setting : Setting κ) (value : Value) :
    IsBlind (notify run handler isReplay space setting value) := by
  unfold notify
  split
  · exact isBlind_pure _
  · exact (blind _).bind fun _ => isBlind_pure _

theorem isBlind_announce (space : Namespace κ) (setting : Setting κ) (value : Value)
    (typed : Option String) : IsBlind (announce run space setting value typed) := by
  unfold announce
  split
  · exact isBlind_notify blind _ _ _ _ _
  · split
    · exact isBlind_defer _ _ _
    · split
      · exact isBlind_defer _ _ _
      · exact isBlind_throw _

theorem isBlind_assign (space : Namespace κ) (setting : Setting κ) (value : Value)
    (typed : Option String) : IsBlind (assign run space setting value typed) := by
  unfold assign
  split
  · exact isBlind_throw _
  · split
    · exact isBlind_pure _
    · exact (isBlind_update _ _).bind fun _ => (isBlind_record _).bind fun _ =>
        (isBlind_announce blind _ _ _ _).bind fun _ => isBlind_pure _

theorem isBlind_dispatch (space : Namespace κ) (entry : Entry κ) (statement : Statement) :
    IsBlind (dispatch run space entry statement) := by
  unfold dispatch
  split
  · split
    · exact (isBlind_defer _ _ _).bind fun _ => isBlind_pure _
    · exact isBlind_runCommand blind _ _ _ _ _
  · split
    · exact (isBlind_lift _).bind fun _ => (isBlind_write _).bind fun _ => isBlind_pure _
    · exact (isBlind_valueOf _ _ _).bind fun _ => (isBlind_assign blind _ _ _ _).bind fun _ =>
        isBlind_pure _
    · exact isBlind_throw _

theorem isBlind_executeStatement (statement : Statement) :
    IsBlind (executeStatement run statement) := by
  unfold executeStatement
  split
  · exact isBlind_pure _
  · refine IsBlind.reporting ((isBlind_resolve _).bind fun resolution => ?_) _
    split
    · exact isBlind_pure _
    · exact isBlind_dispatch blind _ _ _

theorem isBlind_executeEach (statements : List Statement) :
    IsBlind (executeEach run statements) := by
  induction statements with
  | nil => exact isBlind_pure _
  | cons statement rest ih => exact (isBlind_executeStatement blind _).bind fun _ => ih

theorem isBlind_executeLines (lines : List String) : IsBlind (executeLines run lines) := by
  induction lines with
  | nil => exact isBlind_pure _
  | cons line rest ih =>
    unfold executeLines
    simp only
    split
    · exact ih
    · exact (isBlind_executeStatement blind _).bind fun _ => ih.bind fun _ => isBlind_pure _

theorem isBlind_load (paths : List String) : IsBlind (load run paths) := by
  induction paths with
  | nil => exact isBlind_pure _
  | cons path rest ih =>
    unfold load
    refine (isBlind_record _).bind fun _ => IsBlind.get fun first second resembles => ?_
    rw [resembles.storage]
    split
    · exact isBlind_throw _ first second resembles
    · exact ((isBlind_write _).bind fun _ => ih) first second resembles
    · split
      · exact isBlind_throw _ first second resembles
      · exact ((isBlind_executeLines blind _).bind fun _ => ih.bind fun _ => isBlind_pure _)
          first second resembles

theorem isBlind_replay (handler : Handler) (statement : Statement) :
    IsBlind (replay run handler statement) := by
  refine isBlind_registry.bind fun registry => (isBlind_liftError _).bind fun found => ?_
  split
  · exact (isBlind_runCommand blind _ _ _ _ _).bind fun _ => isBlind_pure _
  · split
    · split
      · exact isBlind_throw _
      · exact (isBlind_valueOf _ _ _).bind fun _ => isBlind_notify blind _ _ _ _ _
    · exact isBlind_pure _

theorem isBlind_flush (space rounds : Nat) : IsBlind (flush run space rounds) := by
  induction rounds with
  | zero =>
    unfold flush
    refine isBlind_registry.bind fun registry => ?_
    split
    · exact isBlind_pure _
    · exact isBlind_throw _
  | succ rounds ih =>
    unfold flush
    refine isBlind_registry.bind fun registry => ?_
    split
    · exact isBlind_pure _
    · exact (isBlind_update _ _).bind fun _ => (isBlind_record _).bind fun _ =>
        ((isBlind_replay blind _ _).reporting _).bind fun _ => ih

theorem isBlind_setHandler (rounds space : Nat) (handler : Option Handler) :
    IsBlind (setHandler run rounds space handler) := by
  refine isBlind_registry.bind fun registry => ?_
  split
  · exact isBlind_pure _
  · refine (isBlind_update _ _).bind fun _ => (isBlind_record _).bind fun _ => ?_
    split
    · exact isBlind_flush blind _ _
    · exact isBlind_pure _

theorem isBlind_attach (rounds space : Nat) (handler : Option Handler) :
    IsBlind (attach run rounds space handler) := by
  refine isBlind_registry.bind fun registry => ?_
  split
  · exact isBlind_pure _
  · split
    · exact isBlind_setHandler blind _ _ _
    · exact (isBlind_update _ _).bind fun _ => isBlind_record _

theorem isBlind_assignPayload (space : Namespace κ) (setting : Setting κ) (payload : Payload) :
    IsBlind (assignPayload run space setting payload) := by
  unfold assignPayload
  split
  · exact isBlind_assign blind _ _ _ _
  · split
    · exact isBlind_assign blind _ _ _ _
    · exact isBlind_throw _

omit blind in
/-- What is looked up in the registry is the same, and so is what is done with it. -/
theorem isBlind_pointing {look : Registry κ → Except Fault (Namespace κ × Setting κ)}
    {next : Namespace κ × Setting κ → Action κ β} (others : ∀ found, IsBlind (next found)) :
    IsBlind (do let found ← lift (look (← registry)); next found) :=
  isBlind_registry.bind fun _ => (isBlind_lift _).bind others

theorem isBlind_toggle (target : Target) : IsBlind (toggle run target) :=
  isBlind_pointing fun _ => (isBlind_assign blind _ _ _ _).bind fun _ =>
    isBlind_registry.bind fun _ => (isBlind_lift _).bind fun _ => isBlind_pure _

theorem isBlind_setTyped (kind : Kind) (target : Target) (payload : Payload) :
    IsBlind (setTyped run kind target payload) :=
  isBlind_pointing fun _ => isBlind_assignPayload blind _ _ _

/-- Whatever is carried out ends in the same way, if callbacks do. -/
theorem isBlind_carryOut (rounds : Nat) (call : Option (Call κ)) (operation : Operation κ) :
    IsBlind (carryOut run rounds call operation) := by
  cases operation with
  | execute line => exact (isBlind_executeStatement blind _).map _
  | executeStatement statement => exact (isBlind_executeStatement blind _).map _
  | executeArguments arguments defaultLine =>
    exact ((isBlind_executeEach blind _).bind fun _ => isBlind_pure _).map _
  | set target payload =>
    exact IsBlind.map (isBlind_pointing fun _ => isBlind_assignPayload blind _ _ _) _
  | setTyped kind target payload => exact (isBlind_setTyped blind _ _ _).map _
  | reset target => exact IsBlind.map (isBlind_pointing fun _ => isBlind_assign blind _ _ _ _) _
  | toggle target => exact (isBlind_toggle blind _).map _
  | attach space handler => exact (isBlind_attach blind _ _ _).bind fun _ => isBlind_pure _
  | attachAnyway space handler =>
    exact (isBlind_setHandler blind _ _ _).bind fun _ => isBlind_pure _
  | enqueue space statement =>
    refine isBlind_registry.bind fun registry => ?_
    split
    · exact (isBlind_offer _ _).map _
    · exact isBlind_pure _
  | create declaration => exact (isBlind_create _).map _
  | teardown => exact isBlind_teardown.bind fun _ => isBlind_pure _
  | loads text => exact (isBlind_executeLines blind _).map _
  | load paths => exact (isBlind_load blind _).map _
  | save path => exact (isBlind_save _).map _
  | setSavePath path => exact (isBlind_setTyped blind _ _ _).bind fun _ => isBlind_pure _
  | describe token => exact (isBlind_describe _).bind fun _ => isBlind_pure _
  | resolve token => exact (isBlind_resolve _).map _
  | write text => exact (isBlind_write _).bind fun _ => isBlind_pure _
  | note text => exact (isBlind_record _).bind fun _ => isBlind_pure _
  | look => exact isBlind_registry.map _

theorem isBlind_perform (rounds : Nat) (call : Option (Call κ)) (operation : Operation κ) :
    IsBlind (perform run rounds call operation) :=
  (isBlind_record _).bind fun _ => (isBlind_carryOut blind _ _ _).replying.bind fun _ =>
    isBlind_registry.bind fun _ => (isBlind_record _).bind fun _ => isBlind_pure _

end Operations

section Callbacks

theorem isBlind_runScript {perform : Operation κ → Action κ (Reply κ)}
    (blind : ∀ operation, IsBlind (perform operation)) (script : Script κ) :
    IsBlind (runScript perform script) := by
  induction script with
  | done handled => exact isBlind_pure _
  | fail fault => exact isBlind_throw _
  | ask operation next ih =>
    rw [runScript]
    refine (blind operation).bind fun reply => ?_
    split
    · exact isBlind_throw _
    · exact ih _

theorem isBlind_calling (call : Call κ) {action : Action κ Bool} (blind : IsBlind action) :
    IsBlind (calling call action) :=
  isBlind_registry.bind fun _ => (isBlind_record _).bind fun _ =>
    (blind.bind fun _ => (isBlind_record _).bind fun _ => isBlind_pure _).tryCatch fun _ =>
      (isBlind_record _).bind fun _ => isBlind_throw _

/-- Callbacks that are blind end in the same way, however deep they nest. -/
theorem isBlind_runWithin {conduct : Conduct κ} (blind : conduct.IsBlind) (bound : Nat)
    (call : Call κ) : IsBlind (runWithin conduct bound call) := by
  induction bound generalizing call with
  | zero => exact isBlind_calling call (isBlind_throw _)
  | succ bound ih =>
    refine isBlind_calling call (IsBlind.get fun first second resembles => ?_)
    rw [blind first second resembles]
    exact isBlind_runScript (isBlind_perform ih bound (some call)) _ first second resembles

end Callbacks

end CommandConsole
