import CommandConsole.Proofs.Run.Boundary

set_option autoImplicit false

/-!
What is in progress while a run goes on. A callback is called by an operation that is in progress,
and an operation opens the files that it loads one after the other. Main statement: an operation
lasts while limits on what is in progress are kept, if the callbacks do (`Lasts.bind` and one lemma
for each operation).
-/
namespace CommandConsole

open CommandConsole.Action

variable {κ : Type}

/-- The operations in progress, innermost first, each with the file that it has opened last. -/
def inProgress : List (Event κ) → List (Option String)
  | [] => []
  | .asked _ _ :: earlier => none :: inProgress earlier
  | .answered _ _ _ :: earlier => (inProgress earlier).tail
  | .opened path :: earlier => (inProgress earlier).modifyHead fun _ => some path
  | _ :: earlier => inProgress earlier

/-- What had happened each time that a callback was called. -/
def callings : List (Event κ) → List (List (Event κ))
  | [] => []
  | .called _ _ :: earlier => earlier :: callings earlier
  | _ :: earlier => callings earlier

namespace Event

def isTaken : Event κ → Bool
  | taken _ _ => true
  | _ => false

def isExhausted : Event κ → Bool
  | ended _ (some .exhausted) => true
  | _ => false

/-- Whether an event matters to none of what is counted here. -/
def isOther : Event κ → Bool
  | asked _ _ | answered _ _ _ | called _ _ | ended _ _ | taken _ _ => false
  | _ => true

end Event

theorem callings_subset (events earlier : List (Event κ)) :
    callings earlier ⊆ callings (events ++ earlier) := by
  induction events with
  | nil => exact List.Subset.refl _
  | cons event rest ih =>
    cases event <;> first | exact ih | exact List.subset_cons_of_subset _ ih

/-- How many operations may be in progress whenever a callback is called, and how many statements
may be replayed, after what had happened before. -/
structure Limits (κ : Type) where
  past : List (Event κ)
  nested : Nat
  replays : Nat

namespace Limits

/-- What a trace tells does not go beyond the limits. -/
structure Kept (limits : Limits κ) (trace : List (Event κ)) : Prop where
  nested : ∀ earlier ∈ callings (since limits.past trace),
    (inProgress earlier).length ≤ limits.nested
  replays : (since limits.past trace).countP Event.isTaken ≤ limits.replays

instance (limits : Limits κ) (trace : List (Event κ)) : Decidable (limits.Kept trace) :=
  decidable_of_iff ((∀ earlier ∈ callings (since limits.past trace),
      (inProgress earlier).length ≤ limits.nested) ∧
        (since limits.past trace).countP Event.isTaken ≤ limits.replays)
    ⟨fun ⟨nested, replays⟩ => ⟨nested, replays⟩, fun kept => ⟨kept.nested, kept.replays⟩⟩

/-- A console where so many operations are in progress and the bound has not been reached while
the limits were kept. -/
structure Level (limits : Limits κ) (depth : Nat) (console : Console κ) : Prop where
  within : limits.past <:+ console.trace
  depth : (inProgress (since limits.past console.trace)).length = depth
  spared : limits.Kept console.trace →
    ∀ event ∈ since limits.past console.trace, event.isExhausted = false

/-- An action that does not reach the bound while the limits are kept. -/
def Lasts {α : Type} (limits : Limits κ) (depth : Nat) (action : Action κ α)
    (console : Console κ) : Prop :=
  limits.Level depth console → Ends action console fun result after =>
    limits.Level depth after ∧ console.trace <:+ after.trace ∧
      (limits.Kept after.trace → result ≠ .error .exhausted)

variable {limits : Limits κ} {depth : Nat} {console : Console κ}

theorem Kept.of_suffix {earlier later : List (Event κ)} (kept : limits.Kept later)
    (within : limits.past <:+ earlier) (suffix : earlier <:+ later) : limits.Kept earlier := by
  obtain ⟨events, rfl⟩ := suffix
  obtain ⟨nested, replays⟩ := kept
  rw [since_append within] at nested replays
  rw [List.countP_append] at replays
  exact ⟨fun called member => nested called (callings_subset _ _ member), by omega⟩

namespace Level

theorem told (level : limits.Level depth console) {event : Event κ} {height : Nat}
    (counted : (inProgress (event :: since limits.past console.trace)).length = height)
    (fine : limits.Kept console.trace → event.isExhausted = false) :
    limits.Level height (console.tell event) := by
  obtain ⟨within, -, spared⟩ := level
  refine ⟨within.trans (List.suffix_cons _ _), ?_, fun kept => ?_⟩
  · simpa only [Console.tell, since_cons within] using counted
  · have before := kept.of_suffix within (List.suffix_cons _ _)
    simp only [Console.tell, since_cons within, List.forall_mem_cons]
    exact ⟨fine before, spared before⟩

theorem other (level : limits.Level depth console) {event : Event κ} (other : event.isOther) :
    limits.Level depth (console.tell event) := by
  refine level.told ?_ fun _ => ?_
  · have counted := level.depth
    cases event <;> first | exact counted | cases other
    simpa only [inProgress, List.length_modifyHead] using counted
  · cases event <;> first | rfl | cases other

theorem change (level : limits.Level depth console) (space : Nat)
    (change : Namespace κ → Namespace κ) : limits.Level depth (console.change space change) :=
  ⟨level.within, level.depth, level.spared⟩

theorem asked (level : limits.Level depth console) (call : Option (Call κ))
    (operation : Operation κ) :
    limits.Level (depth + 1) (console.tell (.asked call operation)) :=
  level.told (congrArg (· + 1) level.depth) fun _ => rfl

theorem answered (level : limits.Level (depth + 1) console) (call : Option (Call κ))
    (reply : Reply κ) (registry : Registry κ) :
    limits.Level depth (console.tell (.answered call reply registry)) := by
  refine level.told ?_ fun _ => rfl
  rw [inProgress, List.length_tail, level.depth, Nat.add_sub_cancel]

theorem calling (level : limits.Level depth console) (call : Call κ) :
    limits.Level depth (console.calling call) :=
  level.told level.depth fun _ => rfl

theorem ended (level : limits.Level depth console) (call : Call κ) {fault : Option Fault}
    (fine : limits.Kept console.trace → fault ≠ some .exhausted) :
    limits.Level depth (console.tell (.ended call fault)) := by
  refine level.told level.depth fun kept => ?_
  have differs := fine kept
  cases fault with
  | none => rfl
  | some fault => cases fault <;> first | rfl | exact absurd rfl differs

theorem le_nested (level : limits.Level depth console) {call : Call κ}
    (kept : limits.Kept (console.calling call).trace) : depth ≤ limits.nested := by
  rw [← level.depth]
  apply kept.nested
  simp only [Console.calling, Console.tell, since_cons level.within]
  exact List.mem_cons_self

end Level

section Parts

variable {α β : Type}

theorem lasts_pure (value : α) : limits.Lasts depth (pure value) console :=
  fun level => ⟨level, List.suffix_refl _, fun _ same => by cases same⟩

theorem lasts_lift {result : Except Fault α} (other : result ≠ .error .exhausted) :
    limits.Lasts depth (lift result) console :=
  fun level => (ends_lift _).mpr ⟨level, List.suffix_refl _, fun _ => other⟩

theorem lasts_throw {fault : Fault} (other : fault ≠ .exhausted) :
    limits.Lasts depth (throw fault : Action κ α) console :=
  fun level => ⟨level, List.suffix_refl _, fun _ same => other (Except.error.inj same)⟩

theorem lasts_liftError (result : Except ConsoleError α) :
    limits.Lasts depth (liftError result) console := by
  cases result with
  | ok value => exact lasts_pure value
  | error cause => exact lasts_throw (by rintro ⟨⟩)

theorem lasts_record {event : Event κ} (other : event.isOther) :
    limits.Lasts depth (record event) console :=
  fun level => ⟨level.other other, List.suffix_cons _ _, fun _ same => by cases same⟩

theorem lasts_write (text : String) : limits.Lasts depth (write text) console :=
  lasts_record rfl

/-- What leaves the trace as it is. -/
theorem lasts_modify (change : Console κ → Console κ)
    (still : (change console).trace = console.trace) :
    limits.Lasts depth (modify change) console := by
  intro level
  change limits.Level depth (change console) ∧ console.trace <:+ (change console).trace ∧ _
  rw [still]
  refine ⟨⟨?_, ?_, ?_⟩, List.suffix_refl _, fun _ same => by cases same⟩
  all_goals rw [still]
  exacts [level.within, level.depth, level.spared]

theorem Lasts.bind {action : Action κ α} {next : α → Action κ β}
    (first : limits.Lasts depth action console)
    (second : ∀ value after, console.trace <:+ after.trace →
      limits.Lasts depth (next value) after) :
    limits.Lasts depth (action >>= next) console := by
  intro level
  rw [ends_bind]
  apply (first level).mono
  rintro result after ⟨still, suffix, spared⟩
  cases result with
  | error fault =>
    exact ⟨still, suffix, fun kept same => spared kept (congrArg _ (Except.error.inj same))⟩
  | ok value =>
    apply (second value after suffix still).mono
    rintro result final ⟨last, later, fine⟩
    exact ⟨last, suffix.trans later, fine⟩

theorem Lasts.reporting {action : Action κ α} (inner : limits.Lasts depth action console)
    (otherwise : α) : limits.Lasts depth (reporting otherwise action) console := by
  intro level
  rw [ends_reporting]
  apply (inner level).mono
  rintro result after ⟨still, suffix, spared⟩
  cases result with
  | ok value => exact ⟨still, suffix, spared⟩
  | error fault =>
    cases fault <;> first
      | exact ⟨still, suffix, spared⟩
      | exact ⟨still.other rfl, suffix.trans (List.suffix_cons _ _), fun _ same => by cases same⟩

theorem lasts_registry : limits.Lasts depth registry console :=
  fun level => ⟨level, List.suffix_refl _, fun _ same => by cases same⟩

theorem lasts_get : limits.Lasts depth get console :=
  fun level => ⟨level, List.suffix_refl _, fun _ same => by cases same⟩

theorem lasts_update (space : Nat) (change : Namespace κ → Namespace κ) :
    limits.Lasts depth (update space change) console :=
  lasts_modify _ rfl

theorem Lasts.map {action : Action κ α} (inner : limits.Lasts depth action console)
    (change : α → β) : limits.Lasts depth (do return change (← action)) console :=
  inner.bind fun _ _ _ => lasts_pure _

end Parts

section Results

variable {α β : Type}

theorem bind_ne_exhausted {first : Except Fault α} {next : α → Except Fault β}
    (one : first ≠ .error .exhausted) (other : ∀ value, next value ≠ .error .exhausted) :
    (first >>= next) ≠ .error .exhausted := by
  cases first with
  | ok value => exact other value
  | error fault => exact fun same => one (congrArg Except.error (Except.error.inj same))

theorem forM_ne_exhausted {check : α → Except Fault Unit}
    (each : ∀ item, check item ≠ .error .exhausted) (items : List α) :
    items.forM check ≠ .error .exhausted := by
  induction items with
  | nil => rintro ⟨⟩
  | cons item rest ih => exact bind_ne_exhausted (each item) fun _ => ih

theorem mapM_ne_exhausted {read : α → Except Fault β}
    (each : ∀ item, read item ≠ .error .exhausted) (items : List α) :
    items.mapM read ≠ .error .exhausted := by
  induction items with
  | nil => rintro ⟨⟩
  | cons item rest ih =>
    rw [List.mapM_cons]
    exact bind_ne_exhausted (each item) fun _ => bind_ne_exhausted ih fun _ same => by cases same

theorem map_ne_exhausted {result : Except Fault α} (other : result ≠ .error .exhausted)
    (change : α → β) : result.map change ≠ .error .exhausted := by
  cases result with
  | ok value => rintro ⟨⟩
  | error fault => exact fun same => other (congrArg Except.error (Except.error.inj same))

theorem target_ne_exhausted (registry : Registry κ) (target : Target) :
    registry.target target ≠ .error .exhausted := by
  unfold Registry.target
  repeat' split
  all_goals rintro ⟨⟩

theorem typed_ne_exhausted (registry : Registry κ) (kind : Kind) (target : Target) :
    registry.typed kind target ≠ .error .exhausted := by
  unfold Registry.typed
  split
  · rename_i fault failed
    exact fun same => target_ne_exhausted registry target (failed.trans same)
  · split <;> rintro ⟨⟩

theorem get_ne_exhausted (registry : Registry κ) (target : Target) :
    registry.get target ≠ .error .exhausted :=
  map_ne_exhausted (target_ne_exhausted registry target) _

theorem refusing_ne_exhausted (declaration : NamespaceDeclaration (Callback κ))
    (cause : ConsoleError) : declaration.refusing cause ≠ .exhausted := by
  unfold NamespaceDeclaration.refusing Fault.showing
  split <;> rintro ⟨⟩

theorem showing_ne_exhausted (data : Data) {fault : Fault} (other : fault ≠ .exhausted) :
    fault.showing data ≠ .exhausted := by
  unfold Fault.showing
  split
  · exact other
  · rintro ⟨⟩

theorem checkName_ne_exhausted {refused : Fault} (other : refused ≠ .exhausted) (name : Data) :
    checkName refused name ≠ .error .exhausted := by
  have fails : (.error refused : Except Fault Unit) ≠ .error .exhausted :=
    fun same => other (Except.error.inj same)
  unfold checkName
  split
  · exact fails
  · split
    · rintro ⟨⟩
    · exact fails
    · rintro ⟨⟩

theorem checkNames_ne_exhausted (declaration : NamespaceDeclaration (Callback κ)) :
    declaration.checkNames ≠ .error .exhausted := by
  unfold NamespaceDeclaration.checkNames
  refine bind_ne_exhausted (forM_ne_exhausted (fun name => checkName_ne_exhausted
    (showing_ne_exhausted _ (refusing_ne_exhausted _ _)) name) _) fun _ => ?_
  split
  · rintro ⟨⟩
  · dsimp only
    split
    · exact fun same => refusing_ne_exhausted _ _ (Except.error.inj same)
    · rintro ⟨⟩

theorem settingObject_ne_exhausted (declaration : NamespaceDeclaration (Callback κ))
    (setting : SettingDeclaration (Callback κ)) :
    declaration.settingObject setting ≠ .error .exhausted := by
  unfold NamespaceDeclaration.settingObject
  split
  · rintro ⟨⟩
  · intro same
    have other := refusing_ne_exhausted declaration
    replace same := Except.error.inj same
    split at same
    · exact showing_ne_exhausted _ (other _) same
    · exact other _ same

theorem declared_ne_exhausted (registry : Registry κ) (config : Config)
    (declaration : NamespaceDeclaration (Callback κ)) :
    registry.declared config declaration ≠ .error .exhausted := by
  have refused (cause : ConsoleError) :
      (.error (declaration.refusing cause) : Except Fault (Namespace κ)) ≠ .error .exhausted :=
    fun same => refusing_ne_exhausted _ _ (Except.error.inj same)
  unfold Registry.declared
  refine bind_ne_exhausted (checkName_ne_exhausted (refusing_ne_exhausted _ _) _) fun _ => ?_
  split
  · exact refused _
  · split
    · exact refused _
    · refine bind_ne_exhausted ?_ fun _ => bind_ne_exhausted ?_ fun _ same => by cases same
      · exact bind_ne_exhausted (checkNames_ne_exhausted _) fun _ =>
          bind_ne_exhausted (mapM_ne_exhausted (settingObject_ne_exhausted _) _)
            fun _ same => by cases same
      · unfold nameText
        split <;> rintro ⟨⟩

end Results

section Operations

variable {run : Runner κ} {space : Namespace κ}

theorem lasts_offer (statement : Statement) :
    limits.Lasts depth (offer space statement) console := by
  unfold offer
  refine lasts_registry.bind fun registry _ _ => ?_
  split
  · exact lasts_pure _
  · exact (lasts_update _ _).bind fun _ _ _ => (lasts_record rfl).bind fun _ _ _ => lasts_pure _

theorem lasts_defer (name : String) (arguments : List String) :
    limits.Lasts depth (defer space name arguments) console :=
  (lasts_offer _).bind fun _ _ _ => lasts_pure _

theorem lasts_resolve (token : String) : limits.Lasts depth (resolve token) console := by
  unfold resolve
  refine lasts_registry.bind fun registry _ _ => (lasts_liftError _).bind fun found _ _ => ?_
  cases found with
  | listing listed =>
    refine (lasts_lift ?_).bind fun _ _ _ => (lasts_write _).bind fun _ _ _ => lasts_pure _
    unfold Namespace.listing?
    split <;> rintro ⟨⟩
  | entry owner entry => exact lasts_pure _

theorem lasts_describe? (space : Namespace κ) (entry : Entry κ) :
    limits.Lasts depth (lift (space.describe? entry)) console := by
  refine lasts_lift ?_
  unfold Namespace.describe?
  split <;> rintro ⟨⟩

theorem lasts_describe (token : String) : limits.Lasts depth (describe token) console := by
  unfold describe
  exact lasts_registry.bind fun registry _ _ => (lasts_liftError _).bind fun found _ _ =>
    (lasts_describe? _ _).bind fun _ _ _ => lasts_write _

theorem lasts_valueOf (setting : Setting κ) (token : String) :
    limits.Lasts depth (valueOf space setting token) console := by
  unfold valueOf
  split
  · exact lasts_pure _
  · exact lasts_throw (by rintro ⟨⟩)

variable (calls : ∀ call (console : Console κ), limits.Lasts depth (run call) console)

include calls

theorem lasts_runCommand (handler : Handler) (isReplay : Bool) (command : Command κ)
    (statement : Statement) :
    limits.Lasts depth (runCommand run handler isReplay space command statement) console := by
  unfold runCommand
  refine (lasts_record rfl).bind fun _ _ _ => ?_
  split
  · exact lasts_pure _
  · refine (calls _ _).bind fun handled _ _ => ?_
    split
    · exact lasts_pure _
    · split
      · exact (lasts_write _).bind fun _ _ _ => lasts_pure _
      · exact lasts_throw (by rintro ⟨⟩)

theorem lasts_notify (handler : Handler) (isReplay : Bool) (setting : Setting κ) (value : Value) :
    limits.Lasts depth (notify run handler isReplay space setting value) console := by
  unfold notify
  split
  · exact lasts_pure _
  · exact (calls _ _).bind fun _ _ _ => lasts_pure _

theorem lasts_assign (setting : Setting κ) (value : Value) (typed : Option String) :
    limits.Lasts depth (assign run space setting value typed) console := by
  unfold assign
  split
  · exact lasts_throw (by rintro ⟨⟩)
  · split
    · exact lasts_pure _
    · refine (lasts_update _ _).bind fun _ _ _ => (lasts_record rfl).bind fun _ _ _ =>
        Lasts.bind ?_ fun _ _ _ => lasts_pure _
      unfold announce
      split
      · exact lasts_notify calls _ _ _ _
      · split
        · exact lasts_defer _ _
        · split
          · exact lasts_defer _ _
          · exact lasts_throw (by rintro ⟨⟩)

theorem lasts_dispatch (entry : Entry κ) (statement : Statement) :
    limits.Lasts depth (dispatch run space entry statement) console := by
  unfold dispatch
  split
  · split
    · exact (lasts_defer _ _).bind fun _ _ _ => lasts_pure _
    · exact lasts_runCommand calls _ _ _ _
  · split
    · exact (lasts_describe? _ _).bind fun _ _ _ => (lasts_write _).bind fun _ _ _ => lasts_pure _
    · exact (lasts_valueOf _ _).bind fun _ _ _ =>
        (lasts_assign calls _ _ _).bind fun _ _ _ => lasts_pure _
    · exact lasts_throw (by rintro ⟨⟩)

theorem lasts_executeStatement (statement : Statement) :
    limits.Lasts depth (executeStatement run statement) console := by
  unfold executeStatement
  split
  · exact lasts_pure _
  · refine Lasts.reporting ((lasts_resolve _).bind fun found _ _ => ?_) _
    cases found with
    | listing listed => exact lasts_pure _
    | entry owner entry => exact lasts_dispatch calls _ _

theorem lasts_executeEach (statements : List Statement) :
    limits.Lasts depth (executeEach run statements) console := by
  induction statements generalizing console with
  | nil => exact lasts_pure _
  | cons statement rest ih =>
    exact (lasts_executeStatement calls statement).bind fun _ _ _ => ih

theorem lasts_executeLines (lines : List String) :
    limits.Lasts depth (executeLines run lines) console := by
  induction lines generalizing console with
  | nil => exact lasts_pure _
  | cons line rest ih =>
    simp only [executeLines]
    split
    · exact ih
    · generalize Text.strip line = stripped
      exact (lasts_executeStatement calls (.parse stripped)).bind fun _ _ _ => ih.map _

theorem lasts_load (paths : List String) : limits.Lasts depth (load run paths) console := by
  induction paths generalizing console with
  | nil => exact lasts_pure _
  | cons path rest ih =>
    unfold load
    refine (lasts_record rfl).bind fun _ _ _ => lasts_get.bind fun _ _ _ => ?_
    split
    · exact lasts_throw (by rintro ⟨⟩)
    · exact (lasts_write _).bind fun _ _ _ => ih
    · split
      · exact lasts_throw (by rintro ⟨⟩)
      · exact (lasts_executeLines calls _).bind fun _ _ _ => ih.map _

theorem lasts_assignPayload (setting : Setting κ) (payload : Payload) :
    limits.Lasts depth (assignPayload run space setting payload) console := by
  unfold assignPayload
  split
  · exact lasts_assign calls _ _ _
  · split
    · exact lasts_assign calls _ _ _
    · exact lasts_throw (by rintro ⟨⟩)

theorem lasts_setValue (target : Target) (payload : Payload) :
    limits.Lasts depth (setValue run target payload) console :=
  lasts_registry.bind fun _ _ _ => (lasts_lift (target_ne_exhausted _ _)).bind fun _ _ _ =>
    lasts_assignPayload calls _ _

theorem lasts_setTyped (kind : Kind) (target : Target) (payload : Payload) :
    limits.Lasts depth (setTyped run kind target payload) console :=
  lasts_registry.bind fun _ _ _ => (lasts_lift (typed_ne_exhausted _ _ _)).bind fun _ _ _ =>
    lasts_assignPayload calls _ _

theorem lasts_reset (target : Target) : limits.Lasts depth (reset run target) console :=
  lasts_registry.bind fun _ _ _ => (lasts_lift (target_ne_exhausted _ _)).bind fun _ _ _ =>
    lasts_assign calls _ _ _

theorem lasts_toggle (target : Target) : limits.Lasts depth (toggle run target) console := by
  unfold toggle
  exact lasts_registry.bind fun _ _ _ => (lasts_lift (typed_ne_exhausted _ _ _)).bind fun _ _ _ =>
    (lasts_assign calls _ _ _).bind fun _ _ _ => lasts_registry.bind fun _ _ _ =>
      (lasts_lift (get_ne_exhausted _ _)).bind fun _ _ _ => lasts_pure _

theorem lasts_replay (handler : Handler) (statement : Statement) :
    limits.Lasts depth (replay run handler statement) console := by
  unfold replay
  refine lasts_registry.bind fun registry _ _ => (lasts_liftError _).bind fun found _ _ => ?_
  split
  · exact (lasts_runCommand calls _ _ _ _).bind fun _ _ _ => lasts_pure _
  · split
    · split
      · exact lasts_throw (by rintro ⟨⟩)
      · exact (lasts_valueOf _ _).bind fun _ _ _ => lasts_notify calls _ _ _ _
    · exact lasts_pure _

end Operations

end Limits

end CommandConsole
