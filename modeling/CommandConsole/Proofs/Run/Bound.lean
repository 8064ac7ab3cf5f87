import CommandConsole.Proofs.Run.Nesting
import Mathlib.Data.List.Perm.Subperm
import Mathlib.Data.List.ReduceOption

set_option autoImplicit false

/-!
Bounds that are not reached. Main statements: a bound is not reached where it admits the operations
in progress whenever a callback is called and the statements that are replayed (`bound_suffices`);
where files do not load each other recursively, it is enough that the bound admits each of the files
once, beside other operations (`files_suffice`).
-/
namespace CommandConsole

open CommandConsole.Action

variable {κ : Type}

/-- A script that does not claim that the bound was reached. -/
def Script.IsFrank : Script κ → Prop
  | .done _ => True
  | .fail fault => fault ≠ .exhausted
  | .ask _ next => ∀ reply, reply ≠ .failed .exhausted → (next reply).IsFrank

section Scripts

theorem Script.isFrank_need {operation : Operation κ} {next : Reply κ → Script κ}
    (frank : ∀ reply, (next reply).IsFrank) : (Script.need operation next).IsFrank := by
  intro reply differs
  cases reply with
  | failed fault => exact fun same => differs (congrArg Reply.failed same)
  | _ => exact frank _

theorem Script.isFrank_look {next : Registry κ → Script κ}
    (frank : ∀ registry, (next registry).IsFrank) : (Script.look next).IsFrank := by
  intro reply differs
  cases reply with
  | registry registry => exact frank registry
  | failed fault => exact fun same => differs (congrArg Reply.failed same)
  | _ => rintro ⟨⟩

theorem Script.isFrank_require {α : Type} {result : Except Fault α} {next : α → Script κ}
    (other : result ≠ .error .exhausted) (frank : ∀ value, (next value).IsFrank) :
    (Script.require result next).IsFrank := by
  cases result with
  | ok value => exact frank value
  | error fault => exact fun same => other (congrArg Except.error same)

theorem filePath_ne_exhausted (registry : Registry κ) (name : String) :
    Builtin.filePath registry name ≠ .error .exhausted := by
  have other := Limits.map_ne_exhausted
    (Limits.typed_ne_exhausted registry .text (.token (qualify Builtin.spaceName Builtin.savePath)))
    fun found => found.2.current
  unfold Builtin.filePath Registry.getTyped
  split
  · rename_i failed
    exact fun same => other (failed.trans (congrArg Except.error (Except.error.inj same)))
  · rintro ⟨⟩

theorem Builtin.isFrank_describeEach (tokens : List String) :
    (describeEach (κ := κ) tokens).IsFrank := by
  induction tokens with
  | nil => trivial
  | cons token rest ih =>
    intro reply differs
    cases reply with
    | failed fault =>
      cases fault with
      | console cause => exact Script.isFrank_need fun _ => ih
      | _ => exact fun same => differs (congrArg Reply.failed same)
    | resolution resolution =>
      cases resolution with
      | listing space => exact ih
      | entry space entry =>
        refine Script.isFrank_require ?_ fun _ => Script.isFrank_need fun _ => ih
        unfold Namespace.describe?
        split <;> rintro ⟨⟩
    | _ => exact ih

/-- A built-in command fails with what it is told, or with a fault of its own. -/
theorem Callback.isFrank_script {host : Host κ} (frank : ∀ key call, (host key call).IsFrank)
    (call : Call κ) : (Callback.script host call).IsFrank := by
  unfold Callback.script
  split
  · exact frank _ call
  · unfold Builtin.help
    split
    · exact Script.isFrank_look fun _ => Script.isFrank_need fun _ => trivial
    · exact Builtin.isFrank_describeEach _
  · unfold Builtin.load
    split
    · trivial
    · exact Script.isFrank_look fun registry => Script.isFrank_require
        (Limits.mapM_ne_exhausted (filePath_ne_exhausted registry) _) fun _ =>
          Script.isFrank_need fun _ => trivial
  · unfold Builtin.save
    split
    · refine Script.isFrank_look fun registry => Script.isFrank_require
        (filePath_ne_exhausted registry _) fun _ reply differs => ?_
      cases reply with
      | failed fault =>
        have other : fault ≠ .exhausted := fun same => differs (congrArg Reply.failed same)
        cases fault with
        | console cause =>
          cases cause <;> first | exact Script.isFrank_need fun _ => trivial | exact other
        | _ => exact other
      | _ => trivial
    · trivial
  · trivial

end Scripts

namespace Limits

variable {limits : Limits κ} {depth : Nat} {console : Console κ}

section Replay

variable {run : Runner κ} {space : Namespace κ}

theorem Level.take (level : limits.Level depth console) (statement : Statement) :
    limits.Level depth (console.taking space statement) := by
  refine Level.told (level.change _ _) ?_ fun _ => rfl
  exact level.depth

def taken (limits : Limits κ) (trace : List (Event κ)) : Nat :=
  (since limits.past trace).countP Event.isTaken

theorem taken_le_of_suffix {earlier later : List (Event κ)} (within : limits.past <:+ earlier)
    (suffix : earlier <:+ later) : limits.taken earlier ≤ limits.taken later := by
  obtain ⟨events, rfl⟩ := suffix
  rw [taken, taken, since_append within, List.countP_append]
  omega

theorem taken_taking (level : limits.Level depth console) (statement : Statement) :
    limits.taken (console.taking space statement).trace = limits.taken console.trace + 1 := by
  change (since limits.past (_ :: console.trace)).countP Event.isTaken = _
  rw [since_cons level.within]
  exact List.countP_cons_of_pos rfl

variable (calls : ∀ call (console : Console κ), limits.Lasts depth (run call) console)

include calls

/-- Each round takes a statement, so that rounds left for more statements than may be replayed are
never all used. -/
theorem lasts_flush {serial rounds : Nat} (enough : ∀ space ∈ console.registry.spaces,
      space.serial = serial → space.due?.isSome → limits.Kept console.trace →
        limits.replays < limits.taken console.trace + rounds) :
    limits.Lasts depth (flush run serial rounds) console := by
  -- What is taken in a round makes up for the round that is used.
  induction rounds generalizing console with
  | zero =>
    intro level
    refine ends_flush (fun _ => ⟨level, List.suffix_refl _, fun _ same => by cases same⟩) ?_
    intro space present same handler statement due
    refine ⟨level, List.suffix_refl _, fun kept _ => ?_⟩
    have more := enough space present same (by simp [due]) kept
    have fewer : limits.taken console.trace ≤ limits.replays := kept.replays
    omega
  | succ rounds ih =>
    intro level
    refine ends_flush (fun _ => ⟨level, List.suffix_refl _, fun _ same => by cases same⟩) ?_
    intro space present same handler statement due
    have told : console.trace <:+ (console.taking space statement).trace := List.suffix_cons _ _
    have replayed : limits.Lasts depth (reporting () (replay run handler statement))
        (console.taking space statement) := (lasts_replay calls handler statement).reporting ()
    apply (replayed (level.take statement)).mono
    rintro result after ⟨still, suffix, spared⟩
    cases result with
    | error fault => exact ⟨still, told.trans suffix, spared⟩
    | ok _ =>
      have more : limits.Kept after.trace → limits.replays < limits.taken after.trace + rounds := by
        intro kept
        have before := enough space present same (by simp [due])
          (kept.of_suffix level.within (told.trans suffix))
        have counted : limits.taken (console.taking space statement).trace = _ :=
          taken_taking level statement
        have fewer := taken_le_of_suffix (level.within.trans told) suffix
        omega
      apply (ih (fun _ _ _ _ => more) still).mono
      rintro result final ⟨last, later, fine⟩
      exact ⟨last, (told.trans suffix).trans later, fine⟩

theorem lasts_setHandler {rounds : Nat}
    (enough : limits.Kept console.trace → limits.replays ≤ rounds) (serial : Nat)
    (handler : Option Handler) :
    limits.Lasts depth (setHandler run rounds serial handler) console := by
  intro level
  simp only [setHandler, ends_bind, ends_registry]
  cases found : console.registry.space? serial with
  | none => exact lasts_pure () level
  | some before =>
    obtain ⟨present, rfl⟩ := Registry.mem_of_space? found
    have attached : limits.Level depth (console.handling before handler) :=
      Level.other (level.change _ _) rfl
    have told : console.trace <:+ (console.handling before handler).trace := List.suffix_cons _ _
    simp only [ends_bind, ends_update, ends_record]
    split
    · have flushed : limits.Lasts depth (flush run before.serial (before.pending.length + rounds))
          (console.handling before handler) := by
        refine lasts_flush calls fun space member same due kept => ?_
        have handled : before.handle handler ∈ (console.handling before handler).registry.spaces :=
          Registry.mem_update_self (Namespace.keepsShape_handle _) present
        have waiting : before.pending ≠ [] := by
          rintro none
          have isSame := Registry.eq_of_serial handled member same
          simp [isSame, Namespace.due?, Namespace.handle, none] at due
        have some := List.length_pos_iff.mpr waiting
        have less := enough (kept.of_suffix level.within told)
        omega
      apply (flushed attached).mono
      rintro result after ⟨still, suffix, fine⟩
      exact ⟨still, told.trans suffix, fine⟩
    · exact ⟨attached, told, fun _ same => by cases same⟩

variable {rounds : Nat} (enough : limits.Kept console.trace → limits.replays ≤ rounds)

include enough

theorem lasts_attach (serial : Nat) (handler : Option Handler) :
    limits.Lasts depth (attach run rounds serial handler) console := by
  intro level
  simp only [attach, ends_bind, ends_registry]
  cases console.registry.space? serial with
  | none => exact lasts_pure () level
  | some before =>
    simp only
    split
    · exact lasts_setHandler calls enough serial handler level
    · exact ⟨Level.other (level.change _ _) rfl, List.suffix_cons _ _, fun _ same => by cases same⟩

omit calls enough in
theorem lasts_create (declaration : NamespaceDeclaration (Callback κ)) :
    limits.Lasts depth (create declaration) console := by
  intro level
  rw [ends_create]
  cases declared : console.registry.declared console.config declaration with
  | ok space =>
    have added : limits.Level depth { console with registry := console.registry.add space } :=
      ⟨level.within, level.depth, level.spared⟩
    exact ⟨added.other rfl, List.suffix_cons _ _, fun _ same => by cases same⟩
  | error fault =>
    refine ⟨level, List.suffix_refl _, fun _ same => ?_⟩
    exact declared_ne_exhausted _ _ _ (declared.trans (congrArg _ (Except.error.inj same)))

omit calls enough in
theorem lasts_save (path : String) : limits.Lasts depth (save path) console := by
  intro level
  simp only [save, ends_bind, ends_registry, ends_lift]
  cases dumped : console.registry.dumps? with
  | error fault =>
    refine ⟨level, List.suffix_refl _, fun _ same => ?_⟩
    cases same
    unfold Registry.dumps? at dumped
    split at dumped <;> cases dumped
  | ok content =>
    have told := List.suffix_cons (.opened path) console.trace
    have opened : limits.Level depth (console.tell (.opened path)) := level.other rfl
    simp only [ends_record, ends_get]
    split
    · exact ⟨opened, told, fun _ same => by cases same⟩
    · exact ⟨opened, told, fun _ same => by cases same⟩
    · exact ⟨⟨opened.within, opened.depth, opened.spared⟩, told, fun _ same => by cases same⟩

/-- Whatever is asked for, the bound is not reached by what has been asked for. -/
theorem lasts_carryOut (call : Option (Call κ)) (operation : Operation κ) :
    limits.Lasts depth (carryOut run rounds call operation) console := by
  cases operation with
  | execute line => exact (lasts_executeStatement calls _).map _
  | executeStatement statement => exact (lasts_executeStatement calls _).map _
  | executeArguments arguments defaultLine =>
    exact Lasts.map ((lasts_executeEach calls _).bind fun _ _ _ => lasts_pure _) _
  | set target payload => exact (lasts_setValue calls _ _).map _
  | setTyped kind target payload => exact (lasts_setTyped calls _ _ _).map _
  | reset target => exact (lasts_reset calls _).map _
  | toggle target => exact (lasts_toggle calls _).map _
  | attach space handler =>
    exact (lasts_attach calls enough _ _).bind fun _ _ _ => lasts_pure _
  | attachAnyway space handler =>
    exact (lasts_setHandler calls enough _ _).bind fun _ _ _ => lasts_pure _
  | enqueue serial statement =>
    refine lasts_registry.bind fun registry _ _ => ?_
    split
    · exact (lasts_offer _).map _
    · exact lasts_pure _
  | create declaration => exact (lasts_create _).map _
  | teardown =>
    exact Lasts.bind ((lasts_modify _ rfl).bind fun _ _ _ => lasts_record rfl)
      fun _ _ _ => lasts_pure _
  | loads text => exact (lasts_executeLines calls _).map _
  | load paths => exact (lasts_load calls _).map _
  | save path => exact (lasts_save _).map _
  | setSavePath path => exact (lasts_setTyped calls _ _ _).bind fun _ _ _ => lasts_pure _
  | describe token => exact (lasts_describe _).bind fun _ _ _ => lasts_pure _
  | resolve token => exact (lasts_resolve _).map _
  | write text => exact (lasts_write _).bind fun _ _ _ => lasts_pure _
  | note text => exact (lasts_record rfl).bind fun _ _ _ => lasts_pure _
  | look => exact lasts_registry.map _

omit calls enough in
/-- What is answered to an operation is no fault; only what it ends with may be one. -/
theorem carryOut_ne_failed (call : Option (Call κ)) (operation : Operation κ) (fault : Fault) :
    Ends (carryOut run rounds call operation) console
      fun result _ => result ≠ .ok (.failed fault) := by
  have answers {α : Type} (action : Action κ α) {reply : α → Reply κ}
      (never : ∀ value, reply value ≠ .failed fault) :
      Ends (do return reply (← action)) console fun result _ => result ≠ .ok (.failed fault) := by
    rw [ends_bind]
    unfold Ends
    cases action console with
    | ok value after => exact fun same => never value (Except.ok.inj same)
    | error cause after => rintro ⟨⟩
  cases operation with
  | enqueue serial statement =>
    simp only [carryOut, ends_bind, ends_registry]
    cases console.registry.space? serial with
    | none => rintro ⟨⟩
    | some present => exact answers _ fun _ same => by cases same
  | _ => exact answers _ fun _ same => by cases same

omit calls in
theorem lasts_perform (level : limits.Level depth console)
    (calls : ∀ call (console : Console κ), limits.Lasts (depth + 1) (run call) console)
    (call : Option (Call κ)) (operation : Operation κ) :
    Ends (perform run rounds call operation) console fun result after =>
      limits.Level depth after ∧ console.trace <:+ after.trace ∧
        ∃ reply, result = .ok reply ∧ (limits.Kept after.trace → reply ≠ .failed .exhausted) := by
  have asked := level.asked call operation
  have told := List.suffix_cons (.asked call operation) console.trace
  have carriedOut := lasts_carryOut calls
    (fun kept => enough (kept.of_suffix level.within told)) call operation asked
  rw [ends_perform]
  apply (carriedOut.and (carryOut_ne_failed call operation .exhausted)).mono
  rintro result after ⟨⟨still, suffix, spared⟩, answered⟩
  have later := suffix.trans (List.suffix_cons (.answered call (.ofResult result) after.registry) _)
  refine ⟨still.answered _ _ _, told.trans later, _, rfl, fun kept same => ?_⟩
  have fine := spared (kept.of_suffix (asked.within.trans suffix) (List.suffix_cons _ _))
  cases result with
  | ok reply => exact answered (congrArg Except.ok same)
  | error fault =>
    cases same
    exact fine rfl

end Replay

section Callbacks

/-- A script lasts as long as its operations do. -/
theorem lasts_runScript {perform : Operation κ → Action κ (Reply κ)}
    (performs : ∀ operation after, console.trace <:+ after.trace → limits.Level depth after →
      Ends (perform operation) after fun result final =>
        limits.Level depth final ∧ after.trace <:+ final.trace ∧
          ∃ reply, result = .ok reply ∧ (limits.Kept final.trace → reply ≠ .failed .exhausted))
    {script : Script κ} (frank : script.IsFrank) :
    limits.Lasts depth (runScript perform script) console := by
  induction script generalizing console with
  | done handled => exact lasts_pure _
  | fail fault => exact lasts_throw frank
  | ask operation next ih =>
    intro level
    rw [runScript, ends_bind]
    apply (performs operation console (List.suffix_refl _) level).mono
    rintro result after ⟨still, suffix, reply, rfl, spared⟩
    change Ends _ _ _
    split
    · exact ⟨still, suffix, fun kept _ => spared kept rfl⟩
    · rename_i differs
      have following := ih reply (fun operation later => performs operation later ∘ suffix.trans)
        (frank reply differs) still
      apply following.mono
      rintro result final ⟨last, later, fine⟩
      exact ⟨last, suffix.trans later, fine⟩

theorem lasts_calling {call : Call κ} {action : Action κ Bool}
    (inner : limits.Lasts depth action (console.calling call)) :
    limits.Lasts depth (calling call action) console := by
  intro level
  have told := List.suffix_cons (.called call console.registry) console.trace
  simp only [calling, ends_bind, ends_registry, ends_record, ends_tryCatch, ends_pure, ends_throw]
  apply (inner (level.calling call)).mono
  rintro result after ⟨still, suffix, spared⟩
  have later {event : Event κ} : console.trace <:+ event :: after.trace :=
    (told.trans suffix).trans (List.suffix_cons _ _)
  cases result with
  | ok handled =>
    refine ⟨still.ended call fun _ => ?_, later, fun _ => ?_⟩
    all_goals rintro ⟨⟩
  | error fault =>
    have fine (kept : limits.Kept after.trace) : fault ≠ .exhausted :=
      fun same => spared kept (congrArg Except.error same)
    refine ⟨still.ended call fun kept same => fine kept (Option.some.inj same), later, ?_⟩
    intro kept same
    exact fine (kept.of_suffix still.within (List.suffix_cons _ _)) (Except.error.inj same)

/-- Callbacks last where the bound is left for what may be in progress beyond them. -/
theorem lasts_runWithin {conduct : Conduct κ}
    (frank : ∀ console key call, (conduct console key call).IsFrank) {bound : Nat}
    (enough : limits.nested + limits.replays < bound + depth) (call : Call κ) :
    limits.Lasts depth (runWithin conduct bound call) console := by
  induction bound generalizing depth call console with
  | zero =>
    intro level
    refine lasts_calling (fun inside => ⟨inside, List.suffix_refl _, fun kept _ => ?_⟩) level
    have low := level.le_nested kept
    omega
  | succ bound ih =>
    intro level
    refine lasts_calling (lasts_get.bind fun host after suffix => ?_) level
    refine lasts_runScript (fun operation later further inside => ?_)
      (Callback.isFrank_script (frank host) call)
    refine lasts_perform (fun kept => ?_) inside (fun call console => ih (by omega) call) _ _
    have within := level.within.trans (List.suffix_cons (.called call console.registry) _)
    have low := level.le_nested (kept.of_suffix within (suffix.trans further))
    omega

end Callbacks

end Limits

variable {console : Console κ}

/-- A bound is not reached if it admits all operations that are in progress when a callback is
called, and beside them all statements that are replayed. -/
theorem bound_suffices {conduct : Conduct κ}
    (frank : ∀ console key call, (conduct console key call).IsFrank) {nested replays bound : Nat}
    (enough : nested + replays ≤ bound) (operation : Operation κ)
    (kept : Limits.Kept ⟨console.trace, nested, replays⟩
      ((Console.act conduct bound operation).after console).trace) :
    ∀ event ∈ since console.trace ((Console.act conduct bound operation).after console).trace,
      event.isExhausted = false := by
  let limits : Limits κ := ⟨console.trace, nested, replays⟩
  have nothing : since console.trace console.trace = [] := by simp [since]
  have start : limits.Level 0 console := by
    refine ⟨List.suffix_refl _, ?_, fun _ event member => ?_⟩
    · rw [nothing]
      rfl
    · rw [nothing] at member
      cases member
  have calls (call : Call κ) (console : Console κ) :
      limits.Lasts 1 (runWithin conduct bound call) console :=
    Limits.lasts_runWithin frank (Nat.lt_succ_of_le enough) call
  have acted := Limits.lasts_perform (fun _ => le_trans (Nat.le_add_left _ _) enough) start calls
    none operation
  rw [ends_iff] at acted
  exact acted.1.spared kept

/-- The files that are being loaded, innermost first. -/
def loading (trace : List (Event κ)) : List String :=
  (inProgress trace).reduceOption

/-- No file is loaded while it is being loaded: the files that are being loaded are different ones
of some paths. So many operations in progress may load none. -/
structure LoadsOnce (paths : List String) (others : Nat) (trace : List (Event κ)) : Prop where
  distinct : (loading trace).Nodup
  known : loading trace ⊆ paths
  others : (inProgress trace).countP Option.isNone ≤ others

instance (paths : List String) (others : Nat) (trace : List (Event κ)) :
    Decidable (LoadsOnce paths others trace) :=
  decidable_of_iff ((loading trace).Nodup ∧ (∀ path ∈ loading trace, path ∈ paths) ∧
      (inProgress trace).countP Option.isNone ≤ others)
    ⟨fun ⟨distinct, known, others⟩ => ⟨distinct, fun _ => known _, others⟩,
      fun once => ⟨once.distinct, fun _ => @once.known _, once.others⟩⟩

theorem LoadsOnce.length_le {paths : List String} {others : Nat} {trace : List (Event κ)}
    (once : LoadsOnce paths others trace) :
    (inProgress trace).length ≤ paths.length + others := by
  have files : (loading trace).length ≤ paths.length :=
    (List.subperm_of_subset once.distinct once.known).length_le
  have rest := once.others
  rw [List.countP_eq_length_filter] at rest
  rw [List.length_eq_reduceOption_length_add_filter_none]
  exact Nat.add_le_add files rest

/-- Where files do not load each other recursively, a bound is not reached that admits each of them
once, the other operations in progress and the statements that are replayed. -/
theorem files_suffice {conduct : Conduct κ}
    (frank : ∀ console key call, (conduct console key call).IsFrank) {paths : List String}
    {others replays bound : Nat} (enough : paths.length + others + replays ≤ bound)
    (operation : Operation κ)
    (once : ∀ earlier ∈ callings (since console.trace
      ((Console.act conduct bound operation).after console).trace), LoadsOnce paths others earlier)
    (taken : (since console.trace
      ((Console.act conduct bound operation).after console).trace).countP Event.isTaken ≤ replays) :
    ∀ event ∈ since console.trace ((Console.act conduct bound operation).after console).trace,
      event.isExhausted = false :=
  bound_suffices frank enough operation
    ⟨fun earlier member => (once earlier member).length_le, taken⟩

/-- A run that is clear but for the bound is clear with such a bound. -/
theorem clear_of_loadsOnce {conduct : Conduct κ}
    (frank : ∀ console key call, (conduct console key call).IsFrank) {paths : List String}
    {others replays bound : Nat} (enough : paths.length + others + replays ≤ bound)
    (operation : Operation κ)
    (once : ∀ earlier ∈ callings (since console.trace
      ((Console.act conduct bound operation).after console).trace), LoadsOnce paths others earlier)
    (taken : (since console.trace
      ((Console.act conduct bound operation).after console).trace).countP Event.isTaken ≤ replays)
    (plain : Plain ((Console.act conduct bound operation).after console).trace)
    (regular : ∀ event ∈ since console.trace
      ((Console.act conduct bound operation).after console).trace,
        event.isExhausted = false → event.isRegular = true)
    (texts : ∀ event ∈ since console.trace
      ((Console.act conduct bound operation).after console).trace,
        ∀ path ∈ event.loaded, console.storage.IsTextAt path) :
    Clear console ((Console.act conduct bound operation).after console).trace := by
  have spared := files_suffice frank enough operation once taken
  exact ⟨⟨plain, fun event member => regular event member (spared event member)⟩, texts⟩

/-- A console with two files of which the first loads the second. -/
def chained (second : String) : Console Unit :=
  (Console.empty .standard ⟨[(["first"], .file "console.load second".toUTF8),
      (["second"], .file second.toUTF8)]⟩).actAll idle 3
    [.create Builtin.declaration, .attach 0 (some .console)]

/-- Three are enough for two files of which one loads the other, but not if each loads the other. -/
theorem chained_loaded :
    Clear (chained "console") ((Console.act idle 3 (.execute "console.load first")).after
        (chained "console")).trace ∧
      ∃ event ∈ since (chained "console.load first").trace
        ((Console.act idle 3 (.execute "console.load first")).after
          (chained "console.load first")).trace, event.isExhausted = true := by
  refine ⟨?_, by decide +kernel⟩
  have frank : ∀ console key call, (idle console key call).IsFrank := fun _ _ _ => trivial
  have enough : ["first", "second"].length + 1 + 0 ≤ 3 := by decide
  exact clear_of_loadsOnce frank enough _ (by decide +kernel) (by decide +kernel)
    (by decide +kernel) (by decide +kernel) (by decide +kernel)

end CommandConsole
