import CommandConsole.Proofs.Queue.Work
import CommandConsole.Proofs.Run.Absorbed

set_option autoImplicit false

namespace CommandConsole

open CommandConsole.Action

variable {κ : Type}

/-- The registry is as it was, unless something has been called since. -/
def Untouched (before after : Console κ) : Prop :=
  calls after.trace = calls before.trace → after.registry = before.registry

namespace Untouched

variable {before after : Console κ}

theorem of_same (same : after.registry = before.registry) : Untouched before after :=
  fun _ => same

theorem of_called {console : Console κ} (same : calls console.trace = calls before.trace)
    {call : Call κ} (called : (console.calling call).trace <:+ after.trace) :
    Untouched before after := by
  obtain ⟨events, told⟩ := called
  intro quiet
  have lengths := congrArg List.length quiet
  rw [← told, calls, chronicle_append, Console.calling, Console.tell, chronicle_cons, ← calls,
    same] at lengths
  simp only [Event.call?, Option.toList_some, List.length_append, List.length_singleton] at lengths
  omega

theorem tell (untouched : Untouched before after) {event : Event κ}
    (silent : event.call? = none) : Untouched before (after.tell event) :=
  fun quiet => untouched ((calls_tell silent after).symm.trans quiet)

theorem from_tell {event : Event κ} (untouched : Untouched (before.tell event) after)
    (silent : event.call? = none) : Untouched before after :=
  fun quiet => untouched (quiet.trans (calls_tell silent before).symm)

end Untouched

def RunnerTells (run : Runner κ) : Prop :=
  ∀ call console, Ends (run call) console fun _ after =>
    (Console.calling console call).trace <:+ after.trace

theorem runnerTells_runWithin (conduct : Conduct κ) (bound : Nat) :
    RunnerTells (runWithin conduct bound) :=
  fun call console => ((Invariants.suffix (console.calling call).trace).runWithin conduct bound ()
    call console (List.suffix_refl _)).mono fun _ _ ended => ended.1

/-- An action that ends with a console error before anything has been called leaves the registry
alone. -/
def Refuses {α : Type} (action : Action κ α) (console : Console κ) : Prop :=
  Ends action console fun result after => ∀ cause, result = .error (.console cause) →
    Untouched console after

section Parts

variable {α : Type} {console : Console κ}

theorem Absorbs.refuses {action : Action κ α} (absorbs : Absorbs action) :
    Refuses action console :=
  (absorbs console).mono fun _ _ absorbed cause same => absurd same (absorbed cause)

theorem Refuses.of_still {action : Action κ α}
    (still : Ends action console fun _ after => after.registry = console.registry) :
    Refuses action console :=
  still.mono fun _ _ same _ _ => .of_same same

end Parts

section Operations

variable {run : Runner κ} (tells : RunnerTells run) {console : Console κ} {space : Namespace κ}
  {setting : Setting κ}

include tells

theorem refuses_notify {handler : Handler} {value : Value} {before : Console κ}
    (same : calls console.trace = calls before.trace) :
    Ends (notify run handler false space setting value) console fun result after =>
      ∀ cause, result = .error (.console cause) → Untouched before after := by
  unfold notify
  split
  · exact fun cause same => by cases same
  · rename_i callback _
    rw [ends_bind]
    apply (tells _ console).mono
    intro result after called
    cases result with
    | ok handled => exact fun cause same => by cases same
    | error fault => exact fun _ _ => .of_called same called

theorem refuses_assign (present : space ∈ console.registry.spaces) (value : Value)
    (typed : Option String) : Refuses (assign run space setting value typed) console := by
  unfold assign
  split
  · exact .of_still rfl
  · split
    · exact .of_still rfl
    · simp only [Refuses, ends_bind, ends_update, ends_record, ends_pure]
      have quiet : calls (console.assigning space setting value).trace = calls console.trace := by
        simp [Console.assigning, Console.tell, Console.change, calls, chronicle_cons, Event.call?]
      suffices announced : Ends (announce run space setting value typed)
          (console.assigning space setting value) fun result after =>
            ∀ cause, result = .error (.console cause) → Untouched console after by
        apply announced.mono
        intro result after refused
        cases result with
        | ok _ => exact fun cause same => by cases same
        | error fault =>
          exact fun cause same => refused cause (congrArg _ (Except.error.inj same))
      have still := mem_assigning present setting value
      unfold announce
      split
      · exact refuses_notify tells quiet
      · split
        · exact (ends_defer still _ _ _).mpr fun _ same => by cases same
        · split
          · exact (ends_defer still _ _ _).mpr fun _ same => by cases same
          · exact fun _ same => by cases same

theorem refuses_assignPayload (present : space ∈ console.registry.spaces) (payload : Payload) :
    Refuses (assignPayload run space setting payload) console := by
  unfold assignPayload
  split
  · exact refuses_assign tells present _ _
  · split
    · exact refuses_assign tells present _ _
    · exact .of_still rfl

theorem refuses_setValue (target : Target) (payload : Payload) :
    Refuses (setValue run target payload) console := by
  simp only [Refuses, setValue, ends_bind, ends_registry, ends_lift]
  cases pointed : console.registry.target target with
  | error fault => exact fun _ _ => .of_same rfl
  | ok found => exact refuses_assignPayload tells (Registry.target_ok pointed).1 payload

theorem refuses_setTyped (kind : Kind) (target : Target) (payload : Payload) :
    Refuses (setTyped run kind target payload) console := by
  simp only [Refuses, setTyped, ends_bind, ends_registry, ends_lift]
  cases pointed : console.registry.typed kind target with
  | error fault => exact fun _ _ => .of_same rfl
  | ok found =>
    exact refuses_assignPayload tells (Registry.target_ok (Registry.typed_ok pointed).1).1 payload

theorem refuses_reset (target : Target) : Refuses (reset run target) console := by
  simp only [Refuses, reset, ends_bind, ends_registry, ends_lift]
  cases pointed : console.registry.target target with
  | error fault => exact fun _ _ => .of_same rfl
  | ok found => exact refuses_assign tells (Registry.target_ok pointed).1 _ _

omit tells in
/-- Whatever is wrong with a setting that somebody has kept, it is no console error. -/
theorem Registry.get_kept_error {registry : Registry κ} {serial : Nat} {name : String}
    {fault : Fault} (failed : registry.get (.kept serial name) = .error fault) :
    fault = .wrongType := by
  simp only [Registry.get, Registry.target] at failed
  split at failed
  · cases failed
    rfl
  · split at failed
    · cases failed
    · cases failed
      rfl

theorem refuses_toggle (target : Target) : Refuses (toggle run target) console := by
  simp only [Refuses, toggle, ends_bind, ends_registry, ends_lift]
  cases pointed : console.registry.typed .boolean target with
  | error fault => exact fun _ _ => .of_same rfl
  | ok found =>
    have present := (Registry.target_ok (Registry.typed_ok pointed).1).1
    refine Ends.mono (refuses_assign tells present _ none) fun result after refused => ?_
    cases result with
    | error fault => exact refused
    | ok _ =>
      simp only
      cases got : after.registry.get (.kept found.1.serial found.2.name) with
      | ok value => exact fun cause same => by cases same
      | error fault =>
        rintro cause ⟨⟩
        cases Registry.get_kept_error got

omit tells in
theorem ends_resolve_still (token : String) :
    Ends (resolve token) console fun result after =>
      (∀ fault, result = .error fault → after = console) ∧
        ∀ space entry, result = .ok (.entry space entry) →
          after = console ∧ console.registry.lookup token = .ok (space, entry) := by
  simp only [resolve, ends_bind, ends_registry, ends_liftError]
  cases resolved : console.registry.resolve token with
  | error cause => simp [Except.mapError]
  | ok resolution =>
    unfold Except.mapError
    cases resolution with
    | entry space entry =>
      refine ⟨by simp, ?_⟩
      rintro _ _ ⟨rfl, rfl⟩
      exact ⟨rfl, Registry.resolve_entry resolved⟩
    | listing space =>
      simp only [ends_bind, ends_lift]
      cases space.listing? <;> simp

omit tells in
theorem refuses_save (path : String) : Refuses (save path) console := by
  apply Refuses.of_still
  simp only [save, ends_bind, ends_registry, ends_lift]
  cases console.registry.dumps? with
  | error fault => exact trivial
  | ok content =>
    simp only [ends_record, ends_get]
    split <;> exact rfl

omit tells in
theorem refuses_describe (token : String) : Refuses (describe token) console := by
  apply Refuses.of_still
  simp only [describe, ends_bind, ends_registry, ends_liftError]
  cases console.registry.lookup token with
  | error cause => exact trivial
  | ok found =>
    simp only [Except.mapError, ends_lift]
    cases found.1.describe? found.2 with
    | error fault => exact trivial
    | ok text => exact rfl

omit tells in
/-- A reply that is made of a value is no failure. -/
theorem Refuses.reply {α : Type} {action : Action κ α} {reply : α → Reply κ}
    (refuses : Refuses action console) (isReply : ∀ value fault, reply value ≠ .failed fault) :
    Ends (reply <$> action) console fun result after =>
      ∀ cause, Reply.ofResult result = .failed (.console cause) → Untouched console after := by
  rw [ends_map]
  apply Ends.mono refuses
  intro result after refused
  cases result with
  | ok value => exact fun cause same => absurd same (isReply value _)
  | error fault => exact fun cause same => refused cause (congrArg _ (Reply.failed.inj same))

theorem refuses_carryOut {rounds : Nat} (call : Option (Call κ)) (operation : Operation κ) :
    Ends (carryOut run rounds call operation) console fun result after =>
      ∀ cause, Reply.ofResult result = .failed (.console cause) → Untouched console after := by
  have flag (truth : Bool) (fault : Fault) : Reply.flag (κ := κ) truth ≠ .failed fault :=
    fun same => by cases same
  have done {α : Type} (_ : α) (fault : Fault) : Reply.done (κ := κ) ≠ .failed fault :=
    fun same => by cases same
  have count (number : Nat) (fault : Fault) : Reply.count (κ := κ) number ≠ .failed fault :=
    fun same => by cases same
  cases operation with
  | execute line => exact (absorbs_executeStatement _).refuses.reply flag
  | executeStatement statement => exact (absorbs_executeStatement _).refuses.reply flag
  | executeArguments arguments defaultLine =>
    exact ((absorbs_executeEach _).bind fun _ => absorbs_pure _).refuses.reply
      fun _ _ same => by cases same
  | set target payload => exact (refuses_setValue tells target payload).reply flag
  | setTyped kind target payload => exact (refuses_setTyped tells kind target payload).reply flag
  | reset target => exact (refuses_reset tells target).reply flag
  | toggle target => exact (refuses_toggle tells target).reply flag
  | attach space handler => exact (absorbs_attach rounds space handler).refuses.reply done
  | attachAnyway space handler =>
    exact (absorbs_setHandler rounds space handler).refuses.reply done
  | enqueue serial statement =>
    simp only [carryOut, ends_bind, ends_registry]
    cases found : console.registry.space? serial with
    | none => exact fun _ same => by cases same
    | some present =>
      obtain ⟨inside, rfl⟩ := Registry.mem_of_space? found
      exact ((ends_map ..).mpr ((ends_offer inside statement _).mpr fun _ same => by cases same))
  | create declaration =>
    have created : Refuses (create declaration) console := ?_
    exact created.reply fun _ _ same => by cases same
    refine (ends_create declaration _).mpr ?_
    split
    · exact fun _ same => by cases same
    · exact fun _ _ => .of_same rfl
  | teardown => exact fun _ same => by cases same
  | loads text => exact (absorbs_executeLines _).refuses.reply count
  | load paths => exact (absorbs_load paths).refuses.reply count
  | save path => exact (refuses_save path).reply count
  | setSavePath path => exact (refuses_setTyped tells _ _ _).reply done
  | describe token => exact (refuses_describe token).reply done
  | resolve token =>
    refine Refuses.reply (Ends.mono (ends_resolve_still token) ?_) fun _ _ same => by cases same
    exact fun _ _ still _ same => .of_same (congrArg _ (still.1 _ same))
  | write text => exact fun _ same => by cases same
  | note text => exact fun _ same => by cases same
  | look => exact fun _ same => by cases same

theorem refuses_perform {rounds : Nat} (call : Option (Call κ)) (operation : Operation κ) :
    Ends (perform run rounds call operation) console fun result after =>
      ∀ cause, result = .ok (.failed (.console cause)) → Untouched console after := by
  rw [ends_perform]
  apply (refuses_carryOut tells call operation).mono
  intro result after refused cause same
  exact ((refused cause (Except.ok.inj same)).tell rfl).from_tell rfl

/-- What a statement makes of an entry is refused if it ends with a console error or comes to
nothing. -/
theorem ends_dispatch_false {entry : Entry κ} (present : space ∈ console.registry.table)
    (statement : Statement) :
    Ends (dispatch run space entry statement) console fun result after =>
      (result = .ok false ∨ ∃ cause, result = .error (.console cause)) →
        Untouched console after := by
  have inside := (Registry.mem_table.mp present).1
  cases entry with
  | command command =>
    unfold dispatch
    cases handler : space.handler with
    | none =>
      simp only [ends_bind, ends_pure]
      exact (ends_defer inside _ _ _).mpr (by simp)
    | some handler =>
      simp only [runCommand, ends_bind, ends_record]
      cases command.action with
      | none => simp
      | some callback =>
        have quiet : calls (console.tell (.executed space.serial command.name statement)).trace =
            calls console.trace := calls_tell rfl console
        simp only [ends_bind]
        apply (tells _ _).mono
        intro result after called
        have untouched := Untouched.of_called quiet called
        cases result with
        | error fault => exact fun _ => untouched
        | ok handled =>
          simp only
          split
          · exact fun _ => untouched
          · split
            · exact fun _ => untouched.tell rfl
            · exact fun _ => untouched
  | setting setting =>
    simp only [dispatch]
    split
    · simp only [ends_bind, ends_lift]
      cases space.describe? (.setting setting) with
      | error fault => exact fun _ => .of_same rfl
      | ok text => simp
    · rename_i token _
      unfold valueOf
      cases Value.parse setting.kind token with
      | error cause => exact fun _ => .of_same rfl
      | ok value =>
        rw [pure_bind, ends_bind]
        apply Ends.mono (refuses_assign tells inside value (some token))
        intro result after refused
        cases result with
        | ok _ => simp
        | error fault =>
          rintro (same | ⟨cause, same⟩)
          · cases same
          · exact refused cause (congrArg _ (Except.error.inj same))
    · exact fun _ => .of_same rfl

/-- A statement that has come to nothing without calling anything has left the registry alone. -/
theorem ends_executeStatement_false (statement : Statement) :
    Ends (executeStatement run statement) console fun result after =>
      result = .ok false → Untouched console after := by
  unfold executeStatement
  split
  · exact fun _ => .of_same rfl
  · rw [ends_reporting]
    suffices refused : Ends _ console fun result after =>
        (result = .ok false ∨ ∃ cause, result = .error (.console cause)) →
          Untouched console after by
      apply refused.mono
      intro result after untouched
      cases result with
      | ok truth => exact fun same => untouched (.inl same)
      | error fault =>
        cases fault with
        | console cause => exact fun _ => (untouched (.inr ⟨cause, rfl⟩)).tell rfl
        | _ => exact fun same => by cases same
    rw [ends_bind]
    apply (ends_resolve_still statement.name).mono
    rintro result after ⟨failed, names⟩
    match result with
    | .error fault => exact fun _ => .of_same (congrArg _ (failed fault rfl))
    | .ok (.listing listed) => simp
    | .ok (.entry space entry) =>
      obtain ⟨rfl, named⟩ := names space entry rfl
      exact ends_dispatch_false tells (Registry.lookup_ok named).1 statement

theorem ends_perform_false {rounds : Nat} {operation : Operation κ}
    (isStatement : (∃ statement, operation = .executeStatement statement) ∨
      ∃ line, operation = .execute line) (call : Option (Call κ)) :
    Ends (perform run rounds call operation) console fun result after =>
      result = .ok (.flag false) → Untouched console after := by
  have answered (before : Console κ) (statement : Statement) :
      Ends (Reply.flag (κ := κ) <$> executeStatement run statement) before fun result after =>
        Reply.ofResult result = .flag false → Untouched before after := by
    rw [ends_map]
    apply (ends_executeStatement_false tells statement).mono
    intro result after untouched
    cases result with
    | ok truth => exact fun same => untouched (congrArg _ (Reply.flag.inj same))
    | error fault => exact fun same => by cases same
  rw [ends_perform]
  rcases isStatement with ⟨statement, rfl⟩ | ⟨line, rfl⟩
  · exact (answered _ statement).mono fun _ _ untouched same =>
      ((untouched (Except.ok.inj same)).tell rfl).from_tell rfl
  · exact (answered _ (Statement.parse line)).mono fun _ _ untouched same =>
      ((untouched (Except.ok.inj same)).tell rfl).from_tell rfl

end Operations

end CommandConsole
