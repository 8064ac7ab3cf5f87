import CommandConsole.Proofs.Queue.Interrupted

set_option autoImplicit false

namespace CommandConsole

open CommandConsole.Action

variable {κ : Type}

/-- The objects of all namespaces, with the values that they hold. -/
def Registry.objects (registry : Registry κ) : List (List (Data × Entry κ)) :=
  registry.spaces.map Namespace.objects

theorem Registry.objects_update (registry : Registry κ) (serial : Nat)
    {change : Namespace κ → Namespace κ} (serials : ∀ space, (change space).serial = space.serial)
    (kept : ∀ space, (change space).objects = space.objects) :
    (registry.update serial change).objects = registry.objects := by
  rw [objects, objects, spaces_update _ _ _ serials, List.map_map]
  refine List.map_congr_left fun space _ => ?_
  simp only [Function.comp]
  split
  · exact kept space
  · rfl

def HasObjects (good : List (List (Data × Entry κ)) → Prop) (console : Console κ) : Prop :=
  good console.registry.objects

theorem HasObjects.change {good : List (List (Data × Entry κ)) → Prop} {console : Console κ}
    (has : HasObjects good console) (serial : Nat) {change : Namespace κ → Namespace κ}
    (serials : ∀ space, (change space).serial = space.serial)
    (kept : ∀ space, (change space).objects = space.objects) :
    HasObjects good (console.change serial change) := by
  rw [HasObjects, Console.change, Registry.objects_update _ _ serials kept]
  exact has

theorem Keeps.bind {α β : Type} {holds : Console κ → Prop} {action : Action κ α}
    {next : α → Action κ β} (first : Keeps holds action)
    (second : ∀ value, Keeps holds (next value)) : Keeps holds (action >>= next) :=
  fun console start => ends_bind_of_keeps (first console start) fun value => second value

section Replay

variable {run : Runner κ} {good : List (List (Data × Entry κ)) → Prop}
  (calls : ∀ call, Keeps (HasObjects good) (run call))

include calls

theorem unchanging_runCommand (handler : Handler) (isReplay : Bool) (space : Namespace κ)
    (command : Command κ) (statement : Statement) :
    Keeps (HasObjects good) (runCommand run handler isReplay space command statement) := by
  refine Keeps.bind (fun _ start => start) fun _ => ?_
  split
  · exact fun _ start => start
  · refine (calls _).bind fun handled => ?_
    split
    · exact fun _ start => start
    · split
      · exact fun _ start => start
      · exact fun _ start => start

theorem unchanging_notify (handler : Handler) (isReplay : Bool) (space : Namespace κ)
    (setting : Setting κ) (value : Value) :
    Keeps (HasObjects good) (notify run handler isReplay space setting value) := by
  unfold notify
  split
  · exact fun _ start => start
  · exact (calls _).bind fun _ _ start => start

theorem unchanging_replay (handler : Handler) (statement : Statement) :
    Keeps (HasObjects good) (replay run handler statement) := by
  intro console start
  simp only [replay, ends_bind, ends_registry, ends_liftError]
  cases console.registry.lookup statement.name with
  | error cause => exact start
  | ok found =>
    obtain ⟨space, entry⟩ := found
    cases entry with
    | command command =>
      exact (unchanging_runCommand calls handler true space command statement).bind
        (fun _ _ kept => (ends_pure ..).mpr kept) console start
    | setting setting =>
      simp only [Except.mapError]
      split
      · split
        · exact start
        · unfold valueOf
          split
          · rw [pure_bind]
            exact unchanging_notify calls handler true space setting _ console start
          · exact start
      · exact start

theorem unchanging_flush (serial rounds : Nat) :
    Keeps (HasObjects good) (flush run serial rounds) := by
  induction rounds with
  | zero => exact fun console start => ends_flush (fun _ => start) fun _ _ _ _ _ _ => start
  | succ rounds ih =>
    intro console start
    refine ends_flush (fun _ => start) fun space _ _ handler statement _ => ?_
    have taken : HasObjects good (console.taking space statement) :=
      start.change space.serial (fun _ => rfl) fun _ => rfl
    have replayed : Ends (reporting () (replay run handler statement)) _ _ :=
      ends_reporting_of (fun _ _ kept => kept) (unchanging_replay calls handler statement _ taken)
    apply replayed.mono
    intro result after kept
    cases result with
    | ok _ => exact ih after kept
    | error fault => exact kept

theorem unchanging_setHandler (rounds serial : Nat) (handler : Option Handler) :
    Keeps (HasObjects good) (setHandler run rounds serial handler) := by
  intro console start
  have handled : HasObjects good (console.change serial (·.handle handler)) :=
    start.change serial (fun _ => rfl) fun _ => rfl
  simp only [setHandler, ends_bind, ends_registry]
  split
  · exact start
  · simp only [ends_bind, ends_update, ends_record]
    split
    · exact unchanging_flush calls _ _ _ handled
    · exact handled

theorem unchanging_attach (rounds serial : Nat) (handler : Option Handler) :
    Keeps (HasObjects good) (attach run rounds serial handler) := by
  intro console start
  simp only [attach, ends_bind, ends_registry]
  split
  · exact start
  · split
    · exact unchanging_setHandler calls rounds serial handler console start
    · exact start.change serial (fun _ => rfl) fun _ => rfl

/-- Whatever callbacks keep of the objects, attaching a handler keeps: by itself a replay changes no
value. -/
theorem attaching_unchanging (rounds : Nat) (call : Option (Call κ)) {serial : Nat}
    {handler : Option Handler} {operation : Operation κ}
    (attaches : operation.Attaches serial handler) :
    Keeps (HasObjects good) (perform run rounds call operation) := by
  intro console start
  have asked : HasObjects good (console.tell (.asked call operation)) := start
  rw [ends_perform]
  rcases attaches with rfl | rfl
  · simp only [carryOut, ends_bind, ends_pure]
    apply (unchanging_attach calls rounds serial handler _ asked).mono
    intro result after kept
    cases result <;> exact kept
  · simp only [carryOut, ends_bind, ends_pure]
    apply (unchanging_setHandler calls rounds serial handler _ asked).mono
    intro result after kept
    cases result <;> exact kept

end Replay

end CommandConsole
