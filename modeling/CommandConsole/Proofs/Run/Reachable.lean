import CommandConsole.Proofs.Run.Operation

set_option autoImplicit false

namespace CommandConsole

open CommandConsole.Action

variable {κ : Type}

section Replay

variable {holds : Console κ → Prop} {run : Runner κ}

theorem mem_taking {console : Console κ} {space : Namespace κ}
    (present : space ∈ console.registry.spaces) (statement : Statement) :
    space.dequeue ∈ (console.taking space statement).registry.spaces :=
  Registry.mem_update_self Namespace.keepsShape_dequeue present

section Taken

variable
  (steps : ∀ {before after : Console κ}, Step before after → holds before → holds after)
  (calls : RunnerKeeps holds run) {console : Console κ} {handler : Handler}
  {space owner : Namespace κ} {statement : Statement}
  (replays : ∀ {after : Console κ}, Replay console handler space statement after → holds after)

include calls replays

/-- A setting with a callback is told the value that the statement gives, if it gives one. -/
theorem keeps_replay_setting {setting : Setting κ}
    (named : (console.taking space statement).registry.lookup statement.name =
      .ok (owner, .setting setting)) (answers : setting.onChange.isSome) :
    Ends (match statement.arguments with
      | [] => throw .noArgument
      | token :: _ => do
        let value ← valueOf owner setting token
        notify run handler true owner setting value) (console.taking space statement)
      fun _ after => holds after := by
  have failed (unread : ∀ token rest value, statement.arguments = token :: rest →
      Value.parse setting.kind token ≠ .ok value) : holds (console.taking space statement) := by
    refine replays (.fail fun owner' entry found => ?_)
    rw [named] at found
    obtain ⟨-, rfl⟩ := Prod.mk.inj (Except.ok.inj found)
    exact ⟨setting, rfl, answers, unread⟩
  split
  · rename_i none
    exact failed fun token rest value same => by rw [none] at same; cases same
  · rename_i token rest same
    unfold valueOf
    cases reads : Value.parse setting.kind token with
    | error cause =>
      apply failed
      intro token' rest' value same'
      rw [same] at same'
      obtain ⟨rfl, -⟩ := List.cons.inj same'
      simp [reads]
    | ok value =>
      simp only [pure_bind]
      exact keeps_notify calls (replays (.change named fun _ => ⟨token, rest, same, reads⟩))

include steps

/-- A statement that has been taken is replayed at once, up to what the callback does. -/
theorem keeps_replay :
    Ends (reporting () (replay run handler statement)) (console.taking space statement)
      fun _ after => holds after := by
  apply keeps_reporting steps
  simp only [replay, ends_bind, ends_registry, ends_liftError]
  cases named : (console.taking space statement).registry.lookup statement.name with
  | error cause =>
    refine replays (.fail fun owner entry found => ?_)
    rw [named] at found
    cases found
  | ok found =>
    obtain ⟨owner, entry⟩ := found
    cases entry with
    | command command =>
      exact ends_bind_of_keeps (keeps_runCommand steps calls (replays (.command named)))
        fun _ _ kept => kept
    | setting setting =>
      simp only [Except.mapError]
      split
      · rename_i answers
        exact keeps_replay_setting calls replays named answers
      · rename_i silent
        have unheard : setting.onChange = none := by simpa using silent
        have kept : holds ((console.taking space statement).notifying handler true owner setting
            setting.current) := replays (.change named fun answers => absurd answers silent)
        simp only [Console.notifying, unheard] at kept
        exact kept

end Taken

/-- A flush stops where nothing is due; otherwise it takes the statement that is due, replays it and
goes on. -/
theorem ends_flush {serial rounds : Nat} {console : Console κ}
    {good : Except Fault Unit → Console κ → Prop}
    (idle : (∀ space ∈ console.registry.spaces, space.serial = serial → space.due? = none) →
      good (.ok ()) console)
    (next : ∀ space ∈ console.registry.spaces, space.serial = serial →
      ∀ handler statement, space.due? = some (handler, statement) →
        match rounds with
        | 0 => good (.error .exhausted) console
        | rounds + 1 =>
          Ends (reporting () (replay run handler statement)) (console.taking space statement)
            fun result after =>
              match result with
              | .ok _ => Ends (flush run serial rounds) after good
              | .error fault => good (.error fault) after) :
    Ends (flush run serial rounds) console good := by
  rw [flush.eq_def, ends_bind, ends_registry]
  simp only
  split
  · rename_i none
    apply idle
    intro space present same
    rw [← same, Registry.space?_of_mem present] at none
    exact none
  · rename_i handler statement isDue
    obtain ⟨space, found, due⟩ := Option.bind_eq_some_iff.mp isDue
    obtain ⟨present, rfl⟩ := Registry.mem_of_space? found
    have step := next space present rfl handler statement due
    cases rounds with
    | zero => exact step
    | succ rounds =>
      simp only
      rw [ends_bind, ends_update, ends_bind, ends_record, ends_bind]
      exact step

theorem ends_flush_of_idle {rounds : Nat} {console : Console κ} {space : Namespace κ}
    (present : space ∈ console.registry.spaces) (idle : space.due? = none)
    {good : Except Fault Unit → Console κ → Prop} (ends : good (.ok ()) console) :
    Ends (flush run space.serial rounds) console good := by
  apply ends_flush (fun _ => ends)
  intro other member same handler statement due
  rw [Registry.eq_of_serial present member same, idle] at due
  cases due

theorem ends_flush_of_due {rounds : Nat} {console : Console κ} {space : Namespace κ}
    (present : space ∈ console.registry.spaces) {handler : Handler} {statement : Statement}
    (due : space.due? = some (handler, statement)) {good : Except Fault Unit → Console κ → Prop}
    (ends : Ends (reporting () (replay run handler statement)) (console.taking space statement)
      fun result after =>
        match result with
        | .ok _ => Ends (flush run space.serial rounds) after good
        | .error fault => good (.error fault) after) :
    Ends (flush run space.serial (rounds + 1)) console good := by
  refine ends_flush (fun idle => ?_) fun other member same head first isDue => ?_
  · rw [idle space present rfl] at due
    cases due
  · rw [Registry.eq_of_serial present member same, due] at isDue
    obtain ⟨rfl, rfl⟩ := Prod.mk.inj (Option.some.inj isDue)
    rw [Registry.eq_of_serial present member same]
    exact ends

theorem keeps_flush
    (steps : ∀ {before after : Console κ}, Step before after → holds before → holds after)
    (turns : ∀ {before after : Console κ}, Turn before after → holds before → holds after)
    (calls : RunnerKeeps holds run) (serial rounds : Nat) :
    Keeps holds (flush run serial rounds) := by
  induction rounds with
  | zero => exact fun console start => ends_flush (fun _ => start) fun _ _ _ _ _ _ => start
  | succ rounds ih =>
    intro console start
    apply ends_flush (fun _ => start)
    intro space present _ handler statement due
    have replayed := keeps_replay steps calls fun replay =>
      turns (.replay present due replay) start
    apply replayed.mono
    intro result after kept
    cases result with
    | ok _ => exact ih after kept
    | error fault => exact kept

/-- What steps and turns keep is kept by every way of attaching a handler. -/
theorem Invariants.of_turns
    (steps : ∀ {before after : Console κ}, Step before after → holds before → holds after)
    (turns : ∀ {before after : Console κ}, Turn before after → holds before → holds after) :
    Invariants fun _ : Unit => holds where
  steps := steps
  attaches := by
    intro run calls rounds _ serial handler console start
    simp only [setHandler, ends_bind, ends_registry]
    cases found : console.registry.space? serial with
    | none => exact start
    | some before =>
      obtain ⟨present, rfl⟩ := Registry.mem_of_space? found
      have attached : holds (console.handling before handler) :=
        turns (.attach handler present) start
      simp only [ends_bind, ends_update, ends_record]
      split
      · exact keeps_flush steps turns (calls ()) _ _ _ attached
      · exact attached

end Replay

section Callbacks

variable {ι : Type} {holds : ι → Console κ → Prop}

theorem keeps_runScript {kept : Console κ → Prop} {perform : Operation κ → Action κ (Reply κ)}
    (keeps : ∀ operation, Keeps kept (perform operation)) (script : Script κ) :
    Keeps kept (runScript perform script) := by
  induction script with
  | done handled => exact fun _ start => start
  | fail fault => exact fun _ start => start
  | ask operation next ih =>
    intro console start
    rw [runScript]
    apply ends_bind_of_keeps (keeps operation console start)
    intro reply after kept
    split
    · exact kept
    · exact ih reply after kept

theorem ends_calling {kept : Console κ → Prop}
    (steps : ∀ {before after : Console κ}, Step before after → kept before → kept after)
    {call : Call κ} {action : Action κ Bool} {console : Console κ}
    (ends : Ends action (console.calling call) fun _ after => kept after) :
    Ends (calling call action) console fun result after => kept after ∧
      ∀ fault, result = .error fault → .ended call (some fault) ∈ after.trace := by
  simp only [calling, ends_bind, ends_registry, ends_record, ends_tryCatch, ends_pure, ends_throw]
  apply ends.mono
  intro result after still
  cases result with
  | ok handled => exact ⟨steps (.tell trivial) still, fun fault same => by cases same⟩
  | error fault =>
    refine ⟨steps (.tell trivial) still, ?_⟩
    rintro _ ⟨⟩
    exact List.mem_cons_self

/-- Callbacks keep what operations keep, however deep they nest. -/
theorem Invariants.runWithin (invariants : Invariants holds) (conduct : Conduct κ) (bound : Nat)
    (index : ι) : RunnerKeeps (holds index) (runWithin conduct bound) := by
  -- On how deep callbacks may still nest: what a script asks for is done by callbacks one deeper.
  induction bound generalizing index with
  | zero => exact fun call console start => ends_calling invariants.steps start
  | succ bound ih =>
    intro call console start
    refine ends_calling invariants.steps ?_
    rw [ends_bind, ends_get]
    refine keeps_runScript (fun operation => ?_) _ _ start
    exact keeps_perform invariants.steps (ih index)
      (fun space handler => invariants.attaches ih bound index space handler) _ operation

/-- An operation keeps every invariant, whoever asks for it. -/
theorem Invariants.perform (invariants : Invariants holds) (conduct : Conduct κ)
    (bound rounds : Nat) (call : Option (Call κ)) (operation : Operation κ) (index : ι) :
    Keeps (holds index) (perform (CommandConsole.runWithin conduct bound) rounds call operation) :=
  keeps_perform invariants.steps (invariants.runWithin conduct bound index)
    (fun space handler => invariants.attaches (invariants.runWithin conduct bound) rounds index
      space handler) call operation

theorem Invariants.act (invariants : Invariants holds) (conduct : Conduct κ) (bound : Nat)
    (operation : Operation κ) (index : ι) :
    Keeps (holds index) (Console.act conduct bound operation) :=
  invariants.perform conduct bound bound none operation index

end Callbacks

namespace Console

/-- The consoles of a host: an empty one, one after any operation that the host asks for, whatever
its callbacks do then, and one whose files somebody else has changed. -/
inductive Reachable : Console κ → Prop
  | empty (config : Config) (storage : Storage) : Reachable (empty config storage)
  | act {console : Console κ} (conduct : Conduct κ) (bound : Nat) (operation : Operation κ)
      (reachable : Reachable console) :
      Reachable ((act conduct bound operation).after console)
  | store {console : Console κ} (storage : Storage) (reachable : Reachable console) :
      Reachable { console with storage := storage }

/-- The console after operations that the host asks for one after the other. -/
def actAll (console : Console κ) (conduct : Conduct κ) (bound : Nat)
    (operations : List (Operation κ)) : Console κ :=
  operations.foldl (fun before operation => (act conduct bound operation).after before) console

theorem Reachable.actAll (conduct : Conduct κ) (bound : Nat) (operations : List (Operation κ))
    {console : Console κ} (reachable : console.Reachable) :
    (console.actAll conduct bound operations).Reachable := by
  induction operations generalizing console with
  | nil => exact reachable
  | cons operation rest ih => exact ih (.act conduct bound operation reachable)

theorem Reachable.holds {ι : Type} {holds : ι → Console κ → Prop}
    [ignores : ∀ index, IgnoresFiles (holds index)] (invariants : Invariants holds) (index : ι)
    (initially : ∀ config storage, holds index (Console.empty config storage))
    {console : Console κ} (reachable : console.Reachable) : holds index console := by
  induction reachable with
  | empty config storage => exact initially config storage
  | act conduct bound operation _ ih =>
    exact (ends_after _ _ _).mp (invariants.act conduct bound operation index _ ih)
  | store storage _ ih => exact (ignores index).store storage ih

theorem Reachable.holds_of_turns {holds : Console κ → Prop} [IgnoresFiles holds]
    (steps : ∀ {before after : Console κ}, Step before after → holds before → holds after)
    (turns : ∀ {before after : Console κ}, Turn before after → holds before → holds after)
    (initially : ∀ config storage, holds (Console.empty config storage))
    {console : Console κ} (reachable : console.Reachable) : holds console :=
  reachable.holds (Invariants.of_turns steps turns) () initially

end Console

end CommandConsole
