import CommandConsole.Proofs.Queue.Debt

set_option autoImplicit false

namespace CommandConsole

open CommandConsole.Action

variable {κ : Type}

section Replays

variable {run : Runner κ}

/-- Where faults come from callbacks only, reporting leaves those that are no console errors. -/
theorem ends_reporting_calm {holds : Console κ → Prop}
    (steps : ∀ {before after : Console κ}, Step before after → holds before → holds after)
    {console : Console κ} {action : Action κ Unit}
    (ends : Ends action console fun result after => holds after ∧ ∀ fault, result = .error fault →
      ∃ call, .ended call (some fault) ∈ after.trace) :
    Ends (reporting () action) console fun result after => holds after ∧
      ∀ fault, result = .error fault → ¬Calm after.trace := by
  rw [ends_reporting]
  apply ends.mono
  intro result after ended
  obtain ⟨kept, told⟩ := ended
  cases result with
  | ok value => exact ⟨kept, fun fault same => by cases same⟩
  | error fault =>
    obtain ⟨call, isTold⟩ := told fault rfl
    cases fault with
    | console cause => exact ⟨holds_wrote steps kept _, fun fault same => by cases same⟩
    | _ => exact ⟨kept, fun fault same calm => nomatch calm _ isTold⟩

/-- Replaying a statement that a registered namespace has queued itself ends with a fault only if a
callback does, and not with a console error. -/
theorem ends_replay {holds : Console κ → Prop}
    (steps : ∀ {before after : Console κ}, Step before after → holds before → holds after)
    (calls : RunnerKeeps holds run) {console : Console κ} {handler : Handler} {space : Namespace κ}
    {statement : Statement} (sound : console.registry.Sound)
    (present : space ∈ console.registry.table) (owned : space.Owns statement)
    (described : space.IsDescribed)
    (replays : ∀ {after : Console κ}, Replay console handler space statement after → holds after) :
    Ends (reporting () (replay run handler statement)) (console.taking space statement)
      fun result after => holds after ∧ ∀ fault, result = .error fault → ¬Calm after.trace := by
  obtain ⟨entry, member, isFound, -, kinds⟩ := owned.lookup_taking sound present
  apply ends_reporting_calm steps
  simp only [replay, ends_bind, ends_registry, ends_liftError, isFound, Except.mapError]
  cases entry with
  | command command =>
    rw [ends_bind]
    have ran := ends_runCommand steps calls (replays (.command isFound))
    apply ran.mono
    intro result after ended
    obtain ⟨kept, told⟩ := ended
    cases result with
    | ok handled => exact ⟨kept, fun fault same => by cases same⟩
    | error fault =>
      refine ⟨kept, ?_⟩
      rintro _ ⟨⟩
      apply (told fault rfl).resolve_right
      intro long
      rw [described command member] at long
      cases long
  | setting setting =>
    obtain ⟨token, value, arguments, reads⟩ := kinds setting rfl
    have start := replays (.change isFound fun _ => ⟨token, [], arguments, reads⟩)
    simp only
    split
    · simp only [arguments, valueOf, reads, pure_bind]
      exact ends_notify calls start
    · rename_i silent
      have unheard : setting.onChange = none := by simpa using silent
      simp only [Console.notifying, unheard] at start
      exact ⟨start, fun fault same => by cases same⟩

variable {past : List (Event κ)} {bounds : ℕ → WithBot ℕ}

/-- Replaying the queue of a namespace that has left the table changes nothing for the others. -/
theorem keeps_flush_retired (calls : RunnerKeeps (Bounded past bounds) run) {serial : Nat}
    (retired : bounds serial = ⊥) (rounds : Nat) :
    Keeps (Bounded past bounds) (flush run serial rounds) := by
  induction rounds with
  | zero => exact fun console start => ends_flush (fun _ => start) fun _ _ _ _ _ _ => start
  | succ rounds ih =>
    intro console start
    apply ends_flush (fun _ => start)
    intro space present isSpace handler statement due
    have left := (start.base.retired _ retired).2
    have taken : Bounded past bounds (console.taking space statement) := by
      apply start.of_effects (Effect.take present due).once
      intro _ owes
      apply owes.update Namespace.keepsShape_dequeue
      intro former isFormer same
      have still : former.dequeue.isRegistered = false := left former isFormer (same.trans isSpace)
      exact (Namespace.debt_of_retired still).trans_le bot_le
    apply (keeps_replay Step.bounded calls fun replay =>
      replay.bounded taken).mono
    intro result after kept
    cases result with
    | ok _ => exact ih after kept
    | error fault => exact kept

/-- A round of a replay lowers the bound of its namespace, and ends with a fault only if something
has got in the way. -/
theorem ends_replay_taken (calls : ∀ past bounds, RunnerKeeps (Bounded past bounds) run)
    {console : Console κ} {space : Namespace κ} {handler : Handler} {statement : Statement}
    {length : Nat} (start : Bounded past (Function.update bounds space.serial length) console)
    (present : space ∈ console.registry.spaces) (registered : space.isRegistered)
    (due : space.due? = some (handler, statement)) :
    Ends (reporting () (replay run handler statement)) (console.taking space statement)
      fun result after =>
        Bounded console.trace (Function.update bounds space.serial (length - 1 : ℕ)) after ∧
          ∀ fault, result = .error fault → ¬Orderly after.trace := by
  have owed (orderly : Orderly console.trace) : space.debt ≤ length := by
    simpa using start.owes orderly space present
  have taken := start.taking present due owed
  by_cases orderly : Orderly console.trace
  · have queued : statement ∈ space.pending :=
      (Namespace.pending_of_due due).2 ▸ List.mem_cons_self
    have owned := start.base.owned orderly.queued space present statement queued
    have described := start.base.described orderly.described space present
    apply (ends_replay Step.bounded (calls _ _) start.base.sound
      (Registry.mem_table.mpr ⟨present, registered⟩) owned described
        fun replay => replay.bounded taken).mono
    intro result after ended
    exact ⟨ended.1, fun fault same orderly => ended.2 fault same orderly.calm⟩
  · apply (keeps_replay Step.bounded (calls _ _)
      fun replay => replay.bounded taken).mono
    intro result after kept
    exact ⟨kept, fun _ _ still => orderly (still.of_suffix kept.since)⟩

/-- A namespace whose debt is bounded has replayed its queue after that many rounds. -/
theorem flush_drains (calls : ∀ past bounds, RunnerKeeps (Bounded past bounds) run) (serial : Nat)
    (rounds : Nat) {length : Nat} (enough : length ≤ rounds) {console : Console κ}
    (start : Bounded past (Function.update bounds serial length) console) :
    Ends (flush run serial rounds) console
      fun _ after => Bounded past (Function.update bounds serial (0 : ℕ)) after := by
  -- On the rounds: each one lowers the bound by one, unless the namespace has left the table.
  induction rounds generalizing length console with
  | zero =>
    obtain rfl : length = 0 := Nat.le_zero.mp enough
    exact ends_flush (fun _ => start) fun _ _ _ _ _ _ => start
  | succ rounds ih =>
    by_cases retired : IsRetired serial console.registry
    · have gone : Bounded past (Function.update bounds serial ⊥) console :=
        start.allow (fun _ => retired) fun _ space member same =>
          (Namespace.debt_of_retired (retired.2 space member same)).le
      exact (keeps_flush_retired (calls _ _) (Function.update_self ..) _ _ gone).mono
        fun _ after kept => kept.raise bot_le
    · refine ends_flush (fun idle => ?_) fun space present isSpace handler statement due => ?_
      · exact start.allow (by simp) fun _ space member same =>
          Namespace.debt_of_idle (idle space member same)
      · subst isSpace
        have registered : space.isRegistered := by
          by_contra left
          exact retired (isRetired_of_mem present (eq_false_of_ne_true left))
        have replayed := ends_replay_taken calls start present registered due
        apply replayed.mono
        intro result after ended
        obtain ⟨kept, failed⟩ := ended
        have since : Bounded past (Function.update bounds space.serial (length - 1 : ℕ)) after :=
          ⟨kept.base, start.since.trans kept.since, kept.owes⟩
        cases result with
        | ok _ => exact ih (by omega) since
        | error fault =>
          exact since.allow (by simp) fun orderly => absurd orderly (failed fault rfl)

section Handlers

variable {console : Console κ} {space : Namespace κ}

theorem flush_handled (calls : ∀ past bounds, RunnerKeeps (Bounded past bounds) run)
    (start : Bounded past bounds console) (present : space ∈ console.registry.spaces)
    (registered : space.isRegistered) (rounds : Nat) (handler : Handler) :
    Ends (flush run space.serial (space.pending.length + rounds))
      (console.handling space (some handler)) fun _ after => Bounded past bounds after := by
  have still : (space.handle (some handler)).isRegistered := registered
  have owing := start.handling present (some handler) (by simp)
    fun _ => (Namespace.debt_of_attached still rfl).le
  have expected : bounds space.serial ≠ ⊥ := by
    intro none
    rw [(start.base.retired _ none).2 space present rfl] at registered
    cases registered
  have allowed : ((0 : ℕ) : WithBot ℕ) ≤ bounds space.serial := by
    obtain ⟨length, same⟩ := WithBot.ne_bot_iff_exists.mp expected
    exact same ▸ Nat.WithBot.coe_nonneg
  exact (flush_drains calls space.serial _ (Nat.le_add_right _ _) owing).mono
    fun _ after kept => kept.within allowed

/-- A namespace that is not attached anew owes no more than before. -/
theorem Bounded.handling_quiet (start : Bounded past bounds console)
    (present : space ∈ console.registry.spaces) (handler : Option Handler)
    (quiet : (space.handler.isNone && handler.isSome) = false) :
    Bounded past bounds (console.handling space handler) := by
  have owes (orderly : Orderly console.trace) :
      (space.handle handler).debt ≤ bounds space.serial := by
    have owed := start.owes orderly space present
    cases handler with
    | none => exact (Namespace.debt_of_detached rfl).trans_le bot_le
    | some next =>
      cases attached : space.handler with
      | none => simp [attached] at quiet
      | some former =>
        by_cases registered : space.isRegistered
        · rw [Namespace.debt_of_attached registered attached] at owed
          have still : (space.handle (some next)).isRegistered := registered
          exact (Namespace.debt_of_attached still rfl).trans_le owed
        · have still : (space.handle (some next)).isRegistered = false :=
            eq_false_of_ne_true registered
          exact (Namespace.debt_of_retired still).trans_le bot_le
  exact (start.handling present handler (fun none => start.base.retired _ none) owes).within le_rfl

/-- Attaching a handler lets no namespace owe more in the end: what the queue holds is replayed. -/
theorem keeps_setHandler (calls : ∀ past bounds, RunnerKeeps (Bounded past bounds) run)
    (rounds serial : Nat) (handler : Option Handler) :
    Keeps (Bounded past bounds) (setHandler run rounds serial handler) := by
  intro console start
  simp only [setHandler, ends_bind, ends_registry]
  cases found : console.registry.space? serial with
  | none => exact start
  | some before =>
    obtain ⟨present, rfl⟩ := Registry.mem_of_space? found
    simp only [ends_bind, ends_update, ends_record]
    split
    · rename_i attaches
      simp only [Bool.and_eq_true, Option.isNone_iff_eq_none] at attaches
      obtain ⟨next, rfl⟩ := Option.isSome_iff_exists.mp attaches.2
      by_cases registered : before.isRegistered
      · exact flush_handled calls start present registered rounds next
      · have retired := isRetired_of_mem present (eq_false_of_ne_true registered)
        have still : (before.handle (some next)).isRegistered = false :=
          eq_false_of_ne_true registered
        have gone := start.handling present (some next) (fun _ => retired)
          fun _ => (Namespace.debt_of_retired still).le
        exact (keeps_flush_retired (calls _ _) (Function.update_self ..) _ _ gone).mono
          fun _ after kept => kept.within bot_le
    · rename_i quiet
      exact start.handling_quiet present handler (eq_false_of_ne_true quiet)

end Handlers

end Replays

/-- Between the operations of the host, an attached namespace in the table has nothing in its queue,
if no callback has raised anything but console errors, nobody has put statements into queues past
the console and the usage of every command can be written. -/
theorem attached_drained {console : Console κ} (reachable : console.Reachable)
    (calm : Calm console.trace) (described : Described console.trace)
    (queued : NeverEnqueued console.trace) {space : Namespace κ}
    (present : space ∈ console.registry.table) (attached : space.isAttached) :
    space.pending = [] := by
  have invariants : Invariants fun index : List (Event κ) × (ℕ → WithBot ℕ) =>
      Bounded index.1 index.2 :=
    ⟨Step.bounded, fun calls rounds index serial handler =>
      keeps_setHandler (fun past bounds => calls (past, bounds)) rounds serial handler⟩
  have bounded : Bounded [] (fun _ => (0 : ℕ)) console :=
    reachable.holds invariants ([], fun _ => (0 : ℕ)) fun _ _ =>
      ⟨⟨⟨fun _ member => absurd member List.not_mem_nil, List.nodup_nil⟩,
        fun _ _ member => absurd member List.not_mem_nil,
        fun _ _ member => absurd member List.not_mem_nil, by simp⟩, List.nil_suffix,
        fun _ _ member => absurd member List.not_mem_nil⟩
  obtain ⟨inside, registered⟩ := Registry.mem_table.mp present
  have owed := bounded.owes ⟨calm, described, queued⟩ space inside
  obtain ⟨handler, handled⟩ := Option.isSome_iff_exists.mp attached
  rw [Namespace.debt_of_attached registered handled, Nat.cast_le] at owed
  exact List.length_eq_zero_iff.mp (Nat.le_zero.mp owed)

/-- A command that, while its statement is replayed, detaches its namespace, fills the queue again,
attaches another handler and raises a console error. -/
def refilling : Conduct Unit := fun _ _ call =>
  match call.occasion with
  | .command ⟨[_, "refill"]⟩ =>
    .ask (.attach call.space none) fun _ =>
      .ask (.executeStatement ⟨["N.go", "once"]⟩) fun _ =>
        .ask (.executeStatement ⟨["N.go", "again"]⟩) fun _ =>
          .ask (.attach call.space (some .console)) fun _ =>
            .fail (.console (.raised "enough"))
  | _ => .done true

/-- A console whose queue has been filled again while it was replayed. -/
def refilled : Console Unit :=
  (Console.empty .standard .empty).actAll refilling 3
    [.create ⟨.text "N", [⟨.text "go", some (.host ()), .null⟩], []⟩,
      .executeStatement ⟨["go", "refill"]⟩, .executeStatement ⟨["go", "last"]⟩,
      .attach 0 (some (.label "first"))]

theorem refilled_drained :
    ∃ space ∈ refilled.registry.table, space.handler = some .console ∧ space.pending = [] := by
  have handlers : refilled.registry.table.map (·.handler) = [some .console] := by decide +kernel
  obtain ⟨space, only, handled⟩ := List.map_eq_singleton_iff.mp handlers
  have present : space ∈ refilled.registry.table := only ▸ List.mem_singleton_self space
  exact ⟨space, present, handled,
    attached_drained ((Console.Reachable.empty .standard .empty).actAll refilling 3 _)
      (by decide +kernel) (by decide +kernel) (by decide +kernel) present
      (Option.isSome_of_eq_some handled)⟩

end CommandConsole
