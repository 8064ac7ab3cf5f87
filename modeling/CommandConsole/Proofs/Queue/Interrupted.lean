import CommandConsole.Proofs.Queue.Aim
import CommandConsole.Proofs.Queue.Debt
import CommandConsole.Proofs.Queue.Work
import CommandConsole.Proofs.Run.Absorbed

set_option autoImplicit false

/-!
Replays that a fault breaks off. Main statement: attaching a detached namespace is done, or ends
with a fault that is no console error; what has been taken by then is the front of the queue, and
the rest stays in it in its order. If the namespace is attached then, another handler replays
nothing of the rest, until the namespace is detached and attached again (`attaching_leaves`).
-/
namespace CommandConsole

open CommandConsole.Action

variable {κ : Type}

theorem Namespace.due?_eq_none {space : Namespace κ} :
    space.due? = none ↔ space.pending = [] ∨ space.handler = none := by
  unfold due?
  cases space.handler <;> cases space.pending <;> simp

def Registry.IsIdle (registry : Registry κ) (serial : Nat) : Prop :=
  ∀ space ∈ registry.spaces, space.serial = serial → space.due? = none

/-- What has become of a queue while something has been done: of what was in it and what it has
accepted since, the front has been taken and the rest is in it. -/
def Passes (serial : Nat) (earlier later : List (Event κ)) (before replayed now : List Statement) :
    Prop :=
  taken serial later = taken serial earlier ++ replayed ∧
    ∃ queued, accepted serial later = accepted serial earlier ++ queued ∧
      before ++ queued = replayed ++ now

theorem mem_taken {serial : Nat} {statement : Statement} {events : List (Event κ)}
    (member : .taken serial statement ∈ events) : statement ∈ taken serial events :=
  List.mem_filterMap.mpr ⟨_, List.mem_reverse.mpr member, if_pos rfl⟩

/-- The account of a queue in the table, at two moments. -/
theorem passes_of_accounted {former latter : Registry κ} {events earlier : List (Event κ)}
    {space now : Namespace κ} (before : Accounted former earlier)
    (after : Accounted latter (events ++ earlier)) (present : space ∈ former.table)
    (still : now ∈ latter.table) (same : now.serial = space.serial) :
    Passes space.serial earlier (events ++ earlier) space.pending (taken space.serial events)
      now.pending := by
  refine ⟨chronicle_append .., accepted space.serial events, chronicle_append .., ?_⟩
  have first := before.balanced space present
  have last := after.balanced now still
  rw [same, accepted, taken, chronicle_append, chronicle_append] at last
  rw [accepted, taken] at first
  rw [first, List.append_assoc, List.append_assoc] at last
  exact List.append_cancel_left last

section Setting

variable {run : Runner κ} {console : Console κ} {space : Namespace κ}

/-- Nothing can be replayed where a flush comes to its end. -/
theorem ends_flush_idle (serial rounds : Nat) (console : Console κ) :
    Ends (flush run serial rounds) console fun result after =>
      result = .ok () → after.registry.IsIdle serial := by
  induction rounds generalizing console with
  | zero => exact ends_flush (fun idle _ => idle) fun _ _ _ _ _ _ same => by cases same
  | succ rounds ih =>
    refine ends_flush (fun idle _ => idle) fun owner _ _ handler statement _ =>
      (ends_iff _).mpr ?_
    cases result (reporting () (replay run handler statement)) _ with
    | ok _ => exact ih _
    | error fault => exact fun same => by cases same

/-- A detached namespace that has been given a handler has nothing to replay in the end. -/
theorem ends_setHandler_idle (present : space ∈ console.registry.spaces)
    (detached : space.handler = none) (rounds : Nat) (handler : Option Handler) :
    Ends (setHandler run rounds space.serial handler) console fun result after =>
      result = .ok () → after.registry.IsIdle space.serial := by
  simp only [setHandler, ends_bind, ends_registry, Registry.space?_of_mem present, ends_update,
    ends_record, detached, Option.isNone_none, Bool.true_and]
  cases handler with
  | some handler => exact ends_flush_idle _ _ _
  | none =>
    refine fun _ now member same => Namespace.due?_eq_none.mpr (.inr ?_)
    obtain ⟨former, isFormer, rfl⟩ :=
      (Registry.mem_update (Namespace.keepsShape_handle none)).mp member
    rw [apply_ite Namespace.serial, show (former.handle none).serial = former.serial from rfl,
      ite_self] at same
    rw [if_pos (by simpa using same)]
    rfl

/-- The front of the queue is taken as soon as a detached namespace is attached. -/
theorem ends_setHandler_takes
    (calls : ∀ past : List (Event κ), RunnerKeeps (fun now => past <:+ now.trace) run)
    (present : space ∈ console.registry.spaces) (detached : space.handler = none)
    {statement : Statement} {rest : List Statement} (queued : space.pending = statement :: rest)
    (rounds : Nat) (handler : Handler) :
    Ends (setHandler run rounds space.serial (some handler)) console fun _ after =>
      ∃ events, after.trace = events ++ console.trace ∧
        .taken space.serial statement ∈ events := by
  have length : space.pending.length + rounds = rest.length + rounds + 1 := by
    rw [queued, List.length_cons]
    omega
  have handled : space.handle (some handler) ∈
      (console.handling space (some handler)).registry.spaces :=
    Registry.mem_update_self (Namespace.keepsShape_handle _) present
  have due : (space.handle (some handler)).due? = some (handler, statement) := by
    simp only [Namespace.due?, Namespace.handle, queued]
  simp only [setHandler, ends_bind, ends_registry, Registry.space?_of_mem present, ends_update,
    ends_record, detached, Option.isNone_none, Option.isSome_some, Bool.and_self, if_true, length]
  have steps {past : List (Event κ)} {before after : Console κ} (step : Step before after)
      (suffix : past <:+ before.trace) : past <:+ after.trace :=
    suffix.trans step.suffix
  have turns {past : List (Event κ)} {before after : Console κ} (turn : Turn before after)
      (suffix : past <:+ before.trace) : past <:+ after.trace :=
    suffix.trans turn.suffix
  let past := .taken space.serial statement :: .attached space.serial (some handler) ::
    console.trace
  suffices kept : Ends (flush run space.serial (rest.length + rounds + 1))
      (console.handling space (some handler)) fun _ after => past <:+ after.trace by
    apply kept.mono
    rintro _ after ⟨events, same⟩
    refine ⟨events ++ [.taken space.serial statement, .attached space.serial (some handler)], ?_,
      by simp⟩
    rw [← same, List.append_assoc]
    rfl
  refine ends_flush_of_due handled due ?_
  have replayed : Ends (reporting () (replay run handler statement))
      ((console.handling space (some handler)).taking (space.handle (some handler)) statement)
      fun _ after => past <:+ after.trace :=
    keeps_replay steps (calls past) fun replay => suffix_of_effects replay.effects
  apply replayed.mono
  intro result after suffix
  cases result with
  | ok _ => exact keeps_flush steps turns (calls past) _ _ _ suffix
  | error fault => exact suffix

end Setting

section Attaching

variable (conduct : Conduct κ) (bound : Nat) {console : Console κ} {space : Namespace κ}
  {handler : Option Handler} {operation : Operation κ}

/-- A namespace in the table gets its handler, and the reply says how that has ended. -/
theorem ends_attaching (attaches : operation.Attaches space.serial handler)
    (present : space ∈ console.registry.table) {good : Except Fault (Reply κ) → Console κ → Prop}
    (ends : Ends (setHandler (runWithin conduct bound) bound space.serial handler)
      (console.tell (.asked none operation)) fun result after =>
        good (.ok (.ofResult (result.map fun _ => .done)))
          (after.tell (.answered none (.ofResult (result.map fun _ => .done)) after.registry))) :
    Ends (Console.act conduct bound operation) console good := by
  obtain ⟨inside, registered⟩ := Registry.mem_table.mp present
  have isInside : space ∈ (console.tell (.asked none operation)).registry.spaces := inside
  refine ends_perform.mpr ?_
  rcases attaches with rfl | rfl
  · simp only [carryOut, attach, ends_bind, ends_registry, Registry.space?_of_mem isInside,
      registered, if_true, ends_pure]
    apply ends.mono
    intro result after isGood
    cases result <;> exact isGood
  · simp only [carryOut, ends_bind, ends_pure]
    apply ends.mono
    intro result after isGood
    cases result <;> exact isGood

/-- A namespace that is not attached anew only gets another handler: nothing is replayed. -/
theorem ends_attaching_quiet (attaches : operation.Attaches space.serial handler)
    (present : space ∈ console.registry.table)
    (quiet : (space.handler.isNone && handler.isSome) = false) :
    Ends (Console.act conduct bound operation) console fun result after =>
      result = .ok .done ∧
        after.registry = console.registry.update space.serial (·.handle handler) ∧
        calls after.trace = calls console.trace := by
  obtain ⟨inside, -⟩ := Registry.mem_table.mp present
  have isInside : space ∈ (console.tell (.asked none operation)).registry.spaces := inside
  refine ends_attaching conduct bound attaches present ?_
  simp only [setHandler, ends_bind, ends_registry, Registry.space?_of_mem isInside, ends_update,
    ends_record, quiet, Bool.false_eq_true, if_false, ends_pure]
  refine ⟨rfl, rfl, ?_⟩
  simp [calls, Console.tell, Console.change, chronicle_cons, Event.call?]

/-- What attaching a detached namespace leaves of it in the table. -/
structure Leaves (before after : Console κ) (space now : Namespace κ) (handler : Option Handler)
    (reply : Reply κ) (replayed : List Statement) : Prop where
  passes : Passes space.serial before.trace after.trace space.pending replayed now.pending
  begun : handler.isSome → space.pending ≠ [] → replayed ≠ []
  finished : reply = .done → now.pending = [] ∨ now.handler = none
  /-- Whatever is left in the queue stays there while handlers of an attached namespace are
  exchanged, and when the handler is taken away. -/
  waits : ∀ other : Option Handler, now.handler.isSome ∨ other = none →
    ∀ (conduct : Conduct κ) (bound : Nat) (operation : Operation κ),
      operation.Attaches space.serial other →
        let final := (Console.act conduct bound operation).after after
        (Console.act conduct bound operation).result after = .ok .done ∧
          now.handle other ∈ final.registry.table ∧ calls final.trace = calls after.trace

/-- Attaching a detached namespace leaves nothing that can be replayed, or ends with a fault that is
no console error. -/
theorem ends_attaching_detached (present : space ∈ console.registry.table)
    (detached : space.handler = none) (attaches : operation.Attaches space.serial handler) :
    Ends (Console.act conduct bound operation) console fun result after =>
      result = .ok .done ∧ after.registry.IsIdle space.serial ∨
        ∃ fault, result = .ok (.failed fault) ∧ fault.isConsole = false := by
  have inside : space ∈ (console.tell (.asked none operation)).registry.spaces :=
    (Registry.mem_table.mp present).1
  refine ends_attaching conduct bound attaches present ((ends_iff _).mpr ?_)
  have idle : Ends (setHandler (runWithin conduct bound) bound space.serial handler)
      (console.tell (.asked none operation)) _ :=
    ends_setHandler_idle inside detached bound handler
  replace idle := (ends_iff _).mp idle
  have attachment : Absorbs (setHandler (runWithin conduct bound) bound space.serial handler) :=
    absorbs_setHandler bound space.serial handler
  have absorbed := (ends_iff _).mp (attachment (console.tell (.asked none operation)))
  revert idle absorbed
  cases result (setHandler (runWithin conduct bound) bound space.serial handler) _ with
  | ok _ => exact fun idle _ => .inl ⟨rfl, idle rfl⟩
  | error fault =>
    refine fun _ absorbed => .inr ⟨fault, rfl, ?_⟩
    cases fault with
    | console cause => exact absurd rfl (absorbed cause)
    | _ => rfl

theorem ends_attaching_takes (present : space ∈ console.registry.table)
    (detached : space.handler = none) {next : Handler}
    (attaches : operation.Attaches space.serial (some next)) {statement : Statement}
    {rest : List Statement} (queued : space.pending = statement :: rest) :
    Ends (Console.act conduct bound operation) console fun _ after =>
      ∃ events, after.trace = events ++ console.trace ∧
        .taken space.serial statement ∈ events := by
  have inside : space ∈ (console.tell (.asked none operation)).registry.spaces :=
    (Registry.mem_table.mp present).1
  refine ends_attaching conduct bound attaches present ?_
  apply (ends_setHandler_takes (fun past => (Invariants.suffix past).runWithin conduct bound ())
    inside detached queued bound next).mono
  rintro result after ⟨events, same, isTaken⟩
  refine ⟨.answered none (.ofResult (result.map fun _ => .done)) after.registry ::
    (events ++ [.asked none operation]), ?_, by simp [isTaken]⟩
  simp [Console.tell, same]

theorem Namespace.handle_mem_table {registry : Registry κ} {space : Namespace κ}
    (present : space ∈ registry.table) (handler : Option Handler) :
    space.handle handler ∈ (registry.update space.serial (·.handle handler)).table := by
  obtain ⟨inside, registered⟩ := Registry.mem_table.mp present
  exact Registry.mem_table.mpr
    ⟨Registry.mem_update_self (Namespace.keepsShape_handle _) inside, registered⟩

/-- Attaching a detached namespace is done, or ends with a fault that is no console error. By then
the front of its queue has been taken, and at least one statement if there is a handler. The others
are in the queue in their order; if it is not done, the namespace may be attached with them, and
then no other handler replays them before the namespace is detached. -/
theorem attaching_leaves (reachable : console.Reachable) (present : space ∈ console.registry.table)
    (detached : space.handler = none) (attaches : operation.Attaches space.serial handler) :
    let after := (Console.act conduct bound operation).after console
    ∃ reply replayed, (Console.act conduct bound operation).result console = .ok reply ∧
      (reply = .done ∨ ∃ fault, reply = .failed fault ∧ fault.isConsole = false) ∧
      ∀ now ∈ after.registry.table, now.serial = space.serial →
        Leaves console after space now handler reply replayed := by
  intro after
  obtain ⟨events, told⟩ := console.suffix_act conduct bound operation
  have ended := (ends_iff _).mp (ends_attaching_detached conduct bound present detached attaches)
  obtain ⟨reply, replied, good⟩ : ∃ reply,
      (Console.act conduct bound operation).result console = .ok reply ∧
        (reply = .done ∧ after.registry.IsIdle space.serial ∨
          ∃ fault, reply = .failed fault ∧ fault.isConsole = false) := by
    rcases ended with ⟨replied, idle⟩ | ⟨fault, replied, other⟩
    · exact ⟨_, replied, .inl ⟨rfl, idle⟩⟩
    · exact ⟨_, replied, .inr ⟨fault, rfl, other⟩⟩
  refine ⟨reply, taken space.serial events, replied, good.imp_left And.left,
    fun now still same => ⟨?_, ?_, ?_, ?_⟩⟩
  -- What has been taken is the difference of the accounts of the queue at the two moments.
  · have earlier := (reachable.queuesInOrder _ List.mem_cons_self).accounted
    have later := ((reachable.act conduct bound operation).queuesInOrder _
      List.mem_cons_self).accounted
    change Accounted after.registry after.trace at later
    rw [show after.trace = events ++ console.trace from told.symm] at later ⊢
    exact passes_of_accounted earlier later present still same
  · intro attached begun none
    obtain ⟨next, rfl⟩ := Option.isSome_iff_exists.mp attached
    obtain ⟨statement, rest, queued⟩ := List.exists_cons_of_ne_nil begun
    obtain ⟨others, alsoTold, isTaken⟩ := (ends_iff _).mp
      (ends_attaching_takes conduct bound present detached attaches queued)
    rw [← told, List.append_cancel_right_eq] at alsoTold
    have member := mem_taken (alsoTold ▸ isTaken)
    rw [none] at member
    cases member
  · rintro rfl
    rcases good with ⟨-, idle⟩ | ⟨fault, failed, -⟩
    · exact Namespace.due?_eq_none.mp (idle now (Registry.mem_table.mp still).1 same)
    · cases failed
  -- Only a namespace that goes from no handler to one is replayed.
  · intro other waits conduct bound operation attaches
    rw [← same] at attaches
    have quiet : (now.handler.isNone && other.isSome) = false := by
      rcases waits with attached | rfl
      · simp [Option.isSome_iff_ne_none.mp attached]
      · simp
    obtain ⟨done, registry, called⟩ := (ends_iff _).mp
      (ends_attaching_quiet conduct bound attaches still quiet)
    exact ⟨done, registry ▸ Namespace.handle_mem_table still other, called⟩

end Attaching

def breaking : Conduct Unit := fun _ _ call =>
  if call.entry = "break" then .fail (.crash "boom") else .done true

/-- A console with a detached namespace and three commands in its queue, of which the second breaks
down. -/
def awaiting : Console Unit :=
  (Console.empty .standard .empty).actAll breaking 3
    [.create ⟨.text "N", [⟨.text "break", some (.host ()), .null⟩,
        ⟨.text "go", some (.host ()), .null⟩], []⟩,
      .execute "go first", .execute "break", .execute "go last"]

def interrupted : Console Unit :=
  awaiting.actAll breaking 3 [.attach 0 (some (.label "one"))]

/-- What is left in the queue of an attached namespace when its replay has been broken off stays
there when the next handler is attached, and nothing is called. -/
theorem interrupted_stranded :
    ((Console.act breaking 3 (.attach 0 (some (.label "one")))).result awaiting matches
      .ok (.failed (.crash "boom"))) ∧
    (interrupted.registry.table.map fun space => (space.handler, space.pending)) =
      [(some (.label "one"), [⟨["N.go", "last"]⟩])] ∧
    ((Console.act breaking 3 (.attach 0 (some (.label "two")))).result interrupted matches
      .ok .done) ∧
    let again := interrupted.actAll breaking 3 [.attach 0 (some (.label "two"))]
    (again.registry.table.map fun space => (space.handler, space.pending)) =
      [(some (.label "two"), [⟨["N.go", "last"]⟩])] ∧
    (calls again.trace).length = (calls interrupted.trace).length := by
  decide +kernel

/-- The first two statements have been taken, and the last waits. -/
theorem interrupted_leaves :
    ∃ space ∈ awaiting.registry.table, ∃ now ∈ interrupted.registry.table, ∃ reply,
      Leaves awaiting interrupted space now (some (.label "one")) reply
        [⟨["N.go", "first"]⟩, ⟨["N.break"]⟩] := by
  have reachable : awaiting.Reachable :=
    (Console.Reachable.empty .standard .empty).actAll breaking 3 _
  have handlers : awaiting.registry.table.map (fun space => (space.serial, space.handler)) =
      [(0, none)] := by decide +kernel
  obtain ⟨space, only, handled⟩ := List.map_eq_singleton_iff.mp handlers
  have present : space ∈ awaiting.registry.table := only ▸ List.mem_singleton_self space
  obtain ⟨serial, detached⟩ := Prod.mk.inj handled
  have serials : interrupted.registry.table.map (·.serial) = [0] := by decide +kernel
  obtain ⟨now, onlyNow, nowSerial⟩ := List.map_eq_singleton_iff.mp serials
  have still : now ∈ interrupted.registry.table := onlyNow ▸ List.mem_singleton_self now
  obtain ⟨reply, replayed, -, -, leaves⟩ := attaching_leaves breaking 3
    reachable present detached (Or.inl (by rw [serial]) : Operation.Attaches space.serial
      (some (.label "one")) (.attach 0 (some (.label "one"))))
  have left : Leaves awaiting interrupted space now (some (.label "one")) reply replayed :=
    leaves now still (nowSerial.trans serial.symm)
  have told : taken 0 interrupted.trace = taken 0 awaiting.trace ++
      [⟨["N.go", "first"]⟩, ⟨["N.break"]⟩] := by decide +kernel
  have same := left.passes.1
  rw [serial, told, List.append_cancel_left_eq] at same
  exact ⟨space, present, now, still, reply, same ▸ left⟩

end CommandConsole
