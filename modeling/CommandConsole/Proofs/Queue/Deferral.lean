import CommandConsole.Proofs.Queue.Alike

set_option autoImplicit false

namespace CommandConsole

open CommandConsole.Action

variable {κ : Type}

section Runs

variable {conduct : Conduct κ} {rounds : Nat} {start first second : Console κ}
  {space : Namespace κ} {handler : Handler} {works : List Work}

/-- A detached namespace that gets a handler replays its queue. -/
theorem ends_attach {run : Runner κ} (present : space ∈ start.registry.table)
    (detached : space.handler = none) (good : Except Fault Unit → Console κ → Prop) :
    Ends (attach run rounds space.serial (some handler)) start good ↔
      Ends (flush run space.serial (space.pending.length + rounds))
        (start.handling space (some handler)) good := by
  obtain ⟨member, registered⟩ := Registry.mem_table.mp present
  simp only [attach, setHandler, ends_bind, ends_registry, Registry.space?_of_mem member,
    registered, if_true, ends_update, ends_record, detached, Option.isNone_none,
    Option.isSome_some, Bool.and_self]
  exact Iff.rfl

theorem mem_table_handling (present : space ∈ start.registry.table) (handler : Option Handler) :
    space.handle handler ∈ (start.handling space handler).registry.table := by
  obtain ⟨member, registered⟩ := Registry.mem_table.mp present
  have handled := Registry.mem_update_self (Namespace.keepsShape_handle handler) member
  exact Registry.mem_table.mpr ⟨handled, registered⟩

/-- A detached namespace that gets a handler makes the calls that there are to make for the work
that its queue carries. -/
theorem ends_attach_carried {run : Runner κ} (sound : start.registry.Sound)
    (present : space ∈ start.registry.table) (detached : space.handler = none)
    (records : space.Records run) (described : space.IsDescribed)
    (carried : List.Forall₂ (Work.IsCarried space) works space.pending) :
    Ends (attach run rounds space.serial (some handler)) start fun _ after =>
      after.registry = start.registry.settle space.serial handler ∧
      calls after.trace = calls start.trace ++
        works.filterMap fun work => (work.requalified space).call? space handler true := by
  have handled : Effect start (start.handling space (some handler)) :=
    .handle _ (Registry.mem_table.mp present).1
  rw [ends_attach present detached]
  apply (ends_flush_carried (handled.sound sound) (mem_table_handling present (some handler)) rfl
    records described (carried.imp fun _ _ isCarried => isCarried.of_shape rfl)
      (Nat.le_add_right _ _)).mono
  intro _ after ended
  obtain ⟨-, registry, called⟩ := ended
  have quiet : calls (start.handling space (some handler)).trace = calls start.trace :=
    (chronicle_cons _ _ _).trans (List.append_nil _)
  constructor
  · rw [registry]
    exact Registry.update_update _ _ (fun _ => rfl) serial_drained
  · have same : (space.handle (some handler)).shape = space.shape := rfl
    simpa only [requalified_of_shape same, call?_of_shape same, quiet] using called

/-- Where there is nothing in the queue, the attached run begins with nothing but the handler. -/
theorem Deferring.attach (conduct : Conduct κ) (rounds : Nat) (handler : Handler)
    (sound : start.registry.Sound) (present : space ∈ start.registry.table)
    (detached : space.handler = none) (empty : space.pending = []) :
    Deferring start space handler [] start
      ((Console.act conduct rounds (.attach space.serial (some handler))).after start) := by
  refine (ends_after _ _ (Deferring start space handler [] start)).mp (ends_act ?_)
  have member := (Registry.mem_table.mp present).1
  have asked : space ∈ (start.tell (.asked none
      (.attach space.serial (some handler)))).registry.table := present
  simp only [CommandConsole.carryOut, ends_bind, ends_pure]
  rw [ends_attach asked detached]
  have handled := (Registry.mem_table.mp (mem_table_handling asked (some handler))).1
  have idle : (space.handle (some handler)).due? = none := by
    simp [Namespace.due?, Namespace.handle, empty]
  apply ends_flush_of_idle handled idle
  intro reply
  refine ⟨rfl, sound, ?_, ⟨space, member, rfl, detached, ?_⟩, rfl, ?_, ?_⟩
  · exact Registry.update_congr member (fun _ => rfl) (Namespace.serial_settle handler)
      (by rw [Namespace.settle, ← empty, Namespace.handle])
  · cases isPlaces : space.limit.places <;> simp [Limit.fitting, isPlaces, empty]
  · simp [Console.handling, Console.tell, Console.change, calls, chronicle_cons, Event.call?]
  · simp [Console.handling, Console.tell, Console.change, worksOf, chronicle_cons, Event.work?]

/-- The detached run catches up when its namespace gets the handler. -/
theorem Deferring.catchUp (deferrable : IsDeferrable (runWithin conduct rounds) space)
    (deferring : Deferring start space handler works first second)
    (present : space ∈ start.registry.table) :
    let after := (Console.act conduct rounds (.attach space.serial (some handler))).after first
    after.registry = second.registry ∧
      calls after.trace = calls start.trace ++ (space.limit.fitting works).filterMap
        fun work => (work.requalified space).call? space handler true := by
  have asked : Deferring start space handler works
      (first.tell (.asked none (.attach space.serial (some handler)))) second :=
    deferring.told ((Tells.refl first).tell rfl) (.refl second)
  obtain ⟨now, member, same, detached, carried⟩ := asked.queue
  have shape := asked.shape (Registry.mem_table.mp present).1 member same
  have registered : now.isRegistered := (congrArg (·.isRegistered) shape).trans
    (Registry.mem_table.mp present).2
  have records : now.Records (runWithin conduct rounds) := fun call isNow named =>
    deferrable.recorded shape (isNow.trans same) named
  refine (ends_after _ _ fun after => after.registry = second.registry ∧
    calls after.trace = calls start.trace ++ (space.limit.fitting works).filterMap
      fun work => (work.requalified space).call? space handler true).mp (ends_act ?_)
  simp only [CommandConsole.carryOut, ends_bind, ends_pure]
  rw [← same] at asked ⊢
  apply (ends_attach_carried asked.sound (Registry.mem_table.mpr ⟨member, registered⟩) detached
    records (deferrable.described.of_shape shape)
    (carried.imp fun _ _ isCarried => isCarried.of_shape shape)).mono
  intro result after ended
  obtain ⟨registry, called⟩ := ended
  have answered (reply : Reply κ) :
      (after.tell (.answered none reply after.registry)).registry = second.registry ∧
        calls (after.tell (.answered none reply after.registry)).trace =
          calls start.trace ++ (space.limit.fitting works).filterMap
            fun work => (work.requalified space).call? space handler true := by
    have quiet : calls (after.tell (.answered none reply after.registry)).trace =
        calls after.trace :=
      ((Tells.refl after).tell rfl).chronicle Event.call?_of_isTalk
    simp only [requalified_of_shape shape, call?_of_shape shape] at called
    exact ⟨registry.trans (same ▸ asked.settled.symm),
      quiet.trans (called.trans (by rw [asked.firstCalls]))⟩
  cases result <;> exact answered

/-- A detached namespace with nothing in its queue, which works and is attached then, ends as if it
had been attached before: the registries are the same, and its queue is empty. What it is called for
is the first work that the attached namespace is called for, as much as its queue has places for,
by statements with its qualified name. -/
theorem deferred_like_attached {console : Console κ} (reachable : console.Reachable)
    (present : space ∈ console.registry.table) (detached : space.handler = none)
    (empty : space.pending = []) (written : ∀ entry ∈ space.entries, entry.isWritable)
    (conduct : Conduct κ)
    (recorders : ∀ before (call : Call κ), call.space = space.serial →
      space.callbackNamed? call.entry = some call.callback →
        (Callback.script (conduct before) call).IsRecorder)
    (handler : Handler) (bound : Nat) (operations : List (Operation κ))
    (aimed : ∀ operation ∈ operations, operation.isAimedAt console.registry space.serial) :
    let attach := Operation.attach space.serial (some handler)
    let deferred := console.actAll conduct (bound + 1) (operations ++ [attach])
    let attached := console.actAll conduct (bound + 1) (attach :: operations)
    deferred.registry = attached.registry ∧
      (∃ after ∈ deferred.registry.table, after.serial = space.serial ∧
        after.handler = some handler ∧ after.pending = []) ∧
      ∃ works, worksOf space.serial attached.trace = worksOf space.serial console.trace ++ works ∧
        calls attached.trace =
          calls console.trace ++ works.filterMap (·.call? space handler false) ∧
        calls deferred.trace = calls console.trace ++ (space.limit.fitting works).filterMap
          fun work => (work.requalified space).call? space handler true := by
  intro attach deferred attached
  have sound := reachable.sound
  have inside := (Registry.mem_table.mp present).1
  have deferrable : IsDeferrable (runWithin conduct (bound + 1)) space := by
    refine ⟨fun call same named => records_runWithin (recorders · call same named) bound,
      fun command member => written _ member, fun setting member => ?_⟩
    have isWritable := written _ member
    simp only [Entry.isWritable, Bool.and_eq_true] at isWritable
    exact isWritable.1.1
  -- The two runs go through the operations side by side; then the detached one catches up.
  have begun := Deferring.attach conduct (bound + 1) handler sound present detached empty
  obtain ⟨works, deferring⟩ := begun.actAll deferrable inside operations aimed
  obtain ⟨registry, called⟩ := deferring.catchUp deferrable present
  have isDeferred : deferred = (Console.act conduct (bound + 1) attach).after
      (console.actAll conduct (bound + 1) operations) := by
    simp [deferred, Console.actAll]
  rw [isDeferred]
  refine ⟨registry, ?_, works, deferring.secondWorks, deferring.secondCalls, called⟩
  obtain ⟨now, member, same, -⟩ := deferring.queue
  have shape := deferring.shape inside member same
  have keeps : Namespace.KeepsShape (Namespace.settle (κ := κ) handler) := fun _ => rfl
  have registered : now.isRegistered := (congrArg (·.isRegistered) shape).trans
    (Registry.mem_table.mp present).2
  rw [registry, deferring.settled, ← same]
  exact ⟨now.settle handler, Registry.mem_table.mpr
    ⟨Registry.mem_update_self keeps member, registered⟩, rfl, rfl, rfl⟩

end Runs

def narrow : Console Unit :=
  (Console.empty ⟨.text "app", .whole 16, .whole 2⟩ .empty).actAll idle 1
    [.create ⟨.text "N", [⟨.text "go", some (.host ()), .null⟩],
      [⟨.text "level", .integer, .plain .null, some (.host ()), .null⟩]⟩]

/-- Three times there is something to call for, as one assignment changes nothing. -/
def busy : List (Operation Unit) :=
  [.execute "level 5", .set (.kept 0 "level") (.plain (.integer 5)),
    .executeStatement ⟨["go", "x"]⟩, .reset (.token "N.level")]

/-- The third call does not happen where there are only two places. -/
theorem narrow_like_attached :
    let deferred := narrow.actAll idle 1 (busy ++ [.attach 0 (some .console)])
    let attached := narrow.actAll idle 1 (.attach 0 (some .console) :: busy)
    calls deferred.trace = [⟨.host (), 0, "level", .console, .change (.integer 5), true⟩,
        ⟨.host (), 0, "go", .console, .command ⟨["N.go", "x"]⟩, true⟩] ∧
      (calls attached.trace).length = 3 ∧ deferred.registry = attached.registry := by
  have known : ∀ space ∈ narrow.registry.table, space.serial = 0 ∧ space.handler = none ∧
      space.pending = [] ∧ ∀ entry ∈ space.entries,
        entry.isWritable = true ∧ entry.callback? = some (.host ()) := by decide +kernel
  have inhabited : narrow.registry.table ≠ [] := by
    rw [← List.length_pos_iff]
    decide +kernel
  obtain ⟨space, present⟩ := List.exists_mem_of_ne_nil _ inhabited
  obtain ⟨serial, detached, empty, entries⟩ := known space present
  have recorders (before : Console Unit) (call : Call Unit) (_ : call.space = space.serial)
      (named : space.callbackNamed? call.entry = some call.callback) :
      (Callback.script (idle before) call).IsRecorder := by
    obtain ⟨entry, member, answers⟩ := Namespace.exists_of_callbackNamed? named
    rw [Callback.script, ← Option.some.inj ((entries entry member).2.symm.trans answers)]
    exact .done true
  have like := deferred_like_attached ((Console.Reachable.empty _ .empty).actAll idle 1 _) present
    detached empty (fun entry member => (entries entry member).1) idle recorders .console 0 busy
    (serial ▸ by decide +kernel)
  rw [serial] at like
  exact ⟨by decide +kernel, by decide +kernel, like.1⟩

end CommandConsole
