import CommandConsole.Proofs.Queue.Deferring

set_option autoImplicit false

namespace CommandConsole

open CommandConsole.Action

variable {κ α β : Type}

def Action.Looks (action : Action κ α) : Prop :=
  ∀ console, Ends action console fun _ after => after = console

theorem Action.looks_pure (value : α) : Looks (κ := κ) (pure value) := fun _ => rfl

/-- Two actions do the same work, one in the detached run and one in the attached run. -/
def Alike (start : Console κ) (space : Namespace κ) (handler : Handler) (works : List Work)
    (first second : Console κ) (detached : Action κ α) (attached : Action κ β) : Prop :=
  Ends detached first fun _ first' => Ends attached second fun _ second' =>
    ∃ more, Deferring start space handler (works ++ more) first' second'

section Alike

variable {run : Runner κ} {start first second : Console κ} {space now : Namespace κ}
  {handler : Handler} {works : List Work}

theorem Alike.bind {detached : Action κ α} {attached : Action κ β} {γ : Type}
    {next : α → Action κ γ} {later : β → Action κ γ}
    (alike : Alike start space handler works first second detached attached)
    (looks : ∀ value, Looks (next value)) (looksLater : ∀ value, Looks (later value)) :
    Alike start space handler works first second (detached >>= next) (attached >>= later) := by
  have ended (first' : Console κ) (kept : Ends attached second fun _ second' =>
      ∃ more, Deferring start space handler (works ++ more) first' second') :
      Ends (attached >>= later) second fun _ second' =>
        ∃ more, Deferring start space handler (works ++ more) first' second' := by
    apply ends_bind_of_keeps kept
    intro value second' still
    exact (looksLater value second').mono fun _ last same => same ▸ still
  apply ends_bind_of_keeps (Ends.mono alike fun _ first' kept => ended first' kept)
  intro value first' still
  exact (looks value first').mono fun _ last same => same ▸ still

theorem Alike.map {detached : Action κ α} {attached : Action κ β} {γ : Type}
    (alike : Alike start space handler works first second detached attached)
    (reply : α → γ) (answer : β → γ) :
    Alike start space handler works first second (reply <$> detached) (answer <$> attached) := by
  simp only [Alike, ends_map]
  exact alike

namespace Deferring

theorem nothing (deferring : Deferring start space handler works first second) :
    ∃ more, Deferring start space handler (works ++ more) first second :=
  ⟨[], by rwa [List.append_nil]⟩

/-- What is done with what is looked up fails in both runs, or is done with the same setting. -/
theorem pointing (deferring : Deferring start space handler works first second)
    {look : Registry κ → Except Fault (Namespace κ × Setting κ)}
    {next : Namespace κ × Setting κ → Action κ α}
    (same : look second.registry =
      (look first.registry).map fun found => (found.1.settle handler, found.2))
    (alike : ∀ now setting, look first.registry = .ok (now, setting) →
      Alike start space handler works first second (next (now, setting))
        (next (now.settle handler, setting))) :
    Alike start space handler works first second
      (do let found ← lift (look (← registry)); next found)
      (do let found ← lift (look (← registry)); next found) := by
  simp only [Alike, ends_bind, ends_registry, ends_lift, same]
  cases found : look first.registry with
  | error fault => exact deferring.nothing
  | ok pair => exact alike pair.1 pair.2 found

variable (deferrable : IsDeferrable run space)
  (deferring : Deferring start space handler works first second)
  (present : space ∈ start.registry.spaces)

include deferring present

section Found

variable (member : now ∈ first.registry.spaces) (same : now.serial = space.serial)

include deferrable member same

/-- A command is queued in the detached run and runs in the attached run. -/
theorem execute {command : Command κ} (found : now.find? command.name = some (.command command))
    (statement : Statement) :
    Alike start space handler works first second (defer now command.name statement.arguments)
      (runCommand run handler false (now.settle handler) command statement) := by
  have shape := deferring.shape present member same
  have settledShape : (now.settle handler).shape = space.shape := shape
  have inside := (Namespace.find?_ok found).1
  have known : Entry.command command ∈ space.entries :=
    Namespace.exists_command_of_shape shape.symm inside
  have callback : (now.settle handler).callbackNamed? command.name = command.action :=
    (deferring.sound.spaces now member).callbackNamed?_name inside
  have executed := deferring.executed present member same found statement
  rw [Alike, ends_defer member]
  have described := deferrable.described command known
  apply (ends_runCommand_recorded (fun key isKey => deferrable.recorded settledShape same
    (callback.trans isKey)) described).mono
  intro result second' ended
  exact ⟨_, executed.told (.refl _) ended.2⟩

/-- A change is queued in the detached run and told in the attached run. -/
theorem assign {setting : Setting κ} (found : now.find? setting.name = some (.setting setting))
    {value : Value} {typed : Option String}
    (reads : ∀ token ∈ typed, Value.parse setting.kind token = .ok value)
    (written : typed = none → value.isWritable = true) :
    Alike start space handler works first second
      (CommandConsole.assign run now setting value typed)
      (CommandConsole.assign run (now.settle handler) setting value typed) := by
  unfold Alike
  by_cases kind : value.kind = setting.kind
  · by_cases holds : value = setting.current
    · rw [ends_assign_same kind holds, ends_assign_same kind holds]
      exact deferring.nothing
    · have shape := deferring.shape present member same
      have settledShape : (now.settle handler).shape = space.shape := shape
      have inside := (Namespace.find?_ok found).1
      have callback : (now.settle handler).callbackNamed? setting.name = setting.onChange :=
        (deferring.sound.spaces now member).callbackNamed?_name inside
      have isRead : Value.parse setting.kind (typed.getD value.token) = .ok value := by
        cases typed with
        | some token => exact reads token rfl
        | none => exact kind ▸ Value.parse_token value (written rfl)
      have changed := deferring.changed present member same found kind isRead
      have attached : (now.settle handler).handler = some handler := rfl
      rw [ends_assign_detached member kind holds (deferring.now member same).1 written]
      apply (ends_assign_attached kind holds attached fun key isKey =>
        deferrable.recorded settledShape same (callback.trans isKey)).mono
      intro result second' ended
      exact ⟨_, changed.told (.refl _) (ended.2.mono Event.isTalk_of_isRecord)⟩
  · rw [ends_assign_otherKind kind, ends_assign_otherKind kind]
    exact deferring.nothing

/-- A statement does the same work in both runs. -/
theorem dispatch {entry : Entry κ} (found : now.find? entry.name = some entry)
    (statement : Statement) :
    Alike start space handler works first second (CommandConsole.dispatch run now entry statement)
      (CommandConsole.dispatch run (now.settle handler) entry statement) := by
  cases entry with
  | command command =>
    have detached := (deferring.now member same).1
    have executed := deferring.execute deferrable present member same found statement
    simp only [CommandConsole.dispatch, detached]
    exact ends_bind_of_keeps executed fun _ _ kept => kept
  | setting setting =>
    simp only [CommandConsole.dispatch]
    split
    · have described : (now.settle handler).describe? (.setting setting) =
          now.describe? (.setting setting) := rfl
      simp only [Alike, ends_bind, ends_lift, described]
      cases now.describe? (.setting setting) with
      | error fault => exact deferring.nothing
      | ok text =>
        exact (deferring.told ((Tells.refl _).tell rfl) ((Tells.refl _).tell rfl)).nothing
    · rename_i token _
      unfold valueOf
      cases reads : Value.parse setting.kind token with
      | error cause => exact deferring.nothing
      | ok value =>
        simp only [pure_bind]
        have typed : ∀ typed ∈ some token, Value.parse setting.kind typed = .ok value := by
          rintro _ ⟨⟩
          exact reads
        have assigned := deferring.assign deferrable present member same found typed
          fun none => by cases none
        exact assigned.bind (fun _ => looks_pure _) fun _ => looks_pure _
    · exact deferring.nothing

end Found

omit deferrable present in
theorem resolve {statement : Statement}
    (aimed : statement.isAimedAt start.registry space.serial) :
    ∃ now entry, first.registry.resolve statement.name = .ok (.entry now entry) ∧
      second.registry.resolve statement.name = .ok (.entry (now.settle handler) entry) ∧
      now.serial = space.serial := by
  obtain ⟨named, entry, found, serial⟩ := Statement.exists_of_isAimedAt aimed
  obtain ⟨now, inside, isNow, shape, -⟩ := Registry.resolve_of_shapes deferring.shapes found
  have same : now.serial = space.serial := (congrArg (·.serial) shape).trans serial
  exact ⟨now, inside, isNow, deferring.settled ▸ Registry.settle_resolve isNow same, same⟩

include deferrable in
/-- Executing a statement does the same work in both runs. -/
theorem executeStatement {statement : Statement}
    (aimed : statement.isAimedAt start.registry space.serial) :
    Alike start space handler works first second
      (CommandConsole.executeStatement run statement)
      (CommandConsole.executeStatement run statement) := by
  obtain ⟨now, entry, isNow, isSettled, same⟩ := deferring.resolve aimed
  obtain ⟨member, found⟩ := Registry.lookup_ok (Registry.resolve_entry isNow)
  have dispatched := deferring.dispatch deferrable present (Registry.mem_table.mp member).1 same
    found statement
  simp only [Alike, CommandConsole.executeStatement]
  split
  · exact deferring.nothing
  · refine ends_reporting_of (fun first' text kept => ?_) ?_
    · apply kept.mono
      intro _ second' ended
      obtain ⟨more, still⟩ := ended
      exact ⟨more, still.told ((Tells.refl _).tell rfl) (.refl _)⟩
    · rw [ends_bind, ends_resolve_entry isNow]
      apply dispatched.mono
      intro _ first' ended
      refine ends_reporting_of (fun second' text kept => ?_) ?_
      · obtain ⟨more, still⟩ := kept
        exact ⟨more, still.told (.refl _) ((Tells.refl _).tell rfl)⟩
      · rw [ends_bind, ends_resolve_entry isSettled]
        exact ended

section Pointed

variable {target : Target} (aimed : target.isAimedAt start.registry space.serial)

include aimed

omit present in
theorem target_eq : second.registry.target target =
    (first.registry.target target).map fun found => (found.1.settle handler, found.2) := by
  rw [deferring.settled]
  exact Registry.settle_target _ (Target.isAimedAt_of_shapes aimed deferring.shapes)

omit present in
theorem typed_eq (kind : Kind) : second.registry.typed kind target =
    (first.registry.typed kind target).map fun found => (found.1.settle handler, found.2) := by
  rw [deferring.settled]
  exact Registry.settle_typed _ (Target.isAimedAt_of_shapes aimed deferring.shapes) kind

variable {setting : Setting κ} (pointed : first.registry.target target = .ok (now, setting))

include deferrable pointed

theorem assignValue {value : Value} (written : value.isWritable = true) :
    Alike start space handler works first second
      (CommandConsole.assignValue run now setting value)
      (CommandConsole.assignValue run (now.settle handler) setting value) := by
  have same : now.serial = space.serial :=
    Target.serial_of_isAimedAt (Target.isAimedAt_of_shapes aimed deferring.shapes) pointed
  obtain ⟨member, found⟩ := Registry.target_ok pointed
  exact deferring.assign deferrable present member same found (fun _ none => by cases none)
    fun _ => written

theorem assignPayload {payload : Payload} (written : payload.isWritable = true) :
    Alike start space handler works first second
      (CommandConsole.assignPayload run now setting payload)
      (CommandConsole.assignPayload run (now.settle handler) setting payload) := by
  unfold CommandConsole.assignPayload
  split
  · exact deferring.assignValue deferrable present aimed pointed written
  · split
    · rename_i isValue
      have writable := Payload.isWritable_ofPayload isValue written
      exact deferring.assignValue deferrable present aimed pointed writable
    · exact deferring.nothing

theorem assignDefault :
    Alike start space handler works first second
      (CommandConsole.assignValue run now setting setting.default)
      (CommandConsole.assignValue run (now.settle handler) setting setting.default) := by
  have same : now.serial = space.serial :=
    Target.serial_of_isAimedAt (Target.isAimedAt_of_shapes aimed deferring.shapes) pointed
  obtain ⟨member, found⟩ := Registry.target_ok pointed
  have shape := deferring.shape present member same
  obtain ⟨known, isKnown, -, -, default, -⟩ :=
    Namespace.exists_setting_of_shape shape.symm (Namespace.find?_ok found).1
  have writable := default ▸ deferrable.defaults known isKnown
  exact deferring.assignValue deferrable present aimed pointed writable

end Pointed

section Operations

variable {target : Target} (aimed : target.isAimedAt start.registry space.serial)

include deferrable aimed

theorem setValue {payload : Payload} (written : payload.isWritable = true) :
    Alike start space handler works first second (CommandConsole.setValue run target payload)
      (CommandConsole.setValue run target payload) := by
  unfold CommandConsole.setValue
  apply deferring.pointing (deferring.target_eq aimed)
  intro now setting pointed
  exact deferring.assignPayload deferrable present aimed pointed written

theorem setTyped {payload : Payload} (written : payload.isWritable = true) (kind : Kind) :
    Alike start space handler works first second (CommandConsole.setTyped run kind target payload)
      (CommandConsole.setTyped run kind target payload) := by
  unfold CommandConsole.setTyped
  apply deferring.pointing (deferring.typed_eq aimed kind)
  intro now setting typed
  have pointed := (Registry.typed_ok typed).1
  exact deferring.assignPayload deferrable present aimed pointed written

theorem reset :
    Alike start space handler works first second (CommandConsole.reset run target)
      (CommandConsole.reset run target) := by
  unfold CommandConsole.reset
  apply deferring.pointing (deferring.target_eq aimed)
  intro now setting pointed
  exact deferring.assignDefault deferrable present aimed pointed

theorem toggle :
    Alike start space handler works first second (CommandConsole.toggle run target)
      (CommandConsole.toggle run target) := by
  unfold CommandConsole.toggle
  apply deferring.pointing (deferring.typed_eq aimed .boolean)
  intro now setting typed
  have pointed := (Registry.typed_ok typed).1
  have written : (Value.boolean (setting.current != .boolean true)).isWritable = true := rfl
  have looks (console : Console κ) (other : Namespace κ) :
      Ends (do
        let after ← lift ((← registry).get (.kept other.serial setting.name))
        return after == .boolean true) console fun _ after => after = console := by
    simp only [ends_bind, ends_registry, ends_lift]
    cases console.registry.get (.kept other.serial setting.name) with
    | error fault => trivial
    | ok value => exact looks_pure _ console
  exact (deferring.assignValue deferrable present aimed pointed written).bind
    (fun _ console => looks console now) fun _ console => looks console (now.settle handler)

end Operations

include deferrable in
/-- An operation that is aimed at the namespace does the same work in both runs. -/
theorem carryOut {operation : Operation κ}
    (aimed : operation.isAimedAt start.registry space.serial) (rounds : Nat) :
    Alike start space handler works first second
      (CommandConsole.carryOut run rounds none operation)
      (CommandConsole.carryOut run rounds none operation) := by
  cases operation with
  | execute line => exact (deferring.executeStatement deferrable present aimed).map _ _
  | executeStatement statement =>
    exact (deferring.executeStatement deferrable present aimed).map _ _
  | set target payload =>
    obtain ⟨pointed, writable⟩ := Bool.and_eq_true_iff.mp aimed
    exact (deferring.setValue deferrable present pointed writable).map _ _
  | setTyped kind target payload =>
    obtain ⟨pointed, writable⟩ := Bool.and_eq_true_iff.mp aimed
    exact (deferring.setTyped deferrable present pointed writable kind).map _ _
  | reset target => exact (deferring.reset deferrable present aimed).map _ _
  | toggle target => exact (deferring.toggle deferrable present aimed).map _ _
  | _ => cases aimed

end Deferring

end Alike

section Runs

variable {conduct : Conduct κ} {rounds : Nat} {start first second : Console κ}
  {space : Namespace κ} {handler : Handler} {works : List Work}

/-- An operation of the host is framed by what is told of it. -/
theorem ends_act {operation : Operation κ} {good : Console κ → Prop}
    (ends : Ends (carryOut (runWithin conduct rounds) rounds none operation)
      (start.tell (.asked none operation)) fun _ after =>
        ∀ reply, good (after.tell (.answered none reply after.registry))) :
    Ends (Console.act conduct rounds operation) start fun _ after => good after := by
  simp only [Console.act, perform, answering, ends_bind, ends_record, ends_replying, ends_registry,
    ends_pure]
  apply ends.mono
  intro result after answered
  cases result <;> exact answered _

/-- An operation that is aimed at the namespace does the same work in both runs. -/
theorem Deferring.act (deferrable : IsDeferrable (runWithin conduct rounds) space)
    (deferring : Deferring start space handler works first second)
    (present : space ∈ start.registry.spaces) {operation : Operation κ}
    (aimed : operation.isAimedAt start.registry space.serial) :
    ∃ more, Deferring start space handler (works ++ more)
      ((Console.act conduct rounds operation).after first)
      ((Console.act conduct rounds operation).after second) := by
  have asked : Deferring start space handler works (first.tell (.asked none operation))
      (second.tell (.asked none operation)) :=
    deferring.told ((Tells.refl first).tell rfl) ((Tells.refl second).tell rfl)
  have ended : Ends (Console.act conduct rounds operation) first fun _ first' =>
      ∃ more, Deferring start space handler (works ++ more) first'
        ((Console.act conduct rounds operation).after second) := by
    refine ends_act ((asked.carryOut deferrable present aimed rounds).mono
      fun _ first' carried reply => ?_)
    refine (ends_after _ _ fun second' =>
      ∃ more, Deferring start space handler (works ++ more) _ second').mp ?_
    refine ends_act (carried.mono fun _ second' kept reply' => ?_)
    obtain ⟨more, still⟩ := kept
    exact ⟨more, still.told ((Tells.refl _).tell rfl) ((Tells.refl _).tell rfl)⟩
  exact (ends_after _ _ fun first' =>
    ∃ more, Deferring start space handler (works ++ more) first' _).mp ended

/-- Operations that are aimed at the namespace do the same work in both runs. -/
theorem Deferring.actAll (deferrable : IsDeferrable (runWithin conduct rounds) space)
    (deferring : Deferring start space handler works first second)
    (present : space ∈ start.registry.spaces) (operations : List (Operation κ))
    (aimed : ∀ operation ∈ operations, operation.isAimedAt start.registry space.serial) :
    ∃ more, Deferring start space handler (works ++ more)
      (first.actAll conduct rounds operations) (second.actAll conduct rounds operations) := by
  induction operations generalizing works first second with
  | nil => exact ⟨[], by rwa [List.append_nil]⟩
  | cons operation rest ih =>
    obtain ⟨more, next⟩ := deferring.act deferrable present (aimed operation List.mem_cons_self)
    obtain ⟨others, last⟩ := ih next fun other member => aimed other (List.mem_cons_of_mem _ member)
    exact ⟨more ++ others, by rwa [← List.append_assoc]⟩

end Runs

end CommandConsole
