import CommandConsole.Proofs.Queue.Unchanging
import CommandConsole.Proofs.Run.Refused
import CommandConsole.Proofs.Run.Settings

set_option autoImplicit false

namespace CommandConsole

open CommandConsole.Action

variable {κ : Type}

section Default

def HasDefault (serial : Nat) (name : String) (default : Value) (registry : Registry κ) : Prop :=
  ∃ space ∈ registry.spaces, space.serial = serial ∧ ∃ setting,
    Entry.setting setting ∈ space.entries ∧ setting.name = name ∧ setting.default = default

variable {serial : Nat} {name : String} {default : Value}

/-- The default of a setting never changes. -/
theorem Effect.hasDefault {before after : Console κ} (effect : Effect before after)
    (has : HasDefault serial name default before.registry) :
    HasDefault serial name default after.registry := by
  obtain ⟨space, present, isSerial, setting, inside, isName, isDefault⟩ := has
  cases effect.tableChange with
  | stay shapes quiet =>
    have shape : space.shape ∈ after.registry.spaces.map Namespace.shape :=
      shapes ▸ List.mem_map_of_mem present
    obtain ⟨other, isOther, same⟩ := List.mem_map.mp shape
    obtain ⟨entry, isEntry, pristine⟩ := Namespace.exists_entry_of_shape same inside
    cases entry with
    | command command => cases pristine
    | setting found =>
      simp only [Entry.pristine, Entry.setting.injEq, Setting.mk.injEq] at pristine
      exact ⟨other, isOther, (congrArg (·.serial) same).trans isSerial, found, isEntry,
        pristine.1.trans isName, pristine.2.2.2.1.trans isDefault⟩
  | create declaration made declared created =>
    subst created
    exact ⟨space, List.mem_append_left _ present, isSerial, setting, inside, isName, isDefault⟩
  | retire retired =>
    subst retired
    have left : (if space.isRegistered then space.retire else space) ∈
        before.registry.retire.spaces := by
      rw [Registry.retire, Registry.spaces_map _ _ fun space => by split <;> rfl]
      exact List.mem_map_of_mem present
    refine ⟨_, left, ?_, setting, ?_, isName, isDefault⟩
    · split <;> exact isSerial
    · split <;> exact inside

theorem invariants_hasDefault : Invariants fun (_ : Unit) (now : Console κ) =>
    HasDefault serial name default now.registry :=
  .of_turns (fun step => holds_of_effects Effect.hasDefault step.effects)
    fun turn => holds_of_effects Effect.hasDefault turn.effects

end Default

section Reset

variable {conduct : Conduct κ} {bound : Nat} {console : Console κ} {space : Namespace κ}
  {setting : Setting κ} {target : Target}

/-- Assigning another value tells so before anything else is told. -/
theorem ends_assign_gives {value : Value} (present : space ∈ console.registry.spaces)
    (kind : value.kind = setting.kind) (differs : value ≠ setting.current)
    (typed : Option String) :
    Ends (assign (runWithin conduct bound) space setting value typed) console fun _ after =>
      (console.assigning space setting value).trace <:+ after.trace := by
  have calls := (Invariants.suffix (console.assigning space setting value).trace).runWithin
    conduct bound ()
  have start := List.suffix_refl (console.assigning space setting value).trace
  simp only [assign, kind, ne_eq, not_true_eq_false, if_false, if_neg differs, ends_bind,
    ends_update, ends_record, ends_pure]
  suffices announced : Ends (announce (runWithin conduct bound) space setting value typed)
      (console.assigning space setting value) fun _ after =>
        (console.assigning space setting value).trace <:+ after.trace by
    apply announced.mono
    intro result after suffix
    cases result <;> exact suffix
  have still := mem_assigning present setting value
  unfold announce
  split
  · refine keeps_notify calls ?_
    unfold Console.notifying
    split
    · exact start
    · exact List.suffix_cons _ _
  · split
    · exact (ends_defer still _ _ _).mpr (List.suffix_cons _ _)
    · split
      · exact (ends_defer still _ _ _).mpr (List.suffix_cons _ _)
      · exact start

/-- A reset gives a setting its default, unless it has it. -/
theorem ends_reset_gives (pointed : console.registry.target target = .ok (space, setting))
    (kind : setting.default.kind = setting.kind) :
    Ends (reset (runWithin conduct bound) target) console fun _ after =>
      (setting.current = setting.default ∧ after = console) ∨
        ∃ later, given space.serial setting.name after.trace =
          given space.serial setting.name console.trace ++ setting.default :: later := by
  simp only [reset, ends_bind, ends_registry, ends_lift, pointed, assignValue]
  by_cases same : setting.default = setting.current
  · exact (ends_assign_same kind same _).mpr (.inl ⟨same.symm, rfl⟩)
  · apply (ends_assign_gives (Registry.target_ok pointed).1 kind same none).mono
    rintro _ after ⟨events, told⟩
    refine .inr ⟨given space.serial setting.name events, ?_⟩
    rw [← told, given, chronicle_append]
    change given space.serial setting.name (.changed _ _ _ :: console.trace) ++ _ = _
    rw [given_changed, if_pos ⟨rfl, rfl⟩, List.append_assoc]
    rfl

/-- After a reset a setting holds its default, if it has been changed once at most. -/
theorem ends_reset_restores (settled : Settled console.registry console.trace)
    (pointed : console.registry.target target = .ok (space, setting)) (rounds : Nat)
    (call : Option (Call κ)) :
    Ends (perform (runWithin conduct bound) rounds call (.reset target)) console fun _ after =>
      (given space.serial setting.name after.trace).length ≤
          (given space.serial setting.name console.trace).length + 1 →
        ∃ owner found,
          after.registry.target (.kept space.serial setting.name) = .ok (owner, found) ∧
            found.default = setting.default ∧ found.isModified = false := by
  obtain ⟨present, isFound⟩ := Registry.target_ok pointed
  have member := (Namespace.find?_ok isFound).1
  have settledAfter := (ends_iff _).mp (invariants_settled.perform conduct bound rounds call
    (.reset target) () console settled)
  have kept := (ends_iff _).mp (invariants_hasDefault.perform conduct bound rounds call
    (.reset target) () console ⟨space, present, rfl, setting, member, rfl, rfl⟩)
  -- What the reset itself gives comes first; what its callbacks give is told after it.
  have gives : Ends (perform (runWithin conduct bound) rounds call (.reset target)) console
      fun _ after => (setting.current = setting.default ∧
          given space.serial setting.name after.trace =
            given space.serial setting.name console.trace) ∨
        ∃ later, given space.serial setting.name after.trace =
          given space.serial setting.name console.trace ++ setting.default :: later := by
    have pointedAsked : (console.tell (.asked call (.reset target))).registry.target target =
        .ok (space, setting) := pointed
    have kind := ((settled.sound.spaces space present).kinds setting member).1
    rw [ends_perform]
    refine (ends_map ..).mpr ((ends_reset_gives pointedAsked kind).mono ?_)
    rintro result after (⟨same, rfl⟩ | ⟨later, more⟩)
    · exact .inl ⟨same, (given_cons rfl _).trans (given_cons rfl _)⟩
    · refine .inr ⟨later, (given_cons rfl _).trans (more.trans ?_)⟩
      rw [Console.tell, given_cons rfl]
  refine (ends_iff _).mpr fun once => ?_
  obtain ⟨owner, isOwner, serial, found, inside, name, default⟩ := kept
  have last := settledAfter.holds.last owner isOwner found inside
  have isFound := (settledAfter.sound.spaces owner isOwner).find?_name inside
  refine ⟨owner, found, ?_, default, ?_⟩
  · unfold Entry.name at isFound
    simp only [Registry.target, ← serial, ← name, Registry.space?_of_mem isOwner, isFound]
  · suffices found.current = found.default by simpa [Setting.isModified] using this
    rw [serial, name, default] at last
    rw [last, default]
    rcases (ends_iff _).mp gives with ⟨same, quiet⟩ | ⟨later, more⟩
    · rw [quiet, ← settled.holds.last space present setting member, same]
    · rw [more, List.length_append, List.length_cons] at once
      obtain rfl : later = [] := List.eq_nil_of_length_eq_zero (by omega)
      rw [more, List.getLast?_concat]
      rfl

end Reset

/-- What operations do with settings where they are asked for. -/
structure RespectsSettings (run : Runner κ) (rounds : Nat) (call : Option (Call κ))
    (before : Console κ) : Prop where
  /-- Attaching changes no value by itself, but only what callbacks change. -/
  replays : ∀ good : List (List (Data × Entry κ)) → Prop,
    (∀ call, Keeps (HasObjects good) (run call)) → good before.registry.objects →
      ∀ (operation : Operation κ) (serial : Nat) (handler : Option Handler),
        operation.Attaches serial handler →
          good ((perform run rounds call operation).after before).registry.objects
  /-- A console error that comes before any call leaves everything as it was. -/
  refuses : ∀ (operation : Operation κ) (cause : ConsoleError),
    (perform run rounds call operation).result before = .ok (.failed (.console cause)) →
      Untouched before ((perform run rounds call operation).after before)
  /-- So does a statement that comes to nothing. -/
  reports : ∀ (operation : Operation κ),
    (∃ statement, operation = .executeStatement statement) ∨ (∃ line, operation = .execute line) →
      (perform run rounds call operation).result before = .ok (.flag false) →
        Untouched before ((perform run rounds call operation).after before)
  /-- A reset restores the default, unless callbacks change the setting again. -/
  resets : ∀ (target : Target) (space : Namespace κ) (setting : Setting κ),
    before.registry.target target = .ok (space, setting) →
      let after := (perform run rounds call (.reset target)).after before
      (given space.serial setting.name after.trace).length ≤
          (given space.serial setting.name before.trace).length + 1 →
        ∃ owner found,
          after.registry.target (.kept space.serial setting.name) = .ok (owner, found) ∧
            found.default = setting.default ∧ found.isModified = false

/-- At every moment of every run, settings are what they were declared as and hold values of their
kinds, and whoever asks for an operation then, it respects that. -/
theorem settings_keep_kinds {console : Console κ} (reachable : console.Reachable)
    {before : Console κ} (moment : (before.registry, before.trace) ∈ console.moments)
    (conduct : Conduct κ) (bound rounds : Nat) (call : Option (Call κ)) :
    before.registry.IsTyped before.trace ∧
      RespectsSettings (runWithin conduct bound) rounds call before := by
  have settled : Settled before.registry before.trace := reachable.settled _ moment
  have tells := runnerTells_runWithin conduct bound
  refine ⟨settled.isTyped, ⟨?_, ?_, ?_, ?_⟩⟩
  · intro good calls start operation serial handler attaches
    exact (ends_after _ _ (HasObjects good)).mp
      (attaching_unchanging calls rounds call attaches before start)
  · intro operation cause failed
    exact (ends_iff _).mp (refuses_perform tells call operation) cause failed
  · intro operation isStatement failed
    exact (ends_iff _).mp (ends_perform_false tells isStatement call) failed
  · intro target space setting pointed
    exact (ends_iff _).mp (ends_reset_restores settled pointed rounds call)

def adjusting : Conduct Unit := fun _ _ call =>
  if call.space = 0 then .ask (.set (.token "M.w") (.plain (.integer 1))) fun _ => .done true
  else .done true

def adjusted : Console Unit :=
  (Console.empty .standard .empty).actAll adjusting 3
    [.create ⟨.text "N", [],
        [⟨.text "v", .integer, .plain (.integer 7), some (.host ()), .null⟩]⟩,
      .create ⟨.text "M", [], [⟨.text "w", .integer, .plain .null, some (.host ()), .null⟩]⟩,
      .attach 0 (some (.label "h")), .set (.token "N.v") (.plain (.integer 5))]

/-- A reset restores the default while another setting is changed, and a value of another kind is
refused without a trace in the registry. -/
theorem adjusted_keeps_kinds :
    given 0 "v" adjusted.trace = [.integer 5] ∧ adjusted.registry.IsTyped adjusted.trace ∧
    (∃ owner found, ((Console.act adjusting 3 (.reset (.token "N.v"))).after
        adjusted).registry.target (.kept 0 "v") = .ok (owner, found) ∧
      found.isModified = false) ∧
    ((Console.act adjusting 3 (.set (.token "N.v") (.plain (.text "7")))).after
      adjusted).registry = adjusted.registry := by
  have reachable : adjusted.Reachable :=
    (Console.Reachable.empty .standard .empty).actAll adjusting 3 _
  have moment : (adjusted.registry, adjusted.trace) ∈ adjusted.moments := List.mem_cons_self
  obtain ⟨typed, respects⟩ := settings_keep_kinds reachable moment adjusting 3 3 none
  have names : (adjusted.registry.target (.token "N.v")).toOption.map
      (fun found => (found.1.serial, found.2.name, found.2.kind)) = some (0, "v", .integer) := by
    decide +kernel
  obtain ⟨found, isFound, same⟩ := Option.map_eq_some_iff.mp names
  obtain ⟨serial, name, kind⟩ : found.1.serial = 0 ∧ found.2.name = "v" ∧ found.2.kind = .integer :=
    by simpa using same
  have pointed : adjusted.registry.target (.token "N.v") = .ok found := by
    cases target : adjusted.registry.target (.token "N.v") with
    | error fault => rw [target] at isFound; cases isFound
    | ok other => rw [target] at isFound; exact congrArg _ (Option.some.inj isFound)
  refine ⟨by decide +kernel, typed, ?_, ?_⟩
  · have once : (given 0 "v"
        ((Console.act adjusting 3 (.reset (.token "N.v"))).after adjusted).trace).length ≤
          (given 0 "v" adjusted.trace).length + 1 := by decide +kernel
    have restored := respects.resets (.token "N.v") found.1 found.2 pointed
    rw [serial, name] at restored
    obtain ⟨owner, setting, isSetting, -, unmodified⟩ := restored once
    exact ⟨owner, setting, isSetting, unmodified⟩
  · have other : (Value.text "7").kind ≠ found.2.kind := by rw [kind]; decide
    have failed : Ends (Console.act adjusting 3 (.set (.token "N.v") (.plain (.text "7")))) adjusted
        fun result _ => result = .ok (.failed (.console (.otherKind
          (qualify found.1.name found.2.name) found.2.kind .text))) := by
      refine ends_perform.mpr ?_
      simp only [carryOut, setValue, ends_bind, ends_registry, Console.tell, pointed, ends_lift,
        assignPayload, Value.ofPayload, assignValue]
      exact (ends_assign_otherKind other _).mpr rfl
    exact respects.refuses _ _ ((ends_iff _).mp failed) (by decide +kernel)

end CommandConsole
