import CommandConsole.Proofs.Report.Owners
import CommandConsole.Proofs.Run.Frame
import CommandConsole.Proofs.Statement.Spelling

set_option autoImplicit false

/-!
What a report warns of. A name without a dot is reported where several namespaces own it, and a
queue where it holds statements and no more fit. Main statement: a bare name that is no name of a
namespace is reported as ambiguous exactly if the console answers it with that error, and a queue
with statements is reported as full exactly if it drops the next one (`hazards_told`).
-/
namespace CommandConsole

open CommandConsole.Action

variable {κ : Type}

section Limits

variable {before after : Console κ}

theorem Effect.limits (effect : Effect before after)
    (earlier : ∀ space ∈ before.registry.spaces, space.limit = before.config.maxPending) :
    ∀ space ∈ after.registry.spaces, space.limit = after.config.maxPending := by
  rw [effect.config]
  apply effect.forall_shapes fun space => space.limit = before.config.maxPending
  · exact fun same former => (congrArg Namespace.limit same).trans former
  · exact id
  · exact fun _ _ declared _ => (Registry.declared_ok declared).2.2.2.2.2.1
  · exact earlier

/-- At every moment every queue has the places that the configuration gives it. -/
theorem Console.Reachable.limits {console : Console κ} (reachable : console.Reachable) :
    ∀ moment ∈ console.moments, ∀ space ∈ moment.1.spaces,
      space.limit = console.config.maxPending :=
  @Console.Reachable.always_of_effects κ
    (fun config registry _ => ∀ space ∈ registry.spaces, space.limit = config.maxPending)
    Effect.limits (fun _ _ member => absurd member List.not_mem_nil) console reachable

end Limits

/-- A name that entries have can be one side of a dotted name. -/
theorem Registry.Sound.isName_of_holders {registry : Registry κ} (sound : registry.Sound)
    {name : String} (some : registry.holders name ≠ []) : IsName name := by
  obtain ⟨space, member⟩ := List.exists_mem_of_ne_nil _ some
  obtain ⟨present, has⟩ := List.mem_filter.mp member
  obtain ⟨entry, inside, isName⟩ := List.any_eq_true.mp has
  exact eq_of_beq isName ▸ (sound.of_table present).areNames entry inside

namespace Report

section Wordings

variable {name other : String} {spaces others : List String} {count : Nat}

@[simp] theorem head?_shadowWarning : (shadowWarning name spaces).toList.head? = some 'A' := by
  unfold shadowWarning
  simp

@[simp] theorem head?_collisionWarning :
    (collisionWarning name spaces).toList.head? = some '\'' := by
  unfold collisionWarning
  simp

@[simp] theorem head?_pendingWarning : (pendingWarning name count).toList.head? = some 'N' := by
  unfold pendingWarning
  simp

@[simp] theorem head?_fullWarning : (fullWarning name).toList.head? = some 'P' := by
  unfold fullWarning
  simp

theorem fullWarning_injective (same : fullWarning name = fullWarning other) : name = other := by
  unfold fullWarning at same
  simpa using same

/-- The dotted names that are offered end with the name that they spell out. -/
theorem toList_choices (name : String) (some : spaces ≠ []) :
    ∃ front, (choices name spaces).toList = front ++ '.' :: name.toList := by
  induction spaces with
  | nil => exact absurd rfl some
  | cons first rest ih =>
    by_cases alone : rest = []
    · subst alone
      exact ⟨first.toList, by simp [choices, qualify]⟩
    · obtain ⟨front, ends⟩ := ih alone
      refine ⟨(qualify first name ++ ", ").toList ++ front, ?_⟩
      rw [choices, List.map_cons, String.intercalate_cons_of_ne_nil (by simpa using alone),
        String.toList_append, List.append_assoc, ← ends, choices]

/-- A warning of an ambiguous name tells the name, which is what stands behind its last dot. -/
theorem name_of_shadowWarning (dotless : '.' ∉ name.toList) (otherDotless : '.' ∉ other.toList)
    (some : spaces ≠ []) (same : shadowWarning name spaces = shadowWarning other others) :
    name = other := by
  obtain ⟨front, ends⟩ := toList_choices name some
  have chars := congrArg String.toList same
  by_cases none : others = []
  · -- With no names to choose from there is no dot at all.
    subst none
    have dot : '.' ∈ (shadowWarning name spaces).toList := by
      unfold shadowWarning
      simp [ends]
    rw [chars] at dot
    unfold shadowWarning choices at dot
    simp [otherDotless] at dot
  · obtain ⟨otherFront, otherEnds⟩ := toList_choices other none
    unfold shadowWarning at chars
    simp only [String.toList_append, ends, otherEnds, ← List.append_assoc] at chars
    have reversed := congrArg List.reverse chars
    simp only [List.reverse_append, List.reverse_cons, List.append_assoc] at reversed
    have undotted {text : String} (dotless : '.' ∉ text.toList) :
        ∀ char ∈ text.toList.reverse, (char != '.') = true := fun char member => by
      simpa using fun isDot : char = '.' => dotless (isDot ▸ List.mem_reverse.mp member)
    have names := Text.append_unique (undotted dotless)
      (undotted otherDotless) (by simp) (by simp) reversed
    exact String.toList_injective (List.reverse_injective names.1)

end Wordings

section Warnings

variable {console : Console κ} {text name : String}

/-- The warnings of a report are those that its tables call for. -/
theorem mem_warnings_of : text ∈ (of console).warnings ↔
    (∃ entry ∈ (of console).shadowed, shadowWarning entry.1 entry.2 = text) ∨
    (∃ entry ∈ (of console).collisions, collisionWarning entry.1 entry.2 = text) ∨
    ∃ entry ∈ (of console).pending, pendingWarning entry.1 entry.2 = text ∨
      console.config.maxPending.isReached entry.2 = true ∧ fullWarning entry.1 = text := by
  have called (entry : String × Nat) :
      text ∈ pendingWarning entry.1 entry.2 ::
          (if console.config.maxPending.isReached entry.2 then [fullWarning entry.1] else []) ↔
        pendingWarning entry.1 entry.2 = text ∨
          console.config.maxPending.isReached entry.2 = true ∧ fullWarning entry.1 = text := by
    by_cases full : console.config.maxPending.isReached entry.2 = true <;>
      simp [full, eq_comm]
  rw [shadowed_of, collisions_of, pending_of, of, mem_warnings_foldl]
  simp only [List.not_mem_nil, false_or, allWarnings, List.mem_append, List.mem_map,
    List.mem_flatMap, called, or_assoc]

/-- A name is warned of as ambiguous if it stands in the table of shadowed names. -/
theorem shadow_warned (sound : console.registry.Sound) {token : String}
    (dotless : '.' ∉ token.toList) :
    (∃ spaces, shadowWarning token spaces ∈ (of console).warnings) ↔
      ∃ spaces, (token, spaces) ∈ (of console).shadowed := by
  constructor
  · rintro ⟨spaces, warned⟩
    rcases mem_warnings_of.mp warned with ⟨⟨name, owners⟩, inside, same⟩ | ⟨_, -, same⟩ |
      ⟨_, -, same | ⟨-, same⟩⟩
    · obtain ⟨several, rfl⟩ := (mem_shadowed sound).mp inside
      have some : console.registry.holders name ≠ [] := List.ne_nil_of_length_pos (by omega)
      have isName := sound.isName_of_holders some
      exact ⟨_, name_of_shadowWarning isName.2 dotless (by simpa using some) same ▸ inside⟩
    all_goals
      have first := congrArg (·.toList.head?) same
      simp at first
  · rintro ⟨spaces, inside⟩
    exact ⟨spaces, mem_warnings_of.mpr (.inl ⟨_, inside, rfl⟩)⟩

/-- A queue is warned of as full if it holds statements and no more fit. -/
theorem full_warned (sound : console.registry.Sound)
    (limits : ∀ space ∈ console.registry.spaces, space.limit = console.config.maxPending)
    {space : Namespace κ} (present : space ∈ console.registry.table) :
    fullWarning space.name ∈ (of console).warnings ↔
      space.isFull = true ∧ space.pending ≠ [] := by
  have isFull : space.isFull = console.config.maxPending.isReached space.pending.length := by
    rw [Namespace.isFull, limits space (Registry.mem_table.mp present).1]
  rw [isFull, mem_warnings_of, pending_of]
  constructor
  · rintro (⟨_, -, same⟩ | ⟨_, -, same⟩ | ⟨entry, inside, same | ⟨full, same⟩⟩)
    -- The four warnings begin differently, so only one of them can be this one.
    on_goal 4 =>
      obtain ⟨other, waits, rfl⟩ := List.mem_map.mp inside
      obtain ⟨isPresent, some⟩ := List.mem_filter.mp waits
      obtain rfl : other = space := by
        have found := sound.find?_name isPresent
        have named : other.name = space.name := fullWarning_injective same
        rw [named, sound.find?_name present] at found
        exact (Option.some.inj found).symm
      exact ⟨full, by simpa using some⟩
    all_goals
      have first := congrArg (·.toList.head?) same
      simp at first
  · rintro ⟨full, some⟩
    refine .inr (.inr ⟨(space.name, space.pending.length), ?_, .inr ⟨full, rfl⟩⟩)
    exact List.mem_map.mpr ⟨space, List.mem_filter.mpr ⟨present, by simpa using some⟩, rfl⟩

end Warnings

end Report

section Answers

variable {console : Console κ} {conduct : Conduct κ} {bound : Nat} {token : String}
  {space : Namespace κ}

/-- A statement of one token is answered with an error that is written, and nothing else happens. -/
def Console.Answers (console : Console κ) (run : Runner κ) (token : String)
    (cause : ConsoleError) : Prop :=
  executeStatement run ⟨[token]⟩ console =
    .ok false (console.tell (.wrote (cause.message ++ "\n")))

/-- The queue of a namespace takes no statement that is offered to it. -/
def Console.Drops (console : Console κ) (space : Namespace κ) : Prop :=
  ∀ statement, offer space statement console =
    .ok false (console.tell (.offered space.serial statement false))

/-- The execution of a command is told and not forgotten. -/
theorem ends_command {handler : Handler} {command : Command κ} (statement : Statement)
    (handled : space.handler = some handler) :
    Ends (reporting false
        (dispatch (runWithin conduct bound) space (.command command) statement)) console
      fun _ after => .executed space.serial command.name statement :: console.trace <:+
        after.trace := by
  have steps {before after : Console κ} (step : Step before after) (earlier :
      .executed space.serial command.name statement :: console.trace <:+ before.trace) :
      .executed space.serial command.name statement :: console.trace <:+ after.trace :=
    earlier.trans step.suffix
  apply keeps_reporting steps
  simp only [dispatch, handled]
  apply keeps_runCommand steps ((Invariants.suffix _).runWithin conduct bound ())
  unfold Console.running
  cases command.action <;> first | exact List.suffix_refl _ | exact List.suffix_cons _ _

/-- A token that stands for something is answered with no error, unless a command is executed. -/
theorem ends_standing (named : ∀ space ∈ console.registry.table, space.nameless = [])
    {found : Resolution κ} (stands : console.registry.resolve token = .ok found) :
    Ends (executeStatement (runWithin conduct bound) ⟨[token]⟩) console fun result after =>
      result = .ok false → ∃ serial name, .executed serial name ⟨[token]⟩ :: console.trace <:+
        after.trace := by
  cases found with
  | listing space =>
    have listed : executeStatement (runWithin conduct bound) ⟨[token]⟩ console =
        .ok true (console.tell (.wrote space.listing)) :=
      executeStatement_listing rfl stands (named space (Registry.resolve_listing stands))
    unfold Ends
    rw [listed]
    exact fun same => by cases same
  | entry space entry =>
    have dispatched : executeStatement (runWithin conduct bound) ⟨[token]⟩ console =
        reporting false (dispatch (runWithin conduct bound) space entry ⟨[token]⟩) console :=
      executeStatement_entry rfl stands
    rw [Ends.congr dispatched]
    cases entry with
    | command command =>
      cases handled : space.handler with
      | none =>
        have present := (Registry.lookup_ok (Registry.resolve_entry stands)).1
        simp only [ends_reporting, dispatch, handled, ends_bind, ends_pure,
          ends_defer (Registry.mem_table.mp present).1]
        exact fun same => by cases same
      | some handler =>
        exact (ends_command _ handled).mono fun _ _ later _ => ⟨_, _, later⟩
    | setting setting =>
      simp only [ends_reporting, dispatch, Statement.arguments, List.tail_cons, ends_bind,
        ends_lift]
      cases described : space.describe? (.setting setting) with
      | ok text => simp
      | error fault =>
        rw [Namespace.describe?] at described
        split at described <;> cases described
        simp

/-- The tokens that are answered with an error are those that stand for nothing. -/
theorem answers_iff (named : ∀ space ∈ console.registry.table, space.nameless = [])
    {cause : ConsoleError} :
    console.Answers (runWithin conduct bound) token cause ↔
      ∃ other, console.registry.resolve token = .error other ∧ other.message = cause.message := by
  have answered {other : ConsoleError} (failed : console.registry.resolve token = .error other) :
      executeStatement (runWithin conduct bound) ⟨[token]⟩ console =
        .ok false (console.tell (.wrote (other.message ++ "\n"))) :=
    executeStatement_unresolved rfl failed
  constructor
  · intro answers
    cases stands : console.registry.resolve token with
    | error other =>
      refine ⟨other, rfl, ?_⟩
      have same := (answered stands).symm.trans answers
      simpa [Console.tell] using same
    | ok found =>
      have ends := @ends_standing _ _ conduct bound _ named _ stands
      unfold Ends at ends
      rw [answers] at ends
      obtain ⟨serial, name, later⟩ := ends rfl
      have same := later.eq_of_length rfl
      cases same
  · rintro ⟨other, failed, same⟩
    rw [Console.Answers, answered failed, same]

/-- The errors of a name without a dot tell each other apart by what is written. -/
theorem message_notFound_ne (name : String) (spaces : List String) :
    (ConsoleError.notFound name).message ≠ (ConsoleError.ambiguous name spaces).message := by
  intro same
  have chars := congrArg String.toList same
  unfold ConsoleError.message at chars
  simp at chars

/-- A name without a dot is ambiguous if several namespaces have an entry of it and none is called
so. -/
theorem resolve_ambiguous (sound : console.registry.Sound) (dotless : '.' ∉ token.toList)
    {spaces : List String} :
    console.registry.resolve token = .error (.ambiguous token spaces) ↔
      (token, spaces) ∈ (Report.of console).shadowed ∧
        ∀ space ∈ console.registry.table, space.name ≠ token := by
  rw [Report.mem_shadowed sound, ← ((sound.looksUp token).bare dotless).ambiguous]
  constructor
  · intro stands
    have unnamed : ∀ space ∈ console.registry.table, space.name ≠ token := by
      rintro space present rfl
      rw [sound.resolve_name present] at stands
      cases stands
    refine ⟨?_, unnamed⟩
    rw [Registry.resolve_unnamed unnamed] at stands
    cases found : console.registry.lookup token with
    | ok owned =>
      rw [found] at stands
      cases stands
    | error cause =>
      rw [found] at stands
      cases stands
      rfl
  · rintro ⟨failed, unnamed⟩
    rw [Registry.resolve_unnamed unnamed, failed]
    rfl

/-- A name without a dot is answered as ambiguous exactly if it stands for too much. -/
theorem answers_ambiguous (sound : console.registry.Sound)
    (named : ∀ space ∈ console.registry.table, space.nameless = [])
    (dotless : '.' ∉ token.toList) :
    (∃ spaces, console.Answers (runWithin conduct bound) token (.ambiguous token spaces)) ↔
      (∃ spaces, (token, spaces) ∈ (Report.of console).shadowed) ∧
        ∀ space ∈ console.registry.table, space.name ≠ token := by
  constructor
  · rintro ⟨spaces, answers⟩
    obtain ⟨cause, failed, same⟩ := (answers_iff named).mp answers
    have unnamed : ∀ space ∈ console.registry.table, space.name ≠ token := by
      rintro space present rfl
      rw [sound.resolve_name present] at failed
      cases failed
    have fails := resolve_of_error failed
    rcases Report.resolve_unlisted sound dotless unnamed with
      ⟨space, entry, -, -, -, found⟩ | notFound | several
    · rw [found] at fails
      cases fails
    · rw [notFound] at fails
      cases fails
      exact absurd same (message_notFound_ne token spaces)
    · exact ⟨⟨_, (Report.mem_shadowed sound).mpr ⟨several, rfl⟩⟩, unnamed⟩
  · rintro ⟨⟨spaces, inside⟩, unnamed⟩
    exact ⟨spaces, (answers_iff named).mpr
      ⟨_, (resolve_ambiguous sound dotless).mpr ⟨inside, unnamed⟩, rfl⟩⟩

theorem offer_apply (present : space ∈ console.registry.spaces) (statement : Statement) :
    offer space statement console =
      .ok (space.offer statement).1 (console.offering space statement) := by
  have done : Ends (offer space statement) console fun result after =>
      result = .ok (space.offer statement).1 ∧ after = console.offering space statement :=
    (ends_offer present statement _).mpr ⟨rfl, rfl⟩
  obtain ⟨after, offered, rfl⟩ := done.exists_ok
  exact offered

theorem drops_iff (present : space ∈ console.registry.spaces) :
    console.Drops space ↔ space.isFull = true := by
  constructor
  · intro drops
    by_contra free
    have offered := drops ⟨[]⟩
    rw [offer_apply present, Namespace.offer, if_neg free] at offered
    cases offered
  · intro full statement
    have kept : console.registry.update space.serial (fun changed => (changed.offer statement).2) =
        console.registry :=
      Registry.update_eq_self present (Namespace.keepsShape_offer statement).serial
        (by rw [Namespace.offer, if_pos full])
    rw [offer_apply present, Console.offering, Console.change, kept, Namespace.offer, if_pos full]

/-- A statement on a command of a namespace without a handler is offered to its queue. -/
theorem executeStatement_offering {run : Runner κ} {statement : Statement} {command : Command κ}
    (words : statement.isEmpty = false)
    (found : console.registry.resolve statement.name = .ok (.entry space (.command command)))
    (detached : space.handler = none) :
    executeStatement run statement console = .ok true
      (console.offering space ⟨qualify space.name command.name :: statement.arguments⟩) := by
  have present := (Registry.mem_table.mp
    (Registry.lookup_ok (Registry.resolve_entry found)).1).1
  have done : Ends (dispatch run space (.command command) statement) console fun result after =>
      result = .ok true ∧ after =
        console.offering space ⟨qualify space.name command.name :: statement.arguments⟩ := by
    simp only [dispatch, detached, ends_bind, ends_pure]
    exact (ends_defer present _ _ _).mpr ⟨trivial, rfl⟩
  obtain ⟨after, isDone, rfl⟩ := done.exists_ok
  exact executeStatement_ok words found isDone

end Answers

/-- Whether a report tells that a name is ambiguous, in its table and in its warnings. -/
def Report.IsAmbiguous (report : Report) (token : String) : Prop :=
  ∃ spaces, (token, spaces) ∈ report.shadowed ∧ shadowWarning token spaces ∈ report.warnings

/-- What a report warns of, against what a console does. A name that several namespaces own is
reported, but where a namespace is called so the console lists it and does not answer with the
error. A queue that drops what is offered is reported, but only if it holds something. -/
structure Report.Warns (report : Report) (console : Console κ) (conduct : Conduct κ) (bound : Nat) :
    Prop where
  tabled : ∀ token, report.IsAmbiguous token ↔ ∃ spaces, (token, spaces) ∈ report.shadowed
  warned : ∀ token : String, '.' ∉ token.toList →
    (report.IsAmbiguous token ↔ ∃ spaces, shadowWarning token spaces ∈ report.warnings)
  ambiguous : ∀ token : String, '.' ∉ token.toList →
    ((∃ spaces, console.Answers (runWithin conduct bound) token (.ambiguous token spaces)) ↔
      report.IsAmbiguous token ∧ ∀ space ∈ console.registry.table, space.name ≠ token)
  listed : ∀ space ∈ console.registry.table,
    executeStatement (runWithin conduct bound) ⟨[space.name]⟩ console =
      .ok true (console.tell (.wrote space.listing))
  offered : ∀ space ∈ console.registry.table, space.handler = none →
    ∀ command, .command command ∈ space.entries → ∀ arguments, ∃ accepted after,
      offer space ⟨qualify space.name command.name :: arguments⟩ console = .ok accepted after ∧
        executeStatement (runWithin conduct bound)
          ⟨qualify space.name command.name :: arguments⟩ console = .ok true after
  full : ∀ space ∈ console.registry.table, space.handler = none →
    (fullWarning space.name ∈ report.warnings ↔ console.Drops space ∧ space.pending ≠ [])

/-- Whatever has been done to a console and whatever its callbacks do, also in the middle of an
operation: there is a report as long as objects have texts for names. It warns of a name exactly if
the console answers it as ambiguous, unless a namespace is called so, and of a queue exactly if it
drops the next statement, unless it is empty. -/
theorem hazards_told {console : Console κ} (reachable : console.Reachable) {now : Console κ}
    (moment : (now.registry, now.trace) ∈ console.moments) (config : now.config = console.config) :
    (Named now.trace → ∃ report, Report.of? now = .ok report) ∧
    ∀ report, Report.of? now = .ok report → ∀ (conduct : Conduct κ) (bound : Nat),
      report.Warns now conduct bound := by
  have tabled := reachable.tabled _ moment
  refine ⟨fun texts => ⟨_, Report.of?_of_tabled tabled texts⟩, fun report made conduct bound => ?_⟩
  obtain ⟨named, rfl⟩ := Report.of?_eq_ok.mp made
  have limits : ∀ space ∈ now.registry.spaces, space.limit = now.config.maxPending :=
    config ▸ reachable.limits _ moment
  have isAmbiguous (token : String) :
      (Report.of now).IsAmbiguous token ↔ ∃ spaces, (token, spaces) ∈ (Report.of now).shadowed :=
    ⟨fun ⟨spaces, inside, _⟩ => ⟨spaces, inside⟩, fun ⟨spaces, inside⟩ =>
      ⟨spaces, inside, Report.mem_warnings_of.mpr (.inl ⟨_, inside, rfl⟩)⟩⟩
  refine ⟨isAmbiguous, fun token dotless => ?_, fun token dotless => ?_, fun space present => ?_,
    fun space present detached command inside arguments => ?_, fun space present detached => ?_⟩
  · rw [isAmbiguous, Report.shadow_warned tabled.sound dotless]
  · rw [isAmbiguous, answers_ambiguous tabled.sound named dotless]
  · exact executeStatement_listing rfl (tabled.sound.resolve_name present) (named space present)
  · have found := tabled.sound.resolve_qualify present inside
    have words : Statement.isEmpty ⟨qualify space.name command.name :: arguments⟩ = false := rfl
    exact ⟨_, _, offer_apply (Registry.mem_table.mp present).1 _,
      executeStatement_offering words found detached⟩
  · rw [Report.full_warned tabled.sound limits present,
      drops_iff (Registry.mem_table.mp present).1]

/-- A name that can be seen to be that of a namespace of some sort is that of such a namespace. -/
theorem exists_of_find? {registry : Registry κ} {name : String} (isSuch : Namespace κ → Prop)
    [∀ space, Decidable (isSuch space)]
    (found : (registry.find? name).any (fun space => decide (isSuch space)) = true) :
    ∃ space ∈ registry.table, space.name = name ∧ isSuch space := by
  cases isFound : registry.find? name with
  | none => simp [isFound] at found
  | some space =>
    obtain ⟨present, isName⟩ := Registry.find?_ok isFound
    rw [isFound] at found
    exact ⟨space, present, isName, of_decide_eq_true found⟩

/-- A console where `x` has two owners and the only place in the queue of `N` is taken. -/
def congested : Console Unit :=
  (Console.empty ⟨.text "app", .whole 16, .whole 1⟩ .empty).actAll idle 1
    [.create ⟨.text "A", [], [⟨.text "x", .integer, .plain .null, none, .null⟩]⟩,
      .create ⟨.text "B", [], [⟨.text "x", .integer, .plain .null, none, .null⟩]⟩,
      .create ⟨.text "N", [⟨.text "go", some (.host ()), .null⟩], []⟩,
      .execute "N.go"]

/-- What is reported is what happens. -/
theorem congested_warned :
    ∃ report, Report.of? congested = .ok report ∧ report.IsAmbiguous "x" ∧
      (∃ spaces, congested.Answers (runWithin idle 1) "x" (.ambiguous "x" spaces)) ∧
      ∃ space ∈ congested.registry.table, space.name = "N" ∧
        Report.fullWarning "N" ∈ report.warnings ∧ congested.Drops space := by
  have reachable : congested.Reachable :=
    (Console.Reachable.empty _ .empty).actAll idle 1 _
  have moment : (congested.registry, congested.trace) ∈ congested.moments := List.mem_cons_self
  obtain ⟨made, warns⟩ := hazards_told reachable moment rfl
  obtain ⟨report, isReport⟩ := made (by decide +kernel)
  have warns := warns report isReport idle 1
  obtain ⟨-, rfl⟩ := Report.of?_eq_ok.mp isReport
  have ambiguous : (Report.of congested).IsAmbiguous "x" :=
    (warns.tabled "x").mpr ⟨["A", "B"], by decide +kernel⟩
  obtain ⟨space, present, isName, detached⟩ :=
    @exists_of_find? _ congested.registry "N" (fun space => space.handler = none) _
      (by decide +kernel)
  have warned : Report.fullWarning space.name ∈ (Report.of congested).warnings := by
    rw [isName]
    decide +kernel
  refine ⟨_, isReport, ambiguous, ?_, space, present, isName, isName ▸ warned,
    ((warns.full space present detached).mp warned).1⟩
  exact (warns.ambiguous "x" (by decide +kernel)).mpr ⟨ambiguous, by decide +kernel⟩

/-- A console whose queues have no places, where `x` has two owners and is a namespace. -/
def misjudged : Console Unit :=
  (Console.empty ⟨.text "app", .whole 16, .whole 0⟩ .empty).actAll idle 1
    [.create ⟨.text "A", [], [⟨.text "x", .integer, .plain .null, none, .null⟩]⟩,
      .create ⟨.text "B", [], [⟨.text "x", .integer, .plain .null, none, .null⟩]⟩,
      .create ⟨.text "x", [⟨.text "go", some (.host ()), .null⟩], []⟩]

/-- What is reported is not answered, and what is dropped is not reported. -/
theorem misjudged_warned : misjudged.Reachable ∧
    ∃ report, Report.of? misjudged = .ok report ∧ report.IsAmbiguous "x" ∧
      (∀ cause, ¬ misjudged.Answers (runWithin idle 1) "x" cause) ∧
      ∃ space ∈ misjudged.registry.table, space.handler = none ∧
        Report.fullWarning space.name ∉ report.warnings ∧ misjudged.Drops space := by
  have reachable : misjudged.Reachable :=
    (Console.Reachable.empty _ .empty).actAll idle 1 _
  have moment : (misjudged.registry, misjudged.trace) ∈ misjudged.moments := List.mem_cons_self
  have isReport := Report.of?_of_tabled (reachable.tabled _ moment) (by decide +kernel)
  obtain ⟨named, -⟩ := Report.of?_eq_ok.mp isReport
  obtain ⟨space, present, isName, detached, full⟩ :=
    @exists_of_find? _ misjudged.registry "x"
      (fun space => space.handler = none ∧ space.isFull = true) _ (by decide +kernel)
  refine ⟨reachable, _, isReport, ⟨["A", "B"], by decide +kernel, by decide +kernel⟩,
    fun cause answers => ?_, space, present, detached, ?_,
    (drops_iff (Registry.mem_table.mp present).1).mpr full⟩
  · obtain ⟨other, failed, -⟩ := (answers_iff named).mp answers
    have stands : (misjudged.registry.resolve "x").isOk = true := by decide +kernel
    rw [failed] at stands
    cases stands
  · rw [isName]
    decide +kernel

end CommandConsole
