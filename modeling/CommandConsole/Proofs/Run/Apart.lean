import CommandConsole.Proofs.Run.Local

set_option autoImplicit false

namespace CommandConsole

open CommandConsole.Action

variable {κ : Type}

section Commuting

variable {α β : Type}

def callsOf (serial : Nat) (trace : List (Event κ)) : List (Call κ) :=
  (calls trace).filter (·.space == serial)

/-- What an action comes to for a namespace is the same in two consoles. -/
structure DoesAlike (action : Action κ α) (space : Namespace κ) (console other : Console κ) :
    Prop where
  result : action.result other = action.result console
  effect : ∃ now, now.serial = space.serial ∧ now ∈ (action.after console).registry.table ∧
    now ∈ (action.after other).registry.table
  calls : ∃ made, calls (action.after console).trace = calls console.trace ++ made ∧
    calls (action.after other).trace = calls other.trace ++ made

namespace Scope

variable {scope further : Scope κ} {space beside : Namespace κ} {console : Console κ}
  {action : Action κ α} {answer : Except Fault α} {change : Namespace κ → Namespace κ}
  {made : List (Call κ)}

theorem Yields.alike (yields : scope.Yields space action answer change made)
    (hosts : scope.Hosts space console.registry) {other : Console κ}
    (otherHosts : scope.Hosts space other.registry) : DoesAlike action space console other := by
  obtain ⟨result, registry, called⟩ := (ends_iff _).mp (yields.ends console hosts)
  obtain ⟨otherResult, otherRegistry, otherCalled⟩ :=
    (ends_iff _).mp (yields.ends other otherHosts)
  refine ⟨otherResult.trans result.symm, ⟨change space, yields.keeps.serial space, ?_, ?_⟩,
    made, called, otherCalled⟩
  · exact registry ▸ (hosts.update yields.keeps).present
  · exact otherRegistry ▸ (otherHosts.update yields.keeps).present

/-- What two actions in turn make of their namespaces, and the calls that they make. -/
theorem Yields.in_turn (first : scope.Yields space action answer change made)
    {next : Action κ β} {reply : Except Fault β} {later : Namespace κ → Namespace κ}
    {more : List (Call κ)} (second : further.Yields beside next reply later more)
    (apart : beside.serial ≠ space.serial) (hosts : scope.Hosts space console.registry)
    (hostsBeside : further.Hosts beside console.registry) :
    (next.after (action.after console)).registry =
        (console.registry.update space.serial change).update beside.serial later ∧
      calls (next.after (action.after console)).trace = calls console.trace ++ made ++ more := by
  obtain ⟨-, registry, called⟩ := (ends_iff _).mp (first.ends console hosts)
  have still : further.Hosts beside (action.after console).registry :=
    registry ▸ hostsBeside.update_other first.keeps apart
  obtain ⟨-, registryAfter, calledAfter⟩ := (ends_iff _).mp (second.ends _ still)
  exact ⟨registryAfter.trans (by rw [registry]), calledAfter.trans (by rw [called])⟩

end Scope

end Commuting

/-- The namespaces that an operation on a namespace reaches: that namespace, and those of which its
queue names objects if the queue is replayed. -/
def Operation.Reaches (registry : Registry κ) (space : Namespace κ) (operation : Operation κ)
    (serial : Nat) : Prop :=
  serial = space.serial ∨ operation.Replays space ∧ ∃ statement ∈ space.pending, ∃ owner entry,
    registry.lookup statement.name = .ok (owner, entry) ∧ owner.serial = serial

/-- The callbacks of a namespace only record their calls; what they answer depends on nothing but
the call. -/
def Namespace.OnlyRecords (conduct : Conduct κ) (space : Namespace κ) : Prop :=
  ∀ call : Call κ, call.space = space.serial →
    space.callbackNamed? call.entry = some call.callback →
      ∃ script : Script κ, script.IsRecorder ∧
        ∀ console, Callback.script (conduct console) call = script

section Operations

variable {console : Console κ} (reachable : console.Reachable) {conduct : Conduct κ} {bound : Nat}

include reachable

/-- Where nobody has put statements into queues past the console, an operation reaches the namespace
that it is on, and no other. -/
theorem Console.Reachable.reaches_iff (never : NeverEnqueued console.trace) {space : Namespace κ}
    (present : space ∈ console.registry.table) (operation : Operation κ) (serial : Nat) :
    operation.Reaches console.registry space serial ↔ serial = space.serial := by
  refine ⟨?_, .inl⟩
  rintro (same | ⟨-, statement, queued, owner, entry, found, rfl⟩)
  · exact same
  · have owned := reachable.owned never space (Registry.mem_table.mp present).1 statement queued
    obtain ⟨inside, member, arguments, rfl, -⟩ := owned
    have named : console.registry.lookup (qualify space.name inside.name) = .ok (owner, entry) :=
      found
    rw [reachable.sound.lookup_qualify present member] at named
    exact congrArg Namespace.serial (Prod.mk.inj (Except.ok.inj named)).1.symm

/-- The names of a console, and the namespaces that an operation on one of its namespaces
reaches. -/
def Console.Reachable.scope (space : Namespace κ) (operation : Operation κ) : Scope κ :=
  ⟨console.registry, reachable.sound, operation.Reaches console.registry space,
    operation.Replays space⟩

/-- What an operation on a namespace of a console comes to. -/
theorem Console.Reachable.exists_yields {space : Namespace κ}
    (present : space ∈ console.registry.table) {operation : Operation κ}
    (isOn : operation.IsOn space)
    (recorders : ∀ owner ∈ console.registry.table,
      operation.Reaches console.registry space owner.serial → owner.OnlyRecords conduct) :
    ∃ answer change made, (reachable.scope space operation).Yields space
      (Console.act conduct bound operation) answer change made := by
  have steady : (reachable.scope space operation).IsSteady (runWithin conduct bound) := by
    intro owner isOwner inside call bySpace named
    obtain ⟨script, recorder, scripted⟩ := recorders owner isOwner inside call bySpace named
    exact steady_runWithin recorder scripted bound
  refine Scope.local_perform steady isOn (fun replays => replays) bound none
    ⟨⟨space, present, rfl⟩, .inl rfl, fun replays statement queued owner entry found => ?_⟩
  exact .inr ⟨replays, statement, queued, owner, entry, found, rfl⟩

/-- Operations on two namespaces commute where the callbacks that they reach only record: in either
order they end in the same table with the same values, handlers and queues, and the callbacks of a
namespace see the same calls in the same order, unless both operations reach it. What the first of
them answers, makes of its namespace and calls is the same in every console that has the same names,
whatever the other namespaces hold. -/
theorem operations_commute {first second : Namespace κ} (isFirst : first ∈ console.registry.table)
    (isSecond : second ∈ console.registry.table) (apart : first.serial ≠ second.serial)
    (conduct : Conduct κ) (bound : Nat) {one two : Operation κ} (oneIsOn : one.IsOn first)
    (twoIsOn : two.IsOn second)
    (recorders : ∀ owner ∈ console.registry.table,
      one.Reaches console.registry first owner.serial ∨
        two.Reaches console.registry second owner.serial → owner.OnlyRecords conduct) :
    let forth := console.actAll conduct bound [one, two]
    let back := console.actAll conduct bound [two, one]
    forth.registry = back.registry ∧
      (∀ serial, ¬ (one.Reaches console.registry first serial ∧
          two.Reaches console.registry second serial) →
        callsOf serial forth.trace = callsOf serial back.trace) ∧
      ∀ other : Console κ,
        other.registry.spaces.map Namespace.shape = console.registry.spaces.map Namespace.shape →
          first ∈ other.registry.table →
            DoesAlike (Console.act conduct bound one) first console other := by
  intro forth back
  obtain ⟨answer, change, made, yields⟩ := reachable.exists_yields isFirst oneIsOn
    fun owner isOwner reached => recorders owner isOwner (.inl reached)
  obtain ⟨reply, later, more, yieldsSecond⟩ := reachable.exists_yields isSecond twoIsOn
    fun owner isOwner reached => recorders owner isOwner (.inr reached)
  have hosts : (reachable.scope first one).Hosts first console.registry := ⟨rfl, isFirst⟩
  have hostsSecond : (reachable.scope second two).Hosts second console.registry :=
    ⟨rfl, isSecond⟩
  obtain ⟨registry, called⟩ := yields.in_turn yieldsSecond apart.symm hosts hostsSecond
  obtain ⟨registryBack, calledBack⟩ := yieldsSecond.in_turn yields apart hostsSecond hosts
  refine ⟨?_, fun serial notBoth => ?_, fun other shapes still => yields.alike hosts
    ⟨shapes, still⟩⟩
  · exact registry.trans ((Registry.update_comm _ apart yields.keeps.serial
      yieldsSecond.keeps.serial).trans registryBack.symm)
  -- The two orders differ in which calls come first; one of the two makes none for this namespace.
  · have toldForth : calls forth.trace = _ := called
    have toldBack : calls back.trace = _ := calledBack
    simp only [callsOf, toldForth, toldBack, List.append_assoc, List.filter_append]
    congr 1
    by_cases reached : one.Reaches console.registry first serial
    · have none : more.filter (·.space == serial) = [] := by
        refine List.filter_eq_nil_iff.mpr fun call member same => ?_
        exact notBoth ⟨reached, eq_of_beq same ▸ yieldsSecond.reached call member⟩
      rw [none, List.append_nil, List.nil_append]
    · have none : made.filter (·.space == serial) = [] := by
        refine List.filter_eq_nil_iff.mpr fun call member same => ?_
        exact reached (eq_of_beq same ▸ yields.reached call member)
      rw [none, List.append_nil, List.nil_append]

end Operations

theorem Namespace.onlyRecords_idle {space : Namespace Unit}
    (hosted : ∀ entry ∈ space.entries, entry.callback? = some (.host ())) :
    space.OnlyRecords idle := by
  intro call _ named
  obtain ⟨entry, member, answers⟩ := Namespace.exists_of_callbackNamed? named
  refine ⟨.done true, .done true, fun console => ?_⟩
  rw [Callback.script, ← Option.some.inj ((hosted entry member).symm.trans answers)]
  rfl

/-- A console with a detached namespace, in whose queue there is some work, and an attached one. -/
def paired : Console Unit :=
  (Console.empty .standard .empty).actAll idle 3
    [.create ⟨.text "N", [⟨.text "go", some (.host ()), .null⟩],
        [⟨.text "v", .integer, .plain .null, some (.host ()), .null⟩]⟩,
      .create ⟨.text "M", [⟨.text "go", some (.host ()), .null⟩], []⟩,
      .attach 1 (some (.label "m")), .execute "N.go first", .execute "N.v 5"]

/-- The queue of one is replayed before or after a command of the other. -/
theorem paired_commute :
    let forth := paired.actAll idle 3 [.attach 0 (some (.label "n")), .execute "M.go now"]
    let back := paired.actAll idle 3 [.execute "M.go now", .attach 0 (some (.label "n"))]
    forth.registry = back.registry ∧ callsOf 0 forth.trace = callsOf 0 back.trace ∧
      callsOf 1 forth.trace = callsOf 1 back.trace ∧
      callsOf 0 back.trace =
        [⟨.host (), 0, "go", .label "n", .command ⟨["N.go", "first"]⟩, true⟩,
          ⟨.host (), 0, "v", .label "n", .change (.integer 5), true⟩] := by
  have reachable : paired.Reachable :=
    (Console.Reachable.empty .standard .empty).actAll idle 3 _
  have never : NeverEnqueued paired.trace := by decide +kernel
  have names : paired.registry.table.map (fun space => (space.serial, space.name)) =
      [(0, "N"), (1, "M")] := by decide +kernel
  obtain ⟨first, rest, table, firstIs, others⟩ := List.map_eq_cons_iff.mp names
  obtain ⟨second, rfl, secondIs⟩ := List.map_eq_singleton_iff.mp others
  obtain ⟨firstSerial, firstName⟩ := Prod.mk.inj firstIs
  obtain ⟨secondSerial, secondName⟩ := Prod.mk.inj secondIs
  have isFirst : first ∈ paired.registry.table := by simp [table]
  have isSecond : second ∈ paired.registry.table := by simp [table]
  have hosted : ∀ space ∈ paired.registry.table, ∀ entry ∈ space.entries,
      entry.callback? = some (.host ()) := by decide +kernel
  have isOnSecond : Operation.IsOn second (.execute "M.go now") := by
    rw [Operation.IsOn, secondName]
    decide +kernel
  obtain ⟨registry, called, -⟩ := operations_commute reachable isFirst isSecond
    (by rw [firstSerial, secondSerial]; decide) idle 3
    (show Operation.IsOn first (.attach 0 (some (.label "n"))) from firstSerial.symm) isOnSecond
    fun owner isOwner _ => Namespace.onlyRecords_idle (hosted owner isOwner)
  refine ⟨registry, called 0 ?_, called 1 ?_, by decide +kernel⟩
  · rw [reachable.reaches_iff never isSecond, secondSerial]
    exact fun both => absurd both.2 (by decide)
  · rw [reachable.reaches_iff never isFirst, firstSerial]
    exact fun both => absurd both.1 (by decide)

/-- The host has put a command of an attached namespace into the queue of a detached one. -/
def crossing : Console Unit :=
  (Console.empty .standard .empty).actAll idle 3
    [.create ⟨.text "N", [⟨.text "go", some (.host ()), .null⟩], []⟩,
      .create ⟨.text "M", [⟨.text "go", some (.host ()), .null⟩], []⟩,
      .attach 1 (some (.label "m")), .enqueue 0 ⟨["M.go", "queued"]⟩]

/-- A namespace that both operations reach sees its calls in the order of the operations. -/
theorem crossing_interferes :
    crossing.Reachable ∧ ∃ first second, crossing.registry.table = [first, second] ∧
      first.OnlyRecords idle ∧ second.OnlyRecords idle ∧
      Operation.IsOn first (.attach 0 (some (.label "n"))) ∧
      Operation.IsOn second (.execute "M.go typed") ∧ second.serial = 1 ∧
      callsOf 1 (crossing.actAll idle 3
          [.attach 0 (some (.label "n")), .execute "M.go typed"]).trace =
        [⟨.host (), 1, "go", .label "n", .command ⟨["M.go", "queued"]⟩, true⟩,
          ⟨.host (), 1, "go", .label "m", .command ⟨["M.go", "typed"]⟩, false⟩] ∧
      callsOf 1 (crossing.actAll idle 3
          [.execute "M.go typed", .attach 0 (some (.label "n"))]).trace =
        [⟨.host (), 1, "go", .label "m", .command ⟨["M.go", "typed"]⟩, false⟩,
          ⟨.host (), 1, "go", .label "n", .command ⟨["M.go", "queued"]⟩, true⟩] := by
  have names : crossing.registry.table.map (fun space => (space.serial, space.name)) =
      [(0, "N"), (1, "M")] := by decide +kernel
  obtain ⟨first, rest, table, firstIs, others⟩ := List.map_eq_cons_iff.mp names
  obtain ⟨second, rfl, secondIs⟩ := List.map_eq_singleton_iff.mp others
  obtain ⟨firstSerial, firstName⟩ := Prod.mk.inj firstIs
  obtain ⟨secondSerial, secondName⟩ := Prod.mk.inj secondIs
  have hosted : ∀ space ∈ crossing.registry.table, ∀ entry ∈ space.entries,
      entry.callback? = some (.host ()) := by decide +kernel
  refine ⟨(Console.Reachable.empty .standard .empty).actAll idle 3 _, first, second, table,
    Namespace.onlyRecords_idle (hosted first (by simp [table])),
    Namespace.onlyRecords_idle (hosted second (by simp [table])), firstSerial.symm, ?_,
    secondSerial, by decide +kernel, by decide +kernel⟩
  rw [Operation.IsOn, secondName]
  decide +kernel

end CommandConsole
