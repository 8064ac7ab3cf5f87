import CommandConsole.Proofs.Run.Sound

set_option autoImplicit false

/-!
What a trace tells, and the moments of a run. Callbacks see the console where they are called and
where an operation of theirs has been answered, also in the middle of a replay. Main statement: what
steps and turns keep holds at every moment of every run (`Reachable.always`).
-/
namespace CommandConsole

variable {κ : Type}

/-- What some events of a trace tell, earliest first. -/
def chronicle {α : Type} (pick : Event κ → Option α) (trace : List (Event κ)) : List α :=
  trace.reverse.filterMap pick

theorem chronicle_cons {α : Type} (pick : Event κ → Option α) (event : Event κ)
    (trace : List (Event κ)) :
    chronicle pick (event :: trace) = chronicle pick trace ++ (pick event).toList := by
  simp only [chronicle, List.reverse_cons, List.filterMap_append, List.filterMap_cons,
    List.filterMap_nil]
  cases pick event <;> rfl

theorem chronicle_append {α : Type} (pick : Event κ → Option α) (later earlier : List (Event κ)) :
    chronicle pick (later ++ earlier) = chronicle pick earlier ++ chronicle pick later := by
  simp only [chronicle, List.reverse_append, List.filterMap_append]

theorem chronicle_of_none {α : Type} {pick : Event κ → Option α} {events : List (Event κ)}
    (none : ∀ event ∈ events, pick event = none) : chronicle pick events = [] :=
  List.filterMap_eq_nil_iff.mpr fun event member => none event (List.mem_reverse.mp member)

/-- The moments that a trace tells, each with its registry and what had happened by then. -/
def told : List (Event κ) → List (Registry κ × List (Event κ))
  | [] => []
  | .called call registry :: earlier => (registry, .called call registry :: earlier) :: told earlier
  | .answered call reply registry :: earlier =>
    (registry, .answered call reply registry :: earlier) :: told earlier
  | _ :: earlier => told earlier

/-- The moments at which others than the console are at work: now and those before. -/
def Console.moments (console : Console κ) : List (Registry κ × List (Event κ)) :=
  (console.registry, console.trace) :: told console.trace

/-- Where a callback has been called is a moment. -/
theorem mem_moments_of_called {console : Console κ} {call : Call κ} {registry : Registry κ}
    {earlier : List (Event κ)} (called : .called call registry :: earlier <:+ console.trace) :
    (registry, .called call registry :: earlier) ∈ console.moments := by
  suffices inside : ∀ trace, .called call registry :: earlier <:+ trace →
      (registry, .called call registry :: earlier) ∈ told trace from
    List.mem_cons_of_mem _ (inside console.trace called)
  intro trace suffix
  induction trace with
  | nil => cases List.suffix_nil.mp suffix
  | cons event rest ih =>
    rcases List.suffix_cons_iff.mp suffix with same | suffix
    · exact same ▸ List.mem_cons_self
    · have member := ih suffix
      cases event <;> first | exact member | exact List.mem_cons_of_mem _ member

/-- Of a sequence of events that changes what is told, only the end is a moment. -/
def TellsLast (before after : Console κ) : Prop :=
  ∀ moment ∈ told after.trace,
    moment = (after.registry, after.trace) ∨ moment ∈ told before.trace

theorem tellsLast_of_same {before after : Console κ} (same : told after.trace = told before.trace) :
    TellsLast before after :=
  fun _ member => .inr (same ▸ member)

theorem tellsLast_calling {before console : Console κ} (call : Call κ)
    (same : told console.trace = told before.trace) : TellsLast before (console.calling call) := by
  intro moment member
  rcases List.mem_cons.mp member with rfl | member
  · exact .inl rfl
  · exact .inr (same ▸ member)

theorem tellsLast_running {before console : Console κ} (handler : Handler) (isReplay : Bool)
    (space : Namespace κ) (command : Command κ) (statement : Statement)
    (same : told console.trace = told before.trace) :
    TellsLast before (console.running handler isReplay space command statement) := by
  unfold Console.running
  cases command.action with
  | none => exact tellsLast_of_same same
  | some callback => exact tellsLast_calling _ same

theorem tellsLast_notifying {before console : Console κ} (handler : Handler) (isReplay : Bool)
    (space : Namespace κ) (setting : Setting κ) (value : Value)
    (same : told console.trace = told before.trace) :
    TellsLast before (console.notifying handler isReplay space setting value) := by
  unfold Console.notifying
  cases setting.onChange with
  | none => exact tellsLast_of_same same
  | some callback => exact tellsLast_calling _ same

theorem Step.tellsLast {before after : Console κ} (step : Step before after) :
    TellsLast before after := by
  cases step with
  | @tell event passing =>
    cases event with
    -- An answer is told with the registry that there is, so that its moment is the present one.
    | answered call reply registry =>
      intro moment member
      rcases List.mem_cons.mp member with rfl | member
      · exact .inl (by rw [show registry = before.registry from passing]; rfl)
      · exact .inr member
    | _ => first | exact passing.elim | exact tellsLast_of_same rfl
  | run statement present found attached => exact tellsLast_running _ _ _ _ _ rfl
  | notify present found kind differs attached => exact tellsLast_notifying _ _ _ _ _ rfl
  | _ => exact tellsLast_of_same rfl

theorem Turn.tellsLast {before after : Console κ} (turn : Turn before after) :
    TellsLast before after := by
  cases turn with
  | attach handler present => exact tellsLast_of_same rfl
  | replay present due replay =>
    cases replay with
    | command found => exact tellsLast_running _ _ _ _ _ rfl
    | change found reads => exact tellsLast_notifying _ _ _ _ _ rfl
    | fail unknown => exact tellsLast_of_same rfl

section Always

variable {holds : Registry κ → List (Event κ) → Prop}

theorem TellsLast.always {before after : Console κ} (last : TellsLast before after)
    (now : holds after.registry after.trace)
    (earlier : ∀ moment ∈ before.moments, holds moment.1 moment.2) :
    ∀ moment ∈ after.moments, holds moment.1 moment.2 := by
  intro moment member
  rcases List.mem_cons.mp member with rfl | member
  · exact now
  · rcases last moment member with rfl | member
    · exact now
    · exact earlier moment (List.mem_cons_of_mem _ member)

/-- What holds of an empty registry and is kept by steps and turns holds at every moment. -/
theorem Console.Reachable.always
    (steps : ∀ {before after : Console κ}, Step before after →
      holds before.registry before.trace → holds after.registry after.trace)
    (turns : ∀ {before after : Console κ}, Turn before after →
      holds before.registry before.trace → holds after.registry after.trace)
    (initially : holds .empty []) {console : Console κ} (reachable : console.Reachable) :
    ∀ moment ∈ console.moments, holds moment.1 moment.2 := by
  have : IgnoresFiles fun console : Console κ =>
      ∀ moment ∈ console.moments, holds moment.1 moment.2 := ⟨fun _ kept => kept⟩
  have moments := reachable.holds_of_turns
    (fun step (earlier : ∀ moment ∈ Console.moments _, holds moment.1 moment.2) =>
      step.tellsLast.always (steps step (earlier _ List.mem_cons_self)) earlier)
    (fun turn earlier => turn.tellsLast.always (turns turn (earlier _ List.mem_cons_self)) earlier)
  apply moments
  intro _ _ moment member
  rcases List.mem_cons.mp member with rfl | member
  · exact initially
  · cases member

end Always

end CommandConsole
