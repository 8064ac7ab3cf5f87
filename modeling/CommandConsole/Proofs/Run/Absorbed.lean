import CommandConsole.Proofs.Run.Reachable

set_option autoImplicit false

namespace CommandConsole

open CommandConsole.Action

variable {κ : Type}

/-- No console error leaves an action. -/
def Absorbs {α : Type} (action : Action κ α) : Prop :=
  ∀ console, Ends action console fun result _ => ∀ cause, result ≠ .error (.console cause)

section Parts

variable {α β : Type}

theorem absorbs_pure (value : α) : Absorbs (κ := κ) (pure value) :=
  fun _ _ same => by cases same

theorem absorbs_record (event : Event κ) : Absorbs (record event) :=
  fun _ _ same => by cases same

theorem absorbs_update (space : Nat) (change : Namespace κ → Namespace κ) :
    Absorbs (update space change) :=
  fun _ _ same => by cases same

theorem Absorbs.bind {action : Action κ α} {next : α → Action κ β} (first : Absorbs action)
    (second : ∀ value, Absorbs (next value)) : Absorbs (action >>= next) := by
  intro console
  rw [ends_bind]
  apply (first console).mono
  intro result after absorbed
  cases result with
  | ok value => exact second value after
  | error fault => exact fun cause same => absorbed cause (congrArg _ (Except.error.inj same))

/-- What depends on the registry absorbs errors if it does so for every registry. -/
theorem Absorbs.of_registry {next : Registry κ → Action κ β}
    (absorbs : ∀ registry, Absorbs (next registry)) : Absorbs (registry >>= next) :=
  fun console => (ends_bind ..).mpr (absorbs console.registry console)

theorem absorbs_reporting (otherwise : α) (action : Action κ α) :
    Absorbs (reporting otherwise action) := by
  intro console
  rw [ends_reporting, ends_iff]
  cases action.result console with
  | ok value => exact fun cause same => by cases same
  | error fault => cases fault <;> exact fun _ same => by cases same

end Parts

variable {run : Runner κ}

theorem absorbs_executeStatement (statement : Statement) :
    Absorbs (executeStatement run statement) := by
  unfold executeStatement
  split
  · exact absorbs_pure _
  · exact absorbs_reporting _ _

theorem absorbs_executeEach (statements : List Statement) :
    Absorbs (executeEach run statements) := by
  induction statements with
  | nil => exact absorbs_pure _
  | cons statement rest ih => exact (absorbs_executeStatement statement).bind fun _ => ih

theorem absorbs_executeLines (lines : List String) : Absorbs (executeLines run lines) := by
  induction lines with
  | nil => exact absorbs_pure _
  | cons line rest ih =>
    simp only [executeLines]
    split
    · exact ih
    · -- What the line says is hidden, so that it is not evaluated where the parts are joined.
      have executed : Absorbs (execute run (Text.strip line)) := absorbs_executeStatement _
      generalize execute run (Text.strip line) = action at executed ⊢
      exact executed.bind fun _ => ih.bind fun _ => absorbs_pure _

theorem absorbs_load (paths : List String) : Absorbs (load run paths) := by
  induction paths with
  | nil => exact absorbs_pure _
  | cons path rest ih =>
    refine (absorbs_record _).bind fun _ console => ?_
    simp only [ends_bind, ends_get]
    split
    · exact fun cause same => by cases same
    · exact (absorbs_record _).bind (fun _ => ih) console
    · split
      · exact fun cause same => by cases same
      · exact (absorbs_executeLines _).bind
          (fun _ => ih.bind fun _ => absorbs_pure _) console

theorem absorbs_flush (space rounds : Nat) : Absorbs (flush run space rounds) := by
  induction rounds with
  | zero =>
    exact fun console => ends_flush (fun _ _ same => by cases same)
      fun _ _ _ _ _ _ _ same => by cases same
  | succ rounds ih =>
    intro console
    refine ends_flush (fun _ _ same => by cases same) fun owner _ _ handler statement _ => ?_
    apply (absorbs_reporting () (replay run handler statement) _).mono
    intro result after absorbed
    cases result with
    | ok _ => exact ih after
    | error fault => exact absorbed

theorem absorbs_setHandler (rounds space : Nat) (handler : Option Handler) :
    Absorbs (setHandler run rounds space handler) := by
  apply Absorbs.of_registry
  intro registry
  split
  · exact absorbs_pure _
  · refine (absorbs_update _ _).bind fun _ => (absorbs_record _).bind fun _ => ?_
    split
    · exact absorbs_flush _ _
    · exact absorbs_pure _

theorem absorbs_attach (rounds space : Nat) (handler : Option Handler) :
    Absorbs (attach run rounds space handler) := by
  apply Absorbs.of_registry
  intro registry
  split
  · exact absorbs_pure _
  · split
    · exact absorbs_setHandler _ _ _
    · exact (absorbs_update _ _).bind fun _ => absorbs_record _

end CommandConsole
