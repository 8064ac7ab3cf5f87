import CommandConsole.Console

set_option autoImplicit false

namespace CommandConsole.Action

variable {κ α β : Type}

/-- An action ends well when its result and the console after it are good. -/
def Ends (action : Action κ α) (console : Console κ)
    (good : Except Fault α → Console κ → Prop) : Prop :=
  match action console with
  | .ok value after => good (.ok value) after
  | .error fault after => good (.error fault) after

def after (action : Action κ α) (console : Console κ) : Console κ :=
  match action console with
  | .ok _ after | .error _ after => after

def result (action : Action κ α) (console : Console κ) : Except Fault α :=
  match action console with
  | .ok value _ => .ok value
  | .error fault _ => .error fault

variable {console : Console κ} {good better : Except Fault α → Console κ → Prop}

theorem ends_iff (action : Action κ α) :
    Ends action console good ↔ good (action.result console) (action.after console) := by
  unfold Ends result after
  cases action console <;> rfl

theorem Ends.congr {first second : Action κ α} (same : first console = second console) :
    Ends first console good ↔ Ends second console good := by
  unfold Ends
  rw [same]

theorem ends_after (action : Action κ α) (console : Console κ) (holds : Console κ → Prop) :
    Ends action console (fun _ after => holds after) ↔ holds (action.after console) := by
  unfold Ends after
  cases action console <;> rfl

theorem Ends.mono {action : Action κ α} (ends : Ends action console better)
    (implies : ∀ result after, better result after → good result after) :
    Ends action console good := by
  unfold Ends at ends ⊢
  cases run : action console with
  | ok value after => exact implies _ _ (by simpa only [run] using ends)
  | error fault after => exact implies _ _ (by simpa only [run] using ends)

theorem Ends.and {action : Action κ α} (first : Ends action console good)
    (second : Ends action console better) :
    Ends action console fun result after => good result after ∧ better result after := by
  rw [ends_iff] at first second ⊢
  exact ⟨first, second⟩

theorem Ends.exists_ok {action : Action κ α} {value : α} {holds : Console κ → Prop}
    (ends : Ends action console fun result after => result = .ok value ∧ holds after) :
    ∃ after, action console = .ok value after ∧ holds after := by
  unfold Ends at ends
  cases run : action console with
  | ok other after =>
    simp only [run, Except.ok.injEq] at ends
    exact ⟨after, by rw [ends.1], ends.2⟩
  | error fault after =>
    simp only [run, reduceCtorEq, false_and] at ends

@[simp] theorem ends_pure (value : α) :
    Ends (pure value) console good ↔ good (.ok value) console := Iff.rfl

@[simp] theorem ends_throw (fault : Fault) :
    Ends (throw fault) console good ↔ good (.error fault) console := Iff.rfl

@[simp] theorem ends_bind (action : Action κ α) (next : α → Action κ β)
    (good : Except Fault β → Console κ → Prop) :
    Ends (action >>= next) console good ↔
      Ends action console fun result after =>
        match result with
        | .ok value => Ends (next value) after good
        | .error fault => good (.error fault) after := by
  simp only [Ends, bind, EStateM.bind]
  cases action console <;> rfl

@[simp] theorem ends_map (action : Action κ α) (change : α → β)
    (good : Except Fault β → Console κ → Prop) :
    Ends (change <$> action) console good ↔
      Ends action console fun result after => good (result.map change) after := by
  simp only [Ends, Functor.map, EStateM.map]
  cases action console <;> rfl

theorem tryCatch_apply (action : Action κ α) (handle : Fault → Action κ α) (console : Console κ) :
    tryCatch action handle console =
      match action console with
      | .ok value after => .ok value after
      | .error fault after => handle fault after := by
  change EStateM.tryCatch action handle console = _
  delta EStateM.tryCatch
  simp only
  cases action console <;> rfl

@[simp] theorem ends_tryCatch (action : Action κ α) (handle : Fault → Action κ α) :
    Ends (tryCatch action handle) console good ↔
      Ends action console fun result after =>
        match result with
        | .ok value => good (.ok value) after
        | .error fault => Ends (handle fault) after good := by
  simp only [Ends, tryCatch_apply]
  cases action console <;> rfl

@[simp] theorem ends_get (good : Except Fault (Console κ) → Console κ → Prop) :
    Ends get console good ↔ good (.ok console) console := Iff.rfl

@[simp] theorem ends_record (event : Event κ) (good : Except Fault Unit → Console κ → Prop) :
    Ends (record event) console good ↔ good (.ok ()) (console.tell event) := Iff.rfl

@[simp] theorem ends_write (text : String) (good : Except Fault Unit → Console κ → Prop) :
    Ends (write text) console good ↔ good (.ok ()) (console.tell (.wrote text)) := Iff.rfl

@[simp] theorem ends_update (space : Nat) (change : Namespace κ → Namespace κ)
    (good : Except Fault Unit → Console κ → Prop) :
    Ends (update space change) console good ↔ good (.ok ()) (console.change space change) :=
  Iff.rfl

@[simp] theorem ends_registry (good : Except Fault (Registry κ) → Console κ → Prop) :
    Ends registry console good ↔ good (.ok console.registry) console := Iff.rfl

@[simp] theorem ends_lift (result : Except Fault α) :
    Ends (lift result) console good ↔ good result console := by
  cases result <;> rfl

@[simp] theorem ends_liftError (result : Except ConsoleError α) :
    Ends (liftError result) console good ↔ good (result.mapError Fault.console) console := by
  cases result <;> rfl

@[simp] theorem ends_replying (action : Action κ (Reply κ))
    (good : Except Fault (Reply κ) → Console κ → Prop) :
    Ends (replying action) console good ↔
      Ends action console fun result after =>
        match result with
        | .ok reply => good (.ok reply) after
        | .error fault => good (.ok (.failed fault)) after := by
  simp only [replying, ends_tryCatch, ends_pure]
  exact Iff.rfl

/-- An action that reports its console errors ends as it does otherwise, but for these errors. -/
theorem ends_reporting (otherwise : α) (action : Action κ α) :
    Ends (reporting otherwise action) console good ↔
      Ends action console fun result after =>
        match result with
        | .error (.console cause) =>
          good (.ok otherwise) (after.tell (.wrote (cause.message ++ "\n")))
        | result => good result after := by
  simp only [reporting, ends_tryCatch]
  unfold Ends
  cases action console with
  | ok value after => rfl
  | error fault after => cases fault <;> rfl

/-- What is done with the registry is done with the registry that there is. -/
theorem registry_bind (next : Registry κ → Action κ α) (console : Console κ) :
    (registry >>= next) console = next console.registry console := rfl

theorem result_bind (action : Action κ α) (next : α → Action κ β) (console : Console κ) :
    (action >>= next).result console =
      match action.result console with
      | .ok value => (next value).result (action.after console)
      | .error fault => .error fault := by
  simp only [result, after, bind, EStateM.bind]
  cases action console <;> rfl

theorem after_bind (action : Action κ α) (next : α → Action κ β) (console : Console κ) :
    (action >>= next).after console =
      match action.result console with
      | .ok value => (next value).after (action.after console)
      | .error _ => action.after console := by
  simp only [result, after, bind, EStateM.bind]
  cases action console <;> rfl

theorem result_tryCatch (action : Action κ α) (handle : Fault → Action κ α)
    (console : Console κ) :
    (tryCatch action handle).result console =
      match action.result console with
      | .ok value => .ok value
      | .error fault => (handle fault).result (action.after console) := by
  simp only [result, after, tryCatch_apply]
  cases action console <;> rfl

theorem after_tryCatch (action : Action κ α) (handle : Fault → Action κ α)
    (console : Console κ) :
    (tryCatch action handle).after console =
      match action.result console with
      | .ok _ => action.after console
      | .error fault => (handle fault).after (action.after console) := by
  simp only [result, after, tryCatch_apply]
  cases action console <;> rfl

theorem reporting_congr {otherwise : α} {first second : Action κ α}
    (same : first console = second console) :
    reporting otherwise first console = reporting otherwise second console := by
  simp only [reporting, tryCatch_apply, same]

end CommandConsole.Action
