import CommandConsole.Proofs.Run.Admission

set_option autoImplicit false

namespace CommandConsole

open CommandConsole.Action

variable {κ : Type}

def CommandDeclaration.described (declaration : CommandDeclaration κ) : CommandDeclaration κ :=
  { declaration with description := describedAs declaration.description }

def SettingDeclaration.explicit (declaration : SettingDeclaration κ) : SettingDeclaration κ :=
  match declaration.defaultValue with
  | .ok value => { declaration with default := .plain value.data }
  | .error _ => declaration

/-- A declaration whose commands have their descriptions written out. -/
def NamespaceDeclaration.described (declaration : NamespaceDeclaration κ) :
    NamespaceDeclaration κ :=
  { declaration with commands := declaration.commands.map .described }

/-- A declaration with all that it leaves out written out. -/
def NamespaceDeclaration.explicit (declaration : NamespaceDeclaration κ) :
    NamespaceDeclaration κ where
  name := declaration.name
  commands := declaration.commands.map .described
  settings := declaration.settings.map .explicit

/-- An event without the declaration that a namespace is created from. -/
def Event.undeclared : Event κ → Event κ
  | created space _ => created space ⟨.null, [], []⟩
  | event => event

/-- Consoles that only differ in the declarations that they tell namespaces are created from. -/
structure Console.Agrees (first second : Console κ) : Prop where
  config : first.config = second.config
  registry : first.registry = second.registry
  storage : first.storage = second.storage
  trace : first.trace.map Event.undeclared = second.trace.map Event.undeclared

/-- Two actions end with one result, on consoles that agree. -/
structure Action.EndsLike {α : Type} (action other : Action κ α) (first second : Console κ) :
    Prop where
  result : action.result first = other.result second
  after : (action.after first).Agrees (other.after second)

theorem SettingDeclaration.defaultValue_explicit (declaration : SettingDeclaration κ) :
    declaration.explicit.defaultValue = declaration.defaultValue := by
  cases defined : declaration.defaultValue with
  | error cause => simp only [explicit, defined]
  | ok value =>
    have ofKind : value.kind = declaration.kind := kind_of_defaultValue defined
    simp only [explicit, defined]
    apply defaultValue_of_gives
    exact .data value ofKind

theorem SettingDeclaration.name_explicit (declaration : SettingDeclaration κ) :
    declaration.explicit.name = declaration.name := by
  unfold explicit
  split <;> rfl

theorem describedAs_describedAs (description : Data) :
    describedAs (describedAs description) = describedAs description := by
  by_cases isPresent : description.isPresent = true
  · simp only [describedAs, isPresent, if_true]
  · simp only [describedAs, isPresent]
    rfl

variable {declaration : NamespaceDeclaration (Callback κ)} {first second : Console κ}

theorem settingObject_explicit (setting : SettingDeclaration (Callback κ)) :
    declaration.explicit.settingObject setting.explicit = declaration.settingObject setting := by
  have onward (value : Value) :
      Setting.ofDeclaration setting.explicit value = Setting.ofDeclaration setting value := by
    unfold SettingDeclaration.explicit
    split <;> rfl
  simp only [NamespaceDeclaration.settingObject, SettingDeclaration.defaultValue_explicit,
    SettingDeclaration.name_explicit, onward]
  rfl

theorem commandObject_described (command : CommandDeclaration (Callback κ)) :
    NamespaceDeclaration.commandObject command.described =
      NamespaceDeclaration.commandObject command := by
  simp only [NamespaceDeclaration.commandObject, Command.ofDeclaration,
    CommandDeclaration.described, describedAs_describedAs]

theorem names_explicit : declaration.explicit.names = declaration.names := by
  simp only [NamespaceDeclaration.names, NamespaceDeclaration.explicit, List.map_map]
  congr 1
  exact List.map_congr_left fun setting _ => setting.name_explicit

theorem objects_explicit : declaration.explicit.objects = declaration.objects := by
  have checked : declaration.explicit.checkNames = declaration.checkNames := by
    simp only [NamespaceDeclaration.checkNames, names_explicit]
    rfl
  have settings : declaration.explicit.settings.mapM declaration.explicit.settingObject =
      declaration.settings.mapM declaration.settingObject := by
    rw [NamespaceDeclaration.explicit, List.mapM_map]
    exact congrArg (List.mapM · declaration.settings) (funext settingObject_explicit)
  have commands : declaration.explicit.commands.map NamespaceDeclaration.commandObject =
      declaration.commands.map NamespaceDeclaration.commandObject := by
    rw [NamespaceDeclaration.explicit, List.map_map]
    exact List.map_congr_left fun command _ => commandObject_described command
  simp only [NamespaceDeclaration.objects, checked, settings, commands]

/-- What is written out makes no difference to what is declared. -/
theorem Registry.declared_explicit (registry : Registry κ) (config : Config) :
    registry.declared config declaration.explicit = registry.declared config declaration := by
  simp only [Registry.declared, objects_explicit]
  rfl

theorem create_explicit (declaration : NamespaceDeclaration (Callback κ))
    (agrees : first.Agrees second) :
    (create declaration.explicit).EndsLike (create declaration) first second := by
  have one := create_eq declaration.explicit first
  have other := create_eq declaration second
  -- Both ask for the same namespace, so only the event that is told tells them apart.
  rw [agrees.registry, agrees.config, Registry.declared_explicit] at one
  cases declared : second.registry.declared second.config declaration with
  | error fault =>
    rw [declared] at one other
    refine ⟨?_, ?_⟩
    · simp only [Action.result, one, other]
    · simpa only [Action.after, one, other] using agrees
  | ok space =>
    rw [declared] at one other
    refine ⟨?_, ?_⟩
    · simp only [Action.result, one, other]
    · simp only [Action.after, one, other]
      refine ⟨agrees.config, ?_, agrees.storage, ?_⟩
      · simp only [Console.creating, Console.tell, agrees.registry]
      · simp only [Console.creating, Console.tell, List.map_cons, agrees.trace]
        rfl

/-- Actions in sequence end like others if each part ends like the other's part. -/
theorem Action.EndsLike.bind {α β : Type} {action other : Action κ α} {next later : α → Action κ β}
    (alike : action.EndsLike other first second)
    (others : ∀ value first second, Console.Agrees first second →
      (next value).EndsLike (later value) first second) :
    (action >>= next).EndsLike (other >>= later) first second := by
  have after := alike.after
  refine ⟨?_, ?_⟩
  · rw [result_bind, result_bind, alike.result]
    cases other.result second with
    | ok value => exact (others value _ _ after).result
    | error fault => rfl
  · rw [after_bind, after_bind, alike.result]
    cases other.result second with
    | ok value => exact (others value _ _ after).after
    | error fault => exact after

/-- Declarations with everything written out create what the declarations create. -/
theorem createAll_explicit (declarations : List (NamespaceDeclaration (Callback κ)))
    (agrees : first.Agrees second) :
    (createAll (declarations.map .explicit)).EndsLike (createAll declarations) first second := by
  induction declarations generalizing first second with
  | nil => exact ⟨rfl, agrees⟩
  | cons declaration rest ih =>
    apply (create_explicit declaration agrees).bind
    intro serial first second agrees
    apply (ih agrees).bind
    exact fun serials first second agrees => ⟨rfl, agrees⟩

end CommandConsole
