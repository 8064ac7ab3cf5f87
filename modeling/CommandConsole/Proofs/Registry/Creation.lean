import CommandConsole.Proofs.Registry.Names
import CommandConsole.Registry.Creation
import Mathlib.Data.List.Forall2

set_option autoImplicit false

namespace CommandConsole

variable {κ : Type}

theorem except_bind_ok {ε α β : Type} {first : Except ε α} {next : α → Except ε β} {result : β} :
    (first >>= next) = .ok result ↔ ∃ value, first = .ok value ∧ next value = .ok result := by
  cases first <;> simp [bind, Except.bind]

theorem mapM_ok {ε α β : Type} {read : α → Except ε β} {items : List α} {results : List β}
    (success : items.mapM read = .ok results) :
    List.Forall₂ (fun item result => read item = .ok result) items results := by
  induction items generalizing results with
  | nil =>
    simp only [List.mapM_nil, pure, Except.pure, Except.ok.injEq] at success
    exact success ▸ .nil
  | cons item rest ih =>
    simp only [List.mapM_cons, except_bind_ok, pure, Except.pure, Except.ok.injEq] at success
    obtain ⟨first, isFirst, others, areOthers, rfl⟩ := success
    exact .cons isFirst (ih areOthers)

theorem exists_of_mem_right {α β : Type} {related : α → β → Prop} {items : List α}
    {results : List β} (pairs : List.Forall₂ related items results) {result : β}
    (member : result ∈ results) : ∃ item ∈ items, related item result := by
  induction pairs with
  | nil => cases member
  | cons pair _ ih =>
    rcases List.mem_cons.mp member with rfl | member
    · exact ⟨_, List.mem_cons_self, pair⟩
    · obtain ⟨item, isItem, isRelated⟩ := ih member
      exact ⟨item, List.mem_cons_of_mem _ isItem, isRelated⟩

theorem forM_ok {ε α : Type} {check : α → Except ε Unit} {items : List α}
    (success : forM items check = .ok ()) : ∀ item ∈ items, check item = .ok () := by
  induction items with
  | nil => simp
  | cons item rest ih =>
    rw [List.forM_cons, except_bind_ok] at success
    obtain ⟨_, isFirst, others⟩ := success
    intro other member
    rcases List.mem_cons.mp member with rfl | member
    · exact isFirst
    · exact ih others other member

theorem checkName_text {refused : Fault} {content : String}
    (success : checkName refused (.text content) = .ok ()) : IsName content := by
  simp only [checkName, Data.isPresent, hasDot?, Data.unmarked] at success
  by_cases absent : content = ""
  · simp [absent] at success
  · refine ⟨absent, fun dot => ?_⟩
    simp [absent, dot] at success

theorem nodup_of_duplicates {names : List String} (none : (duplicates names).isEmpty) :
    names.Nodup := by
  rw [List.nodup_iff_count_le_one]
  intro name
  by_contra repeated
  have member : name ∈ names.filter fun name => decide (1 < names.count name) := by
    rw [List.mem_filter]
    refine ⟨?_, by simpa using repeated⟩
    exact List.count_pos_iff.mp (by omega)
  have kept : name ∈ duplicates names := by
    simpa [duplicates] using member
  simp [List.isEmpty_iff.mp none] at kept

/-- Every name of the objects that is a text is a name, and none is met twice. -/
theorem NamespaceDeclaration.checkNames_ok {declaration : NamespaceDeclaration (Callback κ)}
    (success : declaration.checkNames = .ok ()) :
    (∀ content, Data.text content ∈ declaration.names → IsName content) ∧
      (textsOf declaration.names).Nodup := by
  simp only [checkNames, except_bind_ok] at success
  obtain ⟨_, named, rest⟩ := success
  split at rest
  · cases rest
  · split at rest
    · cases rest
    · rename_i distinct
      exact ⟨fun content member => checkName_text (forM_ok named _ member),
        nodup_of_duplicates (by simpa using distinct)⟩

/-- What a declared object is: it has its name and holds what it was declared with. -/
structure IsDeclared (object : Data × Entry κ) : Prop where
  name : ∀ content, object.1 = .text content → object.2.name = content
  pristine : object.2.pristine = object.2
  kinds : ∀ setting, object.2 = .setting setting →
    setting.default.kind = setting.kind ∧ setting.current.kind = setting.kind

theorem isDeclared_setting {declaration : NamespaceDeclaration (Callback κ)}
    {setting : SettingDeclaration (Callback κ)} {object : Data × Entry κ}
    (success : declaration.settingObject setting = .ok object) :
    object.1 = setting.name ∧ IsDeclared object := by
  unfold NamespaceDeclaration.settingObject at success
  split at success
  · rename_i default isDefault
    have kind := SettingDeclaration.kind_of_defaultValue isDefault
    simp only [Except.ok.injEq] at success
    subst success
    refine ⟨rfl, ?_, rfl, ?_⟩
    · rintro content same
      simp only at same
      simp only [Entry.name, Setting.ofDeclaration, same, Data.plain]
    · rintro made same
      simp only [Entry.setting.injEq] at same
      subst same
      exact ⟨kind, kind⟩
  · cases success

theorem isDeclared_command (command : CommandDeclaration (Callback κ)) :
    IsDeclared (NamespaceDeclaration.commandObject command) := by
  refine ⟨?_, rfl, fun setting same => by cases same⟩
  rintro content same
  simp only [NamespaceDeclaration.commandObject] at same
  simp only [NamespaceDeclaration.commandObject, Entry.name, Command.ofDeclaration, same,
    Data.plain]

theorem NamespaceDeclaration.objects_ok {declaration : NamespaceDeclaration (Callback κ)}
    {objects : List (Data × Entry κ)} (success : declaration.objects = .ok objects) :
    declaration.checkNames = .ok () ∧ objects.map (·.1) = declaration.names ∧
      ∀ object ∈ objects, IsDeclared object := by
  simp only [NamespaceDeclaration.objects, except_bind_ok, pure, Except.pure,
    Except.ok.injEq] at success
  obtain ⟨_, checked, settings, areSettings, rfl⟩ := success
  have made := mapM_ok areSettings
  refine ⟨checked, ?_, ?_⟩
  · have names : declaration.settings.map (·.name) = settings.map (·.1) := by
      rw [← List.forall₂_eq_eq_eq, List.forall₂_map_left_iff, List.forall₂_map_right_iff]
      exact made.imp fun _ _ isObject => (isDeclared_setting isObject).1.symm
    simp [NamespaceDeclaration.names, names, commandObject, Function.comp_def]
  · intro object member
    rcases List.mem_append.mp member with member | member
    · obtain ⟨setting, _, isObject⟩ := exists_of_mem_right made member
      exact (isDeclared_setting isObject).2
    · obtain ⟨command, _, rfl⟩ := List.mem_map.mp member
      exact isDeclared_command command

theorem mem_named {objects : List (Data × Entry κ)} {entry : Entry κ} :
    entry ∈ named objects ↔ ∃ content, (Data.text content, entry) ∈ objects := by
  simp only [named, List.mem_filterMap, Option.ite_none_right_eq_some, Option.some.injEq]
  constructor
  · rintro ⟨⟨label, found⟩, member, isText, rfl⟩
    cases label with
    | text content => exact ⟨content, member⟩
    | _ => cases isText
  · rintro ⟨content, member⟩
    exact ⟨_, member, rfl, rfl⟩

theorem names_named {objects : List (Data × Entry κ)}
    (declared : ∀ object ∈ objects, IsDeclared object) :
    (named objects).map Entry.name = textsOf (objects.map (·.1)) := by
  induction objects with
  | nil => rfl
  | cons object rest ih =>
    have others := ih fun other member => declared other (List.mem_cons_of_mem _ member)
    have isName := (declared object List.mem_cons_self).name
    obtain ⟨label, entry⟩ := object
    simp only [named, textsOf, List.map_cons, List.filterMap_cons] at others ⊢
    cases label with
    | text content => simpa [Data.isText, isName content rfl] using others
    | _ => simpa [Data.isText] using others

theorem nameless_eq_nil {objects : List (Data × Entry κ)}
    (texts : ∀ object ∈ objects, object.1.isText = true) : nameless objects = [] := by
  rw [nameless, List.filterMap_eq_nil_iff]
  rintro ⟨object, position⟩ member
  simp [texts object (List.fst_mem_of_mem_zipIdx member)]

theorem NamespaceDeclaration.isSome_settingObject
    {declaration : NamespaceDeclaration (Callback κ)}
    {setting : SettingDeclaration (Callback κ)} {object : Data × Entry κ}
    (made : declaration.settingObject setting = .ok object) : object.2.setting?.isSome := by
  unfold settingObject at made
  split at made
  · cases made
    rfl
  · cases made

theorem NamespaceDeclaration.objects_sorted {declaration : NamespaceDeclaration (Callback κ)}
    {objects : List (Data × Entry κ)} (success : declaration.objects = .ok objects) :
    objects.Pairwise fun earlier later => later.2.setting?.isSome → earlier.2.setting?.isSome := by
  simp only [NamespaceDeclaration.objects, except_bind_ok, pure, Except.pure,
    Except.ok.injEq] at success
  obtain ⟨_, -, settings, areSettings, rfl⟩ := success
  have areSettings : ∀ object ∈ settings, object.2.setting?.isSome := by
    intro object member
    obtain ⟨setting, _, made⟩ := exists_of_mem_right (mapM_ok areSettings) member
    exact isSome_settingObject made
  have areCommands : ∀ object ∈ declaration.commands.map commandObject,
      object.2.setting?.isSome = false := by
    intro object member
    obtain ⟨command, _, rfl⟩ := List.mem_map.mp member
    rfl
  refine List.pairwise_append.mpr ⟨?_, ?_, ?_⟩
  · exact List.pairwise_of_forall_mem_list fun earlier isEarlier _ _ _ =>
      areSettings earlier isEarlier
  · refine List.pairwise_of_forall_mem_list fun _ _ later isLater isSetting => ?_
    rw [areCommands later isLater] at isSetting
    cases isSetting
  · exact fun earlier isEarlier _ _ _ => areSettings earlier isEarlier

/-- Declared entries have names, each met once, and hold the values that they were declared with. -/
theorem NamespaceDeclaration.named_ok {declaration : NamespaceDeclaration (Callback κ)}
    {objects : List (Data × Entry κ)} (success : declaration.objects = .ok objects) :
    (∀ entry ∈ named objects, IsName entry.name) ∧ ((named objects).map Entry.name).Nodup ∧
      (∀ setting, Entry.setting setting ∈ named objects →
        setting.default.kind = setting.kind ∧ setting.current.kind = setting.kind) ∧
      (named objects).map Entry.pristine = named objects := by
  obtain ⟨namesChecked, labels, areDeclared⟩ := objects_ok success
  obtain ⟨areNames, distinct⟩ := checkNames_ok namesChecked
  refine ⟨?_, ?_, ?_, ?_⟩
  · intro entry member
    obtain ⟨content, isObject⟩ := mem_named.mp member
    rw [(areDeclared _ isObject).name content rfl]
    exact areNames content (labels ▸ List.mem_map_of_mem isObject)
  · rw [names_named areDeclared, labels]
    exact distinct
  · intro setting member
    obtain ⟨content, isObject⟩ := mem_named.mp member
    exact (areDeclared _ isObject).kinds setting rfl
  · conv_rhs => rw [← List.map_id (named objects)]
    apply List.map_congr_left
    intro entry member
    obtain ⟨content, isObject⟩ := mem_named.mp member
    exact (areDeclared _ isObject).pristine

theorem nameText_ok {label : Data} {name : String} (success : nameText label = .ok name) :
    label = .text name := by
  cases label with
  | text content =>
    simp only [nameText, Except.ok.injEq] at success
    rw [success]
  | _ => simp [nameText] at success

/-- A namespace as its declaration makes it, under a serial number. -/
structure Namespace.IsMadeBy (space : Namespace κ)
    (declaration : NamespaceDeclaration (Callback κ)) : Prop where
  name : declaration.name = .text space.name
  entries : ∃ objects, declaration.objects = .ok objects ∧
    space.entries.map Entry.pristine = named objects

namespace Registry

variable {registry : Registry κ} {config : Config} {space : Namespace κ}
  {declaration : NamespaceDeclaration (Callback κ)}

theorem not_mem_of_not_isTaken {name : String} (free : ¬registry.isTaken (.text name)) :
    name ∉ registry.table.map Namespace.name := by
  intro taken
  obtain ⟨other, member, same⟩ := List.mem_map.mp taken
  apply free
  simp only [isTaken, Registry.find?, List.find?_isSome]
  exact ⟨other, member, by simpa using same⟩

/-- A namespace that is declared without a fault is sound, detached, with nothing in its queue, and
no namespace in the table has its name. -/
theorem declared_ok (success : registry.declared config declaration = .ok space) :
    space.Sound ∧ space.IsMadeBy declaration ∧ space.shape = space ∧ space.isRegistered ∧
      space.serial = registry.spaces.length ∧ space.limit = config.maxPending ∧
      config.maxNamespaces.isReached registry.table.length = false ∧
      space.name ∉ registry.table.map Namespace.name := by
  simp only [declared, except_bind_ok] at success
  obtain ⟨_, checked, rest⟩ := success
  split at rest
  · cases rest
  · rename_i free
    split at rest
    · cases rest
    · rename_i fits
      simp only [except_bind_ok, pure, Except.pure, Except.ok.injEq] at rest
      obtain ⟨objects, areObjects, name, isName, rfl⟩ := rest
      have isText : declaration.name = .text name := nameText_ok isName
      obtain ⟨areNames, distinct, kinds, pristine⟩ := NamespaceDeclaration.named_ok areObjects
      rw [isText] at checked free
      refine ⟨⟨checkName_text checked, areNames, distinct, kinds⟩,
        ⟨isText, objects, areObjects, pristine⟩, ?_, rfl, rfl, rfl, by simpa using fits,
        not_mem_of_not_isTaken free⟩
      simp only [Namespace.shape, pristine]

theorem objects_of_declared
    (success : registry.declared config declaration = .ok space) :
    ∃ objects, declaration.objects = .ok objects ∧ space.entries = named objects ∧
      space.nameless = nameless objects := by
  simp only [declared, except_bind_ok] at success
  obtain ⟨_, checked, rest⟩ := success
  split at rest
  · cases rest
  · split at rest
    · cases rest
    · simp only [except_bind_ok, pure, Except.pure, Except.ok.injEq] at rest
      obtain ⟨objects, areObjects, name, isName, rfl⟩ := rest
      exact ⟨objects, areObjects, rfl, rfl⟩

theorem sorted_of_declared (success : registry.declared config declaration = .ok space) :
    space.IsSorted := by
  obtain ⟨objects, areObjects, entries, -⟩ := objects_of_declared success
  rw [Namespace.IsSorted, entries, named, List.pairwise_filterMap]
  refine (NamespaceDeclaration.objects_sorted areObjects).imp ?_
  rintro earlier later isBefore _ isEarlier _ isLater
  obtain ⟨-, rfl⟩ := Option.ite_none_right_eq_some.mp isEarlier |>.imp id Option.some.inj
  obtain ⟨-, rfl⟩ := Option.ite_none_right_eq_some.mp isLater |>.imp id Option.some.inj
  exact isBefore

/-- A namespace whose objects are declared with texts for names has no others. -/
theorem nameless_of_declared (success : registry.declared config declaration = .ok space)
    (texts : declaration.names.all Data.isText) : space.nameless = [] := by
  obtain ⟨objects, areObjects, -, others⟩ := objects_of_declared success
  rw [others]
  apply nameless_eq_nil
  intro object member
  refine List.all_eq_true.mp texts _ ?_
  rw [← (NamespaceDeclaration.objects_ok areObjects).2.1]
  exact List.mem_map_of_mem member

/-- Adding a namespace that a declaration makes keeps a registry sound. -/
theorem Sound.add (sound : registry.Sound)
    (success : registry.declared config declaration = .ok space) :
    (registry.add space).Sound := by
  obtain ⟨isSound, -, -, isRegistered, isNext, -, -, isNew⟩ := declared_ok success
  have same : { space with serial := registry.spaces.length } = space := by rw [← isNext]
  constructor
  · intro other member
    simp only [Registry.add, same, List.mem_append, List.mem_singleton] at member
    rcases member with member | rfl
    · exact sound.spaces other member
    · exact isSound
  · simp only [table, Registry.add, same, List.filter_append, List.map_append]
    simp only [List.filter_cons, isRegistered, if_true, List.filter_nil, List.map_cons,
      List.map_nil]
    exact List.nodup_append.mpr ⟨sound.distinct, by simp, by
      rintro name member _ isName rfl
      rw [List.mem_singleton] at isName
      exact isNew (isName ▸ member)⟩

end Registry

end CommandConsole
