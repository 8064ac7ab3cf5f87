import CommandConsole.Proofs.Registry.Objects
import CommandConsole.Proofs.Run.Table

set_option autoImplicit false

namespace CommandConsole

open CommandConsole.Action

variable {κ : Type}

section Lists

variable {ε α β : Type} {items : List α}

/-- Items that do not all pass have a first one that does not. -/
theorem exists_first {passes : α → Prop} (some : ¬∀ item ∈ items, passes item) :
    ∃ front item back, items = front ++ item :: back ∧ (∀ earlier ∈ front, passes earlier) ∧
      ¬passes item := by
  induction items with
  | nil => exact absurd (by simp) some
  | cons item rest ih =>
    by_cases isPassed : passes item
    · obtain ⟨front, other, back, rfl, earlier, isFirst⟩ :=
        ih fun all => some (List.forall_mem_cons.mpr ⟨isPassed, all⟩)
      exact ⟨item :: front, other, back, rfl, List.forall_mem_cons.mpr ⟨isPassed, earlier⟩, isFirst⟩
    · exact ⟨[], item, rest, rfl, by simp, isPassed⟩

theorem forM_of_ok {check : α → Except ε Unit} (all : ∀ item ∈ items, check item = .ok ()) :
    items.forM check = .ok () := by
  induction items with
  | nil => rfl
  | cons item rest ih =>
    obtain ⟨isFirst, others⟩ := List.forall_mem_cons.mp all
    rw [List.forM_eq_forM, List.forM_cons, isFirst]
    exact ih others

/-- Checks end with the fault of the first item that fails. -/
theorem forM_of_error {check : α → Except ε Unit} {front back : List α} {item : α} {fault : ε}
    (earlier : ∀ item ∈ front, check item = .ok ()) (failed : check item = .error fault) :
    (front ++ item :: back).forM check = .error fault := by
  induction front with
  | nil =>
    rw [List.nil_append, List.forM_eq_forM, List.forM_cons, failed]
    rfl
  | cons first front ih =>
    obtain ⟨isFirst, others⟩ := List.forall_mem_cons.mp earlier
    rw [List.cons_append, List.forM_eq_forM, List.forM_cons, isFirst]
    exact ih others

theorem mapM_of_forall₂ {read : α → Except ε β} {results : List β}
    (pairs : List.Forall₂ (fun item result => read item = .ok result) items results) :
    items.mapM read = .ok results := by
  induction pairs with
  | nil => rfl
  | cons isFirst _ ih =>
    rw [List.mapM_cons, isFirst, ih]
    rfl

theorem mapM_of_error {read : α → Except ε β} {front back : List α} {item : α} {fault : ε}
    (earlier : ∀ item ∈ front, ∃ result, read item = .ok result)
    (failed : read item = .error fault) :
    (front ++ item :: back).mapM read = .error fault := by
  induction front with
  | nil =>
    rw [List.nil_append, List.mapM_cons, failed]
    rfl
  | cons first front ih =>
    obtain ⟨⟨result, isFirst⟩, others⟩ := List.forall_mem_cons.mp earlier
    rw [List.cons_append, List.mapM_cons, isFirst, ih others]
    rfl

theorem exists_forall₂ {related : α → β → Prop} (all : ∀ item ∈ items, ∃ result,
    related item result) : ∃ results, List.Forall₂ related items results := by
  induction items with
  | nil => exact ⟨[], .nil⟩
  | cons item rest ih =>
    obtain ⟨⟨result, isFirst⟩, others⟩ := List.forall_mem_cons.mp all
    obtain ⟨results, areOthers⟩ := ih others
    exact ⟨result :: results, .cons isFirst areOthers⟩

end Lists

section Duplicates

theorem nodup_eraseDups (names : List String) : names.eraseDups.Nodup := by
  induction bound : names.length using Nat.strong_induction_on generalizing names with
  | _ bound ih =>
    cases names with
    | nil => exact List.nodup_nil
    | cons name rest =>
      rw [List.eraseDups_cons, List.nodup_cons]
      refine ⟨by simp [List.mem_eraseDups], ih _ ?_ _ rfl⟩
      rw [← bound, List.length_cons]
      exact Nat.lt_succ_of_le (List.length_filter_le _ rest)

theorem mem_duplicates {names : List String} {name : String} :
    name ∈ duplicates names ↔ 1 < names.count name := by
  simp only [duplicates, List.mem_mergeSort, List.mem_eraseDups, List.mem_filter,
    decide_eq_true_eq]
  exact ⟨fun both => both.2, fun several => ⟨List.count_pos_iff.mp (by omega), several⟩⟩

/-- The names that occur more than once are in order, each of them once. -/
theorem sorted_duplicates (names : List String) : (duplicates names).Pairwise (· < ·) := by
  have inOrder (left right : String) : (!decide (right < left)) = true ↔ left ≤ right := by
    rw [Bool.not_eq_true', decide_eq_false_iff_not, String.not_lt]
  have sorted : (duplicates names).Pairwise fun left right => (!decide (right < left)) = true := by
    apply List.pairwise_mergeSort
    · intro first second third
      rw [inOrder, inOrder, inOrder]
      exact String.le_trans
    · intro first second
      rw [Bool.or_eq_true, inOrder, inOrder]
      exact String.le_total first second
  have distinct : (duplicates names).Nodup :=
    (List.mergeSort_perm _ _).nodup_iff.mpr (nodup_eraseDups _)
  apply (sorted.and distinct).imp
  intro left right both
  have notAfter : left ≤ right := (inOrder left right).mp both.1
  by_cases before : left < right
  · exact before
  · exact absurd (String.le_antisymm notAfter (String.not_lt.mp before)) both.2

/-- There is one list in order of the names that occur more than once. -/
theorem duplicates_unique {names several : List String} (sorted : several.Pairwise (· < ·))
    (occurs : ∀ name, name ∈ several ↔ 1 < names.count name) : duplicates names = several := by
  have distinct {list : List String} (sorted : list.Pairwise (· < ·)) : list.Nodup :=
    sorted.imp fun {left right} before => String.ne_of_lt before
  have alike : (duplicates names).Perm several := by
    rw [List.perm_ext_iff_of_nodup (distinct (sorted_duplicates names)) (distinct sorted)]
    exact fun name => mem_duplicates.trans (occurs name).symm
  exact alike.eq_of_pairwise (fun _ _ _ _ before after => absurd after (String.lt_asymm before))
    (sorted_duplicates names) sorted

theorem duplicates_eq_nil {names : List String} : duplicates names = [] ↔ names.Nodup := by
  rw [List.eq_nil_iff_forall_not_mem, List.nodup_iff_count_le_one]
  simp only [mem_duplicates, Nat.not_lt]

theorem textsOf_map (labels : List String) : textsOf (labels.map Data.text) = labels := by
  simp [textsOf, List.filterMap_map]

theorem repeatsOther_map (labels : List String) : repeatsOther (labels.map Data.text) = false := by
  simp [repeatsOther, Data.isKey]

end Duplicates

section Default

/-- The value that a payload is for a setting of a kind: null is the zero of the kind, and data and
values must be of the kind. -/
inductive Payload.Gives (kind : Kind) : Payload → Value → Prop
  | zero : Gives kind (.plain .null) kind.zero
  | data (value : Value) (ofKind : value.kind = kind) : Gives kind (.plain value.data) value
  | value (value : Value) (ofKind : value.kind = kind) : Gives kind (.value value) value

/-- Why the default of a declared setting is refused: it is of a type that no value has, or it is a
value of another kind. -/
inductive SettingDeclaration.IsBad (declared : SettingDeclaration κ) : DefaultFault → Prop
  | unsupported (data : Data) (isDefault : declared.default = .plain data) (present : data ≠ .null)
      (other : ∀ value : Value, data ≠ value.data) :
      IsBad declared (.notValue (.unsupported data.typeName))
  | otherKind (value : Value)
      (isDefault : declared.default = .plain value.data ∨ declared.default = .value value)
      (differs : value.kind ≠ declared.kind) :
      IsBad declared (.otherKind declared.name value.kind declared.kind)

theorem valueOr_data (value : Value) (kind : Kind) :
    (Payload.plain value.data).valueOr kind = .ok value := by
  cases value <;> rfl

/-- Data that are neither null nor of a value's type are no value. -/
theorem valueOr_unsupported {data : Data} (present : data ≠ .null)
    (other : ∀ value : Value, data ≠ value.data) (kind : Kind) :
    (Payload.plain data).valueOr kind = .error (.unsupported data.typeName) := by
  cases data with
  | null => exact absurd rfl present
  | boolean truth => exact absurd rfl (other (.boolean truth))
  | integer number => exact absurd rfl (other (.integer number))
  | text content => exact absurd rfl (other (.text content))
  | _ => rfl

variable {declared : SettingDeclaration κ}

theorem SettingDeclaration.defaultValue_of_gives {value : Value}
    (gives : declared.default.Gives declared.kind value) : declared.defaultValue = .ok value := by
  rw [defaultValue]
  generalize declared.default = payload at gives
  cases gives with
  | zero => simp only [Payload.valueOr, Value.kind_zero, if_true]
  | data _ ofKind => simp only [valueOr_data, ofKind, if_true]
  | value _ ofKind => simp only [Payload.valueOr, ofKind, if_true]

theorem SettingDeclaration.defaultValue_of_bad {cause : DefaultFault} (bad : declared.IsBad cause) :
    declared.defaultValue = .error cause := by
  rw [defaultValue]
  cases bad with
  | unsupported data isDefault present other =>
    simp only [isDefault, valueOr_unsupported present other]
  | otherKind value isDefault differs =>
    rcases isDefault with isDefault | isDefault
    · simp only [isDefault, valueOr_data, differs, if_false]
    · simp only [isDefault, Payload.valueOr, differs, if_false]

theorem SettingDeclaration.gives_or_bad (declared : SettingDeclaration κ) :
    (∃ value, declared.default.Gives declared.kind value) ∨ ∃ cause, declared.IsBad cause := by
  have decided (value : Value)
      (isDefault : declared.default = .plain value.data ∨ declared.default = .value value) :
      (∃ value, declared.default.Gives declared.kind value) ∨ ∃ cause, declared.IsBad cause := by
    by_cases ofKind : value.kind = declared.kind
    · rcases isDefault with isDefault | isDefault
      · exact .inl ⟨value, isDefault ▸ .data value ofKind⟩
      · exact .inl ⟨value, isDefault ▸ .value value ofKind⟩
    · exact .inr ⟨_, .otherKind value isDefault ofKind⟩
  cases isDefault : declared.default with
  | value value => exact isDefault ▸ decided value (.inr isDefault)
  | plain data =>
    by_cases absent : data = .null
    · subst absent
      exact .inl ⟨_, .zero⟩
    · by_cases typed : ∃ value : Value, data = value.data
      · obtain ⟨value, rfl⟩ := typed
        exact isDefault ▸ decided value (.inl isDefault)
      · refine .inr ⟨_, .unsupported data isDefault absent fun value same => ?_⟩
        exact typed ⟨value, same⟩

end Default

section Admission

/-- A declaration whose names are texts: its own and those of its objects, settings first. -/
structure NamespaceDeclaration.IsNamed (declaration : NamespaceDeclaration (Callback κ))
    (name : String) (labels : List String) : Prop where
  name : declaration.name = .text name
  labels : declaration.names = labels.map Data.text

/-- A console that takes another namespace: the name is one, it is free, and there is room. -/
structure Console.Takes (console : Console κ) (name : String) : Prop where
  isName : IsName name
  isFree : ∀ space ∈ console.registry.table, space.name ≠ name
  hasRoom : console.config.maxNamespaces.isReached console.registry.table.length = false

/-- A console that admits a declaration: it takes the namespace, the labels of the objects are names
that differ, and the default of every setting gives a value. -/
structure Console.Admits (console : Console κ) (declaration : NamespaceDeclaration (Callback κ))
    (name : String) (labels : List String) : Prop where
  takes : console.Takes name
  areNames : ∀ label ∈ labels, IsName label
  distinct : labels.Nodup
  defaults : ∀ declared ∈ declaration.settings, ∃ value,
    declared.default.Gives declared.kind value

/-- Why a console refuses a declaration, in the order of the checks: each cause says that the checks
before it are passed. -/
inductive Console.Refuses (console : Console κ) (declaration : NamespaceDeclaration (Callback κ))
    (name : String) (labels : List String) : ConsoleError → Prop
  | badName (bad : ¬IsName name) : Refuses console declaration name labels
      (.badNamespaceName (.text name))
  | taken (isName : IsName name) (taken : ∃ space ∈ console.registry.table, space.name = name) :
      Refuses console declaration name labels (.namespaceExists name)
  | full (isName : IsName name) (isFree : ∀ space ∈ console.registry.table, space.name ≠ name)
      (isFull : console.config.maxNamespaces.isReached console.registry.table.length = true) :
      Refuses console declaration name labels (.tableFull name console.config.maxNamespaces)
  | badLabel (takes : console.Takes name) (front back : List String) (label : String)
      (parts : labels = front ++ label :: back) (earlier : ∀ label ∈ front, IsName label)
      (bad : ¬IsName label) :
      Refuses console declaration name labels (.badObjectName name (.text label))
  | repeated (takes : console.Takes name) (areNames : ∀ label ∈ labels, IsName label)
      (several : List String) (some : several ≠ []) (sorted : several.Pairwise (· < ·))
      (occurs : ∀ label, label ∈ several ↔ 1 < labels.count label) :
      Refuses console declaration name labels (.duplicateNames name several)
  | badDefault (takes : console.Takes name) (areNames : ∀ label ∈ labels, IsName label)
      (distinct : labels.Nodup) (front back : List (SettingDeclaration (Callback κ)))
      (declared : SettingDeclaration (Callback κ)) (cause : DefaultFault)
      (parts : declaration.settings = front ++ declared :: back)
      (earlier : ∀ declared ∈ front, ∃ value, declared.default.Gives declared.kind value)
      (bad : declared.IsBad cause) :
      Refuses console declaration name labels (.badDefault name cause)

structure Setting.IsFresh (declared : SettingDeclaration (Callback κ)) (setting : Setting κ) :
    Prop where
  name : declared.name = .text setting.name
  kind : setting.kind = declared.kind
  default : declared.default.Gives declared.kind setting.default
  current : setting.current = setting.default
  onChange : setting.onChange = declared.onChange
  description : setting.description = describedAs declared.description

structure Command.IsFresh (declared : CommandDeclaration (Callback κ)) (command : Command κ) :
    Prop where
  name : declared.name = .text command.name
  action : command.action = declared.action
  description : command.description = describedAs declared.description

/-- A detached namespace with an empty queue that holds one object for each declared one, settings
before commands. -/
structure Namespace.IsFresh (declaration : NamespaceDeclaration (Callback κ)) (limit : Limit)
    (space : Namespace κ) : Prop where
  name : declaration.name = .text space.name
  objects : ∃ settings commands, space.entries = settings.map .setting ++ commands.map .command ∧
    List.Forall₂ Setting.IsFresh declaration.settings settings ∧
    List.Forall₂ Command.IsFresh declaration.commands commands
  nameless : space.nameless = []
  limit : space.limit = limit
  handler : space.handler = none
  pending : space.pending = []
  isRegistered : space.isRegistered = true

/-- A console with one more namespace and nothing else changed. -/
structure Console.Grows (before : Console κ) (declaration : NamespaceDeclaration (Callback κ))
    (space : Namespace κ) (after : Console κ) : Prop where
  spaces : after.registry.spaces = before.registry.spaces ++ [space]
  table : after.registry.table = before.registry.table ++ [space]
  serial : space.serial = before.registry.spaces.length
  config : after.config = before.config
  storage : after.storage = before.storage
  trace : after.trace = .created space.serial declaration :: before.trace

end Admission

section Checks

theorem checkName_of_isName {content : String} (isName : IsName content) (refused : Fault) :
    checkName refused (.text content) = .ok () := by
  obtain ⟨present, dotless⟩ := isName
  simp [checkName, Data.isPresent, hasDot?, Data.unmarked, present, dotless]

theorem checkName_of_not_isName {content : String} (bad : ¬IsName content) (refused : Fault) :
    checkName refused (.text content) = .error refused := by
  by_cases absent : content = ""
  · simp [checkName, Data.isPresent, absent]
  · have dot : '.' ∈ content.toList := by
      by_contra dotless
      exact bad ⟨absent, dotless⟩
    simp [checkName, Data.isPresent, hasDot?, Data.unmarked, absent, dot]

theorem isTaken_text {registry : Registry κ} {name : String} :
    registry.isTaken (.text name) = true ↔ ∃ space ∈ registry.table, space.name = name := by
  simp [Registry.isTaken, Registry.find?]

namespace NamespaceDeclaration

variable {declaration : NamespaceDeclaration (Callback κ)} {name : String} {labels : List String}

theorem IsNamed.refusing (named : declaration.IsNamed name labels) (cause : ConsoleError) :
    declaration.refusing cause = .console cause := by
  rw [NamespaceDeclaration.refusing, named.name]
  rfl

theorem IsNamed.plain (named : declaration.IsNamed name labels) : declaration.name.plain = name :=
  named.name ▸ rfl

def labelChecks (name : String) (labels : List String) : Except Fault Unit :=
  (labels.map Data.text).forM fun label =>
    checkName (.showing label (.console (.badObjectName name label))) label

theorem labelChecks_ok (name : String) (areNames : ∀ label ∈ labels, IsName label) :
    labelChecks name labels = .ok () := by
  refine forM_of_ok fun datum member => ?_
  obtain ⟨label, isLabel, rfl⟩ := List.mem_map.mp member
  exact checkName_of_isName (areNames label isLabel) _

theorem labelChecks_error (name : String) {front back : List String} {label : String}
    (earlier : ∀ label ∈ front, IsName label) (bad : ¬IsName label) :
    labelChecks name (front ++ label :: back) =
      .error (.console (.badObjectName name (.text label))) := by
  rw [labelChecks, List.map_append, List.map_cons]
  refine forM_of_error (fun datum member => ?_) ?_
  · obtain ⟨other, isOther, rfl⟩ := List.mem_map.mp member
    exact checkName_of_isName (earlier other isOther) _
  · rw [checkName_of_not_isName bad]
    rfl

/-- The labels are checked one by one, and then for names that are met twice. -/
theorem IsNamed.checkNames (named : declaration.IsNamed name labels) :
    declaration.checkNames = (do
      labelChecks name labels
      if duplicates labels = [] then .ok ()
      else .error (.console (.duplicateNames name (duplicates labels)))) := by
  simp only [NamespaceDeclaration.checkNames, labelChecks, named.labels, named.refusing,
    named.plain, textsOf_map, repeatsOther_map]
  cases duplicates labels <;> rfl

theorem IsNamed.objects (named : declaration.IsNamed name labels)
    (areNames : ∀ label ∈ labels, IsName label) (distinct : labels.Nodup) :
    declaration.objects = (declaration.settings.mapM declaration.settingObject).map
      (· ++ declaration.commands.map commandObject) := by
  have checked : declaration.checkNames = .ok () := by
    rw [named.checkNames, labelChecks_ok name areNames, duplicates_eq_nil.mpr distinct]
    rfl
  rw [NamespaceDeclaration.objects, checked]
  cases declaration.settings.mapM declaration.settingObject <;> rfl

theorem objects_of_unchecked {fault : Fault} (failed : declaration.checkNames = .error fault) :
    declaration.objects = .error fault := by
  rw [NamespaceDeclaration.objects, failed]
  rfl

theorem settingObject_of_gives {declared : SettingDeclaration (Callback κ)} {value : Value}
    (gives : declared.default.Gives declared.kind value) :
    declaration.settingObject declared =
      .ok (declared.name, .setting (.ofDeclaration declared value)) := by
  rw [settingObject, SettingDeclaration.defaultValue_of_gives gives]

theorem IsNamed.settingObject_of_bad (named : declaration.IsNamed name labels)
    {declared : SettingDeclaration (Callback κ)} (isText : declared.name.isText = true)
    {cause : DefaultFault} (bad : declared.IsBad cause) :
    declaration.settingObject declared = .error (.console (.badDefault name cause)) := by
  rw [settingObject, SettingDeclaration.defaultValue_of_bad bad]
  have shown (fault : Fault) : Fault.showing declared.name fault = fault := by
    cases label : declared.name with
    | text content => rfl
    | _ => simp [label, Data.isText] at isText
  simp only [named.refusing, named.plain, shown, ite_self]

/-- A declared setting whose default gives a value becomes a fresh setting. -/
theorem exists_fresh_setting (declaration : NamespaceDeclaration (Callback κ))
    {declared : SettingDeclaration (Callback κ)}
    (isText : declared.name.isText = true)
    (gives : ∃ value, declared.default.Gives declared.kind value) :
    ∃ setting : Setting κ, setting.IsFresh declared ∧
      declaration.settingObject declared = .ok (Entry.setting setting).object := by
  obtain ⟨value, gives⟩ := gives
  cases label : declared.name with
  | text content =>
    refine ⟨.ofDeclaration declared value, ⟨?_, rfl, gives, rfl, rfl, rfl⟩, ?_⟩
    · simp only [Setting.ofDeclaration, label, Data.plain]
    · rw [settingObject_of_gives gives]
      simp only [Entry.object, Entry.name, Setting.ofDeclaration, label, Data.plain]
  | _ => simp [label, Data.isText] at isText

theorem fresh_command {declared : CommandDeclaration (Callback κ)}
    (isText : declared.name.isText = true) :
    (Command.ofDeclaration declared).IsFresh declared ∧
      commandObject declared = (Entry.command (.ofDeclaration declared)).object := by
  cases label : declared.name with
  | text content =>
    refine ⟨⟨?_, rfl, rfl⟩, ?_⟩
    · simp only [Command.ofDeclaration, label, Data.plain]
    · simp only [commandObject, Entry.object, Entry.name, Command.ofDeclaration, label, Data.plain]
  | _ => simp [label, Data.isText] at isText

theorem IsNamed.isText (named : declaration.IsNamed name labels) {datum : Data}
    (member : datum ∈ declaration.names) : datum.isText = true := by
  rw [named.labels] at member
  obtain ⟨label, -, rfl⟩ := List.mem_map.mp member
  rfl

theorem IsNamed.isText_setting (named : declaration.IsNamed name labels)
    {declared : SettingDeclaration (Callback κ)} (member : declared ∈ declaration.settings) :
    declared.name.isText = true :=
  named.isText (List.mem_append_left _ (List.mem_map_of_mem member))

theorem IsNamed.isText_command (named : declaration.IsNamed name labels)
    {declared : CommandDeclaration (Callback κ)} (member : declared ∈ declaration.commands) :
    declared.name.isText = true :=
  named.isText (List.mem_append_right _ (List.mem_map_of_mem member))

/-- The objects of a declaration without faults are fresh settings and then fresh commands. -/
theorem IsNamed.exists_objects (named : declaration.IsNamed name labels)
    (areNames : ∀ label ∈ labels, IsName label) (distinct : labels.Nodup)
    (defaults : ∀ declared ∈ declaration.settings, ∃ value,
      declared.default.Gives declared.kind value) :
    ∃ settings commands, List.Forall₂ Setting.IsFresh declaration.settings settings ∧
      List.Forall₂ Command.IsFresh declaration.commands commands ∧
      declaration.objects = .ok ((settings.map Entry.setting ++ commands.map Entry.command).map
        Entry.object) := by
  obtain ⟨settings, fresh⟩ := exists_forall₂ fun declared member =>
    exists_fresh_setting declaration (named.isText_setting member)
      (defaults declared member)
  have made : declaration.settings.mapM declaration.settingObject =
      .ok (settings.map fun setting => (Entry.setting setting).object) :=
    mapM_of_forall₂ (List.forall₂_map_right_iff.mpr (fresh.imp fun _ _ both => both.2))
  refine ⟨settings, declaration.commands.map .ofDeclaration, fresh.imp fun _ _ both => both.1, ?_,
    ?_⟩
  · rw [List.forall₂_map_right_iff, List.forall₂_same]
    exact fun declared member => (fresh_command (named.isText_command member)).1
  · have commands : declaration.commands.map commandObject =
        declaration.commands.map fun declared =>
          (Entry.command (.ofDeclaration declared)).object :=
      List.map_congr_left fun declared member =>
        (fresh_command (named.isText_command member)).2
    rw [named.objects areNames distinct, made, commands]
    simp only [Except.map, List.map_append, List.map_map, Function.comp_def]

end NamespaceDeclaration

theorem named_object (entries : List (Entry κ)) : named (entries.map Entry.object) = entries := by
  simp [named, List.filterMap_map, Function.comp_def, Entry.object, Data.isText]

theorem nameless_object (entries : List (Entry κ)) : nameless (entries.map Entry.object) = [] := by
  refine nameless_eq_nil fun object member => ?_
  obtain ⟨entry, -, rfl⟩ := List.mem_map.mp member
  rfl

end Checks

section Declared

/-- A namespace is created if it can be declared; otherwise the console stays as it is. -/
theorem create_eq (declaration : NamespaceDeclaration (Callback κ)) (console : Console κ) :
    create declaration console =
      match console.registry.declared console.config declaration with
      | .ok space => .ok space.serial (console.creating declaration space)
      | .error fault => .error fault console := by
  have opened : create declaration console =
      (do
        let space ← lift (console.registry.declared console.config declaration)
        set { console with registry := console.registry.add space }
        record (.created space.serial declaration)
        return space.serial : Action κ Nat) console := rfl
  rw [opened]
  cases console.registry.declared console.config declaration <;> rfl

variable {declaration : NamespaceDeclaration (Callback κ)} {name : String} {labels : List String}
  {console : Console κ}

theorem Console.Takes.not_isTaken (takes : console.Takes name) :
    console.registry.isTaken (.text name) = false := by
  rw [Bool.eq_false_iff, ne_eq, isTaken_text]
  rintro ⟨space, present, same⟩
  exact takes.isFree space present same

/-- A console that takes a namespace looks at its objects. -/
theorem Console.Takes.declared (takes : console.Takes name)
    (named : declaration.IsNamed name labels) :
    console.registry.declared console.config declaration = declaration.objects.map fun objects =>
      ⟨console.registry.spaces.length, name, CommandConsole.named objects, nameless objects,
        console.config.maxPending, none, [], true⟩ := by
  simp only [Registry.declared, named.name, checkName_of_isName takes.isName, takes.not_isTaken,
    takes.hasRoom, Bool.false_eq_true, if_false, nameText]
  cases declaration.objects <;> rfl

/-- A refused declaration is refused by the first of the checks that it fails. -/
theorem Console.Refuses.declared {cause : ConsoleError}
    (refuses : console.Refuses declaration name labels cause)
    (named : declaration.IsNamed name labels) :
    console.registry.declared console.config declaration = .error (.console cause) := by
  -- One case for each check, in the order in which they are made.
  cases refuses with
  | badName bad =>
    simp only [Registry.declared, named.refusing, named.name, checkName_of_not_isName bad]
    rfl
  | taken isName taken =>
    simp only [Registry.declared, named.refusing, named.plain]
    simp only [named.name, checkName_of_isName isName, isTaken_text.mpr taken, if_true]
    rfl
  | full isName isFree isFull =>
    have free : console.registry.isTaken (.text name) = false := by
      rw [Bool.eq_false_iff, ne_eq, isTaken_text]
      rintro ⟨space, present, same⟩
      exact isFree space present same
    simp only [Registry.declared, named.refusing, named.plain]
    simp only [named.name, checkName_of_isName isName, free, isFull, Bool.false_eq_true, if_false,
      if_true]
    rfl
  | badLabel takes front back label parts earlier bad =>
    have failed : declaration.checkNames =
        .error (.console (.badObjectName name (.text label))) := by
      rw [named.checkNames, parts, NamespaceDeclaration.labelChecks_error name earlier bad]
      rfl
    rw [takes.declared named, NamespaceDeclaration.objects_of_unchecked failed]
    rfl
  | repeated takes areNames several some sorted occurs =>
    have failed : declaration.checkNames = .error (.console (.duplicateNames name several)) := by
      rw [named.checkNames, NamespaceDeclaration.labelChecks_ok name areNames,
        duplicates_unique sorted occurs]
      simp only [some, if_false]
      rfl
    rw [takes.declared named, NamespaceDeclaration.objects_of_unchecked failed]
    rfl
  | badDefault takes areNames distinct front back declared cause parts earlier bad =>
    have member : declared ∈ declaration.settings := by simp [parts]
    have failed : declaration.settings.mapM declaration.settingObject =
        .error (.console (.badDefault name cause)) := by
      rw [parts]
      refine mapM_of_error (fun other isEarlier => ?_)
        (named.settingObject_of_bad (named.isText_setting member) bad)
      obtain ⟨value, gives⟩ := earlier other isEarlier
      exact ⟨_, NamespaceDeclaration.settingObject_of_gives gives⟩
    rw [takes.declared named, named.objects areNames distinct, failed]
    rfl

/-- A declaration that is not admitted fails some first check. -/
theorem Console.exists_refuses (declaration : NamespaceDeclaration (Callback κ))
    (refused : ¬console.Admits declaration name labels) :
    ∃ cause, console.Refuses declaration name labels cause := by
  by_cases isName : IsName name
  case neg => exact ⟨_, .badName isName⟩
  by_cases isFree : ∀ space ∈ console.registry.table, space.name ≠ name
  case neg => exact ⟨_, .taken isName (by simpa using isFree)⟩
  cases isFull : console.config.maxNamespaces.isReached console.registry.table.length with
  | true => exact ⟨_, .full isName isFree isFull⟩
  | false =>
    have takes : console.Takes name := ⟨isName, isFree, isFull⟩
    by_cases areNames : ∀ label ∈ labels, IsName label
    case neg =>
      obtain ⟨front, label, back, parts, earlier, bad⟩ := exists_first areNames
      exact ⟨_, .badLabel takes front back label parts earlier bad⟩
    by_cases distinct : labels.Nodup
    case neg =>
      exact ⟨_, .repeated takes areNames (duplicates labels) (mt duplicates_eq_nil.mp distinct)
        (sorted_duplicates labels) fun _ => mem_duplicates⟩
    have defaults : ¬∀ declared ∈ declaration.settings, ∃ value,
        declared.default.Gives declared.kind value :=
      fun all => refused ⟨takes, areNames, distinct, all⟩
    obtain ⟨front, declared, back, parts, earlier, bad⟩ := exists_first defaults
    obtain ⟨cause, isBad⟩ := declared.gives_or_bad.resolve_left bad
    exact ⟨_, .badDefault takes areNames distinct front back declared cause parts earlier isBad⟩

/-- The table is full for a declaration exactly where its name is valid and free and no place is
left. -/
theorem Console.Refuses.full_iff {cause : ConsoleError}
    (refuses : console.Refuses declaration name labels cause) :
    (∃ shown limit, cause = .tableFull shown limit) ↔
      IsName name ∧ (∀ space ∈ console.registry.table, space.name ≠ name) ∧
        console.config.maxNamespaces.isReached console.registry.table.length = true := by
  have roomy (takes : console.Takes name) :
      console.config.maxNamespaces.isReached console.registry.table.length ≠ true :=
    ne_true_of_eq_false takes.hasRoom
  cases refuses with
  | badName bad => simp [bad]
  | taken isName taken =>
    obtain ⟨space, present, same⟩ := taken
    simpa using fun _ isFree => absurd same (isFree space present)
  | full isName isFree isFull => exact ⟨fun _ => ⟨isName, isFree, isFull⟩, fun _ => ⟨_, _, rfl⟩⟩
  | badLabel takes => simp [roomy takes]
  | repeated takes => simp [roomy takes]
  | badDefault takes => simp [roomy takes]

/-- What is created from an admitted declaration is one fresh namespace at the end of the table. -/
theorem Console.Admits.create (admits : console.Admits declaration name labels)
    (named : declaration.IsNamed name labels) : ∃ space after,
      create declaration console = .ok space.serial after ∧ console.Grows declaration space after ∧
        space.IsFresh declaration console.config.maxPending := by
  obtain ⟨settings, commands, areSettings, areCommands, objects⟩ :=
    named.exists_objects admits.areNames admits.distinct admits.defaults
  have declared := admits.takes.declared named
  rw [objects, Except.map, named_object, nameless_object] at declared
  have created := create_eq declaration console
  rw [declared] at created
  exact ⟨_, _, created, ⟨rfl, Registry.table_add rfl rfl, rfl, rfl, rfl, rfl⟩, named.name,
    ⟨settings, commands, rfl, areSettings, areCommands⟩, rfl, rfl, rfl, rfl, rfl⟩

/-- Creating a namespace is all or nothing. -/
theorem create_all_or_nothing (named : declaration.IsNamed name labels) (console : Console κ) :
    (console.Admits declaration name labels → ∃ space after,
      create declaration console = .ok space.serial after ∧ console.Grows declaration space after ∧
        space.IsFresh declaration console.config.maxPending) ∧
    (¬console.Admits declaration name labels → ∃ cause,
      create declaration console = .error (.console cause) console ∧
        console.Refuses declaration name labels cause ∧
        ((∃ shown limit, cause = .tableFull shown limit) ↔
          IsName name ∧ (∀ space ∈ console.registry.table, space.name ≠ name) ∧
            console.config.maxNamespaces.isReached console.registry.table.length = true)) := by
  refine ⟨fun admits => admits.create named, fun refused => ?_⟩
  obtain ⟨cause, refuses⟩ := console.exists_refuses declaration refused
  refine ⟨cause, ?_, refuses, refuses.full_iff⟩
  rw [create_eq, refuses.declared named]

def settingAndCommand (setting command : String) : NamespaceDeclaration (Callback Unit) :=
  ⟨.text "N", [⟨.text command, none, .null⟩],
    [⟨.text setting, .integer, .plain (.integer 5), none, .null⟩]⟩

theorem named_settingAndCommand (setting command : String) :
    (settingAndCommand setting command).IsNamed "N" [setting, command] :=
  ⟨rfl, rfl⟩

/-- Labels that differ are admitted, and equal ones are refused for being met twice. -/
theorem settingAndCommand_created_or_refused :
    (∃ space after, create (settingAndCommand "v" "c") (Console.empty .standard .empty) =
        .ok space.serial after ∧
      (Console.empty .standard .empty).Grows (settingAndCommand "v" "c") space after ∧
      space.IsFresh (settingAndCommand "v" "c") Config.standard.maxPending) ∧
    ∃ cause, create (settingAndCommand "v" "v") (Console.empty .standard .empty) =
        .error (.console cause) (Console.empty .standard .empty) ∧
      (Console.empty .standard .empty).Refuses (settingAndCommand "v" "v") "N" ["v", "v"]
        cause := by
  constructor
  · refine (create_all_or_nothing (named_settingAndCommand "v" "c")
      (Console.empty .standard .empty)).1 ⟨⟨?_, ?_, ?_⟩, ?_, ?_, ?_⟩
    · simp [IsName]
    · simp [Console.empty, Registry.empty, Registry.table]
    · rfl
    · simp [IsName]
    · decide
    · intro declared member
      rw [List.mem_singleton.mp member]
      exact ⟨.integer 5, .data (.integer 5) rfl⟩
  · have refused : ¬(Console.empty .standard .empty).Admits (settingAndCommand "v" "v") "N"
        ["v", "v"] := fun admits => absurd admits.distinct (by decide)
    obtain ⟨cause, failed, refuses, -⟩ :=
      (create_all_or_nothing (named_settingAndCommand "v" "v")
        (Console.empty .standard .empty)).2 refused
    exact ⟨cause, failed, refuses⟩

end Declared

end CommandConsole
