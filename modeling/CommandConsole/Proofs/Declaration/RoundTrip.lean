import CommandConsole.Proofs.Declaration.Explicit
import CommandConsole.Proofs.Declaration.Shown

set_option autoImplicit false

namespace CommandConsole

open Declaration

variable {κ : Type}

section Expressible

/-- A callback that is absent or that has a name in a table. -/
def CallbackTable.Lists (table : CallbackTable κ) (callback : Option κ) : Prop :=
  ∀ present, callback = some present → ∃ name, (name, present) ∈ table

structure CommandDeclaration.IsExpressible (table : CallbackTable κ)
    (declaration : CommandDeclaration κ) : Prop where
  name : declaration.name.isAtom = true
  action : table.Lists declaration.action
  description : declaration.description.isAtom = true

structure SettingDeclaration.IsExpressible (table : CallbackTable κ)
    (declaration : SettingDeclaration κ) : Prop where
  name : declaration.name.isAtom = true
  default : ∃ value, declaration.defaultValue = .ok value
  onChange : table.Lists declaration.onChange
  description : declaration.description.isAtom = true

/-- A declaration that can be written as data: its names and descriptions are atoms, such as texts,
its callbacks have names in a table and its defaults are defined. -/
structure NamespaceDeclaration.IsExpressible (table : CallbackTable κ)
    (declaration : NamespaceDeclaration κ) : Prop where
  name : declaration.name.isAtom = true
  commands : ∀ command ∈ declaration.commands, command.IsExpressible table
  settings : ∀ setting ∈ declaration.settings, setting.IsExpressible table

variable {table : CallbackTable κ}

theorem CommandDeclaration.IsExpressible.described {declaration : CommandDeclaration κ}
    (expressible : declaration.IsExpressible table) :
    declaration.described.IsExpressible table := by
  refine ⟨expressible.name, expressible.action, ?_⟩
  change (describedAs declaration.description).isAtom = true
  by_cases isPresent : declaration.description.isPresent = true
  · rw [describedAs, if_pos isPresent]
    exact expressible.description
  · rw [describedAs, if_neg isPresent]
    rfl

theorem NamespaceDeclaration.IsExpressible.described {declaration : NamespaceDeclaration κ}
    (expressible : declaration.IsExpressible table) :
    declaration.described.IsExpressible table := by
  refine ⟨expressible.name, fun command member => ?_, expressible.settings⟩
  obtain ⟨original, isOriginal, rfl⟩ := List.mem_map.mp member
  exact (expressible.commands original isOriginal).described

theorem CallbackTable.get?_of_mem (distinct : (table.map (·.1)).Nodup) {name : String}
    {callback : κ} (member : (name, callback) ∈ table) : table.get? name = some callback := by
  induction table with
  | nil => cases member
  | cons entry table ih =>
    rw [List.map_cons, List.nodup_cons] at distinct
    rcases List.mem_cons.mp member with rfl | later
    · simp only [get?, List.find?_cons, BEq.rfl, Option.map_some]
    · have other : (entry.1 == name) = false := by
        rw [beq_eq_false_iff_ne]
        rintro rfl
        exact distinct.1 (List.mem_map.mpr ⟨_, later, rfl⟩)
      have found := ih distinct.2 later
      rw [get?, List.find?_cons, other]
      exact found

end Expressible

section Reads

variable {table : CallbackTable κ}

/-- Data are a tree, and wherever they are shown, a result is read from them and nothing else
happens. -/
structure Reads {α : Type} (read : Datum → Reading α) (data : Data) (result : α) : Prop where
  tree : data.IsTree
  reading : ∀ datum : Datum, datum.shows data = true → read datum = pure result

theorem isTree_record {fields : List (String × Data)} (trees : ∀ field ∈ fields, field.2.IsTree) :
    (Data.record fields).IsTree := by
  apply Data.IsTree.mapping
  · intro pair member
    obtain ⟨field, -, rfl⟩ := List.mem_map.mp member
    exact .atom rfl
  · intro pair member
    obtain ⟨field, isField, rfl⟩ := List.mem_map.mp member
    exact trees field isField

/-- A computation that has a result is read as that result. -/
theorem lift_ok {α : Type} (result : α) :
    (liftM (Except.ok result : Except Fault α) : Reading α) = pure result := rfl

/-- Data that are read one by one are read from everything that shows them. -/
theorem mapM_of_reads {α : Type} {read : Datum → Reading α} {items : List Data} {results : List α}
    {elements : List Datum} (reads : List.Forall₂ (Reads read) items results)
    (shows : List.Forall₂ (fun item element => Datum.shows element item = true) items elements) :
    elements.mapM read = pure results := by
  induction reads generalizing elements with
  | nil =>
    cases shows
    rfl
  | cons first _ ih =>
    cases shows with
    | cons shown others =>
      rw [List.mapM_cons, first.reading _ shown, ih others]
      rfl

theorem isTree_of_reads {α : Type} {read : Datum → Reading α} {items : List Data}
    {results : List α} (reads : List.Forall₂ (Reads read) items results) :
    ∀ item ∈ items, item.IsTree := by
  induction reads with
  | nil => exact List.forall_mem_nil _
  | cons first _ ih => exact List.forall_mem_cons.mpr ⟨first.tree, ih⟩

/-- Data that are read one by one are read as they were written. -/
theorem mapM_ofData {α : Type} {read : Datum → Reading α} {items : List Data} {results : List α}
    (reads : List.Forall₂ (Reads read) items results) :
    (items.map Datum.ofData).mapM read = pure results := by
  apply mapM_of_reads reads
  rw [List.forall₂_map_right_iff, List.forall₂_same]
  exact fun item member => Datum.shows_ofData (isTree_of_reads reads item member)

/-- If each source is written as data that are read, all of them are. -/
theorem exists_reads_all {α β : Type} {write : α → Except DefaultFault Data}
    {read : Datum → Reading β} {normal : α → β} {sources : List α}
    (each : ∀ source ∈ sources, ∃ data, write source = .ok data ∧ Reads read data (normal source)) :
    ∃ items, sources.mapM write = .ok items ∧
      List.Forall₂ (Reads read) items (sources.map normal) := by
  obtain ⟨items, written⟩ := exists_forall₂ each
  refine ⟨items, mapM_of_forall₂ (written.imp fun _ _ both => both.1), ?_⟩
  rw [List.forall₂_map_right_iff]
  exact (written.imp fun _ _ both => both.2).flip

/-- A document from which loading restores what was written is read as what it is written from. -/
theorem ofYaml_of_restores {items : List Data} {results : List (NamespaceDeclaration κ)}
    (reads : List.Forall₂ (Reads (NamespaceDeclaration.ofDatum table)) items results)
    (restores : Yaml.restores (.record [("namespaces", .list items)]) = true) :
    ofYaml table (Yaml.write (.record [("namespaces", .list items)])) = pure results := by
  obtain ⟨datum, loaded, shows⟩ := Yaml.exists_of_restores restores
  have present : datum.isPresent = true := Datum.isPresent_of_shows shows
  obtain ⟨elements, isList, shown⟩ := elementsOf_of_shows "namespaces" shows rfl
  simp only [ofYaml, loaded, present, isList, lift_ok, pure_bind, mapM_of_reads reads shown]
  rfl

end Reads

section Fields

variable {table : CallbackTable κ}

theorem kindOf_name (kind : Kind) : kindOf (.text kind.name) = .ok kind := by
  cases kind <;> rfl

theorem coerce_data (value : Value) : coerce value.kind value.data = .ok value.data := by
  cases value <;> rfl

theorem isAtom_data (value : Value) : value.data.isAtom = true := by
  cases value <;> rfl

theorem CommandDeclaration.ofDatum_of_holds {datum : Datum} {name callback description : Data}
    (holds : datum.Holds [("name", name), ("func", callback), ("description", description)])
    (isAtom : callback.isAtom = true) :
    ∃ seenName seenDescription, need datum "name" = .ok seenName ∧
      Declaration.optional datum "description" = .ok seenDescription ∧
      ofDatum table datum = do
        let action ← table.resolve callback
        return ⟨seenName, action, describedAs seenDescription⟩ := by
  have known : warnUnknown "command" datum fieldNames = pure () :=
    holds.warnUnknown _ fun name member => member
  have action : Declaration.optional datum "func" = .ok callback := holds.optional rfl isAtom
  obtain ⟨seenName, isName⟩ : ∃ seen, need datum "name" = .ok seen := holds.exists_need rfl
  obtain ⟨seenDescription, isDescription⟩ : ∃ seen,
      Declaration.optional datum "description" = .ok seen := holds.exists_optional rfl
  refine ⟨seenName, seenDescription, isName, isDescription, ?_⟩
  simp only [ofDatum, known, isName, action, isDescription, lift_ok, pure_bind]

theorem SettingDeclaration.ofDatum_of_holds {datum : Datum} {name callback description : Data}
    {value : Value}
    (holds : datum.Holds [("name", name), ("type", .text value.kind.name), ("default", value.data),
      ("description", description), ("on_change", callback)])
    (isAtom : callback.isAtom = true) :
    ∃ seenName seenDescription, need datum "name" = .ok seenName ∧
      Declaration.optional datum "description" = .ok seenDescription ∧
      ofDatum table datum = do
        let onChange ← table.resolve callback
        return ⟨seenName, value.kind, .plain value.data, onChange, seenDescription⟩ := by
  have known : warnUnknown "variable" datum fieldNames = pure () :=
    holds.warnUnknown _ fun name member => member
  have sort : need datum "type" = .ok (.text value.kind.name) := holds.need rfl rfl
  have default : Declaration.optional datum "default" = .ok value.data :=
    holds.optional rfl (isAtom_data value)
  have onChange : Declaration.optional datum "on_change" = .ok callback :=
    holds.optional rfl isAtom
  obtain ⟨seenName, isName⟩ : ∃ seen, need datum "name" = .ok seen := holds.exists_need rfl
  obtain ⟨seenDescription, isDescription⟩ : ∃ seen,
      Declaration.optional datum "description" = .ok seen := holds.exists_optional rfl
  refine ⟨seenName, seenDescription, isName, isDescription, ?_⟩
  simp only [ofDatum, known, sort, kindOf_name, default, coerce_data, isName, onChange,
    isDescription, lift_ok, pure_bind]

end Fields

section Data

variable [DecidableEq κ] {table : CallbackTable κ} {ownName : κ → Option String}

/-- A callback in a table, be it under several names, is named by an entry that is its own. -/
theorem CallbackTable.exists_nameOf (ownName : κ → Option String) {callback : κ} {name : String}
    (member : (name, callback) ∈ table) :
    ∃ first, (first, callback) ∈ table ∧ table.nameOf ownName (some callback) = .text first := by
  cases found : table.find? (·.2 == callback) with
  | none =>
    have differs := List.find?_eq_none.mp found (name, callback) member
    exact absurd BEq.rfl differs
  | some entry =>
    have inside := List.mem_of_find?_eq_some found
    have same : entry.2 = callback := by simpa using List.find?_some found
    subst same
    exact ⟨entry.1, inside, by simp only [nameOf, found]⟩

theorem CallbackTable.resolve_nameOf (distinct : (table.map (·.1)).Nodup) {callback : Option κ}
    (listed : table.Lists callback) :
    table.resolve (table.nameOf ownName callback) = .ok callback := by
  cases callback with
  | none => rfl
  | some callback =>
    obtain ⟨name, member⟩ := listed callback rfl
    -- The name that is written may be another one than `name`, but it leads to the same callback.
    obtain ⟨first, inside, named⟩ := exists_nameOf ownName member
    simp only [named, resolve, get?_of_mem distinct inside]

theorem CallbackTable.isAtom_nameOf (callback : Option κ) :
    (table.nameOf ownName callback).isAtom = true := by
  unfold nameOf
  split
  · rfl
  · split
    · rfl
    · split <;> rfl

theorem CommandDeclaration.reads_toData (distinct : (table.map (·.1)).Nodup)
    {declaration : CommandDeclaration κ} (expressible : declaration.IsExpressible table) :
    Reads (ofDatum table) (declaration.toData table ownName) declaration.described := by
  have named : (table.nameOf ownName declaration.action).isAtom = true :=
    CallbackTable.isAtom_nameOf _
  have written : declaration.toData table ownName = .record [("name", declaration.name),
      ("func", table.nameOf ownName declaration.action),
      ("description", declaration.description)] := rfl
  rw [written]
  refine ⟨isTree_record ?_, fun datum shows => ?_⟩
  · simp only [List.mem_cons, List.not_mem_nil, or_false, forall_eq_or_imp, forall_eq]
    exact ⟨.atom expressible.name, .atom named, .atom expressible.description⟩
  · obtain ⟨seenName, seenDescription, isName, isDescription, read⟩ :=
      @ofDatum_of_holds _ table _ _ _ _ (Datum.holds_of_shows shows) named
    have name : need datum "name" = .ok declaration.name :=
      need_of_shows shows rfl expressible.name
    have description : Declaration.optional datum "description" = .ok declaration.description :=
      optional_of_shows shows rfl expressible.description
    rw [name] at isName
    rw [description] at isDescription
    cases isName
    cases isDescription
    rw [read, CallbackTable.resolve_nameOf distinct expressible.action]
    rfl

/-- The data of a declared setting, whose default is a value, are read as the declaration with that
default written out. -/
theorem SettingDeclaration.exists_reads (ownName : κ → Option String)
    (distinct : (table.map (·.1)).Nodup) {declaration : SettingDeclaration κ}
    (expressible : declaration.IsExpressible table) :
    ∃ data, declaration.toData table ownName = .ok data ∧
      Reads (ofDatum table) data declaration.explicit := by
  obtain ⟨value, defined⟩ := expressible.default
  have named : (table.nameOf ownName declaration.onChange).isAtom = true :=
    CallbackTable.isAtom_nameOf _
  have written : declaration.toData table ownName = .ok (.record [("name", declaration.name),
      ("type", .text declaration.kind.name), ("default", value.data),
      ("description", declaration.description),
      ("on_change", table.nameOf ownName declaration.onChange)]) := by
    rw [toData, defined]
    rfl
  refine ⟨_, written, isTree_record ?_, fun datum shows => ?_⟩
  · simp only [List.mem_cons, List.not_mem_nil, or_false, forall_eq_or_imp, forall_eq]
    exact ⟨.atom expressible.name, .atom rfl, .atom (isAtom_data value),
      .atom expressible.description, .atom named⟩
  · rw [← kind_of_defaultValue defined] at shows
    obtain ⟨seenName, seenDescription, isName, isDescription, read⟩ :=
      @ofDatum_of_holds _ table _ _ _ _ _ (Datum.holds_of_shows shows) named
    have name : need datum "name" = .ok declaration.name :=
      need_of_shows shows rfl expressible.name
    have description : Declaration.optional datum "description" = .ok declaration.description :=
      optional_of_shows shows rfl expressible.description
    rw [name] at isName
    rw [description] at isDescription
    cases isName
    cases isDescription
    rw [read, CallbackTable.resolve_nameOf distinct expressible.onChange, explicit, defined,
      kind_of_defaultValue defined]
    rfl

theorem NamespaceDeclaration.exists_reads (ownName : κ → Option String)
    (distinct : (table.map (·.1)).Nodup) {declaration : NamespaceDeclaration κ}
    (expressible : declaration.IsExpressible table) :
    ∃ data, declaration.toData table ownName = .ok data ∧
      Reads (ofDatum table) data declaration.explicit := by
  have commands : List.Forall₂ (Reads (CommandDeclaration.ofDatum table))
      (declaration.commands.map (CommandDeclaration.toData table ownName))
      (declaration.commands.map .described) := by
    rw [List.forall₂_map_left_iff, List.forall₂_map_right_iff, List.forall₂_same]
    exact fun command member => command.reads_toData distinct (expressible.commands command member)
  obtain ⟨items, isWritten, settings⟩ := exists_reads_all fun setting member =>
    SettingDeclaration.exists_reads ownName distinct (expressible.settings setting member)
  have written : declaration.toData table ownName = .ok (.record [("name", declaration.name),
      ("commands", .list (declaration.commands.map (CommandDeclaration.toData table ownName))),
      ("variables", .list items)]) := by
    rw [toData, isWritten]
    rfl
  refine ⟨_, written, isTree_record ?_, fun datum shows => ?_⟩
  · simp only [List.mem_cons, List.not_mem_nil, or_false, forall_eq_or_imp, forall_eq]
    exact ⟨.atom expressible.name, .list (isTree_of_reads commands),
      .list (isTree_of_reads settings)⟩
  · have name : need datum "name" = .ok declaration.name :=
      need_of_shows shows rfl expressible.name
    obtain ⟨first, isFirst, showFirst⟩ := elementsOf_of_shows "commands" shows rfl
    obtain ⟨second, isSecond, showSecond⟩ := elementsOf_of_shows "variables" shows rfl
    simp only [ofDatum, name, isFirst, isSecond, lift_ok, pure_bind,
      mapM_of_reads commands showFirst, mapM_of_reads settings showSecond]
    rfl

theorem SettingDeclaration.toData_explicit (declaration : SettingDeclaration κ) :
    declaration.explicit.toData table ownName = declaration.toData table ownName := by
  rw [toData, defaultValue_explicit, toData]
  unfold explicit
  split <;> rfl

/-- The data of what is written out are those of the declaration with its descriptions. -/
theorem NamespaceDeclaration.toData_explicit (declaration : NamespaceDeclaration κ) :
    declaration.explicit.toData table ownName = declaration.described.toData table ownName := by
  have settings : declaration.explicit.settings.mapM (SettingDeclaration.toData table ownName) =
      declaration.settings.mapM (SettingDeclaration.toData table ownName) := by
    rw [explicit, List.mapM_map]
    exact congrArg (List.mapM · declaration.settings)
      (funext fun setting => setting.toData_explicit)
  rw [toData, settings]
  rfl

/-- Declarations with everything written out are written as the declarations with their
descriptions. -/
theorem exists_written_explicit (ownName : κ → Option String)
    (distinct : (table.map (·.1)).Nodup) {declarations : List (NamespaceDeclaration κ)}
    (expressible : ∀ declaration ∈ declarations, declaration.IsExpressible table) :
    ∃ again,
      (declarations.map .explicit).mapM (NamespaceDeclaration.toData table ownName) = .ok again ∧
      (declarations.map .described).mapM (NamespaceDeclaration.toData table ownName) =
        .ok again := by
  have described : ∀ declaration ∈ declarations.map NamespaceDeclaration.described,
      declaration.IsExpressible table := by
    intro declaration member
    obtain ⟨original, isOriginal, rfl⟩ := List.mem_map.mp member
    exact (expressible original isOriginal).described
  obtain ⟨again, isAgain, -⟩ := exists_reads_all fun declaration member =>
    NamespaceDeclaration.exists_reads ownName distinct (described declaration member)
  have same : (declarations.map .explicit).mapM (NamespaceDeclaration.toData table ownName) =
      (declarations.map .described).mapM (NamespaceDeclaration.toData table ownName) := by
    rw [List.mapM_map, List.mapM_map]
    exact congrArg (List.mapM · declarations)
      (funext fun declaration => declaration.toData_explicit)
  exact ⟨again, same.trans isAgain, isAgain⟩

end Data

section Survival

variable [DecidableEq κ]

/-- Declarations survive being written as data, and as a document if loading undoes writing. -/
theorem declarations_survive (table : CallbackTable (Callback κ))
    (ownName : Callback κ → Option String) (distinct : (table.map (·.1)).Nodup)
    (declarations : List (NamespaceDeclaration (Callback κ)))
    (expressible : ∀ declaration ∈ declarations, declaration.IsExpressible table) :
    ∃ items decoded, declarations.mapM (NamespaceDeclaration.toData table ownName) = .ok items ∧
      ((items.map Datum.ofData).mapM (NamespaceDeclaration.ofDatum table)).finish =
        (.ok decoded, []) ∧
      (∃ again, decoded.mapM (NamespaceDeclaration.toData table ownName) = .ok again ∧
        (declarations.map .described).mapM (NamespaceDeclaration.toData table ownName) =
          .ok again) ∧
      (∀ console, (createAll decoded).EndsLike (createAll declarations) console console) ∧
      ∃ text, toYaml table ownName declarations = .ok text ∧
        (Yaml.restores (.record [("namespaces", .list items)]) = true →
          (ofYaml table text).finish = (.ok decoded, [])) := by
  obtain ⟨items, written, reads⟩ := exists_reads_all fun declaration member =>
    NamespaceDeclaration.exists_reads ownName distinct (expressible declaration member)
  -- What is read is each declaration with all that it had left out.
  refine ⟨items, declarations.map .explicit, written, ?_, ?_, ?_, ?_⟩
  · rw [mapM_ofData reads]
    rfl
  · exact exists_written_explicit ownName distinct expressible
  · intro console
    apply createAll_explicit
    exact ⟨rfl, rfl, rfl, rfl⟩
  · have text : toYaml table ownName declarations =
        .ok (Yaml.write (.record [("namespaces", .list items)])) := by
      rw [toYaml, written]
      rfl
    refine ⟨_, text, fun restores => ?_⟩
    rw [ofYaml_of_restores reads restores]
    rfl

def namedTwice : CallbackTable (Callback Unit) :=
  [("f", .host ()), ("g", .host ())]

def terse : NamespaceDeclaration (Callback Unit) :=
  ⟨.text "N", [⟨.text "c", some (.host ()), .text ""⟩],
    [⟨.text "v", .integer, .plain .null, some (.host ()), .null⟩]⟩

def terseData : Data :=
  .record [("name", .text "N"),
    ("commands", .list [.record [("name", .text "c"), ("func", .text "f"),
      ("description", .text "")]]),
    ("variables", .list [.record [("name", .text "v"), ("type", .text "integer"),
      ("default", .integer 0), ("description", .null), ("on_change", .text "f")]])]

theorem expressible_terse : terse.IsExpressible namedTwice := by
  have lists : namedTwice.Lists (some (.host ())) := by
    intro callback same
    cases same
    exact ⟨"f", List.mem_cons_self⟩
  refine ⟨rfl, fun command member => ?_, fun setting member => ?_⟩
  · rw [List.mem_singleton.mp member]
    exact ⟨rfl, lists, rfl⟩
  · rw [List.mem_singleton.mp member]
    exact ⟨rfl, ⟨.integer 0, rfl⟩, lists, rfl⟩

/-- A terse namespace comes back from its data and from a document. -/
theorem terse_survives :
    ∃ decoded text,
      ([Datum.ofData terseData].mapM (NamespaceDeclaration.ofDatum namedTwice)).finish =
        (.ok decoded, []) ∧
      toYaml namedTwice (fun _ => none) [terse] = .ok text ∧
      (ofYaml namedTwice text).finish = (.ok decoded, []) ∧
      ∀ console, (createAll decoded).EndsLike (createAll [terse]) console console := by
  obtain ⟨items, decoded, written, read, -, created, text, dumped, reload⟩ :=
    declarations_survive namedTwice (fun _ => none) (by decide) [terse] fun declaration member =>
      List.mem_singleton.mp member ▸ expressible_terse
  have same : [terseData] = items := by
    have data : [terse].mapM (NamespaceDeclaration.toData namedTwice fun _ => none) =
        .ok [terseData] := rfl
    exact Except.ok.inj (data.symm.trans written)
  subst same
  have restores : Yaml.restores (.record [("namespaces", .list [terseData])]) = true := by
    decide +kernel
  exact ⟨decoded, text, read, dumped, reload restores, created⟩

end Survival

end CommandConsole
