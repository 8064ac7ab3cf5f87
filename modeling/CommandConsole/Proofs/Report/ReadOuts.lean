import CommandConsole.Proofs.Registry.Objects
import CommandConsole.Proofs.Report.Owners
import CommandConsole.Proofs.Save.Counterpart
import CommandConsole.Snapshot

set_option autoImplicit false

/-!
The three read-outs of a console: its save file, its report and its snapshot. A snapshot is read by
the names of its fields alone, and nothing of the table is lost in it (`Snapshot.read?_of`). Main
statement: the read-outs tell the same of every namespace and every setting (`readOuts_agree`).
-/
namespace CommandConsole

variable {κ : Type}

namespace Snapshot

/-- What a snapshot tells of a setting. -/
structure SettingState where
  name : String
  kind : String
  default : Data
  current : Data
  isModified : Bool

/-- What a snapshot tells of a namespace. -/
structure SpaceState where
  name : String
  isAttached : Bool
  pending : Int
  settings : List SettingState

def member? : Data × Data → Option (String × Data)
  | (.text name, item) => some (name, item)
  | _ => none

def members? : Data → Option (List (String × Data))
  | .mapping pairs => pairs.mapM member?
  | _ => none

def field? (name : String) : Data → Option Data
  | .mapping pairs => Data.lookup? name pairs
  | _ => none

def readSetting? (entry : String × Data) : Option SettingState :=
  match field? "type" entry.2, field? "default" entry.2, field? "current" entry.2,
    field? "modified" entry.2 with
  | some (.text kind), some default, some current, some (.boolean isModified) =>
    some ⟨entry.1, kind, default, current, isModified⟩
  | _, _, _, _ => none

def readSpace? (entry : String × Data) : Option SpaceState :=
  match field? "attached" entry.2, field? "pending" entry.2, field? "variables" entry.2 with
  | some (.boolean isAttached), some (.integer pending), some settings => do
    let settings ← (← members? settings).mapM readSetting?
    return ⟨entry.1, isAttached, pending, settings⟩
  | _, _, _ => none

/-- What a snapshot tells, namespace by namespace, read off its data. -/
def read? (snapshot : Data) : Option (List SpaceState) := do
  (← members? snapshot).mapM readSpace?

def SettingState.of (setting : Setting κ) : SettingState :=
  ⟨setting.name, setting.kind.name, setting.default.data, setting.current.data, setting.isModified⟩

def SpaceState.of (space : Namespace κ) : SpaceState :=
  ⟨space.name, space.isAttached, space.pending.length, space.settings.map .of⟩

section Reading

variable {α β γ : Type}

theorem insertPair_new {name : String} {pairs : List (Data × Data)}
    (new : ∀ pair ∈ pairs, Data.sameKey pair.1 (.text name) = false) (item : Data) :
    Data.insertPair (.text name) item pairs = pairs ++ [(.text name, item)] := by
  induction pairs with
  | nil => rfl
  | cons pair rest ih =>
    obtain ⟨first, others⟩ := List.forall_mem_cons.mp new
    obtain ⟨key, old⟩ := pair
    simp only at first
    rw [Data.insertPair, first, ih others]
    rfl

theorem foldl_insertPair (name : α → String) (item : α → Data) {items : List α}
    (distinct : (items.map name).Nodup) (front : List α)
    (new : ∀ known ∈ front, name known ∉ items.map name) :
    items.foldl (fun pairs next => Data.insertPair (.text (name next)) (item next) pairs)
        (front.map fun known => (.text (name known), item known)) =
      (front ++ items).map fun known => (.text (name known), item known) := by
  induction items generalizing front with
  | nil => rw [List.foldl_nil, List.append_nil]
  | cons first rest ih =>
    obtain ⟨unlike, others⟩ := List.nodup_cons.mp distinct
    have isNew : ∀ pair ∈ front.map fun known => (Data.text (name known), item known),
        Data.sameKey pair.1 (.text (name first)) = false := by
      intro pair member
      obtain ⟨known, inside, rfl⟩ := List.mem_map.mp member
      have apart : name known ≠ name first := fun same =>
        new known inside (same ▸ List.mem_cons_self)
      simpa [Data.sameKey] using apart
    have next := ih others (front ++ [first]) fun known member => by
      rcases List.mem_append.mp member with inside | isFirst
      · exact fun again => new known inside (List.mem_cons_of_mem _ again)
      · exact List.mem_singleton.mp isFirst ▸ unlike
    rw [List.append_assoc, List.singleton_append] at next
    rw [List.foldl_cons, insertPair_new isNew, ← next, List.map_append, List.map_singleton]

theorem mapM_map {write : α → β} {read : β → Option γ} {told : α → γ} {items : List α}
    (reads : ∀ item ∈ items, read (write item) = some (told item)) :
    (items.map write).mapM read = some (items.map told) := by
  induction items with
  | nil => rfl
  | cons item rest ih =>
    obtain ⟨first, others⟩ := List.forall_mem_cons.mp reads
    simp [first, ih others]

theorem members?_map (name : α → String) (item : α → Data) (items : List α) :
    members? (.mapping (items.map fun next => (.text (name next), item next))) =
      some (items.map fun next => (name next, item next)) := by
  rw [members?]
  exact mapM_map fun next _ => rfl

end Reading

theorem readSetting?_ofSetting (setting : Setting κ) :
    readSetting? (setting.name, ofSetting setting) = some (.of setting) := rfl

theorem ofSpace_eq {space : Namespace κ} (sound : space.Sound) :
    ofSpace space = .mapping [(.text "attached", .boolean space.isAttached),
      (.text "pending", .integer space.pending.length),
      (.text "variables",
        .mapping (space.settings.map fun setting => (.text setting.name, ofSetting setting)))] := by
  have distinct : (space.settings.map Setting.name).Nodup :=
    List.pairwise_map.mpr (Registry.pairwise_settings sound)
  have kept := foldl_insertPair Setting.name ofSetting distinct [] (by simp)
  rw [ofSpace]
  exact congrArg (fun pairs => Data.mapping [_, _, (.text "variables", .mapping pairs)]) kept

theorem of_eq {registry : Registry κ} (sound : registry.Sound) :
    of registry =
      .mapping (registry.table.map fun space => (.text space.name, ofSpace space)) :=
  congrArg Data.mapping (foldl_insertPair Namespace.name ofSpace sound.distinct [] (by simp))

theorem readSpace?_ofSpace {space : Namespace κ} (sound : space.Sound) :
    readSpace? (space.name, ofSpace space) = some (.of space) := by
  have settings : (space.settings.map fun setting => (setting.name, ofSetting setting)).mapM
      readSetting? = some (space.settings.map .of) :=
    mapM_map fun setting _ => readSetting?_ofSetting setting
  rw [readSpace?, ofSpace_eq sound]
  simp [field?, Data.lookup?, members?_map, settings, SpaceState.of]

/-- Nothing of the table is lost in a snapshot. -/
theorem read?_of {registry : Registry κ} (sound : registry.Sound) :
    read? (of registry) = some (registry.table.map .of) := by
  rw [read?, of_eq sound, members?_map]
  exact mapM_map fun space present => readSpace?_ofSpace (sound.of_table present)

theorem of?_eq_ok {registry : Registry κ} {snapshot : Data}
    (made : of? registry = .ok snapshot) : of registry = snapshot := by
  unfold of? at made
  simp only at made
  split at made
  · cases made
  · exact Except.ok.inj made

theorem of?_of_named {registry : Registry κ}
    (named : ∀ space ∈ registry.table, space.nameless = []) : of? registry = .ok (of registry) := by
  unfold of?
  simp only
  split
  · rename_i unnamed
    obtain ⟨space, present, found⟩ := List.any_eq_true.mp unnamed
    rw [named space present] at found
    cases found
  · rfl

def SettingState.IsOf (state : SettingState) (declared : SettingDeclaration (Callback κ)) : Prop :=
  declared.name = .text state.name ∧ state.kind = declared.kind.name ∧
    ∃ default, declared.defaultValue = .ok default ∧ state.default = default.data

/-- Whether a namespace is told as it was declared, with its settings in their order. -/
def SpaceState.IsOf (state : SpaceState) (declaration : NamespaceDeclaration (Callback κ)) : Prop :=
  declaration.name = .text state.name ∧
    List.Forall₂ SettingState.IsOf state.settings declaration.settings

/-- Whether a line saves a setting: behind the dotted name stands one word, which gives a setting of
the kind the value that is told. -/
def SettingState.IsSavedBy (space : String) (state : SettingState) (line : String) : Prop :=
  ∃ literal token kind value, line = qualify space state.name ++ " " ++ literal ∧
    Statement.tokenize literal = [token] ∧ Kind.name kind = state.kind ∧
    Value.parse kind token = .ok value ∧ value.data = state.current

def settings (states : List SpaceState) : List (String × SettingState) :=
  states.flatMap fun space => space.settings.map fun setting => (space.name, setting)

def modified (states : List SpaceState) : List (String × SettingState) :=
  (settings states).filter (·.2.isModified)

section Modified

variable {registry : Registry κ}

theorem settings_of (table : List (Namespace κ)) :
    settings (table.map .of) =
      table.flatMap fun space => space.settings.map fun setting => (space.name, .of setting) := by
  simp only [settings, List.flatMap_map, SpaceState.of, List.map_map, Function.comp_def]

theorem modified_of (registry : Registry κ) :
    modified (registry.table.map .of) =
      registry.modified.map fun saved => (saved.1.name, .of saved.2) := by
  simp only [modified, settings_of, Registry.modified, List.filter_flatMap, List.map_flatMap,
    List.filter_map, List.map_map]
  rfl

/-- The lines of a save file are those of the settings that are told to be modified. -/
theorem savedLines_modified (sound : registry.Sound) (writable : registry.isWritable) :
    List.Forall₂ (fun line saved => SettingState.IsSavedBy saved.1 saved.2 line)
      registry.savedLines (modified (registry.table.map .of)) := by
  rw [Registry.savedLines_eq, modified_of, List.forall₂_map_left_iff, List.forall₂_map_right_iff,
    List.forall₂_same]
  intro saved member
  obtain ⟨present, inside, -⟩ := Registry.mem_modified.mp member
  have kind := ((sound.of_table present).kinds _ inside).2
  have read := Value.parse_token saved.2.current (Registry.isWritable_of_mem writable member)
  refine ⟨_, _, saved.2.kind, saved.2.current, rfl, ?_, rfl, kind ▸ read, rfl⟩
  rw [Statement.tokenize, Value.tokenizeChars_literal, List.map_singleton, String.ofList_toList]

/-- A namespace is told as its declaration says, if all that it declares has names. -/
theorem SpaceState.isOf {space : Namespace κ}
    {declaration : NamespaceDeclaration (Callback κ)} (made : space.IsMadeBy declaration)
    (texts : declaration.names.all Data.isText) : (SpaceState.of space).IsOf declaration := by
  refine ⟨made.name, ?_⟩
  rw [SpaceState.of, List.forall₂_map_left_iff]
  refine (made.settings_declared texts).flip.imp fun setting declared isDeclared => ?_
  obtain ⟨name, isOf⟩ := isDeclared
  exact ⟨name, congrArg Kind.name isOf.kind, setting.default, isOf.default, rfl⟩

end Modified

end Snapshot

theorem created_of_mem_declarations {trace : List (Event κ)}
    {declaration : NamespaceDeclaration (Callback κ)} (member : declaration ∈ declarations trace) :
    ∃ serial, .created serial declaration ∈ trace := by
  induction trace with
  | nil => cases member
  | cons event earlier ih =>
    have before (inside : declaration ∈ declarations earlier) :
        ∃ serial, .created serial declaration ∈ event :: earlier := by
      obtain ⟨serial, created⟩ := ih inside
      exact ⟨serial, List.mem_cons_of_mem _ created⟩
    cases event with
    | created serial other =>
      rcases List.mem_append.mp member with inside | isOther
      · exact before inside
      · exact ⟨serial, List.mem_singleton.mp isOther ▸ List.mem_cons_self⟩
    | retired => cases member
    | _ => exact before member

/-- The read-outs of a console tell the same: what is read off a snapshot, the report and the lines
of the save file. -/
structure ReadOutsAgree (registry : Registry κ) (trace : List (Event κ))
    (states : List Snapshot.SpaceState) (report : Report) : Prop where
  entries : states = registry.table.map .of
  distinct : (states.map (·.name)).Nodup ∧
    ∀ state ∈ states, (state.settings.map (·.name)).Nodup
  declared : Named trace → List.Forall₂ Snapshot.SpaceState.IsOf states (declarations trace)
  total : report.settingCount = (Snapshot.settings states).length
  modified : report.modified =
    (Snapshot.modified states).map fun told => qualify told.1 told.2.name
  once : report.modified.Nodup
  lines : List.Forall₂ (fun line told => Snapshot.SettingState.IsSavedBy told.1 told.2 line)
    registry.savedLines (Snapshot.modified states)
  detached : report.detached = (states.filter fun state => !state.isAttached).map (·.name)
  pending : report.pending.map (fun waiting => (waiting.1, (waiting.2 : Int))) =
    (states.filter fun state => 0 < state.pending).map fun state => (state.name, state.pending)

theorem readOutsAgree_of {config : Config} {console : Console κ}
    (tabled : Tabled config console.registry console.trace)
    (writable : console.registry.isWritable) :
    ReadOutsAgree console.registry console.trace (console.registry.table.map .of)
      (Report.of console) where
  entries := rfl
  distinct := by
    refine ⟨by rw [List.map_map]; exact tabled.sound.distinct, fun state member => ?_⟩
    obtain ⟨space, present, rfl⟩ := List.mem_map.mp member
    rw [Snapshot.SpaceState.of, List.map_map]
    exact List.pairwise_map.mpr (Registry.pairwise_settings (tabled.sound.of_table present))
  declared texts := by
    have named : ∀ declaration ∈ declarations console.trace,
        declaration.names.all Data.isText = true := fun declaration member =>
      (created_of_mem_declarations member).elim fun _ created => texts _ created
    rw [List.forall₂_map_left_iff]
    refine List.Forall₂.flip ?_
    refine ((List.forall₂_and_left _ _).mpr ⟨named, tabled.declared.flip⟩).imp ?_
    exact fun declaration space both => Snapshot.SpaceState.isOf both.2 both.1
  total := by
    rw [Report.settingCount_of, Snapshot.settings_of, List.length_flatMap, List.length_flatMap]
    simp only [List.length_map]
  modified := by
    rw [Report.modified_of, Snapshot.modified_of, List.map_map, Registry.modified, List.map_flatMap]
    simp only [List.map_map, Function.comp_def, Snapshot.SettingState.of]
  once := by
    have same : (Report.of console).modified =
        console.registry.modified.map fun saved => qualify saved.1.name saved.2.name := by
      simp only [Report.modified_of, Registry.modified, List.map_flatMap, List.map_map,
        Function.comp_def]
    rw [same]
    exact List.pairwise_map.mpr tabled.sound.pairwise_modified
  lines := Snapshot.savedLines_modified tabled.sound writable
  detached := by
    rw [Report.detached_of, List.filter_map, List.map_map]
    rfl
  pending := by
    have waits (space : Namespace κ) : (!space.pending.isEmpty) =
        decide (0 < (Snapshot.SpaceState.of space).pending) := by
      rw [Bool.eq_iff_iff]
      simp [Snapshot.SpaceState.of, List.length_pos_iff]
    rw [Report.pending_of, List.filter_map, List.map_map, List.map_map,
      List.filter_congr fun space _ => waits space]
    rfl

/-- Whatever has been done to a console and whatever its callbacks do, also in the middle of an
operation: as long as objects have texts for names and no modified integer has too many digits,
there are a save file, a report and a snapshot, and they tell the same. -/
theorem readOuts_agree {console : Console κ} (reachable : console.Reachable) {now : Console κ}
    (moment : (now.registry, now.trace) ∈ console.moments)
    (writable : now.registry.isWritable = true) :
    (Named now.trace → ∃ snapshot report,
      Snapshot.of? now.registry = .ok snapshot ∧ Report.of? now = .ok report) ∧
    now.registry.dumps? = .ok (String.join (now.registry.savedLines.map (· ++ "\n"))) ∧
    ∀ snapshot report, Snapshot.of? now.registry = .ok snapshot → Report.of? now = .ok report →
      ∃ states, Snapshot.read? snapshot = some states ∧
        ReadOutsAgree now.registry now.trace states report := by
  have tabled := reachable.tabled _ moment
  refine ⟨fun texts => ?_, ?_, fun snapshot report taken made => ?_⟩
  · have isReport := Report.of?_of_tabled tabled texts
    have named := (Report.of?_eq_ok.mp isReport).1
    exact ⟨_, _, Snapshot.of?_of_named named, isReport⟩
  · rw [Registry.dumps?, if_pos writable]
    rfl
  · obtain rfl := Snapshot.of?_eq_ok taken
    obtain ⟨-, rfl⟩ := Report.of?_eq_ok.mp made
    exact ⟨_, Snapshot.read?_of tabled.sound, readOutsAgree_of tabled writable⟩

/-- A console with an attached namespace and a detached one, where three of four settings are
modified. -/
def surveyed : Console Unit :=
  (Console.empty .standard .empty).actAll idle 1
    [.create ⟨.text "A", [⟨.text "go", some (.host ()), .null⟩],
        [⟨.text "x", .integer, .plain .null, some (.host ()), .null⟩,
          ⟨.text "s", .text, .plain (.text "none"), none, .null⟩]⟩,
      .create ⟨.text "B", [], [⟨.text "x", .boolean, .plain .null, none, .null⟩,
        ⟨.text "y", .boolean, .plain .null, none, .null⟩]⟩,
      .attach 1 (some (.label "h")),
      .set (.token "A.x") (.plain (.integer (-5))),
      .set (.token "A.s") (.plain (.text "say \"hi\"")),
      .toggle (.token "B.y")]

/-- The three read-outs of one console. -/
theorem surveyed_agree : surveyed.registry.isWritable = true ∧
    ∃ snapshot report states, Snapshot.of? surveyed.registry = .ok snapshot ∧
      Report.of? surveyed = .ok report ∧ Snapshot.read? snapshot = some states ∧
      ReadOutsAgree surveyed.registry surveyed.trace states report ∧
      surveyed.registry.savedLines = ["A.x -5", "A.s \"say \\\"hi\\\"\"", "B.y 1"] ∧
      report.modified = ["A.x", "A.s", "B.y"] ∧ report.detached = ["A"] ∧
      report.pending = [("A", 2)] := by
  have writable : surveyed.registry.isWritable = true := by decide +kernel
  have reachable : surveyed.Reachable :=
    (Console.Reachable.empty .standard .empty).actAll idle 1 _
  have moment : (surveyed.registry, surveyed.trace) ∈ surveyed.moments := List.mem_cons_self
  obtain ⟨made, -, agree⟩ := readOuts_agree reachable moment writable
  obtain ⟨snapshot, report, isSnapshot, isReport⟩ := made (by decide +kernel)
  obtain ⟨states, areStates, agrees⟩ := agree snapshot report isSnapshot isReport
  obtain ⟨-, rfl⟩ := Report.of?_eq_ok.mp isReport
  exact ⟨writable, snapshot, _, states, isSnapshot, isReport, areStates, agrees,
    by decide +kernel, by decide +kernel, by decide +kernel, by decide +kernel⟩

end CommandConsole
