import CommandConsole.Report
import CommandConsole.Proofs.Run.Resolving

set_option autoImplicit false

namespace CommandConsole

open CommandConsole.Action

variable {κ : Type}

namespace Report

section Index

variable {owners : List (String × List String)} {name : String} {spaces : List String}

/-- The namespaces under a name of an index; none where the name is not met. -/
def ownersOf (owners : List (String × List String)) (name : String) : List String :=
  ((owners.find? (·.1 == name)).map (·.2)).getD []

/-- Each name stands once in an index, and some namespace is under it. -/
structure IsIndex (owners : List (String × List String)) : Prop where
  distinct : (owners.map (·.1)).Nodup
  owned : ∀ entry ∈ owners, entry.2 ≠ []

theorem ownersOf_addOwner (owners : List (String × List String)) (known space name : String) :
    ownersOf (addOwner owners known space) name =
      if known = name then ownersOf owners name ++ [space] else ownersOf owners name := by
  induction owners with
  | nil => by_cases same : known = name <;> simp [addOwner, ownersOf, same]
  | cons entry rest ih =>
    obtain ⟨first, spaces⟩ := entry
    by_cases isKnown : first = known
    · subst isKnown
      by_cases same : first = name <;> simp [addOwner, ownersOf, same]
    · by_cases same : first = name
      · subst same
        simp [addOwner, ownersOf, isKnown, Ne.symm isKnown]
      · simp only [ownersOf] at ih
        simp [addOwner, ownersOf, isKnown, same, ih]

theorem names_addOwner (owners : List (String × List String)) (known space : String) :
    (addOwner owners known space).map (·.1) =
      if known ∈ owners.map (·.1) then owners.map (·.1) else owners.map (·.1) ++ [known] := by
  induction owners with
  | nil => rfl
  | cons entry rest ih =>
    obtain ⟨first, spaces⟩ := entry
    by_cases isKnown : first = known
    · simp [addOwner, isKnown]
    · have apart : (first == known) = false := by simpa using isKnown
      simp only [addOwner, apart, Bool.false_eq_true, if_false, List.map_cons, ih, List.mem_cons,
        Ne.symm isKnown, false_or]
      split <;> rfl

theorem IsIndex.addOwner (index : IsIndex owners) (known space : String) :
    IsIndex (addOwner owners known space) := by
  constructor
  · rw [names_addOwner]
    split
    · exact index.distinct
    · rename_i unknown
      rw [← List.concat_eq_append]
      exact index.distinct.concat unknown
  · obtain ⟨-, owned⟩ := index
    induction owners with
    | nil => simp [Report.addOwner]
    | cons entry rest ih =>
      obtain ⟨first, others⟩ := entry
      obtain ⟨some, rest'⟩ := List.forall_mem_cons.mp owned
      rw [Report.addOwner]
      split
      · exact List.forall_mem_cons.mpr ⟨by simp, rest'⟩
      · exact List.forall_mem_cons.mpr ⟨some, ih rest'⟩

/-- An entry of an index is a name with all that is under it. -/
theorem IsIndex.mem_iff (index : IsIndex owners) :
    (name, spaces) ∈ owners ↔ spaces ≠ [] ∧ ownersOf owners name = spaces := by
  constructor
  · intro member
    have found := find?_of_nodup Prod.fst index.distinct member
    refine ⟨index.owned _ member, ?_⟩
    simp only [ownersOf, found, Option.map_some, Option.getD_some]
  · rintro ⟨some, rfl⟩
    cases found : owners.find? (·.1 == name) with
    | none => simp [ownersOf, found] at some
    | some entry =>
      obtain rfl : entry.1 = name := by simpa using List.find?_some found
      rw [ownersOf, found]
      exact List.mem_of_find?_eq_some found

def ownedNames (table : List (Namespace κ)) : List (String × String) :=
  table.flatMap fun space => space.entries.map fun entry => (entry.name, space.name)

theorem owners_eq (table : List (Namespace κ)) :
    Report.owners table =
      (ownedNames table).foldl (fun owners owned => addOwner owners owned.1 owned.2) [] := by
  simp only [Report.owners, ownedNames, List.foldl_flatMap, List.foldl_map]

theorem isIndex_foldl (names : List (String × String)) (index : IsIndex owners) :
    IsIndex (names.foldl (fun owners owned => addOwner owners owned.1 owned.2) owners) := by
  induction names generalizing owners with
  | nil => exact index
  | cons owned rest ih => exact ih (index.addOwner _ _)

theorem ownersOf_foldl (names : List (String × String)) (owners : List (String × List String))
    (name : String) :
    ownersOf (names.foldl (fun owners owned => addOwner owners owned.1 owned.2) owners) name =
      ownersOf owners name ++ (names.filter (·.1 == name)).map (·.2) := by
  induction names generalizing owners with
  | nil => simp
  | cons owned rest ih =>
    rw [List.foldl_cons, ih, ownersOf_addOwner]
    by_cases same : owned.1 = name <;> simp [same]

theorem isIndex_owners (table : List (Namespace κ)) : IsIndex (Report.owners table) := by
  rw [owners_eq]
  exact isIndex_foldl _ ⟨List.nodup_nil, fun _ member => absurd member List.not_mem_nil⟩

/-- A namespace is met once under a name that one of its entries has, as names in it are unique. -/
theorem filter_ownedNames {space : Namespace κ} (sound : space.Sound) (name : String) :
    ((space.entries.map fun entry => (entry.name, space.name)).filter (·.1 == name)).map (·.2) =
      if space.has name then [space.name] else [] := by
  have names : ((space.entries.map fun entry => (entry.name, space.name)).filter
      (·.1 == name)).length = (space.entries.map Entry.name).count name := by
    rw [← List.countP_eq_length_filter, List.countP_map, List.count_eq_countP, List.countP_map]
    rfl
  have same : ((space.entries.map fun entry => (entry.name, space.name)).filter
      (·.1 == name)).map (·.2) = List.replicate ((space.entries.map Entry.name).count name)
        space.name := by
    rw [List.eq_replicate_iff, List.length_map, names]
    refine ⟨rfl, fun other member => ?_⟩
    obtain ⟨owned, inside, rfl⟩ := List.mem_map.mp member
    obtain ⟨entry, -, rfl⟩ := List.mem_map.mp (List.mem_filter.mp inside).1
    rfl
  rw [same, sound.distinct.count]
  have has : name ∈ space.entries.map Entry.name ↔ space.has name = true := by
    simp [Namespace.has]
  simp only [has]
  split <;> rfl

/-- Under a name there are the namespaces that have an entry of it, in the order of the table. -/
theorem ownersOf_owners {table : List (Namespace κ)} (sound : ∀ space ∈ table, space.Sound)
    (name : String) :
    ownersOf (Report.owners table) name = (table.filter (·.has name)).map Namespace.name := by
  have met : ownersOf (Report.owners table) name =
      ((ownedNames table).filter (·.1 == name)).map (·.2) := by
    rw [owners_eq, ownersOf_foldl]
    rfl
  rw [met, ownedNames, List.filter_flatMap, List.map_flatMap]
  clear met
  induction table with
  | nil => rfl
  | cons space rest ih =>
    obtain ⟨first, others⟩ := List.forall_mem_cons.mp sound
    rw [List.flatMap_cons, filter_ownedNames first, ih others, List.filter_cons]
    split <;> rfl

end Index

section Fields

variable {console : Console κ} {report : Report}

theorem foldl_warn (texts : List String) (report : Report) :
    texts.foldl warn report = { report with warnings := (texts.foldl warn report).warnings } := by
  induction texts generalizing report with
  | nil => rfl
  | cons text rest ih =>
    rw [List.foldl_cons, ih (report.warn text)]
    unfold warn
    split <;> rfl

/-- Every warning that is called for is given, be it once. -/
theorem mem_warnings_foldl (texts : List String) (report : Report) (text : String) :
    text ∈ (texts.foldl warn report).warnings ↔ text ∈ report.warnings ∨ text ∈ texts := by
  induction texts generalizing report with
  | nil => simp
  | cons first rest ih =>
    have once : text ∈ (report.warn first).warnings ↔ text ∈ report.warnings ∨ text = first := by
      unfold warn
      split
      · rename_i given
        have inside : first ∈ report.warnings := by simpa using given
        exact ⟨.inl, fun either => either.elim id fun same => same ▸ inside⟩
      · simp
    rw [List.foldl_cons, ih, once, List.mem_cons, or_assoc]

@[simp] theorem settingCount_of (console : Console κ) : (of console).settingCount =
    (console.registry.table.flatMap (·.settings)).length := by
  rw [of, foldl_warn]

@[simp] theorem modified_of (console : Console κ) : (of console).modified =
    console.registry.table.flatMap fun space =>
      (space.settings.filter (·.isModified)).map fun setting =>
        qualify space.name setting.name := by
  rw [of, foldl_warn]

@[simp] theorem detached_of (console : Console κ) : (of console).detached =
    (console.registry.table.filter fun space => !space.isAttached).map (·.name) := by
  rw [of, foldl_warn]

@[simp] theorem shadowed_of (console : Console κ) : (of console).shadowed =
    (Report.owners console.registry.table).filter fun entry => 1 < entry.2.length := by
  rw [of, foldl_warn]

@[simp] theorem collisions_of (console : Console κ) : (of console).collisions =
    (Report.owners console.registry.table).filter fun entry =>
      console.registry.table.any (·.name == entry.1) := by
  rw [of, foldl_warn]

@[simp] theorem pending_of (console : Console κ) : (of console).pending =
    (console.registry.table.filter fun space => !space.pending.isEmpty).map fun space =>
      (space.name, space.pending.length) := by
  rw [of, foldl_warn]

theorem of?_eq_ok : of? console = .ok report ↔
    (∀ space ∈ console.registry.table, space.nameless = []) ∧ of console = report := by
  have named : console.registry.table.all (·.nameless.isEmpty) = true ↔
      ∀ space ∈ console.registry.table, space.nameless = [] := by
    simp
  rw [of?]
  split
  · rename_i all
    rw [Except.ok.injEq]
    exact ⟨fun same => ⟨named.mp all, same⟩, fun both => both.2⟩
  · rename_i unnamed
    exact ⟨fun same => (by cases same), fun both => absurd (named.mpr both.1) unnamed⟩

theorem mem_owners (sound : console.registry.Sound) {name : String} {spaces : List String} :
    (name, spaces) ∈ Report.owners console.registry.table ↔
      console.registry.holders name ≠ [] ∧
        spaces = (console.registry.holders name).map Namespace.name := by
  rw [(isIndex_owners _).mem_iff, ownersOf_owners fun space => sound.of_table]
  constructor
  · rintro ⟨some, rfl⟩
    exact ⟨fun none => some (List.map_eq_nil_iff.mpr none), rfl⟩
  · rintro ⟨some, rfl⟩
    exact ⟨fun none => some (List.map_eq_nil_iff.mp none), rfl⟩

theorem mem_shadowed (sound : console.registry.Sound) {name : String} {spaces : List String} :
    (name, spaces) ∈ (of console).shadowed ↔ 2 ≤ (console.registry.holders name).length ∧
      spaces = (console.registry.holders name).map Namespace.name := by
  rw [shadowed_of, List.mem_filter, mem_owners sound, decide_eq_true_eq]
  constructor
  · rintro ⟨⟨-, rfl⟩, several⟩
    rw [List.length_map] at several
    exact ⟨several, rfl⟩
  · rintro ⟨several, rfl⟩
    rw [List.length_map]
    have some : console.registry.holders name ≠ [] := List.ne_nil_of_length_pos (by omega)
    exact ⟨⟨some, rfl⟩, several⟩

theorem mem_collisions (sound : console.registry.Sound) {name : String} {spaces : List String} :
    (name, spaces) ∈ (of console).collisions ↔
      (∃ space ∈ console.registry.table, space.name = name) ∧
        console.registry.holders name ≠ [] ∧
          spaces = (console.registry.holders name).map Namespace.name := by
  rw [collisions_of, List.mem_filter, mem_owners sound, and_comm]
  simp only [List.any_eq_true, beq_iff_eq]

end Fields

/-- What the tables of a report tell of a name without a dot, against what a console makes of it. -/
structure Tells (report : Report) (console : Console κ) (token : String) : Prop where
  shadowed : ∀ spaces, (token, spaces) ∈ report.shadowed ↔
    console.registry.lookup token = .error (.ambiguous token spaces)
  collision : ∀ spaces, (token, spaces) ∈ report.collisions ↔
    (∃ space, resolve token console =
        .ok (.listing space) (console.tell (.wrote space.listing))) ∧
      console.registry.holders token ≠ [] ∧
      spaces = (console.registry.holders token).map Namespace.name
  untold : (∀ spaces, (token, spaces) ∉ report.shadowed) →
    (∀ spaces, (token, spaces) ∉ report.collisions) →
      (∃ space entry, console.registry.holders token = [space] ∧ entry ∈ space.entries ∧
        entry.name = token ∧ resolve token console = .ok (.entry space entry) console) ∨
      (∃ space, console.registry.holders token = [] ∧ space.name = token ∧
        resolve token console = .ok (.listing space) (console.tell (.wrote space.listing))) ∨
      resolve token console = .error (.console (.notFound token)) console

section Tokens

variable {console : Console κ} {token : String}

/-- In a sound table whose objects have names, a token is listed if it is the name of a
namespace. -/
theorem listed_iff (sound : console.registry.Sound)
    (named : ∀ space ∈ console.registry.table, space.nameless = []) :
    (∃ space, resolve token console =
        .ok (.listing space) (console.tell (.wrote space.listing))) ↔
      ∃ space ∈ console.registry.table, space.name = token := by
  constructor
  · rintro ⟨space, listed⟩
    by_contra unnamed
    have stands := Registry.resolve_unnamed
      fun space present same => unnamed ⟨space, present, same⟩
    cases found : console.registry.lookup token with
    | error cause =>
      rw [found] at stands
      rw [resolve_of_error stands] at listed
      cases listed
    | ok owned =>
      rw [found] at stands
      rw [resolve_of_entry stands] at listed
      cases listed
  · rintro ⟨space, present, rfl⟩
    exact ⟨space, resolve_of_listing (sound.resolve_name present) (named space present)⟩

/-- A token that is no name of a namespace is its only holder's entry, or is not found, or has
several holders. -/
theorem resolve_unlisted (sound : console.registry.Sound) (dotless : '.' ∉ token.toList)
    (unnamed : ∀ space ∈ console.registry.table, space.name ≠ token) :
    (∃ space entry, console.registry.holders token = [space] ∧ entry ∈ space.entries ∧
        entry.name = token ∧ resolve token console = .ok (.entry space entry) console) ∨
      resolve token console = .error (.console (.notFound token)) console ∨
      2 ≤ (console.registry.holders token).length := by
  have looksUp := (sound.looksUp token).bare dotless
  have stands := Registry.resolve_unnamed unnamed
  match holders : console.registry.holders token with
  | [] =>
    rw [looksUp.notFound.mpr holders] at stands
    exact .inr (.inl (resolve_of_error stands))
  | [space] =>
    have member : space ∈ console.registry.holders token := by
      rw [holders]
      exact List.mem_cons_self
    obtain ⟨entry, inside, isName⟩ := List.any_eq_true.mp (List.mem_filter.mp member).2
    have isName : entry.name = token := by simpa using isName
    rw [(looksUp.found space entry).mpr ⟨holders, inside, isName⟩] at stands
    exact .inl ⟨space, entry, rfl, inside, isName, resolve_of_entry stands⟩
  | _ :: _ :: rest =>
    exact .inr (.inr (by simp))

/-- The tables of a report tell of every name without a dot what it comes to. -/
theorem tells_of (sound : console.registry.Sound)
    (named : ∀ space ∈ console.registry.table, space.nameless = [])
    (dotless : '.' ∉ token.toList) : (of console).Tells console token where
  shadowed spaces := by
    rw [mem_shadowed sound, ((sound.looksUp token).bare dotless).ambiguous]
  collision spaces := by
    rw [mem_collisions sound, listed_iff sound named]
  untold unshadowed unhidden := by
    by_cases listed : ∃ space ∈ console.registry.table, space.name = token
    · obtain ⟨space, present, rfl⟩ := listed
      have none : console.registry.holders space.name = [] := by
        by_contra some
        exact unhidden _ ((mem_collisions sound).mpr ⟨⟨space, present, rfl⟩, some, rfl⟩)
      exact .inr (.inl ⟨space, none, rfl,
        resolve_of_listing (sound.resolve_name present) (named space present)⟩)
    · rcases resolve_unlisted sound dotless
        fun space present same => listed ⟨space, present, same⟩ with only | failed | several
      · exact .inl only
      · exact .inr (.inr failed)
      · exact absurd ((mem_shadowed sound).mpr ⟨several, rfl⟩) (unshadowed _)

end Tokens

/-- There is a report of a console as long as objects have texts for names. -/
theorem of?_of_tabled {config : Config} {console : Console κ}
    (tabled : Tabled config console.registry console.trace) (texts : Named console.trace) :
    of? console = .ok (of console) := by
  have named : ∀ space ∈ console.registry.table, space.nameless = [] := fun space present =>
    tabled.named texts space (Registry.mem_table.mp present).1
  exact of?_eq_ok.mpr ⟨named, rfl⟩

end Report

/-- Whatever has been done to a console and whatever its callbacks do, also in the middle of an
operation: there is a report as long as objects have texts for names, and its tables tell of every
name without a dot, each name at most once in a table, what it is looked up to and what it stands
for. -/
theorem names_told {console : Console κ} (reachable : console.Reachable) {now : Console κ}
    (moment : (now.registry, now.trace) ∈ console.moments) :
    (Named now.trace → ∃ report, Report.of? now = .ok report) ∧
    ∀ report, Report.of? now = .ok report →
      (report.shadowed.map (·.1)).Nodup ∧ (report.collisions.map (·.1)).Nodup ∧
      ∀ token : String, '.' ∉ token.toList → report.Tells now token := by
  have tabled := reachable.tabled _ moment
  refine ⟨fun texts => ⟨_, Report.of?_of_tabled tabled texts⟩, fun report made => ?_⟩
  obtain ⟨named, rfl⟩ := Report.of?_eq_ok.mp made
  have distinct := (Report.isIndex_owners now.registry.table).distinct
  refine ⟨?_, ?_, fun token dotless => Report.tells_of tabled.sound named dotless⟩
  · rw [Report.shadowed_of]
    exact distinct.sublist (List.filter_sublist.map _)
  · rw [Report.collisions_of]
    exact distinct.sublist (List.filter_sublist.map _)

/-- A report tells of a name with two owners and of one that is hidden by a namespace. -/
theorem overlapping_told :
    ∃ report, Report.of? overlapping = .ok report ∧ report.shadowed = [("x", ["A", "B"])] ∧
      report.collisions = [("B", ["A"])] ∧
      ∀ token ∈ ["A", "B", "x", "y", "z"], report.Tells overlapping token := by
  have reachable : overlapping.Reachable :=
    (Console.Reachable.empty .standard .empty).actAll _ 3 _
  have moment : (overlapping.registry, overlapping.trace) ∈ overlapping.moments :=
    List.mem_cons_self
  obtain ⟨made, told⟩ := names_told reachable moment
  obtain ⟨report, isReport⟩ := made (by decide +kernel)
  obtain ⟨-, -, tells⟩ := told report isReport
  obtain ⟨-, rfl⟩ := Report.of?_eq_ok.mp isReport
  refine ⟨_, isReport, by decide +kernel, by decide +kernel, fun token member => tells token ?_⟩
  revert token
  decide +kernel

end CommandConsole
