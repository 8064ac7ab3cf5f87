import CommandConsole.Proofs.Declaration.RoundTrip

set_option autoImplicit false

/-!
What becomes of a callback that is written by a name and looked up again. A table names the
callbacks that it holds; any other callback is written by its own name, which may be an entry of
another one. Main statement: a declaration that is read from its data has the callback that it had
if the table holds it, and otherwise what the table has under the callback's own name
(`callbacks_reread`).
-/
namespace CommandConsole

open Declaration

variable {κ : Type}

namespace Graph

mutual

theorem extends_add (graph : Graph) : (data : Data) → graph.Extends (graph.add data).1
  | .list items => by
    rw [add]
    exact (extends_addAll graph items).push _
  | .tuple items => by
    rw [add]
    exact (extends_addAll graph items).push _
  | .set items => by
    rw [add]
    exact (extends_addAll graph items).push _
  | .mapping pairs => by
    rw [add]
    exact (extends_addPairs graph pairs).push _
  | .marked _ content => by
    rw [add]
    exact extends_add graph content
  | .null | .boolean _ | .integer _ | .real _ | .text _ | .bytes _ | .date _ | .moment _ _
  | .again _ _ => (Extends.refl graph).push _

theorem extends_addAll (graph : Graph) :
    (items : List Data) → graph.Extends (graph.addAll items).1
  | [] => Extends.refl graph
  | item :: rest => by
    rw [addAll]
    exact (extends_add graph item).trans (extends_addAll _ rest)

theorem extends_addPairs (graph : Graph) :
    (pairs : List (Data × Data)) → graph.Extends (graph.addPairs pairs).1
  | [] => Extends.refl graph
  | (key, item) :: rest => by
    rw [addPairs]
    exact ((extends_add graph key).trans (extends_add _ item)).trans (extends_addPairs _ rest)

end

/-- The fields of a record are added one after the other; their names and what is an atom are shown
where they have been added. -/
theorem shows_addPairs (graph : Graph) (fields : List (String × Data)) :
    List.Forall₂ (fun field places =>
        (graph.addPairs (fields.map fun field => (.text field.1, field.2))).1.shows
          (.text field.1) places.1 = true ∧
        (field.2.isAtom = true →
          (graph.addPairs (fields.map fun field => (.text field.1, field.2))).1.shows
            field.2 places.2 = true))
      fields (graph.addPairs (fields.map fun field => (.text field.1, field.2))).2 := by
  induction fields generalizing graph with
  | nil => exact .nil
  | cons field rest ih =>
    obtain ⟨name, data⟩ := field
    rw [List.map_cons, addPairs]
    have key := adds_add (.atom rfl : Data.IsTree (.text name)) graph
    have later := extends_addPairs ((graph.add (.text name)).1.add data).1
      (rest.map fun field => (.text field.1, field.2))
    refine .cons ⟨?_, fun isAtom => ?_⟩ (ih _)
    · exact ((extends_add _ data).trans later).shows (.atom rfl) key.2
    · exact later.shows (.atom isAtom) (adds_add (.atom isAtom) _).2

end Graph

theorem Datum.holds_ofData (fields : List (String × Data)) :
    (Datum.ofData (.record fields)).Holds fields := by
  let added := Graph.addPairs #[] (fields.map fun field => (.text field.1, field.2))
  have all := Graph.shows_addPairs #[] fields
  have wider := (Graph.Extends.refl added.1).push (.mapping added.2)
  have made : Datum.ofData (.record fields) =
      ⟨added.1.push (.mapping added.2), added.1.size⟩ := by
    rw [Datum.ofData, Data.record, Graph.add]
  have cell : (Datum.ofData (.record fields)).cell = .mapping added.2 := by
    rw [made]
    exact Graph.cell_of_stands (Graph.shows_push _)
  refine ⟨_, by rw [Datum.pairs?, cell], by rw [Datum.elements?, cell, List.map_map]; rfl, ?_⟩
  rw [made, List.forall₂_map_right_iff]
  refine all.imp fun field places shown => ⟨wider.shows (.atom rfl) shown.1, fun isAtom => ?_⟩
  exact wider.shows (.atom isAtom) (shown.2 isAtom)

section Tables

variable {table : CallbackTable κ} {ownName : κ → Option String}

def CallbackTable.IsHeld (table : CallbackTable κ) (callback : κ) : Prop :=
  ∃ entry ∈ table, entry.2 = callback

/-- What is found when the name of a callback is looked up in the table that it was named by: the
callback that it was if the table holds it, and otherwise what the table has under its own name. -/
structure CallbackTable.Rereads (table : CallbackTable κ) (ownName : κ → Option String)
    (callback : Option κ) (found : Except Fault (Option κ)) : Prop where
  nothing : callback = none → found = .ok none
  held : ∀ present, callback = some present → table.IsHeld present → found = .ok (some present)
  nameless : ∀ present, callback = some present → ¬ table.IsHeld present →
    ownName present = none → found = .ok none
  taken : ∀ present name other, callback = some present → ¬ table.IsHeld present →
    ownName present = some name → (name, other) ∈ table → found = .ok (some other)
  unknown : ∀ present name, callback = some present → ¬ table.IsHeld present →
    ownName present = some name → name ∉ table.map (·.1) →
      found = .error (.unknownCallback (.text name))
  same : found = .ok callback ↔ ∀ present, callback = some present → table.IsHeld present

theorem CallbackTable.get?_eq_none {name : String} (unknown : name ∉ table.map (·.1)) :
    table.get? name = none := by
  rw [get?, Option.map_eq_none_iff, List.find?_eq_none]
  intro entry member same
  exact unknown (List.mem_map.mpr ⟨entry, member, eq_of_beq same⟩)

variable [DecidableEq κ]

theorem CallbackTable.nameOf_unheld {present : κ} (unheld : ¬ table.IsHeld present) :
    table.nameOf ownName (some present) =
      match ownName present with
      | some name => .text name
      | none => .null := by
  have absent : table.find? (·.2 == present) = none := by
    rw [List.find?_eq_none]
    intro entry member same
    exact unheld ⟨entry, member, eq_of_beq same⟩
  cases named : ownName present <;> simp [nameOf, absent, named]

/-- A callback that is not held is looked up under its own name, if it has one. -/
theorem CallbackTable.resolve_unheld {present : κ} (unheld : ¬ table.IsHeld present) :
    table.resolve (table.nameOf ownName (some present)) =
      match ownName present with
      | none => .ok none
      | some name =>
        match table.get? name with
        | some other => .ok (some other)
        | none => .error (.unknownCallback (.text name)) := by
  rw [nameOf_unheld unheld]
  cases ownName present with
  | none => rfl
  | some name =>
    cases found : table.get? name <;> simp [resolve, found]

/-- A callback that is not held does not come back. -/
theorem CallbackTable.resolve_ne {present : κ} (unheld : ¬ table.IsHeld present) :
    table.resolve (table.nameOf ownName (some present)) ≠ .ok (some present) := by
  rw [resolve_unheld unheld]
  intro same
  split at same
  · cases same
  · rename_i name _
    cases found : table.get? name with
    | none => simp [found] at same
    | some other =>
      obtain ⟨entry, isEntry, rfl⟩ := Option.map_eq_some_iff.mp found
      simp only [found, Except.ok.injEq, Option.some.injEq] at same
      exact unheld ⟨entry, List.mem_of_find?_eq_some isEntry, same⟩

theorem CallbackTable.rereads (distinct : (table.map (·.1)).Nodup) (callback : Option κ) :
    table.Rereads ownName callback (table.resolve (table.nameOf ownName callback)) := by
  have same (held : ∀ present, callback = some present → table.IsHeld present) :
      table.resolve (table.nameOf ownName callback) = .ok callback := by
    apply resolve_nameOf distinct
    intro present isPresent
    obtain ⟨entry, member, rfl⟩ := held present isPresent
    exact ⟨entry.1, member⟩
  refine ⟨?_, ?_, ?_, ?_, ?_, fun found present isPresent => ?_, same⟩
  · rintro rfl
    rfl
  · rintro present rfl held
    exact same fun other isOther => Option.some.inj isOther ▸ held
  · rintro present rfl unheld unnamed
    simp only [resolve_unheld unheld, unnamed]
  · rintro present name other rfl unheld named member
    simp only [resolve_unheld unheld, named, get?_of_mem distinct member]
  · rintro present name rfl unheld named absent
    simp only [resolve_unheld unheld, named, get?_eq_none absent]
  · subst isPresent
    by_contra unheld
    exact resolve_ne unheld found

end Tables

section Reading

variable [DecidableEq κ] {table : CallbackTable κ} {ownName : κ → Option String}

/-- What is made of a computation is read as it ends, without warnings. -/
theorem finish_lift {α β : Type} (result : Except Fault α) (make : α → β) :
    ((liftM result : Reading α) >>= fun value => pure (make value)).finish =
      (result.map make, []) := by
  cases result <;> rfl

theorem CommandDeclaration.finish_toData (declaration : CommandDeclaration κ) :
    ∃ make : Option κ → CommandDeclaration κ, (∀ action, (make action).action = action) ∧
      (ofDatum table (Datum.ofData (declaration.toData table ownName))).finish =
        ((table.resolve (table.nameOf ownName declaration.action)).map make, []) := by
  have written : declaration.toData table ownName = .record [("name", declaration.name),
      ("func", table.nameOf ownName declaration.action),
      ("description", declaration.description)] := rfl
  have holds := Datum.holds_ofData [("name", declaration.name),
    ("func", table.nameOf ownName declaration.action), ("description", declaration.description)]
  obtain ⟨name, description, -, -, read⟩ :=
    @ofDatum_of_holds _ table _ _ _ _ holds (CallbackTable.isAtom_nameOf _)
  refine ⟨fun action => ⟨name, action, describedAs description⟩, fun action => rfl, ?_⟩
  rw [written, read]
  exact finish_lift _ _

/-- A setting whose default is a value is read from its data unless its callback is not found. -/
theorem SettingDeclaration.finish_toData {declaration : SettingDeclaration κ} {data : Data}
    (written : declaration.toData table ownName = .ok data) :
    ∃ make : Option κ → SettingDeclaration κ, (∀ onChange, (make onChange).onChange = onChange) ∧
      (ofDatum table (Datum.ofData data)).finish =
        ((table.resolve (table.nameOf ownName declaration.onChange)).map make, []) := by
  cases defined : declaration.defaultValue with
  | error cause =>
    rw [toData, defined] at written
    cases written
  | ok value =>
    have record : declaration.toData table ownName = .ok (.record [("name", declaration.name),
        ("type", .text declaration.kind.name), ("default", value.data),
        ("description", declaration.description),
        ("on_change", table.nameOf ownName declaration.onChange)]) := by
      rw [toData, defined]
      rfl
    have holds := Datum.holds_ofData [("name", declaration.name),
      ("type", .text declaration.kind.name), ("default", value.data),
      ("description", declaration.description),
      ("on_change", table.nameOf ownName declaration.onChange)]
    rw [← kind_of_defaultValue defined] at holds record
    obtain ⟨name, description, -, -, read⟩ :=
      @ofDatum_of_holds _ table _ _ _ _ _ holds (CallbackTable.isAtom_nameOf _)
    refine ⟨fun onChange => ⟨name, value.kind, .plain value.data, onChange, description⟩,
      fun onChange => rfl, ?_⟩
    rw [Except.ok.inj (written.symm.trans record), read]
    exact finish_lift _ _

/-- A declaration that is written as data and read again with the same table has the callback that
it had exactly if it had none or the table holds it. Any other callback is written by its own name,
and what the table has under that name takes its place. -/
theorem callbacks_reread (table : CallbackTable κ) (ownName : κ → Option String)
    (distinct : (table.map (·.1)).Nodup) :
    (∀ declaration : CommandDeclaration κ, ∃ outcome,
      (CommandDeclaration.ofDatum table
        (Datum.ofData (declaration.toData table ownName))).finish = (outcome, []) ∧
      table.Rereads ownName declaration.action (outcome.map (·.action))) ∧
    ∀ (declaration : SettingDeclaration κ) (data : Data),
      declaration.toData table ownName = .ok data → ∃ outcome,
        (SettingDeclaration.ofDatum table (Datum.ofData data)).finish = (outcome, []) ∧
        table.Rereads ownName declaration.onChange (outcome.map (·.onChange)) := by
  have unchanged {α : Type} {make : Option κ → α} {pick : α → Option κ}
      (picks : ∀ callback, pick (make callback) = callback) (found : Except Fault (Option κ)) :
      (found.map make).map pick = found := by
    cases found with
    | error fault => rfl
    | ok callback => exact congrArg Except.ok (picks callback)
  refine ⟨fun declaration => ?_, fun declaration data written => ?_⟩
  · obtain ⟨make, picks, read⟩ := declaration.finish_toData
    refine ⟨_, read, ?_⟩
    rw [unchanged picks]
    exact CallbackTable.rereads distinct _
  · obtain ⟨make, picks, read⟩ := SettingDeclaration.finish_toData written
    refine ⟨_, read, ?_⟩
    rw [unchanged picks]
    exact CallbackTable.rereads distinct _

theorem namedTwice_reread : ∃ outcome,
    (CommandDeclaration.ofDatum namedTwice (Datum.ofData
      (CommandDeclaration.toData namedTwice (fun _ => none)
        ⟨.text "c", some (.host ()), .null⟩))).finish = (outcome, []) ∧
      outcome.map (·.action) = .ok (some (.host ())) := by
  obtain ⟨commands, -⟩ := callbacks_reread namedTwice (fun _ => none) (by decide)
  obtain ⟨outcome, read, rereads⟩ := commands ⟨.text "c", some (.host ()), .null⟩
  exact ⟨outcome, read, rereads.held _ rfl ⟨("f", .host ()), List.mem_cons_self, rfl⟩⟩

/-- A table where a callback has the name that another one has for its own. -/
def homonyms : CallbackTable (Callback Bool) :=
  [("f", .host true)]

def homonymous : CommandDeclaration (Callback Bool) :=
  ⟨.text "c", some (.host false), .text "help"⟩

/-- Another callback takes the place of the one that was declared. -/
theorem homonymous_rebound : ∃ decoded,
    (CommandDeclaration.ofDatum homonyms
      (Datum.ofData (homonymous.toData homonyms fun _ => some "f"))).finish = (.ok decoded, []) ∧
      decoded.action = some (.host true) ∧ decoded.action ≠ homonymous.action := by
  obtain ⟨make, picks, read⟩ :=
    @CommandDeclaration.finish_toData _ _ homonyms (fun _ => some "f") homonymous
  have found : homonyms.resolve (homonyms.nameOf (fun _ => some "f") homonymous.action) =
      .ok (some (.host true)) := rfl
  rw [found] at read
  refine ⟨make (some (.host true)), read, picks _, ?_⟩
  rw [picks]
  decide

end Reading

end CommandConsole
